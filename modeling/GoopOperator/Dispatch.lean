import GoopOperator.Api.Request
import GoopOperator.DaemonSet.Observed
import GoopOperator.Reconcile

/-!
# The dispatch loop

The operator keeps the jobs that the cluster lists, and looks at a job when it appears or changes, when
a DaemonSet that it owns is touched, and when its last pass asked for that. Of each job one pass runs at
a time, and one more at most waits: the earliest that was asked for. Passes over different jobs run side
by side, and take turns where the store answers at once.

`Loop.step?` does the next thing that is due before a given time. What happens at one instant happens in
this order: what the cluster tells, the answers to calls, and new passes.
-/

namespace GoopOperator

/-- A job as the cluster refers to it. -/
structure JobRef where
  /-- The namespace, which the cluster may leave out. -/
  ns : Option String
  /-- The name. -/
  name : String
  deriving DecidableEq

/-- How the cluster refers to a job. -/
def Goop.ref (g : Goop) : JobRef := ⟨g.metadata.ns, g.name⟩

/-- The jobs that own a DaemonSet, in the namespace of the DaemonSet. -/
def ObservedDaemonSet.owners (r : ObservedDaemonSet) : List JobRef :=
  ((r.metadata.ownerReferences.getD []).filter fun o =>
    o.apiVersion = Goop.apiVersion ∧ o.kind = Goop.kind).map fun o => ⟨r.metadata.ns, o.name⟩

/-- What the cluster tells the operator. -/
inductive ClusterEvent where
  /-- A job is there, or has changed. -/
  | goopApplied (goop : Goop)
  /-- A job has gone. -/
  | goopDeleted (goop : Goop)
  /-- A DaemonSet is there, has changed or has gone. -/
  | daemonSetTouched (daemonSet : ObservedDaemonSet)

/-- The operator: where its passes run, what they do, and the delay after one that failed. -/
structure Operator (σ : Type) where
  /-- The surroundings of the passes. -/
  env : Surroundings (Observed σ)
  /-- The stages of the passes. -/
  chain : Chain
  /-- The settings. -/
  settings : Settings
  /-- The delay after a failed pass. -/
  errorDelay : Duration

/-- A pass that is under way. -/
structure Running (σ : Type) where
  /-- The job. -/
  ref : JobRef
  /-- When it is cut off. -/
  limits : Interruption
  /-- What it waits for. -/
  waiting : Waiting (Observed σ) (Pass Requeue)

/-- The state of the loop. -/
structure Loop (σ : Type) where
  /-- The time. -/
  now : Instant
  /-- The jobs that the cluster has. -/
  known : List (JobRef × Goop)
  /-- The passes that wait, with the times at which they are due, in the order of the requests. -/
  due : List (JobRef × Instant)
  /-- The passes that are under way, in the order in which they made their calls. -/
  running : List (Running σ)
  /-- What the cluster is going to tell, in the order of its times. -/
  events : List (Instant × ClusterEvent)
  /-- The store, and what was recorded beside it. -/
  world : Observed σ

namespace Loop

/-- The loop before the cluster has told anything, given what it is going to tell and when. -/
def start (events : List (Instant × ClusterEvent)) (world : Observed σ) : Loop σ :=
  ⟨0, [], [], [], events.mergeSort fun a b => a.1 ≤ b.1, world⟩

/-- Asks for a pass over a job at a time; an earlier request stands. -/
def schedule (l : Loop σ) (ref : JobRef) (t : Instant) : Loop σ :=
  -- a request for the very same time is taken anew, and so goes behind the others
  if l.due.any fun d => d.1 = ref ∧ d.2 < t then l
  else { l with due := (l.due.filter fun d => d.1 ≠ ref) ++ [(ref, t)] }

/-- Whether a pass over a job is under way. -/
def isRunning (l : Loop σ) (ref : JobRef) : Bool := l.running.any (·.ref = ref)

/-- Forgets a job. -/
def forget (l : Loop σ) (ref : JobRef) : Loop σ :=
  { l with known := l.known.filter fun k => k.1 ≠ ref }

/-- Keeps a job, in place of what was known of it. -/
def keep (l : Loop σ) (g : Goop) : Loop σ :=
  { l with known := (l.forget g.ref).known ++ [(g.ref, g)] }

/-- Hears what the cluster tells. -/
def hear (l : Loop σ) : ClusterEvent → Loop σ
  | .goopApplied g => (l.keep g).schedule g.ref l.now
  | .goopDeleted g => l.forget g.ref
  | .daemonSetTouched d => d.owners.foldl (fun l ref => l.schedule ref l.now) l

/-- Ends a pass over a job: it is counted if it had a key, and the next one is asked for. -/
def finish (op : Operator σ) (l : Loop σ) (ref : JobRef) (counted : Bool)
    (result : Except PassError Requeue) : Loop σ :=
  let l := if counted then { l with world := l.world.count (Metric.ofPass result) } else l
  match actionAfter op.errorDelay result with
  | .awaitChange => l
  | .requeue delay => l.schedule ref (l.now + delay)

/-- Goes on with a pass over a job up to its next call, or ends it. -/
def proceed (op : Operator σ) (l : Loop σ) (ref : JobRef) (limits : Interruption)
    (p : Pass Requeue) : Loop σ :=
  match op.env.advance limits l.now p l.world with
  | (.ended result, world) => { l with world }.finish op ref true result
  | (.waiting waiting, world) =>
    { l with world, running := l.running ++ [⟨ref, limits, waiting⟩] }

/-- Begins the pass over a job that was asked for, if the cluster has the job. -/
def begin (op : Operator σ) (l : Loop σ) (ref : JobRef) : Loop σ :=
  let l := { l with due := l.due.filter fun d => d.1 ≠ ref }
  match l.known.lookup ref with
  | none => l
  | some goop =>
    match goop.key with
    -- no pass has run, so nothing is counted, but the job is looked at again as after a failure
    | .error e => l.finish op ref false (.error (.ofKeyError e))
    | .ok key =>
      l.proceed op ref (op.settings.interruption none l.now) (reconcile op.chain ⟨key, op.settings⟩)

/-- Goes on with a pass whose call is answered. -/
def wake (op : Operator σ) (l : Loop σ) (r : Running σ) (others : List (Running σ)) : Loop σ :=
  let (p, world) := r.waiting.resume l.world
  { l with world, running := others }.proceed op r.ref r.limits p

/-- The first of some items of which `time` is the least, and the items without it. -/
def earliest? (time : α → Instant) : List α → Option (α × List α)
  | [] => none
  | x :: rest =>
    match earliest? time rest with
    -- of two items with the same time the first one wins
    | some (y, others) => if time y < time x then some (y, x :: others) else some (x, rest)
    | none => some (x, rest)

/-- The call that is answered first, and the other passes under way. -/
def nextAnswer? (l : Loop σ) : Option (Running σ × List (Running σ)) :=
  earliest? (fun r => r.waiting.wake) l.running

/-- The pass that is due first among those over jobs that have none under way. -/
def nextPass? (l : Loop σ) : Option (JobRef × Instant) :=
  (earliest? (fun d => d.2) (l.due.filter fun d => ¬ l.isRunning d.1)).map fun d => d.1

/-- The time of the next thing to do. -/
def nextTime? (l : Loop σ) : Option Instant :=
  ([l.events.head?.map fun e => e.1, l.nextAnswer?.map fun r => r.1.waiting.wake,
    l.nextPass?.map fun d => d.2].filterMap id).min?

/-- Hears what the cluster tells now, if it tells anything. -/
def hearNow? (l : Loop σ) : Option (Loop σ) :=
  match l.events with
  | [] => none
  | (t, e) :: rest => if t = l.now then some ({ l with events := rest }.hear e) else none

/-- Goes on with a pass whose call is answered now, if there is one. -/
def wakeNow? (op : Operator σ) (l : Loop σ) : Option (Loop σ) :=
  match l.nextAnswer? with
  | none => none
  | some (r, others) => if r.waiting.wake = l.now then some (l.wake op r others) else none

/-- Begins a pass that is due now, if there is one. -/
def beginNow? (op : Operator σ) (l : Loop σ) : Option (Loop σ) :=
  match l.nextPass? with
  | none => none
  | some (ref, t) => if t = l.now then some (l.begin op ref) else none

/-- Does what comes first of what is due now. -/
def act? (op : Operator σ) (l : Loop σ) : Option (Loop σ) :=
  l.hearNow? <|> l.wakeNow? op <|> l.beginNow? op

/-- Does the next thing that is due before `limit`, if there is one. -/
def step? (op : Operator σ) (limit : Instant) (l : Loop σ) : Option (Loop σ) :=
  match l.nextTime? with
  | none => none
  | some t => if t < limit then { l with now := t }.act? op else none

/-- Does up to `n` things that are due before `limit`. -/
def run (op : Operator σ) (limit : Instant) : Nat → Loop σ → Loop σ
  | 0, l => l
  | n + 1, l =>
    match l.step? op limit with
    | none => l
    | some l => run op limit n l

end Loop

end GoopOperator
