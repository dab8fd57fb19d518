import GoopOperator.Lifecycle
import GoopOperator.Pass.Observed

/-!
# Reconciling a job

One pass reads a job and runs a chain on it. What the pass answers, or why it fails, decides when the
operator looks at the job again (`Action`).
-/

namespace GoopOperator

/-- One pass over a job. A job that is not there needs nothing. -/
def reconcile (chain : Chain) (cx : Context) : Pass Requeue := do
  match ← cx.fetch.attempt with
  | .ok goop => chain.run cx goop
  | .error e => if e.isNotFound then pure .never else Pass.fail e

/-- What the operator does with a job after a pass. -/
inductive Action where
  /-- It waits until something happens to the job. -/
  | awaitChange
  /-- It looks at the job again after some time. -/
  | requeue (delay : Duration)
  deriving DecidableEq

/-- The action that a pass asks for. -/
def Requeue.action : Requeue → Action
  | .never => .awaitChange
  | .now => .requeue 0
  | .after delay => .requeue delay

/-- The action after a pass that failed: none after a cancelled one, at once after a conflict, which a
fresh read resolves, and after some time otherwise. -/
def PassError.action (errorDelay : Duration) (e : PassError) : Action :=
  if e = .cancelled then .awaitChange
  else if e.isConflict then .requeue 0
  else .requeue errorDelay

/-- The action after a pass. -/
def actionAfter (errorDelay : Duration) : Except PassError Requeue → Action
  | .ok requeue => requeue.action
  | .error e => e.action errorDelay

/-! ## Passes that are counted -/

/-- When a pass that starts at `start` is cut off: when it is cancelled, or when its time is up. The time
line goes on without end here. A clock that counts seconds in 63 bits has a last point, and no pass can
begin under a bound that reaches behind it. -/
def Settings.interruption (s : Settings) (cancelAt : Option Instant) (start : Instant) :
    Interruption :=
  ⟨cancelAt, s.passTimeout.map (start + ·)⟩

/-- Runs one pass over the job of a key from `start` on, and counts it. -/
def reconcileFrom (env : Surroundings (Observed σ)) (chain : Chain) (cx : Context)
    (cancelAt : Option Instant) (start : Instant) (o : Observed σ) :
    Except PassError Requeue × Instant × Observed σ :=
  let (r, now, o) := env.runPass (cx.settings.interruption cancelAt start) (reconcile chain cx) start o
  (r, now, o.count (Metric.ofPass r))

/-- Runs one pass over a job that is known as `goop`. Without a key there is no pass. -/
def dispatchFrom (env : Surroundings (Observed σ)) (chain : Chain) (settings : Settings) (goop : Goop)
    (cancelAt : Option Instant) (start : Instant) (o : Observed σ) :
    Except PassError Requeue × Instant × Observed σ :=
  match goop.key with
  | .error e => (.error (.ofKeyError e), start, o)
  | .ok key => reconcileFrom env chain ⟨key, settings⟩ cancelAt start o

end GoopOperator
