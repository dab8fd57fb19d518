import GoopOperator.Proofs.Api.Transport
import GoopOperator.Proofs.Lifecycle.Completion

/-!
# What completion means on a cluster

Over an API server a pass looks at a workload by reading its DaemonSet, and takes the answer from the
published status. So where it records completion, the DaemonSet that it has read last says so itself:
its counts are equal and belong to its current generation (`completion_is_sound`).

What a pass is answered is followed with the states in which the server was when it was asked
(`historyIn`). They need not follow from one another: between two requests of the pass anything may
happen to the server.
-/

namespace GoopOperator

/-! ## DaemonSets -/

/-- The published status of a DaemonSet says that it has run: on all nodes that should run it, it is
ready and available, and the status was published for a generation that is not older than the
DaemonSet's own, if that has one. -/
def ObservedDaemonSet.HasRun (d : ObservedDaemonSet) : Prop :=
  ∃ status seen, d.status = some status ∧ status.observedGeneration = some seen ∧
    (∀ current, d.metadata.generation = some current → current ≤ seen) ∧
    status.desired = status.ready ∧ status.desired = status.available.getD 0

/-- The workload of a DaemonSet has run everywhere exactly where the DaemonSet says so. -/
theorem ObservedDaemonSet.isComplete_workload (d : ObservedDaemonSet) :
    d.workload.isComplete = true ↔ d.HasRun := by
  unfold workload HasRun Rollout.isComplete
  cases hstatus : d.status with
  | none => simp [Rollout.unobserved]
  | some status =>
    cases hseen : status.observedGeneration with
    | none => simp [hseen]
    | some seen => cases d.metadata.generation <;> simp [hseen]

/-! ## Answers with the states in which they were given -/

/-- What surroundings answer to some requests, each in the state in which they were asked. -/
def historyIn (respond : (e : Effect) → σ → e.Answer × σ) (asked : List (Effect × σ)) : History :=
  asked.map fun x => ⟨x.1, (respond x.1 x.2).1⟩

/-- The workload that a pass has looked at last, and the state in which its surroundings were then. -/
def lastLookIn? : List (Effect × σ) → Option (ObjectKey × σ)
  | [] => none
  | (.call (.getWorkload k), s) :: _ => some (k, s)
  | _ :: asked => lastLookIn? asked

/-- The last look of a pass was answered in the state in which its surroundings were then. -/
theorem lastLook?_historyIn (respond : (e : Effect) → σ → e.Answer × σ)
    (asked : List (Effect × σ)) :
    lastLook? (historyIn respond asked) = (lastLookIn? asked).map fun x =>
      (x.1, (respond (.call (.getWorkload x.1)) x.2).1) := by
  induction asked with
  | nil => rfl
  | cons x asked ih =>
    obtain ⟨e, s⟩ := x
    cases e with
    | clock => exact ih
    | work task => exact ih
    | call c =>
      cases c with
      | getWorkload k => rfl
      | _ => exact ih

/-- A call that is answered with success has been completed by the surroundings, and not cut off. -/
theorem Surroundings.complete_of_respond {env : Surroundings σ} {i : Interruption} {c : StoreCall}
    {now : Instant} {s : σ} {a : c.Answer} (h : (env.respond i (.call c) (now, s)).1 = .ok a) :
    ((env.take c now s).1.complete (env.take c now s).2).1 = .ok a := by
  change ((env.await i c now s).1.resume (env.await i c now s).2).1 = .ok a at h
  unfold await at h
  cases hover : i.over? now with
  | some e =>
    rw [hover] at h
    cases h
  | none =>
    rw [hover] at h
    simp only at h
    cases hcut : i.cut? (now + (env.take c now s).1.delay) with
    | some cut =>
      rw [hcut] at h
      cases h
    | none =>
      rw [hcut] at h
      cases hcomplete : ((env.take c now s).1.complete (env.take c now s).2).1 with
      | error e =>
        simp only [hcomplete] at h
        cases h
      | ok b =>
        simp only [hcomplete] at h
        exact congrArg Except.ok (Except.ok.inj h)

namespace Api

open Pass Lifecycle

section reported

variable {σ : Type} {serve : Server σ} {pauseImage : String} {timeOfDay : Instant → Timestamp}
  {i : Interruption} {k : ObjectKey} {now : Instant} {o : Observed σ}

/-- The DaemonSet that a server sends when it is asked for the one of a key. -/
def reported? (serve : Server σ) (k : ObjectKey) (now : Instant) (s : σ) : Option ObservedDaemonSet :=
  match sendTarget (pathOf .daemonSet k) with
  | .error _ => none
  | .ok target =>
    match (serve ⟨.get, target, none⟩ now s).1.outcome with
    | .error _ => none
    | .ok r => (r.object ObservedDaemonSet.ofJson?).toOption

/-- A look at a workload that is answered has been taken from a DaemonSet that the server has sent. -/
theorem reported_of_respond {w : Rollout}
    (h : ((surroundings serve pauseImage timeOfDay).respond i (.call (.getWorkload k)) (now, o)).1 =
      .ok w) :
    ∃ d, reported? serve k now o.store = some d ∧ d.workload = w := by
  have htaken := Surroundings.complete_of_respond h
  change ((take serve pauseImage (.getWorkload k) now o).1.complete _).1 = .ok w at htaken
  unfold take at htaken
  simp only [objectOf, Request.ofCall] at htaken
  cases hsend : sendTarget (pathOf .daemonSet k) with
  | error e =>
    rw [hsend] at htaken
    cases htaken
  | ok target =>
    rw [hsend] at htaken
    simp only [Exchange.answer] at htaken
    cases houtcome : (serve ⟨.get, target, none⟩ now o.store).1.outcome with
    | error message =>
      rw [houtcome] at htaken
      cases htaken
    | ok r =>
      rw [houtcome] at htaken
      simp only [Response.answer] at htaken
      cases hobject : r.object ObservedDaemonSet.ofJson? with
      | error f =>
        rw [hobject] at htaken
        cases htaken
      | ok d =>
        rw [hobject] at htaken
        refine ⟨d, ?_, Except.ok.inj htaken⟩
        simp only [reported?, hsend, houtcome, hobject]
        rfl

end reported

/-- Completion is recorded for a reason. Whatever the store answers, and whatever the job is: where a pass
is about to write a status that adds or changes a condition of completion, the job as the pass has read
it last has been deployed, and the last answer to a look at its workload was that all nodes that should
run it have it ready and available, and that this was observed. Over an API server, in whatever states
that was asked, the DaemonSet that it sent at the last look has run. -/
theorem completion_is_sound (cx : Context) :
    (∀ h g' next, Path (reconcile chain cx) h (.perform (.call (.updateStatus g')) next) →
      ∃ g, inHand? cx.key h = some g ∧ (g.ledger.TouchesCompleted g'.ledger →
        (∃ c, g.ledger.current? = some c ∧ c.reason = .deployed ∧ c.status = .yes) ∧
        ∃ w, lastLook? h = some (cx.key, .ok w) ∧
          w.observed = true ∧ w.desired = w.ready ∧ w.ready = w.available)) ∧
    ∀ (σ : Type) (serve : Server σ) (pauseImage : String) (timeOfDay : Instant → Timestamp)
      (i : Interruption) (asked : List (Effect × Instant × Observed σ)) (g g' : Goop) next,
      let h := historyIn ((surroundings serve pauseImage timeOfDay).respond i) asked
      Path (reconcile chain cx) h (.perform (.call (.updateStatus g')) next) →
        inHand? cx.key h = some g → g.ledger.TouchesCompleted g'.ledger →
          ∃ now o d, lastLookIn? asked = some (cx.key, now, o) ∧
            reported? serve cx.key now o.store = some d ∧ d.HasRun := by
  constructor
  · intro h g' next hp
    obtain ⟨g, hg, hrecords⟩ := records_soundly hp
    refine ⟨g, hg, fun htouches => ?_⟩
    obtain ⟨hdeployed, w, hlook, hw⟩ := hrecords htouches
    obtain ⟨hobserved, hready, havailable⟩ := of_decide_eq_true hw
    exact ⟨current?_of_isComplete hdeployed, w, hlook, hobserved, hready,
      hready.symm.trans havailable⟩
  · intro σ serve pauseImage timeOfDay i asked g g' next h hp hg htouches
    obtain ⟨g₁, hg₁, hrecords⟩ := records_soundly hp
    obtain rfl := Option.some.inj (hg.symm.trans hg₁)
    obtain ⟨-, w, hlook, hw⟩ := hrecords htouches
    -- the answer to the last look was given in the state in which the server was then
    rw [lastLook?_historyIn] at hlook
    obtain ⟨⟨k, now, o⟩, hlast, hanswer⟩ := Option.map_eq_some_iff.mp hlook
    obtain ⟨rfl, hrespond⟩ := Prod.mk.inj hanswer
    obtain ⟨d, hreported, rfl⟩ := reported_of_respond hrespond
    exact ⟨now, o, d, hlast, hreported, d.isComplete_workload.mp hw⟩

/-! ### A sample -/

namespace SampleRollout

open SamplePass SampleServer

/-- The sample job when its workload has been created. -/
def deployed : Goop := kept.withLedger ⟨[⟨.available, .yes, .deployed, "created", some "before noon"⟩]⟩

/-- The job with the record of its completion. -/
def finished : Goop :=
  deployed.withLedger (deployed.ledger.push (completed deployed) noon.toText)

/-- A DaemonSet that has run on two nodes. -/
def rolledOut : Json :=
  .obj [("metadata", .obj [("generation", .int 3)]),
    ("status", .obj [("desiredNumberScheduled", .int 2), ("numberReady", .int 2),
      ("numberAvailable", .int 2), ("observedGeneration", .int 3)])]

/-- A response of the server with a value. -/
def page (v : Json) : Response := ⟨200, bytes v.compact⟩

/-- A server that is about to send some values. -/
def sending (values : List Json) : Observed Script :=
  .new ⟨values.map fun v => ⟨1, .response (page v)⟩, []⟩

/-- What a pass over such a server is answered. -/
def answers : (e : Effect) → Instant × Observed Script → e.Answer × Instant × Observed Script :=
  (surroundings script defaultPauseImage fun _ => noon).respond .none

/-- The job is read, the workload is looked at, and the clock is looked at. -/
def asked : List (Effect × Instant × Observed Script) :=
  [(.clock, 2, sending []), (.call (.getWorkload cx.key), 1, sending [rolledOut]),
    (.call (.get cx.key), 0, sending [deployed.toJson, rolledOut])]

/-- The job is read as it is. -/
theorem answers_get :
    (answers (.call (.get cx.key)) (0, sending [deployed.toJson, rolledOut])).1 = .ok deployed := by
  have hyields := Goop.yields (g := deployed) fun _ h => nomatch h
  have hobject : (page deployed.toJson).object Goop.ofJson? = .ok deployed :=
    (says_compact 200 hyields.legible).object (by decide) hyields.read
  have hanswer := respond_of_response script defaultPauseImage (fun _ => noon)
    (c := .get cx.key) (x := (0, sending [deployed.toJson, rolledOut])) rfl
    (sendTarget_ofCall (by decide) _ _) rfl
  refine hanswer.trans ?_
  unfold clientAnswer
  simp only [Response.answer, hobject]
  rfl

/-- The workload has run on both nodes. -/
theorem answers_look :
    (answers (.call (.getWorkload cx.key)) (1, sending [rolledOut])).1 = .ok ⟨2, 2, 2, true⟩ := by
  have hread : ∃ d, ObservedDaemonSet.ofJson? rolledOut = some d ∧ d.workload = ⟨2, 2, 2, true⟩ :=
    ⟨_, rfl, rfl⟩
  obtain ⟨d, hread, hworkload⟩ := hread
  have hobject : (page rolledOut).object ObservedDaemonSet.ofJson? = .ok d :=
    (says_compact 200 (by decide)).object (by decide) hread
  have hanswer := respond_of_response script defaultPauseImage (fun _ => noon)
    (c := .getWorkload cx.key) (x := (1, sending [rolledOut])) rfl
    (sendTarget_ofCall (by decide) _ _) rfl
  refine hanswer.trans ?_
  unfold clientAnswer
  simp only [Response.answer, hobject, ← hworkload]
  rfl

/-- What the pass is answered. -/
theorem historyIn_asked : historyIn answers asked =
    [⟨.clock, noon⟩, ⟨.call (.getWorkload cx.key), Except.ok ⟨2, 2, 2, true⟩⟩,
      ⟨.call (.get cx.key), Except.ok deployed⟩] := by
  have hclock : (answers .clock (2, sending [])).1 = noon := rfl
  simp only [historyIn, asked, List.map_cons, List.map_nil, answers_get, answers_look, hclock]

/-- With these answers the pass comes to the record of completion. -/
theorem path_finished : ∃ next, Path (reconcile chain cx) (historyIn answers asked)
    (.perform (.call (.updateStatus finished)) next) := by
  rw [historyIn_asked]
  have hread := path_read cx deployed
  have hlooked := Path.step (e := .call (.getWorkload cx.key)) hread (Except.ok ⟨2, 2, 2, true⟩)
  exact ⟨_, Path.step (e := .clock) hlooked noon⟩

end SampleRollout

open SamplePass SampleRollout in
/-- A pass over a server that sends the job as deployed and a DaemonSet that has run records completion,
and not without a reason. -/
theorem sample_completed :
    (∃ next, Path (reconcile chain cx) (historyIn answers asked)
        (.perform (.call (.updateStatus finished)) next)) ∧
      (∃ g, inHand? cx.key (historyIn answers asked) = some g ∧
        ∃ c, g.ledger.current? = some c ∧ c.reason = .deployed ∧ c.status = .yes) ∧
      ∃ now o d, lastLookIn? asked = some (cx.key, now, o) ∧
        reported? script cx.key now o.store = some d ∧ d.HasRun := by
  obtain ⟨next, hp⟩ := path_finished
  obtain ⟨hstore, hserver⟩ := completion_is_sound cx
  have hhand : inHand? cx.key (historyIn answers asked) = some deployed := by
    rw [historyIn_asked]
    rfl
  have htouches : deployed.ledger.TouchesCompleted finished.ledger :=
    ⟨1, _, rfl, nofun, .inr rfl⟩
  obtain ⟨g, hg, hrecords⟩ := hstore _ _ next hp
  obtain rfl := Option.some.inj (hhand.symm.trans hg)
  exact ⟨⟨next, hp⟩, ⟨_, hhand, (hrecords htouches).1⟩,
    hserver Script script defaultPauseImage (fun _ => noon) .none asked _ _ next hp hhand htouches⟩

end Api

end GoopOperator
