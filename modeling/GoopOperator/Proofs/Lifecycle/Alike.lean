import GoopOperator.Proofs.Lifecycle.Calls
import GoopOperator.Proofs.Pass.Alike

/-!
# Passes over alike jobs

Whatever is looked past of a job, each stage asks for the same with alike jobs and hands on alike
jobs. So a pass is alike itself (`reconcile_alike`), and two runs of it in surroundings that answer
alike go the same way.
-/

namespace GoopOperator

/-- A decision as it is seen under a blur. -/
def Decision.blur (b : Blur) : Decision → Decision
  | .next g => .next (g.blur b)
  | .stop requeue => .stop requeue

/-- What the stages of a pass look at is the same in both jobs. -/
structure Goop.Resembles (g g' : Goop) : Prop where
  /-- Whether the ledger is to be started. -/
  isInitial : g.ledger.isInitial = g'.ledger.isInitial
  /-- Whether it has come to a reason. -/
  isState : ∀ r, g.ledger.isState r = g'.ledger.isState r
  /-- Whether it has not come past a reason. -/
  isIncomplete : ∀ r, g.ledger.isIncomplete r = g'.ledger.isIncomplete r
  /-- Whether it has come past a reason. -/
  isComplete : ∀ r, g.ledger.isComplete r = g'.ledger.isComplete r
  /-- The finalizers. -/
  hasFinalizer : ∀ token, g.hasFinalizer token = g'.hasFinalizer token
  /-- Whether the deletion is requested. -/
  isDeletionRequested : g.isDeletionRequested = g'.isDeletionRequested
  /-- What is run for the job. -/
  plan : ∀ settings, WorkloadSpec.plan g settings = WorkloadSpec.plan g' settings

/-- Alike jobs look the same to the stages of a pass. -/
theorem Goop.resembles_of_blur {b : Blur} {g g' : Goop} (h : g.blur b = g'.blur b) :
    g.Resembles g' where
  isInitial := same_of_blur h (f := fun x => x.ledger.isInitial) fun x => by simp
  isState r := same_of_blur h (f := fun x => x.ledger.isState r) fun x => by simp
  isIncomplete r := same_of_blur h (f := fun x => x.ledger.isIncomplete r) fun x => by simp
  isComplete r := same_of_blur h (f := fun x => x.ledger.isComplete r) fun x => by simp
  hasFinalizer token := same_of_blur h (f := fun x => x.hasFinalizer token) fun x => by simp
  isDeletionRequested := same_of_blur h fun x => by simp
  plan settings := same_of_blur h (f := fun x => WorkloadSpec.plan x settings) fun x => by simp

namespace Lifecycle

open Pass (Alike)

variable {b : Blur} {cx : Context} {g g' : Goop}

/-! ## Single calls -/

/-- A look at the time of day. -/
theorem clock_alike (b : Blur) :
    Alike b (fun t : Timestamp => b.time t.toText) Pass.clock Pass.clock :=
  .clock fun _ _ ht => .done (congrArg Except.ok ht)

/-- Reading the job. -/
theorem fetch_alike (b : Blur) (cx : Context) : Alike b (Goop.blur b) cx.fetch cx.fetch :=
  .call (.get cx.key) fun _ _ ha => .done ha

/-- Writing alike jobs. -/
theorem update_alike (h : g.blur b = g'.blur b) :
    Alike b (fun _ => ()) (Pass.call (.update g)) (Pass.call (.update g')) :=
  .call (.update h) fun _ _ ha => .done ha

/-- Writing the status of alike jobs. -/
theorem updateStatus_alike (h : g.blur b = g'.blur b) :
    Alike b (fun _ => ()) (Pass.call (.updateStatus g)) (Pass.call (.updateStatus g')) :=
  .call (.updateStatus h) fun _ _ ha => .done ha

/-- Looking at the workload. -/
theorem getWorkload_alike (b : Blur) (k : ObjectKey) :
    Alike b id (Pass.call (.getWorkload k)) (Pass.call (.getWorkload k)) :=
  .call (.getWorkload k) fun _ _ ha => .done ha

/-- Creating a workload. -/
theorem createWorkload_alike (b : Blur) (d : WorkloadSpec) :
    Alike b id (Pass.call (.createWorkload d)) (Pass.call (.createWorkload d)) :=
  .call (.createWorkload d) fun _ _ ha => .done ha

/-! ## Recording -/

/-- Recording the same condition in alike jobs. -/
theorem record_alike (h : g.blur b = g'.blur b) (c : Condition) :
    Alike b (Goop.blur b) (record cx g c) (record cx g' c) := by
  refine (clock_alike b).bind fun now now' hnow => ?_
  have hset := Goop.blur_of_set? h c hnow
  cases hl : g.ledger.set? c now.toText with
  | none =>
    cases hl' : g'.ledger.set? c now'.toText with
    | none => exact .done (congrArg Except.ok h)
    | some l' =>
      rw [hl, hl'] at hset
      cases hset
  | some l =>
    cases hl' : g'.ledger.set? c now'.toText with
    | none =>
      rw [hl, hl'] at hset
      cases hset
    | some l' =>
      rw [hl, hl'] at hset
      exact (updateStatus_alike (Option.some.inj hset)).bind fun _ _ _ => fetch_alike b cx

/-- Recording a condition that mentions the name of the job. -/
theorem record_named_alike (h : g.blur b = g'.blur b) {c : Goop → Condition}
    (hc : ∀ x : Goop, c (x.blur b) = c x) :
    Alike b (Goop.blur b) (record cx g (c g)) (record cx g' (c g')) := by
  rw [Goop.same_of_blur h hc]
  exact record_alike h _

/-! ## Stages -/

/-- Attaching the finalizer to alike jobs. -/
theorem attachToken_alike (h : g.blur b = g'.blur b) :
    Alike b (Goop.blur b) (attachToken cx g) (attachToken cx g') := by
  have hlook := Goop.resembles_of_blur h
  unfold attachToken
  simp only [hlook.isState, hlook.hasFinalizer, hlook.isDeletionRequested]
  split
  · have hadded : (g.addFinalizer cx.settings.finalizer).blur b =
        (g'.addFinalizer cx.settings.finalizer).blur b := by
      rw [Goop.blur_addFinalizer, Goop.blur_addFinalizer, h]
    exact (update_alike hadded).bind fun _ _ _ => fetch_alike b cx
  · exact .done (congrArg Except.ok h)

/-- The same stage over alike jobs. -/
def StageAlike (b : Blur) (cx : Context) (st : Stage) : Prop :=
  ∀ g g' : Goop, g.blur b = g'.blur b →
    Alike b (Decision.blur b) (st.handle cx g) (st.handle cx g')

/-- Handing on alike jobs. -/
theorem next_alike (h : g.blur b = g'.blur b) :
    Alike b (Decision.blur b) (pure (.next g)) (pure (.next g')) :=
  .done (congrArg (fun x => Except.ok (Decision.next x)) h)

/-- Ending the pass. -/
theorem stop_alike (b : Blur) (requeue : Requeue) :
    Alike b (Decision.blur b) (pure (.stop requeue)) (pure (.stop requeue)) := .done rfl

/-- Starting the ledger. -/
theorem start_alike (b : Blur) (cx : Context) : StageAlike b cx start := by
  intro g g' h
  unfold start
  simp only [(Goop.resembles_of_blur h).isInitial]
  split
  · refine (record_alike h starting).bind fun x x' hx => ?_
    rw [(Goop.resembles_of_blur hx).isInitial]
    split
    · exact stop_alike b .now
    · exact next_alike hx
  · exact next_alike h

/-- Attaching the finalizer, and recording that initialization is complete. -/
theorem attachFinalizer_alike (b : Blur) (cx : Context) : StageAlike b cx attachFinalizer := by
  intro g g' h
  refine (attachToken_alike h).bind fun x x' hx => ?_
  rw [(Goop.resembles_of_blur hx).isIncomplete]
  split
  · exact (record_alike hx initialized).bind fun _ _ hread => next_alike hread
  · exact next_alike hx

/-- Releasing the finalizer. -/
theorem release_alike (b : Blur) (cx : Context) : StageAlike b cx (release .nothing) := by
  intro g g' h
  have hlook := Goop.resembles_of_blur h
  unfold release
  simp only [hlook.isComplete, hlook.isDeletionRequested, hlook.hasFinalizer]
  split
  · exact stop_alike b .never
  split
  · exact next_alike h
  split
  · have hremoved : (g.removeFinalizer cx.settings.finalizer).blur b =
        (g'.removeFinalizer cx.settings.finalizer).blur b := by
      rw [Goop.blur_removeFinalizer, Goop.blur_removeFinalizer, h]
    exact (update_alike hremoved).bind fun _ _ _ => stop_alike b .now
  · refine (record_named_alike h fun _ => rfl).attempt.bind fun r r' hr => ?_
    rcases Blur.result_cases hr with ⟨e, e', rfl, rfl, he⟩ | ⟨x, x', rfl, rfl, -⟩
    · simp only [Blur.isNotFound_eq he]
      split
      · exact stop_alike b .never
      · exact .done (congrArg Except.error he)
    · exact stop_alike b .never

/-- Creating the workload. -/
theorem create_alike (b : Blur) (cx : Context) : StageAlike b cx create := by
  intro g g' h
  have hlook := Goop.resembles_of_blur h
  unfold create
  simp only [hlook.isComplete, hlook.plan]
  split
  · exact next_alike h
  · refine (getWorkload_alike b cx.key).attempt.bind fun r r' hr => ?_
    rcases Blur.result_cases hr with ⟨e, e', rfl, rfl, he⟩ | ⟨x, x', rfl, rfl, -⟩
    · simp only [Blur.isNotFound_eq he]
      split
      · cases WorkloadSpec.plan g' cx.settings with
        | error e => exact .done rfl
        | ok d =>
          refine (createWorkload_alike b d).bind fun _ _ _ => ?_
          exact (record_named_alike h fun _ => rfl).bind fun _ _ _ => stop_alike b _
      · exact .done (congrArg Except.error he)
    · exact (record_named_alike h fun _ => rfl).bind fun _ _ hread => next_alike hread

/-- Looking whether the workload has run everywhere. -/
theorem complete_alike (b : Blur) (cx : Context) : StageAlike b cx complete := by
  intro g g' h
  unfold complete
  simp only [(Goop.resembles_of_blur h).isComplete]
  split
  · exact next_alike h
  · refine (getWorkload_alike b cx.key).attempt.bind fun r r' hr => ?_
    rcases Blur.result_cases hr with ⟨e, e', rfl, rfl, he⟩ | ⟨w, w', rfl, rfl, hw⟩
    · simp only [Blur.isNotFound_eq he]
      split
      · exact (record_named_alike h fun _ => rfl).bind fun _ _ _ => .done rfl
      · exact .done (congrArg Except.error he)
    · obtain rfl : w = w' := hw
      simp only
      split
      · exact (record_named_alike h fun _ => rfl).bind fun _ _ hread => next_alike hread
      · exact stop_alike b _

/-! ## Passes -/

/-- Stages one after the other, over alike jobs. -/
theorem run_alike {stages : List Stage} (hstages : ∀ st ∈ stages, StageAlike b cx st)
    (h : g.blur b = g'.blur b) :
    Alike b id (Chain.run ⟨stages⟩ cx g) (Chain.run ⟨stages⟩ cx g') := by
  induction stages generalizing g g' with
  | nil => exact .done rfl
  | cons st rest ih =>
    rw [Chain.run_cons, Chain.run_cons]
    refine (hstages st (List.mem_cons_self ..) g g' h).bind fun d d' hd => ?_
    cases d with
    | next x =>
      cases d' with
      | next x' =>
        have hrest : ∀ st ∈ rest, StageAlike b cx st :=
          fun st hst => hstages st (List.mem_cons_of_mem _ hst)
        exact ih hrest (Decision.next.inj hd)
      | stop requeue => cases hd
    | stop requeue =>
      cases d' with
      | next x' => cases hd
      | stop requeue' => exact .done (congrArg Except.ok (Decision.stop.inj hd))

/-- A pass decides nothing by what is looked past, and only hands to the store what it has read of
it: it is alike itself under every blur. -/
theorem reconcile_alike (b : Blur) (cx : Context) :
    Alike b id (reconcile chain cx) (reconcile chain cx) := by
  refine (fetch_alike b cx).attempt.bind fun r r' hr => ?_
  rcases Blur.result_cases hr with ⟨e, e', rfl, rfl, he⟩ | ⟨g, g', rfl, rfl, h⟩
  · simp only [Blur.isNotFound_eq he]
    split
    · exact .done rfl
    · exact .done (congrArg Except.error he)
  · refine run_alike (fun st hst => ?_) h
    simp only [List.mem_cons, List.not_mem_nil, or_false] at hst
    rcases hst with rfl | rfl | rfl | rfl | rfl
    · exact start_alike b cx
    · exact attachFinalizer_alike b cx
    · exact release_alike b cx
    · exact create_alike b cx
    · exact complete_alike b cx

end Lifecycle

end GoopOperator
