import GoopOperator.Proofs.Lifecycle.Calls
import GoopOperator.Proofs.Pass.Quiet
import GoopOperator.Proofs.Store.Scene

/-!
# How a pass writes a job

A pass writes a job only in the version that it has read last, with one change to it, and reads the
job again before it writes it again. So a pass that is alone with a store never finds that a job has
changed under it: the job in hand is the stored one (`Tied`). All this is said in
`writes_follow_reads`.
-/

namespace GoopOperator.Lifecycle

open Pass

/-! ## Alone with a store -/

/-- A pass that has been answered `h` is alone with a store in which no failure waits: the job in
hand is the one at the key `k`, where it belongs. -/
structure Tied (k : ObjectKey) (h : History) (s : MemoryStore) : Prop where
  /-- No failure waits. -/
  quiet : ∀ op, s.faults op = []
  /-- The job at the key belongs there. -/
  keyed : ∀ g, s.goops.get? k = some g → g.key = .ok k
  /-- The job in hand is the stored one. -/
  held : ∀ g, inHand? k h = some g → s.goops.get? k = some g

/-- No call finds that what it is based on has changed. -/
def FindsNoConflict : Effect → Bench → Prop
  | .call c, b => ∀ e, (b.store.answer c).1 = .error e → e.isConflict = false
  | _, _ => True

section alone

variable {cx : Context} {k : ObjectKey} {h : History} {s : MemoryStore} {g : Goop}

/-- What the store presents to a pass with a job in hand. -/
theorem Tied.scene (ht : Tied k h s) (hg : inHand? k h = some g) :
    Scene s k (some g) (s.workloads.get? k) s.lossesLeft s :=
  ht.held g hg ▸ Scene.of_quiet ht.quiet k

/-- A job that is written from the stored one has not changed in the meantime. -/
theorem Tied.current (ht : Tied k h s) (hg : inHand? k h = some g) (op : Operation)
    {incoming : Goop} (hv : incoming.metadata.resourceVersion = g.metadata.resourceVersion) :
    (s.counted op).current k incoming = .ok g := ((ht.scene hg).counted op).current hv

/-- Writing the metadata of the job in hand is not refused for a change in the meantime. -/
theorem Tied.update_noConflict (ht : Tied k h s) (hg : inHand? k h = some g) (tokens : List String)
    {e : StoreError} (he : (s.answer (.update (g.withFinalizers tokens))).1 = .error e) :
    e.isConflict = false := by
  have hkey : (g.withFinalizers tokens).key = .ok k := ht.keyed g (ht.held g hg)
  have hcurrent : (s.counted .update).current k (g.withFinalizers tokens) = .ok g :=
    ht.current hg _ rfl
  rw [MemoryStore.answer_update_eq, hkey] at he
  simp only at he
  rw [(ht.scene hg).serve_eq, MemoryStore.writeObject, hcurrent] at he
  simp only at he
  split at he
  · obtain rfl := Except.error.inj he
    rfl
  · split at he <;> cases he

/-- Writing the status of the job in hand is not refused for a change in the meantime. -/
theorem Tied.updateStatus_noConflict (ht : Tied k h s) (hg : inHand? k h = some g) (l : Ledger)
    {e : StoreError} (he : (s.answer (.updateStatus (g.withLedger l))).1 = .error e) :
    e.isConflict = false := by
  have hkey : (g.withLedger l).key = .ok k := ht.keyed g (ht.held g hg)
  have hcurrent : (s.counted .updateStatus).current k (g.withLedger l) = .ok g :=
    ht.current hg _ rfl
  rw [MemoryStore.answer_updateStatus_eq, hkey] at he
  simp only at he
  rw [(ht.scene hg).serve_eq, MemoryStore.writeStatus, hcurrent] at he
  simp only at he
  split at he <;> cases he

/-- No call that a pass makes is refused for a change in the meantime. -/
theorem Tied.noConflict (ht : Tied cx.key h s) {c : StoreCall} (hc : Calls cx h c) {e : StoreError}
    (he : (s.answer c).1 = .error e) : e.isConflict = false := by
  have hscene := Scene.of_quiet ht.quiet cx.key
  cases hc with
  | read =>
    rw [MemoryStore.answer_get_eq, hscene.serve_eq] at he
    cases hg : (s.counted .get).goops.get? cx.key with
    | none =>
      simp only [hg] at he
      obtain rfl := Except.error.inj he
      rfl
    | some g =>
      simp only [hg] at he
      cases he
  | write hg hw =>
    cases hw with
    | attach hd hf => exact ht.update_noConflict hg _ he
    | release hd hf => exact ht.update_noConflict hg _ he
    | record hl => exact ht.updateStatus_noConflict hg _ he
  | look hwanted =>
    rw [MemoryStore.answer_getWorkload_eq, hscene.serve_eq] at he
    cases hw : (s.counted .getWorkload).workloads.get? cx.key with
    | none =>
      simp only [hw] at he
      obtain rfl := Except.error.inj he
      rfl
    | some w =>
      simp only [hw] at he
      cases he
  | create hg hs hl hd =>
    rw [MemoryStore.answer_createWorkload_eq, hscene.serve_eq, MemoryStore.create] at he
    split at he
    · obtain rfl := Except.error.inj he
      rfl
    · split at he
      · cases he
      · obtain rfl := Except.error.inj he
        rfl

/-- A job in hand after a call that a store answers was in hand before, or is the stored one; and the
call has left all jobs as they were. -/
theorem inHand?_answered {c : StoreCall}
    (hg : inHand? k (⟨.call c, (s.answer c).1.mapError .store⟩ :: h) = some g) :
    (s.answer c).2.goops = s.goops ∧ (inHand? k h = some g ∨ s.goops.get? k = some g) := by
  cases c with
  | get key =>
    obtain ⟨hkeeps, hstored⟩ := s.answer_get key
    refine ⟨hkeeps.goops, .inr ?_⟩
    change (if key = k then ((s.answer (.get key)).1.mapError PassError.store).toOption
      else none) = some g at hg
    split at hg
    · rename_i hk
      subst hk
      cases ha : (s.answer (.get key)).1 with
      | error e =>
        rw [ha] at hg
        cases hg
      | ok g' =>
        rw [ha] at hg
        obtain rfl := Option.some.inj hg
        exact hstored g' ha
    · cases hg
  | update g' => cases hg
  | updateStatus g' => cases hg
  | getWorkload key => exact ⟨(s.answer_getWorkload key).goops, .inl hg⟩
  | createWorkload d => exact ⟨(s.answer_createWorkload d).goops, .inl hg⟩

/-- A call that the store answers leaves the pass with the job in hand that is stored. -/
theorem Tied.answered (ht : Tied k h s) (c : StoreCall) :
    Tied k (⟨.call c, (s.answer c).1.mapError .store⟩ :: h) (s.answer c).2 := by
  refine ⟨fun op => ?_, fun g hg => ?_, fun g hg => ?_⟩
  · have hfaults := s.faults_answer c op
    rw [ht.quiet op] at hfaults
    exact List.suffix_nil.mp hfaults
  · have hwritten := (s.written_answer c k).1
    rw [hg] at hwritten
    generalize ho : some g = o at hwritten
    -- what is written under a key was stored there before, and keeps its own
    cases hwritten with
    | kept => exact ht.keyed g ho.symm
    | updated fits old fresh =>
      obtain rfl := MemoryStore.of_afterUpdate ho.symm
      have hkey := ht.keyed _ fits.stored_eq
      exact hkey
    | recorded fits fresh =>
      obtain rfl := Option.some.inj ho
      have hkey := ht.keyed _ fits.stored_eq
      exact hkey
  · obtain ⟨hkeeps, hheld | hstored⟩ := inHand?_answered hg
    · rw [hkeeps]
      exact ht.held g hheld
    · rw [hkeeps]
      exact hstored

/-- A call that is cut off leaves the store as it was. -/
theorem Tied.cut (ht : Tied k h s) (c : StoreCall) (e : PassError) :
    Tied k (⟨.call c, .error e⟩ :: h) s := by
  refine ⟨ht.quiet, ht.keyed, fun g hg => ?_⟩
  cases c with
  | get key =>
    change (if key = k then none else none) = some g at hg
    split at hg <;> cases hg
  | update g' => cases hg
  | updateStatus g' => cases hg
  | getWorkload key => exact ht.held g hg
  | createWorkload d => exact ht.held g hg

/-- A pass that may be cut off, and is otherwise alone with a store, makes no call that is refused
for a change in the meantime. -/
theorem Tied.meets {clock : Nat → Timestamp} {trouble : Nat → Option Mishap}
    (htrouble : ∀ i m, trouble i = some m → ∃ cut, m = .cut cut) {p : Pass Requeue}
    (hall : Everywhere (Asks cx) p h) {b : Bench} (ht : Tied cx.key h b.store) :
    Meets (Bench.respond clock trouble) FindsNoConflict (fun _ _ => True) p b := by
  -- each answer leaves the pass tied to the store as the answer has left it
  induction p generalizing h b with
  | done r => trivial
  | perform e next ih =>
    obtain ⟨hasks, hnext⟩ := hall
    cases e with
    | clock => exact ⟨trivial, ih _ (hnext _) ⟨ht.quiet, ht.keyed, ht.held⟩⟩
    | work task => exact hasks.elim
    | call c =>
      refine ⟨fun e he => ht.noConflict hasks.made he, ih _ (hnext _) ?_⟩
      cases hm : trouble b.calls with
      | none =>
        simp only [Bench.respond, hm]
        exact ht.answered c
      | some m =>
        obtain ⟨cut, rfl⟩ := htrouble _ m hm
        simp only [Bench.respond, hm]
        exact ht.cut c cut.error

end alone

/-! ## The discipline -/

/-- Whatever the store answers, a pass writes a job only in the version that it has read last, with
one change to it, and reads the job between two writes. So a pass that is alone with a store in
which no failure waits, however many status writes are about to be lost, makes no call that is
refused for a change in the meantime, if the job at its key belongs there. -/
theorem writes_follow_reads (cx : Context) :
    (∀ h c next, Path (reconcile chain cx) h (.perform (.call c) next) →
      (Effect.call c).writesJob = true →
      ∃ g, inHand? cx.key h = some g ∧ WriteOf cx.settings.finalizer g c) ∧
    (∀ after x between y before rest,
      Path (reconcile chain cx) (after ++ x :: (between ++ y :: before)) rest →
      x.effect.writesJob = true → y.effect.writesJob = true → ∃ g, HasRead cx.key between g) ∧
    ∀ s : MemoryStore, (∀ op, s.faults op = []) →
      (∀ g, s.goops.get? cx.key = some g → g.key = .ok cx.key) →
      ∀ clock trouble, (∀ i m, trouble i = some m → ∃ cut, m = .cut cut) →
      Meets (Bench.respond clock trouble) FindsNoConflict (fun _ _ => True)
        (reconcile chain cx) (.new s) := by
  have hwrites : ∀ h c next, Path (reconcile chain cx) h (.perform (.call c) next) →
      (Effect.call c).writesJob = true →
      ∃ g, inHand? cx.key h = some g ∧ WriteOf cx.settings.finalizer g c := by
    intro h c next hp hw
    cases (callSite_of_path hp).made with
    | read => cases hw
    | write hg hwrite => exact ⟨_, hg, hwrite⟩
    | look hwanted => cases hw
    | create hg hs hl hd => cases hw
  refine ⟨hwrites, fun after x between y before rest hp hx hy => ?_, fun s hquiet hkeyed clock
    trouble htrouble => ?_⟩
  · obtain ⟨next, hbefore, -⟩ := hp.split
    obtain ⟨e, a⟩ := x
    cases e with
    | call c =>
      obtain ⟨g, hg, -⟩ := hwrites _ c next hbefore hx
      exact ⟨g, hasRead_of_inHand? (inHand?_write hy cx.key y.answer before) hg⟩
    | clock => cases hx
    | work task => cases hx
  · have ht : Tied cx.key [] s := ⟨hquiet, hkeyed, fun g hg => nomatch hg⟩
    exact Tied.meets (b := .new s) htrouble (reconcile_asks cx) ht

/-! ### A sample -/

namespace SamplePass

/-- The sample job as it is read after its ledger has been started. -/
def started : Goop := job.withLedger (job.ledger.push starting noon.toText)

/-- The sample job has been read, and its ledger has been started. -/
def opening : History :=
  [⟨.call (.updateStatus started), .ok started⟩, ⟨.clock, noon⟩, ⟨.call (.get cx.key), .ok job⟩]

/-- The finalizer is attached to the job. -/
def attachment : StoreCall := .update (started.addFinalizer cx.settings.finalizer)

/-- A store in which a user has created the sample job. -/
def store : MemoryStore := ((MemoryStore.empty 1).insert job "uid" noon).2

/-- The pass goes on with the job that it has read then. -/
theorem path_opening : Path (reconcile chain cx)
    (⟨.call (.get cx.key), .ok started⟩ :: opening) (Chain.run ⟨chain.stages.tail⟩ cx started) := by
  have hread := path_read cx job
  have hclock := Path.step (e := .clock) hread noon
  have hstarted := Path.step (e := .call (.updateStatus started)) hclock (Except.ok started)
  exact Path.step (e := .call (.get cx.key)) hstarted (Except.ok started)

end SamplePass

open SamplePass in
/-- The pass attaches the finalizer to the job that it has read last, and has read it since it has
started the ledger; alone with the store, it finds nothing changed. -/
theorem sample_discipline :
    (∃ next, Path (reconcile chain cx) (⟨.call (.get cx.key), .ok started⟩ :: opening)
        (.perform (.call attachment) next)) ∧
      (∃ g, inHand? cx.key (⟨.call (.get cx.key), .ok started⟩ :: opening) = some g ∧
        WriteOf cx.settings.finalizer g attachment) ∧
      (∃ g, HasRead cx.key [⟨.call (.get cx.key), .ok started⟩] g) ∧
      Meets (Bench.respond (fun _ => noon) Bench.calm) FindsNoConflict (fun _ _ => True)
        (reconcile chain cx) (.new store) := by
  obtain ⟨hwrites, hbetween, halone⟩ := writes_follow_reads cx
  have hattached := Path.step (e := .call attachment) path_opening (Except.ok started)
  refine ⟨⟨_, path_opening⟩, hwrites _ attachment _ path_opening rfl, ?_,
    halone store (fun _ => rfl) (fun g hg => ?_) _ _ fun _ _ h => nomatch h⟩
  · exact hbetween [] _ [_] _ _ _ hattached rfl rfl
  · obtain rfl := Option.some.inj hg
    rfl

end GoopOperator.Lifecycle
