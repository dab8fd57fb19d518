import GoopOperator.Proofs.Lifecycle.Healing
import GoopOperator.Proofs.Lifecycle.Stall
import GoopOperator.Proofs.Pass.Quiet
import GoopOperator.Proofs.World.LedgerGrowth

/-!
# A pass alone in a reachable world

However a store has been reached, a pass that works on it alone comes to its outcome. If it breaks
off at one of its calls, the next one makes up for it (`broken_pass_heals`). Where status writes
are lost, it may stall, in the ways that `Stall` lists and in no others (`pass_stalls_iff`).
-/

namespace GoopOperator.World

open Pass Lifecycle Bench Sample

/-! ## Passes that break off -/

/-- A job in a reachable world is stored under its key, with a ledger that a life leaves. -/
theorem Reachable.sound {w : World} (hw : Reachable chain Ordinary w) {k : ObjectKey} {g : Goop}
    (hg : w.job? k = some g) : Sound k g := by
  have hw' : Reachable (cleaning .nothing) Ordinary w := hw
  refine ⟨(hw.coherent_of_ordinary fun _ _ h => h).keyed k g hg, ?_⟩
  exact hw'.lifelike isReadOnly_nothing (fun _ _ h => h) k g hg

/-- Let a store be reached in any way, and let no failure wait and no status write be about to be
lost. If a pass breaks off at any of its calls, a pass that follows undisturbed ends as an
undisturbed pass would have ended at once, and leaves the same store but for versions, messages,
times and counts. -/
theorem broken_pass_heals {w : World} (hw : Reachable chain Ordinary w)
    (hquiet : ∀ op, w.store.faults op = []) (hlosses : w.store.lossesLeft = 0)
    (hnodes : w.store.nodes ≠ 0) (cx : Context) {m : Mishap} (hm : m.IsOther)
    (clock clock' clock'' : Nat → Timestamp) {k : Nat}
    (hk : k < (passOver clock calm cx w.store).2.calls) :
    (passOver clock'' calm cx (passOver clock (strike k m) cx w.store).2.store).1 =
        (passOver clock' calm cx w.store).1 ∧
      (passOver clock'' calm cx (passOver clock (strike k m) cx w.store).2.store).2.store.Alike
        (passOver clock' calm cx w.store).2.store := by
  have hscene := Scene.of_quiet hquiet cx.key
  rw [hlosses] at hscene
  have hsound : ∀ g, w.store.goops.get? cx.key = some g → Sound cx.key g := fun _ hg => hw.sound hg
  obtain ⟨o, wl, hbroken, hsound', hsame⟩ := hscene.passOver_strike hnodes hsound clock hm hk
  obtain ⟨hresult, o₁, ho₁, hend⟩ := hscene.passOver hsound clock' rfl
  obtain ⟨hresult', o₂, ho₂, hend'⟩ := hbroken.passOver hsound' clock'' hsame
  exact ⟨hresult'.trans hresult.symm, hend'.alike hend (ho₂.trans ho₁.symm)⟩

/-- A pass over the sample job that is cancelled when it is about to record that the workload is
there leads to the same as one that is not. -/
theorem sample_heals :
    let broken := (passOver (fun _ => noon) (strike 9 (.cut .cancelled)) cx (world 0).store).2.store
    (passOver (fun _ => noon) calm cx broken).1 = .ok (.after cx.settings.pollInterval) ∧
      (passOver (fun _ => noon) calm cx broken).2.store.Alike
        (passOver (fun _ => noon) calm cx (world 0).store).2.store := by
  have h := broken_pass_heals (reachable_world 0) (fun _ => rfl) rfl (by decide) cx
    (m := .cut .cancelled) trivial (fun _ => noon) (fun _ => noon) (fun _ => noon)
    (k := 9) (by decide)
  exact ⟨h.1.trans rfl, h.2⟩

/-! ## Passes that stall -/

/-- Where a pass is neither cancelled nor out of time, and takes none of the failures that wait,
it stalls in one of the ways listed. -/
theorem Reachable.stalls_iff {w : World} (hw : Reachable chain Ordinary w) (cx : Context)
    (delay : Duration) {clock : Nat → Timestamp}
    (hfaults : ∀ op, (passOver clock calm cx w.store).2.store.faults op = w.store.faults op) :
    (actionAfter delay (passOver clock calm cx w.store).1 = .awaitChange ∧
      ∃ g, (passOver clock calm cx w.store).2.store.goops.get? cx.key = some g ∧ g.IsUnfinished) ↔
    ∃ g, w.job? cx.key = some g ∧
      Stall cx w.store.lossesLeft g (w.store.workloads.get? cx.key) := by
  -- the pass runs as with a store in which no failure waits
  have hrun : passOver clock calm cx w.store.hushed =
      ((passOver clock calm cx w.store).1, (passOver clock calm cx w.store).2.hushed) :=
    run_hushed hfaults
  have hscene : Scene w.store.hushed cx.key (w.job? cx.key) (w.store.workloads.get? cx.key)
      w.store.lossesLeft w.store.hushed := Scene.of_quiet (fun _ => rfl) cx.key
  have hmeets : Meets (respond clock calm) (Visits False w.store.hushed cx _)
      (Ends False w.store.hushed cx _) (reconcile chain cx) (.new w.store.hushed) :=
    meets_reconcile (b := .new w.store.hushed) nofun hscene (fun _ hg => hw.sound hg) nofun
  obtain ⟨hresult, o, n, hend, ho, -⟩ := hmeets.run
  change (passOver clock calm cx w.store.hushed).1 = _ at hresult
  change Scene _ _ _ _ _ (passOver clock calm cx w.store.hushed).2.store at hend
  rw [hrun] at hresult hend
  have hjob : (passOver clock calm cx w.store).2.store.goops.get? cx.key = o := hend.job
  -- what is seen of the pass is what is seen of its outcome
  have hstalled : (actionAfter delay (passOver clock calm cx w.store).1 = .awaitChange ∧
      ∃ g, o = some g ∧ g.IsUnfinished) ↔
      Stalled delay (outcome cx w.store.hushed.nodes w.store.lossesLeft
        ((w.job? cx.key).map Goop.outline) (w.store.workloads.get? cx.key)) := by
    unfold Stalled
    rw [← hresult, ← ho]
    cases o with
    | none => simp
    | some g => simp [Goop.isUnfinished_outline]
  rw [hjob, hstalled]
  cases hg : w.job? cx.key with
  | none => simp [Stalled, outcome]
  | some g =>
    rw [Option.map_some, stalled_outcome (Goop.lifelike_outline (hw.sound hg).life), stall_outline]
    simp

/-- Let a store be reached in any way, and let a pass run alone that is not cancelled, though it
may run out of time, and that takes none of the failures that wait. It makes the operator wait for
a change of a job that is neither completed nor finalized exactly if it does not run out of time
and one of its writes is lost in one of the ways listed. -/
theorem pass_stalls_iff {w : World} (hw : Reachable chain Ordinary w) (cx : Context)
    (delay : Duration) (clock : Nat → Timestamp) (trouble : Nat → Option Mishap)
    (htrouble : ∀ i m, trouble i = some m → m = .cut .outOfTime)
    (hfaults : ∀ op, (passOver clock trouble cx w.store).2.store.faults op = w.store.faults op) :
    (actionAfter delay (passOver clock trouble cx w.store).1 = .awaitChange ∧
      ∃ g, (passOver clock trouble cx w.store).2.store.goops.get? cx.key = some g ∧
        g.IsUnfinished) ↔
    (passOver clock trouble cx w.store).1 ≠ .error .deadlineExceeded ∧
      ∃ g, w.job? cx.key = some g ∧
        Stall cx w.store.lossesLeft g (w.store.workloads.get? cx.key) := by
  have hlate : ∀ r : Except PassError Requeue, actionAfter delay r = .awaitChange →
      r ≠ .error .deadlineExceeded := by
    rintro r haction rfl
    cases haction
  rcases (quits_reconcile cx).run_cut clock htrouble (.new w.store) with hcut | hcalm
  · exact iff_of_false (fun h => hlate _ h.1 hcut) fun h => h.1 hcut
  · change passOver clock trouble cx w.store = passOver clock calm cx w.store at hcalm
    rw [hcalm] at hfaults ⊢
    constructor
    · intro h
      exact ⟨hlate _ h.1, (hw.stalls_iff cx delay hfaults).mp h⟩
    · rintro ⟨-, h⟩
      exact (hw.stalls_iff cx delay hfaults).mpr h

namespace Sample

/-- A pass over the sample job ends, its workload gets ready, and one status write is about to be
lost. -/
def ready : World := (world 14).run chain [.adjustRollout key .advance, .loseStatusWrites 1]

/-- These moves are ordinary ones. -/
theorem reachable_ready : Reachable chain Ordinary ready :=
  (reachable_world 14).leads (leads_run ⟨trivial, trivial, trivial⟩)

end Sample

/-- The next pass over the sample job loses that the job is completed, and stalls. -/
theorem sample_stalls :
    actionAfter (.ofSeconds 15) (passOver (fun _ => noon) calm cx ready.store).1 = .awaitChange ∧
      ∃ g, (passOver (fun _ => noon) calm cx ready.store).2.store.goops.get? cx.key = some g ∧
        g.IsUnfinished := by
  have hstall : ∃ g, ready.job? cx.key = some g ∧
      Stall cx ready.store.lossesLeft g (ready.store.workloads.get? cx.key) :=
    ⟨_, rfl, .completed Nat.one_pos rfl rfl rfl rfl⟩
  have h := pass_stalls_iff reachable_ready cx (.ofSeconds 15) (fun _ => noon) calm
    (fun _ _ h => nomatch h) fun op => by cases op <;> rfl
  exact h.mpr ⟨fun hlate => (nomatch hlate), hstall⟩

end GoopOperator.World
