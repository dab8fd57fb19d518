import GoopOperator.Proofs.Lifecycle.Parting
import GoopOperator.Proofs.World.Deletion
import GoopOperator.Proofs.World.Quiescence

/-!
# Two passes finish a deletion

However a store has been reached, passes that are alone with a job that is to be deleted are done
with it after two of them: the first one takes the finalizer off, and the second one records that,
if something else still holds the job. What has been recorded before does not stand in the way. The
ledger is one of those that passes leave (`Reachable.grown`), and it does not say that the job is
finalized while the finalizer is there (`Reachable.released`), so that no pass overlooks it.
-/

namespace GoopOperator

namespace MemoryStore

/-- The job at the key is finalized, if there is one. -/
def Drained (k : ObjectKey) (s : MemoryStore) : Prop :=
  ∀ g, s.goops.get? k = some g → g.ledger.isComplete .finalized = true

/-- A key with a finalized job is drained. -/
theorem drained_of_finalized {k : ObjectKey} {s : MemoryStore} {g : Goop}
    (hg : s.goops.get? k = some g) (hf : g.ledger.isComplete .finalized = true) : s.Drained k := by
  intro g' hg'
  obtain rfl := Option.some.inj (hg.symm.trans hg')
  exact hf

/-- So is one without a job. -/
theorem drained_of_gone {k : ObjectKey} {s : MemoryStore} (h : s.goops.get? k = none) :
    s.Drained k := fun g hg => absurd (hg.symm.trans h) (Option.some_ne_none g)

/-- What is left of the job `g` after its finalizer `token` was taken off. -/
inductive Parted (token : String) (k : ObjectKey) (g : Goop) (s : MemoryStore) : Prop where
  /-- Nothing else held the job. It is gone, and so is the workload at its key. -/
  | gone (hlast : g.finalizers.filter (· ≠ token) = []) (hjob : s.goops.get? k = none)
    (hworkload : s.workloads.get? k = none) : Parted token k g s
  /-- The other finalizers hold it. -/
  | held {g' : Goop} (hjob : s.goops.get? k = some g') (hfreed : g.Freed token g')
    (hheld : g'.finalizers ≠ []) : Parted token k g s

end MemoryStore

namespace Lifecycle

open Pass Bench

/-- The store after `n` passes that are alone with it, one after the other. -/
def afterPasses (clock : Nat → Nat → Timestamp) (cx : Nat → Context) (s : MemoryStore) :
    Nat → MemoryStore
  | 0 => s
  | n + 1 => (passOver (clock n) calm (cx n) (afterPasses clock cx s n)).2.store

/-- What the pass after `n` such passes returns. -/
def resultAfter (clock : Nat → Nat → Timestamp) (cx : Nat → Context) (s : MemoryStore) (n : Nat) :
    Except PassError Requeue :=
  (passOver (clock n) calm (cx n) (afterPasses clock cx s n)).1

end Lifecycle

namespace World

open Pass Lifecycle Bench Sample MemoryStore

section passes

variable {s : MemoryStore} {cx : Nat → Context} {k : ObjectKey}

/-- A pass over a job that is gone or finalized has nothing to do. -/
theorem drained_rests {cx : Context} (hquiet : ∀ op, s.faults op = []) (h : s.Drained cx.key)
    (clock : Nat → Timestamp) :
    (passOver clock calm cx s).1 = .ok .never ∧ AsksNoWrite clock cx s ∧
      s.Untouched (passOver clock calm cx s).2.store := by
  have hrest : AtRest cx (s.goops.get? cx.key) (s.workloads.get? cx.key) (.ok .never) := by
    cases hjob : s.goops.get? cx.key with
    | none => exact .gone
    | some g => exact .finalized (h g hjob)
  have hmeets : Meets (respond clock calm) _ _ (reconcile chain cx) (.new s) :=
    meets_rest (Scene.of_quiet hquiet cx.key) hrest
  have hend := hmeets.run
  exact ⟨hend.1, hmeets.mono fun _ _ _ => trivial, hend.2.1⟩

/-- Passes do not arrange failures. -/
theorem quiet_afterPasses (clock : Nat → Nat → Timestamp) (cx : Nat → Context)
    (hquiet : ∀ op, s.faults op = []) (n : Nat) (op : Operation) :
    (afterPasses clock cx s n).faults op = [] := by
  induction n with
  | zero => exact hquiet op
  | succ n ih =>
    have hsuffix : (afterPasses clock cx s (n + 1)).faults op <:+
        (afterPasses clock cx s n).faults op := faults_run _ _ op
    exact List.suffix_nil.mp (ih ▸ hsuffix)

/-- A job that is gone or finalized stays so under passes. -/
theorem drained_afterPasses {clock : Nat → Nat → Timestamp} (hquiet : ∀ op, s.faults op = [])
    (hkey : ∀ n, (cx n).key = k) {m n : Nat} (hmn : m ≤ n)
    (h : (afterPasses clock cx s m).Drained k) : (afterPasses clock cx s n).Drained k := by
  induction hmn with
  | refl => exact h
  | @step n _ ih =>
    have hrests := drained_rests (quiet_afterPasses clock cx hquiet n) ((hkey n).symm ▸ ih)
      (clock n)
    intro g hg
    have hgoops : (afterPasses clock cx s (n + 1)).goops = (afterPasses clock cx s n).goops :=
      hrests.2.2.goops
    exact ih g (hgoops ▸ hg)

end passes

section closing

variable {token : String} {w : World} {m : Move} {k : ObjectKey} {g : Goop}

/-- Moves that close jobs are plain ones. -/
theorem Closing.plain (hm : w.Closing token m) : w.Plain m := by
  refine ⟨hm.sparesLedgers, ?_⟩
  cases m with
  | insert g uid now => exact hm.1
  | _ => trivial

/-- A job that is stored and not finalized has its key, and a ledger that a life leaves. -/
theorem Reachable.sound_of_closing (hw : Reachable chain (Closing token) w)
    (hg : w.job? k = some g) (hf : g.ledger.isComplete .finalized = false) : Sound k g := by
  have hw' : Reachable (cleaning .nothing) (Closing token) w := hw
  have hcoherent : w.Coherent := hw.coherent fun _ _ hm => hm.sparesLedgers.keepsKeys
  refine ⟨hcoherent.keyed k g hg, ?_⟩
  rcases hw'.grown isReadOnly_nothing (fun _ _ hm => hm.plain) k g hg with hlife | hmarks
  · exact hlife
  · rw [isComplete_eq_marks, hmarks] at hf
    cases hf

/-- A job with the finalizer is not finalized. -/
theorem Reachable.not_finalized (hw : Reachable chain (Closing token) w)
    (hg : w.job? k = some g) (ht : g.hasFinalizer token = true) :
    g.ledger.isComplete .finalized = false := by
  cases hf : g.ledger.isComplete .finalized with
  | false => rfl
  | true =>
    have hreleased := hw.released k g hg (mem_reasons_of_isComplete hf)
    exact absurd (hreleased.2.symm.trans ht) Bool.false_ne_true

/-- The first pass over a job with the finalizer takes that off. -/
theorem Reachable.parts {cx : Context} (hw : Reachable chain (Closing cx.settings.finalizer) w)
    (hquiet : ∀ op, w.store.faults op = []) (hlosses : w.store.lossesLeft = 0)
    (hg : w.job? cx.key = some g) (hd : g.isDeletionRequested = true)
    (ht : g.hasFinalizer cx.settings.finalizer = true) (clock : Nat → Timestamp) :
    (passOver clock calm cx w.store).1 = .ok .now ∧
      (g.finalizers.filter (· ≠ cx.settings.finalizer) = [] ∧
          Scene w.store cx.key none none 0 (passOver clock calm cx w.store).2.store ∨
        ∃ g', g.Freed cx.settings.finalizer g' ∧ g'.finalizers ≠ [] ∧ Sound cx.key g' ∧
          ∃ wl, Scene w.store cx.key (some g') wl 0 (passOver clock calm cx w.store).2.store) := by
  have hscene := Scene.of_quiet hquiet cx.key
  rw [hlosses, show w.store.goops.get? cx.key = some g from hg] at hscene
  have hf := hw.not_finalized hg ht
  obtain ⟨hresult, hparts⟩ := hscene.parts (hw.sound_of_closing hg hf) hd hf ht clock
  refine ⟨hresult, hparts.imp_right ?_⟩
  rintro ⟨g', hfreed, hheld, hsound, hend⟩
  exact ⟨g', hfreed, hheld, hsound, _, hend⟩

/-- The first pass over a job without the finalizer leaves it finalized. -/
theorem Reachable.settles {cx : Context} (hw : Reachable chain (Closing cx.settings.finalizer) w)
    (hquiet : ∀ op, w.store.faults op = []) (hlosses : w.store.lossesLeft = 0)
    (hg : w.job? cx.key = some g) (hd : g.isDeletionRequested = true)
    (ht : g.hasFinalizer cx.settings.finalizer = false) (clock : Nat → Timestamp) :
    (passOver clock calm cx w.store).1 = .ok .never ∧
      ∃ g', (passOver clock calm cx w.store).2.store.goops.get? cx.key = some g' ∧
        g'.ledger.isComplete .finalized = true := by
  cases hf : g.ledger.isComplete .finalized with
  | true =>
    obtain ⟨hresult, -, huntouched⟩ := drained_rests hquiet (drained_of_finalized hg hf) clock
    exact ⟨hresult, g, huntouched.goops ▸ hg, hf⟩
  | false =>
    have hscene := Scene.of_quiet hquiet cx.key
    rw [hlosses, show w.store.goops.get? cx.key = some g from hg] at hscene
    obtain ⟨hresult, g', hfinalized, hend⟩ :=
      hscene.settles (hw.sound_of_closing hg hf) hd ht clock
    exact ⟨hresult, g', hend.job, hfinalized⟩

end closing

/-- Let a store be reached in any way in which the operator alone writes status, and let no failure
wait and no status write be about to be lost. Passes that are then alone with a job that is to be
deleted take two turns at most to be done with it. If the finalizer is attached, the first one takes
it off and asks for another one at once: the job and its workload are gone, or the job keeps its
other finalizers, in their order. If it is not attached, the first pass leaves the job finalized and
asks for no other one. After two passes the job is gone or finalized, and once it is, passes return
that there is nothing to do, and write nothing. -/
theorem deletion_drains {token : String} {w : World} (hw : Reachable chain (Closing token) w)
    (hquiet : ∀ op, w.store.faults op = []) (hlosses : w.store.lossesLeft = 0) {k : ObjectKey}
    {g : Goop} (hg : w.job? k = some g) (hd : g.isDeletionRequested = true)
    (clock : Nat → Nat → Timestamp) {cx : Nat → Context}
    (hcx : ∀ n, (cx n).key = k ∧ (cx n).settings.finalizer = token) :
    (g.hasFinalizer token = true → resultAfter clock cx w.store 0 = .ok .now ∧
      (afterPasses clock cx w.store 1).Parted token k g) ∧
    (g.hasFinalizer token = false → resultAfter clock cx w.store 0 = .ok .never ∧
      ∃ g', (afterPasses clock cx w.store 1).goops.get? k = some g' ∧
        g'.ledger.isComplete .finalized = true) ∧
    (∀ n, 2 ≤ n → (afterPasses clock cx w.store n).Drained k) ∧
    ∀ n, (afterPasses clock cx w.store n).Drained k →
      resultAfter clock cx w.store n = .ok .never ∧
        AsksNoWrite (clock n) (cx n) (afterPasses clock cx w.store n) ∧
        (afterPasses clock cx w.store n).Untouched (afterPasses clock cx w.store (n + 1)) := by
  obtain ⟨rfl, rfl⟩ := hcx 0
  have hkey : ∀ n, (cx n).key = (cx 0).key := fun n => (hcx n).1
  have hrests := fun n (h : (afterPasses clock cx w.store n).Drained (cx 0).key) =>
    drained_rests (quiet_afterPasses clock cx hquiet n) ((hkey n).symm ▸ h) (clock n)
  cases ht : g.hasFinalizer (cx 0).settings.finalizer with
  | false =>
    obtain ⟨hresult, g', hg', hfinalized⟩ := hw.settles hquiet hlosses hg hd ht (clock 0)
    have hone : (afterPasses clock cx w.store 1).Drained (cx 0).key :=
      drained_of_finalized hg' hfinalized
    exact ⟨nofun, fun _ => ⟨hresult, g', hg', hfinalized⟩,
      fun n hn => drained_afterPasses hquiet hkey (Nat.le_of_succ_le hn) hone, hrests⟩
  | true =>
    obtain ⟨hresult, hparts⟩ := hw.parts hquiet hlosses hg hd ht (clock 0)
    rcases hparts with ⟨hlast, hend⟩ | ⟨g', hfreed, hheld, hsound, wl, hend⟩
    · have hone : (afterPasses clock cx w.store 1).Drained (cx 0).key := drained_of_gone hend.job
      exact ⟨fun _ => ⟨hresult, .gone hlast hend.job hend.workload⟩, nofun,
        fun n hn => drained_afterPasses hquiet hkey (Nat.le_of_succ_le hn) hone, hrests⟩
    · -- the second pass finds the job without the finalizer
      have hd' : g'.isDeletionRequested = true := hfreed.isDeletionRequested.trans hd
      have ht' : g'.hasFinalizer (cx 1).settings.finalizer = false :=
        (hcx 1).2.symm ▸ hfreed.hasFinalizer
      have hscene : Scene w.store (cx 1).key (some g') wl 0 (afterPasses clock cx w.store 1) :=
        (hkey 1).symm ▸ hend
      obtain ⟨-, g₂, hfinalized, hend₂⟩ :=
        hscene.settles ((hkey 1).symm ▸ hsound) hd' ht' (clock 1)
      have htwo : (afterPasses clock cx w.store 2).Drained (cx 0).key :=
        hkey 1 ▸ drained_of_finalized hend₂.job hfinalized
      exact ⟨fun _ => ⟨hresult, .held hend.job hfreed hheld⟩, nofun,
        fun n hn => drained_afterPasses hquiet hkey hn htwo, hrests⟩

namespace Sample

/-- A job that the operator and something else hold is created, and its deletion is requested before
any pass has begun it. -/
def unbegun : World := (init 1).run chain
  [.insert (job.withFinalizers ["hold", defaultFinalizer]) "uid" noon, .requestDeletion key noon]

/-- These moves are allowed. -/
theorem reachable_unbegun : Reachable chain (Closing defaultFinalizer) unbegun :=
  ⟨1, leads_run ⟨⟨rfl, fun _ _ => rfl⟩, trivial, trivial⟩⟩

/-- All passes are at noon. -/
def noons (_ _ : Nat) : Timestamp := noon

/-- All passes are over the sample job, under the same settings. -/
def visits (_ : Nat) : Context := cx

end Sample

/-- The first pass over the sample job begins it and takes the finalizer off, the second one records
that, and the third one has nothing to do. -/
theorem sample_drains : Reachable chain (Closing defaultFinalizer) unbegun ∧
    ∃ g, unbegun.job? key = some g ∧ g.isDeletionRequested = true ∧
      resultAfter noons visits unbegun.store 0 = .ok .now ∧
      (afterPasses noons visits unbegun.store 1).Parted defaultFinalizer key g ∧
      (afterPasses noons visits unbegun.store 2).Drained key ∧
      resultAfter noons visits unbegun.store 2 = .ok .never := by
  have hvisits : ∀ n, (visits n).key = key ∧ (visits n).settings.finalizer = defaultFinalizer :=
    fun _ => ⟨rfl, rfl⟩
  obtain ⟨hheld, -, hdrained, hrests⟩ :=
    deletion_drains reachable_unbegun (fun _ => rfl) rfl rfl rfl noons hvisits
  obtain ⟨hresult, hparted⟩ := hheld (by decide)
  have htwo := hdrained 2 (Nat.le_refl 2)
  exact ⟨reachable_unbegun, _, rfl, rfl, hresult, hparted, htwo, (hrests 2 htwo).1⟩

end World

end GoopOperator
