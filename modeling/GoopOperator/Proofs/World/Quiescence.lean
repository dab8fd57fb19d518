import GoopOperator.Proofs.Lifecycle.Rest
import GoopOperator.Proofs.World.LedgerGrowth

/-!
# Repeated passes come to rest

However a store has been reached, a pass that does not ask for another one at once may be repeated
without an effect: it finds the job at rest (`Lifecycle.AtRest`), writes nothing and returns what
it has returned before. The ledgers that this needs to know are those of `Ledger.Grown`, and so the
jobs may have been created wherever and whenever users liked.
-/

namespace GoopOperator.World

open Pass Lifecycle Bench Sample

/-- A pass over the job of `cx` that is alone with a store asks for no write. -/
def AsksNoWrite (clock : Nat → Timestamp) (cx : Context) (s : MemoryStore) : Prop :=
  Meets (respond clock calm) (fun e _ => e.isWrite = false) (fun _ _ => True) (reconcile chain cx)
    (.new s)

/-- Let a store be reached in any way, and let no failure wait, no status write be about to be lost,
and new workloads be meant for some node. If an undisturbed pass returns anything but that it is
to be repeated at once, then the same pass, repeated, returns the same, asks for no write, and
leaves all jobs and all workloads exactly as they are. -/
theorem repeated_pass_is_idle {w : World} (hw : Reachable chain Plain w)
    (hquiet : ∀ op, w.store.faults op = []) (hlosses : w.store.lossesLeft = 0)
    (hnodes : w.store.nodes ≠ 0) (cx : Context) (clock clock' : Nat → Timestamp)
    (hr : (passOver clock calm cx w.store).1 ≠ .ok .now) :
    let s := (passOver clock calm cx w.store).2.store
    (passOver clock' calm cx s).1 = (passOver clock calm cx w.store).1 ∧
      AsksNoWrite clock' cx s ∧ s.Untouched (passOver clock' calm cx s).2.store := by
  have hw' : Reachable (cleaning .nothing) Plain w := hw
  have hcoherent : w.Coherent := hw.coherent fun _ _ h => h.1.keepsKeys
  have hgrown := hw'.grown isReadOnly_nothing fun _ _ h => h
  have hscene := Scene.of_quiet hquiet cx.key
  rw [hlosses] at hscene
  obtain ⟨o, wl, hend, hrest⟩ := hscene.rests hnodes (hcoherent.keyed cx.key) (hgrown cx.key)
    clock hr
  have hmeets : Meets (respond clock' calm) _ _ (reconcile chain cx)
      (.new (passOver clock calm cx w.store).2.store) := meets_rest hend hrest
  have hagain := hmeets.run
  exact ⟨hagain.1, hmeets.mono fun _ _ _ => trivial, hagain.2.1⟩

namespace Sample

/-- A pass over the sample job has created its workload, which is then removed by someone else. -/
def bereft : World := (world 14).run chain [.deleteWorkload key]

/-- Nothing about these moves is out of the ordinary. -/
theorem reachable_bereft : Reachable chain Plain bereft := by
  have hinsert : (init 1).Plain (.insert job "uid" noon) := ⟨trivial, rfl⟩
  have hpasses : ∀ w : World, w.Plain (.pass 0 turn) := fun _ => ⟨trivial, trivial⟩
  have hworld : Reachable chain Plain (world 14) :=
    ⟨1, leads_run ⟨hinsert, ⟨trivial, trivial⟩, allowed_replicate hpasses _ 14⟩⟩
  exact hworld.leads (leads_run ⟨⟨trivial, trivial⟩, trivial⟩)

end Sample

/-- A pass over the sample job fails for want of the workload and says so in the ledger; the next
pass fails in the same way, and writes nothing. -/
theorem sample_idle :
    let s := (passOver (fun _ => noon) calm cx bereft.store).2.store
    (s.goops.get? key).map (fun g => g.ledger.kinds) =
        some [(.available, .initialized), (.available, .deployed), (.degraded, .deployed)] ∧
      (passOver (fun _ => noon) calm cx s).1 = .error (.missingWorkload key) ∧
      AsksNoWrite (fun _ => noon) cx s ∧
      s.Untouched (passOver (fun _ => noon) calm cx s).2.store := by
  have hr : (passOver (fun _ => noon) calm cx bereft.store).1 = .error (.missingWorkload key) := rfl
  have h := repeated_pass_is_idle reachable_bereft (fun op => by cases op <;> rfl) rfl (by decide) cx
    (fun _ => noon) (fun _ => noon) fun hnow => nomatch hr.symm.trans hnow
  exact ⟨rfl, h.1.trans hr, h.2⟩

end GoopOperator.World
