import GoopOperator.Proofs.Lifecycle.Calls

/-!
# Failures of a pass

Whatever a store answers, a pass makes few calls, and a call that fails is not made again. The
failure ends the pass and is what the pass ends with (`failures_surface`), unless the store lacks an
object that may be wanting: a job that is not there any more needs nothing, and a workload that is
not there is created, or reported as missing.
-/

namespace GoopOperator.Lifecycle

open Pass

/-- Whatever the store answers to the calls of a pass: after a call that the store fails, the pass
ends with that failure, unless the store lacks the job or the workload, in one of the ways that
`AfterFailure` lists; and the pass makes at most 13 calls, of which at most 5 write. -/
theorem failures_surface (cx : Context) :
    (∀ h c e rest, Path (reconcile chain cx) (⟨.call c, .error (.store e)⟩ :: h) rest →
      AfterFailure cx h c (.store e) rest) ∧
    ∀ h rest, Path (reconcile chain cx) h rest → callsIn h ≤ 13 ∧ writesIn h ≤ 5 := by
  refine ⟨fun h c e rest hp => ?_, fun h rest hp => few_of_path hp⟩
  cases hp with
  | step hp a => exact (callSite_of_path hp).failure (.store e)

/-! ### A sample -/

namespace SamplePass

/-- The sample job while it is being deleted, when nothing holds it any more. -/
def leaving : Goop :=
  { job with
    metadata := { job.metadata with deletionTimestamp := some noon }
    status := some ⟨⟨[initialized]⟩⟩ }

/-- The record that its finalizer has been released. -/
def farewell : StoreCall :=
  .updateStatus (leaving.withLedger (leaving.ledger.push (finalized leaving) noon.toText))

/-- The job has been read, and the clock has been looked at. -/
def seen : History := [⟨.clock, noon⟩, ⟨.call (.get cx.key), .ok leaving⟩]

/-- What the store answers where the job is gone. -/
def gone : StoreError := .notFound .goop cx.key

/-- A pass that finds the job gone when it records the release of its finalizer ends well. -/
theorem path_farewell : Path (reconcile chain cx) (⟨.call farewell, .error (.store gone)⟩ :: seen)
    (.done (.ok .never)) := by
  have hread := path_read cx leaving
  have hseen := Path.step (e := .clock) hread noon
  exact Path.step (e := .call farewell) hseen (Except.error (.store gone))

end SamplePass

open SamplePass in
/-- Such a pass makes two calls, one of which writes, and the failure of the second is one of those
that end a pass well. -/
theorem sample_failure :
    Path (reconcile chain cx) (⟨.call farewell, .error (.store gone)⟩ :: seen)
        (.done (.ok .never)) ∧
      AfterFailure cx seen farewell (.store gone) (.done (.ok .never)) ∧
      callsIn (⟨.call farewell, .error (.store gone)⟩ :: seen) = 2 ∧
      writesIn (⟨.call farewell, .error (.store gone)⟩ :: seen) = 1 :=
  ⟨path_farewell, (failures_surface cx).1 _ _ _ _ path_farewell, rfl, rfl⟩

end GoopOperator.Lifecycle
