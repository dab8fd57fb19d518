import GoopOperator.Pass.Stage
import GoopOperator.Workload.Plan

/-!
# The lifecycle of a job

The stages of a pass. The state of a job is read off its condition ledger:

```text
(empty) → Initialized/Unknown → Initialized/True → Deployed → Completed
                 \___________ deletion requested ___________/
                                    |
                         finalizer released → Finalized
```

Each stage acts only in the state that it belongs to, so a pass that comes too late changes nothing.
Deletion is looked at before creation and completion: a job that is to be deleted gets no further.
-/

namespace GoopOperator.Lifecycle

/-- Records a condition in the ledger of a job, writes its status and reads the job again. A condition
that the ledger already holds costs no call. -/
def record (cx : Context) (goop : Goop) (c : Condition) : Pass Goop := do
  let now ← Pass.clock
  match goop.ledger.set? c now.toText with
  | none => pure goop
  | some ledger =>
    let _ ← Pass.call (.updateStatus (goop.withLedger ledger))
    cx.fetch

/-- The condition that starts an empty ledger. -/
def starting : Condition := .available .unknown .initialized "Starting reconciliation"

/-- Starts an empty ledger. Where the store does not show the entry yet, the job is looked at again
at once. -/
def start : Stage where
  name := "ensure_initialization"
  handle cx goop :=
    if goop.ledger.isInitial then do
      let goop ← record cx goop starting
      pure (if goop.ledger.isInitial then .stop .now else .next goop)
    else pure (.next goop)

/-- The condition of a job whose finalizer is attached. -/
def initialized : Condition := .available .yes .initialized "Initialization completed"

/-- Attaches the finalizer of the operator to a job that is being initialized and reads the job again.
A job that is being deleted takes no finalizer. -/
def attachToken (cx : Context) (goop : Goop) : Pass Goop :=
  let token := cx.settings.finalizer
  if goop.ledger.isState .initialized ∧ ¬ goop.hasFinalizer token ∧ ¬ goop.isDeletionRequested
  then do
    let _ ← Pass.call (.update (goop.addFinalizer token))
    cx.fetch
  else pure goop

/-- Attaches the finalizer, and records that initialization is complete. -/
def attachFinalizer : Stage where
  name := "ensure_finalizer"
  handle cx goop := do
    let goop ← attachToken cx goop
    if goop.ledger.isIncomplete .initialized then
      return .next (← record cx goop initialized)
    else return .next goop

/-- Work to be done before the finalizer is released. -/
abbrev Cleanup := Context → Goop → Pass Unit

/-- No work: what the job owns goes away with it. -/
def Cleanup.nothing : Cleanup := fun _ _ => pure ()

/-- The condition of a job whose finalizer is released and which something else still holds. -/
def finalized (goop : Goop) : Condition :=
  .degraded .yes .finalized ("Finalization for goop " ++ goop.name ++ " completed")

/-- Releases the finalizer of a job that is to be deleted, after the cleanup, and ends the pass. -/
def release (cleanup : Cleanup) : Stage where
  name := "handle_deletion"
  handle cx goop :=
    let token := cx.settings.finalizer
    if goop.ledger.isComplete .finalized then pure (.stop .never)
    else if ¬ goop.isDeletionRequested then pure (.next goop)
    else if goop.hasFinalizer token then do
      cleanup cx goop
      let _ ← Pass.call (.update (goop.removeFinalizer token))
      return .stop .now
    else do
      match ← (record cx goop (finalized goop)).attempt with
      | .ok _ => return .stop .never
      -- the job has gone in the meantime, as it should
      | .error e => if e.isNotFound then return .stop .never else Pass.fail e

/-- The condition of a job whose workload was there already. -/
def adopted (goop : Goop) : Condition :=
  .available .yes .deployed ("Daemonset adopted for goop: " ++ goop.name)

/-- The condition of a job whose workload has been created. -/
def created (goop : Goop) : Condition :=
  .available .yes .deployed ("Daemonset created for goop: " ++ goop.name)

/-- Creates the workload of a job that is initialized. A workload that is there already is adopted,
so that a job does not stay behind its workload. -/
def create : Stage where
  name := "handle_creation"
  handle cx goop :=
    if ¬ goop.ledger.isComplete .initialized then pure (.next goop)
    else do
      match ← (Pass.call (.getWorkload cx.key)).attempt with
      | .ok _ => return .next (← record cx goop (adopted goop))
      | .error e =>
        if e.isNotFound then do
          let spec ← Pass.ofExcept (WorkloadSpec.plan goop cx.settings)
          -- a pass that breaks off between these two calls leaves a workload for the next to adopt
          let _ ← Pass.call (.createWorkload spec)
          let _ ← record cx goop (created goop)
          return .stop (.after cx.settings.pollInterval)
        else Pass.fail e

/-- The condition of a job whose workload is gone. -/
def missing (goop : Goop) : Condition :=
  .degraded .yes .deployed ("Daemonset for goop " ++ goop.name ++ " is missing")

/-- The condition of a job that has run everywhere. -/
def completed (goop : Goop) : Condition :=
  .available .yes .completed ("Daemonset for goop completed successfully: " ++ goop.name)

/-- Looks whether the workload of a deployed job has run everywhere, and records that. -/
def complete : Stage where
  name := "handle_completion"
  handle cx goop :=
    if ¬ goop.ledger.isComplete .deployed then pure (.next goop)
    else do
      match ← (Pass.call (.getWorkload cx.key)).attempt with
      | .error e =>
        if e.isNotFound then do
          let _ ← record cx goop (missing goop)
          Pass.fail (.missingWorkload cx.key)
        else Pass.fail e
      | .ok workload =>
        if workload.isComplete then
          return .next (← record cx goop (completed goop))
        else return .stop (.after cx.settings.pollInterval)

/-- The stages of a job's lifecycle, in their order. -/
def chain : Chain :=
  ⟨[start, attachFinalizer, release .nothing, create, complete]⟩

end GoopOperator.Lifecycle
