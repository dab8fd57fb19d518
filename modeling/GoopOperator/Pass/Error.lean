import GoopOperator.Store.Basic

/-!
# Why a pass fails

The causes for which one pass over a job ends without a result.
-/

namespace GoopOperator

/-- Why a pass fails. -/
inductive PassError where
  /-- The store refused a call. -/
  | store (error : StoreError)
  /-- The job is not in a state that the pass can work on. -/
  | precondition (message : String)
  /-- The job has been deployed, and its workload is not there. -/
  | missingWorkload (key : ObjectKey)
  /-- The settings lack something. -/
  | settings (message : String)
  /-- The pass was cancelled. -/
  | cancelled
  /-- The time of the pass was up. -/
  | deadlineExceeded
  deriving DecidableEq

namespace PassError

/-- The failure of a pass over a job without a key. -/
def ofKeyError (e : KeyError) : PassError := .precondition e.message

/-- A short label of an error. -/
def label : PassError → String
  | .store e => e.label
  | .precondition _ => "precondition"
  | .missingWorkload _ => "missing_workload"
  | .settings _ => "config"
  | .cancelled => "cancelled"
  | .deadlineExceeded => "deadline"

/-- The wording of an error. -/
def message : PassError → String
  | .store e => e.message
  | .precondition m => "precondition failed: " ++ m
  | .missingWorkload key =>
    "child workload " ++ key.toText ++ " is missing although the goop is deployed"
  | .settings m => "configuration: " ++ m
  | .cancelled => "reconcile pass cancelled"
  | .deadlineExceeded => "reconcile pass deadline exceeded"

/-- Whether the store did not find an object. -/
def isNotFound : PassError → Bool
  | .store e => e.isNotFound
  | _ => false

/-- Whether the store found an object changed. -/
def isConflict : PassError → Bool
  | .store e => e.isConflict
  | _ => false

end PassError

end GoopOperator
