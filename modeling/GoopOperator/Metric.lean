import GoopOperator.Pass.Stage

/-!
# What the operator counts

Passes by how they ended, the errors of passes and of the API server by their label, and the time that
passes took.
-/

namespace GoopOperator

/-- Something that is counted. -/
inductive Metric where
  /-- The time that a pass took. -/
  | passLatency
  /-- A pass that asked for this. -/
  | passEnded (requeue : Requeue)
  /-- A pass that failed. -/
  | passFailed
  /-- A pass that failed for this reason. -/
  | passError (e : PassError)
  /-- A call that the API server refused for this reason. -/
  | storeError (e : StoreError)

namespace Metric

/-- The name of what is counted, with its label. -/
def name : Metric → String
  | .passLatency => "goop_reconcile_latency_ms"
  | .passEnded .never => "goop_reconcile_total\x7boutcome=done\x7d"
  | .passEnded .now => "goop_reconcile_total\x7boutcome=requeue\x7d"
  | .passEnded (.after _) => "goop_reconcile_total\x7boutcome=requeue_after\x7d"
  | .passFailed => "goop_reconcile_total\x7boutcome=error\x7d"
  | .passError e => "goop_reconcile_errors_total\x7bkind=" ++ e.label ++ "\x7d"
  | .storeError e => "goop_store_errors_total\x7bkind=" ++ e.label ++ "\x7d"

/-- What is counted for a pass. -/
def ofPass : Except PassError Requeue → List Metric
  | .ok requeue => [.passLatency, .passEnded requeue]
  | .error e => [.passLatency, .passFailed, .passError e]

/-- How often each name stands among what was counted. -/
def tally (metrics : List Metric) : StringMap Nat :=
  metrics.foldl (fun counts m => counts.insert m.name ((counts.get? m.name).getD 0 + 1)) ∅

end Metric

end GoopOperator
