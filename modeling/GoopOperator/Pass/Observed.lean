import GoopOperator.Metric
import GoopOperator.Pass.Timed
import GoopOperator.Store.Memory

/-!
# A store and what goes on beside it

While passes run over a store, some things are counted and some work is done outside. `Observed` is a
store together with the record of both. `MemoryStore.surroundings` runs passes over a store in memory
that takes the same time for every call.
-/

namespace GoopOperator

/-- A store with the record of what went on beside it. -/
structure Observed (σ : Type) where
  /-- The store. -/
  store : σ
  /-- What was counted, the last first. -/
  metrics : List Metric
  /-- The work that was done outside, the last first. -/
  tasks : List Json

namespace Observed

/-- A store of which nothing has been recorded. -/
def new (store : σ) : Observed σ := ⟨store, [], []⟩

/-- The record with something more counted. -/
def count (o : Observed σ) (metrics : List Metric) : Observed σ :=
  { o with metrics := metrics.reverse ++ o.metrics }

/-- The record with some more work. Work outside always succeeds. -/
def work (task : Json) (o : Observed σ) : Except PassError Unit × Observed σ :=
  (.ok (), { o with tasks := task :: o.tasks })

end Observed

/-- The surroundings of a pass over a store in memory that takes `latency` for every call before it
acts at once. -/
def MemoryStore.surroundings (latency : Duration) (timeOfDay : Instant → Timestamp) :
    Surroundings (Observed MemoryStore) where
  take c _ o :=
    (⟨latency, fun o =>
      let (r, store) := MemoryStore.answer c o.store
      (r, { o with store })⟩, o)
  timeOfDay := timeOfDay
  work := Observed.work

end GoopOperator
