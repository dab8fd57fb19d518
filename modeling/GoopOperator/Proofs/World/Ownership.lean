import GoopOperator.Proofs.World.Adoption
import GoopOperator.Proofs.World.Creation

/-!
# No workload without its owner

A pass decides to create a workload on a copy of a job, and the job may go away, or be replaced by
another one of the same name, before the workload is created. The store creates a workload only
while its owner is there, and removes it with the job at its key. So an owner that a workload names
is the job at its key at any time (`Reachable.owner_stored`), and `no_orphaned_workload` says what
this means for the workloads that passes create.
-/

namespace GoopOperator.World

open Lifecycle

/-- A job of the unique id is stored at the key. -/
def Stores (w : World) (k : ObjectKey) (uid : Option String) : Prop :=
  ∃ g, w.job? k = some g ∧ g.metadata.uid = uid

/-- What is owned by a job is stored only while the job is. -/
theorem Reachable.stores_owner {w : World} (hw : Reachable chain KeepsPlaces w) {k : ObjectKey}
    {wl : StoredWorkload} (hwl : w.workload? k = some wl) {g : Goop}
    (howned : wl.spec.OwnedBy g) : w.Stores k g.metadata.uid := by
  obtain ⟨owner, howner, huid⟩ := howned
  rw [huid]
  exact hw.owner_stored k wl owner hwl howner

/-- However passes, other clients, users and the cluster follow each other, call by call: an owner
that a stored workload names is stored at the key of the workload. When a pass creates a workload,
the job that it has in hand owns it, and a job of the same unique id is still stored at the key at
that moment; from then on, a workload that this job owns is there only while the job is. -/
theorem no_orphaned_workload {w : World} (hw : Reachable chain KeepsPlaces w) :
    (∀ k wl owner, w.workload? k = some wl → wl.spec.owner = some owner →
      w.Stores k (some owner.uid)) ∧
    ∀ i t d, w.Creates i t d → ∃ p g, w.passes[i]? = some p ∧ inHand? d.key p.past = some g ∧
      d.OwnedBy g ∧ w.Stores d.key g.metadata.uid ∧
      ∀ w', Leads chain KeepsPlaces (w.apply chain (.pass i t)) w' →
        ∀ wl, w'.workload? d.key = some wl → wl.spec.OwnedBy g →
          w'.Stores d.key g.metadata.uid := by
  refine ⟨hw.owner_stored, fun i t d hc => ?_⟩
  have hcoherent : w.Coherent := hw.coherent fun _ _ h => h.keepsKeys
  obtain ⟨p, g₀, g, hi, h⟩ := hw.created_for hcoherent hc
  have hhand : inHand? d.key p.past = some g₀ := h.key ▸ h.inHand
  refine ⟨p, g₀, hi, hhand, h.owned, ⟨g, h.stored, h.uid⟩, fun w' hleads wl hwl howned => ?_⟩
  have hpass : w.KeepsPlaces (.pass i t) := trivial
  exact ((hw.apply hpass).leads hleads).stores_owner hwl howned

namespace Sample

/-- The sample job may be created in an empty store, and passes over it may go on. -/
theorem keepsPlaces_world (n : Nat) : Reachable chain KeepsPlaces (world n) :=
  ⟨1, leads_run ⟨fun _ _ => rfl, trivial, allowed_replicate (fun _ => trivial) _ n⟩⟩

/-- The sample job while it is being deleted and the pass is about to create its workload. -/
def outgoing : Goop :=
  (((world 10).apply chain (.requestDeletion key noon)).job? key).getD job

/-- Before the pass goes on, the job is deleted and created again. -/
def replacing : List Move :=
  [.requestDeletion key noon, .client (.update (outgoing.withFinalizers [])),
    .insert job "uid2" noon]

/-- The job may be created again, since it is gone. -/
theorem keepsPlaces_replacing : Allowed chain KeepsPlaces (world 10) replacing :=
  ⟨trivial, trivial, fun k hk => by obtain rfl := Except.ok.inj hk; rfl, trivial⟩

end Sample

open Sample in
/-- The pass over the sample job creates the workload if nothing comes in between, and the job is
stored as long as its workload is. If the job is replaced by another one of the same name in between,
the pass creates nothing. -/
theorem sample_owner_replaced :
    Reachable chain KeepsPlaces (world 11) ∧ (world 10).Creates 0 turn jobSpec ∧
      (∃ wl, (world 11).workload? key = some wl ∧ wl.spec = jobSpec) ∧
      (world 11).Stores key (some "uid") ∧
      ((world 10).run chain replacing).Stores key (some "uid2") ∧
      ¬ ((world 10).run chain replacing).Creates 0 turn jobSpec := by
  obtain ⟨wl, hwl, hspec⟩ : ∃ wl, (world 11).workload? key = some wl ∧ wl.spec = jobSpec :=
    ⟨_, rfl, rfl⟩
  have howner : wl.spec.owner = jobSpec.owner := congrArg WorkloadSpec.owner hspec
  have hstores := (no_orphaned_workload (keepsPlaces_world 11)).1 key wl _ hwl howner
  have hreplaced : Reachable chain KeepsPlaces ((world 10).run chain replacing) :=
    (keepsPlaces_world 10).leads (leads_run keepsPlaces_replacing)
  refine ⟨keepsPlaces_world 11, ⟨_, _, rfl, rfl, rfl⟩, ⟨wl, hwl, hspec⟩, hstores, ⟨_, rfl, rfl⟩,
    fun hc => ?_⟩
  obtain ⟨p, g, -, -, ⟨owner, howner, huid⟩, ⟨g', hg', huid'⟩, -⟩ :=
    (no_orphaned_workload hreplaced).2 0 turn jobSpec hc
  -- the owner is the job that was there before
  obtain rfl := Option.some.inj howner
  obtain rfl := Option.some.inj hg'
  exact absurd (huid'.trans huid) (by decide)

end GoopOperator.World
