import GoopOperator.Proofs.World.Deletion
import GoopOperator.Proofs.World.Moments

/-!
# The life of a stored job

Where users create jobs only where there is none, and nobody edits a job in place, what the store
keeps of a job belongs to different writers: its identity is fixed when it is created, the status
comes from status writes alone, the rest from other writes, and a request for its deletion stands.
`jobs_live_in_order` says so for each move and for a whole run, up to the move with which the job
goes away. All of it is read off what a move can do to a stored job (`fate_of_apply`).
-/

namespace GoopOperator

/-- What `update` writes of a job is the same in both. -/
structure Goop.SameContent (g g' : Goop) : Prop where
  /-- The spec. -/
  spec : g'.spec = g.spec
  /-- The labels. -/
  labels : g'.metadata.labels = g.metadata.labels
  /-- The annotations. -/
  annotations : g'.metadata.annotations = g.metadata.annotations
  /-- The finalizers. -/
  finalizers : g'.metadata.finalizers = g.metadata.finalizers

/-- The second job is what may have become of the first one. -/
structure Goop.SameLife (g g' : Goop) : Prop where
  /-- The unique id stays. -/
  uid : g'.metadata.uid = g.metadata.uid
  /-- The namespace stays. -/
  ns : g'.metadata.ns = g.metadata.ns
  /-- The name stays. -/
  name : g'.metadata.name = g.metadata.name
  /-- So does the beginning of a generated name. -/
  generateName : g'.metadata.generateName = g.metadata.generateName
  /-- The time of the creation stays. -/
  creation : g'.metadata.creationTimestamp = g.metadata.creationTimestamp
  /-- A request for the deletion stands, and keeps its time. -/
  deletion : g.isDeletionRequested = true →
    g'.metadata.deletionTimestamp = g.metadata.deletionTimestamp
  /-- After it there is no new finalizer. -/
  finalizers : g.isDeletionRequested = true → ∀ t ∈ g'.finalizers, t ∈ g.finalizers

namespace Goop.SameLife

theorem refl (g : Goop) : g.SameLife g :=
  ⟨rfl, rfl, rfl, rfl, rfl, fun _ => rfl, fun _ _ ht => ht⟩

theorem trans {g g' g'' : Goop} (h : g.SameLife g') (h' : g'.SameLife g'') : g.SameLife g'' := by
  have hrequested : g.isDeletionRequested = true → g'.isDeletionRequested = true := by
    intro hd
    rw [isDeletionRequested, h.deletion hd]
    exact hd
  exact ⟨h'.uid.trans h.uid, h'.ns.trans h.ns, h'.name.trans h.name,
    h'.generateName.trans h.generateName, h'.creation.trans h.creation,
    fun hd => (h'.deletion (hrequested hd)).trans (h.deletion hd),
    fun hd t ht => h.finalizers hd t (h'.finalizers (hrequested hd) t ht)⟩

end Goop.SameLife

namespace World

open Lifecycle MemoryStore

/-- Users create jobs where there is none, without a request for their deletion, and nobody edits a
job in place. -/
def Proper (w : World) : Move → Prop
  | .insert g _ _ => g.isDeletionRequested = false ∧ ∀ k, g.key = .ok k → w.job? k = none
  | .edit _ _ => False
  | _ => True

/-- The job stays with the same identity, and what the move changes is the move's to change. -/
structure Endures (w : World) (m : Move) (k : ObjectKey) (g g' : Goop) : Prop
    extends g.SameLife g' where
  /-- The time of a request for the deletion comes from such a request. -/
  request : g'.metadata.deletionTimestamp = g.metadata.deletionTimestamp ∨
    ∃ now, m = .requestDeletion k now
  /-- The status comes from a write of the status. -/
  status : g'.status = g.status ∨ ∃ incoming, w.Makes m (.updateStatus incoming) ∧
    w.store.Fits k incoming g ∧ g'.status = incoming.status
  /-- The spec, labels, annotations and finalizers come from a write of these. -/
  content : g.SameContent g' ∨ ∃ incoming, w.Makes m (.update incoming) ∧
    w.store.Fits k incoming g ∧ incoming.SameContent g'

/-- How a job goes away. -/
inductive Departs (w : World) (m : Move) (k : ObjectKey) (g : Goop) : Prop where
  /-- A user asks for that, and nothing holds the job. -/
  | requested {now : Timestamp} (hm : m = .requestDeletion k now) (hfree : g.finalizers = [])
  /-- It is to be deleted, and is written without a finalizer. -/
  | released {incoming : Goop} (hm : w.Makes m (.update incoming))
    (fits : w.store.Fits k incoming g) (hd : g.isDeletionRequested = true)
    (hlast : incoming.finalizers = [])

section life

variable {chain : Chain} {w w' : World} {m : Move} {k : ObjectKey} {g g' : Goop}

/-- Proper moves leave each job its key. -/
theorem Proper.keepsKeys (hm : w.Proper m) : KeepsKeys m := by
  cases m with
  | edit key f => exact hm.elim
  | _ => trivial

/-- Proper moves put no job in the place of another one. -/
theorem Proper.not_insert (hm : w.Proper m) (hg : w.job? k = some g) :
    ∀ g₁ uid now, m = .insert g₁ uid now → g₁.key ≠ .ok k := by
  rintro g₁ uid now rfl hk
  exact Option.some_ne_none g (hg.symm.trans (hm.2 k hk))

/-- A job that stays endures. -/
theorem Proper.endures (hm : w.Proper m) (hg : w.job? k = some g)
    (hg' : (w.apply chain m).job? k = some g') : Endures w m k g g' := by
  have hsame : g.SameContent g := ⟨rfl, rfl, rfl, rfl⟩
  have hfate := fate_of_stored chain (hm.not_insert hg) hg hg'
  generalize (w.apply chain m).store = s' at hfate
  cases hfate with
  | kept => exact ⟨.refl g, Or.inl rfl, Or.inl rfl, Or.inl hsame⟩
  | marked hheld =>
    rename_i now
    -- a request that stands keeps its time
    have hdeletion : g.isDeletionRequested = true →
        (requested g now).metadata.deletionTimestamp = g.metadata.deletionTimestamp := by
      intro hd
      obtain ⟨t, ht⟩ := Option.isSome_iff_exists.mp hd
      simp only [requested, ht]
      rfl
    exact ⟨⟨rfl, rfl, rfl, rfl, rfl, hdeletion, fun _ _ ht => ht⟩, Or.inr ⟨_, rfl⟩, Or.inl rfl,
      Or.inl ⟨rfl, rfl, rfl, rfl⟩⟩
  | edited => exact hm.elim
  | updated hmakes fits old hheld =>
    exact ⟨⟨rfl, rfl, rfl, rfl, rfl, fun _ => rfl, old⟩, Or.inl rfl, Or.inl rfl,
      Or.inr ⟨_, hmakes, fits, rfl, rfl, rfl, rfl⟩⟩
  | recorded hmakes fits =>
    exact ⟨⟨rfl, rfl, rfl, rfl, rfl, fun _ => rfl, fun _ _ ht => ht⟩, Or.inl rfl,
      Or.inr ⟨_, hmakes, fits, rfl⟩, Or.inl ⟨rfl, rfl, rfl, rfl⟩⟩

/-- A job that does not stay departs. -/
theorem Proper.departs (hm : w.Proper m) (hg : w.job? k = some g)
    (hgone : (w.apply chain m).job? k = none) : Departs w m k g := by
  have hfate := fate_of_apply chain (hm.not_insert hg) hg
  rw [hgone] at hfate
  cases hfate with
  | removed hfree => exact .requested rfl hfree
  | released hmakes fits hd hlast => exact .released hmakes fits hd hlast

/-- A finalizer holds each stored job that is to be deleted. -/
theorem Reachable.held_by_finalizer (hw : Reachable chain Proper w) :
    ∀ k g, w.job? k = some g → g.isDeletionRequested = true → g.finalizers ≠ [] := by
  refine Reachable.of_stored
    (Q := fun _ _ g => g.isDeletionRequested = true → g.finalizers ≠ [])
    (fun w g uid now k hm _ hd => ?_) (fun w m _ hm k g g' hg hg' ih hd => ?_) hw
  · exact absurd (hm.1.symm.trans hd) Bool.false_ne_true
  · have hfate := fate_of_stored chain (Proper.not_insert hm hg) hg hg'
    generalize (w.apply chain m).store = s' at hfate
    cases hfate with
    | kept => exact ih hd
    | marked hheld => exact hheld
    | edited => exact hm.elim
    | updated hmakes fits old hheld => exact hheld hd
    | recorded hmakes fits => exact ih hd

/-- The workload at a key goes away with the job. -/
theorem workload_gone (hg : w.job? k = some g) (hgone : (w.apply chain m).job? k = none) :
    (w.apply chain m).workload? k = none := by
  have hsettled := resettled_of_apply chain w m k
  generalize hs' : (w.apply chain m).store = s' at hsettled
  have hgone' : s'.goops.get? k = none := hs' ▸ hgone
  have hstays : ¬ s'.goops = w.store.goops := by
    intro hjobs
    rw [hjobs] at hgone'
    exact Option.some_ne_none g (hg.symm.trans hgone')
  generalize (w.apply chain m).workload? k = o at hsettled ⊢
  cases hsettled with
  | kept hjob => exact absurd (hg.symm.trans (hjob hgone')) (Option.some_ne_none g)
  | purged hjob => rfl
  | deleted hjobs => rfl
  | adjusted hwl hjobs => exact absurd hjobs hstays
  | created hmakes hk hnone howner hjobs => exact absurd hjobs hstays

/-- What becomes of a job while it stays stored. -/
theorem Leads.sameLife (h : Leads chain (Staying chain Proper k) w w') (hg : w.job? k = some g) :
    ∃ g', w'.job? k = some g' ∧ g.SameLife g' := by
  refine h.invariant (P := fun w' => ∃ g', w'.job? k = some g' ∧ g.SameLife g') ⟨g, hg, .refl g⟩ ?_
  rintro w₁ m ⟨g₁, hg₁, hlife⟩ ⟨hm, hstays⟩
  obtain ⟨g', hg'⟩ := Option.ne_none_iff_exists'.mp hstays
  exact ⟨g', hg', hlife.trans (hm.endures hg₁ hg').toSameLife⟩

end life

/-- However passes, other clients, users and the cluster follow each other: each job is stored at its
own key, and a finalizer holds each one that is to be deleted. A move leaves a stored job its
identity and changes in it only what is the move's to change, or the job departs for want of
finalizers and takes the workload at its key with it. And as long as it is stored, its identity and
the time of a request for its deletion stay, and after the request it gets no new finalizer. -/
theorem jobs_live_in_order {chain : Chain} {w : World} (hw : Reachable chain Proper w)
    {k : ObjectKey} {g : Goop} (hg : w.job? k = some g) :
    g.key = .ok k ∧ (g.isDeletionRequested = true → g.finalizers ≠ []) ∧
      (∀ m, w.Proper m →
        (∀ g', (w.apply chain m).job? k = some g' → Endures w m k g g') ∧
        ((w.apply chain m).job? k = none →
          Departs w m k g ∧ (w.apply chain m).workload? k = none)) ∧
      ∀ w', Leads chain (Staying chain Proper k) w w' → ∃ g', w'.job? k = some g' ∧ g.SameLife g' := by
  have hcoherent : w.Coherent := hw.coherent fun _ _ hm => hm.keepsKeys
  refine ⟨hcoherent.keyed k g hg, hw.held_by_finalizer k g hg, fun m hm => ⟨fun g' hg' => ?_,
    fun hgone => ⟨?_, workload_gone hg hgone⟩⟩, fun w' h => Leads.sameLife h hg⟩
  · exact hm.endures hg hg'
  · exact hm.departs hg hgone

namespace Sample

/-- A job that something holds is created, and its deletion is requested. -/
def doomed : World := (init 1).run chain
  [.insert (job.withFinalizers ["hold"]) "uid" noon, .requestDeletion key noon]

/-- These moves are proper. -/
theorem reachable_doomed : Reachable chain Proper doomed :=
  ⟨1, leads_run ⟨⟨rfl, fun _ _ => rfl⟩, trivial, trivial⟩⟩

/-- Some time after noon. -/
def evening : Timestamp := ⟨noon.date, 18, 0, 0, by decide⟩

/-- A client takes all finalizers off a job. -/
def letGo (g : Goop) : Move := .client (.update (g.withFinalizers []))

end Sample

open Sample in
/-- A second request for the deletion of the sample job leaves the time of the first one, and the job
departs when its finalizer is taken off. -/
theorem sample_departs : Reachable chain Proper doomed ∧ ∃ g, doomed.job? key = some g ∧
    g.key = .ok key ∧ g.metadata.deletionTimestamp = some noon ∧
    (∃ g', (doomed.apply chain (.requestDeletion key evening)).job? key = some g' ∧
      g'.metadata.deletionTimestamp = some noon) ∧
    (doomed.apply chain (letGo g)).job? key = none ∧ Departs doomed (letGo g) key g := by
  obtain ⟨g, hg⟩ : ∃ g, doomed.job? key = some g := ⟨_, rfl⟩
  obtain ⟨hkey, -, hmoves, hlater⟩ := jobs_live_in_order reachable_doomed hg
  have htime : ∀ g, doomed.job? key = some g → g.metadata.deletionTimestamp = some noon := by
    intro g hg
    obtain rfl := Option.some.inj hg
    rfl
  have hgone : ∀ g, doomed.job? key = some g → (doomed.apply chain (letGo g)).job? key = none := by
    intro g hg
    obtain rfl := Option.some.inj hg
    rfl
  have hstays : Staying chain Proper key doomed (.requestDeletion key evening) :=
    ⟨trivial, Option.some_ne_none _⟩
  obtain ⟨g', hg', hlife⟩ := hlater _ (.single ⟨_, hstays, rfl⟩)
  have hrequested : g.isDeletionRequested = true := Option.isSome_iff_exists.mpr ⟨_, htime g hg⟩
  exact ⟨reachable_doomed, g, hg, hkey, htime g hg,
    ⟨g', hg', (hlife.deletion hrequested).trans (htime g hg)⟩, hgone g hg,
    ((hmoves (letGo g) trivial).2 (hgone g hg)).1⟩

end World

end GoopOperator
