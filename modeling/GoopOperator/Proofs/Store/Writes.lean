import GoopOperator.Store.Memory

/-!
# What a write does to the jobs of a store

Each operation of a store in memory is described by what it leaves at every key: it keeps all jobs
(`MemoryStore.Keeps`), or sets the job at one key (`MemoryStore.Sets`) and gives it a version that
no job has had before. `answer_update` and `answer_updateStatus` say for the two writes of the
operator when they are refused and what they write otherwise; `requestDeletion_sets` and
`insert_sets` do so for what users do. Nothing else changes a job (`answer_get`,
`answer_getWorkload`, `answer_createWorkload`).
-/

namespace GoopOperator

/-! ## Views of a job that is written -/

namespace Goop

@[simp] theorem key_withLedger (g : Goop) (l : Ledger) : (g.withLedger l).key = g.key := rfl

@[simp] theorem resourceVersion_withLedger (g : Goop) (l : Ledger) :
    (g.withLedger l).metadata.resourceVersion = g.metadata.resourceVersion := rfl

@[simp] theorem key_removeFinalizer (g : Goop) (token : String) :
    (g.removeFinalizer token).key = g.key := rfl

@[simp] theorem resourceVersion_removeFinalizer (g : Goop) (token : String) :
    (g.removeFinalizer token).metadata.resourceVersion = g.metadata.resourceVersion := rfl

/-- Adding a finalizer leaves all but the finalizers. -/
theorem addFinalizer_eq (g : Goop) (token : String) :
    g.addFinalizer token = g ∨
      g.addFinalizer token = g.withFinalizers (g.finalizers ++ [token]) := by
  unfold addFinalizer
  split
  · exact Or.inl rfl
  · exact Or.inr rfl

@[simp] theorem key_addFinalizer (g : Goop) (token : String) :
    (g.addFinalizer token).key = g.key := by
  rcases g.addFinalizer_eq token with h | h <;> rw [h]
  rfl

@[simp] theorem resourceVersion_addFinalizer (g : Goop) (token : String) :
    (g.addFinalizer token).metadata.resourceVersion = g.metadata.resourceVersion := by
  rcases g.addFinalizer_eq token with h | h <;> rw [h]
  rfl

end Goop

namespace MemoryStore

@[simp] theorem key_stamp (s : MemoryStore) (g : Goop) : (s.stamp g).key = g.key := rfl

@[simp] theorem finalizers_stamp (s : MemoryStore) (g : Goop) :
    (s.stamp g).finalizers = g.finalizers := rfl

@[simp] theorem hasFinalizer_stamp (s : MemoryStore) (g : Goop) (token : String) :
    (s.stamp g).hasFinalizer token = g.hasFinalizer token := rfl

@[simp] theorem isDeletionRequested_stamp (s : MemoryStore) (g : Goop) :
    (s.stamp g).isDeletionRequested = g.isDeletionRequested := rfl

@[simp] theorem finalizers_merged (stored incoming : Goop) :
    (merged stored incoming).finalizers = incoming.finalizers := rfl

@[simp] theorem isDeletionRequested_merged (stored incoming : Goop) :
    (merged stored incoming).isDeletionRequested = stored.isDeletionRequested := rfl

/-- Writing a job whose finalizers alone were changed changes its finalizers alone. -/
theorem merged_withFinalizers (g : Goop) (tokens : List String) :
    merged g (g.withFinalizers tokens) = g.withFinalizers tokens := rfl

/-- Writing a job to which a finalizer was added adds the finalizer. -/
theorem merged_addFinalizer (g : Goop) (token : String) :
    merged g (g.addFinalizer token) = g.addFinalizer token := by
  rcases g.addFinalizer_eq token with h | h <;> rw [h]
  · rfl
  · exact merged_withFinalizers g _

/-- Writing the status of a job whose ledger alone was changed changes its ledger alone. -/
theorem withStatus_withLedger (g : Goop) (l : Ledger) :
    { g with status := (g.withLedger l).status } = g.withLedger l := rfl

/-! ## Keeping and setting -/

/-- All jobs stay as they are. -/
structure Keeps (s s' : MemoryStore) : Prop where
  /-- The jobs are the same. -/
  goops : s'.goops = s.goops
  /-- Versions may have been used up. -/
  version : s.version ≤ s'.version

/-- The job at one key becomes `o`, under a version that has not been given before. -/
structure Sets (s s' : MemoryStore) (key : ObjectKey) (o : Option Goop) : Prop where
  /-- The jobs at all keys. -/
  goops : ∀ k, s'.goops.get? k = if k = key then o else s.goops.get? k
  /-- The version is new. -/
  version : s.version < s'.version

theorem Keeps.refl (s : MemoryStore) : Keeps s s := ⟨rfl, Nat.le_refl _⟩

/-- Counting a call keeps the jobs. -/
theorem keeps_charge (s : MemoryStore) (op : Operation) : Keeps s (s.charge op).2 := by
  refine ⟨goops_charge s op, ?_⟩
  unfold charge
  split <;> exact Nat.le_refl _

/-- A call is refused by the failure that waits for it, or done after it has been counted. -/
theorem serve_cases (s : MemoryStore) (op : Operation)
    (act : MemoryStore → Except StoreError α × MemoryStore) :
    (∃ e, (s.serve op act).1 = .error e ∧ Keeps s (s.serve op act).2) ∨
      s.serve op act = act (s.counted op) := by
  have hkeeps := keeps_charge s op
  unfold serve charge
  unfold charge at hkeeps
  cases hf : s.faults op with
  | nil => exact Or.inr rfl
  | cons e rest =>
    rw [hf] at hkeeps
    exact Or.inl ⟨e, rfl, hkeeps⟩

/-! ## The calls of the operator -/

/-- How reading a job is answered. -/
theorem answer_get_eq (s : MemoryStore) (key : ObjectKey) :
    s.answer (.get key) = s.serve .get fun s =>
      ((s.goops.get? key).elim (.error (.notFound .goop key)) .ok, s) := rfl

/-- How reading a workload is answered. -/
theorem answer_getWorkload_eq (s : MemoryStore) (key : ObjectKey) :
    s.answer (.getWorkload key) = s.serve .getWorkload fun s =>
      ((s.workloads.get? key).elim (.error (.notFound .daemonSet key)) fun w => .ok w.rollout, s) :=
  rfl

/-- How creating a workload is answered. -/
theorem answer_createWorkload_eq (s : MemoryStore) (d : WorkloadSpec) :
    s.answer (.createWorkload d) = s.serve .createWorkload (create d) := rfl

/-- How writing a job is answered. -/
theorem answer_update_eq (s : MemoryStore) (g : Goop) :
    s.answer (.update g) =
      match g.key with
      | .error e => (.error (.unprocessable e), s)
      | .ok key => s.serve .update (writeObject key g) := rfl

/-- How writing the status of a job is answered. -/
theorem answer_updateStatus_eq (s : MemoryStore) (g : Goop) :
    s.answer (.updateStatus g) =
      match g.key with
      | .error e => (.error (.unprocessable e), s)
      | .ok key => s.serve .updateStatus (writeStatus key g) := rfl

/-- Reading a job keeps all jobs, and answers with the one at the key. -/
theorem answer_get (s : MemoryStore) (key : ObjectKey) :
    Keeps s (s.answer (.get key)).2 ∧
      ∀ g, (s.answer (.get key)).1 = .ok g → s.goops.get? key = some g := by
  rw [answer_get_eq]
  rcases serve_cases s .get fun s => ((s.goops.get? key).elim (.error (.notFound .goop key)) .ok, s)
    with ⟨e, he, hkeeps⟩ | h
  · rw [he]
    exact ⟨hkeeps, fun g hg => nomatch hg⟩
  · rw [h]
    refine ⟨⟨rfl, Nat.le_refl _⟩, fun g hg => ?_⟩
    rw [show (s.counted .get).goops = s.goops from rfl] at hg
    cases ho : s.goops.get? key with
    | none => rw [ho] at hg; cases hg
    | some g' => rw [ho] at hg; exact congrArg some (Except.ok.inj hg)

/-- Reading a workload keeps all jobs. -/
theorem answer_getWorkload (s : MemoryStore) (key : ObjectKey) :
    Keeps s (s.answer (.getWorkload key)).2 := by
  rw [answer_getWorkload_eq]
  rcases serve_cases s .getWorkload fun s =>
    ((s.workloads.get? key).elim (.error (.notFound .daemonSet key)) fun w => .ok w.rollout, s)
    with ⟨-, -, hkeeps⟩ | h
  · exact hkeeps
  · rw [h]
    exact ⟨rfl, Nat.le_refl _⟩

/-- Creating a workload keeps all jobs. -/
theorem answer_createWorkload (s : MemoryStore) (d : WorkloadSpec) :
    Keeps s (s.answer (.createWorkload d)).2 := by
  rw [answer_createWorkload_eq]
  rcases serve_cases s .createWorkload (create d) with ⟨-, -, hkeeps⟩ | h
  · exact hkeeps
  · rw [h]
    unfold create
    split
    · exact ⟨rfl, Nat.le_refl _⟩
    · split <;> exact ⟨rfl, Nat.le_refl _⟩

/-- The job that a write is based on, where it is the last version. -/
theorem current_cases (s : MemoryStore) (key : ObjectKey) (incoming : Goop) :
    (∃ e, s.current key incoming = .error e) ∨
      ∃ stored, s.current key incoming = .ok stored ∧ s.goops.get? key = some stored ∧
        incoming.metadata.resourceVersion = stored.metadata.resourceVersion := by
  unfold current
  cases hs : s.goops.get? key with
  | none => exact Or.inl ⟨_, rfl⟩
  | some stored =>
    by_cases hv : incoming.metadata.resourceVersion = stored.metadata.resourceVersion
    · exact Or.inr ⟨stored, if_pos hv, rfl, hv⟩
    · exact Or.inl ⟨_, if_neg hv⟩

/-- A write is based on the last version of the job at a key. -/
structure Fits (s : MemoryStore) (key : ObjectKey) (incoming stored : Goop) : Prop where
  /-- The write is one to this key. -/
  key_eq : incoming.key = .ok key
  /-- The job at the key. -/
  stored_eq : s.goops.get? key = some stored
  /-- Its version is the one that the write is based on. -/
  version : incoming.metadata.resourceVersion = stored.metadata.resourceVersion

/-- What a write of the metadata and the spec leaves: nothing where it takes the last finalizer of a
job that is being deleted. -/
def afterUpdate (s : MemoryStore) (stored incoming : Goop) : Option Goop :=
  if stored.isDeletionRequested ∧ incoming.finalizers = [] then none
  else some (s.stamp (merged stored incoming))

/-- What a write of the metadata and the spec leaves, if it leaves a job. -/
theorem of_afterUpdate {s : MemoryStore} {stored incoming g : Goop}
    (h : s.afterUpdate stored incoming = some g) : g = s.stamp (merged stored incoming) := by
  unfold afterUpdate at h
  split at h
  · cases h
  · exact (Option.some.inj h).symm

/-- When a write of the metadata and the spec leaves no job. -/
theorem afterUpdate_eq_none {s : MemoryStore} {stored incoming : Goop}
    (h : s.afterUpdate stored incoming = none) :
    stored.isDeletionRequested = true ∧ incoming.finalizers = [] := by
  unfold afterUpdate at h
  split at h
  · assumption
  · cases h

/-- What a write of the metadata and the spec leaves has a finalizer, if it is to be deleted. -/
theorem finalizers_ne_nil_of_afterUpdate {s : MemoryStore} {stored incoming g : Goop}
    (h : s.afterUpdate stored incoming = some g) (hd : stored.isDeletionRequested = true) :
    incoming.finalizers ≠ [] := by
  intro hnone
  rw [afterUpdate, if_pos ⟨hd, hnone⟩] at h
  cases h

/-- Writing a job sets the job at its key, if the write is not refused. -/
theorem answer_update (s : MemoryStore) (incoming : Goop) :
    (∃ e, (s.answer (.update incoming)).1 = .error e ∧ Keeps s (s.answer (.update incoming)).2) ∨
      ∃ key stored s', s.Fits key incoming stored ∧
        (stored.isDeletionRequested = true → ∀ t ∈ incoming.finalizers, t ∈ stored.finalizers) ∧
        s.answer (.update incoming) = (.ok (s'.stamp (merged stored incoming)), s') ∧
        Sets s s' key (s'.afterUpdate stored incoming) := by
  rw [answer_update_eq]
  cases hkey : incoming.key with
  | error e => exact Or.inl ⟨_, rfl, .refl s⟩
  | ok key =>
    simp only
    rcases serve_cases s .update (writeObject key incoming) with ⟨e, he, hkeeps⟩ | h
    · exact Or.inl ⟨e, he, hkeeps⟩
    rw [h]
    unfold writeObject
    rcases current_cases (s.counted .update) key incoming with ⟨e, he⟩ | ⟨stored, he, hs, hv⟩
    · rw [he]
      exact Or.inl ⟨e, rfl, rfl, Nat.le_refl _⟩
    rw [he]
    simp only
    split
    · exact Or.inl ⟨_, rfl, rfl, Nat.le_succ _⟩
    rename_i hnew
    right
    have hold : stored.isDeletionRequested = true →
        ∀ t ∈ incoming.finalizers, t ∈ stored.finalizers := by
      intro hdel
      simpa [hdel] using hnew
    -- the last finalizer holds a job that is being deleted
    split
    · rename_i hlast
      refine ⟨key, stored, (s.counted .update).advance.purge key, ⟨hkey, hs, hv⟩, hold, rfl, ?_⟩
      rw [afterUpdate, if_pos (by simpa using hlast)]
      exact ⟨fun k => rfl, Nat.lt_succ_self _⟩
    · rename_i hlast
      let s' := (s.counted .update).advance
      refine ⟨key, stored, s'.put key (s'.stamp (merged stored incoming)), ⟨hkey, hs, hv⟩, hold,
        rfl, ?_⟩
      rw [afterUpdate, if_neg (by simpa using hlast)]
      exact ⟨fun k => rfl, Nat.lt_succ_self _⟩

/-- Writing the status of a job sets the job at its key, where it is neither refused nor lost. -/
theorem answer_updateStatus (s : MemoryStore) (incoming : Goop) :
    (∃ e, (s.answer (.updateStatus incoming)).1 = .error e ∧
        Keeps s (s.answer (.updateStatus incoming)).2) ∨
      ∃ key stored s', s.Fits key incoming stored ∧
        ((s.lossesLeft ≠ 0 ∧ s.answer (.updateStatus incoming) = (.ok stored, s') ∧ Keeps s s') ∨
          s.answer (.updateStatus incoming) =
              (.ok (s'.stamp { stored with status := incoming.status }), s') ∧
            Sets s s' key (some (s'.stamp { stored with status := incoming.status }))) := by
  rw [answer_updateStatus_eq]
  cases hkey : incoming.key with
  | error e => exact Or.inl ⟨_, rfl, .refl s⟩
  | ok key =>
    simp only
    rcases serve_cases s .updateStatus (writeStatus key incoming) with ⟨e, he, hkeeps⟩ | h
    · exact Or.inl ⟨e, he, hkeeps⟩
    rw [h]
    unfold writeStatus
    rcases current_cases (s.counted .updateStatus) key incoming with ⟨e, he⟩ | ⟨stored, he, hs, hv⟩
    · rw [he]
      exact Or.inl ⟨e, rfl, rfl, Nat.le_refl _⟩
    rw [he]
    right
    -- a write that is lost answers like one that is not
    cases hn : (s.counted .updateStatus).lossesLeft with
    | succ n =>
      have hlost : s.lossesLeft ≠ 0 := fun h => Nat.succ_ne_zero n (hn.symm.trans h)
      exact ⟨key, stored, _, ⟨hkey, hs, hv⟩, Or.inl ⟨hlost, rfl, rfl, Nat.le_refl _⟩⟩
    | zero =>
      let s' := (s.counted .updateStatus).advance
      exact ⟨key, stored, s'.put key (s'.stamp { stored with status := incoming.status }),
        ⟨hkey, hs, hv⟩, Or.inr ⟨rfl, fun k => rfl, Nat.lt_succ_self _⟩⟩

/-- What a call leaves at a key, in a store that becomes `s'`. -/
inductive Written (s s' : MemoryStore) (k : ObjectKey) : StoreCall → Option Goop → Prop where
  /-- The job stays. -/
  | kept {c : StoreCall} : Written s s' k c (s.goops.get? k)
  /-- Its metadata and its spec are written. -/
  | updated {incoming g : Goop} (fits : s.Fits k incoming g)
    (old : g.isDeletionRequested = true → ∀ t ∈ incoming.finalizers, t ∈ g.finalizers)
    (fresh : s.version < s'.version) :
    Written s s' k (.update incoming) (s'.afterUpdate g incoming)
  /-- Its status is written. -/
  | recorded {incoming g : Goop} (fits : s.Fits k incoming g) (fresh : s.version < s'.version) :
    Written s s' k (.updateStatus incoming) (some (s'.stamp { g with status := incoming.status }))

/-- Where all jobs stay, the one at a key does. -/
theorem Keeps.written {s s' : MemoryStore} (h : Keeps s s') (k : ObjectKey) (c : StoreCall) :
    Written s s' k c (s'.goops.get? k) := by
  rw [h.goops]
  exact .kept

/-- What each call leaves at each key; versions only go up. -/
theorem written_answer (s : MemoryStore) (c : StoreCall) (k : ObjectKey) :
    Written s (s.answer c).2 k c ((s.answer c).2.goops.get? k) ∧
      s.version ≤ (s.answer c).2.version := by
  cases c with
  | get key =>
    have hkeeps := (answer_get s key).1
    exact ⟨hkeeps.written k _, hkeeps.version⟩
  | getWorkload key =>
    have hkeeps := answer_getWorkload s key
    exact ⟨hkeeps.written k _, hkeeps.version⟩
  | createWorkload d =>
    have hkeeps := answer_createWorkload s d
    exact ⟨hkeeps.written k _, hkeeps.version⟩
  | update incoming =>
    rcases answer_update s incoming with ⟨e, -, hkeeps⟩ | ⟨key, g, s', hfits, hold, h, hsets⟩
    · exact ⟨hkeeps.written k _, hkeeps.version⟩
    · rw [h]
      refine ⟨?_, Nat.le_of_lt hsets.version⟩
      rw [hsets.goops]
      by_cases hk : k = key
      · rw [if_pos hk]
        exact .updated (hk ▸ hfits) hold hsets.version
      · rw [if_neg hk]
        exact .kept
  | updateStatus incoming =>
    rcases answer_updateStatus s incoming with
      ⟨e, -, hkeeps⟩ | ⟨key, g, s', hfits, ⟨-, h, hkeeps⟩ | ⟨h, hsets⟩⟩
    · exact ⟨hkeeps.written k _, hkeeps.version⟩
    · rw [h]
      exact ⟨hkeeps.written k _, hkeeps.version⟩
    · rw [h]
      refine ⟨?_, Nat.le_of_lt hsets.version⟩
      rw [hsets.goops]
      by_cases hk : k = key
      · rw [if_pos hk]
        exact .recorded (hk ▸ hfits) hsets.version
      · rw [if_neg hk]
        exact .kept

/-! ## What users do -/

/-- A job that a user creates, as the store keeps it. -/
def inserted (s : MemoryStore) (g : Goop) (uid : String) (now : Timestamp) : Goop :=
  s.stamp { g with metadata := { g.metadata with
    uid := some uid, creationTimestamp := some now } }

/-- Creating a job sets the job at its key, if it has one. -/
theorem insert_sets (s : MemoryStore) (g : Goop) (uid : String) (now : Timestamp) :
    (∃ e, g.key = .error e ∧ Keeps s (s.insert g uid now).2) ∨
      ∃ key s', g.key = .ok key ∧ (s.insert g uid now).2 = s' ∧
        Sets s s' key (some (s'.inserted g uid now)) := by
  unfold insert
  cases hkey : g.key with
  | error e =>
    left
    refine ⟨e, rfl, ?_⟩
    simp only [key_stamp, show Goop.key { g with metadata := { g.metadata with
      uid := some uid, creationTimestamp := some now } } = .error e from hkey]
    exact ⟨rfl, Nat.le_succ _⟩
  | ok key =>
    right
    simp only [key_stamp, show Goop.key { g with metadata := { g.metadata with
      uid := some uid, creationTimestamp := some now } } = .ok key from hkey]
    exact ⟨key, _, rfl, rfl, fun k => rfl, Nat.lt_succ_self _⟩

/-- The job with a request for its deletion, unless there is one already. -/
def requested (g : Goop) (now : Timestamp) : Goop :=
  { g with metadata := { g.metadata with
    deletionTimestamp := g.metadata.deletionTimestamp <|> some now } }

/-- A job whose deletion has been requested is one whose deletion is requested. -/
theorem isDeletionRequested_requested (g : Goop) (now : Timestamp) :
    (requested g now).isDeletionRequested = true := by
  unfold Goop.isDeletionRequested requested
  cases hdel : g.metadata.deletionTimestamp <;> simp

/-- Requesting a deletion removes a job without finalizers, and marks one with finalizers. -/
theorem requestDeletion_sets (s : MemoryStore) (key : ObjectKey) (now : Timestamp) :
    (s.requestDeletion key now).2 = s ∨
      ∃ g, s.goops.get? key = some g ∧
        ((g.finalizers = [] ∧ (s.requestDeletion key now).2 = s.purge key) ∨
          ∃ s', (s.requestDeletion key now).2 = s' ∧
            Sets s s' key (some (s'.stamp (requested g now)))) := by
  unfold requestDeletion
  cases hs : s.goops.get? key with
  | none => exact Or.inl rfl
  | some g =>
    refine Or.inr ⟨g, rfl, ?_⟩
    simp only
    split
    · rename_i hnone
      exact Or.inl ⟨hnone, rfl⟩
    · exact Or.inr ⟨_, rfl, fun k => rfl, Nat.lt_succ_self _⟩

/-- A request for the deletion of a job without finalizers removes the job. -/
theorem requestDeletion_eq_purge {s : MemoryStore} {key : ObjectKey} {g : Goop}
    (hg : s.goops.get? key = some g) (hfree : g.finalizers = []) (now : Timestamp) :
    (s.requestDeletion key now).2 = s.purge key := by
  unfold requestDeletion
  rw [hg]
  simp only
  rw [if_pos hfree]

/-- An edit sets the job at the key, if there is one. -/
theorem edit_sets (s : MemoryStore) (key : ObjectKey) (f : Goop → Goop) :
    Keeps s (s.edit key f).2 ∨
      ∃ g s', s.goops.get? key = some g ∧ (s.edit key f).2 = s' ∧
        Sets s s' key (some (s'.stamp (f g))) := by
  unfold edit
  simp only
  cases hs : s.advance.goops.get? key with
  | none => exact Or.inl ⟨rfl, Nat.le_succ _⟩
  | some g => exact Or.inr ⟨g, _, hs, rfl, fun k => rfl, Nat.lt_succ_self _⟩

end MemoryStore

end GoopOperator
