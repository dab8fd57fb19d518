import GoopOperator.Proofs.Api.Target
import GoopOperator.Proofs.Json.Resources
import GoopOperator.Proofs.Store.Blurred

/-!
# Jobs that can be sent

A job can be sent to a server and read back if its field sets are JSON values and its key is valid, and
if nothing is lost on the way or that is looked past (`Goop.Portable`). If the jobs in a store can be
sent, so can those that it answers with (`portable_get` and its like) and those that it holds afterwards
(`portable_after`).

A store does with a job that is written to it what it does with any job that is alike, since it keeps
the times and the managed fields that it has (`answer_of_alike`).
-/

namespace GoopOperator

/-! ## Field sets -/

namespace ManagedFields

/-- What has been read back is read back as it is. -/
@[simp] theorem settled_settled (m : ManagedFields) : m.settled.settled = m.settled := by
  simp [settled, Option.filter_filter, Option.map_map, Function.comp_def]

/-- A field set `null` is a JSON value. -/
theorem isProper_settled (m : ManagedFields) : m.settled.IsProper ↔ m.IsProper := by
  unfold IsProper settled
  refine ⟨fun h v hv => ?_, fun h v hv => h v (Option.mem_filter_iff.mp hv).1⟩
  by_cases hnull : v = .null
  · subst hnull
    exact ⟨rfl, rfl⟩
  · exact h v (Option.mem_filter_iff.mpr ⟨hv, by simpa using hnull⟩)

end ManagedFields

namespace ObjectMeta

/-- What has been read back is read back as it is. -/
@[simp] theorem settled_settled (m : ObjectMeta) : m.settled.settled = m.settled := by
  unfold settled
  simp [Option.map_map, Function.comp_def]

/-- A field set `null` is a JSON value. -/
theorem isProper_settled (m : ObjectMeta) : m.settled.IsProper ↔ m.IsProper := by
  unfold IsProper settled
  cases m.managedFields with
  | none => exact Iff.rfl
  | some es => simp [ManagedFields.isProper_settled]

end ObjectMeta

/-- Versions and times are seen. -/
structure Blur.SeesData (b : Blur) : Prop where
  /-- Versions are seen. -/
  versions : b.versions = false
  /-- Times are seen. -/
  times : b.times = false

/-! ## Jobs -/

/-- Where times are seen, a ledger is. -/
theorem Ledger.blur_eq {b : Blur} (hb : b.SeesData) (l : Ledger) : l.blur b = l := by
  have htime : b.time = id := by
    funext t
    unfold Blur.time
    rw [hb.times]
    rfl
  have hentry : Condition.blur b = id := by
    funext c
    unfold Condition.blur
    rw [htime, Option.map_id]
    rfl
  unfold blur
  rw [hentry, List.map_id]

namespace Goop

variable {b : Blur} {g g' : Goop}

/-- Where versions and times are seen, all of a job is but what it loses when it is sent. -/
theorem blur_eq (hb : b.SeesData) (g : Goop) :
    g.blur b = { g with metadata := if b.losses then g.metadata.settled else g.metadata } := by
  have hstatus : g.status.map (fun s => (⟨s.conditions.blur b⟩ : GoopStatus)) = g.status := by
    cases g.status with
    | none => rfl
    | some s => rw [Option.map_some, Ledger.blur_eq hb]
  unfold blur Blur.version Blur.stamp Blur.managed
  rw [hstatus, hb.versions]
  cases b.losses <;> rfl

/-- Alike jobs are read back as the same, where versions and times are seen. -/
theorem settled_eq (hb : b.SeesData) (h : g.blur b = g'.blur b) : g.settled = g'.settled := by
  refine same_of_blur h fun x => ?_
  rw [blur_eq hb]
  unfold settled
  cases b.losses with
  | false => rfl
  | true => simp

/-- A job can be sent and read back, but for what is looked past. -/
structure Portable (b : Blur) (g : Goop) : Prop where
  /-- Its field sets are JSON values. -/
  proper : g.metadata.IsProper
  /-- Its key is valid, if it has one. -/
  valid : ∀ key, g.key = .ok key → key.isValid = true
  /-- What it loses is looked past, or it loses nothing. -/
  kept : b.losses = true ∨ g.metadata.settled = g.metadata

/-- A job with the times, the managed fields and the key of another. -/
theorem Portable.of_same (h : g.Portable b)
    (hcreation : g'.metadata.creationTimestamp = g.metadata.creationTimestamp)
    (hdeletion : g'.metadata.deletionTimestamp = g.metadata.deletionTimestamp)
    (hmanaged : g'.metadata.managedFields = g.metadata.managedFields) (hkey : g'.key = g.key) :
    g'.Portable b := by
  refine ⟨?_, ?_, h.kept.imp id fun hsettled => ?_⟩
  · unfold ObjectMeta.IsProper
    rw [hmanaged]
    exact h.proper
  · rw [hkey]
    exact h.valid
  · rw [ObjectMeta.settled_eq_iff] at hsettled ⊢
    rw [hcreation, hdeletion, hmanaged]
    exact hsettled

/-- A job that has been read back is alike. -/
theorem Portable.settled (h : g.Portable b) (hb : b.SeesData) : g.settled.blur b = g.blur b := by
  rw [blur_eq hb, blur_eq hb]
  unfold Goop.settled
  rcases h.kept with hlosses | hsettled
  · simp [hlosses]
  · simp [hsettled]

/-- A job that is alike can be sent. -/
theorem Portable.isProper (h : g.Portable b) (hb : b.SeesData) (halike : g.blur b = g'.blur b) :
    g'.metadata.IsProper := by
  have hsettled : g'.metadata.settled = g.metadata.settled :=
    congrArg Goop.metadata (settled_eq hb halike).symm
  rw [← ObjectMeta.isProper_settled, hsettled, ObjectMeta.isProper_settled]
  exact h.proper

end Goop

namespace MemoryStore

variable {b : Blur} {s : MemoryStore}

/-! ## What a store holds and answers -/

/-- Every job in the store can be sent. -/
def Portable (b : Blur) (s : MemoryStore) : Prop := ∀ k g, s.goops.get? k = some g → g.Portable b

/-- A job that a store answers with can be sent, if the stored ones can. -/
theorem portable_get (hs : s.Portable b) {key : ObjectKey} {g : Goop}
    (h : (s.answer (.get key)).1 = .ok g) : g.Portable b := hs key g ((s.answer_get key).2 g h)

/-- So can one that has been written. -/
theorem portable_update (hs : s.Portable b) {incoming g : Goop}
    (h : (s.answer (.update incoming)).1 = .ok g) : g.Portable b := by
  rcases s.answer_update incoming with ⟨e, he, -⟩ | ⟨key, stored, s', hfits, -, heq, -⟩
  · cases he.symm.trans h
  · rw [heq] at h
    obtain rfl := Except.ok.inj h
    exact (hs key stored hfits.stored_eq).of_same rfl rfl rfl rfl

/-- And one whose status has been written. -/
theorem portable_updateStatus (hs : s.Portable b) {incoming g : Goop}
    (h : (s.answer (.updateStatus incoming)).1 = .ok g) : g.Portable b := by
  rcases s.answer_updateStatus incoming with ⟨e, he, -⟩ | ⟨key, stored, s', hfits, hcases⟩
  · cases he.symm.trans h
  · have hstored := hs key stored hfits.stored_eq
    rcases hcases with ⟨-, heq, -⟩ | ⟨heq, -⟩
    · rw [heq] at h
      obtain rfl := Except.ok.inj h
      exact hstored
    · rw [heq] at h
      obtain rfl := Except.ok.inj h
      exact hstored.of_same rfl rfl rfl rfl

/-- What a store holds after a call can be sent, if what it held before can. -/
theorem portable_after (hs : s.Portable b) (c : StoreCall) : (s.answer c).2.Portable b := by
  intro k g hg
  have hwritten := (s.written_answer c k).1
  rw [hg] at hwritten
  generalize ho : some g = o at hwritten
  cases hwritten with
  | kept => exact hs k g ho.symm
  | updated fits old fresh =>
    obtain rfl := of_afterUpdate ho.symm
    exact (hs k _ fits.stored_eq).of_same rfl rfl rfl rfl
  | recorded fits fresh =>
    obtain rfl := Option.some.inj ho
    exact (hs k _ fits.stored_eq).of_same rfl rfl rfl rfl

/-! ## Alike calls -/

/-- A write of a job is based on its version, which is seen. -/
theorem current_blur_incoming (hb : b.SeesData) (s : MemoryStore) (key : ObjectKey) (g : Goop) :
    s.current key (g.blur b) = s.current key g := by
  unfold current Goop.blur Blur.version
  rw [hb.versions]
  rfl

/-- Writing a job that is seen as the same. -/
theorem answer_update_seen (hb : b.SeesData) (s : MemoryStore) (g : Goop) :
    s.answer (.update (g.blur b)) = s.answer (.update g) := by
  have hwrite (key : ObjectKey) : writeObject key (g.blur b) = writeObject key g := by
    funext s
    unfold writeObject
    rw [current_blur_incoming hb]
    rfl
  rw [answer_update_eq, answer_update_eq, Goop.key_blur]
  simp only [hwrite]

/-- Writing the status of a job that is seen as the same. -/
theorem answer_updateStatus_seen (hb : b.SeesData) (s : MemoryStore) (g : Goop) :
    s.answer (.updateStatus (g.blur b)) = s.answer (.updateStatus g) := by
  have hstatus : (g.blur b).status = g.status := by rw [Goop.blur_eq hb]
  have hwrite (key : ObjectKey) : writeStatus key (g.blur b) = writeStatus key g := by
    funext s
    unfold writeStatus
    rw [current_blur_incoming hb, hstatus]
  rw [answer_updateStatus_eq, answer_updateStatus_eq, Goop.key_blur]
  simp only [hwrite]

/-- A store answers alike calls alike, and does the same for them, where versions and times are
seen. -/
theorem answer_of_alike (hb : b.SeesData) (s : MemoryStore) {c c' : StoreCall}
    (hc : CallsAlike b c c') :
    AnswersAlike b c c' ((s.answer c).1.mapError .store) ((s.answer c').1.mapError .store) ∧
      (s.answer c').2 = (s.answer c).2 := by
  cases hc with
  | get key => exact ⟨rfl, rfl⟩
  | @update g g' hg =>
    have hsame : s.answer (.update g') = s.answer (.update g) := by
      rw [← answer_update_seen hb s g', ← hg, answer_update_seen hb]
    rw [hsame]
    exact ⟨rfl, rfl⟩
  | @updateStatus g g' hg =>
    have hsame : s.answer (.updateStatus g') = s.answer (.updateStatus g) := by
      rw [← answer_updateStatus_seen hb s g', ← hg, answer_updateStatus_seen hb]
    rw [hsame]
    exact ⟨rfl, rfl⟩
  | getWorkload key => exact ⟨rfl, rfl⟩
  | createWorkload d => exact ⟨rfl, rfl⟩

end MemoryStore

end GoopOperator
