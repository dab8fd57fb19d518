import GoopOperator.Proofs.Lifecycle.Calls

/-!
# Completion is recorded for a reason

A condition of completion is final: no later stage looks at it again. `records_soundly` says when a pass
writes one, whatever its store answers. The job as the pass has read it last has been deployed, and the
workload, as the pass has looked at it last, has run everywhere.

A pass may look at the workload twice and read the job several times, so the rule `RecordsSoundly` is
about what was read last, wherever a pass writes a status. It is followed stage by stage.
-/

namespace GoopOperator

/-- The workload that a pass has looked at last, and the answer. -/
def lastLook? : History → Option (ObjectKey × Except PassError Rollout)
  | [] => none
  | ⟨.call (.getWorkload k), a⟩ :: _ => some (k, a)
  | _ :: h => lastLook? h

/-- Between two ledgers a condition of completion is added or changed. -/
def Ledger.TouchesCompleted (l l' : Ledger) : Prop :=
  ∃ (i : Nat) (c : Condition), c.reason = .completed ∧ l.entries[i]? ≠ l'.entries[i]? ∧
    (l.entries[i]? = some c ∨ l'.entries[i]? = some c)

/-- Only a condition of completion adds or changes one where it is recorded. -/
theorem Ledger.reason_of_touchesCompleted {l l' : Ledger} {c : Condition} {now : String}
    (hl : l.set? c now = some l') (h : l.TouchesCompleted l') : c.reason = .completed := by
  obtain ⟨i, x, hx, hdiffers, hplace⟩ := h
  rcases entries_set? hl with hpush | ⟨j, old, new, hj, hreason, -, hmark, hset⟩
  · -- the places of the old entries stay
    rw [hpush] at hdiffers hplace
    rcases Nat.lt_or_ge i l.entries.length with hlt | hge
    · exact absurd (List.getElem?_append_left hlt).symm hdiffers
    · rw [List.getElem?_eq_none hge, List.getElem?_append_right hge] at hplace
      rcases hplace with hnone | hnew
      · cases hnone
      · obtain rfl := List.mem_singleton.mp (List.mem_of_getElem? hnew)
        exact hx
  · have hnew : new.reason = c.reason := congrArg Mark.reason hmark
    rw [hset] at hdiffers hplace
    by_cases hij : j = i
    · subst hij
      rw [List.getElem?_set_self (List.getElem?_eq_some_iff.mp hj).1, hj] at hplace
      rcases hplace with h | h
      · obtain rfl := Option.some.inj h
        exact hreason.symm.trans hx
      · obtain rfl := Option.some.inj h
        exact hnew.symm.trans hx
    · exact absurd (List.getElem?_set_ne hij).symm hdiffers

namespace Lifecycle

open Pass

/-- What a pass knows that records the completion of the job `g`. -/
structure RanEverywhere (k : ObjectKey) (h : History) (g : Goop) : Prop where
  /-- The job has been deployed. -/
  deployed : g.ledger.isComplete .deployed = true
  /-- Its workload, as looked at last, has run everywhere. -/
  everywhere : ∃ w, lastLook? h = some (k, .ok w) ∧ w.isComplete = true

/-- Where a status is written, it is that of the job in hand, and a condition of completion is added or
changed only if the job has run everywhere. -/
def RecordsSoundly (k : ObjectKey) (h : History) : Effect → Prop
  | .call (.updateStatus g') =>
    ∃ g, inHand? k h = some g ∧ (g.ledger.TouchesCompleted g'.ledger → RanEverywhere k h g)
  | _ => True

section stages

variable {cx : Context} {h : History} {g : Goop}

/-- The pass goes on with a job that it has in hand. -/
def HasInHand (cx : Context) (t : History) (r : Except PassError Goop) : Prop :=
  ∀ g, r = .ok g → inHand? cx.key t = some g

/-- The stage hands on a job that the pass has in hand. -/
def HandsOnInHand (cx : Context) (t : History) (r : Except PassError Decision) : Prop :=
  ∀ g, r = .ok (.next g) → inHand? cx.key t = some g

/-- A job that has been read is in hand. -/
theorem soundly_fetch : Follows (RecordsSoundly cx.key) (HasInHand cx) cx.fetch h := by
  refine ⟨trivial, fun a g ha => ?_⟩
  rw [ha]
  exact inHand?_get cx.key g h

/-- Handing on the job in hand. -/
theorem soundly_next (hg : inHand? cx.key h = some g) :
    Follows (RecordsSoundly cx.key) (HandsOnInHand cx) (pure (.next g)) h := by
  intro g' hg'
  cases hg'
  exact hg

/-- Ending the pass. -/
theorem soundly_stop (requeue : Requeue) :
    Follows (RecordsSoundly cx.key) (HandsOnInHand cx) (pure (.stop requeue)) h :=
  fun _ hg => nomatch hg

/-- Ending the pass with a failure. -/
theorem soundly_fail (e : PassError) :
    Follows (RecordsSoundly cx.key) (HandsOnInHand cx) (Pass.fail e) h :=
  fun _ hg => nomatch hg

/-- Going on with a job, if there is one. -/
theorem soundly_bind {p : Pass Goop} {f : Goop → Pass Decision}
    (hp : Follows (RecordsSoundly cx.key) (HasInHand cx) p h)
    (hf : ∀ t g, inHand? cx.key t = some g →
      Follows (RecordsSoundly cx.key) (HandsOnInHand cx) (f g) t) :
    Follows (RecordsSoundly cx.key) (HandsOnInHand cx) (p >>= f) h := by
  rw [follows_bind]
  refine hp.mono fun t r ht => ?_
  cases r with
  | error e => exact fun g' hg' => nomatch hg'
  | ok g => exact hf t g (ht g rfl)

/-- Recording a condition. -/
theorem soundly_record {c : Condition} (hg : inHand? cx.key h = some g)
    (hc : c.reason = .completed → RanEverywhere cx.key h g) :
    Follows (RecordsSoundly cx.key) (HasInHand cx) (record cx g c) h := by
  unfold record
  rw [follows_bind, follows_clock]
  refine ⟨trivial, fun now => ?_⟩
  simp only
  cases hl : g.ledger.set? c now.toText with
  | none =>
    intro g' hg'
    obtain rfl := Except.ok.inj hg'
    exact hg
  | some l =>
    simp only
    rw [follows_bind, follows_call]
    refine ⟨⟨g, hg, fun htouches => ?_⟩, fun a => ?_⟩
    · -- the look at the clock has come between
      obtain ⟨hdeployed, heverywhere⟩ := hc (Ledger.reason_of_touchesCompleted hl htouches)
      exact ⟨hdeployed, heverywhere⟩
    · cases a with
      | error e => exact fun g' hg' => nomatch hg'
      | ok _ => exact soundly_fetch

/-- Starting a ledger. -/
theorem soundly_start (hg : inHand? cx.key h = some g) :
    Follows (RecordsSoundly cx.key) (HandsOnInHand cx) (start.handle cx g) h := by
  unfold start
  simp only
  split
  · refine soundly_bind (soundly_record hg nofun) fun t g' hg' => ?_
    split
    · exact soundly_stop .now
    · exact soundly_next hg'
  · exact soundly_next hg

/-- Attaching the finalizer. -/
theorem soundly_attachToken (hg : inHand? cx.key h = some g) :
    Follows (RecordsSoundly cx.key) (HasInHand cx) (attachToken cx g) h := by
  unfold attachToken
  simp only
  split
  · rw [follows_bind, follows_call]
    refine ⟨trivial, fun a => ?_⟩
    cases a with
    | error e => exact fun g' hg' => nomatch hg'
    | ok _ => exact soundly_fetch
  · intro g' hg'
    obtain rfl := Except.ok.inj hg'
    exact hg

/-- Attaching the finalizer, and recording that initialization is complete. -/
theorem soundly_attachFinalizer (hg : inHand? cx.key h = some g) :
    Follows (RecordsSoundly cx.key) (HandsOnInHand cx) (attachFinalizer.handle cx g) h := by
  unfold attachFinalizer
  simp only
  refine soundly_bind (soundly_attachToken hg) fun t g₁ hg₁ => ?_
  split
  · exact soundly_bind (soundly_record hg₁ nofun) fun t g₂ hg₂ => soundly_next hg₂
  · exact soundly_next hg₁

/-- Releasing the finalizer. -/
theorem soundly_release (hg : inHand? cx.key h = some g) :
    Follows (RecordsSoundly cx.key) (HandsOnInHand cx) ((release .nothing).handle cx g) h := by
  unfold release
  simp only
  split
  · exact soundly_stop .never
  split
  · exact soundly_next hg
  split
  · -- the finalizer is released, and the pass ends
    show Follows _ _ (Pass.call _ >>= _) h
    rw [follows_bind, follows_call]
    refine ⟨trivial, fun a => ?_⟩
    cases a with
    | error e => exact soundly_fail e
    | ok _ => exact soundly_stop .now
  · rw [follows_bind, follows_attempt]
    refine (soundly_record (c := finalized g) hg nofun).mono fun t r _ => ?_
    cases r with
    | ok _ => exact soundly_stop .never
    | error e =>
      simp only
      split
      · exact soundly_stop .never
      · exact soundly_fail e

/-- Creating the workload, or adopting it. -/
theorem soundly_create (hg : inHand? cx.key h = some g) :
    Follows (RecordsSoundly cx.key) (HandsOnInHand cx) (create.handle cx g) h := by
  unfold create
  simp only
  split
  · exact soundly_next hg
  rw [follows_bind, follows_attempt, follows_call]
  refine ⟨trivial, fun a => ?_⟩
  cases a with
  | ok _ => exact soundly_bind (soundly_record hg nofun) fun t g' hg' => soundly_next hg'
  | error e =>
    simp only
    split
    · rw [follows_bind]
      cases WorkloadSpec.plan g cx.settings with
      | error e => exact soundly_fail e
      | ok d =>
        show Follows _ _ (Pass.call (.createWorkload d) >>= _) _
        rw [follows_bind, follows_call]
        refine ⟨trivial, fun a => ?_⟩
        cases a with
        | error e => exact soundly_fail e
        | ok _ => exact soundly_bind (soundly_record hg nofun) fun _ _ _ => soundly_stop _
    · exact soundly_fail e

/-- Looking whether the workload has run everywhere. The answer is the last one when completion is
recorded. -/
theorem soundly_complete (hg : inHand? cx.key h = some g) :
    Follows (RecordsSoundly cx.key) (HandsOnInHand cx) (complete.handle cx g) h := by
  unfold complete
  simp only
  split
  · exact soundly_next hg
  rename_i hl
  have hl : g.ledger.isComplete .deployed = true := by simpa using hl
  rw [follows_bind, follows_attempt, follows_call]
  refine ⟨trivial, fun a => ?_⟩
  cases a with
  | error e =>
    simp only
    split
    · exact soundly_bind (soundly_record hg nofun) fun _ _ _ => soundly_fail _
    · exact soundly_fail e
  | ok w =>
    simp only
    split
    · rename_i hw
      exact soundly_bind (soundly_record hg fun _ => ⟨hl, w, rfl, hw⟩) fun t g' hg' => soundly_next hg'
    · exact soundly_stop _

/-- A stage that keeps the job in hand, before others that do. -/
theorem soundly_stages {st : Stage} {rest : List Stage}
    (hst : ∀ {h g}, inHand? cx.key h = some g →
      Follows (RecordsSoundly cx.key) (HandsOnInHand cx) (st.handle cx g) h)
    (hrest : ∀ {h g}, inHand? cx.key h = some g →
      Follows (RecordsSoundly cx.key) (fun _ _ => True) (Chain.run ⟨rest⟩ cx g) h)
    (hg : inHand? cx.key h = some g) :
    Follows (RecordsSoundly cx.key) (fun _ _ => True) (Chain.run ⟨st :: rest⟩ cx g) h :=
  follows_stages (hst hg) fun _ _ _ hg' => hrest hg'

/-- A pass writes each status soundly, whatever it is answered. -/
theorem reconcile_soundly (cx : Context) :
    Follows (RecordsSoundly cx.key) (fun _ _ => True) (reconcile chain cx) [] := by
  refine ⟨trivial, fun a => ?_⟩
  cases a with
  | error e =>
    show Follows _ _ (if e.isNotFound then pure Requeue.never else Pass.fail e) _
    split <;> trivial
  | ok g =>
    refine soundly_stages soundly_start (soundly_stages soundly_attachFinalizer
      (soundly_stages soundly_release (soundly_stages soundly_create
        (soundly_stages soundly_complete fun _ => trivial)))) ?_
    exact inHand?_get cx.key g []

end stages

/-- Where a pass is about to write a status, it has the job in hand whose status that is; and if it adds
or changes a condition of completion, the job has run everywhere. -/
theorem records_soundly {cx : Context} {h : History} {g' : Goop}
    {next : (Effect.call (.updateStatus g')).Answer → Pass Requeue}
    (hp : Path (reconcile chain cx) h (.perform (.call (.updateStatus g')) next)) :
    ∃ g, inHand? cx.key h = some g ∧
      (g.ledger.TouchesCompleted g'.ledger → RanEverywhere cx.key h g) := by
  have hfollows := hp.follows (reconcile_soundly cx)
  rw [List.append_nil] at hfollows
  exact hfollows.1

end Lifecycle

end GoopOperator
