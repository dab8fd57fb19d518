import GoopOperator.Proofs.World.Serial

/-!
# When a workload is created

A pass creates a workload for the copy of a job that it has in hand, several calls after it has read
it. Where passes over a job follow each other, the stored job is still as the copy says
(`Reachable.awaiting_of_creates`): all that its ledger says is that initialization is complete, and
the finalizer holds it. The workload stays with the job until someone removes it (`Settled.run`),
and once the ledger of a job says that it was deployed, none is created for it any more.
-/

namespace GoopOperator.World

open Lifecycle

/-- The pass number `i` is about to create the workload `d`, and the creation succeeds in the turn
`t`. -/
def Creates (w : World) (i : Nat) (t : Turn) (d : WorkloadSpec) : Prop :=
  ∃ (p : PassRun) (next : (Effect.call (.createWorkload d)).Answer → Pass Requeue),
    w.passes[i]? = some p ∧ p.rest = .perform (.call (.createWorkload d)) next ∧
      (t.respond (.call (.createWorkload d)) w.store).1 = Except.ok ()

/-- The pass `p` creates the workload `d` for the job `g₀` that it has in hand, while the job `g` of
the same unique id is stored. -/
structure CreatedFor (w : World) (d : WorkloadSpec) (p : PassRun) (g₀ g : Goop) : Prop where
  /-- The pass is under way. -/
  busy : ¬ p.IsOver
  /-- It goes over the job at the key of the workload. -/
  key : d.key = p.cx.key
  /-- What it has in hand. -/
  inHand : inHand? p.cx.key p.past = some g₀
  /-- The job was initialized. -/
  initialized : g₀.ledger.isComplete .initialized = true
  /-- Its deletion was not requested. -/
  wanted : g₀.isDeletionRequested = false
  /-- The workload is owned by it. -/
  owned : d.OwnedBy g₀
  /-- What is stored now. -/
  stored : w.job? d.key = some g
  /-- It is the same job. -/
  uid : g.metadata.uid = g₀.metadata.uid

/-- The job waits for its workload: the finalizer holds it, and all that its ledger says is that
initialization is complete. -/
structure Awaiting (token : String) (g : Goop) : Prop where
  /-- The finalizer is there. -/
  held : g.hasFinalizer token = true
  /-- The only entry of the ledger is that initialization is complete. -/
  marks : g.ledger.marks = [⟨.available, .yes, .initialized⟩]

/-- The job of a unique id that has been seen at a key has its workload, as long as it is stored. -/
structure Settled (k : ObjectKey) (uid : Option String) (w : World) : Prop where
  /-- The job has been seen. -/
  seen : w.Seen k uid
  /-- Where there is no workload, the job is not stored any more. -/
  gone : w.workload? k = none → ∀ g, w.job? k = some g → g.metadata.uid ≠ uid

section creation

variable {token : String} {w : World} {m : Move} {i : Nat} {t : Turn} {k : ObjectKey}
  {d : WorkloadSpec} {g : Goop}

/-- Two jobs that own one workload have the same unique id. -/
theorem uid_of_ownedBy {g' : Goop} (h : d.OwnedBy g) (h' : d.OwnedBy g') :
    g'.metadata.uid = g.metadata.uid := by
  obtain ⟨owner, howner, huid⟩ := h
  obtain ⟨owner', howner', huid'⟩ := h'
  obtain rfl := Option.some.inj (howner.symm.trans howner')
  exact huid'.trans huid.symm

/-- A job that waits for its workload has been recorded nothing but `initialized`. -/
theorem Awaiting.reasons (h : Awaiting token g) : g.ledger.reasons = [.initialized] := by
  rw [reasons_eq_kinds, Ledger.kinds, h.marks]
  rfl

/-- A workload is created for the job that the pass has in hand, and only if that is still stored, as
far as its unique id tells. -/
theorem Reachable.created_for {rules : World → Move → Prop} (hw : Reachable chain rules w)
    (hcoherent : w.Coherent) (hc : w.Creates i t d) :
    ∃ p g₀ g, w.passes[i]? = some p ∧ CreatedFor w d p g₀ g := by
  obtain ⟨p, next, hi, hrest, hok⟩ := hc
  have hp := List.mem_of_getElem? hi
  have hpath := hw.path p hp
  rw [hrest] at hpath
  cases (callSite_of_path hpath).made with
  | write hg hwrite => cases hwrite
  | create hg₀ hplan hl hd =>
    rename_i g₀
    have hread := hasRead_of_inHand hg₀
    obtain ⟨hkey, owner, howner, huid₀⟩ := WorkloadSpec.of_plan hplan
    have hk : d.key = p.cx.key :=
      Except.ok.inj (hkey.symm.trans (hcoherent.shown p hp g₀ hread.shown).1)
    -- the store has found the owner
    obtain ⟨-, -, hthere⟩ := MemoryStore.create_of_answer (Turn.answer_of_respond hok)
    obtain ⟨g, hg, huid⟩ := hthere owner howner
    exact ⟨p, g₀, g, hi, PassRun.not_isOver hrest, hk, hg₀, hl, hd, ⟨owner, howner, huid₀⟩, hg,
      huid.trans huid₀.symm⟩

/-- A workload is created for a job that waits for it. -/
theorem Reachable.awaiting_of_creates (hw : Reachable chain (Serial token) w)
    (hc : w.Creates i t d) : ∃ g, w.job? d.key = some g ∧ d.OwnedBy g ∧ Awaiting token g := by
  obtain ⟨p, g₀, g, hi, h⟩ := hw.created_for hw.coherent_in_turn hc
  have hp := List.mem_of_getElem? hi
  -- the stored job is the one in hand
  have hsame := hw.inStep p hp h.busy g₀ h.inHand g (h.key ▸ h.stored) h.uid
  obtain ⟨owner, howner, huid₀⟩ := h.owned
  -- the copy was held when it was stored, and its deletion is not requested
  have hheld := hw.of_read
    (Q := fun _ g => g.ledger.isComplete .initialized = true → Held token g)
    (fun w hw => hw.held_in_turn) hp (hasRead_of_inHand h.inHand) h.initialized
  refine ⟨g, h.stored, ⟨owner, howner, h.uid.trans huid₀⟩, hsame.held ?_, ?_⟩
  · rcases hheld with hf | hd'
    · exact hf
    · exact absurd (hd'.symm.trans h.wanted) (by decide)
  · exact (hw.grown_in_turn _ g h.stored).marks_of_initialized (hsame.ledger ▸ h.initialized)

/-- A job for which a workload is created has been seen. -/
theorem Reachable.seen_of_creates (hw : Reachable chain (Serial token) w)
    (hc : w.Creates i t d) (howned : d.OwnedBy g) : w.Seen d.key g.metadata.uid := by
  obtain ⟨g₁, hg₁, howned₁, hawaiting⟩ := hw.awaiting_of_creates hc
  rw [← uid_of_ownedBy howned howned₁]
  refine hw.seen d.key g₁ hg₁ ?_
  rw [isInitial_eq_marks, hawaiting.marks]
  rfl

/-- After the creation of a workload its job is settled. -/
theorem Reachable.settled_of_creates (hw : Reachable chain (Serial token) w)
    (hc : w.Creates i t d) (howned : d.OwnedBy g) :
    (w.apply chain (.pass i t)).Settled d.key g.metadata.uid := by
  refine ⟨(hw.seen_of_creates hc howned).apply chain _, fun hnone => ?_⟩
  obtain ⟨p, next, hi, hrest, hok⟩ := hc
  obtain ⟨-, hcreated, -⟩ := MemoryStore.create_of_answer (Turn.answer_of_respond hok)
  rw [← Turn.store_of_respond hok, ← store_of_answered chain t hi hrest] at hcreated
  exact absurd hnone hcreated

/-- A job that is settled stays so, unless someone removes its workload. -/
theorem Settled.apply {uid : Option String} (h : w.Settled k uid)
    (hw : Reachable chain (Serial token) w) (hm : w.Serial token m)
    (hkeep : m ≠ .deleteWorkload k) : (w.apply chain m).Settled k uid := by
  refine ⟨h.seen.apply chain m, fun hnone g' hg' huid => ?_⟩
  -- a job that is stored after the move was stored before it
  obtain ⟨g, hg, huid', -⟩ := hm.stored_of_seen hw h.seen hg' huid
  have hsettled := resettled_of_apply chain w m k
  rw [hnone] at hsettled
  generalize hs' : (w.apply chain m).store = s' at hsettled
  generalize ho : none = o at hsettled
  cases hsettled with
  | kept hjob => exact h.gone ho.symm g hg huid'
  | purged hjob =>
    rw [← hs'] at hjob
    exact absurd (hg'.symm.trans hjob) (Option.some_ne_none g')
  | deleted hjobs => exact hkeep rfl
  | adjusted hwl hjobs => cases ho
  | created hmakes hk hnone' howner hjobs => cases ho

/-- A job that is settled stays so in a run in which nobody removes its workload. -/
theorem Settled.run {uid : Option String} {moves : List Move} (h : w.Settled k uid)
    (hw : Reachable chain (Serial token) w) (hmoves : Allowed chain (Serial token) w moves)
    (hkeep : .deleteWorkload k ∉ moves) :
    Reachable chain (Serial token) (w.run chain moves) ∧ (w.run chain moves).Settled k uid := by
  induction moves generalizing w with
  | nil => exact ⟨hw, h⟩
  | cons m moves ih =>
    obtain ⟨hm, hmoves⟩ := hmoves
    have hne := List.ne_of_not_mem_cons hkeep
    have hkeep := List.not_mem_of_not_mem_cons hkeep
    exact ih (h.apply hw hm hne.symm) (hw.apply hm) hmoves hkeep

/-- No workload is created for a job that is settled. -/
theorem Settled.not_creates (h : w.Settled d.key g.metadata.uid)
    (hw : Reachable chain (Serial token) w) (hc : w.Creates i t d) : ¬ d.OwnedBy g := by
  intro howned
  obtain ⟨g₁, hg₁, howned₁, -⟩ := hw.awaiting_of_creates hc
  obtain ⟨p, next, -, -, hok⟩ := hc
  obtain ⟨hnone, -⟩ := MemoryStore.create_of_answer (Turn.answer_of_respond hok)
  exact h.gone hnone g₁ hg₁ (uid_of_ownedBy howned howned₁)

/-- What the ledger of a job says that was deployed stays there as long as the job is stored. -/
theorem Reachable.stays_deployed (hw : Reachable chain (Serial token) w)
    (hg : w.job? k = some g) (hdeployed : .deployed ∈ g.ledger.reasons) {w' : World}
    (h : Leads chain (Serial token) w w') :
    w'.Seen k g.metadata.uid ∧ ∀ g', w'.job? k = some g' → g'.metadata.uid = g.metadata.uid →
      .deployed ∈ g'.ledger.reasons := by
  induction h with
  | refl =>
    refine ⟨hw.seen k g hg (isInitial_of_mem_reasons hdeployed), fun g' hg' _ => ?_⟩
    obtain rfl := Option.some.inj (hg.symm.trans hg')
    exact hdeployed
  | tail hbefore hmove ih =>
    obtain ⟨m, hm, rfl⟩ := hmove
    obtain ⟨hseen, hstays⟩ := ih
    refine ⟨hseen.apply chain m, fun g' hg' huid => ?_⟩
    obtain ⟨g₁, hg₁, huid₁, hstep⟩ := hm.stored_of_seen (hw.leads hbefore) hseen hg' huid
    have hbefore := hstays g₁ hg₁ huid₁
    cases hstep with
    | same hl => exact hl ▸ hbefore
    | recorded hp hrest hk hread hc hl => exact mem_reasons_of_set? hl hbefore

end creation

/-- Let passes over a job follow each other, and let other clients, users, failures, lost status
writes and cancellations come in between in any way, but let nobody else write the ledger or take
the finalizer away. Whenever a pass creates a workload, its owner is stored at its key, held by the
finalizer, and all that its ledger says is that initialization is complete; and a workload is
created for the same job again only if someone has removed this one. Once the ledger of a job says
that it was deployed, no workload is created for it any more. -/
theorem created_once_when_initialized {token : String} {w : World}
    (hw : Reachable chain (Serial token) w) :
    (∀ i t d, w.Creates i t d →
      ∃ g, w.job? d.key = some g ∧ d.OwnedBy g ∧ Awaiting token g ∧
        ∀ moves, Allowed chain (Serial token) (w.apply chain (.pass i t)) moves →
          ∀ i' t' d', ((w.apply chain (.pass i t)).run chain moves).Creates i' t' d' →
            d'.key = d.key → d'.OwnedBy g → .deleteWorkload d.key ∈ moves) ∧
    ∀ k g, w.job? k = some g → .deployed ∈ g.ledger.reasons →
      ∀ w', Leads chain (Serial token) w w' → ∀ i t d, w'.Creates i t d → d.key = k →
        ¬ d.OwnedBy g := by
  refine ⟨fun i t d hc => ?_, fun k g hg hdeployed w' h i t d hc hk howned => ?_⟩
  · obtain ⟨g, hg, howned, hawaiting⟩ := hw.awaiting_of_creates hc
    refine ⟨g, hg, howned, hawaiting, fun moves hmoves i' t' d' hc' hk' howned' => ?_⟩
    refine Classical.byContradiction fun hkeep => ?_
    have hsettled := hw.settled_of_creates hc howned
    obtain ⟨hw', hsettled'⟩ := hsettled.run (hw.apply (serial_pass token w i t)) hmoves hkeep
    exact (hk' ▸ hsettled').not_creates hw' hc' howned'
  · subst hk
    obtain ⟨g', hg', howned', hawaiting⟩ := (hw.leads h).awaiting_of_creates hc
    obtain ⟨-, hstays⟩ := hw.stays_deployed hg hdeployed h
    have hagain := hstays g' hg' (uid_of_ownedBy howned howned')
    rw [hawaiting.reasons] at hagain
    cases hagain with
    | tail _ hagain => cases hagain

/-! ### A sample -/

namespace Sample

/-- A turn in which a call is cut off. -/
def cutTurn : Turn := { turn with cut := some .cancelled }

/-- The pass over the sample job has created the workload and is cancelled before it has recorded
that. Someone removes the workload, and another pass gets as far as its creation. -/
def again : List Move :=
  [.pass 0 turn, .pass 0 cutTurn, .deleteWorkload key, .begin cx, .pass 1 turn, .pass 1 turn]

/-- The workload of the sample job. -/
def jobSpec : WorkloadSpec where
  key := key
  labels := recommendedLabels "job" "job:1"
  image := "job:1"
  command := Settings.default.jobCommand
  jobCount := none
  owner := some ⟨Goop.apiVersion, Goop.kind, "job", "uid", some true, none⟩

/-- The user creates the sample job where there is none, and the passes over it are the first ones. -/
theorem serial_world (n : Nat) : Reachable chain (Serial defaultFinalizer) (world n) := by
  have hinsert : (init 1).Serial defaultFinalizer (.insert job "uid" noon) := by
    refine ⟨trivial, fun k _ => rfl, rfl, fun k _ => ?_⟩
    rintro ⟨p, hp, -⟩
    cases hp
  refine ⟨1, leads_run ⟨hinsert, ⟨trivial, rfl, fun p hp => nomatch hp⟩, ?_⟩⟩
  exact allowed_replicate (fun w => serial_pass _ w 0 turn) _ n

/-- The pass that is begun later follows the one that was cancelled. -/
theorem serial_again : Allowed chain (Serial defaultFinalizer)
    ((world 10).apply chain (.pass 0 turn)) again := by
  refine ⟨serial_pass _ _ 0 turn, serial_pass _ _ 0 cutTurn, ⟨trivial, trivial, trivial⟩,
    ⟨trivial, rfl, fun p hp _ => ?_⟩, serial_pass _ _ 1 turn, serial_pass _ _ 1 turn, trivial⟩
  obtain rfl := List.mem_singleton.mp hp
  exact ⟨_, rfl⟩

end Sample

open Sample in
/-- The sample job waits for its workload when that is created, and the workload is created again
after someone has removed it. Once the job is deployed none is created. -/
theorem sample_creates_again :
    (∃ g, (world 10).job? key = some g ∧ (world 10).Creates 0 turn jobSpec ∧ jobSpec.OwnedBy g ∧
      Awaiting defaultFinalizer g ∧
      (((world 10).apply chain (.pass 0 turn)).run chain again).Creates 1 turn jobSpec ∧
      .deleteWorkload key ∈ again) ∧
    ∃ g, (world 14).job? key = some g ∧ .deployed ∈ g.ledger.reasons ∧
      ∀ i t d, (world 14).Creates i t d → d.key = key → ¬ d.OwnedBy g := by
  have hfirst : (world 10).Creates 0 turn jobSpec := ⟨_, _, rfl, rfl, rfl⟩
  have hsecond : (((world 10).apply chain (.pass 0 turn)).run chain again).Creates 1 turn jobSpec :=
    ⟨_, _, rfl, rfl, rfl⟩
  refine ⟨?_, _, rfl, by decide, fun i t d hc hk => ?_⟩
  · obtain ⟨g, hg, howned, hawaiting, hagain⟩ :=
      (created_once_when_initialized (serial_world 10)).1 0 turn jobSpec hfirst
    exact ⟨g, hg, hfirst, howned, hawaiting, hsecond,
      hagain again serial_again 1 turn jobSpec hsecond rfl howned⟩
  · exact (created_once_when_initialized (serial_world 14)).2 key _ rfl (by decide) _ .refl i t d
      hc hk

end GoopOperator.World
