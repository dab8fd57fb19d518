import GoopOperator.Proofs.World.LedgerGrowth
import GoopOperator.Proofs.World.Moments

/-!
# Which workload counts as deployed

A job is recorded as deployed after a pass has created a workload for it, or has found one at its
key. A workload with an owner lies with the job that owns it, and goes away with it, so a workload
that is found with an owner is owned by the job (`Reachable.owner_stored`). But a pass does not ask
who owns what it finds: it takes a workload without an owner as well, and only other clients put
such workloads into the store (`Reachable.put_by_client`).
-/

namespace GoopOperator.World

open Lifecycle

/-- Users create jobs where there is none, and edits leave a job its key and its unique id. -/
def KeepsPlaces (w : World) : Move → Prop
  | .insert g _ _ => ∀ k, g.key = .ok k → w.job? k = none
  | .edit _ f => ∀ g, (f g).key = g.key ∧ (f g).metadata.uid = g.metadata.uid
  | _ => True

/-- At some moment of the run, the pass number `i` has created the workload `d`. -/
def HasCreated (chain : Chain) (rules : World → Move → Prop) (w : World) (i : Nat)
    (d : WorkloadSpec) : Prop :=
  ∃ cx before w₀ t, Moment chain rules w i cx before ⟨.call (.createWorkload d), Except.ok ()⟩ w₀ t

/-- At some moment of the run, the pass number `i` has found the workload `d` at a key. -/
def HasFound (chain : Chain) (rules : World → Move → Prop) (w : World) (i : Nat) (k : ObjectKey)
    (d : WorkloadSpec) : Prop :=
  ∃ cx before r w₀ t, Moment chain rules w i cx before ⟨.call (.getWorkload k), Except.ok r⟩ w₀ t ∧
    (w₀.workload? k).map (·.spec) = some d

/-- At some moment of the run, another client has put the workload `d` at a key. -/
def PutByClient (chain : Chain) (rules : World → Move → Prop) (w : World) (k : ObjectKey)
    (d : WorkloadSpec) : Prop :=
  ∃ w₀, Reachable chain rules w₀ ∧ rules w₀ (.client (.createWorkload d)) ∧
    w₀.workload? k = none ∧
    ((w₀.apply chain (.client (.createWorkload d))).workload? k).map (·.spec) = some d ∧
    Leads chain rules (w₀.apply chain (.client (.createWorkload d))) w

/-! ## Owners -/

section owners

variable {w : World} {m : Move} {k : ObjectKey} {g g' : Goop}

/-- Moves that keep places leave each job its key. -/
theorem KeepsPlaces.keepsKeys (hm : w.KeepsPlaces m) : KeepsKeys m := by
  cases m with
  | edit key f => exact fun g => (hm g).1
  | _ => trivial

/-- A job keeps its unique id while it is stored. -/
theorem KeepsPlaces.uid {chain : Chain} (hm : w.KeepsPlaces m) (hg : w.job? k = some g)
    (hg' : (w.apply chain m).job? k = some g') : g'.metadata.uid = g.metadata.uid := by
  have hinsert : ∀ g₁ uid now, m = .insert g₁ uid now → g₁.key ≠ .ok k := by
    rintro g₁ uid now rfl hk
    exact Option.some_ne_none g (hg.symm.trans (hm k hk))
  have hfate := fate_of_stored chain hinsert hg hg'
  generalize (w.apply chain m).store = s' at hfate
  cases hfate with
  | kept => rfl
  | marked hheld => rfl
  | edited => exact (hm g).2
  | updated hmakes fits old hheld => rfl
  | recorded hmakes fits => rfl

/-- The owner of a workload is the job at the key of the workload. -/
theorem Reachable.owner_stored {chain : Chain} (hw : Reachable chain KeepsPlaces w) :
    ∀ k wl owner, w.workload? k = some wl → wl.spec.owner = some owner →
      ∃ g, w.job? k = some g ∧ g.metadata.uid = some owner.uid := by
  refine Reachable.invariant (P := fun w => ∀ k wl owner, w.workload? k = some wl →
      wl.spec.owner = some owner → ∃ g, w.job? k = some g ∧ g.metadata.uid = some owner.uid)
    (fun nodes k wl owner hwl => absurd hwl (Option.some_ne_none wl).symm)
    (fun w m hw ih hm k wl owner hwl howner => ?_) hw
  have hsettled := resettled_of_apply chain w m k
  rw [hwl] at hsettled
  generalize hs' : (w.apply chain m).store = s' at hsettled
  generalize ho : some wl = o at hsettled
  have hjob : s'.goops = w.store.goops → (w.apply chain m).job? k = w.job? k := by
    intro hjobs
    show (w.apply chain m).store.goops.get? k = w.store.goops.get? k
    rw [hs', hjobs]
  cases hsettled with
  | kept hstays =>
    obtain ⟨g, hg, huid⟩ := ih k wl owner ho.symm howner
    cases hg' : (w.apply chain m).job? k with
    | none =>
      have hgone := hstays (hs' ▸ hg')
      exact absurd (hg.symm.trans hgone) (Option.some_ne_none g)
    | some g' => exact ⟨g', rfl, (hm.uid hg hg').trans huid⟩
  | purged hgone => cases ho
  | deleted hjobs => cases ho
  | adjusted hwl' hjobs =>
    obtain rfl := Option.some.inj ho
    rw [hjob hjobs]
    exact ih k _ owner hwl' howner
  | created hmakes hk hnone hthere hjobs =>
    obtain rfl := Option.some.inj ho
    rw [howner] at hthere
    rw [hjob hjobs]
    exact MemoryStore.exists_of_isOwner hthere

/-- A pass creates only workloads with an owner. -/
theorem Reachable.owner_of_created {rules : World → Move → Prop} (hw : Reachable chain rules w)
    {p : PassRun} (hp : p ∈ w.passes) {d : WorkloadSpec}
    {next : (Effect.call (.createWorkload d)).Answer → Pass Requeue}
    (hrest : p.rest = .perform (.call (.createWorkload d)) next) : d.owner ≠ none := by
  have hw' : Reachable (cleaning .nothing) rules w := hw
  cases hw'.permits isReadOnly_nothing hp hrest with
  | reading he => cases he
  | create hread hl hd hplan =>
    obtain ⟨-, owner, howner, -⟩ := WorkloadSpec.of_plan hplan
    rw [howner]
    exact Option.some_ne_none owner

/-- A workload without an owner has been put into the store by another client. -/
theorem Reachable.put_by_client {rules : World → Move → Prop} (hw : Reachable chain rules w) :
    ∀ k wl, w.workload? k = some wl → wl.spec.owner = none →
      PutByClient chain rules w k wl.spec := by
  refine Reachable.invariant (P := fun w => ∀ k wl, w.workload? k = some wl →
      wl.spec.owner = none → PutByClient chain rules w k wl.spec)
    (fun nodes k wl hwl => absurd hwl (Option.some_ne_none wl).symm)
    (fun w m hw ih hm k wl hwl howner => ?_) hw
  have hold : ∀ wl', w.workload? k = some wl' → wl'.spec.owner = none →
      PutByClient chain rules (w.apply chain m) k wl'.spec := by
    intro wl' hwl' howner'
    obtain ⟨w₀, hw₀, hallowed, hnone, hput, hleads⟩ := ih k wl' hwl' howner'
    exact ⟨w₀, hw₀, hallowed, hnone, hput, hleads.tail ⟨m, hm, rfl⟩⟩
  have hsettled := resettled_of_apply chain w m k
  rw [hwl] at hsettled
  generalize (w.apply chain m).store = s' at hsettled
  generalize ho : some wl = o at hsettled
  cases hsettled with
  | kept hjob => exact hold wl ho.symm howner
  | purged hjob => cases ho
  | deleted hjobs => cases ho
  | adjusted hwl' hjobs =>
    obtain rfl := Option.some.inj ho
    have hput := hold _ hwl' howner
    exact hput
  | created hmakes hk hnone hthere hjobs =>
    obtain rfl := Option.some.inj ho
    cases hmakes with
    | client => exact ⟨w, hw, hm, hnone, congrArg (Option.map _) hwl, .refl⟩
    | pass hi hp ht => exact absurd howner (hw.owner_of_created (List.mem_of_getElem? hi) hp)

end owners

/-! ## Deployed jobs -/

section deployed

variable {w : World} {i : Nat} {t : Turn} {k : ObjectKey} {g g' : Goop}

/-- A pass changes the ledger of a job only by a condition that it has warrant to record. -/
theorem Reachable.recorded_by_pass {rules : World → Move → Prop} (hw : Reachable chain rules w)
    (hcoherent : w.Coherent) (hg : w.job? k = some g)
    (hg' : (w.apply chain (.pass i t)).job? k = some g') (hledger : g'.ledger ≠ g.ledger) :
    ∃ p c now, w.passes[i]? = some p ∧ p.cx.key = k ∧ Warrants p.cx p.past g c ∧
      g.ledger.set? c now = some g'.ledger := by
  have hsuccession := hw.succession hcoherent hg hg'
  generalize ho : some g' = o at hsuccession
  cases hsuccession with
  | kept =>
    cases ho
    exact absurd rfl hledger
  | attached hp hk hi hrest =>
    obtain rfl := MemoryStore.of_afterUpdate ho.symm
    exact absurd rfl hledger
  | released hp hk hpast hc hi hrest =>
    obtain rfl := MemoryStore.of_afterUpdate ho.symm
    exact absurd rfl hledger
  | recorded hp hrest hk hread hc hl hi =>
    cases ho
    exact ⟨_, _, _, hi, hk, hc, hl⟩

/-- What a pass has found at the key of a job that is stored as the pass has read it is owned by the
job, unless another client has put it there without an owner. -/
theorem Reachable.found_for (hw : Reachable chain KeepsPlaces w) {p : PassRun}
    (hi : w.passes[i]? = some p) (hg : w.job? p.cx.key = some g) (hfound : Found p.cx p.past g) :
    ∃ d, HasFound chain KeepsPlaces w i p.cx.key d ∧
      (d.OwnedBy g ∨ d.owner = none ∧ PutByClient chain KeepsPlaces w p.cx.key d) := by
  obtain ⟨during, before, r, hread, hpast⟩ := hfound
  obtain ⟨w₀, t₀, hmoment⟩ := hw.moment hi hpast
  have hleads : Leads chain KeepsPlaces w₀ w := .head ⟨_, hmoment.allowed, rfl⟩ hmoment.leads
  obtain ⟨wl, hwl, -⟩ :=
    MemoryStore.getWorkload_of_answer (Turn.answer_of_respond hmoment.answer.symm)
  -- the copy was the stored job when the workload was found
  have hcoherent : w₀.Coherent := hmoment.reached.coherent fun _ _ h => h.keepsKeys
  obtain ⟨next, hstood⟩ := hmoment.stood
  obtain ⟨-, hdate, -⟩ := hcoherent.shown _ (List.mem_of_getElem? hstood) g hread.shown
  have hg₀ : w₀.job? p.cx.key = some g := hleads.stored_before hg hdate
  refine ⟨wl.spec, ⟨_, _, _, _, _, hmoment, congrArg (Option.map _) hwl⟩, ?_⟩
  cases howner : wl.spec.owner with
  | some owner =>
    left
    obtain ⟨g₁, hg₁, huid⟩ := hmoment.reached.owner_stored _ wl owner hwl howner
    obtain rfl := Option.some.inj (hg₀.symm.trans hg₁)
    exact ⟨owner, howner, huid⟩
  | none =>
    right
    obtain ⟨w₁, hw₁, hallowed, hnone, hput, hbefore⟩ :=
      hmoment.reached.put_by_client _ wl hwl howner
    exact ⟨rfl, w₁, hw₁, hallowed, hnone, hput, hbefore.trans hleads⟩

end deployed

/-- However passes, other clients, failures, lost writes and cancellations follow each other, as long
as users create jobs where there is none: when a pass records that a job is deployed, it has
created the workload, which is owned by the job, or it has found one at the key of the job. That one
is owned by the job as well, unless it has no owner at all and another client has put it there. -/
theorem deployed_for_own_workload {w : World} (hw : Reachable chain KeepsPlaces w) {i : Nat}
    {t : Turn} {k : ObjectKey} {g g' : Goop} (hg : w.job? k = some g)
    (hg' : (w.apply chain (.pass i t)).job? k = some g') {c : Condition}
    (hc : c ∈ g'.ledger.entries) (hnew : c ∉ g.ledger.entries) (htype : c.type = .available)
    (hreason : c.reason = .deployed) :
    (∃ d, HasCreated chain KeepsPlaces w i d ∧ d.key = k ∧ d.OwnedBy g) ∨
      ∃ d, HasFound chain KeepsPlaces w i k d ∧
        (d.OwnedBy g ∨ d.owner = none ∧ PutByClient chain KeepsPlaces w k d) := by
  have hcoherent : w.Coherent := hw.coherent fun _ _ h => h.keepsKeys
  have hledger : g'.ledger ≠ g.ledger := fun h => hnew (h ▸ hc)
  obtain ⟨p, x, now, hi, rfl, hwarrant, hset⟩ := hw.recorded_by_pass hcoherent hg hg' hledger
  have hmark := mark_of_new_entry hset hc hnew
  have hxtype : x.type = .available := (congrArg Mark.type hmark).symm.trans htype
  have hxreason : x.reason = .deployed := (congrArg Mark.reason hmark).symm.trans hreason
  cases hwarrant with
  | starting hl => cases hxreason
  | initialized hl hf => cases hxreason
  | finalized hl hb hd hf => cases hxreason
  | missing hl => cases hxtype
  | completed hl => cases hxreason
  | adopted hl hd hfound => exact Or.inr (hw.found_for hi hg hfound)
  | created hl hd hmade =>
    obtain ⟨during, before, d, hread, hplan, hpast⟩ := hmade
    obtain ⟨hkey, howned⟩ := WorkloadSpec.of_plan hplan
    have hk : d.key = p.cx.key := Except.ok.inj (hkey.symm.trans (hcoherent.keyed _ _ hg))
    exact Or.inl ⟨d, ⟨_, _, hw.moment hi hpast⟩, hk, howned⟩

namespace Sample

/-- A workload that nobody owns, at the key of the sample job. -/
def stray : WorkloadSpec :=
  ⟨key, StringMap.ofList [], "stray:1", [], none, none⟩

/-- Another client puts it there before a pass over the sample job is begun, and the pass is answered
until it records what it has found. -/
def strayed : World :=
  (init 1).run chain
    (.insert job "uid" noon :: .client (.createWorkload stray) :: .begin cx ::
      List.replicate 11 (.pass 0 turn))

/-- What the pass is about to record. -/
def recorded : Condition := { adopted job with lastTransition := some noon.toText }

/-- These moves keep places. -/
theorem reachable_strayed : Reachable chain KeepsPlaces strayed := by
  refine ⟨1, leads_run ⟨fun k _ => rfl, trivial, trivial, ?_⟩⟩
  exact allowed_replicate (fun _ => trivial) _ 11

end Sample

open Sample in
/-- The pass records that the sample job is deployed, though nobody owns the workload there. -/
theorem sample_takes_stray :
    ∃ g g' c, strayed.job? key = some g ∧ (strayed.apply chain (.pass 0 turn)).job? key = some g' ∧
      c ∈ g'.ledger.entries ∧ c ∉ g.ledger.entries ∧ c.mark = ⟨.available, .yes, .deployed⟩ ∧
      (strayed.workload? key).map (·.spec) = some stray ∧ stray.owner = none ∧
      ((∃ d, HasCreated chain KeepsPlaces strayed 0 d ∧ d.key = key ∧ d.OwnedBy g) ∨
        ∃ d, HasFound chain KeepsPlaces strayed 0 key d ∧
          (d.OwnedBy g ∨ d.owner = none ∧ PutByClient chain KeepsPlaces strayed key d)) := by
  refine ⟨_, _, recorded, rfl, rfl, by decide, by decide, rfl, rfl, rfl, ?_⟩
  exact deployed_for_own_workload reachable_strayed (t := turn) rfl rfl (c := recorded) (by decide)
    (by decide) rfl rfl

end GoopOperator.World
