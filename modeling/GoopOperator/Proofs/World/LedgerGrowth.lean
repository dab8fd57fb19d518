import GoopOperator.Proofs.Lifecycle.Calls
import GoopOperator.Proofs.World.Succession

/-!
# Ledgers under any order of moves

Where users create jobs without a history and the operator alone writes status (`Ordinary`), every
stored ledger is one that the life of a job leaves, however passes, other clients, failures, lost
writes and cancellations follow each other (`Reachable.lifelike`): a condition that a pass records
is due in the ledger that is stored (`Reachable.due`). `ledgers_grow_along_lives` adds that a
ledger only grows at its end, entry by entry.
-/

namespace GoopOperator.World

open Lifecycle

/-! ## Ordinary moves -/

/-- The edit changes neither what names a job nor its status, nor whether its deletion is
requested. -/
structure Faithful (f : Goop → Goop) : Prop where
  /-- The key stays. -/
  key : ∀ g, (f g).key = g.key
  /-- The unique id stays. -/
  uid : ∀ g, (f g).metadata.uid = g.metadata.uid
  /-- The ledger stays. -/
  ledger : ∀ g, (f g).ledger = g.ledger
  /-- A request for deletion stays, and none is made. -/
  deletion : ∀ g, (f g).isDeletionRequested = g.isDeletionRequested

/-- Other clients write no status, and edit in place only what does not concern the ledger. -/
def SparesLedgers : Move → Prop
  | .edit _ f => Faithful f
  | .client c => c.operation ≠ .updateStatus
  | _ => True

/-- Users create jobs without a history, under a unique id and where no pass is under way; other
clients write no status. -/
def Ordinary (w : World) : Move → Prop
  | .insert g uid _ => g.ledger.isInitial = true ∧ ∀ k, g.key = .ok k →
      w.Idle k ∧ ∀ g', w.job? k = some g' → g'.metadata.uid ≠ some uid
  | .edit _ f => Faithful f
  | .client c => c.operation ≠ .updateStatus
  | _ => True

/-- Ordinary moves spare the ledgers. -/
theorem Ordinary.sparesLedgers {w : World} {m : Move} (hm : w.Ordinary m) : SparesLedgers m := by
  cases m with
  | edit key f => exact hm
  | client c => exact hm
  | _ => trivial

/-- Users create jobs where there is none. -/
def CreatesAnew (w : World) : Move → Prop
  | .insert g _ _ => ∀ k, g.key = .ok k → w.job? k = none
  | _ => True

/-- Users create jobs without a history. -/
def StartsEmpty : Move → Prop
  | .insert g _ _ => g.ledger.isInitial = true
  | _ => True

/-- Users create jobs without a history, even under the passes over a job that was there before;
other clients write no status. -/
def Plain (_ : World) (m : Move) : Prop := SparesLedgers m ∧ StartsEmpty m

/-- Moves that spare the ledgers leave each job its key. -/
theorem SparesLedgers.keepsKeys {m : Move} (hm : SparesLedgers m) : KeepsKeys m := by
  cases m with
  | edit key f => exact hm.key
  | _ => trivial

section ledgers

variable {cleanup : Cleanup} {rules : World → Move → Prop} {w : World} {m : Move} {k : ObjectKey}

/-- The ledger of a job after a move that spares the ledgers is the one before, or has one more
condition that a pass had warrant for. -/
inductive LedgerStep (w : World) (k : ObjectKey) (g g' : Goop) : Prop where
  /-- The same ledger. -/
  | same (hl : g'.ledger = g.ledger)
  /-- One more condition. -/
  | recorded {p : PassRun} {c : Condition} {now : String} (hp : p ∈ w.passes) (hrest : ¬ p.IsOver)
    (hk : p.cx.key = k) (hread : HasRead k p.past g) (hc : Warrants p.cx p.past g c)
    (hl : g.ledger.set? c now = some g'.ledger)

/-- What a move that spares the ledgers does to the ledger of a job that stays. -/
theorem ledgerStep_of_succession (hm : SparesLedgers m) {s' : MemoryStore} {g : Goop}
    {o : Option Goop} (h : Succession cleanup w s' k g m o) {g' : Goop} (ho : o = some g') :
    (∃ g₁ uid now, m = .insert g₁ uid now ∧ g₁.key = .ok k ∧ g' = s'.inserted g₁ uid now) ∨
      g'.metadata.uid = g.metadata.uid ∧ LedgerStep w k g g' := by
  cases h with
  | kept =>
    cases ho
    exact Or.inr ⟨rfl, .same rfl⟩
  | replaced hk =>
    cases ho
    exact Or.inl ⟨_, _, _, rfl, hk, rfl⟩
  | removed hfree => cases ho
  | marked =>
    cases ho
    exact Or.inr ⟨rfl, .same rfl⟩
  | edited =>
    cases ho
    exact Or.inr ⟨hm.uid g, .same (hm.ledger g)⟩
  | updated fits =>
    obtain rfl := MemoryStore.of_afterUpdate ho
    exact Or.inr ⟨rfl, .same rfl⟩
  | overwritten fits => exact absurd rfl hm
  | attached hp hk =>
    obtain rfl := MemoryStore.of_afterUpdate ho
    exact Or.inr ⟨rfl, .same rfl⟩
  | released hp hk hpast hc =>
    obtain rfl := MemoryStore.of_afterUpdate ho
    exact Or.inr ⟨rfl, .same rfl⟩
  | recorded hp hrest hk hread hc hl =>
    cases ho
    exact Or.inr ⟨rfl, .recorded hp hrest hk hread hc hl⟩

/-- What a move that spares the ledgers does to the ledger of a job that nobody replaces. -/
theorem ledgerStep_of_createsAnew (hm : SparesLedgers m) (hnew : w.CreatesAnew m)
    {s' : MemoryStore} {g : Goop} (hg : w.job? k = some g) {o : Option Goop}
    (h : Succession cleanup w s' k g m o) {g' : Goop} (ho : o = some g') :
    g'.metadata.uid = g.metadata.uid ∧ LedgerStep w k g g' := by
  rcases ledgerStep_of_succession hm h ho with ⟨g₁, uid, now, rfl, hk, -⟩ | hstep
  · exact absurd (hg.symm.trans (hnew k hk)) (Option.some_ne_none g)
  · exact hstep

/-- What becomes of the ledger of a job that nobody replaces, where passes run the stages of the
lifecycle and other clients spare the ledgers. -/
theorem Reachable.ledgerStep (hw : Reachable chain rules w)
    (hspares : ∀ w m, rules w m → SparesLedgers m) (hm : rules w m) (hnew : w.CreatesAnew m)
    {g g' : Goop} (hg : w.job? k = some g) (hg' : (w.apply chain m).job? k = some g') :
    g'.metadata.uid = g.metadata.uid ∧ LedgerStep w k g g' := by
  have hcoherent : w.Coherent := hw.coherent fun w m hm => (hspares w m hm).keepsKeys
  exact ledgerStep_of_createsAnew (hspares w m hm) hnew hg (hw.succession hcoherent hg hg') rfl

/-- Ordinary moves keep a world coherent. -/
theorem Reachable.coherent_of_ordinary {chain : Chain} (hrules : ∀ w m, rules w m → w.Ordinary m)
    (hw : Reachable chain rules w) : w.Coherent :=
  hw.coherent fun w m hm => (hrules w m hm).sparesLedgers.keepsKeys

/-! ## What is recorded is due -/

/-- A job in whose ledger something has been recorded when a pass was shown it is not without a
history while the pass is under way. -/
theorem Reachable.begun (hclean : cleanup.IsReadOnly) (hrules : ∀ w m, rules w m → w.Ordinary m)
    (hw : Reachable (cleaning cleanup) rules w) :
    Lasting (fun _ g => g.ledger.isInitial = false) w := by
  refine Reachable.invariant (fun nodes p hp => nomatch hp) (fun w m hw ih hm => ?_) hw
  have hcoherent := hw.coherent_of_ordinary hrules
  have hordinary := hrules w m hm
  refine ih.apply hcoherent (fun g uid now heq k hk => ?_) fun p hp hidle g hg hQ g' hg' => ?_
  · subst heq
    exact (hordinary.2 k hk).1
  · have hsuccession := succession_of_apply hclean hw hcoherent m hg
    rcases ledgerStep_of_succession hordinary.sparesLedgers hsuccession hg' with
      ⟨g₁, uid, now, rfl, hk, -⟩ | ⟨-, hstep⟩
    · exact absurd ((hordinary.2 _ hk).1 p hp rfl) hidle
    · cases hstep with
      | same hl => rw [hl, hQ]
      | recorded hp' hrest hk hread hc hl => exact isInitial_set? hl

/-- What a pass has warrant for in a copy is due in the ledger of the copy, except that a pass that
has begun may record that a job without a history is finalized. -/
theorem due_of_warrants {cx : Context} {h : History} {g : Goop} {c : Condition}
    (hc : Warrants cx h g c) :
    g.ledger.Due c.mark ∨
      g.ledger.isInitial = true ∧ c.mark = ⟨.degraded, .yes, .finalized⟩ ∧ Begun cx h := by
  cases hc with
  | starting hl => exact Or.inl (.starting hl)
  | initialized hl hf => exact Or.inl (.initialized hl)
  | finalized hl hb hd hf =>
    cases hinitial : g.ledger.isInitial with
    | false => exact Or.inl (.finalized hinitial hl)
    | true => exact Or.inr ⟨rfl, rfl, hb⟩
  | adopted hl hd => exact Or.inl (.deployed hl)
  | created hl hd => exact Or.inl (.deployed hl)
  | missing hl => exact Or.inl (.missing hl)
  | completed hl => exact Or.inl (.completed hl)

/-- What a pass has warrant for in the stored job is due in its ledger. -/
theorem Reachable.due (hclean : cleanup.IsReadOnly) (hrules : ∀ w m, rules w m → w.Ordinary m)
    (hw : Reachable (cleaning cleanup) rules w) {p : PassRun} (hp : p ∈ w.passes)
    (hrest : ¬ p.IsOver) {g : Goop} (hg : w.job? p.cx.key = some g)
    {c : Condition} (hc : Warrants p.cx p.past g c) : g.ledger.Due c.mark := by
  rcases due_of_warrants hc with hdue | ⟨hempty, -, g₀, hread, hinitial⟩
  · exact hdue
  · -- the pass has seen a ledger with entries, and entries do not go away
    have hidle := PassRun.not_isIdle hread hrest
    have hbegun := hw.begun hclean hrules p hp hidle g₀ hread.shown hinitial g hg
    exact absurd (hbegun.symm.trans hempty) Bool.false_ne_true

/-- A ledger without entries is one that a life leaves. -/
theorem lifelike_of_isInitial {l : Ledger} (h : l.isInitial = true) : l.Lifelike := by
  rw [isInitial_eq_marks, List.isEmpty_iff] at h
  exact Or.inl h

/-- Every stored ledger is one that the life of a job leaves. -/
theorem Reachable.lifelike (hclean : cleanup.IsReadOnly) (hrules : ∀ w m, rules w m → w.Ordinary m)
    (hw : Reachable (cleaning cleanup) rules w) :
    ∀ k g, w.job? k = some g → g.ledger.Lifelike := by
  refine Reachable.of_stored (Q := fun _ _ g => g.ledger.Lifelike)
    (fun w g uid now k hm _ => lifelike_of_isInitial (hrules w _ hm).1)
    (fun w m hw hm k g g' hg hg' ih => ?_) hw
  have hcoherent := hw.coherent_of_ordinary hrules
  have hordinary := hrules w m hm
  have hsuccession := succession_of_apply hclean hw hcoherent m hg
  rcases ledgerStep_of_succession hordinary.sparesLedgers hsuccession hg' with
    ⟨g₁, uid, now, rfl, hk, rfl⟩ | ⟨-, hstep⟩
  · exact lifelike_of_isInitial hordinary.1
  · cases hstep with
    | same hl => exact hl ▸ ih
    | recorded hp hrest hk hread hc hl =>
      -- what the pass has warrant for in its copy is due in the stored ledger
      subst hk
      exact (ih.set? (hw.due hclean hrules hp hrest hg hc) hl).1

/-- Wherever and whenever jobs are created, every stored ledger is one that a life leaves, or says
that the job was finalized before anything else. -/
theorem Reachable.grown (hclean : cleanup.IsReadOnly) (hrules : ∀ w m, rules w m → w.Plain m)
    (hw : Reachable (cleaning cleanup) rules w) :
    ∀ k g, w.job? k = some g → g.ledger.Grown := by
  refine Reachable.of_stored (Q := fun _ _ g => g.ledger.Grown)
    (fun w g uid now k hm _ => Or.inl (lifelike_of_isInitial (hrules w _ hm).2))
    (fun w m hw hm k g g' hg hg' ih => ?_) hw
  have hcoherent : w.Coherent := hw.coherent fun w m hm => (hrules w m hm).1.keepsKeys
  obtain ⟨hspares, hempty⟩ := hrules w m hm
  have hsuccession := succession_of_apply hclean hw hcoherent m hg
  rcases ledgerStep_of_succession hspares hsuccession hg' with
    ⟨g₁, uid, now, rfl, hk, rfl⟩ | ⟨-, hstep⟩
  · exact Or.inl (lifelike_of_isInitial hempty)
  · cases hstep with
    | same hl => exact hl ▸ ih
    | recorded hp hrest hk hread hc hl =>
      exact (ih.set? ((due_of_warrants hc).imp_right fun h => ⟨h.1, h.2.1⟩) hl).1

/-- From one world to the next the types and reasons in the ledger of a job stay, or get one more at
their end. -/
theorem Reachable.kinds_grow (hclean : cleanup.IsReadOnly)
    (hrules : ∀ w m, rules w m → w.Ordinary m) (hw : Reachable (cleaning cleanup) rules w)
    (hm : rules w m) {g g' : Goop} (hg : w.job? k = some g)
    (hg' : (w.apply (cleaning cleanup) m).job? k = some g')
    (huid : g'.metadata.uid = g.metadata.uid) :
    g'.ledger.kinds = g.ledger.kinds ∨ ∃ x, g'.ledger.kinds = g.ledger.kinds ++ [x] := by
  have hcoherent := hw.coherent_of_ordinary hrules
  have hordinary := hrules w m hm
  have hsuccession := succession_of_apply hclean hw hcoherent m hg
  rcases ledgerStep_of_succession hordinary.sparesLedgers hsuccession hg' with
    ⟨g₁, uid, now, rfl, hk, rfl⟩ | ⟨-, hstep⟩
  · exact absurd huid.symm ((hordinary.2 k hk).2 g hg)
  · cases hstep with
    | same hl => exact Or.inl (congrArg Ledger.kinds hl)
    | recorded hp hrest hk hread hc hl => exact (kinds_set? hl).imp id fun h => ⟨_, h⟩

end ledgers

/-- However the passes of the operator, other clients, failures, lost status writes and
cancellations follow each other: every stored ledger is one that the life of a job leaves, and
from one world to the next the types and reasons in it stay or get one more at their end. -/
theorem ledgers_grow_along_lives {w : World} (hw : Reachable chain Ordinary w) :
    (∀ k g, w.job? k = some g → g.ledger.Lifelike) ∧
      ∀ m, w.Ordinary m → ∀ k g g', w.job? k = some g → (w.apply chain m).job? k = some g' →
        g'.metadata.uid = g.metadata.uid →
        g'.ledger.kinds = g.ledger.kinds ∨ ∃ x, g'.ledger.kinds = g.ledger.kinds ++ [x] := by
  have hw' : Reachable (cleaning .nothing) Ordinary w := hw
  refine ⟨hw'.lifelike isReadOnly_nothing fun _ _ h => h, fun m hm k g g' hg hg' huid => ?_⟩
  exact hw'.kinds_grow isReadOnly_nothing (fun _ _ h => h) hm hg hg' huid

/-! ### A sample -/

namespace Sample

/-- A time of day. -/
def noon : Timestamp := Lifecycle.SamplePass.noon

/-- A job without a history. -/
def job : Goop :=
  ⟨{ ObjectMeta.empty with name := some "job", ns := some "default" },
    { GoopSpec.empty with image := some "job:1" }, none⟩

/-- The key of the job. -/
def key : ObjectKey := ⟨"default", "job"⟩

/-- A pass over the job, under the settings that hold without variables. -/
def cx : Context := ⟨key, .default⟩

/-- A turn at noon, in which nothing is cut off. -/
def turn : Turn := ⟨none, noon, .ok ()⟩

/-- The job is created in an empty store, a pass over it is begun, and is answered `n` times. -/
def moves (n : Nat) : List Move :=
  .insert job "uid" noon :: .begin cx :: List.replicate n (.pass 0 turn)

/-- The world after these moves. -/
def world (n : Nat) : World := (init 1).run chain (moves n)

/-- Users may create the job in an empty store. -/
theorem ordinary_insert (nodes : Int32) : (init nodes).Ordinary (.insert job "uid" noon) := by
  refine ⟨rfl, fun k _ => ⟨fun p hp => (nomatch hp), fun g' hg' => ?_⟩⟩
  exact absurd hg' (Option.some_ne_none g').symm

/-- The moves are ordinary ones. -/
theorem reachable_world (n : Nat) : Reachable chain Ordinary (world n) :=
  ⟨1, leads_run ⟨ordinary_insert 1, trivial, allowed_replicate (fun _ => trivial) _ n⟩⟩

end Sample

open Sample in
/-- The ledger of the sample job gets its first entry in the third answer to the pass. -/
theorem sample_ledger_grows : ∃ g g', (world 2).job? key = some g ∧ (world 3).job? key = some g' ∧
    g.ledger.Lifelike ∧ g.ledger.kinds = [] ∧ g'.ledger.kinds = [(.available, .initialized)] ∧
      (g'.ledger.kinds = g.ledger.kinds ∨ ∃ x, g'.ledger.kinds = g.ledger.kinds ++ [x]) := by
  have h := ledgers_grow_along_lives (reachable_world 2)
  exact ⟨_, _, rfl, rfl, h.1 key _ rfl, rfl, rfl, h.2 (.pass 0 turn) trivial key _ _ rfl rfl rfl⟩

end GoopOperator.World
