import GoopOperator.Proofs.Pass.Alone
import GoopOperator.Proofs.Pass.Path
import GoopOperator.Proofs.Store.Writes
import GoopOperator.Reconcile
import Mathlib.Logic.Relation

/-!
# A store and the passes at work on it

A `World` is a store in memory with the passes that have been begun, each with what it has been
answered and what is left of it. Between two moves of a pass anything else may happen: a `Move` is
one answer to one pass, a call of another client, or what users and the cluster do. A world is
`Reachable` under some rules if it comes from an empty store by moves that the rules allow.

`change_of_apply` says what a move does to the job at a key, `fate_of_apply` what it does to a job
that is stored, and `progress_of_apply` what it does to the passes. They are all that later proofs
use of `World.apply`.
-/

namespace GoopOperator

/-! ## Moves -/

/-- What a pass finds when it goes on. -/
structure Turn where
  /-- What cuts the call off before the store completes it, if anything does. -/
  cut : Option Cut
  /-- The time of day. -/
  now : Timestamp
  /-- How work outside the store ends. -/
  work : Except PassError Unit

/-- The answer to what a pass asks for, and the store after it. -/
def Turn.respond (t : Turn) : (e : Effect) → MemoryStore → e.Answer × MemoryStore
  | .call c, s =>
    match t.cut with
    | some cut => (.error cut.error, s)
    | none => ((s.answer c).1.mapError .store, (s.answer c).2)
  | .clock, s => (t.now, s)
  | .work _, s => (t.work, s)

/-- A call that succeeds in a turn has been answered by the store. -/
theorem Turn.answer_of_respond {t : Turn} {c : StoreCall} {s : MemoryStore} {a : c.Answer}
    (h : (t.respond (.call c) s).1 = .ok a) : (s.answer c).1 = .ok a := by
  unfold Turn.respond at h
  cases hcut : t.cut with
  | some cut =>
    rw [hcut] at h
    cases h
  | none =>
    rw [hcut] at h
    cases ha : (s.answer c).1 with
    | error e =>
      simp only [ha] at h
      cases h
    | ok b =>
      simp only [ha] at h
      exact congrArg Except.ok (Except.ok.inj h)

/-- The store after a call that succeeds in a turn is the one that the store has made of it. -/
theorem Turn.store_of_respond {t : Turn} {c : StoreCall} {s : MemoryStore} {a : c.Answer}
    (h : (t.respond (.call c) s).1 = .ok a) : (t.respond (.call c) s).2 = (s.answer c).2 := by
  unfold Turn.respond at h ⊢
  cases hcut : t.cut with
  | some cut =>
    rw [hcut] at h
    cases h
  | none => rfl

/-- A pass that has been begun. -/
structure PassRun where
  /-- What its stages know. -/
  cx : Context
  /-- What it has been answered. -/
  past : History
  /-- What is left of it. -/
  rest : Pass Requeue

namespace PassRun

/-- The pass that begins to reconcile a job. -/
def start (chain : Chain) (cx : Context) : PassRun := ⟨cx, [], reconcile chain cx⟩

/-- The pass has ended. -/
def IsOver (p : PassRun) : Prop := ∃ r, p.rest = .done r

/-- A pass that asks for something has not ended. -/
theorem not_isOver {p : PassRun} {e : Effect} {next : e.Answer → Pass Requeue}
    (h : p.rest = .perform e next) : ¬ p.IsOver := by
  rintro ⟨r, hr⟩
  rw [h] at hr
  cases hr

/-- The pass has not been answered anything, or has ended. -/
def IsIdle (p : PassRun) : Prop := p.past = [] ∨ p.IsOver

/-- A pass that has been answered something and has not ended is not idle. -/
theorem not_isIdle {p : PassRun} {x : Event} (hx : x ∈ p.past) (hover : ¬ p.IsOver) :
    ¬ p.IsIdle := by
  rintro (hpast | h)
  · rw [hpast] at hx
    cases hx
  · exact hover h

/-- The pass goes on, and so does the store. -/
def proceed (p : PassRun) (t : Turn) (s : MemoryStore) : PassRun × MemoryStore :=
  match p.rest with
  | .done _ => (p, s)
  | .perform e next =>
    (⟨p.cx, ⟨e, (t.respond e s).1⟩ :: p.past, next (t.respond e s).1⟩, (t.respond e s).2)

end PassRun

/-- A store with the passes that have been begun, whether they have ended or not. -/
structure World where
  /-- The store. -/
  store : MemoryStore
  /-- The passes, in the order in which they were begun. -/
  passes : List PassRun

/-- What may happen next. -/
inductive Move where
  /-- A user creates a job. -/
  | insert (g : Goop) (uid : String) (now : Timestamp)
  /-- A user requests a deletion. -/
  | requestDeletion (key : ObjectKey) (now : Timestamp)
  /-- Another client edits a job in place. -/
  | edit (key : ObjectKey) (f : Goop → Goop)
  /-- Another client makes a call. -/
  | client (c : StoreCall)
  /-- A workload goes away. -/
  | deleteWorkload (key : ObjectKey)
  /-- The cluster reports how far a workload has got. -/
  | adjustRollout (key : ObjectKey) (f : Rollout → Rollout)
  /-- A failure is arranged for a call of an operation. -/
  | queueFault (op : Operation) (e : StoreError)
  /-- The next status writes are to be lost. -/
  | loseStatusWrites (n : Nat)
  /-- A pass is begun. -/
  | begin (cx : Context)
  /-- A pass goes on. -/
  | pass (i : Nat) (t : Turn)

namespace World

/-- A store without objects, and no pass. -/
def init (nodes : Int32) : World := ⟨.empty nodes, []⟩

/-- The world after a pass has gone on. -/
def proceed (w : World) (i : Nat) (t : Turn) : World :=
  match w.passes[i]? with
  | none => w
  | some p => ⟨(p.proceed t w.store).2, w.passes.set i (p.proceed t w.store).1⟩

/-- The world after a move; passes run the stages of `chain`. -/
def apply (chain : Chain) (w : World) : Move → World
  | .insert g uid now => { w with store := (w.store.insert g uid now).2 }
  | .requestDeletion key now => { w with store := (w.store.requestDeletion key now).2 }
  | .edit key f => { w with store := (w.store.edit key f).2 }
  | .client c => { w with store := (w.store.answer c).2 }
  | .deleteWorkload key => { w with store := (w.store.deleteWorkload key).2 }
  | .adjustRollout key f => { w with store := (w.store.adjustRollout key f).2 }
  | .queueFault op e => { w with store := w.store.queueFault op e }
  | .loseStatusWrites n => { w with store := w.store.loseStatusWrites n }
  | .begin cx => { w with passes := w.passes ++ [.start chain cx] }
  | .pass i t => w.proceed i t

/-- One world comes from another by a move that `rules` allow. -/
def Step (chain : Chain) (rules : World → Move → Prop) (w w' : World) : Prop :=
  ∃ m, rules w m ∧ w' = w.apply chain m

/-- One world comes from another by moves that `rules` allow. -/
def Leads (chain : Chain) (rules : World → Move → Prop) : World → World → Prop :=
  Relation.ReflTransGen (Step chain rules)

/-- A world that comes from an empty store by moves that `rules` allow. -/
def Reachable (chain : Chain) (rules : World → Move → Prop) (w : World) : Prop :=
  ∃ nodes, Leads chain rules (.init nodes) w

/-- What comes from a reachable world is reachable. -/
theorem Reachable.leads {chain : Chain} {rules : World → Move → Prop} {w w' : World}
    (hw : Reachable chain rules w) (h : Leads chain rules w w') : Reachable chain rules w' := by
  obtain ⟨nodes, hw⟩ := hw
  exact ⟨nodes, hw.trans h⟩

/-- One more move. -/
theorem Reachable.apply {chain : Chain} {rules : World → Move → Prop} {w : World} {m : Move}
    (hw : Reachable chain rules w) (hm : rules w m) : Reachable chain rules (w.apply chain m) :=
  hw.leads (.single ⟨m, hm, rfl⟩)

/-- The world after some moves, one after the other. -/
def run (chain : Chain) (w : World) (moves : List Move) : World := moves.foldl (apply chain) w

/-- Each of some moves is allowed when it is made. -/
def Allowed (chain : Chain) (rules : World → Move → Prop) : World → List Move → Prop
  | _, [] => True
  | w, m :: moves => rules w m ∧ Allowed chain rules (w.apply chain m) moves

/-- Moves that are allowed lead to the world after them. -/
theorem leads_run {chain : Chain} {rules : World → Move → Prop} {w : World} {moves : List Move}
    (h : Allowed chain rules w moves) : Leads chain rules w (w.run chain moves) := by
  induction moves generalizing w with
  | nil => exact .refl
  | cons m moves ih => exact .head ⟨m, h.1, rfl⟩ (ih h.2)

/-- A move that is always allowed may be made any number of times. -/
theorem allowed_replicate {chain : Chain} {rules : World → Move → Prop} {m : Move}
    (hm : ∀ w, rules w m) (w : World) (n : Nat) : Allowed chain rules w (List.replicate n m) := by
  induction n generalizing w with
  | zero => trivial
  | succ n ih => exact ⟨hm w, ih _⟩

/-- What holds of an empty store and is kept by each move from a reachable world holds of every
reachable world. -/
theorem Reachable.invariant {chain : Chain} {rules : World → Move → Prop} {P : World → Prop}
    (hinit : ∀ nodes, P (.init nodes))
    (hstep : ∀ w m, Reachable chain rules w → P w → rules w m → P (w.apply chain m)) {w : World}
    (hw : Reachable chain rules w) : P w := by
  obtain ⟨nodes, hw⟩ := hw
  induction hw with
  | refl => exact hinit nodes
  | tail hbefore hmove ih =>
    obtain ⟨m, hm, rfl⟩ := hmove
    exact hstep _ m ⟨nodes, hbefore⟩ ih hm

/-- What holds of a world and is kept by each move that is allowed holds of every world that comes
from it. -/
theorem Leads.invariant {chain : Chain} {rules : World → Move → Prop} {P : World → Prop}
    {w w' : World} (h : Leads chain rules w w') (hw : P w)
    (hstep : ∀ w m, P w → rules w m → P (w.apply chain m)) : P w' := by
  induction h with
  | refl => exact hw
  | tail _ hmove ih =>
    obtain ⟨m, hm, rfl⟩ := hmove
    exact hstep _ m ih hm

/-- The job at a key. -/
def job? (w : World) (k : ObjectKey) : Option Goop := w.store.goops.get? k

/-- No pass over the job at a key is under way. -/
def Idle (w : World) (k : ObjectKey) : Prop := ∀ p ∈ w.passes, p.cx.key = k → p.IsIdle

/-! ## What a move does to a job -/

/-- The move makes a call of the store that is completed. -/
inductive Makes (w : World) : Move → StoreCall → Prop where
  /-- Another client makes it. -/
  | client (c : StoreCall) : Makes w (.client c) c
  /-- A pass makes it. -/
  | pass {i : Nat} {t : Turn} {p : PassRun} {c : StoreCall}
    {next : (Effect.call c).Answer → Pass Requeue} (hi : w.passes[i]? = some p)
    (hp : p.rest = .perform (.call c) next) (ht : t.cut = none) : Makes w (.pass i t) c

/-- What a move that makes the store `s'` leaves at a key. -/
inductive Change (w : World) (s' : MemoryStore) (k : ObjectKey) : Move → Option Goop → Prop where
  /-- What was there. -/
  | kept {m : Move} : Change w s' k m (w.job? k)
  /-- A job that a user creates. -/
  | inserted {g : Goop} {uid : String} {now : Timestamp} (hk : g.key = .ok k)
    (fresh : w.store.version < s'.version) :
    Change w s' k (.insert g uid now) (some (s'.inserted g uid now))
  /-- Nothing, since a user has asked for that and nothing holds the job. -/
  | removed {g : Goop} {now : Timestamp} (hg : w.job? k = some g) (hfree : g.finalizers = []) :
    Change w s' k (.requestDeletion k now) none
  /-- The job with a request for its deletion. -/
  | marked {g : Goop} {now : Timestamp} (hg : w.job? k = some g)
    (fresh : w.store.version < s'.version) :
    Change w s' k (.requestDeletion k now) (some (s'.stamp (MemoryStore.requested g now)))
  /-- The job as another client has edited it. -/
  | edited {g : Goop} {f : Goop → Goop} (hg : w.job? k = some g)
    (fresh : w.store.version < s'.version) : Change w s' k (.edit k f) (some (s'.stamp (f g)))
  /-- What a call has left. -/
  | written {m : Move} {c : StoreCall} {o : Option Goop} (hm : w.Makes m c)
    (hc : MemoryStore.Written w.store s' k c o) : Change w s' k m o

/-- What a move leaves at each key; versions only go up. -/
theorem change_of_apply (chain : Chain) (w : World) (m : Move) (k : ObjectKey) :
    Change w (w.apply chain m).store k m ((w.apply chain m).job? k) ∧
      w.store.version ≤ (w.apply chain m).store.version := by
  -- most moves leave all jobs as they are
  have hkept : ∀ s' : MemoryStore, MemoryStore.Keeps w.store s' →
      Change w s' k m (s'.goops.get? k) ∧ w.store.version ≤ s'.version := by
    intro s' h
    rw [h.goops]
    exact ⟨.kept, h.version⟩
  have hsame : Change w w.store k m (w.store.goops.get? k) ∧
      w.store.version ≤ w.store.version := hkept _ (.refl _)
  cases m with
  | insert g uid now =>
    rcases w.store.insert_sets g uid now with ⟨-, -, h⟩ | ⟨key, s', hkey, rfl, hsets⟩
    · exact hkept _ h
    · refine ⟨?_, Nat.le_of_lt hsets.version⟩
      show Change w _ k _ ((w.store.insert g uid now).2.goops.get? k)
      rw [hsets.goops]
      split
      · rename_i hk
        exact .inserted (hk ▸ hkey) hsets.version
      · exact .kept
  | requestDeletion key now =>
    show Change w (w.store.requestDeletion key now).2 k _
        ((w.store.requestDeletion key now).2.goops.get? k) ∧
      _ ≤ (w.store.requestDeletion key now).2.version
    rcases w.store.requestDeletion_sets key now with h | ⟨g, hg, ⟨hfree, h⟩ | ⟨s', h, hsets⟩⟩
    · rw [h]
      exact hsame
    · rw [h]
      refine ⟨?_, Nat.le_refl _⟩
      show Change w _ k _ (if k = key then none else w.store.goops.get? k)
      split
      · rename_i hk
        subst hk
        exact .removed hg hfree
      · exact .kept
    · rw [h]
      refine ⟨?_, Nat.le_of_lt hsets.version⟩
      rw [hsets.goops]
      split
      · rename_i hk
        subst hk
        exact .marked hg hsets.version
      · exact .kept
  | edit key f =>
    rcases w.store.edit_sets key f with h | ⟨g, s', hg, rfl, hsets⟩
    · exact hkept _ h
    · refine ⟨?_, Nat.le_of_lt hsets.version⟩
      show Change w _ k _ ((w.store.edit key f).2.goops.get? k)
      rw [hsets.goops]
      split
      · rename_i hk
        subst hk
        exact .edited hg hsets.version
      · exact .kept
  | client c =>
    have hc := w.store.written_answer c k
    exact ⟨.written (.client c) hc.1, hc.2⟩
  | deleteWorkload key => exact hkept _ ⟨rfl, Nat.le_refl _⟩
  | adjustRollout key f =>
    refine hkept (w.store.adjustRollout key f).2 ?_
    unfold MemoryStore.adjustRollout
    split <;> exact ⟨rfl, Nat.le_refl _⟩
  | queueFault op e => exact hkept _ ⟨rfl, Nat.le_refl _⟩
  | loseStatusWrites n => exact hkept _ ⟨rfl, Nat.le_refl _⟩
  | begin cx => exact hsame
  | pass i t =>
    show Change w (w.proceed i t).store k _ ((w.proceed i t).store.goops.get? k) ∧
      _ ≤ (w.proceed i t).store.version
    unfold proceed
    cases hi : w.passes[i]? with
    | none => exact hsame
    | some p =>
      simp only
      unfold PassRun.proceed
      cases hp : p.rest with
      | done r => exact hsame
      | perform e next =>
        cases e with
        | clock => exact hsame
        | work task => exact hsame
        | call c =>
          simp only [Turn.respond]
          -- a call that is cut off does not reach the store
          cases ht : t.cut with
          | some cut => exact hsame
          | none =>
            have hc := w.store.written_answer c k
            exact ⟨.written (.pass hi hp ht) hc.1, hc.2⟩

/-- What a move that makes the store `s'` leaves of the job `g` at a key, where it puts no other job
in its place. -/
inductive Fate (w : World) (s' : MemoryStore) (k : ObjectKey) (g : Goop) :
    Move → Option Goop → Prop where
  /-- The job as it was. -/
  | kept {m : Move} : Fate w s' k g m (some g)
  /-- Nothing, since a user has asked for that and nothing holds the job. -/
  | removed {now : Timestamp} (hfree : g.finalizers = []) :
    Fate w s' k g (.requestDeletion k now) none
  /-- The job with a request for its deletion. -/
  | marked {now : Timestamp} (hheld : g.finalizers ≠ []) :
    Fate w s' k g (.requestDeletion k now) (some (s'.stamp (MemoryStore.requested g now)))
  /-- The job as another client has edited it. -/
  | edited {f : Goop → Goop} : Fate w s' k g (.edit k f) (some (s'.stamp (f g)))
  /-- Nothing, since the last finalizer of a job that is to be deleted has been taken off. -/
  | released {m : Move} {incoming : Goop} (hm : w.Makes m (.update incoming))
    (fits : w.store.Fits k incoming g) (hd : g.isDeletionRequested = true)
    (hlast : incoming.finalizers = []) : Fate w s' k g m none
  /-- The job with other contents. -/
  | updated {m : Move} {incoming : Goop} (hm : w.Makes m (.update incoming))
    (fits : w.store.Fits k incoming g)
    (old : g.isDeletionRequested = true → ∀ t ∈ incoming.finalizers, t ∈ g.finalizers)
    (hheld : g.isDeletionRequested = true → incoming.finalizers ≠ []) :
    Fate w s' k g m (some (s'.stamp (MemoryStore.merged g incoming)))
  /-- The job with another status. -/
  | recorded {m : Move} {incoming : Goop} (hm : w.Makes m (.updateStatus incoming))
    (fits : w.store.Fits k incoming g) :
    Fate w s' k g m (some (s'.stamp { g with status := incoming.status }))

/-- What a move leaves of a stored job. -/
theorem fate_of_apply (chain : Chain) {w : World} {m : Move} {k : ObjectKey} {g : Goop}
    (hm : ∀ g₁ uid now, m = .insert g₁ uid now → g₁.key ≠ .ok k) (hg : w.job? k = some g) :
    Fate w (w.apply chain m).store k g m ((w.apply chain m).job? k) := by
  have hchange := (change_of_apply chain w m k).1
  generalize hs' : (w.apply chain m).store = s' at hchange
  generalize ho : (w.apply chain m).job? k = o at hchange
  cases hchange with
  | kept =>
    rw [hg]
    exact .kept
  | inserted hk fresh => exact absurd hk (hm _ _ _ rfl)
  | removed hg₁ hfree =>
    obtain rfl := Option.some.inj (hg₁.symm.trans hg)
    exact .removed hfree
  | marked hg₁ fresh =>
    rename_i g₁ now
    obtain rfl := Option.some.inj (hg₁.symm.trans hg)
    refine .marked fun hfree => ?_
    -- without finalizers nothing would be left
    have hgone : (w.apply chain (.requestDeletion k now)).job? k = none := by
      show (w.store.requestDeletion k now).2.goops.get? k = none
      rw [MemoryStore.requestDeletion_eq_purge hg hfree]
      exact if_pos rfl
    exact Option.some_ne_none _ (ho.symm.trans hgone)
  | edited hg₁ fresh =>
    obtain rfl := Option.some.inj (hg₁.symm.trans hg)
    exact .edited
  | written hmakes hc =>
    cases hc with
    | kept =>
      rw [show w.store.goops.get? k = some g from hg]
      exact .kept
    | updated fits old fresh =>
      rename_i incoming g₁
      obtain rfl := Option.some.inj (fits.stored_eq.symm.trans hg)
      cases hafter : s'.afterUpdate g₁ incoming with
      | none =>
        obtain ⟨hd, hlast⟩ := MemoryStore.afterUpdate_eq_none hafter
        exact .released hmakes fits hd hlast
      | some after =>
        obtain rfl := MemoryStore.of_afterUpdate hafter
        exact .updated hmakes fits old (MemoryStore.finalizers_ne_nil_of_afterUpdate hafter)
    | recorded fits fresh =>
      obtain rfl := Option.some.inj (fits.stored_eq.symm.trans hg)
      exact .recorded hmakes fits

/-- What a move leaves of a job that is stored before and after it. -/
theorem fate_of_stored (chain : Chain) {w : World} {m : Move} {k : ObjectKey} {g g' : Goop}
    (hm : ∀ g₁ uid now, m = .insert g₁ uid now → g₁.key ≠ .ok k) (hg : w.job? k = some g)
    (hg' : (w.apply chain m).job? k = some g') :
    Fate w (w.apply chain m).store k g m (some g') :=
  hg' ▸ fate_of_apply chain hm hg

/-! ## What a move does to the passes -/

/-- Where a pass after a move comes from. -/
inductive Progress (chain : Chain) (w : World) : Move → PassRun → Prop where
  /-- It stood as it stands. -/
  | stayed {m : Move} {p : PassRun} (hp : p ∈ w.passes) : Progress chain w m p
  /-- It is begun. -/
  | begun (cx : Context) : Progress chain w (.begin cx) (.start chain cx)
  /-- It has been answered what it asked for. -/
  | answered {i : Nat} {t : Turn} {p : PassRun} {e : Effect} {next : e.Answer → Pass Requeue}
    (hi : w.passes[i]? = some p) (hp : p.rest = .perform e next) :
    Progress chain w (.pass i t)
      ⟨p.cx, ⟨e, (t.respond e w.store).1⟩ :: p.past, next (t.respond e w.store).1⟩

/-- Where each pass after a move comes from. -/
theorem progress_of_apply {chain : Chain} {w : World} {m : Move} {p : PassRun}
    (hp : p ∈ (w.apply chain m).passes) : Progress chain w m p := by
  cases m with
  | begin cx =>
    rcases List.mem_append.mp hp with hp | hp
    · exact .stayed hp
    · obtain rfl := List.mem_singleton.mp hp
      exact .begun cx
  | pass i t =>
    change p ∈ (w.proceed i t).passes at hp
    unfold proceed at hp
    cases hi : w.passes[i]? with
    | none =>
      rw [hi] at hp
      exact .stayed hp
    | some q =>
      rw [hi] at hp
      rcases List.mem_or_eq_of_mem_set hp with hp | rfl
      · exact .stayed hp
      · unfold PassRun.proceed
        cases hq : q.rest with
        | done r => exact .stayed (List.mem_of_getElem? hi)
        | perform e next => exact .answered hi hq
  -- no other move concerns the passes
  | _ => exact .stayed hp

/-- The passes of a world are under way after a move, perhaps with more answers. -/
theorem exists_past_of_apply (chain : Chain) {w : World} (m : Move) {p : PassRun}
    (hp : p ∈ w.passes) :
    ∃ p' ∈ (w.apply chain m).passes, p'.cx = p.cx ∧ ∃ t, p'.past = t ++ p.past := by
  have hsame : ∃ p' ∈ w.passes, p'.cx = p.cx ∧ ∃ t, p'.past = t ++ p.past := ⟨p, hp, rfl, [], rfl⟩
  cases m with
  | begin cx => exact ⟨p, List.mem_append_left _ hp, rfl, [], rfl⟩
  | pass i t =>
    show ∃ p' ∈ (w.proceed i t).passes, _
    unfold proceed
    cases hi : w.passes[i]? with
    | none => exact hsame
    | some q =>
      obtain ⟨j, hj⟩ := List.getElem?_of_mem hp
      by_cases hij : i = j
      · -- the pass that goes on
        subst hij
        obtain rfl := Option.some.inj (hi.symm.trans hj)
        obtain ⟨hlt, -⟩ := List.getElem?_eq_some_iff.mp hi
        refine ⟨(q.proceed t w.store).1, List.mem_set hlt _, ?_⟩
        unfold PassRun.proceed
        split
        · exact ⟨rfl, [], rfl⟩
        · exact ⟨rfl, [_], rfl⟩
      · have hother : (w.passes.set i (q.proceed t w.store).1)[j]? = some p := by
          rw [List.getElem?_set_ne hij]
          exact hj
        exact ⟨p, List.mem_of_getElem? hother, rfl, [], rfl⟩
  | _ => exact hsame

/-- The store after a pass has been answered. -/
theorem store_of_answered (chain : Chain) {w : World} {i : Nat} (t : Turn) {p : PassRun}
    {e : Effect} {next : e.Answer → Pass Requeue} (hi : w.passes[i]? = some p)
    (hp : p.rest = .perform e next) :
    (w.apply chain (.pass i t)).store = (t.respond e w.store).2 := by
  show (w.proceed i t).store = _
  unfold proceed
  rw [hi]
  show (p.proceed t w.store).2 = _
  unfold PassRun.proceed
  rw [hp]

/-- Each pass has come to where it stands by what it has been answered. -/
def OnPath (chain : Chain) (w : World) : Prop :=
  ∀ p ∈ w.passes, Pass.Path (reconcile chain p.cx) p.past p.rest

/-- Moves keep the passes on their paths. -/
theorem OnPath.apply {chain : Chain} {w : World} (hw : w.OnPath chain) (m : Move) :
    (w.apply chain m).OnPath chain := by
  intro p hp
  cases progress_of_apply hp with
  | stayed hp => exact hw p hp
  | begun cx => exact .refl
  | answered hi hq => exact .step (hq ▸ hw _ (List.mem_of_getElem? hi)) _

/-- In a reachable world all passes are on their paths. -/
theorem Reachable.path {chain : Chain} {rules : World → Move → Prop} {w : World}
    (hw : Reachable chain rules w) : w.OnPath chain :=
  Reachable.invariant (fun _ _ hp => nomatch hp) (fun _ m _ ih _ => ih.apply m) hw

/-- What holds of every pass when it is begun holds of every pass. -/
theorem Reachable.begun_as {chain : Chain} {rules : World → Move → Prop} {P : Context → Prop}
    (hbegin : ∀ w cx, rules w (.begin cx) → P cx) {w : World} (hw : Reachable chain rules w) :
    ∀ p ∈ w.passes, P p.cx := by
  refine Reachable.invariant (P := fun w => ∀ p ∈ w.passes, P p.cx)
    (fun nodes p hp => nomatch hp) (fun w m _ ih hm p hp => ?_) hw
  cases progress_of_apply hp with
  | stayed hp => exact ih p hp
  | begun cx => exact hbegin w cx hm
  | answered hi hq =>
    have hq := ih _ (List.mem_of_getElem? hi)
    exact hq

end World

end GoopOperator
