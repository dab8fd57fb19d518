import GoopOperator.Pass.Basic
import GoopOperator.Store.Memory

/-!
# A pass alone with a store

A pass that nothing disturbs runs from a `Bench`, which counts what it has asked for so far.
`Pass.Meets` is what has to hold of such a run for a condition to hold at every call and another
one at its end; it is shown through the parts of a pass (`meets_bind`, `meets_attempt`).

One of the calls may meet with a mishap. A pass that quits at a failure (`Pass.Quits`) then leaves
the store as the mishap has found it: in a state through which the pass would have come otherwise
(`Meets.run_struck`).
-/

namespace GoopOperator

/-! ## Mishaps -/

/-- What cuts off the call of a pass. -/
inductive Cut where
  /-- The pass is cancelled. -/
  | cancelled
  /-- The time of the pass is up. -/
  | outOfTime
  deriving DecidableEq

/-- The failure of a pass that is cut off. -/
def Cut.error : Cut → PassError
  | .cancelled => .cancelled
  | .outOfTime => .deadlineExceeded

/-- What may befall a call of a pass before the store has done anything. -/
inductive Mishap where
  /-- The store fails the call. -/
  | failed (e : StoreError)
  /-- The pass is cut off. -/
  | cut (c : Cut)

/-- The answer to a call that meets with a mishap, and the store after it. -/
def MemoryStore.struck (s : MemoryStore) (c : StoreCall) :
    Mishap → Except PassError c.Answer × MemoryStore
  | .failed e =>
    (((s.queueFault c.operation e).answer c).1.mapError .store,
      ((s.queueFault c.operation e).answer c).2)
  | .cut cut => (.error cut.error, s)

/-- A store that a pass works on alone, and how much the pass has asked for. -/
structure Bench where
  /-- The store. -/
  store : MemoryStore
  /-- The number of calls. -/
  calls : Nat
  /-- The number of looks at the clock. -/
  looks : Nat

namespace Bench

/-- A store on which a pass begins to work. -/
def new (s : MemoryStore) : Bench := ⟨s, 0, 0⟩

/-- What a pass is answered that is alone with a store, where the clock shows `clock` and the
calls meet with the mishaps `trouble`. -/
def respond (clock : Nat → Timestamp) (trouble : Nat → Option Mishap) :
    (e : Effect) → Bench → e.Answer × Bench
  | .call c, b =>
    match trouble b.calls with
    | none => ((b.store.answer c).1.mapError .store, ⟨(b.store.answer c).2, b.calls + 1, b.looks⟩)
    | some m => ((b.store.struck c m).1, ⟨(b.store.struck c m).2, b.calls + 1, b.looks⟩)
  | .clock, b => (clock b.looks, ⟨b.store, b.calls, b.looks + 1⟩)
  | .work _, b => (.ok (), b)

/-- No mishap. -/
def calm : Nat → Option Mishap := fun _ => none

/-- A mishap to the call with the number `k`. -/
def strike (k : Nat) (m : Mishap) : Nat → Option Mishap := fun i => if i = k then some m else none

end Bench

namespace Pass

/-! ## Conditions on a run -/

section meets

variable {σ : Type} {respond : (e : Effect) → σ → e.Answer × σ} {P : Effect → σ → Prop}

/-- Each thing that the pass asks for finds the state as `P` says, and the pass ends as `Q` says. -/
def Meets (respond : (e : Effect) → σ → e.Answer × σ) (P : Effect → σ → Prop)
    (Q : Except PassError α → σ → Prop) : Pass α → σ → Prop
  | done r, s => Q r s
  | perform e next, s =>
    P e s ∧ Meets respond P Q (next (respond e s).1) (respond e s).2

/-- The run of a pass ends as it should. -/
theorem Meets.run {p : Pass α} {Q : Except PassError α → σ → Prop} {s : σ}
    (h : Meets respond P Q p s) : Q (p.run respond s).1 (p.run respond s).2 := by
  induction p generalizing s with
  | done r => exact h
  | perform e next ih => exact ih _ h.2

/-- Weakening the condition on the end. -/
theorem Meets.mono {p : Pass α} {Q Q' : Except PassError α → σ → Prop} {s : σ}
    (h : Meets respond P Q p s) (himp : ∀ r t, Q r t → Q' r t) : Meets respond P Q' p s := by
  induction p generalizing s with
  | done r => exact himp r s h
  | perform e next ih => exact ⟨h.1, ih _ h.2⟩

/-- Two passes one after the other. -/
theorem meets_bind {p : Pass α} {f : α → Pass β} {Q : Except PassError β → σ → Prop} {s : σ} :
    Meets respond P Q (p >>= f) s ↔
      Meets respond P (fun r t =>
        match r with
        | .ok a => Meets respond P Q (f a) t
        | .error e => Q (.error e) t) p s := by
  induction p generalizing s with
  | done r => cases r <;> exact Iff.rfl
  | perform e next ih => exact and_congr Iff.rfl (ih _)

/-- A pass whose failure is looked at. -/
theorem meets_attempt {p : Pass α} {Q : Except PassError (Except PassError α) → σ → Prop} {s : σ} :
    Meets respond P Q p.attempt s ↔ Meets respond P (fun r t => Q (.ok r) t) p s := by
  induction p generalizing s with
  | done r => exact Iff.rfl
  | perform e next ih => exact and_congr Iff.rfl (ih _)

end meets

/-! ## Passes that quit -/

/-- After a call that failed, other than for want of an object, the pass ends with that failure. -/
def QuitsAt : (e : Effect) → (e.Answer → Pass α) → Prop
  | .call _, next => ∀ e : PassError, e.isNotFound = false → next (.error e) = done (.error e)
  | .clock, _ => True
  | .work _, _ => True

/-- Wherever a call fails, other than for want of an object, the pass ends with that failure. -/
def Quits : Pass α → Prop
  | done _ => True
  | perform e next => QuitsAt e next ∧ ∀ a, Quits (next a)

/-- A call by itself. -/
theorem quits_call (c : StoreCall) : Quits (call c) := ⟨fun _ _ => rfl, fun _ => trivial⟩

/-- Two passes one after the other. -/
theorem quits_bind {p : Pass α} {f : α → Pass β} (hp : Quits p) (hf : ∀ a, Quits (f a)) :
    Quits (p >>= f) := by
  induction p with
  | done r =>
    cases r with
    | ok a => exact hf a
    | error e => trivial
  | perform e next ih =>
    refine ⟨?_, fun a => ih a (hp.2 a)⟩
    cases e with
    | clock => trivial
    | work task => trivial
    | call c =>
      intro e he
      show next (.error e) >>= f = _
      rw [hp.1 e he]
      rfl

/-- Two passes one after the other, of which the second looks at the failure of the first. -/
theorem quits_attempt_bind {p : Pass α} {f : Except PassError α → Pass β} (hp : Quits p)
    (hfail : ∀ e : PassError, e.isNotFound = false → f (.error e) = done (.error e))
    (hf : ∀ r, Quits (f r)) : Quits (p.attempt >>= f) := by
  induction p with
  | done r => exact hf r
  | perform e next ih =>
    refine ⟨?_, fun a => ih a (hp.2 a)⟩
    cases e with
    | clock => trivial
    | work task => trivial
    | call c =>
      intro e he
      show (next (.error e)).attempt >>= f = _
      rw [hp.1 e he]
      exact hfail e he

/-! ## Runs with a mishap -/

open Bench in
/-- A pass that quits, and that may be cut off at some of its calls, is cut off, or runs as if it
could not be. -/
theorem Quits.run_cut {p : Pass α} (hp : p.Quits) (clock : Nat → Timestamp)
    {trouble : Nat → Option Mishap} {cut : Cut}
    (htrouble : ∀ i m, trouble i = some m → m = .cut cut) (b : Bench) :
    (p.run (respond clock trouble) b).1 = .error cut.error ∨
      p.run (respond clock trouble) b = p.run (respond clock calm) b := by
  induction p generalizing b with
  | done r => exact Or.inr rfl
  | perform e next ih =>
    cases e with
    | clock => exact ih _ (hp.2 _) _
    | work task => exact ih _ (hp.2 _) _
    | call c =>
      cases hm : trouble b.calls with
      | none =>
        have hsame : respond clock trouble (.call c) b = respond clock calm (.call c) b := by
          simp [respond, calm, hm]
        have hnext := ih (respond clock trouble (.call c) b).1 (hp.2 _)
          (respond clock trouble (.call c) b).2
        refine hnext.imp id fun h => h.trans ?_
        rw [hsame]
        rfl
      | some m =>
        obtain rfl := htrouble _ m hm
        have hstruck : (respond clock trouble (.call c) b).1 = .error cut.error := by
          simp [respond, hm, MemoryStore.struck]
        have hquit := hp.1 cut.error (by cases cut <;> rfl)
        left
        show ((next (respond clock trouble (.call c) b).1).run _ _).1 = _
        rw [hstruck, hquit]
        rfl

open Bench in
/-- A pass that quits, and one of whose calls meets with a mishap, leaves the store as it was when
it made that call, apart from the mishap itself. -/
theorem Meets.run_struck {clock : Nat → Timestamp} {P : Effect → Bench → Prop}
    {Q : Except PassError α → Bench → Prop} {p : Pass α} {b : Bench} {k : Nat} {m : Mishap}
    (h : Meets (respond clock calm) P Q p b) (hq : p.Quits)
    (hm : ∀ c b, P (.call c) b →
      ∃ e : PassError, (b.store.struck c m).1 = .error e ∧ e.isNotFound = false)
    (hk : b.calls ≤ k) (hlt : k < (p.run (respond clock calm) b).2.calls) :
    ∃ c b', P (.call c) b' ∧
      (p.run (respond clock (strike k m)) b).2.store = (b'.store.struck c m).2 := by
  induction p generalizing b with
  | done r => exact absurd hlt (Nat.not_lt.mpr hk)
  | perform e next ih =>
    cases e with
    | clock => exact ih _ h.2 (hq.2 _) hk hlt
    | work task => exact ih _ h.2 (hq.2 _) hk hlt
    | call c =>
      by_cases hnow : b.calls = k
      · -- the pass ends here
        obtain ⟨e, he, hfound⟩ := hm c b h.1
        have hquit := hq.1 e hfound
        refine ⟨c, b, h.1, ?_⟩
        have hrespond : respond clock (strike k m) (.call c) b =
            (.error e, ⟨(b.store.struck c m).2, b.calls + 1, b.looks⟩) := by
          simp [respond, strike, hnow, he]
        show ((next (respond clock (strike k m) (.call c) b).1).run _
          (respond clock (strike k m) (.call c) b).2).2.store = _
        rw [hrespond, hquit]
        rfl
      · have hlater : b.calls + 1 ≤ k := Nat.lt_of_le_of_ne hk hnow
        have hsame : respond clock (strike k m) (.call c) b = respond clock calm (.call c) b := by
          simp [respond, strike, calm, hnow]
        obtain ⟨c', b', hP, hstore⟩ := ih _ h.2 (hq.2 _) hlater hlt
        refine ⟨c', b', hP, ?_⟩
        rw [← hstore, ← hsame]
        rfl

end Pass

end GoopOperator
