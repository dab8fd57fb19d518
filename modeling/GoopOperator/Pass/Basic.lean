import GoopOperator.Pass.Error

/-!
# Passes

A pass is a program that works on one job. It is a tree: at each node it asks its surroundings for
something (`Effect`) and goes on with the answer. What the surroundings are is decided when the pass
is run (`Pass.run`), so the same pass runs over a store in memory, over an API server and over
answers that are made up.

A pass ends where something fails, unless the failure is looked at by `Pass.attempt`. The laws say
that passes form a monad.
-/

namespace GoopOperator

/-- What a pass asks its surroundings for. -/
inductive Effect where
  /-- A call of the store. -/
  | call (c : StoreCall)
  /-- The time of day. -/
  | clock
  /-- Some work outside the store. -/
  | work (task : Json)

/-- What the surroundings answer. A call that is cut off is answered by the reason for it. -/
abbrev Effect.Answer : Effect → Type
  | .call c => Except PassError c.Answer
  | .clock => Timestamp
  | .work _ => Except PassError Unit

/-- A program that works on one job. -/
inductive Pass (α : Type) where
  /-- It has ended. -/
  | done (result : Except PassError α)
  /-- It asks for something and goes on with the answer. -/
  | perform (e : Effect) (next : e.Answer → Pass α)

namespace Pass

/-- Goes on with the result of a pass, if it has one. -/
def andThen (f : α → Pass β) : Pass α → Pass β
  | done (.ok a) => f a
  | done (.error e) => done (.error e)
  | perform e next => perform e fun a => andThen f (next a)

instance : Monad Pass where
  pure a := done (.ok a)
  bind p f := andThen f p

/-- Ends a pass with a failure. -/
def fail (e : PassError) : Pass α := done (.error e)

/-- A pass that ends at once, with or without a result. -/
def ofExcept (r : Except PassError α) : Pass α := done r

/-- The outcome of a pass as its result: nothing fails any more. -/
def attempt : Pass α → Pass (Except PassError α)
  | done r => done (.ok r)
  | perform e next => perform e fun a => attempt (next a)

/-- Calls the store. -/
def call (c : StoreCall) : Pass c.Answer := perform (.call c) done

/-- Looks at the time of day. -/
def clock : Pass Timestamp := perform .clock fun t => done (.ok t)

/-- Does some work outside the store. -/
def work (task : Json) : Pass Unit := perform (.work task) done

/-- Runs a pass in surroundings with a state. -/
def run (respond : (e : Effect) → σ → e.Answer × σ) : Pass α → σ → Except PassError α × σ
  | done r, s => (r, s)
  | perform e next, s =>
    let a := respond e s
    run respond (next a.1) a.2

/-! ## Laws -/

@[simp] theorem pure_eq (a : α) : (pure a : Pass α) = done (.ok a) := rfl

@[simp] theorem done_ok_bind (a : α) (f : α → Pass β) : done (.ok a) >>= f = f a := rfl

@[simp] theorem done_error_bind (e : PassError) (f : α → Pass β) :
    done (.error e) >>= f = done (.error e) := rfl

@[simp] theorem perform_bind (e : Effect) (next : e.Answer → Pass α) (f : α → Pass β) :
    perform e next >>= f = perform e fun a => next a >>= f := rfl

/-- Going on with nothing but the result changes nothing. -/
theorem bind_pure_self (p : Pass α) : p >>= pure = p := by
  induction p with
  | done r => cases r <;> rfl
  | perform e next ih => simp only [perform_bind, ih]

/-- Going on twice is going on once with both. -/
theorem bind_bind (p : Pass α) (f : α → Pass β) (g : β → Pass γ) :
    p >>= f >>= g = p >>= fun a => f a >>= g := by
  induction p with
  | done r => cases r <;> rfl
  | perform e next ih => simp only [perform_bind, ih]

instance : LawfulMonad Pass := LawfulMonad.mk' Pass
  (fun p => bind_pure_self p) (fun _ _ => rfl) bind_bind

/-- A look at the clock does not fail. -/
theorem attempt_clock_bind (f : Timestamp → Pass α) :
    (clock >>= f).attempt = clock >>= fun now => (f now).attempt := rfl

end Pass

end GoopOperator
