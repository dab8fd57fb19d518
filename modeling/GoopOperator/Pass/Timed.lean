import GoopOperator.Pass.Basic
import GoopOperator.Time.Duration

/-!
# Passes in time

Time passes only while a store works on a call. A pass may be cancelled or run out of time: no call is
made after that, and a call that is under way then is given up. At a tie the cancellation comes before
the deadline, and both come before the answer.
-/

namespace GoopOperator

/-- A call that a store has taken on. -/
structure Taken (σ α : Type) where
  /-- How long the call takes. -/
  delay : Duration
  /-- What the store does, and answers, when that time is over. -/
  complete : σ → α × σ

/-- Surroundings in which time passes. -/
structure Surroundings (σ : Type) where
  /-- What the store does with a call when it is made. -/
  take : (c : StoreCall) → Instant → σ → Taken σ (Except StoreError c.Answer) × σ
  /-- The time of day. -/
  timeOfDay : Instant → Timestamp
  /-- How work outside the store ends. -/
  work : Json → σ → Except PassError Unit × σ

/-- When a pass is cut off. -/
structure Interruption where
  /-- The time at which it is cancelled. -/
  cancelAt : Option Instant
  /-- The time at which its time is up. -/
  deadline : Option Instant

namespace Interruption

/-- Nothing cuts the pass off. -/
def none : Interruption := ⟨.none, .none⟩

/-- Why a pass makes no further call at a point in time, if it does not. -/
def over? (i : Interruption) (now : Instant) : Option PassError :=
  if i.cancelAt.any (· ≤ now) then some .cancelled
  else if i.deadline.any (· ≤ now) then some .deadlineExceeded
  else .none

/-- What cuts off a call that would be answered at `due`, and when, if anything does. -/
def cut? (i : Interruption) (due : Instant) : Option (Instant × PassError) :=
  match i.cancelAt.filter (· ≤ due), i.deadline.filter (· ≤ due) with
  | some c, some d => some (if c ≤ d then (c, .cancelled) else (d, .deadlineExceeded))
  | some c, .none => some (c, .cancelled)
  | .none, some d => some (d, .deadlineExceeded)
  | .none, .none => .none

@[simp] theorem over?_none (now : Instant) : none.over? now = .none := rfl

@[simp] theorem cut?_none (due : Instant) : none.cut? due = .none := rfl

end Interruption

/-- A pass that waits: until when, and what it gets then. -/
structure Waiting (σ α : Type) where
  /-- The time at which it goes on. -/
  wake : Instant
  /-- What it gets. -/
  resume : σ → α × σ

namespace Surroundings

/-- Makes a call at a point in time. -/
def await (env : Surroundings σ) (i : Interruption) (c : StoreCall) (now : Instant) (s : σ) :
    Waiting σ (Except PassError c.Answer) × σ :=
  match i.over? now with
  -- the store does not hear of the call
  | some e => (⟨now, fun s => (.error e, s)⟩, s)
  | none =>
    let (taken, s) := env.take c now s
    match i.cut? (now + taken.delay) with
    -- the store has heard of the call, and does not complete it
    | some (t, e) => (⟨t, fun s => (.error e, s)⟩, s)
    | none =>
      (⟨now + taken.delay, fun s =>
        let (r, s) := taken.complete s
        (r.mapError .store, s)⟩, s)

/-- Answers what a pass asks for; the clock moves on to the time of the answer. -/
def respond (env : Surroundings σ) (i : Interruption) :
    (e : Effect) → Instant × σ → e.Answer × Instant × σ
  | .call c, (now, s) =>
    let (w, s) := env.await i c now s
    let (r, s) := w.resume s
    (r, w.wake, s)
  | .clock, (now, s) => (env.timeOfDay now, now, s)
  | .work task, (now, s) =>
    let (r, s) := env.work task s
    (r, now, s)

/-- Runs a pass from a point in time on, with nothing else going on. -/
def runPass (env : Surroundings σ) (i : Interruption) (p : Pass α) (now : Instant) (s : σ) :
    Except PassError α × Instant × σ :=
  p.run (env.respond i) (now, s)

/-- How far a pass gets before it waits for the store. -/
inductive Progress (σ α : Type) where
  /-- To its end. -/
  | ended (result : Except PassError α)
  /-- To a call. -/
  | waiting (w : Waiting σ (Pass α))

/-- Runs a pass up to its next call of the store, and makes that. -/
def advance (env : Surroundings σ) (i : Interruption) (now : Instant) :
    Pass α → σ → Progress σ α × σ
  | .done r, s => (.ended r, s)
  | .perform (.call c) next, s =>
    let (w, s) := env.await i c now s
    (.waiting ⟨w.wake, fun s =>
      let (r, s) := w.resume s
      (next r, s)⟩, s)
  | .perform .clock next, s => env.advance i now (next (env.timeOfDay now)) s
  | .perform (.work task) next, s =>
    let (r, s) := env.work task s
    env.advance i now (next r) s

end Surroundings

end GoopOperator
