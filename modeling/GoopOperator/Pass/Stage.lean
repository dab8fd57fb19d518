import GoopOperator.Pass.Basic
import GoopOperator.Settings

/-!
# Stages and chains of them

A pass runs a chain of stages. Each of them gets the job as the one before has left it, and either
hands it on or ends the pass. A stage is added to the lifecycle by putting it before another one.
-/

namespace GoopOperator

/-- When the operator looks at a job again. -/
inductive Requeue where
  /-- When something happens to it. -/
  | never
  /-- At once. -/
  | now
  /-- After some time. -/
  | after (delay : Duration)
  deriving DecidableEq

/-- What a stage decides. -/
inductive Decision where
  /-- The next stage goes on with this job. -/
  | next (goop : Goop)
  /-- The pass ends. -/
  | stop (requeue : Requeue)
  deriving DecidableEq

/-- What the stages of a pass know. -/
structure Context where
  /-- The key of the job. -/
  key : ObjectKey
  /-- The settings. -/
  settings : Settings

/-- Reads the job that the pass works on. -/
def Context.fetch (cx : Context) : Pass Goop := Pass.call (.get cx.key)

/-- A stage of a pass. -/
structure Stage where
  /-- The name, by which other stages are put before it. -/
  name : String
  /-- What it does with the job. -/
  handle : Context → Goop → Pass Decision

/-- The stages of a pass, in their order. -/
structure Chain where
  /-- The stages. -/
  stages : List Stage

namespace Chain

/-- The chain without stages. -/
def empty : Chain := ⟨[]⟩

/-- The chain with a stage at its end. -/
def push (c : Chain) (h : Stage) : Chain := ⟨c.stages ++ [h]⟩

/-- The stages with `h` before the first one of the given name. -/
def insertBefore.go (name : String) (h : Stage) : List Stage → Option (List Stage)
  | [] => none
  | x :: rest => if x.name = name then some (h :: x :: rest) else (go name h rest).map (x :: ·)

/-- The chain with `h` before the first stage of the given name, if there is one. -/
def insertBefore (c : Chain) (name : String) (h : Stage) : Option Chain :=
  (insertBefore.go name h c.stages).map .mk

/-- The names of the stages, in their order. -/
def names (c : Chain) : List String := c.stages.map (·.name)

/-- The number of stages. -/
def size (c : Chain) : Nat := c.stages.length

/-- Whether there is no stage. -/
def isEmpty (c : Chain) : Bool := c.stages.isEmpty

@[simp] theorem names_push (c : Chain) (h : Stage) : (c.push h).names = c.names ++ [h.name] := by
  simp [names, push]

@[simp] theorem size_push (c : Chain) (h : Stage) : (c.push h).size = c.size + 1 := by
  simp [size, push]

/-- Runs stages one after the other until one of them ends the pass. Behind the last one nothing is
left to do. -/
def run.go (cx : Context) : List Stage → Goop → Pass Requeue
  | [], _ => pure .never
  | h :: rest, goop => do
    match ← h.handle cx goop with
    | .next goop => go cx rest goop
    | .stop requeue => pure requeue

/-- Runs the stages of a chain on a job. -/
def run (c : Chain) (cx : Context) (goop : Goop) : Pass Requeue := run.go cx c.stages goop

@[simp] theorem run_empty (cx : Context) (goop : Goop) : empty.run cx goop = pure .never := rfl

/-- The first stage decides whether the others run. -/
theorem run_cons (h : Stage) (rest : List Stage) (cx : Context) (goop : Goop) :
    run ⟨h :: rest⟩ cx goop = h.handle cx goop >>= fun
      | .next goop => run ⟨rest⟩ cx goop
      | .stop requeue => pure requeue := rfl

end Chain

end GoopOperator
