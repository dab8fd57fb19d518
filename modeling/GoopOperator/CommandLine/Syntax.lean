import GoopOperator.Text.Numeral

/-!
# The syntax of command lines

A command line is read level by level: the program's own options and a command, then the options and
the words of that command. Every option has a value, in the next argument or in its own
(`--name=value`, `-nvalue`, `-n=value`). Two hyphens alone end the options.

The value of an option is looked at when the next option or word begins, and at the end of its level;
so of two mistakes it is not always the first one that is reported.
-/

namespace GoopOperator.CommandLine

/-! ## Options -/

/-- What the value of an option may be. -/
inductive ValueKind where
  /-- Any text. -/
  | text
  /-- One of some words. -/
  | word (words : List String)
  /-- A number that fits in 64 bits. -/
  | number
  deriving DecidableEq

/-- An option. -/
structure Flag where
  /-- The long name. -/
  name : String
  /-- The letter, if it has one. -/
  letter : Option Char
  /-- What a message calls the value. -/
  placeholder : String
  /-- The environment variable that stands in for the option, if there is one. -/
  stand : Option String
  /-- What the value may be. -/
  kind : ValueKind
  deriving DecidableEq

/-- How a message shows an option. -/
def Flag.shown (f : Flag) : String := "--" ++ f.name ++ " <" ++ f.placeholder ++ ">"

/-! ## Mistakes -/

/-- Why a command line has no meaning, or asks for nothing but help. -/
inductive UsageError where
  /-- There is no such option, or no place for another word. -/
  | unknownArgument (shown : String)
  /-- An option has no value. -/
  | noValue (flag : Flag)
  /-- A value is none of the words of its option. -/
  | invalidWord (flag : Flag) (value : String)
  /-- A value is no number. -/
  | invalidNumber (flag : Flag) (value : String) (error : Text.NumeralError)
  /-- A value stands where none may be. -/
  | unexpectedValue (shown value : String)
  /-- An option is given twice on one level. -/
  | repeated (flag : Flag)
  /-- A word of the command is missing. -/
  | missingWord
  /-- There is no such command. -/
  | unknownCommand (name : String)
  /-- There are options and no command. -/
  | missingCommand
  /-- There is nothing at all. -/
  | nothing
  /-- Help is asked for. -/
  | help
  /-- The version is asked for. -/
  | version
  deriving DecidableEq

/-! ## Levels -/

/-- What may stand on one level. -/
structure Level where
  /-- The options. -/
  flags : List Flag
  /-- The number of words, all of them required. -/
  words : Nat
  /-- The commands, one of which has to follow where there are any. -/
  commands : List String
  /-- Whether the version can be asked for. -/
  hasVersion : Bool

/-- What has been read of one level. -/
structure Reading where
  /-- The values of options, by their names. -/
  values : List (String × String)
  /-- The option whose value has not been looked at, with the value if it has come. -/
  pending : Option (Flag × Option String)
  /-- The words. -/
  words : List String
  /-- Whether the options have ended. -/
  literal : Bool

namespace Reading

/-- A level of which nothing has been read. -/
def empty : Reading := ⟨[], none, [], false⟩

/-- Takes the value of an option, if it may have that. -/
def take (r : Reading) (f : Flag) (value : String) : Except UsageError Reading :=
  if (r.values.lookup f.name).isSome then .error (.repeated f)
  else
    let taken : Reading := { r with values := (f.name, value) :: r.values }
    match f.kind with
    | .text => .ok taken
    | .word words => if words.contains value then .ok taken else .error (.invalidWord f value)
    | .number =>
      match Text.readNumeral Text.maxWord value with
      | .ok _ => .ok taken
      | .error e => .error (.invalidNumber f value e)

/-- Looks at the value of the option that is pending. -/
def settle (r : Reading) : Except UsageError Reading :=
  match r.pending with
  | none => .ok r
  | some (f, none) => .error (.noValue f)
  | some (f, some value) => { r with pending := none }.take f value

/-- Whether the next argument is the value of an option, unless it looks like an option itself. -/
def isWaiting (r : Reading) : Bool := r.pending.any fun p => p.2.isNone

/-- Begins an option, with its value or before it. -/
def begin (r : Reading) (f : Flag) (value : Option String) : Except UsageError Reading := do
  let r ← r.settle
  match value with
  | some value => r.take f value
  | none => .ok { r with pending := some (f, none) }

/-- Fails for a reason that counts only after the pending value. -/
def refuse (r : Reading) (e : UsageError) : Except UsageError Reading := do
  let _ ← r.settle
  .error e

end Reading

namespace Level

/-- Reads an option with a long name, given without its hyphens. -/
def long (l : Level) (r : Reading) (cs : List Char) : Except UsageError Reading :=
  let name := String.ofList (cs.takeWhile (· ≠ '='))
  let value := match cs.dropWhile (· ≠ '=') with
    | _ :: v => some (String.ofList v)
    | [] => none
  if name = "help" ∨ (name = "version" ∧ l.hasVersion) then
    match value with
    | some v => .error (.unexpectedValue ("--" ++ name) v)
    | none => r.refuse (if name = "help" then .help else .version)
  else
    match l.flags.find? fun f => f.name = name with
    | some f => r.begin f value
    | none => .error (.unknownArgument ("--" ++ name))

/-- Reads an option with a letter, given without its hyphen. -/
def short (l : Level) (r : Reading) (letter : Char) (rest : List Char) :
    Except UsageError Reading :=
  if letter = 'h' then r.refuse .help
  else if letter = 'V' ∧ l.hasVersion then r.refuse .version
  else
    match l.flags.find? fun f => f.letter = some letter with
    | some f =>
      r.begin f <| match rest with
        | [] => none
        | '=' :: v => some (String.ofList v)
        | v => some (String.ofList v)
    | none => .error (.unknownArgument (String.ofList ['-', letter]))

/-- Reads a word. -/
def word (l : Level) (r : Reading) (arg : String) : Except UsageError Reading :=
  if r.words.length < l.words then do
    let r ← r.settle
    .ok { r with words := r.words ++ [arg] }
  else if l.commands = [] ∨ (r.literal ∧ l.commands.contains arg) then .error (.unknownArgument arg)
  else .error (.unknownCommand arg)

/-- Reads an argument that is no command. -/
def argument (l : Level) (r : Reading) (arg : String) : Except UsageError Reading :=
  if r.literal then l.word r arg
  else
    match arg.toList with
    | ['-', '-'] => .ok { r with literal := true }
    | '-' :: '-' :: cs => l.long r cs
    | '-' :: c :: rest => l.short r c rest
    | _ =>
      -- a hyphen alone is a word, too
      match r.pending with
      | some (f, none) => .ok { r with pending := some (f, some arg) }
      | _ => l.word r arg

/-- Reads arguments up to a command. The answer is what has been read, and the command with the
arguments after it. -/
def read (l : Level) (r : Reading) : List String →
    Except UsageError (Reading × Option (String × List String))
  | [] => .ok (r, none)
  | arg :: rest =>
    -- a value that an option waits for may be spelled as a command is
    if ¬ r.literal ∧ ¬ r.isWaiting ∧ l.commands.contains arg then .ok (r, some (arg, rest))
    else do l.read (← l.argument r arg) rest

end Level

/-- The value of an option on two levels, the inner one first, or else in the environment. -/
def valueOf (inner outer : Reading) (get? : String → Option String) (f : Flag) : Option String :=
  inner.values.lookup f.name <|> outer.values.lookup f.name <|> (f.stand >>= get?)

end GoopOperator.CommandLine
