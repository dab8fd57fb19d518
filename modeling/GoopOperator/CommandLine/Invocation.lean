import GoopOperator.CommandLine.Syntax

/-!
# What `goopctl` can be asked for

The options and commands of the program, and how a command line is read as one of them. A value on the
command line wins over the environment, and one beside the command over one before it.
-/

namespace GoopOperator.CommandLine

/-- The form of an answer. -/
inductive Format where
  /-- For people. -/
  | human
  /-- For programs. -/
  | json
  deriving DecidableEq

/-- What the program is to do. -/
inductive Command where
  /-- Work on all jobs until it is stopped. -/
  | run (ns image : Option String) (errorRequeueSeconds : Nat)
  /-- Print the definition of the resource. -/
  | definition
  /-- Run one pass over the job of a key. -/
  | reconcile (key : String) (image : Option String)
  /-- Print the condition ledger of the job of a key. -/
  | status (key : String)
  deriving DecidableEq

/-- A command line that has been understood. -/
structure Invocation where
  /-- The form of the answer. -/
  format : Format
  /-- Where metrics are served. -/
  metricsAddress : Option String
  /-- The image of the pause container. -/
  pauseImage : Option String
  /-- What the program is to do. -/
  command : Command
  deriving DecidableEq

/-- The option for the form of the answer. -/
def outputFlag : Flag := ⟨"output", some 'o', "OUTPUT", none, .word ["human", "json"]⟩

/-- The option for the address of the metrics. -/
def metricsFlag : Flag := ⟨"metrics-addr", none, "METRICS_ADDR", some "GOOP_METRICS_ADDR", .text⟩

/-- The option for the image of the pause container. -/
def pauseFlag : Flag := ⟨"pause-image", none, "PAUSE_IMAGE", some "GOOP_PAUSE_IMAGE", .text⟩

/-- The option for the namespace to watch. -/
def namespaceFlag : Flag := ⟨"ns", none, "NAMESPACE", none, .text⟩

/-- The option for the image of jobs. -/
def imageFlag : Flag := ⟨"image", none, "IMAGE", some "GOOP_IMAGE", .text⟩

/-- The option for the delay after a failed pass. -/
def errorDelayFlag : Flag := ⟨"error-requeue-secs", none, "ERROR_REQUEUE_SECS", none, .number⟩

/-- The options of every level. -/
def commonFlags : List Flag := [outputFlag, metricsFlag, pauseFlag]

/-- The commands with their own options and the number of their words. -/
def commands : List (String × List Flag × Nat) :=
  [("run", [namespaceFlag, imageFlag, errorDelayFlag], 0),
    ("crd", [], 0),
    ("reconcile", [imageFlag], 1),
    ("status", [], 1)]

/-- The outer level. -/
def outerLevel : Level := ⟨commonFlags, 0, commands.map (·.1) ++ ["help"], true⟩

/-- The level of a command. -/
def innerLevel (own : List Flag) (words : Nat) : Level := ⟨commonFlags ++ own, words, [], false⟩

/-- What asking for help on some words comes to. -/
def helpOn : List String → UsageError
  | [] => .help
  | [c] => if outerLevel.commands.contains c then .help else .unknownCommand c
  | c :: d :: _ => .unknownCommand (if outerLevel.commands.contains c then d else c)

/-- The number in a text that has been found to be one. -/
def numberOf (text : String) : Nat := (Text.readNumeral Text.maxWord text).toOption.getD 0

/-- The command of a name, from what has been read of its level and the values of options. -/
def commandOf (name : String) (inner : Reading) (value : Flag → Option String) : Command :=
  let key := inner.words.headD ""
  match name with
  | "run" =>
    .run (value namespaceFlag) (value imageFlag) ((value errorDelayFlag).map numberOf |>.getD 15)
  | "crd" => .definition
  | "reconcile" => .reconcile key (value imageFlag)
  | _ => .status key

/-- Reads the arguments of a command up to their end. -/
def readInner (own : List Flag) (words : Nat) (args : List String) : Except UsageError Reading := do
  let (inner, _) ← (innerLevel own words).read .empty args
  let inner ← inner.settle
  if inner.words.length < words then .error .missingWord else .ok inner

/-- Reads a command line, given the environment. -/
def Invocation.ofArguments (get? : String → Option String) (args : List String) :
    Except UsageError Invocation := do
  let (outer, next) ← outerLevel.read .empty args
  match next with
  | none =>
    let outer ← outer.settle
    if commonFlags.any fun f => (valueOf .empty outer get? f).isSome then .error .missingCommand
    else .error .nothing
  | some (name, rest) =>
    match commands.lookup name with
    | none => .error (helpOn rest)
    | some (own, words) =>
      -- what is wrong inside is reported first
      let inner ← readInner own words rest
      let outer ← outer.settle
      let value := valueOf inner outer get?
      return {
        format := if value outputFlag = some "json" then .json else .human
        metricsAddress := value metricsFlag
        pauseImage := value pauseFlag
        command := commandOf name inner value }

/-- The first line of what the program says about a mistake. -/
def UsageError.message : UsageError → String
  | .unknownArgument shown => "error: unexpected argument '" ++ shown ++ "' found"
  | .noValue f => "error: a value is required for '" ++ f.shown ++ "' but none was supplied"
  | .invalidWord f value =>
    if value = "" then "error: a value is required for '" ++ f.shown ++ "' but none was supplied"
    else "error: invalid value '" ++ value ++ "' for '" ++ f.shown ++ "'"
  | .invalidNumber f value e =>
    "error: invalid value '" ++ value ++ "' for '" ++ f.shown ++ "': " ++ e.message
  | .unexpectedValue shown value =>
    "error: unexpected value '" ++ value ++ "' for '" ++ shown ++ "' found; no more were expected"
  | .repeated f => "error: the argument '" ++ f.shown ++ "' cannot be used multiple times"
  | .missingWord => "error: the following required arguments were not provided:"
  | .unknownCommand name => "error: unrecognized subcommand '" ++ name ++ "'"
  | .missingCommand => "error: 'goopctl' requires a subcommand but one was not provided"
  | .nothing | .help => "Goop operator"
  | .version => "goopctl 0.0.0"

/-- Whether the program was asked for a text about itself, which it prints as its answer. -/
def UsageError.isAnswer : UsageError → Bool
  | .help | .version => true
  | _ => false

end GoopOperator.CommandLine
