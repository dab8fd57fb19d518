import GoopOperator.Text.Blank
import GoopOperator.Text.Numeral
import GoopOperator.Time.Duration

/-!
# Settings of the operator

Read once, from the environment. Each variable decides one setting; a value that is refused leaves
the default.
-/

namespace GoopOperator

/-- The finalizer token that the operator places on every job unless told otherwise. -/
def defaultFinalizer : String := "goop.example.com/finalizer"

/-- Settings of the operator. -/
structure Settings where
  /-- The finalizer token that holds back the physical deletion of a job. -/
  finalizer : String
  /-- The delay between two looks at a workload that is not complete. -/
  pollInterval : Duration
  /-- The time that one pass may take; none for no bound. -/
  passTimeout : Option Duration
  /-- The image of jobs that name none. -/
  image : Option String
  /-- The command of jobs that name none. -/
  jobCommand : List String
  /-- Whether each pass logs the object that it works on. -/
  logObjects : Bool
  deriving DecidableEq

namespace Settings

/-- The settings of an environment without variables. -/
def default : Settings where
  finalizer := defaultFinalizer
  pollInterval := .ofSeconds 3
  passTimeout := some (.ofSeconds 30)
  image := none
  jobCommand := ["sleep", "11"]
  logObjects := false

instance : Inhabited Settings := ⟨default⟩

/-- A text that is not empty. -/
def nonempty? (text : String) : Option String := if text = "" then none else some text

/-- A number of whole seconds. -/
def seconds? (text : String) : Option Nat := (Text.readNumeral Text.maxWord text).toOption

/-- The bound on a pass that a number of seconds stands for; 0 lifts the bound. -/
def timeoutOfSeconds (n : Nat) : Option Duration :=
  if n = 0 then none else some (.ofSeconds n)

/-- A command of at least one word. -/
def command? (text : String) : Option (List String) :=
  match Text.words text with
  | [] => none
  | words => some words

/-- Whether a text says yes: `1`, or `true` in any case. -/
def isYes (text : String) : Bool :=
  text = "1" || text.toList.map Char.toLower = ['t', 'r', 'u', 'e']

/-- The settings of an environment, given by the values of its variables. -/
def ofEnvironment (get? : String → Option String) : Settings where
  finalizer := (get? "GOOP_FINALIZER" >>= nonempty?).getD default.finalizer
  pollInterval := ((get? "GOOP_POLL_SECS" >>= seconds?).map .ofSeconds).getD default.pollInterval
  passTimeout := ((get? "GOOP_PASS_TIMEOUT_SECS" >>= seconds?).map timeoutOfSeconds).getD
    default.passTimeout
  image := get? "GOOP_IMAGE" >>= nonempty?
  jobCommand := (get? "GOOP_JOB_COMMAND" >>= command?).getD default.jobCommand
  logObjects := (get? "GOOP_LOG_OBJECTS").any isYes

/-- The settings under an image named on the command line, which wins even where it is empty. -/
def withImage (s : Settings) (image : Option String) : Settings :=
  { s with image := image <|> s.image }

@[simp] theorem withImage_none (s : Settings) : s.withImage none = s := rfl

@[simp] theorem image_withImage_some (s : Settings) (image : String) :
    (s.withImage (some image)).image = some image := rfl

end Settings

end GoopOperator
