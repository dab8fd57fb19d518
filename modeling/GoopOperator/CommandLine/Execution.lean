import GoopOperator.Api.Server
import GoopOperator.CommandLine.Invocation
import GoopOperator.CustomResource
import GoopOperator.Reconcile

/-!
# What `goopctl` does

What the program prints for each command, and with what exit code it ends. The cluster is a server, if
one can be reached at all; the environment is given by the values of its variables.
-/

namespace GoopOperator.CommandLine

/-- What the program leaves behind. -/
structure Outcome where
  /-- The answer. -/
  stdout : String
  /-- What went wrong. -/
  stderr : String
  /-- The exit code. -/
  exit : Nat
  deriving DecidableEq

/-- The outcome of a command that succeeds. -/
def Outcome.success (stdout : String) : Outcome := ⟨stdout, "", 0⟩

/-- A text with its lines after the first one indented by four spaces. -/
def indented (text : String) : String :=
  String.ofList (text.toList.flatMap fun c => if c = '\n' then "\n    ".toList else [c])

/-- The outcome of a command that fails, with the cause where `message` says what was being done. -/
def Outcome.failure (message : String) (cause : Option String) : Outcome :=
  ⟨"", "Error: " ++ message ++
    (cause.elim "\n" fun c => "\n\nCaused by:\n    " ++ indented c ++ "\n"), 1⟩

/-- The outcome of a mistake on the command line, or of the wish for help. -/
def UsageError.outcome (e : UsageError) : Outcome :=
  if e.isAnswer then ⟨e.message ++ "\n", "", 0⟩ else ⟨"", e.message ++ "\n", 2⟩

/-- A settled program: it is done, or goes on working on all jobs. -/
inductive Progress where
  /-- It is done. -/
  | finished (outcome : Outcome)
  /-- It works on the jobs of a namespace, or of all, until it is stopped. -/
  | watching (ns : Option String) (settings : Settings) (pauseImage : String)
    (errorDelay : Duration)

/-! ## Answers -/

/-- How an answer names the result of a pass. -/
def outcomeText : Requeue → String
  | .never => "done"
  | .now => "requeue"
  | .after d => "requeue after " ++ toString (Duration.seconds d) ++ "s"

/-- The answer to a pass over the job of a key. -/
def passAnswer (format : Format) (key : ObjectKey) (r : Requeue) : String :=
  match format with
  | .human => key.toText ++ ": " ++ outcomeText r ++ "\n"
  | .json =>
    let seconds : Json := match r with
      | .after d => .int (Duration.seconds d)
      | _ => .null
    Json.pretty (.obj [("afterSecs", seconds), ("key", .str key.toText),
      ("outcome", .str (outcomeText r))]) ++ "\n"

/-- A text with spaces behind it up to a width. -/
def column (width : Nat) (text : String) : String :=
  text ++ String.ofList (List.replicate (width - text.length) ' ')

/-- A row of the table of conditions. -/
def row (type status reason time message : String) : String :=
  column 12 type ++ " " ++ column 8 status ++ " " ++ column 13 reason ++ " " ++ column 22 time ++
    " " ++ message ++ "\n"

/-- The row of a condition. -/
def conditionRow (c : Condition) : String :=
  row c.type.name c.status.name c.reason.name (c.lastTransition.getD "-") c.message

/-- The answer that shows a ledger. -/
def ledgerAnswer (format : Format) (l : Ledger) : String :=
  match format with
  | .human =>
    row "TYPE" "STATUS" "REASON" "LAST TRANSITION" "MESSAGE" ++
      String.join (l.entries.map conditionRow)
  | .json => l.toJson.pretty ++ "\n"

/-! ## Commands -/

/-- The failure of a program that reaches no cluster. -/
def noCluster : Outcome := .failure "building kube client (kubeconfig or in-cluster)" none

/-- The failure of a command that was given no key. -/
def noKey (e : KeyError) : Outcome := .failure "expected NAMESPACE/NAME" (some e.message)

/-- Runs one pass over the job of a key. -/
def runReconcile (env : Surroundings (Observed σ)) (settings : Settings) (format : Format)
    (key : ObjectKey) (o : Observed σ) : Outcome × Observed σ :=
  let (r, _, o) := reconcileFrom env Lifecycle.chain ⟨key, settings⟩ none 0 o
  match r with
  | .ok requeue => (.success (passAnswer format key requeue), o)
  | .error e => (.failure e.message none, o)

/-- Reads the job of a key and shows its ledger. -/
def runStatus (env : Surroundings (Observed σ)) (format : Format) (key : ObjectKey)
    (o : Observed σ) : Outcome × Observed σ :=
  let (r, _, o) := env.runPass .none (Pass.call (.get key)) 0 o
  match r with
  | .ok goop => (.success (ledgerAnswer format (Goop.ledger goop)), o)
  | .error e => (.failure ("fetching goop " ++ key.toText) (some e.message), o)

/-- Does what a command line asks for, on a cluster, if there is one. -/
def Invocation.execute (i : Invocation) (cluster : Option (Api.Server σ))
    (get? : String → Option String) (timeOfDay : Instant → Timestamp) (o : Observed σ) :
    Progress × Observed σ :=
  let pauseImage := i.pauseImage.getD defaultPauseImage
  let settings (image : Option String) := (Settings.ofEnvironment get?).withImage image
  let withKey (key : String) (act : ObjectKey → Api.Server σ → Outcome × Observed σ) :
      Progress × Observed σ :=
    match ObjectKey.ofText key, cluster with
    | .error e, _ => (.finished (noKey e), o)
    | .ok _, none => (.finished noCluster, o)
    | .ok key, some serve =>
      let (outcome, o) := act key serve
      (.finished outcome, o)
  match i.command with
  | .run ns image errorRequeueSeconds =>
    (if cluster.isSome then
      .watching ns (settings image) pauseImage (.ofSeconds errorRequeueSeconds)
    else .finished noCluster, o)
  | .definition => (.finished (.success CustomResource.manifest), o)
  | .reconcile key image =>
    withKey key fun key serve =>
      runReconcile (Api.surroundings serve pauseImage timeOfDay) (settings image) i.format key o
  | .status key =>
    withKey key fun key serve =>
      runStatus (Api.surroundings serve defaultPauseImage timeOfDay) i.format key o

/-- Does what the arguments of the program ask for. -/
def execute (args : List String) (cluster : Option (Api.Server σ)) (get? : String → Option String)
    (timeOfDay : Instant → Timestamp) (o : Observed σ) : Progress × Observed σ :=
  match Invocation.ofArguments get? args with
  | .error e => (.finished e.outcome, o)
  | .ok i => i.execute cluster get? timeOfDay o

end GoopOperator.CommandLine
