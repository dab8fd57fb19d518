import GoopOperator.Ledger
import GoopOperator.Metadata
import GoopOperator.ObjectKey

/-!
# The `Goop` resource

A job to be run once on every node of the cluster: what is wanted (`GoopSpec`), what has been reached
(`GoopStatus`, the condition ledger), and the object's metadata.
-/

namespace GoopOperator

/-- What a job asks for. -/
structure GoopSpec where
  /-- A free-form tag. -/
  foo : Option String
  /-- The expected number of runs, for information. -/
  jobCount : Option Int32
  /-- The command of the job; the operator's default applies where it is empty. -/
  command : List String
  /-- The image of the job, where it is not the operator's default. -/
  image : Option String
  deriving DecidableEq

namespace GoopSpec

/-- A job that asks for nothing in particular. -/
def empty : GoopSpec := ⟨none, none, [], none⟩

instance : EmptyCollection GoopSpec := ⟨empty⟩

/-- Writes a spec. -/
def toJson (s : GoopSpec) : Json :=
  .obj (Json.memberIfSome "foo" .str s.foo ++
    Json.memberIfSome "job_count" (fun n => .int n.toInt) s.jobCount ++
    (if s.command = [] then [] else [("command", Json.texts s.command)]) ++
    Json.memberIfSome "image" .str s.image)

/-- Reads a spec. -/
def ofJson? (v : Json) : Option GoopSpec := do
  match ← Json.slots? ["foo", "job_count", "command", "image"] v with
  | [foo, jobCount, command, image] =>
    return {
      foo := ← foo.omittable? Json.text?
      jobCount := ← jobCount.omittable? Json.int32?
      command := ← command.defaulted? [] Json.texts?
      image := ← image.omittable? Json.text? }
  | _ => none

end GoopSpec

/-- What a job has reached. -/
structure GoopStatus where
  /-- The condition ledger. -/
  conditions : Ledger
  deriving DecidableEq

namespace GoopStatus

/-- Writes a status. -/
def toJson (s : GoopStatus) : Json := .obj [("conditions", s.conditions.toJson)]

/-- Reads a status. -/
def ofJson? (v : Json) : Option GoopStatus := do
  match ← Json.slots? ["conditions"] v with
  | [conditions] => return ⟨← conditions.defaulted? ∅ Ledger.ofJson?⟩
  | _ => none

end GoopStatus

/-- A job to be run once on every node. -/
structure Goop where
  /-- The object's metadata. -/
  metadata : ObjectMeta
  /-- What the job asks for. -/
  spec : GoopSpec
  /-- What the job has reached. -/
  status : Option GoopStatus
  deriving DecidableEq

namespace Goop

/-- The API version of the resource. -/
def apiVersion : String := "goop.example.com/v1alpha1"

/-- The kind of the resource. -/
def kind : String := "Goop"

/-- A job of the given name. -/
def new (name : String) (spec : GoopSpec) : Goop :=
  { metadata := { ObjectMeta.empty with name := some name }, spec, status := none }

/-- The name, or what the generated name begins with, or nothing. -/
def name (g : Goop) : String :=
  (g.metadata.name <|> g.metadata.generateName).getD ""

/-- The key, if the object has a namespace. -/
def key (g : Goop) : Except KeyError ObjectKey :=
  match g.metadata.ns with
  | some ns => .ok ⟨ns, g.name⟩
  | none => .error (.missingNamespace g.name)

/-- The condition ledger, empty where there is no status. -/
def ledger (g : Goop) : Ledger := (g.status.map (·.conditions)).getD ∅

/-- The job with another ledger. -/
def withLedger (g : Goop) (l : Ledger) : Goop := { g with status := some ⟨l⟩ }

/-- The finalizers; an absent list holds none. -/
def finalizers (g : Goop) : List String := g.metadata.finalizers.getD []

/-- The job with another list of finalizers. -/
def withFinalizers (g : Goop) (tokens : List String) : Goop :=
  { g with metadata := { g.metadata with finalizers := some tokens } }

/-- Whether a token is among the finalizers. -/
def hasFinalizer (g : Goop) (token : String) : Bool := g.finalizers.contains token

/-- The job with a token after its finalizers, unless the token is among them. -/
def addFinalizer (g : Goop) (token : String) : Goop :=
  if g.hasFinalizer token then g else g.withFinalizers (g.finalizers ++ [token])

/-- The job without any occurrence of a token among its finalizers. -/
def removeFinalizer (g : Goop) (token : String) : Goop :=
  g.withFinalizers (g.finalizers.filter (· ≠ token))

/-- Whether deletion has been requested. -/
def isDeletionRequested (g : Goop) : Bool := g.metadata.deletionTimestamp.isSome

@[simp] theorem ledger_withLedger (g : Goop) (l : Ledger) : (g.withLedger l).ledger = l := rfl

@[simp] theorem finalizers_withFinalizers (g : Goop) (tokens : List String) :
    (g.withFinalizers tokens).finalizers = tokens := rfl

@[simp] theorem finalizers_removeFinalizer (g : Goop) (token : String) :
    (g.removeFinalizer token).finalizers = g.finalizers.filter (· ≠ token) := rfl

/-- Adding a token leaves it among the finalizers. -/
theorem hasFinalizer_addFinalizer (g : Goop) (token : String) :
    (g.addFinalizer token).hasFinalizer token = true := by
  unfold addFinalizer
  split
  · assumption
  · simp [hasFinalizer]

/-- Writes a job. -/
def toJson (g : Goop) : Json :=
  .obj ([("apiVersion", .str apiVersion), ("kind", .str kind), ("metadata", g.metadata.toJson),
    ("spec", g.spec.toJson)] ++ Json.memberIfSome "status" GoopStatus.toJson g.status)

/-- Reads a job. Its API version and kind are not looked at. -/
def ofJson? (v : Json) : Option Goop := do
  match ← Json.slots? ["metadata", "spec", "status"] v with
  | [metadata, spec, status] =>
    return {
      metadata := ← metadata.required? ObjectMeta.ofJson?
      spec := ← spec.required? GoopSpec.ofJson?
      status := ← status.optional? GoopStatus.ofJson? }
  | _ => none

end Goop

end GoopOperator
