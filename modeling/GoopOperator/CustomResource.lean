import GoopOperator.Goop
import GoopOperator.Yaml

/-!
# The definition of the `Goop` resource

What has to be told a cluster before it accepts jobs: the names of the resource, the columns in which
jobs are listed, and the schema of their spec and status.
-/

namespace GoopOperator.CustomResource

/-- The API group of the resource. -/
def group : String := "goop.example.com"

/-- A schema of a type, with further members before the type. -/
def typed (type : String) (members : List (String × Json)) : Json :=
  .obj (members ++ [("type", .str type)])

/-- The member that describes a field. -/
def description (text : String) : String × Json := ("description", .str text)

/-- The member that allows a field to be null. -/
def nullable : String × Json := ("nullable", .bool true)

/-- The schema of a field that holds one of some names. -/
def enumeration (names : List String) (members : List (String × Json)) : Json :=
  typed "string" (members ++ [("enum", Json.texts names)])

/-- The schema of a spec. -/
def specSchema : Json :=
  typed "object" [
    description "Desired state of a distributed job.",
    ("properties", .obj [
      ("command", .obj [
        description
          "Command run by the job container; the operator default applies when empty.",
        ("items", typed "string" []),
        ("type", .str "array")]),
      ("foo", typed "string" [
        description "Free-form tag, carried for compatibility with early manifests.",
        nullable]),
      ("image", typed "string" [description "Job image override.", nullable]),
      ("job_count", typed "integer" [
        description ("Expected number of job runs; informational. " ++
          "Snake case on the wire, as existing manifests write it."),
        ("format", .str "int32"),
        nullable])])]

/-- The schema of a condition. -/
def conditionSchema : Json :=
  .obj [
    ("properties", .obj [
      ("lastTransitionTime", typed "string" [
        description "RFC3339 timestamp of the last status change.",
        nullable]),
      ("message", typed "string" [("default", .str "")]),
      ("reason", enumeration
        ([.initialized, .deployed, .completed, .finalized].map Reason.name)
        [description "Lifecycle state tag carried in `Condition::reason`."]),
      ("status", enumeration ([.yes, .no, .unknown].map ConditionStatus.name) []),
      ("type", enumeration ([.available, .degraded].map ConditionType.name) [])]),
    ("required", Json.texts ["reason", "status", "type"]),
    ("type", .str "object")]

/-- The schema of a status. -/
def statusSchema : Json :=
  typed "object" [
    nullable,
    ("properties", .obj [
      ("conditions", .obj [
        ("default", .arr []),
        ("items", conditionSchema),
        ("type", .str "array")])])]

/-- A column in which jobs are listed. -/
def column (name path type : String) : Json :=
  .obj [("jsonPath", .str path), ("name", .str name), ("type", .str type)]

/-- The definition of the resource. -/
def definition : Json :=
  .obj [
    ("apiVersion", .str "apiextensions.k8s.io/v1"),
    ("kind", .str "CustomResourceDefinition"),
    ("metadata", .obj [("name", .str ("goops." ++ group))]),
    ("spec", .obj [
      ("group", .str group),
      ("names", .obj [
        ("categories", .arr []),
        ("kind", .str Goop.kind),
        ("plural", .str "goops"),
        ("shortNames", Json.texts ["gp"]),
        ("singular", .str "goop")]),
      ("scope", .str "Namespaced"),
      ("versions", .arr [.obj [
        ("additionalPrinterColumns", .arr [
          column "State" ".status.conditions[-1:].reason" "string",
          column "Ready" ".status.conditions[-1:].status" "string",
          column "Age" ".metadata.creationTimestamp" "date"]),
        ("name", .str "v1alpha1"),
        ("schema", .obj [("openAPIV3Schema", .obj [
          description "Auto-generated derived type for GoopSpec via `CustomResource`",
          ("properties", .obj [("spec", specSchema), ("status", statusSchema)]),
          ("required", Json.texts ["spec"]),
          ("title", .str Goop.kind),
          ("type", .str "object")])]),
        ("served", .bool true),
        ("storage", .bool true),
        ("subresources", .obj [("status", .obj [])])]])])]

/-- The manifest of the definition. -/
def manifest : String := Yaml.text definition

end GoopOperator.CustomResource
