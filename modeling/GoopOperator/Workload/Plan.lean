import GoopOperator.Image
import GoopOperator.Pass.Error
import GoopOperator.Settings

/-!
# The workload that a job asks for

`WorkloadSpec.plan` decides what to run for a job: its own image and command, or those of the
settings, under the recommended labels, owned by the job.
-/

namespace GoopOperator

/-- The labels that a workload, its selector and its pods share. The version is the tag of the image,
if that has one. -/
def recommendedLabels (name image : String) : StringMap String :=
  let labels := StringMap.ofList [
    ("app.kubernetes.io/name", "Goop"),
    ("app.kubernetes.io/instance", name),
    ("app.kubernetes.io/part-of", "goop-operator"),
    ("app.kubernetes.io/created-by", "controller-manager")]
  match Image.tag? image with
  | some tag => labels.insert "app.kubernetes.io/version" tag
  | none => labels

/-- The reference to a job as the controlling owner of another object, if the job has the name and
the unique id that it takes. -/
def Goop.controllerReference? (g : Goop) : Option OwnerReference := do
  return {
    apiVersion
    kind
    name := ← g.metadata.name
    uid := ← g.metadata.uid
    controller := some true
    blockOwnerDeletion := none }

/-- What to run for a job. The first failure of the key, the image and the owner counts. -/
def WorkloadSpec.plan (g : Goop) (settings : Settings) :
    Except PassError WorkloadSpec := do
  let key ← g.key.mapError .ofKeyError
  let image ← match (g.spec.image >>= Settings.nonempty?) <|> settings.image with
    | some image => .ok image
    | none => .error (.settings "no job image: set spec.image or GOOP_IMAGE")
  let owner ← match g.controllerReference? with
    | some owner => .ok owner
    | none =>
      .error (.precondition ("goop " ++ key.toText ++ " has no uid; cannot own a workload"))
  return {
    key
    labels := recommendedLabels key.name image
    image
    command := if g.spec.command = [] then settings.jobCommand else g.spec.command
    jobCount := g.spec.jobCount
    owner := some owner }

end GoopOperator
