import GoopOperator.Workload

/-!
# The DaemonSet of a workload

A workload runs as a DaemonSet. The job is the init container of its pods, so that it runs once on
every node, and a pause container keeps the pod in place afterwards. Both containers run without
privileges.
-/

namespace GoopOperator

/-- The image of the pause container unless told otherwise. -/
def defaultPauseImage : String := "registry.k8s.io/pause:3.9"

/-- A container of the pods. -/
structure Container where
  /-- The name. -/
  name : String
  /-- The image. -/
  image : String
  /-- The command; none for the image's own. -/
  command : Option (List String)
  /-- The greatest share of a processor that it may take. -/
  cpuLimit : String

/-- A DaemonSet as the operator creates it. -/
structure DaemonSet where
  /-- The object's metadata. -/
  metadata : ObjectMeta
  /-- The labels that a pod has to carry to belong to it. -/
  selector : StringMap String
  /-- The labels of its pods. -/
  podLabels : StringMap String
  /-- The containers of its pods that run to their end, one after the other. -/
  initContainers : List Container
  /-- The containers of its pods that run afterwards. -/
  containers : List Container

namespace Container

/-- Writes a container: its resources are bounded, and it has no privileges. -/
def toJson (c : Container) : Json :=
  .obj (Json.memberIfSome "command" Json.texts c.command ++ [
    ("image", .str c.image),
    ("imagePullPolicy", .str "IfNotPresent"),
    ("name", .str c.name),
    ("resources", .obj [
      ("limits", .obj [("cpu", .str c.cpuLimit), ("memory", .str "128Mi")]),
      ("requests", .obj [("cpu", .str "10m"), ("memory", .str "64Mi")])]),
    ("securityContext", .obj [
      ("allowPrivilegeEscalation", .bool false),
      ("capabilities", .obj [("drop", Json.texts ["ALL"])]),
      ("runAsNonRoot", .bool true),
      ("runAsUser", .int 1001)])])

end Container

namespace DaemonSet

/-- The API version of the resource. -/
def apiVersion : String := "apps/v1"

/-- The kind of the resource. -/
def kind : String := "DaemonSet"

/-- The DaemonSet that runs a workload. -/
def ofWorkload (d : WorkloadSpec) (pauseImage : String) : DaemonSet where
  metadata := { ObjectMeta.empty with
    name := some d.key.name
    ns := some d.key.ns
    labels := some d.labels
    ownerReferences := d.owner.map fun o => [o] }
  selector := d.labels
  podLabels := d.labels
  initContainers := [⟨"goop-job", d.image, some d.command, "100m"⟩]
  containers := [⟨"pause", pauseImage, none, "50m"⟩]

/-- Writes a DaemonSet. Its pods are replaced only when someone deletes them. -/
def toJson (d : DaemonSet) : Json :=
  .obj [
    ("apiVersion", .str apiVersion),
    ("kind", .str kind),
    ("metadata", d.metadata.toJson),
    ("spec", .obj [
      ("selector", .obj [("matchLabels", d.selector.toJson)]),
      ("template", .obj [
        ("metadata", .obj [("labels", d.podLabels.toJson)]),
        ("spec", .obj [
          ("containers", .arr (d.containers.map Container.toJson)),
          ("initContainers", .arr (d.initContainers.map Container.toJson)),
          ("securityContext", .obj [
            ("runAsNonRoot", .bool true),
            ("seccompProfile", .obj [("type", .str "RuntimeDefault")])])])]),
      ("updateStrategy", .obj [("type", .str "OnDelete")])])]

end DaemonSet

end GoopOperator
