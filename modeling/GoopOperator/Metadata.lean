import GoopOperator.Json.Record
import GoopOperator.Time.Timestamp

/-!
# Object metadata

What the cluster keeps about every object beside its contents: identity, version, labels, owners,
finalizers and the request for deletion. Absent fields are left out where metadata is written; empty
lists and maps are kept.
-/

namespace GoopOperator

/-- A list of strings. -/
def Json.texts? : Json → Option (List String) := list? text?

/-- Writes a map of strings. -/
def StringMap.toJson (m : StringMap String) : Json :=
  .obj (m.entries.map fun e => (e.1, .str e.2))

/-- Reads a map of strings; the last value of a key counts. -/
def StringMap.ofJson? (v : Json) : Option (StringMap String) := do
  let entries ← (← Json.members? v).mapM fun m => (Json.text? m.2).map fun s => (m.1, s)
  return StringMap.ofList entries

/-- Writes a time stamp. -/
def Timestamp.toJson (t : Timestamp) : Json := .str t.toText

/-- Reads a time stamp. -/
def Timestamp.ofJson? (v : Json) : Option Timestamp := Json.text? v >>= ofText?

/-- The reference of an object to an owner, with which it goes away. -/
structure OwnerReference where
  /-- The API version of the owner. -/
  apiVersion : String
  /-- The kind of the owner. -/
  kind : String
  /-- The name of the owner. -/
  name : String
  /-- The unique id of the owner. -/
  uid : String
  /-- Whether the owner is the managing controller. -/
  controller : Option Bool
  /-- Whether the owner waits for this object when it is deleted. -/
  blockOwnerDeletion : Option Bool
  deriving DecidableEq

namespace OwnerReference

/-- Writes an owner reference. -/
def toJson (o : OwnerReference) : Json :=
  .obj ([("apiVersion", .str o.apiVersion)] ++
    Json.memberIfSome "blockOwnerDeletion" .bool o.blockOwnerDeletion ++
    Json.memberIfSome "controller" .bool o.controller ++
    [("kind", .str o.kind), ("name", .str o.name), ("uid", .str o.uid)])

/-- Reads an owner reference; a text that is absent is empty. -/
def ofJson? (v : Json) : Option OwnerReference := do
  let members ← Json.members? v
  let text (name : String) := (Json.lastMember? members name Json.text?).map (·.getD "")
  return {
    apiVersion := ← text "apiVersion"
    kind := ← text "kind"
    name := ← text "name"
    uid := ← text "uid"
    controller := ← Json.lastMember? members "controller" Json.bool?
    blockOwnerDeletion := ← Json.lastMember? members "blockOwnerDeletion" Json.bool? }

end OwnerReference

/-- Which writer owns which fields of an object. -/
structure ManagedFields where
  /-- The API version of the fields. -/
  apiVersion : Option String
  /-- The format of the field set. -/
  fieldsType : Option String
  /-- The field set. -/
  fields : Option Json
  /-- The writer. -/
  manager : Option String
  /-- The kind of write. -/
  operation : Option String
  /-- The part of the object that was written. -/
  subresource : Option String
  /-- When it was written. -/
  time : Option Timestamp
  deriving DecidableEq

namespace ManagedFields

/-- Writes an entry. -/
def toJson (m : ManagedFields) : Json :=
  .obj (Json.memberIfSome "apiVersion" .str m.apiVersion ++
    Json.memberIfSome "fieldsType" .str m.fieldsType ++
    Json.memberIfSome "fieldsV1" id m.fields ++
    Json.memberIfSome "manager" .str m.manager ++
    Json.memberIfSome "operation" .str m.operation ++
    Json.memberIfSome "subresource" .str m.subresource ++
    Json.memberIfSome "time" Timestamp.toJson m.time)

mutual

/-- Whether every string and name in a value is a text. -/
def isReadable : Json → Bool
  | .unreadable => false
  | .arr items => areReadable items
  | .obj members => haveReadable members
  | _ => true

/-- Whether every string and name in some items is a text. -/
def areReadable : List Json → Bool
  | [] => true
  | v :: rest => isReadable v && areReadable rest

/-- Whether every string and name in some members is a text. -/
def haveReadable : List (String × Json) → Bool
  | [] => true
  | (_, v) :: rest => isReadable v && haveReadable rest

end

/-- Reads a field set: any value, made canonical. -/
def fieldSet? (v : Json) : Option Json :=
  if isReadable v then some v.canonical else none

/-- Reads an entry. -/
def ofJson? (v : Json) : Option ManagedFields := do
  let members ← Json.members? v
  let text (name : String) := Json.lastMember? members name Json.text?
  return {
    apiVersion := ← text "apiVersion"
    fieldsType := ← text "fieldsType"
    fields := ← Json.lastMember? members "fieldsV1" fieldSet?
    manager := ← text "manager"
    operation := ← text "operation"
    subresource := ← text "subresource"
    time := ← Json.lastMember? members "time" Timestamp.ofJson? }

end ManagedFields

/-- What the cluster keeps about an object. -/
structure ObjectMeta where
  /-- Free-form notes. -/
  annotations : Option (StringMap String)
  /-- When the object was created. -/
  creationTimestamp : Option Timestamp
  /-- The time that a deletion leaves the object to finish. -/
  deletionGracePeriodSeconds : Option Int64
  /-- When deletion was requested. -/
  deletionTimestamp : Option Timestamp
  /-- The tokens that hold the object after deletion is requested. -/
  finalizers : Option (List String)
  /-- The beginning of a generated name. -/
  generateName : Option String
  /-- The number of the desired state. -/
  generation : Option Int64
  /-- Labels, by which objects are selected. -/
  labels : Option (StringMap String)
  /-- Which writer owns which fields. -/
  managedFields : Option (List ManagedFields)
  /-- The name. -/
  name : Option String
  /-- The namespace. -/
  ns : Option String
  /-- The owners. -/
  ownerReferences : Option (List OwnerReference)
  /-- The version, which every write changes. -/
  resourceVersion : Option String
  /-- A path to the object. -/
  selfLink : Option String
  /-- The unique id. -/
  uid : Option String
  deriving DecidableEq

namespace ObjectMeta

/-- Metadata without any field. -/
def empty : ObjectMeta where
  annotations := none
  creationTimestamp := none
  deletionGracePeriodSeconds := none
  deletionTimestamp := none
  finalizers := none
  generateName := none
  generation := none
  labels := none
  managedFields := none
  name := none
  ns := none
  ownerReferences := none
  resourceVersion := none
  selfLink := none
  uid := none

instance : EmptyCollection ObjectMeta := ⟨empty⟩

/-- Writes metadata. -/
def toJson (m : ObjectMeta) : Json :=
  let int (n : Int64) : Json := .int n.toInt
  .obj (Json.memberIfSome "annotations" StringMap.toJson m.annotations ++
    Json.memberIfSome "creationTimestamp" Timestamp.toJson m.creationTimestamp ++
    Json.memberIfSome "deletionGracePeriodSeconds" int m.deletionGracePeriodSeconds ++
    Json.memberIfSome "deletionTimestamp" Timestamp.toJson m.deletionTimestamp ++
    Json.memberIfSome "finalizers" Json.texts m.finalizers ++
    Json.memberIfSome "generateName" .str m.generateName ++
    Json.memberIfSome "generation" int m.generation ++
    Json.memberIfSome "labels" StringMap.toJson m.labels ++
    Json.memberIfSome "managedFields" (fun es => .arr (es.map ManagedFields.toJson))
      m.managedFields ++
    Json.memberIfSome "name" .str m.name ++
    Json.memberIfSome "namespace" .str m.ns ++
    Json.memberIfSome "ownerReferences" (fun os => .arr (os.map OwnerReference.toJson))
      m.ownerReferences ++
    Json.memberIfSome "resourceVersion" .str m.resourceVersion ++
    Json.memberIfSome "selfLink" .str m.selfLink ++
    Json.memberIfSome "uid" .str m.uid)

/-- Reads metadata. -/
def ofJson? (v : Json) : Option ObjectMeta := do
  let members ← Json.members? v
  let field {α : Type} (name : String) (read? : Json → Option α) :=
    Json.lastMember? members name read?
  return {
    annotations := ← field "annotations" StringMap.ofJson?
    creationTimestamp := ← field "creationTimestamp" Timestamp.ofJson?
    deletionGracePeriodSeconds := ← field "deletionGracePeriodSeconds" Json.int64?
    deletionTimestamp := ← field "deletionTimestamp" Timestamp.ofJson?
    finalizers := ← field "finalizers" Json.texts?
    generateName := ← field "generateName" Json.text?
    generation := ← field "generation" Json.int64?
    labels := ← field "labels" StringMap.ofJson?
    managedFields := ← field "managedFields" (Json.list? ManagedFields.ofJson?)
    name := ← field "name" Json.text?
    ns := ← field "namespace" Json.text?
    ownerReferences := ← field "ownerReferences" (Json.list? OwnerReference.ofJson?)
    resourceVersion := ← field "resourceVersion" Json.text?
    selfLink := ← field "selfLink" Json.text?
    uid := ← field "uid" Json.text? }

end ObjectMeta

end GoopOperator
