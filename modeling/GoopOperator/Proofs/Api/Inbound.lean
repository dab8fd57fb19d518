import GoopOperator.DaemonSet.Observed
import GoopOperator.Proofs.Api.Target
import GoopOperator.Proofs.Json.Resources
import GoopOperator.Proofs.Store.Received

/-!
# Requests as a server reads them

What a request asks for is read off the request alone (`Request.call?`): the method says what is to be
done, the path of the target names the object that it is done with, and the body is the object as it is
to be. A workload is read off the DaemonSet that is to run it (`WorkloadSpec.ofManifest?`).

The request of a call about an object with a valid key is read as the call, but for what a request does
not say (`call?_ofCall`).
-/

namespace GoopOperator

/-! ## Manifests -/

/-- The value in an object at the end of a path of names. -/
def Json.at? (path : List String) (v : Json) : Option Json :=
  path.foldlM (fun v name => (members? v).bind (·.lookup name)) v

/-- Reads the image and the command of the only container in a list. -/
def Container.ofOnly? : Json → Option (String × List String)
  | .arr [job] => do return (← job.at? ["image"] >>= Json.text?, ← job.at? ["command"] >>= Json.texts?)
  | _ => none

/-- The only owner of an object, if it has no more than one. -/
def OwnerReference.only? : Option (List OwnerReference) → Option (Option OwnerReference)
  | none => some none
  | some [owner] => some (some owner)
  | some _ => none

/-- Reads what a DaemonSet is to run. Its pods run one container to its end, and are found by the labels
of the DaemonSet. -/
def WorkloadSpec.ofManifest? (v : Json) : Option WorkloadSpec := do
  guard (v.at? ["apiVersion"] = some (.str "apps/v1") ∧ v.at? ["kind"] = some (.str "DaemonSet"))
  let metadata ← v.at? ["metadata"] >>= ObjectMeta.ofJson?
  let selector ← v.at? ["spec", "selector", "matchLabels"] >>= StringMap.ofJson?
  let podLabels ← v.at? ["spec", "template", "metadata", "labels"] >>= StringMap.ofJson?
  guard (metadata.labels = some selector ∧ podLabels = selector)
  let (image, command) ← v.at? ["spec", "template", "spec", "initContainers"] >>= Container.ofOnly?
  return {
    key := ⟨← metadata.ns, ← metadata.name⟩
    labels := selector
    image
    command
    jobCount := none
    owner := ← OwnerReference.only? metadata.ownerReferences }

/-- A container has a text. -/
theorem Container.isLegible_toJson (c : Container) : Json.isLegible c.toJson = true := by
  obtain ⟨name, image, command, cpuLimit⟩ := c
  cases command with
  | none => rfl
  | some words =>
    have hwords := (Json.yields_texts words).legible
    simp [toJson, Json.memberIfSome, Json.isLegible, Json.haveLegible, hwords]
    rfl

/-- The only container of a list is read off it. -/
theorem Container.ofOnly?_toJson {c : Container} {words : List String} (h : c.command = some words) :
    ofOnly? (.arr [c.toJson]) = some (c.image, words) := by
  obtain ⟨name, image, command, cpuLimit⟩ := c
  obtain rfl := h
  exact Json.bind_of_eq rfl (Json.bind_of_eq (Json.yields_texts words).read rfl)

namespace DaemonSet

/-- A DaemonSet has a text, if its metadata has one. -/
theorem isLegible_toJson {d : DaemonSet} (h : Json.isLegible d.metadata.toJson = true) :
    Json.isLegible d.toJson = true := by
  have hcontainers (cs : List Container) : Json.areLegible (cs.map Container.toJson) = true := by
    refine Json.areLegible_iff.mpr fun v hv => ?_
    obtain ⟨c, -, rfl⟩ := List.mem_map.mp hv
    exact c.isLegible_toJson
  simp [toJson, Json.isLegible, Json.haveLegible, h, hcontainers, (StringMap.yields _).legible]

/-- The metadata of the DaemonSet of a workload. -/
theorem metadata_yields (d : WorkloadSpec) (pauseImage : String) :
    Json.Yields (ofWorkload d pauseImage).metadata.toJson ObjectMeta.ofJson?
      (ofWorkload d pauseImage).metadata := by
  have hproper : (ofWorkload d pauseImage).metadata.IsProper := fun _ h => nomatch h
  have hsettled : (ofWorkload d pauseImage).metadata.settled = (ofWorkload d pauseImage).metadata :=
    ObjectMeta.settled_of_unmanaged ⟨rfl, rfl⟩ rfl
  have hyields := ObjectMeta.yields hproper
  rw [hsettled] at hyields
  exact hyields

/-- A workload is read off the DaemonSet that runs it, but for the expected number of runs. -/
theorem yields (d : WorkloadSpec) (pauseImage : String) :
    Json.Yields (ofWorkload d pauseImage).toJson WorkloadSpec.ofManifest? d.uncounted := by
  have hmetadata := metadata_yields d pauseImage
  refine ⟨?_, isLegible_toJson hmetadata.legible, Json.noConfusion⟩
  -- where the parts of a workload stand in the DaemonSet
  have hversion : (ofWorkload d pauseImage).toJson.at? ["apiVersion"] = some (.str "apps/v1") := rfl
  have hkind : (ofWorkload d pauseImage).toJson.at? ["kind"] = some (.str "DaemonSet") := rfl
  have hhead : (ofWorkload d pauseImage).toJson.at? ["metadata"] =
      some (ofWorkload d pauseImage).metadata.toJson := rfl
  have hselector : (ofWorkload d pauseImage).toJson.at? ["spec", "selector", "matchLabels"] =
      some d.labels.toJson := rfl
  have hpods : (ofWorkload d pauseImage).toJson.at? ["spec", "template", "metadata", "labels"] =
      some d.labels.toJson := rfl
  have hjob : ((ofWorkload d pauseImage).toJson.at? ["spec", "template", "spec", "initContainers"] >>=
      Container.ofOnly?) = some (d.image, d.command) :=
    Json.bind_of_eq rfl (Container.ofOnly?_toJson rfl)
  have howner : OwnerReference.only? (ofWorkload d pauseImage).metadata.ownerReferences =
      some d.owner := by
    cases hd : d.owner <;> simp [ofWorkload, hd, OwnerReference.only?]
  have hname : (ofWorkload d pauseImage).metadata.name = some d.key.name := rfl
  have hns : (ofWorkload d pauseImage).metadata.ns = some d.key.ns := rfl
  have hlabels : (ofWorkload d pauseImage).metadata.labels = some d.labels := rfl
  unfold WorkloadSpec.ofManifest? guard
  simp [hversion, hkind, hhead, hmetadata.read, hselector, hpods,
    d.labels.yields.read, hlabels, hjob, hns, hname, howner, WorkloadSpec.uncounted]

/-- A DaemonSet that has just been created is read as one without a status. -/
theorem observed (d : WorkloadSpec) (pauseImage : String) :
    ObservedDaemonSet.ofJson? (ofWorkload d pauseImage).toJson =
      some ⟨(ofWorkload d pauseImage).metadata, none⟩ := by
  obtain ⟨spec, hwrite⟩ : ∃ spec, Json.members? (ofWorkload d pauseImage).toJson =
      some [("apiVersion", .str apiVersion), ("kind", .str kind),
        ("metadata", (ofWorkload d pauseImage).metadata.toJson), ("spec", .obj spec)] := ⟨_, rfl⟩
  -- the members as a list of four, so that each is found by its name alone
  generalize hmembers : [("apiVersion", Json.str apiVersion), ("kind", .str kind),
    ("metadata", (ofWorkload d pauseImage).metadata.toJson), ("spec", .obj spec)] = members at hwrite
  have hnames : (members.map Prod.fst).Nodup := by simp [← hmembers]
  have hspec : Json.lastMember? members "spec" Json.members? = some (some spec) := by
    rw [Json.lastMember?_of_nodup hnames, ← hmembers]
    rfl
  have hmetadata : Json.lastMember? members "metadata" ObjectMeta.ofJson? =
      some (some (ofWorkload d pauseImage).metadata) := by
    have hnullable := (metadata_yields d pauseImage).nullable
    rw [Json.lastMember?_of_nodup hnames, ← hmembers]
    simp [List.lookup_cons, hnullable]
  have hstatus : Json.lastMember? members "status" DaemonSetStatus.ofJson? = some none := by
    rw [Json.lastMember?_of_nodup hnames, ← hmembers]
    rfl
  have hkinds : (members.all fun m => (m.1 ≠ "apiVersion" || m.2 = .str apiVersion) &&
      (m.1 ≠ "kind" || m.2 = .str kind)) = true := by simp [← hmembers]
  unfold ObservedDaemonSet.ofJson?
  exact Json.bind_of_eq hwrite (Json.bind_of_eq (if_pos hkinds) (Json.bind_of_eq hspec
    (Json.bind_of_eq hmetadata (Json.bind_of_eq hstatus rfl))))

end DaemonSet

namespace Api

/-! ## Targets -/

/-- The parts of the path of a target, the empty one before its first slash included. A target with a
query that asks for something has none. -/
def parts? (target : String) : Option (List String) :=
  match Text.pieces (· == '?') target.toList with
  | [path] | [path, []] => some ((Text.pieces (· == '/') path).map String.ofList)
  | _ => none

/-- What a target names: the objects of a kind in a namespace, and a way on from there. -/
structure Place where
  /-- The kind. -/
  kind : ObjectKind
  /-- The namespace. -/
  ns : String
  /-- The name of one of the objects, and what belongs to it. -/
  below : List String

/-- Reads what a target names. -/
def Place.of? (target : String) : Option Place :=
  match parts? target with
  | some ("" :: "apis" :: group :: version :: "namespaces" :: ns :: plural :: below) =>
    if (group, version, plural) = ("goop.example.com", "v1alpha1", "goops") then
      some ⟨.goop, ns, below⟩
    else if (group, version, plural) = ("apps", "v1", "daemonsets") then some ⟨.daemonSet, ns, below⟩
    else none
  | _ => none

/-- A part of a path: neither a slash nor a question mark stands in it. -/
def IsPart (text : String) : Prop := '/' ∉ text.toList ∧ '?' ∉ text.toList

instance (text : String) : Decidable (IsPart text) := inferInstanceAs (Decidable (_ ∧ _))

/-- A path is read part by part, with an empty query or none. -/
theorem parts?_join {target : String} {parts : List String} {query : List Char} (hne : parts ≠ [])
    (hparts : ∀ s ∈ parts, IsPart s) (hquery : query = [] ∨ query = ['?'])
    (h : target.toList = ['/'].intercalate (parts.map String.toList) ++ query) :
    parts? target = some parts := by
  have hpieces : Text.pieces (· == '/') (['/'].intercalate (parts.map String.toList)) =
      parts.map String.toList := by
    refine Text.pieces_intercalate (by simpa using hne) fun p hp => ?_
    obtain ⟨s, hs, rfl⟩ := List.mem_map.mp hp
    exact (hparts s hs).1
  have hmark : ∀ c ∈ ['/'].intercalate (parts.map String.toList), (c == '?') = false := by
    intro c hc
    rcases Text.sep_or_mem_pieces (· == '/') hc with hslash | ⟨p, hp, hcp⟩
    · obtain rfl := eq_of_beq hslash
      rfl
    · rw [hpieces] at hp
      obtain ⟨s, hs, rfl⟩ := List.mem_map.mp hp
      exact beq_false_of_ne fun hmark => (hparts s hs).2 (hmark ▸ hcp)
  have hback : (parts.map String.toList).map String.ofList = parts := by
    simp [List.map_map, Function.comp_def]
  unfold parts?
  rw [h]
  rcases hquery with rfl | rfl
  · rw [List.append_nil, Text.pieces_eq_singleton hmark]
    simp only [hpieces, hback]
  · rw [Text.pieces_append_cons (by rfl), Text.pieces_eq_singleton hmark]
    simp only [Text.pieces, List.singleton_append, hpieces, hback]

/-- The parts of the path of what a target names. -/
def Place.parts (p : Place) : List String :=
  match p.kind with
  | .goop => "" :: "apis" :: "goop.example.com" :: "v1alpha1" :: "namespaces" :: p.ns :: "goops" :: p.below
  | .daemonSet => "" :: "apis" :: "apps" :: "v1" :: "namespaces" :: p.ns :: "daemonsets" :: p.below

/-- What a target names is read from it. -/
theorem Place.of?_parts {p : Place} {target : String} {query : List Char} (hns : IsPart p.ns)
    (hbelow : ∀ s ∈ p.below, IsPart s) (hquery : query = [] ∨ query = ['?'])
    (h : target.toList = ['/'].intercalate (p.parts.map String.toList) ++ query) :
    Place.of? target = some p := by
  obtain ⟨kind, ns, below⟩ := p
  have hparts : ∀ s ∈ (Place.mk kind ns below).parts, IsPart s := by
    cases kind <;>
    · simp only [parts, List.forall_mem_cons]
      exact ⟨by decide, by decide, by decide, by decide, by decide, hns, by decide, hbelow⟩
  have hread := parts?_join (by cases kind <;> simp [Place.parts]) hparts hquery h
  unfold Place.of?
  rw [hread]
  cases kind <;> simp [Place.parts]

/-- A label may be a part of a path. -/
theorem isPart_of_isLabel {cs : List Char} (h : ObjectKey.isLabel cs = true) : '/' ∉ cs ∧ '?' ∉ cs := by
  unfold ObjectKey.isLabel at h
  rw [Bool.and_eq_true, Bool.and_eq_true, List.all_eq_true] at h
  exact ⟨fun hc => absurd (h.1.1 _ hc) (by decide), fun hc => absurd (h.1.1 _ hc) (by decide)⟩

/-- So may the namespace and the name of a valid key. -/
theorem isPart_of_isValid {key : ObjectKey} (hkey : key.isValid = true) :
    IsPart key.ns ∧ IsPart key.name := by
  simp only [ObjectKey.isValid, Bool.and_eq_true, List.all_eq_true, decide_eq_true_eq] at hkey
  have hname {c : Char} (hdot : c ≠ '.') (hlabel : ∀ cs, ObjectKey.isLabel cs = true → c ∉ cs) :
      c ∉ key.name.toList := by
    intro hc
    rcases Text.sep_or_mem_pieces (· == '.') hc with hsep | ⟨p, hp, hcp⟩
    · exact hdot (eq_of_beq hsep)
    · exact hlabel p (hkey.1.2 p hp) hcp
  exact ⟨isPart_of_isLabel hkey.1.1.1, hname (by decide) fun _ h => (isPart_of_isLabel h).1,
    hname (by decide) fun _ h => (isPart_of_isLabel h).2⟩

section places

variable {key : ObjectKey}

/-- The target of an object names it. -/
theorem place_pathOf (hkey : key.isValid = true) (kind : ObjectKind) :
    Place.of? (pathOf kind key) = some ⟨kind, key.ns, [key.name]⟩ ∧
      Place.of? (pathOf kind key ++ "?") = some ⟨kind, key.ns, [key.name]⟩ := by
  obtain ⟨hns, hname⟩ := isPart_of_isValid hkey
  have hpath : (pathOf kind key).toList =
      ['/'].intercalate ((Place.mk kind key.ns [key.name]).parts.map String.toList) := by
    cases kind <;>
      simp [pathOf, goopsPath, daemonSetsPath, Goop.apiVersion, DaemonSet.apiVersion, Place.parts,
        List.intercalate]
  have hbelow : ∀ s ∈ [key.name], IsPart s := by simpa using hname
  constructor
  · exact Place.of?_parts hns hbelow (.inl rfl) (by rw [hpath, List.append_nil])
  · exact Place.of?_parts hns hbelow (.inr rfl) (by rw [String.toList_append, hpath]; rfl)

/-- The target of the status of a job names it. -/
theorem place_status (hkey : key.isValid = true) :
    Place.of? (pathOf .goop key ++ "/status?") = some ⟨.goop, key.ns, [key.name, "status"]⟩ := by
  obtain ⟨hns, hname⟩ := isPart_of_isValid hkey
  have hbelow : ∀ s ∈ [key.name, "status"], IsPart s :=
    List.forall_mem_cons.mpr ⟨hname, List.forall_mem_singleton.mpr (by decide)⟩
  refine Place.of?_parts hns hbelow (.inr rfl) ?_
  simp [pathOf, goopsPath, Goop.apiVersion, Place.parts, List.intercalate]

/-- The target of the DaemonSets of a namespace names them all. -/
theorem place_daemonSetsPath (hkey : key.isValid = true) :
    Place.of? (daemonSetsPath (some key.ns) ++ "?") = some ⟨.daemonSet, key.ns, []⟩ := by
  refine Place.of?_parts (isPart_of_isValid hkey).1 (by simp) (.inr rfl) ?_
  simp [daemonSetsPath, DaemonSet.apiVersion, Place.parts, List.intercalate]

end places

/-! ## Requests -/

namespace Request

/-- Reads the object that a request writes from its text. -/
def object? (q : Request) (read? : Json → Option α) : Option α :=
  q.body.bind fun v => (Json.parse? v.compact).bind read?

/-- Reads the job that a request writes, if it has the key that the target names. -/
def job? (q : Request) (key : ObjectKey) : Option Goop :=
  (q.object? Goop.ofJson?).filter (·.key.toOption = some key)

/-- Reads the workload that a request creates, if it belongs to the namespace that the target names. -/
def workload? (q : Request) (ns : String) : Option WorkloadSpec :=
  (q.object? WorkloadSpec.ofManifest?).filter (·.key.ns = ns)

/-- Reads what a request asks for. -/
def call? (q : Request) : Option StoreCall := do
  let place ← Place.of? q.target
  match q.method, place.kind, place.below with
  | .get, .goop, [name] => return .get ⟨place.ns, name⟩
  | .put, .goop, [name] => (q.job? ⟨place.ns, name⟩).map .update
  | .put, .goop, [name, "status"] => (q.job? ⟨place.ns, name⟩).map .updateStatus
  | .get, .daemonSet, [name] => return .getWorkload ⟨place.ns, name⟩
  | .post, .daemonSet, [] => (q.workload? place.ns).map .createWorkload
  | _, _, _ => none

end Request

/-- The job that a call writes. -/
def writtenJob? : StoreCall → Option Goop
  | .update g | .updateStatus g => some g
  | _ => none

/-- A call that writes a job is about the object of the job's key. -/
theorem key_of_written {c : StoreCall} {g : Goop} (h : writtenJob? c = some g) :
    g.key = (objectOf c).map Prod.snd := by
  have hsame : objectOf c = g.key.map fun key => (.goop, key) := by
    cases c with
    | update g' | updateStatus g' =>
      obtain rfl := Option.some.inj h
      rfl
    | _ => cases h
  rw [hsame]
  cases g.key <;> rfl

section read

variable {q : Request} {key : ObjectKey}

/-- A job is read from a request that writes it. -/
theorem Request.job?_of_body {g : Goop} (hproper : g.metadata.IsProper) (hkey : g.key = .ok key)
    (hbody : q.body = some g.toJson) : q.job? key = some g.settled := by
  have hobject : q.object? Goop.ofJson? = some g.settled := by
    unfold object?
    rw [hbody, Option.bind_some]
    exact (Goop.yields hproper).parse
  have hsettled : g.settled.key = .ok key := hkey
  unfold job?
  rw [hobject]
  simp [hsettled, Except.toOption]

/-- A workload is read from a request that creates its DaemonSet. -/
theorem Request.workload?_of_body {d : WorkloadSpec} {pauseImage : String}
    (hbody : q.body = some (DaemonSet.ofWorkload d pauseImage).toJson) :
    q.workload? d.key.ns = some d.uncounted := by
  have hobject : q.object? WorkloadSpec.ofManifest? = some d.uncounted := by
    unfold object?
    rw [hbody, Option.bind_some]
    exact (DaemonSet.yields d pauseImage).parse
  unfold workload?
  rw [hobject]
  simp [WorkloadSpec.uncounted]

/-- The request of a call about an object with a valid key is read as the call, if the job that it writes
has JSON values as field sets. -/
theorem call?_ofCall {c : StoreCall} {kind : ObjectKind} (hobject : objectOf c = .ok (kind, key))
    (hkey : key.isValid = true) (hproper : ∀ g, writtenJob? c = some g → g.metadata.IsProper)
    (pauseImage : String) : (Request.ofCall pauseImage key c).call? = some c.received := by
  have hwritten {g : Goop} (h : writtenJob? c = some g) : g.key = .ok key := by
    rw [key_of_written h, hobject]
    rfl
  unfold Request.call?
  -- a target names the object, and the body of a write has the key that the target names
  cases c with
  | get k =>
    obtain ⟨-, rfl⟩ := Prod.mk.inj (Except.ok.inj hobject)
    exact Json.bind_of_eq (place_pathOf hkey .goop).1 rfl
  | update g =>
    have hjob := Request.job?_of_body (q := Request.ofCall pauseImage key (.update g))
      (hproper g rfl) (hwritten rfl) rfl
    exact Json.bind_of_eq (place_pathOf hkey .goop).2 (congrArg (Option.map StoreCall.update) hjob)
  | updateStatus g =>
    have hjob := Request.job?_of_body (q := Request.ofCall pauseImage key (.updateStatus g))
      (hproper g rfl) (hwritten rfl) rfl
    exact Json.bind_of_eq (place_status hkey) (congrArg (Option.map StoreCall.updateStatus) hjob)
  | getWorkload k =>
    obtain ⟨-, rfl⟩ := Prod.mk.inj (Except.ok.inj hobject)
    exact Json.bind_of_eq (place_pathOf hkey .daemonSet).1 rfl
  | createWorkload d =>
    obtain ⟨-, rfl⟩ := Prod.mk.inj (Except.ok.inj hobject)
    have hspec := Request.workload?_of_body
      (q := Request.ofCall pauseImage d.key (.createWorkload d)) rfl
    exact Json.bind_of_eq (place_daemonSetsPath hkey)
      (congrArg (Option.map StoreCall.createWorkload) hspec)

end read

end Api

end GoopOperator
