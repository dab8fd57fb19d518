import GoopOperator.Metadata
import GoopOperator.Proofs.Json.Records
import GoopOperator.Proofs.Time.Stamp

/-!
# Metadata is read back

Maps, stamps, owner references and object metadata are read back from what is written of them, every
combination of present and absent fields included (`ObjectMeta.yields`). Two things alone can change
(`ObjectMeta.settled`): a time is written as the second that it falls in, and a field set `null` of a
managed-fields entry stands for absence, and is read as such.
-/

namespace GoopOperator

open Json

/-! ## Maps -/

/-- An entry whose key comes after all others is put last. -/
theorem insertEntry_of_last {key : String} {entries : List (String × α)}
    (h : ∀ e ∈ entries, e.1 < key) (value : α) :
    insertEntry key value entries = entries ++ [(key, value)] := by
  induction entries with
  | nil => rfl
  | cons head rest ih =>
    obtain ⟨hhead, hrest⟩ := List.forall_mem_cons.1 h
    have hbefore : ¬ key < head.1 := String.lt_asymm hhead
    have hne : key ≠ head.1 := fun heq => String.lt_irrefl _ (heq ▸ hhead)
    rw [insertEntry, if_neg hbefore, if_neg hne, ih hrest]
    rfl

/-- A map is that of its entries. -/
theorem StringMap.ofList_entries (m : StringMap α) : ofList m.entries = m := by
  have hfold : ∀ (rest : List (String × α)) (done : StringMap α),
      Ascending (done.entries ++ rest) →
      (rest.foldl (fun m e => m.insert e.1 e.2) done).entries = done.entries ++ rest := by
    intro rest
    induction rest with
    | nil => exact fun done _ => (List.append_nil _).symm
    | cons e rest ih =>
      intro done h
      have hlast : ∀ d ∈ done.entries, d.1 < e.1 := fun d hd =>
        (List.pairwise_append.1 h).2.2 d hd e List.mem_cons_self
      have hput : (done.insert e.1 e.2).entries = done.entries ++ [e] :=
        insertEntry_of_last hlast e.2
      have hsplit : done.entries ++ e :: rest = (done.entries ++ [e]) ++ rest := by simp
      rw [List.foldl_cons, ih (done.insert e.1 e.2) (by rwa [hput, ← hsplit]), hput, ← hsplit]
  exact StringMap.ext (hfold m.entries empty m.ascending)

/-- A map of strings. -/
theorem StringMap.yields (m : StringMap String) : Yields m.toJson ofJson? m := by
  have hentries : (m.entries.map fun e => (e.1, Json.str e.2)).mapM
      (fun e => (text? e.2).map fun s => (e.1, s)) = some (m.entries.map fun e => e) :=
    mapM_map fun _ _ => rfl
  refine ⟨?_, haveLegible_iff.2 ?_, Json.noConfusion⟩
  · rw [List.map_id'] at hentries
    simp only [ofJson?, toJson, members?, Option.bind_eq_bind, Option.bind_some, hentries,
      ofList_entries]
    rfl
  · intro e he
    obtain ⟨d, -, rfl⟩ := List.mem_map.1 he
    rfl

/-! ## Stamps and owner references -/

/-- A time stamp, but for what has passed of its second. -/
theorem Timestamp.yields (t : Timestamp) : Yields t.toJson ofJson? t.whole := by
  refine ⟨?_, rfl, Json.noConfusion⟩
  show (some t.toText).bind ofText? = some t.whole
  rw [Option.bind_some, ofText?_toText]

namespace OwnerReference

/-- The fields of an owner reference. -/
def fields (o : OwnerReference) : List (String × Option Json) :=
  [("apiVersion", some (.str o.apiVersion)),
    ("blockOwnerDeletion", o.blockOwnerDeletion.map .bool), ("controller", o.controller.map .bool),
    ("kind", some (.str o.kind)), ("name", some (.str o.name)), ("uid", some (.str o.uid))]

/-- An owner reference. -/
theorem yields (o : OwnerReference) : Yields o.toJson ofJson? o := by
  have hwrite : o.toJson = .obj (present o.fields) := by
    simp only [toJson, fields, present_map, present_some, present_nil, List.append_assoc,
      List.cons_append, List.nil_append]
  have hnames : (o.fields.map Prod.fst).Nodup := by simp [fields]
  have htext := fun (name s : String) (h : o.fields.lookup name = some (some (.str s))) =>
    lastMember?_present hnames h (FieldYields.same yields_text (some s))
  have hbool := fun (name : String) (b? : Option Bool)
      (h : o.fields.lookup name = some (b?.map .bool)) =>
    lastMember?_present hnames h (FieldYields.same yields_bool b?)
  rw [hwrite]
  refine ⟨?_, ?_, Json.noConfusion⟩
  · simp only [ofJson?, members?, Option.bind_eq_bind, Option.bind_some,
      htext "apiVersion" _ rfl, htext "kind" _ rfl, htext "name" _ rfl, htext "uid" _ rfl,
      hbool "controller" _ rfl, hbool "blockOwnerDeletion" _ rfl, Option.map_some,
      Option.getD_some]
    rfl
  · rw [isLegible, haveLegible_present]
    simp [fields, isLegible, (FieldYields.same yields_bool _).legible]

end OwnerReference

/-! ## Managed fields -/

namespace ManagedFields

/-- The field set, if there is one, is a JSON value: it has a text, and the members of its objects are
in order. -/
def IsProper (m : ManagedFields) : Prop :=
  ∀ v ∈ m.fields, isLegible v = true ∧ v.canonical = v

/-- The entry as it is read back: a field set `null` stands for absence, and the time is that of a whole
second. -/
def settled (m : ManagedFields) : ManagedFields :=
  { m with fields := m.fields.filter (· ≠ .null), time := m.time.map .whole }

mutual

/-- What has a text can be read. -/
theorem isReadable_of_isLegible (v : Json) (h : isLegible v = true) : isReadable v = true := by
  match v with
  | .null | .bool _ | .int _ | .real _ | .str _ => rfl
  | .arr items => exact areReadable_of_areLegible items h
  | .obj members => exact haveReadable_of_haveLegible members h

/-- What has a text can be read, in an array. -/
theorem areReadable_of_areLegible (items : List Json) (h : areLegible items = true) :
    areReadable items = true := by
  match items with
  | [] => rfl
  | v :: rest =>
    rw [areLegible, Bool.and_eq_true] at h
    rw [areReadable, Bool.and_eq_true]
    exact ⟨isReadable_of_isLegible v h.1, areReadable_of_areLegible rest h.2⟩

/-- What has a text can be read, in an object. -/
theorem haveReadable_of_haveLegible (members : List (String × Json))
    (h : haveLegible members = true) : haveReadable members = true := by
  match members with
  | [] => rfl
  | (_, v) :: rest =>
    rw [haveLegible, Bool.and_eq_true] at h
    rw [haveReadable, Bool.and_eq_true]
    exact ⟨isReadable_of_isLegible v h.1, haveReadable_of_haveLegible rest h.2⟩

end

/-- A proper field set is read as it is, or as absent. -/
theorem fields_yields {m : ManagedFields} (h : m.IsProper) :
    FieldYields (m.fields.map id) fieldSet? m.settled.fields := by
  rw [Option.map_id, settled]
  cases hfields : m.fields with
  | none => exact ⟨rfl, rfl⟩
  | some v =>
    obtain ⟨hlegible, hcanonical⟩ := h v hfields
    have hread : fieldSet? v = some v := by
      rw [fieldSet?, if_pos (isReadable_of_isLegible v hlegible), hcanonical]
    refine ⟨?_, hlegible⟩
    by_cases hnull : v = .null
    · subst hnull
      rfl
    · have hsame : Option.filter (· ≠ Json.null) (some v) = some v := by simp [hnull]
      rw [hsame]
      exact Yields.nullable ⟨hread, hlegible, hnull⟩

/-- The fields of an entry. -/
def members (m : ManagedFields) : List (String × Option Json) :=
  [("apiVersion", m.apiVersion.map .str), ("fieldsType", m.fieldsType.map .str),
    ("fieldsV1", m.fields.map id), ("manager", m.manager.map .str), ("operation", m.operation.map .str),
    ("subresource", m.subresource.map .str), ("time", m.time.map Timestamp.toJson)]

/-- An entry whose field set is a JSON value. -/
theorem yields {m : ManagedFields} (h : m.IsProper) : Yields m.toJson ofJson? m.settled := by
  have hwrite : m.toJson = .obj (present m.members) := by
    simp only [toJson, members, present_map, present_nil, List.append_assoc, List.append_nil]
  have hnames : (m.members.map Prod.fst).Nodup := by simp [members]
  have htext := fun (name : String) (s? : Option String)
      (h : m.members.lookup name = some (s?.map .str)) =>
    lastMember?_present hnames h (FieldYields.same yields_text s?)
  have hfields : lastMember? (present m.members) "fieldsV1" fieldSet? = some m.settled.fields :=
    lastMember?_present hnames rfl (fields_yields h)
  have htime : lastMember? (present m.members) "time" Timestamp.ofJson? = some m.settled.time :=
    lastMember?_present hnames rfl (FieldYields.of fun t _ => t.yields)
  rw [hwrite]
  refine ⟨?_, ?_, Json.noConfusion⟩
  · unfold ofJson?
    refine bind_of_eq rfl ?_
    refine bind_of_eq (htext "apiVersion" _ rfl) ?_
    refine bind_of_eq (htext "fieldsType" _ rfl) ?_
    refine bind_of_eq hfields ?_
    refine bind_of_eq (htext "manager" _ rfl) ?_
    refine bind_of_eq (htext "operation" _ rfl) ?_
    refine bind_of_eq (htext "subresource" _ rfl) ?_
    exact bind_of_eq htime rfl
  · rw [isLegible, haveLegible_present]
    simpa [members, (FieldYields.same yields_text _).legible,
      (FieldYields.of fun t _ => Timestamp.yields t).legible] using (fields_yields h).legible

end ManagedFields

/-! ## Object metadata -/

namespace ObjectMeta

/-- Every field set is a JSON value. -/
def IsProper (m : ObjectMeta) : Prop := ∀ es ∈ m.managedFields, ∀ e ∈ es, e.IsProper

/-- The metadata as it is read back: times are those of whole seconds, and a field set `null` stands for
absence. -/
def settled (m : ObjectMeta) : ObjectMeta :=
  { m with
    creationTimestamp := m.creationTimestamp.map .whole
    deletionTimestamp := m.deletionTimestamp.map .whole
    managedFields := m.managedFields.map (·.map ManagedFields.settled) }

/-- Metadata comes back as it was if its times and its managed fields do. -/
theorem settled_eq_iff {m : ObjectMeta} : m.settled = m ↔
    m.creationTimestamp.map .whole = m.creationTimestamp ∧
      m.deletionTimestamp.map .whole = m.deletionTimestamp ∧
      m.managedFields.map (·.map ManagedFields.settled) = m.managedFields := by
  constructor
  · intro h
    exact ⟨congrArg creationTimestamp h, congrArg deletionTimestamp h, congrArg managedFields h⟩
  · rintro ⟨hcreation, hdeletion, hmanaged⟩
    unfold settled
    rw [hcreation, hdeletion, hmanaged]

/-- The object was created, and its deletion requested, at the beginning of a second. -/
structure HasWholeSeconds (m : ObjectMeta) : Prop where
  /-- Its creation. -/
  creation : m.creationTimestamp.all (·.second.nanos = 0) = true
  /-- The request of its deletion. -/
  deletion : m.deletionTimestamp.all (·.second.nanos = 0) = true

/-- Metadata with times of whole seconds comes back as it was, if its managed fields do. -/
theorem settled_of_whole {m : ObjectMeta} (hwhole : m.HasWholeSeconds)
    (hmanaged : ∀ es ∈ m.managedFields, ∀ e ∈ es, e.settled = e) : m.settled = m := by
  have htimes {t? : Option Timestamp} (h : t?.all (·.second.nanos = 0) = true) :
      t?.map .whole = t? := by
    cases t? with
    | none => rfl
    | some t => exact congrArg some (Timestamp.whole_eq (of_decide_eq_true h))
  have hentries : m.managedFields.map (·.map ManagedFields.settled) = m.managedFields := by
    cases hes : m.managedFields with
    | none => rfl
    | some es =>
      have hsame : es.map ManagedFields.settled = es.map id := List.map_congr_left (hmanaged es hes)
      rw [Option.map_some, hsame, List.map_id]
  exact settled_eq_iff.mpr ⟨htimes hwhole.creation, htimes hwhole.deletion, hentries⟩

/-- So does metadata without managed fields. -/
theorem settled_of_unmanaged {m : ObjectMeta} (hwhole : m.HasWholeSeconds)
    (hunmanaged : m.managedFields = none) : m.settled = m := by
  refine settled_of_whole hwhole fun es hes => ?_
  rw [hunmanaged] at hes
  cases hes

/-- The fields of metadata. -/
def fields (m : ObjectMeta) : List (String × Option Json) :=
  [("annotations", m.annotations.map StringMap.toJson),
    ("creationTimestamp", m.creationTimestamp.map Timestamp.toJson),
    ("deletionGracePeriodSeconds", m.deletionGracePeriodSeconds.map fun n => .int n.toInt),
    ("deletionTimestamp", m.deletionTimestamp.map Timestamp.toJson),
    ("finalizers", m.finalizers.map texts), ("generateName", m.generateName.map .str),
    ("generation", m.generation.map fun n => .int n.toInt),
    ("labels", m.labels.map StringMap.toJson),
    ("managedFields", m.managedFields.map fun es => .arr (es.map ManagedFields.toJson)),
    ("name", m.name.map .str), ("namespace", m.ns.map .str),
    ("ownerReferences", m.ownerReferences.map fun os => .arr (os.map OwnerReference.toJson)),
    ("resourceVersion", m.resourceVersion.map .str), ("selfLink", m.selfLink.map .str),
    ("uid", m.uid.map .str)]

/-- Metadata whose field sets are JSON values. -/
theorem yields {m : ObjectMeta} (h : m.IsProper) : Yields m.toJson ofJson? m.settled := by
  have hwrite : m.toJson = .obj (present m.fields) := by
    simp only [toJson, fields, present_map, present_nil, List.append_assoc, List.append_nil]
  have hnames : (m.fields.map Prod.fst).Nodup := by simp [fields]
  have htext := fun (name : String) (s? : Option String)
      (h : m.fields.lookup name = some (s?.map .str)) =>
    lastMember?_present hnames h (FieldYields.same yields_text s?)
  have htime := fun (name : String) (t? : Option Timestamp)
      (h : m.fields.lookup name = some (t?.map Timestamp.toJson)) =>
    lastMember?_present hnames h (FieldYields.of fun t (_ : t ∈ t?) => t.yields)
  have hmap := fun (name : String) (map? : Option (StringMap String))
      (h : m.fields.lookup name = some (map?.map StringMap.toJson)) =>
    lastMember?_present hnames h (FieldYields.same StringMap.yields map?)
  have hint := fun (name : String) (n? : Option Int64)
      (h : m.fields.lookup name = some (n?.map fun n => .int n.toInt)) =>
    lastMember?_present hnames h (FieldYields.same yields_int64 n?)
  have hfinalizers : lastMember? (present m.fields) "finalizers" texts? = some m.finalizers :=
    lastMember?_present hnames rfl (FieldYields.same yields_texts m.finalizers)
  have howners : FieldYields (m.ownerReferences.map fun os => .arr (os.map OwnerReference.toJson))
      (list? OwnerReference.ofJson?) m.ownerReferences := by
    refine FieldYields.same (fun os => ?_) m.ownerReferences
    have hitems := yields_list fun o (_ : o ∈ os) => o.yields
    rwa [List.map_id'] at hitems
  have hmanaged : FieldYields (m.managedFields.map fun es => .arr (es.map ManagedFields.toJson))
      (list? ManagedFields.ofJson?) m.settled.managedFields :=
    FieldYields.of fun es hes => yields_list fun e he => ManagedFields.yields (h es hes e he)
  have hownersRead : lastMember? (present m.fields) "ownerReferences" _ = some m.ownerReferences :=
    lastMember?_present hnames rfl howners
  have hmanagedRead : lastMember? (present m.fields) "managedFields" _ =
      some m.settled.managedFields := lastMember?_present hnames rfl hmanaged
  rw [hwrite]
  refine ⟨?_, ?_, Json.noConfusion⟩
  · -- field by field, as the record is read
    unfold ofJson?
    refine bind_of_eq rfl ?_
    refine bind_of_eq (hmap "annotations" _ rfl) ?_
    refine bind_of_eq (htime "creationTimestamp" _ rfl) ?_
    refine bind_of_eq (hint "deletionGracePeriodSeconds" _ rfl) ?_
    refine bind_of_eq (htime "deletionTimestamp" _ rfl) ?_
    refine bind_of_eq hfinalizers ?_
    refine bind_of_eq (htext "generateName" _ rfl) ?_
    refine bind_of_eq (hint "generation" _ rfl) ?_
    refine bind_of_eq (hmap "labels" _ rfl) ?_
    refine bind_of_eq hmanagedRead ?_
    refine bind_of_eq (htext "name" _ rfl) ?_
    refine bind_of_eq (htext "namespace" _ rfl) ?_
    refine bind_of_eq hownersRead ?_
    refine bind_of_eq (htext "resourceVersion" _ rfl) ?_
    refine bind_of_eq (htext "selfLink" _ rfl) ?_
    exact bind_of_eq (htext "uid" _ rfl) rfl
  · rw [isLegible, haveLegible_present]
    simp [fields, (FieldYields.same yields_text _).legible,
      (FieldYields.of fun t _ => Timestamp.yields t).legible,
      (FieldYields.same StringMap.yields _).legible,
      (FieldYields.same yields_int64 _).legible, (FieldYields.same yields_texts _).legible,
      howners.legible, hmanaged.legible]

end ObjectMeta

end GoopOperator
