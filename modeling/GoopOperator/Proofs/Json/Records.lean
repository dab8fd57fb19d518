import GoopOperator.Json.Record
import GoopOperator.Proofs.Json.Text

/-!
# Records are read back field by field

`Json.Yields v read? x` says that `v` has a text and is read as `x`. A record whose fields have
different names is the list of those that are present (`Json.present`): its object form is read one
field at a time, whether as a record of the operator's own (`slots?_present`) or as one of the
cluster's (`lastMember?_present`).
-/

namespace GoopOperator.Json

/-- The value `v` has a text, is not `null`, and is read as `x`. -/
structure Yields (v : Json) (read? : Json → Option α) (x : α) : Prop where
  /-- It is read as `x`. -/
  read : read? v = some x
  /-- It has a text. -/
  legible : isLegible v = true
  /-- It does not stand for absence. -/
  ne_null : v ≠ .null

/-- What a value yields is read from its text. -/
theorem Yields.parse {v : Json} {read? : Json → Option α} {x : α} (h : Yields v read? x) :
    (parse? v.compact).bind read? = some x := by
  rw [parse?_compact h.legible]
  exact h.read

/-- A reader that goes on with what it has read. -/
theorem bind_of_eq {x? : Option α} {f : α → Option β} {x : α} {y : β} (hx : x? = some x)
    (hf : f x = some y) : x? >>= f = some y := by
  rw [hx]
  exact hf

/-! ## Single values -/

/-- A string. -/
theorem yields_text (s : String) : Yields (.str s) text? s := ⟨rfl, rfl, Json.noConfusion⟩

/-- A truth value. -/
theorem yields_bool (b : Bool) : Yields (.bool b) bool? b := ⟨rfl, rfl, Json.noConfusion⟩

/-- An integer of 32 bits. -/
theorem yields_int32 (n : Int32) : Yields (.int n.toInt) int32? n := by
  have hlow : -2147483648 ≤ n.toInt := Int32.le_toInt n
  have hhigh : n.toInt < 2147483648 := Int32.toInt_lt n
  refine ⟨?_, rfl, Json.noConfusion⟩
  simp only [int32?, intWithin?]
  rw [if_pos ⟨hlow, hhigh⟩, Option.map_some, Int32.ofInt_toInt]

/-- An integer of 64 bits. -/
theorem yields_int64 (n : Int64) : Yields (.int n.toInt) int64? n := by
  have hlow : -9223372036854775808 ≤ n.toInt := Int64.le_toInt n
  have hhigh : n.toInt < 9223372036854775808 := Int64.toInt_lt n
  refine ⟨?_, rfl, Json.noConfusion⟩
  simp only [int64?, intWithin?]
  rw [if_pos ⟨hlow, hhigh⟩, Option.map_some, Int64.ofInt_toInt]

/-- Items that are written one by one are read one by one. -/
theorem mapM_map {read? : β → Option γ} {write : α → β} {f : α → γ} {xs : List α}
    (h : ∀ x ∈ xs, read? (write x) = some (f x)) : (xs.map write).mapM read? = some (xs.map f) := by
  induction xs with
  | nil => rfl
  | cons x rest ih =>
    obtain ⟨hx, hrest⟩ := List.forall_mem_cons.1 h
    rw [List.map_cons, List.mapM_cons, hx, ih hrest]
    rfl

/-- Items have texts if each of them has one. -/
theorem areLegible_iff {items : List Json} :
    areLegible items = true ↔ ∀ v ∈ items, isLegible v = true := by
  induction items with
  | nil => simp [areLegible]
  | cons v rest ih => simp [areLegible, ih]

/-- Members have texts if each of them has one. -/
theorem haveLegible_iff {members : List (String × Json)} :
    haveLegible members = true ↔ ∀ m ∈ members, isLegible m.2 = true := by
  induction members with
  | nil => simp [haveLegible]
  | cons m rest ih => simp [haveLegible, ih]

/-- A list, from its items. -/
theorem yields_list {read? : Json → Option β} {write : α → Json} {f : α → β} {xs : List α}
    (h : ∀ x ∈ xs, Yields (write x) read? (f x)) :
    Yields (.arr (xs.map write)) (list? read?) (xs.map f) := by
  refine ⟨mapM_map fun x hx => (h x hx).read, areLegible_iff.2 ?_, Json.noConfusion⟩
  rintro v hv
  obtain ⟨x, hx, rfl⟩ := List.mem_map.1 hv
  exact (h x hx).legible

/-- A list of texts. -/
theorem yields_texts (xs : List String) : Yields (texts xs) (list? text?) xs := by
  have hitems : Yields (.arr (xs.map .str)) (list? text?) (xs.map fun s => s) :=
    yields_list fun s _ => yields_text s
  rwa [List.map_id'] at hitems

/-! ## Fields -/

/-- The members of the fields that are present. -/
def present (fields : List (String × Option Json)) : List (String × Json) :=
  fields.flatMap fun f => memberIfSome f.1 id f.2

/-- Without fields there are no members. -/
theorem present_nil : present [] = [] := rfl

/-- An optional field. -/
theorem present_map (name : String) (write : α → Json) (x? : Option α)
    (rest : List (String × Option Json)) :
    present ((name, x?.map write) :: rest) = memberIfSome name write x? ++ present rest := by
  cases x? <;> rfl

/-- A field that is always written. -/
theorem present_some (name : String) (v : Json) (rest : List (String × Option Json)) :
    present ((name, some v) :: rest) = (name, v) :: present rest := rfl

/-- The name of a member is that of its field. -/
theorem mem_names_of_present {fields : List (String × Option Json)} {name : String}
    (h : name ∈ (present fields).map Prod.fst) : name ∈ fields.map Prod.fst := by
  obtain ⟨m, hm, rfl⟩ := List.mem_map.1 h
  obtain ⟨f, hf, hmem⟩ := List.mem_flatMap.1 hm
  refine List.mem_map.2 ⟨f, hf, ?_⟩
  cases hvalue : f.2 with
  | none =>
    rw [hvalue] at hmem
    cases hmem
  | some v =>
    rw [hvalue] at hmem
    rw [List.mem_singleton.1 hmem]

/-- Of fields with different names each makes one member at most. -/
theorem nodup_present {fields : List (String × Option Json)} (h : (fields.map Prod.fst).Nodup) :
    ((present fields).map Prod.fst).Nodup := by
  induction fields with
  | nil => exact h
  | cons f rest ih =>
    obtain ⟨hnew, hrest⟩ := List.nodup_cons.1 h
    cases hvalue : f.2 with
    | none => simpa [present, hvalue, memberIfSome] using ih hrest
    | some v =>
      have hnames : (present (f :: rest)).map Prod.fst = f.1 :: (present rest).map Prod.fst := by
        simp [present, hvalue, memberIfSome]
      rw [hnames]
      exact List.nodup_cons.2 ⟨fun hmem => hnew (mem_names_of_present hmem), ih hrest⟩

/-- A member is looked up as its field. -/
theorem lookup_present {fields : List (String × Option Json)} (h : (fields.map Prod.fst).Nodup)
    (name : String) : (present fields).lookup name = (fields.lookup name).join := by
  induction fields with
  | nil => rfl
  | cons f rest ih =>
    obtain ⟨key, value⟩ := f
    obtain ⟨hnew, hrest⟩ := List.nodup_cons.1 h
    have hsplit : present ((key, value) :: rest) = memberIfSome key id value ++ present rest := rfl
    rw [hsplit, List.lookup_append]
    by_cases hname : name = key
    · subst hname
      have hnone : (present rest).lookup name = none := by
        refine List.lookup_eq_none_iff.2 fun m hm => ?_
        have hne : name ≠ m.1 := by
          rintro rfl
          exact hnew (mem_names_of_present (List.mem_map_of_mem hm))
        simpa using hne
      cases value <;> simp [memberIfSome, hnone]
    · have hne : (name == key) = false := by simpa using hname
      rw [List.lookup_cons, hne, ← ih hrest]
      cases value <;> simp [memberIfSome, List.lookup_cons, hne]

/-- The members of a record have texts if its fields do. -/
theorem haveLegible_present (fields : List (String × Option Json)) :
    haveLegible (present fields) = fields.all fun f => f.2.all isLegible := by
  induction fields with
  | nil => rfl
  | cons f rest ih =>
    obtain ⟨key, value⟩ := f
    rw [List.all_cons, ← ih]
    cases value <;> rfl

/-! ## Reading fields -/

/-- Where no name stands twice, the slots of a record are its members. -/
theorem slots?_present {fields : List (String × Option Json)} (h : (fields.map Prod.fst).Nodup)
    (names : List String) : slots? names (.obj (present fields)) =
      some (names.map fun n => ((fields.lookup n).join).elim .missing .written) := by
  have honce : names.all (fun n => ((present fields).filter (·.1 = n)).length ≤ 1) = true := by
    refine List.all_eq_true.2 fun n _ => decide_eq_true ?_
    have hcount := List.nodup_iff_count.1 (nodup_present h) n
    rwa [List.count_eq_countP, List.countP_map, List.countP_eq_length_filter] at hcount
  simp only [slots?]
  rw [if_pos honce]
  simp only [lookup_present h]

/-- Where no name stands twice, the last member of a name is its only one. -/
theorem lastMember?_of_nodup {members : List (String × Json)} (h : (members.map Prod.fst).Nodup)
    (name : String) (read? : Json → Option α) :
    lastMember? members name read? =
      (members.lookup name).elim (some none) (nullable? read?) := by
  have habsent : ∀ ms : List (String × Json), name ∉ ms.map Prod.fst → ∀ found : Option α,
      ms.foldlM (fun found m => if m.1 = name then nullable? read? m.2 else some found) found =
        some found := by
    intro ms hms found
    induction ms with
    | nil => rfl
    | cons m rest ih =>
      rw [List.map_cons, List.mem_cons, not_or] at hms
      rw [List.foldlM_cons, if_neg (Ne.symm hms.1)]
      exact ih hms.2
  unfold lastMember?
  induction members with
  | nil => rfl
  | cons m rest ih =>
    obtain ⟨hnew, hrest⟩ := List.nodup_cons.1 h
    rw [List.foldlM_cons, List.lookup_cons]
    by_cases hname : m.1 = name
    · subst hname
      rw [if_pos rfl, beq_self_eq_true]
      show (nullable? read? m.2).bind _ = nullable? read? m.2
      cases nullable? read? m.2 with
      | none => rfl
      | some found => exact habsent rest hnew found
    · have hne : (name == m.1) = false := by simpa using Ne.symm hname
      rw [if_neg hname, hne]
      exact ih hrest

/-- An optional field with the value `v?` is read as `x?`, and has a text. -/
structure FieldYields (v? : Option Json) (read? : Json → Option α) (x? : Option α) : Prop where
  /-- It is read as `x?`. -/
  read : v?.elim (some none) (nullable? read?) = some x?
  /-- It has a text. -/
  legible : v?.all isLegible = true

/-- A value that is not `null` is read as present. -/
theorem Yields.nullable {v : Json} {read? : Json → Option α} {x : α} (h : Yields v read? x) :
    nullable? read? v = some (some x) := by
  have hread := congrArg (Option.map some) h.read
  cases v with
  | null => exact absurd rfl h.ne_null
  | _ => exact hread

/-- An optional field, from its value where it is present. -/
theorem FieldYields.of {write : α → Json} {read? : Json → Option β} {f : α → β} {x? : Option α}
    (h : ∀ x ∈ x?, Yields (write x) read? (f x)) :
    FieldYields (x?.map write) read? (x?.map f) := by
  cases x? with
  | none => exact ⟨rfl, rfl⟩
  | some x => exact ⟨(h x rfl).nullable, (h x rfl).legible⟩

/-- An optional field that is read as it is written. -/
theorem FieldYields.same {write : α → Json} {read? : Json → Option α}
    (h : ∀ x, Yields (write x) read? x) (x? : Option α) :
    FieldYields (x?.map write) read? x? := by
  have hfield : FieldYields (x?.map write) read? (x?.map fun x => x) :=
    FieldYields.of fun x _ => h x
  rwa [Option.map_id'] at hfield

/-- An optional field of a cluster's object. -/
theorem lastMember?_present {fields : List (String × Option Json)}
    (h : (fields.map Prod.fst).Nodup) {name : String} {v? : Option Json}
    (hfield : fields.lookup name = some v?) {read? : Json → Option α} {x? : Option α}
    (hyields : FieldYields v? read? x?) :
    lastMember? (present fields) name read? = some x? := by
  rw [lastMember?_of_nodup (nodup_present h), lookup_present h, hfield]
  exact hyields.read

namespace Slot

/-- A field that has to be written. -/
theorem required?_written {v : Json} {read? : Json → Option α} {x : α} (h : Yields v read? x) :
    required? read? (.written v) = some x := h.read

/-- A field that may be absent or `null`. -/
theorem omittable?_elim {v? : Option Json} {read? : Json → Option α} {x? : Option α}
    (h : FieldYields v? read? x?) :
    omittable? read? (v?.elim .missing .written) = some x? := by
  have hread := h.read
  cases v? <;> exact hread

/-- A field that may be absent or `null` in an object. -/
theorem optional?_elim {v? : Option Json} {read? : Json → Option α} {x? : Option α}
    (h : FieldYields v? read? x?) :
    optional? read? (v?.elim .missing .written) = some x? := by
  have hread := h.read
  cases v? <;> exact hread

end Slot

end GoopOperator.Json
