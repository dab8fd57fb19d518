import GoopOperator.Goop
import GoopOperator.Proofs.Json.Metadata
import GoopOperator.Workload

/-!
# Resources are read back

Keys, conditions, ledgers, jobs and workloads are read back from the text that is written of them
(`resources_read_back`): absent fields stay absent, and empty lists and maps stay apart from absent
ones. Of a job the times of its metadata and the field sets of managed fields are the exceptions: a time
is written as the second that it falls in, and a field set `null` is read as absent (`Goop.yields`).
-/

namespace GoopOperator

open Json

/-! ## Keys and conditions -/

/-- A key. -/
theorem ObjectKey.yields (k : ObjectKey) : Yields k.toJson ofJson? k :=
  ⟨by simp [ofJson?, toJson, slots?, List.lookup_cons, Slot.required?, text?], rfl, Json.noConfusion⟩

/-- An entry of the status log. -/
theorem Condition.yields (c : Condition) : Yields c.toJson ofJson? c := by
  refine ⟨ofJson?_toJson c, ?_, Json.noConfusion⟩
  cases hlast : c.lastTransition <;>
    simp [toJson, hlast, isLegible, haveLegible, memberIfSome]

/-- A status log. -/
theorem Ledger.yields (l : Ledger) : Yields l.toJson ofJson? l := by
  have hitems : Yields (.arr (l.entries.map Condition.toJson)) (list? Condition.ofJson?)
      (l.entries.map fun c => c) := yields_list fun c _ => c.yields
  rw [List.map_id'] at hitems
  exact ⟨congrArg (Option.map Ledger.mk) hitems.read, hitems.legible, hitems.ne_null⟩

/-! ## Jobs -/

namespace GoopSpec

/-- The fields of a spec; a command without words is left out. -/
def fields (s : GoopSpec) : List (String × Option Json) :=
  [("foo", s.foo.map .str), ("job_count", s.jobCount.map fun n => .int n.toInt),
    ("command", if s.command = [] then none else some (texts s.command)),
    ("image", s.image.map .str)]

/-- What a job asks for. -/
theorem yields (s : GoopSpec) : Yields s.toJson ofJson? s := by
  have hcommand : ∀ rest, present (("command", if s.command = [] then none else
        some (texts s.command)) :: rest) =
      (if s.command = [] then [] else [("command", texts s.command)]) ++ present rest := by
    intro rest
    split <;> rfl
  have hwrite : s.toJson = .obj (present s.fields) := by
    simp only [toJson, fields, present_map, hcommand, present_nil, List.append_assoc,
      List.append_nil]
  have hnames : (s.fields.map Prod.fst).Nodup := by simp [fields]
  have hread : Slot.defaulted? [] texts?
      ((if s.command = [] then none else some (texts s.command)).elim .missing .written) =
      some s.command := by
    split
    · rename_i hempty
      rw [hempty]
      rfl
    · exact (yields_texts s.command).read
  have hlegible : (if s.command = [] then none else some (texts s.command)).all isLegible = true := by
    split
    · rfl
    · exact (yields_texts s.command).legible
  rw [hwrite]
  refine ⟨?_, ?_, Json.noConfusion⟩
  · rw [ofJson?, slots?_present hnames]
    simp [-Option.elim_map, fields, List.lookup_cons,
      Slot.omittable?_elim (FieldYields.same yields_text _),
      Slot.omittable?_elim (FieldYields.same yields_int32 _), hread]
  · rw [isLegible, haveLegible_present]
    simp [fields, (FieldYields.same yields_text _).legible,
      (FieldYields.same yields_int32 _).legible, hlegible]

end GoopSpec

/-- What a job has reached. -/
theorem GoopStatus.yields (s : GoopStatus) : Yields s.toJson ofJson? s := by
  have hread := s.conditions.yields
  refine ⟨?_, haveLegible_iff.2 (List.forall_mem_singleton.2 hread.legible), Json.noConfusion⟩
  simp [ofJson?, toJson, slots?, List.lookup_cons, Slot.defaulted?, hread.read]

namespace Goop

/-- The job as it is read back: the times of its metadata are those of whole seconds, and a field set
`null` of its managed fields stands for absence. -/
def settled (g : Goop) : Goop := { g with metadata := g.metadata.settled }

/-- The fields of a job. -/
def fields (g : Goop) : List (String × Option Json) :=
  [("apiVersion", some (.str apiVersion)), ("kind", some (.str kind)),
    ("metadata", some g.metadata.toJson), ("spec", some g.spec.toJson),
    ("status", g.status.map GoopStatus.toJson)]

/-- A job whose field sets are JSON values. -/
theorem yields {g : Goop} (h : g.metadata.IsProper) : Yields g.toJson ofJson? g.settled := by
  have hwrite : g.toJson = .obj (present g.fields) := by
    simp only [toJson, fields, present_map, present_some, present_nil, List.append_nil,
      List.cons_append, List.nil_append]
  have hnames : (g.fields.map Prod.fst).Nodup := by simp [fields]
  have hmetadata := ObjectMeta.yields h
  have hspec := g.spec.yields
  have hstatus := FieldYields.same GoopStatus.yields g.status
  rw [hwrite]
  refine ⟨?_, ?_, Json.noConfusion⟩
  · rw [ofJson?, slots?_present hnames]
    simp [-Option.elim_map, fields, List.lookup_cons, Slot.required?_written hmetadata,
      Slot.required?_written hspec, Slot.optional?_elim hstatus, settled]
  · rw [isLegible, haveLegible_present]
    simp [fields, isLegible, hmetadata.legible, hspec.legible, hstatus.legible]

end Goop

/-! ## Workloads -/

/-- Rollout counts. -/
theorem Rollout.yields (w : Rollout) : Yields w.toJson ofJson? w := by
  refine ⟨?_, rfl, Json.noConfusion⟩
  simp [ofJson?, toJson, slots?, List.lookup_cons, Slot.required?, (yields_int32 _).read,
    (yields_bool _).read]

namespace WorkloadSpec

/-- An optional value is read back from the value or `null`. -/
theorem nullable?_orNull {write : α → Json} {read? : Json → Option α}
    (h : ∀ x, Yields (write x) read? x) (x? : Option α) :
    nullable? read? (orNull write x?) = some x? := by
  cases x? with
  | none => rfl
  | some x => exact (h x).nullable

/-- An optional value has a text, `null` included. -/
theorem isLegible_orNull {write : α → Json} {read? : Json → Option α}
    (h : ∀ x, Yields (write x) read? x) (x? : Option α) : isLegible (orNull write x?) = true := by
  cases x? with
  | none => rfl
  | some x => exact (h x).legible

/-- What the operator asks the cluster to run. -/
theorem yields (d : WorkloadSpec) : Yields d.toJson ofJson? d := by
  refine ⟨?_, ?_, Json.noConfusion⟩
  · simp [ofJson?, toJson, slots?, List.lookup_cons, Slot.required?, Slot.optional?,
      d.key.yields.read, d.labels.yields.read, (yields_text _).read, (yields_texts _).read,
      nullable?_orNull yields_int32, nullable?_orNull OwnerReference.yields, texts?]
  · simp [toJson, isLegible, haveLegible, d.key.yields.legible, d.labels.yields.legible,
      (yields_texts _).legible, isLegible_orNull yields_int32,
      isLegible_orNull OwnerReference.yields]

end WorkloadSpec

/-! ## Reading back -/

/-- A resource of any kind is what is read from the text that is written of it; of a job, where the times
of its metadata are those of whole seconds and it has no managed fields. -/
theorem resources_read_back :
    (∀ k : ObjectKey, (parse? k.toJson.compact).bind ObjectKey.ofJson? = some k) ∧
    (∀ c : Condition, (parse? c.toJson.compact).bind Condition.ofJson? = some c) ∧
    (∀ l : Ledger, (parse? l.toJson.compact).bind Ledger.ofJson? = some l) ∧
    (∀ s : GoopSpec, (parse? s.toJson.compact).bind GoopSpec.ofJson? = some s) ∧
    (∀ s : GoopStatus, (parse? s.toJson.compact).bind GoopStatus.ofJson? = some s) ∧
    (∀ w : Rollout, (parse? w.toJson.compact).bind Rollout.ofJson? = some w) ∧
    (∀ d : WorkloadSpec, (parse? d.toJson.compact).bind WorkloadSpec.ofJson? = some d) ∧
    (∀ g : Goop, g.metadata.HasWholeSeconds → g.metadata.managedFields = none →
      (parse? g.toJson.compact).bind Goop.ofJson? = some g) := by
  refine ⟨fun k => k.yields.parse, fun c => c.yields.parse, fun l => l.yields.parse,
    fun s => s.yields.parse, fun s => s.yields.parse, fun w => w.yields.parse,
    fun d => d.yields.parse, ?_⟩
  intro g hwhole hunmanaged
  have hproper : g.metadata.IsProper := by
    intro es hes
    rw [hunmanaged] at hes
    cases hes
  have hread := (Goop.yields hproper).parse
  unfold Goop.settled at hread
  rwa [ObjectMeta.settled_of_unmanaged hwhole hunmanaged] at hread

/-- A job whose texts hold a quote, a backslash, a control character and a character beyond the basic
plane, with an empty list of finalizers, an empty map of labels, and a condition without a time. -/
def intricateJob : Goop where
  metadata := { ObjectMeta.empty with
    name := some "a \"quoted\" \\ name"
    ns := some (String.ofList [Char.ofNat 1, '😀'])
    creationTimestamp := some ⟨⟨2024, 2, 29, by decide⟩, 23, 59, 60, by decide⟩
    finalizers := some []
    labels := some ∅
    generation := some (-9223372036854775808) }
  spec := { foo := none, jobCount := some 2147483647, command := ["", "\n"], image := some "" }
  status := some ⟨⟨[.available .yes .initialized ""]⟩⟩

/-- The job was created at the beginning of a second, has no managed fields, and comes back from its
text. -/
theorem intricateJob_read_back :
    intricateJob.metadata.HasWholeSeconds ∧ intricateJob.metadata.managedFields = none ∧
      (parse? intricateJob.toJson.compact).bind Goop.ofJson? = some intricateJob := by
  have hwhole : intricateJob.metadata.HasWholeSeconds := ⟨rfl, rfl⟩
  exact ⟨hwhole, rfl, resources_read_back.2.2.2.2.2.2.2 intricateJob hwhole rfl⟩

end GoopOperator
