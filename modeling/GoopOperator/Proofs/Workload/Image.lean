import GoopOperator.CommandLine.Invocation
import GoopOperator.Proofs.Environment
import GoopOperator.Proofs.Workload.Plan

/-!
# Where the image of a job comes from

The image may be named by the job, on the command line and in the environment, in this order, and
each of them may be absent or empty. Empty texts are passed over, so that the first image counts that
has a name: the job and the environment are read so. The command line is not: an empty text there
hides the environment and is run where the job names no image (`EmptyTextCounts`). In all other cases
a workload has the image that it should have, and there is no plan where no image is named
(`planned_image_and_command`).

An option that is not given takes its value from the environment, so it is enough for this that the
variable of the image is set to the empty text.
-/

namespace GoopOperator

namespace WorkloadSpec

/-- The first text that is not empty, of some that may be absent. -/
def firstNamed (sources : List (Option String)) : Option String :=
  (sources.filterMap id).find? (· ≠ "")

/-- The command line gives the empty text for the image, and the job names no image. -/
structure EmptyTextCounts (flag : Option String) (g : Goop) : Prop where
  /-- The command line gives the empty text. -/
  given : flag = some ""
  /-- The job names no image. -/
  unnamed : firstNamed [g.spec.image] = none

section image

variable {get? : String → Option String} {flag : Option String} {g : Goop} {d : WorkloadSpec}

/-- A source that is absent or empty is passed over. -/
theorem firstNamed_cons (source : Option String) (rest : List (Option String)) :
    firstNamed (source :: rest) = (source >>= Settings.nonempty?).or (firstNamed rest) := by
  cases source with
  | none => rfl
  | some text =>
    show ((text :: rest.filterMap id).find? (· ≠ "")) = (Settings.nonempty? text).or _
    unfold Settings.nonempty?
    by_cases h : text = ""
    · rw [if_pos h, List.find?_cons_of_neg (by simpa using h)]
      rfl
    · rw [if_neg h, List.find?_cons_of_pos (by simpa using h)]
      rfl

/-- One source alone is read so. -/
theorem firstNamed_singleton (source : Option String) :
    firstNamed [source] = (source >>= Settings.nonempty?) := by
  rw [firstNamed_cons]
  exact Option.or_none

/-- What is named first is not empty. -/
theorem firstNamed_ne_empty (sources : List (Option String)) : firstNamed sources ≠ some "" :=
  fun h => absurd (List.find?_some h) (by decide)

/-- The image that is run for a job, under the settings of an environment and a command line. -/
theorem imageFor?_eq (get? : String → Option String) (flag : Option String) (g : Goop) :
    imageFor? g ((Settings.ofEnvironment get?).withImage flag) =
      (firstNamed [g.spec.image]).or (flag.or (firstNamed [get? "GOOP_IMAGE"])) := by
  rw [firstNamed_singleton, firstNamed_singleton]
  show ((g.spec.image >>= Settings.nonempty?) <|> flag <|>
    (get? "GOOP_IMAGE" >>= Settings.nonempty?)) = _
  cases g.spec.image >>= Settings.nonempty? <;> cases flag <;> rfl

/-- An empty text on the command line is the image where the job names none. -/
theorem EmptyTextCounts.imageFor? (h : EmptyTextCounts flag g) (get? : String → Option String) :
    imageFor? g ((Settings.ofEnvironment get?).withImage flag) = some "" := by
  rw [imageFor?_eq, h.unnamed, h.given]
  rfl

/-- Else the image is the first one that is named. -/
theorem imageFor?_of_not (h : ¬ EmptyTextCounts flag g) (get? : String → Option String) :
    imageFor? g ((Settings.ofEnvironment get?).withImage flag) =
      firstNamed [g.spec.image, flag, get? "GOOP_IMAGE"] := by
  rw [imageFor?_eq, firstNamed_cons g.spec.image [flag, get? "GOOP_IMAGE"], ← firstNamed_singleton,
    firstNamed_cons flag]
  cases hjob : firstNamed [g.spec.image] with
  | some image => rfl
  | none =>
    -- the command line decides, and gives either nothing or a name
    have hflag : (flag >>= Settings.nonempty?) = flag := by
      cases flag with
      | none => rfl
      | some text => exact if_neg fun hempty => h ⟨congrArg some hempty, hjob⟩
    rw [hflag]

/-- No image is found exactly where none is named. -/
theorem imageFor?_eq_none_iff :
    imageFor? g ((Settings.ofEnvironment get?).withImage flag) = none ↔
      firstNamed [g.spec.image, flag, get? "GOOP_IMAGE"] = none ∧ ¬ EmptyTextCounts flag g := by
  by_cases h : EmptyTextCounts flag g
  · rw [h.imageFor?]
    exact ⟨nofun, fun hnone => absurd h hnone.2⟩
  · rw [imageFor?_of_not h]
    exact ⟨fun hnone => ⟨hnone, h⟩, And.left⟩

/-- An image is found where one is named, and else where the empty text counts. -/
theorem isSome_imageFor?_iff :
    (imageFor? g ((Settings.ofEnvironment get?).withImage flag)).isSome ↔
      (firstNamed [g.spec.image, flag, get? "GOOP_IMAGE"]).isSome ∨ EmptyTextCounts flag g := by
  rw [Option.isSome_iff_ne_none, Option.isSome_iff_ne_none, ne_eq, imageFor?_eq_none_iff,
    Classical.not_and_iff_not_or_not, Classical.not_not]

/-- The image that is found is empty exactly where the empty text counts. -/
theorem imageFor?_eq_empty_iff :
    imageFor? g ((Settings.ofEnvironment get?).withImage flag) = some "" ↔ EmptyTextCounts flag g := by
  refine ⟨fun hempty => Classical.byContradiction fun h => ?_, fun h => h.imageFor? get?⟩
  rw [imageFor?_of_not h] at hempty
  exact firstNamed_ne_empty _ hempty

/-- The command of a workload is never empty. -/
theorem commandFor_ne_nil (get? : String → Option String) (flag : Option String) (g : Goop) :
    commandFor g ((Settings.ofEnvironment get?).withImage flag) ≠ [] := by
  unfold commandFor
  split
  · exact (Settings.isSound_ofEnvironment get?).command
  · assumption

end image

/-- Under the settings of an environment and of a command line that gives `flag` for the image, a
workload has a command, and the first image that has a name: its own one before that on the command
line and that of the environment. The one exception is an empty text on the command line, which is run
as it is where the job names no image. There is a plan for a job that has a namespace, a name and a
unique id if an image is named, and, but for the exception, only then; where none is named, that is
what the plan of a job with a namespace fails for. -/
theorem planned_image_and_command (get? : String → Option String) (flag : Option String) (g : Goop) :
    let settings := (Settings.ofEnvironment get?).withImage flag
    let named := firstNamed [g.spec.image, flag, get? "GOOP_IMAGE"]
    (∀ d, plan g settings = .ok d → d.command ≠ [] ∧
        (d.image = "" ↔ EmptyTextCounts flag g) ∧
        (¬ EmptyTextCounts flag g → named = some d.image)) ∧
      ((∃ d, plan g settings = .ok d) ↔
        g.metadata.ns.isSome ∧ g.metadata.name.isSome ∧ g.metadata.uid.isSome ∧
          (named.isSome ∨ EmptyTextCounts flag g)) ∧
      (g.metadata.ns.isSome →
        (plan g settings = .error (.settings "no job image: set spec.image or GOOP_IMAGE") ↔
          named = none ∧ ¬ EmptyTextCounts flag g)) := by
  refine ⟨fun d h => ?_, ?_, fun hns => ?_⟩
  · obtain ⟨himage, hcommand⟩ := image_of_plan h
    refine ⟨hcommand ▸ commandFor_ne_nil get? flag g, ?_, fun hnot => ?_⟩
    · rw [← imageFor?_eq_empty_iff, himage, Option.some.injEq]
    · rw [← himage, imageFor?_of_not hnot]
  · rw [exists_plan_iff, Goop.key_eq_ok_iff, isSome_imageFor?_iff, Goop.controllerReference?_isSome]
    exact ⟨fun ⟨hns, himage, hname, huid⟩ => ⟨hns, hname, huid, himage⟩,
      fun ⟨hns, hname, huid, himage⟩ => ⟨hns, himage, hname, huid⟩⟩
  · exact (plan_imageless_iff (Goop.key_eq_ok_iff.mpr hns)).trans imageFor?_eq_none_iff

/-- An environment in which the variable of the image is set to the empty text. -/
def hollowEnvironment (name : String) : Option String := [("GOOP_IMAGE", "")].lookup name

/-- A stored job that names no image. -/
def imageless : Goop :=
  { metadata := { ObjectMeta.empty with name := some "nightly", ns := some "jobs", uid := some "u-1" },
    spec := ∅, status := none }

/-- The command line takes the empty text from the environment, and it is run. Without the option there
is no plan, and with a name the name is run. -/
theorem sample_empty_image :
    (CommandLine.Invocation.ofArguments hollowEnvironment ["reconcile", "jobs/nightly"]).map
        (·.command) = .ok (.reconcile "jobs/nightly" (some "")) ∧
      (∃ d, plan imageless ((Settings.ofEnvironment hollowEnvironment).withImage (some "")) = .ok d ∧
        d.image = "" ∧ d.command ≠ []) ∧
      plan imageless ((Settings.ofEnvironment hollowEnvironment).withImage none) =
        .error (.settings "no job image: set spec.image or GOOP_IMAGE") ∧
      (∃ d, plan imageless ((Settings.ofEnvironment hollowEnvironment).withImage (some "job:1")) =
        .ok d ∧ d.image = "job:1") := by
  have hempty : EmptyTextCounts (some "") imageless := ⟨rfl, rfl⟩
  have hnot : ¬ EmptyTextCounts none imageless := fun h => nomatch h.given
  have hnot' : ¬ EmptyTextCounts (some "job:1") imageless := fun h => absurd h.given (by decide)
  obtain ⟨hparts, hplan, -⟩ := planned_image_and_command hollowEnvironment (some "") imageless
  obtain ⟨d, hd⟩ := hplan.mpr ⟨rfl, rfl, rfl, .inr hempty⟩
  obtain ⟨-, -, hnone⟩ := planned_image_and_command hollowEnvironment none imageless
  obtain ⟨hparts', hplan', -⟩ := planned_image_and_command hollowEnvironment (some "job:1") imageless
  obtain ⟨d', hd'⟩ := hplan'.mpr ⟨rfl, rfl, rfl, .inl rfl⟩
  refine ⟨by rfl, ⟨d, hd, (hparts d hd).2.1.mpr hempty, (hparts d hd).1⟩,
    (hnone rfl).mpr ⟨rfl, hnot⟩, ⟨d', hd', ?_⟩⟩
  exact (Option.some.inj ((hparts' d' hd').2.2 hnot')).symm

end WorkloadSpec

end GoopOperator
