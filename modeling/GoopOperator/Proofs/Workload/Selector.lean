import GoopOperator.DaemonSet.Manifest
import GoopOperator.Proofs.Workload.Labels
import GoopOperator.Proofs.Workload.Plan

/-!
# Whose pods a DaemonSet takes

The selector of a DaemonSet takes every pod that carries all entries of it. The labels of a workload are
selector and pod labels at once, so a DaemonSet takes its own pods; and as they name the job, it takes no
pods of another one: the labels of one name and image are found among those of others exactly where the
name is the same and the version, if there is one, is too (`labels_within_iff`).
`selectors_keep_apart` says so of the DaemonSets of any two jobs.
-/

namespace GoopOperator

/-! ## Labels among labels -/

/-- The label that the name of the job goes to. -/
def instanceLabel : String := "app.kubernetes.io/instance"

/-- The instance is the name of the job. -/
theorem get?_instanceLabel (name image : String) :
    (recommendedLabels name image).get? instanceLabel = some name := by
  rw [get?_recommendedLabels, if_neg (by decide)]
  rfl

/-- The labels of a name and an image are found among those of others exactly where the names are the
same, and the version of the one, if there is one, is that of the other. -/
theorem labels_within_iff {name name' image image' : String} :
    (∀ key value, (recommendedLabels name image).get? key = some value →
        (recommendedLabels name' image').get? key = some value) ↔
      name = name' ∧ ∀ tag, Image.tag? image = some tag → Image.tag? image' = some tag := by
  have hversion (name image : String) :
      (recommendedLabels name image).get? versionLabel = Image.tag? image := by
    rw [get?_recommendedLabels, if_pos rfl]
  constructor
  · intro hwithin
    have hname := hwithin instanceLabel name (get?_instanceLabel name image)
    rw [get?_instanceLabel] at hname
    refine ⟨(Option.some.inj hname).symm, fun tag htag => ?_⟩
    have htag' := hwithin versionLabel tag (by rw [hversion, htag])
    rwa [hversion] at htag'
  · rintro ⟨rfl, htags⟩ key value hvalue
    by_cases hkey : key = versionLabel
    · subst hkey
      rw [hversion] at hvalue ⊢
      exact htags value hvalue
    · -- the labels apart from the version depend on the name only
      rw [get?_recommendedLabels, if_neg hkey] at hvalue ⊢
      exact hvalue

/-- A stored job that names its image. -/
def Goop.ofImage (name image : String) : Goop :=
  { metadata := { ObjectMeta.empty with name := some name, ns := some "jobs", uid := some "u-1" },
    spec := { GoopSpec.empty with image := some image }, status := none }

/-! ## Selectors -/

namespace DaemonSet

/-- Whether a DaemonSet takes the pods with some labels: they carry every entry of its selector. -/
def selects (set : DaemonSet) (labels : StringMap String) : Bool :=
  set.selector.entries.all fun e => labels.get? e.1 = some e.2

/-- The entries of a selector are what it finds. -/
theorem selects_iff {set : DaemonSet} {labels : StringMap String} :
    set.selects labels = true ↔
      ∀ key value, set.selector.get? key = some value → labels.get? key = some value := by
  unfold selects
  rw [List.all_eq_true]
  constructor
  · intro hall key value hvalue
    exact of_decide_eq_true (hall (key, value) (StringMap.get?_eq_some_iff.mp hvalue))
  · intro hwithin e he
    exact decide_eq_true (hwithin e.1 e.2 (StringMap.get?_eq_some_iff.mpr he))

/-- A DaemonSet runs for a job: it stands under the name and the namespace of the job, which is its only
owner and controls it, and it takes its own pods. -/
structure RunsFor (set : DaemonSet) (g : Goop) : Prop where
  /-- The name. -/
  name : g.metadata.name = some g.name ∧ set.metadata.name = some g.name
  /-- The namespace. -/
  ns : ∃ ns, g.metadata.ns = some ns ∧ set.metadata.ns = some ns
  /-- The owner. -/
  owner : ∃ owner, set.metadata.ownerReferences = some [owner] ∧ owner.controller = some true ∧
    owner.name = g.name ∧ g.metadata.uid = some owner.uid
  /-- The pods. -/
  pods : set.selects set.podLabels = true

section plan

variable {g g' : Goop} {settings settings' : Settings} {d d' : WorkloadSpec}

/-- The DaemonSet of what is planned for a job runs for it. -/
theorem runsFor_of_plan (h : WorkloadSpec.plan g settings = .ok d) (pauseImage : String) :
    (ofWorkload d pauseImage).RunsFor g := by
  cases WorkloadSpec.planned_of_plan h with
  | @planned key image owner hkey himage howner =>
    obtain ⟨hns, hname⟩ := Goop.parts_of_key hkey
    obtain ⟨hnamed, huid, hcontroller⟩ := Goop.parts_of_controllerReference? howner
    -- where there is a name, it is the one that the job goes by
    have hown : g.name = owner.name := by
      unfold Goop.name
      rw [hnamed]
      rfl
    exact {
      name := ⟨hown ▸ hnamed, congrArg some hname.symm⟩
      ns := ⟨key.ns, hns, rfl⟩
      owner := ⟨owner, rfl, hcontroller, hown.symm, huid⟩
      pods := selects_iff.mpr fun _ _ => id }

/-- The DaemonSet of one job takes the pods of another exactly where both have the same name, and its
version, if there is one, is the other one's. -/
theorem selects_of_plans_iff (h : WorkloadSpec.plan g settings = .ok d)
    (h' : WorkloadSpec.plan g' settings' = .ok d') (pauseImage pauseImage' : String) :
    (ofWorkload d pauseImage).selects (ofWorkload d' pauseImage').podLabels = true ↔
      g.name = g'.name ∧ ∀ tag, Image.tag? d.image = some tag → Image.tag? d'.image = some tag := by
  rw [selects_iff]
  show (∀ key value, d.labels.get? key = some value → d'.labels.get? key = some value) ↔ _
  rw [WorkloadSpec.labels_of_plan h, WorkloadSpec.labels_of_plan h']
  exact labels_within_iff

/-- The DaemonSets of any two jobs, under any settings and pause images: each runs for its own job, and
where the names of the jobs differ, neither takes the pods of the other. -/
theorem selectors_keep_apart (h : WorkloadSpec.plan g settings = .ok d)
    (h' : WorkloadSpec.plan g' settings' = .ok d') (pauseImage pauseImage' : String) :
    let set := ofWorkload d pauseImage
    let set' := ofWorkload d' pauseImage'
    set.RunsFor g ∧ set'.RunsFor g' ∧
      (g.name ≠ g'.name →
        set.selects set'.podLabels = false ∧ set'.selects set.podLabels = false) := by
  refine ⟨runsFor_of_plan h pauseImage, runsFor_of_plan h' pauseImage', fun hne => ⟨?_, ?_⟩⟩
  · refine Bool.eq_false_iff.mpr fun hselects => hne ?_
    exact ((selects_of_plans_iff h h' pauseImage pauseImage').mp hselects).1
  · refine Bool.eq_false_iff.mpr fun hselects => hne ?_
    exact ((selects_of_plans_iff h' h pauseImage' pauseImage).mp hselects).1.symm

end plan

/-- The DaemonSets of two jobs of which one has no version, and the name of the other goes on. -/
theorem sample_kept_apart :
    ∃ d d', WorkloadSpec.plan (.ofImage "nightly" "host:5000/busybox") .default = .ok d ∧
      WorkloadSpec.plan (.ofImage "nightly-2" "busybox:1.36") .default = .ok d' ∧
      (ofWorkload d defaultPauseImage).RunsFor (.ofImage "nightly" "host:5000/busybox") ∧
      (ofWorkload d defaultPauseImage).selects (ofWorkload d' "pause:1").podLabels = false ∧
      (ofWorkload d' "pause:1").selects (ofWorkload d defaultPauseImage).podLabels = false := by
  obtain ⟨d, hd⟩ : ∃ d, WorkloadSpec.plan (.ofImage "nightly" "host:5000/busybox") .default = .ok d :=
    ⟨_, rfl⟩
  obtain ⟨d', hd'⟩ : ∃ d, WorkloadSpec.plan (.ofImage "nightly-2" "busybox:1.36") .default = .ok d :=
    ⟨_, rfl⟩
  obtain ⟨hruns, -, hapart⟩ := selectors_keep_apart hd hd' defaultPauseImage "pause:1"
  exact ⟨d, d', hd, hd', hruns, hapart (by decide)⟩

end DaemonSet

end GoopOperator
