import GoopOperator.Workload.Plan

/-!
# What comes of planning

A plan for a job fails for one of three reasons, of which the first one counts, or says what is run for
the job. `WorkloadSpec.Planned` lists these outcomes with all that is known in each; what is said of
plans elsewhere is read off it.
-/

namespace GoopOperator

namespace WorkloadSpec

/-- The image that is run for a job: its own one, if that is not empty, or else that of the settings. -/
def imageFor? (g : Goop) (settings : Settings) : Option String :=
  (g.spec.image >>= Settings.nonempty?) <|> settings.image

/-- The command that is run for a job: its own one, if there is one, or else that of the settings. -/
def commandFor (g : Goop) (settings : Settings) : List String :=
  if g.spec.command = [] then settings.jobCommand else g.spec.command

/-- What can come of planning what to run for a job. -/
inductive Planned (g : Goop) (settings : Settings) : Except PassError WorkloadSpec → Prop where
  /-- The job has no key. -/
  | keyless {e : KeyError} (hkey : g.key = .error e) : Planned g settings (.error (.ofKeyError e))
  /-- Neither the job nor the settings have an image. -/
  | imageless {key : ObjectKey} (hkey : g.key = .ok key) (himage : imageFor? g settings = none) :
    Planned g settings (.error (.settings "no job image: set spec.image or GOOP_IMAGE"))
  /-- The job cannot be the owner of another object. -/
  | ownerless {key : ObjectKey} {image : String} (hkey : g.key = .ok key)
    (himage : imageFor? g settings = some image) (howner : g.controllerReference? = none) :
    Planned g settings (.error (.precondition
      ("goop " ++ key.toText ++ " has no uid; cannot own a workload")))
  /-- The image and the command are run for the job, under its key and owned by it. -/
  | planned {key : ObjectKey} {image : String} {owner : OwnerReference} (hkey : g.key = .ok key)
    (himage : imageFor? g settings = some image) (howner : g.controllerReference? = some owner) :
    Planned g settings (.ok {
      key
      labels := recommendedLabels key.name image
      image
      command := commandFor g settings
      jobCount := g.spec.jobCount
      owner := some owner })

/-- Planning has one of these outcomes. -/
theorem planned_plan (g : Goop) (settings : Settings) : Planned g settings (plan g settings) := by
  unfold plan
  cases hkey : g.key with
  | error e => exact .keyless hkey
  | ok key =>
    cases himage : (g.spec.image >>= Settings.nonempty?) <|> settings.image with
    | none => exact .imageless hkey himage
    | some image =>
      cases howner : g.controllerReference? with
      | none => exact .ownerless hkey himage howner
      | some owner => exact .planned hkey himage howner

/-- A plan says what is known of its parts. -/
theorem planned_of_plan {g : Goop} {settings : Settings} {r : Except PassError WorkloadSpec}
    (h : plan g settings = r) : Planned g settings r :=
  h ▸ planned_plan g settings

end WorkloadSpec

namespace Goop

variable {g : Goop}

/-- A job has a key exactly where it has a namespace. -/
theorem key_eq_ok_iff : (∃ key, g.key = .ok key) ↔ g.metadata.ns.isSome := by
  unfold key
  cases g.metadata.ns <;> simp

/-- A job can be the owner of another object exactly where it has a name and a unique id. -/
theorem controllerReference?_isSome :
    g.controllerReference?.isSome ↔ g.metadata.name.isSome ∧ g.metadata.uid.isSome := by
  unfold controllerReference?
  cases g.metadata.name <;> cases g.metadata.uid <;> simp

/-- The key of a job is its namespace with its name. -/
theorem parts_of_key {key : ObjectKey} (h : g.key = .ok key) :
    g.metadata.ns = some key.ns ∧ g.name = key.name := by
  unfold Goop.key at h
  cases hns : g.metadata.ns with
  | none =>
    rw [hns] at h
    cases h
  | some ns =>
    rw [hns] at h
    obtain rfl := Except.ok.inj h
    exact ⟨rfl, rfl⟩

/-- The reference to a job names it as the controller. -/
theorem parts_of_controllerReference? {owner : OwnerReference}
    (h : g.controllerReference? = some owner) :
    g.metadata.name = some owner.name ∧ g.metadata.uid = some owner.uid ∧
      owner.controller = some true := by
  unfold controllerReference? at h
  obtain ⟨name, hname, h⟩ := Option.bind_eq_some_iff.mp h
  obtain ⟨uid, huid, h⟩ := Option.bind_eq_some_iff.mp h
  obtain rfl := Option.some.inj h
  exact ⟨hname, huid, rfl⟩

/-- The reference to a job holds the unique id of it. -/
theorem uid_controllerReference? {owner : OwnerReference} (h : g.controllerReference? = some owner) :
    g.metadata.uid = some owner.uid :=
  (parts_of_controllerReference? h).2.1

end Goop

namespace WorkloadSpec

section plan

variable {g : Goop} {settings : Settings}

/-- What is run for a job is the image and the command that it should have. -/
theorem image_of_plan {d : WorkloadSpec} (h : plan g settings = .ok d) :
    imageFor? g settings = some d.image ∧ d.command = commandFor g settings := by
  cases planned_of_plan h with
  | planned _ himage _ => exact ⟨himage, rfl⟩

/-- The labels are those of the name of the job and the image that is run. -/
theorem labels_of_plan {d : WorkloadSpec} (h : plan g settings = .ok d) :
    d.labels = recommendedLabels g.name d.image := by
  cases planned_of_plan h with
  | planned hkey _ _ => rw [(Goop.parts_of_key hkey).2]

/-- There is a plan for a job with a key, an image and what an owner needs. -/
theorem exists_plan_iff : (∃ d, plan g settings = .ok d) ↔
    (∃ key, g.key = .ok key) ∧ (imageFor? g settings).isSome ∧ g.controllerReference?.isSome := by
  constructor
  · rintro ⟨d, h⟩
    cases planned_of_plan h with
    | planned hkey himage howner =>
      exact ⟨⟨_, hkey⟩, Option.isSome_of_eq_some himage, Option.isSome_of_eq_some howner⟩
  · rintro ⟨⟨key, hkey⟩, himage, howner⟩
    have hplanned := planned_plan g settings
    generalize plan g settings = r at hplanned ⊢
    cases hplanned with
    | keyless hnone => cases hkey.symm.trans hnone
    | imageless _ hnone => simp [hnone] at himage
    | ownerless _ _ hnone => simp [hnone] at howner
    | planned _ _ _ => exact ⟨_, rfl⟩

/-- The plan of a job with a key fails for an image exactly where there is none. -/
theorem plan_imageless_iff (hkey : ∃ key, g.key = .ok key) :
    plan g settings = .error (.settings "no job image: set spec.image or GOOP_IMAGE") ↔
      imageFor? g settings = none := by
  constructor
  · intro h
    cases planned_of_plan h with
    | imageless _ hnone => exact hnone
  · intro hnone
    obtain ⟨key, hkey⟩ := hkey
    have hplanned := planned_plan g settings
    generalize plan g settings = r at hplanned ⊢
    cases hplanned with
    | keyless hnokey => cases hkey.symm.trans hnokey
    | imageless _ _ => rfl
    | ownerless _ himage _ => cases hnone.symm.trans himage
    | planned _ himage _ => cases hnone.symm.trans himage

end plan

end WorkloadSpec

end GoopOperator
