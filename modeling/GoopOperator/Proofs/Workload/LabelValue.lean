import GoopOperator.Proofs.Api.Target
import GoopOperator.Proofs.Workload.Selector

/-!
# Which labels Kubernetes takes

The name of a job and the tag of its image become labels as they are, but the rules for names and tags
are wider than those for the values of labels: they allow longer texts, and a tag may begin with an
underscore and end with any mark. So the labels of a job with a valid name and a valid tag are valid
exactly where the name is short enough for a label (`isLabelValue_name_iff`), and the tag is short enough
and begins and ends as a label does (`isLabelValue_tag_iff`). `labels_valid_iff` says all this of the
labels of the DaemonSet that is asked for.
-/

namespace GoopOperator

/-! ## The rules -/

/-- Whether a character may stand in a tag and in the value of a label. -/
def isNameChar (c : Char) : Bool := c.isAlphanum || c = '_' || c = '.' || c = '-'

/-- Whether some characters begin and end with a letter or a digit. -/
def isEnclosed (cs : List Char) : Bool :=
  cs.head?.any Char.isAlphanum && cs.getLast?.any Char.isAlphanum

/-- Whether Kubernetes takes a text for the value of a label: it is empty, or has at most 63 letters,
digits, underscores, dots and dashes, and begins and ends with a letter or a digit. -/
def isLabelValue (text : String) : Bool :=
  text = "" || (text.length ≤ 63 && text.toList.all isNameChar && isEnclosed text.toList)

/-- Whether Kubernetes takes a text for the name of an object: it has at most 253 characters, and
consists of labels of a domain name with dots between them. -/
def isObjectName (name : String) : Bool :=
  name.length ≤ 253 && (Text.pieces (· == '.') name.toList).all ObjectKey.isLabel

/-- Whether a text may be the tag of an image: it has 1 to 128 of the characters that may stand in the
value of a label, and does not begin with a dot or a dash. -/
def Image.isTag (tag : String) : Bool :=
  tag ≠ "" && tag.length ≤ 128 && tag.toList.all isNameChar &&
    tag.toList.head?.all fun c => c ≠ '.' && c ≠ '-'

/-- What a tag has to be, over and above, for the value of a label. -/
structure Image.FitsLabel (tag : String) : Prop where
  /-- It has at most 63 characters. -/
  length_le : tag.length ≤ 63
  /-- It does not begin with an underscore. -/
  first : tag.toList.head? ≠ some '_'
  /-- It ends with a letter or a digit. -/
  last : tag.toList.getLast?.any Char.isAlphanum = true

/-! ## Names -/

/-- What is first chosen is the choice. -/
theorem any_or_of_any {p : α → Bool} {first : Option α} (h : first.any p = true) (second : Option α) :
    (first.or second).any p = true := by
  cases first with
  | none => cases h
  | some x => exact h

/-- What begins and ends with a letter or a digit still does so with something else behind or in front
of it that does too. -/
theorem isEnclosed_append {front back : List Char} (hfront : isEnclosed front = true)
    (hback : isEnclosed back = true) (between : List Char) :
    isEnclosed (front ++ between ++ back) = true := by
  unfold isEnclosed at *
  rw [Bool.and_eq_true] at *
  constructor
  · rw [List.append_assoc, List.head?_append]
    exact any_or_of_any hfront.1 _
  · rw [List.getLast?_append]
    exact any_or_of_any hback.2 _

/-- Some pieces that begin and end so, with something between them. -/
theorem isEnclosed_intercalate (between : List Char) {ps : List (List Char)} (hsome : ps ≠ [])
    (h : ∀ p ∈ ps, isEnclosed p = true) : isEnclosed (between.intercalate ps) = true := by
  induction ps with
  | nil => exact absurd rfl hsome
  | cons p rest ih =>
    cases rest with
    | nil =>
      rw [List.intercalate_singleton]
      exact h p List.mem_cons_self
    | cons q rest =>
      rw [List.intercalate_cons_cons]
      exact isEnclosed_append (h p List.mem_cons_self)
        (ih (List.cons_ne_nil q rest) fun r hr => h r (List.mem_cons_of_mem p hr)) between

/-- A character of the label of a domain name that is no dash is a letter or a digit. -/
theorem isAlphanum_of_isLabel {cs : List Char} (h : ObjectKey.isLabel cs = true) {c : Char}
    (hc : c ∈ cs) (hdash : c ≠ '-') : c.isAlphanum = true := by
  unfold ObjectKey.isLabel at h
  rw [Bool.and_eq_true, Bool.and_eq_true, List.all_eq_true] at h
  unfold Char.isAlphanum Char.isAlpha
  rcases of_decide_eq_true (h.1.1 c hc) with hlower | hdigit | rfl
  · have hc : c.isLower = true :=
      Bool.and_eq_true_iff.mpr ⟨decide_eq_true hlower.1, decide_eq_true hlower.2⟩
    rw [hc, Bool.or_true, Bool.true_or]
  · have hc : c.isDigit = true :=
      Bool.and_eq_true_iff.mpr ⟨decide_eq_true hdigit.1, decide_eq_true hdigit.2⟩
    rw [hc, Bool.or_true]
  · exact absurd rfl hdash

/-- The label of a domain name begins and ends with a letter or a digit. -/
theorem isEnclosed_of_isLabel {cs : List Char} (h : ObjectKey.isLabel cs = true) :
    isEnclosed cs = true := by
  have hparts := h
  unfold ObjectKey.isLabel at hparts
  rw [Bool.and_eq_true, Bool.and_eq_true, Option.any_eq_true, Option.any_eq_true] at hparts
  obtain ⟨⟨-, first, hfirst, hnodash⟩, last, hlast, hnodash'⟩ := hparts
  unfold isEnclosed
  rw [hfirst, hlast, Bool.and_eq_true]
  exact ⟨isAlphanum_of_isLabel h (List.mem_of_mem_head? hfirst) (of_decide_eq_true hnodash),
    isAlphanum_of_isLabel h (List.mem_of_mem_getLast? hlast) (of_decide_eq_true hnodash')⟩

/-- The name of an object has the characters of a label, and begins and ends as one. -/
theorem isEnclosed_of_isObjectName {name : String} (h : isObjectName name = true) :
    name.toList.all isNameChar = true ∧ isEnclosed name.toList = true := by
  unfold isObjectName at h
  rw [Bool.and_eq_true, List.all_eq_true] at h
  constructor
  · refine List.all_eq_true.mpr fun c hc => ?_
    unfold isNameChar
    rcases Text.sep_or_mem_pieces (· == '.') hc with hdot | ⟨p, hp, hcp⟩
    · obtain rfl := eq_of_beq hdot
      rfl
    · by_cases hdash : c = '-'
      · rw [hdash]
        rfl
      · rw [isAlphanum_of_isLabel (h.2 p hp) hcp hdash]
        rfl
  · have hjoined : ['.'].intercalate (Text.pieces (· == '.') name.toList) = name.toList := by
      rw [Text.pieces_eq_splitOnP]
      exact List.intercalate_splitOn '.'
    have hsome : Text.pieces (· == '.') name.toList ≠ [] := by
      rw [Text.pieces_eq_splitOnP]
      exact List.splitOnP_ne_nil _ _
    rw [← hjoined]
    exact isEnclosed_intercalate ['.'] hsome fun p hp => isEnclosed_of_isLabel (h.2 p hp)

/-- The name of an object is the value of a label if it is not too long for it. -/
theorem isLabelValue_name_iff {name : String} (h : isObjectName name = true) :
    isLabelValue name = true ↔ name.length ≤ 63 := by
  obtain ⟨hchars, henclosed⟩ := isEnclosed_of_isObjectName h
  have hsome : name ≠ "" := by
    rintro rfl
    cases henclosed
  unfold isLabelValue
  rw [hchars, henclosed, Bool.and_true, Bool.and_true, decide_eq_false hsome, Bool.false_or]
  exact decide_eq_true_iff

/-! ## Tags -/

/-- What is known of a tag: it is not empty, has the characters of a label, and begins with a letter or a
digit unless it begins with an underscore. -/
theorem Image.parts_of_isTag {tag : String} (h : isTag tag = true) :
    ∃ c cs, tag.toList = c :: cs ∧ tag.toList.all isNameChar = true ∧
      (c.isAlphanum = true ↔ c ≠ '_') := by
  unfold isTag at h
  rw [Bool.and_eq_true, Bool.and_eq_true, Bool.and_eq_true] at h
  obtain ⟨⟨⟨hsome, -⟩, hchars⟩, hbegins⟩ := h
  obtain ⟨c, cs, hcs⟩ := Text.exists_toList_eq_cons (of_decide_eq_true hsome)
  refine ⟨c, cs, hcs, hchars, ?_, fun hunderscore => ?_⟩
  · rintro hc rfl
    cases hc
  · have hc : isNameChar c = true := List.all_eq_true.mp hchars c (hcs ▸ List.mem_cons_self)
    rw [hcs] at hbegins
    simp only [isNameChar, List.head?_cons, Option.all_some, Bool.or_eq_true, Bool.and_eq_true,
      decide_eq_true_eq] at hc hbegins
    -- a tag does not begin with a dot or a dash, and here not with an underscore either
    rcases hc with ((hc | hc) | hc) | hc
    · exact hc
    · exact absurd hc hunderscore
    · exact absurd hc hbegins.1
    · exact absurd hc hbegins.2

/-- A tag is the value of a label if it is not too long for it, and begins and ends as one. -/
theorem isLabelValue_tag_iff {tag : String} (h : Image.isTag tag = true) :
    isLabelValue tag = true ↔ Image.FitsLabel tag := by
  obtain ⟨c, cs, hcs, hchars, hfirst⟩ := Image.parts_of_isTag h
  have hhead : tag.toList.head? = some c := by
    rw [hcs]
    rfl
  have hsome : tag ≠ "" := by
    rintro rfl
    cases hcs
  unfold isLabelValue isEnclosed
  rw [hchars, Bool.and_true, decide_eq_false hsome, Bool.false_or, Bool.and_eq_true,
    Bool.and_eq_true, decide_eq_true_iff, hhead, Option.any_some, hfirst]
  constructor
  · rintro ⟨hlength, hc, hlast⟩
    exact ⟨hlength, fun hunderscore => hc (Option.some.inj (hhead.symm.trans hunderscore)), hlast⟩
  · rintro ⟨hlength, hnot, hlast⟩
    exact ⟨hlength, fun hunderscore => hnot (hunderscore ▸ hhead), hlast⟩

/-! ## Labels -/

/-- All values of some labels are valid. -/
def StringMap.AreLabels (labels : StringMap String) : Prop :=
  ∀ e ∈ labels.entries, isLabelValue e.2 = true

/-- The values of labels are what is found in them. -/
theorem StringMap.areLabels_iff {labels : StringMap String} :
    labels.AreLabels ↔
      ∀ key value, labels.get? key = some value → isLabelValue value = true := by
  constructor
  · intro h key value hvalue
    exact h (key, value) (get?_eq_some_iff.mp hvalue)
  · intro h e he
    exact h e.1 e.2 (get?_eq_some_iff.mpr he)

/-- The labels of a name and an image are valid where the name and the tag of the image are. -/
theorem areLabels_recommended_iff (name image : String) :
    (recommendedLabels name image).AreLabels ↔
      isLabelValue name = true ∧ ∀ tag, Image.tag? image = some tag → isLabelValue tag = true := by
  rw [StringMap.areLabels_iff]
  constructor
  · intro h
    refine ⟨h instanceLabel name (get?_instanceLabel name image), fun tag htag => ?_⟩
    have hversion := get?_recommendedLabels name image versionLabel
    rw [if_pos rfl, htag] at hversion
    exact h versionLabel tag hversion
  · rintro ⟨hname, htag⟩ key value hvalue
    rw [get?_recommendedLabels] at hvalue
    split at hvalue
    · exact htag value hvalue
    · -- three of the lasting labels are fixed, and one is the name
      have hmem : value ∈ (lastingLabels name).map (·.2) := by
        obtain ⟨front, back, hsplit, -⟩ := List.lookup_eq_some_iff.mp hvalue
        rw [hsplit]
        simp
      simp only [lastingLabels, List.map_cons, List.map_nil, List.mem_cons, List.not_mem_nil,
        or_false] at hmem
      rcases hmem with rfl | rfl | rfl | rfl
      · decide
      · exact hname
      · decide
      · decide

/-- The labels that a DaemonSet is sent with: its own, those of its selector and those of its pods. -/
def DaemonSet.labelMaps (set : DaemonSet) : List (StringMap String) :=
  set.metadata.labels.toList ++ [set.selector, set.podLabels]

section plan

variable {g : Goop} {settings : Settings} {d : WorkloadSpec}

/-- What is planned for a job, and the DaemonSet of it, have the labels of the name and the image. -/
theorem labelMaps_of_plan (h : WorkloadSpec.plan g settings = .ok d) (pauseImage : String) :
    ∀ labels ∈ d.labels :: (DaemonSet.ofWorkload d pauseImage).labelMaps,
      labels = recommendedLabels g.name d.image := by
  have hlabels : d.labels = recommendedLabels g.name d.image := WorkloadSpec.labels_of_plan h
  intro labels hmem
  have hsame : labels = d.labels := by
    simpa [DaemonSet.labelMaps, DaemonSet.ofWorkload] using hmem
  rw [hsame, hlabels]

/-- The labels that are planned for a job, and those of the DaemonSet that is asked for, its selector and
its pods, have the name of the job and the tag of its image in them as they are. Where the name is valid,
and so is the tag, if there is one, these labels are valid exactly where the name has at most 63
characters and the tag fits a label. -/
theorem labels_valid_iff (h : WorkloadSpec.plan g settings = .ok d)
    (hname : isObjectName g.name = true) {r : Image.Reference} (himage : d.image = r.toText)
    (htag : ∀ tag ∈ r.tag, Image.isTag tag = true) (pauseImage : String) :
    ∀ labels ∈ d.labels :: (DaemonSet.ofWorkload d pauseImage).labelMaps,
      labels.get? instanceLabel = some g.name ∧ labels.get? versionLabel = r.tag ∧
        (labels.AreLabels ↔ g.name.length ≤ 63 ∧ ∀ tag ∈ r.tag, Image.FitsLabel tag) := by
  intro labels hmem
  have hfound : Image.tag? d.image = r.tag := by rw [himage, r.tag?_toText]
  rw [labelMaps_of_plan h pauseImage labels hmem]
  refine ⟨get?_instanceLabel g.name d.image, ?_, ?_⟩
  · rw [get?_recommendedLabels, if_pos rfl, hfound]
  · rw [areLabels_recommended_iff, isLabelValue_name_iff hname, hfound]
    exact and_congr_right' (forall₂_congr fun tag hmem => isLabelValue_tag_iff (htag tag hmem))

end plan

/-! ### Samples -/

namespace Image.Reference

/-- An image of a registry with a port, with a tag and a digest. -/
def pinned : Reference where
  segments := ["host:5000"]
  repository := "alpine"
  tag := some "3.20"
  digest := some "sha256:ab"
  segments_plain := by decide
  repository_plain := by decide
  tag_nonempty := by decide
  tag_plain := by decide

/-- An image whose tag ends with a dash. -/
def dashed : Reference where
  segments := []
  repository := "alpine"
  tag := some "3.20-"
  digest := none
  segments_plain := by decide
  repository_plain := by decide
  tag_nonempty := by decide
  tag_plain := by decide

end Image.Reference

/-- A short name and a plain tag make valid labels. -/
theorem sample_labels_valid :
    ∃ d, WorkloadSpec.plan (.ofImage "nightly" "host:5000/alpine:3.20@sha256:ab") .default = .ok d ∧
      d.labels.get? instanceLabel = some "nightly" ∧ d.labels.get? versionLabel = some "3.20" ∧
      d.labels.AreLabels ∧
      (DaemonSet.ofWorkload d defaultPauseImage).selector.AreLabels := by
  obtain ⟨d, hd⟩ : ∃ d, WorkloadSpec.plan
      (.ofImage "nightly" "host:5000/alpine:3.20@sha256:ab") .default = .ok d := ⟨_, rfl⟩
  have himage : d.image = Image.Reference.pinned.toText := by
    obtain rfl := Except.ok.inj hd
    decide
  have hname : isObjectName (Goop.ofImage "nightly" "host:5000/alpine:3.20@sha256:ab").name = true := by
    decide
  have hfits : ∀ tag ∈ Image.Reference.pinned.tag, Image.FitsLabel tag := by
    rintro tag ⟨⟩
    exact ⟨by decide, by decide, by decide⟩
  have hvalid := labels_valid_iff hd hname himage (by decide) defaultPauseImage
  obtain ⟨hinstance, hversion, hplanned⟩ := hvalid d.labels List.mem_cons_self
  obtain ⟨-, -, hselector⟩ := hvalid (DaemonSet.ofWorkload d defaultPauseImage).selector
    (by simp [DaemonSet.labelMaps])
  exact ⟨d, hd, hinstance, hversion, hplanned.mpr ⟨by decide, hfits⟩,
    hselector.mpr ⟨by decide, hfits⟩⟩

/-- A name of 64 characters. -/
def longName : String := String.ofList (List.replicate 64 'a')

/-- A valid name that is too long for a label, and a valid tag that ends with a dash, make labels that
are not valid. -/
theorem labels_not_valid :
    (∃ d, WorkloadSpec.plan (.ofImage longName "host:5000/alpine:3.20@sha256:ab") .default = .ok d ∧
        isObjectName longName = true ∧ d.image = Image.Reference.pinned.toText ∧
        (∀ tag ∈ Image.Reference.pinned.tag, Image.isTag tag = true) ∧ ¬ d.labels.AreLabels) ∧
      ∃ d, WorkloadSpec.plan (.ofImage "nightly" "alpine:3.20-") .default = .ok d ∧
        isObjectName "nightly" = true ∧ d.image = Image.Reference.dashed.toText ∧
        (∀ tag ∈ Image.Reference.dashed.tag, Image.isTag tag = true) ∧ ¬ d.labels.AreLabels := by
  constructor
  · refine ⟨_, rfl, by decide, by decide, by decide, fun h => ?_⟩
    exact absurd ((areLabels_recommended_iff _ _).mp h).1 (by decide)
  · refine ⟨_, rfl, by decide, by decide, by decide, fun h => ?_⟩
    exact absurd (((areLabels_recommended_iff _ _).mp h).2 "3.20-" (by decide)) (by decide)

end GoopOperator
