import GoopOperator.Proofs.Text.Pieces
import GoopOperator.Workload.Plan

/-!
# Image tags and the labels of a workload

The colon, the slash and the at sign of an image reference mean different things in different places:
a colon may stand before a port, before the tag or inside the digest. `Image.Reference` takes a
reference apart into what it is made of, and `tag?_toText` says that the tag is found in whatever is
put together so. The tag becomes the version label of the workload; the other labels do not look at
the image (`get?_recommendedLabels`).
-/

namespace GoopOperator

/-! ## Image references -/

namespace Image

/-- The parts of an image reference. -/
structure Reference where
  /-- What stands before the name of the repository, such as a host with its port. -/
  segments : List String
  /-- The name of the repository. -/
  repository : String
  /-- The tag, if there is one. -/
  tag : Option String
  /-- The digest, if there is one. -/
  digest : Option String
  /-- The digest begins at the first at sign. -/
  segments_plain : ∀ s ∈ segments, '@' ∉ s.toList
  /-- The repository is the last segment, without a tag. -/
  repository_plain : '/' ∉ repository.toList ∧ ':' ∉ repository.toList ∧ '@' ∉ repository.toList
  /-- A tag is not empty. -/
  tag_nonempty : tag ≠ some ""
  /-- It begins no other segment and no digest; it may hold colons. -/
  tag_plain : ∀ t ∈ tag, '/' ∉ t.toList ∧ '@' ∉ t.toList

namespace Reference

/-- The characters of a part behind its mark, if there is such a part. -/
def marked (mark : Char) (part : Option String) : List Char :=
  part.elim [] fun text => mark :: text.toList

/-- The characters of the segments, each with a slash behind it. -/
def path (r : Reference) : List Char := r.segments.flatMap fun s => s.toList ++ ['/']

/-- The characters of the repository and the tag. -/
def named (r : Reference) : List Char := r.repository.toList ++ marked ':' r.tag

/-- The reference as a text. -/
def toText (r : Reference) : String := String.ofList (r.path ++ r.named ++ marked '@' r.digest)

variable (r : Reference)

/-- A mark other than the colon is not in a repository with its tag if it is in neither of them. -/
theorem not_mem_named {mark : Char} (hrepository : mark ∉ r.repository.toList) (hcolon : mark ≠ ':')
    (htag : ∀ t ∈ r.tag, mark ∉ t.toList) : mark ∉ r.named := by
  unfold named
  rw [List.mem_append, not_or]
  refine ⟨hrepository, ?_⟩
  cases h : r.tag with
  | none => exact List.not_mem_nil
  | some t => exact List.not_mem_cons_of_ne_of_not_mem hcolon (htag t h)

/-- Behind the segments there is no slash before the digest. -/
theorem slash_not_mem_named : '/' ∉ r.named :=
  r.not_mem_named r.repository_plain.1 (by decide) fun t ht => (r.tag_plain t ht).1

/-- There is no at sign before the digest. -/
theorem at_not_mem : '@' ∉ r.path ++ r.named := by
  rw [List.mem_append, not_or]
  refine ⟨fun hat => ?_,
    r.not_mem_named r.repository_plain.2.2 (by decide) fun t ht => (r.tag_plain t ht).2⟩
  obtain ⟨s, hs, hsegment⟩ := List.mem_flatMap.mp hat
  rcases List.mem_append.mp hsegment with hsegment | hslash
  · exact r.segments_plain s hs hsegment
  · exact absurd (List.mem_singleton.mp hslash) (by decide)

/-- Up to the first at sign the reference is all but its digest. -/
theorem takeWhile_toText : r.toText.toList.takeWhile (· ≠ '@') = r.path ++ r.named := by
  have hplain : ∀ c ∈ r.path ++ r.named, decide (c ≠ '@') = true := fun c hc =>
    decide_eq_true fun h => r.at_not_mem (h ▸ hc)
  rw [toText, String.toList_ofList, List.takeWhile_append_of_pos hplain]
  cases r.digest with
  | none => simp [marked]
  | some d => simp [marked]

/-- The last segment of the path is the repository with its tag. -/
theorem lastSegment_toText : lastSegment r.toText.toList = r.named := by
  have hlast : ∀ c ∈ r.named, (c == '/') = false := fun c hc =>
    beq_false_of_ne fun h => r.slash_not_mem_named (h ▸ hc)
  unfold lastSegment
  rw [takeWhile_toText]
  -- the slash behind the last segment is the last one, whatever the segments are
  rcases List.eq_nil_or_concat r.segments with hnone | ⟨front, last, hsegments⟩
  · have hpath : r.path = [] := by
      rw [path, hnone]
      rfl
    rw [hpath, List.nil_append, Text.pieces_eq_singleton hlast]
    rfl
  · have hpath : r.path ++ r.named =
        (front.flatMap fun s => s.toList ++ ['/']) ++ last.toList ++ '/' :: r.named := by
      simp [path, hsegments]
    rw [hpath]
    exact Text.getLastD_pieces (by simp) _ hlast

/-- In the last segment the tag stands behind the first colon. -/
theorem dropWhile_named : r.named.dropWhile (· ≠ ':') = marked ':' r.tag := by
  have hplain : ∀ c ∈ r.repository.toList, decide (c ≠ ':') = true := fun c hc =>
    decide_eq_true fun h => r.repository_plain.2.1 (h ▸ hc)
  rw [named, List.dropWhile_append_of_pos hplain]
  cases r.tag with
  | none => rfl
  | some t => simp [marked]

/-- The tag of a reference is found, and none where there is none. -/
theorem tag?_toText : tag? r.toText = r.tag := by
  unfold tag?
  rw [lastSegment_toText, dropWhile_named]
  cases htag : r.tag with
  | none => rfl
  | some t =>
    have hsome : t ≠ "" := fun h => r.tag_nonempty (h ▸ htag)
    obtain ⟨c, cs, hcs⟩ := Text.exists_toList_eq_cons hsome
    simp only [marked, Option.elim_some, hcs]
    rw [← hcs, String.ofList_toList]

end Reference

end Image

/-! ## Labels -/

/-- The map of some entries with different keys finds what stands in them. -/
theorem StringMap.get?_ofList {entries : List (String × α)} (h : (entries.map (·.1)).Nodup)
    (key : String) : (ofList entries).get? key = entries.lookup key := by
  have hfold : ∀ (rest : List (String × α)) (m : StringMap α), (rest.map (·.1)).Nodup →
      (rest.foldl (fun m e => m.insert e.1 e.2) m).get? key = (rest.lookup key <|> m.get? key) := by
    intro rest
    induction rest with
    | nil => exact fun m _ => rfl
    | cons e rest ih =>
      intro m hrest
      obtain ⟨hnew, hnodup⟩ := List.nodup_cons.mp hrest
      rw [List.foldl_cons, ih _ hnodup, List.lookup_cons]
      by_cases hkey : key = e.1
      · -- the entries behind do not have the key
        have hnone : rest.lookup key = none := by
          rw [List.lookup_eq_none_iff]
          rintro d hd
          rw [bne_iff_ne, hkey]
          exact fun hsame => hnew (List.mem_map.mpr ⟨d, hd, hsame.symm⟩)
        rw [hnone, hkey, get?_insert_self, beq_self_eq_true]
        rfl
      · rw [get?_insert_of_ne m hkey, beq_false_of_ne hkey]
  rw [ofList, hfold entries empty h, get?_empty]
  cases entries.lookup key <;> rfl

/-- Among entries in the order of their keys, a key finds the one that it stands in. -/
theorem lookup_eq_some_iff {entries : List (String × α)} (h : Ascending entries) {key : String}
    {value : α} : entries.lookup key = some value ↔ (key, value) ∈ entries := by
  induction entries with
  | nil => simp
  | cons e rest ih =>
    obtain ⟨hfirst, hrest⟩ := List.pairwise_cons.mp h
    rw [List.lookup_cons, List.mem_cons]
    by_cases hkey : key = e.1
    · -- the keys behind are greater, so none of them is this one
      have hnew : (key, value) ∉ rest := fun hmem =>
        absurd (hfirst (key, value) hmem) (hkey ▸ String.lt_irrefl e.1)
      rw [hkey, beq_self_eq_true, Option.some.injEq, or_iff_left (hkey ▸ hnew), Prod.ext_iff]
      exact ⟨fun hvalue => ⟨rfl, hvalue.symm⟩, fun hsame => hsame.2.symm⟩
    · have hother : (key, value) ≠ e := fun hsame => hkey (congrArg Prod.fst hsame)
      rw [beq_false_of_ne hkey, or_iff_right hother]
      exact ih hrest

/-- A map finds what its entries say. -/
theorem StringMap.get?_eq_some_iff {m : StringMap α} {key : String} {value : α} :
    m.get? key = some value ↔ (key, value) ∈ m.entries :=
  lookup_eq_some_iff m.ascending

/-- The label that the tag of the image goes to. -/
def versionLabel : String := "app.kubernetes.io/version"

/-- The labels that do not look at the image. -/
def lastingLabels (name : String) : List (String × String) :=
  [("app.kubernetes.io/name", "Goop"), ("app.kubernetes.io/instance", name),
    ("app.kubernetes.io/part-of", "goop-operator"),
    ("app.kubernetes.io/created-by", "controller-manager")]

/-- The labels of a workload: the version is the tag of the image, and the others are the lasting ones. -/
theorem get?_recommendedLabels (name image key : String) :
    (recommendedLabels name image).get? key =
      if key = versionLabel then Image.tag? image else (lastingLabels name).lookup key := by
  have hkeys : (lastingLabels name).map (·.1) = ["app.kubernetes.io/name",
      "app.kubernetes.io/instance", "app.kubernetes.io/part-of", "app.kubernetes.io/created-by"] := rfl
  have hlasting : (StringMap.ofList (lastingLabels name)).get? key = (lastingLabels name).lookup key :=
    StringMap.get?_ofList (hkeys ▸ by decide) key
  unfold recommendedLabels
  by_cases hkey : key = versionLabel
  · subst hkey
    rw [if_pos rfl]
    cases Image.tag? image with
    | none => exact hlasting
    | some tag => exact StringMap.get?_insert_self _ versionLabel tag
  · rw [if_neg hkey, ← hlasting]
    cases Image.tag? image with
    | none => rfl
    | some tag => exact StringMap.get?_insert_of_ne _ hkey tag

/-- The tag of an image reference is found wherever colons, slashes and at signs stand in its other
parts, and none is found where it has none. The version label is there exactly where a tag is found,
and is the tag; the other labels are the same four for every image. -/
theorem tags_are_recovered (r : Image.Reference) (name : String) :
    Image.tag? r.toText = r.tag ∧
      (recommendedLabels name r.toText).get? versionLabel = r.tag ∧
      ∀ image key, (recommendedLabels name image).get? key =
        if key = versionLabel then Image.tag? image else (lastingLabels name).lookup key := by
  refine ⟨r.tag?_toText, ?_, get?_recommendedLabels name⟩
  rw [get?_recommendedLabels, if_pos rfl]
  exact r.tag?_toText

namespace Image

/-- A reference in which each mark stands in more than one place. -/
def Reference.intricate : Reference where
  segments := ["host:5000", "tools"]
  repository := "busybox"
  tag := some "1.36:musl"
  digest := some "sha256:ab/c@d"
  segments_plain := by decide
  repository_plain := by decide
  tag_nonempty := by decide
  tag_plain := by decide

end Image

/-- Its tag is found, and becomes the version of a workload. -/
theorem sample_tag_recovered :
    Image.Reference.intricate.toText = "host:5000/tools/busybox:1.36:musl@sha256:ab/c@d" ∧
      Image.tag? "host:5000/tools/busybox:1.36:musl@sha256:ab/c@d" = some "1.36:musl" ∧
      (recommendedLabels "nightly" "host:5000/tools/busybox:1.36:musl@sha256:ab/c@d").get?
        versionLabel = some "1.36:musl" := by
  have htext : Image.Reference.intricate.toText =
      "host:5000/tools/busybox:1.36:musl@sha256:ab/c@d" := by decide
  obtain ⟨htag, hversion, -⟩ := tags_are_recovered Image.Reference.intricate "nightly"
  rw [htext] at htag hversion
  exact ⟨htext, htag, hversion⟩

end GoopOperator
