import GoopOperator.Api.Request
import GoopOperator.Proofs.Text.Pieces

/-!
# The targets of valid keys

The names of Kubernetes objects consist of characters that may stand in a path, and are short. So the
request of every call about an object with a valid key is sent to the target that it has
(`sendTarget_ofCall`).
-/

namespace GoopOperator

/-! ## Valid keys -/

namespace ObjectKey

/-- Whether a text is a DNS label, but for its length: it is made of lower-case letters, digits and
`-`, and begins and ends with a letter or a digit. -/
def isLabel (cs : List Char) : Bool :=
  cs.all (fun c => ('a' ≤ c ∧ c ≤ 'z') ∨ ('0' ≤ c ∧ c ≤ '9') ∨ c = '-') &&
    cs.head?.any (· ≠ '-') && cs.getLast?.any (· ≠ '-')

/-- Whether Kubernetes takes a key: the namespace is a DNS label, and the name consists of such labels
with dots between them. -/
def isValid (k : ObjectKey) : Bool :=
  isLabel k.ns.toList && k.ns.utf8ByteSize ≤ 63 &&
    (Text.pieces (· == '.') k.name.toList).all isLabel && k.name.utf8ByteSize ≤ 253

example : isValid ⟨"jobs", "nightly-2.report"⟩ = true := by decide

example : isValid ⟨"jobs", "Nightly"⟩ = false := by decide

end ObjectKey

namespace Api

/-- Letters, digits and some marks may stand in a path. -/
theorem inPath_of_range {c : Char}
    (h : (0x24 ≤ c.toNat ∧ c.toNat ≤ 0x3B) ∨ (0x61 ≤ c.toNat ∧ c.toNat ≤ 0x7A)) :
    inPath c = true := by
  have hmarks : c ≠ '?' ∧ c ≠ '\x60' := by
    constructor <;>
    · rintro rfl
      revert h
      decide
  have hquery : inQuery c = true := by
    unfold inQuery
    rcases h with h | h
    · simp [h]
    · simp [Nat.le_trans (by decide : 0x3F ≤ 0x61) h.1]
  simp [inPath, hquery, hmarks]

/-- The characters of a label may stand in a path. -/
theorem inPath_of_isLabel {cs : List Char} (h : ObjectKey.isLabel cs = true) {c : Char}
    (hc : c ∈ cs) : inPath c = true := by
  unfold ObjectKey.isLabel at h
  rw [Bool.and_eq_true, Bool.and_eq_true, List.all_eq_true] at h
  rcases of_decide_eq_true (h.1.1 c hc) with hlower | hdigit | rfl
  · have hlow : 0x61 ≤ c.toNat := hlower.1
    have hhigh : c.toNat ≤ 0x7A := hlower.2
    exact inPath_of_range (.inr ⟨hlow, hhigh⟩)
  · have hlow : 0x30 ≤ c.toNat := hdigit.1
    have hhigh : c.toNat ≤ 0x39 := hdigit.2
    exact inPath_of_range (.inl ⟨by omega, by omega⟩)
  · rfl

/-- A character that may stand in a path is sent as it is. -/
theorem sendPath_cons {c : Char} (hc : inPath c = true) (rest : List Char) :
    sendPath (c :: rest) = (sendPath rest).map (c :: ·) := by
  have hhash : c ≠ '#' := by
    rintro rfl
    cases hc
  have hmark : c ≠ '?' := by
    rintro rfl
    cases hc
  rw [sendPath, if_pos hc]
  · exact hhash
  · exact hmark

/-- Characters that may stand in a path are sent as they are. -/
theorem sendPath_append {cs : List Char} (h : ∀ c ∈ cs, inPath c = true) (rest : List Char) :
    sendPath (cs ++ rest) = (sendPath rest).map (cs ++ ·) := by
  induction cs with
  | nil => exact (Except.map_id).symm ▸ rfl
  | cons c cs ih =>
    have hrest := ih fun d hd => h d (List.mem_cons_of_mem _ hd)
    rw [List.cons_append, sendPath_cons (h c List.mem_cons_self), hrest]
    cases sendPath rest <;> rfl

/-- A text of no more than `n` bytes, all of whose characters may stand in a path. -/
structure IsPath (n : Nat) (text : String) : Prop where
  /-- The characters. -/
  chars : text.toList.all inPath = true
  /-- The size. -/
  size : text.utf8ByteSize ≤ n

/-- Two such texts, one after the other. -/
theorem IsPath.append {m n : Nat} {s t : String} (hs : IsPath m s) (ht : IsPath n t) :
    IsPath (m + n) (s ++ t) := by
  constructor
  · rw [String.toList_append, List.all_append, hs.chars, ht.chars]
    rfl
  · rw [String.utf8ByteSize_append]
    exact Nat.add_le_add hs.size ht.size

/-- A path that is not too long is sent as it is, with an empty query or none. -/
theorem IsPath.sent {n : Nat} {path : String} (h : IsPath n path) (hn : n < maxTargetBytes) :
    sendTarget path = .ok path ∧ sendTarget (path ++ "?") = .ok (path ++ "?") := by
  have hsize : path.utf8ByteSize < maxTargetBytes := Nat.lt_of_le_of_lt h.size hn
  have hsize' : (path ++ "?").utf8ByteSize ≤ maxTargetBytes := by
    rw [String.utf8ByteSize_append]
    exact hsize
  have hchars := List.all_eq_true.mp h.chars
  unfold sendTarget
  rw [if_neg (Nat.not_lt.mpr (Nat.le_of_lt hsize)), if_neg (Nat.not_lt.mpr hsize')]
  constructor
  · have hsent := sendPath_append hchars []
    rw [List.append_nil] at hsent
    rw [hsent]
    simp [sendPath, Except.map]
  · rw [String.toList_append, sendPath_append hchars]
    simp [sendPath, sendQuery, Except.map]

/-! ## The targets of calls -/

section targets

variable {key : ObjectKey}

/-- The namespace of a valid key may stand in a path. -/
theorem isPath_ns (hkey : key.isValid = true) : IsPath 63 key.ns := by
  simp only [ObjectKey.isValid, Bool.and_eq_true, decide_eq_true_eq] at hkey
  exact ⟨List.all_eq_true.mpr fun c => inPath_of_isLabel hkey.1.1.1, hkey.1.1.2⟩

/-- So may its name. -/
theorem isPath_name (hkey : key.isValid = true) : IsPath 253 key.name := by
  simp only [ObjectKey.isValid, Bool.and_eq_true, List.all_eq_true, decide_eq_true_eq] at hkey
  refine ⟨List.all_eq_true.mpr fun c hc => ?_, hkey.2⟩
  rcases Text.sep_or_mem_pieces (· == '.') hc with hdot | ⟨p, hp, hcp⟩
  · obtain rfl := eq_of_beq hdot
    rfl
  · exact inPath_of_isLabel (hkey.1.2 p hp) hcp

/-- The path of the objects of a kind in the namespace of a valid key. -/
theorem isPath_namespaced (hkey : key.isValid = true) {version plural : String}
    (hversion : IsPath 31 version) (hplural : IsPath 11 plural) :
    IsPath 123 ("/apis/" ++ version ++ ("/namespaces/" ++ key.ns) ++ plural) := by
  have hroot : IsPath 6 "/apis/" := ⟨by decide, by decide⟩
  have hspaces : IsPath 12 "/namespaces/" := ⟨by decide, by decide⟩
  exact ((hroot.append hversion).append (hspaces.append (isPath_ns hkey))).append hplural

/-- The path of the jobs there. -/
theorem isPath_goopsPath (hkey : key.isValid = true) : IsPath 123 (goopsPath (some key.ns)) :=
  isPath_namespaced hkey ⟨by decide, by decide⟩ ⟨by decide, by decide⟩

/-- The path of the DaemonSets there. -/
theorem isPath_daemonSetsPath (hkey : key.isValid = true) :
    IsPath 123 (daemonSetsPath (some key.ns)) :=
  isPath_namespaced hkey ⟨by decide, by decide⟩ ⟨by decide, by decide⟩

/-- The path of the object of a valid key. -/
theorem isPath_pathOf (hkey : key.isValid = true) (kind : ObjectKind) :
    IsPath 377 (pathOf kind key) := by
  have hslash : IsPath 1 "/" := ⟨by decide, by decide⟩
  cases kind with
  | goop => exact ((isPath_goopsPath hkey).append hslash).append (isPath_name hkey)
  | daemonSet => exact ((isPath_daemonSetsPath hkey).append hslash).append (isPath_name hkey)

/-- The request of a call about the object of a valid key is sent to the target that it has. -/
theorem sendTarget_ofCall (hkey : key.isValid = true) (pauseImage : String) (c : StoreCall) :
    sendTarget (Request.ofCall pauseImage key c).target =
      .ok (Request.ofCall pauseImage key c).target := by
  have hstatus : IsPath 7 "/status" := ⟨by decide, by decide⟩
  cases c with
  | get key' => exact ((isPath_pathOf hkey .goop).sent (by decide)).1
  | update g => exact ((isPath_pathOf hkey .goop).sent (by decide)).2
  | updateStatus g =>
    have hsent := (((isPath_pathOf hkey .goop).append hstatus).sent (by decide)).2
    rwa [String.append_assoc] at hsent
  | getWorkload key' => exact ((isPath_pathOf hkey .daemonSet).sent (by decide)).1
  | createWorkload d => exact ((isPath_daemonSetsPath hkey).sent (by decide)).2

end targets

end Api

end GoopOperator
