import GoopOperator.ObjectKey
import GoopOperator.Proofs.Text.Pieces
import Mathlib.Data.Set.Function

/-!
# Reading and writing keys

A key is written with one slash between its namespace and its name, so it can be read back where
neither of these is empty or holds a slash itself (`ObjectKey.IsPlain`). Reading accepts exactly the
texts that such keys are written as (`ofText_eq_ok_iff`); seen from the text, these hold one slash,
and it is neither their first nor their last character (`divided_iff`).
-/

namespace GoopOperator

namespace ObjectKey

/-- A part of a key that leaves no doubt where it ends: it is not empty, and holds no slash. -/
structure IsPlainPart (part : String) : Prop where
  /-- It is not empty. -/
  nonempty : part ≠ ""
  /-- It holds no slash. -/
  solid : '/' ∉ part.toList

/-- Neither part of a key leaves a doubt where it ends. -/
structure IsPlain (k : ObjectKey) : Prop where
  /-- The namespace. -/
  ns : IsPlainPart k.ns
  /-- The name. -/
  name : IsPlainPart k.name

/-- A text has one slash, which is neither its first nor its last character. -/
structure IsDivided (text : String) : Prop where
  /-- There is one slash. -/
  one : text.toList.count '/' = 1
  /-- It is not the first character. -/
  first : text.toList.head? ≠ some '/'
  /-- It is not the last character. -/
  last : text.toList.getLast? ≠ some '/'

section reading

variable {text : String} {k : ObjectKey}

/-- A key is written as its namespace, a slash and its name. -/
theorem toList_toText (k : ObjectKey) : k.toText.toList = k.ns.toList ++ '/' :: k.name.toList := by
  simp [toText]

/-- Where the parts of a key hold no slash, they are the pieces of what it is written as. -/
theorem pieces_toText (hns : '/' ∉ k.ns.toList) (hname : '/' ∉ k.name.toList) :
    Text.pieces (· == '/') k.toText.toList = [k.ns.toList, k.name.toList] :=
  Text.pieces_eq_pair_iff.mpr ⟨toList_toText k, hns, hname⟩

/-- The characters of a plain part are some, and none of them is a slash. -/
theorem IsPlainPart.of_chars {c : Char} {cs : List Char} (h : '/' ∉ c :: cs) :
    IsPlainPart (String.ofList (c :: cs)) := by
  refine ⟨fun he => ?_, by rwa [String.toList_ofList]⟩
  have hchars := congrArg String.toList he
  rw [String.toList_ofList] at hchars
  cases hchars

/-- A plain part has a first character. -/
theorem IsPlainPart.exists_chars {part : String} (h : IsPlainPart part) :
    ∃ c cs, part.toList = c :: cs ∧ part = String.ofList (c :: cs) := by
  obtain ⟨c, cs, hchars⟩ := Text.exists_toList_eq_cons h.nonempty
  exact ⟨c, cs, hchars, by rw [← hchars, String.ofList_toList]⟩

/-- Exactly the plain keys are read, each from the text that it is written as. -/
theorem ofText_eq_ok_iff : ofText text = .ok k ↔ k.IsPlain ∧ text = k.toText := by
  constructor
  · intro h
    unfold ofText at h
    split at h
    · rename_i c ns d name hpieces
      obtain rfl := Except.ok.inj h
      obtain ⟨hchars, hns, hname⟩ := Text.pieces_eq_pair_iff.mp hpieces
      refine ⟨⟨.of_chars hns, .of_chars hname⟩, String.toList_inj.mp ?_⟩
      rw [hchars, toList_toText, String.toList_ofList, String.toList_ofList]
    · cases h
  · rintro ⟨hplain, rfl⟩
    obtain ⟨c, ns, hns, hnstext⟩ := hplain.ns.exists_chars
    obtain ⟨d, name, hname, hnametext⟩ := hplain.name.exists_chars
    have hpieces := pieces_toText hplain.ns.solid hplain.name.solid
    have hparts : (⟨String.ofList (c :: ns), String.ofList (d :: name)⟩ : ObjectKey) = k := by
      rw [← hnstext, ← hnametext]
    unfold ofText
    rw [hpieces, hns, hname]
    exact congrArg Except.ok hparts

/-- Where no key is read, the text is what the error shows. -/
theorem ofText_cases (text : String) :
    (∃ k, ofText text = .ok k) ∨ ofText text = .error (.invalid text) := by
  unfold ofText
  split
  · exact .inl ⟨_, rfl⟩
  · exact .inr rfl

/-- The texts with one slash inside are those that plain keys are written as. -/
theorem isDivided_iff : IsDivided text ↔ ∃ k : ObjectKey, k.IsPlain ∧ text = k.toText := by
  constructor
  · rintro ⟨hone, hfirst, hlast⟩
    obtain ⟨ns, name, hchars⟩ := List.append_of_mem
      (List.count_pos_iff.mp (hone ▸ Nat.one_pos))
    rw [hchars] at hone hfirst hlast
    have hcount : ns.count '/' = 0 ∧ name.count '/' = 0 := by
      rw [List.count_append, List.count_cons_self] at hone
      omega
    -- a part without characters would put the slash at an end
    cases ns with
    | nil => exact absurd rfl hfirst
    | cons c ns =>
      cases name with
      | nil => exact absurd List.getLast?_concat hlast
      | cons d name =>
        refine ⟨⟨String.ofList (c :: ns), String.ofList (d :: name)⟩,
          ⟨.of_chars (List.count_eq_zero.mp hcount.1), .of_chars (List.count_eq_zero.mp hcount.2)⟩,
          String.toList_inj.mp ?_⟩
        rw [hchars, toList_toText, String.toList_ofList, String.toList_ofList]
  · rintro ⟨k, hplain, rfl⟩
    obtain ⟨c, ns, hns, -⟩ := hplain.ns.exists_chars
    obtain ⟨d, name, hname, -⟩ := hplain.name.exists_chars
    have hnsolid := hplain.ns.solid
    have hnamesolid := hplain.name.solid
    constructor
    · rw [toList_toText, List.count_append, List.count_cons_self, List.count_eq_zero.mpr hnsolid,
        List.count_eq_zero.mpr hnamesolid]
    · rw [toList_toText, hns]
      rw [hns] at hnsolid
      exact fun hc => hnsolid (Option.some.inj hc ▸ List.mem_cons_self)
    · have hlast : (k.ns.toList ++ '/' :: d :: name).getLast? = (d :: name).getLast? := by
        simp [List.getLast?_append, List.getLast?_cons]
      rw [toList_toText, hname, hlast]
      rw [hname] at hnamesolid
      exact fun hc => hnamesolid (List.mem_of_getLast? hc)

/-- No other key is written as a plain key is. -/
theorem eq_of_toText_eq {j : ObjectKey} (hplain : j.IsPlain) (h : k.toText = j.toText) : k = j := by
  have hsolid : '/' ∉ k.ns.toList ∧ '/' ∉ k.name.toList := by
    -- there is one slash in what they are written as, the one between the parts
    have hone := (isDivided_iff.mpr ⟨j, hplain, h⟩).one
    rw [toList_toText, List.count_append, List.count_cons_self] at hone
    exact ⟨List.count_eq_zero.mp (by omega), List.count_eq_zero.mp (by omega)⟩
  have hpieces : [k.ns.toList, k.name.toList] = [j.ns.toList, j.name.toList] :=
    (pieces_toText hsolid.1 hsolid.2).symm.trans (h ▸ pieces_toText hplain.ns.solid hplain.name.solid)
  obtain ⟨hns, hrest⟩ := List.cons.inj hpieces
  obtain ⟨hname, -⟩ := List.cons.inj hrest
  cases k
  cases j
  exact congrArg₂ ObjectKey.mk (String.toList_inj.mp hns) (String.toList_inj.mp hname)

/-- A key is read from its own writing exactly where it is plain, and then it is that key. -/
theorem ofText_toText_iff {j : ObjectKey} : ofText k.toText = .ok j ↔ k.IsPlain ∧ j = k := by
  rw [ofText_eq_ok_iff]
  constructor
  · rintro ⟨hplain, htext⟩
    obtain rfl := eq_of_toText_eq hplain htext
    exact ⟨hplain, rfl⟩
  · rintro ⟨hplain, rfl⟩
    exact ⟨hplain, rfl⟩

end reading

/-- A text is read as a key exactly where it has one slash, and this is neither its first nor its last
character; else the error shows the text. The key that is read has no empty part and no slash in its
parts, and is written as the text again. A key whose parts are not empty and hold no slash is read
from what it is written as, and no other key is read from the writing of any key; so no two keys that
can be read are written alike. -/
theorem keys_read_back :
    (∀ text, (∃ k, ofText text = .ok k) ↔ IsDivided text) ∧
      (∀ text, ¬ IsDivided text → ofText text = .error (.invalid text)) ∧
      (∀ text k, ofText text = .ok k → k.IsPlain ∧ k.toText = text) ∧
      (∀ k : ObjectKey, ((∃ j, ofText k.toText = .ok j) ↔ k.IsPlain) ∧
        ∀ j, ofText k.toText = .ok j → j = k) ∧
      Set.InjOn toText {k | ∃ text, ofText text = .ok k} := by
  have hread (text : String) : (∃ k, ofText text = .ok k) ↔ IsDivided text := by
    rw [isDivided_iff]
    exact exists_congr fun k => ofText_eq_ok_iff
  refine ⟨hread, fun text h => ?_, fun text k h => ?_, fun k => ⟨⟨?_, ?_⟩, fun j h => ?_⟩, ?_⟩
  · exact (ofText_cases text).resolve_left fun hk => h ((hread text).mp hk)
  · obtain ⟨hplain, htext⟩ := ofText_eq_ok_iff.mp h
    exact ⟨hplain, htext.symm⟩
  · exact fun ⟨j, h⟩ => (ofText_toText_iff.mp h).1
  · exact fun hplain => ⟨k, ofText_toText_iff.mpr ⟨hplain, rfl⟩⟩
  · exact (ofText_toText_iff.mp h).2
  · rintro k - j ⟨text, hj⟩ hsame
    exact eq_of_toText_eq (ofText_eq_ok_iff.mp hj).1 hsame

/-- A name with a slash in it cannot be read back: the text has two. -/
theorem sample_keys_read :
    (ofText "jobs/nightly" = .ok ⟨"jobs", "nightly"⟩ ∧ IsDivided "jobs/nightly") ∧
      (¬ IsDivided "jobs/nightly/2" ∧
        ofText (toText ⟨"jobs", "nightly/2"⟩) = .error (.invalid "jobs/nightly/2")) := by
  obtain ⟨hread, hrefused, -, -, -⟩ := keys_read_back
  have hok : ofText "jobs/nightly" = .ok ⟨"jobs", "nightly"⟩ := by decide
  have htwo : ¬ IsDivided "jobs/nightly/2" := fun h => absurd h.one (by decide)
  exact ⟨⟨hok, (hread _).mp ⟨_, hok⟩⟩, htwo, hrefused _ htwo⟩

end ObjectKey

end GoopOperator
