import GoopOperator.Proofs.Text.Numeral
import GoopOperator.Proofs.Text.Pieces
import GoopOperator.Settings
import Mathlib.Logic.Function.Basic

/-!
# Settings of any environment

The environment may hold anything, and the settings are sound all the same (`Settings.IsSound`): each
of them is read from one variable by a reader that takes only what it can use, or else has its default.
The lemmas on the readers say what that is, in terms of the grammar of numerals and words; from them
follows that a refused value is as good as none (`ofEnvironment_refused`), and that each variable
decides one setting only (`same_of_eq`).
-/

namespace GoopOperator

namespace Settings

/-- The variables that settings are read from. -/
inductive Variable where
  /-- The finalizer token. -/
  | finalizer
  /-- The delay between two looks, in seconds. -/
  | pollSeconds
  /-- The time that one pass may take, in seconds. -/
  | passTimeout
  /-- The image of jobs that name none. -/
  | image
  /-- The command of jobs that name none. -/
  | jobCommand
  /-- Whether objects are logged. -/
  | logObjects
  deriving DecidableEq

namespace Variable

/-- The name of a variable. -/
def name : Variable → String
  | finalizer => "GOOP_FINALIZER"
  | pollSeconds => "GOOP_POLL_SECS"
  | passTimeout => "GOOP_PASS_TIMEOUT_SECS"
  | image => "GOOP_IMAGE"
  | jobCommand => "GOOP_JOB_COMMAND"
  | logObjects => "GOOP_LOG_OBJECTS"

/-- The values that a variable can have: tokens and images are not empty, seconds are numerals that fit
in 64 bits, and a command is not blank. -/
def Takes (value : String) : Variable → Prop
  | finalizer | image => value ≠ ""
  | pollSeconds | passTimeout => ∃ n : UInt64, Text.IsNumeralOf n.toNat value
  | jobCommand => ∃ c ∈ value.toList, Text.isBlank c = false
  | logObjects => True

/-- Some settings are the same as others in what is read from a variable. -/
def Same (s t : Settings) : Variable → Prop
  | finalizer => s.finalizer = t.finalizer
  | pollSeconds => s.pollInterval = t.pollInterval
  | passTimeout => s.passTimeout = t.passTimeout
  | image => s.image = t.image
  | jobCommand => s.jobCommand = t.jobCommand
  | logObjects => s.logObjects = t.logObjects

/-- No two variables have one name. -/
theorem name_injective : Function.Injective name := by
  intro v w h
  cases v <;> cases w <;> first | rfl | exact absurd h (by decide)

end Variable

/-- Settings that the operator can work with. -/
structure IsSound (s : Settings) : Prop where
  /-- The finalizer token is not empty. -/
  finalizer : s.finalizer ≠ ""
  /-- There is a command. -/
  command : s.jobCommand ≠ []
  /-- It consists of words. -/
  words : ∀ w ∈ s.jobCommand, Text.IsWord w
  /-- No pass is out of time from its beginning. -/
  timeout : s.passTimeout ≠ some 0
  /-- If there is an image, it has a name. -/
  image : s.image ≠ some ""

/-! ## Readers -/

section readers

variable {text : String} {n : Nat}

/-- A text that is not empty is taken as it is. -/
theorem nonempty?_eq_some_iff {t : String} : nonempty? text = some t ↔ text ≠ "" ∧ text = t := by
  unfold nonempty?
  split <;> simp_all

/-- The empty text alone is refused. -/
theorem nonempty?_eq_none_iff : nonempty? text = none ↔ text = "" := by
  unfold nonempty?
  split <;> simp_all

/-- The numbers of seconds that can be held are those of 64 bits. -/
theorem le_maxWord_iff : n ≤ Text.maxWord ↔ ∃ m : UInt64, m.toNat = n := by
  constructor
  · intro h
    refine ⟨UInt64.ofNat n, UInt64.toNat_ofNat_of_lt' ?_⟩
    exact Nat.lt_of_le_of_lt h (by decide)
  · rintro ⟨m, rfl⟩
    exact Nat.le_of_lt_succ m.toNat_lt

/-- Seconds are read from the numerals of the numbers of 64 bits. -/
theorem seconds?_eq_some_iff :
    seconds? text = some n ↔ Text.IsNumeralOf n text ∧ ∃ m : UInt64, m.toNat = n := by
  rw [← le_maxWord_iff, ← Text.readNumeral_eq_ok_iff]
  unfold seconds?
  cases Text.readNumeral Text.maxWord text <;> simp [Except.toOption]

/-- All other texts are refused. -/
theorem seconds?_eq_none_iff :
    seconds? text = none ↔ ¬ ∃ m : UInt64, Text.IsNumeralOf m.toNat text := by
  rw [Option.eq_none_iff_forall_ne_some]
  constructor
  · exact fun h ⟨m, hm⟩ => h m.toNat (seconds?_eq_some_iff.mpr ⟨hm, m, rfl⟩)
  · intro h n hn
    obtain ⟨hnumeral, m, rfl⟩ := seconds?_eq_some_iff.mp hn
    exact h ⟨m, hnumeral⟩

/-- A command is the words of a text, if it has any. -/
theorem command?_eq_some_iff {command : List String} :
    command? text = some command ↔ command ≠ [] ∧ Text.words text = command := by
  unfold command?
  cases hwords : Text.words text with
  | nil => simp [eq_comm]
  | cons word rest =>
    rw [Option.some.injEq]
    exact ⟨fun h => ⟨h ▸ List.cons_ne_nil word rest, h⟩, And.right⟩

/-- Blank texts are refused. -/
theorem command?_eq_none_iff : command? text = none ↔ ∀ c ∈ text.toList, Text.isBlank c = true := by
  rw [← Text.words_eq_nil_iff]
  unfold command?
  split <;> simp_all

/-- No number of seconds stands for a time that is up at once. -/
theorem timeoutOfSeconds_ne_zero (n : Nat) : timeoutOfSeconds n ≠ some 0 := by
  unfold timeoutOfSeconds
  split
  · exact nofun
  · rename_i hn
    exact fun h => hn ((Nat.mul_eq_zero.mp (Option.some.inj h)).resolve_right (by decide))

end readers

/-! ## What each variable decides -/

section environment

variable {get? get?' : String → Option String} {v : Variable} {value : String}

/-- Settings that are the same in what is read from each variable are the same. -/
theorem eq_of_same {s t : Settings} (h : ∀ v, Variable.Same s t v) : s = t := by
  obtain ⟨finalizer, pollInterval, passTimeout, image, jobCommand, logObjects⟩ := s
  obtain rfl : finalizer = t.finalizer := h .finalizer
  obtain rfl : pollInterval = t.pollInterval := h .pollSeconds
  obtain rfl : passTimeout = t.passTimeout := h .passTimeout
  obtain rfl : image = t.image := h .image
  obtain rfl : jobCommand = t.jobCommand := h .jobCommand
  obtain rfl : logObjects = t.logObjects := h .logObjects
  rfl

/-- What is read from a variable depends on that variable alone. -/
theorem same_of_eq (h : get? v.name = get?' v.name) :
    v.Same (ofEnvironment get?) (ofEnvironment get?') := by
  cases v with
  | finalizer => exact congrArg (fun x => (x >>= nonempty?).getD default.finalizer) h
  | pollSeconds =>
    exact congrArg (fun x => ((x >>= seconds?).map .ofSeconds).getD default.pollInterval) h
  | passTimeout =>
    exact congrArg (fun x => ((x >>= seconds?).map timeoutOfSeconds).getD default.passTimeout) h
  | image => exact congrArg (fun x => x >>= nonempty?) h
  | jobCommand => exact congrArg (fun x => (x >>= command?).getD default.jobCommand) h
  | logObjects => exact congrArg (fun x => x.any isYes) h

/-- A refused value is read as no value is. -/
theorem bind_of_refused {read : String → Option α} {name : String} (h : read value = none)
    (hget : get? name = some value) (hget' : get?' name = none) :
    (get? name >>= read) = (get?' name >>= read) := by
  rw [hget, hget']
  exact h

/-- Where a value is refused, the setting is as it is without the variable. -/
theorem same_of_refused (h : ¬ v.Takes value) (hget : get? v.name = some value)
    (hget' : get?' v.name = none) : v.Same (ofEnvironment get?) (ofEnvironment get?') := by
  cases v with
  | finalizer =>
    have hnone := nonempty?_eq_none_iff.mpr (Decidable.not_not.mp h)
    exact congrArg (·.getD default.finalizer) (bind_of_refused hnone hget hget')
  | pollSeconds =>
    have hnone := seconds?_eq_none_iff.mpr h
    exact congrArg (fun x => (x.map .ofSeconds).getD default.pollInterval)
      (bind_of_refused hnone hget hget')
  | passTimeout =>
    have hnone := seconds?_eq_none_iff.mpr h
    exact congrArg (fun x => (x.map timeoutOfSeconds).getD default.passTimeout)
      (bind_of_refused hnone hget hget')
  | image =>
    have hnone := nonempty?_eq_none_iff.mpr (Decidable.not_not.mp h)
    exact bind_of_refused hnone hget hget'
  | jobCommand =>
    have hnone := command?_eq_none_iff.mpr fun c hc =>
      eq_true_of_ne_false fun hsolid => h ⟨c, hc, hsolid⟩
    exact congrArg (·.getD default.jobCommand) (bind_of_refused hnone hget hget')
  | logObjects => exact absurd trivial h

/-- Changing the value of a variable leaves what is read from the others. -/
theorem same_update {name : String} (h : v.name ≠ name) (get? : String → Option String)
    (value : Option String) :
    v.Same (ofEnvironment get?) (ofEnvironment (Function.update get? name value)) :=
  same_of_eq (Function.update_of_ne h value get?).symm

/-- A refused value is as good as none. -/
theorem ofEnvironment_refused (h : ¬ v.Takes value) (get? : String → Option String) :
    ofEnvironment (Function.update get? v.name (some value)) =
      ofEnvironment (Function.update get? v.name none) := by
  refine eq_of_same fun w => ?_
  by_cases hw : w = v
  · subst hw
    exact same_of_refused h (Function.update_self ..) (Function.update_self ..)
  · have hname : w.name ≠ v.name := fun hname => hw (Variable.name_injective hname)
    have hset := same_update hname (Function.update get? v.name (some value)) none
    rwa [Function.update_idem] at hset

/-! ## Soundness -/

/-- What holds of the default and of all that is read holds of the setting. -/
theorem getD_bind_of {P : α → Prop} {read : String → Option α} {otherwise : α}
    (hdefault : P otherwise) (hread : ∀ text x, read text = some x → P x) (value : Option String) :
    P ((value >>= read).getD otherwise) := by
  cases value with
  | none => exact hdefault
  | some text =>
    show P ((read text).getD otherwise)
    cases htext : read text with
    | none => exact hdefault
    | some x => exact hread text x htext

/-- The settings of every environment are sound. -/
theorem isSound_ofEnvironment (get? : String → Option String) : (ofEnvironment get?).IsSound := by
  have hcommand : (ofEnvironment get?).jobCommand ≠ [] ∧
      ∀ w ∈ (ofEnvironment get?).jobCommand, Text.IsWord w := by
    refine getD_bind_of (P := fun command => command ≠ [] ∧ ∀ w ∈ command, Text.IsWord w)
      (by decide) (fun text command h => ?_) _
    obtain ⟨hsome, rfl⟩ := command?_eq_some_iff.mp h
    exact ⟨hsome, fun w hw => Text.isWord_of_mem_words hw⟩
  refine ⟨?_, hcommand.1, hcommand.2, ?_, ?_⟩
  · refine getD_bind_of (P := (· ≠ "")) (by decide) (fun text t h => ?_) _
    obtain ⟨hsome, rfl⟩ := nonempty?_eq_some_iff.mp h
    exact hsome
  · show ((get? "GOOP_PASS_TIMEOUT_SECS" >>= seconds?).map timeoutOfSeconds).getD _ ≠ some 0
    cases get? "GOOP_PASS_TIMEOUT_SECS" >>= seconds? with
    | none => decide
    | some n => exact timeoutOfSeconds_ne_zero n
  · show (get? "GOOP_IMAGE" >>= nonempty?) ≠ some ""
    intro h
    obtain ⟨text, -, htext⟩ := Option.bind_eq_some_iff.mp h
    obtain ⟨hsome, htext⟩ := nonempty?_eq_some_iff.mp htext
    exact hsome htext

/-- Words with gaps between them are the command. -/
theorem jobCommand_spaced {first : String} {rest : List (String × String)}
    (hfirst : Text.IsWord first) (hrest : ∀ p ∈ rest, Text.IsGap p.1 ∧ Text.IsWord p.2)
    (hget : get? Variable.jobCommand.name = some (Text.spaced first rest)) :
    (ofEnvironment get?).jobCommand = first :: rest.map (·.2) := by
  have hread : command? (Text.spaced first rest) = some (first :: rest.map (·.2)) :=
    command?_eq_some_iff.mpr ⟨List.cons_ne_nil _ _, Text.words_spaced hfirst hrest⟩
  show (get? Variable.jobCommand.name >>= command?).getD _ = _
  rw [hget]
  show (command? (Text.spaced first rest)).getD _ = _
  rw [hread, Option.getD_some]

/-- The numeral of a number of seconds is the delay between two looks. -/
theorem pollInterval_numeral {text : String} {n : UInt64} (h : Text.IsNumeralOf n.toNat text)
    (hget : get? Variable.pollSeconds.name = some text) :
    (ofEnvironment get?).pollInterval = .ofSeconds n.toNat := by
  have hread : seconds? text = some n.toNat := seconds?_eq_some_iff.mpr ⟨h, n, rfl⟩
  show ((get? Variable.pollSeconds.name >>= seconds?).map Duration.ofSeconds).getD _ = _
  rw [hget]
  show ((seconds? text).map Duration.ofSeconds).getD _ = _
  rw [hread, Option.map_some, Option.getD_some]

end environment

/-- The settings of every environment are sound. Changing the value of one variable leaves what is
read from the others, and a value that a variable cannot have is as good as none. Words with gaps
between them are read back as the command whatever the gaps are, and the numeral of a number of 64
bits is read back as the delay between two looks. -/
theorem environments_are_settled (get? : String → Option String) :
    (ofEnvironment get?).IsSound ∧
      (∀ (name : String) (value : Option String) (v : Variable), v.name ≠ name →
        v.Same (ofEnvironment get?) (ofEnvironment (Function.update get? name value))) ∧
      (∀ (v : Variable) (value : String), ¬ v.Takes value →
        ofEnvironment (Function.update get? v.name (some value)) =
          ofEnvironment (Function.update get? v.name none)) ∧
      (∀ first rest, Text.IsWord first → (∀ p ∈ rest, Text.IsGap p.1 ∧ Text.IsWord p.2) →
        get? Variable.jobCommand.name = some (Text.spaced first rest) →
        (ofEnvironment get?).jobCommand = first :: rest.map (·.2)) ∧
      ∀ n : UInt64, get? Variable.pollSeconds.name = some (toString n.toNat) →
        (ofEnvironment get?).pollInterval = .ofSeconds n.toNat :=
  ⟨isSound_ofEnvironment get?, fun _ value _ h => same_update h get? value,
    fun _ _ h => ofEnvironment_refused h get?, fun _ _ hfirst hrest => jobCommand_spaced hfirst hrest,
    fun n => pollInterval_numeral (Text.isNumeralOf_toString n.toNat)⟩

/-! ### A sample -/

/-- An environment with an empty token, the greatest delay, and a command with gaps of several blanks. -/
def sampleEnvironment (name : String) : Option String :=
  [("GOOP_FINALIZER", ""), ("GOOP_POLL_SECS", "18446744073709551615"),
    ("GOOP_JOB_COMMAND", "sh\u00a0 -c\ttrue")].lookup name

/-- The command and the delay are read, and the empty token counts for nothing. -/
theorem sample_settled :
    (ofEnvironment sampleEnvironment).jobCommand = ["sh", "-c", "true"] ∧
      (ofEnvironment sampleEnvironment).pollInterval = .ofSeconds 18446744073709551615 ∧
      (ofEnvironment sampleEnvironment).finalizer ≠ "" ∧
      Variable.finalizer.Same (ofEnvironment sampleEnvironment)
        (ofEnvironment (Function.update sampleEnvironment "GOOP_IMAGE" (some "job:1"))) ∧
      ofEnvironment (Function.update sampleEnvironment "GOOP_FINALIZER" (some "")) =
        ofEnvironment (Function.update sampleEnvironment "GOOP_FINALIZER" none) := by
  obtain ⟨hsound, hown, hrefused, hcommand, hseconds⟩ := environments_are_settled sampleEnvironment
  exact ⟨hcommand "sh" [("\u00a0 ", "-c"), ("\t", "true")] (by decide) (by decide) rfl,
    hseconds 18446744073709551615 rfl, hsound.finalizer,
    hown "GOOP_IMAGE" (some "job:1") .finalizer (by decide), hrefused .finalizer "" fun h => h rfl⟩

end Settings

end GoopOperator
