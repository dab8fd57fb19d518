import GoopOperator.Json.Printer
import GoopOperator.Json.Reader
import GoopOperator.Proofs.Text.Numeral

/-!
# The text of a JSON value is read back

A value whose strings are texts and whose numbers are written as numbers (`Json.isLegible`) is read
back from the text without white space that is written of it (`Json.parse?_compact`).

There are two halves. The tokens of a value (`Json.tokens`) are read as the value, on whatever stack
of open arrays and objects (`foldlM_tokens`). The characters of a value are cut into these tokens: a
run of numerals or letters ends only with the character after it, so what has been begun at the end of
a value still owes its last token (`Scan.Owes`, `Writes`).
-/

namespace GoopOperator.Json

/-! ## The tokens of a value -/

mutual

/-- The tokens of a value. -/
def tokens : Json → List Token
  | .arr items => .mark '[' :: itemTokens items ++ [.mark ']']
  | .obj members => .mark '\x7b' :: memberTokens members ++ [.mark '\x7d']
  | .str text => [.string (some text)]
  | v => [.scalar v]

/-- The tokens of the items of an array. -/
def itemTokens : List Json → List Token
  | [] => []
  | [v] => tokens v
  | v :: rest => tokens v ++ .mark ',' :: itemTokens rest

/-- The tokens of the members of an object. -/
def memberTokens : List (String × Json) → List Token
  | [] => []
  | [(name, v)] => .string (some name) :: .mark ':' :: tokens v
  | (name, v) :: rest =>
    .string (some name) :: .mark ':' :: tokens v ++ .mark ',' :: memberTokens rest

end

/-- A value that begins an array is read as any other, since no value begins with the end of an
array. -/
theorem foldlM_tokens_firstItem (v : Json) (stack : List Frame) (rest : List Token) :
    (tokens v ++ rest).foldlM Reading.step ⟨.items [] :: stack, .firstItem⟩ =
      (tokens v ++ rest).foldlM Reading.step ⟨.items [] :: stack, .value⟩ := by
  cases v <;> rfl

/-- Members whose names are texts are those of an object. -/
theorem object_readable (members : List (String × Json)) :
    object (members.map fun m => (some m.1, m.2)) = .obj members := by
  have hread : (members.map fun m => (some m.1, m.2)).mapM
      (fun (m : Option String × Json) => m.1.map fun n => (n, m.2)) = some members := by
    induction members with
    | nil => rfl
    | cons m rest ih => simp [List.mapM_cons, ih]
  unfold object
  rw [hread]

/-- A name that begins an object is read as the name of a later member. -/
theorem foldlM_memberTokens_firstName {members : List (String × Json)} (h : members ≠ [])
    (stack : List Frame) (rest : List Token) :
    (memberTokens members ++ rest).foldlM Reading.step ⟨stack, .firstName⟩ =
      (memberTokens members ++ rest).foldlM Reading.step ⟨stack, .name []⟩ := by
  match members, h with
  | [(name, v)], _ => rfl
  | (name, v) :: m :: rest, _ => rfl

mutual

/-- The tokens of a value are read as the value. -/
theorem foldlM_tokens (v : Json) (stack : List Frame) (rest : List Token) :
    (tokens v ++ rest).foldlM Reading.step ⟨stack, .value⟩ =
      rest.foldlM Reading.step (complete v stack) := by
  match v with
  | .null | .bool _ | .int _ | .real _ | .str _ | .unreadable => rfl
  | .arr [] => rfl
  | .arr (x :: xs) =>
    have hopen : (tokens (.arr (x :: xs)) ++ rest).foldlM Reading.step ⟨stack, .value⟩ =
        (itemTokens (x :: xs) ++ .mark ']' :: rest).foldlM Reading.step
          ⟨.items [] :: stack, .firstItem⟩ := by
      simp only [tokens, List.cons_append, List.append_assoc, List.nil_append]
      rfl
    have hfirst : (itemTokens (x :: xs) ++ .mark ']' :: rest).foldlM Reading.step
          ⟨.items [] :: stack, .firstItem⟩ =
        (itemTokens (x :: xs) ++ .mark ']' :: rest).foldlM Reading.step
          ⟨.items [] :: stack, .value⟩ := by
      cases xs with
      | nil => exact foldlM_tokens_firstItem x stack _
      | cons y ys =>
        simp only [itemTokens, List.append_assoc]
        exact foldlM_tokens_firstItem x stack _
    rw [hopen, hfirst]
    exact foldlM_itemTokens (x :: xs) (List.cons_ne_nil _ _) [] stack rest
  | .obj [] => rfl
  | .obj (m :: ms) =>
    have hopen : (tokens (.obj (m :: ms)) ++ rest).foldlM Reading.step ⟨stack, .value⟩ =
        (memberTokens (m :: ms) ++ .mark '\x7d' :: rest).foldlM Reading.step
          ⟨stack, .firstName⟩ := by
      simp only [tokens, List.cons_append, List.append_assoc, List.nil_append]
      rfl
    rw [hopen, foldlM_memberTokens_firstName (List.cons_ne_nil _ _)]
    exact foldlM_memberTokens (m :: ms) (List.cons_ne_nil _ _) [] stack rest

/-- The tokens of some items, up to the end of their array, are read as the array. -/
theorem foldlM_itemTokens (items : List Json) (h : items ≠ []) (done : List Json)
    (stack : List Frame) (rest : List Token) :
    (itemTokens items ++ .mark ']' :: rest).foldlM Reading.step
        ⟨.items done.reverse :: stack, .value⟩ =
      rest.foldlM Reading.step (complete (.arr (done ++ items)) stack) := by
  match items, h with
  | [x], _ =>
    rw [itemTokens, foldlM_tokens x]
    show rest.foldlM Reading.step (complete (.arr (x :: done.reverse).reverse) stack) = _
    rw [List.reverse_cons, List.reverse_reverse]
  | x :: y :: ys, _ =>
    have hrest := foldlM_itemTokens (y :: ys) (List.cons_ne_nil _ _) (done ++ [x]) stack rest
    rw [List.reverse_append, List.append_assoc] at hrest
    rw [itemTokens, List.append_assoc, foldlM_tokens x]
    · exact hrest
    · exact List.cons_ne_nil _ _

/-- The tokens of some members, up to the end of their object, are read as the object. -/
theorem foldlM_memberTokens (members : List (String × Json)) (h : members ≠ [])
    (done : List (String × Json)) (stack : List Frame) (rest : List Token) :
    (memberTokens members ++ .mark '\x7d' :: rest).foldlM Reading.step
        ⟨stack, .name (done.map fun m => (some m.1, m.2)).reverse⟩ =
      rest.foldlM Reading.step (complete (.obj (done ++ members)) stack) := by
  have hname : ∀ (name : String) (ts : List Token),
      (.string (some name) :: .mark ':' :: ts).foldlM Reading.step
          ⟨stack, .name (done.map fun m => (some m.1, m.2)).reverse⟩ =
        ts.foldlM Reading.step
          ⟨.members (done.map fun m => (some m.1, m.2)).reverse (some name) :: stack, .value⟩ :=
    fun _ _ => rfl
  have hdone : ∀ (name : String) (x : Json),
      (some name, x) :: (done.map fun m => (some m.1, m.2)).reverse =
        ((done ++ [(name, x)]).map fun m => (some m.1, m.2)).reverse := by
    simp
  match members, h with
  | [(name, x)], _ =>
    rw [memberTokens, List.cons_append, List.cons_append, hname, foldlM_tokens x]
    show rest.foldlM Reading.step (complete (object ((some name, x) :: _).reverse) stack) = _
    rw [hdone, List.reverse_reverse, object_readable]
  | (name, x) :: m :: ms, _ =>
    have hrest := foldlM_memberTokens (m :: ms) (List.cons_ne_nil _ _) (done ++ [(name, x)]) stack
      rest
    rw [← hdone, List.append_assoc] at hrest
    simp only [memberTokens, List.cons_append, List.append_assoc]
    rw [hname, foldlM_tokens x]
    exact hrest

end

/-- The tokens of a value are those of nothing else. -/
theorem ofTokens?_tokens (v : Json) : ofTokens? (tokens v) = some v := by
  have hread := foldlM_tokens v [] []
  rw [List.append_nil] at hread
  unfold ofTokens?
  rw [hread]
  rfl

/-! ## Cutting characters into tokens -/

/-- The characters `cs` are cut into the tokens `ts`, from what has been begun before them to what has
been begun after them. -/
def Cuts (scan : Scan) (cs : List Char) (ts : List Token) (scan' : Scan) : Prop :=
  ∀ found, cs.foldlM cutStep (found, scan) = some (ts.reverse ++ found, scan')

/-- No character makes no token. -/
theorem Cuts.nil (scan : Scan) : Cuts scan [] [] scan := fun _ => rfl

/-- One character. -/
theorem Cuts.single {scan scan' : Scan} {c : Char} {ts : List Token}
    (h : scan.step c = some (ts, scan')) : Cuts scan [c] ts scan' := by
  intro found
  simp [cutStep, h]

/-- Characters one after the other. -/
theorem Cuts.append {scan scan' scan'' : Scan} {cs cs' : List Char} {ts ts' : List Token}
    (h : Cuts scan cs ts scan') (h' : Cuts scan' cs' ts' scan'') :
    Cuts scan (cs ++ cs') (ts ++ ts') scan'' := by
  intro found
  rw [List.foldlM_append, h found]
  show cs'.foldlM cutStep (ts.reverse ++ found, scan') = _
  rw [h', List.reverse_append, List.append_assoc]

/-- What has been begun owes the tokens `ts`: at the end of the text, or at the next character that
may follow a value. -/
structure Scan.Owes (scan : Scan) (ts : List Token) : Prop where
  /-- At the end. -/
  finish : scan.finish = some ts
  /-- At a comma or at the end of an array or object. -/
  step : ∀ c, c = ',' ∨ c = ']' ∨ c = '\x7d' → scan.step c = some (ts ++ [.mark c], .between)

/-- Some characters write the tokens `ts`, the last of which may still be owed. -/
def Writes (cs : List Char) (ts : List Token) : Prop :=
  ∃ paid owed scan, Cuts .between cs paid scan ∧ scan.Owes owed ∧ paid ++ owed = ts

/-- Between tokens nothing is owed. -/
theorem owes_between : Scan.Owes .between [] := by
  refine ⟨rfl, ?_⟩
  rintro c (rfl | rfl | rfl) <;> rfl

/-- Characters that end between tokens. -/
theorem Cuts.writes {cs : List Char} {ts : List Token} (h : Cuts .between cs ts .between) :
    Writes cs ts := ⟨ts, [], .between, h, owes_between, List.append_nil ts⟩

/-- A character that may follow a value pays what is owed. -/
theorem Writes.mark {cs : List Char} {ts : List Token} (h : Writes cs ts) {c : Char}
    (hc : c = ',' ∨ c = ']' ∨ c = '\x7d') : Cuts .between (cs ++ [c]) (ts ++ [.mark c]) .between := by
  obtain ⟨paid, owed, scan, hcuts, howes, rfl⟩ := h
  rw [List.append_assoc]
  exact hcuts.append (.single (howes.step c hc))

/-- Characters that end between tokens, with others after them. -/
theorem Cuts.writes_append {cs cs' : List Char} {ts ts' : List Token}
    (h : Cuts .between cs ts .between) (h' : Writes cs' ts') : Writes (cs ++ cs') (ts ++ ts') := by
  obtain ⟨paid, owed, scan, hcuts, howes, rfl⟩ := h'
  exact ⟨ts ++ paid, owed, scan, h.append hcuts, howes, List.append_assoc _ _ _⟩

/-- The tokens of a text are those that its characters write. -/
theorem Writes.tokens? {cs : List Char} {ts : List Token} (h : Writes cs ts) :
    tokens? cs = some ts := by
  obtain ⟨paid, owed, scan, hcuts, howes, rfl⟩ := h
  have hread := hcuts []
  unfold Json.tokens?
  rw [hread]
  show scan.finish.bind (fun last => some ((paid.reverse ++ []).reverse ++ last)) = _
  rw [howes.finish, List.append_nil, List.reverse_reverse]
  rfl

/-! ### Strings -/

/-- A hexadecimal digit has its value. -/
theorem hexValue?_hexDigit : ∀ n < 16, hexValue? (hexDigit n) = some n := by decide

/-- A string of which the characters `cs` have been read. -/
def Quote.ofChars (cs : List Char) : Quote := ⟨cs.reverse, none, true⟩

/-- A control character is read from its number. -/
theorem cuts_unit (cs : List Char) {c : Char} (hc : c.toNat < 0x20) :
    Cuts (.string (.ofChars cs))
      ['\\', 'u', '0', '0', hexDigit (c.toNat / 16), hexDigit (c.toNat % 16)] []
      (.string (.ofChars (cs ++ [c]))) := by
  have hhigh := hexValue?_hexDigit (c.toNat / 16) (by omega)
  have hlow := hexValue?_hexDigit (c.toNat % 16) (by omega)
  have hvalue : c.toNat / 16 * 16 + c.toNat % 16 = c.toNat := by omega
  have hpush : (Quote.ofChars cs).pushUnit c.toNat = .ofChars (cs ++ [c]) := by
    have hhalf : ¬ 0xD800 ≤ c.toNat := by omega
    have hlate : ¬ 0xDC00 ≤ c.toNat := by omega
    simp [Quote.pushUnit, Quote.ofChars, hhalf, hlate]
  have hbegin : Cuts (.string (.ofChars cs)) ['\\', 'u', '0', '0'] [] (.unit (.ofChars cs) 0 2) :=
    fun _ => rfl
  have hfirst : Cuts (.unit (.ofChars cs) 0 2) [hexDigit (c.toNat / 16)] []
      (.unit (.ofChars cs) (c.toNat / 16) 1) := by
    refine .single ?_
    simp [Scan.step, hhigh]
  have hsecond : Cuts (.unit (.ofChars cs) (c.toNat / 16) 1) [hexDigit (c.toNat % 16)] []
      (.string (.ofChars (cs ++ [c]))) := by
    refine .single ?_
    simp [Scan.step, hlow, hvalue, hpush]
  exact hbegin.append (hfirst.append hsecond)

/-- A character is read from what a string literal writes of it. -/
theorem cuts_escapedChar (cs : List Char) (c : Char) :
    Cuts (.string (.ofChars cs)) (escapedChar c) [] (.string (.ofChars (cs ++ [c]))) := by
  have hpush : (Quote.ofChars cs).push c = .ofChars (cs ++ [c]) := by
    simp [Quote.push, Quote.ofChars]
  have hshort : ∀ d, shortEscape? d = some c →
      Cuts (.string (.ofChars cs)) ['\\', d] [] (.string (.ofChars (cs ++ [c]))) := by
    intro d hd
    have hu : d ≠ 'u' := by
      rintro rfl
      cases hd
    have hbegin : Cuts (.string (.ofChars cs)) ['\\'] [] (.escape (.ofChars cs)) := fun _ => rfl
    have hend : Cuts (.escape (.ofChars cs)) [d] [] (.string (.ofChars (cs ++ [c]))) := by
      refine .single ?_
      simp [Scan.step, hu, hd, hpush]
    exact hbegin.append hend
  have hof : ∀ n, c.toNat = n → Char.ofNat n = c := by
    rintro n rfl
    exact Char.ofNat_toNat c
  unfold escapedChar
  split
  · exact hshort _ rfl
  · exact hshort _ rfl
  · exact hshort _ rfl
  · exact hshort _ rfl
  · exact hshort _ rfl
  · rename_i hquote hslash _ _ _
    split
    · rename_i h
      exact hshort 'b' (congrArg some (hof 8 h))
    · split
      · rename_i h
        exact hshort 'f' (congrArg some (hof 12 h))
      · split
        · rename_i h
          exact cuts_unit cs h
        · rename_i h
          have hplain : c ≠ '"' ∧ c ≠ '\\' := ⟨hquote, hslash⟩
          refine .single ?_
          simp [Scan.step, hplain, h, hpush]

/-- A string is read from its literal. -/
theorem cuts_literal (text : String) :
    Cuts .between (literal text) [.string (some text)] .between := by
  have hchars : ∀ cs done : List Char, Cuts (.string (.ofChars done)) (cs.flatMap escapedChar) []
      (.string (.ofChars (done ++ cs))) := by
    intro cs
    induction cs with
    | nil =>
      intro done
      rw [List.append_nil]
      exact .nil _
    | cons c rest ih =>
      intro done
      have hrest := (cuts_escapedChar done c).append (ih (done ++ [c]))
      rw [List.append_assoc] at hrest
      exact hrest
  have hclose : (Quote.ofChars text.toList).token = .string (some text) := by
    simp [Quote.token, Quote.ofChars]
  have hopen : Cuts .between ['"'] [] (.string (.ofChars [])) := .single rfl
  have hend : Cuts (.string (.ofChars text.toList)) ['"'] [.string (some text)] .between := by
    refine .single ?_
    simp [Scan.step, hclose]
  exact (hopen.append (hchars text.toList [])).append hend

/-! ### Numbers and words -/

/-- The digits of an integer are read as the integer. -/
theorem number?_digits (n : Int) : number? (digits n) = some (.int n) := by
  have hdigits := Text.isDigit_toDigits n.natAbs
  have htake := Text.takeWhile_isDigit hdigits
  have hdrop := Text.dropWhile_isDigit hdigits
  have hvalue : Nat.ofDigitChars 10 (Nat.toDigits 10 n.natAbs) 0 = n.natAbs :=
    Nat.ofDigitChars_ten_toDigits
  unfold digits
  split
  · rename_i hneg
    have hzero : (Nat.toDigits 10 n.natAbs).head? ≠ some '0' := Text.head?_toDigits (by omega)
    have hone : Nat.toDigits 10 n.natAbs ≠ ['0'] := fun h => hzero (by rw [h]; rfl)
    have habs : -(n.natAbs : Int) = n := by omega
    have hread : number? ('-' :: Nat.toDigits 10 n.natAbs) = some (.int (-(n.natAbs : Int))) := by
      simp [number?, htake, hdrop, hzero, hone, hvalue]
    rwa [habs] at hread
  · rename_i hpos
    have hzero : (Nat.toDigits 10 n.natAbs).head? = some '0' →
        Nat.toDigits 10 n.natAbs = ['0'] := by
      intro hhead
      by_cases hn : n.natAbs = 0
      · rw [hn]
        rfl
      · exact absurd hhead (Text.head?_toDigits (by omega))
    have hsign : (Nat.toDigits 10 n.natAbs).head? ≠ some '-' := by
      intro hhead
      have hminus := hdigits '-' (List.mem_of_head? hhead)
      cases hminus
    have habs : (n.natAbs : Int) = n := by omega
    simpa [number?, htake, hdrop, hsign, hvalue, habs] using hzero

/-- After its leading digits a run of characters of numbers may be any. -/
theorem isNumeric_of_dropWhile {cs : List Char}
    (h : ∀ c ∈ cs.dropWhile Char.isDigit, isNumeric c = true) : ∀ c ∈ cs, isNumeric c = true := by
  intro c hc
  rw [← List.takeWhile_append_dropWhile (p := Char.isDigit) (l := cs)] at hc
  rcases List.mem_append.1 hc with hc | hc
  · have hdigit : c.isDigit = true := List.all_eq_true.1 List.all_takeWhile c hc
    simp [isNumeric, hdigit]
  · exact h c hc

/-- An exponent holds only characters of numbers. -/
theorem isNumeric_of_isExponent {cs : List Char} (h : isFractional.isExponent cs = true) :
    ∀ c ∈ cs, isNumeric c = true := by
  have hdigits : ∀ ds : List Char, ds.all Char.isDigit = true → ∀ c ∈ ds, isNumeric c = true := by
    intro ds hds
    refine isNumeric_of_dropWhile ?_
    rw [Text.dropWhile_isDigit (List.all_eq_true.1 hds)]
    simp
  match cs with
  | [] => simp
  | e :: rest =>
    simp only [isFractional.isExponent, Bool.and_eq_true, Bool.or_eq_true, beq_iff_eq] at h
    obtain ⟨⟨hletter, -⟩, hrest⟩ := h
    refine List.forall_mem_cons.2 ⟨?_, ?_⟩
    · rcases hletter with rfl | rfl <;> rfl
    · split at hrest
      · exact List.forall_mem_cons.2 ⟨rfl, hdigits _ hrest⟩
      · exact List.forall_mem_cons.2 ⟨rfl, hdigits _ hrest⟩
      · exact hdigits _ hrest

/-- What follows the whole part of a number holds only characters of numbers. -/
theorem isNumeric_of_isFractional {cs : List Char} (h : isFractional cs = true) :
    ∀ c ∈ cs, isNumeric c = true := by
  unfold isFractional at h
  split at h
  · simp only [Bool.and_eq_true, Bool.or_eq_true, List.isEmpty_iff] at h
    refine List.forall_mem_cons.2 ⟨rfl, isNumeric_of_dropWhile ?_⟩
    rcases h.2 with htail | htail
    · rw [htail]
      simp
    · exact isNumeric_of_isExponent htail
  · exact isNumeric_of_isExponent h

/-- A number without its sign begins with a digit and goes on with characters of numbers. -/
theorem isNumeric_of_whole {body : List Char} (h : body.takeWhile Char.isDigit ≠ [])
    (htail : (body.dropWhile Char.isDigit).isEmpty = true ∨
      isFractional (body.dropWhile Char.isDigit) = true) :
    (∃ c cs, body = c :: cs ∧ c.isDigit = true) ∧ ∀ d ∈ body, isNumeric d = true := by
  constructor
  · match body, h with
    | c :: cs, h =>
      refine ⟨c, cs, rfl, ?_⟩
      cases hc : c.isDigit with
      | true => rfl
      | false => exact absurd (List.takeWhile_cons_of_neg (by simp [hc])) h
  · refine isNumeric_of_dropWhile ?_
    rcases htail with htail | htail
    · rw [List.isEmpty_iff.1 htail]
      simp
    · exact isNumeric_of_isFractional htail

/-- A number begins with a digit or a minus sign and goes on with characters of numbers. -/
theorem isNumeric_of_number? {run : List Char} {v : Json} (h : number? run = some v) :
    ∃ c cs, run = c :: cs ∧ (c.isDigit = true ∨ c = '-') ∧ ∀ d ∈ cs, isNumeric d = true := by
  obtain ⟨body, hrun, hbody⟩ : ∃ body, (run = body ∨ run = '-' :: body) ∧
      (if (run.head? == some '-') = true then run.drop 1 else run) = body := by
    refine ⟨_, ?_, rfl⟩
    match run with
    | [] => exact .inl rfl
    | c :: cs =>
      by_cases hc : c = '-'
      · exact .inr (by simp [hc])
      · exact .inl (by simp [hc])
  have hshape : body.takeWhile Char.isDigit ≠ [] ∧
      ((body.dropWhile Char.isDigit).isEmpty = true ∨
        isFractional (body.dropWhile Char.isDigit) = true) := by
    simp only [number?, hbody] at h
    split at h
    · cases h
    · rename_i hwhole
      refine ⟨fun hnil => hwhole (.inl hnil), ?_⟩
      split at h
      · exact .inl ‹_›
      · split at h
        · exact .inr ‹_›
        · cases h
  obtain ⟨⟨c, cs, rfl, hc⟩, hall⟩ := isNumeric_of_whole hshape.1 hshape.2
  rcases hrun with rfl | rfl
  · exact ⟨c, cs, rfl, .inl hc, fun d hd => hall d (List.mem_cons_of_mem c hd)⟩
  · exact ⟨'-', c :: cs, rfl, .inr rfl, hall⟩

/-- A number is begun by its first character. -/
theorem begin?_number {c : Char} (h : c.isDigit = true ∨ c = '-') :
    begin? c = some ([], .number [c]) := by
  have hne : ∀ d : Char, (d.isDigit || d == '-') = false → c ≠ d := by
    rintro d hd rfl
    rcases h with h | rfl
    · simp [h] at hd
    · cases hd
  unfold begin?
  rw [if_neg, if_neg, if_neg (hne '"' rfl), if_pos h]
  · rintro (hc | hc | hc | hc | hc | hc) <;> exact hne _ rfl hc
  · rintro (hc | hc | hc | hc) <;> exact hne _ rfl hc

/-- Characters of numbers are collected. -/
theorem cuts_run (cs done : List Char) (h : ∀ c ∈ cs, isNumeric c = true) :
    Cuts (.number done.reverse) cs [] (.number (done ++ cs).reverse) := by
  induction cs generalizing done with
  | nil =>
    rw [List.append_nil]
    exact .nil _
  | cons c rest ih =>
    obtain ⟨hc, hrest⟩ := List.forall_mem_cons.1 h
    have hstep : Cuts (.number done.reverse) [c] [] (.number (done ++ [c]).reverse) := by
      refine .single ?_
      simp [Scan.step, hc]
    have hmore := hstep.append (ih (done ++ [c]) hrest)
    rw [List.append_assoc] at hmore
    exact hmore

/-- A number is owed until the character after it. -/
theorem writes_number {run : List Char} {v : Json} (h : number? run = some v) :
    Writes run [.scalar v] := by
  obtain ⟨c, cs, rfl, hc, hcs⟩ := isNumeric_of_number? h
  have hfirst : Cuts .between [c] [] (.number [c].reverse) := .single (begin?_number hc)
  refine ⟨[], [.scalar v], .number (c :: cs).reverse, hfirst.append (cuts_run cs [c] hcs),
    ⟨?_, ?_⟩, rfl⟩
  · simp only [Scan.finish, List.reverse_reverse, h]
    rfl
  · rintro d (rfl | rfl | rfl) <;>
      · simp only [Scan.step, List.reverse_reverse, h]
        rfl

/-- A word is owed until the character after it. -/
theorem writes_word (v : Json) (h : v = .null ∨ v = .bool true ∨ v = .bool false) :
    Writes (scalar v) [.scalar v] := by
  have hcuts : Cuts .between (scalar v) [] (.word (scalar v).reverse) := by
    rcases h with rfl | rfl | rfl <;> exact fun _ => rfl
  have howes : Scan.Owes (.word (scalar v).reverse) [.scalar v] := by
    constructor
    · rcases h with rfl | rfl | rfl <;> rfl
    · rcases h with rfl | rfl | rfl <;> (rintro c (rfl | rfl | rfl) <;> rfl)
  exact ⟨[], [.scalar v], _, hcuts, howes, rfl⟩

/-! ## Legible values -/

mutual

/-- Whether a value has a text of its own: its strings and names are texts, and its other numbers
keep the text of a number. -/
def isLegible : Json → Bool
  | .unreadable => false
  | .real text => number? text.toList = some (.real text)
  | .arr items => areLegible items
  | .obj members => haveLegible members
  | _ => true

/-- Whether some items have texts of their own. -/
def areLegible : List Json → Bool
  | [] => true
  | v :: rest => isLegible v && areLegible rest

/-- Whether the values of some members have texts of their own. -/
def haveLegible : List (String × Json) → Bool
  | [] => true
  | (_, v) :: rest => isLegible v && haveLegible rest

end

mutual

/-- The characters of a value write its tokens. -/
theorem writes_chars (v : Json) (h : isLegible v = true) : Writes (chars v) (tokens v) := by
  match v with
  | .null => exact writes_word .null (.inl rfl)
  | .bool true => exact writes_word _ (.inr (.inl rfl))
  | .bool false => exact writes_word _ (.inr (.inr rfl))
  | .int n => exact writes_number (number?_digits n)
  | .real text => exact writes_number (of_decide_eq_true h)
  | .str text => exact (cuts_literal text).writes
  | .arr items =>
    have hopen : Cuts .between ['['] [.mark '['] .between := .single rfl
    have hclose := (writes_itemChars items h).mark (.inr (.inl rfl))
    exact (hopen.append hclose).writes
  | .obj members =>
    have hopen : Cuts .between ['\x7b'] [.mark '\x7b'] .between := .single rfl
    have hclose := (writes_memberChars members h).mark (.inr (.inr rfl))
    exact (hopen.append hclose).writes

/-- The characters of some items write their tokens. -/
theorem writes_itemChars (items : List Json) (h : areLegible items = true) :
    Writes (itemChars items) (itemTokens items) := by
  match items with
  | [] => exact (Cuts.nil _).writes
  | [v] =>
    rw [areLegible, Bool.and_eq_true] at h
    exact writes_chars v h.1
  | v :: w :: rest =>
    rw [areLegible, Bool.and_eq_true] at h
    have hfirst := (writes_chars v h.1).mark (.inl rfl)
    have hall := hfirst.writes_append (writes_itemChars (w :: rest) h.2)
    rw [List.append_assoc, List.append_assoc] at hall
    exact hall

/-- The characters of some members write their tokens. -/
theorem writes_memberChars (members : List (String × Json)) (h : haveLegible members = true) :
    Writes (memberChars members) (memberTokens members) := by
  have hname : ∀ name : String,
      Cuts .between (literal name ++ [':']) [.string (some name), .mark ':'] .between :=
    fun name => (cuts_literal name).append (.single rfl)
  match members with
  | [] => exact (Cuts.nil _).writes
  | [(name, v)] =>
    rw [haveLegible, Bool.and_eq_true] at h
    have hall := (hname name).writes_append (writes_chars v h.1)
    rw [List.append_assoc] at hall
    exact hall
  | (name, v) :: m :: rest =>
    rw [haveLegible, Bool.and_eq_true] at h
    have hfirst := (hname name).append ((writes_chars v h.1).mark (.inl rfl))
    have hall := hfirst.writes_append (writes_memberChars (m :: rest) h.2)
    simp only [List.append_assoc, List.cons_append, List.nil_append] at hall
    simpa only [memberChars, memberTokens, List.append_assoc, List.cons_append] using hall

end

/-- A legible value is read back from its text. -/
theorem parse?_compact {v : Json} (h : isLegible v = true) : parse? (compact v) = some v := by
  unfold parse? compact
  rw [String.toList_ofList, (writes_chars v h).tokens?]
  exact ofTokens?_tokens v

end GoopOperator.Json
