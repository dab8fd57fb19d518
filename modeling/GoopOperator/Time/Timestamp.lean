import GoopOperator.Text.Blank

/-!
# Time stamps

A moment of coordinated universal time on the proleptic Gregorian calendar, to the nanosecond. `toText`
writes the second that it falls in, with a four-digit year, the letter `T` and a final `Z`; what has
passed of this second is not written. `ofText?` also reads stamps with a fraction of a second, with an
offset, which it applies, with single-digit fields, and with blanks around the separators.
-/

namespace GoopOperator

/-- Whether a year has 366 days. -/
def isLeapYear (year : Int) : Bool :=
  year % 4 = 0 ∧ (year % 100 ≠ 0 ∨ year % 400 = 0)

/-- The number of days of a month, January being 1. -/
def daysInMonth (year : Int) (month : Nat) : Nat :=
  if month = 2 then (if isLeapYear year then 29 else 28)
  else if month = 4 ∨ month = 6 ∨ month = 9 ∨ month = 11 then 30
  else 31

/-- A day of the calendar. -/
structure Date where
  /-- The year. -/
  year : Int
  /-- The month, January being 1. -/
  month : Nat
  /-- The day of the month. -/
  day : Nat
  /-- The calendar has this day. -/
  valid : -262143 ≤ year ∧ year ≤ 262142 ∧ 1 ≤ month ∧ month ≤ 12 ∧ 1 ≤ day ∧
    day ≤ daysInMonth year month
  deriving DecidableEq

/-- The day with the given numbers, if the calendar has it. -/
def Date.of? (year : Int) (month day : Nat) : Option Date :=
  if h : _ then some ⟨year, month, day, h⟩ else none

/-- The day after. -/
def Date.next? (d : Date) : Option Date :=
  if d.day < daysInMonth d.year d.month then of? d.year d.month (d.day + 1)
  else if d.month < 12 then of? d.year (d.month + 1) 1
  else of? (d.year + 1) 1 1

/-- The day before. -/
def Date.previous? (d : Date) : Option Date :=
  if 1 < d.day then of? d.year d.month (d.day - 1)
  else if 1 < d.month then of? d.year (d.month - 1) (daysInMonth d.year (d.month - 1))
  else of? (d.year - 1) 12 31

/-- A second of a minute, and what has passed of it. A numeral stands for its beginning. -/
structure Second where
  /-- The number of the second; 60 is a leap second. -/
  number : Nat
  /-- The nanoseconds of it that have passed. -/
  nanos : Nat
  deriving DecidableEq

instance (n : Nat) : OfNat Second n := ⟨⟨n, 0⟩⟩

/-- A moment of universal time. -/
structure Timestamp where
  /-- The day. -/
  date : Date
  /-- The hour of the day. -/
  hour : Nat
  /-- The minute of the hour. -/
  minute : Nat
  /-- The second of the minute. -/
  second : Second
  /-- The day has this second, and the second has these nanoseconds. -/
  valid : hour < 24 ∧ minute < 60 ∧ second.number ≤ 60 ∧ second.nanos < 1000000000
  deriving DecidableEq

namespace Timestamp

/-- The moment with the given numbers, if the day has it. -/
def of? (date : Date) (hour minute : Nat) (second : Second) : Option Timestamp :=
  if h : _ then some ⟨date, hour, minute, second, h⟩ else none

/-- The beginning of the second that a moment falls in. -/
def whole (t : Timestamp) : Timestamp :=
  ⟨t.date, t.hour, t.minute, ⟨t.second.number, 0⟩, t.valid.1, t.valid.2.1, t.valid.2.2.1,
    (by decide : 0 < 1000000000)⟩

/-! ## Writing -/

/-- A number with zeros in front of it up to a width. -/
def padded (width n : Nat) : List Char :=
  let ds := Nat.toDigits 10 n
  List.replicate (width - ds.length) '0' ++ ds

/-- A year: four digits, with a sign where these do not suffice. -/
def yearChars (year : Int) : List Char :=
  if year < 0 then '-' :: padded 4 year.natAbs
  else if 9999 < year then '+' :: padded 4 year.natAbs
  else padded 4 year.natAbs

/-- The characters of a stamp. -/
def chars (t : Timestamp) : List Char :=
  yearChars t.date.year ++ '-' :: padded 2 t.date.month ++ '-' :: padded 2 t.date.day ++
    'T' :: padded 2 t.hour ++ ':' :: padded 2 t.minute ++ ':' :: padded 2 t.second.number ++ ['Z']

/-- The text of a stamp. -/
def toText (t : Timestamp) : String := String.ofList t.chars

/-! ## Reading -/

/-- Reads a number of one digit to `most` digits, after blanks. -/
def number? (most : Nat) (cs : List Char) : Option (Nat × List Char) :=
  let rest := Text.dropBlanks cs
  let ds := (rest.take most).takeWhile Char.isDigit
  if ds = [] then none else some (Nat.ofDigitChars 10 ds 0, rest.drop ds.length)

/-- Reads a year, after blanks: up to four digits, or a sign and any number of them. -/
def year? (cs : List Char) : Option (Int × List Char) :=
  let signed (rest : List Char) (sign : Int) : Option (Int × List Char) :=
    if rest.head?.any Char.isDigit then
      (number? rest.length rest).map fun (n, rest) => (sign * n, rest)
    else none
  match Text.dropBlanks cs with
  | '-' :: rest => signed rest (-1)
  | '+' :: rest => signed rest 1
  | rest => (number? 4 rest).map fun (n, rest) => ((n : Int), rest)

/-- Reads a separator, after blanks. -/
def separator? (c : Char) (cs : List Char) : Option (List Char) :=
  match Text.dropBlanks cs with
  | d :: rest => if d = c then some rest else none
  | [] => none

/-- Reads a day. -/
def date? (cs : List Char) : Option (Date × List Char) := do
  let (year, cs) ← year? cs
  let cs ← separator? '-' cs
  let (month, cs) ← number? 2 cs
  let cs ← separator? '-' cs
  let (day, cs) ← number? 2 cs
  return (← Date.of? year month day, cs)

/-- Reads a fraction of a second in nanoseconds, if there is one: a point and at least one digit. The
digits behind the ninth do not count. -/
def fraction? : List Char → Option (Nat × List Char)
  | '.' :: rest =>
    let ds := (rest.take 9).takeWhile Char.isDigit
    if ds = [] then none
    else some (Nat.ofDigitChars 10 ds 0 * Nat.pow 10 (9 - ds.length), rest.dropWhile Char.isDigit)
  | cs => some (0, cs)

/-- Reads the two digits of a number less than `bound`, with no blanks before them. -/
def twoDigits? (bound : Nat) : List Char → Option (Nat × List Char)
  | c :: d :: rest =>
    let n := Nat.ofDigitChars 10 [c, d] 0
    if c.isDigit ∧ d.isDigit ∧ n < bound then some (n, rest) else none
  | _ => none

/-- Reads an offset from universal time, in minutes: a `Z`, the letters `UTC`, or a sign, hours and
minutes. -/
def offset? (cs : List Char) : Option (Int × List Char) :=
  let signed (sign : Int) (cs : List Char) : Option (Int × List Char) := do
    let (hours, cs) ← twoDigits? 24 cs
    let (minutes, cs) ← twoDigits? 60 (cs.dropWhile fun c => c = ':' ∨ Text.isBlank c)
    return (sign * (hours * 60 + minutes : Nat), cs)
  match cs with
  | 'Z' :: rest | 'z' :: rest => some (0, rest)
  | '+' :: rest => signed 1 rest
  | '-' :: rest | '−' :: rest => signed (-1) rest
  | cs => if (cs.take 3).map Char.toUpper = ['U', 'T', 'C'] then some (0, cs.drop 3) else none

/-- The universal time of a local time whose clock is `offset` minutes ahead. -/
def shift? (t : Timestamp) (offset : Int) : Option Timestamp :=
  let minutes : Int := (t.hour * 60 + t.minute : Nat) - offset
  -- an offset is less than a day, so the day changes by one at most
  let date? := if minutes < 0 then t.date.previous? else if 1440 ≤ minutes then t.date.next?
    else some t.date
  let clock := (minutes % 1440).toNat
  date?.bind fun d => of? d (clock / 60) (clock % 60) t.second

/-- Reads a stamp; nothing but blanks may follow it. -/
def ofText? (text : String) : Option Timestamp := do
  let (date, cs) ← date? text.toList
  let cs ← match cs with
    | 'T' :: rest | 't' :: rest | ' ' :: rest => some rest
    | _ => none
  let (hour, cs) ← number? 2 cs
  let cs ← separator? ':' cs
  let (minute, cs) ← number? 2 cs
  let cs ← separator? ':' cs
  let (second, cs) ← number? 2 cs
  let (nanos, cs) ← fraction? cs
  let (offset, cs) ← offset? (Text.dropBlanks cs)
  if Text.dropBlanks cs = [] then
    shift? (← of? date hour minute ⟨second, nanos⟩) offset
  else none

end Timestamp

end GoopOperator
