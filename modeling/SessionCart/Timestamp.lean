import SessionCart.Text.Blank
import SessionCart.Text.Integer

/-!
Instants in UTC, as the Gregorian calendar gives them, and their RFC 3339 text. Years before 0 and
after 9999 are written with a sign. Reading is lenient: blanks may stand between the parts, and
leading zeros may be missing. The text of another time zone is read by moving the minutes of the
day, which can pass midnight once.
-/

namespace SessionCart

/-- A day of the Gregorian calendar. The year before the year 1 is the year 0. -/
structure Date where
  year : Int
  month : Nat
  day : Nat
  deriving DecidableEq

namespace Date

def isLeap (year : Int) : Bool := year % 4 = 0 && (year % 100 ≠ 0 || year % 400 = 0)

/-- The number of days of a month; none for what is no month. -/
def monthLength (year : Int) (month : Nat) : Nat :=
  match month with
  | 1 | 3 | 5 | 7 | 8 | 10 | 12 => 31
  | 4 | 6 | 9 | 11 => 30
  | 2 => if isLeap year then 29 else 28
  | _ => 0

def firstYear : Int := -262_143

def lastYear : Int := 262_142

/-- The date exists, and its year can be had. -/
def isValid (d : Date) : Bool :=
  firstYear ≤ d.year && d.year ≤ lastYear && 1 ≤ d.month && d.month ≤ 12 && 1 ≤ d.day
    && d.day ≤ monthLength d.year d.month

def next (d : Date) : Date :=
  if d.day < monthLength d.year d.month then { d with day := d.day + 1 }
  else if d.month < 12 then ⟨d.year, d.month + 1, 1⟩
  else ⟨d.year + 1, 1, 1⟩

def previous (d : Date) : Date :=
  if 1 < d.day then { d with day := d.day - 1 }
  else if 1 < d.month then ⟨d.year, d.month - 1, monthLength d.year (d.month - 1)⟩
  else ⟨d.year - 1, 12, 31⟩

end Date

/-- An instant in UTC. The second 60 is a leap second. -/
structure Timestamp where
  date : Date
  minute : Nat
  second : Nat
  nano : Nat
  date_valid : date.isValid = true
  minute_lt : minute < 1440
  second_le : second ≤ 60
  nano_lt : nano < 1_000_000_000

namespace Timestamp

@[ext] theorem ext {a b : Timestamp} (hd : a.date = b.date) (hm : a.minute = b.minute)
    (hs : a.second = b.second) (hn : a.nano = b.nano) : a = b := by
  cases a; cases b; simp_all

instance : DecidableEq Timestamp := fun a b =>
  if h : a.date = b.date ∧ a.minute = b.minute ∧ a.second = b.second ∧ a.nano = b.nano then
    isTrue (ext h.1 h.2.1 h.2.2.1 h.2.2.2)
  else isFalse fun hab => h (hab ▸ ⟨rfl, rfl, rfl, rfl⟩)

def of? (date : Date) (minute second nano : Nat) : Option Timestamp :=
  if h : date.isValid = true ∧ minute < 1440 ∧ second ≤ 60 ∧ nano < 1_000_000_000 then
    some ⟨date, minute, second, nano, h.1, h.2.1, h.2.2.1, h.2.2.2⟩
  else none

/-- The `n`-th nanosecond of the minute with which 1970 begins. -/
def tick (n : Nat) : Timestamp where
  date := ⟨1970, 1, 1⟩
  minute := 0
  second := n / 1_000_000_000 % 60
  nano := n % 1_000_000_000
  date_valid := by decide
  minute_lt := by decide
  second_le := by omega
  nano_lt := Nat.mod_lt _ (by decide)

/-- The fraction of a second: no digits if it is zero, else three, six or nine, the fewest that are
exact. -/
def fraction (nano : Nat) : List Char :=
  if nano = 0 then []
  else if nano % 1_000_000 = 0 then '.' :: Text.fixedDigits 3 (nano / 1_000_000)
  else if nano % 1_000 = 0 then '.' :: Text.fixedDigits 6 (nano / 1_000)
  else '.' :: Text.fixedDigits 9 nano

/-- A year with at least four digits; years before 0 and after 9999 have a sign. -/
def yearChars (year : Int) : List Char :=
  let digits :=
    if year.natAbs < 10_000 then Text.fixedDigits 4 year.natAbs else Text.digits year.natAbs
  if year < 0 then '-' :: digits
  else if year < 10_000 then digits
  else '+' :: digits

def toChars (t : Timestamp) : List Char :=
  yearChars t.date.year ++ '-' :: Text.fixedDigits 2 t.date.month ++
    '-' :: Text.fixedDigits 2 t.date.day ++ 'T' :: Text.fixedDigits 2 (t.minute / 60) ++
    ':' :: Text.fixedDigits 2 (t.minute % 60) ++ ':' :: Text.fixedDigits 2 t.second ++
    fraction t.nano ++ ['Z']

def text (t : Timestamp) : String := String.ofList t.toChars

/-- Reads a number of one to `width` digits, blanks in front of it ignored; gives its value and what
follows. -/
def takeNumber? (width : Nat) (cs : List Char) : Option (Nat × List Char) :=
  let cs := cs.dropWhile Text.isBlank
  let digits := (cs.take width).takeWhile Char.isDigit
  if digits.isEmpty then none
  else (Text.digitsValue? digits).map (·, cs.drop digits.length)

def takeDigits? (cs : List Char) : Option (Nat × List Char) :=
  if cs.head?.any Char.isDigit then takeNumber? cs.length cs else none

/-- Reads a year: up to four digits, or any number of them after a sign. -/
def takeYear? (cs : List Char) : Option (Int × List Char) :=
  match cs.dropWhile Text.isBlank with
  | '+' :: rest => (takeDigits? rest).map fun (year, rest) => (year, rest)
  | '-' :: rest => (takeDigits? rest).map fun (year, rest) => (-year, rest)
  | cs => (takeNumber? 4 cs).map fun (year, rest) => (year, rest)

def takeMark? (marks : List Char) : List Char → Option (List Char)
  | [] => none
  | c :: rest => if c ∈ marks then some rest else none

/-- Reads a mark between two numbers, blanks in front of it ignored. -/
def takeSeparator? (mark : Char) (cs : List Char) : Option (List Char) :=
  takeMark? [mark] (cs.dropWhile Text.isBlank)

/-- Reads an optional fraction: a point and at least one digit, of which nine count. -/
def takeFraction? : List Char → Option (Nat × List Char)
  | '.' :: rest =>
    let digits := rest.takeWhile Char.isDigit
    if digits.isEmpty then none
    else (Text.digitsValue? ((digits ++ List.replicate 9 '0').take 9)).map
      (·, rest.dropWhile Char.isDigit)
  | cs => some (0, cs)

def takePair? : List Char → Option (Nat × List Char)
  | a :: b :: rest => (Text.digitsValue? [a, b]).map (·, rest)
  | _ => none

/-- Reads the hours and minutes of a time zone, colons or blanks between them ignored. -/
def takeOffset? (cs : List Char) : Option (Int × List Char) := do
  let (hours, cs) ← takePair? cs
  let (minutes, cs) ← takePair? (cs.dropWhile fun c => c = ':' || Text.isBlank c)
  if hours < 24 ∧ minutes < 60 then some ((hours * 60 + minutes : Nat), cs) else none

/-- Reads a time zone, blanks in front of it ignored: `Z`, `UTC`, or a sign, hours and minutes.
Gives the minutes east of UTC. -/
def takeZone? (cs : List Char) : Option (Int × List Char) :=
  let cs := cs.dropWhile Text.isBlank
  if (cs.take 3).map Char.toLower = ['u', 't', 'c'] then some (0, cs.drop 3)
  else match cs with
    | [] => none
    | c :: rest =>
      if c ∈ ['Z', 'z'] then some (0, rest)
      else if c = '+' then takeOffset? rest
      else if c ∈ ['-', '−'] then (takeOffset? rest).map fun (east, rest) => (-east, rest)
      else none

/-- The instant that a clock `east` minutes east of UTC shows as the given date and time. -/
def ofZoned? (date : Date) (minute second nano : Nat) (east : Int) : Option Timestamp :=
  let shifted : Int := minute - east
  if !date.isValid || 1440 ≤ minute then none
  else if shifted < 0 then of? date.previous (shifted + 1440).toNat second nano
  else if shifted < 1440 then of? date shifted.toNat second nano
  else of? date.next (shifted - 1440).toNat second nano

/-- Reads a date, a mark, a time with an optional fraction, and a time zone. -/
def ofChars? (cs : List Char) : Option Timestamp := do
  let (year, cs) ← takeYear? cs
  let cs ← takeSeparator? '-' cs
  let (month, cs) ← takeNumber? 2 cs
  let cs ← takeSeparator? '-' cs
  let (day, cs) ← takeNumber? 2 cs
  let cs ← takeMark? ['T', 't', ' '] cs
  let (hour, cs) ← takeNumber? 2 cs
  let cs ← takeSeparator? ':' cs
  let (minute, cs) ← takeNumber? 2 cs
  let cs ← takeSeparator? ':' cs
  let (second, cs) ← takeNumber? 2 cs
  let (nano, cs) ← takeFraction? cs
  let (east, cs) ← takeZone? cs
  if (cs.dropWhile Text.isBlank).isEmpty && hour < 24 && minute < 60 then
    ofZoned? ⟨year, month, day⟩ (hour * 60 + minute) second nano east
  else none

def ofText? (s : String) : Option Timestamp := ofChars? s.toList

end Timestamp

end SessionCart
