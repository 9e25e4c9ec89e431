import SessionCart.Proofs.Codec.Numerals
import SessionCart.Timestamp

/-!
# Instants read back

The text of an instant is read as that instant: the year with its sign, the fields of two digits, the
fraction in whichever of its four lengths it was written, and the zone `Z`, which moves nothing. Each
reader is shown to take from the front of the text what its writer put there and to leave the rest.
-/

namespace SessionCart

namespace Text

theorem dropWhile_isBlank_of_isDigit {cs : List Char} (h : ∃ c ∈ cs.head?, c.isDigit = true) :
    cs.dropWhile isBlank = cs := by
  obtain ⟨c, hc, hdigit⟩ := h
  cases cs with
  | nil => cases hc
  | cons d rest =>
    cases hc
    simp [isBlank_of_isDigit hdigit]

end Text

namespace Timestamp

open Text

/-! ### Numbers -/

/-- Digits in front are taken as a number: all there is room for, or all there are. -/
theorem takeNumber?_append {width : Nat} {ds rest : List Char} (hne : ds ≠ [])
    (hds : ∀ c ∈ ds, c.isDigit = true) (hwidth : ds.length ≤ width)
    (hrest : ds.length = width ∨ NoDigit rest) :
    takeNumber? width (ds ++ rest) = (digitsValue? ds).map (·, rest) := by
  have hfront : ∃ c ∈ (ds ++ rest).head?, c.isDigit = true := by
    obtain ⟨c, tail, rfl⟩ := List.exists_cons_of_ne_nil hne
    exact ⟨c, rfl, hds c List.mem_cons_self⟩
  have htake : ((ds ++ rest).take width).takeWhile Char.isDigit = ds := by
    rcases hrest with hfull | hrest
    · rw [← hfull, List.take_left]
      simpa using takeWhile_isDigit_append hds noDigit_nil
    · rw [List.take_append, List.take_of_length_le hwidth]
      refine takeWhile_isDigit_append hds fun c hc => hrest c ?_
      cases rest with
      | nil => simp at hc
      | cons d rest =>
        cases hleft : width - ds.length with
        | zero => simp [hleft] at hc
        | succ left => simpa [hleft] using hc
  have hsome : ds.isEmpty = false := by simpa using hne
  simp only [takeNumber?]
  rw [dropWhile_isBlank_of_isDigit hfront, htake, hsome, List.drop_left]
  rfl

theorem takeNumber?_fixedDigits {width n : Nat} (hn : n < tenPow width) (hw : 0 < width)
    (rest : List Char) : takeNumber? width (fixedDigits width n ++ rest) = some (n, rest) := by
  have hne : fixedDigits width n ≠ [] :=
    List.ne_nil_of_length_pos (by rwa [length_fixedDigits])
  rw [takeNumber?_append hne (all_isDigit_fixedDigits width n) (length_fixedDigits width n).le
    (.inl (length_fixedDigits width n)), digitsValue?_fixedDigits_of_lt hn]
  rfl

theorem takePair_digits {n : Nat} (hn : n < 100) (rest : List Char) :
    takeNumber? 2 (fixedDigits 2 n ++ rest) = some (n, rest) :=
  takeNumber?_fixedDigits hn (by decide) rest

theorem takeDigits?_append {ds rest : List Char} (hne : ds ≠ [])
    (hds : ∀ c ∈ ds, c.isDigit = true) (hrest : NoDigit rest) :
    takeDigits? (ds ++ rest) = (digitsValue? ds).map (·, rest) := by
  obtain ⟨c, tail, rfl⟩ := List.exists_cons_of_ne_nil hne
  have hdigit : c.isDigit = true := hds c List.mem_cons_self
  rw [takeDigits?, if_pos (by simpa using hdigit)]
  exact takeNumber?_append hne hds (by simp) (.inr hrest)

/-! ### The year -/

/-- The digits of a year's distance from the year 0. -/
def yearDigits (n : Nat) : List Char := if n < 10_000 then fixedDigits 4 n else digits n

theorem yearDigits_ne_nil (n : Nat) : yearDigits n ≠ [] := by
  unfold yearDigits
  split
  · exact List.ne_nil_of_length_pos (by simp)
  · exact digits_ne_nil n

theorem all_isDigit_yearDigits (n : Nat) : ∀ c ∈ yearDigits n, c.isDigit = true := by
  unfold yearDigits
  split
  · exact all_isDigit_fixedDigits 4 n
  · exact all_isDigit_digits n

theorem digitsValue?_yearDigits (n : Nat) : digitsValue? (yearDigits n) = some n := by
  unfold yearDigits
  split
  case isTrue h => exact digitsValue?_fixedDigits_of_lt h
  case isFalse => exact digitsValue?_digits n

theorem takeDigits?_yearDigits (n : Nat) {rest : List Char} (hrest : NoDigit rest) :
    takeDigits? (yearDigits n ++ rest) = some (n, rest) := by
  rw [takeDigits?_append (yearDigits_ne_nil n) (all_isDigit_yearDigits n) hrest,
    digitsValue?_yearDigits]
  rfl

theorem takeYear?_minus (rest : List Char) :
    takeYear? ('-' :: rest) = (takeDigits? rest).map fun (year, rest) => (-(year : Int), rest) := rfl

theorem takeYear?_plus (rest : List Char) :
    takeYear? ('+' :: rest) = (takeDigits? rest).map fun (year, rest) => ((year : Int), rest) := rfl

theorem takeYear?_digit {cs : List Char} (h : ∃ c ∈ cs.head?, c.isDigit = true) :
    takeYear? cs = (takeNumber? 4 cs).map fun (year, rest) => ((year : Int), rest) := by
  have hfront := dropWhile_isBlank_of_isDigit h
  obtain ⟨c, hc, hdigit⟩ := h
  rw [takeYear?, hfront]
  split
  · cases hc
    simp [Char.isDigit] at hdigit
  · cases hc
    simp [Char.isDigit] at hdigit
  · rfl

theorem takeYear?_yearChars (year : Int) {rest : List Char} (hrest : NoDigit rest) :
    takeYear? (yearChars year ++ rest) = some (year, rest) := by
  have hchars : yearChars year = if year < 0 then '-' :: yearDigits year.natAbs
      else if year < 10_000 then yearDigits year.natAbs else '+' :: yearDigits year.natAbs := rfl
  rw [hchars]
  split
  case isTrue hneg =>
    have habs : -(year.natAbs : Int) = year := by omega
    rw [List.cons_append, takeYear?_minus, takeDigits?_yearDigits _ hrest]
    simp only [Option.map_some, habs]
  case isFalse hneg =>
    have habs : (year.natAbs : Int) = year := by omega
    split
    case isTrue hfour =>
      have hdigits : yearDigits year.natAbs = fixedDigits 4 year.natAbs := if_pos (by omega)
      have hfront : ∃ c ∈ (fixedDigits 4 year.natAbs ++ rest).head?, c.isDigit = true := by
        rw [fixedDigits_succ]
        exact ⟨_, rfl, isDigit_digitChar (Nat.mod_lt _ (by decide))⟩
      rw [hdigits, takeYear?_digit hfront,
        takeNumber?_fixedDigits (show year.natAbs < tenPow 4 by change _ < 10_000; omega)
          (by decide)]
      simp only [Option.map_some, habs]
    case isFalse hmany =>
      rw [List.cons_append, takeYear?_plus, takeDigits?_yearDigits _ hrest]
      simp only [Option.map_some, habs]

/-! ### The fraction -/

theorem takeFraction?_point {ds rest : List Char} (hne : ds ≠ [])
    (hds : ∀ c ∈ ds, c.isDigit = true) (hrest : NoDigit rest) :
    takeFraction? ('.' :: ds ++ rest) =
      (digitsValue? ((ds ++ List.replicate 9 '0').take 9)).map (·, rest) := by
  have hsome : ds.isEmpty = false := by simpa using hne
  rw [List.cons_append, takeFraction?]
  simp only [takeWhile_isDigit_append hds hrest, dropWhile_isDigit_append hds hrest, hsome]
  rfl

/-- Three, six or nine digits stand for as many nanoseconds as they would with zeros up to the
ninth. -/
theorem takeFraction?_fixedDigits {places value : Nat} (hpos : 0 < places) (hle : places ≤ 9)
    (hvalue : value < tenPow places) {rest : List Char} (hrest : NoDigit rest) :
    takeFraction? ('.' :: fixedDigits places value ++ rest) =
      some (value * tenPow (9 - places), rest) := by
  have hne : fixedDigits places value ≠ [] :=
    List.ne_nil_of_length_pos (by rwa [length_fixedDigits])
  have hnine : (fixedDigits places value ++ List.replicate 9 '0').take 9 =
      fixedDigits places value ++ List.replicate (9 - places) '0' := by
    rw [List.take_append, length_fixedDigits, List.take_of_length_le (by simpa using hle),
      List.take_replicate, min_eq_left (by omega)]
  rw [takeFraction?_point hne (all_isDigit_fixedDigits places value) hrest, hnine,
    digitsValue?_append_zeros, digitsValue?_fixedDigits_of_lt hvalue]
  rfl

theorem takeFraction?_fraction {nano : Nat} (h : nano < 1_000_000_000) :
    takeFraction? (fraction nano ++ ['Z']) = some (nano, ['Z']) := by
  have hz : NoDigit ['Z'] := by
    rintro c ⟨⟩
    decide
  have hread : ∀ places value : Nat, 0 < places → places ≤ 9 → value < tenPow places →
      value * tenPow (9 - places) = nano →
        takeFraction? ('.' :: fixedDigits places value ++ ['Z']) = some (nano, ['Z']) := by
    intro places value hpos hle hvalue heq
    rw [takeFraction?_fixedDigits hpos hle hvalue hz, heq]
  unfold fraction
  split
  case isTrue hzero => rw [hzero]; rfl
  split
  case isTrue hmilli =>
    refine hread 3 _ (by decide) (by decide) (show _ < 1_000 by omega) ?_
    change nano / 1_000_000 * 1_000_000 = nano
    omega
  split
  case isTrue hmicro =>
    refine hread 6 _ (by decide) (by decide) (show _ < 1_000_000 by omega) ?_
    change nano / 1_000 * 1_000 = nano
    omega
  case isFalse => exact hread 9 _ (by decide) (by decide) h (Nat.mul_one nano)

/-! ### Instants -/

theorem isValid_iff (d : Date) :
    d.isValid = true ↔ (Date.firstYear ≤ d.year ∧ d.year ≤ Date.lastYear) ∧
      (1 ≤ d.month ∧ d.month ≤ 12) ∧ 1 ≤ d.day ∧ d.day ≤ Date.monthLength d.year d.month := by
  simp [Date.isValid, and_assoc]

theorem monthLength_le (year : Int) (month : Nat) : Date.monthLength year month ≤ 31 := by
  unfold Date.monthLength
  split <;> first | omega | (split <;> omega)

theorem ofZoned?_zero (t : Timestamp) :
    ofZoned? t.date t.minute t.second t.nano 0 = some t := by
  have hnonneg : ¬((t.minute : Int) - 0 < 0) := by omega
  have hday : (t.minute : Int) - 0 < 1440 := by
    have := t.minute_lt
    omega
  have hof : of? t.date t.minute t.second t.nano = some t :=
    dif_pos ⟨t.date_valid, t.minute_lt, t.second_le, t.nano_lt⟩
  simp only [ofZoned?]
  rw [if_neg (by simpa [t.date_valid] using t.minute_lt), if_neg hnonneg, if_pos hday]
  simpa using hof

theorem takeSeparator?_self {mark : Char} (h : isBlank mark = false) (rest : List Char) :
    takeSeparator? mark (mark :: rest) = some rest := by
  simp [takeSeparator?, takeMark?, h]

theorem noDigit_minus (rest : List Char) : NoDigit ('-' :: rest) := by
  rintro c ⟨⟩
  decide

theorem toChars_eq (t : Timestamp) : t.toChars =
    yearChars t.date.year ++ '-' :: (fixedDigits 2 t.date.month ++
      '-' :: (fixedDigits 2 t.date.day ++ 'T' :: (fixedDigits 2 (t.minute / 60) ++
        ':' :: (fixedDigits 2 (t.minute % 60) ++ ':' :: (fixedDigits 2 t.second ++
          (fraction t.nano ++ ['Z'])))))) := by
  simp [toChars]

theorem ofText?_text (t : Timestamp) : ofText? t.text = some t := by
  obtain ⟨-, ⟨-, hmonth⟩, -, hday⟩ := (isValid_iff t.date).1 t.date_valid
  have hdays := hday.trans (monthLength_le _ _)
  have hminute := t.minute_lt
  have hsecond := t.second_le
  have hdash := takeSeparator?_self (show isBlank '-' = false by decide)
  have hcolon := takeSeparator?_self (show isBlank ':' = false by decide)
  rw [ofText?, text, String.toList_ofList, toChars_eq]
  -- The parts are taken from the front one after another.
  refine Option.bind_eq_some_iff.2 ⟨_, takeYear?_yearChars _ (noDigit_minus _), ?_⟩
  refine Option.bind_eq_some_iff.2 ⟨_, hdash _, ?_⟩
  refine Option.bind_eq_some_iff.2 ⟨_, takePair_digits (by omega) _, ?_⟩
  refine Option.bind_eq_some_iff.2 ⟨_, hdash _, ?_⟩
  refine Option.bind_eq_some_iff.2 ⟨_, takePair_digits (by omega) _, ?_⟩
  refine Option.bind_eq_some_iff.2 ⟨_, rfl, ?_⟩
  refine Option.bind_eq_some_iff.2 ⟨_, takePair_digits (by omega) _, ?_⟩
  refine Option.bind_eq_some_iff.2 ⟨_, hcolon _, ?_⟩
  refine Option.bind_eq_some_iff.2 ⟨_, takePair_digits (by omega) _, ?_⟩
  refine Option.bind_eq_some_iff.2 ⟨_, hcolon _, ?_⟩
  refine Option.bind_eq_some_iff.2 ⟨_, takePair_digits (by omega) _, ?_⟩
  refine Option.bind_eq_some_iff.2 ⟨_, takeFraction?_fraction t.nano_lt, ?_⟩
  refine Option.bind_eq_some_iff.2 ⟨(0, []), rfl, ?_⟩
  have hhours : t.minute / 60 < 24 ∧ t.minute % 60 < 60 := by omega
  have hclock : t.minute / 60 * 60 + t.minute % 60 = t.minute := by omega
  simpa [hhours, hclock] using ofZoned?_zero t

end Timestamp

end SessionCart
