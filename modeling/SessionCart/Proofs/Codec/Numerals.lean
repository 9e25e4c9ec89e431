import Mathlib.Algebra.Order.Group.Nat
import Mathlib.Algebra.Order.Ring.Nat
import Mathlib.Data.List.Basic
import Mathlib.Tactic.IntervalCases
import SessionCart.Decimal.Text
import SessionCart.Text.Blank

/-!
# Numerals read back

What is written in decimal digits is read as the number it was written for, whether the digits are as
many as the number needs or a fixed count with zeros in front. A decimal is read back with its sign
and its places; only the sign of a minus zero is not, and no text is read as a minus zero.
-/

namespace SessionCart

namespace Text

/-! ### Digits -/

theorem isDigit_digitChar {d : Nat} (h : d < 10) : (digitChar d).isDigit = true := by
  interval_cases d <;> rfl

theorem digitValue_digitChar {d : Nat} (h : d < 10) : digitValue (digitChar d) = d := by
  interval_cases d <;> rfl

theorem toNat_of_isDigit {c : Char} (h : c.isDigit = true) : 48 ≤ c.toNat ∧ c.toNat ≤ 57 := by
  simpa [Char.isDigit, UInt32.le_iff_toNat_le] using h

theorem ne_of_isDigit {c mark : Char} (h : c.isDigit = true) (hm : mark.isDigit = false) :
    c ≠ mark := by
  rintro rfl
  simp [hm] at h

theorem isBlank_of_isDigit {c : Char} (h : c.isDigit = true) : isBlank c = false := by
  have := toNat_of_isDigit h
  simp [isBlank, inRanges, blankRanges]
  omega

theorem all_isDigit_fixedDigits (width n : Nat) :
    ∀ c ∈ fixedDigits width n, c.isDigit = true := by
  induction width generalizing n with
  | zero => simp [fixedDigits]
  | succ width ih =>
    intro c hc
    rcases List.mem_append.1 hc with hc | hc
    · exact ih (n / 10) c hc
    · rw [List.mem_singleton.1 hc]
      exact isDigit_digitChar (Nat.mod_lt _ (by decide))

@[simp] theorem length_fixedDigits (width n : Nat) : (fixedDigits width n).length = width := by
  induction width generalizing n with
  | zero => rfl
  | succ width ih => simp [fixedDigits, ih]

theorem fixedDigits_succ (width n : Nat) :
    fixedDigits (width + 1) n = digitChar (n / tenPow width % 10) :: fixedDigits width n := by
  induction width generalizing n with
  | zero => simp [fixedDigits]
  | succ width ih =>
    have hdiv : n / 10 / tenPow width = n / tenPow (width + 1) := by
      rw [Nat.div_div_eq_div_mul, tenPow_succ, Nat.mul_comm]
    calc fixedDigits (width + 2) n
        = fixedDigits (width + 1) (n / 10) ++ [digitChar (n % 10)] := rfl
      _ = digitChar (n / tenPow (width + 1) % 10) :: fixedDigits (width + 1) n := by
        rw [ih, hdiv]; rfl

theorem all_isDigit_digits (n : Nat) : ∀ c ∈ digits n, c.isDigit = true := by
  induction n using digits.induct with
  | case1 n h =>
    rw [digits, if_pos h]
    intro c hc
    rw [List.mem_singleton.1 hc]
    exact isDigit_digitChar h
  | case2 n h ih =>
    rw [digits, if_neg h]
    intro c hc
    rcases List.mem_append.1 hc with hc | hc
    · exact ih c hc
    · rw [List.mem_singleton.1 hc]
      exact isDigit_digitChar (Nat.mod_lt _ (by decide))

theorem digits_ne_nil (n : Nat) : digits n ≠ [] := by
  rw [digits]
  split <;> simp

/-! ### Their value -/

theorem digitsValue?_concat (cs : List Char) {d : Nat} (h : d < 10) :
    digitsValue? (cs ++ [digitChar d]) = (digitsValue? cs).map fun n => 10 * n + d := by
  unfold digitsValue?
  rw [List.foldlM_append]
  simp [isDigit_digitChar h, digitValue_digitChar h, Option.map_eq_bind]

theorem digitsValue?_digits (n : Nat) : digitsValue? (digits n) = some n := by
  induction n using digits.induct with
  | case1 n h =>
    rw [digits, if_pos h]
    simpa [digitsValue?] using digitsValue?_concat [] h
  | case2 n h ih =>
    rw [digits, if_neg h, digitsValue?_concat _ (Nat.mod_lt _ (by decide)), ih, Option.map_some]
    congr 1
    omega

theorem digitsValue?_fixedDigits (width n : Nat) :
    digitsValue? (fixedDigits width n) = some (n % tenPow width) := by
  induction width generalizing n with
  | zero => simp [fixedDigits, digitsValue?, Nat.mod_one]
  | succ width ih =>
    rw [fixedDigits, digitsValue?_concat _ (Nat.mod_lt _ (by decide)), ih, Option.map_some,
      tenPow_succ, Nat.mul_comm (tenPow width), Nat.mod_mul, Nat.add_comm]

theorem digitsValue?_fixedDigits_of_lt {width n : Nat} (h : n < tenPow width) :
    digitsValue? (fixedDigits width n) = some n := by
  rw [digitsValue?_fixedDigits, Nat.mod_eq_of_lt h]

theorem digitsValue?_append_zeros (cs : List Char) (k : Nat) :
    digitsValue? (cs ++ List.replicate k '0') = (digitsValue? cs).map (· * tenPow k) := by
  induction k with
  | zero => simp
  | succ k ih =>
    have hsnoc : cs ++ List.replicate (k + 1) '0' = (cs ++ List.replicate k '0') ++ [digitChar 0] := by
      rw [List.replicate_succ', List.append_assoc]
      rfl
    rw [hsnoc, digitsValue?_concat _ (by decide), ih, Option.map_map]
    congr 1
    funext n
    simp only [Function.comp_apply, tenPow_succ, Nat.add_zero]
    rw [Nat.mul_comm 10, Nat.mul_assoc]

/-! ### Where digits end -/

/-- What follows a number, if anything, is no digit. -/
def NoDigit (cs : List Char) : Prop := ∀ c ∈ cs.head?, c.isDigit = false

theorem noDigit_nil : NoDigit [] := by
  rintro c ⟨⟩

theorem takeWhile_isDigit_append {ds rest : List Char} (hds : ∀ c ∈ ds, c.isDigit = true)
    (hrest : NoDigit rest) : (ds ++ rest).takeWhile Char.isDigit = ds := by
  rw [List.takeWhile_append_of_pos hds]
  cases rest with
  | nil => simp
  | cons c rest => simp [hrest c rfl]

theorem dropWhile_isDigit_append {ds rest : List Char} (hds : ∀ c ∈ ds, c.isDigit = true)
    (hrest : NoDigit rest) : (ds ++ rest).dropWhile Char.isDigit = rest := by
  rw [List.dropWhile_append_of_pos hds]
  cases rest with
  | nil => rfl
  | cons c rest => simp [hrest c rfl]

end Text

/-! ### Decimals -/

namespace Decimal

open Text

/-- The number is a zero with a minus sign. -/
def IsMinusZero (a : Decimal) : Prop := a.negative = true ∧ a.magnitude = 0

instance (a : Decimal) : Decidable a.IsMinusZero := by
  unfold IsMinusZero
  infer_instance

theorem withoutMinusZero_eq_self_iff (a : Decimal) :
    a.withoutMinusZero = a ↔ ¬a.IsMinusZero := by
  obtain ⟨negative, magnitude, scale, hm, hs⟩ := a
  cases negative <;> simp [withoutMinusZero, isNegative, isZero, IsMinusZero]

theorem not_isMinusZero_withoutMinusZero (a : Decimal) : ¬a.withoutMinusZero.IsMinusZero := by
  obtain ⟨negative, magnitude, scale, hm, hs⟩ := a
  cases negative <;> simp [withoutMinusZero, isNegative, isZero, IsMinusZero]

theorem ofParts?_self (a : Decimal) :
    ofParts? a.negative a.magnitude a.scale = some a.withoutMinusZero :=
  dif_pos ⟨a.magnitude_lt, a.scale_le⟩

/-- Places that a number has are taken in one by one; none of them is too many. The induction is on
the places not yet taken. -/
theorem extend?_fixedDigits (negative : Bool) {magnitude scale : Nat} (hm : magnitude < bound)
    (hs : scale ≤ 28) {left : Nat} (hl : left ≤ scale) :
    extend? negative (magnitude / tenPow left) (scale - left) (fixedDigits left magnitude) =
      ofParts? negative magnitude scale := by
  induction left with
  | zero => simp [fixedDigits, extend?]
  | succ left ih =>
    have hlonger : 10 * (magnitude / tenPow (left + 1)) + magnitude / tenPow left % 10 =
        magnitude / tenPow left := by
      rw [tenPow_succ, ← Nat.div_div_eq_div_mul]
      omega
    have hfits : magnitude / tenPow left < bound := lt_of_le_of_lt (Nat.div_le_self _ _) hm
    rw [fixedDigits_succ, extend?]
    simp only [digitValue_digitChar (Nat.mod_lt _ (by decide : 0 < 10)), hlonger]
    rw [if_pos ⟨hfits, by omega⟩, show scale - (left + 1) + 1 = scale - left by omega]
    exact ih (by omega)

/-- Digits up to the end, or up to a point with digits behind it, are what is read. -/
theorem readMagnitude?_eq (negative : Bool) {whole places cs : List Char} (hne : whole ≠ [])
    (hwhole : ∀ c ∈ whole, c.isDigit = true) (hplaces : ∀ c ∈ places, c.isDigit = true)
    (hcs : cs = whole ∧ places = [] ∨ cs = whole ++ '.' :: places) :
    readMagnitude? negative cs =
      (digitsValue? whole).bind fun value => extend? negative value 0 places := by
  have hpoint : ∀ c ∈ whole, decide (c ≠ '.') = true :=
    fun c hc => decide_eq_true (ne_of_isDigit (hwhole c hc) (by decide))
  have htake : cs.takeWhile (fun c => decide (c ≠ '.')) = whole := by
    rcases hcs with ⟨rfl, -⟩ | rfl
    · rw [← List.append_nil cs, List.takeWhile_append_of_pos hpoint]
      rfl
    · rw [List.takeWhile_append_of_pos hpoint]
      simp
  have hdrop : (cs.dropWhile fun c => decide (c ≠ '.')).drop 1 = places := by
    rcases hcs with ⟨rfl, rfl⟩ | rfl
    · rw [← List.append_nil cs, List.dropWhile_append_of_pos hpoint]
      rfl
    · rw [List.dropWhile_append_of_pos hpoint]
      simp
  have hsome : whole.isEmpty = false := by simpa using hne
  have hall : places.all Char.isDigit = true := List.all_eq_true.2 hplaces
  simp only [readMagnitude?]
  rw [htake, hdrop, hsome, hall]
  rfl

theorem readMagnitude?_textDigits (negative : Bool) {magnitude scale : Nat}
    (hm : magnitude < bound) (hs : scale ≤ 28) :
    readMagnitude? negative (textDigits magnitude scale) = ofParts? negative magnitude scale := by
  by_cases hscale : scale = 0
  · subst hscale
    have htext : textDigits magnitude 0 = digits magnitude := if_pos rfl
    rw [readMagnitude?_eq negative (digits_ne_nil magnitude) (all_isDigit_digits magnitude)
      (List.forall_mem_nil _) (.inl ⟨htext, rfl⟩), digitsValue?_digits]
    rfl
  · have htext : textDigits magnitude scale =
        digits (magnitude / tenPow scale) ++ '.' :: fixedDigits scale magnitude := if_neg hscale
    rw [readMagnitude?_eq negative (digits_ne_nil _) (all_isDigit_digits _)
      (all_isDigit_fixedDigits scale magnitude) (.inr htext), digitsValue?_digits]
    have hread := extend?_fixedDigits negative hm hs (le_refl scale)
    rwa [Nat.sub_self] at hread

theorem textDigits_head (magnitude scale : Nat) :
    ∃ c rest, textDigits magnitude scale = c :: rest ∧ c.isDigit = true := by
  obtain ⟨m, hm⟩ : ∃ m, digits m <+: textDigits magnitude scale := by
    unfold textDigits
    split
    · exact ⟨_, List.prefix_rfl⟩
    · exact ⟨_, List.prefix_append _ _⟩
  obtain ⟨c, rest, hc⟩ := List.exists_cons_of_ne_nil (digits_ne_nil m)
  obtain ⟨tail, htail⟩ := hm
  refine ⟨c, rest ++ tail, by rw [← htail, hc, List.cons_append], ?_⟩
  exact all_isDigit_digits m c (by simp [hc])

/-- A decimal is read back from its text with its places, and with its sign unless it is zero. -/
theorem ofText?_text (a : Decimal) : ofText? a.text = some a.withoutMinusZero := by
  have hread := readMagnitude?_textDigits a.negative a.magnitude_lt a.scale_le
  rw [ofParts?_self] at hread
  rw [ofText?, text, String.toList_ofList, toChars]
  cases hsign : a.negative with
  | true => simpa [ofChars?, hsign] using hread
  | false =>
    obtain ⟨c, rest, hc, hdigit⟩ := textDigits_head a.magnitude a.scale
    have hplus : c ≠ '+' := ne_of_isDigit hdigit (by decide)
    have hminus : c ≠ '-' := ne_of_isDigit hdigit (by decide)
    simp only [Bool.false_eq_true, if_false]
    rw [hsign] at hread
    rw [← hread, hc, ofChars?]
    · rintro _ ⟨⟩
      exact hplus rfl
    · rintro _ ⟨⟩
      exact hminus rfl

/-! ### No text of a minus zero -/

theorem not_isMinusZero_of_ofParts? {negative : Bool} {magnitude scale : Nat} {a : Decimal}
    (h : ofParts? negative magnitude scale = some a) : ¬a.IsMinusZero := by
  unfold ofParts? at h
  split at h
  · cases h
    exact not_isMinusZero_withoutMinusZero _
  · cases h

theorem not_isMinusZero_of_ofPartsUp? {negative : Bool} {magnitude scale : Nat} {a : Decimal}
    (h : ofPartsUp? negative magnitude scale = some a) : ¬a.IsMinusZero := by
  unfold ofPartsUp? at h
  split at h
  · exact not_isMinusZero_of_ofParts? h
  · split at h
    · cases h
    · exact not_isMinusZero_of_ofParts? h

theorem not_isMinusZero_of_extend? {negative : Bool} {magnitude scale : Nat} {places : List Char}
    {a : Decimal} (h : extend? negative magnitude scale places = some a) : ¬a.IsMinusZero := by
  induction places generalizing magnitude scale with
  | nil => exact not_isMinusZero_of_ofParts? h
  | cons c places ih =>
    simp only [extend?] at h
    split at h
    · exact ih h
    · split at h
      · exact not_isMinusZero_of_ofParts? h
      · exact not_isMinusZero_of_ofPartsUp? h

theorem not_isMinusZero_of_readMagnitude? {negative : Bool} {cs : List Char} {a : Decimal}
    (h : readMagnitude? negative cs = some a) : ¬a.IsMinusZero := by
  simp only [readMagnitude?] at h
  split at h
  · cases h
  · obtain ⟨whole, -, hextend⟩ := Option.bind_eq_some_iff.1 h
    exact not_isMinusZero_of_extend? hextend

theorem not_isMinusZero_of_ofText? {s : String} {a : Decimal} (h : ofText? s = some a) :
    ¬a.IsMinusZero := by
  unfold ofText? ofChars? at h
  split at h <;> exact not_isMinusZero_of_readMagnitude? h

end Decimal

end SessionCart
