import Mathlib.Algebra.Order.BigOperators.Group.List
import Mathlib.Algebra.Order.Field.Basic
import Mathlib.Algebra.Order.Ring.Rat
import Mathlib.Tactic.FieldSimp
import Mathlib.Tactic.Linarith
import SessionCart.Decimal.Arithmetic

/-!
# Exact sums and products

Where the exact result has room with the places of its operands, it is not rounded: the number of a
sum or product is the sum or product of the numbers, even if a zero operand or factor leaves it with
fewer places.
-/

namespace SessionCart.Decimal

open Text

/-- The number that a decimal stands for. -/
def value (a : Decimal) : ℚ := a.coeff / tenPow a.scale

/-- There is room for a number with so many places. -/
def Room (x : ℚ) (places : Nat) : Prop := |x| * tenPow places < bound

/-- The decimal is the number, with that many places at most. -/
structure Is (a : Decimal) (x : ℚ) (places : Nat) : Prop where
  value_eq : a.value = x
  scale_le : a.scale ≤ places

variable {a b : Decimal} {x y : ℚ} {s t places : Nat}

theorem tenPow_add (s t : Nat) : tenPow (s + t) = tenPow s * tenPow t := Nat.pow_add 10 s t

theorem tenPow_cast_pos (k : Nat) : (0 : ℚ) < tenPow k := by exact_mod_cast tenPow_pos k

theorem tenPow_le_tenPow (h : s ≤ t) : (tenPow s : ℚ) ≤ tenPow t := by
  exact_mod_cast Nat.pow_le_pow_right (by decide : 0 < 10) h

theorem Room.mono (hy : Room y t) (hle : |x| ≤ |y|) (hs : s ≤ t) : Room x s :=
  calc |x| * tenPow s ≤ |y| * tenPow t :=
        mul_le_mul hle (tenPow_le_tenPow hs) (tenPow_cast_pos s).le (abs_nonneg y)
    _ < bound := hy

theorem Room.of_le (hy : Room y places) (hle : |x| ≤ y) : Room x places :=
  hy.mono (hle.trans (le_abs_self y)) le_rfl

/-! ### The number of a decimal -/

theorem value_eq_zero (ha : a.isZero = true) : a.value = 0 := by
  have hmagnitude : a.magnitude = 0 := by simpa [isZero] using ha
  simp [value, coeff, hmagnitude]

@[simp] theorem value_zero : zero.value = 0 := value_eq_zero rfl

theorem value_pos (ha : a.isPositive = true) : 0 < a.value := by
  obtain ⟨hnegative, hmagnitude⟩ : a.negative = false ∧ a.magnitude ≠ 0 := by
    simpa [isPositive, isZero] using ha
  have hpos : (0 : ℚ) < a.magnitude := by exact_mod_cast Nat.pos_of_ne_zero hmagnitude
  rw [value, coeff, hnegative]
  exact div_pos (by simpa using hpos) (tenPow_cast_pos a.scale)

theorem value_withoutMinusZero (a : Decimal) : a.withoutMinusZero.value = a.value := by
  rw [value, coeff_withoutMinusZero]
  rfl

theorem coeffAt_cast (h : a.scale ≤ places) : (a.coeffAt places : ℚ) = a.value * tenPow places := by
  have hne := (tenPow_cast_pos a.scale).ne'
  obtain ⟨more, rfl⟩ := Nat.exists_eq_add_of_le h
  rw [coeffAt, value, Nat.add_sub_cancel_left, tenPow_add]
  push_cast
  field_simp

theorem abs_value (a : Decimal) : |a.value| = a.magnitude / tenPow a.scale := by
  have hcoeff : |(a.coeff : ℚ)| = a.magnitude := by
    rw [coeff]
    split <;> simp
  rw [value, abs_div, hcoeff, abs_of_pos (tenPow_cast_pos a.scale)]

/-! ### Sums and products -/

/-- Fitting leaves a number as it is that has room with its own places. -/
theorem fit_exact {n : Int} (hn : (n : ℚ) = x * tenPow s) (hroom : Room x s) (hs : s ≤ 28) :
    ∃ c, fit (n < 0) n.natAbs s = some c ∧ c.Is x s := by
  have hlt : n.natAbs < bound := by
    have habs : ((n.natAbs : Nat) : ℚ) = |x| * tenPow s := by
      rw [Nat.cast_natAbs, Int.cast_abs, hn, abs_mul, abs_of_pos (tenPow_cast_pos s)]
    exact_mod_cast habs.trans_lt hroom
  refine ⟨_, fit_of_lt _ hlt hs, ?_, le_rfl⟩
  have hcoeff : (if decide (n < 0) = true then -(n.natAbs : Int) else n.natAbs) = n := by
    by_cases hneg : n < 0
    · rw [if_pos (decide_eq_true hneg)]
      omega
    · rw [if_neg (by simpa using hneg)]
      omega
  rw [value, coeff, hcoeff, hn, mul_div_cancel_right₀ _ (tenPow_cast_pos s).ne']

theorem add_exact (ha : a.Is x places) (hb : b.Is y places) (hroom : Room (x + y) places) :
    ∃ c, a.add b = .ok c ∧ c.Is (x + y) places := by
  obtain ⟨rfl, hsa⟩ := ha
  obtain ⟨rfl, hsb⟩ := hb
  rw [add]
  by_cases hza : a.isZero = true
  · refine ⟨b, if_pos hza, ?_, hsb⟩
    rw [value_eq_zero hza, zero_add]
  rw [if_neg hza]
  by_cases hzb : b.isZero = true
  · refine ⟨a, if_pos hzb, ?_, hsa⟩
    rw [value_eq_zero hzb, add_zero]
  have htotal : ((a.coeffAt (max a.scale b.scale) + b.coeffAt (max a.scale b.scale) : Int) : ℚ) =
      (a.value + b.value) * tenPow (max a.scale b.scale) := by
    rw [Int.cast_add, coeffAt_cast (Nat.le_max_left ..), coeffAt_cast (Nat.le_max_right ..),
      add_mul]
  have hplaces : max a.scale b.scale ≤ places := Nat.max_le.mpr ⟨hsa, hsb⟩
  obtain ⟨c, hfit, hvalue, hscale⟩ := fit_exact htotal (hroom.mono le_rfl hplaces)
    (Nat.max_le.mpr ⟨a.scale_le, b.scale_le⟩)
  refine ⟨c, ?_, hvalue, hscale.trans hplaces⟩
  rw [if_neg hzb, addNonzero, hfit]

theorem not_vanishes (h : a.scale + b.scale ≤ 47) : a.vanishes b = false := by
  rw [vanishes, decide_eq_false (Nat.not_lt.mpr h), Bool.and_false]

theorem magnitude_mul_cast (a b : Decimal) : ((a.magnitude * b.magnitude : Nat) : ℚ) =
    |a.value * b.value| * tenPow (a.scale + b.scale) := by
  have hna := (tenPow_cast_pos a.scale).ne'
  have hnb := (tenPow_cast_pos b.scale).ne'
  rw [abs_mul, abs_value, abs_value, tenPow_add]
  push_cast
  field_simp

/-- Signs, magnitudes and places are multiplied each on its own. -/
theorem value_mk_mul (hm : a.magnitude * b.magnitude < bound) (hs : a.scale + b.scale ≤ 28) :
    (Decimal.mk (a.negative != b.negative) (a.magnitude * b.magnitude) (a.scale + b.scale)
      hm hs).value = a.value * b.value := by
  have hna := (tenPow_cast_pos a.scale).ne'
  have hnb := (tenPow_cast_pos b.scale).ne'
  rw [value, value, value, coeff, coeff, coeff, tenPow_add]
  cases a.negative <;> cases b.negative <;> simp <;> field_simp

theorem mul_exact (ha : a.Is x s) (hb : b.Is y t) (hst : s + t ≤ 28)
    (hroom : Room (x * y) (s + t)) : ∃ c, a.mul b = .ok c ∧ c.Is (x * y) (s + t) := by
  obtain ⟨rfl, hsa⟩ := ha
  obtain ⟨rfl, hsb⟩ := hb
  have hscale : a.scale + b.scale ≤ s + t := Nat.add_le_add hsa hsb
  rw [mul, not_vanishes (by omega), Bool.or_false]
  by_cases hzero : (a.isZero || b.isZero) = true
  · refine ⟨zero, if_pos hzero, ?_, Nat.zero_le _⟩
    rcases Bool.or_eq_true_iff.mp hzero with hza | hzb
    · rw [value_eq_zero hza, zero_mul, value_zero]
    · rw [value_eq_zero hzb, mul_zero, value_zero]
  have hlt : a.magnitude * b.magnitude < bound := by
    exact_mod_cast (magnitude_mul_cast a b).trans_lt (hroom.mono le_rfl hscale)
  have hvalue := value_mk_mul hlt (hscale.trans hst)
  refine ⟨_, by rw [if_neg hzero, mulNonzero, fit_of_lt _ hlt (hscale.trans hst)], ?_, ?_⟩
  · split
    · rwa [value_withoutMinusZero]
    · exact hvalue
  · split <;> exact hscale

theorem sum_map_abs_nonneg {α : Type} (l : List α) (number : α → ℚ) :
    0 ≤ (l.map fun i => |number i|).sum := by
  refine List.sum_nonneg fun x hx => ?_
  obtain ⟨i, -, rfl⟩ := List.mem_map.mp hx
  exact abs_nonneg (number i)

/-- A sum is exact, whatever the signs of its terms, if there is room for their sizes. -/
theorem foldlM_add_exact {α : Type} {term : α → Except Overflow Decimal} {number : α → ℚ} :
    ∀ {l : List α} {a : Decimal} {x : ℚ}, a.Is x places →
      (∀ i ∈ l, ∃ c, term i = .ok c ∧ c.Is (number i) places) →
      Room (|x| + (l.map fun i => |number i|).sum) places →
      ∃ c, (l.foldlM (fun sum i => do sum.add (← term i)) a : Except Overflow Decimal) = .ok c ∧
        c.Is (x + (l.map number).sum) places
  | [], a, x, ha, _, _ => ⟨a, rfl, by simpa using ha⟩
  | i :: rest, a, x, ha, hterms, hroom => by
    obtain ⟨c, hterm, hc⟩ := hterms i List.mem_cons_self
    have htriangle := abs_add_le x (number i)
    have hrest := sum_map_abs_nonneg rest number
    rw [List.map_cons, List.sum_cons] at hroom ⊢
    have hfirst : Room (x + number i) places := hroom.of_le (by linarith)
    have hothers : Room (|x + number i| + (rest.map fun i => |number i|).sum) places :=
      hroom.of_le (by rw [abs_of_nonneg (by positivity)]; linarith)
    obtain ⟨sum, hadd, hsum⟩ := add_exact ha hc hfirst
    obtain ⟨d, hfold, hd⟩ := foldlM_add_exact hsum
      (fun j hj => hterms j (List.mem_cons_of_mem i hj)) hothers
    refine ⟨d, ?_, by rwa [← add_assoc]⟩
    rw [List.foldlM_cons, hterm]
    change (a.add c >>= _) = _
    rw [hadd]
    exact hfold

end SessionCart.Decimal
