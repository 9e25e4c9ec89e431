import SessionCart.Decimal.Basic

/-!
Sums and products. An exact result that is too long is fitted: it keeps as many places as its
magnitude has room for, the dropped part rounded half to even. A result whose whole part alone is
too long is an overflow. A product that is rounded to zero keeps its sign.
-/

namespace SessionCart.Decimal

/-- The operation whose result has no room. -/
inductive Overflow
  | addition
  | multiplication
  deriving DecidableEq

def Overflow.message : Overflow → String
  | .addition => "Addition overflowed"
  | .multiplication => "Multiplication overflowed"

/-- `n / 10^k` rounded to the nearest number, a half to the even neighbour. -/
def roundHalfEven (n k : Nat) : Nat :=
  let quotient := n / Text.tenPow k
  let rest := n % Text.tenPow k
  if 2 * rest < Text.tenPow k then quotient
  else if 2 * rest > Text.tenPow k then quotient + 1
  else quotient + quotient % 2

@[simp] theorem roundHalfEven_zero (n : Nat) : roundHalfEven n 0 = n := by
  simp [roundHalfEven, Nat.mod_one]

/-- A rounded quotient is off by at most half a unit. -/
theorem roundHalfEven_near (n k : Nat) :
    2 * n ≤ (2 * roundHalfEven n k + 1) * Text.tenPow k ∧
      2 * roundHalfEven n k * Text.tenPow k ≤ 2 * n + Text.tenPow k := by
  have hn := Nat.div_add_mod n (Text.tenPow k)
  have hr := Nat.mod_lt n (Text.tenPow_pos k)
  unfold roundHalfEven
  generalize n / Text.tenPow k = q at *
  generalize n % Text.tenPow k = r at *
  generalize Text.tenPow k = p at *
  have he : q % 2 = 0 ∨ q % 2 = 1 := by omega
  subst hn
  dsimp only
  split
  · constructor <;> grind
  · split
    · constructor <;> grind
    · rcases he with he | he <;> simp only [he] <;> constructor <;> grind

/-- `± n · 10^(-s)` with the most places not above `t` for which there is room. -/
def fitWithin (negative : Bool) (n s : Nat) (t : Nat) (ht : t ≤ 28) : Option Decimal :=
  if h : roundHalfEven n (s - t) < bound then some ⟨negative, roundHalfEven n (s - t), t, h, ht⟩
  else match t with
    | 0 => none
    | t + 1 => fitWithin negative n s t (by omega)

/-- `± n · 10^(-s)` as a decimal, rounded if it is too long. -/
def fit (negative : Bool) (n s : Nat) : Option Decimal :=
  fitWithin negative n s (min s 28) (Nat.min_le_right s 28)

/-- A result for which there is room is not rounded. -/
theorem fit_of_lt (negative : Bool) {n s : Nat} (hn : n < bound) (hs : s ≤ 28) :
    fit negative n s = some ⟨negative, n, s, hn, hs⟩ := by
  simp [fit, fitWithin, Nat.min_eq_left hs, hn]

/-- The sum of two numbers that are not zero, with the places of the longer one. -/
def addNonzero (a b : Decimal) : Except Overflow Decimal :=
  let places := max a.scale b.scale
  let total := a.coeffAt places + b.coeffAt places
  match fit (total < 0) total.natAbs places with
  | some c => .ok c
  | none => .error .addition

/-- The sum. Adding zero leaves the other number as it is, places and sign included. -/
def add (a b : Decimal) : Except Overflow Decimal :=
  if a.isZero then .ok b
  else if b.isZero then .ok a
  else a.addNonzero b

def isShort (a : Decimal) : Bool := a.magnitude < 4_294_967_296

/-- The product of two short numbers with so many places that it vanishes. -/
def vanishes (a b : Decimal) : Bool := a.isShort && b.isShort && 47 < a.scale + b.scale

/-- The product of two numbers that are not zero. If both are short, there is no minus zero. -/
def mulNonzero (a b : Decimal) : Except Overflow Decimal :=
  match fit (a.negative != b.negative) (a.magnitude * b.magnitude) (a.scale + b.scale) with
  | some c => .ok (if a.isShort && b.isShort then c.withoutMinusZero else c)
  | none => .error .multiplication

/-- The product. Where a factor is zero or the product vanishes, it is a zero without places. -/
def mul (a b : Decimal) : Except Overflow Decimal :=
  if a.isZero || b.isZero || a.vanishes b then .ok zero else a.mulNonzero b

def sum (l : List Decimal) : Except Overflow Decimal := l.foldlM add zero

end SessionCart.Decimal
