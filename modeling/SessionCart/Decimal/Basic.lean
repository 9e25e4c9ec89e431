import SessionCart.Text.Integer

/-!
Decimal numbers of bounded size: a sign, a magnitude below `2^96` and at most 28 decimal places. The
number of places is part of the value, so `10.00` and `10` differ. So is the sign, also of a zero:
there is a minus zero. The tests for zero and sign look only at the number.
-/

namespace SessionCart

def Decimal.bound : Nat := 79_228_162_514_264_337_593_543_950_336

/-- The number `± magnitude · 10^(-scale)`, written with `scale` places. -/
structure Decimal where
  negative : Bool
  magnitude : Nat
  scale : Nat
  magnitude_lt : magnitude < Decimal.bound
  scale_le : scale ≤ 28
  deriving DecidableEq

namespace Decimal

def zero : Decimal := ⟨false, 0, 0, by decide, by decide⟩

def one : Decimal := ⟨false, 1, 0, by decide, by decide⟩

instance : Inhabited Decimal := ⟨zero⟩

def isZero (a : Decimal) : Bool := a.magnitude = 0

def isNegative (a : Decimal) : Bool := a.negative && !a.isZero

def isPositive (a : Decimal) : Bool := !a.negative && !a.isZero

/-- The number without a minus sign if it is zero. -/
def withoutMinusZero (a : Decimal) : Decimal := { a with negative := a.isNegative }

def coeff (a : Decimal) : Int := if a.negative then -a.magnitude else a.magnitude

/-- The coefficient of the same number with more places. -/
def coeffAt (a : Decimal) (places : Nat) : Int := a.coeff * Text.tenPow (places - a.scale)

theorem coeff_withoutMinusZero (a : Decimal) : a.withoutMinusZero.coeff = a.coeff := by
  obtain ⟨negative, magnitude, scale, -, -⟩ := a
  cases negative <;> cases magnitude <;> rfl

end Decimal

end SessionCart
