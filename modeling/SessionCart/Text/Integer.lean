/-!
Decimal digits of natural numbers: writing, writing with leading zeros, and reading within a bound.
-/

namespace SessionCart.Text

/-- The least number of more than `k` decimal digits. -/
def tenPow (k : Nat) : Nat := Nat.pow 10 k

@[simp] theorem tenPow_zero : tenPow 0 = 1 := rfl

theorem tenPow_succ (k : Nat) : tenPow (k + 1) = tenPow k * 10 := rfl

theorem tenPow_pos (k : Nat) : 0 < tenPow k := Nat.pow_pos (by decide)

def wordSize : Nat := 18_446_744_073_709_551_616

def digitValue (c : Char) : Nat := c.toNat - '0'.toNat

/-- The value of a list of ASCII digits; `none` if another character occurs. -/
def digitsValue? (cs : List Char) : Option Nat :=
  cs.foldlM (fun n c => if c.isDigit then some (10 * n + digitValue c) else none) 0

/-- Reads an unsigned number below a limit: an optional plus sign, then one or more ASCII digits. -/
def readBelow? (limit : Nat) (s : String) : Option Nat :=
  let digits := match s.toList with
    | '+' :: rest => rest
    | cs => cs
  if digits.isEmpty then none else (digitsValue? digits).filter (· < limit)

def readWord? (s : String) : Option Nat := readBelow? wordSize s

def digitChar (n : Nat) : Char := Char.ofNat ('0'.toNat + n)

/-- Exactly `width` decimal digits of `n`, the higher ones dropped. -/
def fixedDigits : (width : Nat) → (n : Nat) → List Char
  | 0, _ => []
  | width + 1, n => fixedDigits width (n / 10) ++ [digitChar (n % 10)]

/-- The decimal digits of `n`, at least one and no needless zero in front. -/
def digits (n : Nat) : List Char :=
  if n < 10 then [digitChar n] else digits (n / 10) ++ [digitChar (n % 10)]

def decimalText (n : Nat) : String := String.ofList (digits n)

end SessionCart.Text
