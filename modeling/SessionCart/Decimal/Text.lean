import SessionCart.Decimal.Basic
import SessionCart.Text.Integer

/-!
Decimal text: an optional sign, digits, and after a point as many digits as the number has places.
Reading also takes a plus sign, leading zeros, and a point with digits on one side only. Of the
digits after the point it keeps those for which there is room and rounds at the first one left over,
a half up. This form is assumed: underscores between digits, and exponents, which a reader could
take as well, are left out of it, and a text with one of them is no number.
-/

namespace SessionCart.Decimal

/-- The digits with a point before the last `scale` of them. -/
def textDigits (magnitude scale : Nat) : List Char :=
  if scale = 0 then Text.digits magnitude
  else Text.digits (magnitude / Text.tenPow scale) ++ '.' :: Text.fixedDigits scale magnitude

def toChars (a : Decimal) : List Char :=
  if a.negative then '-' :: textDigits a.magnitude a.scale else textDigits a.magnitude a.scale

def text (a : Decimal) : String := String.ofList a.toChars

/-- The number of a sign, a magnitude and places, if there is room for it. A zero has no sign. -/
def ofParts? (negative : Bool) (magnitude scale : Nat) : Option Decimal :=
  if h : magnitude < bound ∧ scale ≤ 28 then
    some (withoutMinusZero ⟨negative, magnitude, scale, h.1, h.2⟩)
  else none

/-- One more in the last place. A magnitude that has no room for it gives up its last place, if it
has one. -/
def ofPartsUp? (negative : Bool) (magnitude scale : Nat) : Option Decimal :=
  if magnitude + 1 < bound then ofParts? negative (magnitude + 1) scale
  else if scale = 0 then none
  else ofParts? negative ((magnitude + 5) / 10) (scale - 1)

/-- Takes digits after the point into a number as long as there is room for one more place, and
rounds at the first digit for which there is none. -/
def extend? (negative : Bool) (magnitude scale : Nat) : List Char → Option Decimal
  | [] => ofParts? negative magnitude scale
  | c :: places =>
    let longer := 10 * magnitude + Text.digitValue c
    if longer < bound ∧ scale < 28 then extend? negative longer (scale + 1) places
    else if Text.digitValue c < 5 then ofParts? negative magnitude scale
    else ofPartsUp? negative magnitude scale

/-- Reads an unsigned number: digits, then perhaps a point and digits. -/
def readMagnitude? (negative : Bool) (cs : List Char) : Option Decimal :=
  let whole := cs.takeWhile (· ≠ '.')
  let places := (cs.dropWhile (· ≠ '.')).drop 1
  if whole.isEmpty && places.isEmpty || !places.all Char.isDigit then none
  else do extend? negative (← Text.digitsValue? whole) 0 places

def ofChars? : List Char → Option Decimal
  | '+' :: rest => readMagnitude? false rest
  | '-' :: rest => readMagnitude? true rest
  | cs => readMagnitude? false cs

def ofText? (s : String) : Option Decimal := ofChars? s.toList

end SessionCart.Decimal
