import SessionCart.Text.Integer

/-!
Lengths of time in nanoseconds, and their text: the largest unit that gives at least one, with the
exact fraction.
-/

namespace SessionCart

structure Duration where
  nanos : Nat
  deriving DecidableEq

namespace Duration

def ofSeconds (secs nanos : Nat) : Duration := ⟨secs * 1_000_000_000 + nanos⟩

def ofMillis (ms : Nat) : Duration := ⟨ms * 1_000_000⟩

def seconds (d : Duration) : Nat := d.nanos / 1_000_000_000

def subsecond (d : Duration) : Nat := d.nanos % 1_000_000_000

def millis (d : Duration) : Nat := d.nanos / 1_000_000

/-- A fraction with a point in front, trailing zeros left out; nothing if it is zero. -/
def fractionText (places part : Nat) : String :=
  if part = 0 then ""
  else "." ++ String.ofList
    ((Text.fixedDigits places part).reverse.dropWhile (· = '0')).reverse

/-- The amount in a unit of `10^places` nanoseconds. -/
def textIn (d : Duration) (places : Nat) (unit : String) : String :=
  Text.decimalText (d.nanos / Text.tenPow places) ++
    fractionText places (d.nanos % Text.tenPow places) ++ unit

def text (d : Duration) : String :=
  if 1_000_000_000 ≤ d.nanos then d.textIn 9 "s"
  else if 1_000_000 ≤ d.nanos then d.textIn 6 "ms"
  else if 1_000 ≤ d.nanos then d.textIn 3 "µs"
  else d.textIn 0 "ns"

end Duration

end SessionCart
