import SessionCart.Text.Blank
import SessionCart.Text.Silent

/-!
Quoted text: a string between double quotes, in which quotes, backslashes and every character that
shows nothing of its own are written as escapes.
-/

namespace SessionCart.Text

/-- The character shows itself. Of the ASCII characters, all but the control characters do. -/
def isPrintable (c : Char) : Bool :=
  if c.toNat < 0x7F then 0x20 ≤ c.toNat else !inRanges silentRanges c

def hexDigit (n : Nat) : Char :=
  if n < 10 then Char.ofNat ('0'.toNat + n) else Char.ofNat ('a'.toNat + (n - 10))

/-- The lower-case hexadecimal digits of a number, without needless zeros. -/
def hexDigits (n : Nat) : List Char :=
  if n < 16 then [hexDigit n] else hexDigits (n / 16) ++ [hexDigit (n % 16)]

def escape (c : Char) : List Char :=
  match c with
  | '"' => ['\\', '"']
  | '\\' => ['\\', '\\']
  | '\t' => ['\\', 't']
  | '\n' => ['\\', 'n']
  | '\r' => ['\\', 'r']
  | '\x00' => ['\\', '0']
  | c => if isPrintable c then [c] else ['\\', 'u', '\x7b'] ++ hexDigits c.toNat ++ ['\x7d']

def quote (s : String) : String :=
  String.ofList ('"' :: s.toList.flatMap escape ++ ['"'])

def quoteOption : Option String → String
  | none => "None"
  | some s => "Some(" ++ quote s ++ ")"

/-- Quoted texts between two brackets, separated by commas. -/
def quoteList (opening closing : String) (l : List String) : String :=
  opening ++ ", ".intercalate (l.map quote) ++ closing

end SessionCart.Text
