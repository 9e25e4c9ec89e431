import SessionCart.Text.Blank
import SessionCart.Text.Quoted

/-!
Session identifiers: the grammar of those a client may name, their order, and fresh ones.
-/

namespace SessionCart

structure SessionId where
  text : String
  deriving DecidableEq

namespace SessionId

/-- The length of the longest identifier a client may name, in bytes of UTF-8. -/
def maxBytes : Nat := 128

inductive Refusal
  | blank
  | tooLong (bytes : Nat)
  | invalidCharacter
  deriving DecidableEq

def Refusal.message : Refusal → String
  | .blank => "Session id is empty"
  | .tooLong n => s!"Session id is {n} characters long, at most {maxBytes} are accepted"
  | .invalidCharacter => "Session id contains whitespace or control characters"

def isForbidden (c : Char) : Bool := Text.isBlank c || Text.isControl c

/-- Reads an identifier named by a client. An accepted one is kept as it is. -/
def parse (raw : String) : Except Refusal SessionId :=
  if raw.isEmpty then .error .blank
  else if raw.utf8ByteSize > maxBytes then .error (.tooLong raw.utf8ByteSize)
  else if raw.toList.any isForbidden then .error .invalidCharacter
  else .ok ⟨raw⟩

/-- Identifiers are ordered by code points, which is the order of their bytes. -/
def le (a b : SessionId) : Bool := !decide (b.text < a.text)

def sort (ids : List SessionId) : List SessionId := ids.mergeSort le

/-- A fresh identifier made of random bits: 32 lower-case hexadecimal digits, of which the one after
twelve gives the version 4 and the one after sixteen the variant. -/
def generate (entropy : Nat) : SessionId :=
  ⟨String.ofList <| (List.range 32).map fun i =>
    let digit := (entropy >>> (4 * (31 - i))) % 16
    if i = 12 then '4'
    else if i = 16 then Text.hexDigit (8 + digit % 4)
    else Text.hexDigit digit⟩

/-- The identifier has the form of a fresh one. -/
structure Form where
  length : Nat
  lowerHex : Bool
  version : Option Char
  variant : Bool
  deriving DecidableEq

def form (id : SessionId) : Form where
  length := id.text.utf8ByteSize
  lowerHex := id.text.toList.all fun c => c.isDigit || ('a' ≤ c && c ≤ 'f')
  version := id.text.toList[12]?
  variant := id.text.toList[16]?.any fun c => c ∈ ['8', '9', 'a', 'b']

theorem parse_eq_ok_iff {raw : String} {id : SessionId} :
    parse raw = .ok id ↔ raw ≠ "" ∧ raw.utf8ByteSize ≤ maxBytes ∧
      (∀ c ∈ raw.toList, isForbidden c = false) ∧ id = ⟨raw⟩ := by
  unfold parse
  by_cases h1 : raw = ""
  · simp [h1]
  by_cases h2 : raw.utf8ByteSize > maxBytes
  · have : ¬ raw.utf8ByteSize ≤ maxBytes := by omega
    simp [h1, h2, this]
  have h2' : raw.utf8ByteSize ≤ maxBytes := by omega
  by_cases h3 : raw.toList.any isForbidden = true
  · have : ¬ ∀ c ∈ raw.toList, isForbidden c = false := by
      intro h
      obtain ⟨c, hc, hf⟩ := List.any_eq_true.mp h3
      simp [h c hc] at hf
    simp [h1, h2, h3, this]
  · have : ∀ c ∈ raw.toList, isForbidden c = false := by
      simpa using h3
    simp only [String.isEmpty_iff, h1, h2, h3, if_false, Bool.false_eq_true]
    exact ⟨fun h => ⟨h1, h2', this, by injection h with h; exact h.symm⟩, fun h => by rw [h.2.2.2]⟩

end SessionId

end SessionCart
