import SessionCart.Cart.Desk

/-!
Who takes part in a scenario: the settings, the desk, and the attributes by the names under which
steps speak of them.
-/

namespace SessionCart

structure AnyAttribute where
  kind : Kind
  subject : Attribute kind

namespace Scenario

structure Setup where
  settings : Settings
  carts : CartSettings
  catalog : Catalog
  ownLocks : Bool
  fresh : Nat → SessionId

namespace Setup

variable (s : Setup)

def desk : Desk :=
  .new s.settings s.carts s.catalog.pricing .main (if s.ownLocks then .own else .shared) .tick

/-- An attribute with values that say how many were made. -/
def counted {k : Kind} (label name : String) (store : StoreName) (value : Nat → k.Data) :
    AnyAttribute :=
  ⟨k, { label := label, name := name, store := store, table := .shared, settings := s.settings
        make := fun n _ => .ok (value n) }⟩

def numbered (n : Nat) : Json := .obj [("made", .nat n)]

def unmakeable : AnyAttribute :=
  ⟨.json, { label := "f", name := "boom", store := .main, table := .shared, settings := s.settings
            make := fun _ _ => .error .factory }⟩

/-- The attribute that steps call by a name. `m`, `t` and `a` are one attribute with values of two
kinds and in two backends, and `s` is the cart's attribute with another kind of value, so that
scenarios can bring up values of the wrong kind. -/
def attribute? : String → Option AnyAttribute
  | "m" => some (s.counted (k := .json) "m" "tally" .main numbered)
  | "t" => some (s.counted (k := .text) "t" "tally" .main fun n => "made " ++ Text.decimalText n)
  | "o" => some (s.counted (k := .json) "o" "other" .main numbered)
  | "a" => some (s.counted (k := .json) "a" "tally" .alt numbered)
  | "s" => some (s.counted (k := .json) "s" cartAttribute .main numbered)
  | "f" => some s.unmakeable
  | "cart" => some ⟨.cart, s.desk.cart⟩
  | _ => none

end Setup

end Scenario

end SessionCart
