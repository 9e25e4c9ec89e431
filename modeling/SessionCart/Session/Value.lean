import SessionCart.Cart.Basic
import SessionCart.Json

/-!
The values that sessions hold. An attribute is used with one kind of value, and a value found under
its name may still be of another kind: `Value.as?` is the test.
-/

namespace SessionCart

inductive Kind
  | json
  | text
  | login
  | cart
  | carts
  deriving DecidableEq

abbrev Kind.Data : Kind → Type
  | json => Json
  | text => String
  | login => UserLogin
  | cart => Cart
  | carts => List Cart

inductive Value
  | json (v : Json)
  | text (s : String)
  | login (l : UserLogin)
  | cart (c : Cart)
  | carts (cs : List Cart)

namespace Value

def kind : Value → Kind
  | json _ => .json
  | text _ => .text
  | login _ => .login
  | cart _ => .cart
  | carts _ => .carts

def of : (k : Kind) → k.Data → Value
  | .json, v => json v
  | .text, s => text s
  | .login, l => login l
  | .cart, c => cart c
  | .carts, cs => carts cs

def as? : (k : Kind) → Value → Option k.Data
  | .json, json v => some v
  | .text, text s => some s
  | .login, login l => some l
  | .cart, cart c => some c
  | .carts, carts cs => some cs
  | _, _ => none

@[simp] theorem as?_of (k : Kind) (d : k.Data) : (of k d).as? k = some d := by
  cases k <;> rfl

theorem as?_eq_some_iff {k : Kind} {v : Value} {d : k.Data} : v.as? k = some d ↔ v = of k d := by
  constructor
  · cases k <;> cases v <;> intro h <;> cases h <;> rfl
  · rintro rfl
    exact as?_of k d

end Value

end SessionCart
