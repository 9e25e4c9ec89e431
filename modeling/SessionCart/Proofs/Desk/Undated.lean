import SessionCart.Cart.Desk
import SessionCart.Proofs.Section.Rules

/-!
# Time stamps put aside

Two carts are the same up to the time at which they were made if they are the same once that time is
put aside. No operation on a cart, and nothing that a desk does with a session, looks at it.
-/

namespace SessionCart

def Cart.undated (c : Cart) : Cart := { c with createdAt := .tick 0 }

def Kind.undated : (k : Kind) → k.Data → k.Data
  | .cart, c => Cart.undated c
  | .carts, cs => List.map Cart.undated cs
  | .json, v => v
  | .text, s => s
  | .login, l => l

def Value.undated : Value → Value
  | .cart c => .cart c.undated
  | .carts cs => .carts (cs.map Cart.undated)
  | v => v

def Shelf.undated (s : Shelf) : Shelf := ⟨fun name => (s.value name).map Value.undated⟩

theorem Value.as?_undated (k : Kind) (v : Value) :
    v.undated.as? k = (v.as? k).map k.undated := by
  cases k <;> cases v <;> rfl

namespace Shelf

variable (s : Shelf) (name : String)

@[simp]
theorem value_undated : s.undated.value name = (s.value name).map Value.undated := rfl

theorem undated_set (value : Value) :
    (s.set name value).undated = s.undated.set name value.undated := by
  ext1
  funext other
  by_cases h : name = other <;> simp [h]

theorem undated_remove : (s.remove name).undated = s.undated.remove name := by
  ext1
  funext other
  by_cases h : name = other <;> simp [h]

end Shelf

/-! ### Reading undated values -/

namespace Kind

variable (k : Kind) (session : SessionId) (name : String)

theorem decode_undated (value : Option Value) : k.decode session name (value.map Value.undated) =
    (k.decode session name value).map (Option.map k.undated) := by
  cases value with
  | none => rfl
  | some v =>
    rw [Option.map_some, decode, decode, Value.as?_undated]
    cases v.as? k <;> rfl

theorem finds_undated (policy : ReadPolicy) (cached stored : Option Value) :
    k.finds session name policy (cached.map Value.undated) (stored.map Value.undated) =
      (k.finds session name policy cached stored).map (Option.map k.undated) := by
  cases hcached : k.decode session name cached with
  | error e => cases policy <;> simp [finds, decode_undated, hcached, Except.map]
  | ok c =>
    cases policy with
    | requestFirst => cases c <;> simp [finds, decode_undated, hcached, Except.map]
    | sessionFirst =>
      cases hstored : k.decode session name stored with
      | error e => simp [finds, decode_undated, hcached, hstored, Except.map]
      | ok found =>
        cases c <;> cases found <;>
          simp [finds, decode_undated, hcached, hstored, Except.map]

end Kind

/-! ### Operations on undated carts -/

/-- The operation neither looks at the time at which the cart was made nor changes it. -/
def Cart.Edit.Blind {α : Type} (edit : Cart.Edit α) : Prop :=
  ∀ c, edit c.undated = ((edit c).1, (edit c).2.undated)

namespace Cart

theorem blind_addItem (product : String) (quantity price : Decimal) :
    Edit.Blind (addItem product quantity price) := by
  intro c
  have hline : c.undated.line? product = c.line? product := rfl
  rw [addItem, addItem, hline]
  split
  · rfl
  · split
    · split <;> rfl
    · rfl

theorem blind_setItemQuantity (product : String) (quantity : Decimal) :
    Edit.Blind (setItemQuantity product quantity) := by
  intro c
  have hlines : c.undated.lines = c.lines := rfl
  rw [setItemQuantity, setItemQuantity, hlines]
  split
  · rfl
  · split
    · split <;> rfl
    · split <;> rfl

theorem blind_removeItem (product : String) : Edit.Blind (removeItem product) := by
  intro c
  have hline : c.undated.line? product = c.line? product := rfl
  rw [removeItem, removeItem, hline]
  split <;> rfl

theorem blind_addPromoCode (code : String) : Edit.Blind (addPromoCode code) := by
  intro c
  have hcodes : c.undated.promoCodes = c.promoCodes := rfl
  rw [addPromoCode, addPromoCode]
  split
  · rfl
  · rw [hcodes]
    split <;> rfl

theorem undated_addGift (product code : String) (c : Cart) :
    c.undated.addGift product code = (c.addGift product code).undated := by
  have hlines : c.undated.lines = c.lines := rfl
  rw [addGift, addGift, hlines]
  split <;> rfl

end Cart

theorem Pricing.blind_addItem (p : Pricing) (product : String) (quantity : Decimal) :
    Cart.Edit.Blind (p.addItem product quantity) := by
  intro c
  have hcurrency : c.undated.currency = c.currency := rfl
  rw [addItem, addItem, hcurrency]
  split
  · exact Cart.blind_addItem product quantity _ c
  · rfl

theorem Pricing.blind_enterPromoCode (p : Pricing) (code : String) :
    Cart.Edit.Blind (p.enterPromoCode code) := by
  intro c
  rw [enterPromoCode, enterPromoCode, Cart.blind_addPromoCode code c]
  rcases hadd : c.addPromoCode code with ⟨out, changed⟩
  cases out with
  | error f => rfl
  | ok isNew =>
    cases isNew with
    | false => rfl
    | true =>
      cases hgift : p.gift (Text.trim code) with
      | none => simp
      | some product => simp [Cart.undated_addGift]

theorem CartSettings.undated_newCart (s : CartSettings) (text : String → Option String)
    (createdAt : Timestamp) :
    (s.newCart text createdAt).undated = s.newCart text (.tick 0) := by
  rw [newCart, newCart]
  cases s.maker <;> rfl

end SessionCart
