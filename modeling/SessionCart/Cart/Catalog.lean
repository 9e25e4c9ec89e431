import SessionCart.Cart.Basic
import SessionCart.Dict

/-!
Prices and gifts, and the two operations on a cart that look them up.
-/

namespace SessionCart

/-- What products cost, and what promo codes give away. -/
structure Pricing where
  price : (product currency : String) → Option Decimal
  gift : (code : String) → Option String

namespace Pricing

/-- Adds a quantity of a product at its price in the cart's currency. -/
def addItem (p : Pricing) (product : String) (quantity : Decimal) : Cart.Edit Decimal := fun c =>
  match p.price product c.currency with
  | some price => c.addItem product quantity price
  | none => (.error (.error (.productNotFound product)), c)

/-- Enters a promo code and, if it is new, adds its gift. -/
def enterPromoCode (p : Pricing) (code : String) : Cart.Edit Bool := fun c =>
  match c.addPromoCode code with
  | (.ok true, c') =>
    match p.gift (Text.trim code) with
    | some product => (.ok true, c'.addGift product (Text.trim code))
    | none => (.ok true, c')
  | r => r

end Pricing

structure Catalog where
  prices : Dict (String × String) Decimal
  gifts : Dict String String

def Catalog.pricing (c : Catalog) : Pricing where
  price product currency := c.prices.get? (product, currency)
  gift code := c.gifts.get? code

end SessionCart
