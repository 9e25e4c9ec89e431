import SessionCart.Cart.Login
import SessionCart.Error
import SessionCart.Text.Blank
import SessionCart.Timestamp

/-!
Shopping carts and the operations on one. An operation gives its result and the cart it leaves
behind, also when it fails. A product has at most one regular line, which additions increase; gifts
of promo codes have lines of their own.
-/

namespace SessionCart

inductive OrderType
  | sales
  | purchase
  deriving DecidableEq

namespace OrderType

def mode : OrderType → String
  | sales => "SALES_ORDER"
  | purchase => "PURCHASE_ORDER"

/-- The type of an order mode, blanks around it ignored. -/
def ofMode? (s : String) : Option OrderType :=
  if Text.trim s = sales.mode then some sales
  else if Text.trim s = purchase.mode then some purchase
  else none

end OrderType

/-- A line of a cart. A line with a promo code is a gift. -/
structure CartLine where
  product : String
  quantity : Decimal
  unitPrice : Decimal
  promoCode : Option String
  deriving DecidableEq

namespace CartLine

def isGift (l : CartLine) : Bool := l.promoCode.isSome

/-- The line is the regular one of a product. -/
def isRegular (product : String) (l : CartLine) : Bool := !l.isGift && l.product = product

def subtotal (l : CartLine) : Except Decimal.Overflow Decimal := l.quantity.mul l.unitPrice

end CartLine

structure Cart where
  lines : List CartLine
  currency : String
  locale : Option String
  store : String
  orderType : OrderType
  webSite : Option String
  userLogin : Option UserLogin
  autoUserLogin : Option UserLogin
  promoCodes : List String
  createdAt : Timestamp
  deriving DecidableEq

namespace Cart

def new (store currency : String) (orderType : OrderType) (createdAt : Timestamp) : Cart where
  lines := []
  currency := currency
  locale := none
  store := store
  orderType := orderType
  webSite := none
  userLogin := none
  autoUserLogin := none
  promoCodes := []
  createdAt := createdAt

/-- An operation on a cart: its result, and the cart afterwards. -/
abbrev Edit (α : Type) := Cart → Except Failure α × Cart

def line? (c : Cart) (product : String) : Option CartLine :=
  c.lines.find? (CartLine.isRegular product)

def size (c : Cart) : Nat := c.lines.length

def isEmpty (c : Cart) : Bool := c.lines.isEmpty

def itemCount (c : Cart) : Except Decimal.Overflow Decimal :=
  Decimal.sum (c.lines.map CartLine.quantity)

/-- The sum of the subtotals, each multiplied when it is its turn to be added. -/
def total (c : Cart) : Except Decimal.Overflow Decimal :=
  c.lines.foldlM (fun t l => do t.add (← l.subtotal)) Decimal.zero

def setQuantity (product : String) (quantity : Decimal) : List CartLine → List CartLine
  | [] => []
  | l :: rest =>
    if l.isRegular product then { l with quantity := quantity } :: rest
    else l :: setQuantity product quantity rest

/-- Adds a quantity of a product. A product in the cart keeps the price of its line. The result is
the line's new quantity. -/
def addItem (product : String) (quantity price : Decimal) : Edit Decimal := fun c =>
  if !quantity.isPositive then (.error (.error (.invalidQuantity product quantity)), c)
  else match c.line? product with
    | some l => match l.quantity.add quantity with
      | .ok sum => (.ok sum, { c with lines := setQuantity product sum c.lines })
      | .error o => (.error (.overflow o), c)
    | none =>
      (.ok quantity, { c with lines := c.lines ++ [⟨product, quantity, price, none⟩] })

def addGift (product code : String) (c : Cart) : Cart :=
  if c.lines.any fun l => l.product = product && l.promoCode = some code then c
  else { c with lines := c.lines ++ [⟨product, .one, .zero, some code⟩] }

/-- Changes the quantity of a product; zero removes its line. -/
def setItemQuantity (product : String) (quantity : Decimal) : Edit Unit := fun c =>
  if quantity.isNegative then (.error (.error (.invalidQuantity product quantity)), c)
  else if c.lines.any (CartLine.isRegular product) then
    if quantity.isZero then
      (.ok (), { c with lines := c.lines.eraseP (CartLine.isRegular product) })
    else (.ok (), { c with lines := setQuantity product quantity c.lines })
  else if c.lines.any (·.product = product) then (.error (.error (.giftQuantity product)), c)
  else (.error (.error (.itemNotInCart product)), c)

def removeItem (product : String) : Edit CartLine := fun c =>
  match c.line? product with
  | some l => (.ok l, { c with lines := c.lines.eraseP (CartLine.isRegular product) })
  | none => (.error (.error (.itemNotInCart product)), c)

/-- Drops lines and promo codes; the cart stays whose it is. -/
def clear (c : Cart) : Cart := { c with lines := [], promoCodes := [] }

/-- Enters a promo code, blanks around it ignored. The result says whether it is new. -/
def addPromoCode (code : String) : Edit Bool := fun c =>
  match Text.trimmed? code with
  | none => (.error (.error .emptyPromoCode), c)
  | some code =>
    if code ∈ c.promoCodes then (.ok false, c)
    else (.ok true, { c with promoCodes := c.promoCodes ++ [code] })

/-- Withdraws a promo code and its gifts. The result says whether it had been entered. -/
def removePromoCode (code : String) (c : Cart) : Bool × Cart :=
  let code := Text.trim code
  let kept := c.promoCodes.filter (· ≠ code)
  (kept.length ≠ c.promoCodes.length,
    { c with promoCodes := kept, lines := c.lines.filter fun l => l.promoCode ≠ some code })

end Cart

structure CartSummary where
  size : Nat
  itemCount : Decimal
  total : Decimal
  currency : String
  deriving DecidableEq

def Cart.summary (c : Cart) : Except Decimal.Overflow CartSummary := do
  let itemCount ← c.itemCount
  let total ← c.total
  return ⟨c.size, itemCount, total, c.currency⟩

end SessionCart
