import SessionCart.Cart.Catalog

/-!
Scripts of operations on a cart, for trying out a sequence of them: each step with its result and
the cart it leaves behind.
-/

namespace SessionCart

inductive CartField
  | currency (s : String)
  | locale (s : Option String)
  | store (s : String)
  | webSite (s : Option String)
  | orderType (t : OrderType)
  | userLogin (l : Option UserLogin)
  | autoUserLogin (l : Option UserLogin)

def CartField.assign (c : Cart) : CartField → Cart
  | currency s => { c with currency := s }
  | locale s => { c with locale := s }
  | store s => { c with store := s }
  | webSite s => { c with webSite := s }
  | orderType t => { c with orderType := t }
  | userLogin l => { c with userLogin := l }
  | autoUserLogin l => { c with autoUserLogin := l }

inductive CartStep
  | add (product : String) (quantity price : Decimal)
  | addPriced (product : String) (quantity : Decimal)
  | setQuantity (product : String) (quantity : Decimal)
  | remove (product : String)
  | clear
  /-- Enters a promo code, without its gift. -/
  | addCode (code : String)
  /-- Enters a promo code, with its gift. -/
  | enterCode (code : String)
  | withdrawCode (code : String)
  | line (product : String)
  | codes
  | summary
  | assign (f : CartField)

inductive CartAnswer
  | nothing
  | quantity (q : Decimal)
  | line (l : Option CartLine)
  | flag (b : Bool)
  | codes (l : List String)
  | summary (s : CartSummary)

/-- The outcome of an edit, with its result as an answer. -/
def Cart.Edit.answer {α : Type} (wrap : α → CartAnswer) (e : Cart.Edit α) : Cart.Edit CartAnswer :=
  fun c =>
    let (r, c') := e c
    (r.map wrap, c')

def CartStep.perform (p : Pricing) : CartStep → Cart.Edit CartAnswer
  | add product quantity price => (Cart.addItem product quantity price).answer .quantity
  | addPriced product quantity => (p.addItem product quantity).answer .quantity
  | setQuantity product quantity => (Cart.setItemQuantity product quantity).answer fun _ => .nothing
  | remove product => (Cart.removeItem product).answer fun l => .line (some l)
  | clear => fun c => (.ok .nothing, c.clear)
  | addCode code => (Cart.addPromoCode code).answer .flag
  | enterCode code => (p.enterPromoCode code).answer .flag
  | withdrawCode code => fun c =>
    let (wasEntered, rest) := c.removePromoCode code
    (.ok (.flag wasEntered), rest)
  | line product => fun c => (.ok (.line (c.line? product)), c)
  | codes => fun c => (.ok (.codes c.promoCodes), c)
  | summary => fun c => ((c.summary.map CartAnswer.summary).mapError Failure.overflow, c)
  | assign f => fun c => (.ok .nothing, f.assign c)

/-- Carries out operations one after another, whatever their outcome: each outcome with the cart
after it. -/
def Cart.follow (p : Pricing) : List CartStep → Cart → List (Except Failure CartAnswer × Cart)
  | [], _ => []
  | s :: rest, c => s.perform p c :: Cart.follow p rest (s.perform p c).2

end SessionCart
