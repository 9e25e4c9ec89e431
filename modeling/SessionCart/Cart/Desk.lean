import SessionCart.Cart.Catalog
import SessionCart.Cart.Refresh
import SessionCart.Cart.Settings
import SessionCart.Session.Section
import SessionCart.Text.Integer

/-!
The shop's desk: what a request can do with the cart of its session. A change of the cart is made in
an update section, so that no request loses another one's change; what writes several attributes
holds the session's lock from the first to the last.
-/

namespace SessionCart

def cartAttribute : String := "shoppingCart"

def parkedAttribute : String := "shoppingCartList"

def userLoginAttribute : String := "userLogin"

/-- The attribute of the login that was kept from an earlier visit. -/
def autoLoginAttribute : String := "autoUserLogin"

/-- The request attribute of an anonymous login that outlives its session. -/
def anonymousLoginAttribute : String := "temporaryAnonymousUserLogin"

/-- The attributes that make sense only beside a cart. -/
def attributesBesideCart : List String :=
  ["orderPartyId", orderModeAttribute, storeAttribute, "CURRENT_CATALOG_ID"]

inductive CartStatus
  | empty
  | ready
  deriving DecidableEq

/-- The desk: the attribute of the cart, and the prices. -/
structure Desk where
  cart : Attribute .cart
  pricing : Pricing

namespace Desk

/-- The desk of a shop. The clock gives the instant at which each cart is made, the carts counted
from one. -/
def new (settings : Settings) (carts : CartSettings) (pricing : Pricing) (store : StoreName)
    (table : TableName) (clock : Nat → Timestamp) : Desk where
  cart :=
    { label := "cart", name := cartAttribute, store := store, table := table, settings := settings
      make := fun n request => .ok (carts.newCart request.text? (clock n)) }
  pricing := pricing

variable (d : Desk) (r : RequestRef)

def find (k : Kind) (name : String) : Routine (Option k.Data) := do
  match ← Routine.getStored d.cart.store r.session name with
  | none => return none
  | some v => match v.as? k with
    | some x => return some x
    | none => Routine.raise (.typeMismatch r.session name)

def put (name : String) (value : Value) : Routine Unit :=
  Routine.setStored d.cart.store r.session name value

def locked {α : Type} (body : Routine α) : Routine α := do
  let hold ← d.cart.hold r
  Routine.ensuring hold.drop body

def currentCart : Routine Cart := do
  match ← d.cart.current r true with
  | some c => return c
  | none => d.cart.create r

def cartIfAny : Routine (Option Cart) := d.cart.current r false

def setCart (c : Cart) : Routine Cart := do
  d.cart.write r (some c) .all
  return c

def parked : Routine (List Cart) := do
  return (← d.find r .carts parkedAttribute).getD []

/-- Changes a copy of the cart in an update section and commits it. A change that fails leaves the
stored cart as it is. -/
def update {α : Type} (edit : Cart.Edit α) : Routine (α × Cart) :=
  Section.within d.cart r fun s => do
    let c ← s.copy
    match edit c with
    | (.ok a, changed) =>
      let committed ← s.commit changed
      s.close
      return (a, committed)
    | (.error (.error e), _) =>
      s.discard
      Routine.raise e
    | (.error (.panic p), _) => Routine.fail (.panic p)

/-- The figures of a cart, or the panic of an overflow. -/
def summarise (c : Cart) : Routine CartSummary :=
  match c.summary with
  | .ok s => return s
  | .error o => Routine.fail (.overflow o)

def addItem (product : String) (quantity : Decimal) : Routine CartSummary := do
  let (_, c) ← d.update r (d.pricing.addItem product quantity)
  summarise c

def changeQuantity (product : String) (quantity : Decimal) : Routine CartSummary := do
  let (_, c) ← d.update r (Cart.setItemQuantity product quantity)
  summarise c

def removeItem (product : String) : Routine CartSummary := do
  let (_, c) ← d.update r (Cart.removeItem product)
  summarise c

def enterPromoCode (code : String) : Routine Bool := do
  let (isNew, _) ← d.update r (d.pricing.enterPromoCode code)
  return isNew

def withdrawPromoCode (code : String) : Routine Bool := do
  let (wasEntered, _) ← d.update r fun c =>
    let (wasEntered, rest) := c.removePromoCode code
    (.ok wasEntered, rest)
  return wasEntered

/-- Drops the session of an anonymous customer, except for the login, which the request also keeps
as a temporary one. -/
def forgetAnonymous (login : UserLogin) : Routine Unit := do
  Routine.invalidate d.cart.store r.session
  d.cart.remove r .requestOnly
  d.put r userLoginAttribute (.login login)
  Routine.cache r anonymousLoginAttribute (.login login)

/-- Empties the cart. The rest of an anonymous customer's session goes with it. -/
def clear : Routine Unit := d.locked r do
  let _ ← d.update r fun c => (.ok (), c.clear)
  match ← d.find r .login userLoginAttribute with
  | some login => if login.isAnonymous then d.forgetAnonymous r login
  | none => return ()

def removeAttribute (name : String) : Routine Unit := do
  let _ ← Routine.removeStored d.cart.store r.session name
  return ()

def removeAttributes : List String → Routine Unit
  | [] => return ()
  | name :: rest => do
    d.removeAttribute r name
    removeAttributes rest

/-- Empties the cart and removes it with the attributes that make sense only beside it. -/
def destroy : Routine Unit := d.locked r do
  d.clear r
  d.cart.remove r .all
  d.removeAttributes r attributesBesideCart

def status : Routine CartStatus := do
  match ← d.cartIfAny r with
  | some c => return if c.isEmpty then .empty else .ready
  | none => return .empty

/-- Brings the logins and the locale of the cart in line with the session. The cart is looked at
without the lock first; if it is stale, it is refreshed under the lock, with the logins read again.
A cart of another user is replaced by a new one. The result says whether the cart was changed. -/
def refresh (locale : String) : Routine Bool := do
  let c ← d.currentCart r
  let user ← d.find r .login userLoginAttribute
  let auto ← d.find r .login autoLoginAttribute
  if ← Routine.ofExcept (c.isStale user auto locale) then
    Section.within d.cart r fun s => do
      let c ← s.copy
      let user ← d.find r .login userLoginAttribute
      let auto ← d.find r .login autoLoginAttribute
      let (modified, changed) ← match c.refresh user auto locale with
        | .ok refreshed => pure refreshed
        | .error (.userMismatch ..) => do
          let fresh ← d.cart.create r
          pure (true, fresh)
        | .error e => do
          s.discard
          Routine.raise e
      if modified then
        let _ ← s.commit changed
      else s.discard
      s.close
      return modified
  else return false

/-- The place in the list of parked carts that a client names; what is no number names none. -/
def readIndex? (raw : Option String) : Option Nat := raw.bind fun s => Text.readWord? (Text.trim s)

/-- Notes the product store that a new cart is wanted for. -/
def noteStore (store : String) : Routine Unit := do
  d.put r storeAttribute (.text store)
  Routine.cache r storeAttribute (.text store)

/-- Parks the current cart behind the others and makes another one current: the one at an index of
the list, or a new one if the index names none. -/
def switchCart (index store : Option String) : Routine Unit := d.locked r do
  let before ← d.parked r
  let all ← match ← d.find r .cart cartAttribute with
    | some c => do
      d.cart.remove r .all
      pure (before ++ [c])
    | none => pure before
  let (next, rest) ← match (readIndex? index).bind fun i => all[i]?.map (i, ·) with
    | some (i, c) => pure (c, all.eraseIdx i)
    | none => do
      match store.filter (!·.isEmpty) with
      | some store => d.noteStore r store
      | none => pure ()
      let c ← d.currentCart r
      pure (c, all)
  d.put r parkedAttribute (.carts rest)
  d.cart.write r (some next) .all

/-- Drops the parked cart at an index. The result says whether there was one. -/
def dropParked (index : Option String) : Routine Bool := d.locked r do
  let all ← d.parked r
  match (readIndex? index).filter (· < all.length) with
  | some i =>
    d.put r parkedAttribute (.carts (all.eraseIdx i))
    return true
  | none => return false

/-- Forgets the cart that the request has cached; session storage stays as it is. -/
def forgetCached : Routine Unit := d.cart.remove r .requestOnly

end Desk

end SessionCart
