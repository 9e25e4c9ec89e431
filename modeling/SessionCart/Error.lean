import SessionCart.Decimal.Arithmetic
import SessionCart.Decimal.Text
import SessionCart.Duration
import SessionCart.Json
import SessionCart.Session.Id
import SessionCart.Text.Quoted

/-!
What can go wrong in an operation on a session or a cart. An error is a refusal with a cause; a
panic ends an operation in the middle. Either way, whatever the operation holds is released.
-/

namespace SessionCart

structure StoreFault where
  operation : String
  reason : String
  deriving DecidableEq

def StoreFault.message (f : StoreFault) : String :=
  "Session store unavailable during " ++ f.operation ++ ": " ++ f.reason

inductive Error
  /-- The session's lock stayed with another holder for as long as we were ready to wait. -/
  | lockTimeout (session : SessionId) (waited : Duration)
  | storage (fault : StoreFault)
  /-- An attribute holds a value of another kind. -/
  | typeMismatch (session : SessionId) (name : String)
  /-- A section closed over copies that were neither committed nor discarded. -/
  | uncommitted (session : SessionId) (name : String)
  /-- A commit came after its section was closed. -/
  | sectionClosed (session : SessionId) (name : String)
  | productNotFound (product : String)
  | itemNotInCart (product : String)
  | invalidQuantity (product : String) (quantity : Decimal)
  /-- The quantity of a gift is not for the customer to change. -/
  | giftQuantity (product : String)
  | emptyPromoCode
  /-- The cart belongs to a user who is not the session's. -/
  | userMismatch (cartUser : String) (sessionUser : Option String)
  deriving DecidableEq

inductive Category
  | lock
  | storage
  | usage
  deriving DecidableEq

def Category.text : Category → String
  | .lock => "lock"
  | .storage => "storage"
  | .usage => "usage"

namespace Error

def message : Error → String
  | lockTimeout session waited =>
    "Timed out after " ++ waited.text ++ " waiting for the lock of session " ++ session.text
  | storage fault => "Session store error: " ++ fault.message
  | typeMismatch session name =>
    "Attribute '" ++ name ++ "' of session " ++ session.text ++
      " does not hold the expected type"
  | uncommitted session name =>
    "Update section for attribute '" ++ name ++ "' of session " ++ session.text ++
      " closed with uncommitted changes"
  | sectionClosed session name =>
    "Update section for attribute '" ++ name ++ "' of session " ++ session.text ++
      " is already closed"
  | productNotFound product => "Product not found: " ++ product
  | itemNotInCart product => "Product " ++ product ++ " is not in the cart"
  | invalidQuantity product quantity =>
    "Invalid quantity " ++ quantity.text ++ " for product " ++ product
  | giftQuantity product => "Quantity of promotional item " ++ product ++ " cannot be changed"
  | emptyPromoCode => "Promo code must not be empty"
  | userMismatch cartUser sessionUser =>
    "Cart user '" ++ cartUser ++ "' does not match session user " ++ Text.quoteOption sessionUser

def category : Error → Category
  | lockTimeout .. => .lock
  | storage .. => .storage
  | _ => .usage

/-- The same request may succeed at another time. -/
def isRetryable (e : Error) : Bool := e.category ≠ .usage

/-- The facts of an error as data. A waiting time is given in milliseconds of a 64-bit word. -/
def context : Error → Json
  | lockTimeout session waited =>
    .obj [("session_id", .str session.text), ("waited_ms", .nat (waited.millis % Text.wordSize))]
  | storage fault => .obj [("operation", .str fault.operation), ("reason", .str fault.reason)]
  | typeMismatch session name | uncommitted session name
  | sectionClosed session name =>
    .obj [("session_id", .str session.text), ("attribute", .str name)]
  | productNotFound product | itemNotInCart product | giftQuantity product =>
    .obj [("product_id", .str product)]
  | invalidQuantity product quantity =>
    .obj [("product_id", .str product), ("quantity", .str quantity.text)]
  | emptyPromoCode => .obj []
  | userMismatch cartUser sessionUser =>
    .obj [("cart_user", .str cartUser), ("session_user", .optionStr sessionUser)]

def suggestion : Error → String
  | lockTimeout .. => "Another request for this session held its lock too long. " ++
      "Retry the request, or raise CART_SYNC_LOCK_TIMEOUT_MS."
  | storage .. => "The session backend failed. Check its availability and retry."
  | typeMismatch _ name => "Attribute '" ++ name ++ "' is written with two different " ++
      "types; give each value type its own attribute name."
  | uncommitted .. => "Call commit() with the modified value, or discard() to drop it on " ++
      "purpose, before the section closes."
  | sectionClosed .. => "The outer update section was closed first. " ++
      "Commit before closing it, or open a new section."
  | productNotFound _ => "Check the product id against the catalog."
  | itemNotInCart _ => "Reload the cart; the item may have been removed by another request."
  | invalidQuantity .. => "Use a positive quantity to add, or zero to remove the line."
  | giftQuantity _ => "Remove the promo code instead of editing its items."
  | emptyPromoCode => "Enter a promo code."
  | userMismatch .. => "Log in again; the cart will be replaced with a fresh one."

end Error

inductive Panic
  | overflow (operation : Decimal.Overflow)
  | factory
  | handler
  | holder
  deriving DecidableEq

def Panic.message : Panic → String
  | overflow operation => operation.message
  | factory => "factory failed"
  | handler => "handler failed"
  | holder => "holder failed"

inductive Failure
  | error (e : Error)
  | panic (p : Panic)
  deriving DecidableEq

def Failure.message : Failure → String
  | error e => e.message
  | panic p => p.message

def Failure.overflow (o : Decimal.Overflow) : Failure := .panic (.overflow o)

end SessionCart
