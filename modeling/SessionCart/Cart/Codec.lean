import SessionCart.Cart.Basic
import SessionCart.Json

/-!
Carts as JSON. A record is written as an object of all its fields; it is read from an object, whose
unknown fields do not matter and whose nullable fields may be missing, or from an array of all
fields in order. Numbers are texts, so that no place is lost.
-/

namespace SessionCart

/-- How the fields of a record are given. -/
inductive Json.Record
  | named (fields : List (String × Json))
  | listed (items : List Json)

namespace Json.Record

def ofJson? (count : Nat) : Json → Option Json.Record
  | .obj fields => some (named fields)
  | .arr items => if items.length = count then some (listed items) else none
  | _ => none

def field? (name : String) (place : Nat) : Json.Record → Option Json
  | named fields => Json.fieldIn name fields
  | listed items => items[place]?

def required? {α : Type} (r : Json.Record) (place : Nat) (name : String) (read : Json → Option α) :
    Option α :=
  (r.field? name place).bind read

def optional? {α : Type} (r : Json.Record) (place : Nat) (name : String) (read : Json → Option α) :
    Option (Option α) :=
  match r.field? name place with
  | none => some none
  | some j => Json.nullable? read j

end Json.Record

def Json.list? {α : Type} (read : Json → Option α) (j : Json) : Option (List α) :=
  j.arr?.bind (·.mapM read)

def Decimal.toJson (a : Decimal) : Json := .str a.text

def Decimal.ofJson? (j : Json) : Option Decimal := j.str?.bind Decimal.ofText?

namespace UserLogin

def toJson (l : UserLogin) : Json :=
  .obj [("user_login_id", .str l.id), ("party_id", .optionStr l.party)]

def ofJson? (j : Json) : Option UserLogin := do
  let r ← Json.Record.ofJson? 2 j
  return ⟨← r.required? 0 "user_login_id" Json.str?, ← r.optional? 1 "party_id" Json.str?⟩

end UserLogin

namespace OrderType

def name : OrderType → String
  | sales => "SalesOrder"
  | purchase => "PurchaseOrder"

def ofName? : String → Option OrderType
  | "SalesOrder" => some sales
  | "PurchaseOrder" => some purchase
  | _ => none

/-- A name, or an object with that name alone over null. -/
def ofJson? : Json → Option OrderType
  | .str s => ofName? s
  | .obj [(s, .null)] => ofName? s
  | _ => none

end OrderType

namespace CartLine

def toJson (l : CartLine) : Json :=
  .obj [("product_id", .str l.product), ("quantity", l.quantity.toJson),
    ("unit_price", l.unitPrice.toJson), ("promo_code", .optionStr l.promoCode)]

def ofJson? (j : Json) : Option CartLine := do
  let r ← Json.Record.ofJson? 4 j
  let product ← r.required? 0 "product_id" Json.str?
  let quantity ← r.required? 1 "quantity" Decimal.ofJson?
  let unitPrice ← r.required? 2 "unit_price" Decimal.ofJson?
  let promoCode ← r.optional? 3 "promo_code" Json.str?
  return ⟨product, quantity, unitPrice, promoCode⟩

end CartLine

namespace Cart

/-- The fields of a cart without the instant of its making. -/
def fields (c : Cart) : List (String × Json) :=
  [("lines", .arr (c.lines.map CartLine.toJson)), ("currency", .str c.currency),
    ("locale", .optionStr c.locale), ("product_store_id", .str c.store),
    ("order_type", .str c.orderType.name), ("web_site_id", .optionStr c.webSite),
    ("user_login", (c.userLogin.map UserLogin.toJson).getD .null),
    ("auto_user_login", (c.autoUserLogin.map UserLogin.toJson).getD .null),
    ("promo_codes", .arr (c.promoCodes.map .str))]

def toJson (c : Cart) : Json := .obj (c.fields ++ [("created_at", .str c.createdAt.text)])

def ofJson? (j : Json) : Option Cart := do
  let r ← Json.Record.ofJson? 10 j
  let lines ← r.required? 0 "lines" (Json.list? CartLine.ofJson?)
  let currency ← r.required? 1 "currency" Json.str?
  let locale ← r.optional? 2 "locale" Json.str?
  let store ← r.required? 3 "product_store_id" Json.str?
  let orderType ← r.required? 4 "order_type" OrderType.ofJson?
  let webSite ← r.optional? 5 "web_site_id" Json.str?
  let userLogin ← r.optional? 6 "user_login" UserLogin.ofJson?
  let autoUserLogin ← r.optional? 7 "auto_user_login" UserLogin.ofJson?
  let promoCodes ← r.required? 8 "promo_codes" (Json.list? Json.str?)
  let createdAt ← r.required? 9 "created_at" fun j => j.str?.bind Timestamp.ofText?
  return ⟨lines, currency, locale, store, orderType, webSite, userLogin, autoUserLogin,
    promoCodes, createdAt⟩

end Cart

end SessionCart
