import SessionCart.Cart.Basic

/-!
Settings of carts, how an environment gives them, and the carts that they make for a request.
-/

namespace SessionCart

/-- Who makes new carts: the storefront or the order entry of the back office. -/
inductive CartMaker
  | web
  | orderEntry
  deriving DecidableEq

/-- The maker of a name, blanks around it and case ignored. -/
def CartMaker.ofName? (s : String) : Option CartMaker :=
  match (Text.trim s).toLower with
  | "web" => some .web
  | "order-entry" | "orderentry" => some .orderEntry
  | _ => none

structure CartSettings where
  maker : CartMaker := .web
  currency : String := "USD"
  store : String := "9000"
  deriving DecidableEq

namespace CartSettings

/-- The settings of an environment; what is missing, blank or unknown has its default. -/
def ofEnvironment (env : String → Option String) : CartSettings where
  maker := ((env "CART_FACTORY").bind CartMaker.ofName?).getD .web
  currency := ((env "CART_DEFAULT_CURRENCY").bind Text.trimmed? |>.map String.toUpper).getD "USD"
  store := ((env "CART_PRODUCT_STORE_ID").bind Text.trimmed?).getD "9000"

inductive Change
  | maker (m : CartMaker)
  | currency (c : String)
  | store (s : String)

def apply (s : CartSettings) : Change → CartSettings
  | .maker m => { s with maker := m }
  | .currency c => { s with currency := c }
  | .store v => { s with store := v }

/-- The settings after each of a list of changes, the first ones included. -/
def history (s : CartSettings) : List Change → List CartSettings
  | [] => [s]
  | c :: rest => s :: history (s.apply c) rest

end CartSettings

def storeAttribute : String := "productStoreId"

def orderModeAttribute : String := "orderMode"

def currencyAttribute : String := "currencyUom"

def webSiteName : String := "WebStore"

/-- A new cart for a request, of which `text` gives the textual attributes. An attribute that is
empty counts as absent. The storefront makes sales orders in its own currency; order entry follows
the request in order type and currency too. -/
def CartSettings.newCart (s : CartSettings) (text : String → Option String)
    (createdAt : Timestamp) : Cart :=
  let given name := (text name).filter (!·.isEmpty)
  let store := (given storeAttribute).getD s.store
  match s.maker with
  | .web => { Cart.new store s.currency .sales createdAt with webSite := some webSiteName }
  | .orderEntry =>
    Cart.new store ((given currencyAttribute).getD s.currency)
      (((given orderModeAttribute).bind OrderType.ofMode?).getD .sales) createdAt

end SessionCart
