import SessionCart.Cart.Basic

/-!
Keeping a cart in line with its session: its two logins and its locale. A cart that belongs to
somebody else is an error, so that it can be replaced.
-/

namespace SessionCart

inductive LoginChange
  | keep
  | replace (login : Option UserLogin)
  deriving DecidableEq

/-- How a cart's login follows the session's. An absent login takes the session's; an anonymous one
gives way unless the session has the same anonymous party; a named one stays while the session has
the same name, and is otherwise a mismatch if `strict` and replaced if not. -/
def loginChange (strict : Bool) : (cart session : Option UserLogin) → Except Error LoginChange
  | none, none => .ok .keep
  | none, some s => .ok (.replace (some s))
  | some c, session =>
    if c.isAnonymous then
      if session.any fun s => s.isAnonymous && s.party = c.party then .ok .keep
      else .ok (.replace session)
    else if session.any fun s => s.id = c.id then .ok .keep
    else if strict then .error (.userMismatch c.id (session.map UserLogin.id))
    else .ok (.replace session)

namespace LoginChange

def apply (login : Option UserLogin) : LoginChange → Option UserLogin
  | keep => login
  | replace new => new

def isReplacement : LoginChange → Bool
  | keep => false
  | replace _ => true

end LoginChange

namespace Cart

/-- The cart is behind the session in a login or the locale. -/
def isStale (c : Cart) (user auto : Option UserLogin) (locale : String) : Except Error Bool := do
  if (← loginChange false c.userLogin user).isReplacement then return true
  if (← loginChange false c.autoUserLogin auto).isReplacement then return true
  return c.locale ≠ some locale

/-- The cart in line with the session, and whether anything was changed. The automatic login can be
a mismatch only while no user is logged in. -/
def refresh (c : Cart) (user auto : Option UserLogin) (locale : String) :
    Except Error (Bool × Cart) := do
  let change ← loginChange true c.userLogin user
  let userLogin := change.apply c.userLogin
  let autoChange ← loginChange userLogin.isNone c.autoUserLogin auto
  let modified := change.isReplacement || autoChange.isReplacement || c.locale ≠ some locale
  return (modified, { c with
    userLogin := userLogin
    autoUserLogin := autoChange.apply c.autoUserLogin
    locale := some locale })

end Cart

end SessionCart
