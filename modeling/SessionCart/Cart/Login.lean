/-!
The logins that a session holds and a cart repeats, and when a cart's login has to follow the
session's.
-/

namespace SessionCart

/-- A login: the user's name and the party it stands for. -/
structure UserLogin where
  id : String
  party : Option String
  deriving DecidableEq

namespace UserLogin

def anonymousId : String := "anonymous"

def anonymous (party : String) : UserLogin := ⟨anonymousId, some party⟩

def isAnonymous (l : UserLogin) : Bool := l.id = anonymousId

end UserLogin

end SessionCart
