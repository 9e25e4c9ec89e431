import SessionCart.Scenario.Step

/-!
One-line descriptions of requests, sections and locks, for people who look for a fault.
-/

namespace SessionCart.Scenario

def sorted (l : List String) : List String := l.mergeSort fun a b => !decide (b < a)

def truthText (b : Bool) : String := if b then "true" else "false"

def record (name fields : String) : String := name ++ " \x7b " ++ fields ++ " \x7d"

def sessionText (s : SessionId) : String := "SessionId(" ++ Text.quote s.text ++ ")"

def describeRequest (r : Request) : String :=
  record "RequestContext" <|
    "session_id: " ++ sessionText r.session ++ ", new_session: " ++ truthText r.isNew ++
    ", attributes: " ++ Text.quoteList "[" "]" (sorted r.attributes.keys) ++
    ", changed: " ++ Text.quoteList "\x7b" "\x7d" (sorted r.changed)

def describeUpdate (isNested closed : Bool) : String :=
  record "UpdateSection" <|
    "nested: " ++ truthText isNested ++ ", closed: " ++ truthText closed ++ ", .."

def describeLock (session : SessionId) (held : Bool) : String :=
  record "LockHandle" <|
    "session_id: " ++ sessionText session ++ ", held: " ++ truthText held

def describeSync (session : SessionId) (held : Bool) : String :=
  record "SyncSection" <| "lock: " ++ describeLock session held

end SessionCart.Scenario
