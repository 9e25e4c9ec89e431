import SessionCart.Cart.Desk
import SessionCart.Cart.Script

/-!
The steps of a scenario, in which several threads work on sessions one step at a time, and the
answers to them. Requests, sections, locks and copies are called by names that each thread gives
them; attributes and backends by names that all threads share.
-/

namespace SessionCart.Scenario

/-- A value that a step speaks of: itself, or a copy kept under a name. -/
inductive Source
  | value (v : Value)
  | slot (name : String)

inductive Reading
  | full (policy : ReadPolicy) (creating : Bool) (scope : Scope)
  | current (creating : Bool)

inductive Alteration
  | putField (name : String) (value : Json)
  | pushItem (item : Json)
  | increase (amount : Int)
  | appendText (s : String)
  | cartSteps (steps : List CartStep)

inductive Errand
  | cart
  | cartIfAny
  | setCart (source : Source)
  | isChanged
  | markChanged
  | parked
  | addItem (product : String) (quantity : Decimal)
  | changeQuantity (product : String) (quantity : Decimal)
  | removeItem (product : String)
  | enterPromoCode (code : String)
  | withdrawPromoCode (code : String)
  | clear
  | destroy
  | status
  | refresh (locale : String)
  | switchCart (index store : Option String)
  | dropParked (index : Option String)
  | forgetCached

inductive Step
  -- requests
  | enter (request : String) (session : SessionId)
  | resume (request : String) (raw : Option String)
  | cached (request name : String)
  | cache (request name : String) (source : Source)
  | uncache (request name : String)
  | mark (request name : String)
  | isMarked (request name : String)
  | describeRequest (request : String)
  -- backends
  | get (store : StoreName) (session : SessionId) (name : String)
  | set (store : StoreName) (session : SessionId) (name : String) (source : Source)
  | remove (store : StoreName) (session : SessionId) (name : String)
  | invalidate (store : StoreName) (session : SessionId)
  | sessionCount (store : StoreName)
  | names (store : StoreName) (session : SessionId)
  | planOutage (store : StoreName) (plan : Outage)
  | planIntrusion (store : StoreName) (plan : Intrusion)
  | calls (store : StoreName)
  | events (store : StoreName)
  -- attributes
  | read (subject request : String) (reading : Reading)
  | write (subject request : String) (source : Option Source) (scope : Scope)
  | unset (subject request : String) (scope : Scope)
  | isChanged (subject request : String)
  | create (subject request : String)
  | settings (subject : String)
  -- update sections
  | openUpdate (subject request handle : String)
  | copy (handle slot : String)
  | edit (slot : String) (change : Alteration)
  | commit (handle : String) (source : Source)
  | working (handle : String)
  | isCommitted (handle : String)
  | isNested (handle : String)
  | discard (handle : String)
  | close (handle : String)
  | drop (handle : String)
  | describeUpdate (handle : String)
  /-- Opens a section, takes a copy, commits a value if there is one, and gives up. -/
  | abandonUpdate (subject request : String) (source : Option Source)
  | hasOpen (session : SessionId) (name : String)
  -- sections that only hold the lock
  | openSync (subject request handle : String)
  | isSyncOpen (handle : String)
  | closeSync (handle : String)
  | dropSync (handle : String)
  | describeSync (handle : String)
  -- locks
  | acquire (subject : String) (session : SessionId) (handle : String)
  | release (handle : String)
  | isHeld (handle : String)
  | dropLock (handle : String)
  | describeLock (handle : String)
  | isLocked (subject : String) (session : SessionId)
  | liveLocks (subject : String)
  | slotCount (subject : String)
  | prune (subject : String)
  -- the desk
  | desk (request : String) (errand : Errand)
  -- the scenario itself
  | join
  | dump

structure ThreadDump where
  name : String
  requests : List (String × Request)
  /-- Sections by name: whether they joined another one, and their draft. -/
  sections : List (String × Bool × Draft)
  /-- The attributes with an open update section, by session, in order. -/
  active : List (SessionId × List String)

structure Dump where
  /-- Threads whose steps are not through; while there are any, nothing else is shown. -/
  pending : List String
  main : Store
  alt : Store
  locked : List SessionId
  threads : List ThreadDump

inductive Answer
  | nothing
  | missing
  | failed (f : Failure)
  | faulted (f : StoreFault)
  | flag (b : Bool)
  | number (n : Nat)
  | text (s : String)
  | texts (l : List String)
  | value (v : Option Value)
  | cart (c : Option Cart)
  | carts (l : List Cart)
  | summary (s : CartSummary)
  | status (s : CartStatus)
  | entered (session : SessionId) (isNew : Bool)
  | opened (session : SessionId) (isNested : Bool)
  | synced (session : SessionId)
  | acquired (session : SessionId)
  | settings (name : String) (s : Settings)
  /-- The results of the changes of a cart, if it is one, and the changed copy. -/
  | edited (results : Option (List (Except Failure CartAnswer))) (value : Value)
  | calls (c : CallCounts)
  | events (l : List StoreEvent)
  | dump (d : Dump)

end SessionCart.Scenario
