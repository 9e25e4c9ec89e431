import SessionCart.Session.Backend
import SessionCart.Session.Lock

/-!
What all threads share: the session backends, the lock tables, and a count of the values that each
attribute's factory has made. Of all actions only waiting for a lock can be impossible for now.
-/

namespace SessionCart

inductive StoreName
  | main
  | alt
  deriving DecidableEq

/-- The lock tables: the one that everybody shares, and one that cart handlers may have of their
own. -/
inductive TableName
  | shared
  | own
  deriving DecidableEq

structure World where
  main : Backend
  alt : Backend
  shared : LockTable
  own : LockTable
  /-- How many values were made, by the label of the attribute. -/
  made : Dict String Nat

namespace World

def new (threshold : Nat) : World := ⟨default, default, .new threshold, .new threshold, .empty⟩

def backend (w : World) : StoreName → Backend
  | .main => w.main
  | .alt => w.alt

def setBackend (w : World) (s : StoreName) (b : Backend) : World :=
  match s with
  | .main => { w with main := b }
  | .alt => { w with alt := b }

def locks (w : World) : TableName → LockTable
  | .shared => w.shared
  | .own => w.own

def setLocks (w : World) (t : TableName) (l : LockTable) : World :=
  match t with
  | .shared => { w with shared := l }
  | .own => { w with own := l }

inductive Action
  | get (s : StoreName) (session : SessionId) (name : String)
  | set (s : StoreName) (session : SessionId) (name : String) (value : Value)
  | remove (s : StoreName) (session : SessionId) (name : String)
  | invalidate (s : StoreName) (session : SessionId)
  | draw (t : TableName) (session : SessionId)
  | await (t : TableName) (ticket : TicketId) (limit : Option Duration)
  | giveBack (t : TableName) (ticket : TicketId)
  | prune (t : TableName)
  | count (label : String)

/-- What an action answers: a refused call of a backend its fault, a wait whether the lock was
got. -/
abbrev Action.Reply : Action → Type
  | get .. | remove .. => Except StoreFault (Option Value)
  | set .. | invalidate .. => Except StoreFault Unit
  | draw .. => TicketId
  | await .. | giveBack .. => Bool
  | prune _ | count _ => Nat

/-- The effect of an action of a thread; none while the lock that it waits for is not to be had. -/
def perform (w : World) (thread : ThreadId) : (a : Action) → Option (a.Reply × World)
  | .get s session name =>
    let (reply, b) := (w.backend s).get session name
    some (reply, w.setBackend s b)
  | .set s session name value =>
    let (reply, b) := (w.backend s).set session name value (w.shared.isLocked session)
    some (reply, w.setBackend s b)
  | .remove s session name =>
    let (reply, b) := (w.backend s).remove session name (w.shared.isLocked session)
    some (reply, w.setBackend s b)
  | .invalidate s session =>
    let (reply, b) := (w.backend s).invalidate session (w.shared.isLocked session)
    some (reply, w.setBackend s b)
  | .draw t session =>
    let (ticket, l) := (w.locks t).draw thread session
    some (ticket, w.setLocks t l)
  | .await t ticket _ => ((w.locks t).grant ticket).map fun l => (true, w.setLocks t l)
  | .giveBack t ticket =>
    let (held, l) := (w.locks t).giveBack ticket
    some (held, w.setLocks t l)
  | .prune t =>
    let swept := (w.locks t).prune
    some ((w.locks t).slotCount - swept.slotCount, w.setLocks t swept)
  | .count label =>
    let n := (w.made.get? label).getD 0 + 1
    some (n, { w with made := w.made.insert label n })

/-- The answer of an action whose time is up: a wait with a limit did not get the lock. -/
def Action.expired? : (a : Action) → Option a.Reply
  | await _ _ (some _) => some false
  | _ => none

end World

end SessionCart
