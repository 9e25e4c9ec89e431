import SessionCart.Session.Store

/-!
A session backend: storage reached through calls that are counted and can fail. What a call does to
the storage is the storage's own operation; a failing call does nothing to it.
-/

namespace SessionCart

inductive StoreCall
  | get
  | set
  | remove
  | invalidate
  deriving DecidableEq

def StoreCall.name : StoreCall → String
  | get => "get"
  | set => "set"
  | remove => "remove"
  | invalidate => "invalidate"

structure CallCounts where
  get : Nat := 0
  set : Nat := 0
  remove : Nat := 0
  invalidate : Nat := 0
  deriving DecidableEq

namespace CallCounts

def count (c : CallCounts) : StoreCall → Nat
  | .get => c.get
  | .set => c.set
  | .remove => c.remove
  | .invalidate => c.invalidate

def add (c : CallCounts) : StoreCall → CallCounts
  | .get => { c with get := c.get + 1 }
  | .set => { c with set := c.set + 1 }
  | .remove => { c with remove := c.remove + 1 }
  | .invalidate => { c with invalidate := c.invalidate + 1 }

end CallCounts

/-- Which calls fail. A call is named by its operation and the number of calls of that operation
before it. -/
structure Outage where
  fails : StoreCall → Nat → Bool
  reason : String

namespace Outage

def none : Outage := ⟨fun _ _ => false, ""⟩

/-- Of the calls of one operation `skip` pass, the next `times` fail and the others pass; without a
number of times all the others fail. -/
def window (call : StoreCall) (skip : Nat) (times : Option Nat) (reason : String) : Outage where
  fails c n := c = call && skip ≤ n && times.all (n < skip + ·)
  reason := reason

end Outage

/-- A change that another party makes to a session right after a read of an attribute. -/
structure Intrusion where
  /-- The attribute whose reads are counted. -/
  read : String
  /-- How many successful reads are still to come, the last of them the occasion. -/
  remaining : Nat
  name : String
  value : Option Value

structure StoreEvent where
  call : StoreCall
  session : SessionId
  name : String
  locked : Bool

structure Backend where
  store : Store := .empty
  outage : Outage := .none
  /-- The calls since the outage was planned. -/
  planned : CallCounts := {}
  intrusion : Option Intrusion := none
  /-- The calls since they were last asked for. -/
  calls : CallCounts := {}
  /-- The changing calls since they were last asked for, the newest first. -/
  events : List StoreEvent := []

namespace Backend

instance : Inhabited Backend := ⟨{}⟩

def failsNext (b : Backend) (call : StoreCall) : Bool := b.outage.fails call (b.planned.count call)

/-- The backend with a call counted, and written down if it could change storage. -/
def note (b : Backend) (call : StoreCall) (session : SessionId) (name : String) (locked : Bool) :
    Backend :=
  { b with
    planned := b.planned.add call
    calls := b.calls.add call
    events := if call = .get then b.events else ⟨call, session, name, locked⟩ :: b.events }

/-- Another party's change after a successful read, if its occasion has come. -/
def intrude (b : Backend) (session : SessionId) (name : String) : Backend :=
  match b.intrusion with
  | none => b
  | some i =>
    if i.read ≠ name then b
    else if 1 < i.remaining then
      { b with intrusion := some { i with remaining := i.remaining - 1 } }
    else
      let store := match i.value with
        | some v => b.store.set session i.name v
        | none => b.store.remove session i.name
      { b with store := store, intrusion := none }

def fault (b : Backend) (call : StoreCall) : StoreFault := ⟨call.name, b.outage.reason⟩

/-- A call: counted, then refused or carried out. -/
def perform {α : Type} (b : Backend) (call : StoreCall) (session : SessionId) (name : String)
    (locked : Bool) (act : Backend → α × Backend) : Except StoreFault α × Backend :=
  let noted := b.note call session name locked
  if b.failsNext call then (.error (b.fault call), noted)
  else
    let (reply, after) := act noted
    (.ok reply, after)

def get (b : Backend) (session : SessionId) (name : String) :
    Except StoreFault (Option Value) × Backend :=
  b.perform .get session name false fun b => (b.store.get? session name, b.intrude session name)

def set (b : Backend) (session : SessionId) (name : String) (value : Value) (locked : Bool) :
    Except StoreFault Unit × Backend :=
  b.perform .set session name locked fun b =>
    ((), { b with store := b.store.set session name value })

def remove (b : Backend) (session : SessionId) (name : String) (locked : Bool) :
    Except StoreFault (Option Value) × Backend :=
  b.perform .remove session name locked fun b =>
    (b.store.get? session name, { b with store := b.store.remove session name })

def invalidate (b : Backend) (session : SessionId) (locked : Bool) :
    Except StoreFault Unit × Backend :=
  b.perform .invalidate session "" locked fun b =>
    ((), { b with store := b.store.invalidate session })

end Backend

end SessionCart
