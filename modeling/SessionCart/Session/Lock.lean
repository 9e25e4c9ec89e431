import SessionCart.Dict
import SessionCart.Session.Id

/-!
The locks of sessions. A table gives each session the slot of a lock; a lock lives as long as a
ticket refers to it, and a slot whose lock is dead may be swept or replaced. A thread draws a ticket
at the table, waits with it until the lock is free or its own, and holds one level of the lock until
the ticket is given back.
-/

namespace SessionCart

abbrev ThreadId := Nat

abbrev LockId := Nat

abbrev TicketId := Nat

/-- What a thread has of a lock: it waits for it, or holds one level of it. -/
structure Ticket where
  id : TicketId
  thread : ThreadId
  session : SessionId
  lock : LockId
  held : Bool
  deriving DecidableEq

/-- Who holds a lock, and how many levels of it. -/
structure Owner where
  thread : ThreadId
  depth : Nat
  deriving DecidableEq

structure LockTable where
  /-- The lock in the slot of each session that has one. -/
  slots : Dict SessionId LockId
  /-- The owners of the locks that are not free. -/
  owners : Dict LockId Owner
  /-- The tickets out, in the order in which they were drawn. -/
  tickets : List Ticket
  nextLock : LockId
  nextTicket : TicketId
  /-- The number of slots from which a new one is preceded by a sweep. -/
  threshold : Nat

namespace LockTable

/-- A table without slots. A threshold of zero counts as one. -/
def new (threshold : Nat) : LockTable := ⟨.empty, .empty, [], 0, 0, max threshold 1⟩

def isLive (t : LockTable) (lock : LockId) : Bool := t.tickets.any (·.lock = lock)

/-- The lock of a session that is in its slot and alive. -/
def liveLock? (t : LockTable) (session : SessionId) : Option LockId :=
  (t.slots.get? session).filter t.isLive

def prune (t : LockTable) : LockTable := { t with slots := t.slots.filter fun _ l => t.isLive l }

def slotCount (t : LockTable) : Nat := t.slots.size

def liveCount (t : LockTable) : Nat := (t.slots.filter fun _ l => t.isLive l).size

/-- Some thread holds the lock of a session. -/
def isLocked (t : LockTable) (session : SessionId) : Bool :=
  (t.liveLock? session).any t.owners.contains

/-- How many levels of a session's lock a thread holds. -/
def depth (t : LockTable) (thread : ThreadId) (session : SessionId) : Nat :=
  match (t.liveLock? session).bind t.owners.get? with
  | some o => if o.thread = thread then o.depth else 0
  | none => 0

/-- The slot of a session with a live lock in it. A new slot is preceded by a sweep if there are as
many slots as the threshold. -/
def ensureSlot (t : LockTable) (session : SessionId) : LockId × LockTable :=
  match t.liveLock? session with
  | some lock => (lock, t)
  | none =>
    let swept := if t.threshold ≤ t.slotCount then t.prune else t
    (t.nextLock, { swept with
      slots := swept.slots.insert session t.nextLock
      nextLock := t.nextLock + 1 })

def draw (t : LockTable) (thread : ThreadId) (session : SessionId) : TicketId × LockTable :=
  let (lock, slotted) := t.ensureSlot session
  (t.nextTicket, { slotted with
    tickets := slotted.tickets ++ [⟨t.nextTicket, thread, session, lock, false⟩]
    nextTicket := t.nextTicket + 1 })

def ticket? (t : LockTable) (id : TicketId) : Option Ticket := t.tickets.find? (·.id = id)

def isHeld (t : LockTable) (id : TicketId) : Bool := (t.ticket? id).any (·.held)

/-- The owner of a lock once a thread has got one more level of it; none while another thread owns
it. -/
def takeLevel (owner : Option Owner) (thread : ThreadId) : Option Owner :=
  match owner with
  | none => some ⟨thread, 1⟩
  | some o => if o.thread = thread then some ⟨thread, o.depth + 1⟩ else none

/-- The owner of a lock once a level of it was given back. -/
def yieldLevel (o : Owner) : Option Owner :=
  if o.depth ≤ 1 then none else some { o with depth := o.depth - 1 }

def markHeld (id : TicketId) (tickets : List Ticket) : List Ticket :=
  tickets.map fun k => if k.id = id then { k with held := true } else k

/-- Takes the lock of a waiting ticket, if it is free or its thread's own. -/
def grant (t : LockTable) (id : TicketId) : Option LockTable := do
  let k ← t.ticket? id
  if k.held then none
  else
    let owner ← takeLevel (t.owners.get? k.lock) k.thread
    some { t with owners := t.owners.insert k.lock owner, tickets := markHeld id t.tickets }

def setOwner (owners : Dict LockId Owner) (lock : LockId) : Option Owner → Dict LockId Owner
  | some o => owners.insert lock o
  | none => owners.erase lock

/-- Gives a ticket back, and the level of the lock that it holds. The result says whether it held
one. -/
def giveBack (t : LockTable) (id : TicketId) : Bool × LockTable :=
  match t.ticket? id with
  | none => (false, t)
  | some k =>
    let rest := { t with tickets := t.tickets.filter (·.id ≠ id) }
    if k.held then
      (true, { rest with
        owners := setOwner t.owners k.lock ((t.owners.get? k.lock).bind yieldLevel) })
    else (false, rest)

end LockTable

end SessionCart
