import SessionCart.Session.Routine
import SessionCart.Session.Settings

/-!
Holding the lock of a session: got by a ticket of a lock table, and given back once, however often
that is asked for.
-/

namespace SessionCart

/-- A level of a session's lock, or what is left of it. -/
structure Hold where
  table : TableName
  session : SessionId
  ticket : TicketId
  deriving DecidableEq

namespace Hold

/-- Gives the lock back. The result says whether it was still held. -/
def release (h : Hold) : Routine Bool := Routine.giveBack h.table h.ticket

/-- Gives the lock back if it is still held. -/
def drop (h : Hold) : Routine Unit := do
  let _ ← h.release
  return ()

/-- Waits for the lock of a session. When the time is up the ticket is given back and the attempt
has failed. -/
def acquire (table : TableName) (limit : Option Duration) (session : SessionId) : Routine Hold := do
  let ticket ← Routine.draw table session
  if ← Routine.await table ticket limit then return ⟨table, session, ticket⟩
  else
    let _ ← Routine.giveBack table ticket
    Routine.raise (.lockTimeout session (limit.getD ⟨0⟩))

def isHeld (h : Hold) (w : World) : Bool := (w.locks h.table).isHeld h.ticket

end Hold

end SessionCart
