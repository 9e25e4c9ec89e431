import SessionCart.Session.Workspace
import SessionCart.Session.World

/-!
Routines: what a thread does, action by action. The same routine is run at one go by `run`, and
interleaved with those of other threads action by action, so what is proved about its actions holds
of both.
-/

namespace SessionCart

/-- One action of a thread: on the shared state, or on its own. -/
inductive Action
  | world (a : World.Action)
  | own (a : Workspace.Action)

abbrev Action.Reply : Action → Type
  | world a => a.Reply
  | own a => a.Reply

/-- A course of actions with a result, or a failure. -/
inductive Routine (α : Type) : Type
  | done (a : α)
  | fail (f : Failure)
  | act (a : Action) (next : a.Reply → Routine α)

namespace Routine

variable {α β : Type}

def bind : Routine α → (α → Routine β) → Routine β
  | done a, k => k a
  | fail f, _ => fail f
  | act a next, k => act a fun r => (next r).bind k

instance : Monad Routine where
  pure := done
  bind := bind

@[simp] theorem pure_eq (a : α) : (pure a : Routine α) = done a := rfl

@[simp] theorem done_bind (a : α) (k : α → Routine β) : (done a >>= k) = k a := rfl

@[simp] theorem fail_bind (f : Failure) (k : α → Routine β) : (fail f >>= k) = fail f := rfl

@[simp] theorem act_bind (a : Action) (next : a.Reply → Routine α) (k : α → Routine β) :
    (act a next >>= k) = act a fun r => next r >>= k := rfl

theorem bind_assoc {γ : Type} (x : Routine α) (k : α → Routine β) (l : β → Routine γ) :
    (x >>= k) >>= l = x >>= fun a => k a >>= l := by
  induction x with
  | done a => rfl
  | fail f => rfl
  | act a next ih => exact congrArg (act a) (funext ih)

def raise (e : Error) : Routine α := fail (.error e)

def ofExcept : Except Error α → Routine α
  | .ok a => done a
  | .error e => raise e

/-- The reply of a backend; a refused call is an error. -/
def ofReply (reply : Except StoreFault α) : Routine α := ofExcept (reply.mapError .storage)

def onFailure (cleanup : Routine Unit) : Routine α → Routine α
  | done a => done a
  | fail f => cleanup.bind fun _ => fail f
  | act a next => act a fun r => onFailure cleanup (next r)

/-- Runs a cleanup after the body, whether it fails or not. -/
def ensuring (cleanup : Routine Unit) : Routine α → Routine α
  | done a => cleanup.bind fun _ => done a
  | fail f => cleanup.bind fun _ => fail f
  | act a next => act a fun r => ensuring cleanup (next r)

/-- The outcome of a routine, a failure included, as a result. -/
def attempt : Routine α → Routine (Except Failure α)
  | done a => done (.ok a)
  | fail f => done (.error f)
  | act a next => act a fun r => attempt (next r)

def world (a : World.Action) : Routine a.Reply := act (.world a) done

def own (a : Workspace.Action) : Routine a.Reply := act (.own a) done

section Store

variable (s : StoreName) (session : SessionId)

def getStored (name : String) : Routine (Option Value) :=
  bind (world (.get s session name)) ofReply

def setStored (name : String) (value : Value) : Routine Unit :=
  bind (world (.set s session name value)) ofReply

def removeStored (name : String) : Routine (Option Value) :=
  bind (world (.remove s session name)) ofReply

def invalidate : Routine Unit := bind (world (.invalidate s session)) ofReply

end Store

def draw (t : TableName) (session : SessionId) : Routine TicketId := world (.draw t session)

/-- Waits with a ticket, for a limited time if a limit is given. The result says whether the lock
was got. -/
def await (t : TableName) (ticket : TicketId) (limit : Option Duration) : Routine Bool :=
  world (.await t ticket limit)

def giveBack (t : TableName) (ticket : TicketId) : Routine Bool := world (.giveBack t ticket)

def prune (t : TableName) : Routine Nat := world (.prune t)

def count (label : String) : Routine Nat := world (.count label)

def accept (r : Request) : Routine RequestRef := own (.accept r)

def request (r : RequestRef) : Routine Request := own (.request r.id)

def cache (r : RequestRef) (name : String) (value : Value) : Routine Unit :=
  own (.cache r.id name value)

def uncache (r : RequestRef) (name : String) : Routine Unit := own (.uncache r.id name)

def mark (r : RequestRef) (name : String) : Routine Unit := own (.mark r.id name)

def openDraft (k : Kind) (session : SessionId) (name : String) : Routine (Option DraftId) :=
  own (.openDraft k session name)

def beginDraft (k : Kind) (session : SessionId) (name : String) (value : k.Data) :
    Routine DraftId :=
  own (.begin k session name (.of k value))

def draft (d : DraftId) : Routine Draft := own (.draft d)

def handOut (d : DraftId) : Routine Unit := own (.handOut d)

def record (d : DraftId) (value : Option Value) : Routine Unit := own (.record d value)

def discard (d : DraftId) : Routine Unit := own (.discard d)

def finishDraft (session : SessionId) (name : String) (d : DraftId) : Routine Unit :=
  own (.finish session name d)

inductive Progress (α : Type)
  | finished (result : Except Failure α) (world : World) (workspace : Workspace)
  | waiting (rest : Routine α) (world : World) (workspace : Workspace)

/-- Runs a routine as far as it gets. One that is not patient gives up at once on a lock that it
would wait for with a limit and cannot have. -/
def run (patient : Bool) (thread : ThreadId) : Routine α → World → Workspace → Progress α
  | done a, w, l => .finished (.ok a) w l
  | fail f, w, l => .finished (.error f) w l
  | act (.own a) next, w, l =>
    let (reply, l) := l.perform a
    run patient thread (next reply) w l
  | act (.world a) next, w, l =>
    match w.perform thread a with
    | some (reply, w) => run patient thread (next reply) w l
    | none =>
      match if patient then none else a.expired? with
      | some reply => run patient thread (next reply) w l
      | none => .waiting (act (.world a) next) w l

end Routine

end SessionCart
