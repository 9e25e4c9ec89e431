import SessionCart.Scenario.Cast
import SessionCart.Scenario.Describe
import SessionCart.Scenario.Step

/-!
The stage of a scenario: the shared state, and each thread with what it has under its names.
-/

namespace SessionCart.Scenario

structure Handle where
  kind : Kind
  update : Section kind
  closed : Bool := false

inductive Keepsake
  | none
  | request (name : String) (r : RequestRef)
  | update (name : String) (h : Handle)
  | noUpdate (name : String)
  | sync (name : String) (h : Hold)
  | noSync (name : String)
  | lock (name : String) (h : Hold)
  | noLock (name : String)
  | slot (name : String) (v : Value)

/-- The outcome of a step: its answer, and what stays. -/
structure Deed where
  answer : Answer
  kept : Keepsake := .none

inductive Handed
  | underway (rest : Routine Deed)
  | arrived (answer : Answer)

structure Player where
  name : String
  workspace : Workspace := {}
  requests : Dict String RequestRef := .empty
  updates : Dict String Handle := .empty
  syncs : Dict String Hold := .empty
  locks : Dict String Hold := .empty
  slots : Dict String Value := .empty
  handed : Option Handed := .none

namespace Player

def keep (p : Player) : Keepsake → Player
  | .none => p
  | .request name r => { p with requests := p.requests.insert name r }
  | .update name h => { p with updates := p.updates.insert name h }
  | .noUpdate name => { p with updates := p.updates.erase name }
  | .sync name h => { p with syncs := p.syncs.insert name h }
  | .noSync name => { p with syncs := p.syncs.erase name }
  | .lock name h => { p with locks := p.locks.insert name h }
  | .noLock name => { p with locks := p.locks.erase name }
  | .slot name v => { p with slots := p.slots.insert name v }

def resolve (p : Player) : Source → Option Value
  | .value v => some v
  | .slot name => p.slots.get? name

/-- The open update sections of a session, by attribute name in order. -/
def activeIn (p : Player) (session : SessionId) : List String :=
  sorted ((p.workspace.active.keys.filter (·.1 = session)).map Prod.snd)

def dump (p : Player) : ThreadDump where
  name := p.name
  requests := p.requests.entries.map fun e => (e.1, p.workspace.request e.2.id)
  sections := p.updates.entries.map fun e =>
    (e.1, e.2.update.isNested, p.workspace.draft e.2.update.draft)
  active := (p.workspace.active.keys.map Prod.fst).eraseDups.map fun s => (s, p.activeIn s)

end Player

/-- The shared state and the threads, in the order in which they started. -/
structure Stage where
  world : World
  players : List Player := []
  started : Nat := 0

namespace Stage

def new (s : Setup) : Stage := { world := World.new s.settings.pruneThreshold }

/-- The place of a thread, which starts if it has not. -/
def find (st : Stage) (name : String) : ThreadId × Stage :=
  match st.players.findIdx? (·.name = name) with
  | some i => (i, st)
  | none => (st.players.length, { st with players := st.players ++ [{ name := name }] })

def player (st : Stage) (i : ThreadId) : Player := st.players[i]?.getD { name := "" }

def setPlayer (st : Stage) (i : ThreadId) (p : Player) : Stage :=
  { st with players := st.players.set i p }

def editBackend (st : Stage) (s : StoreName) (f : Backend → Backend) : Stage :=
  { st with world := st.world.setBackend s (f (st.world.backend s)) }

/-- The threads with a step that was not joined, in order. -/
def pending (st : Stage) : List String :=
  sorted ((st.players.filter (·.handed.isSome)).map Player.name)

def dump (st : Stage) : Dump where
  pending := st.pending
  main := st.world.main.store
  alt := st.world.alt.store
  locked := st.world.shared.slots.keys.filter st.world.shared.isLocked
  threads := st.players.map Player.dump

end Stage

end SessionCart.Scenario
