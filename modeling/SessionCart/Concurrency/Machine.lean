import SessionCart.Session.Routine

/-!
Threads at work at the same time. Each has its own state and the rest of its routine; a move carries
out the next action of one of them, or lets the time of its wait run out. Any sequence of possible
moves is a run.
-/

namespace SessionCart

/-- A thread: what it has to itself, and what it still has to do. -/
structure Strand (ρ : Type) where
  workspace : Workspace
  rest : Routine ρ

structure Machine (ρ : Type) where
  world : World
  strands : List (Strand ρ)

namespace Machine

variable {ρ : Type}

def start (w : World) (routines : List (Routine ρ)) : Machine ρ :=
  ⟨w, routines.map fun r => ⟨{}, r⟩⟩

inductive Move
  | act (thread : ThreadId)
  | expire (thread : ThreadId)
  deriving DecidableEq

/-- The effect of a thread's next action on the shared state and the thread, if it has one and can
carry it out. -/
def advance (w : World) (thread : ThreadId) (s : Strand ρ) : Option (World × Strand ρ) :=
  match s.rest with
  | .done _ | .fail _ => none
  | .act (.own a) next =>
    let (reply, l) := s.workspace.perform a
    some (w, ⟨l, next reply⟩)
  | .act (.world a) next =>
    (w.perform thread a).map fun (reply, w) => (w, ⟨s.workspace, next reply⟩)

/-- The thread after its time is up, if it waits with a limit for a lock that it cannot have. -/
def giveUp (w : World) (thread : ThreadId) (s : Strand ρ) : Option (Strand ρ) :=
  match s.rest with
  | .act (.world a) next =>
    if (w.perform thread a).isSome then none
    else a.expired?.map fun reply => ⟨s.workspace, next reply⟩
  | _ => none

/-- The machine after a move; none if the move is not possible. -/
def move? (m : Machine ρ) : Move → Option (Machine ρ)
  | .act i => do
    let (w, s) ← advance m.world i (← m.strands[i]?)
    return ⟨w, m.strands.set i s⟩
  | .expire i => do
    let s ← giveUp m.world i (← m.strands[i]?)
    return ⟨m.world, m.strands.set i s⟩

inductive Reach (m : Machine ρ) : Machine ρ → Prop
  | start : Reach m m
  | move {m₁ m₂ : Machine ρ} (mv : Move) : Reach m m₁ → m₁.move? mv = some m₂ → Reach m m₂

def results (m : Machine ρ) : List (Except Failure ρ) :=
  m.strands.filterMap fun s => match s.rest with
    | .done a => some (.ok a)
    | .fail f => some (.error f)
    | .act .. => none

/-- Carries out one action of each thread of a schedule, leaving out what is not possible. -/
def follow (m : Machine ρ) (schedule : List ThreadId) : Machine ρ :=
  schedule.foldl (fun m i => (m.move? (.act i)).getD m) m

/-- Lets one thread work as far as it gets. -/
def pursue (m : Machine ρ) (i : ThreadId) : Machine ρ :=
  match m.strands[i]? with
  | none => m
  | some s => match s.rest.run true i m.world s.workspace with
    | .finished (.ok a) w l => ⟨w, m.strands.set i ⟨l, .done a⟩⟩
    | .finished (.error f) w l => ⟨w, m.strands.set i ⟨l, .fail f⟩⟩
    | .waiting rest w l => ⟨w, m.strands.set i ⟨l, rest⟩⟩

/-- Lets all threads work as far as they get, in turn, as often as there are threads. Where each
waits only for a lock that another one holds and gives back, all of them get through. -/
def settle (m : Machine ρ) : Machine ρ :=
  let everyone := List.range m.strands.length
  (everyone.flatMap fun _ => everyone).foldl pursue m

end Machine

end SessionCart
