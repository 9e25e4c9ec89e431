import SessionCart.Scenario.Plan

/-!
Playing a scenario: step after step, each to its end. A step can be handed to its thread instead; it
then goes on as soon as the lock that it waits for is to be had, and its answer is given when the
thread is joined.
-/

namespace SessionCart.Scenario

structure Entry where
  thread : String
  /-- The step is handed to the thread, which may have to wait. -/
  handedOver : Bool
  step : Step

namespace Stage

/-- The stage after a routine of a thread got as far as it could: with its answer, or with what is
left of it. -/
def settle (st : Stage) (i : ThreadId) : Routine.Progress Deed →
    Except (Routine Deed) Answer × Stage
  | .finished (.ok deed) w l =>
    let p := { (st.player i).keep deed.kept with workspace := l }
    (.ok deed.answer, { st with world := w }.setPlayer i p)
  | .finished (.error f) w l =>
    (.ok (.failed f), { st with world := w }.setPlayer i { st.player i with workspace := l })
  | .waiting rest w l =>
    (.error rest, { st with world := w }.setPlayer i { st.player i with workspace := l })

def pursue (st : Stage) (i : ThreadId) (patient : Bool) (r : Routine Deed) :
    Except (Routine Deed) Answer × Stage :=
  st.settle i (r.run patient i st.world (st.player i).workspace)

/-- Notes how far a thread got with a step handed to it. -/
def note (st : Stage) (i : ThreadId) : Except (Routine Deed) Answer → Stage
  | .ok a => st.setPlayer i { st.player i with handed := some (.arrived a) }
  | .error rest => st.setPlayer i { st.player i with handed := some (.underway rest) }

def resumeOne (st : Stage) (i : ThreadId) : Stage :=
  match (st.player i).handed with
  | some (.underway rest) =>
    let (progress, st) := st.pursue i true rest
    st.note i progress
  | _ => st

/-- Lets all threads carry on with the steps handed to them, in turn, as often as there are threads:
what one of them gives back can be what an earlier one waits for. -/
def resumeAll (st : Stage) : Stage :=
  let everyone := List.range st.players.length
  (everyone.flatMap fun _ => everyone).foldl resumeOne st

def join (st : Stage) (i : ThreadId) : Answer × Stage :=
  match (st.player i).handed with
  | some (.arrived a) => (a, st.setPlayer i { st.player i with handed := none })
  | _ => (.missing, st)

def carryOut (st : Stage) (i : ThreadId) (handedOver : Bool) : Plan → Answer × Stage
  | .missing => if handedOver then (.nothing, st.note i (.ok .missing)) else (.missing, st)
  | .direct f =>
    let (a, st) := f st
    if handedOver then (.nothing, st.note i (.ok a)) else (a, st)
  | .course r =>
    let (progress, st) := st.pursue i handedOver r
    match handedOver, progress with
    | false, .ok a => (a, st)
    | _, progress => (.nothing, st.note i progress)

/-- The number of sessions that requests have started once a step is done. -/
def startedAfter (st : Stage) : Answer → Nat
  | .entered _ true => st.started + 1
  | _ => st.started

def play (setup : Setup) (st : Stage) (e : Entry) : Answer × Stage :=
  let (i, st) := st.find e.thread
  let (a, st) := match e.step with
    | .join => st.join i
    | step => st.carryOut i e.handedOver (step.plan setup st (st.player i))
  (a, { st with started := st.startedAfter a }.resumeAll)

end Stage

/-- The answers to all steps, each with what everything looks like after it, and the last look. -/
def play (setup : Setup) (entries : List Entry) : List (Answer × Dump) × Dump :=
  let (trail, st) := entries.foldl (fun (trail, st) e =>
    let (a, st) := st.play setup e
    ((a, st.dump) :: trail, st)) ([], Stage.new setup)
  (trail.reverse, st.dump)

end SessionCart.Scenario
