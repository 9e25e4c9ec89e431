import SessionCart.Session.Hold
import SessionCart.Session.Scope

/-!
Reading and writing one attribute of a session. A value lives in session storage and, as a snapshot,
in the cache of each request that has seen it. A missing value can be made on reading, under the
session's lock, so that racing requests make one value at most. A session write while the thread has
an update section open for the attribute goes through that section.
-/

namespace SessionCart

/-- An attribute with values of one kind. -/
structure Attribute (k : Kind) where
  /-- The label under which made values are counted. -/
  label : String
  name : String
  store : StoreName
  table : TableName
  settings : Settings
  /-- Makes the value of a session that has none. The number counts the values made. -/
  make : Nat → Request → Except Panic k.Data

namespace Attribute

variable {k : Kind} (a : Attribute k) (r : RequestRef)

/-- A found value, which must be of the attribute's kind. -/
def typed : Option Value → Routine (Option k.Data)
  | none => return none
  | some v => match v.as? k with
    | some d => return some d
    | none => Routine.raise (.typeMismatch r.session a.name)

def cached : Routine (Option k.Data) := do
  let request ← Routine.request r
  a.typed r (request.get? a.name)

def stored : Routine (Option k.Data) := do
  a.typed r (← Routine.getStored a.store r.session a.name)

/-- A new value, not stored anywhere. -/
def create : Routine k.Data := do
  let n ← Routine.count a.label
  let request ← Routine.request r
  match a.make n request with
  | .ok d => return d
  | .error p => Routine.fail (.panic p)

def hold : Routine Hold := Hold.acquire a.table a.settings.lockTimeout r.session

def cache : Option k.Data → Routine Unit
  | some d => Routine.cache r a.name (.of k d)
  | none => Routine.uncache r a.name

def keep : Option k.Data → Routine Unit
  | some d => Routine.setStored a.store r.session a.name (.of k d)
  | none => do
    let _ ← Routine.removeStored a.store r.session a.name
    return ()

/-- Writes a value, or its absence, to the places of a scope: first to session storage, which can
refuse it, and then to the cache. A session write marks the attribute as changed. -/
def writeDirectly (value : Option k.Data) (scope : Scope) : Routine Unit := do
  if scope.session then a.keep r value
  if scope.request then a.cache r value
  if scope.session then Routine.mark r a.name

/-- Commits a value, or its absence, through a draft: to both places, and then to the draft. -/
def commit (d : DraftId) (value : Option k.Data) : Routine Unit := do
  let draft ← Routine.draft d
  if draft.closed then Routine.raise (.sectionClosed r.session a.name)
  else
    a.writeDirectly r value .all
    Routine.record d (value.map (Value.of k))

/-- Writes a value, or its absence. A session write commits through the update section that the
thread has open for the attribute, if there is one, whatever else the scope says. -/
def write (value : Option k.Data) (scope : Scope) : Routine Unit := do
  if scope.session then
    match ← Routine.openDraft k r.session a.name with
    | some d => a.commit r d value
    | none => a.writeDirectly r value scope
  else a.writeDirectly r value scope

def remove (scope : Scope) : Routine Unit := a.write r none scope

/-- Makes a value under the session's lock, unless storage has got one meanwhile. The result says
whether the value is new; a new value is written to the scope. -/
def createOnce (scope : Scope) : Routine (k.Data × Bool) := do
  let hold ← a.hold r
  Routine.ensuring hold.drop do
    match ← a.stored r with
    | some d => return (d, false)
    | none =>
      let d ← a.create r
      a.write r (some d) scope
      return (d, true)

/-- Reads the value: from the place that the policy names first, else from the other one, else, if
wanted, a new one. If the request had no value cached and the scope includes its cache, what was
found is cached. A read that creates nothing writes nothing else. -/
def read (policy : ReadPolicy) (creating : Bool) (scope : Scope) : Routine (Option k.Data) := do
  let cached ← a.cached r
  let found ← match policy, cached with
    | .requestFirst, some d => pure (some d)
    | .requestFirst, none => a.stored r
    | .sessionFirst, cached => do
      match ← a.stored r with
      | some d => pure (some d)
      | none => pure cached
  match found with
  | some d =>
    if cached.isNone && scope.request then a.cache r (some d)
    return some d
  | none =>
    if creating then
      let (d, isNew) ← a.createOnce r scope
      if !isNew && scope.request then a.cache r (some d)
      return some d
    else return none

def current (creating : Bool) : Routine (Option k.Data) := a.read r .requestFirst creating .all

def isChanged (w : Workspace) : Bool := (w.request r.id).isChanged a.name

end Attribute

end SessionCart
