import SessionCart.Session.Attribute

/-!
Update sections: reading a session value, changing a copy, and committing it, all under the lock of
the session. The working value is the stored one, never a cached one. A section opened while the
thread has one open for the same attribute joins it: it shares the draft and holds no lock. Closing
commits nothing.
-/

namespace SessionCart

structure Section (k : Kind) where
  subject : Attribute k
  request : RequestRef
  draft : DraftId
  /-- The lock, unless the section joined another one. -/
  hold : Option Hold

namespace Section

variable {k : Kind}

def isNested (s : Section k) : Bool := s.hold.isNone

/-- Opens a section. A missing value is made for it alone; it reaches storage by a commit. -/
def start (a : Attribute k) (r : RequestRef) : Routine (Section k) := do
  match ← Routine.openDraft k r.session a.name with
  | some d => return ⟨a, r, d, none⟩
  | none =>
    let hold ← a.hold r
    Routine.onFailure hold.drop do
      let value ← match ← a.read r .sessionFirst false .all with
        | some d => pure d
        | none => a.create r
      let d ← Routine.beginDraft k r.session a.name value
      return ⟨a, r, d, some hold⟩

/-- A copy of the working value to change; a new value if the working one was removed. -/
def copy (s : Section k) : Routine k.Data := do
  Routine.handOut s.draft
  let draft ← Routine.draft s.draft
  match draft.current.bind (·.as? k) with
  | some d => return d
  | none => s.subject.create s.request

def commit (s : Section k) (value : k.Data) : Routine k.Data := do
  s.subject.commit s.request s.draft (some value)
  return value

def discard (s : Section k) : Routine Unit := Routine.discard s.draft

/-- Closes a section and gives its lock back. The result says whether copies were abandoned in a
section where that is an error. Closing a section that joined another one does nothing, and neither
does closing twice. -/
def finish (s : Section k) : Routine Bool := do
  match s.hold with
  | none => return false
  | some hold =>
    let draft ← Routine.draft s.draft
    if draft.closed then return false
    else
      Routine.finishDraft s.request.session s.subject.name s.draft
      hold.drop
      return draft.isAbandoned && s.subject.settings.strictCommit

/-- Closes a section. Abandoned copies are an error if the settings are strict; the lock is given
back in any case. -/
def close (s : Section k) : Routine Unit := do
  if ← s.finish then Routine.raise (.uncommitted s.request.session s.subject.name)

def drop (s : Section k) : Routine Unit := do
  let _ ← s.finish
  return ()

/-- Runs a body in a section that is closed afterwards in any case. -/
def within {α : Type} (a : Attribute k) (r : RequestRef) (body : Section k → Routine α) :
    Routine α := do
  let s ← Section.start a r
  Routine.ensuring s.drop (body s)

end Section

end SessionCart
