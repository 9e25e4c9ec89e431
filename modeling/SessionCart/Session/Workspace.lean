import SessionCart.Session.Request

/-!
What a thread has to itself: its requests, the drafts of its update sections, and the table of the
drafts that are open, by session and attribute. Nothing here blocks, and no other thread sees it.
-/

namespace SessionCart

abbrev RequestId := Nat

abbrev DraftId := Nat

/-- A request of a thread and the session it belongs to. -/
structure RequestRef where
  id : RequestId
  session : SessionId
  deriving DecidableEq

/-- The working state of an update section, shared by the sections that joined it. -/
structure Draft where
  kind : Kind
  /-- The working value; absent once the value was removed inside the section. -/
  current : Option Value
  copies : Nat := 0
  committed : Bool := false
  discarded : Bool := false
  closed : Bool := false

instance : Inhabited Draft := ⟨{ kind := .json, current := none }⟩

/-- A copy was handed out and neither committed nor discarded. -/
def Draft.isAbandoned (d : Draft) : Bool := 0 < d.copies && !d.committed && !d.discarded

structure Workspace where
  requests : List Request := []
  drafts : List Draft := []
  active : Dict (SessionId × String) DraftId := .empty

namespace Workspace

instance : Inhabited Workspace := ⟨{}⟩

def request (w : Workspace) (r : RequestId) : Request := w.requests[r]?.getD default

def draft (w : Workspace) (d : DraftId) : Draft := w.drafts[d]?.getD default

def editRequest (w : Workspace) (r : RequestId) (f : Request → Request) : Workspace :=
  { w with requests := w.requests.modify r f }

def editDraft (w : Workspace) (d : DraftId) (f : Draft → Draft) : Workspace :=
  { w with drafts := w.drafts.modify d f }

def addRequest (w : Workspace) (r : Request) : RequestRef × Workspace :=
  (⟨w.requests.length, r.session⟩, { w with requests := w.requests ++ [r] })

def openDraft? (w : Workspace) (kind : Kind) (session : SessionId) (name : String) :
    Option DraftId :=
  (w.active.get? (session, name)).filter fun d => (w.draft d).kind = kind

def hasOpen (w : Workspace) (session : SessionId) (name : String) : Bool :=
  w.active.contains (session, name)

inductive Action
  | accept (r : Request)
  | request (r : RequestId)
  | cache (r : RequestId) (name : String) (value : Value)
  | uncache (r : RequestId) (name : String)
  | mark (r : RequestId) (name : String)
  | openDraft (kind : Kind) (session : SessionId) (name : String)
  | begin (kind : Kind) (session : SessionId) (name : String) (value : Value)
  | draft (d : DraftId)
  | handOut (d : DraftId)
  | record (d : DraftId) (value : Option Value)
  | discard (d : DraftId)
  /-- Closes a draft and takes it out of the table if it is the one in there. -/
  | finish (session : SessionId) (name : String) (d : DraftId)

abbrev Action.Reply : Action → Type
  | accept _ => RequestRef
  | request _ => Request
  | openDraft .. => Option DraftId
  | begin .. => DraftId
  | draft _ => Draft
  | _ => Unit

def perform (w : Workspace) : (a : Action) → a.Reply × Workspace
  | .accept r => w.addRequest r
  | .request r => (w.request r, w)
  | .cache r name value => ((), w.editRequest r (·.set name value))
  | .uncache r name => ((), w.editRequest r (·.remove name))
  | .mark r name => ((), w.editRequest r (·.markChanged name))
  | .openDraft kind session name => (w.openDraft? kind session name, w)
  | .begin kind session name value =>
    (w.drafts.length, { w with
      drafts := w.drafts ++ [{ kind := kind, current := some value }]
      active := w.active.insert (session, name) w.drafts.length })
  | .draft d => (w.draft d, w)
  | .handOut d => ((), w.editDraft d fun s => { s with copies := s.copies + 1 })
  | .record d value => ((), w.editDraft d fun s => { s with current := value, committed := true })
  | .discard d => ((), w.editDraft d fun s => { s with discarded := true })
  | .finish session name d =>
    let closed := w.editDraft d fun s => { s with closed := true }
    ((), if w.active.get? (session, name) = some d then
        { closed with active := w.active.erase (session, name) }
      else closed)

end Workspace

end SessionCart
