import SessionCart.Session.Store

/-!
Requests: what one request of a session has cached, and which attributes it has changed.
-/

namespace SessionCart

structure Request where
  session : SessionId
  /-- The session was started by this request. -/
  isNew : Bool
  attributes : Dict String Value
  /-- The names of the attributes marked as changed, each once. -/
  changed : List String

namespace Request

/-- A request of a known session. -/
def new (session : SessionId) : Request := ⟨session, false, .empty, []⟩

instance : Inhabited Request := ⟨new ⟨""⟩⟩

/-- A request of the session that a client names; if the name is missing or refused, of a fresh
session. -/
def resume (fresh : SessionId) (raw : Option String) : Request :=
  match raw.map SessionId.parse with
  | some (.ok session) => new session
  | _ => { new fresh with isNew := true }

def get? (r : Request) (name : String) : Option Value := r.attributes.get? name

def set (r : Request) (name : String) (value : Value) : Request :=
  { r with attributes := r.attributes.insert name value }

def remove (r : Request) (name : String) : Request :=
  { r with attributes := r.attributes.erase name }

def markChanged (r : Request) (name : String) : Request :=
  if name ∈ r.changed then r else { r with changed := r.changed ++ [name] }

def isChanged (r : Request) (name : String) : Bool := name ∈ r.changed

def text? (r : Request) (name : String) : Option String := (r.get? name).bind (·.as? .text)

@[simp] theorem session_set (r : Request) (name : String) (value : Value) :
    (r.set name value).session = r.session := rfl

@[simp] theorem get?_set (r : Request) (name : String) (value : Value) (other : String) :
    (r.set name value).get? other = if name = other then some value else r.get? other := by
  simp [set, get?]

@[simp] theorem get?_remove (r : Request) (name other : String) :
    (r.remove name).get? other = if name = other then none else r.get? other := by
  simp [remove, get?]

@[simp] theorem get?_markChanged (r : Request) (name other : String) :
    (r.markChanged name).get? other = r.get? other := by
  unfold markChanged
  split <;> rfl

@[simp] theorem isChanged_markChanged (r : Request) (name other : String) :
    (r.markChanged name).isChanged other = (other == name || r.isChanged other) := by
  unfold markChanged isChanged
  by_cases h : name ∈ r.changed <;> by_cases ho : other = name <;> simp_all

end Request

end SessionCart
