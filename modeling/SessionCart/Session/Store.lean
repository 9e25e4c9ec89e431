import SessionCart.Dict
import SessionCart.Session.Id
import SessionCart.Session.Value

/-!
Session storage: for each session its named values. A session appears with its first value and
disappears with its last one.
-/

namespace SessionCart

structure Store where
  sessions : Dict SessionId (Dict String Value)

namespace Store

def empty : Store := ⟨.empty⟩

instance : Inhabited Store := ⟨empty⟩

def attributes (s : Store) (session : SessionId) : Dict String Value :=
  (s.sessions.get? session).getD .empty

def get? (s : Store) (session : SessionId) (name : String) : Option Value :=
  (s.sessions.get? session).bind (·.get? name)

def set (s : Store) (session : SessionId) (name : String) (value : Value) : Store :=
  ⟨s.sessions.insert session ((s.attributes session).insert name value)⟩

/-- The store without a value; a session left without values is dropped. -/
def remove (s : Store) (session : SessionId) (name : String) : Store :=
  match s.sessions.get? session with
  | none => s
  | some values =>
    let rest := values.erase name
    if rest.isEmpty then ⟨s.sessions.erase session⟩ else ⟨s.sessions.insert session rest⟩

def invalidate (s : Store) (session : SessionId) : Store := ⟨s.sessions.erase session⟩

def sessionCount (s : Store) : Nat := (s.sessions.filter fun _ values => !values.isEmpty).size

def names (s : Store) (session : SessionId) : List String :=
  (s.attributes session).keys.mergeSort fun a b => !decide (b < a)

theorem get?_eq (s : Store) (session : SessionId) (name : String) :
    s.get? session name = (s.attributes session).get? name := by
  unfold get? attributes
  cases s.sessions.get? session <;> simp

@[simp] theorem get?_set (s : Store) (session : SessionId) (name : String) (value : Value)
    (session' : SessionId) (name' : String) :
    (s.set session name value).get? session' name' =
      if session = session' ∧ name = name' then some value else s.get? session' name' := by
  by_cases hs : session = session'
  · subst hs
    by_cases hn : name = name'
    · simp [get?, set, hn]
    · rw [if_neg fun h => hn h.2, get?_eq s]
      simp [get?, set, hn]
  · rw [if_neg fun h => hs h.1]
    simp [get?, set, hs]

@[simp] theorem get?_remove (s : Store) (session : SessionId) (name : String)
    (session' : SessionId) (name' : String) :
    (s.remove session name).get? session' name' =
      if session = session' ∧ name = name' then none else s.get? session' name' := by
  unfold remove
  cases h : s.sessions.get? session with
  | none =>
    by_cases hs : session = session' <;> simp [get?, hs]
    subst hs
    simp [h]
  | some values =>
    by_cases hs : session = session'
    · subst hs
      have hrest := Dict.get?_erase values name name'
      by_cases he : (values.erase name).isEmpty = true
      · rw [Dict.get?_of_isEmpty he] at hrest
        by_cases hn : name = name' <;> simp_all [get?]
      · by_cases hn : name = name' <;> simp_all [get?]
    · by_cases he : (values.erase name).isEmpty = true <;> simp [get?, hs, he]

@[simp] theorem get?_invalidate (s : Store) (session session' : SessionId) (name : String) :
    (s.invalidate session).get? session' name =
      if session = session' then none else s.get? session' name := by
  by_cases hs : session = session' <;> simp [get?, invalidate, hs]

end Store

end SessionCart
