import SessionCart.Proofs.Desk.Undated

/-!
# What a desk finds and leaves behind

A scene is what a request has cached and what is stored for its session. A change of the cart in an
update section, and a read of the current cart under the lock, are functions of the scene and of the
time at which a new cart would be made. That time matters only for time stamps.
-/

namespace SessionCart

namespace Shelf

/-- Puts what was found in its place, unless there is something already. -/
def fill (s : Shelf) (name : String) (found : Option Value) : Shelf :=
  ⟨fun other => if name = other then (s.value name).or found else s.value other⟩

theorem undated_fill (s : Shelf) (name : String) (found : Option Value) :
    (s.fill name found).undated = s.undated.fill name (found.map Value.undated) := by
  ext1
  funext other
  by_cases h : name = other
  · subst h
    cases hvalue : s.value name <;> simp [fill, hvalue]
  · simp [fill, h]

end Shelf

theorem Workspace.cached_fill {l : Workspace} {r : RequestRef} (hr : r.id < l.requests.length)
    (name : String) (found : Option Value) :
    (l.fill r name found).cached r = (l.cached r).fill name found := by
  have hsame : ∀ other, (l.cached r).value name = none ∧ found = none ∨
      (∃ old, (l.cached r).value name = some old) →
      (l.cached r).value other = ((l.cached r).fill name found).value other := by
    intro other h
    by_cases hname : name = other
    · subst hname
      rcases h with ⟨hnone, rfl⟩ | ⟨old, hold⟩
      · simp [Shelf.fill, hnone]
      · simp [Shelf.fill, hold]
    · simp [Shelf.fill, hname]
  cases hcached : (l.cached r).value name with
  | some old =>
    rw [fill_of_some hcached]
    ext1
    funext other
    exact hsame other (.inr ⟨old, hcached⟩)
  | none =>
    cases found with
    | none =>
      rw [fill_none]
      ext1
      funext other
      exact hsame other (.inl ⟨hcached, rfl⟩)
    | some value =>
      rw [fill_of_none hcached, cached_cache hr]
      ext1
      funext other
      simp [Shelf.fill, hcached]

/-- What a request has cached and what is stored for its session. -/
structure Scene where
  cached : Shelf
  stored : Shelf

namespace Scene

variable {α : Type} (s : Scene) (session : SessionId) (carts : CartSettings) (t : Timestamp)

def undated : Scene := ⟨s.cached.undated, s.stored.undated⟩

def fill : Scene :=
  { s with cached := s.cached.fill cartAttribute (s.stored.value cartAttribute) }

def write (c : Cart) : Scene :=
  ⟨s.cached.set cartAttribute (.cart c), s.stored.set cartAttribute (.cart c)⟩

def find (policy : ReadPolicy) : Except Error (Option Cart) :=
  Kind.cart.finds session cartAttribute policy (s.cached.value cartAttribute)
    (s.stored.value cartAttribute)

def newCart : Cart :=
  carts.newCart (fun name => (s.cached.value name).bind (·.as? .text)) t

/-- An operation on a cart has given this; a cart is written only if it did not fail. -/
def edited : Except Failure α × Cart → Except Failure (α × Cart) × Scene
  | (.ok a, changed) => (.ok (a, changed), s.write changed)
  | (.error f, _) => (.error f, s)

/-- A change of the cart in an update section. -/
def update (edit : Cart.Edit α) : Except Failure (α × Cart) × Scene :=
  match s.find session .sessionFirst with
  | .error e => (.error (.error e), s)
  | .ok found => s.fill.edited (edit (found.getD (s.newCart carts t)))

/-- A read of the current cart, which makes one if there is none. -/
def currentCart : Except Failure Cart × Scene :=
  match s.find session .requestFirst with
  | .error e => (.error (.error e), s)
  | .ok (some c) => (.ok c, s.fill)
  | .ok none => (.ok (s.newCart carts t), s.write (s.newCart carts t))

theorem undated_write (c : Cart) : (s.write c).undated = s.undated.write c.undated := by
  rw [undated, write, Shelf.undated_set, Shelf.undated_set]
  rfl

theorem undated_fill : s.fill.undated = s.undated.fill := by
  rw [undated, fill, Shelf.undated_fill]
  rfl

theorem undated_newCart : (s.newCart carts t).undated = s.undated.newCart carts (.tick 0) := by
  rw [newCart, CartSettings.undated_newCart, newCart]
  congr 1
  funext name
  rw [undated, Shelf.value_undated]
  cases s.cached.value name with
  | none => rfl
  | some v =>
    rw [Option.map_some, Option.bind_some, Option.bind_some, Value.as?_undated]
    cases v.as? .text <;> rfl

theorem find_undated (policy : ReadPolicy) :
    s.undated.find session policy = (s.find session policy).map (Option.map Cart.undated) :=
  Kind.finds_undated ..

/-- A change goes by what it finds, the time stamps of carts put aside. -/
theorem update_undated {edit : Cart.Edit α} (hedit : edit.Blind) :
    s.undated.update session carts (.tick 0) edit =
      ((s.update session carts t edit).1.map fun p => (p.1, p.2.undated),
        (s.update session carts t edit).2.undated) := by
  rw [update, update, find_undated]
  cases s.find session .sessionFirst with
  | error e => rfl
  | ok found =>
    have hstart : (found.map Cart.undated).getD (s.undated.newCart carts (.tick 0)) =
        (found.getD (s.newCart carts t)).undated := by
      cases found with
      | none => exact (s.undated_newCart carts t).symm
      | some c => rfl
    dsimp only [Except.map]
    rw [hstart, hedit, ← undated_fill]
    rcases edit (found.getD (s.newCart carts t)) with ⟨out, changed⟩
    cases out with
    | error f => rfl
    | ok a =>
      dsimp only [edited]
      rw [undated_write]

theorem currentCart_undated : s.undated.currentCart session carts (.tick 0) =
    ((s.currentCart session carts t).1.map Cart.undated,
      (s.currentCart session carts t).2.undated) := by
  rw [currentCart, currentCart, find_undated]
  cases s.find session .requestFirst with
  | error e => rfl
  | ok found =>
    cases found with
    | none =>
      dsimp only [Except.map, Option.map]
      rw [undated_write, undated_newCart]
    | some c =>
      dsimp only [Except.map, Option.map]
      rw [undated_fill]

end Scene

end SessionCart
