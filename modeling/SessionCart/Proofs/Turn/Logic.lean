import SessionCart.Proofs.Thread.Logic

/-!
# Turns

What a thread does with a session between getting its lock and giving it back is a turn. The
predicate `Site.wp` says of a routine that it reads and changes the session's shelf only in turns,
and what its outcome and its turns then are, whatever other threads do between its turns. It is
computed along the routine, one clause for each action, so a routine is proved by running it.
-/

namespace SessionCart

/-- What is stored for a session. -/
@[ext]
structure Shelf where
  value : String → Option Value

namespace Shelf

def set (s : Shelf) (name : String) (value : Value) : Shelf :=
  ⟨fun other => if name = other then some value else s.value other⟩

def remove (s : Shelf) (name : String) : Shelf :=
  ⟨fun other => if name = other then none else s.value other⟩

def empty : Shelf := ⟨fun _ => none⟩

@[simp]
theorem value_set (s : Shelf) (name : String) (value : Value) (other : String) :
    (s.set name value).value other = if name = other then some value else s.value other := rfl

@[simp]
theorem value_remove (s : Shelf) (name other : String) :
    (s.remove name).value other = if name = other then none else s.value other := rfl

end Shelf

/-- The session that turns are about, and what a write may do to its shelf. -/
structure Site where
  session : SessionId
  store : StoreName
  table : TableName
  /-- The shelf before and after, for a thread that looks twice. -/
  allows : Shelf → Shelf → Prop
  refl : ∀ s, allows s s
  trans : ∀ {s₁ s₂ s₃}, allows s₁ s₂ → allows s₂ s₃ → allows s₁ s₃

/-- What a thread knows of itself and the shelf. -/
structure View where
  workspace : Workspace
  /-- Its tickets, and whether they hold the lock. -/
  tickets : List (TicketId × Bool)
  shelf : Shelf
  /-- The shelf as it was when the turn began, for a thread inside one. -/
  since : Shelf
  /-- The shelf before and after each turn that it has ended. -/
  turns : List (Shelf × Shelf)

namespace View

variable (v : View)

def inside : Bool := v.tickets.any Prod.snd

/-- What the shelf may be now. -/
def Sees (x : Site) (s : Shelf) : Prop :=
  if v.inside = true then s = v.shelf else x.allows v.shelf s

def draw (k : TicketId) : View := { v with tickets := v.tickets ++ [(k, false)] }

/-- The thread has got the lock with a ticket, and found the shelf so. -/
def enter (k : TicketId) (s : Shelf) : View :=
  { v with
    tickets := v.tickets.map fun e => if e.1 = k then (e.1, true) else e
    shelf := s
    since := if v.inside = true then v.since else s }

/-- The thread has given a ticket back; its turn ends with the last one that held the lock. -/
def leave (k : TicketId) : View :=
  let left := v.tickets.filter fun e => decide (e.1 ≠ k)
  { v with
    tickets := left
    turns := v.turns ++
      if v.inside = true ∧ left.any Prod.snd = false then [(v.since, v.shelf)] else [] }

def put (s : Shelf) : View := { v with shelf := s }

def work (l : Workspace) : View := { v with workspace := l }

@[simp]
theorem inside_draw (k : TicketId) : (v.draw k).inside = v.inside := by
  simp [draw, inside]

end View

namespace Site

variable (x : Site)

/-- One action on the shared state: allowed for a thread that knows this, with `next` of whatever
the answer can be and of what the thread then knows. -/
def Allows (v : View) : (a : World.Action) → (next : a.Reply → View → Prop) → Prop
  | .get s session name, next =>
    s = x.store ∧ session = x.session ∧
      ∀ now, v.Sees x now → next (.ok (now.value name)) (v.put now)
  | .set s session name value, next =>
    s = x.store ∧ session = x.session ∧ v.inside = true ∧
      x.allows v.shelf (v.shelf.set name value) ∧ next (.ok ()) (v.put (v.shelf.set name value))
  | .remove s session name, next =>
    s = x.store ∧ session = x.session ∧ v.inside = true ∧
      x.allows v.shelf (v.shelf.remove name) ∧
      next (.ok (v.shelf.value name)) (v.put (v.shelf.remove name))
  | .invalidate s session, next =>
    s = x.store ∧ session = x.session ∧ v.inside = true ∧
      x.allows v.shelf .empty ∧ next (.ok ()) (v.put .empty)
  | .draw t session, next =>
    t = x.table ∧ session = x.session ∧
      ∀ k, (∀ e ∈ v.tickets, e.1 ≠ k) → next k (v.draw k)
  | .await t k limit, next =>
    t = x.table ∧ (k, false) ∈ v.tickets ∧ (∀ now, v.Sees x now → next true (v.enter k now)) ∧
      (limit.isSome = true → next false v)
  | .giveBack t k, next =>
    t = x.table ∧ ∃ held, (k, held) ∈ v.tickets ∧ next held (v.leave k)
  | .prune _, next => ∀ n, next n v
  | .count _, next => ∀ n, next n v

/-- The routine keeps to turns, and ends with an outcome and a view that satisfy `Q`. -/
def wp {α : Type} (Q : Except Failure α → View → Prop) : Routine α → View → Prop
  | .done a, v => Q (.ok a) v
  | .fail f, v => Q (.error f) v
  | .act (.own a) next, v =>
    wp Q (next (v.workspace.perform a).1) (v.work (v.workspace.perform a).2)
  | .act (.world a) next, v => x.Allows v a fun reply v => wp Q (next reply) v

variable {x} {α β : Type} {v : View}

section Equations

variable {Q : Except Failure α → View → Prop}

@[simp]
theorem wp_done (a : α) (v : View) : x.wp Q (.done a) v = Q (.ok a) v := rfl

@[simp]
theorem wp_fail (f : Failure) (v : View) : x.wp Q (.fail f) v = Q (.error f) v := rfl

@[simp]
theorem wp_own (a : Workspace.Action) (next : a.Reply → Routine α) (v : View) :
    x.wp Q (.act (.own a) next) v =
      x.wp Q (next (v.workspace.perform a).1) (v.work (v.workspace.perform a).2) := rfl

@[simp]
theorem wp_world (a : World.Action) (next : a.Reply → Routine α) (v : View) :
    x.wp Q (.act (.world a) next) v = x.Allows v a fun reply v => x.wp Q (next reply) v := rfl

end Equations

theorem Allows.mono {a : World.Action} {next next' : a.Reply → View → Prop}
    (h : x.Allows v a next) (hnext : ∀ reply v', next reply v' → next' reply v') :
    x.Allows v a next' := by
  cases a with
  | get s session name => exact ⟨h.1, h.2.1, fun now hnow => hnext _ _ (h.2.2 now hnow)⟩
  | set s session name value => exact ⟨h.1, h.2.1, h.2.2.1, h.2.2.2.1, hnext _ _ h.2.2.2.2⟩
  | remove s session name => exact ⟨h.1, h.2.1, h.2.2.1, h.2.2.2.1, hnext _ _ h.2.2.2.2⟩
  | invalidate s session => exact ⟨h.1, h.2.1, h.2.2.1, h.2.2.2.1, hnext _ _ h.2.2.2.2⟩
  | draw t session => exact ⟨h.1, h.2.1, fun k hk => hnext _ _ (h.2.2 k hk)⟩
  | await t k limit =>
    exact ⟨h.1, h.2.1, fun now hnow => hnext _ _ (h.2.2.1 now hnow),
      fun hlimit => hnext _ _ (h.2.2.2 hlimit)⟩
  | giveBack t k =>
    obtain ⟨ht, held, hmem, h⟩ := h
    exact ⟨ht, held, hmem, hnext _ _ h⟩
  | prune t => exact fun n => hnext _ _ (h n)
  | count label => exact fun n => hnext _ _ (h n)

/-! ### Routines made of routines -/

/-- The same as a logic of actions. -/
def logic (x : Site) : Logic View where
  does v
    | .own a, next => next (v.workspace.perform a).1 (v.work (v.workspace.perform a).2)
    | .world a, next => x.Allows v a next
  mono := by
    intro v a next next' hnext h
    cases a with
    | own a => exact hnext _ _ h
    | world a => exact h.mono hnext

theorem wp_eq (Q : Except Failure α → View → Prop) : x.wp Q = x.logic.wp Q := by
  funext r v
  induction r generalizing v with
  | done a => rfl
  | fail f => rfl
  | act a next ih =>
    cases a with
    | own a => exact ih _ _
    | world a => exact congrArg (x.Allows v a) (funext fun reply => funext fun v' => ih reply v')

theorem wp_mono {Q Q' : Except Failure α → View → Prop} (hQ : ∀ out v, Q out v → Q' out v)
    (r : Routine α) (v : View) (h : x.wp Q r v) : x.wp Q' r v := by
  simp only [wp_eq] at h ⊢
  exact Logic.wp_mono hQ h

theorem wp_bind {Q : Except Failure β → View → Prop} (r : Routine α) (k : α → Routine β)
    (v : View) :
    x.wp Q (r >>= k) v ↔
      x.wp (fun out v => match out with
        | .ok a => x.wp Q (k a) v
        | .error f => Q (.error f) v) r v := by
  simp only [wp_eq]
  exact Logic.wp_bind r k

theorem wp_onFailure {Q : Except Failure α → View → Prop} (cleanup : Routine Unit) (r : Routine α)
    (v : View) :
    x.wp Q (Routine.onFailure cleanup r) v ↔
      x.wp (fun out v => match out with
        | .ok a => Q (.ok a) v
        | .error f => x.wp (fun out v => match out with
          | .ok _ => Q (.error f) v
          | .error g => Q (.error g) v) cleanup v) r v := by
  simp only [wp_eq]
  exact Logic.wp_onFailure cleanup r

theorem wp_ensuring {Q : Except Failure α → View → Prop} (cleanup : Routine Unit) (r : Routine α)
    (v : View) :
    x.wp Q (Routine.ensuring cleanup r) v ↔
      x.wp (fun out v => x.wp (fun done v => match done with
        | .ok _ => Q out v
        | .error g => Q (.error g) v) cleanup v) r v := by
  simp only [wp_eq]
  exact Logic.wp_ensuring cleanup r

theorem wp_attempt {Q : Except Failure (Except Failure α) → View → Prop} (r : Routine α)
    (v : View) :
    x.wp Q r.attempt v ↔ x.wp (fun out v => Q (.ok out) v) r v := by
  simp only [wp_eq]
  exact Logic.wp_attempt r

end Site

end SessionCart
