import SessionCart.Session.Routine

/-!
# One thread among others

What a thread does on the way to a result, action by action. Between its actions the other threads
may do anything to the shared state.
-/

namespace SessionCart

namespace Routine

variable {α β : Type} {i : ThreadId} {l l' : Workspace} {seen : List (World.Action × World)}

/-- A thread with this workspace and this routine to do comes to a result and a workspace. Its
actions on the shared state are listed, each with the state that it was carried out on. -/
inductive Gives (i : ThreadId) :
    Workspace → Routine α → List (World.Action × World) → Workspace → α → Prop
  | done (l : Workspace) (a : α) : Gives i l (.done a) [] l a
  | own {l l' : Workspace} {a : Workspace.Action} {next : a.Reply → Routine α}
    {seen : List (World.Action × World)} {b : α} :
    Gives i (l.perform a).2 (next (l.perform a).1) seen l' b →
    Gives i l (.act (.own a) next) seen l' b
  | world {l l' : Workspace} {a : World.Action} {next : a.Reply → Routine α}
    {seen : List (World.Action × World)} {b : α} {w w' : World} {reply : a.Reply} :
    w.perform i a = some (reply, w') → Gives i l (next reply) seen l' b →
    Gives i l (.act (.world a) next) ((a, w) :: seen) l' b
  | expire {l l' : Workspace} {a : World.Action} {next : a.Reply → Routine α}
    {seen : List (World.Action × World)} {b : α} {reply : a.Reply} :
    a.expired? = some reply → Gives i l (next reply) seen l' b →
    Gives i l (.act (.world a) next) seen l' b

theorem gives_done {a b : α} (h : Gives i l (.done a) seen l' b) : seen = [] ∧ l = l' ∧ b = a := by
  cases h
  exact ⟨rfl, rfl, rfl⟩

theorem gives_own {a : Workspace.Action} {next : a.Reply → Routine α} {b : α}
    (h : Gives i l (.act (.own a) next) seen l' b) :
    Gives i (l.perform a).2 (next (l.perform a).1) seen l' b := by
  cases h
  assumption

theorem gives_world {a : World.Action} {next : a.Reply → Routine α} {b : α}
    (h : Gives i l (.act (.world a) next) seen l' b) :
    (∃ w reply w' rest, w.perform i a = some (reply, w') ∧ seen = (a, w) :: rest ∧
      Gives i l (next reply) rest l' b) ∨
    ∃ reply, a.expired? = some reply ∧ Gives i l (next reply) seen l' b := by
  cases h with
  | world hperform hnext => exact .inl ⟨_, _, _, _, hperform, rfl, hnext⟩
  | expire hexpired hnext => exact .inr ⟨_, hexpired, hnext⟩

theorem gives_bind {r : Routine α} {k : α → Routine β} {b : β} (h : Gives i l (r >>= k) seen l' b) :
    ∃ before l₁ a after, Gives i l r before l₁ a ∧ Gives i l₁ (k a) after l' b ∧
      seen = before ++ after := by
  induction r generalizing l seen with
  | done a => exact ⟨[], l, a, seen, .done l a, h, rfl⟩
  | fail f => cases h
  | act a next ih =>
    cases a with
    | own a =>
      obtain ⟨before, l₁, a₁, after, hfirst, hthen, rfl⟩ := ih _ (gives_own h)
      exact ⟨before, l₁, a₁, after, .own hfirst, hthen, rfl⟩
    | world a =>
      rcases gives_world h with
        ⟨w, reply, w', rest, hperform, rfl, hnext⟩ | ⟨reply, hexpired, hnext⟩
      · obtain ⟨before, l₁, a₁, after, hfirst, hthen, rfl⟩ := ih _ hnext
        exact ⟨(a, w) :: before, l₁, a₁, after, .world hperform hfirst, hthen, rfl⟩
      · obtain ⟨before, l₁, a₁, after, hfirst, hthen, rfl⟩ := ih _ hnext
        exact ⟨before, l₁, a₁, after, .expire hexpired hfirst, hthen, rfl⟩

theorem gives_onFailure {cleanup : Routine Unit} {r : Routine α} {b : α}
    (h : Gives i l (onFailure cleanup r) seen l' b) : Gives i l r seen l' b := by
  induction r generalizing l seen with
  | done a => exact h
  | fail f =>
    obtain ⟨_, _, _, _, _, hfail, _⟩ := gives_bind (k := fun _ => (.fail f : Routine α)) h
    cases hfail
  | act a next ih =>
    cases a with
    | own a => exact .own (ih _ (gives_own h))
    | world a =>
      rcases gives_world h with
        ⟨w, reply, w', rest, hperform, rfl, hnext⟩ | ⟨reply, hexpired, hnext⟩
      · exact .world hperform (ih _ hnext)
      · exact .expire hexpired (ih _ hnext)

theorem gives_ofExcept {e : Except Error α} {b : α} (h : Gives i l (ofExcept e) seen l' b) :
    e = .ok b ∧ seen = [] ∧ l = l' := by
  cases e with
  | error e => cases h
  | ok a =>
    obtain ⟨rfl, rfl, rfl⟩ := gives_done h
    exact ⟨rfl, rfl, rfl⟩

theorem exists_gives_of_run {patient : Bool} {r : Routine α} {w w' : World} {a : α}
    (h : r.run patient i w l = .finished (.ok a) w' l') : ∃ seen, Gives i l r seen l' a := by
  induction r generalizing l w with
  | done b =>
    cases h
    exact ⟨[], .done _ _⟩
  | fail f => cases h
  | act b next ih =>
    cases b with
    | own b =>
      obtain ⟨seen, hnext⟩ := ih _ h
      exact ⟨seen, .own hnext⟩
    | world b =>
      rw [run] at h
      split at h
      · rename_i reply w₁ hperform
        obtain ⟨seen, hnext⟩ := ih _ h
        exact ⟨_, .world hperform hnext⟩
      · split at h
        · rename_i reply hexpired
          obtain ⟨seen, hnext⟩ := ih _ h
          have hend : b.expired? = some reply := by
            cases patient with
            | true => cases hexpired
            | false => exact hexpired
          exact ⟨seen, .expire hend hnext⟩
        · cases h

end Routine

end SessionCart
