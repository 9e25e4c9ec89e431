import SessionCart.Proofs.Thread.Course

/-!
# Courses that are over

What a routine made of routines has done when it is over: the courses of its parts, one after the
other. Nothing is assumed of the other threads, nor of the answers that a thread gets.
-/

namespace SessionCart

namespace Routine

namespace Course

variable {α β : Type} {i : ThreadId} {others : World → World → Prop} {w w' : World}
  {l l' : Workspace} {events : List Event} {out : Except Failure α}

theorem of_done {y : α} (h : (done y).Course i others w l events (ended out) w' l') :
    events = [] ∧ out = .ok y ∧ w' = w ∧ l' = l := by
  generalize hrest : ended out = rest at h
  cases h
  cases out with
  | ok y' =>
    cases hrest
    exact ⟨rfl, rfl, rfl, rfl⟩
  | error f => cases hrest

theorem of_fail {f : Failure} (h : (fail f : Routine α).Course i others w l events (ended out) w' l') :
    events = [] ∧ out = .error f ∧ w' = w ∧ l' = l := by
  generalize hrest : ended out = rest at h
  cases h
  cases out with
  | ok y => cases hrest
  | error f' =>
    cases hrest
    exact ⟨rfl, rfl, rfl, rfl⟩

theorem of_own {a : Workspace.Action} {next : a.Reply → Routine α}
    (h : (act (.own a) next).Course i others w l events (ended out) w' l') :
    (next (l.perform a).1).Course i others w (l.perform a).2 events (ended out) w' l' := by
  generalize hrest : ended out = rest at h
  cases h with
  | here => cases out <;> cases hrest
  | own hnext => exact hrest ▸ hnext

/-- An action on the shared state is done, or the wait for it is given up. -/
theorem of_world {a : World.Action} {next : a.Reply → Routine α}
    (h : (act (.world a) next).Course i others w l events (ended out) w' l') :
    ∃ w₁ w₂ reply rest, others w w₁ ∧
      (w₁.perform i a = some (reply, w₂) ∨ a.expired? = some reply ∧ w₂ = w₁) ∧
      events = ⟨a, reply, w₁⟩ :: rest ∧
      (next reply).Course i others w₂ l rest (ended out) w' l' := by
  generalize hrest : ended out = rest at h
  cases h with
  | here => cases out <;> cases hrest
  | world hothers hperform hnext =>
    exact ⟨_, _, _, _, hothers, .inl hperform, rfl, hrest ▸ hnext⟩
  | expire hothers _ hexpired hnext =>
    exact ⟨_, _, _, _, hothers, .inr ⟨hexpired, rfl⟩, rfl, hrest ▸ hnext⟩

/-- A map of routines that leaves their actions as they are goes on where the routine has ended. -/
theorem of_transform {out : Except Failure β} {x : Routine α} (f : Routine α → Routine β)
    (hact : ∀ a next, f (.act a next) = .act a fun reply => f (next reply))
    (h : (f x).Course i others w l events (ended out) w' l') :
    ∃ first before w₁ l₁ after, x.Course i others w l before (ended first) w₁ l₁ ∧
      (f (ended first)).Course i others w₁ l₁ after (ended out) w' l' ∧
      events = before ++ after := by
  induction x generalizing w l events with
  | done y => exact ⟨.ok y, [], w, l, events, .here .., h, rfl⟩
  | fail e => exact ⟨.error e, [], w, l, events, .here .., h, rfl⟩
  | act a next ih =>
    rw [hact] at h
    cases a with
    | own a =>
      obtain ⟨first, before, w₁, l₁, after, hx, hrest, rfl⟩ := ih _ h.of_own
      exact ⟨first, before, w₁, l₁, after, .own hx, hrest, rfl⟩
    | world a =>
      generalize hlast : ended out = last at h
      cases h with
      | here => cases out <;> cases hlast
      | world hothers hperform hnext =>
        subst hlast
        obtain ⟨first, before, w₁, l₁, after, hx, hrest, rfl⟩ := ih _ hnext
        exact ⟨first, _, w₁, l₁, after, .world hothers hperform hx, hrest, rfl⟩
      | expire hothers hperform hexpired hnext =>
        subst hlast
        obtain ⟨first, before, w₁, l₁, after, hx, hrest, rfl⟩ := ih _ hnext
        exact ⟨first, _, w₁, l₁, after, .expire hothers hperform hexpired hx, hrest, rfl⟩

/-- The first routine has ended well and the second has gone on, or the first one has failed. -/
theorem of_bind {out : Except Failure β} {x : Routine α} {f : α → Routine β}
    (h : (x >>= f).Course i others w l events (ended out) w' l') :
    (∃ y before w₁ l₁ after, x.Course i others w l before (ended (.ok y)) w₁ l₁ ∧
      (f y).Course i others w₁ l₁ after (ended out) w' l' ∧ events = before ++ after) ∨
    ∃ e, x.Course i others w l events (ended (.error e)) w' l' ∧ out = .error e := by
  obtain ⟨first, before, w₁, l₁, after, hx, hrest, rfl⟩ :=
    of_transform (· >>= f) (fun _ _ => rfl) h
  cases first with
  | ok y => exact .inl ⟨y, before, w₁, l₁, after, hx, hrest, rfl⟩
  | error e =>
    obtain ⟨rfl, rfl, rfl, rfl⟩ := of_fail hrest
    rw [List.append_nil]
    exact .inr ⟨e, hx, rfl⟩

/-- The cleanup has gone on from where the routine has ended, and fails in its place if at all. -/
theorem of_ensuring {cleanup : Routine Unit} {x : Routine α}
    (h : (ensuring cleanup x).Course i others w l events (ended out) w' l') :
    ∃ first before w₁ l₁ last after, x.Course i others w l before (ended first) w₁ l₁ ∧
      cleanup.Course i others w₁ l₁ after (ended last) w' l' ∧ events = before ++ after ∧
      out = last.bind fun _ => first := by
  obtain ⟨first, before, w₁, l₁, after, hx, hrest, rfl⟩ :=
    of_transform (ensuring cleanup) (fun _ _ => rfl) h
  cases first with
  | ok y =>
    rcases of_bind (f := fun _ => done y) hrest with
      ⟨u, e₁, w₂, l₂, e₂, hcleanup, hdone, rfl⟩ | ⟨e, hcleanup, rfl⟩
    · obtain ⟨rfl, rfl, rfl, rfl⟩ := of_done hdone
      exact ⟨_, _, _, _, _, _, hx, hcleanup, by rw [List.append_nil], rfl⟩
    · exact ⟨_, _, _, _, _, _, hx, hcleanup, rfl, rfl⟩
  | error f =>
    rcases of_bind (f := fun _ => (fail f : Routine α)) hrest with
      ⟨u, e₁, w₂, l₂, e₂, hcleanup, hfail, rfl⟩ | ⟨e, hcleanup, rfl⟩
    · obtain ⟨rfl, rfl, rfl, rfl⟩ := of_fail hfail
      exact ⟨_, _, _, _, _, _, hx, hcleanup, by rw [List.append_nil], rfl⟩
    · exact ⟨_, _, _, _, _, _, hx, hcleanup, rfl, rfl⟩

/-- The routine has ended well, or has failed, and then the cleanup has gone on. -/
theorem of_onFailure {cleanup : Routine Unit} {x : Routine α}
    (h : (onFailure cleanup x).Course i others w l events (ended out) w' l') :
    (∃ y, x.Course i others w l events (ended (.ok y)) w' l' ∧ out = .ok y) ∨
    ∃ e before w₁ l₁ last after, x.Course i others w l before (ended (.error e)) w₁ l₁ ∧
      cleanup.Course i others w₁ l₁ after (ended last) w' l' ∧ events = before ++ after ∧
      ∃ e', out = .error e' := by
  obtain ⟨first, before, w₁, l₁, after, hx, hrest, rfl⟩ :=
    of_transform (onFailure cleanup) (fun _ _ => rfl) h
  cases first with
  | ok y =>
    obtain ⟨rfl, rfl, rfl, rfl⟩ := of_done hrest
    rw [List.append_nil]
    exact .inl ⟨y, hx, rfl⟩
  | error f =>
    rcases of_bind (f := fun _ => (fail f : Routine α)) hrest with
      ⟨u, e₁, w₂, l₂, e₂, hcleanup, hfail, rfl⟩ | ⟨e, hcleanup, rfl⟩
    · obtain ⟨rfl, rfl, rfl, rfl⟩ := of_fail hfail
      exact .inr ⟨_, _, _, _, _, _, hx, hcleanup, by rw [List.append_nil], f, rfl⟩
    · exact .inr ⟨_, _, _, _, _, _, hx, hcleanup, rfl, e, rfl⟩

theorem of_ofExcept {e : Except Error α}
    (h : (ofExcept e).Course i others w l events (ended out) w' l') :
    events = [] ∧ out = e.mapError .error ∧ w' = w ∧ l' = l := by
  cases e with
  | ok y => exact of_done h
  | error f => exact of_fail h

end Course

end Routine

end SessionCart
