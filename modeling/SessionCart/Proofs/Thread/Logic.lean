import SessionCart.Session.Routine

/-!
# Logics of actions

A logic says what may be known after an action, by what is known before it. What may be known at the
end of a routine is computed along the routine, and the rules for routines made of routines are the
same in every logic.
-/

namespace SessionCart

/-- What each action does to what is known, with `next` of whatever it may answer. -/
structure Logic (σ : Type) where
  does : σ → (a : Action) → (next : a.Reply → σ → Prop) → Prop
  mono : ∀ {s : σ} {a : Action} {next next' : a.Reply → σ → Prop},
    (∀ reply s', next reply s' → next' reply s') → does s a next → does s a next'

namespace Logic

variable {σ α β : Type} (L : Logic σ)

/-- The routine does only what the logic lets it do, and ends so that `Q` holds. -/
def wp (Q : Except Failure α → σ → Prop) : Routine α → σ → Prop
  | .done a, s => Q (.ok a) s
  | .fail f, s => Q (.error f) s
  | .act a next, s => L.does s a fun reply s' => wp Q (next reply) s'

variable {L} {s : σ}

section Equations

variable {Q : Except Failure α → σ → Prop}

@[simp]
theorem wp_done (a : α) : L.wp Q (.done a) s = Q (.ok a) s := rfl

@[simp]
theorem wp_fail (f : Failure) : L.wp Q (.fail f) s = Q (.error f) s := rfl

@[simp]
theorem wp_act (a : Action) (next : a.Reply → Routine α) :
    L.wp Q (.act a next) s = L.does s a fun reply s' => L.wp Q (next reply) s' := rfl

end Equations

theorem wp_mono {Q Q' : Except Failure α → σ → Prop} (hQ : ∀ out s, Q out s → Q' out s)
    {r : Routine α} (h : L.wp Q r s) : L.wp Q' r s := by
  induction r generalizing s with
  | done a => exact hQ _ _ h
  | fail f => exact hQ _ _ h
  | act a next ih => exact L.mono (fun reply _ => ih reply) h

theorem wp_congr {Q Q' : Except Failure α → σ → Prop} (hQ : ∀ out s, Q out s ↔ Q' out s)
    (r : Routine α) : L.wp Q r s ↔ L.wp Q' r s :=
  ⟨wp_mono fun out s => (hQ out s).mp, wp_mono fun out s => (hQ out s).mpr⟩

/-- A map of routines that leaves their actions as they are is ruled by what it does to outcomes. -/
theorem wp_transform {Q : Except Failure β → σ → Prop} {Q' : Except Failure α → σ → Prop}
    (f : Routine α → Routine β)
    (hact : ∀ a next, f (.act a next) = .act a fun reply => f (next reply))
    (hdone : ∀ a s, L.wp Q (f (.done a)) s ↔ Q' (.ok a) s)
    (hfail : ∀ e s, L.wp Q (f (.fail e)) s ↔ Q' (.error e) s) (r : Routine α) :
    L.wp Q (f r) s ↔ L.wp Q' r s := by
  induction r generalizing s with
  | done a => exact hdone a s
  | fail e => exact hfail e s
  | act a next ih =>
    rw [hact]
    exact ⟨L.mono fun reply _ => (ih reply).mp, L.mono fun reply _ => (ih reply).mpr⟩

theorem wp_bind {Q : Except Failure β → σ → Prop} (r : Routine α) (k : α → Routine β) :
    L.wp Q (r >>= k) s ↔
      L.wp (fun out s => match out with
        | .ok a => L.wp Q (k a) s
        | .error f => Q (.error f) s) r s :=
  wp_transform (· >>= k) (fun _ _ => rfl) (fun _ _ => Iff.rfl) (fun _ _ => Iff.rfl) r

theorem wp_onFailure {Q : Except Failure α → σ → Prop} (cleanup : Routine Unit) (r : Routine α) :
    L.wp Q (Routine.onFailure cleanup r) s ↔
      L.wp (fun out s => match out with
        | .ok a => Q (.ok a) s
        | .error f => L.wp (fun out s => match out with
          | .ok _ => Q (.error f) s
          | .error g => Q (.error g) s) cleanup s) r s := by
  refine wp_transform (Routine.onFailure cleanup) (fun _ _ => rfl) ?_ ?_ r
  · exact fun a s => Iff.rfl
  · intro f s
    refine (wp_bind cleanup fun _ => .fail f).trans (wp_congr (fun out _ => ?_) cleanup)
    cases out <;> rfl

theorem wp_ensuring {Q : Except Failure α → σ → Prop} (cleanup : Routine Unit) (r : Routine α) :
    L.wp Q (Routine.ensuring cleanup r) s ↔
      L.wp (fun out s => L.wp (fun done s => match done with
        | .ok _ => Q out s
        | .error g => Q (.error g) s) cleanup s) r s := by
  refine wp_transform (Routine.ensuring cleanup) (fun _ _ => rfl) ?_ ?_ r
  · intro a s
    refine (wp_bind cleanup fun _ => .done a).trans (wp_congr (fun out _ => ?_) cleanup)
    cases out <;> rfl
  · intro f s
    refine (wp_bind cleanup fun _ => .fail f).trans (wp_congr (fun out _ => ?_) cleanup)
    cases out <;> rfl

theorem wp_attempt {Q : Except Failure (Except Failure α) → σ → Prop} (r : Routine α) :
    L.wp Q r.attempt s ↔ L.wp (fun out s => Q (.ok out) s) r s :=
  wp_transform Routine.attempt (fun _ _ => rfl) (fun _ _ => Iff.rfl) (fun _ _ => Iff.rfl) r

theorem wp_ofExcept {Q : Except Failure α → σ → Prop} (e : Except Error α) :
    L.wp Q (Routine.ofExcept e) s ↔ Q (e.mapError .error) s := by
  cases e <;> rfl

end Logic

end SessionCart
