import SessionCart.Proofs.Desk.Refinement

/-!
# Figures of stored carts

The figures of a cart can overflow, and a handler draws them up only after it has stored the cart.
So a call can leave behind a cart without figures, and fail for that; every later call that answers
with figures fails then. A call that fails before has changed nothing.
-/

namespace SessionCart

/-- The item count and the total of a cart are defined. -/
def Cart.HasFigures (c : Cart) : Prop :=
  (∃ count, c.itemCount = .ok count) ∧ ∃ total, c.total = .ok total

theorem Cart.hasFigures_iff {c : Cart} : c.HasFigures ↔ ∃ s, c.summary = .ok s := by
  rw [HasFigures, summary]
  cases c.itemCount with
  | error o => simp [bind, Except.bind]
  | ok count =>
    cases c.total with
    | error o => simp [bind, Except.bind]
    | ok total => simp [bind, Except.bind, pure, Except.pure]

/-- The largest decimal number. -/
def Decimal.largest : Decimal where
  __ := zero
  magnitude := bound - 1
  magnitude_lt := by decide

namespace Desk

theorem figures_eq_error_iff {α : Type} {p : α × Cart} :
    (∃ f, figures p = .error f) ↔ ¬p.2.HasFigures := by
  rw [figures, Cart.hasFigures_iff]
  cases p.2.summary with
  | ok s => exact iff_of_false (by rintro ⟨f, ⟨⟩⟩) (by simp)
  | error e => exact iff_of_true ⟨_, rfl⟩ (by simp)

namespace Applies

variable {d : Desk} {r : RequestRef} {α β : Type} {x : Routine β} {edit : Cart.Edit α}
  {answer : α × Cart → Except Failure β} (h : d.Applies r x edit answer)

include h

/-- An answer can only fail for want of figures. -/
theorem not_hasFigures {p : α × Cart} {f : Failure} (hf : answer p = .error f) :
    ¬p.2.HasFigures := by
  cases h with
  | addItem | changeQuantity | removeItem => exact figures_eq_error_iff.mp ⟨f, hf⟩
  | enterPromoCode | withdrawPromoCode => cases hf

end Applies

/-- **Whether the stored cart keeps its figures.** Where the stored cart, if there is one, has
figures, it has them after a call unless the operation has succeeded and left a cart without. And a
call that ends in an overflow has changed storage exactly if the operation itself had succeeded. -/
theorem handler_keeps_figures_iff {d : Desk} {r : RequestRef} {α β : Type} {x : Routine β}
    {edit : Cart.Edit α} {answer : α × Cart → Except Failure β} (hx : d.Applies r x edit answer)
    {i : ThreadId} {others : World → World → Prop} (hothers : ∀ w w', others w w' → w.Quiet i w')
    {w w' : World} {l l' : Workspace} {out : Except Failure β} (hsound : ∀ t, (w.locks t).Sound)
    (hcalm : ∀ s, (w.backend s).intrusion = none) (hr : r.id < l.requests.length)
    (hopen : l.openDraft? .cart r.session d.cart.name = none)
    (hfigures : ∀ c, (w.backend d.cart.store).store.get? r.session d.cart.name = some (.cart c) →
      c.HasFigures)
    (hends : x.Ends i others w l out w' l') :
    ∃ n result, result = (d.cart.opening r.session n (l.request r.id)
        ((w.backend d.cart.store).store.get? r.session d.cart.name)).bind edit.result ∧
      ((∀ c, (w'.backend d.cart.store).store.get? r.session d.cart.name = some (.cart c) →
          c.HasFigures) ↔
        ∀ p, result = .ok p → out = answer p → p.2.HasFigures) ∧
      ∀ o, out = .error (.overflow o) → (w'.storage = w.storage ↔ ∃ f, result = .error f) := by
  obtain ⟨n, houtcome⟩ := hx.outcome hothers hsound hcalm hr hopen hends
  refine ⟨n, _, rfl, ?_⟩
  have hstored : ∀ {w₁ : World}, (w₁.storage d.cart.store r.session).value d.cart.name =
      (w₁.backend d.cart.store).store.get? r.session d.cart.name := rfl
  have hsame : w'.storage = w.storage →
      ∀ c, (w'.backend d.cart.store).store.get? r.session d.cart.name = some (.cart c) →
        c.HasFigures := by
    intro hstorage c hc
    rw [← hstored, hstorage] at hc
    exact hfigures c hc
  cases houtcome with
  | refused refusal hout huntouched =>
    refine ⟨iff_of_true (hsame huntouched.storage_eq) fun p _ hanswer => ?_, fun o hover => ?_⟩
    · -- an answer is never a refusal
      have hplain := hx.plain_answer p
      rw [← hanswer, hout, Plain] at hplain
      simp at hplain
    · rw [hout] at hover
      cases hover
  | failed f hresult hout huntouched =>
    rw [hresult]
    refine ⟨iff_of_true (hsame huntouched.storage_eq) fun p hp => (by cases hp), fun o _ => ?_⟩
    exact iff_of_true huntouched.storage_eq ⟨f, rfl⟩
  | changed p hresult hout hassigned =>
    have hnow : (w'.backend d.cart.store).store.get? r.session d.cart.name = some (.cart p.2) := by
      rw [← hstored, hassigned.storage_eq]
      simp
    rw [hresult]
    refine ⟨⟨fun hkept p' hp' _ => ?_, fun hkept c hc => ?_⟩, fun o hover => ?_⟩
    · cases hp'
      exact hkept p.2 hnow
    · rw [hnow] at hc
      cases hc
      exact hkept p rfl hout
    · refine iff_of_false (fun hstorage => ?_) fun ⟨f, hf⟩ => by cases hf
      exact hx.not_hasFigures (hout.symm.trans hover) (hsame hstorage p.2 hnow)

theorem hasFigures_stocked (c : Cart)
    (hc : ((stocked basket).backend .main).store.get? Race.arena cartAttribute = some (.cart c)) :
    c.HasFigures := by
  have hsame : some (Value.cart basket) = some (.cart c) := hc
  cases hsame
  exact ⟨⟨_, rfl⟩, _, rfl⟩

/-- So many more pens that their number overflows: the stored cart keeps its figures. -/
theorem handler_keeps_figures_iff_overflow : ∃ (w' : World) (l' : Workspace),
    (kiosk.addItem ⟨0, Race.arena⟩ "pen" .largest).Ends 0 (World.Quiet 0) (stocked basket)
      { requests := [.new Race.arena] } (.error (.overflow .addition)) w' l' ∧
    w'.storage = (stocked basket).storage ∧
    ∀ c, (w'.backend .main).store.get? Race.arena cartAttribute = some (.cart c) →
      c.HasFigures := by
  have hrun : ∃ w' l', (kiosk.addItem ⟨0, Race.arena⟩ "pen" .largest).run true 0
      (stocked basket) { requests := [.new Race.arena] } =
        .finished (.error (.overflow .addition)) w' l' := ⟨_, _, rfl⟩
  have hresult : ∃ f, (Pricing.welcome.addItem "pen" .largest).result basket = .error f :=
    ⟨_, rfl⟩
  obtain ⟨w', l', hrun⟩ := hrun
  obtain ⟨f, hresult⟩ := hresult
  have hends := Routine.ends_of_run (World.Quiet.refl 0) hrun
  obtain ⟨n, _, rfl, hkept, hstorage⟩ := handler_keeps_figures_iff (.addItem "pen" .largest)
    (fun _ _ h => h) (sound_stocked basket) (calm_stocked basket) Nat.one_pos rfl
    hasFigures_stocked hends
  refine ⟨w', l', hends, (hstorage _ rfl).mpr ⟨f, hresult⟩, hkept.mpr fun p hp _ => ?_⟩
  have hfailed : (Except.ok p : Except Failure (Decimal × Cart)) = .error f := hp.symm.trans hresult
  cases hfailed

/-- So many pens that the number of all items overflows: the cart is stored, and has no figures. -/
theorem cart_without_figures_stored : ¬∀ (d : Desk) (r : RequestRef) (product : String)
    (quantity : Decimal) (w w' : World) (l l' : Workspace) (out : Except Failure CartSummary),
    (∀ t, (w.locks t).Sound) → (∀ s, (w.backend s).intrusion = none) → r.id < l.requests.length →
    l.active.entries = [] →
    (∀ c, (w.backend d.cart.store).store.get? r.session d.cart.name = some (.cart c) →
      c.HasFigures) →
    (d.changeQuantity r product quantity).Ends 0 (World.Quiet 0) w l out w' l' →
    (∀ c, (w'.backend d.cart.store).store.get? r.session d.cart.name = some (.cart c) →
      c.HasFigures) ∧
    ∀ o, out = .error (.overflow o) → w'.storage = w.storage := by
  intro hclaim
  have hrun : ∃ w' l', (kiosk.changeQuantity ⟨0, Race.arena⟩ "pen" .largest).run true 0
      (stocked basket) { requests := [.new Race.arena] } =
        .finished (.error (.overflow .addition)) w' l' ∧
      ∃ c, (w'.backend .main).store.get? Race.arena cartAttribute = some (.cart c) ∧
        c.itemCount = .error .addition := ⟨_, _, rfl, _, rfl, rfl⟩
  obtain ⟨w', l', hrun, c, hc, hcount⟩ := hrun
  obtain ⟨hkept, _⟩ := hclaim kiosk ⟨0, Race.arena⟩ "pen" .largest (stocked basket) w'
    { requests := [.new Race.arena] } l' _ (sound_stocked basket) (calm_stocked basket) Nat.one_pos
    rfl hasFigures_stocked (Routine.ends_of_run (World.Quiet.refl 0) hrun)
  obtain ⟨⟨count, hok⟩, _⟩ := hkept c hc
  rw [hcount] at hok
  cases hok

end Desk

end SessionCart
