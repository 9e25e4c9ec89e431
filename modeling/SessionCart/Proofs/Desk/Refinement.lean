import SessionCart.Proofs.Desk.Terms
import SessionCart.Proofs.Section.Abandoned
import SessionCart.Proofs.Thread.Course

/-!
# Handlers and operations on carts

A handler that changes the cart does to the stored cart, or to a new one if none is stored, what the
operation of its name does to a cart, and answers with the result. If the operation fails, or
anything on the way to it, the failure is reported and nothing has changed.
-/

namespace SessionCart

/-! ### What can have changed -/

/-- Nothing has changed but what a request has cached of an attribute. -/
structure Untouched {k : Kind} (a : Attribute k) (r : RequestRef) (st st' : Storage)
    (l l' : Workspace) : Prop where
  storage_eq : st' = st
  changed_eq : ∀ id, (l'.request id).changed = (l.request id).changed
  others_eq : ∀ id, id ≠ r.id → l'.request id = l.request id
  cached_eq : ∀ name, name ≠ a.name → (l'.request r.id).get? name = (l.request r.id).get? name

/-- The attribute has got a value, in storage and in the cache of a request, and is marked as
changed there. Nothing else has changed. -/
structure Assigned {k : Kind} (a : Attribute k) (r : RequestRef) (value : Value) (st st' : Storage)
    (l l' : Workspace) : Prop where
  storage_eq : st' = st.put a.store r.session ((st a.store r.session).set a.name value)
  cached_eq : ∀ name, (l'.request r.id).get? name =
    if name = a.name then some value else (l.request r.id).get? name
  changed_eq : ∀ name, (l'.request r.id).isChanged name =
    (name == a.name || (l.request r.id).isChanged name)
  others_eq : ∀ id, id ≠ r.id → l'.request id = l.request id

namespace Workspace

variable {l l' : Workspace} {r : RequestRef} {name : String} {value : Value}

theorem request_wrote_same (hr : r.id < l.requests.length) :
    (l.wrote r name .all (some value)).request r.id =
      ((l.request r.id).set name value).markChanged name := by
  rw [wrote, if_pos (show Scope.all.request = true from rfl), keep,
    request_editRequest (by simpa using hr), request_editRequest hr]

theorem request_wrote_ne {id : RequestId} (hid : id ≠ r.id) (written : Option Value) :
    (l.wrote r name .all written).request id = l.request id := by
  obtain ⟨f, hf⟩ := l.exists_wrote r name .all written
  rw [hf, request_editRequest_ne hid]

end Workspace

section Requests

variable {k : Kind} {a : Attribute k} {r : RequestRef} {st : Storage} {l l' : Workspace}
  {found : Option Value}

theorem Untouched.of_requests (h : l'.requests = l.requests) : Untouched a r st st l l' where
  storage_eq := rfl
  changed_eq id := by rw [Workspace.request_congr h]
  others_eq id _ := Workspace.request_congr h id
  cached_eq name _ := by rw [Workspace.request_congr h]

theorem Untouched.of_fill (hr : r.id < l.requests.length)
    (h : l'.requests = (l.fill r a.name found).requests) : Untouched a r st st l l' where
  storage_eq := rfl
  changed_eq id := by rw [Workspace.request_congr h, Workspace.changed_fill hr]
  others_eq id hid := by rw [Workspace.request_congr h, Workspace.request_fill_ne hid]
  cached_eq name hname := by rw [Workspace.request_congr h, Workspace.get?_fill hr, if_neg hname]

theorem Assigned.of_wrote {value : Value} (hr : r.id < l.requests.length) {l₁ : Workspace}
    (h₁ : l₁.requests = (l.fill r a.name found).requests)
    (h : l'.requests = (l₁.wrote r a.name .all (some value)).requests) :
    Assigned a r value st (st.put a.store r.session ((st a.store r.session).set a.name value))
      l l' := by
  have hr₁ : r.id < l₁.requests.length := by rwa [h₁, Workspace.length_fill]
  have hrequest : l'.request r.id =
      (((l.fill r a.name found).request r.id).set a.name value).markChanged a.name := by
    rw [Workspace.request_congr h, Workspace.request_wrote_same hr₁, Workspace.request_congr h₁]
  refine ⟨rfl, fun name => ?_, fun name => ?_, fun id hid => ?_⟩
  · rw [hrequest, Request.get?_markChanged, Request.get?_set, Workspace.get?_fill hr]
    by_cases hname : name = a.name
    · rw [if_pos hname.symm, if_pos hname]
    · rw [if_neg (Ne.symm hname), if_neg hname, if_neg hname]
  · rw [hrequest, Request.isChanged_markChanged]
    simp only [Request.isChanged, Request.set, Workspace.changed_fill hr]
  · rw [Workspace.request_congr h, Workspace.request_wrote_ne hid, Workspace.request_congr h₁,
      Workspace.request_fill_ne hid]

end Requests

/-- The result of an operation on a cart, with the changed cart, or its failure. -/
def Cart.Edit.result {α : Type} (edit : Cart.Edit α) (c : Cart) : Except Failure (α × Cart) :=
  (edit c).1.map fun a => (a, (edit c).2)

namespace Desk

/-! ### A change in a section -/

/-- What has come of an operation on a cart, where `result` is the result of the operation. -/
inductive Outcome {α β : Type} (a : Attribute .cart) (r : RequestRef)
    (result : Except Failure (α × Cart)) (answer : α × Cart → Except Failure β) (st : Storage)
    (l : Workspace) (out : Except Failure β) (st' : Storage) (l' : Workspace) : Prop
  | refused (refusal : Refusal) : out = .error (.error (refusal.error r.session)) →
    Untouched a r st st' l l' → Outcome a r result answer st l out st' l'
  | failed (f : Failure) : result = .error f → out = .error f → Untouched a r st st' l l' →
    Outcome a r result answer st l out st' l'
  | changed (p : α × Cart) : result = .ok p → out = answer p →
    Assigned a r (.cart p.2) st st' l l' → Outcome a r result answer st l out st' l'

/-- A section of the cart has been opened on a grip, and nothing is committed in it yet. -/
structure Begun (s : Section .cart) (hold : Hold) (c : Cart) (g₀ g : Grip) : Prop where
  working : s.Working g.workspace c false
  hold_eq : s.hold = some hold
  mem_tickets : (hold, true) ∈ g.tickets
  storage_eq : g.storage = g₀.storage
  requests_eq : g.workspace.requests = (g₀.workspace.fill s.request s.subject.name
    (g₀.stored s.subject s.request)).requests

namespace Begun

variable {α : Type} {s : Section .cart} {hold : Hold} {c : Cart} {g₀ g g' : Grip}
  (h : Begun s hold c g₀ g)

include h

theorem drift (hdrift : Company.quiet.Drift g g') : Begun s hold c g₀ g' :=
  ⟨hdrift.workspace_eq ▸ h.working, h.hold_eq, hdrift.tickets_eq ▸ h.mem_tickets,
    hdrift.storage_eq.trans h.storage_eq, hdrift.workspace_eq ▸ h.requests_eq⟩

theorem handOut : Begun s hold c g₀ (g.work (g.workspace.editDraft s.draft fun e =>
    { e with copies := e.copies + 1 })) :=
  ⟨h.working.handOut, h.hold_eq, h.mem_tickets, h.storage_eq, h.requests_eq⟩

theorem discard : Begun s hold c g₀ (g.work (g.workspace.editDraft s.draft fun e =>
    { e with discarded := true })) :=
  ⟨h.working.discard, h.hold_eq, h.mem_tickets, h.storage_eq, h.requests_eq⟩

theorem wp_drop {Q : Except Failure Unit → Grip → Prop}
    (hr : s.request.id < g₀.workspace.requests.length)
    (hQ : ∀ g', Untouched s.subject s.request g₀.storage g'.storage g₀.workspace g'.workspace →
      Q (.ok ()) g') : Company.quiet.logic.wp Q s.drop g := by
  refine Company.wp_drop_working h.working h.hold_eq h.mem_tickets fun g₁ h₁ => hQ _ ?_
  have hrequests := (s.requests_closing g.workspace).trans h.requests_eq
  have hstorage : g₁.storage = g₀.storage := h₁.storage_eq.trans h.storage_eq
  change Untouched s.subject s.request g₀.storage g₁.storage g₀.workspace (s.closing g.workspace)
  rw [hstorage]
  exact .of_fill hr hrequests

theorem wp_change (hr : s.request.id < g₀.workspace.requests.length) (edit : Cart.Edit α) :
    Company.quiet.logic.wp (fun out g' => Outcome s.subject s.request (edit.result c) .ok
      g₀.storage g₀.workspace out g'.storage g'.workspace)
      (Routine.ensuring s.drop (Desk.change edit s)) g := by
  rw [Logic.wp_ensuring, Desk.change, Logic.wp_bind]
  refine Company.wp_copy_working h.working ?_
  dsimp only
  rcases hedit : edit c with ⟨out, changed⟩
  have hresult : edit.result c = out.map fun a => (a, changed) := by
    rw [Cart.Edit.result, hedit]
  cases out with
  | error f =>
    cases f with
    | panic p => exact h.handOut.wp_drop hr fun _ hsame => .failed _ hresult rfl hsame
    | error e =>
      dsimp only
      rw [Logic.wp_bind]
      exact h.handOut.discard.wp_drop hr fun _ hsame => .failed _ hresult rfl hsame
  | ok a =>
    dsimp only
    rw [Logic.wp_bind]
    have hopen := h.handOut
    refine Company.wp_commit_working hopen.working (fun fault g₁ h₁ => ?_) fun g₁ h₁ => ?_
    · exact (hopen.drift h₁).wp_drop hr fun _ hsame => .refused (.fault fault) rfl hsame
    · have hcommitted := hopen.working.commit changed
      dsimp only
      rw [Logic.wp_bind]
      refine Company.wp_close_working hcommitted h.hold_eq ?_
        fun out hout g₂ h₂ => ?_
      · exact h₁.tickets_eq ▸ h.mem_tickets
      · rw [hout rfl]
        refine Company.wp_drop_closed hcommitted.closed_closing (.changed _ hresult rfl ?_)
        have hstorage : g₂.storage = g₀.storage.put s.subject.store s.request.session
            ((g₀.storage s.subject.store s.request.session).set s.subject.name
              (.cart changed)) := by
          rw [h₂.storage_eq]
          change g₁.storage.put _ _ ((g₁.storage _ _).set _ _) = _
          rw [h₁.storage_eq]
          change g.storage.put _ _ ((g.storage _ _).set _ _) = _
          rw [h.storage_eq]
          rfl
        change Assigned _ _ _ _ g₂.storage _ _
        rw [hstorage]
        exact .of_wrote hr hopen.requests_eq (s.requests_closing _)

end Begun

/-- What has come of a change of the cart in a section of its own. -/
theorem wp_update_quiet (d : Desk) (r : RequestRef) {α : Type} (edit : Cart.Edit α) {g : Grip}
    (hr : r.id < g.workspace.requests.length)
    (hopen : g.workspace.openDraft? .cart r.session d.cart.name = none) :
    Company.quiet.logic.wp (fun out g' => ∃ n, Outcome d.cart r
      ((d.cart.opening r.session n (g.workspace.request r.id) (g.stored d.cart r)).bind edit.result)
      .ok g.storage g.workspace out g'.storage g'.workspace) (d.update r edit) g := by
  have hstill : ∀ g₁, Company.quiet.Drift g g₁ →
      Untouched d.cart r g.storage g₁.storage g.workspace g₁.workspace := by
    intro g₁ h₁
    rw [h₁.storage_eq, h₁.workspace_eq]
    exact .of_requests rfl
  have hstored : ∀ hold g₁ g₂, Company.quiet.Drift g g₁ →
      Company.quiet.Drift (g₁.take hold) g₂ → g₂.storage = g.storage :=
    fun _ _ _ h₁ h₂ => h₂.storage_eq.trans h₁.storage_eq
  rw [update_eq, Section.within, Logic.wp_bind]
  refine Company.wp_start_exact (fun draft hdraft => ?joined)
    (fun _ limit g₁ h₁ => ⟨0, .refused (.timeout limit) rfl (hstill g₁ h₁)⟩)
    (fun _ fault g₁ h₁ => ⟨0, .refused (.fault fault) rfl (hstill g₁ h₁)⟩)
    (fun _ key g₁ g₂ g₃ n f h₁ h₂ h₃ hopening => ⟨n, .failed f ?failed rfl (hstill g₃ h₃)⟩)
    fun _ key g₁ g₂ g₃ n c h₁ _ h₂ h₃ hopening => ?opened
  case joined =>
    rw [hopen] at hdraft
    cases hdraft
  case failed =>
    rw [Grip.stored, hstored _ _ _ h₁ h₂] at hopening
    rw [Grip.stored, hopening]
    rfl
  case opened =>
    have hbegun : Begun ⟨d.cart, r, g.workspace.drafts.length, some ⟨d.cart.table, r.session, key⟩⟩
        ⟨d.cart.table, r.session, key⟩ c g (g₃.work ((g.workspace.fill r d.cart.name
          (g₂.stored d.cart r)).opened .cart r d.cart.name (.cart c))) := by
      have hdrafts := congrArg List.length (g.workspace.drafts_fill r d.cart.name
        (g₂.stored d.cart r))
      refine ⟨.of_opened d.cart r _ hdrafts, rfl, ?_, ?_, ?_⟩
      · change _ ∈ g₃.tickets
        rw [h₃.tickets_eq, h₂.tickets_eq]
        simp [Grip.take]
      · exact h₃.storage_eq.trans (hstored _ _ _ h₁ h₂)
      · rw [Grip.stored, hstored _ _ _ h₁ h₂]
        rfl
    refine Logic.wp_mono (fun out g' houtcome => ⟨n, ?_⟩) (hbegun.wp_change hr edit)
    rw [Grip.stored, hstored _ _ _ h₁ h₂] at hopening
    rw [Grip.stored, hopening]
    exact houtcome

/-! ### Handlers -/

/-- The figures of a changed cart. -/
def figures {α : Type} (p : α × Cart) : Except Failure CartSummary := p.2.summary.mapError .overflow

/-- The handlers that change the cart by one operation, each with the operation and with what it
answers of the result. -/
inductive Applies (d : Desk) (r : RequestRef) :
    {α β : Type} → Routine β → Cart.Edit α → (α × Cart → Except Failure β) → Prop
  | addItem (product : String) (quantity : Decimal) :
    Applies d r (d.addItem r product quantity) (d.pricing.addItem product quantity) figures
  | changeQuantity (product : String) (quantity : Decimal) :
    Applies d r (d.changeQuantity r product quantity) (Cart.setItemQuantity product quantity)
      figures
  | removeItem (product : String) :
    Applies d r (d.removeItem r product) (Cart.removeItem product) figures
  | enterPromoCode (code : String) :
    Applies d r (d.enterPromoCode r code) (d.pricing.enterPromoCode code) fun p => .ok p.1
  | withdrawPromoCode (code : String) :
    Applies d r (d.withdrawPromoCode r code)
      (fun c => (.ok (c.removePromoCode code).1, (c.removePromoCode code).2)) fun p => .ok p.1

/-- The cart that an operation is applied to: the stored one or, if there is none, a new one, the
`n`-th that is made. A value of another kind under the cart's name, cached or stored, is an
error. -/
def base (d : Desk) (r : RequestRef) (n : Nat) (request : Request) (stored : Option Value) :
    Except Failure Cart :=
  if (request.get? d.cart.name).any (·.kind ≠ .cart) || stored.any (·.kind ≠ .cart) then
    .error (.error (.typeMismatch r.session d.cart.name))
  else match stored with
    | some (.cart c) => .ok c
    | _ => (d.cart.make n request).mapError .panic

theorem base_error {d : Desk} {r : RequestRef} {n : Nat} {request : Request}
    {stored : Option Value} {f : Failure} (h : d.base r n request stored = .error f) :
    Refusal.ofFailure? f = none := by
  have hmake : ∀ f, (d.cart.make n request).mapError .panic = .error f →
      Refusal.ofFailure? f = none := by
    intro f hf
    cases hmade : d.cart.make n request with
    | ok c =>
      rw [hmade] at hf
      cases hf
    | error p =>
      rw [hmade] at hf
      cases hf
      rfl
  unfold base at h
  split at h
  · cases h
    rfl
  · rcases stored with _ | v
    · exact hmake f h
    · cases v with
      | cart c => cases h
      | _ => exact hmake f h

theorem opening_eq_base (d : Desk) (r : RequestRef) (n : Nat) {request : Request}
    {stored : Option Value}
    (h : (∃ c, stored = some (.cart c)) ∨ ∀ c, request.get? d.cart.name ≠ some (.cart c)) :
    d.cart.opening r.session n request stored = d.base r n request stored := by
  unfold Attribute.opening base
  generalize request.get? d.cart.name = cached at h ⊢
  rcases h with ⟨c, rfl⟩ | hnone
  · rcases cached with _ | v
    · rfl
    · cases v <;> rfl
  · rcases cached with _ | v
    · rcases stored with _ | v
      · rfl
      · cases v <;> rfl
    · cases v with
      | cart c => exact absurd rfl (hnone c)
      | _ => rcases stored with _ | v <;> rfl

namespace Applies

variable {d : Desk} {r : RequestRef} {α β : Type} {x : Routine β} {edit : Cart.Edit α}
  {answer : α × Cart → Except Failure β} (h : d.Applies r x edit answer)

include h

theorem handler : d.Handler r x := by
  cases h with
  | addItem => exact .addItem ..
  | changeQuantity => exact .changeQuantity ..
  | removeItem => exact .removeItem ..
  | enterPromoCode => exact .enterPromoCode ..
  | withdrawPromoCode => exact .withdrawPromoCode ..

theorem eq_update : x = d.update r edit >>= fun p => .ended (answer p) := by
  have hfigures : ∀ {γ : Type} (p : γ × Cart), summarise p.2 = .ended (figures p) := by
    intro γ p
    rw [summarise, figures]
    cases p.2.summary <;> rfl
  cases h with
  | addItem | changeQuantity | removeItem =>
    exact congrArg (d.update r _ >>= ·) (funext hfigures)
  | enterPromoCode | withdrawPromoCode => rfl

theorem plain_edit (c : Cart) : Plain (edit c).1 := by
  cases h with
  | addItem => exact plain_addItem ..
  | changeQuantity => exact plain_setItemQuantity ..
  | removeItem => exact plain_removeItem ..
  | enterPromoCode => exact plain_enterPromoCode ..
  | withdrawPromoCode => rfl

theorem plain_answer (p : α × Cart) : Plain (answer p) := by
  cases h with
  | addItem | changeQuantity | removeItem =>
    rw [figures]
    cases p.2.summary <;> rfl
  | enterPromoCode | withdrawPromoCode => rfl

theorem plain_result (c : Cart) : Plain (edit.result c) := by
  have hplain := h.plain_edit c
  rw [Cart.Edit.result]
  cases hedit : (edit c).1 with
  | ok a => rfl
  | error f =>
    rw [hedit] at hplain
    exact hplain

theorem bind_base_error {n : Nat} {request : Request} {stored : Option Value} {f : Failure}
    (hf : (d.base r n request stored).bind edit.result = .error f) :
    Refusal.ofFailure? f = none := by
  cases hbase : d.base r n request stored with
  | error f' =>
    rw [hbase] at hf
    cases hf
    exact base_error hbase
  | ok c =>
    have hplain := h.plain_result c
    rw [hbase] at hf
    rw [show edit.result c = .error f from hf] at hplain
    exact hplain

/-- What comes of the handler, among others that leave storage alone. -/
theorem wp_quiet {g : Grip} (hr : r.id < g.workspace.requests.length)
    (hopen : g.workspace.openDraft? .cart r.session d.cart.name = none) :
    Company.quiet.logic.wp (fun out g' => ∃ n, Outcome d.cart r
      ((d.cart.opening r.session n (g.workspace.request r.id) (g.stored d.cart r)).bind edit.result)
      answer g.storage g.workspace out g'.storage g'.workspace) x g := by
  rw [h.eq_update, Logic.wp_bind]
  refine Logic.wp_mono ?_ (wp_update_quiet d r edit hr hopen)
  rintro out g₁ ⟨n, houtcome⟩
  cases out with
  | error f =>
    refine ⟨n, ?_⟩
    cases houtcome with
    | refused refusal hout hsame => exact .refused refusal (by cases hout; rfl) hsame
    | failed f' hresult hout hsame => exact .failed f' hresult (by cases hout; rfl) hsame
    | changed p _ hout => cases hout
  | ok p =>
    have hlast : Outcome d.cart r ((d.cart.opening r.session n (g.workspace.request r.id)
        (g.stored d.cart r)).bind edit.result) answer g.storage g.workspace (answer p) g₁.storage
        g₁.workspace := by
      cases houtcome with
      | refused _ hout => cases hout
      | failed _ _ hout => cases hout
      | changed p' hresult hout hassigned =>
        cases hout
        exact .changed p hresult rfl hassigned
    dsimp only
    cases hanswer : answer p <;> exact ⟨n, hanswer ▸ hlast⟩

variable {i : ThreadId} {others : World → World → Prop} {w w' : World} {l l' : Workspace}
  {out : Except Failure β} (hothers : ∀ w w', others w w' → w.Quiet i w')
  (hsound : ∀ t, (w.locks t).Sound) (hcalm : ∀ s, (w.backend s).intrusion = none)
  (hr : r.id < l.requests.length) (hopen : l.openDraft? .cart r.session d.cart.name = none)

include hothers hsound hcalm hr hopen

theorem outcome (hends : x.Ends i others w l out w' l') :
    ∃ n, Outcome d.cart r ((d.cart.opening r.session n (l.request r.id)
      ((w.backend d.cart.store).store.get? r.session d.cart.name)).bind edit.result) answer
      w.storage l out w'.storage l' := by
  have hfits := Grip.fits_of (C := .quiet) (i := i) hsound (fun _ => hcalm) l
  obtain ⟨g, hfits', rfl, n, houtcome⟩ :=
    hends.sound (Company.bounds_quiet hothers) hfits rfl (h.wp_quiet hr hopen)
  rw [← hfits'.storage_eq]
  exact ⟨n, houtcome⟩

end Applies

/-- **Handlers refine operations on carts.** A handler that changes the cart, called while the
thread has no section of the cart open, applies its operation to the stored cart, or to a new one if
none is stored. If it is refused by storage or at the lock, or the operation or anything before it
fails, the handler fails so, and storage, the marks of changes and all other requests are as they
were. Otherwise the changed cart is stored and cached and the attribute is marked, nothing else has
changed, and the answer is that of the operation. Whether commits are strict makes no difference. -/
theorem handler_applies_operation {d : Desk} {r : RequestRef} {α β : Type} {x : Routine β}
    {edit : Cart.Edit α} {answer : α × Cart → Except Failure β} (hx : d.Applies r x edit answer)
    {i : ThreadId} {others : World → World → Prop} (hothers : ∀ w w', others w w' → w.Quiet i w')
    {w w' : World} {l l' : Workspace} {events : List Event} {out : Except Failure β}
    (hsound : ∀ t, (w.locks t).Sound) (hcalm : ∀ s, (w.backend s).intrusion = none)
    (hr : r.id < l.requests.length) (hopen : l.openDraft? .cart r.session d.cart.name = none)
    (hbase : (∃ c, (w.backend d.cart.store).store.get? r.session d.cart.name = some (.cart c)) ∨
      ∀ c, (l.request r.id).get? d.cart.name ≠ some (.cart c))
    (hcourse : x.Course i others w l events (.ended out) w' l') :
    ∃ n result, result = (d.base r n (l.request r.id)
        ((w.backend d.cart.store).store.get? r.session d.cart.name)).bind edit.result ∧
      (∀ refusal, Event.firstRefusal? events = some refusal →
        out = .error (.error (refusal.error r.session)) ∧
          Untouched d.cart r w.storage w'.storage l l') ∧
      (Event.firstRefusal? events = none →
        (∀ f, result = .error f → out = .error f ∧
          Untouched d.cart r w.storage w'.storage l l') ∧
        ∀ p, result = .ok p → out = answer p ∧
          Assigned d.cart r (.cart p.2) w.storage w'.storage l l') := by
  obtain ⟨n, houtcome⟩ := hx.outcome hothers hsound hcalm hr hopen hcourse.ends
  rw [opening_eq_base d r n hbase] at houtcome
  have hterms : (Terms.anywhere fun _ => True).Abides _ x :=
    Terms.Abides.handler rfl d.upholds_true trivial trivial trivial hx.handler
  have hreported := (hterms.course Value.carries_true hcourse).2 out rfl
  refine ⟨n, _, rfl, ?_⟩
  rw [← hreported]
  cases houtcome with
  | refused refusal hout hsame =>
    have hrefusal : Refusal.reported? out = some refusal := by simp [hout]
    rw [hrefusal]
    refine ⟨fun refusal' heq => ?_, fun hnone => by cases hnone⟩
    cases heq
    exact ⟨hout, hsame⟩
  | failed f hresult hout hsame =>
    have hplain : Refusal.reported? out = none := by
      rw [hout]
      exact hx.bind_base_error hresult
    rw [hplain, hresult]
    refine ⟨fun _ hsome => (by cases hsome), fun _ => ⟨fun f' heq => ?_, fun _ heq => ?_⟩⟩
    · cases heq
      exact ⟨hout, hsame⟩
    · cases heq
  | changed p hresult hout hassigned =>
    have hplain : Refusal.reported? out = none := hout ▸ hx.plain_answer p
    rw [hplain, hresult]
    refine ⟨fun _ hsome => (by cases hsome), fun _ => ⟨fun _ heq => ?_, fun p' heq => ?_⟩⟩
    · cases heq
    · cases heq
      exact ⟨hout, hassigned⟩

/-- A cart with a pen and a cup. -/
def basket : Cart where
  __ := Cart.new "9000" "USD" .sales (.tick 1)
  lines := [⟨"pen", .one, .one, none⟩, ⟨"cup", .one, .one, none⟩]

/-- A cart is stored for a session. -/
def stocked (c : Cart) : World :=
  Race.dawn.setBackend .main { store := Store.empty.set Race.arena cartAttribute (.cart c) }

theorem sound_stocked (c : Cart) (t : TableName) : ((stocked c).locks t).Sound :=
  World.sound_new _ t

theorem calm_stocked (c : Cart) (s : StoreName) : ((stocked c).backend s).intrusion = none := by
  cases s <;> rfl

/-- One more pen is added to a stored cart. -/
theorem handler_applies_operation_pen : ∃ (events : List Event) (p : Decimal × Cart) (w' : World)
    (l' : Workspace), (kiosk.addItem ⟨0, Race.arena⟩ "pen" .one).Course 0 (World.Quiet 0)
      (stocked basket) { requests := [.new Race.arena] } events (.ended (figures p)) w' l' ∧
    (Pricing.welcome.addItem "pen" .one).result basket = .ok p ∧
    Assigned kiosk.cart ⟨0, Race.arena⟩ (.cart p.2) (stocked basket).storage w'.storage
      { requests := [.new Race.arena] } l' := by
  have hrun : ∃ summary w' l', (kiosk.addItem ⟨0, Race.arena⟩ "pen" .one).run true 0
      (stocked basket) { requests := [.new Race.arena] } = .finished (.ok summary) w' l' :=
    ⟨_, _, _, rfl⟩
  have hresult : ∃ p, (Pricing.welcome.addItem "pen" .one).result basket = .ok p := ⟨_, rfl⟩
  obtain ⟨summary, w', l', hrun⟩ := hrun
  obtain ⟨p, hresult⟩ := hresult
  obtain ⟨events, hcourse⟩ := (Routine.ends_of_run (World.Quiet.refl 0) hrun).exists_course
  obtain ⟨n, _, rfl, hrefused, hcall⟩ := handler_applies_operation (.addItem "pen" .one)
    (fun _ _ h => h) (sound_stocked basket) (calm_stocked basket) Nat.one_pos rfl
    (.inl ⟨basket, rfl⟩) hcourse
  have hnone : Event.firstRefusal? events = none := by
    cases hrefusal : Event.firstRefusal? events with
    | none => rfl
    | some refusal => cases (hrefused refusal hrefusal).1
  obtain ⟨hout, hassigned⟩ := (hcall hnone).2 p hresult
  exact ⟨events, p, w', l', hout ▸ hcourse, hresult, hassigned⟩

end Desk

end SessionCart
