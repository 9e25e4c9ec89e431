import SessionCart.Proofs.Desk.Terms

/-!
# Errands at the desk

All that a request can have done at the desk is made of a few parts: the cart is read and written,
alone or in an update section, under the lock or not, and other attributes are found, put and
removed. What all these parts keep, every errand keeps. The parts are compared in pairs, since two
runs of an errand may differ in the sections that they open.
-/

namespace SessionCart

namespace Desk

/-- What a request can have done at the desk. -/
inductive Errand
  | currentCart
  | cartIfAny
  | setCart (c : Cart)
  | forgetCached
  | status
  | addItem (product : String) (quantity : Decimal)
  | changeQuantity (product : String) (quantity : Decimal)
  | removeItem (product : String)
  | enterPromoCode (code : String)
  | withdrawPromoCode (code : String)
  | clear
  | destroy
  | refresh (locale : String)
  | switchCart (index store : Option String)
  | dropParked (index : Option String)

namespace Errand

abbrev Answer : Errand → Type
  | currentCart | setCart _ => Cart
  | cartIfAny => Option Cart
  | status => CartStatus
  | addItem .. | changeQuantity .. | removeItem _ => CartSummary
  | enterPromoCode _ | withdrawPromoCode _ | refresh _ | dropParked _ => Bool
  | forgetCached | clear | destroy | switchCart .. => Unit

def routine (d : Desk) (r : RequestRef) : (e : Errand) → Routine e.Answer
  | currentCart => d.currentCart r
  | cartIfAny => d.cartIfAny r
  | setCart c => d.setCart r c
  | forgetCached => d.forgetCached r
  | status => d.status r
  | addItem product quantity => d.addItem r product quantity
  | changeQuantity product quantity => d.changeQuantity r product quantity
  | removeItem product => d.removeItem r product
  | enterPromoCode code => d.enterPromoCode r code
  | withdrawPromoCode code => d.withdrawPromoCode r code
  | clear => d.clear r
  | destroy => d.destroy r
  | refresh locale => d.refresh r locale
  | switchCart index store => d.switchCart r index store
  | dropParked index => d.dropParked r index

/-- The attributes whose cached values the errand sets or drops on their own account, whatever
becomes of the cart. -/
def notes (d : Desk) : Errand → String → Prop
  | forgetCached, name => name = d.cart.name
  | switchCart .., name => name = storeAttribute
  | clear, name | destroy, name => name = anonymousLoginAttribute
  | _, _ => False

end Errand

/-! ### Parts -/

/-- Two routines for a request are made of the same parts. Each has sections of its own, which are
paired in the order in which they were opened. A cached value is set or dropped on its own account
only if its name is `free`. -/
inductive Akin (d : Desk) (r : RequestRef) (free : String → Prop) :
    List (Section .cart × Section .cart) → {α : Type} → Routine α → Routine α → Prop
  | done {Γ} {α : Type} (y : α) : Akin d r free Γ (.done y) (.done y)
  | fail {Γ} {α : Type} (f : Failure) : Akin d r free Γ (.fail f : Routine α) (.fail f)
  | bind {Γ} {α β : Type} {x x' : Routine α} {f f' : α → Routine β} : Akin d r free Γ x x' →
    (∀ y, Akin d r free Γ (f y) (f' y)) → Akin d r free Γ (x >>= f) (x' >>= f')
  | locked {Γ} {α : Type} {x x' : Routine α} : Akin d r free Γ x x' →
    Akin d r free Γ (d.locked r x) (d.locked r x')
  | within {Γ} {α : Type} {body body' : Section .cart → Routine α} :
    (∀ s s', Akin d r free ((s, s') :: Γ) (body s) (body' s')) →
    Akin d r free Γ (Section.within d.cart r body) (Section.within d.cart r body')
  | read {Γ} (policy : ReadPolicy) (creating : Bool) (scope : Scope) :
    Akin d r free Γ (d.cart.read r policy creating scope) (d.cart.read r policy creating scope)
  | write {Γ} (value : Option Cart) :
    Akin d r free Γ (d.cart.write r value .all) (d.cart.write r value .all)
  | forget {Γ} : free d.cart.name →
    Akin d r free Γ (d.cart.remove r .requestOnly) (d.cart.remove r .requestOnly)
  | create {Γ} : Akin d r free Γ (d.cart.create r) (d.cart.create r)
  | find {Γ} (k : Kind) (name : String) : Akin d r free Γ (d.find r k name) (d.find r k name)
  | put {Γ} {name : String} (value : Value) : name ≠ cartAttribute →
    Akin d r free Γ (d.put r name value) (d.put r name value)
  | removeAttribute {Γ} {name : String} : name ≠ cartAttribute →
    Akin d r free Γ (d.removeAttribute r name) (d.removeAttribute r name)
  | invalidate {Γ} : Akin d r free Γ (Routine.invalidate d.cart.store r.session)
    (Routine.invalidate d.cart.store r.session)
  | note {Γ} {name : String} (value : Value) : name ≠ cartAttribute → free name →
    Akin d r free Γ (Routine.cache r name value) (Routine.cache r name value)
  | copy {Γ} {s s' : Section .cart} : (s, s') ∈ Γ → Akin d r free Γ s.copy s'.copy
  | commit {Γ} {s s' : Section .cart} (c : Cart) : (s, s') ∈ Γ →
    Akin d r free Γ (s.commit c) (s'.commit c)
  | discard {Γ} {s s' : Section .cart} : (s, s') ∈ Γ → Akin d r free Γ s.discard s'.discard
  | close {Γ} {s s' : Section .cart} : (s, s') ∈ Γ → Akin d r free Γ s.close s'.close

namespace Akin

variable {d : Desk} {r : RequestRef} {free : String → Prop}
  {Γ : List (Section .cart × Section .cart)} {α : Type}

theorem ofExcept (e : Except Error α) :
    Akin d r free Γ (Routine.ofExcept e) (Routine.ofExcept e) := by
  cases e with
  | ok y => exact done y
  | error e => exact fail _

theorem summarise (c : Cart) : Akin d r free Γ (Desk.summarise c) (Desk.summarise c) := by
  rw [Desk.summarise]
  cases c.summary with
  | ok s => exact done s
  | error o => exact fail _

theorem currentCart : Akin d r free Γ (d.currentCart r) (d.currentCart r) := by
  refine bind (read .requestFirst true .all) fun found => ?_
  cases found with
  | some c => exact done c
  | none => exact create

theorem cartIfAny : Akin d r free Γ (d.cartIfAny r) (d.cartIfAny r) := read .requestFirst false .all

theorem setCart (c : Cart) : Akin d r free Γ (d.setCart r c) (d.setCart r c) :=
  bind (write (some c)) fun _ => done c

theorem status : Akin d r free Γ (d.status r) (d.status r) := by
  refine bind cartIfAny fun found => ?_
  cases found with
  | some c => exact done _
  | none => exact done _

theorem change (edit : Cart.Edit α) {s s' : Section .cart} (hs : (s, s') ∈ Γ) :
    Akin d r free Γ (Desk.change edit s) (Desk.change edit s') := by
  refine bind (copy hs) fun c => ?_
  rcases edit c with ⟨out, changed⟩
  cases out with
  | ok y => exact bind (commit changed hs) fun committed => bind (close hs) fun _ => done _
  | error f =>
    cases f with
    | error e => exact bind (discard hs) fun _ => fail _
    | panic p => exact fail _

theorem update (edit : Cart.Edit α) : Akin d r free Γ (d.update r edit) (d.update r edit) := by
  rw [update_eq]
  exact within fun s s' => change edit List.mem_cons_self

theorem parked : Akin d r free Γ (d.parked r) (d.parked r) :=
  bind (find .carts parkedAttribute) fun _ => done _

theorem removeAttributes {names : List String} (hnames : ∀ name ∈ names, name ≠ cartAttribute) :
    Akin d r free Γ (d.removeAttributes r names) (d.removeAttributes r names) := by
  induction names with
  | nil => exact done ()
  | cons name rest ih =>
    obtain ⟨hname, hrest⟩ := List.forall_mem_cons.mp hnames
    exact bind (removeAttribute hname) fun _ => ih hrest

theorem forgetAnonymous (login : UserLogin) (hcart : free d.cart.name)
    (hlogin : free anonymousLoginAttribute) :
    Akin d r free Γ (d.forgetAnonymous r login) (d.forgetAnonymous r login) :=
  bind invalidate fun _ => bind (forget hcart) fun _ => bind (put _ (by decide)) fun _ =>
    note _ (by decide) hlogin

theorem clear (hcart : free d.cart.name) (hlogin : free anonymousLoginAttribute) :
    Akin d r free Γ (d.clear r) (d.clear r) := by
  refine locked (bind (update _) fun _ => bind (find .login userLoginAttribute) fun found => ?_)
  cases found with
  | none => exact done ()
  | some login =>
    dsimp only
    split
    · exact forgetAnonymous login hcart hlogin
    · exact done ()

theorem destroy (hcart : free d.cart.name) (hlogin : free anonymousLoginAttribute) :
    Akin d r free Γ (d.destroy r) (d.destroy r) :=
  locked (bind (clear hcart hlogin) fun _ => bind (write none) fun _ =>
    removeAttributes (by decide))

theorem redo (refreshed : Except Error (Bool × Cart)) {s s' : Section .cart} (hs : (s, s') ∈ Γ) :
    Akin d r free Γ (d.redo r s refreshed) (d.redo r s' refreshed) := by
  cases refreshed with
  | ok p => exact done p
  | error e =>
    cases e with
    | userMismatch => exact bind create fun _ => done _
    | _ => exact bind (discard hs) fun _ => fail _

theorem renew (locale : String) {s s' : Section .cart} (hs : (s, s') ∈ Γ) :
    Akin d r free Γ (d.renew r locale s) (d.renew r locale s') := by
  refine bind (copy hs) fun c => bind (find .login userLoginAttribute) fun user =>
    bind (find .login autoLoginAttribute) fun auto => bind (redo _ hs) fun p => ?_
  obtain ⟨modified, changed⟩ := p
  cases modified with
  | true => exact bind (commit changed hs) fun _ => bind (close hs) fun _ => done true
  | false => exact bind (discard hs) fun _ => bind (close hs) fun _ => done false

theorem refresh (locale : String) : Akin d r free Γ (d.refresh r locale) (d.refresh r locale) := by
  rw [refresh_eq]
  refine bind currentCart fun c => bind (find .login userLoginAttribute) fun user =>
    bind (find .login autoLoginAttribute) fun auto => bind (ofExcept _) fun stale => ?_
  cases stale with
  | true => exact within fun s s' => renew locale List.mem_cons_self
  | false => exact done false

theorem collect : Akin d r free Γ (d.collect r) (d.collect r) := by
  refine bind parked fun before => bind (find .cart cartAttribute) fun found => ?_
  cases found with
  | none => exact done before
  | some c => exact bind (write none) fun _ => done _

theorem replace (store : Option String) (all : List Cart) (hstore : free storeAttribute) :
    Akin d r free Γ (d.replace r store all) (d.replace r store all) := by
  have hnew : Akin d r free Γ (d.currentCart r >>= fun c => .done (c, all))
    (d.currentCart r >>= fun c => .done (c, all)) := bind currentCart fun c => done _
  rw [Desk.replace]
  cases store.filter (!·.isEmpty) with
  | none => exact hnew
  | some store =>
    exact bind (bind (put _ (by decide)) fun _ => note _ (by decide) hstore) fun _ => hnew

theorem switchCart (index store : Option String) (hstore : free storeAttribute) :
    Akin d r free Γ (d.switchCart r index store) (d.switchCart r index store) := by
  rw [switchCart_eq]
  refine locked (bind collect fun all => bind ?_ fun p => bind (put _ (by decide)) fun _ =>
    write (some p.1))
  rw [pick]
  split
  · exact done _
  · exact replace store all hstore

theorem dropParked (index : Option String) :
    Akin d r free Γ (d.dropParked r index) (d.dropParked r index) := by
  refine locked (bind parked fun all => ?_)
  split
  · exact bind (put _ (by decide)) fun _ => done true
  · exact done false

/-- Every errand is made of these parts. -/
theorem errand (e : Errand) (hnotes : ∀ name, e.notes d name → free name)
    (hcart : e = .clear ∨ e = .destroy → free d.cart.name) :
    Akin d r free Γ (e.routine d r) (e.routine d r) := by
  cases e with
  | currentCart => exact currentCart
  | cartIfAny => exact cartIfAny
  | setCart c => exact setCart c
  | forgetCached => exact forget (hnotes _ rfl)
  | status => exact status
  | addItem product quantity => exact bind (update _) fun p => summarise p.2
  | changeQuantity product quantity => exact bind (update _) fun p => summarise p.2
  | removeItem product => exact bind (update _) fun p => summarise p.2
  | enterPromoCode code => exact bind (update _) fun p => done p.1
  | withdrawPromoCode code => exact bind (update _) fun p => done p.1
  | clear => exact clear (hcart (.inl rfl)) (hnotes _ rfl)
  | destroy => exact destroy (hcart (.inr rfl)) (hnotes _ rfl)
  | refresh locale => exact refresh locale
  | switchCart index store => exact switchCart index store (hnotes _ rfl)
  | dropParked index => exact dropParked index

end Akin

end Desk

end SessionCart
