import SessionCart.Proofs.Desk.Switching

/-!
# Carts that are parked

A switch parks the current cart behind the others and takes one out of the line, or makes a new one;
a parked cart leaves the line only if it is dropped. So over any run of switches and drops each cart
that was there, or was made, is there exactly once, unless it was dropped.
-/

namespace SessionCart

/-! ### The carts of a session -/

namespace Shelf

/-- The carts on a shelf with a current one; where no list is stored, none is parked. -/
def lot? (s : Shelf) : Option Lot :=
  match s.value cartAttribute, s.value parkedAttribute with
  | some (.cart c), none => some ⟨c, []⟩
  | some (.cart c), some (.carts cs) => some ⟨c, cs⟩
  | _, _ => none

theorem lot?_stow (s : Shelf) (x : Lot) : (s.stow x).lot? = some x := by
  simp [lot?, stow, cartAttribute, parkedAttribute]

theorem lot?_eq_some {s : Shelf} {x : Lot} (h : s.lot? = some x) :
    s.value cartAttribute = some (.cart x.current) ∧
      (s.value parkedAttribute = none ∧ x.parked = [] ∨
        s.value parkedAttribute = some (.carts x.parked)) := by
  unfold lot? at h
  split at h
  · rename_i c hcart hparked
    cases h
    exact ⟨hcart, .inl ⟨hparked, rfl⟩⟩
  · rename_i c cs hcart hparked
    cases h
    exact ⟨hcart, .inr hparked⟩
  · cases h

theorem carts_of_lot? {s : Shelf} {x : Lot} (h : s.lot? = some x) :
    s.currentCart? = some x.current ∧ s.parkedCarts = x.parked ∧ s.carts = x.line := by
  obtain ⟨hcart, hparked⟩ := lot?_eq_some h
  have hcurrent : s.currentCart? = some x.current := currentCart?_of_value hcart
  have hlist : s.parkedCarts = x.parked := by
    rcases hparked with ⟨hnone, hnil⟩ | hsome
    · rw [parkedCarts, hnone, hnil]
      rfl
    · rw [parkedCarts, hsome]
      rfl
  refine ⟨hcurrent, hlist, ?_⟩
  rw [carts, hcurrent, hlist]
  rfl

end Shelf

namespace Desk

variable {d : Desk} {r : RequestRef} {tickets : List (Hold × Bool)} {shelf : Shelf} {q : Request}

/-- What a thread has while no section of the cart is open: its tickets, what is stored for its
session, and what its request is. -/
structure Serving (d : Desk) (r : RequestRef) (tickets : List (Hold × Bool)) (shelf : Shelf)
    (q : Request) (g : Grip) : Prop where
  tickets_eq : g.tickets = tickets
  shelf_eq : g.storage d.cart.store r.session = shelf
  request_eq : g.workspace.request r.id = q
  known : r.id < g.workspace.requests.length
  unopened : g.workspace.openDraft? .cart r.session d.cart.name = none

/-- Where nobody else changes the session, the routine leads from what is stored and what the
request is to a result, if it comes to one, and to what is then. It has its tickets again in any
case. -/
def Leads {α : Type} (d : Desk) (r : RequestRef) (x : Routine α) (shelf : Shelf) (q : Request)
    (Q : α → Shelf → Request → Prop) : Prop :=
  ∀ tickets g, d.Serving r tickets shelf q g →
    (Company.sparing d.cart.store r.session).logic.wp (fun out g' => match out with
      | .ok y => ∃ shelf' q', d.Serving r tickets shelf' q' g' ∧ Q y shelf' q'
      | .error _ => g'.tickets = tickets) x g

theorem Brings.leads {α : Type} {x : Routine α} {P : α → Shelf → Request → List Nat → Prop}
    {E : Shelf → Prop} {Q : α → Shelf → Request → Prop} (hx : d.Brings r none x shelf q P E)
    (hQ : ∀ y shelf' q' new, P y shelf' q' new → Q y shelf' q') : d.Leads r x shelf q Q := by
  intro tickets g hg
  have htending : d.Tending r tickets none shelf q g :=
    ⟨hg.tickets_eq, hg.shelf_eq, hg.request_eq, hg.known, hg.unopened⟩
  refine Company.wp_of_recorded (Logic.wp_mono (fun out p hout => ?_) (hx tickets [] g htending))
  cases out with
  | error e => exact hout.1
  | ok y =>
    obtain ⟨shelf', q', new, h, _, hP⟩ := hout
    exact ⟨shelf', q', ⟨h.tickets_eq, h.shelf_eq, h.request_eq, h.known, h.draft_eq⟩,
      hQ y shelf' q' new hP⟩

/-! ### Switches and drops -/

/-- The request that a switch makes a cart for: it has no cart any more, and the product store that
the cart is wanted for. -/
def customer (store : Option String) (q : Request) : Request :=
  match store.filter (!·.isEmpty) with
  | some store => ((q.remove cartAttribute).markChanged cartAttribute).set storeAttribute (.text store)
  | none => (q.remove cartAttribute).markChanged cartAttribute

/-- What a switch does to the carts of a session, for a request: the cart that the index names comes
out of the line, or, if it names none, a new one is made. -/
structure Switched (d : Desk) (q : Request) (index store : Option String) (x : Lot)
    (shelf shelf' : Shelf) : Prop where
  restored : ∀ i c, readIndex? index = some i → x.line[i]? = some c →
    shelf' = shelf.stow ⟨c, x.line.eraseIdx i⟩
  renewed : (∀ i, readIndex? index = some i → x.line.length ≤ i) →
    ∃ n c, d.cart.make n (customer store q) = .ok c ∧ shelf' = (noted store shelf).stow ⟨c, x.line⟩

/-- What a drop does: the parked cart that the index names is gone, or, if it names none, nothing is
changed. -/
structure Dropped (index : Option String) (x : Lot) (answer : Bool) (shelf shelf' : Shelf) :
    Prop where
  gone : ∀ i, readIndex? index = some i → i < x.parked.length →
    answer = true ∧ shelf' = shelf.set parkedAttribute (.carts (x.parked.eraseIdx i))
  kept : (∀ i, readIndex? index = some i → x.parked.length ≤ i) → answer = false ∧ shelf' = shelf

namespace Leads

variable {x : Lot} (hname : d.cart.name = cartAttribute) (hlot : shelf.lot? = some x)

include hlot hname

theorem switchCart (index store : Option String) : d.Leads r (d.switchCart r index store) shelf q
    fun _ shelf' _ => d.Switched q index store x shelf shelf' := by
  obtain ⟨hcurrent, _, hline⟩ := Shelf.carts_of_lot? hlot
  refine (Brings.switchCart hname index store).leads fun _ shelf' _ new hshifted => ?_
  have hunnamed := hshifted.unnamed
  have hnamed := hshifted.named
  rw [hline] at hnamed hunnamed
  refine ⟨fun i c hi hc => (hnamed i c (named?_eq_some_iff.mpr ⟨hi, hc⟩)).1, fun hindex => ?_⟩
  obtain ⟨next, hnext, hshelf⟩ := hunnamed (named?_eq_none_iff.mpr hindex)
  have hcustomer : wanting store (parting shelf q) = customer store q := by
    rw [parting, hcurrent, wanting, customer]
    rfl
  cases hnext with
  | reused hnone => exact absurd (hcurrent.symm.trans hnone) (Option.some_ne_none _)
  | made n _ hmake => exact ⟨n, next, hcustomer ▸ hmake, hshelf⟩

omit hname

theorem dropParked (index : Option String) : d.Leads r (d.dropParked r index) shelf q
    fun answer shelf' _ => Dropped index x answer shelf shelf' := by
  refine Brings.leads (P := fun answer shelf' _ _ => Dropped index x answer shelf shelf')
    (E := fun _ => True) (Brings.locked (Brings.parked.bind (fun _ _ => trivial) ?_) trivial)
    fun _ _ _ _ h => h
  rintro all _ _ _ ⟨rfl, rfl, rfl, hall⟩
  rw [(Shelf.carts_of_lot? hlot).2.1] at hall
  subst hall
  cases hnamed : (readIndex? index).filter (· < x.parked.length) with
  | some i =>
    obtain ⟨hi, hlt⟩ := Option.filter_eq_some_iff.mp hnamed
    refine (Brings.put parkedAttribute _).bind (fun _ _ => trivial) ?_
    rintro _ _ _ _ ⟨rfl, rfl, rfl⟩
    refine Brings.done ⟨fun i' hi' _ => ?_, fun hnone => ?_⟩
    · rw [hi] at hi'
      cases hi'
      exact ⟨rfl, rfl⟩
    · exact absurd (hnone i hi) (by simpa using hlt)
  | none =>
    refine Brings.done ⟨fun i hi hlt => ?_, fun _ => ⟨rfl, rfl⟩⟩
    rw [hi, Option.filter_some, if_pos (decide_eq_true hlt)] at hnamed
    cases hnamed

end Leads

/-! ### Runs -/

/-- A thread serves a request of a session. It has no section of the cart open, and the others leave
the session alone. -/
structure Attends (d : Desk) (session : SessionId) (i : ThreadId) (others : World → World → Prop)
    (l : Workspace) (r : RequestRef) : Prop where
  session_eq : r.session = session
  known : r.id < l.requests.length
  unopened : l.openDraft? .cart r.session d.cart.name = none
  spared : ∀ w w', others w w' → w.Sparing d.cart.store session i w'

/-- The cart that a switch has made: the current one, if the index named none. -/
def newcomers (index : Option String) (shelf shelf' : Shelf) : List Cart :=
  match shelf.lot?, shelf'.lot? with
  | some x, some x' => if (readIndex? index).any (· < x.line.length) then [] else [x'.current]
  | _, _ => []

/-- The cart that a drop takes away: the parked one that the index names, if it names one. -/
def leavers (index : Option String) (shelf : Shelf) : List Cart :=
  match shelf.lot? with
  | some x => ((readIndex? index).bind (x.parked[·]?)).toList
  | none => []

/-- Switches and drops that end well, one after the other, on one session: by any threads, for any
requests, with anything cached. The carts made and dropped are noted. -/
inductive Run (d : Desk) (session : SessionId) (w : World) :
    List Cart → List Cart → World → Prop
  | start : Run d session w [] [] w
  | switch {made dropped : List Cart} {w₁ w₂ : World} {i : ThreadId}
    {others : World → World → Prop} {l l' : Workspace} {r : RequestRef}
    {index store : Option String} : Run d session w made dropped w₁ →
    d.Attends session i others l r →
    (d.switchCart r index store).Ends i others w₁ l (.ok ()) w₂ l' →
    Run d session w (made ++ newcomers index (w₁.storage d.cart.store session)
      (w₂.storage d.cart.store session)) dropped w₂
  | drop {made dropped : List Cart} {w₁ w₂ : World} {i : ThreadId}
    {others : World → World → Prop} {l l' : Workspace} {r : RequestRef}
    {index : Option String} {answer : Bool} : Run d session w made dropped w₁ →
    d.Attends session i others l r →
    (d.dropParked r index).Ends i others w₁ l (.ok answer) w₂ l' →
    Run d session w made (dropped ++ leavers index (w₁.storage d.cart.store session)) w₂

section Runs

variable {session : SessionId} {w w' : World} {x : Lot}

/-- What a routine leads to is so after it has ended well. -/
theorem Leads.sound {α : Type} {y : Routine α} {Q : α → Shelf → Request → Prop} {i : ThreadId}
    {others : World → World → Prop} {l l' : Workspace} {answer : α}
    (hy : d.Leads r y (w.storage d.cart.store session) (l.request r.id) Q) (hw : Calm w)
    (hr : d.Attends session i others l r) (hends : y.Ends i others w l (.ok answer) w' l') :
    Calm w' ∧ ∃ q, Q answer (w'.storage d.cart.store session) q := by
  obtain ⟨rfl, hknown, hopen, hspared⟩ := hr
  have hfits := Grip.fits_of (C := .sparing d.cart.store r.session) (i := i) hw.sound
    (fun _ => hw.calm) l
  obtain ⟨g, hfits', _, shelf', q, hg, hQ⟩ := hends.sound (Company.bounds_sparing hspared) hfits rfl
    (hy _ _ ⟨rfl, rfl, rfl, hknown, hopen⟩)
  refine ⟨⟨hfits'.sound, hfits'.calm trivial⟩, q, ?_⟩
  rw [← hfits'.storage_eq, hg.shelf_eq]
  exact hQ

theorem Lot.perm_of_getElem? {i : Nat} {c : Cart} (hc : x.line[i]? = some c) :
    (Lot.line ⟨c, x.line.eraseIdx i⟩).Perm x.line := by
  obtain ⟨hi, rfl⟩ := List.getElem?_eq_some_iff.mp hc
  exact List.perm_append_comm.trans (List.getElem_cons_eraseIdx_perm hi)

/-- The current cart is the last of the line, so a switch to it is none. -/
theorem Switched.same {index store : Option String} {shelf' : Shelf}
    (h : d.Switched q index store x shelf shelf') (hindex : readIndex? index = some x.parked.length) :
    shelf'.lot? = some x := by
  have hlast : x.line[x.parked.length]? = some x.current := by simp [Lot.line]
  have hrest : x.line.eraseIdx x.parked.length = x.parked := by
    rw [Lot.line, List.eraseIdx_append_of_length_le (Nat.le_refl _), Nat.sub_self]
    exact List.append_nil _
  rw [h.restored _ _ hindex hlast, Shelf.lot?_stow, hrest]

/-- A switch loses no cart, and adds at most a new one. -/
theorem Switched.conserves {index store : Option String} {shelf' : Shelf}
    (h : d.Switched q index store x shelf shelf') (hlot : shelf.lot? = some x) :
    ∃ x', shelf'.lot? = some x' ∧ x'.line.Perm (x.line ++ newcomers index shelf shelf') := by
  by_cases hnames : ∃ i, readIndex? index = some i ∧ i < x.line.length
  · obtain ⟨i, hi, hlt⟩ := hnames
    have hget := List.getElem?_eq_getElem hlt
    obtain rfl := h.restored i _ hi hget
    refine ⟨_, Shelf.lot?_stow .., ?_⟩
    rw [newcomers, hlot, Shelf.lot?_stow]
    dsimp only
    rw [hi, Option.any_some, if_pos (decide_eq_true hlt), List.append_nil]
    exact Lot.perm_of_getElem? hget
  · have hnone : ∀ i, readIndex? index = some i → x.line.length ≤ i := fun i hi =>
      Nat.not_lt.mp fun hlt => hnames ⟨i, hi, hlt⟩
    obtain ⟨_, c, _, rfl⟩ := h.renewed hnone
    refine ⟨_, Shelf.lot?_stow .., ?_⟩
    have hany : ¬(readIndex? index).any (· < x.line.length) = true := by
      cases hindex : readIndex? index with
      | none => simp
      | some i => simpa using hnone i hindex
    rw [newcomers, hlot, Shelf.lot?_stow]
    dsimp only
    rw [if_neg hany]
    exact .refl _

/-- A drop loses no cart but the one that it takes away. -/
theorem Dropped.conserves {index : Option String} {answer : Bool} {shelf' : Shelf}
    (h : Dropped index x answer shelf shelf') (hlot : shelf.lot? = some x) :
    ∃ x', shelf'.lot? = some x' ∧ (x'.line ++ leavers index shelf).Perm x.line := by
  by_cases hnames : ∃ i, readIndex? index = some i ∧ i < x.parked.length
  · obtain ⟨i, hi, hlt⟩ := hnames
    obtain ⟨_, rfl⟩ := h.gone i hi hlt
    refine ⟨⟨x.current, x.parked.eraseIdx i⟩, ?_, ?_⟩
    · rw [Shelf.lot?, Shelf.value_set, Shelf.value_set, if_pos rfl,
        if_neg (by decide : parkedAttribute ≠ cartAttribute), (Shelf.lot?_eq_some hlot).1]
    · rw [leavers, hlot]
      dsimp only
      rw [hi, Option.bind_some, List.getElem?_eq_getElem hlt, Option.toList_some]
      have hperm := List.getElem_cons_eraseIdx_perm hlt
      exact List.perm_append_comm.trans (hperm.append_right [x.current])
  · have hnone : ∀ i, readIndex? index = some i → x.parked.length ≤ i := fun i hi =>
      Nat.not_lt.mp fun hlt => hnames ⟨i, hi, hlt⟩
    obtain ⟨_, rfl⟩ := h.kept hnone
    refine ⟨x, hlot, ?_⟩
    have hbind : (readIndex? index).bind (x.parked[·]?) = none := by
      simpa using hnone
    rw [leavers, hlot]
    dsimp only
    rw [hbind]
    simp

theorem Run.conserves (hname : d.cart.name = cartAttribute) (hw : Calm w)
    (hlot : (w.storage d.cart.store session).lot? = some x) {made dropped : List Cart}
    (hrun : d.Run session w made dropped w') :
    Calm w' ∧ ∃ x', (w'.storage d.cart.store session).lot? = some x' ∧
      (x'.line ++ dropped).Perm (x.line ++ made) := by
  induction hrun with
  | start => exact ⟨hw, x, hlot, .refl _⟩
  | @switch made dropped w₁ w₂ _ _ _ _ _ index _ _ hr hends ih =>
    obtain ⟨hw₁, x₁, hlot₁, hperm₁⟩ := ih
    obtain ⟨hw₂, _, hswitched⟩ := (Leads.switchCart hname hlot₁ _ _).sound hw₁ hr hends
    obtain ⟨x₂, hlot₂, hperm₂⟩ := hswitched.conserves hlot₁
    refine ⟨hw₂, x₂, hlot₂, ?_⟩
    generalize newcomers index _ _ = new at hperm₂ ⊢
    calc
      List.Perm (x₂.line ++ dropped) (x₁.line ++ new ++ dropped) := hperm₂.append_right dropped
      List.Perm _ (x₁.line ++ dropped ++ new) := by
        rw [List.append_assoc, List.append_assoc]
        exact List.perm_append_comm.append_left x₁.line
      List.Perm _ (x.line ++ (made ++ new)) := by
        rw [← List.append_assoc]
        exact hperm₁.append_right new
  | @drop made dropped w₁ w₂ _ _ _ _ _ index _ _ hr hends ih =>
    obtain ⟨hw₁, x₁, hlot₁, hperm₁⟩ := ih
    obtain ⟨hw₂, _, hdropped⟩ := (Leads.dropParked hlot₁ _).sound hw₁ hr hends
    obtain ⟨x₂, hlot₂, hperm₂⟩ := hdropped.conserves hlot₁
    refine ⟨hw₂, x₂, hlot₂, ?_⟩
    generalize leavers index _ = gone at hperm₂ ⊢
    calc
      List.Perm (x₂.line ++ (dropped ++ gone)) (x₂.line ++ gone ++ dropped) := by
        rw [List.append_assoc]
        exact List.perm_append_comm.append_left x₂.line
      List.Perm _ (x₁.line ++ dropped) := hperm₂.append_right dropped
      List.Perm _ (x.line ++ made) := hperm₁

/-- **Carts are conserved.** On a session with a current cart, while no section of the cart is open
and others leave the session alone, a switch that ends well does to the carts what the index says: a
cart in the line comes out of it, and anything else gives a new cart, made after the product store
was noted. A drop takes away the parked cart of its index and no other one. So over any run of
switches and drops the carts at the end and those dropped are the carts at the start and those
made. -/
theorem carts_conserved (hname : d.cart.name = cartAttribute) (hw : Calm w)
    (hlot : (w.storage d.cart.store session).lot? = some x) :
    (∀ {i others l l' r index store}, d.Attends session i others l r →
      (d.switchCart r index store).Ends i others w l (.ok ()) w' l' →
        d.Switched (l.request r.id) index store x (w.storage d.cart.store session)
          (w'.storage d.cart.store session) ∧
        (readIndex? index = some x.parked.length →
          (w'.storage d.cart.store session).lot? = some x)) ∧
    (∀ {i others l l' r index answer}, d.Attends session i others l r →
      (d.dropParked r index).Ends i others w l (.ok answer) w' l' →
        Dropped index x answer (w.storage d.cart.store session)
          (w'.storage d.cart.store session)) ∧
    ∀ {made dropped}, d.Run session w made dropped w' →
      ∃ x', (w'.storage d.cart.store session).lot? = some x' ∧
        (x'.line ++ dropped).Perm (x.line ++ made) := by
  refine ⟨fun hr hends => ?_, fun hr hends => ?_, fun hrun => (hrun.conserves hname hw hlot).2⟩
  · obtain ⟨_, _, hswitched⟩ := (Leads.switchCart hname hlot _ _).sound hw hr hends
    exact ⟨hswitched, hswitched.same⟩
  · obtain ⟨_, _, hdropped⟩ := (Leads.dropParked hlot _).sound hw hr hends
    exact hdropped

/-- A cart is parked for a new one and comes back, and the new one is dropped. -/
theorem carts_conserved_kiosk : ∃ made dropped w' x',
    kiosk.Run Race.arena (stocked basket) made dropped w' ∧ made.length = 1 ∧ dropped.length = 1 ∧
    (w'.storage .main Race.arena).lot? = some x' ∧ (x'.line ++ dropped).Perm (basket :: made) := by
  have hattends : ∀ i, kiosk.Attends Race.arena i (World.Quiet i) { requests := [.new Race.arena] }
      ⟨0, Race.arena⟩ := fun i => ⟨rfl, Nat.one_pos, rfl, fun _ _ h => h.sparing ..⟩
  have hruns : ∃ w₁ l₁ w₂ l₂ w₃ l₃,
      (kiosk.switchCart ⟨0, Race.arena⟩ none none).run true 0
        (stocked basket) { requests := [.new Race.arena] } = .finished (.ok ()) w₁ l₁ ∧
      (kiosk.switchCart ⟨0, Race.arena⟩ (some "0") none).run true 1
        w₁ { requests := [.new Race.arena] } = .finished (.ok ()) w₂ l₂ ∧
      (kiosk.dropParked ⟨0, Race.arena⟩ (some "0")).run true 0
        w₂ { requests := [.new Race.arena] } = .finished (.ok true) w₃ l₃ ∧
      ([] ++ newcomers none ((stocked basket).storage .main Race.arena)
        (w₁.storage .main Race.arena) ++ newcomers (some "0") (w₁.storage .main Race.arena)
        (w₂.storage .main Race.arena)).length = 1 ∧
      ([] ++ leavers (some "0") (w₂.storage .main Race.arena)).length = 1 :=
    ⟨_, _, _, _, _, _, rfl, rfl, rfl, rfl, rfl⟩
  obtain ⟨w₁, l₁, w₂, l₂, w₃, l₃, hpark, hback, hdrop, hmade, hdropped⟩ := hruns
  have hrun := ((Run.start.switch (hattends 0) (Routine.ends_of_run (World.Quiet.refl 0) hpark)).switch
    (hattends 1) (Routine.ends_of_run (World.Quiet.refl 1) hback)).drop (hattends 0)
    (Routine.ends_of_run (World.Quiet.refl 0) hdrop)
  have hlot : ((stocked basket).storage .main Race.arena).lot? = some ⟨basket, []⟩ := rfl
  obtain ⟨x', hlot', hperm⟩ := (carts_conserved rfl ⟨sound_stocked basket, calm_stocked basket⟩
    hlot).2.2 hrun
  exact ⟨_, _, w₃, x', hrun, hmade, hdropped, hlot', hperm⟩

end Runs

end Desk

end SessionCart
