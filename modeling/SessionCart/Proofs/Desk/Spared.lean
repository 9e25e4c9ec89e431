import SessionCart.Proofs.Desk.Refinement
import SessionCart.Proofs.Thread.Record

/-!
# A session that others leave alone

Where nobody else changes a session, what the desk does for a request leads from what is stored and
what the request is to what is then, step by step, whether the call ends well or fails on its way.
With an update section of the cart open or without one, a write of the cart does the same to both.
-/

namespace SessionCart

/-! ### The carts of a session -/

/-- The carts of a session: the current one and those that are parked. -/
structure Lot where
  current : Cart
  parked : List Cart

/-- The carts as a switch counts them, the current one last. -/
def Lot.line (x : Lot) : List Cart := x.parked ++ [x.current]

namespace Shelf

variable {s s' : Shelf} {x : Lot}

def currentCart? (s : Shelf) : Option Cart := (s.value cartAttribute).bind (·.as? .cart)

/-- The parked carts; where no list is stored, none is parked. -/
def parkedCarts (s : Shelf) : List Cart := ((s.value parkedAttribute).bind (·.as? .carts)).getD []

/-- All carts on a shelf, the current one last. -/
def carts (s : Shelf) : List Cart := s.parkedCarts ++ s.currentCart?.toList

/-- The shelf with these carts in place of its own. -/
def stow (s : Shelf) (x : Lot) : Shelf :=
  (s.set parkedAttribute (.carts x.parked)).set cartAttribute (.cart x.current)

theorem currentCart?_of_value {found : Option Cart}
    (h : s.value cartAttribute = found.map (Value.of .cart)) : s.currentCart? = found := by
  rw [currentCart?, h]
  cases found <;> rfl

theorem parkedCarts_of_value {found : Option (List Cart)}
    (h : s.value parkedAttribute = found.map (Value.of .carts)) :
    s.parkedCarts = found.getD [] := by
  rw [parkedCarts, h]
  cases found <;> rfl

theorem eq_stow (hcart : s'.value cartAttribute = some (.cart x.current))
    (hparked : s'.value parkedAttribute = some (.carts x.parked))
    (hother : ∀ name, cartAttribute ≠ name → parkedAttribute ≠ name →
      s'.value name = s.value name) : s' = s.stow x := by
  refine Shelf.ext (funext fun name => ?_)
  rw [stow, value_set, value_set]
  split
  case isTrue hname => rw [← hname, hcart]
  case isFalse hname =>
    split
    case isTrue hname' => rw [← hname', hparked]
    case isFalse hname' => exact hother name hname hname'

theorem set_set_eq_stow (hother : ∀ name, cartAttribute ≠ name → parkedAttribute ≠ name →
    s'.value name = s.value name) : (s'.set parkedAttribute (.carts x.parked)).set cartAttribute
      (.cart x.current) = s.stow x := by
  refine eq_stow (by simp) ?_ fun name hcart hparked => ?_
  · simp [cartAttribute, parkedAttribute]
  · simp [hcart, hparked, hother name hcart hparked]

theorem set_remove (s : Shelf) (name : String) (value : Value) :
    (s.remove name).set name value = s.set name value := by
  refine Shelf.ext (funext fun other => ?_)
  rw [value_set, value_set, value_remove]
  split <;> rfl

theorem remove_of_value_eq_none {name : String} (h : s.value name = none) : s.remove name = s := by
  refine Shelf.ext (funext fun other => ?_)
  rw [value_remove]
  split
  case isTrue hname => rw [← hname, h]
  case isFalse => rfl

end Shelf

/-! ### The others -/

/-- Others have acted, and left a session and the tickets of a thread alone. -/
structure World.Sparing (s : StoreName) (session : SessionId) (i : ThreadId) (w w' : World) : Prop
    extends w.Apart i w' where
  storage_eq : w'.storage s session = w.storage s session
  calm : ∀ s, (w.backend s).intrusion = none → (w'.backend s).intrusion = none

theorem World.Quiet.sparing {i : ThreadId} {w w' : World} (h : w.Quiet i w') (s : StoreName)
    (session : SessionId) : w.Sparing s session i w' :=
  ⟨h.toApart, by rw [h.storage_eq], h.calm⟩

namespace Company

/-- Nobody else changes a session. -/
def sparing (s : StoreName) (session : SessionId) : Company :=
  ⟨fun _ s' session' => s' = s ∧ session' = session, fun _ h => h, True, fun _ => trivial⟩

variable {s : StoreName} {session : SessionId}

theorem bounds_sparing {i : ThreadId} {others : World → World → Prop}
    (hothers : ∀ w w', others w w' → w.Sparing s session i w') :
    (sparing s session).Bounds i others := by
  intro g w w' hacted hfits
  have hspared := hothers w w' hacted
  refine ⟨w'.storage, ?_, hspared.toApart.fits hfits fun _ s => hspared.calm s⟩
  rintro _ _ ⟨rfl, rfl⟩
  rw [hspared.storage_eq, hfits.storage_eq]

theorem Drift.shelf_eq {g g' : Grip} (h : (sparing s session).Drift g g') :
    g'.storage s session = g.storage s session := h.near s session ⟨rfl, rfl⟩

end Company

/-- Locks are in order, and no other party changes storage on the occasion of a read. -/
structure Desk.Calm (w : World) : Prop where
  sound : ∀ t, (w.locks t).Sound
  calm : ∀ s, (w.backend s).intrusion = none

/-! ### What requests and drafts become -/

/-- The request with a value cached, or with none. -/
def Request.assign (q : Request) (name : String) : Option Value → Request
  | some v => q.set name v
  | none => q.remove name

namespace Workspace

variable {l : Workspace} {r : RequestRef}

theorem request_wrote_all (hr : r.id < l.requests.length) (name : String) (value : Option Value) :
    (l.wrote r name .all value).request r.id =
      ((l.request r.id).assign name value).markChanged name := by
  rw [wrote, if_pos (show Scope.all.request = true from rfl)]
  cases value <;> simp [keep, Request.assign, hr, request_editRequest]

end Workspace

namespace Desk

variable {d : Desk} {r : RequestRef} {tickets : List (Hold × Bool)} {draft : Option DraftId}
  {shelf : Shelf} {q : Request}

/-- What a thread has: its tickets, the draft of the cart that it has open, if it has one, what is
stored for its session, and what its request is. -/
structure Tending (d : Desk) (r : RequestRef) (tickets : List (Hold × Bool))
    (draft : Option DraftId) (shelf : Shelf) (q : Request) (g : Grip) : Prop where
  tickets_eq : g.tickets = tickets
  shelf_eq : g.storage d.cart.store r.session = shelf
  request_eq : g.workspace.request r.id = q
  known : r.id < g.workspace.requests.length
  draft_eq : g.workspace.openDraft? .cart r.session d.cart.name = draft

/-- The routine leads from what is stored and what the request is to a result, what is then, and the
numbers that were dealt out on the way; or it fails, and then `E` holds of what is stored. It has its
tickets again in any case. -/
def Brings {α : Type} (d : Desk) (r : RequestRef) (draft : Option DraftId) (x : Routine α)
    (shelf : Shelf) (q : Request) (P : α → Shelf → Request → List Nat → Prop)
    (E : Shelf → Prop) : Prop :=
  ∀ tickets made g, d.Tending r tickets draft shelf q g →
    (Company.sparing d.cart.store r.session).recorded.wp (fun out p => match out with
      | .ok y => ∃ shelf' q' new, d.Tending r tickets draft shelf' q' p.1 ∧ p.2 = made ++ new ∧
        P y shelf' q' new
      | .error _ => p.1.tickets = tickets ∧ E (p.1.storage d.cart.store r.session)) x (g, made)

namespace Tending

variable {g g' : Grip} (h : d.Tending r tickets draft shelf q g)

include h

theorem drift (hdrift : (Company.sparing d.cart.store r.session).Drift g g') :
    d.Tending r tickets draft shelf q g' := by
  refine ⟨hdrift.tickets_eq.trans h.tickets_eq, hdrift.shelf_eq.trans h.shelf_eq, ?_, ?_, ?_⟩
  all_goals rw [hdrift.workspace_eq]
  exacts [h.request_eq, h.known, h.draft_eq]

theorem put (shelf' : Shelf) :
    d.Tending r tickets draft shelf' q (g.put d.cart.store r.session shelf') :=
  ⟨h.tickets_eq, Storage.put_same, h.request_eq, h.known, h.draft_eq⟩

theorem editRequest (f : Request → Request) :
    d.Tending r tickets draft shelf (f q) (g.work (g.workspace.editRequest r.id f)) := by
  refine ⟨h.tickets_eq, h.shelf_eq, ?_, ?_, h.draft_eq⟩
  · rw [← h.request_eq]
    exact Workspace.request_editRequest h.known f
  · change r.id < (g.workspace.editRequest r.id f).requests.length
    rw [Workspace.length_editRequest]
    exact h.known

theorem record (id : DraftId) (value : Option Value) :
    d.Tending r tickets draft shelf q (g.work (g.workspace.record id value)) :=
  ⟨h.tickets_eq, h.shelf_eq, h.request_eq, h.known,
    (Workspace.openDraft?_congr (g.workspace.outline_record id value) rfl ..).trans h.draft_eq⟩

/-- A session write of the cart, seen from the grip on which it was allowed. -/
theorem wrote {g₁ : Grip} (h₁ : (Company.sparing d.cart.store r.session).Drift g g₁)
    (value : Option Value) :
    d.Tending r tickets draft (shelf.assign d.cart.name value)
      ((q.assign d.cart.name value).markChanged d.cart.name)
      ((g₁.put d.cart.store r.session ((g₁.storage d.cart.store r.session).assign d.cart.name
        value)).work (g.workspace.wrote r d.cart.name .all value)) := by
  have hg₁ := h.drift h₁
  obtain ⟨f, hf⟩ := g.workspace.exists_wrote r d.cart.name .all value
  refine ⟨hg₁.tickets_eq, ?_, ?_, ?_, ?_⟩
  · rw [← hg₁.shelf_eq]
    exact Storage.put_same
  · rw [← h.request_eq]
    exact Workspace.request_wrote_all h.known d.cart.name value
  · change r.id < (g.workspace.wrote r d.cart.name .all value).requests.length
    rw [hf, Workspace.length_editRequest]
    exact h.known
  · change (g.workspace.wrote r d.cart.name .all value).openDraft? .cart r.session d.cart.name = _
    rw [hf]
    exact h.draft_eq

end Tending

namespace Brings

variable {α β : Type} {P : α → Shelf → Request → List Nat → Prop}
  {R : β → Shelf → Request → List Nat → Prop} {E F : Shelf → Prop}

/-- What deals out no number is ruled by the logic without a record. -/
theorem of_countless {x : Routine α} (hx : x.Countless) (h : ∀ tickets g,
      d.Tending r tickets draft shelf q g →
      (Company.sparing d.cart.store r.session).logic.wp (fun out g' => match out with
        | .ok y => ∃ shelf' q', d.Tending r tickets draft shelf' q' g' ∧ P y shelf' q' []
        | .error _ => g'.tickets = tickets ∧ E (g'.storage d.cart.store r.session)) x g) :
    d.Brings r draft x shelf q P E := by
  intro tickets made g hg
  refine Logic.wp_mono (fun out p hout => ?_) (Company.recorded_of_countless hx (h tickets g hg))
  obtain ⟨hmade, hout⟩ := hout
  cases out with
  | error e => exact hout
  | ok y =>
    obtain ⟨shelf', q', hg', hP⟩ := hout
    exact ⟨shelf', q', [], hg', by rw [hmade, List.append_nil], hP⟩

theorem done {y : α} (h : P y shelf q []) : d.Brings r draft (.done y) shelf q P E :=
  of_countless trivial fun _ _ hg => ⟨shelf, q, hg, h⟩

theorem mono {P' : α → Shelf → Request → List Nat → Prop} {x : Routine α}
    (hx : d.Brings r draft x shelf q P E)
    (hP : ∀ y shelf' q' new, P y shelf' q' new → P' y shelf' q' new) (hE : ∀ s, E s → F s) :
    d.Brings r draft x shelf q P' F := by
  intro tickets made g hg
  refine Logic.wp_mono (fun out p hout => ?_) (hx tickets made g hg)
  cases out with
  | error e => exact ⟨hout.1, hE _ hout.2⟩
  | ok y =>
    obtain ⟨shelf', q', new, hg', hnew, hy⟩ := hout
    exact ⟨shelf', q', new, hg', hnew, hP y shelf' q' new hy⟩

theorem bind {x : Routine α} {f : α → Routine β} (hx : d.Brings r draft x shelf q P E)
    (hE : ∀ s, E s → F s)
    (hf : ∀ y shelf' q' new, P y shelf' q' new →
      d.Brings r draft (f y) shelf' q' (fun z s q later => R z s q (new ++ later)) F) :
    d.Brings r draft (x >>= f) shelf q R F := by
  intro tickets made g hg
  rw [Logic.wp_bind]
  refine Logic.wp_mono (fun out p hout => ?_) (hx tickets made g hg)
  cases out with
  | error e => exact ⟨hout.1, hE _ hout.2⟩
  | ok y =>
    obtain ⟨g₁, made₁⟩ := p
    obtain ⟨shelf', q', new, hg₁, rfl, hP⟩ := hout
    refine Logic.wp_mono (fun out p hout => ?_) (hf y shelf' q' new hP tickets _ g₁ hg₁)
    cases out with
    | error e => exact hout
    | ok z =>
      obtain ⟨shelf'', q'', later, hg₂, hlater, hR⟩ := hout
      exact ⟨shelf'', q'', new ++ later, hg₂, by rw [hlater, List.append_assoc], hR⟩

/-- Under one more level of the lock the same is stored, and the level is given back. -/
theorem locked {x : Routine α} (hx : d.Brings r draft x shelf q P E) (hE : E shelf) :
    d.Brings r draft (d.locked r x) shelf q P E := by
  intro tickets made g hg
  change (Company.sparing d.cart.store r.session).recorded.wp _
    (Hold.acquire d.cart.table d.cart.settings.lockTimeout r.session >>= fun hold =>
      Routine.ensuring hold.drop x) (g, made)
  rw [Logic.wp_bind]
  refine Company.recorded_acquire (fun _ g₁ h₁ => ?_) fun hold g₁ h₁ hfresh => ?_
  · have hg₁ := hg.drift h₁
    exact ⟨hg₁.tickets_eq, by rw [hg₁.shelf_eq]; exact hE⟩
  have hg₁ := hg.drift h₁
  have htaken : d.Tending r (tickets ++ [(hold, true)]) draft shelf q (g₁.take hold) :=
    ⟨by rw [Grip.take, hg₁.tickets_eq], hg₁.shelf_eq, hg₁.request_eq, hg₁.known, hg₁.draft_eq⟩
  -- the level is the last of the tickets
  have hleave : ∀ g₂ : Grip, g₂.tickets = tickets ++ [(hold, true)] →
      (hold, true) ∈ g₂.tickets ∧ (g₂.leave hold).tickets = tickets := by
    intro g₂ h₂
    rw [hg₁.tickets_eq] at hfresh
    refine ⟨h₂ ▸ List.mem_append_right _ (List.mem_singleton_self _), ?_⟩
    rw [Grip.leave, h₂, List.filter_append, List.filter_eq_self.mpr (by simpa using hfresh)]
    simp
  dsimp only
  rw [Logic.wp_ensuring]
  refine Logic.wp_mono (fun out p hout => ?_) (hx _ _ _ htaken)
  obtain ⟨g₂, made₂⟩ := p
  cases out with
  | error e =>
    refine Company.recorded_drop (hleave g₂ hout.1).1 fun g₃ h₃ => ?_
    refine ⟨(hleave g₃ (h₃.tickets_eq.trans hout.1)).2, ?_⟩
    have hsame : (g₃.leave hold).storage d.cart.store r.session = _ := h₃.shelf_eq
    rw [hsame]
    exact hout.2
  | ok y =>
    obtain ⟨shelf', q', new, hg₂, hnew, hP⟩ := hout
    refine Company.recorded_drop (hleave g₂ hg₂.tickets_eq).1 fun g₃ h₃ =>
      ⟨shelf', q', new, ?_, hnew, hP⟩
    have hg₃ := hg₂.drift h₃
    exact ⟨(hleave g₃ hg₃.tickets_eq).2, hg₃.shelf_eq, hg₃.request_eq, hg₃.known, hg₃.draft_eq⟩

/-! ### Single steps -/

theorem unchanged {g g₁ : Grip} (hg : d.Tending r tickets draft shelf q g)
    (h₁ : (Company.sparing d.cart.store r.session).Drift g g₁) :
    g₁.tickets = tickets ∧ g₁.storage d.cart.store r.session = shelf :=
  ⟨(hg.drift h₁).tickets_eq, (hg.drift h₁).shelf_eq⟩

theorem find (k : Kind) (name : String) : d.Brings r draft (d.find r k name) shelf q
    (fun found shelf' q' new => shelf' = shelf ∧ q' = q ∧ new = [] ∧
      shelf.value name = found.map (Value.of k)) (· = shelf) := by
  refine of_countless ((Routine.Countless.getStored ..).bind fun found => ?_) fun tickets g hg => ?_
  · cases found with
    | none => trivial
    | some v =>
      dsimp only
      split <;> trivial
  · rw [Desk.find, Logic.wp_bind]
    refine Company.wp_getStored (fun _ g₁ h₁ => unchanged hg h₁) fun g₁ g₂ h₁ h₂ => ?_
    have hg₂ := (hg.drift h₁).drift h₂
    rw [(hg.drift h₁).shelf_eq]
    dsimp only
    cases hvalue : shelf.value name with
    | none => exact ⟨shelf, q, hg₂, rfl, rfl, rfl, rfl⟩
    | some v =>
      dsimp only
      cases hv : v.as? k with
      | none => exact ⟨hg₂.tickets_eq, hg₂.shelf_eq⟩
      | some y =>
        refine ⟨shelf, q, hg₂, rfl, rfl, rfl, ?_⟩
        rw [Value.as?_eq_some_iff.mp hv]
        rfl

theorem put (name : String) (value : Value) : d.Brings r draft (d.put r name value) shelf q
    (fun _ shelf' q' new => shelf' = shelf.set name value ∧ q' = q ∧ new = []) (· = shelf) := by
  refine of_countless (.setStored ..) fun tickets g hg => ?_
  refine Company.wp_setStored (fun _ g₁ h₁ => unchanged hg h₁) fun g₁ h₁ => ?_
  have hg₁ := hg.drift h₁
  refine ⟨_, q, hg₁.put _, ?_, rfl, rfl⟩
  rw [hg₁.shelf_eq]

theorem cache (name : String) (value : Value) : d.Brings r draft (Routine.cache r name value) shelf q
    (fun _ shelf' q' new => shelf' = shelf ∧ q' = q.set name value ∧ new = []) (· = shelf) :=
  of_countless ⟨not_false, fun _ => trivial⟩ fun _ _ hg =>
    ⟨shelf, _, hg.editRequest (·.set name value), rfl, rfl, rfl⟩

/-- The cart is written, or removed, in both places, whether through an open section or not. -/
theorem write (value : Option Cart) : d.Brings r draft (d.cart.write r value .all) shelf q
    (fun _ shelf' q' new => shelf' = shelf.assign d.cart.name (value.map .cart) ∧
      q' = (q.assign d.cart.name (value.map .cart)).markChanged d.cart.name ∧ new = [])
    (· = shelf) := by
  refine of_countless (.write ..) fun tickets g hg => ?_
  rw [Attribute.write, if_pos (show Scope.all.session = true from rfl), Logic.wp_bind]
  refine Company.wp_openDraft ?_
  rw [hg.draft_eq]
  cases draft with
  | none =>
    refine Company.wp_writeDirectly rfl (fun _ g₁ h₁ => unchanged hg h₁) fun g₁ h₁ => ?_
    exact ⟨_, _, hg.wrote h₁ (value.map (.of .cart)), rfl, rfl, rfl⟩
  | some id =>
    refine Company.wp_commit (fun _ => unchanged hg (.refl _ g)) (fun _ _ g₁ h₁ => unchanged hg h₁)
      fun _ g₁ h₁ => ?_
    exact ⟨_, _, (hg.wrote h₁ (value.map (.of .cart))).record id _, rfl, rfl, rfl⟩

theorem create : d.Brings r draft (d.cart.create r) shelf q (fun c shelf' q' new =>
    shelf' = shelf ∧ q' = q ∧ ∃ n, new = [n] ∧ d.cart.make n q = .ok c) (· = shelf) := by
  intro tickets made g hg
  refine Company.recorded_create fun n g₁ h₁ => ?_
  have hg₁ := hg.drift h₁
  rw [hg.request_eq]
  cases hmake : d.cart.make n q with
  | error p => exact ⟨hg₁.tickets_eq, hg₁.shelf_eq⟩
  | ok c => exact ⟨shelf, q, [n], hg₁, rfl, rfl, rfl, n, rfl, hmake⟩

theorem stored (hnone : shelf.value d.cart.name = none) : d.Brings r draft (d.cart.stored r) shelf q
    (fun found shelf' q' new => shelf' = shelf ∧ q' = q ∧ new = [] ∧ found = none)
    (· = shelf) := by
  refine of_countless (.stored ..) fun tickets g hg => ?_
  refine Company.wp_stored (fun _ g₁ h₁ => unchanged hg h₁) fun g₁ g₂ h₁ h₂ => ?_
  rw [Grip.stored, (hg.drift h₁).shelf_eq, hnone]
  exact ⟨shelf, q, (hg.drift h₁).drift h₂, rfl, rfl, rfl, rfl⟩

theorem cached : d.Brings r draft (d.cart.cached r) shelf q
    (fun found shelf' q' new => shelf' = shelf ∧ q' = q ∧ new = [] ∧
      q.get? d.cart.name = found.map .cart) (· = shelf) := by
  refine of_countless (.cached ..) fun tickets g hg => Company.wp_cached ?_
  rw [hg.request_eq]
  cases hdecode : Kind.decode (k := .cart) r.session d.cart.name (q.get? d.cart.name) with
  | error e => exact unchanged hg (.refl _ g)
  | ok found =>
    refine ⟨shelf, q, hg, rfl, rfl, rfl, ?_⟩
    cases found with
    | none => exact Kind.decode_eq_none hdecode
    | some c => exact Kind.decode_eq_some hdecode

/-- Where no cart is stored, the current cart is the one that the request has cached or, if it has
none, a new one, which is stored and cached then. -/
theorem currentCart (hstored : shelf.value d.cart.name = none) :
    d.Brings r draft (d.currentCart r) shelf q (fun c shelf' q' new =>
      q.get? d.cart.name = some (.cart c) ∧ shelf' = shelf ∧ q' = q ∧ new = [] ∨
      q.get? d.cart.name = none ∧ shelf' = shelf.set d.cart.name (.cart c) ∧
        q' = (q.set d.cart.name (.cart c)).markChanged d.cart.name ∧
        ∃ n, new = [n] ∧ d.cart.make n q = .ok c) (· = shelf) := by
  rw [Desk.currentCart, Attribute.current, Attribute.read_eq]
  have hmade : d.Brings r draft (d.locked r (d.cart.supply r .all)) shelf q (fun p shelf' q' new =>
      (shelf' = shelf.set d.cart.name (.cart p.1) ∧
        q' = (q.set d.cart.name (.cart p.1)).markChanged d.cart.name ∧
        ∃ n, new = [n] ∧ d.cart.make n q = .ok p.1) ∧ p.2 = true) (· = shelf) := by
    refine locked ((stored hstored).bind (fun _ h => h) ?_) rfl
    rintro _ _ _ _ ⟨rfl, rfl, rfl, rfl⟩
    refine create.bind (fun _ h => h) ?_
    rintro c _ _ _ ⟨rfl, rfl, n, rfl, hmake⟩
    refine (write (some c)).bind (fun _ h => h) ?_
    rintro _ _ _ _ ⟨rfl, rfl, rfl⟩
    exact done ⟨⟨rfl, rfl, n, rfl, hmake⟩, rfl⟩
  refine (cached.bind (fun _ h => h) ?_ : d.Brings r draft _ shelf q
    (fun found shelf' q' new => ∃ c, found = some c ∧
      (q.get? d.cart.name = some (.cart c) ∧ shelf' = shelf ∧ q' = q ∧ new = [] ∨
      q.get? d.cart.name = none ∧ shelf' = shelf.set d.cart.name (.cart c) ∧
        q' = (q.set d.cart.name (.cart c)).markChanged d.cart.name ∧
        ∃ n, new = [n] ∧ d.cart.make n q = .ok c)) (· = shelf)).bind (fun _ h => h) ?_
  · rintro found _ _ _ ⟨rfl, rfl, rfl, hcached⟩
    cases found with
    | some c => exact done ⟨c, rfl, .inl ⟨hcached, rfl, rfl, rfl⟩⟩
    | none =>
      refine (stored hstored).bind (fun _ h => h) ?_
      rintro _ _ _ _ ⟨rfl, rfl, rfl, rfl⟩
      rw [Attribute.settle, if_pos rfl, Attribute.createOnce_eq]
      refine hmade.bind (fun _ h => h) ?_
      rintro ⟨c, isNew⟩ _ _ _ ⟨⟨rfl, rfl, hmake⟩, rfl⟩
      exact done ⟨c, rfl, .inr ⟨hcached, rfl, rfl, by simpa using hmake⟩⟩
  · rintro _ _ _ _ ⟨c, rfl, hc⟩
    exact done (by simpa using hc)

/-! ### What has come of a routine -/

section Courses

variable {x : Routine α} {i : ThreadId} {others : World → World → Prop} {w w' : World}
  {l l' : Workspace} {events : List Event}
  (hx : ∀ {draft}, d.Brings r draft x (w.storage d.cart.store r.session) (l.request r.id) P E)
  (hw : Calm w) (hknown : r.id < l.requests.length)
  (hspared : ∀ w w', others w w' → w.Sparing d.cart.store r.session i w')

include hx hw hknown hspared

/-- What a routine brings is so when it has ended well. -/
theorem sound {y : α} (hcourse : x.Course i others w l events (.done y) w' l') :
    Calm w' ∧ ∃ q, P y (w'.storage d.cart.store r.session) q (Event.dealt events) := by
  have hfits := Grip.fits_of (C := .sparing d.cart.store r.session) (i := i) hw.sound
    (fun _ => hw.calm) l
  obtain ⟨g, hfits', _, shelf', q', new, hg, hnew, hP⟩ := Company.recorded_course
    (Company.bounds_sparing hspared) hcourse hfits rfl (hx _ [] _ ⟨rfl, rfl, rfl, hknown, rfl⟩)
  refine ⟨⟨hfits'.sound, hfits'.calm trivial⟩, q', ?_⟩
  obtain rfl : Event.dealt events = new := hnew
  rw [← hfits'.storage_eq, hg.shelf_eq]
  exact hP

/-- What a routine leaves is so when it has failed. -/
theorem sound_fail {f : Failure} (hcourse : x.Course i others w l events (.fail f) w' l') :
    E (w'.storage d.cart.store r.session) := by
  have hfits := Grip.fits_of (C := .sparing d.cart.store r.session) (i := i) hw.sound
    (fun _ => hw.calm) l
  obtain ⟨g, hfits', _, _, hE⟩ := Company.recorded_course (Company.bounds_sparing hspared) hcourse
    hfits rfl (hx _ [] _ ⟨rfl, rfl, rfl, hknown, rfl⟩)
  rw [← hfits'.storage_eq]
  exact hE

end Courses

end Brings

end Desk

end SessionCart
