import SessionCart.Proofs.Desk.Retreat

/-!
# What a request finds at the desk

While others leave a session alone, a request finds at the desk what is stored for the session, what
it has cached, and the draft of the cart if the thread has one open. All that the desk does for it
is a function of this, but for the numbers of the carts that are made: each operation leads from one
state of the counter to the next, and a handler along the states of its operations.
-/

namespace SessionCart

/-- The draft of the cart that a thread has open. -/
structure Drafting where
  id : DraftId
  /-- The working value. -/
  value : Option Cart
  /-- Something was committed in it, or it was discarded. -/
  settled : Bool

structure Counter where
  shelf : Shelf
  request : Request
  drafting : Option Drafting := none
  /-- The numbers dealt out to the thread. -/
  made : List Nat := []
  /-- The thread has asked for a change of what is stored. -/
  wrote : Bool := false

namespace Counter

variable (c : Counter) (name : String)

/-- A value is stored, or one is removed. -/
def keep (value : Option Value) : Counter :=
  { c with shelf := c.shelf.assign name value, wrote := true }

/-- All that is stored for the session is gone. -/
def wipe : Counter := { c with shelf := .empty, wrote := true }

/-- A value is cached, or one is dropped. -/
def cache (value : Option Value) : Counter := { c with request := c.request.assign name value }

def mark : Counter := { c with request := c.request.markChanged name }

/-- The open draft has got a working value, or none, by a commit. -/
def record (value : Option Cart) : Counter :=
  { c with drafting := c.drafting.map fun p => { p with value := value, settled := true } }

/-- A cart is written to both places, and to the draft that is open. -/
def write (value : Option Cart) : Counter :=
  (((c.keep name (value.map .cart)).cache name (value.map .cart)).mark name).record value

/-- A cart that was found is cached, unless something is. -/
def fill (found : Cart) : Counter :=
  if (c.request.get? name).isNone then c.cache name (some (.cart found)) else c

def discard : Counter :=
  { c with drafting := c.drafting.map fun p => { p with settled := true } }

def deal (n : Nat) : Counter := { c with made := c.made ++ [n] }

/-- What a request finds, the draft put aside. -/
def bare : Counter := { c with drafting := none }

variable {c name}

@[simp]
theorem value_write (value : Option Cart) (other : String) :
    (c.write name value).shelf.value other =
      if name = other then value.map .cart else c.shelf.value other := Shelf.value_assign ..

@[simp]
theorem get?_write (value : Option Cart) (other : String) :
    (c.write name value).request.get? other =
      if name = other then value.map .cart else c.request.get? other := by
  refine (Request.get?_markChanged ..).trans ?_
  cases value with
  | none => exact Request.get?_remove ..
  | some y => exact Request.get?_set ..

theorem of_bare {c' : Counter} (h : c'.bare = c.bare) :
    c'.shelf = c.shelf ∧ c'.request = c.request ∧ c'.made = c.made ∧ c'.wrote = c.wrote := by
  simpa [bare] using h

theorem bare_write (value : Option Cart) :
    (c.write name value).bare = c.bare.write name value :=
  rfl

theorem bare_of_none (h : c.drafting = none) : c.bare = c := by
  rw [bare, ← h]

theorem write_of_none (h : c.drafting = none) (value : Option Cart) :
    c.write name value =
      ((c.keep name (value.map .cart)).cache name (value.map .cart)).mark name := by
  simp [write, record, mark, cache, keep, h]

theorem drafting_write (value : Option Cart) : (c.write name value).drafting =
    c.drafting.map fun p => { p with value := value, settled := true } :=
  rfl

theorem isChanged_write (value : Option Cart) :
    (c.write name value).request.isChanged name = true := by
  refine (Request.isChanged_markChanged ..).trans ?_
  simp

@[simp]
theorem shelf_fill (y : Cart) : (c.fill name y).shelf = c.shelf := by
  unfold fill
  split <;> rfl

@[simp]
theorem made_fill (y : Cart) : (c.fill name y).made = c.made := by
  unfold fill
  split <;> rfl

@[simp]
theorem wrote_fill (y : Cart) : (c.fill name y).wrote = c.wrote := by
  unfold fill
  split <;> rfl

@[simp]
theorem drafting_fill (y : Cart) : (c.fill name y).drafting = c.drafting := by
  unfold fill
  split <;> rfl

@[simp]
theorem isChanged_fill (y : Cart) (other : String) :
    (c.fill name y).request.isChanged other = c.request.isChanged other := by
  unfold fill
  split <;> rfl

theorem fill_of_some {value : Value} (h : c.request.get? name = some value) (y : Cart) :
    c.fill name y = c := by
  rw [fill, h]
  exact if_neg (by simp)

/-- After a cart was put into the cache where there was none, what else is cached is the same. -/
theorem fill_of_none (h : c.request.get? name = none) (y : Cart) :
    c.fill name y = c.cache name (some (.cart y)) := by
  rw [fill, h]
  exact if_pos rfl

end Counter

/-- The workspace has this draft of an attribute open, or none. -/
def Workspace.Drafts (l : Workspace) (session : SessionId) (name : String) :
    Option Drafting → Prop
  | none => l.openDraft? .cart session name = none
  | some p => l.openDraft? .cart session name = some p.id ∧ ∃ e, l.drafts[p.id]? = some e ∧
    e.current = p.value.map .cart ∧ e.closed = false ∧ p.settled = (e.committed || e.discarded)

theorem Workspace.exists_drafts {l : Workspace} {session : SessionId} {name : String}
    {R : Option Cart → Prop} (h : ∀ id, l.openDraft? .cart session name = some id →
      ∃ e value, l.drafts[id]? = some e ∧ e.current = value.map .cart ∧ e.closed = false ∧
        R value) :
    ∃ q, l.Drafts session name q ∧ ∀ p, q = some p → R p.value := by
  cases hopen : l.openDraft? .cart session name with
  | none => exact ⟨none, hopen, fun _ hp => nomatch hp⟩
  | some id =>
    obtain ⟨e, value, he, hcurrent, hclosed, hvalue⟩ := h id hopen
    refine ⟨some ⟨id, value, e.committed || e.discarded⟩, ⟨hopen, e, he, hcurrent, hclosed, rfl⟩,
      ?_⟩
    rintro _ ⟨rfl⟩
    exact hvalue

theorem Workspace.Drafts.exists_draft {l : Workspace} {session : SessionId} {name : String}
    {q : Option Drafting} (h : l.Drafts session name q) {id : DraftId}
    (hid : l.openDraft? .cart session name = some id) : ∃ p e, q = some p ∧ l.drafts[id]? = some e ∧
      e.current = p.value.map .cart ∧ e.closed = false := by
  cases q with
  | none => cases hid.symm.trans h
  | some p =>
    obtain ⟨hopen, e, he, hcurrent, hclosed, _⟩ := h
    obtain rfl := Option.some.inj (hopen.symm.trans hid)
    exact ⟨p, e, rfl, he, hcurrent, hclosed⟩

namespace Desk

variable {d : Desk} {r : RequestRef} {refuses : Prop} {c c' : Counter} {v : Stay}

/-- The session of a request in the desk's store. -/
def retreat (d : Desk) (r : RequestRef) (refuses : Prop) : Retreat :=
  ⟨d.cart.store, r.session, refuses⟩

/-- The counter shows what the thread knows. -/
structure Shows (d : Desk) (r : RequestRef) (c : Counter) (v : Stay) : Prop where
  shelf_eq : v.shelf = c.shelf
  made_eq : v.made = c.made
  wrote_eq : v.wrote = c.wrote
  request_eq : v.workspace.request r.id = c.request
  known : r.id < v.workspace.requests.length
  drafts : v.workspace.Drafts r.session d.cart.name c.drafting

/-- The routine leads from a state of the counter to a result and another state, and has the tickets
again that it had. It fails only where it may be refused. -/
def Reaches {α : Type} (d : Desk) (r : RequestRef) (refuses : Prop) (y : Routine α) (c : Counter)
    (P : α → Counter → Prop) : Prop :=
  ∀ v, d.Shows r c v → (d.retreat r refuses).logic.wp (fun out v' => match out with
    | .ok a => v'.tickets = v.tickets ∧ ∃ c', d.Shows r c' v' ∧ P a c'
    | .error _ => refuses ∧ v.tickets ⊆ v'.tickets) y v

/-- The routine has one result and leads to one state. -/
def Returns {α : Type} (d : Desk) (r : RequestRef) (refuses : Prop) (y : Routine α) (c : Counter)
    (a : α) (c' : Counter) : Prop :=
  d.Reaches r refuses y c fun a' c'' => a' = a ∧ c'' = c'

namespace Shows

variable (h : d.Shows r c v)

include h

/-- The locks that the thread has are not on the counter. -/
theorem hold (tickets : List (Hold × Bool)) : d.Shows r c { v with tickets := tickets } :=
  ⟨h.shelf_eq, h.made_eq, h.wrote_eq, h.request_eq, h.known, h.drafts⟩

theorem editRequest (f : Request → Request) :
    d.Shows r { c with request := f c.request } (v.work (v.workspace.editRequest r.id f)) := by
  refine ⟨h.shelf_eq, h.made_eq, h.wrote_eq, ?_, ?_, h.drafts⟩
  · rw [← h.request_eq]
    exact Workspace.request_editRequest h.known f
  · change r.id < (v.workspace.editRequest r.id f).requests.length
    rw [Workspace.length_editRequest]
    exact h.known

theorem editDraft {p : Drafting} (hp : c.drafting = some p) {f : Draft → Draft}
    {value : Option Cart} {settled : Bool} (hkind : ∀ e, (f e).kind = e.kind)
    (hclosed : ∀ e, (f e).closed = e.closed)
    (hvalue : ∀ e, e.current = p.value.map .cart → (f e).current = value.map .cart)
    (hsettled : ∀ e, p.settled = (e.committed || e.discarded) →
      settled = ((f e).committed || (f e).discarded)) :
    d.Shows r { c with drafting := some { p with value := value, settled := settled } }
      (v.work (v.workspace.editDraft p.id f)) := by
  obtain ⟨hshelf, hmade, hwrote, hrequest, hknown, hdrafts⟩ := h
  rw [hp] at hdrafts
  obtain ⟨hopen, e, he, hcurrent, hopened, hsettle⟩ := hdrafts
  refine ⟨hshelf, hmade, hwrote, hrequest, hknown, ?_, f e, Workspace.getElem?_editDraft he f,
    hvalue e hcurrent, (hclosed e).trans hopened, hsettled e hsettle⟩
  have houtline : (v.workspace.editDraft p.id f).outline = v.workspace.outline :=
    Workspace.map_editDraft _ _ _ fun e => by rw [hkind, hclosed]
  exact (Workspace.openDraft?_congr houtline rfl ..).trans hopen

theorem opened (y : Cart) :
    d.Shows r { c with drafting := some ⟨v.workspace.drafts.length, some y, false⟩ }
      (v.work (v.workspace.opened .cart r d.cart.name (.cart y))) := by
  have hdraft :
      (v.workspace.opened .cart r d.cart.name (.cart y)).drafts[v.workspace.drafts.length]? =
        some { kind := .cart, current := some (.cart y) } := by
    simp [Workspace.opened]
  refine ⟨h.shelf_eq, h.made_eq, h.wrote_eq, h.request_eq, h.known, ?_, _, hdraft, rfl, rfl, rfl⟩
  simp [Stay.work, Workspace.openDraft?, Workspace.draft_eq hdraft]
  simp [Workspace.opened]

end Shows

/-! ### Routines made of routines -/

namespace Reaches

variable {α β : Type} {y : Routine α} {P P' : α → Counter → Prop} {R : β → Counter → Prop}

theorem done {a : α} (h : P a c) : d.Reaches r refuses (.done a) c P :=
  fun _ hv => ⟨rfl, c, hv, h⟩

theorem fail {f : Failure} (h : refuses) : d.Reaches r refuses (.fail f) c P :=
  fun _ _ => ⟨h, List.Subset.refl _⟩

theorem mono (h : d.Reaches r refuses y c P) (hP : ∀ a c', P a c' → P' a c') :
    d.Reaches r refuses y c P' := by
  refine fun v hv => Logic.wp_mono (fun out v' hout => ?_) (h v hv)
  cases out with
  | error f => exact hout
  | ok a =>
    obtain ⟨htickets, c', hc', ha⟩ := hout
    exact ⟨htickets, c', hc', hP a c' ha⟩

theorem bind {k : α → Routine β} (h : d.Reaches r refuses y c P)
    (hk : ∀ a c', P a c' → d.Reaches r refuses (k a) c' R) :
    d.Reaches r refuses (y >>= k) c R := by
  intro v hv
  rw [Logic.wp_bind]
  refine Logic.wp_mono (fun out v' hout => ?_) (h v hv)
  cases out with
  | error f => exact hout
  | ok a =>
    obtain ⟨htickets, c', hc', ha⟩ := hout
    have hnext := hk a c' ha v' hc'
    rw [htickets] at hnext
    exact hnext

end Reaches

namespace Returns

variable {α β : Type} {y : Routine α} {a : α} {R : β → Counter → Prop}

theorem done (a : α) (c : Counter) : d.Returns r refuses (.done a) c a c := Reaches.done ⟨rfl, rfl⟩

/-- A routine with one result, and another one after it. -/
theorem andThen {k : α → Routine β} (h : d.Returns r refuses y c a c')
    (hk : d.Reaches r refuses (k a) c' R) : d.Reaches r refuses (y >>= k) c R := by
  refine h.bind ?_
  rintro _ _ ⟨rfl, rfl⟩
  exact hk

/-! ### Single actions -/

theorem own {a : Workspace.Action} {reply : a.Reply}
    (h : ∀ v, d.Shows r c v → d.Shows r c' (v.work (v.workspace.perform a).2) ∧
      (v.workspace.perform a).1 = reply) :
    d.Returns r refuses (Routine.own a) c reply c' :=
  fun v hv => ⟨rfl, c', (h v hv).1, (h v hv).2, rfl⟩

theorem getStored (name : String) :
    d.Returns r refuses (Routine.getStored d.cart.store r.session name) c (c.shelf.value name)
      c := by
  refine fun v hv => ⟨rfl, rfl, fun hr _ => ⟨hr, List.Subset.refl _⟩, rfl, c, hv, ?_, rfl⟩
  rw [hv.shelf_eq]

theorem setStored (name : String) (value : Value) :
    d.Returns r refuses (Routine.setStored d.cart.store r.session name value) c ()
      (c.keep name (some value)) := by
  refine fun v hv => ⟨rfl, rfl, fun hr _ => ⟨hr, List.Subset.refl _⟩, rfl, _, ?_, rfl, rfl⟩
  refine ⟨?_, hv.made_eq, rfl, hv.request_eq, hv.known, hv.drafts⟩
  rw [hv.shelf_eq]
  rfl

theorem removeStored (name : String) :
    d.Returns r refuses (Routine.removeStored d.cart.store r.session name) c (c.shelf.value name)
      (c.keep name none) := by
  refine fun v hv => ⟨rfl, rfl, fun hr _ => ⟨hr, List.Subset.refl _⟩, rfl, _, ?_, ?_, rfl⟩
  · refine ⟨?_, hv.made_eq, rfl, hv.request_eq, hv.known, hv.drafts⟩
    rw [hv.shelf_eq]
    rfl
  · rw [hv.shelf_eq]

theorem invalidate :
    d.Returns r refuses (Routine.invalidate d.cart.store r.session) c () c.wipe :=
  fun _ hv => ⟨rfl, rfl, fun hr _ => ⟨hr, List.Subset.refl _⟩, rfl, c.wipe,
    ⟨rfl, hv.made_eq, rfl, hv.request_eq, hv.known, hv.drafts⟩, rfl, rfl⟩

theorem request : d.Returns r refuses (Routine.request r) c c.request c :=
  own fun _ hv => ⟨hv, hv.request_eq⟩

theorem cacheValue (name : String) (value : Value) :
    d.Returns r refuses (Routine.cache r name value) c () (c.cache name (some value)) :=
  own fun _ hv => ⟨hv.editRequest (·.set name value), rfl⟩

theorem uncache (name : String) :
    d.Returns r refuses (Routine.uncache r name) c () (c.cache name none) :=
  own fun _ hv => ⟨hv.editRequest (·.remove name), rfl⟩

theorem mark (name : String) : d.Returns r refuses (Routine.mark r name) c () (c.mark name) :=
  own fun _ hv => ⟨hv.editRequest (·.markChanged name), rfl⟩

theorem openDraft : d.Returns r refuses (Routine.openDraft .cart r.session d.cart.name) c
    (c.drafting.map (·.id)) c := by
  refine own fun v hv => ⟨hv, ?_⟩
  have hdrafts := hv.drafts
  change v.workspace.openDraft? .cart r.session d.cart.name = _
  cases hp : c.drafting with
  | none =>
    rw [hp] at hdrafts
    exact hdrafts
  | some p =>
    rw [hp] at hdrafts
    exact hdrafts.1

/-! ### The open draft -/

section Draft

variable {p : Drafting} (hp : c.drafting = some p)

include hp

theorem handOut : d.Returns r refuses (Routine.handOut p.id) c () c := by
  refine own fun v hv => ⟨?_, rfl⟩
  have hshows := hv.editDraft hp (f := fun e => { e with copies := e.copies + 1 })
    (fun _ => rfl) (fun _ => rfl) (fun _ h => h) fun _ h => h
  have hsame : { c with drafting := some { p with } } = c := by
    rw [← hp]
  rw [← hsame]
  exact hshows

theorem recordValue (value : Option Cart) :
    d.Returns r refuses (Routine.record p.id (value.map .cart)) c () (c.record value) := by
  refine own fun v hv => ⟨?_, rfl⟩
  rw [Counter.record, hp]
  exact hv.editDraft hp (fun _ => rfl) (fun _ => rfl) (fun _ _ => rfl) fun _ _ => rfl

theorem discardDraft : d.Returns r refuses (Routine.discard p.id) c () c.discard := by
  refine own fun v hv => ⟨?_, rfl⟩
  rw [Counter.discard, hp]
  exact hv.editDraft hp (fun _ => rfl) (fun _ => rfl) (fun _ h => h)
    fun _ _ => (Bool.or_true _).symm

end Draft

end Returns

theorem Reaches.draft {p : Drafting} (hp : c.drafting = some p) :
    d.Reaches r refuses (Routine.draft p.id) c fun e c' => c' = c ∧
      e.current = p.value.map .cart ∧ e.closed = false ∧
      p.settled = (e.committed || e.discarded) := by
  intro v hv
  have hdrafts := hv.drafts
  rw [hp] at hdrafts
  obtain ⟨_, e, he, hcurrent, hclosed, hsettled⟩ := hdrafts
  have hdraft : (v.workspace.perform (.draft p.id)).1 = e := Workspace.draft_eq he
  rw [← hdraft] at hcurrent hclosed hsettled
  exact ⟨rfl, c, hv, rfl, hcurrent, hclosed, hsettled⟩

/-! ### The attribute of the cart -/

namespace Returns

theorem find {k : Kind} {name : String} {found : Option k.Data}
    (h : c.shelf.value name = found.map (Value.of k)) :
    d.Returns r refuses (d.find r k name) c found c := by
  refine (getStored name).andThen ?_
  rw [h]
  cases found with
  | none => exact done none c
  | some y =>
    dsimp only [Option.map_some]
    rw [Value.as?_of]
    exact done (some y) c

theorem put (name : String) (value : Value) :
    d.Returns r refuses (d.put r name value) c () (c.keep name (some value)) := setStored name value

theorem typed (found : Option Cart) :
    d.Returns r refuses (d.cart.typed r (found.map .cart)) c found c := by
  cases found <;> exact done _ c

theorem cached {found : Option Cart} (h : c.request.get? d.cart.name = found.map .cart) :
    d.Returns r refuses (d.cart.cached r) c found c := by
  refine request.andThen ?_
  rw [h]
  exact typed found

theorem stored {found : Option Cart} (h : c.shelf.value d.cart.name = found.map .cart) :
    d.Returns r refuses (d.cart.stored r) c found c := by
  refine (getStored d.cart.name).andThen ?_
  rw [h]
  exact typed found

theorem cache (value : Option Cart) : d.Returns r refuses (d.cart.cache r value) c ()
    (c.cache d.cart.name (value.map .cart)) := by
  cases value with
  | some y => exact cacheValue d.cart.name (.cart y)
  | none => exact uncache d.cart.name

theorem keep (value : Option Cart) : d.Returns r refuses (d.cart.keep r value) c ()
    (c.keep d.cart.name (value.map .cart)) := by
  cases value with
  | some y => exact setStored d.cart.name (.cart y)
  | none => exact (removeStored d.cart.name).andThen (done () _)

theorem writeDirectly (value : Option Cart) :
    d.Returns r refuses (d.cart.writeDirectly r value .all) c ()
      (((c.keep d.cart.name (value.map .cart)).cache d.cart.name (value.map .cart)).mark
        d.cart.name) :=
  (keep value).andThen ((cache value).andThen (mark d.cart.name))

theorem commitDraft {p : Drafting} (hp : c.drafting = some p) (value : Option Cart) :
    d.Returns r refuses (d.cart.commit r p.id value) c () (c.write d.cart.name value) := by
  refine (Reaches.draft hp).bind ?_
  rintro e c ⟨rfl, _, hclosed, _⟩
  have hwritten : (((c.keep d.cart.name (value.map .cart)).cache d.cart.name
      (value.map .cart)).mark d.cart.name).drafting = some p := hp
  rw [hclosed, if_neg (by decide)]
  exact (writeDirectly value).andThen (recordValue hwritten value)

theorem write (value : Option Cart) :
    d.Returns r refuses (d.cart.write r value .all) c () (c.write d.cart.name value) := by
  refine openDraft.andThen ?_
  cases hp : c.drafting with
  | some p => exact commitDraft hp value
  | none =>
    rw [Counter.write_of_none hp]
    exact writeDirectly value

theorem remove : d.Returns r refuses (d.cart.remove r .all) c () (c.write d.cart.name none) :=
  write none

theorem forgetCached :
    d.Returns r refuses (d.cart.remove r .requestOnly) c () (c.cache d.cart.name none) :=
  (cache none).andThen (done () _)

end Returns

namespace Reaches

variable {α : Type} {y : Routine α} {P : α → Counter → Prop}

theorem count (label : String) :
    d.Reaches r refuses (Routine.count label) c fun n c' => c' = c.deal n := by
  refine fun v hv n => ⟨rfl, c.deal n, ?_, rfl⟩
  refine ⟨hv.shelf_eq, ?_, hv.wrote_eq, hv.request_eq, hv.known, hv.drafts⟩
  rw [Stay.deal, hv.made_eq]
  rfl

theorem create (hmake : ∀ n q, ∃ y, d.cart.make n q = .ok y) :
    d.Reaches r refuses (d.cart.create r) c fun y c' =>
      ∃ n, d.cart.make n c.request = .ok y ∧ c' = c.deal n := by
  refine (count d.cart.label).bind ?_
  rintro n _ rfl
  refine Returns.request.andThen ?_
  obtain ⟨y, hy⟩ := hmake n c.request
  have hdealt : (c.deal n).request = c.request := rfl
  rw [hdealt, hy]
  exact done ⟨n, hy, rfl⟩

/-- Whatever has come of a request with something else in the place of the cart, it fails. -/
theorem cached_alien (h : refuses)
    (halien : ∀ found : Option Cart, c.request.get? d.cart.name ≠ found.map .cart) :
    d.Reaches r refuses (d.cart.cached r) c fun _ _ => False := by
  refine Returns.request.andThen ?_
  cases hvalue : c.request.get? d.cart.name with
  | none => exact absurd hvalue (halien none)
  | some value =>
    rw [Attribute.typed]
    cases hcart : value.as? .cart with
    | none => exact fail h
    | some y =>
      rw [Value.as?_eq_some_iff.mp hcart] at hvalue
      exact absurd hvalue (halien (some y))

/-- Under one more level of the lock the same comes about. -/
theorem locked (h : d.Reaches r refuses y c P) : d.Reaches r refuses (d.locked r y) c P := by
  intro v hv
  rw [Desk.locked, Logic.wp_bind]
  refine Retreat.wp_acquire (fun hr _ => ⟨hr, List.Subset.refl _⟩) fun key hfresh => ?_
  dsimp only
  rw [Logic.wp_ensuring]
  refine Logic.wp_mono (fun out v' hout => ?_) (h _ (hv.hold _))
  cases out with
  | error f =>
    obtain ⟨hr, hsubset⟩ := hout
    exact Retreat.wp_drop_taken rfl hfresh hsubset fun hkept => ⟨hr, hkept⟩
  | ok a =>
    obtain ⟨htickets, c', hc', ha⟩ := hout
    exact Retreat.wp_drop rfl (htickets ▸ Stay.mem_take)
      ⟨Stay.tickets_leave hfresh htickets, c', hc'.hold _, ha⟩

end Reaches

/-! ### Reading the cart -/

section Reading

variable {cached stored : Option Cart} (hcached : c.request.get? d.cart.name = cached.map .cart)
  (hstored : c.shelf.value d.cart.name = stored.map .cart)

include hcached

theorem Returns.settle {y : Cart} (creating : Bool) :
    d.Returns r refuses (d.cart.settle r creating .all cached (some y)) c (some y)
      (c.fill d.cart.name y) := by
  rw [Counter.fill, hcached]
  cases cached with
  | some y' => exact done (some y) c
  | none => exact (cache (some y)).andThen (done (some y) _)

include hstored

theorem Returns.look (policy : ReadPolicy) :
    d.Returns r refuses (Attribute.look (a := d.cart) r policy cached) c
      (match policy with
        | .requestFirst => cached.or stored
        | .sessionFirst => stored.or cached) c := by
  cases policy with
  | requestFirst =>
    cases cached with
    | some y => exact done (some y) c
    | none => exact Returns.stored hstored
  | sessionFirst => exact (Returns.stored hstored).andThen (done _ c)

/-- A section starts from the stored cart, or else from the cached one. -/
theorem Returns.pick {y : Cart} (hfound : stored.or cached = some y) :
    d.Returns r refuses (d.cart.pick r) c y (c.fill d.cart.name y) := by
  rw [Attribute.pick, Attribute.read_eq, Routine.bind_assoc]
  refine (Returns.cached hcached).andThen ?_
  rw [Routine.bind_assoc]
  refine (look hcached hstored .sessionFirst).andThen ?_
  dsimp only
  rw [hfound]
  exact (settle hcached false).andThen (done y _)

/-- A section for which there is no cart starts from a new one. -/
theorem Reaches.pick (hmake : ∀ n q, ∃ y, d.cart.make n q = .ok y)
    (hmissing : stored.or cached = none) :
    d.Reaches r refuses (d.cart.pick r) c fun y c' =>
      ∃ n, d.cart.make n c.request = .ok y ∧ c' = c.deal n := by
  rw [Attribute.pick, Attribute.read_eq, Routine.bind_assoc]
  refine (Returns.cached hcached).andThen ?_
  rw [Routine.bind_assoc]
  refine (Returns.look hcached hstored .sessionFirst).andThen ?_
  dsimp only
  rw [hmissing]
  exact create hmake

/-- The current cart is the cached one, or else the stored one. -/
theorem Returns.currentCart {y : Cart} (hfound : cached.or stored = some y) :
    d.Returns r refuses (d.currentCart r) c y (c.fill d.cart.name y) := by
  rw [Desk.currentCart, Attribute.current, Attribute.read_eq, Routine.bind_assoc]
  refine (Returns.cached hcached).andThen ?_
  rw [Routine.bind_assoc]
  refine (look hcached hstored .requestFirst).andThen ?_
  dsimp only
  rw [hfound]
  exact (settle hcached true).andThen (done y _)

/-- Where there is no cart, the current cart is a new one, stored and cached. -/
theorem Reaches.currentCart (hmake : ∀ n q, ∃ y, d.cart.make n q = .ok y)
    (hmissing : cached.or stored = none) :
    d.Reaches r refuses (d.currentCart r) c fun y c' =>
      ∃ n, d.cart.make n c.request = .ok y ∧ c' = (c.deal n).write d.cart.name (some y) := by
  obtain ⟨rfl, rfl⟩ := Option.or_eq_none_iff.mp hmissing
  have hmade : d.Reaches r refuses (d.locked r (d.cart.supply r .all)) c fun p c' =>
      p.2 = true ∧ ∃ n, d.cart.make n c.request = .ok p.1 ∧
        c' = (c.deal n).write d.cart.name (some p.1) := by
    refine locked ((Returns.stored hstored).andThen ((create hmake).bind ?_))
    rintro y _ ⟨n, hy, rfl⟩
    exact (Returns.write (some y)).andThen (done ⟨rfl, n, hy, rfl⟩)
  rw [Desk.currentCart, Attribute.current, Attribute.read_eq, Routine.bind_assoc]
  refine (Returns.cached hcached).andThen ?_
  rw [Routine.bind_assoc]
  refine (Returns.look hcached hstored .requestFirst).andThen ?_
  dsimp only [Option.or]
  rw [Attribute.settle, if_pos rfl, Routine.bind_assoc, Attribute.createOnce_eq]
  refine hmade.bind ?_
  rintro ⟨y, isNew⟩ c' ⟨rfl, hy⟩
  exact done hy

end Reading

/-! ### Sections -/

section Sections

variable {s : Section .cart}

theorem close_of_nested (h : s.hold = none) : s.close = .done () := by
  rw [Section.close, Section.finish, h]
  rfl

theorem drop_of_nested (h : s.hold = none) : s.drop = .done () := by
  rw [Section.drop, Section.finish, h]
  rfl

theorem ensuring_done {α : Type} (y : Routine α) : Routine.ensuring (.done ()) y = y := by
  induction y with
  | done a => rfl
  | fail f => rfl
  | act a next ih => exact congrArg (Routine.act a) (funext ih)

/-- A section of the desk's cart for the request, which has this draft. -/
structure Tends (d : Desk) (r : RequestRef) (p : Drafting) (s : Section .cart) : Prop where
  subject_eq : s.subject = d.cart
  request_eq : s.request = r
  draft_eq : s.draft = p.id

namespace Returns

variable {p : Drafting} (hs : d.Tends r p s) (hp : c.drafting = some p)

include hs hp

theorem copy {y : Cart} (hy : p.value = some y) : d.Returns r refuses s.copy c y c := by
  obtain ⟨-, -, hdraft⟩ := hs
  rw [Section.copy, hdraft]
  refine (handOut hp).andThen ((Reaches.draft hp).bind ?_)
  rintro e _ ⟨rfl, hcurrent, -, -⟩
  rw [hcurrent, hy]
  exact done y _

theorem commit (y : Cart) :
    d.Returns r refuses (s.commit y) c y (c.write d.cart.name (some y)) := by
  obtain ⟨hsubject, hrequest, hdraft⟩ := hs
  rw [Section.commit, hsubject, hrequest, hdraft]
  exact (commitDraft hp (some y)).andThen (done y _)

theorem discard : d.Returns r refuses s.discard c () c.discard := by
  rw [Section.discard, hs.draft_eq]
  exact discardDraft hp

end Returns

/-- Dropping a section gives its lock back or leaves it, whatever has come of its draft. -/
theorem wp_drop_any {x : Retreat} {Q : Except Failure Unit → Stay → Prop} {hold : Hold}
    (hhold : s.hold = some hold) (hsession : hold.session = x.session) {held : Bool}
    (hmem : (hold, held) ∈ v.tickets) (hleft : Q (.ok ()) v)
    (hdone : ∀ l, Q (.ok ()) ((v.work l).leave hold)) : x.logic.wp Q s.drop v := by
  rw [Section.drop, Section.finish, hhold, Logic.wp_bind]
  change x.logic.wp _ (if (v.workspace.draft s.draft).closed = true then _ else _) v
  split
  · exact hleft
  · change x.logic.wp _ (hold.drop >>= fun _ => Routine.done _) (v.work (s.closing v.workspace))
    rw [Logic.wp_bind]
    exact Retreat.wp_drop hsession hmem (hdone _)

theorem wp_drop_closed {x : Retreat} {Q : Except Failure Unit → Stay → Prop} {hold : Hold}
    (hhold : s.hold = some hold) (hclosed : (v.workspace.draft s.draft).closed = true)
    (hdone : Q (.ok ()) v) : x.logic.wp Q s.drop v := by
  rw [Section.drop, Section.finish, hhold, Logic.wp_bind]
  change x.logic.wp _ (if (v.workspace.draft s.draft).closed = true then _ else _) v
  rw [if_pos hclosed]
  exact hdone

/-- Closing an outermost section in which something was committed or discarded. -/
theorem wp_close_settled {Q : Except Failure Unit → Stay → Prop} {hold : Hold} {p : Drafting}
    (hs : d.Tends r p s) (hv : d.Shows r c v) (hp : c.drafting = some p)
    (hsettled : p.settled = true) (hhold : s.hold = some hold) (hsession : hold.session = r.session)
    {held : Bool} (hmem : (hold, held) ∈ v.tickets)
    (hdone : d.Shows r { c with drafting := none } ((v.work (s.closing v.workspace)).leave hold) →
      ((s.closing v.workspace).draft s.draft).closed = true →
      Q (.ok ()) ((v.work (s.closing v.workspace)).leave hold)) :
    (d.retreat r refuses).logic.wp Q s.close v := by
  obtain ⟨hshelf, hmade, hwrote, hrequest, hknown, hdrafts⟩ := hv
  rw [hp] at hdrafts
  obtain ⟨hopen, e, he, -, hclosed, hsettle⟩ := hdrafts
  rw [← hs.draft_eq] at hopen he
  have hdraft := Workspace.draft_eq he
  have habandoned : e.isAbandoned = false := by
    rw [hsettled] at hsettle
    simp only [Draft.isAbandoned, Bool.and_assoc, ← Bool.not_or, ← hsettle]
    simp
  have hshut : (s.closing v.workspace).openDraft? .cart r.session d.cart.name = none := by
    have hactive : v.workspace.active.get? (r.session, d.cart.name) = some s.draft := by
      rw [Workspace.openDraft?, Option.filter_eq_some_iff] at hopen
      exact hopen.1
    rw [Section.closing, Workspace.perform, hs.subject_eq, hs.request_eq, if_pos hactive]
    simp [Workspace.openDraft?]
  rw [Section.close, Section.finish, hhold, Logic.wp_bind]
  change (d.retreat r refuses).logic.wp _ (if (v.workspace.draft s.draft).closed = true then _ else
    Routine.finishDraft s.request.session s.subject.name s.draft >>= fun _ => hold.drop >>= fun _ =>
      Routine.done ((v.workspace.draft s.draft).isAbandoned && s.subject.settings.strictCommit)) v
  rw [hdraft, hclosed, if_neg (by decide), habandoned, Bool.false_and]
  change (d.retreat r refuses).logic.wp _ (hold.drop >>= fun _ => Routine.done false)
    (v.work (s.closing v.workspace))
  rw [Logic.wp_bind]
  refine Retreat.wp_drop hsession hmem (hdone ⟨hshelf, hmade, hwrote, ?_, ?_, hshut⟩
    (Section.closed_closing he))
  · exact (Workspace.request_congr (s.requests_closing v.workspace) r.id).trans hrequest
  · change r.id < (s.closing v.workspace).requests.length
    rw [s.requests_closing]
    exact hknown

/-- A body runs in the section that is open already, or in one of its own. There it starts from what
was picked, and has to commit or discard something before it closes. -/
theorem Reaches.within {α : Type} {body : Section .cart → Routine α} {P : α → Counter → Prop}
    {O : Cart → Counter → Prop}
    (hjoined : ∀ p, c.drafting = some p →
      d.Reaches r refuses (body ⟨d.cart, r, p.id, none⟩) c P)
    (hpick : c.drafting = none → d.Reaches r refuses (d.cart.pick r) c O)
    (hopened : c.drafting = none → ∀ y c₁ id hold, O y c₁ →
      d.Reaches r refuses (body ⟨d.cart, r, id, some hold⟩)
        { c₁ with drafting := some ⟨id, some y, false⟩ } fun a c₂ =>
          (∃ value, c₂.drafting = some ⟨id, value, true⟩) ∧ P a { c₂ with drafting := none }) :
    d.Reaches r refuses (Section.within d.cart r fun s =>
      body s >>= fun a => s.close >>= fun _ => .done a) c P := by
  rw [Section.within, Section.start_eq, Routine.bind_assoc]
  refine Returns.openDraft.andThen ?_
  cases hp : c.drafting with
  | some p =>
    have hnested : (⟨d.cart, r, p.id, none⟩ : Section .cart).hold = none := rfl
    change d.Reaches r refuses (Routine.ensuring _ _) c P
    rw [drop_of_nested hnested, ensuring_done]
    refine (hjoined p hp).bind fun a c' ha => ?_
    rw [close_of_nested hnested]
    exact done ha
  | none =>
    intro v hv
    dsimp only [Option.map_none]
    rw [Routine.bind_assoc, Logic.wp_bind]
    refine Retreat.wp_acquire (fun hr _ => ⟨hr, List.Subset.refl _⟩) fun key hfresh => ?_
    dsimp only
    rw [Logic.wp_bind, Logic.wp_onFailure, Logic.wp_bind]
    refine Logic.wp_mono (fun out v₁ hout => ?picked) (hpick hp _ (hv.hold _))
    case picked =>
      cases out with
      | error f =>
        obtain ⟨hr, hsubset⟩ := hout
        exact Retreat.wp_drop_taken rfl hfresh hsubset fun hkept => ⟨hr, hkept⟩
      | ok y =>
        obtain ⟨htickets₁, c₁, hc₁, hO⟩ := hout
        have hmem₁ : (⟨d.cart.table, r.session, key⟩, true) ∈ v₁.tickets :=
          htickets₁ ▸ Stay.mem_take
        change (d.retreat r refuses).logic.wp _ (Routine.ensuring _ _)
          (v₁.work (v₁.workspace.opened .cart r d.cart.name (.cart y)))
        rw [Logic.wp_ensuring, Logic.wp_bind]
        refine Logic.wp_mono (fun out v₂ hout => ?ran)
          (hopened hp y c₁ _ ⟨d.cart.table, r.session, key⟩ hO _ (hc₁.opened y))
        case ran =>
          cases out with
          | error f =>
            obtain ⟨hr, hsubset⟩ := hout
            have hkept : v.tickets ⊆ v₂.tickets := fun e he =>
              hsubset (htickets₁ ▸ List.mem_append_left _ he)
            exact wp_drop_any rfl rfl (hsubset hmem₁) ⟨hr, hkept⟩
              fun l => ⟨hr, Stay.subset_leave hfresh hkept⟩
          | ok a =>
            obtain ⟨htickets₂, c₂, hc₂, ⟨value, hdrafting⟩, ha⟩ := hout
            dsimp only
            rw [Logic.wp_bind]
            refine wp_close_settled ⟨rfl, rfl, rfl⟩ hc₂ hdrafting rfl rfl rfl (htickets₂ ▸ hmem₁)
              fun hshows hclosed => wp_drop_closed rfl hclosed ⟨?_, _, hshows, ha⟩
            exact Stay.tickets_leave hfresh (htickets₂.trans htickets₁)

end Sections

/-! ### Courses -/

/-- What a request finds at the counter as it comes there, with this draft open. -/
def counter (d : Desk) (r : RequestRef) (w : World) (l : Workspace) (drafting : Option Drafting) :
    Counter where
  shelf := w.storage d.cart.store r.session
  request := l.request r.id
  drafting := drafting

/-- What a request leaves at the counter, after these actions on the shared state. -/
structure Leaves (d : Desk) (r : RequestRef) (C : Company) (w : World) (events : List Event)
    (c : Counter) (w' : World) (l' : Workspace) : Prop where
  shelf_eq : w'.storage d.cart.store r.session = c.shelf
  request_eq : l'.request r.id = c.request
  known : r.id < l'.requests.length
  drafts : l'.Drafts r.session d.cart.name c.drafting
  made_eq : Event.dealt events = c.made
  wrote_eq : (events.any fun e => e.action.rewrite?.isSome) = c.wrote
  spares : (d.retreat r True).Spares C w.storage w'.storage

section Courses

variable {α : Type} {C : Company} {i : ThreadId} {others : World → World → Prop} {w w' : World}
  {l l' : Workspace} {y : Routine α} {P : α → Counter → Prop} {q : Option Drafting}
  (hC : ∀ has, C.leaves has d.cart.store r.session) (hw : Calm w)
  (hknown : r.id < l.requests.length) (hdrafts : l.Drafts r.session d.cart.name q)

include hC hw hknown hdrafts

/-- A course of a routine that is over has led where the routine leads. It has failed only if that
was allowed for. -/
theorem Reaches.course (hy : d.Reaches r refuses y (d.counter r w l q) P)
    (hopen : (d.retreat r refuses).Open i w) (hothers : C.Bounds i others)
    (hkeep : ∀ w w', others w w' → (d.retreat r refuses).Open i w → (d.retreat r refuses).Open i w')
    {events : List Event} {out : Except Failure α}
    (hcourse : y.Course i others w l events (.ended out) w' l') :
    Calm w' ∧ (d.retreat r refuses).Open i w' ∧ (∀ f, out = .error f → refuses) ∧
      ∀ a, out = .ok a → ∃ c', P a c' ∧ d.Leaves r C w events c' w' l' := by
  have hshows : d.Shows r (d.counter r w l q) ((d.retreat r refuses).enter i w l) :=
    ⟨rfl, rfl, rfl, rfl, hknown, hdrafts⟩
  obtain ⟨v', g', hdwells, hwent, hout⟩ := Retreat.Dwells.course hC hothers hkeep hcourse
    (Retreat.dwells_enter hw hopen l) (hy _ hshows)
  have hcalm : Calm w' :=
    ⟨hdwells.fits.sound, hdwells.fits.calm (C.calm_of_leaves (hC fun _ => True))⟩
  refine ⟨hcalm, hdwells.isOpen, ?_, ?_⟩
  · rintro f rfl
    exact hout.1
  · rintro a rfl
    obtain ⟨_, c', hc', ha⟩ := hout
    have hworkspace : v'.workspace = l' := hdwells.of.workspace_eq.symm.trans hdwells.workspace_eq
    refine ⟨c', ha, ?_, ?_, ?_, ?_, ?_, ?_, ?_⟩
    · rw [← hdwells.fits.storage_eq, ← hc'.shelf_eq]
      exact hdwells.of.shelf_eq
    · rw [← hworkspace, hc'.request_eq]
    · exact hworkspace ▸ hc'.known
    · exact hworkspace ▸ hc'.drafts
    · rw [← hc'.made_eq, hwent.made_eq]
      rfl
    · rw [← hc'.wrote_eq, hwent.wrote_eq]
      rfl
    · rw [← hdwells.fits.storage_eq]
      exact hwent.spares

/-- What is left after a course that has ended well, whether anything could be refused on the way or
not. -/
theorem Reaches.exists_leaves (hy : d.Reaches r True y (d.counter r w l q) P)
    (hothers : C.Bounds i others) {events : List Event} {a : α}
    (hcourse : y.Course i others w l events (.ended (.ok a)) w' l') :
    ∃ c', P a c' ∧ d.Leaves r C w events c' w' l' := by
  obtain ⟨-, -, -, hout⟩ := hy.course hC hw hknown hdrafts (.of_refuses trivial i w) hothers
    (fun _ w' _ _ => .of_refuses trivial i w') hcourse
  exact hout a rfl

/-- A routine that nothing may refuse comes to its end when it is run at one go. -/
theorem Reaches.exists_run (hy : d.Reaches r refuses y (d.counter r w l q) P)
    (hopen : (d.retreat r refuses).Open i w) (hnot : ¬refuses) (patient : Bool) :
    ∃ out w' l', y.run patient i w l = .finished out w' l' := by
  have hshows : d.Shows r (d.counter r w l q) ((d.retreat r refuses).enter i w l) :=
    ⟨rfl, rfl, rfl, rfl, hknown, hdrafts⟩
  exact Retreat.Dwells.exists_run hC (Retreat.dwells_enter hw hopen l) hnot (hy _ hshows) patient

end Courses

end Desk

end SessionCart
