import SessionCart.Proofs.Desk.Errand
import SessionCart.Proofs.Thread.Twin

/-!
# The hall

Any number of threads serve any number of sessions: a task is done on some thread for some session,
from its first action to its last, and then the next one. A thread may have sections of several
sessions open at once, and a request may be served on one thread and then on another. The tasks of a
session on two sides of a wall, with the same requests and its handles in a bond, are alike.
-/

namespace SessionCart

/-! ### Handles -/

/-- What a session may have open on a thread. -/
inductive Handle
  | update {k : Kind} (s : Section k)
  | hold (h : Hold)

namespace Handle

def section? : Handle → Option ((k : Kind) × Section k)
  | @update k s => some ⟨k, s⟩
  | hold _ => none

def hold? : Handle → Option Hold
  | update _ => none
  | hold h => some h

end Handle

/-- A thread: its drafts, and the handles of each session by the labels that it gave them. -/
structure Station where
  drafts : List Draft := []
  active : Dict (SessionId × String) DraftId := .empty
  handles : SessionId → Nat → Option Handle := fun _ _ => none

structure Hall where
  world : World
  requests : List Request
  stations : ThreadId → Station := fun _ => {}

/-! ### Tasks -/

/-- What can be done for a session. -/
inductive Act
  | read {k : Kind} (a : Attribute k) (id : RequestId) (policy : ReadPolicy) (creating : Bool)
    (scope : Scope)
  | write {k : Kind} (a : Attribute k) (id : RequestId) (value : Option k.Data) (scope : Scope)
  | request (id : RequestId)
  | cache (id : RequestId) (name : String) (value : Value)
  | uncache (id : RequestId) (name : String)
  | mark (id : RequestId) (name : String)
  | invalidate (s : StoreName)
  | errand (d : Desk) (id : RequestId) (e : Desk.Errand)
  | parked (d : Desk) (id : RequestId)
  | start {k : Kind} (a : Attribute k) (id : RequestId) (label : Nat)
  | copy (label : Nat)
  | commit (label : Nat) (value : Value)
  | discard (label : Nat)
  | draft (label : Nat)
  | close (label : Nat)
  | drop (label : Nat)
  | hold {k : Kind} (a : Attribute k) (id : RequestId) (label : Nat)
  | release (label : Nat)

structure Task where
  thread : ThreadId
  session : SessionId
  act : Act

namespace Act

/-- What is answered. Of a section the answer says whether it joined another one. -/
abbrev Answer : Act → Type
  | @read k .. => Option k.Data
  | request _ => Request
  | errand _ _ e => e.Answer
  | parked .. => List Cart
  | start .. | release _ => Bool
  | copy _ | commit .. => Value
  | draft _ => Draft
  | _ => Unit

end Act

/-- A handle that is new, and the label for it. -/
abbrev Opened := Option (Nat × Handle)

/-- Nothing is opened. -/
def Routine.closed {α : Type} (x : Routine α) : Routine (α × Opened) :=
  x >>= fun y => .done (y, none)

namespace Hall

variable (h : Hall) (i : ThreadId) (session : SessionId)

/-- What a thread has before it, the requests included. -/
def workspace : Workspace := ⟨h.requests, (h.stations i).drafts, (h.stations i).active⟩

/-- A request, if it is one of the session's. -/
def ref? (id : RequestId) : Option RequestRef :=
  if (h.requests[id]?).map Request.session = some session then some ⟨id, session⟩ else none

def section? (label : Nat) : Option ((k : Kind) × Section k) :=
  ((h.stations i).handles session label).bind Handle.section?

def hold? (label : Nat) : Option Hold := ((h.stations i).handles session label).bind Handle.hold?

/-- The routine for an act; none if the session has no such request or handle, if the label is
taken, or if the value is of another kind than the section. -/
def routine? : (a : Act) → Option (Routine (a.Answer × Opened))
  | .read a id policy creating scope =>
    (h.ref? session id).map fun r => (a.read r policy creating scope).closed
  | .write a id value scope => (h.ref? session id).map fun r => (a.write r value scope).closed
  | .request id => (h.ref? session id).map fun r => (Routine.request r).closed
  | .cache id name value => (h.ref? session id).map fun r => (Routine.cache r name value).closed
  | .uncache id name => (h.ref? session id).map fun r => (Routine.uncache r name).closed
  | .mark id name => (h.ref? session id).map fun r => (Routine.mark r name).closed
  | .invalidate s => some (Routine.invalidate s session).closed
  | .errand d id e => (h.ref? session id).map fun r => (e.routine d r).closed
  | .parked d id => (h.ref? session id).map fun r => (d.parked r).closed
  | .start a id label =>
    if ((h.stations i).handles session label).isSome then none
    else (h.ref? session id).map fun r =>
      Section.start a r >>= fun s => .done (s.isNested, some (label, .update s))
  | .copy label => (h.section? i session label).map fun s =>
    (s.2.copy >>= fun d => .done (Value.of s.1 d)).closed
  | .commit label value => (h.section? i session label).bind fun s =>
    (value.as? s.1).map fun d => (s.2.commit d >>= fun d => .done (Value.of s.1 d)).closed
  | .discard label => (h.section? i session label).map fun s => s.2.discard.closed
  | .draft label => (h.section? i session label).map fun s => (Routine.draft s.2.draft).closed
  | .close label => (h.section? i session label).map fun s => s.2.close.closed
  | .drop label => (h.section? i session label).map fun s => s.2.drop.closed
  | .hold a id label =>
    if ((h.stations i).handles session label).isSome then none
    else (h.ref? session id).map fun r =>
      a.hold r >>= fun hold => .done ((), some (label, .hold hold))
  | .release label => (h.hold? i session label).map fun hold => hold.release.closed

/-- The hall after a thread has worked for a session. -/
def after (w : World) (l : Workspace) (opened : Opened) : Hall where
  world := w
  requests := l.requests
  stations := Function.update h.stations i
    { drafts := l.drafts
      active := l.active
      handles := fun s label =>
        (opened.filter fun o => s = session ∧ o.1 = label).elim ((h.stations i).handles s label)
          fun o => some o.2 }

/-- Does a task, if it is possible and comes to an end. -/
def step? (t : Task) : Option (Except Failure t.act.Answer × Hall) :=
  (h.routine? t.thread t.session t.act).bind fun x =>
    match x.run false t.thread h.world (h.workspace t.thread) with
    | .finished out w l =>
      some (out.map Prod.fst, h.after t.thread t.session w l (out.toOption.bind Prod.snd))
    | .waiting .. => none

end Hall

/-- A task that is done, and what came of it. -/
structure Entry where
  task : Task
  out : Except Failure task.act.Answer

/-- Does tasks one after the other. -/
def Hall.play : List Task → Hall → Option (List Entry × Hall)
  | [], h => some ([], h)
  | t :: rest, h => (h.step? t).bind fun p => (play rest p.2).map fun q => (⟨t, p.1⟩ :: q.1, q.2)

/-! ### Alike tasks -/

/-- Nothing that is made in the act depends on how many values were made. -/
def Act.Contextual : Act → Prop
  | .read a .. => a.Contextual
  | .start a .. => a.Contextual
  | .errand d .. => d.cart.Contextual
  | _ => True

/-- The same handles but for their numbers. -/
inductive Handle.Twin (whose : RequestId → Option SessionId) (session : SessionId) (γ : Bond) :
    Handle → Handle → Prop
  | update {k : Kind} {s s' : Section k} : Section.Twin whose session γ s s' →
    Twin whose session γ (.update s) (.update s')
  | hold {h h' : Hold} : Hold.Twin γ h h' → Twin whose session γ (.hold h) (.hold h')

/-- The same answer, and the same handle for the same label. -/
structure Delivers (whose : RequestId → Option SessionId) (session : SessionId) {α : Type}
    (γ : Bond) (y y' : α × Opened) : Prop where
  answer_eq : y.1 = y'.1
  opened : Option.Rel (fun o o' => o.1 = o'.1 ∧ Handle.Twin whose session γ o.2 o'.2) y.2 y'.2

section Alike

variable {whose : RequestId → Option SessionId} {session : SessionId} {γ δ : Bond}

theorem Handle.Twin.mono {x x' : Handle} (hx : Handle.Twin whose session γ x x') (hδ : γ ≤ δ) :
    Handle.Twin whose session δ x x' := by
  cases hx with
  | update hs => exact .update (hs.mono hδ)
  | hold hh => exact .hold (hh.mono hδ)

theorem Delivers.mono {α : Type} {y y' : α × Opened} (hy : Delivers whose session γ y y')
    (hδ : γ ≤ δ) : Delivers whose session δ y y' :=
  ⟨hy.answer_eq, rel_mono hy.opened fun _ _ ho => ⟨ho.1, ho.2.mono hδ⟩⟩

theorem Alike.closed {α : Type} {x x' : Routine α} (hx : Alike whose session Equal γ x x') :
    Alike whose session (Delivers whose session) γ x.closed x'.closed :=
  hx.andThen fun _ _ _ => .done ⟨rfl, .none⟩

theorem Desk.alike_find (d : Desk) (r : RequestRef) (k : Kind) (name : String) :
    Alike whose r.session Equal γ (d.find r k name) (d.find r k name) := by
  refine (Alike.getStored _ name).andThen fun δ found _ => ?_
  cases found with
  | none => exact .done rfl
  | some v =>
    dsimp only
    cases v.as? k with
    | some y => exact .done rfl
    | none => exact .fail _

/-- Routines made of the parts of errands are alike, their sections in the bond. -/
theorem Desk.Akin.alike {d : Desk} {r : RequestRef} {free : String → Prop}
    {Γ : List (Section .cart × Section .cart)} {α : Type} {x x' : Routine α}
    (hx : Desk.Akin d r free Γ x x') (hr : whose r.id = some r.session) (hd : d.cart.Contextual)
    (hΓ : ∀ p ∈ Γ, Section.Twin whose r.session γ p.1 p.2) :
    Alike whose r.session Equal γ x x' := by
  induction hx generalizing γ with
  | done y => exact .done rfl
  | fail f => exact .fail f
  | bind _ _ ihx ihf =>
    exact (ihx hΓ).andThen fun δ y hδ => ihf y fun p hp => (hΓ p hp).mono hδ
  | locked _ ih =>
    exact Alike.hold.bind fun δ h h' hδ hh =>
      (ih fun p hp => (hΓ p hp).mono hδ).ensuring fun ε hε => (hh.mono hε).alike_drop
  | within _ ih =>
    refine .within hr hd fun δ s s' hδ hs => ih s s' fun p hp => ?_
    rcases List.mem_cons.mp hp with rfl | hp
    · exact hs
    · exact (hΓ p hp).mono hδ
  | read policy creating scope => exact .read hr hd policy creating scope
  | write value => exact .write (k := .cart) hr value .all
  | forget => exact .write hr none .requestOnly
  | create => exact .create hr hd
  | find k name => exact Desk.alike_find d r k name
  | put value => exact .setStored _ _ value
  | removeAttribute => exact (Alike.removeStored _ _).andThen fun _ _ _ => .done rfl
  | invalidate => exact .invalidate _
  | note value => exact .plain hr fun _ => .done rfl
  | copy hs => exact (hΓ _ hs).alike_copy
  | commit c hs => exact (hΓ _ hs).alike_commit c
  | discard hs => exact (hΓ _ hs).alike_discard
  | close hs => exact (hΓ _ hs).alike_close

theorem Desk.Errand.alike {d : Desk} {r : RequestRef} (hr : whose r.id = some r.session)
    (hd : d.cart.Contextual) (e : Desk.Errand) :
    Alike whose r.session Equal γ (e.routine d r) (e.routine d r) := by
  have hakin : Desk.Akin d r (fun _ => True) [] (e.routine d r) (e.routine d r) :=
    .errand e (fun _ _ => trivial) fun _ => trivial
  exact hakin.alike hr hd fun _ hp => (List.not_mem_nil hp).elim

theorem Section.Twin.isNested_eq {k : Kind} {s s' : Section k}
    (hs : Section.Twin whose session γ s s') : s.isNested = s'.isNested := by
  rw [isNested, isNested, ← Option.not_isSome, ← Option.not_isSome, isSome_eq_of_rel hs.hold]

namespace Hall

variable {h g : Hall} {i : ThreadId}

/-- Which request belongs to which session. -/
def Belongs (whose : RequestId → Option SessionId) (h : Hall) : Prop :=
  ∀ id, (h.requests[id]?).map Request.session = whose id

variable {α : Type} {V : Bond → α → α → Prop}

theorem rel_ref? (hh : h.Belongs whose) (hg : g.Belongs whose) {id : RequestId}
    {f : RequestRef → Routine α} (hf : whose id = some session →
      Alike whose session V γ (f ⟨id, session⟩) (f ⟨id, session⟩)) :
    Option.Rel (Alike whose session V γ) ((h.ref? session id).map f)
      ((g.ref? session id).map f) := by
  rw [ref?, ref?, hh id, hg id]
  split
  · rename_i hid
    exact .some (hf hid)
  · exact .none

theorem rel_section? {label : Nat}
    (hlabel : Option.Rel (Handle.Twin whose session γ) ((h.stations i).handles session label)
      ((g.stations i).handles session label))
    {f : ((k : Kind) × Section k) → Option (Routine α)}
    (hf : ∀ {k} {s s' : Section k}, Section.Twin whose session γ s s' →
      Option.Rel (Alike whose session V γ) (f ⟨k, s⟩) (f ⟨k, s'⟩)) :
    Option.Rel (Alike whose session V γ) ((h.section? i session label).bind f)
      ((g.section? i session label).bind f) := by
  rw [section?, section?]
  generalize (h.stations i).handles session label = x at hlabel
  generalize (g.stations i).handles session label = x' at hlabel
  cases hlabel with
  | none => exact .none
  | some hx =>
    cases hx with
    | update hs => exact hf hs
    | hold => exact .none

theorem rel_map_section? {label : Nat}
    (hlabel : Option.Rel (Handle.Twin whose session γ) ((h.stations i).handles session label)
      ((g.stations i).handles session label)) {f : ((k : Kind) × Section k) → Routine α}
    (hf : ∀ {k} {s s' : Section k}, Section.Twin whose session γ s s' →
      Alike whose session V γ (f ⟨k, s⟩) (f ⟨k, s'⟩)) :
    Option.Rel (Alike whose session V γ) ((h.section? i session label).map f)
      ((g.section? i session label).map f) := by
  rw [Option.map_eq_bind, Option.map_eq_bind]
  exact rel_section? hlabel fun hs => .some (hf hs)

theorem rel_map_hold? {label : Nat}
    (hlabel : Option.Rel (Handle.Twin whose session γ) ((h.stations i).handles session label)
      ((g.stations i).handles session label)) {f : Hold → Routine α}
    (hf : ∀ {x x'}, Hold.Twin γ x x' → Alike whose session V γ (f x) (f x')) :
    Option.Rel (Alike whose session V γ) ((h.hold? i session label).map f)
      ((g.hold? i session label).map f) := by
  rw [hold?, hold?]
  generalize (h.stations i).handles session label = x at hlabel
  generalize (g.stations i).handles session label = x' at hlabel
  cases hlabel with
  | none => exact .none
  | some hx =>
    cases hx with
    | update => exact .none
    | hold hx => exact .some (hf hx)

theorem rel_unless_taken {label : Nat}
    (hlabel : Option.Rel (Handle.Twin whose session γ) ((h.stations i).handles session label)
      ((g.stations i).handles session label)) {x x' : Option (Routine α)}
    (hx : Option.Rel (Alike whose session V γ) x x') :
    Option.Rel (Alike whose session V γ)
      (if ((h.stations i).handles session label).isSome then none else x)
      (if ((g.stations i).handles session label).isSome then none else x') := by
  rw [isSome_eq_of_rel hlabel]
  split
  · exact .none
  · exact hx

/-- The routines for an act of a session in two halls are alike, or there is none in either. -/
theorem rel_routine? (hh : h.Belongs whose) (hg : g.Belongs whose)
    (hlabel : ∀ label, Option.Rel (Handle.Twin whose session γ)
      ((h.stations i).handles session label) ((g.stations i).handles session label))
    {a : Act} (ha : a.Contextual) :
    Option.Rel (Alike whose session (Delivers whose session) γ) (h.routine? i session a)
      (g.routine? i session a) := by
  cases a with
  | read a id policy creating scope =>
    exact rel_ref? hh hg fun hid =>
      (Alike.read (r := ⟨id, session⟩) hid ha policy creating scope).closed
  | write a id value scope =>
    exact rel_ref? hh hg fun hid => (Alike.write (r := ⟨id, session⟩) hid value scope).closed
  | request id => exact rel_ref? hh hg fun hid => Alike.closed (.plain hid fun _ => .done rfl)
  | cache id name value =>
    exact rel_ref? hh hg fun hid => Alike.closed (.plain hid fun _ => .done rfl)
  | uncache id name => exact rel_ref? hh hg fun hid => Alike.closed (.plain hid fun _ => .done rfl)
  | mark id name => exact rel_ref? hh hg fun hid => Alike.closed (.plain hid fun _ => .done rfl)
  | invalidate s => exact .some (Alike.invalidate s).closed
  | errand d id e =>
    exact rel_ref? hh hg fun hid => (e.alike (r := ⟨id, session⟩) hid ha).closed
  | parked d id =>
    exact rel_ref? hh hg fun hid =>
      ((d.alike_find ⟨id, session⟩ .carts parkedAttribute).andThen fun _ _ _ => .done rfl).closed
  | start a id label =>
    refine rel_unless_taken (hlabel label) (rel_ref? hh hg fun hid => ?_)
    exact (Alike.start (r := ⟨id, session⟩) hid ha).bind fun δ s s' _ hs =>
      .done ⟨hs.isNested_eq, .some ⟨rfl, .update hs⟩⟩
  | copy label =>
    exact rel_map_section? (hlabel label) fun hs =>
      (hs.alike_copy.andThen fun _ _ _ => .done rfl).closed
  | commit label value =>
    refine rel_section? (hlabel label) fun {k s s'} hs => ?_
    dsimp only
    cases value.as? k with
    | none => exact .none
    | some d => exact .some ((hs.alike_commit d).andThen fun _ _ _ => .done rfl).closed
  | discard label => exact rel_map_section? (hlabel label) fun hs => hs.alike_discard.closed
  | draft label =>
    exact rel_map_section? (hlabel label) fun hs =>
      Alike.closed (.draft hs.draft fun _ => .done rfl)
  | close label => exact rel_map_section? (hlabel label) fun hs => hs.alike_close.closed
  | drop label => exact rel_map_section? (hlabel label) fun hs => hs.alike_drop.closed
  | hold a id label =>
    refine rel_unless_taken (hlabel label) (rel_ref? hh hg fun _ => ?_)
    exact (Alike.hold (r := ⟨id, session⟩)).bind fun δ x x' _ hx =>
      .done ⟨rfl, .some ⟨rfl, .hold hx⟩⟩
  | release label =>
    exact rel_map_hold? (hlabel label) fun hx => hx.alike_release.closed

end Hall

end Alike

end SessionCart
