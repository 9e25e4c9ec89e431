import Mathlib.Logic.Function.Basic
import SessionCart.Proofs.Lock.Exclusion
import SessionCart.Proofs.Turn.Logic

/-!
# One turn after another

Threads that keep to turns have their turns one at a time: while one of them is inside nobody else
changes the shelf, so each turn begins with the shelf that the one before it left. The invariant
`Tidy` says so of a shared state and of what each thread knows, and every action that a thread may
take keeps it.
-/

namespace SessionCart

/-! ### Backends that do as they are told -/

/-- No call fails, and nobody intrudes. -/
structure Backend.Calm (b : Backend) : Prop where
  fails_eq : ∀ call n, b.outage.fails call n = false
  intrusion_eq : b.intrusion = none

namespace Backend.Calm

variable {b : Backend} (h : b.Calm) (session : SessionId) (name : String)

include h

theorem perform_eq {α : Type} (call : StoreCall) (locked : Bool) (act : Backend → α × Backend) :
    b.perform call session name locked act =
      (.ok (act (b.note call session name locked)).1,
        (act (b.note call session name locked)).2) := by
  simp [perform, failsNext, h.fails_eq]

theorem get_eq : b.get session name =
    (.ok (b.store.get? session name), b.note .get session name false) := by
  rw [Backend.get, h.perform_eq]
  simp [intrude, note, h.intrusion_eq]

theorem note (call : StoreCall) (locked : Bool) : (b.note call session name locked).Calm :=
  ⟨h.fails_eq, h.intrusion_eq⟩

theorem withStore (s : Store) : { b with store := s }.Calm := ⟨h.fails_eq, h.intrusion_eq⟩

end Backend.Calm

@[simp]
theorem Backend.store_note (b : Backend) (call : StoreCall) (session : SessionId) (name : String)
    (locked : Bool) : (b.note call session name locked).store = b.store := rfl

def Site.shelf (x : Site) (w : World) : Shelf := ⟨(w.backend x.store).store.get? x.session⟩

@[simp]
theorem World.backend_setBackend (w : World) (s : StoreName) (b : Backend) :
    (w.setBackend s b).backend s = b := by
  cases s <;> rfl

@[simp]
theorem World.backend_setLocks (w : World) (t : TableName) (l : LockTable) (s : StoreName) :
    (w.setLocks t l).backend s = w.backend s := by
  cases t <;> cases s <;> rfl

@[simp]
theorem Site.shelf_setLocks (x : Site) (w : World) (t : TableName) (l : LockTable) :
    x.shelf (w.setLocks t l) = x.shelf w := by
  rw [Site.shelf, World.backend_setLocks, Site.shelf]

/-! ### The tickets of one thread -/

namespace LockTable

/-- The tickets of a thread, and whether they hold their locks. -/
def ticketsOf (t : LockTable) (i : ThreadId) : List (TicketId × Bool) :=
  (t.tickets.filter fun k => decide (k.thread = i)).map fun k => (k.id, k.held)

variable {t t' : LockTable} {i j : ThreadId} {id : TicketId}

theorem mem_ticketsOf_iff {held : Bool} : (id, held) ∈ t.ticketsOf i ↔
    ∃ k ∈ t.tickets, k.thread = i ∧ k.id = id ∧ k.held = held := by
  simp only [ticketsOf, List.mem_map, List.mem_filter, decide_eq_true_eq, Prod.mk.injEq]
  constructor
  · rintro ⟨k, ⟨hk, hi⟩, hid, hheld⟩
    exact ⟨k, hk, hi, hid, hheld⟩
  · rintro ⟨k, hk, hi, hid, hheld⟩
    exact ⟨k, ⟨hk, hi⟩, hid, hheld⟩

theorem ticketsOf_draw (t : LockTable) (i : ThreadId) (session : SessionId) (j : ThreadId) :
    (t.draw i session).2.ticketsOf j =
      if j = i then t.ticketsOf i ++ [(t.nextTicket, false)] else t.ticketsOf j := by
  rw [ticketsOf, tickets_draw, List.filter_append, List.map_append]
  by_cases hj : j = i
  · simp [hj, ticketsOf]
  · simp [hj, ticketsOf, Ne.symm hj]

theorem ticketsOf_grant (hgrant : t.grant id = some t') (j : ThreadId) :
    t'.ticketsOf j = (t.ticketsOf j).map fun e => if e.1 = id then (e.1, true) else e := by
  obtain ⟨_, _, _, _, _, rfl⟩ := grant_eq_some hgrant
  rw [ticketsOf, filter_markHeld fun _ => rfl, markHeld, ticketsOf, List.map_map, List.map_map]
  refine List.map_congr_left fun k _ => ?_
  simp only [Function.comp_apply]
  split <;> rfl

theorem ticketsOf_giveBack (t : LockTable) (id : TicketId) (j : ThreadId) :
    (t.giveBack id).2.ticketsOf j = (t.ticketsOf j).filter fun e => decide (e.1 ≠ id) := by
  rw [ticketsOf, tickets_giveBack, List.filter_filter, ticketsOf, List.filter_map,
    List.filter_filter]
  congr 1
  refine List.filter_congr fun k _ => ?_
  simp [Bool.and_comm]

namespace Sound

variable (h : t.Sound)

include h

theorem ticket_eq {k k' : Ticket} (hk : k ∈ t.tickets) (hk' : k' ∈ t.tickets)
    (hid : k.id = k'.id) : k = k' := by
  have hfind := ticket?_of_mem h.ids_nodup hk
  rw [hid, ticket?_of_mem h.ids_nodup hk'] at hfind
  exact (Option.some.inj hfind).symm

theorem ticketsOf_ne {held : Bool} (hi : (id, held) ∈ t.ticketsOf i) (hj : j ≠ i) :
    ∀ e ∈ t.ticketsOf j, e.1 ≠ id := by
  rintro ⟨id', held'⟩ he heq
  obtain ⟨k, hk, hkthread, hkid, _⟩ := mem_ticketsOf_iff.mp hi
  obtain ⟨k', hk', hkthread', hkid', _⟩ := mem_ticketsOf_iff.mp he
  rw [h.ticket_eq hk hk' (hkid.trans (heq.symm.trans hkid'.symm))] at hkthread
  exact hj (hkthread'.symm.trans hkthread)

theorem giveBack_fst {held : Bool} (hi : (id, held) ∈ t.ticketsOf i) :
    (t.giveBack id).1 = held := by
  obtain ⟨k, hk, _, rfl, rfl⟩ := mem_ticketsOf_iff.mp hi
  rw [LockTable.giveBack_eq (ticket?_of_mem h.ids_nodup hk)]

/-- Where all tickets are for one session, a thread is inside if one of its tickets holds. -/
theorem depth_pos_iff {session : SessionId} (hhere : ∀ k ∈ t.tickets, k.session = session)
    (i : ThreadId) : 0 < t.depth i session ↔ (t.ticketsOf i).any Prod.snd = true := by
  rw [h.depth_eq, List.countP_pos_iff, List.any_eq_true]
  constructor
  · rintro ⟨k, hk, hall⟩
    simp only [Bool.and_eq_true, decide_eq_true_eq] at hall
    exact ⟨(k.id, k.held), mem_ticketsOf_iff.mpr ⟨k, hk, hall.1.2, rfl, rfl⟩, hall.1.1⟩
  · rintro ⟨⟨id, held⟩, he, hheld⟩
    obtain ⟨k, hk, hthread, _, rfl⟩ := mem_ticketsOf_iff.mp he
    refine ⟨k, hk, ?_⟩
    simp only [Bool.and_eq_true, decide_eq_true_eq]
    exact ⟨⟨hheld, hthread⟩, hhere k hk⟩

theorem eq_of_holds {session : SessionId} (hhere : ∀ k ∈ t.tickets, k.session = session)
    (hi : (t.ticketsOf i).any Prod.snd = true) (hj : (t.ticketsOf j).any Prod.snd = true) :
    i = j := by
  obtain ⟨⟨id, held⟩, he, hheld⟩ := List.any_eq_true.mp hi
  obtain ⟨⟨id', held'⟩, he', hheld'⟩ := List.any_eq_true.mp hj
  obtain ⟨k, hk, rfl, _, hkheld⟩ := mem_ticketsOf_iff.mp he
  obtain ⟨k', hk', rfl, _, hkheld'⟩ := mem_ticketsOf_iff.mp he'
  exact h.thread_eq hk hk' (hkheld.trans hheld) (hkheld'.trans hheld')
    ((hhere k hk).trans (hhere k' hk').symm)

end Sound

end LockTable

/-! ### The invariant -/

/-- A turn of a thread, with the shelf before and after it. -/
structure Turn where
  thread : ThreadId
  before : Shelf
  after : Shelf

/-- Each turn begins with the shelf that the one before it left. -/
def Linked (first last : Shelf) : List Turn → Prop
  | [] => first = last
  | t :: rest => first = t.before ∧ Linked t.after last rest

theorem Linked.snoc {first last : Shelf} {turns : List Turn} (h : Linked first last turns)
    (i : ThreadId) (next : Shelf) : Linked first next (turns ++ [⟨i, last, next⟩]) := by
  induction turns generalizing first with
  | nil => exact ⟨h, rfl⟩
  | cons t rest ih => exact ⟨h.1, ih h.2⟩

/-- What an action of a thread does to the turns that have ended and to whose turn it is. -/
inductive Turn.Step (i : ThreadId) :
    List Turn → Option ThreadId → List Turn → Option ThreadId → Prop
  | stay (turns : List Turn) (holder : Option ThreadId) : Step i turns holder turns holder
  | enter (turns : List Turn) : Step i turns none turns (some i)
  | leave (turns : List Turn) (before after : Shelf) :
    Step i turns (some i) (turns ++ [⟨i, before, after⟩]) none

/-- Some threads, a shared state, what each thread knows of it, the turns that have ended, in
order, and the thread whose turn it is. -/
structure Tidy (x : Site) (threads : Nat) (first : Shelf) (w : World) (views : ThreadId → View)
    (turns : List Turn) (holder : Option ThreadId) : Prop where
  sound : (w.locks x.table).Sound
  calm : (w.backend x.store).Calm
  here : ∀ k ∈ (w.locks x.table).tickets, k.session = x.session ∧ k.thread < threads
  tickets_eq : ∀ i, (views i).tickets = (w.locks x.table).ticketsOf i
  sees : ∀ i, (views i).Sees x (x.shelf w)
  turns_eq : ∀ i, (views i).turns =
    (turns.filter fun t => decide (t.thread = i)).map fun t => (t.before, t.after)
  inside_iff : ∀ i, (views i).inside = true ↔ holder = some i
  linked : Linked first (holder.elim (x.shelf w) fun i => (views i).since) turns

namespace Tidy

variable {x : Site} {threads : Nat} {first : Shelf} {w w' : World} {views : ThreadId → View}
  {turns : List Turn} {holder : Option ThreadId} (h : Tidy x threads first w views turns holder)
  {i : ThreadId} {v : View}

include h

theorem shelf_eq (hinside : (views i).inside = true) : (views i).shelf = x.shelf w := by
  have hsees := h.sees i
  rw [View.Sees, if_pos hinside] at hsees
  exact hsees.symm

theorem stay (hsound : (w'.locks x.table).Sound) (hcalm : (w'.backend x.store).Calm)
    (hhere : ∀ k ∈ (w'.locks x.table).tickets, k.session = x.session ∧ k.thread < threads)
    (htickets : ∀ j, (Function.update views i v j).tickets = (w'.locks x.table).ticketsOf j)
    (hsees : v.Sees x (x.shelf w')) (hallows : x.allows (x.shelf w) (x.shelf w'))
    (hkeeps : (views i).inside = false → x.shelf w' = x.shelf w)
    (hinside : v.inside = (views i).inside) (hsince : v.since = (views i).since)
    (hturns : v.turns = (views i).turns) :
    Tidy x threads first w' (Function.update views i v) turns holder where
  sound := hsound
  calm := hcalm
  here := hhere
  tickets_eq := htickets
  sees := by
    refine (Function.forall_update_iff views fun _ u => u.Sees x (x.shelf w')).mpr
      ⟨hsees, fun j hj => ?_⟩
    have hold := h.sees j
    rw [View.Sees] at hold ⊢
    split at hold
    · -- another thread is inside, so this one is not
      rename_i hother
      have hout : (views i).inside = false := by
        rw [Bool.eq_false_iff]
        intro hthis
        have hboth := ((h.inside_iff j).mp hother).symm.trans ((h.inside_iff i).mp hthis)
        exact hj (Option.some.inj hboth)
      rw [if_pos hother, hkeeps hout, hold]
    · rename_i hother
      rw [if_neg hother]
      exact x.trans hold hallows
  turns_eq := by
    refine (Function.forall_update_iff views fun j u => u.turns = _).mpr
      ⟨hturns.trans (h.turns_eq i), fun j _ => h.turns_eq j⟩
  inside_iff := by
    refine (Function.forall_update_iff views fun j u => u.inside = true ↔ _).mpr
      ⟨hinside ▸ h.inside_iff i, fun j _ => h.inside_iff j⟩
  linked := by
    have hlinked := h.linked
    cases hholder : holder with
    | none =>
      have hout : (views i).inside = false := by
        rw [Bool.eq_false_iff, Ne, h.inside_iff i, hholder]
        simp
      rw [hholder] at hlinked
      rw [Option.elim_none, hkeeps hout]
      exact hlinked
    | some j =>
      rw [hholder] at hlinked
      rw [Option.elim_some]
      by_cases hj : j = i
      · rw [hj, Function.update_self, hsince, ← hj]
        exact hlinked
      · rw [Function.update_of_ne hj]
        exact hlinked

theorem access (hlocks : (w'.locks x.table).Sound ∧
      (w'.locks x.table).tickets = (w.locks x.table).tickets)
    (hcalm : (w'.backend x.store).Calm) (htickets : v.tickets = (views i).tickets)
    (hsees : v.Sees x (x.shelf w')) (hallows : x.allows (x.shelf w) (x.shelf w'))
    (hkeeps : (views i).inside = false → x.shelf w' = x.shelf w)
    (hsince : v.since = (views i).since) (hturns : v.turns = (views i).turns) :
    Tidy x threads first w' (Function.update views i v) turns holder := by
  refine h.stay hlocks.1 hcalm (hlocks.2 ▸ h.here) ?_ hsees hallows hkeeps ?_ hsince hturns
  · have hsame : ∀ j, (w'.locks x.table).ticketsOf j = (views j).tickets := by
      intro j
      rw [LockTable.ticketsOf, hlocks.2, ← LockTable.ticketsOf, ← h.tickets_eq j]
    exact (Function.forall_update_iff views fun j u => u.tickets = _).mpr
      ⟨htickets.trans (hsame i).symm, fun j _ => (hsame j).symm⟩
  · rw [View.inside, htickets, View.inside]

theorem work (hlocks : (w'.locks x.table).Sound ∧
      (w'.locks x.table).tickets = (w.locks x.table).tickets)
    (hbackend : w'.backend x.store = w.backend x.store) (htickets : v.tickets = (views i).tickets)
    (hshelf : v.shelf = (views i).shelf) (hsince : v.since = (views i).since)
    (hturns : v.turns = (views i).turns) :
    Tidy x threads first w' (Function.update views i v) turns holder := by
  have hstays : x.shelf w' = x.shelf w := by
    rw [Site.shelf, hbackend, Site.shelf]
  have hcalm : (w'.backend x.store).Calm := by
    rw [hbackend]
    exact h.calm
  refine h.access hlocks hcalm htickets ?_ (hstays ▸ x.refl _) (fun _ => hstays) hsince hturns
  have hsees := h.sees i
  rw [View.Sees, View.inside] at hsees ⊢
  rwa [htickets, hshelf, hstays]

/-! ### A change of the lock table -/

section Locking

variable {l : LockTable} (hsound : l.Sound)
  (hhere : ∀ k ∈ l.tickets, k.session = x.session ∧ k.thread < threads)
  (htickets : ∀ j, (Function.update views i v j).tickets = l.ticketsOf j)

include hsound hhere htickets

/-- The thread draws a ticket, or gets or gives back a level of the lock that is not the first. -/
theorem locking (hsees : v.Sees x (x.shelf w)) (hinside : v.inside = (views i).inside)
    (hsince : v.since = (views i).since) (hturns : v.turns = (views i).turns) :
    Tidy x threads first (w.setLocks x.table l) (Function.update views i v) turns holder := by
  have hlocks : (w.setLocks x.table l).locks x.table = l := by
    rw [World.locks_setLocks, if_pos rfl]
  refine h.stay (hlocks.symm ▸ hsound) ?_ (hlocks.symm ▸ hhere) (hlocks.symm ▸ htickets) ?_ ?_ ?_
    hinside hsince hturns
  · rw [World.backend_setLocks]
    exact h.calm
  · rw [Site.shelf_setLocks]
    exact hsees
  · rw [Site.shelf_setLocks]
    exact x.refl _
  · exact fun _ => Site.shelf_setLocks ..

theorem enter (hv : v.shelf = x.shelf w) (hinside : v.inside = true)
    (hout : (views i).inside = false) (hsince : v.since = x.shelf w)
    (hturns : v.turns = (views i).turns) :
    Turn.Step i turns holder turns (some i) ∧
      Tidy x threads first (w.setLocks x.table l) (Function.update views i v) turns (some i) := by
  have halone : ∀ j, j ≠ i → (views j).inside ≠ true := by
    intro j hj hother
    have hself := htickets i
    have hstill := htickets j
    rw [Function.update_self] at hself
    rw [Function.update_of_ne hj] at hstill
    rw [View.inside, hself] at hinside
    rw [View.inside, hstill] at hother
    exact hj (hsound.eq_of_holds (fun k hk => (hhere k hk).1) hother hinside)
  have hnone : holder = none := by
    cases hholder : holder with
    | none => rfl
    | some j =>
      have hj := (h.inside_iff j).mpr hholder
      by_cases hji : j = i
      · rw [hji, hout] at hj
        exact absurd hj (by decide)
      · exact absurd hj (halone j hji)
  have hlocks : (w.setLocks x.table l).locks x.table = l := by
    rw [World.locks_setLocks, if_pos rfl]
  refine ⟨hnone ▸ .enter turns, hlocks.symm ▸ hsound, ?_, hlocks.symm ▸ hhere,
    hlocks.symm ▸ htickets, ?_, ?_, ?_, ?_⟩
  · rw [World.backend_setLocks]
    exact h.calm
  · rw [Site.shelf_setLocks]
    refine (Function.forall_update_iff views fun _ u => u.Sees x (x.shelf w)).mpr
      ⟨?_, fun j _ => h.sees j⟩
    rw [View.Sees, if_pos hinside, hv]
  · exact (Function.forall_update_iff views fun j u => u.turns = _).mpr
      ⟨hturns.trans (h.turns_eq i), fun j _ => h.turns_eq j⟩
  · exact (Function.forall_update_iff views fun j u => u.inside = true ↔ some i = some j).mpr
      ⟨iff_of_true hinside rfl, fun j hj => iff_of_false (halone j hj)
        fun heq => hj (Option.some.inj heq).symm⟩
  · have hlinked := h.linked
    rw [hnone] at hlinked
    rw [Option.elim_some, Function.update_self, hsince]
    exact hlinked

theorem leave (hv : v.shelf = (views i).shelf) (hinside : v.inside = false)
    (hin : (views i).inside = true)
    (hturns : v.turns = (views i).turns ++ [((views i).since, (views i).shelf)]) :
    Turn.Step i turns holder (turns ++ [⟨i, (views i).since, (views i).shelf⟩]) none ∧
      Tidy x threads first (w.setLocks x.table l) (Function.update views i v)
        (turns ++ [⟨i, (views i).since, (views i).shelf⟩]) none := by
  have hsome := (h.inside_iff i).mp hin
  have hlocks : (w.setLocks x.table l).locks x.table = l := by
    rw [World.locks_setLocks, if_pos rfl]
  refine ⟨hsome ▸ .leave turns _ _, hlocks.symm ▸ hsound, ?_, hlocks.symm ▸ hhere,
    hlocks.symm ▸ htickets, ?_, ?_, ?_, ?_⟩
  · rw [World.backend_setLocks]
    exact h.calm
  · rw [Site.shelf_setLocks]
    refine (Function.forall_update_iff views fun _ u => u.Sees x (x.shelf w)).mpr
      ⟨?_, fun j _ => h.sees j⟩
    rw [View.Sees, hinside, if_neg (by decide), hv, h.shelf_eq hin]
    exact x.refl _
  · refine (Function.forall_update_iff views fun j u => u.turns = _).mpr ⟨?_, fun j hj => ?_⟩
    · rw [hturns, h.turns_eq i, List.filter_append, List.map_append]
      simp
    · rw [h.turns_eq j, List.filter_append, List.map_append]
      simp [Ne.symm hj]
  · refine (Function.forall_update_iff views fun j u => u.inside = true ↔ none = some j).mpr
      ⟨by simp [hinside], fun j hj => ?_⟩
    rw [h.inside_iff j, hsome]
    exact iff_of_false (fun heq => hj (Option.some.inj heq).symm) (by simp)
  · have hlinked := h.linked
    rw [hsome, Option.elim_some] at hlinked
    rw [Option.elim_none, Site.shelf_setLocks, ← h.shelf_eq hin]
    exact hlinked.snoc i _

end Locking

end Tidy

end SessionCart
