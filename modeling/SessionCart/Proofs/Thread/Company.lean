import Mathlib.Data.List.Nodup
import Mathlib.Tactic.Tauto
import SessionCart.Proofs.Lock.Exclusion
import SessionCart.Proofs.Thread.Logic
import SessionCart.Proofs.Turn.Order

/-!
# A thread in company

Other threads act between the actions of a thread. Of what is shared they leave the thread's own
tickets alone, and they may leave parts of storage alone, for good or while the thread has a lock.
What a thread knows for certain then is its grip, and the logic of a company says how the actions of
the thread change it. Whatever the others do, the thread ends with a grip that fits the world.
-/

namespace SessionCart

/-! ### Routines among others -/

namespace Routine

variable {α : Type} {i : ThreadId} {others others' : World → World → Prop}

/-- A thread that has this routine to do on this world and workspace may come to this outcome, world
and workspace, where others act before each of its actions on the shared state. -/
inductive Ends (i : ThreadId) (others : World → World → Prop) :
    Routine α → World → Workspace → Except Failure α → World → Workspace → Prop
  | done (a : α) (w : World) (l : Workspace) : Ends i others (.done a) w l (.ok a) w l
  | fail (f : Failure) (w : World) (l : Workspace) : Ends i others (.fail f) w l (.error f) w l
  | own {a : Workspace.Action} {next : a.Reply → Routine α} {w w' : World} {l l' : Workspace}
    {out : Except Failure α} :
    Ends i others (next (l.perform a).1) w (l.perform a).2 out w' l' →
    Ends i others (.act (.own a) next) w l out w' l'
  | world {a : World.Action} {next : a.Reply → Routine α} {w w₁ w₂ w' : World}
    {l l' : Workspace} {out : Except Failure α} {reply : a.Reply} :
    others w w₁ → w₁.perform i a = some (reply, w₂) →
    Ends i others (next reply) w₂ l out w' l' → Ends i others (.act (.world a) next) w l out w' l'
  | expire {a : World.Action} {next : a.Reply → Routine α} {w w₁ w' : World}
    {l l' : Workspace} {out : Except Failure α} {reply : a.Reply} :
    others w w₁ → w₁.perform i a = none → a.expired? = some reply →
    Ends i others (next reply) w₁ l out w' l' → Ends i others (.act (.world a) next) w l out w' l'

theorem ends_own_iff {a : Workspace.Action} {next : a.Reply → Routine α} {w w' : World}
    {l l' : Workspace} {out : Except Failure α} : Ends i others (.act (.own a) next) w l out w' l' ↔
      Ends i others (next (l.perform a).1) w (l.perform a).2 out w' l' := by
  refine ⟨fun h => ?_, .own⟩
  cases h with
  | own h => exact h

theorem ends_done_iff {y : α} {w w' : World} {l l' : Workspace} {out : Except Failure α} :
    (done y).Ends i others w l out w' l' ↔ out = .ok y ∧ w' = w ∧ l' = l := by
  constructor
  · intro h
    cases h
    exact ⟨rfl, rfl, rfl⟩
  · rintro ⟨rfl, rfl, rfl⟩
    exact .done ..

theorem ends_fail_iff {f : Failure} {w w' : World} {l l' : Workspace} {out : Except Failure α} :
    Ends i others (.fail f) w l out w' l' ↔ out = .error f ∧ w' = w ∧ l' = l := by
  constructor
  · intro h
    cases h
    exact ⟨rfl, rfl, rfl⟩
  · rintro ⟨rfl, rfl, rfl⟩
    exact .fail ..

theorem ends_map_iff {β : Type} {r : Routine α} {f : α → β} {w w' : World} {l l' : Workspace}
    {out : Except Failure β} : (r >>= fun a => done (f a)).Ends i others w l out w' l' ↔
      ∃ out₀, r.Ends i others w l out₀ w' l' ∧ out = out₀.map f := by
  constructor
  · intro h
    induction r generalizing w l with
    | done a =>
      obtain ⟨rfl, rfl, rfl⟩ := ends_done_iff.mp h
      exact ⟨_, .done .., rfl⟩
    | fail e =>
      obtain ⟨rfl, rfl, rfl⟩ := ends_fail_iff.mp h
      exact ⟨_, .fail .., rfl⟩
    | act a next ih =>
      cases h with
      | own h => exact (ih _ h).imp fun _ ⟨h, hout⟩ => ⟨.own h, hout⟩
      | world hothers hperform h =>
        exact (ih _ h).imp fun _ ⟨h, hout⟩ => ⟨.world hothers hperform h, hout⟩
      | expire hothers hperform hexpired h =>
        exact (ih _ h).imp fun _ ⟨h, hout⟩ => ⟨.expire hothers hperform hexpired h, hout⟩
  · rintro ⟨out₀, h, rfl⟩
    induction h with
    | done => exact .done ..
    | fail => exact .fail ..
    | own _ ih => exact .own ih
    | world hothers hperform _ ih => exact .world hothers hperform ih
    | expire hothers hperform hexpired _ ih => exact .expire hothers hperform hexpired ih

/-- What a thread can do alone it can do among others, if they may keep still. -/
theorem ends_of_run (hstill : ∀ w, others w w) {r : Routine α} {patient : Bool}
    {w w' : World} {l l' : Workspace} {out : Except Failure α}
    (hrun : r.run patient i w l = .finished out w' l') : r.Ends i others w l out w' l' := by
  induction r generalizing w l with
  | done a =>
    cases hrun
    exact .done ..
  | fail f =>
    cases hrun
    exact .fail ..
  | act a next ih =>
    cases a with
    | own a => exact .own (ih _ hrun)
    | world a =>
      rw [run] at hrun
      split at hrun
      · rename_i reply w₁ hperform
        exact .world (hstill w) hperform (ih _ hrun)
      · rename_i hperform
        split at hrun
        · rename_i reply hexpired
          refine .expire (hstill w) hperform ?_ (ih _ hrun)
          split at hexpired
          · cases hexpired
          · exact hexpired
        · cases hrun

end Routine

/-! ### The tickets of a thread -/

namespace LockTable

/-- The tickets of a thread, as holds of a table of this name, and whether they hold their locks. -/
def holdsOf (t : LockTable) (name : TableName) (i : ThreadId) : List (Hold × Bool) :=
  (t.tickets.filter fun k => decide (k.thread = i)).map fun k => (⟨name, k.session, k.id⟩, k.held)

variable {t t' : LockTable} {name : TableName} {i : ThreadId} {h : Hold} {held : Bool}

theorem mem_holdsOf_iff : (h, held) ∈ t.holdsOf name i ↔
    ∃ k ∈ t.tickets, k.thread = i ∧ h = ⟨name, k.session, k.id⟩ ∧ k.held = held := by
  simp only [holdsOf, List.mem_map, List.mem_filter, decide_eq_true_eq, Prod.mk.injEq]
  constructor
  · rintro ⟨k, ⟨hk, hi⟩, hhold, hheld⟩
    exact ⟨k, hk, hi, hhold.symm, hheld⟩
  · rintro ⟨k, hk, hi, hhold, hheld⟩
    exact ⟨k, ⟨hk, hi⟩, hhold.symm, hheld⟩

theorem holdsOf_draw (t : LockTable) (name : TableName) (i : ThreadId) (session : SessionId) :
    (t.draw i session).2.holdsOf name i =
      t.holdsOf name i ++ [(⟨name, session, t.nextTicket⟩, false)] := by
  simp [holdsOf, tickets_draw]

namespace Sound

variable (ht : t.Sound)

include ht

theorem nodup_holdsOf (name : TableName) (i : ThreadId) :
    ((t.holdsOf name i).map Prod.fst).Nodup := by
  rw [holdsOf, List.map_map]
  refine List.Nodup.of_map Hold.ticket ?_
  rw [List.map_map]
  exact ht.ids_nodup.sublist (List.filter_sublist.map _)

/-- The ticket of a hold is the only one of its thread with its number. -/
theorem hold_eq {k : Ticket} (hk : k ∈ t.tickets) (hmem : (h, held) ∈ t.holdsOf name i)
    (hid : k.id = h.ticket) : k.session = h.session ∧ k.thread = i ∧ k.held = held := by
  obtain ⟨j, hj, hthread, rfl, hheld⟩ := mem_holdsOf_iff.mp hmem
  obtain rfl := ht.ticket_eq hk hj hid
  exact ⟨rfl, hthread, hheld⟩

theorem holdsOf_grant (hmem : (h, held) ∈ t.holdsOf name i)
    (hgrant : t.grant h.ticket = some t') :
    t'.holdsOf name i = (t.holdsOf name i).map fun e => if e.1 = h then (e.1, true) else e := by
  obtain ⟨_, _, _, _, _, rfl⟩ := grant_eq_some hgrant
  have hname : h.table = name := by
    obtain ⟨_, _, _, rfl, _⟩ := mem_holdsOf_iff.mp hmem
    rfl
  rw [holdsOf, filter_markHeld fun _ => rfl, markHeld, holdsOf, List.map_map, List.map_map]
  refine List.map_congr_left fun k hk => ?_
  simp only [Function.comp_apply]
  by_cases hid : k.id = h.ticket
  · have hsession := (ht.hold_eq (List.mem_filter.mp hk).1 hmem hid).1
    have hhold : (⟨name, k.session, k.id⟩ : Hold) = h := by
      rw [hsession, hid, ← hname]
    rw [if_pos hid, if_pos hhold]
  · rw [if_neg hid, if_neg fun hhold => hid (congrArg Hold.ticket hhold)]

theorem holdsOf_giveBack (hmem : (h, held) ∈ t.holdsOf name i) :
    (t.giveBack h.ticket).2.holdsOf name i =
      (t.holdsOf name i).filter fun e => decide (e.1 ≠ h) := by
  have hname : h.table = name := by
    obtain ⟨_, _, _, rfl, _⟩ := mem_holdsOf_iff.mp hmem
    rfl
  rw [holdsOf, tickets_giveBack, holdsOf, List.filter_map, List.filter_filter, List.filter_filter]
  congr 1
  refine List.filter_congr fun k hk => ?_
  simp only [Function.comp_apply]
  by_cases hid : k.id = h.ticket
  · have hsession := (ht.hold_eq hk hmem hid).1
    have hhold : (⟨name, k.session, k.id⟩ : Hold) = h := by
      rw [hsession, hid, ← hname]
    rw [hid] at hhold
    simp [hid, hhold]
  · have hhold : (⟨name, k.session, k.id⟩ : Hold) ≠ h := fun heq =>
      hid (congrArg Hold.ticket heq)
    simp [hid, hhold]

theorem isGone_of_giveBack (hmem : (h, held) ∈ t.holdsOf name i) :
    (t.giveBack h.ticket).2.IsGone h.ticket := by
  obtain ⟨k, hk, _, rfl, _⟩ := mem_holdsOf_iff.mp hmem
  refine ⟨?_, fun j hj => ?_⟩
  · rw [LockTable.giveBack_eq (ticket?_of_mem ht.ids_nodup hk)]
    exact ht.id_lt k hk
  · rw [tickets_giveBack] at hj
    simpa using (List.mem_filter.mp hj).2

theorem giveBack_reply (hmem : (h, held) ∈ t.holdsOf name i) :
    (t.giveBack h.ticket).1 = held := by
  obtain ⟨k, hk, _, rfl, rfl⟩ := mem_holdsOf_iff.mp hmem
  rw [LockTable.giveBack_eq (ticket?_of_mem ht.ids_nodup hk)]

theorem depth_eq_holdsOf (name : TableName) (i : ThreadId) (session : SessionId) :
    t.depth i session =
      (t.holdsOf name i).countP fun e => e.2 && decide (e.1.session = session) := by
  rw [ht.depth_eq, holdsOf, List.countP_map, List.countP_filter]
  refine List.countP_congr fun k _ => ?_
  simp only [Function.comp_apply, Bool.and_eq_true, decide_eq_true_eq]
  tauto

end Sound

end LockTable

/-! ### What a thread knows -/

/-- What is stored, in each store and for each session. -/
abbrev Storage := StoreName → SessionId → Shelf

namespace Storage

def put (st : Storage) (s : StoreName) (session : SessionId) (shelf : Shelf) : Storage :=
  fun s' session' => if s = s' ∧ session = session' then shelf else st s' session'

variable {st : Storage} {s s' : StoreName} {session session' : SessionId} {shelf : Shelf}

@[simp]
theorem put_same : st.put s session shelf s session = shelf := if_pos ⟨rfl, rfl⟩

end Storage

def World.storage (w : World) : Storage := fun s session => ⟨(w.backend s).store.get? session⟩

/-- What a thread knows of itself and of storage. -/
structure Grip where
  workspace : Workspace
  /-- Its tickets, and whether they hold their locks. -/
  tickets : List (Hold × Bool)
  /-- Holds that it has given back. -/
  gone : List Hold
  storage : Storage

namespace Grip

variable (g : Grip)

/-- The thread has a level of a lock by this hold. -/
def Has (h : Hold) : Prop := (h, true) ∈ g.tickets

def work (l : Workspace) : Grip := { g with workspace := l }

def see (st : Storage) : Grip := { g with storage := st }

def put (s : StoreName) (session : SessionId) (shelf : Shelf) : Grip :=
  g.see (g.storage.put s session shelf)

def draw (h : Hold) : Grip := { g with tickets := g.tickets ++ [(h, false)] }

def enter (h : Hold) : Grip :=
  { g with tickets := g.tickets.map fun e => if e.1 = h then (e.1, true) else e }

def leave (h : Hold) : Grip :=
  { g with tickets := g.tickets.filter (fun e => decide (e.1 ≠ h)), gone := h :: g.gone }

/-- The thread has got one more level of a lock. -/
def take (h : Hold) : Grip := { g with tickets := g.tickets ++ [(h, true)] }

end Grip

/-- What the other threads leave alone, by the locks that the thread has. -/
structure Company where
  leaves : (Hold → Prop) → StoreName → SessionId → Prop
  mono : ∀ {has has' : Hold → Prop} {s : StoreName} {session : SessionId},
    (∀ h, has h → has' h) → leaves has s session → leaves has' s session
  /-- No party changes storage on the occasion of a read. -/
  calm : Prop
  calm_of_leaves : ∀ {has : Hold → Prop} {s : StoreName} {session : SessionId},
    leaves has s session → calm

namespace Company

variable (C : Company)

/-- Storage may be so after the others have acted. -/
def Near (g : Grip) (st : Storage) : Prop :=
  ∀ s session, C.leaves g.Has s session → st s session = g.storage s session

/-- One action of the thread on the shared state, with `next` of whatever it may answer. -/
def Acts (g : Grip) : (a : World.Action) → (next : a.Reply → Grip → Prop) → Prop
  | .get s session name, next =>
    (∀ fault, next (.error fault) g) ∧
      ∀ st, C.Near g st → next (.ok ((g.storage s session).value name)) (g.see st)
  | .set s session name value, next =>
    (∀ fault, next (.error fault) g) ∧
      next (.ok ()) (g.put s session ((g.storage s session).set name value))
  | .remove s session name, next =>
    (∀ fault, next (.error fault) g) ∧
      next (.ok ((g.storage s session).value name))
        (g.put s session ((g.storage s session).remove name))
  | .invalidate s session, next =>
    (∀ fault, next (.error fault) g) ∧ next (.ok ()) (g.put s session .empty)
  | .draw t session, next =>
    ∀ key, (∀ e ∈ g.tickets, e.1 ≠ ⟨t, session, key⟩) → next key (g.draw ⟨t, session, key⟩)
  | .await t key limit, next =>
    ∃ session, (⟨t, session, key⟩, false) ∈ g.tickets ∧ next true (g.enter ⟨t, session, key⟩) ∧
      (limit.isSome = true → next false g)
  | .giveBack t key, next =>
    ∃ session, (∃ held, (⟨t, session, key⟩, held) ∈ g.tickets ∧
      next held (g.leave ⟨t, session, key⟩)) ∨ ⟨t, session, key⟩ ∈ g.gone ∧ next false g
  | .prune _, next => ∀ n, next n g
  | .count _, next => ∀ n, next n g

theorem Acts.mono {g : Grip} {a : World.Action} {next next' : a.Reply → Grip → Prop}
    (hnext : ∀ reply g', next reply g' → next' reply g') (h : C.Acts g a next) :
    C.Acts g a next' := by
  cases a with
  | get s session name =>
    exact ⟨fun fault => hnext _ _ (h.1 fault), fun st hst => hnext _ _ (h.2 st hst)⟩
  | set s session name value => exact ⟨fun fault => hnext _ _ (h.1 fault), hnext _ _ h.2⟩
  | remove s session name => exact ⟨fun fault => hnext _ _ (h.1 fault), hnext _ _ h.2⟩
  | invalidate s session => exact ⟨fun fault => hnext _ _ (h.1 fault), hnext _ _ h.2⟩
  | draw t session => exact fun key hfresh => hnext _ _ (h key hfresh)
  | await t key limit =>
    obtain ⟨session, hmem, hgot, hexpired⟩ := h
    exact ⟨session, hmem, hnext _ _ hgot, fun hlimit => hnext _ _ (hexpired hlimit)⟩
  | giveBack t key =>
    obtain ⟨session, ⟨held, hmem, h⟩ | ⟨hgone, h⟩⟩ := h
    · exact ⟨session, .inl ⟨held, hmem, hnext _ _ h⟩⟩
    · exact ⟨session, .inr ⟨hgone, hnext _ _ h⟩⟩
  | prune t => exact fun n => hnext _ _ (h n)
  | count label => exact fun n => hnext _ _ (h n)

theorem Acts.expire {g : Grip} {a : World.Action} {next : a.Reply → Grip → Prop}
    (hacts : C.Acts g a next) {reply : a.Reply} (hexpired : a.expired? = some reply) :
    next reply g := by
  cases a with
  | await t key limit =>
    obtain ⟨_, _, _, hlimit⟩ := hacts
    cases limit with
    | none => cases hexpired
    | some d =>
      cases hexpired
      exact hlimit rfl
  | _ => cases hexpired

/-- The logic of a thread in company: before an action on the shared state the others act. -/
def logic : Logic Grip where
  does g
    | .own a, next => next (g.workspace.perform a).1 (g.work (g.workspace.perform a).2)
    | .world a, next => ∀ st, C.Near g st → C.Acts (g.see st) a next
  mono {_ a _ _} hnext h := by
    cases a with
    | own a => exact hnext _ _ h
    | world a => exact fun st hst => Acts.mono C hnext (h st hst)

end Company

/-! ### What a thread knows is so -/

/-- A grip of a thread fits the world. -/
structure Grip.Fits (C : Company) (i : ThreadId) (g : Grip) (w : World) : Prop where
  sound : ∀ t, (w.locks t).Sound
  tickets_eq : ∀ t, g.tickets.filter (fun e => decide (e.1.table = t)) = (w.locks t).holdsOf t i
  gone : ∀ h ∈ g.gone, (w.locks h.table).IsGone h.ticket
  storage_eq : g.storage = w.storage
  calm : C.calm → ∀ s, (w.backend s).intrusion = none

/-- Whatever the others do, they leave alone what the company says. -/
def Company.Bounds (C : Company) (i : ThreadId) (others : World → World → Prop) : Prop :=
  ∀ g w w', others w w' → g.Fits C i w → ∃ st, C.Near g st ∧ (g.see st).Fits C i w'

theorem World.backend_setBackend_eq (w : World) (s s' : StoreName) (b : Backend) :
    (w.setBackend s b).backend s' = if s = s' then b else w.backend s' := by
  cases s <;> cases s' <;> rfl

@[simp]
theorem World.storage_setLocks (w : World) (t : TableName) (l : LockTable) :
    (w.setLocks t l).storage = w.storage := by
  funext s session
  simp [storage]

theorem World.storage_setBackend (w : World) (s : StoreName) (b : Backend) (session : SessionId)
    (shelf : Shelf) (hstore : ∀ session' name, b.store.get? session' name =
      if session = session' then shelf.value name
      else (w.backend s).store.get? session' name) :
    (w.setBackend s b).storage = w.storage.put s session shelf := by
  funext s' session'
  refine Shelf.ext (funext fun name => ?_)
  simp only [storage, Storage.put, backend_setBackend_eq]
  by_cases hs : s = s'
  · subst hs
    by_cases hsession : session = session' <;> simp [hstore, hsession]
  · simp [hs]

theorem World.storage_setBackend_same (w : World) (s : StoreName) {b : Backend}
    (hstore : b.store = (w.backend s).store) : (w.setBackend s b).storage = w.storage := by
  funext s' session'
  simp only [storage, backend_setBackend_eq]
  split
  · rename_i hs
    rw [hstore, hs]
  · rfl

namespace Grip.Fits

variable {C : Company} {i : ThreadId} {g : Grip} {w w' : World} (h : g.Fits C i w)

include h

theorem mem_iff {e : Hold × Bool} :
    e ∈ g.tickets ↔ e ∈ (w.locks e.1.table).holdsOf e.1.table i := by
  rw [← h.tickets_eq]
  simp

theorem nodup : (g.tickets.map Prod.fst).Nodup := by
  rw [List.nodup_map_iff_inj_on]
  · intro e he e' he' heq
    rw [h.mem_iff] at he he'
    rw [← heq] at he'
    exact List.inj_on_of_nodup_map ((h.sound _).nodup_holdsOf _ i) he he' heq
  · -- an entry is listed as often as among the tickets of its table
    rw [List.nodup_iff_count_le_one]
    intro e
    have hcount : List.count e g.tickets =
        List.count e (g.tickets.filter fun e' => decide (e'.1.table = e.1.table)) :=
      (List.count_filter (by simp)).symm
    rw [hcount, h.tickets_eq]
    exact List.nodup_iff_count_le_one.mp (List.Nodup.of_map _ ((h.sound _).nodup_holdsOf _ i)) e

theorem depth_eq (t : TableName) (session : SessionId) : (w.locks t).depth i session =
    g.tickets.countP fun e =>
      e.2 && decide (e.1.session = session) && decide (e.1.table = t) := by
  rw [(h.sound t).depth_eq_holdsOf t i session, ← h.tickets_eq t, List.countP_filter]

theorem setBackend {s : StoreName} {b : Backend} {st : Storage}
    (hst : st = (w.setBackend s b).storage) (hcalm : C.calm → b.intrusion = none) :
    (g.see st).Fits C i (w.setBackend s b) := by
  refine ⟨fun t => ?_, fun t => ?_, fun k hk => ?_, hst, fun hC s' => ?_⟩
  · rw [World.locks_setBackend]
    exact h.sound t
  · rw [World.locks_setBackend]
    exact h.tickets_eq t
  · rw [World.locks_setBackend]
    exact h.gone k hk
  · rw [World.backend_setBackend_eq]
    split
    · exact hcalm hC
    · exact h.calm hC s'

theorem noted {s : StoreName} (call : StoreCall) (session : SessionId) (name : String)
    (locked : Bool) :
    g.Fits C i (w.setBackend s ((w.backend s).note call session name locked)) := by
  have hstorage : g.storage =
      (w.setBackend s ((w.backend s).note call session name locked)).storage := by
    rw [World.storage_setBackend_same, h.storage_eq]
    rfl
  exact h.setBackend hstorage fun hC => h.calm hC s

theorem get {s : StoreName} {session : SessionId} {name : String}
    {next : Except StoreFault (Option Value) → Grip → Prop}
    (hacts : C.Acts g (.get s session name) next) {reply : Except StoreFault (Option Value)}
    (hperform : w.perform i (.get s session name) = some (reply, w')) :
    ∃ g', next reply g' ∧ g'.workspace = g.workspace ∧ g'.Fits C i w' := by
  simp only [World.perform, Option.some.injEq, Prod.mk.injEq] at hperform
  obtain ⟨rfl, rfl⟩ := hperform
  rw [Backend.get, Backend.perform]
  split
  · exact ⟨g, hacts.1 _, rfl, h.noted ..⟩
  · let b := ((w.backend s).note .get session name false).intrude session name
    -- where another party could intrude, the others leave no part of storage alone
    have hnear : C.Near g (w.setBackend s b).storage := by
      intro s' session' hleaves
      have hcalm := h.calm (C.calm_of_leaves hleaves) s
      have hsame : b = (w.backend s).note .get session name false := by
        simp [b, Backend.intrude, Backend.note, hcalm]
      rw [hsame, World.storage_setBackend_same, h.storage_eq]
      rfl
    have hvalue : ((w.backend s).note .get session name false).store.get? session name =
        (g.storage s session).value name := by
      rw [h.storage_eq]
      rfl
    have hfits : (g.see (w.setBackend s b).storage).Fits C i (w.setBackend s b) := by
      refine h.setBackend rfl fun hC => ?_
      simp [b, Backend.intrude, Backend.note, h.calm hC s]
    refine ⟨g.see (w.setBackend s b).storage, ?_, rfl, hfits⟩
    dsimp only
    rw [hvalue]
    exact hacts.2 _ hnear

theorem change {α : Type} {s : StoreName} {call : StoreCall} {session : SessionId} {name : String}
    {locked : Bool} (act : Backend → α × Backend) {shelf : Shelf} {answer : α}
    {next : Except StoreFault α → Grip → Prop} (hfault : ∀ fault, next (.error fault) g)
    (hdone : next (.ok answer) (g.put s session shelf))
    (hanswer : (act ((w.backend s).note call session name locked)).1 = answer)
    (hintrusion : (act ((w.backend s).note call session name locked)).2.intrusion =
      (w.backend s).intrusion)
    (hstore : ∀ session' name', (act ((w.backend s).note call session name locked)).2.store.get?
      session' name' = if session = session' then shelf.value name'
        else (w.backend s).store.get? session' name') :
    ∃ g', next ((w.backend s).perform call session name locked act).1 g' ∧
      g'.workspace = g.workspace ∧
      g'.Fits C i (w.setBackend s ((w.backend s).perform call session name locked act).2) := by
  rw [Backend.perform]
  dsimp only
  split
  · exact ⟨g, hfault _, rfl, h.noted ..⟩
  · refine ⟨g.put s session shelf, ?_, rfl, h.setBackend ?_ fun hC => ?_⟩
    · rw [hanswer]
      exact hdone
    · rw [World.storage_setBackend _ _ _ _ _ hstore, h.storage_eq]
    · rw [hintrusion]
      exact h.calm hC s

theorem value_eq (s : StoreName) (session : SessionId) (name : String) :
    (w.backend s).store.get? session name = (g.storage s session).value name := by
  rw [h.storage_eq]
  rfl

theorem setLocks {t : TableName} {l : LockTable} {g' : Grip} (hsound : l.Sound)
    (htickets : g'.tickets.filter (fun e => decide (e.1.table = t)) = l.holdsOf t i)
    (hother : ∀ t', t ≠ t' → g'.tickets.filter (fun e => decide (e.1.table = t')) =
      g.tickets.filter fun e => decide (e.1.table = t'))
    (hgone : ∀ k ∈ g'.gone, k ∈ g.gone ∨ k.table = t ∧ l.IsGone k.ticket)
    (hstep : (w.locks t).Step l) (hstorage : g'.storage = g.storage) :
    g'.Fits C i (w.setLocks t l) := by
  refine ⟨fun t' => ?_, fun t' => ?_, fun k hk => ?_, ?_, fun hC s => ?_⟩
  · rw [World.locks_setLocks]
    split
    · exact hsound
    · exact h.sound t'
  · rw [World.locks_setLocks]
    split
    · rename_i ht
      rw [← ht, htickets]
    · rename_i ht
      rw [hother t' ht, h.tickets_eq]
  · rcases hgone k hk with hold | ⟨rfl, hnew⟩
    · exact (h.gone k hold).step (LockTable.step_setLocks t k.table hstep)
    · rwa [World.locks_setLocks, if_pos rfl]
  · rw [hstorage, h.storage_eq, World.storage_setLocks]
  · rw [World.backend_setLocks]
    exact h.calm hC s

theorem draw {t : TableName} {session : SessionId} {next : TicketId → Grip → Prop}
    (hacts : C.Acts g (.draw t session) next) :
    ∃ g', next ((w.locks t).draw i session).1 g' ∧ g'.workspace = g.workspace ∧
      g'.Fits C i (w.setLocks t ((w.locks t).draw i session).2) := by
  have hfresh : ∀ e ∈ g.tickets, e.1 ≠ ⟨t, session, (w.locks t).nextTicket⟩ := by
    rintro ⟨k, held⟩ he rfl
    rw [h.mem_iff, LockTable.mem_holdsOf_iff] at he
    obtain ⟨k, hk, _, hhold, _⟩ := he
    exact Nat.ne_of_gt ((h.sound t).id_lt k hk) (congrArg Hold.ticket hhold)
  have hkey : ((w.locks t).draw i session).1 = (w.locks t).nextTicket := by simp [LockTable.draw]
  refine ⟨g.draw ⟨t, session, (w.locks t).nextTicket⟩, by rw [hkey]; exact hacts _ hfresh, rfl, ?_⟩
  refine h.setLocks ((h.sound t).draw i session) ?_ ?_ (fun k hk => .inl hk) (.draw i session) rfl
  · rw [LockTable.holdsOf_draw, ← h.tickets_eq]
    simp [Grip.draw]
  · intro t' ht
    simp [Grip.draw, ht]

theorem await {t : TableName} {key : TicketId} {limit : Option Duration} {l : LockTable}
    {next : Bool → Grip → Prop} (hacts : C.Acts g (.await t key limit) next)
    (hgrant : (w.locks t).grant key = some l) :
    ∃ g', next true g' ∧ g'.workspace = g.workspace ∧ g'.Fits C i (w.setLocks t l) := by
  obtain ⟨session, hmem, hgot, _⟩ := hacts
  rw [h.mem_iff] at hmem
  refine ⟨_, hgot, rfl, ?_⟩
  refine h.setLocks ((h.sound t).grant hgrant) ?_ ?_ (fun k hk => .inl hk) (.grant key hgrant) rfl
  · rw [(h.sound t).holdsOf_grant hmem hgrant, ← h.tickets_eq, Grip.enter, List.filter_map]
    refine congrArg _ (List.filter_congr fun e _ => ?_)
    simp only [Function.comp_apply]
    split <;> rfl
  · intro t' ht
    rw [Grip.enter, List.filter_map]
    have hsame : ((fun e : Hold × Bool => decide (e.1.table = t')) ∘ fun e =>
        if e.1 = ⟨t, session, key⟩ then (e.1, true) else e) =
        fun e => decide (e.1.table = t') := by
      funext e
      simp only [Function.comp_apply]
      split <;> rfl
    rw [hsame]
    refine (List.map_congr_left fun e he => ?_).trans (List.map_id _)
    rw [if_neg, id]
    rintro heq
    have htable := of_decide_eq_true (List.mem_filter.mp he).2
    rw [heq] at htable
    exact ht htable

theorem giveBack {t : TableName} {key : TicketId} {next : Bool → Grip → Prop}
    (hacts : C.Acts g (.giveBack t key) next) :
    ∃ g', next ((w.locks t).giveBack key).1 g' ∧ g'.workspace = g.workspace ∧
      g'.Fits C i (w.setLocks t ((w.locks t).giveBack key).2) := by
  obtain ⟨session, ⟨held, hmem, hnext⟩ | ⟨hgone, hnext⟩⟩ := hacts
  · rw [h.mem_iff] at hmem
    have hreply : ((w.locks t).giveBack key).1 = held := (h.sound t).giveBack_reply hmem
    refine ⟨g.leave ⟨t, session, key⟩, by rwa [hreply], rfl, ?_⟩
    refine h.setLocks ((h.sound t).giveBack key) ?_ ?_ ?_ (.giveBack key) rfl
    · rw [(h.sound t).holdsOf_giveBack hmem, ← h.tickets_eq, Grip.leave, List.filter_filter,
        List.filter_filter]
      exact List.filter_congr fun e _ => Bool.and_comm ..
    · intro t' ht
      rw [Grip.leave, List.filter_filter]
      refine List.filter_congr fun e _ => ?_
      by_cases htable : e.1.table = t'
      · have hne : e.1 ≠ ⟨t, session, key⟩ := fun heq => ht (by rw [← htable, heq])
        simp [htable, hne]
      · simp [htable]
    · intro k hk
      rcases List.mem_cons.mp hk with rfl | hk
      · exact .inr ⟨rfl, (h.sound t).isGone_of_giveBack hmem⟩
      · exact .inl hk
  · have hsame := (h.gone _ hgone).giveBack_eq
    change (w.locks t).giveBack key = _ at hsame
    refine ⟨g, by rw [hsame]; exact hnext, rfl, ?_⟩
    refine h.setLocks ((h.sound t).giveBack key) ?_ (fun _ _ => rfl) (fun k hk => .inl hk)
      (.giveBack key) rfl
    rw [hsame, h.tickets_eq]

theorem perform {a : World.Action} {next : a.Reply → Grip → Prop} (hacts : C.Acts g a next)
    {reply : a.Reply} (hperform : w.perform i a = some (reply, w')) :
    ∃ g', next reply g' ∧ g'.workspace = g.workspace ∧ g'.Fits C i w' := by
  cases a with
  | get s session name => exact h.get hacts hperform
  | set s session name value =>
    cases hperform
    refine h.change (fun b => ((), { b with store := b.store.set session name value }))
      hacts.1 hacts.2 rfl rfl fun session' name' => ?_
    by_cases hsession : session = session'
    · subst hsession
      simp [h.value_eq]
    · simp [hsession]
  | remove s session name =>
    cases hperform
    refine h.change (fun b => (b.store.get? session name,
      { b with store := b.store.remove session name })) hacts.1 hacts.2 (h.value_eq ..) rfl
      fun session' name' => ?_
    by_cases hsession : session = session'
    · subst hsession
      simp [h.value_eq]
    · simp [hsession]
  | invalidate s session =>
    cases hperform
    refine h.change (fun b => ((), { b with store := b.store.invalidate session }))
      hacts.1 hacts.2 rfl rfl fun session' name' => ?_
    simp [Shelf.empty]
  | draw t session =>
    cases hperform
    exact h.draw hacts
  | await t key limit =>
    obtain ⟨l, hgrant, heq⟩ := Option.map_eq_some_iff.mp hperform
    cases heq
    exact h.await hacts hgrant
  | giveBack t key =>
    cases hperform
    exact h.giveBack hacts
  | prune t =>
    cases hperform
    refine ⟨g, hacts _, rfl, ?_⟩
    exact h.setLocks (h.sound t).prune (h.tickets_eq t) (fun _ _ => rfl) (fun k hk => .inl hk)
      .prune rfl
  | count label =>
    cases hperform
    refine ⟨g, hacts _, rfl, fun t => ?_, fun t => ?_, fun k hk => ?_, ?_, fun hC s => ?_⟩
    · cases t
      exacts [h.sound .shared, h.sound .own]
    · cases t
      exacts [h.tickets_eq .shared, h.tickets_eq .own]
    · have hgone := h.gone k hk
      cases htable : k.table <;> rw [htable] at hgone <;> exact hgone
    · rw [h.storage_eq]
      funext s session
      cases s <;> rfl
    · cases s
      exacts [h.calm hC .main, h.calm hC .alt]

end Grip.Fits

/-- **What a thread knows is so.** Whatever others do that leave alone what the company says, a
routine of a thread ends as the logic of the company says, with a grip that fits the world. -/
theorem Routine.Ends.sound {C : Company} {i : ThreadId} {others : World → World → Prop}
    (hothers : C.Bounds i others) {α : Type} {r : Routine α} {w w' : World} {l l' : Workspace}
    {out : Except Failure α} (hends : r.Ends i others w l out w' l') {g : Grip}
    (hfits : g.Fits C i w) (hl : g.workspace = l) {Q : Except Failure α → Grip → Prop}
    (hwp : C.logic.wp Q r g) : ∃ g', g'.Fits C i w' ∧ g'.workspace = l' ∧ Q out g' := by
  induction hends generalizing g with
  | done a w l => exact ⟨g, hfits, hl, hwp⟩
  | fail f w l => exact ⟨g, hfits, hl, hwp⟩
  | own _ ih =>
    subst hl
    refine ih ?_ rfl hwp
    exact ⟨hfits.sound, hfits.tickets_eq, hfits.gone, hfits.storage_eq, hfits.calm⟩
  | world hothers' hperform _ ih =>
    obtain ⟨st, hnear, hfits⟩ := hothers _ _ _ hothers' hfits
    obtain ⟨g', hnext, hworkspace, hfits⟩ := hfits.perform (hwp st hnear) hperform
    exact ih hfits (hworkspace.trans hl) hnext
  | expire hothers' _ hexpired _ ih =>
    obtain ⟨st, hnear, hfits⟩ := hothers _ _ _ hothers' hfits
    exact ih hfits hl (Company.Acts.expire C (hwp st hnear) hexpired)

/-! ### The grip of a world, and companies -/

/-- What a thread can know of a world. -/
def Grip.of (i : ThreadId) (w : World) (l : Workspace) : Grip where
  workspace := l
  tickets := (w.locks .shared).holdsOf .shared i ++ (w.locks .own).holdsOf .own i
  gone := []
  storage := w.storage

theorem LockTable.filter_holdsOf (t : LockTable) (name name' : TableName) (i : ThreadId) :
    (t.holdsOf name i).filter (fun e => decide (e.1.table = name')) =
      if name = name' then t.holdsOf name i else [] := by
  split
  · rename_i hname
    refine List.filter_eq_self.mpr fun e he => ?_
    obtain ⟨_, _, _, hhold, _⟩ := mem_holdsOf_iff.mp he
    rw [hhold]
    exact decide_eq_true hname
  · rename_i hname
    refine List.filter_eq_nil_iff.mpr fun e he => ?_
    obtain ⟨_, _, _, hhold, _⟩ := mem_holdsOf_iff.mp he
    rw [hhold]
    simpa using hname

theorem Grip.fits_of {C : Company} {i : ThreadId} {w : World}
    (hsound : ∀ t, (w.locks t).Sound) (hcalm : C.calm → ∀ s, (w.backend s).intrusion = none)
    (l : Workspace) : (Grip.of i w l).Fits C i w := by
  refine ⟨hsound, fun t => ?_, fun _ hk => (List.not_mem_nil hk).elim, rfl, hcalm⟩
  rw [Grip.of, List.filter_append, LockTable.filter_holdsOf, LockTable.filter_holdsOf]
  cases t <;> simp

/-- Others have acted, and left the tickets of a thread alone. -/
structure World.Apart (i : ThreadId) (w w' : World) : Prop where
  sound : ∀ t, (w.locks t).Sound → (w'.locks t).Sound
  tickets_eq : ∀ t, (w'.locks t).tickets.filter (fun k => decide (k.thread = i)) =
    (w.locks t).tickets.filter fun k => decide (k.thread = i)
  gone : ∀ t id, (w.locks t).IsGone id → (w'.locks t).IsGone id

namespace World.Apart

variable {i j : ThreadId} {w w' : World}

theorem refl (i : ThreadId) (w : World) : w.Apart i w :=
  ⟨fun _ h => h, fun _ => rfl, fun _ _ h => h⟩

theorem fits {C : Company} {g : Grip} (h : w.Apart i w') (hfits : g.Fits C i w)
    (hcalm : C.calm → ∀ s, (w.backend s).intrusion = none → (w'.backend s).intrusion = none) :
    (g.see w'.storage).Fits C i w' := by
  refine ⟨fun t => h.sound t (hfits.sound t), fun t => ?_, fun k hk => h.gone _ _ (hfits.gone k hk),
    rfl, fun hC s => hcalm hC s (hfits.calm hC s)⟩
  rw [LockTable.holdsOf, h.tickets_eq, ← LockTable.holdsOf]
  exact hfits.tickets_eq t

end World.Apart

/-- Whatever a thread does among others, lock tables stay sound. -/
theorem Routine.Ends.sound_locks {α : Type} {i : ThreadId} {others : World → World → Prop}
    (hothers : ∀ w w', others w w' → w.Apart i w') {r : Routine α} {w w' : World} {l l' : Workspace}
    {out : Except Failure α} (hends : r.Ends i others w l out w' l')
    (hsound : ∀ t, (w.locks t).Sound) : ∀ t, (w'.locks t).Sound := by
  induction hends with
  | done | fail => exact hsound
  | own _ ih => exact ih hsound
  | world hacted hperform _ ih =>
    exact ih fun t =>
      ((hothers _ _ hacted).sound t (hsound t)).step (World.perform_locks hperform t)
  | expire hacted _ _ _ ih => exact ih fun t => (hothers _ _ hacted).sound t (hsound t)

/-- The action is not on a ticket of this thread. -/
def World.Action.Spares (i : ThreadId) (w : World) : World.Action → Prop
  | .await t key _ | .giveBack t key => ∀ k ∈ (w.locks t).tickets, k.id = key → k.thread ≠ i
  | _ => True

/-- Each action of another thread, on tickets of its own, leaves the thread's tickets alone. -/
theorem World.apart_of_perform {i j : ThreadId} {w w' : World} (hother : j ≠ i)
    {a : World.Action} (hspares : a.Spares i w) {reply : a.Reply}
    (hperform : w.perform j a = some (reply, w')) : w.Apart i w' := by
  have hstep := World.perform_locks hperform
  refine ⟨fun t ht => ht.step (hstep t), fun t => ?_, fun t _ hgone => hgone.step (hstep t)⟩
  have hlocks : ∀ (name : TableName) (l : LockTable),
      (l.tickets.filter fun k => decide (k.thread = i)) =
        ((w.locks name).tickets.filter fun k => decide (k.thread = i)) →
      (((w.setLocks name l).locks t).tickets.filter fun k => decide (k.thread = i)) =
        (w.locks t).tickets.filter fun k => decide (k.thread = i) := by
    intro name l hl
    rw [World.locks_setLocks]
    split
    · rename_i hname
      rw [← hname, hl]
    · rfl
  cases a with
  | get | set | remove | invalidate =>
    cases hperform
    rw [World.locks_setBackend]
  | count label =>
    cases hperform
    cases t <;> rfl
  | prune name =>
    cases hperform
    exact hlocks name _ rfl
  | draw name session =>
    cases hperform
    refine hlocks name ((w.locks name).draw j session).2 ?_
    rw [LockTable.tickets_draw]
    simp [hother]
  | giveBack name key =>
    cases hperform
    refine hlocks name ((w.locks name).giveBack key).2 ?_
    rw [LockTable.tickets_giveBack, List.filter_filter]
    refine List.filter_congr fun k hk => ?_
    by_cases hid : k.id = key
    · simp [hspares k hk hid]
    · simp [hid]
  | await name key limit =>
    obtain ⟨l, hgrant, heq⟩ := Option.map_eq_some_iff.mp hperform
    cases heq
    refine hlocks name _ ?_
    obtain ⟨_, _, _, _, _, rfl⟩ := LockTable.grant_eq_some hgrant
    rw [LockTable.filter_markHeld fun _ => rfl]
    refine LockTable.markHeld_eq_self fun k hk => ?_
    obtain ⟨hmem, hmine⟩ := List.mem_filter.mp hk
    exact fun hid => hspares k hmem hid (of_decide_eq_true hmine)

end SessionCart
