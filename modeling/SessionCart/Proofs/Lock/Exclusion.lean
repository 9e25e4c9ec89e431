import SessionCart.Concurrency.Machine
import SessionCart.Proofs.Lock.Preservation
import SessionCart.Session.Hold

/-!
# Exclusion

However threads are interleaved, whatever they do besides, and however often the lock tables are
swept meanwhile, a session has one lock at a time and at most one thread inside it.
-/

namespace SessionCart

/-! ### Everything that can happen to a table -/

inductive LockTable.Step (t : LockTable) : LockTable → Prop
  | still : Step t t
  | draw (thread : ThreadId) (session : SessionId) : Step t (t.draw thread session).2
  | grant {t' : LockTable} (id : TicketId) : t.grant id = some t' → Step t t'
  | giveBack (id : TicketId) : Step t (t.giveBack id).2
  | prune : Step t t.prune

theorem LockTable.Sound.step {t t' : LockTable} (h : t.Sound) (hstep : t.Step t') : t'.Sound := by
  cases hstep with
  | still => exact h
  | draw thread session => exact h.draw thread session
  | grant id hgrant => exact h.grant hgrant
  | giveBack id => exact h.giveBack id
  | prune => exact h.prune

/-- The ticket was drawn and is out no more. -/
def LockTable.IsGone (t : LockTable) (id : TicketId) : Prop :=
  id < t.nextTicket ∧ ∀ k ∈ t.tickets, k.id ≠ id

theorem LockTable.IsGone.step {t t' : LockTable} {id : TicketId} (h : t.IsGone id)
    (hstep : t.Step t') : t'.IsGone id := by
  obtain ⟨hlt, hout⟩ := h
  cases hstep with
  | still => exact ⟨hlt, hout⟩
  | draw thread session =>
    refine ⟨Nat.lt_succ_of_lt hlt, fun k hk => ?_⟩
    rw [tickets_draw, List.mem_append, List.mem_singleton] at hk
    rcases hk with hk | rfl
    · exact hout k hk
    · exact Nat.ne_of_gt hlt
  | grant id' hgrant =>
    obtain ⟨_, _, _, _, _, rfl⟩ := grant_eq_some hgrant
    refine ⟨hlt, fun k hk => ?_⟩
    obtain ⟨j, hj, rfl⟩ := List.mem_map.mp hk
    have := hout j hj
    split <;> exact this
  | giveBack id' =>
    cases hfind : t.ticket? id' with
    | none =>
      rw [giveBack_of_none hfind]
      exact ⟨hlt, hout⟩
    | some k =>
      rw [giveBack_eq hfind]
      exact ⟨hlt, fun j hj => hout j (List.mem_filter.mp hj).1⟩
  | prune => exact ⟨hlt, hout⟩

theorem LockTable.IsGone.giveBack_eq {t : LockTable} {id : TicketId} (h : t.IsGone id) :
    t.giveBack id = (false, t) :=
  giveBack_of_none (ticket?_eq_none_iff.mpr h.2)

theorem LockTable.Sound.isGone_giveBack {t : LockTable} (h : t.Sound) {id : TicketId}
    (hheld : (t.giveBack id).1 = true) : (t.giveBack id).2.IsGone id := by
  cases hfind : t.ticket? id with
  | none => simp [giveBack_of_none hfind] at hheld
  | some k =>
    obtain ⟨hk, hid⟩ := ticket?_mem hfind
    rw [LockTable.giveBack_eq hfind]
    refine ⟨hid ▸ h.id_lt k hk, fun j hj => ?_⟩
    simpa using (List.mem_filter.mp hj).2

/-! ### The world and the machine -/

@[simp]
theorem World.locks_setLocks (w : World) (name other : TableName) (l : LockTable) :
    (w.setLocks name l).locks other = if name = other then l else w.locks other := by
  cases name <;> cases other <;> rfl

theorem World.setLocks_self (w : World) (t : TableName) : w.setLocks t (w.locks t) = w := by
  cases t <;> rfl

@[simp]
theorem World.locks_setBackend (w : World) (s : StoreName) (b : Backend) (name : TableName) :
    (w.setBackend s b).locks name = w.locks name := by
  cases s <;> cases name <;> rfl

theorem World.sound_new (threshold : Nat) (t : TableName) :
    ((World.new threshold).locks t).Sound := by
  cases t <;> exact LockTable.sound_new threshold

theorem World.calm_new (threshold : Nat) (s : StoreName) :
    ((World.new threshold).backend s).intrusion = none := by
  cases s <;> rfl

/-- Nobody has a ticket in a new world. -/
theorem World.thread_ne_new (threshold : Nat) (i : ThreadId) (t : TableName) :
    ∀ k ∈ ((World.new threshold).locks t).tickets, k.thread ≠ i := by
  cases t <;> exact fun _ hk => absurd hk List.not_mem_nil

theorem LockTable.step_setLocks {w : World} (name other : TableName) {l : LockTable}
    (hstep : (w.locks name).Step l) : (w.locks other).Step ((w.setLocks name l).locks other) := by
  rw [World.locks_setLocks]
  split
  · rename_i heq
    exact heq ▸ hstep
  · exact .still

theorem World.perform_locks {w w' : World} {thread : ThreadId} {a : World.Action} {reply : a.Reply}
    (h : w.perform thread a = some (reply, w')) (name : TableName) :
    (w.locks name).Step (w'.locks name) := by
  cases a with
  | get | set | remove | invalidate =>
    simp only [World.perform, Option.some.injEq, Prod.mk.injEq] at h
    rw [← h.2, World.locks_setBackend]
    exact .still
  | draw t session =>
    simp only [World.perform, Option.some.injEq, Prod.mk.injEq] at h
    rw [← h.2]
    exact LockTable.step_setLocks t name (.draw thread session)
  | await t ticket limit =>
    simp only [World.perform, Option.map_eq_some_iff, Prod.mk.injEq] at h
    obtain ⟨l, hgrant, _, rfl⟩ := h
    exact LockTable.step_setLocks t name (.grant ticket hgrant)
  | giveBack t ticket =>
    simp only [World.perform, Option.some.injEq, Prod.mk.injEq] at h
    rw [← h.2]
    exact LockTable.step_setLocks t name (.giveBack ticket)
  | prune t =>
    simp only [World.perform, Option.some.injEq, Prod.mk.injEq] at h
    rw [← h.2]
    exact LockTable.step_setLocks t name .prune
  | count label =>
    simp only [World.perform, Option.some.injEq, Prod.mk.injEq] at h
    rw [← h.2]
    cases name <;> exact .still

namespace Machine

variable {ρ : Type}

theorem move?_locks {m m' : Machine ρ} {mv : Move} (h : m.move? mv = some m') (name : TableName) :
    (m.world.locks name).Step (m'.world.locks name) := by
  cases mv with
  | act i =>
    simp only [move?, Option.bind_eq_bind, Option.bind_eq_some_iff] at h
    obtain ⟨s, _, ⟨w, s'⟩, hadvance, hm'⟩ := h
    cases hm'
    unfold advance at hadvance
    split at hadvance
    · exact absurd hadvance (by simp)
    · exact absurd hadvance (by simp)
    · simp only [Option.some.injEq, Prod.mk.injEq] at hadvance
      rw [← hadvance.1]
      exact .still
    · obtain ⟨⟨reply, w'⟩, hperform, hw⟩ := Option.map_eq_some_iff.mp hadvance
      simp only [Prod.mk.injEq] at hw
      rw [← hw.1]
      exact World.perform_locks hperform name
  | expire i =>
    simp only [move?, Option.bind_eq_bind, Option.bind_eq_some_iff] at h
    obtain ⟨s, _, s', _, hm'⟩ := h
    cases hm'
    exact .still

/-- What every step of a table keeps, every run keeps. -/
theorem Reach.locks_induction {m m' : Machine ρ} (h : m.Reach m') (name : TableName)
    (P : LockTable → Prop) (hstep : ∀ t t', P t → t.Step t' → P t')
    (hstart : P (m.world.locks name)) : P (m'.world.locks name) := by
  induction h with
  | start => exact hstart
  | move mv _ hmove ih => exact hstep _ _ ih (move?_locks hmove name)

theorem Reach.sound {m m' : Machine ρ} (h : m.Reach m') {name : TableName}
    (hsound : (m.world.locks name).Sound) : (m'.world.locks name).Sound :=
  h.locks_induction name _ (fun _ _ ht => ht.step) hsound

theorem reach_follow (m : Machine ρ) (schedule : List ThreadId) : m.Reach (m.follow schedule) := by
  suffices ∀ m', m.Reach m' → m.Reach (m'.follow schedule) from this m .start
  induction schedule with
  | nil => exact fun m' h => h
  | cons i rest ih =>
    intro m' h
    refine ih ((m'.move? (.act i)).getD m') ?_
    cases hmove : m'.move? (.act i) with
    | none => exact h
    | some m'' => exact h.move (.act i) hmove

end Machine

/-! ### Handles -/

theorem LockTable.fst_giveBack (t : LockTable) (id : TicketId) :
    (t.giveBack id).1 = t.isHeld id := by
  rw [isHeld]
  cases hfind : t.ticket? id with
  | none => rw [giveBack_of_none hfind, Option.any_none]
  | some k => rw [giveBack_eq hfind, Option.any_some]

namespace Hold

variable (h : Hold) (w : World)

/-- The world when the lock has been given back. -/
def returned : World :=
  w.setLocks h.table ((w.locks h.table).giveBack h.ticket).2

theorem locks_returned :
    (h.returned w).locks h.table = ((w.locks h.table).giveBack h.ticket).2 := by
  rw [returned, World.locks_setLocks, if_pos rfl]

theorem not_isHeld_returned : h.isHeld (h.returned w) = false := by
  rw [isHeld, locks_returned, LockTable.isHeld, LockTable.ticket?, LockTable.tickets_giveBack,
    List.find?_eq_none.mpr (by simp)]
  rfl

theorem run_release (patient : Bool) (i : ThreadId) (l : Workspace) :
    h.release.run patient i w l = .finished (.ok (h.isHeld w)) (h.returned w) l := by
  rw [isHeld, ← LockTable.fst_giveBack]
  rfl

theorem run_drop (patient : Bool) (i : ThreadId) (l : Workspace) :
    h.drop.run patient i w l = .finished (.ok ()) (h.returned w) l := rfl

/-- To release the handle, or to drop it, changes nothing. -/
structure Spent : Prop where
  isHeld_eq : h.isHeld w = false
  release_eq : ∀ patient i l, h.release.run patient i w l = .finished (.ok false) w l
  drop_eq : ∀ patient i l, h.drop.run patient i w l = .finished (.ok ()) w l

/-- A handle gives the lock back once, by a release or by a drop. Whatever is run afterwards, to
release or to drop it again changes nothing. -/
structure IsOnce (ρ : Type) : Prop where
  release_eq : ∀ patient i l, h.release.run patient i w l = .finished (.ok true) (h.returned w) l
  drop_eq : ∀ patient i l, h.drop.run patient i w l = .finished (.ok ()) (h.returned w) l
  spent : ∀ m₁ m₂ : Machine ρ, m₁.world.locks h.table = (h.returned w).locks h.table →
    m₁.Reach m₂ → h.Spent m₂.world

variable {h w}

theorem spent_of_isGone (hgone : (w.locks h.table).IsGone h.ticket) : h.Spent w := by
  have hreturned : h.returned w = w := by rw [returned, hgone.giveBack_eq, World.setLocks_self]
  have hheld : h.isHeld w = false := by rw [isHeld, ← LockTable.fst_giveBack, hgone.giveBack_eq]
  exact ⟨hheld, fun patient i l => by rw [run_release, hheld, hreturned],
    fun patient i l => by rw [run_drop, hreturned]⟩

end Hold

/-! ### Exclusion -/

/-- The tickets that hold are the handles not yet released, the others the waiters. -/
structure LockTable.Exclusive (t : LockTable) : Prop where
  /-- All that wait for or hold a session's lock refer to the lock in its slot. -/
  one_lock : ∀ k ∈ t.tickets, t.liveLock? k.session = some k.lock
  one_thread : ∀ k ∈ t.tickets, ∀ j ∈ t.tickets, k.held = true → j.held = true →
    k.session = j.session → k.thread = j.thread
  depth_eq : ∀ thread session, t.depth thread session = t.tickets.countP fun k =>
    k.held && decide (k.thread = thread) && decide (k.session = session)
  isLocked_iff : ∀ session,
    t.isLocked session = true ↔ ∃ k ∈ t.tickets, k.held = true ∧ k.session = session

theorem LockTable.Sound.exclusive {t : LockTable} (h : t.Sound) : t.Exclusive where
  one_lock := fun _ hk => h.liveLock?_eq hk
  one_thread := fun _ hk _ hj hkheld hjheld => h.thread_eq hk hj hkheld hjheld
  depth_eq := h.depth_eq
  isLocked_iff := h.isLocked_iff

namespace LockTable.Sound

variable {ρ : Type} {m : Machine ρ} {name : TableName} (h : (m.world.locks name).Sound)

include h

/-- A ticket that was given back stays so. -/
theorem isGone_later {id : TicketId} (hheld : ((m.world.locks name).giveBack id).1 = true)
    {m₁ m₂ : Machine ρ} (hm₁ : m₁.world.locks name = ((m.world.locks name).giveBack id).2)
    (hlater : m₁.Reach m₂) : (m₂.world.locks name).IsGone id := by
  refine hlater.locks_induction name (·.IsGone id) (fun _ _ ht => ht.step) ?_
  rw [hm₁]
  exact h.isGone_giveBack hheld

theorem isOnce {hold : Hold} (htable : hold.table = name) (hheld : hold.isHeld m.world = true) :
    hold.IsOnce m.world ρ where
  release_eq patient i l := by rw [Hold.run_release, hheld]
  drop_eq := hold.run_drop m.world
  spent m₁ m₂ hm₁ hlater := by
    subst htable
    rw [Hold.locks_returned] at hm₁
    exact Hold.spent_of_isGone (h.isGone_later ((fst_giveBack _ _).trans hheld) hm₁ hlater)

end LockTable.Sound

/-- **Mutual exclusion.** Whatever routines run on a new lock table, every state that they reach has
one lock and at most one thread inside for each session, and a handle that was released stays so: to
release it again changes nothing. -/
theorem mutual_exclusion {ρ : Type} (w : World) (name : TableName) (threshold : Nat)
    (hnew : w.locks name = .new threshold) (routines : List (Routine ρ)) {m : Machine ρ}
    (hreach : (Machine.start w routines).Reach m) :
    (m.world.locks name).Exclusive ∧
      (∀ id, ((m.world.locks name).giveBack id).1 = true →
        ∀ m₁ m₂ : Machine ρ, m₁.world.locks name = ((m.world.locks name).giveBack id).2 →
          m₁.Reach m₂ → (m₂.world.locks name).giveBack id = (false, m₂.world.locks name)) ∧
      ∀ h : Hold, h.table = name → h.isHeld m.world = true → h.IsOnce m.world ρ := by
  have hstart : ((Machine.start w routines).world.locks name).Sound := by
    change (w.locks name).Sound
    rw [hnew]
    exact LockTable.sound_new threshold
  have hsound := hreach.sound hstart
  exact ⟨hsound.exclusive, fun id hheld m₁ m₂ hm₁ hlater =>
    (hsound.isGone_later hheld hm₁ hlater).giveBack_eq, fun h => hsound.isOnce⟩

def Hold.overlapping (session : SessionId) : Routine Unit := do
  let outer ← Hold.acquire .shared none session
  let inner ← Hold.acquire .shared none session
  outer.drop
  inner.drop

/-- One thread inside twice, another one waiting, and a table that is full. The outer handle of the
first thread is released, and released again. -/
theorem mutual_exclusion_contended :
    let m := (Machine.start (World.new 1)
      [Hold.overlapping ⟨"a"⟩, Hold.overlapping ⟨"a"⟩, Hold.overlapping ⟨"b"⟩]).follow
        [0, 0, 2, 0, 1, 0, 1]
    let t := m.world.shared
    let outer : Hold := ⟨.shared, ⟨"a"⟩, 0⟩
    t.depth 0 ⟨"a"⟩ = 2 ∧ t.tickets.length = 4 ∧ t.Exclusive ∧
      (t.giveBack 0).1 = true ∧ (t.giveBack 0).2.giveBack 0 = (false, (t.giveBack 0).2) ∧
      outer.release.run true 0 m.world {} = .finished (.ok true) (outer.returned m.world) {} ∧
      outer.Spent (outer.returned m.world) := by
  intro m t outer
  obtain ⟨hexclusive, hagain, honce⟩ :=
    mutual_exclusion (World.new 1) .shared 1 rfl _ (Machine.reach_follow _ _ : Machine.Reach _ m)
  have hheld : (t.giveBack 0).1 = true := by decide
  let released : Machine Unit := { m with world := outer.returned m.world }
  have houter := honce outer rfl (by decide)
  exact ⟨by decide, by decide, hexclusive, hheld, hagain 0 hheld released released rfl .start,
    houter.release_eq true 0 {}, houter.spent released released rfl .start⟩

end SessionCart
