import SessionCart.Session.Lock

/-!
# What every lock table keeps

A slot is swept or replaced only while no ticket refers to its lock, so the tickets of a session
all refer to the lock in the session's slot. The owner of a lock is the thread of the tickets that
hold it, and its depth is their number. Drawing, granting, giving back and sweeping keep this,
whatever the ticket and whoever acts.
-/

namespace SessionCart.LockTable

/-- The tickets that hold a level of a lock. -/
def holders (lock : LockId) (tickets : List Ticket) : List Ticket :=
  tickets.filter fun k => k.held && decide (k.lock = lock)

/-- The tickets that hold a lock are tickets of its owner, one for each level. -/
def OwnedBy : Option Owner → List Ticket → Prop
  | none, held => held = []
  | some o, held => 0 < o.depth ∧ held.length = o.depth ∧ ∀ k ∈ held, k.thread = o.thread

structure Sound (t : LockTable) : Prop where
  ids_nodup : (t.tickets.map Ticket.id).Nodup
  id_lt : ∀ k ∈ t.tickets, k.id < t.nextTicket
  slot_eq : ∀ k ∈ t.tickets, t.slots.get? k.session = some k.lock
  slot_lt : ∀ session lock, t.slots.get? session = some lock → lock < t.nextLock
  slot_inj : ∀ session session' lock, t.slots.get? session = some lock →
    t.slots.get? session' = some lock → session = session'
  owned : ∀ lock, OwnedBy (t.owners.get? lock) (holders lock t.tickets)

theorem sound_new (threshold : Nat) : (new threshold).Sound where
  ids_nodup := List.nodup_nil
  id_lt := by simp [new]
  slot_eq := by simp [new]
  slot_lt := by simp [new]
  slot_inj := by simp [new]
  owned lock := by simp [new, holders, OwnedBy]

/-! ### The holders of a lock -/

section Holders

variable {lock : LockId} {k : Ticket} {owner : Option Owner} {held front back : List Ticket}

@[simp]
theorem mem_holders {tickets : List Ticket} :
    k ∈ holders lock tickets ↔ k ∈ tickets ∧ k.held = true ∧ k.lock = lock := by
  simp [holders]

theorem holders_append (l l' : List Ticket) :
    holders lock (l ++ l') = holders lock l ++ holders lock l' := List.filter_append ..

theorem holders_cons (l : List Ticket) : holders lock (k :: l) =
    if k.held = true ∧ k.lock = lock then k :: holders lock l else holders lock l := by
  simp [holders, List.filter_cons]

theorem OwnedBy.exists_owner (h : OwnedBy owner held) (hk : k ∈ held) :
    ∃ o, owner = some o ∧ k.thread = o.thread := by
  cases owner with
  | none =>
    rw [OwnedBy] at h
    rw [h] at hk
    cases hk
  | some o => exact ⟨o, rfl, h.2.2 k hk⟩

theorem OwnedBy.exists_holder {o : Owner} (h : OwnedBy (some o) held) :
    ∃ k ∈ held, k.thread = o.thread := by
  obtain ⟨hpos, hlength, hthread⟩ := h
  rw [← hlength] at hpos
  obtain ⟨k, hk⟩ := List.exists_mem_of_length_pos hpos
  exact ⟨k, hk, hthread k hk⟩

theorem OwnedBy.countP_thread {o : Owner} (h : OwnedBy (some o) held) (thread : ThreadId) :
    held.countP (fun k => decide (k.thread = thread)) =
      if o.thread = thread then o.depth else 0 := by
  obtain ⟨_, hlength, hthread⟩ := h
  split
  · rename_i hsame
    rw [← hlength, List.countP_eq_length]
    intro k hk
    simp [hthread k hk, hsame]
  · rename_i hother
    rw [List.countP_eq_zero]
    intro k hk
    simp [hthread k hk, hother]

theorem OwnedBy.takeLevel {o : Owner} (h : OwnedBy owner (front ++ back))
    (hlevel : LockTable.takeLevel owner k.thread = some o) :
    OwnedBy (some o) (front ++ k :: back) := by
  cases owner with
  | none =>
    obtain ⟨rfl, rfl⟩ := List.append_eq_nil_iff.mp h
    cases hlevel
    exact ⟨Nat.one_pos, rfl, by simp⟩
  | some before =>
    rw [LockTable.takeLevel] at hlevel
    split at hlevel
    · rename_i hthread
      cases hlevel
      obtain ⟨_, hlength, hall⟩ := h
      rw [List.length_append] at hlength
      refine ⟨Nat.succ_pos _, ?_, fun j hj => ?_⟩
      · rw [List.length_append, List.length_cons, ← hlength]
        rfl
      · rw [List.mem_append, List.mem_cons] at hj
        rcases hj with hj | rfl | hj
        · exact (hall j (List.mem_append_left _ hj)).trans hthread
        · rfl
        · exact (hall j (List.mem_append_right _ hj)).trans hthread
    · cases hlevel

theorem OwnedBy.yieldLevel (h : OwnedBy owner (front ++ k :: back)) :
    OwnedBy (owner.bind LockTable.yieldLevel) (front ++ back) := by
  obtain ⟨o, rfl, -⟩ := h.exists_owner (List.mem_append_right _ List.mem_cons_self)
  obtain ⟨_, hlength, hall⟩ := h
  rw [List.length_append, List.length_cons] at hlength
  rw [Option.bind_some, LockTable.yieldLevel]
  split
  · refine List.eq_nil_of_length_eq_zero ?_
    rw [List.length_append]
    omega
  · refine ⟨by dsimp only; omega, ?_, fun j hj => ?_⟩
    · rw [List.length_append]
      dsimp only
      omega
    · refine hall j ?_
      rw [List.mem_append] at hj ⊢
      exact hj.imp_right (List.mem_cons_of_mem k)

end Holders

/-! ### One ticket among the others -/

section Ticket

variable {t : LockTable} {id : TicketId} {k : Ticket}

theorem isLive_iff {lock : LockId} : t.isLive lock = true ↔ ∃ k ∈ t.tickets, k.lock = lock := by
  simp [isLive]

theorem ticket?_mem (h : t.ticket? id = some k) : k ∈ t.tickets ∧ k.id = id := by
  refine ⟨List.mem_of_find?_eq_some h, ?_⟩
  simpa using List.find?_some h

theorem ticket?_eq_none_iff : t.ticket? id = none ↔ ∀ k ∈ t.tickets, k.id ≠ id := by
  simp [ticket?]

theorem exists_split (hids : (t.tickets.map Ticket.id).Nodup) (h : t.ticket? id = some k) :
    ∃ front back, t.tickets = front ++ k :: back ∧ k.id = id ∧
      (∀ j ∈ front, j.id ≠ id) ∧ ∀ j ∈ back, j.id ≠ id := by
  obtain ⟨hmem, hid⟩ := ticket?_mem h
  obtain ⟨front, back, hsplit⟩ := List.append_of_mem hmem
  rw [hsplit, List.map_append, List.map_cons, List.nodup_append, List.nodup_cons] at hids
  obtain ⟨_, ⟨hback, _⟩, hfront⟩ := hids
  refine ⟨front, back, hsplit, hid, ?_, ?_⟩
  · intro j hj hjid
    exact hfront j.id (List.mem_map_of_mem hj) k.id List.mem_cons_self (hjid.trans hid.symm)
  · intro j hj hjid
    exact hback (List.mem_map.mpr ⟨j, hj, hjid.trans hid.symm⟩)

theorem ticket?_of_mem (hids : (t.tickets.map Ticket.id).Nodup) (hk : k ∈ t.tickets) :
    t.ticket? k.id = some k := by
  cases hfind : t.ticket? k.id with
  | none => exact absurd rfl (ticket?_eq_none_iff.mp hfind k hk)
  | some j =>
    obtain ⟨front, back, hsplit, hid, hfront, hback⟩ := exists_split hids hfind
    rw [hsplit, List.mem_append, List.mem_cons] at hk
    rcases hk with hk | rfl | hk
    · exact absurd rfl (hfront k hk)
    · rfl
    · exact absurd rfl (hback k hk)

theorem markHeld_eq_self {l : List Ticket} (hl : ∀ j ∈ l, j.id ≠ id) : markHeld id l = l := by
  refine (List.map_congr_left fun j hj => ?_).trans (List.map_id l)
  simp [hl j hj]

/-- Tickets may be chosen before or after one is marked, if the choice does not depend on the
mark. -/
theorem filter_markHeld {p : Ticket → Bool} (hp : ∀ j : Ticket, p { j with held := true } = p j)
    (l : List Ticket) : (markHeld id l).filter p = markHeld id (l.filter p) := by
  rw [markHeld, List.filter_map, markHeld]
  refine congrArg _ (List.filter_congr fun j _ => ?_)
  rw [Function.comp_apply]
  split
  · exact hp j
  · rfl

theorem markHeld_split {front back : List Ticket} (hid : k.id = id)
    (hfront : ∀ j ∈ front, j.id ≠ id) (hback : ∀ j ∈ back, j.id ≠ id) :
    markHeld id (front ++ k :: back) = front ++ { k with held := true } :: back := by
  have hlist : markHeld id (front ++ k :: back) =
      markHeld id front ++ { k with held := true } :: markHeld id back := by
    simp [markHeld, hid]
  rw [hlist, markHeld_eq_self hfront, markHeld_eq_self hback]

theorem filter_split {front back : List Ticket} (hid : k.id = id)
    (hfront : ∀ j ∈ front, j.id ≠ id) (hback : ∀ j ∈ back, j.id ≠ id) :
    (front ++ k :: back).filter (fun j => decide (j.id ≠ id)) = front ++ back := by
  rw [List.filter_append, List.filter_cons_of_neg (by simp [hid]),
    List.filter_eq_self.mpr (by simpa using hfront), List.filter_eq_self.mpr (by simpa using hback)]

end Ticket

/-! ### Views of a sound table -/

namespace Sound

variable {t : LockTable} (h : t.Sound)

include h

theorem liveLock?_eq {k : Ticket} (hk : k ∈ t.tickets) : t.liveLock? k.session = some k.lock := by
  rw [liveLock?, h.slot_eq k hk]
  simp [isLive_iff.mpr ⟨k, hk, rfl⟩]

theorem session_eq {k j : Ticket} (hk : k ∈ t.tickets) (hj : j ∈ t.tickets)
    (hlock : k.lock = j.lock) : k.session = j.session :=
  h.slot_inj _ _ k.lock (h.slot_eq k hk) (hlock ▸ h.slot_eq j hj)

theorem lock_eq {k j : Ticket} (hk : k ∈ t.tickets) (hj : j ∈ t.tickets)
    (hsession : k.session = j.session) : k.lock = j.lock := by
  have hslot := h.slot_eq k hk
  rw [hsession, h.slot_eq j hj] at hslot
  exact (Option.some.inj hslot).symm

theorem exists_ticket {session : SessionId} {lock : LockId}
    (hlive : t.liveLock? session = some lock) :
    ∃ k ∈ t.tickets, k.session = session ∧ k.lock = lock := by
  rw [liveLock?, Option.filter_eq_some_iff, isLive_iff] at hlive
  obtain ⟨hslot, k, hk, rfl⟩ := hlive
  exact ⟨k, hk, h.slot_inj _ _ _ (h.slot_eq k hk) hslot, rfl⟩

theorem liveLock?_eq_none {session : SessionId} (hlive : t.liveLock? session = none) :
    ∀ k ∈ t.tickets, k.session ≠ session := by
  intro k hk hsession
  have := h.liveLock?_eq hk
  rw [hsession, hlive] at this
  exact absurd this (by simp)

theorem exists_owner {k : Ticket} (hk : k ∈ t.tickets) (hheld : k.held = true) :
    ∃ o, t.owners.get? k.lock = some o ∧ k.thread = o.thread :=
  (h.owned k.lock).exists_owner (mem_holders.mpr ⟨hk, hheld, rfl⟩)

theorem thread_eq {k j : Ticket} (hk : k ∈ t.tickets) (hj : j ∈ t.tickets)
    (hkheld : k.held = true) (hjheld : j.held = true) (hsession : k.session = j.session) :
    k.thread = j.thread := by
  obtain ⟨o, howner, hthread⟩ := h.exists_owner hk hkheld
  obtain ⟨o', howner', hthread'⟩ := h.exists_owner hj hjheld
  rw [← h.lock_eq hk hj hsession, howner, Option.some.injEq] at howner'
  rw [hthread, hthread', howner']

/-- How many levels of a session's lock a thread holds is the number of its tickets for it that
hold one. -/
theorem depth_eq (thread : ThreadId) (session : SessionId) :
    t.depth thread session = t.tickets.countP fun k =>
      k.held && decide (k.thread = thread) && decide (k.session = session) := by
  cases hlive : t.liveLock? session with
  | none =>
    have hzero : t.tickets.countP (fun k =>
        k.held && decide (k.thread = thread) && decide (k.session = session)) = 0 := by
      rw [List.countP_eq_zero]
      intro k hk
      simp [h.liveLock?_eq_none hlive k hk]
    rw [hzero]
    simp [depth, hlive]
  | some lock =>
    obtain ⟨j, hj, rfl, rfl⟩ := h.exists_ticket hlive
    -- the tickets of the session that hold are the holders of its lock
    have hcount : t.tickets.countP (fun k =>
        k.held && decide (k.thread = thread) && decide (k.session = j.session)) =
        (holders j.lock t.tickets).countP fun k => decide (k.thread = thread) := by
      rw [holders, List.countP_filter]
      refine List.countP_congr fun k hk => ?_
      have hsame : k.session = j.session ↔ k.lock = j.lock :=
        ⟨h.lock_eq hk hj, h.session_eq hk hj⟩
      simp only [Bool.and_eq_true, decide_eq_true_eq, hsame]
      rw [and_assoc, and_left_comm]
    rw [hcount]
    have howned := h.owned j.lock
    cases howner : t.owners.get? j.lock with
    | none =>
      rw [howner, OwnedBy] at howned
      rw [howned]
      simp [depth, hlive, howner]
    | some o =>
      rw [howner] at howned
      rw [howned.countP_thread]
      simp [depth, hlive, howner]

theorem isLocked_iff (session : SessionId) :
    t.isLocked session = true ↔ ∃ k ∈ t.tickets, k.held = true ∧ k.session = session := by
  constructor
  · intro hlocked
    cases hlive : t.liveLock? session with
    | none => simp [isLocked, hlive] at hlocked
    | some lock =>
      obtain ⟨j, hj, rfl, rfl⟩ := h.exists_ticket hlive
      cases howner : t.owners.get? j.lock with
      | none => simp [isLocked, hlive, Dict.contains, howner] at hlocked
      | some o =>
        obtain ⟨k, hk, _⟩ := (howner ▸ h.owned j.lock).exists_holder
        obtain ⟨hk, hheld, hlock⟩ := mem_holders.mp hk
        exact ⟨k, hk, hheld, h.session_eq hk hj hlock⟩
  · rintro ⟨k, hk, hheld, rfl⟩
    obtain ⟨o, howner, _⟩ := h.exists_owner hk hheld
    simp [isLocked, h.liveLock?_eq hk, Dict.contains, howner]

end Sound

end SessionCart.LockTable
