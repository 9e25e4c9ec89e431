import SessionCart.Proofs.Lock.Invariant

/-!
# What the operations on a lock table keep

Each operation keeps a sound table sound, and each says what it does to the tickets of a thread.
Sweeping may drop any slots of dead locks, so nothing depends on when or how far a sweep goes.
-/

namespace SessionCart.LockTable

/-! ### Sweeping and drawing -/

theorem Sound.sweep {t : LockTable} (h : t.Sound) (keep : SessionId → LockId → Bool)
    (hkeep : ∀ session lock, t.isLive lock = true → keep session lock = true) :
    { t with slots := t.slots.filter keep }.Sound := by
  have hsub : ∀ session lock, (t.slots.filter keep).get? session = some lock →
      t.slots.get? session = some lock := by
    intro session lock hslot
    rw [Dict.get?_filter, Option.filter_eq_some_iff] at hslot
    exact hslot.1
  constructor
  case ids_nodup => exact h.ids_nodup
  case id_lt => exact h.id_lt
  case slot_eq =>
    intro k hk
    rw [Dict.get?_filter, h.slot_eq k hk]
    simp [hkeep k.session k.lock (isLive_iff.mpr ⟨k, hk, rfl⟩)]
  case slot_lt => exact fun session lock hslot => h.slot_lt session lock (hsub session lock hslot)
  case slot_inj =>
    intro session session' lock hslot hslot'
    exact h.slot_inj _ _ lock (hsub _ _ hslot) (hsub _ _ hslot')
  case owned => exact h.owned

theorem Sound.prune {t : LockTable} (h : t.Sound) : t.prune.Sound :=
  h.sweep _ fun _ _ hlive => hlive

theorem Sound.newSlot {t : LockTable} (h : t.Sound) {session : SessionId}
    (hdead : ∀ k ∈ t.tickets, k.session ≠ session) :
    { t with
      slots := t.slots.insert session t.nextLock
      nextLock := t.nextLock + 1 }.Sound := by
  have hold : ∀ s lock, session ≠ s → (t.slots.insert session t.nextLock).get? s = some lock →
      t.slots.get? s = some lock := by
    intro s lock hne hslot
    rwa [Dict.get?_insert, if_neg hne] at hslot
  have hnew : ∀ lock, (t.slots.insert session t.nextLock).get? session = some lock →
      t.nextLock = lock := by
    intro lock hslot
    rwa [Dict.get?_insert, if_pos rfl, Option.some.injEq] at hslot
  constructor
  case ids_nodup => exact h.ids_nodup
  case id_lt => exact h.id_lt
  case slot_eq =>
    intro k hk
    rw [Dict.get?_insert, if_neg (hdead k hk).symm]
    exact h.slot_eq k hk
  case slot_lt =>
    intro s lock hslot
    by_cases hs : session = s
    · subst hs
      rw [← hnew lock hslot]
      exact Nat.lt_succ_self _
    · exact Nat.lt_succ_of_lt (h.slot_lt s lock (hold s lock hs hslot))
  case slot_inj =>
    intro s s' lock hslot hslot'
    by_cases hs : session = s <;> by_cases hs' : session = s'
    · exact hs.symm.trans hs'
    · subst hs
      have hlt := h.slot_lt s' lock (hold s' lock hs' hslot')
      exact absurd (hnew lock hslot) (Nat.ne_of_gt hlt)
    · subst hs'
      have hlt := h.slot_lt s lock (hold s lock hs hslot)
      exact absurd (hnew lock hslot') (Nat.ne_of_gt hlt)
    · exact h.slot_inj s s' lock (hold s lock hs hslot) (hold s' lock hs' hslot')
  case owned => exact h.owned

theorem tickets_ensureSlot (t : LockTable) (session : SessionId) :
    (t.ensureSlot session).2.tickets = t.tickets := by
  unfold ensureSlot
  split
  · rfl
  · simp only
    split <;> rfl

/-- A slot for a session is there afterwards, with the lock that all tickets of the session refer
to. -/
theorem Sound.ensureSlot {t : LockTable} (h : t.Sound) (session : SessionId) :
    (t.ensureSlot session).2.Sound ∧
      (t.ensureSlot session).2.slots.get? session = some (t.ensureSlot session).1 := by
  cases hlive : t.liveLock? session with
  | some lock =>
    have heq : t.ensureSlot session = (lock, t) := by simp [LockTable.ensureSlot, hlive]
    rw [heq]
    obtain ⟨k, hk, rfl, rfl⟩ := h.exists_ticket hlive
    exact ⟨h, h.slot_eq k hk⟩
  | none =>
    have hdead := h.liveLock?_eq_none hlive
    by_cases hfull : t.threshold ≤ t.slotCount
    · have heq : t.ensureSlot session = (t.nextLock, { t.prune with
          slots := t.prune.slots.insert session t.nextLock
          nextLock := t.nextLock + 1 }) := by
        simp [LockTable.ensureSlot, hlive, hfull]
      rw [heq]
      exact ⟨h.prune.newSlot hdead, by simp⟩
    · have heq : t.ensureSlot session = (t.nextLock, { t with
          slots := t.slots.insert session t.nextLock
          nextLock := t.nextLock + 1 }) := by
        simp [LockTable.ensureSlot, hlive, hfull]
      rw [heq]
      exact ⟨h.newSlot hdead, by simp⟩

theorem tickets_draw (t : LockTable) (thread : ThreadId) (session : SessionId) :
    (t.draw thread session).2.tickets = t.tickets ++
      [⟨t.nextTicket, thread, session, (t.ensureSlot session).1, false⟩] := by
  simp [draw, tickets_ensureSlot]

theorem Sound.draw {t : LockTable} (h : t.Sound) (thread : ThreadId) (session : SessionId) :
    (t.draw thread session).2.Sound := by
  obtain ⟨hslotted, hslot⟩ := h.ensureSlot session
  have htickets := tickets_draw t thread session
  constructor
  case ids_nodup =>
    rw [htickets, List.map_append, List.nodup_append]
    refine ⟨h.ids_nodup, by simp, ?_⟩
    intro a ha b hb hab
    obtain ⟨k, hk, rfl⟩ := List.mem_map.mp ha
    simp only [List.map_cons, List.map_nil, List.mem_singleton] at hb
    exact absurd (hab.trans hb) (Nat.ne_of_lt (h.id_lt k hk))
  case id_lt =>
    intro k hk
    have hnext : (t.draw thread session).2.nextTicket = t.nextTicket + 1 := by
      simp [LockTable.draw]
    rw [htickets, List.mem_append, List.mem_singleton] at hk
    rw [hnext]
    rcases hk with hk | rfl
    · exact Nat.lt_succ_of_lt (h.id_lt k hk)
    · exact Nat.lt_succ_self _
  case slot_eq =>
    intro k hk
    rw [htickets, List.mem_append, List.mem_singleton] at hk
    rcases hk with hk | rfl
    · exact hslotted.slot_eq k (tickets_ensureSlot t session ▸ hk)
    · exact hslot
  case slot_lt => exact hslotted.slot_lt
  case slot_inj => exact hslotted.slot_inj
  case owned =>
    intro lock
    have hholders : holders lock (t.draw thread session).2.tickets =
        holders lock (t.ensureSlot session).2.tickets := by
      rw [htickets, tickets_ensureSlot, holders_append]
      simp [holders]
    rw [hholders]
    exact hslotted.owned lock

/-! ### Granting and giving back -/

theorem get?_setOwner (owners : Dict LockId Owner) (lock : LockId) (o : Option Owner)
    (other : LockId) :
    (setOwner owners lock o).get? other = if lock = other then o else owners.get? other := by
  cases o <;> simp [setOwner]

/-- A granted lock was free or its thread's own, and its ticket holds one more level of it. -/
theorem grant_eq_some {t t' : LockTable} {id : TicketId} (hgrant : t.grant id = some t') :
    ∃ k owner, t.ticket? id = some k ∧ k.held = false ∧
      takeLevel (t.owners.get? k.lock) k.thread = some owner ∧
      t' = { t with
        owners := t.owners.insert k.lock owner
        tickets := markHeld id t.tickets } := by
  unfold grant at hgrant
  cases hk : t.ticket? id with
  | none => simp [hk] at hgrant
  | some k =>
    cases hheld : k.held with
    | true => simp [hk, hheld] at hgrant
    | false =>
      cases howner : takeLevel (t.owners.get? k.lock) k.thread with
      | none => simp [hk, hheld, howner] at hgrant
      | some owner =>
        simp only [hk, hheld, howner, Option.bind_eq_bind, Option.bind_some, Bool.false_eq_true,
          if_false, Option.some.injEq] at hgrant
        exact ⟨k, owner, rfl, hheld, howner, hgrant.symm⟩

/-- Tickets may go, and the level of one lock may change with those that hold it. -/
theorem Sound.relevel {t : LockTable} (h : t.Sound) (lock : LockId) {owners : Dict LockId Owner}
    {tickets : List Ticket} (hids : (tickets.map Ticket.id).Nodup)
    (hfrom : ∀ j ∈ tickets, ∃ i ∈ t.tickets, j.id = i.id ∧ j.session = i.session ∧ j.lock = i.lock)
    (howners : ∀ other, lock ≠ other → owners.get? other = t.owners.get? other)
    (hholders : ∀ other, lock ≠ other → holders other tickets = holders other t.tickets)
    (howned : OwnedBy (owners.get? lock) (holders lock tickets)) :
    { t with owners := owners, tickets := tickets }.Sound := by
  constructor
  case ids_nodup => exact hids
  case id_lt =>
    intro j hj
    obtain ⟨i, hi, hid, _⟩ := hfrom j hj
    exact hid ▸ h.id_lt i hi
  case slot_eq =>
    intro j hj
    obtain ⟨i, hi, _, hsession, hlock⟩ := hfrom j hj
    rw [hsession, hlock]
    exact h.slot_eq i hi
  case slot_lt => exact h.slot_lt
  case slot_inj => exact h.slot_inj
  case owned =>
    intro other
    by_cases hlock : lock = other
    · exact hlock ▸ howned
    · rw [howners other hlock, hholders other hlock]
      exact h.owned other

theorem Sound.grant {t t' : LockTable} (h : t.Sound) {id : TicketId}
    (hgrant : t.grant id = some t') : t'.Sound := by
  obtain ⟨k, owner, hk, hheld, hlevel, rfl⟩ := grant_eq_some hgrant
  obtain ⟨front, back, hsplit, hid, hfront, hback⟩ := exists_split h.ids_nodup hk
  have hmarked : markHeld id t.tickets = front ++ { k with held := true } :: back := by
    rw [hsplit, markHeld_split hid hfront hback]
  have hheldBefore : ∀ lock, holders lock t.tickets = holders lock front ++ holders lock back := by
    intro lock
    rw [hsplit, holders_append, holders_cons, if_neg (by simp [hheld])]
  refine h.relevel k.lock ?_ ?_ ?_ ?_ ?_
  · have hids := h.ids_nodup
    rw [hsplit] at hids
    simpa [hmarked] using hids
  · intro j hj
    rw [hmarked, List.mem_append, List.mem_cons] at hj
    rw [hsplit]
    rcases hj with hj | rfl | hj
    · exact ⟨j, by simp [hj], rfl, rfl, rfl⟩
    · exact ⟨k, by simp, rfl, rfl, rfl⟩
    · exact ⟨j, by simp [hj], rfl, rfl, rfl⟩
  · intro other hother
    rw [Dict.get?_insert, if_neg hother]
  · intro other hother
    rw [hmarked, hheldBefore, holders_append, holders_cons, if_neg fun hlock => hother hlock.2]
  · have howned := h.owned k.lock
    rw [hheldBefore] at howned
    rw [Dict.get?_insert, if_pos rfl, hmarked, holders_append, holders_cons, if_pos ⟨rfl, rfl⟩]
    exact OwnedBy.takeLevel howned hlevel

/-- Giving a ticket back takes it out, and a level from its lock's owner if it held one. -/
theorem giveBack_eq {t : LockTable} {id : TicketId} {k : Ticket} (hk : t.ticket? id = some k) :
    t.giveBack id = (k.held, { t with
      tickets := t.tickets.filter (fun j => decide (j.id ≠ id))
      owners := if k.held then
          setOwner t.owners k.lock ((t.owners.get? k.lock).bind yieldLevel)
        else t.owners }) := by
  cases hheld : k.held <;> simp [giveBack, hk, hheld]

theorem giveBack_of_none {t : LockTable} {id : TicketId} (hk : t.ticket? id = none) :
    t.giveBack id = (false, t) := by
  simp [giveBack, hk]

theorem tickets_giveBack (t : LockTable) (id : TicketId) :
    (t.giveBack id).2.tickets = t.tickets.filter fun k => decide (k.id ≠ id) := by
  cases hfind : t.ticket? id with
  | none =>
    rw [giveBack_of_none hfind, List.filter_eq_self.mpr]
    simpa using ticket?_eq_none_iff.mp hfind
  | some k => rw [giveBack_eq hfind]

theorem Sound.giveBack {t : LockTable} (h : t.Sound) (id : TicketId) : (t.giveBack id).2.Sound := by
  cases hk : t.ticket? id with
  | none => rwa [giveBack_of_none hk]
  | some k =>
    rw [giveBack_eq hk]
    obtain ⟨front, back, hsplit, hid, hfront, hback⟩ := exists_split h.ids_nodup hk
    have hrest : t.tickets.filter (fun j => decide (j.id ≠ id)) = front ++ back := by
      rw [hsplit, filter_split hid hfront hback]
    have hbefore : ∀ lock, holders lock t.tickets = holders lock front ++
        if k.held = true ∧ k.lock = lock then k :: holders lock back else holders lock back := by
      intro lock
      rw [hsplit, holders_append, holders_cons]
    refine h.relevel k.lock ?_ ?_ ?_ ?_ ?_
    · exact h.ids_nodup.sublist (List.filter_sublist.map _)
    · exact fun j hj => ⟨j, (List.mem_filter.mp hj).1, rfl, rfl, rfl⟩
    · intro other hother
      split
      · rw [get?_setOwner, if_neg hother]
      · rfl
    · intro other hother
      rw [hrest, hbefore, holders_append, if_neg fun hlock => hother hlock.2]
    · have howned := h.owned k.lock
      rw [hbefore] at howned
      rw [hrest, holders_append]
      cases hheld : k.held with
      | true =>
        rw [if_pos ⟨hheld, rfl⟩] at howned
        rw [if_pos rfl, get?_setOwner, if_pos rfl]
        exact howned.yieldLevel
      | false =>
        rw [if_neg (by simp [hheld])] at howned
        exact howned

end SessionCart.LockTable
