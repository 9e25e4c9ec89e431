import Mathlib.Data.Finset.Card
import SessionCart.Proofs.Dict
import SessionCart.Proofs.Lock.Exclusion

/-!
# Slots that are not needed any more

A slot outlives its lock: it is left behind when the last ticket is given back, and goes with the
next sweep, or is used again by its session. A new slot is put into a table that is below the
threshold, or that was swept just before, and then all the slots beside the new one are those of
sessions with a holder or a waiter. So a table never has more slots than the threshold or than there
were locks in use at one time.
-/

namespace SessionCart

namespace LockTable

/-- The sessions with a holder or a waiter. -/
def busy (t : LockTable) : Finset SessionId := (t.tickets.map Ticket.session).toFinset

/-- The locks that a holder or a waiter refers to. -/
def referenced (t : LockTable) : Finset LockId := (t.tickets.map Ticket.lock).toFinset

/-- The sessions that have a slot, but neither holder nor waiter. -/
def idle (t : LockTable) : Finset SessionId := t.slots.domain \ t.busy

variable {t t' : LockTable} {session : SessionId} {lock : LockId}

theorem mem_busy : session ∈ t.busy ↔ ∃ k ∈ t.tickets, k.session = session := by
  simp [busy]

theorem mem_referenced : lock ∈ t.referenced ↔ ∃ k ∈ t.tickets, k.lock = lock := by
  simp [referenced]

/-! ### The slots of busy sessions -/

namespace Sound

variable (h : t.Sound)

include h

theorem isLive_iff_mem_busy (hslot : t.slots.get? session = some lock) :
    t.isLive lock = true ↔ session ∈ t.busy := by
  rw [isLive_iff, mem_busy]
  constructor
  · rintro ⟨k, hk, rfl⟩
    exact ⟨k, hk, h.slot_inj _ _ _ (h.slot_eq k hk) hslot⟩
  · rintro ⟨k, hk, rfl⟩
    rw [h.slot_eq k hk, Option.some.injEq] at hslot
    exact ⟨k, hk, hslot⟩

theorem exists_slot (hbusy : session ∈ t.busy) :
    ∃ lock ∈ t.referenced, t.slots.get? session = some lock := by
  obtain ⟨k, hk, rfl⟩ := mem_busy.mp hbusy
  exact ⟨k.lock, mem_referenced.mpr ⟨k, hk, rfl⟩, h.slot_eq k hk⟩

theorem busy_subset_domain : t.busy ⊆ t.slots.domain := by
  intro session hbusy
  obtain ⟨lock, -, hslot⟩ := h.exists_slot hbusy
  rw [Dict.mem_domain, hslot]
  rfl

theorem liveLock?_eq_none_iff : t.liveLock? session = none ↔ session ∉ t.busy := by
  constructor
  · intro hnone hbusy
    obtain ⟨k, hk, hsession⟩ := mem_busy.mp hbusy
    exact h.liveLock?_eq_none hnone k hk hsession
  · intro hidle
    cases hlive : t.liveLock? session with
    | none => rfl
    | some lock =>
      obtain ⟨k, hk, hsession, -⟩ := h.exists_ticket hlive
      exact absurd (mem_busy.mpr ⟨k, hk, hsession⟩) hidle

/-- Different busy sessions have different locks in their slots. -/
theorem card_referenced : t.referenced.card = t.busy.card := by
  have himage : t.busy.image (fun session => (t.slots.get? session).getD 0) = t.referenced := by
    ext lock
    rw [Finset.mem_image, mem_referenced]
    constructor
    · rintro ⟨session, hbusy, rfl⟩
      obtain ⟨k, hk, rfl⟩ := mem_busy.mp hbusy
      exact ⟨k, hk, by rw [h.slot_eq k hk, Option.getD_some]⟩
    · rintro ⟨k, hk, rfl⟩
      exact ⟨k.session, mem_busy.mpr ⟨k, hk, rfl⟩, by rw [h.slot_eq k hk, Option.getD_some]⟩
  rw [← himage, Finset.card_image_of_injOn]
  intro session hbusy session' hbusy' heq
  obtain ⟨k, hk, rfl⟩ := mem_busy.mp hbusy
  obtain ⟨k', hk', rfl⟩ := mem_busy.mp hbusy'
  simp only [h.slot_eq k hk, h.slot_eq k' hk', Option.getD_some] at heq
  exact h.session_eq hk hk' heq

/-! ### Sweeping -/

theorem get?_prune (session : SessionId) : t.prune.slots.get? session =
    if session ∈ t.busy then t.slots.get? session else none := by
  rw [LockTable.prune, Dict.get?_filter]
  cases hslot : t.slots.get? session with
  | none => simp
  | some lock => simp [Option.filter, h.isLive_iff_mem_busy hslot]

theorem domain_prune : t.prune.slots.domain = t.busy := by
  ext session
  rw [Dict.mem_domain, h.get?_prune]
  split
  · rename_i hbusy
    exact iff_of_true (Dict.mem_domain.mp (h.busy_subset_domain hbusy)) hbusy
  · rename_i hidle
    exact iff_of_false (by simp) hidle

theorem slotCount_prune : t.prune.slotCount = t.busy.card := by
  rw [slotCount, ← Dict.card_domain, h.domain_prune]

theorem liveCount_eq : t.liveCount = t.busy.card := h.slotCount_prune

/-- A sweep takes out as many slots as there are idle sessions. -/
theorem slotCount_sub_prune : t.slotCount - t.prune.slotCount = t.idle.card := by
  rw [h.slotCount_prune, slotCount, ← Dict.card_domain, idle,
    Finset.card_sdiff_of_subset h.busy_subset_domain]

/-! ### Drawing a ticket -/

/-- A draw for an idle session puts a new slot in, after a sweep if the table is full. -/
theorem slots_draw (thread : ThreadId) (session : SessionId) :
    (t.draw thread session).2.slots = if session ∈ t.busy then t.slots
      else (if t.threshold ≤ t.slotCount then t.prune else t).slots.insert session t.nextLock := by
  split
  · rename_i hbusy
    obtain ⟨k, hk, rfl⟩ := mem_busy.mp hbusy
    simp [LockTable.draw, LockTable.ensureSlot, h.liveLock?_eq hk]
  · rename_i hidle
    simp [LockTable.draw, LockTable.ensureSlot, h.liveLock?_eq_none_iff.mpr hidle]

end Sound

theorem busy_draw (t : LockTable) (thread : ThreadId) (session : SessionId) :
    (t.draw thread session).2.busy = insert session t.busy := by
  ext other
  simp only [mem_busy, tickets_draw, List.mem_append, List.mem_singleton, Finset.mem_insert]
  constructor
  · rintro ⟨k, hk | rfl, rfl⟩
    · exact .inr ⟨k, hk, rfl⟩
    · exact .inl rfl
  · rintro (rfl | ⟨k, hk, rfl⟩)
    · exact ⟨_, .inr rfl, rfl⟩
    · exact ⟨k, .inl hk, rfl⟩

/-! ### Steps -/

theorem threshold_step (hstep : t.Step t') : t'.threshold = t.threshold := by
  cases hstep with
  | still | prune => rfl
  | draw thread session =>
    simp only [draw, ensureSlot]
    split
    · rfl
    · split <;> rfl
  | grant id hgrant =>
    obtain ⟨_, _, _, _, _, rfl⟩ := grant_eq_some hgrant
    rfl
  | giveBack id =>
    cases hk : t.ticket? id with
    | none => rw [giveBack_of_none hk]
    | some k => rw [giveBack_eq hk]

theorem slots_giveBack (t : LockTable) (id : TicketId) : (t.giveBack id).2.slots = t.slots := by
  cases hk : t.ticket? id with
  | none => rw [giveBack_of_none hk]
  | some k => rw [giveBack_eq hk]

theorem slots_grant {id : TicketId} (hgrant : t.grant id = some t') : t'.slots = t.slots := by
  obtain ⟨_, _, _, _, _, rfl⟩ := grant_eq_some hgrant
  rfl

/-- The slot of a busy session stays, whatever is done to the table. -/
theorem Sound.get?_step (h : t.Sound) (hstep : t.Step t') (hbusy : session ∈ t.busy) :
    t'.slots.get? session = t.slots.get? session := by
  cases hstep with
  | still => rfl
  | draw thread other =>
    rw [h.slots_draw]
    split
    · rfl
    · rename_i hidle
      have hne : other ≠ session := fun heq => hidle (heq ▸ hbusy)
      rw [Dict.get?_insert, if_neg hne]
      split
      · rw [h.get?_prune, if_pos hbusy]
      · rfl
  | grant id hgrant => rw [slots_grant hgrant]
  | giveBack id => rw [slots_giveBack]
  | prune => rw [h.get?_prune, if_pos hbusy]

/-- A table that keeps to a bound keeps to it, raised to the number of sessions that are busy after
the step. -/
theorem Sound.slotCount_step (h : t.Sound) (hstep : t.Step t') {peak : Nat}
    (hle : t.slotCount ≤ max t.threshold peak) :
    t'.slotCount ≤ max t'.threshold (max t'.busy.card peak) := by
  have hsame : t'.slots = t.slots → t'.slotCount ≤ max t'.threshold (max t'.busy.card peak) := by
    intro hslots
    rw [slotCount, hslots, threshold_step hstep]
    exact hle.trans (by omega)
  cases hstep with
  | still => exact hsame rfl
  | grant id hgrant => exact hsame (slots_grant hgrant)
  | giveBack id => exact hsame (slots_giveBack t id)
  | prune =>
    rw [h.slotCount_prune]
    exact (Nat.le_max_left _ _).trans (Nat.le_max_right _ _)
  | draw thread session =>
    by_cases hbusy : session ∈ t.busy
    · exact hsame (by rw [h.slots_draw, if_pos hbusy])
    · rw [threshold_step (.draw thread session), slotCount, h.slots_draw, if_neg hbusy, busy_draw,
        Finset.card_insert_of_notMem hbusy]
      split
      · have hgrown := Dict.size_insert_le t.prune.slots session t.nextLock
        have hswept := h.slotCount_prune
        rw [slotCount] at hswept
        omega
      · have hgrown := Dict.size_insert_le t.slots session t.nextLock
        rename_i hroom
        rw [slotCount] at hroom
        omega

end LockTable

/-! ### What actions do to the slots -/

/-- A table that is at most as large as it must be, and what the actions of threads do to its slots:
only prunes and draws touch them. -/
structure World.Reclaims (w : World) (name : TableName) (threshold peak : Nat) : Prop where
  slotCount_le : (w.locks name).slotCount ≤ max threshold peak
  liveCount_eq : (w.locks name).liveCount = (w.locks name).busy.card
  has_slot : ∀ session ∈ (w.locks name).busy,
    ∃ lock ∈ (w.locks name).referenced, (w.locks name).slots.get? session = some lock
  /-- A busy session keeps its slot, whatever anybody does. -/
  keeps_slot : ∀ thread (a : World.Action) reply w', w.perform thread a = some (reply, w') →
    ∀ session ∈ (w.locks name).busy,
      (w'.locks name).slots.get? session = (w.locks name).slots.get? session
  /-- A prune takes out the slots of the idle sessions and answers with their number. -/
  prune : ∀ thread, ∃ w', w.perform thread (.prune name) = some ((w.locks name).idle.card, w') ∧
    ∀ session, (w'.locks name).slots.get? session =
      if session ∈ (w.locks name).idle then none else (w.locks name).slots.get? session
  /-- A draw for a session that is not busy puts a new lock in its slot, and before that sweeps a
  full table; any other draw leaves all slots as they are. -/
  draw : ∀ thread session, ∃ ticket w', w.perform thread (.draw name session) = some (ticket, w') ∧
    ∀ other, (w'.locks name).slots.get? other =
      if session ∈ (w.locks name).busy then (w.locks name).slots.get? other
      else if other = session then some (w.locks name).nextLock
      else if threshold ≤ (w.locks name).slotCount ∧ other ∈ (w.locks name).idle then none
      else (w.locks name).slots.get? other
  others : ∀ thread (a : World.Action) reply w', w.perform thread a = some (reply, w') →
    a ≠ .prune name → (∀ session, a ≠ .draw name session) →
      (w'.locks name).slots = (w.locks name).slots

namespace LockTable

variable {t : LockTable}

theorem Sound.get?_prune_idle (h : t.Sound) (session : SessionId) : t.prune.slots.get? session =
    if session ∈ t.idle then none else t.slots.get? session := by
  rw [h.get?_prune]
  by_cases hbusy : session ∈ t.busy
  · simp [hbusy, idle]
  · cases hslot : t.slots.get? session <;> simp [hbusy, hslot, idle]

theorem Sound.get?_draw (h : t.Sound) (thread : ThreadId) (session other : SessionId) :
    (t.draw thread session).2.slots.get? other =
      if session ∈ t.busy then t.slots.get? other
      else if other = session then some t.nextLock
      else if t.threshold ≤ t.slotCount ∧ other ∈ t.idle then none
      else t.slots.get? other := by
  rw [h.slots_draw]
  by_cases hbusy : session ∈ t.busy
  · rw [if_pos hbusy, if_pos hbusy]
  · rw [if_neg hbusy, if_neg hbusy, Dict.get?_insert]
    by_cases hself : other = session
    · rw [if_pos hself.symm, if_pos hself]
    · rw [if_neg (Ne.symm hself), if_neg hself]
      by_cases hfull : t.threshold ≤ t.slotCount
      · rw [if_pos hfull, h.get?_prune_idle]
        simp [hfull]
      · simp [hfull]

end LockTable

theorem World.slots_perform {w w' : World} {thread : ThreadId} {a : World.Action} {reply : a.Reply}
    (h : w.perform thread a = some (reply, w')) {name : TableName} (hprune : a ≠ .prune name)
    (hdraw : ∀ session, a ≠ .draw name session) :
    (w'.locks name).slots = (w.locks name).slots := by
  have hset : ∀ (t : TableName) (l : LockTable), (t = name → l.slots = (w.locks name).slots) →
      ((w.setLocks t l).locks name).slots = (w.locks name).slots := by
    intro t l hl
    rw [World.locks_setLocks]
    split
    · rename_i hname
      exact hl hname
    · rfl
  cases a with
  | get | set | remove | invalidate =>
    simp only [World.perform, Option.some.injEq, Prod.mk.injEq] at h
    rw [← h.2, World.locks_setBackend]
  | draw t session =>
    simp only [World.perform, Option.some.injEq, Prod.mk.injEq] at h
    rw [← h.2]
    exact hset t _ fun hname => absurd (hname ▸ rfl) (hdraw session)
  | await t ticket limit =>
    simp only [World.perform, Option.map_eq_some_iff, Prod.mk.injEq] at h
    obtain ⟨l, hgrant, _, rfl⟩ := h
    exact hset t l fun hname => hname ▸ LockTable.slots_grant hgrant
  | giveBack t ticket =>
    simp only [World.perform, Option.some.injEq, Prod.mk.injEq] at h
    rw [← h.2]
    exact hset t _ fun hname => hname ▸ LockTable.slots_giveBack _ _
  | prune t =>
    simp only [World.perform, Option.some.injEq, Prod.mk.injEq] at h
    rw [← h.2]
    exact hset t _ fun hname => absurd (hname ▸ rfl) hprune
  | count label =>
    simp only [World.perform, Option.some.injEq, Prod.mk.injEq] at h
    rw [← h.2]
    cases name <;> rfl

theorem LockTable.Sound.reclaims {w : World} {name : TableName} (h : (w.locks name).Sound)
    {peak : Nat} (hle : (w.locks name).slotCount ≤ max (w.locks name).threshold peak) :
    w.Reclaims name (w.locks name).threshold peak where
  slotCount_le := hle
  liveCount_eq := h.liveCount_eq
  has_slot _ hbusy := h.exists_slot hbusy
  keeps_slot _ _ _ _ hperform _ hbusy := h.get?_step (World.perform_locks hperform name) hbusy
  prune thread := by
    refine ⟨w.setLocks name (w.locks name).prune, ?_, fun session => ?_⟩
    · rw [← h.slotCount_sub_prune]
      rfl
    · rw [World.locks_setLocks, if_pos rfl, h.get?_prune_idle]
  draw thread session := by
    refine ⟨((w.locks name).draw thread session).1,
      w.setLocks name ((w.locks name).draw thread session).2, rfl, fun other => ?_⟩
    rw [World.locks_setLocks, if_pos rfl, h.get?_draw]
  others _ _ _ _ hperform hprune hdraw := World.slots_perform hperform hprune hdraw

/-! ### Runs -/

namespace Machine

variable {ρ : Type} {m m' : Machine ρ} {passed : List (Machine ρ)}

/-- The machines that a run has passed through, the last one first. -/
inductive Passed (m : Machine ρ) : List (Machine ρ) → Prop
  | start : Passed m [m]
  | move {m₁ m₂ : Machine ρ} {earlier : List (Machine ρ)} (mv : Move) :
    Passed m (m₁ :: earlier) → m₁.move? mv = some m₂ → Passed m (m₂ :: m₁ :: earlier)

/-- A run that goes on with a move, if the move is possible. -/
def proceed (passed : List (Machine ρ)) (mv : Move) : List (Machine ρ) :=
  match passed with
  | [] => []
  | m :: earlier => match m.move? mv with
    | some m' => m' :: m :: earlier
    | none => m :: earlier

def trail (m : Machine ρ) (moves : List Move) : List (Machine ρ) := moves.foldl proceed [m]

theorem Passed.proceed (h : m.Passed passed) (mv : Move) : m.Passed (proceed passed mv) := by
  cases passed with
  | nil => exact h
  | cons m₁ earlier =>
    cases hmove : m₁.move? mv with
    | some m₂ =>
      rw [Machine.proceed, hmove]
      exact h.move mv hmove
    | none =>
      rw [Machine.proceed, hmove]
      exact h

theorem passed_trail (m : Machine ρ) (moves : List Move) : m.Passed (m.trail moves) := by
  suffices ∀ passed, m.Passed passed → m.Passed (moves.foldl proceed passed) from this [m] .start
  induction moves with
  | nil => exact fun _ h => h
  | cons mv rest ih => exact fun passed h => ih _ (h.proceed mv)

/-- The largest number of locks of a table that were referred to at one time. -/
def peak (name : TableName) (passed : List (Machine ρ)) : Nat :=
  (passed.map fun m => (m.world.locks name).referenced.card).foldr max 0

theorem Passed.slotCount_le {name : TableName} (hpassed : m.Passed passed)
    (hsound : (m.world.locks name).Sound)
    (hstart : (m.world.locks name).slotCount ≤ (m.world.locks name).threshold) :
    ∀ m' ∈ passed.head?, (m'.world.locks name).Sound ∧
      (m'.world.locks name).threshold = (m.world.locks name).threshold ∧
      (m'.world.locks name).slotCount ≤ max (m'.world.locks name).threshold (peak name passed) := by
  induction hpassed with
  | start =>
    rintro _ ⟨⟩
    exact ⟨hsound, rfl, hstart.trans (Nat.le_max_left _ _)⟩
  | @move m₁ m₂ earlier mv _ hmove ih =>
    rintro _ ⟨⟩
    obtain ⟨hbefore, hthreshold, hle⟩ := ih m₁ rfl
    have hstep := move?_locks hmove name
    refine ⟨hbefore.step hstep, (LockTable.threshold_step hstep).trans hthreshold, ?_⟩
    have hraised := hbefore.slotCount_step hstep hle
    rwa [← (hbefore.step hstep).card_referenced] at hraised

/-- **Lock tables do not leak.** Whatever routines run on a new table, by however many threads, in
every state that they reach: the table has at most as many slots as the threshold, of which zero
counts as one, or as there were locks at one time with a holder or a waiter; the live locks are
those of the sessions that have a holder or a waiter now, and each of these has its slot and keeps
it; and sweeps, alone or before a draw, take out the slots of all other sessions. -/
theorem locks_reclaimed (w : World) (name : TableName) (threshold : Nat)
    (hnew : w.locks name = .new threshold) (routines : List (Routine ρ)) {m : Machine ρ}
    {earlier : List (Machine ρ)} (hpassed : (Machine.start w routines).Passed (m :: earlier)) :
    m.world.Reclaims name (max threshold 1) (peak name (m :: earlier)) := by
  have hstart : (Machine.start w routines).world.locks name = .new threshold := hnew
  obtain ⟨hsound, hthreshold, hle⟩ := hpassed.slotCount_le
    (hstart ▸ LockTable.sound_new threshold) (by rw [hstart]; exact Nat.zero_le _) m rfl
  rw [hstart] at hthreshold
  have hreclaims := hsound.reclaims hle
  rwa [hthreshold] at hreclaims

/-- A table of one slot, used for one session after the other, while another thread waits in vain:
the slot of the first session is swept. -/
theorem locks_reclaimed_one_slot :
    let first : Routine Unit := do
      let a ← Hold.acquire .shared none ⟨"a"⟩
      a.drop
      let b ← Hold.acquire .shared none ⟨"b"⟩
      b.drop
    let second : Routine Unit := do
      let b ← Hold.acquire .shared (some ⟨0⟩) ⟨"b"⟩
      b.drop
    let passed := (Machine.start (World.new 0) [first, second]).trail
      [.act 0, .act 0, .act 0, .act 0, .act 0, .act 1, .expire 1, .act 1]
    passed.length = 9 ∧ peak .shared passed = 1 ∧
      passed.head?.map (·.world.shared.slots.keys) = some [⟨"b"⟩] ∧
        ∃ m earlier, passed = m :: earlier ∧ m.world.Reclaims .shared 1 1 := by
  intro first second passed
  have hpeak : peak .shared passed = 1 := by decide
  obtain ⟨m, earlier, hlast⟩ : ∃ m earlier, passed = m :: earlier := ⟨_, _, rfl⟩
  have hreclaims := locks_reclaimed (World.new 0) .shared 0 rfl [first, second]
    (hlast ▸ passed_trail _ _ : (Machine.start (World.new 0) [first, second]).Passed (m :: earlier))
  rw [← hlast, hpeak] at hreclaims
  exact ⟨by decide, hpeak, by decide, m, earlier, hlast, hreclaims⟩

end Machine

end SessionCart
