import Mathlib.Data.List.Forall2
import SessionCart.Proofs.Lock.Exclusion

/-!
# One session in two lock tables

The tickets of other sessions shift the numbers of a session's own tickets, the numbers of its
locks, and the moments at which its dead slots are swept. Two tables in which nothing else about a
session differs are twins for it, with its tickets paired by their numbers: the session's lock has
the same owner in both, and what is done with paired tickets comes to the same.
-/

namespace SessionCart

/-! ### Numbers in pairs -/

/-- The relation with one more pair. -/
def withPair (ρ : Nat → Nat → Prop) (a a' : Nat) : Nat → Nat → Prop :=
  fun b b' => ρ b b' ∨ b = a ∧ b' = a'

/-- Numbers given out so far, below `n` and below `n'`, are paired one to one. -/
structure Pairs (ρ : Nat → Nat → Prop) (n n' : Nat) : Prop where
  lt : ∀ {a a'}, ρ a a' → a < n ∧ a' < n'
  unique : ∀ {a a' b b'}, ρ a a' → ρ b b' → (a = b ↔ a' = b')

/-- The numbers `σ` are given out, but not paired. -/
structure Unpaired (σ ρ : Nat → Nat → Prop) (n : Nat) : Prop where
  lt : ∀ {a b}, σ a b → a < n
  apart : ∀ {a b}, σ a b → ∀ a', ¬ ρ a a'

section Pairs

variable {ρ σ : Nat → Nat → Prop} {n n' : Nat}

theorem Pairs.symm (h : Pairs ρ n n') : Pairs (fun a a' => ρ a' a) n' n :=
  ⟨fun hρ => (h.lt hρ).symm, fun hρ hρ' => (h.unique hρ hρ').symm⟩

theorem Pairs.extend (h : Pairs ρ n n') : Pairs (withPair ρ n n') (n + 1) (n' + 1) where
  lt hρ := by
    rcases hρ with hρ | ⟨rfl, rfl⟩
    · exact ⟨Nat.lt_succ_of_lt (h.lt hρ).1, Nat.lt_succ_of_lt (h.lt hρ).2⟩
    · exact ⟨Nat.lt_succ_self _, Nat.lt_succ_self _⟩
  unique hρ hρ' := by
    rcases hρ with hρ | ⟨rfl, rfl⟩ <;> rcases hρ' with hρ' | ⟨rfl, rfl⟩
    · exact h.unique hρ hρ'
    · exact iff_of_false (Nat.ne_of_lt (h.lt hρ).1) (Nat.ne_of_lt (h.lt hρ).2)
    · exact iff_of_false (Nat.ne_of_gt (h.lt hρ').1) (Nat.ne_of_gt (h.lt hρ').2)
    · simp

theorem Pairs.grow (h : Pairs ρ n n') : Pairs ρ (n + 1) n' :=
  ⟨fun hρ => ⟨Nat.lt_succ_of_lt (h.lt hρ).1, (h.lt hρ).2⟩, h.unique⟩

theorem Unpaired.extend (h : Unpaired σ ρ n) (n' : Nat) :
    Unpaired σ (withPair ρ n n') (n + 1) where
  lt hσ := Nat.lt_succ_of_lt (h.lt hσ)
  apart hσ a' hρ := hρ.elim (h.apart hσ a') fun hnew => Nat.ne_of_lt (h.lt hσ) hnew.1

theorem Unpaired.withNext (h : Unpaired σ ρ n) (hρ : Pairs ρ n n') :
    Unpaired (withPair σ n n) ρ (n + 1) where
  lt hσ := by
    rcases hσ with hσ | ⟨rfl, -⟩
    · exact Nat.lt_succ_of_lt (h.lt hσ)
    · exact Nat.lt_succ_self _
  apart hσ a' ha := by
    rcases hσ with hσ | ⟨rfl, -⟩
    · exact h.apart hσ a' ha
    · exact Nat.lt_irrefl _ (hρ.lt ha).1

end Pairs

theorem rel_mono {α β : Type} {R R' : α → β → Prop} {o : Option α} {o' : Option β}
    (h : Option.Rel R o o') (hR : ∀ a b, R a b → R' a b) : Option.Rel R' o o' := by
  cases h with
  | none => exact .none
  | some hab => exact .some (hR _ _ hab)

theorem exists_of_rel_some {α β : Type} {R : α → β → Prop} {a : α} {o' : Option β}
    (h : Option.Rel R (some a) o') : ∃ b, o' = some b ∧ R a b := by
  cases h with
  | some hab => exact ⟨_, rfl, hab⟩

theorem eq_none_of_rel_none {α β : Type} {R : α → β → Prop} {o' : Option β}
    (h : Option.Rel R none o') : o' = none := by
  cases h
  rfl

theorem isSome_eq_of_rel {α β : Type} {R : α → β → Prop} {o : Option α} {o' : Option β}
    (h : Option.Rel R o o') : o.isSome = o'.isSome := by
  cases h <;> rfl

namespace LockTable

variable {t t' u u' : LockTable} {session : SessionId} {i : ThreadId} {id id' : TicketId}
  {ρ : TicketId → TicketId → Prop}

/-! ### The share of a session -/

/-- The tickets of a session. -/
def share (t : LockTable) (session : SessionId) : List Ticket :=
  t.tickets.filter fun k => decide (k.session = session)

/-- Who holds the lock of a session, and how many levels of it. -/
def owner? (t : LockTable) (session : SessionId) : Option Owner :=
  (t.liveLock? session).bind t.owners.get?

@[simp]
theorem mem_share {k : Ticket} : k ∈ t.share session ↔ k ∈ t.tickets ∧ k.session = session := by
  simp [share]

theorem share_draw (t : LockTable) (i : ThreadId) (s session : SessionId) :
    (t.draw i s).2.share session = t.share session ++
      if s = session then [⟨t.nextTicket, i, s, (t.ensureSlot s).1, false⟩] else [] := by
  rw [share, tickets_draw, List.filter_append, share, List.filter_singleton]
  by_cases hs : s = session <;> simp [hs]

theorem share_grant (h : t.grant id = some u) (session : SessionId) :
    u.share session = markHeld id (t.share session) := by
  obtain ⟨_, _, _, _, _, rfl⟩ := grant_eq_some h
  exact filter_markHeld (fun _ => rfl) t.tickets

theorem share_giveBack (t : LockTable) (id : TicketId) (session : SessionId) :
    (t.giveBack id).2.share session =
      (t.share session).filter fun k => decide (k.id ≠ id) := by
  rw [share, tickets_giveBack, share, List.filter_comm]

namespace Sound

variable (h : t.Sound)

include h

/-- The owner of a session's lock is the thread of the session's tickets that hold it. -/
theorem owner?_eq (session : SessionId) : t.owner? session =
    ((t.share session).filter (·.held)).head?.map fun k =>
      ⟨k.thread, ((t.share session).filter (·.held)).length⟩ := by
  cases hlive : t.liveLock? session with
  | none =>
    have hnone : t.share session = [] := by
      rw [List.eq_nil_iff_forall_not_mem]
      intro k hk
      exact h.liveLock?_eq_none hlive k (mem_share.mp hk).1 (mem_share.mp hk).2
    simp [owner?, hlive, hnone]
  | some lock =>
    obtain ⟨j, hj, rfl, rfl⟩ := h.exists_ticket hlive
    have hholders : (t.share j.session).filter (·.held) = holders j.lock t.tickets := by
      rw [share, List.filter_filter, holders]
      refine List.filter_congr fun k hk => ?_
      have hsame : k.session = j.session ↔ k.lock = j.lock :=
        ⟨h.lock_eq hk hj, h.session_eq hk hj⟩
      simp only [hsame]
    have howned := h.owned j.lock
    rw [hholders, owner?, hlive, Option.bind_some]
    cases howner : t.owners.get? j.lock with
    | none =>
      rw [howner, OwnedBy] at howned
      rw [howned]
      rfl
    | some o =>
      rw [howner] at howned
      obtain ⟨hpos, hlength, hthread⟩ := howned
      cases hheld : holders j.lock t.tickets with
      | nil => simp [← hlength, hheld] at hpos
      | cons k rest =>
        rw [hheld] at hlength hthread
        rw [List.head?_cons, Option.map_some, hthread k List.mem_cons_self, hlength]

/-- A waiting ticket gets the lock if the session's lock has no other owner. -/
theorem isSome_grant (id : TicketId) : (t.grant id).isSome = (t.ticket? id).any fun k =>
    !k.held && (takeLevel (t.owner? k.session) k.thread).isSome := by
  cases hk : t.ticket? id with
  | none => simp [LockTable.grant, hk]
  | some k =>
    have howner : t.owner? k.session = t.owners.get? k.lock := by
      rw [owner?, h.liveLock?_eq (ticket?_mem hk).1, Option.bind_some]
    cases hheld : k.held <;> cases hlevel : takeLevel (t.owners.get? k.lock) k.thread <;>
      simp [LockTable.grant, hk, hheld, hlevel, howner]

end Sound

/-! ### Twins -/

/-- Paired tickets that differ in nothing but their numbers. -/
structure TwinTickets (ρ : TicketId → TicketId → Prop) (k k' : Ticket) : Prop where
  paired : ρ k.id k'.id
  thread_eq : k.thread = k'.thread
  held_eq : k.held = k'.held

/-- The tables are twins for a session. Paired numbers are numbers of its tickets, which may be out
no more. -/
structure Twins (session : SessionId) (ρ : TicketId → TicketId → Prop) (t t' : LockTable) :
    Prop where
  sound : t.Sound
  sound' : t'.Sound
  pairs : Pairs ρ t.nextTicket t'.nextTicket
  session_eq : ∀ {a'}, ∀ k ∈ t.tickets, ρ k.id a' → k.session = session
  session_eq' : ∀ {a}, ∀ k ∈ t'.tickets, ρ a k.id → k.session = session
  share : List.Forall₂ (TwinTickets ρ) (t.share session) (t'.share session)

/-- What is done with single tickets leaves all others as they are, and takes no new ones. -/
structure Keeps (t u : LockTable) : Prop where
  sound : u.Sound
  nextTicket_eq : u.nextTicket = t.nextTicket
  ticket : ∀ j ∈ u.tickets, ∃ k ∈ t.tickets, k.id = j.id ∧ k.session = j.session

theorem Keeps.refl (h : t.Sound) : t.Keeps t := ⟨h, rfl, fun j hj => ⟨j, hj, rfl, rfl⟩⟩

theorem keeps_grant (h : t.Sound) (hgrant : t.grant id = some u) : t.Keeps u := by
  refine ⟨h.grant hgrant, ?_, ?_⟩
  all_goals obtain ⟨_, _, _, _, _, rfl⟩ := grant_eq_some hgrant
  · rfl
  · intro j hj
    obtain ⟨k, hk, rfl⟩ := List.mem_map.mp hj
    refine ⟨k, hk, ?_⟩
    split <;> exact ⟨rfl, rfl⟩

theorem keeps_giveBack (h : t.Sound) (id : TicketId) : t.Keeps (t.giveBack id).2 := by
  refine ⟨h.giveBack id, ?_, fun j hj => ?_⟩
  · cases hk : t.ticket? id with
    | none => rw [giveBack_of_none hk]
    | some k => rw [giveBack_eq hk]
  · rw [tickets_giveBack] at hj
    exact ⟨j, (List.mem_filter.mp hj).1, rfl, rfl⟩

namespace Twins

variable (h : Twins session ρ t t')

include h

theorem symm : Twins session (fun a a' => ρ a' a) t' t where
  sound := h.sound'
  sound' := h.sound
  pairs := h.pairs.symm
  session_eq := h.session_eq'
  session_eq' := h.session_eq
  share := (h.share.imp fun _ _ hk => ⟨hk.paired, hk.thread_eq.symm, hk.held_eq.symm⟩).flip

theorem exists_twin {k : Ticket} (hρ : ρ id id') (hk : t.ticket? id = some k) :
    ∃ k', t'.ticket? id' = some k' ∧ TwinTickets ρ k k' := by
  obtain ⟨hmem, rfl⟩ := ticket?_mem hk
  have hshare : k ∈ t.share session := mem_share.mpr ⟨hmem, h.session_eq k hmem hρ⟩
  obtain ⟨n, hn, rfl⟩ := List.getElem_of_mem hshare
  have hn' : n < (t'.share session).length := h.share.length_eq ▸ hn
  have htwin := h.share.get hn hn'
  have hmem' := (mem_share.mp (List.getElem_mem hn')).1
  refine ⟨_, ?_, htwin⟩
  rw [(h.pairs.unique hρ htwin.paired).mp rfl]
  exact ticket?_of_mem h.sound'.ids_nodup hmem'

theorem ticket? (hρ : ρ id id') : Option.Rel (TwinTickets ρ) (t.ticket? id) (t'.ticket? id') := by
  cases hk : t.ticket? id with
  | some k =>
    obtain ⟨k', hk', htwin⟩ := h.exists_twin hρ hk
    rw [hk']
    exact .some htwin
  | none =>
    cases hk' : t'.ticket? id' with
    | none => exact .none
    | some k' =>
      obtain ⟨k, hk₂, -⟩ := h.symm.exists_twin hρ hk'
      rw [hk] at hk₂
      cases hk₂

theorem owner?_eq : t.owner? session = t'.owner? session := by
  have hheld : List.Forall₂ (TwinTickets ρ) ((t.share session).filter (·.held))
      ((t'.share session).filter (·.held)) :=
    List.rel_filter (fun k k' hk => by simp only [hk.held_eq]) h.share
  rw [h.sound.owner?_eq, h.sound'.owner?_eq, hheld.length_eq]
  generalize (t.share session).filter (·.held) = held at hheld
  generalize (t'.share session).filter (·.held) = held' at hheld
  cases hheld with
  | nil => rfl
  | cons hk _ => simp only [List.head?_cons, Option.map_some, hk.thread_eq]

theorem keep (hu : t.Keeps u) (hu' : t'.Keeps u')
    (hshare : List.Forall₂ (TwinTickets ρ) (u.share session) (u'.share session)) :
    Twins session ρ u u' where
  sound := hu.sound
  sound' := hu'.sound
  pairs := by
    rw [hu.nextTicket_eq, hu'.nextTicket_eq]
    exact h.pairs
  session_eq j hj hρ := by
    obtain ⟨k, hk, hid, hsession⟩ := hu.ticket j hj
    exact hsession ▸ h.session_eq k hk (hid ▸ hρ)
  session_eq' j hj hρ := by
    obtain ⟨k, hk, hid, hsession⟩ := hu'.ticket j hj
    exact hsession ▸ h.session_eq' k hk (hid ▸ hρ)
  share := hshare

theorem draw (i : ThreadId) :
    Twins session (withPair ρ t.nextTicket t'.nextTicket) (t.draw i session).2
      (t'.draw i session).2 where
  sound := h.sound.draw i session
  sound' := h.sound'.draw i session
  pairs := h.pairs.extend
  session_eq k hk hρ := by
    rw [tickets_draw, List.mem_append, List.mem_singleton] at hk
    rcases hk with hk | rfl
    · refine h.session_eq k hk (hρ.resolve_right fun hnew => ?_)
      exact Nat.ne_of_lt (h.sound.id_lt k hk) hnew.1
    · rfl
  session_eq' k hk hρ := by
    rw [tickets_draw, List.mem_append, List.mem_singleton] at hk
    rcases hk with hk | rfl
    · refine h.session_eq' k hk (hρ.resolve_right fun hnew => ?_)
      exact Nat.ne_of_lt (h.sound'.id_lt k hk) hnew.2
    · rfl
  share := by
    rw [share_draw, share_draw, if_pos rfl, if_pos rfl]
    refine List.rel_append (h.share.imp fun _ _ hk => ⟨.inl hk.paired, hk.thread_eq, hk.held_eq⟩) ?_
    exact .cons ⟨.inr ⟨rfl, rfl⟩, rfl, rfl⟩ .nil

theorem isSome_grant (hρ : ρ id id') : (t.grant id).isSome = (t'.grant id').isSome := by
  rw [h.sound.isSome_grant, h.sound'.isSome_grant]
  have hticket := h.ticket? hρ
  cases hk : t.ticket? id with
  | none =>
    rw [hk] at hticket
    rw [eq_none_of_rel_none hticket]
    rfl
  | some k =>
    obtain ⟨k', hk', htwin⟩ := h.exists_twin hρ hk
    obtain ⟨hmem, rfl⟩ := ticket?_mem hk
    obtain ⟨hmem', rfl⟩ := ticket?_mem hk'
    rw [hk', Option.any_some, Option.any_some, h.session_eq k hmem hρ, h.session_eq' k' hmem' hρ,
      h.owner?_eq, htwin.thread_eq, htwin.held_eq]

/-- Of paired tickets both get the lock or neither does. -/
theorem grant (hρ : ρ id id') : Option.Rel (Twins session ρ) (t.grant id) (t'.grant id') := by
  have hsome := h.isSome_grant hρ
  cases hgrant : t.grant id with
  | none =>
    cases hgrant' : t'.grant id' with
    | none => exact .none
    | some u' => simp [hgrant, hgrant'] at hsome
  | some u =>
    cases hgrant' : t'.grant id' with
    | none => simp [hgrant, hgrant'] at hsome
    | some u' =>
      refine .some (h.keep (keeps_grant h.sound hgrant) (keeps_grant h.sound' hgrant') ?_)
      rw [share_grant hgrant, share_grant hgrant']
      refine List.rel_map (fun k k' hk => ?_) h.share
      simp only [h.pairs.unique hk.paired hρ]
      split
      · exact ⟨hk.paired, hk.thread_eq, rfl⟩
      · exact hk

theorem giveBack (hρ : ρ id id') : (t.giveBack id).1 = (t'.giveBack id').1 ∧
    Twins session ρ (t.giveBack id).2 (t'.giveBack id').2 := by
  refine ⟨?_, h.keep (keeps_giveBack h.sound id) (keeps_giveBack h.sound' id') ?_⟩
  · have hticket := h.ticket? hρ
    cases hk : t.ticket? id with
    | none =>
      rw [hk] at hticket
      rw [giveBack_of_none hk, giveBack_of_none (eq_none_of_rel_none hticket)]
    | some k =>
      obtain ⟨k', hk', htwin⟩ := h.exists_twin hρ hk
      rw [giveBack_eq hk, giveBack_eq hk', htwin.held_eq]
  · rw [share_giveBack, share_giveBack]
    refine List.rel_filter (fun k k' hk => ?_) h.share
    simp only [decide_eq_true_eq, ne_eq, h.pairs.unique hk.paired hρ]

/-! ### Other sessions at one of the tables -/

theorem draw_left {s : SessionId} (hs : s ≠ session) (i : ThreadId) :
    Twins session ρ (t.draw i s).2 t' where
  sound := h.sound.draw i s
  sound' := h.sound'
  pairs := h.pairs.grow
  session_eq k hk hρ := by
    rw [tickets_draw, List.mem_append, List.mem_singleton] at hk
    rcases hk with hk | rfl
    · exact h.session_eq k hk hρ
    · exact absurd (h.pairs.lt hρ).1 (Nat.lt_irrefl _)
  session_eq' := h.session_eq'
  share := by
    rw [share_draw, if_neg hs, List.append_nil]
    exact h.share

theorem ne_of_mem (hid : ∀ a', ¬ ρ id a') {k : Ticket} (hk : k ∈ t.share session) : k.id ≠ id := by
  rintro rfl
  obtain ⟨n, hn, rfl⟩ := List.getElem_of_mem hk
  exact hid _ (h.share.get hn (h.share.length_eq ▸ hn)).paired

theorem grant_left (hid : ∀ a', ¬ ρ id a') (hgrant : t.grant id = some u) :
    Twins session ρ u t' := by
  refine h.keep (keeps_grant h.sound hgrant) (.refl h.sound') ?_
  rw [share_grant hgrant, markHeld_eq_self fun _ hk => h.ne_of_mem hid hk]
  exact h.share

theorem giveBack_left (hid : ∀ a', ¬ ρ id a') : Twins session ρ (t.giveBack id).2 t' := by
  refine h.keep (keeps_giveBack h.sound id) (.refl h.sound') ?_
  rw [share_giveBack, List.filter_eq_self.mpr]
  · exact h.share
  · intro k hk
    simpa using h.ne_of_mem hid hk

end Twins

end LockTable

end SessionCart
