import SessionCart.Proofs.Turn.Order

/-!
# Threads that keep to turns

A routine for which `Site.wp` holds does what it says in a machine: every action that it can take
keeps the invariant and leaves `Site.wp` true of the rest. The only action that can be impossible is
to wait for the lock while it is another thread's turn.
-/

namespace SessionCart

variable {x : Site} {threads : Nat} {first : Shelf} {w w' : World} {views : ThreadId → View}
  {turns : List Turn} {holder : Option ThreadId} {i : ThreadId}

/-! ### One action -/

namespace Tidy

/-- What becomes of the invariant when a thread has taken an action. -/
def Next (x : Site) (threads : Nat) (first : Shelf) (w' : World) (views : ThreadId → View)
    (turns : List Turn) (holder : Option ThreadId) (i : ThreadId) (next : View → Prop) : Prop :=
  ∃ v turns' holder', next v ∧ v.workspace = (views i).workspace ∧
    Turn.Step i turns holder turns' holder' ∧
    Tidy x threads first w' (Function.update views i v) turns' holder'

variable (h : Tidy x threads first w views turns holder)

include h

theorem locks_setBackend (b : Backend) : ((w.setBackend x.store b).locks x.table).Sound ∧
    ((w.setBackend x.store b).locks x.table).tickets = (w.locks x.table).tickets := by
  rw [World.locks_setBackend]
  exact ⟨h.sound, rfl⟩

theorem get {session : SessionId} {name : String}
    {next : Except StoreFault (Option Value) → View → Prop}
    (hallows : x.Allows (views i) (.get x.store session name) next)
    {reply : Except StoreFault (Option Value)}
    (hperform : w.perform i (.get x.store session name) = some (reply, w')) :
    Next x threads first w' views turns holder i (next reply) := by
  obtain ⟨_, rfl, hnext⟩ := hallows
  simp only [World.perform, h.calm.get_eq, Option.some.injEq, Prod.mk.injEq] at hperform
  obtain ⟨rfl, rfl⟩ := hperform
  have hshelf : x.shelf (w.setBackend x.store
      ((w.backend x.store).note .get x.session name false)) = x.shelf w := by
    simp [Site.shelf]
  refine ⟨_, _, _, hnext (x.shelf w) (h.sees i), rfl, .stay _ _, ?_⟩
  refine h.access (h.locks_setBackend _) ?_ rfl ?_ ?_ (fun _ => hshelf) rfl rfl
  · rw [World.backend_setBackend]
    exact h.calm.note _ _ _ _
  · rw [hshelf, View.Sees]
    split
    · rfl
    · exact x.refl _
  · rw [hshelf]
    exact x.refl _

theorem write {b : Backend} {v : View} (hin : (views i).inside = true) (hcalm : b.Calm)
    (hallows : x.allows (views i).shelf v.shelf)
    (hstore : b.store.get? x.session = v.shelf.value) (htickets : v.tickets = (views i).tickets)
    (hsince : v.since = (views i).since) (hturns : v.turns = (views i).turns) :
    Tidy x threads first (w.setBackend x.store b) (Function.update views i v) turns holder := by
  have hshelf : x.shelf (w.setBackend x.store b) = v.shelf := by
    rw [Site.shelf, World.backend_setBackend, hstore]
  refine h.access (h.locks_setBackend b) ?_ htickets ?_ ?_ ?_ hsince hturns
  · rw [World.backend_setBackend]
    exact hcalm
  · rw [View.inside] at hin
    rw [View.Sees, View.inside, htickets, if_pos hin, hshelf]
  · rw [hshelf, ← h.shelf_eq hin]
    exact hallows
  · intro hout
    rw [hin] at hout
    exact absurd hout (by decide)

theorem set {session : SessionId} {name : String} {value : Value}
    {next : Except StoreFault Unit → View → Prop}
    (hallows : x.Allows (views i) (.set x.store session name value) next)
    {reply : Except StoreFault Unit}
    (hperform : w.perform i (.set x.store session name value) = some (reply, w')) :
    Next x threads first w' views turns holder i (next reply) := by
  obtain ⟨_, rfl, hin, hstep, hnext⟩ := hallows
  simp only [World.perform, Backend.set, h.calm.perform_eq, Option.some.injEq,
    Prod.mk.injEq] at hperform
  obtain ⟨rfl, rfl⟩ := hperform
  have hstored : (w.backend x.store).store.get? x.session = (views i).shelf.value := by
    rw [h.shelf_eq hin, Site.shelf]
  refine ⟨_, _, _, hnext, rfl, .stay _ _, ?_⟩
  refine h.write hin ((h.calm.note ..).withStore _) hstep ?_ rfl rfl rfl
  funext other
  simp [View.put, hstored]

theorem remove {session : SessionId} {name : String}
    {next : Except StoreFault (Option Value) → View → Prop}
    (hallows : x.Allows (views i) (.remove x.store session name) next)
    {reply : Except StoreFault (Option Value)}
    (hperform : w.perform i (.remove x.store session name) = some (reply, w')) :
    Next x threads first w' views turns holder i (next reply) := by
  obtain ⟨_, rfl, hin, hstep, hnext⟩ := hallows
  have hstored : (w.backend x.store).store.get? x.session = (views i).shelf.value := by
    rw [h.shelf_eq hin, Site.shelf]
  simp only [World.perform, Backend.remove, h.calm.perform_eq, Backend.store_note, hstored,
    Option.some.injEq, Prod.mk.injEq] at hperform
  obtain ⟨rfl, rfl⟩ := hperform
  refine ⟨_, _, _, hnext, rfl, .stay _ _, ?_⟩
  refine h.write hin ((h.calm.note ..).withStore _) hstep ?_ rfl rfl rfl
  funext other
  simp [View.put, hstored]

theorem invalidate {session : SessionId} {next : Except StoreFault Unit → View → Prop}
    (hallows : x.Allows (views i) (.invalidate x.store session) next)
    {reply : Except StoreFault Unit}
    (hperform : w.perform i (.invalidate x.store session) = some (reply, w')) :
    Next x threads first w' views turns holder i (next reply) := by
  obtain ⟨_, rfl, hin, hstep, hnext⟩ := hallows
  simp only [World.perform, Backend.invalidate, h.calm.perform_eq, Option.some.injEq,
    Prod.mk.injEq] at hperform
  obtain ⟨rfl, rfl⟩ := hperform
  refine ⟨_, _, _, hnext, rfl, .stay _ _, ?_⟩
  refine h.write hin ((h.calm.note ..).withStore _) hstep ?_ rfl rfl rfl
  funext other
  simp [View.put, Shelf.empty]

theorem draw {session : SessionId} (hi : i < threads) {next : TicketId → View → Prop}
    (hallows : x.Allows (views i) (.draw x.table session) next) {reply : TicketId}
    (hperform : w.perform i (.draw x.table session) = some (reply, w')) :
    Next x threads first w' views turns holder i (next reply) := by
  obtain ⟨_, rfl, hnext⟩ := hallows
  simp only [World.perform, Option.some.injEq, Prod.mk.injEq] at hperform
  obtain ⟨rfl, rfl⟩ := hperform
  have hfresh : ∀ e ∈ (views i).tickets, e.1 ≠ (w.locks x.table).nextTicket := by
    rintro ⟨id, held⟩ he
    rw [h.tickets_eq i, LockTable.mem_ticketsOf_iff] at he
    obtain ⟨k, hk, _, rfl, _⟩ := he
    exact Nat.ne_of_lt (h.sound.id_lt k hk)
  refine ⟨_, _, _, hnext _ hfresh, rfl, .stay _ _, ?_⟩
  refine h.locking (h.sound.draw i x.session) ?_ ?_ ?_ (View.inside_draw ..) rfl rfl
  · rw [LockTable.tickets_draw]
    intro k hk
    rcases List.mem_append.mp hk with hk | hk
    · exact h.here k hk
    · rw [List.mem_singleton.mp hk]
      exact ⟨rfl, hi⟩
  · refine (Function.forall_update_iff views fun j u => u.tickets = _).mpr ⟨?_, fun j hj => ?_⟩
    · rw [LockTable.ticketsOf_draw, if_pos rfl, ← h.tickets_eq i]
      rfl
    · rw [LockTable.ticketsOf_draw, if_neg hj, h.tickets_eq j]
  · have hsees := h.sees i
    rw [View.Sees] at hsees ⊢
    rwa [View.inside_draw]

theorem await {k : TicketId} {limit : Option Duration} {next : Bool → View → Prop}
    (hallows : x.Allows (views i) (.await x.table k limit) next) {reply : Bool}
    (hperform : w.perform i (.await x.table k limit) = some (reply, w')) :
    Next x threads first w' views turns holder i (next reply) := by
  obtain ⟨_, hk, hnext, _⟩ := hallows
  simp only [World.perform, Option.map_eq_some_iff, Prod.mk.injEq] at hperform
  obtain ⟨l, hgrant, rfl, rfl⟩ := hperform
  have hhere : ∀ e ∈ l.tickets, e.session = x.session ∧ e.thread < threads := by
    obtain ⟨_, _, _, _, _, rfl⟩ := LockTable.grant_eq_some hgrant
    intro e he
    obtain ⟨j, hj, rfl⟩ := List.mem_map.mp he
    have := h.here j hj
    split <;> exact this
  have htickets : ∀ j, (Function.update views i ((views i).enter k (x.shelf w)) j).tickets =
      l.ticketsOf j := by
    refine (Function.forall_update_iff views fun j u => u.tickets = _).mpr ⟨?_, fun j hj => ?_⟩
    · rw [LockTable.ticketsOf_grant hgrant, ← h.tickets_eq i]
      rfl
    · rw [LockTable.ticketsOf_grant hgrant, ← h.tickets_eq j]
      refine ((List.map_congr_left fun e he => ?_).trans (List.map_id _)).symm
      rw [h.tickets_eq i] at hk
      rw [h.tickets_eq j] at he
      rw [if_neg (h.sound.ticketsOf_ne hk hj e he), id]
  have hinside : ((views i).enter k (x.shelf w)).inside = true := by
    rw [View.inside, List.any_eq_true]
    exact ⟨(k, true), List.mem_map.mpr ⟨(k, false), hk, by simp⟩, rfl⟩
  cases hin : (views i).inside with
  | true =>
    refine ⟨_, _, _, hnext (x.shelf w) (h.sees i), rfl, .stay _ _, ?_⟩
    refine h.locking (h.sound.grant hgrant) hhere htickets ?_ (hinside.trans hin.symm) ?_ rfl
    · rw [View.Sees, if_pos hinside]
      rfl
    · rw [View.enter, if_pos hin]
  | false =>
    have hsince : ((views i).enter k (x.shelf w)).since = x.shelf w := by
      simp [View.enter, hin]
    obtain ⟨hstep, htidy⟩ :=
      h.enter (h.sound.grant hgrant) hhere htickets rfl hinside hin hsince rfl
    exact ⟨_, _, _, hnext (x.shelf w) (h.sees i), rfl, hstep, htidy⟩

theorem giveBack {k : TicketId} {next : Bool → View → Prop}
    (hallows : x.Allows (views i) (.giveBack x.table k) next) {reply : Bool}
    (hperform : w.perform i (.giveBack x.table k) = some (reply, w')) :
    Next x threads first w' views turns holder i (next reply) := by
  obtain ⟨_, held, hk, hnext⟩ := hallows
  rw [h.tickets_eq i] at hk
  simp only [World.perform, Option.some.injEq, Prod.mk.injEq, h.sound.giveBack_fst hk] at hperform
  obtain ⟨rfl, rfl⟩ := hperform
  have hhere : ∀ e ∈ ((w.locks x.table).giveBack k).2.tickets,
      e.session = x.session ∧ e.thread < threads := by
    rw [LockTable.tickets_giveBack]
    exact fun e he => h.here e (List.mem_filter.mp he).1
  have htickets : ∀ j, (Function.update views i ((views i).leave k) j).tickets =
      ((w.locks x.table).giveBack k).2.ticketsOf j := by
    refine (Function.forall_update_iff views fun j u => u.tickets = _).mpr ⟨?_, fun j hj => ?_⟩
    · rw [LockTable.ticketsOf_giveBack, ← h.tickets_eq i]
      rfl
    · rw [LockTable.ticketsOf_giveBack, ← h.tickets_eq j, List.filter_eq_self.mpr]
      intro e he
      rw [h.tickets_eq j] at he
      simpa using h.sound.ticketsOf_ne hk hj e he
  by_cases hlast : (views i).inside = true ∧ ((views i).leave k).inside = false
  · obtain ⟨hin, hout⟩ := hlast
    have hturns : ((views i).leave k).turns =
        (views i).turns ++ [((views i).since, (views i).shelf)] := by
      have hleft : ((views i).tickets.filter fun e => decide (e.1 ≠ k)).any Prod.snd = false := hout
      simp only [View.leave, hin, hleft, and_self, if_true]
    obtain ⟨hstep, htidy⟩ := h.leave (h.sound.giveBack k) hhere htickets rfl hout hin hturns
    exact ⟨_, _, _, hnext, rfl, hstep, htidy⟩
  · have hinside : ((views i).leave k).inside = (views i).inside := by
      cases hin : (views i).inside with
      | true => simpa [hin] using hlast
      | false =>
        rw [View.inside, List.any_eq_false] at hin ⊢
        exact fun e he => hin e (List.mem_filter.mp he).1
    have hturns : ((views i).leave k).turns = (views i).turns := by
      have hleft : ¬((views i).inside = true ∧
          ((views i).tickets.filter fun e => decide (e.1 ≠ k)).any Prod.snd = false) := hlast
      rw [View.leave]
      simp only [if_neg hleft, List.append_nil]
    refine ⟨_, _, _, hnext, rfl, .stay _ _, ?_⟩
    refine h.locking (h.sound.giveBack k) hhere htickets ?_ hinside rfl hturns
    have hsees := h.sees i
    rw [View.Sees] at hsees ⊢
    rwa [hinside]

theorem prune {t : TableName} {next : Nat → View → Prop}
    (hallows : x.Allows (views i) (.prune t) next) {reply : Nat}
    (hperform : w.perform i (.prune t) = some (reply, w')) :
    Next x threads first w' views turns holder i (next reply) := by
  simp only [World.perform, Option.some.injEq, Prod.mk.injEq] at hperform
  obtain ⟨_, rfl⟩ := hperform
  have hlocks : ((w.setLocks t (w.locks t).prune).locks x.table).Sound ∧
      ((w.setLocks t (w.locks t).prune).locks x.table).tickets = (w.locks x.table).tickets := by
    rw [World.locks_setLocks]
    split
    · rename_i heq
      rw [heq]
      exact ⟨h.sound.prune, rfl⟩
    · exact ⟨h.sound, rfl⟩
  refine ⟨_, _, _, hallows reply, rfl, .stay _ _, ?_⟩
  exact h.work hlocks (World.backend_setLocks ..) rfl rfl rfl rfl

theorem count {label : String} {next : Nat → View → Prop}
    (hallows : x.Allows (views i) (.count label) next) {reply : Nat}
    (hperform : w.perform i (.count label) = some (reply, w')) :
    Next x threads first w' views turns holder i (next reply) := by
  simp only [World.perform, Option.some.injEq, Prod.mk.injEq] at hperform
  obtain ⟨_, rfl⟩ := hperform
  refine ⟨_, _, _, hallows reply, rfl, .stay _ _, ?_⟩
  refine h.work ⟨?_, ?_⟩ ?_ rfl rfl rfl rfl
  · cases htable : x.table <;> exact htable ▸ h.sound
  · cases x.table <;> rfl
  · cases x.store <;> rfl

theorem perform (hi : i < threads) {a : World.Action} {next : a.Reply → View → Prop}
    (hallows : x.Allows (views i) a next) {reply : a.Reply}
    (hperform : w.perform i a = some (reply, w')) :
    Next x threads first w' views turns holder i (next reply) := by
  cases a with
  | get s session name =>
    cases hallows.1
    exact h.get hallows hperform
  | set s session name value =>
    cases hallows.1
    exact h.set hallows hperform
  | remove s session name =>
    cases hallows.1
    exact h.remove hallows hperform
  | invalidate s session =>
    cases hallows.1
    exact h.invalidate hallows hperform
  | draw t session =>
    cases hallows.1
    exact h.draw hi hallows hperform
  | await t k limit =>
    cases hallows.1
    exact h.await hallows hperform
  | giveBack t k =>
    cases hallows.1
    exact h.giveBack hallows hperform
  | prune t => exact h.prune hallows hperform
  | count label => exact h.count hallows hperform

theorem exists_grant (hfree : ∀ j, holder = some j → j = i) {k : TicketId}
    (hk : (k, false) ∈ (views i).tickets) : ∃ l, (w.locks x.table).grant k = some l := by
  rw [h.tickets_eq i, LockTable.mem_ticketsOf_iff] at hk
  obtain ⟨e, he, hthread, rfl, hheld⟩ := hk
  have hfind := LockTable.ticket?_of_mem h.sound.ids_nodup he
  suffices ∃ o, LockTable.takeLevel ((w.locks x.table).owners.get? e.lock) e.thread = some o by
    obtain ⟨o, ho⟩ := this
    simp [LockTable.grant, hfind, hheld, ho]
  cases howner : (w.locks x.table).owners.get? e.lock with
  | none => exact ⟨_, rfl⟩
  | some o =>
    -- some ticket holds the lock, and its thread is the owner
    obtain ⟨e', he', howns⟩ := (howner ▸ h.sound.owned e.lock).exists_holder
    obtain ⟨he', hheld', -⟩ := LockTable.mem_holders.mp he'
    have hinside : (views e'.thread).inside = true := by
      rw [View.inside, h.tickets_eq, List.any_eq_true]
      exact ⟨(e'.id, true), LockTable.mem_ticketsOf_iff.mpr ⟨e', he', rfl, rfl, hheld'⟩, rfl⟩
    have hself := hfree _ ((h.inside_iff _).mp hinside)
    exact ⟨_, if_pos (howns.symm.trans (hself.trans hthread.symm))⟩

theorem exists_perform (hfree : ∀ j, holder = some j → j = i) {a : World.Action}
    {next : a.Reply → View → Prop} (hallows : x.Allows (views i) a next) :
    ∃ reply w', w.perform i a = some (reply, w') := by
  cases a with
  | await t k limit =>
    obtain ⟨rfl, hk, _⟩ := hallows
    obtain ⟨l, hl⟩ := h.exists_grant hfree hk
    exact ⟨true, w.setLocks x.table l, by simp [World.perform, hl]⟩
  | get | set | remove | invalidate | draw | giveBack | prune | count => exact ⟨_, _, rfl⟩

end Tidy

end SessionCart
