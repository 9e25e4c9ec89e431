import SessionCart.Proofs.Desk.Spared
import SessionCart.Proofs.Lock.Twin
import SessionCart.Proofs.Turn.Pact

/-!
# A session to oneself

A thread whose session the others leave alone knows at each moment what is stored there, what it has
of locks and what it has done. Where backends refuse nothing and nobody else has the session's lock,
it is not held up either: it comes to its end, and not by a refusal.
-/

namespace SessionCart

/-! ### What is known -/

/-- A session of a store that the others leave alone. -/
structure Retreat where
  store : StoreName
  session : SessionId
  /-- Backends may refuse calls, and waits for the lock may be too long. -/
  refuses : Prop

/-- What a thread has and sees in its retreat, and what it has done there. -/
structure Stay where
  workspace : Workspace
  tickets : List (Hold × Bool)
  shelf : Shelf
  /-- The numbers that were dealt out to it. -/
  made : List Nat := []
  /-- It has asked for a change of what is stored. -/
  wrote : Bool := false

namespace Stay

variable (v : Stay)

def work (l : Workspace) : Stay := { v with workspace := l }

def ask (shelf : Shelf) : Stay := { v with shelf := shelf, wrote := true }

def deal (n : Nat) : Stay := { v with made := v.made ++ [n] }

def draw (h : Hold) : Stay := { v with tickets := v.tickets ++ [(h, false)] }

def enter (h : Hold) : Stay :=
  { v with tickets := v.tickets.map fun e => if e.1 = h then (e.1, true) else e }

def leave (h : Hold) : Stay :=
  { v with tickets := v.tickets.filter fun e => decide (e.1 ≠ h) }

/-- One more level of a lock. -/
def take (h : Hold) : Stay := { v with tickets := v.tickets ++ [(h, true)] }

variable {v} {h : Hold}

theorem enter_draw (hfresh : ∀ e ∈ v.tickets, e.1 ≠ h) : (v.draw h).enter h = v.take h := by
  have hsame : v.tickets.map (fun e => if e.1 = h then (e.1, true) else e) = v.tickets := by
    refine (List.map_congr_left fun e he => ?_).trans (List.map_id _)
    rw [if_neg (hfresh e he), id]
  simp [enter, draw, take, hsame]

theorem mem_take : (h, true) ∈ (v.take h).tickets := by simp [take]

theorem leave_draw (hfresh : ∀ e ∈ v.tickets, e.1 ≠ h) : (v.draw h).leave h = v := by
  have hsame : v.tickets.filter (fun e => decide (e.1 ≠ h)) = v.tickets :=
    List.filter_eq_self.mpr (by simpa using hfresh)
  simp only [leave, draw, List.filter_append, hsame]
  simp

theorem tickets_leave {tickets : List (Hold × Bool)} (hfresh : ∀ e ∈ tickets, e.1 ≠ h)
    (htickets : v.tickets = tickets ++ [(h, true)]) : (v.leave h).tickets = tickets := by
  rw [leave, htickets, List.filter_append, List.filter_eq_self.mpr (by simpa using hfresh)]
  simp

theorem subset_leave {tickets : List (Hold × Bool)} (hfresh : ∀ e ∈ tickets, e.1 ≠ h)
    (htickets : tickets ⊆ v.tickets) : tickets ⊆ (v.leave h).tickets :=
  fun e he => List.mem_filter.mpr ⟨htickets he, decide_eq_true (hfresh e he)⟩

end Stay

namespace Retreat

variable (x : Retreat)

/-- One action of the thread on the shared state, with `next` of whatever it may answer. -/
def Acts (v : Stay) : (a : World.Action) → (next : a.Reply → Stay → Prop) → Prop
  | .get s session name, next => s = x.store ∧ session = x.session ∧
    (x.refuses → ∀ fault, next (.error fault) v) ∧ next (.ok (v.shelf.value name)) v
  | .set s session name value, next => s = x.store ∧ session = x.session ∧
    (x.refuses → ∀ fault, next (.error fault) (v.ask v.shelf)) ∧
      next (.ok ()) (v.ask (v.shelf.set name value))
  | .remove s session name, next => s = x.store ∧ session = x.session ∧
    (x.refuses → ∀ fault, next (.error fault) (v.ask v.shelf)) ∧
      next (.ok (v.shelf.value name)) (v.ask (v.shelf.remove name))
  | .invalidate s session, next => s = x.store ∧ session = x.session ∧
    (x.refuses → ∀ fault, next (.error fault) (v.ask v.shelf)) ∧ next (.ok ()) (v.ask .empty)
  | .draw t session, next => session = x.session ∧
    ∀ key, (∀ e ∈ v.tickets, e.1 ≠ ⟨t, session, key⟩) → next key (v.draw ⟨t, session, key⟩)
  | .await t key limit, next => (⟨t, x.session, key⟩, false) ∈ v.tickets ∧
    next true (v.enter ⟨t, x.session, key⟩) ∧
      (x.refuses → limit.isSome = true → next false v)
  | .giveBack t key, next => ∃ held, (⟨t, x.session, key⟩, held) ∈ v.tickets ∧
    next held (v.leave ⟨t, x.session, key⟩)
  | .prune _, next => ∀ n, next n v
  | .count _, next => ∀ n, next n (v.deal n)

variable {x}

theorem Acts.mono {v : Stay} {a : World.Action} {next next' : a.Reply → Stay → Prop}
    (hnext : ∀ reply v', next reply v' → next' reply v') (h : x.Acts v a next) :
    x.Acts v a next' := by
  cases a with
  | get | set | remove | invalidate =>
    obtain ⟨hs, hsession, hfault, hdone⟩ := h
    exact ⟨hs, hsession, fun hr fault => hnext _ _ (hfault hr fault), hnext _ _ hdone⟩
  | draw t session => exact ⟨h.1, fun key hfresh => hnext _ _ (h.2 key hfresh)⟩
  | await t key limit =>
    obtain ⟨hmem, hgot, hexpired⟩ := h
    exact ⟨hmem, hnext _ _ hgot, fun hr hlimit => hnext _ _ (hexpired hr hlimit)⟩
  | giveBack t key =>
    obtain ⟨held, hmem, hdone⟩ := h
    exact ⟨held, hmem, hnext _ _ hdone⟩
  | prune t => exact fun n => hnext _ _ (h n)
  | count label => exact fun n => hnext _ _ (h n)

variable (x)

/-- The logic of a thread in its retreat. -/
def logic : Logic Stay where
  does v
    | .own a, next => next (v.workspace.perform a).1 (v.work (v.workspace.perform a).2)
    | .world a, next => x.Acts v a next
  mono {_ a _ _} hnext h := by
    cases a with
    | own a => exact hnext _ _ h
    | world a => exact Acts.mono hnext h

section Rules

variable {x} {v : Stay} {h : Hold}

theorem wp_acquire {Q : Except Failure Hold → Stay → Prop} {t : TableName} {limit : Option Duration}
    (hexpire : x.refuses → ∀ f, Q (.error f) v)
    (hgot : ∀ key, (∀ e ∈ v.tickets, e.1 ≠ ⟨t, x.session, key⟩) →
      Q (.ok ⟨t, x.session, key⟩) (v.take ⟨t, x.session, key⟩)) :
    x.logic.wp Q (Hold.acquire t limit x.session) v := by
  refine ⟨rfl, fun key hfresh => ⟨?_, ?_, fun hr _ => ⟨false, ?_, ?_⟩⟩⟩
  · simp [Stay.draw]
  · rw [Stay.enter_draw hfresh]
    exact hgot key hfresh
  · simp [Stay.draw]
  · rw [Stay.leave_draw hfresh]
    exact hexpire hr _

theorem wp_drop {Q : Except Failure Unit → Stay → Prop} (hsession : h.session = x.session)
    {held : Bool} (hmem : (h, held) ∈ v.tickets) (hdone : Q (.ok ()) (v.leave h)) :
    x.logic.wp Q h.drop v := by
  obtain ⟨t, _, key⟩ := h
  cases hsession
  exact ⟨held, hmem, hdone⟩

/-- A level is given back after something failed under it, which may have left others. -/
theorem wp_drop_taken {Q : Except Failure Unit → Stay → Prop} {v' : Stay}
    (hsession : h.session = x.session) (hfresh : ∀ e ∈ v.tickets, e.1 ≠ h)
    (hsubset : (v.take h).tickets ⊆ v'.tickets)
    (hdone : v.tickets ⊆ (v'.leave h).tickets → Q (.ok ()) (v'.leave h)) :
    x.logic.wp Q h.drop v' := by
  have hkept : v.tickets ⊆ v'.tickets := fun e he => hsubset (List.mem_append_left _ he)
  exact wp_drop hsession (hsubset Stay.mem_take) (hdone (Stay.subset_leave hfresh hkept))

end Rules

/-- What a thread knows in its retreat is part of its grip. -/
structure Of (v : Stay) (g : Grip) : Prop where
  workspace_eq : g.workspace = v.workspace
  tickets_eq : g.tickets = v.tickets
  shelf_eq : g.storage x.store x.session = v.shelf

/-- Nothing has changed outside the retreat that the others leave alone. -/
def Spares (C : Company) (st st' : Storage) : Prop :=
  ∀ s session, ¬(s = x.store ∧ session = x.session) → (∀ has, C.leaves has s session) →
    st' s session = st s session

/-- Nothing in the world holds the thread up: unless that is allowed for, backends refuse nothing
and nobody else has the session's lock. -/
structure Open (i : ThreadId) (w : World) : Prop where
  serves : ¬x.refuses → ∀ call n, (w.backend x.store).outage.fails call n = false
  free : ¬x.refuses → ∀ t, ∀ k ∈ (w.locks t).tickets, k.held = true → k.session = x.session →
    k.thread = i

variable {x} {C : Company} {i : ThreadId} {v : Stay} {g : Grip} {w w' : World}

theorem Spares.refl (st : Storage) : x.Spares C st st := fun _ _ _ _ => rfl

theorem Spares.trans {st st' st'' : Storage} (h : x.Spares C st st') (h' : x.Spares C st' st'') :
    x.Spares C st st'' :=
  fun s session hother hleaves => (h' s session hother hleaves).trans (h s session hother hleaves)

theorem Spares.put (st : Storage) (shelf : Shelf) :
    x.Spares C st (st.put x.store x.session shelf) :=
  fun _ _ hother _ => if_neg fun hsame => hother ⟨hsame.1.symm, hsame.2.symm⟩

theorem Spares.near {st : Storage} (h : C.Near g st) : x.Spares C g.storage st :=
  fun s session _ hleaves => h s session (hleaves _)

theorem Open.of_refuses (h : x.refuses) (i : ThreadId) (w : World) : x.Open i w :=
  ⟨fun hnot => absurd h hnot, fun hnot => absurd h hnot⟩

/-! ### What is known is so -/

section Steps

variable {a : World.Action} {next : a.Reply → Stay → Prop}

/-- What may be known after an action, with what the thread has done so. -/
def Later (x : Retreat) (C : Company) (v : Stay) (g : Grip) (a : World.Action)
    (next : a.Reply → Stay → Prop) (reply : a.Reply) (g' : Grip) : Prop :=
  ∃ v', x.Of v' g' ∧ x.Spares C g.storage g'.storage ∧ v'.made = v.made ++ a.dealt reply ∧
    v'.wrote = (v.wrote || a.rewrite?.isSome) ∧ next reply v'

variable {reply : a.Reply}

/-- An action that neither changes storage nor deals out a number. -/
theorem Later.of_same (v' : Stay) {g' : Grip} (hof : x.Of v' g')
    (hspares : x.Spares C g.storage g'.storage) (hmade : v'.made = v.made)
    (hwrote : v'.wrote = v.wrote) (hdealt : a.dealt reply = []) (hrewrite : a.rewrite? = none)
    (hnext : next reply v') : x.Later C v g a next reply g' := by
  refine ⟨v', hof, hspares, ?_, ?_, hnext⟩
  · rw [hmade, hdealt, List.append_nil]
  · rw [hwrote, hrewrite, Option.isSome_none, Bool.or_false]

/-- An action that was to change storage, whether it was refused or not. -/
theorem Later.of_ask {shelf : Shelf} {g' : Grip} (hof : x.Of (v.ask shelf) g')
    (hspares : x.Spares C g.storage g'.storage) (hdealt : a.dealt reply = [])
    (hrewrite : a.rewrite?.isSome = true) (hnext : next reply (v.ask shelf)) :
    x.Later C v g a next reply g' := by
  refine ⟨_, hof, hspares, ?_, ?_, hnext⟩
  · rw [hdealt, List.append_nil]
    rfl
  · rw [hrewrite, Bool.or_true]
    rfl

/-- An action that is not refused, unless that is allowed for, goes as the grip says. -/
theorem Acts.grip (hacts : x.Acts v a next) (hg : x.Of v g)
    (hC : ∀ has, C.leaves has x.store x.session) :
    C.Acts g a fun reply g' =>
      (x.refuses ∨ Refusal.met? a reply = none) → x.Later C v g a next reply g' := by
  obtain ⟨hworkspace, htickets, hshelf⟩ := hg
  have hasked : x.Of (v.ask v.shelf) g := ⟨hworkspace, htickets, hshelf⟩
  have hput : ∀ shelf, x.Of (v.ask shelf) (g.put x.store x.session shelf) := fun shelf =>
    ⟨hworkspace, htickets, Storage.put_same⟩
  cases a with
  | get s session name =>
    obtain ⟨rfl, rfl, hfault, hgot⟩ := hacts
    refine ⟨fun fault hclear => ?_, fun st hst _ => ?_⟩
    · exact .of_same v ⟨hworkspace, htickets, hshelf⟩ (.refl _) rfl rfl rfl rfl
        (hfault (hclear.resolve_right (by simp [Refusal.met?])) fault)
    · rw [hshelf]
      exact .of_same v ⟨hworkspace, htickets, (hst _ _ (hC _)).trans hshelf⟩ (.near hst) rfl rfl
        rfl rfl hgot
  | set s session name value =>
    obtain ⟨rfl, rfl, hfault, hdone⟩ := hacts
    refine ⟨fun fault hclear => ?_, fun _ => ?_⟩
    · exact .of_ask hasked (.refl _) rfl rfl
        (hfault (hclear.resolve_right (by simp [Refusal.met?])) fault)
    · rw [hshelf]
      exact .of_ask (hput _) (Spares.put _ _) rfl rfl hdone
  | remove s session name =>
    obtain ⟨rfl, rfl, hfault, hdone⟩ := hacts
    refine ⟨fun fault hclear => ?_, fun _ => ?_⟩
    · exact .of_ask hasked (.refl _) rfl rfl
        (hfault (hclear.resolve_right (by simp [Refusal.met?])) fault)
    · rw [hshelf]
      exact .of_ask (hput _) (Spares.put _ _) rfl rfl hdone
  | invalidate s session =>
    obtain ⟨rfl, rfl, hfault, hdone⟩ := hacts
    refine ⟨fun fault hclear => ?_, fun _ => ?_⟩
    · exact .of_ask hasked (.refl _) rfl rfl
        (hfault (hclear.resolve_right (by simp [Refusal.met?])) fault)
    · exact .of_ask (hput _) (Spares.put _ _) rfl rfl hdone
  | draw t session =>
    obtain ⟨rfl, hdrawn⟩ := hacts
    intro key hfresh _
    rw [htickets] at hfresh
    refine .of_same (v.draw _) ⟨hworkspace, ?_, hshelf⟩ (.refl _) rfl rfl rfl rfl
      (hdrawn key hfresh)
    rw [Grip.draw, htickets, Stay.draw]
  | await t key limit =>
    obtain ⟨hmem, hgot, hexpired⟩ := hacts
    refine ⟨x.session, htickets ▸ hmem, fun _ => ?_, fun hlimit hclear => ?_⟩
    · refine .of_same (v.enter _) ⟨hworkspace, ?_, hshelf⟩ (.refl _) rfl rfl rfl rfl hgot
      rw [Grip.enter, htickets, Stay.enter]
    · refine .of_same v ⟨hworkspace, htickets, hshelf⟩ (.refl _) rfl rfl rfl rfl
        (hexpired (hclear.resolve_right ?_) hlimit)
      cases limit with
      | none => cases hlimit
      | some d => simp [Refusal.met?]
  | giveBack t key =>
    obtain ⟨held, hmem, hdone⟩ := hacts
    refine ⟨x.session, .inl ⟨held, htickets ▸ hmem, fun _ => ?_⟩⟩
    refine .of_same (v.leave _) ⟨hworkspace, ?_, hshelf⟩ (.refl _) rfl rfl rfl rfl hdone
    rw [Grip.leave, htickets, Stay.leave]
  | prune t =>
    exact fun n _ => .of_same v ⟨hworkspace, htickets, hshelf⟩ (.refl _) rfl rfl rfl rfl (hacts n)
  | count label =>
    exact fun n _ => ⟨v.deal n, ⟨hworkspace, htickets, hshelf⟩, .refl _, rfl,
      (Bool.or_false _).symm, hacts n⟩

end Steps

/-! ### Nothing holds the thread up -/

section Backend

variable {b : Backend} {call : StoreCall} {session : SessionId} {name : String}

theorem outage_intrude : (b.intrude session name).outage = b.outage := by
  rw [Backend.intrude]
  split
  · rfl
  · split
    · rfl
    · split <;> rfl

variable {α : Type} {locked : Bool} {act : Backend → α × Backend}

theorem outage_call (hact : ∀ b, (act b).2.outage = b.outage) :
    (b.perform call session name locked act).2.outage = b.outage := by
  rw [Backend.perform]
  dsimp only
  split
  · rfl
  · exact hact _

theorem exists_answer (hserves : ∀ call n, b.outage.fails call n = false) :
    ∃ y, (b.perform call session name locked act).1 = .ok y := by
  refine ⟨(act (b.note call session name locked)).1, ?_⟩
  rw [Backend.perform, Backend.failsNext, hserves]
  rfl

end Backend

section Progress

variable {a : World.Action} {next : a.Reply → Stay → Prop} {reply : a.Reply}

theorem outage_of_perform (hperform : w.perform i a = some (reply, w')) (s : StoreName) :
    (w'.backend s).outage = (w.backend s).outage := by
  have hbackend : ∀ (s' : StoreName) (b : Backend), b.outage = (w.backend s').outage →
      ((w.setBackend s' b).backend s).outage = (w.backend s).outage := by
    intro s' b hb
    rw [World.backend_setBackend_eq]
    split
    · rename_i hs
      rw [← hs, hb]
    · rfl
  cases a with
  | get s' session name =>
    simp only [World.perform, Option.some.injEq, Prod.mk.injEq] at hperform
    rw [← hperform.2]
    exact hbackend s' _ (outage_call fun _ => outage_intrude)
  | set s' | remove s' | invalidate s' =>
    simp only [World.perform, Option.some.injEq, Prod.mk.injEq] at hperform
    rw [← hperform.2]
    exact hbackend s' _ (outage_call fun _ => rfl)
  | draw t | giveBack t | prune t =>
    cases hperform
    rw [World.backend_setLocks]
  | await t key limit =>
    obtain ⟨l, _, heq⟩ := Option.map_eq_some_iff.mp hperform
    cases heq
    rw [World.backend_setLocks]
  | count label =>
    cases hperform
    cases s <;> rfl

/-- The locks that others do not have are the thread's own after each of its actions. -/
theorem Acts.free (hacts : x.Acts v a next) (hg : x.Of v g) (hfits : g.Fits C i w)
    (hperform : w.perform i a = some (reply, w'))
    (hfree : ∀ t, ∀ k ∈ (w.locks t).tickets, k.held = true → k.session = x.session → k.thread = i) :
    ∀ t, ∀ k ∈ (w'.locks t).tickets, k.held = true → k.session = x.session → k.thread = i := by
  have hlocks : ∀ (t' : TableName) (l : LockTable),
      (∀ k ∈ l.tickets, k.held = true → k.session = x.session → k.thread = i) →
      ∀ t, ∀ k ∈ ((w.setLocks t' l).locks t).tickets, k.held = true → k.session = x.session →
        k.thread = i := by
    intro t' l hl t
    rw [World.locks_setLocks]
    split
    · exact hl
    · exact hfree t
  cases a with
  | get | set | remove | invalidate =>
    cases hperform
    intro t
    rw [World.locks_setBackend]
    exact hfree t
  | count label =>
    cases hperform
    intro t
    cases t
    exacts [hfree .shared, hfree .own]
  | prune t =>
    cases hperform
    exact hlocks t _ (hfree t)
  | draw t session =>
    cases hperform
    refine hlocks t ((w.locks t).draw i session).2 fun k hk hheld hsession => ?_
    rw [LockTable.tickets_draw, List.mem_append, List.mem_singleton] at hk
    rcases hk with hk | rfl
    · exact hfree t k hk hheld hsession
    · rfl
  | giveBack t key =>
    cases hperform
    refine hlocks t ((w.locks t).giveBack key).2 fun k hk => ?_
    rw [LockTable.tickets_giveBack] at hk
    exact hfree t k (List.mem_filter.mp hk).1
  | await t key limit =>
    obtain ⟨l, hgrant, heq⟩ := Option.map_eq_some_iff.mp hperform
    cases heq
    refine hlocks t _ fun k hk hheld hsession => ?_
    obtain ⟨_, _, _, _, _, rfl⟩ := LockTable.grant_eq_some hgrant
    obtain ⟨k', hk', rfl⟩ := List.mem_map.mp hk
    by_cases hid : k'.id = key
    · -- the ticket that got the lock is one of the thread's
      have hmem := hacts.1
      rw [← hg.tickets_eq, hfits.mem_iff] at hmem
      have hthread := ((hfits.sound t).hold_eq hk' hmem hid).2.1
      rwa [if_pos hid]
    · rw [if_neg hid] at hheld hsession ⊢
      exact hfree t k' hk' hheld hsession

/-- An action in an open world is not refused, unless that is allowed for, and leaves it open. -/
theorem Acts.unrefused (hacts : x.Acts v a next) (hg : x.Of v g) (hfits : g.Fits C i w)
    (hopen : x.Open i w) (hperform : w.perform i a = some (reply, w')) :
    (x.refuses ∨ Refusal.met? a reply = none) ∧ x.Open i w' := by
  refine ⟨or_iff_not_imp_left.mpr fun hnot => ?_, fun hnot call n => ?_, fun hnot => ?_⟩
  · have hserves := hopen.serves hnot
    cases a with
    | get | set | remove | invalidate =>
      simp only [World.perform, Option.some.injEq, Prod.mk.injEq] at hperform
      obtain ⟨rfl, -⟩ := hacts
      obtain ⟨y, hy⟩ := exists_answer hserves
      rw [← hperform.1]
      exact (congrArg (Refusal.met? _) hy).trans rfl
    | await t key limit =>
      obtain ⟨l, _, heq⟩ := Option.map_eq_some_iff.mp hperform
      cases heq
      rfl
    | draw | giveBack | prune | count => rfl
  · rw [outage_of_perform hperform]
    exact hopen.serves hnot call n
  · exact hacts.free hg hfits hperform (hopen.free hnot)

/-- In an open world where nothing may be refused no action has to wait. -/
theorem Acts.exists_perform (hacts : x.Acts v a next) (hg : x.Of v g) (hfits : g.Fits C i w)
    (hopen : x.Open i w) (hnot : ¬x.refuses) : ∃ reply w', w.perform i a = some (reply, w') := by
  cases a with
  | await t key limit =>
    have hmem := hacts.1
    rw [← hg.tickets_eq, hfits.mem_iff] at hmem
    obtain ⟨k, hk, hthread, hhold, hheld⟩ := LockTable.mem_holdsOf_iff.mp hmem
    obtain ⟨-, hsession, rfl⟩ := Hold.mk.inj hhold
    have hsound := hfits.sound t
    have hsome : ((w.locks t).grant k.id).isSome = true := by
      rw [hsound.isSome_grant, LockTable.ticket?_of_mem hsound.ids_nodup hk, Option.any_some, hheld,
        hsound.owner?_eq]
      cases hholders : ((w.locks t).share k.session).filter (·.held) with
      | nil => rfl
      | cons j rest =>
        have hj : j ∈ ((w.locks t).share k.session).filter (·.held) := by simp [hholders]
        obtain ⟨hjshare, hjheld⟩ := List.mem_filter.mp hj
        obtain ⟨hjmem, hjsession⟩ := LockTable.mem_share.mp hjshare
        have hjthread := hopen.free hnot t j hjmem hjheld (hjsession.trans hsession.symm)
        simp [LockTable.takeLevel, hjthread, hthread]
    obtain ⟨l, hgrant⟩ := Option.isSome_iff_exists.mp hsome
    exact ⟨true, w.setLocks t l, by simp [World.perform, hgrant]⟩
  | _ => exact ⟨_, _, rfl⟩

end Progress

/-! ### Courses and runs -/

/-- The thread is in its retreat: what it knows is so, and nothing holds it up. -/
structure Dwells (x : Retreat) (C : Company) (i : ThreadId) (v : Stay) (g : Grip) (w : World)
    (l : Workspace) : Prop where
  fits : g.Fits C i w
  of : x.Of v g
  workspace_eq : g.workspace = l
  isOpen : x.Open i w

/-- What the thread has done by these actions on the shared state. -/
structure Went (x : Retreat) (C : Company) (v : Stay) (g : Grip) (events : List Event) (v' : Stay)
    (g' : Grip) : Prop where
  spares : x.Spares C g.storage g'.storage
  made_eq : v'.made = v.made ++ Event.dealt events
  wrote_eq : v'.wrote = (v.wrote || events.any fun e => e.action.rewrite?.isSome)

variable {l l' : Workspace} {others : World → World → Prop} {α : Type} {r rest : Routine α}
  {events : List Event} {Q : Except Failure α → Stay → Prop} {v' : Stay} {g₁ g' : Grip} {v₁ : Stay}

theorem Went.refl (v : Stay) (g : Grip) : x.Went C v g [] v g :=
  ⟨.refl _, (List.append_nil _).symm, (Bool.or_false _).symm⟩

theorem Went.cons {e : Event} (h : x.Went C v g [e] v₁ g₁) (h' : x.Went C v₁ g₁ events v' g') :
    x.Went C v g (e :: events) v' g' := by
  refine ⟨h.spares.trans h'.spares, ?_, ?_⟩
  · rw [h'.made_eq, h.made_eq, List.append_assoc]
    simp [Event.dealt]
  · rw [h'.wrote_eq, h.wrote_eq, Bool.or_assoc]
    simp

theorem Dwells.own (h : x.Dwells C i v g w v.workspace) (a : Workspace.Action) :
    x.Dwells C i (v.work (v.workspace.perform a).2) (g.work (v.workspace.perform a).2) w
      (v.workspace.perform a).2 := by
  obtain ⟨hfits, ⟨hworkspace, htickets, hshelf⟩, -, hopen⟩ := h
  exact ⟨⟨hfits.sound, hfits.tickets_eq, hfits.gone, hfits.storage_eq, hfits.calm⟩,
    ⟨rfl, htickets, hshelf⟩, rfl, hopen⟩

section Others

variable (hC : ∀ has, C.leaves has x.store x.session) {a : World.Action}
  {next : a.Reply → Stay → Prop} {reply : a.Reply} {w₁ w₂ : World}

include hC

theorem Dwells.perform (h : x.Dwells C i v g w l) (hacts : x.Acts v a next)
    (hperform : w.perform i a = some (reply, w')) :
    ∃ v' g', x.Dwells C i v' g' w' l ∧ x.Went C v g [⟨a, reply, w⟩] v' g' ∧ next reply v' := by
  obtain ⟨hclear, hopen⟩ := hacts.unrefused h.of h.fits h.isOpen hperform
  obtain ⟨g', hlater, hworkspace, hfits⟩ := h.fits.perform (hacts.grip h.of hC) hperform
  obtain ⟨v', hof, hspares, hmade, hwrote, hnext⟩ := hlater hclear
  exact ⟨v', g', ⟨hfits, hof, hworkspace.trans h.workspace_eq, hopen⟩,
    ⟨hspares, by simpa [Event.dealt] using hmade, by simpa using hwrote⟩, hnext⟩

theorem Dwells.expire (h : x.Dwells C i v g w l) (hacts : x.Acts v a next)
    (hnone : w.perform i a = none) (hexpired : a.expired? = some reply) :
    ∃ v' g', x.Dwells C i v' g' w l ∧ x.Went C v g [⟨a, reply, w⟩] v' g' ∧ next reply v' := by
  by_cases hrefuses : x.refuses
  · obtain ⟨v', hof, hspares, hmade, hwrote, hnext⟩ :=
      Company.Acts.expire C (hacts.grip h.of hC) hexpired (.inl hrefuses)
    exact ⟨v', g, ⟨h.fits, hof, h.workspace_eq, h.isOpen⟩,
      ⟨hspares, by simpa [Event.dealt] using hmade, by simpa using hwrote⟩, hnext⟩
  · obtain ⟨_, _, hsome⟩ := hacts.exists_perform h.of h.fits h.isOpen hrefuses
    rw [hnone] at hsome
    cases hsome

/-- The others have acted, and the thread knows what it knew. -/
theorem Dwells.spared (hothers : C.Bounds i others)
    (hkeep : ∀ w w', others w w' → x.Open i w → x.Open i w') (h : x.Dwells C i v g w l)
    (hacted : others w w₁) :
    ∃ g₁, x.Dwells C i v g₁ w₁ l ∧ x.Spares C g.storage g₁.storage := by
  obtain ⟨st, hst, hfits⟩ := hothers _ _ _ hacted h.fits
  exact ⟨g.see st, ⟨hfits, ⟨h.of.workspace_eq, h.of.tickets_eq,
    (hst _ _ (hC _)).trans h.of.shelf_eq⟩, h.workspace_eq, hkeep _ _ hacted h.isOpen⟩, .near hst⟩

/-- **What a thread knows in its retreat is so.** Whatever the others do elsewhere, its course goes
as the logic says, and it is known which numbers were dealt out and whether a change was asked for.
-/
theorem Dwells.course (hothers : C.Bounds i others)
    (hkeep : ∀ w w', others w w' → x.Open i w → x.Open i w')
    (hcourse : r.Course i others w l events rest w' l') (h : x.Dwells C i v g w l)
    (hwp : x.logic.wp Q r v) :
    ∃ v' g', x.Dwells C i v' g' w' l' ∧ x.Went C v g events v' g' ∧ x.logic.wp Q rest v' := by
  induction hcourse generalizing v g with
  | here => exact ⟨v, g, h, .refl v g, hwp⟩
  | @own a _ _ _ _ _ _ _ _ ih =>
    obtain rfl := h.workspace_eq.symm.trans h.of.workspace_eq
    obtain ⟨v', g', h', hwent, hrest⟩ := ih (h.own a) hwp
    exact ⟨v', g', h', ⟨hwent.spares, hwent.made_eq, hwent.wrote_eq⟩, hrest⟩
  | world hacted hperform _ ih =>
    obtain ⟨g₁, h₁, hspares⟩ := h.spared hC hothers hkeep hacted
    obtain ⟨v₂, g₂, h₂, hwent₂, hnext⟩ := h₁.perform hC hwp hperform
    obtain ⟨v', g', h', hwent, hrest⟩ := ih h₂ hnext
    exact ⟨v', g', h', .cons ⟨hspares.trans hwent₂.spares, hwent₂.made_eq, hwent₂.wrote_eq⟩ hwent,
      hrest⟩
  | expire hacted hnone hexpired _ ih =>
    obtain ⟨g₁, h₁, hspares⟩ := h.spared hC hothers hkeep hacted
    obtain ⟨v₂, g₂, h₂, hwent₂, hnext⟩ := h₁.expire hC hwp hnone hexpired
    obtain ⟨v', g', h', hwent, hrest⟩ := ih h₂ hnext
    exact ⟨v', g', h', .cons ⟨hspares.trans hwent₂.spares, hwent₂.made_eq, hwent₂.wrote_eq⟩ hwent,
      hrest⟩

/-- **A thread is not held up in its retreat.** Where nothing may be refused, a routine that is run
at one go comes to its end. -/
theorem Dwells.exists_run (h : x.Dwells C i v g w l) (hnot : ¬x.refuses)
    (hwp : x.logic.wp Q r v) (patient : Bool) :
    ∃ out w' l', r.run patient i w l = .finished out w' l' := by
  induction r generalizing v g w l with
  | done y => exact ⟨_, _, _, rfl⟩
  | fail f => exact ⟨_, _, _, rfl⟩
  | act a next ih =>
    cases a with
    | own a =>
      obtain rfl := h.workspace_eq.symm.trans h.of.workspace_eq
      exact ih _ (h.own a) hwp
    | world a =>
      have hacts : x.Acts v a fun reply v' => x.logic.wp Q (next reply) v' := hwp
      obtain ⟨reply, w₁, hperform⟩ := hacts.exists_perform h.of h.fits h.isOpen hnot
      obtain ⟨v₁, g₁, h₁, -, hnext⟩ := h.perform hC hacts hperform
      rw [Routine.run, hperform]
      exact ih reply h₁ hnext

end Others

/-- What a thread knows as it comes into its retreat. -/
def enter (x : Retreat) (i : ThreadId) (w : World) (l : Workspace) : Stay where
  workspace := l
  tickets := (Grip.of i w l).tickets
  shelf := w.storage x.store x.session

theorem dwells_enter (hw : Desk.Calm w) (hopen : x.Open i w) (l : Workspace) :
    x.Dwells C i (x.enter i w l) (.of i w l) w l :=
  ⟨Grip.fits_of hw.sound (fun _ => hw.calm) l, ⟨rfl, rfl, rfl⟩, rfl, hopen⟩

end Retreat

end SessionCart
