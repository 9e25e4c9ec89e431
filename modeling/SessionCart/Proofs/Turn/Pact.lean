import SessionCart.Proofs.Thread.Logic
import SessionCart.Proofs.Section.Actions
import SessionCart.Proofs.Turn.Run

/-!
# Pacts

Threads that keep to turns can agree on more: that something holds of the shelf, and of the number
of values made, whenever nobody is inside. A thread may rely on it when its turn begins and has to
see to it before its turn ends. In between nobody else writes, and nobody else makes values, so the
thread knows their number. What one of the threads writes can be held to more than what all of them
write.
-/

namespace SessionCart

/-- What an action writes to a shelf, if it is a write. -/
def World.Action.rewrite? : World.Action → Option (Shelf → Shelf)
  | .set _ _ name value => some (·.set name value)
  | .remove _ _ name => some (·.remove name)
  | .invalidate .. => some fun _ => .empty
  | _ => none

/-- The label under which an action counts a value, if it makes one. -/
def World.Action.label? : World.Action → Option String
  | .count label => some label
  | _ => none

namespace Site.Allows

variable {x : Site} {v : View} {a : World.Action} {next : a.Reply → View → Prop}

theorem rewrite?_eq_none (h : x.Allows v a next) (hout : v.inside = false) :
    a.rewrite? = none := by
  cases a with
  | set s session name value => exact absurd (hout.symm.trans h.2.2.1) (by decide)
  | remove s session name => exact absurd (hout.symm.trans h.2.2.1) (by decide)
  | invalidate s session => exact absurd (hout.symm.trans h.2.2.1) (by decide)
  | get | draw | await | giveBack | prune | count => rfl

/-- An action that takes the thread in or out does nothing else. -/
theorem steady (h : x.Allows v a next) : x.Allows v a fun reply v' => next reply v' ∧
    (v'.inside = v.inside ∨ a.rewrite? = none ∧ a.label? = none) := by
  cases a with
  | get s session name => exact ⟨h.1, h.2.1, fun now hnow => ⟨h.2.2 now hnow, .inl rfl⟩⟩
  | set s session name value =>
    exact ⟨h.1, h.2.1, h.2.2.1, h.2.2.2.1, h.2.2.2.2, .inl rfl⟩
  | remove s session name =>
    exact ⟨h.1, h.2.1, h.2.2.1, h.2.2.2.1, h.2.2.2.2, .inl rfl⟩
  | invalidate s session =>
    exact ⟨h.1, h.2.1, h.2.2.1, h.2.2.2.1, h.2.2.2.2, .inl rfl⟩
  | draw t session =>
    exact ⟨h.1, h.2.1, fun key hkey => ⟨h.2.2 key hkey, .inl (View.inside_draw ..)⟩⟩
  | await t key limit =>
    exact ⟨h.1, h.2.1, fun now hnow => ⟨h.2.2.1 now hnow, .inr ⟨rfl, rfl⟩⟩,
      fun hlimit => ⟨h.2.2.2 hlimit, .inl rfl⟩⟩
  | giveBack t key =>
    obtain ⟨ht, held, hmem, hnext⟩ := h
    exact ⟨ht, held, hmem, hnext, .inr ⟨rfl, rfl⟩⟩
  | prune t => exact fun n => ⟨h n, .inl rfl⟩
  | count label => exact fun n => ⟨h n, .inl rfl⟩

end Site.Allows

@[simp]
theorem World.made_setBackend (w : World) (s : StoreName) (b : Backend) :
    (w.setBackend s b).made = w.made := by
  cases s <;> rfl

@[simp]
theorem World.made_setLocks (w : World) (t : TableName) (l : LockTable) :
    (w.setLocks t l).made = w.made := by
  cases t <;> rfl

theorem Tidy.shelf_perform {x : Site} {threads : Nat} {first : Shelf} {w w' : World}
    {views : ThreadId → View} {turns : List Turn} {holder : Option ThreadId}
    (h : Tidy x threads first w views turns holder) {v : View} {i : ThreadId} {a : World.Action}
    {next : a.Reply → View → Prop} (hallows : x.Allows v a next) (hread : a.rewrite? = none)
    {reply : a.Reply} (hperform : w.perform i a = some (reply, w')) :
    x.shelf w' = x.shelf w := by
  cases a with
  | get s session name =>
    cases hallows.1
    simp only [World.perform, h.calm.get_eq, Option.some.injEq, Prod.mk.injEq] at hperform
    obtain ⟨_, rfl⟩ := hperform
    simp [Site.shelf]
  | set | remove | invalidate => cases hread
  | draw | giveBack | prune =>
    cases hperform
    exact Site.shelf_setLocks ..
  | await t key limit =>
    obtain ⟨l, _, hl⟩ := Option.map_eq_some_iff.mp hperform
    cases hl
    exact Site.shelf_setLocks ..
  | count label =>
    cases hperform
    cases hstore : x.store <;> simp [Site.shelf, hstore, World.backend]

theorem Turn.Step.holder_eq_of_ne {i j : ThreadId} {turns turns' : List Turn}
    {holder holder' : Option ThreadId} (h : Turn.Step i turns holder turns' holder') (hj : j ≠ i)
    (hholder : holder = some j) : holder' = some j := by
  cases h with
  | stay => exact hholder
  | enter => cases hholder
  | leave => exact absurd (Option.some.inj hholder).symm hj

/-! ### The logic of a pact -/

/-- What threads have agreed on. -/
structure Pact (x : Site) where
  /-- The label under which values are counted, if the pact is about their number. -/
  label : Option String
  /-- Holds of the shelf and the number of values made while nobody is inside. -/
  holds : Shelf → Nat → Prop

namespace Pact

variable {x : Site} (P : Pact x)

/-- How many values were made. -/
def made (w : World) : Nat := P.label.elim 0 fun label => (w.made.get? label).getD 0

/-- The action makes a value that the pact is about. -/
def Tracks (a : World.Action) : Prop := ∃ label, a.label? = some label ∧ P.label = some label

/-- The number of values made before and after an action, and its reply if it has made one. -/
def Counted (n n' : Nat) : (a : World.Action) → a.Reply → Prop
  | .count label, reply => if P.label = some label then reply = n + 1 ∧ n' = n + 1 else n' = n
  | _, _ => n' = n

/-- What a thread knows of the number `n'` after an action. -/
def Knows (v v' : View) (n n' : Nat) (a : World.Action) (reply : a.Reply) : Prop :=
  (v.inside = true → v'.inside = true → P.Counted n n' a reply) ∧
    (v.inside = false → v'.inside = true → P.holds v'.shelf n')

/-- A thread knows its view and, inside, how many values were made. It writes only so that the shelf
before and after satisfies `writes`. -/
def logic (writes : Shelf → Shelf → Prop) : Logic (View × Nat) where
  does s
    | .own a, next => next (s.1.workspace.perform a).1 (s.1.work (s.1.workspace.perform a).2, s.2)
    | .world a, next =>
      (∀ f, a.rewrite? = some f → writes s.1.shelf (f s.1.shelf)) ∧
        (P.Tracks a → s.1.inside = true) ∧
        x.Allows s.1 a fun reply v =>
          (s.1.inside = true → v.inside = false → P.holds s.1.shelf s.2) ∧
            ∀ n, P.Knows s.1 v s.2 n a reply → next reply (v, n)
  mono := by
    intro s a next next' hnext h
    cases a with
    | own a => exact hnext _ _ h
    | world a =>
      exact ⟨h.1, h.2.1, h.2.2.mono fun reply v hv =>
        ⟨hv.1, fun n hn => hnext _ _ (hv.2 n hn)⟩⟩

variable {P} {w w' : World} {i : ThreadId} {a : World.Action} {reply : a.Reply}

theorem not_tracks (ha : a.label? = none) : ¬P.Tracks a := by
  rintro ⟨label, hlabel, _⟩
  rw [ha] at hlabel
  cases hlabel

theorem Counted.eq {n n' : Nat} (h : P.Counted n n' a reply) (ha : ¬P.Tracks a) : n' = n := by
  cases a with
  | count label =>
    rw [Counted, if_neg fun hlabel => ha ⟨label, rfl, hlabel⟩] at h
    exact h
  | get | set | remove | invalidate | draw | await | giveBack | prune => exact h

theorem counted_of_perform (hperform : w.perform i a = some (reply, w')) :
    P.Counted (P.made w) (P.made w') a reply := by
  cases a with
  | get | set | remove | invalidate =>
    cases hperform
    simp [Counted, made]
  | draw | giveBack | prune =>
    cases hperform
    simp [Counted, made]
  | await t key limit =>
    obtain ⟨l, _, hl⟩ := Option.map_eq_some_iff.mp hperform
    cases hl
    simp [Counted, made]
  | count label =>
    cases hperform
    cases hlabel : P.label with
    | none => simp [Counted, made, hlabel]
    | some tracked =>
      by_cases hsame : tracked = label
      · simp [Counted, made, hlabel, hsame]
      · simp [Counted, made, hlabel, hsame, Ne.symm hsame]

/-! ### Rules -/

section Rules

variable {writes : Shelf → Shelf → Prop} {v : View} {n : Nat} {s : StoreName} {session : SessionId}
  {name : String}

/-- An action that neither writes nor makes a value only has to be allowed. -/
theorem does_of_quiet {a : World.Action} {next : a.Reply → View × Nat → Prop}
    (hread : a.rewrite? = none) (hcount : a.label? = none)
    (h : x.Allows v a fun reply v' => (v.inside = true → v'.inside = false → P.holds v.shelf n) ∧
      ∀ n', P.Knows v v' n n' a reply → next reply (v', n')) :
    (P.logic writes).does (v, n) (.world a) next :=
  ⟨by simp [hread], fun ha => absurd ha (not_tracks hcount), h⟩

theorem wp_getStored {Q : Except Failure (Option Value) → View × Nat → Prop} (hs : s = x.store)
    (hsession : session = x.session) (h : ∀ now n', v.Sees x now → (v.inside = true → n' = n) →
      Q (.ok (now.value name)) (v.put now, n')) :
    (P.logic writes).wp Q (Routine.getStored s session name) (v, n) := by
  refine does_of_quiet rfl rfl ⟨hs, hsession, fun now hnow => ⟨?_, ?_⟩⟩
  · intro hin hout
    rw [show (v.put now).inside = v.inside from rfl, hin] at hout
    cases hout
  · exact fun n' hknows => h now n' hnow fun hin => hknows.1 hin hin

theorem wp_setStored {Q : Except Failure Unit → View × Nat → Prop} {value : Value}
    (hs : s = x.store) (hsession : session = x.session) (hin : v.inside = true)
    (hallows : x.allows v.shelf (v.shelf.set name value))
    (hwrites : writes v.shelf (v.shelf.set name value))
    (h : Q (.ok ()) (v.put (v.shelf.set name value), n)) :
    (P.logic writes).wp Q (Routine.setStored s session name value) (v, n) := by
  refine ⟨?_, fun _ => hin, hs, hsession, hin, hallows, ?_, fun n' hknows => ?_⟩
  · intro f hf
    rw [← Option.some.inj hf]
    exact hwrites
  · intro _ hout
    exact absurd (hin.symm.trans hout) (by decide)
  · rw [show n' = n from hknows.1 hin hin]
    exact h

theorem wp_count {Q : Except Failure Nat → View × Nat → Prop} {label : String}
    (hin : v.inside = true)
    (h : ∀ m n', P.Counted n n' (.count label) m → Q (.ok m) (v, n')) :
    (P.logic writes).wp Q (Routine.count label) (v, n) := by
  refine ⟨by simp [World.Action.rewrite?], fun _ => hin, fun m =>
    ⟨?_, fun n' hknows => h m n' (hknows.1 hin hin)⟩⟩
  intro _ hout
  exact absurd (hin.symm.trans hout) (by decide)

theorem wp_acquire {Q : Except Failure Hold → View × Nat → Prop} {limit : Option Duration}
    {t : TableName} (ht : t = x.table) (hsession : session = x.session)
    (hout : v.inside = false) (hexpire : limit.isSome = true → ∀ n',
      Q (.error (.error (.lockTimeout session (limit.getD ⟨0⟩)))) (v, n'))
    (hgot : ∀ key now n', (∀ e ∈ v.tickets, e.1 ≠ key) → x.allows v.shelf now → P.holds now n' →
      Q (.ok ⟨t, session, key⟩) (v.hold key now, n')) :
    (P.logic writes).wp Q (Hold.acquire t limit session) (v, n) := by
  refine does_of_quiet rfl rfl ⟨ht, hsession, fun key hfresh => ⟨?_, ?_⟩⟩
  · intro hin
    exact absurd (hin.symm.trans hout) (by decide)
  intro n₁ _
  have hdrawn : (v.draw key).inside = false := by rw [View.inside_draw, hout]
  refine does_of_quiet rfl rfl ⟨ht, by simp [View.draw], fun now hnow => ?_, fun hlimit => ?_⟩
  · rw [View.enter_draw v hfresh]
    rw [View.Sees, hdrawn, if_neg (by decide)] at hnow
    refine ⟨fun hin => absurd (hin.symm.trans hdrawn) (by decide), fun n₂ hknows => ?_⟩
    exact hgot key now n₂ hfresh hnow (hknows.2 hdrawn (View.inside_hold v))
  · refine ⟨fun hin => absurd (hin.symm.trans hdrawn) (by decide), fun n₂ _ => ?_⟩
    refine does_of_quiet rfl rfl ⟨ht, false, by simp [View.draw], ?_⟩
    rw [View.leave_draw v hfresh]
    exact ⟨fun hin => absurd (hin.symm.trans hdrawn) (by decide), fun n₃ _ => hexpire hlimit n₃⟩

theorem wp_drop {Q : Except Failure Unit → View × Nat → Prop} {key : TicketId} {t : TableName}
    (ht : t = x.table) (htickets : v.tickets = [(key, true)]) (hholds : P.holds v.shelf n)
    (h : ∀ v' n', v'.tickets = [] → v'.workspace = v.workspace → v'.shelf = v.shelf →
      Q (.ok ()) (v', n')) :
    (P.logic writes).wp Q (Hold.drop ⟨t, session, key⟩) (v, n) := by
  rw [Hold.drop, Logic.wp_bind]
  refine does_of_quiet rfl rfl ⟨ht, true, by simp [htickets], fun _ _ => hholds, ?_⟩
  exact fun n' _ => h _ n' (by simp [View.leave, htickets]) rfl rfl

end Rules

/-- A pact about nothing. -/
def vacuous (x : Site) : Pact x := ⟨none, fun _ _ => True⟩

/-- Whoever keeps to turns keeps it. -/
theorem wp_vacuous {α : Type} {Q : Except Failure α → View → Prop} {r : Routine α} {v : View}
    (h : x.wp Q r v) (n : Nat) :
    ((vacuous x).logic fun _ _ => True).wp (fun out s => Q out s.1) r (v, n) := by
  induction r generalizing v n with
  | done a => exact h
  | fail f => exact h
  | act a next ih =>
    cases a with
    | own a => exact ih _ h n
    | world a =>
      refine ⟨fun _ _ => trivial, ?_, Site.Allows.mono h fun reply v' h' =>
        ⟨fun _ _ => trivial, fun n' _ => ih reply h' n'⟩⟩
      rintro ⟨label, _, hlabel⟩
      cases hlabel

/-! ### Threads that keep a pact -/

/-- What is known of a machine whose threads keep a pact. -/
structure Kept {ρ : Type} (P : Pact x) (writes : ThreadId → Shelf → Shelf → Prop)
    (Q : ThreadId → Except Failure ρ → View × Nat → Prop) (first : Shelf) (m : Machine ρ)
    (views : ThreadId → View) (turns : List Turn) (holder : Option ThreadId) : Prop where
  tidy : Tidy x m.strands.length first m.world views turns holder
  holds : holder = none → P.holds (x.shelf m.world) (P.made m.world)
  workspace_eq : ∀ i s, m.strands[i]? = some s → (views i).workspace = s.workspace
  /-- The number is right for the thread that is inside, and of no importance to the others. -/
  keeps : ∀ i s, m.strands[i]? = some s → ∀ n, (holder = some i → n = P.made m.world) →
    (P.logic (writes i)).wp (Q i) s.rest (views i, n)

theorem Kept.start {ρ : Type} {writes : ThreadId → Shelf → Shelf → Prop}
    {Q : ThreadId → Except Failure ρ → View × Nat → Prop} {routines : List (Routine ρ)}
    (hidle : (w.locks x.table).Idle) (hcalm : (w.backend x.store).Calm)
    (hholds : P.holds (x.shelf w) (P.made w)) (hkeeps : ∀ i r, routines[i]? = some r → ∀ n,
      (P.logic (writes i)).wp (Q i) r (.fresh (x.shelf w), n)) :
    P.Kept writes Q (x.shelf w) (.start w routines) (fun _ => .fresh (x.shelf w)) [] none where
  tidy := .start hidle hcalm _
  holds := fun _ => hholds
  workspace_eq := by
    intro i s hs
    obtain ⟨r, _, rfl⟩ := Machine.exists_of_start hs
    rfl
  keeps := by
    intro i s hs n _
    obtain ⟨r, hr, rfl⟩ := Machine.exists_of_start hs
    exact hkeeps i r hr n

namespace Kept

variable {ρ : Type} {writes : ThreadId → Shelf → Shelf → Prop}
  {Q : ThreadId → Except Failure ρ → View × Nat → Prop} {first : Shelf} {m m' : Machine ρ}
  {views : ThreadId → View} {turns turns' : List Turn} {holder holder' : Option ThreadId}
  {v : View} (h : P.Kept writes Q first m views turns holder)

include h

theorem set {rest : Routine ρ} (hstep : Turn.Step i turns holder turns' holder')
    (htidy : Tidy x m.strands.length first w' (Function.update views i v) turns' holder')
    (hholds : holder' = none → P.holds (x.shelf w') (P.made w'))
    (hmade : (views i).inside = false → P.made w' = P.made m.world)
    (hkeeps : ∀ n, (holder' = some i → n = P.made w') →
      (P.logic (writes i)).wp (Q i) rest (v, n)) :
    P.Kept writes Q first ⟨w', m.strands.set i ⟨v.workspace, rest⟩⟩ (Function.update views i v)
      turns' holder' := by
  have hstrands : ∀ j s, (m.strands.set i ⟨v.workspace, rest⟩)[j]? = some s →
      (Function.update views i v j).workspace = s.workspace ∧
        ∀ n, (holder' = some j → n = P.made w') →
          (P.logic (writes j)).wp (Q j) s.rest (Function.update views i v j, n) := by
    refine Machine.forall_set ?_ fun j s hj hs => ?_
    · rw [Function.update_self]
      exact ⟨rfl, hkeeps⟩
    · rw [Function.update_of_ne hj]
      refine ⟨h.workspace_eq j s hs, fun n hn => h.keeps j s hs n fun hholder => ?_⟩
      -- the other thread is inside, so this one has made nothing
      have hout : (views i).inside = false := by
        rw [Bool.eq_false_iff, Ne, h.tidy.inside_iff i, hholder, Option.some.injEq]
        exact hj
      rw [hn (hstep.holder_eq_of_ne hj hholder), hmade hout]
  refine ⟨?_, hholds, fun j s hs => (hstrands j s hs).1, fun j s hs => (hstrands j s hs).2⟩
  rw [List.length_set]
  exact htidy

/-- A thread that is outside, or goes in or out, writes nothing and makes nothing. -/
theorem still {next : a.Reply → View → Prop} (hallows : x.Allows (views i) a next)
    (htracks : P.Tracks a → (views i).inside = true)
    (hsteady : v.inside = (views i).inside ∨ a.rewrite? = none ∧ a.label? = none)
    (hperform : m.world.perform i a = some (reply, w'))
    (hturn : (views i).inside = false ∨ v.inside ≠ (views i).inside) :
    x.shelf w' = x.shelf m.world ∧ P.made w' = P.made m.world := by
  have hquiet : a.rewrite? = none ∧ ¬P.Tracks a := by
    rcases hturn with hout | hne
    · refine ⟨hallows.rewrite?_eq_none hout, fun ha => ?_⟩
      rw [htracks ha] at hout
      cases hout
    · obtain ⟨hread, hcount⟩ := hsteady.resolve_left hne
      exact ⟨hread, not_tracks hcount⟩
  exact ⟨h.tidy.shelf_perform hallows hquiet.1 hperform,
    (counted_of_perform hperform).eq hquiet.2⟩

theorem perform {s : Strand ρ} {next : a.Reply → Routine ρ} (hs : m.strands[i]? = some s)
    (hrest : s.rest = .act (.world a) next)
    (hperform : m.world.perform i a = some (reply, w')) :
    ∃ views' turns' holder', P.Kept writes Q first
      ⟨w', m.strands.set i ⟨s.workspace, next reply⟩⟩ views' turns' holder' := by
  have hkeeps := h.keeps i s hs (P.made m.world) fun _ => rfl
  rw [hrest, Logic.wp_act] at hkeeps
  obtain ⟨_, htracks, hallows⟩ := hkeeps
  obtain ⟨v, turns', holder', ⟨⟨hobliged, hnext⟩, hsteady⟩, hwork, hstep, htidy⟩ :=
    h.tidy.perform (Machine.lt_of_getElem? hs) hallows.steady hperform
  have hstill := h.still hallows htracks hsteady hperform
  have hin := h.tidy.inside_iff i
  have hin' := htidy.inside_iff i
  have hshelf := htidy.shelf_eq (i := i)
  rw [Function.update_self] at hin' hshelf
  suffices hset : P.Kept writes Q first ⟨w', m.strands.set i ⟨v.workspace, next reply⟩⟩
      (Function.update views i v) turns' holder' by
    rw [hwork, h.workspace_eq i s hs] at hset
    exact ⟨_, _, _, hset⟩
  refine h.set hstep htidy ?_ (fun hout => (hstill (.inl hout)).2) ?_
  · -- nobody is inside now
    intro hnone
    have hout : v.inside = false := by
      rw [Bool.eq_false_iff, Ne, hin', hnone]
      simp
    cases hbefore : (views i).inside with
    | true =>
      obtain ⟨hsame, hmade⟩ := hstill (.inr (by rw [hout, hbefore]; decide))
      rw [hsame, hmade, ← h.tidy.shelf_eq hbefore]
      exact hobliged hbefore hout
    | false =>
      obtain ⟨hsame, hmade⟩ := hstill (.inl hbefore)
      rw [hsame, hmade]
      refine h.holds ?_
      cases hholder : holder with
      | none => rfl
      | some j =>
        by_cases hj : j = i
        · rw [hin.mpr (hj ▸ hholder)] at hbefore
          cases hbefore
        · rw [hstep.holder_eq_of_ne hj hholder] at hnone
          cases hnone
  · intro n hn
    refine hnext n ⟨fun _ hinside => ?_, fun hout hinside => ?_⟩
    · rw [hn (hin'.mp hinside)]
      exact counted_of_perform hperform
    · obtain ⟨hsame, hmade⟩ := hstill (.inl hout)
      rw [hn (hin'.mp hinside), hshelf hinside, hsame, hmade]
      refine h.holds ?_
      cases hstep with
      | stay =>
        rw [hin.mpr (hin'.mp hinside)] at hout
        cases hout
      | enter => rfl
      | leave =>
        rw [hin.mpr rfl] at hout
        cases hout

theorem move {mv : Machine.Move} (hmove : m.move? mv = some m') :
    ∃ views' turns' holder', P.Kept writes Q first m' views' turns' holder' := by
  cases mv with
  | act i =>
    obtain ⟨s, hs, ⟨a, next, hrest, rfl⟩ | ⟨a, next, reply, w', hrest, hperform, rfl⟩⟩ :=
      Machine.move?_act hmove
    · have htidy : Tidy x m.strands.length first m.world
          (Function.update views i ((views i).work (s.workspace.perform a).2)) turns holder :=
        h.tidy.work ⟨h.tidy.sound, rfl⟩ rfl rfl rfl rfl rfl
      refine ⟨_, _, _, h.set (.stay turns holder) htidy h.holds (fun _ => rfl) fun n hn => ?_⟩
      have hkeeps := h.keeps i s hs n hn
      rw [hrest, Logic.wp_act] at hkeeps
      rw [← h.workspace_eq i s hs]
      exact hkeeps
    · exact h.perform hs hrest hperform
  | expire i =>
    obtain ⟨s, a, next, reply, hs, hrest, hexpired, rfl⟩ := Machine.move?_expire hmove
    have htidy : Tidy x m.strands.length first m.world (Function.update views i (views i)) turns
        holder := by
      rw [Function.update_eq_self]
      exact h.tidy
    rw [← h.workspace_eq i s hs]
    refine ⟨_, _, _, h.set (.stay turns holder) htidy h.holds (fun _ => rfl) fun n hn => ?_⟩
    have hkeeps := h.keeps i s hs n hn
    rw [hrest, Logic.wp_act] at hkeeps
    obtain ⟨_, _, hallows⟩ := hkeeps
    cases a with
    | await t k limit =>
      cases limit with
      | none => cases hexpired
      | some d =>
        cases hexpired
        refine (hallows.2.2.2 rfl).2 n ⟨fun _ _ => rfl, fun hout hinside => ?_⟩
        rw [hout] at hinside
        cases hinside
    | _ => cases hexpired

theorem reach (hreach : m.Reach m') :
    ∃ views' turns' holder', P.Kept writes Q first m' views' turns' holder' := by
  induction hreach with
  | start => exact ⟨_, _, _, h⟩
  | move mv _ hmove ih =>
    obtain ⟨_, _, _, h₁⟩ := ih
    exact h₁.move hmove

theorem outcome_of_keeps {s : Strand ρ} (hs : m.strands[i]? = some s) {out : Except Failure ρ}
    (hout : s.rest.outcome? = some out) {n : Nat} (hn : holder = some i → n = P.made m.world) :
    Q i out (views i, n) := by
  have hkeeps := h.keeps i s hs n hn
  cases hrest : s.rest with
  | done a =>
    rw [hrest] at hkeeps hout
    cases hout
    exact hkeeps
  | fail f =>
    rw [hrest] at hkeeps hout
    cases hout
    exact hkeeps
  | act a next =>
    rw [hrest] at hout
    cases hout

theorem ended (hQ : ∀ i out s, Q i out s → s.1.inside = false) (hended : m.Ended) :
    holder = none ∧ ∀ i s, m.strands[i]? = some s →
      ∃ out, s.rest.outcome? = some out ∧ ∀ n, Q i out (views i, n) := by
  obtain ⟨hnone, houts⟩ := h.tidy.ended hended
    (fun i s a next hs hrest => ⟨_, by
      have hkeeps := h.keeps i s hs (P.made m.world) fun _ => rfl
      rw [hrest, Logic.wp_act] at hkeeps
      exact hkeeps.2.2⟩)
    fun i s out hs hout => hQ i out _ (h.outcome_of_keeps hs hout fun _ => rfl)
  refine ⟨hnone, fun i s hs => ?_⟩
  obtain ⟨out, hout⟩ := houts i s hs
  refine ⟨out, hout, fun n => h.outcome_of_keeps hs hout ?_⟩
  rw [hnone]
  simp

end Kept

end Pact

end SessionCart
