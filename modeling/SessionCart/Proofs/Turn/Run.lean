import Mathlib.Logic.Hydra
import SessionCart.Proofs.Turn.Soundness

/-!
# Runs of threads that keep to turns

Whatever the schedule, a run in which nobody can go on has brought all threads to their ends, and
what it did to the shelf is what their turns did, one after another, in the order in which the lock
was got.
-/

namespace SessionCart

def Routine.outcome? {α : Type} : Routine α → Option (Except Failure α)
  | .done a => some (.ok a)
  | .fail f => some (.error f)
  | .act .. => none

/-- What is left of a routine after its next action. -/
inductive Routine.Next {α : Type} : Routine α → Routine α → Prop
  | act (a : Action) (next : a.Reply → Routine α) (reply : a.Reply) :
    Next (next reply) (.act a next)

theorem Routine.wellFounded_next {α : Type} : WellFounded (@Next α) := by
  refine ⟨fun r => ?_⟩
  induction r with
  | done a => exact ⟨_, fun _ h => by cases h⟩
  | fail f => exact ⟨_, fun _ h => by cases h⟩
  | act a next ih =>
    refine ⟨_, fun _ h => ?_⟩
    cases h with
    | act _ _ reply => exact ih reply

namespace Machine

variable {ρ : Type}

/-- The thread of a move, if the move brought it into a session in which it was not. -/
def entrant (table : TableName) (session : SessionId) (m m' : Machine ρ) : Move → List ThreadId
  | .act i =>
    if (m.world.locks table).depth i session = 0 ∧ 0 < (m'.world.locks table).depth i session then
      [i]
    else []
  | .expire _ => []

/-- The machines that a run reaches, with the threads that entered a session on the way, in the
order in which they did. -/
inductive Run (table : TableName) (session : SessionId) (m : Machine ρ) :
    List ThreadId → Machine ρ → Prop
  | start : Run table session m [] m
  | move {order : List ThreadId} {m₁ m₂ : Machine ρ} (mv : Move) : Run table session m order m₁ →
    m₁.move? mv = some m₂ → Run table session m (order ++ entrant table session m₁ m₂ mv) m₂

theorem follow_cons {m m' : Machine ρ} {i : ThreadId} (h : m.move? (.act i) = some m')
    (schedule : List ThreadId) : m.follow (i :: schedule) = m'.follow schedule := by
  simp [follow, h]

/-- No thread can go on. -/
def Ended (m : Machine ρ) : Prop := ∀ i, m.move? (.act i) = none

theorem results_eq (m : Machine ρ) : m.results = m.strands.filterMap (·.rest.outcome?) := rfl

theorem move?_act {m m' : Machine ρ} {i : ThreadId} (h : m.move? (.act i) = some m') :
    ∃ s, m.strands[i]? = some s ∧
      ((∃ a next, s.rest = .act (.own a) next ∧
        m' = ⟨m.world, m.strands.set i
          ⟨(s.workspace.perform a).2, next (s.workspace.perform a).1⟩⟩) ∨
      ∃ a next reply w', s.rest = .act (.world a) next ∧ m.world.perform i a = some (reply, w') ∧
        m' = ⟨w', m.strands.set i ⟨s.workspace, next reply⟩⟩) := by
  simp only [move?, Option.bind_eq_bind, Option.bind_eq_some_iff] at h
  obtain ⟨s, hs, ⟨w, s'⟩, hadvance, hm'⟩ := h
  cases hm'
  refine ⟨s, hs, ?_⟩
  unfold advance at hadvance
  split at hadvance
  · cases hadvance
  · cases hadvance
  · rename_i a next hrest
    cases hadvance
    exact .inl ⟨a, next, hrest, rfl⟩
  · rename_i a next hrest
    obtain ⟨⟨reply, w'⟩, hperform, hw⟩ := Option.map_eq_some_iff.mp hadvance
    simp only [Prod.mk.injEq] at hw
    obtain ⟨rfl, rfl⟩ := hw
    exact .inr ⟨a, next, reply, w', hrest, hperform, rfl⟩

theorem move?_expire {m m' : Machine ρ} {i : ThreadId} (h : m.move? (.expire i) = some m') :
    ∃ s a next reply, m.strands[i]? = some s ∧ s.rest = .act (.world a) next ∧
      a.expired? = some reply ∧ m' = ⟨m.world, m.strands.set i ⟨s.workspace, next reply⟩⟩ := by
  simp only [move?, Option.bind_eq_bind, Option.bind_eq_some_iff] at h
  obtain ⟨s, hs, s', hgive, hm'⟩ := h
  cases hm'
  unfold giveUp at hgive
  split at hgive
  · rename_i a next hrest
    split at hgive
    · cases hgive
    · obtain ⟨reply, hreply, rfl⟩ := Option.map_eq_some_iff.mp hgive
      exact ⟨s, a, next, reply, hs, hrest, hreply, rfl⟩
  · cases hgive

/-! ### Runs end -/

theorem cutExpand_set {α : Type} {r : α → α → Prop} {l : List α} {i : Nat} {a b : α}
    (ha : l[i]? = some a) (hr : r b a) :
    Relation.CutExpand r (l.set i b : Multiset α) (l : Multiset α) := by
  induction l generalizing i with
  | nil => cases ha
  | cons c rest ih =>
    cases i with
    | zero =>
      cases ha
      exact Relation.cutExpand_single_add hr (rest : Multiset α)
    | succ i =>
      rw [List.set_cons_succ, ← Multiset.cons_coe, ← Multiset.cons_coe, ← Multiset.singleton_add,
        ← Multiset.singleton_add, Relation.cutExpand_add_left]
      exact ih ha

/-- No run goes on for ever: each move leaves one routine nearer to its end and the others as they
are. -/
theorem wellFounded_move : WellFounded fun m' m : Machine ρ => ∃ mv, m.move? mv = some m' := by
  refine Subrelation.wf ?_ (InvImage.wf (fun m : Machine ρ =>
    (m.strands.map Strand.rest : Multiset (Routine ρ))) Routine.wellFounded_next.cutExpand)
  rintro m' m ⟨mv, hmove⟩
  have hset : ∃ (i : Nat) (s s' : Strand ρ), m.strands[i]? = some s ∧ s'.rest.Next s.rest ∧
      m'.strands = m.strands.set i s' := by
    cases mv with
    | act i =>
      obtain ⟨s, hs, ⟨a, next, hrest, rfl⟩ | ⟨a, next, reply, w', hrest, _, rfl⟩⟩ := move?_act hmove
      · exact ⟨i, s, _, hs, hrest ▸ .act (.own a) next _, rfl⟩
      · exact ⟨i, s, _, hs, hrest ▸ .act (.world a) next _, rfl⟩
    | expire i =>
      obtain ⟨s, a, next, reply, hs, hrest, _, rfl⟩ := move?_expire hmove
      exact ⟨i, s, _, hs, hrest ▸ .act (.world a) next _, rfl⟩
  obtain ⟨i, s, s', hs, hnext, hstrands⟩ := hset
  rw [InvImage, hstrands, List.map_set]
  refine cutExpand_set ?_ hnext
  rw [List.getElem?_map, hs]
  rfl

/-- Some schedule brings all threads as far as they get. -/
theorem exists_ended (m : Machine ρ) : ∃ schedule, (m.follow schedule).Ended := by
  induction m using wellFounded_move.induction with
  | _ m ih =>
    by_cases hended : m.Ended
    · exact ⟨[], hended⟩
    · obtain ⟨i, hi⟩ := not_forall.mp hended
      obtain ⟨m₁, hmove⟩ := Option.ne_none_iff_exists'.mp hi
      obtain ⟨schedule, hended⟩ := ih m₁ ⟨_, hmove⟩
      refine ⟨i :: schedule, ?_⟩
      rwa [follow_cons hmove]

end Machine

namespace Machine

variable {ρ : Type} {m : Machine ρ}

theorem lt_of_getElem? {i : ThreadId} {s : Strand ρ} (hs : m.strands[i]? = some s) :
    i < m.strands.length := by
  rw [List.getElem?_eq_some_iff] at hs
  exact hs.1

/-- What holds of all strands when one of them has gone on. -/
theorem forall_set {i : ThreadId} {s' : Strand ρ} {P : ThreadId → Strand ρ → Prop} (hself : P i s')
    (hother : ∀ j s, j ≠ i → m.strands[j]? = some s → P j s) :
    ∀ j s, (m.strands.set i s')[j]? = some s → P j s := by
  intro j s hs
  by_cases hj : j = i
  · subst hj
    have hlt := (List.getElem?_eq_some_iff.mp hs).1
    rw [List.length_set] at hlt
    rw [List.getElem?_set_self hlt] at hs
    rwa [← Option.some.inj hs]
  · rw [List.getElem?_set_ne (Ne.symm hj)] at hs
    exact hother j s hj hs

end Machine

/-! ### The ends of runs -/

namespace Tidy

variable {ρ : Type} {x : Site} {first : Shelf} {m : Machine ρ} {views : ThreadId → View}
  {turns : List Turn} {holder : Option ThreadId}

theorem holder_lt {threads : Nat} {w : World} (h : Tidy x threads first w views turns holder)
    {i : ThreadId} (hholder : holder = some i) : i < threads := by
  have hinside := (h.inside_iff i).mpr hholder
  rw [View.inside, h.tickets_eq i, List.any_eq_true] at hinside
  obtain ⟨⟨id, held⟩, he, _⟩ := hinside
  obtain ⟨k, hk, rfl, _⟩ := LockTable.mem_ticketsOf_iff.mp he
  exact (h.here k hk).2

variable (h : Tidy x m.strands.length first m.world views turns holder) (hended : m.Ended)
  (hallows : ∀ (i : ThreadId) (s : Strand ρ) a next, m.strands[i]? = some s →
    s.rest = .act (.world a) next → ∃ next', x.Allows (views i) a next')

include h hended hallows

/-- A thread that does not have to wait for another one can go on. -/
theorem exists_outcome {i : ThreadId} {s : Strand ρ} (hs : m.strands[i]? = some s)
    (hfree : ∀ j, holder = some j → j = i) : ∃ out, s.rest.outcome? = some out := by
  have hstuck := hended i
  simp only [Machine.move?, hs, Option.bind_eq_bind, Option.bind_some] at hstuck
  cases hrest : s.rest with
  | done a => exact ⟨_, rfl⟩
  | fail f => exact ⟨_, rfl⟩
  | act a next =>
    cases a with
    | own a => simp [Machine.advance, hrest] at hstuck
    | world a =>
      obtain ⟨next', hnext⟩ := hallows i s a next hs hrest
      obtain ⟨reply, w', hperform⟩ := h.exists_perform hfree hnext
      simp [Machine.advance, hrest, hperform] at hstuck

/-- Where nobody can go on and nobody ends inside, all have ended. -/
theorem ended (hout : ∀ (i : ThreadId) (s : Strand ρ) out, m.strands[i]? = some s →
      s.rest.outcome? = some out → (views i).inside = false) :
    holder = none ∧ ∀ (i : ThreadId) (s : Strand ρ), m.strands[i]? = some s →
      ∃ out, s.rest.outcome? = some out := by
  have hnone : holder = none := by
    cases hholder : holder with
    | none => rfl
    | some i =>
      obtain ⟨s, hs⟩ : ∃ s, m.strands[i]? = some s :=
        ⟨_, List.getElem?_eq_getElem (h.holder_lt hholder)⟩
      have hfree : ∀ j, holder = some j → j = i := by
        intro j hj
        exact (Option.some.inj (hholder.symm.trans hj)).symm
      obtain ⟨out, hdone⟩ := h.exists_outcome hended hallows hs hfree
      have houtside := hout i s out hs hdone
      rw [(h.inside_iff i).mpr hholder] at houtside
      cases houtside
  refine ⟨hnone, fun i s hs => h.exists_outcome hended hallows hs ?_⟩
  rw [hnone]
  simp

end Tidy

/-! ### The invariant of a machine -/

/-- What is known of a machine whose threads keep to turns. -/
structure Orderly {ρ : Type} (x : Site) (Q : ThreadId → Except Failure ρ → View → Prop)
    (first : Shelf) (m : Machine ρ) (views : ThreadId → View) (turns : List Turn)
    (holder : Option ThreadId) : Prop where
  tidy : Tidy x m.strands.length first m.world views turns holder
  workspace_eq : ∀ i s, m.strands[i]? = some s → (views i).workspace = s.workspace
  keeps : ∀ i s, m.strands[i]? = some s → x.wp (Q i) s.rest (views i)

namespace Orderly

variable {ρ : Type} {x : Site} {Q : ThreadId → Except Failure ρ → View → Prop} {first : Shelf}
  {m m' : Machine ρ} {views : ThreadId → View} {turns : List Turn} {holder : Option ThreadId}

/-- One thread has gone on, and the invariant holds of the shared state. -/
theorem set (h : Orderly x Q first m views turns holder) {i : ThreadId} {w' : World} {v : View}
    {rest : Routine ρ} {turns' : List Turn} {holder' : Option ThreadId}
    (htidy : Tidy x m.strands.length first w' (Function.update views i v) turns' holder')
    (hkeeps : x.wp (Q i) rest v) :
    Orderly x Q first ⟨w', m.strands.set i ⟨v.workspace, rest⟩⟩ (Function.update views i v) turns'
      holder' := by
  have hstrands : ∀ j s, (m.strands.set i ⟨v.workspace, rest⟩)[j]? = some s →
      (Function.update views i v j).workspace = s.workspace ∧
        x.wp (Q j) s.rest (Function.update views i v j) := by
    refine Machine.forall_set ?_ fun j s hj hs => ?_
    · rw [Function.update_self]
      exact ⟨rfl, hkeeps⟩
    · rw [Function.update_of_ne hj]
      exact ⟨h.workspace_eq j s hs, h.keeps j s hs⟩
  refine ⟨?_, fun j s hs => (hstrands j s hs).1, fun j s hs => (hstrands j s hs).2⟩
  rw [List.length_set]
  exact htidy

/-- The order in which the lock was got, after a step of the turns. -/
theorem order_step {i : ThreadId} {turns' : List Turn} {holder' : Option ThreadId}
    (hstep : Turn.Step i turns holder turns' holder') {before after : Nat}
    (hbefore : 0 < before ↔ holder = some i) (hafter : 0 < after ↔ holder' = some i) :
    turns'.map Turn.thread ++ holder'.toList = turns.map Turn.thread ++ holder.toList ++
      if before = 0 ∧ 0 < after then [i] else [] := by
  cases hstep with
  | stay =>
    rw [if_neg, List.append_nil]
    rw [← hbefore] at hafter
    omega
  | enter =>
    rw [if_pos]
    · simp
    · have : ¬0 < before := fun hpos => by cases hbefore.mp hpos
      exact ⟨Nat.eq_zero_of_not_pos this, hafter.mpr rfl⟩
  | leave =>
    have : ¬0 < after := fun hpos => by cases hafter.mp hpos
    rw [if_neg fun hboth => this hboth.2]
    simp

theorem depth_pos_iff (h : Orderly x Q first m views turns holder) (i : ThreadId) :
    0 < (m.world.locks x.table).depth i x.session ↔ holder = some i := by
  rw [h.tidy.sound.depth_pos_iff (fun k hk => (h.tidy.here k hk).1), ← h.tidy.tickets_eq i]
  exact h.tidy.inside_iff i

theorem move (h : Orderly x Q first m views turns holder) {mv : Machine.Move}
    (hmove : m.move? mv = some m') :
    ∃ views' turns' holder', Orderly x Q first m' views' turns' holder' ∧
      turns'.map Turn.thread ++ holder'.toList =
        turns.map Turn.thread ++ holder.toList ++ Machine.entrant x.table x.session m m' mv := by
  cases mv with
  | act i =>
    obtain ⟨s, hs, ⟨a, next, hrest, rfl⟩ | ⟨a, next, reply, w', hrest, hperform, rfl⟩⟩ :=
      Machine.move?_act hmove
    all_goals
      have hkeeps := h.keeps i s hs
      have hworkspace := h.workspace_eq i s hs
      rw [hrest] at hkeeps
    · rw [Site.wp_own, hworkspace] at hkeeps
      have htidy : Tidy x m.strands.length first m.world
          (Function.update views i ((views i).work (s.workspace.perform a).2)) turns holder :=
        h.tidy.work ⟨h.tidy.sound, rfl⟩ rfl rfl rfl rfl rfl
      have horderly := h.set htidy hkeeps
      exact ⟨_, _, _, horderly,
        order_step (.stay turns holder) (h.depth_pos_iff i) (horderly.depth_pos_iff i)⟩
    · rw [Site.wp_world] at hkeeps
      obtain ⟨v, turns', holder', hnext, hv, hstep, htidy⟩ :=
        h.tidy.perform (Machine.lt_of_getElem? hs) hkeeps hperform
      have horderly := h.set htidy hnext
      rw [hv, hworkspace] at horderly
      exact ⟨_, _, _, horderly,
        order_step hstep (h.depth_pos_iff i) (horderly.depth_pos_iff i)⟩
  | expire i =>
    obtain ⟨s, a, next, reply, hs, hrest, hexpired, rfl⟩ := Machine.move?_expire hmove
    have hkeeps := h.keeps i s hs
    rw [hrest, Site.wp_world] at hkeeps
    have hnext : x.wp (Q i) (next reply) (views i) := by
      cases a with
      | await t k limit =>
        cases limit with
        | none => cases hexpired
        | some d =>
          cases hexpired
          exact hkeeps.2.2.2 rfl
      | _ => cases hexpired
    have htidy : Tidy x m.strands.length first m.world (Function.update views i (views i)) turns
        holder := by
      rw [Function.update_eq_self]
      exact h.tidy
    have horderly := h.set htidy hnext
    rw [h.workspace_eq i s hs] at horderly
    refine ⟨_, _, _, horderly, ?_⟩
    rw [Machine.entrant, List.append_nil]

theorem run (h : Orderly x Q first m views turns holder) {order : List ThreadId}
    (hrun : m.Run x.table x.session order m') :
    ∃ views' turns' holder', Orderly x Q first m' views' turns' holder' ∧
      turns'.map Turn.thread ++ holder'.toList =
        turns.map Turn.thread ++ holder.toList ++ order := by
  induction hrun with
  | start => exact ⟨views, turns, holder, h, (List.append_nil _).symm⟩
  | move mv _ hmove ih =>
    obtain ⟨views₁, turns₁, holder₁, h₁, horder₁⟩ := ih
    obtain ⟨views₂, turns₂, holder₂, h₂, horder₂⟩ := h₁.move hmove
    refine ⟨views₂, turns₂, holder₂, h₂, ?_⟩
    rw [horder₂, horder₁, List.append_assoc]

/-! ### The ends of a run -/

theorem outcome_of_keeps (h : Orderly x Q first m views turns holder) {i : ThreadId} {s : Strand ρ}
    (hs : m.strands[i]? = some s) {out : Except Failure ρ} (hout : s.rest.outcome? = some out) :
    Q i out (views i) := by
  have hkeeps := h.keeps i s hs
  cases hrest : s.rest with
  | done a =>
    rw [hrest] at hkeeps hout
    cases hout
    exact hkeeps
  | fail f =>
    rw [hrest] at hkeeps hout
    cases hout
    exact hkeeps
  | act a next =>
    rw [hrest] at hout
    cases hout

theorem ended (h : Orderly x Q first m views turns holder)
    (hQ : ∀ i out v, Q i out v → v.inside = false) (hended : m.Ended) :
    holder = none ∧ ∀ i s, m.strands[i]? = some s →
      ∃ out, s.rest.outcome? = some out ∧ Q i out (views i) := by
  obtain ⟨hnone, houts⟩ := h.tidy.ended hended
    (fun i s a next hs hrest => ⟨_, by
      have hkeeps := h.keeps i s hs
      rwa [hrest, Site.wp_world] at hkeeps⟩)
    fun i s out hs hout => hQ i out _ (h.outcome_of_keeps hs hout)
  refine ⟨hnone, fun i s hs => ?_⟩
  obtain ⟨out, hout⟩ := houts i s hs
  exact ⟨out, hout, h.outcome_of_keeps hs hout⟩

end Orderly

/-- A sound table of which no ticket is out. -/
structure LockTable.Idle (t : LockTable) : Prop where
  sound : t.Sound
  tickets_eq : t.tickets = []

theorem LockTable.idle_new (threshold : Nat) : (new threshold).Idle := ⟨sound_new threshold, rfl⟩

def View.fresh (s : Shelf) : View := ⟨{}, [], s, s, []⟩

section Start

variable {ρ : Type} {x : Site} {w : World} {routines : List (Routine ρ)}

theorem Machine.exists_of_start {i : ThreadId} {s : Strand ρ}
    (hs : (start w routines).strands[i]? = some s) :
    ∃ r, routines[i]? = some r ∧ s = ⟨{}, r⟩ := by
  simp only [start, List.getElem?_map, Option.map_eq_some_iff] at hs
  obtain ⟨r, hr, rfl⟩ := hs
  exact ⟨r, hr, rfl⟩

variable (hidle : (w.locks x.table).Idle) (hcalm : (w.backend x.store).Calm)

include hidle hcalm

theorem Tidy.start (threads : Nat) :
    Tidy x threads (x.shelf w) w (fun _ => .fresh (x.shelf w)) [] none where
  sound := hidle.sound
  calm := hcalm
  here := by simp [hidle.tickets_eq]
  tickets_eq := by
    intro i
    change [] = (w.locks x.table).ticketsOf i
    simp [LockTable.ticketsOf, hidle.tickets_eq]
  sees := fun i => x.refl _
  turns_eq := fun i => rfl
  inside_iff := fun i => by simp [View.inside, View.fresh]
  linked := rfl

theorem Orderly.start {Q : ThreadId → Except Failure ρ → View → Prop}
    (hkeeps : ∀ i r, routines[i]? = some r → x.wp (Q i) r (.fresh (x.shelf w))) :
    Orderly x Q (x.shelf w) (.start w routines) (fun _ => .fresh (x.shelf w)) [] none where
  tidy := .start hidle hcalm _
  workspace_eq := by
    intro i s hs
    obtain ⟨r, _, rfl⟩ := Machine.exists_of_start hs
    rfl
  keeps := by
    intro i s hs
    obtain ⟨r, hr, rfl⟩ := Machine.exists_of_start hs
    exact hkeeps i r hr

end Start

theorem Machine.length_move {ρ : Type} {m m' : Machine ρ} {mv : Move}
    (hmove : m.move? mv = some m') : m'.strands.length = m.strands.length := by
  cases mv with
  | act i =>
    obtain ⟨s, _, ⟨a, next, _, rfl⟩ | ⟨a, next, reply, w', _, _, rfl⟩⟩ := move?_act hmove
    · rw [List.length_set]
    · rw [List.length_set]
  | expire i =>
    obtain ⟨s, a, next, reply, _, _, _, rfl⟩ := move?_expire hmove
    rw [List.length_set]

theorem Machine.Reach.length_eq {ρ : Type} {m m' : Machine ρ} (hreach : m.Reach m') :
    m'.strands.length = m.strands.length := by
  induction hreach with
  | start => rfl
  | move mv _ hmove ih => rw [length_move hmove, ih]

theorem Machine.Run.length_eq {ρ : Type} {m m' : Machine ρ} {table : TableName}
    {session : SessionId} {order : List ThreadId} (hrun : m.Run table session order m') :
    m'.strands.length = m.strands.length := by
  induction hrun with
  | start => rfl
  | move mv _ hmove ih => rw [length_move hmove, ih]

theorem Machine.Run.lt_length {ρ : Type} {m m' : Machine ρ} {table : TableName}
    {session : SessionId} {order : List ThreadId} (hrun : m.Run table session order m') :
    ∀ i ∈ order, i < m.strands.length := by
  induction hrun with
  | start => simp
  | @move order m₁ m₂ mv hbefore hmove ih =>
    intro i hi
    rcases List.mem_append.mp hi with hi | hi
    · exact ih i hi
    · cases mv with
      | expire j => cases hi
      | act j =>
        obtain ⟨s, hs, _⟩ := move?_act hmove
        rw [entrant] at hi
        split at hi
        · rw [List.mem_singleton.mp hi, ← hbefore.length_eq]
          exact lt_of_getElem? hs
        · cases hi

theorem map_some_filterMap {α β : Type} {f : α → Option β} {l : List α}
    (h : ∀ a ∈ l, ∃ b, f a = some b) : (l.filterMap f).map some = l.map f := by
  induction l with
  | nil => rfl
  | cons a rest ih =>
    obtain ⟨b, hb⟩ := h a List.mem_cons_self
    rw [List.filterMap_cons_some hb, List.map_cons, List.map_cons, hb,
      ih fun a' ha' => h a' (List.mem_cons_of_mem a ha')]

theorem Machine.results_getElem? {ρ : Type} {m : Machine ρ}
    (h : ∀ (i : Nat) (s : Strand ρ), m.strands[i]? = some s → ∃ out, s.rest.outcome? = some out) :
    m.results.length = m.strands.length ∧ ∀ (i : Nat) out, m.results[i]? = some out →
      ∃ s, m.strands[i]? = some s ∧ s.rest.outcome? = some out := by
  have hall : ∀ s ∈ m.strands, ∃ out, s.rest.outcome? = some out := by
    intro s hs
    obtain ⟨i, hi⟩ := List.mem_iff_getElem?.mp hs
    exact h i s hi
  have hmap := map_some_filterMap hall
  rw [← results_eq] at hmap
  refine ⟨?_, fun i out hout => ?_⟩
  · have hsame := congrArg List.length hmap
    rwa [List.length_map, List.length_map] at hsame
  · have hget : (m.results.map some)[i]? = some (some out) := by
      rw [List.getElem?_map, hout]
      rfl
    rw [hmap, List.getElem?_map, Option.map_eq_some_iff] at hget
    exact hget

theorem Machine.ended_of_length {ρ : Type} {m : Machine ρ}
    (h : m.strands.length ≤ m.results.length) : m.Ended := by
  intro i
  cases hs : m.strands[i]? with
  | none => simp [move?, hs]
  | some s =>
    have hout : (s.rest.outcome?).isSome = true := by
      rw [results_eq, List.length_filterMap_eq_countP] at h
      exact List.countP_eq_length.mp (Nat.le_antisymm List.countP_le_length h) s
        (List.mem_of_getElem? hs)
    cases hrest : s.rest with
    | done a => simp [move?, advance, hs, hrest]
    | fail f => simp [move?, advance, hs, hrest]
    | act a next =>
      rw [hrest] at hout
      cases hout

theorem Machine.exists_run_follow {ρ : Type} (table : TableName) (session : SessionId)
    (m : Machine ρ) (schedule : List ThreadId) :
    ∃ order, m.Run table session order (m.follow schedule) := by
  suffices ∀ m' order, m.Run table session order m' →
      ∃ order', m.Run table session order' (m'.follow schedule) from this m [] .start
  induction schedule with
  | nil => exact fun m' order h => ⟨order, h⟩
  | cons i rest ih =>
    intro m' order h
    cases hmove : m'.move? (.act i) with
    | none =>
      have hstay : m'.follow (i :: rest) = m'.follow rest := by
        simp [follow, hmove]
      rw [hstay]
      exact ih m' order h
    | some m'' =>
      rw [follow_cons hmove]
      exact ih m'' _ (h.move (.act i) hmove)

/-- **One turn after another.** A run in which nobody can go on has brought all threads to their
ends, and the turns that they had, in the order in which they got the lock, lead from the first
shelf to the last. -/
theorem Machine.Run.linked {ρ : Type} {x : Site} {Q : ThreadId → Except Failure ρ → View → Prop}
    {w : World} {routines : List (Routine ρ)} (hidle : (w.locks x.table).Idle)
    (hcalm : (w.backend x.store).Calm)
    (hkeeps : ∀ i r, routines[i]? = some r → x.wp (Q i) r (.fresh (x.shelf w)))
    (hQ : ∀ i out v, Q i out v → v.inside = false) {order : List ThreadId} {m : Machine ρ}
    (hrun : (Machine.start w routines).Run x.table x.session order m) (hended : m.Ended) :
    ∃ (views : ThreadId → View) (turns : List Turn),
      m.results.length = routines.length ∧
      (∀ i out, m.results[i]? = some out → Q i out (views i)) ∧
      (∀ i, (views i).turns =
        (turns.filter fun t => decide (t.thread = i)).map fun t => (t.before, t.after)) ∧
      Linked (x.shelf w) (x.shelf m.world) turns ∧ turns.map Turn.thread = order := by
  obtain ⟨views, turns, holder, horderly, horder⟩ := (Orderly.start hidle hcalm hkeeps).run hrun
  obtain ⟨hnone, houts⟩ := horderly.ended hQ hended
  obtain ⟨hlength, hresults⟩ := results_getElem? fun i s hs =>
    (houts i s hs).imp fun _ hout => hout.1
  refine ⟨views, turns, ?_, ?_, horderly.tidy.turns_eq, ?_, ?_⟩
  · rw [hlength, hrun.length_eq]
    exact List.length_map ..
  · intro i out hout
    obtain ⟨s, hs, hrest⟩ := hresults i out hout
    exact horderly.outcome_of_keeps hs hrest
  · have hlinked := horderly.tidy.linked
    rw [hnone] at hlinked
    exact hlinked
  · rw [hnone] at horder
    simpa using horder

end SessionCart
