import Mathlib.Data.List.Forall2
import SessionCart.Concurrency.Race
import SessionCart.Proofs.Section.Visit
import SessionCart.Proofs.Turn.Run

/-!
# No update is lost

Threads that visit one session, interleaved in any way, leave the value that the sections that
committed make of the first one, one after another in the order in which they got the lock.
-/

namespace SessionCart

variable {k : Kind}

/-- The edits of the sections of a log that committed something, in its order. A section is named by
its thread and its number among the visits of the thread. -/
def committed (threads : List (List (Visit k))) (outs : List (List (Visit.Outcome k)))
    (log : List (ThreadId × Nat)) : List (Edits k) :=
  log.filterMap fun e => match outs[e.1]?.bind (·[e.2]?), threads[e.1]?.bind (·[e.2]?) with
    | some (.ok (some _)), some visit => some visit.edits
    | _, _ => none

/-- The value that edits make of a base, one after another, where all of them commit something. -/
def Edits.netAll (edits : List (Edits k)) (base : k.Data) : Option k.Data :=
  edits.foldlM (fun d e => e.net d) base

/-- A log of the sections that got the lock accounts for the outcomes of all visits and for the
stored value. -/
structure Accounts (a : Attribute k) (session : SessionId) (threads : List (List (Visit k)))
    (outs : List (List (Visit.Outcome k))) (order : List ThreadId)
    (initial final : Option Value) (log : List (ThreadId × Nat)) : Prop where
  order_eq : log.map Prod.fst = order
  in_turn : ∀ i, ((log.filter fun e => decide (e.1 = i)).map Prod.snd).Pairwise (· < ·)
  complete : ∀ i n out, outs[i]?.bind (·[n]?) = some (.ok out) → (i, n) ∈ log
  unchanged : committed threads outs log = [] → final = initial
  changed : committed threads outs log ≠ [] → ∃ base last, a.StartsFrom session initial base ∧
    Edits.netAll (committed threads outs log) base = some last ∧ final = some (.of k last)

/-! ### The log -/

theorem Visit.AllHad.exists_numbers {a : Attribute k} {session : SessionId}
    {visits : List (Visit k)} {outs : List (Visit.Outcome k)}
    {had : List (Shelf × Shelf)} (h : AllHad a session visits outs had) :
    ∃ numbers : List Nat, numbers.Pairwise (· < ·) ∧
      List.Forall₂ (fun n (t : Shelf × Shelf) => ∃ visit out, visits[n]? = some visit ∧
        outs[n]? = some out ∧
        visit.Effect a session (t.1.value a.name) (t.2.value a.name) out) numbers had ∧
      ∀ n out, outs[n]? = some (.ok out) → n ∈ numbers := by
  induction h with
  | nil => exact ⟨[], .nil, .nil, by simp⟩
  | @cons visit out had visits outs later hfirst _ ih =>
    obtain ⟨numbers, hsorted, hturns, hall⟩ := ih
    have hlater : List.Forall₂ (fun n (t : Shelf × Shelf) => ∃ v o, (visit :: visits)[n]? = some v ∧
        (out :: outs)[n]? = some o ∧ v.Effect a session (t.1.value a.name) (t.2.value a.name) o)
        (numbers.map (· + 1)) later := by
      rw [List.forall₂_map_left_iff]
      exact hturns.imp fun n t ht => by simpa using ht
    have hshifted : (numbers.map (· + 1)).Pairwise (· < ·) := by
      rw [List.pairwise_map]
      exact hsorted.imp fun h => Nat.succ_lt_succ h
    cases hfirst with
    | turned_away f hf =>
      refine ⟨numbers.map (· + 1), hshifted, hlater, ?_⟩
      intro n o hn
      cases n with
      | zero =>
        rw [hf] at hn
        cases Option.some.inj hn
      | succ n => exact List.mem_map.mpr ⟨n, hall n o hn, rfl⟩
    | turn before after heffect =>
      refine ⟨0 :: numbers.map (· + 1), ?_, .cons ⟨visit, out, rfl, rfl, heffect⟩ hlater, ?_⟩
      · rw [List.pairwise_cons]
        refine ⟨fun n hn => ?_, hshifted⟩
        obtain ⟨m, _, rfl⟩ := List.mem_map.mp hn
        exact Nat.succ_pos m
      · intro n o hn
        cases n with
        | zero => exact List.mem_cons_self
        | succ n => exact List.mem_cons_of_mem _ (List.mem_map.mpr ⟨n, hall n o hn, rfl⟩)

/-- Turns that are numbered thread by thread have a log. -/
theorem exists_log {R : ThreadId → Nat → Shelf × Shelf → Prop} (turns : List Turn)
    (numbers : ThreadId → List Nat) (h : ∀ i, List.Forall₂ (R i) (numbers i)
      ((turns.filter fun t => decide (t.thread = i)).map fun t => (t.before, t.after))) :
    ∃ log : List (ThreadId × Nat), log.map Prod.fst = turns.map Turn.thread ∧
      (∀ i, (log.filter fun e => decide (e.1 = i)).map Prod.snd = numbers i) ∧
      List.Forall₂ (fun e (t : Turn) => R e.1 e.2 (t.before, t.after)) log turns := by
  induction turns generalizing numbers with
  | nil =>
    refine ⟨[], rfl, fun i => ?_, .nil⟩
    have hi := h i
    rw [List.filter_nil, List.map_nil, List.forall₂_nil_right_iff] at hi
    exact hi.symm
  | cons t rest ih =>
    have hthread := h t.thread
    rw [List.filter_cons_of_pos (by simp), List.map_cons, List.forall₂_cons_right_iff] at hthread
    obtain ⟨n, later, hn, hlater, hnumbers⟩ := hthread
    have hrest : ∀ i, List.Forall₂ (R i) (Function.update numbers t.thread later i)
        ((rest.filter fun t => decide (t.thread = i)).map fun t => (t.before, t.after)) := by
      intro i
      by_cases hi : i = t.thread
      · rw [hi, Function.update_self]
        exact hlater
      · have hother := h i
        rw [List.filter_cons_of_neg (by simpa using Ne.symm hi)] at hother
        rw [Function.update_of_ne hi]
        exact hother
    obtain ⟨log, hfst, hsnd, hall⟩ := ih _ hrest
    refine ⟨(t.thread, n) :: log, by rw [List.map_cons, List.map_cons, hfst], fun i => ?_,
      .cons hn hall⟩
    by_cases hi : i = t.thread
    · rw [List.filter_cons_of_pos (by simp [hi]), List.map_cons, hsnd i, hi, Function.update_self,
        hnumbers]
    · rw [List.filter_cons_of_neg (by simpa using Ne.symm hi), hsnd i, Function.update_of_ne hi]

theorem filter_thread_eq_nil {turns : List Turn} {n : Nat} (hlt : ∀ t ∈ turns, t.thread < n)
    {i : ThreadId} (hi : n ≤ i) : (turns.filter fun t => decide (t.thread = i)) = [] := by
  rw [List.filter_eq_nil_iff]
  intro t ht hthread
  have hthere := hlt t ht
  rw [of_decide_eq_true hthread] at hthere
  exact absurd hthere (Nat.not_lt.mpr hi)

/-! ### The values -/

theorem Attribute.StartsFrom.eq_of_some {a : Attribute k} {session : SessionId} {d base : k.Data}
    (h : a.StartsFrom session (some (.of k d)) base) : d = base := by
  rcases h with h | ⟨h, _⟩
  · have has := congrArg (Option.bind · (Value.as? k)) h
    simpa using has
  · cases h

/-- Turns that follow one another carry the stored value along. -/
theorem Linked.values {a : Attribute k} {session : SessionId} {threads : List (List (Visit k))}
    {outs : List (List (Visit.Outcome k))} {log : List (ThreadId × Nat)}
    {turns : List Turn} (hlog : List.Forall₂ (fun (e : ThreadId × Nat) (t : Turn) =>
      ∃ visit out, threads[e.1]?.bind (·[e.2]?) = some visit ∧
        outs[e.1]?.bind (·[e.2]?) = some out ∧
        visit.Effect a session (t.before.value a.name) (t.after.value a.name) out) log turns)
    {first last : Shelf} (hlinked : Linked first last turns) :
    (committed threads outs log = [] → last.value a.name = first.value a.name) ∧
    (committed threads outs log ≠ [] → ∃ base d, a.StartsFrom session (first.value a.name) base ∧
      Edits.netAll (committed threads outs log) base = some d ∧
      last.value a.name = some (.of k d)) := by
  induction hlog generalizing first with
  | nil =>
    cases hlinked
    exact ⟨fun _ => rfl, fun h => absurd rfl h⟩
  | @cons e t log turns he _ ih =>
    obtain ⟨rfl, hlinked⟩ := hlinked
    obtain ⟨hsame, hchanged⟩ := ih hlinked
    obtain ⟨visit, out, hvisit, hout, heffect⟩ := he
    have hskip : t.after.value a.name = t.before.value a.name →
        committed threads outs (e :: log) = committed threads outs log →
        (committed threads outs (e :: log) = [] →
          last.value a.name = t.before.value a.name) ∧
        (committed threads outs (e :: log) ≠ [] →
          ∃ base d, a.StartsFrom session (t.before.value a.name) base ∧
            Edits.netAll (committed threads outs (e :: log)) base = some d ∧
            last.value a.name = some (.of k d)) := by
      intro hafter hrest
      rw [hrest, ← hafter]
      exact ⟨hsame, hchanged⟩
    cases out with
    | error f => exact hskip heffect (by simp [committed, hout])
    | ok o =>
      obtain ⟨base, hstarts, hnet, hafter⟩ := heffect
      cases o with
      | none => exact hskip hafter (by simp [committed, hout])
      | some d =>
        have hcons : committed threads outs (e :: log) =
            visit.edits :: committed threads outs log := by
          simp [committed, hout, hvisit]
        rw [hcons]
        refine ⟨fun h => absurd h (List.cons_ne_nil _ _), fun _ => ?_⟩
        rw [Option.map_some, Option.some_or] at hafter
        by_cases hrest : committed threads outs log = []
        · refine ⟨base, d, hstarts, ?_, (hsame hrest).trans hafter⟩
          rw [hrest, Edits.netAll, List.foldlM_cons, hnet]
          rfl
        · obtain ⟨base', l, hstarts', hall, hlast⟩ := hchanged hrest
          rw [hafter] at hstarts'
          refine ⟨base, l, hstarts, ?_, hlast⟩
          rw [Edits.netAll, List.foldlM_cons, hnet, ← hall, ← hstarts'.eq_of_some]
          rfl

/-! ### Every interleaving -/

/-- What a thread has to show for its visits. -/
def Visit.Over (a : Attribute k) (session : SessionId) (threads : List (List (Visit k)))
    (i : ThreadId) (out : Except Failure (List (Visit.Outcome k))) (v : View) :
    Prop :=
  v.inside = false ∧ ∃ outs, out = .ok outs ∧
    Visit.AllHad a session (threads[i]?.getD []) outs v.turns

theorem Visit.wp_over (a : Attribute k) (session : SessionId) (threads : List (List (Visit k)))
    (s : Shelf) (i : ThreadId) {r : Routine (List (Visit.Outcome k))}
    (hr : (threads.map (serveAll a session))[i]? = some r) :
    (a.site session).wp (Over a session threads i) r (.fresh s) := by
  rw [List.getElem?_map, Option.map_eq_some_iff] at hr
  obtain ⟨visits, hvisits, rfl⟩ := hr
  refine Site.wp_mono ?_ _ _ (Visit.wp_serveAll visits ⟨rfl, rfl⟩)
  rintro _ v ⟨hrest, outs, had, rfl, hturns, hall⟩
  refine ⟨by simp [View.inside, hrest.tickets_eq], outs, rfl, ?_⟩
  rw [hvisits, hturns]
  exact hall

theorem Visit.exists_outs {a : Attribute k} {session : SessionId} {threads : List (List (Visit k))}
    {results : List (Except Failure (List (Visit.Outcome k)))} {views : ThreadId → View}
    (hlength : results.length = threads.length)
    (hover : ∀ i out, results[i]? = some out → Over a session threads i out (views i)) :
    ∃ outs : List (List (Visit.Outcome k)), results = outs.map .ok ∧
      outs.map List.length = threads.map List.length ∧
      ∀ (i : ThreadId) os, outs[i]? = some os → ∃ visits, threads[i]? = some visits ∧
        AllHad a session visits os (views i).turns := by
  have hall : ∀ (i : ThreadId) out, results[i]? = some out → ∃ visits os,
      threads[i]? = some visits ∧ out = .ok os ∧ AllHad a session visits os (views i).turns := by
    intro i out hout
    obtain ⟨_, os, hos, hhad⟩ := hover i out hout
    have hi : i < threads.length := by
      rw [← hlength]
      exact (List.getElem?_eq_some_iff.mp hout).1
    have hvisits := List.getElem?_eq_getElem hi
    rw [hvisits] at hhad
    exact ⟨threads[i], os, hvisits, hos, hhad⟩
  have hresults : results = (results.map fun out => out.toOption.getD []).map .ok := by
    rw [List.map_map]
    refine ((List.map_congr_left fun out hout => ?_).trans (List.map_id _)).symm
    obtain ⟨i, hi⟩ := List.mem_iff_getElem?.mp hout
    obtain ⟨_, os, _, rfl, _⟩ := hall i out hi
    rfl
  have houts : ∀ (i : ThreadId) os, (results.map fun out => out.toOption.getD [])[i]? = some os →
      ∃ visits, threads[i]? = some visits ∧ AllHad a session visits os (views i).turns := by
    intro i os hos
    rw [List.getElem?_map, Option.map_eq_some_iff] at hos
    obtain ⟨out, hout, rfl⟩ := hos
    obtain ⟨visits, os, hvisits, rfl, hhad⟩ := hall i out hout
    exact ⟨visits, hvisits, hhad⟩
  refine ⟨_, hresults, ?_, houts⟩
  refine List.ext_getElem? fun i => ?_
  rw [List.getElem?_map, List.getElem?_map (l := threads)]
  cases hos : (results.map fun out => out.toOption.getD [])[i]? with
  | some os =>
    obtain ⟨visits, hvisits, hhad⟩ := houts i os hos
    rw [hvisits, Option.map_some, Option.map_some, hhad.length_eq]
  | none =>
    rw [List.getElem?_eq_none_iff, List.length_map, hlength, ← List.getElem?_eq_none_iff] at hos
    rw [hos]
    rfl

/-- **No lost updates.** Threads visit one session, in any interleaving. Once nobody can go on, all
visits are over, and the stored value is the first one, or else the value made for the first section
that committed, changed by the edits of the sections that committed and of no others, in the order
in which they got the lock. -/
theorem no_lost_updates (a : Attribute k) (session : SessionId) (w : World)
    (hidle : (w.locks a.table).Idle) (hcalm : (w.backend a.store).Calm)
    (threads : List (List (Visit k))) {order : List ThreadId}
    {m : Machine (List (Visit.Outcome k))}
    (hrun : (Machine.start w (threads.map (Visit.serveAll a session))).Run a.table session order m)
    (hended : m.Ended) :
    ∃ outs log, m.results = outs.map .ok ∧ outs.map List.length = threads.map List.length ∧
      Accounts a session threads outs order ((w.backend a.store).store.get? session a.name)
        ((m.world.backend a.store).store.get? session a.name) log := by
  obtain ⟨views, turns, hlength, hresults, hturns, hlinked, horder⟩ :=
    Machine.Run.linked (x := a.site session) hidle hcalm
      (fun i r hr => Visit.wp_over a session threads _ i hr) (fun _ _ _ h => h.1) hrun hended
  rw [List.length_map] at hlength
  obtain ⟨outs, houts, hlengths, hhad⟩ := Visit.exists_outs hlength hresults
  -- each thread's turns, numbered by its visits
  have hnumbers : ∀ i, ∃ numbers : List Nat, numbers.Pairwise (· < ·) ∧
      List.Forall₂ (fun n (t : Shelf × Shelf) => ∃ visit out,
        threads[i]?.bind (·[n]?) = some visit ∧ outs[i]?.bind (·[n]?) = some out ∧
        visit.Effect a session (t.1.value a.name) (t.2.value a.name) out) numbers
        ((turns.filter fun t => decide (t.thread = i)).map fun t => (t.before, t.after)) ∧
      ∀ n out, outs[i]?.bind (·[n]?) = some (.ok out) → n ∈ numbers := by
    intro i
    cases hos : outs[i]? with
    | some os =>
      obtain ⟨visits, hvisits, hall⟩ := hhad i os hos
      rw [hvisits, ← hturns i]
      exact hall.exists_numbers
    | none =>
      have hlt : ∀ t ∈ turns, t.thread < outs.length := by
        intro t ht
        have hthread := hrun.lt_length t.thread (horder ▸ List.mem_map_of_mem ht)
        have hsame := congrArg List.length hlengths
        rw [List.length_map, List.length_map] at hsame
        rw [hsame]
        simpa [Machine.start] using hthread
      rw [filter_thread_eq_nil hlt (List.getElem?_eq_none_iff.mp hos)]
      exact ⟨[], .nil, .nil, by simp⟩
  choose numbers hsorted hforall hmem using hnumbers
  obtain ⟨log, hfst, hsnd, hlog⟩ := exists_log turns numbers hforall
  obtain ⟨hsame, hchanged⟩ := Linked.values hlog hlinked
  refine ⟨outs, log, houts, hlengths, hfst.trans horder, ?_, ?_, hsame, hchanged⟩
  · intro i
    rw [hsnd i]
    exact hsorted i
  · intro i n out hout
    have hn := hmem i n out hout
    rw [← hsnd i] at hn
    obtain ⟨⟨j, n'⟩, he, rfl⟩ := List.mem_map.mp hn
    obtain ⟨he, hj⟩ := List.mem_filter.mp he
    rw [← of_decide_eq_true hj]
    exact he

def Visit.increment : Visit .json :=
  ⟨true, .copy fun n => .commit (Race.successor n) (.leave true)⟩

def Visit.incrementTwice : Visit .json :=
  ⟨false, .copy fun n => .commit (Race.successor n) (.copy fun n =>
    .commit (Race.successor n) (.leave false))⟩

/-- Two threads that take their actions in turn, one of which visits twice. -/
theorem no_lost_updates_counter :
    let threads : List (List (Visit .json)) := [[.increment, .increment], [.incrementTwice]]
    let m := (Machine.start Race.dawn (threads.map (Visit.serveAll Race.counter Race.arena))).follow
      (List.replicate 64 [0, 1]).flatten
    (Race.counted m.world Race.arena).any (fun n => n matches .num 4 0) = true ∧
      ∃ outs log order, m.results = outs.map .ok ∧
        Accounts Race.counter Race.arena threads outs order
          ((Race.dawn.backend Race.counter.store).store.get? Race.arena Race.counter.name)
          ((m.world.backend Race.counter.store).store.get? Race.arena Race.counter.name) log := by
  intro threads m
  obtain ⟨order, hrun⟩ := Machine.exists_run_follow Race.counter.table Race.arena
    (Machine.start Race.dawn (threads.map (Visit.serveAll Race.counter Race.arena)))
    (List.replicate 64 [0, 1]).flatten
  obtain ⟨outs, log, houts, _, haccounts⟩ := no_lost_updates Race.counter Race.arena Race.dawn
    (LockTable.idle_new _) ⟨fun _ _ => rfl, rfl⟩ threads hrun
    (Machine.ended_of_length (by decide +kernel))
  exact ⟨by decide +kernel, outs, log, order, houts, haccounts⟩

end SessionCart
