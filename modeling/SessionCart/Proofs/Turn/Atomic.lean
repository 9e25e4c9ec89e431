import SessionCart.Proofs.Turn.Serial

/-!
# Threads of one turn each

Where each thread has one turn, and what it does there and how it ends depends only on what it
finds, the threads do the same in any interleaving as they would do one at a time, in the order in
which they got the lock.
-/

namespace SessionCart

section Sequence

variable {ρ σ : Type} (look : Shelf → σ) (effect : ThreadId → σ → Except Failure ρ × σ)

/-- A thread is through with one turn, of which its effect tells the outcome and what is seen of the
shelf afterwards. -/
def View.Atomic (effect : σ → Except Failure ρ × σ) (out : Except Failure ρ) (v : View) : Prop :=
  v.inside = false ∧ ∃ before after, v.turns = [(before, after)] ∧
    effect (look before) = (out, look after)

/-- The effects of threads, one after another: their outcomes, and what is seen in the end. -/
def sequence : List ThreadId → σ → List (Except Failure ρ) × σ
  | [], s => ([], s)
  | i :: rest, s =>
    ((effect i s).1 :: (sequence rest (effect i s).2).1, (sequence rest (effect i s).2).2)

variable {look effect}

theorem Linked.sequence_eq {first last : Shelf} {turns : List Turn}
    (hlinked : Linked first last turns)
    (look : Shelf → σ) (effect : ThreadId → σ → Except Failure ρ × σ)
    (out : ThreadId → Option (Except Failure ρ))
    (hturns : ∀ t ∈ turns, ∃ o, out t.thread = some o ∧
      effect t.thread (look t.before) = (o, look t.after)) :
    (sequence effect (turns.map Turn.thread) (look first)).1.map some =
        (turns.map Turn.thread).map out ∧
      (sequence effect (turns.map Turn.thread) (look first)).2 = look last := by
  induction turns generalizing first with
  | nil => exact ⟨rfl, congrArg look hlinked⟩
  | cons t rest ih =>
    obtain ⟨rfl, hlinked⟩ := hlinked
    obtain ⟨o, ho, heffect⟩ := hturns t List.mem_cons_self
    obtain ⟨houts, hlast⟩ := ih hlinked fun t' ht' => hturns t' (List.mem_cons_of_mem t ht')
    simp only [List.map_cons, sequence, heffect, ho]
    exact ⟨congrArg _ houts, hlast⟩

theorem perm_range_of_count {order : List ThreadId} {threads : Nat} (hlt : ∀ i ∈ order, i < threads)
    (hcount : ∀ i, i < threads → order.count i = 1) : order.Perm (List.range threads) := by
  refine (List.perm_ext_iff_of_nodup ?_ List.nodup_range).mpr fun i => ?_
  · rw [List.nodup_iff_count_le_one]
    intro i
    by_cases hi : i < threads
    · exact (hcount i hi).le
    · rw [List.count_eq_zero.mpr fun hmem => hi (hlt i hmem)]
      exact Nat.zero_le 1
  · rw [List.mem_range]
    refine ⟨hlt i, fun hi => ?_⟩
    rw [← List.count_pos_iff, hcount i hi]
    exact Nat.one_pos

/-- What is known of threads of one turn each once all of them are through. -/
structure Through (look : Shelf → σ) (effect : ThreadId → σ → Except Failure ρ × σ) (threads : Nat)
    (order : List ThreadId) (first last : Shelf) (results : List (Except Failure ρ)) : Prop where
  length_eq : results.length = threads
  outs_eq : (sequence effect order (look first)).1.map some = order.map (results[·]?)
  last_eq : (sequence effect order (look first)).2 = look last
  order_perm : order.Perm (List.range threads)

theorem Through.of_linked {threads : Nat} {first last : Shelf} {results : List (Except Failure ρ)}
    {turns : List Turn} {views : ThreadId → View} (hlength : results.length = threads)
    (hresults : ∀ i out, results[i]? = some out → (views i).Atomic look (effect i) out)
    (hturns : ∀ i, (views i).turns =
      (turns.filter fun t => decide (t.thread = i)).map fun t => (t.before, t.after))
    (hlinked : Linked first last turns) (hlt : ∀ i ∈ turns.map Turn.thread, i < threads) :
    Through look effect threads (turns.map Turn.thread) first last results := by
  have hone : ∀ i, i < threads → ∃ out before after, results[i]? = some out ∧
      ((turns.filter fun t => decide (t.thread = i)).map fun t => (t.before, t.after)) =
        [(before, after)] ∧ effect i (look before) = (out, look after) := by
    intro i hi
    rw [← hlength] at hi
    have hout := List.getElem?_eq_getElem hi
    obtain ⟨_, before, after, hviews, heffect⟩ := hresults i _ hout
    exact ⟨_, before, after, hout, (hturns i).symm.trans hviews, heffect⟩
  have hsequence := hlinked.sequence_eq look effect (results[·]?) <| by
    intro t ht
    obtain ⟨out, before, after, hout, honly, heffect⟩ :=
      hone t.thread (hlt _ (List.mem_map_of_mem ht))
    have hmem : (t.before, t.after) ∈ [(before, after)] := by
      rw [← honly]
      exact List.mem_map_of_mem (List.mem_filter.mpr ⟨ht, by simp⟩)
    rw [List.mem_singleton, Prod.mk.injEq] at hmem
    obtain ⟨rfl, rfl⟩ := hmem
    exact ⟨out, hout, heffect⟩
  have hcount : ∀ i, i < threads → (turns.map Turn.thread).count i = 1 := by
    intro i hi
    obtain ⟨_, _, _, _, honly, _⟩ := hone i hi
    have hlength := congrArg List.length honly
    rw [List.length_map] at hlength
    rw [List.count_eq_countP, List.countP_map, List.countP_eq_length_filter]
    exact hlength
  exact ⟨hlength, hsequence.1, hsequence.2, perm_range_of_count hlt hcount⟩

/-- The order determines how the threads end and what is seen then. -/
theorem Through.unique {threads : Nat} {order : List ThreadId} {first last last' : Shelf}
    {results results' : List (Except Failure ρ)}
    (h : Through look effect threads order first last results)
    (h' : Through look effect threads order first last' results') :
    results = results' ∧ look last = look last' := by
  refine ⟨List.ext_getElem? fun i => ?_, h.last_eq.symm.trans h'.last_eq⟩
  by_cases hi : i < threads
  · have hmem : i ∈ order := h.order_perm.mem_iff.mpr (List.mem_range.mpr hi)
    exact List.map_inj_left.mp (h.outs_eq.symm.trans h'.outs_eq) i hmem
  · rw [List.getElem?_eq_none (h.length_eq ▸ Nat.not_lt.mp hi),
      List.getElem?_eq_none (h'.length_eq ▸ Nat.not_lt.mp hi)]

end Sequence

section Machine

variable {ρ σ : Type} {x : Site} {look : Shelf → σ} {effect : ThreadId → σ → Except Failure ρ × σ}
  {w : World} {routines : List (Routine ρ)} (hidle : (w.locks x.table).Idle)
  (hcalm : (w.backend x.store).Calm)
  (hatomic : ∀ i r, routines[i]? = some r →
    x.wp (fun out v => v.Atomic look (effect i) out) r (.fresh (x.shelf w)))

include hidle hcalm hatomic

theorem Machine.Run.through {order : List ThreadId} {m : Machine ρ}
    (hrun : (Machine.start w routines).Run x.table x.session order m) (hended : m.Ended) :
    Through look effect routines.length order (x.shelf w) (x.shelf m.world) m.results := by
  obtain ⟨views, turns, hlength, hresults, hturns, hlinked, rfl⟩ :=
    Machine.Run.linked hidle hcalm hatomic (fun _ _ _ h => h.1) hrun hended
  refine .of_linked hlength hresults hturns hlinked fun i hi => ?_
  have hlt := hrun.lt_length i hi
  rwa [Machine.start, List.length_map] at hlt

theorem Through.foldl_pursue (order : List ThreadId)
    (horder : order.Perm (List.range routines.length)) :
    Through look effect routines.length order (x.shelf w)
      (x.shelf (order.foldl Machine.pursue (.start w routines)).world)
      (order.foldl Machine.pursue (.start w routines)).results := by
  have hstrands : (Machine.start w routines).strands.length = routines.length := List.length_map ..
  have hlt : ∀ i ∈ order, i < routines.length := fun i hi =>
    List.mem_range.mp (horder.mem_iff.mp hi)
  obtain ⟨views, turns, h, rfl, hlength, _, hdone⟩ :=
    (Orderly.start hidle hcalm hatomic).foldl_pursue
      (fun i out v ⟨houtside, _, _, hturns, _⟩ => ⟨houtside, by rw [hturns]; rfl⟩)
      order (horder.nodup_iff.mpr List.nodup_range) (fun i hi => hstrands.symm ▸ hlt i hi)
  obtain ⟨hresults, houts⟩ := Machine.results_getElem? fun i s hs => by
    have hi := Machine.lt_of_getElem? hs
    rw [hlength, hstrands] at hi
    obtain ⟨s', out, hs', hout⟩ := hdone i (horder.mem_iff.mpr (List.mem_range.mpr hi))
    rw [hs] at hs'
    exact ⟨out, Option.some.inj hs' ▸ hout⟩
  refine .of_linked (hresults.trans (hlength.trans hstrands)) (fun i out hout => ?_)
    h.tidy.turns_eq h.tidy.linked hlt
  obtain ⟨s, hs, hout⟩ := houts i out hout
  exact h.outcome_of_keeps hs hout

end Machine

end SessionCart
