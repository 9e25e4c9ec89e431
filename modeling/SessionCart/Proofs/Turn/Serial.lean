import SessionCart.Proofs.Turn.Run

/-!
# One thread at a time

A thread that keeps to turns and is left alone gets through, so threads can be run one at a time,
each to its end, in any order. Where each has one turn, the turns are then in that order.
-/

namespace SessionCart

theorem Turn.Step.alone {i : ThreadId} {turns turns' : List Turn} {holder holder' : Option ThreadId}
    (hstep : Turn.Step i turns holder turns' holder') (hfree : ∀ j, holder = some j → j = i) :
    (∀ j, holder' = some j → j = i) ∧ ∃ n, turns'.map Turn.thread ++ holder'.toList =
      turns.map Turn.thread ++ holder.toList ++ List.replicate n i := by
  cases hstep with
  | stay => exact ⟨hfree, 0, by simp⟩
  | enter => exact ⟨fun j hj => (Option.some.inj hj).symm, 1, by simp⟩
  | leave => exact ⟨by simp, 0, by simp⟩

/-- A thread that is left alone gets through, and may have turns on the way. -/
theorem Tidy.run_alone {α : Type} {x : Site} {threads : Nat} {first : Shelf} {i : ThreadId}
    (hi : i < threads) {Q : Except Failure α → View → Prop} (r : Routine α) {w : World}
    {views : ThreadId → View} {turns : List Turn} {holder : Option ThreadId}
    (h : Tidy x threads first w views turns holder) (hfree : ∀ j, holder = some j → j = i)
    (hwp : x.wp Q r (views i)) :
    ∃ out w' v turns' holder' n, r.run true i w (views i).workspace = .finished out w' v.workspace ∧
      Q out v ∧ Tidy x threads first w' (Function.update views i v) turns' holder' ∧
      turns'.map Turn.thread ++ holder'.toList =
        turns.map Turn.thread ++ holder.toList ++ List.replicate n i := by
  induction r generalizing w views turns holder with
  | done a =>
    refine ⟨.ok a, w, views i, turns, holder, 0, rfl, hwp, ?_, (List.append_nil _).symm⟩
    rw [Function.update_eq_self]
    exact h
  | fail f =>
    refine ⟨.error f, w, views i, turns, holder, 0, rfl, hwp, ?_, (List.append_nil _).symm⟩
    rw [Function.update_eq_self]
    exact h
  | act a next ih =>
    cases a with
    | own a =>
      rw [Site.wp_own] at hwp
      have htidy : Tidy x threads first w
          (Function.update views i ((views i).work ((views i).workspace.perform a).2)) turns
          holder :=
        h.work ⟨h.sound, rfl⟩ rfl rfl rfl rfl rfl
      obtain ⟨out, w', v, turns', holder', n, hrun, hout, hlast, horder⟩ :=
        ih _ htidy hfree (by rwa [Function.update_self])
      rw [Function.update_self] at hrun
      rw [Function.update_idem] at hlast
      exact ⟨out, w', v, turns', holder', n, hrun, hout, hlast, horder⟩
    | world a =>
      rw [Site.wp_world] at hwp
      obtain ⟨reply, w₁, hperform⟩ := h.exists_perform hfree hwp
      obtain ⟨v₁, turns₁, holder₁, hnext, hworkspace, hstep, htidy⟩ := h.perform hi hwp hperform
      obtain ⟨hfree₁, n₁, horder₁⟩ := hstep.alone hfree
      obtain ⟨out, w', v, turns', holder', n, hrun, hout, hlast, horder⟩ :=
        ih reply htidy hfree₁ (by rwa [Function.update_self])
      rw [Function.update_self, hworkspace] at hrun
      rw [Function.update_idem] at hlast
      refine ⟨out, w', v, turns', holder', n₁ + n, ?_, hout, hlast, ?_⟩
      · rw [Routine.run, hperform]
        exact hrun
      · rw [horder, horder₁, List.append_assoc _ (List.replicate n₁ i),
          List.replicate_append_replicate]

namespace Orderly

variable {ρ : Type} {x : Site} {Q : ThreadId → Except Failure ρ → View → Prop} {first : Shelf}
  {m : Machine ρ} {views : ThreadId → View} {turns : List Turn}

theorem pursue (h : Orderly x Q first m views turns none)
    (hQ : ∀ i out v, Q i out v → v.inside = false) {i : ThreadId} (hi : i < m.strands.length) :
    ∃ v turns' out s n, Orderly x Q first (m.pursue i) (Function.update views i v) turns' none ∧
      (m.pursue i).strands = m.strands.set i s ∧ s.rest.outcome? = some out ∧
      turns'.map Turn.thread = turns.map Turn.thread ++ List.replicate n i := by
  have hs : m.strands[i]? = some m.strands[i] := List.getElem?_eq_getElem hi
  obtain ⟨out, w', v, turns', holder', n, hrun, hout, htidy, horder⟩ :=
    h.tidy.run_alone hi m.strands[i].rest (by simp) (h.keeps i _ hs)
  rw [h.workspace_eq i _ hs] at hrun
  have hnone : holder' = none := by
    cases hholder : holder' with
    | none => rfl
    | some j =>
      have hinside := (htidy.inside_iff j).mpr hholder
      by_cases hj : j = i
      · rw [hj, Function.update_self, hQ i out v hout] at hinside
        cases hinside
      · rw [Function.update_of_ne hj] at hinside
        cases (h.tidy.inside_iff j).mp hinside
  rw [hnone] at htidy horder
  have hturns : turns'.map Turn.thread = turns.map Turn.thread ++ List.replicate n i := by
    simpa using horder
  cases out with
  | ok a =>
    have hpursue : m.pursue i = ⟨w', m.strands.set i ⟨v.workspace, .done a⟩⟩ := by
      simp only [Machine.pursue, hs, hrun]
    rw [hpursue]
    exact ⟨v, turns', .ok a, _, n, h.set htidy hout, rfl, rfl, hturns⟩
  | error f =>
    have hpursue : m.pursue i = ⟨w', m.strands.set i ⟨v.workspace, .fail f⟩⟩ := by
      simp only [Machine.pursue, hs, hrun]
    rw [hpursue]
    exact ⟨v, turns', .error f, _, n, h.set htidy hout, rfl, rfl, hturns⟩

/-- Threads with one turn each are run to their ends, one after another. -/
theorem foldl_pursue (h : Orderly x Q first m views turns none)
    (hQ : ∀ i out v, Q i out v → v.inside = false ∧ v.turns.length = 1) (order : List ThreadId)
    (hnodup : (turns.map Turn.thread ++ order).Nodup) (hlt : ∀ i ∈ order, i < m.strands.length) :
    ∃ views' turns', Orderly x Q first (order.foldl Machine.pursue m) views' turns' none ∧
      turns'.map Turn.thread = turns.map Turn.thread ++ order ∧
      (order.foldl Machine.pursue m).strands.length = m.strands.length ∧
      (∀ i, i ∉ order → (order.foldl Machine.pursue m).strands[i]? = m.strands[i]?) ∧
      ∀ i ∈ order, ∃ s out, (order.foldl Machine.pursue m).strands[i]? = some s ∧
        s.rest.outcome? = some out := by
  induction order generalizing m views turns with
  | nil => exact ⟨views, turns, h, (List.append_nil _).symm, rfl, fun _ _ => rfl, by simp⟩
  | cons i rest ih =>
    obtain ⟨v, turns₁, out, s, n, h₁, hstrands, hout, hturns₁⟩ :=
      h.pursue (fun i out v h => (hQ i out v h).1) (hlt i List.mem_cons_self)
    have hi : (m.pursue i).strands[i]? = some s := by
      rw [hstrands, List.getElem?_set_self (hlt i List.mem_cons_self)]
    -- the thread has had one turn, and all of its turns are among those that were added
    have hn : n = 1 := by
      have hone := (hQ i out _ (h₁.outcome_of_keeps hi hout)).2
      have hbefore : i ∉ turns.map Turn.thread := fun hmem =>
        (List.nodup_append.mp hnodup).2.2 i hmem i List.mem_cons_self rfl
      have hcount := congrArg (List.count i) hturns₁
      rw [List.count_append, List.count_eq_zero.mpr hbefore, List.count_replicate_self,
        Nat.zero_add, List.count_eq_countP, List.countP_map, List.countP_eq_length_filter] at hcount
      rw [h₁.tidy.turns_eq i, List.length_map] at hone
      rw [← hcount, ← hone]
      congr 1
    rw [hn, List.replicate_one] at hturns₁
    have hlength : (m.pursue i).strands.length = m.strands.length := by
      rw [hstrands, List.length_set]
    obtain ⟨views', turns', h', hturns', hlength', hsame, hdone⟩ := ih h₁
      (by rw [hturns₁, List.append_assoc]; exact hnodup)
      (fun j hj => hlength.symm ▸ hlt j (List.mem_cons_of_mem i hj))
    have hi' : i ∉ rest := (List.nodup_cons.mp (List.nodup_append.mp hnodup).2.1).1
    refine ⟨views', turns', h', ?_, hlength'.trans hlength, fun j hj => ?_, fun j hj => ?_⟩
    · rw [hturns', hturns₁, List.append_assoc]
      rfl
    · rw [List.mem_cons, not_or] at hj
      rw [List.foldl_cons, hsame j hj.2, hstrands, List.getElem?_set_ne (Ne.symm hj.1)]
    · rcases List.mem_cons.mp hj with rfl | hj
      · exact ⟨s, out, (hsame j hi').trans hi, hout⟩
      · exact hdone j hj

end Orderly

end SessionCart
