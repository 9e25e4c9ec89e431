import SessionCart.Proofs.Section.Rules
import SessionCart.Proofs.Thread.Attribute

/-!
# Sections in company

What opening, using and closing a section does to the grip of a thread, whoever else is at work and
whichever call of a backend fails. A section that cannot be opened leaves the thread as it was.
-/

namespace SessionCart

theorem Workspace.outline_record (l : Workspace) (d : DraftId) (value : Option Value) :
    (l.record d value).outline = l.outline := map_editDraft l d _ fun _ => rfl

namespace Company

variable {C : Company} {k : Kind} {a : Attribute k} {r : RequestRef} {g : Grip}

/-! ### What a section starts from -/

theorem wp_settle_found {Q : Except Failure (Option k.Data) → Grip → Prop} {policy : ReadPolicy}
    {cached stored : Option Value} {c : Option k.Data} {d : k.Data} (creating : Bool)
    (hcache : (g.workspace.cached r).value a.name = cached)
    (hcached : k.decode r.session a.name cached = .ok c)
    (hfound : k.finds r.session a.name policy cached stored = .ok (some d))
    (h : Q (.ok (some d)) (g.work (g.workspace.fill r a.name stored))) :
    C.logic.wp Q (a.settle r creating .all c (some d)) g := by
  subst hcache
  cases c with
  | some d' =>
    rw [Workspace.fill_of_some (Kind.decode_eq_some hcached)] at h
    exact h
  | none =>
    rw [Kind.finds_of_decode_none hcached] at hfound
    rw [Kind.decode_eq_some hfound, Workspace.fill_of_none (Kind.decode_eq_none hcached)] at h
    exact h

/-- A read that looks into storage first and makes nothing. What is found is cached, unless
something is. -/
theorem wp_find {Q : Except Failure (Option k.Data) → Grip → Prop}
    (hfault : ∀ fault g₁, C.Drift g g₁ → Q (.error (.error (.storage fault))) g₁)
    (h : ∀ g₁ g₂, C.Drift g g₁ → C.Drift g₁ g₂ →
      match k.finds r.session a.name .sessionFirst ((g.workspace.request r.id).get? a.name)
        (g₁.stored a r) with
      | .error e => Q (.error (.error e)) g₂
      | .ok found => Q (.ok found) (g₂.work (g.workspace.fill r a.name (g₁.stored a r)))) :
    C.logic.wp Q (a.read r .sessionFirst false .all) g := by
  rw [Attribute.read_eq, Logic.wp_bind]
  refine wp_cached ?_
  cases hcached : k.decode r.session a.name ((g.workspace.request r.id).get? a.name) with
  | error e =>
    have hnow := h g g (.refl C g) (.refl C g)
    simp only [Kind.finds, hcached] at hnow
    exact hnow
  | ok c =>
    change C.logic.wp Q (Attribute.look r .sessionFirst c >>= a.settle r false .all c) g
    rw [Logic.wp_bind, Attribute.look, Logic.wp_bind]
    refine wp_stored hfault fun g₁ g₂ h₁ h₂ => ?_
    have hnow := h g₁ g₂ h₁ h₂
    cases hstored : k.decode r.session a.name (g₁.stored a r) with
    | error e =>
      simp only [Kind.finds, hcached, hstored, Except.map] at hnow
      exact hnow
    | ok found =>
      have hfinds : k.finds r.session a.name .sessionFirst
          ((g.workspace.request r.id).get? a.name) (g₁.stored a r) = .ok (found.or c) := by
        simp only [Kind.finds, hcached, hstored, Except.map]
      rw [hfinds] at hnow
      change C.logic.wp Q (a.settle r false .all c (found.or c)) g₂
      cases hor : found.or c with
      | some d =>
        rw [hor] at hnow hfinds
        have hworkspace := h₂.workspace_eq.trans h₁.workspace_eq
        refine wp_settle_found false ?_ hcached hfinds ?_
        · rw [hworkspace]
          rfl
        · rw [hworkspace]
          exact hnow
      | none =>
        rw [hor] at hnow hfinds
        have hworkspace := h₂.workspace_eq.trans h₁.workspace_eq
        rw [(Kind.finds_eq_none hfinds).2, Workspace.fill_none, ← hworkspace] at hnow
        exact hnow

theorem wp_pick {Q : Except Failure k.Data → Grip → Prop}
    (hfault : ∀ fault g₁, C.Drift g g₁ → Q (.error (.error (.storage fault))) g₁)
    (hfail : ∀ g₁ g₂ n f, C.Drift g g₁ → C.Drift g₁ g₂ →
      a.opening r.session n (g.workspace.request r.id) (g₁.stored a r) = .error f →
      Q (.error f) g₂)
    (h : ∀ g₁ g₂ n d, C.Drift g g₁ → C.Drift g₁ g₂ →
      a.opening r.session n (g.workspace.request r.id) (g₁.stored a r) = .ok d →
      Q (.ok d) (g₂.work (g.workspace.fill r a.name (g₁.stored a r)))) :
    C.logic.wp Q (a.pick r) g := by
  rw [Attribute.pick, Logic.wp_bind]
  refine wp_find hfault fun g₁ g₂ h₁ h₂ => ?_
  cases hfinds : k.finds r.session a.name .sessionFirst ((g.workspace.request r.id).get? a.name)
    (g₁.stored a r) with
  | error e => exact hfail g₁ g₂ 0 _ h₁ h₂ (by rw [Attribute.opening, hfinds])
  | ok found =>
    cases found with
    | some d => exact h g₁ g₂ 0 d h₁ h₂ (by rw [Attribute.opening, hfinds])
    | none =>
      have hmissing := (Kind.finds_eq_none hfinds).2
      have hfill : g.workspace.fill r a.name (g₁.stored a r) = g.workspace := by
        rw [hmissing, Workspace.fill_none]
      have hsame : g₂.work g.workspace = g₂ := by
        rw [← h₁.workspace_eq, ← h₂.workspace_eq]
        rfl
      dsimp only
      rw [hfill, hsame]
      refine wp_create fun n g₃ h₃ => ?_
      rw [h₂.workspace_eq, h₁.workspace_eq]
      have hopening : a.opening r.session n (g.workspace.request r.id) (g₁.stored a r) =
          (a.make n (g.workspace.request r.id)).mapError .panic := by
        rw [Attribute.opening, hfinds]
      cases hmake : a.make n (g.workspace.request r.id) with
      | error p => exact hfail g₁ g₃ n _ h₁ (h₂.trans h₃) (by rw [hopening, hmake]; rfl)
      | ok d =>
        have hlast := h g₁ g₃ n d h₁ (h₂.trans h₃) (by rw [hopening, hmake]; rfl)
        rw [hfill] at hlast
        have hsame' : g₃.work g.workspace = g₃ := by
          rw [← h₁.workspace_eq, ← h₂.workspace_eq, ← h₃.workspace_eq]
          rfl
        rwa [hsame'] at hlast

/-! ### Opening -/

/-- Opening a section: it joins the open one, or does not get the lock, or is refused by storage, or
has no value to start from, or gets the lock and a value. -/
theorem wp_start_exact {Q : Except Failure (Section k) → Grip → Prop}
    (hjoined : ∀ d, g.workspace.openDraft? k r.session a.name = some d →
      Q (.ok ⟨a, r, d, none⟩) g)
    (hexpired : g.workspace.openDraft? k r.session a.name = none →
      ∀ limit g₁, C.Drift g g₁ → Q (.error (.error (.lockTimeout r.session limit))) g₁)
    (hfault : g.workspace.openDraft? k r.session a.name = none →
      ∀ fault g₁, C.Drift g g₁ → Q (.error (.error (.storage fault))) g₁)
    (hfail : g.workspace.openDraft? k r.session a.name = none →
      ∀ key g₁ g₂ g₃ n f, C.Drift g g₁ → C.Drift (g₁.take ⟨a.table, r.session, key⟩) g₂ →
      C.Drift g g₃ →
      a.opening r.session n (g.workspace.request r.id) (g₂.stored a r) = .error f →
      Q (.error f) g₃)
    (hopened : g.workspace.openDraft? k r.session a.name = none →
      ∀ key g₁ g₂ g₃ n d, C.Drift g g₁ → (∀ e ∈ g₁.tickets, e.1 ≠ ⟨a.table, r.session, key⟩) →
      C.Drift (g₁.take ⟨a.table, r.session, key⟩) g₂ → C.Drift g₂ g₃ →
      a.opening r.session n (g.workspace.request r.id) (g₂.stored a r) = .ok d →
      Q (.ok ⟨a, r, g.workspace.drafts.length, some ⟨a.table, r.session, key⟩⟩)
        (g₃.work ((g.workspace.fill r a.name (g₂.stored a r)).opened k r a.name (.of k d)))) :
    C.logic.wp Q (Section.start a r) g := by
  rw [Section.start_eq, Logic.wp_bind]
  refine wp_openDraft ?_
  dsimp only
  cases hopen : g.workspace.openDraft? k r.session a.name with
  | some d => exact hjoined d hopen
  | none =>
    dsimp only
    rw [Logic.wp_bind]
    refine wp_acquire (fun _ g₁ h₁ => hexpired hopen _ g₁ h₁) fun key g₁ h₁ hfresh => ?_
    have hworkspace : (g₁.take ⟨a.table, r.session, key⟩).workspace = g.workspace :=
      h₁.workspace_eq
    -- whatever failure it is, the lock is given back
    have hdrop : ∀ {P : Except Failure Unit → Grip → Prop} g₂,
        C.Drift (g₁.take ⟨a.table, r.session, key⟩) g₂ → (∀ g₃, C.Drift g g₃ → P (.ok ()) g₃) →
        C.logic.wp P (Hold.drop ⟨a.table, r.session, key⟩) g₂ := by
      intro P g₂ h₂ hP
      have hmem : (⟨a.table, r.session, key⟩, true) ∈ g₂.tickets := by
        rw [h₂.tickets_eq]
        simp [Grip.take]
      exact wp_drop hmem fun g₃ h₃ => hP _ (h₁.trans (.leave_take hfresh (h₂.trans h₃)))
    dsimp only
    rw [Logic.wp_onFailure, Logic.wp_bind]
    refine wp_pick (fun fault g₂ h₂ => ?_) (fun g₂ g₃ n f h₂ h₃ hopening => ?_)
      fun g₂ g₃ n d h₂ h₃ hopening => ?_
    · exact hdrop g₂ h₂ (hfault hopen fault)
    · rw [hworkspace] at hopening
      exact hdrop g₃ (h₂.trans h₃) fun g₄ h₄ => hfail hopen key g₁ g₂ g₄ n f h₁ h₂ h₄ hopening
    · rw [hworkspace] at hopening ⊢
      have hlast := hopened hopen key g₁ g₂ g₃ n d h₁ hfresh h₂ h₃ hopening
      rw [← Workspace.drafts_fill g.workspace r a.name (g₂.stored a r)] at hlast
      exact hlast

/-- Opening a section: it joins the open one, or fails, or gets the lock and a value to start
from. -/
theorem wp_start {Q : Except Failure (Section k) → Grip → Prop}
    (hjoined : ∀ d, g.workspace.openDraft? k r.session a.name = some d →
      Q (.ok ⟨a, r, d, none⟩) g)
    (hfail : g.workspace.openDraft? k r.session a.name = none →
      ∀ f g₁, C.Drift g g₁ → Q (.error f) g₁)
    (hopened : g.workspace.openDraft? k r.session a.name = none →
      ∀ key g₁ g₂ g₃ n d, C.Drift g g₁ → (∀ e ∈ g₁.tickets, e.1 ≠ ⟨a.table, r.session, key⟩) →
      C.Drift (g₁.take ⟨a.table, r.session, key⟩) g₂ → C.Drift g₂ g₃ →
      a.opening r.session n (g.workspace.request r.id) (g₂.stored a r) = .ok d →
      Q (.ok ⟨a, r, g.workspace.drafts.length, some ⟨a.table, r.session, key⟩⟩)
        (g₃.work ((g.workspace.fill r a.name (g₂.stored a r)).opened k r a.name (.of k d)))) :
    C.logic.wp Q (Section.start a r) g :=
  wp_start_exact hjoined (fun hopen _ g₁ h₁ => hfail hopen _ g₁ h₁)
    (fun hopen _ g₁ h₁ => hfail hopen _ g₁ h₁)
    (fun hopen _ _ _ g₃ _ f _ _ h₃ _ => hfail hopen f g₃ h₃) hopened

/-! ### Using and closing -/

variable {s : Section k}

theorem wp_copy {Q : Except Failure k.Data → Grip → Prop}
    (h : ∀ out g₁, C.Drift (g.work (g.workspace.editDraft s.draft fun e =>
      { e with copies := e.copies + 1 })) g₁ → Q out g₁) : C.logic.wp Q s.copy g := by
  rw [Section.copy, Logic.wp_bind]
  refine wp_handOut ?_
  dsimp only
  rw [Logic.wp_bind]
  refine wp_draft ?_
  dsimp only
  split
  · exact h _ _ (.refl C _)
  · exact wp_create fun _ g₁ h₁ => h _ g₁ h₁

theorem wp_copy_working {Q : Except Failure k.Data → Grip → Prop} {value : k.Data}
    {committed : Bool} (hw : s.Working g.workspace value committed)
    (h : Q (.ok value) (g.work (g.workspace.editDraft s.draft fun e =>
      { e with copies := e.copies + 1 }))) : C.logic.wp Q s.copy g := by
  obtain ⟨e, he, _, hcurrent, _⟩ := hw.handOut.draft_eq
  rw [Section.copy, Logic.wp_bind]
  refine wp_handOut ?_
  dsimp only
  rw [Logic.wp_bind]
  refine wp_draft ?_
  dsimp only [Grip.work]
  rw [Workspace.draft_eq he, hcurrent, Option.bind_some, Value.as?_of]
  exact h

theorem wp_discard {Q : Except Failure Unit → Grip → Prop}
    (h : Q (.ok ()) (g.work (g.workspace.editDraft s.draft fun e =>
      { e with discarded := true }))) : C.logic.wp Q s.discard g := h

/-- A commit through a section: too late, or refused by storage, or made. -/
theorem wp_section_commit {Q : Except Failure k.Data → Grip → Prop} {value : k.Data}
    (hclosed : (g.workspace.draft s.draft).closed = true →
      Q (.error (.error (.sectionClosed s.request.session s.subject.name))) g)
    (hfault : (g.workspace.draft s.draft).closed = false → ∀ fault g₁, C.Drift g g₁ →
      Q (.error (.error (.storage fault))) g₁)
    (hdone : (g.workspace.draft s.draft).closed = false → ∀ g₁, C.Drift g g₁ →
      Q (.ok value) ((g₁.put s.subject.store s.request.session
        ((g₁.storage s.subject.store s.request.session).assign s.subject.name
          (some (.of k value)))).work
          ((g.workspace.wrote s.request s.subject.name .all (some (.of k value))).record s.draft
            (some (.of k value))))) :
    C.logic.wp Q (s.commit value) g := by
  rw [Section.commit, Logic.wp_bind]
  exact wp_commit hclosed hfault hdone

/-- Closing does nothing to a section that joined another one or is closed. It takes the draft of an
open one out of the table and gives the lock back. -/
theorem wp_finish {Q : Except Failure Bool → Grip → Prop}
    (hdone : s.hold = none ∨ (g.workspace.draft s.draft).closed = true → Q (.ok false) g)
    (hopen : ∀ hold, s.hold = some hold → (g.workspace.draft s.draft).closed = false →
      (∃ held, (hold, held) ∈ g.tickets) ∧ ∀ g₁, C.Drift g g₁ →
        Q (.ok ((g.workspace.draft s.draft).isAbandoned && s.subject.settings.strictCommit))
          ((g₁.leave hold).work (s.closing g.workspace))) :
    C.logic.wp Q s.finish g := by
  rw [Section.finish]
  cases hhold : s.hold with
  | none => exact hdone (.inl hhold)
  | some hold =>
    change C.logic.wp Q (if (g.workspace.draft s.draft).closed = true then _ else _) g
    cases hclosed : (g.workspace.draft s.draft).closed with
    | true =>
      rw [if_pos rfl]
      exact hdone (.inr hclosed)
    | false =>
      obtain ⟨⟨held, hmem⟩, hlast⟩ := hopen hold hhold hclosed
      rw [if_neg (by decide)]
      change C.logic.wp Q (hold.drop >>= fun _ => Routine.done _)
        (g.work (s.closing g.workspace))
      rw [Logic.wp_bind]
      refine wp_drop hmem fun g₁ h₁ => ?_
      have hleft := hlast (g₁.work g.workspace) (h₁.work g.workspace)
      have hsame : g₁.work (s.closing g.workspace) = g₁ := by
        rw [← show g₁.workspace = s.closing g.workspace from h₁.workspace_eq]
        rfl
      rw [← hsame]
      exact hleft

/-- As far as the thread is concerned it is the same whether a section is closed or dropped,
whatever is said of abandoned copies. -/
theorem wp_close {Q : Except Failure Unit → Grip → Prop} {closing : Routine Unit}
    (hclosing : closing = s.close ∨ closing = s.drop)
    (hdone : s.hold = none ∨ (g.workspace.draft s.draft).closed = true → Q (.ok ()) g)
    (hopen : ∀ hold, s.hold = some hold → (g.workspace.draft s.draft).closed = false →
      (∃ held, (hold, held) ∈ g.tickets) ∧ ∀ out g₁, C.Drift g g₁ →
        Q out ((g₁.leave hold).work (s.closing g.workspace))) :
    C.logic.wp Q closing g := by
  rcases hclosing with rfl | rfl
  · rw [Section.close, Logic.wp_bind]
    refine wp_finish hdone fun hold hhold hclosed => ?_
    obtain ⟨hmem, hlast⟩ := hopen hold hhold hclosed
    refine ⟨hmem, fun g₁ h₁ => ?_⟩
    cases (g.workspace.draft s.draft).isAbandoned && s.subject.settings.strictCommit with
    | false => exact hlast (.ok ()) g₁ h₁
    | true => exact hlast (.error _) g₁ h₁
  · rw [Section.drop, Logic.wp_bind]
    refine wp_finish hdone fun hold hhold hclosed => ?_
    obtain ⟨hmem, hlast⟩ := hopen hold hhold hclosed
    exact ⟨hmem, hlast (.ok ())⟩

/-! ### An open section -/

section Working

variable {value : k.Data} {committed : Bool} (hw : s.Working g.workspace value committed)

include hw

theorem closed_working : (g.workspace.draft s.draft).closed = false := by
  obtain ⟨e, he, _, _, hclosed, _⟩ := hw.draft_eq
  rw [Workspace.draft_eq he, hclosed]

theorem wp_commit_working {Q : Except Failure k.Data → Grip → Prop} {next : k.Data}
    (hfault : ∀ fault g₁, C.Drift g g₁ → Q (.error (.error (.storage fault))) g₁)
    (hdone : ∀ g₁, C.Drift g g₁ →
      Q (.ok next) ((g₁.put s.subject.store s.request.session
        ((g₁.storage s.subject.store s.request.session).set s.subject.name (.of k next))).work
          ((g.workspace.wrote s.request s.subject.name .all (some (.of k next))).record s.draft
            (some (.of k next))))) :
    C.logic.wp Q (s.commit next) g := by
  refine wp_section_commit (fun hclosed => ?_) (fun _ => hfault) fun _ => hdone
  rw [closed_working hw] at hclosed
  cases hclosed

variable {hold : Hold} (hhold : s.hold = some hold) (hmem : (hold, true) ∈ g.tickets)

include hhold hmem

/-- Copies are abandoned in an open section only if nothing was committed. -/
theorem wp_finish_working {Q : Except Failure Bool → Grip → Prop}
    (h : ∀ abandoned, (committed = true → abandoned = false) → ∀ g₁, C.Drift g g₁ →
      Q (.ok abandoned) ((g₁.leave hold).work (s.closing g.workspace))) :
    C.logic.wp Q s.finish g := by
  refine wp_finish (fun hdone => ?_) fun hold' hhold' _ => ?_
  · rw [hhold, closed_working hw] at hdone
    simp at hdone
  · rw [hhold] at hhold'
    cases hhold'
    refine ⟨⟨true, hmem⟩, h _ fun hcommitted => ?_⟩
    obtain ⟨e, he, _, _, _, hsame⟩ := hw.draft_eq
    rw [Workspace.draft_eq he, Draft.isAbandoned, hsame, hcommitted]
    simp

/-- Closing an open section can fail only if nothing was committed. -/
theorem wp_close_working {Q : Except Failure Unit → Grip → Prop}
    (h : ∀ out, (committed = true → out = .ok ()) → ∀ g₁, C.Drift g g₁ →
      Q out ((g₁.leave hold).work (s.closing g.workspace))) : C.logic.wp Q s.close g := by
  rw [Section.close, Logic.wp_bind]
  refine wp_finish_working hw hhold hmem fun abandoned habandoned => ?_
  cases abandoned with
  | false => exact h (.ok ()) fun _ => rfl
  | true => exact h (.error _) fun hcommitted => absurd (habandoned hcommitted) (by decide)

theorem wp_drop_working {Q : Except Failure Unit → Grip → Prop}
    (h : ∀ g₁, C.Drift g g₁ → Q (.ok ()) ((g₁.leave hold).work (s.closing g.workspace))) :
    C.logic.wp Q s.drop g := by
  rw [Section.drop, Logic.wp_bind]
  exact wp_finish_working hw hhold hmem fun _ _ => h

end Working

theorem wp_drop_closed {Q : Except Failure Unit → Grip → Prop}
    (hclosed : (g.workspace.draft s.draft).closed = true) (h : Q (.ok ()) g) :
    C.logic.wp Q s.drop g := by
  rw [Section.drop, Logic.wp_bind]
  refine wp_finish (fun _ => h) fun hold _ hopen => ?_
  rw [hclosed] at hopen
  cases hopen

end Company

end SessionCart
