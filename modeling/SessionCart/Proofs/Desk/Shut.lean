import SessionCart.Proofs.Desk.Deed
import SessionCart.Proofs.Thread.Drafts

/-!
# What deeds do to a draft

All that is known of a draft, apart from its value, are four marks: whether copies of it were handed
out, whether a value was committed, whether copies were discarded, and whether it is closed. A deed
sets the marks that it is said to set and takes none away. An errand may set some of them on a draft
that its section joins, but closes no draft that it has found.
-/

namespace SessionCart

namespace Done

/-- A copy was asked for in a section of the draft. -/
def Copies : Done → DraftId → Prop
  | ⟨.copy s, _, _, _⟩, d => s.draft = d
  | _, _ => False

/-- A value was committed in a section of the draft, or the draft has taken up a session write. -/
def Commits : Done → DraftId → Prop
  | ⟨.commit s _, _, out, _⟩, d => s.draft = d ∧ ∃ value, out = .ok value
  | ⟨.read (k := k) a r _ _ _, before, _, events⟩, d =>
    before.openDraft? k r.session a.name = some d ∧ a.Written r events
  | ⟨.write (k := k) a r _ scope, before, out, _⟩, d =>
    before.openDraft? k r.session a.name = some d ∧ scope.session = true ∧ out = .ok ()
  | _, _ => False

/-- Copies were discarded in a section of the draft. -/
def Discards : Done → DraftId → Prop
  | ⟨.discard s, _, _, _⟩, d => s.draft = d
  | _, _ => False

/-- An outermost section of the draft was closed or dropped. -/
def Shuts : Done → DraftId → Prop
  | ⟨.close s, _, _, _⟩, d | ⟨.drop s, _, _, _⟩, d => s.isNested = false ∧ s.draft = d
  | _, _ => False

end Done

def Deed.IsErrand : Deed → Prop
  | errand .. => True
  | _ => False

theorem Deed.Fit.of_known {deed : Deed} {l : Workspace} (hdeed : ¬deed.IsErrand)
    (hknown : ∀ r, deed.request? = some r → r.id < l.requests.length) : deed.Fit l := by
  refine ⟨hknown, ?_⟩
  rintro desk r errand rfl
  exact absurd trivial hdeed

/-- What became of the marks of a draft. -/
structure Draft.Marked (e e' : Draft) (copied committed discarded shut : Prop) : Prop where
  copied_iff : 0 < e'.copies ↔ 0 < e.copies ∨ copied
  committed_iff : e'.committed = true ↔ e.committed = true ∨ committed
  discarded_iff : e'.discarded = true ↔ e.discarded = true ∨ discarded
  closed_iff : e'.closed = true ↔ e.closed = true ∨ shut

namespace Draft.Marked

variable {e e' e'' : Draft} {p q r s p' q' r' s' : Prop}

theorem of_eq (h : e' = e) : Marked e e' False False False False := by
  subst h
  constructor <;> simp

theorem trans (h : Marked e e' p q r s) (h' : Marked e' e'' p' q' r' s') :
    Marked e e'' (p ∨ p') (q ∨ q') (r ∨ r') (s ∨ s') := by
  constructor
  · rw [h'.copied_iff, h.copied_iff, or_assoc]
  · rw [h'.committed_iff, h.committed_iff, or_assoc]
  · rw [h'.discarded_iff, h.discarded_iff, or_assoc]
  · rw [h'.closed_iff, h.closed_iff, or_assoc]

end Draft.Marked

namespace Workspace

variable {l l' : Workspace} {d : DraftId}

theorem draft_editDraft (hd : d < l.drafts.length) (d' : DraftId) (f : Draft → Draft) :
    (l.editDraft d' f).draft d = if d' = d then f (l.draft d) else l.draft d := by
  simp only [draft, editDraft, List.getElem?_modify, List.getElem?_eq_getElem hd]
  split <;> rfl

/-- An edit sets the marks that it sets on the draft that is edited, and none on any other one. -/
theorem marked_editDraft (hd : d < l.drafts.length) {d' : DraftId} {f : Draft → Draft}
    {copied committed discarded shut : Prop}
    (hsame : d' = d → Draft.Marked (l.draft d) (f (l.draft d)) copied committed discarded shut)
    (hother : d' ≠ d → ¬copied ∧ ¬committed ∧ ¬discarded ∧ ¬shut) :
    Draft.Marked (l.draft d) ((l.editDraft d' f).draft d) copied committed discarded shut := by
  rw [draft_editDraft hd]
  by_cases heq : d' = d
  · rw [if_pos heq]
    exact hsame heq
  · obtain ⟨hcopied, hcommitted, hdiscarded, hshut⟩ := hother heq
    rw [if_neg heq]
    constructor <;> simp [hcopied, hcommitted, hdiscarded, hshut]

theorem draft_append (hd : d < l.drafts.length) {e : Draft} (h : l'.drafts = l.drafts ++ [e]) :
    l'.draft d = l.draft d := by
  rw [draft, h, List.getElem?_append_left hd, draft]

theorem length_perform_le (l : Workspace) (a : Workspace.Action) :
    l.drafts.length ≤ (l.perform a).2.drafts.length := by
  cases a with
  | «begin» => simp [perform]
  | finish =>
    rw [perform]
    dsimp only
    split <;> simp [editDraft]
  | _ => simp [perform, editDraft, editRequest, addRequest]

end Workspace

open Attribute Routine

variable {i : ThreadId} {others : World → World → Prop} {w w' : World} {l l' : Workspace}
  {events : List Event} {d : DraftId}

/-- Drafts are not thrown away. -/
theorem Routine.Course.length_drafts_le {α : Type} {x rest : Routine α}
    (h : x.Course i others w l events rest w' l') : l.drafts.length ≤ l'.drafts.length := by
  induction h with
  | here => exact Nat.le_refl _
  | own _ ih => exact Nat.le_trans (Workspace.length_perform_le ..) ih
  | world _ _ _ ih => exact ih
  | expire _ _ _ _ ih => exact ih

theorem Section.draft_closing {k : Kind} (s : Section k) (l : Workspace) (d : DraftId) :
    (s.closing l).draft d = (l.editDraft s.draft fun e => { e with closed := true }).draft d := by
  rw [Workspace.draft, drafts_closing, Workspace.draft]

theorem Section.length_drafts_closing {k : Kind} (s : Section k) (l : Workspace) :
    (s.closing l).drafts.length = l.drafts.length := by
  rw [drafts_closing, Workspace.editDraft, List.length_modify]

theorem Attribute.Routed.marked {k : Kind} {a : Attribute k} {r : RequestRef}
    (h : a.Routed r events l l') (hd : d < l.drafts.length) :
    Draft.Marked (l.draft d) (l'.draft d) False
      (l.openDraft? k r.session a.name = some d ∧ a.Written r events) False False := by
  cases h with
  | past hnone hl' =>
    have hnot : ¬(l.openDraft? k r.session a.name = some d ∧ a.Written r events) := by
      rintro ⟨hopen, hwritten⟩
      rw [hnone hwritten] at hopen
      cases hopen
    rw [hl'.draft_eq, iff_false_intro hnot]
    exact .of_eq rfl
  | through value hwritten hopen hl' =>
    rw [hl'.draft_eq, Workspace.record, hopen]
    apply Workspace.marked_editDraft hd
    · intro heq
      constructor <;> simp [heq, hwritten]
    · intro hne
      simp [hne]

/-- A deed marks a draft as it is said to. -/
theorem Deed.marked {deed : Deed} {out : Except Failure deed.Answer} (hdeed : ¬deed.IsErrand)
    (h : deed.routine.Course i others w l events (.ended out) w' l') (hd : d < l.drafts.length) :
    Draft.Marked (l.draft d) (l'.draft d) (Done.Copies ⟨deed, l, out, events⟩ d)
      (Done.Commits ⟨deed, l, out, events⟩ d) (Done.Discards ⟨deed, l, out, events⟩ d)
      (Done.Shuts ⟨deed, l, out, events⟩ d) := by
  have hleft : ∀ {x : Routine deed.Answer}, x.Draftless →
      x.Course i others w l events (.ended out) w' l' → l'.draft d = l.draft d :=
    fun hx h => (hx h).draft_eq d
  have hclosing : ∀ {k : Kind} {s : Section k} {closing : Routine Unit}
      {out : Except Failure Unit}, closing = s.close ∨ closing = s.drop →
      closing.Course i others w l events (.ended out) w' l' →
      Draft.Marked (l.draft d) (l'.draft d) False False False
        (s.isNested = false ∧ s.draft = d) := by
    intro k s closing out hclosing h
    rcases Section.drafts_close hclosing h with ⟨hidle, rfl⟩ | ⟨hnested, -, rfl⟩
    · -- nothing is done: if the section is an outermost one, the draft has its mark already
      constructor <;> try simp
      rintro hnested rfl
      exact hidle.resolve_left (by simp [hnested])
    · rw [Section.draft_closing]
      apply Workspace.marked_editDraft hd
      · intro hdraft
        constructor <;> simp [hnested, hdraft]
      · intro hdraft
        simp [hdraft]
  cases deed with
  | accept session isNew =>
    obtain ⟨-, -, -, rfl⟩ := h.of_own.of_done
    exact .of_eq rfl
  | read a r policy creating scope => exact (routed_read h).marked hd
  | write a r value scope =>
    have hmarked := (routed_write h).marked hd
    rwa [written_write_iff h] at hmarked
  | start a r =>
    cases Section.started h with
    | joined _ hl' => exact .of_eq (hl'.draft_eq d)
    | begun _ _ _ _ _ hl' _ => exact .of_eq (Workspace.draft_append hd hl')
    | failed _ hl' => exact .of_eq (hl'.draft_eq d)
  | copy s =>
    rw [(Section.drafts_copy h).draft_eq]
    apply Workspace.marked_editDraft hd
    · intro hdraft
      constructor <;> simp [Done.Copies, Done.Commits, Done.Discards, Done.Shuts, hdraft]
    · simp [Done.Copies, Done.Commits, Done.Discards, Done.Shuts]
  | commit s value =>
    rcases Section.drafts_commit h with ⟨⟨f, rfl⟩, hl'⟩ | ⟨rfl, -, hl'⟩
    · rw [hl'.draft_eq]
      constructor <;> simp [Done.Copies, Done.Commits, Done.Discards, Done.Shuts]
    · rw [hl'.draft_eq, Workspace.record]
      apply Workspace.marked_editDraft hd
      · intro hdraft
        constructor <;> simp [Done.Copies, Done.Commits, Done.Discards, Done.Shuts, hdraft]
      · simp [Done.Copies, Done.Commits, Done.Discards, Done.Shuts]
  | discard s =>
    rw [(Section.drafts_discard h).draft_eq]
    apply Workspace.marked_editDraft hd
    · intro hdraft
      constructor <;> simp [Done.Copies, Done.Commits, Done.Discards, Done.Shuts, hdraft]
    · simp [Done.Copies, Done.Commits, Done.Discards, Done.Shuts]
  | close s => exact hclosing (.inl rfl) h
  | drop s => exact hclosing (.inr rfl) h
  | hold a r => exact .of_eq (hleft (Draftless.acquire _ _ _) h)
  | release hold => exact .of_eq (hleft (Draftless.release hold) h)
  | mark r name => exact .of_eq (hleft (Draftless.own fun _ => ⟨rfl, rfl⟩) h)
  | cache r name value => exact .of_eq (hleft (Draftless.own fun _ => ⟨rfl, rfl⟩) h)
  | uncache r name => exact .of_eq (hleft (Draftless.own fun _ => ⟨rfl, rfl⟩) h)
  | errand => exact absurd trivial hdeed

/-! ### Drafts that are spared -/

/-- However the routine goes, none of the first drafts of the thread, of which it has at least so
many, is closed by it. -/
def Routine.Spares {α : Type} (n : Nat) (x : Routine α) : Prop :=
  ∀ ⦃i others w l events out w' l'⦄, x.Course i others w l events (.ended out) w' l' →
    n ≤ l.drafts.length → ∀ d < n, (l'.draft d).closed = (l.draft d).closed

namespace Routine

variable {α β : Type} {n : Nat}

theorem Draftless.spares {x : Routine α} (hx : x.Draftless) : x.Spares n := by
  intro i others w l events out w' l' h _ d _
  rw [(hx h).draft_eq]

namespace Spares

theorem bind {x : Routine α} {f : α → Routine β} (hx : x.Spares n) (hf : ∀ y, (f y).Spares n) :
    (x >>= f).Spares n := by
  intro i others w l events out w' l' h hn d hd
  rcases h.of_bind with ⟨y, before, w₁, l₁, after, h₁, h₂, -⟩ | ⟨e, h₁, -⟩
  · rw [hf y h₂ (Nat.le_trans hn h₁.length_drafts_le) d hd, hx h₁ hn d hd]
  · exact hx h₁ hn d hd

theorem ensuring {x : Routine α} {cleanup : Routine Unit} (hx : x.Spares n)
    (hcleanup : cleanup.Spares n) : (Routine.ensuring cleanup x).Spares n := by
  intro i others w l events out w' l' h hn d hd
  obtain ⟨first, before, w₁, l₁, last, after, h₁, h₂, -, -⟩ := h.of_ensuring
  rw [hcleanup h₂ (Nat.le_trans hn h₁.length_drafts_le) d hd, hx h₁ hn d hd]

theorem of_deed (deed : Deed) (hdeed : ¬deed.IsErrand)
    (hshuts : ∀ before out events, ∀ d < n, ¬Done.Shuts ⟨deed, before, out, events⟩ d) :
    deed.routine.Spares n := by
  intro i others w l events out w' l' h hn d hd
  have hclosed := (Deed.marked hdeed h (Nat.lt_of_lt_of_le hd hn)).closed_iff
  rw [or_iff_left (hshuts l out events d hd)] at hclosed
  exact Bool.eq_iff_iff.mpr hclosed

theorem drop {k : Kind} {s : Section k} (hs : s.isNested = true ∨ n ≤ s.draft) :
    s.drop.Spares n := by
  refine of_deed (.drop s) id ?_
  rintro - - - d hd ⟨hnested, rfl⟩
  rcases hs with hs | hs
  · simp [hnested] at hs
  · exact Nat.not_le_of_lt hd hs

theorem close {k : Kind} {s : Section k} (hs : s.isNested = true ∨ n ≤ s.draft) :
    s.close.Spares n := by
  refine of_deed (.close s) id ?_
  rintro - - - d hd ⟨hnested, rfl⟩
  rcases hs with hs | hs
  · simp [hnested] at hs
  · exact Nat.not_le_of_lt hd hs

theorem within {k : Kind} {a : Attribute k} {r : RequestRef} {body : Section k → Routine α}
    (hbody : ∀ s : Section k, s.isNested = true ∨ n ≤ s.draft → (body s).Spares n) :
    (Section.within a r body).Spares n := by
  intro i others w l events out w' l' h hn d hd
  rcases h.of_bind with ⟨s, before, w₁, l₁, after, hstart, hrest, -⟩ | ⟨e, hstart, -⟩
  · have hs : s.isNested = true ∨ n ≤ s.draft := by
      cases Section.started hstart with
      | joined => exact .inl rfl
      | begun => exact .inr hn
    have hspared : (l₁.draft d).closed = (l.draft d).closed :=
      of_deed (.start a r) id (fun _ _ _ _ _ => id) hstart hn d hd
    rw [← hspared]
    exact ensuring (hbody s hs) (.drop hs) hrest (Nat.le_trans hn hstart.length_drafts_le) d hd
  · exact of_deed (.start a r) id (fun _ _ _ _ _ => id) hstart hn d hd

end Spares

end Routine

namespace Desk

variable {desk : Desk} {r : RequestRef} {free : String → Prop} {n : Nat} {α : Type}

theorem Akin.spares_of_mem {Γ : List (Section .cart × Section .cart)} {x x' : Routine α}
    (h : Akin desk r free Γ x x') (hΓ : ∀ p ∈ Γ, p.1.isNested = true ∨ n ≤ p.1.draft) :
    x.Spares n := by
  induction h with
  | done y => exact (Draftless.done y).spares
  | fail f => exact (Draftless.fail f).spares
  | bind _ _ ihx ihf => exact .bind (ihx hΓ) fun y => ihf y hΓ
  | locked _ ih =>
    exact .bind (Draftless.acquire _ _ _).spares fun hold =>
      .ensuring (ih hΓ) (Draftless.drop hold).spares
  | within _ ih =>
    -- the new section joins another one, or has a draft after those that were found
    exact .within fun s hs => ih s s (List.forall_mem_cons.mpr ⟨hs, hΓ⟩)
  | read policy creating scope =>
    exact .of_deed (.read desk.cart r policy creating scope) id fun _ _ _ _ _ => id
  | write value => exact .of_deed (.write desk.cart r value .all) id fun _ _ _ _ _ => id
  | forget => exact .of_deed (.write desk.cart r none .requestOnly) id fun _ _ _ _ _ => id
  | create => exact (Draftless.create _ r).spares
  | find k name =>
    refine (Draftless.bind (.getStored ..) fun found => ?_).spares
    cases found with
    | none => exact .done none
    | some v =>
      dsimp only
      cases v.as? k with
      | some x => exact .done (some x)
      | none => exact .fail _
  | put value => exact (Draftless.setStored ..).spares
  | removeAttribute => exact (Draftless.bind (.removeStored ..) fun _ => .done ()).spares
  | invalidate => exact (Draftless.invalidate ..).spares
  | note value => exact (Draftless.own fun _ => ⟨rfl, rfl⟩).spares
  | @copy _ s => exact .of_deed (.copy s) id fun _ _ _ _ _ => id
  | @commit _ s _ c => exact .of_deed (.commit s c) id fun _ _ _ _ _ => id
  | @discard _ s => exact .of_deed (.discard s) id fun _ _ _ _ _ => id
  | close hs => exact .close (hΓ _ hs)

/-- An errand closes no draft that it has found. -/
theorem spares_errand (e : Errand) : (e.routine desk r).Spares n :=
  have hakin : Akin desk r (fun _ => True) [] (e.routine desk r) (e.routine desk r) :=
    .errand e (fun _ _ => trivial) fun _ => trivial
  hakin.spares_of_mem fun _ hp => (List.not_mem_nil hp).elim

end Desk

/-- A deed closes the drafts that it is said to shut. -/
theorem Deed.closed_iff {deed : Deed} {out : Except Failure deed.Answer}
    (h : deed.routine.Course i others w l events (.ended out) w' l') (hd : d < l.drafts.length) :
    (l'.draft d).closed = true ↔
      (l.draft d).closed = true ∨ Done.Shuts ⟨deed, l, out, events⟩ d := by
  by_cases hdeed : deed.IsErrand
  · cases deed with
    | errand desk r e =>
      rw [desk.spares_errand e h (Nat.le_refl _) d hd]
      exact (or_iff_left id).symm
    | _ => exact absurd hdeed id
  · exact (marked hdeed h hd).closed_iff

/-! ### Diaries -/

namespace Diary

variable {entries : List Done}

theorem length_drafts_le (h : Diary i others w l entries w' l') :
    l.drafts.length ≤ l'.drafts.length := by
  induction h with
  | blank => exact Nat.le_refl _
  | others _ _ ih => exact ih
  | deed _ _ hcourse ih => exact Nat.le_trans ih hcourse.length_drafts_le

theorem exists_mem_append {P : Done → Prop} {e : Done} :
    (∃ e' ∈ entries ++ [e], P e') ↔ (∃ e' ∈ entries, P e') ∨ P e := by
  simp only [List.mem_append, List.mem_singleton, or_and_right, exists_or, exists_eq_left]

theorem deed_of_run {w₁ w₂ : World} {l₁ l₂ : Workspace} (h : Diary i others w l entries w₁ l₁)
    (deed : Deed) {patient : Bool} {out : Except Failure deed.Answer} (hstill : ∀ w, others w w)
    (hfit : deed.Fit l₁)
    (hrun : deed.routine.run patient i w₁ l₁ = .finished out w₂ l₂) :
    ∃ events, Diary i others w l (entries ++ [⟨deed, l₁, out, events⟩]) w₂ l₂ := by
  obtain ⟨events, hcourse⟩ := (Routine.ends_of_run hstill hrun).exists_course
  exact ⟨events, h.deed hfit hcourse⟩

/-- At the end of a diary a draft is closed if it was so from the start, or an outermost section of
it has been closed. -/
theorem closed_iff (h : Diary i others w l entries w' l') (hd : d < l.drafts.length) :
    (l'.draft d).closed = true ↔ (l.draft d).closed = true ∨ ∃ e ∈ entries, e.Shuts d := by
  induction h with
  | blank => simp
  | others _ _ ih => exact ih
  | deed hdiary _ hcourse ih =>
    rw [Deed.closed_iff hcourse (Nat.lt_of_lt_of_le hd hdiary.length_drafts_le), ih,
      exists_mem_append, or_assoc]

/-- The marks that a draft has at the end of a diary without errands are those that were set. -/
theorem marked (h : Diary i others w l entries w' l') (hd : d < l.drafts.length)
    (hentries : ∀ e ∈ entries, ¬e.deed.IsErrand) :
    Draft.Marked (l.draft d) (l'.draft d) (∃ e ∈ entries, e.Copies d) (∃ e ∈ entries, e.Commits d)
      (∃ e ∈ entries, e.Discards d) (∃ e ∈ entries, e.Shuts d) := by
  induction h with
  | blank => constructor <;> simp
  | others _ _ ih => exact ih hentries
  | deed hdiary _ hcourse ih =>
    obtain ⟨hbefore, hlast⟩ := List.forall_mem_append.mp hentries
    have hlength := Nat.lt_of_lt_of_le hd hdiary.length_drafts_le
    simp only [exists_mem_append]
    exact (ih hbefore).trans (Deed.marked (hlast _ List.mem_cons_self) hcourse hlength)

end Diary

end SessionCart
