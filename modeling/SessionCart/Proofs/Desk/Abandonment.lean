import SessionCart.Proofs.Desk.Shut

/-!
# Abandoned copies

What closing an outermost section reports is said by everything that was done with its draft, in the
section itself, in those that joined it and by writes that went through it. Whatever is reported,
the lock is given back and the draft taken out of the table. Closing a section that joined another
one, or is closed, does nothing.
-/

namespace SessionCart

namespace Done

/-- An outermost section was opened for the attribute of the session. -/
def Opens : Done → SessionId × String → Prop
  | ⟨.start a r, _, out, _⟩, key =>
    (r.session, a.name) = key ∧ ∃ s, out = .ok s ∧ s.isNested = false
  | _, _ => False

/-- Copies were asked for in sections of the draft, and nothing was committed or discarded. -/
def Abandon (entries : List Done) (d : DraftId) : Prop :=
  (∃ e ∈ entries, e.Copies d) ∧ (¬∃ e ∈ entries, e.Commits d) ∧ ¬∃ e ∈ entries, e.Discards d

end Done

open Attribute Routine

variable {i : ThreadId} {others : World → World → Prop} {w w' w₁ w₂ : World}
  {l l' l₁ l₂ : Workspace} {events : List Event} {entries : List Done} {d : DraftId}
  {key : SessionId × String}

/-! ### The entry in the table -/

theorem Attribute.Routed.active_eq {k : Kind} {a : Attribute k} {r : RequestRef}
    (h : a.Routed r events l l') : l'.active = l.active := by
  cases h with
  | past _ hl' => exact hl'.active_eq
  | through _ _ _ hl' => exact hl'.active_eq

/-- A draft stays in the table while it is not closed and no other section gets its place. -/
theorem Deed.get?_active {deed : Deed} {out : Except Failure deed.Answer} (hdeed : ¬deed.IsErrand)
    (h : deed.routine.Course i others w l events (.ended out) w' l')
    (hentry : l.active.get? key = some d) (hshuts : ¬Done.Shuts ⟨deed, l, out, events⟩ d)
    (hopens : ¬Done.Opens ⟨deed, l, out, events⟩ key) : l'.active.get? key = some d := by
  have hleft : ∀ {x : Routine deed.Answer}, x.Draftless →
      x.Course i others w l events (.ended out) w' l' → l'.active.get? key = some d := by
    intro x hx h
    rwa [(hx h).active_eq]
  have hclosing : ∀ {k : Kind} {s : Section k} {closing : Routine Unit}
      {out : Except Failure Unit}, closing = s.close ∨ closing = s.drop →
      closing.Course i others w l events (.ended out) w' l' →
      ¬(s.isNested = false ∧ s.draft = d) → l'.active.get? key = some d := by
    intro k s closing out hclosing h hother
    rcases Section.drafts_close hclosing h with ⟨-, rfl⟩ | ⟨hnested, -, rfl⟩
    · exact hentry
    · rw [Section.get?_active_closing, if_neg, hentry]
      rintro ⟨-, hsame⟩
      rw [hentry, Option.some.injEq] at hsame
      exact hother ⟨hnested, hsame.symm⟩
  cases deed with
  | accept session isNew =>
    obtain ⟨-, -, -, rfl⟩ := h.of_own.of_done
    exact hentry
  | read a r policy creating scope => rwa [(routed_read h).active_eq]
  | write a r value scope => rwa [(routed_write h).active_eq]
  | start a r =>
    cases Section.started h with
    | joined _ hl' => rwa [hl'.active_eq]
    | begun _ _ _ _ _ _ hl' =>
      rw [hl', Dict.get?_insert, if_neg, hentry]
      intro hkey
      exact hopens ⟨hkey, _, rfl, rfl⟩
    | failed _ hl' => rwa [hl'.active_eq]
  | copy s =>
    rw [(Section.drafts_copy h).active_eq]
    exact hentry
  | commit s value =>
    rcases Section.drafts_commit h with ⟨-, hl'⟩ | ⟨-, -, hl'⟩
    · rwa [hl'.active_eq]
    · rw [hl'.active_eq]
      exact hentry
  | discard s =>
    rw [(Section.drafts_discard h).active_eq]
    exact hentry
  | close s => exact hclosing (.inl rfl) h hshuts
  | drop s => exact hclosing (.inr rfl) h hshuts
  | hold a r => exact hleft (Draftless.acquire _ _ _) h
  | release hold => exact hleft (Draftless.release hold) h
  | mark r name => exact hleft (Draftless.own fun _ => ⟨rfl, rfl⟩) h
  | cache r name value => exact hleft (Draftless.own fun _ => ⟨rfl, rfl⟩) h
  | uncache r name => exact hleft (Draftless.own fun _ => ⟨rfl, rfl⟩) h
  | errand => exact absurd trivial hdeed

theorem Diary.get?_active (h : Diary i others w l entries w' l')
    (hentries : ∀ e ∈ entries, ¬e.deed.IsErrand) (hentry : l.active.get? key = some d)
    (hshuts : ∀ e ∈ entries, ¬e.Shuts d) (hopens : ∀ e ∈ entries, ¬e.Opens key) :
    l'.active.get? key = some d := by
  induction h with
  | blank => exact hentry
  | others _ _ ih => exact ih hentries hshuts hopens
  | deed _ _ hcourse ih =>
    obtain ⟨hentries, hlast⟩ := List.forall_mem_append.mp hentries
    obtain ⟨hshuts, hlastShuts⟩ := List.forall_mem_append.mp hshuts
    obtain ⟨hopens, hlastOpens⟩ := List.forall_mem_append.mp hopens
    exact Deed.get?_active (hlast _ List.mem_cons_self) hcourse (ih hentries hshuts hopens)
      (hlastShuts _ List.mem_cons_self) (hlastOpens _ List.mem_cons_self)

/-! ### What closing comes to -/

namespace Section

variable {k : Kind} {a : Attribute k} {r : RequestRef} {s : Section k} {hold : Hold}

/-- Closing the section succeeds, and does nothing. -/
def ClosesIdly (s : Section k) (i : ThreadId) (others : World → World → Prop) (w : World)
    (l : Workspace) : Prop :=
  ∀ out w' l', s.close.Ends i others w l out w' l' ↔ out = .ok () ∧ w' = w ∧ l' = l

/-- Closing the section gives its lock back and closes its draft, whatever it reports. -/
def ClosesWith (s : Section k) (hold : Hold) (report : Except Failure Unit) (i : ThreadId)
    (others : World → World → Prop) (w : World) (l : Workspace) : Prop :=
  ∀ out w' l', s.close.Ends i others w l out w' l' ↔
    out = report ∧ (∃ w₁, others w w₁ ∧ w' = hold.returned w₁) ∧ l' = s.closing l

theorem closesIdly (h : s.isNested = true ∨ (l.draft s.draft).closed = true) :
    s.ClosesIdly i others w l :=
  fun _ _ _ => (ends_finish_idle h).trans ends_done_iff

/-- What closing the section answers if it is an open outermost one. -/
def verdict (s : Section k) (l : Workspace) : Except Failure Unit :=
  if s.Reports l then .error (.error (.uncommitted s.request.session s.subject.name)) else .ok ()

theorem closesWith (hhold : s.hold = some hold) (hopen : (l.draft s.draft).closed = false) :
    s.ClosesWith hold (s.verdict l) i others w l := by
  intro out w' l'
  have hlast : ∀ w₁, Routine.Ends i others (if s.Reports l = true then
      Routine.raise (.uncommitted s.request.session s.subject.name) else Routine.done ()) w₁
        (s.closing l) out w' l' ↔ out = s.verdict l ∧ w' = w₁ ∧ l' = s.closing l := by
    intro w₁
    rw [verdict]
    split
    · exact ends_fail_iff
    · exact ends_done_iff
  refine (ends_finish_open hhold hopen).trans ?_
  constructor
  · rintro ⟨w₁, hothers, hends⟩
    obtain ⟨hout, hw', hl'⟩ := (hlast _).mp hends
    exact ⟨hout, ⟨w₁, hothers, hw'⟩, hl'⟩
  · rintro ⟨hout, ⟨w₁, hothers, hw'⟩, hl'⟩
    exact ⟨w₁, hothers, (hlast _).mpr ⟨hout, hw', hl'⟩⟩

/-- A section that is opened and joins no other one has a new draft, which is in the table and has
no marks. -/
theorem Started.fresh (h : Started a r l l' (.ok s)) (houter : s.isNested = false) :
    s.subject = a ∧ s.request = r ∧ (∃ hold, s.hold = some hold ∧ hold.table = a.table ∧
      hold.session = r.session) ∧ s.draft < l'.drafts.length ∧
      (∃ current, l'.draft s.draft = { kind := k, current := current }) ∧
      l'.active.get? (r.session, a.name) = some s.draft := by
  cases h with
  | joined => cases houter
  | begun hold value htable hsession _ hdrafts hactive =>
    refine ⟨rfl, rfl, ⟨hold, rfl, htable, hsession⟩, ?_, ⟨some (.of k value), ?_⟩, ?_⟩
    · rw [hdrafts]
      simp
    · rw [Workspace.draft, hdrafts]
      simp
    · rw [hactive, Dict.get?_insert, if_pos rfl]

theorem reports_iff : s.Reports l = true ↔ s.subject.settings.strictCommit = true ∧
    0 < (l.draft s.draft).copies ∧ (l.draft s.draft).committed = false ∧
      (l.draft s.draft).discarded = false := by
  simp only [Reports, Draft.isAbandoned, Bool.and_eq_true, decide_eq_true_eq, Bool.not_eq_true']
  tauto

/-- What the first close of an outermost section comes to after these deeds. -/
structure Concludes (s : Section k) (hold : Hold) (entries : List Done) (i : ThreadId)
    (others : World → World → Prop) (w : World) (l : Workspace) : Prop where
  hold_eq : s.hold = some hold
  table_eq : hold.table = s.subject.table
  session_eq : hold.session = s.request.session
  /-- Copies that were abandoned are reported in strict mode, and nothing else is. -/
  report : ∃ report, s.ClosesWith hold report i others w l ∧
    (report = .error (.error (.uncommitted s.request.session s.subject.name)) ∨ report = .ok ()) ∧
    (report = .error (.error (.uncommitted s.request.session s.subject.name)) ↔
      s.subject.settings.strictCommit = true ∧ Done.Abandon entries s.draft)
  released : ∀ w', hold.isHeld (hold.returned w') = false
  entry_ne : (s.closing l).active.get? (s.request.session, s.subject.name) ≠ some s.draft
  /-- Nothing is open for the attribute, unless another section has taken the place in the table. -/
  hasOpen_eq : (∀ e ∈ entries, ¬e.Opens (s.request.session, s.subject.name)) →
    (s.closing l).hasOpen s.request.session s.subject.name = false
  /-- Closing again does nothing, whatever has been done meanwhile. -/
  again : ∀ {later w₁ w₂ l₂}, Diary i others w₁ (s.closing l) later w₂ l₂ →
    s.ClosesIdly i others w₂ l₂

/-- **Abandoned copies are reported.** A thread opens an outermost section, and uses it, other
sections and attributes in any order before it first closes it; the others interleave as they like.
Then closing it is an error exactly if the settings are strict, a copy was asked for in a section of
its draft, no value was committed to the draft, by a commit or by a write that went through it, and
no copies were discarded. In any case the lock is given back and the draft taken out of the table,
and closing again does nothing. Closing a section that joined another one never does anything. -/
theorem close_reports_abandoned (hstart : (start a r).Ends i others w l (.ok s) w₁ l₁)
    (houter : s.isNested = false) (hdiary : Diary i others w₁ l₁ entries w₂ l₂)
    (hentries : ∀ e ∈ entries, ¬e.deed.IsErrand) (hfirst : ∀ e ∈ entries, ¬e.Shuts s.draft) :
    (∃ hold, s.Concludes hold entries i others w₂ l₂) ∧
      ∀ {k : Kind} (u : Section k), u.isNested = true → ∀ w l, u.ClosesIdly i others w l := by
  obtain ⟨events, hcourse⟩ := hstart.exists_course
  obtain ⟨rfl, rfl, ⟨hold, hhold, htable, hsession⟩, hlt, ⟨current, hdraft⟩, hentry⟩ :=
    (started hcourse).fresh houter
  have hmarked := hdiary.marked hlt hentries
  rw [hdraft] at hmarked
  have hopen : (l₂.draft s.draft).closed = false := by
    rw [← Bool.not_eq_true, hmarked.closed_iff]
    rintro (hclosed | ⟨e, he, hshuts⟩)
    · cases hclosed
    · exact hfirst e he hshuts
  have hreports : s.Reports l₂ = true ↔ s.subject.settings.strictCommit = true ∧
      Done.Abandon entries s.draft := by
    rw [reports_iff, hmarked.copied_iff, ← Bool.not_eq_true, hmarked.committed_iff,
      ← Bool.not_eq_true, hmarked.discarded_iff]
    simp [Done.Abandon]
  refine ⟨⟨hold, ?_⟩, fun u hnested w l => closesIdly (.inl hnested)⟩
  constructor
  case hold_eq => exact hhold
  case table_eq => exact htable
  case session_eq => exact hsession
  case report =>
    refine ⟨_, closesWith hhold hopen, ?_, ?_⟩
    · rw [verdict]
      split <;> simp
    · rw [← hreports, verdict]
      split <;> simp [*]
  case released => exact hold.not_isHeld_returned
  case entry_ne =>
    rw [get?_active_closing]
    split
    · simp
    · rename_i hother
      exact fun heq => hother ⟨rfl, heq⟩
  case hasOpen_eq =>
    intro hopens
    have hstill := hdiary.get?_active hentries hentry hfirst hopens
    rw [Workspace.hasOpen, Dict.contains, get?_active_closing, if_pos ⟨rfl, hstill⟩]
    rfl
  case again =>
    intro later w₃ w₄ l₄ hlater
    have hlt₂ : s.draft < l₂.drafts.length := Nat.lt_of_lt_of_le hlt hdiary.length_drafts_le
    have hclosed : ((s.closing l₂).draft s.draft).closed = true := by
      rw [draft_closing, Workspace.draft_editDraft hlt₂, if_pos rfl]
    rw [← s.length_drafts_closing l₂] at hlt₂
    exact closesIdly (.inr ((hlater.closed_iff hlt₂).mpr (.inl hclosed)))

/-- The only copy was asked for in a section that joined a strict one and was closed before it. -/
theorem close_reports_abandoned_joined :
    let strict : Attribute .json := { Race.counter with settings := { strictCommit := true } }
    ∃ (s u : Section .json) (hold : Hold) (w w₁ w₂ w₃ : World) (l l₁ l₂ l₃ : Workspace),
      (start strict ⟨0, Race.arena⟩).Ends 0 (World.Quiet 0) Race.dawn
        { requests := [.new Race.arena] } (.ok s) w l ∧ s.isNested = false ∧
      (start strict ⟨0, Race.arena⟩).Ends 0 (World.Quiet 0) w l (.ok u) w₁ l₁ ∧
      u.isNested = true ∧ u.draft = s.draft ∧
      u.copy.Ends 0 (World.Quiet 0) w₁ l₁ (.ok (.int 0)) w₂ l₂ ∧
      u.close.Ends 0 (World.Quiet 0) w₂ l₂ (.ok ()) w₃ l₃ ∧
      s.ClosesWith hold (.error (.error (.uncommitted Race.arena "n"))) 0 (World.Quiet 0) w₃ l₃ ∧
      u.ClosesIdly 0 (World.Quiet 0) w₃ l₃ := by
  intro strict
  have hruns : ∃ s u w l w₁ l₁ w₂ l₂ w₃ l₃,
      (start strict ⟨0, Race.arena⟩).run true 0 Race.dawn { requests := [.new Race.arena] } =
        .finished (.ok s) w l ∧
      (start strict ⟨0, Race.arena⟩).run true 0 w l = .finished (.ok u) w₁ l₁ ∧
      u.copy.run true 0 w₁ l₁ = .finished (.ok (.int 0)) w₂ l₂ ∧
      u.close.run true 0 w₂ l₂ = .finished (.ok ()) w₃ l₃ ∧ s.isNested = false ∧
      u.isNested = true ∧ u.draft = s.draft ∧ s.subject = strict ∧ s.request.session = Race.arena ∧
      0 < l.requests.length ∧ u.request.id < l₁.requests.length ∧
      u.request.id < l₂.requests.length :=
    ⟨_, _, _, _, _, _, _, _, _, _, rfl, rfl, rfl, rfl, rfl, rfl, rfl, rfl, rfl, by decide,
      by decide, by decide⟩
  obtain ⟨s, u, w, l, w₁, l₁, w₂, l₂, w₃, l₃, hopen, hjoin, hcopy, hclose, houter, hnested, hdraft,
    hsubject, hsession, hr, hu, hu'⟩ := hruns
  have hstill : ∀ w, World.Quiet 0 w w := World.Quiet.refl 0
  obtain ⟨_, hdiary⟩ := (@Diary.blank 0 (World.Quiet 0) w l).deed_of_run
    (.start strict ⟨0, Race.arena⟩) hstill (.of_known id fun _ h => by cases h; exact hr) hjoin
  obtain ⟨_, hdiary⟩ := hdiary.deed_of_run (.copy u) hstill
    (.of_known id fun _ h => by cases h; exact hu) hcopy
  obtain ⟨_, hdiary⟩ := hdiary.deed_of_run (.close u) hstill
    (.of_known id fun _ h => by cases h; exact hu') hclose
  have hstart := Routine.ends_of_run hstill hopen
  obtain ⟨⟨hold, hconcludes⟩, hidly⟩ := close_reports_abandoned hstart houter hdiary
    (by simp [Deed.IsErrand]) (by simp [Done.Shuts, hnested])
  obtain ⟨report, hcloses, -, hreport⟩ := hconcludes.report
  rw [hreport.mpr ?abandoned, hsubject, hsession] at hcloses
  case abandoned =>
    refine ⟨by rw [hsubject], ?_, ?_, ?_⟩
    · simp [Done.Copies, hdraft]
    · simp [Done.Commits]
    · simp [Done.Discards]
  exact ⟨s, u, hold, w, w₁, w₂, w₃, l, l₁, l₂, l₃, hstart, houter, Routine.ends_of_run hstill hjoin,
    hnested, hdraft, Routine.ends_of_run hstill hcopy, Routine.ends_of_run hstill hclose, hcloses,
    hidly u hnested w₃ l₃⟩

end Section

end SessionCart
