import SessionCart.Proofs.Section.Attribute
import SessionCart.Session.Section

/-!
# Rules for sections

What opening, changing and closing an update section does to what the thread knows. While a section
is open its draft has the working value, and the thread has the draft in its table.
-/

namespace SessionCart

namespace Workspace

/-- A draft is open with a working value. -/
def opened (l : Workspace) (k : Kind) (r : RequestRef) (name : String) (value : Value) :
    Workspace :=
  { l with
    drafts := l.drafts ++ [{ kind := k, current := some value }]
    active := l.active.insert (r.session, name) l.drafts.length }

theorem getElem?_editDraft {l : Workspace} {d : DraftId} {e : Draft} (h : l.drafts[d]? = some e)
    (f : Draft → Draft) : (l.editDraft d f).drafts[d]? = some (f e) := by
  simp [editDraft, h]

theorem draft_eq {l : Workspace} {d : DraftId} {e : Draft} (h : l.drafts[d]? = some e) :
    l.draft d = e := by
  simp [draft, h]

/-- Of each draft its kind and whether it is closed. -/
def outline (l : Workspace) : List (Kind × Bool) := l.drafts.map fun d => (d.kind, d.closed)

theorem map_editDraft {α : Type} (l : Workspace) (d : DraftId) {f : Draft → Draft} (g : Draft → α)
    (hf : ∀ e, g (f e) = g e) : (l.editDraft d f).drafts.map g = l.drafts.map g := by
  refine List.ext_getElem? fun n => ?_
  rw [editDraft, List.getElem?_map, List.getElem?_map, List.getElem?_modify]
  cases l.drafts[n]? with
  | none => rfl
  | some e =>
    simp only [Option.map_some]
    split <;> simp [hf]

theorem closed_of_outline {l : Workspace} {d : DraftId} {k : Kind} {closed : Bool}
    (h : l.outline[d]? = some (k, closed)) :
    (l.draft d).kind = k ∧ (l.draft d).closed = closed := by
  rw [outline, List.getElem?_map, Option.map_eq_some_iff] at h
  obtain ⟨e, he, heq⟩ := h
  rw [draft_eq he]
  exact Prod.mk.inj heq

theorem kind_draft (l : Workspace) (d : DraftId) :
    (l.draft d).kind = ((l.outline[d]?).map Prod.fst).getD .json := by
  rw [outline, List.getElem?_map, draft]
  cases l.drafts[d]? <;> rfl

theorem openDraft?_congr {l l' : Workspace} (houtline : l'.outline = l.outline)
    (hactive : l'.active = l.active) (k : Kind) (session : SessionId) (name : String) :
    l'.openDraft? k session name = l.openDraft? k session name := by
  simp only [openDraft?, hactive, kind_draft, houtline]

end Workspace

/-- The section is the open one of its attribute, with a working value. -/
structure Section.Working {k : Kind} (s : Section k) (l : Workspace) (value : k.Data)
    (committed : Bool) : Prop where
  active_eq : l.active.get? (s.request.session, s.subject.name) = some s.draft
  draft_eq : ∃ d, l.drafts[s.draft]? = some d ∧ d.kind = k ∧ d.current = some (.of k value) ∧
    d.closed = false ∧ d.committed = committed

namespace Section.Working

variable {k : Kind} {s : Section k} {l : Workspace} {value : k.Data} {committed : Bool}

theorem of_opened (a : Attribute k) (r : RequestRef) (hold : Option Hold) {d : DraftId}
    (hd : l.drafts.length = d) :
    Working ⟨a, r, d, hold⟩ (l.opened k r a.name (.of k value)) value false where
  active_eq := by simp [Workspace.opened, hd]
  draft_eq := ⟨{ kind := k, current := some (.of k value) }, by simp [Workspace.opened, ← hd],
    rfl, rfl, rfl, rfl⟩

variable (h : s.Working l value committed)

include h

theorem handOut :
    s.Working (l.editDraft s.draft fun e => { e with copies := e.copies + 1 }) value committed := by
  obtain ⟨d, hd, hkind, hcurrent, hclosed, hcommitted⟩ := h.draft_eq
  exact ⟨h.active_eq, _, Workspace.getElem?_editDraft hd _, hkind, hcurrent, hclosed, hcommitted⟩

theorem discard : s.Working (l.editDraft s.draft fun e => { e with discarded := true }) value
    committed := by
  obtain ⟨d, hd, hkind, hcurrent, hclosed, hcommitted⟩ := h.draft_eq
  exact ⟨h.active_eq, _, Workspace.getElem?_editDraft hd _, hkind, hcurrent, hclosed, hcommitted⟩

theorem commit (next : k.Data) :
    s.Working ((l.store s.request s.subject.name (.of k next)).editDraft s.draft fun e =>
      { e with current := some (.of k next), committed := true }) next true := by
  obtain ⟨d, hd, hkind, hcurrent, hclosed, hcommitted⟩ := h.draft_eq
  refine ⟨h.active_eq, _, Workspace.getElem?_editDraft ?_ _, hkind, rfl, hclosed, rfl⟩
  exact hd

end Section.Working

def Section.closing {k : Kind} (s : Section k) (l : Workspace) : Workspace :=
  (l.perform (.finish s.request.session s.subject.name s.draft)).2

namespace Section

variable {x : Site} {k : Kind} {s : Section k} {v : View} {value : k.Data} {committed : Bool}

theorem requests_closing (l : Workspace) : (s.closing l).requests = l.requests := by
  rw [closing, Workspace.perform]
  split <;> rfl

theorem drafts_closing (s : Section k) (l : Workspace) : (s.closing l).drafts =
    (l.editDraft s.draft fun e => { e with closed := true }).drafts := by
  rw [closing, Workspace.perform]
  dsimp only
  split <;> rfl

/-- Closing takes a draft out of the table if it is the one in there. -/
theorem active_closing_eq (s : Section k) (l : Workspace) : (s.closing l).active =
    if l.active.get? (s.request.session, s.subject.name) = some s.draft then
      l.active.erase (s.request.session, s.subject.name)
    else l.active := by
  rw [closing, Workspace.perform]
  dsimp only
  split <;> rfl

theorem get?_active_closing (s : Section k) (l : Workspace) (key : SessionId × String) :
    (s.closing l).active.get? key =
      if key = (s.request.session, s.subject.name) ∧ l.active.get? key = some s.draft then none
      else l.active.get? key := by
  rw [active_closing_eq]
  by_cases hkey : key = (s.request.session, s.subject.name)
  · subst hkey
    split <;> simp [*]
  · rw [if_neg (c := key = _ ∧ _) fun h => hkey h.1]
    split
    · rw [Dict.get?_erase, if_neg (Ne.symm hkey)]
    · rfl

theorem Working.active_closing {l : Workspace} (h : s.Working l value committed) :
    (s.closing l).active.get? (s.request.session, s.subject.name) = none := by
  rw [get?_active_closing, if_pos ⟨rfl, h.active_eq⟩]

theorem closed_closing {l : Workspace} {d : Draft} (hd : l.drafts[s.draft]? = some d) :
    ((s.closing l).draft s.draft).closed = true := by
  have hclosed := Workspace.getElem?_editDraft hd fun e => { e with closed := true }
  rw [closing, Workspace.perform]
  dsimp only
  split <;> rw [Workspace.draft] <;> simp only [hclosed, Option.getD_some]

theorem Working.closed_closing {l : Workspace} (h : s.Working l value committed) :
    ((s.closing l).draft s.draft).closed = true := by
  obtain ⟨d, hd, _⟩ := h.draft_eq
  exact Section.closed_closing hd

theorem start_eq (a : Attribute k) (r : RequestRef) :
    start a r = Routine.openDraft k r.session a.name >>= fun found => match found with
      | some d => .done ⟨a, r, d, none⟩
      | none => a.hold r >>= fun hold => Routine.onFailure hold.drop
        (a.pick r >>= fun value => Routine.beginDraft k r.session a.name value >>= fun d =>
          .done ⟨a, r, d, some hold⟩) := by
  unfold start
  refine congrArg (Routine.openDraft k r.session a.name >>= ·) (funext fun found => ?_)
  cases found with
  | some d => rfl
  | none =>
    refine congrArg (a.hold r >>= ·) (funext fun hold => congrArg (Routine.onFailure hold.drop) ?_)
    rw [Attribute.pick, Routine.bind_assoc]
    refine congrArg (a.read r .sessionFirst false .all >>= ·) (funext fun found => ?_)
    cases found <;> rfl

/-- Opening an outermost section: the time to wait for the lock is up, or the lock is got and then
there is a value to start from or a failure. -/
theorem wp_start {a : Attribute k} {r : RequestRef} {Q : Except Failure (Section k) → View → Prop}
    (hx : x.Serves a r) (hopen : v.workspace.active.get? (r.session, a.name) = none)
    (hexpire : a.settings.lockTimeout.isSome = true →
      Q (.error (.error (.lockTimeout r.session (a.settings.lockTimeout.getD ⟨0⟩)))) v)
    (hgot : ∀ key now, (∀ e ∈ v.tickets, e.1 ≠ key) → v.Sees x now → ∀ n,
      match a.opening r.session n (v.workspace.request r.id) (now.value a.name) with
      | .error f => Q (.error f) ((v.hold key now).leave key)
      | .ok d => Q (.ok ⟨a, r, v.workspace.drafts.length, some ⟨a.table, r.session, key⟩⟩)
        ((v.hold key now).work
          ((v.workspace.fill r a.name (now.value a.name)).opened k r a.name (.of k d)))) :
    x.wp Q (start a r) v := by
  have hnone : v.workspace.openDraft? k r.session a.name = none := by
    simp [Workspace.openDraft?, hopen]
  rw [start_eq, Site.wp_bind]
  change x.wp Q (match v.workspace.openDraft? k r.session a.name with
    | some d => _
    | none => _) v
  rw [hnone, Site.wp_bind]
  refine wp_hold hx hexpire fun key now hfresh hnow => ?_
  have hmem : (key, true) ∈ (v.hold key now).tickets := by simp [View.hold]
  dsimp only
  rw [Site.wp_onFailure, Site.wp_bind]
  refine wp_pick hx (View.inside_hold v) fun n => ?_
  have hstart := hgot key now hfresh hnow n
  change match a.opening r.session n (v.workspace.request r.id) (now.value a.name) with
    | .error f => _
    | .ok d => _
  cases hopening : a.opening r.session n (v.workspace.request r.id) (now.value a.name) with
  | error f =>
    rw [hopening] at hstart
    exact wp_drop hx.table_eq hmem hstart
  | ok d =>
    rw [hopening] at hstart
    change Q (.ok ⟨a, r, (v.workspace.fill r a.name (now.value a.name)).drafts.length, _⟩)
      ((v.hold key now).work ((v.workspace.fill r a.name (now.value a.name)).opened k r a.name _))
    rw [Workspace.drafts_fill]
    exact hstart

theorem wp_copy {Q : Except Failure k.Data → View → Prop}
    (hw : s.Working v.workspace value committed)
    (h : Q (.ok value) (v.work
      (v.workspace.editDraft s.draft fun e => { e with copies := e.copies + 1 }))) :
    x.wp Q s.copy v := by
  obtain ⟨d, hd, _, hcurrent, _⟩ := hw.handOut.draft_eq
  have hdraft := Workspace.draft_eq hd
  simp only [copy, Routine.handOut, Routine.draft, Routine.own, Routine.act_bind, Routine.done_bind,
    Routine.pure_eq, Site.wp_own, View.work, Workspace.perform, hdraft, hcurrent, Option.bind_some,
    Value.as?_of]
  exact h

theorem wp_commit {Q : Except Failure k.Data → View → Prop} (hx : x.Serves s.subject s.request)
    (hin : v.inside = true) (hw : s.Working v.workspace value committed) {next : k.Data}
    (hallows : x.allows v.shelf (v.shelf.set s.subject.name (.of k next)))
    (h : Q (.ok next) ((v.put (v.shelf.set s.subject.name (.of k next))).work
      ((v.workspace.store s.request s.subject.name (.of k next)).editDraft s.draft fun e =>
        { e with current := some (.of k next), committed := true }))) :
    x.wp Q (s.commit next) v := by
  obtain ⟨d, hd, _, _, hclosed, _⟩ := hw.draft_eq
  have hdraft := Workspace.draft_eq hd
  rw [commit, Site.wp_bind, Attribute.commit, Site.wp_bind]
  change x.wp _ (if (v.workspace.draft s.draft).closed = true then _ else _) v
  rw [hdraft, hclosed, if_neg (by decide), Site.wp_bind]
  exact wp_writeDirectly hx hin hallows h

theorem wp_discard {Q : Except Failure Unit → View → Prop}
    (h : Q (.ok ()) (v.work
      (v.workspace.editDraft s.draft fun e => { e with discarded := true }))) :
    x.wp Q s.discard v := h

/-- Closing an open section gives its lock back. Copies are abandoned in it only if nothing was
committed. -/
theorem wp_finish {Q : Except Failure Bool → View → Prop} {hold : Hold}
    (hhold : s.hold = some hold) (ht : hold.table = x.table) {held : Bool}
    (hmem : (hold.ticket, held) ∈ v.tickets) (hw : s.Working v.workspace value committed)
    (h : ∀ abandoned, (committed = true → abandoned = false) →
      Q (.ok abandoned) ((v.leave hold.ticket).work (s.closing v.workspace))) :
    x.wp Q s.finish v := by
  obtain ⟨d, hd, _, _, hclosed, hcommitted⟩ := hw.draft_eq
  have hdraft := Workspace.draft_eq hd
  rw [finish, hhold]
  change x.wp Q (if (v.workspace.draft s.draft).closed = true then _ else _) v
  rw [hdraft, hclosed, if_neg (by decide)]
  refine ⟨ht, held, hmem, h _ fun hc => ?_⟩
  have habandoned : d.isAbandoned = false := by
    simp [Draft.isAbandoned, hcommitted, hc]
  change (((v.workspace.draft s.draft).isAbandoned && s.subject.settings.strictCommit) = false)
  rw [hdraft, habandoned, Bool.false_and]

theorem wp_close {Q : Except Failure Unit → View → Prop} {hold : Hold}
    (hhold : s.hold = some hold) (ht : hold.table = x.table) {held : Bool}
    (hmem : (hold.ticket, held) ∈ v.tickets) (hw : s.Working v.workspace value committed)
    (h : ∀ out, (committed = true → out = .ok ()) →
      Q out ((v.leave hold.ticket).work (s.closing v.workspace))) : x.wp Q s.close v := by
  rw [close, Site.wp_bind]
  refine wp_finish hhold ht hmem hw fun abandoned habandoned => ?_
  cases abandoned with
  | false => exact h (.ok ()) fun _ => rfl
  | true => exact h (.error _) fun hcommitted => absurd (habandoned hcommitted) (by decide)

theorem wp_finish_closed {Q : Except Failure Bool → View → Prop}
    (hclosed : (v.workspace.draft s.draft).closed = true) (h : Q (.ok false) v) :
    x.wp Q s.finish v := by
  rw [finish]
  cases s.hold with
  | none => exact h
  | some hold =>
    change x.wp Q (if (v.workspace.draft s.draft).closed = true then _ else _) v
    rw [hclosed, if_pos rfl]
    exact h

theorem wp_drop_working {Q : Except Failure Unit → View → Prop} {hold : Hold}
    (hhold : s.hold = some hold) (ht : hold.table = x.table) {held : Bool}
    (hmem : (hold.ticket, held) ∈ v.tickets) (hw : s.Working v.workspace value committed)
    (h : Q (.ok ()) ((v.leave hold.ticket).work (s.closing v.workspace))) : x.wp Q s.drop v := by
  rw [drop, Site.wp_bind]
  exact wp_finish hhold ht hmem hw fun _ _ => h

theorem wp_drop_closed {Q : Except Failure Unit → View → Prop}
    (hclosed : (v.workspace.draft s.draft).closed = true) (h : Q (.ok ()) v) : x.wp Q s.drop v := by
  rw [drop, Site.wp_bind]
  exact wp_finish_closed hclosed h

end Section

end SessionCart
