import SessionCart.Proofs.Section.Abandoned
import SessionCart.Proofs.Thread.Course

/-!
# Custody of a lock

A thread writes to a session only while it holds the lock of the session, and gives back what it has
taken. What it does in between is told apart by what it may do: as long as it takes and gives back
no lock it may write under the one that it has, and where it writes nothing it need not hold any.
-/

namespace SessionCart

namespace World.Action

/-- The session that an action may change, in its store. -/
def written? : World.Action → Option (StoreName × SessionId)
  | .set s session .. | .remove s session _ | .invalidate s session => some (s, session)
  | _ => none

/-- The session whose lock an action asks for, with the table. -/
def drawn? : World.Action → Option (TableName × SessionId)
  | .draw t session => some (t, session)
  | _ => none

end World.Action

/-- The terms of a thread that serves one session. -/
def Terms.within (s : StoreName) (session : SessionId) (t : TableName) (writes locks : Prop) :
    Terms where
  fit _ := True
  reads s' session' := s' = s ∧ session' = session
  writes s' session' := writes ∧ s' = s ∧ session' = session
  locks t' session' := locks ∧ t' = t ∧ session' = session

/-- The terms of a thread that only reads and makes values. -/
abbrev Terms.reading {k : Kind} (a : Attribute k) (r : RequestRef) : Terms :=
  .within a.store r.session a.table False False

/-- The terms of a thread that has its locks and writes. -/
abbrev Terms.inside {k : Kind} (a : Attribute k) (r : RequestRef) : Terms :=
  .within a.store r.session a.table True False

/-- The terms of a thread that takes and gives back locks, and writes nothing. -/
abbrev Terms.outside {k : Kind} (a : Attribute k) (r : RequestRef) : Terms :=
  .within a.store r.session a.table False True

/-- Actions that may be taken by one who may write, of its own session. -/
theorem Terms.may_within {s : StoreName} {session : SessionId} {t : TableName}
    {writes locks : Prop} {a : World.Action}
    (h : (within s session t writes locks).may (.world a)) :
    (∀ p, a.written? = some p → writes ∧ p = (s, session)) ∧
      ∀ p, a.drawn? = some p → locks ∧ p = (t, session) := by
  cases a with
  | set s' session' name value =>
    obtain ⟨⟨hwrites, rfl, rfl⟩, _⟩ := h
    exact ⟨fun p hp => ⟨hwrites, (Option.some.inj hp).symm⟩, fun _ hp => (nomatch hp)⟩
  | remove s' session' name =>
    obtain ⟨hwrites, rfl, rfl⟩ := h
    exact ⟨fun p hp => ⟨hwrites, (Option.some.inj hp).symm⟩, fun _ hp => (nomatch hp)⟩
  | invalidate s' session' =>
    obtain ⟨hwrites, rfl, rfl⟩ := h
    exact ⟨fun p hp => ⟨hwrites, (Option.some.inj hp).symm⟩, fun _ hp => (nomatch hp)⟩
  | draw t' session' =>
    obtain ⟨hlocks, rfl, rfl⟩ := h
    exact ⟨fun _ hp => (nomatch hp), fun p hp => ⟨hlocks, (Option.some.inj hp).symm⟩⟩
  | _ => exact ⟨fun _ hp => (nomatch hp), fun _ hp => (nomatch hp)⟩

namespace Grip

/-- The thread holds the lock of a session, in one of some tables. -/
def Holds (g : Grip) (session : SessionId) (tables : TableName → Prop) : Prop :=
  ∃ h, g.Has h ∧ h.session = session ∧ tables h.table

theorem Fits.depth_pos {C : Company} {i : ThreadId} {g : Grip} {w : World} (hfits : g.Fits C i w)
    {session : SessionId} {tables : TableName → Prop} (h : g.Holds session tables) :
    ∃ t, tables t ∧ 0 < (w.locks t).depth i session := by
  obtain ⟨hold, hhas, hsession, htable⟩ := h
  refine ⟨hold.table, htable, ?_⟩
  rw [hfits.depth_eq, List.countP_pos_iff]
  exact ⟨_, hhas, by simp [hsession]⟩

theorem Fits.holds_of_depth {C : Company} {i : ThreadId} {g : Grip} {w : World}
    (hfits : g.Fits C i w) {session : SessionId} {t : TableName}
    (hdepth : 0 < (w.locks t).depth i session) : g.Holds session (· = t) := by
  rw [hfits.depth_eq, List.countP_pos_iff] at hdepth
  obtain ⟨⟨hold, held⟩, hmem, he⟩ := hdepth
  simp only [Bool.and_eq_true, decide_eq_true_eq] at he
  obtain ⟨⟨rfl, hsession⟩, htable⟩ := he
  exact ⟨hold, hmem, hsession, htable⟩

/-- Nothing has changed but storage, requests and the working values of drafts. -/
structure Steady (g g' : Grip) : Prop where
  tickets_eq : g'.tickets = g.tickets
  active_eq : g'.workspace.active = g.workspace.active
  outline_eq : g'.workspace.outline = g.workspace.outline

namespace Steady

variable {g g' g'' : Grip}

theorem refl (g : Grip) : g.Steady g := ⟨rfl, rfl, rfl⟩

theorem trans (h : g.Steady g') (h' : g'.Steady g'') : g.Steady g'' :=
  ⟨h'.tickets_eq.trans h.tickets_eq, h'.active_eq.trans h.active_eq,
    h'.outline_eq.trans h.outline_eq⟩

theorem of_drift {C : Company} (h : C.Drift g g') : g.Steady g' :=
  ⟨h.tickets_eq, by rw [h.workspace_eq], by rw [h.workspace_eq]⟩

theorem getElem?_eq (h : g.Steady g') (d : DraftId) :
    (g'.workspace.drafts[d]?).map (fun e => (e.kind, e.closed)) =
      (g.workspace.drafts[d]?).map fun e => (e.kind, e.closed) := by
  have houtline := h.outline_eq
  rw [Workspace.outline, Workspace.outline] at houtline
  rw [← List.getElem?_map, ← List.getElem?_map, houtline]

theorem openDraft_eq (h : g.Steady g') (k : Kind) (session : SessionId) (name : String) :
    g'.workspace.openDraft? k session name = g.workspace.openDraft? k session name :=
  Workspace.openDraft?_congr h.outline_eq h.active_eq k session name

theorem holds (h : g.Steady g') {session : SessionId} {tables : TableName → Prop}
    (hholds : g.Holds session tables) : g'.Holds session tables := by
  obtain ⟨hold, hhas, hsession, htable⟩ := hholds
  refine ⟨hold, ?_, hsession, htable⟩
  rw [Has, h.tickets_eq]
  exact hhas

end Steady

end Grip

namespace Company

variable {C : Company} {T : Terms} {α : Type} {g g₀ : Grip}

/-- A thread may write to a session only while it holds the lock of the session. -/
def secured (session : SessionId) (tables : TableName → Prop) (g : Grip) (a : World.Action) :
    Prop :=
  a.written? ≠ none → g.Holds session tables

/-- One who takes and gives back no lock leaves everything steady. -/
theorem steady_perform (hlocks : ∀ t session, ¬T.locks t session) {a : Workspace.Action}
    (hmay : T.may (.own a)) : g.Steady (g.work (g.workspace.perform a).2) := by
  cases a with
  | begin =>
    obtain ⟨⟨t, ht⟩, _⟩ := hmay
    exact absurd ht (hlocks t _)
  | finish =>
    obtain ⟨t, ht⟩ := hmay
    exact absurd ht (hlocks t _)
  | handOut d => exact ⟨rfl, rfl, Workspace.map_editDraft _ d _ fun _ => rfl⟩
  | record d value => exact ⟨rfl, rfl, Workspace.map_editDraft _ d _ fun _ => rfl⟩
  | discard d => exact ⟨rfl, rfl, Workspace.map_editDraft _ d _ fun _ => rfl⟩
  | _ => exact ⟨rfl, rfl, rfl⟩

theorem steady_of_abides (hfit : ∀ v, T.fit v) (hlocks : ∀ t session, ¬T.locks t session)
    {G : Grip → World.Action → Prop}
    (hG : ∀ g a, g₀.Steady g → T.may (.world a) → G g a)
    {P : Except Failure α → Option Refusal → Prop} {x : Routine α} {first : Option Refusal}
    (hx : T.logic.wp P x first) (hg : g₀.Steady g) :
    (C.guarded G).wp (fun _ g' => g₀.Steady g') x g := by
  induction x generalizing first g with
  | done y => exact hg
  | fail f => exact hg
  | act a next ih =>
    cases a with
    | own a =>
      exact ih _ (hx.2 _ (Terms.told_own hfit _ _)) (hg.trans (steady_perform hlocks hx.1))
    | world a =>
      intro st hst
      have hseen : g₀.Steady (g.see st) := hg.trans (.of_drift (.see hst))
      refine ⟨hG _ a hseen hx.1, ?_⟩
      have hnext : ∀ reply g', T.told (.world a) reply → g₀.Steady g' →
          (C.guarded G).wp (fun _ g' => g₀.Steady g') (next reply) g' :=
        fun reply g' htold hg' => ih reply (hx.2 reply htold) hg'
      have hput : ∀ s session shelf, g₀.Steady ((g.see st).put s session shelf) :=
        fun s session shelf => hseen.trans ⟨rfl, rfl, rfl⟩
      cases a with
      | get =>
        refine ⟨fun fault => hnext _ _ (fun v _ => hfit v) hseen, fun st' hst' => ?_⟩
        exact hnext _ _ (fun v _ => hfit v) (hseen.trans (.of_drift (.see hst')))
      | set => exact ⟨fun fault => hnext _ _ trivial hseen, hnext _ _ trivial (hput ..)⟩
      | remove =>
        exact ⟨fun fault => hnext _ _ (fun v _ => hfit v) hseen,
          hnext _ _ (fun v _ => hfit v) (hput ..)⟩
      | invalidate => exact ⟨fun fault => hnext _ _ trivial hseen, hnext _ _ trivial (hput ..)⟩
      | draw t session => exact absurd hx.1 (hlocks t session)
      | await t =>
        obtain ⟨session, h⟩ := hx.1
        exact absurd h (hlocks t session)
      | giveBack t =>
        obtain ⟨session, h⟩ := hx.1
        exact absurd h (hlocks t session)
      | prune => exact hx.1.elim
      | count => exact fun n => hnext _ _ trivial hseen

end Company

/-! ### What is given back -/

namespace Grip

/-- The thread has given back what it has taken. In the table of open sections only the entry under
one key can have changed: if it was of another kind, it can be gone. -/
structure Restored (k : Kind) (key : SessionId × String) (g g' : Grip) : Prop where
  tickets_eq : g'.tickets = g.tickets
  open_eq : g'.workspace.openDraft? k key.1 key.2 = g.workspace.openDraft? k key.1 key.2
  others_eq : ∀ other, other ≠ key →
    g'.workspace.active.get? other = g.workspace.active.get? other
  entry_eq : g'.workspace.active.get? key = g.workspace.active.get? key ∨
    g.workspace.openDraft? k key.1 key.2 = none ∧ g'.workspace.active.get? key = none

/-- If a section is open under a key, the thread has the lock for it. -/
def Ready (k : Kind) (key : SessionId × String) (tables : TableName → Prop) (g : Grip) : Prop :=
  g.workspace.openDraft? k key.1 key.2 ≠ none → g.Holds key.1 tables

variable {k : Kind} {key : SessionId × String} {tables : TableName → Prop} {g g' g'' : Grip}

theorem Steady.restored (h : g.Steady g') (k : Kind) (key : SessionId × String) :
    g.Restored k key g' :=
  ⟨h.tickets_eq, h.openDraft_eq k key.1 key.2, fun _ _ => by rw [h.active_eq],
    .inl (by rw [h.active_eq])⟩

namespace Restored

theorem trans (h : g.Restored k key g') (h' : g'.Restored k key g'') : g.Restored k key g'' := by
  refine ⟨h'.tickets_eq.trans h.tickets_eq, h'.open_eq.trans h.open_eq, fun other hother => ?_, ?_⟩
  · exact (h'.others_eq other hother).trans (h.others_eq other hother)
  · rcases h'.entry_eq with hsame | ⟨hopen, hnone⟩
    · rw [hsame]
      exact h.entry_eq
    · exact .inr ⟨h.open_eq ▸ hopen, hnone⟩

theorem holds (h : g.Restored k key g') {session : SessionId} (hholds : g.Holds session tables) :
    g'.Holds session tables := by
  obtain ⟨hold, hhas, hsession, htable⟩ := hholds
  refine ⟨hold, ?_, hsession, htable⟩
  rw [Has, h.tickets_eq]
  exact hhas

theorem ready (h : g.Restored k key g') (hready : g.Ready k key tables) :
    g'.Ready k key tables := by
  intro hopen
  rw [h.open_eq] at hopen
  exact h.holds (hready hopen)

/-- What is restored under one more level of a lock is restored when that is given back. -/
theorem leave_take {hold : Hold} (hfresh : ∀ e ∈ g.tickets, e.1 ≠ hold)
    (h : (g.take hold).Restored k key g') : g.Restored k key (g'.leave hold) := by
  refine ⟨?_, h.open_eq, h.others_eq, h.entry_eq⟩
  rw [leave, h.tickets_eq, take, List.filter_append,
    List.filter_eq_self.mpr (by simpa using hfresh)]
  simp

end Restored

end Grip

namespace Company

variable {C : Company} {α β : Type}

/-- The routine writes only under the lock of a session, and restores what it has taken. -/
def Custody (C : Company) (k : Kind) (key : SessionId × String) (tables : TableName → Prop)
    (P : Grip → Prop) (x : Routine α) : Prop :=
  ∀ g, P g → (C.guarded (secured key.1 tables)).wp (fun _ g' => g.Restored k key g') x g

theorem secured_of_not_writes {s : StoreName} {session : SessionId} {t : TableName} {locks : Prop}
    {tables : TableName → Prop} (g : Grip) (a : World.Action)
    (hmay : (Terms.within s session t False locks).may (.world a)) :
    secured session tables g a := by
  intro hwritten
  obtain ⟨p, hp⟩ := Option.ne_none_iff_exists'.mp hwritten
  exact ((Terms.may_within hmay).1 p hp).1.elim

namespace Custody

variable {k : Kind} {a : Attribute k} {r : RequestRef} {tables : TableName → Prop}
  {P : Grip → Prop}

theorem done (y : α) : C.Custody k (r.session, a.name) tables P (.done y) :=
  fun g _ => (Grip.Steady.refl g).restored k _

theorem bind (hP : ∀ g g', P g → g.Restored k (r.session, a.name) g' → P g') {x : Routine α}
    {f : α → Routine β} (hx : C.Custody k (r.session, a.name) tables P x)
    (hf : ∀ y, C.Custody k (r.session, a.name) tables P (f y)) :
    C.Custody k (r.session, a.name) tables P (x >>= f) := by
  intro g hg
  rw [Logic.wp_bind]
  refine Logic.wp_mono (fun out g₁ h₁ => ?_) (hx g hg)
  cases out with
  | error f => exact h₁
  | ok y => exact Logic.wp_mono (fun _ _ h₂ => h₁.trans h₂) (hf y g₁ (hP g g₁ hg h₁))

/-- What takes no lock is in custody where the lock is held. -/
theorem of_inside {V : α → Prop} {x : Routine α}
    (hx : (Terms.inside a r).Abides V x) :
    C.Custody k (r.session, a.name) tables (·.Holds r.session tables) x := by
  intro g hholds
  refine Logic.wp_mono (fun _ _ h => h.restored k _) (steady_of_abides (T := .inside a r)
    (fun _ => trivial) (fun _ _ h => h.1) (fun g' action hsteady _ _ => ?_) (hx none) (.refl g))
  exact hsteady.holds hholds

/-- What takes no lock and writes nothing is in custody anyway. -/
theorem of_reading {V : α → Prop} {x : Routine α}
    (hx : (Terms.reading a r).Abides V x) :
    C.Custody k (r.session, a.name) tables P x := by
  intro g _
  exact Logic.wp_mono (fun _ _ h => h.restored k _) (steady_of_abides (T := .reading a r)
    (fun _ => trivial) (fun _ _ h => h.1) (fun g' action _ => secured_of_not_writes g' action)
    (hx none) (.refl g))

/-- What is in custody where the lock is held is so anywhere once the lock is taken for it. -/
theorem locked (htable : tables a.table) {body : Routine α}
    (hbody : C.Custody k (r.session, a.name) tables (·.Holds r.session tables) body) :
    C.Custody k (r.session, a.name) tables P
      (a.hold r >>= fun hold => Routine.ensuring hold.drop body) := by
  intro g _
  rw [Logic.wp_bind]
  refine guarded_of_abides (T := .outside a r) (fun _ => trivial)
    secured_of_not_writes (Terms.Abides.hold (T := .outside a r) ⟨trivial, rfl, rfl⟩ none)
    (wp_acquire ?_ ?_)
  · exact fun _ g₁ h₁ => (Grip.Steady.of_drift h₁).restored k _
  · intro key g₁ h₁ hfresh
    let hold : Hold := ⟨a.table, r.session, key⟩
    have hholds : (g₁.take hold).Holds r.session tables :=
      ⟨hold, by simp [Grip.Has, Grip.take], rfl, htable⟩
    dsimp only
    rw [Logic.wp_ensuring]
    refine Logic.wp_mono (fun out g₂ h₂ => ?_) (hbody _ hholds)
    have hmem : (hold, true) ∈ g₂.tickets := by
      rw [h₂.tickets_eq]
      exact List.mem_append_right _ List.mem_cons_self
    refine guarded_of_abides (T := .outside a r)
      (fun _ => trivial) secured_of_not_writes
      (Terms.tidies_drop (T := .outside a r)
        (show (Terms.outside a r).locks hold.table r.session from ⟨trivial, rfl, rfl⟩) none)
      (wp_drop hmem fun g₃ h₃ => ?_)
    have hlast := h₂.trans ((Grip.Steady.of_drift h₃).restored k _)
    exact ((Grip.Steady.of_drift h₁).restored k _).trans (hlast.leave_take hfresh)

theorem createOnce (htable : tables a.table) (scope : Scope) :
    C.Custody k (r.session, a.name) tables P (a.createOnce r scope) := by
  rw [Attribute.createOnce_eq]
  have hsupply := Terms.Abides.supply (T := .inside a r) ⟨rfl, rfl⟩ ⟨trivial, rfl, rfl⟩
    (fun _ _ _ _ => trivial) scope
  exact locked htable (of_inside hsupply)

theorem read (hP : ∀ g g', P g → g.Restored k (r.session, a.name) g' → P g')
    (htable : tables a.table) (policy : ReadPolicy) (scope : Scope) :
    C.Custody k (r.session, a.name) tables P (a.read r policy true scope) := by
  rw [Attribute.read_eq]
  refine bind hP (of_reading Terms.Abides.cached) fun c => ?_
  have hlook := Terms.Abides.look (T := .reading a r) ⟨rfl, rfl⟩ policy
    (show (Terms.reading a r).Fits k c from fun _ _ => trivial)
  refine bind hP (of_reading hlook) fun found => ?_
  cases found with
  | some d => exact of_reading (Terms.Abides.fill (c.isNone && scope.request) trivial)
  | none =>
    exact bind hP (createOnce htable scope) fun made =>
      of_reading (Terms.Abides.fill (!made.2 && scope.request) trivial)

end Custody

/-! ### In a section -/

/-- A thread is in a section, which it has opened with a grip: it has joined an open one, or has one
more lock and an open draft. -/
inductive InSection {k : Kind} (s : Section k) (tables : TableName → Prop) (g₀ g : Grip) : Prop
  | joined : s.hold = none → g₀.Restored k (s.request.session, s.subject.name) g →
    g.Holds s.request.session tables → InSection s tables g₀ g
  | outermost {hold : Hold} {e : Draft} : s.hold = some hold →
    hold.session = s.request.session → tables hold.table → (∀ x ∈ g₀.tickets, x.1 ≠ hold) →
    g.tickets = g₀.tickets ++ [(hold, true)] →
    g₀.workspace.openDraft? k s.request.session s.subject.name = none →
    (∀ other, other ≠ (s.request.session, s.subject.name) →
      g.workspace.active.get? other = g₀.workspace.active.get? other) →
    g.workspace.active.get? (s.request.session, s.subject.name) = some s.draft →
    g.workspace.drafts[s.draft]? = some e → e.closed = false → InSection s tables g₀ g

/-- A thread has left a section. -/
structure LeftSection {k : Kind} (s : Section k) (g₀ g : Grip) : Prop where
  restored : g₀.Restored k (s.request.session, s.subject.name) g
  closed : s.hold = none ∨ (g.workspace.draft s.draft).closed = true

/-- What is done in a section writes only under the lock, and may leave the section. -/
def Works (C : Company) {k : Kind} (s : Section k) (tables : TableName → Prop) (x : Routine α) :
    Prop :=
  ∀ g₀ g, InSection s tables g₀ g → (C.guarded (secured s.request.session tables)).wp
    (fun _ g' => InSection s tables g₀ g' ∨ LeftSection s g₀ g') x g

section Works

variable {k : Kind} {s : Section k} {tables : TableName → Prop} {g₀ g g' : Grip}

theorem InSection.holds (h : InSection s tables g₀ g) : g.Holds s.request.session tables := by
  cases h with
  | joined _ _ hholds => exact hholds
  | outermost _ hsession htable _ htickets =>
    refine ⟨_, ?_, hsession, htable⟩
    rw [Grip.Has, htickets]
    simp

theorem InSection.steady (h : InSection s tables g₀ g) (hsteady : g.Steady g') :
    InSection s tables g₀ g' := by
  cases h with
  | joined hhold hrestored hholds =>
    exact .joined hhold (hrestored.trans (hsteady.restored k _)) (hsteady.holds hholds)
  | outermost hhold hsession htable hfresh htickets hopen hothers hentry hdraft hclosed =>
    have hmap := hsteady.getElem?_eq s.draft
    rw [hdraft, Option.map_some] at hmap
    obtain ⟨e', he', hsame⟩ := Option.map_eq_some_iff.mp hmap
    refine .outermost hhold hsession htable hfresh (hsteady.tickets_eq.trans htickets) hopen
      (fun other hother => ?_) ?_ he' ?_
    · rw [hsteady.active_eq]
      exact hothers other hother
    · rw [hsteady.active_eq]
      exact hentry
    · rw [← hclosed]
      exact congrArg Prod.snd hsame

/-- Leaving a section: the lock is given back, and the section is out of the table. -/
theorem InSection.wp_close (h : InSection s tables g₀ g) {closing : Routine Unit}
    {P : Except Failure Unit → Option Refusal → Prop}
    (habides : (Terms.outside s.subject s.request).logic.wp P closing none)
    (hclosing : closing = s.close ∨ closing = s.drop) :
    (C.guarded (secured s.request.session tables)).wp (fun _ g' => LeftSection s g₀ g')
      closing g := by
  refine guarded_of_abides (fun _ => trivial) secured_of_not_writes habides
    (Company.wp_close hclosing ?_ ?_)
  · intro hdone
    cases h with
    | joined hhold hrestored _ => exact ⟨hrestored, .inl hhold⟩
    | outermost hhold _ _ _ _ _ _ _ hdraft hclosed =>
      rw [hhold, Workspace.draft_eq hdraft, hclosed] at hdone
      simp at hdone
  · intro hold hhold _
    cases h with
    | joined hnone =>
      rw [hnone] at hhold
      cases hhold
    | outermost hhold' _ _ hfresh htickets hopen hothers hentry hdraft _ =>
      rw [hhold'] at hhold
      cases hhold
      refine ⟨⟨true, by rw [htickets]; simp⟩, fun out g₁ h₁ => ⟨⟨?_, ?_, ?_, ?_⟩, .inr ?_⟩⟩
      · change g₁.tickets.filter _ = g₀.tickets
        rw [h₁.tickets_eq, htickets, List.filter_append,
          List.filter_eq_self.mpr (by simpa using hfresh)]
        simp
      · rw [hopen]
        change (s.closing g.workspace).openDraft? k _ _ = none
        rw [Workspace.openDraft?, s.active_closing _ _ hentry, if_pos rfl]
        rfl
      · intro other hother
        change (s.closing g.workspace).active.get? other = _
        rw [s.active_closing _ _ hentry, if_neg hother]
        exact hothers other hother
      · refine .inr ⟨hopen, ?_⟩
        change (s.closing g.workspace).active.get? _ = none
        rw [s.active_closing _ _ hentry, if_pos rfl]
      · change ((s.closing g.workspace).draft s.draft).closed = true
        exact Section.closed_closing hdraft

theorem InSection.wp_drop (hs : Terms.Opens s.subject s.request s)
    (h : InSection s tables g₀ g ∨ LeftSection s g₀ g) :
    (C.guarded (secured s.request.session tables)).wp
      (fun _ g' => g₀.Restored k (s.request.session, s.subject.name) g') s.drop g := by
  have hterms := hs.tidies_drop (T := .outside s.subject s.request) ⟨trivial, rfl, rfl⟩ none
  rcases h with h | h
  · exact Logic.wp_mono (fun _ _ hleft => hleft.restored) (h.wp_close hterms (.inr rfl))
  · refine guarded_of_abides (fun _ => trivial) secured_of_not_writes hterms
      (Company.wp_close (.inr rfl) (fun _ => h.restored) fun hold hhold hopen => ?_)
    rcases h.closed with hnone | hclosed
    · rw [hnone] at hhold
      cases hhold
    · rw [hopen] at hclosed
      cases hclosed

namespace Works

theorem fail (f : Failure) : C.Works s tables (.fail f : Routine α) := fun _ _ h => .inl h

theorem bind {V : α → Prop} {x : Routine α} {f : α → Routine β}
    (hx : (Terms.inside s.subject s.request).Abides V x)
    (hf : ∀ y, C.Works s tables (f y)) : C.Works s tables (x >>= f) := by
  intro g₀ g h
  rw [Logic.wp_bind]
  refine Logic.wp_mono (fun out g₁ hsteady => ?_) (steady_of_abides
    (T := .inside s.subject s.request) (fun _ => trivial) (fun _ _ hlocks => hlocks.1)
    (fun g' action hsteady _ _ => ?_) (hx none) (.refl g))
  · cases out with
    | error f => exact .inl (h.steady hsteady)
    | ok y => exact hf y g₀ g₁ (h.steady hsteady)
  · exact hsteady.holds h.holds

theorem commit (value : k.Data) {f : k.Data → Routine β} (hf : ∀ y, C.Works s tables (f y)) :
    C.Works s tables (s.commit value >>= f) :=
  bind (Terms.Abides.section_commit (T := .inside s.subject s.request) ⟨trivial, rfl, rfl⟩ trivial)
    hf

theorem close (hs : Terms.Opens s.subject s.request s) (y : β) :
    C.Works s tables (s.close >>= fun _ => .done y) := by
  intro g₀ g h
  have hterms := Terms.Abides.close (T := .outside s.subject s.request) ⟨trivial, rfl, rfl⟩ hs none
  rw [Logic.wp_bind]
  refine Logic.wp_mono (fun out g₁ hleft => ?_) (h.wp_close hterms (.inl rfl))
  cases out with
  | error f => exact .inr hleft
  | ok u => exact .inr hleft

end Works

theorem Custody.within {a : Attribute k} {r : RequestRef} (htable : tables a.table)
    {body : Section k → Routine α}
    (hbody : ∀ s, Terms.Opens a r s → C.Works s tables (body s)) :
    C.Custody k (r.session, a.name) tables (·.Ready k (r.session, a.name) tables)
      (Section.within a r body) := by
  intro g hready
  have hafter : ∀ (s : Section k) (g' : Grip), Terms.Opens a r s → InSection s tables g g' →
      (C.guarded (secured r.session tables)).wp (fun _ g' => g.Restored k (r.session, a.name) g')
        (Routine.ensuring s.drop (body s)) g' := by
    rintro s g' hs h
    obtain ⟨rfl, rfl, hhold⟩ := hs
    rw [Logic.wp_ensuring]
    refine Logic.wp_mono (fun out g₁ h₁ => ?_) (hbody s ⟨rfl, rfl, hhold⟩ g g' h)
    refine Logic.wp_mono (fun last _ h₂ => ?_) (InSection.wp_drop ⟨rfl, rfl, hhold⟩ h₁)
    cases last <;> exact h₂
  rw [Section.within, Logic.wp_bind]
  refine guarded_of_abides (T := .outside a r) (fun _ => trivial)
    secured_of_not_writes
    (Terms.Abides.start (T := .outside a r) ⟨trivial, rfl, rfl⟩ ⟨rfl, rfl⟩
      (fun _ _ _ _ => trivial) none)
    (wp_start ?joined ?failed ?opened)
  case joined =>
    intro d hopen
    refine hafter _ g ⟨rfl, rfl, fun hold hhold => by cases hhold⟩ ?_
    exact .joined rfl ((Grip.Steady.refl g).restored k _) (hready (by simp [hopen]))
  case failed => exact fun _ f g₁ h₁ => (Grip.Steady.of_drift h₁).restored k _
  case opened =>
    intro hopen key g₁ g₂ g₃ n d h₁ hfresh h₂ h₃ _
    refine hafter _ _ ⟨rfl, rfl, fun hold hhold => by cases hhold; rfl⟩ ?_
    have htickets : g₃.tickets = g.tickets ++ [(⟨a.table, r.session, key⟩, true)] := by
      rw [h₃.tickets_eq, h₂.tickets_eq, Grip.take, h₁.tickets_eq]
    refine .outermost rfl rfl htable (h₁.tickets_eq ▸ hfresh) htickets hopen
      (fun other hother => ?_) (by simp [Grip.work, Workspace.opened])
      (e := { kind := k, current := some (.of k d) }) (by simp [Grip.work, Workspace.opened]) rfl
    simp [Grip.work, Workspace.opened, Ne.symm hother]

end Works

end Company

end SessionCart
