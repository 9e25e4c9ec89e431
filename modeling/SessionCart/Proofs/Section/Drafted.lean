import SessionCart.Proofs.Section.Bench

/-!
# Sections with one kind of value for each name

Where all attributes of one name have one kind of value, the table of open drafts has the draft of
each open outermost section, and a section that is opened meanwhile joins it. So the handles that a
thread has agree with its drafts after every step.
-/

namespace SessionCart

namespace Bench

variable {v : Venue} {updates updates' front back : List Update} {u o : Update} {l l' : Workspace}

/-! ### Handles and the table -/

/-- The handles agree with the drafts: each is for the draft of an outermost section of its name,
which is closed when that section is, and the table has the drafts of the open ones. -/
structure Drafted (v : Venue) (updates : List Update) (l : Workspace) : Prop where
  offers : ∀ u ∈ updates, v.Offers u.handle.subject
  outline_eq : ∀ u ∈ updates, u.handle.isNested = false →
    l.outline[u.handle.draft]? = some (u.kind, u.closed)
  nodup : ((updates.filter fun u => !u.handle.isNested).map fun u => u.handle.draft).Nodup
  joined : ∀ u ∈ updates, ∃ o ∈ updates, o.handle.isNested = false ∧ o.key = u.key ∧
    o.handle.draft = u.handle.draft
  active_iff : ∀ key d, l.active.get? key = some d ↔
    ∃ u ∈ updates, u.isOpen = true ∧ u.key = key ∧ u.handle.draft = d

namespace Drafted

variable (h : Drafted v updates l)

include h

theorem numbered : Numbered updates l := ⟨h.outline_eq, h.nodup⟩

theorem same (houtline : l'.outline = l.outline) (hactive : l'.active = l.active) :
    Drafted v updates l' :=
  ⟨h.offers, houtline ▸ h.outline_eq, h.nodup, h.joined, hactive ▸ h.active_iff⟩

theorem kind_eq (hu : u ∈ updates) : v.kind u.key.2 = u.kind := (h.offers u hu).kind_eq

theorem openDraft_eq {k : Kind} {a : Attribute k} (ha : v.Offers a) (session : SessionId) :
    l.openDraft? k session a.name = l.active.get? (session, a.name) := by
  cases hactive : l.active.get? (session, a.name) with
  | none => simp [Workspace.openDraft?, hactive]
  | some d =>
    obtain ⟨u, hu, hopen, hkey, rfl⟩ := (h.active_iff _ _).mp hactive
    have hnested := (Update.isOpen_iff.mp hopen).1
    have hkind := (Workspace.closed_of_outline (h.outline_eq u hu hnested)).1
    have hsame : u.kind = k := by
      rw [← h.kind_eq hu, hkey]
      exact ha.kind_eq
    simp [Workspace.openDraft?, hactive, hkind, hsame]

/-- A handle's draft is closed exactly when the outermost section that it belongs to is. -/
theorem closed_iff (hu : u ∈ updates) : (l.draft u.handle.draft).closed = true ↔
    ∃ o ∈ updates, o.handle.isNested = false ∧ o.handle.draft = u.handle.draft ∧
      o.closed = true := by
  obtain ⟨o, ho, hnested, _, hdraft⟩ := h.joined u hu
  have hclosed := (Workspace.closed_of_outline (h.outline_eq o ho hnested)).2
  rw [← hdraft, hclosed]
  refine ⟨fun hc => ⟨o, ho, hnested, rfl, hc⟩, ?_⟩
  rintro ⟨o', ho', hnested', hdraft', hc⟩
  rwa [← h.numbered.eq_of_draft ho' ho hnested' hnested hdraft']

/-- While the draft of a handle is not closed, it is in the table. -/
theorem active_of_open (hu : u ∈ updates) (hopen : (l.draft u.handle.draft).closed = false) :
    l.active.get? u.key = some u.handle.draft := by
  obtain ⟨o, ho, hnested, hkey, hdraft⟩ := h.joined u hu
  refine (h.active_iff _ _).mpr ⟨o, ho, ?_, hkey, hdraft⟩
  have hclosed := (Workspace.closed_of_outline (h.outline_eq o ho hnested)).2
  rw [hdraft, hopen] at hclosed
  exact Update.isOpen_iff.mpr ⟨hnested, hclosed.symm⟩

theorem join (ha : v.Offers u.handle.subject) (hnested : u.handle.isNested = true)
    (hactive : l.active.get? u.key = some u.handle.draft) : Drafted v (updates ++ [u]) l := by
  have hmem : ∀ {x}, x ∈ updates ++ [u] → x ∈ updates ∨ x = u := by
    intro x hx
    simpa using hx
  constructor
  case offers =>
    intro x hx
    rcases hmem hx with hx | rfl
    · exact h.offers x hx
    · exact ha
  case outline_eq => exact (h.numbered.join hnested).outline_eq
  case nodup => exact (h.numbered.join hnested).nodup
  case joined =>
    intro x hx
    rcases hmem hx with hx | rfl
    · obtain ⟨o, ho, hjoined⟩ := h.joined x hx
      exact ⟨o, List.mem_append_left _ ho, hjoined⟩
    · obtain ⟨o, ho, hopen, hkey, hdraft⟩ := (h.active_iff _ _).mp hactive
      exact ⟨o, List.mem_append_left _ ho, (Update.isOpen_iff.mp hopen).1, hkey, hdraft⟩
  case active_iff =>
    intro key d'
    rw [h.active_iff]
    constructor
    · rintro ⟨x, hx, hopen⟩
      exact ⟨x, List.mem_append_left _ hx, hopen⟩
    · rintro ⟨x, hx, hopen, hrest⟩
      rcases hmem hx with hx | rfl
      · exact ⟨x, hx, hopen, hrest⟩
      · rw [(Update.isOpen_iff.mp hopen).1] at hnested
        cases hnested

theorem start (ha : v.Offers u.handle.subject) (hopen : u.isOpen = true)
    (hactive : l.active.get? u.key = none) (hdraft : u.handle.draft = l.outline.length)
    (houtline : l'.outline = l.outline ++ [(u.kind, u.closed)])
    (hnew : l'.active = l.active.insert u.key u.handle.draft) : Drafted v (updates ++ [u]) l' := by
  have hmem : ∀ {x}, x ∈ updates ++ [u] → x ∈ updates ∨ x = u := by
    intro x hx
    simpa using hx
  have hlast : u ∈ updates ++ [u] := List.mem_append_right _ (List.mem_singleton_self u)
  have hnested := (Update.isOpen_iff.mp hopen).1
  have hnumbered := h.numbered.start hnested hdraft houtline
  constructor
  case offers =>
    intro x hx
    rcases hmem hx with hx | rfl
    · exact h.offers x hx
    · exact ha
  case outline_eq => exact hnumbered.outline_eq
  case nodup => exact hnumbered.nodup
  case joined =>
    intro x hx
    rcases hmem hx with hx | rfl
    · obtain ⟨o, ho, hjoined⟩ := h.joined x hx
      exact ⟨o, List.mem_append_left _ ho, hjoined⟩
    · exact ⟨_, hlast, hnested, rfl, rfl⟩
  case active_iff =>
    intro key d
    rw [hnew, Dict.get?_insert]
    split
    · rename_i hkey
      rw [Option.some.injEq]
      constructor
      · intro hd
        exact ⟨u, hlast, hopen, hkey, hd⟩
      · rintro ⟨x, hx, hxopen, hxkey, hxdraft⟩
        rcases hmem hx with hx | rfl
        · have hentry := (h.active_iff _ _).mpr ⟨x, hx, hxopen, hxkey, rfl⟩
          rw [← hkey, hactive] at hentry
          cases hentry
        · exact hxdraft
    · rename_i hkey
      rw [h.active_iff]
      constructor
      · rintro ⟨x, hx, hrest⟩
        exact ⟨x, List.mem_append_left _ hx, hrest⟩
      · rintro ⟨x, hx, hxopen, hxkey, hxdraft⟩
        rcases hmem hx with hx | rfl
        · exact ⟨x, hx, hxopen, hxkey, hxdraft⟩
        · exact absurd hxkey hkey

end Drafted

/-! ### Closing a handle -/

namespace Drafted

variable (h : Drafted v (front ++ u :: back) l)

include h

theorem shut (hnumbered : Numbered (front ++ u.shut :: back) l')
    (hactive : ∀ key d, l'.active.get? key = some d ↔
      ∃ x ∈ front ++ u.shut :: back, x.isOpen = true ∧ x.key = key ∧ x.handle.draft = d) :
    Drafted v (front ++ u.shut :: back) l' := by
  have hu : u ∈ front ++ u :: back := by simp
  constructor
  case offers =>
    intro x hx
    rcases mem_shut hx with hx | rfl
    · exact h.offers x hx
    · exact h.offers u hu
  case outline_eq => exact hnumbered.outline_eq
  case nodup => exact hnumbered.nodup
  case joined =>
    intro x hx
    have hshare : ∃ o ∈ front ++ u :: back, o.handle.isNested = false ∧ o.key = x.key ∧
        o.handle.draft = x.handle.draft := by
      rcases mem_shut hx with hx | rfl
      · exact h.joined x hx
      · exact h.joined u hu
    obtain ⟨o, ho, hjoined⟩ := hshare
    rcases exists_shut ho with ho | ⟨rfl, ho⟩
    · exact ⟨o, ho, hjoined⟩
    · exact ⟨_, ho, hjoined⟩
  case active_iff => exact hactive

theorem shut_idle (hopen : u.isOpen = false) : Drafted v (front ++ u.shut :: back) l := by
  refine h.shut (h.numbered.shut_idle hopen) fun key d => ?_
  rw [h.active_iff]
  constructor
  · rintro ⟨x, hx, hxopen, hrest⟩
    rcases exists_shut hx with hx | ⟨rfl, _⟩
    · exact ⟨x, hx, hxopen, hrest⟩
    · rw [hopen] at hxopen
      cases hxopen
  · rintro ⟨x, hx, hxopen, hrest⟩
    rcases mem_shut hx with hx | rfl
    · exact ⟨x, hx, hxopen, hrest⟩
    · simp [Update.isOpen, Update.shut] at hxopen

theorem shut_open (hopen : u.isOpen = true) :
    Drafted v (front ++ u.shut :: back) (u.handle.closing l) := by
  have hu : u ∈ front ++ u :: back := by simp
  have hnested := (Update.isOpen_iff.mp hopen).1
  have hentry : l.active.get? u.key = some u.handle.draft :=
    (h.active_iff _ _).mpr ⟨u, hu, hopen, rfl, rfl⟩
  have hclosing : (u.handle.closing l).active = l.active.erase u.key := by
    rw [u.active_closing, if_pos hentry]
  refine h.shut (h.numbered.shut_open hnested) fun key d => ?_
  rw [hclosing, Dict.get?_erase]
  constructor
  · intro hsome
    split at hsome
    · cases hsome
    · rename_i hkey
      obtain ⟨x, hx, hxopen, hxkey, hxdraft⟩ := (h.active_iff _ _).mp hsome
      rcases exists_shut hx with hx | ⟨rfl, _⟩
      · exact ⟨x, hx, hxopen, hxkey, hxdraft⟩
      · exact absurd hxkey hkey
  · rintro ⟨x, hx, hxopen, rfl, rfl⟩
    have hother : x = u.shut ∨ x ∈ front ∨ x ∈ back := by
      simp only [List.mem_append, List.mem_cons] at hx
      tauto
    rcases hother with rfl | hx
    · simp [Update.isOpen, Update.shut] at hxopen
    · have hxentry := (h.active_iff _ _).mpr
        ⟨x, by simp only [List.mem_append, List.mem_cons]; tauto, hxopen, rfl, rfl⟩
      rw [if_neg, hxentry]
      intro hkey
      rw [← hkey, hentry, Option.some.injEq] at hxentry
      exact h.numbered.draft_ne hnested hx (Update.isOpen_iff.mp hxopen).1 hxentry.symm

end Drafted

theorem Drafted.change (h : Drafted v updates l) (hchange : Change v l l' updates updates') :
    Drafted v updates' l' := by
  cases hchange with
  | same _ houtline hactive => exact h.same houtline hactive
  | join _ ha hnested hentry houtline hactive =>
    exact (h.join ha hnested ((h.openDraft_eq ha _).symm.trans hentry)).same houtline hactive
  | start _ ha hopen hentry hdraft houtline hactive =>
    exact h.start ha hopen ((h.openDraft_eq ha _).symm.trans hentry) hdraft houtline hactive
  | idle _ _ hopen houtline hactive => exact (h.shut_idle hopen).same houtline hactive
  | shut _ _ hopen houtline hactive => exact (h.shut_open hopen).same houtline hactive

/-! ### What a step does -/

variable {C : Company} {b b' : Bench} {i : ThreadId} {others : World → World → Prop} {g g' : Grip}

/-- The handles of a thread agree with what it knows of itself. -/
structure Agrees (v : Venue) (b : Bench) (g : Grip) : Prop where
  workspace_eq : g.workspace = b.workspace
  drafted : Drafted v b.updates g.workspace
  locked : Locked v b.updates b.syncs g

/-- What becomes of the agreement when the thread has done something. -/
def Next (C : Company) (v : Venue) (i : ThreadId) (b' : Bench) (g : Grip) : Prop :=
  ∃ g', g'.Fits C i b'.world ∧ Agrees v b' g' ∧ Moves C v g g'

/-- While the table has the drafts of all open sections, a commit through a handle is an operation
on its attribute. -/
theorem Touches.moves_of (h : Drafted v updates g.workspace) (htouches : Touches C v updates g g') :
    Moves C v g g' := by
  cases htouches with
  | moves h => exact h
  | @commit u hu hclosed heffect =>
    refine .values (h.offers u hu) (heffect ?_)
    exact (h.openDraft_eq (h.offers u hu) _).trans (h.active_of_open hu hclosed)

/-- **A step of a thread.** Whatever happens, the handles agree with what the thread knows. -/
theorem Step.sound (hothers : C.Bounds i others) (hstep : Step v i others b b')
    (hfits : g.Fits C i b.world) (h : Agrees v b g) : Next C v i b' g := by
  obtain ⟨g', hstepped⟩ := hstep.stepped hothers hfits h.workspace_eq h.drafted.numbered h.locked
  exact ⟨g', hstepped.fits,
    ⟨hstepped.workspace_eq, h.drafted.change hstepped.change, hstepped.locked⟩,
    hstepped.touches.moves_of h.drafted⟩

end Bench

end SessionCart
