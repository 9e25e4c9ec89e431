import Mathlib.Data.List.Infix
import SessionCart.Proofs.Thread.Section

/-!
# A thread at its bench

A thread opens sections and uses and closes them in any order, for any sessions, attributes and
requests, with attributes that share a store and a lock table and have one kind of value for each
name. What a step does to the drafts and the locks of its sections is the same as what it does to the
handles, whatever the table of open drafts says.
-/

namespace SessionCart

/-! ### Handles and steps -/

/-- Where the values of attributes live, and the kind of each by its name. -/
structure Venue where
  store : StoreName
  table : TableName
  kind : String → Kind

structure Venue.Offers (v : Venue) {k : Kind} (a : Attribute k) : Prop where
  store_eq : a.store = v.store
  table_eq : a.table = v.table
  kind_eq : v.kind a.name = k

namespace Bench

/-- The handle of an update section, which may have been closed. -/
structure Update where
  kind : Kind
  handle : Section kind
  closed : Bool

namespace Update

variable (u : Update)

/-- The session and the attribute that the section is for. -/
def key : SessionId × String := (u.handle.request.session, u.handle.subject.name)

/-- The section is an outermost one that has not been closed. -/
def isOpen : Bool := !u.handle.isNested && !u.closed

def hold? : Option Hold := if u.closed then none else u.handle.hold

def shut : Update := { u with closed := true }

end Update

/-- The handle of a section that only has the lock, which may have been given back. -/
structure Sync where
  hold : Hold
  released : Bool

namespace Sync

variable (y : Sync)

def hold? : Option Hold := if y.released then none else some y.hold

def shut : Sync := { y with released := true }

end Sync

end Bench

/-- A world, a thread's workspace, and the handles of all sections that the thread has opened. -/
structure Bench where
  world : World
  workspace : Workspace
  updates : List Bench.Update
  syncs : List Bench.Sync

namespace Bench

/-- A thread that has done nothing yet. -/
def idle (w : World) : Bench := ⟨w, {}, [], []⟩

/-- The outermost update sections that are open for an attribute of a session. -/
def openAt (b : Bench) (session : SessionId) (name : String) : List Update :=
  b.updates.filter fun u => u.isOpen && decide (u.key = (session, name))

def opened {k : Kind} : Except Failure (Section k) → List Update
  | .ok s => [⟨k, s, false⟩]
  | .error _ => []

def taken : Except Failure Hold → List Sync
  | .ok h => [⟨h, false⟩]
  | .error _ => []

/-- What can happen next: the others act, or the thread accepts a request, reads or writes an
attribute, or opens, uses or closes a section, whatever comes of it. -/
inductive Step (v : Venue) (i : ThreadId) (others : World → World → Prop) : Bench → Bench → Prop
  | others {b : Bench} {w' : World} : others b.world w' → Step v i others b { b with world := w' }
  | accept (b : Bench) (q : Request) :
    Step v i others b { b with workspace := (b.workspace.addRequest q).2 }
  | read {b : Bench} {k : Kind} {a : Attribute k} {r : RequestRef} {policy : ReadPolicy}
    {creating : Bool} {scope : Scope} {out : Except Failure (Option k.Data)} {w' : World}
    {l' : Workspace} : v.Offers a →
    (a.read r policy creating scope).Ends i others b.world b.workspace out w' l' →
    Step v i others b ⟨w', l', b.updates, b.syncs⟩
  | write {b : Bench} {k : Kind} {a : Attribute k} {r : RequestRef} {value : Option k.Data}
    {scope : Scope} {out : Except Failure Unit} {w' : World} {l' : Workspace} : v.Offers a →
    (a.write r value scope).Ends i others b.world b.workspace out w' l' →
    Step v i others b ⟨w', l', b.updates, b.syncs⟩
  | start {b : Bench} {k : Kind} {a : Attribute k} {r : RequestRef}
    {out : Except Failure (Section k)} {w' : World} {l' : Workspace} : v.Offers a →
    (Section.start a r).Ends i others b.world b.workspace out w' l' →
    Step v i others b ⟨w', l', b.updates ++ opened out, b.syncs⟩
  | copy {b : Bench} {u : Update} {out : Except Failure u.kind.Data} {w' : World}
    {l' : Workspace} : u ∈ b.updates →
    u.handle.copy.Ends i others b.world b.workspace out w' l' →
    Step v i others b ⟨w', l', b.updates, b.syncs⟩
  | commit {b : Bench} {u : Update} {value : u.kind.Data} {out : Except Failure u.kind.Data}
    {w' : World} {l' : Workspace} : u ∈ b.updates →
    (u.handle.commit value).Ends i others b.world b.workspace out w' l' →
    Step v i others b ⟨w', l', b.updates, b.syncs⟩
  | discard {b : Bench} {u : Update} {out : Except Failure Unit} {w' : World} {l' : Workspace} :
    u ∈ b.updates → u.handle.discard.Ends i others b.world b.workspace out w' l' →
    Step v i others b ⟨w', l', b.updates, b.syncs⟩
  | close {w w' : World} {l l' : Workspace} {front back : List Update} {syncs : List Sync}
    {u : Update} {closing : Routine Unit} {out : Except Failure Unit} :
    closing = u.handle.close ∨ closing = u.handle.drop → closing.Ends i others w l out w' l' →
    Step v i others ⟨w, l, front ++ u :: back, syncs⟩ ⟨w', l', front ++ u.shut :: back, syncs⟩
  | hold {b : Bench} {k : Kind} {a : Attribute k} {r : RequestRef} {out : Except Failure Hold}
    {w' : World} {l' : Workspace} : v.Offers a →
    (a.hold r).Ends i others b.world b.workspace out w' l' →
    Step v i others b ⟨w', l', b.updates, b.syncs ++ taken out⟩
  | release {w w' : World} {l l' : Workspace} {updates : List Update} {front back : List Sync}
    {y : Sync} {out : Except Failure Bool} : y.hold.release.Ends i others w l out w' l' →
    Step v i others ⟨w, l, updates, front ++ y :: back⟩ ⟨w', l', updates, front ++ y.shut :: back⟩
  | drop {w w' : World} {l l' : Workspace} {updates : List Update} {front back : List Sync}
    {y : Sync} {out : Except Failure Unit} : y.hold.drop.Ends i others w l out w' l' →
    Step v i others ⟨w, l, updates, front ++ y :: back⟩ ⟨w', l', updates, front ++ y.shut :: back⟩

end Bench

/-! ### What drafts contain -/

namespace Workspace

/-- Of each draft its working value and whether one was committed. -/
def contents (l : Workspace) : List (Option Value × Bool) :=
  l.drafts.map fun d => (d.current, d.committed)

end Workspace

/-! ### Handles and drafts -/

namespace Bench

variable {v : Venue} {updates updates' front back : List Update} {u o : Update} {l l' : Workspace}

theorem mem_shut {x : Update} (hx : x ∈ front ++ u.shut :: back) :
    x ∈ front ++ u :: back ∨ x = u.shut := by
  simp only [List.mem_append, List.mem_cons] at hx ⊢
  tauto

theorem exists_shut {x : Update} (hx : x ∈ front ++ u :: back) :
    x ∈ front ++ u.shut :: back ∨ x = u ∧ u.shut ∈ front ++ u.shut :: back := by
  simp only [List.mem_append, List.mem_cons] at hx ⊢
  tauto

theorem Update.drafts_closing (u : Update) (l : Workspace) : (u.handle.closing l).drafts =
    (l.editDraft u.handle.draft fun e => { e with closed := true }).drafts :=
  u.handle.drafts_closing l

theorem Update.active_closing (u : Update) (l : Workspace) : (u.handle.closing l).active =
    if l.active.get? u.key = some u.handle.draft then l.active.erase u.key else l.active :=
  u.handle.active_closing_eq l

theorem Update.isOpen_iff : u.isOpen = true ↔ u.handle.isNested = false ∧ u.closed = false := by
  simp [isOpen]

/-- The outermost handles have a draft each, of their kind, which is closed when they are. -/
structure Numbered (updates : List Update) (l : Workspace) : Prop where
  outline_eq : ∀ u ∈ updates, u.handle.isNested = false →
    l.outline[u.handle.draft]? = some (u.kind, u.closed)
  nodup : ((updates.filter fun u => !u.handle.isNested).map fun u => u.handle.draft).Nodup

namespace Numbered

section Append

variable (h : Numbered updates l)

include h

theorem same (houtline : l'.outline = l.outline) : Numbered updates l' :=
  ⟨houtline ▸ h.outline_eq, h.nodup⟩

theorem draft_lt (hu : u ∈ updates) (hnested : u.handle.isNested = false) :
    u.handle.draft < l.outline.length :=
  (List.getElem?_eq_some_iff.mp (h.outline_eq u hu hnested)).1

theorem eq_of_draft (hu : u ∈ updates) (ho : o ∈ updates) (hun : u.handle.isNested = false)
    (hon : o.handle.isNested = false) (hdraft : u.handle.draft = o.handle.draft) : u = o :=
  List.inj_on_of_nodup_map h.nodup (List.mem_filter.mpr ⟨hu, by simp [hun]⟩)
    (List.mem_filter.mpr ⟨ho, by simp [hon]⟩) hdraft

/-- A section that joins another one has no draft of its own. -/
theorem join (hnested : u.handle.isNested = true) : Numbered (updates ++ [u]) l := by
  refine ⟨fun x hx hxnested => ?_, ?_⟩
  · rcases List.mem_append.mp hx with hx | hx
    · exact h.outline_eq x hx hxnested
    · rw [List.mem_singleton.mp hx, hnested] at hxnested
      cases hxnested
  · rw [List.filter_append]
    simpa [hnested] using h.nodup

/-- An outermost section has a new draft. -/
theorem start (hnested : u.handle.isNested = false) (hdraft : u.handle.draft = l.outline.length)
    (houtline : l'.outline = l.outline ++ [(u.kind, u.closed)]) : Numbered (updates ++ [u]) l' := by
  refine ⟨fun x hx hxnested => ?_, ?_⟩
  · rw [houtline]
    rcases List.mem_append.mp hx with hx | hx
    · rw [List.getElem?_append_left (h.draft_lt hx hxnested)]
      exact h.outline_eq x hx hxnested
    · rw [List.mem_singleton.mp hx, hdraft]
      simp
  · rw [List.filter_append, List.map_append, List.nodup_append]
    refine ⟨h.nodup, by simp [hnested], ?_⟩
    intro d hd d' hd'
    obtain ⟨x, hx, rfl⟩ := List.mem_map.mp hd
    obtain ⟨hx, hxnested⟩ := List.mem_filter.mp hx
    rw [List.filter_cons_of_pos (by simp [hnested]), List.filter_nil, List.map_cons, List.map_nil,
      List.mem_singleton] at hd'
    rw [hd', hdraft]
    exact Nat.ne_of_lt (h.draft_lt hx (by simpa using hxnested))

end Append

section Shut

variable (h : Numbered (front ++ u :: back) l)

include h

/-- Closing a handle changes neither what the handles are for nor which drafts they have. -/
theorem nodup_shut : (((front ++ u.shut :: back).filter fun u => !u.handle.isNested).map
    fun u => u.handle.draft).Nodup := by
  have hnodup := h.nodup
  simp only [List.filter_append, List.filter_cons, List.map_append] at hnodup ⊢
  cases hnested : u.handle.isNested <;> simpa [Update.shut, hnested] using hnodup

theorem shut_idle (hopen : u.isOpen = false) : Numbered (front ++ u.shut :: back) l := by
  refine ⟨fun x hx hnested => ?_, h.nodup_shut⟩
  rcases mem_shut hx with hx | rfl
  · exact h.outline_eq x hx hnested
  · have hclosed : u.closed = true := by
      have hunested : u.handle.isNested = false := hnested
      simpa [Update.isOpen, hunested] using hopen
    have houtline := h.outline_eq u (by simp) hnested
    rwa [hclosed] at houtline

theorem draft_ne (hnested : u.handle.isNested = false) {x : Update}
    (hx : x ∈ front ∨ x ∈ back) (hxnested : x.handle.isNested = false) :
    x.handle.draft ≠ u.handle.draft := by
  have hnodup := h.nodup
  rw [List.filter_append, List.filter_cons_of_pos (by simp [hnested]), List.map_append,
    List.map_cons, List.nodup_append, List.nodup_cons] at hnodup
  obtain ⟨_, ⟨hback, _⟩, hfront⟩ := hnodup
  have hmem : ∀ {l : List Update}, x ∈ l →
      x.handle.draft ∈ (l.filter fun u => !u.handle.isNested).map fun u => u.handle.draft :=
    fun hxl => List.mem_map_of_mem (List.mem_filter.mpr ⟨hxl, by simp [hxnested]⟩)
  rcases hx with hx | hx
  · exact hfront _ (hmem hx) _ List.mem_cons_self
  · intro heq
    rw [← heq] at hback
    exact hback (hmem hx)

theorem shut_open (hnested : u.handle.isNested = false) :
    Numbered (front ++ u.shut :: back) (u.handle.closing l) := by
  refine ⟨fun x hx hxnested => ?_, h.nodup_shut⟩
  have houtline : (u.handle.closing l).outline[x.handle.draft]? =
      (l.drafts[x.handle.draft]?.map fun e => if u.handle.draft = x.handle.draft then
        { e with closed := true } else e).map fun e => (e.kind, e.closed) := by
    rw [Workspace.outline, u.drafts_closing, List.getElem?_map]
    simp only [Workspace.editDraft, List.getElem?_modify]
    rfl
  rw [houtline]
  have hother : x = u.shut ∨ x ∈ front ∨ x ∈ back := by
    simp only [List.mem_append, List.mem_cons] at hx
    tauto
  rcases hother with rfl | hx
  · have hdraft := h.outline_eq u (by simp) hnested
    rw [Workspace.outline, List.getElem?_map, Option.map_eq_some_iff] at hdraft
    obtain ⟨e, he, heq⟩ := hdraft
    have hkind : e.kind = u.kind := (Prod.mk.inj heq).1
    change ((l.drafts[u.handle.draft]?.map _).map _) = some (u.kind, true)
    simp [he, hkind, Update.shut]
  · have hne := h.draft_ne hnested hx hxnested
    have hdraft := h.outline_eq x (by simp only [List.mem_append, List.mem_cons]; tauto) hxnested
    rw [Workspace.outline, List.getElem?_map] at hdraft
    simp [Ne.symm hne, hdraft]

end Shut

end Numbered

/-- What a step may do to the handles of a thread and to its drafts. -/
inductive Change (v : Venue) (l l' : Workspace) : List Update → List Update → Prop
  | same (updates : List Update) : l'.outline = l.outline → l'.active = l.active →
    Change v l l' updates updates
  | join (updates : List Update) {u : Update} : v.Offers u.handle.subject →
    u.handle.isNested = true → l.openDraft? u.kind u.key.1 u.key.2 = some u.handle.draft →
    l'.outline = l.outline → l'.active = l.active → Change v l l' updates (updates ++ [u])
  | start (updates : List Update) {u : Update} : v.Offers u.handle.subject → u.isOpen = true →
    l.openDraft? u.kind u.key.1 u.key.2 = none → u.handle.draft = l.outline.length →
    l'.outline = l.outline ++ [(u.kind, u.closed)] →
    l'.active = l.active.insert u.key u.handle.draft → Change v l l' updates (updates ++ [u])
  | idle (front back : List Update) {u : Update} : u.isOpen = false → l'.outline = l.outline →
    l'.active = l.active → Change v l l' (front ++ u :: back) (front ++ u.shut :: back)
  | shut (front back : List Update) {u : Update} : u.isOpen = true →
    l'.outline = (u.handle.closing l).outline → l'.active = (u.handle.closing l).active →
    Change v l l' (front ++ u :: back) (front ++ u.shut :: back)

theorem Numbered.change (h : Numbered updates l) (hchange : Change v l l' updates updates') :
    Numbered updates' l' := by
  cases hchange with
  | same _ houtline _ => exact h.same houtline
  | join _ _ hnested _ houtline _ => exact (h.join hnested).same houtline
  | start _ _ hopen _ hdraft houtline _ =>
    exact h.start (Update.isOpen_iff.mp hopen).1 hdraft houtline
  | idle _ _ hopen houtline _ => exact (h.shut_idle hopen).same houtline
  | shut _ _ hopen houtline _ => exact (h.shut_open (Update.isOpen_iff.mp hopen).1).same houtline

/-! ### Handles and locks -/

variable {syncs first last : List Sync} {y : Sync} {C : Company} {b b' : Bench} {i : ThreadId}
  {others : World → World → Prop} {g g' : Grip} {w w' : World}

/-- The holds of the handles that are not closed. -/
def holds (updates : List Update) (syncs : List Sync) : List Hold :=
  updates.filterMap Update.hold? ++ syncs.filterMap Sync.hold?

/-- The handles agree with the tickets: each that is not closed has a level of its session's lock,
and nothing else has. -/
structure Locked (v : Venue) (updates : List Update) (syncs : List Sync) (g : Grip) : Prop where
  tickets_perm : g.tickets.Perm ((holds updates syncs).map fun h => (h, true))
  gone : ∀ y ∈ syncs, y.released = true → y.hold ∈ g.gone
  hold_eq : ∀ u ∈ updates, ∀ h, u.handle.hold = some h →
    h.table = v.table ∧ h.session = u.handle.request.session
  sync_eq : ∀ y ∈ syncs, y.hold.table = v.table

namespace Locked

section Same

variable (h : Locked v updates syncs g)

include h

theorem same (htickets : g'.tickets = g.tickets) (hgone : g.gone ⊆ g'.gone) :
    Locked v updates syncs g' :=
  ⟨htickets ▸ h.tickets_perm, fun y hy hreleased => hgone (h.gone y hy hreleased), h.hold_eq,
    h.sync_eq⟩

theorem mem_tickets {hold : Hold} (hmem : hold ∈ holds updates syncs) :
    (hold, true) ∈ g.tickets :=
  h.tickets_perm.mem_iff.mpr (List.mem_map_of_mem hmem)

/-- The thread has the lock of an open section. -/
theorem exists_hold (hu : u ∈ updates) (hopen : u.isOpen = true) :
    ∃ x, g.Has x ∧ x.table = v.table ∧ x.session = u.key.1 := by
  obtain ⟨hnested, hclosed⟩ := Update.isOpen_iff.mp hopen
  rw [Section.isNested, Option.isNone_eq_false_iff, Option.isSome_iff_exists] at hnested
  obtain ⟨x, hx⟩ := hnested
  refine ⟨x, h.mem_tickets (List.mem_append_left _ ?_), h.hold_eq u hu x hx⟩
  exact List.mem_filterMap.mpr ⟨u, hu, by simp [Update.hold?, hclosed, hx]⟩

/-- A hold has been added to those of the handles. -/
theorem take {updates' : List Update} {syncs' : List Sync} (hold : Hold)
    (hperm : (holds updates' syncs').Perm (hold :: holds updates syncs))
    (htickets : g'.tickets = g.tickets ++ [(hold, true)]) (hgone : g.gone ⊆ g'.gone)
    (hreleased : ∀ y ∈ syncs', y.released = true → y ∈ syncs)
    (hold_eq : ∀ u ∈ updates', ∀ h, u.handle.hold = some h →
      h.table = v.table ∧ h.session = u.handle.request.session)
    (sync_eq : ∀ y ∈ syncs', y.hold.table = v.table) : Locked v updates' syncs' g' := by
  refine ⟨?_, fun y hy hyes => hgone (h.gone y (hreleased y hy hyes) hyes), hold_eq, sync_eq⟩
  rw [htickets]
  refine (List.perm_append_singleton _ _).trans ?_
  exact (h.tickets_perm.cons _).trans (hperm.map fun h => (h, true)).symm

/-- A hold has been given back. -/
theorem leave (hnodup : (g.tickets.map Prod.fst).Nodup) {updates' : List Update}
    {syncs' : List Sync} {hold : Hold} {first last : List Hold}
    (hbefore : holds updates syncs = first ++ hold :: last)
    (hafter : holds updates' syncs' = first ++ last)
    (htickets : g'.tickets = g.tickets.filter fun e => decide (e.1 ≠ hold))
    (hgone : ∀ y ∈ syncs', y.released = true → y.hold ∈ g'.gone)
    (hold_eq : ∀ u ∈ updates', ∀ h, u.handle.hold = some h →
      h.table = v.table ∧ h.session = u.handle.request.session)
    (sync_eq : ∀ y ∈ syncs', y.hold.table = v.table) : Locked v updates' syncs' g' := by
  refine ⟨?_, hgone, hold_eq, sync_eq⟩
  have hperm := h.tickets_perm
  rw [hbefore] at hperm
  have hdistinct : (first ++ hold :: last).Nodup := by
    have hfst := (hperm.map Prod.fst).nodup_iff.mp hnodup
    rwa [List.map_map, show (Prod.fst ∘ fun h : Hold => (h, true)) = id from rfl,
      List.map_id] at hfst
  have hnot : ∀ x ∈ first ++ last, x ≠ hold := by
    rw [List.nodup_append, List.nodup_cons] at hdistinct
    obtain ⟨_, ⟨hlast, _⟩, hfirst⟩ := hdistinct
    intro x hx
    rcases List.mem_append.mp hx with hx | hx
    · exact hfirst x hx hold List.mem_cons_self
    · rintro rfl
      exact hlast hx
  rw [htickets, hafter]
  refine (hperm.filter fun e => decide (e.1 ≠ hold)).trans (List.Perm.of_eq ?_)
  rw [List.filter_map, List.filter_append, List.filter_cons_of_neg (by simp), ← List.filter_append,
    List.filter_eq_self.mpr (by simpa using hnot)]

theorem hold_append (hnew : ∀ x, u.handle.hold = some x →
      x.table = v.table ∧ x.session = u.handle.request.session) :
    ∀ o ∈ updates ++ [u], ∀ x, o.handle.hold = some x →
      x.table = v.table ∧ x.session = o.handle.request.session := by
  intro o ho
  rcases List.mem_append.mp ho with ho | ho
  · exact h.hold_eq o ho
  · rw [List.mem_singleton.mp ho]
    exact hnew

/-- A section that joins another one holds nothing. -/
theorem join (hnone : u.handle.hold = none) : Locked v (updates ++ [u]) syncs g := by
  have hholds : holds (updates ++ [u]) syncs = holds updates syncs := by
    simp [holds, Update.hold?, hnone]
  refine ⟨?_, h.gone, h.hold_append fun x hx => ?_, h.sync_eq⟩
  · rw [hholds]
    exact h.tickets_perm
  · rw [hnone] at hx
    cases hx

/-- An outermost section has one more level of the lock. -/
theorem start {hold : Hold} (hopen : u.hold? = some hold) (htable : hold.table = v.table)
    (hsession : hold.session = u.handle.request.session)
    (htickets : g'.tickets = g.tickets ++ [(hold, true)]) (hgone : g.gone ⊆ g'.gone) :
    Locked v (updates ++ [u]) syncs g' := by
  refine h.take hold ?_ htickets hgone (fun _ hy _ => hy) (h.hold_append fun x hx => ?_) h.sync_eq
  · simp only [holds, List.filterMap_append, List.filterMap_cons, hopen, List.filterMap_nil]
    rw [List.append_assoc]
    exact List.perm_middle
  · have hsame : some x = some hold := by
      rw [← hx, ← hopen, Update.hold?]
      split
      · rename_i hclosed
        rw [Update.hold?, if_pos hclosed] at hopen
        cases hopen
      · rfl
    rw [Option.some.inj hsame]
    exact ⟨htable, hsession⟩

end Same

section Shut

variable (h : Locked v (front ++ u :: back) syncs g)

include h

theorem hold_shut : ∀ x ∈ front ++ u.shut :: back, ∀ hold, x.handle.hold = some hold →
    hold.table = v.table ∧ hold.session = x.handle.request.session := by
  intro x hx
  rcases mem_shut hx with hx | rfl
  · exact h.hold_eq x hx
  · exact h.hold_eq u (by simp)

theorem shut_idle (hnone : u.hold? = none) : Locked v (front ++ u.shut :: back) syncs g := by
  have hshut : u.shut.hold? = none := rfl
  have hholds : holds (front ++ u.shut :: back) syncs = holds (front ++ u :: back) syncs := by
    simp [holds, hnone, hshut]
  refine ⟨?_, h.gone, h.hold_shut, h.sync_eq⟩
  rw [hholds]
  exact h.tickets_perm

theorem mem_tickets_of_hold {hold : Hold} (hsome : u.hold? = some hold) :
    (hold, true) ∈ g.tickets :=
  h.mem_tickets (by simp [holds, hsome])

theorem shut_open (hnodup : (g.tickets.map Prod.fst).Nodup) {hold : Hold}
    (hsome : u.hold? = some hold)
    (htickets : g'.tickets = g.tickets.filter fun e => decide (e.1 ≠ hold))
    (hgone : g.gone ⊆ g'.gone) : Locked v (front ++ u.shut :: back) syncs g' := by
  have hshut : u.shut.hold? = none := rfl
  have hbefore : holds (front ++ u :: back) syncs = front.filterMap Update.hold? ++ hold ::
      (back.filterMap Update.hold? ++ syncs.filterMap Sync.hold?) := by
    simp [holds, hsome]
  have hafter : holds (front ++ u.shut :: back) syncs = front.filterMap Update.hold? ++
      (back.filterMap Update.hold? ++ syncs.filterMap Sync.hold?) := by
    simp [holds, hshut]
  exact h.leave hnodup hbefore hafter htickets
    (fun y hy hreleased => hgone (h.gone y hy hreleased)) h.hold_shut h.sync_eq

end Shut

theorem wp_hold (h : Locked v updates syncs g) {k : Kind} {a : Attribute k} (ha : v.Offers a)
    (r : RequestRef) : C.logic.wp (fun out g' => g'.workspace = g.workspace ∧
      Locked v updates (syncs ++ taken out) g' ∧ C.Near g g'.storage) (a.hold r) g := by
  refine Company.wp_acquire (fun _ g₁ h₁ => ?_) fun key g₁ h₁ _ => ?_
  · rw [taken, List.append_nil]
    exact ⟨h₁.workspace_eq, h.same h₁.tickets_eq h₁.gone_subset, h₁.near⟩
  · refine ⟨h₁.workspace_eq, ?_, h₁.near⟩
    have hmem : ∀ {y}, y ∈ syncs ++ taken (.ok (⟨a.table, r.session, key⟩ : Hold)) →
        y ∈ syncs ∨ y = ⟨⟨a.table, r.session, key⟩, false⟩ := by
      intro y hy
      simpa [taken] using hy
    refine h.take ⟨a.table, r.session, key⟩ ?_ ?_ h₁.gone_subset ?_ h.hold_eq ?_
    · simp only [holds, taken, List.filterMap_append, ← List.append_assoc]
      exact List.perm_append_singleton _ _
    · rw [Grip.take, h₁.tickets_eq]
    · intro y hy hreleased
      rcases hmem hy with hy | rfl
      · exact hy
      · cases hreleased
    · intro y hy
      rcases hmem hy with hy | rfl
      · exact h.sync_eq y hy
      · exact ha.table_eq

theorem wp_release (h : Locked v updates (first ++ y :: last) g)
    (hnodup : (g.tickets.map Prod.fst).Nodup) :
    C.logic.wp (fun _ g' => g'.workspace = g.workspace ∧
      Locked v updates (first ++ y.shut :: last) g' ∧ C.Near g g'.storage) y.hold.release g := by
  have hy : y ∈ first ++ y :: last := by simp
  have hmem : ∀ {x}, x ∈ first ++ y.shut :: last → x ∈ first ++ y :: last ∨ x = y.shut := by
    intro x hx
    simp only [List.mem_append, List.mem_cons] at hx ⊢
    tauto
  have sync_eq : ∀ x ∈ first ++ y.shut :: last, x.hold.table = v.table := by
    intro x hx
    rcases hmem hx with hx | rfl
    · exact h.sync_eq x hx
    · exact h.sync_eq y hy
  cases hreleased : y.released with
  | true =>
    have hsame : y.shut = y := by rw [Sync.shut, ← hreleased]
    refine Company.wp_giveBack_gone (h.gone y hy hreleased) fun g₁ h₁ => ?_
    rw [hsame]
    exact ⟨h₁.workspace_eq, h.same h₁.tickets_eq h₁.gone_subset, h₁.near⟩
  | false =>
    have hsome : y.hold? = some y.hold := by simp [Sync.hold?, hreleased]
    have hshut : y.shut.hold? = none := rfl
    have hbefore : holds updates (first ++ y :: last) =
        (updates.filterMap Update.hold? ++ first.filterMap Sync.hold?) ++ y.hold ::
          last.filterMap Sync.hold? := by
      simp [holds, hsome]
    have hafter : holds updates (first ++ y.shut :: last) =
        (updates.filterMap Update.hold? ++ first.filterMap Sync.hold?) ++
          last.filterMap Sync.hold? := by
      simp [holds, hshut]
    refine Company.wp_giveBack (h.mem_tickets (by rw [hbefore]; simp)) fun g₁ h₁ => ?_
    refine ⟨h₁.workspace_eq, ?_, h₁.near⟩
    refine h.leave hnodup hbefore hafter ?_ (fun x hx hxreleased => ?_) h.hold_eq sync_eq
    · rw [Grip.leave, h₁.tickets_eq]
    · rcases hmem hx with hx | rfl
      · exact List.mem_cons_of_mem _ (h₁.gone_subset (h.gone x hx hxreleased))
      · exact List.mem_cons_self

theorem wp_drop (h : Locked v updates (first ++ y :: last) g)
    (hnodup : (g.tickets.map Prod.fst).Nodup) :
    C.logic.wp (fun _ g' => g'.workspace = g.workspace ∧
      Locked v updates (first ++ y.shut :: last) g' ∧ C.Near g g'.storage) y.hold.drop g := by
  rw [Hold.drop, Logic.wp_bind]
  refine Logic.wp_mono (fun out g' hout => ?_) (h.wp_release hnodup)
  cases out <;> exact hout

theorem wp_start (h : Locked v updates syncs g) {k : Kind} {a : Attribute k} (ha : v.Offers a)
    (r : RequestRef) : C.logic.wp (fun out g' =>
      Change v g.workspace g'.workspace updates (updates ++ opened out) ∧
      Locked v (updates ++ opened out) syncs g' ∧
      g.workspace.contents <+: g'.workspace.contents ∧ C.Near g g'.storage)
      (Section.start a r) g := by
  refine Company.wp_start (fun d hopen => ?_) (fun _ f g₁ h₁ => ?_) ?_
  · exact ⟨.join updates ha rfl hopen rfl rfl, h.join rfl, List.prefix_rfl, fun _ _ _ => rfl⟩
  · refine ⟨?_, ?_, ?_, h₁.near⟩
    · rw [h₁.workspace_eq, opened, List.append_nil]
      exact .same updates rfl rfl
    · rw [opened, List.append_nil]
      exact h.same h₁.tickets_eq h₁.gone_subset
    · rw [h₁.workspace_eq]
  · intro hopen key g₁ g₂ g₃ n d h₁ _ h₂ h₃ _
    have hdrafts : g.workspace.drafts.length = g.workspace.outline.length := by
      rw [Workspace.outline, List.length_map]
    have houtline : ((g.workspace.fill r a.name (g₂.stored a r)).opened k r a.name
        (.of k d)).outline = g.workspace.outline ++ [(k, false)] := by
      simp [Workspace.outline, Workspace.opened]
    have hnear := h₁.near_take (h₂.trans h₃)
    refine ⟨?_, ?_, ?_, hnear⟩
    · exact .start updates ha rfl hopen hdrafts houtline
        (by simp [Grip.work, Workspace.opened, Update.key])
    · refine h.start rfl ha.table_eq rfl ?_ ?_
      · change g₃.tickets = _
        rw [h₃.tickets_eq, h₂.tickets_eq, Grip.take, h₁.tickets_eq]
      · exact List.Subset.trans h₁.gone_subset (List.Subset.trans h₂.gone_subset h₃.gone_subset)
    · simp [Workspace.contents, Workspace.opened, Grip.work]

theorem wp_close (h : Locked v (front ++ u :: back) syncs g)
    (hnumbered : Numbered (front ++ u :: back) g.workspace)
    (hnodup : (g.tickets.map Prod.fst).Nodup) {closing : Routine Unit}
    (hclosing : closing = u.handle.close ∨ closing = u.handle.drop) :
    C.logic.wp (fun _ g' =>
      Change v g.workspace g'.workspace (front ++ u :: back) (front ++ u.shut :: back) ∧
      Locked v (front ++ u.shut :: back) syncs g' ∧
      g'.workspace.contents = g.workspace.contents ∧ C.Near g g'.storage) closing g := by
  have hflag : u.handle.isNested = false →
      (g.workspace.draft u.handle.draft).closed = u.closed := fun hnested =>
    (Workspace.closed_of_outline (hnumbered.outline_eq u (by simp) hnested)).2
  refine Company.wp_close hclosing (fun hdone => ?_) fun hold hhold hclosed => ?_
  · have hopen : u.isOpen = false := by
      rcases hdone with hnone | hclosed
      · simp [Update.isOpen, Section.isNested, hnone]
      · cases hnested : u.handle.isNested with
        | true => simp [Update.isOpen, hnested]
        | false => simp [Update.isOpen, ← hflag hnested, hclosed]
    have hnone : u.hold? = none := by
      rw [Update.hold?]
      split
      · rfl
      · rename_i hflag
        simpa [Update.isOpen, hflag, Section.isNested] using hopen
    exact ⟨.idle front back hopen rfl rfl, h.shut_idle hnone, rfl, fun _ _ _ => rfl⟩
  · have hnested : u.handle.isNested = false := by simp [Section.isNested, hhold]
    have hopen := Update.isOpen_iff.mpr ⟨hnested, (hflag hnested).symm.trans hclosed⟩
    have hsome : u.hold? = some hold := by
      simp [Update.hold?, (Update.isOpen_iff.mp hopen).2, hhold]
    refine ⟨⟨true, h.mem_tickets_of_hold hsome⟩, fun out g₁ h₁ => ?_⟩
    refine ⟨.shut front back hopen rfl rfl, h.shut_open hnodup hsome ?_ ?_, ?_, h₁.near⟩
    · change g₁.tickets.filter _ = _
      rw [h₁.tickets_eq]
    · exact fun x hx => List.mem_cons_of_mem _ (h₁.gone_subset hx)
    · change (u.handle.closing g.workspace).contents = g.workspace.contents
      rw [Workspace.contents, u.drafts_closing]
      exact Workspace.map_editDraft _ _ _ fun _ => rfl

end Locked

/-! ### What a step does -/

/-- What a step may do to values: what an operation on an attribute does, or nothing, except that
there may be a new draft. -/
inductive Moves (C : Company) (v : Venue) (g g' : Grip) : Prop
  | values {k : Kind} {a : Attribute k} {r : RequestRef} : v.Offers a → C.Effect a r g g' →
    Moves C v g g'
  | still : g.workspace.contents <+: g'.workspace.contents → C.Near g g'.storage → Moves C v g g'

end Bench

theorem Company.Effect.keeps {C : Company} {g g' : Grip} {k : Kind} {a : Attribute k}
    {r : RequestRef} (h : C.Effect a r g g') :
    g'.workspace.outline = g.workspace.outline ∧ g'.workspace.active = g.workspace.active ∧
      g.gone ⊆ g'.gone := by
  induction h with
  | drift h => exact ⟨by rw [h.workspace_eq], by rw [h.workspace_eq], h.gone_subset⟩
  | edit g f => exact ⟨rfl, rfl, List.Subset.refl _⟩
  | write g value hopen => exact ⟨rfl, rfl, List.Subset.refl _⟩
  | commit g d value f hopen hclosed =>
    exact ⟨Workspace.outline_record _ _ _, rfl, List.Subset.refl _⟩
  | trans _ _ ih ih' =>
    exact ⟨ih'.1.trans ih.1, ih'.2.1.trans ih.2.1, List.Subset.trans ih.2.2 ih'.2.2⟩

theorem Grip.Fits.work {C : Company} {i : ThreadId} {g : Grip} {w : World} (h : g.Fits C i w)
    (l : Workspace) : (g.work l).Fits C i w :=
  ⟨h.sound, h.tickets_eq, h.gone, h.storage_eq, h.calm⟩

namespace Bench

variable {v : Venue} {updates front back : List Update} {u : Update} {syncs first last : List Sync}
  {y : Sync} {C : Company} {b b' : Bench} {i : ThreadId} {others : World → World → Prop}
  {g g' : Grip} {w w' : World} {l l' : Workspace}

/-- What a step may do to values, whichever draft a handle is for: a commit through a handle is an
operation on an attribute as far as its draft is the one in the table. -/
inductive Touches (C : Company) (v : Venue) (updates : List Update) (g g' : Grip) : Prop
  | moves : Moves C v g g' → Touches C v updates g g'
  | commit {u : Update} : u ∈ updates → (g.workspace.draft u.handle.draft).closed = false →
    (g.workspace.openDraft? u.kind u.key.1 u.key.2 = some u.handle.draft →
      C.Effect u.handle.subject u.handle.request g g') → Touches C v updates g g'

/-- What becomes of the handles, the drafts and the locks when the thread has done something. -/
structure Stepped (C : Company) (v : Venue) (i : ThreadId) (b b' : Bench) (g g' : Grip) :
    Prop where
  fits : g'.Fits C i b'.world
  workspace_eq : g'.workspace = b'.workspace
  change : Change v g.workspace g'.workspace b.updates b'.updates
  locked : Locked v b'.updates b'.syncs g'
  touches : Touches C v b.updates g g'

namespace Stepped

variable (hlocked : Locked v b.updates b.syncs g)

include hlocked

theorem effect {k : Kind} {a : Attribute k} {r : RequestRef} (ha : v.Offers a)
    (heffect : C.Effect a r g g') (hfits : g'.Fits C i w') (hl : g'.workspace = l') :
    Stepped C v i b ⟨w', l', b.updates, b.syncs⟩ g g' := by
  obtain ⟨houtline, hactive, hgone⟩ := heffect.keeps
  exact ⟨hfits, hl, .same _ houtline hactive, hlocked.same heffect.tickets_eq hgone,
    .moves (.values ha heffect)⟩

/-- Nothing has happened but what does not show in the handles. -/
theorem drift {g₁ : Grip} (hdrift : C.Drift g₁ g')
    (houtline : g₁.workspace.outline = g.workspace.outline)
    (hactive : g₁.workspace.active = g.workspace.active) (htickets : g₁.tickets = g.tickets)
    (hgone : g₁.gone = g.gone) (hstorage : g₁.storage = g.storage)
    (hcontents : g₁.workspace.contents = g.workspace.contents) (hfits : g'.Fits C i w')
    (hl : g'.workspace = l') : Stepped C v i b ⟨w', l', b.updates, b.syncs⟩ g g' := by
  refine ⟨hfits, hl, .same _ ?_ ?_, ?_, .moves (.still ?_ ?_)⟩
  · rw [hdrift.workspace_eq, houtline]
  · rw [hdrift.workspace_eq, hactive]
  · exact hlocked.same (hdrift.tickets_eq.trans htickets) (hgone ▸ hdrift.gone_subset)
  · rw [hdrift.workspace_eq, hcontents]
  · have hhas : g₁.Has = g.Has := by
      funext k
      rw [Grip.Has, htickets, Grip.Has]
    intro s session hleaves
    rw [hdrift.near s session (hhas ▸ hleaves), hstorage]

theorem editDraft (d : DraftId) {f : Draft → Draft}
    (houtline : ∀ e, ((f e).kind, (f e).closed) = (e.kind, e.closed))
    (hcontents : ∀ e, ((f e).current, (f e).committed) = (e.current, e.committed))
    (hdrift : C.Drift (g.work (g.workspace.editDraft d f)) g') (hfits : g'.Fits C i w')
    (hl : g'.workspace = l') : Stepped C v i b ⟨w', l', b.updates, b.syncs⟩ g g' := by
  refine drift hlocked hdrift ?_ rfl rfl rfl rfl ?_ hfits hl
  · exact Workspace.map_editDraft _ d (fun e => (e.kind, e.closed)) houtline
  · exact Workspace.map_editDraft _ d (fun e => (e.current, e.committed)) hcontents

end Stepped

theorem Locked.wp_commit (h : Locked v updates syncs g) (hu : u ∈ updates) (value : u.kind.Data) :
    C.logic.wp (fun _ g' => g'.workspace.outline = g.workspace.outline ∧
      g'.workspace.active = g.workspace.active ∧ Locked v updates syncs g' ∧
      Touches C v updates g g') (u.handle.commit value) g := by
  have hdrift : ∀ {g₁}, C.Drift g g₁ → g₁.workspace.outline = g.workspace.outline ∧
      g₁.workspace.active = g.workspace.active ∧ Locked v updates syncs g₁ ∧
      Touches C v updates g g₁ := fun h₁ =>
    ⟨by rw [h₁.workspace_eq], by rw [h₁.workspace_eq], h.same h₁.tickets_eq h₁.gone_subset,
      .moves (.still (by rw [h₁.workspace_eq]) h₁.near)⟩
  refine Company.wp_section_commit (fun _ => hdrift (.refl C g)) (fun _ _ _ h₁ => hdrift h₁) ?_
  intro hclosed g₁ h₁
  obtain ⟨f, hf⟩ := g.workspace.exists_wrote u.handle.request u.handle.subject.name .all
    (some (.of u.kind value))
  rw [hf]
  refine ⟨Workspace.outline_record _ _ _, rfl, h.same h₁.tickets_eq h₁.gone_subset,
    .commit hu hclosed fun hopen => ?_⟩
  rw [← h₁.workspace_eq] at hopen hclosed ⊢
  exact (Company.Effect.drift h₁).trans (.commit g₁ u.handle.draft (some value) f hopen hclosed)

/-- What a step does, whatever the thread has in the table of open drafts. -/
theorem Step.stepped (hothers : C.Bounds i others) (hstep : Step v i others b b')
    (hfits : g.Fits C i b.world) (hl : g.workspace = b.workspace)
    (hnumbered : Numbered b.updates g.workspace) (hlocked : Locked v b.updates b.syncs g) :
    ∃ g', Stepped C v i b b' g g' := by
  cases hstep with
  | others hacted =>
    obtain ⟨st, hnear, hfits⟩ := hothers _ _ _ hacted hfits
    exact ⟨_, .drift hlocked (.see hnear) rfl rfl rfl rfl rfl rfl hfits hl⟩
  | accept _ q =>
    refine ⟨_, .drift hlocked (.refl C (g.work (g.workspace.addRequest q).2)) rfl rfl rfl rfl rfl
      rfl (hfits.work _) ?_⟩
    rw [← hl]
    rfl
  | @read _ k a r policy creating scope _ _ _ ha hends =>
    obtain ⟨g', hfits', hl', heffect⟩ := hends.sound hothers hfits hl
      (Company.Confines.read a r policy creating scope g)
    exact ⟨g', .effect hlocked ha heffect hfits' hl'⟩
  | @write _ k a r value scope _ _ _ ha hends =>
    obtain ⟨g', hfits', hl', heffect⟩ := hends.sound hothers hfits hl
      (Company.Confines.write a r value scope g)
    exact ⟨g', .effect hlocked ha heffect hfits' hl'⟩
  | @start _ k a r _ _ _ ha hends =>
    obtain ⟨g', hfits', hl', hchange, hlocked', hcontents, hnear⟩ :=
      hends.sound hothers hfits hl (hlocked.wp_start ha r)
    exact ⟨g', hfits', hl', hchange, hlocked', .moves (.still hcontents hnear)⟩
  | @copy _ u _ _ _ hu hends =>
    obtain ⟨g', hfits', hl', hdrift⟩ := hends.sound hothers hfits hl
      (Company.wp_copy fun _ _ hdrift => hdrift)
    exact ⟨g', .editDraft hlocked u.handle.draft (f := fun e => { e with copies := e.copies + 1 })
      (fun _ => rfl) (fun _ => rfl) hdrift hfits' hl'⟩
  | @commit _ u value _ _ _ hu hends =>
    obtain ⟨g', hfits', hl', houtline, hactive, hlocked', htouches⟩ :=
      hends.sound hothers hfits hl (hlocked.wp_commit hu value)
    exact ⟨g', hfits', hl', .same _ houtline hactive, hlocked', htouches⟩
  | @discard _ u _ _ _ hu hends =>
    obtain ⟨g', hfits', hl', hdrift⟩ := hends.sound hothers hfits hl
      (Company.wp_discard (Q := fun _ g' => C.Drift (g.work _) g') (.refl C _))
    exact ⟨g', .editDraft hlocked u.handle.draft (f := fun e => { e with discarded := true })
      (fun _ => rfl) (fun _ => rfl) hdrift hfits' hl'⟩
  | close hclosing hends =>
    obtain ⟨g', hfits', hl', hchange, hlocked', hcontents, hnear⟩ :=
      hends.sound hothers hfits hl (hlocked.wp_close hnumbered hfits.nodup hclosing)
    exact ⟨g', hfits', hl', hchange, hlocked', .moves (.still (by rw [hcontents]) hnear)⟩
  | @hold _ k a r _ _ _ ha hends =>
    obtain ⟨g', hfits', hl', hworkspace, hlocked', hnear⟩ :=
      hends.sound hothers hfits hl (hlocked.wp_hold ha r)
    exact ⟨g', hfits', hl', by rw [hworkspace]; exact .same _ rfl rfl, hlocked',
      .moves (.still (by rw [hworkspace]) hnear)⟩
  | release hends =>
    obtain ⟨g', hfits', hl', hworkspace, hlocked', hnear⟩ :=
      hends.sound hothers hfits hl (hlocked.wp_release hfits.nodup)
    exact ⟨g', hfits', hl', by rw [hworkspace]; exact .same _ rfl rfl, hlocked',
      .moves (.still (by rw [hworkspace]) hnear)⟩
  | drop hends =>
    obtain ⟨g', hfits', hl', hworkspace, hlocked', hnear⟩ :=
      hends.sound hothers hfits hl (hlocked.wp_drop hfits.nodup)
    exact ⟨g', hfits', hl', by rw [hworkspace]; exact .same _ rfl rfl, hlocked',
      .moves (.still (by rw [hworkspace]) hnear)⟩

end Bench

end SessionCart
