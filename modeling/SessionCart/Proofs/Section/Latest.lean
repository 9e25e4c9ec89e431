import SessionCart.Proofs.Section.Abandoned
import SessionCart.Proofs.Section.Tracking

/-!
# Sections of several kinds under one name

A thread may use a name for values of several kinds. The table of open drafts has one place for it,
so an outermost section of another kind, opened meanwhile, takes the place of the open one, and
leaves it empty when it is closed. In whatever order a thread opens and closes sections, the table
has the draft of the outermost one that was opened last, as long as that is open. Session writes of
its kind go through it, and all others go past every open section.
-/

namespace SessionCart

variable {v : Venue} {k : Kind} {a : Attribute k}

/-- The venue with other kinds of values. -/
def Venue.withKind (v : Venue) (kind : String → Kind) : Venue := { v with kind := kind }

/-- The attribute lives at the venue, whatever the kind of its values. -/
structure Venue.Hosts (v : Venue) {k : Kind} (a : Attribute k) : Prop where
  store_eq : a.store = v.store
  table_eq : a.table = v.table

theorem Venue.Hosts.offers (h : v.Hosts a) : (v.withKind fun _ => k).Offers a :=
  ⟨h.store_eq, h.table_eq, rfl⟩

theorem Venue.Offers.hosts {kind : String → Kind} (h : (v.withKind kind).Offers a) : v.Hosts a :=
  ⟨h.store_eq, h.table_eq⟩

namespace Workspace

variable {l : Workspace} {d : DraftId}

theorem current_draft (l : Workspace) (d : DraftId) :
    (l.draft d).current = ((l.drafts.map Draft.current)[d]?).getD none := by
  rw [List.getElem?_map, draft]
  cases l.drafts[d]? <;> rfl

theorem current_record (hd : d < l.drafts.length) (d' : DraftId) (value : Option Value) :
    ((l.record d' value).draft d).current = if d' = d then value else (l.draft d).current := by
  simp only [draft, record, editDraft, List.getElem?_modify, List.getElem?_eq_getElem hd]
  split <;> rfl

end Workspace

namespace Bench

variable {updates updates' front back : List Update} {u o : Update} {l l' : Workspace}
  {key : SessionId × String}

/-! ### The latest section -/

/-- The outermost section of an attribute that was opened last. -/
def latest? (updates : List Update) (key : SessionId × String) : Option Update :=
  (updates.filter fun u => !u.handle.isNested && decide (u.key = key)).getLast?

theorem mem_of_latest? (h : latest? updates key = some o) :
    o ∈ updates ∧ o.handle.isNested = false ∧ o.key = key := by
  simpa using List.mem_filter.mp (List.mem_of_getLast? h)

theorem latest?_append (front back : List Update) (key : SessionId × String) :
    latest? (front ++ back) key = (latest? back key).or (latest? front key) := by
  simp only [latest?, List.filter_append, List.getLast?_append]

theorem latest?_singleton (u : Update) (key : SessionId × String) : latest? [u] key =
    if u.handle.isNested = false ∧ u.key = key then some u else none := by
  rw [latest?, List.filter_cons]
  cases u.handle.isNested <;> by_cases hkey : u.key = key <;> simp [hkey]

theorem latest?_middle (front back : List Update) (u : Update) (key : SessionId × String) :
    latest? (front ++ u :: back) key =
      (latest? back key).or ((latest? [u] key).or (latest? front key)) := by
  rw [latest?_append, show u :: back = [u] ++ back from rfl, latest?_append, Option.or_assoc]

/-- The draft of a section that is open. -/
def Update.openDraft? (u : Update) : Option DraftId := if u.closed then none else some u.handle.draft

theorem Update.openDraft?_eq_some {d : DraftId} :
    u.openDraft? = some d ↔ u.closed = false ∧ u.handle.draft = d := by
  cases hclosed : u.closed <;> simp [openDraft?, hclosed]

/-- The table has the drafts of the latest sections, as far as these are open. -/
def Stacked (updates : List Update) (l : Workspace) : Prop :=
  ∀ key, l.active.get? key = (latest? updates key).bind Update.openDraft?

namespace Stacked

theorem shut_idle (h : Stacked (front ++ u :: back) l) (hopen : u.isOpen = false) :
    Stacked (front ++ u.shut :: back) l := by
  intro key
  rw [h key, latest?_middle, latest?_middle, latest?_singleton, latest?_singleton]
  cases hnested : u.handle.isNested with
  | true => simp [Update.shut, hnested]
  | false =>
    have hsame : u.shut = u := by
      have hclosed : u.closed = true := by simpa [Update.isOpen, hnested] using hopen
      rw [Update.shut, ← hclosed]
    rw [hsame, hnested]

/-- Closing an open section takes its draft out of the table only if it is the latest one. -/
theorem shut_open (h : Stacked (front ++ u :: back) l)
    (hnumbered : Numbered (front ++ u :: back) l) (hopen : u.isOpen = true) :
    Stacked (front ++ u.shut :: back) (u.handle.closing l) := by
  obtain ⟨hnested, hclosed⟩ := Update.isOpen_iff.mp hopen
  have hshutNested : u.shut.handle.isNested = false := hnested
  have hshutKey : u.shut.key = u.key := rfl
  intro key
  have hbefore := h key
  rw [latest?_middle, latest?_singleton, hnested] at hbefore
  rw [u.active_closing, latest?_middle, latest?_singleton, hshutNested, hshutKey]
  by_cases hkey : u.key = key
  · subst hkey
    simp only [and_self, if_true, Option.some_or] at hbefore ⊢
    cases hback : latest? back u.key with
    | none =>
      rw [hback, Option.none_or, Option.bind_some,
        Update.openDraft?_eq_some.mpr ⟨hclosed, rfl⟩] at hbefore
      rw [if_pos hbefore, Dict.get?_erase, if_pos rfl]
      rfl
    | some o =>
      obtain ⟨hmem, honested, _⟩ := mem_of_latest? hback
      have hne := hnumbered.draft_ne hnested (.inr hmem) honested
      rw [hback, Option.some_or, Option.bind_some] at hbefore
      rw [hbefore, if_neg fun hentry => hne (Update.openDraft?_eq_some.mp hentry).2, hbefore]
      rfl
  · simp only [hkey, and_false, if_false, Option.none_or] at hbefore ⊢
    rw [← hbefore]
    split
    · rw [Dict.get?_erase, if_neg hkey]
    · rfl

theorem change (h : Stacked updates l) (hnumbered : Numbered updates l)
    (hchange : Change v l l' updates updates') : Stacked updates' l' := by
  intro key
  cases hchange with
  | same _ _ hactive => rw [hactive, h key]
  | join _ _ hnested _ _ hactive =>
    rw [hactive, h key, latest?_append, latest?_singleton, hnested]
    simp
  | start _ _ hopen _ _ _ hactive =>
    obtain ⟨hnested, hclosed⟩ := Update.isOpen_iff.mp hopen
    rw [hactive, Dict.get?_insert, latest?_append, latest?_singleton, hnested]
    split
    · rename_i hkey
      simp [hkey, Update.openDraft?, hclosed]
    · rename_i hkey
      simp [hkey, h key]
  | idle _ _ hopen _ hactive => rw [hactive, shut_idle h hopen key]
  | shut _ _ hopen _ hactive => rw [hactive, shut_open h hnumbered hopen key]

end Stacked

/-! ### A thread with values of any kinds -/

variable {C : Company} {i : ThreadId} {others : World → World → Prop} {b b' : Bench} {g g' : Grip}
  {syncs : List Sync} {w w' : World} {r : RequestRef}

/-- A step of a thread that uses names for values of any kinds. -/
def AnyStep (v : Venue) (i : ThreadId) (others : World → World → Prop) (b b' : Bench) : Prop :=
  ∃ kind, Step (v.withKind kind) i others b b'

theorem AnyStep.start {s : Section k} (ha : v.Hosts a) (updates : List Update) (syncs : List Sync)
    (hends : (Section.start a r).Ends i others w l (.ok s) w' l') :
    AnyStep v i others ⟨w, l, updates, syncs⟩ ⟨w', l', updates ++ [⟨k, s, false⟩], syncs⟩ :=
  ⟨_, @Step.start (v.withKind _) i others ⟨w, l, updates, syncs⟩ _ _ _ (.ok s) w' l' ha.offers
    hends⟩

/-- The handles of a thread tally with what it knows of itself. -/
structure Tallies (v : Venue) (b : Bench) (g : Grip) : Prop where
  workspace_eq : g.workspace = b.workspace
  numbered : Numbered b.updates g.workspace
  stacked : Stacked b.updates g.workspace
  hosts : ∀ u ∈ b.updates, v.Hosts u.handle.subject
  locked : Locked v b.updates b.syncs g

theorem Locked.withKind {v' : Venue} (h : Locked v updates syncs g) (htable : v'.table = v.table) :
    Locked v' updates syncs g :=
  ⟨h.tickets_perm, h.gone, htable ▸ h.hold_eq, htable ▸ h.sync_eq⟩

theorem Change.hosts {kind : String → Kind}
    (hchange : Change (v.withKind kind) l l' updates updates')
    (h : ∀ u ∈ updates, v.Hosts u.handle.subject) : ∀ u ∈ updates', v.Hosts u.handle.subject := by
  intro x hx
  cases hchange with
  | same => exact h x hx
  | join _ ha | start _ ha =>
    rcases List.mem_append.mp hx with hx | hx
    · exact h x hx
    · rw [List.mem_singleton.mp hx]
      exact ha.hosts
  | idle | shut =>
    rcases mem_shut hx with hx | rfl
    · exact h x hx
    · have hu := h _ (List.mem_append_right _ List.mem_cons_self)
      exact hu

theorem AnyStep.sound (hothers : C.Bounds i others) (hstep : AnyStep v i others b b')
    (hfits : g.Fits C i b.world) (h : Tallies v b g) :
    ∃ g', g'.Fits C i b'.world ∧ Tallies v b' g' := by
  obtain ⟨kind, hstep⟩ := hstep
  obtain ⟨g', hstepped⟩ :=
    hstep.stepped hothers hfits h.workspace_eq h.numbered (h.locked.withKind rfl)
  exact ⟨g', hstepped.fits, hstepped.workspace_eq, h.numbered.change hstepped.change,
    h.stacked.change h.numbered hstepped.change, hstepped.change.hosts h.hosts,
    hstepped.locked.withKind rfl⟩

theorem tallies_idle (hnone : ∀ t, ∀ k ∈ (w.locks t).tickets, k.thread ≠ i) :
    Tallies v (idle w) (Grip.of i w {}) :=
  ⟨rfl, ⟨by simp [idle], by simp [idle]⟩, fun _ => rfl, by simp [idle], (agrees_idle hnone).locked⟩

/-- However a thread opens and closes sections, its handles tally with what it knows of itself. -/
theorem exists_tallies (hothers : C.Bounds i others)
    (hreach : Relation.ReflTransGen (AnyStep v i others) b b') (hfits : g.Fits C i b.world)
    (h : Tallies v b g) : ∃ g', g'.Fits C i b'.world ∧ Tallies v b' g' := by
  induction hreach with
  | refl => exact ⟨g, hfits, h⟩
  | tail _ hstep ih =>
    obtain ⟨g₁, hfits₁, h₁⟩ := ih
    exact hstep.sound hothers hfits₁ h₁

end Bench

end SessionCart
