import SessionCart.Proofs.Section.Latest

/-!
# Session writes and open sections

A session write is heeded by an open section if storage has the section's working value afterwards.
For each way to write, this is an equivalence: the section has to be the latest outermost one of its
attribute and of the kind of the value, unless what is written happens to be the working value. A
section of another kind that is opened meanwhile is not heeded by it any more, nor are the writes
that go past both.
-/

namespace SessionCart

namespace Bench

/-! ### What is seen of a section -/

/-- The stored value of a section's attribute, and the section's working value. -/
structure Sight where
  stored : Option Value
  current : Option Value

namespace Sight

variable {through : Prop} {before after last : Sight} {value : Option Value}

/-- A value was written, through the section or past it. -/
structure Written (through : Prop) (before after : Sight) : Prop where
  current_of_through : through → after.current = after.stored
  current_of_past : ¬through → after.current = before.current

theorem Written.iff (h : before.Written through after) :
    after.stored = after.current ↔ through ∨ before.current = after.stored := by
  by_cases hthrough : through
  · exact iff_of_true (h.current_of_through hthrough).symm (.inl hthrough)
  · rw [h.current_of_past hthrough, or_iff_right hthrough]
    exact eq_comm

theorem Written.congr {past : Prop} (h : before.Written through after) (hiff : through ↔ past) :
    before.Written past after :=
  ⟨fun hthrough => h.current_of_through (hiff.mpr hthrough),
    fun hpast => h.current_of_past (mt hiff.mp hpast)⟩

/-- An operation has heeded a section: it has failed and left storage alone, or storage has the
section's working value afterwards. -/
def Heeded {α : Type} (before : Sight) (out : Except Failure α) (after : Sight) : Prop :=
  (∃ f, out = .error f) ∧ after.stored = before.stored ∨
    (∃ y, out = .ok y) ∧ after.stored = after.current

/-- An operation that has failed did nothing, and one that has not wrote this value. -/
def Writes {α : Type} (through : Prop) (value : Option Value) (before : Sight) :
    Except Failure α → Sight → Prop
  | .error _, after => after = before
  | .ok _, after => after.stored = value ∧ before.Written through after

/-- An operation that has failed did nothing, and one that has not may have written a value. -/
def MayWrite {α : Type} (through : Prop) (before : Sight) : Except Failure α → Sight → Prop
  | .error _, after => after = before
  | .ok _, after => after = before ∨ before.Written through after

theorem heeded_iff_of_writes {α : Type} {out : Except Failure α}
    (h : before.Writes through value out after) :
    before.Heeded out after ↔ (∃ f, out = .error f) ∨ through ∨ before.current = value := by
  cases out with
  | error f =>
    refine iff_of_true (.inl ⟨⟨f, rfl⟩, ?_⟩) (.inl ⟨f, rfl⟩)
    rw [show after = before from h]
  | ok y =>
    obtain ⟨rfl, hwritten⟩ := h
    simpa [Heeded] using hwritten.iff

theorem heeded_iff_of_mayWrite {α : Type} {out : Except Failure α}
    (h : before.MayWrite through out after) : after = before ∨ before.Heeded out after ↔
      after.stored = before.stored ∨ through ∨ before.current = after.stored := by
  cases out with
  | error f =>
    obtain rfl : after = before := h
    simp
  | ok y =>
    rcases h with rfl | hwritten
    · simp
    · have hheeded : before.Heeded (.ok y) after ↔ through ∨ before.current = after.stored := by
        simpa [Heeded] using hwritten.iff
      rw [hheeded]
      refine or_congr_left' fun hpast => ⟨fun hsame => hsame ▸ rfl, fun hstored => ?_⟩
      rw [not_or] at hpast
      have hcurrent := hwritten.current_of_past hpast.1
      cases after
      cases before
      simp_all

end Sight

variable {v : Venue} {i : ThreadId} {others : World → World → Prop} {b : Bench} {u : Update}
  {g g' : Grip} {k : Kind} {a : Attribute k} {r : RequestRef}

/-- What is stored of a section's attribute in a world, and the working value in a workspace. -/
def sight (v : Venue) (u : Update) (w : World) (l : Workspace) : Sight :=
  ⟨storedFor v u.handle w, (l.draft u.handle.draft).current⟩

/-- What a thread sees of a section of its own. -/
def seen (v : Venue) (u : Update) (g : Grip) : Sight :=
  ⟨(g.storage v.store u.key.1).value u.key.2, (g.workspace.draft u.handle.draft).current⟩

theorem seen_of_fits {C : Company} {w : World} (hfits : g.Fits C i w) :
    seen v u g = sight v u w g.workspace := by
  rw [seen, hfits.storage_eq]
  rfl

/-! ### What operations do to an open section -/

/-- The thread has the lock of a section, and the section's draft. -/
structure Watched (v : Venue) (u : Update) (g : Grip) : Prop where
  exists_hold : ∃ x, g.Has x ∧ x.table = v.table ∧ x.session = u.key.1
  draft_lt : u.handle.draft < g.workspace.drafts.length

theorem seen_of_near (hnear : (Company.fair v).Near g g'.storage) (h : Watched v u g)
    (hdraft : g'.workspace.draft u.handle.draft = g.workspace.draft u.handle.draft) :
    seen v u g' = seen v u g := by
  rw [seen, seen, hdraft, hnear _ _ ⟨rfl, h.exists_hold⟩]

theorem seen_of_drift (hdrift : (Company.fair v).Drift g g') (h : Watched v u g) :
    seen v u g' = seen v u g :=
  seen_of_near hdrift.near h (by rw [hdrift.workspace_eq])

section Write

variable (ha : v.Hosts a) (hkey : (r.session, a.name) = u.key)

include ha hkey

theorem seen_put (g : Grip) (value : Option Value) (l : Workspace) :
    seen v u ((g.put a.store r.session
      ((g.storage a.store r.session).assign a.name value)).work l) =
      ⟨value, (l.draft u.handle.draft).current⟩ := by
  have hvalue := value_put ha.offers g r value u.key
  rw [if_pos hkey] at hvalue
  exact congrArg (Sight.mk · _) hvalue

theorem written_record {g₁ : Grip} (hd : u.handle.draft < g.workspace.drafts.length)
    (f : Request → Request) (d : DraftId) (value : Option Value) :
    (seen v u g).Written (d = u.handle.draft) (seen v u ((g₁.put a.store r.session
      ((g₁.storage a.store r.session).assign a.name value)).work
        ((g.workspace.editRequest r.id f).record d value))) := by
  have hlength : u.handle.draft < (g.workspace.editRequest r.id f).drafts.length := hd
  rw [seen_put ha hkey]
  refine ⟨fun hd' => ?_, fun hd' => ?_⟩
  · exact (Workspace.current_record hlength d value).trans (if_pos hd')
  · exact (Workspace.current_record hlength d value).trans (if_neg hd')

/-- A value that is written while no section of its kind is open is written past all sections. -/
theorem written_put {g₁ : Grip} (f : Request → Request) (value : Option Value) :
    (seen v u g).Written False (seen v u ((g₁.put a.store r.session
      ((g₁.storage a.store r.session).assign a.name value)).work
        (g.workspace.editRequest r.id f))) := by
  rw [seen_put ha hkey]
  exact ⟨False.elim, fun _ => rfl⟩

/-- All that an operation on an attribute can do to an open section is to write a value. -/
theorem seen_of_effect (heffect : (Company.fair v).Effect a r g g') (h : Watched v u g) :
    seen v u g' = seen v u g ∨ (seen v u g).Written
      (g.workspace.openDraft? k r.session a.name = some u.handle.draft) (seen v u g') := by
  induction heffect with
  | drift hdrift => exact .inl (seen_of_drift hdrift h)
  | edit g f => exact .inl rfl
  | write g value hopen =>
    have hpast : (seen v u g).Written False (seen v u
        (g.put a.store r.session ((g.storage a.store r.session).assign a.name value))) := by
      rw [show g.put a.store r.session ((g.storage a.store r.session).assign a.name value) =
        (g.put a.store r.session _).work g.workspace from rfl, seen_put ha hkey]
      exact ⟨False.elim, fun _ => rfl⟩
    exact .inr (hpast.congr (by simp [hopen]))
  | commit g d value f hopen hclosed =>
    exact .inr ((written_record ha hkey h.draft_lt f d _).congr (by simp [hopen]))
  | @trans g g₁ g₂ hfirst _ ih ih' =>
    obtain ⟨houtline, hactive, _⟩ := hfirst.keeps
    have hlength : g₁.workspace.drafts.length = g.workspace.drafts.length := by
      simpa [Workspace.outline] using congrArg List.length houtline
    have h₁ : Watched v u g₁ := by
      refine ⟨?_, by rw [hlength]; exact h.draft_lt⟩
      obtain ⟨x, hx, hrest⟩ := h.exists_hold
      exact ⟨x, by rw [Grip.Has, hfirst.tickets_eq]; exact hx, hrest⟩
    have hlast := ih' h₁
    rw [Workspace.openDraft?_congr houtline hactive] at hlast
    rcases ih h with hsame | hwritten
    · rwa [hsame] at hlast
    · rcases hlast with hsame | hlast
      · exact .inr (hsame ▸ hwritten)
      · refine .inr ⟨hlast.current_of_through, fun hpast => ?_⟩
        rw [hlast.current_of_past hpast, hwritten.current_of_past hpast]

theorem wp_write_seen (h : Watched v u g) {value : Option k.Data} {scope : Scope}
    (hscope : scope.session = true) :
    (Company.fair v).logic.wp (fun out g' => (seen v u g).Writes
      (g.workspace.openDraft? k r.session a.name = some u.handle.draft) (value.map (.of k)) out
      (seen v u g')) (a.write r value scope) g := by
  refine Company.wp_write hscope (fun _ _ _ => rfl) (fun _ _ h₁ => seen_of_drift h₁ h)
    (fun hopen g₁ h₁ => ⟨by rw [seen_put ha hkey], ?_⟩)
    fun d hopen _ g₁ h₁ => ⟨by rw [seen_put ha hkey], ?_⟩
  · obtain ⟨f, hf⟩ := g.workspace.exists_wrote r a.name scope (value.map (.of k))
    rw [hf]
    exact (written_put ha hkey f _).congr (by simp [hopen])
  · obtain ⟨f, hf⟩ := g.workspace.exists_wrote r a.name .all (value.map (.of k))
    rw [hf]
    exact (written_record ha hkey h.draft_lt f d _).congr (by simp [hopen])

theorem wp_read_seen (h : Watched v u g) (policy : ReadPolicy) (creating : Bool) (scope : Scope) :
    (Company.fair v).logic.wp (fun out g' => (seen v u g).MayWrite
      (g.workspace.openDraft? k r.session a.name = some u.handle.draft) out (seen v u g'))
      (a.read r policy creating scope) g := by
  refine Logic.wp_mono (fun out g' hout => ?_)
    (Company.Cleanly.read a r policy creating scope g)
  cases out with
  | ok found => exact seen_of_effect ha hkey hout h
  | error f => exact seen_of_drift hout h

end Write

/-- Opening a section does nothing to one that is open, and has its draft if it joins it. -/
theorem wp_start_seen (a : Attribute k) (r : RequestRef) (h : Watched v u g) :
    (Company.fair v).logic.wp (fun out g' => seen v u g' = seen v u g ∧ ∀ s, out = .ok s →
      (s.draft = u.handle.draft ↔
        g.workspace.openDraft? k r.session a.name = some u.handle.draft))
      (Section.start a r) g := by
  refine Company.wp_start (fun d hopen => ⟨rfl, ?_⟩) (fun _ f g₁ h₁ => ⟨seen_of_drift h₁ h, ?_⟩) ?_
  · rintro s ⟨⟩
    rw [hopen, Option.some.injEq]
  · rintro s ⟨⟩
  · intro hopen key g₁ g₂ g₃ n d h₁ _ h₂ h₃ _
    have hnear := h₁.near_take (h₂.trans h₃)
    refine ⟨seen_of_near hnear h ?_, ?_⟩
    · have hlt := h.draft_lt
      simp [Grip.work, Workspace.opened, Workspace.draft, List.getElem?_append_left hlt]
    · rintro s ⟨⟩
      simp [hopen, Nat.ne_of_gt h.draft_lt]

/-- A commit through a handle goes through the sections that have its draft. -/
theorem wp_commit_seen {x : Update} (hx : v.Hosts x.handle.subject) (hkey : x.key = u.key)
    (h : Watched v u g) (value : x.kind.Data) :
    (Company.fair v).logic.wp (fun out g' => (seen v u g).Writes
      (x.handle.draft = u.handle.draft) (some (.of x.kind value)) out (seen v u g'))
      (x.handle.commit value) g := by
  refine Company.wp_section_commit (fun _ => rfl) (fun _ _ _ h₁ => seen_of_drift h₁ h)
    fun _ g₁ h₁ => ⟨by rw [seen_put hx hkey], ?_⟩
  obtain ⟨f, hf⟩ := g.workspace.exists_wrote x.handle.request x.handle.subject.name .all
    (some (.of x.kind value))
  rw [hf]
  exact written_record hx hkey h.draft_lt f _ _

/-- What can be done with a handle that writes nothing: a copy is made, the copies are discarded, or
the section is closed. -/
inductive Update.Idle (x : Update) : {α : Type} → Routine α → Prop
  | copy : x.Idle x.handle.copy
  | discard : x.Idle x.handle.discard
  | close : x.Idle x.handle.close
  | drop : x.Idle x.handle.drop

theorem current_editDraft (l : Workspace) (d d' : DraftId) {f : Draft → Draft}
    (hf : ∀ e, (f e).current = e.current) :
    ((l.editDraft d f).draft d').current = (l.draft d').current := by
  rw [Workspace.current_draft, Workspace.current_draft, Workspace.map_editDraft _ _ _ hf]

theorem seen_editDraft (h : Watched v u g) (d : DraftId) {f : Draft → Draft}
    (hf : ∀ e, (f e).current = e.current)
    (hdrift : (Company.fair v).Drift (g.work (g.workspace.editDraft d f)) g') :
    seen v u g' = seen v u g := by
  have hwatched : Watched v u (g.work (g.workspace.editDraft d f)) :=
    ⟨h.exists_hold, by simpa [Grip.work, Workspace.editDraft] using h.draft_lt⟩
  exact (seen_of_drift hdrift hwatched).trans
    (congrArg (Sight.mk _) (current_editDraft g.workspace d _ hf))

theorem seen_closing {x : Update} {hold : Hold} (h : Watched v u g)
    (hdrift : (Company.fair v).Drift g g') :
    seen v u ((g'.leave hold).work (x.handle.closing g.workspace)) = seen v u g := by
  have hcurrent : ((x.handle.closing g.workspace).draft u.handle.draft).current =
      (g.workspace.draft u.handle.draft).current := by
    rw [Workspace.current_draft, x.drafts_closing, ← Workspace.current_draft]
    exact current_editDraft _ _ _ fun _ => rfl
  have hstored := congrArg Sight.stored (seen_of_drift hdrift h)
  exact congrArg₂ Sight.mk hstored hcurrent

theorem wp_idle_seen {updates : List Update} {syncs : List Sync} {x : Update} (hx : x ∈ updates)
    (hnumbered : Numbered updates g.workspace) (hlocked : Locked v updates syncs g)
    (h : Watched v u g) {α : Type} {y : Routine α} (hy : x.Idle y) :
    (Company.fair v).logic.wp (fun _ g' => seen v u g' = seen v u g) y g := by
  have hclosing : ∀ {closing}, closing = x.handle.close ∨ closing = x.handle.drop →
      (Company.fair v).logic.wp (fun _ g' => seen v u g' = seen v u g) closing g := by
    intro closing hclosing
    refine Company.wp_close hclosing (fun _ => rfl) fun hold hhold hclosed => ?_
    refine ⟨⟨true, hlocked.mem_tickets (List.mem_append_left _ ?_)⟩, fun _ _ => seen_closing h⟩
    have hnested : x.handle.isNested = false := by simp [Section.isNested, hhold]
    have hflag := (Workspace.closed_of_outline (hnumbered.outline_eq x hx hnested)).2
    rw [hclosed] at hflag
    exact List.mem_filterMap.mpr ⟨x, hx, by rw [Update.hold?, ← hflag, hhold]; rfl⟩
  cases hy with
  | copy => exact Company.wp_copy fun _ _ => seen_editDraft h _ fun _ => rfl
  | discard =>
    exact Company.wp_discard (seen_editDraft h x.handle.draft
      (f := fun e => { e with discarded := true }) (fun _ => rfl) (.refl _ _))
  | close => exact hclosing (.inl rfl)
  | drop => exact hclosing (.inr rfl)

/-! ### Which writes are heeded -/

/-- Session writes of values of this kind go through the section: it is of the kind, and no outermost
section of its attribute has been opened since. -/
def Takes (b : Bench) (u : Update) (k : Kind) : Prop :=
  k = u.kind ∧ latest? b.updates u.key = some u

namespace Tallies

variable (h : Tallies v b g) (hu : u ∈ b.updates) (hopen : u.isOpen = true)

include h hu hopen

theorem watched : Watched v u g := by
  refine ⟨h.locked.exists_hold hu hopen, ?_⟩
  simpa [Workspace.outline] using h.numbered.draft_lt hu (Update.isOpen_iff.mp hopen).1

theorem takes_iff (k : Kind) :
    g.workspace.openDraft? k u.key.1 u.key.2 = some u.handle.draft ↔ b.Takes u k := by
  obtain ⟨hnested, hclosed⟩ := Update.isOpen_iff.mp hopen
  have hkind := (Workspace.closed_of_outline (h.numbered.outline_eq u hu hnested)).1
  have hentry := h.stacked u.key
  rw [Workspace.openDraft?, Option.filter_eq_some_iff, decide_eq_true_eq, hkind, hentry,
    Option.bind_eq_some_iff, Takes]
  constructor
  · rintro ⟨⟨o, ho, hdraft⟩, rfl⟩
    obtain ⟨hmem, honested, _⟩ := mem_of_latest? ho
    rw [h.numbered.eq_of_draft hmem hu honested hnested (Update.openDraft?_eq_some.mp hdraft).2] at ho
    exact ⟨rfl, ho⟩
  · rintro ⟨rfl, hlatest⟩
    exact ⟨⟨u, hlatest, Update.openDraft?_eq_some.mpr ⟨hclosed, rfl⟩⟩, rfl⟩

end Tallies

/-- Which operations of a thread are heeded by an open section of its own. -/
structure Heeding (v : Venue) (i : ThreadId) (others : World → World → Prop) (b : Bench)
    (u : Update) : Prop where
  hasOpen_iff : b.workspace.hasOpen u.key.1 u.key.2 = true ↔
    ∃ o, latest? b.updates u.key = some o ∧ o.closed = false
  write_iff : ∀ {k : Kind} {a : Attribute k} {r : RequestRef} {value : Option k.Data}
    {scope : Scope} {out : Except Failure Unit} {w' : World} {l' : Workspace}, v.Hosts a →
    (r.session, a.name) = u.key → scope.session = true →
    (a.write r value scope).Ends i others b.world b.workspace out w' l' →
    ((sight v u b.world b.workspace).Heeded out (sight v u w' l') ↔
      (∃ f, out = .error f) ∨ b.Takes u k ∨
        (sight v u b.world b.workspace).current = value.map (.of k))
  /-- A read that makes a value may leave all as it is. -/
  read_iff : ∀ {k : Kind} {a : Attribute k} {r : RequestRef} {policy : ReadPolicy}
    {creating : Bool} {scope : Scope} {out : Except Failure (Option k.Data)} {w' : World}
    {l' : Workspace}, v.Hosts a → (r.session, a.name) = u.key →
    (a.read r policy creating scope).Ends i others b.world b.workspace out w' l' →
    (sight v u w' l' = sight v u b.world b.workspace ∨
        (sight v u b.world b.workspace).Heeded out (sight v u w' l') ↔
      (sight v u w' l').stored = (sight v u b.world b.workspace).stored ∨ b.Takes u k ∨
        (sight v u b.world b.workspace).current = (sight v u w' l').stored)
  /-- Opening a further section writes nothing; the question is which draft it works on. -/
  start_iff : ∀ {k : Kind} {a : Attribute k} {r : RequestRef} {out : Except Failure (Section k)}
    {w' : World} {l' : Workspace}, (r.session, a.name) = u.key →
    (Section.start a r).Ends i others b.world b.workspace out w' l' →
    sight v u w' l' = sight v u b.world b.workspace ∧
      ∀ s, out = .ok s → (s.draft = u.handle.draft ↔ b.Takes u k)
  commit_iff : ∀ x ∈ b.updates, x.key = u.key → ∀ {value : x.kind.Data}
    {out : Except Failure x.kind.Data} {w' : World} {l' : Workspace},
    (x.handle.commit value).Ends i others b.world b.workspace out w' l' →
    ((sight v u b.world b.workspace).Heeded out (sight v u w' l') ↔
      (∃ f, out = .error f) ∨ x.handle.draft = u.handle.draft ∨
        (sight v u b.world b.workspace).current = some (.of x.kind value))
  idle_eq : ∀ x ∈ b.updates, ∀ {α : Type} {y : Routine α} {out : Except Failure α} {w' : World}
    {l' : Workspace}, x.Idle y → y.Ends i others b.world b.workspace out w' l' →
    sight v u w' l' = sight v u b.world b.workspace

theorem Tallies.heeding (hothers : ∀ w w', others w w' → w.Fair v i w') (h : Tallies v b g)
    (hfits : g.Fits (.fair v) i b.world) (hu : u ∈ b.updates) (hopen : u.isOpen = true) :
    Heeding v i others b u := by
  have hbounds := Company.bounds_fair hothers
  have hwatched := h.watched hu hopen
  have hseen : seen v u g = sight v u b.world b.workspace := by
    rw [seen_of_fits hfits, h.workspace_eq]
  have htakes : ∀ {k : Kind} {a : Attribute k} {r : RequestRef}, (r.session, a.name) = u.key →
      (g.workspace.openDraft? k r.session a.name = some u.handle.draft ↔ b.Takes u k) := by
    intro k a r hkey
    rw [← h.takes_iff hu hopen, ← hkey]
  constructor
  case hasOpen_iff =>
    rw [← h.workspace_eq, Workspace.hasOpen, Dict.contains, h.stacked, Option.isSome_iff_exists]
    simp only [Option.bind_eq_some_iff, Update.openDraft?_eq_some]
    constructor
    · rintro ⟨d, o, ho, hclosed, _⟩
      exact ⟨o, ho, hclosed⟩
    · rintro ⟨o, ho, hclosed⟩
      exact ⟨_, o, ho, hclosed, rfl⟩
  case write_iff =>
    intro k a r value scope out w' l' ha hkey hscope hends
    obtain ⟨g', hfits', rfl, hwrites⟩ := hends.sound hbounds hfits h.workspace_eq
      (wp_write_seen ha hkey hwatched hscope)
    rw [seen_of_fits hfits', hseen] at hwrites
    rw [Sight.heeded_iff_of_writes hwrites, htakes hkey]
  case read_iff =>
    intro k a r policy creating scope out w' l' ha hkey hends
    obtain ⟨g', hfits', rfl, hmay⟩ := hends.sound hbounds hfits h.workspace_eq
      (wp_read_seen ha hkey hwatched policy creating scope)
    rw [seen_of_fits hfits', hseen] at hmay
    rw [Sight.heeded_iff_of_mayWrite hmay, htakes hkey]
  case start_iff =>
    intro k a r out w' l' hkey hends
    obtain ⟨g', hfits', rfl, hsame, hdraft⟩ := hends.sound hbounds hfits h.workspace_eq
      (wp_start_seen a r hwatched)
    rw [seen_of_fits hfits', hseen] at hsame
    exact ⟨hsame, fun s hs => (hdraft s hs).trans (htakes hkey)⟩
  case commit_iff =>
    intro x hx hkey value out w' l' hends
    obtain ⟨g', hfits', rfl, hwrites⟩ := hends.sound hbounds hfits h.workspace_eq
      (wp_commit_seen (h.hosts x hx) hkey hwatched value)
    rw [seen_of_fits hfits', hseen] at hwrites
    exact Sight.heeded_iff_of_writes hwrites
  case idle_eq =>
    intro x hx α y out w' l' hy hends
    obtain ⟨g', hfits', rfl, hsame⟩ := hends.sound hbounds hfits h.workspace_eq
      (wp_idle_seen hx h.numbered h.locked hwatched hy)
    rwa [seen_of_fits hfits', hseen] at hsame

/-- **Only the latest section is heeded.** A thread uses attributes of one store and table with
values of any kinds, opens, uses and closes sections in any order, and works among others that write
a session only while they hold its lock. In every state that is reached, and for every outermost
section that is open in it, a session write that does not fail is heeded exactly if the section is of
the kind of the value and no outermost section of its attribute has been opened since, or if the
value is the working value as it is. The same is true of a read that makes a value, and a section
that is opened then joins the open one under the same condition; its commits are heeded if it has.
The thread is known to have a section open exactly as long as the one that was opened last is. -/
theorem heeding_of_open (hothers : ∀ w w', others w w' → w.Fair v i w') {w : World}
    (hsound : ∀ t, (w.locks t).Sound) (hcalm : ∀ s, (w.backend s).intrusion = none)
    (hnone : ∀ t, ∀ k ∈ (w.locks t).tickets, k.thread ≠ i)
    (hreach : Relation.ReflTransGen (AnyStep v i others) (idle w) b) (hu : u ∈ b.updates)
    (hopen : u.isOpen = true) : Heeding v i others b u := by
  obtain ⟨g, hfits, h⟩ := exists_tallies (Company.bounds_fair hothers) hreach
    (Grip.fits_of hsound (fun _ => hcalm) {}) (tallies_idle hnone)
  exact h.heeding hothers hfits hu hopen

theorem hosts_counter : counters.Hosts Race.counter := ⟨rfl, rfl⟩

theorem hosts_tale : counters.Hosts Section.tale := ⟨rfl, rfl⟩

/-- A section with a number is open, and one with a text is opened inside it. A number that is stored
then is not heeded by the first one. -/
theorem heeding_of_open_below_other_kind : ∃ (b : Bench) (u t : Update) (w' : World)
    (l' : Workspace),
    Relation.ReflTransGen (AnyStep counters 0 (World.Fair counters 0)) (idle Race.dawn) b ∧
    b.updates = [u, t] ∧ u.isOpen = true ∧ t.isOpen = true ∧ u.kind = .json ∧ t.kind = .text ∧
    Heeding counters 0 (World.Fair counters 0) b u ∧
    (Race.counter.write ⟨0, Race.arena⟩ (some (.int 5)) .all).Ends 0 (World.Fair counters 0) b.world
      b.workspace (.ok ()) w' l' ∧
    ¬(sight counters u b.world b.workspace).Heeded (Except.ok () : Except Failure Unit)
      (sight counters u w' l') := by
  have hruns : ∃ s w₁ l₁ t w₂ l₂ w₃ l₃,
      (Section.start Race.counter ⟨0, Race.arena⟩).run true 0 Race.dawn
        { requests := [.new Race.arena] } = .finished (.ok s) w₁ l₁ ∧
      (Section.start Section.tale ⟨0, Race.arena⟩).run true 0 w₁ l₁ = .finished (.ok t) w₂ l₂ ∧
      (Race.counter.write ⟨0, Race.arena⟩ (some (.int 5)) .all).run true 0 w₂ l₂ =
        .finished (.ok ()) w₃ l₃ ∧
      s.isNested = false ∧ t.isNested = false ∧
      (l₂.draft s.draft).current = some (.json (.int 0)) ∧
      (s.request.session, s.subject.name) = (Race.arena, Race.counter.name) ∧
      (t.request.session, t.subject.name) = (Race.arena, Race.counter.name) :=
    ⟨_, _, _, _, _, _, _, _, rfl, rfl, rfl, rfl, rfl, rfl, rfl, rfl⟩
  obtain ⟨s, w₁, l₁, t, w₂, l₂, w₃, l₃, hstart, hinside, hwrite, houter, houter', hcurrent, hkey,
    hkey'⟩ := hruns
  have hstill : ∀ w, World.Fair counters 0 w w := .refl counters 0
  have haccept : AnyStep counters 0 (World.Fair counters 0) (idle Race.dawn)
      ⟨Race.dawn, { requests := [.new Race.arena] }, [], []⟩ :=
    ⟨counters.kind, .accept _ (.new Race.arena)⟩
  have hopened : AnyStep counters 0 (World.Fair counters 0)
      ⟨Race.dawn, { requests := [.new Race.arena] }, [], []⟩ ⟨w₁, l₁, [⟨.json, s, false⟩], []⟩ :=
    .start hosts_counter [] [] (Routine.ends_of_run hstill hstart)
  have hshadowed : AnyStep counters 0 (World.Fair counters 0)
      ⟨w₁, l₁, [⟨.json, s, false⟩], []⟩ ⟨w₂, l₂, [⟨.json, s, false⟩, ⟨.text, t, false⟩], []⟩ :=
    .start hosts_tale [⟨.json, s, false⟩] [] (Routine.ends_of_run hstill hinside)
  have hreach := ((Relation.ReflTransGen.single haccept).tail hopened).tail hshadowed
  have hwritten := Routine.ends_of_run hstill hwrite
  have hsopen : (⟨.json, s, false⟩ : Update).isOpen = true := Update.isOpen_iff.mpr ⟨houter, rfl⟩
  have hheeding := heeding_of_open (fun _ _ h => h) (World.sound_new _) (World.calm_new _)
    (World.thread_ne_new _ _) hreach List.mem_cons_self hsopen
  refine ⟨_, _, _, w₃, l₃, hreach, rfl, hsopen, Update.isOpen_iff.mpr ⟨houter', rfl⟩, rfl, rfl,
    hheeding, hwritten, ?_⟩
  rw [hheeding.write_iff hosts_counter hkey.symm rfl hwritten]
  rintro (⟨f, hf⟩ | ⟨_, hlatest⟩ | hsame)
  · cases hf
  · -- the section with the text is the latest one
    rw [show [(⟨.json, s, false⟩ : Update), ⟨.text, t, false⟩] =
      [⟨.json, s, false⟩] ++ [⟨.text, t, false⟩] from rfl, latest?_append, latest?_singleton,
      if_pos ⟨houter', hkey'.trans hkey.symm⟩, Option.some_or, Option.some.injEq] at hlatest
    cases congrArg Update.kind hlatest
  · rw [sight, hcurrent] at hsame
    cases hsame

/-- A number is stored and a section is opened for it. Its removal as a text does not fail, and the
section works on with the number. -/
theorem removed_past_open_section : ∃ (b : Bench) (u : Update) (w' : World) (l' : Workspace),
    Relation.ReflTransGen (AnyStep counters 0 (World.Fair counters 0)) (idle Race.dawn) b ∧
    b.updates = [u] ∧ u.isOpen = true ∧ u.key = (Race.arena, Section.tale.name) ∧
    counters.Hosts u.handle.subject ∧ counters.Hosts Section.tale ∧
    (Section.tale.remove ⟨0, Race.arena⟩ .all).Ends 0 (World.Fair counters 0) b.world b.workspace
      (.ok ()) w' l' ∧
    sight counters u b.world b.workspace = ⟨some (.json (.int 7)), some (.json (.int 7))⟩ ∧
    sight counters u w' l' = ⟨none, some (.json (.int 7))⟩ ∧
    ¬(sight counters u b.world b.workspace).Heeded (Except.ok () : Except Failure Unit)
      (sight counters u w' l') := by
  have hruns : ∃ w₀ l₀ s w₁ l₁ w₂ l₂,
      (Race.counter.write ⟨0, Race.arena⟩ (some (.int 7)) .all).run true 0 Race.dawn
        { requests := [.new Race.arena] } = .finished (.ok ()) w₀ l₀ ∧
      (Section.start Race.counter ⟨0, Race.arena⟩).run true 0 w₀ l₀ = .finished (.ok s) w₁ l₁ ∧
      (Section.tale.remove ⟨0, Race.arena⟩ .all).run true 0 w₁ l₁ = .finished (.ok ()) w₂ l₂ ∧
      s.isNested = false ∧ (s.request.session, s.subject.name) = (Race.arena, Section.tale.name) ∧
      (s.subject.store, s.subject.table) = (.main, .shared) ∧
      sight counters ⟨.json, s, false⟩ w₁ l₁ =
        ⟨some (.json (.int 7)), some (.json (.int 7))⟩ ∧
      sight counters ⟨.json, s, false⟩ w₂ l₂ = ⟨none, some (.json (.int 7))⟩ :=
    ⟨_, _, _, _, _, _, _, rfl, rfl, rfl, rfl, rfl, rfl, rfl, rfl⟩
  obtain ⟨w₀, l₀, s, w₁, l₁, w₂, l₂, hstored, hstart, hremove, houter, hkey, hplace, hbefore,
    hafter⟩ := hruns
  have hstill : ∀ w, World.Fair counters 0 w w := .refl counters 0
  have haccept : AnyStep counters 0 (World.Fair counters 0) (idle Race.dawn)
      ⟨Race.dawn, { requests := [.new Race.arena] }, [], []⟩ :=
    ⟨counters.kind, .accept _ (.new Race.arena)⟩
  have hwritten : AnyStep counters 0 (World.Fair counters 0)
      ⟨Race.dawn, { requests := [.new Race.arena] }, [], []⟩ ⟨w₀, l₀, [], []⟩ :=
    ⟨_, .write hosts_counter.offers (Routine.ends_of_run hstill hstored)⟩
  have hopened : AnyStep counters 0 (World.Fair counters 0) ⟨w₀, l₀, [], []⟩
      ⟨w₁, l₁, [⟨.json, s, false⟩], []⟩ :=
    .start hosts_counter [] [] (Routine.ends_of_run hstill hstart)
  refine ⟨_, ⟨.json, s, false⟩, w₂, l₂,
    ((Relation.ReflTransGen.single haccept).tail hwritten).tail hopened, rfl,
    Update.isOpen_iff.mpr ⟨houter, rfl⟩, hkey,
    ⟨congrArg Prod.fst hplace, congrArg Prod.snd hplace⟩, hosts_tale,
    Routine.ends_of_run hstill hremove, hbefore, hafter, ?_⟩
  rw [hafter]
  rintro (⟨⟨f, hf⟩, _⟩ | ⟨_, hsame⟩)
  · cases hf
  · cases hsame

end Bench

end SessionCart
