import Mathlib.Logic.Relation
import SessionCart.Concurrency.Race
import SessionCart.Proofs.Section.Drafted

/-!
# The table of open sections

However a thread opens, uses and closes sections, and whatever other threads do meanwhile, the table
of open drafts, the levels of the locks and the drafts say the same of its sections as their
handles.
-/

namespace SessionCart

namespace Company

/-- The others may do to storage what they like. -/
def anybody : Company := ⟨fun _ _ _ => False, fun _ h => h, False, fun h => h.elim⟩

theorem bounds_anybody {i : ThreadId} {others : World → World → Prop}
    (hothers : ∀ w w', others w w' → w.Apart i w') : anybody.Bounds i others :=
  fun _ w w' hacted hfits => ⟨w'.storage, fun _ _ h => h.elim,
    (hothers w w' hacted).fits hfits fun h => h.elim⟩

end Company

theorem Grip.tickets_of_none {i : ThreadId} {w : World}
    (hnone : ∀ t, ∀ k ∈ (w.locks t).tickets, k.thread ≠ i) (l : Workspace) :
    (Grip.of i w l).tickets = [] := by
  have hempty : ∀ t, (w.locks t).holdsOf t i = [] := by
    intro t
    rw [LockTable.holdsOf, List.filter_eq_nil_iff.mpr, List.map_nil]
    simpa using hnone t
  rw [Grip.of, hempty, hempty, List.append_nil]

namespace Bench

variable {v : Venue} {i : ThreadId} {others : World → World → Prop} {b b' : Bench} {g : Grip}
  {C : Company}

/-! ### Every state that is reached -/

theorem agrees_idle {w : World} (hnone : ∀ t, ∀ k ∈ (w.locks t).tickets, k.thread ≠ i) :
    Agrees v (idle w) (Grip.of i w {}) := by
  refine ⟨rfl, ⟨by simp [idle], by simp [idle], by simp [idle], by simp [idle], ?_⟩,
    ⟨?_, by simp [idle], by simp [idle], by simp [idle]⟩⟩
  · simp [idle, Grip.of]
  · rw [Grip.tickets_of_none hnone]
    rfl

/-- What holds of the handles at first and after each step holds of every state that is reached. -/
theorem exists_agrees (hothers : C.Bounds i others)
    (hreach : Relation.ReflTransGen (Step v i others) b b') (hfits : g.Fits C i b.world)
    (h : Agrees v b g) : ∃ g', g'.Fits C i b'.world ∧ Agrees v b' g' := by
  induction hreach with
  | refl => exact ⟨g, hfits, h⟩
  | tail _ hstep ih =>
    obtain ⟨g₁, hfits₁, h₁⟩ := ih
    obtain ⟨g₂, hfits₂, h₂, _⟩ := hstep.sound hothers hfits₁ h₁
    exact ⟨g₂, hfits₂, h₂⟩

/-! ### What the agreement says -/

/-- The table, the locks and the drafts of a thread say the same as the handles of its sections. -/
structure Consistent (v : Venue) (i : ThreadId) (others : World → World → Prop) (b : Bench) :
    Prop where
  one_open : ∀ session name, (b.openAt session name).length ≤ 1
  hasOpen_iff : ∀ session name,
    b.workspace.hasOpen session name = true ↔ b.openAt session name ≠ []
  entry_eq : ∀ session name, ∀ u ∈ b.openAt session name,
    b.workspace.active.get? (session, name) = some u.handle.draft
  /-- A section opened now joins the open one of its name, or has a draft of its own. -/
  opening : ∀ {k : Kind} {a : Attribute k} {r : RequestRef} {s : Section k} {w' : World}
    {l' : Workspace}, v.Offers a →
    (Section.start a r).Ends i others b.world b.workspace (.ok s) w' l' →
    (s.isNested = true ↔ b.openAt r.session a.name ≠ []) ∧
      (∀ u ∈ b.openAt r.session a.name, s.draft = u.handle.draft) ∧
      (s.isNested = false → ∀ u ∈ b.updates, u.handle.draft ≠ s.draft)
  depth_eq : ∀ session, (b.world.locks v.table).depth i session =
    b.updates.countP (fun u => u.isOpen && decide (u.handle.request.session = session)) +
      b.syncs.countP fun y => !y.released && decide (y.hold.session = session)
  /-- A commit for the draft of a closed section is refused, and does nothing. -/
  late : ∀ o ∈ b.updates, o.handle.isNested = false → o.closed = true →
    ∀ u ∈ b.updates, u.handle.draft = o.handle.draft → ∀ value out w' l',
    (u.handle.commit value).Ends i others b.world b.workspace out w' l' ↔
      out = .error (.error (.sectionClosed u.handle.request.session u.handle.subject.name)) ∧
        w' = b.world ∧ l' = b.workspace

theorem mem_openAt {session : SessionId} {name : String} {u : Update} :
    u ∈ b.openAt session name ↔ u ∈ b.updates ∧ u.isOpen = true ∧ u.key = (session, name) := by
  simp [openAt]

namespace Drafted

variable {l : Workspace} (h : Drafted v b.updates l) (session : SessionId) (name : String)

include h

theorem get?_active {session name} {u : Update} (hu : u ∈ b.openAt session name) :
    l.active.get? (session, name) = some u.handle.draft := by
  obtain ⟨hmem, hopen, hkey⟩ := mem_openAt.mp hu
  exact (h.active_iff _ _).mpr ⟨u, hmem, hopen, hkey, rfl⟩

theorem length_openAt_le : (b.openAt session name).length ≤ 1 := by
  have hsub : (b.openAt session name).Sublist (b.updates.filter fun u => !u.handle.isNested) := by
    refine List.monotone_filter_right _ fun u hu => ?_
    simp only [Update.isOpen, Bool.and_eq_true] at hu
    exact hu.1.1
  have hnodup : ((b.openAt session name).map fun u => u.handle.draft).Nodup :=
    h.nodup.sublist (hsub.map _)
  -- all of them have the draft that is in the table
  cases hlist : b.openAt session name with
  | nil => exact Nat.zero_le _
  | cons u rest =>
    cases rest with
    | nil => exact Nat.le_refl _
    | cons u' rest =>
      have hu := h.get?_active (u := u) (by rw [hlist]; exact List.mem_cons_self)
      have hu' := h.get?_active (u := u')
        (by rw [hlist]; exact List.mem_cons_of_mem _ List.mem_cons_self)
      rw [hu, Option.some.injEq] at hu'
      rw [hlist, List.map_cons, List.map_cons, hu'] at hnodup
      exact absurd List.mem_cons_self (List.nodup_cons.mp hnodup).1

theorem isSome_active_iff :
    (l.active.get? (session, name)).isSome = true ↔ b.openAt session name ≠ [] := by
  rw [Option.isSome_iff_exists]
  constructor
  · rintro ⟨d, hd⟩
    obtain ⟨u, hu, hopen, hkey, _⟩ := (h.active_iff _ _).mp hd
    exact List.ne_nil_of_mem (mem_openAt.mpr ⟨hu, hopen, hkey⟩)
  · intro hne
    obtain ⟨u, hu⟩ := List.exists_mem_of_ne_nil _ hne
    exact ⟨_, h.get?_active hu⟩

end Drafted

/-- An opened section has the draft in the table, or, if there is none, a new one. -/
theorem Agrees.draft_of_start (hothers : C.Bounds i others) (h : Agrees v b g)
    (hfits : g.Fits C i b.world) {k : Kind} {a : Attribute k} (ha : v.Offers a) {r : RequestRef}
    {s : Section k} {w' : World} {l' : Workspace}
    (hstart : (Section.start a r).Ends i others b.world b.workspace (.ok s) w' l') :
    s.isNested = (g.workspace.active.get? (r.session, a.name)).isSome ∧
      s.draft = (g.workspace.active.get? (r.session, a.name)).getD g.workspace.drafts.length := by
  obtain ⟨_, _, _, hs⟩ := hstart.sound hothers hfits h.workspace_eq
    (Q := fun out _ => ∀ s, out = .ok s →
      s.isNested = (g.workspace.active.get? (r.session, a.name)).isSome ∧
        s.draft = (g.workspace.active.get? (r.session, a.name)).getD g.workspace.drafts.length)
    (by
      rw [← h.drafted.openDraft_eq ha]
      refine Company.wp_start (fun d hopen s hs => ?_) (fun _ _ _ _ s hs => by cases hs)
        fun hopen _ _ _ _ _ _ _ _ _ _ _ s hs => ?_
      all_goals
        cases hs
        rw [hopen]
        exact ⟨rfl, rfl⟩)
  exact hs s rfl

/-- A commit looks at the draft first. -/
theorem ends_commit_iff {k : Kind} {s : Section k} {value : k.Data} {w w' : World}
    {l l' : Workspace} {out : Except Failure k.Data} :
    (s.commit value).Ends i others w l out w' l' ↔
      ((if (l.draft s.draft).closed then
          Routine.raise (.sectionClosed s.request.session s.subject.name)
        else s.subject.writeDirectly s.request (some value) .all >>= fun _ =>
          Routine.record s.draft (some (.of k value))) >>= fun _ => .done value).Ends i others w l
        out w' l' :=
  Routine.ends_own_iff

theorem ends_commit_closed {k : Kind} {s : Section k} {value : k.Data} {w w' : World}
    {l l' : Workspace} {out : Except Failure k.Data} (hclosed : (l.draft s.draft).closed = true) :
    (s.commit value).Ends i others w l out w' l' ↔
      out = .error (.error (.sectionClosed s.request.session s.subject.name)) ∧ w' = w ∧
        l' = l := by
  rw [ends_commit_iff, if_pos hclosed]
  exact Routine.ends_fail_iff

theorem Agrees.depth_eq (h : Agrees v b g) (hfits : g.Fits C i b.world) (session : SessionId) :
    (b.world.locks v.table).depth i session =
      b.updates.countP (fun u => u.isOpen && decide (u.handle.request.session = session)) +
        b.syncs.countP fun y => !y.released && decide (y.hold.session = session) := by
  rw [hfits.depth_eq, h.locked.tickets_perm.countP_eq, List.countP_map, holds, List.countP_append,
    List.countP_filterMap, List.countP_filterMap]
  congr 1
  · refine List.countP_congr fun u hu => ?_
    have hhold := h.locked.hold_eq u hu
    cases hheld : u.handle.hold with
    | none => simp [Update.hold?, Update.isOpen, Section.isNested, hheld]
    | some x =>
      obtain ⟨htable, hsession⟩ := hhold x hheld
      cases hclosed : u.closed <;>
        simp [Update.hold?, Update.isOpen, Section.isNested, hheld, hclosed, htable, hsession]
  · refine List.countP_congr fun y hy => ?_
    have htable := h.locked.sync_eq y hy
    cases hreleased : y.released <;> simp [Sync.hold?, hreleased, htable]

theorem Agrees.consistent (hothers : C.Bounds i others) (h : Agrees v b g)
    (hfits : g.Fits C i b.world) : Consistent v i others b := by
  have hdrafted := h.workspace_eq ▸ h.drafted
  constructor
  case one_open => exact hdrafted.length_openAt_le
  case hasOpen_iff => exact hdrafted.isSome_active_iff
  case entry_eq => exact fun _ _ _ => hdrafted.get?_active
  case opening =>
    intro k a r s w' l' ha hstart
    obtain ⟨hnested, hdraft⟩ := h.draft_of_start hothers hfits ha hstart
    rw [h.workspace_eq] at hnested hdraft
    refine ⟨?_, fun u hu => ?_, fun houter u hu => ?_⟩
    · rw [hnested, hdrafted.isSome_active_iff]
    · rw [hdraft, hdrafted.get?_active hu, Option.getD_some]
    · -- a draft of its own is one that no handle has
      rw [houter] at hnested
      have hmissing : b.workspace.active.get? (r.session, a.name) = none :=
        Option.not_isSome_iff_eq_none.mp (by rw [← hnested]; decide)
      rw [hdraft, hmissing, Option.getD_none]
      obtain ⟨o, ho, honested, _, hodraft⟩ := hdrafted.joined u hu
      have hlt := (List.getElem?_eq_some_iff.mp (hdrafted.outline_eq o ho honested)).1
      rw [Workspace.outline, List.length_map, hodraft] at hlt
      exact Nat.ne_of_lt hlt
  case depth_eq => exact h.depth_eq hfits
  case late =>
    intro o ho honested hoclosed u hu hdraft value out w' l'
    exact ends_commit_closed ((hdrafted.closed_iff hu).mpr ⟨o, ho, honested, hdraft.symm, hoclosed⟩)

/-- **The section state machine.** A thread without tickets opens, uses and closes sections in any
order, while other threads do what they like as long as they leave its tickets alone. In every state
that is reached, an attribute of a session has one open outermost section at most; it is the one in
the table, and the one that a section opened then would join; the thread has one level of a
session's lock for each open outermost section and each lock taken alone; and once an outermost
section is closed, no section with its draft commits. -/
theorem sections_consistent (hothers : ∀ w w', others w w' → w.Apart i w') {w : World}
    (hsound : ∀ t, (w.locks t).Sound) (hnone : ∀ t, ∀ k ∈ (w.locks t).tickets, k.thread ≠ i)
    (hreach : Relation.ReflTransGen (Step v i others) (idle w) b) : Consistent v i others b := by
  have hbounds := Company.bounds_anybody hothers
  obtain ⟨g, hfits, h⟩ := exists_agrees hbounds hreach
    (Grip.fits_of hsound (fun hcalm => False.elim hcalm) {}) (agrees_idle hnone)
  exact h.consistent hbounds hfits

/-- A store and a table with counters. -/
def counters : Venue := ⟨.main, .shared, fun _ => .json⟩

theorem offers_counter : counters.Offers Race.counter := ⟨rfl, rfl, rfl⟩

/-- A section is opened, another one joins it, and the first is closed under a lock taken alone.
Then a third one is opened, while the second is still in use. -/
theorem consistent_out_of_order : ∃ b : Bench,
    Relation.ReflTransGen (Step counters 0 (World.Apart 0)) (idle Race.dawn) b ∧
      Consistent counters 0 (World.Apart 0) b ∧
      (b.updates.map fun u => (u.handle.isNested, u.handle.draft, u.closed)) =
        [(false, 0, true), (true, 0, false), (false, 1, false)] ∧
      (b.world.locks .shared).depth 0 Race.arena = 2 := by
  have hruns : ∃ s₁ s₂ s₃ hold w₁ l₁ w₂ l₂ w₃ l₃ w₄ l₄ w₅ l₅,
      (Section.start Race.counter ⟨0, Race.arena⟩).run true 0 Race.dawn
        { requests := [.new Race.arena] } = .finished (.ok s₁) w₁ l₁ ∧
      (Section.start Race.counter ⟨0, Race.arena⟩).run true 0 w₁ l₁ = .finished (.ok s₂) w₂ l₂ ∧
      (Race.counter.hold ⟨0, Race.arena⟩).run true 0 w₂ l₂ = .finished (.ok hold) w₃ l₃ ∧
      s₁.close.run true 0 w₃ l₃ = .finished (.ok ()) w₄ l₄ ∧
      (Section.start Race.counter ⟨0, Race.arena⟩).run true 0 w₄ l₄ = .finished (.ok s₃) w₅ l₅ ∧
      [(s₁.isNested, s₁.draft, true), (s₂.isNested, s₂.draft, false),
        (s₃.isNested, s₃.draft, false)] =
        [(false, 0, true), (true, 0, false), (false, 1, false)] ∧
      (w₅.locks .shared).depth 0 Race.arena = 2 :=
    ⟨_, _, _, _, _, _, _, _, _, _, _, _, _, _, rfl, rfl, rfl, rfl, rfl, rfl, rfl⟩
  obtain ⟨s₁, s₂, s₃, hold, w₁, l₁, w₂, l₂, w₃, l₃, w₄, l₄, w₅, l₅, hstart, hjoin, hhold, hclose,
    hagain, hsections, hdepth⟩ := hruns
  have hstill : ∀ w, World.Apart 0 w w := .refl 0
  have hopened := @Step.start counters 0 (World.Apart 0)
    ⟨Race.dawn, { requests := [.new Race.arena] }, [], []⟩ _ _ _ (.ok s₁) w₁ l₁ offers_counter
    (Routine.ends_of_run hstill hstart)
  have hjoined := @Step.start counters 0 (World.Apart 0) ⟨w₁, l₁, [⟨.json, s₁, false⟩], []⟩ _ _ _
    (.ok s₂) w₂ l₂ offers_counter (Routine.ends_of_run hstill hjoin)
  have hheld := @Step.hold counters 0 (World.Apart 0)
    ⟨w₂, l₂, [⟨.json, s₁, false⟩, ⟨.json, s₂, false⟩], []⟩ _ _ _ (.ok hold) w₃ l₃ offers_counter
    (Routine.ends_of_run hstill hhold)
  have hclosed := @Step.close counters 0 (World.Apart 0) w₃ w₄ l₃ l₄ [] [⟨.json, s₂, false⟩]
    [⟨hold, false⟩] ⟨.json, s₁, false⟩ _ _ (.inl rfl) (Routine.ends_of_run hstill hclose)
  have hreopened := @Step.start counters 0 (World.Apart 0)
    ⟨w₄, l₄, [⟨.json, s₁, true⟩, ⟨.json, s₂, false⟩], [⟨hold, false⟩]⟩ _ _ _ (.ok s₃) w₅ l₅
    offers_counter (Routine.ends_of_run hstill hagain)
  have hreach := ((((Relation.ReflTransGen.single (Step.accept (idle Race.dawn)
    (.new Race.arena))).tail hopened).tail hjoined).tail hheld).tail hclosed |>.tail hreopened
  refine ⟨_, hreach, ?_, hsections, hdepth⟩
  exact sections_consistent (fun _ _ h => h) (World.sound_new _) (World.thread_ne_new _ _) hreach

end Bench

end SessionCart
