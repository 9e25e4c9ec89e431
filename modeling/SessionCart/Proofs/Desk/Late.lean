import SessionCart.Proofs.Desk.Shut
import SessionCart.Proofs.Section.Consistent

/-!
# Late commits

Whether a commit is refused depends on the draft and not on the handle. Once an outermost section is
closed, no section with its draft commits, itself included. A section that joined another one goes
on committing after its own close, until the outermost one is closed.
-/

namespace SessionCart

/-! ### Drafts in the table -/

/-- The drafts in the table are drafts of the thread. -/
def Workspace.Ranged (l : Workspace) : Prop :=
  ∀ key d, l.active.get? key = some d → d < l.drafts.length

namespace Workspace.Ranged

variable {l : Workspace} {d : DraftId}

theorem draft_lt (h : l.Ranged) {k : Kind} {session : SessionId} {name : String}
    (hopen : l.openDraft? k session name = some d) : d < l.drafts.length :=
  h _ _ (Option.filter_eq_some_iff.mp hopen).1

/-- Nothing that a thread does to what it has to itself puts another draft into the table. -/
theorem perform (h : l.Ranged) (a : Workspace.Action) : (l.perform a).2.Ranged := by
  intro key d hd
  have hlength := l.length_perform_le a
  cases a with
  | «begin» k session name value =>
    change (l.active.insert (session, name) l.drafts.length).get? key = some d at hd
    rw [Dict.get?_insert] at hd
    split at hd
    · cases hd
      simp [Workspace.perform]
    · exact Nat.lt_of_lt_of_le (h key d hd) hlength
  | finish session name closing =>
    refine Nat.lt_of_lt_of_le (h key d ?_) hlength
    rw [Workspace.perform] at hd
    dsimp only at hd
    split at hd
    · rw [Dict.get?_erase] at hd
      split at hd
      · cases hd
      · exact hd
    · exact hd
  | _ => exact Nat.lt_of_lt_of_le (h key d hd) hlength

end Workspace.Ranged

open Attribute Routine

variable {i : ThreadId} {others : World → World → Prop} {w w' w₀ w₁ w₂ : World}
  {l l' l₁ l₂ : Workspace} {entries earlier : List Done}

theorem Routine.Course.ranged {α : Type} {x rest : Routine α} {events : List Event}
    (h : x.Course i others w l events rest w' l') (hl : l.Ranged) : l'.Ranged := by
  induction h with
  | here => exact hl
  | own _ ih => exact ih (hl.perform _)
  | world _ _ _ ih => exact ih hl
  | expire _ _ _ _ ih => exact ih hl

theorem Diary.ranged (h : Diary i others w l entries w' l') (hl : l.Ranged) : l'.Ranged := by
  induction h with
  | blank => exact hl
  | others _ _ ih => exact ih
  | deed _ _ hcourse ih => exact hcourse.ranged ih

/-! ### Commits -/

namespace Section

variable {k : Kind}

/-- Every commit in the section is refused, and does nothing. -/
def Refuses (s : Section k) (i : ThreadId) (others : World → World → Prop) (w : World)
    (l : Workspace) : Prop :=
  ∀ value out w' l', (s.commit value).Ends i others w l out w' l' ↔
    out = .error (.error (.sectionClosed s.request.session s.subject.name)) ∧ w' = w ∧ l' = l

/-- Every commit in the section is up to storage: what storage takes is cached, marked as changed
and recorded in the draft, and what it refuses leaves the thread as it is. -/
def Accepts (s : Section k) (i : ThreadId) (others : World → World → Prop) (w : World)
    (l : Workspace) : Prop :=
  ∀ value out w' l', (s.commit value).Ends i others w l out w' l' ↔ ∃ w₁ reply, others w w₁ ∧
    w₁.perform i (.set s.subject.store s.request.session s.subject.name (.of k value)) =
      some (reply, w') ∧
    (reply = .ok () ∧ out = .ok value ∧ l' = (l.wrote s.request s.subject.name .all
        (some (.of k value))).record s.draft (some (.of k value)) ∨
      ∃ f, reply = .error f ∧ out = .error (.error (.storage f)) ∧ l' = l)

variable {s : Section k}

theorem accepts_of_open (hopen : (l.draft s.draft).closed = false) : s.Accepts i others w l := by
  intro value out w' l'
  rw [Bench.ends_commit_iff, if_neg (by simp [hopen])]
  change Routine.Ends i others (.act (.world (.set s.subject.store s.request.session
    s.subject.name (.of k value))) _) w l out w' l' ↔ _
  rw [ends_world_iff rfl]
  constructor
  · rintro ⟨w₁, reply, w₂, hothers, hperform, hnext⟩
    cases reply with
    | ok u =>
      replace hnext : (act (.own (.cache s.request.id s.subject.name (.of k value))) fun _ =>
        act (.own (.mark s.request.id s.subject.name)) fun _ =>
        act (.own (.record s.draft (some (.of k value)))) fun _ => done value).Ends i others w₂ l
          out w' l' := hnext
      rw [ends_own_iff, ends_own_iff, ends_own_iff, ends_done_iff] at hnext
      obtain ⟨rfl, rfl, rfl⟩ := hnext
      exact ⟨w₁, _, hothers, hperform, .inl ⟨rfl, rfl, rfl⟩⟩
    | error f =>
      obtain ⟨rfl, rfl, rfl⟩ := ends_fail_iff.mp hnext
      exact ⟨w₁, _, hothers, hperform, .inr ⟨f, rfl, rfl, rfl⟩⟩
  · rintro ⟨w₁, reply, hothers, hperform, ⟨rfl, rfl, rfl⟩ | ⟨f, rfl, rfl, rfl⟩⟩
    · exact ⟨w₁, _, w', hothers, hperform, .own (.own (.own (.done ..)))⟩
    · exact ⟨w₁, _, w', hothers, hperform, .fail ..⟩

theorem nonempty_data (k : Kind) : Nonempty k.Data := by
  cases k with
  | json => exact ⟨.null⟩
  | text => exact ⟨""⟩
  | login => exact ⟨.anonymous ""⟩
  | cart => exact ⟨.new "" "" .sales (.tick 0)⟩
  | carts => exact ⟨[]⟩

theorem not_refuses_of_accepts (h : s.Accepts i others w l) : ¬s.Refuses i others w l := by
  intro hrefuses
  obtain ⟨value⟩ := nonempty_data k
  have hends := (hrefuses value _ _ _).mpr ⟨rfl, rfl, rfl⟩
  obtain ⟨_, _, -, -, ⟨-, hout, -⟩ | ⟨f, -, hout, -⟩⟩ := (h value _ _ _).mp hends
  · cases hout
  · cases hout

theorem refuses_iff :
    s.Refuses i others w l ↔ (l.draft s.draft).closed = true := by
  constructor
  · intro hrefuses
    by_contra hopen
    rw [Bool.not_eq_true] at hopen
    exact not_refuses_of_accepts (accepts_of_open hopen) hrefuses
  · intro hclosed value out w' l'
    exact Bench.ends_commit_closed hclosed

theorem draft_lt_of_start {a : Attribute k} {r : RequestRef} {s : Section k} {events : List Event}
    (hl : l.Ranged) (h : (start a r).Course i others w l events (.ended (.ok s)) w' l') :
    s.draft < l'.drafts.length := by
  cases started h with
  | joined hopen hl' => exact hl'.drafts_eq ▸ hl.draft_lt hopen
  | begun _ _ _ _ _ hdrafts _ =>
    rw [hdrafts]
    simp

end Section

/-- The section itself was closed or dropped. -/
def Done.Closes {k : Kind} (e : Done) (s : Section k) : Prop :=
  e.deed = .close s ∨ e.deed = .drop s

theorem Done.Closes.shuts {k : Kind} {e : Done} {s : Section k} (h : e.Closes s)
    (houter : s.isNested = false) : e.Shuts s.draft := by
  obtain ⟨deed, before, out, events⟩ := e
  rcases h with h | h
  · cases h
    exact ⟨houter, rfl⟩
  · cases h
    exact ⟨houter, rfl⟩

namespace Section

variable {k : Kind} {a : Attribute k} {r : RequestRef} {s : Section k}

/-- **Late commits.** A thread opens a section, does whatever it likes in any order, and closes the
section at some time; the others interleave as they like. From then on every commit in the section
is refused, and does nothing, exactly if the draft was closed: it was so when the section joined it,
or an outermost section of it has been closed since. So an outermost section refuses; a section that
joined another one which is open still accepts. -/
theorem refuses_after_close_iff (hearlier : Diary i others w₀ {} earlier w l)
    (hstart : (start a r).Ends i others w l (.ok s) w₁ l₁)
    (hdiary : Diary i others w₁ l₁ entries w₂ l₂) (hclosed : ∃ e ∈ entries, e.Closes s) :
    (s.isNested = false → s.Refuses i others w₂ l₂) ∧
      (s.Refuses i others w₂ l₂ ↔
        (l₁.draft s.draft).closed = true ∨ ∃ e ∈ entries, e.Shuts s.draft) ∧
      (¬s.Refuses i others w₂ l₂ → s.Accepts i others w₂ l₂) := by
  obtain ⟨events, hcourse⟩ := hstart.exists_course
  have hranged : l.Ranged := hearlier.ranged fun _ _ hd => by cases hd
  have hiff : s.Refuses i others w₂ l₂ ↔
      (l₁.draft s.draft).closed = true ∨ ∃ e ∈ entries, e.Shuts s.draft := by
    rw [refuses_iff, hdiary.closed_iff (draft_lt_of_start hranged hcourse)]
  refine ⟨fun houter => ?_, hiff, fun hnot => accepts_of_open ?_⟩
  · obtain ⟨e, he, hcloses⟩ := hclosed
    exact hiff.mpr (.inr ⟨e, he, hcloses.shuts houter⟩)
  · rwa [refuses_iff, Bool.not_eq_true] at hnot

/-- A section that joined another one is closed first, and the other one after it. -/
theorem refuses_after_close_inside_out : ∃ (s : Section .json) (w : World) (l : Workspace),
    s.isNested = true ∧ s.Refuses 0 (World.Quiet 0) w l := by
  have hruns : ∃ outer s w l w₀ l₀ w₁ l₁ w₂ l₂ w₃ l₃,
      (Deed.accept Race.arena true).routine.run true 0 Race.dawn {} =
        .finished (.ok ⟨0, Race.arena⟩) w l ∧
      (start Race.counter ⟨0, Race.arena⟩).run true 0 w l = .finished (.ok outer) w₀ l₀ ∧
      (start Race.counter ⟨0, Race.arena⟩).run true 0 w₀ l₀ = .finished (.ok s) w₁ l₁ ∧
      s.close.run true 0 w₁ l₁ = .finished (.ok ()) w₂ l₂ ∧
      outer.close.run true 0 w₂ l₂ = .finished (.ok ()) w₃ l₃ ∧ s.isNested = true ∧
      outer.isNested = false ∧ outer.draft = s.draft ∧ 0 < l.requests.length ∧
      s.request.id < l₁.requests.length ∧ outer.request.id < l₂.requests.length :=
    ⟨_, _, _, _, _, _, _, _, _, _, _, _, rfl, rfl, rfl, rfl, rfl, rfl, rfl, rfl, by decide,
      by decide, by decide⟩
  obtain ⟨outer, s, w, l, w₀, l₀, w₁, l₁, w₂, l₂, w₃, l₃, haccept, hopen, hjoin, hinner, houter,
    hnested, hnot, hdraft, hr, hs, ho⟩ := hruns
  have hstill : ∀ w, World.Quiet 0 w w := World.Quiet.refl 0
  obtain ⟨_, hearlier⟩ := (@Diary.blank 0 (World.Quiet 0) Race.dawn {}).deed_of_run
    (.accept Race.arena true) hstill (.of_known id fun _ h => by cases h) haccept
  obtain ⟨_, hearlier⟩ := hearlier.deed_of_run (.start Race.counter ⟨0, Race.arena⟩) hstill
    (.of_known id fun _ h => by cases h; exact hr) hopen
  obtain ⟨_, hdiary⟩ := (@Diary.blank 0 (World.Quiet 0) w₁ l₁).deed_of_run
    (.close s) hstill (.of_known id fun _ h => by cases h; exact hs) hinner
  obtain ⟨_, hdiary⟩ := hdiary.deed_of_run (.close outer) hstill
    (.of_known id fun _ h => by cases h; exact ho) houter
  have hlate := refuses_after_close_iff hearlier (Routine.ends_of_run hstill hjoin) hdiary
    ⟨_, List.mem_cons_self, .inl rfl⟩
  exact ⟨s, w₃, l₃, hnested,
    hlate.2.1.mpr (.inr ⟨_, List.mem_cons_of_mem _ List.mem_cons_self, hnot, hdraft⟩)⟩

/-- A section that joined another one is closed, and commits all the same: the value is stored, and
becomes the working value of the section that is still open. -/
theorem commits_after_own_close : ∃ outer s w l w₁ l₁ w₂ l₂ w₃ l₃,
    (start Race.counter ⟨0, Race.arena⟩).run true 0 Race.dawn { requests := [.new Race.arena] } =
      .finished (.ok outer) w l ∧ outer.isNested = false ∧
    (start Race.counter ⟨0, Race.arena⟩).run true 0 w l = .finished (.ok s) w₁ l₁ ∧
    s.close.run true 0 w₁ l₁ = .finished (.ok ()) w₂ l₂ ∧
    (s.commit (.int 9)).run true 0 w₂ l₂ = .finished (.ok (.int 9)) w₃ l₃ ∧
    (w₂.backend .main).store.get? Race.arena Race.counter.name = none ∧
    (w₃.backend .main).store.get? Race.arena Race.counter.name = some (.json (.int 9)) ∧
    (l₃.draft outer.draft).current = some (.json (.int 9)) ∧
    ¬s.Refuses 0 (World.Quiet 0) w₂ l₂ :=
  ⟨_, _, _, _, _, _, _, _, _, _, rfl, rfl, rfl, rfl, rfl, rfl, rfl, rfl,
    not_refuses_of_accepts (accepts_of_open rfl)⟩

end Section

end SessionCart
