import SessionCart.Proofs.Desk.Deed
import SessionCart.Proofs.Desk.Refinement

/-!
# Change flags

An attribute of a request is marked as changed by those deeds that have written it to session
storage for that request, and by nothing else; and no deed takes a mark away.
-/

namespace SessionCart

/-- The deed marks an attribute of a request as changed: outright, or with a session write that has
come about. A read has written a value if it has made one. -/
def Done.Marks : Done → RequestId → String → Prop
  | ⟨.mark r marked, _, _, _⟩, id, name => id = r.id ∧ name = marked
  | ⟨.read a r _ creating scope, _, _, events⟩, id, name =>
    id = r.id ∧ name = a.name ∧ creating = true ∧ scope.session = true ∧ a.Written r events
  | ⟨.write a r _ scope, _, out, _⟩, id, name =>
    id = r.id ∧ name = a.name ∧ scope.session = true ∧ out = .ok ()
  | ⟨.commit s _, _, out, _⟩, id, name =>
    id = s.request.id ∧ name = s.subject.name ∧ ∃ value, out = .ok value
  | ⟨.errand d r _, _, _, events⟩, id, name =>
    id = r.id ∧ name = d.cart.name ∧ d.cart.Written r events
  | _, _, _ => False

namespace Workspace

variable {l : Workspace}

theorem request_length : l.request l.requests.length = default := by
  simp [request]

theorem request_addRequest (q : Request) (id : RequestId) :
    (l.addRequest q).2.request id = if id = l.requests.length then q else l.request id := by
  rcases Nat.lt_trichotomy id l.requests.length with hid | hid | hid
  · simp [addRequest, request, List.getElem?_append_left hid, Nat.ne_of_lt hid]
  · simp [addRequest, request, hid]
  · have hnone : (l.requests ++ [q])[id]? = none := by
      rw [List.getElem?_eq_none_iff, List.length_append]
      exact hid
    simp [addRequest, request, hnone, List.getElem?_eq_none (Nat.le_of_lt hid), Nat.ne_of_gt hid]

end Workspace

open Attribute

variable {i : ThreadId} {others : World → World → Prop} {w w' : World} {l l' : Workspace}
  {events : List Event}

theorem Attribute.Dealing.flags {k : Kind} {a : Attribute k} {r : RequestRef} {free : String → Prop}
    (h : a.Dealing r free events l l') {marks : Prop} (hmarks : a.Written r events ↔ marks)
    (id : RequestId) (name : String) : (l'.request id).isChanged name = true ↔
      (l.request id).isChanged name = true ∨ id = r.id ∧ name = a.name ∧ marks := by
  rw [h.changed_iff, hmarks]

theorem Attribute.Idle.flags {k : Kind} {a : Attribute k} {r : RequestRef} {α : Type} {x : Routine α}
    {out : Except Failure α} (hx : a.Idle r x)
    (h : x.Course i others w l events (.ended out) w' l') (id : RequestId) (name : String) :
    (l'.request id).isChanged name = true ↔ (l.request id).isChanged name = true ∨ False := by
  rw [Workspace.request_congr (hx h).2, or_false]

/-- A deed marks what it is said to mark, and takes no mark away. -/
theorem Deed.isChanged_iff {deed : Deed} {out : Except Failure deed.Answer} (hfit : deed.Fit l)
    (h : deed.routine.Course i others w l events (.ended out) w' l') (id : RequestId)
    (name : String) : (l'.request id).isChanged name = true ↔
      (l.request id).isChanged name = true ∨ Done.Marks ⟨deed, l, out, events⟩ id name := by
  cases deed with
  | accept session isNew =>
    obtain ⟨-, -, -, rfl⟩ := h.of_own.of_done
    change ((Workspace.addRequest l _).2.request id).isChanged name = true ↔ _ ∨ False
    rw [Workspace.request_addRequest, or_false]
    split
    · rename_i hid
      rw [hid, Workspace.request_length]
      rfl
    · rfl
  | read a r policy creating scope =>
    have hlooked := course_read (hfit.known r rfl) h
    refine (hlooked.dealing fun _ => False).flags ⟨fun hw => ?_, fun hm => hm.2.2⟩ id name
    exact ⟨(hlooked.written hw).1, (hlooked.written hw).2, hw⟩
  | write a r value scope =>
    have hdeals : a.Deals r (fun _ => True) (a.write r value scope) := .write fun _ _ => trivial
    exact (hdeals h (hfit.known r rfl)).flags (written_write_iff h) id name
  | commit s value =>
    have hdeals : s.subject.Deals s.request (fun _ => True) (s.commit value) :=
      Section.deals_commit s value
    exact (hdeals h (hfit.known _ rfl)).flags (Section.written_commit_iff h) id name
  | start a r =>
    have hopened := Section.course_start (hfit.known r rfl) h
    have hunwritten : a.Written r events ↔ False := ⟨hopened.unwritten, False.elim⟩
    have hiff := (hopened.dealing fun _ => False).flags hunwritten id name
    rwa [and_false, and_false] at hiff
  | copy s => exact (Section.idle_copy (a := s.subject) (r := s.request) s).flags h id name
  | discard s => exact (Section.idle_discard (a := s.subject) (r := s.request) s).flags h id name
  | close s => exact (Section.idle_close (a := s.subject) (r := s.request) s).flags h id name
  | drop s => exact (Section.idle_drop (a := s.subject) (r := s.request) s).flags h id name
  | hold a r => exact (Idle.acquire (a := a) (r := r) _ _ _).flags h id name
  | release hold =>
    obtain ⟨_, _, _, _, -, -, rfl, hnext⟩ := h.of_world
    obtain ⟨-, -, -, rfl⟩ := hnext.of_done
    exact (iff_of_eq (or_false _)).symm
  | mark r marked =>
    obtain ⟨-, -, -, rfl⟩ := h.of_own.of_done
    change ((l.editRequest r.id (·.markChanged marked)).request id).isChanged name = true ↔
      _ ∨ id = r.id ∧ name = marked
    by_cases hid : id = r.id
    · subst hid
      rw [Workspace.request_editRequest (hfit.known r rfl)]
      simp [or_comm]
    · rw [Workspace.request_editRequest_ne hid]
      simp [hid]
  | cache r other value =>
    obtain ⟨-, -, -, rfl⟩ := h.of_own.of_done
    change ((l.keep r other (some value)).request id).isChanged name = true ↔ _ ∨ False
    rw [Workspace.isChanged_keep (hfit.known r rfl), or_false]
  | uncache r other =>
    obtain ⟨-, -, -, rfl⟩ := h.of_own.of_done
    change ((l.keep r other none).request id).isChanged name = true ↔ _ ∨ False
    rw [Workspace.isChanged_keep (hfit.known r rfl), or_false]
  | errand d r e =>
    exact (Desk.deals_errand (hfit.name_eq d r e rfl) e h (hfit.known r rfl)).flags Iff.rfl id name

/-- **Change flags are exact.** However others interleave with the deeds of a thread, and whatever
storage refuses, an attribute of a request is marked as changed at the end exactly if it was at the
start or one of the deeds marks it. -/
theorem flags_exact {entries : List Done} (hdiary : Diary i others w l entries w' l')
    (id : RequestId) (name : String) : (l'.request id).isChanged name = true ↔
      (l.request id).isChanged name = true ∨ ∃ e ∈ entries, e.Marks id name := by
  induction hdiary with
  | blank => simp
  | others _ _ ih => exact ih
  | deed _ hfit hcourse ih =>
    rw [Deed.isChanged_iff hfit hcourse, ih]
    simp [or_and_right, exists_or, or_assoc]

/-- A look for a cart marks nothing, and making one marks it. -/
theorem flags_exact_kiosk : ∃ entries w' l',
    Diary 0 (World.Quiet 0) Race.dawn { requests := [.new Race.arena] } entries w' l' ∧
    (∃ e ∈ entries, e.Marks 0 cartAttribute) ∧ ∀ e ∈ entries, ¬e.Marks 0 parkedAttribute := by
  have hruns : ∃ w₁ l₁ c w₂ l₂,
      (Desk.Errand.cartIfAny.routine Desk.kiosk ⟨0, Race.arena⟩).run true 0
        Race.dawn { requests := [.new Race.arena] } = .finished (.ok none) w₁ l₁ ∧
      (Desk.Errand.currentCart.routine Desk.kiosk ⟨0, Race.arena⟩).run true 0 w₁ l₁ =
        .finished (.ok c) w₂ l₂ ∧ 0 < l₁.requests.length ∧
      (l₂.request 0).isChanged cartAttribute = true ∧
      (l₂.request 0).isChanged parkedAttribute = false :=
    ⟨_, _, _, _, _, rfl, rfl, by decide, rfl, rfl⟩
  obtain ⟨w₁, l₁, c, w₂, l₂, hlook, hmake, hr, hcart, hparked⟩ := hruns
  have hfit : ∀ e l, 0 < l.requests.length →
      (Deed.errand Desk.kiosk ⟨0, Race.arena⟩ e).Fit l := by
    refine fun e l hl => ⟨fun r hr => ?_, fun d r e' he => ?_⟩
    · cases hr
      exact hl
    · cases he
      rfl
  obtain ⟨before, hbefore⟩ := (Routine.ends_of_run (World.Quiet.refl 0) hlook).exists_course
  obtain ⟨after, hafter⟩ := (Routine.ends_of_run (World.Quiet.refl 0) hmake).exists_course
  have hdiary := (Diary.blank.deed (hfit .cartIfAny _ (by decide)) hbefore).deed
    (hfit .currentCart _ hr) hafter
  have hmarked := flags_exact hdiary 0 cartAttribute
  have hunmarked := flags_exact hdiary 0 parkedAttribute
  refine ⟨_, w₂, l₂, hdiary, ?_, fun e he hmarks => ?_⟩
  · exact (hmarked.mp hcart).resolve_left (by decide)
  · rw [hunmarked.mpr (.inr ⟨e, he, hmarks⟩)] at hparked
    cases hparked

end SessionCart
