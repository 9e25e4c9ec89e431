import SessionCart.Proofs.Desk.Flags

/-!
# Snapshots of requests

What a request has read from its cache first stays its value, whatever is stored meanwhile: later
reads find it in the cache, sections that are opened only read past it, and none but the writes of
that request touch it. Reads that create nothing change nothing but an empty place of the cache.
-/

namespace SessionCart

/-- The deed writes the cached value of an attribute of a request: with the request's part of a
write, with a session write that an open section takes, with a commit, or outright. -/
def Done.Rewrites : Done → RequestId → String → Prop
  | ⟨@Deed.write k a r _ scope, before, out, _⟩, id, name =>
    id = r.id ∧ name = a.name ∧ out = .ok () ∧ (scope.request = true ∨
      scope.session = true ∧ (before.openDraft? k r.session a.name).isSome = true)
  | ⟨.commit s _, _, out, _⟩, id, name =>
    id = s.request.id ∧ name = s.subject.name ∧ ∃ value, out = .ok value
  | ⟨.cache r cached _, _, _, _⟩, id, name | ⟨.uncache r cached, _, _, _⟩, id, name =>
    id = r.id ∧ name = cached
  | ⟨.errand d r e, _, _, events⟩, id, name =>
    id = r.id ∧ (e.notes d name ∨ name = d.cart.name ∧ d.cart.Written r events)
  | _, _, _ => False

open Attribute

variable {i : ThreadId} {others : World → World → Prop} {w w' : World} {l l' : Workspace}
  {events : List Event}

theorem Attribute.Idle.kept {k : Kind} {a : Attribute k} {r : RequestRef} {α : Type} {x : Routine α}
    {out : Except Failure α} (hx : a.Idle r x)
    (h : x.Course i others w l events (.ended out) w' l') {id : RequestId} {name : String} {v : Value}
    (hv : (l.request id).get? name = some v) : (l'.request id).get? name = some v := by
  rwa [Workspace.request_congr (hx h).2]

theorem Workspace.get?_keep_of_ne {r : RequestRef} (hr : r.id < l.requests.length) {name : String}
    (value : Option Value) {id : RequestId} {other : String} (hne : ¬(id = r.id ∧ other = name)) :
    ((l.keep r name value).request id).get? other = (l.request id).get? other := by
  by_cases hid : id = r.id
  · subst hid
    rw [get?_keep hr, if_neg fun hname => hne ⟨rfl, hname.symm⟩]
  · obtain ⟨f, hf⟩ := l.exists_keep r name value
    rw [hf, request_editRequest_ne hid]

/-- A write leaves the cached value as it is if it has failed, or if neither its scope nor an open
section includes the cache. -/
theorem Attribute.get?_write {k : Kind} {a : Attribute k} {r : RequestRef} {value : Option k.Data}
    {scope : Scope} {out : Except Failure Unit} (hr : r.id < l.requests.length)
    (hscope : out = .ok () → ¬(scope.request = true ∨
      scope.session = true ∧ (l.openDraft? k r.session a.name).isSome = true))
    (h : (a.write r value scope).Course i others w l events (.ended out) w' l') :
    (l'.request r.id).get? a.name = (l.request r.id).get? a.name := by
  cases hsession : scope.session with
  | true =>
    rcases course_write hsession h with ⟨-, -, hl'⟩ | ⟨rfl, -, hl'⟩
    · rw [Workspace.request_congr hl']
    · obtain ⟨hrequest, hopen⟩ := not_or.mp (hscope rfl)
      rw [Workspace.request_congr hl', if_neg fun hsome => hopen ⟨hsession, hsome⟩,
        Workspace.get?_wrote hr, if_neg fun h => hrequest h.1]
  | false =>
    obtain ⟨rfl, -, rfl⟩ := course_write_request hsession h
    rw [if_neg fun hrequest => hscope rfl (.inl hrequest)]

/-- A deed that does not write a cached value leaves it as it is. -/
theorem Deed.kept {deed : Deed} {out : Except Failure deed.Answer} (hfit : deed.Fit l)
    (h : deed.routine.Course i others w l events (.ended out) w' l') {id : RequestId}
    {name : String} (hkept : ¬Done.Rewrites ⟨deed, l, out, events⟩ id name) {v : Value}
    (hv : (l.request id).get? name = some v) : (l'.request id).get? name = some v := by
  cases deed with
  | accept session isNew =>
    obtain ⟨-, -, -, rfl⟩ := h.of_own.of_done
    change ((Workspace.addRequest l _).2.request id).get? name = some v
    rw [Workspace.request_addRequest]
    split
    · rename_i hid
      rw [hid, Workspace.request_length] at hv
      cases hv
    · exact hv
  | read a r policy creating scope =>
    have hlooked := course_read (hfit.known r rfl) h
    rcases (hlooked.dealing fun _ => False).kept id name v hv with hv' | ⟨rfl, hfree | ⟨rfl, -⟩⟩
    · exact hv'
    · exact hfree.elim
    · rwa [Workspace.request_congr (hlooked.idle v hv).2]
  | @write k a r value scope =>
    by_cases hplace : id = r.id ∧ name = a.name
    · obtain ⟨rfl, rfl⟩ := hplace
      rwa [get?_write (hfit.known r rfl) (fun hout hscope => hkept ⟨rfl, rfl, hout, hscope⟩) h]
    · have hdeals : a.Deals r (· = a.name) (a.write r value scope) := .write fun _ _ => rfl
      rcases (hdeals h (hfit.known r rfl)).kept id name v hv with hv' | ⟨hid, hname | hname⟩
      · exact hv'
      · exact absurd ⟨hid, hname⟩ hplace
      · exact absurd ⟨hid, hname.1⟩ hplace
  | commit s value =>
    have hdeals : s.subject.Deals s.request (fun _ => False) (s.commit value) :=
      Section.deals_commit s value
    rcases (hdeals h (hfit.known _ rfl)).kept id name v hv with hv' | ⟨hid, hfree | ⟨hname, hwritten⟩⟩
    · exact hv'
    · exact hfree.elim
    · exact absurd ⟨hid, hname, (Section.written_commit_iff h).mp hwritten⟩ hkept
  | start a r =>
    have hopened := Section.course_start (hfit.known r rfl) h
    rcases (hopened.dealing fun _ => False).kept id name v hv with hv' | ⟨-, hfree | ⟨-, hwritten⟩⟩
    · exact hv'
    · exact hfree.elim
    · exact absurd hwritten hopened.unwritten
  | copy s => exact (Section.idle_copy (a := s.subject) (r := s.request) s).kept h hv
  | discard s => exact (Section.idle_discard (a := s.subject) (r := s.request) s).kept h hv
  | close s => exact (Section.idle_close (a := s.subject) (r := s.request) s).kept h hv
  | drop s => exact (Section.idle_drop (a := s.subject) (r := s.request) s).kept h hv
  | hold a r => exact (Idle.acquire (a := a) (r := r) _ _ _).kept h hv
  | release hold =>
    obtain ⟨_, _, _, _, -, -, rfl, hnext⟩ := h.of_world
    obtain ⟨-, -, -, rfl⟩ := hnext.of_done
    exact hv
  | mark r marked =>
    obtain ⟨-, -, -, rfl⟩ := h.of_own.of_done
    change ((l.editRequest r.id (·.markChanged marked)).request id).get? name = some v
    by_cases hid : id = r.id
    · subst hid
      rwa [Workspace.request_editRequest (hfit.known r rfl), Request.get?_markChanged]
    · rwa [Workspace.request_editRequest_ne hid]
  | cache r cached value =>
    obtain ⟨-, -, -, rfl⟩ := h.of_own.of_done
    exact (Workspace.get?_keep_of_ne (hfit.known r rfl) (some value) hkept).trans hv
  | uncache r cached =>
    obtain ⟨-, -, -, rfl⟩ := h.of_own.of_done
    exact (Workspace.get?_keep_of_ne (hfit.known r rfl) none hkept).trans hv
  | errand d r e =>
    have hdealing := Desk.deals_errand (hfit.name_eq d r e rfl) e h (hfit.known r rfl)
    exact (hdealing.kept id name v hv).resolve_right hkept

theorem Diary.kept {entries : List Done} (hdiary : Diary i others w l entries w' l')
    {id : RequestId} {name : String} (hkept : ∀ e ∈ entries, ¬e.Rewrites id name) {v : Value}
    (hv : (l.request id).get? name = some v) : (l'.request id).get? name = some v := by
  induction hdiary with
  | blank => exact hv
  | others _ _ ih => exact ih hkept
  | deed _ hfit hcourse ih =>
    refine Deed.kept hfit hcourse (hkept _ (by simp)) (ih fun e he => hkept e ?_)
    exact List.mem_append_left _ he

/-! ### Reads that create nothing -/

theorem World.storage_perform_get {s : StoreName} {session : SessionId} {name : String}
    {reply : Except StoreFault (Option Value)} (hcalm : ∀ s, (w.backend s).intrusion = none)
    (hperform : w.perform i (.get s session name) = some (reply, w')) :
    w'.storage = w.storage ∧ ∀ s, (w'.backend s).intrusion = none := by
  simp only [World.perform, Option.some.injEq, Prod.mk.injEq] at hperform
  obtain ⟨-, rfl⟩ := hperform
  have hget : ((w.backend s).get session name).2 = (w.backend s).note .get session name false := by
    rw [Backend.get, Backend.perform]
    split
    · rfl
    · simp [Backend.intrude, Backend.note, hcalm s]
  rw [hget]
  refine ⟨World.storage_setBackend_same w s rfl, fun s' => ?_⟩
  rw [World.backend_setBackend_eq]
  split
  · exact hcalm s
  · exact hcalm s'

/-- Where the others leave storage alone, looking into it leaves it as it is. -/
theorem Routine.Course.storage_eq {α : Type} {x rest : Routine α}
    (hothers : ∀ w w', others w w' → w.Quiet i w') (hcalm : ∀ s, (w.backend s).intrusion = none)
    (h : x.Course i others w l events rest w' l')
    (hget : ∀ e ∈ events, ∃ s session name, e.action = .get s session name) :
    w'.storage = w.storage := by
  induction h with
  | here => rfl
  | own _ ih => exact ih hcalm hget
  | @world a next w w₁ w₂ w' l l' reply events rest hacted hperform _ ih =>
    obtain ⟨⟨s, session, name, rfl⟩, hrest⟩ := List.forall_mem_cons.mp hget
    have hquiet := hothers w w₁ hacted
    obtain ⟨hstorage, hcalm₂⟩ :=
      World.storage_perform_get (fun s => hquiet.calm s (hcalm s)) hperform
    exact (ih hcalm₂ hrest).trans (hstorage.trans hquiet.storage_eq)
  | expire _ _ hexpired _ ih =>
    obtain ⟨⟨s, session, name, rfl⟩, -⟩ := List.forall_mem_cons.mp hget
    cases hexpired

/-- **Reads are repeatable.** Once a request has read a value from its cache first, and had it
cached, each such read in that request gives that value, whatever the others do and whatever the
thread does in the meantime, until a deed for the request writes it. And a read that creates nothing
asks storage at most: it leaves storage as it is, and of what the thread has to itself it changes at
most the empty place of the value in the cache of the request, to the value that it gives. -/
theorem reads_repeatable {k : Kind} (a : Attribute k) (r : RequestRef) :
    (∀ {creating scope value w₀ l₀ w l w' l' events entries}, r.id < l₀.requests.length →
      scope.request = true → (a.read r .requestFirst creating scope).Course i others w₀ l₀ events
        (.ended (.ok (some value))) w l →
      Diary i others w l entries w' l' → (∀ e ∈ entries, ¬e.Rewrites r.id a.name) →
      ∀ creating scope, (∀ patient, (a.read r .requestFirst creating scope).run patient i w' l' =
          .finished (.ok (some value)) w' l') ∧
        ∀ {events out w'' l''}, (a.read r .requestFirst creating scope).Course i others w' l' events
          (.ended out) w'' l'' → out = .ok (some value) ∧ events = [] ∧ w'' = w' ∧ l'' = l') ∧
    ∀ {policy scope out w l w' l' events},
      (a.read r policy false scope).Course i others w l events (.ended out) w' l' →
      (∀ e ∈ events, e.action = .get a.store r.session a.name) ∧
      ((∀ w w', others w w' → w.Quiet i w') → (∀ s, (w.backend s).intrusion = none) →
        w'.storage = w.storage) ∧
      (l' = l ∨ ∃ value, out = .ok (some value) ∧ scope.request = true ∧
        (l.request r.id).get? a.name = none ∧
          l' = l.editRequest r.id (·.set a.name (.of k value))) := by
  refine ⟨fun hr hscope hread hdiary hkept creating scope => ?_, fun hfind => ?_⟩
  · have hcached := hdiary.kept hkept ((course_read hr hread).snapshot rfl hscope _ rfl)
    exact ⟨read_of_cached hcached, course_read_of_cached hcached⟩
  · obtain ⟨hget, hl'⟩ := course_find hfind
    exact ⟨hget, fun hothers hcalm => hfind.storage_eq hothers hcalm fun e he =>
      ⟨_, _, _, hget e he⟩, hl'⟩

/-- A request still reads its first value when another request has stored the next one. -/
theorem reads_repeatable_counter : ∃ w l w' l' entries,
    (Race.counter.read ⟨0, Race.arena⟩ .requestFirst true .all).Ends 0 (World.Quiet 0) Race.dawn
      { requests := [.new Race.arena, .new Race.arena] } (.ok (some (.int 0))) w l ∧
    Diary 0 (World.Quiet 0) w l entries w' l' ∧ entries.length = 1 ∧
    (w'.storage .main Race.arena).value Race.counter.name = some (.of .json (.int 1)) ∧
    (Race.counter.read ⟨0, Race.arena⟩ .requestFirst true .all).run true 0 w' l' =
      .finished (.ok (some (.int 0))) w' l' := by
  have hruns : ∃ w₁ l₁ w₂ l₂,
      (Race.counter.read ⟨0, Race.arena⟩ .requestFirst true .all).run true 0 Race.dawn
        { requests := [.new Race.arena, .new Race.arena] } =
        .finished (.ok (some (.int 0))) w₁ l₁ ∧
      (Race.counter.write ⟨1, Race.arena⟩ (some (.int 1)) .all).run true 0 w₁ l₁ =
        .finished (.ok ()) w₂ l₂ ∧ 1 < l₁.requests.length ∧
      (w₂.storage .main Race.arena).value Race.counter.name = some (.of .json (.int 1)) :=
    ⟨_, _, _, _, rfl, rfl, by decide, rfl⟩
  obtain ⟨w₁, l₁, w₂, l₂, hread, hwrite, hr, hstored⟩ := hruns
  have hends := Routine.ends_of_run (World.Quiet.refl 0) hread
  obtain ⟨before, hbefore⟩ := hends.exists_course
  obtain ⟨after, hafter⟩ := (Routine.ends_of_run (World.Quiet.refl 0) hwrite).exists_course
  have hfit : (Deed.write Race.counter ⟨1, Race.arena⟩ (some (.int 1)) .all).Fit l₁ := by
    refine ⟨fun r hr' => ?_, fun d r e he => by cases he⟩
    cases hr'
    exact hr
  have hdiary := Diary.blank.deed hfit hafter
  have hagain := (reads_repeatable Race.counter ⟨0, Race.arena⟩).1 (by decide) rfl hbefore hdiary
    (by simp [Done.Rewrites]) true .all
  exact ⟨w₁, l₁, w₂, l₂, _, hends, hdiary, rfl, hstored, hagain.1 true⟩

end SessionCart
