import Mathlib.Logic.Relation
import SessionCart.Concurrency.Race
import SessionCart.Proofs.Thread.Section

/-!
# Abandoned sections

A section in which nothing is committed leaves no trace, whether it could be opened or not and
however it ends: storage is as it was, and so are the change flags of all requests and the locks.
All that stays is a cached copy of the value that was found in storage, in the request of the
section, if that had nothing cached.
-/

namespace SessionCart

/-- Others have acted, and left storage and the tickets of a thread alone. -/
structure World.Quiet (i : ThreadId) (w w' : World) : Prop extends w.Apart i w' where
  storage_eq : w'.storage = w.storage
  calm : ∀ s, (w.backend s).intrusion = none → (w'.backend s).intrusion = none

namespace Company

/-- Nobody else changes storage. -/
def quiet : Company := ⟨fun _ _ _ => True, fun _ h => h, True, fun _ => trivial⟩

variable {i : ThreadId} {others : World → World → Prop} {g g' : Grip}

theorem bounds_quiet (hothers : ∀ w w', others w w' → w.Quiet i w') : quiet.Bounds i others := by
  intro g w w' hacted hfits
  have hquiet := hothers w w' hacted
  refine ⟨w'.storage, fun s session _ => ?_, hquiet.toApart.fits hfits fun _ s => hquiet.calm s⟩
  rw [hquiet.storage_eq, hfits.storage_eq]

theorem Drift.storage_eq (h : quiet.Drift g g') : g'.storage = g.storage :=
  funext fun s => funext fun session => h.near s session trivial

end Company

theorem World.Quiet.refl (i : ThreadId) (w : World) : w.Quiet i w := ⟨.refl i w, rfl, fun _ h => h⟩

namespace Section

variable {k : Kind} {i : ThreadId} {others : World → World → Prop}

/-! ### What a thread does in a section that it abandons -/

/-- Sections are opened inside the section and closed again, copies are made, commits fail and
copies are discarded. -/
inductive Idles (i : ThreadId) (others : World → World → Prop) (s : Section k) :
    World × Workspace → World × Workspace → Prop
  | others {w w' : World} {l : Workspace} : others w w' → Idles i others s (w, l) (w', l)
  | join {a : Attribute k} {r : RequestRef} {out : Except Failure (Section k)} {w w' : World}
    {l l' : Workspace} : a.name = s.subject.name → r.session = s.request.session →
    (start a r).Ends i others w l out w' l' → Idles i others s (w, l) (w', l')
  | copy {t : Section k} {out : Except Failure k.Data} {w w' : World} {l l' : Workspace} :
    t.draft = s.draft → t.copy.Ends i others w l out w' l' → Idles i others s (w, l) (w', l')
  | commit {t : Section k} {value : k.Data} {f : Failure} {w w' : World} {l l' : Workspace} :
    t.draft = s.draft → (t.commit value).Ends i others w l (.error f) w' l' →
    Idles i others s (w, l) (w', l')
  | discard {t : Section k} {out : Except Failure Unit} {w w' : World} {l l' : Workspace} :
    t.draft = s.draft → t.discard.Ends i others w l out w' l' → Idles i others s (w, l) (w', l')
  | close {t : Section k} {closing : Routine Unit} {out : Except Failure Unit} {w w' : World}
    {l l' : Workspace} : t.isNested = true → closing = t.close ∨ closing = t.drop →
    closing.Ends i others w l out w' l' → Idles i others s (w, l) (w', l')

/-- The section is open, and nothing but its draft has changed since a grip. -/
structure Pending (s : Section k) (g₀ g : Grip) : Prop where
  tickets_eq : g.tickets = g₀.tickets
  storage_eq : g.storage = g₀.storage
  requests_eq : g.workspace.requests = g₀.workspace.requests
  active_eq : g.workspace.active = g₀.workspace.active
  entry_eq : g.workspace.active.get? (s.request.session, s.subject.name) = some s.draft
  draft_eq : ∃ d, g.workspace.drafts[s.draft]? = some d ∧ d.kind = k ∧ d.closed = false

namespace Pending

variable {s : Section k} {g₀ g g' : Grip} (h : s.Pending g₀ g)

include h

theorem drift (hdrift : Company.quiet.Drift g g') : s.Pending g₀ g' := by
  refine ⟨hdrift.tickets_eq.trans h.tickets_eq, hdrift.storage_eq.trans h.storage_eq,
    ?_, ?_, ?_, ?_⟩
  all_goals rw [hdrift.workspace_eq]
  exacts [h.requests_eq, h.active_eq, h.entry_eq, h.draft_eq]

theorem editDraft (f : Draft → Draft) (hkind : ∀ d, (f d).kind = d.kind)
    (hclosed : ∀ d, (f d).closed = d.closed) :
    s.Pending g₀ (g.work (g.workspace.editDraft s.draft f)) := by
  obtain ⟨d, hd, hdkind, hdclosed⟩ := h.draft_eq
  exact ⟨h.tickets_eq, h.storage_eq, h.requests_eq, h.active_eq, h.entry_eq,
    f d, Workspace.getElem?_editDraft hd f, (hkind d).trans hdkind, (hclosed d).trans hdclosed⟩

theorem openDraft_eq :
    g.workspace.openDraft? k s.request.session s.subject.name = some s.draft := by
  obtain ⟨d, hd, hkind, _⟩ := h.draft_eq
  rw [Workspace.openDraft?, h.entry_eq]
  simp [Workspace.draft_eq hd, hkind]

theorem closed_eq : (g.workspace.draft s.draft).closed = false := by
  obtain ⟨d, hd, _, hclosed⟩ := h.draft_eq
  rw [Workspace.draft_eq hd, hclosed]

end Pending

theorem Idles.pending (hothers : ∀ w w', others w w' → w.Quiet i w') {s : Section k} {g₀ : Grip}
    {p p' : World × Workspace} (hidles : s.Idles i others p p') {g : Grip}
    (hfits : g.Fits .quiet i p.1) (hworkspace : g.workspace = p.2) (h : s.Pending g₀ g) :
    ∃ g', g'.Fits .quiet i p'.1 ∧ g'.workspace = p'.2 ∧ s.Pending g₀ g' := by
  have hbounds := Company.bounds_quiet hothers
  cases hidles with
  | others hacted =>
    obtain ⟨st, hnear, hfits⟩ := hbounds _ _ _ hacted hfits
    exact ⟨g.see st, hfits, hworkspace, h.drift (.see hnear)⟩
  | join hname hsession hends =>
    have hopen := h.openDraft_eq
    rw [← hname, ← hsession] at hopen
    refine hends.sound hbounds hfits hworkspace (Q := fun _ g' => s.Pending g₀ g')
      (Company.wp_start (fun _ _ => h) ?_ ?_)
    all_goals
      intro hnone
      rw [hopen] at hnone
      cases hnone
  | @copy t _ _ _ _ _ hdraft hends =>
    refine hends.sound hbounds hfits hworkspace (Q := fun _ g' => s.Pending g₀ g')
      (Company.wp_copy fun out g' hdrift => ?_)
    rw [hdraft] at hdrift
    have hcopied := h.editDraft (fun d => { d with copies := d.copies + 1 }) (fun _ => rfl)
      fun _ => rfl
    exact hcopied.drift hdrift
  | @commit t value f _ _ _ _ hdraft hends =>
    obtain ⟨g', hfits, hworkspace, hpending⟩ := hends.sound hbounds hfits hworkspace
      (Q := fun out g' => ∀ f, out = .error f → s.Pending g₀ g')
      (Company.wp_section_commit (fun _ _ _ => h) (fun _ _ g' hdrift _ _ => h.drift hdrift)
        fun _ _ _ _ hok => by cases hok)
    exact ⟨g', hfits, hworkspace, hpending f rfl⟩
  | @discard t _ _ _ _ _ hdraft hends =>
    refine hends.sound hbounds hfits hworkspace (Q := fun _ g' => s.Pending g₀ g')
      (Company.wp_discard ?_)
    rw [hdraft]
    exact h.editDraft _ (fun _ => rfl) fun _ => rfl
  | @close t closing _ _ _ _ _ hnested hclosing hends =>
    have hnone : t.hold = none := by simpa [isNested] using hnested
    refine hends.sound hbounds hfits hworkspace (Q := fun _ g' => s.Pending g₀ g')
      (Company.wp_close hclosing (fun _ => h) fun hold hhold => ?_)
    rw [hnone] at hhold
    cases hhold

/-- While a thread only idles in it, the section stays pending. -/
theorem Idles.exists_pending (hothers : ∀ w w', others w w' → w.Quiet i w') {s : Section k}
    {g₀ g : Grip} {w w' : World} {l' : Workspace} (hfits : g.Fits .quiet i w) (h : s.Pending g₀ g)
    (hreach : Relation.ReflTransGen (s.Idles i others) (w, g.workspace) (w', l')) :
    ∃ g', g'.Fits .quiet i w' ∧ g'.workspace = l' ∧ s.Pending g₀ g' := by
  suffices ∀ p, Relation.ReflTransGen (s.Idles i others) (w, g.workspace) p →
      ∃ g', g'.Fits .quiet i p.1 ∧ g'.workspace = p.2 ∧ s.Pending g₀ g' from this _ hreach
  intro p hreach
  induction hreach with
  | refl => exact ⟨g, hfits, rfl, h⟩
  | tail _ hidles ih =>
    obtain ⟨g₁, hfits₁, hworkspace, hpending⟩ := ih
    exact hidles.pending hothers hfits₁ hworkspace hpending

/-! ### No trace -/

/-- A thread is as it was before a section of an attribute, and so is storage, but for a cached copy
of the stored value. In the table of open sections nothing is left under the section's name. -/
structure Traceless (a : Attribute k) (r : RequestRef) (i : ThreadId) (w w' : World)
    (l l' : Workspace) : Prop where
  storage_eq : w'.storage = w.storage
  depth_eq : ∀ t session, (w'.locks t).depth i session = (w.locks t).depth i session
  changed_eq : ∀ id, (l'.request id).changed = (l.request id).changed
  others_eq : ∀ id, id ≠ r.id → l'.request id = l.request id
  cached_eq : ∀ name, (l'.request r.id).get? name = if name = a.name then
    ((l.request r.id).get? name).or ((w.storage a.store r.session).value name)
    else (l.request r.id).get? name
  active_eq : ∀ key, l'.active.get? key =
    if key = (r.session, a.name) then none else l.active.get? key

/-- An outermost section has just been opened on a grip. -/
structure Outermost (a : Attribute k) (r : RequestRef) (g : Grip) (s : Section k) (g' : Grip) :
    Prop where
  unopened : g.workspace.openDraft? k r.session a.name = none
  subject_eq : s.subject = a
  request_eq : s.request = r
  hold_eq : ∃ hold, s.hold = some hold ∧ (∀ e ∈ g.tickets, e.1 ≠ hold) ∧
    g'.tickets = g.tickets ++ [(hold, true)]
  storage_eq : g'.storage = g.storage
  requests_eq : g'.workspace.requests = (g.workspace.fill r a.name (g.stored a r)).requests
  active_eq : ∀ key, key ≠ (r.session, a.name) →
    g'.workspace.active.get? key = g.workspace.active.get? key
  pending : s.Pending g' g'

theorem wp_start_quiet (a : Attribute k) (r : RequestRef) (g : Grip) :
    Company.quiet.logic.wp (fun out g' => match out with
      | .error _ => Company.quiet.Drift g g'
      | .ok s => s.isNested = false → Outermost a r g s g') (start a r) g := by
  refine Company.wp_start (fun d _ hnested => by cases hnested) (fun _ _ _ h => h) ?_
  intro hopen key g₁ g₂ g₃ n d h₁ hfresh h₂ h₃ _ _
  have hstorage : g₂.storage = g.storage := h₂.storage_eq.trans h₁.storage_eq
  have hstored : g₂.stored a r = g.stored a r := by rw [Grip.stored, hstorage, Grip.stored]
  have htickets : g₃.tickets = g.tickets ++ [(⟨a.table, r.session, key⟩, true)] := by
    rw [h₃.tickets_eq, h₂.tickets_eq, Grip.take, h₁.tickets_eq]
  refine ⟨hopen, rfl, rfl, ⟨_, rfl, h₁.tickets_eq ▸ hfresh, htickets⟩, ?_, ?_, ?_, ?_⟩
  · exact h₃.storage_eq.trans hstorage
  · rw [hstored]
    rfl
  · intro key' hkey'
    simp [Grip.work, Workspace.opened, Ne.symm hkey']
  · refine ⟨rfl, rfl, rfl, rfl, by simp [Grip.work, Workspace.opened], ?_⟩
    exact ⟨{ kind := k, current := some (.of k d) }, by simp [Grip.work, Workspace.opened],
      rfl, rfl⟩

/-- Closing a pending section: the lock is given back, and the section is out of the table. -/
theorem Pending.wp_close {s : Section k} {g₀ g : Grip} (h : s.Pending g₀ g) {hold : Hold}
    (hhold : s.hold = some hold) {tickets : List (Hold × Bool)}
    (htickets : g₀.tickets = tickets ++ [(hold, true)]) (hfresh : ∀ e ∈ tickets, e.1 ≠ hold)
    {closing : Routine Unit} (hclosing : closing = s.close ∨ closing = s.drop) :
    Company.quiet.logic.wp (fun _ g' => g'.tickets = tickets ∧ g'.storage = g₀.storage ∧
      g'.workspace = s.closing g.workspace) closing g := by
  refine Company.wp_close hclosing (fun hdone => ?_) fun hold' hhold' _ => ?_
  · rw [hhold, h.closed_eq] at hdone
    simp at hdone
  · rw [hhold] at hhold'
    cases hhold'
    refine ⟨⟨true, ?_⟩, fun out g₁ h₁ => ⟨?_, h₁.storage_eq.trans h.storage_eq, rfl⟩⟩
    · rw [h.tickets_eq, htickets]
      simp
    · change g₁.tickets.filter _ = tickets
      rw [h₁.tickets_eq, h.tickets_eq, htickets, List.filter_append,
        List.filter_eq_self.mpr (by simpa using hfresh)]
      simp

theorem active_closing (s : Section k) (l : Workspace) (key : SessionId × String)
    (hentry : l.active.get? (s.request.session, s.subject.name) = some s.draft) :
    (s.closing l).active.get? key =
      if key = (s.request.session, s.subject.name) then none else l.active.get? key := by
  rw [get?_active_closing]
  by_cases hkey : key = (s.request.session, s.subject.name)
  · rw [if_pos hkey, if_pos ⟨hkey, hkey ▸ hentry⟩]
  · rw [if_neg hkey, if_neg fun h => hkey h.1]

end Section

namespace Workspace

variable {l : Workspace} {r : RequestRef} {name : String} {found : Option Value}

theorem request_editRequest_ne {id : RequestId} (hid : id ≠ r.id) (f : Request → Request) :
    (l.editRequest r.id f).request id = l.request id := by
  simp [request, editRequest, Ne.symm hid]

theorem request_fill_ne {id : RequestId} (hid : id ≠ r.id) :
    (l.fill r name found).request id = l.request id := by
  unfold fill
  split
  · exact request_editRequest_ne hid _
  · rfl

theorem changed_fill (hr : r.id < l.requests.length) (id : RequestId) :
    ((l.fill r name found).request id).changed = (l.request id).changed := by
  by_cases hid : id = r.id
  · unfold fill
    split
    · rw [hid, request_editRequest hr]
      rfl
    · rfl
  · rw [request_fill_ne hid]

theorem get?_fill (hr : r.id < l.requests.length) (other : String) :
    ((l.fill r name found).request r.id).get? other = if other = name then
      ((l.request r.id).get? other).or found else (l.request r.id).get? other := by
  have hcached : ∀ n, (l.cached r).value n = (l.request r.id).get? n := fun _ => rfl
  cases hvalue : (l.request r.id).get? name with
  | some v =>
    rw [fill_of_some ((hcached name).trans hvalue)]
    split
    · rename_i hname
      rw [hname, hvalue, Option.some_or]
    · rfl
  | none =>
    cases found with
    | none => simp
    | some v =>
      rw [fill_of_none ((hcached name).trans hvalue), request_editRequest hr, Request.get?_set]
      by_cases hname : other = name
      · rw [hname, if_pos rfl, if_pos rfl, hvalue, Option.none_or]
      · rw [if_neg (Ne.symm hname), if_neg hname]

end Workspace

namespace Section

variable {k : Kind} {i : ThreadId} {others : World → World → Prop}

/-- A section that is pending when it is closed has left no trace. -/
theorem Outermost.traceless {a : Attribute k} {r : RequestRef} {s : Section k}
    {g g₁ g₂ g₃ : Grip} {w w' : World} (hopened : Outermost a r g s g₁)
    (hr : r.id < g.workspace.requests.length) (hpending : s.Pending g₁ g₂)
    (hfits : g.Fits .quiet i w) (hfits' : g₃.Fits .quiet i w') (htickets : g₃.tickets = g.tickets)
    (hstorage : g₃.storage = g₁.storage) (hworkspace : g₃.workspace = s.closing g₂.workspace) :
    Traceless a r i w w' g.workspace g₃.workspace := by
  have hrequest : ∀ id, g₃.workspace.request id = (g.workspace.fill r a.name
      ((w.storage a.store r.session).value a.name)).request id := by
    intro id
    rw [Workspace.request, hworkspace, requests_closing, hpending.requests_eq,
      hopened.requests_eq, Grip.stored, hfits.storage_eq, Workspace.request]
  constructor
  case storage_eq => rw [← hfits'.storage_eq, hstorage, hopened.storage_eq, hfits.storage_eq]
  case depth_eq =>
    intro t session
    rw [hfits'.depth_eq, hfits.depth_eq, htickets]
  case changed_eq =>
    intro id
    rw [hrequest, Workspace.changed_fill hr]
  case others_eq =>
    intro id hid
    rw [hrequest, Workspace.request_fill_ne hid]
  case cached_eq =>
    intro name
    rw [hrequest, Workspace.get?_fill hr]
    split
    · rename_i hname
      rw [hname]
    · rfl
  case active_eq =>
    intro key
    rw [hworkspace, active_closing s _ key hpending.entry_eq, hopened.request_eq,
      hopened.subject_eq]
    split
    · rfl
    · rename_i hkey
      rw [hpending.active_eq, hopened.active_eq key hkey]

/-- **An abandoned section leaves no trace.** Where others change no storage, a section that cannot
be opened leaves the thread's workspace, its locks and all storage as they were. So does an
outermost one that is opened and closed, or dropped, and in which nothing is committed, but for a
cached copy of the stored value: it does not matter what is opened, copied, discarded or refused by
storage in between. The table of open sections has no entry under the section's name afterwards, and
before it had none of this kind. -/
theorem abandoned_leaves_no_trace (hothers : ∀ w w', others w w' → w.Quiet i w')
    (a : Attribute k) (r : RequestRef) {w w₁ : World} {l l₁ : Workspace}
    {out : Except Failure (Section k)} (hsound : ∀ t, (w.locks t).Sound)
    (hcalm : ∀ s, (w.backend s).intrusion = none) (hr : r.id < l.requests.length)
    (hstart : (start a r).Ends i others w l out w₁ l₁) :
    (∀ f, out = .error f → l₁ = l ∧ w₁.storage = w.storage ∧
      ∀ t session, (w₁.locks t).depth i session = (w.locks t).depth i session) ∧
    ∀ s, out = .ok s → s.isNested = false → l.openDraft? k r.session a.name = none ∧
      ∀ w₂ l₂, Relation.ReflTransGen (s.Idles i others) (w₁, l₁) (w₂, l₂) →
        ∀ closing end_ w₃ l₃, closing = s.close ∨ closing = s.drop →
          closing.Ends i others w₂ l₂ end_ w₃ l₃ → Traceless a r i w w₃ l l₃ := by
  have hfits := Grip.fits_of (C := .quiet) (i := i) hsound (fun _ => hcalm) l
  have hbounds := Company.bounds_quiet hothers
  obtain ⟨g₁, hfits₁, rfl, hout⟩ := hstart.sound hbounds hfits rfl (wp_start_quiet a r _)
  refine ⟨?_, ?_⟩
  · rintro f rfl
    refine ⟨hout.workspace_eq, ?_, fun t session => ?_⟩
    · rw [← hfits₁.storage_eq, hout.storage_eq]
      rfl
    · rw [hfits₁.depth_eq, hfits.depth_eq, hout.tickets_eq]
  · rintro s rfl houter
    have hopened := hout houter
    refine ⟨hopened.unopened, fun w₂ l₂ hinside closing end_ w₃ l₃ hclosing hends => ?_⟩
    obtain ⟨hold, hhold, hfresh, htickets⟩ := hopened.hold_eq
    -- between opening and closing the section is pending
    obtain ⟨g₂, hfits₂, rfl, hpending⟩ :=
      Idles.exists_pending hothers hfits₁ hopened.pending hinside
    obtain ⟨g₃, hfits₃, rfl, htickets₃, hstorage₃, hworkspace₃⟩ :=
      hends.sound hbounds hfits₂ rfl (hpending.wp_close hhold htickets hfresh hclosing)
    exact hopened.traceless hr hpending hfits hfits₃ htickets₃ hstorage₃ hworkspace₃

/-- A store with a value that takes no other one. -/
def stuck : World :=
  Race.dawn.setBackend .main
    { store := Store.empty.set Race.arena Race.counter.name (.json (.int 7))
      outage := .window .set 0 none "read-only" }

theorem sound_stuck (t : TableName) : (stuck.locks t).Sound := World.sound_new _ t

theorem calm_stuck (s : StoreName) : (stuck.backend s).intrusion = none := by
  cases s <;> rfl

/-- A copy is made and changed, the store refuses the commit, and the section is dropped. -/
theorem abandoned_after_refused_commit : ∃ s w₁ l₁ w₂ l₂ w₃ l₃ w₄ l₄,
    (start Race.counter ⟨0, Race.arena⟩).Ends 0 (World.Quiet 0) stuck
      { requests := [.new Race.arena] } (.ok s) w₁ l₁ ∧
    s.isNested = false ∧ s.copy.Ends 0 (World.Quiet 0) w₁ l₁ (.ok (.int 7)) w₂ l₂ ∧
    (s.commit (.int 8)).Ends 0 (World.Quiet 0) w₂ l₂
      (.error (.error (.storage ⟨"set", "read-only"⟩))) w₃ l₃ ∧
    s.drop.Ends 0 (World.Quiet 0) w₃ l₃ (.ok ()) w₄ l₄ ∧
    Traceless Race.counter ⟨0, Race.arena⟩ 0 stuck w₄ { requests := [.new Race.arena] } l₄ := by
  have hruns : ∃ s w₁ l₁ w₂ l₂ w₃ l₃ w₄ l₄,
      (start Race.counter ⟨0, Race.arena⟩).run true 0 stuck { requests := [.new Race.arena] } =
        .finished (.ok s) w₁ l₁ ∧
      s.isNested = false ∧ s.copy.run true 0 w₁ l₁ = .finished (.ok (.int 7)) w₂ l₂ ∧
      (s.commit (.int 8)).run true 0 w₂ l₂ =
        .finished (.error (.error (.storage ⟨"set", "read-only"⟩))) w₃ l₃ ∧
      s.drop.run true 0 w₃ l₃ = .finished (.ok ()) w₄ l₄ :=
    ⟨_, _, _, _, _, _, _, _, _, rfl, rfl, rfl, rfl, rfl⟩
  obtain ⟨s, w₁, l₁, w₂, l₂, w₃, l₃, w₄, l₄, hstart, houter, hcopy, hcommit, hdrop⟩ := hruns
  have hstart := Routine.ends_of_run (World.Quiet.refl 0) hstart
  have hcopy := Routine.ends_of_run (World.Quiet.refl 0) hcopy
  have hcommit := Routine.ends_of_run (World.Quiet.refl 0) hcommit
  have hdrop := Routine.ends_of_run (World.Quiet.refl 0) hdrop
  have hone : 0 < ({ requests := [.new Race.arena] } : Workspace).requests.length := Nat.one_pos
  obtain ⟨_, htrace⟩ := (abandoned_leaves_no_trace (fun _ _ h => h) Race.counter
    ⟨0, Race.arena⟩ sound_stuck calm_stuck hone hstart).2 s rfl houter
  refine ⟨s, w₁, l₁, w₂, l₂, w₃, l₃, w₄, l₄, hstart, houter, hcopy, hcommit, hdrop, ?_⟩
  exact htrace w₃ l₃ (.tail (.single (.copy rfl hcopy)) (.commit rfl hcommit)) _ _ _ _ (.inr rfl)
    hdrop

/-- An attribute under the counter's name with another kind of value. -/
def tale : Attribute .text where
  label := "t"
  name := Race.counter.name
  store := .main
  table := .shared
  settings := {}
  make := fun _ _ => .ok ""

/-- The section of another kind that was open under the same name is not in the table any more. -/
theorem entry_lost_to_other_kind : ¬∀ (k : Kind) (a : Attribute k) (r : RequestRef) (s : Section k)
    (w w₁ w₂ : World) (l l₁ l₂ : Workspace), (∀ t, (w.locks t).Sound) →
    (∀ s, (w.backend s).intrusion = none) → r.id < l.requests.length →
    (start a r).Ends 0 (World.Quiet 0) w l (.ok s) w₁ l₁ → s.isNested = false →
    s.close.Ends 0 (World.Quiet 0) w₁ l₁ (.ok ()) w₂ l₂ →
    ∀ session name, l₂.hasOpen session name = l.hasOpen session name := by
  intro hclaim
  have hruns : ∃ u w l s w₁ l₁ w₂ l₂,
      (start Race.counter ⟨0, Race.arena⟩).run true 0 Race.dawn
        { requests := [.new Race.arena] } = .finished (.ok u) w l ∧
      (start tale ⟨0, Race.arena⟩).run true 0 w l = .finished (.ok s) w₁ l₁ ∧
      s.isNested = false ∧ s.close.run true 0 w₁ l₁ = .finished (.ok ()) w₂ l₂ ∧
      0 < l.requests.length ∧ (∀ s, (w.backend s).intrusion = none) ∧
      l.hasOpen Race.arena tale.name = true ∧ l₂.hasOpen Race.arena tale.name = false :=
    ⟨_, _, _, _, _, _, _, _, rfl, rfl, rfl, rfl, Nat.one_pos, by intro s; cases s <;> rfl, rfl, rfl⟩
  obtain ⟨u, w, l, s, w₁, l₁, w₂, l₂, hfirst, hstart, houter, hclose, hlength, hcalm, hbefore,
    hafter⟩ := hruns
  have hsound : ∀ t, (w.locks t).Sound := by
    have hfits := Grip.fits_of (C := .quiet) (i := 0) (w := Race.dawn)
      (World.sound_new _) (fun _ => World.calm_new _)
      { requests := [.new Race.arena] }
    obtain ⟨_, hfits, _⟩ := (Routine.ends_of_run (World.Quiet.refl 0) hfirst).sound
      (Company.bounds_quiet fun _ _ h => h) hfits rfl (wp_start_quiet _ _ _)
    exact hfits.sound
  have hsame := hclaim .text tale ⟨0, Race.arena⟩ s w w₁ w₂ l l₁ l₂ hsound hcalm hlength
    (Routine.ends_of_run (World.Quiet.refl 0) hstart) houter
    (Routine.ends_of_run (World.Quiet.refl 0) hclose) Race.arena tale.name
  rw [hbefore, hafter] at hsame
  cases hsame

end Section

end SessionCart
