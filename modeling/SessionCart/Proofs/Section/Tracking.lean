import SessionCart.Proofs.Section.Consistent

/-!
# Working values and storage

While an outermost section is open, its working value and storage agree: before the first commit
storage is as it was when the section was opened, and from then on it has the working value. Other
threads write a session only while they hold its lock, and the thread's own writes, whatever their
scope and the request that they are made for, go through the section.
-/

namespace SessionCart

/-- Others have acted, and left alone the tickets of a thread and the sessions it has locked. -/
structure World.Fair (v : Venue) (i : ThreadId) (w w' : World) : Prop extends w.Apart i w' where
  storage_eq : ∀ session, 0 < (w.locks v.table).depth i session →
    w'.storage v.store session = w.storage v.store session
  calm : ∀ s, (w.backend s).intrusion = none → (w'.backend s).intrusion = none

theorem World.Fair.refl (v : Venue) (i : ThreadId) (w : World) : w.Fair v i w :=
  ⟨.refl i w, fun _ _ => rfl, fun _ h => h⟩

/-! ### Threads that write under the lock -/

/-- The action does not change a session of the venue's store unless this thread has its lock. -/
def World.Action.UnderLock (v : Venue) (j : ThreadId) (w : World) : World.Action → Prop
  | .set s session _ _ | .remove s session _ | .invalidate s session =>
    s = v.store → 0 < (w.locks v.table).depth j session
  | _ => True

theorem Backend.perform_snd {α : Type} (b : Backend) (call : StoreCall) (session : SessionId)
    (name : String) (locked : Bool) (act : Backend → α × Backend) :
    (b.perform call session name locked act).2 = b.note call session name locked ∨
      (b.perform call session name locked act).2 = (act (b.note call session name locked)).2 := by
  rw [perform]
  dsimp only
  split
  · exact .inl rfl
  · exact .inr rfl

theorem LockTable.Sound.depth_exclusive {t : LockTable} (ht : t.Sound) {i j : ThreadId}
    {session : SessionId} (hi : 0 < t.depth i session) (hj : 0 < t.depth j session) : i = j := by
  rw [ht.depth_eq, List.countP_pos_iff] at hi hj
  obtain ⟨k, hk, hki⟩ := hi
  obtain ⟨k', hk', hkj⟩ := hj
  simp only [Bool.and_eq_true, decide_eq_true_eq] at hki hkj
  rw [← hki.1.2, ← hkj.1.2]
  exact ht.thread_eq hk hk' hki.1.1 hkj.1.1 (hki.2.trans hkj.2.symm)

/-- A call to a store is fair where it lets nobody else in and leaves alone the sessions that the
thread has locked. -/
theorem World.Apart.fair_of_call {v : Venue} {i : ThreadId} {w : World} {α : Type} {s : StoreName}
    {call : StoreCall} {session : SessionId} {name : String} {locked : Bool}
    {act : Backend → α × Backend}
    (hapart : w.Apart i
      (w.setBackend s ((w.backend s).perform call session name locked act).2))
    (hcalm : (w.backend s).intrusion = none)
    (hintrusion : (act ((w.backend s).note call session name locked)).2.intrusion = none)
    (hstore : s = v.store → ∀ session', 0 < (w.locks v.table).depth i session' → ∀ name',
      (act ((w.backend s).note call session name locked)).2.store.get? session' name' =
        (w.backend s).store.get? session' name') :
    w.Fair v i (w.setBackend s ((w.backend s).perform call session name locked act).2) := by
  have hperformed := Backend.perform_snd (w.backend s) call session name locked act
  refine ⟨hapart, fun session' hsession' => ?_, fun s' hs' => ?_⟩
  · rw [storage, storage, backend_setBackend_eq]
    split
    · rename_i hs
      refine Shelf.ext (funext fun name' => ?_)
      rcases hperformed with hb | hb
      · rw [hb, hs]
        rfl
      · rw [hb, ← hs]
        exact hstore hs session' hsession' name'
    · rfl
  · rw [backend_setBackend_eq]
    split
    · rcases hperformed with hb | hb
      · rw [hb]
        exact hcalm
      · rw [hb]
        exact hintrusion
    · exact hs'

/-- Each action of another thread that writes only under the lock is one of a fair one. -/
theorem World.fair_of_perform {v : Venue} {i j : ThreadId} {w w' : World} {a : World.Action}
    {reply : a.Reply} (hperform : w.perform j a = some (reply, w')) (hother : j ≠ i)
    (hsound : (w.locks v.table).Sound) (hcalm : ∀ s, (w.backend s).intrusion = none)
    (hspares : a.Spares i w) (hlocked : a.UnderLock v j w) : w.Fair v i w' := by
  have hapart := World.apart_of_perform hother hspares hperform
  have hsession : ∀ session session', 0 < (w.locks v.table).depth j session →
      0 < (w.locks v.table).depth i session' → session ≠ session' := by
    rintro session session' hj hi rfl
    exact hother (hsound.depth_exclusive hj hi)
  cases a with
  | get s session name =>
    obtain rfl : w.setBackend s ((w.backend s).get session name).2 = w' :=
      congrArg Prod.snd (Option.some.inj hperform)
    have hstill : ((w.backend s).note .get session name false).intrude session name =
        (w.backend s).note .get session name false := by
      simp [Backend.intrude, Backend.note, hcalm s]
    refine hapart.fair_of_call (hcalm s) ?_ fun _ _ _ _ => ?_
    all_goals
      dsimp only
      rw [hstill]
    · exact hcalm s
    · rfl
  | set s session name value =>
    obtain rfl : w.setBackend s ((w.backend s).set session name value
        (w.shared.isLocked session)).2 = w' := congrArg Prod.snd (Option.some.inj hperform)
    refine hapart.fair_of_call (hcalm s) (hcalm s) fun hs session' hi name' => ?_
    have hne := hsession session session' (hlocked hs) hi
    simp [hne]
  | remove s session name =>
    obtain rfl : w.setBackend s ((w.backend s).remove session name
        (w.shared.isLocked session)).2 = w' := congrArg Prod.snd (Option.some.inj hperform)
    refine hapart.fair_of_call (hcalm s) (hcalm s) fun hs session' hi name' => ?_
    have hne := hsession session session' (hlocked hs) hi
    simp [hne]
  | invalidate s session =>
    obtain rfl : w.setBackend s ((w.backend s).invalidate session
        (w.shared.isLocked session)).2 = w' := congrArg Prod.snd (Option.some.inj hperform)
    refine hapart.fair_of_call (hcalm s) (hcalm s) fun hs session' hi name' => ?_
    have hne := hsession session session' (hlocked hs) hi
    simp [hne]
  | draw | giveBack | prune =>
    cases hperform
    exact ⟨hapart, fun _ _ => by rw [storage_setLocks], fun _ hs => by rw [backend_setLocks, hs]⟩
  | await t key limit =>
    obtain ⟨l, _, heq⟩ := Option.map_eq_some_iff.mp hperform
    cases heq
    exact ⟨hapart, fun _ _ => by rw [storage_setLocks], fun _ hs => by rw [backend_setLocks, hs]⟩
  | count label =>
    cases hperform
    refine ⟨hapart, fun _ _ => ?_, fun s hs => ?_⟩
    · rw [storage, storage]
      cases v.store <;> rfl
    · cases s <;> exact hs

namespace Company

/-- The others leave the sessions alone that the thread has locked. -/
def fair (v : Venue) : Company where
  leaves has s session := s = v.store ∧ ∃ h, has h ∧ h.table = v.table ∧ h.session = session
  mono hhas h := ⟨h.1, h.2.imp fun _ hx => ⟨hhas _ hx.1, hx.2⟩⟩
  calm := True
  calm_of_leaves _ := trivial

theorem bounds_fair {v : Venue} {i : ThreadId} {others : World → World → Prop}
    (hothers : ∀ w w', others w w' → w.Fair v i w') : (fair v).Bounds i others := by
  intro g w w' hacted hfits
  have hfair := hothers w w' hacted
  refine ⟨w'.storage, fun s session hleaves => ?_, hfair.toApart.fits hfits fun _ s => hfair.calm s⟩
  obtain ⟨rfl, h, hhas, htable, rfl⟩ := hleaves
  rw [hfits.storage_eq, hfair.storage_eq]
  rw [hfits.depth_eq, List.countP_pos_iff]
  exact ⟨(h, true), hhas, by simp [htable]⟩

end Company

namespace Bench

variable {v : Venue} {i : ThreadId} {others : World → World → Prop} {b b' : Bench} {g g' : Grip}
  {updates : List Update} {key : SessionId × String} {d : DraftId} {stored current : Option Value}

/-! ### The draft of an open section -/

/-- The draft with this number agrees with what is stored. It began with a working value while
something or nothing was stored. -/
structure Tracked (v : Venue) (key : SessionId × String) (d : DraftId)
    (stored current : Option Value) (g : Grip) : Prop where
  contents_eq : ∃ value committed, g.workspace.contents[d]? = some (value, committed) ∧
    (committed = true → (g.storage v.store key.1).value key.2 = value) ∧
    (committed = false → (g.storage v.store key.1).value key.2 = stored ∧ value = current)

namespace Tracked

variable (h : Tracked v key d stored current g)

include h

theorem same (hcontents : g'.workspace.contents[d]? = g.workspace.contents[d]?)
    (hstorage : (g'.storage v.store key.1).value key.2 = (g.storage v.store key.1).value key.2) :
    Tracked v key d stored current g' := by
  obtain ⟨value, committed, hd, hyes, hno⟩ := h.contents_eq
  exact ⟨value, committed, hcontents.trans hd, hstorage ▸ hyes, hstorage ▸ hno⟩

end Tracked

theorem Drafted.key_eq {l : Workspace} (h : Drafted v updates l) {key' : SessionId × String}
    (hkey : l.active.get? key = some d) (hkey' : l.active.get? key' = some d) : key' = key := by
  obtain ⟨u, hu, hopen, rfl, rfl⟩ := (h.active_iff _ _).mp hkey
  obtain ⟨u', hu', hopen', rfl, hdraft⟩ := (h.active_iff _ _).mp hkey'
  simp only [Update.isOpen, Bool.and_eq_true, Bool.not_eq_true'] at hopen hopen'
  rw [h.numbered.eq_of_draft hu' hu hopen'.1 hopen.1 hdraft]

theorem contents_record (l : Workspace) (d' : DraftId) (value : Option Value) (d : DraftId) :
    (l.record d' value).contents[d]? =
      if d' = d then l.contents[d]?.map fun _ => (value, true) else l.contents[d]? := by
  rw [Workspace.contents, Workspace.contents, List.getElem?_map, List.getElem?_map,
    Workspace.record, Workspace.editDraft, List.getElem?_modify]
  cases l.drafts[d]? with
  | none => simp
  | some e => split <;> simp_all

theorem value_put {k : Kind} {a : Attribute k} (ha : v.Offers a) (g : Grip) (r : RequestRef)
    (value : Option Value) (key : SessionId × String) :
    ((g.put a.store r.session ((g.storage a.store r.session).assign a.name value)).storage v.store
      key.1).value key.2 = if (r.session, a.name) = key then value
        else (g.storage v.store key.1).value key.2 := by
  obtain ⟨session, name⟩ := key
  simp only [Grip.put, Grip.see, Storage.put, ha.store_eq, Prod.mk.injEq, true_and]
  by_cases hsession : r.session = session
  · subst hsession
    by_cases hname : a.name = name <;> simp [hname]
  · simp [hsession]

/-- Under the lock of the session an operation on an attribute keeps the draft in step. -/
theorem Tracked.effect {k : Kind} {a : Attribute k} {r : RequestRef} (ha : v.Offers a)
    (heffect : (Company.fair v).Effect a r g g') (hdrafted : Drafted v updates g.workspace)
    (hentry : g.workspace.active.get? key = some d)
    (hhas : ∃ x, g.Has x ∧ x.table = v.table ∧ x.session = key.1)
    (h : Tracked v key d stored current g) : Tracked v key d stored current g' := by
  induction heffect with
  | drift hdrift =>
    refine h.same (by rw [hdrift.workspace_eq]) ?_
    rw [hdrift.near _ _ ⟨rfl, hhas⟩]
  | edit g f => exact h.same rfl rfl
  | write g value hopen =>
    rw [hdrafted.openDraft_eq ha] at hopen
    refine h.same rfl ?_
    rw [value_put ha, if_neg]
    rintro rfl
    rw [hentry] at hopen
    cases hopen
  | commit g d' value f hopen hclosed =>
    rw [hdrafted.openDraft_eq ha] at hopen
    obtain ⟨old, committed, hd, hyes, hno⟩ := h.contents_eq
    have hcontents := contents_record (g.workspace.editRequest r.id f) d'
      (value.map (.of k)) d
    by_cases hsame : d' = d
    · subst hsame
      -- the committed value goes to both places
      have hkey := hdrafted.key_eq hentry hopen
      rw [if_pos rfl] at hcontents
      refine ⟨value.map (.of k), true, hcontents.trans ?_, fun _ => ?_,
        fun hfalse => by cases hfalse⟩
      · change g.workspace.contents[d']?.map _ = _
        rw [hd, Option.map_some]
      · exact (value_put ha g r _ key).trans (if_pos hkey)
    · rw [if_neg hsame] at hcontents
      refine h.same hcontents ((value_put ha g r _ key).trans (if_neg ?_))
      rintro rfl
      rw [hentry, Option.some.injEq] at hopen
      exact hsame hopen.symm
  | trans hfirst _ ih ih' =>
    obtain ⟨houtline, hactive, _⟩ := hfirst.keeps
    have hhas' := hfirst.tickets_eq
    refine ih' (hdrafted.same houtline hactive) (hactive ▸ hentry) ?_ (ih hdrafted hentry hhas h)
    obtain ⟨x, hx, hrest⟩ := hhas
    refine ⟨x, ?_, hrest⟩
    rw [Grip.Has, hhas']
    exact hx

/-! ### An open section, step by step -/

theorem Step.update_eq (hstep : Step v i others b b') {n : Nat} {u : Update}
    (hu : b.updates[n]? = some u) : b'.updates[n]? = some u ∨ b'.updates[n]? = some u.shut := by
  cases hstep with
  | @start b _ _ _ _ _ _ _ _ =>
    left
    rw [List.getElem?_append_left (List.getElem?_eq_some_iff.mp hu).1]
    exact hu
  | @close _ _ _ _ front back _ x _ _ _ _ =>
    have hset : front ++ x.shut :: back = (front ++ x :: back).set front.length x.shut := by simp
    dsimp only at hu ⊢
    rw [hset, List.getElem?_set]
    split
    · rename_i hn
      right
      have hx : (front ++ x :: back)[n]? = some x := by simp [← hn]
      rw [hx, Option.some.injEq] at hu
      rw [if_pos (by rw [hn]; exact (List.getElem?_eq_some_iff.mp hx).1), hu]
    · exact .inl hu
  | _ => exact .inl hu

/-- A step keeps the draft of an open section in step with storage. -/
theorem Tracked.step (hothers : ∀ w w', others w w' → w.Fair v i w') (hstep : Step v i others b b')
    (hfits : g.Fits (.fair v) i b.world) (h : Agrees v b g) {u : Update} (hu : u ∈ b.updates)
    (hopen : u.isOpen = true) (htracked : Tracked v u.key u.handle.draft stored current g) :
    ∃ g', g'.Fits (.fair v) i b'.world ∧ Agrees v b' g' ∧
      Tracked v u.key u.handle.draft stored current g' := by
  obtain ⟨g', hfits', h', hmoves⟩ := hstep.sound (Company.bounds_fair hothers) hfits h
  refine ⟨g', hfits', h', ?_⟩
  have hhas := h.locked.exists_hold hu hopen
  cases hmoves with
  | values ha heffect =>
    exact htracked.effect ha heffect h.drafted
      ((h.drafted.active_iff _ _).mpr ⟨u, hu, hopen, rfl, rfl⟩) hhas
  | still hcontents hnear =>
    obtain ⟨value, committed, hd, _⟩ := htracked.contents_eq
    refine htracked.same ?_ ?_
    · obtain ⟨rest, hrest⟩ := hcontents
      rw [← hrest, List.getElem?_append_left (List.getElem?_eq_some_iff.mp hd).1]
    · rw [hnear _ _ ⟨rfl, hhas⟩]

variable {k : Kind} {a : Attribute k} {r : RequestRef} {s : Section k} {w w₁ : World}
  {l₁ : Workspace}

theorem contents_of_start {C : Company} (hothers : C.Bounds i others) (hfits : g.Fits C i w)
    (hstart : (Section.start a r).Ends i others w g.workspace (.ok s) w₁ l₁)
    (houter : s.isNested = false) :
    s.request = r ∧ s.subject = a ∧ ∃ value, l₁.contents[s.draft]? = some (some value, false) := by
  obtain ⟨g₁, _, rfl, hs⟩ := hstart.sound hothers hfits rfl
    (Q := fun out g₁ => ∀ s, out = .ok s → s.isNested = false → s.request = r ∧ s.subject = a ∧
      ∃ value, g₁.workspace.contents[s.draft]? = some (some value, false))
    (Company.wp_start (fun _ _ s hs hnested => by cases hs; cases hnested)
      (fun _ _ _ _ s hs => by cases hs) fun _ key g₁ g₂ g₃ n d _ _ _ _ _ s hs _ => by
        cases hs
        exact ⟨rfl, rfl, .of k d, by simp [Workspace.contents, Workspace.opened, Grip.work]⟩)
  exact hs s rfl houter

/-- From the opening on, as long as the section is open, its draft is in step with storage. -/
theorem exists_tracked (hothers : ∀ w w', others w w' → w.Fair v i w')
    {n : Nat} {u : Update} (hopen : u.isOpen = true) (hu : b.updates[n]? = some u)
    (hfits : g.Fits (.fair v) i b.world) (h : Agrees v b g)
    (htracked : Tracked v u.key u.handle.draft stored current g)
    (hreach : Relation.ReflTransGen (Step v i others) b b') :
    ∃ g', g'.Fits (.fair v) i b'.world ∧ Agrees v b' g' ∧
      (b'.updates[n]? = some u.shut ∨
        b'.updates[n]? = some u ∧ Tracked v u.key u.handle.draft stored current g') := by
  induction hreach with
  | refl => exact ⟨g, hfits, h, .inr ⟨hu, htracked⟩⟩
  | tail _ hstep ih =>
    obtain ⟨g₁, hfits₁, h₁, hshut | ⟨hu₁, htracked₁⟩⟩ := ih
    · obtain ⟨g₂, hfits₂, h₂, _⟩ := hstep.sound (Company.bounds_fair hothers) hfits₁ h₁
      have hlater : _ = some u.shut ∨ _ = some u.shut := hstep.update_eq hshut
      exact ⟨g₂, hfits₂, h₂, .inl (or_self_iff.mp hlater)⟩
    · obtain ⟨g₂, hfits₂, h₂, htracked₂⟩ :=
        htracked₁.step hothers hstep hfits₁ h₁ (List.mem_of_getElem? hu₁) hopen
      rcases hstep.update_eq hu₁ with hlater | hlater
      · exact ⟨g₂, hfits₂, h₂, .inr ⟨hlater, htracked₂⟩⟩
      · exact ⟨g₂, hfits₂, h₂, .inl hlater⟩

/-! ### Writes in an open section -/

/-- A value, or its absence, is in storage, in the cache of a request and in a draft, and the
request has the attribute marked as changed. -/
structure Landed (a : Attribute k) (r : RequestRef) (d : DraftId) (value : Option Value)
    (w : World) (l : Workspace) : Prop where
  stored_eq : (w.storage a.store r.session).value a.name = value
  cached_eq : (l.request r.id).get? a.name = value
  changed : (l.request r.id).isChanged a.name = true
  current_eq : (l.draft d).current = value
  committed : (l.draft d).committed = true

theorem request_wrote {l : Workspace} (hr : r.id < l.requests.length) (name : String)
    (value : Option Value) : ((l.wrote r name .all value).request r.id).get? name = value ∧
      ((l.wrote r name .all value).request r.id).isChanged name = true := by
  have hkeep : (l.keep r name value).requests.length = l.requests.length := by
    cases value <;> simp [Workspace.keep]
  have hwrote : (l.wrote r name .all value).request r.id =
      ((l.keep r name value).request r.id).markChanged name := by
    rw [Workspace.wrote, if_pos (show Scope.all.request = true from rfl),
      Workspace.request_editRequest (by rw [hkeep]; exact hr)]
  rw [hwrote, Request.get?_markChanged, Request.isChanged_markChanged]
  refine ⟨?_, by simp⟩
  cases value <;> simp [Workspace.keep, Workspace.request_editRequest hr]

/-- A commit under the session's lock reaches all places, or changes nothing. -/
theorem Agrees.commit_lands (hothers : ∀ w w', others w w' → w.Fair v i w')
    (hfits : g.Fits (.fair v) i w) (hhas : ∃ x, g.Has x ∧ x.table = v.table ∧ x.session = r.session)
    (ha : v.Offers a) (hr : r.id < g.workspace.requests.length) {e : Draft}
    (hd : g.workspace.drafts[d]? = some e) {value : Option k.Data} {out : Except Failure Unit}
    (hends : (a.commit r d value).Ends i others w g.workspace out w₁ l₁) :
    (out = .ok () ∧ Landed a r d (value.map (.of k)) w₁ l₁) ∨
      ∃ f, out = .error f ∧ l₁ = g.workspace ∧
        w₁.storage a.store r.session = w.storage a.store r.session := by
  have hstorage : ∀ g₁, (Company.fair v).Drift g g₁ →
      g₁.storage a.store r.session = w.storage a.store r.session := by
    intro g₁ h₁
    rw [h₁.near _ _ ⟨ha.store_eq, hhas⟩, hfits.storage_eq]
  obtain ⟨g₁, hfits₁, rfl, hout⟩ := hends.sound (Company.bounds_fair hothers) hfits rfl
    (Q := fun out g₁ => (out = .ok () ∧ (g₁.storage a.store r.session).value a.name =
        value.map (.of k) ∧ g₁.workspace =
          (g.workspace.wrote r a.name .all (value.map (.of k))).record d (value.map (.of k))) ∨
      ∃ f, out = .error f ∧ g₁.workspace = g.workspace ∧
        g₁.storage a.store r.session = w.storage a.store r.session)
    (Company.wp_commit (fun _ => .inr ⟨_, rfl, rfl, hstorage g (.refl _ g)⟩)
      (fun _ _ g₁ h₁ => .inr ⟨_, rfl, h₁.workspace_eq, hstorage g₁ h₁⟩)
      fun _ g₁ h₁ => .inl ⟨rfl, by simp [Grip.work, Grip.put, Grip.see], rfl⟩)
  rw [hfits₁.storage_eq] at hout
  refine hout.imp_left ?_
  rintro ⟨hok, hstored, hl⟩
  obtain ⟨hcached, hchanged⟩ := request_wrote hr a.name (value.map (Value.of k))
  have hwrote : (g.workspace.wrote r a.name .all (value.map (.of k))).drafts[d]? = some e := by
    obtain ⟨f, hf⟩ := g.workspace.exists_wrote r a.name .all (value.map (.of k))
    rw [hf]
    exact hd
  have hrecord : ((g.workspace.wrote r a.name .all (value.map (.of k))).record d
      (value.map (.of k))).draft d =
        { e with current := value.map (.of k), committed := true } :=
    Workspace.draft_eq (Workspace.getElem?_editDraft hwrote _)
  rw [hl]
  exact ⟨hok, hstored, hcached, hchanged, by rw [hrecord], by rw [hrecord]⟩

/-- The value of a section's attribute that is stored in a world. -/
def storedFor (v : Venue) (s : Section k) (w : World) : Option Value :=
  (w.storage v.store s.request.session).value s.subject.name

/-- A section agrees with storage in a state of its thread. It was opened in another world and left
the thread with another workspace then. -/
structure InStep (v : Venue) (i : ThreadId) (others : World → World → Prop) (s : Section k)
    (w₁ : World) (l₁ : Workspace) (b : Bench) : Prop where
  stored_eq : (b.workspace.draft s.draft).committed = true →
    storedFor v s b.world = (b.workspace.draft s.draft).current
  unchanged : (b.workspace.draft s.draft).committed = false →
    storedFor v s b.world = storedFor v s w₁ ∧
      (b.workspace.draft s.draft).current = (l₁.draft s.draft).current
  committed_of_none : (b.workspace.draft s.draft).current = none →
    (b.workspace.draft s.draft).committed = true
  /-- A session write, for any request of the session, is a commit. -/
  write_iff : ∀ {a : Attribute k} {r : RequestRef} {value : Option k.Data} {scope : Scope}
    {out : Except Failure Unit} {w' : World} {l' : Workspace}, v.Offers a →
    a.name = s.subject.name → r.session = s.request.session → scope.session = true →
    ((a.write r value scope).Ends i others b.world b.workspace out w' l' ↔
      (a.commit r s.draft value).Ends i others b.world b.workspace out w' l')
  /-- A commit reaches all places or none. -/
  commit_eq : ∀ {a : Attribute k} {r : RequestRef} {value : Option k.Data}
    {out : Except Failure Unit} {w' : World} {l' : Workspace}, v.Offers a →
    a.name = s.subject.name → r.session = s.request.session →
    r.id < b.workspace.requests.length →
    (a.commit r s.draft value).Ends i others b.world b.workspace out w' l' →
    (out = .ok () ∧ Landed a r s.draft (value.map (.of k)) w' l') ∨
      ∃ f, out = .error f ∧ l' = b.workspace ∧ storedFor v s w' = storedFor v s b.world
  /-- A session write of a value is a commit through the section, or through one that joined it. -/
  set_iff : ∀ {u : Section k} {closed : Bool} {value : k.Data} {scope : Scope}
    {out : Except Failure k.Data} {w' : World} {l' : Workspace},
    (⟨k, u, closed⟩ : Update) ∈ b.updates → u.draft = s.draft → scope.session = true →
    ((u.commit value).Ends i others b.world b.workspace out w' l' ↔
      ∃ out₀ : Except Failure Unit, (u.subject.write u.request (some value) scope).Ends i others
        b.world b.workspace out₀ w' l' ∧ out = out₀.map fun _ => value)
  commit_lands : ∀ {u : Section k} {closed : Bool} {value : k.Data} {out : Except Failure k.Data}
    {w' : World} {l' : Workspace}, (⟨k, u, closed⟩ : Update) ∈ b.updates → u.draft = s.draft →
    u.request.id < b.workspace.requests.length →
    (u.commit value).Ends i others b.world b.workspace out w' l' →
    (out = .ok value ∧ Landed u.subject u.request s.draft (some (.of k value)) w' l') ∨
      ∃ f, out = .error f ∧ l' = b.workspace ∧ storedFor v s w' = storedFor v s b.world

theorem draft_of_contents {l : Workspace} {d : DraftId} {value : Option Value} {committed : Bool}
    (h : l.contents[d]? = some (value, committed)) :
    ∃ e, l.drafts[d]? = some e ∧ (l.draft d).current = value ∧
      (l.draft d).committed = committed := by
  rw [Workspace.contents, List.getElem?_map, Option.map_eq_some_iff] at h
  obtain ⟨e, he, heq⟩ := h
  rw [Workspace.draft_eq he]
  exact ⟨e, he, Prod.mk.inj heq⟩

/-- A write in the session goes to the draft that is open under the attribute's name. -/
theorem ends_write_iff {l l' : Workspace} {value : Option k.Data} {scope : Scope}
    {out : Except Failure Unit} {w' : World}
    (hentry : l.openDraft? k r.session a.name = some d) (hscope : scope.session = true) :
    (a.write r value scope).Ends i others w l out w' l' ↔
      (a.commit r d value).Ends i others w l out w' l' := by
  have hfound : l.perform (.openDraft k r.session a.name) = (some d, l) := by
    rw [Workspace.perform, hentry]
  rw [Attribute.write, if_pos hscope]
  refine Routine.ends_own_iff.trans ?_
  rw [hfound]
  rfl

/-- A commit through a section is one to its draft. -/
theorem ends_section_commit_iff {l l' : Workspace} {value : k.Data} {out : Except Failure k.Data}
    {w' : World} : (s.commit value).Ends i others w l out w' l' ↔
      ∃ out₀, (s.subject.commit s.request s.draft (some value)).Ends i others w l out₀ w' l' ∧
        out = out₀.map fun _ => value :=
  Routine.ends_map_iff

/-- The handles of one draft are for the same attribute and session. -/
theorem Drafted.key_eq_of_draft {l : Workspace} {u o : Update} (h : Drafted v updates l)
    (hu : u ∈ updates) (ho : o ∈ updates) (hnested : o.handle.isNested = false)
    (hdraft : u.handle.draft = o.handle.draft) : u.key = o.key := by
  obtain ⟨x, hx, hxnested, hkey, hxdraft⟩ := h.joined u hu
  rw [← hkey, h.numbered.eq_of_draft hx ho hxnested hnested (hxdraft.trans hdraft)]

section OpenHandle

variable (h : Agrees v b g) (hmem : (⟨k, s, false⟩ : Update) ∈ b.updates)
  (hopen : (⟨k, s, false⟩ : Update).isOpen = true)

include h hmem hopen

theorem Agrees.write_iff (ha : v.Offers a) (hname : a.name = s.subject.name)
    (hsession : r.session = s.request.session) {value : Option k.Data} {scope : Scope}
    (hscope : scope.session = true) {out : Except Failure Unit} {w' : World} {l' : Workspace} :
    (a.write r value scope).Ends i others b.world b.workspace out w' l' ↔
      (a.commit r s.draft value).Ends i others b.world b.workspace out w' l' := by
  refine ends_write_iff ?_ hscope
  rw [← h.workspace_eq, h.drafted.openDraft_eq ha, hname, hsession]
  exact (h.drafted.active_iff _ _).mpr ⟨_, hmem, hopen, rfl, rfl⟩

theorem Agrees.commit_eq (hothers : ∀ w w', others w w' → w.Fair v i w')
    (hfits : g.Fits (.fair v) i b.world) (ha : v.Offers a)
    (hsession : r.session = s.request.session) (hr : r.id < b.workspace.requests.length) {e : Draft}
    (he : b.workspace.drafts[s.draft]? = some e) {value : Option k.Data}
    {out : Except Failure Unit} {w' : World} {l' : Workspace}
    (hends : (a.commit r s.draft value).Ends i others b.world b.workspace out w' l') :
    (out = .ok () ∧ Landed a r s.draft (value.map (.of k)) w' l') ∨
      ∃ f, out = .error f ∧ l' = b.workspace ∧ storedFor v s w' = storedFor v s b.world := by
  rw [← h.workspace_eq] at hr he hends ⊢
  have hhas := h.locked.exists_hold hmem hopen
  refine (Agrees.commit_lands hothers hfits (hsession ▸ hhas) ha hr he hends).imp id ?_
  rintro ⟨f, hf, hl, hsame⟩
  refine ⟨f, hf, hl, ?_⟩
  rw [ha.store_eq, hsession] at hsame
  rw [storedFor, hsame, storedFor]

/-- The handles of the section's draft are for its attribute and session. -/
theorem Agrees.handle_eq {u : Section k} {closed : Bool}
    (hu : (⟨k, u, closed⟩ : Update) ∈ b.updates) (hdraft : u.draft = s.draft) :
    v.Offers u.subject ∧ u.subject.name = s.subject.name ∧
      u.request.session = s.request.session := by
  have hkey := h.drafted.key_eq_of_draft hu hmem (Update.isOpen_iff.mp hopen).1 hdraft
  exact ⟨h.drafted.offers _ hu, congrArg Prod.snd hkey, congrArg Prod.fst hkey⟩

end OpenHandle

/-- The section of an open handle agrees with storage if its draft is in step. -/
theorem Tracked.inStep (hothers : ∀ w w', others w w' → w.Fair v i w') {s : Section k}
    {value : Value} (hfits : g.Fits (.fair v) i b.world) (h : Agrees v b g)
    (hmem : (⟨k, s, false⟩ : Update) ∈ b.updates)
    (hopen : (⟨k, s, false⟩ : Update).isOpen = true)
    (hbegan : (l₁.draft s.draft).current = some value)
    (htracked : Tracked v (s.request.session, s.subject.name) s.draft (storedFor v s w₁)
      (some value) g) : InStep v i others s w₁ l₁ b := by
  obtain ⟨found, committed, hcontents, hyes, hno⟩ := htracked.contents_eq
  rw [h.workspace_eq] at hcontents
  rw [hfits.storage_eq] at hyes hno
  obtain ⟨e, he, hcurrent, hcommitted⟩ := draft_of_contents hcontents
  constructor
  case stored_eq =>
    intro hc
    rw [hcurrent]
    exact hyes (hcommitted.symm.trans hc)
  case unchanged =>
    intro hc
    obtain ⟨hsame, hcur⟩ := hno (hcommitted.symm.trans hc)
    exact ⟨hsame, by rw [hcurrent, hbegan, hcur]⟩
  case committed_of_none =>
    intro hc
    rw [hcommitted]
    cases committed with
    | true => rfl
    | false =>
      rw [← hcurrent, hc] at hno
      cases (hno rfl).2
  case write_iff =>
    intro a' r' value' scope out w' l' ha' hname hsession hscope
    exact h.write_iff hmem hopen ha' hname hsession hscope
  case commit_eq =>
    intro a' r' value' out w' l' ha' _ hsession hr
    exact h.commit_eq hmem hopen hothers hfits ha' hsession hr he
  case set_iff =>
    intro u closed value' scope out w' l' hu hdraft hscope
    obtain ⟨hoffers, hname, hsession⟩ := h.handle_eq hmem hopen hu hdraft
    rw [ends_section_commit_iff, hdraft]
    exact exists_congr fun _ =>
      and_congr_left fun _ => (h.write_iff hmem hopen hoffers hname hsession hscope).symm
  case commit_lands =>
    intro u closed value' out w' l' hu hdraft hr hends
    obtain ⟨hoffers, -, hsession⟩ := h.handle_eq hmem hopen hu hdraft
    rw [ends_section_commit_iff, hdraft] at hends
    obtain ⟨out₀, hends, rfl⟩ := hends
    rcases h.commit_eq hmem hopen hothers hfits hoffers hsession hr he hends with
      ⟨rfl, hlanded⟩ | ⟨f, rfl, hkept⟩
    · exact .inl ⟨rfl, hlanded⟩
    · exact .inr ⟨f, rfl, hkept⟩

/-- **The working value tracks the store.** A thread works among others that write a session only
while they hold its lock. As long as an outermost section of it is open, storage has the section's
working value if one was committed; otherwise both are as they were when the section was opened,
and there is a working value. A session write goes the way of a commit then, through this section or
one that joined it, and reaches storage, the request's cache and change flag and the working value,
or nothing. -/
theorem working_value_tracks_store (hothers : ∀ w w', others w w' → w.Fair v i w')
    (hsound : ∀ t, (w.locks t).Sound) (hcalm : ∀ s, (w.backend s).intrusion = none)
    (hnone : ∀ t, ∀ k ∈ (w.locks t).tickets, k.thread ≠ i)
    (hreach : Relation.ReflTransGen (Step v i others) (idle w) b) (ha : v.Offers a)
    (hstart : (Section.start a r).Ends i others b.world b.workspace (.ok s) w₁ l₁)
    (houter : s.isNested = false) (hlater : Relation.ReflTransGen (Step v i others)
      ⟨w₁, l₁, b.updates ++ [⟨k, s, false⟩], b.syncs⟩ b')
    (hopen : b'.updates[b.updates.length]? = some ⟨k, s, false⟩) :
    InStep v i others s w₁ l₁ b' := by
  have hbounds := Company.bounds_fair hothers
  let u : Update := ⟨k, s, false⟩
  have huopen : u.isOpen = true := by simp [u, Update.isOpen, houter]
  obtain ⟨g, hfits, h⟩ := exists_agrees hbounds hreach
    (Grip.fits_of hsound (fun _ => hcalm) {}) (agrees_idle hnone)
  obtain ⟨g₁, hfits₁, h₁, _⟩ := (Step.start ha hstart).sound hbounds hfits h
  obtain ⟨rfl, rfl, value, hvalue⟩ :=
    contents_of_start hbounds hfits (h.workspace_eq ▸ hstart) houter
  obtain ⟨_, _, hcurrent₁, _⟩ := draft_of_contents hvalue
  -- the opening itself
  have htracked₁ : Tracked v u.key s.draft (storedFor v s w₁) (some value) g₁ := by
    refine ⟨some value, false, ?_, fun hfalse => absurd hfalse (by decide), fun _ => ?_⟩
    · rw [h₁.workspace_eq]
      exact hvalue
    · rw [hfits₁.storage_eq]
      exact ⟨rfl, rfl⟩
  have hu₁ : (b.updates ++ opened (.ok s))[b.updates.length]? = some u := by simp [opened, u]
  obtain ⟨g₂, hfits₂, h₂, hend⟩ := exists_tracked hothers huopen hu₁ hfits₁ h₁ htracked₁ hlater
  obtain ⟨hu₂, htracked₂⟩ : b'.updates[b.updates.length]? = some u ∧
      Tracked v u.key s.draft (storedFor v s w₁) (some value) g₂ := by
    refine hend.resolve_left fun hshut => ?_
    rw [hopen, Option.some.injEq] at hshut
    exact absurd (congrArg Update.closed hshut) Bool.false_ne_true
  exact htracked₂.inStep hothers hfits₂ h₂ (List.mem_of_getElem? hu₂) huopen hcurrent₁

/-- A section is opened for one request, and another request of the session removes the value and
stores one. In between another thread stores a value in a session that it has locked. -/
theorem tracks_through_other_request : ∃ (s : Section .json) (w₁ : World) (l₁ : Workspace)
    (b : Bench),
    (Section.start Race.counter ⟨0, Race.arena⟩).Ends 0 (World.Fair counters 0) Race.dawn
      { requests := [.new Race.arena, .new Race.arena] } (.ok s) w₁ l₁ ∧
    Relation.ReflTransGen (Step counters 0 (World.Fair counters 0))
      ⟨w₁, l₁, [⟨.json, s, false⟩], []⟩ b ∧
    InStep counters 0 (World.Fair counters 0) s w₁ l₁ b ∧
    storedFor counters s w₁ = none ∧ storedFor counters s b.world = some (.json (.int 5)) ∧
    (b.workspace.draft s.draft).current = some (.json (.int 5)) ∧
    (b.world.storage .main ⟨"T"⟩).value "n" = some (.json (.int 9)) := by
  have hruns : ∃ s w₁ l₁ key w₂ w₃ w₄ w₅ l₂ w₆ l₃,
      (Section.start Race.counter ⟨0, Race.arena⟩).run true 0 Race.dawn
        { requests := [.new Race.arena, .new Race.arena] } = .finished (.ok s) w₁ l₁ ∧
      w₁.perform 1 (.draw .shared ⟨"T"⟩) = some (key, w₂) ∧
      w₂.perform 1 (.await .shared key none) = some (true, w₃) ∧
      w₃.perform 1 (.set .main ⟨"T"⟩ "n" (.json (.int 9))) = some (.ok (), w₄) ∧
      (Race.counter.remove ⟨1, Race.arena⟩ .all).run true 0 w₄ l₁ = .finished (.ok ()) w₅ l₂ ∧
      (Race.counter.write ⟨1, Race.arena⟩ (some (.int 5)) .sessionOnly).run true 0 w₅ l₂ =
        .finished (.ok ()) w₆ l₃ ∧
      (∀ s, (w₁.backend s).intrusion = none) ∧
      (∀ k ∈ (w₂.locks .shared).tickets, k.id = key → k.thread ≠ 0) ∧
      (w₃.locks .shared).depth 1 ⟨"T"⟩ = 1 ∧ s.isNested = false ∧
      storedFor counters s w₁ = none ∧ storedFor counters s w₆ = some (.json (.int 5)) ∧
      (l₃.draft s.draft).current = some (.json (.int 5)) ∧
      (w₆.storage .main ⟨"T"⟩).value "n" = some (.json (.int 9)) :=
    ⟨_, _, _, _, _, _, _, _, _, _, _, rfl, rfl, rfl, rfl, rfl, rfl, fun s => by cases s <;> rfl,
      by decide, rfl, rfl, rfl, rfl, rfl, rfl⟩
  obtain ⟨s, w₁, l₁, key, w₂, w₃, w₄, w₅, l₂, w₆, l₃, hstart, hdraw, hawait, hset, hremove, hwrite,
    hcalm, hspares, hlocked, houter, hbefore, hafter, hcurrent, hstored⟩ := hruns
  have hstill : ∀ w, World.Fair counters 0 w w := .refl counters 0
  have hstart := Routine.ends_of_run hstill hstart
  -- the other thread acts under the lock of its own session
  have hsound := hstart.sound_locks (fun _ _ h => h.toApart) (World.sound_new _)
  have hdrawn : w₁.Fair counters 0 w₂ :=
    World.fair_of_perform hdraw Nat.one_ne_zero (hsound _) hcalm trivial trivial
  have hsound := fun t => hdrawn.sound t (hsound t)
  have hcalm := fun s => hdrawn.calm s (hcalm s)
  have hgot : w₂.Fair counters 0 w₃ :=
    World.fair_of_perform hawait Nat.one_ne_zero (hsound _) hcalm hspares trivial
  have hset : w₃.Fair counters 0 w₄ :=
    World.fair_of_perform hset Nat.one_ne_zero (hgot.sound _ (hsound _))
      (fun s => hgot.calm s (hcalm s)) trivial fun _ => Nat.lt_of_lt_of_eq Nat.one_pos hlocked.symm
  let b₁ : Bench := ⟨w₁, l₁, [⟨.json, s, false⟩], []⟩
  have hremoved := @Step.write counters 0 (World.Fair counters 0) { b₁ with world := w₄ }
    _ _ _ _ _ _ w₅ l₂ offers_counter (Routine.ends_of_run hstill hremove)
  have hwritten := @Step.write counters 0 (World.Fair counters 0)
    ⟨w₅, l₂, [⟨.json, s, false⟩], []⟩ _ _ _ _ _ _ w₆ l₃ offers_counter
    (Routine.ends_of_run hstill hwrite)
  have hlater := (((Relation.ReflTransGen.single (@Step.others counters 0 (World.Fair counters 0)
    b₁ w₂ hdrawn)).tail (.others hgot)).tail (.others hset)).tail hremoved |>.tail hwritten
  have hreach := (Relation.ReflTransGen.single (@Step.accept counters 0 (World.Fair counters 0)
    (idle Race.dawn) (.new Race.arena))).tail (.accept _ (.new Race.arena))
  refine ⟨s, w₁, l₁, _, hstart, hlater, ?_, hbefore, hafter, hcurrent, hstored⟩
  exact working_value_tracks_store (fun _ _ h => h) (World.sound_new _) (World.calm_new _)
    (World.thread_ne_new _ _) hreach offers_counter hstart houter hlater rfl

end Bench

end SessionCart
