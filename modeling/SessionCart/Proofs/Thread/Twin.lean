import SessionCart.Proofs.Thread.Alike
import SessionCart.Proofs.Thread.Company

/-!
# One session in two runs

Two states in which a session has the same part stay so while its own routines run on both, alike
but for their numbers, and while the routines of other sessions run on one of them.
-/

namespace SessionCart

/-! ### Stored values -/

/-- The shelf of a session in one store was replaced, and nothing else happened that a session or a
thread can see. -/
structure World.Shelved (w : World) (s : StoreName) (session : SessionId) (shelf : Shelf)
    (w' : World) : Prop where
  storage_eq : w'.storage = w.storage.put s session shelf
  calm : ∀ s, (w'.backend s).Calm
  locks_eq : ∀ t, w'.locks t = w.locks t

section Stored

variable {w : World} {s : StoreName} {session : SessionId}

theorem World.shelved_setBackend (hw : ∀ s, (w.backend s).Calm) {b : Backend} {shelf : Shelf}
    (hb : b.Calm) (hstore : ∀ session' name, b.store.get? session' name =
      if session = session' then shelf.value name
      else (w.backend s).store.get? session' name) :
    w.Shelved s session shelf (w.setBackend s b) where
  storage_eq := w.storage_setBackend s b session shelf hstore
  calm s' := by
    rw [backend_setBackend_eq]
    split
    · exact hb
    · exact hw s'
  locks_eq t := w.locks_setBackend s b t

/-- What an action on the stored values of a session answers and leaves depends on the session's
shelf alone. -/
theorem Action.Plain.exists_perform {whose : RequestId → Option SessionId} {a : World.Action}
    (ha : Action.Plain whose session (.world a)) : ∃ (s : StoreName) (f : Shelf → a.Reply × Shelf),
      ∀ (i : ThreadId) (w : World), (∀ s, (w.backend s).Calm) →
        ∃ w', w.perform i a = some ((f (w.storage s session)).1, w') ∧
          w.Shelved s session (f (w.storage s session)).2 w' := by
  cases a with
  | get s _ name =>
    cases ha
    refine ⟨s, fun shelf => (.ok (shelf.value name), shelf), fun i w hw => ?_⟩
    rw [World.perform, (hw s).get_eq]
    refine ⟨_, rfl, World.shelved_setBackend hw ((hw s).note ..) fun session' name' => ?_⟩
    by_cases hsession : session = session' <;> simp [World.storage, hsession]
  | set s _ name value =>
    cases ha
    refine ⟨s, fun shelf => (.ok (), shelf.set name value), fun i w hw => ?_⟩
    rw [World.perform, Backend.set, (hw s).perform_eq]
    refine ⟨_, rfl, World.shelved_setBackend hw (((hw s).note ..).withStore _)
      fun session' name' => ?_⟩
    by_cases hsession : session = session' <;> simp [World.storage, hsession]
  | remove s _ name =>
    cases ha
    refine ⟨s, fun shelf => (.ok (shelf.value name), shelf.remove name), fun i w hw => ?_⟩
    rw [World.perform, Backend.remove, (hw s).perform_eq]
    refine ⟨_, rfl, World.shelved_setBackend hw (((hw s).note ..).withStore _)
      fun session' name' => ?_⟩
    by_cases hsession : session = session' <;> simp [World.storage, hsession]
  | invalidate s _ =>
    cases ha
    refine ⟨s, fun shelf => (.ok (), .empty), fun i w hw => ?_⟩
    rw [World.perform, Backend.invalidate, (hw s).perform_eq]
    refine ⟨_, rfl, World.shelved_setBackend hw (((hw s).note ..).withStore _)
      fun session' name' => ?_⟩
    by_cases hsession : session = session' <;> simp [Shelf.empty, hsession]
  | _ => cases ha

end Stored

/-! ### The shared world -/

/-- A session has the same part in both worlds, its tickets in the bond `ρ`. The tickets `σ` of
other sessions in the first one are apart from these. -/
structure World.Tied (session : SessionId) (ρ σ : TableName → TicketId → TicketId → Prop)
    (w w' : World) : Prop where
  storage_eq : ∀ s, w.storage s session = w'.storage s session
  calm : ∀ s, (w.backend s).Calm
  calm' : ∀ s, (w'.backend s).Calm
  locks : ∀ t, LockTable.Twins session (ρ t) (w.locks t) (w'.locks t)
  unpaired : ∀ t, Unpaired (σ t) (ρ t) (w.locks t).nextTicket

namespace World.Tied

variable {session : SessionId} {ρ σ : TableName → TicketId → TicketId → Prop} {w w' u u' : World}
  (h : World.Tied session ρ σ w w') {i : ThreadId}

include h

theorem congr (hbackend : ∀ s, u.backend s = w.backend s)
    (hbackend' : ∀ s, u'.backend s = w'.backend s)
    (hlocks : ∀ t, u.locks t = w.locks t) (hlocks' : ∀ t, u'.locks t = w'.locks t) :
    World.Tied session ρ σ u u' where
  storage_eq s := by
    rw [storage, storage, hbackend, hbackend']
    exact h.storage_eq s
  calm s := hbackend s ▸ h.calm s
  calm' s := hbackend' s ▸ h.calm' s
  locks t := by
    rw [hlocks, hlocks']
    exact h.locks t
  unpaired t := by
    rw [hlocks]
    exact h.unpaired t

theorem shelved {s : StoreName} {shelf : Shelf} (hu : w.Shelved s session shelf u)
    (hu' : w'.Shelved s session shelf u') : World.Tied session ρ σ u u' where
  storage_eq s' := by
    rw [hu.storage_eq, hu'.storage_eq, Storage.put, Storage.put, h.storage_eq]
  calm := hu.calm
  calm' := hu'.calm
  locks t := by
    rw [hu.locks_eq, hu'.locks_eq]
    exact h.locks t
  unpaired t := by
    rw [hu.locks_eq]
    exact h.unpaired t

theorem shelved_left {s : StoreName} {other : SessionId} (hother : other ≠ session) {shelf : Shelf}
    (hu : w.Shelved s other shelf u) : World.Tied session ρ σ u w' where
  storage_eq s' := by
    rw [hu.storage_eq, Storage.put, if_neg fun hs => hother hs.2, h.storage_eq]
  calm := hu.calm
  calm' := h.calm'
  locks t := by
    rw [hu.locks_eq]
    exact h.locks t
  unpaired t := by
    rw [hu.locks_eq]
    exact h.unpaired t

/-- The session's own values are the same in both, so the same is answered and left. -/
theorem plain {whose : RequestId → Option SessionId} {a : World.Action}
    (ha : Action.Plain whose session (.world a)) (i : ThreadId) : ∃ reply u u',
      w.perform i a = some (reply, u) ∧ w'.perform i a = some (reply, u') ∧
      World.Tied session ρ σ u u' := by
  obtain ⟨s, f, hperform⟩ := ha.exists_perform
  obtain ⟨u, hu, hshelved⟩ := hperform i w h.calm
  obtain ⟨u', hu', hshelved'⟩ := hperform i w' h.calm'
  rw [← h.storage_eq s] at hu' hshelved'
  exact ⟨_, u, u', hu, hu', h.shelved hshelved hshelved'⟩

theorem plain_left {whose : RequestId → Option SessionId} {other : SessionId}
    (hother : other ≠ session) {a : World.Action} (ha : Action.Plain whose other (.world a))
    (i : ThreadId) : ∃ reply u, w.perform i a = some (reply, u) ∧ World.Tied session ρ σ u w' := by
  obtain ⟨s, f, hperform⟩ := ha.exists_perform
  obtain ⟨u, hu, hshelved⟩ := hperform i w h.calm
  exact ⟨_, u, hu, h.shelved_left hother hshelved⟩

theorem setLocks (t : TableName) {l l' : LockTable} {ρt σt : TicketId → TicketId → Prop}
    (hl : LockTable.Twins session ρt l l')
    (hunpaired : Unpaired σt ρt l.nextTicket) :
    World.Tied session (Function.update ρ t ρt) (Function.update σ t σt) (w.setLocks t l)
      (w'.setLocks t l') where
  storage_eq s := by
    rw [storage_setLocks, storage_setLocks]
    exact h.storage_eq s
  calm s := by
    rw [backend_setLocks]
    exact h.calm s
  calm' s := by
    rw [backend_setLocks]
    exact h.calm' s
  locks t' := by
    rw [locks_setLocks, locks_setLocks]
    by_cases ht : t = t'
    · subst ht
      simpa using hl
    · rw [if_neg ht, if_neg ht, Function.update_of_ne (Ne.symm ht)]
      exact h.locks t'
  unpaired t' := by
    rw [locks_setLocks]
    by_cases ht : t = t'
    · subst ht
      simpa using hunpaired
    · rw [if_neg ht, Function.update_of_ne (Ne.symm ht), Function.update_of_ne (Ne.symm ht)]
      exact h.unpaired t'

theorem draw (t : TableName) : World.Tied session
    (Function.update ρ t (withPair (ρ t) (w.locks t).nextTicket (w'.locks t).nextTicket)) σ
    (w.setLocks t ((w.locks t).draw i session).2)
    (w'.setLocks t ((w'.locks t).draw i session).2) := by
  have hdraw := h.setLocks t ((h.locks t).draw i) ((h.unpaired t).extend _)
  rwa [Function.update_eq_self] at hdraw

/-- What is done with a single ticket keeps the worlds tied if it keeps the tables twins. -/
theorem keep (t : TableName) {l l' : LockTable} (hl : LockTable.Twins session (ρ t) l l')
    (hnext : l.nextTicket = (w.locks t).nextTicket) :
    World.Tied session ρ σ (w.setLocks t l) (w'.setLocks t l') := by
  have hkeep := h.setLocks t hl (hnext ▸ h.unpaired t)
  rwa [Function.update_eq_self, Function.update_eq_self] at hkeep

theorem keep_left (t : TableName) {l : LockTable}
    (hl : LockTable.Twins session (ρ t) l (w'.locks t))
    (hnext : l.nextTicket = (w.locks t).nextTicket) :
    World.Tied session ρ σ (w.setLocks t l) w' := by
  have hkeep := h.keep t hl hnext
  rwa [setLocks_self] at hkeep

/-- Of paired tickets both get the lock or neither does. -/
theorem await {t : TableName} {k k' : TicketId} (hk : ρ t k k') (limit : Option Duration) :
    (∃ u u', w.perform i (.await t k limit) = some (true, u) ∧
      w'.perform i (.await t k' limit) = some (true, u') ∧ World.Tied session ρ σ u u') ∨
    w.perform i (.await t k limit) = none ∧ w'.perform i (.await t k' limit) = none := by
  have hgrants := (h.locks t).grant hk
  simp only [perform]
  cases hgrant : (w.locks t).grant k with
  | none =>
    rw [hgrant] at hgrants
    rw [eq_none_of_rel_none hgrants]
    exact .inr ⟨rfl, rfl⟩
  | some l =>
    rw [hgrant] at hgrants
    obtain ⟨l', hgrant', hl⟩ := exists_of_rel_some hgrants
    rw [hgrant']
    have hkeeps := LockTable.keeps_grant (h.locks t).sound hgrant
    exact .inl ⟨_, _, rfl, rfl, h.keep t hl hkeeps.nextTicket_eq⟩

theorem giveBack {t : TableName} {k k' : TicketId} (hk : ρ t k k') :
    ((w.locks t).giveBack k).1 = ((w'.locks t).giveBack k').1 ∧
      World.Tied session ρ σ (w.setLocks t ((w.locks t).giveBack k).2)
        (w'.setLocks t ((w'.locks t).giveBack k').2) := by
  obtain ⟨hheld, hl⟩ := (h.locks t).giveBack hk
  exact ⟨hheld, h.keep t hl (LockTable.keeps_giveBack (h.locks t).sound k).nextTicket_eq⟩

theorem await_left {t : TableName} {k e : TicketId} (hk : σ t k e) {limit : Option Duration}
    {got : Bool} (hgot : w.perform i (.await t k limit) = some (got, u)) :
    World.Tied session ρ σ u w' := by
  obtain ⟨l, hgrant, heq⟩ := Option.map_eq_some_iff.mp hgot
  cases heq
  exact h.keep_left t ((h.locks t).grant_left ((h.unpaired t).apart hk) hgrant)
    (LockTable.keeps_grant (h.locks t).sound hgrant).nextTicket_eq

theorem giveBack_left {t : TableName} {k e : TicketId} (hk : σ t k e) :
    World.Tied session ρ σ (w.setLocks t ((w.locks t).giveBack k).2) w' :=
  h.keep_left t ((h.locks t).giveBack_left ((h.unpaired t).apart hk))
    (LockTable.keeps_giveBack (h.locks t).sound k).nextTicket_eq

theorem draw_left {other : SessionId} (hother : other ≠ session) (t : TableName) :
    World.Tied session ρ
      (Function.update σ t (withPair (σ t) (w.locks t).nextTicket (w.locks t).nextTicket))
      (w.setLocks t ((w.locks t).draw i other).2) w' := by
  have hdraw := h.setLocks t ((h.locks t).draw_left hother i)
    ((h.unpaired t).withNext (h.locks t).pairs)
  rwa [Function.update_eq_self, setLocks_self] at hdraw

end World.Tied

/-! ### What a thread has to itself -/

theorem Request.session_remove (q : Request) (name : String) :
    (q.remove name).session = q.session := rfl

theorem Request.session_markChanged (q : Request) (name : String) :
    (q.markChanged name).session = q.session := by
  unfold markChanged
  split <;> rfl

namespace Workspace

variable {l l' : Workspace}

theorem request_editRequest_eq {id : RequestId} (hid : id < l.requests.length)
    (f : Request → Request) (other : RequestId) :
    (l.editRequest id f).request other =
      if id = other then f (l.request other) else l.request other := by
  rw [request, editRequest, List.getElem?_modify]
  split
  · rename_i heq
    subst heq
    simp [request, List.getElem?_eq_getElem hid]
  · simp [request]

theorem draft_editDraft_eq {d : DraftId} (hd : d < l.drafts.length) (f : Draft → Draft)
    (other : DraftId) :
    (l.editDraft d f).draft other = if d = other then f (l.draft other) else l.draft other := by
  rw [draft, editDraft, List.getElem?_modify]
  split
  · rename_i heq
    subst heq
    simp [draft, List.getElem?_eq_getElem hd]
  · simp [draft]

theorem draft_begin {d : DraftId} (hd : d < l.drafts.length) {k : Kind} {session : SessionId}
    {name : String} {value : Value} :
    (l.perform (.begin k session name value)).2.draft d = l.draft d := by
  simp [perform, draft, List.getElem?_append_left hd]

/-- Which request belongs to which session. -/
def Belongs (whose : RequestId → Option SessionId) (l : Workspace) : Prop :=
  ∀ id, (l.requests[id]?).map Request.session = whose id

variable {whose : RequestId → Option SessionId} {session : SessionId} {id : RequestId}

theorem Belongs.lt (h : l.Belongs whose) (hid : whose id = some session) :
    id < l.requests.length := by
  rw [← h id] at hid
  obtain ⟨q, hq, -⟩ := Option.map_eq_some_iff.mp hid
  exact (List.getElem?_eq_some_iff.mp hq).1

theorem Belongs.editRequest (h : l.Belongs whose) (id : RequestId) {f : Request → Request}
    (hf : ∀ q, (f q).session = q.session) : (l.editRequest id f).Belongs whose := by
  intro other
  rw [← h other, Workspace.editRequest, List.getElem?_modify]
  cases l.requests[other]? with
  | none => rfl
  | some q =>
    simp only [Option.map_eq_map, Option.map_some]
    split
    · rw [hf]
    · rfl

/-- A session has the same part of what a thread has to itself, its drafts in the bond `δ`. The
drafts `η` of other sessions in the first state are apart from these. -/
structure Tied (whose : RequestId → Option SessionId) (session : SessionId)
    (δ η : DraftId → DraftId → Prop) (l l' : Workspace) : Prop where
  belongs : l.Belongs whose
  belongs' : l'.Belongs whose
  request_eq : ∀ {id}, whose id = some session → l.request id = l'.request id
  pairs : Pairs δ l.drafts.length l'.drafts.length
  draft_eq : ∀ {d d'}, δ d d' → l.draft d = l'.draft d'
  active : ∀ name, Option.Rel δ (l.active.get? (session, name)) (l'.active.get? (session, name))
  others : ∀ {other name d}, other ≠ session → l.active.get? (other, name) = some d → η d d
  unpaired : Unpaired η δ l.drafts.length

namespace Tied

variable {δ η : DraftId → DraftId → Prop} (h : Tied whose session δ η l l')

include h

theorem editRequest (hid : whose id = some session) {f : Request → Request}
    (hf : ∀ q, (f q).session = q.session) :
    Tied whose session δ η (l.editRequest id f) (l'.editRequest id f) :=
  { h with
    belongs := h.belongs.editRequest id hf
    belongs' := h.belongs'.editRequest id hf
    request_eq := fun hother => by
      rw [request_editRequest_eq (h.belongs.lt hid), request_editRequest_eq (h.belongs'.lt hid),
        h.request_eq hother] }

theorem editRequest_left {other : SessionId} (hother : other ≠ session)
    (hid : whose id = some other) {f : Request → Request} (hf : ∀ q, (f q).session = q.session) :
    Tied whose session δ η (l.editRequest id f) l' :=
  { h with
    belongs := h.belongs.editRequest id hf
    request_eq := fun hown => by
      rw [request_editRequest_eq (h.belongs.lt hid), if_neg, h.request_eq hown]
      rintro rfl
      exact hother (Option.some.inj (hid.symm.trans hown)) }

/-- The session's own requests are the same in both, so the same is answered and left. -/
theorem plain {a : Workspace.Action} (ha : Action.Plain whose session (.own a)) :
    (l.perform a).1 = (l'.perform a).1 ∧
      Tied whose session δ η (l.perform a).2 (l'.perform a).2 := by
  cases a with
  | request id => exact ⟨h.request_eq ha, h⟩
  | cache id name value => exact ⟨rfl, h.editRequest ha fun q => q.session_set name value⟩
  | uncache id name => exact ⟨rfl, h.editRequest ha fun q => q.session_remove name⟩
  | mark id name => exact ⟨rfl, h.editRequest ha fun q => q.session_markChanged name⟩
  | _ => cases ha

theorem plain_left {other : SessionId} (hother : other ≠ session) {a : Workspace.Action}
    (ha : Action.Plain whose other (.own a)) : Tied whose session δ η (l.perform a).2 l' := by
  cases a with
  | request id => exact h
  | cache id name value => exact h.editRequest_left hother ha fun q => q.session_set name value
  | uncache id name => exact h.editRequest_left hother ha fun q => q.session_remove name
  | mark id name => exact h.editRequest_left hother ha fun q => q.session_markChanged name
  | _ => cases ha

theorem editDraft {d d' : DraftId} (hd : δ d d') (f : Draft → Draft) :
    Tied whose session δ η (l.editDraft d f) (l'.editDraft d' f) :=
  { h with
    pairs := by simpa [Workspace.editDraft] using h.pairs
    draft_eq := fun he => by
      rw [draft_editDraft_eq (h.pairs.lt hd).1, draft_editDraft_eq (h.pairs.lt hd).2, h.draft_eq he]
      simp only [h.pairs.unique hd he]
    unpaired := by simpa [Workspace.editDraft] using h.unpaired }

theorem editDraft_left {d e : DraftId} (hd : η d e) (f : Draft → Draft) :
    Tied whose session δ η (l.editDraft d f) l' :=
  { h with
    pairs := by simpa [Workspace.editDraft] using h.pairs
    draft_eq := fun he => by
      rw [draft_editDraft_eq (h.unpaired.lt hd), if_neg, h.draft_eq he]
      rintro rfl
      exact h.unpaired.apart hd _ he
    unpaired := by simpa [Workspace.editDraft] using h.unpaired }

theorem begin (k : Kind) (name : String) (value : Value) :
    Tied whose session (withPair δ l.drafts.length l'.drafts.length) η
      (l.perform (.begin k session name value)).2 (l'.perform (.begin k session name value)).2 where
  belongs := h.belongs
  belongs' := h.belongs'
  request_eq := h.request_eq
  pairs := by simpa [perform] using h.pairs.extend
  draft_eq hd := by
    rcases hd with hd | ⟨rfl, rfl⟩
    · rw [draft_begin (h.pairs.lt hd).1, draft_begin (h.pairs.lt hd).2, h.draft_eq hd]
    · simp [perform, draft]
  active other := by
    simp only [perform, Dict.get?_insert, Prod.mk.injEq, true_and]
    split
    · exact .some (.inr ⟨rfl, rfl⟩)
    · exact rel_mono (h.active other) fun _ _ => .inl
  others hother := by
    simp only [perform, Dict.get?_insert, Prod.mk.injEq, Ne.symm hother, false_and, if_false]
    exact h.others hother
  unpaired := by simpa [perform] using h.unpaired.extend _

theorem begin_left {other : SessionId} (hother : other ≠ session) (k : Kind) (name : String)
    (value : Value) : Tied whose session δ (withPair η l.drafts.length l.drafts.length)
      (l.perform (.begin k other name value)).2 l' where
  belongs := h.belongs
  belongs' := h.belongs'
  request_eq := h.request_eq
  pairs := by simpa [perform] using h.pairs.grow
  draft_eq hd := by rw [draft_begin (h.pairs.lt hd).1, h.draft_eq hd]
  active name' := by
    simp only [perform, Dict.get?_insert, Prod.mk.injEq, hother, false_and, if_false]
    exact h.active name'
  others hother' hactive := by
    simp only [perform, Dict.get?_insert] at hactive
    split at hactive
    · cases hactive
      exact .inr ⟨rfl, rfl⟩
    · exact .inl (h.others hother' hactive)
  unpaired := by simpa [perform] using h.unpaired.withNext h.pairs

theorem erase (name : String) :
    Tied whose session δ η { l with active := l.active.erase (session, name) }
      { l' with active := l'.active.erase (session, name) } :=
  { h with
    active := fun other => by
      simp only [Dict.get?_erase, Prod.mk.injEq, true_and]
      split
      · exact .none
      · exact h.active other
    others := fun hother => by
      simp only [Dict.get?_erase, Prod.mk.injEq, Ne.symm hother, false_and, if_false]
      exact h.others hother }

theorem erase_left {other : SessionId} (hother : other ≠ session) (name : String) :
    Tied whose session δ η { l with active := l.active.erase (other, name) } l' :=
  { h with
    active := fun name' => by
      simp only [Dict.get?_erase, Prod.mk.injEq, hother, false_and, if_false]
      exact h.active name'
    others := fun hother' hactive => by
      simp only [Dict.get?_erase] at hactive
      split at hactive
      · cases hactive
      · exact h.others hother' hactive }

/-- Of the drafts in the table both are of the kind or neither is. -/
theorem openDraft?_cases (k : Kind) (name : String) :
    (∃ d d', δ d d' ∧ l.openDraft? k session name = some d ∧
      l'.openDraft? k session name = some d') ∨
    l.openDraft? k session name = none ∧ l'.openDraft? k session name = none := by
  have hactive := h.active name
  rw [openDraft?, openDraft?]
  generalize l.active.get? (session, name) = found at hactive ⊢
  generalize l'.active.get? (session, name) = found' at hactive ⊢
  cases hactive with
  | none => exact .inr ⟨rfl, rfl⟩
  | @some d d' hd =>
    simp only [Option.filter_some, ← h.draft_eq hd]
    split
    · exact .inl ⟨d, d', hd, rfl, rfl⟩
    · exact .inr ⟨rfl, rfl⟩

theorem active_iff {d d' : DraftId} (hd : δ d d') (name : String) :
    l.active.get? (session, name) = some d ↔ l'.active.get? (session, name) = some d' := by
  have hactive := h.active name
  generalize l.active.get? (session, name) = found at hactive ⊢
  generalize l'.active.get? (session, name) = found' at hactive ⊢
  cases hactive with
  | none => simp
  | some he => simpa using h.pairs.unique he hd

theorem finish {d d' : DraftId} (hd : δ d d') (name : String) :
    Tied whose session δ η (l.perform (.finish session name d)).2
      (l'.perform (.finish session name d')).2 := by
  have hclosed := h.editDraft hd fun s => { s with closed := true }
  simp only [perform, h.active_iff hd name]
  split
  · exact hclosed.erase name
  · exact hclosed

theorem finish_left {other : SessionId} (hother : other ≠ session) {d e : DraftId} (hd : η d e)
    (name : String) : Tied whose session δ η (l.perform (.finish other name d)).2 l' := by
  have hclosed := h.editDraft_left hd fun s => { s with closed := true }
  simp only [perform]
  split
  · exact hclosed.erase_left hother name
  · exact hclosed

end Tied

end Workspace

/-! ### Runs -/

/-- A session has the same part of two states. -/
structure Bond.Ties (whose : RequestId → Option SessionId) (session : SessionId) (γ β : Bond)
    (w : World) (l : Workspace) (w' : World) (l' : Workspace) : Prop where
  world : World.Tied session γ.ticket β.ticket w w'
  workspace : Workspace.Tied whose session γ.draft β.draft l l'

/-- Results that match, or the same failure. -/
inductive SameOutcome {α : Type} (R : α → α → Prop) : Except Failure α → Except Failure α → Prop
  | ok {y y' : α} : R y y' → SameOutcome R (.ok y) (.ok y')
  | error (f : Failure) : SameOutcome R (.error f) (.error f)

theorem Bond.addTicket_le_addTicket {γ δ : Bond} (h : γ ≤ δ) (t : TableName) (k k' : TicketId) :
    γ.addTicket t k k' ≤ δ.addTicket t k k' := by
  refine ⟨h.1, fun t' a a' ha => ?_⟩
  by_cases ht : t' = t
  · subst ht
    simp only [addTicket, Function.update_self] at ha ⊢
    exact ha.imp_left (h.2 _ a a')
  · simp only [addTicket, Function.update_of_ne ht] at ha ⊢
    exact h.2 _ a a' ha

theorem Bond.addDraft_le {γ δ : Bond} (h : γ ≤ δ) {d d' : DraftId} (hd : δ.draft d d') :
    γ.addDraft d d' ≤ δ := by
  refine ⟨fun e e' he => ?_, h.2⟩
  rcases he with he | ⟨rfl, rfl⟩
  · exact h.1 e e' he
  · exact hd

theorem Bond.addDraft_le_addDraft {γ δ : Bond} (h : γ ≤ δ) (d d' : DraftId) :
    γ.addDraft d d' ≤ δ.addDraft d d' :=
  addDraft_le (le_trans h (δ.le_addDraft d d')) (δ.draft_addDraft d d')

/-- Nothing goes by another number. -/
structure Bond.Diagonal (γ : Bond) : Prop where
  draft_eq : ∀ {d d'}, γ.draft d d' → d' = d
  ticket_eq : ∀ {t k k'}, γ.ticket t k k' → k' = k

theorem Bond.Diagonal.addDraft {γ : Bond} (h : γ.Diagonal) (d : DraftId) :
    (γ.addDraft d d).Diagonal := by
  refine ⟨fun hd => ?_, h.ticket_eq⟩
  rcases hd with hd | ⟨rfl, rfl⟩
  · exact h.draft_eq hd
  · rfl

theorem Bond.Diagonal.addTicket {γ : Bond} (h : γ.Diagonal) (t : TableName) (k : TicketId) :
    (γ.addTicket t k k).Diagonal := by
  refine ⟨h.draft_eq, fun {t' a a'} ha => ?_⟩
  by_cases ht : t' = t
  · subst ht
    simp only [Bond.addTicket, Function.update_self] at ha
    rcases ha with ha | ⟨rfl, rfl⟩
    · exact h.ticket_eq ha
    · rfl
  · simp only [Bond.addTicket, Function.update_of_ne ht] at ha
    exact h.ticket_eq ha

namespace Routine

variable {α : Type} {i : ThreadId} {w w₁ : World} {l : Workspace} {a : World.Action}
  {next : a.Reply → Routine α} {reply : a.Reply}

theorem run_own {a : Workspace.Action} {next : a.Reply → Routine α} :
    (act (.own a) next).run false i w l =
      (next (l.perform a).1).run false i w (l.perform a).2 := rfl

theorem run_of_perform (h : w.perform i a = some (reply, w₁)) :
    (act (.world a) next).run false i w l = (next reply).run false i w₁ l := by
  simp [run, h]

theorem run_of_expired (h : w.perform i a = none) (hexpired : a.expired? = some reply) :
    (act (.world a) next).run false i w l = (next reply).run false i w l := by
  simp [run, h, hexpired]

/-- A routine that is finished has not waited without a limit. -/
theorem isSome_limit_of_run {t : TableName} {k : TicketId} {limit : Option Duration}
    {next : Bool → Routine α} {out : Except Failure α} {w' : World} {l' : Workspace}
    (h : w.perform i (.await t k limit) = none)
    (hrun : (act (.world (.await t k limit)) next).run false i w l = .finished out w' l') :
    ∃ d, limit = some d := by
  cases limit with
  | some d => exact ⟨d, rfl⟩
  | none => simp [run, h, World.Action.expired?] at hrun

end Routine

namespace Alike

variable {whose : RequestId → Option SessionId} {session : SessionId} {α : Type}
  {V : Bond → α → α → Prop} {γ δ β : Bond} {x x' : Routine α} {i : ThreadId}
  {w w' w₁ : World} {l l' l₁ : Workspace} {out : Except Failure α}

/-- A session's own routine, run on both states: it comes to the same, and the session has the same
part of both again. -/
theorem run_twin (h : Alike whose session V γ x x')
    (hV : ∀ {γ δ y y'}, γ ≤ δ → V γ y y' → V δ y y') (hγ : γ ≤ δ)
    (hties : Bond.Ties whose session δ β w l w' l')
    (hrun : x.run false i w l = .finished out w₁ l₁) :
    ∃ ε out' w₁' l₁', δ ≤ ε ∧ x'.run false i w' l' = .finished out' w₁' l₁' ∧
      Bond.Ties whose session ε β w₁ l₁ w₁' l₁' ∧ SameOutcome (V ε) out out' := by
  -- The routines know of a part `γ` of the bond `δ`. Both grow by what is drawn or begun.
  induction h generalizing δ w w' l l' with
  | done hy =>
    cases hrun
    exact ⟨δ, _, w', l', δ.le_refl, rfl, hties, .ok (hV hγ hy)⟩
  | fail f =>
    cases hrun
    exact ⟨δ, _, w', l', δ.le_refl, rfl, hties, .error f⟩
  | @plain γ a next next' ha hnext ih =>
    cases a with
    | world a =>
      obtain ⟨reply, u, u', hu, hu', hworld⟩ := hties.world.plain ha i
      rw [Routine.run_of_perform hu] at hrun
      rw [Routine.run_of_perform hu']
      exact ih reply hγ ⟨hworld, hties.workspace⟩ hrun
    | own a =>
      obtain ⟨hreply, hworkspace⟩ := hties.workspace.plain ha
      rw [Routine.run_own] at hrun ⊢
      rw [← hreply]
      exact ih (l.perform a).1 hγ ⟨hties.world, hworkspace⟩ hrun
  | count label hnext ih =>
    refine ih _ _ hγ ⟨hties.world.congr ?_ ?_ ?_ ?_, hties.workspace⟩ hrun
    all_goals intro t; cases t <;> rfl
  | draw t hnext ih =>
    obtain ⟨ε, out', w₁', l₁', hε, hrest⟩ := ih _ _ (Bond.addTicket_le_addTicket hγ t _ _)
      ⟨hties.world.draw t, hties.workspace⟩ hrun
    exact ⟨ε, out', w₁', l₁', Bond.le_trans (δ.le_addTicket t _ _) hε, hrest⟩
  | await limit hk hnext ih =>
    obtain ⟨u, u', hu, hu', hworld⟩ | ⟨hu, hu'⟩ := hties.world.await (i := i) (hγ.2 _ _ _ hk) limit
    · rw [Routine.run_of_perform hu] at hrun
      rw [Routine.run_of_perform hu']
      exact ih true hγ ⟨hworld, hties.workspace⟩ hrun
    · obtain ⟨d, rfl⟩ := Routine.isSome_limit_of_run hu hrun
      rw [Routine.run_of_expired hu rfl] at hrun
      rw [Routine.run_of_expired hu' rfl]
      exact ih false hγ hties hrun
  | @giveBack γ t k k' next next' hk hnext ih =>
    obtain ⟨hheld, hworld⟩ := hties.world.giveBack (hγ.2 _ _ _ hk)
    have hrest := ih ((w.locks t).giveBack k).1 hγ ⟨hworld, hties.workspace⟩ hrun
    rwa [hheld] at hrest
  | @openDraft γ k name next next' hnone hsome ihnone ihsome =>
    rw [Routine.run_own] at hrun ⊢
    obtain ⟨d, d', hd, ho, ho'⟩ | ⟨ho, ho'⟩ := hties.workspace.openDraft?_cases k name
    · rw [Workspace.perform, ho] at hrun
      rw [Workspace.perform, ho']
      exact ihsome d d' (Bond.addDraft_le hγ hd) hties hrun
    · rw [Workspace.perform, ho] at hrun
      rw [Workspace.perform, ho']
      exact ihnone hγ hties hrun
  | begin k name value hnext ih =>
    obtain ⟨ε, out', w₁', l₁', hε, hrest⟩ := ih _ _ (Bond.addDraft_le_addDraft hγ _ _)
      ⟨hties.world, hties.workspace.begin k name value⟩ hrun
    exact ⟨ε, out', w₁', l₁', Bond.le_trans (δ.le_addDraft _ _) hε, hrest⟩
  | @draft γ d d' next next' hd hnext ih =>
    have hrest := ih (l.draft d) hγ hties hrun
    rwa [hties.workspace.draft_eq (hγ.1 _ _ hd)] at hrest
  | handOut hd hnext ih =>
    exact ih hγ ⟨hties.world, hties.workspace.editDraft (hγ.1 _ _ hd) _⟩ hrun
  | record value hd hnext ih =>
    exact ih hγ ⟨hties.world, hties.workspace.editDraft (hγ.1 _ _ hd) _⟩ hrun
  | discard hd hnext ih =>
    exact ih hγ ⟨hties.world, hties.workspace.editDraft (hγ.1 _ _ hd) _⟩ hrun
  | finish name hd hnext ih =>
    exact ih hγ ⟨hties.world, hties.workspace.finish (hγ.1 _ _ hd) name⟩ hrun

/-- Another session's routine, run on the first state alone: the session still has the same part of
both, and what the routine comes by is apart from it. -/
theorem run_apart {other : SessionId} (hother : other ≠ session) (h : Alike whose other V γ x x')
    (hV : ∀ {γ δ y y'}, γ ≤ δ → V γ y y' → V δ y y') (hγ : γ ≤ β) (hβ : β.Diagonal)
    (hties : Bond.Ties whose session δ β w l w' l')
    (hrun : x.run false i w l = .finished out w₁ l₁) :
    ∃ ε, β ≤ ε ∧ ε.Diagonal ∧ Bond.Ties whose session δ ε w₁ l₁ w' l' ∧
      ∀ y, out = .ok y → ∃ y', V ε y y' := by
  -- Here the bond `β` of the others grows, and each of their numbers is bound to itself.
  induction h generalizing β w l with
  | @done γ y y' hy =>
    cases hrun
    exact ⟨β, β.le_refl, hβ, hties, fun _ hout => by cases hout; exact ⟨y', hV hγ hy⟩⟩
  | fail f =>
    cases hrun
    exact ⟨β, β.le_refl, hβ, hties, fun _ hout => by cases hout⟩
  | @plain γ a next next' ha hnext ih =>
    cases a with
    | world a =>
      obtain ⟨reply, u, hu, hworld⟩ := hties.world.plain_left hother ha i
      rw [Routine.run_of_perform hu] at hrun
      exact ih reply hγ hβ ⟨hworld, hties.workspace⟩ hrun
    | own a =>
      exact ih (l.perform a).1 hγ hβ ⟨hties.world, hties.workspace.plain_left hother ha⟩ hrun
  | @count γ label next next' hnext ih =>
    refine ih _ 0 hγ hβ ⟨hties.world.congr ?_ (fun _ => rfl) ?_ fun _ => rfl, hties.workspace⟩ hrun
    all_goals intro t; cases t <;> rfl
  | draw t hnext ih =>
    obtain ⟨ε, hε, hrest⟩ := ih _ _ (Bond.addTicket_le_addTicket hγ t _ _) (hβ.addTicket t _)
      ⟨hties.world.draw_left hother t, hties.workspace⟩ hrun
    exact ⟨ε, Bond.le_trans (β.le_addTicket t _ _) hε, hrest⟩
  | @await γ t k k' limit next next' hk hnext ih =>
    cases hu : w.perform i (.await t k limit) with
    | some granted =>
      obtain ⟨got, u⟩ := granted
      rw [Routine.run_of_perform hu] at hrun
      exact ih got hγ hβ ⟨hties.world.await_left (hγ.2 _ _ _ hk) hu, hties.workspace⟩ hrun
    | none =>
      obtain ⟨d, rfl⟩ := Routine.isSome_limit_of_run hu hrun
      rw [Routine.run_of_expired hu rfl] at hrun
      exact ih false hγ hβ hties hrun
  | @giveBack γ t k k' next next' hk hnext ih =>
    exact ih _ hγ hβ ⟨hties.world.giveBack_left (hγ.2 _ _ _ hk), hties.workspace⟩ hrun
  | @openDraft γ k name next next' hnone hsome ihnone ihsome =>
    rw [Routine.run_own, Workspace.perform] at hrun
    cases ho : l.openDraft? k other name with
    | none =>
      rw [ho] at hrun
      exact ihnone hγ hβ hties hrun
    | some d =>
      rw [ho] at hrun
      have hd := hties.workspace.others hother (Option.filter_eq_some_iff.mp ho).1
      exact ihsome d d (Bond.addDraft_le hγ hd) hβ hties hrun
  | begin k name value hnext ih =>
    obtain ⟨ε, hε, hrest⟩ := ih _ _ (Bond.addDraft_le_addDraft hγ _ _) (hβ.addDraft _)
      ⟨hties.world, hties.workspace.begin_left hother k name value⟩ hrun
    exact ⟨ε, Bond.le_trans (β.le_addDraft _ _) hε, hrest⟩
  | @draft γ d d' next next' hd hnext ih => exact ih (l.draft d) hγ hβ hties hrun
  | handOut hd hnext ih =>
    exact ih hγ hβ ⟨hties.world, hties.workspace.editDraft_left (hγ.1 _ _ hd) _⟩ hrun
  | record value hd hnext ih =>
    exact ih hγ hβ ⟨hties.world, hties.workspace.editDraft_left (hγ.1 _ _ hd) _⟩ hrun
  | discard hd hnext ih =>
    exact ih hγ hβ ⟨hties.world, hties.workspace.editDraft_left (hγ.1 _ _ hd) _⟩ hrun
  | finish name hd hnext ih =>
    exact ih hγ hβ ⟨hties.world, hties.workspace.finish_left hother (hγ.1 _ _ hd) name⟩ hrun

end Alike

end SessionCart
