import SessionCart.Proofs.Thread.Dealing

/-!
# What becomes of drafts

What an operation on an attribute or a section does to the drafts of a thread and to the table of
the open ones, whatever the other threads do and however storage answers. A session write that
storage has taken is recorded in the draft that is open for its attribute; what else there is to a
read or a write leaves the drafts alone.
-/

namespace SessionCart

namespace Workspace

variable {l l' l'' : Workspace}

/-- The drafts and the table of the open ones are as they were. -/
structure SameDrafts (l l' : Workspace) : Prop where
  drafts_eq : l'.drafts = l.drafts
  active_eq : l'.active = l.active

namespace SameDrafts

theorem refl (l : Workspace) : l.SameDrafts l := ⟨rfl, rfl⟩

theorem trans (h : l.SameDrafts l') (h' : l'.SameDrafts l'') : l.SameDrafts l'' :=
  ⟨h'.drafts_eq.trans h.drafts_eq, h'.active_eq.trans h.active_eq⟩

variable (h : l.SameDrafts l')

include h

theorem draft_eq (d : DraftId) : l'.draft d = l.draft d := by rw [draft, h.drafts_eq, draft]

theorem openDraft?_eq (k : Kind) (session : SessionId) (name : String) :
    l'.openDraft? k session name = l.openDraft? k session name := by
  refine openDraft?_congr ?_ h.active_eq k session name
  rw [outline, h.drafts_eq, outline]

theorem editDraft (d : DraftId) (f : Draft → Draft) :
    (l.editDraft d f).SameDrafts (l'.editDraft d f) := by
  refine ⟨?_, h.active_eq⟩
  rw [Workspace.editDraft, h.drafts_eq, Workspace.editDraft]

end SameDrafts

theorem sameDrafts_keep (l : Workspace) (r : RequestRef) (name : String) (value : Option Value) :
    l.SameDrafts (l.keep r name value) := by
  obtain ⟨f, hf⟩ := l.exists_keep r name value
  exact hf ▸ ⟨rfl, rfl⟩

theorem sameDrafts_wrote (l : Workspace) (r : RequestRef) (name : String) (scope : Scope)
    (value : Option Value) : l.SameDrafts (l.wrote r name scope value) := by
  obtain ⟨f, hf⟩ := l.exists_wrote r name scope value
  exact hf ▸ ⟨rfl, rfl⟩

end Workspace

/-! ### Routines that leave drafts alone -/

/-- However the routine goes, it leaves the drafts of the thread as they are. -/
def Routine.Draftless {α : Type} (x : Routine α) : Prop :=
  ∀ ⦃i others w l events out w' l'⦄, x.Course i others w l events (.ended out) w' l' →
    l.SameDrafts l'

namespace Routine.Draftless

variable {α β : Type}

theorem done (y : α) : (Routine.done y).Draftless := by
  intro i others w l events out w' l' h
  obtain ⟨-, -, -, rfl⟩ := h.of_done
  exact .refl l'

theorem fail (f : Failure) : (Routine.fail f : Routine α).Draftless := by
  intro i others w l events out w' l' h
  obtain ⟨-, -, -, rfl⟩ := h.of_fail
  exact .refl l'

theorem bind {x : Routine α} {f : α → Routine β} (hx : x.Draftless) (hf : ∀ y, (f y).Draftless) :
    (x >>= f).Draftless := by
  intro i others w l events out w' l' h
  rcases h.of_bind with ⟨y, before, w₁, l₁, after, h₁, h₂, -⟩ | ⟨e, h₁, -⟩
  · exact (hx h₁).trans (hf y h₂)
  · exact hx h₁

theorem own {act : Workspace.Action} (hact : ∀ l : Workspace, l.SameDrafts (l.perform act).2) :
    (Routine.own act).Draftless := by
  intro i others w l events out w' l' h
  obtain ⟨-, -, -, rfl⟩ := h.of_own.of_done
  exact hact l

theorem world (act : World.Action) : (Routine.world act).Draftless := by
  intro i others w l events out w' l' h
  obtain ⟨w₁, w₂, reply, rest, -, -, -, hnext⟩ := h.of_world
  obtain ⟨-, -, -, rfl⟩ := hnext.of_done
  exact .refl l'

theorem ofExcept (e : Except Error α) : (Routine.ofExcept e).Draftless := by
  cases e with
  | ok y => exact done y
  | error e => exact fail _

theorem release (hold : Hold) : hold.release.Draftless := world _

theorem drop (hold : Hold) : hold.drop.Draftless := bind (release hold) fun _ => done ()

theorem acquire (t : TableName) (limit : Option Duration) (session : SessionId) :
    (Hold.acquire t limit session).Draftless := by
  refine bind (world _) fun ticket => bind (world _) fun got => ?_
  cases got with
  | true => exact done _
  | false => exact bind (world _) fun _ => fail _

theorem invalidate (s : StoreName) (session : SessionId) :
    (Routine.invalidate s session).Draftless :=
  bind (world _) fun _ => ofExcept _

theorem setStored (s : StoreName) (session : SessionId) (name : String) (value : Value) :
    (Routine.setStored s session name value).Draftless :=
  bind (world _) fun _ => ofExcept _

theorem removeStored (s : StoreName) (session : SessionId) (name : String) :
    (Routine.removeStored s session name).Draftless :=
  bind (world _) fun _ => ofExcept _

theorem getStored (s : StoreName) (session : SessionId) (name : String) :
    (Routine.getStored s session name).Draftless :=
  bind (world _) fun _ => ofExcept _

variable {k : Kind} (a : Attribute k) (r : RequestRef)

theorem cached : (a.cached r).Draftless := by
  refine bind (own fun l => .refl l) fun request => ?_
  rw [Attribute.typed_eq]
  exact ofExcept _

theorem stored : (a.stored r).Draftless := by
  refine bind (getStored ..) fun found => ?_
  rw [Attribute.typed_eq]
  exact ofExcept _

theorem look (policy : ReadPolicy) (c : Option k.Data) :
    (Attribute.look (a := a) r policy c).Draftless := by
  cases policy with
  | requestFirst =>
    cases c with
    | some d => exact done _
    | none => exact stored a r
  | sessionFirst => exact bind (stored a r) fun _ => done _

theorem create : (a.create r).Draftless := by
  refine bind (world _) fun n => bind (own fun l => .refl l) fun request => ?_
  cases a.make n request with
  | ok d => exact done d
  | error p => exact fail _

theorem cache (value : Option k.Data) : (a.cache r value).Draftless := by
  cases value <;> exact own fun _ => ⟨rfl, rfl⟩

theorem settle_some (creating : Bool) (scope : Scope) (c : Option k.Data) (d : k.Data) :
    (a.settle r creating scope c (some d)).Draftless := by
  rw [Attribute.settle]
  split
  · exact bind (cache a r _) fun _ => done _
  · exact done _

theorem find (policy : ReadPolicy) (scope : Scope) : (a.read r policy false scope).Draftless := by
  rw [Attribute.read_eq]
  refine bind (cached a r) fun c => bind (look a r policy c) fun found => ?_
  cases found with
  | none => exact done none
  | some d => exact settle_some a r false scope c d

theorem pick : (a.pick r).Draftless := by
  refine bind (find a r _ _) fun found => ?_
  cases found with
  | none => exact create a r
  | some d => exact done d

end Routine.Draftless

/-! ### Reads and writes -/

namespace Attribute

open Routine

variable {k : Kind} {a : Attribute k} {r : RequestRef} {i : ThreadId}
  {others : World → World → Prop} {w w' : World} {l l' l₁ : Workspace} {events : List Event}

/-- A session write of the attribute, if there was one, was recorded in the draft that the thread
has open for it, and nothing else was done to the drafts. -/
inductive Routed (a : Attribute k) (r : RequestRef) (events : List Event) (l l' : Workspace) : Prop
  | past : (a.Written r events → l.openDraft? k r.session a.name = none) → l.SameDrafts l' →
    Routed a r events l l'
  | through {d : DraftId} (value : Option Value) : a.Written r events →
    l.openDraft? k r.session a.name = some d → (l.record d value).SameDrafts l' →
    Routed a r events l l'

namespace Routed

theorem same (hevents : ¬a.Written r events) (h : l.SameDrafts l') : a.Routed r events l l' :=
  past (fun hwritten => absurd hwritten hevents) h

/-- What writes nothing and leaves the drafts alone may have come before. -/
theorem after {before : List Event} (hbefore : ¬a.Written r before) (hl₁ : l.SameDrafts l₁)
    (h : a.Routed r events l₁ l') : a.Routed r (before ++ events) l l' := by
  cases h with
  | past hnone hl' =>
    refine past (fun hwritten => ?_) (hl₁.trans hl')
    rw [written_append] at hwritten
    rw [← hl₁.openDraft?_eq]
    exact hnone (hwritten.resolve_left hbefore)
  | through value hwritten hopen hl' =>
    refine through value (written_append.mpr (.inr hwritten)) ?_ ((hl₁.editDraft _ _).trans hl')
    rwa [hl₁.openDraft?_eq] at hopen

/-- What writes nothing and leaves the drafts alone may follow. -/
theorem before {after : List Event} (h : a.Routed r events l l₁) (hafter : ¬a.Written r after)
    (hl' : l₁.SameDrafts l') : a.Routed r (events ++ after) l l' := by
  cases h with
  | past hnone hl₁ =>
    refine past (fun hwritten => hnone ?_) (hl₁.trans hl')
    exact (written_append.mp hwritten).resolve_right hafter
  | through value hwritten hopen hl₁ =>
    exact through value (written_append.mpr (.inl hwritten)) hopen (hl₁.trans hl')

end Routed

/-- A commit has come about and is recorded, or it has failed and the drafts are as they were. -/
theorem drafts_commit {d : DraftId} {value : Option k.Data} {out : Except Failure Unit}
    (h : (a.commit r d value).Course i others w l events (.ended out) w' l') :
    (∃ f, out = .error f) ∧ ¬a.Written r events ∧ l.SameDrafts l' ∨
      out = .ok () ∧ a.Written r events ∧ (l.draft d).closed = false ∧
        (l.record d (value.map (.of k))).SameDrafts l' := by
  rcases course_commit h with ⟨he, hwritten, rfl⟩ | ⟨hout, hwritten, hopen, rfl⟩
  · exact .inl ⟨he, hwritten, .refl _⟩
  · exact .inr ⟨hout, hwritten, hopen, (l.sameDrafts_wrote ..).editDraft _ _⟩

theorem routed_write {value : Option k.Data} {scope : Scope} {out : Except Failure Unit}
    (h : (a.write r value scope).Course i others w l events (.ended out) w' l') :
    a.Routed r events l l' := by
  cases hscope : scope.session with
  | false =>
    obtain ⟨-, rfl, rfl⟩ := course_write_request hscope h
    refine .same written_nil ?_
    split
    · exact l.sameDrafts_keep ..
    · exact .refl l
  | true =>
    rw [write, hscope, if_pos rfl] at h
    replace h := h.of_own
    cases hopen : (l.perform (.openDraft k r.session a.name)).1 with
    | some d =>
      rw [hopen] at h
      rcases drafts_commit h with ⟨-, hevents, hl'⟩ | ⟨-, hevents, -, hl'⟩
      · exact .same hevents hl'
      · exact .through _ hevents hopen hl'
    | none =>
      rw [hopen] at h
      rcases course_writeDirectly hscope h with ⟨-, hevents, rfl⟩ | ⟨-, hevents, rfl⟩
      · exact .same hevents (.refl _)
      · exact .past (fun _ => hopen) (l.sameDrafts_wrote ..)

theorem routed_supply {scope : Scope} {out : Except Failure (k.Data × Bool)}
    (h : (a.supply r scope).Course i others w l events (.ended out) w' l') :
    a.Routed r events l l' := by
  rcases h.of_bind with ⟨found, before, w₁, l₁, after, hstored, hrest, rfl⟩ | ⟨e, hstored, -⟩
  case inr => exact .same (Idle.stored hstored).1 (Draftless.stored a r hstored)
  refine .after (Idle.stored hstored).1 (Draftless.stored a r hstored) ?_
  cases found with
  | some d => exact .same (Idle.done _ hrest).1 (Draftless.done _ hrest)
  | none =>
    rcases hrest.of_bind with ⟨d, e₁, w₂, l₂, e₂, hcreate, hnew, rfl⟩ | ⟨e, hcreate, -⟩
    case inr => exact .same (Idle.create hcreate).1 (Draftless.create a r hcreate)
    refine .after (Idle.create hcreate).1 (Draftless.create a r hcreate) ?_
    rcases hnew.of_bind with ⟨u, e₃, w₃, l₃, e₄, hwrite, hdone, rfl⟩ | ⟨e, hwrite, -⟩
    · exact (routed_write hwrite).before (Idle.done _ hdone).1 (Draftless.done _ hdone)
    · exact routed_write hwrite

theorem routed_createOnce {scope : Scope} {out : Except Failure (k.Data × Bool)}
    (h : (a.createOnce r scope).Course i others w l events (.ended out) w' l') :
    a.Routed r events l l' := by
  rw [createOnce_eq] at h
  rcases h.of_bind with ⟨hold, before, w₁, l₁, after, hhold, hrest, rfl⟩ | ⟨e, hhold, -⟩
  · obtain ⟨first, e₁, w₂, l₂, last, e₂, hsupply, hdrop, rfl, -⟩ := hrest.of_ensuring
    exact .after (Idle.acquire _ _ _ hhold).1 (Draftless.acquire _ _ _ hhold)
      ((routed_supply hsupply).before (Idle.drop hold hdrop).1 (Draftless.drop hold hdrop))
  · exact .same (Idle.acquire _ _ _ hhold).1 (Draftless.acquire _ _ _ hhold)

theorem idle_settle_some {creating : Bool} {scope : Scope} {c : Option k.Data} {d : k.Data}
    {out : Except Failure (Option k.Data)}
    (h : (a.settle r creating scope c (some d)).Course i others w l events (.ended out) w' l') :
    ¬a.Written r events := by
  obtain ⟨rfl, -, -⟩ := course_settle h
  exact written_nil

theorem routed_settle {creating : Bool} {scope : Scope} {c found : Option k.Data}
    {out : Except Failure (Option k.Data)}
    (h : (a.settle r creating scope c found).Course i others w l events (.ended out) w' l') :
    a.Routed r events l l' := by
  cases found with
  | some d => exact .same (idle_settle_some h) (Draftless.settle_some a r creating scope c d h)
  | none =>
    rw [settle] at h
    split at h
    case isFalse => exact .same (Idle.done _ h).1 (Draftless.done _ h)
    rcases h.of_bind with ⟨⟨d, isNew⟩, before, w₁, l₁, after, hcreate, hrest, rfl⟩ | ⟨e, hcreate, -⟩
    case inr => exact routed_createOnce hcreate
    cases isNew with
    | true =>
      exact (routed_createOnce hcreate).before (Idle.done _ hrest).1 (Draftless.done _ hrest)
    | false =>
      -- what another thread has made meanwhile is cached like what was found
      have hfound : (a.settle r creating scope none (some d)).Course i others w₁ l₁ after
        (.ended out) w' l' := hrest
      exact (routed_createOnce hcreate).before (idle_settle_some hfound)
        (Draftless.settle_some a r creating scope none d hfound)

theorem routed_read {policy : ReadPolicy} {creating : Bool} {scope : Scope}
    {out : Except Failure (Option k.Data)}
    (h : (a.read r policy creating scope).Course i others w l events (.ended out) w' l') :
    a.Routed r events l l' := by
  rw [read_eq] at h
  rcases h.of_bind with ⟨c, before, w₁, l₁, after, hcached, hrest, rfl⟩ | ⟨e, hcached, -⟩
  case inr =>
    obtain ⟨rfl, -, rfl, -⟩ := course_cached hcached
    exact .same written_nil (.refl _)
  obtain ⟨rfl, -, rfl, -⟩ := course_cached hcached
  refine .after written_nil (.refl _) ?_
  rcases hrest.of_bind with ⟨found, e₁, w₂, l₂, e₂, hlook, hsettle, rfl⟩ | ⟨e, hlook, -⟩
  · exact .after (Idle.look policy c hlook).1 (Draftless.look a r policy c hlook)
      (routed_settle hsettle)
  · exact .same (Idle.look policy c hlook).1 (Draftless.look a r policy c hlook)

end Attribute

/-! ### Closing -/

/-- A hold that was got is of the lock that was asked for. -/
theorem Hold.of_acquire {t : TableName} {limit : Option Duration} {session : SessionId}
    {hold : Hold} {i : ThreadId} {others : World → World → Prop} {w w' : World} {l l' : Workspace}
    {events : List Event}
    (h : (acquire t limit session).Course i others w l events (.ended (.ok hold)) w' l') :
    hold.table = t ∧ hold.session = session := by
  rcases h.of_bind with ⟨ticket, _, _, _, _, -, hrest, -⟩ | ⟨e, -, he⟩
  case inr => cases he
  rcases hrest.of_bind with ⟨got, _, _, _, _, -, hlast, -⟩ | ⟨e, -, he⟩
  case inr => cases he
  cases got with
  | true =>
    obtain ⟨-, hhold, -⟩ := hlast.of_done
    cases hhold
    exact ⟨rfl, rfl⟩
  | false =>
    rcases hlast.of_bind with ⟨_, _, _, _, _, -, hraise, -⟩ | ⟨e, -, he⟩
    · cases hraise.of_fail.2.1
    · cases he

namespace Routine

variable {α : Type} {i : ThreadId} {others : World → World → Prop} {w w' : World}
  {l l' : Workspace} {out : Except Failure α}

theorem ends_world_iff {a : World.Action} {next : a.Reply → Routine α} (ha : a.expired? = none) :
    (act (.world a) next).Ends i others w l out w' l' ↔ ∃ w₁ reply w₂, others w w₁ ∧
      w₁.perform i a = some (reply, w₂) ∧ (next reply).Ends i others w₂ l out w' l' := by
  constructor
  · intro h
    cases h with
    | world hothers hperform hnext => exact ⟨_, _, _, hothers, hperform, hnext⟩
    | expire _ _ hexpired _ =>
      rw [ha] at hexpired
      cases hexpired
  · rintro ⟨w₁, reply, w₂, hothers, hperform, hnext⟩
    exact .world hothers hperform hnext

theorem ends_release_iff {hold : Hold} {next : Bool → Routine α} :
    (hold.release >>= next).Ends i others w l out w' l' ↔ ∃ w₁, others w w₁ ∧
      (next ((w₁.locks hold.table).giveBack hold.ticket).1).Ends i others (hold.returned w₁) l out
        w' l' := by
  apply (ends_world_iff (a := .giveBack hold.table hold.ticket) rfl).trans
  constructor
  · rintro ⟨w₁, reply, w₂, hothers, hperform, hnext⟩
    cases hperform
    exact ⟨w₁, hothers, hnext⟩
  · rintro ⟨w₁, hothers, hnext⟩
    exact ⟨w₁, _, _, hothers, rfl, hnext⟩

end Routine

namespace Section

variable {k : Kind} {s : Section k} {α : Type} {f : Bool → Routine α} {i : ThreadId}
  {others : World → World → Prop} {w w' : World} {l l' : Workspace} {out : Except Failure α}

/-- What is abandoned when the section is closed is reported in strict mode. -/
def Reports (s : Section k) (l : Workspace) : Bool :=
  (l.draft s.draft).isAbandoned && s.subject.settings.strictCommit

theorem finish_of_isNested (h : s.isNested = true) : s.finish = .done false := by
  rw [finish, Option.isNone_iff_eq_none.mp h]
  rfl

theorem finish_eq {hold : Hold} (h : s.hold = some hold) :
    s.finish = Routine.draft s.draft >>= fun draft => if draft.closed then .done false
      else Routine.finishDraft s.request.session s.subject.name s.draft >>= fun _ =>
        hold.release >>= fun _ => .done (draft.isAbandoned && s.subject.settings.strictCommit) := by
  rw [finish, h]
  refine congrArg (Routine.draft s.draft >>= ·) (funext fun draft => ?_)
  split <;> rfl

theorem ends_finish_iff {hold : Hold} (h : s.hold = some hold) :
    (s.finish >>= f).Ends i others w l out w' l' ↔
      ((if (l.draft s.draft).closed then .done false
        else Routine.finishDraft s.request.session s.subject.name s.draft >>= fun _ =>
          hold.release >>= fun _ => .done (s.Reports l)) >>= f).Ends i others w l out w' l' := by
  rw [finish_eq h]
  exact Routine.ends_own_iff

/-- A section that joined another one, or is closed, is closed at once. -/
theorem ends_finish_idle (h : s.isNested = true ∨ (l.draft s.draft).closed = true) :
    (s.finish >>= f).Ends i others w l out w' l' ↔ (f false).Ends i others w l out w' l' := by
  cases hhold : s.hold with
  | none => rw [finish_of_isNested (by rw [isNested, hhold]; rfl), Routine.done_bind]
  | some hold =>
    have hclosed : (l.draft s.draft).closed = true := by
      refine h.resolve_left ?_
      simp [isNested, hhold]
    rw [ends_finish_iff hhold, if_pos hclosed, Routine.done_bind]

/-- An open outermost section is closed, and its lock given back. -/
theorem ends_finish_open {hold : Hold} (hhold : s.hold = some hold)
    (hopen : (l.draft s.draft).closed = false) : (s.finish >>= f).Ends i others w l out w' l' ↔
      ∃ w₁, others w w₁ ∧
        (f (s.Reports l)).Ends i others (hold.returned w₁) (s.closing l) out w' l' := by
  rw [ends_finish_iff hhold, if_neg (by simp [hopen])]
  change Routine.Ends i others (.act (.own (.finish _ _ _)) _) w l out w' l' ↔ _
  rw [Routine.ends_own_iff]
  exact Routine.ends_release_iff

/-! ### Opening and using -/

open Routine

variable {a : Attribute k} {r : RequestRef} {events : List Event}

/-- What opening a section does to the drafts: it joins the open one, or has a draft of its own, or
has failed. -/
inductive Started (a : Attribute k) (r : RequestRef) (l l' : Workspace) :
    Except Failure (Section k) → Prop
  | joined {d : DraftId} : l.openDraft? k r.session a.name = some d → l.SameDrafts l' →
    Started a r l l' (.ok ⟨a, r, d, none⟩)
  | begun (hold : Hold) (value : k.Data) : hold.table = a.table → hold.session = r.session →
    l.openDraft? k r.session a.name = none →
    l'.drafts = l.drafts ++ [{ kind := k, current := some (.of k value) }] →
    l'.active = l.active.insert (r.session, a.name) l.drafts.length →
    Started a r l l' (.ok ⟨a, r, l.drafts.length, some hold⟩)
  | failed (f : Failure) : l.SameDrafts l' → Started a r l l' (.error f)

theorem started {out : Except Failure (Section k)}
    (h : (start a r).Course i others w l events (.ended out) w' l') : Started a r l l' out := by
  rw [start_eq] at h
  replace h := h.of_own
  cases hopen : (l.perform (.openDraft k r.session a.name)).1 with
  | some d =>
    rw [hopen] at h
    obtain ⟨-, rfl, -, rfl⟩ := h.of_done
    exact .joined hopen (.refl _)
  | none =>
    rw [hopen] at h
    change (a.hold r >>= _ : Routine (Section k)).Course i others w l events (.ended out) w' l' at h
    rcases h.of_bind with ⟨hold, before, w₁, l₁, rest, hhold, hrest, -⟩ | ⟨e, hhold, rfl⟩
    case inr => exact .failed e (Draftless.acquire _ _ _ hhold)
    have hl₁ : l.SameDrafts l₁ := Draftless.acquire _ _ _ hhold
    rcases hrest.of_onFailure with
      ⟨s, hbegin, rfl⟩ | ⟨e, e₁, w₂, l₂, last, e₂, hbegin, hdrop, -, e', rfl⟩
    · rcases hbegin.of_bind with ⟨value, e₃, w₃, l₃, e₄, hpick, hdraft, -⟩ | ⟨e, -, he⟩
      case inr => cases he
      have hl₃ : l.SameDrafts l₃ := hl₁.trans (Draftless.pick a r hpick)
      obtain ⟨-, hs, -, rfl⟩ := hdraft.of_own.of_done
      cases hs
      have hlength : (l₃.perform (.begin k r.session a.name (.of k value))).1 = l.drafts.length :=
        congrArg List.length hl₃.drafts_eq
      rw [hlength]
      obtain ⟨htable, hsession⟩ := Hold.of_acquire hhold
      refine .begun hold value htable hsession hopen ?_ ?_
      · exact congrArg (· ++ _) hl₃.drafts_eq
      · change l₃.active.insert _ l₃.drafts.length = _
        rw [hl₃.active_eq, hl₃.drafts_eq]
    · rcases hbegin.of_bind with ⟨value, e₃, w₃, l₃, e₄, hpick, hdraft, -⟩ | ⟨e, hpick, -⟩
      · cases hdraft.of_own.of_done.2.1
      · exact .failed e' ((hl₁.trans (Draftless.pick a r hpick)).trans (Draftless.drop hold hdrop))

theorem drafts_copy {out : Except Failure k.Data}
    (h : s.copy.Course i others w l events (.ended out) w' l') :
    (l.editDraft s.draft fun e => { e with copies := e.copies + 1 }).SameDrafts l' := by
  refine Draftless.bind (x := Routine.draft s.draft) (.own fun l => .refl l) (fun draft => ?_)
    h.of_own
  cases draft.current.bind (·.as? k) with
  | some d => exact .done d
  | none => exact .create ..

theorem drafts_discard {out : Except Failure Unit}
    (h : s.discard.Course i others w l events (.ended out) w' l') :
    (l.editDraft s.draft fun e => { e with discarded := true }).SameDrafts l' := by
  obtain ⟨-, -, -, rfl⟩ := h.of_own.of_done
  exact .refl _

theorem drafts_commit {value : k.Data} {out : Except Failure k.Data}
    (h : (s.commit value).Course i others w l events (.ended out) w' l') :
    (∃ f, out = .error f) ∧ l.SameDrafts l' ∨ out = .ok value ∧
      (l.draft s.draft).closed = false ∧ (l.record s.draft (some (.of k value))).SameDrafts l' := by
  rcases course_commit h with ⟨he, -, rfl⟩ | ⟨hout, -, hopen, rfl⟩
  · exact .inl ⟨he, .refl _⟩
  · exact .inr ⟨hout, hopen, (l.sameDrafts_wrote ..).editDraft _ _⟩

/-- A section that joined another one, or is closed, is left alone; any other one is closed. -/
theorem drafts_close {closing : Routine Unit} (hclosing : closing = s.close ∨ closing = s.drop)
    {out : Except Failure Unit}
    (h : closing.Course i others w l events (.ended out) w' l') :
    (s.isNested = true ∨ (l.draft s.draft).closed = true) ∧ l' = l ∨
      s.isNested = false ∧ (l.draft s.draft).closed = false ∧ l' = s.closing l := by
  obtain ⟨f, hf, hsame⟩ : ∃ f : Bool → Routine Unit, closing = s.finish >>= f ∧
      ∀ b w l out w' l', (f b).Ends i others w l out w' l' → l' = l := by
    rcases hclosing with rfl | rfl
    · refine ⟨_, rfl, fun b w l out w' l' h => ?_⟩
      cases b with
      | true => exact (ends_fail_iff.mp h).2.2
      | false => exact (ends_done_iff.mp h).2.2
    · exact ⟨_, rfl, fun b w l out w' l' h => (ends_done_iff.mp h).2.2⟩
  have hends := hf ▸ h.ends
  by_cases hidle : s.isNested = true ∨ (l.draft s.draft).closed = true
  · exact .inl ⟨hidle, hsame _ _ _ _ _ _ ((ends_finish_idle hidle).mp hends)⟩
  · rw [not_or, Bool.not_eq_true, Bool.not_eq_true] at hidle
    obtain ⟨hold, hhold⟩ := Option.isSome_iff_exists.mp (Option.isNone_eq_false_iff.mp hidle.1)
    obtain ⟨w₁, -, hlast⟩ := (ends_finish_open hhold hidle.2).mp hends
    exact .inr ⟨hidle.1, hidle.2, hsame _ _ _ _ _ _ hlast⟩

end Section

end SessionCart
