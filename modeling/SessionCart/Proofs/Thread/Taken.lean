import SessionCart.Proofs.Section.Abandoned
import SessionCart.Proofs.Thread.Ended

/-!
# What storage has taken

What an operation on an attribute does to the requests of a thread, whatever the other threads do
and however storage answers. A session write marks the attribute and touches the cache only once
storage has taken it. A read that creates nothing asks storage at most, and caches what it has found
only where nothing is cached.
-/

namespace SessionCart

/-- The place of the value that an action has set or removed in session storage. -/
def World.Action.target? : (a : World.Action) → a.Reply → Option (StoreName × SessionId × String)
  | .set s session name _, .ok _ => some (s, session, name)
  | .remove s session name, .ok _ => some (s, session, name)
  | _, _ => none

def Event.target? (e : Event) : Option (StoreName × SessionId × String) :=
  World.Action.target? e.action e.reply

namespace Attribute

variable {k : Kind} (a : Attribute k) (r : RequestRef)

/-- One of the actions has written the attribute to session storage. -/
def Written (events : List Event) : Prop :=
  ∃ e ∈ events, e.target? = some (a.store, r.session, a.name)

variable {a r}

@[simp]
theorem written_nil : ¬a.Written r [] := by simp [Written]

@[simp]
theorem written_append {before after : List Event} :
    a.Written r (before ++ after) ↔ a.Written r before ∨ a.Written r after := by
  simp [Written, or_and_right, exists_or]

@[simp]
theorem written_cons {e : Event} {events : List Event} : a.Written r (e :: events) ↔
    e.target? = some (a.store, r.session, a.name) ∨ a.Written r events := by
  simp [Written]

/-! ### Idle routines -/

/-- The routine writes the attribute nowhere, and leaves the requests as they are. -/
def Idle (a : Attribute k) (r : RequestRef) {α : Type} (x : Routine α) : Prop :=
  ∀ ⦃i others w l events out w' l'⦄, x.Course i others w l events (.ended out) w' l' →
    ¬a.Written r events ∧ l'.requests = l.requests

namespace Idle

variable {α β : Type}

theorem done (y : α) : a.Idle r (.done y) := by
  intro i others w l events out w' l' h
  obtain ⟨rfl, -, -, rfl⟩ := h.of_done
  exact ⟨written_nil, rfl⟩

theorem fail (f : Failure) : a.Idle r (.fail f : Routine α) := by
  intro i others w l events out w' l' h
  obtain ⟨rfl, -, -, rfl⟩ := h.of_fail
  exact ⟨written_nil, rfl⟩

theorem bind {x : Routine α} {f : α → Routine β} (hx : a.Idle r x) (hf : ∀ y, a.Idle r (f y)) :
    a.Idle r (x >>= f) := by
  intro i others w l events out w' l' h
  rcases h.of_bind with ⟨y, before, w₁, l₁, after, h₁, h₂, rfl⟩ | ⟨e, h₁, rfl⟩
  · obtain ⟨hbefore, hl₁⟩ := hx h₁
    obtain ⟨hafter, hl₂⟩ := hf y h₂
    exact ⟨by simp [hbefore, hafter], hl₂.trans hl₁⟩
  · exact hx h₁

theorem own {act : Workspace.Action} (hact : ∀ l, (Workspace.perform l act).2.requests = l.requests) :
    a.Idle r (Routine.own act) := by
  intro i others w l events out w' l' h
  obtain ⟨rfl, -, -, rfl⟩ := h.of_own.of_done
  exact ⟨written_nil, hact l⟩

theorem world {act : World.Action}
    (hact : ∀ reply, act.target? reply ≠ some (a.store, r.session, a.name)) :
    a.Idle r (Routine.world act) := by
  intro i others w l events out w' l' h
  obtain ⟨w₁, w₂, reply, rest, -, -, rfl, hnext⟩ := h.of_world
  obtain ⟨rfl, -, -, rfl⟩ := hnext.of_done
  exact ⟨by simp [Event.target?, hact reply], rfl⟩

theorem ofExcept (e : Except Error α) : a.Idle r (Routine.ofExcept e) := by
  cases e with
  | ok y => exact done y
  | error e => exact fail _

section Store

variable {s : StoreName} {session : SessionId} {name : String}

theorem getStored : a.Idle r (Routine.getStored s session name) :=
  bind (world fun _ => by simp [World.Action.target?]) fun _ => ofExcept _

theorem setStored (hname : name ≠ a.name) (value : Value) :
    a.Idle r (Routine.setStored s session name value) := by
  refine bind (world fun reply => ?_) fun _ => ofExcept _
  cases reply <;> simp [World.Action.target?, hname]

theorem removeStored (hname : name ≠ a.name) :
    a.Idle r (Routine.removeStored s session name) := by
  refine bind (world fun reply => ?_) fun _ => ofExcept _
  cases reply <;> simp [World.Action.target?, hname]

theorem invalidate : a.Idle r (Routine.invalidate s session) :=
  bind (world fun _ => by simp [World.Action.target?]) fun _ => ofExcept _

end Store

theorem release (hold : Hold) : a.Idle r hold.release := world fun _ => by simp [World.Action.target?]

theorem drop (hold : Hold) : a.Idle r hold.drop := bind (release hold) fun _ => done ()

theorem acquire (t : TableName) (limit : Option Duration) (session : SessionId) :
    a.Idle r (Hold.acquire t limit session) := by
  refine bind (world fun _ => by simp [World.Action.target?]) fun ticket => ?_
  refine bind (world fun _ => by simp [World.Action.target?]) fun got => ?_
  cases got with
  | true => exact done _
  | false => exact bind (world fun _ => by simp [World.Action.target?]) fun _ => fail _

variable {k' : Kind} {a' : Attribute k'} {r' : RequestRef}

theorem stored : a.Idle r (a'.stored r') := by
  refine bind getStored fun found => ?_
  rw [typed_eq]
  exact ofExcept _

theorem look (policy : ReadPolicy) (cached : Option k'.Data) :
    a.Idle r (look (a := a') r' policy cached) := by
  cases policy with
  | requestFirst =>
    cases cached with
    | some d => exact done _
    | none => exact stored
  | sessionFirst => exact bind stored fun _ => done _

theorem create : a.Idle r (a'.create r') := by
  refine bind (world fun _ => by simp [World.Action.target?]) fun n => ?_
  refine bind (own fun _ => rfl) fun request => ?_
  cases a'.make n request with
  | ok d => exact done d
  | error p => exact fail _

end Idle

/-! ### Reads and writes -/

section Courses

variable {i : ThreadId} {others : World → World → Prop} {w w' : World} {l l' : Workspace}
  {events : List Event}

theorem course_cached {out : Except Failure (Option k.Data)}
    (h : (a.cached r).Course i others w l events (.ended out) w' l') :
    events = [] ∧ w' = w ∧ l' = l ∧ ∀ c, out = .ok c →
      k.decode r.session a.name ((l.request r.id).get? a.name) = .ok c := by
  have htyped : (a.typed r ((l.request r.id).get? a.name)).Course i others w l events (.ended out)
      w' l' := h.of_own
  rw [typed_eq] at htyped
  obtain ⟨rfl, rfl, rfl, rfl⟩ := htyped.of_ofExcept
  refine ⟨rfl, rfl, rfl, fun c hc => ?_⟩
  cases hdecode : k.decode r.session a.name ((l'.request r.id).get? a.name) with
  | error e =>
    rw [hdecode] at hc
    cases hc
  | ok d =>
    rw [hdecode] at hc
    cases hc
    rfl

theorem course_cache {value : Option k.Data} {out : Except Failure Unit}
    (h : (a.cache r value).Course i others w l events (.ended out) w' l') :
    events = [] ∧ out = .ok () ∧ l' = l.keep r a.name (value.map (.of k)) := by
  cases value with
  | some d =>
    obtain ⟨rfl, rfl, -, rfl⟩ := h.of_own.of_done
    exact ⟨rfl, rfl, rfl⟩
  | none =>
    obtain ⟨rfl, rfl, -, rfl⟩ := h.of_own.of_done
    exact ⟨rfl, rfl, rfl⟩

/-- Storage takes a value, or it refuses it and nothing is done. -/
theorem course_keep {value : Option k.Data} {out : Except Failure Unit}
    (h : (a.keep r value).Course i others w l events (.ended out) w' l') :
    l' = l ∧ ((∃ e, out = .error e ∧ ¬a.Written r events) ∨ out = .ok () ∧ a.Written r events) := by
  cases value with
  | some d =>
    obtain ⟨w₁, w₂, reply, rest, -, -, rfl, hnext⟩ := h.of_world
    obtain ⟨rfl, rfl, -, rfl⟩ := hnext.of_ofExcept
    cases reply with
    | ok u => exact ⟨rfl, .inr ⟨rfl, by simp [Event.target?, World.Action.target?]⟩⟩
    | error f => exact ⟨rfl, .inl ⟨_, rfl, by simp [Event.target?, World.Action.target?]⟩⟩
  | none =>
    rcases h.of_bind with ⟨y, before, w₁, l₁, after, hremove, hdone, rfl⟩ | ⟨e, hremove, rfl⟩
    · obtain ⟨rfl, rfl, -, rfl⟩ := hdone.of_done
      obtain ⟨w₂, w₃, reply, rest, -, -, rfl, hnext⟩ := hremove.of_world
      obtain ⟨rfl, hreply, -, rfl⟩ := hnext.of_ofExcept
      cases reply with
      | ok found => exact ⟨rfl, .inr ⟨rfl, by simp [Event.target?, World.Action.target?]⟩⟩
      | error f => cases hreply
    · obtain ⟨w₂, w₃, reply, rest, -, -, rfl, hnext⟩ := hremove.of_world
      obtain ⟨rfl, hreply, -, rfl⟩ := hnext.of_ofExcept
      cases reply with
      | ok found => cases hreply
      | error f => exact ⟨rfl, .inl ⟨_, rfl, by simp [Event.target?, World.Action.target?]⟩⟩

/-- A session write has come about, or nothing is done. -/
theorem course_writeDirectly {value : Option k.Data} {scope : Scope} {out : Except Failure Unit}
    (hscope : scope.session = true)
    (h : (a.writeDirectly r value scope).Course i others w l events (.ended out) w' l') :
    (∃ e, out = .error e) ∧ ¬a.Written r events ∧ l' = l ∨
      out = .ok () ∧ a.Written r events ∧ l' = l.wrote r a.name scope (value.map (.of k)) := by
  rw [writeDirectly, hscope, if_pos rfl] at h
  rcases h.of_bind with ⟨y, before, w₁, l₁, after, hkeep, hrest, rfl⟩ | ⟨e, hkeep, rfl⟩
  · obtain ⟨rfl, ⟨e, he, -⟩ | ⟨-, hwritten⟩⟩ := course_keep hkeep
    · cases he
    refine .inr ?_
    cases hrequest : scope.request with
    | true =>
      rw [hrequest] at hrest
      have hrest : (a.cache r value >>= fun _ => Routine.mark r a.name).Course i others w₁ l₁
        after (.ended out) w' l' := hrest
      rcases hrest.of_bind with ⟨u, e₁, w₂, l₂, e₂, hcache, hmark, rfl⟩ | ⟨e, hcache, rfl⟩
      · obtain ⟨rfl, -, rfl⟩ := course_cache hcache
        obtain ⟨rfl, rfl, -, rfl⟩ := hmark.of_own.of_done
        exact ⟨rfl, by simp [hwritten], by rw [Workspace.wrote, hrequest, if_pos rfl]; rfl⟩
      · cases (course_cache hcache).2.1
    | false =>
      rw [hrequest] at hrest
      obtain ⟨rfl, rfl, -, rfl⟩ := hrest.of_own.of_done
      exact ⟨rfl, by simp [hwritten], by rw [Workspace.wrote, hrequest, if_neg (by decide)]; rfl⟩
  · obtain ⟨rfl, ⟨_, -, hwritten⟩ | ⟨he, -⟩⟩ := course_keep hkeep
    · exact .inl ⟨⟨e, rfl⟩, hwritten, rfl⟩
    · cases he

theorem course_writeDirectly_request {value : Option k.Data} {scope : Scope}
    {out : Except Failure Unit} (hscope : scope.session = false)
    (h : (a.writeDirectly r value scope).Course i others w l events (.ended out) w' l') :
    out = .ok () ∧ events = [] ∧
      l' = if scope.request then l.keep r a.name (value.map (.of k)) else l := by
  rw [writeDirectly, hscope] at h
  cases hrequest : scope.request with
  | true =>
    rw [hrequest] at h
    have h : (a.cache r value >>= fun _ => .done ()).Course i others w l events (.ended out) w' l' :=
      h
    rcases h.of_bind with ⟨u, e₁, w₂, l₂, e₂, hcache, hdone, rfl⟩ | ⟨e, hcache, rfl⟩
    · obtain ⟨rfl, -, rfl⟩ := course_cache hcache
      obtain ⟨rfl, rfl, -, rfl⟩ := hdone.of_done
      exact ⟨rfl, rfl, rfl⟩
    · cases (course_cache hcache).2.1
  | false =>
    rw [hrequest] at h
    obtain ⟨rfl, rfl, -, rfl⟩ := h.of_done
    exact ⟨rfl, rfl, rfl⟩

/-- A commit has come about, cached, marked and recorded, or nothing is done. -/
theorem course_commit {d : DraftId} {value : Option k.Data} {out : Except Failure Unit}
    (h : (a.commit r d value).Course i others w l events (.ended out) w' l') :
    (∃ e, out = .error e) ∧ ¬a.Written r events ∧ l' = l ∨
      out = .ok () ∧ a.Written r events ∧ (l.draft d).closed = false ∧
        l' = (l.wrote r a.name .all (value.map (.of k))).record d (value.map (.of k)) := by
  have h : (if (l.draft d).closed then Routine.raise (.sectionClosed r.session a.name)
    else a.writeDirectly r value .all >>= fun _ => Routine.record d (value.map (.of k))).Course
      i others w l events (.ended out) w' l' := h.of_own
  split at h
  · obtain ⟨rfl, rfl, -, rfl⟩ := h.of_fail
    exact .inl ⟨⟨_, rfl⟩, written_nil, rfl⟩
  · rename_i hclosed
    rcases h.of_bind with ⟨u, before, w₁, l₁, after, hwrite, hrecord, rfl⟩ | ⟨e, hwrite, rfl⟩
    · obtain ⟨rfl, rfl, -, rfl⟩ := hrecord.of_own.of_done
      rcases course_writeDirectly rfl hwrite with ⟨⟨e, he⟩, -⟩ | ⟨-, hwritten, rfl⟩
      · cases he
      · exact .inr ⟨rfl, by simp [hwritten], by simpa using hclosed, rfl⟩
    · rcases course_writeDirectly rfl hwrite with ⟨-, hwritten, rfl⟩ | ⟨he, -⟩
      · exact .inl ⟨⟨e, rfl⟩, hwritten, rfl⟩
      · cases he

/-- A session write has come about, with the cache written if the scope includes it or an open
section takes the write, or nothing is done. -/
theorem course_write {value : Option k.Data} {scope : Scope} {out : Except Failure Unit}
    (hscope : scope.session = true)
    (h : (a.write r value scope).Course i others w l events (.ended out) w' l') :
    (∃ e, out = .error e) ∧ ¬a.Written r events ∧ l'.requests = l.requests ∨
      out = .ok () ∧ a.Written r events ∧ l'.requests =
        (l.wrote r a.name (if (l.openDraft? k r.session a.name).isSome then .all else scope)
          (value.map (.of k))).requests := by
  rw [write, hscope, if_pos rfl] at h
  replace h := h.of_own
  change _ ∨ out = .ok () ∧ a.Written r events ∧ l'.requests = (l.wrote r a.name
    (if (l.perform (.openDraft k r.session a.name)).1.isSome then _ else _) _).requests
  cases hopen : (l.perform (.openDraft k r.session a.name)).1 with
  | some d =>
    rw [hopen] at h
    rcases course_commit h with ⟨he, hwritten, rfl⟩ | ⟨rfl, hwritten, -, rfl⟩
    · exact .inl ⟨he, hwritten, rfl⟩
    · exact .inr ⟨rfl, hwritten, rfl⟩
  | none =>
    rw [hopen] at h
    rcases course_writeDirectly hscope h with ⟨he, hwritten, rfl⟩ | ⟨rfl, hwritten, rfl⟩
    · exact .inl ⟨he, hwritten, rfl⟩
    · exact .inr ⟨rfl, hwritten, rfl⟩

theorem course_write_request {value : Option k.Data} {scope : Scope} {out : Except Failure Unit}
    (hscope : scope.session = false)
    (h : (a.write r value scope).Course i others w l events (.ended out) w' l') :
    out = .ok () ∧ events = [] ∧
      l' = if scope.request then l.keep r a.name (value.map (.of k)) else l := by
  rw [write, hscope] at h
  exact course_writeDirectly_request hscope h

theorem written_write_iff {value : Option k.Data} {scope : Scope} {out : Except Failure Unit}
    (h : (a.write r value scope).Course i others w l events (.ended out) w' l') :
    a.Written r events ↔ scope.session = true ∧ out = .ok () := by
  cases hscope : scope.session with
  | true =>
    rcases course_write hscope h with ⟨⟨e, rfl⟩, hevents, -⟩ | ⟨rfl, hevents, -⟩
    · simp [hevents]
    · simp [hevents]
  | false =>
    obtain ⟨-, rfl, -⟩ := course_write_request hscope h
    simp

theorem course_getStored {out : Except Failure (Option Value)}
    (h : (Routine.getStored a.store r.session a.name).Course i others w l events (.ended out) w'
      l') : (∀ e ∈ events, e.action = .get a.store r.session a.name) ∧ l' = l := by
  obtain ⟨w₁, w₂, reply, rest, -, -, rfl, hnext⟩ := h.of_world
  obtain ⟨rfl, -, -, rfl⟩ := hnext.of_ofExcept
  exact ⟨by simp, rfl⟩

theorem course_stored {out : Except Failure (Option k.Data)}
    (h : (a.stored r).Course i others w l events (.ended out) w' l') :
    (∀ e ∈ events, e.action = .get a.store r.session a.name) ∧ l' = l := by
  rcases h.of_bind with ⟨value, before, w₁, l₁, after, hgot, htyped, rfl⟩ | ⟨e, hgot, rfl⟩
  · rw [typed_eq] at htyped
    obtain ⟨rfl, -, -, rfl⟩ := htyped.of_ofExcept
    rw [List.append_nil]
    exact course_getStored hgot
  · exact course_getStored hgot

theorem course_look {policy : ReadPolicy} {cached : Option k.Data}
    {out : Except Failure (Option k.Data)}
    (h : (look (a := a) r policy cached).Course i others w l events (.ended out) w' l') :
    (∀ e ∈ events, e.action = .get a.store r.session a.name) ∧ l' = l ∧
      ∀ c, cached = some c → out ≠ .ok none ∧
        (policy = .requestFirst → events = [] ∧ w' = w ∧ out = .ok (some c)) := by
  cases policy with
  | requestFirst =>
    cases cached with
    | some d =>
      obtain ⟨rfl, rfl, rfl, rfl⟩ := h.of_done
      refine ⟨by simp, rfl, fun c hc => ?_⟩
      cases hc
      exact ⟨by simp, fun _ => ⟨rfl, rfl, rfl⟩⟩
    | none =>
      obtain ⟨hget, hl'⟩ := course_stored h
      exact ⟨hget, hl', fun c hc => by cases hc⟩
  | sessionFirst =>
    rcases h.of_bind with ⟨found, before, w₁, l₁, after, hfound, hdone, rfl⟩ | ⟨e, hfound, rfl⟩
    · obtain ⟨hget, hl₁⟩ := course_stored hfound
      obtain ⟨rfl, rfl, -, rfl⟩ := hdone.of_done
      rw [List.append_nil]
      refine ⟨hget, hl₁, fun c hc => ⟨?_, fun hp => by cases hp⟩⟩
      rw [hc]
      cases found <;> simp
    · obtain ⟨hget, hl'⟩ := course_stored hfound
      exact ⟨hget, hl', fun c _ => ⟨by simp, fun hp => by cases hp⟩⟩

/-- What was found is cached where it is wanted and nothing is cached. -/
theorem course_settle {creating : Bool} {scope : Scope} {cached : Option k.Data} {d : k.Data}
    {out : Except Failure (Option k.Data)}
    (h : (a.settle r creating scope cached (some d)).Course i others w l events (.ended out) w' l') :
    events = [] ∧ out = .ok (some d) ∧
      l' = if cached.isNone && scope.request then l.keep r a.name (some (.of k d)) else l := by
  rw [settle] at h
  split at h
  · rename_i hwanted
    rcases h.of_bind with ⟨u, before, w₁, l₁, after, hcache, hdone, rfl⟩ | ⟨e, hcache, rfl⟩
    · obtain ⟨rfl, -, rfl⟩ := course_cache hcache
      obtain ⟨rfl, rfl, -, rfl⟩ := hdone.of_done
      exact ⟨rfl, rfl, by rw [if_pos hwanted]; rfl⟩
    · cases (course_cache hcache).2.1
  · rename_i hwanted
    obtain ⟨rfl, rfl, -, rfl⟩ := h.of_done
    exact ⟨rfl, rfl, by rw [if_neg hwanted]⟩

/-- **Reads that create nothing.** Only storage is read, and nothing changes but that a value may
be cached that was found and that nothing was cached of. -/
theorem course_find {policy : ReadPolicy} {scope : Scope} {out : Except Failure (Option k.Data)}
    (h : (a.read r policy false scope).Course i others w l events (.ended out) w' l') :
    (∀ e ∈ events, e.action = .get a.store r.session a.name) ∧ (l' = l ∨ ∃ d, out = .ok (some d) ∧
      scope.request = true ∧ (l.request r.id).get? a.name = none ∧
        l' = l.editRequest r.id (·.set a.name (.of k d))) := by
  rw [read_eq] at h
  rcases h.of_bind with ⟨c, before, w₁, l₁, after, hcached, hrest, rfl⟩ | ⟨e, hcached, rfl⟩
  · obtain ⟨rfl, rfl, rfl, hc⟩ := course_cached hcached
    rcases hrest.of_bind with ⟨found, e₁, w₂, l₂, e₂, hlook, hsettle, rfl⟩ | ⟨e, hlook, rfl⟩
    · obtain ⟨hget, rfl, -⟩ := course_look hlook
      cases found with
      | none =>
        obtain ⟨rfl, -, -, rfl⟩ := hsettle.of_done
        exact ⟨by simpa using hget, .inl rfl⟩
      | some d =>
        obtain ⟨rfl, rfl, rfl⟩ := course_settle hsettle
        refine ⟨by simpa using hget, ?_⟩
        split
        · rename_i hwanted
          rw [Bool.and_eq_true, Option.isNone_iff_eq_none] at hwanted
          obtain ⟨rfl, hrequest⟩ := hwanted
          exact .inr ⟨d, rfl, hrequest, Kind.decode_eq_none (hc none rfl), rfl⟩
        · exact .inl rfl
    · obtain ⟨hget, rfl, -⟩ := course_look hlook
      exact ⟨hget, .inl rfl⟩
  · obtain ⟨rfl, -, rfl, -⟩ := course_cached hcached
    exact ⟨by simp, .inl rfl⟩

end Courses

end Attribute

end SessionCart
