import SessionCart.Proofs.Thread.Taken

/-!
# Dealings of a request with an attribute

However an operation on an attribute goes, for a request, it marks that attribute of that request
as changed if storage has taken a write, and marks nothing else. It touches cached values only of
that attribute of that request, and only if storage has taken a write or it is free to touch them.
-/

namespace SessionCart

namespace Workspace

variable {l l' : Workspace} {r : RequestRef}

theorem get?_keep (hr : r.id < l.requests.length) (name : String) (value : Option Value)
    (other : String) : ((l.keep r name value).request r.id).get? other =
      if name = other then value else (l.request r.id).get? other := by
  cases value <;> simp [keep, request_editRequest hr]

theorem isChanged_keep (hr : r.id < l.requests.length) (name : String) (value : Option Value)
    (id : RequestId) (other : String) : ((l.keep r name value).request id).isChanged other =
      (l.request id).isChanged other := by
  by_cases hid : id = r.id
  · subst hid
    cases value <;> rw [keep, request_editRequest hr] <;> rfl
  · obtain ⟨f, hf⟩ := l.exists_keep r name value
    rw [hf, request_editRequest_ne hid]

@[simp]
theorem length_keep (l : Workspace) (r : RequestRef) (name : String) (value : Option Value) :
    (l.keep r name value).requests.length = l.requests.length := by
  obtain ⟨f, hf⟩ := l.exists_keep r name value
  rw [hf, length_editRequest]

@[simp]
theorem length_wrote (l : Workspace) (r : RequestRef) (name : String) (scope : Scope)
    (value : Option Value) : (l.wrote r name scope value).requests.length = l.requests.length := by
  obtain ⟨f, hf⟩ := l.exists_wrote r name scope value
  rw [hf, length_editRequest]

theorem get?_wrote (hr : r.id < l.requests.length) (name : String) (scope : Scope)
    (value : Option Value) (other : String) :
    ((l.wrote r name scope value).request r.id).get? other =
      if scope.request = true ∧ name = other then value else (l.request r.id).get? other := by
  cases hscope : scope.request with
  | true =>
    rw [wrote, hscope, if_pos rfl, request_editRequest (by simpa using hr),
      Request.get?_markChanged, get?_keep hr]
    simp
  | false =>
    rw [wrote, hscope, if_neg (by decide), request_editRequest hr, Request.get?_markChanged]
    simp

theorem isChanged_wrote (hr : r.id < l.requests.length) (name : String) (scope : Scope)
    (value : Option Value) (other : String) :
    ((l.wrote r name scope value).request r.id).isChanged other =
      (other == name || (l.request r.id).isChanged other) := by
  rw [wrote]
  split
  · rw [request_editRequest (by simpa using hr), Request.isChanged_markChanged,
      isChanged_keep hr]
  · rw [request_editRequest hr, Request.isChanged_markChanged]

end Workspace

namespace Attribute

variable {k : Kind}

/-- What becomes of the requests of a thread in dealings of a request with an attribute. -/
structure Dealing (a : Attribute k) (r : RequestRef) (free : String → Prop) (events : List Event)
    (l l' : Workspace) : Prop where
  length_eq : l'.requests.length = l.requests.length
  changed_iff : ∀ id name, (l'.request id).isChanged name = true ↔
    (l.request id).isChanged name = true ∨ id = r.id ∧ name = a.name ∧ a.Written r events
  kept : ∀ id name v, (l.request id).get? name = some v →
    (l'.request id).get? name = some v ∨
      id = r.id ∧ (free name ∨ name = a.name ∧ a.Written r events)

variable {a : Attribute k} {r : RequestRef} {free : String → Prop} {events : List Event}
  {l l' l'' : Workspace}

namespace Dealing

theorem same (hevents : ¬a.Written r events) (h : l'.requests = l.requests) :
    a.Dealing r free events l l' := by
  refine ⟨by rw [h], fun id name => ?_, fun id name v hv => .inl ?_⟩
  · rw [Workspace.request_congr h]
    simp [hevents]
  · rwa [Workspace.request_congr h]

theorem trans {before after : List Event} (h : a.Dealing r free before l l')
    (h' : a.Dealing r free after l' l'') : a.Dealing r free (before ++ after) l l'' := by
  refine ⟨h'.length_eq.trans h.length_eq, fun id name => ?_, fun id name v hv => ?_⟩
  · rw [h'.changed_iff, h.changed_iff, written_append]
    tauto
  · rw [written_append]
    rcases h.kept id name v hv with hv | hfree
    · rcases h'.kept id name v hv with hv | hfree
      · exact .inl hv
      · exact .inr ⟨hfree.1, hfree.2.imp_right fun h => ⟨h.1, .inr h.2⟩⟩
    · exact .inr ⟨hfree.1, hfree.2.imp_right fun h => ⟨h.1, .inl h.2⟩⟩

theorem congr (h : a.Dealing r free events l l') (hl : l''.requests = l'.requests) :
    a.Dealing r free events l l'' := by
  have hlater := h.trans (same written_nil hl)
  rwa [List.append_nil] at hlater

theorem mono {free' : String → Prop} (h : a.Dealing r free events l l')
    (hfree : ∀ name, free name → free' name) : a.Dealing r free' events l l' :=
  ⟨h.length_eq, h.changed_iff, fun id name v hv =>
    (h.kept id name v hv).imp_right fun h => ⟨h.1, h.2.imp_left (hfree name)⟩⟩

/-- Dealings that are free to touch what is cached of the attribute, and have written it. -/
theorem of_written (h : a.Dealing r (fun name => name = a.name ∨ free name) events l l')
    (hwritten : a.Written r events) : a.Dealing r free events l l' := by
  refine ⟨h.length_eq, h.changed_iff, fun id name v hv => (h.kept id name v hv).imp_right ?_⟩
  rintro ⟨hid, (hname | hfree) | hname⟩
  · exact ⟨hid, .inr ⟨hname, hwritten⟩⟩
  · exact ⟨hid, .inl hfree⟩
  · exact ⟨hid, .inr hname⟩

theorem keep (hr : r.id < l.requests.length) {name : String} (value : Option Value)
    (h : free name ∨ (l.request r.id).get? name = none) :
    a.Dealing r free [] l (l.keep r name value) := by
  refine ⟨l.length_keep r name value, fun id other => ?_, fun id other v hv => ?_⟩
  · rw [Workspace.isChanged_keep hr]
    simp
  · by_cases hid : id = r.id
    · subst hid
      rw [Workspace.get?_keep hr]
      by_cases hname : name = other
      · subst hname
        rcases h with hfree | hnone
        · exact .inr ⟨rfl, .inl hfree⟩
        · rw [hnone] at hv
          cases hv
      · rw [if_neg hname]
        exact .inl hv
    · obtain ⟨f, hf⟩ := l.exists_keep r name value
      rw [hf, Workspace.request_editRequest_ne hid]
      exact .inl hv

theorem filled (hr : r.id < l.requests.length) (hnone : (l.request r.id).get? a.name = none)
    (wanted : Prop) [Decidable wanted] (value : Option Value) :
    a.Dealing r free [] l (if wanted then l.keep r a.name value else l) := by
  split
  · exact .keep hr value (.inr hnone)
  · exact .same written_nil rfl

theorem wrote (hr : r.id < l.requests.length) (hevents : a.Written r events) (scope : Scope)
    (value : Option Value) : a.Dealing r free events l (l.wrote r a.name scope value) := by
  obtain ⟨f, hf⟩ := l.exists_wrote r a.name scope value
  refine ⟨l.length_wrote r a.name scope value, fun id other => ?_, fun id other v hv => ?_⟩
  · by_cases hid : id = r.id
    · subst hid
      rw [Workspace.isChanged_wrote hr]
      simp only [Bool.or_eq_true, beq_iff_eq, true_and, hevents, and_true]
      exact or_comm
    · rw [hf, Workspace.request_editRequest_ne hid]
      simp [hid]
  · by_cases hid : id = r.id
    · subst hid
      rw [Workspace.get?_wrote hr]
      by_cases hname : a.name = other
      · exact .inr ⟨rfl, .inr ⟨hname.symm, hevents⟩⟩
      · rw [if_neg fun h => hname h.2]
        exact .inl hv
    · rw [hf, Workspace.request_editRequest_ne hid]
      exact .inl hv

end Dealing

/-! ### Routines that deal with an attribute -/

/-- However the routine goes, it deals with the attribute for the request. -/
def Deals (a : Attribute k) (r : RequestRef) (free : String → Prop) {α : Type} (x : Routine α) :
    Prop :=
  ∀ ⦃i others w l events out w' l'⦄, x.Course i others w l events (.ended out) w' l' →
    r.id < l.requests.length → a.Dealing r free events l l'

theorem Idle.deals {α : Type} {x : Routine α} (hx : a.Idle r x) : a.Deals r free x :=
  fun _ _ _ _ _ _ _ _ h _ => .same (hx h).1 (hx h).2

namespace Deals

variable {α β : Type}

theorem bind {x : Routine α} {f : α → Routine β} (hx : a.Deals r free x)
    (hf : ∀ y, a.Deals r free (f y)) : a.Deals r free (x >>= f) := by
  intro i others w l events out w' l' h hr
  rcases h.of_bind with ⟨y, before, w₁, l₁, after, h₁, h₂, rfl⟩ | ⟨e, h₁, rfl⟩
  · have hfirst := hx h₁ hr
    exact hfirst.trans (hf y h₂ (hfirst.length_eq ▸ hr))
  · exact hx h₁ hr

theorem ensuring {cleanup : Routine Unit} {x : Routine α} (hx : a.Deals r free x)
    (hcleanup : a.Idle r cleanup) : a.Deals r free (Routine.ensuring cleanup x) := by
  intro i others w l events out w' l' h hr
  obtain ⟨first, before, w₁, l₁, last, after, h₁, h₂, rfl, -⟩ := h.of_ensuring
  exact (hx h₁ hr).trans (.same (hcleanup h₂).1 (hcleanup h₂).2)

/-- A write to the cache alone is free to touch the cached value. -/
theorem write {value : Option k.Data} {scope : Scope}
    (hfree : scope.session = false → scope.request = true → free a.name) :
    a.Deals r free (a.write r value scope) := by
  intro i others w l events out w' l' h hr
  cases hscope : scope.session with
  | true =>
    rcases course_write hscope h with ⟨-, hevents, hl⟩ | ⟨-, hevents, hl⟩
    · exact .same hevents hl
    · exact (Dealing.wrote hr hevents _ _).congr hl
  | false =>
    obtain ⟨-, rfl, rfl⟩ := course_write_request hscope h
    split
    · rename_i hrequest
      exact .keep hr _ (.inl (hfree hscope hrequest))
    · exact .same written_nil rfl

theorem commit (d : DraftId) (value : Option k.Data) : a.Deals r free (a.commit r d value) := by
  intro i others w l events out w' l' h hr
  rcases course_commit h with ⟨-, hevents, rfl⟩ | ⟨-, hevents, -, rfl⟩
  · exact .same hevents rfl
  · exact (Dealing.wrote hr hevents _ _).congr rfl

end Deals

/-! ### Reads -/

section Reads

variable {i : ThreadId} {others : World → World → Prop} {w w' : World}

/-- What a read comes to that makes a value at need, where nothing is cached. -/
structure Supplied (a : Attribute k) (r : RequestRef) (scope : Scope) (events : List Event)
    (l l' : Workspace) (out : Except Failure (k.Data × Bool)) : Prop where
  dealing : ∀ free, a.Dealing r free events l l'
  written : a.Written r events → scope.session = true
  found : ∀ d, out = .ok (d, false) → ¬a.Written r events ∧ l'.requests = l.requests
  made : ∀ d, out = .ok (d, true) → scope.request = true →
    (l'.request r.id).get? a.name = some (.of k d)

theorem Supplied.same {scope : Scope} {out : Except Failure (k.Data × Bool)}
    (hevents : ¬a.Written r events) (h : l'.requests = l.requests)
    (hout : ∀ d, out ≠ .ok (d, true)) : a.Supplied r scope events l l' out :=
  ⟨fun _ => .same hevents h, fun hw => absurd hw hevents, fun _ _ => ⟨hevents, h⟩,
    fun d hd => absurd hd (hout d)⟩

theorem Supplied.around {scope : Scope} {out : Except Failure (k.Data × Bool)}
    {before after : List Event} {l₁ l₂ : Workspace} (hbefore : ¬a.Written r before)
    (hl₁ : l₁.requests = l.requests) (h : a.Supplied r scope events l₁ l₂ out)
    (hafter : ¬a.Written r after) (hl' : l'.requests = l₂.requests) :
    a.Supplied r scope (before ++ (events ++ after)) l l' out := by
  refine ⟨fun free => ?_, fun hw => ?_, fun d hd => ?_, fun d hd hq => ?_⟩
  · exact (Dealing.same hbefore hl₁).trans ((h.dealing free).trans (.same hafter hl'))
  · rw [written_append, written_append] at hw
    exact h.written ((hw.resolve_left hbefore).resolve_right hafter)
  · obtain ⟨hevents, hl₂⟩ := h.found d hd
    exact ⟨by simp [hbefore, hevents, hafter], (hl'.trans hl₂).trans hl₁⟩
  · rw [Workspace.request_congr hl']
    exact h.made d hd hq

theorem course_supply_new {scope : Scope} {d : k.Data} {out : Except Failure (k.Data × Bool)}
    (hr : r.id < l.requests.length) (hnone : (l.request r.id).get? a.name = none)
    (h : (a.write r (some d) scope >>= fun _ => .done (d, true)).Course i others w l events
      (.ended out) w' l') : a.Supplied r scope events l l' out := by
  rcases h.of_bind with ⟨u, before, w₁, l₁, after, hwrite, hdone, rfl⟩ | ⟨e, hwrite, rfl⟩
  · obtain ⟨rfl, rfl, -, rfl⟩ := hdone.of_done
    rw [List.append_nil]
    cases hscope : scope.session with
    | true =>
      rcases course_write hscope hwrite with ⟨⟨e, he⟩, -⟩ | ⟨-, hbefore, hl'⟩
      · cases he
      refine ⟨fun free => (Dealing.wrote hr hbefore _ _).congr hl', fun _ => hscope,
        fun d' hd' => by simp at hd', fun d' hd' hq => ?_⟩
      simp only [Except.ok.injEq, Prod.mk.injEq, and_true] at hd'
      rw [Workspace.request_congr hl', Workspace.get?_wrote hr, if_pos, ← hd']
      · rfl
      · split
        · exact ⟨rfl, rfl⟩
        · exact ⟨hq, rfl⟩
    | false =>
      obtain ⟨-, rfl, rfl⟩ := course_write_request hscope hwrite
      refine ⟨fun free => .filled hr hnone _ _, fun hw => absurd hw written_nil,
        fun d' hd' => by simp at hd', fun d' hd' hq => ?_⟩
      simp only [Except.ok.injEq, Prod.mk.injEq, and_true] at hd'
      rw [if_pos hq, Workspace.get?_keep hr, if_pos rfl, ← hd']
      rfl
  · cases hscope : scope.session with
    | true =>
      rcases course_write hscope hwrite with ⟨-, hevents, hl'⟩ | ⟨he, -⟩
      · exact .same hevents hl' fun d => by simp
      · cases he
    | false => cases (course_write_request hscope hwrite).1

/-- Storage has taken the new value, or there was none to take. -/
theorem course_supply {scope : Scope} {out : Except Failure (k.Data × Bool)}
    (hr : r.id < l.requests.length) (hnone : (l.request r.id).get? a.name = none)
    (h : (a.supply r scope).Course i others w l events (.ended out) w' l') :
    a.Supplied r scope events l l' out := by
  rcases h.of_bind with ⟨found, before, w₁, l₁, after, hstored, hrest, rfl⟩ | ⟨e, hstored, rfl⟩
  case inr =>
    obtain ⟨hevents, hl'⟩ := Idle.stored (a := a) (r := r) hstored
    exact .same hevents hl' fun d => by simp
  obtain ⟨hbefore, hl₁⟩ := Idle.stored (a := a) (r := r) hstored
  cases found with
  | some d =>
    obtain ⟨rfl, rfl, -, rfl⟩ := hrest.of_done
    exact .same (by simpa using hbefore) hl₁ fun d => by simp
  | none =>
    rcases hrest.of_bind with ⟨d, e₁, w₂, l₂, e₂, hcreate, hnew, rfl⟩ | ⟨e, hcreate, rfl⟩
    · obtain ⟨he₁, hl₂⟩ := Idle.create (a := a) (r := r) hcreate
      have hsame : l₂.requests = l.requests := hl₂.trans hl₁
      have hsupplied := course_supply_new (by rwa [hsame])
        (by rwa [Workspace.request_congr hsame]) hnew
      have hevents : ¬a.Written r (before ++ e₁) := by simp [hbefore, he₁]
      simpa [List.append_assoc] using hsupplied.around hevents hsame written_nil rfl
    · obtain ⟨hevents, hl'⟩ := Idle.create (a := a) (r := r) hcreate
      exact .same (by simp [hbefore, hevents]) (hl'.trans hl₁) fun d => by simp

theorem course_createOnce {scope : Scope} {out : Except Failure (k.Data × Bool)}
    (hr : r.id < l.requests.length) (hnone : (l.request r.id).get? a.name = none)
    (h : (a.createOnce r scope).Course i others w l events (.ended out) w' l') :
    a.Supplied r scope events l l' out := by
  rw [createOnce_eq] at h
  rcases h.of_bind with ⟨hold, before, w₁, l₁, rest, hhold, hrest, rfl⟩ | ⟨e, hhold, rfl⟩
  · obtain ⟨hbefore, hl₁⟩ := Idle.acquire (a := a) (r := r) _ _ _ hhold
    obtain ⟨first, e₁, w₂, l₂, last, e₂, hsupply, hdrop, rfl, rfl⟩ := hrest.of_ensuring
    obtain ⟨hafter, hl'⟩ := Idle.drop (a := a) (r := r) hold hdrop
    have hsupplied := course_supply (hl₁ ▸ hr) (by rwa [Workspace.request_congr hl₁]) hsupply
    have haround := hsupplied.around hbefore hl₁ hafter hl'
    cases last with
    | ok u => exact haround
    | error e =>
      refine ⟨haround.dealing, haround.written, fun d hd => ?_, fun d hd => ?_⟩
      all_goals cases hd
  · obtain ⟨hevents, hl'⟩ := Idle.acquire (a := a) (r := r) _ _ _ hhold
    exact .same hevents hl' fun d => by simp

/-- What a read comes to. -/
structure Looked (a : Attribute k) (r : RequestRef) (policy : ReadPolicy) (creating : Bool)
    (scope : Scope) (events : List Event) (l l' : Workspace) (out : Except Failure (Option k.Data)) :
    Prop where
  dealing : ∀ free, a.Dealing r free events l l'
  written : a.Written r events → creating = true ∧ scope.session = true
  /-- Where a value is cached, nothing is written anywhere. -/
  idle : ∀ v, (l.request r.id).get? a.name = some v →
    ¬a.Written r events ∧ l'.requests = l.requests
  /-- What is read from the cache first is cached from then on. -/
  snapshot : policy = .requestFirst → scope.request = true → ∀ d, out = .ok (some d) →
    (l'.request r.id).get? a.name = some (.of k d)

theorem Looked.same {policy : ReadPolicy} {creating : Bool} {scope : Scope}
    {out : Except Failure (Option k.Data)} (hevents : ¬a.Written r events)
    (h : l'.requests = l.requests) (hout : ∀ d, out ≠ .ok (some d)) :
    a.Looked r policy creating scope events l l' out :=
  ⟨fun _ => .same hevents h, fun hw => absurd hw hevents, fun _ _ => ⟨hevents, h⟩,
    fun _ _ d hd => absurd hd (hout d)⟩

theorem Looked.after {policy : ReadPolicy} {creating : Bool} {scope : Scope}
    {out : Except Failure (Option k.Data)} {before : List Event} {l₁ : Workspace}
    (hbefore : ¬a.Written r before) (hl₁ : l₁.requests = l.requests)
    (h : a.Looked r policy creating scope events l₁ l' out) :
    a.Looked r policy creating scope (before ++ events) l l' out := by
  refine ⟨fun free => ?_, fun hw => ?_, fun v hv => ?_, h.snapshot⟩
  · exact (Dealing.same hbefore hl₁).trans (h.dealing free)
  · exact h.written ((written_append.mp hw).resolve_left hbefore)
  · obtain ⟨hevents, hl'⟩ := h.idle v (by rwa [Workspace.request_congr hl₁])
    exact ⟨by simp [hbefore, hevents], hl'.trans hl₁⟩

theorem course_settle_found {policy : ReadPolicy} {creating : Bool} {scope : Scope} {d : k.Data}
    {out : Except Failure (Option k.Data)} (hr : r.id < l.requests.length)
    (hnone : (l.request r.id).get? a.name = none)
    (h : (a.settle r creating scope none (some d)).Course i others w l events (.ended out) w' l') :
    a.Looked r policy creating scope events l l' out := by
  obtain ⟨rfl, rfl, rfl⟩ := course_settle h
  refine ⟨fun free => .filled hr hnone _ _, fun hw => absurd hw written_nil, fun v hv => ?_,
    fun _ hq d' hd' => ?_⟩
  · rw [hnone] at hv
    cases hv
  · cases hd'
    have hwanted : ((none : Option k.Data).isNone && scope.request) = true := by simp [hq]
    rw [if_pos hwanted, Workspace.get?_keep hr, if_pos rfl]

theorem course_settle_none {policy : ReadPolicy} {creating : Bool} {scope : Scope}
    {out : Except Failure (Option k.Data)} {cached : Option k.Data} (hr : r.id < l.requests.length)
    (hnone : (l.request r.id).get? a.name = none)
    (h : (a.settle r creating scope cached none).Course i others w l events (.ended out) w' l') :
    a.Looked r policy creating scope events l l' out := by
  have hcontra : ∀ v, (l.request r.id).get? a.name = some v →
      ¬a.Written r events ∧ l'.requests = l.requests := by
    intro v hv
    rw [hnone] at hv
    cases hv
  rw [settle] at h
  split at h
  case isFalse =>
    obtain ⟨rfl, rfl, -, rfl⟩ := h.of_done
    exact .same written_nil rfl fun d => by simp
  rename_i hcreating
  rcases h.of_bind with ⟨⟨d, isNew⟩, before, w₁, l₁, after, hcreate, hrest, rfl⟩ | ⟨e, hcreate, rfl⟩
  case inr =>
    have hsupplied := course_createOnce hr hnone hcreate
    exact ⟨hsupplied.dealing, fun hw => ⟨hcreating, hsupplied.written hw⟩, hcontra,
      fun _ _ d hd => by cases hd⟩
  have hsupplied := course_createOnce hr hnone hcreate
  cases isNew with
  | true =>
    obtain ⟨rfl, rfl, -, rfl⟩ := hrest.of_done
    rw [List.append_nil] at hcontra ⊢
    refine ⟨hsupplied.dealing, fun hw => ⟨hcreating, hsupplied.written hw⟩, hcontra,
      fun _ hq d' hd' => ?_⟩
    cases hd'
    exact hsupplied.made d rfl hq
  | false =>
    obtain ⟨hbefore, hl₁⟩ := hsupplied.found d rfl
    have hlooked : a.Looked r policy creating scope after l₁ l' out :=
      course_settle_found (hl₁ ▸ hr) (by rwa [Workspace.request_congr hl₁]) hrest
    exact hlooked.after hbefore hl₁

theorem course_read {policy : ReadPolicy} {creating : Bool} {scope : Scope}
    {out : Except Failure (Option k.Data)} (hr : r.id < l.requests.length)
    (h : (a.read r policy creating scope).Course i others w l events (.ended out) w' l') :
    a.Looked r policy creating scope events l l' out := by
  rw [read_eq] at h
  rcases h.of_bind with ⟨c, before, w₁, l₁, after, hcached, hrest, rfl⟩ | ⟨e, hcached, rfl⟩
  case inr =>
    obtain ⟨rfl, -, rfl, -⟩ := course_cached hcached
    exact .same written_nil rfl fun d => by simp
  obtain ⟨rfl, -, rfl, hc⟩ := course_cached hcached
  have hdecode := hc c rfl
  rw [List.nil_append]
  rcases hrest.of_bind with ⟨found, e₁, w₂, l₂, e₂, hlook, hsettle, rfl⟩ | ⟨e, hlook, rfl⟩
  case inr =>
    obtain ⟨hevents, hl'⟩ := Idle.look (a := a) (r := r) policy c hlook
    exact .same hevents hl' fun d => by simp
  have hidle := (Idle.look (a := a) (r := r) policy c hlook).1
  obtain ⟨-, rfl, hcase⟩ := course_look hlook
  cases c with
  | none =>
    have hnone := Kind.decode_eq_none hdecode
    cases found with
    | none => exact (course_settle_none hr hnone hsettle).after hidle rfl
    | some d => exact (course_settle_found hr hnone hsettle).after hidle rfl
  | some c =>
    obtain ⟨hfound, hfirst⟩ := hcase c rfl
    cases found with
    | none => exact absurd rfl hfound
    | some d =>
      obtain ⟨rfl, rfl, rfl⟩ := course_settle hsettle
      rw [List.append_nil]
      refine ⟨fun _ => .same hidle rfl, fun hw => absurd hw hidle, fun _ _ => ⟨hidle, rfl⟩,
        fun hp _ d' hd' => ?_⟩
      obtain ⟨-, -, heq⟩ := hfirst hp
      cases heq
      cases hd'
      exact Kind.decode_eq_some hdecode

theorem typed_of (a : Attribute k) (r : RequestRef) (d : k.Data) :
    a.typed r (some (.of k d)) = .done (some d) := by
  rw [typed, Value.as?_of]
  rfl

/-- Where a value is cached, it is read again without a look at storage. -/
theorem read_of_cached {creating : Bool} {scope : Scope} {d : k.Data}
    (h : (l.request r.id).get? a.name = some (.of k d)) (patient : Bool) :
    (a.read r .requestFirst creating scope).run patient i w l = .finished (.ok (some d)) w l := by
  rw [read_eq]
  change (a.typed r ((l.request r.id).get? a.name) >>= _).run patient i w l = _
  rw [h, typed_of]
  rfl

theorem course_read_of_cached {creating : Bool} {scope : Scope} {d : k.Data}
    {out : Except Failure (Option k.Data)} (hcached : (l.request r.id).get? a.name = some (.of k d))
    (h : (a.read r .requestFirst creating scope).Course i others w l events (.ended out) w' l') :
    out = .ok (some d) ∧ events = [] ∧ w' = w ∧ l' = l := by
  rw [read_eq] at h
  replace h := h.of_own
  change (a.typed r ((l.request r.id).get? a.name) >>= _ : Routine (Option k.Data)).Course i others w
    l events (.ended out) w' l' at h
  rw [hcached, typed_of] at h
  obtain ⟨rfl, rfl, rfl, rfl⟩ := h.of_done
  exact ⟨rfl, rfl, rfl, rfl⟩

theorem Deals.read (policy : ReadPolicy) (creating : Bool) (scope : Scope) :
    a.Deals r free (a.read r policy creating scope) :=
  fun _ _ _ _ _ _ _ _ h hr => (course_read hr h).dealing free

end Reads

end Attribute

/-! ### Sections -/

namespace Section

open Attribute

variable {k : Kind} {a : Attribute k} {r : RequestRef} {s : Section k}

theorem idle_copy (s : Section k) : a.Idle r s.copy := by
  refine .bind (.own fun _ => rfl) fun _ => .bind (.own fun _ => rfl) fun draft => ?_
  cases draft.current.bind (·.as? k) with
  | some d => exact .done d
  | none => exact .create

theorem idle_discard (s : Section k) : a.Idle r s.discard := .own fun _ => rfl

theorem idle_finish (s : Section k) : a.Idle r s.finish := by
  rw [finish]
  cases s.hold with
  | none => exact .done false
  | some hold =>
    refine .bind (.own fun _ => rfl) fun draft => ?_
    split
    · exact .done false
    · refine .bind (.own fun l => ?_) fun _ => .bind (.drop hold) fun _ => .done _
      rw [Workspace.perform]
      dsimp only
      split <;> rfl

theorem idle_close (s : Section k) : a.Idle r s.close := by
  refine .bind (idle_finish s) fun abandoned => ?_
  cases abandoned with
  | true => exact .fail _
  | false => exact .done ()

theorem idle_drop (s : Section k) : a.Idle r s.drop := .bind (idle_finish s) fun _ => .done ()

theorem deals_commit {free : String → Prop} (s : Section k) (value : k.Data) :
    s.subject.Deals s.request free (s.commit value) :=
  .bind (.commit s.draft (some value)) fun _ => (Idle.done value).deals

/-- What opening a section comes to. -/
structure Opened (a : Attribute k) (r : RequestRef) (events : List Event) (l l' : Workspace)
    (out : Except Failure (Section k)) : Prop where
  dealing : ∀ free, a.Dealing r free events l l'
  unwritten : ¬a.Written r events
  bound : ∀ s, out = .ok s → s.subject = a ∧ s.request = r

section Start

variable {i : ThreadId} {others : World → World → Prop} {w w' : World} {l l' : Workspace}
  {events : List Event}

theorem course_commit {s : Section k} {value : k.Data} {out : Except Failure k.Data}
    (h : (s.commit value).Course i others w l events (.ended out) w' l') :
    (∃ e, out = .error e) ∧ ¬s.subject.Written s.request events ∧ l' = l ∨
      out = .ok value ∧ s.subject.Written s.request events ∧ (l.draft s.draft).closed = false ∧
        l' = (l.wrote s.request s.subject.name .all (some (.of k value))).record s.draft
          (some (.of k value)) := by
  rcases h.of_bind with ⟨u, before, w₁, l₁, after, hcommit, hdone, rfl⟩ | ⟨e, hcommit, rfl⟩
  · obtain ⟨rfl, rfl, -, rfl⟩ := hdone.of_done
    rcases Attribute.course_commit hcommit with ⟨⟨e, he⟩, -⟩ | ⟨-, hevents, hopen, hl⟩
    · cases he
    · exact .inr ⟨rfl, by simp [hevents], hopen, hl⟩
  · rcases Attribute.course_commit hcommit with ⟨-, hevents, hl⟩ | ⟨he, -⟩
    · exact .inl ⟨⟨e, rfl⟩, hevents, hl⟩
    · cases he

theorem written_commit_iff {s : Section k} {value : k.Data} {out : Except Failure k.Data}
    (h : (s.commit value).Course i others w l events (.ended out) w' l') :
    s.subject.Written s.request events ↔ ∃ value, out = .ok value := by
  rcases course_commit h with ⟨⟨e, rfl⟩, hevents, -⟩ | ⟨rfl, hevents, -⟩ <;> simp [hevents]

theorem course_pick {out : Except Failure k.Data} (hr : r.id < l.requests.length)
    (h : (a.pick r).Course i others w l events (.ended out) w' l') :
    (∀ free, a.Dealing r free events l l') ∧ ¬a.Written r events := by
  rcases h.of_bind with ⟨found, before, w₁, l₁, after, hread, hrest, rfl⟩ | ⟨e, hread, rfl⟩
  · have hlooked := course_read hr hread
    have hbefore : ¬a.Written r before := fun hw => by cases (hlooked.written hw).1
    have hidle : ¬a.Written r after ∧ l'.requests = l₁.requests := by
      cases found with
      | some d => exact Idle.done d hrest
      | none => exact Idle.create hrest
    exact ⟨fun free => (hlooked.dealing free).trans (.same hidle.1 hidle.2),
      by simp [hbefore, hidle.1]⟩
  · have hlooked := course_read hr hread
    exact ⟨hlooked.dealing, fun hw => by cases (hlooked.written hw).1⟩

/-- What is done under the lock: a draft is begun, of what was picked. -/
theorem course_begin {hold : Hold} {out : Except Failure (Section k)}
    (hr : r.id < l.requests.length)
    (h : (a.pick r >>= fun value => Routine.beginDraft k r.session a.name value >>= fun d =>
      .done ⟨a, r, d, some hold⟩).Course i others w l events (.ended out) w' l') :
    Opened a r events l l' out := by
  rcases h.of_bind with ⟨value, before, w₁, l₁, after, hpick, hbegin, rfl⟩ | ⟨e, hpick, rfl⟩
  · obtain ⟨hdealing, hunwritten⟩ := course_pick hr hpick
    obtain ⟨rfl, rfl, -, rfl⟩ := hbegin.of_own.of_done
    rw [List.append_nil]
    refine ⟨fun free => (hdealing free).congr rfl, hunwritten, fun s hs => ?_⟩
    cases hs
    exact ⟨rfl, rfl⟩
  · obtain ⟨hdealing, hunwritten⟩ := course_pick hr hpick
    exact ⟨hdealing, hunwritten, fun s hs => by cases hs⟩

theorem course_start {out : Except Failure (Section k)} (hr : r.id < l.requests.length)
    (h : (start a r).Course i others w l events (.ended out) w' l') :
    Opened a r events l l' out := by
  rw [start_eq] at h
  replace h := h.of_own
  cases hopen : (l.perform (.openDraft k r.session a.name)).1 with
  | some d =>
    rw [hopen] at h
    obtain ⟨rfl, rfl, -, rfl⟩ := h.of_done
    refine ⟨fun _ => .same written_nil rfl, written_nil, fun s hs => ?_⟩
    cases hs
    exact ⟨rfl, rfl⟩
  | none =>
    rw [hopen] at h
    change (a.hold r >>= _ : Routine (Section k)).Course i others w l events (.ended out) w' l' at h
    rcases h.of_bind with ⟨hold, before, w₁, l₁, rest, hhold, hrest, rfl⟩ | ⟨e, hhold, rfl⟩
    case inr =>
      obtain ⟨hevents, hl'⟩ := Idle.acquire (a := a) (r := r) _ _ _ hhold
      exact ⟨fun _ => .same hevents hl', hevents, fun s hs => by cases hs⟩
    obtain ⟨hbefore, hl₁⟩ := Idle.acquire (a := a) (r := r) _ _ _ hhold
    rcases hrest.of_onFailure with
      ⟨s, hs, rfl⟩ | ⟨e, e₁, w₂, l₂, last, e₂, hs, hdrop, rfl, e', rfl⟩
    · have hopened := course_begin (hl₁ ▸ hr) hs
      exact ⟨fun free => (Dealing.same hbefore hl₁).trans (hopened.dealing free),
        by simp [hbefore, hopened.unwritten], hopened.bound⟩
    · have hopened := course_begin (hl₁ ▸ hr) hs
      obtain ⟨hafter, hl'⟩ := Idle.drop (a := a) (r := r) hold hdrop
      exact ⟨fun free => (Dealing.same hbefore hl₁).trans
        ((hopened.dealing free).trans (.same hafter hl')),
        by simp [hbefore, hopened.unwritten, hafter], fun s hs => by cases hs⟩

end Start

theorem deals_within {free : String → Prop} {α : Type} {body : Section k → Routine α}
    (hbody : ∀ s, s.subject = a → s.request = r → a.Deals r free (body s)) :
    a.Deals r free (within a r body) := by
  intro i others w l events out w' l' h hr
  rcases h.of_bind with ⟨s, before, w₁, l₁, after, hstart, hrest, rfl⟩ | ⟨e, hstart, rfl⟩
  · have hopened := course_start hr hstart
    obtain ⟨hsubject, hrequest⟩ := hopened.bound s rfl
    have hfirst := hopened.dealing free
    exact hfirst.trans
      (((hbody s hsubject hrequest).ensuring (idle_drop s)) hrest (hfirst.length_eq ▸ hr))
  · exact (course_start hr hstart).dealing free

end Section

end SessionCart
