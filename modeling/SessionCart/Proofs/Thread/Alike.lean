import SessionCart.Proofs.Lock.Twin
import SessionCart.Proofs.Section.Rules

/-!
# Routines that differ in their numbers

Drafts and tickets are named by the numbers at which they were made, so a session's routine meets
other numbers where other sessions have been at work. Two routines are alike for a session if they
take the same actions on the session's part of the state and go on alike, the numbers of its drafts
and tickets in a one-to-one bond. Whatever is made of such parts is alike, up to whole sections.
-/

namespace SessionCart

/-! ### Bonds -/

/-- Which drafts and which tickets of two states go by different numbers for the same thing. -/
structure Bond where
  draft : DraftId → DraftId → Prop
  ticket : TableName → TicketId → TicketId → Prop

namespace Bond

variable {γ δ ε : Bond}

instance : LE Bond where
  le γ δ := (∀ d d', γ.draft d d' → δ.draft d d') ∧ ∀ t k k', γ.ticket t k k' → δ.ticket t k k'

theorem le_refl (γ : Bond) : γ ≤ γ := ⟨fun _ _ h => h, fun _ _ _ h => h⟩

theorem le_trans (h : γ ≤ δ) (h' : δ ≤ ε) : γ ≤ ε :=
  ⟨fun d d' hd => h'.1 d d' (h.1 d d' hd), fun t k k' hk => h'.2 t k k' (h.2 t k k' hk)⟩

def addDraft (γ : Bond) (d d' : DraftId) : Bond := { γ with draft := withPair γ.draft d d' }

def addTicket (γ : Bond) (t : TableName) (k k' : TicketId) : Bond :=
  { γ with ticket := Function.update γ.ticket t (withPair (γ.ticket t) k k') }

theorem le_addDraft (γ : Bond) (d d' : DraftId) : γ ≤ γ.addDraft d d' :=
  ⟨fun _ _ => .inl, fun _ _ _ h => h⟩

theorem le_addTicket (γ : Bond) (t : TableName) (k k' : TicketId) : γ ≤ γ.addTicket t k k' := by
  refine ⟨fun _ _ h => h, fun t' a a' h => ?_⟩
  by_cases ht : t' = t
  · subst ht
    simp [addTicket, withPair, h]
  · simpa [addTicket, ht] using h

theorem draft_addDraft (γ : Bond) (d d' : DraftId) : (γ.addDraft d d').draft d d' := .inr ⟨rfl, rfl⟩

theorem ticket_addTicket (γ : Bond) (t : TableName) (k k' : TicketId) :
    (γ.addTicket t k k').ticket t k k' := by
  simp [addTicket, withPair]

end Bond

/-! ### Alike routines -/

/-- An action on the stored values of a session, or on a request of the session. -/
def Action.Plain (whose : RequestId → Option SessionId) (session : SessionId) : Action → Prop
  | .world (.get _ s _) | .world (.set _ s _ _) | .world (.remove _ s _)
  | .world (.invalidate _ s) => s = session
  | .own (.request r) | .own (.cache r _ _) | .own (.uncache r _) | .own (.mark r _) =>
    whose r = some session
  | _ => False

/-- The routines take the same actions for a session, and come to results that match. -/
inductive Alike (whose : RequestId → Option SessionId) (session : SessionId) {α : Type}
    (V : Bond → α → α → Prop) : Bond → Routine α → Routine α → Prop
  | done {γ y y'} : V γ y y' → Alike whose session V γ (.done y) (.done y')
  | fail {γ} (f : Failure) : Alike whose session V γ (.fail f) (.fail f)
  | plain {γ} {a : Action} {next next' : a.Reply → Routine α} : a.Plain whose session →
    (∀ reply, Alike whose session V γ (next reply) (next' reply)) →
    Alike whose session V γ (.act a next) (.act a next')
  /-- Other sessions count too, so nothing may depend on the number. -/
  | count {γ} (label : String) {next next' : Nat → Routine α} :
    (∀ n n', Alike whose session V γ (next n) (next' n')) →
    Alike whose session V γ (.act (.world (.count label)) next) (.act (.world (.count label)) next')
  | draw {γ} (t : TableName) {next next' : TicketId → Routine α} :
    (∀ k k', Alike whose session V (γ.addTicket t k k') (next k) (next' k')) →
    Alike whose session V γ (.act (.world (.draw t session)) next)
      (.act (.world (.draw t session)) next')
  | await {γ} {t : TableName} {k k' : TicketId} (limit : Option Duration)
    {next next' : Bool → Routine α} : γ.ticket t k k' →
    (∀ got, Alike whose session V γ (next got) (next' got)) →
    Alike whose session V γ (.act (.world (.await t k limit)) next)
      (.act (.world (.await t k' limit)) next')
  | giveBack {γ} {t : TableName} {k k' : TicketId} {next next' : Bool → Routine α} :
    γ.ticket t k k' → (∀ held, Alike whose session V γ (next held) (next' held)) →
    Alike whose session V γ (.act (.world (.giveBack t k)) next)
      (.act (.world (.giveBack t k')) next')
  | openDraft {γ} (k : Kind) (name : String) {next next' : Option DraftId → Routine α} :
    Alike whose session V γ (next none) (next' none) →
    (∀ d d', Alike whose session V (γ.addDraft d d') (next (some d)) (next' (some d'))) →
    Alike whose session V γ (.act (.own (.openDraft k session name)) next)
      (.act (.own (.openDraft k session name)) next')
  | begin {γ} (k : Kind) (name : String) (value : Value) {next next' : DraftId → Routine α} :
    (∀ d d', Alike whose session V (γ.addDraft d d') (next d) (next' d')) →
    Alike whose session V γ (.act (.own (.begin k session name value)) next)
      (.act (.own (.begin k session name value)) next')
  | draft {γ} {d d' : DraftId} {next next' : Draft → Routine α} : γ.draft d d' →
    (∀ s, Alike whose session V γ (next s) (next' s)) →
    Alike whose session V γ (.act (.own (.draft d)) next) (.act (.own (.draft d')) next')
  | handOut {γ} {d d' : DraftId} {next next' : Unit → Routine α} : γ.draft d d' →
    Alike whose session V γ (next ()) (next' ()) →
    Alike whose session V γ (.act (.own (.handOut d)) next) (.act (.own (.handOut d')) next')
  | record {γ} {d d' : DraftId} (value : Option Value) {next next' : Unit → Routine α} :
    γ.draft d d' → Alike whose session V γ (next ()) (next' ()) →
    Alike whose session V γ (.act (.own (.record d value)) next)
      (.act (.own (.record d' value)) next')
  | discard {γ} {d d' : DraftId} {next next' : Unit → Routine α} : γ.draft d d' →
    Alike whose session V γ (next ()) (next' ()) →
    Alike whose session V γ (.act (.own (.discard d)) next) (.act (.own (.discard d')) next')
  | finish {γ} (name : String) {d d' : DraftId} {next next' : Unit → Routine α} : γ.draft d d' →
    Alike whose session V γ (next ()) (next' ()) →
    Alike whose session V γ (.act (.own (.finish session name d)) next)
      (.act (.own (.finish session name d')) next')

/-- Results without numbers of drafts and tickets match if they are the same. -/
def Equal {α : Type} (_ : Bond) (y y' : α) : Prop := y = y'

namespace Alike

variable {whose : RequestId → Option SessionId} {session : SessionId} {α β : Type}
  {V : Bond → α → α → Prop} {W : Bond → β → β → Prop} {γ : Bond}

/-! ### Combinators -/

/-- Maps of routines that leave their actions as they are keep routines alike if they do at the
ends. -/
theorem transform {x x' : Routine α} {f g : Routine α → Routine β}
    (h : Alike whose session V γ x x')
    (hact : ∀ a next, f (.act a next) = .act a fun reply => f (next reply))
    (hact' : ∀ a next, g (.act a next) = .act a fun reply => g (next reply))
    (hdone : ∀ δ y y', γ ≤ δ → V δ y y' → Alike whose session W δ (f (.done y)) (g (.done y')))
    (hfail : ∀ δ e, γ ≤ δ → Alike whose session W δ (f (.fail e)) (g (.fail e))) :
    Alike whose session W γ (f x) (g x') := by
  induction h with
  | @done γ y y' hy => exact hdone γ y y' γ.le_refl hy
  | @fail γ e => exact hfail γ e γ.le_refl
  | plain ha _ ih =>
    rw [hact, hact']
    exact .plain ha fun reply => ih reply hdone hfail
  | count label _ ih =>
    rw [hact, hact']
    exact .count label fun n n' => ih n n' hdone hfail
  | @draw γ t _ _ _ ih =>
    rw [hact, hact']
    exact .draw t fun k k' =>
      ih k k' (fun δ y y' hδ => hdone δ y y' (Bond.le_trans (γ.le_addTicket t k k') hδ))
        fun δ e hδ => hfail δ e (Bond.le_trans (γ.le_addTicket t k k') hδ)
  | await limit hk _ ih =>
    rw [hact, hact']
    exact .await limit hk fun got => ih got hdone hfail
  | giveBack hk _ ih =>
    rw [hact, hact']
    exact .giveBack hk fun held => ih held hdone hfail
  | @openDraft γ k name _ _ _ _ ihnone ihsome =>
    rw [hact, hact']
    exact .openDraft k name (ihnone hdone hfail) fun d d' =>
      ihsome d d' (fun δ y y' hδ => hdone δ y y' (Bond.le_trans (γ.le_addDraft d d') hδ))
        fun δ e hδ => hfail δ e (Bond.le_trans (γ.le_addDraft d d') hδ)
  | @begin γ k name value _ _ _ ih =>
    rw [hact, hact']
    exact .begin k name value fun d d' =>
      ih d d' (fun δ y y' hδ => hdone δ y y' (Bond.le_trans (γ.le_addDraft d d') hδ))
        fun δ e hδ => hfail δ e (Bond.le_trans (γ.le_addDraft d d') hδ)
  | draft hd _ ih =>
    rw [hact, hact']
    exact .draft hd fun s => ih s hdone hfail
  | handOut hd _ ih =>
    rw [hact, hact']
    exact .handOut hd (ih hdone hfail)
  | record value hd _ ih =>
    rw [hact, hact']
    exact .record value hd (ih hdone hfail)
  | discard hd _ ih =>
    rw [hact, hact']
    exact .discard hd (ih hdone hfail)
  | finish name hd _ ih =>
    rw [hact, hact']
    exact .finish name hd (ih hdone hfail)

theorem bind {x x' : Routine α} {f f' : α → Routine β} (hx : Alike whose session V γ x x')
    (hf : ∀ δ y y', γ ≤ δ → V δ y y' → Alike whose session W δ (f y) (f' y')) :
    Alike whose session W γ (x >>= f) (x' >>= f') :=
  hx.transform (f := (· >>= f)) (g := (· >>= f')) (fun _ _ => rfl) (fun _ _ => rfl) hf
    fun _ e _ => .fail e

theorem andThen {x x' : Routine α} {f f' : α → Routine β} (hx : Alike whose session Equal γ x x')
    (hf : ∀ δ y, γ ≤ δ → Alike whose session W δ (f y) (f' y)) :
    Alike whose session W γ (x >>= f) (x' >>= f') :=
  hx.bind fun δ y y' hδ (hy : y = y') => hy ▸ hf δ y hδ

theorem ensuring {x x' : Routine α} {cleanup cleanup' : Routine Unit}
    (hx : Alike whose session Equal γ x x')
    (hcleanup : ∀ δ, γ ≤ δ → Alike whose session Equal δ cleanup cleanup') :
    Alike whose session Equal γ (Routine.ensuring cleanup x) (Routine.ensuring cleanup' x') :=
  hx.transform (fun _ _ => rfl) (fun _ _ => rfl)
    (fun δ _ _ hδ hy => (hcleanup δ hδ).andThen fun _ _ _ => .done hy)
    fun δ e hδ => (hcleanup δ hδ).andThen fun _ _ _ => .fail e

theorem onFailure {x x' : Routine α} {cleanup cleanup' : Routine Unit}
    (hx : Alike whose session V γ x x')
    (hcleanup : ∀ δ, γ ≤ δ → Alike whose session Equal δ cleanup cleanup') :
    Alike whose session V γ (Routine.onFailure cleanup x) (Routine.onFailure cleanup' x') :=
  hx.transform (fun _ _ => rfl) (fun _ _ => rfl) (fun _ _ _ _ hy => .done hy)
    fun δ e hδ => (hcleanup δ hδ).andThen fun _ _ _ => .fail e

theorem ofExcept (e : Except Error α) :
    Alike whose session Equal γ (Routine.ofExcept e) (Routine.ofExcept e) := by
  cases e with
  | ok y => exact .done rfl
  | error e => exact .fail _

/-! ### Stores and locks -/

theorem getStored (s : StoreName) (name : String) :
    Alike whose session Equal γ (Routine.getStored s session name)
      (Routine.getStored s session name) :=
  .plain rfl fun _ => ofExcept _

theorem setStored (s : StoreName) (name : String) (value : Value) :
    Alike whose session Equal γ (Routine.setStored s session name value)
      (Routine.setStored s session name value) :=
  .plain rfl fun _ => ofExcept _

theorem removeStored (s : StoreName) (name : String) :
    Alike whose session Equal γ (Routine.removeStored s session name)
      (Routine.removeStored s session name) :=
  .plain rfl fun _ => ofExcept _

theorem invalidate (s : StoreName) :
    Alike whose session Equal γ (Routine.invalidate s session) (Routine.invalidate s session) :=
  .plain rfl fun _ => ofExcept _

end Alike

/-- Handles of the same lock, their tickets bonded. -/
structure Hold.Twin (γ : Bond) (h h' : Hold) : Prop where
  table_eq : h'.table = h.table
  ticket : γ.ticket h.table h.ticket h'.ticket

theorem Hold.Twin.mono {γ δ : Bond} {h h' : Hold} (hh : Hold.Twin γ h h') (hδ : γ ≤ δ) :
    Hold.Twin δ h h' := ⟨hh.table_eq, hδ.2 _ _ _ hh.ticket⟩

namespace Alike

variable {whose : RequestId → Option SessionId} {session : SessionId} {γ : Bond}

theorem acquire (t : TableName) (limit : Option Duration) :
    Alike whose session Hold.Twin γ (Hold.acquire t limit session)
      (Hold.acquire t limit session) := by
  refine .draw t fun k k' => .await limit (γ.ticket_addTicket t k k') fun got => ?_
  cases got with
  | true => exact .done ⟨rfl, γ.ticket_addTicket t k k'⟩
  | false => exact .giveBack (γ.ticket_addTicket t k k') fun _ => .fail _

end Alike

section Hold

variable {whose : RequestId → Option SessionId} {session : SessionId} {γ : Bond} {h h' : Hold}

theorem Hold.Twin.alike_release (hh : Hold.Twin γ h h') :
    Alike whose session Equal γ h.release h'.release := by
  obtain ⟨t, s, k⟩ := h
  obtain ⟨t', s', k'⟩ := h'
  obtain ⟨rfl, hk⟩ := hh
  exact .giveBack hk fun _ => .done rfl

theorem Hold.Twin.alike_drop (hh : Hold.Twin γ h h') :
    Alike whose session Equal γ h.drop h'.drop := hh.alike_release.andThen fun _ _ _ => .done rfl

end Hold

/-! ### Attributes -/

/-- What is made depends on the request alone, not on how many were made before. -/
def Attribute.Contextual {k : Kind} (a : Attribute k) : Prop :=
  ∀ n n' request, a.make n request = a.make n' request

namespace Alike

variable {whose : RequestId → Option SessionId} {k : Kind} {a : Attribute k} {r : RequestRef}
  {γ : Bond}

section Attribute

theorem typed (value : Option Value) :
    Alike whose r.session Equal γ (a.typed r value) (a.typed r value) := by
  rw [Attribute.typed_eq]
  exact ofExcept _

theorem stored : Alike whose r.session Equal γ (a.stored r) (a.stored r) :=
  (getStored _ _).andThen fun _ _ _ => typed _

theorem keep (value : Option k.Data) :
    Alike whose r.session Equal γ (a.keep r value) (a.keep r value) := by
  cases value with
  | some d => exact setStored _ _ _
  | none => exact (removeStored _ _).andThen fun _ _ _ => .done rfl

theorem hold : Alike whose r.session Hold.Twin γ (a.hold r) (a.hold r) := acquire _ _

theorem look (policy : ReadPolicy) (cached : Option k.Data) : Alike whose r.session Equal γ
    (Attribute.look (a := a) r policy cached) (Attribute.look (a := a) r policy cached) := by
  cases policy with
  | sessionFirst => exact stored.andThen fun _ _ _ => .done rfl
  | requestFirst =>
    cases cached with
    | some d => exact .done rfl
    | none => exact stored

variable (hr : whose r.id = some r.session)

include hr

theorem cached : Alike whose r.session Equal γ (a.cached r) (a.cached r) :=
  .plain hr fun _ => typed _

theorem cache (value : Option k.Data) :
    Alike whose r.session Equal γ (a.cache r value) (a.cache r value) := by
  cases value with
  | some d => exact .plain hr fun _ => .done rfl
  | none => exact .plain hr fun _ => .done rfl

theorem writeDirectly (value : Option k.Data) (scope : Scope) : Alike whose r.session Equal γ
    (a.writeDirectly r value scope) (a.writeDirectly r value scope) := by
  have hmark : ∀ δ, Alike whose r.session Equal δ (Routine.mark r a.name) (Routine.mark r a.name) :=
    fun δ => .plain hr fun _ => .done rfl
  rw [Attribute.writeDirectly]
  cases scope.session <;> cases scope.request
  · exact .done rfl
  · exact (cache hr value).andThen fun _ _ _ => .done rfl
  · exact (keep value).andThen fun δ _ _ => hmark δ
  · exact (keep value).andThen fun _ _ _ => (cache hr value).andThen fun δ _ _ => hmark δ

theorem commit {d d' : DraftId} (hd : γ.draft d d') (value : Option k.Data) :
    Alike whose r.session Equal γ (a.commit r d value) (a.commit r d' value) := by
  refine .draft hd fun draft => ?_
  change Alike whose r.session Equal γ (if draft.closed = true then _ else _)
    (if draft.closed = true then _ else _)
  split
  · exact .fail _
  · exact (writeDirectly hr value .all).andThen fun δ _ hδ =>
      .record _ (hδ.1 _ _ hd) (.done rfl)

theorem write (value : Option k.Data) (scope : Scope) :
    Alike whose r.session Equal γ (a.write r value scope) (a.write r value scope) := by
  rw [Attribute.write]
  cases scope.session with
  | false => exact writeDirectly hr value scope
  | true =>
    exact .openDraft k a.name (writeDirectly hr value scope) fun d d' =>
      commit hr (γ.draft_addDraft d d') value

theorem fill (wanted : Bool) (d : k.Data) :
    Alike whose r.session Equal γ
      (do
        if wanted then a.cache r (some d)
        return (some d))
      (do
        if wanted then a.cache r (some d)
        return (some d)) := by
  cases wanted with
  | true => exact (cache hr (some d)).andThen fun _ _ _ => .done rfl
  | false => exact .done rfl

theorem find (policy : ReadPolicy) (scope : Scope) : Alike whose r.session Equal γ
    (a.read r policy false scope) (a.read r policy false scope) := by
  rw [Attribute.read_eq]
  refine (cached hr).andThen fun _ c _ => (look policy c).andThen fun _ found _ => ?_
  cases found with
  | some d => exact fill hr (c.isNone && scope.request) d
  | none => exact .done rfl

variable (ha : a.Contextual)

include ha

theorem create : Alike whose r.session Equal γ (a.create r) (a.create r) := by
  have hrequest : ∀ δ, Alike whose r.session Equal δ (Routine.request r) (Routine.request r) :=
    fun δ => .plain hr fun _ => .done rfl
  refine .count a.label fun n n' => (hrequest γ).andThen fun δ request _ => ?_
  rw [ha n n' request]
  cases a.make n' request with
  | ok d => exact .done rfl
  | error p => exact .fail _

theorem createOnce (scope : Scope) :
    Alike whose r.session Equal γ (a.createOnce r scope) (a.createOnce r scope) := by
  refine hold.bind fun δ h h' _ hh => ensuring ?_ fun ε hε => (hh.mono hε).alike_drop
  refine stored.andThen fun _ found _ => ?_
  cases found with
  | some d => exact .done rfl
  | none =>
    exact (create hr ha).andThen fun _ d _ =>
      (write hr (some d) scope).andThen fun _ _ _ => .done rfl

theorem read (policy : ReadPolicy) (creating : Bool) (scope : Scope) :
    Alike whose r.session Equal γ (a.read r policy creating scope)
      (a.read r policy creating scope) := by
  cases creating with
  | false => exact find hr policy scope
  | true =>
    rw [Attribute.read_eq]
    refine (cached hr).andThen fun _ c _ => (look policy c).andThen fun _ found _ => ?_
    cases found with
    | some d => exact fill hr (c.isNone && scope.request) d
    | none =>
      exact (createOnce hr ha scope).andThen fun _ made _ =>
        fill hr (!made.2 && scope.request) made.1

theorem pick : Alike whose r.session Equal γ (a.pick r) (a.pick r) := by
  refine (find hr .sessionFirst .all).andThen fun _ found _ => ?_
  cases found with
  | some d => exact .done rfl
  | none => exact create hr ha

end Attribute

end Alike

/-! ### Sections -/

namespace Section

/-- Sections of an attribute for a request of a session, their drafts and tickets bonded. -/
structure Twin (whose : RequestId → Option SessionId) (session : SessionId) {k : Kind} (γ : Bond)
    (s s' : Section k) : Prop where
  subject_eq : s'.subject = s.subject
  request_eq : s'.request = s.request
  session_eq : s.request.session = session
  known : whose s.request.id = some session
  contextual : s.subject.Contextual
  draft : γ.draft s.draft s'.draft
  hold : Option.Rel (Hold.Twin γ) s.hold s'.hold

variable {whose : RequestId → Option SessionId} {session : SessionId} {k : Kind} {γ δ : Bond}
  {s s' : Section k}

theorem Twin.mono (h : Twin whose session γ s s') (hδ : γ ≤ δ) : Twin whose session δ s s' where
  subject_eq := h.subject_eq
  request_eq := h.request_eq
  session_eq := h.session_eq
  known := h.known
  contextual := h.contextual
  draft := hδ.1 _ _ h.draft
  hold := rel_mono h.hold fun _ _ hh => hh.mono hδ

variable (h : Twin whose session γ s s')

include h

theorem Twin.alike_copy : Alike whose session Equal γ s.copy s'.copy := by
  obtain ⟨a, r, d, hold⟩ := s
  obtain ⟨a', r', d', hold'⟩ := s'
  obtain ⟨rfl, rfl, rfl, hr, ha, hd, -⟩ := h
  have hdraft : Alike whose r'.session Equal γ (Routine.draft d) (Routine.draft d') :=
    .draft hd fun _ => .done rfl
  refine .handOut hd (hdraft.andThen fun δ draft _ => ?_)
  cases draft.current.bind (·.as? k) with
  | some value => exact .done rfl
  | none => exact .create hr ha

theorem Twin.alike_commit (value : k.Data) :
    Alike whose session Equal γ (s.commit value) (s'.commit value) := by
  obtain ⟨a, r, d, hold⟩ := s
  obtain ⟨a', r', d', hold'⟩ := s'
  obtain ⟨rfl, rfl, rfl, hr, -, hd, -⟩ := h
  exact (Alike.commit hr hd (some value)).andThen fun _ _ _ => .done rfl

theorem Twin.alike_discard : Alike whose session Equal γ s.discard s'.discard :=
  .discard h.draft (.done rfl)

theorem Twin.alike_finish : Alike whose session Equal γ s.finish s'.finish := by
  obtain ⟨a, r, d, hold⟩ := s
  obtain ⟨a', r', d', hold'⟩ := s'
  obtain ⟨rfl, rfl, rfl, -, -, hd, hhold⟩ := h
  cases hhold with
  | none => exact .done rfl
  | some hhold =>
    refine .draft hd fun draft => ?_
    change Alike whose r'.session Equal γ (if draft.closed = true then _ else _)
      (if draft.closed = true then _ else _)
    split
    · exact .done rfl
    · exact .finish _ hd (hhold.alike_drop.andThen fun _ _ _ => .done rfl)

theorem Twin.alike_close : Alike whose session Equal γ s.close s'.close := by
  refine h.alike_finish.andThen fun δ abandoned _ => ?_
  rw [h.subject_eq, h.request_eq]
  cases abandoned with
  | true => exact .fail _
  | false => exact .done rfl

theorem Twin.alike_drop : Alike whose session Equal γ s.drop s'.drop :=
  h.alike_finish.andThen fun _ _ _ => .done rfl

end Section

namespace Alike

variable {whose : RequestId → Option SessionId} {k : Kind} {a : Attribute k} {r : RequestRef}
  {γ : Bond}

theorem start (hr : whose r.id = some r.session) (ha : a.Contextual) :
    Alike whose r.session (Section.Twin whose r.session) γ (Section.start a r)
      (Section.start a r) := by
  rw [Section.start_eq]
  refine .openDraft k a.name ?_ fun d d' =>
    .done ⟨rfl, rfl, rfl, hr, ha, γ.draft_addDraft d d', .none⟩
  refine hold.bind fun δ h h' _ hh => onFailure ?_ fun ε hε => (hh.mono hε).alike_drop
  refine (pick hr ha).andThen fun ε value hε => .begin k a.name _ fun d d' => .done ?_
  exact ⟨rfl, rfl, rfl, hr, ha, ε.draft_addDraft d d',
    .some (hh.mono (Bond.le_trans hε (ε.le_addDraft d d')))⟩

theorem within {α : Type} {body body' : Section k → Routine α} (hr : whose r.id = some r.session)
    (ha : a.Contextual) (hbody : ∀ δ s s', γ ≤ δ → Section.Twin whose r.session δ s s' →
      Alike whose r.session Equal δ (body s) (body' s')) :
    Alike whose r.session Equal γ (Section.within a r body) (Section.within a r body') :=
  (start hr ha).bind fun δ s s' hδ hs =>
    ensuring (hbody δ s s' hδ hs) fun _ hε => (hs.mono hε).alike_drop

end Alike

end SessionCart
