import SessionCart.Proofs.Section.Rules
import SessionCart.Proofs.Thread.Logic

/-!
# Terms of a routine

Terms say what a routine may do, whatever it is answered: which sessions it may read, write and
lock, and which values it may pass on if it is given no others. A routine that abides by them also
reports the first refusal that it meets, of a backend or at a lock, and reports no other one. What a
routine does under its terms does not depend on the world, so a routine abides by terms if its parts
do.
-/

namespace SessionCart

/-- What is done under the lock to make a value once: the stored value, or a new one. -/
def Attribute.supply {k : Kind} (a : Attribute k) (r : RequestRef) (scope : Scope) :
    Routine (k.Data × Bool) := do
  match ← a.stored r with
  | some d => return (d, false)
  | none =>
    let d ← a.create r
    a.write r (some d) scope
    return (d, true)

theorem Attribute.createOnce_eq {k : Kind} (a : Attribute k) (r : RequestRef) (scope : Scope) :
    a.createOnce r scope =
      a.hold r >>= fun hold => Routine.ensuring hold.drop (a.supply r scope) := rfl

/-! ### Refusals -/

/-- A call that a backend has refused, or a wait for a lock that was too long. -/
inductive Refusal
  | fault (f : StoreFault)
  | timeout (limit : Duration)

namespace Refusal

def error (session : SessionId) : Refusal → Error
  | fault f => .storage f
  | timeout limit => .lockTimeout session limit

/-- The refusal that an action was answered with. -/
def met? : (a : World.Action) → a.Reply → Option Refusal
  | .get .., .error f => some (.fault f)
  | .set .., .error f => some (.fault f)
  | .remove .., .error f => some (.fault f)
  | .invalidate .., .error f => some (.fault f)
  | .await _ _ limit, false => limit.map timeout
  | _, _ => none

def ofFailure? : Failure → Option Refusal
  | .error (.storage f) => some (.fault f)
  | .error (.lockTimeout _ limit) => some (.timeout limit)
  | _ => none

@[simp]
theorem ofFailure?_error (refusal : Refusal) (session : SessionId) :
    ofFailure? (.error (refusal.error session)) = some refusal := by
  cases refusal <;> rfl

/-- The refusal that an outcome reports. -/
def reported? {α : Type} : Except Failure α → Option Refusal
  | .ok _ => none
  | .error f => ofFailure? f

@[simp]
theorem reported?_ok {α : Type} (x : α) : reported? (.ok x) = none := rfl

@[simp]
theorem reported?_error {α : Type} (f : Failure) :
    reported? (.error f : Except Failure α) = ofFailure? f := rfl

end Refusal

/-! ### Terms -/

structure Terms where
  /-- The values that may be passed on. -/
  fit : Value → Prop
  reads : StoreName → SessionId → Prop
  writes : StoreName → SessionId → Prop
  locks : TableName → SessionId → Prop

namespace Terms

variable (T : Terms)

def may : Action → Prop
  | .world (.get s session _) => T.reads s session
  | .world (.set s session _ value) => T.writes s session ∧ T.fit value
  | .world (.remove s session _) | .world (.invalidate s session) => T.writes s session
  | .world (.draw t session) => T.locks t session
  | .world (.await t _ _) | .world (.giveBack t _) => ∃ session, T.locks t session
  | .world (.prune _) => False
  | .world (.count _) => True
  | .own (.cache _ _ value) => T.fit value
  | .own (.begin _ session _ value) => (∃ t, T.locks t session) ∧ T.fit value
  | .own (.finish session ..) => ∃ t, T.locks t session
  | .own (.record _ value) => ∀ v, value = some v → T.fit v
  | .own (.accept request) => ∀ name v, request.get? name = some v → T.fit v
  | .own _ => True

/-- What may be relied on in an answer. -/
def told : (a : Action) → a.Reply → Prop
  | .world (.get ..), reply => ∀ v, reply = .ok (some v) → T.fit v
  | .world (.remove ..), reply => ∀ v, reply = .ok (some v) → T.fit v
  | .world (.await _ _ limit), reply => reply = false → limit.isSome = true
  | .own (.request _), request => ∀ name v, request.get? name = some v → T.fit v
  | .own (.draft _), d => ∀ v, d.current = some v → T.fit v
  | _, _ => True

/-- The refusal that any action was answered with. -/
def met? : (a : Action) → a.Reply → Option Refusal
  | .world a, reply => Refusal.met? a reply
  | .own _, _ => none

/-- The logic of terms. What is known is the first refusal met so far. -/
def logic : Logic (Option Refusal) where
  does first a next := T.may a ∧ ∀ reply, T.told a reply → next reply (first.or (met? a reply))
  mono hnext h := ⟨h.1, fun reply hreply => hnext _ _ (h.2 reply hreply)⟩

/-- The routine keeps to the terms, reports the first refusal met, and if it ends well its result is
such a one. -/
def Abides {α : Type} (V : α → Prop) (x : Routine α) : Prop :=
  ∀ first, T.logic.wp (fun out last => last = first.or (Refusal.reported? out) ∧
    ∀ y, out = .ok y → V y) x first

/-- The routine keeps to the terms and always ends well. -/
def Tidies (x : Routine Unit) : Prop :=
  ∀ first, T.logic.wp (fun out last => out = .ok () ∧ last = first) x first

variable {T} {α β : Type} {V : α → Prop} {W : β → Prop}

namespace Abides

theorem done {y : α} (h : V y) : T.Abides V (.done y) := by
  intro first
  refine ⟨by simp, fun y' hy' => ?_⟩
  cases hy'
  exact h

theorem fail {f : Failure} (h : Refusal.ofFailure? f = none) : T.Abides V (.fail f) := by
  intro first
  refine ⟨by simp [h], fun y hy => ?_⟩
  cases hy

theorem mono {V' : α → Prop} {x : Routine α} (hV : ∀ y, V y → V' y) (h : T.Abides V x) :
    T.Abides V' x :=
  fun first => Logic.wp_mono (fun _ _ hlast => ⟨hlast.1, fun y hy => hV y (hlast.2 y hy)⟩) (h first)

theorem bind {x : Routine α} {f : α → Routine β} (hx : T.Abides V x)
    (hf : ∀ y, V y → T.Abides W (f y)) : T.Abides W (x >>= f) := by
  intro first
  rw [Logic.wp_bind]
  refine Logic.wp_mono ?_ (hx first)
  rintro out last ⟨hlast, hout⟩
  cases out with
  | ok y =>
    rw [Refusal.reported?_ok, Option.or_none] at hlast
    rw [hlast]
    exact hf y (hout y rfl) first
  | error f => exact ⟨hlast, fun y hy => by cases hy⟩

theorem andThen {x : Routine α} {y : Routine β} (hx : T.Abides V x) (hy : T.Abides W y) :
    T.Abides W (x >>= fun _ => y) := hx.bind fun _ _ => hy

theorem onFailure {x : Routine α} {cleanup : Routine Unit} (hx : T.Abides V x)
    (hcleanup : T.Tidies cleanup) : T.Abides V (Routine.onFailure cleanup x) := by
  intro first
  rw [Logic.wp_onFailure]
  refine Logic.wp_mono ?_ (hx first)
  rintro out last hlast
  cases out with
  | ok y => exact hlast
  | error f =>
    refine Logic.wp_mono ?_ (hcleanup last)
    rintro _ _ ⟨rfl, rfl⟩
    exact hlast

theorem ensuring {x : Routine α} {cleanup : Routine Unit} (hx : T.Abides V x)
    (hcleanup : T.Tidies cleanup) : T.Abides V (Routine.ensuring cleanup x) := by
  intro first
  rw [Logic.wp_ensuring]
  refine Logic.wp_mono ?_ (hx first)
  rintro out last hlast
  refine Logic.wp_mono ?_ (hcleanup last)
  rintro _ _ ⟨rfl, rfl⟩
  exact hlast

theorem ofExcept {e : Except Error α} (hok : ∀ y, e = .ok y → V y)
    (herror : ∀ f, e = .error f → Refusal.ofFailure? (.error f) = none) :
    T.Abides V (Routine.ofExcept e) := by
  cases e with
  | ok y => exact done (hok y rfl)
  | error f => exact fail (herror f rfl)

/-! ### Single actions -/

theorem own {a : Workspace.Action} (hmay : T.may (.own a)) :
    T.Abides (T.told (.own a)) (Routine.own a) := by
  refine fun first => ⟨hmay, fun reply hreply => ⟨by simp [met?], fun y hy => ?_⟩⟩
  cases hy
  exact hreply

section Store

variable {s : StoreName} {session : SessionId} {name : String}

theorem getStored (h : T.reads s session) :
    T.Abides (fun found => ∀ v, found = some v → T.fit v)
      (Routine.getStored s session name) := by
  refine fun first => ⟨h, fun reply hreply => ?_⟩
  cases reply with
  | error f => exact ⟨rfl, fun y hy => by cases hy⟩
  | ok found =>
    refine ⟨rfl, fun y hy v hv => hreply v ?_⟩
    cases hy
    rw [hv]

theorem setStored {value : Value} (h : T.writes s session) (hvalue : T.fit value) :
    T.Abides (fun _ => True) (Routine.setStored s session name value) := by
  refine fun first => ⟨⟨h, hvalue⟩, fun reply _ => ?_⟩
  cases reply <;> exact ⟨rfl, fun _ _ => trivial⟩

theorem removeStored (h : T.writes s session) :
    T.Abides (fun _ => True) (Routine.removeStored s session name) := by
  refine fun first => ⟨h, fun reply _ => ?_⟩
  cases reply <;> exact ⟨rfl, fun _ _ => trivial⟩

theorem invalidate (h : T.writes s session) :
    T.Abides (fun _ => True) (Routine.invalidate s session) := by
  refine fun first => ⟨h, fun reply _ => ?_⟩
  cases reply <;> exact ⟨rfl, fun _ _ => trivial⟩

end Store

theorem count {label : String} : T.Abides (fun _ => True) (Routine.count label) :=
  fun first => ⟨trivial, fun n _ => ⟨by simp [met?, Refusal.met?], fun _ _ => trivial⟩⟩

theorem acquire {t : TableName} {limit : Option Duration} {session : SessionId}
    (h : T.locks t session) :
    T.Abides (fun hold => hold.table = t) (Hold.acquire t limit session) := by
  refine fun first => ⟨h, fun ticket _ => ⟨⟨session, h⟩, fun got hgot => ?_⟩⟩
  cases got with
  | true =>
    refine ⟨by simp [met?, Refusal.met?], fun y hy => ?_⟩
    cases hy
    rfl
  | false =>
    refine ⟨⟨session, h⟩, fun held _ => ?_⟩
    cases limit with
    | none => cases hgot rfl
    | some d => exact ⟨by simp [met?, Refusal.met?, Refusal.ofFailure?], fun y hy => by cases hy⟩

end Abides

theorem tidies_drop {hold : Hold} {session : SessionId} (h : T.locks hold.table session) :
    T.Tidies hold.drop := by
  refine fun first => ⟨⟨session, h⟩, fun held _ => ⟨rfl, ?_⟩⟩
  simp [met?, Refusal.met?]

/-! ### Attributes -/

section Attribute

variable {k : Kind} {a : Attribute k} {r : RequestRef}

/-- The values that an attribute makes may be passed on. -/
def Makes (T : Terms) (a : Attribute k) : Prop :=
  ∀ n request d, a.make n request = .ok d → T.fit (.of k d)

/-- A value of a kind, or its absence, may be passed on. -/
def Fits (T : Terms) (k : Kind) (found : Option k.Data) : Prop :=
  ∀ d, found = some d → T.fit (.of k d)

theorem fits_some {d : k.Data} (h : T.fit (.of k d)) : T.Fits k (some d) := by
  intro d' hd'
  cases hd'
  exact h

theorem fits_none : T.Fits k none := fun d hd => by cases hd

theorem Fits.value {found : Option k.Data} (h : T.Fits k found) :
    ∀ v, found.map (Value.of k) = some v → T.fit v := by
  intro v hv
  obtain ⟨d, hd, rfl⟩ := Option.map_eq_some_iff.mp hv
  exact h d hd

namespace Abides

theorem typed {value : Option Value} (h : ∀ v, value = some v → T.fit v) :
    T.Abides (T.Fits k) (a.typed r value) := by
  cases value with
  | none => exact done fits_none
  | some v =>
    rw [Attribute.typed]
    cases hv : v.as? k with
    | none => exact fail rfl
    | some d => exact done (fits_some (Value.as?_eq_some_iff.mp hv ▸ h v rfl))

theorem cached : T.Abides (T.Fits k) (a.cached r) :=
  (own (a := .request r.id) trivial).bind fun _ hrequest => typed (hrequest a.name)

theorem create (hmake : T.Makes a) : T.Abides (fun d => T.fit (.of k d)) (a.create r) := by
  refine count.bind fun n _ => (own (a := .request r.id) trivial).bind fun request _ => ?_
  cases hd : a.make n request with
  | ok d => exact done (hmake n request d hd)
  | error p => exact fail rfl

theorem cache {value : Option k.Data} (h : T.Fits k value) :
    T.Abides (fun _ => True) (a.cache r value) := by
  cases value with
  | some d => exact (own (a := .cache r.id a.name (.of k d)) (h d rfl)).mono fun _ _ => trivial
  | none => exact (own (a := .uncache r.id a.name) trivial).mono fun _ _ => trivial

theorem fill (wanted : Bool) {d : k.Data} (hd : T.fit (.of k d)) :
    T.Abides (T.Fits k) (do
      if wanted then a.cache r (some d)
      return (some d)) := by
  cases wanted with
  | true => exact (cache (fits_some hd)).andThen (done (fits_some hd))
  | false => exact done (fits_some hd)

end Abides

section Reads

variable (hreads : T.reads a.store r.session)

include hreads

theorem Abides.stored : T.Abides (T.Fits k) (a.stored r) :=
  (Abides.getStored hreads).bind fun _ hfound => .typed hfound

theorem Abides.look (policy : ReadPolicy) {cached : Option k.Data} (hcached : T.Fits k cached) :
    T.Abides (T.Fits k) (Attribute.look (a := a) r policy cached) := by
  cases policy with
  | sessionFirst =>
    refine (stored hreads).bind fun found hfound => done ?_
    cases found with
    | none => exact hcached
    | some d => exact hfound
  | requestFirst =>
    cases cached with
    | some d => exact done hcached
    | none => exact stored hreads

theorem Abides.find (policy : ReadPolicy) (scope : Scope) :
    T.Abides (T.Fits k) (a.read r policy false scope) := by
  rw [Attribute.read_eq]
  refine cached.bind fun c hcached => (look hreads policy hcached).bind fun found hfound => ?_
  cases found with
  | some d => exact fill (c.isNone && scope.request) (hfound d rfl)
  | none => exact done fits_none

theorem Abides.pick (hmake : T.Makes a) : T.Abides (fun d => T.fit (.of k d)) (a.pick r) := by
  refine (find hreads .sessionFirst .all).bind fun found hfound => ?_
  cases found with
  | some d => exact done (hfound d rfl)
  | none => exact create hmake

end Reads

section Writes

variable (hwrites : T.writes a.store r.session)

include hwrites

theorem Abides.keep {value : Option k.Data} (h : T.Fits k value) :
    T.Abides (fun _ => True) (a.keep r value) := by
  cases value with
  | some d => exact setStored hwrites (h d rfl)
  | none => exact (removeStored hwrites).andThen (done trivial)

theorem Abides.writeDirectly {value : Option k.Data} (h : T.Fits k value) (scope : Scope) :
    T.Abides (fun _ => True) (a.writeDirectly r value scope) := by
  have hmark : T.Abides (fun _ => True) (Routine.mark r a.name) :=
    (own (a := .mark r.id a.name) trivial).mono fun _ _ => trivial
  rw [Attribute.writeDirectly]
  cases scope.session <;> cases scope.request
  · exact done trivial
  · exact (cache h).andThen (done trivial)
  · exact (keep hwrites h).andThen hmark
  · exact (keep hwrites h).andThen ((cache h).andThen hmark)

theorem Abides.commit {d : DraftId} {value : Option k.Data} (h : T.Fits k value) :
    T.Abides (fun _ => True) (a.commit r d value) := by
  refine (own (a := .draft d) trivial).bind fun draft _ => ?_
  split
  · exact fail rfl
  · exact (writeDirectly hwrites h .all).andThen
      ((own (a := .record d (value.map (.of k))) h.value).mono fun _ _ => trivial)

theorem Abides.write {value : Option k.Data} (h : T.Fits k value) (scope : Scope) :
    T.Abides (fun _ => True) (a.write r value scope) := by
  rw [Attribute.write]
  cases scope.session with
  | false => exact writeDirectly hwrites h scope
  | true =>
    refine (own (a := .openDraft k r.session a.name) trivial).bind fun found _ => ?_
    cases found with
    | some d => exact commit hwrites h
    | none => exact writeDirectly hwrites h scope

theorem Abides.remove (scope : Scope) : T.Abides (fun _ => True) (a.remove r scope) :=
  write hwrites fits_none scope

end Writes

section Creates

variable (hreads : T.reads a.store r.session) (hwrites : T.writes a.store r.session)
  (hlocks : T.locks a.table r.session) (hmake : T.Makes a)

include hreads hwrites hmake in
theorem Abides.supply (scope : Scope) :
    T.Abides (fun made => T.fit (.of k made.1)) (a.supply r scope) := by
  refine (stored hreads).bind fun found hfound => ?_
  cases found with
  | some d => exact done (hfound d rfl)
  | none =>
    exact (create hmake).bind fun d hd => (write hwrites (fits_some hd) scope).andThen (done hd)

include hlocks in
theorem Abides.hold : T.Abides (fun hold => hold.table = a.table) (a.hold r) := acquire hlocks

include hreads hwrites hlocks hmake

theorem Abides.createOnce (scope : Scope) :
    T.Abides (fun made => T.fit (.of k made.1)) (a.createOnce r scope) :=
  (hold hlocks).bind fun _ htable => ensuring (supply hreads hwrites hmake scope)
    (tidies_drop (htable ▸ hlocks))

theorem Abides.read (policy : ReadPolicy) (creating : Bool) (scope : Scope) :
    T.Abides (T.Fits k) (a.read r policy creating scope) := by
  cases creating with
  | false => exact find hreads policy scope
  | true =>
    rw [Attribute.read_eq]
    refine cached.bind fun c hcached => (look hreads policy hcached).bind fun found hfound => ?_
    cases found with
    | some d => exact fill (c.isNone && scope.request) (hfound d rfl)
    | none =>
      exact (createOnce hreads hwrites hlocks hmake scope).bind fun made hmade =>
        fill (!made.2 && scope.request) hmade

end Creates

end Attribute

/-! ### Sections -/

section Section

variable {k : Kind} {a : Attribute k} {r : RequestRef} {s : Section k}

/-- A section of an attribute, for a request. -/
structure Opens (a : Attribute k) (r : RequestRef) (s : Section k) : Prop where
  subject_eq : s.subject = a
  request_eq : s.request = r
  table_eq : ∀ hold, s.hold = some hold → hold.table = a.table

theorem Abides.copy (hmake : T.Makes s.subject) :
    T.Abides (fun d => T.fit (.of k d)) s.copy := by
  refine (own (a := .handOut s.draft) trivial).andThen
    ((own (a := .draft s.draft) trivial).bind fun draft hdraft => ?_)
  cases hcurrent : draft.current.bind (·.as? k) with
  | none => exact create hmake
  | some d =>
    obtain ⟨v, hv, hd⟩ := Option.bind_eq_some_iff.mp hcurrent
    exact done (Value.as?_eq_some_iff.mp hd ▸ hdraft v hv)

theorem Abides.section_commit (hwrites : T.writes s.subject.store s.request.session)
    {value : k.Data} (h : T.fit (.of k value)) : T.Abides (· = value) (s.commit value) :=
  (commit hwrites (fits_some h)).andThen (done rfl)

theorem Abides.discard : T.Abides (fun _ => True) s.discard :=
  (own (a := .discard s.draft) trivial).mono fun _ _ => trivial

variable (hlocks : T.locks a.table r.session)

include hlocks

theorem Abides.start (hreads : T.reads a.store r.session) (hmake : T.Makes a) :
    T.Abides (Opens a r) (Section.start a r) := by
  rw [Section.start_eq]
  refine (own (a := .openDraft k r.session a.name) trivial).bind fun found _ => ?_
  cases found with
  | some d => exact done ⟨rfl, rfl, fun hold hhold => by cases hhold⟩
  | none =>
    refine (hold hlocks).bind fun hold htable => onFailure ?_ (tidies_drop (htable ▸ hlocks))
    refine (pick hreads hmake).bind fun value hvalue => ?_
    refine (own (a := .begin k r.session a.name (.of k value)) ⟨⟨a.table, hlocks⟩, hvalue⟩).bind
      fun d _ => done ⟨rfl, rfl, fun hold' hhold' => ?_⟩
    cases hhold'
    exact htable

/-- Whatever closing a section finds, it is not refused. -/
theorem Opens.wp_finish (h : Opens a r s) (first : Option Refusal) :
    T.logic.wp (fun out last => (∃ b, out = .ok b) ∧ last = first) s.finish first := by
  rw [Section.finish]
  cases hhold : s.hold with
  | none => exact ⟨⟨false, rfl⟩, rfl⟩
  | some hold =>
    refine ⟨trivial, fun draft _ => ?_⟩
    have hfirst : first.or (met? (.own (.draft s.draft)) draft) = first := by simp [met?]
    rw [hfirst]
    change T.logic.wp _ (if draft.closed = true then _ else _) first
    split
    · exact ⟨⟨false, rfl⟩, rfl⟩
    · rw [← h.table_eq hold hhold] at hlocks
      rw [← h.request_eq] at hlocks
      refine ⟨⟨_, hlocks⟩, fun _ _ => ⟨⟨_, hlocks⟩, fun held _ => ⟨⟨_, rfl⟩, ?_⟩⟩⟩
      simp [met?, Refusal.met?]

theorem Opens.tidies_drop (h : Opens a r s) : T.Tidies s.drop := by
  intro first
  rw [Section.drop, Logic.wp_bind]
  refine Logic.wp_mono ?_ (h.wp_finish hlocks first)
  rintro _ _ ⟨⟨b, rfl⟩, hlast⟩
  exact ⟨rfl, hlast⟩

theorem Abides.close (h : Opens a r s) : T.Abides (fun _ => True) s.close := by
  intro first
  rw [Section.close, Logic.wp_bind]
  refine Logic.wp_mono ?_ (h.wp_finish hlocks first)
  rintro _ _ ⟨⟨b, rfl⟩, rfl⟩
  cases b with
  | true => exact fail rfl _
  | false => exact done trivial _

theorem Abides.within {α : Type} {V : α → Prop} {body : Section k → Routine α}
    (hreads : T.reads a.store r.session) (hmake : T.Makes a)
    (hbody : ∀ s, Opens a r s → T.Abides V (body s)) : T.Abides V (Section.within a r body) :=
  (start hlocks hreads hmake).bind fun s hs => ensuring (hbody s hs) (hs.tidies_drop hlocks)

end Section

end Terms

end SessionCart
