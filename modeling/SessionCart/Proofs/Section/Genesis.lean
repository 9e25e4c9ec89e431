import SessionCart.Concurrency.Race
import SessionCart.Proofs.Section.Serializable
import SessionCart.Proofs.Thread.Attribute
import SessionCart.Proofs.Turn.Pact

/-!
# One value where there was none

A read that creates looks again once it has the lock, and makes a value only if still none is
stored. So of any number of them that race for a session without a value one makes it, and all
others find it. Even where update sections commit meanwhile, none of them writes over a value.
-/

namespace SessionCart

/-- A read of a fresh request that makes a missing value and stores it. -/
structure Access where
  policy : ReadPolicy
  /-- The value is to be cached too. -/
  caches : Bool

namespace Access

variable {k : Kind} (a : Attribute k) (session : SessionId)

def scope (access : Access) : Scope := ⟨true, access.caches⟩

def serve (access : Access) : Routine (Option k.Data) := do
  let r ← Routine.accept (.new session)
  a.read r access.policy true access.scope

def serveAll : List Access → Routine (List (Visit.Outcome k))
  | [] => return []
  | access :: rest => do
    let out ← (access.serve a session).attempt
    return out :: (← serveAll rest)

end Access

theorem Kind.decode_eq_error {k : Kind} {session : SessionId} {name : String}
    {value : Option Value} {e : Error} (h : k.decode session name value = .error e) :
    e = .typeMismatch session name ∧ ∃ v, value = some v ∧ v.as? k = none := by
  cases value with
  | none => cases h
  | some v =>
    rw [decode] at h
    cases hv : v.as? k with
    | none =>
      rw [hv] at h
      cases h
      exact ⟨rfl, v, rfl, hv⟩
    | some d =>
      rw [hv] at h
      cases h

/-! ### What a pact has to allow -/

/-- A value made where none is stored may be stored there. -/
structure Pact.Founds {x : Site} (P : Pact x) (writes : Shelf → Shelf → Prop) {k : Kind}
    (a : Attribute k) : Prop where
  made : ∀ {s n n' m d}, P.holds s n → s.value a.name = none →
    P.Counted n n' (.count a.label) m → a.make m (.new x.session) = .ok d →
    x.allows s (s.set a.name (.of k d)) ∧ writes s (s.set a.name (.of k d)) ∧
      P.holds (s.set a.name (.of k d)) n'
  failed : ∀ {s n n' m p}, P.holds s n → s.value a.name = none →
    P.Counted n n' (.count a.label) m → a.make m (.new x.session) = .error p → P.holds s n'

section Read

variable {k : Kind} {a : Attribute k}

/-- Why a read may fail where a thread has seen a shelf: the lock was not to be had in time, the
stored value is of another kind, or none could be made. -/
inductive Attribute.Fails (a : Attribute k) (session : SessionId) (s : Shelf) : Failure → Prop
  | timed_out : a.settings.lockTimeout.isSome = true →
    Fails a session s (.error (.lockTimeout session (a.settings.lockTimeout.getD ⟨0⟩)))
  | mismatch {value : Value} : s.value a.name = some value → value.as? k = none →
    Fails a session s (.error (.typeMismatch session a.name))
  | factory {n : Nat} {p : Panic} : a.make n (.new session) = .error p →
    Fails a session s (.panic p)

theorem Attribute.fails_of_decode {session : SessionId} {s : Shelf} {e : Error}
    (h : k.decode session a.name (s.value a.name) = .error e) : a.Fails session s (.error e) := by
  obtain ⟨rfl, value, hvalue, hkind⟩ := Kind.decode_eq_error h
  exact .mismatch hvalue hkind

/-- How a read has ended for its request, where the thread has seen a shelf. -/
inductive Access.Returned (access : Access) (a : Attribute k) (session : SessionId) :
    Visit.Outcome k → Request → Shelf → Prop
  | found {d : k.Data} {q : Request} {s : Shelf} : s.value a.name = some (.of k d) →
    (access.caches = true → q.get? a.name = some (.of k d)) →
    Returned access a session (.ok (some d)) q s
  | failed {f : Failure} {q : Request} {s : Shelf} : a.Fails session s f →
    Returned access a session (.error f) q s

namespace Pact

variable {x : Site} {P : Pact x} {writes : Shelf → Shelf → Prop} {r : RequestRef} {v : View}
  {n : Nat} (hx : x.Serves a r)

include hx

theorem wp_stored {Q : Except Failure (Option k.Data) → View × Nat → Prop}
    (h : ∀ now n', v.Sees x now → (v.inside = true → n' = n) →
      Q ((k.decode r.session a.name (now.value a.name)).mapError .error) (v.put now, n')) :
    (P.logic writes).wp Q (a.stored r) (v, n) := by
  rw [Attribute.stored, Logic.wp_bind]
  refine wp_getStored hx.store_eq hx.session_eq fun now n' hnow hn' => ?_
  dsimp only
  rw [Attribute.typed_eq, Logic.wp_ofExcept]
  exact h now n' hnow hn'

omit hx in
theorem wp_create {Q : Except Failure k.Data → View × Nat → Prop} (hin : v.inside = true)
    (h : ∀ m n', P.Counted n n' (.count a.label) m →
      Q ((a.make m (v.workspace.request r.id)).mapError .panic) (v, n')) :
    (P.logic writes).wp Q (a.create r) (v, n) := by
  rw [Attribute.create, Logic.wp_bind]
  refine wp_count hin fun m n' hcounted => ?_
  have hm := h m n' hcounted
  dsimp only [Logic.wp_done]
  rw [Logic.wp_bind]
  change (P.logic writes).wp Q _ (v, n')
  split
  all_goals
    rename_i hmake
    change a.make m (v.workspace.request r.id) = _ at hmake
    rw [hmake] at hm
    exact hm

omit hx in
theorem wp_openDraft {Q : Except Failure (Option DraftId) → View × Nat → Prop}
    {session : SessionId} {name : String}
    (h : Q (.ok (v.workspace.openDraft? k session name)) (v, n)) :
    (P.logic writes).wp Q (Routine.openDraft k session name) (v, n) := h

theorem wp_write {Q : Except Failure Unit → View × Nat → Prop} (hin : v.inside = true)
    (hopen : v.workspace.active.get? (r.session, a.name) = none) (caches : Bool) {d : k.Data}
    (hallows : x.allows v.shelf (v.shelf.set a.name (.of k d)))
    (hwrites : writes v.shelf (v.shelf.set a.name (.of k d)))
    (h : Q (.ok ()) ((v.put (v.shelf.set a.name (.of k d))).work
      (v.workspace.wrote r a.name ⟨true, caches⟩ (some (.of k d))), n)) :
    (P.logic writes).wp Q (a.write r (some d) ⟨true, caches⟩) (v, n) := by
  have hnone : v.workspace.openDraft? k r.session a.name = none := by
    simp [Workspace.openDraft?, hopen]
  rw [Attribute.write, if_pos (by rfl), Logic.wp_bind]
  refine wp_openDraft ?_
  rw [hnone]
  change (P.logic writes).wp Q (Routine.setStored a.store r.session a.name (.of k d) >>= fun _ => _)
    (v, n)
  rw [Logic.wp_bind]
  refine wp_setStored hx.store_eq hx.session_eq hin hallows hwrites ?_
  cases caches <;> exact h

/-- What has come of a look under the lock: a value that was stored, or one made and written. -/
inductive Settled (a : Attribute k) (r : RequestRef) (caches : Bool) (l : Workspace) :
    Except Failure (k.Data × Bool) → View → Prop
  | found {d : k.Data} {v : View} : v.shelf.value a.name = some (.of k d) → v.workspace = l →
    Settled a r caches l (.ok (d, false)) v
  | made {d : k.Data} {v : View} : v.shelf.value a.name = some (.of k d) →
    v.workspace = l.wrote r a.name ⟨true, caches⟩ (some (.of k d)) →
    Settled a r caches l (.ok (d, true)) v
  | failed {f : Failure} {v : View} : a.Fails r.session v.shelf f → v.workspace = l →
    Settled a r caches l (.error f) v

theorem wp_createOnce (hP : P.Founds writes a) (htickets : v.tickets = [])
    (hopen : v.workspace.active.get? (r.session, a.name) = none)
    (hfresh : v.workspace.request r.id = .new r.session) (caches : Bool) :
    (P.logic writes).wp (fun out s => s.1.tickets = [] ∧ x.allows v.shelf s.1.shelf ∧
        Settled a r caches v.workspace out s.1)
      (a.createOnce r ⟨true, caches⟩) (v, n) := by
  have hout : v.inside = false := by simp [View.inside, htickets]
  rw [Attribute.createOnce, Logic.wp_bind]
  refine wp_acquire hx.table_eq hx.session_eq hout (fun hlimit _ => ?_)
    fun key now n₁ _ hallows hholds => ?_
  · exact ⟨htickets, x.refl _, .failed (.timed_out hlimit) rfl⟩
  have hheld : (v.hold key now).tickets = [(key, true)] := by simp [View.hold, htickets]
  have hinside : (v.hold key now).inside = true := View.inside_hold v
  dsimp only
  rw [Logic.wp_ensuring, Logic.wp_bind]
  refine wp_stored hx fun later n₂ hlater hn₂ => ?_
  rw [hlater.eq_shelf hinside, hn₂ hinside, View.put_self,
    show (v.hold key now).shelf = now from rfl]
  cases hstored : k.decode r.session a.name (now.value a.name) with
  | error e =>
    refine wp_drop hx.table_eq hheld hholds fun v' _ htickets' hl hs => ?_
    have hnow : v'.shelf = now := hs
    exact ⟨htickets', hnow ▸ hallows, .failed (hnow ▸ Attribute.fails_of_decode hstored) hl⟩
  | ok found =>
    cases found with
    | some d =>
      refine wp_drop hx.table_eq hheld hholds fun v' _ htickets' hl hs => ?_
      have hnow : v'.shelf = now := hs
      exact ⟨htickets', hnow ▸ hallows, .found (hnow ▸ Kind.decode_eq_some hstored) hl⟩
    | none =>
      have hnone := Kind.decode_eq_none hstored
      change (P.logic writes).wp _ (a.create r >>= fun d =>
        a.write r (some d) ⟨true, caches⟩ >>= fun _ => Routine.done (d, true)) (v.hold key now, n₁)
      rw [Logic.wp_bind]
      refine wp_create hinside fun m n₃ hcounted => ?_
      rw [show (v.hold key now).workspace.request r.id = _ from hfresh, hx.session_eq]
      cases hmake : a.make m (.new x.session) with
      | error p =>
        refine wp_drop hx.table_eq hheld (hP.failed hholds hnone hcounted hmake) ?_
        intro v' _ htickets' hl hs
        have hnow : v'.shelf = now := hs
        exact ⟨htickets', hnow ▸ hallows, .failed (.factory (hx.session_eq ▸ hmake)) hl⟩
      | ok d =>
        obtain ⟨hset, hwrites, hkept⟩ := hP.made hholds hnone hcounted hmake
        change (P.logic writes).wp _ (a.write r (some d) ⟨true, caches⟩ >>= fun _ =>
          Routine.done (d, true)) (v.hold key now, n₃)
        rw [Logic.wp_bind]
        refine wp_write hx hinside hopen caches hset hwrites ?_
        refine wp_drop hx.table_eq hheld hkept fun v' _ htickets' hl hs => ?_
        have hnow : v'.shelf = now.set a.name (.of k d) := hs
        exact ⟨htickets', hnow ▸ x.trans hallows hset, .made (by simp [hnow]) hl⟩

theorem wp_look_none {Q : Except Failure (Option k.Data) → View × Nat → Prop} (policy : ReadPolicy)
    (h : ∀ now n', v.Sees x now →
      Q ((k.decode r.session a.name (now.value a.name)).mapError .error) (v.put now, n')) :
    (P.logic writes).wp Q (Attribute.look (a := a) r policy none) (v, n) := by
  cases policy with
  | requestFirst => exact wp_stored hx fun now n' hnow _ => h now n' hnow
  | sessionFirst =>
    rw [Attribute.look, Logic.wp_bind]
    refine wp_stored hx fun now n' hnow _ => ?_
    have hlast := h now n' hnow
    cases hstored : k.decode r.session a.name (now.value a.name) with
    | error e =>
      rw [hstored] at hlast
      exact hlast
    | ok found =>
      rw [hstored] at hlast
      rw [← Option.or_none (o := found)] at hlast
      exact hlast

end Pact

end Read

/-! ### What a read does -/

namespace Workspace

variable {l : Workspace} {r : RequestRef} {rs : List Request} {q : Request}
  (h : l.requests = rs ++ [q]) (hr : r.id = rs.length)

include h hr

theorem requests_editRequest_last (f : Request → Request) :
    (l.editRequest r.id f).requests = rs ++ [f q] := by
  simp [editRequest, h, hr, List.modify_eq_take_cons_drop]

theorem requests_keep_last (name : String) (value : Value) :
    (l.keep r name (some value)).requests = rs ++ [q.set name value] :=
  requests_editRequest_last h hr _

theorem requests_wrote_last (name : String) (caches : Bool) (value : Value) :
    ∃ q', (l.wrote r name ⟨true, caches⟩ (some value)).requests = rs ++ [q'] ∧
      (caches = true → q'.get? name = some value) := by
  cases caches with
  | true =>
    exact ⟨_, requests_editRequest_last (requests_keep_last h hr name value) hr _, fun _ => by simp⟩
  | false => exact ⟨_, requests_editRequest_last h hr _, fun hfalse => by cases hfalse⟩

end Workspace

section Serve

variable {k : Kind} {a : Attribute k} {session : SessionId} {x : Site} {P : Pact x}
  {writes : Shelf → Shelf → Prop} {v : View} {n : Nat}

/-- What a thread knows when a read is over, that had seen a shelf and some requests before. -/
structure Access.Over (access : Access) (x : Site) (a : Attribute k) (session : SessionId)
    (before : Shelf) (rs : List Request) (out : Visit.Outcome k) (v : View) : Prop where
  rest : v.AtRest session a.name
  allows : x.allows before v.shelf
  request : ∃ q, v.workspace.requests = rs ++ [q] ∧ access.Returned a session out q v.shelf

theorem Access.wp_fill {policy : ReadPolicy} {caches : Bool} {before : Shelf} {rs : List Request}
    {q : Request} {d : k.Data} (hrest : v.AtRest session a.name) (hallows : x.allows before v.shelf)
    (hrequests : v.workspace.requests = rs ++ [q])
    (hvalue : v.shelf.value a.name = some (.of k d)) :
    (P.logic writes).wp
      (fun out s => Access.Over ⟨policy, caches⟩ x a session before rs out s.1)
      (a.settle ⟨rs.length, session⟩ true ⟨true, caches⟩ none (some d)) (v, n) := by
  cases caches with
  | true =>
    exact ⟨⟨hrest.tickets_eq, hrest.closed⟩, hallows, _,
      Workspace.requests_keep_last hrequests rfl .., .found hvalue fun _ => by simp⟩
  | false => exact ⟨hrest, hallows, q, hrequests, .found hvalue fun hfalse => by cases hfalse⟩

variable (hx : ∀ id, x.Serves a ⟨id, session⟩) (hP : P.Founds writes a)

include hx hP

theorem Access.wp_serve (access : Access) (hrest : v.AtRest session a.name) :
    (P.logic writes).wp
      (fun out s => access.Over x a session v.shelf v.workspace.requests out s.1)
      (access.serve a session) (v, n) := by
  obtain ⟨policy, caches⟩ := access
  -- the request that the read is for
  let r : RequestRef := ⟨v.workspace.requests.length, session⟩
  let l : Workspace := { v.workspace with requests := v.workspace.requests ++ [.new session] }
  have hrequests : l.requests = v.workspace.requests ++ [.new session] := rfl
  have hfresh : l.request r.id = .new session := by simp [l, r, Workspace.request]
  change (P.logic writes).wp _ (a.read r policy true ⟨true, caches⟩) (v.work l, n)
  rw [Attribute.read_eq, Logic.wp_bind]
  have hcached : a.cached r = Routine.request r >>= fun q => a.typed r (q.get? a.name) := rfl
  rw [hcached, Logic.wp_bind]
  change (P.logic writes).wp _ (a.typed r ((l.request r.id).get? a.name)) (v.work l, n)
  rw [hfresh]
  change (P.logic writes).wp _ (Attribute.look r policy none >>= _) (v.work l, n)
  rw [Logic.wp_bind]
  refine Pact.wp_look_none (hx _) policy fun now n₁ hnow => ?_
  have hallows : x.allows v.shelf now := by
    have houtside : (v.work l).inside = false := by
      simp [View.inside, View.work, hrest.tickets_eq]
    rw [View.Sees, houtside, if_neg (by decide)] at hnow
    exact hnow
  have hrest' : ((v.work l).put now).AtRest session a.name := ⟨hrest.tickets_eq, hrest.closed⟩
  cases hstored : k.decode r.session a.name (now.value a.name) with
  | error e =>
    exact ⟨hrest', hallows, _, hrequests, .failed (Attribute.fails_of_decode hstored)⟩
  | ok found =>
    cases found with
    | some d => exact wp_fill hrest' hallows hrequests (Kind.decode_eq_some hstored)
    | none =>
      change (P.logic writes).wp _ (a.createOnce r ⟨true, caches⟩ >>= _) ((v.work l).put now, n₁)
      rw [Logic.wp_bind]
      refine Logic.wp_mono ?_
        (Pact.wp_createOnce (hx _) hP hrest'.tickets_eq hrest'.closed hfresh caches)
      rintro out ⟨v₁, n₂⟩ ⟨htickets, hlater, hsettled⟩
      have hallows₁ := x.trans hallows hlater
      cases hsettled with
      | failed hfails hl =>
        have hclosed : v₁.workspace.active.get? (session, a.name) = none := hl ▸ hrest.closed
        exact ⟨⟨htickets, hclosed⟩, hallows₁, _, (congrArg Workspace.requests hl).trans hrequests,
          .failed hfails⟩
      | found hvalue hl =>
        have hclosed : v₁.workspace.active.get? (session, a.name) = none := hl ▸ hrest.closed
        exact wp_fill ⟨htickets, hclosed⟩ hallows₁
          ((congrArg Workspace.requests hl).trans hrequests) hvalue
      | @made d _ hvalue hl =>
        obtain ⟨q, hq, hcached⟩ :=
          Workspace.requests_wrote_last (r := r) hrequests rfl a.name caches (.of k d)
        have hclosed : v₁.workspace.active.get? (session, a.name) = none := by
          rw [show v₁.workspace = _ from hl]
          cases caches <;> exact hrest.closed
        refine ⟨⟨htickets, hclosed⟩, hallows₁, q, ?_, .found hvalue hcached⟩
        rw [show v₁.workspace = _ from hl]
        exact hq

theorem Access.wp_serveAll (accesses : List Access) (hrest : v.AtRest session a.name) :
    (P.logic writes).wp (fun out s => s.1.AtRest session a.name ∧ x.allows v.shelf s.1.shelf ∧
        ∃ es : List (Visit.Outcome k × Request), out = .ok (es.map Prod.fst) ∧
          s.1.workspace.requests = v.workspace.requests ++ es.map Prod.snd ∧
          List.Forall₂ (fun access e => ∃ seen, x.allows seen s.1.shelf ∧
            Access.Returned access a session e.1 e.2 seen) accesses es)
      (serveAll a session accesses) (v, n) := by
  induction accesses generalizing v n with
  | nil => exact ⟨hrest, x.refl _, [], rfl, (List.append_nil _).symm, .nil⟩
  | cons access rest ih =>
    have hserve : serveAll a session (access :: rest) = (access.serve a session).attempt >>=
      fun out => serveAll a session rest >>= fun outs => .done (out :: outs) := rfl
    rw [hserve, Logic.wp_bind, Logic.wp_attempt]
    refine Logic.wp_mono ?_ (access.wp_serve hx hP hrest)
    rintro out ⟨v₁, n₁⟩ ⟨hrest₁, hallows₁, q, hrequests₁, hreturned⟩
    dsimp only
    rw [Logic.wp_bind]
    refine Logic.wp_mono ?_ (ih hrest₁)
    rintro _ ⟨v₂, n₂⟩ ⟨hrest₂, hallows₂, es, rfl, hrequests₂, hall⟩
    refine ⟨hrest₂, x.trans hallows₁ hallows₂, (out, q) :: es, rfl, ?_,
      .cons ⟨v₁.shelf, hallows₂, hreturned⟩ hall⟩
    change v₂.workspace.requests = _
    rw [hrequests₂, hrequests₁, List.append_assoc]
    rfl

end Serve

/-! ### Every interleaving -/

section Race

variable {k : Kind} (a : Attribute k) (session : SessionId)

/-- Where only reads write, what is stored stays stored. -/
def Attribute.readSite : Site where
  session := session
  store := a.store
  table := a.table
  allows s s' := ∀ value, s.value a.name = some value → s'.value a.name = some value
  refl _ _ := id
  trans h h' value := h' value ∘ h value

/-- Between turns nothing is stored and nothing was made, or one value was made and it is stored. -/
def Attribute.genesisPact (before : Nat) : Pact (a.readSite session) where
  label := some a.label
  holds s n := s.value a.name = none ∧ n = before ∨
    ∃ d, a.make (before + 1) (.new session) = .ok d ∧ s.value a.name = some (.of k d) ∧
      n = before + 1

/-- A made value is written where none was stored. -/
def Attribute.Founding (s s' : Shelf) : Prop :=
  s.value a.name = none ∧ ∃ n d, a.make n (.new session) = .ok d ∧ s' = s.set a.name (.of k d)

variable {a session}

theorem Attribute.founds_genesisPact (hmake : ∀ n, ∃ d, a.make n (.new session) = .ok d)
    (before : Nat) : (a.genesisPact session before).Founds (fun _ _ => True) a where
  made := by
    intro s n n' m d hholds hnone hcounted hm
    obtain ⟨-, rfl⟩ : s.value a.name = none ∧ n = before := by
      refine hholds.resolve_right ?_
      rintro ⟨_, _, hsome, _⟩
      rw [hnone] at hsome
      cases hsome
    rw [Pact.Counted, if_pos (show (a.genesisPact session n).label = some a.label from rfl)]
      at hcounted
    obtain ⟨rfl, rfl⟩ := hcounted
    refine ⟨fun value hvalue => ?_, trivial, .inr ⟨d, hm, by simp, rfl⟩⟩
    rw [hnone] at hvalue
    cases hvalue
  failed := by
    intro s n n' m p _ _ _ hm
    obtain ⟨d, hd⟩ := hmake m
    cases (hd.symm.trans hm)

theorem Attribute.founds_vacuous :
    (Pact.vacuous (a.site session)).Founds (a.Founding session) a where
  made := by
    intro s n n' m d _ hnone _ hm
    exact ⟨a.allows_set s _, ⟨hnone, m, d, hm, rfl⟩, trivial⟩
  failed _ _ _ _ := trivial

theorem Attribute.Founding.set_eq {s : Shelf} {name : String} {value : Value}
    (h : a.Founding session s (s.set name value)) :
    name = a.name ∧ s.value a.name = none ∧
      ∃ n d, a.make n (.new session) = .ok d ∧ value = .of k d := by
  obtain ⟨hnone, n, d, hmake, hset⟩ := h
  have hvalue := congrArg (fun s => Shelf.value s a.name) hset
  simp only [Shelf.value_set, if_true] at hvalue
  by_cases hname : name = a.name
  · rw [if_pos hname] at hvalue
    exact ⟨hname, hnone, n, d, hmake, Option.some.inj hvalue⟩
  · rw [if_neg hname, hnone] at hvalue
    cases hvalue

/-- If the thread is about to write, then a made value, and none is stored. -/
def Attribute.Founder (a : Attribute k) (session : SessionId) {ρ : Type} (m : Machine ρ)
    (i : ThreadId) : Prop :=
  ∀ s st owner name value next, m.strands[i]? = some s →
    s.rest = .act (.world (.set st owner name value)) next →
    (st, owner, name) = (a.store, session, a.name) ∧
      (m.world.backend a.store).store.get? session a.name = none ∧
      ∃ n d, a.make n (.new session) = .ok d ∧ value = .of k d

/-- The `j`-th read of a thread is over, with an outcome, and the request it was for is left so. -/
def Access.Came (readers : List (List Access)) (m : Machine (List (Visit.Outcome k)))
    (i : ThreadId) (j : Nat) (access : Access) (out : Visit.Outcome k) (q : Request) : Prop :=
  readers[i]?.bind (·[j]?) = some access ∧
    ∃ s outs, m.strands[i]? = some s ∧ s.rest = .done outs ∧ outs[j]? = some out ∧
      s.workspace.requests[j]? = some q

/-- What has become of reads for a session that had no value, when so many had been made. -/
structure Access.Genesis (a : Attribute k) (session : SessionId) (readers : List (List Access))
    (before : Nat) (m : Machine (List (Visit.Outcome k))) : Prop where
  came : ∀ i j access, readers[i]?.bind (·[j]?) = some access →
    ∃ out q, Came readers m i j access out q
  timed_out : ∀ i j access f q, Came readers m i j access (.error f) q →
    a.settings.lockTimeout.isSome = true ∧
      f = .error (.lockTimeout session (a.settings.lockTimeout.getD ⟨0⟩))
  one : ∀ i j access found q, Came readers m i j access (.ok found) q →
    ∃ d, a.make (before + 1) (.new session) = .ok d ∧ Race.made m.world a.label = before + 1 ∧
      (m.world.backend a.store).store.get? session a.name = some (.of k d) ∧
      ∀ i j access found q, Came readers m i j access (.ok found) q →
        found = some d ∧ (access.caches = true → q.get? a.name = some (.of k d))

/-- What is known of the reads of a thread when it has ended. -/
def Access.AllOver (a : Attribute k) (session : SessionId) (readers : List (List Access))
    (i : ThreadId) (out : Except Failure (List (Visit.Outcome k))) (s : View × Nat) : Prop :=
  s.1.AtRest session a.name ∧ ∃ es : List (Visit.Outcome k × Request),
    out = .ok (es.map Prod.fst) ∧ s.1.workspace.requests = es.map Prod.snd ∧
    List.Forall₂ (fun access e => ∃ seen, (a.readSite session).allows seen s.1.shelf ∧
      Access.Returned access a session e.1 e.2 seen) (readers[i]?.getD []) es

section Ended

variable {readers : List (List Access)} {w : World} {m : Machine (List (Visit.Outcome k))}
  {before : Nat} {first : Shelf} {views : ThreadId → View} {turns : List Turn}
  (h : (a.genesisPact session before).Kept (fun _ _ _ => True) (Access.AllOver a session readers)
    first m views turns none)
  (houts : ∀ i s, m.strands[i]? = some s → ∃ out, s.rest.outcome? = some out ∧
    ∀ n, Access.AllOver a session readers i out (views i, n))

include h houts

theorem Access.exists_results {i : ThreadId} {accesses : List Access}
    {s : Strand (List (Visit.Outcome k))} (haccesses : readers[i]? = some accesses)
    (hs : m.strands[i]? = some s) : ∃ es : List (Visit.Outcome k × Request),
      s.rest = .done (es.map Prod.fst) ∧ s.workspace.requests = es.map Prod.snd ∧
      List.Forall₂ (fun access e => ∃ seen, Access.Returned access a session e.1 e.2 seen ∧
        (a.readSite session).allows seen ((a.readSite session).shelf m.world)) accesses es := by
  obtain ⟨out, hout, hover⟩ := houts i s hs
  obtain ⟨hrest, es, rfl, hrequests, hall⟩ := hover 0
  rw [haccesses, Option.getD_some] at hall
  refine ⟨es, ?_, h.workspace_eq i s hs ▸ hrequests, hall.imp fun access e he => ?_⟩
  · cases hdone : s.rest with
    | done outs =>
      rw [hdone] at hout
      cases hout
      rfl
    | fail f =>
      rw [hdone] at hout
      cases hout
    | act b next =>
      rw [hdone] at hout
      cases hout
  · obtain ⟨seen, hseen, hreturned⟩ := he
    have hsees := h.tidy.sees i
    rw [View.Sees, if_neg (by simp [View.inside, show (views i).tickets = [] from
      hrest.tickets_eq])] at hsees
    exact ⟨seen, hreturned, (a.readSite session).trans hseen hsees⟩

/-- What a read has found is stored for good. -/
theorem Access.Came.exists_returned {i : ThreadId} {j : Nat} {access : Access}
    {out : Visit.Outcome k} {q : Request} (hcame : Came readers m i j access out q) :
    ∃ seen, access.Returned a session out q seen ∧
      (a.readSite session).allows seen ((a.readSite session).shelf m.world) := by
  obtain ⟨haccess, s, outs, hs, hrest, hout, hq⟩ := hcame
  obtain ⟨accesses, haccesses, haccess⟩ := Option.bind_eq_some_iff.mp haccess
  obtain ⟨es, hdone, hrequests, hall⟩ := exists_results h houts haccesses hs
  rw [hdone] at hrest
  cases hrest
  rw [hrequests] at hq
  rw [List.getElem?_map, Option.map_eq_some_iff] at hout hq
  obtain ⟨e, he, rfl⟩ := hout
  obtain ⟨e', he', rfl⟩ := hq
  rw [he, Option.some.injEq] at he'
  subst he'
  obtain ⟨hj, rfl⟩ := List.getElem?_eq_some_iff.mp haccess
  obtain ⟨hj', rfl⟩ := List.getElem?_eq_some_iff.mp he
  exact hall.get hj hj'

theorem Access.exists_came (hlength : m.strands.length = readers.length) {i : ThreadId} {j : Nat}
    {access : Access} (haccess : readers[i]?.bind (·[j]?) = some access) :
    ∃ out q, Came readers m i j access out q := by
  obtain ⟨accesses, haccesses, hj⟩ := Option.bind_eq_some_iff.mp haccess
  obtain ⟨s, hs⟩ : ∃ s, m.strands[i]? = some s := by
    refine ⟨_, List.getElem?_eq_getElem ?_⟩
    rw [hlength]
    exact (List.getElem?_eq_some_iff.mp haccesses).1
  obtain ⟨es, hdone, hrequests, hall⟩ := exists_results h houts haccesses hs
  obtain ⟨e, he⟩ : ∃ e, es[j]? = some e := by
    refine ⟨_, List.getElem?_eq_getElem ?_⟩
    rw [← hall.length_eq]
    exact (List.getElem?_eq_some_iff.mp hj).1
  exact ⟨e.1, e.2, haccess, s, _, hs, hdone, by simp [he], by simp [hrequests, he]⟩

theorem Access.genesis_of_ended (hmake : ∀ n, ∃ d, a.make n (.new session) = .ok d)
    (hlength : m.strands.length = readers.length) : Genesis a session readers before m := by
  have hpact := h.holds rfl
  refine ⟨fun i j access => exists_came h houts hlength, ?_, ?_⟩
  · intro i j access f q hcame
    obtain ⟨seen, ⟨⟩ | ⟨hfails⟩, hstays⟩ := hcame.exists_returned h houts
    cases hfails with
    | timed_out hlimit => exact ⟨hlimit, rfl⟩
    | mismatch hseen hkind =>
      -- a value of another kind would be stored still
      have hvalue := hstays _ hseen
      rcases hpact with ⟨hnone, -⟩ | ⟨d, -, hsome, -⟩
      · rw [hnone] at hvalue
        cases hvalue
      · rw [hsome, Option.some.injEq] at hvalue
        rw [← hvalue, Value.as?_of] at hkind
        cases hkind
    | @factory n p hfail =>
      obtain ⟨d, hd⟩ := hmake n
      cases hd.symm.trans hfail
  · have hfound : ∀ i j access found q, Came readers m i j access (.ok found) q →
        ∃ d, found = some d ∧ ((a.readSite session).shelf m.world).value a.name = some (.of k d) ∧
          (access.caches = true → q.get? a.name = some (.of k d)) := by
      intro i j access found q hcame
      obtain ⟨seen, ⟨hseen, hcached⟩ | ⟨⟩, hstays⟩ := hcame.exists_returned h houts
      exact ⟨_, rfl, hstays _ hseen, hcached⟩
    intro i j access found q hcame
    obtain ⟨d, rfl, hvalue, -⟩ := hfound i j access found q hcame
    rcases hpact with ⟨hnone, -⟩ | ⟨d', hd', hsome, hmade⟩
    · rw [hnone] at hvalue
      cases hvalue
    refine ⟨d', hd', hmade, hsome, fun i j access found q hcame => ?_⟩
    obtain ⟨d, rfl, hvalue, hcached⟩ := hfound i j access found q hcame
    have hsame : d = d' := by
      have hkind := congrArg (·.bind (Value.as? k)) (hvalue.symm.trans hsome)
      simpa using hkind
    subst hsame
    exact ⟨rfl, hcached⟩

end Ended

section Start

variable {w : World} (hidle : (w.locks a.table).Idle) (hcalm : (w.backend a.store).Calm)
  {readers : List (List Access)} {m : Machine (List (Visit.Outcome k))}

include hidle hcalm

theorem Access.genesis_of_reach
    (hnone : (w.backend a.store).store.get? session a.name = none)
    (hmake : ∀ n, ∃ d, a.make n (.new session) = .ok d)
    (hreach : (Machine.start w (readers.map (serveAll a session))).Reach m) (hended : m.Ended) :
    Genesis a session readers (Race.made w a.label) m := by
  have hstart : (a.genesisPact session (Race.made w a.label)).Kept (fun _ _ _ => True)
      (AllOver a session readers) ((a.readSite session).shelf w)
      (.start w (readers.map (serveAll a session)))
      (fun _ => .fresh ((a.readSite session).shelf w)) [] none := by
    refine .start hidle hcalm (.inl ⟨hnone, rfl⟩) fun i r hr n => ?_
    rw [List.getElem?_map, Option.map_eq_some_iff] at hr
    obtain ⟨accesses, haccesses, rfl⟩ := hr
    refine Logic.wp_mono ?_ (wp_serveAll (x := a.readSite session) (fun _ => ⟨rfl, rfl, rfl⟩)
      (a.founds_genesisPact hmake _) accesses ⟨rfl, rfl⟩)
    rintro _ s ⟨hrest, -, es, rfl, hrequests, hall⟩
    rw [AllOver, haccesses]
    exact ⟨hrest, es, rfl, hrequests, hall⟩
  obtain ⟨views, turns, holder, h⟩ := hstart.reach hreach
  obtain ⟨rfl, houts⟩ := h.ended (fun i out s hover => by
    simp [View.inside, hover.1.tickets_eq]) hended
  refine genesis_of_ended h houts hmake ?_
  rw [hreach.length_eq]
  simp [Machine.start]

theorem Access.founder_of_reach {visitors : List (List (Visit k))}
    (hreach : (Machine.start w (readers.map (serveAll a session) ++
      visitors.map (Visit.serveAll a session))).Reach m) {i : ThreadId}
    (hi : i < readers.length) : a.Founder session m i := by
  intro s st owner name value next hs hrest
  let writes : ThreadId → Shelf → Shelf → Prop := fun i =>
    if i < readers.length then a.Founding session else fun _ _ => True
  have hstart : (Pact.vacuous (a.site session)).Kept writes (fun _ _ _ => True)
      ((a.site session).shelf w) (.start w (readers.map (serveAll a session) ++
        visitors.map (Visit.serveAll a session)))
      (fun _ => .fresh ((a.site session).shelf w)) [] none := by
    refine .start hidle hcalm trivial fun j r hr n => ?_
    by_cases hj : j < readers.length
    · rw [List.getElem?_append_left (by rwa [List.length_map]), List.getElem?_map,
        Option.map_eq_some_iff] at hr
      obtain ⟨accesses, -, rfl⟩ := hr
      rw [show writes j = a.Founding session from if_pos hj]
      exact Logic.wp_mono (fun _ _ _ => trivial) (wp_serveAll
        (fun _ => Attribute.serves _ rfl) Attribute.founds_vacuous accesses ⟨rfl, rfl⟩)
    · have hlength : (readers.map (serveAll a session)).length ≤ j := by
        rw [List.length_map]
        exact Nat.le_of_not_lt hj
      rw [List.getElem?_append_right hlength, List.getElem?_map, Option.map_eq_some_iff] at hr
      obtain ⟨visits, -, rfl⟩ := hr
      rw [show writes j = fun _ _ => True from if_neg hj]
      exact Logic.wp_mono (fun _ _ _ => trivial)
        (Pact.wp_vacuous (Visit.wp_serveAll visits ⟨rfl, rfl⟩) n)
  obtain ⟨views, turns, holder, h⟩ := hstart.reach hreach
  have hkeeps := h.keeps i s hs _ fun _ => rfl
  rw [hrest, Logic.wp_act] at hkeeps
  obtain ⟨hwrites, -, hst, howner, hin, -⟩ := hkeeps
  have hfounding := hwrites _ rfl
  rw [show writes i = a.Founding session from if_pos hi] at hfounding
  obtain ⟨hname, hnone, hmade⟩ := hfounding.set_eq
  refine ⟨by rw [hst, howner, hname]; rfl, ?_, hmade⟩
  rw [h.tidy.shelf_eq hin] at hnone
  exact hnone

end Start

/-- **One value where there was none.** Requests of some threads read a value and make it if it is
missing. Where none was stored, no factory fails and all have ended, one value was made if any read
has succeeded, and it is stored; a read that has succeeded has got it, and cached it if it was to,
and one that has failed has not got the lock in time. And where other threads change the value in
update sections meanwhile, a read never writes over a value. -/
theorem Access.one_genesis (a : Attribute k) (session : SessionId) (w : World)
    (hidle : (w.locks a.table).Idle) (hcalm : (w.backend a.store).Calm)
    (readers : List (List Access)) :
    ((w.backend a.store).store.get? session a.name = none →
      (∀ n, ∃ d, a.make n (.new session) = .ok d) →
      ∀ m, (Machine.start w (readers.map (serveAll a session))).Reach m → m.Ended →
        Genesis a session readers (Race.made w a.label) m) ∧
    ∀ (visitors : List (List (Visit k))) m,
      (Machine.start w (readers.map (serveAll a session) ++
        visitors.map (Visit.serveAll a session))).Reach m →
      ∀ i < readers.length, a.Founder session m i :=
  ⟨fun hnone hmake _ hreach hended => genesis_of_reach hidle hcalm hnone hmake hreach hended,
    fun _ _ hreach _ hi => founder_of_reach hidle hcalm hreach hi⟩

/-- Two threads race for a counter, and in another race one is about to write while a third one has
looked. -/
theorem Access.one_genesis_counter :
    let readers : List (List Access) :=
      [[⟨.sessionFirst, true⟩], [⟨.requestFirst, true⟩, ⟨.requestFirst, false⟩]]
    let routines := readers.map (serveAll Race.counter Race.arena)
    let m := (Machine.start Race.dawn routines).follow (List.replicate 40 [0, 1]).flatten
    let m' := (Machine.start Race.dawn
      (routines ++ [[Visit.increment]].map (Visit.serveAll Race.counter Race.arena))).follow
        ([2, 2, 2] ++ List.replicate 9 0)
    ((m.results.flatMap fun outs => outs.toOption.getD []).map (· matches .ok (some (.num 0 0))) =
        [true, true, true] ∧
      Genesis Race.counter Race.arena readers 0 m) ∧
    (m'.strands[0]?.any fun s =>
        s.rest matches .act (.world (.set .main _ "n" (.json (.num 0 0)))) _) = true ∧
      Race.counter.Founder Race.arena m' 0 := by
  intro readers routines m m'
  obtain ⟨hgenesis, hfounder⟩ := Access.one_genesis Race.counter Race.arena Race.dawn
    (LockTable.idle_new _) ⟨fun _ _ => rfl, rfl⟩ readers
  refine ⟨⟨by decide +kernel, ?_⟩, by decide +kernel, ?_⟩
  · exact hgenesis rfl (fun _ => ⟨_, rfl⟩) m (Machine.reach_follow _ _)
      (Machine.ended_of_length (by decide +kernel))
  · exact hfounder [[Visit.increment]] m' (Machine.reach_follow _ _) 0 (by decide)

end Race

end SessionCart
