import SessionCart.Proofs.Section.Actions
import SessionCart.Session.Attribute

/-!
# Rules for attributes

What reading, making and writing the value of an attribute does to what the thread knows. What a
read finds depends on two values alone, the cached and the stored one. A rule for an operation that
other threads can get in the way of asks for all that may be found then.
-/

namespace SessionCart

/-! ### What a read finds -/

namespace Kind

variable (k : Kind) (session : SessionId) (name : String)

/-- A found value as a value of the kind. -/
def decode : Option Value → Except Error (Option k.Data)
  | none => .ok none
  | some v => match v.as? k with
    | some d => .ok (some d)
    | none => .error (.typeMismatch session name)

/-- What a read finds that makes nothing. -/
def finds (policy : ReadPolicy) (cached stored : Option Value) : Except Error (Option k.Data) :=
  match policy, k.decode session name cached with
  | _, .error e => .error e
  | .requestFirst, .ok (some d) => .ok (some d)
  | .requestFirst, .ok none => k.decode session name stored
  | .sessionFirst, .ok c => (k.decode session name stored).map (·.or c)

variable {k session name}

theorem decode_eq_some {value : Option Value} {d : k.Data}
    (h : k.decode session name value = .ok (some d)) : value = some (.of k d) := by
  cases value with
  | none => cases h
  | some v =>
    rw [decode] at h
    cases hv : v.as? k with
    | none => simp [hv] at h
    | some d' =>
      simp only [hv, Except.ok.injEq, Option.some.injEq] at h
      rw [← h, Value.as?_eq_some_iff.mp hv]

theorem decode_eq_none {value : Option Value} (h : k.decode session name value = .ok none) :
    value = none := by
  cases value with
  | none => rfl
  | some v =>
    rw [decode] at h
    cases hv : v.as? k <;> simp [hv] at h

theorem finds_of_decode_none {policy : ReadPolicy} {cached : Option Value}
    (h : k.decode session name cached = .ok none) (stored : Option Value) :
    k.finds session name policy cached stored = k.decode session name stored := by
  simp only [finds, h]
  cases policy with
  | requestFirst => rfl
  | sessionFirst =>
    cases k.decode session name stored with
    | error e => rfl
    | ok found => cases found <;> rfl

theorem finds_eq_none {policy : ReadPolicy} {cached stored : Option Value}
    (h : k.finds session name policy cached stored = .ok none) : cached = none ∧ stored = none := by
  cases hcached : k.decode session name cached with
  | error e => cases policy <;> simp [finds, hcached] at h
  | ok c =>
    cases policy with
    | requestFirst =>
      cases c with
      | some d => simp [finds, hcached] at h
      | none =>
        simp only [finds, hcached] at h
        exact ⟨decode_eq_none hcached, decode_eq_none h⟩
    | sessionFirst =>
      cases hstored : k.decode session name stored with
      | error e => simp [finds, hcached, hstored, Except.map] at h
      | ok s =>
        simp only [finds, hcached, hstored, Except.map, Except.ok.injEq,
          Option.or_eq_none_iff] at h
        obtain ⟨rfl, rfl⟩ := h
        exact ⟨decode_eq_none hcached, decode_eq_none hstored⟩

theorem finds_sessionFirst {cached stored : Option Value} {d : k.Data}
    (h : k.finds session name .sessionFirst cached stored = .ok (some d)) :
    stored = some (.of k d) ∨ stored = none ∧ cached = some (.of k d) := by
  cases hcached : k.decode session name cached with
  | error e => simp [finds, hcached] at h
  | ok c =>
    cases hstored : k.decode session name stored with
    | error e => simp [finds, hcached, hstored, Except.map] at h
    | ok found =>
      simp only [finds, hcached, hstored, Except.map, Except.ok.injEq] at h
      cases found with
      | some d' =>
        rw [Option.some_or, Option.some.injEq] at h
        exact .inl (h ▸ decode_eq_some hstored)
      | none =>
        rw [Option.none_or] at h
        rw [h] at hcached
        exact .inr ⟨decode_eq_none hstored, decode_eq_some hcached⟩

end Kind

namespace Attribute

variable {k : Kind} (a : Attribute k) (session : SessionId)

/-- What a section starts from, where a value made now would be the `n`-th. -/
def opening (n : Nat) (request : Request) (stored : Option Value) : Except Failure k.Data :=
  match k.finds session a.name .sessionFirst (request.get? a.name) stored with
  | .error e => .error (.error e)
  | .ok (some d) => .ok d
  | .ok none => (a.make n request).mapError .panic

variable {a session}

theorem typed_eq (r : RequestRef) (value : Option Value) :
    a.typed r value = Routine.ofExcept (k.decode r.session a.name value) := by
  cases value with
  | none => rfl
  | some v =>
    rw [typed, Kind.decode]
    cases v.as? k <;> rfl

/-- The part of a read that looks into session storage. -/
def look (r : RequestRef) : (policy : ReadPolicy) → (cached : Option k.Data) →
    Routine (Option k.Data)
  | .requestFirst, some d => .done (some d)
  | .requestFirst, none => a.stored r
  | .sessionFirst, cached => a.stored r >>= fun found => .done (found.or cached)

/-- The part of a read that makes a value and caches what there is. -/
def settle (a : Attribute k) (r : RequestRef) (creating : Bool) (scope : Scope)
    (cached : Option k.Data) : (found : Option k.Data) → Routine (Option k.Data)
  | some d => do
    if cached.isNone && scope.request then a.cache r (some d)
    return some d
  | none => do
    if creating then
      let (d, isNew) ← a.createOnce r scope
      if !isNew && scope.request then a.cache r (some d)
      return some d
    else return none

theorem read_eq (r : RequestRef) (policy : ReadPolicy) (creating : Bool) (scope : Scope) :
    a.read r policy creating scope =
      a.cached r >>= fun c => look (a := a) r policy c >>= a.settle r creating scope c := by
  unfold read
  congr 1
  funext c
  cases policy with
  | requestFirst => cases c <;> rfl
  | sessionFirst =>
    rw [look, Routine.bind_assoc]
    refine congrArg (a.stored r >>= ·) (funext fun found => ?_)
    cases found <;> rfl

/-- What a section starts from: what is found, or else a new value. -/
def pick (a : Attribute k) (r : RequestRef) : Routine k.Data :=
  a.read r .sessionFirst false .all >>= fun found => match found with
    | some d => .done d
    | none => a.create r

end Attribute

/-- The attribute is one of the site, and the request is of its session. -/
structure Site.Serves (x : Site) {k : Kind} (a : Attribute k) (r : RequestRef) : Prop where
  store_eq : a.store = x.store
  table_eq : a.table = x.table
  session_eq : r.session = x.session

section Attribute

variable {x : Site} {k : Kind} {a : Attribute k} {r : RequestRef} {v : View}

theorem wp_cached {Q : Except Failure (Option k.Data) → View → Prop}
    (h : Q ((k.decode r.session a.name ((v.workspace.cached r).value a.name)).mapError .error) v) :
    x.wp Q (a.cached r) v := by
  rw [Attribute.cached, Site.wp_bind]
  change x.wp Q (a.typed r ((v.workspace.cached r).value a.name)) v
  rw [Attribute.typed_eq, wp_ofExcept]
  exact h

theorem wp_stored {Q : Except Failure (Option k.Data) → View → Prop} (hx : x.Serves a r)
    (h : ∀ now, v.Sees x now →
      Q ((k.decode r.session a.name (now.value a.name)).mapError .error) (v.put now)) :
    x.wp Q (a.stored r) v := by
  rw [Attribute.stored, Site.wp_bind]
  refine wp_getStored hx.store_eq hx.session_eq fun now hnow => ?_
  change x.wp Q (a.typed r (now.value a.name)) (v.put now)
  rw [Attribute.typed_eq, wp_ofExcept]
  exact h now hnow

theorem wp_create {Q : Except Failure k.Data → View → Prop}
    (h : ∀ n, Q ((a.make n (v.workspace.request r.id)).mapError .panic) v) :
    x.wp Q (a.create r) v := by
  rw [Attribute.create, Site.wp_bind]
  intro n
  have hn := h n
  dsimp only [Site.wp_done]
  rw [Site.wp_bind]
  change x.wp Q _ v
  split
  all_goals
    rename_i hmake
    change a.make n (v.workspace.request r.id) = _ at hmake
    rw [hmake] at hn
    exact hn

theorem wp_hold {Q : Except Failure Hold → View → Prop} (hx : x.Serves a r)
    (hexpire : a.settings.lockTimeout.isSome = true →
      Q (.error (.error (.lockTimeout r.session (a.settings.lockTimeout.getD ⟨0⟩)))) v)
    (hgot : ∀ key now, (∀ e ∈ v.tickets, e.1 ≠ key) → v.Sees x now →
      Q (.ok ⟨a.table, r.session, key⟩) (v.hold key now)) :
    x.wp Q (a.hold r) v :=
  wp_acquire hx.table_eq hx.session_eq hexpire hgot

theorem View.sees_shelf (v : View) (x : Site) : v.Sees x v.shelf := by
  rw [View.Sees]
  split
  · rfl
  · exact x.refl _

theorem wp_look {Q : Except Failure (Option k.Data) → View → Prop} (hx : x.Serves a r)
    (policy : ReadPolicy) {cached : Option Value} {c : Option k.Data}
    (hcached : k.decode r.session a.name cached = .ok c) (h : ∀ now, v.Sees x now →
      Q ((k.finds r.session a.name policy cached (now.value a.name)).mapError .error)
        (v.put now)) :
    x.wp Q (Attribute.look (a := a) r policy c) v := by
  cases policy with
  | requestFirst =>
    cases c with
    | some d =>
      have hfound := h v.shelf (v.sees_shelf x)
      simp only [Kind.finds, hcached] at hfound
      exact hfound
    | none =>
      refine wp_stored hx fun now hnow => ?_
      rw [← Kind.finds_of_decode_none hcached]
      exact h now hnow
  | sessionFirst =>
    rw [Attribute.look, Site.wp_bind]
    refine wp_stored hx fun now hnow => ?_
    have hfound := h now hnow
    simp only [Kind.finds, hcached] at hfound
    cases hstored : k.decode r.session a.name (now.value a.name) with
    | error e =>
      rw [hstored] at hfound
      exact hfound
    | ok found =>
      rw [hstored] at hfound
      exact hfound

/-- What is found is cached, unless it was found in the cache. -/
theorem wp_settle_found {Q : Except Failure (Option k.Data) → View → Prop} {policy : ReadPolicy}
    {stored : Option Value} {c : Option k.Data} {d : k.Data}
    (hcached : k.decode r.session a.name ((v.workspace.cached r).value a.name) = .ok c)
    (hfound : k.finds r.session a.name policy ((v.workspace.cached r).value a.name) stored =
      .ok (some d)) (creating : Bool)
    (h : Q (.ok (some d)) (v.work (v.workspace.fill r a.name stored))) :
    x.wp Q (a.settle r creating .all c (some d)) v := by
  cases c with
  | some d' =>
    rw [Workspace.fill_of_some (Kind.decode_eq_some hcached)] at h
    exact h
  | none =>
    rw [Kind.finds_of_decode_none hcached] at hfound
    rw [Kind.decode_eq_some hfound, Workspace.fill_of_none (Kind.decode_eq_none hcached)] at h
    exact h

theorem wp_read {Q : Except Failure (Option k.Data) → View → Prop} (hx : x.Serves a r)
    (policy : ReadPolicy) (creating : Bool) (h : ∀ now, v.Sees x now →
      match k.finds r.session a.name policy ((v.workspace.cached r).value a.name)
        (now.value a.name) with
      | .error e => Q (.error (.error e)) (v.put now)
      | .ok (some d) =>
        Q (.ok (some d)) ((v.put now).work (v.workspace.fill r a.name (now.value a.name)))
      | .ok none => x.wp Q (a.settle r creating .all none none) (v.put now)) :
    x.wp Q (a.read r policy creating .all) v := by
  rw [Attribute.read_eq, Site.wp_bind]
  refine wp_cached ?_
  cases hcached : k.decode r.session a.name ((v.workspace.cached r).value a.name) with
  | error e =>
    have hnow := h v.shelf (v.sees_shelf x)
    have herror : Q (.error (.error e)) v := by
      cases policy <;> simpa only [Kind.finds, hcached, View.put_self] using hnow
    exact herror
  | ok c =>
    change x.wp Q (Attribute.look r policy c >>= a.settle r creating .all c) v
    rw [Site.wp_bind]
    refine wp_look hx policy hcached fun now hsees => ?_
    have hnow := h now hsees
    cases hfound : k.finds r.session a.name policy ((v.workspace.cached r).value a.name)
      (now.value a.name) with
    | error e =>
      rw [hfound] at hnow
      exact hnow
    | ok found =>
      rw [hfound] at hnow
      cases found with
      | some d => exact wp_settle_found (v := v.put now) hcached hfound creating hnow
      | none =>
        rw [(Kind.finds_eq_none hfound).1] at hcached
        cases hcached
        exact hnow

theorem wp_find {Q : Except Failure (Option k.Data) → View → Prop} (hx : x.Serves a r)
    (policy : ReadPolicy) (h : ∀ now, v.Sees x now →
      match k.finds r.session a.name policy ((v.workspace.cached r).value a.name)
        (now.value a.name) with
      | .error e => Q (.error (.error e)) (v.put now)
      | .ok found =>
        Q (.ok found) ((v.put now).work (v.workspace.fill r a.name (now.value a.name)))) :
    x.wp Q (a.read r policy false .all) v := by
  refine wp_read hx policy false fun now hsees => ?_
  have hnow := h now hsees
  cases hfinds : k.finds r.session a.name policy ((v.workspace.cached r).value a.name)
    (now.value a.name) with
  | error e =>
    rw [hfinds] at hnow
    exact hnow
  | ok found =>
    rw [hfinds] at hnow
    cases found with
    | some d => exact hnow
    | none =>
      rw [(Kind.finds_eq_none hfinds).2, Workspace.fill_none] at hnow
      exact hnow

theorem wp_pick {Q : Except Failure k.Data → View → Prop} (hx : x.Serves a r)
    (hin : v.inside = true) (h : ∀ n,
      match a.opening r.session n (v.workspace.request r.id) (v.shelf.value a.name) with
      | .error f => Q (.error f) v
      | .ok d => Q (.ok d) (v.work (v.workspace.fill r a.name (v.shelf.value a.name)))) :
    x.wp Q (a.pick r) v := by
  rw [Attribute.pick, Site.wp_bind]
  refine wp_find hx .sessionFirst fun now hnow => ?_
  rw [hnow.eq_shelf hin]
  change match k.finds r.session a.name .sessionFirst ((v.workspace.request r.id).get? a.name)
    (v.shelf.value a.name) with | .error e => _ | .ok found => _
  cases hfound : k.finds r.session a.name .sessionFirst ((v.workspace.request r.id).get? a.name)
    (v.shelf.value a.name) with
  | error e =>
    have hfail := h 0
    rw [Attribute.opening, hfound] at hfail
    exact hfail
  | ok found =>
    cases found with
    | some d =>
      have hold := h 0
      rw [Attribute.opening, hfound] at hold
      exact hold
    | none =>
      obtain ⟨_, hmissing⟩ := Kind.finds_eq_none hfound
      rw [hmissing, Workspace.fill_none]
      refine wp_create fun n => ?_
      have hnew := h n
      rw [Attribute.opening, hfound, hmissing, Workspace.fill_none] at hnew
      change Q ((a.make n (v.workspace.request r.id)).mapError .panic) v
      cases hmake : a.make n (v.workspace.request r.id) <;> rw [hmake] at hnew <;> exact hnew

theorem wp_writeDirectly {Q : Except Failure Unit → View → Prop} (hx : x.Serves a r)
    (hin : v.inside = true) {d : k.Data} (hallows : x.allows v.shelf (v.shelf.set a.name (.of k d)))
    (h : Q (.ok ()) ((v.put (v.shelf.set a.name (.of k d))).work
      (v.workspace.store r a.name (.of k d)))) :
    x.wp Q (a.writeDirectly r (some d) .all) v := by
  change x.wp Q (Routine.setStored a.store r.session a.name (.of k d) >>= fun _ =>
    Routine.cache r a.name (.of k d) >>= fun _ => Routine.mark r a.name) v
  rw [Site.wp_bind]
  exact wp_setStored hx.store_eq hx.session_eq hin hallows h

theorem wp_removeDirectly {Q : Except Failure Unit → View → Prop} (hx : x.Serves a r)
    (hin : v.inside = true) (hallows : x.allows v.shelf (v.shelf.remove a.name))
    (h : Q (.ok ()) ((v.put (v.shelf.remove a.name)).work (v.workspace.unstore r a.name))) :
    x.wp Q (a.writeDirectly r none .all) v := by
  change x.wp Q ((Routine.removeStored a.store r.session a.name >>= fun _ => Routine.done ()) >>=
    fun _ => Routine.uncache r a.name >>= fun _ => Routine.mark r a.name) v
  rw [Site.wp_bind, Site.wp_bind]
  exact wp_removeStored hx.store_eq hx.session_eq hin hallows h

section Write

variable {Q : Except Failure Unit → View → Prop} (hx : x.Serves a r) (hin : v.inside = true)
  (hopen : v.workspace.active.get? (r.session, a.name) = none)

include hx hin hopen

theorem wp_write {d : k.Data} (hallows : x.allows v.shelf (v.shelf.set a.name (.of k d)))
    (h : Q (.ok ()) ((v.put (v.shelf.set a.name (.of k d))).work
      (v.workspace.store r a.name (.of k d)))) :
    x.wp Q (a.write r (some d) .all) v := by
  have hnone : v.workspace.openDraft? k r.session a.name = none := by
    simp [Workspace.openDraft?, hopen]
  rw [Attribute.write, if_pos (by rfl), Site.wp_bind]
  simp only [Routine.openDraft, Routine.own, Site.wp_own, Workspace.perform, hnone]
  exact wp_writeDirectly hx hin hallows h

theorem wp_remove (hallows : x.allows v.shelf (v.shelf.remove a.name))
    (h : Q (.ok ()) ((v.put (v.shelf.remove a.name)).work (v.workspace.unstore r a.name))) :
    x.wp Q (a.remove r .all) v := by
  have hnone : v.workspace.openDraft? k r.session a.name = none := by
    simp [Workspace.openDraft?, hopen]
  rw [Attribute.remove, Attribute.write, if_pos (by rfl), Site.wp_bind]
  simp only [Routine.openDraft, Routine.own, Site.wp_own, Workspace.perform, hnone]
  exact wp_removeDirectly hx hin hallows h

end Write

theorem wp_createOnce {Q : Except Failure (k.Data × Bool) → View → Prop} (hx : x.Serves a r)
    (hopen : v.workspace.active.get? (r.session, a.name) = none)
    (hexpire : a.settings.lockTimeout.isSome = true →
      Q (.error (.error (.lockTimeout r.session (a.settings.lockTimeout.getD ⟨0⟩)))) v)
    (hgot : ∀ key now, (∀ e ∈ v.tickets, e.1 ≠ key) → v.Sees x now → ∀ n,
      match k.decode r.session a.name (now.value a.name) with
      | .error e => Q (.error (.error e)) ((v.hold key now).leave key)
      | .ok (some d) => Q (.ok (d, false)) ((v.hold key now).leave key)
      | .ok none => match a.make n (v.workspace.request r.id) with
        | .error p => Q (.error (.panic p)) ((v.hold key now).leave key)
        | .ok d => x.allows now (now.set a.name (.of k d)) ∧
          Q (.ok (d, true)) ((((v.hold key now).put (now.set a.name (.of k d))).work
            (v.workspace.store r a.name (.of k d))).leave key)) :
    x.wp Q (a.createOnce r .all) v := by
  rw [Attribute.createOnce, Site.wp_bind]
  refine wp_hold hx hexpire fun key now hfresh hnow => ?_
  have hmade := hgot key now hfresh hnow
  have hmem : (key, true) ∈ (v.hold key now).tickets := by simp [View.hold]
  dsimp only
  rw [Site.wp_ensuring, Site.wp_bind]
  refine wp_stored hx fun later hlater => ?_
  have hshelf : (v.hold key now).shelf = now := rfl
  rw [hlater.eq_shelf (View.inside_hold v), hshelf]
  cases hstored : k.decode r.session a.name (now.value a.name) with
  | error e =>
    have herror := hmade 0
    rw [hstored] at herror
    exact wp_drop hx.table_eq hmem herror
  | ok found =>
    cases found with
    | some d =>
      have hfound := hmade 0
      rw [hstored] at hfound
      exact wp_drop hx.table_eq hmem hfound
    | none =>
      change x.wp _ (a.create r >>= fun d => a.write r (some d) .all >>= fun _ =>
        Routine.done (d, true)) (v.hold key now)
      rw [Site.wp_bind]
      refine wp_create fun n => ?_
      have hnew := hmade n
      rw [hstored] at hnew
      have hrequest : (v.hold key now).workspace.request r.id = v.workspace.request r.id := rfl
      dsimp only [View.put_self] at hnew ⊢
      rw [hrequest]
      cases hmake : a.make n (v.workspace.request r.id) with
      | error p =>
        rw [hmake] at hnew
        exact wp_drop hx.table_eq hmem hnew
      | ok d =>
        rw [hmake] at hnew
        obtain ⟨hallows, hlast⟩ := hnew
        change x.wp _ (a.write r (some d) .all >>= fun _ => Routine.done (d, true)) (v.hold key now)
        rw [Site.wp_bind]
        refine wp_write hx (View.inside_hold v) hopen hallows ?_
        exact wp_drop hx.table_eq hmem hlast

end Attribute

end SessionCart
