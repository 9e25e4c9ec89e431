import Mathlib.Data.List.Perm.Subperm
import SessionCart.Proofs.Desk.Spared

/-!
# What a switch leaves

A switch takes the current cart out of storage, chooses or makes the next one, writes the list of
parked carts, and makes the next cart current: up to five writes, one after the other. It can fail
before each of them, and nothing that has been written is taken back. So whether a failed switch has
lost a cart depends on how far it has come. A switch that ends well makes a cart only if the request
has none cached, or had to give it up.
-/

namespace SessionCart

namespace Desk

/-! ### Steps of a switch -/

/-- The place and the cart that an index names, if it names one. -/
def named? (index : Option String) (all : List Cart) : Option (Nat × Cart) :=
  (readIndex? index).bind fun i => all[i]?.map (i, ·)

/-- What a switch has stored before it makes a cart: the product store that the cart is wanted
for. -/
def noted (store : Option String) (shelf : Shelf) : Shelf :=
  match store.filter (!·.isEmpty) with
  | some store => shelf.set storeAttribute (.text store)
  | none => shelf

/-- The request with the product store that a cart is wanted for. -/
def wanting (store : Option String) (q : Request) : Request :=
  match store.filter (!·.isEmpty) with
  | some store => q.set storeAttribute (.text store)
  | none => q

/-- The request after the current cart has been taken out of storage, if there was one. -/
def parting (shelf : Shelf) (q : Request) : Request :=
  if shelf.currentCart?.isSome then (q.remove cartAttribute).markChanged cartAttribute else q

/-- The cart that becomes current where the index names none: the one that the request has cached, if
no cart was current, and else a new one. -/
inductive Next (d : Desk) (shelf : Shelf) (q : Request) (store : Option String) (next : Cart) :
    List Nat → Prop
  | reused : shelf.currentCart? = none → q.get? cartAttribute = some (.cart next) →
    Next d shelf q store next []
  | made (n : Nat) : shelf.currentCart?.isSome = true ∨ q.get? cartAttribute = none →
    d.cart.make n (wanting store (parting shelf q)) = .ok next → Next d shelf q store next [n]

/-- What a switch that has ended well leaves, with the numbers of the carts that it made. -/
structure Shifted (d : Desk) (index store : Option String) (shelf : Shelf) (q : Request)
    (shelf' : Shelf) (new : List Nat) : Prop where
  named : ∀ i c, named? index shelf.carts = some (i, c) →
    shelf' = shelf.stow ⟨c, shelf.carts.eraseIdx i⟩ ∧ new = []
  unnamed : named? index shelf.carts = none → ∃ next, d.Next shelf q store next new ∧
    shelf' = (noted store shelf).stow ⟨next, shelf.carts⟩

/-- How far a switch had come when it failed. -/
inductive Halt
  /-- Nothing was written. -/
  | early
  /-- The current cart was taken out, and a new one stored in its place or not, but the list was not
  written. -/
  | midway (next : Option Cart)
  /-- The list was written. -/
  | late (next : Option Cart)

namespace Halt

variable (index store : Option String) (shelf : Shelf)

/-- What is stored after a switch has failed. -/
inductive Left : Halt → Shelf → Prop
  | early : Left .early shelf
  | taken : Left (.midway none) (shelf.remove cartAttribute)
  | chosen (next : Option Cart) : named? index shelf.carts = none →
    Left (.midway next) ((noted store shelf).assign cartAttribute (next.map .cart))
  | named (i : Nat) (c : Cart) : named? index shelf.carts = some (i, c) → Left (.late none)
    ((shelf.remove cartAttribute).set parkedAttribute (.carts (shelf.carts.eraseIdx i)))
  | unnamed (next : Option Cart) : named? index shelf.carts = none → Left (.late next)
    (((noted store shelf).assign cartAttribute (next.map .cart)).set parkedAttribute
      (.carts shelf.carts))

/-- No cart is missing then. -/
def Spares : Halt → Prop
  | early => True
  | midway next => shelf.currentCart? = none ∨ next = shelf.currentCart?
  | late _ => named? index shelf.carts = none

end Halt

section Steps

variable {d : Desk} {r : RequestRef} {draft : Option DraftId} {shelf : Shelf} {q : Request}
  {index store : Option String}

theorem named?_eq_some_iff {all : List Cart} {i : Nat} {c : Cart} :
    named? index all = some (i, c) ↔ readIndex? index = some i ∧ all[i]? = some c := by
  simp only [named?, Option.bind_eq_some_iff, Option.map_eq_some_iff, Prod.mk.injEq]
  constructor
  · rintro ⟨i', hi, c', hc, rfl, rfl⟩
    exact ⟨hi, hc⟩
  · rintro ⟨hi, hc⟩
    exact ⟨i, hi, c, hc, rfl, rfl⟩

theorem named?_eq_none_iff {all : List Cart} :
    named? index all = none ↔ ∀ i, readIndex? index = some i → all.length ≤ i := by
  cases hindex : readIndex? index <;> simp [named?, hindex]

theorem value_noted {name : String} (hname : storeAttribute ≠ name) :
    (noted store shelf).value name = shelf.value name := by
  rw [noted]
  split
  case h_1 => rw [Shelf.value_set, if_neg hname]
  case h_2 => rfl

theorem noted_remove : (noted store shelf).remove cartAttribute =
    noted store (shelf.remove cartAttribute) := by
  rw [noted, noted]
  split
  case h_2 => rfl
  case h_1 =>
    refine Shelf.ext (funext fun name => ?_)
    rw [Shelf.value_remove, Shelf.value_set, Shelf.value_set, Shelf.value_remove]
    by_cases hcart : cartAttribute = name
    · subst hcart
      simp [storeAttribute, cartAttribute]
    · simp [hcart]

theorem next_of_cached {next : Cart}
    (h : (parting shelf q).get? cartAttribute = some (.cart next)) : d.Next shelf q store next [] := by
  unfold parting at h
  split at h
  case isTrue => simp at h
  case isFalse hcurrent => exact .reused (by simpa using hcurrent) h

theorem next_of_make {next : Cart} {n : Nat} (h : (parting shelf q).get? cartAttribute = none)
    (hmake : d.cart.make n (wanting store (parting shelf q)) = .ok next) :
    d.Next shelf q store next [n] := by
  refine .made n ?_ hmake
  unfold parting at h
  split at h
  case isTrue hcurrent => exact .inl hcurrent
  case isFalse => exact .inr h

namespace Brings

theorem parked : d.Brings r draft (d.parked r) shelf q (fun all shelf' q' new =>
    shelf' = shelf ∧ q' = q ∧ new = [] ∧ all = shelf.parkedCarts) (· = shelf) := by
  refine (find .carts parkedAttribute).bind (fun _ h => h) ?_
  rintro found _ _ _ ⟨rfl, rfl, rfl, hfound⟩
  exact done ⟨rfl, rfl, rfl, (Shelf.parkedCarts_of_value hfound).symm⟩

theorem noteStore (store : String) : d.Brings r draft (d.noteStore r store) shelf q
    (fun _ shelf' q' new => shelf' = shelf.set storeAttribute (.text store) ∧
      q' = q.set storeAttribute (.text store) ∧ new = [])
    (fun s => s = shelf ∨ s = shelf.set storeAttribute (.text store)) := by
  refine (put storeAttribute (.text store)).bind (fun _ h => .inl h) ?_
  rintro _ _ _ _ ⟨rfl, rfl, rfl⟩
  exact (cache storeAttribute (.text store)).mono (fun _ _ _ _ h => h) fun _ h => .inr h

variable (hname : d.cart.name = cartAttribute)

include hname

theorem collect : d.Brings r draft (d.collect r) shelf q (fun all shelf' q' new =>
    shelf' = shelf.remove cartAttribute ∧ q' = parting shelf q ∧ new = [] ∧ all = shelf.carts)
    (· = shelf) := by
  refine parked.bind (fun _ h => h) ?_
  rintro _ _ _ _ ⟨rfl, rfl, rfl, rfl⟩
  refine (find .cart cartAttribute).bind (fun _ h => h) ?_
  rintro found _ _ _ ⟨rfl, rfl, rfl, hfound⟩
  have hcurrent := Shelf.currentCart?_of_value hfound
  rw [Shelf.carts, parting, hcurrent]
  cases found with
  | none => exact done ⟨(Shelf.remove_of_value_eq_none hfound).symm, rfl, rfl, by simp⟩
  | some c =>
    refine (write none).bind (fun _ h => h) ?_
    rintro _ _ _ _ ⟨rfl, rfl, rfl⟩
    rw [hname]
    exact done ⟨rfl, rfl, rfl, rfl⟩

/-- The next cart, where none is stored, for a request that wants it for a product store. -/
theorem replace (store : Option String) (all : List Cart)
    (hnone : shelf.value cartAttribute = none) : d.Brings r draft (d.replace r store all) shelf q
    (fun p shelf' _ new => p.2 = all ∧
      (q.get? cartAttribute = some (.cart p.1) ∧ shelf' = noted store shelf ∧ new = [] ∨
      q.get? cartAttribute = none ∧ shelf' = (noted store shelf).set cartAttribute (.cart p.1) ∧
        ∃ n, new = [n] ∧ d.cart.make n (wanting store q) = .ok p.1))
    (fun s => s = shelf ∨ s = noted store shelf) := by
  have hnext : ∀ shelf q, shelf.value cartAttribute = none →
      d.Brings r draft (d.currentCart r >>= fun c => .done (c, all)) shelf q (fun p shelf' _ new =>
        p.2 = all ∧ (q.get? cartAttribute = some (.cart p.1) ∧ shelf' = shelf ∧ new = [] ∨
          q.get? cartAttribute = none ∧ shelf' = shelf.set cartAttribute (.cart p.1) ∧
            ∃ n, new = [n] ∧ d.cart.make n q = .ok p.1)) (· = shelf) := by
    intro shelf q hnone
    rw [← hname] at hnone ⊢
    refine (currentCart hnone).bind (fun _ h => h) ?_
    rintro c _ _ _ (⟨hcached, rfl, rfl, rfl⟩ | ⟨hcached, rfl, rfl, n, rfl, hmake⟩)
    · exact done ⟨rfl, .inl ⟨hcached, rfl, rfl⟩⟩
    · exact done ⟨rfl, .inr ⟨hcached, rfl, n, rfl, hmake⟩⟩
  rw [Desk.replace, noted, wanting]
  cases store.filter (!·.isEmpty) with
  | none => exact (hnext shelf q hnone).mono (fun _ _ _ _ h => h) fun _ h => .inl h
  | some store =>
    refine (noteStore store).bind (fun _ h => h) ?_
    rintro _ _ _ _ ⟨rfl, rfl, rfl⟩
    have hnotedNone : (shelf.set storeAttribute (.text store)).value cartAttribute = none := by
      rw [Shelf.value_set, if_neg (by decide), hnone]
    have hcached : (q.set storeAttribute (.text store)).get? cartAttribute =
        q.get? cartAttribute := by
      rw [Request.get?_set, if_neg (by decide)]
    have hrest := hnext _ (q.set storeAttribute (.text store)) hnotedNone
    rw [hcached] at hrest
    exact hrest.mono (fun _ _ _ _ h => h) fun _ h => .inr h

theorem place (next : Cart) (rest : List Cart) : d.Brings r draft
    (d.put r parkedAttribute (.carts rest) >>= fun _ => d.cart.write r (some next) .all) shelf q
    (fun _ shelf' _ new => shelf' = (shelf.set parkedAttribute (.carts rest)).set cartAttribute
      (.cart next) ∧ new = [])
    (fun s => s = shelf ∨ s = shelf.set parkedAttribute (.carts rest)) := by
  refine (put parkedAttribute (.carts rest)).bind (fun _ h => .inl h) ?_
  rintro _ _ _ _ ⟨rfl, rfl, rfl⟩
  rw [← hname]
  exact (write (some next)).mono (fun _ _ _ _ h => ⟨h.1, h.2.2⟩) fun _ h => .inr h

/-- Every end of a switch. -/
theorem switchCart (index store : Option String) : d.Brings r draft (d.switchCart r index store)
    shelf q (fun _ shelf' _ new => d.Shifted index store shelf q shelf' new)
    (fun s => ∃ halt : Halt, halt.Left index store shelf s) := by
  rw [switchCart_eq]
  refine locked ((collect hname).bind ?_ ?_) ⟨_, .early⟩
  · rintro _ rfl
    exact ⟨_, .early⟩
  rintro _ _ _ _ ⟨rfl, rfl, rfl, rfl⟩
  rw [Desk.pick, show ((readIndex? index).bind fun i => shelf.carts[i]?.map (i, ·)) =
    named? index shelf.carts from rfl]
  cases hnamed : named? index shelf.carts with
  | some p =>
    obtain ⟨i, c⟩ := p
    refine (place hname c (shelf.carts.eraseIdx i)).mono ?_ ?_
    · rintro _ _ _ _ ⟨rfl, rfl⟩
      refine ⟨fun i' c' h => ?_, fun h => absurd (hnamed.symm.trans h) (Option.some_ne_none _)⟩
      cases hnamed.symm.trans h
      refine ⟨Shelf.set_set_eq_stow (x := ⟨c, _⟩) fun name hcart _ => ?_, rfl⟩
      rw [Shelf.value_remove, if_neg hcart]
    · rintro _ (rfl | rfl)
      · exact ⟨_, .taken⟩
      · exact ⟨_, .named i c hnamed⟩
  | none =>
    have hnone : (shelf.remove cartAttribute).value cartAttribute = none := by simp
    refine ((replace hname store shelf.carts hnone).bind ?_ ?_)
    · rintro _ (rfl | rfl)
      · exact ⟨_, .taken⟩
      · rw [← noted_remove]
        exact ⟨_, .chosen none hnamed⟩
    rintro ⟨next, _⟩ shelf' q' new ⟨rfl, hnext⟩
    obtain ⟨made, hmade, hchosen⟩ : ∃ made : Option Cart, d.Next shelf q store next new ∧
        shelf' = (noted store shelf).assign cartAttribute (made.map .cart) := by
      rw [← noted_remove] at hnext
      rcases hnext with ⟨hcached, rfl, rfl⟩ | ⟨hcached, rfl, n, rfl, hmake⟩
      · exact ⟨none, next_of_cached hcached, rfl⟩
      · exact ⟨some next, next_of_make hcached hmake, Shelf.set_remove ..⟩
    refine (place hname next shelf.carts).mono ?_ ?_
    · rintro _ _ _ _ ⟨rfl, rfl⟩
      refine ⟨fun i c h => absurd (h.symm.trans hnamed) (Option.some_ne_none _), fun _ =>
        ⟨next, ?_, ?_⟩⟩
      · rwa [List.append_nil]
      · refine Shelf.set_set_eq_stow (x := ⟨next, _⟩) fun name hcart _ => ?_
        rw [hchosen, Shelf.value_assign, if_neg hcart]
    · rintro _ (rfl | rfl)
      · rw [hchosen]
        exact ⟨_, .chosen made hnamed⟩
      · rw [hchosen]
        exact ⟨_, .unnamed made hnamed⟩

end Brings

end Steps

/-! ### Carts that a failed switch loses -/

section Losses

variable {index store : Option String} {shelf shelf' : Shelf}

theorem carts_noted_assign (next : Option Cart) :
    ((noted store shelf).assign cartAttribute (next.map .cart)).carts =
      shelf.parkedCarts ++ next.toList := by
  have hparked : ((noted store shelf).assign cartAttribute (next.map .cart)).parkedCarts =
      shelf.parkedCarts := by
    rw [Shelf.parkedCarts, Shelf.value_assign, if_neg (by decide), value_noted (by decide)]
    rfl
  have hcurrent : ((noted store shelf).assign cartAttribute (next.map .cart)).currentCart? =
      next := by
    rw [Shelf.currentCart?, Shelf.value_assign, if_pos rfl]
    cases next <;> rfl
  rw [Shelf.carts, hparked, hcurrent]

theorem carts_set_parked (shelf : Shelf) (all : List Cart) :
    (shelf.set parkedAttribute (.carts all)).carts = all ++ shelf.currentCart?.toList := by
  rw [Shelf.carts, Shelf.parkedCarts, Shelf.currentCart?, Shelf.value_set, Shelf.value_set,
    if_pos rfl, if_neg (by decide)]
  rfl

theorem carts_remove (shelf : Shelf) :
    (shelf.remove cartAttribute).carts = shelf.parkedCarts := by
  rw [Shelf.carts, Shelf.parkedCarts, Shelf.currentCart?, Shelf.value_remove, Shelf.value_remove,
    if_pos rfl, if_neg (by decide)]
  exact List.append_nil _

/-- What a failed switch has left tells which carts are there. -/
theorem Halt.spares_iff {halt : Halt} (h : halt.Left index store shelf shelf') :
    shelf.carts.Subperm shelf'.carts ↔ halt.Spares index shelf := by
  cases h with
  | early => exact iff_of_true (List.Subperm.refl _) trivial
  | taken =>
    rw [carts_remove, Shelf.carts, Halt.Spares]
    cases shelf.currentCart? with
    | none => simp [List.Subperm.refl]
    | some c =>
      refine iff_of_false (fun hsub => ?_) (by simp)
      have hle := hsub.length_le
      rw [List.length_append] at hle
      exact Nat.not_succ_le_self _ hle
  | chosen next hnamed =>
    rw [carts_noted_assign, Shelf.carts, List.subperm_append_left, Halt.Spares]
    cases shelf.currentCart? with
    | none => simp
    | some c => cases next <;> simp [eq_comm]
  | named i c hnamed =>
    refine iff_of_false (fun hsub => ?_) (by simp [Halt.Spares, hnamed])
    have hcurrent : (shelf.remove cartAttribute).currentCart? = none := by
      rw [Shelf.currentCart?, Shelf.value_remove, if_pos rfl]
      rfl
    rw [carts_set_parked, hcurrent, Option.toList_none, List.append_nil] at hsub
    have hlt := (List.getElem?_eq_some_iff.mp (named?_eq_some_iff.mp hnamed).2).1
    have hle := hsub.length_le
    rw [List.length_eraseIdx_of_lt hlt] at hle
    omega
  | unnamed next hnamed =>
    rw [carts_set_parked]
    exact iff_of_true (List.sublist_append_left ..).subperm hnamed

end Losses

/-! ### Switches in a world -/

section Ends

variable {d : Desk} {r : RequestRef} {i : ThreadId} {others : World → World → Prop}
  {w w' : World} {l l' : Workspace} {index store : Option String}

/-- **What a failed switch loses.** Where others leave the session alone, a switch that fails, at
whichever of its calls and for whatever reason, leaves what one of its stages has left. No cart is
missing exactly if nothing was written yet, or the list was not written and the current cart, if
there was one, is not gone, or the list was written and no parked cart was to become current. -/
theorem failed_switch_keeps_carts_iff (hname : d.cart.name = cartAttribute) (hw : Calm w)
    (hknown : r.id < l.requests.length)
    (hspared : ∀ w w', others w w' → w.Sparing d.cart.store r.session i w') {f : Failure}
    (hends : (d.switchCart r index store).Ends i others w l (.error f) w' l') :
    ∃ halt : Halt,
      halt.Left index store (w.storage d.cart.store r.session) (w'.storage d.cart.store r.session) ∧
      ((w.storage d.cart.store r.session).carts.Subperm (w'.storage d.cart.store r.session).carts ↔
        halt.Spares index (w.storage d.cart.store r.session)) := by
  obtain ⟨events, hcourse⟩ := hends.exists_course
  obtain ⟨halt, hleft⟩ :=
    Brings.sound_fail (Brings.switchCart hname index store) hw hknown hspared hcourse
  exact ⟨halt, hleft, Halt.spares_iff hleft⟩

/-- A session with a cart, on storage that takes no new values. -/
def refusing : World :=
  Race.dawn.setBackend .main
    { store := Store.empty.set Race.arena cartAttribute (.cart basket)
      outage := .window .set 0 none "full" }

theorem calm_refusing : Calm refusing :=
  ⟨World.sound_new _, fun s => by cases s <;> rfl⟩

/-- The new cart cannot be stored, and the old one is out of storage already. -/
theorem cart_lost_by_failed_switch : ∃ w' l',
    (kiosk.switchCart ⟨0, Race.arena⟩ none none).run true 0 refusing
      { requests := [.new Race.arena] } =
        .finished (.error (.error (.storage ⟨"set", "full"⟩))) w' l' ∧
    (refusing.storage .main Race.arena).carts = [basket] ∧
    (w'.storage .main Race.arena).carts = [] :=
  ⟨_, _, rfl, rfl, rfl⟩

theorem failed_switch_keeps_carts_iff_refusing : ∃ f w' l' halt,
    (kiosk.switchCart ⟨0, Race.arena⟩ none none).Ends 0 (World.Quiet 0) refusing
      { requests := [.new Race.arena] } (.error f) w' l' ∧
    Halt.Left none none (refusing.storage .main Race.arena) halt (w'.storage .main Race.arena) ∧
    ¬halt.Spares none (refusing.storage .main Race.arena) := by
  have hrun : ∃ f w' l', (kiosk.switchCart ⟨0, Race.arena⟩ none none).run true 0 refusing
      { requests := [.new Race.arena] } = .finished (.error f) w' l' ∧
      (w'.storage .main Race.arena).carts.length < (refusing.storage .main Race.arena).carts.length :=
    ⟨_, _, _, rfl, by decide⟩
  obtain ⟨f, w', l', hrun, hfewer⟩ := hrun
  have hends := Routine.ends_of_run (World.Quiet.refl 0) hrun
  obtain ⟨halt, hleft, hiff⟩ := failed_switch_keeps_carts_iff rfl calm_refusing Nat.one_pos
    (fun _ _ h => h.sparing ..) hends
  exact ⟨f, w', l', halt, hends, hleft, fun hspares =>
    absurd (hiff.mpr hspares).length_le (Nat.not_le.mpr hfewer)⟩

/-- **When a switch makes a cart.** Where others leave the session alone, a switch to an index that
names no cart parks the current cart, if there is one. The cart that becomes current then was made on
the way exactly if there was a current cart, or the request had none cached. Otherwise it is the one
that the request had cached, and no cart was made. -/
theorem unnamed_switch_makes_iff (hname : d.cart.name = cartAttribute) (hw : Calm w)
    (hknown : r.id < l.requests.length)
    (hspared : ∀ w w', others w w' → w.Sparing d.cart.store r.session i w') {events : List Event}
    (hcourse : (d.switchCart r index store).Course i others w l events (.ended (.ok ())) w' l')
    (hindex : ∀ i, readIndex? index = some i →
      (w.storage d.cart.store r.session).carts.length ≤ i) :
    ∃ next, w'.storage d.cart.store r.session = (noted store
        (w.storage d.cart.store r.session)).stow ⟨next, (w.storage d.cart.store r.session).carts⟩ ∧
      ((∃ n ∈ Event.dealt events, d.cart.make n (wanting store
          (parting (w.storage d.cart.store r.session) (l.request r.id))) = .ok next) ↔
        (w.storage d.cart.store r.session).currentCart?.isSome = true ∨
          (l.request r.id).get? cartAttribute = none) ∧
      (¬((w.storage d.cart.store r.session).currentCart?.isSome = true ∨
          (l.request r.id).get? cartAttribute = none) →
        (l.request r.id).get? cartAttribute = some (.cart next) ∧ Event.dealt events = []) := by
  obtain ⟨_, q', hshifted⟩ :=
    Brings.sound (Brings.switchCart hname index store) hw hknown hspared hcourse
  obtain ⟨next, hnext, hshelf⟩ := hshifted.unnamed (named?_eq_none_iff.mpr hindex)
  refine ⟨next, hshelf, ?_⟩
  generalize Event.dealt events = new at hnext
  cases hnext with
  | reused hcurrent hcached =>
    have hnot : ¬((w.storage d.cart.store r.session).currentCart?.isSome = true ∨
        (l.request r.id).get? cartAttribute = none) := by
      rw [hcurrent, hcached]
      simp
    exact ⟨iff_of_false (by simp) hnot, fun _ => ⟨hcached, rfl⟩⟩
  | made n hor hmake =>
    exact ⟨iff_of_true ⟨n, List.mem_singleton_self n, hmake⟩ hor, fun hnot => absurd hor hnot⟩

theorem unnamed_switch_makes_iff_parked : ∃ events w' l' next n,
    (kiosk.switchCart ⟨0, Race.arena⟩ none none).Course 0 (World.Quiet 0) (stocked basket)
      { requests := [.new Race.arena] } events (.ended (.ok ())) w' l' ∧
    n ∈ Event.dealt events ∧ kiosk.cart.make n (wanting none
      (parting ((stocked basket).storage .main Race.arena) (.new Race.arena))) = .ok next ∧
    w'.storage .main Race.arena =
      ((stocked basket).storage .main Race.arena).stow ⟨next, [basket]⟩ := by
  have hrun : ∃ w' l', (kiosk.switchCart ⟨0, Race.arena⟩ none none).run true 0 (stocked basket)
      { requests := [.new Race.arena] } = .finished (.ok ()) w' l' := ⟨_, _, rfl⟩
  obtain ⟨w', l', hrun⟩ := hrun
  obtain ⟨events, hcourse⟩ := (Routine.ends_of_run (World.Quiet.refl 0) hrun).exists_course
  obtain ⟨next, hshelf, hiff, _⟩ := unnamed_switch_makes_iff rfl
    ⟨sound_stocked basket, calm_stocked basket⟩ Nat.one_pos (fun _ _ h => h.sparing ..) hcourse
    fun _ h => nomatch h
  obtain ⟨n, hn, hmake⟩ := hiff.mpr (.inl rfl)
  exact ⟨events, w', l', next, n, hcourse, hn, hmake, hshelf⟩

/-- One request has cached the cart that another one parks; the other one then removes the cart that
it has got in its place. Gives the first one. -/
def leftBehind : Routine RequestRef := do
  let first ← Routine.accept (.new Race.arena)
  let other ← Routine.accept (.new Race.arena)
  let _ ← kiosk.currentCart first
  kiosk.switchCart other none none
  kiosk.cart.remove other .all
  return first

/-- No cart is made, and the one that becomes current is parked too. -/
theorem cart_parked_and_current : ∃ r w l w' l',
    leftBehind.run true 0 (stocked basket) {} = .finished (.ok r) w l ∧
    (kiosk.switchCart r none none).run true 0 w l = .finished (.ok ()) w' l' ∧
    w'.made.get? kiosk.cart.label = w.made.get? kiosk.cart.label ∧
    (w'.storage .main Race.arena).currentCart? = some basket ∧
    (w'.storage .main Race.arena).parkedCarts = [basket] :=
  ⟨_, _, _, _, _, rfl, rfl, rfl, rfl, rfl⟩

end Ends

end Desk

end SessionCart
