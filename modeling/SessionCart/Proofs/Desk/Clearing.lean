import SessionCart.Proofs.Desk.Renewal

/-!
# Emptying the cart

To empty the cart and to destroy it begin alike: a cart is emptied in a section, and an anonymous
customer's session is dropped but for the login. What is left at the counter is computed step by
step, and with it what is left of the session.
-/

namespace SessionCart

namespace Desk

variable {d : Desk} {r : RequestRef} {c : Counter} {stored : Option Cart} {user : Option UserLogin}

/-- What a section starts from, and the counter then. -/
inductive Picked (d : Desk) (c : Counter) : Option Cart → Cart → Counter → Prop
  | stored (y : Cart) : Picked d c (some y) y (c.fill d.cart.name y)
  | cached {y : Cart} : c.request.get? d.cart.name = some (.cart y) → Picked d c none y c
  | made {y : Cart} {n : Nat} : c.request.get? d.cart.name = none →
    d.cart.make n c.request = .ok y → Picked d c none y (c.deal n)

theorem Picked.bare_eq {y : Cart} {c₁ : Counter} (h : d.Picked c stored y c₁) :
    c₁.shelf = c.shelf ∧ c₁.drafting = c.drafting := by
  cases h with
  | stored y => exact ⟨Counter.shelf_fill _, Counter.drafting_fill _⟩
  | cached => exact ⟨rfl, rfl⟩
  | made => exact ⟨rfl, rfl⟩

section Parts

variable (hmake : ∀ n q, ∃ y, d.cart.make n q = .ok y)
  (hstored : c.shelf.value d.cart.name = stored.map .cart)

include hmake hstored

theorem Reaches.picked : d.Reaches r True (d.cart.pick r) c (d.Picked c stored) := by
  by_cases htyped : ∃ cached : Option Cart, c.request.get? d.cart.name = cached.map .cart
  · obtain ⟨cached, hcached⟩ := htyped
    cases stored with
    | some y =>
      refine (Returns.pick hcached hstored (y := y) rfl).mono ?_
      rintro _ _ ⟨rfl, rfl⟩
      exact .stored _
    | none =>
      cases cached with
      | some y =>
        refine (Returns.pick hcached hstored (y := y) rfl).mono ?_
        rintro _ _ ⟨rfl, rfl⟩
        rw [Counter.fill_of_some hcached]
        exact .cached hcached
      | none =>
        refine (pick hcached hstored hmake rfl).mono ?_
        rintro y _ ⟨n, hy, rfl⟩
        exact .made hcached hy
  · rw [Attribute.pick, Attribute.read_eq, Routine.bind_assoc]
    refine (cached_alien trivial fun cached h => htyped ⟨cached, h⟩).bind ?_
    exact fun _ _ h => h.elim

/-- A change of the cart that cannot fail, made in a section of its own. -/
theorem Reaches.changed (hnone : c.drafting = none) (f : Cart → Cart) :
    d.Reaches r True (d.update r fun y => (.ok (), f y)) c fun _ c' => ∃ y c₁,
      d.Picked c stored y c₁ ∧ c' = c₁.write d.cart.name (some (f y)) := by
  have hchange : change (fun y => ((.ok () : Except Failure Unit), f y)) = fun s : Section .cart =>
      (s.copy >>= fun y => s.commit (f y) >>= fun y' => Routine.done ((), y')) >>= fun a =>
        s.close >>= fun _ => Routine.done a := by
    refine funext fun s => ?_
    simp only [change, Routine.bind_assoc]
    rfl
  rw [update_eq, hchange]
  refine within (O := d.Picked c stored) (fun p hp => ?joined) (fun _ => picked hmake hstored)
    (fun _ y c₁ id hold hpicked => ?opened)
  case joined =>
    rw [hnone] at hp
    cases hp
  case opened =>
    have hs : d.Tends r ⟨id, some y, false⟩ ⟨d.cart, r, id, some hold⟩ := ⟨rfl, rfl, rfl⟩
    refine (Returns.copy hs rfl rfl).andThen ?_
    refine (Returns.commit hs rfl (f y)).andThen (done ⟨⟨some (f y), rfl⟩, y, c₁, hpicked, ?_⟩)
    have hnone₁ : c₁.drafting = none := hpicked.bare_eq.2.trans hnone
    change c₁.bare.write d.cart.name (some (f y)) = _
    rw [Counter.bare_of_none hnone₁]

end Parts

/-! ### What is left at the counter -/

/-- The counter after the session of an anonymous customer was dropped but for the login. -/
def forgotten (d : Desk) (login : UserLogin) (c : Counter) : Counter :=
  ((c.wipe.cache d.cart.name none).keep userLoginAttribute (some (.login login))).cache
    anonymousLoginAttribute (some (.login login))

/-- The counter after the rest of the session went with the cart, if the customer is anonymous. -/
def released (d : Desk) (user : Option UserLogin) (c : Counter) : Counter :=
  match user with
  | some login => if login.isAnonymous then d.forgotten login c else c
  | none => c

/-- The counter after attributes were removed. -/
def stripped (names : List String) (c : Counter) : Counter :=
  names.foldl (fun c name => c.keep name none) c

theorem value_forgotten (login : UserLogin) (name : String) :
    (d.forgotten login c).shelf.value name =
      if userLoginAttribute = name then some (.login login) else none := rfl

theorem get?_forgotten (login : UserLogin) (name : String) :
    (d.forgotten login c).request.get? name =
      if anonymousLoginAttribute = name then some (.login login)
      else if d.cart.name = name then none else c.request.get? name := by
  refine (Request.get?_set ..).trans ?_
  split
  · rfl
  · exact Request.get?_remove ..

theorem isChanged_forgotten (login : UserLogin) (name : String) :
    (d.forgotten login c).request.isChanged name = c.request.isChanged name := rfl

theorem value_stripped (names : List String) (name : String) :
    (stripped names c).shelf.value name =
      if name ∈ names then none else c.shelf.value name := by
  induction names generalizing c with
  | nil => rfl
  | cons first rest ih =>
    refine ih.trans ?_
    have hfirst : (c.keep first none).shelf.value name =
        if first = name then none else c.shelf.value name := rfl
    rw [hfirst]
    by_cases hrest : name ∈ rest
    · simp [hrest]
    · simp [hrest, eq_comm]

theorem request_stripped (names : List String) : (stripped names c).request = c.request := by
  induction names generalizing c with
  | nil => rfl
  | cons first rest ih => exact ih

/-- Nobody is logged in, or somebody with a name. -/
def Named (user : Option UserLogin) : Prop := ∀ login, user = some login → login.isAnonymous = false

theorem released_of_named (h : Named user) :
    d.released user c = c := by
  cases user with
  | none => rfl
  | some login => simp [released, h login rfl]

theorem released_of_anonymous {login : UserLogin} (h : login.isAnonymous = true) :
    d.released (some login) c = d.forgotten login c := if_pos h

theorem isChanged_released (value : Option Cart) :
    (d.released user (c.write d.cart.name value)).request.isChanged d.cart.name = true := by
  have hmarked : (c.write d.cart.name value).request.isChanged d.cart.name = true :=
    Counter.isChanged_write value
  cases user with
  | none => exact hmarked
  | some login =>
    rw [released]
    split
    · exact (isChanged_forgotten ..).trans hmarked
    · exact hmarked

theorem Returns.forgetAnonymous (login : UserLogin) :
    d.Returns r True (d.forgetAnonymous r login) c () (d.forgotten login c) :=
  invalidate.andThen (forgetCached.andThen ((put _ _).andThen (cacheValue _ _)))

theorem Returns.removeAttributes (names : List String) :
    d.Returns r True (d.removeAttributes r names) c () (stripped names c) := by
  induction names generalizing c with
  | nil => exact done () c
  | cons name rest ih =>
    have hfirst : d.Returns r True (d.removeAttribute r name) c () (c.keep name none) :=
      (removeStored name).andThen (done () _)
    exact hfirst.andThen ih

/-- Of an anonymous customer's session the login is left, and the request has it. -/
def Keeps (d : Desk) (login : UserLogin) (c : Counter) : Prop :=
  (∀ name, c.shelf.value name = if userLoginAttribute = name then some (.login login) else none) ∧
  c.request.get? d.cart.name = none ∧
  c.request.get? anonymousLoginAttribute = some (.login login)

section Left

variable (hname : d.cart.name = cartAttribute)

include hname

theorem keeps_forgotten (login : UserLogin) : d.Keeps login (d.forgotten login c) := by
  refine ⟨value_forgotten login, ?_, ?_⟩
  · rw [get?_forgotten, if_neg (hname ▸ by decide), if_pos rfl]
  · rw [get?_forgotten, if_pos rfl]

/-- What was to be destroyed is gone with the session, and the login is not. -/
theorem Keeps.destroyed {login : UserLogin} (h : d.Keeps login c) :
    d.Keeps login (stripped attributesBesideCart (c.write d.cart.name none)) := by
  obtain ⟨hshelf, _, hanonymous⟩ := h
  refine ⟨fun name => ?_, ?_, ?_⟩
  · rw [value_stripped, Counter.value_write, hshelf]
    by_cases hlogin : userLoginAttribute = name
    · subst hlogin
      rw [if_neg (by decide), if_neg (hname ▸ by decide)]
    · simp [hlogin]
  · rw [request_stripped, Counter.get?_write, if_pos rfl]
    rfl
  · rw [request_stripped, Counter.get?_write, if_neg (hname ▸ by decide), hanonymous]

/-- The cart is destroyed, whatever was written before, with what makes sense only beside it. -/
theorem value_destroyed (value : Option Cart) (name : String) :
    (stripped attributesBesideCart ((c.write d.cart.name value).write d.cart.name none)).shelf.value
      name = if name ∈ cartAttribute :: attributesBesideCart then none else c.shelf.value name := by
  rw [value_stripped, Counter.value_write, Counter.value_write, hname]
  by_cases hcart : cartAttribute = name
  · simp [hcart]
  · simp [hcart, Ne.symm hcart]

end Left

section Handlers

variable (hname : d.cart.name = cartAttribute) (hmake : ∀ n q, ∃ y, d.cart.make n q = .ok y)
  (hstored : c.shelf.value d.cart.name = stored.map .cart)
  (huser : c.shelf.value userLoginAttribute = user.map .login) (hnone : c.drafting = none)

include hname hmake hstored huser hnone

theorem Reaches.clear : d.Reaches r True (d.clear r) c fun _ c' => ∃ y c₁,
    d.Picked c stored y c₁ ∧ c' = d.released user (c₁.write d.cart.name (some y.clear)) := by
  refine locked ((changed hmake hstored hnone Cart.clear).bind ?_)
  rintro _ _ ⟨y, c₁, hpicked, rfl⟩
  have huser₁ : (c₁.write d.cart.name (some y.clear)).shelf.value userLoginAttribute =
      user.map .login := by
    rw [Counter.value_write, if_neg (hname ▸ by decide), hpicked.bare_eq.1, huser]
  refine (Returns.find (k := .login) huser₁).andThen ?_
  cases user with
  | none => exact done ⟨y, c₁, hpicked, rfl⟩
  | some login =>
    dsimp only [released]
    split
    · exact (Returns.forgetAnonymous login).mono fun _ _ h => ⟨y, c₁, hpicked, h.2⟩
    · exact done ⟨y, c₁, hpicked, rfl⟩

theorem Reaches.destroy : d.Reaches r True (d.destroy r) c fun _ c' => ∃ y c₁,
    d.Picked c stored y c₁ ∧ c' = stripped attributesBesideCart
      ((d.released user (c₁.write d.cart.name (some y.clear))).write d.cart.name none) := by
  refine locked ((clear hname hmake hstored huser hnone).bind ?_)
  rintro _ _ ⟨y, c₁, hpicked, rfl⟩
  refine Returns.remove.andThen ((Returns.removeAttributes attributesBesideCart).mono ?_)
  exact fun _ _ h => ⟨y, c₁, hpicked, h.2⟩

end Handlers

/-! ### What is left of the session -/

section Exact

variable {settings : Settings} {carts : CartSettings} {pricing : Pricing} {store : StoreName}
  {table : TableName} {clock : Nat → Timestamp} {i : ThreadId} {others : World → World → Prop}
  {w w' : World} {l l' : Workspace} {events : List Event}

/-- What emptying and destroying have in common: nothing outside the session is changed, the cart is
marked as changed, and of an anonymous customer's session only the login is left. -/
structure Emptied (d : Desk) (r : RequestRef) (user : Option UserLogin) (w w' : World)
    (l' : Workspace) : Prop where
  others_eq : ∀ s session, ¬(s = d.cart.store ∧ session = r.session) →
    w'.storage s session = w.storage s session
  flag_eq : (l'.request r.id).isChanged d.cart.name = true
  anonymous : ∀ login, user = some login → login.isAnonymous = true →
    (∀ name, (w'.storage d.cart.store r.session).value name =
      if userLoginAttribute = name then some (.login login) else none) ∧
    (l'.request r.id).get? d.cart.name = none ∧
    (l'.request r.id).get? anonymousLoginAttribute = some (.login login)

theorem Leaves.emptied {c' : Counter} (h : d.Leaves r .quiet w events c' w' l')
    (hflag : c'.request.isChanged d.cart.name = true)
    (hanonymous : ∀ login, user = some login → login.isAnonymous = true → d.Keeps login c') :
    d.Emptied r user w w' l' := by
  refine ⟨fun s session hother => h.spares s session hother fun _ => trivial, ?_, ?_⟩
  · rw [h.request_eq, hflag]
  · rw [h.request_eq, h.shelf_eq]
    exact hanonymous

/-- **What emptying the cart leaves.** On storage that no other party changes, and while no section
of the cart is open, emptying and destroying the cart leave all other sessions as they are and mark
the cart as changed. Of an anonymous customer's session they leave the login and nothing else; the
request has it as the temporary one and has no cart cached. Otherwise emptying changes the cart
alone, to the one that was stored, cached or made, without lines and promo codes; destroying removes
the cart and the attributes beside it, and nothing else. -/
theorem emptying_exact (hw : Calm w) (hknown : r.id < l.requests.length)
    (hothers : ∀ w w', others w w' → w.Quiet i w')
    (hstored : (w.storage store r.session).value cartAttribute = stored.map .cart)
    (huser : (w.storage store r.session).value userLoginAttribute = user.map .login)
    (hnone : l.openDraft? .cart r.session cartAttribute = none) :
    (((Desk.new settings carts pricing store table clock).clear r).Course i others w l events
        (.ended (.ok ())) w' l' →
      (Desk.new settings carts pricing store table clock).Emptied r user w w' l' ∧
      (Named user → ∃ y,
        (stored = some y ∨ stored = none ∧ ((l.request r.id).get? cartAttribute = some (.cart y) ∨
          (l.request r.id).get? cartAttribute = none ∧ ∃ n, Event.dealt events = [n] ∧
            y = carts.newCart (l.request r.id).text? (clock n))) ∧
        w'.storage store r.session = (w.storage store r.session).set cartAttribute
          (.cart { y with lines := [], promoCodes := [] }) ∧
        (l'.request r.id).get? cartAttribute =
          some (.cart { y with lines := [], promoCodes := [] }))) ∧
    (((Desk.new settings carts pricing store table clock).destroy r).Course i others w l events
        (.ended (.ok ())) w' l' →
      (Desk.new settings carts pricing store table clock).Emptied r user w w' l' ∧
      (Named user →
        (∀ name, (w'.storage store r.session).value name =
          if name ∈ [cartAttribute, "orderPartyId", "orderMode", "productStoreId",
            "CURRENT_CATALOG_ID"] then none
          else (w.storage store r.session).value name) ∧
        (l'.request r.id).get? cartAttribute = none)) := by
  let d := Desk.new settings carts pricing store table clock
  let c := d.counter r w l none
  have hdrafts : l.Drafts r.session d.cart.name none := hnone
  have hbounds := Company.bounds_quiet hothers
  refine ⟨fun hcourse => ?clear, fun hcourse => ?destroy⟩
  case clear =>
    have hclear : d.Reaches r True (d.clear r) c _ := .clear rfl exists_made hstored huser rfl
    obtain ⟨c', ⟨y, c₁, hpicked, rfl⟩, hleaves⟩ :=
      hclear.exists_leaves (C := .quiet) (fun _ => trivial) hw hknown hdrafts hbounds hcourse
    refine ⟨hleaves.emptied (isChanged_released _) fun login hlogin hanonymous => ?_,
      fun hnamed => ?_⟩
    · rw [hlogin, released_of_anonymous hanonymous]
      exact keeps_forgotten rfl login
    · rw [released_of_named hnamed] at hleaves
      refine ⟨y, ?_, ?_, ?_⟩
      · cases hpicked with
        | stored => exact .inl rfl
        | cached hcached => exact .inr ⟨rfl, .inl hcached⟩
        | @made _ n hcached hmake =>
          exact .inr ⟨rfl, .inr ⟨hcached, n, hleaves.made_eq, (Except.ok.inj hmake).symm⟩⟩
      · refine hleaves.shelf_eq.trans ?_
        change c₁.shelf.set cartAttribute (.cart y.clear) = _
        rw [hpicked.bare_eq.1]
        rfl
      · rw [hleaves.request_eq]
        exact (Counter.get?_write ..).trans (if_pos rfl)
  case destroy =>
    have hdestroy : d.Reaches r True (d.destroy r) c _ := .destroy rfl exists_made hstored huser rfl
    obtain ⟨c', ⟨y, c₁, hpicked, rfl⟩, hleaves⟩ :=
      hdestroy.exists_leaves (C := .quiet) (fun _ => trivial) hw hknown hdrafts hbounds hcourse
    refine ⟨hleaves.emptied ?_ fun login hlogin hanonymous => ?_,
      fun hnamed => ⟨fun name => ?_, ?_⟩⟩
    · rw [request_stripped]
      exact Counter.isChanged_write none
    · rw [hlogin, released_of_anonymous hanonymous]
      exact (keeps_forgotten rfl login).destroyed rfl
    · rw [released_of_named hnamed] at hleaves
      refine (congrArg (Shelf.value · name) hleaves.shelf_eq).trans
        ((value_destroyed rfl _ name).trans ?_)
      rw [hpicked.bare_eq.1]
      rfl
    · rw [hleaves.request_eq, request_stripped]
      exact (Counter.get?_write ..).trans (if_pos rfl)

/-- A session of an anonymous customer with a cart. -/
def visited : World :=
  Race.dawn.setBackend .main
    { store := (Store.empty.set Race.arena cartAttribute (.cart basket)).set Race.arena
        userLoginAttribute (.login (.anonymous "p1")) }

theorem calm_visited : Calm visited :=
  ⟨World.sound_new _, fun s => by cases s <;> rfl⟩

/-- The cart of a session without a login is emptied, and an anonymous customer's is destroyed. -/
theorem emptying_exact_visited :
    (∃ events w' l', (kiosk.clear ⟨0, Race.arena⟩).Course 0 (World.Quiet 0) (stocked basket)
        { requests := [.new Race.arena] } events (.ended (.ok ())) w' l' ∧
      w'.storage .main Race.arena = ((stocked basket).storage .main Race.arena).set cartAttribute
        (.cart { basket with lines := [], promoCodes := [] })) ∧
    ∃ events w' l', (kiosk.destroy ⟨0, Race.arena⟩).Course 0 (World.Quiet 0) visited
        { requests := [.new Race.arena] } events (.ended (.ok ())) w' l' ∧
      kiosk.Emptied ⟨0, Race.arena⟩ (some (.anonymous "p1")) visited w' l' := by
  have hruns : (∃ w' l', (kiosk.clear ⟨0, Race.arena⟩).run true 0 (stocked basket)
        { requests := [.new Race.arena] } = .finished (.ok ()) w' l') ∧
      ∃ w' l', (kiosk.destroy ⟨0, Race.arena⟩).run true 0 visited
        { requests := [.new Race.arena] } = .finished (.ok ()) w' l' := ⟨⟨_, _, rfl⟩, _, _, rfl⟩
  obtain ⟨⟨w₁, l₁, hclear⟩, w₂, l₂, hdestroy⟩ := hruns
  obtain ⟨events₁, hcourse₁⟩ := (Routine.ends_of_run (World.Quiet.refl 0) hclear).exists_course
  obtain ⟨events₂, hcourse₂⟩ := (Routine.ends_of_run (World.Quiet.refl 0) hdestroy).exists_course
  obtain ⟨_, hnamed⟩ := (@emptying_exact ⟨0, Race.arena⟩ (some basket) none {} {} .welcome .main
    .shared .tick 0 (World.Quiet 0) _ _ { requests := [.new Race.arena] } _ _
    ⟨sound_stocked basket, calm_stocked basket⟩ Nat.one_pos (fun _ _ h => h) rfl rfl rfl).1 hcourse₁
  obtain ⟨hemptied, _⟩ := (@emptying_exact ⟨0, Race.arena⟩ (some basket) (some (.anonymous "p1")) {}
    {} .welcome .main .shared .tick 0 (World.Quiet 0) _ _ { requests := [.new Race.arena] } _ _
    calm_visited Nat.one_pos (fun _ _ h => h) rfl rfl rfl).2 hcourse₂
  obtain ⟨y, hy, hshelf, _⟩ := hnamed fun _ h => nomatch h
  obtain rfl : basket = y := by simpa using hy
  exact ⟨⟨events₁, w₁, l₁, hcourse₁, hshelf⟩, events₂, w₂, l₂, hcourse₂, hemptied⟩

end Exact

end Desk

end SessionCart
