import SessionCart.Proofs.Cart.Agreement
import SessionCart.Proofs.Desk.Counter

/-!
# Keeping the cart of a session in line

A refresh looks at the current cart without the lock, and under the lock at the stored one. What it
does to the stored cart is decided by whether that cart is in line with the session and whether it
is another user's: it stays, follows the session, or is replaced.
-/

namespace SessionCart

namespace Desk

variable {d : Desk} {r : RequestRef} {refuses : Prop} {c c' : Counter}
  {user auto : Option UserLogin} {locale : String} {stored cached : Option Cart}
  {y z z' : Cart} {modified : Bool}

/-- What a refresh finds: the logins of the session, the stored cart and the cached one. A draft
that is open has the stored cart. -/
structure Finds (d : Desk) (c : Counter) (user auto : Option UserLogin)
    (stored cached : Option Cart) : Prop where
  stored_eq : c.shelf.value d.cart.name = stored.map .cart
  cached_eq : c.request.get? d.cart.name = cached.map .cart
  user_eq : c.shelf.value userLoginAttribute = user.map .login
  auto_eq : c.shelf.value autoLoginAttribute = auto.map .login
  draft_eq : ∀ y, stored = some y → ∀ p, c.drafting = some p → p.value = some y

/-- What a refresh under the lock has made of the stored cart `z`. -/
inductive Renewed (d : Desk) (user auto : Option UserLogin) (locale : String) (z : Cart)
    (c : Counter) : Bool → Cart → Counter → Prop
  | kept {c' : Counter} : z.InLine user auto locale → c'.bare = c.bare →
    Renewed d user auto locale z c false z c'
  | followed {c' : Counter} : ¬z.InLine user auto locale → ¬z.Estranged user auto →
    c'.bare = (c.write d.cart.name (some (z.align user auto locale))).bare →
    Renewed d user auto locale z c true (z.align user auto locale) c'
  | replaced {c' : Counter} {n : Nat} {z' : Cart} : z.Estranged user auto →
    d.cart.make n c.request = .ok z' → c'.bare = ((c.deal n).write d.cart.name (some z')).bare →
    Renewed d user auto locale z c true z' c'

/-- The current cart of a request: the stored one, or a new one, stored. -/
inductive Supplied (d : Desk) (c : Counter) : Option Cart → Cart → Counter → Prop
  | found (z : Cart) : Supplied d c (some z) z (c.fill d.cart.name z)
  | made {z : Cart} {n : Nat} : d.cart.make n c.request = .ok z →
    Supplied d c none z ((c.deal n).write d.cart.name (some z))

/-- The body of a refresh but for the closing of the section. -/
def redraft (d : Desk) (r : RequestRef) (locale : String) (s : Section .cart) : Routine Bool := do
  let c ← s.copy
  let user ← d.find r .login userLoginAttribute
  let auto ← d.find r .login autoLoginAttribute
  let (modified, changed) ← d.redo r s (c.refresh user auto locale)
  if modified then
    let _ ← s.commit changed
  else s.discard
  return modified

theorem renew_eq (d : Desk) (r : RequestRef) (locale : String) (s : Section .cart) :
    d.renew r locale s =
      d.redraft r locale s >>= fun modified => s.close >>= fun _ => .done modified := by
  simp only [renew, redraft, Routine.bind_assoc]
  refine congrArg (s.copy >>= ·) (funext fun c => ?_)
  refine congrArg (d.find r .login userLoginAttribute >>= ·) (funext fun user => ?_)
  refine congrArg (d.find r .login autoLoginAttribute >>= ·) (funext fun auto => ?_)
  refine congrArg (d.redo r s (c.refresh user auto locale) >>= ·) (funext fun p => ?_)
  obtain ⟨modified, changed⟩ := p
  cases modified <;> simp only [Routine.bind_assoc, Bool.false_eq_true, if_true, if_false] <;> rfl

/-! ### What is found after a step -/

theorem Renewed.of_bare {c₁ : Counter} (h : d.Renewed user auto locale z c₁ modified z' c')
    (hbare : c₁.bare = c.bare) : d.Renewed user auto locale z c modified z' c' := by
  obtain ⟨_, hrequest, _, _⟩ := Counter.of_bare hbare
  cases h with
  | kept hline hc' => exact .kept hline (hc'.trans hbare)
  | followed hline hestranged hc' =>
    refine .followed hline hestranged (hc'.trans ?_)
    rw [Counter.bare_write, hbare, Counter.bare_write]
  | @replaced _ n z' hestranged hmake hc' =>
    refine .replaced hestranged (hrequest ▸ hmake) (hc'.trans ?_)
    have hdeal : (c₁.deal n).bare = (c.deal n).bare := congrArg (Counter.deal · n) hbare
    rw [Counter.bare_write, hdeal, Counter.bare_write]

theorem Renewed.drop (h : d.Renewed user auto locale z c modified z' c') :
    d.Renewed user auto locale z c modified z' c'.bare := by
  cases h with
  | kept hline hc' => exact .kept hline hc'
  | followed hline hestranged hc' => exact .followed hline hestranged hc'
  | replaced hestranged hmake hc' => exact .replaced hestranged hmake hc'

/-- What becomes of a cart: it comes to be in line with its lines and promo codes as they were, or a
new one is made in its place. -/
theorem Renewed.fate (h : d.Renewed user auto locale z c modified z' c') :
    (¬z.Estranged user auto ∧ c'.made = c.made ∧ z'.InLine user auto locale ∧ z'.lines = z.lines ∧
      z'.promoCodes = z.promoCodes) ∨
    z.Estranged user auto ∧ ∃ n, d.cart.make n c.request = .ok z' ∧ c'.made = c.made ++ [n] := by
  cases h with
  | kept hline hc' =>
    obtain ⟨_, _, hmade, _⟩ := Counter.of_bare hc'
    exact .inl ⟨fun h => h.not_inLine hline, hmade, hline, rfl, rfl⟩
  | followed hline hestranged hc' =>
    obtain ⟨_, _, hmade, _⟩ := Counter.of_bare hc'
    exact .inl ⟨hestranged, hmade, Cart.inLine_align .., rfl, rfl⟩
  | @replaced _ n _ hestranged hmake hc' =>
    obtain ⟨_, _, hmade, _⟩ := Counter.of_bare hc'
    exact .inr ⟨hestranged, n, hmake, hmade⟩

section Steps

variable (hname : d.cart.name = cartAttribute)

namespace Finds

theorem of_bare (h : d.Finds c user auto stored cached) (hbare : c'.bare = c.bare)
    (hdraft : ∀ y, stored = some y → ∀ p, c'.drafting = some p → p.value = some y) :
    d.Finds c' user auto stored cached := by
  obtain ⟨hshelf, hrequest, _, _⟩ := Counter.of_bare hbare
  exact ⟨hshelf ▸ h.stored_eq, hrequest ▸ h.cached_eq, hshelf ▸ h.user_eq, hshelf ▸ h.auto_eq,
    hdraft⟩

include hname in
theorem write (h : d.Finds c user auto stored cached) (z : Cart) :
    d.Finds (c.write d.cart.name (some z)) user auto (some z) (some z) := by
  have huser : d.cart.name ≠ userLoginAttribute := hname ▸ by decide
  have hauto : d.cart.name ≠ autoLoginAttribute := hname ▸ by decide
  refine ⟨by simp, by simp, by simp [huser, h.user_eq], by simp [hauto, h.auto_eq], ?_⟩
  rintro _ ⟨rfl⟩ p hp
  obtain ⟨p, _, rfl⟩ := Option.map_eq_some_iff.mp hp
  rfl

theorem deal {n : Nat} (h : d.Finds c user auto stored cached) :
    d.Finds (c.deal n) user auto stored cached :=
  ⟨h.stored_eq, h.cached_eq, h.user_eq, h.auto_eq, h.draft_eq⟩

theorem fill (h : d.Finds c user auto (some z) cached) :
    d.Finds (c.fill d.cart.name z) user auto (some z) (some (cached.getD z)) := by
  have hcached := h.cached_eq
  cases cached with
  | some y =>
    rw [Counter.fill_of_some hcached]
    exact h
  | none =>
    rw [Counter.fill_of_none hcached]
    refine ⟨h.stored_eq, ?_, h.user_eq, h.auto_eq, h.draft_eq⟩
    exact (Request.get?_set ..).trans (if_pos rfl)

end Finds

include hname in
/-- After a refresh the cart that it has left is stored, and so is any draft's. -/
theorem Renewed.finds (h : d.Renewed user auto locale z c modified z' c')
    (hc : d.Finds c user auto (some z) (some y))
    (hdraft : ∀ p, c'.drafting = some p → p.value = some z') :
    d.Finds c' user auto (some z') (some (if modified then z' else y)) := by
  have hdraft' : ∀ x, some z' = some x → ∀ p, c'.drafting = some p → p.value = some x := by
    rintro _ ⟨rfl⟩
    exact hdraft
  cases h with
  | kept _ hc' => exact hc.of_bare hc' hdraft'
  | followed _ _ hc' => exact (hc.write hname _).of_bare hc' hdraft'
  | replaced _ _ hc' => exact (hc.deal.write hname _).of_bare hc' hdraft'

end Steps

/-! ### The refresh -/

section Refresh

variable (hname : d.cart.name = cartAttribute) (hmake : ∀ n q, ∃ y, d.cart.make n q = .ok y)

include hmake in
/-- What is done under the lock is decided by the stored cart and the session's logins. -/
theorem Reaches.redraft {s : Section .cart} {p : Drafting} (hs : d.Tends r p s)
    (hp : c.drafting = some p) (hc : d.Finds c user auto (some z) cached) :
    d.Reaches r refuses (d.redraft r locale s) c fun modified c' => ∃ z',
      d.Renewed user auto locale z c modified z' c' ∧ c'.drafting = some ⟨p.id, some z', true⟩ := by
  refine (Returns.copy hs hp (hc.draft_eq z rfl p hp)).andThen ?_
  refine (Returns.find (k := .login) hc.user_eq).andThen ?_
  refine (Returns.find (k := .login) hc.auto_eq).andThen ?_
  have hwritten : ∀ (c₁ : Counter) (y : Cart), c₁.drafting = c.drafting →
      (c₁.write d.cart.name (some y)).drafting = some ⟨p.id, some y, true⟩ := by
    intro c₁ y hsame
    rw [Counter.drafting_write, hsame, hp]
    rfl
  by_cases hestranged : z.Estranged user auto
  · obtain ⟨_, _, hrefresh⟩ := Cart.refresh_of_estranged hestranged locale
    rw [hrefresh, redo, Routine.bind_assoc]
    refine (create hmake).bind ?_
    rintro z' _ ⟨n, hz', rfl⟩
    have hdealt : (c.deal n).drafting = some p := hp
    refine (Returns.commit hs hdealt z').andThen (done ⟨z', ?_, hwritten _ z' rfl⟩)
    exact .replaced hestranged hz' rfl
  · rw [Cart.refresh_of_not_estranged hestranged]
    by_cases hline : z.InLine user auto locale
    · have hsame : z.align user auto locale = z := Cart.align_eq_self_iff.mpr hline
      simp only [redo, hline, not_true_eq_false, decide_false, hsame]
      refine (Returns.discard hs hp).andThen (done ⟨z, .kept hline rfl, ?_⟩)
      simp [Counter.discard, hp, hc.draft_eq z rfl p hp]
    · simp only [redo, hline, not_false_eq_true, decide_true]
      refine (Returns.commit hs hp _).andThen (done ⟨_, .followed hline hestranged rfl, ?_⟩)
      exact hwritten c _ rfl

include hmake in
/-- The refresh under the lock, whether a section of the cart is open already or not. -/
theorem Reaches.renewed (hc : d.Finds c user auto (some z) (some y)) :
    d.Reaches r refuses (Section.within d.cart r (d.renew r locale)) c fun modified c' => ∃ z',
      d.Renewed user auto locale z c modified z' c' ∧
        ∀ p, c'.drafting = some p → p.value = some z' := by
  rw [funext (renew_eq d r locale)]
  refine within (O := fun z₁ c₁ => z₁ = z ∧ c₁ = c) (fun p hp => ?joined) (fun _ => ?picked)
    (fun _ z₁ c₁ id hold hO => ?opened)
  case joined =>
    have hs : d.Tends r p ⟨d.cart, r, p.id, none⟩ := ⟨rfl, rfl, rfl⟩
    refine (redraft hmake hs hp hc).mono ?_
    rintro modified c' ⟨z', hrenewed, hdrafting⟩
    refine ⟨z', hrenewed, fun p' hp' => ?_⟩
    rw [Option.some.inj (hp'.symm.trans hdrafting)]
  case picked =>
    have hpick : d.Returns r refuses (d.cart.pick r) c z (c.fill d.cart.name z) :=
      .pick hc.cached_eq hc.stored_eq rfl
    rw [Counter.fill_of_some hc.cached_eq] at hpick
    exact hpick
  case opened =>
    obtain ⟨rfl, rfl⟩ := hO
    have hopened : d.Finds { c₁ with drafting := some ⟨id, some z₁, false⟩ } user auto (some z₁)
        (some y) := by
      refine hc.of_bare rfl ?_
      rintro _ ⟨rfl⟩ _ ⟨rfl⟩
      rfl
    have hs : d.Tends r ⟨id, some z₁, false⟩ ⟨d.cart, r, id, some hold⟩ := ⟨rfl, rfl, rfl⟩
    refine (redraft hmake hs rfl hopened).mono ?_
    rintro modified c' ⟨z', hrenewed, hdrafting⟩
    have hrenewed' : d.Renewed user auto locale z₁ c₁ modified z' c' := hrenewed.of_bare rfl
    exact ⟨⟨some z', hdrafting⟩, z', hrenewed'.drop, fun _ h => nomatch h⟩

include hmake in
/-- The current cart of a request that has cached the stored cart, one that it was, or none. -/
theorem Reaches.supplied (hname : d.cart.name = cartAttribute)
    (hc : d.Finds c user auto stored cached) (hseen : cached.isSome = true → stored.isSome = true) :
    d.Reaches r refuses (d.currentCart r) c fun y c₁ => ∃ z,
      d.Supplied c stored z c₁ ∧ d.Finds c₁ user auto (some z) (some y) ∧ y = cached.getD z := by
  cases stored with
  | some z =>
    have hfound : cached.or (some z) = some (cached.getD z) := by cases cached <;> rfl
    refine (Returns.currentCart hc.cached_eq hc.stored_eq hfound).mono ?_
    rintro _ _ ⟨rfl, rfl⟩
    have hsame : c.fill d.cart.name (cached.getD z) = c.fill d.cart.name z := by
      have hcached := hc.cached_eq
      cases cached with
      | none => rfl
      | some y => rw [Counter.fill_of_some hcached, Counter.fill_of_some hcached]
    rw [hsame]
    exact ⟨z, .found z, hc.fill, rfl⟩
  | none =>
    cases cached with
    | some y => cases hseen rfl
    | none =>
      refine (currentCart hc.cached_eq hc.stored_eq hmake rfl).mono ?_
      rintro z _ ⟨n, hz, rfl⟩
      exact ⟨z, .made hz, hc.deal.write hname z, rfl⟩

include hname hmake in
/-- **What a refresh leads to.** It goes by the stored cart, or else by a new one that it has
stored: that cart stays, follows the session or is replaced. A cached cart may be an earlier one if
it is in line with the session only where the stored one is. -/
theorem Reaches.refresh (hc : d.Finds c user auto stored cached)
    (hseen : ∀ y, cached = some y → ∃ z, stored = some z ∧
      (y.InLine user auto locale → z.InLine user auto locale)) :
    d.Reaches r refuses (d.refresh r locale) c fun modified c' => ∃ z c₁ z',
      d.Supplied c stored z c₁ ∧ d.Renewed user auto locale z c₁ modified z' c' ∧
      d.Finds c' user auto (some z') (some (if modified then z' else cached.getD z)) := by
  rw [refresh_eq]
  refine (supplied hmake hname hc fun h => ?_).bind ?_
  · obtain ⟨y, hy⟩ := Option.isSome_iff_exists.mp h
    obtain ⟨z, hz, _⟩ := hseen y hy
    rw [hz, Option.isSome_some]
  rintro y c₁ ⟨z, hsupplied, hc₁, rfl⟩
  refine (Returns.find (k := .login) hc₁.user_eq).andThen ?_
  refine (Returns.find (k := .login) hc₁.auto_eq).andThen ?_
  rw [Cart.isStale_eq]
  by_cases hline : (cached.getD z).InLine user auto locale
  · rw [decide_eq_false (not_not.mpr hline)]
    refine done ⟨z, c₁, z, hsupplied, .kept ?_ rfl, hc₁⟩
    cases cached with
    | none => exact hline
    | some y =>
      obtain ⟨z₀, rfl, hz₀⟩ := hseen y rfl
      cases hsupplied
      exact hz₀ hline
  · rw [decide_eq_true hline]
    refine (renewed hmake hc₁).mono ?_
    rintro modified c' ⟨z', hrenewed, hdraft⟩
    exact ⟨z, c₁, z', hsupplied, hrenewed, hrenewed.finds hname hc₁ hdraft⟩

end Refresh

/-! ### Whose cart is left -/

section Own

variable {settings : Settings} {carts : CartSettings} {pricing : Pricing} {store : StoreName}
  {table : TableName} {clock : Nat → Timestamp} {i : ThreadId} {others : World → World → Prop}
  {w w' : World} {l l' : Workspace} {events : List Event}

theorem exists_made (n : Nat) (q : Request) : ∃ y,
    (Desk.new settings carts pricing store table clock).cart.make n q = .ok y := ⟨_, rfl⟩

theorem newCart_blank (text : String → Option String) (t : Timestamp) :
    (carts.newCart text t).lines = [] ∧ (carts.newCart text t).promoCodes = [] ∧
    (carts.newCart text t).userLogin = none ∧ (carts.newCart text t).autoUserLogin = none ∧
    (carts.newCart text t).locale = none := by
  unfold CartSettings.newCart
  cases carts.maker <;> exact ⟨rfl, rfl, rfl, rfl, rfl⟩

theorem found_of_cached (hcached : c.request.get? cartAttribute = none ∨
    c.request.get? cartAttribute = some (.cart z)) : ∃ cached : Option Cart,
      c.request.get? cartAttribute = cached.map .cart ∧ ∀ y, cached = some y → y = z := by
  rcases hcached with h | h
  · exact ⟨none, h, fun _ hy => nomatch hy⟩
  · exact ⟨some z, h, fun _ hy => (Option.some.inj hy).symm⟩

/-- A new cart is made from texts, and a cart in the cache is none. -/
theorem text?_fill (hcached : c.request.get? cartAttribute = none ∨
    c.request.get? cartAttribute = some (.cart y)) :
    (c.fill cartAttribute z).request.text? = c.request.text? := by
  rcases hcached with h | h
  · rw [Counter.fill_of_none h]
    refine funext fun name => ?_
    change ((c.request.set cartAttribute (.cart z)).get? name).bind (·.as? .text) = _
    rw [Request.get?_set, Request.text?]
    split
    · rename_i hname
      rw [← hname, h]
      rfl
    · rfl
  · rw [Counter.fill_of_some h]

/-- **After a refresh the cart is the session's own.** Whatever others do to other sessions, a
refresh that ends well replaces the stored cart by a new one exactly if the stored one is another
user's. The new cart has no lines, no promo codes and no logins. Any other cart is then in line with
the session, and has the lines and the promo codes that it had. -/
theorem refresh_leaves_own_cart (hw : Calm w) (hknown : r.id < l.requests.length)
    (hothers : ∀ w w', others w w' → w.Sparing store r.session i w')
    (hstored : (w.storage store r.session).value cartAttribute = some (.cart z))
    (huser : (w.storage store r.session).value userLoginAttribute = user.map .login)
    (hauto : (w.storage store r.session).value autoLoginAttribute = auto.map .login)
    (hcached : (l.request r.id).get? cartAttribute = none ∨
      (l.request r.id).get? cartAttribute = some (.cart z))
    (hopened : ∀ id, l.openDraft? .cart r.session cartAttribute = some id →
      ∃ e, l.drafts[id]? = some e ∧ e.current = some (.cart z) ∧ e.closed = false)
    (hcourse : ((Desk.new settings carts pricing store table clock).refresh r locale).Course i
      others w l events (.ended (.ok modified)) w' l') :
    ∃ z', (w'.storage store r.session).value cartAttribute = some (.cart z') ∧
      ((∃ n, Event.dealt events = [n] ∧
        z' = carts.newCart (l.request r.id).text? (clock n)) ↔ z.Estranged user auto) ∧
      (z.Estranged user auto → z'.lines = [] ∧ z'.promoCodes = [] ∧ z'.userLogin = none ∧
        z'.autoUserLogin = none) ∧
      (¬z.Estranged user auto → Event.dealt events = [] ∧ z'.InLine user auto locale ∧
        z'.lines = z.lines ∧ z'.promoCodes = z.promoCodes) := by
  obtain ⟨q, hdrafts, hq⟩ := Workspace.exists_drafts (R := (· = some z)) fun id hid =>
    let ⟨e, he, hcurrent, hclosed⟩ := hopened id hid
    ⟨e, some z, he, hcurrent, hclosed, rfl⟩
  let d := Desk.new settings carts pricing store table clock
  let c := d.counter r w l q
  obtain ⟨cached, hcached', hsame⟩ := @found_of_cached c z hcached
  have hfinds : d.Finds c user auto (some z) cached := by
    refine ⟨hstored, hcached', huser, hauto, ?_⟩
    rintro _ ⟨rfl⟩
    exact hq
  have hrefresh : d.Reaches r True (d.refresh r locale) c _ :=
    .refresh rfl exists_made hfinds fun y hy => ⟨z, rfl, by rw [hsame y hy]; exact id⟩
  obtain ⟨c', ⟨z₀, c₁, z', hsupplied, hrenewed, hfinds'⟩, hleaves⟩ :=
    hrefresh.exists_leaves (C := .sparing store r.session) (fun _ => ⟨rfl, rfl⟩) hw hknown hdrafts
      (Company.bounds_sparing hothers) hcourse
  have hstored' : (w'.storage store r.session).value cartAttribute = some (.cart z') :=
    (congrArg (Shelf.value · cartAttribute) hleaves.shelf_eq).trans hfinds'.stored_eq
  refine ⟨z', hstored', ?_⟩
  cases hsupplied
  have hnone : (c.fill cartAttribute z).made = [] := Counter.made_fill z
  rcases hrenewed.fate with ⟨hestranged, hmade, hline⟩ | ⟨hestranged, n, hmake, hmade⟩
  · have hdealt : Event.dealt events = [] := hleaves.made_eq.trans (hmade.trans hnone)
    refine ⟨⟨fun ⟨n, hn, _⟩ => ?_, fun h => absurd h hestranged⟩, fun h => absurd h hestranged,
      fun _ => ⟨hdealt, hline⟩⟩
    rw [hdealt] at hn
    cases hn
  · have hdealt : Event.dealt events = [n] :=
      hleaves.made_eq.trans (hmade.trans (congrArg (· ++ [n]) hnone))
    have hfresh : carts.newCart (c.fill cartAttribute z).request.text? (clock n) = z' :=
      Except.ok.inj hmake
    rw [text?_fill (c := c) hcached] at hfresh
    obtain ⟨hlines, hcodes, huser', hauto', _⟩ :=
      @newCart_blank carts (l.request r.id).text? (clock n)
    subst hfresh
    exact ⟨⟨fun _ => hestranged, fun _ => ⟨n, hdealt, rfl⟩⟩,
      fun _ => ⟨hlines, hcodes, huser', hauto'⟩, fun h => absurd hestranged h⟩

/-- A cart of a user who is not logged in any more. -/
def forsaken : Cart := { basket with userLogin := some ⟨"bob", none⟩ }

theorem refresh_leaves_own_cart_forsaken : ∃ events w' l' z',
    (kiosk.refresh ⟨0, Race.arena⟩ "en").Course 0 (World.Quiet 0) (stocked forsaken)
      { requests := [.new Race.arena] } events (.ended (.ok true)) w' l' ∧
    (w'.storage .main Race.arena).value cartAttribute = some (.cart z') ∧ z'.lines = [] := by
  have hrun : ∃ w' l', (kiosk.refresh ⟨0, Race.arena⟩ "en").run true 0 (stocked forsaken)
      { requests := [.new Race.arena] } = .finished (.ok true) w' l' := ⟨_, _, rfl⟩
  obtain ⟨w', l', hrun⟩ := hrun
  obtain ⟨events, hcourse⟩ := (Routine.ends_of_run (World.Quiet.refl 0) hrun).exists_course
  obtain ⟨z', hstored, -, hblank, -⟩ := @refresh_leaves_own_cart ⟨0, Race.arena⟩ none none "en"
    forsaken true {} {} .welcome .main .shared .tick 0 (World.Quiet 0) (stocked forsaken) w'
    { requests := [.new Race.arena] } l' events ⟨sound_stocked forsaken, calm_stocked forsaken⟩
    Nat.one_pos (fun _ _ h => h.sparing ..) rfl rfl rfl (.inl rfl) (fun _ h => nomatch h) hcourse
  have hestranged : forsaken.Estranged none none :=
    .inl ⟨⟨"bob", none⟩, rfl, rfl, fun _ h => nomatch h⟩
  exact ⟨events, w', l', z', hcourse, hstored, (hblank hestranged).1⟩

end Own

end Desk

end SessionCart
