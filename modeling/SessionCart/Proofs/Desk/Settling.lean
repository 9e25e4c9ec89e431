import SessionCart.Proofs.Desk.Renewal

/-!
# Refreshing again and again

How far the stored cart is behind its session is a number of refreshes: none if it is in line, two
if it is another user's, and one otherwise, also where there is no cart yet. A refresh takes one
off, and answers whether there was one to take off.
-/

namespace SessionCart

namespace Cart

/-- How many refreshes a stored cart, or the absence of one, is behind the session. -/
def lag (user auto : Option UserLogin) (locale : String) : Option Cart → Nat
  | none => 1
  | some z => if z.Estranged user auto then 2 else if z.InLine user auto locale then 0 else 1

variable {user auto : Option UserLogin} {locale : String} {z : Cart}

theorem lag_of_estranged (h : z.Estranged user auto) : lag user auto locale (some z) = 2 := if_pos h

theorem lag_of_inLine (h : z.InLine user auto locale) : lag user auto locale (some z) = 0 := by
  rw [lag, if_neg fun hestranged => hestranged.not_inLine h, if_pos h]

theorem lag_of_behind (hestranged : ¬z.Estranged user auto) (hline : ¬z.InLine user auto locale) :
    lag user auto locale (some z) = 1 := by
  rw [lag, if_neg hestranged, if_neg hline]

theorem inLine_of_lag (h : lag user auto locale (some z) = 0) : z.InLine user auto locale := by
  by_contra hline
  by_cases hestranged : z.Estranged user auto
  · rw [lag_of_estranged hestranged] at h
    cases h
  · rw [lag_of_behind hestranged hline] at h
    cases h

theorem lag_eq_two_iff {stored : Option Cart} : lag user auto locale stored = 2 ↔
    ∃ z, stored = some z ∧ z.Estranged user auto := by
  cases stored with
  | none => simp [lag]
  | some z =>
    simp only [lag, Option.some.injEq, exists_eq_left']
    split
    · simpa
    · split <;> simpa

theorem lag_le_two (stored : Option Cart) : lag user auto locale stored ≤ 2 := by
  cases stored with
  | none => simp [lag]
  | some z =>
    rw [lag]
    split
    · exact Nat.le_refl 2
    · split <;> omega

theorem lag_newCart (carts : CartSettings) (text : String → Option String) (t : Timestamp) :
    lag user auto locale (some (carts.newCart text t)) = 1 := by
  obtain ⟨_, _, huser, hauto, hlocale⟩ := @Desk.newCart_blank carts text t
  refine lag_of_behind ?_ fun hline => ?_
  · rintro (⟨_, h, _⟩ | ⟨_, _, h, _⟩)
    · rw [huser] at h
      cases h
    · rw [hauto] at h
      cases h
  · rw [hline.locale_eq] at hlocale
    cases hlocale

end Cart

namespace Desk

open Cart

variable {d : Desk} {r : RequestRef} {c c' : Counter} {user auto : Option UserLogin}
  {locale : String} {z z' : Cart} {modified : Bool} {stored : Option Cart}

/-- The desk makes carts, and they are nobody's. -/
structure Stocks (d : Desk) : Prop where
  name_eq : d.cart.name = cartAttribute
  make : ∀ n q, ∃ y, d.cart.make n q = .ok y
  lag_eq : ∀ {user auto locale n q y}, d.cart.make n q = .ok y → lag user auto locale (some y) = 1

theorem stocks_new (settings : Settings) (carts : CartSettings) (pricing : Pricing)
    (store : StoreName) (table : TableName) (clock : Nat → Timestamp) :
    (Desk.new settings carts pricing store table clock).Stocks where
  name_eq := rfl
  make := exists_made
  lag_eq h := by
    rw [← Except.ok.inj h]
    exact lag_newCart ..

/-- Under the lock a refresh takes one off the lag, if there is one. -/
theorem Renewed.lag_eq (hd : d.Stocks) (h : d.Renewed user auto locale z c modified z' c') :
    modified = decide (lag user auto locale (some z) ≠ 0) ∧
    lag user auto locale (some z') = lag user auto locale (some z) - 1 ∧
    (lag user auto locale (some z) = 0 → z' = z ∧ c'.bare = c.bare) ∧
    (lag user auto locale (some z) = 2 ↔ c'.made ≠ c.made) := by
  cases h with
  | kept hline hc' =>
    obtain ⟨_, _, hmade, _⟩ := Counter.of_bare hc'
    simp [lag_of_inLine hline, hc', hmade]
  | followed hline hestranged hc' =>
    obtain ⟨_, _, hmade, _⟩ := Counter.of_bare hc'
    have hmade' : c'.made = c.made := hmade
    simp [lag_of_behind hestranged hline, lag_of_inLine (inLine_align ..), hmade']
  | @replaced _ n _ hestranged hmake hc' =>
    obtain ⟨_, _, hmade, _⟩ := Counter.of_bare hc'
    have hmade' : c'.made = c.made ++ [n] := hmade
    simp [lag_of_estranged hestranged, hd.lag_eq hmake, hmade']

/-- The cart that a refresh starts from is as far behind as what was stored. -/
theorem Supplied.lag_eq (hd : d.Stocks) {c₁ : Counter} (h : d.Supplied c stored z c₁) :
    lag user auto locale (some z) = lag user auto locale stored := by
  cases h with
  | found z => rfl
  | made hmake => exact hd.lag_eq hmake

/-- What a refresh has done, in terms of the lag: it is one less, if it was not zero. The request
has cached a cart that was seen, or the one that is stored. -/
structure Advanced (d : Desk) (user auto : Option UserLogin) (locale : String) (seen : List Cart)
    (stored : Option Cart) (c : Counter) (modified : Bool) (z' : Cart) (c' : Counter) : Prop where
  modified_eq : modified = decide (lag user auto locale stored ≠ 0)
  lag_eq : lag user auto locale (some z') = lag user auto locale stored - 1
  finds : ∃ y ∈ seen ++ [z'], d.Finds c' user auto (some z') (some y)
  idle : lag user auto locale stored = 0 → c'.shelf = c.shelf ∧ c'.wrote = c.wrote ∧
    ∀ name, c'.request.isChanged name = c.request.isChanged name
  made_iff : lag user auto locale stored = 2 ↔ stored.isSome = true ∧ c'.made ≠ c.made

theorem Advanced.of_renewed (hd : d.Stocks) {seen : List Cart} {cached : Option Cart} {c₁ : Counter}
    (hseen : ∀ y, cached = some y → y ∈ seen) (hsupplied : d.Supplied c stored z c₁)
    (hrenewed : d.Renewed user auto locale z c₁ modified z' c')
    (hfinds : d.Finds c' user auto (some z') (some (if modified then z' else cached.getD z))) :
    d.Advanced user auto locale seen stored c modified z' c' := by
  obtain ⟨hmodified, hlag, hsame, htwo⟩ := hrenewed.lag_eq hd
  rw [hsupplied.lag_eq hd] at hmodified hlag hsame htwo
  refine ⟨hmodified, hlag, ⟨_, ?_, hfinds⟩, fun h0 => ?_, ?_⟩
  · cases modified with
    | true => simp
    | false =>
      have h0 : lag user auto locale stored = 0 := by simpa using hmodified
      rw [(hsame h0).1]
      cases cached with
      | none => simp
      | some y => simp [hseen y rfl]
  · obtain ⟨_, hbare⟩ := hsame h0
    obtain ⟨hshelf, hrequest, _, hwrote⟩ := Counter.of_bare hbare
    cases hsupplied with
    | found =>
      refine ⟨hshelf.trans (Counter.shelf_fill z), hwrote.trans (Counter.wrote_fill z),
        fun name => ?_⟩
      rw [hrequest, Counter.isChanged_fill]
    | made => cases h0
  · cases hsupplied with
    | found => simpa [Counter.made_fill] using htwo
    | made => simp [lag]

/-! ### Rounds -/

/-- A thread may refresh for a request of the session. It finds this shelf, the request has cached a
cart that was seen there, or none, and the draft of a section that is open has the stored cart.
Nothing is refused, and nobody else has the session's lock. -/
structure Ready (d : Desk) (session : SessionId) (seen : List Cart) (shelf : Shelf) (i : ThreadId)
    (r : RequestRef) (w : World) (l : Workspace) : Prop where
  session_eq : r.session = session
  known : r.id < l.requests.length
  calm : Calm w
  isOpen : (d.retreat r False).Open i w
  shelf_eq : w.storage d.cart.store r.session = shelf
  cached : (l.request r.id).get? d.cart.name = none ∨
    ∃ y ∈ seen, (l.request r.id).get? d.cart.name = some (.cart y)
  opened : ∀ id, l.openDraft? .cart r.session d.cart.name = some id →
    ∃ e value, l.drafts[id]? = some e ∧ e.current = value.map .cart ∧ e.closed = false ∧
      ∀ z, shelf.value d.cart.name = some (.cart z) → value = some z

/-- A refresh by a thread for a request, with the worlds and workspaces before and after. -/
structure Round where
  thread : ThreadId
  request : RequestRef
  world : World
  workspace : Workspace
  events : List Event
  out : Except Failure Bool
  world' : World
  workspace' : Workspace

/-- What is stored for the session after the round. -/
def Round.shelf (d : Desk) (x : Round) : Shelf := x.world'.storage d.cart.store x.request.session

/-- The cart that is stored after the round. -/
def Round.carts (d : Desk) (x : Round) : List Cart := (x.shelf d).currentCart?.toList

/-- The thread was ready, and has refreshed while the others left the session alone. -/
structure Round.Goes (d : Desk) (session : SessionId) (locale : String) (seen : List Cart)
    (shelf : Shelf) (x : Round) : Prop where
  ready : d.Ready session seen shelf x.thread x.request x.world x.workspace
  course : ∃ others : World → World → Prop,
    (∀ w w', others w w' → w.Sparing d.cart.store x.request.session x.thread w') ∧
    (∀ w w', others w w' → (d.retreat x.request False).Open x.thread w →
      (d.retreat x.request False).Open x.thread w') ∧
    (d.refresh x.request locale).Course x.thread others x.world x.workspace x.events
      (.ended x.out) x.world' x.workspace'

/-- Nothing was written, and the change flag is as it was. -/
structure Round.Idle (d : Desk) (x : Round) : Prop where
  shelf_eq : x.shelf d = x.world.storage d.cart.store x.request.session
  wrote : ∀ e ∈ x.events, e.action.rewrite? = none
  flag_eq : (x.workspace'.request x.request.id).isChanged d.cart.name =
    (x.workspace.request x.request.id).isChanged d.cart.name

/-- Refreshes of a session one after the other, by any threads and for any requests, and nothing
else in between that touches the session. With the carts that were seen and the shelf, before and
after. -/
inductive Rounds (d : Desk) (session : SessionId) (locale : String) :
    List Cart → Shelf → List Round → List Cart → Shelf → Prop
  | none (seen : List Cart) (shelf : Shelf) : Rounds d session locale seen shelf [] seen shelf
  | round {x : Round} {rest : List Round} {seen seen' : List Cart} {shelf shelf' : Shelf} :
    x.Goes d session locale seen shelf →
    Rounds d session locale (seen ++ x.carts d) (x.shelf d) rest seen' shelf' →
    Rounds d session locale seen shelf (x :: rest) seen' shelf'

/-- The session has these logins and this cart, and a cart that was seen is in line with the session
only if the stored one is. -/
structure Behind (d : Desk) (user auto : Option UserLogin) (locale : String) (seen : List Cart)
    (shelf : Shelf) (stored : Option Cart) : Prop where
  stored_eq : shelf.value d.cart.name = stored.map .cart
  user_eq : shelf.value userLoginAttribute = user.map .login
  auto_eq : shelf.value autoLoginAttribute = auto.map .login
  seen_eq : ∀ y ∈ seen, ∃ z, stored = some z ∧
    (y.InLine user auto locale → z.InLine user auto locale)

variable {session : SessionId} {seen : List Cart} {shelf : Shelf} {i : ThreadId} {w : World}
  {l : Workspace}

theorem Ready.exists_goes (hr : d.Ready session seen shelf i r w l) {patient : Bool}
    {out : Except Failure Bool} {w' : World} {l' : Workspace}
    (hrun : (d.refresh r locale).run patient i w l = .finished out w' l') :
    ∃ events, Round.Goes d session locale seen shelf ⟨i, r, w, l, events, out, w', l'⟩ := by
  have hends : (d.refresh r locale).Ends i Eq w l out w' l' :=
    Routine.ends_of_run (fun _ => rfl) hrun
  obtain ⟨events, hcourse⟩ := hends.exists_course
  refine ⟨events, hr, Eq, ?_, ?_, hcourse⟩
  · rintro w _ rfl
    exact (World.Quiet.refl i w).sparing ..
  · rintro w _ rfl hopen
    exact hopen

section Step

variable (hd : d.Stocks)

include hd

theorem Ready.reaches (hr : d.Ready session seen shelf i r w l)
    (h : d.Behind user auto locale seen shelf stored) : ∃ q, l.Drafts r.session d.cart.name q ∧
    d.Reaches r False (d.refresh r locale) (d.counter r w l q) fun modified c' => ∃ z',
      d.Advanced user auto locale seen stored (d.counter r w l q) modified z' c' := by
  obtain ⟨q, hdrafts, hq⟩ := Workspace.exists_drafts hr.opened
  have hfound : ∃ cached : Option Cart, (l.request r.id).get? d.cart.name = cached.map .cart ∧
      ∀ y, cached = some y → y ∈ seen := by
    rcases hr.cached with hnone | ⟨y, hy, hsome⟩
    · exact ⟨none, hnone, fun _ h => nomatch h⟩
    · refine ⟨some y, hsome, ?_⟩
      rintro _ ⟨rfl⟩
      exact hy
  obtain ⟨cached, hcached, hseen⟩ := hfound
  have hfinds : d.Finds (d.counter r w l q) user auto stored cached := by
    have hshelf : (d.counter r w l q).shelf = shelf := hr.shelf_eq
    refine ⟨hshelf ▸ h.stored_eq, hcached, hshelf ▸ h.user_eq, hshelf ▸ h.auto_eq, ?_⟩
    rintro z rfl p hp
    exact hq p hp z h.stored_eq
  refine ⟨q, hdrafts, (Reaches.refresh hd.name_eq hd.make hfinds fun y hy =>
    h.seen_eq y (hseen y hy)).mono ?_⟩
  rintro modified c' ⟨z, c₁, z', hsupplied, hrenewed, hfinds'⟩
  exact ⟨z', .of_renewed hd hseen hsupplied hrenewed hfinds'⟩

/-- **One round.** It ends well and takes one off the lag, if there is one. The thread is ready
again for its request. -/
theorem Round.Goes.step {x : Round} (hx : x.Goes d session locale seen shelf)
    (h : d.Behind user auto locale seen shelf stored) : ∃ z',
    d.Behind user auto locale (seen ++ x.carts d) (x.shelf d) (some z') ∧
    d.Ready session (seen ++ x.carts d) (x.shelf d) x.thread x.request x.world' x.workspace' ∧
    x.out = .ok (decide (lag user auto locale stored ≠ 0)) ∧
    lag user auto locale (some z') = lag user auto locale stored - 1 ∧
    (lag user auto locale stored = 0 → x.Idle d) ∧
    (lag user auto locale stored = 2 ↔ stored.isSome = true ∧ Event.dealt x.events ≠ []) := by
  obtain ⟨hready, others, hothers, hkeep, hcourse⟩ := hx
  obtain ⟨q, hdrafts, hreaches⟩ := hready.reaches hd h
  obtain ⟨hcalm, hopen, hfailed, hended⟩ := hreaches.course
    (C := .sparing d.cart.store x.request.session) (fun _ => ⟨rfl, rfl⟩) hready.calm hready.known
    hdrafts hready.isOpen (Company.bounds_sparing hothers) hkeep hcourse
  obtain ⟨modified, hresult⟩ : ∃ modified, x.out = .ok modified := by
    cases hresult : x.out with
    | error f => exact (hfailed f hresult).elim
    | ok modified => exact ⟨modified, rfl⟩
  obtain ⟨c', ⟨z', hadvanced⟩, hleaves⟩ := hended modified hresult
  obtain ⟨hmodified, hlag, ⟨y, hy, hfinds⟩, hidle, hmade⟩ := hadvanced
  have hshelf : x.shelf d = c'.shelf := hleaves.shelf_eq
  have hcart : x.carts d = [z'] := by
    have hvalue : (x.shelf d).value cartAttribute = some (.cart z') := by
      rw [hshelf, ← hd.name_eq]
      exact hfinds.stored_eq
    rw [Round.carts, Shelf.currentCart?, hvalue]
    rfl
  rw [hcart]
  refine ⟨z', ?behind, ?ready, ?_, hlag, fun h0 => ?idle, ?made⟩
  case behind =>
    refine ⟨hshelf ▸ hfinds.stored_eq, hshelf ▸ hfinds.user_eq, hshelf ▸ hfinds.auto_eq, ?_⟩
    intro y hy
    refine ⟨z', rfl, fun hline => ?_⟩
    rcases List.mem_append.mp hy with hy | hy
    · obtain ⟨z₀, rfl, hz₀⟩ := h.seen_eq y hy
      rw [lag_of_inLine (hz₀ hline)] at hlag
      exact inLine_of_lag hlag
    · rwa [← List.mem_singleton.mp hy]
  case ready =>
    refine ⟨hready.session_eq, hleaves.known, hcalm, hopen, rfl, .inr ⟨y, hy, ?_⟩, fun id hid => ?_⟩
    · rw [hleaves.request_eq]
      exact hfinds.cached_eq
    · obtain ⟨p, e, hp, he, hcurrent, hclosed⟩ := hleaves.drafts.exists_draft hid
      refine ⟨e, p.value, he, hcurrent, hclosed, fun z hz => ?_⟩
      rw [hshelf, hfinds.stored_eq] at hz
      cases hz
      exact hfinds.draft_eq _ rfl p hp
  case idle =>
    obtain ⟨hshelf', hwrote, hflag⟩ := hidle h0
    refine ⟨hshelf.trans hshelf', fun e he => ?_, ?_⟩
    · have hnone := hleaves.wrote_eq.trans hwrote
      exact Option.not_isSome_iff_eq_none.mp (List.any_eq_false.mp hnone e he)
    · rw [hleaves.request_eq, hflag]
      rfl
  case made =>
    rw [hmade, hleaves.made_eq]
    rfl
  · rw [hresult, hmodified]

/-- A thread that is ready ends well when it refreshes at one go. -/
theorem Ready.exists_run (hr : d.Ready session seen shelf i r w l)
    (h : d.Behind user auto locale seen shelf stored) (patient : Bool) :
    ∃ modified w' l', (d.refresh r locale).run patient i w l = .finished (.ok modified) w' l' := by
  obtain ⟨q, hdrafts, hreaches⟩ := hr.reaches hd h
  obtain ⟨out, w', l', hrun⟩ := hreaches.exists_run (C := .sparing d.cart.store r.session)
    (fun _ => ⟨rfl, rfl⟩) hr.calm hr.known hdrafts hr.isOpen not_false patient
  obtain ⟨events, hgoes⟩ := hr.exists_goes hrun
  obtain ⟨_, _, _, rfl, _⟩ := hgoes.step hd h
  exact ⟨_, w', l', hrun⟩

/-- **Rounds in a row.** Each takes one off the lag, until there is none. -/
theorem Rounds.settle {xs : List Round} {seen' : List Cart} {shelf' : Shelf}
    (hrounds : d.Rounds session locale seen shelf xs seen' shelf')
    (h : d.Behind user auto locale seen shelf stored) :
    (∃ stored', d.Behind user auto locale seen' shelf' stored') ∧
    (∀ k x, xs[k]? = some x →
      x.out = .ok (decide (lag user auto locale stored - k ≠ 0)) ∧
      (lag user auto locale stored - k = 0 → x.Idle d)) ∧
    ∀ x, xs.getLast? = some x →
      d.Ready session seen' shelf' x.thread x.request x.world' x.workspace' := by
  induction hrounds generalizing stored with
  | none => exact ⟨⟨stored, h⟩, fun _ _ hx => by simp at hx, fun _ hx => by simp at hx⟩
  | @round x rest _ _ _ _ hx hrest ih =>
    obtain ⟨z', h', hready, hout, hlag, hidle, _⟩ := hx.step hd h
    obtain ⟨hbehind, hrounds', hlast⟩ := ih h'
    refine ⟨hbehind, fun k y hy => ?_, fun y hy => ?_⟩
    · cases k with
      | zero =>
        obtain rfl : x = y := by simpa using hy
        exact ⟨hout, hidle⟩
      | succ k =>
        have hstep := hrounds' k y (by simpa using hy)
        rw [hlag, Nat.sub_sub, Nat.add_comm 1 k] at hstep
        exact hstep
    · cases rest with
      | nil =>
        obtain rfl : x = y := by simpa using hy
        cases hrest
        exact hready
      | cons x' rest => exact hlast y (by simpa using hy)

end Step

section Converge

variable {settings : Settings} {carts : CartSettings} {pricing : Pricing} {store : StoreName}
  {table : TableName} {clock : Nat → Timestamp} {shelf' : Shelf} {seen' : List Cart}
  {xs : List Round}

/-- **Refreshes converge.** Let a session be refreshed by one request after another, each with
nothing cached or with a cart that was stored at the start or after an earlier round. Every round
ends well. The second one changes the cart exactly if the first one has made a cart in place of a
stored one, which it has exactly if that was another user's. From the third round on nothing is
changed and nothing is written. There can be another round at any time, and for the request of the
last one. -/
theorem refreshes_converge (hstored : shelf.value cartAttribute = stored.map .cart)
    (huser : shelf.value userLoginAttribute = user.map .login)
    (hauto : shelf.value autoLoginAttribute = auto.map .login)
    (hrounds : (Desk.new settings carts pricing store table clock).Rounds session locale
      stored.toList shelf xs seen' shelf') :
    (∀ x ∈ xs, ∃ modified, x.out = .ok modified) ∧
    (∀ first second, xs[0]? = some first → xs[1]? = some second →
      (second.out = .ok true ↔ stored.isSome = true ∧ Event.dealt first.events ≠ [])) ∧
    (∀ first, xs[0]? = some first → (stored.isSome = true ∧ Event.dealt first.events ≠ [] ↔
      ∃ z, stored = some z ∧ z.Estranged user auto)) ∧
    (∀ k x, 2 ≤ k → xs[k]? = some x →
      x.out = .ok false ∧ x.Idle (Desk.new settings carts pricing store table clock)) ∧
    (∀ {i r w l}, (Desk.new settings carts pricing store table clock).Ready session seen' shelf' i r
      w l → ∀ patient, ∃ modified w' l',
        ((Desk.new settings carts pricing store table clock).refresh r locale).run patient i w l =
          .finished (.ok modified) w' l') ∧
    ∀ x, xs.getLast? = some x → (Desk.new settings carts pricing store table clock).Ready session
      seen' shelf' x.thread x.request x.world' x.workspace' := by
  have hd := stocks_new settings carts pricing store table clock
  have h : (Desk.new settings carts pricing store table clock).Behind user auto locale stored.toList
      shelf stored :=
    ⟨hstored, huser, hauto, fun y hy => ⟨y, Option.mem_toList.mp hy, id⟩⟩
  obtain ⟨⟨stored', h'⟩, hall, hlast⟩ := hrounds.settle hd h
  have hfirst : ∀ first, xs[0]? = some first → (lag user auto locale stored = 2 ↔
      stored.isSome = true ∧ Event.dealt first.events ≠ []) := by
    intro first hget
    cases hrounds with
    | none => cases hget
    | round hx hrest =>
      cases hget
      obtain ⟨_, _, _, _, _, _, hmade⟩ := hx.step hd h
      exact hmade
  have hle := @lag_le_two user auto locale stored
  refine ⟨fun x hx => ?_, fun first second hget hnext => ?_, fun first hget => ?_,
    fun k x hk hget => ?_, fun hr patient => hr.exists_run hd h' patient, hlast⟩
  · obtain ⟨k, hget⟩ := List.getElem?_of_mem hx
    exact ⟨_, (hall k x hget).1⟩
  · rw [(hall 1 second hnext).1, ← hfirst first hget]
    simp only [Except.ok.injEq, decide_eq_true_eq]
    omega
  · rw [← hfirst first hget, lag_eq_two_iff]
  · obtain ⟨hout, hidle⟩ := hall k x hget
    have hzero : lag user auto locale stored - k = 0 := by omega
    rw [hzero] at hout
    exact ⟨hout, hidle hzero⟩

/-- The cart of a user who is gone is replaced, then brought in line, and then left alone. -/
theorem refreshes_converge_forsaken : ∃ xs seen' shelf',
    kiosk.Rounds Race.arena "en" [forsaken] ((stocked forsaken).storage .main Race.arena) xs seen'
      shelf' ∧
    xs.map Round.out = [.ok true, .ok true, .ok false] ∧ ∀ x, xs[2]? = some x → x.Idle kiosk := by
  have hruns : ∃ w₁ l₁ w₂ l₂ w₃ l₃,
      (kiosk.refresh ⟨0, Race.arena⟩ "en").run true 0 (stocked forsaken)
        { requests := [.new Race.arena] } = .finished (.ok true) w₁ l₁ ∧
      (kiosk.refresh ⟨0, Race.arena⟩ "en").run true 0 w₁ l₁ = .finished (.ok true) w₂ l₂ ∧
      (kiosk.refresh ⟨0, Race.arena⟩ "en").run true 0 w₂ l₂ = .finished (.ok false) w₃ l₃ :=
    ⟨_, _, _, _, _, _, rfl, rfl, rfl⟩
  obtain ⟨w₁, l₁, w₂, l₂, w₃, l₃, hrun₁, hrun₂, hrun₃⟩ := hruns
  have hd : kiosk.Stocks := stocks_new ..
  have hbehind : kiosk.Behind none none "en" [forsaken]
      ((stocked forsaken).storage .main Race.arena) (some forsaken) :=
    ⟨rfl, rfl, rfl, fun y hy => ⟨y, by rw [List.mem_singleton.mp hy], id⟩⟩
  have hready : kiosk.Ready Race.arena [forsaken] ((stocked forsaken).storage .main Race.arena) 0
      ⟨0, Race.arena⟩ (stocked forsaken) { requests := [.new Race.arena] } := by
    refine ⟨rfl, Nat.one_pos, ⟨sound_stocked forsaken, calm_stocked forsaken⟩,
      ⟨fun _ _ _ => rfl, ?_⟩, rfl, .inl rfl, fun _ h => nomatch h⟩
    intro _ t
    cases t <;> exact fun _ hk => nomatch hk
  obtain ⟨events₁, hgoes₁⟩ := hready.exists_goes hrun₁
  obtain ⟨z₁, hbehind₁, hready₁, _⟩ := hgoes₁.step hd hbehind
  obtain ⟨events₂, hgoes₂⟩ := hready₁.exists_goes hrun₂
  obtain ⟨z₂, hbehind₂, hready₂, _⟩ := hgoes₂.step hd hbehind₁
  obtain ⟨events₃, hgoes₃⟩ := hready₂.exists_goes hrun₃
  have hrounds := Rounds.round hgoes₁ (.round hgoes₂ (.round hgoes₃ (.none _ _)))
  obtain ⟨_, _, _, hlater, _⟩ := @refreshes_converge none none "en" (some forsaken) Race.arena _ {}
    {} .welcome .main .shared .tick _ _ _ rfl rfl rfl hrounds
  exact ⟨_, _, _, hrounds, rfl, fun x hx => (hlater 2 x (Nat.le_refl 2) hx).2⟩

end Converge

end Desk

end SessionCart
