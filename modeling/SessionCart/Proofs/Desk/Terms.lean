import SessionCart.Cart.Script
import SessionCart.Proofs.Desk.Calls
import SessionCart.Proofs.Thread.Terms

/-!
# Terms of the handlers

Every handler of the desk keeps to the session of its request and to the desk's store and lock
table, reports the first refusal that it meets, and passes on only carts that have come about by
operations on carts that it was given or made.
-/

namespace SessionCart

/-- All carts in a value are such. -/
def Value.Carries (K : Cart → Prop) : Value → Prop
  | .cart c => K c
  | .carts cs => ∀ c ∈ cs, K c
  | _ => True

theorem Value.carries_true (v : Value) : v.Carries fun _ => True := by
  cases v <;> simp [Carries]

/-- The terms of a thread that may go anywhere. -/
def Terms.anywhere (K : Cart → Prop) : Terms where
  fit := Value.Carries K
  reads _ _ := True
  writes _ _ := True
  locks _ _ := True

/-- Pens have a price, and a code brings a gift. -/
def Pricing.welcome : Pricing where
  price product _ := if product = "pen" then some .one else none
  gift code := if code = "HELLO" then some "ink" else none

namespace Desk

/-- The desk of a small shop. -/
def kiosk : Desk := .new {} {} .welcome .main .shared .tick

/-- The handlers of the desk, for a request. -/
inductive Handler (d : Desk) (r : RequestRef) : {α : Type} → Routine α → Prop
  | currentCart : Handler d r (d.currentCart r)
  | addItem (product : String) (quantity : Decimal) : Handler d r (d.addItem r product quantity)
  | changeQuantity (product : String) (quantity : Decimal) :
    Handler d r (d.changeQuantity r product quantity)
  | removeItem (product : String) : Handler d r (d.removeItem r product)
  | enterPromoCode (code : String) : Handler d r (d.enterPromoCode r code)
  | withdrawPromoCode (code : String) : Handler d r (d.withdrawPromoCode r code)
  | clear : Handler d r (d.clear r)
  | destroy : Handler d r (d.destroy r)
  | refresh (locale : String) : Handler d r (d.refresh r locale)
  | switchCart (index store : Option String) : Handler d r (d.switchCart r index store)
  | dropParked (index : Option String) : Handler d r (d.dropParked r index)

/-- What holds of the carts that the desk makes, and is kept by every operation on a cart. -/
structure Upholds (d : Desk) (K : Cart → Prop) : Prop where
  make : ∀ n request c, d.cart.make n request = .ok c → K c
  step : ∀ (s : CartStep) c, K c → K (s.perform d.pricing c).2

theorem upholds_true (d : Desk) : d.Upholds fun _ => True :=
  ⟨fun _ _ _ _ => trivial, fun _ _ _ => trivial⟩

variable {K : Cart → Prop} {d : Desk} {r : RequestRef} {T : Terms}

theorem Upholds.edit (hd : d.Upholds K) {α : Type} {edit : Cart.Edit α} (s : CartStep)
    (wrap : α → CartAnswer) (hs : s.perform d.pricing = edit.answer wrap) :
    ∀ c, K c → K (edit c).2 := by
  intro c hc
  have hkept := hd.step s c hc
  rw [hs] at hkept
  exact hkept

theorem Upholds.refresh (hd : d.Upholds K) {c changed : Cart} {user auto : Option UserLogin}
    {locale : String} {modified : Bool} (hc : K c)
    (hrefresh : c.refresh user auto locale = .ok (modified, changed)) : K changed := by
  rw [Cart.refresh] at hrefresh
  cases hchange : loginChange true c.userLogin user with
  | error e => simp [hchange, bind, Except.bind] at hrefresh
  | ok change =>
    cases hauto : loginChange (change.apply c.userLogin).isNone c.autoUserLogin auto with
    | error e => simp [hchange, hauto, bind, Except.bind] at hrefresh
    | ok autoChange =>
      simp only [hchange, hauto, bind, Except.bind, pure, Except.pure, Except.ok.injEq,
        Prod.mk.injEq] at hrefresh
      obtain ⟨_, rfl⟩ := hrefresh
      exact hd.step (.assign (.locale (some locale))) _
        (hd.step (.assign (.autoUserLogin (autoChange.apply c.autoUserLogin))) _
          (hd.step (.assign (.userLogin (change.apply c.userLogin))) c hc))

/-- What becomes of a cart that was to be refreshed: a cart of another user is replaced. -/
def redo (d : Desk) (r : RequestRef) (s : Section .cart) :
    Except Error (Bool × Cart) → Routine (Bool × Cart)
  | .ok refreshed => pure refreshed
  | .error (.userMismatch ..) => do
    let fresh ← d.cart.create r
    pure (true, fresh)
  | .error e => do
    s.discard
    Routine.raise e

/-- The body of a refresh, in an open section. -/
def renew (d : Desk) (r : RequestRef) (locale : String) (s : Section .cart) : Routine Bool := do
  let c ← s.copy
  let user ← d.find r .login userLoginAttribute
  let auto ← d.find r .login autoLoginAttribute
  let (modified, changed) ← d.redo r s (c.refresh user auto locale)
  if modified then
    let _ ← s.commit changed
  else s.discard
  s.close
  return modified

theorem refresh_eq (locale : String) : d.refresh r locale = (do
    let c ← d.currentCart r
    let user ← d.find r .login userLoginAttribute
    let auto ← d.find r .login autoLoginAttribute
    if ← Routine.ofExcept (c.isStale user auto locale) then
      Section.within d.cart r (d.renew r locale)
    else return false) := by
  unfold refresh
  refine congrArg (d.currentCart r >>= ·) (funext fun c => ?_)
  refine congrArg (d.find r .login userLoginAttribute >>= ·) (funext fun user => ?_)
  refine congrArg (d.find r .login autoLoginAttribute >>= ·) (funext fun auto => ?_)
  refine congrArg (Routine.ofExcept _ >>= ·) (funext fun stale => ?_)
  cases stale with
  | false => rfl
  | true =>
    refine congrArg (Section.within d.cart r) (funext fun s => ?_)
    rw [renew]
    refine congrArg (s.copy >>= ·) (funext fun c => ?_)
    refine congrArg (d.find r .login userLoginAttribute >>= ·) (funext fun user => ?_)
    refine congrArg (d.find r .login autoLoginAttribute >>= ·) (funext fun auto => ?_)
    rw [redo.eq_def]
    cases c.refresh user auto locale with
    | ok p => rfl
    | error e =>
      cases e with
      | userMismatch => exact (Routine.bind_assoc ..).symm
      | _ => rfl

/-- What is done under the lock to drop a parked cart. -/
def unpark (d : Desk) (r : RequestRef) (index : Option String) : Routine Bool := do
  let all ← d.parked r
  match (readIndex? index).filter (· < all.length) with
  | some i =>
    d.put r parkedAttribute (.carts (all.eraseIdx i))
    return true
  | none => return false

/-! ### What handlers fail with -/

/-- An error that is no refusal of a backend or a lock. -/
def Plain {α : Type} (out : Except Failure α) : Prop := Refusal.reported? out = none

theorem plain_addItem (p : Pricing) (product : String) (quantity : Decimal) (c : Cart) :
    Plain (p.addItem product quantity c).1 := by
  rw [Pricing.addItem]
  split
  · rw [Cart.addItem]
    split
    · rfl
    · split
      · split <;> rfl
      · rfl
  · rfl

theorem plain_setItemQuantity (product : String) (quantity : Decimal) (c : Cart) :
    Plain (Cart.setItemQuantity product quantity c).1 := by
  rw [Cart.setItemQuantity]
  split
  · rfl
  · split
    · split <;> rfl
    · split <;> rfl

theorem plain_removeItem (product : String) (c : Cart) : Plain (Cart.removeItem product c).1 := by
  rw [Cart.removeItem]
  split <;> rfl

theorem plain_enterPromoCode (p : Pricing) (code : String) (c : Cart) :
    Plain (p.enterPromoCode code c).1 := by
  have hadd : Plain (Cart.addPromoCode code c).1 := by
    rw [Cart.addPromoCode]
    split
    · rfl
    · split <;> rfl
  rw [Pricing.enterPromoCode]
  split
  · split <;> rfl
  · exact hadd

theorem loginChange_error {strict : Bool} {cart session : Option UserLogin} {e : Error}
    (h : loginChange strict cart session = .error e) : ∃ c s, e = .userMismatch c s := by
  rw [loginChange.eq_def] at h
  split at h
  · cases h
  · cases h
  · split at h
    · split at h <;> cases h
    · split at h
      · cases h
      · split at h
        · cases h
          exact ⟨_, _, rfl⟩
        · cases h

theorem isStale_error {c : Cart} {user auto : Option UserLogin} {locale : String} {e : Error}
    (h : c.isStale user auto locale = .error e) : ∃ c s, e = .userMismatch c s := by
  rw [Cart.isStale] at h
  cases huser : loginChange false c.userLogin user with
  | error e' =>
    simp only [huser, bind, Except.bind, Except.error.injEq] at h
    exact loginChange_error (h ▸ huser)
  | ok change =>
    simp only [huser, bind, Except.bind] at h
    split at h
    · cases h
    · cases hauto : loginChange false c.autoUserLogin auto with
      | error e' =>
        simp only [hauto, Except.error.injEq] at h
        exact loginChange_error (h ▸ hauto)
      | ok autoChange =>
        simp only [hauto] at h
        split at h <;> cases h

theorem refresh_error {c : Cart} {user auto : Option UserLogin} {locale : String} {e : Error}
    (h : c.refresh user auto locale = .error e) : ∃ c s, e = .userMismatch c s := by
  rw [Cart.refresh] at h
  cases huser : loginChange true c.userLogin user with
  | error e' =>
    simp only [huser, bind, Except.bind, Except.error.injEq] at h
    exact loginChange_error (h ▸ huser)
  | ok change =>
    cases hauto : loginChange (change.apply c.userLogin).isNone c.autoUserLogin auto with
    | error e' =>
      simp only [huser, hauto, bind, Except.bind, Except.error.injEq] at h
      exact loginChange_error (h ▸ hauto)
    | ok autoChange => simp [huser, hauto, bind, Except.bind, pure, Except.pure] at h

end Desk

/-! ### Parts of handlers -/

namespace Terms

variable {K : Cart → Prop} {d : Desk} {r : RequestRef} {T : Terms}

section Parts

variable (hT : T.fit = Value.Carries K) (hd : d.Upholds K)
  (hreads : T.reads d.cart.store r.session) (hwrites : T.writes d.cart.store r.session)
  (hlocks : T.locks d.cart.table r.session)

theorem Abides.summarise (c : Cart) : T.Abides (fun _ => True) (Desk.summarise c) := by
  rw [Desk.summarise]
  cases c.summary with
  | ok s => exact done trivial
  | error o => exact fail rfl

include hreads in
theorem Abides.desk_find (k : Kind) (name : String) : T.Abides (T.Fits k) (d.find r k name) := by
  refine (getStored hreads).bind fun found hfound => ?_
  cases found with
  | none => exact done fits_none
  | some v =>
    dsimp only
    cases hv : v.as? k with
    | none => exact fail rfl
    | some x => exact done (fits_some (Value.as?_eq_some_iff.mp hv ▸ hfound v rfl))

include hwrites in
theorem Abides.put (name : String) {value : Value} (hvalue : T.fit value) :
    T.Abides (fun _ => True) (d.put r name value) := setStored hwrites hvalue

include hwrites in
theorem Abides.removeAttributes (names : List String) :
    T.Abides (fun _ => True) (d.removeAttributes r names) := by
  induction names with
  | nil => exact done trivial
  | cons name rest ih =>
    have hfirst : T.Abides (fun _ => True) (d.removeAttribute r name) :=
      (removeStored hwrites).andThen (done trivial)
    exact hfirst.andThen ih

include hlocks in
theorem Abides.locked {α : Type} {V : α → Prop} {body : Routine α} (hbody : T.Abides V body) :
    T.Abides V (d.locked r body) :=
  (hold hlocks).bind fun _ htable => ensuring hbody (tidies_drop (htable ▸ hlocks))

include hT

theorem makes_cart (hd : d.Upholds K) : T.Makes d.cart := by
  intro n request c hc
  rw [hT]
  exact hd.make n request c hc

include hwrites in
theorem Abides.noteStore (store : String) : T.Abides (fun _ => True) (d.noteStore r store) := by
  have htext : T.fit (.text store) := hT ▸ trivial
  exact (put hwrites storeAttribute htext).andThen
    ((own (a := .cache r.id storeAttribute (.text store)) htext).mono fun _ _ => trivial)

include hwrites in
theorem Abides.forgetAnonymous (login : UserLogin) :
    T.Abides (fun _ => True) (d.forgetAnonymous r login) := by
  have hlogin : T.fit (.login login) := hT ▸ trivial
  refine (invalidate hwrites).andThen ((remove hwrites .requestOnly).andThen
    ((put hwrites userLoginAttribute hlogin).andThen ?_))
  exact (own (a := .cache r.id anonymousLoginAttribute (.login login)) hlogin).mono
    fun _ _ => trivial

include hreads in
theorem Abides.parked : T.Abides (fun cs => ∀ c ∈ cs, K c) (d.parked r) := by
  refine (desk_find hreads .carts parkedAttribute).bind fun found hfound => done ?_
  cases found with
  | none => exact fun c hc => (List.not_mem_nil hc).elim
  | some cs =>
    have hcs := hfound cs rfl
    rw [hT] at hcs
    exact hcs

include hreads hwrites in
theorem Abides.collect : T.Abides (fun cs => ∀ c ∈ cs, K c) (d.collect r) := by
  refine (parked hT hreads).bind fun before hbefore => ?_
  refine (desk_find hreads .cart cartAttribute).bind fun found hfound => ?_
  cases found with
  | none => exact done hbefore
  | some c =>
    refine (remove hwrites .all).andThen (done fun c' hc' => ?_)
    rcases List.mem_append.mp hc' with hc' | hc'
    · exact hbefore c' hc'
    · have hc := hfound c rfl
      rw [hT] at hc
      rw [List.mem_singleton.mp hc']
      exact hc

include hreads hwrites in
theorem Abides.unpark (index : Option String) :
    T.Abides (fun _ => True) (d.unpark r index) := by
  refine (parked hT hreads).bind fun all hall => ?_
  split
  · rename_i i _
    have hrest : T.fit (.carts (all.eraseIdx i)) := hT ▸ fun c hc =>
      hall c ((List.eraseIdx_sublist all i).subset hc)
    exact (put hwrites parkedAttribute hrest).andThen (done trivial)
  · exact done trivial

include hd

include hreads hwrites hlocks in
theorem Abides.currentCart : T.Abides K (d.currentCart r) := by
  have hmake := makes_cart hT hd
  refine (read hreads hwrites hlocks hmake .requestFirst true .all).bind fun found hfound => ?_
  cases found with
  | some c =>
    have hc := hfound c rfl
    rw [hT] at hc
    exact done hc
  | none =>
    refine (create hmake).mono fun c hc => ?_
    rw [hT] at hc
    exact hc

theorem Abides.change {α : Type} {edit : Cart.Edit α} (hplain : ∀ c, Desk.Plain (edit c).1)
    (hedit : ∀ c, K c → K (edit c).2) {s : Section .cart} (hs : Opens d.cart r s)
    (hwrites : T.writes d.cart.store r.session) (hclose : T.Abides (fun _ => True) s.close) :
    T.Abides (fun p => K p.2) (Desk.change edit s) := by
  have hmake := makes_cart hT hd
  refine (copy (hs.subject_eq ▸ hmake)).bind fun c hc => ?_
  rw [hT] at hc
  have hkept := hedit c hc
  have herror := hplain c
  rcases hout : edit c with ⟨out, changed⟩
  rw [hout] at hkept herror
  cases out with
  | ok a =>
    have hfit : T.fit (.of .cart changed) := hT ▸ hkept
    refine (section_commit ?_ hfit).bind fun committed hcommitted => hclose.andThen (done ?_)
    · rwa [hs.subject_eq, hs.request_eq]
    · rw [hcommitted]
      exact hkept
  | error f =>
    cases f with
    | error e => exact discard.andThen (fail herror)
    | panic p => exact fail rfl

theorem Abides.redo {s : Section .cart} (refreshed : Except Error (Bool × Cart))
    (hok : ∀ p, refreshed = .ok p → K p.2)
    (herror : ∀ e, refreshed = .error e → ∃ c s, e = .userMismatch c s) :
    T.Abides (fun p => K p.2) (d.redo r s refreshed) := by
  cases refreshed with
  | ok p => exact done (hok p rfl)
  | error e =>
    obtain ⟨_, _, rfl⟩ := herror e rfl
    refine (create (makes_cart hT hd)).bind fun fresh hfresh => done ?_
    rw [hT] at hfresh
    exact hfresh

include hreads hwrites in
theorem Abides.renew (locale : String) {s : Section .cart} (hs : Opens d.cart r s)
    (hclose : T.Abides (fun _ => True) s.close) :
    T.Abides (fun _ => True) (d.renew r locale s) := by
  refine (copy (hs.subject_eq ▸ makes_cart hT hd)).bind fun c hc => ?_
  rw [hT] at hc
  refine (desk_find hreads .login userLoginAttribute).bind fun user _ => ?_
  refine (desk_find hreads .login autoLoginAttribute).bind fun auto _ => ?_
  have hredo := redo hT hd (s := s) (r := r) (c.refresh user auto locale)
    (fun p hp => hd.refresh hc hp) fun e he => Desk.refresh_error he
  refine hredo.bind fun p hp => ?_
  obtain ⟨modified, changed⟩ := p
  cases modified with
  | true =>
    have hfit : T.fit (.of .cart changed) := hT ▸ hp
    refine (section_commit ?_ hfit).andThen (hclose.andThen (done trivial))
    rwa [hs.subject_eq, hs.request_eq]
  | false => exact discard.andThen (hclose.andThen (done trivial))

include hreads hwrites hlocks

theorem Abides.update {α : Type} {edit : Cart.Edit α} (hplain : ∀ c, Desk.Plain (edit c).1)
    (hedit : ∀ c, K c → K (edit c).2) : T.Abides (fun p => K p.2) (d.update r edit) :=
  within hlocks hreads (makes_cart hT hd) fun _ hs =>
    change hT hd hplain hedit hs hwrites (close hlocks hs)

theorem Abides.clear : T.Abides (fun _ => True) (d.clear r) := by
  have hclear : T.Abides (fun p => K p.2) (d.update r fun c => (.ok (), c.clear)) :=
    update hT hd hreads hwrites hlocks (fun _ => rfl) fun c hc => hd.step .clear c hc
  refine locked hlocks (hclear.andThen ?_)
  refine (desk_find hreads .login userLoginAttribute).bind fun login _ => ?_
  cases login with
  | none => exact done trivial
  | some login =>
    dsimp only
    split
    · exact forgetAnonymous hT hwrites login
    · exact done trivial

theorem Abides.destroy : T.Abides (fun _ => True) (d.destroy r) :=
  locked hlocks ((clear hT hd hreads hwrites hlocks).andThen
    ((remove hwrites .all).andThen (removeAttributes hwrites attributesBesideCart)))

theorem Abides.refresh (locale : String) : T.Abides (fun _ => True) (d.refresh r locale) := by
  rw [Desk.refresh_eq]
  refine (currentCart hT hd hreads hwrites hlocks).bind fun c _ => ?_
  refine (desk_find hreads .login userLoginAttribute).bind fun user _ => ?_
  refine (desk_find hreads .login autoLoginAttribute).bind fun auto _ => ?_
  have hstale : T.Abides (fun _ => True) (Routine.ofExcept (c.isStale user auto locale)) := by
    refine ofExcept (fun _ _ => trivial) fun e he => ?_
    obtain ⟨_, _, rfl⟩ := Desk.isStale_error he
    rfl
  refine hstale.bind fun stale _ => ?_
  cases stale with
  | true =>
    exact within hlocks hreads (makes_cart hT hd) fun s hs =>
      renew hT hd hreads hwrites locale hs (close hlocks hs)
  | false => exact done trivial

theorem Abides.replace (store : Option String) {all : List Cart} (hall : ∀ c ∈ all, K c) :
    T.Abides (fun p => K p.1 ∧ ∀ c ∈ p.2, K c) (d.replace r store all) := by
  have hnew := (currentCart hT hd hreads hwrites hlocks).bind (W := fun p => K p.1 ∧ ∀ c ∈ p.2, K c)
    (f := fun c => .done (c, all)) fun c hc => done ⟨hc, hall⟩
  rw [Desk.replace]
  cases store.filter (!·.isEmpty) with
  | none => exact hnew
  | some store => exact (noteStore hT hwrites store).andThen hnew

theorem Abides.desk_pick (index store : Option String) {all : List Cart} (hall : ∀ c ∈ all, K c) :
    T.Abides (fun p => K p.1 ∧ ∀ c ∈ p.2, K c) (d.pick r index store all) := by
  rw [Desk.pick]
  cases hpick : (Desk.readIndex? index).bind fun i => all[i]?.map (i, ·) with
  | none => exact replace hT hd hreads hwrites hlocks store hall
  | some p =>
    obtain ⟨i, _, hget⟩ := Option.bind_eq_some_iff.mp hpick
    obtain ⟨c, hc, rfl⟩ := Option.map_eq_some_iff.mp hget
    exact done ⟨hall c (List.mem_of_getElem? hc), fun c' hc' =>
      hall c' ((List.eraseIdx_sublist all i).subset hc')⟩

theorem Abides.switchCart (index store : Option String) :
    T.Abides (fun _ => True) (d.switchCart r index store) := by
  rw [Desk.switchCart_eq]
  refine locked hlocks ((collect hT hreads hwrites).bind fun all hall => ?_)
  refine (desk_pick hT hd hreads hwrites hlocks index store hall).bind fun p hp => ?_
  have hrest : T.fit (.carts p.2) := hT ▸ hp.2
  have hnext : T.fit (.of .cart p.1) := hT ▸ hp.1
  exact (put hwrites parkedAttribute hrest).andThen (write hwrites (fits_some hnext) .all)

/-- Every handler keeps to the terms, and reports the first refusal that it meets. -/
theorem Abides.handler {α : Type} {x : Routine α} (hx : d.Handler r x) :
    T.Abides (fun _ => True) x := by
  cases hx with
  | currentCart =>
    exact (currentCart hT hd hreads hwrites hlocks).mono fun _ _ => trivial
  | addItem product quantity =>
    exact (update hT hd hreads hwrites hlocks (Desk.plain_addItem d.pricing product quantity)
      (hd.edit (.addPriced product quantity) _ rfl)).bind fun p _ => summarise p.2
  | changeQuantity product quantity =>
    exact (update hT hd hreads hwrites hlocks (Desk.plain_setItemQuantity product quantity)
      (hd.edit (.setQuantity product quantity) _ rfl)).bind fun p _ => summarise p.2
  | removeItem product =>
    exact (update hT hd hreads hwrites hlocks (Desk.plain_removeItem product)
      (hd.edit (.remove product) _ rfl)).bind fun p _ => summarise p.2
  | enterPromoCode code =>
    have hupdate := update hT hd hreads hwrites hlocks (Desk.plain_enterPromoCode d.pricing code)
      (hd.edit (.enterCode code) _ rfl)
    exact hupdate.bind (W := fun _ => True) (f := fun p => .done p.1) fun _ _ => done trivial
  | withdrawPromoCode code =>
    have hupdate : T.Abides (fun p => K p.2) (d.update r fun c =>
        (.ok (c.removePromoCode code).1, (c.removePromoCode code).2)) :=
      update hT hd hreads hwrites hlocks (fun _ => rfl) (hd.step (.withdrawCode code))
    exact hupdate.bind (W := fun _ => True) (f := fun p => .done p.1) fun _ _ => done trivial
  | clear => exact clear hT hd hreads hwrites hlocks
  | destroy => exact destroy hT hd hreads hwrites hlocks
  | refresh locale => exact refresh hT hd hreads hwrites hlocks locale
  | switchCart index store => exact switchCart hT hd hreads hwrites hlocks index store
  | dropParked index => exact locked hlocks (unpark hT hreads hwrites index)

end Parts

end Terms

end SessionCart
