import SessionCart.Cart.Refresh

/-!
# Carts in line with their session

Whether a cart's login agrees with the session's says all about how it follows: a login that agrees
stays, and any other one is replaced or, where that is asked for, refused. So the check without the
lock and the refresh under it are both decided by whether the cart is in line with the session, and
by whether it is another user's.
-/

namespace SessionCart

namespace UserLogin

/-- A cart's login and the session's agree: both are absent, or they have the same name and, if it
is the anonymous one, the same party. -/
def Agrees : (cart session : Option UserLogin) → Prop
  | none, none => True
  | some c, some s => s.id = c.id ∧ (c.isAnonymous = true → s.party = c.party)
  | none, some _ | some _, none => False

/-- The cart has the login of a user by name, and the session has not. -/
def Estranged (cart session : Option UserLogin) : Prop :=
  ∃ c, cart = some c ∧ c.isAnonymous = false ∧ ∀ s, session = some s → s.id ≠ c.id

instance : (cart session : Option UserLogin) → Decidable (Agrees cart session)
  | none, none => .isTrue trivial
  | none, some _ | some _, none => .isFalse not_false
  | some c, some s =>
    inferInstanceAs (Decidable (s.id = c.id ∧ (c.isAnonymous = true → s.party = c.party)))

instance (cart session : Option UserLogin) : Decidable (Estranged cart session) :=
  decidable_of_iff (cart.any fun c => !c.isAnonymous && session.all fun s => s.id ≠ c.id) <| by
    cases cart <;> cases session <;> simp [Estranged]

/-- What becomes of a cart's login that follows the session's. -/
def follow (cart session : Option UserLogin) : Option UserLogin :=
  if Agrees cart session then cart else session

variable {strict : Bool} {cart session : Option UserLogin}

theorem Agrees.refl (login : Option UserLogin) : Agrees login login := by
  cases login with
  | none => trivial
  | some l => exact ⟨rfl, fun _ => rfl⟩

theorem agrees_follow (cart session : Option UserLogin) : Agrees (follow cart session) session := by
  rw [follow]
  split
  · assumption
  · exact .refl session

theorem follow_eq_self_iff : follow cart session = cart ↔ Agrees cart session := by
  refine ⟨fun h => h ▸ agrees_follow cart session, fun h => ?_⟩
  rw [follow, if_pos h]

theorem Estranged.not_agrees (h : Estranged cart session) : ¬Agrees cart session := by
  obtain ⟨c, rfl, _, hother⟩ := h
  cases session with
  | none => exact not_false
  | some s => exact fun hagrees => hother s rfl hagrees.1

/-! ### How a login follows -/

theorem loginChange_of_agrees (h : Agrees cart session) :
    loginChange strict cart session = .ok .keep := by
  cases cart <;> cases session
  case none.none => rfl
  case none.some => exact h.elim
  case some.none => exact h.elim
  case some.some c s =>
    obtain ⟨hid, hparty⟩ := h
    cases hanonymous : c.isAnonymous with
    | true =>
      have hs : s.isAnonymous = true := by rwa [isAnonymous, hid, ← isAnonymous]
      simp [loginChange, hanonymous, hs, hparty hanonymous]
    | false => simp [loginChange, hanonymous, hid]

theorem loginChange_of_not_agrees (h : ¬Agrees cart session)
    (hlenient : strict = true → ¬Estranged cart session) :
    loginChange strict cart session = .ok (.replace session) := by
  cases cart with
  | none =>
    cases session with
    | none => exact absurd trivial h
    | some s => rfl
  | some c =>
    cases hanonymous : c.isAnonymous with
    | true =>
      have hother : session.any (fun s => s.isAnonymous && s.party = c.party) = false := by
        cases session with
        | none => rfl
        | some s =>
          rw [Option.any_some]
          refine Bool.eq_false_iff.mpr fun hsame => h ?_
          simp only [isAnonymous, Bool.and_eq_true, decide_eq_true_eq] at hsame hanonymous
          exact ⟨hsame.1.trans hanonymous.symm, fun _ => hsame.2⟩
      simp [loginChange, hanonymous, hother]
    | false =>
      have hother : session.any (fun s => s.id = c.id) = false := by
        cases session with
        | none => rfl
        | some s =>
          rw [Option.any_some]
          refine Bool.eq_false_iff.mpr fun hsame => h ⟨of_decide_eq_true hsame, fun hc => ?_⟩
          rw [hanonymous] at hc
          cases hc
      cases strict with
      | false => simp [loginChange, hanonymous, hother]
      | true =>
        refine absurd ⟨c, rfl, hanonymous, ?_⟩ (hlenient rfl)
        rintro s rfl hid
        simp [hid] at hother

theorem loginChange_of_estranged (h : Estranged cart session) :
    ∃ c s, loginChange true cart session = .error (.userMismatch c s) := by
  obtain ⟨c, rfl, hanonymous, hid⟩ := h
  have hother : session.any (fun s => s.id = c.id) = false := by
    cases session with
    | none => rfl
    | some s => simpa using hid s rfl
  exact ⟨c.id, session.map UserLogin.id, by simp [loginChange, hanonymous, hother]⟩

/-- A login follows, unless the cart is another user's and that is refused. -/
theorem loginChange_eq (hlenient : strict = true → ¬Estranged cart session) :
    ∃ change, loginChange strict cart session = .ok change ∧
      change.apply cart = follow cart session ∧
      change.isReplacement = decide ¬Agrees cart session := by
  by_cases h : Agrees cart session
  · refine ⟨.keep, loginChange_of_agrees h, ?_, ?_⟩
    · rw [LoginChange.apply, follow, if_pos h]
    · simp [LoginChange.isReplacement, h]
  · refine ⟨.replace session, loginChange_of_not_agrees h hlenient, ?_, ?_⟩
    · rw [LoginChange.apply, follow, if_neg h]
    · simp [LoginChange.isReplacement, h]

end UserLogin

/-! ### Carts -/

namespace Cart

open UserLogin

/-- Both logins of the cart agree with the session's, and it has the locale. -/
structure InLine (c : Cart) (user auto : Option UserLogin) (locale : String) : Prop where
  user_agrees : Agrees c.userLogin user
  auto_agrees : Agrees c.autoUserLogin auto
  locale_eq : c.locale = some locale

/-- The cart is another user's: by its login or, if nobody will be logged in, by the login kept from
an earlier visit. -/
def Estranged (c : Cart) (user auto : Option UserLogin) : Prop :=
  UserLogin.Estranged c.userLogin user ∨
    UserLogin.follow c.userLogin user = none ∧ UserLogin.Estranged c.autoUserLogin auto

/-- The cart with logins that follow the session's, and the locale. -/
def align (c : Cart) (user auto : Option UserLogin) (locale : String) : Cart :=
  { c with
    userLogin := UserLogin.follow c.userLogin user
    autoUserLogin := UserLogin.follow c.autoUserLogin auto
    locale := some locale }

variable {c : Cart} {user auto : Option UserLogin} {locale : String}

instance : Decidable (c.InLine user auto locale) :=
  decidable_of_iff
    (Agrees c.userLogin user ∧ Agrees c.autoUserLogin auto ∧ c.locale = some locale)
    ⟨fun ⟨hu, ha, hl⟩ => ⟨hu, ha, hl⟩, fun ⟨hu, ha, hl⟩ => ⟨hu, ha, hl⟩⟩

instance : Decidable (c.Estranged user auto) :=
  inferInstanceAs (Decidable (UserLogin.Estranged c.userLogin user ∨
    UserLogin.follow c.userLogin user = none ∧ UserLogin.Estranged c.autoUserLogin auto))

theorem inLine_iff : c.InLine user auto locale ↔
    Agrees c.userLogin user ∧ Agrees c.autoUserLogin auto ∧ c.locale = some locale :=
  ⟨fun ⟨hu, ha, hl⟩ => ⟨hu, ha, hl⟩, fun ⟨hu, ha, hl⟩ => ⟨hu, ha, hl⟩⟩

theorem inLine_align (c : Cart) (user auto : Option UserLogin) (locale : String) :
    (c.align user auto locale).InLine user auto locale :=
  ⟨agrees_follow .., agrees_follow .., rfl⟩

theorem align_eq_self_iff : c.align user auto locale = c ↔ c.InLine user auto locale := by
  refine ⟨fun h => h ▸ inLine_align c user auto locale, fun h => ?_⟩
  rw [align, UserLogin.follow_eq_self_iff.mpr h.user_agrees,
    UserLogin.follow_eq_self_iff.mpr h.auto_agrees, ← h.locale_eq]

theorem Estranged.not_inLine (h : c.Estranged user auto) : ¬c.InLine user auto locale := by
  intro hline
  rcases h with huser | ⟨_, hauto⟩
  · exact huser.not_agrees hline.user_agrees
  · exact hauto.not_agrees hline.auto_agrees

/-- The check without the lock never fails, and finds a cart stale that is not in line. -/
theorem isStale_eq (c : Cart) (user auto : Option UserLogin) (locale : String) :
    c.isStale user auto locale = .ok (decide ¬c.InLine user auto locale) := by
  have hlenient : ∀ login session, false = true → ¬UserLogin.Estranged login session :=
    fun _ _ h => by cases h
  obtain ⟨change, hchange, _, huser⟩ := loginChange_eq (hlenient c.userLogin user)
  obtain ⟨autoChange, hautoChange, _, hauto⟩ := loginChange_eq (hlenient c.autoUserLogin auto)
  simp only [isStale, hchange, hautoChange, huser, hauto, bind, Except.bind, pure, Except.pure,
    inLine_iff]
  by_cases hu : Agrees c.userLogin user <;> by_cases ha : Agrees c.autoUserLogin auto <;>
    by_cases hl : c.locale = some locale <;> simp [hu, ha, hl]

theorem refresh_of_estranged (h : c.Estranged user auto) (locale : String) :
    ∃ cart session, c.refresh user auto locale = .error (.userMismatch cart session) := by
  by_cases huser : UserLogin.Estranged c.userLogin user
  · obtain ⟨cart, session, hchange⟩ := loginChange_of_estranged huser
    exact ⟨cart, session, by simp [refresh, hchange, bind, Except.bind]⟩
  · obtain ⟨hnone, hauto⟩ := h.resolve_left huser
    obtain ⟨change, hchange, hfollow, _⟩ := @loginChange_eq true c.userLogin user fun _ => huser
    obtain ⟨cart, session, hautoChange⟩ := loginChange_of_estranged hauto
    exact ⟨cart, session, by
      simp [refresh, hchange, hfollow, hnone, hautoChange, bind, Except.bind]⟩

theorem refresh_of_not_estranged (h : ¬c.Estranged user auto) (locale : String) :
    c.refresh user auto locale =
      .ok (decide ¬c.InLine user auto locale, c.align user auto locale) := by
  obtain ⟨huser, hauto⟩ := not_or.mp h
  obtain ⟨change, hchange, hfollow, hreplaced⟩ :=
    @loginChange_eq true c.userLogin user fun _ => huser
  obtain ⟨autoChange, hautoChange, hautoFollow, hautoReplaced⟩ :=
    @loginChange_eq (UserLogin.follow c.userLogin user).isNone c.autoUserLogin auto
      fun hnone hestranged => hauto ⟨Option.isNone_iff_eq_none.mp hnone, hestranged⟩
  simp only [refresh, hchange, hfollow, hautoChange, hautoFollow, hreplaced, hautoReplaced, bind,
    Except.bind, pure, Except.pure, align, inLine_iff]
  refine congrArg Except.ok (Prod.ext ?_ rfl)
  by_cases hu : Agrees c.userLogin user <;> by_cases ha : Agrees c.autoUserLogin auto <;>
    by_cases hl : c.locale = some locale <;> simp [hu, ha, hl]

/-- **The check without the lock agrees with the refresh under it.** The check always comes to a
result. It finds nothing stale if and only if a refresh of the same cart changes nothing and says
so; a refresh says that it has changed something if and only if it succeeds with another cart; and
it can fail only with a mismatch of users, and only on a cart that the check calls stale. -/
theorem staleness_agrees_with_refresh (c : Cart) (user auto : Option UserLogin) (locale : String) :
    (∃ stale, c.isStale user auto locale = .ok stale) ∧
    (c.isStale user auto locale = .ok false ↔ c.refresh user auto locale = .ok (false, c)) ∧
    ((∃ c', c.refresh user auto locale = .ok (true, c')) ↔
      ∃ modified c', c.refresh user auto locale = .ok (modified, c') ∧ c' ≠ c) ∧
    ((∃ result, c.refresh user auto locale = .ok result) ∨
      ∃ cart session, c.refresh user auto locale = .error (.userMismatch cart session) ∧
        c.isStale user auto locale = .ok true) := by
  rw [isStale_eq]
  by_cases hestranged : c.Estranged user auto
  · obtain ⟨cart, session, hrefresh⟩ := refresh_of_estranged hestranged locale
    have hline : ¬c.InLine user auto locale := hestranged.not_inLine
    simp [hrefresh, hline]
  · rw [refresh_of_not_estranged hestranged]
    by_cases hline : c.InLine user auto locale
    · simp [hline, align_eq_self_iff.mpr hline]
    · have hchanged : c.align user auto locale ≠ c := fun h => hline (align_eq_self_iff.mp h)
      simp [hline, hchanged]

/-- A cart of an anonymous customer gives way to a login, and that of another user does not. -/
example :
    let c := Cart.new "9000" "USD" .sales (.tick 0)
    let ann : UserLogin := ⟨"ann", none⟩
    ({ c with userLogin := some (.anonymous "p1") }.refresh (some ann) none "en").map Prod.fst =
        .ok true ∧
      ({ c with userLogin := some ⟨"bob", none⟩ }.refresh (some ann) none "en").map Prod.fst =
        .error (.userMismatch "bob" (some "ann")) := ⟨rfl, rfl⟩

end Cart

end SessionCart
