import SessionCart.Cart.Codec
import SessionCart.Proofs.Codec.Instant

/-!
# Carts read back

A cart that is written as JSON is read back as the same cart, with the places of its decimals and the
instant of its making. What is read from any JSON can be written so that it is read again: the reader
takes more spellings than the writer uses, but none of them stands for a cart that the writer cannot
write. Only a minus zero is written and not read back, and no text is read as one.
-/

namespace SessionCart

/-! ### Options and lists -/

namespace Json

theorem nullable?_optionStr (o : Option String) : nullable? str? (optionStr o) = some o := by
  cases o <;> rfl

/-- A value that is written as something other than null is read back where null may stand. -/
theorem nullable?_written {α : Type} {read : Json → Option α} {write : α → Json} {o : Option α}
    (hnull : ∀ x, write x ≠ .null) (hread : ∀ x ∈ o, read (write x) = some x) :
    nullable? read ((o.map write).getD .null) = some o := by
  cases o with
  | none => rfl
  | some x =>
    have hx := hread x rfl
    change nullable? read (write x) = some (some x)
    cases hw : write x
    case null => exact absurd hw (hnull x)
    all_goals
      rw [hw] at hx
      simp [nullable?, hx]

theorem list?_written {α : Type} {read : Json → Option α} {write : α → Json} {l : List α}
    (h : ∀ x ∈ l, read (write x) = some x) : list? read (.arr (l.map write)) = some l := by
  change (l.map write).mapM read = some l
  induction l with
  | nil => rfl
  | cons x l ih =>
    rw [List.map_cons, List.mapM_cons, h x List.mem_cons_self,
      ih fun y hy => h y (List.mem_cons_of_mem x hy)]
    rfl

theorem exists_read_of_mapM {α : Type} {read : Json → Option α} {items : List Json} {l : List α}
    (h : items.mapM read = some l) : ∀ x ∈ l, ∃ j, read j = some x := by
  induction items generalizing l with
  | nil =>
    cases h
    exact List.forall_mem_nil _
  | cons j items ih =>
    rw [List.mapM_cons] at h
    obtain ⟨x, hx, h⟩ := Option.bind_eq_some_iff.1 h
    obtain ⟨rest, hrest, h⟩ := Option.bind_eq_some_iff.1 h
    cases h
    intro y hy
    rcases List.mem_cons.1 hy with rfl | hy
    · exact ⟨j, hx⟩
    · exact ih hrest y hy

theorem exists_read_of_list? {α : Type} {read : Json → Option α} {j : Json} {l : List α}
    (h : list? read j = some l) : ∀ x ∈ l, ∃ item, read item = some x := by
  obtain ⟨items, -, hitems⟩ := Option.bind_eq_some_iff.1 h
  exact exists_read_of_mapM hitems

end Json

/-! ### Records -/

theorem Decimal.ofJson?_toJson {a : Decimal} (h : ¬a.IsMinusZero) :
    Decimal.ofJson? a.toJson = some a := by
  change Decimal.ofText? a.text = some a
  rw [ofText?_text, (withoutMinusZero_eq_self_iff a).2 h]

theorem Decimal.not_isMinusZero_of_ofJson? {j : Json} {a : Decimal}
    (h : Decimal.ofJson? j = some a) : ¬a.IsMinusZero := by
  obtain ⟨s, -, hs⟩ := Option.bind_eq_some_iff.1 h
  exact not_isMinusZero_of_ofText? hs

theorem OrderType.ofName?_name (o : OrderType) : OrderType.ofName? o.name = some o := by
  cases o <;> rfl

theorem UserLogin.ofJson?_toJson (l : UserLogin) : UserLogin.ofJson? l.toJson = some l := by
  simp [UserLogin.ofJson?, UserLogin.toJson, Json.Record.ofJson?, Json.Record.required?,
    Json.Record.optional?, Json.Record.field?, Json.fieldIn, Json.nullable?_optionStr, Json.str?]

/-- Neither number of the line is a minus zero. -/
def CartLine.HasNoMinusZero (l : CartLine) : Prop :=
  ¬l.quantity.IsMinusZero ∧ ¬l.unitPrice.IsMinusZero

instance (l : CartLine) : Decidable l.HasNoMinusZero := by
  unfold CartLine.HasNoMinusZero
  infer_instance

theorem CartLine.ofJson?_toJson {l : CartLine} (h : l.HasNoMinusZero) :
    CartLine.ofJson? l.toJson = some l := by
  simp [CartLine.ofJson?, CartLine.toJson, Json.Record.ofJson?, Json.Record.required?,
    Json.Record.optional?, Json.Record.field?, Json.fieldIn, Json.nullable?_optionStr, Json.str?,
    Decimal.ofJson?_toJson h.1, Decimal.ofJson?_toJson h.2]

theorem CartLine.hasNoMinusZero_of_ofJson? {j : Json} {l : CartLine}
    (h : CartLine.ofJson? j = some l) : l.HasNoMinusZero := by
  obtain ⟨r, -, h⟩ := Option.bind_eq_some_iff.1 h
  obtain ⟨product, -, h⟩ := Option.bind_eq_some_iff.1 h
  obtain ⟨quantity, hquantity, h⟩ := Option.bind_eq_some_iff.1 h
  obtain ⟨unitPrice, hprice, h⟩ := Option.bind_eq_some_iff.1 h
  obtain ⟨promoCode, -, h⟩ := Option.bind_eq_some_iff.1 h
  cases h
  obtain ⟨jq, -, hq⟩ := Option.bind_eq_some_iff.1 hquantity
  obtain ⟨jp, -, hp⟩ := Option.bind_eq_some_iff.1 hprice
  exact ⟨Decimal.not_isMinusZero_of_ofJson? hq, Decimal.not_isMinusZero_of_ofJson? hp⟩

/-! ### Carts -/

namespace Cart

/-- No line of the cart has a minus zero. -/
def HasNoMinusZero (c : Cart) : Prop := ∀ l ∈ c.lines, l.HasNoMinusZero

instance (c : Cart) : Decidable c.HasNoMinusZero := by
  unfold HasNoMinusZero
  infer_instance

theorem ofJson?_toJson {c : Cart} (h : c.HasNoMinusZero) : Cart.ofJson? c.toJson = some c := by
  have hlines : Json.list? CartLine.ofJson? (.arr (c.lines.map CartLine.toJson)) = some c.lines :=
    Json.list?_written fun l hl => CartLine.ofJson?_toJson (h l hl)
  have hcodes : Json.list? Json.str? (.arr (c.promoCodes.map .str)) = some c.promoCodes :=
    Json.list?_written fun _ _ => rfl
  have hlogin (o : Option UserLogin) :
      Json.nullable? UserLogin.ofJson? ((o.map UserLogin.toJson).getD .null) = some o :=
    Json.nullable?_written (fun _ => Json.noConfusion) fun l _ => UserLogin.ofJson?_toJson l
  simp [Cart.ofJson?, Cart.toJson, Cart.fields, Json.Record.ofJson?, Json.Record.required?,
    Json.Record.optional?, Json.Record.field?, Json.fieldIn, Json.nullable?_optionStr, Json.str?,
    hlines, hcodes, hlogin, OrderType.ofJson?, OrderType.ofName?_name, Timestamp.ofText?_text]

theorem hasNoMinusZero_of_ofJson? {j : Json} {c : Cart} (h : Cart.ofJson? j = some c) :
    c.HasNoMinusZero := by
  obtain ⟨r, -, h⟩ := Option.bind_eq_some_iff.1 h
  obtain ⟨lines, hlines, h⟩ := Option.bind_eq_some_iff.1 h
  have hcart : c.lines = lines := by
    iterate 9 obtain ⟨_, -, h⟩ := Option.bind_eq_some_iff.1 h
    cases h
    rfl
  obtain ⟨items, -, hitems⟩ := Option.bind_eq_some_iff.1 hlines
  intro l hl
  obtain ⟨item, hitem⟩ := Json.exists_read_of_list? hitems l (hcart ▸ hl)
  exact CartLine.hasNoMinusZero_of_ofJson? hitem

/-- A cart without a minus zero is read back from its JSON as it was, of whatever year its making
is. A cart that was read from any JSON is read again from what is written of it, and what is then
written is the same once more. -/
theorem json_inverts :
    (∀ c : Cart, c.HasNoMinusZero → Cart.ofJson? c.toJson = some c) ∧
      ∀ (j : Json) (c : Cart), Cart.ofJson? j = some c →
        Cart.ofJson? c.toJson = some c ∧
          (Cart.ofJson? c.toJson).map Cart.toJson = some c.toJson := by
  refine ⟨fun c => ofJson?_toJson, fun j c hread => ?_⟩
  have hback : Cart.ofJson? c.toJson = some c := ofJson?_toJson (hasNoMinusZero_of_ofJson? hread)
  exact ⟨hback, by rw [hback, Option.map_some]⟩

/-- A cart with a price below zero, a gift, and a leap second. -/
def sample : Cart where
  lines := [⟨"A", ⟨false, 250, 2, by decide, by decide⟩, ⟨true, 10, 1, by decide, by decide⟩, none⟩,
    ⟨"B", .one, .zero, some "TEN"⟩]
  currency := "EUR"
  locale := some "de"
  store := "main"
  orderType := .purchase
  webSite := none
  userLogin := some ⟨"eve", none⟩
  autoUserLogin := none
  promoCodes := ["TEN"]
  createdAt := ⟨⟨2000, 2, 29⟩, 1439, 60, 1_500_000, by decide, by decide, by decide, by decide⟩

/-- The same cart as another hand would write it: records as arrays, an unknown field, fields left
out, needless signs and zeros, and a clock east of UTC. -/
def sampleSpelled : Json :=
  .obj [("colour", .nat 1),
    ("lines", .arr [.arr [.str "A", .str "+002.50", .str "-1.0", .null],
      .obj [("promo_code", .str "TEN"), ("unit_price", .str "-0"), ("quantity", .str "01"),
        ("product_id", .str "B")]]),
    ("currency", .str "EUR"), ("locale", .str "de"), ("product_store_id", .str "main"),
    ("order_type", .obj [("PurchaseOrder", .null)]), ("user_login", .arr [.str "eve", .null]),
    ("promo_codes", .arr [.str "TEN"]), ("created_at", .str "2000-03-01t05:29:60.0015+05:30")]

theorem sampleSpelled_read : Cart.ofJson? sampleSpelled = some sample := by decide +kernel

theorem json_inverts_sample :
    sample.HasNoMinusZero ∧ Cart.ofJson? sampleSpelled = some sample ∧
      Cart.ofJson? sample.toJson = some sample ∧
        (Cart.ofJson? sample.toJson).map Cart.toJson = some sample.toJson :=
  ⟨by decide, sampleSpelled_read, json_inverts.1 sample (by decide),
    (json_inverts.2 sampleSpelled sample sampleSpelled_read).2⟩

end Cart

end SessionCart
