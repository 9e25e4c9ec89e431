import SessionCart.Proofs.Cart.WellFormed

/-!
# Steps on a cart

A step on a cart is taken as a whole or not at all, and a step on a product touches one regular line
of that product at most. Nothing is assumed of the cart: it may have several regular lines of one
product, and gifts of promo codes that nobody has entered.
-/

namespace SessionCart

namespace Cart

/-! ### One line -/

/-- The carts are the same but for one regular line of a product, which is added, changed or taken
out. -/
structure SameButOne (product : String) (c c' : Cart) : Prop where
  identity_eq : c' = { c with lines := c'.lines }
  others_eq : (c'.lines.filter fun l => !l.isRegular product) =
    c.lines.filter fun l => !l.isRegular product
  one_line : ∃ (front back : List CartLine) (before after : Option CartLine),
    c.lines = front ++ before.toList ++ back ∧ c'.lines = front ++ after.toList ++ back ∧
      (∀ l ∈ before, l.isRegular product = true) ∧ ∀ l ∈ after, l.isRegular product = true

variable {product : String} {quantity : Decimal} {c : Cart} {l : CartLine}
  {front back : List CartLine}

theorem sameButOne_of_split (front back : List CartLine) (before after : Option CartLine)
    (hlines : c.lines = front ++ before.toList ++ back)
    (hbefore : ∀ l ∈ before, l.isRegular product = true)
    (hafter : ∀ l ∈ after, l.isRegular product = true) :
    SameButOne product c { c with lines := front ++ after.toList ++ back } := by
  have hdropped : ∀ {o : Option CartLine}, (∀ l ∈ o, l.isRegular product = true) →
      (o.toList.filter fun l => !l.isRegular product) = [] := by
    intro o ho
    apply List.filter_eq_nil_iff.mpr
    intro l hl
    simp [ho l (Option.mem_toList.mp hl)]
  refine ⟨rfl, ?_, front, back, before, after, hlines, rfl, hbefore, hafter⟩
  calc (front ++ after.toList ++ back).filter (fun l => !l.isRegular product)
      = front.filter (fun l => !l.isRegular product) ++
          back.filter fun l => !l.isRegular product := by
        rw [List.filter_append, List.filter_append, hdropped hafter, List.append_nil]
    _ = c.lines.filter fun l => !l.isRegular product := by
        rw [hlines, List.filter_append, List.filter_append, hdropped hbefore, List.append_nil]

theorem exists_split_of_line? (hl : c.line? product = some l) :
    l.isRegular product = true ∧ ∃ front back, c.lines = front ++ l :: back ∧
      ∀ x ∈ front, x.isRegular product = false := by
  obtain ⟨hregular, front, back, hlines, hfront⟩ := List.find?_eq_some_iff_append.mp hl
  exact ⟨hregular, front, back, hlines, fun x hx => by simpa using hfront x hx⟩

theorem setQuantity_split (hl : l.isRegular product = true)
    (hfront : ∀ x ∈ front, x.isRegular product = false) :
    setQuantity product quantity (front ++ l :: back) =
      front ++ { l with quantity := quantity } :: back := by
  induction front with
  | nil => exact if_pos hl
  | cons x rest ih =>
    have hx : x.isRegular product = false := hfront x List.mem_cons_self
    have hrest := ih fun y hy => hfront y (List.mem_cons_of_mem x hy)
    rw [List.cons_append, setQuantity, if_neg (by simp [hx]), hrest, List.cons_append]

theorem sameButOne_setQuantity (hl : c.line? product = some l) (quantity : Decimal) :
    SameButOne product c { c with lines := setQuantity product quantity c.lines } := by
  obtain ⟨hregular, front, back, hlines, hfront⟩ := exists_split_of_line? hl
  have hone := sameButOne_of_split front back (some l) (some { l with quantity := quantity })
    (by simpa using hlines) (by simpa using hregular) (by rintro _ ⟨⟩; exact hregular)
  have hset : setQuantity product quantity c.lines =
      front ++ (some { l with quantity := quantity }).toList ++ back := by
    rw [hlines, setQuantity_split hregular hfront, Option.toList_some, List.append_assoc,
      List.singleton_append]
  rwa [hset]

theorem sameButOne_eraseP (hl : c.line? product = some l) :
    SameButOne product c { c with lines := c.lines.eraseP (CartLine.isRegular product) } := by
  obtain ⟨hregular, front, back, hlines, hfront⟩ := exists_split_of_line? hl
  have hone := sameButOne_of_split front back (some l) none (by simpa using hlines)
    (by simpa using hregular) (by simp)
  have herase : c.lines.eraseP (CartLine.isRegular product) =
      front ++ (none : Option CartLine).toList ++ back := by
    rw [hlines, List.eraseP_append_right _ fun x hx => by simp [hfront x hx],
      List.eraseP_cons_of_pos hregular, Option.toList_none, List.append_nil]
  rwa [herase]

theorem sameButOne_append (hl : l.isRegular product = true) :
    SameButOne product c { c with lines := c.lines ++ [l] } := by
  have hone := sameButOne_of_split (c := c) c.lines [] none (some l) (by simp) (by simp)
    (by simpa using hl)
  simpa using hone

/-! ### Edits -/

/-- An edit that leaves the cart as it was where it fails. -/
def Edit.Atomic {α : Type} (edit : Edit α) : Prop := ∀ c f, (edit c).1 = .error f → (edit c).2 = c

/-- An edit that touches one regular line of a product at most. -/
def Edit.Local {α : Type} (product : String) (edit : Edit α) : Prop :=
  ∀ c y, (edit c).1 = .ok y → SameButOne product c (edit c).2

theorem atomic_addItem (product : String) (quantity price : Decimal) :
    (addItem product quantity price).Atomic := by
  intro c f h
  rw [addItem] at h ⊢
  split at h
  · rename_i hquantity
    rw [if_pos hquantity]
  · rename_i hquantity
    rw [if_neg hquantity]
    cases hl : c.line? product with
    | none => simp [hl] at h
    | some l =>
      cases hsum : l.quantity.add quantity with
      | ok sum => simp [hl, hsum] at h
      | error o => simp [hsum]

theorem local_addItem (product : String) (quantity price : Decimal) :
    (addItem product quantity price).Local product := by
  intro c y h
  rw [addItem] at h ⊢
  split at h
  · cases h
  · rename_i hquantity
    rw [if_neg hquantity]
    cases hl : c.line? product with
    | none =>
      apply sameButOne_append
      simp [CartLine.isRegular, CartLine.isGift]
    | some l =>
      cases hsum : l.quantity.add quantity with
      | ok sum => simpa [hsum] using sameButOne_setQuantity hl sum
      | error o => simp [hl, hsum] at h

theorem line?_isSome_iff :
    (∃ l, c.line? product = some l) ↔ c.lines.any (CartLine.isRegular product) = true := by
  rw [line?, ← Option.isSome_iff_exists, List.find?_isSome, List.any_eq_true]

theorem atomic_setItemQuantity (product : String) (quantity : Decimal) :
    (setItemQuantity product quantity).Atomic := by
  intro c f h
  unfold setItemQuantity at h ⊢
  split_ifs at h ⊢ <;> rfl

theorem local_setItemQuantity (product : String) (quantity : Decimal) :
    (setItemQuantity product quantity).Local product := by
  intro c y h
  unfold setItemQuantity at h ⊢
  split_ifs at h ⊢ with hnegative hregular hzero
  · obtain ⟨l, hl⟩ := line?_isSome_iff.mpr hregular
    exact sameButOne_eraseP hl
  · obtain ⟨l, hl⟩ := line?_isSome_iff.mpr hregular
    exact sameButOne_setQuantity hl quantity

theorem atomic_removeItem (product : String) : (removeItem product).Atomic := by
  intro c f h
  rw [removeItem] at h ⊢
  split at h
  · cases h
  · rfl

theorem local_removeItem (product : String) : (removeItem product).Local product := by
  intro c y h
  rw [removeItem] at h ⊢
  cases hl : c.line? product with
  | none => simp [hl] at h
  | some l => exact sameButOne_eraseP hl

theorem atomic_addPromoCode (code : String) : (addPromoCode code).Atomic := by
  intro c f h
  rcases addPromoCode_cases code c with ⟨hsame, -⟩ | ⟨-, -, heq⟩
  · exact hsame
  · rw [heq] at h
    cases h

namespace Edit

variable {α : Type} {edit : Edit α}

theorem Atomic.answer (h : edit.Atomic) (wrap : α → CartAnswer) : (edit.answer wrap).Atomic := by
  intro c f hf
  cases hedit : (edit c).1 with
  | ok y => simp [Edit.answer, hedit, Except.map] at hf
  | error e => exact h c e hedit

theorem Local.answer (h : edit.Local product) (wrap : α → CartAnswer) :
    (edit.answer wrap).Local product := by
  intro c y hy
  cases hedit : (edit c).1 with
  | ok y => exact h c y hedit
  | error e => simp [Edit.answer, hedit, Except.map] at hy

end Edit

end Cart

namespace Pricing

variable (p : Pricing)

theorem atomic_addItem (product : String) (quantity : Decimal) :
    (p.addItem product quantity).Atomic := by
  intro c f h
  rw [addItem] at h ⊢
  split at h
  · rename_i price hprice
    exact Cart.atomic_addItem product quantity price c f h
  · rfl

theorem local_addItem (product : String) (quantity : Decimal) :
    (p.addItem product quantity).Local product := by
  intro c y h
  rw [addItem] at h ⊢
  split at h
  · rename_i price hprice
    exact Cart.local_addItem product quantity price c y h
  · cases h

/-- The code is entered before the gift is looked up, and looking it up cannot fail. -/
theorem atomic_enterPromoCode (code : String) : (p.enterPromoCode code).Atomic := by
  intro c f h
  rw [enterPromoCode] at h ⊢
  rcases Cart.addPromoCode_cases code c with ⟨hsame, hfailed⟩ | ⟨-, -, heq⟩
  · split
    · rename_i hok
      exact absurd (congrArg Prod.fst hok) hfailed
    · exact hsame
  · rw [heq] at h
    dsimp only at h
    split at h <;> cases h

end Pricing

/-! ### Steps -/

namespace CartStep

/-- The product that a step is about. -/
def product? : CartStep → Option String
  | add product .. | addPriced product _ | setQuantity product _ | remove product => some product
  | _ => none

theorem atomic_perform (p : Pricing) (s : CartStep) : (s.perform p).Atomic := by
  cases s with
  | add product quantity price => exact (Cart.atomic_addItem product quantity price).answer _
  | addPriced product quantity => exact (p.atomic_addItem product quantity).answer _
  | setQuantity product quantity => exact (Cart.atomic_setItemQuantity product quantity).answer _
  | remove product => exact (Cart.atomic_removeItem product).answer _
  | addCode code => exact (Cart.atomic_addPromoCode code).answer _
  | enterCode code => exact (p.atomic_enterPromoCode code).answer _
  | line | codes | summary => exact fun _ _ _ => rfl
  | clear | withdrawCode | assign => exact fun _ _ h => by cases h

theorem local_perform (p : Pricing) {s : CartStep} {product : String}
    (hproduct : s.product? = some product) : (s.perform p).Local product := by
  cases s with
  | add _ quantity price =>
    obtain rfl := Option.some.inj hproduct
    exact (Cart.local_addItem _ quantity price).answer _
  | addPriced _ quantity =>
    obtain rfl := Option.some.inj hproduct
    exact (p.local_addItem _ quantity).answer _
  | setQuantity _ quantity =>
    obtain rfl := Option.some.inj hproduct
    exact (Cart.local_setItemQuantity _ quantity).answer _
  | remove _ =>
    obtain rfl := Option.some.inj hproduct
    exact (Cart.local_removeItem _).answer _
  | _ => cases hproduct

end CartStep

/-! ### Setting a quantity -/

/-- What comes of setting the quantity of a product: a negative quantity is refused first, then that
of a product that is there only as a gift, then that of a product that is not there. -/
structure Cart.Verdict (c : Cart) (product : String) (quantity : Decimal)
    (out : Except Failure Unit) : Prop where
  ok_iff : out = .ok () ↔
    quantity.isNegative = false ∧ ∃ l ∈ c.lines, l.isRegular product = true
  invalid_iff : out = .error (.error (.invalidQuantity product quantity)) ↔
    quantity.isNegative = true
  gift_iff : out = .error (.error (.giftQuantity product)) ↔ quantity.isNegative = false ∧
    (∃ l ∈ c.lines, l.product = product) ∧ ∀ l ∈ c.lines, l.product = product → l.isGift = true
  missing_iff : out = .error (.error (.itemNotInCart product)) ↔
    quantity.isNegative = false ∧ ∀ l ∈ c.lines, l.product ≠ product

theorem CartLine.isRegular_iff {product : String} {l : CartLine} :
    l.isRegular product = true ↔ l.product = product ∧ l.isGift = false := by
  rw [isRegular, Bool.and_eq_true, Bool.not_eq_true', decide_eq_true_eq, and_comm]

theorem Cart.verdict_setItemQuantity (c : Cart) (product : String) (quantity : Decimal) :
    c.Verdict product quantity (setItemQuantity product quantity c).1 := by
  rw [setItemQuantity]
  cases hnegative : quantity.isNegative with
  | true =>
    rw [if_pos rfl]
    constructor <;> simp [hnegative]
  | false =>
    rw [if_neg (by decide)]
    by_cases hregular : ∃ l ∈ c.lines, l.isRegular product = true
    · rw [if_pos (List.any_eq_true.mpr hregular)]
      obtain ⟨l, hl, hlregular⟩ := hregular
      obtain ⟨hlproduct, hlgift⟩ := CartLine.isRegular_iff.mp hlregular
      have hout : (if quantity.isZero then
          ((.ok (), { c with lines := c.lines.eraseP (CartLine.isRegular product) }) :
            Except Failure Unit × Cart)
        else (.ok (), { c with lines := setQuantity product quantity c.lines })).1 = .ok () := by
        split <;> rfl
      rw [hout]
      constructor
      case ok_iff => exact iff_of_true rfl ⟨hnegative, l, hl, hlregular⟩
      case invalid_iff => simp [hnegative]
      case gift_iff =>
        refine iff_of_false (by simp) ?_
        rintro ⟨-, -, hgift⟩
        rw [hgift l hl hlproduct] at hlgift
        cases hlgift
      case missing_iff => exact iff_of_false (by simp) fun hnone => hnone.2 l hl hlproduct
    · rw [if_neg (by simpa using hregular)]
      have hgifts : ∀ l ∈ c.lines, l.product = product → l.isGift = true := by
        intro l hl hproduct
        by_contra hgift
        exact hregular ⟨l, hl, CartLine.isRegular_iff.mpr ⟨hproduct, by simpa using hgift⟩⟩
      by_cases hpresent : ∃ l ∈ c.lines, l.product = product
      · rw [if_pos (by simpa using hpresent)]
        constructor
        case ok_iff => exact iff_of_false (by simp) fun hok => hregular hok.2
        case invalid_iff => simp [hnegative]
        case gift_iff => exact iff_of_true rfl ⟨hnegative, hpresent, hgifts⟩
        case missing_iff =>
          refine iff_of_false (by simp) fun hnone => ?_
          obtain ⟨l, hl, hproduct⟩ := hpresent
          exact hnone.2 l hl hproduct
      · rw [if_neg (by simpa using hpresent)]
        constructor
        case ok_iff => exact iff_of_false (by simp) fun hok => hregular hok.2
        case invalid_iff => simp [hnegative]
        case gift_iff => exact iff_of_false (by simp) fun hgift => hpresent hgift.2.1
        case missing_iff =>
          exact iff_of_true rfl ⟨hnegative, fun l hl hproduct => hpresent ⟨l, hl, hproduct⟩⟩

/-- **Steps on a cart are atomic and local.** Whatever the cart, the prices and the gifts: a step
that fails, with an error or a panic, leaves the cart as it was; a step on a product that does not
fail leaves promo codes, identity and all other lines alone, in their order, and adds, changes or
takes out one regular line of the product at most; and whether a quantity can be set depends on its
sign and on the lines of its product alone. -/
theorem CartStep.atomic_and_local (p : Pricing) (s : CartStep) (c : Cart) :
    (∀ f, (s.perform p c).1 = .error f → (s.perform p c).2 = c) ∧
    (∀ product, s.product? = some product → ∀ y, (s.perform p c).1 = .ok y →
      c.SameButOne product (s.perform p c).2) ∧
    ∀ product quantity, c.Verdict product quantity (Cart.setItemQuantity product quantity c).1 :=
  ⟨s.atomic_perform p c, fun _ hproduct => local_perform p hproduct c,
    c.verdict_setItemQuantity⟩

end SessionCart
