import Mathlib.Data.List.Basic
import Mathlib.Data.List.DropRight
import SessionCart.Cart.Script
import SessionCart.Cart.Settings

/-!
# Well-formed carts

The lines and the promo codes of a cart agree with each other, however the cart came about: whatever
operations were carried out on a new one, with whatever prices, and whether they failed or not.
-/

namespace SessionCart

/-! ### Sums of positive quantities -/

namespace Decimal

theorem isPositive_iff {a : Decimal} :
    a.isPositive = true ↔ a.negative = false ∧ a.magnitude ≠ 0 := by
  simp [isPositive, isZero]

theorem isPositive_one : one.isPositive = true := rfl

/-- What is too long at some place is not nothing at the next one. -/
theorem roundHalfEven_succ_ne_zero {n k : Nat} (h : bound ≤ roundHalfEven n k) :
    roundHalfEven n (k + 1) ≠ 0 := by
  intro hzero
  have hlong := (roundHalfEven_near n k).2
  have hshort := (roundHalfEven_near n (k + 1)).1
  rw [hzero, Text.tenPow_succ] at hshort
  have hpos := Text.tenPow_pos k
  have hbound : 2 * bound * Text.tenPow k ≤ 2 * roundHalfEven n k * Text.tenPow k :=
    Nat.mul_le_mul_right _ (Nat.mul_le_mul_left 2 h)
  rw [bound] at hbound
  omega

theorem fitWithin_magnitude_ne_zero {negative : Bool} {n s t : Nat} {ht : t ≤ 28} (hts : t ≤ s)
    (hround : roundHalfEven n (s - t) ≠ 0) {a : Decimal}
    (ha : fitWithin negative n s t ht = some a) : a.negative = negative ∧ a.magnitude ≠ 0 := by
  induction t with
  | zero =>
    rw [fitWithin] at ha
    split at ha
    · cases ha
      exact ⟨rfl, hround⟩
    · cases ha
  | succ t ih =>
    rw [fitWithin] at ha
    split at ha
    · cases ha
      exact ⟨rfl, hround⟩
    · rename_i hlong
      refine ih (Nat.le_of_succ_le hts) ?_ ha
      have hnext : s - t = s - (t + 1) + 1 := by omega
      rw [hnext]
      exact roundHalfEven_succ_ne_zero (Nat.le_of_not_lt hlong)

theorem coeffAt_pos {a : Decimal} (ha : a.isPositive = true) (places : Nat) :
    0 < a.coeffAt places := by
  obtain ⟨hnegative, hmagnitude⟩ := isPositive_iff.mp ha
  rw [coeffAt, coeff, hnegative]
  have hpos := Text.tenPow_pos (places - a.scale)
  exact Int.mul_pos (by simpa using Nat.pos_of_ne_zero hmagnitude) (by exact_mod_cast hpos)

/-- However it is rounded, a sum of positive numbers is positive. -/
theorem isPositive_add {a b sum : Decimal} (ha : a.isPositive = true) (hb : b.isPositive = true)
    (hsum : a.add b = .ok sum) : sum.isPositive = true := by
  have hza : a.isZero = false := by simpa [isZero] using (isPositive_iff.mp ha).2
  have hzb : b.isZero = false := by simpa [isZero] using (isPositive_iff.mp hb).2
  rw [add, hza, hzb, if_neg (by decide), if_neg (by decide), addNonzero] at hsum
  have htotal := Int.add_pos (coeffAt_pos ha (max a.scale b.scale))
    (coeffAt_pos hb (max a.scale b.scale))
  generalize a.coeffAt (max a.scale b.scale) + b.coeffAt (max a.scale b.scale) = total at *
  have hplaces : max a.scale b.scale ≤ 28 := Nat.max_le.mpr ⟨a.scale_le, b.scale_le⟩
  rw [decide_eq_false (Int.not_lt.mpr (Int.le_of_lt htotal))] at hsum
  split at hsum
  · rename_i c hfit
    cases hsum
    refine isPositive_iff.mpr (fitWithin_magnitude_ne_zero (Nat.min_le_left ..) ?_ hfit)
    rw [Nat.min_eq_left hplaces, Nat.sub_self, roundHalfEven_zero]
    omega
  · cases hsum

end Decimal

/-! ### Trimmed texts -/

namespace Text

theorem trimList_trimList (cs : List Char) : trimList (trimList cs) = trimList cs := by
  change List.rdropWhile isBlank (List.dropWhile isBlank (List.rdropWhile isBlank
    (cs.dropWhile isBlank))) = List.rdropWhile isBlank (cs.dropWhile isBlank)
  generalize hfront : cs.dropWhile isBlank = front
  have hidem : front.dropWhile isBlank = front := by
    rw [← hfront, List.dropWhile_idempotent]
  -- what is left of the front after its end is gone still starts with the same character
  have hback : (front.rdropWhile isBlank).dropWhile isBlank = front.rdropWhile isBlank := by
    rw [List.dropWhile_eq_self_iff] at hidem ⊢
    intro hlength
    have hinit := List.rdropWhile_prefix isBlank (l := front)
    have hlong := Nat.lt_of_lt_of_le hlength hinit.length_le
    rw [hinit.getElem hlength]
    exact hidem hlong
  rw [hback, List.rdropWhile_idempotent]

@[simp]
theorem trim_trim (s : String) : trim (trim s) = trim s := by
  rw [trim, toList_trim, trimList_trimList, trim]

theorem trimmed?_eq_some {s t : String} (h : trimmed? s = some t) : t = trim s ∧ t ≠ "" := by
  rw [trimmed?] at h
  split at h
  · cases h
  · rename_i hempty
    cases h
    exact ⟨rfl, fun heq => hempty (by rw [heq]; rfl)⟩

end Text

/-! ### Well-formed carts -/

namespace Cart

/-- The lines and the promo codes of a cart agree with each other. -/
structure WellFormed (c : Cart) : Prop where
  /-- A product has at most one regular line. -/
  regular_le : ∀ product, c.lines.countP (CartLine.isRegular product) ≤ 1
  positive : ∀ l ∈ c.lines, l.quantity.isPositive = true
  gift : ∀ l ∈ c.lines, ∀ code, l.promoCode = some code →
    l.quantity = .one ∧ l.unitPrice = .zero ∧ code ∈ c.promoCodes
  /-- A promo code has at most one gift. -/
  gift_le : ∀ code, c.lines.countP (fun l => l.promoCode = some code) ≤ 1
  nodup : c.promoCodes.Nodup
  trimmed : ∀ code ∈ c.promoCodes, code ≠ "" ∧ Text.trim code = code

/-- An edit of carts that leaves a well-formed one well-formed, whether it fails or not. -/
def Edit.Keeps {α : Type} (edit : Edit α) : Prop := ∀ c, c.WellFormed → (edit c).2.WellFormed

namespace WellFormed

theorem new (store currency : String) (orderType : OrderType) (createdAt : Timestamp) :
    (Cart.new store currency orderType createdAt).WellFormed where
  regular_le _ := Nat.zero_le 1
  positive _ h := (List.not_mem_nil h).elim
  gift _ h := (List.not_mem_nil h).elim
  gift_le _ := Nat.zero_le 1
  nodup := List.nodup_nil
  trimmed _ h := (List.not_mem_nil h).elim

variable {c : Cart} (h : c.WellFormed)

include h

/-- Nothing but the lines and the promo codes matters. -/
theorem congr {c' : Cart} (hlines : c'.lines = c.lines) (hcodes : c'.promoCodes = c.promoCodes) :
    c'.WellFormed := by
  obtain ⟨hregular, hpositive, hgift, hgifts, hnodup, htrimmed⟩ := h
  constructor <;> simpa only [hlines, hcodes]

/-- Lines may go. -/
theorem sublist {lines : List CartLine} (hlines : lines.Sublist c.lines) :
    { c with lines := lines }.WellFormed where
  regular_le product := (hlines.countP_le).trans (h.regular_le product)
  positive l hl := h.positive l (hlines.subset hl)
  gift l hl := h.gift l (hlines.subset hl)
  gift_le code := (hlines.countP_le).trans (h.gift_le code)
  nodup := h.nodup
  trimmed := h.trimmed

/-- A line may come, of a product that has none of its own or of a code that has no gift. -/
theorem append {l : CartLine}
    (hregular : ∀ product, l.isRegular product = true →
      c.lines.countP (CartLine.isRegular product) = 0)
    (hpositive : l.quantity.isPositive = true)
    (hgift : ∀ code, l.promoCode = some code → l.quantity = .one ∧ l.unitPrice = .zero ∧
      code ∈ c.promoCodes ∧ c.lines.countP (fun l => l.promoCode = some code) = 0) :
    { c with lines := c.lines ++ [l] }.WellFormed where
  regular_le product := by
    rw [List.countP_append, List.countP_singleton]
    split
    · rename_i hl
      rw [hregular product hl]
    · exact h.regular_le product
  positive l' hl' := by
    rcases List.mem_append.mp hl' with hl' | hl'
    · exact h.positive l' hl'
    · rwa [List.mem_singleton.mp hl']
  gift l' hl' code hcode := by
    rcases List.mem_append.mp hl' with hl' | hl'
    · exact h.gift l' hl' code hcode
    · rw [List.mem_singleton.mp hl'] at hcode ⊢
      obtain ⟨hquantity, hprice, hmem, _⟩ := hgift code hcode
      exact ⟨hquantity, hprice, hmem⟩
  gift_le code := by
    rw [List.countP_append, List.countP_singleton]
    split
    · rename_i hl
      rw [(hgift code (of_decide_eq_true hl)).2.2.2]
    · exact h.gift_le code
  nodup := h.nodup
  trimmed := h.trimmed

end WellFormed

theorem wellFormed_clear (c : Cart) : c.clear.WellFormed :=
  (WellFormed.new c.store c.currency c.orderType c.createdAt).congr rfl rfl

/-! ### Quantities -/

theorem countP_setQuantity (product : String) (quantity : Decimal) (p : CartLine → Bool)
    (hp : ∀ l, p { l with quantity := quantity } = p l) (lines : List CartLine) :
    (setQuantity product quantity lines).countP p = lines.countP p := by
  induction lines with
  | nil => rfl
  | cons l rest ih =>
    rw [setQuantity]
    split
    · rw [List.countP_cons, List.countP_cons, hp]
    · rw [List.countP_cons, List.countP_cons, ih]

theorem mem_setQuantity {product : String} {quantity : Decimal} {lines : List CartLine}
    {l : CartLine} (hl : l ∈ setQuantity product quantity lines) :
    l ∈ lines ∨ l.quantity = quantity ∧ l.promoCode = none := by
  induction lines with
  | nil => exact .inl hl
  | cons l' rest ih =>
    rw [setQuantity] at hl
    split at hl
    · rename_i hregular
      rcases List.mem_cons.mp hl with rfl | hl
      · refine .inr ⟨rfl, ?_⟩
        simp only [CartLine.isRegular, CartLine.isGift, Bool.and_eq_true] at hregular
        simpa using hregular.1
      · exact .inl (List.mem_cons_of_mem _ hl)
    · rcases List.mem_cons.mp hl with rfl | hl
      · exact .inl List.mem_cons_self
      · exact (ih hl).imp_left (List.mem_cons_of_mem _)

theorem WellFormed.setQuantity {c : Cart} (h : c.WellFormed) (product : String)
    {quantity : Decimal} (hquantity : quantity.isPositive = true) :
    { c with lines := Cart.setQuantity product quantity c.lines }.WellFormed where
  regular_le product' := by
    rw [countP_setQuantity product quantity _ (fun _ => rfl)]
    exact h.regular_le product'
  positive l hl := by
    rcases mem_setQuantity hl with hl | ⟨rfl, _⟩
    · exact h.positive l hl
    · exact hquantity
  gift l hl code hcode := by
    rcases mem_setQuantity hl with hl | ⟨_, hnone⟩
    · exact h.gift l hl code hcode
    · rw [hnone] at hcode
      cases hcode
  gift_le code := by
    rw [countP_setQuantity product quantity _ (fun _ => rfl)]
    exact h.gift_le code
  nodup := h.nodup
  trimmed := h.trimmed

theorem mem_of_line? {c : Cart} {product : String} {l : CartLine} (hl : c.line? product = some l) :
    l ∈ c.lines := List.mem_of_find?_eq_some hl

theorem countP_of_line? {c : Cart} {product : String} (hl : c.line? product = none) :
    c.lines.countP (CartLine.isRegular product) = 0 := by
  rw [List.countP_eq_zero]
  exact List.find?_eq_none.mp hl

theorem keeps_addItem (product : String) (quantity price : Decimal) :
    (addItem product quantity price).Keeps := by
  intro c h
  rw [addItem]
  cases hquantity : quantity.isPositive with
  | false => exact h
  | true =>
    rw [if_neg (by decide)]
    cases hl : c.line? product with
    | some l =>
      dsimp only
      cases hsum : l.quantity.add quantity with
      | error o => exact h
      | ok sum =>
        have hpositive := h.positive l (mem_of_line? hl)
        exact h.setQuantity product (Decimal.isPositive_add hpositive hquantity hsum)
    | none =>
      refine h.append (fun product' hproduct => ?_) hquantity fun code hcode => by cases hcode
      have hsame : product = product' := by
        simpa [CartLine.isRegular, CartLine.isGift] using hproduct
      rw [← hsame]
      exact countP_of_line? hl

theorem keeps_setItemQuantity (product : String) (quantity : Decimal) :
    (setItemQuantity product quantity).Keeps := by
  intro c h
  rw [setItemQuantity]
  split
  · exact h
  · rename_i hnegative
    split
    · split
      · exact h.sublist List.eraseP_sublist
      · rename_i hzero
        refine h.setQuantity product ?_
        simp only [Decimal.isNegative, Decimal.isPositive] at hnegative ⊢
        simp_all
    · split <;> exact h

theorem keeps_removeItem (product : String) : (removeItem product).Keeps := by
  intro c h
  rw [removeItem]
  split
  · exact h.sublist List.eraseP_sublist
  · exact h

/-! ### Promo codes -/

theorem WellFormed.gifts_eq_zero {c : Cart} (h : c.WellFormed) {code : String}
    (hcode : code ∉ c.promoCodes) : c.lines.countP (fun l => l.promoCode = some code) = 0 := by
  rw [List.countP_eq_zero]
  intro l hl hpromo
  exact hcode (h.gift l hl code (of_decide_eq_true hpromo)).2.2

theorem addPromoCode_cases (code : String) (c : Cart) :
    (addPromoCode code c).2 = c ∧ (addPromoCode code c).1 ≠ .ok true ∨
      Text.trim code ≠ "" ∧ Text.trim code ∉ c.promoCodes ∧
        addPromoCode code c =
          (.ok true, { c with promoCodes := c.promoCodes ++ [Text.trim code] }) := by
  rw [addPromoCode]
  cases htrim : Text.trimmed? code with
  | none => exact .inl ⟨rfl, fun h => by cases h⟩
  | some t =>
    obtain ⟨rfl, hne⟩ := Text.trimmed?_eq_some htrim
    dsimp only
    split
    · exact .inl ⟨rfl, fun h => by cases h⟩
    · rename_i hnew
      exact .inr ⟨hne, hnew, rfl⟩

theorem WellFormed.enter {c : Cart} (h : c.WellFormed) {code : String} (hne : code ≠ "")
    (htrim : Text.trim code = code) (hnew : code ∉ c.promoCodes) :
    { c with promoCodes := c.promoCodes ++ [code] }.WellFormed where
  regular_le := h.regular_le
  positive := h.positive
  gift l hl code' hcode := by
    obtain ⟨hquantity, hprice, hmem⟩ := h.gift l hl code' hcode
    exact ⟨hquantity, hprice, List.mem_append_left _ hmem⟩
  gift_le := h.gift_le
  nodup := by
    refine List.nodup_append.mpr ⟨h.nodup, List.pairwise_singleton _ code, ?_⟩
    rintro a ha b hb rfl
    rw [List.mem_singleton] at hb
    exact hnew (hb ▸ ha)
  trimmed code' hmem := by
    rcases List.mem_append.mp hmem with hmem | hmem
    · exact h.trimmed code' hmem
    · rw [List.mem_singleton.mp hmem]
      exact ⟨hne, htrim⟩

/-- The gift of a code that was entered and has none yet. -/
theorem WellFormed.addGift {c : Cart} (h : c.WellFormed) (product : String) {code : String}
    (hmem : code ∈ c.promoCodes)
    (hnone : c.lines.countP (fun l => l.promoCode = some code) = 0) :
    (c.addGift product code).WellFormed := by
  rw [Cart.addGift]
  split
  · exact h
  · refine h.append (fun _ hregular => ?_) Decimal.isPositive_one fun code' hcode => ?_
    · simp [CartLine.isRegular, CartLine.isGift] at hregular
    · cases hcode
      exact ⟨rfl, rfl, hmem, hnone⟩

theorem keeps_addPromoCode (code : String) : (addPromoCode code).Keeps := by
  intro c h
  obtain ⟨hsame, _⟩ | ⟨hne, hnew, heq⟩ := addPromoCode_cases code c
  · rwa [hsame]
  · rw [heq]
    exact h.enter hne (Text.trim_trim code) hnew

theorem keeps_removePromoCode (code : String) {c : Cart} (h : c.WellFormed) :
    (c.removePromoCode code).2.WellFormed where
  regular_le product := (List.filter_sublist.countP_le).trans (h.regular_le product)
  positive l hl := h.positive l (List.mem_filter.mp hl).1
  gift l hl code' hcode := by
    obtain ⟨hl, hother⟩ := List.mem_filter.mp hl
    obtain ⟨hquantity, hprice, hmem⟩ := h.gift l hl code' hcode
    refine ⟨hquantity, hprice, List.mem_filter.mpr ⟨hmem, decide_eq_true ?_⟩⟩
    rintro rfl
    exact of_decide_eq_true hother hcode
  gift_le code' := (List.filter_sublist.countP_le).trans (h.gift_le code')
  nodup := h.nodup.filter _
  trimmed code' hmem := h.trimmed code' (List.mem_filter.mp hmem).1

end Cart

/-! ### Prices and gifts -/

namespace Pricing

variable (p : Pricing)

theorem keeps_addItem (product : String) (quantity : Decimal) :
    (p.addItem product quantity).Keeps := by
  intro c h
  rw [addItem]
  split
  · exact Cart.keeps_addItem product quantity _ c h
  · exact h

theorem keeps_enterPromoCode (code : String) : (p.enterPromoCode code).Keeps := by
  intro c h
  rw [enterPromoCode]
  have hkeeps := Cart.keeps_addPromoCode code c h
  obtain ⟨_, hfailed⟩ | ⟨_, hnew, heq⟩ := Cart.addPromoCode_cases code c
  · split
    · rename_i hok
      exact absurd (congrArg Prod.fst hok) hfailed
    · exact hkeeps
  · rw [heq] at hkeeps ⊢
    dsimp only
    split
    · refine hkeeps.addGift _ (List.mem_append_right _ List.mem_cons_self) ?_
      exact h.gifts_eq_zero hnew
    · exact hkeeps

end Pricing

/-! ### Carts that come about -/

theorem CartSettings.wellFormed_newCart (s : CartSettings) (text : String → Option String)
    (createdAt : Timestamp) : (s.newCart text createdAt).WellFormed := by
  rw [newCart]
  cases s.maker with
  | web =>
    exact (Cart.WellFormed.new s.store s.currency .sales createdAt).congr rfl rfl
  | orderEntry => exact .new ..

theorem Cart.Edit.Keeps.answer {α : Type} {edit : Cart.Edit α} (h : edit.Keeps)
    (wrap : α → CartAnswer) : (edit.answer wrap).Keeps := h

theorem CartStep.keeps_perform (p : Pricing) (s : CartStep) : (s.perform p).Keeps := by
  cases s with
  | add product quantity price => exact (Cart.keeps_addItem product quantity price).answer _
  | addPriced product quantity => exact (p.keeps_addItem product quantity).answer _
  | setQuantity product quantity => exact (Cart.keeps_setItemQuantity product quantity).answer _
  | remove product => exact (Cart.keeps_removeItem product).answer _
  | clear => exact fun c _ => c.wellFormed_clear
  | addCode code => exact (Cart.keeps_addPromoCode code).answer _
  | enterCode code => exact (p.keeps_enterPromoCode code).answer _
  | withdrawCode code => exact fun c h => Cart.keeps_removePromoCode code h
  | line product => exact fun c h => h
  | codes => exact fun c h => h
  | summary => exact fun c h => h
  | assign f => cases f <;> exact fun c h => h.congr rfl rfl

/-- A cart that has come about by operations on a new one, each with prices of its own. -/
inductive Cart.Reachable : Cart → Prop
  | new (store currency : String) (orderType : OrderType) (createdAt : Timestamp) :
    Reachable (.new store currency orderType createdAt)
  | made (s : CartSettings) (text : String → Option String) (createdAt : Timestamp) :
    Reachable (s.newCart text createdAt)
  | step {c : Cart} (p : Pricing) (s : CartStep) : Reachable c → Reachable (s.perform p c).2

theorem Cart.Reachable.wellFormed {c : Cart} (h : c.Reachable) : c.WellFormed := by
  induction h with
  | new store currency orderType createdAt => exact .new store currency orderType createdAt
  | made s text createdAt => exact s.wellFormed_newCart text createdAt
  | step p s _ ih => exact s.keeps_perform p _ ih

end SessionCart
