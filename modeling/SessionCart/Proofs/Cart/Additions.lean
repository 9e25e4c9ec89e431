import Mathlib.Data.List.Induction
import Mathlib.Data.List.Nodup
import Mathlib.Tactic.Ring
import SessionCart.Decimal.Text
import SessionCart.Proofs.Cart.Locality
import SessionCart.Proofs.Decimal.Exact

/-!
# The sums of a cart and the history of its additions

A cart that was empty has a line for every product that was added since, and its sums are those of
the additions, as long as the exact sums have room. Every weighting of the products is summed over
the lines as over the additions; quantities, item count, total and the sizes that must have room are
weightings of their own.
-/

namespace SessionCart

/-- A quantity of a product to be added to a cart, at a price. -/
structure Addition where
  product : String
  quantity : Decimal
  price : Decimal

namespace Addition

def edit (a : Addition) : Cart.Edit Decimal := Cart.addItem a.product a.quantity a.price

/-- The exact sum of the quantities of a product. -/
def quantityIn (calls : List Addition) (product : String) : ℚ :=
  ((calls.filter fun a => a.product = product).map fun a => a.quantity.value).sum

/-- The price of the first addition of a product. -/
def priceIn (calls : List Addition) (product : String) : Decimal :=
  match calls.find? fun a => a.product = product with
  | some a => a.price
  | none => .zero

/-- The exact sum of all quantities. -/
def count (calls : List Addition) : ℚ := (calls.map fun a => a.quantity.value).sum

/-- The exact sum of quantities times first prices. -/
def total (calls : List Addition) : ℚ :=
  (calls.map fun a => a.quantity.value * (priceIn calls a.product).value).sum

/-- Additions of positive quantities whose exact sums have room with the places that they need. -/
structure Fit (calls : List Addition) (quantityPlaces pricePlaces : Nat) : Prop where
  positive : ∀ a ∈ calls, a.quantity.isPositive = true
  quantity_le : ∀ a ∈ calls, a.quantity.scale ≤ quantityPlaces
  price_le : ∀ a ∈ calls, a.price.scale ≤ pricePlaces
  places_le : quantityPlaces + pricePlaces ≤ 28
  count_lt : count calls * Text.tenPow quantityPlaces < Decimal.bound
  total_lt : (calls.map fun a => |a.quantity.value * (priceIn calls a.product).value|).sum *
    Text.tenPow (quantityPlaces + pricePlaces) < Decimal.bound

/-- All additions of a product are at one price. -/
def OnePrice (calls : List Addition) : Prop :=
  ∀ a ∈ calls, ∀ b ∈ calls, a.product = b.product → a.price.value = b.price.value

end Addition

open Addition

namespace Cart

/-- The cart after additions, one after another, whatever their outcomes. -/
def after (c : Cart) (calls : List Addition) : Cart := calls.foldl (fun c a => (a.edit c).2) c

/-- A sum was made, and it is the number. -/
def Sums {ε : Type} (out : Except ε Decimal) (x : ℚ) : Prop :=
  ∃ d, out = .ok d ∧ d.value = x

/-- The lines of a cart and its sums are those of a history of additions. -/
structure Tally (c : Cart) (calls : List Addition) : Prop where
  products_eq : c.lines.map CartLine.product = (calls.map Addition.product).eraseDups
  regular : ∀ l ∈ c.lines, l.promoCode = none
  quantity_eq : ∀ l ∈ c.lines, l.quantity.value = quantityIn calls l.product
  price_eq : ∀ l ∈ c.lines, l.unitPrice = priceIn calls l.product
  itemCount_eq : Sums c.itemCount (count calls)
  total_eq : Sums c.total (Addition.total calls)

end Cart

/-! ### One more addition -/

namespace Addition

variable {calls : List Addition} {a : Addition} {product : String}

theorem after_concat (c : Cart) (calls : List Addition) (a : Addition) :
    c.after (calls ++ [a]) = (a.edit (c.after calls)).2 := by
  rw [Cart.after, List.foldl_append]
  rfl

theorem quantityIn_concat_self (calls : List Addition) (a : Addition) :
    quantityIn (calls ++ [a]) a.product = quantityIn calls a.product + a.quantity.value := by
  simp [quantityIn]

theorem quantityIn_concat_of_ne (h : product ≠ a.product) :
    quantityIn (calls ++ [a]) product = quantityIn calls product := by
  simp [quantityIn, h.symm]

theorem find?_isSome_iff :
    (calls.find? fun a => a.product = product).isSome = true ↔
      product ∈ calls.map Addition.product := by
  simp [List.find?_isSome]

theorem priceIn_append (h : product ∈ calls.map Addition.product) (later : List Addition) :
    priceIn (calls ++ later) product = priceIn calls product := by
  obtain ⟨a, ha⟩ := Option.isSome_iff_exists.mp (find?_isSome_iff.mpr h)
  simp [priceIn, ha]

theorem priceIn_concat_self (h : a.product ∉ calls.map Addition.product) :
    priceIn (calls ++ [a]) a.product = a.price := by
  have hnone : (calls.find? fun b => b.product = a.product) = none := by
    rw [← Option.not_isSome_iff_eq_none]
    exact fun hsome => h (find?_isSome_iff.mp hsome)
  simp [priceIn, List.find?_append, hnone]

theorem quantityIn_eq_zero (h : product ∉ calls.map Addition.product) :
    quantityIn calls product = 0 := by
  have hnone : (calls.filter fun a => a.product = product) = [] := by
    apply List.filter_eq_nil_iff.mpr
    intro a ha hproduct
    exact h (List.mem_map.mpr ⟨a, ha, of_decide_eq_true hproduct⟩)
  rw [quantityIn, hnone, List.map_nil, List.sum_nil]

theorem eraseDups_concat_of_mem {names : List String} {name : String} (h : name ∈ names) :
    (names ++ [name]).eraseDups = names.eraseDups := by
  simp [List.eraseDups_append, List.removeAll, h]

theorem eraseDups_concat_of_not_mem {names : List String} {name : String} (h : name ∉ names) :
    (names ++ [name]).eraseDups = names.eraseDups ++ [name] := by
  simp [List.eraseDups_append, List.removeAll, h, List.eraseDups_cons]

end Addition

namespace Cart

/-- The lines of a cart after additions. -/
structure Booked (c : Cart) (calls : List Addition) (places : Nat) : Prop where
  nodup : (c.lines.map CartLine.product).Nodup
  products_eq : c.lines.map CartLine.product = (calls.map Addition.product).eraseDups
  regular : ∀ l ∈ c.lines, l.promoCode = none
  quantity_is : ∀ l ∈ c.lines, l.quantity.Is (quantityIn calls l.product) places
  price_eq : ∀ l ∈ c.lines, l.unitPrice = priceIn calls l.product
  /-- A weighting of the products sums up to the same over lines and additions. -/
  weight_eq : ∀ weight : String → ℚ,
    (c.lines.map fun l => l.quantity.value * weight l.product).sum =
      (calls.map fun a => a.quantity.value * weight a.product).sum

namespace Booked

variable {c : Cart} {calls : List Addition} {places : Nat} {a : Addition} {l : CartLine}

theorem of_isEmpty (h : c.isEmpty = true) (places : Nat) : Booked c [] places := by
  have hlines : c.lines = [] := List.isEmpty_iff.mp h
  constructor <;> simp [hlines]

theorem mem_calls (h : Booked c calls places) {product : String} :
    product ∈ c.lines.map CartLine.product ↔ product ∈ calls.map Addition.product := by
  rw [h.products_eq, List.mem_eraseDups]

theorem isRegular_iff (h : Booked c calls places) (hl : l ∈ c.lines) {product : String} :
    l.isRegular product = true ↔ l.product = product := by
  simp [CartLine.isRegular, CartLine.isGift, h.regular l hl]

theorem line?_eq_none_iff (h : Booked c calls places) {product : String} :
    c.line? product = none ↔ product ∉ calls.map Addition.product := by
  rw [← h.mem_calls, line?, List.find?_eq_none, List.mem_map]
  constructor
  · rintro hnone ⟨l, hl, hproduct⟩
    exact hnone l hl ((h.isRegular_iff hl).mpr hproduct)
  · intro hnone l hl hregular
    exact hnone ⟨l, hl, (h.isRegular_iff hl).mp hregular⟩

theorem concat_new (h : Booked c calls places) (hnew : a.product ∉ calls.map Addition.product)
    (hscale : a.quantity.scale ≤ places) :
    Booked { c with lines := c.lines ++ [⟨a.product, a.quantity, a.price, none⟩] }
      (calls ++ [a]) places := by
  have hold : ∀ l ∈ c.lines, l.product ∈ calls.map Addition.product := fun l hl =>
    h.mem_calls.mp (List.mem_map_of_mem hl)
  have hne : ∀ l ∈ c.lines, l.product ≠ a.product := fun l hl heq => hnew (heq ▸ hold l hl)
  constructor
  case nodup =>
    rw [List.map_append, List.nodup_append_comm]
    exact List.nodup_cons.mpr ⟨fun hmem => hnew (h.mem_calls.mp hmem), h.nodup⟩
  case products_eq =>
    rw [List.map_append, List.map_append, h.products_eq]
    exact (eraseDups_concat_of_not_mem hnew).symm
  case regular =>
    rintro l hl
    rcases List.mem_append.mp hl with hl | hl
    · exact h.regular l hl
    · rw [List.mem_singleton.mp hl]
  case quantity_is =>
    intro l hl
    rcases List.mem_append.mp hl with hl | hl
    · rw [quantityIn_concat_of_ne (hne l hl)]
      exact h.quantity_is l hl
    · rw [List.mem_singleton.mp hl, quantityIn_concat_self, quantityIn_eq_zero hnew, zero_add]
      exact ⟨rfl, hscale⟩
  case price_eq =>
    intro l hl
    rcases List.mem_append.mp hl with hl | hl
    · rw [priceIn_append (hold l hl)]
      exact h.price_eq l hl
    · rw [List.mem_singleton.mp hl, priceIn_concat_self hnew]
  case weight_eq =>
    intro weight
    rw [List.map_append, List.sum_append, List.map_append, List.sum_append, h.weight_eq]
    rfl

theorem line?_spec (h : Booked c calls places) {product : String}
    (hl : c.line? product = some l) : l ∈ c.lines ∧ l.product = product := by
  obtain ⟨hregular, front, back, hlines, -⟩ := exists_split_of_line? hl
  have hmem : l ∈ c.lines := by simp [hlines]
  exact ⟨hmem, (h.isRegular_iff hmem).mp hregular⟩

theorem exists_place (h : Booked c calls places) {product : String}
    (hl : c.line? product = some l) (sum : Decimal) :
    ∃ front back, c.lines = front ++ l :: back ∧
      setQuantity product sum c.lines = front ++ { l with quantity := sum } :: back ∧
      ∀ x ∈ front ++ back, x.product ≠ product := by
  obtain ⟨hregular, front, back, hlines, hfront⟩ := exists_split_of_line? hl
  refine ⟨front, back, hlines, by rw [hlines, setQuantity_split hregular hfront], ?_⟩
  intro x hx heq
  have hnodup := h.nodup
  rw [hlines, List.map_append, List.map_cons, List.nodup_middle, List.nodup_cons,
    ← List.map_append, (h.line?_spec hl).2] at hnodup
  exact hnodup.1 (heq ▸ List.mem_map_of_mem hx)

/-- What holds of the lines of other products and of the changed one holds of all lines. -/
theorem forall_mem_setQuantity (h : Booked c calls places) {product : String}
    (hl : c.line? product = some l) {sum : Decimal} {P : CartLine → Prop}
    (hothers : ∀ x ∈ c.lines, x.product ≠ product → P x) (hline : P { l with quantity := sum }) :
    ∀ x ∈ setQuantity product sum c.lines, P x := by
  obtain ⟨front, back, hlines, hset, hne⟩ := h.exists_place hl sum
  intro x hx
  rw [hset, List.mem_append, List.mem_cons, or_left_comm, ← List.mem_append] at hx
  rcases hx with rfl | hx
  · exact hline
  · refine hothers x ?_ (hne x hx)
    rw [hlines, List.mem_append, List.mem_cons, or_left_comm, ← List.mem_append]
    exact .inr hx

theorem concat_again (h : Booked c calls places) (hl : c.line? a.product = some l) {sum : Decimal}
    (hsum : sum.Is (quantityIn (calls ++ [a]) a.product) places) :
    Booked { c with lines := setQuantity a.product sum c.lines } (calls ++ [a]) places := by
  obtain ⟨hmem, hproduct⟩ := h.line?_spec hl
  obtain ⟨front, back, hlines, hset, -⟩ := h.exists_place hl sum
  have hagain : a.product ∈ calls.map Addition.product :=
    h.mem_calls.mp (hproduct ▸ List.mem_map_of_mem hmem)
  have hnames : (setQuantity a.product sum c.lines).map CartLine.product =
      c.lines.map CartLine.product := by
    rw [hset, hlines, List.map_append, List.map_append]
    rfl
  constructor
  case nodup => exact hnames ▸ h.nodup
  case products_eq =>
    rw [hnames, h.products_eq, List.map_append]
    exact (eraseDups_concat_of_mem hagain).symm
  case regular =>
    exact h.forall_mem_setQuantity hl (fun x hx _ => h.regular x hx) (h.regular l hmem)
  case quantity_is =>
    refine h.forall_mem_setQuantity hl (fun x hx hne => ?_) ?_
    · rw [quantityIn_concat_of_ne hne]
      exact h.quantity_is x hx
    · rwa [hproduct]
  case price_eq =>
    refine h.forall_mem_setQuantity hl (fun x hx _ => ?_) ?_
    · rw [priceIn_append (h.mem_calls.mp (List.mem_map_of_mem hx))]
      exact h.price_eq x hx
    · rw [hproduct, priceIn_append hagain, ← hproduct]
      exact h.price_eq l hmem
  case weight_eq =>
    intro weight
    have hvalue : sum.value = l.quantity.value + a.quantity.value := by
      rw [hsum.value_eq, quantityIn_concat_self, (h.quantity_is l hmem).value_eq, hproduct]
    have hweight := h.weight_eq weight
    simp only [hlines, List.map_append, List.map_cons, List.sum_append, List.sum_cons,
      hproduct] at hweight
    simp only [hset, List.map_append, List.map_cons, List.map_nil, List.sum_append, List.sum_cons,
      List.sum_nil, hproduct, hvalue, ← hweight]
    ring

/-- Where quantities are not negative, the sizes of the terms sum up to the same, too. -/
theorem sum_abs_eq (h : Booked c calls places) (hcalls : ∀ a ∈ calls, 0 ≤ a.quantity.value)
    (weight : String → ℚ) :
    (c.lines.map fun l => |l.quantity.value * weight l.product|).sum =
      (calls.map fun a => |a.quantity.value * weight a.product|).sum := by
  have hlines : ∀ l ∈ c.lines, 0 ≤ l.quantity.value := by
    intro l hl
    rw [(h.quantity_is l hl).value_eq]
    refine List.sum_nonneg fun x hx => ?_
    obtain ⟨a, ha, rfl⟩ := List.mem_map.mp hx
    exact hcalls a (List.mem_of_mem_filter ha)
  calc (c.lines.map fun l => |l.quantity.value * weight l.product|).sum
      = (c.lines.map fun l => l.quantity.value * |weight l.product|).sum :=
        congrArg List.sum <| List.map_congr_left fun l hl => by
          rw [abs_mul, abs_of_nonneg (hlines l hl)]
    _ = (calls.map fun a => a.quantity.value * |weight a.product|).sum :=
        h.weight_eq fun product => |weight product|
    _ = (calls.map fun a => |a.quantity.value * weight a.product|).sum :=
        congrArg List.sum <| List.map_congr_left fun a ha => by
          rw [abs_mul, abs_of_nonneg (hcalls a ha)]

/-- The sum over the lines of what a weighting makes of them is made, if its terms are and their
sizes have room. -/
theorem sums_foldlM (h : Booked c calls places) (weight : String → ℚ)
    (hcalls : ∀ a ∈ calls, 0 ≤ a.quantity.value)
    {term : CartLine → Except Decimal.Overflow Decimal} (more : Nat)
    (hterms : ∀ l ∈ c.lines, Decimal.Room (l.quantity.value * weight l.product) more →
      ∃ d, term l = .ok d ∧ d.Is (l.quantity.value * weight l.product) more)
    (hroom : Decimal.Room (calls.map fun a => |a.quantity.value * weight a.product|).sum more) :
    Sums (c.lines.foldlM (fun sum l => do sum.add (← term l)) .zero)
      (calls.map fun a => a.quantity.value * weight a.product).sum := by
  rw [← h.sum_abs_eq hcalls] at hroom
  have hterm : ∀ l ∈ c.lines, ∃ d, term l = .ok d ∧
      d.Is (l.quantity.value * weight l.product) more := by
    intro l hl
    refine hterms l hl (hroom.of_le ?_)
    refine List.single_le_sum (fun x hx => ?_) _ (List.mem_map_of_mem hl)
    obtain ⟨l, -, rfl⟩ := List.mem_map.mp hx
    exact abs_nonneg _
  obtain ⟨d, hfold, hd⟩ := Decimal.foldlM_add_exact (a := .zero) (x := 0)
    ⟨Decimal.value_zero, Nat.zero_le more⟩ hterm (by rwa [abs_zero, zero_add])
  refine ⟨d, hfold, ?_⟩
  rw [hd.value_eq, zero_add, h.weight_eq]

/-- One more addition of a positive quantity succeeds if the sum for its product has room. -/
theorem concat (h : Booked c calls places) (hpositive : a.quantity.isPositive = true)
    (hscale : a.quantity.scale ≤ places)
    (hroom : Decimal.Room (quantityIn (calls ++ [a]) a.product) places) :
    Sums (a.edit c).1 (quantityIn (calls ++ [a]) a.product) ∧
      Booked (a.edit c).2 (calls ++ [a]) places := by
  rw [edit, addItem, hpositive, if_neg (by decide)]
  cases hl : c.line? a.product with
  | none =>
    have hnew := h.line?_eq_none_iff.mp hl
    refine ⟨⟨a.quantity, rfl, ?_⟩, h.concat_new hnew hscale⟩
    rw [quantityIn_concat_self, quantityIn_eq_zero hnew, zero_add]
  | some l =>
    obtain ⟨hmem, hproduct⟩ := h.line?_spec hl
    have hold := h.quantity_is l hmem
    rw [hproduct] at hold
    obtain ⟨sum, hadd, hsum⟩ := Decimal.add_exact hold ⟨rfl, hscale⟩
      (quantityIn_concat_self calls a ▸ hroom)
    rw [← quantityIn_concat_self] at hsum
    simp only [hadd]
    exact ⟨⟨sum, rfl, hsum.value_eq⟩, h.concat_again hl hsum⟩

end Booked

end Cart

/-! ### Whole histories -/

namespace Addition

variable {calls earlier later : List Addition} {quantityPlaces pricePlaces : Nat} {a : Addition}

namespace Fit

theorem value_nonneg (h : Fit calls quantityPlaces pricePlaces) (ha : a ∈ calls) :
    0 ≤ a.quantity.value := (Decimal.value_pos (h.positive a ha)).le

theorem count_eq (calls : List Addition) :
    count calls = (calls.map fun a => a.quantity.value * (1 : ℚ)).sum := by
  simp [count]

theorem sum_quantity_nonneg (h : Fit calls quantityPlaces pricePlaces) {some : List Addition}
    (hsome : some ⊆ calls) : 0 ≤ (some.map fun a => a.quantity.value).sum := by
  refine List.sum_nonneg fun x hx => ?_
  obtain ⟨a, ha, rfl⟩ := List.mem_map.mp hx
  exact h.value_nonneg (hsome ha)

theorem room_quantityIn (h : Fit (earlier ++ later) quantityPlaces pricePlaces)
    (product : String) : Decimal.Room (quantityIn earlier product) quantityPlaces := by
  have hsublist : (earlier.filter fun a => a.product = product).Sublist (earlier ++ later) :=
    List.filter_sublist.trans (List.sublist_append_left earlier later)
  have hle : quantityIn earlier product ≤ count (earlier ++ later) := by
    refine (hsublist.map _).sum_le_sum fun x hx => ?_
    obtain ⟨a, ha, rfl⟩ := List.mem_map.mp hx
    exact h.value_nonneg ha
  have hnonneg : 0 ≤ quantityIn earlier product := h.sum_quantity_nonneg hsublist.subset
  rw [Decimal.Room, abs_of_nonneg hnonneg]
  exact (mul_le_mul_of_nonneg_right hle (Decimal.tenPow_cast_pos _).le).trans_lt h.count_lt

theorem booked (h : Fit (earlier ++ later) quantityPlaces pricePlaces) {c : Cart}
    (hc : c.isEmpty = true) : (c.after earlier).Booked earlier quantityPlaces := by
  induction earlier using List.reverseRecOn generalizing later with
  | nil => exact .of_isEmpty hc quantityPlaces
  | append_singleton earlier a ih =>
    have hmem : a ∈ earlier ++ [a] ++ later := by simp
    rw [after_concat]
    have hbooked := ih (by rwa [List.append_assoc] at h)
    exact (hbooked.concat (h.positive a hmem) (h.quantity_le a hmem) (h.room_quantityIn _)).2

theorem booked_self (h : Fit calls quantityPlaces pricePlaces) {c : Cart}
    (hc : c.isEmpty = true) : (c.after calls).Booked calls quantityPlaces :=
  have hnil : Fit (calls ++ []) quantityPlaces pricePlaces := by rwa [List.append_nil]
  hnil.booked hc

theorem sums_edit (h : Fit (earlier ++ a :: later) quantityPlaces pricePlaces) {c : Cart}
    (hc : c.isEmpty = true) :
    Cart.Sums (a.edit (c.after earlier)).1 (quantityIn (earlier ++ [a]) a.product) := by
  have hmem : a ∈ earlier ++ a :: later := by simp
  have hthen : Fit (earlier ++ [a] ++ later) quantityPlaces pricePlaces := by
    rwa [← List.append_cons]
  exact ((h.booked hc).concat (h.positive a hmem) (h.quantity_le a hmem)
    (hthen.room_quantityIn a.product)).1

theorem priceIn_scale_le (h : Fit calls quantityPlaces pricePlaces) (product : String) :
    (priceIn calls product).scale ≤ pricePlaces := by
  rw [priceIn]
  split
  · rename_i a hfind
    exact h.price_le a (List.mem_of_find?_eq_some hfind)
  · exact Nat.zero_le _

theorem sums_itemCount (h : Fit calls quantityPlaces pricePlaces) {c : Cart}
    (hc : c.Booked calls quantityPlaces) : Cart.Sums c.itemCount (count calls) := by
  have hfold : c.itemCount =
      c.lines.foldlM (fun sum l => do sum.add (← .ok l.quantity)) .zero := by
    rw [Cart.itemCount, Decimal.sum, List.foldlM_map]
    rfl
  have habs : (calls.map fun a => |a.quantity.value * (1 : ℚ)|).sum = count calls :=
    congrArg List.sum <| List.map_congr_left fun a ha => by
      rw [mul_one, abs_of_nonneg (h.value_nonneg ha)]
  rw [hfold, count_eq]
  refine hc.sums_foldlM (fun _ => 1) (fun a => h.value_nonneg) quantityPlaces
    (fun l hl _ => ?_) ?_
  · refine ⟨l.quantity, rfl, ?_, (hc.quantity_is l hl).scale_le⟩
    rw [mul_one]
  · have hnonneg : 0 ≤ count calls := h.sum_quantity_nonneg (List.Subset.refl calls)
    rw [habs, Decimal.Room, abs_of_nonneg hnonneg]
    exact h.count_lt

theorem sums_total (h : Fit calls quantityPlaces pricePlaces) {c : Cart}
    (hc : c.Booked calls quantityPlaces) : Cart.Sums c.total (Addition.total calls) := by
  refine hc.sums_foldlM (fun product => (priceIn calls product).value)
    (fun a => h.value_nonneg) (quantityPlaces + pricePlaces) (fun l hl hroom => ?_) ?_
  · have hprice : l.unitPrice.Is (priceIn calls l.product).value pricePlaces := by
      rw [hc.price_eq l hl]
      exact ⟨rfl, h.priceIn_scale_le l.product⟩
    exact Decimal.mul_exact ⟨rfl, (hc.quantity_is l hl).scale_le⟩ hprice h.places_le hroom
  · rw [Decimal.Room, abs_of_nonneg (Decimal.sum_map_abs_nonneg ..)]
    exact h.total_lt

theorem tally (h : Fit calls quantityPlaces pricePlaces) {c : Cart} (hc : c.isEmpty = true) :
    (c.after calls).Tally calls := by
  have hbooked := h.booked_self hc
  exact
    { products_eq := hbooked.products_eq
      regular := hbooked.regular
      quantity_eq := fun l hl => (hbooked.quantity_is l hl).value_eq
      price_eq := hbooked.price_eq
      itemCount_eq := h.sums_itemCount hbooked
      total_eq := h.sums_total hbooked }

end Fit

/-! ### Other orders -/

theorem quantityIn_perm {calls' : List Addition} (hperm : calls'.Perm calls) (product : String) :
    quantityIn calls' product = quantityIn calls product :=
  ((hperm.filter _).map _).sum_eq

theorem count_perm {calls' : List Addition} (hperm : calls'.Perm calls) :
    count calls' = count calls := (hperm.map _).sum_eq

theorem OnePrice.perm {calls' : List Addition} (h : OnePrice calls) (hperm : calls'.Perm calls) :
    OnePrice calls' := fun a ha b hb => h a (hperm.subset ha) b (hperm.subset hb)

theorem OnePrice.value_priceIn (h : OnePrice calls) (ha : a ∈ calls) :
    (priceIn calls a.product).value = a.price.value := by
  cases hfind : calls.find? fun b => b.product = a.product with
  | none => exact absurd (decide_eq_true rfl) (List.find?_eq_none.mp hfind a ha)
  | some b =>
    have hproduct : b.product = a.product := by simpa using List.find?_some hfind
    rw [priceIn, hfind]
    exact h b (List.mem_of_find?_eq_some hfind) a ha hproduct

/-- At one price for each product, whatever depends on first prices depends on prices. -/
theorem OnePrice.map_priceIn (h : OnePrice calls) (f : Addition → ℚ → ℚ) :
    (calls.map fun a => f a (priceIn calls a.product).value) =
      calls.map fun a => f a a.price.value :=
  List.map_congr_left fun a ha => by rw [h.value_priceIn ha]

theorem OnePrice.sum_perm (h : OnePrice calls) {calls' : List Addition}
    (hperm : calls'.Perm calls) (f : Addition → ℚ → ℚ) :
    (calls'.map fun a => f a (priceIn calls' a.product).value).sum =
      (calls.map fun a => f a (priceIn calls a.product).value).sum := by
  rw [h.map_priceIn, (h.perm hperm).map_priceIn]
  exact (hperm.map _).sum_eq

theorem Fit.perm (h : Fit calls quantityPlaces pricePlaces) (hprice : OnePrice calls)
    {calls' : List Addition} (hperm : calls'.Perm calls) :
    Fit calls' quantityPlaces pricePlaces where
  positive a ha := h.positive a (hperm.subset ha)
  quantity_le a ha := h.quantity_le a (hperm.subset ha)
  price_le a ha := h.price_le a (hperm.subset ha)
  places_le := h.places_le
  count_lt := count_perm hperm ▸ h.count_lt
  total_lt := by
    rw [hprice.sum_perm hperm fun a price => |a.quantity.value * price|]
    exact h.total_lt

end Addition

namespace Cart

variable {c c' : Cart} {calls calls' : List Addition} {quantityPlaces pricePlaces : Nat}

/-- The number of the quantity of a product, if the cart has a line for it. -/
def quantity? (c : Cart) (product : String) : Option ℚ :=
  (c.line? product).map fun l => l.quantity.value

theorem Booked.quantity?_eq (h : c.Booked calls quantityPlaces) (product : String) :
    c.quantity? product = if product ∈ calls.map Addition.product
      then some (quantityIn calls product) else none := by
  rw [quantity?]
  cases hl : c.line? product with
  | none => rw [if_neg (h.line?_eq_none_iff.mp hl), Option.map_none]
  | some l =>
    obtain ⟨hmem, hproduct⟩ := h.line?_spec hl
    have hcalled : product ∈ calls.map Addition.product :=
      h.mem_calls.mp (hproduct ▸ List.mem_map_of_mem hmem)
    rw [if_pos hcalled, Option.map_some, (h.quantity_is l hmem).value_eq, hproduct]

/-- The carts have the same quantities of all products and the same sums, as numbers. -/
structure SameFigures (c c' : Cart) : Prop where
  quantity_eq : ∀ product, c'.quantity? product = c.quantity? product
  itemCount_iff : ∀ x, Sums c'.itemCount x ↔ Sums c.itemCount x
  total_iff : ∀ x, Sums c'.total x ↔ Sums c.total x

theorem Sums.iff_eq {ε : Type} {out : Except ε Decimal} {x : ℚ} (h : Sums out x) (y : ℚ) :
    Sums out y ↔ x = y := by
  obtain ⟨d, rfl, rfl⟩ := h
  constructor
  · rintro ⟨_, ⟨⟩, rfl⟩
    rfl
  · rintro rfl
    exact ⟨d, rfl, rfl⟩

theorem sameFigures_after (h : Fit calls quantityPlaces pricePlaces) (hprice : OnePrice calls)
    (hperm : calls'.Perm calls) (hc : c.isEmpty = true) :
    SameFigures (c.after calls) (c.after calls') := by
  have h' := h.perm hprice hperm
  constructor
  case quantity_eq =>
    intro product
    rw [(h.booked_self hc).quantity?_eq, (h'.booked_self hc).quantity?_eq, quantityIn_perm hperm]
    simp only [(hperm.map Addition.product).mem_iff]
  case itemCount_iff =>
    intro x
    rw [(h.tally hc).itemCount_eq.iff_eq, (h'.tally hc).itemCount_eq.iff_eq, count_perm hperm]
  case total_iff =>
    intro x
    rw [(h.tally hc).total_eq.iff_eq, (h'.tally hc).total_eq.iff_eq, Addition.total,
      hprice.sum_perm hperm fun a price => a.quantity.value * price, Addition.total]

/-- **The sums of a cart are those of its history.** Whatever is added to an empty cart, in positive
quantities whose exact sums have room: every addition succeeds and gives the sum so far of its
product; the cart has one line for each product, in the order of first additions, with the exact sum
of its quantities at its first price; item count and total are the exact ones; and another order of
the additions changes no quantity and no sum, as numbers, if all of a product are at one price. -/
theorem additions_exact (h : Fit calls quantityPlaces pricePlaces) (hc : c.isEmpty = true) :
    (∀ earlier a later, calls = earlier ++ a :: later →
      Sums (a.edit (c.after earlier)).1 (quantityIn (earlier ++ [a]) a.product)) ∧
    (c.after calls).Tally calls ∧
    (OnePrice calls → ∀ calls', calls'.Perm calls →
      SameFigures (c.after calls) (c.after calls')) := by
  refine ⟨fun earlier a later hcalls => ?_, h.tally hc, fun hprice calls' hperm => ?_⟩
  · exact Fit.sums_edit (hcalls ▸ h) hc
  · exact sameFigures_after h hprice hperm hc

/-- Additions of two products with numbers of different places, one product at a negative price. -/
def mixedAdditions : List Addition :=
  [("A", "1.5", "9.99"), ("B", "2", "-0.500"), ("A", "0.25", "9.990")].map
    fun (product, quantity, price) => ⟨product, (Decimal.ofText? quantity).getD .zero,
      (Decimal.ofText? price).getD .zero⟩

theorem additions_exact_mixed :
    let c := Cart.new "9000" "USD" .sales (.tick 0)
    Fit mixedAdditions 2 3 ∧ c.isEmpty = true ∧ OnePrice mixedAdditions ∧
      Sums (c.after mixedAdditions).itemCount (375 / 100) ∧
      Sums (c.after mixedAdditions).total (164_825 / 10_000) ∧
      SameFigures (c.after mixedAdditions) (c.after mixedAdditions.reverse) := by
  have hfit : Fit mixedAdditions 2 3 :=
    { positive := by decide +kernel
      quantity_le := by decide +kernel
      price_le := by decide +kernel
      places_le := by decide
      count_lt := by decide +kernel
      total_lt := by decide +kernel }
  have hprice : OnePrice mixedAdditions := by
    unfold OnePrice
    decide +kernel
  have hcount : count mixedAdditions = 375 / 100 := by decide +kernel
  have htotal : Addition.total mixedAdditions = 164_825 / 10_000 := by decide +kernel
  have hempty : (Cart.new "9000" "USD" .sales (.tick 0)).isEmpty = true := rfl
  obtain ⟨-, htally, hperm⟩ := additions_exact hfit hempty
  exact ⟨hfit, rfl, hprice, hcount ▸ htally.itemCount_eq, htotal ▸ htally.total_eq,
    hperm hprice _ (List.reverse_perm mixedAdditions)⟩

end Cart

end SessionCart
