import SessionCart.Proofs.Cart.WellFormed

/-!
# Withdrawing a promo code

To withdraw a promo code undoes entering it. A code that is new has no gift yet, so all the gifts
under it are the one that came with it, and the cart is left as it was before, in its lines, its
codes and their order. Entering, looking up the gift and withdrawing trim each for themselves; texts
that trim to the same are the same code to all three.
-/

namespace SessionCart

namespace Cart

/-- Every gift in the cart is of a promo code that is entered. -/
def GiftsEntered (c : Cart) : Prop :=
  ∀ l ∈ c.lines, ∀ code, l.promoCode = some code → code ∈ c.promoCodes

theorem Reachable.giftsEntered {c : Cart} (h : c.Reachable) : c.GiftsEntered :=
  fun l hl code hcode => (h.wellFormed.gift l hl code hcode).2.2

variable {c : Cart} {code code' : String}

/-! ### Entering -/

/-- The cart with a promo code and its gifts behind what it has. -/
def withCode (c : Cart) (code : String) (gifts : List CartLine) : Cart :=
  { c with lines := c.lines ++ gifts, promoCodes := c.promoCodes ++ [code] }

theorem addGift_eq (product code : String) (c : Cart) : ∃ gifts : List CartLine,
    (∀ l ∈ gifts, l.promoCode = some code) ∧
      c.addGift product code = { c with lines := c.lines ++ gifts } := by
  rw [addGift]
  split
  · exact ⟨[], by simp, by rw [List.append_nil]⟩
  · exact ⟨[⟨product, .one, .zero, some code⟩], by simp, rfl⟩

theorem addPromoCode_of_mem (hne : Text.trim code ≠ "") (hmem : Text.trim code ∈ c.promoCodes) :
    addPromoCode code c = (.ok false, c) := by
  have htrim : Text.trimmed? code = some (Text.trim code) := by
    rw [Text.trimmed?, if_neg]
    rwa [String.isEmpty_iff]
  simp only [addPromoCode, htrim, if_pos hmem]

/-! ### Withdrawing -/

theorem removePromoCode_congr (h : Text.trim code' = Text.trim code) :
    c.removePromoCode code' = c.removePromoCode code := by
  rw [removePromoCode, removePromoCode, h]

theorem GiftsEntered.removePromoCode_of_not_mem (h : c.GiftsEntered)
    (hnew : Text.trim code ∉ c.promoCodes) : c.removePromoCode code = (false, c) := by
  have hcodes : c.promoCodes.filter (· ≠ Text.trim code) = c.promoCodes := by
    rw [List.filter_eq_self]
    intro entered hmem
    exact decide_eq_true fun heq => hnew (heq ▸ hmem)
  have hlines : c.lines.filter (fun l => l.promoCode ≠ some (Text.trim code)) = c.lines := by
    rw [List.filter_eq_self]
    intro l hl
    exact decide_eq_true fun hgift => hnew (h l hl _ hgift)
  simp only [removePromoCode, hcodes, hlines, ne_eq, not_true_eq_false, decide_false]

/-- A code that was entered last goes with what came with it. -/
theorem GiftsEntered.removePromoCode_withCode (h : c.GiftsEntered) {gifts : List CartLine}
    (hnew : Text.trim code ∉ c.promoCodes)
    (hgifts : ∀ l ∈ gifts, l.promoCode = some (Text.trim code)) :
    (c.withCode (Text.trim code) gifts).removePromoCode code = (true, c) := by
  have hrest := h.removePromoCode_of_not_mem hnew
  simp only [removePromoCode, Prod.mk.injEq] at hrest
  have hcodes : (c.promoCodes ++ [Text.trim code]).filter (· ≠ Text.trim code) =
      c.promoCodes := by
    rw [List.filter_append, List.filter_singleton]
    simpa using congrArg promoCodes hrest.2
  have hlines : (c.lines ++ gifts).filter (fun l => l.promoCode ≠ some (Text.trim code)) =
      c.lines := by
    have hgone : gifts.filter (fun l => l.promoCode ≠ some (Text.trim code)) = [] := by
      rw [List.filter_eq_nil_iff]
      intro l hl
      simp [hgifts l hl]
    rw [List.filter_append, hgone, List.append_nil]
    exact congrArg lines hrest.2
  simp only [removePromoCode, withCode, hcodes, hlines]
  simp

/-- Whether a code was entered can be told from the answer, and from whether the cart changes. -/
theorem GiftsEntered.removePromoCode_iff (h : c.GiftsEntered) :
    (c.removePromoCode code).1 = false ↔ (c.removePromoCode code).2 = c := by
  by_cases hmem : Text.trim code ∈ c.promoCodes
  · have hgone : Text.trim code ∉ (c.removePromoCode code).2.promoCodes := by
      simp [removePromoCode]
    have hless : (c.promoCodes.filter (· ≠ Text.trim code)).length ≠ c.promoCodes.length := by
      rw [Ne, List.length_filter_eq_length_iff]
      exact fun hall => of_decide_eq_true (hall _ hmem) rfl
    constructor
    · intro hfalse
      exact absurd (of_decide_eq_false hfalse) (not_not.mpr hless)
    · intro hsame
      exact absurd hmem (hsame ▸ hgone)
  · simp [h.removePromoCode_of_not_mem hmem]

/-- What withdrawing a code leaves alone: all lines but its gifts, in their order. -/
structure Spares (code : String) (c c' : Cart) : Prop where
  sublist : c'.lines.Sublist c.lines
  gone : ∀ l ∈ c'.lines, l.promoCode ≠ some code
  count_eq : ∀ l, l.promoCode ≠ some code → c'.lines.count l = c.lines.count l

theorem spares_removePromoCode (code : String) (c : Cart) :
    Spares (Text.trim code) c (c.removePromoCode code).2 where
  sublist := List.filter_sublist
  gone _ hl := of_decide_eq_true (List.mem_filter.mp hl).2
  count_eq _ hl := List.count_filter (decide_eq_true hl)

end Cart

namespace Pricing

variable {p : Pricing} {c : Cart} {code : String}

theorem enterPromoCode_eq (h : (p.enterPromoCode code c).1 = .ok true) :
    Text.trim code ≠ "" ∧ Text.trim code ∉ c.promoCodes ∧ ∃ gifts : List CartLine,
      (∀ l ∈ gifts, l.promoCode = some (Text.trim code)) ∧
        (p.enterPromoCode code c).2 = c.withCode (Text.trim code) gifts := by
  rw [enterPromoCode] at h ⊢
  obtain ⟨-, hfailed⟩ | ⟨hne, hnew, heq⟩ := Cart.addPromoCode_cases code c
  · split at h
    · rename_i hok
      exact absurd (congrArg Prod.fst hok) hfailed
    · exact absurd h hfailed
  · refine ⟨hne, hnew, ?_⟩
    rw [heq]
    dsimp only
    split
    · rename_i product hgift
      obtain ⟨gifts, hgifts, hadded⟩ := Cart.addGift_eq product (Text.trim code)
        { c with promoCodes := c.promoCodes ++ [Text.trim code] }
      exact ⟨gifts, hgifts, hadded⟩
    · exact ⟨[], by simp, by simp [Cart.withCode]⟩

theorem enterPromoCode_of_mem (hne : Text.trim code ≠ "")
    (hmem : Text.trim code ∈ c.promoCodes) : p.enterPromoCode code c = (.ok false, c) := by
  rw [enterPromoCode, Cart.addPromoCode_of_mem hne hmem]

/-- **Withdrawing a promo code undoes entering it.** The gifts of the cart are of entered codes;
neither need the codes be distinct or trimmed, nor does it matter which other lines there are. If a
code is found new, then whatever text trims to the same is found entered from then on, at whatever
prices and gifts, and withdrawing it gives back the very cart. To withdraw a code says that it was
not entered exactly when it changes nothing, and it touches no line but the gifts of the code. -/
theorem withdrawal_undoes_entry (p : Pricing) (h : c.GiftsEntered) (code : String) :
    ((p.enterPromoCode code c).1 = .ok true → ∀ code', Text.trim code' = Text.trim code →
      (p.enterPromoCode code c).2.removePromoCode code' = (true, c) ∧
      ∀ q : Pricing, q.enterPromoCode code' (p.enterPromoCode code c).2 =
        (.ok false, (p.enterPromoCode code c).2)) ∧
    ((c.removePromoCode code).1 = false ↔ (c.removePromoCode code).2 = c) ∧
    Cart.Spares (Text.trim code) c (c.removePromoCode code).2 := by
  refine ⟨fun hnew code' hsame => ?_, h.removePromoCode_iff, Cart.spares_removePromoCode code c⟩
  obtain ⟨hne, hnot, gifts, hgifts, hentered⟩ := enterPromoCode_eq hnew
  rw [hentered]
  constructor
  · rw [Cart.removePromoCode_congr hsame]
    exact h.removePromoCode_withCode hnot hgifts
  · intro q
    refine enterPromoCode_of_mem (hsame ▸ hne) ?_
    rw [hsame]
    exact List.mem_append_right _ List.mem_cons_self

/-- Every promo code gives away a mug, and a mug is in the cart twice: bought, and as a gift of
another code. -/
theorem withdrawal_undoes_entry_mugs :
    let p : Pricing := ⟨fun _ _ => none, fun _ => some "mug"⟩
    let c : Cart := { Cart.new "9000" "USD" .sales (.tick 0) with
      lines := [⟨"mug", .one, .one, none⟩, ⟨"mug", .one, .zero, some "SPRING"⟩]
      promoCodes := ["SPRING"] }
    c.Reachable ∧ c.GiftsEntered ∧ (p.enterPromoCode "\u2003AUTUMN " c).1 = .ok true ∧
      (p.enterPromoCode "\u2003AUTUMN " c).2.lines.length = 3 ∧
      (p.enterPromoCode "\u2003AUTUMN " c).2.removePromoCode "AUTUMN\n" = (true, c) := by
  intro p c
  have hreach : c.Reachable := by
    let bought := ((CartStep.add "mug" .one .one).perform p (.new "9000" "USD" .sales (.tick 0))).2
    have hbought : bought.Reachable := (Cart.Reachable.new ..).step p _
    have hgiven : c = ((CartStep.enterCode "SPRING").perform p bought).2 := by decide +kernel
    exact hgiven ▸ hbought.step p _
  have hnew : (p.enterPromoCode "\u2003AUTUMN " c).1 = .ok true := by decide +kernel
  have hsame : Text.trim "AUTUMN\n" = Text.trim "\u2003AUTUMN " := by decide +kernel
  exact ⟨hreach, hreach.giftsEntered, hnew, by decide +kernel,
    ((withdrawal_undoes_entry p hreach.giftsEntered _).1 hnew _ hsame).1⟩

end Pricing

end SessionCart
