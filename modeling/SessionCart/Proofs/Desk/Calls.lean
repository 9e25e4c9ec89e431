import Mathlib.Data.List.InsertIdx
import Mathlib.Tactic.SplitIfs
import SessionCart.Proofs.Desk.Determined

/-!
# Calls of the desk

Each call that changes a session is one turn, determined by the scene that it finds. What a call
does before it has the lock, or after it has given it back, does not touch the session.
-/

namespace SessionCart

namespace Desk

/-- A change that a request asks of the desk. -/
inductive Call
  | addItem (product : String) (quantity : Decimal)
  | changeQuantity (product : String) (quantity : Decimal)
  | removeItem (product : String)
  | enterPromoCode (code : String)
  | withdrawPromoCode (code : String)
  | clear
  | destroy
  | switchCart (index store : Option String)
  | dropParked (index : Option String)

inductive Answer
  | nothing
  | flag (b : Bool)
  | summary (s : CartSummary)
  deriving DecidableEq

def answer (d : Desk) (r : RequestRef) : Call → Routine Answer
  | .addItem product quantity => do return .summary (← d.addItem r product quantity)
  | .changeQuantity product quantity => do return .summary (← d.changeQuantity r product quantity)
  | .removeItem product => do return .summary (← d.removeItem r product)
  | .enterPromoCode code => do return .flag (← d.enterPromoCode r code)
  | .withdrawPromoCode code => do return .flag (← d.withdrawPromoCode r code)
  | .clear => do
    d.clear r
    return .nothing
  | .destroy => do
    d.destroy r
    return .nothing
  | .switchCart index store => do
    d.switchCart r index store
    return .nothing
  | .dropParked index => do return .flag (← d.dropParked r index)

/-- Answers a call in a request of its own. -/
def serve (d : Desk) (session : SessionId) (call : Call) : Routine Answer := do
  let r ← Routine.accept (.new session)
  d.answer r call

/-- The parked carts with the current one behind them, which is not current any more. -/
def collect (d : Desk) (r : RequestRef) : Routine (List Cart) := do
  let before ← d.parked r
  match ← d.find r .cart cartAttribute with
  | some c =>
    d.cart.remove r .all
    return before ++ [c]
  | none => return before

/-- A new cart, with the carts that stay parked. -/
def replace (d : Desk) (r : RequestRef) (store : Option String) (all : List Cart) :
    Routine (Cart × List Cart) := do
  match store.filter (!·.isEmpty) with
  | some store => d.noteStore r store
  | none => pure ()
  let c ← d.currentCart r
  return (c, all)

/-- The cart that becomes current, with the carts that stay parked. -/
def pick (d : Desk) (r : RequestRef) (index store : Option String) (all : List Cart) :
    Routine (Cart × List Cart) :=
  match (readIndex? index).bind fun i => all[i]?.map (i, ·) with
  | some (i, c) => return (c, all.eraseIdx i)
  | none => d.replace r store all

theorem switchCart_eq (d : Desk) (r : RequestRef) (index store : Option String) :
    d.switchCart r index store = d.locked r (d.collect r >>= fun all =>
      d.pick r index store all >>= fun p => d.put r parkedAttribute (.carts p.2) >>= fun _ =>
        d.cart.write r (some p.1) .all) := by
  unfold switchCart collect
  refine congrArg (d.locked r) ?_
  rw [Routine.bind_assoc]
  refine congrArg (d.parked r >>= ·) (funext fun before => ?_)
  rw [Routine.bind_assoc]
  refine congrArg (d.find r .cart cartAttribute >>= ·) (funext fun current => ?_)
  rcases current with _ | c
  on_goal 1 =>
    simp only [Routine.pure_eq, Routine.done_bind]
    generalize before = all
  on_goal 2 =>
    rw [Routine.bind_assoc]
    refine congrArg (d.cart.remove r .all >>= ·) (funext fun _ => ?_)
    simp only [Routine.pure_eq, Routine.done_bind]
    generalize before ++ [c] = all
  all_goals
    rw [pick]
    cases (readIndex? index).bind fun i => all[i]?.map (i, ·) with
    | some p => rfl
    | none =>
      rw [replace]
      cases store.filter (!·.isEmpty) with
      | some store =>
        simp only [Routine.bind_assoc]
        rfl
      | none =>
        simp only [Routine.bind_assoc]
        rfl

end Desk

section Handlers

variable {ι : Type} {x : Site} {r : RequestRef} {carts : CartSettings} {pricing : Pricing}
  {d : ι → Desk} (hx : ∀ s s', x.allows s s') (hr : r.session = x.session)
  (hd : ∀ i, (d i).Serves x carts pricing)

theorem wp_summarise {v : View} {Q : Except Failure CartSummary → View → Prop} {c : Cart}
    (h : Q (c.summary.mapError .overflow) v) : x.wp Q (Desk.summarise c) v := by
  rw [Desk.summarise]
  cases hsummary : c.summary with
  | ok s =>
    rw [hsummary] at h
    exact h
  | error o =>
    rw [hsummary] at h
    exact h

include hx hr hd

theorem determinedTurn_summary {α : Type} {edit : Cart.Edit α} (hedit : edit.Blind) :
    DeterminedTurn x r id fun i => (d i).update r edit >>= fun p => Desk.summarise p.2 :=
  (determinedTurn_update hx hr hd hedit).bind (fun p => p.2.summary.mapError .overflow)
    fun _ _ _ h => wp_summarise h

theorem determinedTurn_result {α : Type} {edit : Cart.Edit α} (hedit : edit.Blind) :
    DeterminedTurn x r id fun i => (d i).update r edit >>= fun p => .done p.1 :=
  (determinedTurn_update hx hr hd hedit).bind (fun p => .ok p.1) fun _ _ _ h => h

theorem determinedTurn_addItem (product : String) (quantity : Decimal) :
    DeterminedTurn x r id fun i => (d i).addItem r product quantity := by
  have hprices : ∀ i, (d i).addItem r product quantity =
      (d i).update r (pricing.addItem product quantity) >>= fun p => Desk.summarise p.2 := by
    intro i
    rw [Desk.addItem, (hd i).pricing_eq]
  simp only [hprices]
  exact determinedTurn_summary hx hr hd (pricing.blind_addItem product quantity)

theorem determinedTurn_enterPromoCode (code : String) :
    DeterminedTurn x r id fun i => (d i).enterPromoCode r code := by
  have hprices : ∀ i, (d i).enterPromoCode r code =
      (d i).update r (pricing.enterPromoCode code) >>= fun p => .done p.1 := by
    intro i
    rw [Desk.enterPromoCode, (hd i).pricing_eq]
    rfl
  simp only [hprices]
  exact determinedTurn_result hx hr hd (pricing.blind_enterPromoCode code)

theorem determinedTurn_clear : DeterminedTurn x r id fun i => (d i).clear r := by
  refine determinedTurn_locked hr hd ?_
  refine (determinedTurn_update hx hr hd fun _ => rfl).determined.andThen ?_
  refine (determined_login hr hd).bind_id fun login => ?_
  cases login with
  | none => exact determined_done fun _ => rfl
  | some login =>
    cases hanonymous : login.isAnonymous with
    | true =>
      simp only [hanonymous, if_true]
      exact determined_forgetAnonymous hx hr hd login
    | false =>
      simp only [hanonymous]
      exact determined_done fun _ => rfl

theorem determinedTurn_destroy : DeterminedTurn x r id fun i => (d i).destroy r :=
  determinedTurn_locked hr hd <| (determinedTurn_clear hx hr hd).determined.andThen <|
    (determined_remove hx hr hd).andThen (determined_removeAttributes hx hr hd _)

theorem determinedTurn_dropParked (index : Option String) :
    DeterminedTurn x r id fun i => (d i).dropParked r index := by
  refine determinedTurn_locked hr hd ?_
  refine (determined_parked hr hd).bind fun b κ e all hall => ?_
  have hlength : ∀ j, (all j).length = b.length := by
    intro j
    rw [← hall j, List.length_map]
  simp only [hlength]
  cases (Desk.readIndex? index).filter (· < b.length) with
  | none => exact determined_done fun _ => rfl
  | some n =>
    have hrest : ∀ j, (Value.carts ((all j).eraseIdx n)).undated = .carts (b.eraseIdx n) := by
      intro j
      rw [← hall j, List.eraseIdx_map]
      rfl
    exact (determined_put hx hr (fun j => hd (e j)) parkedAttribute hrest).andThen
      (determined_done fun _ => rfl)

/-! ### Switching carts -/

theorem determined_collect :
    Determined x r (List.map Cart.undated) fun i => (d i).collect r := by
  refine (determined_parked hr hd).bind fun b κ e before hbefore => ?_
  refine (determined_find hr (fun j => hd (e j)) .cart cartAttribute).bind
    fun current κ' e' found hfound => ?_
  cases current with
  | none =>
    have hnone : ∀ j, found j = none := fun j => Option.map_eq_none_iff.mp (hfound j)
    simp only [hnone]
    exact determined_done fun j => hbefore (e' j)
  | some c =>
    have hsome : ∀ j, ∃ c', found j = some c' ∧ c'.undated = c := fun j =>
      Option.map_eq_some_iff.mp (hfound j)
    choose cart hcart hundated using hsome
    simp only [hcart]
    refine (determined_remove hx hr fun j => hd (e (e' j))).andThen
      (determined_done (b := b ++ [c]) fun j => ?_)
    rw [List.map_append, hbefore, List.map_singleton, hundated]

theorem determined_replace (store : Option String) {all : ι → List Cart} {undated : List Cart}
    (hall : ∀ i, (all i).map Cart.undated = undated) :
    Determined x r (fun p => (p.1.undated, p.2.map Cart.undated)) fun i =>
      (d i).replace r store (all i) := by
  have hcart : Determined x r (fun p => (p.1.undated, p.2.map Cart.undated)) fun i =>
      (d i).currentCart r >>= fun c => .done (c, all i) := by
    refine (determined_currentCart hx hr hd).bind fun c κ e found hfound => ?_
    refine determined_done (b := (c, undated)) fun j => ?_
    rw [hfound j, hall (e j)]
  unfold Desk.replace
  cases store.filter (!·.isEmpty) with
  | none => exact hcart
  | some store =>
    have hnote : Determined x r id fun i => (d i).noteStore r store :=
      (determined_put hx hr hd storeAttribute fun _ => rfl).andThen (determined_cache ..)
    exact hnote.andThen hcart

theorem determined_pick (index store : Option String) {all : ι → List Cart} {undated : List Cart}
    (hall : ∀ i, (all i).map Cart.undated = undated) :
    Determined x r (fun p => (p.1.undated, p.2.map Cart.undated)) fun i =>
      (d i).pick r index store (all i) := by
  have hnew := determined_replace hx hr hd store hall
  have hget : ∀ i (n : Nat), ((all i)[n]?).map Cart.undated = undated[n]? := by
    intro i n
    rw [← hall i, List.getElem?_map]
  cases hread : Desk.readIndex? index with
  | none =>
    simp only [Desk.pick, hread]
    exact hnew
  | some n =>
    cases hn : undated[n]? with
    | none =>
      have hnone : ∀ i, (all i)[n]? = none := fun i =>
        Option.map_eq_none_iff.mp ((hget i n).trans hn)
      simp only [Desk.pick, hread, Option.bind_some, hnone]
      exact hnew
    | some c =>
      have hsome : ∀ i, ∃ c', (all i)[n]? = some c' ∧ c'.undated = c := fun i =>
        Option.map_eq_some_iff.mp ((hget i n).trans hn)
      choose cart hcart hundated using hsome
      simp only [Desk.pick, hread, Option.bind_some, hcart]
      refine determined_done (b := (c, undated.eraseIdx n)) fun i => ?_
      rw [← hall i, ← hundated i, ← List.eraseIdx_map]

theorem determinedTurn_switchCart (index store : Option String) :
    DeterminedTurn x r id fun i => (d i).switchCart r index store := by
  simp only [Desk.switchCart_eq]
  refine determinedTurn_locked hr hd ?_
  refine (determined_collect hx hr hd).bind fun b κ e all hall => ?_
  refine (determined_pick hx hr (fun j => hd (e j)) index store hall).bind
    fun b' κ' e' next hnext => ?_
  have hrest : ∀ j, (Value.carts (next j).2).undated = .carts b'.2 := fun j =>
    congrArg (fun p : Cart × List Cart => Value.carts p.2) (hnext j)
  have hcart : ∀ j, (next j).1.undated = b'.1 := fun j => congrArg Prod.fst (hnext j)
  exact (determined_put hx hr (fun j => hd (e (e' j))) parkedAttribute hrest).andThen
    (determined_write hx hr (fun j => hd (e (e' j))) hcart)

/-- Every call is one turn, in which it does and gives what the scene that it finds says. -/
theorem determinedTurn_answer (call : Desk.Call) :
    DeterminedTurn x r id fun i => (d i).answer r call := by
  cases call with
  | addItem product quantity =>
    exact (determinedTurn_addItem hx hr hd product quantity).map Desk.Answer.summary
  | changeQuantity product quantity =>
    exact (determinedTurn_summary hx hr hd (Cart.blind_setItemQuantity product quantity)).map
      Desk.Answer.summary
  | removeItem product =>
    exact (determinedTurn_summary hx hr hd (Cart.blind_removeItem product)).map Desk.Answer.summary
  | enterPromoCode code =>
    exact (determinedTurn_enterPromoCode hx hr hd code).map Desk.Answer.flag
  | withdrawPromoCode code =>
    have hblind : Cart.Edit.Blind fun c =>
        (.ok (c.removePromoCode code).1, (c.removePromoCode code).2) := fun _ => rfl
    exact (determinedTurn_result hx hr hd hblind).map Desk.Answer.flag
  | clear => exact (determinedTurn_clear hx hr hd).map fun _ => Desk.Answer.nothing
  | destroy => exact (determinedTurn_destroy hx hr hd).map fun _ => Desk.Answer.nothing
  | switchCart index store =>
    exact (determinedTurn_switchCart hx hr hd index store).map fun _ => Desk.Answer.nothing
  | dropParked index =>
    exact (determinedTurn_dropParked hx hr hd index).map Desk.Answer.flag

end Handlers

end SessionCart
