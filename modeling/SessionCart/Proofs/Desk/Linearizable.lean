import SessionCart.Concurrency.Race
import SessionCart.Proofs.Desk.Calls
import SessionCart.Proofs.Turn.Atomic

/-!
# Calls of one session are linearizable

Requests of one session call the desk at the same time. Whatever the schedule, they end as if they
had called one after another, in the order in which they got the lock of the session.
-/

namespace SessionCart

/-- The session of a shop, of which its threads do with the shelf what they like. -/
def Desk.site (session : SessionId) (store : StoreName) (table : TableName) : Site where
  session := session
  store := store
  table := table
  allows _ _ := True
  refl _ := trivial
  trans _ _ := trivial

namespace Desk

/-- A call of a request of its own is atomic, and all desks of a shop have the same effect. -/
theorem atomic_serve (x : Site) (hx : ∀ s s', x.allows s s') (carts : CartSettings)
    (pricing : Pricing) (call : Call) :
    ∃ effect : Shelf → Except Failure Answer × Shelf, ∀ d : Desk, d.Serves x carts pricing →
      ∀ s, x.wp (fun out v => v.Atomic Shelf.undated effect out) (d.serve x.session call)
        (.fresh s) := by
  let r : RequestRef := ⟨0, x.session⟩
  obtain ⟨g, hg⟩ := determinedTurn_answer (r := r) (d := fun i : { d : Desk // d.Serves x carts
    pricing } => i.1) hx rfl (fun i => i.2) call
  refine ⟨fun s => ((g ⟨.empty, s⟩).1, (g ⟨.empty, s⟩).2.stored), fun d hd s => ?_⟩
  let l : Workspace := { requests := [.new x.session] }
  rw [serve, Site.wp_bind]
  change x.wp _ (d.answer r call) ((View.fresh s).work l)
  refine Site.wp_mono ?_ _ _ (hg ⟨d, hd⟩ ((View.fresh s).work l) ⟨Nat.one_pos, rfl⟩)
  rintro out v ⟨_, now, hturn, heq⟩
  have hempty : (l.cached r).undated = .empty := by
    ext1
    funext name
    rfl
  rw [Scene.undated] at heq
  dsimp only at heq
  change g ⟨(l.cached r).undated, now.undated⟩ = _ at heq
  rw [hempty] at heq
  refine ⟨?_, now, v.shelf, hturn.turns_eq, ?_⟩
  · rw [View.inside, hturn.tickets_eq]
    rfl
  · dsimp only
    rw [heq]
    cases out <;> rfl

/-- Requests that call the desk of a shop at the same time, each once. -/
def calls (d : Desk) (session : SessionId) (w : World) (calls : List Call) : Machine Answer :=
  .start w (calls.map (d.serve session))

end Desk

/-- **Linearizability.** Requests of one session call the desk at the same time, in any
interleaving. Once nobody can go on, all calls have ended, and they have ended as they do one at a
time, in the order in which they got the lock: with the same results, and with the same values
stored, up to the times at which carts were made. -/
theorem linearizable (settings : Settings) (hlimit : settings.lockTimeout = none)
    (carts : CartSettings) (pricing : Pricing) (store : StoreName) (table : TableName)
    (clock clock' : Nat → Timestamp) (session : SessionId) (calls : List Desk.Call) (w : World)
    (hidle : (w.locks table).Idle) (hcalm : (w.backend store).Calm) {order : List ThreadId}
    {m : Machine Desk.Answer}
    (hrun : ((Desk.new settings carts pricing store table clock).calls session w calls).Run table
      session order m) (hended : m.Ended) :
    let serial := order.foldl Machine.pursue
      ((Desk.new settings carts pricing store table clock').calls session w calls)
    order.Perm (List.range calls.length) ∧ m.results.length = calls.length ∧
      m.results = serial.results ∧
      ∀ name, ((m.world.backend store).store.get? session name).map Value.undated =
        ((serial.world.backend store).store.get? session name).map Value.undated := by
  intro serial
  let x := Desk.site session store table
  choose effect heffect using Desk.atomic_serve x (fun _ _ => trivial) carts pricing
  let effects (i : ThreadId) : Shelf → Except Failure Desk.Answer × Shelf :=
    ((calls[i]?).map effect).getD fun s => (.ok .nothing, s)
  have hatomic : ∀ clock i r,
      (calls.map ((Desk.new settings carts pricing store table clock).serve session))[i]? = some r →
      x.wp (fun out v => v.Atomic Shelf.undated (effects i) out) r (.fresh (x.shelf w)) := by
    intro clock i r hr
    rw [List.getElem?_map, Option.map_eq_some_iff] at hr
    obtain ⟨call, hcall, rfl⟩ := hr
    simp only [effects, hcall, Option.map_some, Option.getD_some]
    exact heffect call _ (Desk.serves_new hlimit carts pricing x clock) _
  have hthrough := Machine.Run.through (x := x) hidle hcalm (hatomic clock) hrun hended
  have horder := hthrough.order_perm
  have hserial := Through.foldl_pursue (x := x) hidle hcalm (hatomic clock') order
    (by rwa [List.length_map] at horder ⊢)
  rw [List.length_map] at hthrough horder hserial
  obtain ⟨hresults, hlast⟩ := hthrough.unique hserial
  exact ⟨horder, hthrough.length_eq, hresults, fun name => congrArg (Shelf.value · name) hlast⟩

def Pricing.pens : Pricing where
  price product _ := if product = "pen" then some .one else none
  gift _ := none

/-- Three requests take their actions in turn; the second one comes first, and finds no pen. However
else they begin, they can be brought to such an end. -/
theorem linearizable_pens :
    let desk (clock : Nat → Timestamp) := Desk.new {} {} .pens .main .shared clock
    let calls : List Desk.Call := [.addItem "pen" .one, .removeItem "pen", .switchCart none none]
    let start := (desk .tick).calls Race.arena Race.dawn calls
    let m := start.follow (List.replicate 60 [1, 0, 2]).flatten
    let serial (order : List ThreadId) :=
      order.foldl Machine.pursue ((desk fun n => .tick (n + 9)).calls Race.arena Race.dawn calls)
    m.results = [.ok (.summary ⟨1, .one, .one, "USD"⟩), .error (.error (.itemNotInCart "pen")),
      .ok .nothing] ∧
      (∃ order : List ThreadId, order.Perm (List.range 3) ∧ m.results = (serial order).results) ∧
      ∀ begun : List ThreadId, ∃ rest order, order.Perm (List.range 3) ∧
        (start.follow (begun ++ rest)).results = (serial order).results := by
  intro desk calls start m serial
  have hlinear : ∀ schedule, (start.follow schedule).Ended → ∃ order : List ThreadId,
      order.Perm (List.range 3) ∧ (start.follow schedule).results = (serial order).results := by
    intro schedule hended
    obtain ⟨order, hrun⟩ := Machine.exists_run_follow .shared Race.arena start schedule
    obtain ⟨horder, _, hresults, _⟩ := linearizable {} rfl {} .pens .main .shared .tick
      (fun n => .tick (n + 9)) Race.arena calls Race.dawn (LockTable.idle_new _)
      ⟨fun _ _ => rfl, rfl⟩ hrun hended
    exact ⟨order, horder, hresults⟩
  have hended : m.Ended := Machine.ended_of_length (by decide +kernel)
  refine ⟨by decide +kernel, hlinear _ hended, fun begun => ?_⟩
  obtain ⟨rest, hended⟩ := (start.follow begun).exists_ended
  refine ⟨rest, hlinear (begun ++ rest) ?_⟩
  rwa [Machine.follow, List.foldl_append]

end SessionCart
