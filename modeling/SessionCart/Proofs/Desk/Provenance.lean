import SessionCart.Concurrency.Race
import SessionCart.Proofs.Cart.WellFormed
import SessionCart.Proofs.Desk.Terms
import SessionCart.Proofs.Lock.Exclusion
import SessionCart.Proofs.Thread.Course
import SessionCart.Proofs.Turn.Run

/-!
# Where stored carts come from

Threads call the desks of shops, in any interleaving. If nobody has brought a cart along, every cart
that is found anywhere has come about by operations on a new one, so it is well-formed.
-/

namespace SessionCart

/-! ### Carts in what is kept -/

/-- All carts in a backend are such, and no party puts others there. -/
structure Backend.Carries (K : Cart → Prop) (b : Backend) : Prop where
  stored : ∀ session name v, b.store.get? session name = some v → v.Carries K
  calm : b.intrusion = none

/-- All carts that a thread has to itself are such. -/
structure Workspace.Carries (K : Cart → Prop) (l : Workspace) : Prop where
  cached : ∀ id name v, (l.request id).get? name = some v → v.Carries K
  drafted : ∀ d v, (l.draft d).current = some v → v.Carries K

namespace Workspace

variable {K : Cart → Prop} {l : Workspace}

theorem carries_empty (K : Cart → Prop) : ({} : Workspace).Carries K where
  cached id name v hv := by simp [request, default, Request.new, Request.get?] at hv
  drafted d v hv := by simp [draft, default] at hv

theorem request_editRequest_cases (l : Workspace) (r id : RequestId) (f : Request → Request) :
    (l.editRequest r f).request id = l.request id ∨
      (l.editRequest r f).request id = f (l.request id) := by
  simp only [request, editRequest, List.getElem?_modify]
  cases l.requests[id]? with
  | none => exact .inl rfl
  | some q => by_cases hid : r = id <;> simp [hid]

theorem draft_editDraft_cases (l : Workspace) (d e : DraftId) (f : Draft → Draft) :
    (l.editDraft d f).draft e = l.draft e ∨ (l.editDraft d f).draft e = f (l.draft e) := by
  simp only [draft, editDraft, List.getElem?_modify]
  cases l.drafts[e]? with
  | none => exact .inl rfl
  | some q => by_cases hd : d = e <;> simp [hd]

theorem getD_append_cases {α : Type} [Inhabited α] (xs : List α) (x : α) (n : Nat) :
    (xs ++ [x])[n]?.getD default = xs[n]?.getD default ∨ (xs ++ [x])[n]?.getD default = x := by
  rw [List.getElem?_append]
  split
  · exact .inl rfl
  · rename_i hn
    rw [List.getElem?_eq_none (Nat.le_of_not_lt hn), List.getElem?_singleton]
    split
    · exact .inr rfl
    · exact .inl rfl

namespace Carries

variable (h : l.Carries K)

include h

theorem editRequest (r : RequestId) {f : Request → Request}
    (hf : ∀ q, (∀ name v, q.get? name = some v → v.Carries K) →
      ∀ name v, (f q).get? name = some v → v.Carries K) : (l.editRequest r f).Carries K where
  cached id name v hv := by
    rcases l.request_editRequest_cases r id f with heq | heq <;> rw [heq] at hv
    · exact h.cached id name v hv
    · exact hf _ (h.cached id) name v hv
  drafted := h.drafted

theorem editDraft (d : DraftId) {f : Draft → Draft}
    (hf : ∀ q v, (f q).current = some v → q.current = some v ∨ v.Carries K) :
    (l.editDraft d f).Carries K where
  cached := h.cached
  drafted e v hv := by
    rcases l.draft_editDraft_cases d e f with heq | heq <;> rw [heq] at hv
    · exact h.drafted e v hv
    · exact (hf _ v hv).elim (h.drafted e v) id

theorem addRequest {q : Request} (hq : ∀ name v, q.get? name = some v → v.Carries K) :
    (l.addRequest q).2.Carries K where
  cached id name v hv := by
    rcases getD_append_cases l.requests q id with heq | heq
    · exact h.cached id name v (by rwa [Workspace.request, ← heq])
    · change (((l.requests ++ [q])[id]?).getD default).get? name = some v at hv
      exact hq name v (by rwa [heq] at hv)
  drafted := h.drafted

theorem begin (kind : Kind) (session : SessionId) (name : String) {value : Value}
    (hvalue : value.Carries K) : (l.perform (.begin kind session name value)).2.Carries K where
  cached := h.cached
  drafted d v hv := by
    change (((l.drafts ++ [_])[d]?).getD default).current = some v at hv
    rcases getD_append_cases l.drafts { kind := kind, current := some value } d with heq | heq <;>
      rw [heq] at hv
    · exact h.drafted d v hv
    · cases hv
      exact hvalue

/-- What a thread does to itself within the terms brings no other carts. -/
theorem perform {a : Action} (hmay : (Terms.anywhere K).may (.own a)) :
    (l.perform a).2.Carries K ∧ (Terms.anywhere K).told (.own a) (l.perform a).1 := by
  cases a with
  | accept q => exact ⟨h.addRequest hmay, trivial⟩
  | request id => exact ⟨h, h.cached id⟩
  | cache r name value =>
    refine ⟨h.editRequest r fun q hq other v hv => ?_, trivial⟩
    rw [Request.get?_set] at hv
    split at hv
    · cases hv
      exact hmay
    · exact hq other v hv
  | uncache r name =>
    refine ⟨h.editRequest r fun q hq other v hv => ?_, trivial⟩
    rw [Request.get?_remove] at hv
    split at hv
    · cases hv
    · exact hq other v hv
  | mark r name =>
    refine ⟨h.editRequest r fun q hq other v hv => ?_, trivial⟩
    rw [Request.get?_markChanged] at hv
    exact hq other v hv
  | openDraft => exact ⟨h, trivial⟩
  | begin kind session name value => exact ⟨h.begin kind session name hmay.2, trivial⟩
  | draft d => exact ⟨h, h.drafted d⟩
  | handOut d => exact ⟨h.editDraft d fun q v hv => .inl hv, trivial⟩
  | record d value => exact ⟨h.editDraft d fun q v hv => .inr (hmay v hv), trivial⟩
  | discard d => exact ⟨h.editDraft d fun q v hv => .inl hv, trivial⟩
  | finish session name d =>
    have hclosed := h.editDraft d (f := fun e => { e with closed := true }) fun q v hv => .inl hv
    refine ⟨?_, trivial⟩
    simp only [Workspace.perform]
    split
    · exact ⟨hclosed.cached, hclosed.drafted⟩
    · exact hclosed

end Carries

end Workspace

namespace Backend.Carries

variable {K : Cart → Prop} {b : Backend} (h : b.Carries K)

include h

/-- A call that is refused changes nothing, and neither does what is written down of it. -/
theorem perform {α : Type} {call : StoreCall} {session : SessionId} {name : String} {locked : Bool}
    {act : Backend → α × Backend}
    (hact : ∀ b' : Backend, b'.Carries K → b'.store = b.store → (act b').2.Carries K) :
    (b.perform call session name locked act).2.Carries K := by
  have hnoted : (b.note call session name locked).Carries K := ⟨h.stored, h.calm⟩
  rw [Backend.perform]
  dsimp only
  split
  · exact hnoted
  · exact hact _ hnoted rfl

theorem get (session : SessionId) (name : String) :
    (b.get session name).2.Carries K ∧
      ∀ v, (b.get session name).1 = .ok (some v) → v.Carries K := by
  refine ⟨h.perform fun b' hb' _ => ?_, fun v hv => ?_⟩
  · rw [Backend.intrude, hb'.calm]
    exact hb'
  · rw [Backend.get, Backend.perform] at hv
    dsimp only at hv
    split at hv
    · cases hv
    · exact h.stored session name v (Except.ok.inj hv)

theorem set (session : SessionId) (name : String) {value : Value} (hvalue : value.Carries K)
    (locked : Bool) : (b.set session name value locked).2.Carries K := by
  refine h.perform fun b' hb' _ => ⟨fun session' name' v hv => ?_, hb'.calm⟩
  rw [Store.get?_set] at hv
  split at hv
  · cases hv
    exact hvalue
  · exact hb'.stored session' name' v hv

theorem remove (session : SessionId) (name : String) (locked : Bool) :
    (b.remove session name locked).2.Carries K ∧
      ∀ v, (b.remove session name locked).1 = .ok (some v) → v.Carries K := by
  refine ⟨h.perform fun b' hb' _ => ⟨fun session' name' v hv => ?_, hb'.calm⟩, fun v hv => ?_⟩
  · rw [Store.get?_remove] at hv
    split at hv
    · cases hv
    · exact hb'.stored session' name' v hv
  · rw [Backend.remove, Backend.perform] at hv
    dsimp only at hv
    split at hv
    · cases hv
    · exact h.stored session name v (Except.ok.inj hv)

theorem invalidate (session : SessionId) (locked : Bool) :
    (b.invalidate session locked).2.Carries K := by
  refine h.perform fun b' hb' _ => ⟨fun session' name' v hv => ?_, hb'.calm⟩
  rw [Store.get?_invalidate] at hv
  split at hv
  · cases hv
  · exact hb'.stored session' name' v hv

end Backend.Carries

/-- What a thread does to the shared state within the terms brings no other carts. -/
theorem World.carries_perform {K : Cart → Prop} {w w' : World} {i : ThreadId} {a : World.Action}
    {reply : a.Reply} (h : ∀ s, (w.backend s).Carries K)
    (hmay : (Terms.anywhere K).may (.world a)) (hperform : w.perform i a = some (reply, w')) :
    (∀ s, (w'.backend s).Carries K) ∧ (Terms.anywhere K).told (.world a) reply := by
  have hbackend : ∀ s b, b.Carries K → ∀ s', ((w.setBackend s b).backend s').Carries K := by
    intro s b hb s'
    rw [World.backend_setBackend_eq]
    split
    · exact hb
    · exact h s'
  have hlocks : ∀ t l s', ((w.setLocks t l).backend s').Carries K := by
    intro t l s'
    rw [World.backend_setLocks]
    exact h s'
  cases a with
  | get s session name =>
    cases hperform
    obtain ⟨hb, htold⟩ := (h s).get session name
    exact ⟨hbackend s _ hb, htold⟩
  | set s session name value =>
    cases hperform
    exact ⟨hbackend s _ ((h s).set session name hmay.2 _), trivial⟩
  | remove s session name =>
    cases hperform
    obtain ⟨hb, htold⟩ := (h s).remove session name (w.shared.isLocked session)
    exact ⟨hbackend s _ hb, htold⟩
  | invalidate s session =>
    cases hperform
    exact ⟨hbackend s _ ((h s).invalidate session _), trivial⟩
  | draw t session =>
    cases hperform
    exact ⟨hlocks t _, trivial⟩
  | await t ticket limit =>
    obtain ⟨l, _, heq⟩ := Option.map_eq_some_iff.mp hperform
    cases heq
    exact ⟨hlocks t l, fun hfalse => by cases hfalse⟩
  | giveBack t ticket =>
    cases hperform
    exact ⟨hlocks t _, trivial⟩
  | prune t => exact hmay.elim
  | count label =>
    cases hperform
    exact ⟨h, trivial⟩

/-! ### Threads that call handlers -/

namespace Desk

/-- The desk of a shop. -/
def IsShop (d : Desk) : Prop :=
  ∃ settings carts pricing store table clock, d = .new settings carts pricing store table clock

/-- What a thread may have to do: to accept requests that bring no carts along, and to call handlers
of shops, each call chosen by what came of the ones before. -/
inductive Shift {ρ : Type} : Routine ρ → Prop
  | done (a : ρ) : Shift (.done a)
  | fail (f : Failure) : Shift (.fail f)
  | accept {request : Request} {next : RequestRef → Routine ρ} :
    (∀ name v, request.get? name = some v → v.kind ≠ .cart ∧ v.kind ≠ .carts) →
    (∀ r, Shift (next r)) → Shift (Routine.accept request >>= next)
  | call {d : Desk} {r : RequestRef} {α : Type} {x : Routine α}
    {next : Except Failure α → Routine ρ} : d.IsShop → d.Handler r x → (∀ out, Shift (next out)) →
    Shift (x.attempt >>= next)

theorem upholds_reachable {d : Desk} (hd : d.IsShop) : d.Upholds Cart.Reachable where
  make n request c hc := by
    obtain ⟨settings, carts, pricing, store, table, clock, rfl⟩ := hd
    cases hc
    exact .made carts request.text? (clock n)
  step s c hc := hc.step d.pricing s

end Desk

theorem Value.carries_of_kind {K : Cart → Prop} {v : Value}
    (h : v.kind ≠ .cart ∧ v.kind ≠ .carts) : v.Carries K := by
  cases v with
  | cart => exact absurd rfl h.1
  | carts => exact absurd rfl h.2
  | _ => trivial

/-- A shift keeps to the terms of carts that come about by operations on new ones. -/
theorem Desk.Shift.wp {ρ : Type} {x : Routine ρ} (hx : Shift x) (first : Option Refusal) :
    (Terms.anywhere Cart.Reachable).logic.wp (fun _ _ => True) x first := by
  induction hx generalizing first with
  | done a => trivial
  | fail f => trivial
  | accept hrequest _ ih =>
    exact ⟨fun name v hv => Value.carries_of_kind (hrequest name v hv), fun r _ => ih r _⟩
  | call hshop hhandler _ ih =>
    have habides := Terms.Abides.handler (T := .anywhere Cart.Reachable) rfl
      (upholds_reachable hshop) trivial trivial trivial hhandler
    rw [Logic.wp_bind, Logic.wp_attempt]
    exact Logic.wp_mono (fun out last _ => ih out last) (habides first)

namespace Machine

variable {ρ : Type} {m m' : Machine ρ} {K : Cart → Prop}

/-- All carts, in storage and with the threads, are such, and the threads go on so. -/
structure Carries (K : Cart → Prop) (m : Machine ρ) : Prop where
  stored : ∀ s, (m.world.backend s).Carries K
  kept : ∀ (i : ThreadId) (s : Strand ρ), m.strands[i]? = some s → s.workspace.Carries K ∧
    ∃ first, (Terms.anywhere K).logic.wp (fun _ _ => True) s.rest first

/-- One move brings no other carts. -/
theorem Carries.move (h : m.Carries K) {mv : Move} (hmove : m.move? mv = some m') :
    m'.Carries K := by
  cases mv with
  | act i =>
    obtain ⟨s, hs, ⟨a, next, hrest, rfl⟩ | ⟨a, next, reply, w', hrest, hperform, rfl⟩⟩ :=
      move?_act hmove
    all_goals
      obtain ⟨hworkspace, first, hwp⟩ := h.kept i s hs
      rw [hrest] at hwp
    · obtain ⟨hnow, htold⟩ := hworkspace.perform hwp.1
      exact ⟨h.stored, forall_set ⟨hnow, _, hwp.2 _ htold⟩ fun j s' _ => h.kept j s'⟩
    · obtain ⟨hnow, htold⟩ := World.carries_perform h.stored hwp.1 hperform
      exact ⟨hnow, forall_set ⟨hworkspace, _, hwp.2 _ htold⟩ fun j s' _ => h.kept j s'⟩
  | expire i =>
    obtain ⟨s, a, next, reply, hs, hrest, hexpired, rfl⟩ := move?_expire hmove
    obtain ⟨hworkspace, first, hwp⟩ := h.kept i s hs
    rw [hrest] at hwp
    have hnext := hwp.2 _ (Terms.told_of_expired hexpired)
    exact ⟨h.stored, forall_set ⟨hworkspace, _, hnext⟩ fun j s' _ => h.kept j s'⟩

theorem Carries.reach (h : m.Carries K) (hreach : m.Reach m') : m'.Carries K := by
  induction hreach with
  | start => exact h
  | move mv _ hmove ih => exact ih.move hmove

/-- Threads on their shifts, where no cart is stored yet. -/
theorem carries_start {w : World} {routines : List (Routine ρ)}
    (hcalm : ∀ s, (w.backend s).intrusion = none)
    (hempty : ∀ s session name v, (w.backend s).store.get? session name = some v →
      v.kind ≠ .cart ∧ v.kind ≠ .carts)
    (hshift : ∀ x ∈ routines, Desk.Shift x) :
    (Machine.start w routines).Carries Cart.Reachable := by
  refine ⟨fun s => ⟨fun session name v hv => ?_, hcalm s⟩, fun i s hs => ?_⟩
  · exact Value.carries_of_kind (hempty s session name v hv)
  · rw [start, List.getElem?_map] at hs
    obtain ⟨x, hx, rfl⟩ := Option.map_eq_some_iff.mp hs
    exact ⟨Workspace.carries_empty _, none, (hshift x (List.mem_of_getElem? hx)).wp none⟩

end Machine

/-- **Every cart is well-formed.** So is a cart on which any operations have been carried out since
it was new, whether they failed or not. And so is every cart that is stored, current or parked,
after any calls of handlers by any threads, where no cart was stored before. -/
theorem carts_wellFormed :
    (∀ c : Cart, c.Reachable → c.WellFormed) ∧
    ∀ (ρ : Type) (w : World) (routines : List (Routine ρ)) (m : Machine ρ),
      (∀ s, (w.backend s).intrusion = none) →
      (∀ s session name v, (w.backend s).store.get? session name = some v →
        v.kind ≠ .cart ∧ v.kind ≠ .carts) →
      (∀ x ∈ routines, Desk.Shift x) → (Machine.start w routines).Reach m →
      ∀ s session name,
        (∀ c, (m.world.backend s).store.get? session name = some (.cart c) → c.WellFormed) ∧
        ∀ cs, (m.world.backend s).store.get? session name = some (.carts cs) →
          ∀ c ∈ cs, c.WellFormed := by
  refine ⟨fun c hc => hc.wellFormed, fun ρ w routines m hcalm hempty hshift hreach => ?_⟩
  have hstored := ((Machine.carries_start hcalm hempty hshift).reach hreach).stored
  intro s session name
  refine ⟨fun c hc => ?_, fun cs hcs c hc => ?_⟩
  · have hreachable : c.Reachable := (hstored s).stored session name _ hc
    exact hreachable.wellFormed
  · have hreachable : ∀ c ∈ cs, c.Reachable := (hstored s).stored session name _ hcs
    exact (hreachable c hc).wellFormed

/-- Takes a product and a gift, and parks the cart. -/
def Desk.shopping (d : Desk) (product : String) : Routine Unit := do
  let r ← Routine.accept (.new Race.arena)
  let _ ← (d.addItem r product .one).attempt
  let _ ← (d.enterPromoCode r " HELLO ").attempt
  let _ ← (d.switchCart r none none).attempt
  return ()

theorem Desk.shift_shopping {d : Desk} (hd : d.IsShop) (product : String) :
    Shift (d.shopping product) := by
  refine .accept (fun name v hv => by simp [Request.new, Request.get?] at hv) fun r => ?_
  refine .call hd (.addItem product .one) fun _ => .call hd (.enterPromoCode " HELLO ") fun _ => ?_
  exact .call hd (.switchCart none none) fun _ => .done ()

/-- Two requests shop at the same time, and one of them finds no price. -/
theorem carts_wellFormed_shopping :
    let m := (Machine.start Race.dawn (["pen", "cup"].map Desk.kiosk.shopping)).follow
      (List.replicate 110 [0, 1]).flatten
    ∃ cs, (m.world.backend .main).store.get? Race.arena parkedAttribute = some (.carts cs) ∧
      cs.map (fun c => c.lines.map CartLine.product) = [["pen", "ink"], []] ∧
      ∀ c ∈ cs, c.WellFormed := by
  intro m
  have hshop : Desk.kiosk.IsShop := ⟨_, _, _, _, _, _, rfl⟩
  have hparked : (((m.world.backend .main).store.get? Race.arena parkedAttribute).bind
      (·.as? .carts)).map (·.map fun c => c.lines.map CartLine.product) =
        some [["pen", "ink"], []] := by
    decide +kernel
  obtain ⟨cs, hcs, hlines⟩ := Option.map_eq_some_iff.mp hparked
  obtain ⟨v, hv, hkind⟩ := Option.bind_eq_some_iff.mp hcs
  obtain rfl := Value.as?_eq_some_iff.mp hkind
  have hshift : ∀ x ∈ ["pen", "cup"].map Desk.kiosk.shopping, Desk.Shift x := by
    intro x hx
    obtain ⟨product, _, rfl⟩ := List.mem_map.mp hx
    exact Desk.shift_shopping hshop product
  have hempty : ∀ s session name, (Race.dawn.backend s).store.get? session name = none := by
    intro s session name
    cases s <;> rfl
  refine ⟨cs, hv, hlines, ?_⟩
  refine (carts_wellFormed.2 Unit Race.dawn _ m (World.calm_new _) ?_ hshift
    (Machine.reach_follow _ _) .main Race.arena parkedAttribute).2 cs hv
  intro s session name v hstored
  rw [hempty] at hstored
  cases hstored

end SessionCart
