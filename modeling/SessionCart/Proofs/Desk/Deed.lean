import SessionCart.Proofs.Desk.Errand
import SessionCart.Proofs.Thread.Dealing

/-!
# What a thread does for its requests

A thread does one deed after the other, each for one of its requests or none: it reads and writes
attributes, works in update sections, and runs errands at a desk. Between the actions of a deed the
others may do anything. A diary says which deeds were done, what came of them, and what they did to
the shared state.
-/

namespace SessionCart

namespace Desk

open Attribute

variable {d : Desk} {r : RequestRef} {free : String → Prop}

/-! ### Errands as dealings with the cart -/

theorem idle_find (k : Kind) (name : String) : d.cart.Idle r (d.find r k name) := by
  refine .bind .getStored fun found => ?_
  cases found with
  | none => exact .done none
  | some v =>
    dsimp only
    cases v.as? k with
    | some x => exact .done (some x)
    | none => exact .fail _

theorem deals_locked {α : Type} {x : Routine α} (hx : d.cart.Deals r free x) :
    d.cart.Deals r free (d.locked r x) :=
  .bind (Idle.acquire _ _ _).deals fun hold => hx.ensuring (.drop hold)

theorem Akin.deals_of_mem (hname : d.cart.name = cartAttribute) {Γ : List (Section .cart × Section .cart)}
    {α : Type} {x x' : Routine α} (h : Akin d r free Γ x x')
    (hΓ : ∀ p ∈ Γ, p.1.subject = d.cart ∧ p.1.request = r) : d.cart.Deals r free x := by
  induction h with
  | done y => exact (Idle.done y).deals
  | fail f => exact (Idle.fail f).deals
  | bind _ _ ihx ihf => exact .bind (ihx hΓ) fun y => ihf y hΓ
  | locked _ ih => exact deals_locked (ih hΓ)
  | within _ ih =>
    refine Section.deals_within fun s hsubject hrequest => ih s s fun p hp => ?_
    rcases List.mem_cons.mp hp with rfl | hp
    · exact ⟨hsubject, hrequest⟩
    · exact hΓ p hp
  | read policy creating scope => exact .read policy creating scope
  | write value => exact .write fun hsession => by cases hsession
  | forget hfree => exact .write fun _ _ => hfree
  | create => exact Idle.create.deals
  | find k name => exact (idle_find k name).deals
  | put value hput => exact (Idle.setStored (hname ▸ hput) value).deals
  | removeAttribute hremove =>
    exact (Idle.bind (.removeStored (hname ▸ hremove)) fun _ => .done ()).deals
  | invalidate => exact Idle.invalidate.deals
  | @note _ name value hnote hfree =>
    intro i others w l events out w' l' h hr
    obtain ⟨rfl, -, -, rfl⟩ := h.of_own.of_done
    exact Dealing.keep hr (some value) (.inl hfree)
  | copy hs => exact (Section.idle_copy _).deals
  | @commit _ s s' c hs =>
    obtain ⟨hsubject, hrequest⟩ := hΓ _ hs
    have hcommit : s.subject.Deals s.request free (s.commit c) := Section.deals_commit s c
    rwa [hsubject, hrequest] at hcommit
  | discard hs => exact (Section.idle_discard _).deals
  | close hs => exact (Section.idle_close _).deals

/-- What opens no section but its own deals with the cart. -/
theorem Akin.deals (hname : d.cart.name = cartAttribute) {α : Type} {x x' : Routine α}
    (h : Akin d r free [] x x') : d.cart.Deals r free x :=
  h.deals_of_mem hname fun _ hp => (List.not_mem_nil hp).elim

section Clear

variable {i : ThreadId} {others : World → World → Prop} {w w' : World} {l l' : Workspace}
  {events : List Event} {α : Type}

theorem written_change {edit : Cart.Edit α} {s : Section .cart} {out : α × Cart}
    (h : (change edit s).Course i others w l events (.ended (.ok out)) w' l') :
    s.subject.Written s.request events := by
  rcases h.of_bind with ⟨c, e₁, w₁, l₁, e₂, -, hrest, rfl⟩ | ⟨e, -, he⟩
  case inr => cases he
  rcases hedit : edit c with ⟨answer, changed⟩
  rw [hedit] at hrest
  cases answer with
  | error f =>
    cases f with
    | error e =>
      rcases hrest.of_bind with ⟨u, _, _, _, _, -, hraise, -⟩ | ⟨e, -, he⟩
      · cases hraise.of_fail.2.1
      · cases he
    | panic p => cases hrest.of_fail.2.1
  | ok y =>
    replace hrest : (s.commit changed >>= fun committed => s.close >>= fun _ =>
      .done (y, committed)).Course i others w₁ l₁ e₂ (.ended (.ok out)) w' l' := hrest
    rcases hrest.of_bind with ⟨committed, e₃, w₂, l₂, e₄, hcommit, -, rfl⟩ | ⟨e, -, he⟩
    case inr => cases he
    rcases hcommit.of_bind with ⟨u, e₅, w₃, l₃, e₆, hwrite, -, rfl⟩ | ⟨e, -, he⟩
    case inr => cases he
    rcases course_commit hwrite with ⟨⟨e, he⟩, -⟩ | ⟨-, hwritten, -⟩
    · cases he
    · simp [hwritten]

theorem written_update {edit : Cart.Edit α} {out : α × Cart} (hr : r.id < l.requests.length)
    (h : (d.update r edit).Course i others w l events (.ended (.ok out)) w' l') :
    d.cart.Written r events := by
  rw [update_eq] at h
  rcases h.of_bind with ⟨s, before, w₁, l₁, after, hstart, hbody, rfl⟩ | ⟨e, -, he⟩
  case inr => cases he
  obtain ⟨hsubject, hrequest⟩ := (Section.course_start hr hstart).bound s rfl
  obtain ⟨first, e₁, w₂, l₂, last, e₂, hchange, -, rfl, hout⟩ := hbody.of_ensuring
  have hfirst : first = .ok out := by
    cases last with
    | ok u => exact hout.symm
    | error e => cases hout
  subst hfirst
  have hwritten := written_change hchange
  rw [hsubject, hrequest] at hwritten
  simp [hwritten]

/-- Clearing a cart touches its cached value only once storage has taken the cleared one. -/
theorem deals_clear (hname : d.cart.name = cartAttribute) (hlogin : free anonymousLoginAttribute) :
    d.cart.Deals r free (d.clear r) := by
  refine deals_locked ?_
  intro i others w l events out w' l' h hr
  have hupdate : d.cart.Deals r free (d.update r fun c => (.ok (), c.clear)) :=
    (Akin.update _).deals hname
  rcases h.of_bind with ⟨y, before, w₁, l₁, after, hbefore, hafter, rfl⟩ | ⟨e, hbefore, rfl⟩
  · have hfirst := hupdate hbefore hr
    refine Dealing.of_written ((hfirst.mono fun _ => .inr).trans ?_)
      (by simp [written_update hr hbefore])
    refine Deals.bind (idle_find _ _).deals (fun found => ?_) hafter (hfirst.length_eq ▸ hr)
    cases found with
    | none => exact (Idle.done ()).deals
    | some login =>
      dsimp only
      split
      · exact (Akin.forgetAnonymous login (.inl rfl) (.inr hlogin)).deals hname
      · exact (Idle.done ()).deals
  · exact hupdate hbefore hr

/-- An errand deals with the cart, and is free to touch the cached values that it notes. -/
theorem deals_errand (hname : d.cart.name = cartAttribute) (e : Errand) :
    d.cart.Deals r (e.notes d) (e.routine d r) := by
  by_cases hclear : e = .clear ∨ e = .destroy
  · rcases hclear with rfl | rfl
    · exact deals_clear hname rfl
    · refine deals_locked (.bind (deals_clear hname rfl) fun _ => ?_)
      exact (Akin.bind (.write none) fun _ => .removeAttributes (by decide)).deals hname
  · exact (Akin.errand e (fun _ h => h) fun h => absurd h hclear).deals hname

end Clear

end Desk

/-! ### Deeds -/

/-- What a thread can do for its requests. -/
inductive Deed
  | accept (session : SessionId) (isNew : Bool)
  | read {k : Kind} (a : Attribute k) (r : RequestRef) (policy : ReadPolicy) (creating : Bool)
    (scope : Scope)
  | write {k : Kind} (a : Attribute k) (r : RequestRef) (value : Option k.Data) (scope : Scope)
  | start {k : Kind} (a : Attribute k) (r : RequestRef)
  | copy {k : Kind} (s : Section k)
  | commit {k : Kind} (s : Section k) (value : k.Data)
  | discard {k : Kind} (s : Section k)
  | close {k : Kind} (s : Section k)
  | drop {k : Kind} (s : Section k)
  | hold {k : Kind} (a : Attribute k) (r : RequestRef)
  | release (h : Hold)
  | mark (r : RequestRef) (name : String)
  | cache (r : RequestRef) (name : String) (value : Value)
  | uncache (r : RequestRef) (name : String)
  | errand (d : Desk) (r : RequestRef) (e : Desk.Errand)

namespace Deed

abbrev Answer : Deed → Type
  | accept .. => RequestRef
  | @read k .. => Option k.Data
  | @start k .. => Section k
  | @copy k _ | @commit k .. => k.Data
  | hold .. => Hold
  | release _ => Bool
  | errand _ _ e => e.Answer
  | _ => Unit

def routine : (e : Deed) → Routine e.Answer
  | accept session isNew => Routine.accept { Request.new session with isNew := isNew }
  | read a r policy creating scope => a.read r policy creating scope
  | write a r value scope => a.write r value scope
  | start a r => Section.start a r
  | copy s => s.copy
  | commit s value => s.commit value
  | discard s => s.discard
  | close s => s.close
  | drop s => s.drop
  | hold a r => a.hold r
  | release h => h.release
  | mark r name => Routine.mark r name
  | cache r name value => Routine.cache r name value
  | uncache r name => Routine.uncache r name
  | errand d r e => e.routine d r

/-- The request that it is done for. -/
def request? : Deed → Option RequestRef
  | accept .. | release _ => none
  | read _ r .. | write _ r .. | start _ r | hold _ r => some r
  | copy s | commit s _ | discard s | close s | drop s => some s.request
  | mark r _ | cache r .. | uncache r _ | errand _ r _ => some r

/-- The request is one of the thread's, and a desk deals in shopping carts. -/
structure Fit (e : Deed) (l : Workspace) : Prop where
  known : ∀ r, e.request? = some r → r.id < l.requests.length
  name_eq : ∀ d r errand, e = .errand d r errand → d.cart.name = cartAttribute

end Deed

/-- A deed that is done: what the thread had to itself before, what came of it, and the actions on
the shared state. -/
structure Done where
  deed : Deed
  before : Workspace
  out : Except Failure deed.Answer
  events : List Event

/-- The deeds of a thread, one after the other. The others act in between and meanwhile. -/
inductive Diary (i : ThreadId) (others : World → World → Prop) (w : World) (l : Workspace) :
    List Done → World → Workspace → Prop
  | blank : Diary i others w l [] w l
  | others {entries : List Done} {w₁ w₂ : World} {l₁ : Workspace} :
    Diary i others w l entries w₁ l₁ → others w₁ w₂ → Diary i others w l entries w₂ l₁
  | deed {entries : List Done} {w₁ w₂ : World} {l₁ l₂ : Workspace} {deed : Deed}
    {events : List Event} {out : Except Failure deed.Answer} : Diary i others w l entries w₁ l₁ →
    deed.Fit l₁ → deed.routine.Course i others w₁ l₁ events (.ended out) w₂ l₂ →
    Diary i others w l (entries ++ [⟨deed, l₁, out, events⟩]) w₂ l₂

end SessionCart
