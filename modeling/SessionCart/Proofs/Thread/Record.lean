import SessionCart.Proofs.Thread.Attribute
import SessionCart.Proofs.Thread.Course

/-!
# A record of what a thread has made

A value gets its number from the count of the values of its attribute. Beside what a thread knows, a
record is kept of the numbers that were dealt out to it; so it can be told whether a value was made
on the way, and not only whether it is one that could have been made.
-/

namespace SessionCart

/-! ### Numbers dealt out -/

/-- The number that an action dealt out, if it was a count. -/
def World.Action.dealt : (a : World.Action) → a.Reply → List Nat
  | .count _, n => [n]
  | _, _ => []

/-- The numbers that were dealt out on the way, in order. -/
def Event.dealt (events : List Event) : List Nat := events.flatMap fun e => e.action.dealt e.reply

namespace Routine

variable {α β : Type}

/-- An action that is no count. -/
def IsCount : Action → Prop
  | .world (.count _) => True
  | _ => False

/-- The routine has no number dealt out to it, whatever its actions are answered with. -/
def Countless : Routine α → Prop
  | done _ => True
  | fail _ => True
  | act a next => ¬IsCount a ∧ ∀ reply, (next reply).Countless

namespace Countless

theorem bind {x : Routine α} {f : α → Routine β} (hx : x.Countless) (hf : ∀ y, (f y).Countless) :
    (x >>= f).Countless := by
  induction x with
  | done y => exact hf y
  | fail e => trivial
  | act a next ih => exact ⟨hx.1, fun reply => ih reply (hx.2 reply)⟩

theorem ofExcept (e : Except Error α) : (Routine.ofExcept e).Countless := by
  cases e <;> trivial

theorem ofReply (reply : Except StoreFault α) : (Routine.ofReply reply).Countless := ofExcept _

section Store

variable (s : StoreName) (session : SessionId) (name : String)

theorem getStored : (Routine.getStored s session name).Countless := ⟨not_false, ofReply⟩

theorem setStored (value : Value) : (Routine.setStored s session name value).Countless :=
  ⟨not_false, ofReply⟩

theorem removeStored : (Routine.removeStored s session name).Countless := ⟨not_false, ofReply⟩

end Store

theorem drop (hold : Hold) : hold.drop.Countless := ⟨not_false, fun _ => trivial⟩

theorem acquire (t : TableName) (limit : Option Duration) (session : SessionId) :
    (Hold.acquire t limit session).Countless := by
  refine ⟨not_false, fun key => ⟨not_false, fun got => ?_⟩⟩
  cases got with
  | true => trivial
  | false => exact ⟨not_false, fun _ => trivial⟩

section Attribute

variable {k : Kind} (a : Attribute k) (r : RequestRef)

theorem typed (value : Option Value) : (a.typed r value).Countless := by
  rw [Attribute.typed_eq]
  exact ofExcept _

theorem cached : (a.cached r).Countless := ⟨not_false, fun _ => typed a r _⟩

theorem stored : (a.stored r).Countless := (getStored _ _ _).bind fun _ => typed a r _

theorem keep (value : Option k.Data) : (a.keep r value).Countless := by
  cases value with
  | some d => exact setStored ..
  | none => exact (removeStored ..).bind fun _ => trivial

theorem cache (value : Option k.Data) : (a.cache r value).Countless := by
  cases value <;> exact ⟨not_false, fun _ => trivial⟩

theorem writeDirectly (value : Option k.Data) (scope : Scope) :
    (a.writeDirectly r value scope).Countless := by
  rw [Attribute.writeDirectly]
  have hmark : (Routine.mark r a.name).Countless := ⟨not_false, fun _ => trivial⟩
  cases scope.session <;> cases scope.request
  · exact trivial
  · exact (cache a r value).bind fun _ => trivial
  · exact (keep a r value).bind fun _ => hmark
  · exact (keep a r value).bind fun _ => (cache a r value).bind fun _ => hmark

theorem commit (d : DraftId) (value : Option k.Data) : (a.commit r d value).Countless := by
  refine ⟨not_false, fun draft => ?_⟩
  change (if draft.closed = true then _ else _ : Routine Unit).Countless
  split
  · trivial
  · exact (writeDirectly a r value .all).bind fun _ => ⟨not_false, fun _ => trivial⟩

theorem write (value : Option k.Data) (scope : Scope) : (a.write r value scope).Countless := by
  rw [Attribute.write]
  split
  · refine ⟨not_false, fun found => ?_⟩
    cases found with
    | none => exact writeDirectly a r value scope
    | some d => exact commit a r d value
  · exact writeDirectly a r value scope

end Attribute

end Countless

end Routine

/-! ### The logic with a record -/

namespace Company

variable {C : Company} {α : Type} {g : Grip} {made : List Nat}

/-- The logic of a thread in company, with a record of the numbers dealt out to it. -/
def recorded (C : Company) : Logic (Grip × List Nat) where
  does p
    | .own a, next => next (p.1.workspace.perform a).1 (p.1.work (p.1.workspace.perform a).2, p.2)
    | .world a, next => ∀ st, C.Near p.1 st →
      C.Acts (p.1.see st) a fun reply g' => next reply (g', p.2 ++ a.dealt reply)
  mono {_ a _ _} hnext h := by
    cases a with
    | own a => exact hnext _ _ h
    | world a => exact fun st hst => Acts.mono C (fun reply _ => hnext reply _) (h st hst)

/-- What counts nothing goes on as without a record, and leaves the record as it is. -/
theorem recorded_of_countless {x : Routine α} (hx : x.Countless)
    {Q : Except Failure α → Grip → Prop} (h : C.logic.wp Q x g) :
    C.recorded.wp (fun out p => p.2 = made ∧ Q out p.1) x (g, made) := by
  induction x generalizing g with
  | done y => exact ⟨rfl, h⟩
  | fail f => exact ⟨rfl, h⟩
  | act a next ih =>
    cases a with
    | own a => exact ih _ (hx.2 _) h
    | world a =>
      have hdealt : ∀ reply : a.Reply, a.dealt reply = [] := by
        intro reply
        cases a with
        | count label => exact absurd trivial hx.1
        | _ => rfl
      intro st hst
      refine Acts.mono C (fun reply g' hnext => ?_) (h st hst)
      dsimp only
      rw [hdealt, List.append_nil]
      exact ih reply (hx.2 reply) hnext

/-- What is so with a record is so without it. -/
theorem wp_of_recorded {x : Routine α} {Q : Except Failure α → Grip → Prop}
    (h : C.recorded.wp (fun out p => Q out p.1) x (g, made)) : C.logic.wp Q x g := by
  induction x generalizing g made with
  | done y => exact h
  | fail f => exact h
  | act a next ih =>
    cases a with
    | own a => exact ih _ h
    | world a => exact fun st hst => Acts.mono C (fun reply _ => ih reply) (h st hst)

theorem recorded_request {Q : Except Failure Request → Grip × List Nat → Prop} {r : RequestRef}
    (h : Q (.ok (g.workspace.request r.id)) (g, made)) :
    C.recorded.wp Q (Routine.request r) (g, made) := h

theorem recorded_create {k : Kind} {a : Attribute k} {r : RequestRef}
    {Q : Except Failure k.Data → Grip × List Nat → Prop}
    (h : ∀ n g₁, C.Drift g g₁ →
      Q ((a.make n (g.workspace.request r.id)).mapError .panic) (g₁, made ++ [n])) :
    C.recorded.wp Q (a.create r) (g, made) := by
  rw [Attribute.create, Logic.wp_bind]
  intro st hst n
  have hn := h n _ (.see hst)
  dsimp only [Logic.wp_done]
  rw [Logic.wp_bind]
  refine recorded_request ?_
  dsimp only [Grip.see]
  cases hmake : a.make n (g.workspace.request r.id) with
  | ok d => rwa [hmake] at hn
  | error p => rwa [hmake] at hn

theorem recorded_drop {Q : Except Failure Unit → Grip × List Nat → Prop} {hold : Hold} {held : Bool}
    (hmem : (hold, held) ∈ g.tickets)
    (hdone : ∀ g₁, C.Drift g g₁ → Q (.ok ()) (g₁.leave hold, made)) :
    C.recorded.wp Q hold.drop (g, made) := by
  have hdrop : C.logic.wp (fun out g' => Q out (g', made)) hold.drop g := wp_drop hmem hdone
  refine Logic.wp_mono ?_ (recorded_of_countless (.drop hold) hdrop)
  rintro _ ⟨_, _⟩ ⟨rfl, hout⟩
  exact hout

theorem recorded_acquire {Q : Except Failure Hold → Grip × List Nat → Prop} {t : TableName}
    {limit : Option Duration} {session : SessionId}
    (hexpire : ∀ e g₁, C.Drift g g₁ → Q (.error e) (g₁, made))
    (hgot : ∀ hold g₁, C.Drift g g₁ → (∀ e ∈ g₁.tickets, e.1 ≠ hold) →
      Q (.ok hold) (g₁.take hold, made)) :
    C.recorded.wp Q (Hold.acquire t limit session) (g, made) := by
  have hacquire : C.logic.wp (fun out g' => Q out (g', made)) (Hold.acquire t limit session) g :=
    wp_acquire (fun _ => hexpire _) fun _ => hgot _
  refine Logic.wp_mono ?_ (recorded_of_countless (.acquire ..) hacquire)
  rintro _ ⟨_, _⟩ ⟨rfl, hout⟩
  exact hout

variable {i : ThreadId} {others : World → World → Prop}

/-- **The record is so.** Whatever the others do, a course goes as the logic says, and the record has
the numbers of its counts. -/
theorem recorded_course (hothers : C.Bounds i others) {r rest : Routine α} {w w' : World}
    {l l' : Workspace} {events : List Event} (hcourse : r.Course i others w l events rest w' l')
    (hfits : g.Fits C i w) (hl : g.workspace = l)
    {Q : Except Failure α → Grip × List Nat → Prop} (hwp : C.recorded.wp Q r (g, [])) :
    ∃ g' : Grip, g'.Fits C i w' ∧ g'.workspace = l' ∧
      C.recorded.wp Q rest (g', Event.dealt events) := by
  have happend : ∀ (past : List Event) (e : Event),
      Event.dealt (past ++ [e]) = Event.dealt past ++ e.action.dealt e.reply := by
    intro past e
    simp [Event.dealt]
  have hstart : g.Fits C i w ∧ g.workspace = l ∧ [] = Event.dealt [] := ⟨hfits, hl, rfl⟩
  obtain ⟨p, ⟨hfits', hl', hmade⟩, hrest⟩ :
      ∃ p : Grip × List Nat, (p.1.Fits C i w' ∧ p.1.workspace = l' ∧
        p.2 = Event.dealt ([] ++ events)) ∧ C.recorded.wp Q rest p := by
    refine hcourse.simulate (R := fun p w l past => p.1.Fits C i w ∧ p.1.workspace = l ∧
      p.2 = Event.dealt past) ?own ?world ?expire hstart hwp
    case own =>
      rintro ⟨g, made⟩ w l past a next ⟨hfits, rfl, hmade⟩ hnext
      refine ⟨(g.work (g.workspace.perform a).2, made), ⟨?_, rfl, hmade⟩, hnext⟩
      exact ⟨hfits.sound, hfits.tickets_eq, hfits.gone, hfits.storage_eq, hfits.calm⟩
    case world =>
      rintro ⟨g, made⟩ w w₁ w₂ l past a reply next ⟨hfits, rfl, rfl⟩ hacted hperform hdoes
      obtain ⟨st, hnear, hfits₁⟩ := hothers _ _ _ hacted hfits
      obtain ⟨g', hnext, hworkspace, hfits'⟩ := hfits₁.perform (hdoes st hnear) hperform
      exact ⟨_, ⟨hfits', hworkspace, (happend past ⟨a, reply, w₁⟩).symm⟩, hnext⟩
    case expire =>
      rintro ⟨g, made⟩ w w₁ l past a reply next ⟨hfits, rfl, rfl⟩ hacted hexpired hdoes
      obtain ⟨st, hnear, hfits₁⟩ := hothers _ _ _ hacted hfits
      refine ⟨(g.see st, Event.dealt past ++ a.dealt reply), ⟨hfits₁, rfl, ?_⟩,
        Acts.expire C (hdoes st hnear) hexpired⟩
      exact (happend past ⟨a, reply, w₁⟩).symm
  obtain ⟨g', made⟩ := p
  subst hmade
  exact ⟨g', hfits', hl', hrest⟩

end Company

end SessionCart
