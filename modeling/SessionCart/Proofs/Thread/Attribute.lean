import SessionCart.Proofs.Section.Attribute
import SessionCart.Proofs.Thread.Company

/-!
# Attributes in company

What reading, making and writing the value of an attribute does to the grip of a thread, whoever
else is at work and whichever call of a backend fails. All that can happen to it is made of a few
effects.
-/

namespace SessionCart

/-! ### Single actions -/

namespace Company

variable {C : Company} {g g₁ g₂ : Grip}

/-- A grip is another one but for what the others did, and for tickets drawn and given back. -/
structure Drift (C : Company) (g g' : Grip) : Prop where
  workspace_eq : g'.workspace = g.workspace
  tickets_eq : g'.tickets = g.tickets
  gone_subset : g.gone ⊆ g'.gone
  near : C.Near g g'.storage

namespace Drift

theorem refl (C : Company) (g : Grip) : C.Drift g g :=
  ⟨rfl, rfl, List.Subset.refl _, fun _ _ _ => rfl⟩

theorem has_eq (h : C.Drift g g₁) : g₁.Has = g.Has := by
  funext k
  rw [Grip.Has, h.tickets_eq, Grip.Has]

theorem trans (h : C.Drift g g₁) (h' : C.Drift g₁ g₂) : C.Drift g g₂ := by
  refine ⟨h'.workspace_eq.trans h.workspace_eq, h'.tickets_eq.trans h.tickets_eq,
    List.Subset.trans h.gone_subset h'.gone_subset, fun s session hleaves => ?_⟩
  rw [h'.near s session (h.has_eq ▸ hleaves), h.near s session hleaves]

theorem see {st : Storage} (h : C.Near g st) : C.Drift g (g.see st) :=
  ⟨rfl, rfl, List.Subset.refl _, h⟩

theorem work (h : C.Drift g g₁) (l : Workspace) : C.Drift (g.work l) (g₁.work l) :=
  ⟨rfl, h.tickets_eq, h.gone_subset, h.near⟩

theorem leave (h : C.Drift g g₁) (k : Hold) : C.Drift (g.leave k) (g₁.leave k) := by
  refine ⟨h.workspace_eq, ?_, List.cons_subset_cons k h.gone_subset, fun s session hleaves => ?_⟩
  · rw [Grip.leave, h.tickets_eq, Grip.leave]
  · exact h.near s session (C.mono (fun _ hhas => (List.mem_filter.mp hhas).1) hleaves)

/-- One more level of a lock is taken and given back. -/
theorem leave_take {k : Hold} (hfresh : ∀ e ∈ g.tickets, e.1 ≠ k) (h : C.Drift (g.take k) g₁) :
    C.Drift g (g₁.leave k) := by
  have hback : C.Drift g ((g.take k).leave k) := by
    refine ⟨rfl, ?_, List.subset_cons_self .., fun _ _ _ => rfl⟩
    rw [Grip.leave, Grip.take, List.filter_append, List.filter_eq_self.mpr (by simpa using hfresh)]
    simp
  exact hback.trans (h.leave k)

/-- What the others leave alone is left alone while one more level of a lock is taken, too. -/
theorem near_take {k : Hold} (h : C.Drift g g₁) (h' : C.Drift (g₁.take k) g₂) :
    C.Near g g₂.storage := by
  intro s session hleaves
  have hhas : C.leaves (g₁.take k).Has s session := by
    refine C.mono (fun x hx => ?_) hleaves
    rw [Grip.Has, Grip.take, h.tickets_eq]
    exact List.mem_append_left _ hx
  exact (h'.near s session hhas).trans (h.near s session hleaves)

end Drift

section Actions

variable {s : StoreName} {session : SessionId} {name : String}

theorem wp_request {Q : Except Failure Request → Grip → Prop} {r : RequestRef}
    (h : Q (.ok (g.workspace.request r.id)) g) : C.logic.wp Q (Routine.request r) g := h

theorem wp_openDraft {Q : Except Failure (Option DraftId) → Grip → Prop} {k : Kind}
    (h : Q (.ok (g.workspace.openDraft? k session name)) g) :
    C.logic.wp Q (Routine.openDraft k session name) g := h

theorem wp_draft {Q : Except Failure Draft → Grip → Prop} {d : DraftId}
    (h : Q (.ok (g.workspace.draft d)) g) : C.logic.wp Q (Routine.draft d) g := h

theorem wp_handOut {Q : Except Failure Unit → Grip → Prop} {d : DraftId}
    (h : Q (.ok ()) (g.work (g.workspace.editDraft d fun e => { e with copies := e.copies + 1 }))) :
    C.logic.wp Q (Routine.handOut d) g := h

theorem wp_getStored {Q : Except Failure (Option Value) → Grip → Prop}
    (hfault : ∀ fault g₁, C.Drift g g₁ → Q (.error (.error (.storage fault))) g₁)
    (hgot : ∀ g₁ g₂, C.Drift g g₁ → C.Drift g₁ g₂ →
      Q (.ok ((g₁.storage s session).value name)) g₂) :
    C.logic.wp Q (Routine.getStored s session name) g :=
  fun _ hst => ⟨fun fault => hfault fault _ (.see hst),
    fun _ hst' => hgot _ _ (.see hst) (.see hst')⟩

theorem wp_setStored {Q : Except Failure Unit → Grip → Prop} {value : Value}
    (hfault : ∀ fault g₁, C.Drift g g₁ → Q (.error (.error (.storage fault))) g₁)
    (hdone : ∀ g₁, C.Drift g g₁ →
      Q (.ok ()) (g₁.put s session ((g₁.storage s session).set name value))) :
    C.logic.wp Q (Routine.setStored s session name value) g :=
  fun _ hst => ⟨fun fault => hfault fault _ (.see hst), hdone _ (.see hst)⟩

theorem wp_removeStored {Q : Except Failure (Option Value) → Grip → Prop}
    (hfault : ∀ fault g₁, C.Drift g g₁ → Q (.error (.error (.storage fault))) g₁)
    (hdone : ∀ g₁, C.Drift g g₁ → Q (.ok ((g₁.storage s session).value name))
      (g₁.put s session ((g₁.storage s session).remove name))) :
    C.logic.wp Q (Routine.removeStored s session name) g :=
  fun _ hst => ⟨fun fault => hfault fault _ (.see hst), hdone _ (.see hst)⟩

theorem wp_giveBack {Q : Except Failure Bool → Grip → Prop} {h : Hold} {held : Bool}
    (hmem : (h, held) ∈ g.tickets) (hdone : ∀ g₁, C.Drift g g₁ → Q (.ok held) (g₁.leave h)) :
    C.logic.wp Q h.release g :=
  fun _ hst => ⟨h.session, .inl ⟨held, hmem, hdone _ (.see hst)⟩⟩

theorem wp_giveBack_gone {Q : Except Failure Bool → Grip → Prop} {h : Hold} (hgone : h ∈ g.gone)
    (hdone : ∀ g₁, C.Drift g g₁ → Q (.ok false) g₁) : C.logic.wp Q h.release g :=
  fun _ hst => ⟨h.session, .inr ⟨hgone, hdone _ (.see hst)⟩⟩

theorem wp_drop {Q : Except Failure Unit → Grip → Prop} {h : Hold} {held : Bool}
    (hmem : (h, held) ∈ g.tickets) (hdone : ∀ g₁, C.Drift g g₁ → Q (.ok ()) (g₁.leave h)) :
    C.logic.wp Q h.drop g := by
  rw [Hold.drop, Logic.wp_bind]
  exact wp_giveBack hmem hdone

theorem leave_draw {k : Hold} (hfresh : ∀ e ∈ g.tickets, e.1 ≠ k) :
    C.Drift g ((g.draw k).leave k) := by
  refine ⟨rfl, ?_, List.subset_cons_self .., fun _ _ _ => rfl⟩
  rw [Grip.leave, Grip.draw, List.filter_append, List.filter_eq_self.mpr (by simpa using hfresh)]
  simp

theorem enter_draw {k : Hold} (hfresh : ∀ e ∈ g.tickets, e.1 ≠ k) :
    (g.draw k).enter k = g.take k := by
  have hsame : g.tickets.map (fun e => if e.1 = k then (e.1, true) else e) = g.tickets := by
    refine (List.map_congr_left fun e he => ?_).trans (List.map_id _)
    rw [if_neg (hfresh e he), id]
  simp [Grip.enter, Grip.draw, Grip.take, hsame]

/-- A lock is got or not; what happens meanwhile happens before it is got. -/
theorem wp_acquire {Q : Except Failure Hold → Grip → Prop} {t : TableName}
    {limit : Option Duration} (hexpire : limit.isSome = true → ∀ g₁, C.Drift g g₁ →
      Q (.error (.error (.lockTimeout session (limit.getD ⟨0⟩)))) g₁)
    (hgot : ∀ key g₁, C.Drift g g₁ → (∀ e ∈ g₁.tickets, e.1 ≠ ⟨t, session, key⟩) →
      Q (.ok ⟨t, session, key⟩) (g₁.take ⟨t, session, key⟩)) :
    C.logic.wp Q (Hold.acquire t limit session) g := by
  intro st hst key hfresh st' hst'
  have hlater : C.Drift g (g.see st') := by
    refine .see fun s' session' hleaves => ?_
    have hhas : C.leaves ((g.see st).draw ⟨t, session, key⟩).Has s' session' :=
      C.mono (fun _ => List.mem_append_left _) hleaves
    exact (hst' s' session' hhas).trans (hst s' session' hleaves)
  refine ⟨session, by simp [Grip.draw, Grip.see], ?_, fun hlimit => ?_⟩
  · have henter := enter_draw (g := g.see st') hfresh
    change ((g.see st).draw _ |>.see st').enter _ = _ at henter
    dsimp only
    rw [henter]
    exact hgot key _ hlater hfresh
  · intro st'' hst''
    refine ⟨session, .inl ⟨false, by simp [Grip.draw, Grip.see], hexpire hlimit _ ?_⟩⟩
    have hback := leave_draw (C := C) (g := g.see st') hfresh
    refine (hlater.trans hback).trans (Drift.leave (g := (g.see st').draw _) ?_ _)
    exact .see hst''

end Actions

end Company

/-! ### What an attribute writes -/

/-- The shelf with a value, or without one. -/
def Shelf.assign (s : Shelf) (name : String) : Option Value → Shelf
  | some v => s.set name v
  | none => s.remove name

@[simp]
theorem Shelf.value_assign (s : Shelf) (name : String) (value : Option Value) (other : String) :
    (s.assign name value).value other = if name = other then value else s.value other := by
  cases value <;> rfl

/-- What is stored of an attribute for a request, as far as the thread knows. -/
def Grip.stored (g : Grip) {k : Kind} (a : Attribute k) (r : RequestRef) : Option Value :=
  (g.storage a.store r.session).value a.name

namespace Workspace

/-- A request caches a value, or no longer has one cached. -/
def keep (l : Workspace) (r : RequestRef) (name : String) : Option Value → Workspace
  | some v => l.editRequest r.id (·.set name v)
  | none => l.editRequest r.id (·.remove name)

/-- A request has made a session write. -/
def wrote (l : Workspace) (r : RequestRef) (name : String) (scope : Scope) (value : Option Value) :
    Workspace :=
  (if scope.request then l.keep r name value else l).editRequest r.id (·.markChanged name)

/-- A draft records a value that has been written. -/
def record (l : Workspace) (d : DraftId) (value : Option Value) : Workspace :=
  l.editDraft d fun e => { e with current := value, committed := true }

theorem exists_keep (l : Workspace) (r : RequestRef) (name : String) (value : Option Value) :
    ∃ f, l.keep r name value = l.editRequest r.id f := by
  cases value <;> exact ⟨_, rfl⟩

theorem exists_wrote (l : Workspace) (r : RequestRef) (name : String) (scope : Scope)
    (value : Option Value) : ∃ f, l.wrote r name scope value = l.editRequest r.id f := by
  rw [wrote]
  split
  · obtain ⟨f, hf⟩ := l.exists_keep r name value
    rw [hf]
    exact ⟨(·.markChanged name) ∘ f, by simp [editRequest, List.modify_modify_eq]⟩
  · exact ⟨_, rfl⟩

end Workspace

namespace Company

variable {C : Company} {k : Kind} {a : Attribute k} {r : RequestRef} {g : Grip}

theorem wp_cached {Q : Except Failure (Option k.Data) → Grip → Prop}
    (h : Q ((k.decode r.session a.name ((g.workspace.request r.id).get? a.name)).mapError .error)
      g) : C.logic.wp Q (a.cached r) g := by
  rw [Attribute.cached, Logic.wp_bind]
  change C.logic.wp Q (a.typed r ((g.workspace.request r.id).get? a.name)) g
  rw [Attribute.typed_eq, Logic.wp_ofExcept]
  exact h

theorem wp_stored {Q : Except Failure (Option k.Data) → Grip → Prop}
    (hfault : ∀ fault g₁, C.Drift g g₁ → Q (.error (.error (.storage fault))) g₁)
    (hgot : ∀ g₁ g₂, C.Drift g g₁ → C.Drift g₁ g₂ →
      Q ((k.decode r.session a.name (g₁.stored a r)).mapError .error) g₂) :
    C.logic.wp Q (a.stored r) g := by
  rw [Attribute.stored, Logic.wp_bind]
  refine wp_getStored hfault fun g₁ g₂ h₁ h₂ => ?_
  dsimp only
  rw [Attribute.typed_eq, Logic.wp_ofExcept]
  exact hgot g₁ g₂ h₁ h₂

theorem wp_create {Q : Except Failure k.Data → Grip → Prop}
    (h : ∀ n g₁, C.Drift g g₁ →
      Q ((a.make n (g.workspace.request r.id)).mapError .panic) g₁) :
    C.logic.wp Q (a.create r) g := by
  rw [Attribute.create, Logic.wp_bind]
  intro st hst n
  have hn := h n _ (.see hst)
  dsimp only [Logic.wp_done]
  rw [Logic.wp_bind]
  refine wp_request ?_
  dsimp only [Grip.see]
  cases hmake : a.make n (g.workspace.request r.id) with
  | ok d => rwa [hmake] at hn
  | error p => rwa [hmake] at hn

theorem wp_cache {Q : Except Failure Unit → Grip → Prop} {value : Option k.Data}
    (h : Q (.ok ()) (g.work (g.workspace.keep r a.name (value.map (.of k))))) :
    C.logic.wp Q (a.cache r value) g := by
  cases value <;> exact h

theorem wp_keep {Q : Except Failure Unit → Grip → Prop} {value : Option k.Data}
    (hfault : ∀ fault g₁, C.Drift g g₁ → Q (.error (.error (.storage fault))) g₁)
    (hdone : ∀ g₁, C.Drift g g₁ → Q (.ok ()) (g₁.put a.store r.session
      ((g₁.storage a.store r.session).assign a.name (value.map (.of k))))) :
    C.logic.wp Q (a.keep r value) g := by
  cases value with
  | some d => exact wp_setStored hfault hdone
  | none =>
    change C.logic.wp Q (Routine.removeStored a.store r.session a.name >>= fun _ => .done ()) g
    rw [Logic.wp_bind]
    exact wp_removeStored hfault hdone

/-- A session write: refused by storage, or made in all places of the scope. -/
theorem wp_writeDirectly {Q : Except Failure Unit → Grip → Prop} {value : Option k.Data}
    {scope : Scope} (hscope : scope.session = true)
    (hfault : ∀ fault g₁, C.Drift g g₁ → Q (.error (.error (.storage fault))) g₁)
    (hdone : ∀ g₁, C.Drift g g₁ → Q (.ok ()) ((g₁.put a.store r.session
      ((g₁.storage a.store r.session).assign a.name (value.map (.of k)))).work
        (g.workspace.wrote r a.name scope (value.map (.of k))))) :
    C.logic.wp Q (a.writeDirectly r value scope) g := by
  rw [Attribute.writeDirectly, hscope, if_pos rfl, Logic.wp_bind]
  refine wp_keep hfault fun g₁ h₁ => ?_
  have hlast := hdone g₁ h₁
  rw [← h₁.workspace_eq] at hlast
  cases hrequest : scope.request with
  | true =>
    rw [Workspace.wrote, hrequest, if_pos rfl] at hlast
    change C.logic.wp Q (a.cache r value >>= fun _ => Routine.mark r a.name) _
    rw [Logic.wp_bind]
    exact wp_cache hlast
  | false =>
    rw [Workspace.wrote, hrequest, if_neg (by decide)] at hlast
    exact hlast

theorem wp_writeDirectly_request {Q : Except Failure Unit → Grip → Prop} {value : Option k.Data}
    {scope : Scope} (hscope : scope.session = false)
    (hdone : Q (.ok ()) (g.work (if scope.request then
      g.workspace.keep r a.name (value.map (.of k)) else g.workspace))) :
    C.logic.wp Q (a.writeDirectly r value scope) g := by
  rw [Attribute.writeDirectly, hscope]
  cases hrequest : scope.request with
  | true =>
    rw [hrequest] at hdone
    change C.logic.wp Q (a.cache r value >>= fun _ => .done ()) g
    rw [Logic.wp_bind]
    exact wp_cache hdone
  | false =>
    rw [hrequest] at hdone
    exact hdone

/-- A commit: too late, or refused by storage, or made in both places and in the draft. -/
theorem wp_commit {Q : Except Failure Unit → Grip → Prop} {d : DraftId} {value : Option k.Data}
    (hclosed : (g.workspace.draft d).closed = true →
      Q (.error (.error (.sectionClosed r.session a.name))) g)
    (hfault : (g.workspace.draft d).closed = false → ∀ fault g₁, C.Drift g g₁ →
      Q (.error (.error (.storage fault))) g₁)
    (hdone : (g.workspace.draft d).closed = false → ∀ g₁, C.Drift g g₁ →
      Q (.ok ()) ((g₁.put a.store r.session
        ((g₁.storage a.store r.session).assign a.name (value.map (.of k)))).work
          ((g.workspace.wrote r a.name .all (value.map (.of k))).record d
            (value.map (.of k))))) :
    C.logic.wp Q (a.commit r d value) g := by
  rw [Attribute.commit, Logic.wp_bind]
  change C.logic.wp Q (if (g.workspace.draft d).closed = true then _ else _) g
  cases hd : (g.workspace.draft d).closed with
  | true =>
    rw [if_pos rfl]
    exact hclosed hd
  | false =>
    rw [if_neg (by decide), Logic.wp_bind]
    exact wp_writeDirectly rfl (hfault hd) (hdone hd)

/-- A session write: a commit through the open section if there is one, and else made directly. -/
theorem wp_write {Q : Except Failure Unit → Grip → Prop} {value : Option k.Data} {scope : Scope}
    (hscope : scope.session = true)
    (hclosed : ∀ d, g.workspace.openDraft? k r.session a.name = some d →
      (g.workspace.draft d).closed = true →
      Q (.error (.error (.sectionClosed r.session a.name))) g)
    (hfault : ∀ fault g₁, C.Drift g g₁ → Q (.error (.error (.storage fault))) g₁)
    (hdirect : g.workspace.openDraft? k r.session a.name = none → ∀ g₁, C.Drift g g₁ →
      Q (.ok ()) ((g₁.put a.store r.session
        ((g₁.storage a.store r.session).assign a.name (value.map (.of k)))).work
          (g.workspace.wrote r a.name scope (value.map (.of k)))))
    (hcommit : ∀ d, g.workspace.openDraft? k r.session a.name = some d →
      (g.workspace.draft d).closed = false → ∀ g₁, C.Drift g g₁ →
      Q (.ok ()) ((g₁.put a.store r.session
        ((g₁.storage a.store r.session).assign a.name (value.map (.of k)))).work
          ((g.workspace.wrote r a.name .all (value.map (.of k))).record d
            (value.map (.of k))))) :
    C.logic.wp Q (a.write r value scope) g := by
  rw [Attribute.write, if_pos hscope, Logic.wp_bind]
  refine wp_openDraft ?_
  dsimp only
  cases hopen : g.workspace.openDraft? k r.session a.name with
  | none => exact wp_writeDirectly hscope hfault (hdirect hopen)
  | some d => exact wp_commit (hclosed d hopen) (fun _ => hfault) (hcommit d hopen)

end Company

/-! ### Effects -/

/-- What an operation on an attribute, for a request, may have done to a grip. -/
inductive Company.Effect (C : Company) {k : Kind} (a : Attribute k) (r : RequestRef) :
    Grip → Grip → Prop
  | drift {g g₁ : Grip} : C.Drift g g₁ → Effect C a r g g₁
  | edit (g : Grip) (f : Request → Request) :
    Effect C a r g (g.work (g.workspace.editRequest r.id f))
  /-- A session write while no section is open. -/
  | write (g : Grip) (value : Option Value) :
    g.workspace.openDraft? k r.session a.name = none →
    Effect C a r g (g.put a.store r.session ((g.storage a.store r.session).assign a.name value))
  /-- A commit through the open section. -/
  | commit (g : Grip) (d : DraftId) (value : Option k.Data) (f : Request → Request) :
    g.workspace.openDraft? k r.session a.name = some d →
    (g.workspace.draft d).closed = false →
    Effect C a r g ((g.put a.store r.session
      ((g.storage a.store r.session).assign a.name (value.map (.of k)))).work
        ((g.workspace.editRequest r.id f).record d (value.map (.of k))))
  | trans {g g₁ g₂ : Grip} : Effect C a r g g₁ → Effect C a r g₁ g₂ → Effect C a r g g₂

/-- The routine ends, whatever its outcome, with no more than the effects of an attribute. -/
def Company.Confines (C : Company) {k : Kind} (a : Attribute k) (r : RequestRef) {α : Type}
    (x : Routine α) : Prop :=
  ∀ g, C.logic.wp (fun _ g' => C.Effect a r g g') x g

namespace Company

variable {C : Company} {k : Kind} {a : Attribute k} {r : RequestRef} {g g₁ g₂ : Grip}

theorem Effect.tickets_eq (h : C.Effect a r g g₁) : g₁.tickets = g.tickets := by
  induction h with
  | drift h => exact h.tickets_eq
  | trans _ _ ih ih' => exact ih'.trans ih
  | _ => rfl

theorem Effect.leave (h : C.Effect a r g g₁) (held : Hold) :
    C.Effect a r (g.leave held) (g₁.leave held) := by
  induction h with
  | drift h => exact .drift (h.leave held)
  | edit g f => exact .edit (g.leave held) f
  | write g value hopen => exact .write (g.leave held) value hopen
  | commit g d value f hopen hclosed => exact .commit (g.leave held) d value f hopen hclosed
  | trans _ _ ih ih' => exact ih.trans ih'

/-- What is done under one more level of a lock leaves the same effects. -/
theorem Effect.leave_take {held : Hold} (hfresh : ∀ e ∈ g.tickets, e.1 ≠ held)
    (h : C.Effect a r (g.take held) g₁) : C.Effect a r g (g₁.leave held) :=
  (Effect.drift (.leave_take hfresh (.refl C _))).trans (h.leave held)

/-- The routine only looks: the others may act meanwhile, but it does nothing that lasts. -/
def Looks (C : Company) {α : Type} (x : Routine α) : Prop :=
  ∀ g, C.logic.wp (fun _ g' => C.Drift g g') x g

namespace Looks

variable {α : Type}

theorem done (x : α) : C.Looks (Routine.done x) := fun g => .refl C g

theorem bind {β : Type} {x : Routine α} {f : α → Routine β} (hx : C.Looks x)
    (hf : ∀ y, C.Looks (f y)) : C.Looks (x >>= f) := by
  intro g
  rw [Logic.wp_bind]
  refine Logic.wp_mono (fun out g₁ h₁ => ?_) (hx g)
  cases out with
  | error f => exact h₁
  | ok y => exact Logic.wp_mono (fun _ _ h₂ => h₁.trans h₂) (hf y g₁)

theorem cached (a : Attribute k) (r : RequestRef) : C.Looks (a.cached r) :=
  fun g => wp_cached (.refl C g)

theorem stored (a : Attribute k) (r : RequestRef) : C.Looks (a.stored r) :=
  fun _ => wp_stored (fun _ _ h => h) fun _ _ h h' => h.trans h'

theorem create (a : Attribute k) (r : RequestRef) : C.Looks (a.create r) :=
  fun _ => wp_create fun _ _ h => h

theorem look (a : Attribute k) (r : RequestRef) (policy : ReadPolicy) (c : Option k.Data) :
    C.Looks (Attribute.look (a := a) r policy c) := by
  cases policy with
  | sessionFirst => exact (stored a r).bind fun _ => done _
  | requestFirst =>
    cases c with
    | some d => exact done _
    | none => exact stored a r

end Looks

/-- The routine ends with no more than the effects of an attribute, and without any if it fails. -/
def Cleanly (C : Company) (a : Attribute k) (r : RequestRef) {α : Type} (x : Routine α) : Prop :=
  ∀ g, C.logic.wp (fun out g' => match out with
    | .ok _ => C.Effect a r g g'
    | .error _ => C.Drift g g') x g

namespace Cleanly

variable {α β : Type}

theorem confines {x : Routine α} (hx : C.Cleanly a r x) : C.Confines a r x := by
  refine fun g => Logic.wp_mono (fun out g' h => ?_) (hx g)
  cases out with
  | ok y => exact h
  | error f => exact .drift h

theorem done (x : α) : C.Cleanly a r (Routine.done x) := fun g => .drift (.refl C g)

theorem of_looks {x : Routine α} {f : α → Routine β} (hx : C.Looks x)
    (hf : ∀ y, C.Cleanly a r (f y)) : C.Cleanly a r (x >>= f) := by
  intro g
  rw [Logic.wp_bind]
  refine Logic.wp_mono (fun out g₁ h₁ => ?_) (hx g)
  cases out with
  | error f => exact h₁
  | ok y =>
    refine Logic.wp_mono (fun out g₂ h₂ => ?_) (hf y g₁)
    cases out with
    | ok z => exact (Effect.drift h₁).trans h₂
    | error f => exact h₁.trans h₂

theorem andThen {x : Routine α} {f : α → Routine β} (hx : C.Cleanly a r x)
    (hf : ∀ y g, C.logic.wp (fun out g' => (∃ z, out = .ok z) ∧ C.Effect a r g g') (f y) g) :
    C.Cleanly a r (x >>= f) := by
  intro g
  rw [Logic.wp_bind]
  refine Logic.wp_mono (fun out g₁ h₁ => ?_) (hx g)
  cases out with
  | error f => exact h₁
  | ok y =>
    refine Logic.wp_mono ?_ (hf y g₁)
    rintro _ g₂ ⟨⟨z, rfl⟩, h₂⟩
    exact h₁.trans h₂

/-- A session write goes to storage directly only while no section is open. -/
theorem write (a : Attribute k) (r : RequestRef) (value : Option k.Data) (scope : Scope) :
    C.Cleanly a r (a.write r value scope) := by
  intro g
  cases hscope : scope.session with
  | false =>
    rw [Attribute.write, hscope, if_neg (by decide)]
    refine wp_writeDirectly_request hscope ?_
    change C.Effect a r g _
    split
    · obtain ⟨f, hf⟩ := g.workspace.exists_keep r a.name (value.map (.of k))
      rw [hf]
      exact .edit g f
    · exact .drift (.refl C g)
  | true =>
    refine wp_write hscope (fun _ _ _ => .refl C g) (fun _ _ h => h) (fun hopen g₁ h₁ => ?_)
      fun d hopen hclosed g₁ h₁ => ?_
    · obtain ⟨f, hf⟩ := g.workspace.exists_wrote r a.name scope (value.map (.of k))
      rw [hf, ← h₁.workspace_eq]
      rw [← h₁.workspace_eq] at hopen
      exact ((Effect.drift h₁).trans (.write g₁ (value.map (.of k)) hopen)).trans (.edit _ f)
    · obtain ⟨f, hf⟩ := g.workspace.exists_wrote r a.name .all (value.map (.of k))
      rw [hf, ← h₁.workspace_eq]
      rw [← h₁.workspace_eq] at hopen hclosed
      exact (Effect.drift h₁).trans (.commit g₁ d value f hopen hclosed)

theorem createOnce (a : Attribute k) (r : RequestRef) (scope : Scope) :
    C.Cleanly a r (a.createOnce r scope) := by
  intro g
  rw [Attribute.createOnce, Logic.wp_bind]
  refine wp_acquire (fun _ _ h => h) fun key g₁ h₁ hfresh => ?_
  dsimp only
  rw [Logic.wp_ensuring]
  refine Logic.wp_mono ?release (of_looks (a := a) (r := r) (.stored a r) ?make _)
  case make =>
    intro found
    cases found with
    | some d => exact done _
    | none =>
      exact of_looks (.create a r) fun d =>
        (write a r _ scope).andThen fun _ g => ⟨⟨_, rfl⟩, .drift (.refl C g)⟩
  case release =>
    -- either way the lock is given back
    intro out g₂ h₂
    have htickets : g₂.tickets = (g₁.take ⟨a.table, r.session, key⟩).tickets := by
      cases out with
      | ok made => exact h₂.tickets_eq
      | error f => exact h₂.tickets_eq
    have hmem : (⟨a.table, r.session, key⟩, true) ∈ g₂.tickets := by
      rw [htickets]
      simp [Grip.take]
    refine wp_drop hmem fun g₃ h₃ => ?_
    cases out with
    | ok made => exact (Effect.drift h₁).trans (.leave_take hfresh (h₂.trans (.drift h₃)))
    | error f => exact h₁.trans (.leave_take hfresh (h₂.trans h₃))

theorem wp_fill (test : Bool) (d : k.Data) (g : Grip) :
    C.logic.wp (fun out g' => (∃ z, out = .ok z) ∧ C.Effect a r g g') (do
      if test then a.cache r (some d)
      return (some d)) g := by
  cases test with
  | false => exact ⟨⟨_, rfl⟩, .drift (.refl C g)⟩
  | true =>
    obtain ⟨f, hf⟩ := g.workspace.exists_keep r a.name (some (.of k d))
    change C.logic.wp _ (a.cache r (some d) >>= fun _ => Routine.done (some d)) g
    rw [Logic.wp_bind]
    refine wp_cache ⟨⟨_, rfl⟩, ?_⟩
    rw [Option.map_some, hf]
    exact .edit g f

theorem read (a : Attribute k) (r : RequestRef) (policy : ReadPolicy) (creating : Bool)
    (scope : Scope) : C.Cleanly a r (a.read r policy creating scope) := by
  rw [Attribute.read_eq]
  refine of_looks (.cached a r) fun c => of_looks (.look a r policy c) fun found => ?_
  cases found with
  | some d =>
    refine fun g => Logic.wp_mono ?_ (wp_fill (c.isNone && scope.request) d g)
    rintro _ g' ⟨⟨z, rfl⟩, h⟩
    exact h
  | none =>
    cases creating with
    | true =>
      exact (createOnce a r scope).andThen fun made => wp_fill (!made.2 && scope.request) made.1
    | false => exact done _

end Cleanly

namespace Confines

theorem write (a : Attribute k) (r : RequestRef) (value : Option k.Data) (scope : Scope) :
    C.Confines a r (a.write r value scope) := (Cleanly.write a r value scope).confines

theorem read (a : Attribute k) (r : RequestRef) (policy : ReadPolicy) (creating : Bool)
    (scope : Scope) : C.Confines a r (a.read r policy creating scope) :=
  (Cleanly.read a r policy creating scope).confines

end Confines

end Company

end SessionCart
