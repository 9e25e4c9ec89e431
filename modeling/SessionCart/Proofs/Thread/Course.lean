import SessionCart.Proofs.Thread.Company
import SessionCart.Proofs.Thread.Terms

/-!
# What a routine does on its way

A routine goes on, action by action, whether it ever ends or not, and its actions on the shared
state are written down. What a logic says of the routine holds all along: a company may let the
thread take an action only with a grip that permits it, and terms say of each action that the
routine may take it and which refusal it met.
-/

namespace SessionCart

/-- An action on the shared state, with its answer and the world that it was taken on. -/
structure Event where
  action : World.Action
  reply : action.Reply
  world : World

namespace Event

/-- The refusal that the action was answered with. -/
def refusal? (e : Event) : Option Refusal := Refusal.met? e.action e.reply

/-- The first refusal that was met. -/
def firstRefusal? (events : List Event) : Option Refusal := events.findSome? refusal?

end Event

/-! ### Courses -/

namespace Routine

variable {α : Type} {i : ThreadId} {others : World → World → Prop}

/-- The routine that is over with an outcome. -/
def ended : Except Failure α → Routine α
  | .ok a => done a
  | .error f => fail f

/-- A thread that has this routine to do on this world and workspace may come to have this rest of
it to do on another world and workspace, after these actions on the shared state. Others act before
each of them. -/
inductive Course (i : ThreadId) (others : World → World → Prop) :
    Routine α → World → Workspace → List Event → Routine α → World → Workspace → Prop
  | here (r : Routine α) (w : World) (l : Workspace) : Course i others r w l [] r w l
  | own {a : Workspace.Action} {next : a.Reply → Routine α} {w w' : World} {l l' : Workspace}
    {events : List Event} {rest : Routine α} :
    Course i others (next (l.perform a).1) w (l.perform a).2 events rest w' l' →
    Course i others (.act (.own a) next) w l events rest w' l'
  | world {a : World.Action} {next : a.Reply → Routine α} {w w₁ w₂ w' : World}
    {l l' : Workspace} {reply : a.Reply} {events : List Event} {rest : Routine α} :
    others w w₁ → w₁.perform i a = some (reply, w₂) →
    Course i others (next reply) w₂ l events rest w' l' →
    Course i others (.act (.world a) next) w l (⟨a, reply, w₁⟩ :: events) rest w' l'
  | expire {a : World.Action} {next : a.Reply → Routine α} {w w₁ w' : World}
    {l l' : Workspace} {reply : a.Reply} {events : List Event} {rest : Routine α} :
    others w w₁ → w₁.perform i a = none → a.expired? = some reply →
    Course i others (next reply) w₁ l events rest w' l' →
    Course i others (.act (.world a) next) w l (⟨a, reply, w₁⟩ :: events) rest w' l'

variable {r rest : Routine α} {w w' : World} {l l' : Workspace} {events : List Event}
  {out : Except Failure α}

/-- A course that is over has ended. -/
theorem Course.ends (hcourse : r.Course i others w l events (ended out) w' l') :
    r.Ends i others w l out w' l' := by
  generalize hrest : ended out = rest at hcourse
  induction hcourse with
  | here r w l =>
    subst hrest
    cases out with
    | ok a => exact .done a w l
    | error f => exact .fail f w l
  | own _ ih => exact .own (ih hrest)
  | world hothers hperform _ ih => exact .world hothers hperform (ih hrest)
  | expire hothers hperform hexpired _ ih => exact .expire hothers hperform hexpired (ih hrest)

/-- What has ended has had a course. -/
theorem Ends.exists_course (hends : r.Ends i others w l out w' l') :
    ∃ events, r.Course i others w l events (ended out) w' l' := by
  induction hends with
  | done a w l => exact ⟨[], .here ..⟩
  | fail f w l => exact ⟨[], .here ..⟩
  | own _ ih =>
    obtain ⟨events, hcourse⟩ := ih
    exact ⟨events, .own hcourse⟩
  | world hothers hperform _ ih =>
    obtain ⟨events, hcourse⟩ := ih
    exact ⟨_, .world hothers hperform hcourse⟩
  | expire hothers hperform hexpired _ ih =>
    obtain ⟨events, hcourse⟩ := ih
    exact ⟨_, .expire hothers hperform hexpired hcourse⟩

/-- A logic whose state is kept in touch with what happens says what is left to do. -/
theorem Course.simulate {σ : Type} {L : Logic σ} {R : σ → World → Workspace → List Event → Prop}
    (hown : ∀ {s w l past a next}, R s w l past → L.does s (.own a) next →
      ∃ s', R s' w (l.perform a).2 past ∧ next (l.perform a).1 s')
    (hworld : ∀ {s w w₁ w₂ l past a reply next}, R s w l past → others w w₁ →
      w₁.perform i a = some (reply, w₂) → L.does s (.world a) next →
      ∃ s', R s' w₂ l (past ++ [⟨a, reply, w₁⟩]) ∧ next reply s')
    (hexpire : ∀ {s w w₁ l past a reply next}, R s w l past → others w w₁ →
      a.expired? = some reply → L.does s (.world a) next →
      ∃ s', R s' w₁ l (past ++ [⟨a, reply, w₁⟩]) ∧ next reply s')
    (hcourse : r.Course i others w l events rest w' l') {s : σ} {past : List Event}
    (hs : R s w l past) {Q : Except Failure α → σ → Prop} (hwp : L.wp Q r s) :
    ∃ s', R s' w' l' (past ++ events) ∧ L.wp Q rest s' := by
  induction hcourse generalizing s past with
  | here r w l => exact ⟨s, by rwa [List.append_nil], hwp⟩
  | own _ ih =>
    obtain ⟨s', hs', hnext⟩ := hown hs hwp
    exact ih hs' hnext
  | world hothers hperform _ ih =>
    obtain ⟨s', hs', hnext⟩ := hworld hs hothers hperform hwp
    rw [List.append_cons]
    exact ih hs' hnext
  | expire hothers _ hexpired _ ih =>
    obtain ⟨s', hs', hnext⟩ := hexpire hs hothers hexpired hwp
    rw [List.append_cons]
    exact ih hs' hnext

end Routine

/-! ### Terms along a course -/

namespace Terms

variable {T : Terms} {i : ThreadId} {others : World → World → Prop}

theorem told_of_perform (hfit : ∀ v, T.fit v) {a : World.Action} {w w' : World} {reply : a.Reply}
    (hperform : w.perform i a = some (reply, w')) : T.told (.world a) reply := by
  cases a with
  | get => exact fun v _ => hfit v
  | remove => exact fun v _ => hfit v
  | await t ticket limit =>
    obtain ⟨l, _, heq⟩ := Option.map_eq_some_iff.mp hperform
    cases heq
    exact fun h => by cases h
  | _ => trivial

theorem told_of_expired {a : World.Action} {reply : a.Reply} (hexpired : a.expired? = some reply) :
    T.told (.world a) reply := by
  cases a with
  | await t ticket limit =>
    cases limit with
    | none => cases hexpired
    | some d => exact fun _ => rfl
  | _ => cases hexpired

theorem told_own (hfit : ∀ v, T.fit v) (a : Workspace.Action) (reply : a.Reply) :
    T.told (.own a) reply := by
  cases a with
  | request => exact fun _ v _ => hfit v
  | draft => exact fun v _ => hfit v
  | _ => trivial

/-- Actions that kept to the terms, and the first refusal among their answers. -/
structure Kept (T : Terms) (first : Option Refusal) (past : List Event) : Prop where
  first_eq : first = Event.firstRefusal? past
  may : ∀ e ∈ past, T.may (.world e.action)

theorem Kept.append {first : Option Refusal} {past : List Event} (hpast : T.Kept first past)
    {e : Event} (hmay : T.may (.world e.action)) :
    T.Kept (first.or e.refusal?) (past ++ [e]) := by
  refine ⟨?_, fun e' he' => ?_⟩
  · rw [hpast.first_eq]
    simp [Event.firstRefusal?]
  · rcases List.mem_append.mp he' with he' | he'
    · exact hpast.may e' he'
    · rwa [List.mem_singleton.mp he']

/-- A routine that abides by terms takes no actions but those that it may take, and reports the
first refusal that it has met. -/
theorem Abides.course (hfit : ∀ v, T.fit v) {α : Type} {V : α → Prop} {r rest : Routine α}
    (hr : T.Abides V r) {w w' : World} {l l' : Workspace} {events : List Event}
    (hcourse : r.Course i others w l events rest w' l') :
    (∀ e ∈ events, T.may (.world e.action)) ∧
      ∀ out, rest = .ended out → Refusal.reported? out = Event.firstRefusal? events := by
  obtain ⟨last, hkept, hrest⟩ : ∃ last, T.Kept last ([] ++ events) ∧ T.logic.wp
      (fun out last => last = Option.or none (Refusal.reported? out) ∧ ∀ y, out = .ok y → V y)
        rest last := by
    refine hcourse.simulate (R := fun first _ _ past => T.Kept first past) ?own ?world ?expire
      ⟨rfl, fun _ h => (List.not_mem_nil h).elim⟩ (hr none)
    case own =>
      rintro first w l past a next hpast ⟨_, hnext⟩
      refine ⟨_, ?_, hnext _ (told_own hfit a _)⟩
      rwa [met?, Option.or_none]
    case world =>
      rintro first w w₁ w₂ l past a reply next hpast _ hperform ⟨hmay, hnext⟩
      exact ⟨_, hpast.append hmay, hnext reply (told_of_perform hfit hperform)⟩
    case expire =>
      rintro first w w₁ l past a reply next hpast _ hexpired ⟨hmay, hnext⟩
      exact ⟨_, hpast.append hmay, hnext reply (told_of_expired hexpired)⟩
  refine ⟨hkept.may, ?_⟩
  rintro out rfl
  have hlast := hkept.first_eq
  rw [List.nil_append] at hlast
  cases out with
  | ok y => exact hrest.1.symm.trans hlast
  | error f => exact hrest.1.symm.trans hlast

end Terms

/-! ### Actions that need a grip -/

namespace Company

variable {C : Company} {G : Grip → World.Action → Prop} {i : ThreadId}
  {others : World → World → Prop} {α : Type} {T : Terms}

/-- The logic of a thread in company that takes an action on the shared state only with a grip that
permits it. -/
def guarded (C : Company) (G : Grip → World.Action → Prop) : Logic Grip where
  does g
    | .own a, next => next (g.workspace.perform a).1 (g.work (g.workspace.perform a).2)
    | .world a, next => ∀ st, C.Near g st → G (g.see st) a ∧ C.Acts (g.see st) a next
  mono {_ a _ _} hnext h := by
    cases a with
    | own a => exact hnext _ _ h
    | world a => exact fun st hst => ⟨(h st hst).1, Acts.mono C hnext (h st hst).2⟩

/-- A thread took an action with a grip that permitted it and fitted the world. -/
def Permitted (C : Company) (G : Grip → World.Action → Prop) (i : ThreadId) (e : Event) : Prop :=
  ∃ g : Grip, g.Fits C i e.world ∧ G g e.action

/-- Whatever the others do, each action is taken with a grip that permits it and fits the world. -/
theorem guarded_course (hothers : C.Bounds i others) {r rest : Routine α} {w w' : World}
    {l l' : Workspace} {events : List Event} (hcourse : r.Course i others w l events rest w' l')
    {g : Grip} (hfits : g.Fits C i w) (hl : g.workspace = l)
    {Q : Except Failure α → Grip → Prop} (hwp : (C.guarded G).wp Q r g) :
    (∀ e ∈ events, C.Permitted G i e) ∧
      ∃ g', g'.Fits C i w' ∧ g'.workspace = l' ∧ (C.guarded G).wp Q rest g' := by
  have hmore : ∀ {past : List Event} {e : Event}, (∀ e ∈ past, C.Permitted G i e) →
      C.Permitted G i e → ∀ e' ∈ past ++ [e], C.Permitted G i e' := by
    intro past e hpast he e' he'
    rcases List.mem_append.mp he' with he' | he'
    · exact hpast e' he'
    · rwa [List.mem_singleton.mp he']
  obtain ⟨g', ⟨hfits', hl', hevents⟩, hrest⟩ :
      ∃ g' : Grip, (g'.Fits C i w' ∧ g'.workspace = l' ∧ ∀ e ∈ [] ++ events, C.Permitted G i e) ∧
        (C.guarded G).wp Q rest g' := by
    refine hcourse.simulate
      (R := fun g w l past => g.Fits C i w ∧ g.workspace = l ∧ ∀ e ∈ past, C.Permitted G i e)
      ?own ?world ?expire ⟨hfits, hl, fun _ h => (List.not_mem_nil h).elim⟩ hwp
    case own =>
      rintro g w l past a next ⟨hfits, rfl, hpast⟩ hnext
      refine ⟨g.work (g.workspace.perform a).2, ⟨?_, rfl, hpast⟩, hnext⟩
      exact ⟨hfits.sound, hfits.tickets_eq, hfits.gone, hfits.storage_eq, hfits.calm⟩
    case world =>
      rintro g w w₁ w₂ l past a reply next ⟨hfits, rfl, hpast⟩ hacted hperform hdoes
      obtain ⟨st, hnear, hfits₁⟩ := hothers _ _ _ hacted hfits
      obtain ⟨hG, hacts⟩ := hdoes st hnear
      obtain ⟨g', hnext, hworkspace, hfits'⟩ := hfits₁.perform hacts hperform
      exact ⟨g', ⟨hfits', hworkspace, hmore hpast ⟨_, hfits₁, hG⟩⟩, hnext⟩
    case expire =>
      rintro g w w₁ l past a reply next ⟨hfits, rfl, hpast⟩ hacted hexpired hdoes
      obtain ⟨st, hnear, hfits₁⟩ := hothers _ _ _ hacted hfits
      obtain ⟨hG, hacts⟩ := hdoes st hnear
      exact ⟨_, ⟨hfits₁, rfl, hmore hpast ⟨_, hfits₁, hG⟩⟩, Acts.expire C hacts hexpired⟩
  exact ⟨hevents, g', hfits', hl', hrest⟩

theorem Acts.mono_of_told (hfit : ∀ v, T.fit v) {g : Grip} {a : World.Action}
    {next next' : a.Reply → Grip → Prop}
    (hnext : ∀ reply g', T.told (.world a) reply → next reply g' → next' reply g')
    (h : C.Acts g a next) : C.Acts g a next' := by
  cases a with
  | get s session name =>
    have htold : ∀ reply, T.told (.world (.get s session name)) reply := fun _ v _ => hfit v
    exact Acts.mono C (fun reply g' => hnext reply g' (htold reply)) h
  | remove s session name =>
    have htold : ∀ reply, T.told (.world (.remove s session name)) reply := fun _ v _ => hfit v
    exact Acts.mono C (fun reply g' => hnext reply g' (htold reply)) h
  | await t key limit =>
    obtain ⟨session, hmem, hgot, hexpired⟩ := h
    exact ⟨session, hmem, hnext _ _ (fun hfalse => by cases hfalse) hgot,
      fun hlimit => hnext _ _ (fun _ => hlimit) (hexpired hlimit)⟩
  | _ => exact Acts.mono C (fun reply g' => hnext reply g' trivial) h

/-- What need not be guarded goes on as without a guard. -/
theorem guarded_of_abides (hfit : ∀ v, T.fit v) (hG : ∀ g a, T.may (.world a) → G g a)
    {Q : Except Failure α → Grip → Prop} {P : Except Failure α → Option Refusal → Prop}
    {x : Routine α} {first : Option Refusal} (hx : T.logic.wp P x first) {g : Grip}
    (h : C.logic.wp Q x g) : (C.guarded G).wp Q x g := by
  induction x generalizing first g with
  | done y => exact h
  | fail f => exact h
  | act a next ih =>
    cases a with
    | own a => exact ih _ (hx.2 _ (Terms.told_own hfit _ _)) h
    | world a =>
      intro st hst
      refine ⟨hG _ _ hx.1, ?_⟩
      exact Acts.mono_of_told hfit (fun reply g' htold => ih reply (hx.2 reply htold)) (h st hst)

end Company

end SessionCart
