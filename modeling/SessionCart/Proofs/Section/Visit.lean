import SessionCart.Proofs.Section.Rules

/-!
# Visits

A visit is a request that may look at a value first and then changes it in an update section. Its
turn takes the stored value to the one that its section committed last, if it committed any, and
leaves it as it is otherwise.
-/

namespace SessionCart

/-- What is done in an update section. -/
inductive Edits (k : Kind)
  | copy (next : k.Data → Edits k)
  | commit (value : k.Data) (next : Edits k)
  /-- The section is closed, or else dropped. -/
  | leave (closing : Bool)

namespace Edits

variable {k : Kind}

/-- Carries the edits out in a section. The result is the value committed last. -/
def perform (s : Section k) : Edits k → (last : Option k.Data) → Routine (Option k.Data)
  | copy next, last => do
    let d ← s.copy
    perform s (next d) last
  | commit value next, _ => do
    let committed ← s.commit value
    perform s next (some committed)
  | leave closing, last => do
    if closing then s.close
    return last

/-- The value committed last by edits that begin with a working value. -/
def net : Edits k → (working : k.Data) → Option k.Data
  | copy next, d => (next d).net d
  | commit value next, _ => some ((next.net value).getD value)
  | leave _, _ => none

end Edits

/-- A request: whether it looks at the value first, and what it does in its section. -/
structure Visit (k : Kind) where
  looks : Bool
  edits : Edits k

/-- The value committed last by a visit, if any, or a failure. -/
abbrev Visit.Outcome (k : Kind) : Type := Except Failure (Option k.Data)

namespace Visit

variable {k : Kind} (a : Attribute k) (session : SessionId)

def serve (visit : Visit k) : Routine (Option k.Data) := do
  let r ← Routine.accept (.new session)
  if visit.looks then
    let _ ← a.current r false
  Section.within a r fun s => visit.edits.perform s none

def serveAll : List (Visit k) → Routine (List (Visit.Outcome k))
  | [] => return []
  | visit :: rest => do
    let out ← (visit.serve a session).attempt
    return out :: (← serveAll rest)

end Visit

/-! ### What a visit does to the stored value -/

section Effect

variable {k : Kind} (a : Attribute k) (session : SessionId)

/-- A section may start from the stored value, or from a new one where nothing is stored. -/
def Attribute.StartsFrom (stored : Option Value) (base : k.Data) : Prop :=
  stored = some (.of k base) ∨ stored = none ∧ ∃ n, a.make n (.new session) = .ok base

/-- What a turn of a visit with an outcome does to the stored value. -/
def Visit.Effect (visit : Visit k) (before after : Option Value) :
    Visit.Outcome k → Prop
  | .ok out => ∃ base, a.StartsFrom session before base ∧ visit.edits.net base = out ∧
    after = (out.map (.of k)).or before
  | .error _ => after = before

/-- The turns of a visit with an outcome: one, or none if it failed before it got the lock. -/
inductive Visit.Had (visit : Visit k) (out : Visit.Outcome k) :
    List (Shelf × Shelf) → Prop
  | turned_away (f : Failure) : out = .error f → Had visit out []
  | turn (before after : Shelf) :
    visit.Effect a session (before.value a.name) (after.value a.name) out →
    Had visit out [(before, after)]

/-- Values that are stored stay stored. -/
def Attribute.site : Site where
  session := session
  store := a.store
  table := a.table
  allows s s' := (s.value a.name).isSome = true → (s'.value a.name).isSome = true
  refl _ := id
  trans h h' := h' ∘ h

end Effect

section Spec

variable {k : Kind} {a : Attribute k} {session : SessionId}

theorem Attribute.serves (r : RequestRef) (hr : r.session = session) :
    (a.site session).Serves a r := ⟨rfl, rfl, hr⟩

theorem Attribute.allows_set (s : Shelf) (value : Value) :
    (a.site session).allows s (s.set a.name value) := by
  intro _
  simp

/-- What a thread knows when the edits of a section are done, before it gives the lock back. The
section worked on a value when they began, and had committed `last`. -/
structure Edits.Done (e : Edits k) (name : String) (stored : Option Value) (last : Option k.Data)
    (value : k.Data) (v v' : View) (out : Visit.Outcome k) : Prop where
  out_ok : ∀ o, out = .ok o → o = (e.net value).or last
  out_error : ∀ f, out = .error f → (e.net value).or last = none
  shelf_eq : v'.shelf.value name = (((e.net value).or last).map (.of k)).or stored
  tickets_eq : v'.tickets = v.tickets
  since_eq : v'.since = v.since
  turns_eq : v'.turns = v.turns

/-- The edits of a section, up to its being dropped. -/
theorem Edits.wp_perform {r : RequestRef} (hr : r.session = session) {d : DraftId} {key : TicketId}
    (e : Edits k) (stored : Option Value) (last : Option k.Data) {value : k.Data} {v : View}
    {Q : Visit.Outcome k → View → Prop}
    (hw : Section.Working ⟨a, r, d, some ⟨a.table, r.session, key⟩⟩ v.workspace value last.isSome)
    (hkey : (key, true) ∈ v.tickets) (hshelf : v.shelf.value a.name = (last.map (.of k)).or stored)
    (hQ : ∀ out v', e.Done a.name stored last value v v' out →
      ∀ l : Workspace, l.active.get? (session, a.name) = none → Q out ((v'.leave key).work l)) :
    (a.site session).wp Q (Routine.ensuring (Section.drop ⟨a, r, d, some ⟨a.table, r.session, key⟩⟩)
      (e.perform ⟨a, r, d, some ⟨a.table, r.session, key⟩⟩ last)) v := by
  subst hr
  rw [Site.wp_ensuring]
  induction e generalizing last value v with
  | copy next ih =>
    rw [perform, Site.wp_bind]
    refine Section.wp_copy hw (ih value last hw.handOut hkey hshelf fun out v' hdone => ?_)
    exact hQ out v' ⟨hdone.out_ok, hdone.out_error, hdone.shelf_eq, hdone.tickets_eq,
      hdone.since_eq, hdone.turns_eq⟩
  | commit next rest ih =>
    have hin : v.inside = true := List.any_eq_true.mpr ⟨_, hkey, rfl⟩
    rw [perform, Site.wp_bind]
    refine Section.wp_commit (Attribute.serves r rfl) hin hw (Attribute.allows_set _ _) ?_
    refine ih (some next) (hw.commit next) hkey (by simp [View.put, View.work]) ?_
    intro out v' hdone
    have hnet : ((Edits.commit next rest).net value).or last = (rest.net next).or (some next) := by
      cases hrest : rest.net next <;> simp [net, hrest]
    refine hQ out v' ⟨?_, ?_, ?_, hdone.tickets_eq, hdone.since_eq, hdone.turns_eq⟩
    · rw [hnet]
      exact hdone.out_ok
    · rw [hnet]
      exact hdone.out_error
    · rw [hnet]
      exact hdone.shelf_eq
  | leave closing =>
    have hdrop : ∀ out, (∀ o, out = .ok o → o = last) → (∀ f, out = .error f → last = none) →
        ∀ l : Workspace, l.active.get? (r.session, a.name) = none →
        Q out ((v.leave key).work l) := by
      intro out hok herror l hl
      exact hQ out v ⟨hok, herror, hshelf, rfl, rfl, rfl⟩ l hl
    cases closing with
    | false =>
      refine Section.wp_drop_working rfl rfl hkey hw ?_
      exact hdrop (.ok last) (fun o ho => (Except.ok.inj ho).symm)
        (fun _ h => by cases h) _ hw.active_closing
    | true =>
      change (a.site r.session).wp _ (Section.close _ >>= fun _ => Routine.done last) v
      rw [Site.wp_bind]
      refine Section.wp_close rfl rfl hkey hw fun out hout => ?_
      cases out with
      | ok _ =>
        refine Section.wp_drop_closed hw.closed_closing ?_
        exact hdrop (.ok last) (fun o ho => (Except.ok.inj ho).symm)
          (fun _ h => by cases h) _ hw.active_closing
      | error f =>
        have hlast : last = none := by
          cases last with
          | none => rfl
          | some d => cases hout rfl
        refine Section.wp_drop_closed hw.closed_closing ?_
        exact hdrop (.error f) (fun _ h => by cases h) (fun _ _ => hlast) _ hw.active_closing

theorem Attribute.startsFrom_of_opening {n : Nat} {request : Request} {stored : Option Value}
    {d : k.Data} (h : a.opening session n request stored = .ok d)
    (hnew : request = .new session ∨ stored.isSome = true) : a.StartsFrom session stored d := by
  cases stored with
  | some value =>
    refine .inl ?_
    rw [Attribute.opening] at h
    cases hfound : k.finds session a.name .sessionFirst (request.get? a.name) (some value) with
    | error e => simp [hfound] at h
    | ok found =>
      cases found with
      | none => cases (Kind.finds_eq_none hfound).2
      | some d' =>
        simp only [hfound, Except.ok.injEq] at h
        rw [← h]
        exact (Kind.finds_sessionFirst hfound).resolve_right fun hnone => by cases hnone.1
  | none =>
    refine .inr ⟨rfl, n, ?_⟩
    rcases hnew with rfl | hsome
    · have hmade : (a.make n (.new session)).mapError Failure.panic = .ok d := h
      cases hmake : a.make n (.new session) with
      | error p =>
        rw [hmake] at hmade
        cases hmade
      | ok d' =>
        rw [hmake] at hmade
        rw [Except.ok.inj hmade]
    · cases hsome

/-- A thread is outside, and has no section of an attribute open. -/
structure View.AtRest (v : View) (session : SessionId) (name : String) : Prop where
  tickets_eq : v.tickets = []
  closed : v.workspace.active.get? (session, name) = none

theorem Visit.wp_section (visit : Visit k) {r : RequestRef} (hr : r.session = session) {v : View}
    (hrest : v.AtRest session a.name)
    (hnew : v.workspace.request r.id = .new session ∨ (v.shelf.value a.name).isSome = true) :
    (a.site session).wp (fun out v' => v'.AtRest session a.name ∧
        ∃ had, v'.turns = v.turns ++ had ∧ visit.Had a session out had)
      (Section.within a r fun s => visit.edits.perform s none) v := by
  have hinside : v.inside = false := by simp [View.inside, hrest.tickets_eq]
  rw [Section.within, Site.wp_bind]
  refine Section.wp_start (Attribute.serves r hr) (hr ▸ hrest.closed) ?_ ?_
  · exact fun _ => ⟨hrest, [], (List.append_nil _).symm, .turned_away _ rfl⟩
  · intro key now hfresh hnow n
    rw [View.Sees, hinside, if_neg (by decide)] at hnow
    have hnone : ∀ e ∈ ([] : List (TicketId × Bool)), e.1 ≠ key := by simp
    cases hopening : a.opening r.session n (v.workspace.request r.id) (now.value a.name) with
    | error f =>
      have hleave := View.leave_of_hold (v.hold key now) hnone
        (by simp [View.hold, hrest.tickets_eq])
      dsimp only
      rw [hleave]
      refine ⟨⟨rfl, hrest.closed⟩, [(now, now)], ?_, .turn now now rfl⟩
      simp [View.hold, hinside]
    | ok d =>
      dsimp only
      have hfilled : (v.workspace.fill r a.name (now.value a.name)).drafts.length =
          v.workspace.drafts.length := by
        rw [Workspace.drafts_fill]
      refine Edits.wp_perform hr visit.edits (now.value a.name) none
        (Section.Working.of_opened a r _ hfilled) (by simp [View.work, View.hold]) rfl ?_
      intro out v' hdone l hl
      have htickets : v'.tickets = [] ++ [(key, true)] := by
        rw [hdone.tickets_eq]
        simp [View.work, View.hold, hrest.tickets_eq]
      rw [View.leave_of_hold v' hnone htickets]
      refine ⟨⟨rfl, hl⟩, [(now, v'.shelf)], ?_, .turn now v'.shelf ?_⟩
      · have hturns := hdone.turns_eq
        have hsince := hdone.since_eq
        simp only [View.work, View.hold, hinside] at hturns hsince ⊢
        rw [hturns, hsince]
        simp
      · have hstarts : a.StartsFrom session (now.value a.name) d := by
          subst hr
          exact Attribute.startsFrom_of_opening hopening (hnew.imp_right hnow)
        have hshelf := hdone.shelf_eq
        rw [Option.or_none] at hshelf
        cases out with
        | ok o =>
          have ho := hdone.out_ok o rfl
          rw [Option.or_none] at ho
          exact ⟨d, hstarts, ho.symm, ho ▸ hshelf⟩
        | error f =>
          have hnet := hdone.out_error f rfl
          rw [Option.or_none] at hnet
          rw [hnet] at hshelf
          exact hshelf

theorem Visit.wp_serve (visit : Visit k) {v : View} (hrest : v.AtRest session a.name) :
    (a.site session).wp (fun out v' => v'.AtRest session a.name ∧
        ∃ had, v'.turns = v.turns ++ had ∧ visit.Had a session out had)
      (visit.serve a session) v := by
  -- the request that the visit begins with
  let r : RequestRef := ⟨v.workspace.requests.length, session⟩
  let l : Workspace := { v.workspace with requests := v.workspace.requests ++ [.new session] }
  have hnew : l.request r.id = .new session := by simp [l, r, Workspace.request]
  have hserve : visit.serve a session = Routine.accept (.new session) >>= fun r =>
      if visit.looks = true then
        a.current r false >>= fun _ => Section.within a r fun s => visit.edits.perform s none
      else Section.within a r fun s => visit.edits.perform s none := rfl
  rw [hserve, Site.wp_bind]
  change (a.site session).wp _ (if visit.looks = true then
      a.current r false >>= fun _ => Section.within a r fun s => visit.edits.perform s none
    else Section.within a r fun s => visit.edits.perform s none) (v.work l)
  split
  · rw [Site.wp_bind]
    refine wp_find (Attribute.serves r rfl) .requestFirst fun now _ => ?_
    cases hfound : k.finds r.session a.name .requestFirst
      (((v.work l).workspace.cached r).value a.name) (now.value a.name) with
    | error e => exact ⟨⟨hrest.tickets_eq, hrest.closed⟩, [], (List.append_nil _).symm,
        .turned_away _ rfl⟩
    | ok found =>
      have hactive : (l.fill r a.name (now.value a.name)).active.get? (session, a.name) = none := by
        rw [Workspace.active_fill]
        exact hrest.closed
      refine visit.wp_section (a := a) (r := r) (v := ((v.work l).put now).work
        (l.fill r a.name (now.value a.name))) rfl ⟨hrest.tickets_eq, hactive⟩ ?_
      cases hnow : now.value a.name with
      | none =>
        rw [Workspace.fill_none]
        exact .inl hnew
      | some value =>
        refine .inr ?_
        rw [View.work, View.put, hnow]
        rfl
  · exact visit.wp_section (a := a) (r := r) (v := v.work l) rfl
      ⟨hrest.tickets_eq, hrest.closed⟩ (.inl hnew)

/-- The turns of visits with their outcomes. -/
inductive Visit.AllHad (a : Attribute k) (session : SessionId) : List (Visit k) →
    List (Visit.Outcome k) → List (Shelf × Shelf) → Prop
  | nil : AllHad a session [] [] []
  | cons {visit : Visit k} {out : Visit.Outcome k} {had : List (Shelf × Shelf)}
    {visits : List (Visit k)} {outs : List (Visit.Outcome k)}
    {later : List (Shelf × Shelf)} : visit.Had a session out had →
    AllHad a session visits outs later →
    AllHad a session (visit :: visits) (out :: outs) (had ++ later)

theorem Visit.AllHad.length_eq {visits : List (Visit k)}
    {outs : List (Visit.Outcome k)} {had : List (Shelf × Shelf)}
    (h : AllHad a session visits outs had) : outs.length = visits.length := by
  induction h with
  | nil => rfl
  | cons _ _ ih => rw [List.length_cons, List.length_cons, ih]

theorem Visit.wp_serveAll (visits : List (Visit k)) {v : View} (hrest : v.AtRest session a.name) :
    (a.site session).wp (fun out v' => v'.AtRest session a.name ∧ ∃ outs had, out = .ok outs ∧
        v'.turns = v.turns ++ had ∧ AllHad a session visits outs had)
      (serveAll a session visits) v := by
  induction visits generalizing v with
  | nil => exact ⟨hrest, [], [], rfl, (List.append_nil _).symm, .nil⟩
  | cons visit rest ih =>
    have hserve : serveAll a session (visit :: rest) = (visit.serve a session).attempt >>=
      fun out => serveAll a session rest >>= fun outs => .done (out :: outs) := rfl
    rw [hserve, Site.wp_bind, Site.wp_attempt]
    refine Site.wp_mono ?_ _ _ (visit.wp_serve hrest)
    rintro out v₁ ⟨hrest₁, had, hturns, hhad⟩
    dsimp only
    rw [Site.wp_bind]
    refine Site.wp_mono ?_ _ _ (ih hrest₁)
    rintro _ v₂ ⟨hrest₂, outs, later, rfl, hturns₂, hlater⟩
    refine ⟨hrest₂, out :: outs, had ++ later, rfl, ?_, .cons hhad hlater⟩
    rw [hturns₂, hturns, List.append_assoc]

end Spec

end SessionCart
