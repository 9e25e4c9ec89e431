import SessionCart.Concurrency.Race
import SessionCart.Proofs.Desk.Hall
import SessionCart.Proofs.Turn.Run

/-!
# Sessions do not interfere

What other sessions have done in a hall, on whichever threads and in between, makes no difference to
a session: without their tasks each of its own tasks comes to the same, and the session ends up with
the same values, requests, lock and open sections. Only the numbers of drafts and tickets differ, so
the two halls are compared up to a bond of these.
-/

namespace SessionCart

namespace Hall

variable {whose : RequestId → Option SessionId} {session : SessionId} {h h₁ g : Hall}
  {i j : ThreadId} {w : World} {l : Workspace} {opened : Opened} {label : Nat}

/-! ### The hall after a task -/

theorem step?_eq_some {t : Task} {out : Except Failure t.act.Answer}
    (hstep : h.step? t = some (out, h₁)) : ∃ x result w l,
      h.routine? t.thread t.session t.act = some x ∧
      x.run false t.thread h.world (h.workspace t.thread) = .finished result w l ∧
      out = result.map Prod.fst ∧
      h₁ = h.after t.thread t.session w l (result.toOption.bind Prod.snd) := by
  rw [step?] at hstep
  obtain ⟨x, hx, hrun⟩ := Option.bind_eq_some_iff.mp hstep
  cases hfinished : x.run false t.thread h.world (h.workspace t.thread) with
  | finished result w l =>
    rw [hfinished] at hrun
    cases hrun
    exact ⟨x, result, w, l, hx, hfinished, rfl, rfl⟩
  | waiting rest w l =>
    rw [hfinished] at hrun
    cases hrun

theorem step?_of_run {t : Task} {x : Routine (t.act.Answer × Opened)}
    {result : Except Failure (t.act.Answer × Opened)}
    (hx : h.routine? t.thread t.session t.act = some x)
    (hrun : x.run false t.thread h.world (h.workspace t.thread) = .finished result w l) :
    h.step? t = some (result.map Prod.fst,
      h.after t.thread t.session w l (result.toOption.bind Prod.snd)) := by
  rw [step?, hx, Option.bind_some, hrun]

@[simp]
theorem workspace_after_self : (h.after i session w l opened).workspace i = l := by
  simp [workspace, after]

theorem workspace_after (hj : j ≠ i) : (h.after i session w l opened).workspace j =
    { h.workspace j with requests := l.requests } := by
  simp [workspace, after, Function.update_of_ne hj]

theorem handles_after_of_ne {other : SessionId} (hne : j ≠ i ∨ other ≠ session) :
    ((h.after i session w l opened).stations j).handles other label =
      (h.stations j).handles other label := by
  by_cases hj : j = i
  · subst hj
    have hother := hne.resolve_left fun hj => hj rfl
    cases opened <;> simp [after, hother]
  · simp [after, Function.update_of_ne hj]

theorem handles_after_self : ((h.after i session w l opened).stations i).handles session label =
    (opened.filter fun o => o.1 = label).elim ((h.stations i).handles session label)
      fun o => some o.2 := by
  simp [after]

/-! ### Halls in which a session has the same part -/

/-- A session has the same part in both halls, its tickets in the bond `ρ` and its drafts on each
thread in the bond `δ`. The tickets `σ` and the drafts `η` of the others in the first hall are apart
from these. -/
structure Tied (whose : RequestId → Option SessionId) (session : SessionId)
    (ρ σ : TableName → TicketId → TicketId → Prop) (δ η : ThreadId → DraftId → DraftId → Prop)
    (h g : Hall) : Prop where
  world : World.Tied session ρ σ h.world g.world
  workspace : ∀ i, Workspace.Tied whose session (δ i) (η i) (h.workspace i) (g.workspace i)
  handles : ∀ i label, Option.Rel (Handle.Twin whose session ⟨δ i, ρ⟩)
    ((h.stations i).handles session label) ((g.stations i).handles session label)
  diagonal : ∀ i, (⟨η i, σ⟩ : Bond).Diagonal
  others : ∀ i {other} label, other ≠ session → Option.Rel (Handle.Twin whose other ⟨η i, σ⟩)
    ((h.stations i).handles other label) ((h.stations i).handles other label)

end Hall

/-- The requests of another state, in which they have changed alike. -/
theorem Workspace.Tied.withRequests {whose : RequestId → Option SessionId} {session : SessionId}
    {δ η δ₁ η₁ : DraftId → DraftId → Prop} {l l' m m' : Workspace}
    (hl : Workspace.Tied whose session δ η l l') (hm : Workspace.Tied whose session δ₁ η₁ m m') :
    Workspace.Tied whose session δ η { l with requests := m.requests }
      { l' with requests := m'.requests } :=
  { hl with
    belongs := hm.belongs
    belongs' := hm.belongs'
    request_eq := hm.request_eq }

theorem Handle.Twin.self {whose : RequestId → Option SessionId} {session : SessionId} {γ : Bond}
    (hγ : γ.Diagonal) {x x' : Handle} (hx : Handle.Twin whose session γ x x') :
    Handle.Twin whose session γ x x := by
  have hhold : ∀ {a a' : Hold}, Hold.Twin γ a a' → Hold.Twin γ a a := by
    intro a a' ha
    have hticket := ha.ticket
    rw [hγ.ticket_eq hticket] at hticket
    exact ⟨rfl, hticket⟩
  cases hx with
  | hold ha => exact .hold (hhold ha)
  | @update k s s' hs =>
    have hdraft := hs.draft
    rw [hγ.draft_eq hdraft] at hdraft
    refine .update ⟨rfl, rfl, hs.session_eq, hs.known, hs.contextual, hdraft, ?_⟩
    have hopen := hs.hold
    generalize s.hold = a at hopen ⊢
    generalize s'.hold = a' at hopen
    cases hopen with
    | none => exact .none
    | some ha => exact .some (hhold ha)

theorem Delivers.self {whose : RequestId → Option SessionId} {session : SessionId} {γ : Bond}
    (hγ : γ.Diagonal) {α : Type} {y y' : α × Opened} (hy : Delivers whose session γ y y') :
    Option.Rel (fun o o' => o.1 = o'.1 ∧ Handle.Twin whose session γ o.2 o'.2) y.2 y.2 := by
  have hopened := hy.opened
  generalize y.2 = opened at hopened ⊢
  generalize y'.2 = opened' at hopened
  cases hopened with
  | none => exact .none
  | some ho => exact .some ⟨rfl, ho.2.self hγ⟩

namespace Hall.Tied

variable {whose : RequestId → Option SessionId} {session : SessionId} {h h₁ g : Hall}
  {ρ σ : TableName → TicketId → TicketId → Prop} {δ η : ThreadId → DraftId → DraftId → Prop}

variable {i : ThreadId} {w w' : World} {l l' : Workspace} {opened opened' : Opened} {ε : Bond}

theorem rel_elim {label : Nat} {x x' : Option Handle}
    (hopened : Option.Rel (fun o o' => o.1 = o'.1 ∧ Handle.Twin whose session ε o.2 o'.2) opened
      opened') (hx : Option.Rel (Handle.Twin whose session ε) x x') :
    Option.Rel (Handle.Twin whose session ε)
      ((opened.filter fun o => o.1 = label).elim x fun o => some o.2)
      ((opened'.filter fun o => o.1 = label).elim x' fun o => some o.2) := by
  cases hopened with
  | none => exact hx
  | some ho =>
    rw [Option.filter_some, Option.filter_some, ho.1]
    split
    · exact .some ho.2
    · exact hx

variable (ht : Tied whose session ρ σ δ η h g)

include ht

theorem after (hε : ⟨δ i, ρ⟩ ≤ ε) (hties : Bond.Ties whose session ε ⟨η i, σ⟩ w l w' l')
    (hopened : Option.Rel (fun o o' => o.1 = o'.1 ∧ Handle.Twin whose session ε o.2 o'.2) opened
      opened') :
    Tied whose session ε.ticket σ (Function.update δ i ε.draft) η (h.after i session w l opened)
      (g.after i session w' l' opened') where
  world := hties.world
  workspace j := by
    by_cases hj : j = i
    · subst hj
      simpa using hties.workspace
    · rw [workspace_after hj, workspace_after hj, Function.update_of_ne hj]
      exact (ht.workspace j).withRequests hties.workspace
  handles j label := by
    by_cases hj : j = i
    · subst hj
      rw [handles_after_self, handles_after_self, Function.update_self]
      exact rel_elim hopened (rel_mono (ht.handles j label) fun _ _ hx => hx.mono hε)
    · rw [handles_after_of_ne (.inl hj), handles_after_of_ne (.inl hj), Function.update_of_ne hj]
      exact rel_mono (ht.handles j label) fun _ _ hx => hx.mono ⟨fun _ _ hd => hd, hε.2⟩
  diagonal := ht.diagonal
  others j other label hother := by
    rw [handles_after_of_ne (.inr hother)]
    exact ht.others j label hother

theorem after_left {other : SessionId} (hother : other ≠ session) (hε : ⟨η i, σ⟩ ≤ ε)
    (hdiagonal : ε.Diagonal)
    (hties : Bond.Ties whose session ⟨δ i, ρ⟩ ε w l g.world (g.workspace i))
    (hopened : Option.Rel (fun o o' => o.1 = o'.1 ∧ Handle.Twin whose other ε o.2 o'.2) opened
      opened) :
    Tied whose session ρ ε.ticket δ (Function.update η i ε.draft) (h.after i other w l opened)
      g where
  world := hties.world
  workspace j := by
    by_cases hj : j = i
    · subst hj
      simpa using hties.workspace
    · rw [workspace_after hj, Function.update_of_ne hj]
      exact (ht.workspace j).withRequests hties.workspace
  handles j label := by
    rw [handles_after_of_ne (.inr (Ne.symm hother))]
    exact ht.handles j label
  diagonal j := by
    by_cases hj : j = i
    · subst hj
      rwa [Function.update_self]
    · rw [Function.update_of_ne hj]
      exact ⟨(ht.diagonal j).draft_eq, hdiagonal.ticket_eq⟩
  others j s label hs := by
    by_cases hj : j = i
    · subst hj
      rw [Function.update_self]
      have hold := rel_mono (ht.others j label hs) fun _ _ hx => hx.mono hε
      by_cases hsame : s = other
      · subst hsame
        rw [handles_after_self]
        exact rel_elim hopened hold
      · rwa [handles_after_of_ne (.inr hsame)]
    · rw [handles_after_of_ne (.inl hj), Function.update_of_ne hj]
      exact rel_mono (ht.others j label hs) fun _ _ hx => hx.mono ⟨fun _ _ hd => hd, hε.2⟩

theorem belongs : h.Belongs whose ∧ g.Belongs whose :=
  ⟨(ht.workspace 0).belongs, (ht.workspace 0).belongs'⟩

/-- A task of the session, done in both halls. -/
theorem step {t : Task} (hsession : t.session = session) (hcontextual : t.act.Contextual)
    {out : Except Failure t.act.Answer} (hstep : h.step? t = some (out, h₁)) :
    ∃ ρ' δ' g₁, g.step? t = some (out, g₁) ∧ Tied whose session ρ' σ δ' η h₁ g₁ := by
  obtain ⟨x, result, w, l, hx, hrun, rfl, rfl⟩ := step?_eq_some hstep
  subst hsession
  have hroutine := rel_routine? ht.belongs.1 ht.belongs.2 (ht.handles t.thread) hcontextual
  rw [hx] at hroutine
  obtain ⟨x', hx', halike⟩ := exists_of_rel_some hroutine
  obtain ⟨ε, result', w', l', hε, hrun', hties, hout⟩ := halike.run_twin (β := ⟨η t.thread, σ⟩)
    (fun hδ hy => hy.mono hδ) (Bond.le_refl _) ⟨ht.world, ht.workspace t.thread⟩ hrun
  have hsame : result.map Prod.fst = result'.map Prod.fst := by
    cases hout with
    | ok hy => exact congrArg Except.ok hy.answer_eq
    | error f => rfl
  refine ⟨_, _, _, hsame ▸ step?_of_run hx' hrun', ht.after hε hties ?_⟩
  cases hout with
  | ok hy => exact hy.opened
  | error f => exact .none

/-- A task of another session, done in the first hall alone. -/
theorem step_left {t : Task} (hsession : t.session ≠ session) (hcontextual : t.act.Contextual)
    {out : Except Failure t.act.Answer} (hstep : h.step? t = some (out, h₁)) :
    ∃ σ' η', Tied whose session ρ σ' δ η' h₁ g := by
  obtain ⟨x, result, w, l, hx, hrun, rfl, rfl⟩ := step?_eq_some hstep
  have hroutine := rel_routine? ht.belongs.1 ht.belongs.1
    (fun label => ht.others t.thread label hsession) hcontextual
  rw [hx] at hroutine
  obtain ⟨x', -, halike⟩ := exists_of_rel_some hroutine
  obtain ⟨ε, hε, hdiagonal, hties, hout⟩ := halike.run_apart (δ := ⟨δ t.thread, ρ⟩) hsession
    (fun hδ hy => hy.mono hδ) (Bond.le_refl _) (ht.diagonal t.thread)
    ⟨ht.world, ht.workspace t.thread⟩ hrun
  refine ⟨_, _, ht.after_left hsession hε hdiagonal hties ?_⟩
  cases result with
  | ok y =>
    obtain ⟨y', hy⟩ := hout y rfl
    exact hy.self hdiagonal
  | error f => exact .none

/-- Tasks of all sessions, of which the second hall does those of the session. -/
theorem play {tasks : List Task} {entries : List Entry}
    (hcontextual : ∀ t ∈ tasks, t.act.Contextual) (hplay : h.play tasks = some (entries, h₁)) :
    ∃ ρ' σ' δ' η' g₁, g.play (tasks.filter fun t => decide (t.session = session)) =
        some (entries.filter fun e => decide (e.task.session = session), g₁) ∧
      Tied whose session ρ' σ' δ' η' h₁ g₁ := by
  -- The session's tasks move both halls, the others' the first one alone: one of the bonds grows.
  induction tasks generalizing h g ρ σ δ η entries with
  | nil =>
    cases hplay
    exact ⟨ρ, σ, δ, η, g, rfl, ht⟩
  | cons t rest ih =>
    obtain ⟨hfirst, hrest⟩ := List.forall_mem_cons.mp hcontextual
    obtain ⟨⟨out, h₂⟩, hstep, hlast⟩ := Option.bind_eq_some_iff.mp hplay
    obtain ⟨⟨later, h₃⟩, hlater, heq⟩ := Option.map_eq_some_iff.mp hlast
    cases heq
    by_cases hsession : t.session = session
    · obtain ⟨ρ₂, δ₂, g₂, hstep₂, ht₂⟩ := ht.step hsession hfirst hstep
      obtain ⟨ρ', σ', δ', η', g₁, hplay', ht'⟩ := ih ht₂ hrest hlater
      refine ⟨ρ', σ', δ', η', g₁, ?_, ht'⟩
      rw [List.filter_cons_of_pos (by simpa using hsession),
        List.filter_cons_of_pos (by simpa using hsession), Hall.play, hstep₂, Option.bind_some,
        hplay']
      rfl
    · obtain ⟨σ₂, η₂, ht₂⟩ := ht.step_left hsession hfirst hstep
      rw [List.filter_cons_of_neg (by simpa using hsession),
        List.filter_cons_of_neg (by simpa using hsession)]
      exact ih ht₂ hrest hlater

end Hall.Tied

/-! ### What a session has -/

namespace Hall

/-- A session has the same values in storage, the same requests with all that they have cached and
marked, the same owner of its lock, and the same open drafts on each thread. -/
structure SamePart (session : SessionId) (h g : Hall) : Prop where
  storage_eq : ∀ s, h.world.storage s session = g.world.storage s session
  request_eq : ∀ id : RequestId, (h.requests[id]?).filter (fun q => decide (q.session = session)) =
    (g.requests[id]?).filter fun q => decide (q.session = session)
  owner_eq : ∀ t, (h.world.locks t).owner? session = (g.world.locks t).owner? session
  depth_eq : ∀ t i, (h.world.locks t).depth i session = (g.world.locks t).depth i session
  open_eq : ∀ i name, ((h.stations i).active.get? (session, name)).map (h.workspace i).draft =
    ((g.stations i).active.get? (session, name)).map (g.workspace i).draft

/-- Nothing is open yet, and the backends do as they are told. -/
structure Fresh (h : Hall) : Prop where
  calm : ∀ s, (h.world.backend s).Calm
  idle : ∀ t, (h.world.locks t).Idle
  active_eq : ∀ i session name, (h.stations i).active.get? (session, name) = none
  handles_eq : ∀ i session label, (h.stations i).handles session label = none

variable {whose : RequestId → Option SessionId} {session : SessionId} {h g : Hall}
  {ρ σ : TableName → TicketId → TicketId → Prop} {δ η : ThreadId → DraftId → DraftId → Prop}

theorem Tied.samePart (ht : Tied whose session ρ σ δ η h g) : h.SamePart session g where
  storage_eq := ht.world.storage_eq
  request_eq id := by
    by_cases hid : whose id = some session
    · obtain ⟨q, hq, -⟩ := Option.map_eq_some_iff.mp ((ht.belongs.1 id).trans hid)
      obtain ⟨q', hq', -⟩ := Option.map_eq_some_iff.mp ((ht.belongs.2 id).trans hid)
      have hsame : q = q' := by
        simpa [Workspace.request, Hall.workspace, hq, hq'] using (ht.workspace 0).request_eq hid
      rw [hq, hq', hsame]
    · have hnone : ∀ {f : Hall}, f.Belongs whose →
          (f.requests[id]?).filter (fun q => decide (q.session = session)) = none := by
        intro f hf
        rw [Option.filter_eq_none_iff]
        intro q hq hsession
        refine hid ((hf id).symm.trans ?_)
        rw [hq, Option.map_some, of_decide_eq_true hsession]
      rw [hnone ht.belongs.1, hnone ht.belongs.2]
  owner_eq t := (ht.world.locks t).owner?_eq
  depth_eq t i := by
    have howner := (ht.world.locks t).owner?_eq
    rw [LockTable.owner?, LockTable.owner?] at howner
    rw [LockTable.depth, LockTable.depth, howner]
  open_eq i name := by
    have hactive := (ht.workspace i).active name
    change Option.map _ ((h.workspace i).active.get? (session, name)) =
      Option.map _ ((g.workspace i).active.get? (session, name))
    generalize (h.workspace i).active.get? (session, name) = d at hactive ⊢
    generalize (g.workspace i).active.get? (session, name) = d' at hactive ⊢
    cases hactive with
    | none => rfl
    | some hd => exact congrArg some ((ht.workspace i).draft_eq hd)

theorem Fresh.tied (hh : h.Fresh) (session : SessionId) :
    Tied (fun id => (h.requests[id]?).map Request.session) session (fun _ _ _ => False)
      (fun _ _ _ => False) (fun _ _ _ => False) (fun _ _ _ => False) h h where
  world :=
    { storage_eq := fun _ => rfl
      calm := hh.calm
      calm' := hh.calm
      locks := fun t =>
        { sound := (hh.idle t).sound
          sound' := (hh.idle t).sound
          pairs := ⟨False.elim, fun hfalse => hfalse.elim⟩
          session_eq := fun _ _ hfalse => hfalse.elim
          session_eq' := fun _ _ hfalse => hfalse.elim
          share := by
            rw [LockTable.share, (hh.idle t).tickets_eq]
            exact .nil }
      unpaired := fun _ => ⟨False.elim, False.elim⟩ }
  workspace i :=
    { belongs := fun _ => rfl
      belongs' := fun _ => rfl
      request_eq := fun _ => rfl
      pairs := ⟨False.elim, fun hfalse => hfalse.elim⟩
      draft_eq := False.elim
      active := fun name => by
        rw [workspace, hh.active_eq]
        exact .none
      others := fun {other name d} _ hactive => by
        rw [workspace, hh.active_eq] at hactive
        cases hactive
      unpaired := ⟨False.elim, False.elim⟩ }
  handles i label := by
    rw [hh.handles_eq]
    exact .none
  diagonal i := ⟨False.elim, False.elim⟩
  others i other label _ := by
    rw [hh.handles_eq]
    exact .none

/-- **Sessions do not interfere.** Whatever tasks were done for any sessions, on any threads:
without the tasks of the others each task of a session comes to the same, and so does the session's
part of the hall in the end. -/
theorem sessions_apart {h' : Hall} {tasks : List Task} {entries : List Entry} (hh : h.Fresh)
    (hcontextual : ∀ t ∈ tasks, t.act.Contextual) (hplay : h.play tasks = some (entries, h'))
    (session : SessionId) :
    ∃ g, h.play (tasks.filter fun t => decide (t.session = session)) =
        some (entries.filter fun e => decide (e.task.session = session), g) ∧
      h'.SamePart session g := by
  obtain ⟨_, _, _, _, g, hplay', ht⟩ := (hh.tied session).play hcontextual hplay
  exact ⟨g, hplay', ht.samePart⟩

/-- A clock that stands still: what the desk makes depends on the request alone. -/
def stall : Desk := .new {} {} .welcome .main .shared fun _ => .tick 1

def hasty : Attribute .json := { Race.counter with settings := { lockTimeout := some ⟨1⟩ } }

def neighbour : SessionId := ⟨"T"⟩

def pair : Hall where
  world := Race.dawn
  requests := [.new Race.arena, .new neighbour, .new Race.arena]

/-- Two threads work for two sessions. One has an update section of each open at once, and the other
one waits in vain for the lock of the first session. -/
def interleaved : List Task :=
  [⟨0, neighbour, .start Race.counter 1 0⟩,
    ⟨0, Race.arena, .start Race.counter 0 0⟩,
    ⟨0, neighbour, .commit 0 (.json (.int 5))⟩,
    ⟨1, Race.arena, .start hasty 2 0⟩,
    ⟨0, Race.arena, .commit 0 (.json (.int 7))⟩,
    ⟨0, neighbour, .close 0⟩,
    ⟨1, neighbour, .errand stall 1 (.addItem "pen" .one)⟩,
    ⟨1, Race.arena, .read Race.counter 2 .requestFirst true .all⟩,
    ⟨1, neighbour, .invalidate .main⟩,
    ⟨1, Race.arena, .errand stall 2 .status⟩]

/-- The first draft of the thread is the neighbour's, so the session's own one has another number
where the neighbour's tasks are left out. -/
theorem sessions_apart_interleaved : ∃ entries h' g,
    pair.play interleaved = some (entries, h') ∧ entries.length = 10 ∧
    pair.play (interleaved.filter fun t => decide (t.session = Race.arena)) =
      some (entries.filter fun e => decide (e.task.session = Race.arena), g) ∧
    h'.SamePart Race.arena g ∧
    (h'.stations 0).active.get? (Race.arena, Race.counter.name) = some 1 := by
  have hfresh : pair.Fresh :=
    ⟨fun s => by cases s <;> exact ⟨fun _ _ => rfl, rfl⟩,
      fun t => by cases t <;> exact LockTable.idle_new _, fun _ _ _ => rfl, fun _ _ _ => rfl⟩
  have hcontextual : ∀ t ∈ interleaved, t.act.Contextual := by
    simp [interleaved, Act.Contextual, Attribute.Contextual, hasty, Race.counter, stall, Desk.new]
  obtain ⟨entries, h', hplay, hlength, hopen⟩ : ∃ entries h',
      pair.play interleaved = some (entries, h') ∧ entries.length = 10 ∧
        (h'.stations 0).active.get? (Race.arena, Race.counter.name) = some 1 :=
    ⟨_, _, rfl, rfl, rfl⟩
  obtain ⟨g, hplay', hsame⟩ := sessions_apart hfresh hcontextual hplay Race.arena
  exact ⟨entries, h', g, hplay, hlength, hplay', hsame, hopen⟩

end Hall

end SessionCart
