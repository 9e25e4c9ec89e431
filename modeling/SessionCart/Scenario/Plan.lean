import SessionCart.Scenario.Stage

/-!
What a step means: a routine of its thread, a look at the stage, or nothing at all because something
that it names is not there.
-/

namespace SessionCart.Scenario

inductive Plan
  | missing
  | course (r : Routine Deed)
  /-- The stage is looked at or set up, without the thread doing anything. -/
  | direct (f : Stage → Answer × Stage)

namespace Plan

def answering {α : Type} (wrap : α → Answer) (r : Routine α) : Plan :=
  course do return ⟨wrap (← r), .none⟩

/-- A call of a backend, whose refusal is an answer too. -/
def calling {α : Type} (wrap : α → Answer) (call : Routine (Except StoreFault α)) : Plan :=
  course do
    match ← call with
    | .ok a => return ⟨wrap a, .none⟩
    | .error f => return ⟨.faulted f, .none⟩

def look (a : Answer) : Plan := course (return ⟨a, .none⟩)

def arrange (f : Stage → Stage) : Plan := direct fun st => (.nothing, f st)

def of {α : Type} (x : Option α) (plan : α → Plan) : Plan :=
  match x with
  | some a => plan a
  | none => missing

end Plan

/-- A section under a name is dropped when another one takes the name. -/
def dropUpdate (old : Option Handle) : Routine Unit :=
  match old with
  | some h => h.update.drop
  | none => return ()

def dropHold (old : Option Hold) : Routine Unit :=
  match old with
  | some h => h.drop
  | none => return ()

/-- The altered copy, and the results of the operations if it is a cart. An alteration for another
kind of value changes nothing. -/
def Alteration.apply (p : Pricing) :
    Alteration → Value → Option (List (Except Failure CartAnswer)) × Value
  | putField name v, .json (.obj fields) => (none, .json (.obj (Json.withField name v fields)))
  | pushItem v, .json (.arr items) => (none, .json (.arr (items ++ [v])))
  | increase n, .json (.num m 0) => (none, .json (.int (m + n)))
  | appendText s, .text t => (none, .text (t ++ s))
  | cartSteps steps, .cart c =>
    let trail := Cart.follow p steps c
    (some (trail.map Prod.fst), .cart ((trail.getLast?.map Prod.snd).getD c))
  | _, v => (none, v)

def Errand.plan (d : Desk) (p : Player) (r : RequestRef) : Errand → Plan
  | cart => .answering (fun c => .cart (some c)) (d.currentCart r)
  | cartIfAny => .answering .cart (d.cartIfAny r)
  | setCart source => .of ((p.resolve source).bind (·.as? .cart)) fun c =>
    .answering (fun c => .cart (some c)) (d.setCart r c)
  | isChanged => .look (.flag (d.cart.isChanged r p.workspace))
  | markChanged => .answering (fun _ => .nothing) (Routine.mark r cartAttribute)
  | parked => .answering .carts (d.parked r)
  | addItem product quantity => .answering .summary (d.addItem r product quantity)
  | changeQuantity product quantity => .answering .summary (d.changeQuantity r product quantity)
  | removeItem product => .answering .summary (d.removeItem r product)
  | enterPromoCode code => .answering .flag (d.enterPromoCode r code)
  | withdrawPromoCode code => .answering .flag (d.withdrawPromoCode r code)
  | clear => .answering (fun _ => .nothing) (d.clear r)
  | destroy => .answering (fun _ => .nothing) (d.destroy r)
  | status => .answering .status (d.status r)
  | refresh locale => .answering .flag (d.refresh r locale)
  | switchCart index store => .answering (fun _ => .nothing) (d.switchCart r index store)
  | dropParked index => .answering .flag (d.dropParked r index)
  | forgetCached => .answering (fun _ => .nothing) (d.forgetCached r)

def openUpdate {k : Kind} (p : Player) (a : Attribute k) (r : RequestRef) (name : String) :
    Routine Deed := do
  let s ← Section.start a r
  dropUpdate (p.updates.get? name)
  return ⟨.opened r.session s.isNested, .update name ⟨k, s, false⟩⟩

def abandonUpdate {k : Kind} (a : Attribute k) (r : RequestRef) (value : Option k.Data) :
    Routine Deed :=
  Section.within a r fun s => do
    let _ ← s.copy
    match value with
    | some v => do
      let _ ← Routine.attempt (s.commit v)
    | none => pure ()
    Routine.fail (.panic .handler)

def readPlan {k : Kind} (a : Attribute k) (r : RequestRef) : Reading → Routine (Option k.Data)
  | .full policy creating scope => a.read r policy creating scope
  | .current creating => a.current r creating

/-- A step that starts a session if the client named none that is accepted. -/
def resumePlan (setup : Setup) (st : Stage) (name : String) (raw : Option String) : Plan :=
  let request := Request.resume (setup.fresh (st.started + 1)) raw
  .course do
    let r ← Routine.accept request
    return ⟨.entered r.session request.isNew, .request name r⟩

def Step.plan (setup : Setup) (st : Stage) (p : Player) : Step → Plan
  | enter name session => .course do
    let r ← Routine.accept (.new session)
    return ⟨.entered session false, .request name r⟩
  | resume name raw => resumePlan setup st name raw
  | cached c name => .of (p.requests.get? c) fun r =>
    .look (.value ((p.workspace.request r.id).get? name))
  | cache c name source => .of (p.requests.get? c) fun r => .of (p.resolve source) fun v =>
    .answering (fun _ => .nothing) (Routine.cache r name v)
  | uncache c name => .of (p.requests.get? c) fun r => .course do
    let before ← Routine.request r
    Routine.uncache r name
    return ⟨.value (before.get? name), .none⟩
  | mark c name => .of (p.requests.get? c) fun r =>
    .answering (fun _ => .nothing) (Routine.mark r name)
  | isMarked c name => .of (p.requests.get? c) fun r =>
    .look (.flag ((p.workspace.request r.id).isChanged name))
  | describeRequest c => .of (p.requests.get? c) fun r =>
    .look (.text (Scenario.describeRequest (p.workspace.request r.id)))
  | get s session name => .calling .value (Routine.world (.get s session name))
  | set s session name source => .of (p.resolve source) fun v =>
    .calling (fun _ => .nothing) (Routine.world (.set s session name v))
  | remove s session name => .calling .value (Routine.world (.remove s session name))
  | invalidate s session =>
    .calling (fun _ => .nothing) (Routine.world (.invalidate s session))
  | sessionCount s => .direct fun st => (.number (st.world.backend s).store.sessionCount, st)
  | names s session => .direct fun st => (.texts ((st.world.backend s).store.names session), st)
  | planOutage s plan =>
    .arrange (·.editBackend s fun b => { b with outage := plan, planned := {} })
  | planIntrusion s plan => .arrange (·.editBackend s fun b => { b with intrusion := some plan })
  | calls s => .direct fun st =>
    (.calls (st.world.backend s).calls, st.editBackend s fun b => { b with calls := {} })
  | events s => .direct fun st =>
    (.events (st.world.backend s).events.reverse, st.editBackend s fun b => { b with events := [] })
  | read m c reading => .of (setup.attribute? m) fun a => .of (p.requests.get? c) fun r =>
    .answering (fun d => .value (d.map (Value.of a.kind))) (readPlan a.subject r reading)
  | write m c none scope => .of (setup.attribute? m) fun a => .of (p.requests.get? c) fun r =>
    .answering (fun _ => .value .none) (a.subject.write r .none scope)
  | write m c (some source) scope => .of (setup.attribute? m) fun a =>
    .of (p.requests.get? c) fun r => .of ((p.resolve source).bind (·.as? a.kind)) fun d =>
    .answering (fun _ => .value (some (.of a.kind d))) (a.subject.write r (some d) scope)
  | unset m c scope => .of (setup.attribute? m) fun a => .of (p.requests.get? c) fun r =>
    .answering (fun _ => .nothing) (a.subject.remove r scope)
  | isChanged m c => .of (setup.attribute? m) fun a => .of (p.requests.get? c) fun r =>
    .look (.flag (a.subject.isChanged r p.workspace))
  | create m c => .of (setup.attribute? m) fun a => .of (p.requests.get? c) fun r =>
    .answering (fun d => .value (some (.of a.kind d))) (a.subject.create r)
  | settings m => .of (setup.attribute? m) fun a =>
    .look (.settings a.subject.name a.subject.settings)
  | openUpdate m c u => .of (setup.attribute? m) fun a => .of (p.requests.get? c) fun r =>
    .course (Scenario.openUpdate p a.subject r u)
  | copy u slot => .of (p.updates.get? u) fun h => .course do
    let d ← h.update.copy
    return ⟨.value (some (.of h.kind d)), .slot slot (.of h.kind d)⟩
  | edit slot change => .of (p.slots.get? slot) fun v =>
    let (results, altered) := change.apply setup.catalog.pricing v
    .course (return ⟨.edited results altered, .slot slot altered⟩)
  | commit u source => .of (p.updates.get? u) fun h =>
    .of ((p.resolve source).bind (·.as? h.kind)) fun d =>
    .answering (fun d => .value (some (.of h.kind d))) (h.update.commit d)
  | working u => .of (p.updates.get? u) fun h =>
    .look (.value (p.workspace.draft h.update.draft).current)
  | isCommitted u => .of (p.updates.get? u) fun h =>
    .look (.flag (p.workspace.draft h.update.draft).committed)
  | isNested u => .of (p.updates.get? u) fun h => .look (.flag h.update.isNested)
  | discard u => .of (p.updates.get? u) fun h =>
    .answering (fun _ => .nothing) h.update.discard
  | close u => .of (p.updates.get? u) fun h => .course do
    let answer := match ← Routine.attempt h.update.close with
      | .ok () => Answer.nothing
      | .error f => .failed f
    return ⟨answer, .update u { h with closed := true }⟩
  | drop u => .of (p.updates.get? u) fun h => .course do
    h.update.drop
    return ⟨.nothing, .noUpdate u⟩
  | describeUpdate u => .of (p.updates.get? u) fun h =>
    .look (.text (Scenario.describeUpdate h.update.isNested h.closed))
  | abandonUpdate m c none => .of (setup.attribute? m) fun a => .of (p.requests.get? c) fun r =>
    .course (Scenario.abandonUpdate a.subject r .none)
  | abandonUpdate m c (some source) => .of (setup.attribute? m) fun a =>
    .of (p.requests.get? c) fun r => .of ((p.resolve source).bind (·.as? a.kind)) fun d =>
    .course (Scenario.abandonUpdate a.subject r (some d))
  | hasOpen session name => .look (.flag (p.workspace.hasOpen session name))
  | openSync m c u => .of (setup.attribute? m) fun a => .of (p.requests.get? c) fun r => .course do
    let h ← a.subject.hold r
    dropHold (p.syncs.get? u)
    return ⟨.synced r.session, .sync u h⟩
  | isSyncOpen u => .of (p.syncs.get? u) fun h =>
    .direct fun st => (.flag (h.isHeld st.world), st)
  | closeSync u => .of (p.syncs.get? u) fun h => .answering .flag h.release
  | dropSync u => .of (p.syncs.get? u) fun h => .course do
    h.drop
    return ⟨.nothing, .noSync u⟩
  | describeSync u => .of (p.syncs.get? u) fun h =>
    .direct fun st => (.text (Scenario.describeSync h.session (h.isHeld st.world)), st)
  | acquire m session u => .of (setup.attribute? m) fun a => .course do
    let h ← Hold.acquire a.subject.table a.subject.settings.lockTimeout session
    dropHold (p.locks.get? u)
    return ⟨.acquired session, .lock u h⟩
  | release u => .of (p.locks.get? u) fun h => .answering .flag h.release
  | isHeld u => .of (p.locks.get? u) fun h => .direct fun st => (.flag (h.isHeld st.world), st)
  | dropLock u => .of (p.locks.get? u) fun h => .course do
    h.drop
    return ⟨.nothing, .noLock u⟩
  | describeLock u => .of (p.locks.get? u) fun h =>
    .direct fun st => (.text (Scenario.describeLock h.session (h.isHeld st.world)), st)
  | isLocked m session => .of (setup.attribute? m) fun a =>
    .direct fun st => (.flag ((st.world.locks a.subject.table).isLocked session), st)
  | liveLocks m => .of (setup.attribute? m) fun a =>
    .direct fun st => (.number (st.world.locks a.subject.table).liveCount, st)
  | slotCount m => .of (setup.attribute? m) fun a =>
    .direct fun st => (.number (st.world.locks a.subject.table).slotCount, st)
  | prune m => .of (setup.attribute? m) fun a =>
    .answering .number (Routine.prune a.subject.table)
  | desk c errand => .of (p.requests.get? c) fun r => errand.plan setup.desk p r
  | join => .missing
  | dump => .direct fun st => (.dump st.dump, st)

end SessionCart.Scenario
