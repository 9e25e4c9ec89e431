import SessionCart.Proofs.Turn.Logic
import SessionCart.Session.Hold

/-!
# Rules for single actions

What a thread knows once it has read or changed a stored value, or got a level of its session's lock
or given it back, and what it has to itself: the values that its requests have cached.
-/

namespace SessionCart

/-! ### One more level of the lock -/

namespace View

variable (v : View) {key : TicketId} {now : Shelf}

/-- The thread has got one more level of the lock. -/
def hold (key : TicketId) (now : Shelf) : View :=
  { v with
    tickets := v.tickets ++ [(key, true)]
    shelf := now
    since := if v.inside = true then v.since else now }

theorem enter_draw (hfresh : ∀ e ∈ v.tickets, e.1 ≠ key) :
    (v.draw key).enter key now = v.hold key now := by
  have hsame : v.tickets.map (fun e => if e.1 = key then (e.1, true) else e) = v.tickets := by
    refine (List.map_congr_left fun e he => ?_).trans (List.map_id _)
    rw [if_neg (hfresh e he), id]
  rw [enter, inside_draw]
  simp only [draw, hold, List.map_append, hsame, List.map_cons, List.map_nil, if_true]

theorem filter_fresh {tickets : List (TicketId × Bool)} (hfresh : ∀ e ∈ tickets, e.1 ≠ key)
    (held : Bool) : (tickets ++ [(key, held)]).filter (fun e => decide (e.1 ≠ key)) = tickets := by
  rw [List.filter_append, List.filter_eq_self.mpr (by simpa using hfresh)]
  simp

theorem leave_draw (hfresh : ∀ e ∈ v.tickets, e.1 ≠ key) : (v.draw key).leave key = v := by
  rw [leave, inside_draw]
  simp only [draw, filter_fresh hfresh, inside]
  cases v.tickets.any Prod.snd <;> simp

theorem leave_of_hold {tickets : List (TicketId × Bool)} (hfresh : ∀ e ∈ tickets, e.1 ≠ key)
    (htickets : v.tickets = tickets ++ [(key, true)]) :
    v.leave key = { v with
      tickets := tickets
      turns := v.turns ++ if tickets.any Prod.snd = true then [] else [(v.since, v.shelf)] } := by
  have hinside : v.inside = true := by simp [inside, htickets]
  rw [leave, hinside]
  simp only [htickets, filter_fresh hfresh, true_and]
  cases tickets.any Prod.snd <;> simp

@[simp]
theorem inside_hold : (v.hold key now).inside = true := by simp [hold, inside]

@[simp]
theorem put_self : v.put v.shelf = v := rfl

theorem Sees.eq_shelf {v : View} {x : Site} {s : Shelf} (h : v.Sees x s)
    (hin : v.inside = true) : s = v.shelf := by
  rwa [Sees, if_pos hin] at h

end View

/-! ### Single actions -/

section Actions

variable {x : Site} {v : View} {s : StoreName} {session : SessionId} {name : String}

theorem wp_ofExcept {α : Type} {Q : Except Failure α → View → Prop} (e : Except Error α) :
    x.wp Q (Routine.ofExcept e) v ↔ Q (e.mapError .error) v := by
  cases e <;> rfl

theorem wp_getStored {Q : Except Failure (Option Value) → View → Prop} (hs : s = x.store)
    (hsession : session = x.session)
    (h : ∀ now, v.Sees x now → Q (.ok (now.value name)) (v.put now)) :
    x.wp Q (Routine.getStored s session name) v := ⟨hs, hsession, h⟩

theorem wp_getStored_inside {Q : Except Failure (Option Value) → View → Prop} (hs : s = x.store)
    (hsession : session = x.session) (hin : v.inside = true) (h : Q (.ok (v.shelf.value name)) v) :
    x.wp Q (Routine.getStored s session name) v := by
  refine wp_getStored hs hsession fun now hnow => ?_
  rw [hnow.eq_shelf hin]
  exact h

theorem wp_setStored {Q : Except Failure Unit → View → Prop} {value : Value} (hs : s = x.store)
    (hsession : session = x.session) (hin : v.inside = true)
    (hallows : x.allows v.shelf (v.shelf.set name value))
    (h : Q (.ok ()) (v.put (v.shelf.set name value))) :
    x.wp Q (Routine.setStored s session name value) v := ⟨hs, hsession, hin, hallows, h⟩

theorem wp_removeStored {Q : Except Failure (Option Value) → View → Prop} (hs : s = x.store)
    (hsession : session = x.session) (hin : v.inside = true)
    (hallows : x.allows v.shelf (v.shelf.remove name))
    (h : Q (.ok (v.shelf.value name)) (v.put (v.shelf.remove name))) :
    x.wp Q (Routine.removeStored s session name) v := ⟨hs, hsession, hin, hallows, h⟩

theorem wp_invalidate {Q : Except Failure Unit → View → Prop} (hs : s = x.store)
    (hsession : session = x.session) (hin : v.inside = true) (hallows : x.allows v.shelf .empty)
    (h : Q (.ok ()) (v.put .empty)) : x.wp Q (Routine.invalidate s session) v :=
  ⟨hs, hsession, hin, hallows, h⟩

theorem wp_acquire {Q : Except Failure Hold → View → Prop} {limit : Option Duration}
    {t : TableName} (ht : t = x.table) (hsession : session = x.session)
    (hexpire : limit.isSome = true →
      Q (.error (.error (.lockTimeout session (limit.getD ⟨0⟩)))) v)
    (hgot : ∀ key now, (∀ e ∈ v.tickets, e.1 ≠ key) → v.Sees x now →
      Q (.ok ⟨t, session, key⟩) (v.hold key now)) :
    x.wp Q (Hold.acquire t limit session) v := by
  refine ⟨ht, hsession, fun key hfresh => ⟨ht, ?_, fun now hnow => ?_, fun hlimit => ?_⟩⟩
  · simp [View.draw]
  · rw [View.enter_draw v hfresh]
    refine hgot key now hfresh ?_
    rw [View.Sees, View.inside_draw] at hnow
    exact hnow
  · refine ⟨ht, false, by simp [View.draw], ?_⟩
    rw [View.leave_draw v hfresh]
    exact hexpire hlimit

theorem wp_drop {Q : Except Failure Unit → View → Prop} {hold : Hold} (ht : hold.table = x.table)
    {held : Bool} (hmem : (hold.ticket, held) ∈ v.tickets) (h : Q (.ok ()) (v.leave hold.ticket)) :
    x.wp Q hold.drop v := ⟨ht, held, hmem, h⟩

end Actions

/-! ### What a thread has to itself -/

namespace Workspace

/-- What a request has cached. -/
def cached (l : Workspace) (r : RequestRef) : Shelf := ⟨(l.request r.id).get?⟩

variable {l : Workspace} {r : RequestRef}

theorem request_editRequest (hr : r.id < l.requests.length) (f : Request → Request) :
    (l.editRequest r.id f).request r.id = f (l.request r.id) := by
  simp [request, editRequest, List.getElem?_eq_getElem hr]

theorem request_congr {l' : Workspace} (h : l'.requests = l.requests) (id : RequestId) :
    l'.request id = l.request id := by
  rw [request, h, request]

theorem cached_cache (hr : r.id < l.requests.length) (name : String) (value : Value) :
    (l.editRequest r.id (·.set name value)).cached r = (l.cached r).set name value := by
  rw [cached, request_editRequest hr, cached, Shelf.set, Shelf.mk.injEq]
  funext other
  exact Request.get?_set ..

theorem cached_uncache (hr : r.id < l.requests.length) (name : String) :
    (l.editRequest r.id (·.remove name)).cached r = (l.cached r).remove name := by
  rw [cached, request_editRequest hr, cached, Shelf.remove, Shelf.mk.injEq]
  funext other
  exact Request.get?_remove ..

theorem cached_mark (hr : r.id < l.requests.length) (name : String) :
    (l.editRequest r.id (·.markChanged name)).cached r = l.cached r := by
  rw [cached, request_editRequest hr, cached, Shelf.mk.injEq]
  funext other
  exact Request.get?_markChanged ..

@[simp]
theorem length_editRequest (l : Workspace) (i : RequestId) (f : Request → Request) :
    (l.editRequest i f).requests.length = l.requests.length := by
  simp [editRequest]

/-- Caches what was found, unless something is cached. -/
def fill (l : Workspace) (r : RequestRef) (name : String) (found : Option Value) : Workspace :=
  match (l.cached r).value name, found with
  | none, some value => l.editRequest r.id (·.set name value)
  | _, _ => l

@[simp]
theorem fill_none (l : Workspace) (r : RequestRef) (name : String) : l.fill r name none = l := by
  unfold fill
  split
  · rename_i heq
    cases heq
  · rfl

theorem fill_of_some {name : String} {old : Value} (h : (l.cached r).value name = some old)
    (found : Option Value) : l.fill r name found = l := by
  simp [fill, h]

theorem fill_of_none {name : String} (h : (l.cached r).value name = none) (value : Value) :
    l.fill r name (some value) = l.editRequest r.id (·.set name value) := by
  simp [fill, h]

@[simp]
theorem length_fill (l : Workspace) (r : RequestRef) (name : String) (found : Option Value) :
    (l.fill r name found).requests.length = l.requests.length := by
  unfold fill
  split <;> simp

@[simp]
theorem active_fill (l : Workspace) (r : RequestRef) (name : String) (found : Option Value) :
    (l.fill r name found).active = l.active := by
  unfold fill
  split <;> rfl

@[simp]
theorem drafts_fill (l : Workspace) (r : RequestRef) (name : String) (found : Option Value) :
    (l.fill r name found).drafts = l.drafts := by
  unfold fill
  split <;> rfl

/-- Caches a value that has been stored, and marks it as changed. -/
def store (l : Workspace) (r : RequestRef) (name : String) (value : Value) : Workspace :=
  (l.editRequest r.id (·.set name value)).editRequest r.id (·.markChanged name)

/-- Drops a cached value that has been removed, and marks it as changed. -/
def unstore (l : Workspace) (r : RequestRef) (name : String) : Workspace :=
  (l.editRequest r.id (·.remove name)).editRequest r.id (·.markChanged name)

theorem cached_store (hr : r.id < l.requests.length) (name : String) (value : Value) :
    (l.store r name value).cached r = (l.cached r).set name value := by
  rw [store, cached_mark (by simpa using hr), cached_cache hr]

@[simp]
theorem length_store (l : Workspace) (r : RequestRef) (name : String) (value : Value) :
    (l.store r name value).requests.length = l.requests.length := by
  simp [store]

@[simp]
theorem length_unstore (l : Workspace) (r : RequestRef) (name : String) :
    (l.unstore r name).requests.length = l.requests.length := by
  simp [unstore]

theorem cached_unstore (hr : r.id < l.requests.length) (name : String) :
    (l.unstore r name).cached r = (l.cached r).remove name := by
  rw [unstore, cached_mark (by simpa using hr), cached_uncache hr]

end Workspace

end SessionCart
