import SessionCart.Proofs.Desk.Scene

/-!
# Changes and reads of the cart

A change of the cart is one turn, in which it does what the scene that it finds says. So does a read
of the current cart in the midst of a turn.
-/

namespace SessionCart

namespace View

/-- What the thread has and sees. -/
def scene (v : View) (r : RequestRef) : Scene := ⟨v.workspace.cached r, v.shelf⟩

/-- The request is there, and no section of the cart is open. -/
structure Ready (v : View) (r : RequestRef) : Prop where
  valid : r.id < v.workspace.requests.length
  closed : v.workspace.active.get? (r.session, cartAttribute) = none

/-- The turn goes on. -/
structure Keeps (v v' : View) : Prop where
  tickets_eq : v'.tickets = v.tickets
  since_eq : v'.since = v.since
  turns_eq : v'.turns = v.turns

/-- What was done was one turn, or part of one where there was a turn already. -/
structure HadTurn (x : Site) (v : View) (now : Shelf) (v' : View) : Prop where
  sees : v.Sees x now
  tickets_eq : v'.tickets = v.tickets
  since_eq : v.inside = true → v'.since = v.since
  turns_eq : v'.turns = v.turns ++ if v.inside = true then [] else [(now, v'.shelf)]

variable {x : Site} {v v' : View} {key : TicketId} {now : Shelf}

theorem Keeps.trans {v'' : View} (h : v.Keeps v') (h' : v'.Keeps v'') : v.Keeps v'' :=
  ⟨h'.tickets_eq.trans h.tickets_eq, h'.since_eq.trans h.since_eq, h'.turns_eq.trans h.turns_eq⟩

theorem Keeps.inside (h : v.Keeps v') (hin : v.inside = true) : v'.inside = true := by
  rw [View.inside, h.tickets_eq]
  exact hin

/-- A level of the lock is got, something is done, and the level is given back. -/
theorem Keeps.hadTurn (h : (v.hold key now).Keeps v') (hfresh : ∀ e ∈ v.tickets, e.1 ≠ key)
    (hsees : v.Sees x now) (l : Workspace) : v.HadTurn x now ((v'.leave key).work l) := by
  rw [View.leave_of_hold v' hfresh h.tickets_eq, h.turns_eq, h.since_eq]
  refine ⟨hsees, rfl, fun hin => ?_, ?_⟩
  · simp [View.work, View.hold, hin]
  · cases hin : v.inside with
    | true =>
      have hany : v.tickets.any Prod.snd = true := hin
      simp [View.work, View.hold, hany]
    | false =>
      have hany : v.tickets.any Prod.snd = false := hin
      simp [View.work, View.hold, hany, hin]

theorem HadTurn.keeps (h : v.HadTurn x now v') (hin : v.inside = true) : v.Keeps v' := by
  refine ⟨h.tickets_eq, h.since_eq hin, ?_⟩
  rw [h.turns_eq, if_pos hin, List.append_nil]

end View

/-- The desk serves the session of a site, and waits for its lock without a limit. -/
structure Desk.Serves (d : Desk) (x : Site) (carts : CartSettings) (pricing : Pricing) : Prop where
  store_eq : d.cart.store = x.store
  table_eq : d.cart.table = x.table
  name_eq : d.cart.name = cartAttribute
  timeout_eq : d.cart.settings.lockTimeout = none
  make_eq : ∀ n request, ∃ t, d.cart.make n request = .ok (carts.newCart request.text? t)
  pricing_eq : d.pricing = pricing

namespace Desk

variable {x : Site} {d : Desk} {carts : CartSettings} {pricing : Pricing} {r : RequestRef}
  {v : View} (hd : d.Serves x carts pricing) (hr : r.session = x.session)

theorem serves_new {settings : Settings} (hlimit : settings.lockTimeout = none)
    (carts : CartSettings) (pricing : Pricing) (x : Site) (clock : Nat → Timestamp) :
    (Desk.new settings carts pricing x.store x.table clock).Serves x carts pricing :=
  ⟨rfl, rfl, rfl, hlimit, fun n _ => ⟨clock n, rfl⟩, rfl⟩

include hd hr in
theorem Serves.cart : x.Serves d.cart r := ⟨hd.store_eq, hd.table_eq, hr⟩

include hd in
theorem Serves.opening_eq (n : Nat) (l : Workspace) (stored : Shelf) :
    ∃ t, d.cart.opening r.session n (l.request r.id) (stored.value d.cart.name) =
      (Scene.find ⟨l.cached r, stored⟩ r.session .sessionFirst).mapError .error >>= fun found =>
        .ok (found.getD (Scene.newCart ⟨l.cached r, stored⟩ carts t)) := by
  obtain ⟨t, ht⟩ := hd.make_eq n (l.request r.id)
  refine ⟨t, ?_⟩
  have hfind : Scene.find ⟨l.cached r, stored⟩ r.session .sessionFirst =
      Kind.cart.finds r.session d.cart.name .sessionFirst ((l.request r.id).get? d.cart.name)
        (stored.value d.cart.name) := by
    rw [hd.name_eq]
    rfl
  rw [Attribute.opening, hfind]
  cases Kind.cart.finds r.session d.cart.name .sessionFirst ((l.request r.id).get? d.cart.name)
    (stored.value d.cart.name) with
  | error e => rfl
  | ok found =>
    cases found with
    | some c => rfl
    | none =>
      dsimp only
      rw [ht]
      rfl

theorem closed_section {s : Section .cart} {w : View} {value : Cart} {committed : Bool}
    {key : TicketId} {now : Shelf} (hname : s.subject.name = cartAttribute)
    (hkeeps : (v.hold key now).Keeps w) (hfresh : ∀ e ∈ v.tickets, e.1 ≠ key)
    (hsees : v.Sees x now) (hvalid : s.request.id < w.workspace.requests.length)
    (hw : s.Working w.workspace value committed) :
    ((w.leave key).work (s.closing w.workspace)).Ready s.request ∧
      v.HadTurn x now ((w.leave key).work (s.closing w.workspace)) ∧
      ((w.leave key).work (s.closing w.workspace)).scene s.request = w.scene s.request := by
  refine ⟨⟨?_, ?_⟩, hkeeps.hadTurn hfresh hsees _, ?_⟩
  · change _ < (s.closing w.workspace).requests.length
    rw [Section.requests_closing]
    exact hvalid
  · rw [← hname]
    exact hw.active_closing
  · change Scene.mk ((s.closing w.workspace).cached s.request) w.shelf = w.scene s.request
    rw [Workspace.cached, Workspace.request, Section.requests_closing]
    rfl

/-- The body of a change: a copy is changed and committed, or dropped. -/
def change {α : Type} (edit : Cart.Edit α) (s : Section .cart) : Routine (α × Cart) := do
  let c ← s.copy
  match edit c with
  | (.ok a, changed) =>
    let committed ← s.commit changed
    s.close
    return (a, committed)
  | (.error (.error e), _) =>
    s.discard
    Routine.raise e
  | (.error (.panic p), _) => Routine.fail (.panic p)

theorem update_eq {α : Type} (edit : Cart.Edit α) :
    d.update r edit = Section.within d.cart r (change edit) := rfl

theorem wp_change {α : Type} (edit : Cart.Edit α) (hx : ∀ s s', x.allows s s') {s : Section .cart}
    {w : View} {c : Cart} {key : TicketId} {now : Shelf} (hs : x.Serves s.subject s.request)
    (hname : s.subject.name = cartAttribute)
    (hhold : s.hold = some ⟨s.subject.table, s.request.session, key⟩)
    (hkeeps : (v.hold key now).Keeps w) (hfresh : ∀ e ∈ v.tickets, e.1 ≠ key)
    (hsees : v.Sees x now) (hvalid : s.request.id < w.workspace.requests.length)
    (hw : s.Working w.workspace c false) :
    x.wp (fun out v' => v'.Ready s.request ∧ v.HadTurn x now v' ∧
      (out, v'.scene s.request) = (w.scene s.request).edited (edit c))
      (Routine.ensuring s.drop (change edit s)) w := by
  have hmem : (key, true) ∈ w.tickets := by
    rw [hkeeps.tickets_eq]
    simp [View.hold]
  have hin : w.inside = true := hkeeps.inside (View.inside_hold v)
  let handed := w.workspace.editDraft s.draft fun e => { e with copies := e.copies + 1 }
  have hhanded : (v.hold key now).Keeps (w.work handed) := hkeeps.trans ⟨rfl, rfl, rfl⟩
  have hworking : s.Working handed c false := hw.handOut
  rw [Site.wp_ensuring, change, Site.wp_bind]
  refine Section.wp_copy hw ?_
  dsimp only
  rcases edit c with ⟨out, changed⟩
  cases out with
  | error f =>
    cases f with
    | panic p =>
      refine Section.wp_drop_working hhold hs.table_eq hmem hworking ?_
      obtain ⟨hready, hturn, hscene⟩ :=
        closed_section hname hhanded hfresh hsees hvalid hworking
      exact ⟨hready, hturn, congrArg (Prod.mk _) hscene⟩
    | error e =>
      dsimp only
      rw [Site.wp_bind]
      refine Section.wp_discard ?_
      refine Section.wp_drop_working hhold hs.table_eq hmem hworking.discard ?_
      obtain ⟨hready, hturn, hscene⟩ := closed_section
        (w := w.work (handed.editDraft s.draft fun e => { e with discarded := true })) hname
        (hkeeps.trans ⟨rfl, rfl, rfl⟩) hfresh hsees hvalid hworking.discard
      exact ⟨hready, hturn, congrArg (Prod.mk _) hscene⟩
  | ok a =>
    dsimp only
    rw [Site.wp_bind]
    refine Section.wp_commit (v := w.work handed) hs hin hworking (hx _ _) ?_
    have hcommitted := hworking.commit changed
    change x.wp _ (s.close >>= fun _ => _) _
    rw [Site.wp_bind]
    refine Section.wp_close hhold hs.table_eq hmem hcommitted fun out hout => ?_
    rw [hout rfl]
    refine Section.wp_drop_closed hcommitted.closed_closing ?_
    have hlength : s.request.id <
        (handed.store s.request s.subject.name (.of .cart changed)).requests.length := by
      rw [Workspace.length_store]
      exact hvalid
    obtain ⟨hready, hturn, hscene⟩ := closed_section
      (w := (w.put (w.shelf.set s.subject.name (.of .cart changed))).work
        ((handed.store s.request s.subject.name (.of .cart changed)).editDraft s.draft fun e =>
          { e with current := some (.of .cart changed), committed := true }))
      hname (hkeeps.trans ⟨rfl, rfl, rfl⟩) hfresh hsees hlength hcommitted
    refine ⟨hready, hturn, (congrArg (Prod.mk _) hscene).trans (congrArg (Prod.mk _) ?_)⟩
    have hcached := Workspace.cached_store (l := handed) hvalid s.subject.name (.of .cart changed)
    rw [hname] at hcached ⊢
    exact congrArg (Scene.mk · _) hcached

include hd hr in
/-- A change of the cart is one turn, and does what the scene that it finds says. -/
theorem wp_update {α : Type} (edit : Cart.Edit α) (hx : ∀ s s', x.allows s s')
    (hready : v.Ready r) :
    x.wp (fun out v' => v'.Ready r ∧ ∃ now t, v.HadTurn x now v' ∧
      (out, v'.scene r) = Scene.update ⟨v.workspace.cached r, now⟩ r.session carts t edit)
      (d.update r edit) v := by
  have hvalid : r.id < v.workspace.requests.length := hready.valid
  rw [update_eq, Section.within, Site.wp_bind]
  refine Section.wp_start (hd.cart hr) (hd.name_eq ▸ hready.closed) (by simp [hd.timeout_eq]) ?_
  intro key now hfresh hnow n
  obtain ⟨t, ht⟩ := hd.opening_eq (r := r) n v.workspace now
  rw [ht]
  have hkeeps : (v.hold key now).Keeps (v.hold key now) := ⟨rfl, rfl, rfl⟩
  cases hfind : Scene.find ⟨v.workspace.cached r, now⟩ r.session .sessionFirst with
  | error e =>
    refine ⟨⟨hvalid, hready.closed⟩, now, t, hkeeps.hadTurn hfresh hnow v.workspace, ?_⟩
    rw [Scene.update, hfind]
    rfl
  | ok found =>
    let filled := v.workspace.fill r d.cart.name (now.value d.cart.name)
    have hlength : r.id < filled.requests.length := by
      rw [Workspace.length_fill]
      exact hvalid
    have hscene : Scene.mk (filled.cached r) now = Scene.fill ⟨v.workspace.cached r, now⟩ := by
      rw [Workspace.cached_fill hvalid, hd.name_eq]
      rfl
    let c := found.getD (Scene.newCart ⟨v.workspace.cached r, now⟩ carts t)
    let s : Section .cart :=
      ⟨d.cart, r, v.workspace.drafts.length, some ⟨d.cart.table, r.session, key⟩⟩
    have hopened : s.Working (filled.opened .cart r d.cart.name (.of .cart c)) c false :=
      .of_opened d.cart r _ (congrArg List.length (Workspace.drafts_fill ..))
    have hchange := wp_change edit hx (w := (v.hold key now).work (filled.opened _ r d.cart.name _))
      (hd.cart hr) hd.name_eq rfl (hkeeps.trans ⟨rfl, rfl, rfl⟩) hfresh hnow hlength hopened
    refine Site.wp_mono ?_ _ _ hchange
    rintro out v' ⟨hready', hturn, heq⟩
    refine ⟨hready', now, t, hturn, heq.trans ?_⟩
    rw [Scene.update, hfind]
    exact congrArg (Scene.edited · _) hscene

include hd hr in
theorem wp_createOnce (hx : ∀ s s', x.allows s s') (hin : v.inside = true) (hready : v.Ready r)
    (hnone : v.shelf.value cartAttribute = none) :
    x.wp (fun out v' => v'.Ready r ∧ v.Keeps v' ∧ ∃ t,
      out = .ok ((v.scene r).newCart carts t, true) ∧
      v'.scene r = (v.scene r).write ((v.scene r).newCart carts t))
      (d.cart.createOnce r .all) v := by
  refine SessionCart.wp_createOnce (hd.cart hr) (hd.name_eq ▸ hready.closed)
    (by simp [hd.timeout_eq]) fun key now hfresh hnow n => ?_
  obtain ⟨t, ht⟩ := hd.make_eq n (v.workspace.request r.id)
  rw [hnow.eq_shelf hin, hd.name_eq, hnone]
  have hmissing : Kind.cart.decode r.session cartAttribute none = .ok none := rfl
  rw [hmissing]
  dsimp only
  rw [ht]
  let c := carts.newCart (v.workspace.request r.id).text? t
  let w := ((v.hold key v.shelf).put (v.shelf.set cartAttribute (.cart c))).work
    (v.workspace.store r cartAttribute (.cart c))
  have hheld : (v.hold key v.shelf).Keeps w := ⟨rfl, rfl, rfl⟩
  refine ⟨hx _ _, ⟨?_, hready.closed⟩, ?_, t, rfl, ?_⟩
  · change r.id < (v.workspace.store r cartAttribute _).requests.length
    rw [Workspace.length_store]
    exact hready.valid
  · exact (hheld.hadTurn hfresh (v.sees_shelf x) w.workspace).keeps hin
  · exact congrArg (Scene.mk · _) (Workspace.cached_store hready.valid ..)

include hd hr in
theorem wp_currentCart (hx : ∀ s s', x.allows s s') (hin : v.inside = true) (hready : v.Ready r) :
    x.wp (fun out v' => v'.Ready r ∧ v.Keeps v' ∧ ∃ t,
      (out, v'.scene r) = (v.scene r).currentCart r.session carts t) (d.currentCart r) v := by
  rw [currentCart, Site.wp_bind]
  refine wp_read (hd.cart hr) .requestFirst true fun now hnow => ?_
  rw [hnow.eq_shelf hin, hd.name_eq]
  have hfound : Kind.cart.finds r.session cartAttribute .requestFirst
      ((v.workspace.cached r).value cartAttribute) (v.shelf.value cartAttribute) =
      (v.scene r).find r.session .requestFirst := rfl
  rw [hfound]
  simp only [Scene.currentCart]
  cases hfind : (v.scene r).find r.session .requestFirst with
  | error e => exact ⟨hready, ⟨rfl, rfl, rfl⟩, .tick 0, rfl⟩
  | ok found =>
    cases found with
    | some c =>
      refine ⟨⟨?_, ?_⟩, ⟨rfl, rfl, rfl⟩, .tick 0, ?_⟩
      · change r.id < (v.workspace.fill r cartAttribute _).requests.length
        rw [Workspace.length_fill]
        exact hready.valid
      · change (v.workspace.fill r cartAttribute _).active.get? _ = none
        rw [Workspace.active_fill]
        exact hready.closed
      · exact congrArg (Prod.mk _ <| Scene.mk · _) (Workspace.cached_fill hready.valid ..)
    | none =>
      have hnone := (Kind.finds_eq_none hfind).2
      dsimp only
      rw [Attribute.settle, if_pos rfl, Site.wp_bind, View.put_self]
      refine Site.wp_mono ?_ _ _ (wp_createOnce hd hr hx hin hready hnone)
      rintro out v' ⟨hready', hkeeps, t, rfl, hscene⟩
      exact ⟨hready', hkeeps, t, congrArg (Prod.mk _) hscene⟩
end Desk

end SessionCart
