import SessionCart.Concurrency.Race
import SessionCart.Proofs.Desk.Terms
import SessionCart.Proofs.Section.Consistent
import SessionCart.Proofs.Thread.Custody

/-!
# Handlers and the lock of their session

Whatever handler of the desk is called, whatever fails and whatever sections the thread has open: it
writes to its own session only, and only while the thread holds the lock of that session; it asks
for no other lock; and when it ends, the thread has the locks that it had before, and its table the
sections, save one of another kind of value under the cart's name.
-/

namespace SessionCart

theorem Terms.fit_within (s : StoreName) (session : SessionId) (t : TableName)
    (writes locks : Prop) :
    (within s session t writes locks).fit = Value.Carries fun _ => True :=
  funext fun v => (eq_true v.carries_true).symm

namespace Company

variable {C : Company} {d : Desk} {r : RequestRef} {tables : TableName → Prop} {α : Type}

/-! ### What is done in a section of the cart -/

theorem Works.change (edit : Cart.Edit α) {s : Section .cart} (hs : Terms.Opens d.cart r s) :
    C.Works s tables (Desk.change edit s) := by
  obtain ⟨subject, request, draft, hold⟩ := s
  obtain ⟨rfl, rfl, hhold⟩ := hs
  have hmake : (Terms.inside d.cart request).Makes d.cart := fun _ _ _ _ => trivial
  refine bind (Terms.Abides.copy hmake) fun c => ?_
  rcases edit c with ⟨out, changed⟩
  cases out with
  | ok a =>
    exact commit changed fun committed => close ⟨rfl, rfl, hhold⟩ (a, committed)
  | error f =>
    cases f with
    | error e => exact bind Terms.Abides.discard fun _ => fail _
    | panic p => exact fail _

theorem Works.renew (locale : String) {s : Section .cart} (hs : Terms.Opens d.cart r s) :
    C.Works s tables (d.renew r locale s) := by
  obtain ⟨subject, request, draft, hold⟩ := s
  obtain ⟨rfl, rfl, hhold⟩ := hs
  have hmake : (Terms.inside d.cart request).Makes d.cart := fun _ _ _ _ => trivial
  refine bind (Terms.Abides.copy hmake) fun c => ?_
  have hfind := Terms.Abides.desk_find (T := .inside d.cart request) (d := d) (r := request)
    ⟨rfl, rfl⟩ .login
  refine bind (hfind userLoginAttribute) fun user => ?_
  refine bind (hfind autoLoginAttribute) fun auto => ?_
  have hredo := Terms.Abides.redo (T := .inside d.cart request) (r := request)
    (s := ⟨d.cart, request, draft, hold⟩) (Terms.fit_within ..) d.upholds_true
    (c.refresh user auto locale) (fun _ _ => trivial) fun e he => Desk.refresh_error he
  refine bind hredo fun p => ?_
  obtain ⟨modified, changed⟩ := p
  cases modified with
  | true =>
    exact commit changed fun _ => close ⟨rfl, rfl, hhold⟩ true
  | false => exact bind Terms.Abides.discard fun _ => close ⟨rfl, rfl, hhold⟩ false

namespace Custody

/-- The handler's custody, with or without the lock. -/
abbrev OfDesk (C : Company) (d : Desk) (r : RequestRef) (tables : TableName → Prop)
    (P : Grip → Prop) (x : Routine α) : Prop :=
  C.Custody .cart (r.session, d.cart.name) tables P x

/-- What is in custody where a section may be open is so where the lock is held. -/
theorem inside {x : Routine α}
    (hx : OfDesk C d r tables (·.Ready .cart (r.session, d.cart.name) tables) x) :
    OfDesk C d r tables (·.Holds r.session tables) x :=
  fun g hholds => hx g fun _ => hholds

theorem bind_inside {β : Type} {x : Routine α} {f : α → Routine β}
    (hx : OfDesk C d r tables (·.Holds r.session tables) x)
    (hf : ∀ y, OfDesk C d r tables (·.Holds r.session tables) (f y)) :
    OfDesk C d r tables (·.Holds r.session tables) (x >>= f) :=
  bind (fun _ _ hholds hrestored => hrestored.holds hholds) hx hf

theorem bind_ready {β : Type} {x : Routine α} {f : α → Routine β}
    (hx : OfDesk C d r tables (·.Ready .cart (r.session, d.cart.name) tables) x)
    (hf : ∀ y, OfDesk C d r tables (·.Ready .cart (r.session, d.cart.name) tables) (f y)) :
    OfDesk C d r tables (·.Ready .cart (r.session, d.cart.name) tables) (x >>= f) :=
  bind (fun _ _ hready hrestored => hrestored.ready hready) hx hf

theorem find (P : Grip → Prop) (k : Kind) (name : String) :
    OfDesk C d r tables P (d.find r k name) :=
  of_reading (Terms.Abides.desk_find (T := .reading d.cart r) ⟨rfl, rfl⟩ k name)

variable (htable : tables d.cart.table)

include htable

theorem update (edit : Cart.Edit α) :
    OfDesk C d r tables (·.Ready .cart (r.session, d.cart.name) tables) (d.update r edit) :=
  within htable fun _ hs => Works.change edit hs

theorem flag (edit : Cart.Edit Bool) :
    OfDesk C d r tables (·.Ready .cart (r.session, d.cart.name) tables)
      (d.update r edit >>= fun p => .done p.1) :=
  bind_ready (update htable edit) fun p => done p.1

theorem currentCart :
    OfDesk C d r tables (·.Ready .cart (r.session, d.cart.name) tables) (d.currentCart r) := by
  refine bind_ready (read (fun _ _ hready hrestored => hrestored.ready hready) htable .requestFirst
    .all) fun found => ?_
  cases found with
  | some c => exact done c
  | none => exact of_reading (Terms.Abides.create fun _ _ _ _ => trivial)

theorem clear :
    OfDesk C d r tables (·.Ready .cart (r.session, d.cart.name) tables) (d.clear r) := by
  refine locked htable (bind_inside (update htable fun c => (.ok (), c.clear)).inside fun _ => ?_)
  refine bind_inside (find _ .login userLoginAttribute) fun login => ?_
  cases login with
  | none => exact done ()
  | some login =>
    dsimp only
    split
    · exact of_inside (Terms.Abides.forgetAnonymous (Terms.fit_within ..) ⟨trivial, rfl, rfl⟩ login)
    · exact done ()

theorem destroy :
    OfDesk C d r tables (·.Ready .cart (r.session, d.cart.name) tables) (d.destroy r) := by
  refine locked htable (bind_inside (clear htable).inside fun _ => ?_)
  have hremove := Terms.Abides.remove (T := .inside d.cart r) (a := d.cart) ⟨trivial, rfl, rfl⟩ .all
  refine bind_inside (of_inside hremove) fun _ => ?_
  exact of_inside (Terms.Abides.removeAttributes (T := .inside d.cart r) ⟨trivial, rfl, rfl⟩
    attributesBesideCart)

theorem refresh (locale : String) :
    OfDesk C d r tables (·.Ready .cart (r.session, d.cart.name) tables) (d.refresh r locale) := by
  rw [Desk.refresh_eq]
  refine bind_ready (currentCart htable) fun c => ?_
  refine bind_ready (find _ .login userLoginAttribute) fun user => ?_
  refine bind_ready (find _ .login autoLoginAttribute) fun auto => ?_
  have hstale : OfDesk C d r tables (·.Ready .cart (r.session, d.cart.name) tables)
      (Routine.ofExcept (c.isStale user auto locale)) := by
    intro g _
    cases c.isStale user auto locale <;> exact (Grip.Steady.refl g).restored .cart _
  refine bind_ready hstale fun stale => ?_
  cases stale with
  | true => exact within htable fun _ hs => Works.renew locale hs
  | false => exact done false

theorem replace (store : Option String) (all : List Cart) :
    OfDesk C d r tables (·.Holds r.session tables) (d.replace r store all) := by
  have hnew : OfDesk C d r tables (·.Holds r.session tables)
      (d.currentCart r >>= fun c => .done (c, all)) :=
    bind_inside (currentCart htable).inside fun c => done (c, all)
  rw [Desk.replace]
  cases store.filter (!·.isEmpty) with
  | none => exact hnew
  | some store =>
    have hnote := Terms.Abides.noteStore (T := .inside d.cart r) (Terms.fit_within ..)
      ⟨trivial, rfl, rfl⟩ store
    exact bind_inside (of_inside hnote) fun _ => hnew

theorem switchCart (index store : Option String) :
    OfDesk C d r tables (·.Ready .cart (r.session, d.cart.name) tables)
      (d.switchCart r index store) := by
  rw [Desk.switchCart_eq]
  have hcollect := Terms.Abides.collect (T := .inside d.cart r) (Terms.fit_within ..) ⟨rfl, rfl⟩
    ⟨trivial, rfl, rfl⟩
  refine locked htable (bind_inside (of_inside hcollect) fun all => ?_)
  have hpick : OfDesk C d r tables (·.Holds r.session tables) (d.pick r index store all) := by
    rw [Desk.pick]
    split
    · exact done _
    · exact replace htable store all
  refine bind_inside hpick fun p => ?_
  have hput := Terms.Abides.put (T := .inside d.cart r) (d := d) ⟨trivial, rfl, rfl⟩
    parkedAttribute
    (show (Terms.inside d.cart r).fit (.carts p.2) from trivial)
  refine bind_inside (of_inside hput) fun _ => ?_
  exact of_inside (Terms.Abides.write (T := .inside d.cart r) ⟨trivial, rfl, rfl⟩
    (fun _ _ => trivial) .all)

theorem handler {x : Routine α} (hx : d.Handler r x) :
    OfDesk C d r tables (·.Ready .cart (r.session, d.cart.name) tables) x := by
  cases hx with
  | currentCart => exact currentCart htable
  | addItem product quantity =>
    exact bind_ready (update htable (d.pricing.addItem product quantity)) fun p =>
      of_reading (Terms.Abides.summarise p.2)
  | changeQuantity product quantity =>
    exact bind_ready (update htable (Cart.setItemQuantity product quantity)) fun p =>
      of_reading (Terms.Abides.summarise p.2)
  | removeItem product =>
    exact bind_ready (update htable (Cart.removeItem product)) fun p =>
      of_reading (Terms.Abides.summarise p.2)
  | enterPromoCode code =>
    exact flag htable (d.pricing.enterPromoCode code)
  | withdrawPromoCode code =>
    exact flag htable fun c => (.ok (c.removePromoCode code).1, (c.removePromoCode code).2)
  | clear => exact clear htable
  | destroy => exact destroy htable
  | refresh locale => exact refresh htable locale
  | switchCart index store => exact switchCart htable index store
  | dropParked index =>
    have hunpark := Terms.Abides.unpark (T := .inside d.cart r) (Terms.fit_within ..) ⟨rfl, rfl⟩
      ⟨trivial, rfl, rfl⟩ index
    exact locked htable (of_inside hunpark)

end Custody

end Company

/-! ### Calls of handlers -/

/-- In every state that is reached, a thread holds the lock of each session for which it has a
section open. -/
theorem Bench.depth_pos_of_openDraft {v : Venue} {i : ThreadId} {others : World → World → Prop}
    (hothers : ∀ w w', others w w' → w.Apart i w') {w : World} (hsound : ∀ t, (w.locks t).Sound)
    (hnone : ∀ t, ∀ k ∈ (w.locks t).tickets, k.thread ≠ i) {b : Bench}
    (hreach : Relation.ReflTransGen (Step v i others) (idle w) b) {k : Kind} {session : SessionId}
    {name : String} (hopen : b.workspace.openDraft? k session name ≠ none) :
    0 < (b.world.locks v.table).depth i session := by
  obtain ⟨g, hfits, h⟩ := exists_agrees (Company.bounds_anybody hothers) hreach
    (Grip.fits_of hsound (fun hcalm => False.elim hcalm) {}) (agrees_idle hnone)
  rw [← h.workspace_eq] at hopen
  obtain ⟨d, hentry⟩ : ∃ d, g.workspace.active.get? (session, name) = some d := by
    cases hentry : g.workspace.active.get? (session, name) with
    | none => simp [Workspace.openDraft?, hentry] at hopen
    | some d => exact ⟨d, rfl⟩
  obtain ⟨u, hu, hisOpen, hkey, -⟩ := (h.drafted.active_iff _ _).mp hentry
  obtain ⟨hold, hhas, htable, hsession⟩ := h.locked.exists_hold hu hisOpen
  have hholds : g.Holds session (· = v.table) :=
    ⟨hold, hhas, hsession.trans (congrArg Prod.fst hkey), htable⟩
  obtain ⟨_, rfl, hpos⟩ := hfits.depth_pos hholds
  exact hpos

namespace Desk

variable {d : Desk} {r : RequestRef} {α : Type} {x : Routine α} {i : ThreadId}
  {others : World → World → Prop} {w w' : World} {l l' : Workspace} {events : List Event}
  {rest : Routine α}

/-- **Lock discipline.** A call of a handler changes only its own session, and only while the thread
holds the lock of the session; it asks for no other lock. When it ends, however it does, the locks
and the open sections of the thread are as before, but for a section of another kind of value that
was open under the cart's name: it can be out of the table. -/
theorem handler_keeps_custody (hx : d.Handler r x) (hothers : ∀ w w', others w w' → w.Apart i w')
    (hsound : ∀ t, (w.locks t).Sound) (t₀ : TableName)
    (hopen : l.openDraft? .cart r.session d.cart.name ≠ none →
      0 < (w.locks t₀).depth i r.session)
    (hcourse : x.Course i others w l events rest w' l') :
    (∀ e ∈ events, ∀ s session, e.action.written? = some (s, session) →
      s = d.cart.store ∧ session = r.session ∧
        ∃ t, (t = d.cart.table ∨ t = t₀) ∧ 0 < (e.world.locks t).depth i session) ∧
    (∀ e ∈ events, ∀ t session, e.action.drawn? = some (t, session) →
      t = d.cart.table ∧ session = r.session) ∧
    ∀ out, rest = .ended out →
      (∀ t session, (w'.locks t).depth i session = (w.locks t).depth i session) ∧
      (∀ key, key ≠ (r.session, d.cart.name) → l'.active.get? key = l.active.get? key) ∧
      (l'.active.get? (r.session, d.cart.name) = l.active.get? (r.session, d.cart.name) ∨
        l.openDraft? .cart r.session d.cart.name = none ∧
          l'.active.get? (r.session, d.cart.name) = none) := by
  have hfits := Grip.fits_of (C := .anybody) (i := i) hsound (fun hcalm => hcalm.elim) l
  have hready : (Grip.of i w l).Ready .cart (r.session, d.cart.name)
      fun t => t = d.cart.table ∨ t = t₀ := by
    intro hopen'
    obtain ⟨hold, hhas, hsession, htable⟩ := hfits.holds_of_depth (hopen hopen')
    exact ⟨hold, hhas, hsession, .inr htable⟩
  obtain ⟨hsecured, g, hfits', rfl, hrest⟩ := Company.guarded_course
    (Company.bounds_anybody hothers) hcourse hfits rfl
    (Company.Custody.handler (.inl rfl) hx _ hready)
  have hterms : (Terms.within d.cart.store r.session d.cart.table True True).Abides _ x :=
    Terms.Abides.handler (Terms.fit_within ..) d.upholds_true ⟨rfl, rfl⟩ ⟨trivial, rfl, rfl⟩
      ⟨trivial, rfl, rfl⟩ hx
  have hmay := (hterms.course (fun _ => trivial) hcourse).1
  refine ⟨fun e he s session hwritten => ?_, fun e he t session hdrawn => ?_, ?_⟩
  · obtain ⟨_, hown⟩ := (Terms.may_within (hmay e he)).1 _ hwritten
    cases hown
    obtain ⟨g₁, hfits₁, hholds⟩ := hsecured e he
    exact ⟨rfl, rfl, hfits₁.depth_pos (hholds (by simp [hwritten]))⟩
  · obtain ⟨_, hown⟩ := (Terms.may_within (hmay e he)).2 _ hdrawn
    cases hown
    exact ⟨rfl, rfl⟩
  · rintro out rfl
    have hrestored : (Grip.of i w l).Restored .cart (r.session, d.cart.name) g := by
      cases out <;> exact hrest
    refine ⟨fun t session => ?_, hrestored.others_eq, hrestored.entry_eq⟩
    rw [hfits'.depth_eq, hrestored.tickets_eq, hfits.depth_eq]

/-- A pen is added to the cart while the thread has a section of the cart open. -/
theorem handler_keeps_custody_nested : ∃ (w w' : World) (l l' : Workspace) (events : List Event)
    (out : Except Failure CartSummary),
    (∃ updates, Relation.ReflTransGen
      (Bench.Step ⟨.main, .shared, fun _ => .cart⟩ 0 (World.Apart 0)) (Bench.idle Race.dawn)
      ⟨w, l, updates, []⟩) ∧
    (kiosk.addItem ⟨0, Race.arena⟩ "pen" .one).Course 0 (World.Apart 0) w l events (.ended out)
      w' l' ∧
    l.openDraft? .cart Race.arena cartAttribute ≠ none ∧
    (w.main.store.get? Race.arena cartAttribute).isSome = false ∧
    (w'.main.store.get? Race.arena cartAttribute).isSome = true ∧
    (∀ e ∈ events, ∀ s session, e.action.written? = some (s, session) →
      session = Race.arena ∧ 0 < (e.world.locks .shared).depth 0 session) ∧
    (w'.locks .shared).depth 0 Race.arena = 1 := by
  let v : Venue := ⟨.main, .shared, fun _ => .cart⟩
  have hruns : ∃ s w l out w' l',
      (Section.start kiosk.cart ⟨0, Race.arena⟩).run true 0 Race.dawn
        { requests := [.new Race.arena] } = .finished (.ok s) w l ∧
      (kiosk.addItem ⟨0, Race.arena⟩ "pen" .one).run true 0 w l = .finished out w' l' ∧
      l.openDraft? .cart Race.arena cartAttribute = some 0 ∧
      (w.locks .shared).depth 0 Race.arena = 1 ∧
      (w.main.store.get? Race.arena cartAttribute).isSome = false ∧
      (w'.main.store.get? Race.arena cartAttribute).isSome = true :=
    ⟨_, _, _, _, _, _, rfl, rfl, rfl, rfl, rfl, rfl⟩
  obtain ⟨s, w, l, out, w', l', hstart, hrun, hopen, hdepth, hbefore, hafter⟩ := hruns
  have hstart := Routine.ends_of_run (World.Apart.refl 0) hstart
  have hopened := @Bench.Step.start v 0 (World.Apart 0)
    ⟨Race.dawn, { requests := [.new Race.arena] }, [], []⟩ _ kiosk.cart _ (.ok s) w l
    ⟨rfl, rfl, rfl⟩ hstart
  have hreach := (Relation.ReflTransGen.single
    (Bench.Step.accept (Bench.idle Race.dawn) (.new Race.arena))).tail hopened
  have hheld : l.openDraft? .cart Race.arena kiosk.cart.name ≠ none →
      0 < (w.locks .shared).depth 0 Race.arena :=
    Bench.depth_pos_of_openDraft (fun _ _ h => h) (World.sound_new _) (World.thread_ne_new _ _)
      hreach
  obtain ⟨events, hcourse⟩ := (Routine.ends_of_run (World.Apart.refl 0) hrun).exists_course
  obtain ⟨hwritten, _, hlast⟩ := handler_keeps_custody (.addItem "pen" .one) (fun _ _ h => h)
    (hstart.sound_locks (fun _ _ h => h) (World.sound_new _)) .shared hheld hcourse
  refine ⟨w, w', l, l', events, out, ⟨_, hreach⟩, hcourse, by simp [hopen], hbefore, hafter, ?_, ?_⟩
  · intro e he s session hwrites
    obtain ⟨_, rfl, t, ht, hpos⟩ := hwritten e he s session hwrites
    obtain rfl : t = .shared := ht.elim id id
    exact ⟨rfl, hpos⟩
  · rw [(hlast out rfl).1]
    exact hdepth

/-- A list of notes under the name of the cart. -/
def notes : Attribute .json where
  label := "s"
  name := cartAttribute
  store := .main
  table := .shared
  settings := {}
  make := fun n _ => .ok (.int n)

/-- A section of another kind that was open under the cart's name is not in the table any more. -/
theorem entry_lost_to_call : ¬∀ (d : Desk) (r : RequestRef) (α : Type) (x : Routine α)
    (w w' : World) (l l' : Workspace) (out : Except Failure α), d.Handler r x →
    (∀ t, (w.locks t).Sound) → (l.openDraft? .cart r.session d.cart.name ≠ none →
      0 < (w.locks d.cart.table).depth 0 r.session) → x.Ends 0 (World.Apart 0) w l out w' l' →
    ∀ session name, l'.hasOpen session name = l.hasOpen session name := by
  intro hclaim
  have hruns : ∃ s w l out w' l',
      (Section.start notes ⟨0, Race.arena⟩).run true 0 Race.dawn
        { requests := [.new Race.arena] } = .finished (.ok s) w l ∧
      (kiosk.clear ⟨0, Race.arena⟩).run true 0 w l = .finished out w' l' ∧
      l.openDraft? .cart Race.arena cartAttribute = none ∧
      l.hasOpen Race.arena cartAttribute = true ∧ l'.hasOpen Race.arena cartAttribute = false :=
    ⟨_, _, _, _, _, _, rfl, rfl, rfl, rfl, rfl⟩
  obtain ⟨s, w, l, out, w', l', hstart, hrun, hopen, hbefore, hafter⟩ := hruns
  have hsound := (Routine.ends_of_run (World.Apart.refl 0) hstart).sound_locks (fun _ _ h => h)
    (World.sound_new _)
  have hsame := hclaim kiosk ⟨0, Race.arena⟩ _ _ w w' l l' out .clear hsound
    (fun hsome => absurd hopen hsome) (Routine.ends_of_run (World.Apart.refl 0) hrun) Race.arena
    cartAttribute
  rw [hbefore, hafter] at hsame
  cases hsame

end Desk

end SessionCart
