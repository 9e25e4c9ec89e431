import Mathlib.Tactic.Choose
import SessionCart.Proofs.Desk.Change

/-!
# What is done under the lock is determined

The routines of a family are run by desks that differ in their clocks only. Under the lock, all of
them have the same outcome and leave the same scene behind, time stamps put aside: both depend on
the scene that they find and on nothing else.
-/

namespace SessionCart

/-- One effect after another, which a failure leaves out. -/
def Scene.after {α β : Type} (g : α → Scene → Except Failure β × Scene) :
    Except Failure α × Scene → Except Failure β × Scene
  | (.ok a, s) => g a s
  | (.error e, s) => (.error e, s)

section Structure

variable {ι α β γ δ : Type} (x : Site) (r : RequestRef) (f : α → β) (op : ι → Routine α)

/-- In the midst of a turn, each routine of the family has the same outcome and the same effect.
Outcomes are compared by a view of them. -/
def Determined : Prop :=
  ∃ g : Scene → Except Failure β × Scene, ∀ i v, v.inside = true → v.Ready r →
    x.wp (fun out v' => v'.Ready r ∧ v.Keeps v' ∧
      g (v.scene r).undated = (out.map f, (v'.scene r).undated)) (op i) v

/-- Each routine of the family is one turn, or a part of one where there is a turn already. -/
def DeterminedTurn : Prop :=
  ∃ g : Scene → Except Failure β × Scene, ∀ i v, v.Ready r →
    x.wp (fun out v' => v'.Ready r ∧ ∃ now, v.HadTurn x now v' ∧
      g (Scene.undated ⟨v.workspace.cached r, now⟩) = (out.map f, (v'.scene r).undated)) (op i) v

variable {x r f op}

theorem DeterminedTurn.determined (h : DeterminedTurn x r f op) : Determined x r f op := by
  obtain ⟨g, hg⟩ := h
  refine ⟨g, fun i v hin hready => Site.wp_mono ?_ _ _ (hg i v hready)⟩
  rintro out v' ⟨hready', now, hturn, heq⟩
  rw [hturn.sees.eq_shelf hin] at heq
  exact ⟨hready', hturn.keeps hin, heq⟩

theorem DeterminedTurn.bind (h : DeterminedTurn x r f op) (out : β → Except Failure γ)
    {k : α → Routine γ}
    (hk : ∀ a v (Q : Except Failure γ → View → Prop), Q (out (f a)) v → x.wp Q (k a) v) :
    DeterminedTurn x r id fun i => op i >>= k := by
  obtain ⟨g, hg⟩ := h
  refine ⟨fun s => Scene.after (fun b s => (out b, s)) (g s), fun i v hready => ?_⟩
  change x.wp _ (op i >>= k) v
  rw [Site.wp_bind]
  refine Site.wp_mono ?_ _ _ (hg i v hready)
  rintro o v' ⟨hready', now, hturn, heq⟩
  cases o with
  | error e =>
    refine ⟨hready', now, hturn, ?_⟩
    dsimp only
    rw [heq]
    rfl
  | ok a =>
    refine hk a v' _ ⟨hready', now, hturn, ?_⟩
    dsimp only
    rw [heq]
    change (out (f a), _) = ((out (f a)).map id, _)
    cases out (f a) <;> rfl

theorem DeterminedTurn.map {op : ι → Routine α} (h : DeterminedTurn x r id op) (g : α → γ) :
    DeterminedTurn x r id fun i => op i >>= fun a => .done (g a) :=
  h.bind (fun a => .ok (g a)) fun _ _ _ h => h

theorem determined_done {a : ι → α} {b : β} (h : ∀ i, f (a i) = b) :
    Determined x r f fun i => .done (a i) := by
  refine ⟨fun s => (.ok b, s), fun i v _ hready => ⟨hready, ⟨rfl, rfl, rfl⟩, ?_⟩⟩
  rw [← h i]
  rfl

/-- What follows is determined for any part of the family whose results look the same. -/
theorem Determined.bind (h : Determined x r f op) {f' : γ → δ} {k : ι → α → Routine γ}
    (hk : ∀ (b : β) (κ : Type) (e : κ → ι) (a : κ → α), (∀ j, f (a j) = b) →
      Determined x r f' fun j => k (e j) (a j)) :
    Determined x r f' fun i => op i >>= k i := by
  obtain ⟨g, hg⟩ := h
  have hrest : ∀ b, Determined x r f' fun p : { p : ι × α // f p.2 = b } => k p.1.1 p.1.2 :=
    fun b => hk b _ _ _ fun p => p.2
  choose g' hg' using hrest
  refine ⟨fun s => Scene.after g' (g s), fun i v hin hready => ?_⟩
  change x.wp _ (op i >>= k i) v
  rw [Site.wp_bind]
  refine Site.wp_mono ?_ _ _ (hg i v hin hready)
  rintro out v₁ ⟨hready₁, hkeeps₁, heq₁⟩
  cases out with
  | error e =>
    refine ⟨hready₁, hkeeps₁, ?_⟩
    dsimp only
    rw [heq₁]
    rfl
  | ok a =>
    refine Site.wp_mono ?_ _ _ (hg' (f a) ⟨(i, a), rfl⟩ v₁ (hkeeps₁.inside hin) hready₁)
    rintro out v₂ ⟨hready₂, hkeeps₂, heq₂⟩
    refine ⟨hready₂, hkeeps₁.trans hkeeps₂, ?_⟩
    dsimp only
    rw [heq₁]
    exact heq₂

theorem Determined.reindex {κ : Type} (h : Determined x r f op) (e : κ → ι) :
    Determined x r f fun j => op (e j) := by
  obtain ⟨g, hg⟩ := h
  exact ⟨g, fun j => hg (e j)⟩

theorem Determined.bind_id {op : ι → Routine α} (h : Determined x r id op) {f' : γ → δ}
    {k : ι → α → Routine γ} (hk : ∀ a, Determined x r f' fun i => k i a) :
    Determined x r f' fun i => op i >>= k i := by
  refine h.bind fun b κ e a ha => ?_
  have hsame : a = fun _ => b := funext ha
  rw [hsame]
  exact (hk b).reindex e

theorem Determined.andThen (h : Determined x r f op) {f' : γ → δ} {k : ι → Routine γ}
    (hk : Determined x r f' k) : Determined x r f' fun i => op i >>= fun _ => k i :=
  h.bind fun _ _ e _ _ => hk.reindex e

end Structure

/-! ### What a desk does in the midst of a turn -/

section Desks

variable {ι : Type} {x : Site} {r : RequestRef} {carts : CartSettings} {pricing : Pricing}
  {d : ι → Desk} (hx : ∀ s s', x.allows s s') (hr : r.session = x.session)
  (hd : ∀ i, (d i).Serves x carts pricing)

include hr hd in
theorem determined_find (k : Kind) (name : String) :
    Determined x r (Option.map k.undated) fun i => (d i).find r k name := by
  refine ⟨fun s => ((k.decode r.session name (s.stored.value name)).mapError .error, s),
    fun i v hin hready => ?_⟩
  change x.wp _ ((d i).find r k name) v
  rw [Desk.find, Site.wp_bind]
  refine wp_getStored_inside (hd i).store_eq hr hin ?_
  dsimp only
  rw [View.scene, Scene.undated, Shelf.value_undated, Kind.decode_undated]
  cases v.shelf.value name with
  | none => exact ⟨hready, ⟨rfl, rfl, rfl⟩, rfl⟩
  | some value =>
    dsimp only [Kind.decode]
    cases value.as? k with
    | none => exact ⟨hready, ⟨rfl, rfl, rfl⟩, rfl⟩
    | some a => exact ⟨hready, ⟨rfl, rfl, rfl⟩, rfl⟩

include hx hr hd in
theorem determined_put (name : String) {value : ι → Value} {undated : Value}
    (hvalue : ∀ i, (value i).undated = undated) :
    Determined x r id fun i => (d i).put r name (value i) := by
  refine ⟨fun s => (.ok (), { s with stored := s.stored.set name undated }),
    fun i v hin hready => ?_⟩
  refine wp_setStored (hd i).store_eq hr hin (hx _ _)
    ⟨⟨hready.valid, hready.closed⟩, ⟨rfl, rfl, rfl⟩, ?_⟩
  change _ = (Except.ok (), Scene.mk (v.workspace.cached r).undated (v.shelf.set name _).undated)
  rw [Shelf.undated_set, hvalue i]
  rfl

include hx hr hd in
theorem determined_removeAttribute (name : String) :
    Determined x r id fun i => (d i).removeAttribute r name := by
  refine ⟨fun s => (.ok (), { s with stored := s.stored.remove name }), fun i v hin hready => ?_⟩
  change x.wp _ ((d i).removeAttribute r name) v
  rw [Desk.removeAttribute, Site.wp_bind]
  refine wp_removeStored (hd i).store_eq hr hin (hx _ _)
    ⟨⟨hready.valid, hready.closed⟩, ⟨rfl, rfl, rfl⟩, ?_⟩
  change _ = (Except.ok (), Scene.mk (v.workspace.cached r).undated (v.shelf.remove name).undated)
  rw [Shelf.undated_remove]
  rfl

include hx hr hd in
theorem determined_removeAttributes (names : List String) :
    Determined x r id fun i => (d i).removeAttributes r names := by
  induction names with
  | nil => exact determined_done fun _ => rfl
  | cons name rest ih => exact (determined_removeAttribute hx hr hd name).andThen ih

include hx hr hd in
theorem determined_invalidate :
    Determined x r id fun i => Routine.invalidate (d i).cart.store r.session := by
  refine ⟨fun s => (.ok (), { s with stored := .empty }), fun i v hin hready => ?_⟩
  exact wp_invalidate (hd i).store_eq hr hin (hx _ _)
    ⟨⟨hready.valid, hready.closed⟩, ⟨rfl, rfl, rfl⟩, rfl⟩

theorem determined_cache (name : String) (value : Value) :
    Determined x r id fun _ : ι => Routine.cache r name value := by
  refine ⟨fun s => (.ok (), { s with cached := s.cached.set name value.undated }),
    fun i v _ hready => ⟨⟨?_, hready.closed⟩, ⟨rfl, rfl, rfl⟩, ?_⟩⟩
  · change r.id < (v.workspace.editRequest r.id _).requests.length
    rw [Workspace.length_editRequest]
    exact hready.valid
  · change _ = (Except.ok (), Scene.mk
      ((v.workspace.editRequest r.id (·.set name value)).cached r).undated v.shelf.undated)
    rw [Workspace.cached_cache hready.valid, Shelf.undated_set]
    rfl

include hd in
theorem determined_forgetCached : Determined x r id fun i => (d i).cart.remove r .requestOnly := by
  refine ⟨fun s => (.ok (), { s with cached := s.cached.remove cartAttribute }),
    fun i v _ hready => ⟨⟨?_, hready.closed⟩, ⟨rfl, rfl, rfl⟩, ?_⟩⟩
  · change r.id < (v.workspace.editRequest r.id _).requests.length
    rw [Workspace.length_editRequest]
    exact hready.valid
  · change _ = (Except.ok (), Scene.mk ((v.workspace.editRequest r.id
      (·.remove (d i).cart.name)).cached r).undated v.shelf.undated)
    rw [Workspace.cached_uncache hready.valid, Shelf.undated_remove, (hd i).name_eq]
    rfl

include hx hr hd in
theorem determined_write {cart : ι → Cart} {undated : Cart}
    (hcart : ∀ i, (cart i).undated = undated) :
    Determined x r id fun i => (d i).cart.write r (some (cart i)) .all := by
  refine ⟨fun s => (.ok (), s.write undated), fun i v hin hready => ?_⟩
  refine wp_write ((hd i).cart hr) hin ((hd i).name_eq ▸ hready.closed) (hx _ _)
    ⟨⟨?_, hready.closed⟩, ⟨rfl, rfl, rfl⟩, ?_⟩
  · change r.id < (v.workspace.store ..).requests.length
    rw [Workspace.length_store]
    exact hready.valid
  · have hscene : Scene.mk ((v.workspace.store r (d i).cart.name (.cart (cart i))).cached r)
        (v.shelf.set (d i).cart.name (.cart (cart i))) = (v.scene r).write (cart i) := by
      rw [Workspace.cached_store hready.valid, (hd i).name_eq]
      rfl
    dsimp only
    rw [← hcart i, ← Scene.undated_write, ← hscene]
    rfl

include hx hr hd in
theorem determined_remove : Determined x r id fun i => (d i).cart.remove r .all := by
  refine ⟨fun s => (.ok (), ⟨s.cached.remove cartAttribute, s.stored.remove cartAttribute⟩),
    fun i v hin hready => ?_⟩
  refine wp_remove ((hd i).cart hr) hin ((hd i).name_eq ▸ hready.closed) (hx _ _)
    ⟨⟨?_, hready.closed⟩, ⟨rfl, rfl, rfl⟩, ?_⟩
  · change r.id < (v.workspace.unstore ..).requests.length
    rw [Workspace.length_unstore]
    exact hready.valid
  · change _ = (Except.ok (), Scene.mk ((v.workspace.unstore r (d i).cart.name).cached r).undated
      (v.shelf.remove (d i).cart.name).undated)
    rw [Workspace.cached_unstore hready.valid, Shelf.undated_remove, Shelf.undated_remove,
      (hd i).name_eq]
    rfl

include hx hr hd in
theorem determined_currentCart : Determined x r Cart.undated fun i => (d i).currentCart r := by
  refine ⟨fun s => s.currentCart r.session carts (.tick 0), fun i v hin hready => ?_⟩
  refine Site.wp_mono ?_ _ _ (Desk.wp_currentCart (hd i) hr hx hin hready)
  rintro out v' ⟨hready', hkeeps, t, heq⟩
  refine ⟨hready', hkeeps, ?_⟩
  dsimp only
  rw [Scene.currentCart_undated (v.scene r) r.session carts t, ← heq]

include hr hd in
theorem determined_parked : Determined x r (List.map Cart.undated) fun i => (d i).parked r := by
  refine (determined_find hr hd .carts parkedAttribute).bind fun b κ e found hfound => ?_
  refine determined_done (b := b.getD []) fun j => ?_
  rw [← hfound j]
  cases found j <;> rfl

include hr hd in
theorem determined_login :
    Determined x r id fun i => (d i).find r .login userLoginAttribute := by
  have h := determined_find hr hd .login userLoginAttribute
  have hid : Option.map Kind.login.undated = id := by
    funext login
    cases login <;> rfl
  rwa [hid] at h

include hx hr hd in
theorem determined_forgetAnonymous (login : UserLogin) :
    Determined x r id fun i => (d i).forgetAnonymous r login :=
  (determined_invalidate hx hr hd).andThen <| (determined_forgetCached hd).andThen <|
    (determined_put hx hr hd userLoginAttribute fun _ => rfl).andThen (determined_cache ..)

/-! ### Turns -/

include hr hd in
theorem determinedTurn_locked {α β : Type} {f : α → β} {body : ι → Routine α}
    (h : Determined x r f body) : DeterminedTurn x r f fun i => (d i).locked r (body i) := by
  obtain ⟨g, hg⟩ := h
  refine ⟨g, fun i v hready => ?_⟩
  change x.wp _ ((d i).locked r (body i)) v
  rw [Desk.locked, Site.wp_bind]
  refine wp_hold ((hd i).cart hr) (by simp [(hd i).timeout_eq]) fun key now hfresh hnow => ?_
  dsimp only
  rw [Site.wp_ensuring]
  refine Site.wp_mono ?_ _ _ (hg i (v.hold key now) (View.inside_hold v)
    ⟨hready.valid, hready.closed⟩)
  rintro out v' ⟨hready', hkeeps, heq⟩
  have hmem : (key, true) ∈ v'.tickets := by
    rw [hkeeps.tickets_eq]
    simp [View.hold]
  exact wp_drop (hd i).table_eq hmem ⟨⟨hready'.valid, hready'.closed⟩, now,
    hkeeps.hadTurn hfresh hnow v'.workspace, heq⟩

include hx hr hd in
theorem determinedTurn_update {α : Type} {edit : Cart.Edit α} (hedit : edit.Blind) :
    DeterminedTurn x r (fun p => (p.1, p.2.undated)) fun i => (d i).update r edit := by
  refine ⟨fun s => s.update r.session carts (.tick 0) edit, fun i v hready => ?_⟩
  refine Site.wp_mono ?_ _ _ (Desk.wp_update (hd i) hr edit hx hready)
  rintro out v' ⟨hready', now, t, hturn, heq⟩
  refine ⟨hready', now, hturn, ?_⟩
  dsimp only
  rw [Scene.update_undated _ r.session carts t hedit, ← heq]

end Desks

end SessionCart
