import SessionCart.Concurrency.Race
import SessionCart.Proofs.Section.Rules
import SessionCart.Proofs.Thread.Trace

/-!
# What a section starts from

The working value of a section is the value that is stored when the thread looks, after it has got
the lock. Where nothing is stored, it is the value that the request has cached, however old, and
only where nothing is cached either is it a new one.
-/

namespace SessionCart

section Gives

open Routine

variable {k : Kind} {a : Attribute k} {r : RequestRef} {i : ThreadId} {l l' : Workspace}
  {seen : List (World.Action × World)}

/-- The number that the next value of an attribute gets. -/
def World.nextNumber (w : World) (label : String) : Nat := (w.made.get? label).getD 0 + 1

theorem gives_getStored {s : StoreName} {session : SessionId} {name : String} {v : Option Value}
    (h : Gives i l (getStored s session name) seen l' v) :
    ∃ w, seen = [(.get s session name, w)] ∧ l = l' ∧
      v = (w.backend s).store.get? session name := by
  rcases gives_world h with ⟨w, reply, w', rest, hperform, rfl, hnext⟩ | ⟨_, hexpired, _⟩
  · obtain ⟨hreply, rfl, rfl⟩ := gives_ofExcept hnext
    refine ⟨w, rfl, rfl, ?_⟩
    obtain rfl : ((w.backend s).get session name).1 = reply :=
      congrArg Prod.fst (Option.some.inj hperform)
    rw [Backend.get, Backend.perform] at hreply
    split at hreply
    · cases hreply
    · exact (Except.ok.inj hreply).symm
  · cases hexpired

theorem gives_stored {found : Option k.Data} (h : Gives i l (a.stored r) seen l' found) :
    ∃ w, seen = [(.get a.store r.session a.name, w)] ∧ l = l' ∧
      k.decode r.session a.name ((w.backend a.store).store.get? r.session a.name) = .ok found := by
  obtain ⟨before, l₁, v, after, hget, htyped, rfl⟩ := gives_bind h
  obtain ⟨w, rfl, rfl, rfl⟩ := gives_getStored hget
  rw [Attribute.typed_eq] at htyped
  obtain ⟨hdecode, rfl, rfl⟩ := gives_ofExcept htyped
  exact ⟨w, rfl, rfl, hdecode⟩

theorem gives_cached {found : Option k.Data} (h : Gives i l (a.cached r) seen l' found) :
    seen = [] ∧ l = l' ∧ k.decode r.session a.name ((l.request r.id).get? a.name) = .ok found := by
  have htyped : Gives i l (a.typed r ((l.request r.id).get? a.name)) seen l' found := gives_own h
  rw [Attribute.typed_eq] at htyped
  obtain ⟨hdecode, rfl, rfl⟩ := gives_ofExcept htyped
  exact ⟨rfl, rfl, hdecode⟩

theorem gives_hold {hold : Hold} (h : Gives i l (a.hold r) seen l' hold) :
    ∃ key w₀ w₁, seen = [(.draw a.table r.session, w₀),
      (.await a.table key a.settings.lockTimeout, w₁)] ∧ l = l' ∧
      hold = ⟨a.table, r.session, key⟩ := by
  rcases gives_world h with ⟨w₀, key, _, rest, _, rfl, hwait⟩ | ⟨_, hexpired, _⟩
  · rcases gives_world hwait with ⟨w₁, got, _, rest, hperform, rfl, hgot⟩ | ⟨got, hexpired, hgot⟩
    · have htrue : got = true := by
        obtain ⟨_, _, heq⟩ := Option.map_eq_some_iff.mp hperform
        exact (congrArg Prod.fst heq).symm
      subst htrue
      obtain ⟨rfl, rfl, rfl⟩ := gives_done hgot
      exact ⟨key, w₀, w₁, rfl, rfl, rfl⟩
    · -- a wait whose time is up comes to no result
      have hfalse : got = false := by
        cases hlimit : a.settings.lockTimeout with
        | none =>
          rw [hlimit] at hexpired
          cases hexpired
        | some d =>
          rw [hlimit] at hexpired
          exact (Option.some.inj hexpired).symm
      subst hfalse
      obtain ⟨_, _, _, _, _, hraise, _⟩ := gives_bind (k := fun _ => Routine.raise _) hgot
      cases hraise
  · cases hexpired

theorem gives_create {d : k.Data} (h : Gives i l (a.create r) seen l' d) :
    ∃ w, seen = [(.count a.label, w)] ∧ l = l' ∧
      a.make (w.nextNumber a.label) (l.request r.id) = .ok d := by
  rw [Attribute.create] at h
  obtain ⟨before, l₁, n, after, hcount, hrest, rfl⟩ := gives_bind h
  obtain ⟨before', l₂, request, after', hrequest, hmade, rfl⟩ := gives_bind hrest
  rcases gives_world hcount with ⟨w, _, _, rest, hperform, rfl, hnumber⟩ | ⟨_, hexpired, _⟩
  · obtain ⟨rfl, rfl, rfl⟩ := gives_done hnumber
    obtain rfl : w.nextNumber a.label = n := congrArg Prod.fst (Option.some.inj hperform)
    obtain ⟨rfl, rfl, hreply⟩ := gives_done (gives_own hrequest)
    change request = l.request r.id at hreply
    subst hreply
    split at hmade
    · rename_i d' hmake
      obtain ⟨rfl, rfl, rfl⟩ := gives_done hmade
      exact ⟨w, rfl, rfl, hmake⟩
    · cases hmade
  · cases hexpired

theorem gives_find {found : Option k.Data}
    (h : Gives i l (a.read r .sessionFirst false .all) seen l' found) :
    ∃ w, seen = [(.get a.store r.session a.name, w)] ∧ (found = none → l = l') ∧
      k.finds r.session a.name .sessionFirst ((l.request r.id).get? a.name)
        ((w.backend a.store).store.get? r.session a.name) = .ok found := by
  rw [Attribute.read_eq] at h
  obtain ⟨before, l₁, c, after, hcached, hrest, rfl⟩ := gives_bind h
  obtain ⟨rfl, rfl, hdecode⟩ := gives_cached hcached
  obtain ⟨before, l₂, found', after, hlook, hsettle, rfl⟩ := gives_bind hrest
  obtain ⟨before, l₃, stored, after', hstored, hdone, rfl⟩ := gives_bind hlook
  obtain ⟨w, rfl, rfl, hfound⟩ := gives_stored hstored
  obtain ⟨rfl, rfl, rfl⟩ := gives_done hdone
  have hfinds : k.finds r.session a.name .sessionFirst ((l.request r.id).get? a.name)
      ((w.backend a.store).store.get? r.session a.name) = .ok (stored.or c) := by
    simp only [Kind.finds, hdecode, hfound, Except.map]
  cases hor : stored.or c with
  | none =>
    rw [hor] at hsettle hfinds
    obtain ⟨rfl, rfl, rfl⟩ := gives_done hsettle
    exact ⟨w, rfl, fun _ => rfl, hfinds⟩
  | some d =>
    rw [hor] at hsettle hfinds
    have hdone : after = [] ∧ found = some d := by
      cases c with
      | some _ =>
        obtain ⟨rfl, _, rfl⟩ := gives_done hsettle
        exact ⟨rfl, rfl⟩
      | none =>
        have hcache : Gives i l (.act (.own (.cache r.id a.name (.of k d))) fun _ =>
          .done (some d)) after l' found := hsettle
        have hrest := gives_own hcache
        obtain ⟨rfl, _, rfl⟩ := gives_done hrest
        exact ⟨rfl, rfl⟩
    obtain ⟨rfl, rfl⟩ := hdone
    exact ⟨w, rfl, by simp, hfinds⟩

end Gives

namespace Section

open Routine

variable {k : Kind} {a : Attribute k} {r : RequestRef} {i : ThreadId} {l l' : Workspace}
  {seen : List (World.Action × World)} {s : Section k}

/-- The value is the stored one or, where there is none, one that was made meanwhile. -/
def Fresh (a : Attribute k) (request : Request) (stored : Option Value)
    (meanwhile : List (World.Action × World)) (d : k.Data) : Prop :=
  stored = some (.of k d) ∨
    stored = none ∧ ∃ w, (.count a.label, w) ∈ meanwhile ∧
      a.make (w.nextNumber a.label) request = .ok d

/-- What a section that did not join another one starts from: the thread gets the lock, looks at the
session, and makes a value only if it has found nothing in either place. -/
theorem exists_start (h : Gives i l (start a r) seen l' s) (houter : s.isNested = false) :
    ∃ key w₀ w₁ w made d,
      seen = (.draw a.table r.session, w₀) :: (.await a.table key a.settings.lockTimeout, w₁) ::
        (.get a.store r.session a.name, w) :: made ∧
      l'.drafts[s.draft]? = some { kind := k, current := some (.of k d) } ∧
      ((w.backend a.store).store.get? r.session a.name = some (.of k d) ∨
       (w.backend a.store).store.get? r.session a.name = none ∧
        ((l.request r.id).get? a.name = some (.of k d) ∧ made = [] ∨
         (l.request r.id).get? a.name = none ∧ ∃ w₂, made = [(.count a.label, w₂)] ∧
           a.make (w₂.nextNumber a.label) (l.request r.id) = .ok d)) := by
  rw [start_eq] at h
  obtain ⟨before, l₁, found, after, hopen, hrest, rfl⟩ := gives_bind h
  obtain ⟨rfl, hl₁, -⟩ := gives_done (gives_own hopen)
  change l = l₁ at hl₁
  subst hl₁
  cases found with
  | some d =>
    obtain ⟨_, _, rfl⟩ := gives_done hrest
    cases houter
  | none =>
    obtain ⟨before, l₂, hold, after, hhold, hopened, rfl⟩ := gives_bind hrest
    obtain ⟨key, w₀, w₁, rfl, rfl, rfl⟩ := gives_hold hhold
    obtain ⟨before, l₃, d, after, hpick, hbegin, rfl⟩ := gives_bind (gives_onFailure hopened)
    obtain ⟨before', l₄, found, after', hfind, hchoose, rfl⟩ := gives_bind hpick
    obtain ⟨w, rfl, hsame, hfinds⟩ := gives_find hfind
    obtain ⟨before, l₅, id, after, hdraft, hdone, rfl⟩ := gives_bind hbegin
    obtain ⟨rfl, rfl, rfl⟩ := gives_done hdone
    have hnext := gives_own hdraft
    obtain ⟨rfl, rfl, rfl⟩ := gives_done hnext
    have hplace : (l₃.perform (.begin k r.session a.name (.of k d))).2.drafts[l₃.drafts.length]? =
        some { kind := k, current := some (.of k d) } := by
      simp [Workspace.perform]
    cases found with
    | some d' =>
      obtain ⟨rfl, rfl, rfl⟩ := gives_done hchoose
      refine ⟨key, w₀, w₁, w, [], d, rfl, hplace, ?_⟩
      rcases Kind.finds_sessionFirst hfinds with hstored | ⟨hstored, hcached⟩
      · exact .inl hstored
      · exact .inr ⟨hstored, .inl ⟨hcached, rfl⟩⟩
    | none =>
      obtain rfl := hsame rfl
      obtain ⟨w₂, rfl, rfl, hmake⟩ := gives_create hchoose
      obtain ⟨hcached, hstored⟩ := Kind.finds_eq_none hfinds
      exact ⟨key, w₀, w₁, w, _, d, rfl, hplace, .inr ⟨hstored, .inr ⟨hcached, w₂, rfl, hmake⟩⟩⟩

theorem run_copy {d : k.Data}
    (h : l.drafts[s.draft]? = some { kind := k, current := some (.of k d) }) (patient : Bool)
    (w : World) :
    s.copy.run patient i w l = .finished (.ok d) w
      (l.editDraft s.draft fun e => { e with copies := e.copies + 1 }) := by
  have hdraft := Workspace.draft_eq (Workspace.getElem?_editDraft h fun e =>
    { e with copies := e.copies + 1 })
  simp only [copy, handOut, Routine.draft, own, act_bind, done_bind, pure_eq, run,
    Workspace.perform, hdraft, Option.bind_some, Value.as?_of]

/-- **When a section starts afresh.** Whatever other threads do in between, an outermost section
that is opened reads the session once, after the thread has got the lock. Its working value, which
is its first copy too, is the stored one or a new one exactly if something is stored or nothing is
cached; otherwise it is the value that the request has cached. -/
theorem fresh_iff (h : Gives i l (start a r) seen l' s) (houter : s.isNested = false) :
    ∃ key w₀ w₁ w made d,
      seen = (.draw a.table r.session, w₀) :: (.await a.table key a.settings.lockTimeout, w₁) ::
        (.get a.store r.session a.name, w) :: made ∧
      (l'.draft s.draft).current = some (.of k d) ∧
      (∀ patient w', s.copy.run patient i w' l' = .finished (.ok d) w'
        (l'.editDraft s.draft fun e => { e with copies := e.copies + 1 })) ∧
      (Fresh a (l.request r.id) ((w.backend a.store).store.get? r.session a.name) made d ↔
        ((w.backend a.store).store.get? r.session a.name).isSome = true ∨
          (l.request r.id).get? a.name = none) ∧
      (¬Fresh a (l.request r.id) ((w.backend a.store).store.get? r.session a.name) made d →
        (l.request r.id).get? a.name = some (.of k d)) := by
  obtain ⟨key, w₀, w₁, w, made, d, hseen, hdraft, hstart⟩ := exists_start h houter
  refine ⟨key, w₀, w₁, w, made, d, hseen, ?_, fun patient w' => run_copy hdraft patient w', ?_⟩
  · rw [Workspace.draft_eq hdraft]
  rcases hstart with hstored | ⟨hstored, ⟨hcached, rfl⟩ | ⟨hcached, w₂, rfl, hmake⟩⟩
  · have hfresh : Fresh a (l.request r.id) ((w.backend a.store).store.get? r.session a.name) made
        d := .inl hstored
    exact ⟨iff_of_true hfresh (.inl (by rw [hstored]; rfl)), fun hstale => absurd hfresh hstale⟩
  · refine ⟨iff_of_false ?_ ?_, fun _ => hcached⟩
    · rintro (hsome | ⟨_, w₂, hmem, _⟩)
      · rw [hstored] at hsome
        cases hsome
      · cases hmem
    · rw [hstored, hcached]
      simp
  · have hfresh : Fresh a (l.request r.id) ((w.backend a.store).store.get? r.session a.name)
        [(.count a.label, w₂)] d :=
      .inr ⟨hstored, w₂, List.mem_singleton_self _, hmake⟩
    exact ⟨iff_of_true hfresh (.inr hcached), fun hstale => absurd hfresh hstale⟩

/-- The first request of a session, which has nothing cached. -/
theorem fresh_iff_first :
    ∃ seen l' s w made d, Gives 0 { requests := [.new Race.arena] }
        (start Race.counter ⟨0, Race.arena⟩) seen l' s ∧ s.isNested = false ∧
      (.get Race.counter.store Race.arena Race.counter.name, w) ∈ seen ∧
      (l'.draft s.draft).current = some (.json d) ∧
      Fresh Race.counter (.new Race.arena)
        ((w.backend Race.counter.store).store.get? Race.arena Race.counter.name) made d := by
  obtain ⟨seen, hgives⟩ := exists_gives_of_run (rfl :
    (start Race.counter ⟨0, Race.arena⟩).run true 0 Race.dawn { requests := [.new Race.arena] } =
      .finished (.ok _) _ _)
  obtain ⟨_, _, _, w, made, d, rfl, hcurrent, _, hfresh, _⟩ := fresh_iff hgives rfl
  exact ⟨_, _, _, w, made, d, hgives, rfl, by simp [Race.counter], hcurrent, hfresh.mpr (.inr rfl)⟩

/-- One request stores a value, another one reads it, and the first one removes it. Gives the other
one. -/
def removedMeanwhile (a : Attribute k) (session : SessionId) (d : k.Data) : Routine RequestRef := do
  let writer ← Routine.accept (.new session)
  let reader ← Routine.accept (.new session)
  a.write writer (some d) .all
  let _ ← a.current reader false
  a.remove writer .all
  return reader

theorem not_fresh_after_removal : ∃ r w l s w' l',
    (removedMeanwhile Race.counter Race.arena (.int 7)).run true 0 Race.dawn {} =
      .finished (.ok r) w l ∧
    (start Race.counter r).run true 0 w l = .finished (.ok s) w' l' ∧ s.isNested = false ∧
    (l'.draft s.draft).current = some (.json (.int 7)) ∧
    ∀ made, ¬Fresh Race.counter (l.request r.id)
      ((w.backend Race.counter.store).store.get? r.session Race.counter.name) made (.int 7) := by
  refine ⟨_, _, _, _, _, _, rfl, rfl, rfl, rfl, fun made => ?_⟩
  rintro (hstored | ⟨_, w₂, _, hmake⟩)
  · cases hstored
  · simp [Race.counter, Json.int] at hmake

end Section

end SessionCart
