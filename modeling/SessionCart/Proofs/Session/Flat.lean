import Mathlib.Data.List.Induction
import Mathlib.Data.List.Sort
import SessionCart.Proofs.Dict
import SessionCart.Proofs.Text.Bytes
import SessionCart.Session.Backend

/-!
# Session storage as a flat map

Storage is a map of maps: a session appears with its first value and disappears with its last one.
What it answers is what one map from sessions and names to values would answer. As no session is
left without values, the answers tell nothing else: storage with the same values gives the same
answers from then on, however it came to them.
-/

namespace SessionCart

/-! ### Sessions with values -/

namespace Store

variable {s s' : Store} {session : SessionId}

/-- No session is kept without a value. -/
def Tidy (s : Store) : Prop :=
  ∀ session values, s.sessions.get? session = some values → values.isEmpty = false

theorem tidy_empty : empty.Tidy := by
  rintro session values ⟨⟩

theorem Tidy.insert (h : s.Tidy) (session : SessionId) {values : Dict String Value}
    (hvalues : values.isEmpty = false) : (⟨s.sessions.insert session values⟩ : Store).Tidy := by
  intro other others hothers
  rw [Dict.get?_insert] at hothers
  split at hothers
  · rwa [← Option.some.inj hothers]
  · exact h other others hothers

theorem Tidy.erase (h : s.Tidy) (session : SessionId) :
    (⟨s.sessions.erase session⟩ : Store).Tidy := by
  intro other others hothers
  rw [Dict.get?_erase] at hothers
  split at hothers
  · cases hothers
  · exact h other others hothers

theorem Tidy.set (h : s.Tidy) (session : SessionId) (name : String) (value : Value) :
    (s.set session name value).Tidy := h.insert session (Dict.isEmpty_insert ..)

theorem Tidy.remove (h : s.Tidy) (session : SessionId) (name : String) :
    (s.remove session name).Tidy := by
  rw [Store.remove]
  split
  · exact h
  · rename_i values _
    dsimp only
    split
    · exact h.erase session
    · rename_i hrest
      exact h.insert session (by simpa using hrest)

/-- The sessions that have a value under some name. -/
def inhabited (s : Store) : Finset SessionId :=
  (s.sessions.filter fun _ values => !values.isEmpty).domain

theorem card_inhabited (s : Store) : s.inhabited.card = s.sessionCount := Dict.card_domain _

theorem mem_inhabited : session ∈ s.inhabited ↔ ∃ name value, s.get? session name = some value := by
  rw [inhabited, Dict.mem_domain, Dict.get?_filter]
  cases hsession : s.sessions.get? session with
  | none => simp [get?, hsession]
  | some values =>
    have hempty : values.isEmpty = false ↔ ∃ name value, values.get? name = some value := by
      rw [← Bool.not_eq_true, Dict.isEmpty_iff, not_forall]
      simp only [← ne_eq, Option.ne_none_iff_exists']
    simpa [get?, hsession, Option.filter] using hempty

/-! ### The names of a session -/

theorem mem_names {name : String} :
    name ∈ s.names session ↔ ∃ value, s.get? session name = some value := by
  rw [names, List.mem_mergeSort, Dict.mem_keys_iff, ← get?_eq, Option.isSome_iff_exists]

theorem pairwise_names (s : Store) (session : SessionId) : (s.names session).Pairwise (· < ·) := by
  have hsorted : (s.names session).Pairwise fun a b => !decide (b < a) := by
    refine List.pairwise_mergeSort (fun a b c hab hbc => ?_) (fun a b => ?_) _
    · simp only [Bool.not_eq_true', decide_eq_false_iff_not, String.not_lt] at *
      exact String.le_trans hab hbc
    · simp only [Bool.or_eq_true, Bool.not_eq_true', decide_eq_false_iff_not, String.not_lt]
      exact String.le_total a b
  have hdistinct : (s.names session).Nodup :=
    (List.mergeSort_perm _ _).nodup_iff.mpr (s.attributes session).nodup
  refine (hsorted.and hdistinct).imp fun {a b} hab => ?_
  obtain ⟨hle, hne⟩ := hab
  simp only [Bool.not_eq_true', decide_eq_false_iff_not, String.not_lt] at hle
  exact (Std.le_iff_lt_or_eq.mp hle).resolve_right hne

/-! ### The same values -/

/-- The stores have the same values under the same names. -/
def Alike (s s' : Store) : Prop := ∀ session name, s.get? session name = s'.get? session name

theorem Alike.sessionCount_eq (h : s.Alike s') : s.sessionCount = s'.sessionCount := by
  rw [← card_inhabited, ← card_inhabited]
  congr 1
  ext session
  simp only [mem_inhabited, h session]

/-- A list in strict order is determined by its members. -/
theorem Alike.names_eq (h : s.Alike s') (session : SessionId) :
    s.names session = s'.names session := by
  have hperm : (s.names session).Perm (s'.names session) := by
    refine (List.perm_ext_iff_of_nodup ?_ ?_).mpr fun name => ?_
    · exact (s.pairwise_names session).imp String.ne_of_lt
    · exact (s'.pairwise_names session).imp String.ne_of_lt
    · rw [mem_names, mem_names, h session]
  exact hperm.eq_of_pairwise (fun _ _ _ _ hab hba => absurd hba (String.lt_asymm hab))
    (s.pairwise_names session) (s'.pairwise_names session)

end Store

/-! ### Operations -/

namespace Backend

/-- What can be asked of storage. Whether the session's lock is held is noted and nothing else. -/
inductive Operation
  | get (session : SessionId) (name : String)
  | set (session : SessionId) (name : String) (value : Value) (locked : Bool)
  | remove (session : SessionId) (name : String) (locked : Bool)
  | invalidate (session : SessionId) (locked : Bool)
  | sessionCount
  | names (session : SessionId)

namespace Operation

abbrev Reply : Operation → Type
  | get .. | remove .. => Except StoreFault (Option Value)
  | set .. | invalidate .. => Except StoreFault Unit
  | sessionCount => Nat
  | names _ => List String

def perform (b : Backend) : (o : Operation) → o.Reply × Backend
  | get session name => b.get session name
  | set session name value locked => b.set session name value locked
  | remove session name locked => b.remove session name locked
  | invalidate session locked => b.invalidate session locked
  | sessionCount => (b.store.sessionCount, b)
  | names session => (b.store.names session, b)

/-- What the store answers by itself. -/
def reply (s : Store) : (o : Operation) → o.Reply
  | get session name | remove session name _ => .ok (s.get? session name)
  | set .. | invalidate .. => .ok ()
  | sessionCount => s.sessionCount
  | names session => s.names session

def apply (s : Store) : Operation → Store
  | set session name value _ => s.set session name value
  | remove session name _ => s.remove session name
  | invalidate session _ => s.invalidate session
  | get .. | sessionCount | names _ => s

/-- The operation settles what the session has under the name. -/
def Touches (session : SessionId) (name : String) : Operation → Prop
  | set session' name' .. | remove session' name' _ => session' = session ∧ name' = name
  | invalidate session' _ => session' = session
  | get .. | sessionCount | names _ => False

/-- What the operation leaves where it touches. -/
def left : Operation → Option Value
  | set _ _ value _ => some value
  | _ => none

variable {s s' : Store} {session : SessionId} {name : String}

theorem tidy_apply (h : s.Tidy) (o : Operation) : (o.apply s).Tidy := by
  cases o with
  | get | sessionCount | names => exact h
  | set session name value _ => exact h.set session name value
  | remove session name _ => exact h.remove session name
  | invalidate session _ => exact h.erase session

theorem get?_apply_of_touches {o : Operation} (h : o.Touches session name) :
    (o.apply s).get? session name = o.left := by
  cases o with
  | get | sessionCount | names => exact h.elim
  | set =>
    obtain ⟨rfl, rfl⟩ := h
    simp [apply, left]
  | remove =>
    obtain ⟨rfl, rfl⟩ := h
    simp [apply, left]
  | invalidate =>
    obtain rfl := h
    simp [apply, left]

theorem left_eq_some_iff {o : Operation} {value : Value} (h : o.Touches session name) :
    o.left = some value ↔ ∃ locked, o = .set session name value locked := by
  cases o with
  | set session' name' value' locked =>
    obtain ⟨rfl, rfl⟩ := h
    simp [left]
  | _ => simp [left]

theorem get?_apply_of_not_touches {o : Operation} (h : ¬o.Touches session name) :
    (o.apply s).get? session name = s.get? session name := by
  cases o with
  | get | sessionCount | names => rfl
  | set => exact (Store.get?_set ..).trans (if_neg h)
  | remove => exact (Store.get?_remove ..).trans (if_neg h)
  | invalidate => exact (Store.get?_invalidate ..).trans (if_neg h)

theorem alike_apply (h : s.Alike s') (o : Operation) : (o.apply s).Alike (o.apply s') := by
  intro session name
  by_cases htouches : o.Touches session name
  · rw [get?_apply_of_touches htouches, get?_apply_of_touches htouches]
  · rw [get?_apply_of_not_touches htouches, get?_apply_of_not_touches htouches, h]

theorem reply_eq_of_alike (h : s.Alike s') (o : Operation) : o.reply s = o.reply s' := by
  cases o with
  | get session name | remove session name _ => exact congrArg Except.ok (h session name)
  | set | invalidate => rfl
  | sessionCount => exact h.sessionCount_eq
  | names session => exact h.names_eq session

end Operation

/-! ### Backends that do not fail -/

/-- No call of the backend fails, and nobody else changes what it stores. -/
structure Plain (b : Backend) : Prop where
  fails_eq : ∀ call n, b.outage.fails call n = false
  intrusion_eq : b.intrusion = none

variable {b b' : Backend}

theorem plain_new : Plain {} := ⟨fun _ _ => rfl, rfl⟩

/-- A plain backend answers as its store does, and does to it what its store does. -/
theorem Plain.perform_eq (h : b.Plain) (o : Operation) :
    (o.perform b).1 = o.reply b.store ∧ (o.perform b).2.store = o.apply b.store ∧
      (o.perform b).2.Plain := by
  have hpasses : ∀ call, b.failsNext call = false := fun call => h.fails_eq call _
  have hquiet : ∀ call session name locked, (b.note call session name locked).intrude session name =
      b.note call session name locked := by
    intro call session name locked
    rw [intrude]
    split
    · rfl
    · rename_i hintrusion
      rw [show (b.note call session name locked).intrusion = none from h.intrusion_eq] at hintrusion
      cases hintrusion
  cases o with
  | get session name =>
    simp only [Operation.perform, Backend.get, Backend.perform, hpasses, Bool.false_eq_true,
      if_false, hquiet]
    exact ⟨rfl, rfl, h.fails_eq, h.intrusion_eq⟩
  | set session name value locked =>
    simp only [Operation.perform, Backend.set, Backend.perform, hpasses, Bool.false_eq_true,
      if_false]
    exact ⟨rfl, rfl, h.fails_eq, h.intrusion_eq⟩
  | remove session name locked =>
    simp only [Operation.perform, Backend.remove, Backend.perform, hpasses, Bool.false_eq_true,
      if_false]
    exact ⟨rfl, rfl, h.fails_eq, h.intrusion_eq⟩
  | invalidate session locked =>
    simp only [Operation.perform, Backend.invalidate, Backend.perform, hpasses, Bool.false_eq_true,
      if_false]
    exact ⟨rfl, rfl, h.fails_eq, h.intrusion_eq⟩
  | sessionCount => exact ⟨rfl, rfl, h⟩
  | names session => exact ⟨rfl, rfl, h⟩

def after (b : Backend) (ops : List Operation) : Backend :=
  ops.foldl (fun b o => (o.perform b).2) b

theorem after_concat (b : Backend) (ops : List Operation) (o : Operation) :
    b.after (ops ++ [o]) = (o.perform (b.after ops)).2 := by
  rw [after, List.foldl_append]
  rfl

theorem Plain.after (h : b.Plain) (ops : List Operation) : (b.after ops).Plain := by
  induction ops generalizing b with
  | nil => exact h
  | cons o rest ih => exact ih (h.perform_eq o).2.2

theorem Plain.tidy_after (h : b.Plain) (htidy : b.store.Tidy) (ops : List Operation) :
    (b.after ops).store.Tidy := by
  induction ops generalizing b with
  | nil => exact htidy
  | cons o rest ih =>
    obtain ⟨-, hstore, hplain⟩ := h.perform_eq o
    refine ih hplain ?_
    rw [hstore]
    exact Operation.tidy_apply htidy o

theorem Plain.alike_after (h : b.Plain) (h' : b'.Plain) (hsame : b.store.Alike b'.store)
    (ops : List Operation) : (b.after ops).store.Alike (b'.after ops).store := by
  induction ops generalizing b b' with
  | nil => exact hsame
  | cons o rest ih =>
    obtain ⟨-, hstore, hplain⟩ := h.perform_eq o
    obtain ⟨-, hstore', hplain'⟩ := h'.perform_eq o
    refine ih hplain hplain' ?_
    rw [hstore, hstore']
    exact Operation.alike_apply hsame o

theorem Plain.get_eq (h : b.Plain) (session : SessionId) (name : String) :
    (b.get session name).1 = .ok (b.store.get? session name) := (h.perform_eq (.get session name)).1

theorem Plain.remove_eq (h : b.Plain) (session : SessionId) (name : String) (locked : Bool) :
    (b.remove session name locked).1 = .ok (b.store.get? session name) :=
  (h.perform_eq (.remove session name locked)).1

/-! ### The last set -/

/-- The session was given the value under the name, and nothing has touched it since. -/
def LastSet (ops : List Operation) (session : SessionId) (name : String) (value : Value) : Prop :=
  ∃ earlier later locked, ops = earlier ++ .set session name value locked :: later ∧
    ∀ o ∈ later, ¬o.Touches session name

section LastSet

variable {ops : List Operation} {o : Operation} {session : SessionId} {name : String}
  {value : Value}

theorem not_lastSet_nil : ¬LastSet [] session name value := by
  rintro ⟨earlier, later, locked, hops, -⟩
  simp at hops

theorem lastSet_concat : LastSet (ops ++ [o]) session name value ↔
    (∃ locked, o = .set session name value locked) ∨
      (LastSet ops session name value ∧ ¬o.Touches session name) := by
  constructor
  · rintro ⟨earlier, later, locked, hops, hlater⟩
    rcases List.eq_nil_or_concat later with rfl | ⟨rest, last, rfl⟩
    · obtain ⟨-, hlast⟩ := List.append_inj' hops rfl
      exact .inl ⟨locked, List.singleton_inj.mp hlast⟩
    · rw [List.concat_eq_append, ← List.cons_append, ← List.append_assoc] at hops
      obtain ⟨hfront, hlast⟩ := List.append_inj' hops rfl
      obtain rfl := List.singleton_inj.mp hlast
      have hrest : ∀ o' ∈ rest, ¬o'.Touches session name := fun o' ho' => hlater o' (by simp [ho'])
      exact .inr ⟨⟨earlier, rest, locked, hfront, hrest⟩, hlater o (by simp)⟩
  · rintro (⟨locked, rfl⟩ | ⟨⟨earlier, later, locked, rfl, hlater⟩, htouches⟩)
    · exact ⟨ops, [], locked, rfl, by simp⟩
    · refine ⟨earlier, later ++ [o], locked, by simp, fun o' ho' => ?_⟩
      rcases List.mem_append.mp ho' with ho' | ho'
      · exact hlater o' ho'
      · rwa [List.mem_singleton.mp ho']

theorem get?_after_iff (ops : List Operation) (session : SessionId) (name : String)
    (value : Value) : (after {} ops).store.get? session name = some value ↔
      LastSet ops session name value := by
  induction ops using List.reverseRecOn with
  | nil => exact iff_of_false (by rintro ⟨⟩) not_lastSet_nil
  | append_singleton ops o ih =>
    rw [after_concat, ((plain_new.after ops).perform_eq o).2.1, lastSet_concat]
    by_cases htouches : o.Touches session name
    · rw [Operation.get?_apply_of_touches htouches, Operation.left_eq_some_iff htouches]
      simp [htouches]
    · have hnotSet : ¬∃ locked, o = .set session name value locked := by
        rintro ⟨locked, rfl⟩
        exact htouches ⟨rfl, rfl⟩
      rw [Operation.get?_apply_of_not_touches htouches, ih]
      simp [htouches, hnotSet]

end LastSet

/-! ### The flat map -/

/-- The backend is what a flat map would be after some operations. -/
structure Flat (b : Backend) (ops : List Operation) : Prop where
  get_iff : ∀ session name value,
    (b.get session name).1 = .ok (some value) ↔ LastSet ops session name value
  get_none_iff : ∀ session name,
    (b.get session name).1 = .ok none ↔ ∀ value, ¬LastSet ops session name value
  /-- What a removal gives is what a get would have given. -/
  remove_eq : ∀ session name locked,
    (b.remove session name locked).1 = (b.get session name).1
  tidy : b.store.Tidy
  sessionCount_eq : ∃ sessions : Finset SessionId, b.store.sessionCount = sessions.card ∧
    ∀ session, session ∈ sessions ↔ ∃ name value, LastSet ops session name value
  mem_names_iff : ∀ session name,
    name ∈ b.store.names session ↔ ∃ value, LastSet ops session name value
  names_increasing : ∀ session,
    (b.store.names session).Pairwise fun n n' => Text.bytes n < Text.bytes n'

theorem flat_after (ops : List Operation) : (after {} ops).Flat ops := by
  have hplain := plain_new.after ops
  have hlast := get?_after_iff ops
  constructor
  case get_iff =>
    intro session name value
    rw [hplain.get_eq, Except.ok.injEq, hlast]
  case get_none_iff =>
    intro session name
    rw [hplain.get_eq, Except.ok.injEq, Option.eq_none_iff_forall_ne_some]
    exact forall_congr' fun value => not_congr (hlast session name value)
  case remove_eq =>
    intro session name locked
    rw [hplain.get_eq, hplain.remove_eq]
  case tidy => exact plain_new.tidy_after Store.tidy_empty ops
  case sessionCount_eq =>
    refine ⟨_, (Store.card_inhabited _).symm, fun session => ?_⟩
    simp only [Store.mem_inhabited, hlast]
  case mem_names_iff =>
    intro session name
    simp only [Store.mem_names, hlast]
  case names_increasing =>
    exact fun session => (Store.pairwise_names _ session).imp Text.bytes_lt_iff.mpr

/-- **Session storage refines a flat map.** After any operations on new storage, what it gets is the
value set last that nothing has removed or invalidated since, a removal gives what a get would have
given, no session is kept without a value, sessions are counted that have a value, and the names of
a session are listed in the order of their bytes. Storage that other operations have left with the
same values answers every later operation in the same way. -/
theorem refines_flat_map (ops : List Operation) : (after {} ops).Flat ops ∧ ∀ ops',
    (∀ session name,
      ((after {} ops').get session name).1 = ((after {} ops).get session name).1) →
    ∀ later (o : Operation),
      (o.perform ((after {} ops').after later)).1 = (o.perform ((after {} ops).after later)).1 := by
  refine ⟨flat_after ops, fun ops' hsame later o => ?_⟩
  have hplain := plain_new.after ops
  have hplain' := plain_new.after ops'
  have halike : (after {} ops').store.Alike (after {} ops).store := by
    intro session name
    have := hsame session name
    rwa [hplain'.get_eq, hplain.get_eq, Except.ok.injEq] at this
  rw [((hplain'.after later).perform_eq o).1, ((hplain.after later).perform_eq o).1]
  exact Operation.reply_eq_of_alike (hplain'.alike_after hplain halike later) o

/-- Storage that held another session and another value in between, and forgot them. -/
theorem refines_flat_map_detour :
    let ops : List Operation := [.set ⟨"a"⟩ "cart" (.text "new") false]
    let detour : List Operation := [.set ⟨"b"⟩ "cart" (.text "other") false,
      .set ⟨"a"⟩ "cart" (.text "old") true, .invalidate ⟨"b"⟩ true,
      .set ⟨"a"⟩ "cart" (.text "new") false]
    (∀ session name,
      ((after {} detour).get session name).1 = ((after {} ops).get session name).1) ∧
    (after {} detour).store.sessionCount = 1 := by
  intro ops detour
  have hsame : ∀ session name,
      ((after {} detour).get session name).1 = ((after {} ops).get session name).1 :=
    fun _ _ => rfl
  exact ⟨hsame, (refines_flat_map ops).2 detour hsame [] .sessionCount⟩

end Backend

end SessionCart
