/-!
Finite maps: a list of entries with distinct keys, in the order in which the keys were first
inserted. The view of a map is `get?`; every operation has one equation about it.
-/

namespace SessionCart

structure Dict (κ ν : Type) where
  entries : List (κ × ν)
  nodup : (entries.map Prod.fst).Nodup

namespace Dict

variable {κ ν : Type}

def empty : Dict κ ν := ⟨[], List.nodup_nil⟩

instance : Inhabited (Dict κ ν) := ⟨empty⟩

def keys (d : Dict κ ν) : List κ := d.entries.map Prod.fst

def size (d : Dict κ ν) : Nat := d.entries.length

def isEmpty (d : Dict κ ν) : Bool := d.entries.isEmpty

def filter (d : Dict κ ν) (p : κ → ν → Bool) : Dict κ ν where
  entries := d.entries.filter fun e => p e.1 e.2
  nodup := d.nodup.sublist (List.filter_sublist.map _)

section Lookup

variable [DecidableEq κ]

def lookup (k : κ) : List (κ × ν) → Option ν
  | [] => none
  | (k', v) :: rest => if k' = k then some v else lookup k rest

def get? (d : Dict κ ν) (k : κ) : Option ν := lookup k d.entries

def contains (d : Dict κ ν) (k : κ) : Bool := (d.get? k).isSome

/-- Replaces the value of a listed key in place; a new key goes to the end. -/
def place (k : κ) (v : ν) : List (κ × ν) → List (κ × ν)
  | [] => [(k, v)]
  | e :: rest => if e.1 = k then (k, v) :: rest else e :: place k v rest

theorem map_fst_place (k : κ) (v : ν) (l : List (κ × ν)) :
    (place k v l).map Prod.fst = if k ∈ l.map Prod.fst then l.map Prod.fst
      else l.map Prod.fst ++ [k] := by
  induction l with
  | nil => simp [place]
  | cons e rest ih =>
    by_cases h : e.1 = k
    · simp [place, h]
    · have h' : ¬ k = e.1 := fun hk => h hk.symm
      by_cases hm : k ∈ rest.map Prod.fst <;> simp_all [place]

/-- The map in which `k` has the value `v` and every other key what it had. -/
def insert (d : Dict κ ν) (k : κ) (v : ν) : Dict κ ν where
  entries := place k v d.entries
  nodup := by
    rw [map_fst_place]
    split
    · exact d.nodup
    · rename_i h
      refine List.nodup_append.mpr ⟨d.nodup, by simp, ?_⟩
      intro a ha b hb hab
      simp only [List.mem_singleton] at hb
      exact h (hb ▸ hab ▸ ha)

def erase (d : Dict κ ν) (k : κ) : Dict κ ν := d.filter fun k' _ => k' ≠ k

/-- The map built from a list of entries; a later entry replaces an earlier one of its key. -/
def ofList (l : List (κ × ν)) : Dict κ ν := l.foldl (fun d e => d.insert e.1 e.2) empty

@[simp] theorem get?_empty (k : κ) : (empty : Dict κ ν).get? k = none := rfl

theorem get?_of_isEmpty {d : Dict κ ν} (h : d.isEmpty = true) (k : κ) : d.get? k = none := by
  have : d.entries = [] := List.isEmpty_iff.mp h
  simp [get?, this, lookup]

theorem lookup_place (k : κ) (v : ν) (l : List (κ × ν)) (j : κ) :
    lookup j (place k v l) = if k = j then some v else lookup j l := by
  induction l with
  | nil => simp [place, lookup]
  | cons e rest ih =>
    by_cases h : e.1 = k <;> by_cases hj : k = j <;> by_cases he : e.1 = j <;>
      simp_all [place, lookup]

@[simp] theorem get?_insert (d : Dict κ ν) (k : κ) (v : ν) (j : κ) :
    (d.insert k v).get? j = if k = j then some v else d.get? j :=
  lookup_place k v d.entries j

theorem lookup_filter_ne (k j : κ) (l : List (κ × ν)) :
    lookup j (l.filter fun e => decide (e.1 ≠ k)) = if k = j then none else lookup j l := by
  induction l with
  | nil => simp [lookup]
  | cons e rest ih =>
    by_cases hk : e.1 = k <;> by_cases hj : k = j <;> by_cases he : e.1 = j <;>
      simp_all [lookup]

@[simp] theorem get?_erase (d : Dict κ ν) (k j : κ) :
    (d.erase k).get? j = if k = j then none else d.get? j :=
  lookup_filter_ne k j d.entries

theorem lookup_isSome (k : κ) (l : List (κ × ν)) :
    (lookup k l).isSome ↔ k ∈ l.map Prod.fst := by
  induction l with
  | nil => simp [lookup]
  | cons e rest ih =>
    by_cases h : e.1 = k
    · simp [lookup, h]
    · have h' : ¬ k = e.1 := fun hk => h hk.symm
      simp_all [lookup]

theorem mem_keys_iff (d : Dict κ ν) (k : κ) : k ∈ d.keys ↔ (d.get? k).isSome :=
  (lookup_isSome k d.entries).symm

/-- An entry is listed exactly when its key has its value. -/
theorem mem_entries_iff (d : Dict κ ν) (k : κ) (v : ν) :
    (k, v) ∈ d.entries ↔ d.get? k = some v := by
  obtain ⟨l, hl⟩ := d
  show (k, v) ∈ l ↔ lookup k l = some v
  induction l with
  | nil => simp [lookup]
  | cons e rest ih =>
    have hrest : (rest.map Prod.fst).Nodup := (List.nodup_cons.mp hl).2
    have hnot : e.1 ∉ rest.map Prod.fst := (List.nodup_cons.mp hl).1
    obtain ⟨k', v'⟩ := e
    by_cases h : k' = k
    · subst h
      have hmem : (k', v) ∉ rest := fun hm => hnot (List.mem_map.mpr ⟨_, hm, rfl⟩)
      simp only [List.mem_cons, lookup, ite_true, Option.some.injEq, Prod.mk.injEq, true_and]
      exact ⟨fun hv => hv.elim (·.symm) (absurd · hmem), fun hv => .inl hv.symm⟩
    · have h' : ¬ k = k' := fun hk => h hk.symm
      simp [lookup, h, h', ih hrest]

/-- A key of a filtered map keeps its value if the entry passes the test. -/
theorem get?_filter (d : Dict κ ν) (p : κ → ν → Bool) (k : κ) :
    (d.filter p).get? k = (d.get? k).filter (p k) := by
  cases h : d.get? k with
  | none =>
    cases h' : (d.filter p).get? k with
    | none => rfl
    | some v =>
      have hv := (mem_entries_iff _ _ _).mpr h'
      have := (mem_entries_iff d k v).mp (List.mem_filter.mp hv).1
      simp [h] at this
  | some v =>
    have hv := (mem_entries_iff d k v).mpr h
    by_cases hp : p k v = true
    · have : (k, v) ∈ (d.filter p).entries := List.mem_filter.mpr ⟨hv, hp⟩
      simpa [Option.filter, hp] using (mem_entries_iff _ _ _).mp this
    · cases h' : (d.filter p).get? k with
      | none => simp [Option.filter, hp]
      | some w =>
        have hw := List.mem_filter.mp ((mem_entries_iff _ _ _).mpr h')
        have := (mem_entries_iff d k w).mp hw.1
        rw [h, Option.some.injEq] at this
        subst this
        exact absurd hw.2 hp

end Lookup

end Dict

end SessionCart
