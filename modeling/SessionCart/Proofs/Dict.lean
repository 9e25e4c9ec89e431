import Mathlib.Data.Finset.Card
import SessionCart.Dict

/-!
# The domain of a finite map

The keys of a map are distinct, so that the number of its entries is the number of the keys that
have a value.
-/

namespace SessionCart.Dict

variable {κ ν : Type} [DecidableEq κ]

/-- The keys that have a value. -/
def domain (d : Dict κ ν) : Finset κ := d.keys.toFinset

@[simp]
theorem mem_domain {d : Dict κ ν} {k : κ} : k ∈ d.domain ↔ (d.get? k).isSome = true := by
  rw [domain, List.mem_toFinset, mem_keys_iff]

theorem card_domain (d : Dict κ ν) : d.domain.card = d.size := by
  rw [domain, keys, List.toFinset_card_of_nodup d.nodup, List.length_map, size]

theorem domain_insert (d : Dict κ ν) (k : κ) (v : ν) :
    (d.insert k v).domain = Insert.insert k d.domain := by
  ext j
  rw [Finset.mem_insert, mem_domain, mem_domain, get?_insert]
  by_cases h : k = j
  · simp [h]
  · simp [h, Ne.symm h]

theorem size_insert_le (d : Dict κ ν) (k : κ) (v : ν) : (d.insert k v).size ≤ d.size + 1 := by
  rw [← card_domain, ← card_domain, domain_insert]
  exact Finset.card_insert_le k d.domain

theorem isEmpty_insert (d : Dict κ ν) (k : κ) (v : ν) : (d.insert k v).isEmpty = false := by
  cases h : (d.insert k v).isEmpty with
  | false => rfl
  | true =>
    have hnone := get?_of_isEmpty h k
    simp at hnone

theorem isEmpty_iff {d : Dict κ ν} : d.isEmpty = true ↔ ∀ k, d.get? k = none := by
  refine ⟨get?_of_isEmpty, fun h => List.isEmpty_iff.mpr ?_⟩
  rw [List.eq_nil_iff_forall_not_mem]
  rintro ⟨k, v⟩ hmem
  have hsome := (mem_entries_iff d k v).mp hmem
  rw [h k] at hsome
  cases hsome

end SessionCart.Dict
