import Mathlib.Data.Set.Card
import RemovableMedia.Registry

/-!
# Registries seen through their keys

What a change to one key does to the value at any other.  The keys of a
registry are those at which it has a value, and as no key comes twice, its
size is their number.
-/

namespace RemovableMedia.Registry

variable {κ α : Type} [DecidableEq κ]

theorem find?_insert (registry : Registry κ α) (key other : κ) (value : α) :
    (registry.insert key value).find? other =
      if key = other then some value else registry.find? other := by
  split
  · next same =>
      subst other
      exact registry.find?_insert_self key value
  · next different =>
      exact registry.find?_insert_of_ne value (Ne.symm different)

theorem find?_erase (registry : Registry κ α) (key other : κ) :
    (registry.erase key).find? other =
      if key = other then none else registry.find? other := by
  split
  · next same =>
      subst other
      exact registry.find?_erase_self key
  · next different => exact registry.find?_erase_of_ne (Ne.symm different)

theorem find?_insert_eq_none_iff (registry : Registry κ α) {key other : κ}
    {value : α} :
    (registry.insert key value).find? other = none ↔
      key ≠ other ∧ registry.find? other = none := by
  rw [find?_insert]
  split
  · next same => simp [same]
  · next different => simp [different]

theorem find?_eq_some_iff_mem (registry : Registry κ α) {key : κ}
    {value : α} :
    registry.find? key = some value ↔ (key, value) ∈ registry.entries := by
  constructor
  · intro found
    obtain ⟨entry, first, rfl⟩ := Option.map_eq_some_iff.mp found
    have own : entry.1 = key := by simpa using List.find?_some first
    exact own ▸ List.mem_of_find?_eq_some first
  · intro member
    -- The first entry with the key is the only one.
    have present :
        (registry.entries.find? fun entry => entry.1 = key).isSome := by
      simpa using ⟨value, member⟩
    obtain ⟨entry, first⟩ := Option.isSome_iff_exists.mp present
    have own : entry.1 = key := by simpa using List.find?_some first
    have same := List.inj_on_of_nodup_map registry.distinct
      (List.mem_of_find?_eq_some first) member own
    rw [find?, first, same]
    rfl

theorem find?_filterValues (registry : Registry κ α) (keep : α → Bool)
    (key : κ) :
    (registry.filterValues keep).find? key =
      (registry.find? key).filter keep := by
  ext value
  rw [find?_eq_some_iff_mem, Option.filter_eq_some_iff, find?_eq_some_iff_mem]
  exact List.mem_filter

theorem find?_of_keyOf? [DecidableEq α] {registry : Registry κ α} {key : κ}
    {value : α} (found : registry.keyOf? value = some key) :
    registry.find? key = some value := by
  obtain ⟨entry, first, rfl⟩ := Option.map_eq_some_iff.mp found
  have own : entry.2 = value := by simpa using List.find?_some first
  rw [find?_eq_some_iff_mem, ← own]
  exact List.mem_of_find?_eq_some first

theorem find?_ne_of_keyOf?_eq_none [DecidableEq α] {registry : Registry κ α}
    {value : α} (missing : registry.keyOf? value = none) (key : κ) :
    registry.find? key ≠ some value := by
  intro found
  have member := registry.find?_eq_some_iff_mem.mp found
  have others := List.find?_eq_none.mp (Option.map_eq_none_iff.mp missing)
  exact others _ member (decide_eq_true rfl)

theorem mem_keys_iff (registry : Registry κ α) (key : κ) :
    key ∈ registry.keys ↔ registry.find? key ≠ none := by
  simp only [keys, find?, List.mem_map, ne_eq, Option.map_eq_none_iff,
    List.find?_eq_none, decide_eq_true_eq, not_forall, not_not, exists_prop]

theorem size_eq_encard (registry : Registry κ α) :
    (registry.size : ℕ∞) = {key | registry.find? key ≠ none}.encard := by
  have sameKeys :
      {key | registry.find? key ≠ none} = (registry.keys.toFinset : Set κ) := by
    ext key
    simp [← registry.mem_keys_iff]
  have noneTwice : registry.keys.toFinset.card = registry.size := by
    have distinct : registry.keys.Nodup := registry.distinct
    rw [List.toFinset_card_of_nodup distinct]
    exact List.length_map _
  rw [sameKeys, Set.encard_coe_eq_coe_finsetCard, noneTwice]

end RemovableMedia.Registry
