import Mathlib.Data.List.Basic
import Mathlib.Data.List.Induction
import PageMetadata.Registry

/-! # Entries and keys of registries

No key is listed twice, so the entries are what can be looked up. The keys are those that were ever
changed, without repetitions, in the order in which they were first changed.
-/

namespace PageMetadata

section FirstOccurrences

variable {α : Type} [DecidableEq α]

theorem nodup_eraseDups (values : List α) : values.eraseDups.Nodup := by
  cases values with
  | nil => simp
  | cons first rest =>
    rw [List.eraseDups_cons, List.nodup_cons]
    refine ⟨?_, nodup_eraseDups (rest.filter fun value => !value == first)⟩
    simp [List.mem_eraseDups]
termination_by values.length
decreasing_by exact Nat.lt_succ_of_le (List.length_filter_le _ rest)

/-- Only the first occurrence of a value counts. -/
theorem eraseDups_append_singleton (values : List α) (last : α) :
    (values ++ [last]).eraseDups =
      if last ∈ values then values.eraseDups else values.eraseDups ++ [last] := by
  rw [List.eraseDups_append, List.removeAll, List.filter_cons]
  by_cases listed : last ∈ values <;> simp [listed, List.eraseDups_cons]

theorem eraseDups_eq_self {values : List α} (nodup : values.Nodup) :
    values.eraseDups = values := by
  induction values using List.reverseRecOn with
  | nil => rfl
  | append_singleton values last ih =>
    obtain ⟨before, _, apart⟩ := List.nodup_append.mp nodup
    have fresh : last ∉ values :=
      fun listed => apart last listed last (List.mem_singleton_self last) rfl
    rw [eraseDups_append_singleton, if_neg fresh, ih before]

/-- What is listed later can be listed once only. -/
theorem eraseDups_append_eraseDups (values later : List α) :
    (values ++ later.eraseDups).eraseDups = (values ++ later).eraseDups := by
  induction later using List.reverseRecOn with
  | nil => rfl
  | append_singleton later last ih =>
    rw [eraseDups_append_singleton, ← List.append_assoc, eraseDups_append_singleton, ← ih]
    by_cases listed : last ∈ later
    · rw [if_pos listed, if_pos (List.mem_append_right values listed)]
    · rw [if_neg listed, ← List.append_assoc, eraseDups_append_singleton]
      simp only [List.mem_append, List.mem_eraseDups]

/-- What was listed before can be listed once only. -/
theorem eraseDups_eraseDups_append (values later : List α) :
    (values.eraseDups ++ later).eraseDups = (values ++ later).eraseDups := by
  induction later using List.reverseRecOn with
  | nil =>
    rw [List.append_nil, List.append_nil]
    exact eraseDups_append_eraseDups [] values
  | append_singleton later last ih =>
    rw [← List.append_assoc, ← List.append_assoc, eraseDups_append_singleton,
      eraseDups_append_singleton, ih]
    simp only [List.mem_append, List.mem_eraseDups]

end FirstOccurrences

namespace Registry

variable {κ ν : Type} [DecidableEq κ] {registry : Registry κ ν} {key : κ}

theorem mem_entries_of_get? {value : ν} (found : registry.get? key = some value) :
    (key, value) ∈ registry.entries := by
  obtain ⟨before, after, same, _⟩ := List.lookup_eq_some_iff.mp found
  rw [same]
  simp

/-- Every entry is the one that is found under its key. -/
theorem mem_entries_iff {value : ν} :
    (key, value) ∈ registry.entries ↔ registry.get? key = some value := by
  refine ⟨?_, mem_entries_of_get?⟩
  intro listed
  obtain ⟨before, after, split⟩ := List.append_of_mem listed
  refine List.lookup_eq_some_iff.mpr ⟨before, after, split, ?_⟩
  intro other earlier
  have nodup := registry.nodup_keys
  rw [split, List.map_append, List.map_cons, List.nodup_append] at nodup
  obtain ⟨_, _, apart⟩ := nodup
  rw [bne_iff_ne]
  exact (apart _ (List.mem_map_of_mem earlier) _ (List.mem_cons_self ..)).symm

theorem mem_entries_alter {other : κ} {change : Option ν → ν} {value : ν} :
    (other, value) ∈ (registry.alter key change).entries ↔
      if other = key then change (registry.get? key) = value
      else (other, value) ∈ registry.entries := by
  rw [mem_entries_iff, mem_entries_iff, get?_alter]
  split <;> simp

private theorem alterPairs_eq_self {change : Option ν → ν} {pairs : List (κ × ν)} {value : ν}
    (found : pairs.lookup key = some value) (same : change (some value) = value) :
    alterPairs key change pairs = pairs := by
  induction pairs with
  | nil => contradiction
  | cons pair pairs ih =>
    obtain ⟨other, held⟩ := pair
    by_cases here : other = key
    · subst here
      rw [List.lookup_cons_self] at found
      cases found
      rw [alterPairs, if_pos rfl, same]
    · have apart : (key == other) = false := beq_eq_false_iff_ne.mpr (Ne.symm here)
      rw [List.lookup_cons, apart] at found
      rw [alterPairs, if_neg here, ih found]

theorem get?_eq_none_iff : registry.get? key = none ↔ key ∉ registry.keys := by
  rw [get?, List.lookup_eq_none_iff, keys, List.mem_map]
  constructor
  · rintro absent ⟨pair, listed, rfl⟩
    simpa using absent pair listed
  · intro absent pair listed
    rw [bne_iff_ne]
    rintro rfl
    exact absent ⟨pair, listed, rfl⟩

/-- The entries are the keys with what is found under them. -/
theorem entries_eq_filterMap (registry : Registry κ ν) :
    registry.entries =
      registry.keys.filterMap fun key => (registry.get? key).map fun value => (key, value) := by
  have found : ∀ entry ∈ registry.entries,
      (registry.get? entry.1).map (fun value => (entry.1, value)) = some entry := by
    intro entry listed
    rw [mem_entries_iff.mp listed, Option.map_some]
  rw [keys, List.filterMap_map, Function.comp_def, List.filterMap_congr found,
    List.filterMap_some]

private theorem filter_pairs {pairs : List (κ × ν)} (nodup : (pairs.map Prod.fst).Nodup) :
    pairs.filter (·.1 = key) = ((pairs.lookup key).map fun value => (key, value)).toList := by
  induction pairs with
  | nil => rfl
  | cons pair pairs ih =>
    obtain ⟨other, held⟩ := pair
    obtain ⟨fresh, later⟩ := List.nodup_cons.mp nodup
    by_cases here : other = key
    · subst here
      have none : pairs.filter (·.1 = other) = [] := by
        rw [List.filter_eq_nil_iff]
        intro pair listed
        rw [decide_eq_true_iff]
        rintro rfl
        exact fresh (List.mem_map.mpr ⟨pair, listed, rfl⟩)
      rw [List.filter_cons_of_pos (by simp), none, List.lookup_cons_self]
      rfl
    · have apart : (key == other) = false := beq_eq_false_iff_ne.mpr (Ne.symm here)
      rw [List.filter_cons_of_neg (by simpa using here), List.lookup_cons, apart, ih later]

/-- A key has one entry at most. -/
theorem filter_entries (registry : Registry κ ν) (key : κ) :
    registry.entries.filter (·.1 = key) =
      ((registry.get? key).map fun value => (key, value)).toList :=
  filter_pairs registry.nodup_keys

/-- Registries with the same keys in the same order, and the same values, are the same. -/
theorem eq_of_keys_of_get? {other : Registry κ ν} (keys : registry.keys = other.keys)
    (values : ∀ key, registry.get? key = other.get? key) : registry = other := by
  have entries : registry.entries = other.entries := by
    rw [entries_eq_filterMap registry, entries_eq_filterMap other, keys]
    simp only [values]
  obtain ⟨_, _⟩ := registry
  obtain ⟨_, _⟩ := other
  simp only at entries
  simp only [entries]

/-- Changing a value into itself leaves the registry as it was. -/
theorem alter_eq_self {change : Option ν → ν} {value : ν}
    (found : registry.get? key = some value) (same : change (some value) = value) :
    registry.alter key change = registry := by
  have unchanged := alterPairs_eq_self found same
  obtain ⟨entries, nodup⟩ := registry
  simp only [alter, unchanged]

/-- The keys stay in the order of their first change. -/
theorem keys_alter_eq_eraseDups {changed : List κ} (before : registry.keys = changed.eraseDups)
    (change : Option ν → ν) :
    (registry.alter key change).keys = (changed ++ [key]).eraseDups := by
  rw [keys_alter, eraseDups_append_singleton, before]
  simp only [List.mem_eraseDups]

end Registry

end PageMetadata
