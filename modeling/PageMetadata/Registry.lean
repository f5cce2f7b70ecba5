/-! # Maps that keep the order of insertion

A registry lists its keys in the order in which they were first inserted. Changing the value of a
key leaves the key where it is, and no key is listed twice.
-/

namespace PageMetadata

structure Registry (κ ν : Type) where
  entries : List (κ × ν)
  nodup_keys : (entries.map Prod.fst).Nodup

namespace Registry

variable {κ ν : Type} [DecidableEq κ]

/-- The pairs with the value of `key` changed; a key that is not listed goes to the end. -/
def alterPairs (key : κ) (alter : Option ν → ν) : List (κ × ν) → List (κ × ν)
  | [] => [(key, alter none)]
  | (other, value) :: pairs =>
    if other = key then (other, alter (some value)) :: pairs
    else (other, value) :: alterPairs key alter pairs

theorem keys_alterPairs (key : κ) (alter : Option ν → ν) (pairs : List (κ × ν)) :
    (alterPairs key alter pairs).map Prod.fst =
      if key ∈ pairs.map Prod.fst then pairs.map Prod.fst else pairs.map Prod.fst ++ [key] := by
  induction pairs with
  | nil => simp [alterPairs]
  | cons pair pairs ih =>
    obtain ⟨other, value⟩ := pair
    by_cases same : other = key
    · simp [alterPairs, same]
    · have different : key ≠ other := fun equal => same equal.symm
      simp only [alterPairs, if_neg same, List.map_cons, ih, List.mem_cons, different, false_or]
      split <;> simp

theorem nodup_alterPairs (key : κ) (alter : Option ν → ν) {pairs : List (κ × ν)}
    (nodup : (pairs.map Prod.fst).Nodup) : ((alterPairs key alter pairs).map Prod.fst).Nodup := by
  rw [keys_alterPairs]
  split
  · exact nodup
  · next absent =>
    rw [List.nodup_append]
    refine ⟨nodup, by simp, ?_⟩
    intro other listed fresh member
    simp only [List.mem_singleton] at member
    subst member
    exact fun equal => absent (equal ▸ listed)

private theorem lookup_cons_ite (key other : κ) (value : ν) (pairs : List (κ × ν)) :
    ((key, value) :: pairs).lookup other =
      if other = key then some value else pairs.lookup other := by
  by_cases same : other = key <;> simp [List.lookup_cons, beq_eq_false_iff_ne.mpr, same]

theorem lookup_alterPairs (key other : κ) (alter : Option ν → ν) (pairs : List (κ × ν)) :
    (alterPairs key alter pairs).lookup other =
      if other = key then some (alter (pairs.lookup key)) else pairs.lookup other := by
  induction pairs with
  | nil => simp [alterPairs, lookup_cons_ite]
  | cons pair pairs ih =>
    obtain ⟨first, value⟩ := pair
    by_cases listed : first = key
    · subst listed
      by_cases same : other = first <;> simp [alterPairs, lookup_cons_ite, same]
    · rw [alterPairs, if_neg listed, lookup_cons_ite, lookup_cons_ite, lookup_cons_ite, ih]
      by_cases here : other = first
      · simp [here, listed]
      · simp [here, Ne.symm listed]

def empty : Registry κ ν := ⟨[], List.nodup_nil⟩

instance : Inhabited (Registry κ ν) := ⟨empty⟩

/-- The keys in the order of their first insertion. -/
def keys (registry : Registry κ ν) : List κ := registry.entries.map Prod.fst

def isEmpty (registry : Registry κ ν) : Bool := registry.entries.isEmpty

def get? (registry : Registry κ ν) (key : κ) : Option ν := registry.entries.lookup key

/-- Changes the value of a key, which is inserted at the end if it is new. -/
def alter (registry : Registry κ ν) (key : κ) (change : Option ν → ν) : Registry κ ν :=
  ⟨alterPairs key change registry.entries, nodup_alterPairs key change registry.nodup_keys⟩

/-- Sets the value of a key. -/
def insert (registry : Registry κ ν) (key : κ) (value : ν) : Registry κ ν :=
  registry.alter key fun _ => value

@[simp] theorem get?_empty (key : κ) : (empty : Registry κ ν).get? key = none := rfl

theorem get?_alter (registry : Registry κ ν) (key other : κ) (change : Option ν → ν) :
    (registry.alter key change).get? other =
      if other = key then some (change (registry.get? key)) else registry.get? other :=
  lookup_alterPairs key other change registry.entries

theorem get?_insert (registry : Registry κ ν) (key other : κ) (value : ν) :
    (registry.insert key value).get? other =
      if other = key then some value else registry.get? other :=
  registry.get?_alter key other fun _ => value

theorem keys_alter (registry : Registry κ ν) (key : κ) (change : Option ν → ν) :
    (registry.alter key change).keys =
      if key ∈ registry.keys then registry.keys else registry.keys ++ [key] :=
  keys_alterPairs key change registry.entries

end Registry

end PageMetadata
