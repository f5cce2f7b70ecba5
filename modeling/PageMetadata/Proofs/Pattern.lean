import PageMetadata.Pattern

/-! # The first byte that differs

Examining memory finds the lowest offset whose byte is not the pattern's. It finds nothing exactly
if the memory carries the pattern.
-/

namespace PageMetadata.Pattern

/-- Every byte is the pattern's. -/
def Carried (pattern : Pattern) (bytes : List UInt8) : Prop :=
  ∀ offset byte, bytes[offset]? = some byte → byte = pattern offset

/-- The lowest offset whose byte is not the pattern's, with the byte that stands there. -/
structure FirstMismatch (pattern : Pattern) (bytes : List UInt8) (offset : Nat)
    (observed : UInt8) : Prop where
  found : bytes[offset]? = some observed
  differs : observed ≠ pattern offset
  before : ∀ earlier < offset, bytes[earlier]? = some (pattern earlier)

/-- Offsets count from `start` in the pattern, and from 0 in the bytes that are left. -/
private theorem findMismatch?_spec (pattern : Pattern) (start : Nat) (bytes : List UInt8) :
    match pattern.findMismatch? start bytes with
    | none => ∀ index byte, bytes[index]? = some byte → byte = pattern (start + index)
    | some (offset, observed) => ∃ index, offset = start + index ∧
        bytes[index]? = some observed ∧ observed ≠ pattern offset ∧
        ∀ earlier < index, bytes[earlier]? = some (pattern (start + earlier)) := by
  induction bytes generalizing start with
  | nil =>
    intro index byte found
    contradiction
  | cons first bytes ih =>
    rw [findMismatch?]
    by_cases same : first = pattern start
    · rw [if_pos same]
      have shift (index : Nat) : start + 1 + index = start + (index + 1) := by omega
      have rest := ih (start + 1)
      split at rest
      · intro index byte found
        cases index with
        | zero =>
          cases found
          exact same
        | succ index =>
          rw [← shift]
          exact rest index byte found
      · obtain ⟨index, rfl, found, differs, before⟩ := rest
        refine ⟨index + 1, shift index, found, differs, ?_⟩
        intro earlier below
        cases earlier with
        | zero => exact congrArg some same
        | succ earlier =>
          rw [← shift]
          exact before earlier (by omega)
    · rw [if_neg same]
      exact ⟨0, rfl, rfl, same, fun earlier below => absurd below (Nat.not_lt_zero earlier)⟩

theorem carried_iff {pattern : Pattern} {bytes : List UInt8} :
    pattern.Carried bytes ↔ pattern.findMismatch? 0 bytes = none := by
  have spec := findMismatch?_spec pattern 0 bytes
  cases searched : pattern.findMismatch? 0 bytes with
  | none =>
    simp only [searched, Nat.zero_add] at spec
    exact iff_of_true spec rfl
  | some mismatch =>
    simp only [searched] at spec
    obtain ⟨index, offset, found, differs, _⟩ := spec
    rw [Nat.zero_add] at offset
    subst offset
    exact iff_of_false (fun carried => differs (carried _ _ found)) nofun

theorem firstMismatch_of_findMismatch? {pattern : Pattern} {bytes : List UInt8} {offset : Nat}
    {observed : UInt8} (searched : pattern.findMismatch? 0 bytes = some (offset, observed)) :
    pattern.FirstMismatch bytes offset observed := by
  have spec := findMismatch?_spec pattern 0 bytes
  simp only [searched, Nat.zero_add] at spec
  obtain ⟨index, rfl, found, differs, before⟩ := spec
  exact ⟨found, differs, before⟩

/-- Memory that does not carry the pattern is refused for its first byte that differs. -/
theorem exists_verify_eq_error {pattern : Pattern} {bytes : List UInt8}
    (differs : ¬ pattern.Carried bytes) : ∃ offset observed,
      pattern.FirstMismatch bytes offset observed ∧
        ∀ stage, pattern.verify bytes stage =
          .error ⟨stage, offset, pattern offset, observed⟩ := by
  rw [carried_iff] at differs
  obtain ⟨⟨offset, observed⟩, searched⟩ := Option.ne_none_iff_exists'.mp differs
  refine ⟨offset, observed, firstMismatch_of_findMismatch? searched, ?_⟩
  intro stage
  rw [verify, searched]

end PageMetadata.Pattern
