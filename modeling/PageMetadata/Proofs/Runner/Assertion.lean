import PageMetadata.Proofs.Summary
import PageMetadata.Runner.Basic

/-! # Checking assertions

The assertions of a scenario are checked in order, until one does not hold. Whether an operation was
called shows in its samples, whatever they are; the only arithmetic that can fail is their sum.
-/

namespace PageMetadata

/-- The samples of an operation are too long for one duration. -/
def Stats.Overflows (stats : Stats) (operation : Operation) : Prop :=
  maxNanoseconds < Duration.totalNanoseconds (stats.samples operation.name)

namespace Assertion

variable {stats : Stats} {operation : Operation}

/-- What the check finds depends only on whether there are samples. -/
theorem eq_of_check {found : Option AssertionDetail}
    (checked : (Assertion.statsAvailable operation).check stats = .ok found) :
    found = if stats.samples operation.name = [] then some .noSamples else none := by
  obtain ⟨summary, summarized, same⟩ := bind_eq_ok_iff.mp checked
  have available := Stats.isSome_of_summarize summarized
  cases summary with
  | none =>
    cases same
    have empty : stats.samples operation.name = [] := by simpa using available
    rw [if_pos empty]
  | some summary =>
    cases same
    rw [if_neg (available.mp rfl)]

/-- Times are available exactly if the operation was called. -/
theorem eq_none_iff_of_check {found : Option AssertionDetail}
    (checked : (Assertion.statsAvailable operation).check stats = .ok found) :
    found = none ↔ stats.samples operation.name ≠ [] := by
  rw [eq_of_check checked]
  simp

theorem overflows_of_check_statsAvailable {error : ArithmeticError}
    (failed : (Assertion.statsAvailable operation).check stats = .error error) :
    error = .durationSum ∧ stats.Overflows operation := by
  apply Stats.summarize_eq_error_iff.mp
  rw [check] at failed
  cases summarized : stats.summarize operation.name with
  | error found =>
    rw [summarized] at failed
    cases failed
    rfl
  | ok summary =>
    rw [summarized] at failed
    cases summary <;> contradiction

end Assertion

namespace Runner

variable {stats : Stats} {assertions : List Assertion}

/-- The first assertion that does not hold, or that has no verdict, decides. -/
theorem checkAssertions_cons (assertion : Assertion) :
    checkAssertions stats (assertion :: assertions) =
      match assertion.check stats with
      | .error error => .error error
      | .ok (some detail) =>
        .ok (.error ⟨.assertion assertion, .assertionFailed assertion.name detail⟩)
      | .ok none => checkAssertions stats assertions := by
  rw [checkAssertions]
  cases assertion.check stats with
  | error error => rfl
  | ok found => cases found <;> rfl

theorem exists_of_checkAssertions_eq_error {error : ArithmeticError}
    (failed : checkAssertions stats assertions = .error error) :
    ∃ assertion ∈ assertions, assertion.check stats = .error error := by
  induction assertions with
  | nil => contradiction
  | cons assertion assertions ih =>
    rw [checkAssertions_cons] at failed
    rcases checked : assertion.check stats with found | _ | detail
    · rw [checked] at failed
      cases failed
      exact ⟨assertion, List.mem_cons_self .., checked⟩
    · rw [checked] at failed
      obtain ⟨other, listed, same⟩ := ih failed
      exact ⟨other, List.mem_cons_of_mem _ listed, same⟩
    · rw [checked] at failed
      contradiction

/-- Assertions pass that hold whenever they have a verdict. -/
theorem eq_ok_of_checkAssertions {result : Except Failure Unit}
    (hold : ∀ assertion ∈ assertions, ∀ found, assertion.check stats = .ok found → found = none)
    (checked : checkAssertions stats assertions = .ok result) : result = .ok () := by
  induction assertions with
  | nil =>
    cases checked
    rfl
  | cons assertion assertions ih =>
    rw [checkAssertions_cons] at checked
    cases first : assertion.check stats with
    | error found =>
      rw [first] at checked
      contradiction
    | ok found =>
      obtain rfl := hold assertion (List.mem_cons_self ..) found first
      rw [first] at checked
      exact ih (fun other listed => hold other (List.mem_cons_of_mem _ listed)) checked

theorem check_of_checkAssertions_eq_ok (passed : checkAssertions stats assertions = .ok (.ok ()))
    {assertion : Assertion} (listed : assertion ∈ assertions) :
    assertion.check stats = .ok none := by
  induction assertions with
  | nil => cases listed
  | cons first assertions ih =>
    rw [checkAssertions_cons] at passed
    rcases checked : first.check stats with found | _ | detail
    · rw [checked] at passed
      contradiction
    · rw [checked] at passed
      rcases List.mem_cons.mp listed with rfl | later
      · exact checked
      · exact ih passed later
    · rw [checked] at passed
      cases passed

section Untimed

variable (untimed : ∀ operation, .expansionCostVisible operation ∉ assertions)

include untimed

/-- The assertions hold exactly if all their operations were called. -/
theorem checkAssertions_eq_ok_iff {result : Except Failure Unit}
    (checked : checkAssertions stats assertions = .ok result) :
    result = .ok () ↔
      ∀ operation, .statsAvailable operation ∈ assertions → stats.samples operation.name ≠ [] := by
  constructor
  · rintro rfl operation listed
    exact (Assertion.eq_none_iff_of_check (check_of_checkAssertions_eq_ok checked listed)).mp rfl
  · intro called
    apply eq_ok_of_checkAssertions _ checked
    intro assertion listed found verdict
    cases assertion with
    | expansionCostVisible operation => exact absurd listed (untimed operation)
    | statsAvailable operation =>
      exact (Assertion.eq_none_iff_of_check verdict).mpr (called operation listed)

/-- The verdict depends only on the numbers of samples. -/
theorem checkAssertions_eq_of_counts {others : Stats}
    (counts : ∀ name, (stats.samples name).length = (others.samples name).length)
    {result verdict : Except Failure Unit} (checked : checkAssertions stats assertions = .ok result)
    (again : checkAssertions others assertions = .ok verdict) : result = verdict := by
  induction assertions with
  | nil =>
    cases checked
    cases again
    rfl
  | cons assertion assertions ih =>
    obtain ⟨untimed, later⟩ : (∀ operation, .expansionCostVisible operation ≠ assertion) ∧
        ∀ operation, .expansionCostVisible operation ∉ assertions := by
      simpa only [List.mem_cons, not_or, forall_and] using untimed
    rw [checkAssertions_cons] at checked again
    cases assertion with
    | expansionCostVisible operation => exact absurd rfl (untimed operation)
    | statsAvailable operation =>
      have empty : stats.samples operation.name = [] ↔ others.samples operation.name = [] := by
        rw [← List.length_eq_zero_iff, counts, List.length_eq_zero_iff]
      cases first : (Assertion.statsAvailable operation).check stats with
      | error error =>
        rw [first] at checked
        contradiction
      | ok found =>
        cases second : (Assertion.statsAvailable operation).check others with
        | error error =>
          rw [second] at again
          contradiction
        | ok other =>
          obtain rfl : found = other := by
            rw [Assertion.eq_of_check first, Assertion.eq_of_check second]
            simp only [empty]
          rw [first] at checked
          rw [second] at again
          cases found with
          | none => exact ih later checked again
          | some detail =>
            cases checked
            cases again
            rfl

/-- The check has no verdict only if the samples of one of the operations are too long. -/
theorem overflows_of_checkAssertions {error : ArithmeticError}
    (failed : checkAssertions stats assertions = .error error) :
    error = .durationSum ∧
      ∃ operation, .statsAvailable operation ∈ assertions ∧ stats.Overflows operation := by
  obtain ⟨assertion, listed, undecided⟩ := exists_of_checkAssertions_eq_error failed
  cases assertion with
  | expansionCostVisible operation => exact absurd listed (untimed operation)
  | statsAvailable operation =>
    obtain ⟨sum, long⟩ := Assertion.overflows_of_check_statsAvailable undecided
    exact ⟨sum, operation, listed, long⟩

end Untimed

end Runner

end PageMetadata
