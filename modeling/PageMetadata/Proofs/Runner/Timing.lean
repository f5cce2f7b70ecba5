import PageMetadata.Proofs.Runner.Assertion

/-! # Assertions that need times

The cost of an expansion shows if the first call of an operation took longer than the later ones in
the mean. Cutting the mean to whole nanoseconds makes no difference to that. An assertion whose
operation was called often enough holds as soon as the cost shows, if the times can be summed at
all.
-/

namespace PageMetadata

/-- The first call took longer than the later ones in the mean. -/
def Stats.CostShows (stats : Stats) (operation : Operation) : Prop :=
  ∀ first rest, stats.samples operation.name = first :: rest →
    Duration.totalNanoseconds rest < rest.length * first.nanoseconds

/-- Wherever the scenario asserts that the cost of an expansion shows, it does. -/
def Scenario.CostShows (scenario : Scenario) (stats : Stats) : Prop :=
  ∀ operation, .expansionCostVisible operation ∈ scenario.assertions → stats.CostShows operation

instance (stats : Stats) (operation : Operation) : Decidable (stats.CostShows operation) :=
  match recorded : stats.samples operation.name with
  | [] => .isTrue fun first rest some => by simp [recorded] at some
  | first :: rest =>
    decidable_of_iff (Duration.totalNanoseconds rest < rest.length * first.nanoseconds)
      (by simp [Stats.CostShows, recorded])

def Assertion.operation : Assertion → Operation
  | .expansionCostVisible operation => operation
  | .statsAvailable operation => operation

instance (scenario : Scenario) (stats : Stats) : Decidable (scenario.CostShows stats) :=
  decidable_of_iff
    (∀ assertion ∈ scenario.assertions, assertion = .expansionCostVisible assertion.operation →
      stats.CostShows assertion.operation)
    ⟨fun shows _ asserted => shows _ asserted rfl,
      fun shows assertion listed same => shows assertion.operation (same ▸ listed)⟩

namespace Assertion

/-- The operation was called often enough for the assertion, and not more often than the samples can
be counted in a mean. -/
def Served (assertion : Assertion) (operations : List Operation) : Prop :=
  match assertion with
  | .expansionCostVisible operation =>
    2 ≤ operations.count operation ∧ operations.count operation ≤ UInt32.size
  | .statsAvailable operation => operation ∈ operations

instance (assertion : Assertion) (operations : List Operation) :
    Decidable (assertion.Served operations) := by
  unfold Served
  split <;> infer_instance

variable {stats : Stats} {asserted : Operation} {first : Duration} {later : List Duration}

theorem check_of_overflow (recorded : stats.samples asserted.name = first :: later)
    (long : maxNanoseconds < Duration.totalNanoseconds later) :
    (Assertion.expansionCostVisible asserted).check stats = .error .durationSum := by
  cases later with
  | nil => exact absurd long (Nat.not_lt_zero _)
  | cons second rest =>
    have missing : Duration.sum (second :: rest) = .error .durationSum :=
      Duration.sum_eq_error_iff.mpr ⟨rfl, long⟩
    simp only [check, recorded, missing, bind, Except.bind]

/-- The first sample is compared with all later ones together. It is taken as often as there are
later ones, as far as a 32-bit word counts them, and the cut of the mean makes no difference. -/
theorem check_of_samples (recorded : stats.samples asserted.name = first :: later)
    (several : later ≠ []) (fits : Duration.totalNanoseconds later ≤ maxNanoseconds) :
    (Assertion.expansionCostVisible asserted).check stats =
      let count := later.length % UInt32.size
      if count = 0 then .error .durationDivision
      else if Duration.totalNanoseconds later < count * first.nanoseconds then .ok none
      else .ok (some (.notAboveMean first
        ⟨Duration.totalNanoseconds later / count, Nat.le_trans (Nat.div_le_self _ _) fits⟩
        later.length)) := by
  cases later with
  | nil => contradiction
  | cons second rest =>
    have summed : Duration.sum (second :: rest) =
        .ok ⟨Duration.totalNanoseconds (second :: rest), fits⟩ :=
      Duration.sum_eq_ok_iff.mpr rfl
    simp only [check, recorded, summed, bind, Except.bind, Duration.divide_ofNat]
    by_cases zero : (second :: rest).length % UInt32.size = 0
    · simp only [if_pos zero]
    · have above : Duration.totalNanoseconds (second :: rest) /
          ((second :: rest).length % UInt32.size) < first.nanoseconds ↔
          Duration.totalNanoseconds (second :: rest) <
            (second :: rest).length % UInt32.size * first.nanoseconds := by
        rw [Nat.div_lt_iff_lt_mul (Nat.pos_of_ne_zero zero), Nat.mul_comm]
      simp only [if_neg zero, ← Nat.not_lt, above, pure, Except.pure, ite_not]
      split <;> rfl

/-- Few enough samples are counted as they are. -/
theorem check_of_few_samples (recorded : stats.samples asserted.name = first :: later)
    (several : later ≠ []) (few : later.length < UInt32.size)
    (fits : Duration.totalNanoseconds later ≤ maxNanoseconds) :
    (Assertion.expansionCostVisible asserted).check stats =
      if Duration.totalNanoseconds later < later.length * first.nanoseconds then .ok none
      else .ok (some (.notAboveMean first
        ⟨Duration.totalNanoseconds later / later.length,
          Nat.le_trans (Nat.div_le_self _ _) fits⟩ later.length)) := by
  have nonzero : later.length ≠ 0 := by simpa using several
  rw [check_of_samples recorded several fits]
  simp only [Nat.mod_eq_of_lt few, if_neg nonzero]

theorem check_of_missing_samples (missing : (stats.samples asserted.name).tail = []) :
    (Assertion.expansionCostVisible asserted).check stats =
      .ok (some (.tooFewSamples (stats.samples asserted.name).length)) := by
  rcases recorded : stats.samples asserted.name with _ | ⟨first, _ | ⟨second, rest⟩⟩
  · rw [check, recorded]
  · rw [check, recorded]
  · rw [recorded] at missing
    contradiction

/-- An assertion that has no verdict has samples that are too long. -/
theorem overflows_of_check {assertion : Assertion} {error : ArithmeticError}
    (few : ∀ asserted, assertion = .expansionCostVisible asserted →
      (stats.samples asserted.name).length ≤ UInt32.size)
    (failed : assertion.check stats = .error error) :
    error = .durationSum ∧ stats.Overflows assertion.operation := by
  cases assertion with
  | statsAvailable asserted => exact overflows_of_check_statsAvailable failed
  | expansionCostVisible asserted =>
    by_cases several : (stats.samples asserted.name).tail = []
    · rw [check_of_missing_samples several] at failed
      contradiction
    · cases recorded : stats.samples asserted.name with
      | nil => simp [recorded] at several
      | cons first later =>
        have short := few asserted rfl
        rw [recorded] at short several
        by_cases fits : Duration.totalNanoseconds later ≤ maxNanoseconds
        · rw [check_of_few_samples recorded several short fits] at failed
          split at failed <;> contradiction
        · have long := Nat.lt_of_not_le fits
          rw [check_of_overflow recorded long] at failed
          cases failed
          refine ⟨rfl, ?_⟩
          rw [Stats.Overflows, operation, recorded]
          exact Nat.lt_of_lt_of_le long (Nat.le_add_left ..)

/-- An assertion that is served and that has a verdict holds. -/
theorem eq_none_of_check {assertion : Assertion} {operations : List Operation}
    (counted : ∀ operation : Operation,
      (stats.samples operation.name).length = operations.count operation)
    (served : assertion.Served operations)
    (shows : ∀ asserted, assertion = .expansionCostVisible asserted → stats.CostShows asserted)
    {found : Option AssertionDetail} (checked : assertion.check stats = .ok found) :
    found = none := by
  cases assertion with
  | statsAvailable asserted =>
    rw [eq_none_iff_of_check checked, ← List.length_pos_iff, counted, List.count_pos_iff]
    exact served
  | expansionCostVisible asserted =>
    obtain ⟨two, few⟩ := served
    rw [← counted] at two few
    cases recorded : stats.samples asserted.name with
    | nil => simp [recorded] at two
    | cons first later =>
      have several : later ≠ [] := by
        rintro rfl
        simp [recorded] at two
      rw [recorded] at few
      by_cases fits : Duration.totalNanoseconds later ≤ maxNanoseconds
      · rw [check_of_few_samples recorded several few fits,
          if_pos (shows asserted rfl first later recorded)] at checked
        cases checked
        rfl
      · rw [check_of_overflow recorded (Nat.lt_of_not_le fits)] at checked
        contradiction

end Assertion

end PageMetadata
