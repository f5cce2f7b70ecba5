import PageMetadata.Proofs.Runner.Timing
import PageMetadata.Proofs.Stats

/-! # How the cost of an expansion is judged

The first sample of an operation is compared with the mean of its later ones. The comparison is
exact for every number of later samples that a 32-bit word can hold. Beyond that only the remainder
of their number counts, and a remainder of zero leaves the mean undefined.
-/

namespace PageMetadata

namespace Stats

/-- The first sample of an operation, taken `count` times, is longer than all later ones together,
and there are later ones. -/
def FirstOutweighs (stats : Stats) (operation : Operation) (count : Nat) : Prop :=
  ∃ first later, stats.samples operation.name = first :: later ∧ 1 ≤ later.length ∧
    Duration.totalNanoseconds later < count * first.nanoseconds

theorem firstOutweighs_iff {stats : Stats} {operation : Operation} {first : Duration}
    {later : List Duration} (recorded : stats.samples operation.name = first :: later)
    (several : later ≠ []) (count : Nat) :
    stats.FirstOutweighs operation count ↔
      Duration.totalNanoseconds later < count * first.nanoseconds := by
  unfold FirstOutweighs
  rw [recorded]
  constructor
  · rintro ⟨_, _, ⟨⟩, _, longer⟩
    exact longer
  · intro longer
    exact ⟨first, later, rfl, List.length_pos_of_ne_nil several, longer⟩

theorem samples_collect_replicate (name : String) (first later : Duration) (count : Nat) :
    (collect ((name, first) :: List.replicate count (name, later))).samples name =
      first :: List.replicate count later := by
  rw [samples_collect, List.filter_cons_of_pos (by simp), List.filter_replicate_of_pos (by simp),
    List.map_cons, List.map_replicate]

end Stats

namespace Assertion

variable {stats : Stats} {operation : Operation}

/-- Without later samples the cost does not show, and the check says so. -/
theorem exists_check_of_missing_samples (missing : (stats.samples operation.name).tail = [])
    (count : Nat) :
    ∃ found, (Assertion.expansionCostVisible operation).check stats = .ok found ∧
      (found = none ↔ stats.FirstOutweighs operation count) := by
  refine ⟨_, check_of_missing_samples missing, ?_⟩
  simp only [reduceCtorEq, false_iff]
  rintro ⟨first, later, recorded, several, _⟩
  rw [recorded, List.tail_cons] at missing
  rw [missing] at several
  contradiction

/-- The check compares exactly whenever a word counts some of the later samples. -/
theorem exists_check_of_counted
    (fits : Duration.totalNanoseconds (stats.samples operation.name).tail ≤ maxNanoseconds)
    (counted : (stats.samples operation.name).tail.length % UInt32.size ≠ 0) :
    ∃ found, (Assertion.expansionCostVisible operation).check stats = .ok found ∧
      (found = none ↔ stats.FirstOutweighs operation
        ((stats.samples operation.name).tail.length % UInt32.size)) := by
  rcases recorded : stats.samples operation.name with _ | ⟨first, later⟩
  · rw [recorded] at counted
    contradiction
  · rw [recorded, List.tail_cons] at fits counted
    have several : later ≠ [] := by
      rintro rfl
      contradiction
    rw [check_of_samples recorded several fits, List.tail_cons,
      Stats.firstOutweighs_iff recorded several]
    simp only [if_neg counted]
    split
    · next longer => exact ⟨none, rfl, iff_of_true rfl longer⟩
    · next short => exact ⟨_, rfl, iff_of_false (by simp) short⟩

theorem check_of_uncounted
    (fits : Duration.totalNanoseconds (stats.samples operation.name).tail ≤ maxNanoseconds)
    (several : (stats.samples operation.name).tail ≠ [])
    (uncounted : (stats.samples operation.name).tail.length % UInt32.size = 0) :
    (Assertion.expansionCostVisible operation).check stats = .error .durationDivision := by
  rcases recorded : stats.samples operation.name with _ | ⟨first, later⟩
  · rw [recorded] at several
    contradiction
  · rw [recorded, List.tail_cons] at fits several uncounted
    rw [check_of_samples recorded several fits]
    simp only [if_pos uncounted]

/-- Up to the greatest number that a 32-bit word holds, the later samples are counted, and the check
always has a verdict: the cost shows exactly if as many of the first sample are longer than the
later ones together. Of more samples only the remainder is counted, and if nothing remains there is
no mean. -/
theorem visible_cost_judged (stats : Stats) (operation : Operation)
    (fits : Duration.totalNanoseconds (stats.samples operation.name).tail ≤ maxNanoseconds) :
    let count := (stats.samples operation.name).tail.length
    let verdict := (Assertion.expansionCostVisible operation).check stats
    (count < UInt32.size →
      ∃ found, verdict = .ok found ∧
        (found = none ↔ stats.FirstOutweighs operation count)) ∧
    (UInt32.size ≤ count → count % UInt32.size ≠ 0 →
      ∃ found, verdict = .ok found ∧
        (found = none ↔ stats.FirstOutweighs operation (count % UInt32.size))) ∧
    (UInt32.size ≤ count → count % UInt32.size = 0 →
      verdict = .error .durationDivision) := by
  intro count verdict
  refine ⟨?_, ?_, ?_⟩
  · intro few
    by_cases missing : (stats.samples operation.name).tail = []
    · exact exists_check_of_missing_samples missing count
    · have whole : count % UInt32.size = count := Nat.mod_eq_of_lt few
      have counted : count % UInt32.size ≠ 0 := by
        rw [whole]
        exact fun zero => missing (List.length_eq_zero_iff.mp zero)
      have judged := exists_check_of_counted fits counted
      rwa [whole] at judged
  · intro _ counted
    exact exists_check_of_counted fits counted
  · intro many uncounted
    apply check_of_uncounted fits _ uncounted
    intro missing
    have none : count = 0 := List.length_eq_zero_iff.mpr missing
    rw [none] at many
    exact absurd many (by decide)

/-- Three is not above the mean of three and four, though it is not below that mean when cut. Of one
sample more than a word has values, only one is counted, and two are not above all of them. -/
theorem cut_mean_judged :
    let name := Operation.enable.name
    let few := Stats.collect [(name, .ofWord 3), (name, .ofWord 3), (name, .ofWord 4)]
    let many := Stats.collect
      ((name, .ofWord 2) :: List.replicate (UInt32.size + 1) (name, .ofWord 1))
    (Duration.totalNanoseconds (few.samples name).tail ≤ maxNanoseconds ∧
      (few.samples name).tail.length < UInt32.size) ∧
    (Duration.totalNanoseconds (many.samples name).tail ≤ maxNanoseconds ∧
      UInt32.size ≤ (many.samples name).tail.length ∧
      (many.samples name).tail.length % UInt32.size ≠ 0) ∧
    (∃ found, (Assertion.expansionCostVisible .enable).check few = .ok found ∧ found ≠ none) ∧
    ∃ found, (Assertion.expansionCostVisible .enable).check many = .ok found ∧
      found ≠ none := by
  intro name few many
  have recorded : few.samples name = [.ofWord 3, .ofWord 3, .ofWord 4] :=
    (Stats.samples_collect _ name).trans (by decide)
  have fits : Duration.totalNanoseconds (few.samples name).tail ≤ maxNanoseconds := by
    rw [recorded]
    decide
  have short : (few.samples name).tail.length < UInt32.size := by
    rw [recorded]
    decide
  have repeated : many.samples name =
      .ofWord 2 :: List.replicate (UInt32.size + 1) (.ofWord 1) :=
    Stats.samples_collect_replicate name (.ofWord 2) (.ofWord 1) (UInt32.size + 1)
  have total := Duration.totalNanoseconds_replicate (UInt32.size + 1) (.ofWord 1)
  have length : (many.samples name).tail.length = UInt32.size + 1 := by
    rw [repeated, List.tail_cons, List.length_replicate]
  have several : List.replicate (UInt32.size + 1) (Duration.ofWord 1) ≠ [] := by
    rw [← List.length_pos_iff, List.length_replicate]
    exact Nat.succ_pos _
  have sums : Duration.totalNanoseconds (many.samples name).tail ≤ maxNanoseconds := by
    rw [repeated, List.tail_cons, total]
    decide
  have long : UInt32.size ≤ (many.samples name).tail.length := by
    rw [length]
    exact Nat.le_succ _
  have rest : (many.samples name).tail.length % UInt32.size ≠ 0 := by
    rw [length]
    decide
  obtain ⟨found, checked, judged⟩ := (visible_cost_judged few .enable fits).1 short
  obtain ⟨other, verdict, shown⟩ := (visible_cost_judged many .enable sums).2.1 long rest
  refine ⟨⟨fits, short⟩, ⟨sums, long, rest⟩, ⟨found, checked, ?_⟩, other, verdict, ?_⟩
  · rw [Ne, judged, Stats.firstOutweighs_iff recorded (by decide), recorded]
    decide
  · rw [Ne, shown, Stats.firstOutweighs_iff repeated several, total, length]
    decide

/-- As many later samples as a word has values leave the check without a verdict, although they can
be summed and are shorter than the first one in the mean. -/
theorem no_verdict_for_word_many_samples :
    let name := Operation.enable.name
    let stats := Stats.collect
      ((name, .ofWord 2) :: List.replicate UInt32.size (name, .ofWord 1))
    (stats.samples name).tail.length = UInt32.size ∧
    Duration.totalNanoseconds (stats.samples name).tail ≤ maxNanoseconds ∧
    stats.FirstOutweighs .enable (stats.samples name).tail.length ∧
    (Assertion.expansionCostVisible .enable).check stats = .error .durationDivision := by
  intro name stats
  have recorded : stats.samples name =
      .ofWord 2 :: List.replicate UInt32.size (.ofWord 1) :=
    Stats.samples_collect_replicate name (.ofWord 2) (.ofWord 1) UInt32.size
  have count : (List.replicate UInt32.size (Duration.ofWord 1)).length = UInt32.size :=
    List.length_replicate
  have total := Duration.totalNanoseconds_replicate UInt32.size (.ofWord 1)
  have several : List.replicate UInt32.size (Duration.ofWord 1) ≠ [] := by
    rw [← List.length_pos_iff, count]
    decide
  have fits : Duration.totalNanoseconds (stats.samples name).tail ≤ maxNanoseconds := by
    rw [recorded, List.tail_cons, total]
    decide
  refine ⟨by rw [recorded, List.tail_cons, count], fits, ?_, ?_⟩
  · rw [Stats.firstOutweighs_iff recorded several, recorded, List.tail_cons, total, count]
    decide
  · apply check_of_uncounted fits
    · rw [recorded, List.tail_cons]
      exact several
    · rw [recorded, List.tail_cons, count]
      exact Nat.mod_self _

end Assertion

end PageMetadata
