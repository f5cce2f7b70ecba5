import PageMetadata.Proofs.Duration
import PageMetadata.Proofs.Except
import PageMetadata.Stats

/-! # What a summary says

A summary counts and adds up the samples of a name and has the least and the greatest of them. None
of this depends on the order of the samples, nor does whether they can be summed.
-/

namespace PageMetadata

open Text

/-- The summary has the figures of these samples, its deviation left out. -/
structure Summary.Describes (summary : Summary) (samples : List Duration) : Prop where
  count_eq : summary.count = samples.length
  total_eq : summary.total.nanoseconds = Duration.totalNanoseconds samples
  minimum_mem : ∃ sample ∈ samples, sample.nanoseconds = summary.minimum
  minimum_le : ∀ sample ∈ samples, summary.minimum ≤ sample.nanoseconds
  maximum_mem : ∃ sample ∈ samples, sample.nanoseconds = summary.maximum
  le_maximum : ∀ sample ∈ samples, sample.nanoseconds ≤ summary.maximum
  mean_eq : summary.mean =
    nearestFloat (Duration.totalNanoseconds samples) / nearestFloat samples.length

/-- Two summaries have the same figures, their deviations left out. -/
structure Summary.Agrees (first second : Summary) : Prop where
  count_eq : first.count = second.count
  total_eq : first.total = second.total
  minimum_eq : first.minimum = second.minimum
  maximum_eq : first.maximum = second.maximum
  mean_eq : first.mean = second.mean

namespace Summary.Describes

variable {summary other : Summary} {samples others : List Duration}

theorem of_perm (describes : summary.Describes samples) (same : samples.Perm others) :
    summary.Describes others where
  count_eq := describes.count_eq.trans same.length_eq
  total_eq := describes.total_eq.trans (Duration.totalNanoseconds_eq_of_perm same)
  minimum_mem := by simpa only [same.mem_iff] using describes.minimum_mem
  minimum_le := by simpa only [same.mem_iff] using describes.minimum_le
  maximum_mem := by simpa only [same.mem_iff] using describes.maximum_mem
  le_maximum := by simpa only [same.mem_iff] using describes.le_maximum
  mean_eq := by
    rw [describes.mean_eq, Duration.totalNanoseconds_eq_of_perm same, same.length_eq]

/-- What samples amount to is the same in each summary of them. -/
theorem agrees (first : summary.Describes samples) (second : other.Describes samples) :
    summary.Agrees other where
  count_eq := first.count_eq.trans second.count_eq.symm
  total_eq := Duration.ext (first.total_eq.trans second.total_eq.symm)
  minimum_eq := by
    obtain ⟨least, listed, least_eq⟩ := first.minimum_mem
    obtain ⟨lowest, among, lowest_eq⟩ := second.minimum_mem
    apply Nat.le_antisymm
    · exact lowest_eq ▸ first.minimum_le lowest among
    · exact least_eq ▸ second.minimum_le least listed
  maximum_eq := by
    obtain ⟨most, listed, most_eq⟩ := first.maximum_mem
    obtain ⟨highest, among, highest_eq⟩ := second.maximum_mem
    apply Nat.le_antisymm
    · exact most_eq ▸ second.le_maximum most listed
    · exact highest_eq ▸ first.le_maximum highest among
  mean_eq := first.mean_eq.trans second.mean_eq.symm

/-- All samples together lie between as many of the least and as many of the greatest. -/
theorem bounds (describes : summary.Describes samples) :
    summary.minimum * summary.count ≤ summary.total.nanoseconds ∧
      summary.total.nanoseconds ≤ summary.maximum * summary.count := by
  rw [describes.count_eq, describes.total_eq]
  exact ⟨Duration.mul_length_le_totalNanoseconds describes.minimum_le,
    Duration.totalNanoseconds_le_mul_length describes.le_maximum⟩

end Summary.Describes

namespace Stats

variable {stats other : Stats} {name : String}

theorem summarize_eq_error_iff {error : ArithmeticError} :
    stats.summarize name = .error error ↔
      error = .durationSum ∧ maxNanoseconds < Duration.totalNanoseconds (stats.samples name) := by
  unfold summarize
  split
  · next none => simp [none, Duration.totalNanoseconds]
  · next first rest some =>
    rw [some, ← Duration.sum_eq_error_iff]
    cases summed : Duration.sum (first :: rest) <;>
      simp [bind, Except.bind, pure, Except.pure, summed]

theorem isSome_of_summarize {summary : Option Summary}
    (summarized : stats.summarize name = .ok summary) :
    summary.isSome = true ↔ stats.samples name ≠ [] := by
  unfold summarize at summarized
  split at summarized
  · next none =>
    cases summarized
    simp [none]
  · next first rest some =>
    obtain ⟨total, _, same⟩ := bind_eq_ok_iff.mp summarized
    cases same
    simp [some]

theorem describes_of_summarize {summary : Summary}
    (summarized : stats.summarize name = .ok (some summary)) :
    summary.Describes (stats.samples name) := by
  unfold summarize at summarized
  split at summarized
  · cases summarized
  · next first rest recorded =>
    obtain ⟨total, summed, same⟩ := bind_eq_ok_iff.mp summarized
    have total_eq := Duration.sum_eq_ok_iff.mp summed
    cases same
    rw [recorded]
    have least : ((first :: rest).map Duration.nanoseconds).min? = some
        (rest.foldl (fun least sample => min least sample.nanoseconds) first.nanoseconds) := by
      rw [List.map_cons, List.min?_cons', List.foldl_map]
    have most : ((first :: rest).map Duration.nanoseconds).max? = some
        (rest.foldl (fun most sample => max most sample.nanoseconds) first.nanoseconds) := by
      rw [List.map_cons, List.max?_cons', List.foldl_map]
    rw [List.min?_eq_some_iff] at least
    rw [List.max?_eq_some_iff] at most
    exact {
      count_eq := rfl
      total_eq
      minimum_mem := List.mem_map.mp least.1
      minimum_le := fun sample listed => least.2 _ (List.mem_map_of_mem listed)
      maximum_mem := List.mem_map.mp most.1
      le_maximum := fun sample listed => most.2 _ (List.mem_map_of_mem listed)
      mean_eq := by rw [← total_eq] }

theorem summarize_of_nil (unsampled : stats.samples name = []) : stats.summarize name = .ok none := by
  unfold summarize
  rw [unsampled]

/-- Samples in another order cannot be summed either, or there are none of them either, or they
amount to the same. -/
theorem summarize_of_perm (same : (stats.samples name).Perm (other.samples name)) :
    (stats.summarize name = .error .durationSum ∧ other.summarize name = .error .durationSum) ∨
    (stats.summarize name = .ok none ∧ other.summarize name = .ok none) ∨
    ∃ first second, stats.summarize name = .ok (some first) ∧
      other.summarize name = .ok (some second) ∧ first.Describes (stats.samples name) ∧
      first.Agrees second := by
  have total := Duration.totalNanoseconds_eq_of_perm same
  rcases here : stats.summarize name with error | _ | first
  · obtain ⟨rfl, long⟩ := summarize_eq_error_iff.mp here
    exact .inl ⟨rfl, summarize_eq_error_iff.mpr ⟨rfl, total ▸ long⟩⟩
  · have unsampled : stats.samples name = [] := by
      simpa using isSome_of_summarize here
    exact .inr (.inl ⟨rfl, summarize_of_nil (List.nil_perm.mp (unsampled ▸ same))⟩)
  · have describes := describes_of_summarize here
    rcases there : other.summarize name with error | _ | second
    · obtain ⟨rfl, long⟩ := summarize_eq_error_iff.mp there
      rw [summarize_eq_error_iff.mpr ⟨rfl, total ▸ long⟩] at here
      contradiction
    · have unsampled : other.samples name = [] := by
        simpa using isSome_of_summarize there
      rw [summarize_of_nil (List.perm_nil.mp (unsampled ▸ same))] at here
      cases here
    · exact .inr (.inr ⟨first, second, rfl, rfl, describes,
        (describes.of_perm same).agrees (describes_of_summarize there)⟩)

/-- The rate follows from the number of samples and their total. -/
theorem throughput_of_perm (same : (stats.samples name).Perm (other.samples name)) :
    stats.throughput name = other.throughput name := by
  unfold throughput
  obtain ⟨here, there⟩ | ⟨here, there⟩ | ⟨first, second, here, there, _, agrees⟩ :=
    summarize_of_perm same
  · rw [here, there]
  · rw [here, there]
  · rw [here, there]
    simp only [bind, Except.bind, agrees.total_eq, agrees.count_eq]

end Stats

end PageMetadata
