import PageMetadata.Proofs.Merging

/-! # The order of merges

Statistics that are merged in another order list the same names, and each name has the same samples
in another order. The figures of the summaries are the same, and so are the rates.
-/

namespace PageMetadata.Stats

variable {parts others : List Stats}

/-- The statistics of several parts, merged one after another. -/
def mergeAll (parts : List Stats) : Stats := parts.foldl merge empty

theorem mergeAll_append_singleton (parts : List Stats) (last : Stats) :
    mergeAll (parts ++ [last]) = (mergeAll parts).merge last :=
  List.foldl_append

theorem samples_mergeAll (parts : List Stats) (name : String) :
    (mergeAll parts).samples name = parts.flatMap (·.samples name) := by
  induction parts using List.reverseRecOn with
  | nil => rfl
  | append_singleton parts last ih =>
    rw [mergeAll_append_singleton, samples_merge, ih, List.flatMap_append]
    simp

theorem names_mergeAll (parts : List Stats) :
    (mergeAll parts).names = (parts.flatMap names).eraseDups := by
  induction parts using List.reverseRecOn with
  | nil => rfl
  | append_singleton parts last ih =>
    rw [mergeAll_append_singleton, names_merge, ih, eraseDups_eraseDups_append,
      List.flatMap_append]
    simp

theorem samples_mergeAll_perm (reordered : parts.Perm others) (name : String) :
    ((mergeAll parts).samples name).Perm ((mergeAll others).samples name) := by
  rw [samples_mergeAll, samples_mergeAll]
  exact reordered.flatMap_right _

theorem names_mergeAll_perm (reordered : parts.Perm others) :
    (mergeAll parts).names.Perm (mergeAll others).names := by
  refine (List.perm_ext_iff_of_nodup (nodup_names _) (nodup_names _)).mpr ?_
  intro name
  rw [names_mergeAll, names_mergeAll, List.mem_eraseDups, List.mem_eraseDups]
  exact (reordered.flatMap_right names).mem_iff

/-- Merging in another order gives the same names, under each name the same samples in another
order, and summaries that are missing alike or have the same figures. They are missing for a sum
that is too long exactly if the exact sum of the samples is, in whichever order the samples are
added up. -/
theorem merged_in_any_order {parts others : List Stats} (reordered : parts.Perm others) :
    let merged := mergeAll parts
    let again := mergeAll others
    merged.names.Perm again.names ∧
    ∀ name,
      (merged.samples name).Perm (again.samples name) ∧
      (merged.summarize name = .error .durationSum ↔
        maxNanoseconds < Duration.totalNanoseconds (merged.samples name)) ∧
      (∀ samples, samples.Perm (merged.samples name) →
        Duration.runningSum samples = Duration.sum (merged.samples name)) ∧
      ((merged.summarize name = .error .durationSum ∧
          again.summarize name = .error .durationSum) ∨
        (merged.summarize name = .ok none ∧ again.summarize name = .ok none) ∨
        ∃ first second, merged.summarize name = .ok (some first) ∧
          again.summarize name = .ok (some second) ∧
          first.Describes (merged.samples name) ∧ first.Agrees second ∧
          first.minimum * first.count ≤ first.total.nanoseconds ∧
          first.total.nanoseconds ≤ first.maximum * first.count) ∧
      merged.throughput name = again.throughput name := by
  refine ⟨names_mergeAll_perm reordered, ?_⟩
  intro name
  have same := samples_mergeAll_perm reordered name
  refine ⟨same, ?_, ?_, ?_, throughput_of_perm same⟩
  · rw [summarize_eq_error_iff]
    simp
  · intro samples order
    rw [Duration.runningSum_eq_sum, Duration.sum_eq_of_perm order]
  · obtain missing | none | ⟨first, second, here, there, describes, agrees⟩ :=
      summarize_of_perm same
    · exact .inl missing
    · exact .inr (.inl none)
    · exact .inr (.inr ⟨first, second, here, there, describes, agrees, describes.bounds⟩)

/-- Samples that are too long together stay so in the other order, wherever the longest of them
comes, and the least and the greatest sample of another name are found in either order. -/
theorem two_parts_merged_in_either_order :
    let longest : Duration := ⟨maxNanoseconds, Nat.le_refl _⟩
    let left := collect [("op", .ofWord 1), ("long", longest), ("op", .ofWord 5)]
    let right := collect [("op", .ofWord 3), ("other", .ofWord 7), ("long", .ofWord 1)]
    let merged := mergeAll [left, right]
    let again := mergeAll [right, left]
    [left, right].Perm [right, left] ∧
    merged.names.Perm again.names ∧
    (merged.summarize "long" = .error .durationSum ∧
      again.summarize "long" = .error .durationSum) ∧
    ([.ofWord 1, longest].Perm (merged.samples "long") ∧
      Duration.runningSum [.ofWord 1, longest] = .error .durationSum) ∧
    (∃ first second, merged.summarize "op" = .ok (some first) ∧
      again.summarize "op" = .ok (some second) ∧ first.Agrees second ∧ first.count = 3 ∧
      first.minimum * 3 ≤ 9 ∧ 9 ≤ first.maximum * 3) ∧
    merged.throughput "op" = again.throughput "op" := by
  intro longest left right merged again
  have swapped : [left, right].Perm [right, left] := .swap right left []
  obtain ⟨names, figures⟩ := merged_in_any_order swapped
  have longSamples : merged.samples "long" = [longest, .ofWord 1] := by
    rw [samples_mergeAll]
    decide
  have samples : merged.samples "op" = [.ofWord 1, .ofWord 5, .ofWord 3] := by
    rw [samples_mergeAll]
    decide
  have turned : [.ofWord 1, longest].Perm (merged.samples "long") := by
    rw [longSamples]
    exact .swap longest (.ofWord 1) []
  obtain ⟨_, tooLongIff, inAnyOrder, longCases, _⟩ := figures "long"
  obtain ⟨_, missingIff, _, cases, rate⟩ := figures "op"
  have tooLong : merged.summarize "long" = .error .durationSum := by
    rw [tooLongIff, longSamples]
    decide
  refine ⟨swapped, names, ⟨tooLong, ?_⟩, ⟨turned, ?_⟩, ?_, rate⟩
  · obtain ⟨_, alike⟩ | ⟨none, _⟩ | ⟨_, _, some, _⟩ := longCases
    · exact alike
    · rw [tooLong] at none
      contradiction
    · rw [tooLong] at some
      contradiction
  · rw [inAnyOrder _ turned, longSamples, Duration.sum_eq_error_iff]
    decide
  · obtain ⟨missing, _⟩ | ⟨none, _⟩ | ⟨first, second, here, there, describes, agrees, bounds⟩ :=
      cases
    · rw [missingIff, samples] at missing
      exact absurd missing (by decide)
    · have unsampled := isSome_of_summarize none
      rw [samples] at unsampled
      simp at unsampled
    · have count : first.count = 3 := by
        rw [describes.count_eq, samples]
        rfl
      have total : first.total.nanoseconds = 9 := by
        rw [describes.total_eq, samples]
        rfl
      rw [count, total] at bounds
      exact ⟨first, second, here, there, agrees, count, bounds⟩

end PageMetadata.Stats
