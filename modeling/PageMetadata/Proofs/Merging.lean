import PageMetadata.Proofs.Stats
import PageMetadata.Proofs.Summary

/-! # Merged statistics

What was recorded apart and merged is what would have been recorded at once: the names in the order
of their first event, and under each name the times in the order of its events.
-/

namespace PageMetadata.Stats

variable {stats other : Stats} {name : String}

/-- Statistics are their names, in their order, and the samples of each. -/
theorem eq_of_names_of_samples (names : stats.names = other.names)
    (samples : ∀ name, stats.samples name = other.samples name) : stats = other := by
  have entries : stats.samplesByName = other.samplesByName := by
    apply Registry.eq_of_keys_of_get? names
    intro name
    have here := samples name
    unfold Stats.samples at here
    have listed : name ∈ stats.samplesByName.keys ↔ name ∈ other.samplesByName.keys :=
      iff_of_eq (congrArg (name ∈ ·) names)
    cases found : stats.samplesByName.get? name with
    | none =>
      rw [Registry.get?_eq_none_iff, listed, ← Registry.get?_eq_none_iff] at found
      exact found.symm
    | some held =>
      cases others : other.samplesByName.get? name with
      | none =>
        rw [Registry.get?_eq_none_iff, ← listed, ← Registry.get?_eq_none_iff, found] at others
        contradiction
      | some kept =>
        rw [found, others, Option.getD_some, Option.getD_some, Array.toList_inj] at here
        rw [here]
  obtain ⟨_⟩ := stats
  obtain ⟨_⟩ := other
  exact congrArg Stats.mk entries

theorem nodup_names (stats : Stats) : stats.names.Nodup := stats.samplesByName.nodup_keys

/-- Adds samples behind those of one name. -/
def extend (stats : Stats) (name : String) (added : Array Duration) : Stats :=
  ⟨stats.samplesByName.alter name fun samples => samples.getD #[] ++ added⟩

theorem samples_extend (added : Array Duration) (name other : String) :
    (stats.extend name added).samples other =
      if other = name then stats.samples name ++ added.toList else stats.samples other := by
  unfold samples extend
  rw [Registry.get?_alter]
  split <;> simp

/-- A merge extends the names of the other statistics, one after another. -/
def extendAll (stats : Stats) (parts : List (String × Array Duration)) : Stats :=
  parts.foldl (fun stats (name, added) => stats.extend name added) stats

theorem merge_eq_extendAll (stats other : Stats) :
    stats.merge other = stats.extendAll other.samplesByName.entries := by
  unfold merge
  generalize other.samplesByName.entries = parts
  induction parts generalizing stats with
  | nil => rfl
  | cons part parts ih => exact ih (stats.extend part.1 part.2)

theorem samples_extendAll (parts : List (String × Array Duration)) (name : String) :
    (stats.extendAll parts).samples name =
      stats.samples name ++ (parts.filter (·.1 = name)).flatMap (·.2.toList) := by
  induction parts generalizing stats with
  | nil => simp [extendAll]
  | cons part parts ih =>
    obtain ⟨other, added⟩ := part
    rw [extendAll, List.foldl_cons, ← extendAll, ih, samples_extend]
    by_cases here : other = name
    · simp [here]
    · simp [here, Ne.symm here]

theorem names_extendAll (parts : List (String × Array Duration)) :
    (stats.extendAll parts).names = (stats.names ++ parts.map Prod.fst).eraseDups := by
  induction parts using List.reverseRecOn with
  | nil =>
    rw [List.map_nil, List.append_nil, eraseDups_eq_self stats.nodup_names]
    rfl
  | append_singleton parts part ih =>
    obtain ⟨name, added⟩ := part
    rw [extendAll, List.foldl_append, List.map_append, ← List.append_assoc]
    exact Registry.keys_alter_eq_eraseDups ih _

/-- The samples of a name are those of its only entry. -/
theorem samples_eq_flatMap (stats : Stats) (name : String) :
    stats.samples name =
      (stats.samplesByName.entries.filter (·.1 = name)).flatMap (·.2.toList) := by
  rw [Registry.filter_entries, samples]
  cases stats.samplesByName.get? name <;> simp

theorem samples_merge (stats other : Stats) (name : String) :
    (stats.merge other).samples name = stats.samples name ++ other.samples name := by
  rw [merge_eq_extendAll, samples_extendAll, ← samples_eq_flatMap]

theorem names_merge (stats other : Stats) :
    (stats.merge other).names = (stats.names ++ other.names).eraseDups := by
  rw [merge_eq_extendAll, names_extendAll]
  rfl

theorem merge_assoc (first second third : Stats) :
    (first.merge second).merge third = first.merge (second.merge third) := by
  apply eq_of_names_of_samples
  · rw [names_merge, names_merge, names_merge, names_merge, eraseDups_eraseDups_append,
      eraseDups_append_eraseDups, List.append_assoc]
  · intro name
    simp only [samples_merge, List.append_assoc]

theorem empty_merge (stats : Stats) : empty.merge stats = stats := by
  apply eq_of_names_of_samples
  · exact (names_merge empty stats).trans (eraseDups_eq_self stats.nodup_names)
  · exact samples_merge empty stats

theorem merge_empty (stats : Stats) : stats.merge empty = stats := rfl

/-- Recording events one after another can be split anywhere. -/
theorem merge_collect (earlier later : List (String × Duration)) :
    (collect earlier).merge (collect later) = collect (earlier ++ later) := by
  apply eq_of_names_of_samples
  · rw [names_merge, names_collect, names_collect, names_collect, eraseDups_eraseDups_append,
      eraseDups_append_eraseDups, List.map_append]
  · intro name
    rw [samples_merge, samples_collect, samples_collect, samples_collect, List.filter_append,
      List.map_append]

/-- A name is listed once an event of it was recorded. -/
theorem mem_names_collect_iff (events : List (String × Duration)) :
    name ∈ (collect events).names ↔ (collect events).samples name ≠ [] := by
  rw [names_collect, List.mem_eraseDups, List.mem_map, samples_collect, Ne, List.map_eq_nil_iff,
    List.filter_eq_nil_iff]
  simp

/-- Recording is a homomorphism: statistics that were recorded apart and merged are those of all
the events one after another. Merging is associative and the empty statistics are neutral; a name is
listed once, if it has samples, and then it has a summary unless its samples are too long. -/
theorem recorded_apart_and_merged (earlier later : List (String × Duration)) :
    let merged := (collect earlier).merge (collect later)
    let whole := collect (earlier ++ later)
    (merged.names = whole.names ∧ (∀ name, merged.samples name = whole.samples name) ∧
      merged = whole) ∧
    (whole.names = ((earlier ++ later).map Prod.fst).eraseDups ∧
      ∀ name, whole.samples name = ((earlier ++ later).filter (·.1 = name)).map Prod.snd) ∧
    (∀ first second third : Stats,
      (first.merge second).merge third = first.merge (second.merge third)) ∧
    (∀ stats : Stats, empty.merge stats = stats ∧ stats.merge empty = stats) ∧
    whole.names.Nodup ∧
    (∀ name, name ∈ whole.names ↔ whole.samples name ≠ []) ∧
    ∀ name, Duration.totalNanoseconds (whole.samples name) ≤ maxNanoseconds →
      ∃ summary, whole.summarize name = .ok summary ∧
        (summary.isSome = true ↔ name ∈ whole.names) := by
  intro merged whole
  have same : merged = whole := merge_collect earlier later
  refine ⟨⟨congrArg names same, fun name => congrArg (samples · name) same, same⟩,
    ⟨names_collect _, samples_collect _⟩, merge_assoc,
    fun stats => ⟨empty_merge stats, merge_empty stats⟩, whole.nodup_names,
    fun name => mem_names_collect_iff _, ?_⟩
  intro name fits
  cases summarized : whole.summarize name with
  | error error =>
    obtain ⟨_, long⟩ := summarize_eq_error_iff.mp summarized
    exact absurd fits (Nat.not_le_of_lt long)
  | ok summary =>
    exact ⟨summary, rfl,
      (isSome_of_summarize summarized).trans (mem_names_collect_iff _).symm⟩

/-- Names that both parts have keep their first place, and their later times go behind. -/
theorem interleaved_names_merged :
    let earlier := [("set", Duration.ofWord 1), ("enable", .ofWord 2)]
    let later := [("enable", Duration.ofWord 3), ("get", .ofWord 4), ("set", .ofWord 5)]
    let merged := (collect earlier).merge (collect later)
    let whole := collect (earlier ++ later)
    Duration.totalNanoseconds (whole.samples "set") ≤ maxNanoseconds ∧
    merged.names = ["set", "enable", "get"] ∧
    merged.samples "set" = [.ofWord 1, .ofWord 5] ∧
    ∃ summary, whole.summarize "set" = .ok summary ∧ summary.isSome = true := by
  intro earlier later merged whole
  obtain ⟨⟨names, samples, _⟩, ⟨listed, recorded⟩, _, _, _, _, summarized⟩ :=
    recorded_apart_and_merged earlier later
  have fits : Duration.totalNanoseconds (whole.samples "set") ≤ maxNanoseconds := by
    rw [recorded "set"]
    decide
  obtain ⟨summary, found, available⟩ := summarized "set" fits
  refine ⟨fits, (names.trans listed).trans (by decide),
    ((samples "set").trans (recorded "set")).trans (by decide), summary, found, ?_⟩
  rw [available, listed]
  decide

end PageMetadata.Stats
