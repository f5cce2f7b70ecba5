import Mathlib.Data.List.Induction
import Mathlib.Logic.Relation
import PageMetadata.Classifier

/-! # Which rule decides

Of the rules that were added, the last one that matches decides, and what was there before is asked
only if none does. So only the order of rules that match something in common can be seen, and a
number that no rule matches stays as it is.
-/

namespace PageMetadata

/-- Each kind is the kind of some operation. -/
theorem OperationKind.exists_operation (kind : OperationKind) :
    ∃ operation : Operation, operation.kind = kind := by
  cases kind with
  | enable => exact ⟨.enable, rfl⟩
  | disable => exact ⟨.disable, rfl⟩
  | set => exact ⟨.set .inline, rfl⟩
  | get => exact ⟨.get .inline, rfl⟩

namespace ClassifierRule

variable {rule first second : ClassifierRule} {operation : Operation} {errno : Errno}

theorem matches_iff :
    rule.Matches operation errno ↔
      rule.errno = errno ∧ (rule.operation = none ∨ rule.operation = some operation.kind) := by
  obtain ⟨filter, number, kind⟩ := rule
  cases filter <;> simp [Matches]

/-- Some number of some operation is matched by both rules. -/
def Overlaps (first second : ClassifierRule) : Prop :=
  ∃ operation errno, first.Matches operation errno ∧ second.Matches operation errno

/-- Rules overlap if they are about one number and no filters keep them apart. -/
theorem overlaps_iff :
    first.Overlaps second ↔
      first.errno = second.errno ∧
        (first.operation = none ∨ second.operation = none ∨
          first.operation = second.operation) := by
  simp only [Overlaps, matches_iff]
  constructor
  · rintro ⟨operation, errno, ⟨here, filter⟩, there, other⟩
    refine ⟨here.trans there.symm, ?_⟩
    rcases filter with free | filter
    · exact .inl free
    · rcases other with free | other
      · exact .inr (.inl free)
      · exact .inr (.inr (filter.trans other.symm))
  · obtain ⟨filter, number, kind⟩ := first
    obtain ⟨other, errno, kind'⟩ := second
    rintro ⟨rfl, apart⟩
    rcases filter with _ | filter
    · rcases other with _ | other
      · exact ⟨.enable, number, by simp⟩
      · obtain ⟨operation, rfl⟩ := other.exists_operation
        exact ⟨operation, number, by simp⟩
    · obtain ⟨operation, rfl⟩ := filter.exists_operation
      refine ⟨operation, number, by simp, rfl, ?_⟩
      rcases apart with free | free | same
      · contradiction
      · exact .inl free
      · exact .inr same.symm

instance (first second : ClassifierRule) : Decidable (first.Overlaps second) :=
  decidable_of_iff _ overlaps_iff.symm

/-- Two neighbouring rules that match nothing in common change places. -/
inductive Swaps : List ClassifierRule → List ClassifierRule → Prop where
  | swap (before after : List ClassifierRule) {first second : ClassifierRule}
      (apart : ¬ first.Overlaps second) :
      Swaps (before ++ first :: second :: after) (before ++ second :: first :: after)

/-- The rules that match stay in their order, since they are not two of those that changed
places. -/
theorem Swaps.filter_matches {rules others : List ClassifierRule} (swaps : Swaps rules others)
    (operation : Operation) (errno : Errno) :
    rules.filter (fun rule => decide (rule.Matches operation errno)) =
      others.filter fun rule => decide (rule.Matches operation errno) := by
  cases swaps with
  | @swap before after first second apart =>
    have one : ¬ (first.Matches operation errno ∧ second.Matches operation errno) :=
      fun both => apart ⟨operation, errno, both⟩
    rw [List.filter_append, List.filter_append]
    congr 1
    by_cases here : first.Matches operation errno
    · have there : ¬ second.Matches operation errno := fun there => one ⟨here, there⟩
      simp [here, there]
    · simp [List.filter_cons, here]

theorem filter_matches_of_swaps {rules others : List ClassifierRule}
    (swapped : Relation.ReflTransGen Swaps rules others) (operation : Operation) (errno : Errno) :
    rules.filter (fun rule => decide (rule.Matches operation errno)) =
      others.filter fun rule => decide (rule.Matches operation errno) := by
  induction swapped with
  | refl => rfl
  | tail _ last ih => exact ih.trans (last.filter_matches operation errno)

end ClassifierRule

namespace Classifier

variable {classifier : Classifier} {operation : Operation} {errno : Errno}

/-- A rule that is added decides what it matches and leaves the rest as it was. -/
theorem classify_withRule (rule : ClassifierRule) :
    (classifier.withRule rule).classify operation errno =
      if rule.Matches operation errno then rule.kind
      else classifier.classify operation errno := by
  rw [classify, withRule, List.find?_cons]
  by_cases here : rule.Matches operation errno
  · simp [here]
  · simp [here, classify]

/-- The last of the added rules that match decides. -/
theorem classify_withRules (rules : List ClassifierRule) :
    (classifier.withRules rules).classify operation errno =
      match (rules.filter fun rule => decide (rule.Matches operation errno)).getLast? with
      | some rule => rule.kind
      | none => classifier.classify operation errno := by
  induction rules using List.reverseRecOn with
  | nil => rfl
  | append_singleton rules rule ih =>
    have last : classifier.withRules (rules ++ [rule]) =
        (classifier.withRules rules).withRule rule := List.foldl_append
    rw [last, classify_withRule, List.filter_append]
    by_cases here : rule.Matches operation errno
    · simp [here]
    · simp [here, ih]

/-- Operations that differ only in their encoding are classified alike. -/
theorem classify_congr {other : Operation} (same : operation.kind = other.kind) :
    classifier.classify operation errno = classifier.classify other errno := by
  simp only [classify, ClassifierRule.Matches, same]

theorem classify_eq_other
    (unmatched : ∀ rule ∈ classifier.rules, ¬ rule.Matches operation errno) :
    classifier.classify operation errno = .other errno := by
  have missed : classifier.rules.find? (fun rule => decide (rule.Matches operation errno)) =
      none := by simpa using unmatched
  rw [classify, missed]

/-- The last added rule that matches decides, and if none does, what was there before. Rules that
match nothing in common can be added in any order, and a number that no rule matches is kept. -/
theorem last_matching_rule_decides (classifier : Classifier) (rules : List ClassifierRule) :
    (∀ operation errno,
      (classifier.withRules rules).classify operation errno =
        match (rules.filter fun rule => decide (rule.errno = errno ∧
            (rule.operation = none ∨ rule.operation = some operation.kind))).getLast? with
        | some rule => rule.kind
        | none => classifier.classify operation errno) ∧
    (∀ operation other errno, operation.kind = other.kind →
      (classifier.withRules rules).classify operation errno =
        (classifier.withRules rules).classify other errno) ∧
    (∀ others, Relation.ReflTransGen ClassifierRule.Swaps rules others →
      ∀ operation errno,
        (classifier.withRules rules).classify operation errno =
          (classifier.withRules others).classify operation errno) ∧
    (∀ operation errno,
      (∀ rule ∈ rules ++ classifier.rules, ¬ rule.Matches operation errno) →
        (classifier.withRules rules).classify operation errno = .other errno) := by
  refine ⟨?_, ?_, ?_, ?_⟩
  · intro operation errno
    simp only [classify_withRules, ClassifierRule.matches_iff]
  · intro operation other errno same
    exact classify_congr same
  · intro others swapped operation errno
    rw [classify_withRules, classify_withRules,
      ClassifierRule.filter_matches_of_swaps swapped operation errno]
  · intro operation errno unmatched
    have none : rules.filter (fun rule => decide (rule.Matches operation errno)) = [] := by
      rw [List.filter_eq_nil_iff]
      intro rule listed
      simpa using unmatched rule (List.mem_append_left _ listed)
    rw [classify_withRules, none]
    exact classify_eq_other fun rule listed =>
      unmatched rule (List.mem_append_right rules listed)

/-- A later rule for `set` or for `get` decides there, whichever of the two came first. -/
theorem neighbours_change_places :
    let forAll : ClassifierRule := ⟨none, .einval, .permissionDenied⟩
    let forSet : ClassifierRule := ⟨some .set, .einval, .notExpanded⟩
    let forGet : ClassifierRule := ⟨some .get, .einval, .noData⟩
    let added := standard.withRules [forAll, forSet, forGet]
    let swapped := standard.withRules [forAll, forGet, forSet]
    (Relation.ReflTransGen ClassifierRule.Swaps [forAll, forSet, forGet]
        [forAll, forGet, forSet] ∧
      (∀ rule ∈ [forAll, forSet, forGet] ++ standard.rules, ¬ rule.Matches .enable .efault)) ∧
    added.classify (.set .inline) .einval = .notExpanded ∧
    added.classify (.set .structured) .einval = added.classify (.set .inline) .einval ∧
    added.classify (.set .structured) .einval = swapped.classify (.set .structured) .einval ∧
    added.classify .enable .efault = .other .efault := by
  intro forAll forSet forGet added swapped
  have apart : ¬ forSet.Overlaps forGet := by decide
  have swaps : Relation.ReflTransGen ClassifierRule.Swaps [forAll, forSet, forGet]
      [forAll, forGet, forSet] := .single (.swap [forAll] [] apart)
  have unmatched : ∀ rule ∈ [forAll, forSet, forGet] ++ standard.rules,
      ¬ rule.Matches .enable .efault := by decide
  obtain ⟨decides, alike, commute, kept⟩ :=
    last_matching_rule_decides standard [forAll, forSet, forGet]
  exact ⟨⟨swaps, unmatched⟩, (decides (.set .inline) .einval).trans (by decide),
    alike (.set .structured) (.set .inline) .einval rfl,
    commute [forAll, forGet, forSet] swaps (.set .structured) .einval,
    kept .enable .efault unmatched⟩

end Classifier

end PageMetadata
