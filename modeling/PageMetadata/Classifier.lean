import PageMetadata.Operation

/-! # Classification of error numbers

A classifier is a list of rules, tried from the front. A rule that is added goes to the front, so
the rule added last decides; a number without a matching rule is kept as it is.
-/

namespace PageMetadata

/-- A rule applies to one error number and, if it names an operation, only to that operation. -/
structure ClassifierRule where
  operation : Option OperationKind
  errno : Errno
  kind : ErrorKind
deriving DecidableEq, Repr

/-- Both encodings of an operation are matched alike. -/
def ClassifierRule.Matches (rule : ClassifierRule) (operation : Operation) (errno : Errno) :
    Prop :=
  rule.errno = errno ∧ ∀ kind ∈ rule.operation, kind = operation.kind

instance (rule : ClassifierRule) (operation : Operation) (errno : Errno) :
    Decidable (rule.Matches operation errno) := by
  unfold ClassifierRule.Matches
  infer_instance

/-- The rules are in matching order. -/
structure Classifier where
  rules : List ClassifierRule
deriving DecidableEq, Repr

namespace Classifier

def empty : Classifier := ⟨[]⟩

/-- The new rule is tried before all others. -/
def withRule (classifier : Classifier) (rule : ClassifierRule) : Classifier :=
  ⟨rule :: classifier.rules⟩

/-- The rules are added one after another. -/
def withRules (classifier : Classifier) (rules : List ClassifierRule) : Classifier :=
  rules.foldl withRule classifier

/-- The contract's own rules: an invalid argument of `disable` says that the table is not
expanded. -/
def standard : Classifier :=
  empty.withRules
    [⟨none, .eacces, .permissionDenied⟩,
      ⟨none, .eperm, .permissionDenied⟩,
      ⟨none, .einval, .invalidArgument⟩,
      ⟨none, .enodata, .noData⟩,
      ⟨none, .enoent, .notExpanded⟩,
      ⟨some .disable, .einval, .notExpanded⟩,
      ⟨none, .eexist, .alreadyExpanded⟩]

/-- The first matching rule decides. -/
def classify (classifier : Classifier) (operation : Operation) (errno : Errno) : ErrorKind :=
  match classifier.rules.find? (fun rule => decide (rule.Matches operation errno)) with
  | some rule => rule.kind
  | none => .other errno

end Classifier

end PageMetadata
