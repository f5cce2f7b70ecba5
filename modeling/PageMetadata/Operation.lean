import PageMetadata.Errno
import PageMetadata.Metadata

/-! # Operations and their outcomes

Four operations, the last two in either encoding. A call succeeds or fails with a kind of error; an
error number that no rule interprets stays visible in its kind.
-/

namespace PageMetadata

inductive Operation where
  | enable
  | disable
  | set (encoding : Encoding)
  | get (encoding : Encoding)
deriving DecidableEq, Repr

/-- An operation without its encoding. -/
inductive OperationKind where
  | enable
  | disable
  | set
  | get
deriving DecidableEq, Repr

namespace Operation

def kind : Operation → OperationKind
  | .enable => .enable
  | .disable => .disable
  | .set _ => .set
  | .get _ => .get

/-- The name under which calls are reported and timed. -/
def name : Operation → String
  | .enable => "enable_pte_meta"
  | .disable => "disable_pte_meta"
  | .set encoding => "set_pte_meta " ++ encoding.text
  | .get encoding => "get_pte_meta " ++ encoding.text

instance : ToString Operation := ⟨name⟩

end Operation

inductive ErrorKind where
  | alreadyExpanded
  | notExpanded
  | noData
  | invalidArgument
  | permissionDenied
  /-- No rule interprets this number. -/
  | other (errno : Errno)
deriving DecidableEq, Repr

def ErrorKind.text : ErrorKind → String
  | .alreadyExpanded => "AlreadyExpanded"
  | .notExpanded => "NotExpanded"
  | .noData => "NoData"
  | .invalidArgument => "InvalidArgument"
  | .permissionDenied => "PermissionDenied"
  | .other errno => "Other(" ++ errno.text ++ ")"

/-- How a call ended, without the value it returned. -/
inductive OutcomeClass where
  | success
  | failure (kind : ErrorKind)
deriving DecidableEq, Repr

namespace OutcomeClass

def ofExcept {α : Type} : Except ErrorKind α → OutcomeClass
  | .ok _ => .success
  | .error kind => .failure kind

def text : OutcomeClass → String
  | .success => "success"
  | .failure kind => "failure (" ++ kind.text ++ ")"

end OutcomeClass

end PageMetadata
