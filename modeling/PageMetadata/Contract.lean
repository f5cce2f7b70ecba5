/-! # The contract of a collaborator

Two choices are left open by the operations themselves: whether setting a value expands a table, and
what reading an unset page gives.
-/

namespace PageMetadata

/-- A table can hold metadata only while it is expanded. -/
inductive Lifecycle where
  | unexpanded
  | expanded
deriving DecidableEq, Repr, Inhabited

def Lifecycle.name : Lifecycle → String
  | .unexpanded => "Unexpanded"
  | .expanded => "Expanded"

/-- What reading a page of an expanded table gives while no value is set. -/
inductive UnsetRead where
  | noData
  /-- An inline read gives the zero word; a structured read finds no data. -/
  | zeroed
deriving DecidableEq, Repr

structure Contract where
  /-- Setting a value on an unexpanded table expands it. -/
  autoExpandOnSet : Bool
  unsetRead : UnsetRead
deriving DecidableEq, Repr

def Contract.standard : Contract := ⟨true, .noData⟩

end PageMetadata
