import PageMetadata.Scenario.Basic

/-! # Positions and stages

A position is the path to a step: its index, and for each enclosing repetition the number of the
iteration. A stage says what a run was doing, and its text names the step.
-/

namespace PageMetadata

/-- The path to a step. Indices and iterations count from 0; the text shows indices from 1. -/
structure Position where
  index : Nat
  /-- For each repetition entered, from the outermost one: the iteration, and the index within. -/
  nested : List (Nat × Nat)
deriving DecidableEq, Repr

namespace Position

/-- A step of the scenario itself. -/
def top (index : Nat) : Position := ⟨index, []⟩

/-- A step within an iteration of the repetition at this position. -/
def within (position : Position) (iteration index : Nat) : Position :=
  { position with nested := position.nested ++ [(iteration, index)] }

private def nestedText : List (Nat × Nat) → String
  | [] => ""
  | (iteration, index) :: nested =>
    "[" ++ toString iteration ++ "]." ++ toString (index + 1) ++ nestedText nested

def text (position : Position) : String :=
  "step " ++ toString (position.index + 1) ++ nestedText position.nested

private theorem nestedText_append_singleton (nested : List (Nat × Nat)) (iteration index : Nat) :
    nestedText (nested ++ [(iteration, index)]) =
      nestedText nested ++ "[" ++ toString iteration ++ "]." ++ toString (index + 1) := by
  induction nested with
  | nil => simp [nestedText]
  | cons entered nested ih =>
    obtain ⟨outer, next⟩ := entered
    rw [List.cons_append, nestedText, nestedText, ih]
    simp only [String.append_assoc]

theorem text_top (index : Nat) : (top index).text = "step " ++ toString (index + 1) :=
  String.append_empty

/-- Each repetition that is entered extends the text. -/
theorem text_within (position : Position) (iteration index : Nat) :
    (position.within iteration index).text =
      position.text ++ "[" ++ toString iteration ++ "]." ++ toString (index + 1) := by
  rw [text, within, nestedText_append_singleton, text]
  simp only [String.append_assoc]

end Position

/-- One performance of a call: the step's position and, when all pages are read, the page. -/
structure Occurrence where
  position : Position
  readPage : Option Nat
deriving DecidableEq, Repr

namespace Occurrence

def ofPosition (position : Position) : Occurrence := ⟨position, none⟩

def text (occurrence : Occurrence) : String :=
  match occurrence.readPage with
  | none => occurrence.position.text
  | some page => occurrence.position.text ++ " (page " ++ toString page ++ ")"

end Occurrence

/-- What a run is doing. -/
inductive Stage where
  | setup
  /-- Before the first step. -/
  | operate
  | call (occurrence : Occurrence) (operation : Operation) (page : Nat)
  | lifecycle (position : Position) (page : Nat)
  | verify
  | assertion (assertion : Assertion)
  | teardown
deriving DecidableEq, Repr

namespace Stage

def text : Stage → String
  | .setup => "setup"
  | .operate => "operate"
  | .call occurrence operation page =>
    occurrence.text ++ ": " ++ operation.name ++ " page " ++ toString page
  | .lifecycle position page => position.text ++ ": lifecycle of page " ++ toString page
  | .verify => "verify"
  | .assertion condition => "verify: " ++ condition.name
  | .teardown => "teardown"

end Stage

end PageMetadata
