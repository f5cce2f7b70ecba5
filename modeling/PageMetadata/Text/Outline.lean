/-! # Structured values as text

An `Outline` names the parts of a value. It is written on one line, or over several with one part a
line, four blanks for each level and a comma after each part.
-/

namespace PageMetadata.Text

inductive Outline where
  /-- Written as it stands. -/
  | atom (text : String)
  /-- A name with labelled parts. -/
  | record (name : String) (fields : List (String × Outline))
  /-- A name with parts told apart by their order. -/
  | tuple (name : String) (items : List Outline)

namespace Outline

mutual

/-- One line, with the parts between commas. -/
def oneLine : Outline → String
  | .atom text => text
  | .record name [] => name
  | .record name (field :: fields) =>
    name ++ " \x7b " ++ ", ".intercalate (fieldLines (field :: fields)) ++ " \x7d"
  | .tuple name [] => name
  | .tuple name (item :: items) =>
    name ++ "(" ++ ", ".intercalate (itemLines (item :: items)) ++ ")"

private def fieldLines : List (String × Outline) → List String
  | [] => []
  | (label, value) :: fields => (label ++ ": " ++ oneLine value) :: fieldLines fields

private def itemLines : List Outline → List String
  | [] => []
  | item :: items => oneLine item :: itemLines items

end

private def margin (level : Nat) : String :=
  String.ofList (List.replicate (4 * level) ' ')

mutual

/-- Several lines; `level` counts the enclosing values. -/
def manyLines (level : Nat) : Outline → String
  | .atom text => text
  | .record name [] => name
  | .record name (field :: fields) =>
    name ++ " \x7b\n" ++ String.join (fieldBlock (level + 1) (field :: fields)) ++ margin level
      ++ "\x7d"
  | .tuple name [] => name
  | .tuple name (item :: items) =>
    name ++ "(\n" ++ String.join (itemBlock (level + 1) (item :: items)) ++ margin level ++ ")"

private def fieldBlock (level : Nat) : List (String × Outline) → List String
  | [] => []
  | (label, value) :: fields =>
    (margin level ++ label ++ ": " ++ manyLines level value ++ ",\n") :: fieldBlock level fields

private def itemBlock (level : Nat) : List Outline → List String
  | [] => []
  | item :: items => (margin level ++ manyLines level item ++ ",\n") :: itemBlock level items

end

end Outline

end PageMetadata.Text
