import PageMetadata.Proofs.Runner.Blame

/-! # Reading a step off a text

The text of a position is made of numbers, each of which ends at a character that is no digit, and a
bracket behind a number tells that a repetition is entered. So the position, and the page that is
read there, can be read off any text that goes on behind them with a colon, however deep the
repetitions are nested and whatever the text goes on with.
-/

namespace PageMetadata

/-- A number in front of these characters ends where they begin. -/
def EndsNumber (rest : List Char) : Prop := rest.takeWhile Char.isDigit = []

theorem endsNumber_cons {first : Char} (other : first.isDigit = false) (rest : List Char) :
    EndsNumber (first :: rest) :=
  List.takeWhile_cons_of_neg (by simp [other])

/-- A position in front of these characters ends where they begin: its last number does, and no
further repetition is entered. -/
structure EndsPosition (rest : List Char) : Prop where
  number : EndsNumber rest
  bracket : rest.head? ≠ some '['

/-- A number and what is behind it are read off its digits. -/
theorem toDigits_append_inj {number other : Nat} {rest more : List Char}
    (ends : EndsNumber rest) (endsToo : EndsNumber more)
    (same : Nat.toDigits 10 number ++ rest = Nat.toDigits 10 other ++ more) :
    number = other ∧ rest = more := by
  have digits (value : Nat) : ∀ digit ∈ Nat.toDigits 10 value, digit.isDigit :=
    fun _ listed => Nat.isDigit_of_mem_toDigits (by decide) (by decide) listed
  have leading := congrArg (List.takeWhile Char.isDigit) same
  rw [List.takeWhile_append_of_pos (digits number), List.takeWhile_append_of_pos (digits other),
    ends, endsToo, List.append_nil, List.append_nil] at leading
  rw [leading] at same
  refine ⟨?_, List.append_cancel_left same⟩
  calc
    number = Nat.ofDigitChars 10 (Nat.toDigits 10 number) 0 := Nat.ofDigitChars_ten_toDigits.symm
    _ = Nat.ofDigitChars 10 (Nat.toDigits 10 other) 0 := by rw [leading]
    _ = other := Nat.ofDigitChars_ten_toDigits

namespace Position

/-- How the text goes on for a repetition that is entered. -/
private def enteredText (entered : Nat × Nat) : List Char :=
  '[' :: (Nat.toDigits 10 entered.1 ++ ']' :: '.' :: Nat.toDigits 10 (entered.2 + 1))

private theorem toList_text (position : Position) :
    position.text.toList =
      "step ".toList ++ (Nat.toDigits 10 (position.index + 1) ++
        position.nested.flatMap enteredText) := by
  induction position using Position.induction with
  | top index =>
    rw [text_top]
    simp [top]
  | within outer number index ih =>
    rw [text_within]
    simp [ih, within, enteredText]

private theorem endsNumber_nested {rest : List Char} (ends : EndsPosition rest)
    (nested : List (Nat × Nat)) : EndsNumber (nested.flatMap enteredText ++ rest) := by
  cases nested with
  | nil => exact ends.number
  | cons entered nested => exact endsNumber_cons rfl _

/-- The repetitions that are entered are read off one after another. -/
private theorem nested_append_inj {nested other : List (Nat × Nat)} {rest more : List Char}
    (ends : EndsPosition rest) (endsToo : EndsPosition more)
    (same : nested.flatMap enteredText ++ rest = other.flatMap enteredText ++ more) :
    nested = other ∧ rest = more := by
  -- A bracket is in front of each further repetition, and none is behind the last one.
  induction nested generalizing other with
  | nil =>
    cases other with
    | nil => exact ⟨rfl, same⟩
    | cons entered other => exact absurd (congrArg List.head? same) ends.bracket
  | cons entered nested ih =>
    cases other with
    | nil => exact absurd (congrArg List.head? same.symm) endsToo.bracket
    | cons enteredToo other =>
      obtain ⟨number, index⟩ := entered
      obtain ⟨numberToo, indexToo⟩ := enteredToo
      simp only [List.flatMap_cons, enteredText, List.cons_append, List.append_assoc,
        List.cons.injEq, true_and] at same
      obtain ⟨rfl, behind⟩ :=
        toDigits_append_inj (endsNumber_cons rfl _) (endsNumber_cons rfl _) same
      simp only [List.cons.injEq, true_and] at behind
      obtain ⟨sameIndex, inner⟩ := toDigits_append_inj (endsNumber_nested ends nested)
        (endsNumber_nested endsToo other) behind
      obtain ⟨rfl, last⟩ := ih inner
      exact ⟨by rw [Nat.succ_inj.mp sameIndex], last⟩

/-- A position and what is behind it are read off its text. -/
theorem text_append_inj {position other : Position} {rest more : List Char}
    (ends : EndsPosition rest) (endsToo : EndsPosition more)
    (same : position.text.toList ++ rest = other.text.toList ++ more) :
    position = other ∧ rest = more := by
  simp only [toList_text, List.append_assoc] at same
  obtain ⟨sameIndex, entered⟩ := toDigits_append_inj (endsNumber_nested ends position.nested)
    (endsNumber_nested endsToo other.nested) (List.append_cancel_left same)
  obtain ⟨sameNested, behind⟩ := nested_append_inj ends endsToo entered
  refine ⟨?_, behind⟩
  obtain ⟨index, nested⟩ := position
  rw [Position.mk.injEq]
  exact ⟨Nat.succ_inj.mp sameIndex, sameNested⟩

end Position

namespace Occurrence

/-- The page in brackets, where all pages are read. -/
private def pageText : Option Nat → List Char
  | none => []
  | some page => ' ' :: ("(page ".toList ++ (Nat.toDigits 10 page ++ [')']))

private theorem toList_text (occurrence : Occurrence) :
    occurrence.text.toList = occurrence.position.text.toList ++ pageText occurrence.readPage := by
  obtain ⟨position, page⟩ := occurrence
  cases page with
  | none => simp [text, pageText]
  | some page => simp [text, pageText]

private theorem endsPosition_page (page : Option Nat) (rest : List Char) :
    EndsPosition (pageText page ++ ':' :: rest) := by
  cases page with
  | none => exact ⟨endsNumber_cons rfl _, by simp [pageText]⟩
  | some page => exact ⟨endsNumber_cons rfl _, by simp [pageText]⟩

private theorem page_append_inj {page other : Option Nat} {rest more : List Char}
    (same : pageText page ++ ':' :: rest = pageText other ++ ':' :: more) : page = other := by
  cases page with
  | none =>
    cases other with
    | none => rfl
    | some page => simp [pageText] at same
  | some page =>
    cases other with
    | none => simp [pageText] at same
    | some pageToo =>
      simp only [pageText, List.cons_append, List.append_assoc, List.cons.injEq, true_and] at same
      obtain ⟨rfl, _⟩ := toDigits_append_inj (endsNumber_cons rfl _) (endsNumber_cons rfl _)
        (List.append_cancel_left same)
      rfl

/-- An occurrence is read off any text that goes on behind it with a colon. -/
theorem eq_of_text_append {occurrence other : Occurrence} {rest more : String}
    (same : occurrence.text ++ ": " ++ rest = other.text ++ ": " ++ more) :
    occurrence = other := by
  have colon : (": " : String).toList = [':', ' '] := rfl
  have characters := congrArg String.toList same
  simp only [String.toList_append, toList_text, colon, List.append_assoc, List.cons_append,
    List.nil_append] at characters
  obtain ⟨samePosition, behind⟩ := Position.text_append_inj
    (endsPosition_page occurrence.readPage _) (endsPosition_page other.readPage _) characters
  obtain ⟨position, page⟩ := occurrence
  rw [Occurrence.mk.injEq]
  exact ⟨samePosition, page_append_inj behind⟩

end Occurrence

/-- Stages of the same text name the same occurrence. -/
theorem Stage.Names.eq_of_text_eq {stage other : Stage} {occurrence second : Occurrence}
    (names : stage.Names occurrence) (namesToo : other.Names second)
    (same : stage.text = other.text) : occurrence = second := by
  obtain ⟨rest, text⟩ := names
  obtain ⟨more, textToo⟩ := namesToo
  exact Occurrence.eq_of_text_append (text.symm.trans (same.trans textToo))

end PageMetadata
