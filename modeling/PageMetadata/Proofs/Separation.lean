/-! # Machines whose parts do not interfere

A machine takes events one after another and answers each of them. Every event concerns one part of
the machine. If an event is answered from its own part and changes nothing else, then each part goes
as if its own events were the only ones, and the order in which events of different parts come
cannot be seen in any answer.
-/

namespace PageMetadata

section Machine

variable {σ ε ρ : Type}

/-- The state after events one after another. -/
def stateAfter (step : σ → ε → ρ × σ) (state : σ) (events : List ε) : σ :=
  events.foldl (fun state event => (step state event).2) state

/-- The answers to events one after another. -/
def answersTo (step : σ → ε → ρ × σ) : σ → List ε → List ρ
  | _, [] => []
  | state, event :: events =>
    (step state event).1 :: answersTo step (step state event).2 events

end Machine

variable {σ ε ρ κ : Type}

/-- States can be the same in one part. An event is answered from the part that it concerns, and
changes no other; the answer shows which part that was. -/
structure Separates (step : σ → ε → ρ × σ) (partOf : ε → κ) (shown : ρ → κ)
    (same : κ → σ → σ → Prop) : Prop where
  shown_eq : ∀ state event, shown (step state event).1 = partOf event
  answer : ∀ event {first second}, same (partOf event) first second →
    (step first event).1 = (step second event).1
  inside : ∀ event {first second}, same (partOf event) first second →
    same (partOf event) (step first event).2 (step second event).2
  elsewhere : ∀ {part} event {first second}, same part first second → partOf event ≠ part →
    same part (step first event).2 second

namespace Separates

variable [DecidableEq κ] {step : σ → ε → ρ × σ} {partOf : ε → κ} {shown : ρ → κ}
  {same : κ → σ → σ → Prop} {part : κ} {first second : σ}
  (separates : Separates step partOf shown same)

include separates

/-- A part is left by all events as by its own. -/
theorem stateAfter_filter (start : same part first second) (events : List ε) :
    same part (stateAfter step first events)
      (stateAfter step second (events.filter fun event => partOf event = part)) := by
  induction events generalizing first second with
  | nil => exact start
  | cons event events ih =>
    by_cases here : partOf event = part
    · subst here
      rw [List.filter_cons_of_pos (by simp)]
      exact ih (separates.inside event start)
    · rw [List.filter_cons_of_neg (by simpa using here)]
      exact ih (separates.elsewhere event start here)

/-- The events of a part are answered as if there were no others. -/
theorem answersTo_filter (start : same part first second) (events : List ε) :
    (answersTo step first events).filter (fun answer => shown answer = part) =
      answersTo step second (events.filter fun event => partOf event = part) := by
  induction events generalizing first second with
  | nil => rfl
  | cons event events ih =>
    by_cases here : partOf event = part
    · subst here
      rw [List.filter_cons_of_pos (by simp), answersTo, answersTo,
        List.filter_cons_of_pos (by simp [separates.shown_eq]), separates.answer event start,
        ih (separates.inside event start)]
    · rw [List.filter_cons_of_neg (by simpa using here), answersTo,
        List.filter_cons_of_neg (by simpa [separates.shown_eq] using here),
        ih (separates.elsewhere event start here)]

/-- Interleaving the events of different parts in another way changes no answer. -/
theorem answersTo_interleaved (start : same part first first) {events others : List ε}
    (interleaved : events.filter (fun event => partOf event = part) =
      others.filter fun event => partOf event = part) :
    (answersTo step first events).filter (fun answer => shown answer = part) =
      (answersTo step first others).filter fun answer => shown answer = part := by
  rw [separates.answersTo_filter start, separates.answersTo_filter start, interleaved]

end Separates

end PageMetadata
