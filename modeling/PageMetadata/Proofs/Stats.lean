import Mathlib.Data.List.Induction
import PageMetadata.Collaborator.Basic
import PageMetadata.Proofs.Registry
import PageMetadata.Stats

/-! # What was recorded

Statistics are a view of the timed events that were recorded: each name has the times of its events
in their order, and the names come in the order in which each was first recorded.
-/

namespace PageMetadata

/-- Different operations are timed under different names. -/
theorem Operation.name_injective : Function.Injective Operation.name := by
  rintro (_ | _ | ⟨⟨⟩⟩ | ⟨⟨⟩⟩) (_ | _ | ⟨⟨⟩⟩ | ⟨⟨⟩⟩) same
  all_goals first
    | rfl
    | exact absurd same (by decide)

namespace Exchange

/-- An exchange as a timed event. -/
def timing (exchange : Exchange) : String × Duration :=
  (exchange.request.operation.name, exchange.reply.elapsed)

/-- The times under the name of an operation are those of its exchanges. -/
theorem times_of_operation (exchanges : List Exchange) (operation : Operation) :
    ((exchanges.map timing).filter (·.1 = operation.name)).map Prod.snd =
      (exchanges.filter (·.request.operation = operation)).map (·.reply.elapsed) := by
  rw [List.filter_map, List.map_map]
  simp only [Function.comp_def, timing, Operation.name_injective.eq_iff]

end Exchange

namespace Stats

/-- The statistics of timed events, recorded one after another. -/
def collect (events : List (String × Duration)) : Stats :=
  events.foldl (fun stats (name, duration) => stats.record name duration) empty

theorem collect_append_singleton (events : List (String × Duration)) (name : String)
    (duration : Duration) :
    collect (events ++ [(name, duration)]) = (collect events).record name duration :=
  List.foldl_append

theorem samples_collect (events : List (String × Duration)) (name : String) :
    (collect events).samples name = (events.filter (·.1 = name)).map Prod.snd := by
  induction events using List.reverseRecOn with
  | nil => rfl
  | append_singleton events last ih =>
    obtain ⟨other, duration⟩ := last
    rw [collect_append_singleton, samples_record, List.filter_append, List.map_append]
    by_cases same : name = other
    · subst same
      simp [ih]
    · simp [ih, same, Ne.symm same]

theorem names_collect (events : List (String × Duration)) :
    (collect events).names = (events.map Prod.fst).eraseDups := by
  induction events using List.reverseRecOn with
  | nil => rfl
  | append_singleton events last ih =>
    rw [collect_append_singleton, List.map_append]
    exact Registry.keys_alter_eq_eraseDups ih _

end Stats

end PageMetadata
