/-! # Results that may be missing

When a computation that is built from others has a result, so have its parts. Computations that are
built alike from parallel parts are parallel themselves.
-/

namespace PageMetadata

variable {ε δ α β : Type}

theorem map_eq_ok_iff {change : α → β} {result : Except ε α} {value : β} :
    result.map change = .ok value ↔ ∃ found, result = .ok found ∧ change found = value := by
  cases result <;> simp [Except.map]

/-- A result that passes a test is there. -/
theorem any_toOption_iff {test : α → Bool} {result : Except ε α} :
    result.toOption.any test = true ↔ ∃ value, result = .ok value ∧ test value = true := by
  cases result <;> simp [Except.toOption]

theorem map_eq_error_iff {change : α → β} {result : Except ε α} {error : ε} :
    result.map change = .error error ↔ result = .error error := by
  cases result <;> simp [Except.map]

theorem mapError_eq_ok_iff {change : ε → δ} {result : Except ε α} {value : α} :
    result.mapError change = .ok value ↔ result = .ok value := by
  cases result with
  | error error => exact ⟨nofun, nofun⟩
  | ok found =>
    constructor <;>
      · rintro ⟨⟩
        rfl

@[simp] theorem mapError_ok (change : ε → δ) (value : α) :
    (Except.ok value).mapError change = .ok value := rfl

theorem bind_eq_ok_iff {next : α → Except ε β} {result : Except ε α} {value : β} :
    result >>= next = .ok value ↔ ∃ found, result = .ok found ∧ next found = .ok value := by
  cases result <;> simp [bind, Except.bind]

@[simp] theorem isOk_mapError (change : ε → δ) (result : Except ε α) :
    (result.mapError change).isOk = result.isOk := by
  cases result <;> rfl

@[simp] theorem isOk_ok (value : α) : (Except.ok value : Except ε α).isOk = true := rfl

@[simp] theorem isOk_error (error : ε) : (Except.error error : Except ε α).isOk = false := rfl

section Parallel

variable {ζ γ : Type}

/-- Both have results, which are related, or both have errors, which are related. -/
inductive Parallel (errors : ε → δ → Prop) (values : α → β → Prop) :
    Except ε α → Except δ β → Prop where
  | ok {value : α} {other : β} (related : values value other) :
    Parallel errors values (.ok value) (.ok other)
  | error {error : ε} {other : δ} (related : errors error other) :
    Parallel errors values (.error error) (.error other)

variable {errors : ε → δ → Prop} {values : α → β → Prop} {first : Except ε α}
  {second : Except δ β}

theorem parallel_of_eq {errors : ε → ε → Prop} {values : α → α → Prop}
    (same : ∀ error, errors error error) (alike : ∀ value, values value value)
    {first second : Except ε α} (equal : first = second) :
    Parallel errors values first second := by
  subst equal
  cases first with
  | ok value => exact .ok (alike value)
  | error error => exact .error (same error)

theorem Parallel.exists_of_ok {value : α}
    (parallel : Parallel errors values (.ok value : Except ε α) second) :
    ∃ other, second = .ok other ∧ values value other := by
  cases parallel with
  | ok related => exact ⟨_, rfl, related⟩

theorem Parallel.bind {results : ζ → γ → Prop} {next : α → Except ε ζ} {after : β → Except δ γ}
    (parallel : Parallel errors values first second)
    (later : ∀ value other, values value other →
      Parallel errors results (next value) (after other)) :
    Parallel errors results (first >>= next) (second >>= after) := by
  cases parallel with
  | ok related => exact later _ _ related
  | error related => exact .error related

end Parallel

end PageMetadata
