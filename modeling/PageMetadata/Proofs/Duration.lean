import PageMetadata.Duration

/-! # Sums of durations

A sum is exact, in whichever order it is taken, and it is missing exactly if it is longer than the
longest duration. Adding up seconds and nanoseconds in words, with a check at each step, comes to
the same.
-/

namespace PageMetadata.Duration

theorem totalNanoseconds_cons (first : Duration) (rest : List Duration) :
    totalNanoseconds (first :: rest) = first.nanoseconds + totalNanoseconds rest := rfl

theorem totalNanoseconds_eq_of_perm {durations others : List Duration}
    (same : durations.Perm others) : totalNanoseconds durations = totalNanoseconds others := by
  induction same with
  | nil => rfl
  | cons first _ ih => rw [totalNanoseconds_cons, totalNanoseconds_cons, ih]
  | swap first second rest =>
    simp only [totalNanoseconds_cons]
    omega
  | trans _ _ ih later => exact ih.trans later

theorem totalNanoseconds_replicate (count : Nat) (duration : Duration) :
    totalNanoseconds (List.replicate count duration) = count * duration.nanoseconds := by
  induction count with
  | zero => rw [Nat.zero_mul, List.replicate_zero, totalNanoseconds, List.foldr_nil]
  | succ count ih =>
    rw [List.replicate_succ, totalNanoseconds_cons, ih, Nat.succ_mul, Nat.add_comm]

variable {durations : List Duration}

theorem mul_length_le_totalNanoseconds {least : Nat}
    (bound : ∀ duration ∈ durations, least ≤ duration.nanoseconds) :
    least * durations.length ≤ totalNanoseconds durations := by
  induction durations with
  | nil => exact Nat.le_refl 0
  | cons first rest ih =>
    have here := bound first (List.mem_cons_self ..)
    have later := ih fun duration listed => bound duration (List.mem_cons_of_mem first listed)
    rw [List.length_cons, Nat.mul_succ, totalNanoseconds_cons]
    omega

theorem totalNanoseconds_le_mul_length {most : Nat}
    (bound : ∀ duration ∈ durations, duration.nanoseconds ≤ most) :
    totalNanoseconds durations ≤ most * durations.length := by
  induction durations with
  | nil => exact Nat.le_refl 0
  | cons first rest ih =>
    have here := bound first (List.mem_cons_self ..)
    have later := ih fun duration listed => bound duration (List.mem_cons_of_mem first listed)
    rw [List.length_cons, Nat.mul_succ, totalNanoseconds_cons]
    omega

theorem sum_eq_ok_iff {total : Duration} :
    sum durations = .ok total ↔ total.nanoseconds = totalNanoseconds durations := by
  unfold sum ofNanoseconds?
  have bound := total.nanoseconds_le
  by_cases fits : totalNanoseconds durations ≤ maxNanoseconds
  · simp only [dif_pos fits, Except.ok.injEq, Duration.ext_iff]
    exact eq_comm
  · simp only [dif_neg fits, reduceCtorEq, false_iff]
    omega

theorem sum_eq_error_iff {error : ArithmeticError} :
    sum durations = .error error ↔
      error = .durationSum ∧ maxNanoseconds < totalNanoseconds durations := by
  unfold sum ofNanoseconds?
  by_cases fits : totalNanoseconds durations ≤ maxNanoseconds
  · simp only [dif_pos fits, reduceCtorEq, false_iff]
    omega
  · simp only [dif_neg fits, Except.error.injEq, Nat.not_le.mp fits, and_true]
    exact eq_comm

theorem sum_eq_of_perm {others : List Duration} (same : durations.Perm others) :
    sum durations = sum others := by
  rw [sum, sum, totalNanoseconds_eq_of_perm same]

/-- A share by a count, of which a 32-bit word keeps the remainder only. -/
theorem divide_ofNat (duration : Duration) (count : Nat) :
    duration.divide (.ofNat count) =
      if count % UInt32.size = 0 then .error .durationDivision
      else .ok ⟨duration.nanoseconds / (count % UInt32.size),
        Nat.le_trans (Nat.div_le_self _ _) duration.nanoseconds_le⟩ := by
  have word : (UInt32.ofNat count).toNat = count % UInt32.size := UInt32.toNat_ofNat'
  have zero : UInt32.ofNat count = 0 ↔ count % UInt32.size = 0 := by
    rw [← UInt32.toNat_inj, word, UInt32.toNat_zero]
  simp only [divide, zero, word]

theorem parts_le {seconds fraction : Nat} (few : seconds < UInt64.size)
    (rest : fraction < nanosecondsPerSecond) :
    seconds * nanosecondsPerSecond + fraction ≤ maxNanoseconds := by
  simp only [maxNanoseconds, nanosecondsPerSecond, UInt64.size] at *
  omega

theorem carried_lt (nanoseconds : Nat) (duration : Duration) :
    nanoseconds % nanosecondsPerSecond + duration.fraction < UInt64.size := by
  simp only [fraction, nanosecondsPerSecond, UInt64.size]
  omega

/-- A sum with more seconds than their word holds is too long. -/
theorem long_of_seconds {seconds exact : Nat} (long : ¬ seconds < UInt64.size)
    (within : seconds * nanosecondsPerSecond ≤ exact) : maxNanoseconds < exact :=
  calc
    maxNanoseconds < UInt64.size * nanosecondsPerSecond := by decide
    _ ≤ seconds * nanosecondsPerSecond := Nat.mul_le_mul_right _ (Nat.not_lt.mp long)
    _ ≤ exact := within

/-- Seconds and nanoseconds that are added up in a word each. -/
structure Running where
  seconds : Nat
  nanoseconds : Nat
  seconds_lt : seconds < UInt64.size
  nanoseconds_lt : nanoseconds < UInt64.size

namespace Running

def zero : Running := ⟨0, 0, by decide, by decide⟩

/-- The whole seconds among the nanoseconds are carried when their word is full. -/
def add (running : Running) (duration : Duration) : Except ArithmeticError Running :=
  if few : running.seconds + duration.seconds < UInt64.size then
    if fits : running.nanoseconds + duration.fraction < UInt64.size then
      .ok ⟨running.seconds + duration.seconds, running.nanoseconds + duration.fraction, few, fits⟩
    else if room : running.seconds + duration.seconds +
        running.nanoseconds / nanosecondsPerSecond < UInt64.size then
      .ok ⟨_, _, room, carried_lt running.nanoseconds duration⟩
    else .error .durationSum
  else .error .durationSum

/-- The nanoseconds that are left are carried at the end. -/
def finish (running : Running) : Except ArithmeticError Duration :=
  if room : running.seconds + running.nanoseconds / nanosecondsPerSecond < UInt64.size then
    .ok ⟨_, parts_le room (Nat.mod_lt running.nanoseconds (by decide))⟩
  else .error .durationSum

def total (running : Running) : Nat :=
  running.seconds * nanosecondsPerSecond + running.nanoseconds

/-- A step adds the duration, and it stops only if the exact sum up to there is too long. -/
theorem add_cases (running : Running) (duration : Duration) :
    (∃ next, running.add duration = .ok next ∧
      next.total = running.total + duration.nanoseconds) ∨
    (running.add duration = .error .durationSum ∧
      maxNanoseconds < running.total + duration.nanoseconds) := by
  unfold add
  by_cases few : running.seconds + duration.seconds < UInt64.size
  · rw [dif_pos few]
    by_cases fits : running.nanoseconds + duration.fraction < UInt64.size
    · rw [dif_pos fits]
      refine .inl ⟨_, rfl, ?_⟩
      simp only [total, Duration.seconds, fraction, nanosecondsPerSecond]
      omega
    · rw [dif_neg fits]
      by_cases room : running.seconds + duration.seconds +
          running.nanoseconds / nanosecondsPerSecond < UInt64.size
      · rw [dif_pos room]
        refine .inl ⟨_, rfl, ?_⟩
        simp only [total, Duration.seconds, fraction, nanosecondsPerSecond]
        omega
      · rw [dif_neg room]
        refine .inr ⟨rfl, long_of_seconds room ?_⟩
        simp only [total, Duration.seconds, nanosecondsPerSecond]
        omega
  · rw [dif_neg few]
    refine .inr ⟨rfl, long_of_seconds few ?_⟩
    simp only [total, Duration.seconds, nanosecondsPerSecond]
    omega

/-- So does a sequence of steps. -/
theorem foldlM_add_cases (durations : List Duration) (running : Running) :
    (∃ last, durations.foldlM add running = .ok last ∧
      last.total = running.total + totalNanoseconds durations) ∨
    (durations.foldlM add running = .error .durationSum ∧
      maxNanoseconds < running.total + totalNanoseconds durations) := by
  induction durations generalizing running with
  | nil => exact .inl ⟨running, rfl, (Nat.add_zero _).symm⟩
  | cons first rest ih =>
    rw [List.foldlM_cons, totalNanoseconds_cons, ← Nat.add_assoc]
    obtain ⟨next, added, total_eq⟩ | ⟨stopped, long⟩ := running.add_cases first
    · rw [added, ← total_eq]
      exact ih next
    · rw [stopped]
      exact .inr ⟨rfl, Nat.lt_of_lt_of_le long (Nat.le_add_right _ _)⟩

theorem finish_cases (running : Running) :
    (∃ duration, running.finish = .ok duration ∧ duration.nanoseconds = running.total) ∨
    (running.finish = .error .durationSum ∧ maxNanoseconds < running.total) := by
  have parts : (running.seconds + running.nanoseconds / nanosecondsPerSecond) *
      nanosecondsPerSecond + running.nanoseconds % nanosecondsPerSecond = running.total := by
    simp only [total, nanosecondsPerSecond]
    omega
  unfold finish
  by_cases room :
      running.seconds + running.nanoseconds / nanosecondsPerSecond < UInt64.size
  · rw [dif_pos room]
    exact .inl ⟨_, rfl, parts⟩
  · rw [dif_neg room]
    exact .inr ⟨rfl, long_of_seconds room (parts ▸ Nat.le_add_right _ _)⟩

end Running

/-- Adds up durations one after another. -/
def runningSum (durations : List Duration) : Except ArithmeticError Duration := do
  (← durations.foldlM Running.add .zero).finish

/-- The checks between the steps never stop a sum that is not too long in the end. -/
theorem runningSum_eq_sum (durations : List Duration) : runningSum durations = sum durations := by
  unfold runningSum
  obtain ⟨last, added, total_eq⟩ | ⟨stopped, long⟩ := Running.foldlM_add_cases durations .zero
  · have exact_eq : last.total = totalNanoseconds durations := total_eq.trans (Nat.zero_add _)
    simp only [added, bind, Except.bind]
    obtain ⟨duration, finished, same⟩ | ⟨stopped, long⟩ := last.finish_cases
    · rw [finished, sum_eq_ok_iff.mpr (same.trans exact_eq)]
    · rw [stopped, sum_eq_error_iff.mpr ⟨rfl, exact_eq ▸ long⟩]
  · rw [stopped, sum_eq_error_iff.mpr ⟨rfl, Nat.zero_add (totalNanoseconds durations) ▸ long⟩]
    rfl

end PageMetadata.Duration
