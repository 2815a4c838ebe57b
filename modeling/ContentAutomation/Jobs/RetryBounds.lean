import ContentAutomation.Jobs.Retry

/-!
# The bounds of retry decisions

The budget, the class, the provider's hint, the jitter and the age of the job
are clamped one after the other in `decideJobRetry`. No clamp undoes another:
what a retry promises is read off once, and the length of a chain of retries
follows by induction on the failures.
-/

namespace ContentAutomation

variable {input : RetryDecisionInput} {delayMs nextAttemptAt : ℤ}

/-- What holds of a retry. -/
structure RetryDecisionInput.Granted (input : RetryDecisionInput) (delayMs nextAttemptAt : ℤ) :
    Prop where
  first : 1 ≤ input.attemptNumber
  budget : input.attemptNumber <
    min input.maxAttempts (maximumAttemptsByClass input.failure.errorClass)
  /-- The delay comes from a cap of the class. -/
  delay : ∃ cap ∈ retryCaps input.failure.errorClass,
    delayMs = retryDelayMs cap input.random input.failure.providerRetryAfterMs
  horizon : delayMs ≤ retryHorizonMs
  due : nextAttemptAt = input.now + delayMs
  age : nextAttemptAt ≤ input.jobCreatedAt + retryHorizonMs

/-- **The inversion of retries.** -/
theorem granted_of_retry (h : decideJobRetry input = .retry delayMs nextAttemptAt) :
    input.Granted delayMs nextAttemptAt := by
  unfold decideJobRetry at h
  simp only at h
  split at h
  · cases h
  · next hguard =>
    push Not at hguard
    obtain ⟨-, -, hfirst, -, -, hbudget⟩ := hguard
    split at h
    · cases h
    · next cap hcap =>
      split at h
      · cases h
      · next hclamp =>
        push Not at hclamp
        cases h
        exact ⟨hfirst, hbudget, ⟨cap, List.mem_of_getElem? hcap, rfl⟩, hclamp.1, rfl, hclamp.2⟩

private theorem le_retryDelayMs (cap : ℤ) (random hint : Option ℚ) :
    1000 ≤ retryDelayMs cap random hint :=
  le_max_of_le_left (le_max_left _ _)

private theorem floor_le_retryDelayMs (cap : ℤ) (random : Option ℚ) (hint : ℚ) :
    ⌊hint⌋ ≤ retryDelayMs cap random (some hint) := by
  by_cases hpositive : 0 < hint
  · unfold retryDelayMs
    simp only
    rw [if_pos hpositive]
    exact le_max_right _ _
  · have hnonpositive : ⌊hint⌋ ≤ 0 := Int.floor_nonpos (not_lt.mp hpositive)
    have hdelay := le_retryDelayMs cap random (some hint)
    omega

private theorem maximumAttemptsByClass_le (errorClass : JobFailureClass) :
    maximumAttemptsByClass errorClass ≤ 8 := by
  cases errorClass <;> decide

/-! ### Chains of retries -/

/-- A failed attempt, with the budget of the job, the time and the jitter when it is
settled. -/
structure AttemptFailure where
  failure : JobFailure
  maxAttempts : ℤ
  now : ℤ
  random : Option ℚ

/-- The decision on a failed attempt. -/
def AttemptFailure.decision (failed : AttemptFailure) (jobCreatedAt attemptNumber : ℤ) :
    JobRetryDecision :=
  decideJobRetry
    { attemptNumber
      failure := failed.failure
      jobCreatedAt
      maxAttempts := failed.maxAttempts
      now := failed.now
      random := failed.random }

/-- How many attempts a job makes from a given number on, when they fail as listed:
each retry makes one more, and an attempt behind the list does not fail. -/
def attemptsMade (jobCreatedAt : ℤ) : ℤ → List AttemptFailure → ℕ
  | _, [] => 1
  | attemptNumber, failed :: later =>
    match failed.decision jobCreatedAt attemptNumber with
    | .retry _ _ => attemptsMade jobCreatedAt (attemptNumber + 1) later + 1
    | .failedAttention _ => 1

private theorem attemptsMade_le (jobCreatedAt attemptNumber : ℤ) (hlast : attemptNumber ≤ 8)
    (failures : List AttemptFailure) :
    (attemptsMade jobCreatedAt attemptNumber failures : ℤ) + attemptNumber ≤ 9 := by
  induction failures generalizing attemptNumber with
  | nil =>
    rw [attemptsMade]
    omega
  | cons failed later ih =>
    unfold attemptsMade
    split
    · next delayMs nextAttemptAt hretry =>
      have hgranted := granted_of_retry hretry
      have hbelow : attemptNumber < maximumAttemptsByClass failed.failure.errorClass :=
        lt_of_lt_of_le hgranted.budget (min_le_right _ _)
      have hclass := maximumAttemptsByClass_le failed.failure.errorClass
      have hlater := ih (attemptNumber + 1) (by omega)
      omega
    · omega

/-- **Retries stay inside every bound.** A retry is below the budget of the job and of
the class, waits between a second and a day and at least as long as the provider asks
for in whole milliseconds, and is due within a day of the creation of the job. No
chain of retries makes more than eight attempts. -/
theorem retries_are_bounded :
    (∀ input delayMs nextAttemptAt, decideJobRetry input = .retry delayMs nextAttemptAt →
      input.attemptNumber <
          min input.maxAttempts (maximumAttemptsByClass input.failure.errorClass) ∧
        1000 ≤ delayMs ∧ delayMs ≤ 24 * 60 * 60 * 1000 ∧
        (∀ hint, input.failure.providerRetryAfterMs = some hint → ⌊hint⌋ ≤ delayMs) ∧
        nextAttemptAt = input.now + delayMs ∧
        input.now + delayMs ≤ input.jobCreatedAt + 24 * 60 * 60 * 1000) ∧
      ∀ jobCreatedAt failures, attemptsMade jobCreatedAt 1 failures ≤ 8 := by
  constructor
  · intro input delayMs nextAttemptAt hretry
    have hgranted := granted_of_retry hretry
    obtain ⟨cap, -, hdelay⟩ := hgranted.delay
    refine ⟨hgranted.budget, ?_, hgranted.horizon, ?_, hgranted.due, ?_⟩
    · rw [hdelay]
      exact le_retryDelayMs _ _ _
    · intro hint hhint
      rw [hdelay, hhint]
      exact floor_le_retryDelayMs _ _ _
    · rw [← hgranted.due]
      exact hgranted.age
  · intro jobCreatedAt failures
    have hchain := attemptsMade_le jobCreatedAt 1 (by decide) failures
    omega

namespace RetrySample

/-- A first attempt is told to wait for a fraction of a millisecond more than 1.5 seconds. -/
def fractional : RetryDecisionInput where
  attemptNumber := 1
  failure := ⟨none, .rateLimit, "PROVIDER_RATE_LIMITED", some (3001 / 2)⟩
  jobCreatedAt := 0
  maxAttempts := 5
  now := 0
  random := some 0

private theorem fractional_decision : decideJobRetry fractional = .retry 1500 1500 := by
  decide +kernel

/-- The bounds hold of it. -/
theorem fractional_bounds : decideJobRetry fractional = .retry 1500 1500 ∧
    fractional.attemptNumber <
      min fractional.maxAttempts (maximumAttemptsByClass fractional.failure.errorClass) := by
  refine ⟨fractional_decision, ?_⟩
  exact (retries_are_bounded.1 fractional 1500 1500 fractional_decision).1

/-- **Rounding.** The delay is shorter than the hint by the fraction. -/
theorem fractional_hint_is_rounded : ¬ ∀ input delayMs nextAttemptAt,
    decideJobRetry input = .retry delayMs nextAttemptAt →
      ∀ hint, input.failure.providerRetryAfterMs = some hint → hint ≤ (delayMs : ℚ) := by
  intro h
  have hhint := h fractional 1500 1500 fractional_decision (3001 / 2) rfl
  norm_num at hhint

end RetrySample

end ContentAutomation
