import ContentAutomation.Jobs.Lifecycle
import Mathlib.Data.Rat.Floor

/-!
# Retry decisions

The classifier of `job-retry.ts`: which failures are terminal, how many
attempts each class may use, and when the next attempt is due. Delays are in
milliseconds. The jitter source and the provider hint are rational numbers;
`none` stands for a value that is not finite, and for an absent hint: the source
waits for neither.
-/

namespace ContentAutomation

/-- The classes of failure that a handler reports. -/
inductive JobFailureClass
  | transient | rateLimit | credential | invalidInput | semanticOutput | database | unknown
  deriving DecidableEq

/-- What the operator or the framework does next about a failure. -/
inductive JobNextAction
  | retryAutomatic | reconnectAccount | replaceInput | reviewOutput | contactSupport
  deriving DecidableEq

/-- A classified failure of one attempt. -/
structure JobFailure where
  credentialRecoverable : Option Bool
  errorClass : JobFailureClass
  errorCode : String
  providerRetryAfterMs : Option ℚ

/-- The verdict on a failed attempt. -/
inductive JobRetryDecision
  | retry (delayMs nextAttemptAt : ℤ)
  | failedAttention (nextAction : JobNextAction)
  deriving DecidableEq

/-- The next action that a decision records. -/
def JobRetryDecision.nextAction : JobRetryDecision → JobNextAction
  | .retry _ _ => .retryAutomatic
  | .failedAttention nextAction => nextAction

/-- When the next attempt is due, for a retry. -/
def JobRetryDecision.nextAttemptAt : JobRetryDecision → Option ℤ
  | .retry _ nextAttemptAt => some nextAttemptAt
  | .failedAttention _ => none

/-- `Number.isSafeInteger` on an integer. -/
def isSafeInteger (value : ℤ) : Bool := decide (|value| ≤ 9007199254740991)

/-- The characters of an error code after the first. -/
def isUpperSnakeCharacter (c : Char) : Bool := Text.isUpper c || Text.isDigit c || c == '_'

/-- `safeErrorCodePattern`, also the pattern of reason and reconciliation codes. -/
def isSafeCode (value : String) : Bool :=
  Text.leadingThenBounded Text.isUpper isUpperSnakeCharacter 63 value

/-- Replace an unsafe error code. -/
def normaliseErrorCode (value : String) : String :=
  if isSafeCode value then value else "JOB_HANDLER_FAILED"

/-- The failure that a `JobHandlerFailure` carries. -/
def jobHandlerFailure (failure : JobFailure) : JobFailure :=
  { failure with
    errorCode := normaliseErrorCode failure.errorCode
    providerRetryAfterMs := failure.providerRetryAfterMs.map fun hint =>
      if 0 < hint then (⌊hint⌋ : ℚ) else hint }

/-- The failure recorded for an error that is no `JobHandlerFailure`. -/
def unclassifiedFailure : JobFailure :=
  ⟨none, .unknown, "JOB_HANDLER_FAILED", none⟩

def retryHorizonMs : ℤ := 86400000

/-- How many attempts each class of failure may use. -/
def maximumAttemptsByClass : JobFailureClass → ℤ
  | .credential => 2
  | .database => 3
  | .invalidInput => 1
  | .rateLimit => 8
  | .semanticOutput => 2
  | .transient => 5
  | .unknown => 1

/-- The largest delay before each retry, by class. -/
def retryCaps : JobFailureClass → List ℤ
  | .credential => [1000]
  | .database => [1000, 5000]
  | .invalidInput => []
  | .rateLimit => [30000, 120000, 600000, 1800000, 7200000, 21600000, 43200000]
  | .semanticOutput => [1000]
  | .transient => [30000, 120000, 600000, 1800000, 7200000]
  | .unknown => []

/-- The action of a failure that is terminal whatever the attempt number. -/
def terminalNextAction (failure : JobFailure) : Option JobNextAction :=
  match failure.errorClass with
  | .credential => if failure.credentialRecoverable = some true then none else some .reconnectAccount
  | .invalidInput => some .replaceInput
  | .unknown => some .contactSupport
  | _ => none

/-- The action of a failure that has used up its attempts. -/
def fallbackTerminalAction : JobFailureClass → JobNextAction
  | .credential => .reconnectAccount
  | .invalidInput => .replaceInput
  | .semanticOutput => .reviewOutput
  | _ => .contactSupport

/-- Clamp a jitter value to the unit interval. -/
def clampRandom : Option ℚ → ℚ
  | none => 1 / 2
  | some value => min (max value 0) 1

/-- The input of `decideJobRetry`. -/
structure RetryDecisionInput where
  attemptNumber : ℤ
  failure : JobFailure
  jobCreatedAt : ℤ
  maxAttempts : ℤ
  now : ℤ
  random : Option ℚ

/-- The larger of the jittered delay and the provider hint. -/
def retryDelayMs (cap : ℤ) (random providerRetryAfterMs : Option ℚ) : ℤ :=
  max (max 1000 ⌊(cap : ℚ) * clampRandom random⌋)
    (match providerRetryAfterMs with
      | some hint => if 0 < hint then ⌊hint⌋ else 0
      | none => 0)

/-- Decide whether a failed attempt is retried, and when. -/
def decideJobRetry (input : RetryDecisionInput) : JobRetryDecision :=
  let failure := { input.failure with errorCode := normaliseErrorCode input.failure.errorCode }
  let terminalAction := terminalNextAction failure
  let allowedAttempts := min input.maxAttempts (maximumAttemptsByClass failure.errorClass)
  let fallback := fallbackTerminalAction failure.errorClass
  if terminalAction.isSome ∨ isSafeInteger input.attemptNumber = false ∨ input.attemptNumber < 1 ∨
      isSafeInteger input.maxAttempts = false ∨ input.maxAttempts < 1 ∨
      allowedAttempts ≤ input.attemptNumber then
    .failedAttention (terminalAction.getD fallback)
  else
    match (retryCaps failure.errorClass)[(input.attemptNumber - 1).toNat]? with
    | none => .failedAttention fallback
    | some cap =>
      let delayMs := retryDelayMs cap input.random failure.providerRetryAfterMs
      let nextAttemptAt := input.now + delayMs
      if retryHorizonMs < delayMs ∨ input.jobCreatedAt + retryHorizonMs < nextAttemptAt then
        .failedAttention fallback
      else .retry delayMs nextAttemptAt

theorem lt_maxAttempts_of_retry {input : RetryDecisionInput} {delayMs nextAttemptAt : ℤ}
    (h : decideJobRetry input = .retry delayMs nextAttemptAt) :
    input.attemptNumber < input.maxAttempts := by
  unfold decideJobRetry at h
  simp only at h
  split at h
  · cases h
  · next hguard =>
    push Not at hguard
    have hallowed := hguard.2.2.2.2.2
    exact lt_of_lt_of_le hallowed (min_le_left _ _)

end ContentAutomation
