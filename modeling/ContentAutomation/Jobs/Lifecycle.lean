import ContentAutomation.Library.Text

/-!
# The logical state machine of background jobs

States, allowed transitions and stage names of `job-lifecycle.ts`, and the
queues of `background-jobs.ts`. Some operations assert a transition before they
write it and some write the state directly.
-/

namespace ContentAutomation

/-- The user-visible state of a background job. -/
inductive BackgroundJobState
  | queued | processing | retryScheduled | succeeded | failedAttention | cancelled
  deriving DecidableEq

/-- The state of one attempt at a job. -/
inductive JobAttemptState
  | active | succeeded | retryScheduled | failedAttention | leaseExpired | cancelled
  deriving DecidableEq

/-- The targets that each state declares. -/
def allowedTransitions : BackgroundJobState → List BackgroundJobState
  | .cancelled => []
  | .failedAttention => [.queued]
  | .processing => [.queued, .retryScheduled, .succeeded, .failedAttention, .cancelled]
  | .queued => [.processing, .cancelled]
  | .retryScheduled => [.queued, .cancelled]
  | .succeeded => []

/-- Whether the declared machine moves from `source` to `target`. -/
def canTransitionJob (source target : BackgroundJobState) : Bool :=
  (allowedTransitions source).contains target

/-- The characters of a stage name or resource type after the first. -/
def isSnakeCharacter (c : Char) : Bool := Text.isLower c || Text.isDigit c || c == '_'

/-- `safeStagePattern`, also the pattern of a resource type. -/
def isSafeJobStage (stage : String) : Bool :=
  Text.leadingThenBounded Text.isLower isSnakeCharacter 63 stage

/-- The names of `queueDefinitions`. -/
def queueNames : List String :=
  ["instagram.sync.account", "instagram.snapshot.post", "instagram.token.maintain",
    "instagram.media.import", "instagram.comments.post", "asset.validate", "asset.cleanup",
    "analysis.run", "analytics.recalculate", "strategy.generate", "system.reconcile"]

/-- Whether a queue of that name is defined. -/
def isQueueName (value : String) : Bool := queueNames.contains value

/-- How long the queue holds an undelivered or unfinished message. -/
def queueDeliveryExpirySeconds : ℤ := 900

theorem canTransitionJob_of_final {source target : BackgroundJobState}
    (h : source = .succeeded ∨ source = .cancelled) : canTransitionJob source target = false := by
  rcases h with rfl | rfl <;> rfl

end ContentAutomation
