import ContentAutomation.Jobs.Enqueue
import ContentAutomation.Library.Columns
import ContentAutomation.Library.RowLocks
import ContentAutomation.Library.Utf16

/-!
# Conversations

The rows of `chat_sessions` and `chat_messages`, and what a question and its answer are stored as.
-/

namespace ContentAutomation

open Relational

/-! ### Rows -/

/-- The columns of `chat_sessions` that a turn reads or writes. -/
structure ChatSession where
  id : String
  workspaceId : String
  title : Utf16
  titleSetByUser : Bool
  messageCount : ℕ
  lastMessageAt : Option ℤ

/-- `ChatMessageRole`. -/
inductive ChatMessageRole
  | user | assistant
  deriving DecidableEq

/-- `ChatAnswerRecord`. -/
structure ChatAnswerRecord where
  citedEvidenceKeys : List String
  content : Utf16
  contextHash : Option String
  contextSources : List String
  contextTokenEstimate : Option ℤ
  failureClass : Option String
  failureCode : Option String
  finishReason : Option String
  followUps : List Utf16
  inputTokens : Option ℤ
  modelRequested : Option String
  modelVersion : Option String
  outputTokens : Option ℤ
  promptVersion : Option String
  providerLatencyMs : Option ℤ
  schemaVersion : Option String
  strategyGenerationId : Option String
  totalTokens : Option ℤ
  deriving DecidableEq

/-- A row of `chat_messages`. -/
structure ChatMessage extends ChatAnswerRecord where
  id : String
  workspaceId : String
  chatSessionId : String
  sequence : ℕ
  role : ChatMessageRole
  createdAt : ℤ
  deriving DecidableEq

/-- A text without the code unit zero, which no column takes. -/
def takesUnits (text : Utf16) : Bool := !text.contains 0

/-- The columns of an answer take its values. -/
def ChatAnswerRecord.fits (answer : ChatAnswerRecord) : Bool :=
  answer.citedEvidenceKeys.all takesText && takesUnits answer.content &&
    answer.contextHash.all (takesVarChar 64) && answer.contextSources.all takesText &&
    answer.followUps.all takesUnits &&
    [answer.failureClass, answer.failureCode, answer.finishReason, answer.modelRequested,
      answer.modelVersion, answer.promptVersion, answer.schemaVersion].all
        (fun text => text.all (takesVarChar 64)) &&
    [answer.contextTokenEstimate, answer.inputTokens, answer.outputTokens,
      answer.providerLatencyMs, answer.totalTokens].all (fun value => value.all takesInteger)

/-- The constraints of `chat_sessions`. -/
def chatSessionSchema : Schema ChatSession where
  checks :=
    [("title", fun row => takesUnits row.title && Utf16.characters row.title ≤ 120),
      ("message_count", fun row => takesInteger row.messageCount)]
  indexes := [("chat_sessions_pkey", fun row other => row.id == other.id)]

/-- The constraints of `chat_messages`. -/
def chatMessageSchema : Schema ChatMessage where
  checks :=
    [("sequence", fun row => takesInteger row.sequence),
      ("columns", fun row => row.toChatAnswerRecord.fits)]
  indexes :=
    [("chat_messages_pkey", fun row other => row.id == other.id),
      ("chat_message_session_sequence", fun row other =>
        row.chatSessionId == other.chatSessionId && row.sequence == other.sequence)]

/-- The place of a message: its conversation and its position there. -/
def ChatMessage.place (row : ChatMessage) : String × ℕ := (row.chatSessionId, row.sequence)

theorem chatSessionSchema_keyedBy_id : chatSessionSchema.KeyedBy ChatSession.id :=
  ⟨_, List.mem_cons_self, fun _ _ heq => beq_iff_eq.mpr heq⟩

theorem chatMessageSchema_keyedBy_place : chatMessageSchema.KeyedBy ChatMessage.place := by
  refine ⟨_, List.mem_cons_of_mem _ List.mem_cons_self, fun row other heq => ?_⟩
  have hparts := Prod.mk.inj heq
  simp [hparts.1, hparts.2]

/-! ### Questions and answers -/

/-- `chatSessionMessageLimit`. -/
def chatSessionMessageLimit : ℕ := 200

/-- `chatWorkspaceHourlyTurnLimit`. -/
def chatWorkspaceHourlyTurnLimit : ℕ := 60

/-- `chatQuestionMaxLength`. -/
def chatQuestionMaxLength : ℕ := 2000

/-- `oneHourMs`. -/
def oneHourMs : ℤ := 3600000

/-- `countRecentChatQuestions`. -/
def countRecentChatQuestions (messages : List ChatMessage) (context : WorkspaceContext)
    (since : ℤ) : ℕ :=
  messages.countP fun row =>
    decide (since ≤ row.createdAt) && row.role == .user && row.workspaceId == context.workspaceId

/-- `text.lastIndexOf(" ")`, or zero where there is none. -/
def lastSpaceIn (text : Utf16) : ℕ :=
  match text.reverse.idxOf? Utf16.space with
  | some index => text.length - 1 - index
  | none => 0

/-- `deriveChatTitle`. -/
def deriveChatTitle (question : Utf16) : Utf16 :=
  let flattened := Utf16.trim (Utf16.collapseSpaces question)
  if flattened.length ≤ 60 then flattened
  else
    let clipped := flattened.take 60
    let lastSpace := lastSpaceIn clipped
    let kept := if 24 < lastSpace then clipped.take lastSpace else clipped
    (kept.reverse.dropWhile Utf16.isSpace).reverse ++ [0x2026]

/-- `chatRefusalReasons`. -/
inductive ChatRefusalReason
  | emptyQuestion | questionTooLong | sessionFull | sessionNotFound | workspaceRateLimited
  deriving DecidableEq

/-- One call of `runChatTurn`, with the identifiers that are generated for its messages. -/
structure ChatTurn where
  context : WorkspaceContext
  question : Utf16
  sessionId : String
  questionId : String
  answerId : String

namespace ChatTurn

/-- What is asked. -/
def content (turn : ChatTurn) : Utf16 := Utf16.trim turn.question

/-- Why the question itself is refused. -/
def refusal (turn : ChatTurn) : Option ChatRefusalReason :=
  if turn.content.length = 0 then some .emptyQuestion
  else if chatQuestionMaxLength < turn.content.length then some .questionTooLong
  else none

/-- The row of the question, given the session as it was read. -/
def questionRow (turn : ChatTurn) (session : ChatSession) (createdAt : ℤ) : ChatMessage where
  citedEvidenceKeys := []
  content := turn.content
  contextHash := none
  contextSources := []
  contextTokenEstimate := none
  failureClass := none
  failureCode := none
  finishReason := none
  followUps := []
  inputTokens := none
  modelRequested := none
  modelVersion := none
  outputTokens := none
  promptVersion := none
  providerLatencyMs := none
  schemaVersion := none
  strategyGenerationId := none
  totalTokens := none
  id := turn.questionId
  workspaceId := turn.context.workspaceId
  chatSessionId := turn.sessionId
  sequence := session.messageCount
  role := .user
  createdAt := createdAt

/-- The row of the answer to a question. -/
def answerRow (turn : ChatTurn) (asked : ChatMessage) (answer : ChatAnswerRecord)
    (createdAt : ℤ) : ChatMessage where
  toChatAnswerRecord := answer
  id := turn.answerId
  workspaceId := turn.context.workspaceId
  chatSessionId := turn.sessionId
  sequence := asked.sequence + 1
  role := .assistant
  createdAt := createdAt

end ChatTurn

end ContentAutomation
