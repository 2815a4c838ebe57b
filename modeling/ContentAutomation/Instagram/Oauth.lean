import ContentAutomation.Library.Base64
import ContentAutomation.Library.CalendarText
import ContentAutomation.Library.JsonText

/-!
# The state of a pending connection

The pure decisions of a connection with Instagram: how the pending state is sealed for its
cookie and opened again, whether a callback may go on to exchange its code, and which accounts
and scopes are accepted. The digests, the numerals of JSON and the dates in formats of the
platform's own are parameters.
-/

namespace ContentAutomation

open Utf16 List

/-- `instagramRequiredScopes`. -/
def instagramRequiredScopes : List Utf16 :=
  ["instagram_business_basic", "instagram_business_manage_insights",
    "instagram_business_manage_comments"].map ofString

/-- `InstagramAccountType`. -/
inductive InstagramAccountType
  | business | creator
  deriving DecidableEq

/-- `instagramStateLifetimeSeconds`. -/
def instagramStateLifetimeSeconds : ℤ := 600

/-- `InstagramConnectionDenialReason`. -/
inductive InstagramConnectionDenialReason
  | stateMissing | stateMismatch | stateExpired | stateAlreadyUsed | consentCancelled
  | providerError | codeMissing | accountTypeIneligible | scopeDowngraded | redirectUriInvalid
  | accountMismatch
  deriving DecidableEq

/-- What is used of the platform. -/
structure Platform where
  /-- HMAC-SHA256 under a secret. -/
  hmacSha256 : Utf16 → List UInt8 → List UInt8
  sha256 : List UInt8 → List UInt8
  /-- The numerals that `JSON.stringify` writes and `JSON.parse` reads. -/
  numeral : ℚ → Utf16
  number : Utf16 → JsNumber
  /-- The dates in texts that `toISOString` does not write. -/
  otherDate : Utf16 → Option ℤ

/-- The value, unless it is missing or empty. -/
def truthy? (value : Option Utf16) : Option Utf16 := value.filter fun text => !text.isEmpty

/-- `text.lastIndexOf(unit)`, `none` being `-1`. -/
def lastIndexOf? (unit : UInt16) : Utf16 → Option ℕ
  | [] => none
  | first :: text =>
    match lastIndexOf? unit text with
    | some position => some (position + 1)
    | none => if first = unit then some 0 else none

/-! ### The decisions -/

/-- `InstagramStateRecord`. -/
structure InstagramStateRecord where
  expiresAt : ℤ
  consumed : Bool
  state : Utf16

/-- The input of `evaluateInstagramCallback`. -/
structure InstagramCallback where
  code : Option Utf16
  now : ℤ
  providerError : Option Utf16
  receivedState : Option Utf16
  storedState : Option InstagramStateRecord

/-- `resolveInstagramAccountType`. -/
def resolveInstagramAccountType (candidate : Utf16) : Option InstagramAccountType :=
  if candidate = ofString "BUSINESS" then some .business
  else if candidate = ofString "CREATOR" ∨ candidate = ofString "MEDIA_CREATOR" then some .creator
  else none

/-- `loggableInstagramAccountType`. -/
def loggableInstagramAccountType (candidate : Utf16) : Utf16 :=
  if 1 ≤ candidate.length ∧ candidate.length ≤ 32 ∧
      candidate.all (fun unit => (0x41 ≤ unit ∧ unit ≤ 0x5A) ∨ unit = 0x5F) = true then candidate
  else ofString "UNRECOGNISED"

/-- The answer of `evaluateInstagramGrantedScopes`. -/
structure InstagramScopeEvaluation where
  extra : List Utf16
  missing : List Utf16
  satisfied : Bool

/-- `evaluateInstagramGrantedScopes`. -/
def evaluateInstagramGrantedScopes (granted : List Utf16) : InstagramScopeEvaluation :=
  let normalised := ((granted.map trim).filter fun scope => !scope.isEmpty).eraseDups
  let missing := instagramRequiredScopes.filter fun scope => !normalised.contains scope
  { extra := (normalised.filter fun scope =>
      !instagramRequiredScopes.contains scope).insertionSort (· ≤ ·)
    missing
    satisfied := missing.isEmpty }

/-- `instagramReconnectSatisfied`. -/
def instagramReconnectSatisfied (expectedProviderAccountId : Option Utf16)
    (returnedProviderAccountId : Utf16) : Bool :=
  match truthy? expectedProviderAccountId with
  | none => true
  | some expected => expected == returnedProviderAccountId

/-- `resolveTokenExpiry`. -/
def resolveTokenExpiry (expiresInSeconds : Option JsNumber) (now : ℤ) : Option ℤ :=
  match expiresInSeconds with
  | some (.finite seconds) => if seconds ≤ 0 then none else some (now + seconds.floor * 1000)
  | _ => none

/-! ### Sealing -/

/-- `InstagramSealedState`. -/
structure InstagramSealedState where
  expectedProviderAccountId : Option Utf16
  expiresAt : ℤ
  internalUserId : Utf16
  state : Utf16

/-- The input of `sealInstagramState`. -/
structure InstagramSealInput extends InstagramSealedState where
  secret : Utf16

/-- The fields of the payload; a binding that is missing or empty is left out. -/
def InstagramSealedState.fields (input : InstagramSealedState) : List (Utf16 × Utf16) :=
  (match truthy? input.expectedProviderAccountId with
    | none => []
    | some expected => [(ofString "expectedProviderAccountId", expected)]) ++
  [(ofString "expiresAt", ofString (Calendar.toISOString input.expiresAt)),
    (ofString "internalUserId", input.internalUserId), (ofString "state", input.state)]

/-- What is opened of a sealed state. -/
def InstagramSealedState.opened (input : InstagramSealedState) : InstagramSealedState :=
  { input with expectedProviderAccountId := truthy? input.expectedProviderAccountId }

namespace Platform

variable (platform : Platform)

/-- The encoded payload. -/
def payload (input : InstagramSealedState) : Utf16 :=
  Base64.encode (Utf8.encode (Json.stringify platform.numeral (Json.ofStrings input.fields)))

/-- The signature of an encoded payload. -/
def signature (secret encoded : Utf16) : Utf16 :=
  Base64.encode (platform.hmacSha256 secret (Utf8.encode encoded))

/-- The digests of two strings are the same. -/
def digestsMatch (left right : Utf16) : Bool :=
  platform.sha256 (Utf8.encode left) == platform.sha256 (Utf8.encode right)

/-- `sealInstagramState`; `none` is the exception of `toISOString`. -/
def sealInstagramState (input : InstagramSealInput) : Option Utf16 :=
  if Calendar.IsInstant input.expiresAt then
    let encoded := platform.payload input.toInstagramSealedState
    some (encoded ++ 0x2E :: platform.signature input.secret encoded)
  else none

/-- The sealed state that a value of JSON describes. -/
def readSealedState (parsed : Json) : Option InstagramSealedState :=
  match parsed with
  | .object candidate =>
    match Json.field? candidate "state", Json.field? candidate "internalUserId",
      Json.field? candidate "expiresAt" with
    | some (.string state), some (.string internalUserId), some (.string expires) =>
      match Json.field? candidate "expectedProviderAccountId" with
      | none => (Calendar.parseDate platform.otherDate expires).map fun expiresAt =>
        ⟨none, expiresAt, internalUserId, state⟩
      | some (.string expected) =>
        -- A malformed binding is refused rather than dropped.
        if expected = [] then none
        else (Calendar.parseDate platform.otherDate expires).map fun expiresAt =>
          ⟨some expected, expiresAt, internalUserId, state⟩
      | some _ => none
    | _, _, _ => none
  | _ => none

/-- `openInstagramState`. -/
def openInstagramState (sealed : Option Utf16) (secret : Utf16) : Option InstagramSealedState :=
  match truthy? sealed with
  | none => none
  | some sealed =>
    match lastIndexOf? 0x2E sealed with
    | none => none
    | some separator =>
      if separator = 0 then none
      else
        let encoded := sealed.take separator
        let signature := sealed.drop (separator + 1)
        if platform.digestsMatch signature (platform.signature secret encoded) then
          match Json.parse platform.number (Utf8.decode (Base64.decode encoded)) with
          | none => none
          | some parsed => platform.readSealedState parsed
        else none

/-- `evaluateInstagramCallback`. -/
def evaluateInstagramCallback (input : InstagramCallback) :
    Except InstagramConnectionDenialReason Utf16 :=
  match input.storedState, truthy? input.receivedState with
  | some storedState, some receivedState =>
    if platform.digestsMatch storedState.state receivedState = false then .error .stateMismatch
    else if storedState.consumed then .error .stateAlreadyUsed
    else if storedState.expiresAt ≤ input.now then .error .stateExpired
    else
      match truthy? input.providerError with
      | some providerError =>
        if providerError = ofString "access_denied" then .error .consentCancelled
        else .error .providerError
      | none =>
        match truthy? input.code with
        | none => .error .codeMissing
        | some code => .ok code
  | _, _ => .error .stateMissing

end Platform

/-! ### What the helpers find -/

variable {text : Utf16} {unit : UInt16}

theorem truthy?_eq_some {value : Option Utf16} :
    truthy? value = some text ↔ value = some text ∧ text ≠ [] := by
  unfold truthy?
  rw [Option.filter_eq_some_iff]
  simp

private theorem lastIndexOf?_eq_none (h : unit ∉ text) :
    lastIndexOf? unit text = none := by
  induction text with
  | nil => rfl
  | cons first text ih =>
    rw [mem_cons, not_or] at h
    rw [lastIndexOf?, ih h.2]
    exact if_neg (Ne.symm h.1)

private theorem lastIndexOf?_append (before : Utf16) {after : Utf16} (h : unit ∉ after) :
    lastIndexOf? unit (before ++ unit :: after) = some before.length := by
  induction before with
  | nil =>
    rw [nil_append, lastIndexOf?, lastIndexOf?_eq_none h]
    exact if_pos rfl
  | cons first before ih => rw [cons_append, lastIndexOf?, ih, length_cons]

private theorem eq_of_lastIndexOf? {position : ℕ}
    (h : lastIndexOf? unit text = some position) :
    text = text.take position ++ unit :: text.drop (position + 1) := by
  induction text generalizing position with
  | nil => cases h
  | cons first text ih =>
    rw [lastIndexOf?] at h
    split at h
    · next found hfound =>
      cases h
      exact congrArg (first :: ·) (ih hfound)
    · split at h
      · next heq =>
        cases h
        rw [heq]
        rfl
      · cases h

/-! ### Opening what was sealed -/

namespace Platform

variable {platform : Platform}

variable (input : InstagramSealedState)

private theorem nodup_fields : (input.fields.map Prod.fst).Nodup := by
  have hkeys : [ofString "expectedProviderAccountId", ofString "expiresAt",
      ofString "internalUserId", ofString "state"].Nodup := by decide
  unfold InstagramSealedState.fields
  cases truthy? input.expectedProviderAccountId with
  | none => exact (nodup_cons.mp hkeys).2
  | some expected => exact hkeys

private theorem parse_payload :
    Json.parse platform.number (Utf8.decode (Base64.decode (platform.payload input))) =
      some (Json.ofStrings input.fields) := by
  have hne : input.fields ≠ [] := by
    unfold InstagramSealedState.fields
    exact append_ne_nil_of_right_ne_nil _ (cons_ne_nil _ _)
  unfold payload
  rw [Base64.decode_encode, Utf8.decode_encode,
    (Json.wellFormed_stringify_ofStrings platform.numeral input.fields).toWellFormed_eq,
    Json.parse_stringify_ofStrings platform.number platform.numeral hne (nodup_fields input)]

private theorem readSealedState_fields {input : InstagramSealedState}
    (h : Calendar.IsInstant input.expiresAt) :
    platform.readSealedState (Json.ofStrings input.fields) = some input.opened := by
  have hdate := Calendar.parseDate_toISOString platform.otherDate h
  have hstate : (ofString "state" == ofString "expectedProviderAccountId") = false ∧
      (ofString "state" == ofString "expiresAt") = false ∧
      (ofString "state" == ofString "internalUserId") = false := by decide
  have huser : (ofString "internalUserId" == ofString "expectedProviderAccountId") = false ∧
      (ofString "internalUserId" == ofString "expiresAt") = false := by decide
  have hexpires : (ofString "expiresAt" == ofString "expectedProviderAccountId") = false := by
    decide
  have hbinding : (ofString "expectedProviderAccountId" == ofString "expiresAt") = false ∧
      (ofString "expectedProviderAccountId" == ofString "internalUserId") = false ∧
      (ofString "expectedProviderAccountId" == ofString "state") = false := by decide
  unfold InstagramSealedState.fields InstagramSealedState.opened
  cases hexpected : truthy? input.expectedProviderAccountId with
  | none =>
    simp only [Json.ofStrings, readSealedState, Json.field?, nil_append, map_cons,
      map_nil, lookup_cons, lookup_nil, hstate, huser, hbinding, beq_self_eq_true,
      hdate, Option.map_some]
  | some expected =>
    have hne := (truthy?_eq_some.mp hexpected).2
    simp only [Json.ofStrings, readSealedState, Json.field?, cons_append, nil_append,
      map_cons, map_nil, lookup_cons, hstate, huser, hexpires, beq_self_eq_true,
      hdate, Option.map_some, if_neg hne]

private theorem payload_ne_nil : platform.payload input ≠ [] := by
  intro hempty
  have hparse := @parse_payload platform input
  rw [hempty] at hparse
  cases hparse

theorem mark_notMem_encode (bytes : List UInt8) : 0x2E ∉ Base64.encode bytes := by
  intro hmem
  obtain ⟨value, hvalue, heq⟩ := Base64.isDigit_of_mem_encode hmem
  exact (Base64.digit_spec hvalue).1 heq.symm

/-- **A sealed state is opened** as the state that was sealed, where a binding that is empty
reads as none. -/
theorem openInstagramState_seal {input : InstagramSealInput} {sealed : Utf16}
    (h : platform.sealInstagramState input = some sealed) :
    platform.openInstagramState (some sealed) input.secret =
      some input.toInstagramSealedState.opened := by
  unfold sealInstagramState at h
  split at h
  · next hinstant =>
    cases h
    have hpayload := @payload_ne_nil platform input.toInstagramSealedState
    have hthere : ∀ after, truthy? (some (platform.payload input.toInstagramSealedState ++
        0x2E :: after)) = some (platform.payload input.toInstagramSealedState ++ 0x2E :: after) :=
      fun after => truthy?_eq_some.mpr
        ⟨rfl, append_ne_nil_of_right_ne_nil _ (cons_ne_nil _ _)⟩
    have hdrop : ∀ after : Utf16, (platform.payload input.toInstagramSealedState ++
        0x2E :: after).drop ((platform.payload input.toInstagramSealedState).length + 1) = after :=
      fun after => by rw [drop_append]; simp
    have hmark : 0x2E ∉ platform.signature input.secret
        (platform.payload input.toInstagramSealedState) := mark_notMem_encode _
    unfold openInstagramState
    dsimp only
    rw [hthere]
    dsimp only
    rw [lastIndexOf?_append _ hmark]
    dsimp only
    rw [if_neg (fun hlength => hpayload (length_eq_zero_iff.mp hlength)), take_left,
      hdrop, digestsMatch, if_pos (beq_self_eq_true _), parse_payload]
    exact readSealedState_fields hinstant
  · cases h

theorem of_openInstagramState {sealed : Option Utf16} {secret : Utf16}
    {opened : InstagramSealedState} (h : platform.openInstagramState sealed secret = some opened) :
    ∃ encoded signature, sealed = some (encoded ++ 0x2E :: signature) ∧
      platform.digestsMatch signature (platform.signature secret encoded) := by
  unfold openInstagramState at h
  split at h
  · cases h
  · next text htext =>
    split at h
    · cases h
    · next position hposition =>
      split at h
      · cases h
      · dsimp only at h
        split at h
        · next hmatch =>
          refine ⟨_, _, ?_, hmatch⟩
          rw [← eq_of_lastIndexOf? hposition]
          exact (truthy?_eq_some.mp htext).1
        · cases h

/-- A callback that may go on has been told the state that is stored, in time, and has a
code. -/
theorem of_evaluateInstagramCallback {input : InstagramCallback} {code : Utf16}
    (h : platform.evaluateInstagramCallback input = .ok code) :
    ∃ storedState receivedState, input.storedState = some storedState ∧
      input.receivedState = some receivedState ∧
      platform.digestsMatch storedState.state receivedState ∧
      input.now < storedState.expiresAt ∧ input.code = some code := by
  unfold evaluateInstagramCallback at h
  split at h
  · next storedState receivedState hstored hreceived =>
    split_ifs at h with hstate hconsumed hexpired
    split at h
    · split at h <;> cases h
    · split at h
      · cases h
      · next found hcode =>
        cases h
        exact ⟨storedState, receivedState, hstored, (truthy?_eq_some.mp hreceived).1,
          eq_true_of_ne_false hstate, not_le.mp hexpired, (truthy?_eq_some.mp hcode).1⟩
  · cases h

end Platform

theorem of_instagramReconnectSatisfied {expected returned : Utf16} (hne : expected ≠ [])
    (h : instagramReconnectSatisfied (some expected) returned) : expected = returned := by
  unfold instagramReconnectSatisfied at h
  rw [truthy?_eq_some.mpr ⟨rfl, hne⟩] at h
  exact beq_iff_eq.mp h

end ContentAutomation
