import ContentAutomation.Jobs.Database
import ContentAutomation.Library.Transition
import Mathlib.Data.List.Nodup

/-!
# The concurrency gate of the providers

Calls to a provider share two limits, one for all providers and one for each. Who finds no
room waits in a single queue; a permit that is given back, like a new arrival, lets the queue
be walked from its front.
-/

namespace ContentAutomation

open List Function

/-! ### Limits -/

/-- `concurrencyError`. -/
def concurrencyError (code : String) : JobError := conflictError code

/-- `validateLimit`; the safe integers include these. -/
def isConcurrencyLimit (value : ℤ) : Bool := 1 ≤ value && value ≤ 1000

/-- `safeProviderPattern`. -/
def isSafeProvider (provider : String) : Bool :=
  Text.leadingThenBounded Text.isLower isSnakeCharacter 63 provider

/-- The options of a gate. -/
structure ProviderConcurrencyOptions where
  globalLimit : ℤ
  /-- The entries of `providerLimits`. -/
  providerLimits : List (String × ℤ)

/-- The limits of a gate that has been created. -/
structure ConcurrencyLimits where
  globalLimit : ℤ
  providerLimits : String → Option ℤ
  global_valid : isConcurrencyLimit globalLimit = true
  provider_valid : ∀ provider limit, providerLimits provider = some limit →
    isConcurrencyLimit limit = true

namespace ConcurrencyLimits

/-- Set the limit of a provider. -/
def set (limits : ConcurrencyLimits) (provider : String) (limit : ℤ)
    (hlimit : isConcurrencyLimit limit = true) : ConcurrencyLimits :=
  { limits with
    providerLimits := update limits.providerLimits provider (some limit)
    provider_valid := by
      intro other value hvalue
      by_cases heq : other = provider
      · subst heq
        rw [update_self] at hvalue
        rwa [← Option.some.inj hvalue]
      · rw [update_of_ne heq] at hvalue
        exact limits.provider_valid other value hvalue }

/-- Set the limits of the entries, one after another. -/
def setAll (limits : ConcurrencyLimits) : List (String × ℤ) → Except JobError ConcurrencyLimits
  | [] => .ok limits
  | (provider, limit) :: entries =>
    if isSafeProvider provider then
      if hlimit : isConcurrencyLimit limit = true then
        (limits.set provider limit hlimit).setAll entries
      else .error (concurrencyError "JOB_CONCURRENCY_LIMIT_INVALID")
    else .error (concurrencyError "JOB_PROVIDER_INVALID")

/-- The limits that `createProviderConcurrencyGate` accepts. -/
def create (options : ProviderConcurrencyOptions) : Except JobError ConcurrencyLimits :=
  if hglobal : isConcurrencyLimit options.globalLimit = true then
    setAll ⟨options.globalLimit, fun _ => none, hglobal, by simp⟩ options.providerLimits
  else .error (concurrencyError "JOB_CONCURRENCY_LIMIT_INVALID")

end ConcurrencyLimits

variable {entries : List (String × ℤ)}

private theorem ConcurrencyLimits.global_setAll {limits created : ConcurrencyLimits}
    (h : limits.setAll entries = .ok created) :
    created.globalLimit = limits.globalLimit := by
  induction entries generalizing limits with
  | nil =>
    rw [← Except.ok.inj h]
  | cons entry entries ih =>
    unfold setAll at h
    split at h
    · split at h
      · exact (ih h :)
      · cases h
    · cases h

private theorem ConcurrencyLimits.provider_setAll {limits created : ConcurrencyLimits}
    (h : limits.setAll entries = .ok created) {provider : String}
    {limit : ℤ} (hlimit : created.providerLimits provider = some limit) :
    limits.providerLimits provider = some limit ∨ (provider, limit) ∈ entries := by
  induction entries generalizing limits with
  | nil =>
    rw [Except.ok.inj h]
    exact .inl hlimit
  | cons entry entries ih =>
    unfold setAll at h
    split at h
    · split at h
      · rcases ih h with hset | hentry
        · have hupdate : update limits.providerLimits entry.1 (some entry.2) provider =
              some limit := hset
          by_cases heq : provider = entry.1
          · subst heq
            rw [update_self] at hupdate
            rw [← Option.some.inj hupdate]
            exact .inr mem_cons_self
          · rw [update_of_ne heq] at hupdate
            exact .inl hupdate
        · exact .inr (mem_cons_of_mem _ hentry)
      · cases h
    · cases h

theorem ConcurrencyLimits.of_create {options : ProviderConcurrencyOptions}
    {limits : ConcurrencyLimits} (h : create options = .ok limits) :
    limits.globalLimit = options.globalLimit ∧ ∀ provider limit,
      limits.providerLimits provider = some limit → (provider, limit) ∈ options.providerLimits := by
  unfold create at h
  split at h
  · refine ⟨global_setAll h, fun provider limit hlimit => ?_⟩
    exact (provider_setAll h hlimit).resolve_left nofun
  · cases h

/-! ### The gate -/

/-- A call of `acquire`: `PendingPermit`, with its place in the order of the calls. -/
structure PendingPermit where
  call : ℕ
  provider : String
  signal : Option ℕ
  deriving DecidableEq

/-- A gate, together with what its callers have seen of it. -/
structure ProviderConcurrencyGate where
  activeGlobal : ℤ
  activeByProvider : String → Option ℤ
  pending : List PendingPermit
  /-- The listeners for `abort` that are registered. -/
  listeners : List PendingPermit
  /-- The listeners of an `abort` that is being dispatched. -/
  firing : List PendingPermit
  /-- The signals that are aborted. -/
  aborted : List ℕ
  /-- How often `acquire` has been called. -/
  calls : ℕ
  /-- The calls whose promise was resolved with a permit, in this order. -/
  granted : List PendingPermit
  /-- The calls whose permit was used. -/
  released : List ℕ
  /-- The calls whose promise was rejected, and with what. -/
  rejected : List (ℕ × JobError)

/-- What a caller does, or the runtime on its behalf. -/
inductive GateEvent
  /-- `acquire`, with or without a signal. -/
  | acquire (provider : String) (signal : Option ℕ)
  /-- The `abort` of a signal begins. -/
  | abort (signal : ℕ)
  /-- The next listener of an `abort` runs. -/
  | fire
  /-- The permit of a call is used. -/
  | release (call : ℕ)

namespace ProviderConcurrencyGate

def start : ProviderConcurrencyGate where
  activeGlobal := 0
  activeByProvider := fun _ => none
  pending := []
  listeners := []
  firing := []
  aborted := []
  calls := 0
  granted := []
  released := []
  rejected := []

variable (limits : ConcurrencyLimits) (gate : ProviderConcurrencyGate)

/-- `request.signal?.aborted`. -/
def isAborted (signal : Option ℕ) : Bool := signal.any gate.aborted.contains

/-- `activeByProvider.get(provider) ?? 0`. -/
def providerActive (provider : String) : ℤ := (gate.activeByProvider provider).getD 0

/-- The promise of a call is rejected. -/
def reject (call : ℕ) (code : String) : ProviderConcurrencyGate :=
  { gate with rejected := gate.rejected ++ [(call, concurrencyError code)] }

/-- The promise of a request is resolved, and its listener removed. -/
def grant (request : PendingPermit) : ProviderConcurrencyGate :=
  { gate with
    activeGlobal := gate.activeGlobal + 1
    activeByProvider := update gate.activeByProvider request.provider
      (some (gate.providerActive request.provider + 1))
    listeners := gate.listeners.filter (· ≠ request)
    firing := gate.firing.filter (· ≠ request)
    granted := gate.granted ++ [request] }

/-- The loop of `drain`, from the request at its index on; those before it stay. -/
def drainFrom (gate : ProviderConcurrencyGate) (kept : List PendingPermit) :
    List PendingPermit → ProviderConcurrencyGate
  | [] => { gate with pending := kept }
  | request :: rest =>
    if limits.globalLimit ≤ gate.activeGlobal then
      { gate with pending := kept ++ request :: rest }
    else if gate.isAborted request.signal then
      drainFrom (gate.reject request.call "JOB_CONCURRENCY_ABORTED") kept rest
    else
      match limits.providerLimits request.provider with
      | none => drainFrom gate (kept ++ [request]) rest
      | some limit =>
        if limit ≤ gate.providerActive request.provider then
          drainFrom gate (kept ++ [request]) rest
        else drainFrom (gate.grant request) kept rest

/-- `drain`. -/
def drain : ProviderConcurrencyGate :=
  if limits.globalLimit ≤ gate.activeGlobal then gate
  else gate.drainFrom limits [] gate.pending

/-- `acquire`. -/
def acquire (provider : String) (signal : Option ℕ) : ProviderConcurrencyGate :=
  let request : PendingPermit := ⟨gate.calls, provider, signal⟩
  let gate := { gate with calls := gate.calls + 1 }
  if (limits.providerLimits provider).isNone then
    gate.reject request.call "JOB_PROVIDER_UNCONFIGURED"
  else if gate.isAborted signal then gate.reject request.call "JOB_CONCURRENCY_ABORTED"
  else
    { gate with
      pending := gate.pending ++ [request]
      listeners := gate.listeners ++ if signal.isSome then [request] else [] }.drain limits

/-- The `abort` of a signal: its listeners, each of which runs once, are about to run. -/
def abort (signal : ℕ) : ProviderConcurrencyGate :=
  if gate.aborted.contains signal then gate
  else
    { gate with
      aborted := signal :: gate.aborted
      listeners := gate.listeners.filter (·.signal ≠ some signal)
      firing := gate.firing ++ gate.listeners.filter (·.signal = some signal) }

/-- The listener of a request: it leaves the queue, if it still waits there. -/
def abortRequest (request : PendingPermit) : ProviderConcurrencyGate :=
  if request ∈ gate.pending then
    { gate with pending := gate.pending.erase request }.reject request.call
      "JOB_CONCURRENCY_ABORTED"
  else gate

/-- The place of a request is given back. -/
def giveBack (request : PendingPermit) : ProviderConcurrencyGate :=
  let remaining := (gate.activeByProvider request.provider).getD 1 - 1
  { gate with
    released := request.call :: gate.released
    activeGlobal := gate.activeGlobal - 1
    activeByProvider := update gate.activeByProvider request.provider
      (if remaining = 0 then none else some remaining) }

/-- The permit of a request is used: its place is given back, once. -/
def release (request : PendingPermit) : ProviderConcurrencyGate :=
  if gate.released.contains request.call then gate else (gate.giveBack request).drain limits

/-- The gate after an event, if it can happen. -/
def next : GateEvent → Option ProviderConcurrencyGate
  | .acquire provider signal => some (gate.acquire limits provider signal)
  | .abort signal => some (gate.abort signal)
  | .fire =>
    match gate.firing with
    | [] => none
    | request :: firing => some ({ gate with firing }.abortRequest request)
  | .release call => (gate.granted.find? (·.call = call)).map (gate.release limits)

/-- The steps of a gate. -/
def Step (limits : ConcurrencyLimits) (gate : ProviderConcurrencyGate) (event : GateEvent)
    (gate' : ProviderConcurrencyGate) : Prop := gate.next limits event = some gate'

/-! ### What holds of a gate -/

def outstanding : List PendingPermit := gate.granted.filter fun request =>
  request.call ∉ gate.released

/-- The calls that hold a permit of a provider. -/
def outstandingOf (provider : String) : List PendingPermit :=
  gate.outstanding.filter (·.provider = provider)

/-- There is no room for a provider. -/
def Full (provider : String) : Prop :=
  limits.globalLimit ≤ gate.activeGlobal ∨
    ∀ limit, limits.providerLimits provider = some limit → limit ≤ gate.providerActive provider

/-- What holds of a gate, and inside of a loop of `drain`: the counters count the permits,
within the limits; the calls are told apart, and those of a provider are granted in order; and
whoever waits is heard when its signal is aborted. -/
structure Sound (limits : ConcurrencyLimits) (gate : ProviderConcurrencyGate) : Prop where
  global : gate.activeGlobal = gate.outstanding.length
  provider : ∀ provider, gate.activeByProvider provider =
    if gate.outstandingOf provider = [] then none
    else some ((gate.outstandingOf provider).length : ℤ)
  globalBound : gate.activeGlobal ≤ limits.globalLimit
  providerBound : ∀ provider, gate.outstandingOf provider ≠ [] →
    ∃ limit, limits.providerLimits provider = some limit ∧ gate.providerActive provider ≤ limit
  configured : ∀ request ∈ gate.pending, (limits.providerLimits request.provider).isSome
  distinct : ((gate.granted ++ gate.pending).map PendingPermit.call).Nodup
  called : ∀ request ∈ gate.granted ++ gate.pending, request.call < gate.calls
  ordered : ∀ provider, ((gate.granted ++ gate.pending).filter (·.provider = provider)).Pairwise
    (·.call < ·.call)
  used : ∀ call ∈ gate.released, ∃ request ∈ gate.granted, request.call = call
  heard : ∀ request ∈ gate.pending, ∀ signal, request.signal = some signal →
    if signal ∈ gate.aborted then request ∈ gate.firing else request ∈ gate.listeners

/-- The invariant of a gate: it is sound, and no one waits for whom there is room. -/
structure Inv (limits : ConcurrencyLimits) (gate : ProviderConcurrencyGate) : Prop
    extends gate.Sound limits where
  busy : ∀ request ∈ gate.pending, gate.Full limits request.provider

variable {limits : ConcurrencyLimits} {gate gate' : ProviderConcurrencyGate}
  {request other : PendingPermit} {kept rest : List PendingPermit} {event : GateEvent}
  {permits : List PendingPermit}

private theorem Sound.providerActive (h : gate.Sound limits) (provider : String) :
    gate.providerActive provider = (gate.outstandingOf provider).length := by
  unfold ProviderConcurrencyGate.providerActive
  rw [h.provider]
  split
  · next hempty => simp [hempty]
  · rfl

private theorem eq_of_call (hdistinct : (permits.map PendingPermit.call).Nodup)
    (hrequest : request ∈ permits) (hother : other ∈ permits) (h : request.call = other.call) :
    request = other :=
  inj_on_of_nodup_map hdistinct hrequest hother h

private theorem Sound.not_granted (h : gate.Sound limits) (hpending : request ∈ gate.pending)
    (hgranted : other ∈ gate.granted) : other.call ≠ request.call := by
  have hdistinct := h.distinct
  rw [map_append, nodup_append] at hdistinct
  exact hdistinct.2.2 _ (mem_map_of_mem hgranted) _ (mem_map_of_mem hpending)

private theorem Sound.of_sublist (h : gate.Sound limits) {pending : List PendingPermit}
    (hsublist : pending.Sublist gate.pending) : { gate with pending }.Sound limits where
  global := h.global
  provider := h.provider
  globalBound := h.globalBound
  providerBound := h.providerBound
  configured := fun request hrequest => h.configured request (hsublist.subset hrequest)
  distinct := ((List.Sublist.refl gate.granted).append hsublist).map _ |>.nodup h.distinct
  called := fun request hrequest =>
    h.called request (((List.Sublist.refl gate.granted).append hsublist).subset hrequest)
  ordered := fun provider =>
    (h.ordered provider).sublist (((List.Sublist.refl gate.granted).append hsublist).filter _)
  used := h.used
  heard := fun request hrequest => h.heard request (hsublist.subset hrequest)

private theorem Sound.reject (h : gate.Sound limits) (call : ℕ) (code : String) :
    (gate.reject call code).Sound limits :=
  ⟨h.global, h.provider, h.globalBound, h.providerBound, h.configured, h.distinct, h.called,
    h.ordered, h.used, h.heard⟩

/-! ### A grant -/

private theorem outstanding_grant (hfresh : request.call ∉ gate.released) :
    (gate.grant request).outstanding = gate.outstanding ++ [request] := by
  have hkept : ([request].filter fun request => request.call ∉ gate.released) = [request] := by
    simpa using hfresh
  unfold outstanding grant
  rw [filter_append, hkept]

private theorem outstandingOf_grant (hfresh : request.call ∉ gate.released) (provider : String) :
    (gate.grant request).outstandingOf provider =
      gate.outstandingOf provider ++ if request.provider = provider then [request] else [] := by
  unfold outstandingOf
  rw [outstanding_grant hfresh, filter_append]
  split <;> simp_all

/-- A loop of `drain` may grant a request for which there is room, if those before it that stay
find none. -/
theorem Sound.grant {limit : ℤ}
    (h : { gate with pending := kept ++ request :: rest }.Sound limits)
    (hkept : ∀ other ∈ kept, ∀ limit, limits.providerLimits other.provider = some limit →
      limit ≤ gate.providerActive other.provider)
    (hglobal : gate.activeGlobal < limits.globalLimit)
    (hlimit : limits.providerLimits request.provider = some limit)
    (hroom : gate.providerActive request.provider < limit) :
    { gate.grant request with pending := kept ++ rest }.Sound limits := by
  have hactive : ∀ provider, gate.providerActive provider = (gate.outstandingOf provider).length :=
    h.providerActive
  have hmem : request ∈ kept ++ request :: rest := by simp
  have hfresh : request.call ∉ gate.released := by
    intro hused
    obtain ⟨other, hother, hcall⟩ := h.used _ hused
    exact h.not_granted hmem hother hcall
  -- the requests that stay are of other providers
  have hkeptOther : ∀ other ∈ kept, other.provider ≠ request.provider := by
    intro other hother heq
    have hfull := hkept other hother limit (heq ▸ hlimit)
    rw [heq] at hfull
    exact absurd hfull (not_le.mpr hroom)
  have hperm : (gate.granted ++ [request] ++ (kept ++ rest)).Perm
      (gate.granted ++ (kept ++ request :: rest)) := by
    rw [append_assoc, singleton_append]
    exact Perm.append_left _ perm_middle.symm
  refine ⟨?_, ?_, ?_, ?_, ?_, ?_, ?_, ?_, ?_, ?_⟩
  · have hcount : gate.activeGlobal = gate.outstanding.length := h.global
    show gate.activeGlobal + 1 = ((gate.grant request).outstanding.length : ℤ)
    rw [outstanding_grant hfresh, hcount]
    simp
  · intro provider
    show update gate.activeByProvider request.provider _ provider =
      if (gate.grant request).outstandingOf provider = [] then none
      else some (((gate.grant request).outstandingOf provider).length : ℤ)
    rw [outstandingOf_grant hfresh]
    by_cases heq : provider = request.provider
    · subst heq
      rw [update_self, hactive]
      simp
    · rw [update_of_ne heq, if_neg (Ne.symm heq), append_nil]
      exact h.provider provider
  · exact hglobal
  · intro provider
    show (gate.grant request).outstandingOf provider ≠ [] →
      ∃ limit, limits.providerLimits provider = some limit ∧
        (update gate.activeByProvider request.provider _ provider).getD 0 ≤ limit
    rw [outstandingOf_grant hfresh]
    intro hsome
    by_cases heq : provider = request.provider
    · subst heq
      rw [update_self]
      exact ⟨limit, hlimit, hroom⟩
    · rw [if_neg (Ne.symm heq), append_nil] at hsome
      rw [update_of_ne heq]
      exact h.providerBound provider hsome
  · intro other hother
    refine h.configured other ?_
    rcases mem_append.mp hother with hleft | hright
    · exact mem_append_left _ hleft
    · exact mem_append_right _ (mem_cons_of_mem _ hright)
  · exact (hperm.map _).nodup_iff.mpr h.distinct
  · intro other hother
    exact h.called other (hperm.mem_iff.mp hother)
  · intro provider
    have hordered := h.ordered provider
    have hsame : ((gate.granted ++ [request] ++ (kept ++ rest)).filter
          (·.provider = provider)) =
        (gate.granted ++ (kept ++ request :: rest)).filter (·.provider = provider) := by
      by_cases heq : request.provider = provider
      · have hnone : kept.filter (·.provider = provider) = [] := by
          apply filter_eq_nil_iff.mpr
          intro other hother
          simpa [heq] using hkeptOther other hother
        simp [filter_append, hnone, heq]
      · simp [filter_append, heq]
    show ((gate.granted ++ [request] ++ (kept ++ rest)).filter (·.provider = provider)).Pairwise _
    rw [hsame]
    exact hordered
  · intro call hcall
    obtain ⟨other, hother, hused⟩ := h.used call hcall
    exact ⟨other, mem_append_left _ hother, hused⟩
  · intro other hother signal hsignal
    have hne : other ≠ request := by
      rintro rfl
      have hdistinct := h.distinct
      rw [← (hperm.map PendingPermit.call).nodup_iff, map_append, nodup_append]
        at hdistinct
      exact hdistinct.2.2 other.call (by simp) _ (mem_map_of_mem hother) rfl
    have hwaits : other ∈ kept ++ request :: rest := by
      rcases mem_append.mp hother with hleft | hright
      · exact mem_append_left _ hleft
      · exact mem_append_right _ (mem_cons_of_mem _ hright)
    have hheard := h.heard other hwaits signal hsignal
    show if signal ∈ gate.aborted then other ∈ gate.firing.filter (· ≠ request)
      else other ∈ gate.listeners.filter (· ≠ request)
    have hheard' : if signal ∈ gate.aborted then other ∈ gate.firing
      else other ∈ gate.listeners := hheard
    split at hheard'
    · next haborted =>
      rw [if_pos haborted]
      exact mem_filter.mpr ⟨hheard', by simpa using hne⟩
    · next haborted =>
      rw [if_neg haborted]
      exact mem_filter.mpr ⟨hheard', by simpa using hne⟩

/-! ### The loop -/

/-- **The rule of `drain`.** When its loop has walked the rest of the queue, no one waits for
whom there is room. The requests before its index stay because their providers are full, and
they stay so, as no permit is given back meanwhile. -/
theorem Sound.drainFrom (h : { gate with pending := kept ++ rest }.Sound limits)
    (hkept : ∀ other ∈ kept, ∀ limit, limits.providerLimits other.provider = some limit →
      limit ≤ gate.providerActive other.provider) :
    (gate.drainFrom limits kept rest).Inv limits := by
  induction rest generalizing gate kept with
  | nil =>
    rw [append_nil] at h
    exact ⟨h, fun other hother => .inr (hkept other hother)⟩
  | cons request rest ih =>
    have hassoc : kept ++ request :: rest = kept ++ [request] ++ rest := by simp
    unfold ProviderConcurrencyGate.drainFrom
    split
    · next hfull => exact ⟨h, fun _ _ => .inl hfull⟩
    · next hroom =>
      split
      · have hsublist : (kept ++ rest).Sublist (kept ++ request :: rest) :=
          (List.Sublist.refl kept).append (sublist_cons_self request rest)
        exact ih ((h.of_sublist hsublist).reject request.call _) hkept
      · split
        · next hnone =>
          rw [hassoc] at h
          refine ih h fun other hother limit hlimit => ?_
          rcases mem_append.mp hother with hold | hnew
          · exact hkept other hold limit hlimit
          · rw [mem_singleton.mp hnew, hnone] at hlimit
            cases hlimit
        · next limit hsome =>
          split
          · next hfull =>
            rw [hassoc] at h
            refine ih h fun other hother limit' hlimit' => ?_
            rcases mem_append.mp hother with hold | hnew
            · exact hkept other hold limit' hlimit'
            · rw [mem_singleton.mp hnew] at hlimit' ⊢
              rw [hsome] at hlimit'
              exact Option.some.inj hlimit' ▸ hfull
          · next hfree =>
            refine ih (h.grant hkept (not_le.mp hroom) hsome (not_le.mp hfree)) ?_
            intro other hother limit' hlimit'
            refine le_trans (hkept other hother limit' hlimit') ?_
            -- a grant takes no permit away
            show gate.providerActive other.provider ≤
              (update gate.activeByProvider request.provider _ other.provider).getD 0
            by_cases heq : other.provider = request.provider
            · rw [heq, update_self]
              exact (lt_add_one _).le
            · rw [update_of_ne heq]
              rfl

private theorem Sound.drain (h : gate.Sound limits) : (gate.drain limits).Inv limits := by
  unfold ProviderConcurrencyGate.drain
  split
  · next hfull => exact ⟨h, fun _ _ => .inl hfull⟩
  · exact Sound.drainFrom h fun _ hnone => by cases hnone

/-- Whoever is granted in a loop of `drain` has not aborted. -/
theorem granted_drainFrom (gate : ProviderConcurrencyGate) (kept rest : List PendingPermit)
    (h : request ∈ (gate.drainFrom limits kept rest).granted) :
    request ∈ gate.granted ∨ gate.isAborted request.signal = false := by
  induction rest generalizing gate kept with
  | nil => exact .inl h
  | cons head rest ih =>
    unfold drainFrom at h
    split at h
    · exact .inl h
    · split at h
      · exact ih (gate.reject head.call _) _ h
      · next hlive =>
        split at h
        · exact ih _ _ h
        · split at h
          · exact ih _ _ h
          · rcases ih _ _ h with hgranted | hgranted
            · rcases mem_append.mp hgranted with hold | hnew
              · exact .inl hold
              · rw [mem_singleton.mp hnew]
                exact .inr (Bool.not_eq_true _ ▸ hlive)
            · exact .inr hgranted

/-- A loop of `drain` aborts no signal and uses no permit. -/
theorem kept_drainFrom (gate : ProviderConcurrencyGate) (kept rest : List PendingPermit) :
    (gate.drainFrom limits kept rest).aborted = gate.aborted ∧
      (gate.drainFrom limits kept rest).released = gate.released := by
  induction rest generalizing gate kept with
  | nil => exact ⟨rfl, rfl⟩
  | cons head rest ih =>
    unfold drainFrom
    split
    · exact ⟨rfl, rfl⟩
    · split
      · exact ih _ _
      · split
        · exact ih _ _
        · split
          · exact ih _ _
          · exact ih _ _

/-! ### The events -/

/-- A call of `acquire` keeps the invariant. -/
theorem Inv.acquire (h : gate.Inv limits) (provider : String) (signal : Option ℕ) :
    (gate.acquire limits provider signal).Inv limits := by
  have hcalled : ∀ other ∈ gate.granted ++ gate.pending, other.call < gate.calls + 1 :=
    fun other hother => Nat.lt_succ_of_lt (h.called other hother)
  have hrejected : ∀ code, (({ gate with calls := gate.calls + 1 }).reject gate.calls code).Inv
      limits := fun code =>
    ⟨⟨h.global, h.provider, h.globalBound, h.providerBound, h.configured, h.distinct, hcalled,
      h.ordered, h.used, h.heard⟩, h.busy⟩
  unfold ProviderConcurrencyGate.acquire
  dsimp only
  split
  · exact hrejected _
  · next hconfigured =>
    split
    · exact hrejected _
    · next hlive =>
      apply Sound.drain
      have hlast : ∀ other ∈ gate.granted ++ gate.pending, other.call < gate.calls := h.called
      refine ⟨h.global, h.provider, h.globalBound, h.providerBound, ?_, ?_, ?_, ?_, h.used, ?_⟩
      · intro other hother
        rcases mem_append.mp hother with hold | hnew
        · exact h.configured other hold
        · rw [mem_singleton.mp hnew]
          exact Option.isSome_iff_ne_none.mpr fun hnone => hconfigured (by simp [hnone])
      · rw [← append_assoc, map_append, nodup_append]
        refine ⟨h.distinct, nodup_singleton _, ?_⟩
        intro call hcall other hother heq
        obtain ⟨request, hrequest, rfl⟩ := mem_map.mp hcall
        have hnew : other = gate.calls := by simpa using hother
        exact absurd (hlast request hrequest) (by omega)
      · intro other hother
        rw [← append_assoc] at hother
        rcases mem_append.mp hother with hold | hnew
        · exact hcalled other hold
        · rw [mem_singleton.mp hnew]
          exact Nat.lt_succ_self _
      · intro provider
        rw [← append_assoc, filter_append, pairwise_append]
        refine ⟨h.ordered provider, ?_, ?_⟩
        · exact (pairwise_singleton _ _).sublist filter_sublist
        · intro old hold new hnew
          have hnew' := mem_singleton.mp (mem_filter.mp hnew).1
          rw [hnew']
          exact hlast old (mem_filter.mp hold).1
      · intro other hother value hvalue
        rcases mem_append.mp hother with hold | hnew
        · have hheard := h.heard other hold value hvalue
          dsimp only
          split at hheard
          · next haborted => rwa [if_pos haborted]
          · next haborted =>
            rw [if_neg haborted]
            exact mem_append_left _ hheard
        · -- the new request listens, as its signal is not aborted
          have hother' := mem_singleton.mp hnew
          subst hother'
          have hsignal : signal = some value := hvalue
          have hnot : value ∉ gate.aborted := by
            simpa [isAborted, hsignal] using hlive
          dsimp only
          rw [if_neg hnot, hsignal]
          exact mem_append_right _ (mem_singleton_self _)

/-- The beginning of an `abort` keeps the invariant. -/
theorem Inv.abort (h : gate.Inv limits) (signal : ℕ) : (gate.abort signal).Inv limits := by
  unfold ProviderConcurrencyGate.abort
  split
  · exact h
  · next hfresh =>
    refine ⟨⟨h.global, h.provider, h.globalBound, h.providerBound, h.configured, h.distinct,
      h.called, h.ordered, h.used, ?_⟩, h.busy⟩
    intro other hother value hvalue
    have hheard := h.heard other hother value hvalue
    by_cases heq : value = signal
    · subst heq
      rw [if_neg (by simpa using hfresh)] at hheard
      rw [if_pos mem_cons_self]
      exact mem_append_right _ (mem_filter.mpr ⟨hheard, by simpa using hvalue⟩)
    · split at hheard
      · next haborted =>
        rw [if_pos (mem_cons_of_mem _ haborted)]
        exact mem_append_left _ hheard
      · next haborted =>
        rw [if_neg (by simpa [heq] using haborted)]
        exact mem_filter.mpr ⟨hheard, by simpa [hvalue] using heq⟩

/-- A listener that runs keeps the invariant. -/
theorem Inv.fire (h : gate.Inv limits) {firing : List PendingPermit}
    (hfiring : gate.firing = request :: firing) :
    ({ gate with firing }.abortRequest request).Inv limits := by
  have hdistinct : gate.pending.Nodup := by
    have hcalls := h.distinct
    rw [map_append, nodup_append] at hcalls
    exact hcalls.2.1.of_map
  have hheard : ∀ other ∈ gate.pending, other ≠ request → ∀ signal, other.signal = some signal →
      if signal ∈ gate.aborted then other ∈ firing else other ∈ gate.listeners := by
    intro other hother hne signal hsignal
    have hheard := h.heard other hother signal hsignal
    split at hheard
    · next haborted =>
      rw [if_pos haborted]
      rw [hfiring] at hheard
      exact (mem_cons.mp hheard).resolve_left hne
    · next haborted => rwa [if_neg haborted]
  unfold abortRequest
  split
  · have hsound := h.toSound.of_sublist (erase_sublist (a := request) (l := gate.pending))
    refine ⟨⟨hsound.global, hsound.provider, hsound.globalBound, hsound.providerBound,
      hsound.configured, hsound.distinct, hsound.called, hsound.ordered, hsound.used, ?_⟩, ?_⟩
    · intro other hother
      have hmem := (hdistinct.mem_erase_iff).mp hother
      exact hheard other hmem.2 hmem.1
    · intro other hother
      exact h.busy other (mem_of_mem_erase hother)
  · next habsent =>
    refine ⟨⟨h.global, h.provider, h.globalBound, h.providerBound, h.configured, h.distinct,
      h.called, h.ordered, h.used, ?_⟩, h.busy⟩
    intro other hother
    refine hheard other hother ?_
    rintro rfl
    exact habsent hother

private theorem length_filter_call_ne (hdistinct : (permits.map PendingPermit.call).Nodup)
    (hmem : request ∈ permits) :
    (permits.filter (·.call ≠ request.call)).length + 1 = permits.length := by
  induction permits with
  | nil => cases hmem
  | cons head permits ih =>
    rw [map_cons, nodup_cons] at hdistinct
    rcases mem_cons.mp hmem with heq | htail
    · subst heq
      have hrest : permits.filter (·.call ≠ request.call) = permits := by
        apply filter_eq_self.mpr
        intro other hother
        have hne : other.call ≠ request.call :=
          fun heq => hdistinct.1 (heq ▸ mem_map_of_mem hother)
        simpa using hne
      rw [filter_cons_of_neg (by simp), hrest, length_cons]
    · have hne : head.call ≠ request.call :=
        fun heq => hdistinct.1 (heq ▸ mem_map_of_mem htail)
      rw [filter_cons_of_pos (by simpa using hne), length_cons, length_cons,
        ih hdistinct.2 htail]

private theorem outstanding_giveBack : (gate.giveBack request).outstanding =
    gate.outstanding.filter (·.call ≠ request.call) := by
  unfold outstanding giveBack
  rw [filter_filter]
  apply filter_congr
  intro other _
  simp

private theorem outstandingOf_giveBack (provider : String) :
    (gate.giveBack request).outstandingOf provider =
    (gate.outstandingOf provider).filter (·.call ≠ request.call) := by
  unfold outstandingOf
  rw [outstanding_giveBack, filter_comm]

/-- A place that is given back the first time leaves the gate sound. -/
theorem Sound.giveBack (h : gate.Sound limits) (hgranted : request ∈ gate.granted)
    (hfresh : request.call ∉ gate.released) : (gate.giveBack request).Sound limits := by
  have hcalls : (gate.granted.map PendingPermit.call).Nodup := by
    have hdistinct := h.distinct
    rw [map_append, nodup_append] at hdistinct
    exact hdistinct.1
  have hnodup : (gate.outstanding.map PendingPermit.call).Nodup :=
    hcalls.sublist (filter_sublist.map _)
  have hmem : request ∈ gate.outstanding := mem_filter.mpr ⟨hgranted, by simpa using hfresh⟩
  -- at its own provider there is one permit fewer, and at every other as many as before
  have hself : ((gate.outstandingOf request.provider).filter (·.call ≠ request.call)).length + 1 =
      (gate.outstandingOf request.provider).length :=
    length_filter_call_ne (hnodup.sublist (filter_sublist.map _))
      (mem_filter.mpr ⟨hmem, by simp⟩)
  have hothers : ∀ provider, provider ≠ request.provider →
      (gate.outstandingOf provider).filter (·.call ≠ request.call) =
        gate.outstandingOf provider := by
    intro provider hne
    apply filter_eq_self.mpr
    intro other hother
    obtain ⟨hout, hof⟩ := mem_filter.mp hother
    have hcall : other.call ≠ request.call := by
      intro heq
      rw [eq_of_call hnodup hout hmem heq] at hof
      exact hne (of_decide_eq_true hof).symm
    simpa using hcall
  have hcounter : gate.activeByProvider request.provider =
      some ((gate.outstandingOf request.provider).length : ℤ) := by
    rw [h.provider]
    split
    · next hempty =>
      rw [hempty] at hself
      exact absurd hself (by simp)
    · rfl
  refine ⟨?_, ?_, ?_, ?_, h.configured, h.distinct, h.called, h.ordered, ?_, h.heard⟩
  · have hcount := length_filter_call_ne hnodup hmem
    have hglobal := h.global
    show gate.activeGlobal - 1 = ((gate.giveBack request).outstanding.length : ℤ)
    rw [outstanding_giveBack]
    omega
  · intro provider
    rw [outstandingOf_giveBack]
    show update gate.activeByProvider request.provider _ provider = _
    by_cases heq : provider = request.provider
    · subst heq
      rw [update_self, hcounter, Option.getD_some, ← hself]
      generalize (gate.outstandingOf request.provider).filter (·.call ≠ request.call) = left
      have hremaining : ((left.length + 1 : ℕ) : ℤ) - 1 = left.length := by omega
      rw [hremaining]
      cases left with
      | nil => rfl
      | cons head left =>
        rw [if_neg (by simp; omega), if_neg (cons_ne_nil _ _)]
    · rw [update_of_ne heq, hothers provider heq]
      exact h.provider provider
  · have hbound := h.globalBound
    show gate.activeGlobal - 1 ≤ limits.globalLimit
    omega
  · intro provider hsome
    rw [outstandingOf_giveBack] at hsome
    show ∃ limit, limits.providerLimits provider = some limit ∧
      (update gate.activeByProvider request.provider _ provider).getD 0 ≤ limit
    by_cases heq : provider = request.provider
    · subst heq
      have hpositive := length_pos_iff.mpr hsome
      have hnonempty : gate.outstandingOf request.provider ≠ [] := by
        apply length_pos_iff.mp
        omega
      obtain ⟨limit, hlimit, hbound⟩ := h.providerBound request.provider hnonempty
      rw [h.providerActive] at hbound
      refine ⟨limit, hlimit, ?_⟩
      rw [update_self, hcounter, Option.getD_some, if_neg (by omega), Option.getD_some]
      omega
    · rw [hothers provider heq] at hsome
      rw [update_of_ne heq]
      exact h.providerBound provider hsome
  · intro call hcall
    rcases mem_cons.mp hcall with rfl | hold
    · exact ⟨request, hgranted, rfl⟩
    · exact h.used call hold

private theorem Inv.release (h : gate.Inv limits) (hgranted : request ∈ gate.granted) :
    (gate.release limits request).Inv limits := by
  unfold ProviderConcurrencyGate.release
  split
  · exact h
  · next hfresh => exact (h.toSound.giveBack hgranted (by simpa using hfresh)).drain

/-- The permit of a call that was granted can be used: the call is released then, and holds no
place. -/
theorem release_frees (hgranted : request ∈ gate.granted) :
    ∃ gate', Step limits gate (.release request.call) gate' ∧ request.call ∈ gate'.released ∧
      ∀ other ∈ gate'.outstanding, other.call ≠ request.call := by
  cases hfound : gate.granted.find? (·.call = request.call) with
  | none => exact absurd (find?_eq_none.mp hfound request hgranted) (by simp)
  | some found =>
    have hcall : found.call = request.call := by simpa using find?_some hfound
    have hreleased : request.call ∈ (gate.release limits found).released := by
      rw [← hcall]
      unfold release
      split
      · next hused => simpa using hused
      · unfold drain
        split
        · exact mem_cons_self
        · rw [(kept_drainFrom _ _ _).2]
          exact mem_cons_self
    refine ⟨_, by rw [Step, next, hfound]; rfl, hreleased, fun other hother heq => ?_⟩
    exact of_decide_eq_true (mem_filter.mp hother).2 (heq ▸ hreleased)

theorem Inv.step (h : gate.Inv limits) (hstep : Step limits gate event gate') :
    gate'.Inv limits := by
  unfold Step at hstep
  cases event with
  | acquire provider signal =>
    obtain rfl := Option.some.inj hstep
    exact h.acquire provider signal
  | abort signal =>
    obtain rfl := Option.some.inj hstep
    exact h.abort signal
  | fire =>
    unfold next at hstep
    dsimp only at hstep
    split at hstep
    · cases hstep
    · next request firing hfiring =>
      obtain rfl := Option.some.inj hstep
      exact h.fire hfiring
  | release call =>
    obtain ⟨request, hfound, rfl⟩ := Option.map_eq_some_iff.mp hstep
    exact h.release (mem_of_find?_eq_some hfound)

theorem inv_start (limits : ConcurrencyLimits) : start.Inv limits where
  global := rfl
  provider := fun _ => rfl
  globalBound := by
    have hvalid := limits.global_valid
    simp only [isConcurrencyLimit, Bool.and_eq_true, decide_eq_true_eq] at hvalid
    show 0 ≤ limits.globalLimit
    omega
  providerBound := fun _ hsome => absurd rfl hsome
  configured := fun _ hnone => by cases hnone
  distinct := .nil
  called := fun _ hnone => by cases hnone
  ordered := fun _ => .nil
  used := fun _ hnone => by cases hnone
  heard := fun _ hnone => by cases hnone
  busy := fun _ hnone => by cases hnone

/-- **The invariant of a gate.** -/
theorem inv_of_reachable (hreach : Transition.Reachable (Step limits) start gate) :
    gate.Inv limits := hreach.invariant (inv_start limits) fun h hstep => h.step hstep

/-! ### Aborted calls -/

private theorem isAborted_iff {signal : Option ℕ} :
    gate.isAborted signal ↔ ∃ value, signal = some value ∧ value ∈ gate.aborted := by
  cases signal <;> simp [isAborted]

/-- What an event grants is not aborted, and what is aborted stays so. -/
theorem Step.granted (hstep : Step limits gate event gate') :
    (∀ request ∈ gate'.granted, request ∈ gate.granted ∨
        gate.isAborted request.signal = false) ∧
      gate.aborted ⊆ gate'.aborted := by
  have hdrain : ∀ gate : ProviderConcurrencyGate,
      (∀ request ∈ (gate.drain limits).granted, request ∈ gate.granted ∨
        gate.isAborted request.signal = false) ∧ gate.aborted ⊆ (gate.drain limits).aborted := by
    intro gate
    unfold drain
    split
    · exact ⟨fun _ h => .inl h, List.Subset.refl _⟩
    · refine ⟨fun _ h => granted_drainFrom _ _ _ h, ?_⟩
      rw [(kept_drainFrom _ _ _).1]
      exact List.Subset.refl _
  have hsame : ∀ gate' : ProviderConcurrencyGate, gate'.granted = gate.granted →
      gate'.aborted = gate.aborted →
      (∀ request ∈ gate'.granted, request ∈ gate.granted ∨
        gate.isAborted request.signal = false) ∧ gate.aborted ⊆ gate'.aborted := by
    intro gate' hgranted haborted
    rw [hgranted, haborted]
    exact ⟨fun _ h => .inl h, List.Subset.refl _⟩
  unfold Step at hstep
  cases event with
  | acquire provider signal =>
    obtain rfl := Option.some.inj hstep
    unfold acquire
    dsimp only
    split
    · exact hsame _ rfl rfl
    · split
      · exact hsame _ rfl rfl
      · exact hdrain _
  | abort signal =>
    obtain rfl := Option.some.inj hstep
    unfold abort
    split
    · exact hsame _ rfl rfl
    · exact ⟨fun _ h => .inl h, subset_cons_self _ _⟩
  | fire =>
    unfold next at hstep
    dsimp only at hstep
    split at hstep
    · cases hstep
    · obtain rfl := Option.some.inj hstep
      unfold abortRequest
      split
      · exact hsame _ rfl rfl
      · exact hsame _ rfl rfl
  | release call =>
    obtain ⟨request, -, rfl⟩ := Option.map_eq_some_iff.mp hstep
    unfold release
    split
    · exact hsame _ rfl rfl
    · exact hdrain _

private theorem not_granted_of_aborted {signal : ℕ} (hsignal : request.signal = some signal)
    (haborted : signal ∈ gate.aborted) (hnot : request ∉ gate.granted)
    (hlater : Transition.Reachable (Step limits) gate gate') : request ∉ gate'.granted := by
  have hboth : signal ∈ gate'.aborted ∧ request ∉ gate'.granted := by
    refine hlater.invariant (I := fun gate => signal ∈ gate.aborted ∧ request ∉ gate.granted)
      ⟨haborted, hnot⟩ ?_
    rintro t u event ⟨habort, hwithout⟩ hstep
    obtain ⟨hgranted, hsubset⟩ := hstep.granted
    refine ⟨hsubset habort, fun hmem => ?_⟩
    rcases hgranted request hmem with hold | hlive
    · exact hwithout hold
    · simp [isAborted, hsignal, habort] at hlive
  exact hboth.2

/-- **The gate keeps its limits and its order.** Whatever the order of the calls, aborts and
releases, the permits that are held stay within every limit and are the ones that the gate
counts; a permit that is used again changes nothing; a call that is aborted while it waits
leaves the queue with the last listener, and neither it nor any call that was aborted without
a permit ever receives one; the calls for one provider are granted in the order of their
arrival; and no one waits for whom there is room. -/
theorem gate_keeps_limits_and_order {options : ProviderConcurrencyOptions}
    (hcreate : ConcurrencyLimits.create options = .ok limits)
    (hreach : Transition.Reachable (Step limits) start gate) :
    ((gate.outstanding.length : ℤ) ≤ options.globalLimit ∧
      gate.activeGlobal = gate.outstanding.length) ∧
    (∀ provider limit, limits.providerLimits provider = some limit →
      (provider, limit) ∈ options.providerLimits) ∧
    (∀ provider, gate.outstandingOf provider ≠ [] → ∃ limit,
      limits.providerLimits provider = some limit ∧
        ((gate.outstandingOf provider).length : ℤ) ≤ limit) ∧
    (∀ provider, gate.providerActive provider = (gate.outstandingOf provider).length) ∧
    (∀ call ∈ gate.released, gate.next limits (.release call) = some gate) ∧
    (∀ request ∈ gate.pending, gate.isAborted request.signal = true → request ∈ gate.firing) ∧
    (∀ request gate', gate.isAborted request.signal = true → request ∉ gate.granted →
      Transition.Reachable (Step limits) gate gate' → request ∉ gate'.granted) ∧
    (∀ provider, ((gate.granted ++ gate.pending).filter (·.provider = provider)).Pairwise
      (·.call < ·.call)) ∧
    ∀ request ∈ gate.pending, options.globalLimit ≤ gate.outstanding.length ∨
      ∃ limit, limits.providerLimits request.provider = some limit ∧
        limit ≤ (gate.outstandingOf request.provider).length := by
  have hinv := inv_of_reachable hreach
  obtain ⟨hglobal, hproviders⟩ := ConcurrencyLimits.of_create hcreate
  refine ⟨⟨?_, hinv.global⟩, hproviders, ?_, hinv.providerActive, ?_, ?_, ?_, hinv.ordered, ?_⟩
  · rw [← hinv.global, ← hglobal]
    exact hinv.globalBound
  · intro provider hsome
    obtain ⟨limit, hlimit, hbound⟩ := hinv.providerBound provider hsome
    rw [hinv.providerActive] at hbound
    exact ⟨limit, hlimit, hbound⟩
  · intro call hused
    obtain ⟨request, hgranted, hcall⟩ := hinv.used call hused
    cases hfound : gate.granted.find? (·.call = call) with
    | none => exact absurd (decide_eq_true hcall) (List.find?_eq_none.mp hfound request hgranted)
    | some found =>
      have hsame : found.call = call := by simpa using List.find?_some hfound
      show (gate.granted.find? (·.call = call)).map (gate.release limits) = some gate
      rw [hfound, Option.map_some, release, if_pos (by simpa [hsame] using hused)]
  · intro request hpending haborted
    obtain ⟨signal, hsignal, hmem⟩ := isAborted_iff.mp haborted
    have hheard := hinv.heard request hpending signal hsignal
    rwa [if_pos hmem] at hheard
  · intro request gate' haborted hnot hlater
    obtain ⟨signal, hsignal, hmem⟩ := isAborted_iff.mp haborted
    exact not_granted_of_aborted hsignal hmem hnot hlater
  · intro request hpending
    obtain ⟨limit, hlimit⟩ := Option.isSome_iff_exists.mp (hinv.configured request hpending)
    rcases hinv.busy request hpending with hfull | hfull
    · rw [← hinv.global, ← hglobal]
      exact .inl hfull
    · have hbound := hfull limit hlimit
      rw [hinv.providerActive] at hbound
      exact .inr ⟨limit, hlimit, hbound⟩

/-! ### Two providers -/

namespace Sample

def options : ProviderConcurrencyOptions := ⟨2, [("gemini", 2), ("meta", 1)]⟩

/-- A second call of one provider waits and is aborted, while another provider is served; a
permit is used twice. -/
def events : List GateEvent :=
  [.acquire "meta" none, .acquire "meta" (some 0), .acquire "gemini" none, .abort 0,
    .acquire "meta" none, .release 0, .release 0, .fire]

end Sample

open Sample in
/-- The limits and the order are kept while an aborted call waits for its listener. -/
theorem two_providers : ∃ limits gate, ConcurrencyLimits.create options = .ok limits ∧
    Transition.Reachable (Step limits) start gate ∧
    gate.outstanding.map PendingPermit.call = [2, 3] ∧ gate.pending = [] ∧
    ((gate.outstanding.length : ℤ) ≤ options.globalLimit ∧
      gate.activeGlobal = gate.outstanding.length) := by
  have hlimits : ((ConcurrencyLimits.create options).toOption.bind fun limits =>
      (Transition.replay (next limits) [] start events).map fun result =>
        (result.2.outstanding.map PendingPermit.call, result.2.pending)) = some ([2, 3], []) := by
    decide
  obtain ⟨limits, hcreate, hreplay⟩ := Option.bind_eq_some_iff.mp hlimits
  obtain ⟨⟨history, gate⟩, hrun, hseen⟩ := Option.map_eq_some_iff.mp hreplay
  obtain ⟨houtstanding, hpending⟩ := Prod.mk.inj hseen
  have hok : ConcurrencyLimits.create options = .ok limits := by
    cases hresult : ConcurrencyLimits.create options with
    | ok created =>
      rw [hresult] at hcreate
      rw [Option.some.inj hcreate]
    | error error =>
      rw [hresult] at hcreate
      cases hcreate
  have hreach : Transition.Reachable (Step limits) start gate :=
    ⟨history, Transition.Run.refl.replay hrun⟩
  exact ⟨limits, gate, hok, hreach, houtstanding, hpending,
    (gate_keeps_limits_and_order hok hreach).1⟩

end ProviderConcurrencyGate

end ContentAutomation
