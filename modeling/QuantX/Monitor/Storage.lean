import QuantX.Lib.Rollups
import QuantX.Lib.Tracked
import Mathlib.Data.Rat.Floor

/-! # Persistence of the monitor

Tables are dictionaries by their keys; a call that raises leaves them as they were. Instants are microseconds since the
epoch, latencies are exact. -/

namespace QuantX
open Lib

inductive MonitorStatus where
  | healthy
  | degraded
  | unavailable
  | unknown
  | disabled
  deriving DecidableEq, Repr

inductive AccountSafetyHistoryStatus where
  | passed
  | standby
  | transient
  | failed
  | unknown
  deriving DecidableEq, Repr

/-- `checked_at` is an instant of the clock, hence not before the epoch. -/
structure ProbeResult where
  targetId : String
  checkedAt : Int
  observedStatus : MonitorStatus
  latencyMs : Option Rat := none
  statusCode : Option Int := none
  reasonCode : Option String := none
  checkedAt_nonneg : 0 ≤ checkedAt

/-- A row of `check_samples`. -/
structure CheckSample where
  targetId : String
  checkedAt : Int
  (observedStatus effectiveStatus : MonitorStatus)
  latencyMs : Option Rat
  statusCode : Option Int
  reasonCode : Option String
  deriving DecidableEq, Repr

/-- A row of `incidents`. -/
structure MonitorIncident where
  targetId : String
  openedAt : Int
  resolvedAt : Option Int
  (openedReasonCode lastReasonCode : Option String)
  deriving DecidableEq, Repr

/-- A row of `target_states`. -/
structure TargetState where
  effectiveStatus : MonitorStatus := .unknown
  checkedAt : Option Int := none
  lastSuccessAt : Option Int := none
  latencyMs : Option Rat := none
  reasonCode : Option String := none
  consecutiveSuccesses : Nat := 0
  consecutiveFailures : Nat := 0
  activeIncidentId : Option Nat := none
  deriving DecidableEq, Repr

/-- A row of `hourly_rollups`. -/
structure HourlyRollup where
  (sampleCount healthyCount degradedCount unavailableCount unknownCount disabledCount latencyCount : Nat)
  (latencyMinMs latencyMaxMs latencyP50Ms latencyP95Ms : Option Rat)
  deriving DecidableEq, Repr

structure SafetyCheckObserved where
  status : AccountSafetyHistoryStatus
  reasonCode : Option String
  publicMessage : String
  deriving DecidableEq, Repr

/-- A row of `safety_check_samples`. -/
structure SafetyCheckSample where
  checkCode : String
  checkedAt : Int
  observed : SafetyCheckObserved
  deriving DecidableEq, Repr

/-- A row of `safety_check_incidents`. -/
structure SafetyCheckIncident where
  checkCode : String
  openedAt : Int
  resolvedAt : Option Int
  (openedReasonCode lastReasonCode : Option String)
  (openedMessage lastMessage : String)
  lastConfirmedFailedAt : Int
  deriving DecidableEq, Repr

/-- A row of `safety_check_states`. -/
structure SafetyCheckState where
  status : AccountSafetyHistoryStatus := .unknown
  checkedAt : Option Int := none
  lastConfirmedAt : Option Int := none
  reasonCode : Option String := none
  publicMessage : String := ""
  activeIncidentId : Option Nat := none
  deriving DecidableEq, Repr

/-- A row of `safety_hourly_rollups`. -/
structure SafetyHourlyRollup where
  (sampleCount passedCount standbyCount transientCount failedCount unknownCount : Nat)
  deriving DecidableEq, Repr

structure AccountSafetyProbeOutcome where
  source : ProbeResult
  snapshot : Option (Bool × List (String × SafetyCheckObserved))

def ACCOUNT_EXECUTION_SAFETY_CHECK_CODES : List String :=
  ["SERVER_REAL_TRADING_ENABLED", "ACCOUNT_ALLOWLISTED", "ENGINE_READY", "LIVE_AGENT_READY", "AGENT_MODE_LIVE", "MARKET_STREAM_READY",
    "PROTOCOL_1_2", "EXECUTION_CONTROL_CONFIGURED", "SNAPSHOT_RECONCILED", "SNAPSHOT_FRESH", "SNAPSHOT_ACTIVITY_CLASSIFIED", "RECENT_BACKUP",
    "NO_CRITICAL_ALERTS", "NO_DEAD_LETTERS", "CONTROLLED_WINDOW_ACTIVE", "NO_EXTERNAL_BROKER_ACTIVITY", "KILL_SWITCH_CLEAR",
    "ACCOUNT_RISK_INCREASE_AUTHORIZED"]

def percentile (values : List Rat) (quantile : Rat) : Option Rat :=
  let ordered := values.mergeSort fun a b => decide (a ≤ b)
  let position := ((ordered.length : Rat) - 1) * quantile
  let lower := position.floor.toNat
  let upper := min (lower + 1) (ordered.length - 1)
  match ordered[lower]?, ordered[upper]? with
  | some a, some b => some (a + (b - a) * (position - lower))
  | _, _ => none

/-- `_rollup_hour`: what a row tells of the samples of its hour. -/
def rollupHour (rows : List CheckSample) : HourlyRollup :=
  let count (status : MonitorStatus) := (rows.filter (·.observedStatus = status)).length
  let latencies := rows.filterMap CheckSample.latencyMs
  { sampleCount := rows.length, healthyCount := count .healthy, degradedCount := count .degraded
    unavailableCount := count .unavailable, unknownCount := count .unknown, disabledCount := count .disabled
    latencyCount := latencies.length, latencyMinMs := latencies.min?, latencyMaxMs := latencies.max?
    latencyP50Ms := percentile latencies (1 / 2), latencyP95Ms := percentile latencies (19 / 20) }

def rollupSafetyHour (rows : List SafetyCheckSample) : SafetyHourlyRollup :=
  let count (status : AccountSafetyHistoryStatus) := (rows.filter (·.observed.status = status)).length
  { sampleCount := rows.length, passedCount := count .passed
    standbyCount := count .standby
    transientCount := count .transient, failedCount := count .failed, unknownCount := count .unknown }

def checkSampling : Sampling String CheckSample HourlyRollup := ⟨CheckSample.targetId, CheckSample.checkedAt, rollupHour⟩

def safetySampling : Sampling String SafetyCheckSample SafetyHourlyRollup := ⟨SafetyCheckSample.checkCode, SafetyCheckSample.checkedAt, rollupSafetyHour⟩

/-! ## The store -/

structure MonitorStorage where
  targetStates : Dict String TargetState
  incidents : Numbers MonitorIncident := {}
  checks : RollupTable String CheckSample HourlyRollup := {}
  safetyStates : Dict String SafetyCheckState
  safetyIncidents : Numbers SafetyCheckIncident := {}
  safetyChecks : RollupTable String SafetyCheckSample SafetyHourlyRollup := {}

structure StatusVerdict where
  (successes failures : Nat)
  effective : MonitorStatus
  action : Numbers.Action

/-- The branches of `_record_result`. -/
def TargetState.judge (state : TargetState) : MonitorStatus → StatusVerdict
  | .healthy =>
    let successes := state.consecutiveSuccesses + 1
    if state.activeIncidentId ≠ none ∧ successes < 2 then ⟨successes, 0, .degraded, .keep⟩
    else ⟨successes, 0, .healthy, if state.activeIncidentId ≠ none then .resolve else .keep⟩
  | .degraded => ⟨0, 0, .degraded, .keep⟩
  | .unavailable =>
    let failures := state.consecutiveFailures + 1
    if failures < 2 then ⟨0, failures, .degraded, .keep⟩
    else ⟨0, failures, .unavailable, if state.activeIncidentId = none then .openNew else .update⟩
  | .disabled => ⟨0, 0, .disabled, if state.activeIncidentId ≠ none then .resolve else .keep⟩
  | .unknown => ⟨0, 0, .unknown, .keep⟩

def ProbeResult.act (result : ProbeResult) (incidents : Numbers MonitorIncident) (active : Option Nat) (action : Numbers.Action) :
    Numbers MonitorIncident × Option Nat :=
  incidents.act active ⟨result.targetId, result.checkedAt, none, result.reasonCode, result.reasonCode⟩
    (fun row => { row with lastReasonCode := result.reasonCode }) (fun row => { row with resolvedAt := some result.checkedAt }) action

def ProbeResult.sample (result : ProbeResult) (state : TargetState) : CheckSample where
  targetId := result.targetId
  checkedAt := result.checkedAt
  observedStatus := result.observedStatus
  effectiveStatus := (state.judge result.observedStatus).effective
  latencyMs := result.latencyMs
  statusCode := result.statusCode
  reasonCode := result.reasonCode

/-- `x or y` of a code. -/
def orCode (x : Option String) (y : Option String) : Option String := if x = none ∨ x = some "" then y else x

namespace MonitorStorage
variable (storage : MonitorStorage)

/-- `_record_result`. A result of an unknown target raises. -/
def recordResult (result : ProbeResult) : Option MonitorStorage :=
  match storage.targetStates.get? result.targetId with
  | none => none
  | some state =>
    let verdict := state.judge result.observedStatus
    let (incidents, active) := result.act storage.incidents state.activeIncidentId verdict.action
    some
      { storage with
        incidents, checks := storage.checks.record (result.sample state)
        targetStates := storage.targetStates.set result.targetId
          { effectiveStatus := verdict.effective, checkedAt := some result.checkedAt
            lastSuccessAt := if result.observedStatus = .healthy then some result.checkedAt else state.lastSuccessAt
            latencyMs := result.latencyMs, reasonCode := result.reasonCode, consecutiveSuccesses := verdict.successes
            consecutiveFailures := verdict.failures, activeIncidentId := active } }

end MonitorStorage

def SafetyCheckState.judge (state : SafetyCheckState) : AccountSafetyHistoryStatus → Numbers.Action
  | .failed =>
    if state.activeIncidentId = none then if state.status = .failed then .openNew else .keep
    else .update
  | .passed => if state.activeIncidentId ≠ none then .resolve else .keep
  | .standby => if state.activeIncidentId ≠ none then .resolve else .keep
  | .transient => .keep
  | .unknown => .keep

def SafetyCheckState.incident (state : SafetyCheckState) (sample : SafetyCheckSample) : SafetyCheckIncident where
  checkCode := sample.checkCode
  openedAt := if state.checkedAt.getD 0 = 0 then sample.checkedAt else state.checkedAt.getD 0
  resolvedAt := none
  openedReasonCode := orCode state.reasonCode sample.observed.reasonCode
  lastReasonCode := sample.observed.reasonCode
  openedMessage := if state.publicMessage = "" then sample.observed.publicMessage else state.publicMessage
  lastMessage := sample.observed.publicMessage
  lastConfirmedFailedAt := sample.checkedAt

def SafetyCheckState.act (state : SafetyCheckState) (incidents : Numbers SafetyCheckIncident) (sample : SafetyCheckSample)
    (action : Numbers.Action) : Numbers SafetyCheckIncident × Option Nat :=
  incidents.act state.activeIncidentId (state.incident sample)
    (fun row =>
      { row with
        lastReasonCode := sample.observed.reasonCode, lastMessage := sample.observed.publicMessage
        lastConfirmedFailedAt := sample.checkedAt })
    (fun row => { row with resolvedAt := some sample.checkedAt }) action

def AccountSafetyHistoryStatus.confirms (status : AccountSafetyHistoryStatus) : Bool :=
  status = .failed ∨ status = .passed ∨ status = .standby

def AccountSafetyProbeOutcome.observed (outcome : AccountSafetyProbeOutcome) (checkCode : String) : SafetyCheckObserved :=
  let checks := match outcome.snapshot with
    | some (true, checks) => checks
    | _ => []
  ((Dict.ofList checks).get? checkCode).getD
    { status := .unknown, reasonCode := orCode outcome.source.reasonCode (some "ACCOUNT_SAFETY_UNOBSERVED")
      publicMessage := if outcome.source.observedStatus = .disabled then "账户准入观测未启用" else "账户准入观测中断" }

namespace MonitorStorage
variable (storage : MonitorStorage)

/-- What `_record_account_safety` does for one check. -/
def recordCheck (sample : SafetyCheckSample) : Option MonitorStorage :=
  match storage.safetyStates.get? sample.checkCode with
  | none => none
  | some state =>
    let (incidents, active) := state.act storage.safetyIncidents sample (state.judge sample.observed.status)
    some
      { storage with
        safetyIncidents := incidents, safetyChecks := storage.safetyChecks.record sample
        safetyStates := storage.safetyStates.set sample.checkCode
          { status := sample.observed.status, checkedAt := some sample.checkedAt
            lastConfirmedAt := if sample.observed.status.confirms then some sample.checkedAt else state.lastConfirmedAt
            reasonCode := sample.observed.reasonCode, publicMessage := sample.observed.publicMessage
            activeIncidentId := active } }

def recordAccountSafety (outcome : AccountSafetyProbeOutcome) : Option MonitorStorage :=
  ACCOUNT_EXECUTION_SAFETY_CHECK_CODES.foldlM
    (fun storage checkCode => storage.recordCheck ⟨checkCode, outcome.source.checkedAt, outcome.observed checkCode⟩) storage

/-- `record_results` and `record_cycle`: all of a round is stored, or nothing. -/
def recordRound (results : List ProbeResult) (accountSafety : Option AccountSafetyProbeOutcome) : Option MonitorStorage := do
  let storage ← results.foldlM recordResult storage
  match accountSafety with
  | none => some storage
  | some outcome => storage.recordAccountSafety outcome

def rollupAndRetain (now rawRetentionSeconds rollupRetentionSeconds : Int) : MonitorStorage :=
  let rawRetention := rawRetentionSeconds * 1000000
  let rollupRetention := rollupRetentionSeconds * 1000000
  { storage with
    checks := storage.checks.rollup checkSampling now rawRetention rollupRetention
    safetyChecks := storage.safetyChecks.rollup safetySampling now rawRetention rollupRetention
    incidents := storage.incidents.delete fun row => row.resolvedAt.any (· < now - rollupRetention)
    safetyIncidents := storage.safetyIncidents.delete fun row => row.resolvedAt.any (· < now - rollupRetention) }

end MonitorStorage
end QuantX
