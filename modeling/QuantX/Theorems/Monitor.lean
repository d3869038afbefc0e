import QuantX.Monitor.Storage
import QuantX.Lib.Run

/-! Incidents and rollups of the monitor over any order of rounds and maintenance. Each result of a round and each safety
    check is a step of its own. -/

namespace QuantX
open Lib

/-- A step of the store: a probe result, a sample of a safety check, or maintenance. -/
inductive MonitorOp where
  | result (result : ProbeResult)
  | check (sample : SafetyCheckSample)
  | rollup (now rawRetentionSeconds rollupRetentionSeconds : Int)

abbrev MonitorLog := List (Moment MonitorStorage MonitorOp)

def incidentOwnership : Ownership String MonitorIncident := ⟨MonitorIncident.targetId, fun row => row.resolvedAt.isSome⟩

def safetyIncidentOwnership : Ownership String SafetyCheckIncident := ⟨SafetyCheckIncident.checkCode, fun row => row.resolvedAt.isSome⟩

namespace MonitorStorage
variable {storage next : MonitorStorage} {log : MonitorLog}
variable {op : MonitorOp}
variable {last : Option MonitorStatus}

def step? (storage : MonitorStorage) : MonitorOp → Option MonitorStorage
  | .result result => storage.recordResult result
  | .check sample => storage.recordCheck sample
  | .rollup now rawRetentionSeconds rollupRetentionSeconds => some (storage.rollupAndRetain now rawRetentionSeconds rollupRetentionSeconds)

def step (storage : MonitorStorage) (op : MonitorOp) : MonitorStorage := (storage.step? op).getD storage

def activeIncident (storage : MonitorStorage) (targetId : String) : Option Nat :=
  (storage.targetStates.get? targetId).bind TargetState.activeIncidentId

def activeSafetyIncident (storage : MonitorStorage) (checkCode : String) : Option Nat :=
  (storage.safetyStates.get? checkCode).bind SafetyCheckState.activeIncidentId

structure New (storage : MonitorStorage) : Prop where
  targetStates : ∀ targetId state, storage.targetStates.get? targetId = some state → state = {}
  incidents : storage.incidents = {}
  checks : storage.checks = {}
  safetyStates : ∀ checkCode state, storage.safetyStates.get? checkCode = some state → state = {}
  safetyIncidents : storage.safetyIncidents = {}
  safetyChecks : storage.safetyChecks = {}

/-- The last status of a target, newest moments first. -/
def lastStatus (targetId : String) : MonitorLog → Option MonitorStatus
  | [] => none
  | m :: log => match m.op with
    | .result result => if result.targetId = targetId then some result.observedStatus else lastStatus targetId log
    | _ => lastStatus targetId log

def lastCheck (checkCode : String) : MonitorLog → Option AccountSafetyHistoryStatus
  | [] => none
  | m :: log => match m.op with
    | .check sample => if sample.checkCode = checkCode then some sample.observed.status else lastCheck checkCode log
    | _ => lastCheck checkCode log

def sampleOf (m : Moment MonitorStorage MonitorOp) : List CheckSample :=
  match m.op with
  | .result result => ((m.before.targetStates.get? result.targetId).map result.sample).toList
  | _ => []

def safetySampleOf (m : Moment MonitorStorage MonitorOp) : List SafetyCheckSample :=
  match m.op with
  | .check sample => [sample]
  | _ => []

def recordedSamples : MonitorLog → List CheckSample
  | [] => []
  | m :: log => recordedSamples log ++ sampleOf m

def recordedChecks : MonitorLog → List SafetyCheckSample
  | [] => []
  | m :: log => recordedChecks log ++ safetySampleOf m

def Dropped : MonitorLog → Int → Prop
  | [], _ => False
  | m :: log, hour => Dropped log hour ∨ ∃ now raw retention, m.op = .rollup now raw retention ∧ hour < now - retention * 1000000

/-- Samples of one target or check, and maintenance, come in the order of their time. -/
def InOrder : MonitorOp → MonitorOp → Prop
  | .result earlier, .result later => earlier.targetId = later.targetId → earlier.checkedAt ≤ later.checkedAt
  | .check earlier, .check later => earlier.checkCode = later.checkCode → earlier.checkedAt ≤ later.checkedAt
  | .rollup now _ _, .rollup now' _ _ => now ≤ now'
  | _, _ => True

/-- Steps of known targets and checks, and maintenance with a raw retention of two hours or more. -/
def Known (storage : MonitorStorage) : MonitorOp → Prop
  | .result result => (storage.targetStates.get? result.targetId).isSome
  | .check sample => (storage.safetyStates.get? sample.checkCode).isSome ∧ 0 ≤ sample.checkedAt
  | .rollup _ raw retention => 7200 ≤ raw ∧ raw ≤ retention

instance decidableKnown (storage : MonitorStorage) : DecidablePred (Known storage)
  | .result _ => inferInstanceAs (Decidable (_ = true))
  | .check _ => inferInstanceAs (Decidable (_ ∧ _))
  | .rollup .. => inferInstanceAs (Decidable (_ ∧ _))

def Allowed (log : MonitorLog) (storage : MonitorStorage) (op : MonitorOp) : Prop := (∀ m ∈ log, InOrder m.op op) ∧ Known storage op

/-- No sample comes for an hour that has a row, and no hour regains and keeps a row that was dropped and has lost
    samples. -/
def Timely (log : MonitorLog) (storage : MonitorStorage) : MonitorOp → Prop
  | .result result => storage.checks.rows.get? (result.targetId, hourStart result.checkedAt) = none
  | .check sample => storage.safetyChecks.rows.get? (sample.checkCode, hourStart sample.checkedAt) = none
  | .rollup now _ retention =>
    storage.checks.Regains checkSampling (recordedSamples log) (Dropped log) now (retention * 1000000) ∧
      storage.safetyChecks.Regains safetySampling (recordedChecks log) (Dropped log) now (retention * 1000000)

instance decidableTimely (log : MonitorLog) (storage : MonitorStorage) (result : ProbeResult) : Decidable (Timely log storage (.result result)) :=
  inferInstanceAs (Decidable (_ = none))

abbrev MonitorRun : MonitorLog → MonitorStorage → Prop := Run New step Allowed

abbrev TimelyRun : MonitorLog → MonitorStorage → Prop := Run New step fun log storage op => Allowed log storage op ∧ Timely log storage op

structure Counts (state : TargetState) (last : Option MonitorStatus) : Prop where
  successes : 0 < state.consecutiveSuccesses ↔ last = some .healthy
  failures : 0 < state.consecutiveFailures ↔ last = some .unavailable

theorem judge_openNew {state : TargetState} (h : Counts state last) (status : MonitorStatus) :
    (state.judge status).action = .openNew ↔ status = .unavailable ∧ last = some .unavailable ∧ state.activeIncidentId = none := by
  have hfailures := h.failures
  cases status with
  | unavailable =>
    simp only [TargetState.judge, true_and, ← hfailures]
    split
    next hfirst => exact iff_of_false (by simp) fun h => by omega
    next hsecond =>
      split
      next hnone => exact iff_of_true rfl ⟨by omega, hnone⟩
      next hsome => exact iff_of_false (by simp) fun h => hsome h.2
  | healthy =>
    simp only [TargetState.judge, reduceCtorEq, false_and, iff_false]
    split
    · simp
    · split <;> simp
  | disabled =>
    simp only [TargetState.judge, reduceCtorEq, false_and, iff_false]
    split <;> simp
  | degraded => simp [TargetState.judge]
  | unknown => simp [TargetState.judge]

theorem judge_resolve {state : TargetState} (h : Counts state last) (status : MonitorStatus) :
    (state.judge status).action = .resolve ↔
      state.activeIncidentId ≠ none ∧ (status = .disabled ∨ status = .healthy ∧ last = some .healthy) := by
  have hsuccesses := h.successes
  cases status with
  | healthy =>
    simp only [TargetState.judge, reduceCtorEq, false_or, true_and, ← hsuccesses]
    split
    next hfirst => exact iff_of_false (by simp) fun h => by omega
    next hsecond =>
      split
      next hsome => exact iff_of_true rfl ⟨hsome, by by_contra hzero; exact hsecond ⟨hsome, by omega⟩⟩
      next hnone => exact iff_of_false (by simp) fun h => hnone h.1
  | unavailable =>
    simp only [TargetState.judge, reduceCtorEq, false_and, or_self, and_false, iff_false]
    split
    · simp
    · split <;> simp
  | disabled =>
    simp only [TargetState.judge, true_or, and_true]
    split
    next hsome => exact iff_of_true rfl hsome
    next hnone => exact iff_of_false (by simp) hnone
  | degraded => simp [TargetState.judge]
  | unknown => simp [TargetState.judge]

theorem judge_update {state : TargetState} {status : MonitorStatus} (h : (state.judge status).action = .update) :
    state.activeIncidentId ≠ none := by
  cases status with
  | unavailable =>
    simp only [TargetState.judge] at h
    split at h
    · cases h
    · split at h
      · cases h
      next hsome => exact hsome
  | healthy =>
    simp only [TargetState.judge] at h
    split at h
    · cases h
    · split at h <;> cases h
  | disabled =>
    simp only [TargetState.judge] at h
    split at h <;> cases h
  | degraded => cases h
  | unknown => cases h

theorem judge_counts (state : TargetState) (status : MonitorStatus) :
    (0 < (state.judge status).successes ↔ status = .healthy) ∧ (0 < (state.judge status).failures ↔ status = .unavailable) := by
  cases status with
  | healthy =>
    simp only [TargetState.judge]
    split <;> simp
  | unavailable =>
    simp only [TargetState.judge]
    split <;> simp
  | _ => simp [TargetState.judge]

theorem safety_openNew (state : SafetyCheckState) (status : AccountSafetyHistoryStatus) :
    state.judge status = .openNew ↔ status = .failed ∧ state.status = .failed ∧ state.activeIncidentId = none := by
  cases status with
  | failed =>
    simp only [SafetyCheckState.judge]
    split
    next hnone =>
      split
      next hfailed => simp [hnone, hfailed]
      next hfailed => simp [hfailed]
    next hsome => simp [hsome]
  | passed =>
    simp only [SafetyCheckState.judge]
    split <;> simp
  | standby =>
    simp only [SafetyCheckState.judge]
    split <;> simp
  | transient => simp [SafetyCheckState.judge]
  | unknown => simp [SafetyCheckState.judge]

theorem safety_resolve (state : SafetyCheckState) (status : AccountSafetyHistoryStatus) :
    state.judge status = .resolve ↔ state.activeIncidentId ≠ none ∧ (status = .passed ∨ status = .standby) := by
  cases status with
  | failed =>
    simp only [SafetyCheckState.judge]
    split
    · split <;> simp
    · simp
  | passed => simp [SafetyCheckState.judge]
  | standby => simp [SafetyCheckState.judge]
  | transient => simp [SafetyCheckState.judge]
  | unknown => simp [SafetyCheckState.judge]

theorem safety_update {state : SafetyCheckState} {status : AccountSafetyHistoryStatus} (h : state.judge status = .update) :
    state.activeIncidentId ≠ none := by
  cases status with
  | failed =>
    simp only [SafetyCheckState.judge] at h
    split at h
    next => split at h <;> cases h
    next hsome => exact hsome
  | passed =>
    simp only [SafetyCheckState.judge] at h
    split at h <;> cases h
  | standby =>
    simp only [SafetyCheckState.judge] at h
    split at h <;> cases h
  | transient => cases h
  | unknown => cases h

/-! ### Steps -/

structure Tracked (log : MonitorLog) (storage : MonitorStorage) : Prop where
  counts : ∀ targetId state, storage.targetStates.get? targetId = some state → Counts state (lastStatus targetId log)
  incidents : Tracks incidentOwnership storage.incidents storage.activeIncident
  statuses : ∀ checkCode state, storage.safetyStates.get? checkCode = some state → state.status = (lastCheck checkCode log).getD .unknown
  safetyIncidents : Tracks safetyIncidentOwnership storage.safetyIncidents storage.activeSafetyIncident

structure TargetMoment (earlier : MonitorLog) (m : Moment MonitorStorage MonitorOp) : Prop where
  opened : ∀ targetId, Opened incidentOwnership m.before.incidents m.after.incidents targetId ↔
    ∃ result, m.op = .result result ∧ result.targetId = targetId ∧ result.observedStatus = .unavailable ∧
      lastStatus targetId earlier = some .unavailable ∧ m.before.activeIncident targetId = none
  resolved : ∀ targetId, Resolved incidentOwnership m.before.incidents m.after.incidents targetId ↔
    ∃ result, m.op = .result result ∧ result.targetId = targetId ∧ m.before.activeIncident targetId ≠ none ∧
      (result.observedStatus = .disabled ∨ result.observedStatus = .healthy ∧ lastStatus targetId earlier = some .healthy)

structure CheckMoment (earlier : MonitorLog) (m : Moment MonitorStorage MonitorOp) : Prop where
  opened : ∀ checkCode, Opened safetyIncidentOwnership m.before.safetyIncidents m.after.safetyIncidents checkCode ↔
    ∃ sample, m.op = .check sample ∧ sample.checkCode = checkCode ∧ sample.observed.status = .failed ∧
      lastCheck checkCode earlier = some .failed ∧ m.before.activeSafetyIncident checkCode = none
  resolved : ∀ checkCode, Resolved safetyIncidentOwnership m.before.safetyIncidents m.after.safetyIncidents checkCode ↔
    ∃ sample, m.op = .check sample ∧ sample.checkCode = checkCode ∧ m.before.activeSafetyIncident checkCode ≠ none ∧
      (sample.observed.status = .passed ∨ sample.observed.status = .standby)

structure Stepped (log : MonitorLog) (storage : MonitorStorage) (op : MonitorOp) : Prop where
  tracked : Tracked (⟨storage, op, storage.step op⟩ :: log) (storage.step op)
  target : TargetMoment log ⟨storage, op, storage.step op⟩
  check : CheckMoment log ⟨storage, op, storage.step op⟩

theorem act_result {incidents : Numbers MonitorIncident} {active : String → Option Nat} (h : Tracks incidentOwnership incidents active)
    {result : ProbeResult} {action : Numbers.Action} (hopen : action = .openNew → active result.targetId = none)
    (hsome : action = .update ∨ action = .resolve → active result.targetId ≠ none) :
    Tracks incidentOwnership (result.act incidents (active result.targetId) action).1
        (fun targetId => if targetId = result.targetId then (result.act incidents (active result.targetId) action).2 else active targetId) ∧
      (∀ targetId, Opened incidentOwnership incidents (result.act incidents (active result.targetId) action).1 targetId ↔
        action = .openNew ∧ result.targetId = targetId) ∧
      ∀ targetId, Resolved incidentOwnership incidents (result.act incidents (active result.targetId) action).1 targetId ↔
        action = .resolve ∧ result.targetId = targetId :=
  h.act rfl rfl (fun _ => rfl) (fun _ => rfl) (fun _ => rfl) hopen hsome

theorem act_check {incidents : Numbers SafetyCheckIncident} {active : String → Option Nat} (h : Tracks safetyIncidentOwnership incidents active)
    {sample : SafetyCheckSample} {state : SafetyCheckState} (hactive : active sample.checkCode = state.activeIncidentId)
    {action : Numbers.Action} (hopen : action = .openNew → active sample.checkCode = none)
    (hsome : action = .update ∨ action = .resolve → active sample.checkCode ≠ none) :
    Tracks safetyIncidentOwnership (state.act incidents sample action).1
        (fun checkCode => if checkCode = sample.checkCode then (state.act incidents sample action).2 else active checkCode) ∧
      (∀ checkCode, Opened safetyIncidentOwnership incidents (state.act incidents sample action).1 checkCode ↔
        action = .openNew ∧ sample.checkCode = checkCode) ∧
      ∀ checkCode, Resolved safetyIncidentOwnership incidents (state.act incidents sample action).1 checkCode ↔
        action = .resolve ∧ sample.checkCode = checkCode := by
  rw [SafetyCheckState.act, ← hactive]
  exact h.act rfl rfl (fun _ => rfl) (fun _ => rfl) (fun _ => rfl) hopen hsome

theorem step_result {result : ProbeResult} {state : TargetState} (hstate : storage.targetStates.get? result.targetId = some state) :
    ∃ after : TargetState,
      storage.step (.result result) =
        { storage with
          incidents := (result.act storage.incidents state.activeIncidentId (state.judge result.observedStatus).action).1
          checks := storage.checks.record (result.sample state)
          targetStates := storage.targetStates.set result.targetId after } ∧
      after.activeIncidentId = (result.act storage.incidents state.activeIncidentId (state.judge result.observedStatus).action).2 ∧
      after.consecutiveSuccesses = (state.judge result.observedStatus).successes ∧
      after.consecutiveFailures = (state.judge result.observedStatus).failures := by
  have hstep : storage.step (.result result) = (storage.recordResult result).getD storage := rfl
  simp only [recordResult, hstate, Option.getD_some] at hstep
  exact ⟨_, hstep, rfl, rfl, rfl⟩

theorem step_check {sample : SafetyCheckSample} {state : SafetyCheckState} (hstate : storage.safetyStates.get? sample.checkCode = some state) :
    ∃ after : SafetyCheckState,
      storage.step (.check sample) =
        { storage with
          safetyIncidents := (state.act storage.safetyIncidents sample (state.judge sample.observed.status)).1
          safetyChecks := storage.safetyChecks.record sample
          safetyStates := storage.safetyStates.set sample.checkCode after } ∧
      after.activeIncidentId = (state.act storage.safetyIncidents sample (state.judge sample.observed.status)).2 ∧
      after.status = sample.observed.status := by
  have hstep : storage.step (.check sample) = (storage.recordCheck sample).getD storage := rfl
  simp only [recordCheck, hstate, Option.getD_some] at hstep
  exact ⟨_, hstep, rfl, rfl⟩

theorem Tracked.result (h : Tracked log storage) {result : ProbeResult} (hknown : (storage.targetStates.get? result.targetId).isSome) :
    Stepped log storage (.result result) := by
  obtain ⟨state, hstate⟩ := Option.isSome_iff_exists.mp hknown
  have hcounts := h.counts _ _ hstate
  have hactive : storage.activeIncident result.targetId = state.activeIncidentId := by rw [activeIncident, hstate]; rfl
  have hopen := judge_openNew hcounts result.observedStatus
  have hresolve := judge_resolve hcounts result.observedStatus
  obtain ⟨htracks, hopened, hresolved⟩ := @act_result _ _ h.incidents result (state.judge result.observedStatus).action
    (fun haction => by rw [hactive]; exact (hopen.mp haction).2.2)
    (fun haction => by
      rw [hactive]
      rcases haction with haction | haction
      · exact judge_update haction
      · exact (hresolve.mp haction).1)
  rw [hactive] at htracks hopened hresolved
  obtain ⟨after, hstep, hafter, hsuccesses, hfailures⟩ := step_result hstate
  refine ⟨⟨?_, ?_, ?_, ?_⟩, ⟨?_, ?_⟩, ⟨?_, ?_⟩⟩
  · intro targetId state' hstate'
    rw [hstep] at hstate'
    simp only [Dict.get?_set] at hstate'
    simp only [lastStatus]
    split at hstate'
    next htarget =>
      cases hstate'
      rw [if_pos htarget]
      obtain ⟨hs, hf⟩ := judge_counts state result.observedStatus
      exact ⟨by rw [hsuccesses, hs, Option.some.injEq], by rw [hfailures, hf, Option.some.injEq]⟩
    next htarget =>
      rw [if_neg htarget]
      exact h.counts targetId state' hstate'
  · rw [hstep]
    refine htracks.congr fun targetId => ?_
    simp only [activeIncident, Dict.get?_set]
    by_cases htarget : result.targetId = targetId
    · rw [if_pos htarget, if_pos htarget.symm]
      exact hafter
    · rw [if_neg htarget, if_neg (Ne.symm htarget)]
  · rw [hstep]
    exact h.statuses
  · rw [hstep]
    exact h.safetyIncidents
  · intro targetId
    simp only [hstep, MonitorOp.result.injEq, exists_eq_left']
    rw [hopened, hopen]
    constructor
    · rintro ⟨⟨hstatus, hlast, hnone⟩, rfl⟩
      exact ⟨rfl, hstatus, hlast, hactive.trans hnone⟩
    · rintro ⟨rfl, hstatus, hlast, hnone⟩
      exact ⟨⟨hstatus, hlast, hactive.symm.trans hnone⟩, rfl⟩
  · intro targetId
    simp only [hstep, MonitorOp.result.injEq, exists_eq_left']
    rw [hresolved, hresolve]
    constructor
    · rintro ⟨⟨hsome, hstatus⟩, rfl⟩
      exact ⟨rfl, by rw [hactive]; exact hsome, hstatus⟩
    · rintro ⟨rfl, hsome, hstatus⟩
      exact ⟨⟨by rw [← hactive]; exact hsome, hstatus⟩, rfl⟩
  · intro checkCode
    rw [hstep]
    exact iff_of_false (not_opened_same checkCode) (by simp)
  · intro checkCode
    rw [hstep]
    exact iff_of_false (not_resolved_same checkCode) (by simp)

theorem Tracked.check (h : Tracked log storage) {sample : SafetyCheckSample} (hknown : (storage.safetyStates.get? sample.checkCode).isSome) :
    Stepped log storage (.check sample) := by
  obtain ⟨state, hstate⟩ := Option.isSome_iff_exists.mp hknown
  have hlast := h.statuses _ _ hstate
  have hactive : storage.activeSafetyIncident sample.checkCode = state.activeIncidentId := by rw [activeSafetyIncident, hstate]; rfl
  have hopen := safety_openNew state sample.observed.status
  have hresolve := safety_resolve state sample.observed.status
  have hfailed : state.status = .failed ↔ lastCheck sample.checkCode log = some .failed := by
    rw [hlast]
    cases lastCheck sample.checkCode log <;> simp
  obtain ⟨htracks, hopened, hresolved⟩ := @act_check _ _ h.safetyIncidents sample state hactive (state.judge sample.observed.status)
    (fun haction => by rw [hactive]; exact (hopen.mp haction).2.2)
    (fun haction => by
      rw [hactive]
      rcases haction with haction | haction
      · exact safety_update haction
      · exact (hresolve.mp haction).1)
  obtain ⟨after, hstep, hafter, hstatus⟩ := step_check hstate
  refine ⟨⟨?_, ?_, ?_, ?_⟩, ⟨?_, ?_⟩, ⟨?_, ?_⟩⟩
  · rw [hstep]
    exact h.counts
  · rw [hstep]
    exact h.incidents
  · intro checkCode state' hstate'
    rw [hstep] at hstate'
    simp only [Dict.get?_set] at hstate'
    simp only [lastCheck]
    split at hstate'
    next hcode =>
      cases hstate'
      rw [if_pos hcode]
      exact hstatus
    next hcode =>
      rw [if_neg hcode]
      exact h.statuses checkCode state' hstate'
  · rw [hstep]
    refine htracks.congr fun checkCode => ?_
    simp only [activeSafetyIncident, Dict.get?_set]
    by_cases hcode : sample.checkCode = checkCode
    · rw [if_pos hcode, if_pos hcode.symm]
      exact hafter
    · rw [if_neg hcode, if_neg (Ne.symm hcode)]
  · intro targetId
    rw [hstep]
    exact iff_of_false (not_opened_same targetId) (by simp)
  · intro targetId
    rw [hstep]
    exact iff_of_false (not_resolved_same targetId) (by simp)
  · intro checkCode
    simp only [hstep, MonitorOp.check.injEq, exists_eq_left']
    rw [hopened, hopen, hfailed]
    constructor
    · rintro ⟨⟨hnow, hbefore, hnone⟩, rfl⟩
      exact ⟨rfl, hnow, hbefore, hactive.trans hnone⟩
    · rintro ⟨rfl, hnow, hbefore, hnone⟩
      exact ⟨⟨hnow, hbefore, hactive.symm.trans hnone⟩, rfl⟩
  · intro checkCode
    simp only [hstep, MonitorOp.check.injEq, exists_eq_left']
    rw [hresolved, hresolve]
    constructor
    · rintro ⟨⟨hsome, hnow⟩, rfl⟩
      exact ⟨rfl, by rw [hactive]; exact hsome, hnow⟩
    · rintro ⟨rfl, hsome, hnow⟩
      exact ⟨⟨by rw [← hactive]; exact hsome, hnow⟩, rfl⟩

theorem Tracked.rollup (h : Tracked log storage) (now raw retention : Int) : Stepped log storage (.rollup now raw retention) where
  tracked :=
    { counts := h.counts, incidents := h.incidents.delete fun row hrow => Option.isSome_of_any hrow
      statuses := h.statuses, safetyIncidents := h.safetyIncidents.delete fun row hrow => Option.isSome_of_any hrow }
  target :=
    { opened := fun targetId => iff_of_false (not_opened_delete _ targetId) (by simp)
      resolved := fun targetId => iff_of_false (not_resolved_delete _ targetId) (by simp) }
  check :=
    { opened := fun checkCode => iff_of_false (not_opened_delete _ checkCode) (by simp)
      resolved := fun checkCode => iff_of_false (not_resolved_delete _ checkCode) (by simp) }

theorem Tracked.stepped (h : Tracked log storage) (hop : Allowed log storage op) : Stepped log storage op := by
  cases op with
  | result result => exact h.result hop.2
  | check sample => exact h.check hop.2.1
  | rollup now raw retention => exact h.rollup now raw retention

theorem New.tracked (h : New storage) : Tracked [] storage where
  counts := by
    intro targetId state hstate
    rw [h.targetStates targetId state hstate]
    exact ⟨by simp [lastStatus], by simp [lastStatus]⟩
  incidents := by
    rw [h.incidents]
    refine (Tracks.empty incidentOwnership).congr fun targetId => ?_
    rw [activeIncident, Option.bind_eq_none_iff]
    rintro state hstate
    rw [h.targetStates targetId state hstate]
  statuses := by
    intro checkCode state hstate
    rw [h.safetyStates checkCode state hstate]
    rfl
  safetyIncidents := by
    rw [h.safetyIncidents]
    refine (Tracks.empty safetyIncidentOwnership).congr fun checkCode => ?_
    rw [activeSafetyIncident, Option.bind_eq_none_iff]
    rintro state hstate
    rw [h.safetyStates checkCode state hstate]

theorem MonitorRun.tracked (h : MonitorRun log storage) : Tracked log storage :=
  h.invariant Tracked (fun _ hnew => hnew.tracked) fun _ _ _ htracked hop => (htracked.stepped hop).tracked

theorem MonitorRun.moment (h : MonitorRun log storage) {later earlier : MonitorLog} {m : Moment MonitorStorage MonitorOp}
    (hlog : log = later ++ m :: earlier) : TargetMoment earlier m ∧ CheckMoment earlier m := by
  refine @Run.each _ _ _ _ _ _ _ (fun earlier m => TargetMoment earlier m ∧ CheckMoment earlier m) h ?_ later m earlier hlog
  intro log storage op hrun hop
  have hstepped := (MonitorRun.tracked hrun).stepped hop
  exact ⟨hstepped.target, hstepped.check⟩

def roundOps (results : List ProbeResult) (accountSafety : Option AccountSafetyProbeOutcome) : List MonitorOp :=
  results.map .result ++ (accountSafety.map fun outcome =>
    ACCOUNT_EXECUTION_SAFETY_CHECK_CODES.map fun checkCode =>
      .check ⟨checkCode, outcome.source.checkedAt, outcome.observed checkCode⟩).getD []

theorem recordRound_eq (storage : MonitorStorage) (results : List ProbeResult) (accountSafety : Option AccountSafetyProbeOutcome) :
    storage.recordRound results accountSafety = (roundOps results accountSafety).foldlM step? storage := by
  have hresults : results.foldlM recordResult storage = (results.map MonitorOp.result).foldlM step? storage := by
    rw [List.foldlM_map]
    rfl
  rw [recordRound, roundOps, List.foldlM_append, ← hresults]
  cases accountSafety with
  | none => rfl
  | some outcome =>
    simp only [recordAccountSafety, Option.map_some, Option.getD_some, List.foldlM_map]
    rfl

theorem step?_some (hstep : storage.step? op = some next) (hnonneg : ∀ sample, op = .check sample → 0 ≤ sample.checkedAt)
    (hround : ∀ now raw retention, op ≠ .rollup now raw retention) (horder : ∀ m ∈ log, InOrder m.op op) : Allowed log storage op := by
  refine ⟨horder, ?_⟩
  cases op with
  | result result =>
    simp only [step?, recordResult] at hstep
    split at hstep
    · cases hstep
    next hstate => exact Option.isSome_of_eq_some hstate
  | check sample =>
    refine ⟨?_, hnonneg sample rfl⟩
    simp only [step?, recordCheck] at hstep
    split at hstep
    · cases hstep
    next hstate => exact Option.isSome_of_eq_some hstate
  | rollup now raw retention => exact absurd rfl (hround now raw retention)

theorem MonitorRun.steps (h : MonitorRun log storage) {ops : List MonitorOp} (hsteps : ops.foldlM step? storage = some next)
    (hnonneg : ∀ sample, MonitorOp.check sample ∈ ops → 0 ≤ sample.checkedAt) (hround : ∀ now raw retention, MonitorOp.rollup now raw retention ∉ ops)
    (hordered : ops.Pairwise InOrder) (horder : ∀ m ∈ log, ∀ op ∈ ops, InOrder m.op op) :
    ∃ log', MonitorRun log' next ∧ log'.map Moment.op = ops.reverse ++ log.map Moment.op := by
  induction ops generalizing log storage with
  | nil =>
    cases hsteps
    exact ⟨log, h, rfl⟩
  | cons op ops ih =>
    obtain ⟨after, hstep, hrest⟩ := Option.bind_eq_some_iff.mp hsteps
    obtain ⟨hfirst, hordered⟩ := List.pairwise_cons.mp hordered
    have hallowed : Allowed log storage op :=
      step?_some hstep (fun sample hop => hnonneg sample (hop ▸ List.mem_cons_self ..))
        (fun now raw retention hop => hround now raw retention (hop ▸ List.mem_cons_self ..)) fun m hm => horder m hm op (List.mem_cons_self ..)
    have hafter : storage.step op = after := by rw [step, hstep, Option.getD_some]
    have hnext := Run.step h op hallowed
    rw [hafter] at hnext
    obtain ⟨log', hrun, hops⟩ := ih hnext hrest (fun sample hsample => hnonneg sample (List.mem_cons_of_mem _ hsample))
      (fun now raw retention hop => hround now raw retention (List.mem_cons_of_mem _ hop)) hordered (by
        rintro m hm op' hop'
        rcases List.mem_cons.mp hm with rfl | hm
        · exact hfirst op' hop'
        · exact horder m hm op' (List.mem_cons_of_mem _ hop'))
    refine ⟨log', hrun, ?_⟩
    rw [hops, List.map_cons, List.reverse_cons, List.append_assoc]
    rfl

theorem MonitorRun.round (h : MonitorRun log storage) {results : List ProbeResult} {accountSafety : Option AccountSafetyProbeOutcome}
    (hround : storage.recordRound results accountSafety = some next) (hordered : (roundOps results accountSafety).Pairwise InOrder)
    (horder : ∀ m ∈ log, ∀ op ∈ roundOps results accountSafety, InOrder m.op op) :
    ∃ log', MonitorRun log' next ∧ log'.map Moment.op = (roundOps results accountSafety).reverse ++ log.map Moment.op := by
  rw [recordRound_eq] at hround
  refine h.steps hround ?_ ?_ hordered horder
  · intro sample hsample
    rcases List.mem_append.mp hsample with hsample | hsample
    · simp at hsample
    · cases accountSafety with
      | none => simp at hsample
      | some outcome =>
        simp only [Option.map_some, Option.getD_some, List.mem_map, MonitorOp.check.injEq] at hsample
        obtain ⟨checkCode, -, rfl⟩ := hsample
        exact outcome.source.checkedAt_nonneg
  · intro now raw retention hop
    rcases List.mem_append.mp hop with hop | hop
    · simp at hop
    · cases accountSafety <;> simp at hop

structure Summed (log : MonitorLog) (storage : MonitorStorage) : Prop where
  checks : storage.checks.Tells checkSampling (recordedSamples log) (Dropped log)
  safetyChecks : storage.safetyChecks.Tells safetySampling (recordedChecks log) (Dropped log)

theorem dropped_same (hop : ∀ now raw retention, op ≠ .rollup now raw retention) :
    Dropped (⟨storage, op, next⟩ :: log) = Dropped log := by
  funext hour
  refine propext ⟨?_, .inl⟩
  rintro (hdropped | ⟨now, raw, retention, h, -⟩)
  · exact hdropped
  · exact absurd h (hop now raw retention)

theorem dropped_rollup (now raw retention : Int) :
    Dropped (⟨storage, .rollup now raw retention, next⟩ :: log) = fun hour => Dropped log hour ∨ hour < now - retention * 1000000 := by
  funext hour
  simp only [Dropped, MonitorOp.rollup.injEq]
  refine propext (or_congr_right ⟨?_, fun h => ⟨now, raw, retention, ⟨rfl, rfl, rfl⟩, h⟩⟩)
  rintro ⟨_, _, _, ⟨rfl, rfl, rfl⟩, h⟩
  exact h

theorem New.summed (h : New storage) : Summed [] storage where
  checks := by
    rw [h.checks]
    exact .empty checkSampling _
  safetyChecks := by
    rw [h.safetyChecks]
    exact .empty safetySampling _

theorem Summed.step (h : Summed log storage) {op : MonitorOp} (hop : Allowed log storage op) (htimely : Timely log storage op) :
    Summed (⟨storage, op, storage.step op⟩ :: log) (storage.step op) := by
  cases op with
  | result result =>
    obtain ⟨state, hstate⟩ := Option.isSome_iff_exists.mp hop.2
    obtain ⟨after, hstep, -⟩ := step_result hstate
    have hsample : sampleOf ⟨storage, .result result, storage.step (.result result)⟩ = [result.sample state] := by
      simp [sampleOf, hstate]
    constructor
    · rw [dropped_same (by simp), recordedSamples, hsample, hstep]
      exact h.checks.record result.checkedAt_nonneg htimely
    · rw [dropped_same (by simp), recordedChecks, hstep]
      simp only [safetySampleOf, List.append_nil]
      exact h.safetyChecks
  | check sample =>
    obtain ⟨state, hstate⟩ := Option.isSome_iff_exists.mp hop.2.1
    obtain ⟨after, hstep, -⟩ := step_check hstate
    constructor
    · rw [dropped_same (by simp), recordedSamples, hstep]
      simp only [sampleOf, List.append_nil]
      exact h.checks
    · rw [dropped_same (by simp), recordedChecks, hstep]
      exact h.safetyChecks.record hop.2.2 htimely
  | rollup now raw retention =>
    have hraw : hourLength ≤ raw * 1000000 := by
      have hlow := hop.2.1
      rw [hourLength]
      omega
    constructor
    · rw [dropped_rollup, recordedSamples]
      simp only [sampleOf, List.append_nil]
      exact h.checks.rollup hraw htimely.1
    · rw [dropped_rollup, recordedChecks]
      simp only [safetySampleOf, List.append_nil]
      exact h.safetyChecks.rollup hraw htimely.2

theorem TimelyRun.summed (h : TimelyRun log storage) : Summed log storage :=
  h.invariant Summed (fun _ hnew => hnew.summed) fun _ _ _ hsummed hop => hsummed.step hop.1 hop.2

/-- An unresolved incident is the active one of its target or check, and incidents open and are resolved where the
    results say so. -/
structure IncidentsFaithful (log : MonitorLog) (storage : MonitorStorage) : Prop where
  unresolved : ∀ id row, storage.incidents.rows.get? id = some row → row.resolvedAt = none → storage.activeIncident row.targetId = some id
  active : ∀ targetId id, storage.activeIncident targetId = some id →
    ∃ row, storage.incidents.rows.get? id = some row ∧ row.targetId = targetId ∧ row.resolvedAt = none
  safetyUnresolved : ∀ id row, storage.safetyIncidents.rows.get? id = some row → row.resolvedAt = none →
    storage.activeSafetyIncident row.checkCode = some id
  safetyActive : ∀ checkCode id, storage.activeSafetyIncident checkCode = some id →
    ∃ row, storage.safetyIncidents.rows.get? id = some row ∧ row.checkCode = checkCode ∧ row.resolvedAt = none
  moments : ∀ later m earlier, log = later ++ m :: earlier → TargetMoment earlier m ∧ CheckMoment earlier m

/-- Rows sum up all samples ever recorded of their hour, and a sample that is gone is counted in the row of its hour,
    unless that was past the retention of the rows. -/
structure RollupsFaithful (log : MonitorLog) (storage : MonitorStorage) : Prop where
  rows : ∀ targetId hour row, storage.checks.rows.get? (targetId, hour) = some row →
    row = rollupHour ((recordedSamples log).filter (checkSampling.within (targetId, hour)))
  counted : ∀ s ∈ recordedSamples log, s ∉ storage.checks.samples → Dropped log (hourStart s.checkedAt) ∨
    ∃ row, storage.checks.rows.get? (s.targetId, hourStart s.checkedAt) = some row ∧
      row = rollupHour ((recordedSamples log).filter (checkSampling.within (s.targetId, hourStart s.checkedAt))) ∧
      s ∈ (recordedSamples log).filter (checkSampling.within (s.targetId, hourStart s.checkedAt))
  safetyRows : ∀ checkCode hour row, storage.safetyChecks.rows.get? (checkCode, hour) = some row →
    row = rollupSafetyHour ((recordedChecks log).filter (safetySampling.within (checkCode, hour)))
  safetyCounted : ∀ s ∈ recordedChecks log, s ∉ storage.safetyChecks.samples → Dropped log (hourStart s.checkedAt) ∨
    ∃ row, storage.safetyChecks.rows.get? (s.checkCode, hourStart s.checkedAt) = some row ∧
      row = rollupSafetyHour ((recordedChecks log).filter (safetySampling.within (s.checkCode, hourStart s.checkedAt))) ∧
      s ∈ (recordedChecks log).filter (safetySampling.within (s.checkCode, hourStart s.checkedAt))

theorem Tracked.faithful (h : Tracked log storage)
    (hmoments : ∀ later m earlier, log = later ++ m :: earlier → TargetMoment earlier m ∧ CheckMoment earlier m) : IncidentsFaithful log storage where
  unresolved := by
    intro id row hrow hopen
    exact h.incidents.unresolved id row hrow (by simp [incidentOwnership, hopen])
  active := by
    intro targetId id hactive
    obtain ⟨row, hrow, howned, hopen⟩ := h.incidents.active targetId id hactive
    exact ⟨row, hrow, howned, by simpa [incidentOwnership] using hopen⟩
  safetyUnresolved := by
    intro id row hrow hopen
    exact h.safetyIncidents.unresolved id row hrow (by simp [safetyIncidentOwnership, hopen])
  safetyActive := by
    intro checkCode id hactive
    obtain ⟨row, hrow, howned, hopen⟩ := h.safetyIncidents.active checkCode id hactive
    exact ⟨row, hrow, howned, by simpa [safetyIncidentOwnership] using hopen⟩
  moments := hmoments

theorem Summed.faithful (h : Summed log storage) : RollupsFaithful log storage where
  rows := fun targetId hour row hrow => h.checks.exact (targetId, hour) row hrow
  counted := fun _ hs hgone => h.checks.counted hs hgone
  safetyRows := fun checkCode hour row hrow => h.safetyChecks.exact (checkCode, hour) row hrow
  safetyCounted := fun _ hs hgone => h.safetyChecks.counted hs hgone

/-- Incidents are faithful in every run, and rollups where no sample comes after the row of its hour. -/
theorem monitor_faithful (hrun : MonitorRun log storage) :
    IncidentsFaithful log storage ∧ (TimelyRun log storage → RollupsFaithful log storage) :=
  ⟨(MonitorRun.tracked hrun).faithful fun _ _ _ hlog => MonitorRun.moment hrun hlog, fun htimely => (TimelyRun.summed htimely).faithful⟩

/-- Runs of whole rounds and maintenance, with what they wrote, newest first. A round that raises is rolled back. -/
inductive RoundRun : List MonitorOp → MonitorStorage → Prop
  | start {s : MonitorStorage} (h : New s) : RoundRun [] s
  | raised {ops : List MonitorOp} {s : MonitorStorage} (h : RoundRun ops s) (results : List ProbeResult)
      (accountSafety : Option AccountSafetyProbeOutcome) (hround : s.recordRound results accountSafety = none) : RoundRun ops s
  | stored {ops : List MonitorOp} {s t : MonitorStorage} (h : RoundRun ops s) (results : List ProbeResult)
      (accountSafety : Option AccountSafetyProbeOutcome) (hround : s.recordRound results accountSafety = some t)
      (hordered : (roundOps results accountSafety).Pairwise InOrder)
      (horder : ∀ earlier ∈ ops, ∀ op ∈ roundOps results accountSafety, InOrder earlier op) :
      RoundRun ((roundOps results accountSafety).reverse ++ ops) t
  | rollup {ops : List MonitorOp} {s : MonitorStorage} (h : RoundRun ops s) (now raw retention : Int)
      (hraw : 7200 ≤ raw ∧ raw ≤ retention) (horder : ∀ earlier ∈ ops, InOrder earlier (.rollup now raw retention)) :
      RoundRun (.rollup now raw retention :: ops) (s.rollupAndRetain now raw retention)

/-- Over whole rounds and maintenance incidents follow exactly what the rounds that did not raise observed. -/
theorem rounds_faithful {ops : List MonitorOp} (h : RoundRun ops storage) :
    ∃ log, MonitorRun log storage ∧ log.map Moment.op = ops ∧ IncidentsFaithful log storage := by
  have hrefines : ∃ log, MonitorRun log storage ∧ log.map Moment.op = ops := by
    induction h with
    | start h => exact ⟨[], .start h, rfl⟩
    | raised _ _ _ _ ih => exact ih
    | stored _ _ _ hround hordered horder ih =>
      obtain ⟨log, hrun, rfl⟩ := ih
      exact MonitorRun.round hrun hround hordered fun m hm => horder m.op (List.mem_map_of_mem hm)
    | rollup _ now raw retention hraw horder ih =>
      obtain ⟨log, hrun, rfl⟩ := ih
      exact ⟨_, Run.step hrun (.rollup now raw retention) ⟨fun m hm => horder m.op (List.mem_map_of_mem hm), hraw⟩, rfl⟩
  obtain ⟨log, hrun, hops⟩ := hrefines
  exact ⟨log, hrun, hops, (MonitorRun.tracked hrun).faithful fun _ _ _ hlog => MonitorRun.moment hrun hlog⟩

/-! ### Runs on fixed inputs -/

def storeStart : MonitorStorage where
  targetStates := Dict.empty.set "postgresql" {}
  safetyStates := Dict.empty.set "ENGINE_READY" {}

theorem storeStart_new : New storeStart where
  targetStates := by
    intro targetId state hstate
    rw [storeStart, Dict.get?_set] at hstate
    split at hstate
    · exact (Option.some.inj hstate).symm
    · cases hstate
  incidents := rfl
  checks := rfl
  safetyStates := by
    intro checkCode state hstate
    rw [storeStart, Dict.get?_set] at hstate
    split at hstate
    · exact (Option.some.inj hstate).symm
    · cases hstate
  safetyIncidents := rfl
  safetyChecks := rfl

def probed (checkedAt : Nat) (status : MonitorStatus) : ProbeResult :=
  ⟨"postgresql", checkedAt, status, some 5, none, none, Int.natCast_nonneg checkedAt⟩

def outage : List MonitorOp :=
  [.result (probed 1000000000 .unavailable), .result (probed 1010000000 .unavailable), .result (probed 1020000000 .healthy), .result (probed 1030000000 .healthy),
    .rollup 20000000000 7200 86400]

theorem monitor_faithful_outage : IncidentsFaithful (play step storeStart outage).1 (play step storeStart outage).2 ∧
    (TimelyRun (play step storeStart outage).1 (play step storeStart outage).2 →
      RollupsFaithful (play step storeStart outage).1 (play step storeStart outage).2) := by
  have hstart : TimelyRun [] storeStart := .start storeStart_new
  have hfailed : TimelyRun _ _ := .step hstart (.result (probed 1000000000 .unavailable)) ⟨⟨by simp, by decide +kernel⟩, by decide +kernel⟩
  have hopened : TimelyRun _ _ := .step hfailed (.result (probed 1010000000 .unavailable))
    ⟨⟨by simp [InOrder, probed], by decide +kernel⟩, by decide +kernel⟩
  have hhealthy : TimelyRun _ _ := .step hopened (.result (probed 1020000000 .healthy))
    ⟨⟨by simp [InOrder, probed], by decide +kernel⟩, by decide +kernel⟩
  have hresolved : TimelyRun _ _ := .step hhealthy (.result (probed 1030000000 .healthy))
    ⟨⟨by simp [InOrder, probed], by decide +kernel⟩, by decide +kernel⟩
  have hrun : TimelyRun (play step storeStart outage).1 (play step storeStart outage).2 := by
    refine .step hresolved (.rollup 20000000000 7200 86400) ⟨⟨by simp [InOrder, probed], by decide +kernel⟩, ?_, ?_⟩
    · intro hour _ _ hdropped
      simp [Dropped, probed] at hdropped
    · intro hour _ _ hdropped
      simp [Dropped, probed] at hdropped
  exact monitor_faithful (hrun.mono fun _ _ _ hop => hop.1)

/-- A round that meets an unknown target after a known one leaves nothing behind. -/
theorem rounds_faithful_raised : ∃ storage log, MonitorRun log storage ∧
    log.map Moment.op = [.result (probed 1010000000 .unavailable)] ∧ IncidentsFaithful log storage := by
  have hraised : RoundRun [] storeStart := .raised (.start storeStart_new)
    [probed 1000000000 .unavailable, ⟨"unknown", 1000000000, .healthy, none, none, none, by decide⟩] none rfl
  exact ⟨_, rounds_faithful (.stored hraised [probed 1010000000 .unavailable] none rfl (by simp [roundOps]) (by simp))⟩

def lateRound : List MonitorOp := [.result (probed 3599000000 .healthy), .rollup 3600000000 7200 7200, .result (probed 3599500000 .healthy)]

theorem late_sample_uncounted :
    ¬∀ log storage, MonitorRun log storage → IncidentsFaithful log storage ∧ RollupsFaithful log storage := by
  intro hall
  have hfirst : MonitorRun _ _ := .step (.start storeStart_new) (.result (probed 3599000000 .healthy)) ⟨by simp, by decide +kernel⟩
  have hsummed : MonitorRun _ _ := .step hfirst (.rollup 3600000000 7200 7200) ⟨by simp [InOrder, probed], by decide +kernel⟩
  have hrun : MonitorRun (play step storeStart lateRound).1 (play step storeStart lateRound).2 :=
    .step hsummed (.result (probed 3599500000 .healthy)) ⟨by simp [InOrder, probed], by decide +kernel⟩
  have hrows := (hall _ _ hrun).2.rows "postgresql" 0
  have hcount : ((play step storeStart lateRound).2.checks.rows.get? ("postgresql", 0)).map HourlyRollup.sampleCount = some 1 := by
    decide +kernel
  have hrecorded : (rollupHour ((recordedSamples (play step storeStart lateRound).1).filter
      (checkSampling.within ("postgresql", 0)))).sampleCount = 2 := by
    decide +kernel
  obtain ⟨row, hrow, hone⟩ := Option.map_eq_some_iff.mp hcount
  rw [hrows row hrow, hrecorded] at hone
  cases hone

end MonitorStorage
end QuantX
