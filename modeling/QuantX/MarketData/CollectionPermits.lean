import QuantX.MarketData.WorkUnits
import QuantX.QmtAgent.CollectionJournal
import Mathlib.Data.Finset.Card

/-! # Permits for native collection

The worker that holds the lease issues permits for the units of a request's plan, and applies the facts that come back.
Tables are dictionaries by their primary keys, a call is one transaction, and one that raises leaves them as they were.
The cutting into units, digests, and what is read of disk, sessions and receipts are given to a call. -/

namespace QuantX
open Lib

def COLLECTION_PLAN_VERSION : String := "xtdata-units-v1"
def MAX_MARKET_DATA_INFLIGHT_REQUESTS_PER_DEVICE : Nat := 2

inductive PermitState where
  | issued
  | started
  | finished
  | expired
  | aborted
  deriving DecidableEq, Repr

inductive CollectionEvent where
  | start
  | finish
  | abort
  deriving DecidableEq, Repr

inductive RequestStatus where
  | queued
  | delivered
  | receiving
  | uploaded
  | processing
  | blocked
  | failed
  | completed
  deriving DecidableEq, Repr

/-- `status IN ('QUEUED','DELIVERED','RECEIVING')`. -/
def RequestStatus.collecting (status : RequestStatus) : Bool := status = .queued ∨ status = .delivered ∨ status = .receiving

/-- What is read of a row of `market_data_request`. -/
structure CollectionRequestRow (Payload : Type) where
  payload : Payload
  deviceId : String
  status : RequestStatus
  developmentOnly : Bool
  createdAt : Int
  receivedChunks : Int := 0
  /-- `ingestion_progress->>'reason_code'`. -/
  ingestionReason : Option String := none

/-- A row of `market_data_collection_permit`; its request and unit index are the permit's. -/
structure CollectionPermitRow where
  permit : CollectionPermit
  unitId : String
  developmentOnly : Bool
  state : PermitState := .issued

/-- A row of `market_data_collection_plan`. -/
structure CollectionPlanRow where
  planVersion : String := COLLECTION_PLAN_VERSION
  payloadSha256 : String
  (unitCount nextUnitIndex : Nat)
  deriving DecidableEq, Repr

structure WorkerLease where
  (epoch expiresAt : Int)

structure CollectionCompletion where
  unit : CollectionUnit
  sha256 : String
  (byteCount recordCount : Int)
  deriving DecidableEq, Repr

structure CollectionPlanning (Payload : Type) where
  /-- `plan_historical_work_units`. -/
  units : Payload → Except String (List Payload)
  payloadSha256 : Payload → String
  unitId : CollectionUnit → String

/-- `CollectionUnit.from_payload`. -/
def CollectionPlanning.unit {Payload : Type} (planning : CollectionPlanning Payload) (requestId : String) (unitIndex : Nat) (payload : Payload) :
    CollectionUnit where
  requestId := requestId
  unitIndex := unitIndex
  payloadSha256 := planning.payloadSha256 payload

/-- What a worker calls with: its epoch, the clock at begin and end, a fresh id, whether the staging disk has room for
    requests, and which aborted permits wait for a native dependency. -/
structure WorkerCall where
  (epoch now later : Int)
  permitId : String
  hasCapacity : List String → Bool
  unavailable : String → Bool

structure CollectionPermitStore (Payload : Type) where
  requests : Dict String (CollectionRequestRow Payload) := .empty
  permits : Dict String CollectionPermitRow := .empty
  plans : Dict String CollectionPlanRow := .empty
  productionStreak : Nat := 0
  lease : Option WorkerLease := none

namespace CollectionPermitStore
variable {Payload : Type} (planning : CollectionPlanning Payload) (s : CollectionPermitStore Payload) (worker : WorkerCall)

def acquire (now : Int) : CollectionPermitStore Payload :=
  match s.lease with
  | none => { s with lease := some ⟨1, now + 15000000⟩ }
  | some lease => if lease.expiresAt ≤ now then { s with lease := some ⟨lease.epoch + 1, now + 15000000⟩ } else s

/-- `renew` and `release`, which set when the lease of an epoch ends. -/
def setLease (epoch now expiresAt : Int) (live : Bool) : CollectionPermitStore Payload :=
  { s with lease := s.lease.map fun lease =>
      if lease.epoch = epoch ∧ (live = true → now < lease.expiresAt) then { lease with expiresAt } else lease }

/-- `_guard_ingestion_owner`, when a call begins and when it ends. -/
def guardOwner : Except String Unit :=
  require (s.lease.any fun lease => lease.epoch = worker.epoch ∧ worker.now < lease.expiresAt ∧ worker.later < lease.expiresAt)
    "market-data worker lease was lost"

def requestPermits (requestId : String) : List CollectionPermitRow := s.permits.values.filter (·.permit.unit.requestId = requestId)

def completed (requestId : String) : Finset Nat :=
  (((s.requestPermits requestId).filter (·.state = .finished)).map (·.permit.unit.unitIndex)).toFinset

def planned (requestId : String) (units : List Payload) (row : CollectionPermitRow) : Bool :=
  (units[row.permit.unit.unitIndex]?).any fun payload =>
    planning.unitId (planning.unit requestId row.permit.unit.unitIndex payload) = row.unitId

def planRow (requestId : String) (payload : Payload) (units : List Payload) : CollectionPlanRow :=
  s.plans.getD requestId
    { payloadSha256 := planning.payloadSha256 payload, unitCount := units.length, nextUnitIndex := (s.completed requestId).card }

def registerPlan (requestId : String) (payload : Payload) (units : List Payload) : Except String (CollectionPermitStore Payload × CollectionPlanRow) := do
  require (∀ row ∈ s.requestPermits requestId, planned planning requestId units row = true) "collection request changed after permission issuance"
  require (s.completed requestId = Finset.range (s.completed requestId).card) "collection completion sequence is not contiguous"
  let plan := s.planRow planning requestId payload units
  require (1 ≤ plan.unitCount ∧ plan.unitCount ≤ MAX_COLLECTION_UNITS ∧ plan.nextUnitIndex ≤ plan.unitCount) "IntegrityError"
  require (plan.planVersion = COLLECTION_PLAN_VERSION ∧ plan.payloadSha256 = planning.payloadSha256 payload ∧ plan.unitCount = units.length)
    "collection request changed after plan registration"
  require (plan.nextUnitIndex = (s.completed requestId).card) "collection plan and completion facts disagree"
  return ({ s with plans := s.plans.setdefault requestId plan }, plan)

def register (requestId : String) : Except String (CollectionPermitStore Payload) := do
  s.guardOwner worker
  match s.requests.get? requestId with
  | none => .error "collection source is not eligible"
  | some request =>
    require request.status.collecting "collection source is not eligible"
    let units ← planning.units request.payload
    let registered ← s.registerPlan planning requestId request.payload units
    return registered.1

/-! ### Issuing -/

def nativeDependencyBlocked : Bool := s.permits.entries.any fun entry => entry.2.state = .aborted && worker.unavailable entry.1

def admitted : List (String × CollectionRequestRow Payload) :=
  s.requests.entries.filter fun entry =>
    entry.2.status = .delivered || entry.2.status = .receiving || entry.2.status = .uploaded || entry.2.status = .processing ||
      entry.2.status = .queued && (0 < entry.2.receivedChunks || (s.requestPermits entry.1).length ≠ 0)

def deviceRequests (deviceId : String) : List String := (s.admitted.filter (·.2.deviceId = deviceId)).map Prod.fst

def hasRoom (deviceId requestId : String) : Bool :=
  ((s.deviceRequests deviceId).contains requestId || (s.deviceRequests deviceId).length < MAX_MARKET_DATA_INFLIGHT_REQUESTS_PER_DEVICE) &&
    worker.hasCapacity (requestId :: (s.admitted.filter (·.2.status.collecting)).map Prod.fst)

def expireIssued (now : Int) : CollectionPermitStore Payload :=
  { s with permits := s.permits.map fun row =>
      if row.state = .issued ∧ row.permit.expiresAt ≤ now then { row with state := .expired } else row }

def standing (unit : CollectionUnit) : List CollectionPermitRow :=
  s.permits.values.filter fun row =>
    row.state = .issued || row.state = .started || row.unitId = planning.unitId unit && row.state = .finished

def newPermit (deviceId : String) (unit : CollectionUnit) : Except String CollectionPermit :=
  match s.lease with
  | none => .error "NoResultFound"
  | some lease =>
    if h : 0 < worker.epoch ∧ worker.later < min lease.expiresAt (worker.later + 30000000) ∧
        min lease.expiresAt (worker.later + 30000000) - worker.later ≤ 30000000 then
      .ok {
        permitId := worker.permitId, deviceId, ownerEpoch := worker.epoch, unit
        issuedAt := worker.later, expiresAt := min lease.expiresAt (worker.later + 30000000), epoch_pos := h.1
        validity_pos := h.2.1, validity_bounded := h.2.2 }
    else .error "collection permit validity must be positive and at most 30 seconds"

def insertPermit (permit : CollectionPermit) (developmentOnly : Bool) : CollectionPermitStore Payload :=
  { s with
    permits := s.permits.set permit.permitId
      { permit, unitId := planning.unitId permit.unit, developmentOnly }
    requests := s.requests.modify permit.unit.requestId fun request =>
      if request.status = .queued then { request with status := .delivered } else request }

/-- The last part of `_issue`, for the next unit of a plan. -/
def grantUnit (deviceId : String) (unit : CollectionUnit) (developmentOnly : Bool) :
    Except String (CollectionPermitStore Payload × Option CollectionPermit) :=
  match (s.standing planning unit).find? fun row =>
      row.state = .issued && row.permit.unit = unit && row.permit.ownerEpoch = worker.epoch with
  | some row => .ok (s, some row.permit)
  | none =>
    if (s.standing planning unit).length ≠ 0 then .ok (s, none)
    else do
      let permit ← s.newPermit worker deviceId unit
      require (s.permits.get? permit.permitId).isNone "IntegrityError"
      return (s.insertPermit planning permit developmentOnly, some permit)

/-- `_issue`. -/
def issueUnit (deviceId : String) (unit : CollectionUnit) : Except String (CollectionPermitStore Payload × Option CollectionPermit) :=
  if s.nativeDependencyBlocked worker then .ok (s, none)
  else match s.requests.get? unit.requestId with
    | none => .error "collection source identity mismatch"
    | some request => do
      require (request.deviceId = deviceId) "collection source identity mismatch"
      require request.status.collecting "collection source is not eligible"
      if s.hasRoom worker deviceId unit.requestId then
        let units ← planning.units request.payload
        require ((units[unit.unitIndex]?).any fun payload => planning.unit unit.requestId unit.unitIndex payload = unit)
          "collection unit does not match original request"
        let registered ← s.registerPlan planning unit.requestId request.payload units
        if registered.2.nextUnitIndex ≠ unit.unitIndex then return (registered.1, none)
        (registered.1.expireIssued worker.now).grantUnit planning worker deviceId unit request.developmentOnly
      else return (s, none)

def issue (deviceId : String) (unit : CollectionUnit) : Except String (CollectionPermitStore Payload × Option CollectionPermit) := do
  s.guardOwner worker
  s.issueUnit planning worker deviceId unit

def dependencyReasons : List String :=
  ["DEPENDENCY_QUERY_CAPACITY_BLOCKED", "DEPENDENCY_AUTH_BLOCKED", "DEPENDENCY_WRITE_CAPACITY_BLOCKED",
    "DEPENDENCY_READBACK_UNAVAILABLE", "DEPENDENCY_WRITE_UNAVAILABLE"]

def dependencyBlocked : Bool :=
  s.requests.values.any fun request => request.status = .blocked && request.ingestionReason.any dependencyReasons.contains

def candidates (deviceId : String) (developmentAllowed : Bool) : List (String × CollectionRequestRow Payload × CollectionPlanRow) :=
  s.plans.entries.filterMap fun entry =>
    ((s.requests.get? entry.1).filter fun request =>
      request.deviceId = deviceId && request.status.collecting && entry.2.nextUnitIndex < entry.2.unitCount &&
        (!request.developmentOnly || developmentAllowed) &&
        ((s.deviceRequests deviceId).length < MAX_MARKET_DATA_INFLIGHT_REQUESTS_PER_DEVICE || (s.deviceRequests deviceId).contains entry.1)).map
      fun request => (entry.1, request, entry.2)

local instance (priority := high) candidatePreorder : Preorder Int := intPreorder

def nextCandidate (deviceId : String) (developmentAllowed : Bool) : Option (String × CollectionRequestRow Payload × CollectionPlanRow) :=
  (s.candidates deviceId developmentAllowed).argmin fun candidate =>
    toLex (if 4 ≤ s.productionStreak then !candidate.2.1.developmentOnly else candidate.2.1.developmentOnly,
      toLex (candidate.2.1.createdAt, candidate.1))

/-- `issue_next`. `sessionReady` says whether the history session may collect, where one is given. -/
def issueNext (deviceId : String) (collectionAllowed developmentAllowed sessionReady : Bool) :
    Except String (CollectionPermitStore Payload × Option CollectionPermit) :=
  if !collectionAllowed then .ok (s, none)
  else do
    s.guardOwner worker
    if !sessionReady || s.dependencyBlocked || s.nativeDependencyBlocked worker then return (s, none)
    match s.nextCandidate deviceId developmentAllowed with
    | none => return (s, none)
    | some candidate =>
      let units ← planning.units candidate.2.1.payload
      match units[candidate.2.2.nextUnitIndex]? with
      | none => .error "collection request changed after plan registration"
      | some payload => s.issueUnit planning worker deviceId (planning.unit candidate.1 candidate.2.2.nextUnitIndex payload)

def setState (permitId : String) (state : PermitState) : CollectionPermitStore Payload :=
  { s with permits := s.permits.modify permitId fun row => { row with state } }

/-- An `ABORT`, which fails the request and frees its permit. -/
def applyAbort (row : CollectionPermitRow) (completion : Option CollectionCompletion) (abort : Option CollectionAbort) :
    Except String (CollectionPermitStore Payload × Bool) := do
  require (abort.any (·.unit = row.permit.unit) ∧ completion = none) "collection abort evidence does not match the permit"
  if row.state = .aborted then return (s, false)
  require (row.state = .issued ∨ row.state = .started) "collection permit cannot be aborted"
  match s.requests.get? row.permit.unit.requestId with
  | none => .error "NoResultFound"
  | some request =>
    require (request.status.collecting ∨ request.status = .failed) "collection abort cannot replace an uploaded result"
    return ({ s.setState row.permit.permitId .aborted with
      requests := s.requests.set row.permit.unit.requestId { request with status := .failed } }, true)

/-- A `START`, before the permit expires and under the epoch that issued it. -/
def applyStart (row : CollectionPermitRow) (completion : Option CollectionCompletion) : Except String (CollectionPermitStore Payload × Bool) := do
  require (completion = none) "collection START cannot carry completion evidence"
  if row.state = .started ∨ row.state = .finished then return (s, false)
  row.permit.validateStart row.permit.deviceId row.permit.unit worker.now worker.epoch
  require (row.state = .issued) "collection permit cannot start"
  return (s.setState row.permit.permitId .started, true)

def nextStreak (developmentOnly : Bool) : Nat := if developmentOnly then 0 else min 4 (s.productionStreak + 1)

/-- A `FINISH`, which advances the plan. -/
def applyFinish (row : CollectionPermitRow) (completion : Option CollectionCompletion) : Except String (CollectionPermitStore Payload × Bool) := do
  require (completion.any (·.unit = row.permit.unit)) "collection completion evidence does not match the permit"
  if row.state = .finished then return (s, false)
  require (row.state = .started) "collection permit has not started"
  match s.plans.get? row.permit.unit.requestId with
  | none => .error "collection plan and completion facts disagree"
  | some plan =>
    require (plan.nextUnitIndex = row.permit.unit.unitIndex ∧ plan.nextUnitIndex < plan.unitCount)
      "collection plan and completion facts disagree"
    return ({ s.setState row.permit.permitId .finished with
      plans := s.plans.set row.permit.unit.requestId { plan with nextUnitIndex := plan.nextUnitIndex + 1 }
      productionStreak := s.nextStreak row.developmentOnly }, true)

/-- `apply_receipt`, which returns whether the fact was new. -/
def applyReceipt (permitId deviceId : String) (event : CollectionEvent) (completion : Option CollectionCompletion) (abort : Option CollectionAbort) :
    Except String (CollectionPermitStore Payload × Bool) :=
  match s.permits.get? permitId with
  | none => .error "unknown collection permit"
  | some row => do
    require (row.permit.deviceId = deviceId) "collection device mismatch"
    match event with
    | .abort => s.applyAbort row completion abort
    | .start =>
      require (abort = none) "only ABORT can carry exit evidence"
      s.applyStart worker row completion
    | .finish =>
      require (abort = none) "only ABORT can carry exit evidence"
      s.applyFinish row completion

def acknowledge (permitId deviceId : String) (event : CollectionEvent) (completion : Option CollectionCompletion) (abort : Option CollectionAbort) :
    Except String (CollectionPermitStore Payload × Bool) := do
  s.guardOwner worker
  s.applyReceipt worker permitId deviceId event completion abort

end CollectionPermitStore

inductive PermitCall (Payload : Type) where
  | acquire (now : Int)
  | setLease (epoch now expiresAt : Int) (live : Bool)
  | request (requestId : String) (row : CollectionRequestRow Payload)
  | register (worker : WorkerCall) (requestId : String)
  | issue (worker : WorkerCall) (deviceId : String) (unit : CollectionUnit)
  | issueNext (worker : WorkerCall) (deviceId : String) (collectionAllowed developmentAllowed sessionReady : Bool)
  | acknowledge (worker : WorkerCall) (permitId deviceId : String) (event : CollectionEvent) (completion : Option CollectionCompletion)
      (abort : Option CollectionAbort)

variable {Payload : Type}

def CollectionPermitStore.call (planning : CollectionPlanning Payload) (s : CollectionPermitStore Payload) :
    PermitCall Payload → CollectionPermitStore Payload
  | .acquire now => s.acquire now
  | .setLease epoch now expiresAt live => s.setLease epoch now expiresAt live
  | .request requestId row => { s with requests := s.requests.set requestId row }
  | .register worker requestId => (s.register planning worker requestId).toOption.getD s
  | .issue worker deviceId unit => ((s.issue planning worker deviceId unit).map Prod.fst).toOption.getD s
  | .issueNext worker deviceId collectionAllowed developmentAllowed sessionReady =>
    ((s.issueNext planning worker deviceId collectionAllowed developmentAllowed sessionReady).map Prod.fst).toOption.getD s
  | .acknowledge worker permitId deviceId event completion abort =>
    ((s.acknowledge worker permitId deviceId event completion abort).map Prod.fst).toOption.getD s

end QuantX
