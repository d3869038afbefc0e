import QuantX.Lib.Rank
import QuantX.Lib.Require
import QuantX.Text

/-! Ordering of risk increases before their orders take the account lock. A batch ranks all ready buys of an account, a
    dispatcher claims it under a lease with a fence token, and a commit goes through only while claim, snapshot and
    ranked material stand. Rows are tables by their keys, a call is atomic, clocks count microseconds, and a digest is
    SHA-256 of a canonical text, 64 lower-case digits. -/

namespace QuantX
open Lib (Dict require sortBy)

inductive ExecutionOwnerType where
  | strategyRun
  | tAssistantExecution
  | entryPlan
  | boardAssistantExecution
  | exitPlan
  | manualCommand
deriving DecidableEq, Repr

namespace ExecutionOwnerType

def value : ExecutionOwnerType → String
  | strategyRun => "STRATEGY_RUN"
  | tAssistantExecution => "T_ASSISTANT_EXECUTION"
  | entryPlan => "ENTRY_PLAN"
  | boardAssistantExecution => "BOARD_ASSISTANT_EXECUTION"
  | exitPlan => "EXIT_PLAN"
  | manualCommand => "MANUAL_COMMAND"

def all : List ExecutionOwnerType :=
  [strategyRun, tAssistantExecution, entryPlan, boardAssistantExecution, exitPlan, manualCommand]

/-- `ExecutionOwnerType(text)`. -/
def ofValue (text : String) : Except String ExecutionOwnerType :=
  match all.find? fun owner => owner.value = text with
  | some owner => .ok owner
  | none => .error (text ++ " is not a valid ExecutionOwnerType")

/-- `RISK_INCREASE_OWNER_PRIORITY`; the owners without one never increase risk. -/
def riskIncreasePriority : ExecutionOwnerType → Option Nat
  | manualCommand => some 0
  | entryPlan => some 1
  | boardAssistantExecution => some 2
  | tAssistantExecution => some 3
  | strategyRun => some 4
  | exitPlan => none

end ExecutionOwnerType

structure AdmissionAllocation where
  batchId : String
  (rank createdAt : Int)
deriving DecidableEq, Repr

structure RiskIncreaseAdmissionCandidate (Sha : Type) where
  intentId : String
  ownerType : ExecutionOwnerType
  ownerId : String
  createdAt : Int
  materialFingerprint : Sha
  allocation : Option AdmissionAllocation
deriving DecidableEq, Repr

section Ranking
variable {Sha : Type}

namespace RiskIncreaseAdmissionCandidate

/-- `__post_init__`. -/
def check (item : RiskIncreaseAdmissionCandidate Sha) : Except String Unit := do
  require (stripText item.intentId ≠ "") "RISK_ADMISSION_INTENT_ID_REQUIRED"
  require (stripText item.ownerId ≠ "") "RISK_ADMISSION_OWNER_ID_REQUIRED"
  require (item.ownerType.riskIncreasePriority ≠ none) "RISK_ADMISSION_OWNER_NOT_RISK_INCREASE_PRODUCER"
  if item.ownerType = .tAssistantExecution then
    require (∃ allocation ∈ item.allocation, allocation.batchId ≠ "" ∧ 1 ≤ allocation.rank) "RISK_ADMISSION_T_ALLOCATION_REQUIRED"
  else require (item.allocation = none) "RISK_ADMISSION_ALLOCATION_OWNER_CONFLICT"

/-- The sort key of `rank_risk_increase_candidates`. -/
def orderKey (item : RiskIncreaseAdmissionCandidate Sha) : Nat ×ₗ Int ×ₗ String ×ₗ String ×ₗ String ×ₗ Int ×ₗ String :=
  toLex (item.ownerType.riskIncreasePriority.getD 0,
    toLex (if item.ownerType = .tAssistantExecution then (item.allocation.map (·.createdAt)).getD 0 else item.createdAt,
    toLex (item.ownerType.value, toLex (item.ownerId, toLex ((item.allocation.map (·.batchId)).getD "",
    toLex ((item.allocation.map (·.rank)).getD 0, item.intentId))))))

end RiskIncreaseAdmissionCandidate

structure RankedRiskIncreaseAdmission (Sha : Type) where
  admissionRank : Nat
  candidate : RiskIncreaseAdmissionCandidate Sha
deriving DecidableEq, Repr

/-- `enumerate(ordered, start=1)`. -/
def ranked (ordered : List (RiskIncreaseAdmissionCandidate Sha)) : List (RankedRiskIncreaseAdmission Sha) :=
  ordered.mapIdx fun i candidate => ⟨i + 1, candidate⟩

def rankRiskIncreaseCandidates (candidates : List (RiskIncreaseAdmissionCandidate Sha)) :
    Except String (List (RankedRiskIncreaseAdmission Sha)) := do
  require (candidates.map (·.intentId)).Nodup "RISK_ADMISSION_DUPLICATE_INTENT"
  return ranked (sortBy (·.orderKey) candidates)

/-- `str.lower` of a snapshot hash or a watermark. -/
def lowerDigest (text : String) : String := String.ofList (text.toList.map Char.toLower)

/-- One entry of the manifest: the rank and `manifest_value`. -/
structure AdmissionManifestEntry (Sha : Type) where
  rank : Nat
  (intentId ownerType ownerId : String)
  createdAt : Int
  materialFingerprint : Sha
  allocation : Option AdmissionAllocation
deriving DecidableEq, Repr

def RankedRiskIncreaseAdmission.manifestEntry (item : RankedRiskIncreaseAdmission Sha) : AdmissionManifestEntry Sha where
  rank := item.admissionRank
  intentId := item.candidate.intentId
  ownerType := item.candidate.ownerType.value
  ownerId := item.candidate.ownerId
  createdAt := item.candidate.createdAt
  materialFingerprint := item.candidate.materialFingerprint
  allocation := item.candidate.allocation

end Ranking

/-! ### Tables -/

/-- What the order of an intent is made from; `request` is `metadata.risk_increase_order_request`. -/
structure OrderMaterial (Request : Type) where
  (bucket priority : String)
  (targetAmount targetPositionPct : Option Rat)
  targetVolume : Option Int
  limitPriceHint : Option Rat
  riskDecisionId : String
  request : Option Request
deriving DecidableEq

structure AdmissionIntent (Request Sha : Type) where
  (ownerType ownerId environment accountId instrumentCode direction status : String)
  createdAt : Int
  order : OrderMaterial Request
  (candidateId allocationCycleId : Option String)
  allocationVersion : Int
  (allocationDecisionId admissionBatchId : Option String)
  admissionRank : Option Nat
  admissionPolicyVersion : Option String
  admissionInputFingerprint : Option Sha

structure TAllocationDecisionRecord where
  (allocationBatchId action intentId instrumentCode : String)
  intentVersion : Int
  candidateId : Option String
  rank : Option Int
  allocatedAmountCap : String

structure TAllocationBatchRecord where
  (status environment executionId : String)
  cycleId : Option String
  createdAt : Int
  portfolioInputFingerprint : String

/-- The last snapshot of a live account's `AccountExecutionControl`. -/
structure AccountSnapshotControl where
  (lastSnapshotId lastSnapshotHash : String)

structure PaperExecutionAccount where
  (accountId environment : String)
  revision : Nat
  snapshotHash : String
  snapshotAsOf : Int

inductive AdmissionBatchStatus where
  | prepared
  | committed
  | superseded
  | expired
  | failed
deriving DecidableEq, Repr

structure AdmissionBatch (Sha : Type) where
  (accountId environment : String)
  paperExecutionId : Option String
  attempt : Nat
  (policyVersion accountSnapshotId accountSnapshotHash obligationWatermark : String)
  (inputFingerprint intentManifestHash : Sha)
  status : AdmissionBatchStatus
  terminalReason : Option String
  expiresAt : Int
  (processingOwner processingFenceToken : Option String)
  (processingLeaseUntil committedAt : Option Int)
deriving DecidableEq, Repr

structure AdmissionItem where
  (admissionBatchId intentId : String)
  admissionRank : Nat
  (ownerType ownerId : String)
  intentCreatedAt : Int
deriving DecidableEq, Repr

structure AdmissionTables (Request Sha : Type) where
  batches : Dict String (AdmissionBatch Sha)
  items : List AdmissionItem
  intents : Dict String (AdmissionIntent Request Sha)
  controls : Dict String AccountSnapshotControl
  paperAccounts : Dict String PaperExecutionAccount
  decisions : Dict String TAllocationDecisionRecord
  allocations : Dict String TAllocationBatchRecord

structure AllocationMaterial where
  decisionId : String
  intentVersion : Int
  allocationBatchId : String
  rank : Int
  (allocatedAmountCap portfolioInputFingerprint : String)
deriving DecidableEq

/-- The payload of `_intent_material_fingerprint`. -/
structure IntentMaterial (Request : Type) where
  (intentId environment : String)
  paperExecutionId : Option String
  (ownerType ownerId : String)
  allocationMaterial : Option AllocationMaterial
  (accountId instrumentCode direction : String)
  order : OrderMaterial Request
deriving DecidableEq

/-- The values of `risk_increase_input_fingerprint`. -/
structure AdmissionInput (Sha : Type) where
  (accountId accountSnapshotId accountSnapshotHash obligationWatermark : String)
  intentManifestHash : Sha
  (policyVersion environment : String)
  paperExecutionId : Option String
deriving DecidableEq

/-- `hashlib.sha256` of the canonical JSON of each kind of payload, which tells payloads apart. -/
structure AdmissionHost (Request Sha : Type) where
  materialDigest : IntentMaterial Request → Sha
  manifestDigest : List (AdmissionManifestEntry Sha) → Sha
  inputDigest : AdmissionInput Sha → Sha
  materialDigest_injective : Function.Injective materialDigest
  manifestDigest_injective : Function.Injective manifestDigest

def riskIncreaseAdmissionPolicyVersion : String := "AccountRiskIncreaseAdmissionPolicy.v1"

inductive AdmissionScope where
  | live
  | paper (executionId : String)
deriving DecidableEq, Repr

def AdmissionScope.environment : AdmissionScope → String
  | live => "LIVE"
  | paper _ => "PAPER"

def AdmissionScope.paperExecutionId : AdmissionScope → Option String
  | live => none
  | paper executionId => some executionId

/-- `ADMISSION_LEASE_SECONDS`. -/
def admissionLease : Int := 10 * 1000000
/-- `ADMISSION_TTL_SECONDS`. -/
def admissionTtl : Int := 30 * 1000000

section Sequencer
variable {Request Sha : Type} [DecidableEq Sha] (host : AdmissionHost Request Sha) (scope : AdmissionScope) (t : AdmissionTables Request Sha)

/-- The id and the hash of the account's current snapshot in `_validate_account_snapshot`. -/
def expectedSnapshot (accountId : String) (now : Int) : Except String (String × String) :=
  match scope with
  | .paper executionId => match t.paperAccounts.get? executionId with
    | none => .error "RISK_ADMISSION_PAPER_ACCOUNT_SCOPE_CONFLICT"
    | some account =>
      if account.accountId ≠ accountId ∨ account.environment ≠ "PAPER" then
        .error "RISK_ADMISSION_PAPER_ACCOUNT_SCOPE_CONFLICT"
      else if now < account.snapshotAsOf then .error "RISK_ADMISSION_ACCOUNT_SNAPSHOT_FUTURE"
      else .ok ("paper:" ++ executionId ++ ":" ++ toString account.revision, account.snapshotHash)
  | .live => match t.controls.get? accountId with
    | none => .error "RISK_ADMISSION_ACCOUNT_CONTROL_MISSING"
    | some control => .ok (control.lastSnapshotId, control.lastSnapshotHash)

def validateAccountSnapshot (accountId snapshotId snapshotHash : String) (now : Int) : Except String Unit := do
  let expected ← expectedSnapshot scope t accountId now
  require (expected.1 = snapshotId ∧ lowerDigest expected.2 = lowerDigest snapshotHash) "RISK_ADMISSION_ACCOUNT_SNAPSHOT_CHANGED"

/-- `_validate_account` of the repository. -/
def validateAdmissionAccount (accountId : String) : Except String Unit :=
  match scope with
  | .live => .ok ()
  | .paper executionId => require (∃ account ∈ t.paperAccounts.get? executionId, account.accountId = accountId ∧ account.environment = "PAPER")
      "RISK_ADMISSION_PAPER_ACCOUNT_SCOPE_CONFLICT"

def AdmissionBatch.inScope (batch : AdmissionBatch Sha) : Prop :=
  batch.environment = scope.environment ∧ batch.paperExecutionId = scope.paperExecutionId

instance (batch : AdmissionBatch Sha) : Decidable (batch.inScope scope) := inferInstanceAs (Decidable (_ ∧ _))

def findBatch (batchId : String) : Except String (Option (AdmissionBatch Sha)) :=
  match (t.batches.get? batchId).filter fun batch => batch.inScope scope with
  | none => .ok none
  | some batch => do
    validateAdmissionAccount scope t batch.accountId
    return some batch

def allocationOf (intentId : String) (intent : AdmissionIntent Request Sha) : Except String (AdmissionAllocation × AllocationMaterial) :=
  let found := do
    let decisionId ← intent.allocationDecisionId
    let decision ← if decisionId = "" then none else t.decisions.get? decisionId
    let allocation ← t.allocations.get? decision.allocationBatchId
    let rank ← decision.rank
    if allocation.status = "COMMITTED" ∧ (decision.action = "ALLOW" ∨ decision.action = "CAP") ∧
        allocation.environment = scope.environment ∧ allocation.executionId = intent.ownerId ∧
        allocation.cycleId = intent.allocationCycleId ∧ decision.intentId = intentId ∧
        decision.instrumentCode = intent.instrumentCode ∧ decision.intentVersion + 1 = intent.allocationVersion ∧
        decision.candidateId = intent.candidateId ∧ 1 ≤ rank then
      some (⟨decision.allocationBatchId, rank, allocation.createdAt⟩,
        ⟨decisionId, decision.intentVersion, decision.allocationBatchId, rank, decision.allocatedAmountCap,
          allocation.portfolioInputFingerprint⟩)
    else none
  match found with
  | some allocation => .ok allocation
  | none => .error "RISK_ADMISSION_T_ALLOCATION_REQUIRED"

/-- The payload that `_candidate` digests, with the owner and the allocation fields it found. -/
def materialOf (intentId : String) (intent : AdmissionIntent Request Sha) :
    Except String (ExecutionOwnerType × Option AdmissionAllocation × IntentMaterial Request) := do
  let ownerType ← ExecutionOwnerType.ofValue (upperText intent.ownerType)
  require (intent.environment = scope.environment ∧
    ∀ executionId ∈ scope.paperExecutionId, ownerType = .tAssistantExecution ∧ intent.ownerId = executionId)
    "RISK_ADMISSION_INTENT_SCOPE_CONFLICT"
  let allocation ← if ownerType = .tAssistantExecution then (allocationOf scope t intentId intent).map some else .ok none
  return (ownerType, allocation.map Prod.fst,
    { intentId
      environment := scope.environment, paperExecutionId := scope.paperExecutionId, ownerType := intent.ownerType
      ownerId := intent.ownerId, allocationMaterial := allocation.map Prod.snd, accountId := intent.accountId
      instrumentCode := upperText intent.instrumentCode, direction := upperText intent.direction
      order := intent.order })

/-- `_candidate`. -/
def candidateOf (intentId : String) (intent : AdmissionIntent Request Sha) : Except String (RiskIncreaseAdmissionCandidate Sha) := do
  let (ownerType, allocation, material) ← materialOf scope t intentId intent
  let candidate : RiskIncreaseAdmissionCandidate Sha :=
    { intentId, ownerType, ownerId := intent.ownerId, createdAt := intent.createdAt
      materialFingerprint := host.materialDigest material, allocation }
  candidate.check
  return candidate

/-! ### Preparing -/

structure PrepareCall where
  (accountId accountSnapshotId accountSnapshotHash obligationWatermark : String)
  intentIds : List String
  policyVersion : String
  now : Int
  commit : Bool
  /-- The `uuid4` of a new batch. -/
  batchId : String

def readyIntents (accountId : String) : List (String × AdmissionIntent Request Sha) :=
  sortBy (fun e => (toLex (e.2.createdAt, toLex (e.2.ownerType, toLex (e.2.ownerId, e.1))) : Int ×ₗ String ×ₗ String ×ₗ String))
    (t.intents.entries.filter fun e =>
      e.2.accountId = accountId ∧ e.2.environment = scope.environment ∧ e.2.direction = "BUY" ∧ e.2.status = "EXECUTION_READY" ∧
        ∀ executionId ∈ scope.paperExecutionId, e.2.ownerType = "T_ASSISTANT_EXECUTION" ∧ e.2.ownerId = executionId)

structure PrepareInputs (Request Sha : Type) where
  accountId : String
  intents : List (String × AdmissionIntent Request Sha)
  ranked : List (RankedRiskIncreaseAdmission Sha)
  (manifestHash inputFingerprint : Sha)

/-- The checks of `prepare_batch` and its ranking. -/
def prepareInputs (call : PrepareCall) : Except String (PrepareInputs Request Sha) := do
  let accountId := stripText call.accountId
  require (accountId ≠ "") "RISK_ADMISSION_ACCOUNT_REQUIRED"
  validateAccountSnapshot scope t accountId call.accountSnapshotId call.accountSnapshotHash call.now
  let ids := (call.intentIds.map stripText).dedup
  require (∀ id ∈ ids, id ≠ "") "RISK_ADMISSION_INTENT_ID_REQUIRED"
  let intents := readyIntents scope t accountId
  let ready := intents.map Prod.fst
  require (ids = [] ∨ ((∀ id ∈ ids, id ∈ ready) ∧ ∀ id ∈ ready, id ∈ ids)) "RISK_ADMISSION_READY_SET_CHANGED"
  require (intents ≠ []) "RISK_ADMISSION_EMPTY_BATCH"
  let candidates ← intents.mapM fun e => candidateOf host scope t e.1 e.2
  let ranked ← rankRiskIncreaseCandidates candidates
  let manifestHash := host.manifestDigest (ranked.map (·.manifestEntry))
  let input : AdmissionInput Sha :=
    { accountId
      accountSnapshotId := call.accountSnapshotId, accountSnapshotHash := lowerDigest call.accountSnapshotHash
      obligationWatermark := lowerDigest call.obligationWatermark, intentManifestHash := manifestHash
      policyVersion := call.policyVersion, environment := scope.environment
      paperExecutionId := scope.paperExecutionId }
  require (∀ value ∈ [input.accountId, input.accountSnapshotId, input.accountSnapshotHash, input.obligationWatermark,
    input.policyVersion], value ≠ "") "RISK_ADMISSION_INPUT_INCOMPLETE"
  return { accountId, intents, ranked, manifestHash, inputFingerprint := host.inputDigest input }

structure AdmissionOutcome (Request Sha α : Type) where
  answer : Except String α
  tables : AdmissionTables Request Sha
  committed : Bool

def PrepareInputs.boundBatches (inputs : PrepareInputs Request Sha) : List String :=
  ((inputs.intents.filterMap fun e => e.2.admissionBatchId).filter fun id => id ≠ "").dedup

inductive AdmissionAssigned (Request Sha : Type) where
  | reuse (batchId : String)
  | free (t : AdmissionTables Request Sha)

def AdmissionBatch.retire (batch : AdmissionBatch Sha) (now : Int) : AdmissionBatch Sha :=
  if batch.expiresAt ≤ now then { batch with status := .expired, terminalReason := some "RISK_ADMISSION_TTL_EXPIRED" }
  else { batch with status := .superseded, terminalReason := some "RISK_ADMISSION_INPUT_CHANGED" }

def retireAssigned (inputs : PrepareInputs Request Sha) (now : Int) : Except String (AdmissionAssigned Request Sha) :=
  match inputs.boundBatches with
  | [] => .ok (.free t)
  | [batchId] => do
    match ← findBatch scope t batchId with
    | none => .error "RISK_ADMISSION_DURABLE_BATCH_MISSING"
    | some existing =>
      if (∀ e ∈ inputs.intents, e.2.admissionBatchId = some batchId) ∧ existing.status = .prepared ∧
          existing.inputFingerprint = inputs.inputFingerprint ∧ now < existing.expiresAt then
        return .reuse batchId
      else if existing.status = .committed then .error "RISK_ADMISSION_BATCH_ALREADY_COMMITTED"
      else if existing.status = .prepared then
        return .free { t with batches := t.batches.set batchId (existing.retire now) }
      else return .free t
  | _ => .error "RISK_ADMISSION_INTENT_ALREADY_ASSIGNED"

def scopedBatches (accountId : String) : List (String × AdmissionBatch Sha) :=
  t.batches.entries.filter fun e => e.2.accountId = accountId ∧ e.2.inScope scope

def latestForInput (accountId : String) (inputFingerprint : Sha) : Except String (Option (String × AdmissionBatch Sha)) := do
  validateAdmissionAccount scope t accountId
  return (sortBy (fun e => e.2.attempt) ((scopedBatches scope t accountId).filter fun e =>
    e.2.inputFingerprint = inputFingerprint)).getLast?

def nextAttempt (accountId : String) : Except String Nat := do
  validateAdmissionAccount scope t accountId
  return ((scopedBatches scope t accountId).map fun e => e.2.attempt).foldl max 0 + 1

def newBatch (call : PrepareCall) (inputs : PrepareInputs Request Sha) (attempt : Nat) : AdmissionBatch Sha where
  accountId := inputs.accountId
  environment := scope.environment
  paperExecutionId := scope.paperExecutionId
  attempt
  policyVersion := call.policyVersion
  accountSnapshotId := call.accountSnapshotId
  accountSnapshotHash := lowerDigest call.accountSnapshotHash
  obligationWatermark := lowerDigest call.obligationWatermark
  inputFingerprint := inputs.inputFingerprint
  intentManifestHash := inputs.manifestHash
  status := .prepared
  terminalReason := none
  expiresAt := call.now + admissionTtl
  processingOwner := none
  processingFenceToken := none
  processingLeaseUntil := none
  committedAt := none

def bindIntent (call : PrepareCall) (inputs : PrepareInputs Request Sha) (intents : Dict String (AdmissionIntent Request Sha))
    (item : RankedRiskIncreaseAdmission Sha) : Dict String (AdmissionIntent Request Sha) :=
  intents.modify item.candidate.intentId fun intent =>
    { intent with
      admissionBatchId := some call.batchId, admissionRank := some item.admissionRank
      admissionPolicyVersion := some call.policyVersion, admissionInputFingerprint := some inputs.inputFingerprint }

def itemOf (batchId : String) (item : RankedRiskIncreaseAdmission Sha) : AdmissionItem where
  admissionBatchId := batchId
  intentId := item.candidate.intentId
  admissionRank := item.admissionRank
  ownerType := item.candidate.ownerType.value
  ownerId := item.candidate.ownerId
  intentCreatedAt := item.candidate.createdAt

def insertBatch (call : PrepareCall) (inputs : PrepareInputs Request Sha) (attempt : Nat) : AdmissionTables Request Sha :=
  { t with
    batches := t.batches.set call.batchId (newBatch scope call inputs attempt)
    intents := inputs.ranked.foldl (bindIntent call inputs) t.intents
    items := t.items ++ inputs.ranked.map (itemOf call.batchId) }

/-- `prepare_batch`; it answers the id of the batch. -/
def prepareBatch (call : PrepareCall) : AdmissionOutcome Request Sha String :=
  match prepareInputs host scope t call with
  | .error message => ⟨.error message, t, false⟩
  | .ok inputs =>
    match retireAssigned scope t inputs call.now with
    | .error message => ⟨.error message, t, false⟩
    | .ok (.reuse batchId) => ⟨.ok batchId, t, false⟩
    | .ok (.free freed) =>
      match latestForInput scope freed inputs.accountId inputs.inputFingerprint with
      | .error message => ⟨.error message, freed, false⟩
      | .ok latest =>
        match latest.filter fun e => e.2.status = .prepared ∧ call.now < e.2.expiresAt with
        | some existing => ⟨.ok existing.1, freed, false⟩
        | none =>
          if ∃ existing ∈ latest, existing.2.status = .committed then
            ⟨.error "RISK_ADMISSION_BATCH_ALREADY_COMMITTED", freed, false⟩
          else match nextAttempt scope freed inputs.accountId with
            | .error message => ⟨.error message, freed, false⟩
            | .ok attempt => ⟨.ok call.batchId, insertBatch scope freed call inputs attempt, call.commit⟩

structure ClaimCall where
  (batchId processingOwner : String)
  now : Int
  commit : Bool
  /-- The `uuid4` of the claim. -/
  token : String

structure AdmissionBatchClaim where
  (batchId fenceToken : String)
  (expiresAt leaseUntil : Int)
deriving DecidableEq, Repr

def AdmissionBatch.expire (batch : AdmissionBatch Sha) : AdmissionBatch Sha :=
  { batch with status := .expired, terminalReason := some "RISK_ADMISSION_TTL_EXPIRED" }

def AdmissionTables.setBatch (batchId : String) (batch : AdmissionBatch Sha) : AdmissionTables Request Sha :=
  { t with batches := t.batches.set batchId batch }

def snapshotBatch (batchId : String) (now : Int) : Except String (AdmissionBatch Sha) := do
  match ← findBatch scope t batchId with
  | none => .error "RISK_ADMISSION_BATCH_NOT_FOUND"
  | some batch =>
    validateAccountSnapshot scope t batch.accountId batch.accountSnapshotId batch.accountSnapshotHash now
    require (batch.status = .prepared) "RISK_ADMISSION_BATCH_NOT_PREPARED"
    return batch

def claimBatch (call : ClaimCall) : AdmissionOutcome Request Sha AdmissionBatchClaim :=
  if stripText call.processingOwner = "" then ⟨.error "RISK_ADMISSION_PROCESSING_OWNER_REQUIRED", t, false⟩
  else match snapshotBatch scope t call.batchId call.now with
    | .error message => ⟨.error message, t, false⟩
    | .ok batch =>
      if batch.expiresAt ≤ call.now then
        ⟨.error "RISK_ADMISSION_TTL_EXPIRED", t.setBatch call.batchId batch.expire, call.commit⟩
      else if batch.processingFenceToken.getD "" ≠ "" ∧ ∃ lease ∈ batch.processingLeaseUntil, call.now < lease then
        ⟨.error "RISK_ADMISSION_LEASE_HELD", t, false⟩
      else
        let leaseUntil := call.now + admissionLease
        ⟨.ok ⟨call.batchId, call.token, batch.expiresAt, leaseUntil⟩,
          t.setBatch call.batchId { batch with
            processingOwner := some (stripText call.processingOwner), processingFenceToken := some call.token
            processingLeaseUntil := some leaseUntil }, call.commit⟩

/-- `_locked_claimed_batch`: an error leaves what the session holds to its caller. -/
def lockedClaimedBatch (batchId fenceToken : String) (now : Int) : Except (String × AdmissionTables Request Sha) (AdmissionBatch Sha) :=
  match snapshotBatch scope t batchId now with
  | .error message => .error (message, t)
  | .ok batch =>
    if batch.processingFenceToken.getD "" ≠ fenceToken then .error ("RISK_ADMISSION_FENCE_CONFLICT", t)
    else if ¬∃ lease ∈ batch.processingLeaseUntil, now < lease then .error ("RISK_ADMISSION_LEASE_EXPIRED", t)
    else if batch.expiresAt ≤ now then .error ("RISK_ADMISSION_TTL_EXPIRED", t.setBatch batchId batch.expire)
    else .ok batch

structure RenewCall where
  (batchId fenceToken : String)
  now : Int
  commit : Bool

def renewClaim (call : RenewCall) : AdmissionOutcome Request Sha Int :=
  match lockedClaimedBatch scope t call.batchId call.fenceToken call.now with
  | .error (message, held) => ⟨.error message, held, false⟩
  | .ok batch =>
    let leaseUntil := call.now + admissionLease
    ⟨.ok leaseUntil, t.setBatch call.batchId { batch with processingLeaseUntil := some leaseUntil }, call.commit⟩

structure CommitCall where
  (batchId fenceToken accountSnapshotId accountSnapshotHash obligationWatermark : String)
  now : Int
  commit : Bool

def AdmissionBatch.supersede (batch : AdmissionBatch Sha) (reason : String) : AdmissionBatch Sha :=
  { batch with status := .superseded, terminalReason := some reason }

def batchItems (batchId : String) : List AdmissionItem :=
  sortBy (·.admissionRank) (t.items.filter fun item => item.admissionBatchId = batchId)

def stillReady (batchId : String) (batch : AdmissionBatch Sha) (intent : AdmissionIntent Request Sha) : Prop :=
  intent.status = "EXECUTION_READY" ∧ upperText intent.direction = "BUY" ∧ upperText intent.environment = scope.environment ∧
    intent.accountId = batch.accountId ∧
    (∀ executionId ∈ scope.paperExecutionId, intent.ownerType = "T_ASSISTANT_EXECUTION" ∧ intent.ownerId = executionId) ∧
    intent.admissionBatchId.getD "" = batchId

instance (batchId : String) (batch : AdmissionBatch Sha) (intent : AdmissionIntent Request Sha) :
    Decidable (stillReady scope batchId batch intent) := inferInstanceAs (Decidable (_ ∧ _ ∧ _ ∧ _ ∧ _ ∧ _))

def currentRanked (items : List AdmissionItem) : Option (List (RankedRiskIncreaseAdmission Sha)) := do
  let intents ← items.mapM fun item => (t.intents.get? item.intentId).map fun intent => (item.intentId, intent)
  match (intents.mapM fun e => candidateOf host scope t e.1 e.2) >>= rankRiskIncreaseCandidates with
  | .ok ranked => some ranked
  | .error _ => some []

def manifestStands (batchId : String) (batch : AdmissionBatch Sha) : Prop :=
  (∀ item ∈ batchItems t batchId, ∃ intent ∈ t.intents.get? item.intentId, stillReady scope batchId batch intent) ∧
    ∃ ranked ∈ currentRanked host scope t (batchItems t batchId),
      host.manifestDigest (ranked.map (·.manifestEntry)) = batch.intentManifestHash

instance (batchId : String) (batch : AdmissionBatch Sha) : Decidable (manifestStands host scope t batchId batch) :=
  inferInstanceAs (Decidable (_ ∧ _))

def commitBatch (call : CommitCall) : AdmissionOutcome Request Sha String :=
  match lockedClaimedBatch scope t call.batchId call.fenceToken call.now with
  | .error (message, held) => ⟨.error message, held, false⟩
  | .ok batch =>
    if batch.accountSnapshotId ≠ call.accountSnapshotId ∨
        lowerDigest batch.accountSnapshotHash ≠ lowerDigest call.accountSnapshotHash ∨
        lowerDigest batch.obligationWatermark ≠ lowerDigest call.obligationWatermark then
      ⟨.error "RISK_ADMISSION_INPUT_CHANGED", t.setBatch call.batchId (batch.supersede "RISK_ADMISSION_INPUT_CHANGED"), call.commit⟩
    else if ¬manifestStands host scope t call.batchId batch then
      ⟨.error "RISK_ADMISSION_INTENT_CHANGED", t.setBatch call.batchId (batch.supersede "RISK_ADMISSION_INTENT_CHANGED"), call.commit⟩
    else
      ⟨.ok call.batchId,
        t.setBatch call.batchId { batch with
          status := .committed, committedAt := some call.now, processingLeaseUntil := none
          processingOwner := none }, call.commit⟩

end Sequencer

inductive AdmissionCall where
  | prepare (call : PrepareCall)
  | claim (call : ClaimCall)
  | renew (call : RenewCall)
  | commit (call : CommitCall)

inductive AdmissionAnswer where
  | prepared (batchId : String)
  | claimed (claim : AdmissionBatchClaim)
  | renewed (leaseUntil : Int)
  | committed (batchId : String)
deriving DecidableEq

def AdmissionOutcome.mapAnswer {Request Sha α β : Type} (outcome : AdmissionOutcome Request Sha α) (f : α → β) : AdmissionOutcome Request Sha β :=
  ⟨outcome.answer.map f, outcome.tables, outcome.committed⟩

def AdmissionTables.call {Request Sha : Type} [DecidableEq Sha] (host : AdmissionHost Request Sha) (scope : AdmissionScope) (t : AdmissionTables Request Sha) :
    AdmissionCall → AdmissionOutcome Request Sha AdmissionAnswer
  | .prepare call => (prepareBatch host scope t call).mapAnswer .prepared
  | .claim call => (claimBatch scope t call).mapAnswer .claimed
  | .renew call => (renewClaim scope t call).mapAnswer .renewed
  | .commit call => (commitBatch host scope t call).mapAnswer .committed

inductive AdmissionEvent (Request Sha : Type) where
  | call (scope : AdmissionScope) (call : AdmissionCall) (kept : Bool)
  | outside (t : AdmissionTables Request Sha)

def AdmissionTables.answer? {Request Sha : Type} [DecidableEq Sha] (host : AdmissionHost Request Sha) (t : AdmissionTables Request Sha) :
    AdmissionEvent Request Sha → Option AdmissionAnswer
  | .call scope call kept =>
    let outcome := t.call host scope call
    if outcome.committed || kept then outcome.answer.toOption else none
  | .outside _ => none

def AdmissionTables.step {Request Sha : Type} [DecidableEq Sha] (host : AdmissionHost Request Sha) (t : AdmissionTables Request Sha) :
    AdmissionEvent Request Sha → AdmissionTables Request Sha
  | .call scope call kept =>
    let outcome := t.call host scope call
    if outcome.committed || kept then outcome.tables else t
  | .outside changed => changed

end QuantX
