import QuantX.Lib.Require

/-! # The journal of collection permits

A permit is received, confirmed, and its execution marked before native work; what comes out is an artifact or an
abort. A verified request is retired to a tombstone. Tables are dictionaries by their primary keys, an operation is one
transaction, and one that raises leaves them as they were. Ids are UUIDs in canonical form, times in microseconds. -/

namespace QuantX
open Lib

structure CollectionUnit where
  planVersion : String := "xtdata-units-v1"
  requestId : String
  unitIndex : Nat
  payloadSha256 : String
  deriving DecidableEq, Repr

structure CollectionPermit where
  (permitId deviceId : String)
  ownerEpoch : Int
  unit : CollectionUnit
  (issuedAt expiresAt : Int)
  epoch_pos : 0 < ownerEpoch
  validity_pos : issuedAt < expiresAt
  validity_bounded : expiresAt - issuedAt ≤ 30000000
  deriving DecidableEq

structure CollectionAbort where
  unit : CollectionUnit
  (nativeExit reasonCode : String)
  deriving DecidableEq, Repr

structure NativeUnitArtifact where
  unit : CollectionUnit
  (path sha256 : String)
  (byteCount recordCount : Int)
  deriving DecidableEq, Repr

structure HistoryUploadSnapshot where
  requestId : String
  verifiedAt : Option Int
  evidenceJson : String
  deriving DecidableEq, Repr

/-- A row of `history_collection_receipts`, by its permit. `Sha` is what a digest is. -/
structure CollectionReceipt (Sha : Type) where
  (deviceId requestId : String)
  unitIndex : Nat
  (unitId permitSha256 : Sha)
  ownerEpoch : Int

/-- A row of `history_collection_artifacts`, by its unit. -/
structure CollectionArtifactRow where
  (permitId artifactSha256 : String)
  (byteCount recordCount : Int)

/-- A row of `history_collection_executions`, by its permit. -/
structure CollectionExecutionRow (Sha : Type) where
  unitId : Sha
  attemptIndex : Nat

/-- A row of `history_collection_aborts`, by its permit. `accepted` says that `accepted_at` is set. -/
structure CollectionAbortRow (Sha : Type) where
  unitId : Sha
  permit : CollectionPermit
  failure : CollectionAbort
  accepted : Bool

/-- A row of `history_upload_retirements`, by its device and request. -/
structure HistoryRetirement where
  (requestSha256 evidenceJson : String)
  deriving DecidableEq

/-- The tables that collection uses, and the epoch watermarks of `journal_metadata`. -/
structure CollectionJournal (Sha : Type) [DecidableEq Sha] where
  receipts : Dict String (CollectionReceipt Sha) := .empty
  artifacts : Dict Sha CollectionArtifactRow := .empty
  executions : Dict String (CollectionExecutionRow Sha) := .empty
  retirements : Dict (String × String) HistoryRetirement := .empty
  aborts : Dict String (CollectionAbortRow Sha) := .empty
  ownerEpochs : Dict String Int := .empty

structure CollectionDigests (Sha : Type) where
  payloadHash : CollectionPermit → Sha
  unitId : CollectionUnit → Sha

def CollectionPermit.validateStart (permit : CollectionPermit) (deviceId : String) (unit : CollectionUnit) (now minimumEpoch : Int) :
    Except String Unit := do
  require (permit.deviceId = deviceId ∧ permit.unit = unit) "collection permit scope mismatch"
  require (minimumEpoch ≤ permit.ownerEpoch) "collection permit owner is stale"
  require (permit.issuedAt ≤ now ∧ now < permit.expiresAt) "collection permit is expired or not active"

namespace CollectionJournal
variable {Sha : Type} [DecidableEq Sha] (d : CollectionDigests Sha) (journal : CollectionJournal Sha)

def historyUploadRetired (deviceId requestId : String) : Bool := journal.retirements.contains (deviceId, requestId)

def requestPermits (deviceId requestId : String) : List String :=
  (journal.receipts.entries.filter fun entry => entry.2.deviceId = deviceId && entry.2.requestId = requestId).map Prod.fst

def retireHistoryUpload (deviceId requestSha256 : String) (snapshot : HistoryUploadSnapshot) (now : Int) :
    Except String (CollectionJournal Sha) :=
  if snapshot.verifiedAt.all fun verifiedAt => now - verifiedAt < 86400000000 then
    .error "history retirement requires verified ingestion and retention"
  else
    match journal.retirements.get? (deviceId, snapshot.requestId) with
    | some existing =>
      if existing.requestSha256 ≠ requestSha256 ∨ existing.evidenceJson ≠ snapshot.evidenceJson then
        .error "history retirement evidence conflict"
      else .ok journal
    | none =>
      let permits := journal.requestPermits deviceId snapshot.requestId
      if journal.aborts.entries.any fun entry => permits.contains entry.1 && !entry.2.accepted then
        .error "history retirement has an unconfirmed collection failure"
      else
        .ok { journal with
          retirements := journal.retirements.set (deviceId, snapshot.requestId) ⟨requestSha256, snapshot.evidenceJson⟩
          aborts := journal.aborts.filter fun entry => !permits.contains entry.1
          executions := journal.executions.filter fun entry => !permits.contains entry.1
          artifacts := journal.artifacts.filter fun entry => !permits.contains entry.2.permitId
          receipts := journal.receipts.filter fun entry => !(entry.2.deviceId = deviceId && entry.2.requestId = snapshot.requestId) }

/-- `accept_collection_permit`, with what it returns. -/
def acceptCollectionPermit (permit : CollectionPermit) (deviceId : String) (unit : CollectionUnit) (now : Int) :
    Except String (CollectionJournal Sha × Bool) := do
  permit.validateStart deviceId unit now 0
  let device := permit.deviceId
  require (journal.historyUploadRetired device unit.requestId = false) "history request has been retired"
  permit.validateStart device unit now (journal.ownerEpochs.getD device 0)
  require (∀ receipt ∈ journal.receipts.get? permit.permitId, receipt.permitSha256 = d.payloadHash permit)
    "collection permit ID conflicts with recorded authorization"
  let existing := journal.receipts.values.find? fun receipt =>
    receipt.deviceId = device && receipt.requestId = unit.requestId && receipt.unitIndex = unit.unitIndex
  require (∀ receipt ∈ existing, receipt.unitId = d.unitId unit) "collection permit conflicts with the recorded unit"
  return ({ journal with
    ownerEpochs := journal.ownerEpochs.set device permit.ownerEpoch
    receipts := journal.receipts.setdefault permit.permitId
      ⟨device, unit.requestId, unit.unitIndex, d.unitId unit, d.payloadHash permit, permit.ownerEpoch⟩ }, existing.isNone)

def collectionPermitReceived (permit : CollectionPermit) : Except String Bool :=
  match journal.receipts.get? permit.permitId with
  | none => .ok false
  | some receipt =>
    if receipt.permitSha256 ≠ d.payloadHash permit then .error "collection receipt conflicts with original authorization" else .ok true

def unresolved (permitId : String) : Bool := !(journal.aborts.get? permitId).any (·.accepted)

def collectionExecutionStarted (permit : CollectionPermit) : Except String Bool :=
  let own := (journal.executions.get? permit.permitId).bind fun execution =>
    if execution.unitId = d.unitId permit.unit then journal.receipts.get? permit.permitId else none
  match own with
  | some receipt =>
    if receipt.permitSha256 ≠ d.payloadHash permit then .error "collection execution belongs to another authorization" else .ok true
  | none =>
    if journal.executions.entries.any fun entry => entry.2.unitId = d.unitId permit.unit && journal.unresolved entry.1 then
      .error "collection execution belongs to another authorization"
    else .ok false

def attempts (unitId : Sha) : List Nat := (journal.executions.values.filter (·.unitId = unitId)).map (·.attemptIndex)

/-- `COALESCE(MAX(attempt_index)+1,0)`. -/
def nextAttempt (unitId : Sha) : Nat := ((journal.attempts unitId).map (· + 1)).foldl max 0

def beginCollectionExecution (permit : CollectionPermit) (deviceId : String) (now : Int) : Except String (CollectionJournal Sha) := do
  require (journal.historyUploadRetired deviceId permit.unit.requestId = false) "history request has been retired"
  require ((journal.receipts.get? permit.permitId).map (·.permitSha256) = some (d.payloadHash permit))
    "collection execution requires its original permit receipt"
  permit.validateStart deviceId permit.unit now (journal.ownerEpochs.getD permit.deviceId 0)
  let started ← journal.collectionExecutionStarted d permit
  require (started = false) "collection execution has already entered native work"
  require (journal.executions.get? permit.permitId).isNone "UNIQUE constraint failed: history_collection_executions.permit_id"
  return { journal with
    executions := journal.executions.set permit.permitId ⟨d.unitId permit.unit, journal.nextAttempt (d.unitId permit.unit)⟩ }

def loadCollectionAbort (permit : CollectionPermit) : Except String (Option CollectionAbort) :=
  match journal.aborts.get? permit.permitId with
  | none => .ok none
  | some row => do
    require (row.permit = permit) "collection failure conflicts with original authorization"
    let received ← journal.collectionPermitReceived d permit
    require (received = true) "collection failure conflicts with original authorization"
    require (row.failure.unit = permit.unit) "collection failure scope mismatch"
    return some row.failure

def recordCollectionAbort (permit : CollectionPermit) (failure : CollectionAbort) : Except String (CollectionJournal Sha) := do
  require (failure.unit = permit.unit) "collection failure scope mismatch"
  let received ← journal.collectionPermitReceived d permit
  require (received = true) "collection failure requires original execution evidence"
  let started ← journal.collectionExecutionStarted d permit
  require (started = true) "collection failure requires original execution evidence"
  require (journal.artifacts.get? (d.unitId permit.unit)).isNone "collection failure cannot replace a completed artifact"
  let saved ← journal.loadCollectionAbort d permit
  require (∀ recorded ∈ saved, recorded = failure) "collection failure conflicts with recorded exit"
  return { journal with aborts := journal.aborts.setdefault permit.permitId ⟨d.unitId permit.unit, permit, failure, false⟩ }

def confirmCollectionAbort (permit : CollectionPermit) : Except String (CollectionJournal Sha) := do
  let saved ← journal.loadCollectionAbort d permit
  require saved.isSome "collection abort confirmation lacks local evidence"
  return { journal with aborts := journal.aborts.modify permit.permitId fun row => { row with accepted := true } }

/-- `record_collection_artifact`, with what it returns. `verified` is what the inspection of the sealed file finds;
    without one it raises. -/
def recordCollectionArtifact (permitId : String) (verified : Option NativeUnitArtifact) (artifact : NativeUnitArtifact) :
    Except String (CollectionJournal Sha × Bool) := do
  require (verified = some artifact) "collection artifact metadata mismatch"
  require (journal.aborts.get? permitId).isNone "collection artifact cannot replace a recorded failure"
  require ((journal.receipts.get? permitId).map (·.unitId) = some (d.unitId artifact.unit)) "collection artifact has no matching permit receipt"
  let existing := journal.artifacts.get? (d.unitId artifact.unit)
  require (∀ row ∈ existing, row.artifactSha256 = artifact.sha256 ∧ row.byteCount = artifact.byteCount ∧ row.recordCount = artifact.recordCount)
    "collection artifact conflicts with recorded completion"
  require (0 < artifact.byteCount ∧ 0 ≤ artifact.recordCount) "CHECK constraint failed: history_collection_artifacts"
  return ({ journal with
    artifacts := journal.artifacts.setdefault (d.unitId artifact.unit) ⟨permitId, artifact.sha256, artifact.byteCount, artifact.recordCount⟩ },
    existing.isNone)

end CollectionJournal

inductive CollectionCall where
  | retireHistoryUpload (deviceId requestSha256 : String) (snapshot : HistoryUploadSnapshot) (now : Int)
  | acceptCollectionPermit (permit : CollectionPermit) (deviceId : String) (unit : CollectionUnit) (now : Int)
  | beginCollectionExecution (permit : CollectionPermit) (deviceId : String) (now : Int)
  | recordCollectionAbort (permit : CollectionPermit) (failure : CollectionAbort)
  | confirmCollectionAbort (permit : CollectionPermit)
  | recordCollectionArtifact (permitId : String) (verified : Option NativeUnitArtifact) (artifact : NativeUnitArtifact)

variable {Sha : Type} [DecidableEq Sha]

def CollectionJournal.call (d : CollectionDigests Sha) (journal : CollectionJournal Sha) : CollectionCall → Except String (CollectionJournal Sha)
  | .retireHistoryUpload deviceId requestSha256 snapshot now => journal.retireHistoryUpload deviceId requestSha256 snapshot now
  | .acceptCollectionPermit permit deviceId unit now => (journal.acceptCollectionPermit d permit deviceId unit now).map Prod.fst
  | .beginCollectionExecution permit deviceId now => journal.beginCollectionExecution d permit deviceId now
  | .recordCollectionAbort permit failure => journal.recordCollectionAbort d permit failure
  | .confirmCollectionAbort permit => journal.confirmCollectionAbort d permit
  | .recordCollectionArtifact permitId verified artifact => (journal.recordCollectionArtifact d permitId verified artifact).map Prod.fst

def CollectionJournal.handle (d : CollectionDigests Sha) (journal : CollectionJournal Sha) (call : CollectionCall) : CollectionJournal Sha :=
  (journal.call d call).toOption.getD journal

end QuantX
