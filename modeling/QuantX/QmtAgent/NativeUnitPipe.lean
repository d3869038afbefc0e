import QuantX.QmtAgent.CollectionJournal
import QuantX.Lib.JsonLines

/-! # Transfer of a native unit over a pipe

The pipe is two queues, a step of a side is one turn of its loop, and the parent's deadline passes at any time. Records
are objects `R`, payloads are `P`. -/

namespace QuantX
open Lib

/-- What the child's report tells of an exception. `value` is a `ValueError`, a `TypeError` or an `OverflowError`. -/
inductive NativeException
  | xtDataUnavailable
  | historicalDataUnavailable
  | value
  | other
  deriving DecidableEq, Repr

def NativeException.reasonCode : NativeException → String
  | xtDataUnavailable => "XTDATA_UNAVAILABLE"
  | historicalDataUnavailable => "DATA_UNAVAILABLE"
  | value => "COLLECTION_RESULT_INVALID"
  | other => "COLLECTION_NATIVE_FAILED"

structure NativeJson (R : Type) where
  isDict : R → Bool
  dumps : R → Except NativeException Bytes
  loads : Bytes → Except NativeException R

/-- The iterator of the broker: its records, the exception it ends with, and the exception of its `close`. -/
structure NativeIterator (R : Type) where
  records : List R
  ending : Option NativeException := none
  closing : Option NativeException := none

structure UnitPlanner (P : Type) where
  validateRequest : P → Except String Unit
  planHistoricalWorkUnits : P → Except String (List P)
  fromPayload : String → Nat → P → Except String CollectionUnit

structure UnitIdentity where
  (requestId permitId : String)
  deriving DecidableEq, Repr

def CollectionPermit.identity (permit : CollectionPermit) : UnitIdentity := ⟨permit.unit.requestId, permit.permitId⟩

inductive ParentFrame (P : Type)
  | collectUnit (requestId : String) (permit : CollectionPermit) (payload : P)
  | unitContinue (identity : UnitIdentity) (sequence : Nat)

structure ChildFrame (R : Type) where
  type : String
  requestId : Option String := none
  permitId : Option String := none
  sequence : Option Int := none
  records : Option (List R) := none
  recordCount : Option Int := none
  reasonCode : Option String := none
  error : Option String := none

namespace NativeUnitIpc

def maxUnitBatchBytes : Nat := 1024 * 1024

def maxUnitBatchRecords : Nat := 128

def maxMarketDataRecords : Nat := 500000

section Frames
variable {R : Type} (identity : UnitIdentity) (sequence : Nat)

def unitRecords (records : List R) : ChildFrame R :=
  { type := "unit_records", requestId := some identity.requestId, permitId := some identity.permitId
    sequence := some (sequence : Int), records := some records }

def unitError (reasonCode : String) : ChildFrame R :=
  { type := "unit_error", requestId := some identity.requestId, permitId := some identity.permitId
    sequence := some (sequence : Int), reasonCode := some reasonCode }

def unitComplete (recordCount : Nat) : ChildFrame R :=
  { type := "unit_complete", requestId := some identity.requestId, permitId := some identity.permitId
    sequence := some (sequence : Int), recordCount := some (recordCount : Int) }

def workerError (requestId error : String) : ChildFrame R :=
  { type := "error", requestId := some requestId, error := some error }

end Frames

variable {R P : Type} (json : NativeJson R) (planner : UnitPlanner P)

def encoded (record : R) : Except NativeException Bytes := if json.isDict record then json.dumps record else .error .value

structure Serving (R : Type) where
  identity : UnitIdentity
  iterator : NativeIterator R
  batch : List R := []
  size : Nat := 0
  count : Nat := 0
  sequence : Nat := 0

inductive Turn (R : Type)
  | flush
  | take (next : Serving R)
  | fail (e : NativeException)
  | complete

def Serving.full (s : Serving R) (raw : Bytes) : Bool :=
  !s.batch.isEmpty && (s.size + raw.length > maxUnitBatchBytes || s.batch.length ≥ maxUnitBatchRecords)

def Serving.add (s : Serving R) (raw : Bytes) (rest : List R) : Turn R :=
  if s.count + 1 > maxMarketDataRecords then .fail .value
  else match json.loads raw with
    | .error e => .fail e
    | .ok value => .take
        { s with
          iterator := { s.iterator with records := rest }, batch := s.batch ++ [value], size := s.size + raw.length
          count := s.count + 1 }

def Serving.turn (s : Serving R) : Turn R :=
  match s.iterator.records with
  | [] => match s.iterator.ending with
    | some e => .fail e
    | none => if s.batch.isEmpty then .complete else .flush
  | record :: rest => match encoded json record with
    | .error e => .fail e
    | .ok raw =>
      if raw.length > maxUnitBatchBytes then .fail .value
      else if s.full raw then .flush
      else s.add json raw rest

def Serving.flushed (s : Serving R) : Serving R :=
  { s with
    batch := [], size := 0, sequence := s.sequence + 1 }

/-- The last frame after an exception. An exception of `close` takes its place. -/
def Serving.failure (s : Serving R) (e : NativeException) : ChildFrame R :=
  unitError s.identity s.sequence (s.iterator.closing.getD e).reasonCode

def Serving.completion (s : Serving R) : ChildFrame R :=
  match s.iterator.closing with
  | some e => unitError s.identity s.sequence e.reasonCode
  | none => unitComplete s.identity s.sequence s.count

/-- What the two sides are asked, and what the broker and the child's clock answer. `active`: the child is still
    preparing another request. -/
structure UnitCall (R P : Type) where
  permit : CollectionPermit
  payload : P
  timeout : Int
  active : Bool := false
  childNow : Int
  iterMarketData : P → NativeIterator R
  timeout_pos : 0 < timeout

def admitUnit (call : UnitCall R P) (requestId : String) (permit : CollectionPermit) (payload : P) : Except String P := do
  require (call.active = false) "native unit cannot overlap legacy preparation"
  require (requestId = permit.unit.requestId) "native unit IPC request identity mismatch"
  planner.validateRequest payload
  let units ← planner.planHistoricalWorkUnits payload
  match units[permit.unit.unitIndex]? with
  | none => throw "native unit IPC plan mismatch"
  | some unit => do
    let planned ← planner.fromPayload permit.unit.requestId permit.unit.unitIndex unit
    require (planned = permit.unit) "native unit IPC plan mismatch"
    require (permit.issuedAt ≤ call.childNow ∧ call.childNow < permit.expiresAt) "native unit authorization expired before child entry"
    return unit

inductive ChildMode (R : Type)
  | idle
  | serving (s : Serving R)
  | awaiting (s : Serving R)

/-- How the parent's iteration is left. `json` is an exception of its own `_encoded`. -/
inductive ParentError
  | timeout
  | failure (reasonCode : String)
  | invalid (message : String)
  | json (e : NativeException)
  deriving DecidableEq, Repr

inductive ParentMode (R : Type)
  | start
  | waiting
  | yielding (records : List R)
  | returned
  | raised (e : ParentError)

structure UnitPipe (R P : Type) where
  parent : ParentMode R := .start
  sequence : Nat := 0
  count : Nat := 0
  yielded : List R := []
  late : Bool := false
  child : ChildMode R := .idle
  toChild : List (ParentFrame P) := []
  toParent : List (ChildFrame R) := []

inductive PipeOp
  | child
  | parent
  | deadline
  deriving DecidableEq, Repr

def continues (s : Serving R) : ParentFrame P → Bool
  | .unitContinue identity sequence => identity = s.identity ∧ sequence = s.sequence
  | .collectUnit .. => false

def UnitPipe.message (pipe : UnitPipe R P) (call : UnitCall R P) : ParentFrame P → UnitPipe R P
  | .unitContinue identity _ =>
    { pipe with toParent := pipe.toParent ++ [workerError identity.requestId "unsupported historical worker control message"] }
  | .collectUnit requestId permit payload =>
    match admitUnit planner call requestId permit payload with
    | .error e => { pipe with toParent := pipe.toParent ++ [workerError requestId e] }
    | .ok unit => { pipe with child := .serving ⟨permit.identity, call.iterMarketData unit, [], 0, 0, 0⟩ }

def UnitPipe.report (pipe : UnitPipe R P) (frame : ChildFrame R) : UnitPipe R P :=
  { pipe with
    child := .idle, toParent := pipe.toParent ++ [frame] }

def UnitPipe.serve (pipe : UnitPipe R P) (s : Serving R) : UnitPipe R P :=
  match s.turn json with
  | .flush =>
    { pipe with
      child := .awaiting s, toParent := pipe.toParent ++ [unitRecords s.identity s.sequence s.batch] }
  | .take next => { pipe with child := .serving next }
  | .fail e => pipe.report (s.failure e)
  | .complete => pipe.report s.completion

def UnitPipe.stepChild (pipe : UnitPipe R P) (call : UnitCall R P) : Option (UnitPipe R P) :=
  match pipe.child, pipe.toChild with
  | .serving s, _ => some (pipe.serve json s)
  | .idle, frame :: toChild => some ({ pipe with toChild }.message planner call frame)
  | .awaiting s, frame :: toChild =>
    let pipe := { pipe with toChild }
    some (if continues s frame then { pipe with child := .serving s.flushed } else pipe.report (s.failure .value))
  | _, [] => none

/-! ## The parent -/

def batchBytes : List R → Except NativeException Nat
  | [] => .ok 0
  | record :: rest => match encoded json record, batchBytes rest with
    | .error e, _ => .error e
    | .ok _, .error e => .error e
    | .ok raw, .ok size => .ok (raw.length + size)

def nativeUnitFailure (reasonCode : String) : ParentError :=
  if reasonCode ∈ ["XTDATA_UNAVAILABLE", "COLLECTION_RESULT_INVALID", "COLLECTION_NATIVE_FAILED", "DATA_UNAVAILABLE"] then .failure reasonCode
  else .invalid "unknown native unit failure reason"

def checkBatch (count : Nat) (records : List R) : Except ParentError Unit :=
  if ¬(1 ≤ records.length ∧ records.length ≤ maxUnitBatchRecords) then .error (.invalid "native unit IPC invalid batch")
  else match batchBytes json records with
    | .error e => .error (.json e)
    | .ok size =>
      if size > maxUnitBatchBytes then .error (.invalid "native unit IPC batch exceeds byte limit")
      else if count + records.length > maxMarketDataRecords then .error (.invalid "native unit exceeds record limit")
      else .ok ()

def readFrame (identity : UnitIdentity) (sequence count : Nat) (frame : ChildFrame R) : Except ParentError (Option (List R)) :=
  if ¬(frame.requestId = some identity.requestId ∧ frame.permitId = some identity.permitId) then
    .error (.invalid "native unit IPC response identity mismatch")
  else if frame.sequence ≠ some (sequence : Int) then .error (.invalid "native unit IPC sequence mismatch")
  else if frame.type = "unit_error" then
    match frame.reasonCode, frame.records, frame.recordCount, frame.error with
    | some reasonCode, none, none, none => .error (nativeUnitFailure reasonCode)
    | _, _, _, _ => .error (.invalid "invalid native unit failure frame")
  else if frame.type = "unit_complete" then
    if frame.recordCount = some (count : Int) then .ok none else .error (.invalid "native unit IPC completion count mismatch")
  else match frame.records with
    | none => .error (.invalid "native unit IPC invalid batch")
    | some records =>
      if frame.type ≠ "unit_records" then .error (.invalid "native unit IPC invalid batch")
      else (checkBatch json count records).map fun _ => some records

def UnitPipe.receive (pipe : UnitPipe R P) (call : UnitCall R P) (frame : ChildFrame R) : UnitPipe R P :=
  match readFrame json call.permit.identity pipe.sequence pipe.count frame with
  | .error e => { pipe with parent := .raised e }
  | .ok none => { pipe with parent := .returned }
  | .ok (some records) =>
    { pipe with
      parent := .yielding records, count := pipe.count + records.length }

def UnitPipe.onTime (pipe next : UnitPipe R P) : UnitPipe R P := if pipe.late then { pipe with parent := .raised .timeout } else next

def UnitPipe.stepParent (pipe : UnitPipe R P) (call : UnitCall R P) : Option (UnitPipe R P) :=
  match pipe.parent, pipe.toParent with
  | .start, _ =>
    some (if call.timeout ≤ 0 then { pipe with parent := .raised (.invalid "native unit timeout must be positive") }
    else pipe.onTime
      { pipe with
        parent := .waiting
        toChild := pipe.toChild ++ [.collectUnit call.permit.unit.requestId call.permit call.payload] })
  | .waiting, frame :: toParent => some (pipe.onTime ({ pipe with toParent }.receive json call frame))
  | .waiting, [] => if pipe.late then some { pipe with parent := .raised .timeout } else none
  | .yielding (record :: records), _ =>
    some
      { pipe with
        parent := .yielding records, yielded := pipe.yielded ++ [record] }
  | .yielding [], _ =>
    some (pipe.onTime
      { pipe with
        parent := .waiting, toChild := pipe.toChild ++ [.unitContinue call.permit.identity pipe.sequence]
        sequence := pipe.sequence + 1 })
  | .returned, _ => none
  | .raised _, _ => none

def UnitPipe.step? (call : UnitCall R P) (pipe : UnitPipe R P) : PipeOp → Option (UnitPipe R P)
  | .child => pipe.stepChild json planner call
  | .parent => pipe.stepParent json call
  | .deadline => if pipe.late then none else some { pipe with late := true }

end NativeUnitIpc
end QuantX
