import QuantX.Lib.PyEq
import QuantX.Lib.Require

/-! # Ingestion progress

A transition of the progress of one ingestion returns the next progress or raises. Times are in microseconds. -/

namespace QuantX
open Lib

inductive IngestionPhase where
  | validate
  | write
  | readback
  | verified
  deriving DecidableEq, Repr

namespace IngestionPhase

def text : IngestionPhase → String
  | validate => "VALIDATE"
  | write => "WRITE"
  | readback => "READBACK"
  | verified => "VERIFIED"

def index : IngestionPhase → Nat
  | validate => 0
  | write => 1
  | readback => 2
  | verified => 3

def ofValue (value : PyVal) : Except String IngestionPhase :=
  match [validate, write, readback, verified].find? fun phase => value = .str phase.text with
  | some phase => .ok phase
  | none => .error "tuple.index(x): x not in tuple"

end IngestionPhase

inductive IngestionCheckpoint where
  | block (sha256 rows : PyVal) (attempt : Int)
  | proof (result : PyVal) (attempt : Int)

inductive IngestionFailure where
  | deferred (phase : IngestionPhase) (attempt : Int) (execution : Nat) (reasonCode : PyVal) (time : Int)
  | resumed (reason : PyVal) (attempt : Int) (time : Int)

structure IngestionProgress where
  version : Int := 1
  phase : IngestionPhase := .validate
  attempt : Int := 1
  executions : Nat := 0
  stageStartedAt : Int
  nextRetryAt : Option Int := none
  reasonCode : PyVal := .none
  blocked : Bool := false
  manifestHash : PyVal := .none
  checkpoints : Dict String IngestionCheckpoint := Dict.empty
  writeResult : PyVal := .none
  failures : List IngestionFailure := []
  lastProgressAt : Option Int := none
  diagnostic : PyVal := .none

def maxExecutions : Nat := 4
def retryWindow : Int := 300 * 1000000

def retryDelays : List Int := [5 * 1000000, 30 * 1000000, 120 * 1000000]

abbrev IngestionValues := List (String × PyVal)

/-- `values[key]`. -/
def IngestionValues.field (values : IngestionValues) (key : String) : Except String PyVal :=
  match Dict.lookup key values with
  | some value => .ok value
  | none => .error "KeyError"

namespace IngestionProgress
variable (strOf : PyVal → String) (state : IngestionProgress) (values : IngestionValues) (now : Int)

def exhausted : Bool := maxExecutions ≤ state.executions || retryWindow ≤ now - state.stageStartedAt

def beginStage : Except String IngestionProgress := do
  require (¬ state.nextRetryAt.any (now < ·)) "ingestion retry is not due"
  require (¬ state.blocked) "ingestion requires explicit recovery"
  if state.exhausted now then
    return { state with
      blocked := true, reasonCode := state.reasonCode.or (.str "INGESTION_RETRY_BUDGET_EXHAUSTED")
      nextRetryAt := none }
  return { state with executions := state.executions + 1, nextRetryAt := none }

def freezeManifest : Except String IngestionProgress := do
  let digest ← values.field "sha256"
  require (state.manifestHash = .none ∨ state.manifestHash.same digest) "MANIFEST_CHANGED"
  if state.manifestHash = .none then return { state with manifestHash := digest, lastProgressAt := some now }
  return state

def startingResult (phase : IngestionPhase) : Except String PyVal :=
  if phase = .readback then values.field "write_result" else .ok state.writeResult

def advancePhase : Except String IngestionProgress := do
  let value ← values.field "phase"
  if value = .str state.phase.text then return state
  let phase ← IngestionPhase.ofValue value
  require (phase.index = state.phase.index + 1) "invalid ingestion phase transition"
  require state.manifestHash.truthy "MANIFEST_NOT_FROZEN"
  let writeResult ← state.startingResult values phase
  return { state with
    writeResult, phase, executions := 1, stageStartedAt := now, nextRetryAt := none
    reasonCode := .none, lastProgressAt := some now }

/-- `check` and `checkpoint`. -/
def checkBlock (record : Bool) : Except String IngestionProgress := do
  require (state.phase = .write ∧ state.manifestHash.truthy) "write checkpoint requires a frozen write phase"
  let block := strOf (← values.field "block")
  let sha256 ← values.field "sha256"
  let rows ← values.field "rows"
  match state.checkpoints.get? block with
  | some (.block sha256' rows' _) =>
    require (sha256'.same sha256 ∧ rows'.same rows) "WRITE_BLOCK_CHANGED"
    return state
  | some (.proof _ _) => .error "KeyError"
  | none =>
    if record then
      return { state with checkpoints := state.checkpoints.set block (.block sha256 rows state.attempt), lastProgressAt := some now }
    return state

/-- `readback_check` and `readback_checkpoint`. -/
def checkReadback (record : Bool) : Except String IngestionProgress := do
  require (state.phase = .readback ∧ state.manifestHash.truthy) "read-back checkpoint requires a frozen read-back phase"
  match ← values.field "sha256" with
  | .str sha256 =>
    if !record then return state
    let key := "readback:" ++ sha256
    let result ← values.field "result"
    match state.checkpoints.get? key with
    | some (.proof result' _) =>
      require (result'.same result) "READBACK_PROOF_CHANGED"
      return state
    | some (.block _ _ _) => .error "KeyError"
    | none => return { state with checkpoints := state.checkpoints.set key (.proof result state.attempt), lastProgressAt := some now }
  | _ => .error "TypeError"

/-- `bool(values.get("blocked"))`. -/
def wantsBlock (values : IngestionValues) : Bool := (PyVal.get values "blocked").truthy

def deferBlocks : Bool := wantsBlock values || state.exhausted now

def deferRetry : Except String (Option Int) :=
  if state.deferBlocks values now then .ok none else
    match retryDelays[state.executions - 1]? with
    | some delay => .ok (some (now + delay))
    | none => .error "IndexError"

def deferStage : Except String IngestionProgress := do
  let reasonCode ← values.field "reason_code"
  let nextRetryAt ← state.deferRetry values now
  return { state with
    reasonCode, diagnostic := (Dict.lookup "diagnostic" values).getD (.dict [])
    failures := state.failures ++ [.deferred state.phase state.attempt state.executions reasonCode now]
    blocked := state.deferBlocks values now, nextRetryAt }

def resumeStage : Except String IngestionProgress := do
  require (PyVal.get values "reason").truthy "explicit recovery requires a reason"
  return { state with
    failures := state.failures ++ [.resumed (PyVal.get values "reason") state.attempt now], attempt := state.attempt + 1
    executions := 0, blocked := false, reasonCode := .none, nextRetryAt := none, stageStartedAt := now }

def act (action : String) : Except String IngestionProgress := do
  require (state.version = 1) "unsupported ingestion progress version"
  match action with
  | "begin" => state.beginStage now
  | "manifest" => state.freezeManifest values now
  | "advance" => state.advancePhase values now
  | "check" => state.checkBlock strOf values now false
  | "checkpoint" => state.checkBlock strOf values now true
  | "readback_check" => state.checkReadback values now false
  | "readback_checkpoint" => state.checkReadback values now true
  | "defer" => state.deferStage values now
  | "resume" => state.resumeStage values now
  | _ => .error "unsupported ingestion progress action"

end IngestionProgress

/-- `transition`. A progress that is not there yet begins now. -/
def transition (strOf : PyVal → String) (previous : Option IngestionProgress) (action : String) (values : IngestionValues) (now : Int) :
    Except String IngestionProgress :=
  (previous.getD { stageStartedAt := now }).act strOf values now action

structure IngestionCall where
  action : String
  values : IngestionValues
  now : Int

def ingest (strOf : PyVal → String) (previous : Option IngestionProgress) (call : IngestionCall) : Option IngestionProgress :=
  match transition strOf previous call.action call.values call.now with
  | .ok next => some next
  | .error _ => previous

end QuantX
