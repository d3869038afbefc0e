import QuantX.Lib.Numbered
import QuantX.Lib.Require
import QuantX.Text
import QuantX.Trading.ExecutionOwner

/-! # Cancel commands

A cancel request becomes a command in the outbox, which the Agent fetches. The commands of one business identity are its
attempts. A call holds the locks of its pending order and of the attempts it has read. -/

namespace QuantX
open Lib

inductive DeliveryStatus where
  | queued
  | delivered
  | acknowledged
  | expired
  | rejected
  | reconcileRequired
  | reconciledTerminal
  | cancelled
  | cancelledKill
  deriving DecidableEq, Repr

/-- `CancelCommandPayload`, as it is stored: it has exactly these fields. Times are microseconds of UTC. -/
structure CancelCommandPayload where
  (commandKind clientOrderId accountId executionMode brokerOrderId : String)
  expiresAt : Int
  deriving DecidableEq

structure TradeCommandOutbox where
  (messageId clientOrderId idempotencyKey deviceId accountId ownerType ownerId environment : String)
  payload : CancelCommandPayload
  deliveryStatus : DeliveryStatus
  deliveredAt : Option Int := none
  acknowledgedAt : Option Int := none
  expiresAt : Int
  attempts : Nat := 0
  lastError : Option String := none
  deriving DecidableEq

structure PendingTradeOrder where
  (clientOrderId userId accountId ownerType ownerId environment : String)
  strategyRunId : String := ""
  brokerOrderId : String
  deriving DecidableEq

structure OrderCorrelation where
  (clientOrderId brokerOrderId accountId ownerType ownerId environment : String)
  deriving DecidableEq

structure QueuedTradeCommand where
  (clientOrderId messageId : String)
  status : DeliveryStatus
  deriving DecidableEq

def EXECUTION_OWNER_TYPES : List String :=
  ["STRATEGY_RUN", "T_ASSISTANT_EXECUTION", "ENTRY_PLAN", "BOARD_ASSISTANT_EXECUTION", "EXIT_PLAN", "MANUAL_COMMAND"]

def ExecutionEnvironment.value : ExecutionEnvironment → String
  | .paper => "PAPER"
  | .live => "LIVE"
  | .backtest => "BACKTEST"

def requireExecutionIdentity (ref : ExecutionOwnerRef) : Except String Unit := do
  require (ref.ownerType ∈ EXECUTION_OWNER_TYPES) "OWNER_TYPE_INVALID"
  require (ref.ownerId ≠ "" ∧ ref.ownerId = stripText ref.ownerId) "OWNER_ID_INVALID"
  require (ref.ownerId.toList.length ≤ 128) "OWNER_ID_INVALID"
  require (¬ ref.ownerId.toList.any fun c => c.toNat ≤ 31 ∨ c.toNat = 127) "OWNER_ID_INVALID"

def wireExecutionMode : ExecutionEnvironment → Except String String
  | .paper => .ok "paper"
  | .live => .ok "live"
  | .backtest => .error "交易命令仅支持 PAPER 或 LIVE execution environment"

/-- The letters of `str.lower` as far as an ASCII result goes. -/
def lowerLetters (s : String) : List Char := s.toList.map fun c => if c.toNat = 0x212A then 'k' else c.toLower

/-- A call of `enqueue_cancel` and what it reads besides the outbox. `device` is what `_device_for` finds, `later` when
    a lost race is looked at again. -/
structure CancelCall where
  (userId accountId brokerOrderId : String)
  executionRef : ExecutionOwnerRef
  environment : ExecutionEnvironment
  idempotencyKey : String := ""
  commitTransaction : Bool := true
  pendings : List PendingTradeOrder
  correlations : List OrderCorrelation
  device : Except String String
  (clientUuid messageUuid : String)
  (now later : Int)

namespace CancelCall
variable (call : CancelCall)

def target : String := stripText call.brokerOrderId

/-- `cancel_business_identity`. -/
def identity (sha256 : String → String) : String :=
  let key := stripText call.idempotencyKey
  sha256 ("cancel:" ++ call.userId ++ ":" ++ call.accountId ++ ":" ++ call.environment.value ++ ":" ++ call.executionRef.ownerType ++ ":" ++
    call.executionRef.ownerId ++ ":" ++ (if key ≠ "" then key else call.target))

def checkPending (pending : PendingTradeOrder) : Except String Unit := do
  let ownerType := upperText (stripText pending.ownerType)
  let ownerId := stripText pending.ownerId
  let strategyRunId := stripText pending.strategyRunId
  require (strategyRunId = "" ∨ ownerType = "STRATEGY_RUN" ∧ strategyRunId = ownerId)
    "TRADE_COMMAND_TARGET_UNPROVEN:撤单目标 strategy_run 见证不一致"
  require (pending.userId = call.userId ∧ ownerType = call.executionRef.ownerType ∧ ownerId = call.executionRef.ownerId ∧
      upperText (stripText pending.environment) = call.environment.value)
    "TRADE_COMMAND_OWNER_CONFLICT:撤单目标归属不一致"

def checkCorrelation (pending : PendingTradeOrder) (correlation : OrderCorrelation) : Except String Unit :=
  require (correlation.clientOrderId = pending.clientOrderId ∧ correlation.accountId = pending.accountId ∧
      correlation.brokerOrderId = call.target ∧ upperText (stripText correlation.ownerType) = upperText (stripText pending.ownerType) ∧
      stripText correlation.ownerId = stripText pending.ownerId ∧
      upperText (stripText correlation.environment) = upperText (stripText pending.environment))
    "TRADE_COMMAND_TARGET_UNPROVEN:撤单目标 correlation 归属不一致"

def checkTarget : Except String Unit := do
  require (call.target ≠ "") "TRADE_COMMAND_TARGET_MISSING:撤单目标不能为空"
  let pendings := call.pendings.filter fun pending => pending.accountId = call.accountId ∧ pending.brokerOrderId = call.target
  let correlations := call.correlations.filter fun correlation =>
    correlation.accountId = call.accountId ∧ correlation.brokerOrderId = call.target
  match pendings with
  | [pending] =>
    call.checkPending pending
    match correlations with
    | [correlation] => call.checkCorrelation pending correlation
    | _ => .error "TRADE_COMMAND_TARGET_UNPROVEN:撤单目标 correlation 不唯一"
  | _ => .error "TRADE_COMMAND_TARGET_UNPROVEN:撤单目标必须唯一命中持久化委托"

def payload (mode clientOrderId accountId : String) : Except String CancelCommandPayload := do
  require (clientOrderId ≠ "" ∧ accountId ≠ "" ∧ call.target ≠ "") "String should have at least 1 character"
  .ok {
    commandKind := "CANCEL_ORDER", clientOrderId, accountId, executionMode := mode
    brokerOrderId := call.target, expiresAt := call.now + 120000000 }

end CancelCall

def attemptKey (identity : String) (number : Int) : String :=
  if number = 1 then identity else identity ++ ":attempt:" ++ toString number

/-- `cancel_attempt_selector`. -/
def isCancelAttempt (identity : String) (row : TradeCommandOutbox) : Bool :=
  row.idempotencyKey = identity ∨ (identity ++ ":attempt:").toList.isPrefixOf row.idempotencyKey.toList

def cancelAttempts (identity : String) (outbox : List TradeCommandOutbox) : List TradeCommandOutbox :=
  outbox.filter (isCancelAttempt identity)

namespace TradeCommandOutbox

/-- `cancel_attempt_number`. -/
def attemptNumber (identity : String) (attempt : TradeCommandOutbox) : Int :=
  if attempt.idempotencyKey = identity then 1
  else if (identity ++ ":attempt:").toList.isPrefixOf attempt.idempotencyKey.toList then
    match decimal? (attempt.idempotencyKey.toList.drop (identity ++ ":attempt:").toList.length) with
    | some number => max 1 number
    | none => 1
  else 1

/-- `_cancel_attempt_matches_request`. -/
def matchesRequest (attempt : TradeCommandOutbox) (call : CancelCall) : Bool :=
  attempt.accountId = call.accountId ∧
    upperText (stripText attempt.ownerType) = call.executionRef.ownerType ∧
    stripText attempt.ownerId = call.executionRef.ownerId ∧
    upperText (stripText attempt.environment) = call.environment.value ∧
    upperText (stripText attempt.payload.commandKind) = "CANCEL_ORDER" ∧
    attempt.payload.clientOrderId = attempt.clientOrderId ∧
    attempt.payload.accountId = call.accountId ∧
    lowerLetters (stripText attempt.payload.executionMode) = lowerLetters call.environment.value ∧
    stripText attempt.payload.brokerOrderId = call.target ∧
    attempt.payload.expiresAt = attempt.expiresAt

def checkTargets (attempt : TradeCommandOutbox) (call : CancelCall) : Except String Unit :=
  require (attempt.matchesRequest call) "IDEMPOTENCY_KEY_CONFLICT:同一取消幂等键对应不同目标"

def checkAttempt (attempt : TradeCommandOutbox) (call : CancelCall) : Except String Unit := do
  require (attempt.ownerType = call.executionRef.ownerType ∧ attempt.ownerId = call.executionRef.ownerId ∧
      upperText attempt.environment = call.environment.value) "TRADE_COMMAND_OWNER_CONFLICT:取消重试归属不一致"
  attempt.checkTargets call

def active (now : Int) (attempt : TradeCommandOutbox) : Bool :=
  (attempt.deliveryStatus = .queued ∨ attempt.deliveryStatus = .delivered ∨ attempt.deliveryStatus = .acknowledged) ∧ now < attempt.expiresAt

def safelyReusable (now : Int) (attempt : TradeCommandOutbox) : Bool :=
  (attempt.deliveryStatus = .queued ∨ attempt.deliveryStatus = .expired) ∧ attempt.expiresAt ≤ now ∧
    attempt.deliveredAt = none ∧ attempt.acknowledgedAt = none ∧ attempt.attempts = 0

def answer (attempt : TradeCommandOutbox) : QueuedTradeCommand := ⟨attempt.clientOrderId, attempt.messageId, attempt.deliveryStatus⟩

def revive (attempt : TradeCommandOutbox) (payload : CancelCommandPayload) : TradeCommandOutbox :=
  { attempt with
    payload, deliveryStatus := .queued, expiresAt := payload.expiresAt, lastError := none }

def retire (attempt : TradeCommandOutbox) : TradeCommandOutbox :=
  if attempt.deliveryStatus = .queued then
    { attempt with
      deliveryStatus := .reconcileRequired, lastError := some "cancel_retry_requires_new_command_identity" }
  else attempt

end TradeCommandOutbox

def insertCommand (outbox : List TradeCommandOutbox) (command : TradeCommandOutbox) : Option (List TradeCommandOutbox) :=
  if outbox.any fun row => row.messageId = command.messageId ∨ row.clientOrderId = command.clientOrderId ∨
      row.idempotencyKey = command.idempotencyKey then none
  else some (outbox ++ [command])

namespace CancelCall
variable (sha256 : String → String) (call : CancelCall) (outbox : List TradeCommandOutbox)

def afterCollision : Except String QueuedTradeCommand := do
  let attempts := cancelAttempts (call.identity sha256) outbox
  attempts.forM (·.checkTargets call)
  match attempts.find? (·.active call.later) with
  | some attempt => .ok attempt.answer
  | none => .error "IntegrityError"

def revive (mode : String) (attempt : TradeCommandOutbox) : List TradeCommandOutbox × Except String QueuedTradeCommand :=
  match call.payload mode attempt.clientOrderId attempt.accountId with
  | .error message => (outbox, .error message)
  | .ok payload =>
    (outbox.map fun row => if row.messageId = attempt.messageId then row.revive payload else row,
      .ok ⟨attempt.clientOrderId, attempt.messageId, .queued⟩)

def newCommand (deviceId : String) (number : Int) (payload : CancelCommandPayload) : TradeCommandOutbox where
  messageId := call.messageUuid
  clientOrderId := "cancel:" ++ call.clientUuid
  idempotencyKey := attemptKey (call.identity sha256) number
  deviceId := deviceId
  accountId := call.accountId
  ownerType := call.executionRef.ownerType
  ownerId := call.executionRef.ownerId
  environment := call.environment.value
  payload := payload
  deliveryStatus := .queued
  expiresAt := payload.expiresAt

def create (mode : String) : List TradeCommandOutbox × Except String QueuedTradeCommand :=
  let identity := call.identity sha256
  let numbers := (cancelAttempts identity outbox).map (·.attemptNumber identity)
  let retired := outbox.map fun row => if isCancelAttempt identity row then row.retire else row
  match call.device with
  | .error message => (retired, .error message)
  | .ok deviceId => match call.payload mode ("cancel:" ++ call.clientUuid) call.accountId with
    | .error message => (retired, .error message)
    | .ok payload =>
      let command := call.newCommand sha256 deviceId (numbers.foldl max 0 + 1) payload
      match insertCommand retired command with
      | some outbox => (outbox, .ok command.answer)
      | none =>
        -- The whole transaction is rolled back, or only its savepoint.
        let left := if call.commitTransaction then outbox else retired
        (left, call.afterCollision sha256 left)

def checked : Except String String := do
  requireExecutionIdentity call.executionRef
  call.checkTarget
  let mode ← wireExecutionMode call.environment
  (cancelAttempts (call.identity sha256) outbox).forM (·.checkAttempt call)
  .ok mode

/-- `enqueue_cancel`: the outbox as the session has it, and the answer. -/
def enqueueCancel : List TradeCommandOutbox × Except String QueuedTradeCommand :=
  match call.checked sha256 outbox with
  | .error message => (outbox, .error message)
  | .ok mode =>
    let attempts := cancelAttempts (call.identity sha256) outbox
    match attempts.find? (·.active call.now) with
    | some attempt => (outbox, .ok attempt.answer)
    | none => match attempts.find? (·.safelyReusable call.now) with
      | some attempt => call.revive outbox mode attempt
      | none => call.create sha256 outbox mode

end CancelCall

/-! ## Delivery -/

/-- `_PRE_EXECUTION_REJECTION_REASONS`. -/
def PRE_EXECUTION_REJECTION_REASONS : List String :=
  ["command_expired", "account_not_whitelisted", "data_only_agent", "execution_mode_mismatch", "local_emergency_stop",
    "invalid_command_payload", "invalid_command_expiry", "command_cancelled_before_physical_send",
    "miniQMT trading connection unavailable", "miniQMT disconnected", "broker report stale", "invalid order command",
    "invalid A-share code", "invalid order side", "buy volume must be a board lot", "invalid protected limit price",
    "outside trading session", "insufficient cash", "insufficient available volume", "live market metadata unavailable",
    "live quote or instrument metadata unavailable", "market_stream_not_ready", "instrument suspended",
    "quote timestamp unavailable", "stale live quote", "incomplete live trading limits", "invalid price tick",
    "price outside daily limits", "limit-up buy blocked", "limit-down sell blocked"]

/-- What happens to a command on its way to the Agent. `withdraw` is a failure outside the delivery, `requeue` puts it
    back after an attempt. -/
inductive DeliveryUpdate where
  | deliver
  | ack (accepted : Bool) (reason : String)
  | expire
  | withdraw (status : DeliveryStatus) (reason : String)
  | requeue (deliveredAt : Option Int) (attempts : Nat)

namespace TradeCommandOutbox

/-- The delivery of `_next_command`. -/
def deliver (now : Int) (command : TradeCommandOutbox) : TradeCommandOutbox :=
  if (command.deliveryStatus = .queued ∨ command.deliveryStatus = .delivered) ∧ now < command.expiresAt then
    { command with
      deliveryStatus := .delivered, deliveredAt := some now, attempts := command.attempts + 1 }
  else command

/-- `_record_command_ack` for a command that places no order. -/
def recordAck (now : Int) (accepted : Bool) (reason : String) (command : TradeCommandOutbox) : TradeCommandOutbox :=
  let reason := stripText reason
  let text := String.ofList (reason.toList.take 256)
  if reason = "command_processing" then
    if command.deliveryStatus = .queued ∨ command.deliveryStatus = .delivered then
      { command with
        deliveryStatus := .delivered, deliveredAt := some now, acknowledgedAt := none, lastError := some reason }
    else command
  else if accepted then
    { command with
      deliveryStatus := .acknowledged, acknowledgedAt := some now, lastError := if text ≠ "" then some text else none }
  else if reason ∈ PRE_EXECUTION_REJECTION_REASONS then
    { command with
      deliveryStatus := if reason = "command_expired" then .expired else .rejected, acknowledgedAt := some now
      lastError := if text ≠ "" then some text else none }
  else
    { command with
      deliveryStatus := .reconcileRequired, acknowledgedAt := some now
      lastError := some (if reason ≠ "" then text else "indeterminate_cancel_command_rejection") }

/-- `_expire_trade_commands_in_session` for a command that places no order. -/
def expire (now : Int) (command : TradeCommandOutbox) : TradeCommandOutbox :=
  if command.expiresAt ≤ now then
    if command.deliveryStatus = .queued then
      { command with
        deliveryStatus := .expired, lastError := some "command_expired_before_delivery" }
    else if command.deliveryStatus = .delivered then
      { command with
        deliveryStatus := .reconcileRequired, lastError := some "delivered_command_expired_without_ack" }
    else command
  else command

def update (now : Int) (command : TradeCommandOutbox) : DeliveryUpdate → TradeCommandOutbox
  | .deliver => command.deliver now
  | .ack accepted reason => command.recordAck now accepted reason
  | .expire => command.expire now
  | .withdraw status reason =>
    { command with
      deliveryStatus := status, lastError := some reason }
  | .requeue deliveredAt attempts =>
    { command with
      deliveryStatus := .queued, deliveredAt, attempts }

end TradeCommandOutbox
end QuantX
