import QuantX.Lib.Fields
import QuantX.Lib.Window
import Mathlib.Algebra.Order.Ring.Rat
import Mathlib.Data.Finset.Basic

/-! # Managed entry plans

The state of a plan that buys an instrument in slices. At most one slice is pending; its fills and the
terminal report of its order may arrive in either order, and the slice is kept until the executions that
the report announced have arrived. Amounts and prices are exact rationals. -/

namespace QuantX
open Lib

def epsilon : Rat := 1 / 100000000

inductive EntryPlanStatus where
  | armed
  | accumulating
  | awaitingApproval
  | entryPending
  | paused
  | draining
  | completed
  | expired
  | cancelled
  | error
  deriving DecidableEq, Repr

def EntryPlanStatus.value : EntryPlanStatus → String
  | .armed => "ARMED"
  | .accumulating => "ACCUMULATING"
  | .awaitingApproval => "AWAITING_APPROVAL"
  | .entryPending => "ENTRY_PENDING"
  | .paused => "PAUSED"
  | .draining => "DRAINING"
  | .completed => "COMPLETED"
  | .expired => "EXPIRED"
  | .cancelled => "CANCELLED"
  | .error => "ERROR"

/-- `TERMINAL_ENTRY_PHASES`. -/
def EntryPlanStatus.terminal : EntryPlanStatus → Bool
  | .completed | .expired | .cancelled | .error => true
  | _ => false

inductive TerminalRequest where
  | cancelled
  | expired
  deriving DecidableEq, Repr

def TerminalRequest.status : TerminalRequest → EntryPlanStatus
  | .cancelled => .cancelled
  | .expired => .expired

inductive EntryTarget where
  | targetPositionPct (pct : Rat)
  | incrementalAmountCny (amount : Rat)
  | additionalVolume (volume : Int)
  deriving DecidableEq

def EntryTarget.Ok (target : EntryTarget) (maxTotalAmountCny maxPositionPct : Rat) : Prop :=
  match target with
  | .targetPositionPct pct => 0 < pct ∧ pct ≤ maxPositionPct
  | .incrementalAmountCny amount => 0 < amount ∧ amount ≤ maxTotalAmountCny + epsilon
  | .additionalVolume volume => 0 < volume

structure EntryTargetPolicy where
  target : EntryTarget
  (maxTotalAmountCny maxPositionPct : Rat)
  maxTotalAmountCny_pos : 0 < maxTotalAmountCny
  maxPositionPct_range : 0 < maxPositionPct ∧ maxPositionPct ≤ 1
  target_ok : target.Ok maxTotalAmountCny maxPositionPct

structure EntryRuleSpec where
  (ruleId ruleType : String)
  priority : Int := 0
  parameters : Dict String PyVal := .empty
  once : Bool := false
  enabled : Bool := true
  identified : ruleId ≠ "" ∧ ruleType ≠ ""

structure EntryPacingPolicy where
  (maxSingleIntentAmountCny maxDailyFilledAmountCny : Rat)
  maxOrdersPerDay : Int
  minIntervalSeconds : Int := 0
  cooldownAfterRejectSeconds : Int := 0
  amounts_pos : 0 < maxSingleIntentAmountCny ∧ 0 < maxDailyFilledAmountCny
  maxOrdersPerDay_pos : 0 < maxOrdersPerDay
  intervals_nonneg : 0 ≤ minIntervalSeconds ∧ 0 ≤ cooldownAfterRejectSeconds

inductive EntryAuthorizationMode where
  | manualConfirm
  | auto
  deriving DecidableEq, Repr

structure EntryCompletionPolicy where
  maxBuyPrice : Rat
  expireAtMs : Option Int := none
  stopWhenTargetReached : Bool := true
  stopWhenBudgetExhausted : Bool := true
  maxBuyPrice_pos : 0 < maxBuyPrice
  expireAtMs_pos : ∀ ms ∈ expireAtMs, 0 < ms

structure ManagedEntryPlanConfig where
  configVersion : Int := 1
  instrumentCode : String
  targetPolicy : EntryTargetPolicy
  triggerRules : List EntryRuleSpec
  pacingPolicy : EntryPacingPolicy
  authorizationMode : EntryAuthorizationMode
  completionPolicy : EntryCompletionPolicy
  configVersion_pos : 0 < configVersion
  instrumentCode_ne : instrumentCode ≠ ""
  triggerRules_enabled : triggerRules.any (·.enabled) = true
  triggerRules_nodup : (triggerRules.map (·.ruleId)).Nodup

/-! ## State -/

structure ManagedEntryPlanState where
  phase : EntryPlanStatus := .armed
  terminalRequested : Option TerminalRequest := none
  terminalRequestReason : String := ""
  filledVolume : Int := 0
  filledAmountCny : Rat := 0
  pendingIntentId : String := ""
  pendingStageId : String := ""
  pendingRuleId : String := ""
  pendingRuleType : String := ""
  pendingActivationId : String := ""
  pendingRequestedVolume : Int := 0
  pendingRequestedAmountCny : Rat := 0
  pendingFilledVolume : Int := 0
  pendingFilledAmountCny : Rat := 0
  reservedAmountCny : Rat := 0
  orderTerminalSeen : Bool := false
  terminalExpectedFilledVolume : Option Nat := none
  tradeReconciled : Bool := false
  ruleState : Dict String (Dict String PyVal) := .empty
  ruleActivationCounts : Dict String Int := .empty
  completedRuleIds : Finset String := ∅
  completedActivationIds : Finset String := ∅
  ruleFilledVolumes : Dict String Int := .empty
  ruleFilledAmountsCny : Dict String Rat := .empty
  dailyOrderCounts : Dict String Int := .empty
  dailyFilledAmountsCny : Dict String Rat := .empty
  lastFillAtMs : Option Int := none
  lastIntentAtMs : Option Int := none
  retryAfterMs : Option Int := none
  lastDecision : Dict String PyVal := .empty
  dataQuality : String := "OK"
  processedTradeKeys : List String := []

/-- The arguments of `apply_trade_fill`. An empty rule id stands for none. -/
structure EntryFill where
  tradeKey : String
  matchesPending : Bool
  volume : Int
  price : Rat
  tradeDate : String
  timestampMs : Int
  ruleId : String := ""
  targetReached : Bool := false

inductive EntryTerminal where
  | filled
  | rejected
  | brokerRejected
  | cancelled
  | canceled
  | expired
  | partiallyCanceled
  | reconciledZeroFill
  deriving DecidableEq, Repr

def EntryTerminal.ofText : String → Option EntryTerminal
  | "FILLED" => some .filled
  | "REJECTED" => some .rejected
  | "BROKER_REJECTED" => some .brokerRejected
  | "CANCELLED" => some .cancelled
  | "CANCELED" => some .canceled
  | "EXPIRED" => some .expired
  | "PARTIALLY_CANCELED" => some .partiallyCanceled
  | "RECONCILED_ZERO_FILL" => some .reconciledZeroFill
  | _ => none

/-- `status.split(".")[-1].upper()`. -/
def statusText (status : String) : String :=
  String.ofList ((status.toList.reverse.takeWhile (· ≠ '.')).reverse.map Char.toUpper)

/-- The arguments of `apply_order_terminal`. -/
structure EntryOrderReport where
  status : String
  (timestampMs cooldownAfterRejectSeconds : Int)
  expectedFilledVolume : Option Int := none
  targetReached : Bool := false

def EntryOrderReport.terminal (report : EntryOrderReport) : Option EntryTerminal :=
  EntryTerminal.ofText (statusText report.status)

namespace ManagedEntryPlanState

def hasPending (state : ManagedEntryPlanState) : Bool := state.pendingIntentId ≠ "" || state.pendingStageId ≠ ""

/-- `request_terminal`. The first request stays; a later one of the other kind changes nothing. -/
def requestTerminal (state : ManagedEntryPlanState) (requested : TerminalRequest) (reason : String)
    (pendingWork : Bool) : ManagedEntryPlanState :=
  if state.phase = .completed then state
  else match state.terminalRequested with
    | none =>
      { state with
        terminalRequested := some requested, terminalRequestReason := reason
        phase := if state.hasPending || pendingWork then .draining else requested.status }
    | some first =>
      if first ≠ requested then state
      else
        { state with
          terminalRequestReason :=
            if state.terminalRequestReason = "" ∧ reason ≠ "" then reason else state.terminalRequestReason
          phase := if state.hasPending || pendingWork then .draining else first.status }

def cumulativeTargetReached (state : ManagedEntryPlanState) (config : ManagedEntryPlanConfig) : Bool :=
  if state.phase = .completed then true
  else if config.completionPolicy.stopWhenBudgetExhausted ∧
      config.targetPolicy.maxTotalAmountCny ≤ state.filledAmountCny + epsilon then true
  else if !config.completionPolicy.stopWhenTargetReached then false
  else match config.targetPolicy.target with
    | .incrementalAmountCny amount => amount ≤ state.filledAmountCny + epsilon
    | .additionalVolume volume => volume ≤ state.filledVolume
    | .targetPositionPct _ => false

def clearPending (state : ManagedEntryPlanState) : ManagedEntryPlanState :=
  { state with
    pendingIntentId := "", pendingStageId := "", pendingRuleId := "", pendingRuleType := "", pendingActivationId := ""
    pendingRequestedVolume := 0, pendingRequestedAmountCny := 0, pendingFilledVolume := 0, pendingFilledAmountCny := 0
    reservedAmountCny := 0, orderTerminalSeen := false, terminalExpectedFilledVolume := none, tradeReconciled := true }

/-- `_terminal_fill_barrier_satisfied`. -/
def barrierSatisfied (state : ManagedEntryPlanState) : Bool :=
  state.orderTerminalSeen && match state.terminalExpectedFilledVolume with
    | none => false
    | some expected => decide ((expected : Int) ≤ state.pendingFilledVolume)

def settlePending (state : ManagedEntryPlanState) (targetReached : Bool) : ManagedEntryPlanState :=
  let cleared := state.clearPending
  if state.phase = .error then cleared
  else if targetReached then { cleared with phase := .completed }
  else match state.terminalRequested with
    | some requested => { cleared with phase := requested.status }
    | none =>
      if state.phase.terminal then cleared
      else { cleared with phase := if state.lastFillAtMs.isSome then .accumulating else .armed }

def selectedRule (state : ManagedEntryPlanState) (fill : EntryFill) : String :=
  PyVal.orText fill.ruleId (if fill.matchesPending then state.pendingRuleId else "")

def recordFill (state : ManagedEntryPlanState) (fill : EntryFill) : ManagedEntryPlanState :=
  let amount : Rat := fill.volume * fill.price
  let rule := state.selectedRule fill
  { state with
    processedTradeKeys := recent 255 state.processedTradeKeys ++ [fill.tradeKey]
    filledVolume := state.filledVolume + fill.volume, filledAmountCny := state.filledAmountCny + amount
    ruleFilledVolumes :=
      if rule = "" then state.ruleFilledVolumes
      else state.ruleFilledVolumes.set rule (state.ruleFilledVolumes.getD rule 0 + fill.volume)
    ruleFilledAmountsCny :=
      if rule = "" then state.ruleFilledAmountsCny
      else state.ruleFilledAmountsCny.set rule (state.ruleFilledAmountsCny.getD rule 0 + amount)
    dailyFilledAmountsCny :=
      state.dailyFilledAmountsCny.set fill.tradeDate (state.dailyFilledAmountsCny.getD fill.tradeDate 0 + amount)
    lastFillAtMs := some fill.timestampMs }

def flagOutside (state : ManagedEntryPlanState) (fill : EntryFill) : ManagedEntryPlanState :=
  { state with
    phase := .error
    lastDecision := Dict.ofList [("reason", .str "ENTRY_FILL_OUTSIDE_PENDING"), ("trade_key", .str fill.tradeKey)] }

def restartPullback (ruleState : Dict String (Dict String PyVal)) (ruleId : String) (price : Rat) :
    Dict String (Dict String PyVal) :=
  ruleState.set ruleId ((ruleState.getD ruleId .empty).update [("phase", .str "WAITING_PULLBACK"),
    ("observed_peak_price", .float price), ("pullback_low_price", .float price), ("confirmations", .int 0)])

def matchFill (state : ManagedEntryPlanState) (fill : EntryFill) : ManagedEntryPlanState :=
  { state with
    pendingFilledVolume := state.pendingFilledVolume + fill.volume
    pendingFilledAmountCny := state.pendingFilledAmountCny + fill.volume * fill.price
    completedActivationIds :=
      if state.pendingActivationId ≠ "" then insert state.pendingActivationId state.completedActivationIds
      else state.completedActivationIds
    completedRuleIds :=
      if state.pendingActivationId ≠ "" ∧ state.pendingActivationId = state.pendingRuleId then
        insert state.pendingRuleId state.completedRuleIds
      else state.completedRuleIds
    ruleState :=
      if state.pendingRuleType = "TREND_PULLBACK_CONFIRMATION" then
        restartPullback state.ruleState state.pendingRuleId fill.price
      else state.ruleState }

def advanceAfterFill (state : ManagedEntryPlanState) (targetReached : Bool) : ManagedEntryPlanState :=
  if state.barrierSatisfied ∨ (state.terminalRequested.isSome ∧ !state.hasPending) then
    state.settlePending targetReached
  else if state.phase = .error then state
  else if state.terminalRequested.isSome then { state with phase := .draining }
  else if targetReached ∧ !state.hasPending then { state with phase := .completed }
  else { state with phase := .accumulating }

/-- `apply_trade_fill`, with whether the fill was counted. -/
def applyTradeFill (state : ManagedEntryPlanState) (fill : EntryFill) : ManagedEntryPlanState × Bool :=
  if fill.tradeKey = "" ∨ fill.tradeKey ∈ state.processedTradeKeys then (state, false)
  else if fill.volume ≤ 0 ∨ fill.price ≤ 0 then (state, false)
  else if !fill.matchesPending then ((state.recordFill fill).flagOutside fill, true)
  else (((state.recordFill fill).matchFill fill).advanceAfterFill fill.targetReached, true)

def announceExpected (state : ManagedEntryPlanState) (terminal : EntryTerminal) (expected : Option Int) :
    ManagedEntryPlanState :=
  let known := state.terminalExpectedFilledVolume.getD 0
  if 0 < expected.getD 0 then
    { state with terminalExpectedFilledVolume := some (max known (expected.getD 0).toNat) }
  else if terminal = .filled ∧ 0 < state.pendingRequestedVolume then
    { state with terminalExpectedFilledVolume := some (max known state.pendingRequestedVolume.toNat) }
  else if terminal = .rejected ∨ terminal = .brokerRejected then
    -- A rejection also ends an intent that never reached the broker.
    { state with terminalExpectedFilledVolume := some 0 }
  else state

def cooldown (state : ManagedEntryPlanState) (report : EntryOrderReport) : ManagedEntryPlanState :=
  { state with retryAfterMs := some (report.timestampMs + report.cooldownAfterRejectSeconds * 1000) }

def reconcileZeroFill (state : ManagedEntryPlanState) (report : EntryOrderReport) : ManagedEntryPlanState :=
  let state := if state.pendingFilledVolume ≤ 0 then state.cooldown report else state
  state.settlePending report.targetReached

def endOrder (state : ManagedEntryPlanState) (terminal : EntryTerminal) (report : EntryOrderReport) :
    ManagedEntryPlanState :=
  let state := { state with orderTerminalSeen := true }.announceExpected terminal report.expectedFilledVolume
  if !state.barrierSatisfied then state
  else
    let state := if state.pendingFilledVolume ≤ 0 ∧ terminal ≠ .filled then state.cooldown report else state
    state.settlePending report.targetReached

/-- `apply_order_terminal`. Statuses that do not end an order change nothing. -/
def applyOrderTerminal (state : ManagedEntryPlanState) (report : EntryOrderReport) : ManagedEntryPlanState :=
  match report.terminal with
  | none => state
  | some .reconciledZeroFill => state.reconcileZeroFill report
  | some terminal => state.endOrder terminal report

end ManagedEntryPlanState

end QuantX
