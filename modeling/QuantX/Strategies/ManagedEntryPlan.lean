import QuantX.Trading.EntryPlanEvaluator
import QuantX.Trading.ExecutionOwner

/-! # The managed entry strategy

The adapter between the runtime's events and the plan's state: which reports belong to the plan and its pending slice. -/

namespace QuantX
open Lib

/-- `value == text`. -/
def isText (value : PyVal) (text : String) : Bool :=
  match value with
  | .str s => s = text
  | _ => false

structure EntryStrategyRef where
  (runId planId : String)

structure EntryOrderEvent where
  metadata : Dict String PyVal
  executionRef : Option ExecutionOwnerRef
  status : String
  timestampMs : Int
  filledVolume : Option Int := none
  requestVolume : Int := 0

/-- A trade report. `composedKey` is the text of its order, time, price and volume. -/
structure EntryTradeEvent where
  metadata : Dict String PyVal
  executionRef : Option ExecutionOwnerRef
  (instrumentCode tradeType : String)
  volume : Int
  price : Rat
  tradeDate : String
  timestampMs : Int
  composedKey : String

def ownsEntryEvent (strategy : EntryStrategyRef) (metadata : Dict String PyVal) (executionRef : Option ExecutionOwnerRef) :
    Bool :=
  executionRef = some ⟨"STRATEGY_RUN", strategy.runId⟩ && isText (metadata.getD "entry_plan_id" .none) strategy.planId &&
    isText (metadata.getD "side" .none) "BUY" && (metadata.getD "intent_id" .none).truthy &&
    (metadata.getD "entry_stage_id" .none).truthy

def matchesPendingEntry (metadata : Dict String PyVal) (state : ManagedEntryPlanState) : Bool :=
  state.pendingIntentId ≠ "" && isText (metadata.getD "intent_id" .none) state.pendingIntentId &&
    isText (metadata.getD "entry_stage_id" .none) state.pendingStageId

/-- `_target_reached_after_fill`: completion as it would stand with the fill counted. -/
def targetReachedAfterFill (state : ManagedEntryPlanState) (config : ManagedEntryPlanConfig) (volume : Int) (price : Rat) :
    Bool :=
  { state with
    filledVolume := state.filledVolume + max 0 volume
    filledAmountCny := state.filledAmountCny + (max 0 volume : Int) * max 0 price }.cumulativeTargetReached config

def metadataFills (metadata : Dict String PyVal) : Except String (List Int) := do
  let volumes ← ["terminal_filled_volume", "traded_volume", "filled_volume", "executed_volume"].mapM fun key =>
    ((metadata.getD key .none).or (.int 0)).toInt
  return volumes.filter (0 < ·)

def terminalExpectedFilledVolume (event : EntryOrderEvent) (terminal : EntryTerminal) : Except String (Option Int) := do
  let candidates := event.filledVolume.toList.filter (0 < ·) ++ (← metadataFills event.metadata)
  match candidates with
  | first :: rest => return some (rest.foldl max first)
  | [] =>
    if terminal = .filled ∧ 0 < event.requestVolume then return some event.requestVolume
    else if terminal = .rejected ∨ terminal = .brokerRejected then return some 0
    else return none

/-- `on_order`: the state after the event, or the error that it raises. -/
def onOrder (strategy : EntryStrategyRef) (config : ManagedEntryPlanConfig) (state : ManagedEntryPlanState)
    (event : EntryOrderEvent) : Except String ManagedEntryPlanState :=
  if !ownsEntryEvent strategy event.metadata event.executionRef then .ok state
  else match EntryTerminal.ofText (statusText event.status) with
    | none => .ok state
    | some terminal =>
      if !matchesPendingEntry event.metadata state then .ok state
      else do
        let expected ← terminalExpectedFilledVolume event terminal
        return state.applyOrderTerminal {
          status := event.status, timestampMs := event.timestampMs
          cooldownAfterRejectSeconds := config.pacingPolicy.cooldownAfterRejectSeconds, expectedFilledVolume := expected
          targetReached := state.cumulativeTargetReached config }

/-- The key that `on_trade` tells a report by. -/
def EntryTradeEvent.tradeKey (event : EntryTradeEvent) : String :=
  (((event.metadata.getD "trade_id" .none).or (event.metadata.getD "report_id" .none)).or (.str event.composedKey)).pyStr

/-- The fill that `on_trade` books for a report. -/
def EntryTradeEvent.fill (event : EntryTradeEvent) (config : ManagedEntryPlanConfig) (state : ManagedEntryPlanState) :
    EntryFill where
  tradeKey := event.tradeKey
  matchesPending := matchesPendingEntry event.metadata state
  volume := event.volume
  price := event.price
  tradeDate := event.tradeDate
  timestampMs := event.timestampMs
  ruleId := ((event.metadata.getD "entry_rule_id" .none).or (.str state.pendingRuleId)).pyStr
  targetReached := targetReachedAfterFill state config event.volume event.price

def onTrade (strategy : EntryStrategyRef) (config : ManagedEntryPlanConfig) (state : ManagedEntryPlanState)
    (event : EntryTradeEvent) : ManagedEntryPlanState :=
  if !ownsEntryEvent strategy event.metadata event.executionRef then state
  else if event.instrumentCode ≠ config.instrumentCode then state
  else if statusText event.tradeType ≠ "BUY" then state
  else (state.applyTradeFill (event.fill config state)).1

end QuantX
