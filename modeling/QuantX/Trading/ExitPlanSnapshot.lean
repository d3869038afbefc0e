import QuantX.Trading.ExitPlanBook

/-! # Snapshots of exit plans

`to_dict` and `from_dict` of a plan, its template and its book. A snapshot is a mapping from field names to JSON-like
values; reading one applies the defaults of the source. -/

namespace QuantX
open Lib

def ExitPlanStatus.value : ExitPlanStatus → String
  | .pendingEntry => "PENDING_ENTRY"
  | .active => "ACTIVE"
  | .exitPending => "EXIT_PENDING"
  | .partiallyExited => "PARTIALLY_EXITED"
  | .completed => "COMPLETED"
  | .paused => "PAUSED"
  | .cancelled => "CANCELLED"
  | .error => "ERROR"

def ExitPlanStatus.ofText : String → Except String ExitPlanStatus
  | "PENDING_ENTRY" => .ok .pendingEntry
  | "ACTIVE" => .ok .active
  | "EXIT_PENDING" => .ok .exitPending
  | "PARTIALLY_EXITED" => .ok .partiallyExited
  | "COMPLETED" => .ok .completed
  | "PAUSED" => .ok .paused
  | "CANCELLED" => .ok .cancelled
  | "ERROR" => .ok .error
  | _ => .error "ValueError"

def ExitSizingMode.value : ExitSizingMode → String
  | .allRemaining => "ALL_REMAINING"
  | .percentRemaining => "PERCENT_REMAINING"
  | .fixedVolume => "FIXED_VOLUME"

def ExitSizingMode.ofText : String → Except String ExitSizingMode
  | "ALL_REMAINING" => .ok .allRemaining
  | "PERCENT_REMAINING" => .ok .percentRemaining
  | "FIXED_VOLUME" => .ok .fixedVolume
  | _ => .error "ValueError"

def ExitT1Policy.value : ExitT1Policy → String
  | .waitUntilSellable => "WAIT_UNTIL_SELLABLE"
  | .allowSameInstrumentSubstitution => "ALLOW_SAME_INSTRUMENT_SUBSTITUTION"
  | .rejectIfUnsellable => "REJECT_IF_UNSELLABLE"

def ExitT1Policy.ofText : String → Except String ExitT1Policy
  | "WAIT_UNTIL_SELLABLE" => .ok .waitUntilSellable
  | "ALLOW_SAME_INSTRUMENT_SUBSTITUTION" => .ok .allowSameInstrumentSubstitution
  | "REJECT_IF_UNSELLABLE" => .ok .rejectIfUnsellable
  | _ => .error "ValueError"

def ExitPriceReference.ofText : String → Except String ExitPriceReference
  | "BID" => .ok .bid
  | "LAST" => .ok .last
  | "ASK" => .ok .ask
  | _ => .error "ValueError"

def TradingCostPolicy.toDict (costs : TradingCostPolicy) : List (String × PyVal) :=
  [("commission_rate", .float costs.commissionRate), ("minimum_commission", .float costs.minimumCommission),
    ("stamp_tax_rate", .float costs.stampTaxRate), ("transfer_fee_rate", .float costs.transferFeeRate)]

def ExitSizingPolicy.toDict (sizing : ExitSizingPolicy) : List (String × PyVal) :=
  [("mode", .str sizing.mode.value), ("value", numberOrNone sizing.value), ("lot_size", .int sizing.lotSize),
    ("allow_odd_lot_full_exit", .bool sizing.allowOddLotFullExit)]

def ExitSizingPolicy.build (mode : ExitSizingMode) (value : Option Rat) (lotSize : Int) (allowOddLotFullExit : Bool) :
    Except String ExitSizingPolicy :=
  if hlot : 0 < lotSize then
    if hvalue : mode.accepts value = true then
      .ok { mode, value, lotSize, allowOddLotFullExit,
            lotSize_pos := hlot, value_ok := hvalue }
    else .error (match mode with
      | .percentRemaining => "percent exit sizing requires value in (0, 100]"
      | _ => "fixed exit sizing requires a positive volume")
  else .error "exit sizing lot_size must be positive"

def ExitSizingPolicy.fromDict (value : PyVal) : Except String ExitSizingPolicy := do
  let raw ← mappingOrEmpty value
  let mode ← ExitSizingMode.ofText (((Dict.lookup "mode" raw).getD (.str "ALL_REMAINING")).text "")
  let amount ← optionalNumber (PyVal.get raw "value")
  let lotSize ← intOrField raw "lot_size" 100
  build mode amount lotSize (boolField raw "allow_odd_lot_full_exit" true)

def ExitRuleSpec.toDict (rule : ExitRuleSpec) : List (String × PyVal) :=
  [("rule_id", .str rule.ruleId), ("strategy", .str rule.strategy), ("parameters", .dict rule.parameters.entries),
    ("priority", .int rule.priority), ("sizing", .dict rule.sizing.toDict), ("enabled", .bool rule.enabled),
    ("once", .bool rule.once)]

/-- `uuid4` is the id that the call generates for this rule, if it has none. -/
def ExitRuleSpec.fromDict (uuid4 : String) (value : PyVal) : Except String ExitRuleSpec := do
  let raw ← mappingOrEmpty value
  let strategy ← requiredText raw "strategy"
  let parameters ← mappingOrEmpty (PyVal.get raw "parameters")
  let priority ← intOrField raw "priority" 500
  let sizing ← ExitSizingPolicy.fromDict (PyVal.get raw "sizing")
  return {
    ruleId := PyVal.orText (textField raw "rule_id" "") uuid4, strategy := strategy.toUpper
    parameters := Dict.ofList parameters, priority, sizing
    enabled := boolField raw "enabled" true, once := boolField raw "once" false }

def ExitRuleSpec.fromDicts (uuid4 : Nat → String) : List PyVal → Nat → Except String (List ExitRuleSpec)
  | [], _ => .ok []
  | value :: rest, n => do
    let rule ← ExitRuleSpec.fromDict (uuid4 n) value
    let rules ← ExitRuleSpec.fromDicts uuid4 rest (n + 1)
    return rule :: rules

def ExitExecutionPolicy.toDict (execution : ExitExecutionPolicy) : List (String × PyVal) :=
  [("price_reference", .str execution.priceReference.value),
    ("price_type", .str (PyVal.orText execution.priceType "LIMIT").toUpper),
    ("protected_limit", .bool execution.protectedLimit), ("max_slippage_bps", .float execution.maxSlippageBps),
    ("urgency", .str execution.urgency), ("execution_mode", .str (PyVal.orText execution.executionMode "AUTO").toUpper)]

def ExitExecutionPolicy.fromDict (value : PyVal) : Except String ExitExecutionPolicy := do
  let raw ← mappingOrEmpty value
  let reference ← ExitPriceReference.ofText (((Dict.lookup "price_reference" raw).getD (.str "BID")).text "")
  let slippage ← floatField raw "max_slippage_bps" 30
  return {
    priceReference := reference, priceType := upperField raw "price_type" "LIMIT"
    protectedLimit := boolField raw "protected_limit" true, maxSlippageBps := slippage
    urgency := textField raw "urgency" "PROTECTIVE_EXIT", executionMode := upperField raw "execution_mode" "AUTO" }

def ExitPlanTemplate.toDict (template : ExitPlanTemplate) : List (String × PyVal) :=
  [("plan_id", .str template.planId), ("source_type", .str template.sourceType), ("source_id", .str template.sourceId),
    ("account_id", .str template.accountId), ("instrument_code", .str template.instrumentCode),
    ("bucket", .str template.bucket), ("rules", .list (template.rules.map fun rule => .dict rule.toDict)),
    ("strategy_id", .str template.strategyId), ("run_id", .str template.runId),
    ("config_version", .int template.configVersion), ("costs", .dict template.costs.toDict),
    ("t1_policy", .str template.t1Policy.value), ("execution", .dict template.execution.toDict),
    ("metadata", .dict template.metadata.entries), ("auto_exit_authorized", .bool template.autoExitAuthorized)]

def ExitPlanTemplate.fromDict (uuid4 : Nat → String) (value : PyVal) : Except String ExitPlanTemplate := do
  let raw ← mappingOrEmpty value
  let planId ← requiredText raw "plan_id"
  let instrumentCode ← requiredText raw "instrument_code"
  let bucket ← requiredText raw "bucket"
  let items ← listOrEmpty (PyVal.get raw "rules")
  let rules ← ExitRuleSpec.fromDicts uuid4 items 0
  let configVersion ← intOrField raw "config_version" 1
  let costs ← TradingCostPolicy.ofFields (PyVal.get raw "costs")
  let t1Policy ← ExitT1Policy.ofText (((Dict.lookup "t1_policy" raw).getD (.str "WAIT_UNTIL_SELLABLE")).text "")
  let execution ← ExitExecutionPolicy.fromDict (PyVal.get raw "execution")
  let metadata ← mappingOrEmpty (PyVal.get raw "metadata")
  if hid : planId ≠ "" ∧ instrumentCode ≠ "" ∧ bucket ≠ "" then
    if hrules : rules ≠ [] then
      return {
        planId, sourceType := textField raw "source_type" "STRATEGY_ENTRY"
        sourceId := textField raw "source_id" "", accountId := textField raw "account_id" ""
        instrumentCode, bucket, rules, strategyId := textField raw "strategy_id" ""
        runId := textField raw "run_id" "", configVersion, costs, t1Policy, execution, metadata := Dict.ofList metadata
        autoExitAuthorized := boolField raw "auto_exit_authorized" false, identified := hid, rules_ne := hrules }
    else throw "exit plan template requires at least one sell rule"
  else throw "exit plan template requires plan_id, instrument and bucket"

/-! ## Plans -/

def texts (items : List String) : PyVal := .list (items.map PyVal.str)

def volumes (d : Dict String Int) : PyVal := .dict (d.entries.map fun e => (e.1, .int e.2))

namespace ExitPlan

def toDict (plan : ExitPlan) : List (String × PyVal) :=
  [("template", .dict plan.template.toDict), ("status", .str plan.status.value),
    ("entry_filled_volume", .int plan.entryFilledVolume), ("entry_avg_price", .float plan.entryAvgPrice),
    ("exited_volume", .int plan.exitedVolume), ("exit_avg_price", .float plan.exitAvgPrice),
    ("peak_price", .float plan.peakPrice), ("last_price", .float plan.lastPrice),
    ("last_net_profit_pct", .float plan.lastNetProfitPct), ("peak_net_profit_pct", .float plan.peakNetProfitPct),
    ("trailing_floor_pct", numberOrNone plan.trailingFloorPct), ("entry_trade_date", .str plan.entryTradeDate),
    ("last_holding_trade_date", .str plan.lastHoldingTradeDate),
    ("holding_trading_days", .int plan.holdingTradingDays), ("pending_intent_id", .str plan.pendingIntentId),
    ("pending_order_id", .str plan.pendingOrderId), ("pending_rule_id", .str plan.pendingRuleId),
    ("pending_requested_volume", .int plan.pendingRequestedVolume),
    ("pending_filled_volume", .int plan.pendingFilledVolume),
    ("pending_order_terminal", .bool plan.pendingOrderTerminal),
    ("pending_terminal_cumulative_fill", (plan.pendingTerminalCumulativeFill.map PyVal.int).getD .none),
    ("reconciled_zero_fill_intent_ids", texts plan.reconciledZeroFillIntentIds),
    ("rule_state", .dict (plan.ruleState.entries.map fun e => (e.1, .dict e.2.entries))),
    ("rule_target_volumes", volumes plan.ruleTargetVolumes), ("rule_filled_volumes", volumes plan.ruleFilledVolumes),
    ("completed_rule_ids", texts plan.completedRuleIds), ("last_exit_reason", .str plan.lastExitReason),
    ("last_evaluated_at", .str plan.lastEvaluatedAt), ("retry_after_ms", .int plan.retryAfterMs),
    ("error_message", .str plan.errorMessage)]

def volumeEntry (entry : String × PyVal) : Except String (String × Int) := do
  return (entry.1, ← (entry.2.or (.int 0)).toInt)

/-- `{str(key): int(value or 0)}` of a mapping. -/
def volumesOf (value : PyVal) : Except String (Dict String Int) := do
  return Dict.ofList (← (← mappingOrEmpty value).mapM volumeEntry)

def ruleStateEntry (entry : String × PyVal) : Except String (String × Dict String PyVal) := do
  return (entry.1, Dict.ofList (← mappingOrEmpty entry.2))

/-- `{str(key): dict(value or {})}` of a mapping. -/
def ruleStateOf (value : PyVal) : Except String (Dict String (Dict String PyVal)) := do
  return Dict.ofList (← (← mappingOrEmpty value).mapM ruleStateEntry)

/-- `[str(item) for item in list(value or [])]`. -/
def textsOf (value : PyVal) : Except String (List String) := do
  let items ← listOrEmpty value
  return items.map (·.text "")

def fromDict (uuid4 : Nat → String) (value : PyVal) : Except String ExitPlan := do
  let raw ← mappingOrEmpty value
  let template ← match Dict.lookup "template" raw with
    | some value => ExitPlanTemplate.fromDict uuid4 value
    | none => .error "KeyError"
  let status ← ExitPlanStatus.ofText (((Dict.lookup "status" raw).getD (.str "PENDING_ENTRY")).text "")
  let zeroFills ← textsOf (PyVal.get raw "reconciled_zero_fill_intent_ids")
  return {
    template, status, entryFilledVolume := ← intField raw "entry_filled_volume"
    entryAvgPrice := ← floatField raw "entry_avg_price" 0, exitedVolume := ← intField raw "exited_volume"
    exitAvgPrice := ← floatField raw "exit_avg_price" 0, peakPrice := ← floatField raw "peak_price" 0
    lastPrice := ← floatField raw "last_price" 0, lastNetProfitPct := ← floatField raw "last_net_profit_pct" 0
    peakNetProfitPct := ← floatField raw "peak_net_profit_pct" 0
    trailingFloorPct := (PyVal.get raw "trailing_floor_pct").optionalFloat
    entryTradeDate := textField raw "entry_trade_date" ""
    lastHoldingTradeDate := textField raw "last_holding_trade_date" ""
    holdingTradingDays := ← intField raw "holding_trading_days", pendingIntentId := textField raw "pending_intent_id" ""
    pendingOrderId := textField raw "pending_order_id" "", pendingRuleId := textField raw "pending_rule_id" ""
    pendingRequestedVolume := ← intField raw "pending_requested_volume"
    pendingFilledVolume := ← intField raw "pending_filled_volume"
    pendingOrderTerminal := boolField raw "pending_order_terminal" false
    pendingTerminalCumulativeFill := optionalNonNegativeInt (PyVal.get raw "pending_terminal_cumulative_fill")
    reconciledZeroFillIntentIds := zeroFills.filter (· ≠ ""), ruleState := ← ruleStateOf (PyVal.get raw "rule_state")
    ruleTargetVolumes := ← volumesOf (PyVal.get raw "rule_target_volumes")
    ruleFilledVolumes := ← volumesOf (PyVal.get raw "rule_filled_volumes")
    completedRuleIds := ← textsOf (PyVal.get raw "completed_rule_ids")
    lastExitReason := textField raw "last_exit_reason" "", lastEvaluatedAt := textField raw "last_evaluated_at" ""
    retryAfterMs := ← intField raw "retry_after_ms", errorMessage := textField raw "error_message" "" }

end ExitPlan

namespace ExitPlanBook

/-- The mapping under `plans` in a book's snapshot. -/
def toDict (book : ExitPlanBook) : List (String × PyVal) :=
  [("version", .int 1), ("plans", .dict (book.plans.entries.map fun e => (e.1, .dict e.2.toDict)))]

def load (uuid4 : String → Nat → String) : List (String × PyVal) → ExitPlanBook → ExitPlanBook
  | [], book => book
  | (key, value) :: rest, book =>
    load uuid4 rest (match ExitPlan.fromDict (uuid4 key) value with
      | .ok plan => book.put plan
      | .error _ => book)

def fromDict (uuid4 : String → Nat → String) (value : PyVal) : Except String ExitPlanBook := do
  let raw ← mappingOrEmpty value
  let plans ← mappingOrEmpty (PyVal.get raw "plans")
  return load uuid4 plans empty

end ExitPlanBook
end QuantX
