import QuantX.Lib.Fields
import QuantX.Text
import Mathlib.Algebra.Order.Ring.Rat

/-! # Pre-strategy risk caps

`ContextRiskLayer.build_caps`. The mappings are as dynamically typed as in the source. `strOf` is the text that Python
gives a float or a container. -/

namespace QuantX
open Lib

abbrev Fields := List (String × PyVal)

/-- `str(x)`, where `strOf` is the text of a float or a container. -/
def valueText (strOf : PyVal → String) : PyVal → String
  | .float q => strOf (.float q)
  | .list items => strOf (.list items)
  | .dict fields => strOf (.dict fields)
  | value => value.pyStr

def firstOptionalFloat (values : List PyVal) : Option Rat := values.findSome? PyVal.optionalFloat

/-- `_normalize_state`: the first text that is not blank, in upper case. -/
def normalizeState (strOf : PyVal → String) : List PyVal → String
  | [] => ""
  | .none :: rest => normalizeState strOf rest
  | value :: rest =>
    let text := stripText (valueText strOf value)
    if text ≠ "" then upperText text else normalizeState strOf rest

def minOptional (current : Option Rat) (limit : Rat) : Rat := (current.map (min · limit)).getD limit

def maxOptional (current : Option Rat) (limit : Rat) : Rat := (current.map (max · limit)).getD limit

/-- `list(x)`. -/
def iterItems : PyVal → Except String (List PyVal)
  | .list items => .ok items
  | .str s => .ok (s.toList.map fun c => .str c.toString)
  | .dict fields => .ok (fields.map fun field => .str field.1)
  | _ => .error "TypeError"

/-- `dict(x)` of a mapping or an empty sequence. -/
def toMapping : PyVal → Except String Fields
  | .dict fields => .ok fields
  | .list [] => .ok []
  | .str "" => .ok []
  | _ => .error "ValueError"

/-! ## Caps -/

structure RiskContextCaps where
  riskMode : String := "NORMAL"
  killSwitchActive : Bool := false
  maxPositionPct : Option Rat := none
  maxNewBuyPctToday : Option Rat := none
  maxNewBuyAmountToday : Option Rat := none
  minCashBufferPct : Option Rat := none
  allowBuy : Bool := true
  allowSell : Bool := true
  allowIntradaySwingBuy : Bool := true
  onlyReducePosition : Bool := false
  allowLockedCoreSubstitution : Bool := false
  t1InsufficientAction : String := "DELAY"
  delayCoreBuyInPanic : Bool := false
  maxSingleOrderAmount : Option Rat := none
  reasonCodes : List String := []
  riskTags : List String := []
  metadata : Dict String PyVal := Dict.empty

def RiskContextCaps.toDict (caps : RiskContextCaps) : Fields :=
  [("risk_mode", .str caps.riskMode), ("kill_switch_active", .bool caps.killSwitchActive),
    ("max_position_pct", numberOrNone caps.maxPositionPct),
    ("max_new_buy_pct_today", numberOrNone caps.maxNewBuyPctToday),
    ("max_new_buy_amount_today", numberOrNone caps.maxNewBuyAmountToday),
    ("min_cash_buffer_pct", numberOrNone caps.minCashBufferPct), ("allow_buy", .bool caps.allowBuy),
    ("allow_sell", .bool caps.allowSell), ("allow_intraday_swing_buy", .bool caps.allowIntradaySwingBuy),
    ("only_reduce_position", .bool caps.onlyReducePosition),
    ("allow_locked_core_substitution", .bool caps.allowLockedCoreSubstitution),
    ("t1_insufficient_action", .str caps.t1InsufficientAction),
    ("delay_core_buy_in_panic", .bool caps.delayCoreBuyInPanic),
    ("max_single_order_amount", numberOrNone caps.maxSingleOrderAmount),
    ("reason_codes", writeList .str (sortedSet caps.reasonCodes)), ("risk_tags", writeList .str (sortedSet caps.riskTags)),
    ("metadata", .dict caps.metadata.entries)]

/-- The arguments of `build_caps`. A missing mapping is an empty one. -/
structure CapsContext where
  portfolioState : Fields := []
  marketContext : Fields := []
  orderState : Fields := []
  brokerReport : Fields := []
  runtimeState : Fields := []
  parameters : Fields := []
  instrumentCode : PyVal := .none

namespace ContextRiskLayer
variable (strOf : PyVal → String)

def totalAsset (account : Fields) : Option Rat :=
  firstOptionalFloat [PyVal.get account "total_asset", PyVal.get account "cash_total", PyVal.get account "available_cash",
    PyVal.get account "cash"]

def configuredCaps (params explicitCaps riskConfig context : Fields) : Except String RiskContextCaps := do
  let cap (key : String) : Option Rat :=
    firstOptionalFloat [PyVal.get explicitCaps key, PyVal.get params key, PyVal.get riskConfig key]
  let flag (key : String) (default : Bool) : Bool := (getOr key (.bool default) [explicitCaps, params]).truthy
  let reasonCodes ← (← iterItems (getOr "reason_codes" (.list []) [explicitCaps])).mapM fun code =>
    match code with
    | .str code => .ok code
    | _ => .error "AttributeError"
  let riskTags ← iterItems (getOr "risk_tags" (.list []) [explicitCaps])
  let metadata ← toMapping (getOr "metadata" (.dict []) [explicitCaps])
  return {
    riskMode := normalizeState strOf [PyVal.get explicitCaps "risk_mode", PyVal.get params "risk_mode",
      PyVal.get riskConfig "risk_mode", PyVal.get context "risk_mode", .str "NORMAL"]
    killSwitchActive := (getOr "kill_switch_active" (.bool false) [explicitCaps, params, riskConfig]).truthy
    maxPositionPct := cap "max_position_pct", maxNewBuyPctToday := cap "max_new_buy_pct_today"
    maxNewBuyAmountToday := cap "max_new_buy_amount_today", minCashBufferPct := cap "min_cash_buffer_pct"
    allowBuy := flag "allow_buy" true, allowSell := flag "allow_sell" true
    allowIntradaySwingBuy := flag "allow_intraday_swing_buy" true
    onlyReducePosition := flag "only_reduce_position" false
    allowLockedCoreSubstitution := flag "allow_locked_core_substitution" false
    t1InsufficientAction := upperText
      (valueText strOf (getOr "t1_insufficient_action" (.str "DELAY") [explicitCaps, params]))
    delayCoreBuyInPanic := flag "delay_core_buy_in_panic" false, maxSingleOrderAmount := cap "max_single_order_amount"
    reasonCodes, riskTags := riskTags.map (valueText strOf), metadata := Dict.ofList metadata }

def noted (caps : RiskContextCaps) (reasonCode riskTag : String) : RiskContextCaps :=
  { caps with reasonCodes := caps.reasonCodes ++ [reasonCode], riskTags := caps.riskTags ++ [riskTag] }

def applyMarketState (marketState : String) (caps : RiskContextCaps) : RiskContextCaps :=
  if marketState = "PANIC" ∨ caps.riskMode = "PANIC" then
    noted { caps with
      riskMode := "PANIC", allowIntradaySwingBuy := false
      maxPositionPct := some (minOptional caps.maxPositionPct (35 / 100))
      maxNewBuyPctToday := some (minOptional caps.maxNewBuyPctToday (1 / 100))
      minCashBufferPct := some (maxOptional caps.minCashBufferPct (40 / 100)) } "RISK_CONTEXT_CAP" "market_panic"
  else if marketState = "RISK_OFF" ∨ caps.riskMode = "RISK_OFF" ∨ caps.riskMode = "RISK_REDUCED" ∨ caps.riskMode = "REDUCED" then
    noted { caps with
      riskMode := "RISK_REDUCED", allowIntradaySwingBuy := false
      maxPositionPct := some (minOptional caps.maxPositionPct (50 / 100))
      maxNewBuyPctToday := some (minOptional caps.maxNewBuyPctToday (4 / 100))
      minCashBufferPct := some (maxOptional caps.minCashBufferPct (30 / 100)) } "RISK_CONTEXT_CAP" "market_risk_off"
  else caps

def applyIndustryState (industryState : String) (caps : RiskContextCaps) : RiskContextCaps :=
  if industryState = "BROKEN" then
    noted { caps with
      maxPositionPct := some (minOptional caps.maxPositionPct (40 / 100))
      maxNewBuyPctToday := some (minOptional caps.maxNewBuyPctToday (2 / 100)) } "RISK_CONTEXT_CAP" "industry_broken"
  else caps

def applyLiquidityState (liquidityState : String) (totalAsset : Option Rat) (caps : RiskContextCaps) : RiskContextCaps :=
  if liquidityState = "DRY" then
    noted { caps with
      maxSingleOrderAmount := match totalAsset with
        | some totalAsset => some (minOptional caps.maxSingleOrderAmount (totalAsset * (2 / 100)))
        | none => caps.maxSingleOrderAmount } "LOW_LIQUIDITY" "liquidity_dry"
  else caps

def applyDataQuality (dataQuality : String) (caps : RiskContextCaps) : RiskContextCaps :=
  if (dataQuality = "INSUFFICIENT" ∨ dataQuality = "STALE" ∨ dataQuality = "MISSING") ∧ caps.riskMode ≠ "PANIC" then
    noted { caps with
      riskMode := "RISK_REDUCED", maxPositionPct := some (minOptional caps.maxPositionPct (50 / 100))
      minCashBufferPct := some (maxOptional caps.minCashBufferPct (30 / 100)) } "RISK_CONTEXT_CAP" "data_quality_guard"
  else caps

def deriveBuyAmount (totalAsset : Option Rat) (caps : RiskContextCaps) : RiskContextCaps :=
  match caps.maxNewBuyAmountToday, totalAsset, caps.maxNewBuyPctToday with
  | none, some totalAsset, some pct => { caps with maxNewBuyAmountToday := some (max 0 (totalAsset * pct)) }
  | _, _, _ => caps

def reaches (value limit : Option Rat) : Bool :=
  match value, limit with
  | some value, some limit => limit ≤ value
  | _, _ => false

def tripped (caps : RiskContextCaps) (fields : Fields) : RiskContextCaps :=
  { caps with killSwitchActive := true, metadata := caps.metadata.update fields }

def applyKillSwitchGuards (input : CapsContext) (riskConfig : Fields) (caps : RiskContextCaps) : RiskContextCaps :=
  let context := input.marketContext
  let limit (key : String) : Option Rat := firstOptionalFloat [PyVal.get riskConfig key, PyVal.get input.parameters key]
  let drawdown := firstOptionalFloat [PyVal.get input.runtimeState "drawdown_pct", PyVal.get input.runtimeState "max_drawdown",
    PyVal.get context "drawdown_pct"]
  let lag := firstOptionalFloat [PyVal.get input.brokerReport "report_lag_seconds",
    PyVal.get input.brokerReport "last_report_lag_seconds"]
  let stockState := normalizeState strOf [PyVal.get context "stock_state", .str ""]
  let caps := if reaches drawdown (limit "max_drawdown_pct") then
      tripped caps [("kill_switch_reason", .str "max_drawdown"), ("drawdown_pct", numberOrNone drawdown)]
    else caps
  let caps := if (PyVal.get context "suspended").truthy ∨ stockState = "ST" ∨ stockState = "DELIST_RISK" ∨
        (PyVal.get context "delist_risk").truthy then
      tripped caps [("kill_switch_reason", .str "instrument_protection"), ("instrument_code", input.instrumentCode)]
    else caps
  let caps := if (PyVal.get input.orderState "severe_mismatch").truthy ∨
        (PyVal.get input.brokerReport "severe_mismatch").truthy then
      tripped caps [("kill_switch_reason", .str "account_state_mismatch")]
    else caps
  if reaches lag (limit "max_broker_report_lag_seconds") then tripped caps [("kill_switch_reason", .str "broker_report_stale")]
  else caps

def closeOnKillSwitch (caps : RiskContextCaps) : RiskContextCaps :=
  let caps := if caps.killSwitchActive then
      noted { caps with allowBuy := false, onlyReducePosition := true } "KILL_SWITCH_TRIGGERED" "kill_switch"
    else caps
  if caps.onlyReducePosition then noted caps "ONLY_REDUCE_POSITION" "only_reduce_position" else caps

def riskMetadataOrderState (orderState : Fields) : Except String Fields := do
  let openOrders ← intField orderState "open_order_count"
  let buyOrders ← intField orderState "buy_open_order_count"
  let sellOrders ← intField orderState "sell_open_order_count"
  let statusCounts ← mappingOrEmpty (PyVal.get orderState "open_order_status_counts")
  let typeCounts ← mappingOrEmpty (PyVal.get orderState "open_order_type_counts")
  return [("open_order_count", .int openOrders), ("buy_open_order_count", .int buyOrders),
    ("sell_open_order_count", .int sellOrders), ("oldest_open_order_at", PyVal.get orderState "oldest_open_order_at"),
    ("open_order_status_counts", .dict statusCounts), ("open_order_type_counts", .dict typeCounts)]

def riskMetadataBrokerReport (brokerReport : Fields) : Fields :=
  ["last_order_report_at", "last_trade_report_at", "last_report_at", "report_lag_seconds"].map fun key =>
    (key, PyVal.get brokerReport key)

structure ContextStates where
  (marketState industryState liquidityState dataQuality : String)

def contextStates (context : Fields) : ContextStates where
  marketState := normalizeState strOf [PyVal.get context "market_state", PyVal.get context "stock_state",
    PyVal.get context "sector_state", .str "NORMAL"]
  industryState := normalizeState strOf [PyVal.get context "industry_state", .str "NORMAL"]
  liquidityState := normalizeState strOf [PyVal.get context "liquidity_state", .str "NORMAL"]
  dataQuality := normalizeState strOf [PyVal.get context "data_quality", .str "OK"]

def tightened (input : CapsContext) (riskConfig : Fields) (totalAsset : Option Rat) (caps : RiskContextCaps) : RiskContextCaps :=
  let states := contextStates strOf input.marketContext
  let caps := applyMarketState states.marketState caps
  let caps := applyIndustryState states.industryState caps
  let caps := applyLiquidityState states.liquidityState totalAsset caps
  let caps := applyDataQuality states.dataQuality caps
  let caps := deriveBuyAmount totalAsset caps
  let caps := applyKillSwitchGuards strOf input riskConfig caps
  closeOnKillSwitch caps

def buildCaps (input : CapsContext) : Except String RiskContextCaps := do
  let params := input.parameters
  let explicitCaps ← mappingOrEmpty (PyVal.get params "risk_caps")
  let riskConfig ← mappingOrEmpty ((PyVal.get params "risk_config").or (PyVal.get params "risk"))
  let account ← mappingOrEmpty (PyVal.get input.portfolioState "account")
  let configured ← configuredCaps strOf params explicitCaps riskConfig input.marketContext
  let caps := tightened strOf input riskConfig (totalAsset account) configured
  let states := contextStates strOf input.marketContext
  let orderState ← riskMetadataOrderState input.orderState
  return { caps with
    reasonCodes := sortedSet (caps.reasonCodes.map upperText), riskTags := sortedSet caps.riskTags
    metadata := caps.metadata.update [("instrument_code", input.instrumentCode), ("market_state", .str states.marketState),
      ("industry_state", .str states.industryState), ("liquidity_state", .str states.liquidityState),
      ("data_quality", .str states.dataQuality), ("order_state", .dict orderState),
      ("broker_report", .dict (riskMetadataBrokerReport input.brokerReport))] }

end ContextRiskLayer
end QuantX
