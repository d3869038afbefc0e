import QuantX.Lib.Fields
import Mathlib.Data.List.Sort
import Mathlib.Algebra.Order.Ring.Rat

/-! # Exit plans

The data model of `trading/exit_plan.py`. Prices, amounts and percentages are exact rationals, volumes are integers. A
frozen record that checks its fields on construction carries the checks as fields. -/

namespace QuantX
open Lib

inductive ExitPlanStatus where
  | pendingEntry | active | exitPending | partiallyExited | completed | paused | cancelled | error
  deriving DecidableEq, Repr

inductive ExitSizingMode where
  | allRemaining | percentRemaining | fixedVolume
  deriving DecidableEq, Repr

inductive ExitT1Policy where
  | waitUntilSellable | allowSameInstrumentSubstitution | rejectIfUnsellable
  deriving DecidableEq, Repr

inductive ExitPriceReference where
  | bid | last | ask
  deriving DecidableEq, Repr

def ExitPriceReference.value : ExitPriceReference → String
  | bid => "BID"
  | last => "LAST"
  | ask => "ASK"

inductive ExitPlanCommandType where
  | upsertPolicy | pause | resume | cancel
  deriving DecidableEq, Repr

inductive ExitCostBasisMode where
  | brokerBuyOrders | manualUnitCost | entryFills | positionAverageSnapshot
  deriving DecidableEq, Repr

def ExitCostBasisMode.ofText : String → Except String ExitCostBasisMode
  | "BROKER_BUY_ORDERS" => .ok .brokerBuyOrders
  | "MANUAL_UNIT_COST" => .ok .manualUnitCost
  | "ENTRY_FILLS" => .ok .entryFills
  | "POSITION_AVERAGE_SNAPSHOT" => .ok .positionAverageSnapshot
  | _ => .error "ValueError"

inductive ExitBuyFeeTreatment where
  | included | estimated
  deriving DecidableEq, Repr

def ExitBuyFeeTreatment.ofText : String → Except String ExitBuyFeeTreatment
  | "INCLUDED" => .ok .included
  | "ESTIMATED" => .ok .estimated
  | _ => .error "ValueError"

/-- What the code reads off a `datetime`: its ISO texts, the microseconds since midnight and the epoch
    milliseconds. -/
structure DateTime where
  (isoformat isoDate : String)
  timeOfDay : Nat
  epochMs : Int
  deriving DecidableEq, Repr

structure TradingCostPolicy where
  commissionRate : Rat := 3 / 10000
  minimumCommission : Rat := 5
  stampTaxRate : Rat := 5 / 10000
  transferFeeRate : Rat := 1 / 100000
  deriving DecidableEq

def TradingCostPolicy.ofFields (value : PyVal) : Except String TradingCostPolicy := do
  let raw ← mappingOrEmpty value
  return {
    commissionRate := ← floatField raw "commission_rate" (3 / 10000)
    minimumCommission := ← floatField raw "minimum_commission" 5
    stampTaxRate := ← floatField raw "stamp_tax_rate" (5 / 10000)
    transferFeeRate := ← floatField raw "transfer_fee_rate" (1 / 100000) }

def estimateBuyFeeCny (price : Rat) (volume : Int) (policy : TradingCostPolicy) : Rat :=
  if price ≤ 0 ∨ volume ≤ 0 then 0
  else
    let amount := price * volume
    max policy.minimumCommission (amount * policy.commissionRate) + amount * policy.transferFeeRate

/-- The round-trip net return of selling `volume` at `exitPrice`, in percent of the entry cost. -/
def estimateNetProfitPct (entryPrice exitPrice : Rat) (volume : Int) (policy : TradingCostPolicy)
    (entryCostIncludesBuyFees : Bool) : Rat :=
  if entryPrice ≤ 0 ∨ exitPrice ≤ 0 ∨ volume ≤ 0 then 0
  else
    let buyAmount := entryPrice * volume
    let sellAmount := exitPrice * volume
    let buyFee := if entryCostIncludesBuyFees then 0 else estimateBuyFeeCny entryPrice volume policy
    let sellFee := max policy.minimumCommission (sellAmount * policy.commissionRate) +
      sellAmount * (policy.stampTaxRate + policy.transferFeeRate)
    let entryCost := buyAmount + buyFee
    if entryCost ≤ 0 then 0 else ((sellAmount - sellFee) - entryCost) / entryCost * 100

structure ExitCostBasisSnapshot where
  mode : ExitCostBasisMode
  unitCostCny : Rat
  basisVolume : Int
  buyFeeTreatment : ExitBuyFeeTreatment
  costPolicy : TradingCostPolicy
  unitCost_pos : 0 < unitCostCny
  basisVolume_pos : 0 < basisVolume

def ExitCostBasisSnapshot.includesBuyFees (basis : ExitCostBasisSnapshot) : Bool :=
  basis.mode = .brokerBuyOrders || basis.mode = .manualUnitCost

def checkCostBasisOrder (value : PyVal) : Except String Unit := do
  let raw ← mappingOrEmpty value
  let _ ← intField raw "traded_volume"
  let _ ← floatField raw "traded_price" 0
  let _ ← floatField raw "estimated_buy_fee_cny" 0

def ExitCostBasisSnapshot.ofFields (raw : List (String × PyVal)) : Except String ExitCostBasisSnapshot := do
  let mode ← ExitCostBasisMode.ofText ((PyVal.get raw "mode").text "")
  let unitCost ← floatField raw "unit_cost_cny" 0
  let volume ← intField raw "basis_volume"
  let treatment ← ExitBuyFeeTreatment.ofText
    (((Dict.lookup "buy_fee_treatment" raw).getD (.str "ESTIMATED")).text "")
  let orders ← match (PyVal.get raw "selected_orders").or (.list []) with
    | .list items => .ok items
    | _ => .error "TypeError"
  orders.forM checkCostBasisOrder
  let policy ← TradingCostPolicy.ofFields (PyVal.get raw "cost_policy")
  if h : 0 < unitCost ∧ 0 < volume then
    return ⟨mode, unitCost, volume, treatment, policy, h.1, h.2⟩
  else throw "exit cost basis requires positive unit cost and volume"

def ExitSizingMode.accepts : ExitSizingMode → Option Rat → Bool
  | .allRemaining, _ => true
  | .percentRemaining, some v => 0 < v && v ≤ 100
  | .fixedVolume, some v => 0 < pyInt v
  | _, none => false

structure ExitSizingPolicy where
  mode : ExitSizingMode := .allRemaining
  value : Option Rat := none
  lotSize : Int := 100
  allowOddLotFullExit : Bool := true
  lotSize_pos : 0 < lotSize := by decide
  value_ok : mode.accepts value = true := by rfl

def ExitSizingPolicy.calculate (sizing : ExitSizingPolicy) (remainingVolume : Int) : Int :=
  let remaining := max 0 remainingVolume
  if remaining ≤ 0 then 0
  else
    let requested := match sizing.mode with
      | .allRemaining => remaining
      | .percentRemaining => pyInt (remaining * sizing.value.getD 0 / 100)
      | .fixedVolume => min remaining (pyInt (sizing.value.getD 0))
    let requested := min remaining (max 0 requested)
    if requested ≥ remaining ∧ sizing.allowOddLotFullExit then remaining
    else requested / sizing.lotSize * sizing.lotSize

structure ExitRuleSpec where
  strategy : String
  parameters : Dict String PyVal := .empty
  priority : Int := 500
  sizing : ExitSizingPolicy := {}
  enabled : Bool := true
  once : Bool := false
  ruleId : String

structure ExitExecutionPolicy where
  priceReference : ExitPriceReference := .bid
  priceType : String := "LIMIT"
  protectedLimit : Bool := true
  maxSlippageBps : Rat := 30
  urgency : String := "PROTECTIVE_EXIT"
  executionMode : String := "AUTO"
  deriving DecidableEq

structure ExitPlanTemplate where
  (planId sourceType sourceId accountId instrumentCode bucket : String)
  rules : List ExitRuleSpec
  strategyId : String := ""
  runId : String := ""
  configVersion : Int := 1
  costs : TradingCostPolicy := {}
  t1Policy : ExitT1Policy := .waitUntilSellable
  execution : ExitExecutionPolicy := {}
  metadata : Dict String PyVal := .empty
  autoExitAuthorized : Bool := false
  identified : planId ≠ "" ∧ instrumentCode ≠ "" ∧ bucket ≠ ""
  rules_ne : rules ≠ []

/-! ## The plan -/

structure ExitPlan where
  template : ExitPlanTemplate
  status : ExitPlanStatus := .pendingEntry
  entryFilledVolume : Int := 0
  entryAvgPrice : Rat := 0
  exitedVolume : Int := 0
  exitAvgPrice : Rat := 0
  peakPrice : Rat := 0
  lastPrice : Rat := 0
  lastNetProfitPct : Rat := 0
  peakNetProfitPct : Rat := 0
  trailingFloorPct : Option Rat := none
  entryTradeDate : String := ""
  lastHoldingTradeDate : String := ""
  holdingTradingDays : Int := 0
  pendingIntentId : String := ""
  pendingOrderId : String := ""
  pendingRuleId : String := ""
  pendingRequestedVolume : Int := 0
  pendingFilledVolume : Int := 0
  pendingOrderTerminal : Bool := false
  pendingTerminalCumulativeFill : Option Int := none
  reconciledZeroFillIntentIds : List String := []
  ruleState : Dict String (Dict String PyVal) := .empty
  ruleTargetVolumes : Dict String Int := .empty
  ruleFilledVolumes : Dict String Int := .empty
  completedRuleIds : List String := []
  lastExitReason : String := ""
  lastEvaluatedAt : String := ""
  retryAfterMs : Int := 0
  errorMessage : String := ""

structure ExitEvaluationContext where
  timestamp : DateTime
  currentPrice : Rat
  bidPrice : Rat := 0
  askPrice : Rat := 0
  limitUp : Rat := 0
  limitDown : Rat := 0
  priceTick : Rat := 1 / 100
  cumulativeVolume : Option Rat := none
  cumulativeAmount : Option Rat := none
  depthImbalance5 : Option Rat := none
  marketDataAgeSeconds : Rat := 0
  volumeDataAgeSeconds : Rat := 0
  source : String := ""
  deriving DecidableEq

def ExitEvaluationContext.tradeDate (context : ExitEvaluationContext) : String := context.timestamp.isoDate
def ExitEvaluationContext.timestampMs (context : ExitEvaluationContext) : Int := context.timestamp.epochMs

structure ExitRuleMatch where
  triggered : Bool
  reason : String := ""
  metrics : Dict String PyVal := .empty

structure ExitDecision where
  (planId ruleId ruleType reason : String)
  (volume priority : Int)
  metrics : Dict String PyVal := .empty

structure RuleScratch where
  ruleState : Dict String (Dict String PyVal)
  trailingFloorPct : Option Rat

abbrev ExitRuleEvaluator :=
  ExitRuleSpec → ExitPlan → ExitEvaluationContext → RuleScratch × Except String ExitRuleMatch

abbrev ExitStrategyRegistry := String → Option ExitRuleEvaluator

structure ExitPlanCommand where
  command : ExitPlanCommandType
  planId : String
  template : Option ExitPlanTemplate := none
  reason : String := ""

inductive OrderReportStatus where
  | pending | reported | submitted | accepted | working | partialReport | partialFilled | filled
  | reconcileRequired | reconciledZeroFill | rejected | cancelled | expired
  | other (text : String)
  deriving DecidableEq, Repr

def OrderReportStatus.ofText : String → OrderReportStatus
  | "PENDING" => .pending
  | "REPORTED" => .reported
  | "SUBMITTED" => .submitted
  | "ACCEPTED" => .accepted
  | "WORKING" => .working
  | "PARTIAL" => .partialReport
  | "PARTIAL_FILLED" => .partialFilled
  | "FILLED" => .filled
  | "RECONCILE_REQUIRED" => .reconcileRequired
  | "RECONCILED_ZERO_FILL" => .reconciledZeroFill
  | "REJECTED" => .rejected
  | "CANCELLED" => .cancelled
  | "EXPIRED" => .expired
  | text => .other text

def OrderReportStatus.provesWork : OrderReportStatus → Bool
  | .pending | .reported | .submitted | .accepted | .working | .partialReport | .partialFilled | .filled
  | .reconcileRequired => true
  | _ => false

def OrderReportStatus.terminal : OrderReportStatus → Bool
  | .filled | .rejected | .cancelled | .expired => true
  | _ => false

/-- The arguments of one order report. `riskActionDelay` says that the risk action reads `DELAY`. -/
structure OrderEvent where
  (planId intentId : String)
  status : OrderReportStatus
  orderId : String := ""
  riskActionDelay : Bool := false
  timestampMs : Int := 0
  cumulativeFilledVolume : PyVal := .none

structure ExitFill where
  planId : String
  volume : Int
  price : Rat
  ruleId : String := ""
  intentId : String := ""
  deriving DecidableEq

end QuantX
