import QuantX.Trading.MarketRules
import QuantX.Trading.ContextRisk

/-! # The order risk checker

`TradingRiskChecker.evaluate_order`: the caps of the run, the rules of the market, the buying power of a purchase and the
capacity of a sale, in this order. -/

namespace QuantX
open Lib

def substitutionSources : List Bucket := [.swing, .core, .lockedCore]

def substitutionLegs (capacity : Bucket → Int) : List Bucket → Int → List (Bucket × Int) × Int
  | [], remaining => ([], remaining)
  | source :: sources, remaining =>
    if capacity source ≤ 0 ∨ remaining ≤ 0 then substitutionLegs capacity sources remaining
    else
      let volume := min remaining (capacity source)
      let (legs, remaining) := substitutionLegs capacity sources (remaining - volume)
      ((source, volume) :: legs, remaining)

def substitutionPlanFields (requested : Int) (legs : List (Bucket × Int)) : List (String × PyVal) :=
  [("enabled", .bool true), ("requested_bucket", .str "swing"),
    ("sell_from_buckets", .list (legs.map fun leg => .dict [("bucket", .str leg.1.name), ("volume", .int leg.2)])),
    ("reattribute_buy_to_bucket", .str "core"), ("volume", .int requested),
    ("reason", .str "swing_t0_sell_with_core_inventory")]

def checkT1Substitution (capacity : Bucket → Int) (requested : Int) : Option (List (String × PyVal)) :=
  let (legs, remaining) := substitutionLegs capacity substitutionSources requested
  if remaining ≤ 0 ∧ legs.any (fun leg => leg.1 ≠ .swing) then some (substitutionPlanFields requested legs) else none

inductive RiskAction where
  | allow
  | cap
  | delay
  | reject
  | killSwitch
  deriving DecidableEq, Repr

structure OrderRiskDecision where
  action : RiskAction
  allowed : Bool
  (originalVolume finalVolume : Int)
  (originalAmount finalAmount : Rat)
  reasonCode : String := "OK"
  reasonDetail : String := ""
  riskTags : List PyVal := []
  metadata : Fields := []
  substitutionPlan : Option Fields := none

namespace OrderRiskDecision
variable (request : OrderRequest)

def allow : OrderRiskDecision where
  action := .allow
  allowed := true
  originalVolume := request.volume
  finalVolume := request.volume
  originalAmount := request.price * request.volume
  finalAmount := request.price * request.volume

def reject (reasonCode reasonDetail : String) (riskTags : List PyVal) (metadata : Fields) (action : RiskAction := .reject) :
    OrderRiskDecision where
  action := action
  allowed := false
  originalVolume := request.volume
  finalVolume := 0
  originalAmount := request.price * request.volume
  finalAmount := 0
  reasonCode := upperText reasonCode
  reasonDetail := reasonDetail
  riskTags := riskTags
  metadata := metadata

def delay (reasonCode reasonDetail : String) (riskTags : List PyVal) (metadata : Fields) : OrderRiskDecision :=
  reject request reasonCode reasonDetail riskTags metadata .delay

def cap (finalVolume : Int) (reasonCode reasonDetail : String) (riskTags : List PyVal) (metadata : Fields) :
    OrderRiskDecision where
  action := .cap
  allowed := true
  originalVolume := request.volume
  finalVolume := finalVolume
  originalAmount := request.price * request.volume
  finalAmount := request.price * finalVolume
  reasonCode := upperText reasonCode
  reasonDetail := reasonDetail
  riskTags := riskTags
  metadata := metadata

end OrderRiskDecision

/-- The format `.2f`. -/
def cents (value : Rat) : String :=
  let hundredths := roundHalfEven (|value| * 100)
  let rest := hundredths % 100
  (if value < 0 then "-" else "") ++ toString (hundredths / 100) ++ "." ++ (if rest < 10 then "0" else "") ++ toString rest

/-- The checker's settings. `isTradingHours` is the trading calendar, `repr` the text of a float, `strOf` that of a
    float or a container. -/
structure TradingRiskChecker where
  commissionRate : Rat := 3 / 10000
  minCommission : Rat := 5
  strictMarketData : Bool := false
  strictLimitData : Bool := false
  enforceTradingHours : Bool := false
  isTradingHours : String → Bool
  repr : Rat → String
  strOf : PyVal → String

structure OrderContext where
  (account position : Fields)
  marketData : Option MarketDataSnapshot
  currentTime : Option String := none
  riskCaps : Fields := []

namespace TradingRiskChecker
variable (checker : TradingRiskChecker) (request : OrderRequest) (context : OrderContext)

/-- `str(metadata.get("bucket", "") or "").lower()`. -/
def requestBucket : String := lowerText (valueText checker.strOf ((PyVal.get request.metadata "bucket").or (.str "")))

/-- `list(caps.get("risk_tags", []))`. -/
def capTags : Except String (List PyVal) := iterItems (getOr "risk_tags" (.list []) [context.riskCaps])

def isFalse : PyVal → Bool
  | .bool false => true
  | _ => false

def checkBuyCaps (riskTags : List PyVal) : Option OrderRiskDecision :=
  let caps := context.riskCaps
  let bucket := checker.requestBucket request
  let details : Fields := [("bucket", .str bucket), ("risk_mode", PyVal.get caps "risk_mode")]
  if isFalse (PyVal.get caps "allow_buy") then some (.reject request "RISK_CONTEXT_CAP" "前置风控禁止新增买入" riskTags [])
  else if (PyVal.get caps "only_reduce_position").truthy then
    some (.reject request "only_reduce_position" "前置风控只允许降低仓位" riskTags [])
  else if bucket = "swing" ∧ isFalse (PyVal.get caps "allow_intraday_swing_buy") then
    some (.delay request "RISK_CONTEXT_CAP" "当前风险环境禁止 swing 买入" riskTags details)
  else if bucket = "core" ∧ upperText (valueText checker.strOf (getOr "risk_mode" (.str "") [caps])) = "PANIC" ∧
      (PyVal.get caps "delay_core_buy_in_panic").truthy then
    some (.delay request "RISK_CONTEXT_CAP" "PANIC 环境延迟 core 买入" riskTags details)
  else none

def checkSideCaps (riskTags : List PyVal) : Option OrderRiskDecision :=
  match request.orderType with
  | .buy => checker.checkBuyCaps request context riskTags
  | .sell =>
    if isFalse (PyVal.get context.riskCaps "allow_sell") then
      some (.reject request "RISK_CONTEXT_CAP" "前置风控禁止卖出" riskTags [])
    else none
  | _ => none

/-- `_check_context_caps`: a decision where a cap stops the order. Tags that cannot be read raise only there. -/
def checkContextCaps : Except String (Option OrderRiskDecision) := do
  let caps := context.riskCaps
  if (PyVal.get caps "kill_switch_active").truthy then
    let riskTags ← capTags context
    let reasonCodes ← iterItems (getOr "reason_codes" (.list []) [caps])
    return some (.reject request "KILL_SWITCH_TRIGGERED" "实例级熔断已开启，拒绝下单" riskTags
      [("reason_codes", .list reasonCodes)] .killSwitch)
  else if ((PyVal.get caps "max_single_order_amount").optionalFloat.any fun limit => limit < request.price * request.volume) then
    let riskTags ← capTags context
    return some (.delay request "LOW_LIQUIDITY" "订单金额超过当前流动性风控上限，延迟执行" riskTags
      [("max_single_order_amount", numberOrNone (PyVal.get caps "max_single_order_amount").optionalFloat)])
  else if (checker.checkSideCaps request context []).isSome then
    return checker.checkSideCaps request context (← capTags context)
  else return none

/-- `float(account.get("available_cash", account.get("cash", 0.0)) or 0.0)`. -/
def availableCash (account : Fields) : Except String Rat :=
  ((getOr "available_cash" (getOr "cash" (.float 0) [account]) [account]).or (.float 0)).toFloat

def checkBuyingPowerDecision : Except String OrderRiskDecision := do
  let amount := request.price * request.volume
  let required := amount + AShareMarketRules.estimateCommission amount checker.commissionRate checker.minCommission
  let availableCash ← availableCash context.account
  if availableCash < required then
    return .reject request "insufficient_cash" ("可用资金不足: 需要 " ++ cents required ++ ", 可用 " ++ cents availableCash) []
      [("required_cash", .float required), ("available_cash", .float availableCash)]
  else return .allow request

def minVolume : Option Int :=
  (context.marketData.bind fun market =>
    if request.orderType = .sell then market.minLimitSellOrderVolume else market.minLimitOrderVolume).filter (0 < ·)

def maxVolume : Option Int :=
  (context.marketData.bind fun market =>
    if request.orderType = .sell then market.maxLimitSellOrderVolume else market.maxLimitOrderVolume).filter (0 < ·)

def positionRoom (totalAsset : Rat) : Except String (List (String × Rat)) :=
  match (PyVal.get context.riskCaps "max_position_pct").optionalFloat with
  | some pct =>
    if 0 < totalAsset then do
      let price := ((context.marketData.map (·.price)).filter (0 < ·)).getD request.price
      let currentVolume ← longVolume context.position
      let marketValue := (PyVal.get context.position "market_value").optionalFloat.getD (currentVolume * price)
      return [("MAX_POSITION_PCT", max 0 (totalAsset * pct - marketValue))]
    else return []
  | none => return []

def capAmounts : Except String (List (String × Rat)) := do
  let caps := context.riskCaps
  let account := context.account
  let availableCash ← availableCash account
  let totalAsset ← ((((PyVal.get account "total_asset").or (PyVal.get account "cash_total")).or (.float availableCash)).or
    (.float 0)).toFloat
  let newBuy := match (PyVal.get caps "max_new_buy_amount_today").optionalFloat with
    | some limit => [("MAX_NEW_BUY_AMOUNT_TODAY", limit)]
    | none => []
  let cashBuffer := match (PyVal.get caps "min_cash_buffer_pct").optionalFloat with
    | some pct => if 0 < totalAsset then [("MIN_CASH_BUFFER", max 0 (availableCash - totalAsset * pct))] else []
    | none => []
  return newBuy ++ cashBuffer ++ (← positionRoom request context totalAsset)

/-- `min(items, key=...)`: the first of the smallest. -/
def smallest : String × Rat → List (String × Rat) → String × Rat
  | best, [] => best
  | best, item :: items => smallest (if item.2 < best.2 then item else best) items

def publicCapReasonCode (reasonCode : String) : String :=
  if reasonCode = "MAX_POSITION_PCT" then "POSITION_LIMIT_CAP"
  else if reasonCode = "MAX_NEW_BUY_AMOUNT_TODAY" ∨ reasonCode = "MIN_CASH_BUFFER" then "RISK_CONTEXT_CAP"
  else reasonCode

def cappedVolume (maxAmount : Rat) : Int :=
  let capped := AShareMarketRules.normalizeBuyVolume (maxAmount / request.price).floor
  if (minVolume request context).any (capped < ·) then 0 else capped

def capBuyByContext : Except String (Option OrderRiskDecision) := do
  if request.orderType ≠ .buy ∨ request.price ≤ 0 then return none
  match ← capAmounts request context with
  | [] => return none
  | first :: rest =>
    let (reasonCode, maxAmount) := smallest first rest
    if request.price * request.volume ≤ maxAmount then return none
    let riskTags ← capTags context
    let capped := cappedVolume request context maxAmount
    if capped ≤ 0 then
      return some (.reject request (publicCapReasonCode reasonCode) "前置风控额度不足以形成合法买入订单" riskTags
        [("cap_source", .str reasonCode)])
    else
      return some (.cap request capped (publicCapReasonCode reasonCode) "订单数量被前置风控上限压低" riskTags
        [("cap_source", .str reasonCode)])

def usesBucketT1Model : Bool :=
  (PyVal.get request.metadata "bucket").truthy ||
    ["swing_available", "swing_available_volume", "core_available", "core_available_volume", "locked_core_available",
      "locked_core_available_volume"].any fun key => (Dict.lookup key context.position).isSome

structure SellCapacity where
  (swingAvailable coreAvailable lockedCoreAvailable totalSubstitutable : Int)

def SellCapacity.of (capacity : SellCapacity) : Bucket → Int
  | .swing => capacity.swingAvailable
  | .core => capacity.coreAvailable
  | .lockedCore => capacity.lockedCoreAvailable

def bucketSellCapacity : Except String SellCapacity := do
  let position := context.position
  let read (bucket : String) : Option Int :=
    (getOr (bucket ++ "_available_volume") (PyVal.get position (bucket ++ "_available")) [position]).optionalInt
  let available ← intField position "available_volume"
  let swingAvailable ← match read "swing" with
    | some volume => pure volume
    | none =>
      (((getOr "swing_volume" (getOr "swing_total_volume" (.int 0) [position]) [position]).or (.int 0)).toInt).map
        (min available)
  let coreAvailable ← match read "core" with
    | some volume => pure volume
    | none => intField position "core_available_volume"
  let lockedCoreAvailable ← match read "locked_core" with
    | some volume => pure volume
    | none => intField position "locked_core_available_volume"
  -- A position without bucket volumes is all core.
  let coreAvailable :=
    if coreAvailable ≤ 0 ∧ swingAvailable ≤ 0 ∧ lockedCoreAvailable ≤ 0 ∧ 0 < available then available else coreAvailable
  let lockedCoreAvailable :=
    if boolField context.riskCaps "allow_locked_core_substitution" false then lockedCoreAvailable else 0
  return {
    swingAvailable := max 0 swingAvailable, coreAvailable := max 0 coreAvailable
    lockedCoreAvailable := max 0 lockedCoreAvailable
    totalSubstitutable := max 0 swingAvailable + max 0 coreAvailable + max 0 lockedCoreAvailable }

def allowedCapacity (capacity : SellCapacity) : SellCapacity :=
  if boolField request.metadata "allow_t1_substitution" true then capacity
  else { capacity with coreAvailable := 0, lockedCoreAvailable := 0, totalSubstitutable := capacity.swingAvailable }

def availableVolumeForOrderCheck : Except String Int := do
  let available ← intField context.position "available_volume"
  if request.orderType ≠ .sell ∨ !usesBucketT1Model request context then return available
  let capacity := allowedCapacity request (← bucketSellCapacity context)
  let totalCapacity := max available capacity.totalSubstitutable
  let totalVolume ← longVolume context.position
  let totalCapacity := if 0 < totalVolume then min (max totalCapacity request.volume) totalVolume else totalCapacity
  return max available totalCapacity

def insufficientDecision (missing : Int) : Except String OrderRiskDecision := do
  let metadata : Fields := [("requested_volume", .int request.volume), ("substitutable_volume", .int (request.volume - missing)),
    ("missing_volume", .int missing),
    ("allow_locked_core_substitution", .bool (boolField context.riskCaps "allow_locked_core_substitution" false))]
  let action := upperText (valueText checker.strOf
    (getOr "t1_insufficient_action" (.str "DELAY") [request.metadata, context.riskCaps]))
  let riskTags ← capTags context
  if action = "REJECT" then return .reject request "T1_UNAVAILABLE" "T+1 可卖量不足，且实例配置为拒绝" riskTags metadata
  else return .delay request "T1_UNAVAILABLE" "T+1 可卖量不足，延迟等待可卖库存或撤单回报" riskTags metadata

/-- `_check_t1_substitution`. Without a decision the plain check of the position follows. -/
def checkT1SubstitutionDecision : Except String (Option OrderRiskDecision) := do
  if request.orderType ≠ .sell ∨ !usesBucketT1Model request context then return none
  let totalVolume ← longVolume context.position
  if totalVolume ≠ 0 ∧ totalVolume < request.volume then
    return some (.reject request "INSUFFICIENT_POSITION"
      ("总持仓不足: " ++ toString totalVolume ++ " < " ++ toString request.volume) [] [])
  if checker.requestBucket request ≠ "swing" then return none
  let capacity := allowedCapacity request (← bucketSellCapacity context)
  let (_, missing) := substitutionLegs capacity.of substitutionSources request.volume
  if 0 < missing then return some (← checker.insufficientDecision request context missing)
  match checkT1Substitution capacity.of request.volume with
  | none => return some (.allow request)
  | some plan =>
    return some { OrderRiskDecision.allow request with
      reasonCode := "T1_SUBSTITUTION_APPLIED", reasonDetail := "使用同标的老仓执行 T+1 库存置换"
      riskTags := (← capTags context) ++ [.str "t1_substitution"], metadata := [("substitution_plan", .dict plan)]
      substitutionPlan := some plan }

def checkSellCapacityDecision : Except String OrderRiskDecision := do
  if let some decision ← checker.checkT1SubstitutionDecision request context then return decision
  let available ← intField context.position "available_volume"
  if available < request.volume then
    return .reject request "insufficient_position"
      ("可用持仓不足: " ++ toString available ++ " < " ++ toString request.volume) [] []
  else return .allow request

def firstFailure : List OrderCheckResult → Option OrderRiskDecision
  | [] => none
  | .passed :: rest => firstFailure rest
  | .failed code message metadata :: _ => some (.reject request code message [] metadata)

def ruleChecks (availableVolume : Int) : List OrderCheckResult :=
  [AShareMarketRules.checkTradingStatus context.marketData checker.strictMarketData,
    AShareMarketRules.checkPrice checker.repr request context.marketData checker.strictLimitData,
    AShareMarketRules.checkLimitBlock request context.marketData,
    AShareMarketRules.checkVolume request availableVolume (minVolume request context) (maxVolume request context)]

def outsideTradingHours : Bool :=
  checker.enforceTradingHours &&
    (context.currentTime.or (context.marketData.bind (·.timestamp))).any fun time => !checker.isTradingHours time

def ruleVolume : Except String Int :=
  if request.orderType = .sell then availableVolumeForOrderCheck request context else intField context.position "available_volume"

def decideSide : Except String OrderRiskDecision :=
  match request.orderType with
  | .buy => do
    let decision ← checker.checkBuyingPowerDecision request context
    if !decision.allowed then return decision
    return (← capBuyByContext request context).getD decision
  | .sell => checker.checkSellCapacityDecision request context
  | _ => return .reject request "unsupported_order_type" "仅支持普通股票多头买卖" [] []

def evaluateOrder : Except String OrderRiskDecision := do
  if let some decision ← checker.checkContextCaps request context then return decision
  let availableVolume ← ruleVolume request context
  if let some decision := firstFailure request (checker.ruleChecks request context availableVolume) then return decision
  if checker.outsideTradingHours context then
    return .reject request "outside_trading_hours" "当前不在交易时间" [] []
  checker.decideSide request context

end TradingRiskChecker

end QuantX
