import QuantX.Trading.ExitPlan

/-! # Rules on prices, profits and times

The registry of rule evaluators, whose strategy names are in upper case, and the built-in sell rules but for the trailing
ones. `reading` goes on with a value that was read; one that cannot be read raises and leaves the state written so far. -/

namespace QuantX
open Lib

namespace ExitStrategyRegistry

def empty : ExitStrategyRegistry := fun _ => none

def register (registry : ExitStrategyRegistry) (strategy : String) (evaluator : ExitRuleEvaluator) : ExitStrategyRegistry :=
  fun name => if name = strategy.toUpper then some evaluator else registry name

end ExitStrategyRegistry

namespace ExitRuleSpec

def reason (rule : ExitRuleSpec) (default : String) : String :=
  ((rule.parameters.getD "reason" (.str default)).or (.str default)).text default

end ExitRuleSpec

def stateless (judge : ExitRuleSpec → ExitPlan → ExitEvaluationContext → Except String ExitRuleMatch) : ExitRuleEvaluator :=
  fun rule plan context => (⟨plan.ruleState, plan.trailingFloorPct⟩, judge rule plan context)

def manualTrigger : ExitRuleEvaluator := stateless fun rule _ _ => .ok {
  triggered := true, reason := rule.reason "manual_liquidation_confirmed"
  metrics := Dict.ofList [("trigger", .str "MANUAL_TRIGGER")] }

namespace ExitRules

def threshold (rule : ExitRuleSpec) (key : String) (default : Rat) : Except String Rat :=
  floatField rule.parameters.entries key default

/-- `int(rule.parameters.get(key, default) or default)`. -/
def intParameter (rule : ExitRuleSpec) (key : String) (default : Int) : Except String Int :=
  intOrField rule.parameters.entries key default

/-- `max(1, int(rule.parameters.get("min_holding_trading_days", 1) or 1))`. -/
def minHoldingDays (rule : ExitRuleSpec) : Except String Int := (intParameter rule "min_holding_trading_days" 1).map (max 1)

/-- `plan.rule_state.setdefault(rule.rule_id, {})`. -/
def ownState (rule : ExitRuleSpec) (plan : ExitPlan) : Dict String PyVal := plan.ruleState.getD rule.ruleId .empty

def keepState (rule : ExitRuleSpec) (plan : ExitPlan) (own : Dict String PyVal) : RuleScratch where
  ruleState := plan.ruleState.set rule.ruleId own
  trailingFloorPct := plan.trailingFloorPct

def reading {α : Type} (scratch : RuleScratch) (value : Except String α) (f : α → RuleScratch × Except String ExitRuleMatch) :
    RuleScratch × Except String ExitRuleMatch :=
  match value with
  | .error e => (scratch, .error e)
  | .ok a => f a

def grossProfitPct (plan : ExitPlan) (price : Rat) : Rat :=
  if 0 < plan.entryAvgPrice then (price / plan.entryAvgPrice - 1) * 100 else 0

def targetPrice : ExitRuleEvaluator := stateless fun rule _ context => do
  let target ← threshold rule "target_price" 0
  return {
    triggered := target ≤ context.currentPrice ∧ 0 < target, reason := rule.reason "TARGET_PRICE_REACHED"
    metrics := Dict.ofList [("target_price", .float target)] }

def stopPrice : ExitRuleEvaluator := stateless fun rule _ context => do
  let stop ← threshold rule "stop_price" 0
  return {
    triggered := 0 < stop ∧ context.currentPrice ≤ stop, reason := rule.reason "STOP_PRICE_REACHED"
    metrics := Dict.ofList [("stop_price", .float stop)] }

def grossTakeProfit : ExitRuleEvaluator := stateless fun rule plan context => do
  let target ← threshold rule "target_profit_pct" 0
  let gross := grossProfitPct plan context.currentPrice
  return {
    triggered := target ≤ gross, reason := rule.reason "GROSS_TAKE_PROFIT_REACHED"
    metrics := Dict.ofList [("gross_profit_pct", .float gross), ("target_profit_pct", .float target)] }

def netTakeProfit : ExitRuleEvaluator := stateless fun rule plan _ => do
  let target ← threshold rule "target_profit_pct" 0
  return {
    triggered := target ≤ plan.lastNetProfitPct, reason := rule.reason "NET_TAKE_PROFIT_REACHED"
    metrics := Dict.ofList [("target_profit_pct", .float target)] }

def trailingPriceDrawdown : ExitRuleEvaluator := stateless fun rule plan context => do
  let minHoldingDays ← minHoldingDays rule
  let armProfit ← threshold rule "arm_profit_pct" 0
  let drawdown ← threshold rule "drawdown_pct" 3
  let peakDrawdown := if 0 < plan.peakPrice then (plan.peakPrice - context.currentPrice) / plan.peakPrice * 100 else 0
  let peakGross := grossProfitPct plan plan.peakPrice
  return {
    triggered := minHoldingDays ≤ plan.holdingTradingDays ∧ armProfit ≤ peakGross ∧ drawdown ≤ peakDrawdown
    reason := rule.reason "TRAILING_PRICE_DRAWDOWN_REACHED"
    metrics := Dict.ofList [("gross_profit_pct", .float (grossProfitPct plan context.currentPrice)),
      ("peak_gross_profit_pct", .float peakGross), ("arm_profit_pct", .float armProfit),
      ("peak_drawdown_pct", .float peakDrawdown), ("drawdown_pct", .float drawdown),
      ("min_holding_trading_days", .int minHoldingDays)] }

def hardStop : ExitRuleEvaluator := stateless fun rule plan _ => do
  let stop ← threshold rule "stop_loss_pct" (-4 / 5)
  let minHoldingDays ← minHoldingDays rule
  return {
    triggered := minHoldingDays ≤ plan.holdingTradingDays ∧ plan.lastNetProfitPct ≤ stop
    reason := rule.reason "HARD_STOP"
    metrics := Dict.ofList [("stop_loss_pct", .float stop), ("min_holding_trading_days", .int minHoldingDays)] }

/-! ### Times

`fromisoformat` is `time.fromisoformat` of a value's text, in microseconds since midnight. -/

section Times
variable (fromisoformat : PyVal → Option Nat)

/-- `_parse_time`, with 14:50 for a text that is no time. -/
def parseTime (value : PyVal) : Nat := (fromisoformat (value.or (.str ""))).getD (53400 * 1000000)

/-- `isoformat(timespec="minutes")`. -/
def timeText (time : Nat) : String :=
  let minutes := time / 60000000
  let pad (n : Nat) : String := (if n < 10 then "0" else "") ++ toString n
  pad (minutes / 60) ++ ":" ++ pad (minutes % 60)

def exitTime (rule : ExitRuleSpec) : Nat := parseTime fromisoformat (rule.parameters.getD "exit_time" (.str "14:50"))

def timeOfDay : ExitRuleEvaluator := stateless fun rule _ context => return {
  triggered := exitTime fromisoformat rule ≤ context.timestamp.timeOfDay, reason := rule.reason "TIME_OF_DAY_REACHED"
  metrics := Dict.ofList [("exit_time", .str (timeText (exitTime fromisoformat rule)))] }

def maxHoldingDays : ExitRuleEvaluator := stateless fun rule plan context => do
  let days := max 1 (← intParameter rule "max_holding_trading_days" 1)
  return {
    triggered := days ≤ plan.holdingTradingDays ∧ exitTime fromisoformat rule ≤ context.timestamp.timeOfDay
    reason := rule.reason "MAX_HOLDING_DAYS_REACHED"
    metrics := Dict.ofList [("max_holding_trading_days", .int days),
      ("exit_time", .str (timeText (exitTime fromisoformat rule)))] }

end Times

def notePeakProfit (plan : ExitPlan) (context : ExitEvaluationContext) (own : Dict String PyVal) (observedPeak : Rat) :
    Dict String PyVal :=
  if observedPeak + 1 / 1000000000 < plan.peakNetProfitPct then
    own.update [("observed_peak_net_profit_pct", .float plan.peakNetProfitPct), ("peak_timestamp_ms", .int context.timestampMs),
      ("consecutive_matches", .int 0)]
  else own

def rapidProfitReversal : ExitRuleEvaluator := fun rule plan context =>
  let untouched : RuleScratch := ⟨plan.ruleState, plan.trailingFloorPct⟩
  reading untouched (threshold rule "arm_profit_pct" 4) fun armProfit =>
  reading untouched (intParameter rule "window_seconds" 15) fun windowSeconds =>
  reading untouched (threshold rule "drawdown_pct" (4 / 5)) fun drawdown =>
  reading untouched (intParameter rule "confirm_ticks" 2) fun confirmTicks =>
  let own := ownState rule plan
  let lowest : PyVal := .float (-1000000000)
  reading (keepState rule plan own) ((own.getD "observed_peak_net_profit_pct" lowest).or lowest).toFloat fun observedPeak =>
  let own := notePeakProfit plan context own observedPeak
  reading (keepState rule plan own) (intOrField own.entries "peak_timestamp_ms" 0) fun peakTimestamp =>
  let peakAge := max 0 (context.timestampMs - peakTimestamp)
  let profitDrawdown := max 0 (plan.peakNetProfitPct - plan.lastNetProfitPct)
  let qualified : Bool := 0 < context.bidPrice ∧ armProfit ≤ plan.peakNetProfitPct ∧ 0 < peakTimestamp ∧
    peakAge ≤ max 1 windowSeconds * 1000 ∧ drawdown ≤ profitDrawdown
  reading (keepState rule plan own) (if qualified then intOrField own.entries "consecutive_matches" 0 else .ok (-1)) fun matches' =>
  let consecutive := matches' + 1
  (keepState rule plan (own.set "consecutive_matches" (.int consecutive)), .ok {
    triggered := qualified && decide (max 1 confirmTicks ≤ consecutive), reason := rule.reason "RAPID_PROFIT_REVERSAL"
    metrics := Dict.ofList [("arm_profit_pct", .float armProfit), ("window_seconds", .int (max 1 windowSeconds)),
      ("drawdown_pct", .float drawdown), ("confirm_ticks", .int (max 1 confirmTicks)),
      ("consecutive_matches", .int consecutive), ("peak_age_ms", .int peakAge),
      ("profit_drawdown_pct", .float profitDrawdown), ("executable_bid", .float context.bidPrice)] })

/-! ### Price limits -/

/-- `max(float(context.price_tick or 0.01), 1e-8)`. -/
def priceTick (context : ExitEvaluationContext) : Rat := max (PyVal.orNumber context.priceTick (1 / 100)) (1 / 100000000)

def limitUpTouch : ExitRuleEvaluator := stateless fun rule plan context => do
  let limitUp := context.limitUp
  let toleranceTicks := max 0 (← intParameter rule "tolerance_ticks" 0)
  let minHoldingDays ← minHoldingDays rule
  let triggerPrice := limitUp - toleranceTicks * priceTick context
  return {
    triggered := 0 < limitUp ∧ minHoldingDays ≤ plan.holdingTradingDays ∧ 0 < context.bidPrice ∧
      triggerPrice - 1 / 100000000 ≤ context.bidPrice
    reason := rule.reason "LIMIT_UP_TOUCH"
    metrics := Dict.ofList [("limit_up", .float limitUp), ("price_tick", .float (priceTick context)),
      ("tolerance_ticks", .int toleranceTicks), ("trigger_price", .float triggerPrice),
      ("executable_bid", .float context.bidPrice), ("min_holding_trading_days", .int minHoldingDays)] }

structure SealTerms where
  (toleranceTicks breakTicks : Int)
  minSealSeconds : Rat
  minHoldingDays : Int
  deriving DecidableEq

def SealTerms.read (rule : ExitRuleSpec) : Except String SealTerms := do
  return {
    toleranceTicks := max 0 (← intParameter rule "seal_tolerance_ticks" 0)
    breakTicks := max 1 (← intParameter rule "break_ticks" 1)
    minSealSeconds := max 0 (← threshold rule "min_seal_seconds" 0), minHoldingDays := ← ExitRules.minHoldingDays rule }

def SealTerms.sealFloor (terms : SealTerms) (context : ExitEvaluationContext) : Rat :=
  context.limitUp - terms.toleranceTicks * priceTick context

def SealTerms.breakPrice (terms : SealTerms) (context : ExitEvaluationContext) : Rat :=
  context.limitUp - terms.breakTicks * priceTick context

def SealTerms.atLimit (terms : SealTerms) (context : ExitEvaluationContext) : Bool :=
  0 < context.limitUp ∧ terms.sealFloor context - 1 / 100000000 ≤ context.currentPrice

/-- `int(min_seal_seconds * 1000)`. -/
def SealTerms.minSealMs (terms : SealTerms) : Int := pyInt (terms.minSealSeconds * 1000)

def isTradeDate (tradeDate : String) : Option PyVal → Bool
  | some (.str date) => date = tradeDate
  | _ => false

def openSealDay (tradeDate : String) (own : Dict String PyVal) : Dict String PyVal :=
  if isTradeDate tradeDate (own.get? "trade_date") then own
  else Dict.ofList [("trade_date", .str tradeDate), ("touch_started_at_ms", .int 0), ("armed", .bool false)]

/-- What an observation does to the seal. A seal that opens unarmed starts anew; once armed, it stays so for the date.
    -/
def watchSeal (terms : SealTerms) (context : ExitEvaluationContext) (touchStarted : Int) (own : Dict String PyVal) :
    Dict String PyVal :=
  if terms.atLimit context then
    let started := if touchStarted ≤ 0 then context.timestampMs else touchStarted
    let own := if touchStarted ≤ 0 then own.set "touch_started_at_ms" (.int started) else own
    if terms.minSealMs ≤ context.timestampMs - started then own.set "armed" (.bool true) else own
  else if (own.getD "armed" .none).truthy then own
  else own.set "touch_started_at_ms" (.int 0)

def limitUpBreak : ExitRuleEvaluator := fun rule plan context =>
  let own := openSealDay context.tradeDate (ownState rule plan)
  reading (keepState rule plan own) (SealTerms.read rule) fun terms =>
  reading (keepState rule plan own) (if terms.atLimit context then intOrField own.entries "touch_started_at_ms" 0 else .ok 0)
    fun touchStarted =>
  let own := watchSeal terms context touchStarted own
  let armed := (own.getD "armed" .none).truthy
  (keepState rule plan own, .ok {
    triggered := 0 < context.limitUp ∧ terms.minHoldingDays ≤ plan.holdingTradingDays ∧ armed ∧
      context.currentPrice ≤ terms.breakPrice context + 1 / 100000000
    reason := rule.reason "LIMIT_UP_BREAK"
    metrics := Dict.ofList [("limit_up", .float context.limitUp), ("price_tick", .float (priceTick context)),
      ("seal_floor", .float (terms.sealFloor context)), ("break_price", .float (terms.breakPrice context)),
      ("seal_armed", .bool armed), ("min_seal_seconds", .float terms.minSealSeconds),
      ("min_holding_trading_days", .int terms.minHoldingDays)] })

end ExitRules

end QuantX
