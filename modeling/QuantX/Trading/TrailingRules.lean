import QuantX.Trading.PriceRules

/-! # Trailing rules

The plain rule sells at the floor; the adaptive one follows the price through a rolling window of observations.
`builtins` is the registry of all rules. -/

namespace QuantX
open Lib

structure TrailingProfitPolicy where
  targetProfitPct : Rat := 2
  baseFloorPct : Rat := 1 / 2
  initialGapPct : Rat := 3 / 2
  gapSlope : Rat := 1 / 4
  maxGapPct : Rat := 3
  highProfitArmPct : Option Rat := none
  highProfitMaxDrawdownPct : Option Rat := none

def TrailingProfitPolicy.candidate (policy : TrailingProfitPolicy) (peak : Rat) : Rat :=
  let gap := policy.initialGapPct + policy.gapSlope * (peak - policy.targetProfitPct)
  let gap := max policy.initialGapPct (min policy.maxGapPct gap)
  let candidate := max policy.baseFloorPct (peak - gap)
  match policy.highProfitArmPct, policy.highProfitMaxDrawdownPct with
  | some arm, some drawdown => if arm ≤ peak then max candidate (peak - drawdown) else candidate
  | _, _ => candidate

def calculateTrailingFloorPct (peak : Rat) (previousFloor : Option Rat) (policy : TrailingProfitPolicy) : Option Rat :=
  if peak < policy.targetProfitPct then previousFloor
  else
    match previousFloor with
    | none => some (policy.candidate peak)
    | some previous => some (max previous (policy.candidate peak))

namespace ExitRules

/-- `_optional_float(state.get("trailing_floor_pct"))`. -/
def floorOf (own : Dict String PyVal) : Option Rat := (own.getD "trailing_floor_pct" .none).optionalFloat

def greatestFloor (ruleState : Dict String (Dict String PyVal)) : Option Rat := (ruleState.values.filterMap floorOf).max?

def keepFloor (rule : ExitRuleSpec) (plan : ExitPlan) (own : Dict String PyVal) (trailingFloor : Option Rat) : RuleScratch :=
  let ruleState := plan.ruleState.set rule.ruleId (own.set "trailing_floor_pct" (numberOrNone trailingFloor))
  { ruleState, trailingFloorPct := greatestFloor ruleState }

def highProfitLockEnabled (rule : ExitRuleSpec) : Bool := (rule.parameters.getD "high_profit_lock_enabled" (.bool false)).truthy

def trailingPolicy (rule : ExitRuleSpec) : Except String TrailingProfitPolicy := do
  return {
    targetProfitPct := ← threshold rule "target_profit_pct" 2, baseFloorPct := ← threshold rule "base_floor_pct" (1 / 2)
    initialGapPct := ← threshold rule "initial_gap_pct" (3 / 2), gapSlope := ← threshold rule "gap_slope" (1 / 4)
    maxGapPct := ← threshold rule "max_gap_pct" 3
    highProfitArmPct := ← if highProfitLockEnabled rule then (threshold rule "high_profit_arm_pct" 4).map some else .ok none
    highProfitMaxDrawdownPct := ←
      if highProfitLockEnabled rule then (threshold rule "high_profit_max_drawdown_pct" (6 / 5)).map some else .ok none }

def trailingNetProfit : ExitRuleEvaluator := fun rule plan _ =>
  reading ⟨plan.ruleState, plan.trailingFloorPct⟩ (trailingPolicy rule) fun policy =>
  let own := ownState rule plan
  let trailingFloor := calculateTrailingFloorPct plan.peakNetProfitPct (floorOf own) policy
  (keepFloor rule plan own trailingFloor, .ok {
    triggered := trailingFloor.any (plan.lastNetProfitPct ≤ ·), reason := rule.reason "TRAILING_FLOOR_REACHED"
    metrics := Dict.ofList [("target_profit_pct", .float policy.targetProfitPct),
      ("trailing_floor_pct", numberOrNone trailingFloor),
      ("high_profit_lock_enabled", .bool (highProfitLockEnabled rule)),
      ("high_profit_arm_pct", numberOrNone policy.highProfitArmPct),
      ("high_profit_max_drawdown_pct", numberOrNone policy.highProfitMaxDrawdownPct)] })

structure Sample where
  timestampMs : Int
  (price volume : Option Rat)

def Sample.toValue (sample : Sample) : PyVal :=
  .dict [("timestamp_ms", .int sample.timestampMs), ("price", numberOrNone sample.price), ("volume", numberOrNone sample.volume)]

def Sample.ofValue : PyVal → Except String (Option Sample)
  | .dict fields => do
    return some {
      timestampMs := ← ((Dict.lookup "timestamp_ms" fields).getD (.int 0)).toInt
      price := (PyVal.get fields "price").optionalFloat, volume := (PyVal.get fields "volume").optionalFloat }
  | _ => .ok none

def samplesOf (own : Dict String PyVal) : Except String (List Sample) := do
  let items ← match own.getD "samples" .none with
    | .dict _ | .str _ => .ok []
    | value => listOrEmpty value
  return (← items.mapM Sample.ofValue).filterMap id

/-- `_sample_at_or_before`: the last of the leading observations that are not after a time. -/
def sampleAtOrBefore (samples : List Sample) (target : Int) : Option Sample :=
  (samples.takeWhile fun sample => sample.timestampMs ≤ target).getLast?

def windowReturnPct (samples : List Sample) (timestampMs seconds : Int) : Option Rat := do
  let latest ← samples.getLast?
  let baseline ← sampleAtOrBefore samples (timestampMs - max 1 seconds * 1000)
  let latestPrice ← latest.price
  let baselinePrice ← baseline.price
  if baselinePrice ≤ 0 ∨ timestampMs - baseline.timestampMs < seconds * 800 then none
  else return (latestPrice / baselinePrice - 1) * 100

def volumeVelocity (samples : List Sample) (timestampMs : Int) : Option Rat := do
  let current ← samples.getLast?
  let recentStart ← sampleAtOrBefore samples (timestampMs - 60000)
  let baselineStart ← sampleAtOrBefore samples (timestampMs - 360000)
  let currentVolume ← current.volume
  let recentVolume ← recentStart.volume
  let baselineVolume ← baselineStart.volume
  let baselineSeconds : Rat := (recentStart.timestampMs - baselineStart.timestampMs : Int) / 1000
  if baselineSeconds < 240 then none
  else
    let baselinePer60 := max 0 (recentVolume - baselineVolume) / baselineSeconds * 60
    if baselinePer60 ≤ 0 then none else return max 0 (currentVolume - recentVolume) / baselinePer60

/-! ## The adaptive rule -/

/-- `float(context.bid_price or context.current_price or 0.0)`. -/
def executablePrice (context : ExitEvaluationContext) : Rat := PyVal.orNumber context.bidPrice context.currentPrice

def openWindowDay (tradeDate : String) (own : Dict String PyVal) : Dict String PyVal :=
  if isTradeDate tradeDate (own.get? "sample_trade_date") then own
  else own.update [("samples", .list []), ("sample_trade_date", .str tradeDate), ("consecutive_weak", .int 0)]

def isNewObservation (samples : List Sample) (timestampMs : Int) : Bool :=
  samples.getLast?.all fun sample => sample.timestampMs < timestampMs

def volumeReset (samples : List Sample) (volume : Option Rat) : Bool :=
  ((samples.getLast?.bind (·.volume)).any fun last => volume.any (· < last))

def pushSample (samples : List Sample) (context : ExitEvaluationContext) : List Sample :=
  let samples := if volumeReset samples context.cumulativeVolume then [] else samples
  let sample : Sample := ⟨context.timestampMs, some (executablePrice context), context.cumulativeVolume⟩
  (samples ++ [sample]).filter fun item => context.timestampMs - 420000 ≤ item.timestampMs

def keepWindow (context : ExitEvaluationContext) (samples : List Sample) (own : Dict String PyVal) : Dict String PyVal :=
  own.update [("samples", .list (samples.map Sample.toValue)), ("last_observation_timestamp_ms", .int context.timestampMs)]

def notePeakPrice (context : ExitEvaluationContext) (previousPeak : Rat) (own : Dict String PyVal) : Dict String PyVal :=
  if previousPeak + 1 / 1000000000 < executablePrice context then
    own.update [("observed_peak_price", .float (executablePrice context)), ("peak_timestamp_ms", .int context.timestampMs)]
  else own

def armTarget (rule : ExitRuleSpec) : Option Rat × Option Rat :=
  let profit := (rule.parameters.getD "arm_target_profit_pct" .none).optionalFloat
  let price := (rule.parameters.getD "arm_target_price" .none).optionalFloat
  (if profit.isNone ∧ price.isNone then some 2 else profit, price)

def executableProfitPct (plan : ExitPlan) (context : ExitEvaluationContext) : Rat :=
  if 0 < executablePrice context then grossProfitPct plan (executablePrice context) else 0

def reachesArm (rule : ExitRuleSpec) (plan : ExitPlan) (context : ExitEvaluationContext) : Bool :=
  (armTarget rule).1.any (· ≤ executableProfitPct plan context) ||
    (armTarget rule).2.any fun price => price ≤ executablePrice context ∧ 0 < price

def isArmed (own : Dict String PyVal) : Bool := (own.getD "armed" (.bool false)).truthy

def noteArmed (rule : ExitRuleSpec) (plan : ExitPlan) (context : ExitEvaluationContext) (own : Dict String PyVal) :
    Dict String PyVal :=
  if isArmed own then own
  else if reachesArm rule plan context then
    own.update [("armed", .bool true), ("armed_at_ms", .int context.timestampMs), ("armed_price", .float (executablePrice context))]
  else own

def priceAvailable (context : ExitEvaluationContext) : Bool := 0 < executablePrice context ∧ context.marketDataAgeSeconds ≤ 5

structure WindowView where
  peakDrawdownPct : Rat
  (return15sPct return60sPct volumeVelocity : Option Rat)
  peakAgeSeconds : Rat
  full : Bool

def windowView (context : ExitEvaluationContext) (samples : List Sample) (previousPeak : Rat) (peakTimestamp : Int) : WindowView :=
  let price := executablePrice context
  let observedPeak := max previousPeak price
  let velocity := volumeVelocity samples context.timestampMs
  let volumeAvailable := context.cumulativeVolume.isSome ∧ context.volumeDataAgeSeconds ≤ 5
  { peakDrawdownPct := if 0 < observedPeak ∧ 0 < price then (observedPeak - price) / observedPeak * 100 else 0
    return15sPct := windowReturnPct samples context.timestampMs 15
    return60sPct := windowReturnPct samples context.timestampMs 60, volumeVelocity := velocity
    peakAgeSeconds := max 0 ((context.timestampMs - peakTimestamp : Int) / 1000)
    full := priceAvailable context && decide volumeAvailable && velocity.isSome }

def dataQuality (context : ExitEvaluationContext) (view : WindowView) : String :=
  if !priceAvailable context then "PRICE_UNAVAILABLE" else if view.full then "FULL" else "PRICE_ONLY_DEGRADED"

def keepView (context : ExitEvaluationContext) (view : WindowView) (own : Dict String PyVal) : Dict String PyVal :=
  own.update [("data_quality", .str (dataQuality context view)), ("peak_drawdown_pct", .float view.peakDrawdownPct),
    ("return_15s_pct", numberOrNone view.return15sPct), ("return_60s_pct", numberOrNone view.return60sPct),
    ("volume_velocity", numberOrNone view.volumeVelocity), ("peak_age_seconds", .float view.peakAgeSeconds)]

def adaptiveMetrics (own : Dict String PyVal) (grossProfit : Rat) : Except String (Dict String PyVal) := do
  let text (key default other : String) : PyVal := .str (((own.getD key (.str default)).or (.str other)).pyStr)
  let number (key : String) : PyVal := numberOrNone (own.getD key .none).optionalFloat
  return Dict.ofList [("phase", text "phase" "WAITING_ARM" "WAITING_ARM"), ("data_quality", text "data_quality" "PRICE_UNAVAILABLE" ""),
    ("last_decision", text "last_decision" "" ""), ("gross_profit_pct", .float grossProfit),
    ("peak_drawdown_pct", .float (← floatField own.entries "peak_drawdown_pct" 0)), ("return_15s_pct", number "return_15s_pct"),
    ("return_60s_pct", number "return_60s_pct"), ("volume_velocity", number "volume_velocity"),
    ("depth_imbalance_5", number "depth_imbalance_5"), ("weak_score", .int (← intOrField own.entries "weak_score" 0)),
    ("consecutive_weak", .int (← intOrField own.entries "consecutive_weak" 0)), ("trailing_floor_pct", number "trailing_floor_pct")]

def conclude (scratch : Dict String PyVal → RuleScratch) (own : Dict String PyVal) (fields : List (String × PyVal)) (grossProfit : Rat)
    (triggered : Bool) (reason : String) : RuleScratch × Except String ExitRuleMatch :=
  let own := own.update fields
  (scratch own, (adaptiveMetrics own grossProfit).map fun metrics => ⟨triggered, reason, metrics⟩)

def adaptivePolicy (rule : ExitRuleSpec) : Except String TrailingProfitPolicy := do
  return {
    targetProfitPct := (armTarget rule).1.getD 0, baseFloorPct := ← threshold rule "base_floor_pct" (1 / 2)
    initialGapPct := ← threshold rule "initial_gap_pct" (3 / 2), gapSlope := ← threshold rule "gap_slope" (1 / 4)
    maxGapPct := ← threshold rule "max_gap_pct" 3 }

def testNumber (value : Option Rat) (limit : Except String Rat) (holds : Rat → Rat → Bool) : Except String Bool :=
  match value with
  | none => .ok false
  | some value => limit.map (holds value)

/-- `a and b`, which asks `b` only where `a` holds. -/
def andThen (a b : Except String Bool) : Except String Bool := do
  if ← a then b else return false

def weakPriceScore (rule : ExitRuleSpec) (view : WindowView) : Except String Int := do
  let drawn : Bool := (← threshold rule "weak_drawdown_pct" (3 / 5)) ≤ view.peakDrawdownPct
  let falling ← testNumber view.return15sPct (threshold rule "weak_return_15s_pct" (1 / 4)) fun value limit => value ≤ -limit
  let stagnant ← andThen (.ok view.full) (andThen
    (testNumber view.volumeVelocity (threshold rule "stagnation_volume_velocity" (3 / 2)) fun value limit => limit ≤ value)
    (testNumber view.return60sPct (threshold rule "stagnation_return_60s_pct" (1 / 10)) fun value limit => value ≤ limit))
  return (if drawn then 2 else 0) + (if falling then 1 else 0) + (if stagnant then 1 else 0)

def weakBookScore (rule : ExitRuleSpec) (context : ExitEvaluationContext) (view : WindowView) : Except String Int := do
  let pressed ← andThen (.ok view.full)
    (testNumber context.depthImbalance5 (threshold rule "weak_depth_imbalance" (-1 / 5)) fun value limit => value ≤ limit)
  let newHigh : Bool := view.peakAgeSeconds ≤ (← threshold rule "new_high_bonus_seconds" 10)
  let strong ← andThen (.ok view.full) (andThen
    (testNumber view.return15sPct (threshold rule "strong_return_15s_pct" (1 / 4)) fun value limit => limit ≤ value)
    (testNumber view.volumeVelocity (threshold rule "strong_volume_velocity" (6 / 5)) fun value limit => limit ≤ value))
  return (if pressed then 1 else 0) - (if newHigh then 1 else 0) - (if strong then 1 else 0)

/-- `immediate`: a deep drawdown, a rapid reversal, or the floor. -/
def immediateExit (rule : ExitRuleSpec) (view : WindowView) (floorBreached : Bool) : Except String Bool := do
  let rapid ← andThen
    (testNumber view.return15sPct (threshold rule "immediate_return_15s_pct" (4 / 5)) fun value limit => value ≤ -limit)
    (testNumber view.volumeVelocity (threshold rule "immediate_volume_velocity" 2) fun value limit => limit ≤ value)
  let deep : Bool := (← threshold rule "immediate_drawdown_pct" (6 / 5)) ≤ view.peakDrawdownPct
  return deep || rapid || floorBreached

/-- The confirmation of weakness: a new observation counts where its score is high enough, else the count restarts. -/
def confirmWeakness (rule : ExitRuleSpec) (isNew : Bool) (weakScore : Int) (grossProfit : Rat) (full : Bool)
    (scratch : Dict String PyVal → RuleScratch) (own : Dict String PyVal) : RuleScratch × Except String ExitRuleMatch :=
  reading (scratch own) (intParameter rule "confirm_score" 3) fun confirmScore =>
  reading (scratch own) (intParameter rule "confirm_observations" 2) fun confirmObservations =>
  reading (scratch own) (intOrField own.entries "consecutive_weak" 0) fun stored =>
  let consecutive := if isNew then (if confirmScore ≤ weakScore then stored + 1 else 0) else stored
  let own := if isNew then own.set "consecutive_weak" (.int consecutive) else own
  if max 1 confirmObservations ≤ consecutive then
    conclude scratch own [("phase", .str "TRIGGERED"), ("last_decision", .str "CONFIRMED_EXIT")] grossProfit true
      (rule.reason "ADAPTIVE_TRAILING_WEAKNESS_CONFIRMED")
  else
    conclude scratch own [("phase", .str (if full then "FOLLOWING" else "PRICE_ONLY_DEGRADED")), ("last_decision", .str "FOLLOW")]
      grossProfit false "ADAPTIVE_TRAILING_FOLLOW"

def followScratch (rule : ExitRuleSpec) (plan : ExitPlan) (trailingFloor : Option Rat) (own : Dict String PyVal) : RuleScratch where
  ruleState := plan.ruleState.set rule.ruleId own
  trailingFloorPct := (keepFloor rule plan own trailingFloor).trailingFloorPct

def followPrice (rule : ExitRuleSpec) (plan : ExitPlan) (context : ExitEvaluationContext) (isNew : Bool) (view : WindowView)
    (own : Dict String PyVal) : RuleScratch × Except String ExitRuleMatch :=
  reading (keepState rule plan own) (adaptivePolicy rule) fun policy =>
  let trailingFloor := calculateTrailingFloorPct plan.peakNetProfitPct (floorOf own) policy
  let own := own.set "trailing_floor_pct" (numberOrNone trailingFloor)
  let scratch := followScratch rule plan trailingFloor
  let grossProfit := executableProfitPct plan context
  reading (scratch own) (weakPriceScore rule view) fun priceScore =>
  let own := own.set "depth_imbalance_5" (numberOrNone context.depthImbalance5)
  reading (scratch own) (weakBookScore rule context view) fun bookScore =>
  let own := own.set "weak_score" (.int (priceScore + bookScore))
  let floorBreached := trailingFloor.any (plan.lastNetProfitPct ≤ ·)
  reading (scratch own) (immediateExit rule view floorBreached) fun immediate =>
  if immediate then
    conclude scratch own [("phase", .str "TRIGGERED"), ("last_decision", .str "IMMEDIATE_EXIT"), ("consecutive_weak", .int 0)]
      grossProfit true
      (rule.reason (if floorBreached then "ADAPTIVE_TRAILING_FLOOR_BREACHED" else "ADAPTIVE_TRAILING_IMMEDIATE_REVERSAL"))
  else confirmWeakness rule isNew (priceScore + bookScore) grossProfit view.full scratch own

def adaptiveVolumePriceTrailing : ExitRuleEvaluator := fun rule plan context =>
  let own := openWindowDay context.tradeDate (ownState rule plan)
  reading (keepState rule plan own) (samplesOf own) fun stored =>
  let isNew := isNewObservation stored context.timestampMs
  let samples := if isNew then pushSample stored context else stored
  let own := if isNew then keepWindow context samples own else own
  reading (keepState rule plan own) (floatField own.entries "observed_peak_price" 0) fun previousPeak =>
  let own := notePeakPrice context previousPeak own
  reading (keepState rule plan own) (intOrField own.entries "peak_timestamp_ms" context.timestampMs) fun peakTimestamp =>
  let view := windowView context samples previousPeak peakTimestamp
  let own := keepView context view (noteArmed rule plan context own)
  let grossProfit := executableProfitPct plan context
  if !isArmed own then
    conclude (keepState rule plan) own [("phase", .str "WAITING_ARM"), ("last_decision", .str "WAITING_ARM"), ("weak_score", .int 0)]
      grossProfit false "ADAPTIVE_TRAILING_WAITING_ARM"
  else if !priceAvailable context then
    conclude (keepState rule plan) own [("phase", .str "PAUSED_STALE_PRICE"), ("last_decision", .str "PAUSE"), ("weak_score", .int 0)]
      grossProfit false "ADAPTIVE_TRAILING_PRICE_UNAVAILABLE"
  else followPrice rule plan context isNew view own

end ExitRules

def ExitStrategyRegistry.builtins (fromisoformat : PyVal → Option Nat) : ExitStrategyRegistry :=
  ((((((((((((((empty.register "TARGET_PRICE" ExitRules.targetPrice).register "STOP_PRICE" ExitRules.stopPrice).register
    "GROSS_TAKE_PROFIT" ExitRules.grossTakeProfit).register "NET_TAKE_PROFIT" ExitRules.netTakeProfit).register
    "TRAILING_NET_PROFIT" ExitRules.trailingNetProfit).register "ADAPTIVE_VOLUME_PRICE_TRAILING"
    ExitRules.adaptiveVolumePriceTrailing).register "RAPID_PROFIT_REVERSAL" ExitRules.rapidProfitReversal).register
    "TRAILING_PRICE_DRAWDOWN" ExitRules.trailingPriceDrawdown).register "HARD_STOP" ExitRules.hardStop).register "TIME_OF_DAY"
    (ExitRules.timeOfDay fromisoformat)).register "MAX_HOLDING_DAYS" (ExitRules.maxHoldingDays fromisoformat)).register
    "LIMIT_UP_TOUCH" ExitRules.limitUpTouch).register "LIMIT_UP_BREAK" ExitRules.limitUpBreak).register "MANUAL_TRIGGER"
    manualTrigger)

end QuantX
