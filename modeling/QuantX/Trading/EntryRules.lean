import QuantX.Trading.EntryPlan

/-! # Buy rules

The point-in-time context of an evaluation and the rules that say when to buy: a price ladder, a manual
trigger and the pullback in an upward trend. Rules keep their own state on the plan. -/

namespace QuantX
open Lib

structure PendingBuyExposure where
  remainingVolume : Int
  protectedLimitPrice : Rat
  ownerPlanId : Option String := none

def PendingBuyExposure.amountCny (item : PendingBuyExposure) : Rat :=
  (max 0 item.remainingVolume : Int) * max 0 item.protectedLimitPrice

structure CausalPriceObservation where
  timestampMs : Int
  price : Rat
  volume : Option Rat := none

structure EntryEvaluationContext where
  planId : String
  decisionTimeMs : Int
  (tradeDate instrumentCode : String)
  (executablePrice totalEquityCny : Rat)
  currentPositionVolume : Int
  currentMarketValueCny : Rat
  pendingBuys : List PendingBuyExposure := []
  planFilledAmountCny : Rat := 0
  planFilledVolume : Int := 0
  dailyFilledAmountCny : Rat := 0
  dailyOrderCount : Int := 0
  riskMaxBuyAmountCny : Option Rat := none
  liquidityCapCny : Option Rat := none
  dataQuality : String := "OK"
  allowBuy : Bool := true
  allowBucketBuy : Bool := true
  onlyRiskReduction : Bool := false
  killSwitch : Bool := false
  conflictingSell : Bool := false
  marketReady : Bool := true
  manualTriggerRuleId : Option String := none
  dailyObservations : List CausalPriceObservation := []
  intradayObservations : List CausalPriceObservation := []

namespace EntryEvaluationContext

def pendingBuyAmountCny (context : EntryEvaluationContext) : Rat := (context.pendingBuys.map (·.amountCny)).sum

def pendingBuyVolume (context : EntryEvaluationContext) : Int :=
  (context.pendingBuys.map fun item => max 0 item.remainingVolume).sum

end EntryEvaluationContext

structure EntryRuleMatch where
  matched : Bool
  reason : String
  suggestedAmountCny : Option Rat := none
  suggestedVolume : Option Int := none
  metrics : Dict String PyVal := .empty

abbrev EntryRuleEvaluator := EntryRuleSpec → ManagedEntryPlanState → EntryEvaluationContext →
  Dict String (Dict String PyVal) × Except String EntryRuleMatch

abbrev ManagedEntryRuleRegistry := String → Option EntryRuleEvaluator

namespace ManagedEntryRuleRegistry

def empty : ManagedEntryRuleRegistry := fun _ => none

def register (registry : ManagedEntryRuleRegistry) (ruleType : String) (evaluator : EntryRuleEvaluator) :
    ManagedEntryRuleRegistry :=
  fun name => if name = ruleType.toUpper then some evaluator else registry name

def evaluate (registry : ManagedEntryRuleRegistry) : EntryRuleEvaluator := fun rule state context =>
  match registry rule.ruleType with
  | none => (state.ruleState, .ok { matched := false, reason := "ENTRY_RULE_NOT_REGISTERED" })
  | some evaluator => evaluator rule state context

end ManagedEntryRuleRegistry

namespace EntryRules

/-- `_float(value, default)`. -/
def floatOr (value : PyVal) (default : Rat) : Rat := value.optionalFloat.getD default

/-- `int(parameters.get(key, default) or default)`. -/
def intParameter (rule : EntryRuleSpec) (key : String) (default : Int) : Except String Int :=
  ((rule.parameters.getD key (.int default)).or (.int default)).toInt

def floatParameter (rule : EntryRuleSpec) (key : String) (default : Rat) : Rat :=
  floatOr (rule.parameters.getD key .none) default

def trancheAmount (rule : EntryRuleSpec) : Option Rat := (rule.parameters.getD "tranche_amount_cny" .none).optionalFloat
def trancheVolume (rule : EntryRuleSpec) : Option Int := (rule.parameters.getD "tranche_volume" .none).optionalInt

/-- `rule_state.setdefault(rule_id, {}).update(fields)`. -/
def updateRuleState (ruleState : Dict String (Dict String PyVal)) (ruleId : String) (fields : List (String × PyVal)) :
    Dict String (Dict String PyVal) := ruleState.set ruleId ((ruleState.getD ruleId .empty).update fields)

def ladderLevels (rule : EntryRuleSpec) : Except String (List (List (String × PyVal))) := do
  let items ← match rule.parameters.getD "levels" .none with
    | .dict _ | .str _ => .ok []
    | value => listOrEmpty value
  return items.filterMap fun
    | .dict fields => some fields
    | _ => none

def levelId (level : List (String × PyVal)) : String := (((Dict.lookup "level_id" level).getD (.str "")).or (.str "")).pyStr

def levelEligible (rule : EntryRuleSpec) (state : ManagedEntryPlanState) (context : EntryEvaluationContext)
    (level : List (String × PyVal)) : Bool :=
  let triggerPrice := floatOr (PyVal.get level "trigger_price") 0
  levelId level ≠ "" && (rule.ruleId ++ ":" ++ levelId level) ∉ state.completedActivationIds &&
    0 < triggerPrice && context.executablePrice ≤ triggerPrice + epsilon

def levelPriority (rule : EntryRuleSpec) (level : List (String × PyVal)) : Except String Int :=
  (((Dict.lookup "priority" level).getD (.int rule.priority)).or (.int 0)).toInt

def levelBefore (a b : Int × List (String × PyVal)) : Bool :=
  let price := fun level : List (String × PyVal) => floatOr (PyVal.get level "trigger_price") 0
  a.1 < b.1 || (a.1 = b.1 && (price a.2 < price b.2 || (price a.2 = price b.2 && levelId a.2 < levelId b.2)))

def bestLevel (rule : EntryRuleSpec) (levels : List (List (String × PyVal))) :
    Except String (Option (List (String × PyVal))) := do
  let keyed ← levels.mapM fun level => return (← levelPriority rule level, level)
  match keyed with
  | [] => return none
  | first :: rest => return some (rest.foldl (fun best item => if levelBefore best item then item else best) first).2

/-- `_price_ladder`. One evaluation activates at most one level. -/
def priceLadder : EntryRuleEvaluator := fun rule state context =>
  let chosen : Except String (Option (List (String × PyVal))) := do
    bestLevel rule ((← ladderLevels rule).filter (levelEligible rule state context))
  match chosen with
  | .error e => (state.ruleState, .error e)
  | .ok none => (state.ruleState, .ok { matched := false, reason := "ENTRY_PRICE_LADDER_WAITING" })
  | .ok (some level) =>
    let id := (PyVal.get level "level_id").pyStr
    let amount := (Dict.lookup "tranche_amount_cny" level).getD (PyVal.get level "tranche_value")
    (updateRuleState state.ruleState rule.ruleId [("matched_level_id", .str id)], .ok {
      matched := true, reason := "ENTRY_PRICE_LADDER_REACHED", suggestedAmountCny := amount.optionalFloat
      suggestedVolume := (PyVal.get level "tranche_volume").optionalInt
      metrics := Dict.ofList [("level_id", .str id), ("activation_id", .str (rule.ruleId ++ ":" ++ id)),
        ("trigger_price", .float (floatOr (PyVal.get level "trigger_price") 0)),
        ("executable_price", .float context.executablePrice)] })

def manualTrigger : EntryRuleEvaluator := fun rule state context =>
  let matched := context.manualTriggerRuleId = some rule.ruleId
  (state.ruleState, .ok {
    matched, reason := if matched then "ENTRY_MANUAL_TRIGGER_CONFIRMED" else "ENTRY_MANUAL_TRIGGER_WAITING"
    suggestedAmountCny := trancheAmount rule, suggestedVolume := trancheVolume rule })

/-! ### Trend pullback -/

def ema (values : List Rat) (period : Int) : Rat :=
  match values with
  | [] => 0
  | first :: rest =>
    let alpha : Rat := 2 / (period + 1)
    rest.foldl (fun result value => alpha * value + (1 - alpha) * result) first

structure Trend where
  (fast slow slopePct : Rat)
  ok : Bool

def trendOf (rule : EntryRuleSpec) (context : EntryEvaluationContext) : Except String (Option Trend) := do
  let fastPeriod := max 2 (← intParameter rule "fast_ema_period" 5)
  let slowPeriod := max (fastPeriod + 1) (← intParameter rule "slow_ema_period" 20)
  let closes := context.dailyObservations.map (·.price)
  if (closes.length : Int) < slowPeriod then return none
  let fast := ema closes fastPeriod
  let slow := ema closes slowPeriod
  let previousSlow := if slowPeriod < closes.length then ema closes.dropLast slowPeriod else slow
  let slopePct := if 0 < previousSlow then (slow / previousSlow - 1) * 100 else 0
  return some {
    fast, slow, slopePct
    ok := slow < fast ∧ slow ≤ closes.getLastD 0 ∧ floatParameter rule "min_slow_ema_slope_pct" 0 ≤ slopePct }

def trancheMultiplier (rule : EntryRuleSpec) (trend : Trend) : Rat :=
  if (rule.parameters.getD "trend_adjustment_enabled" (.bool true)).truthy then
    let strongSpreadPct := if 0 < trend.slow then (trend.fast / trend.slow - 1) * 100 else 0
    if floatParameter rule "strong_trend_spread_pct" 1 ≤ strongSpreadPct then
      min 1 (floatParameter rule "strong_tranche_multiplier" 1)
    else min 1 (max (floatParameter rule "weak_tranche_multiplier" 1) 0)
  else 1

structure Pullback where
  phase : String
  (peak low pullbackPct reboundPct : Rat)
  confirmations : Int

/-- One observation of the pullback machine: wait for the pullback, then for the rebound from its low, and count what
    confirms it. -/
def observePullback (rule : EntryRuleSpec) (own : Dict String PyVal) (context : EntryEvaluationContext) :
    Except String Pullback := do
  let lastObservationMs ← ((own.getD "last_observation_ms" (.int 0)).or (.int 0)).toInt
  let current := context.executablePrice
  let peak := max (floatOr (own.getD "observed_peak_price" .none) 0) current
  let stored := ((own.getD "phase" (.str "WAITING_PULLBACK")).or (.str "WAITING_PULLBACK")).pyStr
  let phase := if stored = "WAITING_TREND" then "WAITING_PULLBACK" else stored
  let low := floatOr (own.getD "pullback_low_price" .none) current
  let pullbackPct := if 0 < peak then (peak - current) / peak * 100 else 0
  let starts := phase = "WAITING_PULLBACK" ∧ max 0 (floatParameter rule "pullback_pct" 1) ≤ pullbackPct
  let phase := if starts then "WAITING_REBOUND" else phase
  let low := if starts then current else low
  let low := if phase = "WAITING_REBOUND" then min low current else low
  let reboundPct := if 0 < low then (current / low - 1) * 100 else 0
  let stored ← if starts then pure 0 else ((own.getD "confirmations" (.int 0)).or (.int 0)).toInt
  let confirmations :=
    if phase = "WAITING_REBOUND" ∧ lastObservationMs < context.decisionTimeMs then
      if max 0 (floatParameter rule "rebound_pct" (3 / 10)) ≤ reboundPct then stored + 1 else 0
    else stored
  return ⟨phase, peak, low, pullbackPct, reboundPct, confirmations⟩

def trendPullbackConfirmation : EntryRuleEvaluator := fun rule state context =>
  match trendOf rule context with
  | .error e => (state.ruleState, .error e)
  | .ok none => (state.ruleState, .ok { matched := false, reason := "ENTRY_TREND_WARMING_UP" })
  | .ok (some trend) =>
    let trendFields := [("trend_fast_ema", PyVal.float trend.fast), ("trend_slow_ema", .float trend.slow),
      ("slow_ema_slope_pct", .float trend.slopePct)]
    if !trend.ok then
      let ruleState := updateRuleState state.ruleState rule.ruleId (("phase", .str "WAITING_TREND") :: trendFields)
      (ruleState, .ok {
        matched := false, reason := "ENTRY_TREND_NOT_CONFIRMED", metrics := ruleState.getD rule.ruleId .empty })
    else
      let seen := updateRuleState state.ruleState rule.ruleId []
      let observed : Except String (Pullback × Int) := do
        let pullback ← observePullback rule (seen.getD rule.ruleId .empty) context
        return (pullback, max 1 (← intParameter rule "confirm_observations" 1))
      match observed with
      | .error e => (seen, .error e)
      | .ok (pullback, confirmationsRequired) =>
        let matched := pullback.phase = "WAITING_REBOUND" ∧ confirmationsRequired ≤ pullback.confirmations
        let ruleState := updateRuleState seen rule.ruleId ([
          ("phase", .str (if matched then "CONFIRMED" else pullback.phase)),
          ("last_observation_ms", .int context.decisionTimeMs), ("observed_peak_price", .float pullback.peak),
          ("pullback_low_price", .float pullback.low), ("pullback_pct", .float pullback.pullbackPct),
          ("rebound_pct", .float pullback.reboundPct), ("confirmations", .int pullback.confirmations)] ++ trendFields)
        (ruleState, .ok {
          matched, reason := if matched then "ENTRY_TREND_PULLBACK_CONFIRMED" else "ENTRY_TREND_PULLBACK_WAITING"
          suggestedAmountCny := ((trancheAmount rule).filter (· ≠ 0)).map (· * trancheMultiplier rule trend)
          suggestedVolume := trancheVolume rule, metrics := ruleState.getD rule.ruleId .empty })

end EntryRules

def ManagedEntryRuleRegistry.builtins : ManagedEntryRuleRegistry :=
  ((empty.register "TREND_PULLBACK_CONFIRMATION" EntryRules.trendPullbackConfirmation).register "PRICE_LADDER"
    EntryRules.priceLadder).register "MANUAL_TRIGGER" EntryRules.manualTrigger

end QuantX
