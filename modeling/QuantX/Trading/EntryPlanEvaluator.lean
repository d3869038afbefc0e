import QuantX.Trading.EntryRules

/-! # Evaluation of entry plans

`ManagedEntryPlanEvaluator` turns a point-in-time context into at most one buy decision. -/

namespace QuantX
open Lib

structure EntryGapResult where
  remainingAmountCny : Rat
  remainingVolume : Option Int
  targetReached : Bool
  pendingAmountCny : Rat
  pendingVolume : Int
  (positionCapRemainingCny planBudgetRemainingCny : Rat)

/-- `EntryGapCalculator.calculate`. -/
def calculateGap (policy : EntryTargetPolicy) (context : EntryEvaluationContext) : EntryGapResult :=
  let price := context.executablePrice
  if price ≤ 0 ∨ context.totalEquityCny ≤ 0 then ⟨0, none, false, 0, 0, 0, 0⟩
  else
    let pendingAmount := context.pendingBuyAmountCny
    let pendingVolume := context.pendingBuyVolume
    let currentValue := max 0 (if 0 < context.currentMarketValueCny then context.currentMarketValueCny
      else context.currentPositionVolume * price)
    let budgetRemaining := max 0 (policy.maxTotalAmountCny - context.planFilledAmountCny - pendingAmount)
    let positionCapRemaining :=
      max 0 (context.totalEquityCny * policy.maxPositionPct - currentValue - pendingAmount)
    match policy.target with
    | .targetPositionPct pct =>
      let targetValue := context.totalEquityCny * pct
      let actualGap := max 0 (targetValue - currentValue)
      let rawGap := max 0 (targetValue - currentValue - pendingAmount)
      ⟨min (min rawGap budgetRemaining) positionCapRemaining, none, actualGap ≤ epsilon, pendingAmount, pendingVolume,
        positionCapRemaining, budgetRemaining⟩
    | .incrementalAmountCny amount =>
      let actualGap := max 0 (amount - context.planFilledAmountCny)
      let rawGap := max 0 (actualGap - pendingAmount)
      ⟨min (min rawGap budgetRemaining) positionCapRemaining, none, actualGap ≤ epsilon, pendingAmount, pendingVolume,
        positionCapRemaining, budgetRemaining⟩
    | .additionalVolume volume =>
      let actualVolumeGap := max 0 (volume - context.planFilledVolume)
      let rawVolume := max 0 (actualVolumeGap - pendingVolume)
      let amountCap := min budgetRemaining positionCapRemaining
      let cappedVolume := min rawVolume (max 0 (amountCap / price).floor)
      ⟨cappedVolume * price, some cappedVolume, actualVolumeGap ≤ 0, pendingAmount, pendingVolume,
        positionCapRemaining, budgetRemaining⟩

/-! ## Decisions -/

structure EntryDecision where
  planId : String
  configVersion : Int
  (ruleId ruleType stageId intentId businessKey : String)
  targetAmountCny : Option Rat
  targetVolume : Option Int
  reason : String
  metrics : Dict String PyVal

structure EntryEvaluationResult where
  decision : Option EntryDecision
  reason : String
  gap : Option EntryGapResult := none

/-- `_causal`: the observations are ordered, none lies in the future, and all prices are positive. -/
def causal (decisionTimeMs : Int) : Int → List CausalPriceObservation → Bool
  | _, [] => true
  | previous, item :: rest =>
    if decisionTimeMs < item.timestampMs ∨ item.timestampMs < previous then false
    else if item.price ≤ 0 then false
    else causal decisionTimeMs item.timestampMs rest

namespace ManagedEntryPlanState

def noteReason (state : ManagedEntryPlanState) (context : EntryEvaluationContext) (reason : String) :
    ManagedEntryPlanState :=
  { state with
    lastDecision := Dict.ofList [("decision_time_ms", .int context.decisionTimeMs), ("reason", .str reason)] }

def stoppedReason (config : ManagedEntryPlanConfig) (state : ManagedEntryPlanState) (context : EntryEvaluationContext) :
    Option String :=
  if context.instrumentCode ≠ config.instrumentCode then some "ENTRY_INSTRUMENT_MISMATCH"
  else if state.phase.terminal then some ("ENTRY_PLAN_" ++ state.phase.value)
  else match state.terminalRequested with
    | some requested => some ("ENTRY_PLAN_" ++ requested.status.value)
    | none =>
      if state.phase = .paused ∨ state.phase = .draining then some ("ENTRY_PLAN_" ++ state.phase.value)
      else if state.hasPending then some "ENTRY_PENDING_EXISTS"
      else none

def contextReason (config : ManagedEntryPlanConfig) (context : EntryEvaluationContext) : Option String :=
  if context.killSwitch then some "ENTRY_KILL_SWITCHED"
  else if context.onlyRiskReduction then some "ENTRY_RISK_REDUCTION_ONLY"
  else if !context.allowBuy || !context.allowBucketBuy then some "ENTRY_BUY_NOT_ALLOWED"
  else if context.conflictingSell then some "ENTRY_CONFLICTING_SELL"
  else if !context.marketReady then some "ENTRY_MARKET_NOT_READY"
  else if context.dataQuality.toUpper ≠ "OK" then some "ENTRY_DATA_INSUFFICIENT"
  else if context.executablePrice ≤ 0 ∨ context.totalEquityCny ≤ 0 then some "ENTRY_SNAPSHOT_INCOMPLETE"
  else if config.completionPolicy.maxBuyPrice + epsilon < context.executablePrice then
    some "ENTRY_MAX_BUY_PRICE_EXCEEDED"
  else none

def pacingReason (config : ManagedEntryPlanConfig) (state : ManagedEntryPlanState) (context : EntryEvaluationContext) :
    Option String :=
  if state.retryAfterMs.any (context.decisionTimeMs < ·) then some "ENTRY_REJECT_COOLDOWN"
  else if state.lastIntentAtMs.any
      (fun last => context.decisionTimeMs < last + config.pacingPolicy.minIntervalSeconds * 1000) then
    some "ENTRY_MIN_INTERVAL"
  else if config.pacingPolicy.maxOrdersPerDay ≤
      max context.dailyOrderCount (state.dailyOrderCounts.getD context.tradeDate 0) then
    some "ENTRY_DAILY_ORDER_LIMIT"
  else if !causal context.decisionTimeMs (-1) context.dailyObservations then some "ENTRY_FUTURE_DATA_REJECTED"
  else if !causal context.decisionTimeMs (-1) context.intradayObservations then some "ENTRY_FUTURE_DATA_REJECTED"
  else none

/-- `_block_reason`. A plan past its expiry is asked to end. -/
def blockReason (config : ManagedEntryPlanConfig) (state : ManagedEntryPlanState) (context : EntryEvaluationContext) :
    ManagedEntryPlanState × Option String :=
  match state.stoppedReason config context with
  | some reason => (state, some reason)
  | none => match contextReason config context with
    | some reason => (state, some reason)
    | none =>
      if config.completionPolicy.expireAtMs.any (· ≤ context.decisionTimeMs) then
        (state.requestTerminal .expired "ENTRY_PLAN_EXPIRED" false, some "ENTRY_PLAN_EXPIRED")
      else (state, state.pacingReason config context)

/-- Ask the evaluators of the enabled, uncompleted rules in order. Each sees the rule state that the
    earlier ones left. -/
def matchRules (registry : ManagedEntryRuleRegistry) (context : EntryEvaluationContext) :
    List EntryRuleSpec → ManagedEntryPlanState →
      ManagedEntryPlanState × Except String (List (EntryRuleSpec × EntryRuleMatch))
  | [], state => (state, .ok [])
  | rule :: rules, state =>
    if !rule.enabled || rule.ruleId ∈ state.completedRuleIds then matchRules registry context rules state
    else
      let (ruleState, result) := registry.evaluate rule state context
      let state := { state with ruleState }
      match result with
      | .error e => (state, .error e)
      | .ok found =>
        let (state, rest) := matchRules registry context rules state
        (state, rest.map fun rest => if found.matched then (rule, found) :: rest else rest)

def bestMatch : List (EntryRuleSpec × EntryRuleMatch) → Option (EntryRuleSpec × EntryRuleMatch)
  | [] => none
  | first :: rest => some (rest.foldl (fun best item => if best.1.priority < item.1.priority then item else best) first)

def amountCap (config : ManagedEntryPlanConfig) (context : EntryEvaluationContext) (gap : EntryGapResult) : Rat :=
  let dailyUsed := max 0 context.dailyFilledAmountCny
  let base := min (min gap.remainingAmountCny config.pacingPolicy.maxSingleIntentAmountCny)
    (max 0 (config.pacingPolicy.maxDailyFilledAmountCny - dailyUsed))
  let risk := match context.riskMaxBuyAmountCny with
    | none => base
    | some cap => min base (max 0 cap)
  max 0 (match context.liquidityCapCny with
    | none => risk
    | some cap => min risk (max 0 cap))

structure SliceSize where
  targetVolume : Option Int
  targetAmountCny : Option Rat
  reservedAmountCny : Rat

def sliceSize (config : ManagedEntryPlanConfig) (context : EntryEvaluationContext) (gap : EntryGapResult)
    (found : EntryRuleMatch) : Option SliceSize :=
  let cap := match found.suggestedAmountCny with
    | none => amountCap config context gap
    | some amount => min (amountCap config context gap) (max 0 amount)
  match config.targetPolicy.target with
  | .additionalVolume _ =>
    let remaining := gap.remainingVolume.getD 0
    let suggested := match found.suggestedVolume with
      | some volume => if volume ≠ 0 then volume else remaining
      | none => remaining
    let volume := min (min remaining suggested) (max 0 (cap / context.executablePrice).floor)
    if volume ≤ 0 then none else some ⟨some volume, none, volume * context.executablePrice⟩
  | _ => if cap ≤ epsilon then none else some ⟨none, some cap, cap⟩

def openSlice (state : ManagedEntryPlanState) (config : ManagedEntryPlanConfig) (context : EntryEvaluationContext)
    (rule : EntryRuleSpec) (found : EntryRuleMatch) (size : SliceSize) (decision : EntryDecision) (activation : Int) :
    ManagedEntryPlanState :=
  { state with
    ruleActivationCounts := state.ruleActivationCounts.set rule.ruleId activation
    dailyOrderCounts :=
      state.dailyOrderCounts.set context.tradeDate (state.dailyOrderCounts.getD context.tradeDate 0 + 1)
    pendingIntentId := decision.intentId, pendingStageId := decision.stageId, pendingRuleId := rule.ruleId
    pendingRuleType := rule.ruleType
    pendingActivationId := ((found.metrics.getD "activation_id" .none).or
      (.str (if rule.once then rule.ruleId else rule.ruleId ++ ":" ++ toString activation))).pyStr
    pendingRequestedVolume := size.targetVolume.getD 0
    pendingRequestedAmountCny := PyVal.orNumber (size.targetAmountCny.getD 0) size.reservedAmountCny
    pendingFilledVolume := 0, pendingFilledAmountCny := 0, reservedAmountCny := size.reservedAmountCny
    orderTerminalSeen := false, terminalExpectedFilledVolume := none, tradeReconciled := false
    lastIntentAtMs := some context.decisionTimeMs
    phase := if config.authorizationMode = .manualConfirm then .awaitingApproval else .entryPending
    lastDecision := Dict.ofList [("decision_time_ms", .int context.decisionTimeMs), ("reason", .str found.reason),
      ("rule_id", .str rule.ruleId), ("intent_id", .str decision.intentId)] }

/-- The decision for a match. `uuid5` is the name-based id in the plan's namespace. -/
def decisionFor (uuid5 : String → String) (config : ManagedEntryPlanConfig) (context : EntryEvaluationContext)
    (gap : EntryGapResult) (rule : EntryRuleSpec) (found : EntryRuleMatch) (size : SliceSize) (activation : Int) :
    EntryDecision :=
  let businessKey :=
    context.planId ++ ":" ++ toString config.configVersion ++ ":" ++ rule.ruleId ++ ":" ++ toString activation
  { planId := context.planId, configVersion := config.configVersion, ruleId := rule.ruleId, ruleType := rule.ruleType
    stageId := "entry-stage:" ++ uuid5 (businessKey ++ ":stage"), intentId := uuid5 businessKey
    businessKey, targetAmountCny := size.targetAmountCny, targetVolume := size.targetVolume, reason := found.reason
    metrics := found.metrics.update [("remaining_gap_cny", .float gap.remainingAmountCny),
      ("position_cap_remaining_cny", .float gap.positionCapRemainingCny),
      ("plan_budget_remaining_cny", .float gap.planBudgetRemainingCny), ("activation", .int activation)] }

def noDecision (state : ManagedEntryPlanState) (context : EntryEvaluationContext) (reason : String)
    (gap : Option EntryGapResult) : ManagedEntryPlanState × Except String EntryEvaluationResult :=
  (state.noteReason context reason, .ok { decision := none, reason, gap })

def proposeSlice (registry : ManagedEntryRuleRegistry) (uuid5 : String → String) (config : ManagedEntryPlanConfig)
    (state : ManagedEntryPlanState) (context : EntryEvaluationContext) :
    ManagedEntryPlanState × Except String EntryEvaluationResult :=
  let gap := calculateGap config.targetPolicy context
  if gap.targetReached ∧ config.completionPolicy.stopWhenTargetReached then
    { state with phase := .completed }.noDecision context "ENTRY_TARGET_REACHED" (some gap)
  else if config.targetPolicy.maxTotalAmountCny - context.planFilledAmountCny ≤ epsilon ∧
      config.completionPolicy.stopWhenBudgetExhausted then
    { state with phase := .completed }.noDecision context "ENTRY_BUDGET_EXHAUSTED" (some gap)
  else if gap.remainingAmountCny ≤ epsilon then state.noDecision context "ENTRY_CAPACITY_ZERO" (some gap)
  else match state.matchRules registry context config.triggerRules with
    | (state, .error e) => (state, .error e)
    | (state, .ok candidates) => match bestMatch candidates with
      | none => state.noDecision context "ENTRY_RULES_NOT_MATCHED" (some gap)
      | some (rule, found) => match sliceSize config context gap found with
        | none => state.noDecision context "ENTRY_CAPACITY_ZERO" (some gap)
        | some size =>
          let activation := state.ruleActivationCounts.getD rule.ruleId 0 + 1
          let decision := decisionFor uuid5 config context gap rule found size activation
          (state.openSlice config context rule found size decision activation,
            .ok { decision := some decision, reason := found.reason, gap := some gap })

def evaluate (registry : ManagedEntryRuleRegistry) (uuid5 : String → String) (config : ManagedEntryPlanConfig)
    (state : ManagedEntryPlanState) (context : EntryEvaluationContext) :
    ManagedEntryPlanState × Except String EntryEvaluationResult :=
  let state := { state with dataQuality := (PyVal.orText context.dataQuality "INSUFFICIENT").toUpper }
  match state.blockReason config context with
  | (state, some reason) => (state.noteReason context reason, .ok { decision := none, reason })
  | (state, none) => state.proposeSlice registry uuid5 config context

end ManagedEntryPlanState

end QuantX
