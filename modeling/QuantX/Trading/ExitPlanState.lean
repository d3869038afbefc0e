import QuantX.Trading.ExitPlan

/-! # The state machine of one exit plan

Each operation is a function from the plan to the plan it leaves behind. `pendingIntentId = ""` means that no intent is
pending, as in the source. -/

namespace QuantX
open Lib

namespace ExitPlan

def planId (plan : ExitPlan) : String := plan.template.planId

def remainingVolume (plan : ExitPlan) : Int := max 0 (plan.entryFilledVolume - plan.exitedVolume)

theorem unitCostFloor_pos : (0 : Rat) < 1 / 1000000 := by decide +kernel

def costBasis (plan : ExitPlan) : Except String ExitCostBasisSnapshot :=
  let average : ExitCostBasisSnapshot :=
    { mode := .positionAverageSnapshot, unitCostCny := max plan.entryAvgPrice (1 / 1000000)
      basisVolume := max plan.entryFilledVolume 1, buyFeeTreatment := .estimated, costPolicy := plan.template.costs
      unitCost_pos := lt_max_of_lt_right unitCostFloor_pos, basisVolume_pos := lt_max_of_lt_right Int.one_pos }
  match plan.template.metadata.getD "cost_basis" .none with
  | .dict raw => if (PyVal.get raw "mode").truthy then ExitCostBasisSnapshot.ofFields raw else .ok average
  | _ => .ok average

def setStatus (plan : ExitPlan) (status : ExitPlanStatus) : ExitPlan := { plan with status }

def fail (plan : ExitPlan) (message : String) : ExitPlan := { plan with status := .error, errorMessage := message }

def bookEntryFill (plan : ExitPlan) (volume : Int) (price : Rat) : ExitPlan :=
  let total := plan.entryFilledVolume + volume
  { plan with
    entryAvgPrice := (plan.entryAvgPrice * plan.entryFilledVolume + price * volume) / total, entryFilledVolume := total
    status := match plan.status with
      | .pendingEntry => .active
      | .completed => if plan.exitedVolume ≠ 0 then .partiallyExited else .active
      | status => status }

def startHolding (plan : ExitPlan) (tradeDate : String) : ExitPlan :=
  { plan with entryTradeDate := tradeDate, lastHoldingTradeDate := tradeDate, holdingTradingDays := 1 }

def registerEntryFill (plan : ExitPlan) (volume : Int) (price : Rat) (tradeTime : Option DateTime) : ExitPlan :=
  if volume ≤ 0 ∨ price ≤ 0 then plan
  else match tradeTime with
    | none => plan.bookEntryFill volume price
    | some time =>
      if plan.entryTradeDate = "" then (plan.bookEntryFill volume price).startHolding time.isoDate
      else plan.bookEntryFill volume price

def applyTemplate (plan : ExitPlan) (template : ExitPlanTemplate) : Except String ExitPlan :=
  if template.planId ≠ plan.planId then .error "cannot replace an exit plan with a different plan_id"
  else .ok { plan with template }

def stickyErrorPrefixes : List String :=
  [ "ZERO_FILL_PROOF_INVALIDATED_AFTER_RELEASE:", "LATE_FILL_AFTER_RECONCILED_ZERO_FILL:",
    "EXIT_FILL_INTENT_MISMATCH:", "TERMINAL_CUMULATIVE_FILL_BEHIND_EXECUTIONS:",
    "ACCOUNT_WIDE_STALE_SELL:", "QUARANTINE_REPAIRED:" ]

/-- `value.startswith(prefixes)` for the sticky prefixes. -/
def isStickyError (value : String) : Bool :=
  stickyErrorPrefixes.any fun start => start.toList.isPrefixOf value.toList

/-- The sticky error of a plan in `error`, and the empty text for any other plan. -/
def reconciliationError (plan : ExitPlan) : String :=
  if plan.status = .error ∧ isStickyError plan.errorMessage then plan.errorMessage else ""

def restoreReconciliationError (plan : ExitPlan) (error : String) : ExitPlan :=
  if error ≠ "" then plan.fail error else plan

def fillIntentMismatchError (intentId currentIntentId : String) (lateAfterZeroFill : Bool) : String :=
  let incoming := if intentId = "" then "MISSING" else intentId
  let current := if currentIntentId = "" then "NONE" else currentIntentId
  if lateAfterZeroFill then "ZERO_FILL_PROOF_INVALIDATED_AFTER_RELEASE:" ++ incoming
  else "EXIT_FILL_INTENT_MISMATCH:" ++ incoming ++ ":CURRENT_PENDING:" ++ current

def rule? (plan : ExitPlan) (ruleId : String) : Option ExitRuleSpec :=
  plan.template.rules.find? fun rule => rule.ruleId = ruleId

def releasePending (plan : ExitPlan) : ExitPlan :=
  { plan with
    pendingIntentId := "", pendingOrderId := "", pendingRuleId := "", pendingRequestedVolume := 0
    pendingFilledVolume := 0, pendingOrderTerminal := false, pendingTerminalCumulativeFill := none }

def completeOnceRule (plan : ExitPlan) (ruleId : String) : ExitPlan :=
  if ruleId = "" then plan
  else
    let target := plan.ruleTargetVolumes.getD ruleId 0
    let filled := plan.ruleFilledVolumes.getD ruleId 0
    match plan.rule? ruleId with
    | some rule =>
      if rule.once ∧ filled ≥ target ∧ target > 0 ∧ rule.ruleId ∉ plan.completedRuleIds then
        { plan with completedRuleIds := plan.completedRuleIds ++ [rule.ruleId] }
      else plan
    | none => plan

def finalizePending (plan : ExitPlan) : ExitPlan :=
  let plan := if plan.pendingRuleId ≠ "" then plan.completeOnceRule plan.pendingRuleId else plan
  plan.releasePending.setStatus (if plan.remainingVolume ≤ 0 then .completed else .partiallyExited)

def terminalFillTargetReached (plan : ExitPlan) : Bool :=
  plan.pendingIntentId ≠ "" && plan.pendingOrderTerminal &&
    match plan.pendingTerminalCumulativeFill with
    | none => false
    | some target => target > 0 && plan.pendingFilledVolume = target

def rememberZeroFillIntent (plan : ExitPlan) (intentId : String) : ExitPlan :=
  if intentId ≠ "" ∧ intentId ∉ plan.reconciledZeroFillIntentIds then
    { plan with reconciledZeroFillIntentIds := plan.reconciledZeroFillIntentIds ++ [intentId] }
  else plan

/-- `_optional_non_negative_int`: a missing, boolean, fractional, unreadable or negative number is none. -/
def optionalNonNegativeInt (value : PyVal) : Option Int :=
  match value with
  | .none | .bool _ => none
  | .float q => if q.den = 1 ∧ q.num ≥ 0 then some q.num else none
  | value => match value.toInt with
    | .ok n => if n ≥ 0 then some n else none
    | .error _ => none

def holdTerminal (plan : ExitPlan) : ExitPlan := { plan with pendingOrderTerminal := true, status := .exitPending }

def setTerminalTarget (plan : ExitPlan) (target : Int) : ExitPlan :=
  { plan with pendingTerminalCumulativeFill := some target }

/-- The announced cumulative fill, unless missing or contradicting the executions, an earlier announcement or a filled
    order. -/
def terminalTarget? (plan : ExitPlan) (status : OrderReportStatus) (cumulativeFilledVolume : PyVal) : Option Int :=
  match optionalNonNegativeInt cumulativeFilledVolume with
  | none => none
  | some target =>
    if (status = .filled ∧ target = 0) ∨ target < max 0 plan.pendingFilledVolume ∨
        (plan.pendingTerminalCumulativeFill.any fun previous => target < previous) then none
    else some target

/-- A terminal order report only announces a cumulative fill. The pending intent is released when the executions account
    for exactly that positive fill. -/
def applyTerminalOrderEvent (plan : ExitPlan) (status : OrderReportStatus) (cumulativeFilledVolume : PyVal) : ExitPlan :=
  match plan.terminalTarget? status cumulativeFilledVolume with
  | none => plan.holdTerminal
  | some target =>
    if target > max 0 plan.pendingFilledVolume then plan.holdTerminal.setTerminalTarget target
    -- A terminal report of zero can still race a late execution.
    else if target = 0 then plan.holdTerminal.setTerminalTarget target
    else (plan.holdTerminal.setTerminalTarget target).finalizePending

def setOrderId (plan : ExitPlan) (orderId : String) : ExitPlan :=
  if orderId ≠ "" then { plan with pendingOrderId := orderId } else plan

def delayRetry (plan : ExitPlan) (timestampMs : Int) : ExitPlan :=
  { plan with retryAfterMs := max plan.retryAfterMs (timestampMs + 1000) }

def applyZeroFill (plan : ExitPlan) (event : OrderEvent) : ExitPlan :=
  let plan := (plan.rememberZeroFillIntent event.intentId).releasePending
  let plan := if event.riskActionDelay then plan.delayRetry event.timestampMs else plan
  plan.setStatus (if plan.exitedVolume > 0 then .partiallyExited else .active)

def applyPendingOrderEvent (plan : ExitPlan) (event : OrderEvent) : ExitPlan :=
  match event.status with
  | .pending | .submitted | .accepted | .partialFilled => plan.setStatus .exitPending
  | .reconciledZeroFill => plan.applyZeroFill event
  | .filled | .rejected | .cancelled | .expired =>
    plan.applyTerminalOrderEvent event.status event.cumulativeFilledVolume
  | _ => plan

def lateAfterZeroFill (plan : ExitPlan) (intentId : String) : Bool :=
  intentId ≠ "" && plan.reconciledZeroFillIntentIds.contains intentId

def applyOrderEvent (plan : ExitPlan) (event : OrderEvent) : ExitPlan :=
  let late := plan.lateAfterZeroFill event.intentId
  let mismatch := event.intentId ≠ "" && event.intentId ≠ plan.pendingIntentId
  if (late || mismatch) && event.status.provesWork then
    -- Evidence that a released intent did work burns the plan and leaves a newer pending intent alone.
    plan.fail (fillIntentMismatchError event.intentId plan.pendingIntentId late)
  else if plan.pendingIntentId = "" ∨ event.intentId ≠ plan.pendingIntentId then plan
  else ((plan.setOrderId event.orderId).applyPendingOrderEvent event).restoreReconciliationError plan.reconciliationError

/-! ## Executions -/

def matchesPending (plan : ExitPlan) (fill : ExitFill) : Bool :=
  plan.pendingIntentId ≠ "" && fill.intentId ≠ "" && fill.intentId = plan.pendingIntentId

def mismatchesPending (plan : ExitPlan) (fill : ExitFill) : Bool :=
  !plan.matchesPending fill && (plan.pendingIntentId ≠ "" || fill.intentId ≠ "")

def lateSafetyError (plan : ExitPlan) (fill : ExitFill) : String :=
  if plan.lateAfterZeroFill fill.intentId then
    "ZERO_FILL_PROOF_INVALIDATED_AFTER_RELEASE:" ++ fill.intentId
  else ""

def appliedVolume (plan : ExitPlan) (fill : ExitFill) : Int := min (max 0 fill.volume) plan.remainingVolume

def resolvedRuleId (plan : ExitPlan) (fill : ExitFill) : String :=
  if plan.matchesPending fill then (if fill.ruleId ≠ "" then fill.ruleId else plan.pendingRuleId) else ""

def bookExitFill (plan : ExitPlan) (fill : ExitFill) : ExitPlan :=
  let previous := plan.exitedVolume
  let applied := plan.appliedVolume fill
  let total := previous + applied
  let resolved := plan.resolvedRuleId fill
  { plan with
    exitAvgPrice := (plan.exitAvgPrice * previous + fill.price * applied) / total, exitedVolume := total
    pendingFilledVolume :=
      if plan.matchesPending fill then plan.pendingFilledVolume + applied else plan.pendingFilledVolume
    ruleFilledVolumes :=
      if resolved ≠ "" then plan.ruleFilledVolumes.set resolved (plan.ruleFilledVolumes.getD resolved 0 + applied)
      else plan.ruleFilledVolumes }

def mismatchError (plan : ExitPlan) (fill : ExitFill) : ExitPlan :=
  let late := plan.lateSafetyError fill
  plan.fail (if late ≠ "" then late else fillIntentMismatchError fill.intentId plan.pendingIntentId false)

def exceededTarget? (plan : ExitPlan) (isMatch : Bool) : Option Int :=
  match plan.pendingTerminalCumulativeFill with
  | some target =>
    if isMatch ∧ plan.pendingOrderTerminal ∧ plan.pendingFilledVolume > target then some target else none
  | none => none

def holdExceeded (plan : ExitPlan) (target : Int) : ExitPlan :=
  { plan with
    status := .exitPending
    errorMessage := "TERMINAL_CUMULATIVE_FILL_BEHIND_EXECUTIONS:" ++ toString target ++ "<" ++
      toString plan.pendingFilledVolume }

/-- The status after a booked fill. `before` is the plan that the fill was compared with. -/
def settleExitFill (plan before : ExitPlan) (fill : ExitFill) : ExitPlan :=
  let isMatch := before.matchesPending fill
  if before.mismatchesPending fill then plan.mismatchError fill
  else match plan.exceededTarget? isMatch with
    | some target => plan.holdExceeded target
    | none =>
      if isMatch ∧ plan.pendingOrderTerminal then
        -- The announced target is the release barrier, also when the whole position is gone.
        if plan.terminalFillTargetReached then plan.finalizePending else plan.setStatus .exitPending
      else if plan.remainingVolume ≤ 0 then plan.finalizePending
      else if ¬isMatch then (plan.completeOnceRule (before.resolvedRuleId fill)).setStatus .partiallyExited
      else plan.setStatus .exitPending

def applyExitFill (plan : ExitPlan) (fill : ExitFill) : ExitPlan :=
  if fill.volume ≤ 0 ∨ fill.price ≤ 0 then plan
  else
    let stickyError := plan.reconciliationError
    let late := plan.lateSafetyError fill
    if plan.appliedVolume fill ≤ 0 then
      if plan.mismatchesPending fill ∨ late ≠ "" then plan.mismatchError fill else plan
    else
      let settled := (plan.bookExitFill fill).settleExitFill plan fill
      if stickyError ≠ "" then settled.restoreReconciliationError stickyError
      else if late ≠ "" ∧ ¬plan.mismatchesPending fill then settled.fail late
      else settled

end ExitPlan
end QuantX
