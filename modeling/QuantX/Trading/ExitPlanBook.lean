import QuantX.Trading.ExitPlanState

/-! # Evaluation and the plan book

`ExitPlanEvaluator` and `ExitPlanBook`. An evaluation that raises leaves the observations made so far on the plan. -/

namespace QuantX
open Lib

namespace ExitPlan

def observePrice (plan : ExitPlan) (context : ExitEvaluationContext) (price : Rat) : ExitPlan :=
  { plan with
    lastPrice := price, peakPrice := max plan.peakPrice price, lastEvaluatedAt := context.timestamp.isoformat }

def observeDay (plan : ExitPlan) (tradeDate : String) : ExitPlan :=
  if plan.entryTradeDate = "" then plan.startHolding tradeDate
  else if plan.lastHoldingTradeDate < tradeDate then
    { plan with lastHoldingTradeDate := tradeDate, holdingTradingDays := plan.holdingTradingDays + 1 }
  else plan

def observeProfit (plan : ExitPlan) (net : Rat) : ExitPlan :=
  { plan with lastNetProfitPct := net, peakNetProfitPct := max plan.peakNetProfitPct net }

def referencePrice (plan : ExitPlan) (context : ExitEvaluationContext) : Rat :=
  match plan.template.execution.priceReference with
  | .bid => if context.bidPrice ≠ 0 then context.bidPrice else context.currentPrice
  | .ask => if context.askPrice ≠ 0 then context.askPrice else context.currentPrice
  | .last => context.currentPrice

/-- Record the observed price, the holding day and the net profit. An invalid cost basis raises after price and day are
    recorded. -/
def observe (plan : ExitPlan) (context : ExitEvaluationContext) : ExitPlan × Except String Unit :=
  let price := plan.referencePrice context
  if price ≤ 0 then (plan, .ok ())
  else
    let plan := (plan.observePrice context price).observeDay context.tradeDate
    match plan.costBasis with
    | .error e => (plan, .error e)
    | .ok basis =>
      let net := estimateNetProfitPct basis.unitCostCny price plan.remainingVolume basis.costPolicy
        basis.includesBuyFees
      (plan.observeProfit net, .ok ())

def hasManualTrigger (plan : ExitPlan) : Bool :=
  plan.template.rules.any fun rule => rule.enabled && rule.strategy = "MANUAL_TRIGGER"

def writeScratch (plan : ExitPlan) (scratch : RuleScratch) : ExitPlan :=
  { plan with ruleState := scratch.ruleState, trailingFloorPct := scratch.trailingFloorPct }

/-- Ask the evaluators of the enabled, uncompleted rules in template order, each on the scratch state that earlier ones
    left. -/
def matchRules (registry : ExitStrategyRegistry) (context : ExitEvaluationContext) :
    List ExitRuleSpec → ExitPlan → ExitPlan × Except String (List (ExitRuleSpec × ExitRuleMatch))
  | [], plan => (plan, .ok [])
  | rule :: rules, plan =>
    if !rule.enabled || (rule.once && plan.completedRuleIds.contains rule.ruleId) then
      matchRules registry context rules plan
    else match registry rule.strategy with
      | none => (plan, .error ("exit strategy is not registered: " ++ rule.strategy))
      | some evaluator =>
        let (scratch, result) := evaluator rule plan context
        let plan := plan.writeScratch scratch
        match result with
        | .error e => (plan, .error e)
        | .ok found =>
          let (plan, rest) := matchRules registry context rules plan
          (plan, rest.map fun rest => if found.triggered then (rule, found) :: rest else rest)

def bestMatch : List (ExitRuleSpec × ExitRuleMatch) → Option (ExitRuleSpec × ExitRuleMatch)
  | [] => none
  | first :: rest => some (rest.foldl (fun best item =>
      if best.1.priority < item.1.priority ∨
          (best.1.priority = item.1.priority ∧ best.1.ruleId < item.1.ruleId) then item else best) first)

def decisionVolume (plan : ExitPlan) (rule : ExitRuleSpec) : Int :=
  if rule.once ∧ plan.ruleTargetVolumes.contains rule.ruleId then
    min plan.remainingVolume
      (max 0 (plan.ruleTargetVolumes.getD rule.ruleId 0 - plan.ruleFilledVolumes.getD rule.ruleId 0))
  else rule.sizing.calculate plan.remainingVolume

def decisionMetrics (plan : ExitPlan) (context : ExitEvaluationContext) (found : ExitRuleMatch) : Dict String PyVal :=
  (Dict.ofList [
    ("current_price", .float context.currentPrice),
    ("profit_reference", .str plan.template.execution.priceReference.value),
    ("profit_reference_price", .float plan.lastPrice),
    ("last_net_profit_pct", .float plan.lastNetProfitPct),
    ("peak_net_profit_pct", .float plan.peakNetProfitPct),
    ("trailing_floor_pct", (plan.trailingFloorPct.map PyVal.float).getD .none),
    ("holding_trading_days", .int plan.holdingTradingDays)]).update found.metrics.entries

def evaluate (registry : ExitStrategyRegistry) (plan : ExitPlan) (context : ExitEvaluationContext) :
    ExitPlan × Except String (Option ExitDecision) :=
  if plan.status ≠ .active ∧ plan.status ≠ .partiallyExited then (plan, .ok none)
  else if plan.pendingIntentId ≠ "" ∨ plan.remainingVolume ≤ 0 then (plan, .ok none)
  else if context.currentPrice ≤ 0 ∧ context.bidPrice ≤ 0 ∧ ¬plan.hasManualTrigger then (plan, .ok none)
  else if context.timestampMs < plan.retryAfterMs then (plan, .ok none)
  else match plan.observe context with
    | (plan, .error e) => (plan, .error e)
    | (plan, .ok ()) => match matchRules registry context plan.template.rules plan with
      | (plan, .error e) => (plan, .error e)
      | (plan, .ok found) => match bestMatch found with
        | none => (plan, .ok none)
        | some (rule, found) =>
          let volume := plan.decisionVolume rule
          if volume ≤ 0 then (plan, .ok none)
          else (plan, .ok (some {
            planId := plan.planId, ruleId := rule.ruleId, ruleType := rule.strategy
            reason := if found.reason ≠ "" then found.reason else rule.strategy, volume
            priority := rule.priority, metrics := plan.decisionMetrics context found }))

def openIntent (plan : ExitPlan) (decision : ExitDecision) (intentId : String) : ExitPlan :=
  { plan with
    pendingIntentId := intentId, pendingRuleId := decision.ruleId, pendingRequestedVolume := decision.volume
    pendingFilledVolume := 0, pendingOrderTerminal := false, pendingTerminalCumulativeFill := none }

def startOnceRule (plan : ExitPlan) (decision : ExitDecision) : ExitPlan :=
  match plan.rule? decision.ruleId with
  | some rule =>
    if rule.once ∧ ¬plan.ruleTargetVolumes.contains rule.ruleId then
      { plan with
        ruleTargetVolumes := plan.ruleTargetVolumes.set rule.ruleId decision.volume
        ruleFilledVolumes := plan.ruleFilledVolumes.setdefault rule.ruleId 0 }
    else plan
  | none => plan

/-- `mark_intent` on the plan of the decision. -/
def markIntent (plan : ExitPlan) (decision : ExitDecision) (intentId : String) : Except String ExitPlan :=
  if intentId ∈ plan.reconciledZeroFillIntentIds then .error "cannot reuse an intent proven to have zero execution"
  else
    let plan := (plan.openIntent decision intentId).startOnceRule decision
    .ok { plan with lastExitReason := decision.reason, status := .exitPending }

/-! ## What an operation leaves of the entry position -/

structure SameEntry (plan next : ExitPlan) : Prop where
  template : next.template = plan.template
  entry : next.entryFilledVolume = plan.entryFilledVolume

theorem SameEntry.refl (plan : ExitPlan) : SameEntry plan plan := ⟨rfl, rfl⟩

theorem SameEntry.trans {plan next last : ExitPlan} (h₁ : SameEntry plan next) (h₂ : SameEntry next last) :
    SameEntry plan last :=
  ⟨h₂.template.trans h₁.template, h₂.entry.trans h₁.entry⟩

theorem completeOnceRule_sameEntry (plan : ExitPlan) (ruleId : String) : SameEntry plan (plan.completeOnceRule ruleId) := by
  unfold completeOnceRule
  simp only
  split_ifs
  · exact .refl plan
  · split
    · split <;> exact ⟨rfl, rfl⟩
    · exact .refl plan

theorem restoreReconciliationError_sameEntry (plan : ExitPlan) (error : String) :
    SameEntry plan (plan.restoreReconciliationError error) := by
  unfold restoreReconciliationError
  split <;> exact ⟨rfl, rfl⟩

theorem finalizePending_sameEntry (plan : ExitPlan) : SameEntry plan plan.finalizePending := by
  have hrule : SameEntry plan (if plan.pendingRuleId ≠ "" then plan.completeOnceRule plan.pendingRuleId else plan) := by
    split
    · exact completeOnceRule_sameEntry plan _
    · exact .refl plan
  exact hrule.trans ⟨rfl, rfl⟩

theorem applyTerminalOrderEvent_sameEntry (plan : ExitPlan) (status : OrderReportStatus) (cumulative : PyVal) :
    SameEntry plan (plan.applyTerminalOrderEvent status cumulative) := by
  unfold applyTerminalOrderEvent
  split
  · exact ⟨rfl, rfl⟩
  · split_ifs
    · exact ⟨rfl, rfl⟩
    · exact ⟨rfl, rfl⟩
    · rename_i target _ _ _
      have htarget : SameEntry plan (plan.holdTerminal.setTerminalTarget target) := ⟨rfl, rfl⟩
      exact htarget.trans (finalizePending_sameEntry _)

theorem setOrderId_sameEntry (plan : ExitPlan) (orderId : String) : SameEntry plan (plan.setOrderId orderId) := by
  unfold setOrderId
  split <;> exact ⟨rfl, rfl⟩

theorem applyZeroFill_sameEntry (plan : ExitPlan) (event : OrderEvent) : SameEntry plan (plan.applyZeroFill event) := by
  unfold applyZeroFill rememberZeroFillIntent
  simp only
  split_ifs <;> exact ⟨rfl, rfl⟩

theorem applyOrderEvent_sameEntry (plan : ExitPlan) (event : OrderEvent) : SameEntry plan (plan.applyOrderEvent event) := by
  have hid := setOrderId_sameEntry plan event.orderId
  unfold applyOrderEvent
  simp only
  split_ifs
  · exact ⟨rfl, rfl⟩
  · exact .refl plan
  · refine .trans ?_ (restoreReconciliationError_sameEntry _ _)
    unfold applyPendingOrderEvent
    split <;> first
      | exact hid
      | exact hid.trans ⟨rfl, rfl⟩
      | exact hid.trans (applyZeroFill_sameEntry _ _)
      | exact hid.trans (applyTerminalOrderEvent_sameEntry _ _ _)

theorem settleExitFill_sameEntry (plan before : ExitPlan) (fill : ExitFill) :
    SameEntry plan (plan.settleExitFill before fill) := by
  unfold settleExitFill
  simp only
  split
  · exact ⟨rfl, rfl⟩
  · split
    · exact ⟨rfl, rfl⟩
    · split_ifs <;> first
        | exact ⟨rfl, rfl⟩
        | exact finalizePending_sameEntry _
        | exact (completeOnceRule_sameEntry _ _).trans ⟨rfl, rfl⟩

theorem applyExitFill_sameEntry (plan : ExitPlan) (fill : ExitFill) : SameEntry plan (plan.applyExitFill fill) := by
  have hbook : SameEntry plan (plan.bookExitFill fill) := ⟨rfl, rfl⟩
  have hs := hbook.trans (settleExitFill_sameEntry _ plan fill)
  unfold applyExitFill
  simp only
  split_ifs
  · exact .refl plan
  · exact ⟨rfl, rfl⟩
  · exact .refl plan
  · exact hs.trans (restoreReconciliationError_sameEntry _ _)
  · exact hs.trans ⟨rfl, rfl⟩
  · exact hs

theorem registerEntryFill_template (plan : ExitPlan) (volume : Int) (price : Rat) (time : Option DateTime) :
    (plan.registerEntryFill volume price time).template = plan.template := by
  unfold registerEntryFill
  split
  · rfl
  · split
    · rfl
    · split <;> rfl

theorem observe_view {α : Type} (view : ExitPlan → α)
    (h : ∀ (plan : ExitPlan) last peak evaluated entry holding days net peakNet, view { plan with
      lastPrice := last, peakPrice := peak, lastEvaluatedAt := evaluated, entryTradeDate := entry
      lastHoldingTradeDate := holding, holdingTradingDays := days, lastNetProfitPct := net
      peakNetProfitPct := peakNet } = view plan)
    (plan : ExitPlan) (context : ExitEvaluationContext) : view (plan.observe context).1 = view plan := by
  have hday : ∀ (plan : ExitPlan) (date : String), view (plan.observeDay date) = view plan := by
    intro plan date
    unfold observeDay
    split_ifs
    · exact h _ _ _ _ _ _ _ _ _
    · exact h _ _ _ _ _ _ _ _ _
    · rfl
  unfold observe
  simp only
  split_ifs
  · rfl
  have hprice : view ((plan.observePrice context (plan.referencePrice context)).observeDay context.tradeDate) = view plan :=
    (hday _ _).trans (h _ _ _ _ _ _ _ _ _)
  split
  · exact hprice
  · exact (h _ _ _ _ _ _ _ _ _).trans hprice

theorem observe_template (plan : ExitPlan) (context : ExitEvaluationContext) : (plan.observe context).1.template = plan.template :=
  observe_view template (fun _ _ _ _ _ _ _ _ _ => rfl) plan context

theorem matchRules_view {α : Type} (view : ExitPlan → α) (h : ∀ plan scratch, view (writeScratch plan scratch) = view plan)
    (registry : ExitStrategyRegistry) (context : ExitEvaluationContext) (rules : List ExitRuleSpec) :
    ∀ plan : ExitPlan, view (matchRules registry context rules plan).1 = view plan := by
  induction rules with
  | nil => exact fun _ => rfl
  | cons rule rules ih =>
    intro plan
    unfold matchRules
    split
    · exact ih plan
    · split
      · rfl
      · simp only
        split
        · exact h _ _
        · exact (ih _).trans (h _ _)

theorem matchRules_template (registry : ExitStrategyRegistry) (context : ExitEvaluationContext) (rules : List ExitRuleSpec)
    (plan : ExitPlan) : (matchRules registry context rules plan).1.template = plan.template :=
  matchRules_view template (fun _ _ => rfl) registry context rules plan

theorem evaluate_template (registry : ExitStrategyRegistry) (plan : ExitPlan) (context : ExitEvaluationContext) :
    (plan.evaluate registry context).1.template = plan.template := by
  have hobserve := observe_template plan context
  unfold evaluate
  split
  · rfl
  split
  · rfl
  split
  · rfl
  split
  · rfl
  split
  · rename_i observed _ heq
    rw [heq] at hobserve
    exact hobserve
  · rename_i observed heq
    rw [heq] at hobserve
    have hrules := matchRules_template registry context observed.template.rules observed
    split
    · rename_i heq
      rw [heq] at hrules
      exact hrules.trans hobserve
    · rename_i heq
      rw [heq] at hrules
      split
      · exact hrules.trans hobserve
      · simp only
        split <;> exact hrules.trans hobserve

theorem markIntent_sameEntry {plan next : ExitPlan} {decision : ExitDecision} {intentId : String}
    (h : plan.markIntent decision intentId = .ok next) : SameEntry plan next := by
  unfold markIntent at h
  split at h
  · cases h
  · cases h
    have hstart : SameEntry plan ((plan.openIntent decision intentId).startOnceRule decision) := by
      unfold startOnceRule
      split
      · split <;> exact ⟨rfl, rfl⟩
      · exact ⟨rfl, rfl⟩
    exact hstart.trans ⟨rfl, rfl⟩

theorem applyTemplate_planId {plan next : ExitPlan} {template : ExitPlanTemplate}
    (h : plan.applyTemplate template = .ok next) : next.planId = plan.planId := by
  unfold applyTemplate at h
  split at h
  · cases h
  · rename_i heq
    cases h
    exact not_not.mp heq

end ExitPlan

/-! ## The book -/

structure ExitPlanBook where
  plans : Dict String ExitPlan
  keyed : ∀ {id : String} {plan : ExitPlan}, plans.get? id = some plan → plan.planId = id

namespace ExitPlanBook

def empty : ExitPlanBook := ⟨.empty, fun h => by cases h⟩

def put (book : ExitPlanBook) (plan : ExitPlan) : ExitPlanBook where
  plans := book.plans.set plan.planId plan
  keyed := fun {id p} h => by
    rw [Dict.get?_set] at h
    split at h
    · rename_i hid
      cases h
      exact hid
    · exact book.keyed h

def onPlan (book : ExitPlanBook) (id : String) (op : ExitPlan → ExitPlan) (hop : ∀ plan, (op plan).template = plan.template) :
    ExitPlanBook where
  plans := book.plans.modify id op
  keyed := fun {id' p} h => by
    rw [Dict.get?_modify] at h
    split at h
    · rename_i hid
      obtain ⟨plan, hplan, rfl⟩ := Option.map_eq_some_iff.mp h
      rw [ExitPlan.planId, hop]
      exact (book.keyed hplan).trans hid
    · exact book.keyed h

def registerEntryFill (book : ExitPlanBook) (template : ExitPlanTemplate) (volume : Int) (price : Rat)
    (tradeTime : Option DateTime) : Except String ExitPlanBook := do
  let plan ← match book.plans.get? template.planId with
    | none => .ok { template := template }
    | some plan => if template.configVersion ≥ plan.template.configVersion then plan.applyTemplate template else .ok plan
  return book.put (plan.registerEntryFill volume price tradeTime)

def applyCommand (book : ExitPlanBook) (command : ExitPlanCommand) : Except String ExitPlanBook :=
  match book.plans.get? command.planId, command.command, command.template with
  | none, _, _ => .ok book
  | some _, .upsertPolicy, none => .ok book
  | some plan, .upsertPolicy, some template =>
    if template.configVersion ≥ plan.template.configVersion then (plan.applyTemplate template).map book.put
    else .ok book
  | some plan, .pause, _ => .ok (book.put (plan.setStatus .paused))
  | some plan, .resume, _ =>
    if plan.reconciliationError ≠ "" then .error "EXIT_PLAN_RECONCILIATION_REQUIRED:退出计划必须先完成券商事实对账"
    else if plan.remainingVolume > 0 then .ok (book.put (plan.setStatus .active))
    else .ok book
  | some plan, .cancel, _ => .ok (book.put { plan with status := .cancelled, errorMessage := command.reason })

def evaluatePlans (registry : ExitStrategyRegistry) (instrumentCode : String) (context : ExitEvaluationContext) :
    List (String × ExitPlan) → List (String × ExitPlan) × Except String (List ExitDecision)
  | [] => ([], .ok [])
  | (id, plan) :: rest =>
    if plan.template.instrumentCode ≠ instrumentCode then
      let (rest, decisions) := evaluatePlans registry instrumentCode context rest
      ((id, plan) :: rest, decisions)
    else match plan.evaluate registry context with
      | (plan, .error e) => ((id, plan) :: rest, .error e)
      | (plan, .ok decision) =>
        let (rest, decisions) := evaluatePlans registry instrumentCode context rest
        ((id, plan) :: rest, decisions.map fun decisions => decision.toList ++ decisions)

theorem evaluatePlans_keys (registry : ExitStrategyRegistry) (code : String) (context : ExitEvaluationContext) :
    ∀ l : List (String × ExitPlan), (evaluatePlans registry code context l).1.map Prod.fst = l.map Prod.fst
  | [] => rfl
  | (id, plan) :: rest => by
    have ih := evaluatePlans_keys registry code context rest
    unfold evaluatePlans
    split
    · simp [ih]
    · split <;> simp [ih]

theorem evaluatePlans_lookup (registry : ExitStrategyRegistry) (code : String) (context : ExitEvaluationContext)
    {id : String} {next : ExitPlan} : ∀ {l : List (String × ExitPlan)},
    Dict.lookup id (evaluatePlans registry code context l).1 = some next →
    ∃ plan, Dict.lookup id l = some plan ∧ (next = plan ∨ next = (plan.evaluate registry context).1)
  | [], h => by cases h
  | (key, plan) :: rest, h => by
    have ih := @evaluatePlans_lookup registry code context id next rest
    unfold evaluatePlans at h
    split at h
    · simp only [Dict.lookup] at h ⊢
      split at h
      · rename_i hid
        exact ⟨plan, by rw [if_pos hid], Or.inl (Option.some.inj h).symm⟩
      · rename_i hid
        rw [if_neg hid]
        exact ih h
    · split at h
      · rename_i heq
        simp only [Dict.lookup] at h ⊢
        split at h
        · rename_i hid
          exact ⟨plan, by rw [if_pos hid], Or.inr (by rw [heq]; exact (Option.some.inj h).symm)⟩
        · rename_i hid
          exact ⟨next, by rw [if_neg hid]; exact h, Or.inl rfl⟩
      · rename_i heq
        simp only [Dict.lookup] at h ⊢
        split at h
        · rename_i hid
          exact ⟨plan, by rw [if_pos hid], Or.inr (by rw [heq]; exact (Option.some.inj h).symm)⟩
        · rename_i hid
          rw [if_neg hid]
          exact ih h

def evaluate (book : ExitPlanBook) (registry : ExitStrategyRegistry) (instrumentCode : String)
    (context : ExitEvaluationContext) : ExitPlanBook × Except String (List ExitDecision) :=
  let result := evaluatePlans registry instrumentCode context book.plans.entries
  let plans : Dict String ExitPlan := ⟨result.1, by rw [evaluatePlans_keys]; exact book.plans.nodup⟩
  (⟨plans, fun {id next} h => by
      obtain ⟨plan, hplan, rfl | rfl⟩ := evaluatePlans_lookup registry instrumentCode context h
      · exact book.keyed hplan
      · rw [ExitPlan.planId, ExitPlan.evaluate_template]
        exact book.keyed hplan⟩,
    result.2.map fun decisions => decisions.insertionSort fun a b => b.priority ≤ a.priority)

def markIntent (book : ExitPlanBook) (decision : ExitDecision) (intentId : String) : Except String ExitPlanBook :=
  match book.plans.get? decision.planId with
  | none => .ok book
  | some plan => (plan.markIntent decision intentId).map book.put

def applyOrderEvent (book : ExitPlanBook) (event : OrderEvent) : ExitPlanBook :=
  book.onPlan event.planId (·.applyOrderEvent event) fun plan => (plan.applyOrderEvent_sameEntry event).template

def applyExitFill (book : ExitPlanBook) (fill : ExitFill) : ExitPlanBook :=
  book.onPlan fill.planId (·.applyExitFill fill) fun plan => (plan.applyExitFill_sameEntry fill).template

end ExitPlanBook
end QuantX
