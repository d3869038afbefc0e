import QuantX.Theorems.ExitPlan.Run

namespace QuantX
open Lib ExitPlan

structure RuleCall where
  rule : ExitRuleSpec
  plan : ExitPlan
  context : ExitEvaluationContext
  scratch : RuleScratch
  result : Except String ExitRuleMatch

def ExitRuleEvaluator.call (evaluator : ExitRuleEvaluator) (rule : ExitRuleSpec) (plan : ExitPlan) (context : ExitEvaluationContext) :
    RuleCall :=
  ⟨rule, plan, context, (evaluator rule plan context).1, (evaluator rule plan context).2⟩

namespace ExitPlan

/-- The calls of `matchRules`, in their order. One that raises is the last. -/
def ruleCalls (registry : ExitStrategyRegistry) (context : ExitEvaluationContext) : List ExitRuleSpec → ExitPlan → List RuleCall
  | [], _ => []
  | rule :: rules, plan =>
    if !rule.enabled || (rule.once && plan.completedRuleIds.contains rule.ruleId) then ruleCalls registry context rules plan
    else match registry rule.strategy with
      | none => []
      | some evaluator =>
        let call := ExitRuleEvaluator.call evaluator rule plan context
        call :: match call.result with
          | .error _ => []
          | .ok _ => ruleCalls registry context rules (plan.writeScratch call.scratch)

/-- The calls of `evaluate`. -/
def evaluationCalls (registry : ExitStrategyRegistry) (plan : ExitPlan) (context : ExitEvaluationContext) : List RuleCall :=
  if plan.status ≠ .active ∧ plan.status ≠ .partiallyExited then []
  else if plan.pendingIntentId ≠ "" ∨ plan.remainingVolume ≤ 0 then []
  else if context.currentPrice ≤ 0 ∧ context.bidPrice ≤ 0 ∧ ¬plan.hasManualTrigger then []
  else if context.timestampMs < plan.retryAfterMs then []
  else match plan.observe context with
    | (_, .error _) => []
    | (plan, .ok ()) => ruleCalls registry context plan.template.rules plan

def scratch (plan : ExitPlan) : RuleScratch := ⟨plan.ruleState, plan.trailingFloorPct⟩

variable {registry : ExitStrategyRegistry} {context : ExitEvaluationContext} {P : List RuleCall → RuleScratch → Prop}

theorem matchRules_calls {allowed : ExitRuleSpec → Prop}
    (hcall : ∀ rule evaluator plan calls, allowed rule → registry rule.strategy = some evaluator → P calls plan.scratch →
      P (ExitRuleEvaluator.call evaluator rule plan context :: calls) (evaluator rule plan context).1) :
    ∀ (rules : List ExitRuleSpec) (plan : ExitPlan) (calls : List RuleCall), (∀ rule ∈ rules, allowed rule) → P calls plan.scratch →
      P ((ruleCalls registry context rules plan).reverse ++ calls) (matchRules registry context rules plan).1.scratch := by
  intro rules
  induction rules with
  | nil => exact fun _ _ _ h => h
  | cons rule rules ih =>
    intro plan calls hallowed h
    rw [List.forall_mem_cons] at hallowed
    unfold ruleCalls matchRules
    split
    · exact ih plan calls hallowed.2 h
    · cases hevaluator : registry rule.strategy with
      | none => exact h
      | some evaluator =>
        have hafter := hcall rule evaluator plan calls hallowed.1 hevaluator h
        simp only
        cases hresult : (evaluator rule plan context).2 with
        | error error =>
          simp only [ExitRuleEvaluator.call, hresult] at hafter ⊢
          exact hafter
        | ok found =>
          have hrest := ih (plan.writeScratch (evaluator rule plan context).1) _ hallowed.2 hafter
          simp only [ExitRuleEvaluator.call, hresult, List.reverse_cons, List.append_assoc, List.singleton_append] at hrest ⊢
          exact hrest

theorem evaluate_calls {allowed : ExitRuleSpec → Prop} {plan : ExitPlan} (hrules : ∀ rule ∈ plan.template.rules, allowed rule)
    (hcall : ∀ rule evaluator plan calls, allowed rule → registry rule.strategy = some evaluator → P calls plan.scratch →
      P (ExitRuleEvaluator.call evaluator rule plan context :: calls) (evaluator rule plan context).1)
    {calls : List RuleCall} (h : P calls plan.scratch) :
    P ((evaluationCalls registry plan context).reverse ++ calls) (plan.evaluate registry context).1.scratch := by
  have hscratch := observe_view scratch (fun _ _ _ _ _ _ _ _ _ => rfl) plan context
  have htemplate := observe_template plan context
  unfold evaluationCalls evaluate
  split
  · exact h
  split
  · exact h
  split
  · exact h
  split
  · exact h
  rcases hobserved : plan.observe context with ⟨observed, _ | answered⟩
  · rw [hobserved] at hscratch
    have hsame : observed.scratch = plan.scratch := hscratch
    rw [← hsame] at h
    exact h
  · rw [hobserved] at hscratch htemplate
    have hsame : observed.scratch = plan.scratch := hscratch
    have hkept : observed.template = plan.template := htemplate
    rw [← hkept] at hrules
    rw [← hsame] at h
    have hmatched := matchRules_calls hcall observed.template.rules observed calls hrules h
    rcases hresult : matchRules registry context observed.template.rules observed with ⟨matched, _ | found⟩
    · rw [hresult] at hmatched
      simp only [hresult]
      exact hmatched
    · rw [hresult] at hmatched
      simp only [hresult]
      split
      · exact hmatched
      · split
        · exact hmatched
        · exact hmatched

section Kept
variable (plan : ExitPlan)

theorem completeOnceRule_scratch (ruleId : String) : (plan.completeOnceRule ruleId).scratch = plan.scratch := by
  unfold completeOnceRule
  simp only
  split_ifs
  · rfl
  · split
    · split_ifs
      · rfl
      · rfl
    · rfl

theorem restoreReconciliationError_scratch (error : String) : (plan.restoreReconciliationError error).scratch = plan.scratch := by
  unfold restoreReconciliationError
  split
  · rfl
  · rfl

theorem finalizePending_scratch : plan.finalizePending.scratch = plan.scratch := by
  have hrule : (if plan.pendingRuleId ≠ "" then plan.completeOnceRule plan.pendingRuleId else plan).scratch = plan.scratch := by
    split
    · exact completeOnceRule_scratch plan _
    · rfl
  exact hrule

theorem applyTerminalOrderEvent_scratch (status : OrderReportStatus) (cumulative : PyVal) :
    (plan.applyTerminalOrderEvent status cumulative).scratch = plan.scratch := by
  unfold applyTerminalOrderEvent
  split
  · rfl
  · split_ifs
    · rfl
    · rfl
    · exact finalizePending_scratch _

theorem setOrderId_scratch (orderId : String) : (plan.setOrderId orderId).scratch = plan.scratch := by
  unfold setOrderId
  split
  · rfl
  · rfl

theorem applyZeroFill_scratch (event : OrderEvent) : (plan.applyZeroFill event).scratch = plan.scratch := by
  unfold applyZeroFill rememberZeroFillIntent
  simp only
  split_ifs
  all_goals rfl

theorem applyOrderEvent_scratch (event : OrderEvent) : (plan.applyOrderEvent event).scratch = plan.scratch := by
  have hid := setOrderId_scratch plan event.orderId
  have hpending : ((plan.setOrderId event.orderId).applyPendingOrderEvent event).scratch = plan.scratch := by
    unfold applyPendingOrderEvent
    split
    case h_5 => exact (applyZeroFill_scratch _ _).trans hid
    case h_6 | h_7 | h_8 | h_9 => exact (applyTerminalOrderEvent_scratch _ _ _).trans hid
    all_goals exact hid
  unfold applyOrderEvent
  simp only
  split
  · rfl
  · split
    · rfl
    · exact (restoreReconciliationError_scratch _ _).trans hpending

theorem settleExitFill_scratch (before : ExitPlan) (fill : ExitFill) : (plan.settleExitFill before fill).scratch = plan.scratch := by
  unfold settleExitFill
  simp only
  split
  · rfl
  · split
    · rfl
    · split_ifs
      · exact finalizePending_scratch _
      · rfl
      · exact finalizePending_scratch _
      · rfl
      · exact completeOnceRule_scratch _ _

theorem applyExitFill_scratch (fill : ExitFill) : (plan.applyExitFill fill).scratch = plan.scratch := by
  have hsettled : ((plan.bookExitFill fill).settleExitFill plan fill).scratch = plan.scratch := settleExitFill_scratch _ plan fill
  unfold applyExitFill
  simp only
  split_ifs
  · rfl
  · rfl
  · rfl
  · exact (restoreReconciliationError_scratch _ _).trans hsettled
  · exact hsettled
  · exact hsettled

theorem registerEntryFill_scratch (volume : Int) (price : Rat) (time : Option DateTime) :
    (plan.registerEntryFill volume price time).scratch = plan.scratch := by
  unfold registerEntryFill
  split
  · rfl
  · split
    · rfl
    · split
      · rfl
      · rfl

variable {plan} {next : ExitPlan}

theorem applyTemplate_eq {template : ExitPlanTemplate} (h : plan.applyTemplate template = .ok next) :
    next = { plan with template } := by
  unfold applyTemplate at h
  split at h
  · cases h
  · exact (Except.ok.inj h).symm

theorem markIntent_scratch {decision : ExitDecision} {intentId : String} (h : plan.markIntent decision intentId = .ok next) :
    next.scratch = plan.scratch := by
  have hstart : ((plan.openIntent decision intentId).startOnceRule decision).scratch = plan.scratch := by
    unfold startOnceRule
    split
    · split
      · rfl
      · rfl
    · rfl
  unfold markIntent at h
  split at h
  · cases h
  · rw [← Except.ok.inj h]
    exact hstart

end Kept

/-! ### Runs of one plan -/

end ExitPlan

inductive PlanOp where
  | evaluate (context : ExitEvaluationContext)
  | registerEntryFill (volume : Int) (price : Rat) (tradeTime : Option DateTime)
  | applyTemplate (template : ExitPlanTemplate)
  | setStatus (status : ExitPlanStatus) (errorMessage : String)
  | markIntent (decision : ExitDecision) (intentId : String)
  | applyOrderEvent (event : OrderEvent)
  | applyExitFill (fill : ExitFill)

namespace ExitPlan

def orElse (plan : ExitPlan) : Except String ExitPlan → ExitPlan
  | .ok next => next
  | .error _ => plan

def take (registry : ExitStrategyRegistry) (plan : ExitPlan) : PlanOp → ExitPlan
  | .evaluate context => (plan.evaluate registry context).1
  | .registerEntryFill volume price tradeTime => plan.registerEntryFill volume price tradeTime
  | .applyTemplate template => plan.orElse (plan.applyTemplate template)
  | .setStatus status errorMessage => { plan with status, errorMessage }
  | .markIntent decision intentId => plan.orElse (plan.markIntent decision intentId)
  | .applyOrderEvent event => plan.applyOrderEvent event
  | .applyExitFill fill => plan.applyExitFill fill

abbrev PlanMoment : Type := Moment ExitPlan PlanOp

def callsOf (registry : ExitStrategyRegistry) (plan : ExitPlan) : PlanOp → List RuleCall
  | .evaluate context => evaluationCalls registry plan context
  | _ => []

def callLog (registry : ExitStrategyRegistry) (log : List PlanMoment) : List RuleCall :=
  log.flatMap fun m => (callsOf registry m.before m.op).reverse

theorem take_scratch (registry : ExitStrategyRegistry) (plan : ExitPlan) {op : PlanOp} (hop : ∀ context, op ≠ .evaluate context) :
    (plan.take registry op).scratch = plan.scratch ∧ callsOf registry plan op = [] := by
  cases op with
  | evaluate context => exact absurd rfl (hop context)
  | registerEntryFill => exact ⟨registerEntryFill_scratch plan _ _ _, rfl⟩
  | applyTemplate template =>
    refine ⟨?_, rfl⟩
    unfold take
    simp only
    cases happly : plan.applyTemplate template with
    | error => rfl
    | ok next =>
      rw [applyTemplate_eq happly]
      rfl
  | setStatus => exact ⟨rfl, rfl⟩
  | markIntent decision intentId =>
    refine ⟨?_, rfl⟩
    unfold take
    simp only
    cases hmark : plan.markIntent decision intentId with
    | error => rfl
    | ok next => exact markIntent_scratch hmark
  | applyOrderEvent event => exact ⟨applyOrderEvent_scratch plan event, rfl⟩
  | applyExitFill fill => exact ⟨applyExitFill_scratch plan fill, rfl⟩

theorem take_template (plan : ExitPlan) (op : PlanOp) : (plan.take registry op).template = plan.template ∨
    ∃ template, op = .applyTemplate template ∧ (plan.take registry op).template = template := by
  cases op with
  | evaluate context => exact .inl (evaluate_template registry plan context)
  | registerEntryFill => exact .inl (registerEntryFill_template plan _ _ _)
  | applyTemplate template =>
    unfold take
    simp only
    cases happly : plan.applyTemplate template with
    | error => exact .inl rfl
    | ok next => exact .inr ⟨template, rfl, by rw [applyTemplate_eq happly]; rfl⟩
  | setStatus => exact .inl rfl
  | markIntent decision intentId =>
    unfold take
    simp only
    cases hmark : plan.markIntent decision intentId with
    | error => exact .inl rfl
    | ok next => exact .inl (markIntent_sameEntry hmark).template
  | applyOrderEvent event => exact .inl (applyOrderEvent_sameEntry plan event).template
  | applyExitFill fill => exact .inl (applyExitFill_sameEntry plan fill).template

end ExitPlan
end QuantX
