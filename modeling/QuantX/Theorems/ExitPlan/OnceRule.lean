import QuantX.Theorems.ExitPlan.Selection
import QuantX.Theorems.ExitPlan.Volume

namespace QuantX
open Lib ExitPlan

namespace ExitPlan

/-- The rules' volumes, and the rule of the pending intent. A new plan has the default view. -/
structure RuleView where
  intent : String := ""
  rule : String := ""
  requested : Int := 0
  filled : Int := 0
  targets : Dict String Int := .empty
  fills : Dict String Int := .empty

def ruleView (plan : ExitPlan) : RuleView :=
  ⟨plan.pendingIntentId, plan.pendingRuleId, plan.pendingRequestedVolume, plan.pendingFilledVolume, plan.ruleTargetVolumes,
    plan.ruleFilledVolumes⟩

def RuleView.release (v : RuleView) : RuleView := { targets := v.targets, fills := v.fills }

def RulesKept (plan next : ExitPlan) : Prop := next.ruleView = plan.ruleView ∨ next.ruleView = plan.ruleView.release

namespace RulesKept
variable {plan next last : ExitPlan}

theorem refl (plan : ExitPlan) : RulesKept plan plan := .inl rfl

theorem trans (h : RulesKept plan next) (h' : RulesKept next last) : RulesKept plan last := by
  rcases h with h | h
  · rw [RulesKept, h] at h'
    exact h'
  · rcases h' with h' | h'
    · exact .inr (h'.trans h)
    · exact .inr (h'.trans (by rw [h]; rfl))

theorem restore (plan : ExitPlan) (error : String) : RulesKept plan (plan.restoreReconciliationError error) := by
  unfold restoreReconciliationError
  split
  · exact .inl rfl
  · exact .inl rfl

theorem setOrderId (plan : ExitPlan) (orderId : String) : RulesKept plan (plan.setOrderId orderId) := by
  unfold ExitPlan.setOrderId
  split
  · exact .inl rfl
  · exact .inl rfl

theorem registerEntryFill (plan : ExitPlan) (volume : Int) (price : Rat) (time : Option DateTime) :
    RulesKept plan (plan.registerEntryFill volume price time) := by
  unfold ExitPlan.registerEntryFill
  split
  · exact .inl rfl
  · split
    · exact .inl rfl
    · split
      · exact .inl rfl
      · exact .inl rfl

theorem applyTemplate {template : ExitPlanTemplate} (h : plan.applyTemplate template = .ok next) : RulesKept plan next := by
  unfold ExitPlan.applyTemplate at h
  split at h
  · cases h
  · cases h
    exact .inl rfl

theorem completeOnceRule (plan : ExitPlan) (ruleId : String) : RulesKept plan (plan.completeOnceRule ruleId) := by
  unfold ExitPlan.completeOnceRule
  split
  · exact .inl rfl
  · simp only
    split
    · split
      · exact .inl rfl
      · exact .inl rfl
    · exact .inl rfl

theorem finalizePending (plan : ExitPlan) : RulesKept plan plan.finalizePending := by
  have hrule : RulesKept plan (if plan.pendingRuleId ≠ "" then plan.completeOnceRule plan.pendingRuleId else plan) := by
    split
    · exact completeOnceRule plan _
    · exact refl plan
  exact hrule.trans (.inr rfl)

theorem applyTerminalOrderEvent (plan : ExitPlan) (status : OrderReportStatus) (cumulative : PyVal) :
    RulesKept plan (plan.applyTerminalOrderEvent status cumulative) := by
  unfold ExitPlan.applyTerminalOrderEvent
  split
  · exact .inl rfl
  · split_ifs
    · exact .inl rfl
    · exact .inl rfl
    · exact @trans plan (plan.holdTerminal.setTerminalTarget _) _ (.inl rfl) (finalizePending _)

theorem applyZeroFill (plan : ExitPlan) (event : OrderEvent) : RulesKept plan (plan.applyZeroFill event) := by
  have hremember : RulesKept plan (plan.rememberZeroFillIntent event.intentId) := by
    unfold rememberZeroFillIntent
    split
    · exact .inl rfl
    · exact .inl rfl
  unfold ExitPlan.applyZeroFill
  simp only
  split
  · exact hremember.trans (.inr rfl)
  · exact hremember.trans (.inr rfl)

theorem applyOrderEvent (plan : ExitPlan) (event : OrderEvent) : RulesKept plan (plan.applyOrderEvent event) := by
  have hpending : RulesKept (plan.setOrderId event.orderId) ((plan.setOrderId event.orderId).applyPendingOrderEvent event) := by
    unfold applyPendingOrderEvent
    split
    case h_5 => exact applyZeroFill _ _
    case h_6 | h_7 | h_8 | h_9 => exact applyTerminalOrderEvent _ _ _
    all_goals exact .inl rfl
  unfold ExitPlan.applyOrderEvent
  simp only
  split
  · exact .inl rfl
  · split
    · exact refl plan
    · exact ((setOrderId plan _).trans hpending).trans (restore _ _)

theorem observed (h : Observed plan next) (hrule : next.pendingRuleId = plan.pendingRuleId) : RulesKept plan next := by
  refine .inl ?_
  have hrequested : next.pendingRequestedVolume = plan.pendingRequestedVolume := congrArg PendingView.requested h.pending
  rw [ruleView, ruleView, h.pending.intent, hrule, hrequested, h.pending.filled, h.ruleTargets, h.ruleFills]

theorem settleExitFill (plan before : ExitPlan) (fill : ExitFill) : RulesKept plan (plan.settleExitFill before fill) := by
  unfold ExitPlan.settleExitFill
  simp only
  split
  · exact .inl rfl
  · split
    · exact .inl rfl
    · split
      · split
        · exact finalizePending plan
        · exact .inl rfl
      · split
        · exact finalizePending plan
        · split
          · exact trans (completeOnceRule plan _) (.inl rfl)
          · exact .inl rfl

theorem applyExitFill (plan : ExitPlan) (fill : ExitFill) :
    RulesKept plan (plan.applyExitFill fill) ∧ (fill.volume ≤ 0 ∨ fill.price ≤ 0 ∨ plan.appliedVolume fill ≤ 0) ∨
      RulesKept (plan.bookExitFill fill) (plan.applyExitFill fill) ∧ 0 < fill.volume ∧ 0 < fill.price := by
  have hsettled := settleExitFill (plan.bookExitFill fill) plan fill
  unfold ExitPlan.applyExitFill
  simp only
  split
  · rename_i hnothing
    exact .inl ⟨refl plan, hnothing.imp_right .inl⟩
  rename_i hvalid
  push Not at hvalid
  split
  · rename_i hgone
    split
    · exact .inl ⟨.inl rfl, .inr (.inr hgone)⟩
    · exact .inl ⟨refl plan, .inr (.inr hgone)⟩
  · split
    · exact .inr ⟨hsettled.trans (restore _ _), hvalid⟩
    · split
      · exact .inr ⟨hsettled.trans (.inl rfl), hvalid⟩
      · exact .inr ⟨hsettled, hvalid⟩

end RulesKept

theorem evaluate_sized (registry : ExitStrategyRegistry) (plan : ExitPlan) (context : ExitEvaluationContext) :
    (plan.evaluate registry context).1.pendingRuleId = plan.pendingRuleId ∧
      ∀ decision, (plan.evaluate registry context).2 = .ok (some decision) → ∃ rule ∈ plan.template.rules,
        decision.ruleId = rule.ruleId ∧ decision.volume = plan.decisionVolume rule := by
  have hrule := observe_view pendingRuleId (fun _ _ _ _ _ _ _ _ _ => rfl) plan context
  have hobserve := Observed.observe plan context
  unfold evaluate
  split
  · exact ⟨rfl, fun _ h => by cases h⟩
  split
  · exact ⟨rfl, fun _ h => by cases h⟩
  split
  · exact ⟨rfl, fun _ h => by cases h⟩
  split
  · exact ⟨rfl, fun _ h => by cases h⟩
  split
  · rename_i heq
    rw [heq] at hrule
    exact ⟨hrule, fun _ h => by cases h⟩
  rename_i observed heq
  rw [heq] at hrule hobserve
  have hmatched := matchRules_view pendingRuleId (fun _ _ => rfl) registry context observed.template.rules observed
  have hkept := Observed.matchRules registry context observed.template.rules observed
  split
  · rename_i heq
    rw [heq] at hmatched
    exact ⟨hmatched.trans hrule, fun _ h => by cases h⟩
  rename_i matched found hfound
  rw [hfound] at hmatched hkept
  split
  · exact ⟨hmatched.trans hrule, fun _ h => by cases h⟩
  rename_i rule answer hbest
  simp only
  split
  · exact ⟨hmatched.trans hrule, fun _ h => by cases h⟩
  refine ⟨hmatched.trans hrule, fun decision h => ?_⟩
  cases h
  have hsound := (matchRules_found observed.template.rules observed (by rw [hfound])).1 _ (bestMatch_highest hbest).1
  refine ⟨rule, ?_, rfl, decisionVolume_observed (hobserve.trans hkept) rule⟩
  rw [← hobserve.position.template]
  exact hsound.1

theorem markIntent_rules {plan next : ExitPlan} {d : ExitDecision} {i : String} (h : plan.markIntent d i = .ok next) :
    next.ruleView = ((plan.openIntent d i).startOnceRule d).ruleView := by
  unfold markIntent at h
  split at h
  · cases h
  · cases h
    rfl

end ExitPlan

namespace ExitPlanBook

def ruleView (book : ExitPlanBook) (id : String) : RuleView := ((book.plans.get? id).map ExitPlan.ruleView).getD {}

theorem ruleView_of_get? {book : ExitPlanBook} {id : String} {plan : ExitPlan} (h : book.plans.get? id = some plan) :
    book.ruleView id = plan.ruleView := by
  rw [ruleView, h]
  rfl

def Sizes (book : ExitPlanBook) (decision : ExitDecision) : Prop :=
  ∃ plan, book.plans.get? decision.planId = some plan ∧ ∃ rule ∈ plan.template.rules,
    decision.ruleId = rule.ruleId ∧ decision.volume = plan.decisionVolume rule

end ExitPlanBook

theorem ExitRun.step_sizes (registry : ExitStrategyRegistry) {s : ExitRun} {op : ExitOp}
    (h : ∀ d ∈ s.offered, s.book.Sizes d) : ∀ d ∈ (s.step registry op).offered, (s.step registry op).book.Sizes d := by
  intro d hd
  rcases s.step_offered registry op d hd with ⟨code, context, rfl⟩ | ⟨hmem, hsame⟩
  · obtain ⟨plan, hplan, hdecision⟩ := ExitPlanBook.evaluate_plan_of_decision hd
    obtain ⟨rule, hrule, hid, hvolume⟩ := (evaluate_sized registry plan context).2 d hdecision
    have hstep := s.step_plan registry (.evaluate code context) d.planId
    rw [hplan] at hstep
    generalize hnext : (s.step registry (.evaluate code context)).book.plans.get? d.planId = stored at hstep
    cases hstep with
    | same => exact ⟨plan, hnext, rule, hrule, hid, hvolume⟩
    | evaluated =>
      have hobserved := (evaluate_spec registry plan context).1
      exact ⟨_, hnext, rule, hobserved.position.template ▸ hrule, hid, hvolume.trans (decisionVolume_observed hobserved rule).symm⟩
  · obtain ⟨plan, hplan, hrule⟩ := h d hmem
    exact ⟨plan, hsame.trans hplan, hrule⟩

/-- A step that neither marks an intent of the plan nor executes one keeps the rules' volumes. -/
theorem ExitRun.step_rules (registry : ExitStrategyRegistry) (s : ExitRun) {op : ExitOp} {p : String}
    (hmark : ∀ d i, op = .markIntent d i → d.planId ≠ p) (hfill : ∀ f, op = .applyExitFill f → f.planId ≠ p) :
    (s.step registry op).book.ruleView p = s.book.ruleView p ∨ (s.step registry op).book.ruleView p = (s.book.ruleView p).release := by
  have hstep := s.step_plan registry op p
  generalize hplan : s.book.plans.get? p = stored at hstep
  generalize hnext : (s.step registry op).book.plans.get? p = stored' at hstep
  have keep : ∀ {plan next : ExitPlan}, stored = some plan → stored' = some next → RulesKept plan next →
      (s.step registry op).book.ruleView p = s.book.ruleView p ∨ (s.step registry op).book.ruleView p = (s.book.ruleView p).release := by
    rintro plan next rfl rfl h
    rw [ExitPlanBook.ruleView_of_get? hplan, ExitPlanBook.ruleView_of_get? hnext]
    exact h
  cases hstep with
  | same => exact .inl (by rw [ExitPlanBook.ruleView, ExitPlanBook.ruleView, hplan, hnext])
  | created template volume price time _ =>
    rw [ExitPlanBook.ruleView_of_get? hnext, ExitPlanBook.ruleView, hplan]
    exact RulesKept.registerEntryFill { template := template } volume price time
  | entryFill template volume price time _ hcurrent =>
    rcases hcurrent with rfl | happly
    · exact keep rfl rfl (.registerEntryFill _ _ _ _)
    · exact keep rfl rfl ((RulesKept.applyTemplate happly).trans (.registerEntryFill _ _ _ _))
  | upserted _ _ _ _ _ happly => exact keep rfl rfl (.applyTemplate happly)
  | paused => exact keep rfl rfl (.inl rfl)
  | resumed => exact keep rfl rfl (.inl rfl)
  | cancelled => exact keep rfl rfl (.inl rfl)
  | evaluated plan code context =>
    exact keep rfl rfl (.observed (evaluate_spec registry plan context).1 (evaluate_sized registry plan context).1)
  | marked d i own => exact absurd own (hmark d i rfl)
  | ordered plan event => exact keep rfl rfl (.applyOrderEvent plan event)
  | filled plan fill own => exact absurd own (hfill fill rfl)

end QuantX
