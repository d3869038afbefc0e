import QuantX.Trading.ExitPlanBook

/-! What each operation does to the pending intent of a plan. Most leave it alone (`SamePending`). -/

namespace QuantX.ExitPlan
variable {plan : ExitPlan}
open Lib

/-- The pending intent with its counters, the zero-fill proofs and the exited volume. A new plan has the
    default view. -/
structure PendingView where
  intent : String := ""
  requested : Int := 0
  filled : Int := 0
  orderTerminal : Bool := false
  target : Option Int := none
  zeroFills : List String := []
  exited : Int := 0

def pendingView (plan : ExitPlan) : PendingView where
  intent := plan.pendingIntentId
  requested := plan.pendingRequestedVolume
  filled := plan.pendingFilledVolume
  orderTerminal := plan.pendingOrderTerminal
  target := plan.pendingTerminalCumulativeFill
  zeroFills := plan.reconciledZeroFillIntentIds
  exited := plan.exitedVolume

theorem pendingView_intent (plan : ExitPlan) : plan.pendingView.intent = plan.pendingIntentId := rfl

def SamePending (plan next : ExitPlan) : Prop := next.pendingView = plan.pendingView

namespace SamePending
variable {plan next last : ExitPlan}

theorem refl (plan : ExitPlan) : SamePending plan plan := rfl

theorem trans (h₁ : SamePending plan next) (h₂ : SamePending next last) : SamePending plan last := Eq.trans h₂ h₁

theorem intent (h : SamePending plan next) : next.pendingIntentId = plan.pendingIntentId := congrArg PendingView.intent h

theorem filled (h : SamePending plan next) : next.pendingFilledVolume = plan.pendingFilledVolume :=
  congrArg PendingView.filled h

theorem target (h : SamePending plan next) :
    next.pendingTerminalCumulativeFill = plan.pendingTerminalCumulativeFill :=
  congrArg PendingView.target h

theorem zeroFills (h : SamePending plan next) :
    next.reconciledZeroFillIntentIds = plan.reconciledZeroFillIntentIds :=
  congrArg PendingView.zeroFills h

theorem exited (h : SamePending plan next) : next.exitedVolume = plan.exitedVolume := congrArg PendingView.exited h

theorem setStatus (plan : ExitPlan) (status : ExitPlanStatus) : SamePending plan (plan.setStatus status) := rfl

theorem fail (plan : ExitPlan) (message : String) : SamePending plan (plan.fail message) := rfl

theorem restore (plan : ExitPlan) (error : String) : SamePending plan (plan.restoreReconciliationError error) := by
  unfold restoreReconciliationError
  split
  · exact fail plan error
  · exact refl plan

theorem setOrderId (plan : ExitPlan) (orderId : String) : SamePending plan (plan.setOrderId orderId) := by
  unfold ExitPlan.setOrderId
  split <;> rfl

theorem registerEntryFill (plan : ExitPlan) (volume : Int) (price : Rat) (time : Option DateTime) :
    SamePending plan (plan.registerEntryFill volume price time) := by
  unfold ExitPlan.registerEntryFill
  split
  · rfl
  · split
    · rfl
    · split <;> rfl

theorem applyTemplate {template : ExitPlanTemplate} (h : plan.applyTemplate template = .ok next) : SamePending plan next := by
  unfold ExitPlan.applyTemplate at h
  split at h
  · cases h
  · cases h
    rfl

theorem completeOnceRule (plan : ExitPlan) (ruleId : String) : SamePending plan (plan.completeOnceRule ruleId) := by
  unfold ExitPlan.completeOnceRule
  split
  · rfl
  · simp only
    split
    · split <;> rfl
    · rfl

end SamePending

/-! ### Evaluation -/

/-- An evaluation writes observations only: it keeps the pending part, the entry position, the status, the error and the
    rules' volumes. -/
structure Observed (plan next : ExitPlan) : Prop where
  pending : SamePending plan next
  position : SameEntry plan next
  status : next.status = plan.status
  error : next.errorMessage = plan.errorMessage
  ruleTargets : next.ruleTargetVolumes = plan.ruleTargetVolumes
  ruleFills : next.ruleFilledVolumes = plan.ruleFilledVolumes

namespace Observed
variable {plan next last : ExitPlan}

theorem refl (plan : ExitPlan) : Observed plan plan := ⟨.refl plan, .refl plan, rfl, rfl, rfl, rfl⟩

theorem trans (h₁ : Observed plan next) (h₂ : Observed next last) : Observed plan last :=
  ⟨h₁.pending.trans h₂.pending, h₁.position.trans h₂.position, h₂.status.trans h₁.status, h₂.error.trans h₁.error,
    h₂.ruleTargets.trans h₁.ruleTargets, h₂.ruleFills.trans h₁.ruleFills⟩

theorem remaining (h : Observed plan next) : next.remainingVolume = plan.remainingVolume := by
  unfold remainingVolume
  rw [h.position.entry, h.pending.exited]

theorem observePrice (plan : ExitPlan) (context : ExitEvaluationContext) (price : Rat) :
    Observed plan (plan.observePrice context price) :=
  ⟨rfl, ⟨rfl, rfl⟩, rfl, rfl, rfl, rfl⟩

theorem observeDay (plan : ExitPlan) (date : String) : Observed plan (plan.observeDay date) := by
  unfold ExitPlan.observeDay
  split_ifs
  · exact ⟨rfl, ⟨rfl, rfl⟩, rfl, rfl, rfl, rfl⟩
  · exact ⟨rfl, ⟨rfl, rfl⟩, rfl, rfl, rfl, rfl⟩
  · exact refl plan

theorem observeProfit (plan : ExitPlan) (net : Rat) : Observed plan (plan.observeProfit net) :=
  ⟨rfl, ⟨rfl, rfl⟩, rfl, rfl, rfl, rfl⟩

theorem writeScratch (plan : ExitPlan) (scratch : RuleScratch) : Observed plan (plan.writeScratch scratch) :=
  ⟨rfl, ⟨rfl, rfl⟩, rfl, rfl, rfl, rfl⟩

theorem observe (plan : ExitPlan) (context : ExitEvaluationContext) : Observed plan (plan.observe context).1 := by
  unfold ExitPlan.observe
  simp only
  split_ifs
  · exact refl plan
  · have day := (observePrice plan context (plan.referencePrice context)).trans (observeDay _ context.tradeDate)
    split
    · exact day
    · exact day.trans (observeProfit _ _)

theorem matchRules (registry : ExitStrategyRegistry) (context : ExitEvaluationContext) (rules : List ExitRuleSpec) :
    ∀ plan : ExitPlan, Observed plan (ExitPlan.matchRules registry context rules plan).1 := by
  induction rules with
  | nil => exact refl
  | cons rule rules ih =>
    intro plan
    unfold ExitPlan.matchRules
    split
    · exact ih plan
    · split
      · exact refl plan
      · simp only
        split
        · exact writeScratch plan _
        · exact (writeScratch plan _).trans (ih _)

end Observed

/-- What a decision says about its plan: the gate was open, and the volume is positive and fits in the remaining
    position. -/
structure Decided (plan : ExitPlan) (decision : ExitDecision) : Prop where
  planId : decision.planId = plan.planId
  status : plan.status = .active ∨ plan.status = .partiallyExited
  intent : plan.pendingIntentId = ""
  remaining : 0 < plan.remainingVolume
  volume_pos : 0 < decision.volume
  volume_le : decision.volume ≤ plan.remainingVolume

theorem calculate_le (sizing : ExitSizingPolicy) (remaining : Int) : sizing.calculate remaining ≤ max 0 remaining := by
  unfold ExitSizingPolicy.calculate
  simp only
  split_ifs with h0 h1
  · exact le_max_left 0 remaining
  · exact le_refl _
  · refine (Int.ediv_mul_le _ (ne_of_gt sizing.lotSize_pos)).trans ?_
    exact min_le_left _ _

theorem decisionVolume_le (plan : ExitPlan) (rule : ExitRuleSpec) : plan.decisionVolume rule ≤ plan.remainingVolume := by
  have hnonneg : 0 ≤ plan.remainingVolume := le_max_left 0 _
  unfold decisionVolume
  split
  · exact min_le_left _ _
  · exact (calculate_le _ _).trans (max_le hnonneg (le_refl _))

theorem evaluate_spec (registry : ExitStrategyRegistry) (plan : ExitPlan) (context : ExitEvaluationContext) :
    Observed plan (plan.evaluate registry context).1 ∧
      ∀ decision, (plan.evaluate registry context).2 = .ok (some decision) → Decided plan decision := by
  have hobs := Observed.observe plan context
  unfold evaluate
  split
  · exact ⟨.refl plan, fun _ h => by cases h⟩
  rename_i hstatus
  split
  · exact ⟨.refl plan, fun _ h => by cases h⟩
  rename_i hgate
  split
  · exact ⟨.refl plan, fun _ h => by cases h⟩
  split
  · exact ⟨.refl plan, fun _ h => by cases h⟩
  split
  · rename_i heq
    rw [heq] at hobs
    exact ⟨hobs, fun _ h => by cases h⟩
  · rename_i observed heq
    rw [heq] at hobs
    have hrules := Observed.matchRules registry context observed.template.rules observed
    split
    · rename_i heq
      rw [heq] at hrules
      exact ⟨hobs.trans hrules, fun _ h => by cases h⟩
    · rename_i matched _ heq
      rw [heq] at hrules
      have hall := hobs.trans hrules
      split
      · exact ⟨hall, fun _ h => by cases h⟩
      · rename_i rule found hbest
        simp only
        split
        · exact ⟨hall, fun _ h => by cases h⟩
        · rename_i hvolume
          refine ⟨hall, fun decision h => ?_⟩
          cases h
          push Not at hgate
          exact {
            planId := by rw [ExitPlan.planId, hall.position.template]; rfl
            status := by tauto
            intent := hgate.1
            remaining := hgate.2, volume_pos := not_le.mp hvolume
            volume_le := by
              rw [← hall.remaining]
              exact decisionVolume_le matched rule }

theorem markIntent_pending {plan next : ExitPlan} {d : ExitDecision} {i : String} (h : plan.markIntent d i = .ok next) :
    next.pendingView =
      { plan.pendingView with intent := i, requested := d.volume, filled := 0, orderTerminal := false, target := none } := by
  unfold markIntent at h
  split at h
  · cases h
  · cases h
    have hsame : SamePending (plan.openIntent d i) ((plan.openIntent d i).startOnceRule d) := by
      unfold startOnceRule
      split
      · split <;> rfl
      · rfl
    exact hsame

/-! ### Order reports -/

/-- The pending intent is released; only its own id can join the zero-fill proofs. -/
structure Cleared (plan next : ExitPlan) : Prop where
  view : next.pendingView = { zeroFills := next.reconciledZeroFillIntentIds, exited := plan.exitedVolume }
  zeroFills : ∀ i ∈ next.reconciledZeroFillIntentIds,
    i ∈ plan.reconciledZeroFillIntentIds ∨ i ≠ "" ∧ i = plan.pendingIntentId

namespace Cleared
variable {plan plan' next next' : ExitPlan}

theorem intent (h : Cleared plan next) : next.pendingIntentId = "" := congrArg PendingView.intent h.view

theorem exited (h : Cleared plan next) : next.exitedVolume = plan.exitedVolume := congrArg PendingView.exited h.view

theorem before (h : Cleared plan' next) (hp : SamePending plan plan') : Cleared plan next :=
  ⟨by rw [← hp.exited]; exact h.view, fun i hi => by rw [← hp.zeroFills, ← hp.intent]; exact h.zeroFills i hi⟩

theorem after (h : Cleared plan next) (hn : SamePending next next') : Cleared plan next' :=
  ⟨by rw [hn.zeroFills]; exact Eq.trans hn h.view, fun i hi => h.zeroFills i (hn.zeroFills ▸ hi)⟩

end Cleared

theorem finalizePending_cleared (plan : ExitPlan) : Cleared plan plan.finalizePending := by
  have hrule : SamePending plan
      (if plan.pendingRuleId ≠ "" then plan.completeOnceRule plan.pendingRuleId else plan) := by
    split
    · exact .completeOnceRule plan _
    · exact .refl plan
  have hcleared : ∀ p : ExitPlan, Cleared p (p.releasePending.setStatus
      (if p.remainingVolume ≤ 0 then .completed else .partiallyExited)) := fun _ => ⟨rfl, fun _ hi => Or.inl hi⟩
  exact (hcleared _).before hrule

theorem applyZeroFill_cleared {event : OrderEvent} (hid : event.intentId = plan.pendingIntentId) :
    Cleared plan (plan.applyZeroFill event) := by
  have hzero : ∀ i ∈ (plan.rememberZeroFillIntent event.intentId).reconciledZeroFillIntentIds,
      i ∈ plan.reconciledZeroFillIntentIds ∨ i ≠ "" ∧ i = plan.pendingIntentId := by
    intro i hi
    unfold rememberZeroFillIntent at hi
    split at hi
    · rename_i hnew
      rcases List.mem_append.mp hi with hi | hi
      · exact Or.inl hi
      · obtain rfl := List.mem_singleton.mp hi
        exact Or.inr ⟨hnew.1, hid⟩
    · exact Or.inl hi
  have hexited : (plan.rememberZeroFillIntent event.intentId).exitedVolume = plan.exitedVolume := by
    unfold rememberZeroFillIntent
    split <;> rfl
  unfold applyZeroFill
  simp only
  split
  · exact ⟨by rw [← hexited]; rfl, hzero⟩
  · exact ⟨by rw [← hexited]; rfl, hzero⟩

theorem terminalTarget?_eq_some {status : OrderReportStatus} {cumulative : PyVal} {target : Int} :
    plan.terminalTarget? status cumulative = some target ↔
      optionalNonNegativeInt cumulative = some target ∧ ¬(status = .filled ∧ target = 0) ∧
        max 0 plan.pendingFilledVolume ≤ target ∧
        ∀ previous, plan.pendingTerminalCumulativeFill = some previous → previous ≤ target := by
  unfold terminalTarget?
  cases hcum : optionalNonNegativeInt cumulative with
  | none => simp
  | some t =>
    have hany : (plan.pendingTerminalCumulativeFill.any fun previous => decide (t < previous)) = true ↔
        ∃ previous, plan.pendingTerminalCumulativeFill = some previous ∧ t < previous := by
      cases plan.pendingTerminalCumulativeFill <;> simp
    simp only [hany, Option.some.injEq]
    constructor
    · intro h
      split at h
      · cases h
      · rename_i hok
        cases h
        push Not at hok
        exact ⟨rfl, by tauto, hok.2.1, hok.2.2⟩
    · rintro ⟨rfl, hzero, hbehind, hprev⟩
      rw [if_neg]
      rintro (h | h | ⟨previous, hp, hlt⟩)
      · exact hzero h
      · omega
      · have := hprev previous hp
        omega

inductive OrderEffect (plan : ExitPlan) (event : OrderEvent) (next : ExitPlan) : Prop
  /-- The report is about no pending intent, or says nothing. -/
  | ignored (h : next = plan)
  /-- Work of an intent that is not pending, or was proven to have none, burns the plan. -/
  | burned (message : String) (h : next = plan.fail message)
  /-- The pending order is alive. -/
  | working (own : event.intentId = plan.pendingIntentId) (pending : plan.pendingIntentId ≠ "")
      (h : SamePending plan next)
  /-- A terminal report of the intent without a usable cumulative fill. -/
  | held (own : event.intentId = plan.pendingIntentId) (pending : plan.pendingIntentId ≠ "")
      (terminal : event.status.terminal = true) (h : SamePending plan.holdTerminal next)
  /-- A terminal report announces a cumulative fill that the executions have not reached, or zero. -/
  | announced (target : Int) (own : event.intentId = plan.pendingIntentId) (pending : plan.pendingIntentId ≠ "")
      (terminal : event.status.terminal = true)
      (found : plan.terminalTarget? event.status event.cumulativeFilledVolume = some target)
      (h : SamePending (plan.holdTerminal.setTerminalTarget target) next)
  /-- A terminal report announces exactly the positive volume executed so far. -/
  | converged (target : Int) (own : event.intentId = plan.pendingIntentId) (pending : plan.pendingIntentId ≠ "")
      (terminal : event.status.terminal = true)
      (found : plan.terminalTarget? event.status event.cumulativeFilledVolume = some target)
      (pos : 0 < target) (reached : plan.pendingFilledVolume = target) (h : Cleared plan next)
  /-- The intent is proven to have no execution. -/
  | zeroFill (own : event.intentId = plan.pendingIntentId) (pending : plan.pendingIntentId ≠ "")
      (zero : event.status = .reconciledZeroFill) (h : Cleared plan next)

namespace OrderEffect
variable {plan plan' next last : ExitPlan} {event : OrderEvent}

theorem of_own (own : event.intentId = plan.pendingIntentId)
    (pending : plan.pendingIntentId ≠ "") (hp : SamePending plan plan') (h : OrderEffect plan' event next)
    (hn : SamePending next last) : OrderEffect plan event last := by
  have htarget : ∀ target, plan'.terminalTarget? event.status event.cumulativeFilledVolume = some target →
      plan.terminalTarget? event.status event.cumulativeFilledVolume = some target := fun target h => by
    rw [terminalTarget?_eq_some] at h ⊢
    rw [hp.filled, hp.target] at h
    exact h
  have hhold : SamePending plan.holdTerminal plan'.holdTerminal := by
    have := congrArg (fun v : PendingView => { v with orderTerminal := true }) hp
    exact this
  cases h with
  | ignored h =>
    subst h
    exact .working own pending (hp.trans hn)
  | burned message h =>
    subst h
    exact .working own pending ((hp.trans (.fail _ _)).trans hn)
  | working _ _ h => exact .working own pending ((hp.trans h).trans hn)
  | held _ _ terminal h => exact .held own pending terminal ((hhold.trans h).trans hn)
  | announced target _ _ terminal found h =>
    have hset : SamePending (plan.holdTerminal.setTerminalTarget target) (plan'.holdTerminal.setTerminalTarget target) := by
      have := congrArg (fun v : PendingView => { v with target := some target }) hhold
      exact this
    exact .announced target own pending terminal (htarget target found) ((hset.trans h).trans hn)
  | converged target _ _ terminal found pos reached h =>
    exact .converged target own pending terminal (htarget target found) pos (hp.filled.symm.trans reached)
      ((h.before hp).after hn)
  | zeroFill _ _ zero h => exact .zeroFill own pending zero ((h.before hp).after hn)

end OrderEffect

theorem applyTerminalOrderEvent_effect {event : OrderEvent}
    (own : event.intentId = plan.pendingIntentId) (pending : plan.pendingIntentId ≠ "")
    (terminal : event.status.terminal = true) :
    OrderEffect plan event (plan.applyTerminalOrderEvent event.status event.cumulativeFilledVolume) := by
  unfold applyTerminalOrderEvent
  split
  · exact .held own pending terminal (.refl _)
  · rename_i target found
    have hbound := (terminalTarget?_eq_some.mp found).2.2.1
    split_ifs with hahead hzero
    · exact .announced target own pending terminal found (.refl _)
    · exact .announced target own pending terminal found (.refl _)
    · have hreached : plan.pendingFilledVolume = target := by omega
      have hcleared := finalizePending_cleared (plan.holdTerminal.setTerminalTarget target)
      exact .converged target own pending terminal found (by omega) hreached ⟨hcleared.view, hcleared.zeroFills⟩

theorem applyOrderEvent_effect (plan : ExitPlan) (event : OrderEvent) :
    OrderEffect plan event (plan.applyOrderEvent event) := by
  unfold applyOrderEvent
  simp only
  split
  · exact .burned _ rfl
  · split
    · exact .ignored rfl
    · rename_i hown
      push Not at hown
      have hset := SamePending.setOrderId plan event.orderId
      have own : event.intentId = (plan.setOrderId event.orderId).pendingIntentId := hown.2.trans hset.intent.symm
      have pending : (plan.setOrderId event.orderId).pendingIntentId ≠ "" := hset.intent.symm ▸ hown.1
      refine .of_own hown.2 hown.1 hset ?_ (.restore _ _)
      unfold applyPendingOrderEvent
      split
      case h_5 => exact .zeroFill own pending ‹_› (applyZeroFill_cleared own)
      case h_10 => exact .ignored rfl
      all_goals
        first
        | exact .working own pending (.setStatus _ _)
        | (rename_i hstatus; exact applyTerminalOrderEvent_effect own pending (by rw [hstatus]; rfl))

/-! ### Executions -/

theorem matchesPending_iff {fill : ExitFill} :
    plan.matchesPending fill = true ↔ plan.pendingIntentId ≠ "" ∧ fill.intentId = plan.pendingIntentId := by
  unfold matchesPending
  simp only [ne_eq, decide_not, Bool.and_eq_true, Bool.not_eq_eq_eq_not, Bool.not_true, decide_eq_false_iff_not,
    decide_eq_true_eq]
  constructor
  · rintro ⟨⟨hp, _⟩, hid⟩
    exact ⟨hp, hid⟩
  · rintro ⟨hp, hid⟩
    exact ⟨⟨hp, hid ▸ hp⟩, hid⟩

theorem mismatchesPending_iff {fill : ExitFill} :
    plan.mismatchesPending fill = true ↔ fill.intentId ≠ plan.pendingIntentId := by
  unfold mismatchesPending
  by_cases hp : plan.pendingIntentId = ""
  · by_cases hf : fill.intentId = "" <;> simp [matchesPending, hp, hf]
  · by_cases hf : fill.intentId = plan.pendingIntentId
    · simp [matchesPending, hp, hf]
    · simp [matchesPending, hp, hf]

inductive BookedEffect (plan : ExitPlan) (fill : ExitFill) (next : ExitPlan) : Prop
  /-- An execution of an intent that is not pending burns the plan. -/
  | unmatched (other : fill.intentId ≠ plan.pendingIntentId) (h : SamePending (plan.bookExitFill fill) next)
      (status : next.status = .error)
  /-- An execution without an intent on a plan without a pending intent. -/
  | uncorrelated (blank : fill.intentId = "") (idle : plan.pendingIntentId = "")
      (h : SamePending (plan.bookExitFill fill) next ∨ Cleared (plan.bookExitFill fill) next)
  /-- An execution of the pending intent that leaves it pending. -/
  | progressed (own : fill.intentId = plan.pendingIntentId) (pending : plan.pendingIntentId ≠ "")
      (h : SamePending (plan.bookExitFill fill) next)
  /-- The execution that reaches the announced cumulative fill of the pending intent. -/
  | converged (target : Int) (own : fill.intentId = plan.pendingIntentId) (pending : plan.pendingIntentId ≠ "")
      (terminal : plan.pendingOrderTerminal = true) (found : plan.pendingTerminalCumulativeFill = some target)
      (pos : 0 < target) (reached : (plan.bookExitFill fill).pendingFilledVolume = target)
      (h : Cleared (plan.bookExitFill fill) next)
  /-- The execution of the pending intent that sells the rest of the position. -/
  | soldOut (own : fill.intentId = plan.pendingIntentId) (pending : plan.pendingIntentId ≠ "")
      (alive : plan.pendingOrderTerminal = false) (gone : (plan.bookExitFill fill).remainingVolume ≤ 0)
      (h : Cleared (plan.bookExitFill fill) next)

theorem BookedEffect.restore {plan next last : ExitPlan} {fill : ExitFill} (h : BookedEffect plan fill next)
    (hn : SamePending next last) (hstatus : last.status = next.status ∨ last.status = .error) :
    BookedEffect plan fill last := by
  cases h with
  | unmatched other h status => exact .unmatched other (h.trans hn) (hstatus.elim (·.trans status) id)
  | uncorrelated blank idle h => exact .uncorrelated blank idle (h.imp (·.trans hn) (·.after hn))
  | progressed own pending h => exact .progressed own pending (h.trans hn)
  | converged target own pending terminal found pos reached h =>
    exact .converged target own pending terminal found pos reached (h.after hn)
  | soldOut own pending alive gone h => exact .soldOut own pending alive gone (h.after hn)

theorem restoreReconciliationError_status (plan : ExitPlan) (error : String) :
    (plan.restoreReconciliationError error).status = plan.status ∨
      (plan.restoreReconciliationError error).status = .error := by
  unfold restoreReconciliationError
  by_cases h : error = ""
  · rw [if_neg (not_not.mpr h)]
    exact Or.inl rfl
  · rw [if_pos h]
    exact Or.inr rfl

theorem terminalFillTargetReached_iff :
    plan.terminalFillTargetReached = true ↔ plan.pendingIntentId ≠ "" ∧ plan.pendingOrderTerminal = true ∧
      ∃ target, plan.pendingTerminalCumulativeFill = some target ∧ 0 < target ∧ plan.pendingFilledVolume = target := by
  unfold terminalFillTargetReached
  cases plan.pendingTerminalCumulativeFill with
  | none => simp
  | some target =>
    simp only [ne_eq, decide_not, Bool.and_eq_true, Bool.not_eq_eq_eq_not, Bool.not_true, decide_eq_false_iff_not,
      decide_eq_true_eq, Option.some.injEq, exists_eq_left', and_assoc]

theorem settleExitFill_effect (plan : ExitPlan) (fill : ExitFill) :
    BookedEffect plan fill ((plan.bookExitFill fill).settleExitFill plan fill) := by
  unfold settleExitFill
  simp only
  split
  · rename_i hmiss
    exact .unmatched (mismatchesPending_iff.mp hmiss) (.fail _ _) rfl
  rename_i hmiss
  have own : fill.intentId = plan.pendingIntentId := not_not.mp fun h => hmiss (mismatchesPending_iff.mpr h)
  by_cases hpending : plan.pendingIntentId = ""
  · -- No intent is pending, so the report names none either.
    have hno : plan.matchesPending fill = false := by
      rw [← Bool.not_eq_true, matchesPending_iff]
      tauto
    refine .uncorrelated (own.trans hpending) hpending ?_
    have hexceeded : (plan.bookExitFill fill).exceededTarget? (plan.matchesPending fill) = none := by
      unfold exceededTarget?
      cases (plan.bookExitFill fill).pendingTerminalCumulativeFill <;> simp [hno]
    rw [hexceeded]
    simp only [hno, Bool.false_eq_true, false_and, ↓reduceIte, not_false_eq_true]
    split
    · exact Or.inr (finalizePending_cleared _)
    · exact Or.inl ((SamePending.completeOnceRule _ _).trans (.setStatus _ _))
  · have hmatch : plan.matchesPending fill = true := matchesPending_iff.mpr ⟨hpending, own⟩
    split
    · exact .progressed own hpending rfl
    · simp only [hmatch, true_and, not_true_eq_false, ↓reduceIte]
      split
      · split
        · rename_i hreached
          obtain ⟨_, terminal, target, found, pos, reached⟩ := terminalFillTargetReached_iff.mp hreached
          exact .converged target own hpending terminal found pos reached (finalizePending_cleared _)
        · exact .progressed own hpending (.setStatus _ _)
      · rename_i halive
        split
        · rename_i hgone
          exact .soldOut own hpending (Bool.not_eq_true _ ▸ halive) hgone (finalizePending_cleared _)
        · exact .progressed own hpending (.setStatus _ _)

inductive FillEffect (plan : ExitPlan) (fill : ExitFill) (next : ExitPlan) : Prop
  /-- The report has no volume or no price, or the position is gone. -/
  | ignored (nothing : fill.volume ≤ 0 ∨ fill.price ≤ 0 ∨ plan.remainingVolume ≤ 0) (h : next = plan)
  /-- The position is gone, and the report contradicts the pending intent or a zero-fill proof. -/
  | refused (gone : plan.remainingVolume ≤ 0) (message : String) (h : next = plan.fail message)
  | booked (volume : 0 < fill.volume) (price : 0 < fill.price) (applied : 0 < plan.appliedVolume fill)
      (h : BookedEffect plan fill next)

theorem applyExitFill_effect (plan : ExitPlan) (fill : ExitFill) : FillEffect plan fill (plan.applyExitFill fill) := by
  have hsettled := settleExitFill_effect plan fill
  unfold applyExitFill
  simp only
  split
  · rename_i hnothing
    exact .ignored (hnothing.imp_right Or.inl) rfl
  rename_i hvalid
  push Not at hvalid
  split
  · rename_i hgone
    have gone : plan.remainingVolume ≤ 0 := by
      unfold appliedVolume at hgone
      omega
    split
    · exact .refused gone _ rfl
    · exact .ignored (Or.inr (Or.inr gone)) rfl
  rename_i happlied
  refine .booked hvalid.1 hvalid.2 (not_le.mp happlied) ?_
  split
  · exact hsettled.restore (.restore _ _) (restoreReconciliationError_status _ _)
  · split
    · exact hsettled.restore (.fail _ _) (Or.inr rfl)
    · exact hsettled

end QuantX.ExitPlan
