import QuantX.Lib.Rank
import QuantX.Lib.Require
import QuantX.Theorems.ExitPlan.Run

namespace QuantX
open Lib

namespace ExitRuleSpec

def rank (rule : ExitRuleSpec) : Int ×ₗ String := toLex (rule.priority, rule.ruleId)

end ExitRuleSpec

namespace ExitPlan

structure Evaluable (plan : ExitPlan) (context : ExitEvaluationContext) : Prop where
  status : plan.status = .active ∨ plan.status = .partiallyExited
  idle : plan.pendingIntentId = ""
  remaining : 0 < plan.remainingVolume
  price : 0 < context.currentPrice ∨ 0 < context.bidPrice ∨ plan.hasManualTrigger = true
  retry : plan.retryAfterMs ≤ context.timestampMs

/-- The rules that match in an evaluation, in template order. -/
def triggeredRules (registry : ExitStrategyRegistry) (plan : ExitPlan) (context : ExitEvaluationContext) :
    Except String (List (ExitRuleSpec × ExitRuleMatch)) :=
  match plan.observe context with
  | (_, .error e) => .error e
  | (plan, .ok ()) => (matchRules registry context plan.template.rules plan).2

variable {registry : ExitStrategyRegistry} {context : ExitEvaluationContext} {plan : ExitPlan}
  {found : List (ExitRuleSpec × ExitRuleMatch)}

theorem better_iff (best item : ExitRuleSpec × ExitRuleMatch) :
    (best.1.priority < item.1.priority ∨ (best.1.priority = item.1.priority ∧ best.1.ruleId < item.1.ruleId)) ↔
      best.1.rank < item.1.rank := by
  rw [ExitRuleSpec.rank, ExitRuleSpec.rank, Prod.Lex.toLex_lt_toLex]

theorem foldl_best (items : List (ExitRuleSpec × ExitRuleMatch)) (first : ExitRuleSpec × ExitRuleMatch) :
    let best := items.foldl (fun best item =>
      if best.1.priority < item.1.priority ∨ (best.1.priority = item.1.priority ∧ best.1.ruleId < item.1.ruleId) then item else best) first
    best ∈ first :: items ∧ ∀ item ∈ first :: items, item.1.rank ≤ best.1.rank := by
  induction items generalizing first with
  | nil => simp
  | cons item items ih =>
    simp only [List.foldl_cons]
    split
    · rename_i hbetter
      obtain ⟨hmem, hmax⟩ := ih item
      refine ⟨List.mem_cons_of_mem _ hmem, ?_⟩
      intro other hother
      rcases List.mem_cons.mp hother with rfl | hother
      · exact ((better_iff _ _).mp hbetter).le.trans (hmax item (List.mem_cons_self ..))
      · exact hmax other hother
    · rename_i hnot
      obtain ⟨hmem, hmax⟩ := ih first
      have hle := not_lt.mp ((better_iff _ _).not.mp hnot)
      refine ⟨?_, ?_⟩
      · rcases List.mem_cons.mp hmem with heq | hmem
        · rw [heq]
          exact List.mem_cons_self ..
        · exact List.mem_cons_of_mem _ (List.mem_cons_of_mem _ hmem)
      · intro other hother
        rcases List.mem_cons.mp hother with rfl | hother
        · exact hmax _ (List.mem_cons_self ..)
        · rcases List.mem_cons.mp hother with rfl | hother
          · exact hle.trans (hmax _ (List.mem_cons_self ..))
          · exact hmax other (List.mem_cons_of_mem _ hother)

theorem bestMatch_highest {best : ExitRuleSpec × ExitRuleMatch} (h : bestMatch found = some best) :
    best ∈ found ∧ ∀ item ∈ found, item.1.rank ≤ best.1.rank := by
  cases found with
  | nil => cases h
  | cons first items =>
    cases h
    exact foldl_best items first

/-! ### What is asked -/

theorem matchRules_found (rules : List ExitRuleSpec) : ∀ (plan : ExitPlan) {found : List (ExitRuleSpec × ExitRuleMatch)},
    (matchRules registry context rules plan).2 = .ok found →
      (∀ item ∈ found, item.1 ∈ rules ∧ item.1.enabled = true ∧ ¬ (item.1.once = true ∧ item.1.ruleId ∈ plan.completedRuleIds) ∧
        item.2.triggered = true) ∧
      ∀ rule ∈ rules, rule.enabled = true → ¬ (rule.once = true ∧ rule.ruleId ∈ plan.completedRuleIds) →
        ∃ evaluator asked answer, registry rule.strategy = some evaluator ∧ Observed plan asked ∧
          (evaluator rule asked context).2 = .ok answer ∧ (answer.triggered = true → (rule, answer) ∈ found) := by
  induction rules with
  | nil =>
    intro plan found h
    cases h
    exact ⟨by simp, by simp⟩
  | cons rule rules ih =>
    intro plan found h
    unfold matchRules at h
    split at h
    · rename_i hskip
      obtain ⟨hsound, hcomplete⟩ := ih plan h
      refine ⟨fun item hitem => ?_, fun other hother henabled hopen => ?_⟩
      · obtain ⟨hmem, hrest⟩ := hsound item hitem
        exact ⟨List.mem_cons_of_mem _ hmem, hrest⟩
      · rcases List.mem_cons.mp hother with rfl | hother
        · simp [henabled] at hskip
          exact absurd hskip hopen
        · exact hcomplete other hother henabled hopen
    · rename_i hask
      split at h
      · cases h
      rename_i evaluator hevaluator
      simp only at h
      split at h
      · cases h
      rename_i answer hanswer
      obtain ⟨rest, hrest, rfl⟩ := map_eq_ok.mp h
      have hscratch := Observed.writeScratch plan (evaluator rule plan context).1
      obtain ⟨hsound, hcomplete⟩ := ih _ hrest
      have hlater : ∀ item ∈ rest, item ∈ if answer.triggered then (rule, answer) :: rest else rest := by
        intro item hitem
        split
        · exact List.mem_cons_of_mem _ hitem
        · exact hitem
      refine ⟨fun item hitem => ?_, fun other hother henabled hopen => ?_⟩
      · have hcases : item ∈ rest ∨ item = (rule, answer) ∧ answer.triggered = true := by
          split at hitem
          · rename_i htriggered
            rcases List.mem_cons.mp hitem with heq | hitem
            · exact .inr ⟨heq, htriggered⟩
            · exact .inl hitem
          · exact .inl hitem
        rcases hcases with hitem | ⟨rfl, htriggered⟩
        · obtain ⟨hmem, hrest⟩ := hsound item hitem
          exact ⟨List.mem_cons_of_mem _ hmem, hrest⟩
        · simp only [Bool.or_eq_true, Bool.not_eq_true', Bool.and_eq_true, not_or, Bool.not_eq_false, List.contains_iff_mem] at hask
          exact ⟨List.mem_cons_self .., hask.1, hask.2, htriggered⟩
      · rcases List.mem_cons.mp hother with rfl | hother
        · refine ⟨evaluator, plan, answer, hevaluator, .refl plan, hanswer, fun htriggered => ?_⟩
          rw [if_pos htriggered]
          exact List.mem_cons_self ..
        · obtain ⟨evaluator', asked, answer', hstrategy, hobserved, hresult, hfound⟩ := hcomplete other hother henabled hopen
          exact ⟨evaluator', asked, answer', hstrategy, hscratch.trans hobserved, hresult, fun htriggered => hlater _ (hfound htriggered)⟩

theorem decisionVolume_observed {next : ExitPlan} (h : Observed plan next) (rule : ExitRuleSpec) :
    next.decisionVolume rule = plan.decisionVolume rule := by
  rw [decisionVolume, decisionVolume, h.ruleTargets, h.ruleFills, h.remaining]

theorem evaluate_found (h : plan.Evaluable context) (hfound : plan.triggeredRules registry context = .ok found) :
    (bestMatch found = none → (plan.evaluate registry context).2 = .ok none) ∧
      ∀ best, bestMatch found = some best →
        (plan.decisionVolume best.1 ≤ 0 → (plan.evaluate registry context).2 = .ok none) ∧
        (0 < plan.decisionVolume best.1 → ∃ decision, (plan.evaluate registry context).2 = .ok (some decision) ∧
          decision.ruleId = best.1.ruleId ∧ decision.priority = best.1.priority ∧ decision.volume = plan.decisionVolume best.1) := by
  have hstatus : ¬ (plan.status ≠ .active ∧ plan.status ≠ .partiallyExited) := by
    rcases h.status with hs | hs <;> simp [hs]
  have hgate : ¬ (plan.pendingIntentId ≠ "" ∨ plan.remainingVolume ≤ 0) := by
    simp [h.idle, h.remaining]
  have hprice : ¬ (context.currentPrice ≤ 0 ∧ context.bidPrice ≤ 0 ∧ ¬ plan.hasManualTrigger) := by
    rintro ⟨hcurrent, hbid, hmanual⟩
    rcases h.price with hp | hp | hp
    · exact absurd hp hcurrent.not_gt
    · exact absurd hp hbid.not_gt
    · exact hmanual hp
  have hobserve := Observed.observe plan context
  unfold triggeredRules at hfound
  unfold evaluate
  rw [if_neg hstatus, if_neg hgate, if_neg hprice, if_neg h.retry.not_gt]
  rcases hobserved : plan.observe context with ⟨observed, _ | answered⟩
  · simp only [hobserved] at hfound
    cases hfound
  rw [hobserved] at hobserve
  simp only [hobserved] at hfound ⊢
  have hmatched := Observed.matchRules registry context observed.template.rules observed
  rcases hresult : matchRules registry context observed.template.rules observed with ⟨matched, result⟩
  rw [hresult] at hfound hmatched
  cases hfound
  have hvolume := fun rule => decisionVolume_observed (hobserve.trans hmatched) rule
  refine ⟨fun hnone => by simp only [hnone], fun best hbest => ⟨fun hle => ?_, fun hpos => ?_⟩⟩
  · simp only [hbest, hvolume, if_pos hle]
  · simp only [hbest, hvolume, if_neg hpos.not_ge]
    exact ⟨_, rfl, rfl, rfl, rfl⟩

theorem triggeredRules_found (hfound : plan.triggeredRules registry context = .ok found) :
    ∀ item ∈ found, item.1 ∈ plan.template.rules ∧ item.1.enabled = true ∧
      ¬ (item.1.once = true ∧ item.1.ruleId ∈ plan.completedRuleIds) ∧ item.2.triggered = true := by
  have hobserve := (Observed.observe plan context).position.template
  have hcompleted := observe_view completedRuleIds (fun _ _ _ _ _ _ _ _ _ => rfl) plan context
  unfold triggeredRules at hfound
  rcases hobserved : plan.observe context with ⟨observed, _ | answered⟩
  · simp only [hobserved] at hfound
    cases hfound
  rw [hobserved] at hobserve hcompleted
  simp only [hobserved] at hfound
  rw [← hobserve, ← hcompleted]
  exact (matchRules_found observed.template.rules observed hfound).1

/-- An evaluation of an evaluable plan whose rules all answer decides if and only if the first of the highest matching
    rules has something to sell; it sells that for that rule. -/
theorem highest_rule_decides (registry : ExitStrategyRegistry) (plan : ExitPlan) (context : ExitEvaluationContext)
    (found : List (ExitRuleSpec × ExitRuleMatch)) (h : plan.Evaluable context) (hfound : plan.triggeredRules registry context = .ok found) :
    (∀ item ∈ found, item.1 ∈ plan.template.rules ∧ item.1.enabled = true ∧
      ¬ (item.1.once = true ∧ item.1.ruleId ∈ plan.completedRuleIds) ∧ item.2.triggered = true) ∧
    ((∃ decision, (plan.evaluate registry context).2 = .ok (some decision)) ↔
      ∃ best, bestMatch found = some best ∧ 0 < plan.decisionVolume best.1) ∧
    ∀ decision, (plan.evaluate registry context).2 = .ok (some decision) → ∃ best ∈ found,
      (∀ item ∈ found, item.1.rank ≤ best.1.rank) ∧ decision.ruleId = best.1.ruleId ∧
        decision.volume = plan.decisionVolume best.1 ∧ 1 ≤ decision.volume ∧ decision.volume ≤ plan.remainingVolume := by
  obtain ⟨hnone, hbest⟩ := evaluate_found h hfound
  have hdecides : ∀ decision, (plan.evaluate registry context).2 = .ok (some decision) → ∃ best, bestMatch found = some best ∧
      0 < plan.decisionVolume best.1 ∧ decision.ruleId = best.1.ruleId ∧ decision.volume = plan.decisionVolume best.1 := by
    intro decision hdecision
    cases hmatch : bestMatch found with
    | none =>
      rw [hnone hmatch] at hdecision
      cases hdecision
    | some best =>
      obtain ⟨hzero, hpos⟩ := hbest best hmatch
      rcases le_or_gt (plan.decisionVolume best.1) 0 with hle | hlt
      · rw [hzero hle] at hdecision
        cases hdecision
      · obtain ⟨decision', hdecision', hrule, -, hvolume⟩ := hpos hlt
        rw [hdecision'] at hdecision
        cases hdecision
        exact ⟨best, rfl, hlt, hrule, hvolume⟩
  refine ⟨triggeredRules_found hfound, ⟨?_, ?_⟩, ?_⟩
  · rintro ⟨decision, hdecision⟩
    obtain ⟨best, hmatch, hpos, -⟩ := hdecides decision hdecision
    exact ⟨best, hmatch, hpos⟩
  · rintro ⟨best, hmatch, hpos⟩
    obtain ⟨decision, hdecision, -⟩ := (hbest best hmatch).2 hpos
    exact ⟨decision, hdecision⟩
  · intro decision hdecision
    obtain ⟨best, hmatch, hpos, hrule, hvolume⟩ := hdecides decision hdecision
    obtain ⟨hmem, hmax⟩ := bestMatch_highest hmatch
    refine ⟨best, hmem, hmax, hrule, hvolume, ?_, ?_⟩
    · rw [hvolume]
      exact hpos
    · rw [hvolume]
      exact decisionVolume_le plan best.1

/-! ### A stage that has nothing to sell -/

theorem half_accepted : ExitSizingMode.percentRemaining.accepts (some 50) = true := rfl

theorem lot_pos : (0 : Int) < 100 := by decide

def halfSizing : ExitSizingPolicy where
  mode := .percentRemaining
  value := some 50
  lotSize_pos := lot_pos
  value_ok := half_accepted

/-- Half of the position, before the rule that sells all of it. -/
def stageRule : ExitRuleSpec where
  strategy := "MANUAL_TRIGGER"
  priority := 900
  sizing := halfSizing
  ruleId := "stage"

def stagedTemplate : ExitPlanTemplate := { manualTemplate with
  rules := [stageRule, manualExitRule], rules_ne := List.cons_ne_nil _ _ }

def stagedPlan : ExitPlan := ({ template := stagedTemplate } : ExitPlan).registerEntryFill 100 10 none

def soloPlan : ExitPlan := ({ template := manualTemplate } : ExitPlan).registerEntryFill 100 10 none

theorem stagedPlan_evaluable : stagedPlan.Evaluable morningContext :=
  ⟨.inl (by decide +kernel), by decide +kernel, by decide +kernel, .inl (by decide +kernel), by decide +kernel⟩

theorem soloPlan_evaluable : soloPlan.Evaluable morningContext :=
  ⟨.inl (by decide +kernel), by decide +kernel, by decide +kernel, .inl (by decide +kernel), by decide +kernel⟩

/-- Both rules match. Half of one lot is nothing, so nothing is sold, also not what the other rule would sell. -/
theorem starved_exit : stagedPlan.Evaluable morningContext ∧ ∃ found, stagedPlan.triggeredRules manualRegistry morningContext = .ok found ∧
    (∃ item ∈ found, 0 < stagedPlan.decisionVolume item.1) ∧
    (stagedPlan.evaluate manualRegistry morningContext).2 = .ok none := by
  refine ⟨stagedPlan_evaluable, ?_⟩
  have hfound : (stagedPlan.triggeredRules manualRegistry morningContext).toOption.any
      (·.any fun item => 0 < stagedPlan.decisionVolume item.1) = true := by decide +kernel
  have hevaluated : (stagedPlan.evaluate manualRegistry morningContext).2.toOption.map Option.isSome = some false := by decide +kernel
  cases hanswer : stagedPlan.triggeredRules manualRegistry morningContext with
  | error message =>
    rw [hanswer] at hfound
    cases hfound
  | ok found =>
    rw [hanswer] at hfound
    obtain ⟨item, hitem, hpos⟩ := List.any_eq_true.mp hfound
    refine ⟨found, rfl, ⟨item, hitem, of_decide_eq_true hpos⟩, ?_⟩
    cases hresult : (stagedPlan.evaluate manualRegistry morningContext).2 with
    | error message =>
      rw [hresult] at hevaluated
      cases hevaluated
    | ok decision =>
      rw [hresult] at hevaluated
      cases decision with
      | none => rfl
      | some decision => cases hevaluated

/-- The plan with one rule sells its whole position. -/
theorem highest_rule_decides_manual : ∃ decision, (soloPlan.evaluate manualRegistry morningContext).2 = .ok (some decision) ∧
    decision.ruleId = "rule" ∧ 1 ≤ decision.volume ∧ decision.volume ≤ 100 := by
  have hfound : (soloPlan.triggeredRules manualRegistry morningContext).toOption.map (·.map fun item => (item.1.ruleId, soloPlan.decisionVolume item.1)) =
      some [("rule", 100)] := by decide +kernel
  cases hanswer : soloPlan.triggeredRules manualRegistry morningContext with
  | error message =>
    rw [hanswer] at hfound
    cases hfound
  | ok found =>
    rw [hanswer] at hfound
    obtain ⟨item, rfl, hitem⟩ := List.map_eq_singleton_iff.mp (Option.some.inj hfound)
    obtain ⟨-, hdecides, hdecision⟩ := highest_rule_decides manualRegistry soloPlan morningContext _ soloPlan_evaluable hanswer
    have hvolume : soloPlan.decisionVolume item.1 = 100 := congrArg Prod.snd hitem
    have hpos : 0 < soloPlan.decisionVolume item.1 := hvolume ▸ (by decide)
    obtain ⟨decision, hresult⟩ := hdecides.mpr ⟨item, rfl, hpos⟩
    obtain ⟨best, hbest, -, hrule, hsold, hone, -⟩ := hdecision decision hresult
    rw [List.mem_singleton.mp hbest] at hrule hsold
    exact ⟨decision, hresult, hrule.trans (congrArg Prod.fst hitem), hone, (hsold.trans hvolume).le⟩

end ExitPlan
end QuantX
