import QuantX.Theorems.ExitPlan.OnceRun

namespace QuantX.ExitPlan
open Lib SellGate ExitVolume OnceRule

def LotLegal (plan : ExitPlan) (rule : ExitRuleSpec) (volume : Int) : Prop :=
  volume = plan.remainingVolume ∨ rule.sizing.lotSize ∣ volume

/-- What the booked fills leave of the target of a once rule covers the position or is whole lots. -/
def LotsLeft (plan : ExitPlan) (rule : ExitRuleSpec) : Prop :=
  rule.once = true → ∀ target, plan.ruleTargetVolumes.get? rule.ruleId = some target →
    plan.remainingVolume ≤ target - plan.ruleFilledVolumes.getD rule.ruleId 0 ∨
      rule.sizing.lotSize ∣ target - plan.ruleFilledVolumes.getD rule.ruleId 0

theorem calculate_lots (sizing : ExitSizingPolicy) {remaining : Int} (h : 0 ≤ remaining) :
    sizing.calculate remaining = remaining ∨ sizing.lotSize ∣ sizing.calculate remaining := by
  have hround : ∀ requested : Int, (if requested ≥ max 0 remaining ∧ sizing.allowOddLotFullExit = true then max 0 remaining
      else requested / sizing.lotSize * sizing.lotSize) = remaining ∨
      sizing.lotSize ∣ (if requested ≥ max 0 remaining ∧ sizing.allowOddLotFullExit = true then max 0 remaining
        else requested / sizing.lotSize * sizing.lotSize) := by
    intro requested
    split
    · exact .inl (max_eq_right h)
    · exact .inr (Int.dvd_mul_left _ _)
  unfold ExitSizingPolicy.calculate
  simp only
  split
  · exact .inr (Int.dvd_zero _)
  · exact hround _

theorem decisionVolume_lots {plan : ExitPlan} {rule : ExitRuleSpec} (hpos : 0 < plan.decisionVolume rule) :
    plan.LotLegal rule (plan.decisionVolume rule) ↔ plan.LotsLeft rule := by
  have hremaining : 0 ≤ plan.remainingVolume := le_max_left 0 _
  unfold LotLegal LotsLeft
  unfold decisionVolume at hpos ⊢
  split at hpos
  · rename_i hstarted
    obtain ⟨target, htarget⟩ := Option.isSome_iff_exists.mp hstarted.2
    have hget : plan.ruleTargetVolumes.getD rule.ruleId 0 = target := by rw [Dict.getD, htarget, Option.getD_some]
    rw [if_pos hstarted, hget]
    have hleft : 0 < target - plan.ruleFilledVolumes.getD rule.ruleId 0 := by
      have := hpos.trans_le (min_le_right _ _)
      omega
    rw [max_eq_right hleft.le]
    constructor
    · rintro hlegal - target' htarget'
      obtain rfl : target = target' := Option.some.inj (htarget.symm.trans htarget')
      rcases le_total plan.remainingVolume (target - plan.ruleFilledVolumes.getD rule.ruleId 0) with hcovers | hpart
      · exact .inl hcovers
      · rw [min_eq_right hpart] at hlegal
        exact hlegal.imp_left ge_of_eq
    · intro hlots
      rcases hlots hstarted.1 target htarget with hcovers | hlots
      · exact .inl (min_eq_left hcovers)
      · rcases le_total plan.remainingVolume (target - plan.ruleFilledVolumes.getD rule.ruleId 0) with hcovers | hpart
        · exact .inl (min_eq_left hcovers)
        · rw [min_eq_right hpart]
          exact .inr hlots
  · rename_i hfresh
    rw [if_neg hfresh]
    refine ⟨fun _ honce target htarget => ?_, fun _ => calculate_lots _ hremaining⟩
    exact absurd ⟨honce, Option.isSome_iff_exists.mpr ⟨target, htarget⟩⟩ hfresh


/-- In every run with an honest broker, a decision sells the whole position or whole lots if and only if its rule is no
    once rule whose fills leave a broken lot of the target. -/
theorem exit_lots_iff (registry : ExitStrategyRegistry) (log : History) (s : ExitRun) (h : HonestReaches registry log s) :
    (∀ m ∈ log, ∀ code context, m.op = .evaluate code context → ∀ d ∈ m.after.offered,
      ∃ plan, m.before.book.plans.get? d.planId = some plan ∧ ∃ rule ∈ plan.template.rules,
        d.ruleId = rule.ruleId ∧ d.volume = plan.decisionVolume rule ∧ (plan.LotLegal rule d.volume ↔ plan.LotsLeft rule)) ∧
    ((∀ m ∈ log, ∀ id plan, m.before.book.plans.get? id = some plan → ∀ rule ∈ plan.template.rules, plan.LotsLeft rule) →
      ∀ m ∈ log, ∀ code context, m.op = .evaluate code context → ∀ d ∈ m.after.offered,
        ∃ plan, m.before.book.plans.get? d.planId = some plan ∧ ∃ rule ∈ plan.template.rules,
          d.ruleId = rule.ruleId ∧ plan.LotLegal rule d.volume) := by
  have hdecided : ∀ m ∈ log, ∀ code context, m.op = .evaluate code context → ∀ d ∈ m.after.offered,
      ∃ plan, m.before.book.plans.get? d.planId = some plan ∧ ∃ rule ∈ plan.template.rules,
        d.ruleId = rule.ruleId ∧ d.volume = plan.decisionVolume rule ∧ (plan.LotLegal rule d.volume ↔ plan.LotsLeft rule) := by
    refine h.moments fun log s op _ _ => ?_
    rintro code context rfl d hd
    obtain ⟨plan, hplan, hdecision⟩ := ExitPlanBook.evaluate_plan_of_decision hd
    obtain ⟨rule, hrule, hid, hvolume⟩ := (evaluate_sized registry plan context).2 d hdecision
    have hpos := ((evaluate_spec registry plan context).2 d hdecision).volume_pos
    rw [hvolume] at hpos
    refine ⟨plan, hplan, rule, hrule, hid, hvolume, ?_⟩
    rw [hvolume]
    exact decisionVolume_lots hpos
  refine ⟨hdecided, fun hlots m hm code context hop d hd => ?_⟩
  obtain ⟨plan, hplan, rule, hrule, hid, -, hiff⟩ := hdecided m hm code context hop d hd
  exact ⟨plan, hplan, rule, hrule, hid, hiff.mpr (hlots m hm d.planId plan hplan rule hrule)⟩

/-- The first decision of the stage sells five lots. -/
theorem exit_lots_stage : ∃ d ∈ onceOffered.offered, ∃ plan, onceHeld.book.plans.get? d.planId = some plan ∧
    ∃ rule ∈ plan.template.rules, d.ruleId = rule.ruleId ∧ plan.LotLegal rule d.volume := by
  have hlots := (exit_lots_iff manualRegistry onceLog onceMarked onceMarked_reached.honest).1
  obtain ⟨plan, hplan, rule, hrule, hid, -, hiff⟩ := hlots ⟨onceHeld, .evaluate "600000.SH" morningContext, onceOffered⟩
    (List.mem_cons_of_mem _ (List.mem_cons_self ..)) _ _ rfl onceDecision (List.head_mem _)
  refine ⟨onceDecision, List.head_mem _, plan, hplan, rule, hrule, hid, hiff.mpr fun _ target htarget => ?_⟩
  have hnone : (onceHeld.book.plans.get? onceDecision.planId).all (·.ruleTargetVolumes.entries.isEmpty) = true := by decide +kernel
  rw [hplan] at hnone
  have hempty : plan.ruleTargetVolumes.entries = [] := List.isEmpty_iff.mp hnone
  have hmem := Dict.mem_entries.mpr htarget
  rw [hempty] at hmem
  cases hmem

def brokenFill : ExitFill := { planId := "plan", volume := 230, price := 11, intentId := "i1", ruleId := "stage" }

def brokenReport : OrderEvent := { planId := "plan", intentId := "i1", status := .cancelled, cumulativeFilledVolume := .int 230 }

def brokenRun : ExitRun :=
  (onceMarked.step manualRegistry (.applyExitFill brokenFill)).step manualRegistry (.applyOrderEvent brokenReport)

def retryRun : ExitRun := brokenRun.step manualRegistry (.evaluate "600000.SH" morningContext)

def retryLog : History :=
  [⟨brokenRun, .evaluate "600000.SH" morningContext, retryRun⟩,
    ⟨onceMarked.step manualRegistry (.applyExitFill brokenFill), .applyOrderEvent brokenReport, brokenRun⟩,
    ⟨onceMarked, .applyExitFill brokenFill, onceMarked.step manualRegistry (.applyExitFill brokenFill)⟩] ++ onceLog

/-- The retry sells 270 of the remaining 770 shares, in lots of 100. -/
theorem broken_lot_retry : HonestReaches manualRegistry retryLog retryRun ∧
    ∃ d ∈ retryRun.offered, ∃ plan, brokenRun.book.plans.get? d.planId = some plan ∧ plan.remainingVolume = 770 ∧ d.volume = 270 ∧
      ∀ rule ∈ plan.template.rules, rule.sizing.lotSize = 100 ∧ rule.sizing.allowOddLotFullExit = true ∧ ¬ plan.LotLegal rule d.volume := by
  have hfill : HonestLegal onceLog onceMarked (.applyExitFill brokenFill) := ⟨trivial, fun _ => by decide +kernel⟩
  refine ⟨((onceMarked_reached.honest.step (.applyExitFill brokenFill) hfill).step (.applyOrderEvent brokenReport)
    ⟨trivial, trivial⟩).step (.evaluate "600000.SH" morningContext) ⟨trivial, trivial⟩, ?_⟩
  have hdecisions : retryRun.offered.any (fun d => (brokenRun.book.plans.get? d.planId).any fun plan =>
      plan.remainingVolume = 770 ∧ d.volume = 270 ∧
        ∀ rule ∈ plan.template.rules, rule.sizing.lotSize = 100 ∧ rule.sizing.allowOddLotFullExit = true) = true := by decide +kernel
  obtain ⟨d, hd, hplan⟩ := List.any_eq_true.mp hdecisions
  cases hget : brokenRun.book.plans.get? d.planId with
  | none =>
    rw [hget] at hplan
    cases hplan
  | some plan =>
    rw [hget] at hplan
    obtain ⟨hremaining, hvolume, hrules⟩ := of_decide_eq_true hplan
    refine ⟨d, hd, plan, hget, hremaining, hvolume, fun rule hrule => ⟨(hrules rule hrule).1, (hrules rule hrule).2, ?_⟩⟩
    rw [LotLegal, hremaining, hvolume, (hrules rule hrule).1]
    decide

end QuantX.ExitPlan
