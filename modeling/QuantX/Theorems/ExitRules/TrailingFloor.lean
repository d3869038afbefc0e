import QuantX.Lib.Rank
import QuantX.Theorems.ExitPlan.Calls
import QuantX.Theorems.ExitRules.Adaptive

namespace QuantX
open Lib ExitPlan

namespace ExitRules
variable {rule : ExitRuleSpec} {plan : ExitPlan} {context : ExitEvaluationContext} {own own' : Dict String PyVal}
variable {evaluator : ExitRuleEvaluator}

/-- The floor that a policy asks for at a peak. A policy that cannot be read asks for none. -/
def policyFloor (policy : Except String TrailingProfitPolicy) (peak : Rat) : Option Rat :=
  match policy with
  | .ok policy => if policy.targetProfitPct ≤ peak then some (policy.candidate peak) else none
  | .error _ => none

theorem calculateTrailingFloorPct_eq (peak : Rat) (previous : Option Rat) (policy : TrailingProfitPolicy) :
    calculateTrailingFloorPct peak previous policy = raise previous (policyFloor (.ok policy) peak) := by
  unfold calculateTrailingFloorPct policyFloor
  by_cases hpeak : peak < policy.targetProfitPct
  · simp only
    rw [if_pos hpeak, if_neg hpeak.not_ge]
    rfl
  · simp only
    rw [if_neg hpeak, if_pos (not_lt.mp hpeak)]
    cases previous with
    | none => rfl
    | some floor => exact congrArg some (max_comm _ _)

def floorIn (scratch : RuleScratch) (ruleId : String) : Option Rat := floorOf (scratch.ruleState.getD ruleId .empty)

/-- The candidate that an evaluation of a trailing rule brings. The adaptive rule has none while it waits or has no price. -/
def candidateOf (call : RuleCall) : Option Rat :=
  if call.rule.strategy = "TRAILING_NET_PROFIT" then policyFloor (trailingPolicy call.rule) call.plan.peakNetProfitPct
  else if call.rule.strategy = "ADAPTIVE_VOLUME_PRICE_TRAILING" ∧
      isArmed (call.scratch.ruleState.getD call.rule.ruleId .empty) ∧ priceAvailable call.context then
    policyFloor (adaptivePolicy call.rule) call.plan.peakNetProfitPct
  else none

theorem candidateOf_none {call : RuleCall} (hnot : call.rule.strategy ≠ "TRAILING_NET_PROFIT" ∧
    call.rule.strategy ≠ "ADAPTIVE_VOLUME_PRICE_TRAILING") : candidateOf call = none := by
  rw [candidateOf, if_neg hnot.1, if_neg fun hkind => hnot.2 hkind.1]

def candidates (ruleId : String) (calls : List RuleCall) : List Rat :=
  calls.filterMap fun call => if call.rule.ruleId = ruleId then candidateOf call else none

theorem candidates_cons (ruleId : String) (call : RuleCall) (calls : List RuleCall) :
    candidates ruleId (call :: calls) = (if call.rule.ruleId = ruleId then candidateOf call else none).toList ++ candidates ruleId calls := by
  rw [candidates, List.filterMap_cons]
  split
  · rename_i hnone
    rw [hnone]
    rfl
  · rename_i hsome
    rw [hsome]
    rfl

/-! ### One evaluation -/

structure FloorStep (rule : ExitRuleSpec) (plan : ExitPlan) (candidate : Option Rat) (scratch : RuleScratch) : Prop where
  others : ∀ ruleId, ruleId ≠ rule.ruleId → scratch.ruleState.get? ruleId = plan.ruleState.get? ruleId
  floor : floorIn scratch rule.ruleId = raise (floorIn plan.scratch rule.ruleId) candidate
  greatest : plan.trailingFloorPct = greatestFloor plan.ruleState → scratch.trailingFloorPct = greatestFloor scratch.ruleState

theorem floorIn_set (ruleState : Dict String (Dict String PyVal)) (ruleId : String) (own : Dict String PyVal) (floor : Option Rat) :
    floorIn ⟨ruleState.set ruleId own, floor⟩ ruleId = floorOf own := by
  rw [floorIn, Dict.getD, Dict.get?_set_self]
  rfl

namespace FloorStep

theorem same (rule : ExitRuleSpec) (plan : ExitPlan) : FloorStep rule plan none plan.scratch := ⟨fun _ _ => rfl, rfl, id⟩

theorem keep (h : floorOf own = floorOf (ownState rule plan)) : FloorStep rule plan none (keepState rule plan own) where
  others _ hne := Dict.get?_set_ne _ _ (Ne.symm hne)
  floor := (floorIn_set _ _ _ _).trans h
  greatest hplan := by
    have hbind : (plan.ruleState.get? rule.ruleId).bind floorOf = floorOf own := by
      rw [h, ownState, Dict.getD]
      cases plan.ruleState.get? rule.ruleId with
      | none => rfl
      | some stored => rfl
    refine hplan.trans ?_
    rw [greatestFloor, greatestFloor, keepState, Dict.filterMap_values_set hbind]

end FloorStep

/-- What holds of the scratch of a value that cannot be read, and of what follows where it can. -/
theorem reading_scratch {α : Type} {P : RuleScratch → Prop} {scratch : RuleScratch} {value : Except String α}
    {f : α → RuleScratch × Except String ExitRuleMatch} (hscratch : P scratch) (h : ∀ a, P (f a).1) : P (reading scratch value f).1 := by
  cases value with
  | error => exact hscratch
  | ok a => exact h a

theorem rapidProfitReversal_floor : FloorStep rule plan none (rapidProfitReversal rule plan context).1 := by
  unfold rapidProfitReversal
  have hpeak : ∀ observedPeak, floorOf (notePeakProfit plan context (ownState rule plan) observedPeak) = floorOf (ownState rule plan) := by
    intro observedPeak
    have hkept : Dict.Keeps ["observed_peak_net_profit_pct", "peak_timestamp_ms", "consecutive_matches"] (ownState rule plan)
        (notePeakProfit plan context (ownState rule plan) observedPeak) := by
      unfold notePeakProfit
      split
      · exact .update (by simp) _
      · exact .refl _ _
    exact floorOf_congr (hkept _ (by decide))
  refine reading_scratch (.same rule plan) fun _ => reading_scratch (.same rule plan) fun _ => reading_scratch (.same rule plan) fun _ =>
    reading_scratch (.same rule plan) fun _ => reading_scratch (.keep rfl) fun observedPeak => reading_scratch (.keep (hpeak observedPeak))
    fun _ => reading_scratch (.keep (hpeak observedPeak)) fun _ => .keep ?_
  exact (floorOf_congr (Dict.get?_set_ne _ _ (by decide))).trans (hpeak observedPeak)

theorem limitUpBreak_floor (hnone : floorOf (ownState rule plan) = none) : FloorStep rule plan none (limitUpBreak rule plan context).1 := by
  have hopen : floorOf (openSealDay context.tradeDate (ownState rule plan)) = none := by
    unfold openSealDay
    split
    · exact hnone
    · rfl
  have hwatch : ∀ terms touch, floorOf (watchSeal terms context touch (openSealDay context.tradeDate (ownState rule plan))) = none := by
    intro terms touch
    have hkept : Dict.Keeps ["touch_started_at_ms", "armed"] (openSealDay context.tradeDate (ownState rule plan))
        (watchSeal terms context touch (openSealDay context.tradeDate (ownState rule plan))) := by
      unfold watchSeal
      simp only
      split_ifs
      · exact .trans (.set (by decide) _ _) (.set (by decide) _ _)
      · exact .set (by decide) _ _
      · exact .set (by decide) _ _
      · exact .refl _ _
      · exact .refl _ _
      · exact .set (by decide) _ _
    exact (floorOf_congr (hkept _ (by decide))).trans hopen
  unfold limitUpBreak
  refine reading_scratch (.keep (hopen.trans hnone.symm)) fun terms => reading_scratch (.keep (hopen.trans hnone.symm)) fun touch => .keep ?_
  exact (hwatch terms touch).trans hnone.symm

theorem trailingNetProfit_floor :
    FloorStep rule plan (policyFloor (trailingPolicy rule) plan.peakNetProfitPct) (trailingNetProfit rule plan context).1 ∧
      ∀ found, (trailingNetProfit rule plan context).2 = .ok found → (found.triggered = true ↔
        ∃ floor, floorIn (trailingNetProfit rule plan context).1 rule.ruleId = some floor ∧ plan.lastNetProfitPct ≤ floor) := by
  unfold trailingNetProfit
  cases hpolicy : trailingPolicy rule with
  | error error => exact ⟨.same rule plan, fun _ h => by cases h⟩
  | ok policy =>
    simp only [reading]
    have hfloor : ∀ trailingFloor, floorIn (keepFloor rule plan (ownState rule plan) trailingFloor) rule.ruleId = trailingFloor :=
      fun trailingFloor => (floorIn_set _ _ _ _).trans (floorOf_stored (Dict.get?_set_self ..))
    refine ⟨⟨fun _ hne => Dict.get?_set_ne _ _ (Ne.symm hne), ?_, fun _ => rfl⟩, ?_⟩
    · rw [hfloor, calculateTrailingFloorPct_eq]
      rfl
    · rintro found ⟨⟩
      rw [hfloor]
      simp [Option.any_eq_true]

theorem adaptive_floor (context : ExitEvaluationContext) (hstrategy : rule.strategy = "ADAPTIVE_VOLUME_PRICE_TRAILING") (hown : AdaptiveOwn (ownState rule plan)) :
    FloorStep rule plan (candidateOf (ExitRuleEvaluator.call adaptiveVolumePriceTrailing rule plan context))
        (adaptiveVolumePriceTrailing rule plan context).1 ∧
      AdaptiveOwn ((adaptiveVolumePriceTrailing rule plan context).1.ruleState.getD rule.ruleId .empty) := by
  obtain ⟨samples, stored, hopen⟩ := hown.open context.tradeDate
  obtain ⟨own', hstep⟩ := adaptive_step rfl hopen.window hopen.numbers hopen.count
  have hstate : (adaptiveVolumePriceTrailing rule plan context).1.ruleState.getD rule.ruleId .empty = own' := by
    rw [hstep.ruleState, Dict.getD, Dict.get?_set_self]
    rfl
  have hbefore : floorOf (openWindowDay context.tradeDate (ownState rule plan)) = floorIn plan.scratch rule.ruleId :=
    floorOf_congr (keeps_openWindowDay _ _ (by decide))
  have hcandidate : candidateOf (ExitRuleEvaluator.call adaptiveVolumePriceTrailing rule plan context) =
      if isArmed own' ∧ priceAvailable context then policyFloor (adaptivePolicy rule) plan.peakNetProfitPct else none := by
    unfold candidateOf ExitRuleEvaluator.call
    rw [hstate, if_neg (by rw [hstrategy]; decide)]
    simp [hstrategy]
  have hothers : ∀ ruleId, ruleId ≠ rule.ruleId →
      (adaptiveVolumePriceTrailing rule plan context).1.ruleState.get? ruleId = plan.ruleState.get? ruleId := by
    intro ruleId hne
    rw [hstep.ruleState]
    exact Dict.get?_set_ne _ _ (Ne.symm hne)
  refine ⟨?_, ?_⟩
  · rw [hcandidate]
    rcases hstep.floor with ⟨policy, hpolicy, hfollowed, hfloor, hgreatest⟩ | ⟨hquiet, hfloor, hgreatest⟩
    · rw [if_pos hfollowed, hpolicy]
      refine ⟨hothers, ?_, fun _ => hgreatest⟩
      rw [floorIn, hstate, hfloor, hbefore, calculateTrailingFloorPct_eq]
    · have hnone : (if isArmed own' ∧ priceAvailable context then policyFloor (adaptivePolicy rule) plan.peakNetProfitPct else none) =
          none := by
        split
        · rename_i hfollowed
          cases hpolicy : adaptivePolicy rule with
          | error error => rfl
          | ok policy => exact absurd hfollowed (hquiet policy hpolicy)
        · rfl
      rw [hnone]
      have hkeep : FloorStep rule plan none (keepState rule plan own') := .keep (hfloor.trans hbefore)
      refine ⟨hothers, ?_, fun hplan => ?_⟩
      · rw [floorIn, hstate, hfloor, hbefore]
        rfl
      · rw [hgreatest, hstep.ruleState]
        exact hkeep.greatest hplan
  · rw [hstate]
    exact hstep.wellFormed hopen.date

theorem register_all {Q : String → ExitRuleEvaluator → Prop} {registry : ExitStrategyRegistry} {name : String}
    (h : ∀ strategy found, registry strategy = some found → Q strategy found) (hnew : Q name.toUpper evaluator) :
    ∀ strategy found, registry.register name evaluator strategy = some found → Q strategy found := by
  intro strategy found hfound
  unfold ExitStrategyRegistry.register at hfound
  split at hfound
  · rename_i hname
    rw [hname, ← Option.some.inj hfound]
    exact hnew
  · exact h strategy found hfound

/-- The trailing rules, and the other ones, which store no floor where there is none. -/
inductive FloorRule : String → ExitRuleEvaluator → Prop
  | trailing : FloorRule "TRAILING_NET_PROFIT" trailingNetProfit
  | adaptive : FloorRule "ADAPTIVE_VOLUME_PRICE_TRAILING" adaptiveVolumePriceTrailing
  | other {strategy : String} {evaluator : ExitRuleEvaluator} (hstrategy : strategy ≠ "TRAILING_NET_PROFIT" ∧
      strategy ≠ "ADAPTIVE_VOLUME_PRICE_TRAILING") (h : ∀ rule plan context, floorOf (ownState rule plan) = none →
        FloorStep rule plan none (evaluator rule plan context).1) : FloorRule strategy evaluator

theorem FloorRule.stateless {strategy : String} (judge : ExitRuleSpec → ExitPlan → ExitEvaluationContext → Except String ExitRuleMatch)
    (hstrategy : strategy ≠ "TRAILING_NET_PROFIT" ∧ strategy ≠ "ADAPTIVE_VOLUME_PRICE_TRAILING") :
    FloorRule strategy (QuantX.stateless judge) :=
  .other hstrategy fun rule plan _ _ => .same rule plan

theorem builtins_floor (fromisoformat : PyVal → Option Nat) :
    ∀ strategy evaluator, ExitStrategyRegistry.builtins fromisoformat strategy = some evaluator → FloorRule strategy evaluator := by
  have htrailing : "TRAILING_NET_PROFIT".toUpper = "TRAILING_NET_PROFIT" := by decide +kernel
  have hadaptive : "ADAPTIVE_VOLUME_PRICE_TRAILING".toUpper = "ADAPTIVE_VOLUME_PRICE_TRAILING" := by decide +kernel
  have hplain : FloorRule "TRAILING_NET_PROFIT".toUpper trailingNetProfit := by
    rw [htrailing]
    exact .trailing
  have hfollow : FloorRule "ADAPTIVE_VOLUME_PRICE_TRAILING".toUpper adaptiveVolumePriceTrailing := by
    rw [hadaptive]
    exact .adaptive
  have hreversal : FloorRule "RAPID_PROFIT_REVERSAL".toUpper rapidProfitReversal :=
    .other (by decide +kernel) fun _ _ _ _ => rapidProfitReversal_floor
  have hseal : FloorRule "LIMIT_UP_BREAK".toUpper limitUpBreak := .other (by decide +kernel) fun _ _ _ h => limitUpBreak_floor h
  unfold ExitStrategyRegistry.builtins
  refine register_all (register_all (register_all (register_all (register_all (register_all (register_all (register_all (register_all
    (register_all (register_all (register_all (register_all (register_all ?_ ?_) ?_) ?_) ?_) hplain) hfollow) hreversal) ?_) ?_) ?_) ?_)
    ?_) hseal) ?_
  · exact fun _ _ h => by cases h
  all_goals exact .stateless _ (by decide +kernel)

/-! ### All evaluations of a plan -/

structure FloorsKept (strategyOf : String → String) (calls : List RuleCall) (scratch : RuleScratch) : Prop where
  stored : ∀ ruleId, floorIn scratch ruleId = (candidates ruleId calls).max?
  others : ∀ ruleId, strategyOf ruleId ≠ "TRAILING_NET_PROFIT" ∧ strategyOf ruleId ≠ "ADAPTIVE_VOLUME_PRICE_TRAILING" →
    floorIn scratch ruleId = none
  greatest : scratch.trailingFloorPct = greatestFloor scratch.ruleState
  adaptive : ∀ ruleId, strategyOf ruleId = "ADAPTIVE_VOLUME_PRICE_TRAILING" → AdaptiveOwn (scratch.ruleState.getD ruleId .empty)

variable {strategyOf : String → String} {calls : List RuleCall} {fromisoformat : PyVal → Option Nat}

theorem FloorsKept.call (call : RuleCall) (h : FloorsKept strategyOf calls call.plan.scratch)
    (hstrategy : call.rule.strategy = strategyOf call.rule.ruleId)
    (hstep : FloorStep call.rule call.plan (candidateOf call) call.scratch)
    (hadaptive : strategyOf call.rule.ruleId = "ADAPTIVE_VOLUME_PRICE_TRAILING" →
      AdaptiveOwn (call.scratch.ruleState.getD call.rule.ruleId .empty)) :
    FloorsKept strategyOf (call :: calls) call.scratch := by
  have hother : ∀ ruleId, ruleId ≠ call.rule.ruleId →
      call.scratch.ruleState.getD ruleId .empty = call.plan.ruleState.getD ruleId .empty := by
    intro ruleId hne
    rw [Dict.getD, Dict.getD, hstep.others ruleId hne]
  have hfloor : ∀ ruleId, ruleId ≠ call.rule.ruleId → floorIn call.scratch ruleId = floorIn call.plan.scratch ruleId :=
    fun ruleId hne => congrArg floorOf (hother ruleId hne)
  refine ⟨fun ruleId => ?_, fun ruleId hnot => ?_, hstep.greatest h.greatest, fun ruleId hkind => ?_⟩
  · rw [candidates_cons, max?_append_toList, ← h.stored]
    by_cases hsame : call.rule.ruleId = ruleId
    · subst hsame
      rw [if_pos rfl, hstep.floor]
    · rw [if_neg hsame, hfloor ruleId (Ne.symm hsame)]
      rfl
  · by_cases hsame : ruleId = call.rule.ruleId
    · subst hsame
      rw [hstep.floor, h.others _ hnot, candidateOf_none (hstrategy ▸ hnot)]
      rfl
    · rw [hfloor ruleId hsame]
      exact h.others ruleId hnot
  · by_cases hsame : ruleId = call.rule.ruleId
    · subst hsame
      exact hadaptive hkind
    · rw [hother ruleId hsame]
      exact h.adaptive ruleId hkind

/-- What is claimed of one evaluation of a rule and those before it. -/
def CallFloor (call : RuleCall) (earlier : List RuleCall) : Prop :=
  floorIn call.scratch call.rule.ruleId = (candidates call.rule.ruleId (call :: earlier)).max? ∧
    (call.rule.strategy = "TRAILING_NET_PROFIT" → ∀ found, call.result = .ok found → (found.triggered = true ↔
      ∃ floor, floorIn call.scratch call.rule.ruleId = some floor ∧ call.plan.lastNetProfitPct ≤ floor))

theorem FloorsKept.builtin (h : FloorsKept strategyOf calls plan.scratch) (context : ExitEvaluationContext)
    (hstrategy : rule.strategy = strategyOf rule.ruleId)
    (hevaluator : ExitStrategyRegistry.builtins fromisoformat rule.strategy = some evaluator) :
    FloorsKept strategyOf (ExitRuleEvaluator.call evaluator rule plan context :: calls) (evaluator rule plan context).1 ∧
      CallFloor (ExitRuleEvaluator.call evaluator rule plan context) calls := by
  have hkind := builtins_floor fromisoformat rule.strategy evaluator hevaluator
  generalize hname : rule.strategy = name at hkind
  have hkept : FloorsKept strategyOf (ExitRuleEvaluator.call evaluator rule plan context :: calls) (evaluator rule plan context).1 := by
    cases hkind with
    | trailing =>
      have hcandidate : candidateOf (ExitRuleEvaluator.call trailingNetProfit rule plan context) =
          policyFloor (trailingPolicy rule) plan.peakNetProfitPct := if_pos hname
      refine FloorsKept.call (ExitRuleEvaluator.call trailingNetProfit rule plan context) h hstrategy ?_ fun hadaptive => ?_
      · rw [hcandidate]
        exact trailingNetProfit_floor.1
      · have hclash := (hadaptive.symm.trans hstrategy.symm).trans hname
        simp at hclash
    | adaptive =>
      obtain ⟨hstep, hown⟩ := adaptive_floor context hname (h.adaptive rule.ruleId (hstrategy.symm.trans hname))
      exact FloorsKept.call (ExitRuleEvaluator.call adaptiveVolumePriceTrailing rule plan context) h hstrategy hstep fun _ => hown
    | other hnot hfloor =>
      rw [← hname] at hnot
      have hcandidate : candidateOf (ExitRuleEvaluator.call evaluator rule plan context) = none := candidateOf_none hnot
      refine FloorsKept.call (ExitRuleEvaluator.call evaluator rule plan context) h hstrategy ?_ fun hadaptive => ?_
      · rw [hcandidate]
        refine hfloor rule plan context ?_
        rw [hstrategy] at hnot
        exact h.others rule.ruleId hnot
      · exact absurd (hstrategy.trans hadaptive) hnot.2
  refine ⟨hkept, hkept.stored rule.ruleId, fun hplain => ?_⟩
  have hplain : rule.strategy = "TRAILING_NET_PROFIT" := hplain
  cases hkind with
  | trailing => exact trailingNetProfit_floor.2
  | adaptive =>
    have hclash := hname.symm.trans hplain
    simp at hclash
  | other hnot => exact absurd (hname.symm.trans hplain) hnot.1

def KeepsStrategies (strategyOf : String → String) (template : ExitPlanTemplate) : Prop :=
  ∀ rule ∈ template.rules, rule.strategy = strategyOf rule.ruleId

/-- A run of a plan that is new to its rules, with templates that keep the strategies. -/
abbrev PlanRun (fromisoformat : PyVal → Option Nat) (strategyOf : String → String) (log : List PlanMoment) (plan : ExitPlan) : Prop :=
  Run (fun plan => plan.ruleState = .empty ∧ plan.trailingFloorPct = none ∧ KeepsStrategies strategyOf plan.template)
    (take (ExitStrategyRegistry.builtins fromisoformat))
    (fun _ _ op => ∀ template, op = .applyTemplate template → KeepsStrategies strategyOf template) log plan

def LogKept (strategyOf : String → String) (calls : List RuleCall) (scratch : RuleScratch) : Prop :=
  FloorsKept strategyOf calls scratch ∧ ∀ later call earlier, calls = later ++ call :: earlier → CallFloor call earlier

theorem PlanRun.kept {log : List PlanMoment} (h : PlanRun fromisoformat strategyOf log plan) :
    KeepsStrategies strategyOf plan.template ∧
      LogKept strategyOf (callLog (ExitStrategyRegistry.builtins fromisoformat) log) plan.scratch := by
  refine h.invariant (fun log plan => KeepsStrategies strategyOf plan.template ∧
    LogKept strategyOf (callLog (ExitStrategyRegistry.builtins fromisoformat) log) plan.scratch) ?_ ?_
  · rintro plan ⟨hempty, hnone, htemplate⟩
    have hstored : ∀ ruleId, floorIn plan.scratch ruleId = none := by
      intro ruleId
      rw [floorIn, scratch, hempty]
      rfl
    refine ⟨htemplate, ⟨hstored, fun ruleId _ => hstored ruleId, ?_, fun ruleId _ => ?_⟩, by simp [callLog]⟩
    · rw [scratch, hnone, hempty]
      rfl
    · rw [scratch, hempty]
      exact .inl rfl
  · rintro log plan op ⟨htemplate, hkept⟩ hop
    refine ⟨?_, ?_⟩
    · rcases take_template plan op with hsame | ⟨template, hnew, hbrought⟩
      · rw [hsame]
        exact htemplate
      · rw [hbrought]
        exact hop template hnew
    · have hlog : callLog (ExitStrategyRegistry.builtins fromisoformat) (⟨plan, op, take (ExitStrategyRegistry.builtins fromisoformat) plan op⟩ :: log) =
          (callsOf (ExitStrategyRegistry.builtins fromisoformat) plan op).reverse ++ callLog (ExitStrategyRegistry.builtins fromisoformat) log :=
        List.flatMap_cons
      rw [hlog]
      by_cases hevaluate : ∃ context, op = .evaluate context
      · obtain ⟨context, rfl⟩ := hevaluate
        refine evaluate_calls (P := LogKept strategyOf) htemplate ?_ hkept
        rintro rule evaluator plan calls hstrategy hevaluator ⟨hfloors, hcalls⟩
        obtain ⟨hnext, hcall⟩ := hfloors.builtin context hstrategy hevaluator
        refine ⟨hnext, ?_⟩
        rintro (_ | ⟨last, later⟩) call earlier hsplit
        · obtain ⟨rfl, rfl⟩ := List.cons.inj hsplit
          exact hcall
        · exact hcalls later call earlier (List.cons.inj hsplit).2
      · obtain ⟨hscratch, hnone⟩ := take_scratch (ExitStrategyRegistry.builtins fromisoformat) plan
          fun context heq => hevaluate ⟨context, heq⟩
        rw [hscratch, hnone]
        exact hkept

def FloorsRise (plan next : ExitPlan) : Prop :=
  (∀ ruleId, AtMost (floorIn plan.scratch ruleId) (floorIn next.scratch ruleId)) ∧ AtMost plan.trailingFloorPct next.trailingFloorPct

theorem FloorsKept.rise {more : List RuleCall} {next : ExitPlan} (h : FloorsKept strategyOf calls plan.scratch)
    (h' : FloorsKept strategyOf (more ++ calls) next.scratch) : FloorsRise plan next := by
  have hrules : ∀ ruleId, AtMost (floorIn plan.scratch ruleId) (floorIn next.scratch ruleId) := by
    intro ruleId
    rw [h.stored, h'.stored, candidates, candidates, List.filterMap_append]
    exact .max? fun x hx => ⟨x, List.mem_append_right _ hx, le_refl x⟩
  refine ⟨hrules, ?_⟩
  have hplan : plan.trailingFloorPct = greatestFloor plan.ruleState := h.greatest
  have hnext : next.trailingFloorPct = greatestFloor next.ruleState := h'.greatest
  rw [hplan, hnext]
  refine .max? fun x hx => ?_
  obtain ⟨own, hown, hfloor⟩ := List.mem_filterMap.mp hx
  obtain ⟨ruleId, hget⟩ := Dict.mem_values.mp hown
  obtain ⟨y, hy, hxy⟩ := hrules ruleId x (by
    rw [floorIn, scratch, Dict.getD, hget]
    exact hfloor)
  have hy : floorOf ((next.ruleState.get? ruleId).getD .empty) = some y := hy
  cases hafter : next.ruleState.get? ruleId with
  | none =>
    rw [hafter] at hy
    cases hy
  | some own' =>
    rw [hafter] at hy
    exact ⟨y, List.mem_filterMap.mpr ⟨own', Dict.mem_values.mpr ⟨ruleId, hafter⟩, hy⟩, hxy⟩

/-- However a plan is evaluated, filled, replaced and stopped: after each evaluation of a rule its stored floor is the
    greatest candidate so far, the plain rule triggers at it exactly, and the floors of rules and plan never fall. -/
theorem trailing_floor_greatest {log : List PlanMoment} (h : PlanRun fromisoformat strategyOf log plan) :
    (∀ later call earlier, callLog (ExitStrategyRegistry.builtins fromisoformat) log = later ++ call :: earlier →
      floorIn call.scratch call.rule.ruleId = (candidates call.rule.ruleId (call :: earlier)).max? ∧
      (call.rule.strategy = "TRAILING_NET_PROFIT" → ∀ found, call.result = .ok found → (found.triggered = true ↔
        ∃ floor, floorIn call.scratch call.rule.ruleId = some floor ∧ call.plan.lastNetProfitPct ≤ floor))) ∧
    (∀ ruleId, floorIn plan.scratch ruleId = (candidates ruleId (callLog (ExitStrategyRegistry.builtins fromisoformat) log)).max?) ∧
    ∀ m ∈ log, (∀ ruleId, AtMost (floorIn m.before.scratch ruleId) (floorIn plan.scratch ruleId)) ∧
      AtMost m.before.trailingFloorPct plan.trailingFloorPct := by
  obtain ⟨-, hfloors, hcalls⟩ := PlanRun.kept h
  refine ⟨hcalls, hfloors.stored, fun m hm => ?_⟩
  have hstep : ∀ log plan op, PlanRun fromisoformat strategyOf log plan →
      (∀ template, op = .applyTemplate template → KeepsStrategies strategyOf template) →
        FloorsRise plan (take (ExitStrategyRegistry.builtins fromisoformat) plan op) := by
    intro log plan op hrun hop
    have hnext := (PlanRun.kept (Run.step hrun op hop)).2.1
    exact (PlanRun.kept hrun).2.1.rise hnext
  have hlast : FloorsRise m.before m.after := h.moments (P := fun m => FloorsRise m.before m.after) hstep m hm
  have hsince : FloorsRise m.after plan := by
    refine h.since (R := FloorsRise) (fun plan => ⟨fun _ => .refl _, .refl _⟩) (fun a b c hab hbc => ?_) hstep m hm
    exact ⟨fun ruleId => (hab.1 ruleId).trans (hbc.1 ruleId), hab.2.trans hbc.2⟩
  exact ⟨fun ruleId => (hlast.1 ruleId).trans (hsince.1 ruleId), hlast.2.trans hsince.2⟩

def noTimes : PyVal → Option Nat := fun _ => none
abbrev builtinRules : ExitStrategyRegistry := ExitStrategyRegistry.builtins noTimes

def floorPlan (rule : ExitRuleSpec) : ExitPlan :=
  ({ template := { manualTemplate with rules := [rule], rules_ne := List.cons_ne_nil _ _ } } : ExitPlan).registerEntryFill 1000 10 none

def priceSeen (price age : Rat) : PlanOp := .evaluate { morningContext with currentPrice := price, marketDataAgeSeconds := age }

def priced (plan : ExitPlan) (price age : Rat) : ExitPlan := take builtinRules plan (priceSeen price age)

theorem floorPlan_run (rule : ExitRuleSpec) : PlanRun noTimes (fun _ => rule.strategy) [] (floorPlan rule) :=
  .start ⟨rfl, rfl, fun other hother => by rw [List.mem_singleton.mp hother]⟩

theorem priced_run {strategyOf : String → String} {log : List PlanMoment} (h : PlanRun noTimes strategyOf log plan) (price age : Rat) :
    PlanRun noTimes strategyOf (⟨plan, priceSeen price age, priced plan price age⟩ :: log) (priced plan price age) :=
  .step h (priceSeen price age) fun _ heq => by cases heq

def plainRule : ExitRuleSpec := { manualExitRule with strategy := "TRAILING_NET_PROFIT", ruleId := "trail" }

def fallenLog : List PlanMoment :=
  [⟨priced (floorPlan plainRule) 11 0, priceSeen (103 / 10) 0, priced (priced (floorPlan plainRule) 11 0) (103 / 10) 0⟩,
    ⟨floorPlan plainRule, priceSeen 11 0, priced (floorPlan plainRule) 11 0⟩]

theorem fallen_price_floor : fallenLog.all (fun m => (floorIn m.after.scratch "trail").isSome) = true ∧
    (fallenLog.head?.any fun m => floorIn m.after.scratch "trail" = (candidates "trail" (callLog builtinRules fallenLog)).max?) = true := by
  have hrun := priced_run (priced_run (floorPlan_run plainRule) 11 0) (103 / 10) 0
  refine ⟨by decide +kernel, ?_⟩
  exact decide_eq_true ((trailing_floor_greatest hrun).2.1 "trail")

def armedAt (price : Rat) : ExitRuleSpec :=
  { manualExitRule with
    strategy := "ADAPTIVE_VOLUME_PRICE_TRAILING", ruleId := "follow"
    parameters := Dict.ofList [("arm_target_price", .float price)] }

/-- The policy of a rule asks for a floor at the peak of zero, at a price of some age, but the rule stores none. -/
def FloorMissing (rule : ExitRuleSpec) (age : Rat) : Prop :=
  PlanRun noTimes (fun _ => rule.strategy) [⟨floorPlan rule, priceSeen 10 age, priced (floorPlan rule) 10 age⟩] (priced (floorPlan rule) 10 age) ∧
    (callLog builtinRules [⟨floorPlan rule, priceSeen 10 age, priced (floorPlan rule) 10 age⟩]).map
      (fun call => (call.rule.ruleId, policyFloor (adaptivePolicy call.rule) call.plan.peakNetProfitPct)) = [("follow", some (1 / 2))] ∧
    floorIn (priced (floorPlan rule) 10 age).scratch "follow" = none

/-- An adaptive rule stores no floor while it is not armed, and where its price is too old. -/
theorem adaptive_floor_missing : FloorMissing (armedAt 100) 0 ∧ FloorMissing (armedAt 5) 10 := by
  constructor
  · exact ⟨priced_run (floorPlan_run _) 10 0, by decide +kernel⟩
  · exact ⟨priced_run (floorPlan_run _) 10 10, by decide +kernel⟩

end ExitRules
end QuantX
