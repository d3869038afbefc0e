import Mathlib.Algebra.Order.Field.Basic
import QuantX.Theorems.EntryPlan.Ladder

namespace QuantX
open Lib

namespace EntryRules
variable {rule : EntryRuleSpec} {context : EntryEvaluationContext} {own : Dict String PyVal} {s : ManagedEntryPlanState}
variable {view : PullbackView}
variable {contexts : List EntryEvaluationContext} {fall : EntryEvaluationContext}

structure PullbackView where
  phase : String
  lastObservationMs : Int
  peak : Rat
  low : Option Rat
  confirmations : Int

structure Reads (own : Dict String PyVal) (view : PullbackView) : Prop where
  phase : ((own.getD "phase" (.str "WAITING_PULLBACK")).or (.str "WAITING_PULLBACK")).pyStr = view.phase
  time : ((own.getD "last_observation_ms" (.int 0)).or (.int 0)).toInt = .ok view.lastObservationMs
  peak : floatOr (own.getD "observed_peak_price" .none) 0 = view.peak
  low : ∀ current, floatOr (own.getD "pullback_low_price" .none) current = view.low.getD current
  confirmations : ((own.getD "confirmations" (.int 0)).or (.int 0)).toInt = .ok view.confirmations

theorem Reads.unique {view other : PullbackView} (h : Reads own view) (h' : Reads own other) : view = other := by
  have hlow : view.low = other.low := by
    have hsame := fun current => (h.low current).symm.trans (h'.low current)
    cases hview : view.low with
    | none =>
      cases hother : other.low with
      | none => rfl
      | some low => exact absurd (by simpa [hview, hother] using hsame (low + 1)) (lt_add_one low).ne'
    | some low =>
      cases hother : other.low with
      | none => exact absurd (by simpa [hview, hother] using hsame (low + 1)) (lt_add_one low).ne
      | some low' => exact congrArg some (by simpa [hview, hother] using hsame 0)
  obtain ⟨phase, time, peak, low, confirmations⟩ := view
  obtain ⟨phase', time', peak', low', confirmations'⟩ := other
  obtain rfl : phase = phase' := h.phase.symm.trans h'.phase
  obtain rfl : time = time' := Except.ok.inj (h.time.symm.trans h'.time)
  obtain rfl : peak = peak' := h.peak.symm.trans h'.peak
  obtain rfl : low = low' := hlow
  obtain rfl : confirmations = confirmations' := Except.ok.inj (h.confirmations.symm.trans h'.confirmations)
  rfl

structure PullbackView.Ok (view : PullbackView) : Prop where
  phase : view.phase ∈ ["WAITING_TREND", "WAITING_PULLBACK", "WAITING_REBOUND", "CONFIRMED"]
  low : ∀ low ∈ view.low, 0 < low
  known : view.phase = "WAITING_REBOUND" → view.low.isSome
  confirmations : 0 ≤ view.confirmations

def pullbackRequired (rule : EntryRuleSpec) : Rat := max 0 (floatParameter rule "pullback_pct" 1)
def reboundRequired (rule : EntryRuleSpec) : Rat := max 0 (floatParameter rule "rebound_pct" (3 / 10))

def Falls (rule : EntryRuleSpec) (peak price : Rat) : Prop := pullbackRequired rule ≤ (max peak price - price) / max peak price * 100

def Rebounds (rule : EntryRuleSpec) (low price : Rat) : Prop := reboundRequired rule ≤ (price / low - 1) * 100

instance (rule : EntryRuleSpec) (peak price : Rat) : Decidable (Falls rule peak price) := inferInstanceAs (Decidable (_ ≤ _))
instance (rule : EntryRuleSpec) (low price : Rat) : Decidable (Rebounds rule low price) := inferInstanceAs (Decidable (_ ≤ _))

theorem Rebounds.le {low price : Rat} (h : Rebounds rule low price) (hlow : 0 < low) : low ≤ price := by
  have hnonneg : 0 ≤ (price / low - 1) * 100 := (le_max_left _ _).trans h
  exact (one_le_div hlow).mp (by linarith)

def PullbackView.lowAt (view : PullbackView) (price : Rat) : Rat :=
  if view.phase = "WAITING_REBOUND" then min (view.low.getD price) price else price

structure Observed (rule : EntryRuleSpec) (context : EntryEvaluationContext) (view : PullbackView) (next : Pullback) : Prop where
  confirmed : view.phase = "CONFIRMED" → next.phase = "CONFIRMED"
  phase : next.phase ∈ ["WAITING_PULLBACK", "WAITING_REBOUND", "CONFIRMED"]
  low : 0 < next.low
  confirmations : 0 ≤ next.confirmations
  fell : view.phase ≠ "CONFIRMED" → Falls rule view.peak context.executablePrice →
    next.phase = "WAITING_REBOUND" ∧ next.low = view.lowAt context.executablePrice
  rose : view.phase = "WAITING_REBOUND" → ∀ low, view.low = some low → Rebounds rule low context.executablePrice →
    view.lastObservationMs < context.decisionTimeMs →
    next.phase = "WAITING_REBOUND" ∧ next.low = low ∧ next.confirmations = view.confirmations + 1

theorem observePullback_ok (h : Reads own view) (hok : view.Ok) (hprice : 0 < context.executablePrice) :
    ∃ next, observePullback rule own context = .ok next ∧ Observed rule context view next := by
  have hpeak : 0 < max view.peak context.executablePrice := lt_max_of_lt_right hprice
  have hlow : 0 < view.low.getD context.executablePrice := by
    cases hview : view.low with
    | none => exact hprice
    | some low => exact hok.low low hview
  have hphase : ((if view.phase = "WAITING_TREND" then "WAITING_PULLBACK" else view.phase) = "WAITING_PULLBACK" ∧
      view.phase ≠ "WAITING_REBOUND" ∧ view.phase ≠ "CONFIRMED") ∨ view.phase = "WAITING_REBOUND" ∨ view.phase = "CONFIRMED" := by
    have hphase := hok.phase
    simp only [List.mem_cons, List.not_mem_nil, or_false] at hphase
    rcases hphase with h | h | h | h <;> simp [h]
  unfold observePullback
  simp only [h.time, h.peak, h.phase, h.low, h.confirmations, if_pos hpeak, bind, Except.bind, pure, Except.pure]
  rcases hphase with ⟨hwaits, hrebound, hconfirmed⟩ | hphase | hphase
  · simp only [hwaits, true_and]
    by_cases hfalls : Falls rule view.peak context.executablePrice
    · rw [Falls, pullbackRequired] at hfalls
      simp only [hfalls, if_true, min_self, true_and]
      refine ⟨_, rfl, ⟨fun h => absurd h hconfirmed, by simp, hprice, ?_, fun _ _ => ⟨rfl, ?_⟩, fun h => absurd h hrebound⟩⟩
      · dsimp only
        split_ifs <;> decide
      · rw [PullbackView.lowAt, if_neg hrebound]
    · have hstays : ¬max 0 (floatParameter rule "pullback_pct" 1) ≤
          (max view.peak context.executablePrice - context.executablePrice) / max view.peak context.executablePrice * 100 := hfalls
      simp only [hstays, if_false]
      refine ⟨_, rfl, ⟨fun h => absurd h hconfirmed, by simp, by simpa using hlow, ?_, fun _ h => absurd h hfalls, fun h => absurd h hrebound⟩⟩
      simpa using hok.confirmations
  · have hmin : 0 < min (view.low.getD context.executablePrice) context.executablePrice := lt_min hlow hprice
    simp only [hphase, String.reduceEq, if_false, false_and, if_true, true_and, hmin]
    refine ⟨_, rfl, ⟨fun h => absurd (hphase.symm.trans h) (by decide), by simp, hmin, ?_, fun _ _ => ⟨rfl, ?_⟩,
      fun _ low hknown hrises htime => ⟨rfl, ?_⟩⟩⟩
    · have hconfirmations := hok.confirmations
      dsimp only
      split_ifs <;> omega
    · rw [PullbackView.lowAt, if_pos hphase]
    · have hsame : min (view.low.getD context.executablePrice) context.executablePrice = low := by
        rw [hknown]
        exact min_eq_left (hrises.le (hok.low low hknown))
      have hrises' : max 0 (floatParameter rule "rebound_pct" (3 / 10)) ≤ (context.executablePrice / low - 1) * 100 := hrises
      refine ⟨hsame, ?_⟩
      rw [hsame, if_pos htime, if_pos hrises']
  · simp only [hphase, String.reduceEq, if_false, false_and]
    exact ⟨_, rfl, ⟨fun _ => rfl, by simp, hlow, hok.confirmations, fun h => absurd hphase h,
      fun h => absurd (hphase.symm.trans h) (by decide)⟩⟩

/-! ## A turn of the rule -/

theorem updateRuleState_own (ruleState : Dict String (Dict String PyVal)) (ruleId : String) (fields : List (String × PyVal)) :
    (updateRuleState ruleState ruleId fields).getD ruleId .empty = (ruleState.getD ruleId .empty).update fields := by
  rw [updateRuleState, Dict.getD_set, if_pos rfl]

theorem updateRuleState_other {ruleId other : String} (h : other ≠ ruleId) (ruleState : Dict String (Dict String PyVal))
    (fields : List (String × PyVal)) : (updateRuleState ruleState other fields).getD ruleId .empty = ruleState.getD ruleId .empty := by
  rw [updateRuleState, Dict.getD_set, if_neg h]

theorem Reads.lost (h : Reads own view) (fast slow slope : PyVal) :
    Reads (own.update [("phase", .str "WAITING_TREND"), ("trend_fast_ema", fast), ("trend_slow_ema", slow), ("slow_ema_slope_pct", slope)])
      { view with phase := "WAITING_TREND" } := by
  obtain ⟨-, htime, hpeak, hlow, hconfirmations⟩ := h
  constructor <;> simp [Dict.update, Dict.getD_set, *] <;> rfl

theorem Reads.observed {phase : String} (hphase : phase ≠ "") (time confirmations : Int) (peak low : Rat)
    (pullback rebound fast slow slope : PyVal) :
    Reads (own.update [("phase", .str phase), ("last_observation_ms", .int time), ("observed_peak_price", .float peak),
      ("pullback_low_price", .float low), ("pullback_pct", pullback), ("rebound_pct", rebound), ("confirmations", .int confirmations),
      ("trend_fast_ema", fast), ("trend_slow_ema", slow), ("slow_ema_slope_pct", slope)]) ⟨phase, time, peak, some low, confirmations⟩ := by
  constructor <;> simp [Dict.update, Dict.getD_set, floatOr, PyVal.optionalFloat, Except.toOption, PyVal.orText, hphase] <;> rfl

theorem Reads.restarted (h : Reads own view) (price : Rat) :
    Reads (own.update [("phase", .str "WAITING_PULLBACK"), ("observed_peak_price", .float price), ("pullback_low_price", .float price),
      ("confirmations", .int 0)]) { view with phase := "WAITING_PULLBACK", peak := price, low := some price, confirmations := 0 } := by
  obtain ⟨-, htime, -, -, -⟩ := h
  constructor <;> simp [Dict.update, Dict.getD_set, floatOr, PyVal.optionalFloat, Except.toOption, *] <;> rfl

def TrendPasses (rule : EntryRuleSpec) (context : EntryEvaluationContext) : Prop :=
  ∃ trend, trendOf rule context = .ok (some trend) ∧ trend.ok = true

def confirmationsRequired (rule : EntryRuleSpec) : Except String Int := (max 1 ·) <$> intParameter rule "confirm_observations" 1

def Matched (answer : Except String EntryRuleMatch) : Prop := ∃ found, answer = .ok found ∧ found.matched = true

theorem not_matched_error (e : String) : ¬Matched (.error e) := by
  rintro ⟨found, heq, -⟩
  cases heq

instance (answer : Except String EntryRuleMatch) : Decidable (Matched answer) :=
  match answer with
  | .error e => isFalse (not_matched_error e)
  | .ok found => decidable_of_iff (found.matched = true) (by simp [Matched])

theorem TrendPasses.of_any (h : ((trendOf rule context).toOption.join.any (·.ok)) = true) : TrendPasses rule context := by
  obtain ⟨trend, htrend, hok⟩ := (Option.any_eq_true _ _).mp h
  cases hresult : trendOf rule context with
  | error e =>
    rw [hresult] at htrend
    cases htrend
  | ok result =>
    rw [hresult] at htrend
    obtain rfl : result = some trend := htrend
    exact ⟨trend, hresult, hok⟩

inductive Turn (rule : EntryRuleSpec) (context : EntryEvaluationContext) (view : PullbackView) : PullbackView → Except String EntryRuleMatch → Prop
  | idle {answer : Except String EntryRuleMatch} (hanswer : ¬Matched answer)
      (hno : TrendPasses rule context → ∀ required, confirmationsRequired rule ≠ .ok required) : Turn rule context view view answer
  | lost {answer : Except String EntryRuleMatch} (hanswer : ¬Matched answer) (hno : ¬TrendPasses rule context) :
      Turn rule context view { view with phase := "WAITING_TREND" } answer
  | observed {answer : Except String EntryRuleMatch} {next : Pullback} {required : Int} (hobserved : Observed rule context view next)
      (hrequired : confirmationsRequired rule = .ok required)
      (hanswer : Matched answer ↔ next.phase = "WAITING_REBOUND" ∧ required ≤ next.confirmations) :
      Turn rule context view ⟨if next.phase = "WAITING_REBOUND" ∧ required ≤ next.confirmations then "CONFIRMED" else next.phase,
        context.decisionTimeMs, next.peak, some next.low, next.confirmations⟩ answer

theorem not_matched {found : EntryRuleMatch} (h : found.matched = false) : ¬Matched (.ok found) := by
  rintro ⟨other, heq, hmatched⟩
  cases heq
  exact absurd (h.symm.trans hmatched) Bool.noConfusion

theorem trendPullbackConfirmation_turn (h : Reads (s.ruleState.getD rule.ruleId .empty) view) (hok : view.Ok)
    (hprice : 0 < context.executablePrice) :
    ∃ next, Reads ((trendPullbackConfirmation rule s context).1.getD rule.ruleId .empty) next ∧
      Turn rule context view next (trendPullbackConfirmation rule s context).2 := by
  unfold trendPullbackConfirmation
  split
  · rename_i e htrend
    refine ⟨view, h, .idle (not_matched_error e) fun hpasses => ?_⟩
    obtain ⟨trend, hpasses, -⟩ := hpasses
    rw [htrend] at hpasses
    cases hpasses
  · rename_i htrend
    refine ⟨view, h, .idle (not_matched rfl) fun hpasses => ?_⟩
    obtain ⟨trend, hpasses, -⟩ := hpasses
    rw [htrend] at hpasses
    cases hpasses
  · rename_i trend htrend
    dsimp only
    split
    · rename_i hlost
      refine ⟨_, ?_, .lost (not_matched rfl) fun hpasses => ?_⟩
      · rw [updateRuleState_own]
        exact h.lost _ _ _
      · obtain ⟨other, hpasses, hother⟩ := hpasses
        rw [htrend] at hpasses
        cases hpasses
        simp [hother] at hlost
    · have hseen : (updateRuleState s.ruleState rule.ruleId []).getD rule.ruleId .empty = s.ruleState.getD rule.ruleId .empty :=
        updateRuleState_own _ _ _
      obtain ⟨next, hnext, hobserved⟩ := observePullback_ok h hok hprice
      rw [hseen, hnext]
      cases hcount : intParameter rule "confirm_observations" 1 with
      | error e =>
        refine ⟨view, by rw [← hseen] at h; exact h, .idle (not_matched_error e) fun _ required hrequired => ?_⟩
        rw [confirmationsRequired, hcount] at hrequired
        cases hrequired
      | ok count =>
        have hrequired : confirmationsRequired rule = .ok (max 1 count) := by rw [confirmationsRequired, hcount]; rfl
        refine ⟨_, ?_, .observed hobserved hrequired ?_⟩
        · dsimp only [bind, Except.bind, pure, Except.pure]
          rw [updateRuleState_own]
          refine Reads.observed ?_ _ _ _ _ _ _ _ _ _
          have hphase := hobserved.phase
          split_ifs
          · decide
          · rintro hempty
            rw [hempty] at hphase
            exact absurd hphase (by decide)
        · dsimp only [bind, Except.bind, pure, Except.pure]
          simp [Matched]

theorem Turn.ok {view next : PullbackView} {answer : Except String EntryRuleMatch} (h : Turn rule context view next answer) (hok : view.Ok) :
    next.Ok := by
  cases h with
  | idle => exact hok
  | lost => exact ⟨by simp, hok.low, fun h : "WAITING_TREND" = "WAITING_REBOUND" => absurd h (by decide), hok.confirmations⟩
  | observed hobserved hrequired hanswer =>
    refine ⟨?_, ?_, fun _ => rfl, hobserved.confirmations⟩
    · have hphase := hobserved.phase
      split_ifs
      · simp
      · exact List.mem_cons_of_mem _ hphase
    · intro low hlow
      obtain rfl := Option.some.inj hlow
      exact hobserved.low

/-- Evaluations, the newest first: the price falls from the peak, then stays above the low, and the trend passes. -/
inductive Continues (rule : EntryRuleSpec) (view : PullbackView) (fall : EntryEvaluationContext) : List EntryEvaluationContext → Prop
  | fall (htrend : TrendPasses rule fall) (hfalls : Falls rule view.peak fall.executablePrice) : Continues rule view fall [fall]
  | rise {last context : EntryEvaluationContext} {contexts : List EntryEvaluationContext} (h : Continues rule view fall (last :: contexts))
      (htrend : TrendPasses rule context) (htime : last.decisionTimeMs < context.decisionTimeMs)
      (hrises : Rebounds rule (view.lowAt fall.executablePrice) context.executablePrice) : Continues rule view fall (context :: last :: contexts)

theorem Continues.trend
    (h : Continues rule view fall contexts) : ∀ context ∈ contexts, TrendPasses rule context := by
  induction h with
  | fall htrend => simpa using htrend
  | rise _ htrend _ _ ih => exact List.forall_mem_cons.mpr ⟨htrend, ih⟩

structure Confirming (view : PullbackView) (fall : EntryEvaluationContext) (required : Int) (contexts : List EntryEvaluationContext)
    (next : PullbackView) : Prop where
  ok : next.Ok
  phase : next.phase = "WAITING_REBOUND"
  low : next.low = some (view.lowAt fall.executablePrice)
  time : contexts.head?.map (·.decisionTimeMs) = some next.lastObservationMs
  count : (contexts.length : Int) ≤ next.confirmations + 1
  waits : next.confirmations < required

theorem Turn.confirming {view next : PullbackView} {answer : Except String EntryRuleMatch} {required : Int}
    (h : Turn rule fall view next answer) (hok : view.Ok) (hphase : view.phase ≠ "CONFIRMED") (hrequired : confirmationsRequired rule = .ok required)
    (htrend : TrendPasses rule fall) (hfalls : Falls rule view.peak fall.executablePrice) (hanswer : ¬Matched answer) :
    Confirming view fall required [fall] next := by
  have hnext := h.ok hok
  cases h with
  | idle hidle hno => exact absurd hrequired (hno htrend required)
  | lost hlost hno => exact absurd htrend hno
  | observed hobserved hcount hmatched =>
    cases hcount.symm.trans hrequired
    obtain ⟨hrebound, hlow⟩ := hobserved.fell hphase hfalls
    have hwaits := not_le.mp fun hle => hanswer (hmatched.mpr ⟨hrebound, hle⟩)
    rw [if_neg fun h => not_le.mpr hwaits h.2] at hnext ⊢
    exact ⟨hnext, hrebound, congrArg some hlow, rfl, by have := hobserved.confirmations; simpa using this, hwaits⟩

theorem Turn.confirms {view last next : PullbackView} {fall context : EntryEvaluationContext} {answer : Except String EntryRuleMatch}
    {required : Int} (h : Turn rule context last next answer)
    (hlast : Confirming view fall required contexts last) (hrequired : confirmationsRequired rule = .ok required)
    (htrend : TrendPasses rule context) (htime : last.lastObservationMs < context.decisionTimeMs)
    (hrises : Rebounds rule (view.lowAt fall.executablePrice) context.executablePrice) (hanswer : ¬Matched answer) :
    Confirming view fall required (context :: contexts) next := by
  have hnext := h.ok hlast.ok
  cases h with
  | idle hidle hno => exact absurd hrequired (hno htrend required)
  | lost hlost hno => exact absurd htrend hno
  | observed hobserved hcount hmatched =>
    cases hcount.symm.trans hrequired
    obtain ⟨hrebound, hlow, hmore⟩ := hobserved.rose hlast.phase _ hlast.low hrises htime
    have hwaits := not_le.mp fun hle => hanswer (hmatched.mpr ⟨hrebound, hle⟩)
    have hlength := hlast.count
    rw [if_neg fun h => not_le.mpr hwaits h.2] at hnext ⊢
    refine ⟨hnext, hrebound, congrArg some hlow, rfl, ?_, hwaits⟩
    rw [List.length_cons]
    push_cast
    omega

end EntryRules

namespace ManagedEntryPlanState
open EntryRules
variable {rule other : EntryRuleSpec} {rules : List EntryRuleSpec} {config : ManagedEntryPlanConfig} {context : EntryEvaluationContext}
  {s : ManagedEntryPlanState} {uuid5 : String → String} {planId : String} {log later : List (Moment ManagedEntryPlanState EntryOp)}

/-! ## The turn in an evaluation -/

def own (s : ManagedEntryPlanState) (rule : EntryRuleSpec) : Dict String PyVal := s.ruleState.getD rule.ruleId .empty

theorem own_congr {t : ManagedEntryPlanState} (h : s.ruleState = t.ruleState) : s.own rule = t.own rule := by rw [own, own, h]

/-- The state in which an evaluation asks its rules, if it comes to that. -/
def asked (config : ManagedEntryPlanConfig) (context : EntryEvaluationContext) (s : ManagedEntryPlanState) : Option ManagedEntryPlanState :=
  match blockReason config { s with dataQuality := (PyVal.orText context.dataQuality "INSUFFICIENT").toUpper } context with
  | (_, some _) => none
  | (s, none) =>
    let gap := calculateGap config.targetPolicy context
    if gap.targetReached ∧ config.completionPolicy.stopWhenTargetReached then none
    else if config.targetPolicy.maxTotalAmountCny - context.planFilledAmountCny ≤ epsilon ∧
        config.completionPolicy.stopWhenBudgetExhausted then none
    else if gap.remainingAmountCny ≤ epsilon then none
    else some s

/-- What a rule answers when the rules are asked, if its turn comes. -/
def answerIn (context : EntryEvaluationContext) (rule : EntryRuleSpec) : List EntryRuleSpec → ManagedEntryPlanState → Option (Except String EntryRuleMatch)
  | [], _ => none
  | first :: rules, s =>
    if !first.enabled || first.ruleId ∈ s.completedRuleIds then answerIn context rule rules s
    else
      let (ruleState, answer) := ManagedEntryRuleRegistry.builtins.evaluate first s context
      if first.ruleId = rule.ruleId then some answer
      else match answer with
        | .error _ => none
        | .ok _ => answerIn context rule rules { s with ruleState }

/-- What a rule answers in a moment, with the context that it is asked in. -/
def answerOf (rule : EntryRuleSpec) (m : Moment ManagedEntryPlanState EntryOp) : Option (EntryEvaluationContext × Except String EntryRuleMatch) :=
  match m.op with
  | .evaluate config context =>
    (m.before.asked config context).bind fun s => (answerIn context rule config.triggerRules s).map (context, ·)
  | _ => none

theorem builtins_other (h : other.ruleId ≠ rule.ruleId) :
    ((ManagedEntryRuleRegistry.builtins.evaluate other s context).1.getD rule.ruleId .empty) = s.own rule := by
  have hpullback : ((trendPullbackConfirmation other s context).1.getD rule.ruleId .empty) = s.own rule := by
    unfold trendPullbackConfirmation
    split
    · rfl
    · rfl
    · dsimp only
      split
      · exact updateRuleState_other h _ _
      · split
        · exact updateRuleState_other h _ _
        · exact (updateRuleState_other h _ _).trans (updateRuleState_other h _ _)
  have hladder : ((priceLadder other s context).1.getD rule.ruleId .empty) = s.own rule := by
    unfold priceLadder
    dsimp only
    split
    · rfl
    · rfl
    · exact updateRuleState_other h _ _
  unfold ManagedEntryRuleRegistry.evaluate
  split
  · rfl
  · rename_i evaluator hevaluator
    unfold ManagedEntryRuleRegistry.builtins ManagedEntryRuleRegistry.register at hevaluator
    split at hevaluator
    · cases hevaluator
      rfl
    · split at hevaluator
      · cases hevaluator
        exact hladder
      · split at hevaluator
        · cases hevaluator
          exact hpullback
        · cases hevaluator

theorem matchRules_other (h : ∀ other ∈ rules, other.ruleId ≠ rule.ruleId) :
    (s.matchRules .builtins context rules).1.own rule = s.own rule ∧ answerIn context rule rules s = none := by
  induction rules generalizing s with
  | nil => exact ⟨rfl, rfl⟩
  | cons first rules ih =>
    rw [List.forall_mem_cons] at h
    rw [matchRules, answerIn]
    split
    · exact ih h.2
    · have hfirst : (ManagedEntryRuleRegistry.builtins.evaluate first s context).1.getD rule.ruleId .empty = s.own rule := builtins_other h.1
      dsimp only
      rw [if_neg h.1]
      cases (ManagedEntryRuleRegistry.builtins.evaluate first s context).2 with
      | error e => exact ⟨hfirst, rfl⟩
      | ok found => exact ⟨(ih h.2).1.trans hfirst, (ih h.2).2⟩

theorem builtins_pullback (h : rule.ruleType = "TREND_PULLBACK_CONFIRMATION") :
    ManagedEntryRuleRegistry.builtins.evaluate rule s context = trendPullbackConfirmation rule s context := by
  have hmanual : "TREND_PULLBACK_CONFIRMATION" ≠ ("MANUAL_TRIGGER" : String).toUpper := by decide +kernel
  have hladder : "TREND_PULLBACK_CONFIRMATION" ≠ ("PRICE_LADDER" : String).toUpper := by decide +kernel
  have hpullback : "TREND_PULLBACK_CONFIRMATION" = ("TREND_PULLBACK_CONFIRMATION" : String).toUpper := by decide +kernel
  simp only [ManagedEntryRuleRegistry.evaluate, h, ManagedEntryRuleRegistry.builtins, ManagedEntryRuleRegistry.register, if_neg hmanual,
    if_neg hladder, if_pos hpullback]

/-- What an evaluation that asks its rules does to a pullback rule: nothing, or its turn. -/
structure Asks (rule : EntryRuleSpec) (context : EntryEvaluationContext) (before after : Dict String PyVal) (answer : Option (Except String EntryRuleMatch)) : Prop where
  rests : answer = none → after = before
  turns : ∀ found, answer = some found → ∃ s, own s rule = before ∧ after = (trendPullbackConfirmation rule s context).1.getD rule.ruleId .empty ∧
    found = (trendPullbackConfirmation rule s context).2

theorem matchRules_asks (hkind : rule.ruleType = "TREND_PULLBACK_CONFIRMATION") (hnodup : (rules.map (·.ruleId)).Nodup)
    (hknown : ∀ other ∈ rules, other.ruleId = rule.ruleId → other = rule) :
    Asks rule context (s.own rule) ((s.matchRules .builtins context rules).1.own rule) (answerIn context rule rules s) := by
  induction rules generalizing s with
  | nil => exact ⟨fun _ => rfl, fun _ h => by cases h⟩
  | cons first rules ih =>
    rw [List.map_cons, List.nodup_cons] at hnodup
    rw [List.forall_mem_cons] at hknown
    rw [matchRules, answerIn]
    split
    · exact ih hnodup.2 hknown.2
    · by_cases hfirst : first.ruleId = rule.ruleId
      · obtain rfl := hknown.1 hfirst
        have hothers : ∀ other ∈ rules, other.ruleId ≠ first.ruleId := fun other hother heq =>
          hnodup.1 (List.mem_map.mpr ⟨other, hother, heq⟩)
        rw [builtins_pullback hkind]
        dsimp only
        rw [if_pos rfl]
        refine ⟨fun h => (by cases h), fun found hfound => ⟨s, rfl, ?_, (Option.some.inj hfound).symm⟩⟩
        cases (trendPullbackConfirmation first s context).2 with
        | error e => rfl
        | ok answer => exact (matchRules_other hothers).1
      · have hsame : (ManagedEntryRuleRegistry.builtins.evaluate first s context).1.getD rule.ruleId .empty = s.own rule := builtins_other hfirst
        dsimp only
        rw [if_neg hfirst]
        cases (ManagedEntryRuleRegistry.builtins.evaluate first s context).2 with
        | error e => exact ⟨fun _ => hsame, fun _ h => by cases h⟩
        | ok answer =>
          have hrest : ∀ ruleState, Asks rule context (({ s with ruleState } : ManagedEntryPlanState).own rule) _ _ :=
            fun _ => ih hnodup.2 hknown.2
          rw [← hsame]
          exact hrest _

theorem evaluate_asked (s : ManagedEntryPlanState) (uuid5 : String → String) (config : ManagedEntryPlanConfig) (context : EntryEvaluationContext) :
    (s.asked config context = none → (s.evaluate .builtins uuid5 config context).1.ruleState = s.ruleState) ∧
      ∀ t, s.asked config context = some t → t.ruleState = s.ruleState ∧ 0 < context.executablePrice ∧
        (s.evaluate .builtins uuid5 config context).1.ruleState = (t.matchRules .builtins context config.triggerRules).1.ruleState := by
  unfold asked evaluate
  dsimp only
  generalize (PyVal.orText context.dataQuality "INSUFFICIENT").toUpper = quality
  rcases blockReason_cases { s with dataQuality := quality } config context with ⟨reason, h⟩ | ⟨-, h⟩ | ⟨-, h⟩
  · rw [h]
    exact ⟨fun _ => rfl, fun t ht => by cases ht⟩
  · obtain ⟨first, noted, phase, hwrites⟩ := requestTerminal_writes { s with dataQuality := quality } .expired "ENTRY_PLAN_EXPIRED" false
    rw [h, hwrites]
    exact ⟨fun _ => rfl, fun t ht => by cases ht⟩
  · have hprice := (executablePrice_pos (blockReason_none h).2.2.1).1
    rw [h]
    unfold proposeSlice
    dsimp only
    split_ifs with htarget hbudget hroom
    · exact ⟨fun _ => rfl, fun t ht => by cases ht⟩
    · exact ⟨fun _ => rfl, fun t ht => by cases ht⟩
    · exact ⟨fun _ => rfl, fun t ht => by cases ht⟩
    · refine ⟨fun hnone => (by cases hnone), fun t ht => ?_⟩
      obtain rfl := Option.some.inj ht
      refine ⟨rfl, hprice, ?_⟩
      generalize matchRules .builtins context config.triggerRules { s with dataQuality := quality } = result
      obtain ⟨next, candidates⟩ := result
      cases candidates with
      | error e => rfl
      | ok candidates =>
        dsimp only
        cases bestMatch candidates with
        | none => rfl
        | some best =>
          dsimp only
          cases sliceSize config context (calculateGap config.targetPolicy context) best.2 <;> rfl

/-- What a step without a fill does to a pullback rule of the plan: nothing, or its turn at a positive price. -/
theorem step_asks {op : EntryOp} (hrule : rule ∈ config.triggerRules) (hkind : rule.ruleType = "TREND_PULLBACK_CONFIRMATION")
    (hop : OfPlan planId config op) (hfill : matchedFill ⟨s, op, s.step .builtins uuid5 op⟩ = false) :
    (answerOf rule ⟨s, op, s.step .builtins uuid5 op⟩ = none ∧ (s.step .builtins uuid5 op).own rule = s.own rule) ∨
      ∃ context answer t, answerOf rule ⟨s, op, s.step .builtins uuid5 op⟩ = some (context, answer) ∧ 0 < context.executablePrice ∧
        own t rule = s.own rule ∧ (s.step .builtins uuid5 op).own rule = (trendPullbackConfirmation rule t context).1.getD rule.ruleId .empty ∧
        answer = (trendPullbackConfirmation rule t context).2 := by
  have hrules := (s.step_tagged .builtins uuid5 op).rules
  have hrest : (∀ used context, op ≠ .evaluate used context) → (s.step .builtins uuid5 op).own rule = s.own rule := by
    intro hother
    rcases hrules with ⟨used, context, heq⟩ | hsame | ⟨fill, -, hmatched, -⟩
    · exact absurd heq (hother used context)
    · exact own_congr hsame
    · exact absurd (hfill.symm.trans hmatched) Bool.noConfusion
  cases op with
  | tradeFill fill => exact .inl ⟨rfl, hrest fun _ _ h => by cases h⟩
  | orderTerminal report => exact .inl ⟨rfl, hrest fun _ _ h => by cases h⟩
  | requestTerminal requested reason pendingWork => exact .inl ⟨rfl, hrest fun _ _ h => by cases h⟩
  | reload => exact .inl ⟨rfl, hrest fun _ _ h => by cases h⟩
  | evaluate used context =>
    obtain rfl := hop.1
    obtain ⟨hidle, hasked⟩ := evaluate_asked s uuid5 used context
    cases hstate : s.asked used context with
    | none => exact .inl ⟨by simp [answerOf, hstate], own_congr (hidle hstate)⟩
    | some t =>
      obtain ⟨hbefore, hprice, hafter⟩ := hasked t hstate
      have hown : t.own rule = s.own rule := own_congr hbefore
      have hnext : (s.step .builtins uuid5 (.evaluate used context)).own rule = (t.matchRules .builtins context used.triggerRules).1.own rule :=
        own_congr hafter
      have hasks : Asks rule context (t.own rule) _ (answerIn context rule used.triggerRules t) :=
        matchRules_asks hkind used.triggerRules_nodup fun other hother heq => rule_unique hother hrule heq
      cases hanswer : answerIn context rule used.triggerRules t with
      | none => exact .inl ⟨by simp [answerOf, hstate, hanswer], hnext.trans ((hasks.rests hanswer).trans hown)⟩
      | some answer =>
        obtain ⟨turn, hturn, hlater, hfound⟩ := hasks.turns answer hanswer
        exact .inr ⟨context, answer, turn, by simp [answerOf, hstate, hanswer], hprice, hturn.trans hown, hnext.trans hlater, hfound⟩

theorem PlanRun.pullback (hrule : rule ∈ config.triggerRules) (hkind : rule.ruleType = "TREND_PULLBACK_CONFIRMATION")
    (h : PlanRun .builtins uuid5 planId config log s) : ∃ view, Reads (s.own rule) view ∧ view.Ok := by
  refine Run.invariant (fun _ s => ∃ view, Reads (own s rule) view ∧ view.Ok) ?_ ?_ h
  · rintro s rfl
    exact ⟨⟨"WAITING_PULLBACK", 0, 0, none, 0⟩, ⟨rfl, rfl, rfl, fun _ => rfl, rfl⟩, by simp, by simp, by simp, le_refl _⟩
  · rintro log s op ⟨view, hreads, hok⟩ hop
    by_cases hfill : matchedFill ⟨s, op, s.step .builtins uuid5 op⟩ = true
    · rcases (s.step_tagged .builtins uuid5 op).rules with ⟨used, context, heq⟩ | hsame | ⟨fill, -, -, hprice, hrules⟩
      · dsimp only at heq
        subst heq
        cases hfill
      · exact ⟨view, (own_congr hsame).symm ▸ hreads, hok⟩
      · dsimp only at hrules
        rw [own, hrules, restartPullback, Dict.getD_set]
        split
        · rename_i hpending
          rw [hpending]
          exact ⟨_, hreads.restarted fill.price, by simp, by simpa using hprice, by simp, le_refl _⟩
        · exact ⟨view, hreads, hok⟩
    · rcases step_asks hrule hkind hop (Bool.eq_false_iff.mpr hfill) with ⟨-, hsame⟩ | ⟨context, answer, t, -, hprice, hown, hnext, -⟩
      · exact ⟨view, hsame ▸ hreads, hok⟩
      · obtain ⟨next, hreads', hturn⟩ := trendPullbackConfirmation_turn (hown ▸ hreads : Reads (own t rule) view) hok hprice
        exact ⟨next, hnext ▸ hreads', hturn.ok hok⟩

def answers (rule : EntryRuleSpec) (later : List (Moment ManagedEntryPlanState EntryOp)) :
    List (EntryEvaluationContext × Except String EntryRuleMatch) := later.filterMap (answerOf rule)

section Continuation
variable {view : PullbackView} {next : ManagedEntryPlanState} {fall : EntryEvaluationContext} {required : Int}

def FurtherRun (uuid5 : String → String) (planId : String) (config : ManagedEntryPlanConfig) (s : ManagedEntryPlanState) :
    List (Moment ManagedEntryPlanState EntryOp) → ManagedEntryPlanState → Prop :=
  Run (· = s) (step .builtins uuid5) fun _ t op => OfPlan planId config op ∧ matchedFill ⟨t, op, t.step .builtins uuid5 op⟩ = false

theorem FurtherRun.evaluate (h : FurtherRun uuid5 planId config s later next) (hplan : context.planId = planId) :
    FurtherRun uuid5 planId config s (⟨next, .evaluate config context, next.step .builtins uuid5 (.evaluate config context)⟩ :: later)
      (next.step .builtins uuid5 (.evaluate config context)) := Run.step h _ ⟨⟨rfl, hplan⟩, rfl⟩

theorem FurtherRun.confirmed (hrule : rule ∈ config.triggerRules) (hkind : rule.ruleType = "TREND_PULLBACK_CONFIRMATION")
    (h : FurtherRun uuid5 planId config s later next) (hreads : Reads (s.own rule) view) (hok : view.Ok) (hconfirmed : view.phase = "CONFIRMED")
    (htrend : ∀ answer ∈ answers rule later, TrendPasses rule answer.1) :
    (∃ view, Reads (next.own rule) view ∧ view.Ok ∧ view.phase = "CONFIRMED") ∧ ∀ answer ∈ answers rule later, ¬Matched answer.2 := by
  induction h with
  | start heq =>
    subst heq
    exact ⟨⟨view, hreads, hok, hconfirmed⟩, by simp [answers]⟩
  | @step later t h op hop ih =>
    rcases step_asks hrule hkind hop.1 hop.2 with ⟨hidle, hsame⟩ | ⟨context, answer, turn, hanswer, hprice, hown, hnext, hfound⟩
    · rw [answers, List.filterMap_cons_none hidle] at htrend ⊢
      rw [hsame]
      exact ih htrend
    · rw [answers, List.filterMap_cons_some hanswer, List.forall_mem_cons] at htrend ⊢
      obtain ⟨⟨last, hreads, hok, hconfirmed⟩, hnone⟩ := ih htrend.2
      obtain ⟨later, hlater, hturn⟩ := trendPullbackConfirmation_turn (hown ▸ hreads : Reads (own turn rule) last) hok hprice
      rw [← hfound] at hturn
      have hlaterOk := hturn.ok hok
      rw [hnext]
      cases hturn with
      | idle hidle hno => exact ⟨⟨_, hlater, hlaterOk, hconfirmed⟩, hidle, hnone⟩
      | lost hlost hno => exact absurd htrend.1 hno
      | @observed _ seen count hobserved hrequired hmatched =>
        have hnot : ¬(seen.phase = "WAITING_REBOUND" ∧ count ≤ seen.confirmations) := fun h =>
          absurd ((hobserved.confirmed hconfirmed).symm.trans h.1) (by decide)
        rw [if_neg hnot] at hlater hlaterOk
        exact ⟨⟨_, hlater, hlaterOk, hobserved.confirmed hconfirmed⟩, fun h => hnot (hmatched.mp h), hnone⟩

theorem FurtherRun.confirming (hrule : rule ∈ config.triggerRules) (hkind : rule.ruleType = "TREND_PULLBACK_CONFIRMATION")
    (h : FurtherRun uuid5 planId config s later next) (hreads : Reads (s.own rule) view) (hok : view.Ok) (hphase : view.phase ≠ "CONFIRMED")
    (hrequired : confirmationsRequired rule = .ok required) (hnone : ∀ answer ∈ answers rule later, ¬Matched answer.2) :
    (answers rule later = [] → next.own rule = s.own rule) ∧ (Continues rule view fall ((answers rule later).map (·.1)) →
      ∃ later', Reads (next.own rule) later' ∧ Confirming view fall required ((answers rule later).map (·.1)) later') := by
  induction h with
  | start heq =>
    subst heq
    exact ⟨fun _ => rfl, fun h => by cases h⟩
  | @step later t h op hop ih =>
    rcases step_asks hrule hkind hop.1 hop.2 with ⟨hidle, hsame⟩ | ⟨context, answer, turn, hanswer, hprice, hown, hnext, hfound⟩
    · rw [answers, List.filterMap_cons_none hidle] at hnone ⊢
      rw [hsame]
      exact ih hnone
    · rw [answers, List.filterMap_cons_some hanswer] at hnone ⊢
      rw [List.forall_mem_cons] at hnone
      obtain ⟨hsame, hmore⟩ := ih hnone.2
      refine ⟨fun h => (by cases h), fun hcontinues => ?_⟩
      rw [hnext]
      change Continues rule view fall (context :: (answers rule later).map (·.1)) at hcontinues
      change ∃ last, Reads _ last ∧ Confirming view fall required (context :: (answers rule later).map (·.1)) last
      cases hfirst : answers rule later with
      | nil =>
        rw [hfirst] at hcontinues
        cases hcontinues with
        | fall htrend hfalls =>
          obtain ⟨last, hlast, hturn⟩ := trendPullbackConfirmation_turn ((hown.trans (hsame hfirst)) ▸ hreads : Reads (own turn rule) view) hok hprice
          rw [← hfound] at hturn
          exact ⟨last, hlast, hturn.confirming hok hphase hrequired htrend hfalls hnone.1⟩
      | cons first rest =>
        rw [hfirst] at hcontinues hmore
        cases hcontinues with
        | rise hbefore htrend htime hrises =>
          obtain ⟨last, hlast, hconfirming⟩ := hmore hbefore
          obtain ⟨last', hlast', hturn⟩ := trendPullbackConfirmation_turn (hown ▸ hlast : Reads (own turn rule) last) hconfirming.ok hprice
          rw [← hfound] at hturn
          have hseen := Option.some.inj hconfirming.time
          exact ⟨last', hlast', hturn.confirms hconfirming hrequired htrend (hseen ▸ htime) hrises hnone.1⟩

end Continuation

/-! ## A confirmed rule whose slice is rejected -/

def pullbackRule : EntryRuleSpec where
  ruleId := "p1"
  ruleType := "TREND_PULLBACK_CONFIRMATION"
  parameters := Dict.ofList [("fast_ema_period", .int 2), ("slow_ema_period", .int 3), ("tranche_volume", .int 100)]
  identified := by decide

def pullbackConfig : ManagedEntryPlanConfig :=
  { manualEntryConfig with
    triggerRules := [pullbackRule], triggerRules_enabled := rfl, triggerRules_nodup := by decide }

/-- A price at an instant, after three days of rising closes. -/
def priceAt (time : Int) (price : Rat) : EntryEvaluationContext :=
  { triggeredContext with
    decisionTimeMs := time, executablePrice := price, manualTriggerRuleId := none
    dailyObservations := [⟨1, 9, none⟩, ⟨2, 10, none⟩, ⟨3, 11, none⟩] }

def lockedOps : List EntryOp := [.evaluate pullbackConfig (priceAt 1000 12), .evaluate pullbackConfig (priceAt 2000 11),
  .evaluate pullbackConfig (priceAt 2500 (23 / 2)), .orderTerminal rejected]

def fallAndRise (s : ManagedEntryPlanState) : List (Moment ManagedEntryPlanState EntryOp) :=
  (play (step .builtins id) s [.evaluate pullbackConfig (priceAt 5000 10), .evaluate pullbackConfig (priceAt 6000 (21 / 2))]).1

theorem fallAndRise_run (s : ManagedEntryPlanState) : ∃ next, FurtherRun id "plan" pullbackConfig s (fallAndRise s) next :=
  ⟨_, FurtherRun.evaluate (FurtherRun.evaluate (Run.start rfl) rfl) rfl⟩

theorem fallAndRise_continues {view : PullbackView} (hfalls : Falls pullbackRule view.peak 10)
    (hrises : Rebounds pullbackRule (view.lowAt 10) (21 / 2)) :
    Continues pullbackRule view (priceAt 5000 10) [priceAt 6000 (21 / 2), priceAt 5000 10] :=
  .rise (.fall (.of_any (by decide +kernel)) hfalls) (.of_any (by decide +kernel)) (by decide) hrises

theorem fallAndRise_answers (h : (answers pullbackRule (fallAndRise s)).length = 2) :
    (answers pullbackRule (fallAndRise s)).map (·.1) = [priceAt 6000 (21 / 2), priceAt 5000 10] := by
  have hcontext : ∀ (m : Moment ManagedEntryPlanState EntryOp) context found, m.op = .evaluate pullbackConfig context →
      answerOf pullbackRule m = some found → found.1 = context := by
    intro m context found hop hfound
    rw [answerOf, hop] at hfound
    obtain ⟨t, -, hfound⟩ := Option.bind_eq_some_iff.mp hfound
    obtain ⟨answer, -, rfl⟩ := Option.map_eq_some_iff.mp hfound
    rfl
  obtain ⟨second, first, hlog, hsecond, hfirst⟩ : ∃ second first, fallAndRise s = [second, first] ∧
      second.op = .evaluate pullbackConfig (priceAt 6000 (21 / 2)) ∧ first.op = .evaluate pullbackConfig (priceAt 5000 10) := ⟨_, _, rfl, rfl, rfl⟩
  rw [answers, hlog] at h ⊢
  cases hlast : answerOf pullbackRule second with
  | none =>
    have hle := List.length_filterMap_le (answerOf pullbackRule) [first]
    rw [List.filterMap_cons_none hlast] at h
    simp only [List.length_singleton] at hle
    omega
  | some found =>
    cases hearly : answerOf pullbackRule first with
    | none =>
      rw [List.filterMap_cons_some hlast, List.filterMap_cons_none hearly] at h
      simp at h
    | some found' =>
      rw [List.filterMap_cons_some hlast, List.filterMap_cons_some hearly, List.map_cons, List.map_cons, hcontext _ _ _ hsecond hlast,
        hcontext _ _ _ hfirst hearly]
      rfl

def waitingState : ManagedEntryPlanState := step .builtins id {} (.evaluate pullbackConfig (priceAt 1000 12))
def waitingView : PullbackView := ⟨"WAITING_PULLBACK", 1000, 12, some 12, 0⟩
def lockedState : ManagedEntryPlanState := (play (step .builtins id) {} lockedOps).2
def lockedView : PullbackView := ⟨"CONFIRMED", 2500, 12, some 11, 1⟩

theorem low_reads {own : Dict String PyVal} {low : Rat} (h : (own.getD "pullback_low_price" .none).optionalFloat = some low) (current : Rat) :
    floatOr (own.getD "pullback_low_price" .none) current = low := by rw [floatOr, h, Option.getD_some]

theorem waiting_reads : Reads (waitingState.own pullbackRule) waitingView :=
  ⟨by decide +kernel, by decide +kernel, by decide +kernel, low_reads (by decide +kernel), by decide +kernel⟩

theorem locked_reads : Reads (lockedState.own pullbackRule) lockedView :=
  ⟨by decide +kernel, by decide +kernel, by decide +kernel, low_reads (by decide +kernel), by decide +kernel⟩

theorem waiting_run : PlanRun .builtins id "plan" pullbackConfig [⟨{}, .evaluate pullbackConfig (priceAt 1000 12), waitingState⟩] waitingState :=
  PlanRun.extend (Run.start rfl) _ ⟨rfl, rfl⟩

theorem locked_run : ∃ log, PlanRun .builtins id "plan" pullbackConfig log lockedState :=
  ⟨_, ((waiting_run.extend (.evaluate _ _) ⟨rfl, rfl⟩).extend (.evaluate _ _) ⟨rfl, rfl⟩).extend (.orderTerminal rejected) trivial⟩

end ManagedEntryPlanState
end QuantX
