import QuantX.Theorems.ExitRules.Fed
import QuantX.Trading.TrailingRules

/-! One evaluation of the adaptive rule, stage by stage: what it notes of an observation, and how it ends. An evaluation
    keeps a well-formed state so, also one that raises. -/

namespace QuantX
open Lib

namespace ExitRules
variable {rule : ExitRuleSpec} {plan : ExitPlan} {context : ExitEvaluationContext} {own own' : Dict String PyVal}
  {samples : List Sample} {stored : Int}
variable {drawdown : Rat}

theorem optionalFloat_numberOrNone (value : Option Rat) : (numberOrNone value).optionalFloat = value := by
  cases value <;> rfl

theorem Sample.ofValue_toValue (sample : Sample) : Sample.ofValue sample.toValue = .ok (some sample) := by
  simp only [Sample.ofValue, Sample.toValue, Dict.lookup, PyVal.get]
  simp [bind, Except.bind, pure, Except.pure]

theorem samplesOf_stored (h : own.get? "samples" = some (.list (samples.map Sample.toValue))) : samplesOf own = .ok samples := by
  have hread : ∀ l : List Sample, (l.map Sample.toValue).mapM Sample.ofValue = .ok (l.map some) := by
    intro l
    induction l with
    | nil => rfl
    | cons sample l ih =>
      rw [List.map_cons, List.mapM_cons, Sample.ofValue_toValue, ih]
      rfl
  rw [samplesOf, Dict.getD, h]
  simp only [Option.getD_some, listOrEmpty, bind, Except.bind]
  rw [hread]
  simp [pure, Except.pure]

structure Numbers (own : Dict String PyVal) : Prop where
  peak : ∀ v, own.get? "observed_peak_price" = some v → ∃ q, v = .float q
  peakTime : ∀ v, own.get? "peak_timestamp_ms" = some v → ∃ n, v = .int n

theorem Numbers.read_peak (h : Numbers own) : ∃ q, floatField own.entries "observed_peak_price" 0 = .ok q := by
  have hpeak := h.peak
  rw [floatField]
  cases hlookup : Dict.lookup "observed_peak_price" own.entries with
  | none => exact ⟨0, by simp⟩
  | some v =>
    obtain ⟨q, rfl⟩ := hpeak v hlookup
    exact ⟨q, by simp⟩

theorem Numbers.read_peakTime (h : Numbers own) (timestampMs : Int) :
    ∃ n, intOrField own.entries "peak_timestamp_ms" timestampMs = .ok n := by
  have htime := h.peakTime
  rw [intOrField]
  cases hlookup : Dict.lookup "peak_timestamp_ms" own.entries with
  | none => exact ⟨_, by rw [Option.getD_none, PyVal.int_or]; rfl⟩
  | some v =>
    obtain ⟨n, rfl⟩ := htime v hlookup
    exact ⟨_, by rw [Option.getD_some, PyVal.int_or]; rfl⟩

theorem Numbers.congr (h : Numbers own) (hpeak : own'.get? "observed_peak_price" = own.get? "observed_peak_price")
    (htime : own'.get? "peak_timestamp_ms" = own.get? "peak_timestamp_ms") : Numbers own' where
  peak v hv := h.peak v (hpeak ▸ hv)
  peakTime v hv := h.peakTime v (htime ▸ hv)

theorem Numbers.note (h : Numbers own) (context : ExitEvaluationContext) (previousPeak : Rat) :
    Numbers (notePeakPrice context previousPeak own) := by
  unfold notePeakPrice
  split
  · constructor
    · intro v hv
      rw [Dict.get?_update_list (by simp)] at hv
      exact ⟨_, (Option.some.inj hv).symm⟩
    · intro v hv
      rw [Dict.get?_update_list (by simp)] at hv
      exact ⟨_, (Option.some.inj hv).symm⟩
  · exact h

theorem read_count (h : own.get? "consecutive_weak" = some (.int stored)) : intOrField own.entries "consecutive_weak" 0 = .ok stored := by
  have hlookup : Dict.lookup "consecutive_weak" own.entries = some (.int stored) := h
  rw [intOrField, hlookup, Option.getD_some, PyVal.int_or_zero]
  rfl

/-- The keys that `watch` may write. -/
def watchKeys : List String := ["samples", "last_observation_timestamp_ms", "observed_peak_price", "peak_timestamp_ms", "armed",
  "armed_at_ms", "armed_price", "data_quality", "peak_drawdown_pct", "return_15s_pct", "return_60s_pct", "volume_velocity",
  "peak_age_seconds"]

structure Watched (rule : ExitRuleSpec) (plan : ExitPlan) (context : ExitEvaluationContext) (samples : List Sample)
    (own own' : Dict String PyVal) : Prop where
  samples : own'.get? "samples" =
    some (.list ((if isNewObservation samples context.timestampMs then pushSample samples context else samples).map Sample.toValue))
  numbers : Numbers own'
  drawdown : ∃ q, own'.get? "peak_drawdown_pct" = some (.float q)
  armed : isArmed own' = (isArmed own || reachesArm rule plan context)
  keeps : Dict.Keeps watchKeys own own'

theorem isArmed_congr (h : own'.get? "armed" = own.get? "armed") : isArmed own' = isArmed own := by
  rw [isArmed, isArmed, Dict.getD, Dict.getD, h]

theorem isArmed_noteArmed : isArmed (noteArmed rule plan context own) = (isArmed own || reachesArm rule plan context) := by
  unfold noteArmed
  by_cases harmed : isArmed own = true
  · rw [if_pos harmed, harmed, Bool.true_or]
  · rw [if_neg harmed, Bool.eq_false_of_not_eq_true harmed, Bool.false_or]
    split
    · rename_i hreach
      rw [hreach, isArmed, Dict.getD, Dict.get?_update_list (by simp)]
      rfl
    · rename_i hreach
      rw [Bool.eq_false_of_not_eq_true harmed, Bool.eq_false_of_not_eq_true hreach]

theorem keeps_noteArmed (own : Dict String PyVal) :
    Dict.Keeps ["armed", "armed_at_ms", "armed_price"] own (noteArmed rule plan context own) := by
  unfold noteArmed
  split
  · exact .refl _ _
  · split
    · exact .update (by simp) _
    · exact .refl _ _

theorem keeps_notePeakPrice (previousPeak : Rat) :
    Dict.Keeps ["observed_peak_price", "peak_timestamp_ms"] own (notePeakPrice context previousPeak own) := by
  unfold notePeakPrice
  split
  · exact .update (by simp) _
  · exact .refl _ _

theorem adaptive_watched (hown : openWindowDay context.tradeDate (ownState rule plan) = own)
    (hsamples : own.get? "samples" = some (.list (samples.map Sample.toValue))) (hnumbers : Numbers own) :
    ∃ view own', Watched rule plan context samples own own' ∧ adaptiveVolumePriceTrailing rule plan context =
      if !isArmed own' then
        conclude (keepState rule plan) own' [("phase", .str "WAITING_ARM"), ("last_decision", .str "WAITING_ARM"), ("weak_score", .int 0)]
          (executableProfitPct plan context) false "ADAPTIVE_TRAILING_WAITING_ARM"
      else if !priceAvailable context then
        conclude (keepState rule plan) own' [("phase", .str "PAUSED_STALE_PRICE"), ("last_decision", .str "PAUSE"), ("weak_score", .int 0)]
          (executableProfitPct plan context) false "ADAPTIVE_TRAILING_PRICE_UNAVAILABLE"
      else followPrice rule plan context (isNewObservation samples context.timestampMs) view own' := by
  generalize hnew : isNewObservation samples context.timestampMs = isNew
  generalize hwindow : (if isNew then pushSample samples context else samples) = window
  generalize hown₁ : (if isNew then keepWindow context window own else own) = own₁
  have hkept₁ : Dict.Keeps ["samples", "last_observation_timestamp_ms"] own own₁ := by
    subst hown₁
    split
    · exact .update (by simp) _
    · exact .refl _ _
  have hsamples₁ : own₁.get? "samples" = some (.list (window.map Sample.toValue)) := by
    subst hown₁ hwindow
    split
    · exact Dict.get?_update_list (by simp) _ _
    · exact hsamples
  have hnumbers₁ : Numbers own₁ := hnumbers.congr (hkept₁ _ (by decide)) (hkept₁ _ (by decide))
  obtain ⟨previousPeak, hpeak⟩ := hnumbers₁.read_peak
  obtain ⟨peakTimestamp, htime⟩ := (hnumbers₁.note context previousPeak).read_peakTime context.timestampMs
  generalize hown₂ : notePeakPrice context previousPeak own₁ = own₂ at htime
  have hkept₂ : Dict.Keeps ["observed_peak_price", "peak_timestamp_ms"] own₁ own₂ := hown₂ ▸ keeps_notePeakPrice previousPeak
  have hnumbers₂ : Numbers own₂ := hown₂ ▸ hnumbers₁.note context previousPeak
  have hkept₃ : Dict.Keeps ["armed", "armed_at_ms", "armed_price"] own₂ (noteArmed rule plan context own₂) := keeps_noteArmed own₂
  have hkept₄ : Dict.Keeps ["data_quality", "peak_drawdown_pct", "return_15s_pct", "return_60s_pct", "volume_velocity",
      "peak_age_seconds"] (noteArmed rule plan context own₂)
      (keepView context (windowView context window previousPeak peakTimestamp) (noteArmed rule plan context own₂)) :=
    .update (by simp) _
  refine ⟨windowView context window previousPeak peakTimestamp,
    keepView context (windowView context window previousPeak peakTimestamp) (noteArmed rule plan context own₂), ?_, ?_⟩
  · constructor
    · rw [hnew, hwindow, hkept₄ _ (by decide), hkept₃ _ (by decide), hkept₂ _ (by decide)]
      exact hsamples₁
    · refine hnumbers₂.congr ?_ ?_
      · rw [hkept₄ _ (by decide), hkept₃ _ (by decide)]
      · rw [hkept₄ _ (by decide), hkept₃ _ (by decide)]
    · exact ⟨_, Dict.get?_update_list (by simp) _ _⟩
    · rw [isArmed_congr (hkept₄ _ (by decide)), isArmed_noteArmed, isArmed_congr (hkept₂ _ (by decide)),
        isArmed_congr (hkept₁ _ (by decide))]
    · exact (((hkept₁.mono (by decide)).trans (hkept₂.mono (by decide))).trans (hkept₃.mono (by decide))).trans (hkept₄.mono (by decide))
  · unfold adaptiveVolumePriceTrailing
    rw [hown]
    simp only [samplesOf_stored hsamples, reading, hnew, hwindow, hown₁, hpeak, hown₂, htime]

def numberKeys : List String := ["base_floor_pct", "initial_gap_pct", "gap_slope", "max_gap_pct", "weak_drawdown_pct",
  "weak_return_15s_pct", "stagnation_volume_velocity", "stagnation_return_60s_pct", "weak_depth_imbalance", "new_high_bonus_seconds",
  "strong_return_15s_pct", "strong_volume_velocity", "immediate_return_15s_pct", "immediate_volume_velocity", "immediate_drawdown_pct"]

structure Readable (rule : ExitRuleSpec) : Prop where
  numbers : ∀ key ∈ numberKeys, ∀ default, ∃ q, threshold rule key default = .ok q
  counts : ∀ key ∈ ["confirm_score", "confirm_observations"], ∀ default, ∃ n, intParameter rule key default = .ok n

theorem testNumber_ok (value : Option Rat) {limit : Except String Rat} (holds : Rat → Rat → Bool) (h : ∃ q, limit = .ok q) :
    ∃ b, testNumber value limit holds = .ok b := by
  obtain ⟨q, rfl⟩ := h
  cases value with
  | none => exact ⟨_, rfl⟩
  | some value => exact ⟨_, rfl⟩

theorem andThen_ok {a b : Except String Bool} (ha : ∃ x, a = .ok x) (hb : ∃ y, b = .ok y) : ∃ z, andThen a b = .ok z := by
  obtain ⟨x, rfl⟩ := ha
  obtain ⟨y, rfl⟩ := hb
  cases x with
  | false => exact ⟨_, rfl⟩
  | true => exact ⟨_, rfl⟩

namespace Readable

theorem adaptivePolicy (h : Readable rule) : ∃ policy, adaptivePolicy rule = .ok policy := by
  obtain ⟨base, hbase⟩ := h.numbers "base_floor_pct" (by decide) (1 / 2)
  obtain ⟨gap, hgap⟩ := h.numbers "initial_gap_pct" (by decide) (3 / 2)
  obtain ⟨slope, hslope⟩ := h.numbers "gap_slope" (by decide) (1 / 4)
  obtain ⟨most, hmost⟩ := h.numbers "max_gap_pct" (by decide) 3
  rw [ExitRules.adaptivePolicy, hbase, hgap, hslope, hmost]
  exact ⟨_, rfl⟩

theorem weakPriceScore (h : Readable rule) (view : WindowView) : ∃ score, weakPriceScore rule view = .ok score := by
  obtain ⟨drawdown, hdrawdown⟩ := h.numbers "weak_drawdown_pct" (by decide) (3 / 5)
  obtain ⟨falling, hfalling⟩ := testNumber_ok view.return15sPct (fun value limit => value ≤ -limit)
    (h.numbers "weak_return_15s_pct" (by decide) (1 / 4))
  obtain ⟨stagnant, hstagnant⟩ := andThen_ok ⟨view.full, rfl⟩ (andThen_ok
    (testNumber_ok view.volumeVelocity (fun value limit => limit ≤ value)
      (h.numbers "stagnation_volume_velocity" (by decide) (3 / 2)))
    (testNumber_ok view.return60sPct (fun value limit => value ≤ limit)
      (h.numbers "stagnation_return_60s_pct" (by decide) (1 / 10))))
  rw [ExitRules.weakPriceScore, hdrawdown, hfalling, hstagnant]
  exact ⟨_, rfl⟩

theorem weakBookScore (h : Readable rule) (context : ExitEvaluationContext) (view : WindowView) :
    ∃ score, weakBookScore rule context view = .ok score := by
  obtain ⟨pressed, hpressed⟩ := andThen_ok ⟨view.full, rfl⟩
    (testNumber_ok context.depthImbalance5 (fun value limit => value ≤ limit)
      (h.numbers "weak_depth_imbalance" (by decide) (-1 / 5)))
  obtain ⟨newHigh, hnewHigh⟩ := h.numbers "new_high_bonus_seconds" (by decide) 10
  obtain ⟨strong, hstrong⟩ := andThen_ok ⟨view.full, rfl⟩ (andThen_ok
    (testNumber_ok view.return15sPct (fun value limit => limit ≤ value)
      (h.numbers "strong_return_15s_pct" (by decide) (1 / 4)))
    (testNumber_ok view.volumeVelocity (fun value limit => limit ≤ value)
      (h.numbers "strong_volume_velocity" (by decide) (6 / 5))))
  rw [ExitRules.weakBookScore, hpressed, hnewHigh, hstrong]
  exact ⟨_, rfl⟩

theorem immediateExit (h : Readable rule) (view : WindowView) (floorBreached : Bool) :
    ∃ immediate, immediateExit rule view floorBreached = .ok immediate := by
  obtain ⟨rapid, hrapid⟩ := andThen_ok
    (testNumber_ok view.return15sPct (fun value limit => value ≤ -limit)
      (h.numbers "immediate_return_15s_pct" (by decide) (4 / 5)))
    (testNumber_ok view.volumeVelocity (fun value limit => limit ≤ value)
      (h.numbers "immediate_volume_velocity" (by decide) 2))
  obtain ⟨deep, hdeep⟩ := h.numbers "immediate_drawdown_pct" (by decide) (6 / 5)
  rw [ExitRules.immediateExit, hrapid, hdeep]
  exact ⟨_, rfl⟩

theorem not_of_error {α : Type} {x : Except String α} {error : String} (hx : x = .error error) (hok : Readable rule → ∃ a, x = .ok a) :
    ¬ Readable rule := by
  intro h
  obtain ⟨a, ha⟩ := hok h
  rw [hx] at ha
  cases ha

end Readable

/-! ### How an evaluation ends -/

theorem conclude_ok (scratch : Dict String PyVal → RuleScratch) {fields : List (String × PyVal)} {score count : Int}
    (hdrawdown : (own.update fields).get? "peak_drawdown_pct" = some (.float drawdown))
    (hscore : (own.update fields).get? "weak_score" = some (.int score))
    (hcount : (own.update fields).get? "consecutive_weak" = some (.int count)) (grossProfit : Rat) (triggered : Bool) (reason : String) :
    ∃ metrics, conclude scratch own fields grossProfit triggered reason = (scratch (own.update fields), .ok ⟨triggered, reason, metrics⟩) := by
  have hread : floatField (own.update fields).entries "peak_drawdown_pct" 0 = .ok drawdown := by
    have hlookup : Dict.lookup "peak_drawdown_pct" (own.update fields).entries = some (.float drawdown) := hdrawdown
    rw [floatField, hlookup, Option.getD_some, PyVal.float_or]
    rfl
  have hweak : intOrField (own.update fields).entries "weak_score" 0 = .ok score := by
    have hlookup : Dict.lookup "weak_score" (own.update fields).entries = some (.int score) := hscore
    rw [intOrField, hlookup, Option.getD_some, PyVal.int_or_zero]
    rfl
  have hmetrics : ∃ metrics, adaptiveMetrics (own.update fields) grossProfit = .ok metrics := by
    unfold adaptiveMetrics
    rw [hread, hweak, read_count hcount]
    exact ⟨_, rfl⟩
  obtain ⟨metrics, hmetrics⟩ := hmetrics
  refine ⟨metrics, ?_⟩
  unfold conclude
  simp only [hmetrics, Except.map]

/-- How an armed rule with a price ends: it raises, sells at once, or judges the weakness that it has counted. -/
inductive Followed (rule : ExitRuleSpec) (isNew : Bool) (stored : Int) (own : Dict String PyVal) : Except String ExitRuleMatch → Prop
  | raised (error : String) (unreadable : ¬ Readable rule) (count : own.get? "consecutive_weak" = some (.int stored)) :
      Followed rule isNew stored own (.error error)
  | immediate (found : ExitRuleMatch) (decision : own.get? "last_decision" = some (.str "IMMEDIATE_EXIT"))
      (count : own.get? "consecutive_weak" = some (.int 0)) : Followed rule isNew stored own (.ok found)
  | judged (found : ExitRuleMatch) (score confirmScore confirmObservations count : Int)
      (readScore : intParameter rule "confirm_score" 3 = .ok confirmScore)
      (readObservations : intParameter rule "confirm_observations" 2 = .ok confirmObservations)
      (weak : own.get? "weak_score" = some (.int score))
      (counted : count = if isNew then (if confirmScore ≤ score then stored + 1 else 0) else stored)
      (kept : own.get? "consecutive_weak" = some (.int count))
      (triggered : found.triggered = decide (max 1 confirmObservations ≤ count))
      (decision : own.get? "last_decision" =
        some (.str (if max 1 confirmObservations ≤ count then "CONFIRMED_EXIT" else "FOLLOW"))) :
      Followed rule isNew stored own (.ok found)

theorem confirmWeakness_followed (isNew full : Bool) (grossProfit : Rat) (scratch : Dict String PyVal → RuleScratch) {score : Int}
    (hdrawdown : own.get? "peak_drawdown_pct" = some (.float drawdown)) (hscore : own.get? "weak_score" = some (.int score))
    (hcount : own.get? "consecutive_weak" = some (.int stored)) :
    ∃ own', (confirmWeakness rule isNew score grossProfit full scratch own).1 = scratch own' ∧
      Dict.Keeps ["consecutive_weak", "phase", "last_decision"] own own' ∧
      Followed rule isNew stored own' (confirmWeakness rule isNew score grossProfit full scratch own).2 := by
  unfold confirmWeakness
  cases hconfirm : intParameter rule "confirm_score" 3 with
  | error error =>
    exact ⟨own, rfl, .refl _ _, .raised error (Readable.not_of_error hconfirm fun h => h.counts _ (by decide) _) hcount⟩
  | ok confirmScore =>
  cases hobservations : intParameter rule "confirm_observations" 2 with
  | error error =>
    exact ⟨own, rfl, .refl _ _, .raised error (Readable.not_of_error hobservations fun h => h.counts _ (by decide) _) hcount⟩
  | ok confirmObservations =>
  simp only [reading, read_count hcount]
  generalize hconsecutive : (if isNew then (if confirmScore ≤ score then stored + 1 else 0) else stored) = consecutive
  generalize hown : (if isNew then own.set "consecutive_weak" (.int consecutive) else own) = own₁
  have hkept : Dict.Keeps ["consecutive_weak", "phase", "last_decision"] own own₁ := by
    subst hown
    split
    · exact .set (by decide) _ _
    · exact .refl _ _
  have hcount₁ : own₁.get? "consecutive_weak" = some (.int consecutive) := by
    subst hown hconsecutive
    split
    · exact Dict.get?_set_self ..
    · exact hcount
  have hfields : ∀ phase decision : String, Dict.Keeps ["phase", "last_decision"] own₁
      (own₁.update [("phase", .str phase), ("last_decision", .str decision)]) := fun _ _ => .update (by simp) _
  have hends : ∀ (phase decision reason : String) (triggered : Bool), ∃ metrics,
      conclude scratch own₁ [("phase", .str phase), ("last_decision", .str decision)] grossProfit triggered reason =
        (scratch (own₁.update [("phase", .str phase), ("last_decision", .str decision)]), .ok ⟨triggered, reason, metrics⟩) := by
    intro phase decision reason triggered
    have hdrawdown' := ((hfields phase decision) _ (by decide)).trans ((hkept _ (by decide)).trans hdrawdown)
    have hscore' := ((hfields phase decision) _ (by decide)).trans ((hkept _ (by decide)).trans hscore)
    exact conclude_ok scratch hdrawdown' hscore' (((hfields phase decision) _ (by decide)).trans hcount₁) grossProfit triggered reason
  split
  · rename_i hreached
    obtain ⟨metrics, hend⟩ := hends "TRIGGERED" "CONFIRMED_EXIT" (rule.reason "ADAPTIVE_TRAILING_WEAKNESS_CONFIRMED") true
    rw [hend]
    refine ⟨_, rfl, hkept.trans ((hfields _ _).mono (by decide)), ?_⟩
    refine .judged _ score confirmScore confirmObservations consecutive hconfirm hobservations ?_ hconsecutive.symm ?_ ?_ ?_
    · rw [hfields _ _ _ (by decide), hkept _ (by decide), hscore]
    · rw [hfields _ _ _ (by decide), hcount₁]
    · exact (decide_eq_true hreached).symm
    · rw [if_pos hreached]
      exact Dict.get?_update_list (by simp) _ _
  · rename_i hreached
    obtain ⟨metrics, hend⟩ := hends (if full then "FOLLOWING" else "PRICE_ONLY_DEGRADED") "FOLLOW" "ADAPTIVE_TRAILING_FOLLOW" false
    rw [hend]
    refine ⟨_, rfl, hkept.trans ((hfields _ _).mono (by decide)), ?_⟩
    refine .judged _ score confirmScore confirmObservations consecutive hconfirm hobservations ?_ hconsecutive.symm ?_ ?_ ?_
    · rw [hfields _ _ _ (by decide), hkept _ (by decide), hscore]
    · rw [hfields _ _ _ (by decide), hcount₁]
    · exact (decide_eq_false hreached).symm
    · rw [if_neg hreached]
      exact Dict.get?_update_list (by simp) _ _

theorem floorOf_congr (h : own'.get? "trailing_floor_pct" = own.get? "trailing_floor_pct") : floorOf own' = floorOf own := by
  rw [floorOf, floorOf, Dict.getD, Dict.getD, h]

theorem floorOf_stored {trailingFloor : Option Rat} (h : own.get? "trailing_floor_pct" = some (numberOrNone trailingFloor)) :
    floorOf own = trailingFloor := by
  rw [floorOf, Dict.getD, h]
  exact optionalFloat_numberOrNone trailingFloor

theorem greatestFloor_congr {ruleState : Dict String (Dict String PyVal)} {ruleId : String} (h : floorOf own' = floorOf own) :
    greatestFloor (ruleState.set ruleId own') = greatestFloor (ruleState.set ruleId own) := by
  rw [greatestFloor, greatestFloor, Dict.filterMap_values_congr h]

def followKeys : List String := ["trailing_floor_pct", "depth_imbalance_5", "weak_score", "consecutive_weak", "phase", "last_decision"]

theorem followPrice_followed (plan : ExitPlan) (context : ExitEvaluationContext) (isNew : Bool) (view : WindowView) {policy : TrailingProfitPolicy}
    (hpolicy : adaptivePolicy rule = .ok policy) (hdrawdown : own.get? "peak_drawdown_pct" = some (.float drawdown))
    (hcount : own.get? "consecutive_weak" = some (.int stored)) :
    ∃ own', (followPrice rule plan context isNew view own).1 =
        ⟨plan.ruleState.set rule.ruleId own', greatestFloor (plan.ruleState.set rule.ruleId own')⟩ ∧
      Dict.Keeps followKeys own own' ∧
      floorOf own' = calculateTrailingFloorPct plan.peakNetProfitPct (floorOf own) policy ∧
      Followed rule isNew stored own' (followPrice rule plan context isNew view own).2 := by
  unfold followPrice
  simp only [hpolicy, reading]
  generalize htrailing : calculateTrailingFloorPct plan.peakNetProfitPct (floorOf own) policy = trailingFloor
  generalize hown₁ : own.set "trailing_floor_pct" (numberOrNone trailingFloor) = own₁
  have hkept₁ : Dict.Keeps followKeys own own₁ := hown₁ ▸ .set (by decide) _ _
  have hfloor₁ : floorOf own₁ = trailingFloor := floorOf_stored (hown₁ ▸ Dict.get?_set_self ..)
  have hdrawdown₁ : own₁.get? "peak_drawdown_pct" = some (.float drawdown) := (hkept₁ _ (by decide)).trans hdrawdown
  have hcount₁ : own₁.get? "consecutive_weak" = some (.int stored) := by
    rw [← hown₁, Dict.get?_set_ne _ _ (by decide), hcount]
  -- What is written after the floor leaves it, and with it the greatest floor, alone.
  have hplan : ∀ own', floorOf own' = trailingFloor → followScratch rule plan trailingFloor own' =
      ⟨plan.ruleState.set rule.ruleId own', greatestFloor (plan.ruleState.set rule.ruleId own')⟩ := by
    intro own' hown'
    refine congrArg (RuleScratch.mk _) (greatestFloor_congr ?_)
    rw [hown', floorOf_stored (Dict.get?_set_self ..)]
  cases hprice : weakPriceScore rule view with
  | error error =>
    exact ⟨own₁, hplan own₁ hfloor₁, hkept₁, hfloor₁, .raised error (Readable.not_of_error hprice fun h => h.weakPriceScore view) hcount₁⟩
  | ok priceScore =>
  simp only
  generalize hown₂ : own₁.set "depth_imbalance_5" (numberOrNone context.depthImbalance5) = own₂
  have hkept₂ : Dict.Keeps ["depth_imbalance_5"] own₁ own₂ := hown₂ ▸ .set (by decide) _ _
  have hfloor₂ : floorOf own₂ = trailingFloor := (floorOf_congr (hkept₂ _ (by decide))).trans hfloor₁
  have hcount₂ : own₂.get? "consecutive_weak" = some (.int stored) := (hkept₂ _ (by decide)).trans hcount₁
  cases hbook : weakBookScore rule context view with
  | error error =>
    exact ⟨own₂, hplan own₂ hfloor₂, hkept₁.trans (hkept₂.mono (by decide)), hfloor₂,
      .raised error (Readable.not_of_error hbook fun h => h.weakBookScore context view) hcount₂⟩
  | ok bookScore =>
  simp only
  generalize hown₃ : own₂.set "weak_score" (.int (priceScore + bookScore)) = own₃
  have hkept₃ : Dict.Keeps ["depth_imbalance_5", "weak_score"] own₁ own₃ :=
    (hkept₂.mono (by decide)).trans (hown₃ ▸ .set (by decide) _ _)
  have hfloor₃ : floorOf own₃ = trailingFloor := (floorOf_congr (hkept₃ _ (by decide))).trans hfloor₁
  have hcount₃ : own₃.get? "consecutive_weak" = some (.int stored) := (hkept₃ _ (by decide)).trans hcount₁
  have hscore₃ : own₃.get? "weak_score" = some (.int (priceScore + bookScore)) := hown₃ ▸ Dict.get?_set_self ..
  have hdrawdown₃ : own₃.get? "peak_drawdown_pct" = some (.float drawdown) := (hkept₃ _ (by decide)).trans hdrawdown₁
  have hkept : Dict.Keeps followKeys own own₃ := hkept₁.trans (hkept₃.mono (by decide))
  cases himmediate : immediateExit rule view (trailingFloor.any (plan.lastNetProfitPct ≤ ·)) with
  | error error =>
    exact ⟨own₃, hplan own₃ hfloor₃, hkept, hfloor₃, .raised error (Readable.not_of_error himmediate fun h => h.immediateExit view _) hcount₃⟩
  | ok immediate =>
  simp only
  cases immediate with
  | true =>
    have hfields : Dict.Keeps ["phase", "last_decision", "consecutive_weak"] own₃ (own₃.update [("phase", .str "TRIGGERED"),
        ("last_decision", .str "IMMEDIATE_EXIT"), ("consecutive_weak", .int 0)]) := .update (by simp) _
    have hfloor := (floorOf_congr (hfields _ (by decide))).trans hfloor₃
    rw [if_pos rfl]
    obtain ⟨metrics, hend⟩ := conclude_ok (followScratch rule plan trailingFloor) ((hfields _ (by decide)).trans hdrawdown₃) ((hfields _ (by decide)).trans hscore₃) (Dict.get?_update_list (by simp) _ _)
      (executableProfitPct plan context) true
      (rule.reason (if trailingFloor.any (plan.lastNetProfitPct ≤ ·) then "ADAPTIVE_TRAILING_FLOOR_BREACHED"
        else "ADAPTIVE_TRAILING_IMMEDIATE_REVERSAL"))
    rw [hend, hplan _ hfloor]
    refine ⟨_, rfl, hkept.trans (hfields.mono (by decide)), hfloor, .immediate _ ?_ ?_⟩
    · exact Dict.get?_update_list (by simp) _ _
    · exact Dict.get?_update_list (by simp) _ _
  | false =>
    rw [if_neg Bool.false_ne_true]
    obtain ⟨own', hscratch, hkept', hfollowed⟩ := confirmWeakness_followed isNew view.full
      (executableProfitPct plan context) (followScratch rule plan trailingFloor) hdrawdown₃ hscore₃ hcount₃
    have hfloor := (floorOf_congr (hkept' _ (by decide))).trans hfloor₃
    refine ⟨own', ?_, hkept.trans (hkept'.mono (by decide)), hfloor, hfollowed⟩
    rw [hscratch, hplan own' hfloor]

/-- All that an evaluation does: it keeps the window, the peak and the latch, and it follows the price or does nothing. -/
structure AdaptiveStep (rule : ExitRuleSpec) (plan : ExitPlan) (context : ExitEvaluationContext) (samples : List Sample) (stored : Int)
    (own own' : Dict String PyVal) (scratch : RuleScratch) (result : Except String ExitRuleMatch) : Prop where
  ruleState : scratch.ruleState = plan.ruleState.set rule.ruleId own'
  date : own'.get? "sample_trade_date" = own.get? "sample_trade_date"
  window : own'.get? "samples" =
    some (.list ((if isNewObservation samples context.timestampMs then pushSample samples context else samples).map Sample.toValue))
  numbers : Numbers own'
  armed : isArmed own' = (isArmed own || reachesArm rule plan context)
  ends : (isArmed own' ∧ priceAvailable context) ∧ Followed rule (isNewObservation samples context.timestampMs) stored own' result ∨
    ¬ (isArmed own' ∧ priceAvailable context) ∧ own'.get? "consecutive_weak" = some (.int stored) ∧
      (∃ found, result = .ok found ∧ found.triggered = false)
  floor : (∃ policy, adaptivePolicy rule = .ok policy ∧ (isArmed own' ∧ priceAvailable context) ∧
      floorOf own' = calculateTrailingFloorPct plan.peakNetProfitPct (floorOf own) policy ∧
      scratch.trailingFloorPct = greatestFloor scratch.ruleState) ∨
    (∀ policy, adaptivePolicy rule = .ok policy → ¬ (isArmed own' ∧ priceAvailable context)) ∧ floorOf own' = floorOf own ∧
      scratch.trailingFloorPct = plan.trailingFloorPct

theorem adaptive_step (hown : openWindowDay context.tradeDate (ownState rule plan) = own)
    (hsamples : own.get? "samples" = some (.list (samples.map Sample.toValue))) (hnumbers : Numbers own)
    (hcount : own.get? "consecutive_weak" = some (.int stored)) :
    ∃ own', AdaptiveStep rule plan context samples stored own own' (adaptiveVolumePriceTrailing rule plan context).1
      (adaptiveVolumePriceTrailing rule plan context).2 := by
  obtain ⟨view, own₁, hwatched, heq⟩ := adaptive_watched hown hsamples hnumbers
  obtain ⟨drawdown, hdrawdown⟩ := hwatched.drawdown
  have hcount₁ : own₁.get? "consecutive_weak" = some (.int stored) := (hwatched.keeps _ (by decide)).trans hcount
  have hfloor₁ : floorOf own₁ = floorOf own := floorOf_congr (hwatched.keeps _ (by decide))
  rw [heq]
  -- An evaluation that does not follow the price notes the phase and leaves the rest.
  have hidle : ∀ phase decision reason, ¬ (isArmed own₁ ∧ priceAvailable context) → ∃ own',
      AdaptiveStep rule plan context samples stored own own'
        (conclude (keepState rule plan) own₁ [("phase", .str phase), ("last_decision", .str decision), ("weak_score", .int 0)]
          (executableProfitPct plan context) false reason).1
        (conclude (keepState rule plan) own₁ [("phase", .str phase), ("last_decision", .str decision), ("weak_score", .int 0)]
          (executableProfitPct plan context) false reason).2 := by
    intro phase decision reason hquiet
    have hfields : Dict.Keeps ["phase", "last_decision", "weak_score"] own₁
        (own₁.update [("phase", .str phase), ("last_decision", .str decision), ("weak_score", .int 0)]) := .update (by simp) _
    have hcount' := (hfields _ (by decide)).trans hcount₁
    obtain ⟨metrics, hend⟩ := conclude_ok (keepState rule plan) ((hfields _ (by decide)).trans hdrawdown)
      (Dict.get?_update_list (by simp) _ _) hcount' (executableProfitPct plan context) false reason
    have hquiet' : ¬ (isArmed (own₁.update [("phase", .str phase), ("last_decision", .str decision), ("weak_score", .int 0)]) ∧
        priceAvailable context) := by
      rw [isArmed_congr (hfields _ (by decide))]
      exact hquiet
    rw [hend]
    refine ⟨own₁.update [("phase", .str phase), ("last_decision", .str decision), ("weak_score", .int 0)], rfl, ?_, ?_, ?_, ?_, ?_, ?_⟩
    · exact (hfields _ (by decide)).trans (hwatched.keeps _ (by decide))
    · exact (hfields _ (by decide)).trans hwatched.samples
    · exact hwatched.numbers.congr (hfields _ (by decide)) (hfields _ (by decide))
    · rw [isArmed_congr (hfields _ (by decide)), hwatched.armed]
    · exact .inr ⟨hquiet', hcount', _, rfl, rfl⟩
    · exact .inr ⟨fun _ _ => hquiet', (floorOf_congr (hfields _ (by decide))).trans hfloor₁, rfl⟩
  by_cases harmed : isArmed own₁ = true
  swap
  · rw [if_pos (by simp [harmed])]
    exact hidle _ _ _ fun h => harmed h.1
  rw [if_neg (by simp [harmed])]
  by_cases havailable : priceAvailable context = true
  swap
  · rw [if_pos (by simp [havailable])]
    exact hidle _ _ _ fun h => havailable h.2
  rw [if_neg (by simp [havailable])]
  cases hpolicy : adaptivePolicy rule with
  | error error =>
    have hraise : followPrice rule plan context (isNewObservation samples context.timestampMs) view own₁ =
        (keepState rule plan own₁, .error error) := by
      rw [followPrice, hpolicy]
      rfl
    rw [hraise]
    refine ⟨own₁, rfl, hwatched.keeps _ (by decide), hwatched.samples, hwatched.numbers, hwatched.armed,
      .inl ⟨⟨harmed, havailable⟩, .raised error (Readable.not_of_error hpolicy Readable.adaptivePolicy) hcount₁⟩, .inr ⟨fun policy h => ?_, hfloor₁, rfl⟩⟩
    rw [hpolicy] at h
    cases h
  | ok policy =>
    obtain ⟨own', hscratch, hkept, hfloor, hfollowed⟩ := followPrice_followed plan context
      (isNewObservation samples context.timestampMs) view hpolicy hdrawdown hcount₁
    have harmed' : isArmed own' = isArmed own₁ := isArmed_congr (hkept _ (by decide))
    rw [hscratch]
    refine ⟨own', rfl, ?_, ?_, ?_, ?_, ?_, ?_⟩
    · exact (hkept _ (by decide)).trans (hwatched.keeps _ (by decide))
    · exact (hkept _ (by decide)).trans hwatched.samples
    · exact hwatched.numbers.congr (hkept _ (by decide)) (hkept _ (by decide))
    · rw [harmed', hwatched.armed]
    · rw [harmed']
      exact .inl ⟨⟨harmed, havailable⟩, hfollowed⟩
    · rw [harmed', hfloor, hfloor₁]
      exact .inl ⟨policy, hpolicy, ⟨harmed, havailable⟩, rfl, rfl⟩

structure AdaptiveStored (tradeDate : String) (samples : List Sample) (stored : Int) (own : Dict String PyVal) : Prop where
  date : own.get? "sample_trade_date" = some (.str tradeDate)
  window : own.get? "samples" = some (.list (samples.map Sample.toValue))
  count : own.get? "consecutive_weak" = some (.int stored)
  numbers : Numbers own

theorem AdaptiveStored.open {tradeDate : String} (h : AdaptiveStored tradeDate samples stored own) :
    openWindowDay tradeDate own = own := by
  unfold openWindowDay
  rw [h.date, if_pos (by simp [isTradeDate])]

theorem openWindowDay_new {tradeDate : String} (hnumbers : Numbers own) (hnew : own.get? "sample_trade_date" ≠ some (.str tradeDate)) :
    AdaptiveStored tradeDate [] 0 (openWindowDay tradeDate own) := by
  have hkept : Dict.Keeps ["samples", "sample_trade_date", "consecutive_weak"] own
      (own.update [("samples", .list []), ("sample_trade_date", .str tradeDate), ("consecutive_weak", .int 0)]) := .update (by simp) _
  unfold openWindowDay
  rw [if_neg]
  · exact ⟨Dict.get?_update_list (by simp) _ _, Dict.get?_update_list (by simp) _ _, Dict.get?_update_list (by simp) _ _,
      hnumbers.congr (hkept _ (by decide)) (hkept _ (by decide))⟩
  · intro hsame
    unfold isTradeDate at hsame
    split at hsame
    · rename_i date hdate
      exact hnew (by rw [hdate, of_decide_eq_true hsame])
    · cases hsame

theorem keeps_openWindowDay (tradeDate : String) :
    Dict.Keeps ["samples", "sample_trade_date", "consecutive_weak"] own (openWindowDay tradeDate own) := by
  unfold openWindowDay
  split
  · exact .refl _ _
  · exact .update (by simp) _

def AdaptiveOwn (own : Dict String PyVal) : Prop := own = .empty ∨ ∃ tradeDate samples stored, AdaptiveStored tradeDate samples stored own

theorem AdaptiveOwn.open (h : AdaptiveOwn own) (tradeDate : String) :
    ∃ samples stored, AdaptiveStored tradeDate samples stored (openWindowDay tradeDate own) := by
  rcases h with rfl | ⟨date, samples, stored, hstored⟩
  · exact ⟨[], 0, openWindowDay_new ⟨by simp, by simp⟩ (by simp)⟩
  · by_cases hsame : date = tradeDate
    · subst hsame
      rw [hstored.open]
      exact ⟨samples, stored, hstored⟩
    · refine ⟨[], 0, openWindowDay_new hstored.numbers ?_⟩
      rw [hstored.date]
      simpa using hsame

theorem AdaptiveStep.wellFormed {tradeDate : String} {scratch : RuleScratch} {result : Except String ExitRuleMatch}
    (h : AdaptiveStep rule plan context samples stored own own' scratch result) (hdate : own.get? "sample_trade_date" = some (.str tradeDate)) :
    AdaptiveOwn own' := by
  have hcount : ∃ count : Int, own'.get? "consecutive_weak" = some (.int count) := by
    rcases h.ends with ⟨-, hfollowed⟩ | ⟨-, hcount, -⟩
    · cases hfollowed with
      | raised _ _ hcount => exact ⟨_, hcount⟩
      | immediate _ _ hcount => exact ⟨_, hcount⟩
      | judged _ _ _ _ _ _ _ _ _ hkept => exact ⟨_, hkept⟩
    · exact ⟨_, hcount⟩
  obtain ⟨count, hcount⟩ := hcount
  exact .inr ⟨tradeDate, _, count, h.date.trans hdate, h.window, hcount, h.numbers⟩

end ExitRules
end QuantX
