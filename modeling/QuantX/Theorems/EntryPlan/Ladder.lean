import QuantX.Lib.Require
import QuantX.Theorems.EntryPlan.Pacing

namespace QuantX
open Lib

namespace ManagedEntryPlanState
variable {registry : ManagedEntryRuleRegistry} {uuid5 : String → String} {config : ManagedEntryPlanConfig}
  {context : EntryEvaluationContext} {s : ManagedEntryPlanState} {decision : EntryDecision}
  {found : List (EntryRuleSpec × EntryRuleMatch)} {item : EntryRuleSpec × EntryRuleMatch}

structure Matches (registry : ManagedEntryRuleRegistry) (rules : List EntryRuleSpec) (context : EntryEvaluationContext)
    (s : ManagedEntryPlanState) (item : EntryRuleSpec × EntryRuleMatch) : Prop where
  rule : item.1 ∈ rules
  matched : item.2.matched = true
  answered : ∃ ruleState, (registry.evaluate item.1 { s with ruleState } context).2 = .ok item.2

theorem matchRules_found (rules : List EntryRuleSpec) (h : (s.matchRules registry context rules).2 = .ok found) :
    ∀ item ∈ found, Matches registry rules context s item := by
  induction rules generalizing s found with
  | nil =>
    cases h
    exact fun _ hitem => absurd hitem List.not_mem_nil
  | cons rule rules ih =>
    have hlater : ∀ {s : ManagedEntryPlanState} {found}, (s.matchRules registry context rules).2 = .ok found →
        ∀ item ∈ found, Matches registry (rule :: rules) context s item := fun h item hitem =>
      ⟨List.mem_cons_of_mem _ (ih h item hitem).rule, (ih h item hitem).matched, (ih h item hitem).answered⟩
    rw [matchRules] at h
    split at h
    · exact hlater h
    · dsimp only at h
      cases hanswer : (registry.evaluate rule s context).2 with
      | error e =>
        rw [hanswer] at h
        cases h
      | ok answer =>
        rw [hanswer] at h
        cases hrest : (matchRules registry context rules { s with ruleState := (registry.evaluate rule s context).1 }).2 with
        | error e =>
          rw [hrest] at h
          cases h
        | ok rest =>
          rw [hrest] at h
          cases h
          have hrest := hlater hrest
          intro item hitem
          split at hitem
          · rename_i hmatched
            rcases List.mem_cons.mp hitem with rfl | hitem
            · exact ⟨List.mem_cons_self .., hmatched, s.ruleState, hanswer⟩
            · exact ⟨(hrest item hitem).rule, (hrest item hitem).matched, (hrest item hitem).answered⟩
          · exact ⟨(hrest item hitem).rule, (hrest item hitem).matched, (hrest item hitem).answered⟩

theorem foldl_pick_mem {α : Type} (better : α → α → Bool) (rest : List α) (first : α) :
    rest.foldl (fun best item => if better best item then item else best) first ∈ first :: rest := by
  refine List.foldlRecOn rest _ (List.mem_cons_self ..) fun best hbest item hitem => ?_
  split
  · exact List.mem_cons_of_mem _ hitem
  · exact hbest

theorem bestMatch_mem (h : bestMatch found = some item) : item ∈ found := by
  cases found with
  | nil => cases h
  | cons first rest =>
    obtain rfl := Option.some.inj h
    simpa using foldl_pick_mem (fun best item => decide (best.1.priority < item.1.priority)) rest first

/-- The slice of a decision: the rule that matched, and the activation it stands for. -/
structure OpenedBy (registry : ManagedEntryRuleRegistry) (config : ManagedEntryPlanConfig) (context : EntryEvaluationContext)
    (s : ManagedEntryPlanState) (decision : EntryDecision) (next : ManagedEntryPlanState) (rule : EntryRuleSpec)
    (found : EntryRuleMatch) : Prop where
  matches_rule : ∃ quality, Matches registry config.triggerRules context { s with dataQuality := quality } (rule, found)
  decision_rule : decision.ruleId = rule.ruleId ∧ decision.ruleType = rule.ruleType
  decision_metrics : ∃ gap : EntryGapResult, ∃ activation : Int, decision.metrics = found.metrics.update [
    ("remaining_gap_cny", .float gap.remainingAmountCny), ("position_cap_remaining_cny", .float gap.positionCapRemainingCny),
    ("plan_budget_remaining_cny", .float gap.planBudgetRemainingCny), ("activation", .int activation)]
  pending_rule : next.pendingRuleId = rule.ruleId
  pending_activation : ∃ activation : Int, next.pendingActivationId = ((found.metrics.getD "activation_id" .none).or
    (.str (if rule.once then rule.ruleId else rule.ruleId ++ ":" ++ toString activation))).pyStr
  completed : next.completedActivationIds = s.completedActivationIds

theorem evaluate_opens (h : s.decision? registry uuid5 config context = some decision) :
    ∃ rule found, OpenedBy registry config context s decision (s.evaluate registry uuid5 config context).1 rule found := by
  obtain ⟨quality, -, -, -, heq⟩ := evaluate_proposes h
  rw [decision?, heq] at h
  obtain ⟨ruleState, candidates, rule, found, size, hmatches, hbest, -, rfl, hnext⟩ := proposeSlice_opens h
  have hfound := matchRules_found config.triggerRules (congrArg Prod.snd hmatches) _ (bestMatch_mem hbest)
  rw [heq, hnext]
  exact ⟨rule, found, ⟨quality, hfound⟩, ⟨rfl, rfl⟩, ⟨_, _, rfl⟩, rfl, ⟨_, rfl⟩, rfl⟩

end ManagedEntryPlanState

namespace EntryRules
open ManagedEntryPlanState (foldl_pick_mem)
variable {rule : EntryRuleSpec} {s : ManagedEntryPlanState} {context : EntryEvaluationContext} {found : EntryRuleMatch}
  {level : List (String × PyVal)} {levels : List (List (String × PyVal))}

theorem get_level_id (h : levelId level ≠ "") : (PyVal.get level "level_id").pyStr = levelId level := by
  unfold levelId PyVal.get at *
  cases hvalue : Dict.lookup "level_id" level with
  | none =>
    rw [hvalue] at h
    exact absurd (by rfl) h
  | some value =>
    rw [hvalue] at h
    dsimp only [Option.getD_some] at h ⊢
    unfold PyVal.or at h ⊢
    split
    · rfl
    · rename_i hempty
      rw [if_neg hempty] at h
      exact absurd rfl h

theorem bestLevel_mem (h : bestLevel rule levels = .ok (some level)) : level ∈ levels := by
  obtain ⟨keyed, hkeyed, h⟩ := bind_eq_ok.mp h
  cases keyed with
  | nil => cases h
  | cons first rest =>
    obtain rfl := Option.some.inj (Except.ok.inj h)
    obtain ⟨level, hlevel, heq⟩ := (mapM_each hkeyed).2 _ (foldl_pick_mem levelBefore rest first)
    obtain ⟨priority, -, heq⟩ := bind_eq_ok.mp heq
    rw [← Except.ok.inj heq]
    exact hlevel

/-- A ladder that matches tells the level that was eligible. -/
theorem priceLadder_matched (h : (priceLadder rule s context).2 = .ok found) (hmatched : found.matched = true) :
    ∃ level, levelEligible rule s context level = true ∧ found.metrics.get? "level_id" = some (.str (levelId level)) ∧
      found.metrics.get? "activation_id" = some (.str (rule.ruleId ++ ":" ++ levelId level)) := by
  unfold priceLadder at h
  dsimp only at h
  split at h
  · cases h
  · cases h
    cases hmatched
  · rename_i level hlevel
    cases h
    obtain ⟨levels, -, hbest⟩ := bind_eq_ok.mp hlevel
    have heligible := (List.mem_filter.mp (bestLevel_mem hbest)).2
    have hid : levelId level ≠ "" := by
      simp only [levelEligible, Bool.and_eq_true, decide_eq_true_eq] at heligible
      exact heligible.1.1.1
    rw [get_level_id hid]
    refine ⟨level, heligible, ?_, ?_⟩
    all_goals rw [Dict.get?_ofList (by simp)]; rfl

end EntryRules

def EntryDecision.level (decision : EntryDecision) : Option (String × String) :=
  if decision.ruleType = "PRICE_LADDER" then some (decision.ruleId, (decision.metrics.getD "level_id" .none).pyStr) else none

namespace ManagedEntryPlanState
open EntryRules
variable {registry : ManagedEntryRuleRegistry} {uuid5 : String → String} {config : ManagedEntryPlanConfig} {planId : String}
  {s next : ManagedEntryPlanState} {log : List (Moment ManagedEntryPlanState EntryOp)}
variable {context : EntryEvaluationContext} {decision : EntryDecision}

/-- The level of the latest slice. -/
def latestLevel (uuid5 : String → String) : List (Moment ManagedEntryPlanState EntryOp) → Option (String × String)
  | [] => none
  | m :: log => match decidedBy .builtins uuid5 m with
    | some (_, decision) => decision.level
    | none => latestLevel uuid5 log

/-- A fill that is counted and comes for the pending slice. -/
def matchedFill (m : Moment ManagedEntryPlanState EntryOp) : Bool :=
  match m.op with
  | .tradeFill fill => fill.matchesPending && (m.before.applyTradeFill fill).2
  | _ => false

theorem matchedFill_trade (fill : EntryFill) :
    matchedFill ⟨s, .tradeFill fill, next⟩ = (fill.matchesPending && (s.applyTradeFill fill).2) := rfl

def fillsSlice (m : Moment ManagedEntryPlanState EntryOp) : Bool := matchedFill m && m.before.hasPending

def filledLevels (uuid5 : String → String) : List (Moment ManagedEntryPlanState EntryOp) → List (String × String)
  | [] => []
  | m :: log => (if fillsSlice m then (latestLevel uuid5 log).toList else []) ++ filledLevels uuid5 log

structure LadderLevel (config : ManagedEntryPlanConfig) (rule : EntryRuleSpec) (level : List (String × PyVal)) : Prop where
  known : rule ∈ config.triggerRules
  ladder : rule.ruleType = "PRICE_LADDER"
  listed : ∃ levels, ladderLevels rule = .ok levels ∧ level ∈ levels
  named : levelId level ≠ ""
  priced : 0 < floatOr (PyVal.get level "trigger_price") 0

def activationId (level : String × String) : String := level.1 ++ ":" ++ level.2

/-- A fill of a slice does not complete a level of another rule that got no fill. -/
def OwnActivation (uuid5 : String → String) (config : ManagedEntryPlanConfig)
    (earlier : List (Moment ManagedEntryPlanState EntryOp)) (m : Moment ManagedEntryPlanState EntryOp) : Prop :=
  fillsSlice m = true → ∀ rule level, LadderLevel config rule level →
    activationId (rule.ruleId, levelId level) = m.before.pendingActivationId →
    rule.ruleId = m.before.pendingRuleId ∨ (rule.ruleId, levelId level) ∈ filledLevels uuid5 earlier

structure PendingLevel (config : ManagedEntryPlanConfig) (latest : Option (String × String)) (s : ManagedEntryPlanState) (rule : EntryRuleSpec) : Prop where
  known : rule ∈ config.triggerRules
  pending : s.pendingRuleId = rule.ruleId
  ladder : rule.ruleType = "PRICE_LADDER" → ∃ id, latest = some (rule.ruleId, id) ∧ s.pendingActivationId = activationId (rule.ruleId, id)
  other : rule.ruleType ≠ "PRICE_LADDER" → latest = none

/-! ## What an operation does to the pending activation -/

def pendingTag (s : ManagedEntryPlanState) : Bool × String × String := (s.hasPending, s.pendingRuleId, s.pendingActivationId)

/-- The activation stays, goes with its slice, or comes with a decision; a matched fill completes it. -/
structure Tagged (registry : ManagedEntryRuleRegistry) (uuid5 : String → String) (m : Moment ManagedEntryPlanState EntryOp) : Prop where
  pending : (decidedBy registry uuid5 m).isSome = true ∨ m.after.pendingTag = m.before.pendingTag ∨ m.after.pendingTag = (false, "", "")
  completed : m.after.completedActivationIds =
    if matchedFill m = true ∧ m.before.pendingActivationId ≠ "" then insert m.before.pendingActivationId m.before.completedActivationIds
    else m.before.completedActivationIds
  rules : (∃ config context, m.op = .evaluate config context) ∨ m.after.ruleState = m.before.ruleState ∨
    ∃ fill, m.op = .tradeFill fill ∧ matchedFill m = true ∧ 0 < fill.price ∧
      m.after.ruleState = restartPullback m.before.ruleState m.before.pendingRuleId fill.price

theorem Tagged.rests {op : EntryOp} {next : ManagedEntryPlanState} (hop : matchedFill ⟨s, op, next⟩ = false)
    (hpending : next.pendingTag = s.pendingTag ∨ next.pendingTag = (false, "", ""))
    (hcompleted : next.completedActivationIds = s.completedActivationIds)
    (hrules : (∃ config context, op = .evaluate config context) ∨ next.ruleState = s.ruleState) : Tagged registry uuid5 ⟨s, op, next⟩ where
  pending := .inr hpending
  completed := by rw [hcompleted, hop, if_neg fun h => Bool.noConfusion h.1]
  rules := hrules.imp id .inl

theorem settlePending_tag (s : ManagedEntryPlanState) (targetReached : Bool) :
    (s.settlePending targetReached).pendingTag = (false, "", "") ∧
      (s.settlePending targetReached).completedActivationIds = s.completedActivationIds ∧
      (s.settlePending targetReached).ruleState = s.ruleState := by
  obtain ⟨phase, h⟩ := s.settlePending_writes targetReached
  rw [h]
  exact ⟨rfl, rfl, rfl⟩

theorem applyTradeFill_counted (fill : EntryFill) : (s.applyTradeFill fill).2 = true ↔ s.Applies fill := by
  unfold applyTradeFill
  split
  · rename_i hkey
    exact iff_of_false Bool.false_ne_true fun happlies => hkey.elim happlies.key happlies.fresh
  · rename_i hkey
    split
    · rename_i hempty
      exact iff_of_false Bool.false_ne_true fun happlies => hempty.elim (not_le.mpr happlies.volume) (not_le.mpr happlies.price)
    · rename_i hempty
      refine iff_of_true (by split <;> rfl) ⟨(not_or.mp hkey).1, (not_or.mp hkey).2, ?_, ?_⟩
      · exact not_le.mp (not_or.mp hempty).1
      · exact not_le.mp (not_or.mp hempty).2

theorem applyTradeFill_tagged (fill : EntryFill) : Tagged registry uuid5 ⟨s, .tradeFill fill, (s.applyTradeFill fill).1⟩ := by
  rcases s.applyTradeFill_cases fill with ⟨h, hnot⟩ | ⟨-, hother, h⟩ | ⟨happlies, hmatches, h⟩
  · rw [h]
    refine .rests ?_ (.inl rfl) rfl (.inr rfl)
    rw [matchedFill_trade, Bool.eq_false_iff.mpr (mt (applyTradeFill_counted fill).mp hnot), Bool.and_false]
  · rw [h]
    refine .rests ?_ (.inl rfl) rfl (.inr rfl)
    rw [matchedFill_trade, hother, Bool.false_and]
  · rw [h]
    have hmatched : matchedFill ⟨s, .tradeFill fill, ((s.recordFill fill).matchFill fill).advanceAfterFill fill.targetReached⟩ = true := by
      rw [matchedFill_trade, hmatches, (applyTradeFill_counted fill).mpr happlies]
      rfl
    have hcompleted : ((s.recordFill fill).matchFill fill).completedActivationIds =
        if s.pendingActivationId ≠ "" then insert s.pendingActivationId s.completedActivationIds else s.completedActivationIds := rfl
    refine ⟨.inr ?_, ?_, .inr ?_⟩
    · rcases ((s.recordFill fill).matchFill fill).advanceAfterFill_writes fill.targetReached with h | ⟨phase, h⟩
      · exact .inr ((congrArg pendingTag h).trans (settlePending_tag _ _).1)
      · rw [h]
        exact .inl rfl
    · simp only [hmatched, true_and]
      rw [← hcompleted]
      rcases ((s.recordFill fill).matchFill fill).advanceAfterFill_writes fill.targetReached with h | ⟨phase, h⟩
      · exact (congrArg completedActivationIds h).trans (settlePending_tag _ _).2.1
      · rw [h]
    · have hrules : (((s.recordFill fill).matchFill fill).advanceAfterFill fill.targetReached).ruleState =
          ((s.recordFill fill).matchFill fill).ruleState := by
        rcases ((s.recordFill fill).matchFill fill).advanceAfterFill_writes fill.targetReached with h | ⟨phase, h⟩
        · exact (congrArg ruleState h).trans (settlePending_tag _ _).2.2
        · rw [h]
      rw [hrules]
      by_cases hkind : s.pendingRuleType = "TREND_PULLBACK_CONFIRMATION"
      · exact .inr ⟨fill, rfl, hmatched, happlies.price, if_pos hkind⟩
      · exact .inl (if_neg hkind)

theorem applyOrderTerminal_tagged (report : EntryOrderReport) :
    Tagged registry uuid5 ⟨s, .orderTerminal report, s.applyOrderTerminal report⟩ := by
  have hsettles : ∀ (t : ManagedEntryPlanState) (p : Prop) [Decidable p], t.completedActivationIds = s.completedActivationIds →
      t.ruleState = s.ruleState → Tagged registry uuid5
        ⟨s, .orderTerminal report, (if p then t.cooldown report else t).settlePending report.targetReached⟩ := by
    intro t p _ hcompleted hrules
    obtain ⟨retry, hretry⟩ := t.cooldown_writes report p
    rw [hretry]
    obtain ⟨htag, hsame, hkept⟩ := settlePending_tag { t with retryAfterMs := retry } report.targetReached
    exact .rests rfl (.inr htag) (hsame.trans hcompleted) (.inr (hkept.trans hrules))
  rcases s.applyOrderTerminal_cases report with ⟨-, h⟩ | ⟨-, h⟩ | ⟨terminal, -, -, h⟩
  · rw [h]
    exact .rests rfl (.inl rfl) rfl (.inr rfl)
  · rw [h]
    exact hsettles s (s.pendingFilledVolume ≤ 0) rfl rfl
  · obtain ⟨most, hmost⟩ := announceExpected_writes { s with orderTerminalSeen := true } terminal report.expectedFilledVolume
    rw [h, endOrder, hmost]
    split
    · exact .rests rfl (.inl rfl) rfl (.inr rfl)
    · exact hsettles { s with orderTerminalSeen := true, terminalExpectedFilledVolume := most }
        (s.pendingFilledVolume ≤ 0 ∧ terminal ≠ .filled) rfl rfl

theorem step_tagged (s : ManagedEntryPlanState) (registry : ManagedEntryRuleRegistry) (uuid5 : String → String) (op : EntryOp) :
    Tagged registry uuid5 ⟨s, op, s.step registry uuid5 op⟩ := by
  cases op with
  | tradeFill fill => exact applyTradeFill_tagged fill
  | orderTerminal report => exact applyOrderTerminal_tagged report
  | evaluate config context =>
    have hdone := s.evaluate_evaluated registry uuid5 config context
    generalize hnext : (s.evaluate registry uuid5 config context).1 = next at hdone
    have hstep : s.step registry uuid5 (.evaluate config context) = next := hnext
    rw [hstep]
    cases hdecision : s.decision? registry uuid5 config context with
    | some decision =>
      rw [hdecision] at hdone
      refine ⟨.inl (by rw [decidedBy_opened hdecision]; rfl), ?_, .inl ⟨config, context, rfl⟩⟩
      cases hdone
      rfl
    | none =>
      rw [hdecision] at hdone
      cases hdone
      all_goals exact .rests rfl (.inl rfl) rfl (.inl ⟨config, context, rfl⟩)
  | requestTerminal requested reason pendingWork =>
    obtain ⟨first, noted, phase, h⟩ := s.requestTerminal_writes requested reason pendingWork
    have hstep : s.step registry uuid5 (.requestTerminal requested reason pendingWork) = _ := h
    rw [hstep]
    exact .rests rfl (.inl rfl) rfl (.inr rfl)
  | reload =>
    have hstep : s.step registry uuid5 .reload = s := s.reload_eq
    rw [hstep]
    exact .rests rfl (.inl rfl) rfl (.inr rfl)

structure LadderInv (uuid5 : String → String) (config : ManagedEntryPlanConfig) (log : List (Moment ManagedEntryPlanState EntryOp))
    (s : ManagedEntryPlanState) : Prop where
  idle : s.hasPending = false → s.pendingActivationId = ""
  pending : s.hasPending = true → ∃ rule, PendingLevel config (latestLevel uuid5 log) s rule
  filled : ∀ level ∈ filledLevels uuid5 log, activationId level ∈ s.completedActivationIds
  once : ∀ later m earlier, log = later ++ m :: earlier → ∀ context decision, decidedBy .builtins uuid5 m = some (context, decision) →
    ∀ level, decision.level = some level → level ∉ filledLevels uuid5 earlier
  exact : (∀ later m earlier, log = later ++ m :: earlier → OwnActivation uuid5 config earlier m) →
    ∀ rule level, LadderLevel config rule level → activationId (rule.ruleId, levelId level) ∈ s.completedActivationIds →
      (rule.ruleId, levelId level) ∈ filledLevels uuid5 log

theorem activationId_ne (level : String × String) : activationId level ≠ "" := by
  intro h
  have hlength := congrArg String.length h
  simp only [activationId, String.length_append] at hlength
  have : (":" : String).length = 1 := by decide
  have : ("" : String).length = 0 := rfl
  omega

theorem activationId_inj {ruleId id id' : String} (h : activationId (ruleId, id) = activationId (ruleId, id')) : id = id' := by
  have hlist := congrArg String.toList h
  simp only [activationId, String.toList_append] at hlist
  exact String.toList_inj.mp (List.append_cancel_left hlist)

theorem builtins_ladder : ManagedEntryRuleRegistry.builtins "PRICE_LADDER" = some priceLadder := by
  have hmanual : ("MANUAL_TRIGGER" : String).toUpper ≠ "PRICE_LADDER" := by decide +kernel
  have hladder : ("PRICE_LADDER" : String).toUpper = "PRICE_LADDER" := by decide +kernel
  rw [ManagedEntryRuleRegistry.builtins, ManagedEntryRuleRegistry.register, if_neg hmanual.symm, ManagedEntryRuleRegistry.register,
    if_pos hladder.symm]

theorem OpenedBy.level {rule : EntryRuleSpec} {found : EntryRuleMatch}
    (h : OpenedBy .builtins config context s decision next rule found) (hladder : rule.ruleType = "PRICE_LADDER") :
    ∃ id, decision.level = some (rule.ruleId, id) ∧ next.pendingActivationId = activationId (rule.ruleId, id) ∧
      activationId (rule.ruleId, id) ∉ s.completedActivationIds := by
  obtain ⟨⟨quality, hmatches⟩, ⟨hid, htype⟩, ⟨gap, count, hmetrics⟩, -, ⟨activation, hactivation⟩, -⟩ := h
  obtain ⟨ruleState, hanswer⟩ := hmatches.answered
  simp only [ManagedEntryRuleRegistry.evaluate, hladder, builtins_ladder] at hanswer
  obtain ⟨level, heligible, hlevel, hcompletes⟩ := priceLadder_matched hanswer hmatches.matched
  refine ⟨levelId level, ?_, ?_, ?_⟩
  · rw [EntryDecision.level, htype, if_pos hladder, hid, hmetrics, Dict.getD, Dict.get?_update_of_not_mem (by simp), hlevel]
    rfl
  · have hne : rule.ruleId ++ ":" ++ levelId level ≠ "" := activationId_ne (rule.ruleId, levelId level)
    rw [hactivation, Dict.getD, hcompletes, Option.getD_some, PyVal.str_or, PyVal.orText, if_pos hne]
    rfl
  · simp only [levelEligible, Bool.and_eq_true, decide_eq_true_eq] at heligible
    exact heligible.1.1.2

theorem decidedBy_evaluate {m : Moment ManagedEntryPlanState EntryOp}
    (h : decidedBy registry uuid5 m = some (context, decision)) :
    ∃ config, m.op = .evaluate config context ∧ m.before.decision? registry uuid5 config context = some decision := by
  unfold decidedBy at h
  split at h
  · rename_i config used hop
    obtain ⟨found, hfound, heq⟩ := Option.map_eq_some_iff.mp h
    cases heq
    exact ⟨config, hop, hfound⟩
  · cases h

theorem LadderInv.decide (h : LadderInv uuid5 config log s)
    (hdecision : s.decision? .builtins uuid5 config context = some decision) :
    LadderInv uuid5 config (⟨s, .evaluate config context, s.step .builtins uuid5 (.evaluate config context)⟩ :: log)
      (s.step .builtins uuid5 (.evaluate config context)) := by
  obtain ⟨rule, found, hopened⟩ := evaluate_opens hdecision
  have hpending := (decided_of_decision? hdecision).pending
  have hmade := decidedBy_opened hdecision (s.step .builtins uuid5 (.evaluate config context))
  have hlatest : latestLevel uuid5 (⟨s, .evaluate config context, s.step .builtins uuid5 (.evaluate config context)⟩ :: log) =
      decision.level := by rw [latestLevel, hmade]
  have hother : rule.ruleType ≠ "PRICE_LADDER" → decision.level = none := fun hother => by
    rw [EntryDecision.level, hopened.decision_rule.2, if_neg hother]
  have hcompleted := hopened.completed
  obtain ⟨quality, hmatches⟩ := hopened.matches_rule
  change (s.step .builtins uuid5 (.evaluate config context)).completedActivationIds = _ at hcompleted
  refine ⟨fun hidle => absurd (hpending.symm.trans hidle) Bool.noConfusion, fun _ => ⟨rule, hmatches.rule, hopened.pending_rule,
    fun hladder => ?_, fun hrule => hlatest.trans (hother hrule)⟩, fun level hlevel => ?_, fun later m earlier hlog context' decision' hmade'
    level hlevel => ?_, fun hown rule' level' hlevel' hdone => ?_⟩
  · obtain ⟨id, hid, hactivation, -⟩ := hopened.level hladder
    exact ⟨id, hlatest.trans hid, hactivation⟩
  · rw [hcompleted]
    exact h.filled level hlevel
  · cases later with
    | nil =>
      cases hlog
      rw [hmade] at hmade'
      cases hmade'
      by_cases hladder : rule.ruleType = "PRICE_LADDER"
      · obtain ⟨id, hid, -, hnew⟩ := hopened.level hladder
        rw [hid] at hlevel
        cases hlevel
        exact fun hfilled => hnew (h.filled _ hfilled)
      · rw [hother hladder] at hlevel
        cases hlevel
    | cons first later => exact h.once later m earlier (List.cons.inj hlog).2 context' decision' hmade' level hlevel
  · rw [hcompleted] at hdone
    exact h.exact (fun later m earlier hlog => hown (_ :: later) m earlier (congrArg (List.cons _) hlog)) rule' level' hlevel' hdone

theorem rule_unique {rule rule' : EntryRuleSpec} (hrule : rule ∈ config.triggerRules) (hrule' : rule' ∈ config.triggerRules)
    (h : rule.ruleId = rule'.ruleId) : rule = rule' := List.inj_on_of_nodup_map config.triggerRules_nodup hrule hrule' h

theorem LadderInv.rest {op : EntryOp} (h : LadderInv uuid5 config log s)
    (hmade : decidedBy .builtins uuid5 ⟨s, op, s.step .builtins uuid5 op⟩ = none) :
    LadderInv uuid5 config (⟨s, op, s.step .builtins uuid5 op⟩ :: log) (s.step .builtins uuid5 op) := by
  obtain ⟨htag, hcompleted, -⟩ := s.step_tagged .builtins uuid5 op
  replace htag := htag.resolve_left (by rw [hmade]; exact Bool.false_ne_true)
  generalize s.step .builtins uuid5 op = next at hmade htag hcompleted ⊢
  have hlatest : latestLevel uuid5 (⟨s, op, next⟩ :: log) = latestLevel uuid5 log := by rw [latestLevel, hmade]
  have hsubset : s.completedActivationIds ⊆ next.completedActivationIds := by
    rw [hcompleted]
    split
    · exact Finset.subset_insert _ _
    · exact Finset.Subset.refl _
  refine ⟨fun hidle => ?_, fun hpending => ?_, fun level hlevel => ?_, fun later m earlier hlog context decision hmade' level hlevel => ?_,
    fun hown rule level hlevel hdone => ?_⟩
  · rcases htag with htag | htag
    · obtain ⟨hsame, -, hactivation⟩ := Prod.mk.inj htag |>.imp_right Prod.mk.inj
      exact hactivation.trans (h.idle (hsame.symm.trans hidle))
    · exact congrArg (·.2.2) htag
  · rw [hlatest]
    rcases htag with htag | htag
    · obtain ⟨hsame, hrule, hactivation⟩ := Prod.mk.inj htag |>.imp_right Prod.mk.inj
      obtain ⟨rule, hknown, hpendingRule, hladder, hother⟩ := h.pending (hsame.symm.trans hpending)
      exact ⟨rule, hknown, hrule.trans hpendingRule, fun hkind => (hladder hkind).imp fun id hid => ⟨hid.1, hactivation.trans hid.2⟩, hother⟩
    · exact absurd (hpending.symm.trans (congrArg (·.1) htag)) Bool.noConfusion
  · rw [filledLevels, List.mem_append] at hlevel
    rcases hlevel with hnew | hold
    · split at hnew
      · rename_i hfills
        obtain ⟨hmatched, hpending⟩ := Bool.and_eq_true_iff.mp hfills
        obtain ⟨rule, hknown, hpendingRule, hladder, hother⟩ := h.pending hpending
        have hkind : rule.ruleType = "PRICE_LADDER" := by
          by_contra hkind
          rw [hother hkind] at hnew
          exact absurd hnew List.not_mem_nil
        obtain ⟨id, hid, hactivation⟩ := hladder hkind
        rw [hid] at hnew
        rw [List.mem_singleton.mp hnew, hcompleted, if_pos ⟨hmatched, hactivation ▸ activationId_ne _⟩, ← hactivation]
        exact Finset.mem_insert_self _ _
      · exact absurd hnew List.not_mem_nil
    · exact hsubset (h.filled level hold)
  · cases later with
    | nil =>
      cases hlog
      rw [hmade] at hmade'
      cases hmade'
    | cons first later => exact h.once later m earlier (List.cons.inj hlog).2 context decision hmade' level hlevel
  · have hbefore := h.exact fun later m earlier hlog => hown (_ :: later) m earlier (congrArg (List.cons _) hlog)
    rw [filledLevels, List.mem_append]
    rw [hcompleted] at hdone
    split at hdone
    · rename_i hfills
      have hpending : s.hasPending = true := by
        by_contra hidle
        exact hfills.2 (h.idle (Bool.eq_false_iff.mpr hidle))
      have hslice : fillsSlice ⟨s, op, next⟩ = true := Bool.and_eq_true_iff.mpr ⟨hfills.1, hpending⟩
      rcases Finset.mem_insert.mp hdone with hnew | hold
      · rcases hown [] ⟨s, op, next⟩ log rfl hslice rule level hlevel hnew with hrule | hfilled
        · obtain ⟨pending, hknown, hpendingRule, hladder, -⟩ := h.pending hpending
          obtain rfl := rule_unique hlevel.known hknown (hrule.trans hpendingRule)
          obtain ⟨id, hid, hactivation⟩ := hladder hlevel.ladder
          rw [hactivation] at hnew
          rw [if_pos hslice, hid, activationId_inj hnew]
          exact .inl (List.mem_singleton.mpr rfl)
        · exact .inr hfilled
      · exact .inr (hbefore rule level hlevel hold)
    · exact .inr (hbefore rule level hlevel hdone)

theorem PlanRun.ladderInv (h : PlanRun .builtins uuid5 planId config log s) : LadderInv uuid5 config log s := by
  refine Run.invariant (LadderInv uuid5 config) ?_ ?_ h
  · rintro s rfl
    exact ⟨fun _ => rfl, fun hpending => absurd hpending Bool.noConfusion, by simp [filledLevels], by simp,
      fun _ _ _ _ hdone => absurd hdone (Finset.notMem_empty _)⟩
  · intro log s op hinv hop
    cases hmade : decidedBy .builtins uuid5 ⟨s, op, s.step .builtins uuid5 op⟩ with
    | none => exact hinv.rest hmade
    | some made =>
      obtain ⟨context, decision⟩ := made
      obtain ⟨used, heq, hdecision⟩ := decidedBy_evaluate hmade
      subst heq
      obtain rfl := hop.1
      exact hinv.decide hdecision

def Reached (context : EntryEvaluationContext) (level : List (String × PyVal)) : Prop :=
  context.executablePrice ≤ floatOr (PyVal.get level "trigger_price") 0 + epsilon

/-- A run never opens a slice for a filled level. If no fill completes a level of another rule, the levels left out at a
    price they reach are the filled ones. -/
theorem ladder_levels_once (h : PlanRun .builtins uuid5 planId config log s) :
    (∀ later m earlier, log = later ++ m :: earlier → ∀ context decision, decidedBy .builtins uuid5 m = some (context, decision) →
      ∀ level, decision.level = some level → level ∉ filledLevels uuid5 earlier) ∧
    ((∀ later m earlier, log = later ++ m :: earlier → OwnActivation uuid5 config earlier m) →
      ∀ rule level, LadderLevel config rule level → ∀ context, Reached context level →
        (levelEligible rule s context level = false ↔ (rule.ruleId, levelId level) ∈ filledLevels uuid5 log)) := by
  have hinv := h.ladderInv
  refine ⟨hinv.once, fun hown rule level hlevel context hreached => ⟨fun hout => hinv.exact hown rule level hlevel ?_, fun hfilled => ?_⟩⟩
  · by_contra hnew
    have heligible : levelEligible rule s context level = true := by
      simp only [levelEligible, Bool.and_eq_true, decide_eq_true_eq]
      exact ⟨⟨⟨hlevel.named, hnew⟩, hlevel.priced⟩, hreached⟩
    exact absurd (hout.symm.trans heligible) Bool.noConfusion
  · rw [Bool.eq_false_iff]
    intro heligible
    simp only [levelEligible, Bool.and_eq_true, decide_eq_true_eq] at heligible
    exact heligible.1.1.2 (hinv.filled _ hfilled)

def namedLevel (id : String) : List (String × PyVal) :=
  [("level_id", .str id), ("trigger_price", .float 10), ("tranche_volume", .int 100)]

def ladderRule (ruleId id : String) (h : ruleId ≠ "") : EntryRuleSpec where
  ruleId := ruleId
  ruleType := "PRICE_LADDER"
  parameters := Dict.ofList [("levels", .list [.dict (namedLevel id)])]
  identified := ⟨h, by decide⟩

def twoLadders : List EntryRuleSpec := [ladderRule "a" "b:c" (by decide), ladderRule "a:b" "c" (by decide)]

def ladderConfig : ManagedEntryPlanConfig :=
  { manualEntryConfig with
    triggerRules := twoLadders, triggerRules_enabled := rfl, triggerRules_nodup := by decide }

def ladderOps : List EntryOp := [.evaluate ladderConfig triggeredContext, .tradeFill
  { tradeKey := "t1", matchesPending := true, volume := 100, price := 10, tradeDate := "2026-01-05", timestampMs := 2000 }]

def ladderLog : List (Moment ManagedEntryPlanState EntryOp) := (play (step .builtins id) {} ladderOps).1
def ladderState : ManagedEntryPlanState := (play (step .builtins id) {} ladderOps).2

theorem ladder_run : PlanRun .builtins id "plan" ladderConfig ladderLog ladderState :=
  (PlanRun.extend (Run.start rfl) (.evaluate ladderConfig triggeredContext) ⟨rfl, rfl⟩).extend (.tradeFill _) trivial

theorem second_level : LadderLevel ladderConfig (ladderRule "a:b" "c" (by decide)) (namedLevel "c") :=
  ⟨by simp [ladderConfig, twoLadders], rfl, ⟨[namedLevel "c"], rfl, by simp⟩, by decide +kernel, by decide +kernel⟩

/-- Before the fill the level of the second ladder is not left out. -/
theorem ladder_levels_once_opened : levelEligible (ladderRule "a:b" "c" (by decide))
    (step .builtins id {} (.evaluate ladderConfig triggeredContext)) triggeredContext (namedLevel "c") ≠ false := by
  have hrun : PlanRun .builtins id "plan" ladderConfig _ (step .builtins id {} (.evaluate ladderConfig triggeredContext)) :=
    PlanRun.extend (Run.start rfl) (.evaluate ladderConfig triggeredContext) ⟨rfl, rfl⟩
  have hexact := (ladder_levels_once hrun).2 (fun later m earlier hlog hfills => ?_) _ _ second_level triggeredContext
    (by unfold Reached; decide +kernel)
  · exact fun hout => absurd (hexact.mp hout) List.not_mem_nil
  · have hmem : m ∈ later ++ m :: earlier := List.mem_append_right later (List.mem_cons_self ..)
    rw [← hlog, List.mem_singleton] at hmem
    rw [hmem] at hfills
    exact absurd hfills Bool.noConfusion

/-- The fill of the level `b:c` of the first ladder completes the level `c` of the second. -/
theorem ladder_level_lost : PlanRun .builtins id "plan" ladderConfig ladderLog ladderState ∧
    filledLevels id ladderLog = [("a", "b:c")] ∧ LadderLevel ladderConfig (ladderRule "a:b" "c" (by decide)) (namedLevel "c") ∧
    Reached triggeredContext (namedLevel "c") ∧
    levelEligible (ladderRule "a:b" "c" (by decide)) ladderState triggeredContext (namedLevel "c") = false := by
  refine ⟨ladder_run, by decide +kernel, second_level, ?_, by decide +kernel⟩
  unfold Reached
  decide +kernel

end ManagedEntryPlanState
end QuantX
