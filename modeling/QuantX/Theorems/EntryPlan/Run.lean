import QuantX.Theorems.EntryPlan.Snapshot
import QuantX.Strategies.ManagedEntryPlan
import QuantX.Lib.Run

namespace QuantX
open Lib

inductive EntryOp where
  | evaluate (config : ManagedEntryPlanConfig) (context : EntryEvaluationContext)
  | tradeFill (fill : EntryFill)
  | orderTerminal (report : EntryOrderReport)
  | requestTerminal (requested : TerminalRequest) (reason : String) (pendingWork : Bool)
  | reload

namespace ManagedEntryPlanState
variable {registry : ManagedEntryRuleRegistry} {uuid5 : String → String} {config : ManagedEntryPlanConfig}
  {context : EntryEvaluationContext} {s : ManagedEntryPlanState}

def reload (state : ManagedEntryPlanState) : ManagedEntryPlanState :=
  match fromDict state.toDict with
  | .ok read => read
  | .error _ => state

@[simp] theorem reload_eq (state : ManagedEntryPlanState) : state.reload = state := by
  rw [reload, fromDict_toDict]

def step (registry : ManagedEntryRuleRegistry) (uuid5 : String → String) (state : ManagedEntryPlanState) :
    EntryOp → ManagedEntryPlanState
  | .evaluate config context => (state.evaluate registry uuid5 config context).1
  | .tradeFill fill => (state.applyTradeFill fill).1
  | .orderTerminal report => state.applyOrderTerminal report
  | .requestTerminal requested reason pendingWork => state.requestTerminal requested reason pendingWork
  | .reload => state.reload

def resultDecision : Except String EntryEvaluationResult → Option EntryDecision
  | .ok result => result.decision
  | .error _ => none

def decision? (registry : ManagedEntryRuleRegistry) (uuid5 : String → String) (state : ManagedEntryPlanState)
    (config : ManagedEntryPlanConfig) (context : EntryEvaluationContext) : Option EntryDecision :=
  resultDecision (state.evaluate registry uuid5 config context).2

/-! ## Evaluation -/

/-- A state that an evaluation may go on with: not ended, not asked to end, nothing pending. -/
structure Open (s : ManagedEntryPlanState) : Prop where
  phase : s.phase.terminal = false
  requested : s.terminalRequested = none
  notDraining : s.phase ≠ .draining
  noPending : s.hasPending = false

theorem open_of_stoppedReason (h : s.stoppedReason config context = none) : s.Open := by
  unfold stoppedReason at h
  split at h
  · cases h
  · split at h
    · cases h
    · rename_i hphase
      cases hrequested : s.terminalRequested with
      | some requested => rw [hrequested] at h; cases h
      | none =>
        rw [hrequested] at h
        dsimp only at h
        split at h
        · cases h
        · rename_i hpaused
          split at h
          · cases h
          · rename_i hpending
            exact ⟨by simpa using hphase, hrequested, fun hd => hpaused (.inr hd), by simpa using hpending⟩

inductive Evaluated (s : ManagedEntryPlanState) : ManagedEntryPlanState → Option EntryDecision → Prop
  | noted (dataQuality : String) (lastDecision : Dict String PyVal) :
      Evaluated s { s with dataQuality, lastDecision } none
  | waited (hopen : s.Open) (dataQuality : String) (lastDecision : Dict String PyVal)
      (ruleState : Dict String (Dict String PyVal)) :
      Evaluated s { s with dataQuality, lastDecision, ruleState } none
  | expired (hopen : s.Open) (dataQuality : String) (lastDecision : Dict String PyVal) :
      Evaluated s { s with
        dataQuality, lastDecision, terminalRequested := some .expired
        terminalRequestReason := "ENTRY_PLAN_EXPIRED", phase := .expired } none
  | completed (hopen : s.Open) (dataQuality : String) (lastDecision : Dict String PyVal) :
      Evaluated s { s with dataQuality, lastDecision, phase := .completed } none
  | opened (hopen : s.Open) (dataQuality : String) (ruleState : Dict String (Dict String PyVal))
      (config : ManagedEntryPlanConfig) (context : EntryEvaluationContext) (rule : EntryRuleSpec)
      (found : EntryRuleMatch) (size : SliceSize) (decision : EntryDecision) (activation : Int)
      (hstage : decision.stageId ≠ "") :
      Evaluated s ({ s with dataQuality, ruleState }.openSlice config context rule found size
        decision activation) (some decision)

theorem matchRules_ruleState (registry : ManagedEntryRuleRegistry) (context : EntryEvaluationContext)
    (rules : List EntryRuleSpec) (s : ManagedEntryPlanState) :
    ∃ ruleState, (s.matchRules registry context rules).1 = { s with ruleState } := by
  induction rules generalizing s with
  | nil => exact ⟨s.ruleState, rfl⟩
  | cons rule rules ih =>
    rw [matchRules]
    split
    · exact ih s
    · dsimp only
      cases (registry.evaluate rule s context).2 with
      | error e => exact ⟨_, rfl⟩
      | ok found =>
        obtain ⟨ruleState, h⟩ := ih { s with ruleState := (registry.evaluate rule s context).1 }
        exact ⟨ruleState, h⟩

theorem stageId_ne (gap : EntryGapResult) (rule : EntryRuleSpec) (found : EntryRuleMatch) (size : SliceSize)
    (activation : Int) : (decisionFor uuid5 config context gap rule found size activation).stageId ≠ "" := by
  intro h
  have hlength := congrArg String.length h
  simp only [decisionFor, String.length_append] at hlength
  have : ("entry-stage:" : String).length = 12 := by decide
  have : ("" : String).length = 0 := rfl
  omega

theorem requestTerminal_of_open (hopen : s.Open) (requested : TerminalRequest) (reason : String) :
    s.requestTerminal requested reason false =
      { s with
        terminalRequested := some requested, terminalRequestReason := reason
        phase := requested.status } := by
  have hnot : s.phase ≠ .completed := by
    intro h
    have hphase := hopen.phase
    rw [h] at hphase
    cases hphase
  unfold requestTerminal
  rw [if_neg hnot, hopen.requested, hopen.noPending]
  rfl

theorem blockReason_cases (s : ManagedEntryPlanState) (config : ManagedEntryPlanConfig) (context : EntryEvaluationContext) :
    (∃ reason, s.blockReason config context = (s, some reason)) ∨
      (s.Open ∧ s.blockReason config context =
        (s.requestTerminal .expired "ENTRY_PLAN_EXPIRED" false, some "ENTRY_PLAN_EXPIRED")) ∨
      (s.Open ∧ s.blockReason config context = (s, none)) := by
  unfold blockReason
  cases hstopped : s.stoppedReason config context with
  | some reason => exact .inl ⟨reason, rfl⟩
  | none =>
    have hopen := open_of_stoppedReason hstopped
    cases contextReason config context with
    | some reason => exact .inl ⟨reason, rfl⟩
    | none =>
      dsimp only
      split
      · exact .inr (.inl ⟨hopen, rfl⟩)
      · cases s.pacingReason config context with
        | some reason => exact .inl ⟨reason, rfl⟩
        | none => exact .inr (.inr ⟨hopen, rfl⟩)

theorem Open.withQuality (hopen : s.Open) (quality : String) : Open { s with dataQuality := quality } :=
  ⟨hopen.phase, hopen.requested, hopen.notDraining, hopen.noPending⟩

theorem proposeSlice_evaluated (hopen : s.Open) (quality : String) :
    Evaluated s (proposeSlice registry uuid5 config { s with dataQuality := quality } context).1
      (resultDecision (proposeSlice registry uuid5 config { s with dataQuality := quality } context).2) := by
  unfold proposeSlice
  dsimp only
  split
  · exact .completed hopen quality _
  · split
    · exact .completed hopen quality _
    · split
      · exact .waited hopen quality _ s.ruleState
      · obtain ⟨ruleState, hrules⟩ := matchRules_ruleState registry context
          config.triggerRules { s with dataQuality := quality }
        revert hrules
        generalize matchRules registry context config.triggerRules { s with dataQuality := quality } = result
        obtain ⟨next, candidates⟩ := result
        rintro rfl
        cases candidates with
        | error e => exact .waited hopen quality s.lastDecision ruleState
        | ok candidates =>
          dsimp only
          cases bestMatch candidates with
          | none => exact .waited hopen quality _ ruleState
          | some best =>
            obtain ⟨rule, found⟩ := best
            dsimp only
            cases sliceSize config context (calculateGap config.targetPolicy context) found with
            | none => exact .waited hopen quality _ ruleState
            | some size => exact .opened hopen quality ruleState config context rule found size _ _ (stageId_ne _ _ _ _ _)

theorem evaluate_evaluated (s : ManagedEntryPlanState) (registry : ManagedEntryRuleRegistry) (uuid5 : String → String)
    (config : ManagedEntryPlanConfig) (context : EntryEvaluationContext) :
    Evaluated s (s.evaluate registry uuid5 config context).1 (s.decision? registry uuid5 config context) := by
  unfold decision? evaluate
  dsimp only
  generalize (PyVal.orText context.dataQuality "INSUFFICIENT").toUpper = quality
  rcases blockReason_cases { s with dataQuality := quality } config context with
    ⟨reason, h⟩ | ⟨⟨hphase, hrequested, hdraining, hpending⟩, h⟩ | ⟨⟨hphase, hrequested, hdraining, hpending⟩, h⟩
  · rw [h]
    exact .noted quality _
  · have hopen : s.Open := ⟨hphase, hrequested, hdraining, hpending⟩
    rw [h, requestTerminal_of_open (hopen.withQuality quality)]
    exact .expired hopen quality _
  · have hopen : s.Open := ⟨hphase, hrequested, hdraining, hpending⟩
    rw [h]
    exact proposeSlice_evaluated hopen quality

/-- A fill that is counted: it has a key that the window does not hold, and buys something for a price. -/
structure Applies (s : ManagedEntryPlanState) (fill : EntryFill) : Prop where
  key : fill.tradeKey ≠ ""
  fresh : fill.tradeKey ∉ s.processedTradeKeys
  volume : 0 < fill.volume
  price : 0 < fill.price

theorem applyTradeFill_cases (s : ManagedEntryPlanState) (fill : EntryFill) :
    ((s.applyTradeFill fill).1 = s ∧ ¬s.Applies fill) ∨
      (s.Applies fill ∧ fill.matchesPending = false ∧
        (s.applyTradeFill fill).1 = (s.recordFill fill).flagOutside fill) ∨
      (s.Applies fill ∧ fill.matchesPending = true ∧
        (s.applyTradeFill fill).1 = ((s.recordFill fill).matchFill fill).advanceAfterFill fill.targetReached) := by
  unfold applyTradeFill
  split
  · rename_i hkey
    refine .inl ⟨rfl, fun happlies => ?_⟩
    exact hkey.elim happlies.key happlies.fresh
  · rename_i hkey
    obtain ⟨hname, hfresh⟩ := not_or.mp hkey
    split
    · rename_i hempty
      refine .inl ⟨rfl, fun happlies => ?_⟩
      exact hempty.elim (not_le.mpr happlies.volume) (not_le.mpr happlies.price)
    · rename_i hempty
      obtain ⟨hvolume, hprice⟩ := not_or.mp hempty
      have happlies : s.Applies fill := ⟨hname, hfresh, not_le.mp hvolume, not_le.mp hprice⟩
      cases hmatch : fill.matchesPending with
      | false => exact .inr (.inl ⟨happlies, rfl, rfl⟩)
      | true => exact .inr (.inr ⟨happlies, rfl, rfl⟩)

theorem applyOrderTerminal_cases (s : ManagedEntryPlanState) (report : EntryOrderReport) :
    (report.terminal = none ∧ s.applyOrderTerminal report = s) ∨
      (report.terminal = some .reconciledZeroFill ∧
        s.applyOrderTerminal report = s.reconcileZeroFill report) ∨
      ∃ terminal, report.terminal = some terminal ∧ terminal ≠ .reconciledZeroFill ∧
        s.applyOrderTerminal report = s.endOrder terminal report := by
  unfold applyOrderTerminal EntryOrderReport.terminal
  cases EntryTerminal.ofText (statusText report.status) with
  | none => exact .inl ⟨rfl, rfl⟩
  | some terminal =>
    by_cases hzero : terminal = .reconciledZeroFill
    · subst hzero
      exact .inr (.inl ⟨rfl, rfl⟩)
    · refine .inr (.inr ⟨terminal, rfl, hzero, ?_⟩)
      cases terminal <;> first | rfl | exact absurd rfl hzero

theorem settlePending_writes (s : ManagedEntryPlanState) (targetReached : Bool) :
    ∃ phase, s.settlePending targetReached = { s.clearPending with phase } := by
  unfold settlePending
  split
  · exact ⟨s.phase, rfl⟩
  · split
    · exact ⟨_, rfl⟩
    · split
      · exact ⟨_, rfl⟩
      · split
        · exact ⟨s.phase, rfl⟩
        · exact ⟨_, rfl⟩

theorem advanceAfterFill_writes (s : ManagedEntryPlanState) (targetReached : Bool) :
    s.advanceAfterFill targetReached = s.settlePending targetReached ∨
      ∃ phase, s.advanceAfterFill targetReached = { s with phase } := by
  unfold advanceAfterFill
  split
  · exact .inl rfl
  · refine .inr ?_
    split
    · exact ⟨s.phase, rfl⟩
    · split
      · exact ⟨_, rfl⟩
      · split <;> exact ⟨_, rfl⟩

theorem advanceAfterFill_cases (targetReached : Bool) (hpending : s.hasPending = true) :
    (s.barrierSatisfied = true ∧ s.advanceAfterFill targetReached = s.settlePending targetReached) ∨
      (s.barrierSatisfied = false ∧ ∃ phase, (s.phase.terminal = false → phase.terminal = false) ∧
        s.advanceAfterFill targetReached = { s with phase }) := by
  unfold advanceAfterFill
  rw [hpending]
  cases s.barrierSatisfied with
  | true => exact .inl ⟨rfl, if_pos (.inl rfl)⟩
  | false =>
    refine .inr ⟨rfl, ?_⟩
    rw [if_neg (by simp)]
    split
    · exact ⟨s.phase, id, rfl⟩
    · split
      · exact ⟨_, fun _ => rfl, rfl⟩
      · rw [if_neg (by simp)]
        exact ⟨_, fun _ => rfl, rfl⟩

theorem announceExpected_writes (s : ManagedEntryPlanState) (terminal : EntryTerminal) (expected : Option Int) :
    ∃ most, s.announceExpected terminal expected = { s with terminalExpectedFilledVolume := most } := by
  unfold announceExpected
  split
  · exact ⟨_, rfl⟩
  · split
    · exact ⟨_, rfl⟩
    · split
      · exact ⟨_, rfl⟩
      · exact ⟨s.terminalExpectedFilledVolume, rfl⟩

theorem cooldown_writes (s : ManagedEntryPlanState) (report : EntryOrderReport) (p : Prop) [Decidable p] :
    ∃ retry, (if p then s.cooldown report else s) = { s with retryAfterMs := retry } := by
  split
  · exact ⟨_, rfl⟩
  · exact ⟨s.retryAfterMs, rfl⟩

theorem requestTerminal_writes (s : ManagedEntryPlanState) (requested : TerminalRequest) (reason : String)
    (pendingWork : Bool) :
    ∃ first noted phase, s.requestTerminal requested reason pendingWork =
      { s with terminalRequested := first, terminalRequestReason := noted, phase } := by
  unfold requestTerminal
  split
  · exact ⟨s.terminalRequested, s.terminalRequestReason, s.phase, rfl⟩
  · cases hfirst : s.terminalRequested with
    | none => exact ⟨_, _, _, rfl⟩
    | some first =>
      dsimp only
      split
      · exact ⟨s.terminalRequested, s.terminalRequestReason, s.phase, rfl⟩
      · exact ⟨s.terminalRequested, _, _, by rw [← hfirst]⟩

end ManagedEntryPlanState

def manualRule : EntryRuleSpec where
  ruleId := "r1"
  ruleType := "MANUAL_TRIGGER"
  identified := by decide

/-- Buy 1000 shares in slices that an operator triggers. -/
def manualEntryConfig : ManagedEntryPlanConfig where
  instrumentCode := "600000.SH"
  targetPolicy := {
    target := .additionalVolume 1000, maxTotalAmountCny := 100000, maxPositionPct := 1
    maxTotalAmountCny_pos := by decide +kernel
    maxPositionPct_range := by decide +kernel
    target_ok := (by decide : (0 : Int) < 1000) }
  triggerRules := [manualRule]
  pacingPolicy := {
    maxSingleIntentAmountCny := 2000, maxDailyFilledAmountCny := 100000, maxOrdersPerDay := 10
    amounts_pos := by decide +kernel
    maxOrdersPerDay_pos := by decide
    intervals_nonneg := by decide }
  authorizationMode := .auto
  completionPolicy := { maxBuyPrice := 100, maxBuyPrice_pos := by decide +kernel, expireAtMs_pos := by simp }
  configVersion_pos := by decide
  instrumentCode_ne := by decide
  triggerRules_enabled := rfl
  triggerRules_nodup := by decide

def triggeredContext : EntryEvaluationContext where
  planId := "plan"
  decisionTimeMs := 1000
  tradeDate := "2026-01-05"
  instrumentCode := "600000.SH"
  executablePrice := 10
  totalEquityCny := 1000000
  currentPositionVolume := 0
  currentMarketValueCny := 0
  manualTriggerRuleId := some "r1"

def ManagedEntryPlanState.openedState : ManagedEntryPlanState :=
  step .builtins id {} (.evaluate manualEntryConfig triggeredContext)

end QuantX
