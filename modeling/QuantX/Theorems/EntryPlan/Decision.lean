import QuantX.Theorems.EntryPlan.Once

namespace QuantX
open Lib

/-- What a decision asks for, as an amount at the price it was made at. -/
def EntryDecision.amountCny (decision : EntryDecision) (context : EntryEvaluationContext) : Rat :=
  match decision.targetVolume with
  | some volume => volume * context.executablePrice
  | none => decision.targetAmountCny.getD 0

namespace ManagedEntryPlanState
variable {registry : ManagedEntryRuleRegistry} {uuid5 : String → String} {config : ManagedEntryPlanConfig}
  {context : EntryEvaluationContext} {s next : ManagedEntryPlanState} {decision : EntryDecision}
variable {gap : EntryGapResult} {size : SliceSize}

/-! ## Decisions -/

/-- An evaluation that returns a decision: nothing blocked it, and the caps left room for a slice. -/
inductive Decided (uuid5 : String → String) (config : ManagedEntryPlanConfig) (context : EntryEvaluationContext)
    (s : ManagedEntryPlanState) : ManagedEntryPlanState → EntryDecision → Prop
  | opened (dataQuality : String) (ruleState : Dict String (Dict String PyVal)) (rule : EntryRuleSpec)
      (found : EntryRuleMatch) (size : SliceSize) (hopen : s.Open) (hcontext : contextReason config context = none)
      (hpacing : s.pacingReason config context = none)
      (hsize : sliceSize config context (calculateGap config.targetPolicy context) found = some size) :
      Decided uuid5 config context s
        ({ s with dataQuality, ruleState }.openSlice config context rule found size
          (decisionFor uuid5 config context (calculateGap config.targetPolicy context) rule found size
            (s.ruleActivationCounts.getD rule.ruleId 0 + 1))
          (s.ruleActivationCounts.getD rule.ruleId 0 + 1))
        (decisionFor uuid5 config context (calculateGap config.targetPolicy context) rule found size
          (s.ruleActivationCounts.getD rule.ruleId 0 + 1))

theorem proposeSlice_opens (h : resultDecision (s.proposeSlice registry uuid5 config context).2 = some decision) :
    ∃ ruleState candidates rule found size,
      s.matchRules registry context config.triggerRules = ({ s with ruleState }, .ok candidates) ∧
      bestMatch candidates = some (rule, found) ∧
      sliceSize config context (calculateGap config.targetPolicy context) found = some size ∧
      decision = decisionFor uuid5 config context (calculateGap config.targetPolicy context) rule found size
        (s.ruleActivationCounts.getD rule.ruleId 0 + 1) ∧
      (s.proposeSlice registry uuid5 config context).1 =
        { s with ruleState }.openSlice config context rule found size decision
          (s.ruleActivationCounts.getD rule.ruleId 0 + 1) := by
  unfold proposeSlice at h ⊢
  dsimp only at h ⊢
  split at h
  · cases h
  · rename_i htarget
    rw [if_neg htarget]
    split at h
    · cases h
    · rename_i hbudget
      rw [if_neg hbudget]
      split at h
      · cases h
      · rename_i hroom
        rw [if_neg hroom]
        obtain ⟨ruleState, hrules⟩ := matchRules_ruleState registry context config.triggerRules s
        revert hrules h
        generalize matchRules registry context config.triggerRules s = result
        obtain ⟨next, candidates⟩ := result
        intro h hrules
        obtain rfl : next = { s with ruleState } := hrules
        cases candidates with
        | error e => cases h
        | ok candidates =>
          dsimp only at h ⊢
          cases hbest : bestMatch candidates with
          | none =>
            rw [hbest] at h
            cases h
          | some best =>
            obtain ⟨rule, found⟩ := best
            rw [hbest] at h
            dsimp only at h ⊢
            cases hsize : sliceSize config context (calculateGap config.targetPolicy context) found with
            | none =>
              rw [hsize] at h
              cases h
            | some size =>
              rw [hsize] at h
              cases h
              exact ⟨ruleState, candidates, rule, found, size, rfl, hbest, hsize, rfl, rfl⟩

theorem blockReason_none {later : ManagedEntryPlanState} (h : s.blockReason config context = (later, none)) :
    later = s ∧ s.Open ∧ contextReason config context = none ∧ s.pacingReason config context = none := by
  unfold blockReason at h
  cases hstopped : s.stoppedReason config context with
  | some reason =>
    rw [hstopped] at h
    cases h
  | none =>
    rw [hstopped] at h
    cases hcontext : contextReason config context with
    | some reason =>
      rw [hcontext] at h
      cases h
    | none =>
      rw [hcontext] at h
      dsimp only at h
      split at h
      · cases h
      · obtain ⟨hsame, hpacing⟩ := Prod.mk.inj h
        exact ⟨hsame.symm, open_of_stoppedReason hstopped, rfl, hpacing⟩

theorem evaluate_proposes (h : s.decision? registry uuid5 config context = some decision) :
    ∃ quality, s.Open ∧ contextReason config context = none ∧ s.pacingReason config context = none ∧
      s.evaluate registry uuid5 config context = proposeSlice registry uuid5 config { s with dataQuality := quality } context := by
  unfold decision? at h
  unfold evaluate at h ⊢
  dsimp only at h ⊢
  generalize (PyVal.orText context.dataQuality "INSUFFICIENT").toUpper = quality at h ⊢
  cases hblock : blockReason config { s with dataQuality := quality } context with
  | mk later reason =>
    rw [hblock] at h
    cases reason with
    | some reason => cases h
    | none =>
      obtain ⟨rfl, ⟨hphase, hrequested, hdraining, hpending⟩, hcontext, hpacing⟩ := blockReason_none hblock
      exact ⟨quality, ⟨hphase, hrequested, hdraining, hpending⟩, hcontext, hpacing, rfl⟩

theorem decided_of_decision? (h : s.decision? registry uuid5 config context = some decision) :
    Decided uuid5 config context s (s.evaluate registry uuid5 config context).1 decision := by
  obtain ⟨quality, hopen, hcontext, hpacing, heq⟩ := evaluate_proposes h
  rw [decision?, heq] at h
  obtain ⟨ruleState, candidates, rule, found, size, -, -, hsize, rfl, hnext⟩ := proposeSlice_opens h
  rw [heq, hnext]
  exact .opened quality ruleState rule found size hopen hcontext hpacing hsize

theorem pacingReason_none (h : s.pacingReason config context = none) :
    (∀ last, s.lastIntentAtMs = some last → last + config.pacingPolicy.minIntervalSeconds * 1000 ≤ context.decisionTimeMs) ∧
      s.dailyOrderCounts.getD context.tradeDate 0 < config.pacingPolicy.maxOrdersPerDay := by
  unfold pacingReason at h
  split at h
  · cases h
  · split at h
    · cases h
    · rename_i hinterval
      split at h
      · cases h
      · rename_i horders
        refine ⟨fun last hlast => ?_, ?_⟩
        · rw [hlast] at hinterval
          simpa using hinterval
        · exact lt_of_le_of_lt (le_max_right _ _) (not_le.mp horders)

/-- The decision that a moment returned, with the context it was made in. -/
def decidedBy (registry : ManagedEntryRuleRegistry) (uuid5 : String → String) (m : Moment ManagedEntryPlanState EntryOp) :
    Option (EntryEvaluationContext × EntryDecision) :=
  match m.op with
  | .evaluate config context => (m.before.decision? registry uuid5 config context).map (context, ·)
  | _ => none

def decisions (registry : ManagedEntryRuleRegistry) (uuid5 : String → String)
    (log : List (Moment ManagedEntryPlanState EntryOp)) : List (EntryEvaluationContext × EntryDecision) :=
  log.filterMap (decidedBy registry uuid5)

section History
variable {log : List (Moment ManagedEntryPlanState EntryOp)} {m : Moment ManagedEntryPlanState EntryOp}

theorem decisions_cons_none (h : decidedBy registry uuid5 m = none) :
    decisions registry uuid5 (m :: log) = decisions registry uuid5 log := List.filterMap_cons_none h

theorem decisions_cons_some (h : decidedBy registry uuid5 m = some (context, decision)) :
    decisions registry uuid5 (m :: log) = (context, decision) :: decisions registry uuid5 log := List.filterMap_cons_some h

theorem decidedBy_opened (h : s.decision? registry uuid5 config context = some decision) (next : ManagedEntryPlanState) :
    decidedBy registry uuid5 ⟨s, .evaluate config context, next⟩ = some (context, decision) := by
  simp [decidedBy, h]

end History

structure Slice where
  intentId : String
  stageId : String
  requestedVolume : Int
  requestedAmountCny : Rat
  filledVolume : Int
  filledAmountCny : Rat

def Slice.none : Slice := ⟨"", "", 0, 0, 0, 0⟩

def Slice.fill (slice : Slice) (fill : EntryFill) : Slice :=
  { slice with
    filledVolume := slice.filledVolume + fill.volume, filledAmountCny := slice.filledAmountCny + fill.amountCny }

def Slice.ofDecision (context : EntryEvaluationContext) (decision : EntryDecision) : Slice where
  intentId := decision.intentId
  stageId := decision.stageId
  requestedVolume := decision.targetVolume.getD 0
  requestedAmountCny := decision.amountCny context
  filledVolume := 0
  filledAmountCny := 0

def slice (s : ManagedEntryPlanState) : Slice :=
  ⟨s.pendingIntentId, s.pendingStageId, s.pendingRequestedVolume, s.pendingRequestedAmountCny, s.pendingFilledVolume,
    s.pendingFilledAmountCny⟩

def Slice.pending (slice : Slice) : Bool := slice.intentId ≠ "" || slice.stageId ≠ ""

theorem hasPending_eq (s : ManagedEntryPlanState) : s.hasPending = s.slice.pending := rfl

structure Counters where
  activations : Dict String Int
  orders : Dict String Int
  lastIntentAtMs : Option Int

def counters (s : ManagedEntryPlanState) : Counters := ⟨s.ruleActivationCounts, s.dailyOrderCounts, s.lastIntentAtMs⟩

inductive Moves (registry : ManagedEntryRuleRegistry) (uuid5 : String → String) (s : ManagedEntryPlanState) :
    EntryOp → ManagedEntryPlanState → Prop
  | rests {op : EntryOp} {next : ManagedEntryPlanState} (hdecided : decidedBy registry uuid5 ⟨s, op, next⟩ = none)
      (hfill : ∀ fill, op = .tradeFill fill → ¬s.Applies fill) (hslice : next.slice = s.slice)
      (hbooks : next.books = s.books) (hcounters : next.counters = s.counters) : Moves registry uuid5 s op next
  | releases {report : EntryOrderReport} {next : ManagedEntryPlanState} (hslice : next.slice = .none)
      (hbooks : next.books = s.books) (hcounters : next.counters = s.counters) :
      Moves registry uuid5 s (.orderTerminal report) next
  | fills {fill : EntryFill} {next : ManagedEntryPlanState} (happlies : s.Applies fill)
      (hslice : (fill.matchesPending = false ∧ next.slice = s.slice) ∨
        (fill.matchesPending = true ∧ (next.slice = s.slice.fill fill ∨ next.slice = .none)))
      (hbooks : next.books = s.books.add fill) (hcounters : next.counters = s.counters) :
      Moves registry uuid5 s (.tradeFill fill) next
  | opens {config : ManagedEntryPlanConfig} {context : EntryEvaluationContext} {decision : EntryDecision}
      {next : ManagedEntryPlanState} (hdecision : s.decision? registry uuid5 config context = some decision)
      (hdecided : Decided uuid5 config context s next decision) :
      Moves registry uuid5 s (.evaluate config context) next

theorem settlePending_slice (targetReached : Bool) :
    (s.settlePending targetReached).slice = .none ∧ (s.settlePending targetReached).counters = s.counters := by
  obtain ⟨phase, h⟩ := s.settlePending_writes targetReached
  rw [h]
  exact ⟨rfl, rfl⟩

theorem applyTradeFill_moves (fill : EntryFill) : Moves registry uuid5 s (.tradeFill fill) (s.applyTradeFill fill).1 := by
  rcases s.applyTradeFill_cases fill with ⟨h, hno⟩ | ⟨happlies, hother, h⟩ | ⟨happlies, hmatched, h⟩
  · rw [h]
    refine .rests rfl (fun other hop => ?_) rfl rfl rfl
    cases hop
    exact hno
  · rw [h]
    exact .fills happlies (.inl ⟨hother, rfl⟩) rfl rfl
  · rw [h]
    rcases ((s.recordFill fill).matchFill fill).advanceAfterFill_writes fill.targetReached with hsettled | ⟨phase, hphase⟩
    · rw [hsettled]
      obtain ⟨hslice, hcounters⟩ :=
        settlePending_slice (s := (s.recordFill fill).matchFill fill) fill.targetReached
      exact .fills happlies (.inr ⟨hmatched, .inr hslice⟩) (books_settlePending _) hcounters
    · rw [hphase]
      exact .fills happlies (.inr ⟨hmatched, .inl rfl⟩) rfl rfl

theorem applyOrderTerminal_moves (report : EntryOrderReport) :
    Moves registry uuid5 s (.orderTerminal report) (s.applyOrderTerminal report) := by
  have hbooks := books_applyOrderTerminal (s := s) report
  have hfill : ∀ fill, EntryOp.orderTerminal report = .tradeFill fill → ¬s.Applies fill := fun _ hop => by cases hop
  rcases s.applyOrderTerminal_cases report with ⟨-, h⟩ | ⟨-, h⟩ | ⟨terminal, -, -, h⟩
  · rw [h]
    exact .rests rfl hfill rfl rfl rfl
  · rw [h] at hbooks ⊢
    rw [reconcileZeroFill] at hbooks ⊢
    obtain ⟨retry, hretry⟩ := s.cooldown_writes report (s.pendingFilledVolume ≤ 0)
    rw [hretry] at hbooks ⊢
    obtain ⟨hslice, hcounters⟩ := settlePending_slice (s := { s with retryAfterMs := retry }) report.targetReached
    exact .releases hslice hbooks hcounters
  · obtain ⟨most, hmost⟩ := announceExpected_writes { s with orderTerminalSeen := true } terminal
      report.expectedFilledVolume
    rw [h] at hbooks ⊢
    rw [endOrder, hmost] at hbooks ⊢
    split
    · exact .rests rfl hfill rfl rfl rfl
    · rename_i hbarrier
      rw [if_neg hbarrier] at hbooks
      obtain ⟨retry, hretry⟩ := cooldown_writes
        { s with orderTerminalSeen := true, terminalExpectedFilledVolume := most } report
        (s.pendingFilledVolume ≤ 0 ∧ terminal ≠ .filled)
      rw [hretry] at hbooks ⊢
      obtain ⟨hslice, hcounters⟩ := settlePending_slice
        (s := { s with orderTerminalSeen := true, terminalExpectedFilledVolume := most, retryAfterMs := retry })
        report.targetReached
      exact .releases hslice hbooks hcounters

theorem evaluate_moves (config : ManagedEntryPlanConfig) (context : EntryEvaluationContext) :
    Moves registry uuid5 s (.evaluate config context) (s.evaluate registry uuid5 config context).1 := by
  cases hdecision : s.decision? registry uuid5 config context with
  | some decision => exact .opens hdecision (decided_of_decision? hdecision)
  | none =>
    have hdone := s.evaluate_evaluated registry uuid5 config context
    have hdecided : ∀ next, decidedBy registry uuid5 ⟨s, .evaluate config context, next⟩ = none := by
      intro next
      simp [decidedBy, hdecision]
    rw [hdecision] at hdone
    generalize (s.evaluate registry uuid5 config context).1 = next at hdone ⊢
    refine .rests (hdecided next) (fun _ hop => by cases hop) ?_ ?_ ?_
    all_goals cases hdone <;> rfl

theorem step_moves (s : ManagedEntryPlanState) (registry : ManagedEntryRuleRegistry) (uuid5 : String → String)
    (op : EntryOp) : Moves registry uuid5 s op (s.step registry uuid5 op) := by
  cases op with
  | evaluate config context => exact evaluate_moves config context
  | tradeFill fill => exact applyTradeFill_moves fill
  | orderTerminal report => exact applyOrderTerminal_moves report
  | requestTerminal requested reason pendingWork =>
    obtain ⟨first, noted, phase, h⟩ := s.requestTerminal_writes requested reason pendingWork
    have hstep : s.step registry uuid5 (.requestTerminal requested reason pendingWork) = _ := h
    rw [hstep]
    exact .rests rfl (fun _ hop => by cases hop) rfl rfl rfl
  | reload =>
    have hstep : s.step registry uuid5 .reload = s := s.reload_eq
    rw [hstep]
    exact .rests rfl (fun _ hop => by cases hop) rfl rfl rfl

/-! ## What a decision opens -/

/-- A slice fits into the amount cap: it asks for a positive volume at the context's price where the plan counts volume,
    elsewhere for a positive amount. -/
inductive Sized (config : ManagedEntryPlanConfig) (context : EntryEvaluationContext) (gap : EntryGapResult) :
    SliceSize → Prop
  | volume {total volume : Int} (htarget : config.targetPolicy.target = .additionalVolume total) (hpos : 0 < volume)
      (hremaining : volume ≤ gap.remainingVolume.getD 0)
      (hcap : volume ≤ (amountCap config context gap / context.executablePrice).floor) :
      Sized config context gap ⟨some volume, none, volume * context.executablePrice⟩
  | amount {amount : Rat} (hpos : epsilon < amount) (hcap : amount ≤ amountCap config context gap) :
      Sized config context gap ⟨none, some amount, amount⟩

theorem executablePrice_pos (h : contextReason config context = none) :
    0 < context.executablePrice ∧ 0 < context.totalEquityCny := by
  unfold contextReason at h
  split_ifs at h with _ _ _ _ _ _ hincomplete
  obtain ⟨hprice, hequity⟩ := not_or.mp hincomplete
  exact ⟨not_le.mp hprice, not_le.mp hequity⟩

theorem volumeSlice_sized {total suggested : Int} {cap : Rat}
    (hprice : 0 < context.executablePrice) (htarget : config.targetPolicy.target = .additionalVolume total)
    (hcap : cap ≤ amountCap config context gap)
    (h : (let volume := min (min (gap.remainingVolume.getD 0) suggested) (max 0 (cap / context.executablePrice).floor)
      if volume ≤ 0 then none else some (SliceSize.mk (some volume) none (volume * context.executablePrice))) = some size) :
    Sized config context gap size := by
  dsimp only at h
  split at h
  · cases h
  · rename_i hpos
    cases h
    have hpos := not_le.mp hpos
    have hroom : (0 : Int) < max 0 (cap / context.executablePrice).floor := lt_of_lt_of_le hpos (min_le_right _ _)
    have hfloor : max 0 (cap / context.executablePrice).floor = (cap / context.executablePrice).floor :=
      max_eq_right (le_of_lt ((lt_max_iff.mp hroom).resolve_left (lt_irrefl 0)))
    refine .volume htarget hpos ((min_le_left _ _).trans (min_le_left _ _)) ?_
    refine (min_le_right _ _).trans (hfloor.le.trans ?_)
    exact Rat.floor_monotone (div_le_div_of_nonneg_right hcap hprice.le)

theorem amountSlice_sized {cap : Rat}
    (hcap : cap ≤ amountCap config context gap)
    (h : (if cap ≤ epsilon then none else some (SliceSize.mk none (some cap) cap)) = some size) :
    Sized config context gap size := by
  split at h
  · cases h
  · rename_i hpos
    cases h
    exact .amount (not_le.mp hpos) hcap

theorem sliceSize_sized {found : EntryRuleMatch}
    (hprice : 0 < context.executablePrice) (h : sliceSize config context gap found = some size) :
    Sized config context gap size := by
  unfold sliceSize at h
  cases htarget : config.targetPolicy.target with
  | additionalVolume total =>
    rw [htarget] at h
    refine volumeSlice_sized hprice htarget ?_ h
    split
    · exact le_refl _
    · exact min_le_left _ _
  | targetPositionPct _ | incrementalAmountCny _ =>
    rw [htarget] at h
    refine amountSlice_sized ?_ h
    split
    · exact le_refl _
    · exact min_le_left _ _

theorem Decided.slice (h : Decided uuid5 config context s next decision) : next.slice = .ofDecision context decision := by
  obtain ⟨quality, ruleState, rule, found, size, hopen, hcontext, hpacing, hsize⟩ := h
  cases sliceSize_sized (executablePrice_pos hcontext).1 hsize with
  | volume htarget hpos hremaining hcap => rfl
  | @amount amount hpos hcap =>
    have hne : amount ≠ 0 := by
      rintro rfl
      exact absurd hpos (by decide +kernel)
    simp [ManagedEntryPlanState.slice, openSlice, Slice.ofDecision, EntryDecision.amountCny, decisionFor, PyVal.orNumber, hne]

theorem Decided.books (h : Decided uuid5 config context s next decision) : next.books = s.books := by
  obtain ⟨quality, ruleState, rule, found, size, hopen, hcontext, hpacing, hsize⟩ := h
  rfl

theorem Decided.idle (h : Decided uuid5 config context s next decision) : s.hasPending = false := by
  obtain ⟨quality, ruleState, rule, found, size, hopen, hcontext, hpacing, hsize⟩ := h
  exact hopen.noPending

theorem Decided.pending (h : Decided uuid5 config context s next decision) : next.hasPending = true := by
  obtain ⟨quality, ruleState, rule, found, size, hopen, hcontext, hpacing, hsize⟩ := h
  simp only [hasPending, openSlice, Bool.or_eq_true]
  exact .inr (decide_eq_true (stageId_ne _ _ _ _ _))

end ManagedEntryPlanState

end QuantX
