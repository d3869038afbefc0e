import QuantX.Theorems.EntryPlan.Decision
import QuantX.Lib.Numbered

namespace QuantX
open Lib

namespace ManagedEntryPlanState
variable {registry : ManagedEntryRuleRegistry} {uuid5 : String → String} {config : ManagedEntryPlanConfig}
  {context : EntryEvaluationContext} {s next : ManagedEntryPlanState} {decision : EntryDecision} {planId : String}
  {log : List (Moment ManagedEntryPlanState EntryOp)} {m : Moment ManagedEntryPlanState EntryOp} {op : EntryOp}

/-- The business key of the `activation`-th decision for a rule. -/
def businessKey (planId : String) (config : ManagedEntryPlanConfig) (ruleId : String) (activation : Int) : String :=
  planId ++ ":" ++ toString config.configVersion ++ ":" ++ ruleId ++ ":" ++ toString activation

/-- The ids of a decision come from the business key of an activation of its rule. -/
structure Named (uuid5 : String → String) (planId : String) (config : ManagedEntryPlanConfig) (activation : Int)
    (decision : EntryDecision) : Prop where
  intent : decision.intentId = uuid5 (businessKey planId config decision.ruleId activation)
  stage : decision.stageId = "entry-stage:" ++ uuid5 (businessKey planId config decision.ruleId activation ++ ":stage")

theorem businessKey_inj {ruleId ruleId' : String} {activation activation' : Int} (hpos : 0 < activation)
    (hpos' : 0 < activation')
    (h : businessKey planId config ruleId activation = businessKey planId config ruleId' activation') :
    ruleId = ruleId' ∧ activation = activation' := numbered_inj hpos.le hpos'.le h

section Identity
variable {earlier later : EntryDecision} {n n' : Int} (huuid : Function.Injective uuid5) (hpos : 0 < n) (hpos' : 0 < n')
  (hnew : later.ruleId = earlier.ruleId → n ≠ n') (h : Named uuid5 planId config n later)
  (h' : Named uuid5 planId config n' earlier)
include huuid hpos hpos' hnew h h'

theorem intentId_ne : later.intentId ≠ earlier.intentId := by
  intro heq
  rw [h.intent, h'.intent] at heq
  obtain ⟨hrule, hsame⟩ := businessKey_inj hpos hpos' (huuid heq)
  exact hnew hrule hsame

theorem stageId_distinct : later.stageId ≠ earlier.stageId := by
  intro heq
  rw [h.stage, h'.stage] at heq
  have hname := huuid ((String.append_right_inj _).mp heq)
  obtain ⟨hrule, hsame⟩ := businessKey_inj hpos hpos' ((String.append_left_inj _).mp hname)
  exact hnew hrule hsame

end Identity

theorem Moves.decided (hmoves : Moves registry uuid5 s op next)
    (hmade : decidedBy registry uuid5 ⟨s, op, next⟩ = some (context, decision)) :
    ∃ config, op = .evaluate config context ∧ Decided uuid5 config context s next decision := by
  cases hmoves with
  | rests hdecided hfill hslice hbooks hcounters =>
    rw [hdecided] at hmade
    cases hmade
  | releases hslice hbooks hcounters => cases hmade
  | fills happlies hslice hbooks hcounters => cases hmade
  | opens hdecision hdecided =>
    rw [decidedBy_opened hdecision] at hmade
    cases hmade
    exact ⟨_, rfl, hdecided⟩

theorem Moves.counters (hmoves : Moves registry uuid5 s op next) (hmade : decidedBy registry uuid5 ⟨s, op, next⟩ = none) :
    next.counters = s.counters := by
  cases hmoves with
  | rests hdecided hfill hslice hbooks hcounters => exact hcounters
  | releases hslice hbooks hcounters => exact hcounters
  | fills happlies hslice hbooks hcounters => exact hcounters
  | opens hdecision hdecided =>
    rw [decidedBy_opened hdecision] at hmade
    cases hmade

theorem Moves.held (hmoves : Moves registry uuid5 s op next) (hmade : decidedBy registry uuid5 ⟨s, op, next⟩ = none) :
    (next.pendingIntentId = s.pendingIntentId ∧ next.pendingStageId = s.pendingStageId) ∨ next.hasPending = false := by
  have hnone : next.slice = .none → next.hasPending = false := by
    intro hslice
    rw [hasPending_eq, hslice]
    rfl
  cases hmoves with
  | rests hdecided hfill hslice hbooks hcounters =>
    exact .inl ⟨congrArg Slice.intentId hslice, congrArg Slice.stageId hslice⟩
  | releases hslice hbooks hcounters => exact .inr (hnone hslice)
  | fills happlies hslice hbooks hcounters =>
    rcases hslice with ⟨-, hslice⟩ | ⟨-, hslice | hslice⟩
    · exact .inl ⟨congrArg Slice.intentId hslice, congrArg Slice.stageId hslice⟩
    · exact .inl ⟨congrArg Slice.intentId hslice, congrArg Slice.stageId hslice⟩
    · exact .inr (hnone hslice)
  | opens hdecision hdecided =>
    rw [decidedBy_opened hdecision] at hmade
    cases hmade

theorem Decided.counters (h : Decided uuid5 config context s next decision) :
    next.counters =
      { activations := s.counters.activations.set decision.ruleId (s.counters.activations.getD decision.ruleId 0 + 1)
        orders := s.counters.orders.set context.tradeDate (s.counters.orders.getD context.tradeDate 0 + 1)
        lastIntentAtMs := some context.decisionTimeMs } := by
  obtain ⟨quality, ruleState, rule, found, size, hopen, hcontext, hpacing, hsize⟩ := h
  rfl

theorem Decided.named (h : Decided uuid5 config context s next decision) :
    Named uuid5 context.planId config (s.counters.activations.getD decision.ruleId 0 + 1) decision := by
  obtain ⟨quality, ruleState, rule, found, size, hopen, hcontext, hpacing, hsize⟩ := h
  exact ⟨rfl, rfl⟩

theorem Decided.paced (h : Decided uuid5 config context s next decision) :
    (∀ last, s.counters.lastIntentAtMs = some last →
        last + config.pacingPolicy.minIntervalSeconds * 1000 ≤ context.decisionTimeMs) ∧
      s.counters.orders.getD context.tradeDate 0 < config.pacingPolicy.maxOrdersPerDay := by
  obtain ⟨quality, ruleState, rule, found, size, hopen, hcontext, hpacing, hsize⟩ := h
  exact pacingReason_none hpacing

/-! ## Runs -/

def OfPlan (planId : String) (config : ManagedEntryPlanConfig) : EntryOp → Prop
  | .evaluate used context => used = config ∧ context.planId = planId
  | _ => True

def PlanRun (registry : ManagedEntryRuleRegistry) (uuid5 : String → String) (planId : String)
    (config : ManagedEntryPlanConfig) : List (Moment ManagedEntryPlanState EntryOp) → ManagedEntryPlanState → Prop :=
  Run (· = {}) (step registry uuid5) fun _ _ => OfPlan planId config

theorem PlanRun.extend (h : PlanRun registry uuid5 planId config log s) (op : EntryOp) (hop : OfPlan planId config op) :
    PlanRun registry uuid5 planId config (⟨s, op, s.step registry uuid5 op⟩ :: log) (s.step registry uuid5 op) :=
  Run.step h op hop

def decisionsOn (registry : ManagedEntryRuleRegistry) (uuid5 : String → String) (day : String)
    (log : List (Moment ManagedEntryPlanState EntryOp)) : List (EntryEvaluationContext × EntryDecision) :=
  (decisions registry uuid5 log).filter (·.1.tradeDate = day)

def Spaced (config : ManagedEntryPlanConfig) (later earlier : EntryEvaluationContext × EntryDecision) : Prop :=
  earlier.1.decisionTimeMs + config.pacingPolicy.minIntervalSeconds * 1000 ≤ later.1.decisionTimeMs

def settles (m : Moment ManagedEntryPlanState EntryOp) : Bool := m.before.hasPending && !m.after.hasPending

def pendingDecisions (registry : ManagedEntryRuleRegistry) (uuid5 : String → String) :
    List (Moment ManagedEntryPlanState EntryOp) → List EntryDecision
  | [] => []
  | m :: log =>
    ((decidedBy registry uuid5 m).map (·.2)).toList ++ if settles m then [] else pendingDecisions registry uuid5 log

/-- The state holds the slice of the only pending decision. -/
def HoldsPending (pending : List EntryDecision) (s : ManagedEntryPlanState) : Prop :=
  (pending = [] ∧ s.hasPending = false) ∨
    ∃ decision, pending = [decision] ∧ s.hasPending = true ∧ s.pendingIntentId = decision.intentId ∧
      s.pendingStageId = decision.stageId

structure PacingInv (registry : ManagedEntryRuleRegistry) (uuid5 : String → String) (planId : String)
    (config : ManagedEntryPlanConfig) (log : List (Moment ManagedEntryPlanState EntryOp)) (s : ManagedEntryPlanState) :
    Prop where
  orders : ∀ day, s.counters.orders.getD day 0 = (decisionsOn registry uuid5 day log).length
  limit : ∀ day, ((decisionsOn registry uuid5 day log).length : Int) ≤ config.pacingPolicy.maxOrdersPerDay
  latest : s.counters.lastIntentAtMs = (decisions registry uuid5 log).head?.map (·.1.decisionTimeMs)
  spaced : (decisions registry uuid5 log).IsChain (Spaced config)
  pending : HoldsPending (pendingDecisions registry uuid5 log) s
  counted : ∀ ruleId, 0 ≤ s.counters.activations.getD ruleId 0
  named : ∀ d ∈ decisions registry uuid5 log, ∃ activation, 0 < activation ∧
    activation ≤ s.counters.activations.getD d.2.ruleId 0 ∧ Named uuid5 planId config activation d.2
  distinct : (decisions registry uuid5 log).Pairwise fun later earlier =>
    later.2.intentId ≠ earlier.2.intentId ∧ later.2.stageId ≠ earlier.2.stageId

theorem pendingDecisions_none (hmade : decidedBy registry uuid5 m = none) :
    pendingDecisions registry uuid5 (m :: log) = if settles m then [] else pendingDecisions registry uuid5 log := by
  rw [pendingDecisions, hmade]
  rfl

theorem HoldsPending.step (h : HoldsPending (pendingDecisions registry uuid5 log) s)
    (hmoves : Moves registry uuid5 s op next) (hmade : decidedBy registry uuid5 ⟨s, op, next⟩ = none) :
    HoldsPending (pendingDecisions registry uuid5 (⟨s, op, next⟩ :: log)) next := by
  rw [pendingDecisions_none hmade]
  rcases hmoves.held hmade with ⟨hintent, hstage⟩ | hgone
  · have hkept : next.hasPending = s.hasPending := by rw [hasPending, hintent, hstage, hasPending]
    have hsettles : settles ⟨s, op, next⟩ = false := by simp [settles, hkept]
    rw [hsettles]
    unfold HoldsPending
    rw [hkept, hintent, hstage]
    exact h
  · refine .inl ⟨?_, hgone⟩
    rcases h with ⟨hnone, -⟩ | ⟨decision, -, hpending, -⟩
    · rw [hnone, ite_self]
    · exact if_pos (by simp [settles, hpending, hgone])

theorem PacingInv.rest (h : PacingInv registry uuid5 planId config log s) (hmoves : Moves registry uuid5 s op next)
    (hmade : decidedBy registry uuid5 ⟨s, op, next⟩ = none) :
    PacingInv registry uuid5 planId config (⟨s, op, next⟩ :: log) next := by
  have hdecisions : decisions registry uuid5 (⟨s, op, next⟩ :: log) = decisions registry uuid5 log :=
    decisions_cons_none hmade
  have hcounters := hmoves.counters hmade
  refine ⟨fun day => ?_, fun day => ?_, ?_, ?_, h.pending.step hmoves hmade, fun ruleId => ?_, ?_, ?_⟩
  · rw [hcounters, decisionsOn, hdecisions]
    exact h.orders day
  · rw [decisionsOn, hdecisions]
    exact h.limit day
  · rw [hcounters, hdecisions]
    exact h.latest
  · rw [hdecisions]
    exact h.spaced
  · rw [hcounters]
    exact h.counted ruleId
  · rw [hcounters, hdecisions]
    exact h.named
  · rw [hdecisions]
    exact h.distinct

theorem decisionsOn_cons (day : String) (hmade : decidedBy registry uuid5 m = some (context, decision)) :
    decisionsOn registry uuid5 day (m :: log) =
      if context.tradeDate = day then (context, decision) :: decisionsOn registry uuid5 day log
      else decisionsOn registry uuid5 day log := by
  rw [decisionsOn, decisions_cons_some hmade, List.filter_cons]
  simp only [decide_eq_true_eq]
  rfl

theorem PacingInv.ids_new (huuid : Function.Injective uuid5) (h : PacingInv registry uuid5 planId config log s)
    (hdecided : Decided uuid5 config context s next decision) (hplan : context.planId = planId) :
    ∀ d ∈ decisions registry uuid5 log, decision.intentId ≠ d.2.intentId ∧ decision.stageId ≠ d.2.stageId := by
  intro d hd
  obtain ⟨activation, hpos, hle, hnamed⟩ := h.named d hd
  have hnew := hplan ▸ hdecided.named
  have hnext : 0 < s.counters.activations.getD decision.ruleId 0 + 1 := Int.lt_add_one_of_le (h.counted decision.ruleId)
  have hother : decision.ruleId = d.2.ruleId → s.counters.activations.getD decision.ruleId 0 + 1 ≠ activation := by
    intro hrule heq
    rw [← hrule, ← heq] at hle
    exact absurd hle (not_le.mpr (Int.lt_succ _))
  exact ⟨intentId_ne huuid hnext hpos hother hnew hnamed, stageId_distinct huuid hnext hpos hother hnew hnamed⟩

theorem PacingInv.decide (huuid : Function.Injective uuid5) (h : PacingInv registry uuid5 planId config log s)
    (hmade : decidedBy registry uuid5 ⟨s, op, next⟩ = some (context, decision))
    (hdecided : Decided uuid5 config context s next decision) (hplan : context.planId = planId) :
    PacingInv registry uuid5 planId config (⟨s, op, next⟩ :: log) next := by
  have hdecisions : decisions registry uuid5 (⟨s, op, next⟩ :: log) =
      (context, decision) :: decisions registry uuid5 log := decisions_cons_some hmade
  have hcounters := hdecided.counters
  obtain ⟨hinterval, hfree⟩ := hdecided.paced
  refine ⟨fun day => ?_, fun day => ?_, ?_, ?_, ?_, fun ruleId => ?_, ?_, ?_⟩
  · rw [hcounters, decisionsOn_cons day hmade, Dict.getD_set]
    split
    · rename_i hday
      rw [hday, h.orders day]
      rfl
    · exact h.orders day
  · rw [decisionsOn_cons day hmade]
    split
    · rename_i hday
      rw [hday, h.orders day] at hfree
      exact hfree
    · exact h.limit day
  · rw [hcounters, hdecisions]
    rfl
  · rw [hdecisions, List.isChain_cons]
    refine ⟨fun d hd => hinterval _ ?_, h.spaced⟩
    rw [h.latest, hd]
    rfl
  · have hidle := hdecided.idle
    have hslice := hdecided.slice
    rcases h.pending with ⟨hnone, -⟩ | ⟨_, -, hpending, -⟩
    · refine .inr ⟨decision, ?_, hdecided.pending, congrArg Slice.intentId hslice, congrArg Slice.stageId hslice⟩
      rw [pendingDecisions, hmade, hnone, ite_self]
      rfl
    · rw [hidle] at hpending
      cases hpending
  · rw [hcounters, Dict.getD_set]
    split
    · exact Int.le_add_one (h.counted decision.ruleId)
    · exact h.counted ruleId
  · rw [hdecisions, hcounters]
    rintro d hd
    rcases List.mem_cons.mp hd with rfl | hd
    · refine ⟨_, Int.lt_add_one_of_le (h.counted decision.ruleId), ?_, hplan ▸ hdecided.named⟩
      rw [Dict.getD_set, if_pos rfl]
    · obtain ⟨activation, hpos, hle, hnamed⟩ := h.named d hd
      refine ⟨activation, hpos, ?_, hnamed⟩
      rw [Dict.getD_set]
      split
      · rename_i hrule
        rw [hrule]
        exact Int.le_add_one hle
      · exact hle
  · rw [hdecisions, List.pairwise_cons]
    exact ⟨h.ids_new huuid hdecided hplan, h.distinct⟩

theorem PlanRun.pacingInv (huuid : Function.Injective uuid5) (h : PlanRun registry uuid5 planId config log s) :
    PacingInv registry uuid5 planId config log s := by
  refine Run.invariant (PacingInv registry uuid5 planId config) ?_ ?_ h
  · rintro s rfl
    exact ⟨fun _ => rfl, fun _ => config.pacingPolicy.maxOrdersPerDay_pos.le, rfl, .nil, .inl ⟨rfl, rfl⟩,
      fun _ => le_refl _, fun _ hd => absurd hd List.not_mem_nil, .nil⟩
  · intro log s op hinv hop
    have hmoves := s.step_moves registry uuid5 op
    cases hmade : decidedBy registry uuid5 ⟨s, op, s.step registry uuid5 op⟩ with
    | none => exact hinv.rest hmoves hmade
    | some made =>
      obtain ⟨context, decision⟩ := made
      obtain ⟨used, rfl, hdecided⟩ := hmoves.decided hmade
      obtain ⟨rfl, hplan⟩ := hop
      exact hinv.decide huuid hmade hdecided hplan

/-- Along every run of one plan, restarts included: no trade date has too many decisions, consecutive decisions keep the
    interval, at most one slice is pending, and no two decisions share an id. -/
theorem decisions_paced (huuid : Function.Injective uuid5) (h : PlanRun registry uuid5 planId config log s) :
    (∀ day, ((decisionsOn registry uuid5 day log).length : Int) ≤ config.pacingPolicy.maxOrdersPerDay) ∧
      (decisions registry uuid5 log).IsChain (Spaced config) ∧
      (pendingDecisions registry uuid5 log).length ≤ 1 ∧ HoldsPending (pendingDecisions registry uuid5 log) s ∧
      ((decisions registry uuid5 log).map (·.2.intentId)).Nodup ∧
      ((decisions registry uuid5 log).map (·.2.stageId)).Nodup := by
  have hinv := h.pacingInv huuid
  refine ⟨hinv.limit, hinv.spaced, ?_, hinv.pending, ?_, ?_⟩
  · rcases hinv.pending with ⟨hnone, -⟩ | ⟨decision, hone, -⟩
    · rw [hnone]
      exact Nat.zero_le 1
    · rw [hone]
      exact le_refl 1
  · exact List.pairwise_map.mpr (hinv.distinct.imp And.left)
  · exact List.pairwise_map.mpr (hinv.distinct.imp And.right)

/-- The name-based ids of the plan's namespace for the names of the run below, one-to-one elsewhere. -/
def planUuid5 : Equiv.Perm String :=
  ((Equiv.swap "plan:1:r1:1" "3906e86e-c201-5e55-94f5-6a4f9e543a7d").trans
    (Equiv.swap "plan:1:r1:1:stage" "c18e88d0-a877-5e19-aed4-41760d0bbf76")).trans
    ((Equiv.swap "plan:1:r1:1:1" "b2ff5b09-5df2-5672-91a4-dcd15d05c756").trans
      (Equiv.swap "plan:1:r1:1:1:stage" "f217b464-3f4d-5fe5-9133-8c99b187ac9e"))

/-- A second rule whose id continues the first one's with a colon. -/
def colonConfig : ManagedEntryPlanConfig :=
  { manualEntryConfig with
    triggerRules := [manualRule, { manualRule with
      ruleId := "r1:1", identified := by decide }]
    triggerRules_enabled := rfl, triggerRules_nodup := by decide }

def colonContext : EntryEvaluationContext :=
  { triggeredContext with
    decisionTimeMs := 5000, manualTriggerRuleId := some "r1:1" }

def rejected : EntryOrderReport where
  status := "REJECTED"
  timestampMs := 3000
  cooldownAfterRejectSeconds := 0

def colonOps : List EntryOp :=
  [.evaluate colonConfig triggeredContext, .orderTerminal rejected, .reload, .evaluate colonConfig colonContext]

def colonLog : List (Moment ManagedEntryPlanState EntryOp) := (play (step .builtins planUuid5) {} colonOps).1
def colonState : ManagedEntryPlanState := (play (step .builtins planUuid5) {} colonOps).2

theorem colon_rules_distinct :
    (decisions .builtins planUuid5 colonLog).map (·.2.intentId) =
        ["b2ff5b09-5df2-5672-91a4-dcd15d05c756", "3906e86e-c201-5e55-94f5-6a4f9e543a7d"] ∧
      ((decisionsOn .builtins planUuid5 "2026-01-05" colonLog).length : Int) ≤ 10 ∧
      (pendingDecisions .builtins planUuid5 colonLog).length ≤ 1 ∧
      ((decisions .builtins planUuid5 colonLog).map (·.2.intentId)).Nodup ∧
      ((decisions .builtins planUuid5 colonLog).map (·.2.stageId)).Nodup := by
  have hstart : PlanRun .builtins planUuid5 "plan" colonConfig [] {} := Run.start rfl
  have hopened := hstart.extend (.evaluate colonConfig triggeredContext) ⟨rfl, rfl⟩
  have hrejected := hopened.extend (.orderTerminal rejected) trivial
  have hrun : PlanRun .builtins planUuid5 "plan" colonConfig colonLog colonState :=
    (hrejected.extend .reload trivial).extend (.evaluate colonConfig colonContext) ⟨rfl, rfl⟩
  obtain ⟨horders, -, hone, -, hintents, hstages⟩ := decisions_paced planUuid5.injective hrun
  exact ⟨by decide +kernel, horders "2026-01-05", hone, hintents, hstages⟩

end ManagedEntryPlanState

end QuantX
