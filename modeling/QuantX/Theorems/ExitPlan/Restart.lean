import QuantX.Theorems.ExitPlan.Run
import QuantX.Theorems.ExitPlan.Snapshot

namespace QuantX
open Lib

/-- The rule is read back as it is. Strategies are in upper case from the start. -/
structure ExitRuleSpec.Kept (rule : ExitRuleSpec) : Prop where
  priority : rule.priority ≠ 0
  named : rule.ruleId ≠ ""
  strategy : rule.strategy.toUpper = rule.strategy

def KeptText (text : String) : Prop := text ≠ "" ∧ text.toUpper = text

structure ExitPlanTemplate.Kept (template : ExitPlanTemplate) : Prop where
  rules : ∀ rule ∈ template.rules, rule.Kept
  version : template.configVersion ≠ 0
  priceType : KeptText template.execution.priceType
  executionMode : KeptText template.execution.executionMode

theorem ExitRuleSpec.Kept.reloaded {rule : ExitRuleSpec} (h : rule.Kept) (uuid4 : String) : rule.reloaded uuid4 = rule := by
  simp [ExitRuleSpec.reloaded, PyVal.orText, h.named, h.strategy, h.priority]

theorem ExitRuleSpec.reloadedAll_kept (uuid4 : Nat → String) {rules : List ExitRuleSpec} (h : ∀ rule ∈ rules, rule.Kept) :
    ∀ n, reloadedAll uuid4 rules n = rules := by
  induction rules with
  | nil => exact fun _ => rfl
  | cons rule rules ih =>
    intro n
    rw [reloadedAll, (h rule (List.mem_cons_self ..)).reloaded, ih fun rule hrule => h rule (List.mem_cons_of_mem _ hrule)]

theorem KeptText.written {text default : String} (h : KeptText text) :
    (PyVal.orText (PyVal.orText text default).toUpper default).toUpper = text := by
  obtain ⟨hne, hupper⟩ := h
  simp only [PyVal.orText, if_pos hne, hupper]

theorem ExitPlanTemplate.Kept.reloaded {template : ExitPlanTemplate} (h : template.Kept) (uuid4 : Nat → String) :
    template.reloaded uuid4 = template := by
  have hrules := ExitRuleSpec.reloadedAll_kept uuid4 h.rules 0
  have hexecution : template.execution.reloaded = template.execution := by
    simp only [ExitExecutionPolicy.reloaded, h.priceType.written, h.executionMode.written]
  simp only [ExitPlanTemplate.reloaded, hrules, hexecution, if_neg h.version]

namespace ExitPlan

/-- What a plan adds to its template: announced fills are not negative and zero-fill proofs name an intent. -/
structure PendingView.Clean (view : PendingView) : Prop where
  target : ∀ target ∈ view.target, 0 ≤ target
  zeroFills : ∀ i ∈ view.zeroFills, i ≠ ""

structure Kept (plan : ExitPlan) : Prop where
  template : plan.template.Kept
  pending : plan.pendingView.Clean

variable {plan next : ExitPlan}

theorem Kept.reloaded (h : plan.Kept) (uuid4 : Nat → String) : plan.reloaded uuid4 = plan := by
  have htarget : plan.pendingTerminalCumulativeFill.filter (0 ≤ ·) = plan.pendingTerminalCumulativeFill := by
    have htargets := h.pending.target
    cases hannounced : plan.pendingTerminalCumulativeFill with
    | none => rfl
    | some target => exact Option.filter_some_pos (decide_eq_true (htargets target hannounced))
  have hzero : plan.reconciledZeroFillIntentIds.filter (· ≠ "") = plan.reconciledZeroFillIntentIds :=
    List.filter_eq_self.mpr fun i hi => decide_eq_true (h.pending.zeroFills i hi)
  simp only [ExitPlan.reloaded, h.template.reloaded, htarget, hzero]

theorem SamePending.clean (hsame : SamePending plan next) (h : plan.pendingView.Clean) : next.pendingView.Clean := by
  rw [hsame]
  exact h

theorem Cleared.clean (hcleared : Cleared plan next) (h : plan.pendingView.Clean) : next.pendingView.Clean := by
  rw [hcleared.view]
  refine ⟨fun _ htarget => (Option.not_mem_none _ htarget).elim, fun i hi => ?_⟩
  rcases hcleared.zeroFills i hi with hold | ⟨hnew, -⟩
  · exact h.zeroFills i hold
  · exact hnew

theorem optionalNonNegativeInt_nonneg {value : PyVal} {n : Int} (h : optionalNonNegativeInt value = some n) : 0 ≤ n := by
  unfold optionalNonNegativeInt at h
  split at h
  · cases h
  · cases h
  · split at h
    · rename_i hq
      cases h
      exact hq.2
    · cases h
  · split at h
    · split at h
      · rename_i hn
        cases h
        exact hn
      · cases h
    · cases h

theorem OrderEffect.clean {event : OrderEvent} (heffect : OrderEffect plan event next) (h : plan.pendingView.Clean) :
    next.pendingView.Clean := by
  cases heffect with
  | ignored heq => exact heq ▸ h
  | burned message heq => exact heq ▸ h
  | working _ _ hsame => exact hsame.clean h
  | held _ _ _ hsame => exact SamePending.clean hsame ⟨h.target, h.zeroFills⟩
  | announced target _ _ _ found hsame =>
    refine SamePending.clean hsame ⟨fun announced hannounced => ?_, h.zeroFills⟩
    obtain rfl := Option.some.inj hannounced
    exact optionalNonNegativeInt_nonneg (terminalTarget?_eq_some.mp found).1
  | converged _ _ _ _ _ _ _ hcleared => exact hcleared.clean h
  | zeroFill _ _ _ hcleared => exact hcleared.clean h

theorem FillEffect.clean {fill : ExitFill} (heffect : FillEffect plan fill next) (h : plan.pendingView.Clean) :
    next.pendingView.Clean := by
  have hbooked : (plan.bookExitFill fill).pendingView.Clean := ⟨h.target, h.zeroFills⟩
  cases heffect with
  | ignored _ heq => exact heq ▸ h
  | refused _ message heq => exact heq ▸ h
  | booked _ _ _ heffect =>
    cases heffect with
    | unmatched _ hsame _ => exact hsame.clean hbooked
    | uncorrelated _ _ hsame => exact hsame.elim (·.clean hbooked) (·.clean hbooked)
    | progressed _ _ hsame => exact hsame.clean hbooked
    | converged _ _ _ _ _ _ _ hcleared => exact hcleared.clean hbooked
    | soldOut _ _ _ _ hcleared => exact hcleared.clean hbooked

end ExitPlan

namespace ExitPlanBook

def Kept (book : ExitPlanBook) : Prop := ∀ id plan, book.plans.get? id = some plan → plan.Kept

theorem load_plans (uuid4 : String → Nat → String) {l : List (String × ExitPlan)} :
    ∀ {book : ExitPlanBook}, (∀ e ∈ l, e.2.planId = e.1 ∧ e.2.Kept) →
      (load uuid4 (l.map fun e => (e.1, .dict e.2.toDict)) book).plans = book.plans.update l := by
  induction l with
  | nil => exact fun _ => rfl
  | cons e l ih =>
    intro book h
    obtain ⟨key, plan⟩ := e
    obtain ⟨hkey, hkept⟩ := h (key, plan) (List.mem_cons_self ..)
    simp only [List.map_cons, load, ExitPlan.fromDict_toDict, hkept.reloaded]
    rw [ih fun e he => h e (List.mem_cons_of_mem _ he)]
    show (book.plans.set plan.planId plan).update l = (book.plans.set key plan).update l
    rw [hkey]

theorem ext_plans {book book' : ExitPlanBook} (h : book.plans = book'.plans) : book = book' := by
  cases book
  cases book'
  cases h
  rfl

theorem Kept.fromDict_toDict {book : ExitPlanBook} (h : book.Kept) (uuid4 : String → Nat → String) :
    fromDict uuid4 (.dict book.toDict) = .ok book := by
  simp only [fromDict, toDict, PyVal.get, mappingOrEmpty_dict, bind, Except.bind, pure, Except.pure, Dict.lookup,
    String.reduceEq, ↓reduceIte, Option.getD_some, Except.ok.injEq]
  refine ext_plans ((load_plans uuid4 fun e he => ?_).trans (Dict.ofList_entries book.plans))
  have hget := Dict.mem_entries.mp he
  exact ⟨book.keyed hget, h e.1 e.2 hget⟩

end ExitPlanBook

/-! ## Runs -/

/-- The templates that an operation hands to the book. -/
def ExitOp.templates : ExitOp → List ExitPlanTemplate
  | .registerEntryFill template _ _ _ => [template]
  | .applyCommand command => command.template.toList
  | _ => []

theorem ExitPlan.applyTemplate_template {plan next : ExitPlan} {template : ExitPlanTemplate}
    (h : plan.applyTemplate template = .ok next) : next.template = template := by
  unfold applyTemplate at h
  split at h
  · cases h
  · cases h
    rfl

theorem ExitPlanBook.applyCommand_template {book : ExitPlanBook} {command : ExitPlanCommand} {id : String} {next : ExitPlan}
    (h : (book.orElse (book.applyCommand command)).plans.get? id = some next) :
    (∃ plan, book.plans.get? id = some plan ∧ next.template = plan.template) ∨ command.template = some next.template := by
  have hsame : book.plans.get? id = some next →
      (∃ plan, book.plans.get? id = some plan ∧ next.template = plan.template) ∨ command.template = some next.template :=
    fun h => .inl ⟨next, h, rfl⟩
  unfold applyCommand at h
  cases hget : book.plans.get? command.planId with
  | none =>
    simp only [hget] at h
    exact hsame h
  | some plan =>
    have hput : ∀ stored : ExitPlan, stored.planId = command.planId →
        (stored.template = plan.template ∨ command.template = some stored.template) →
        (book.put stored).plans.get? id = some next →
        (∃ plan, book.plans.get? id = some plan ∧ next.template = plan.template) ∨ command.template = some next.template := by
      intro stored hid hstored hnext
      rw [get?_put] at hnext
      split at hnext
      · rename_i hown
        cases hnext
        exact hstored.imp_left fun h => ⟨plan, (hid.symm.trans hown) ▸ hget, h⟩
      · exact hsame hnext
    have hkey : plan.planId = command.planId := book.keyed hget
    simp only [hget] at h
    cases hkind : command.command with
    | upsertPolicy =>
      cases htemplate : command.template with
      | none =>
        simp only [hkind, htemplate] at h
        exact .inl ⟨next, h, rfl⟩
      | some template =>
        rw [htemplate] at hput hsame
        simp only [hkind, htemplate] at h
        split at h
        · cases happly : plan.applyTemplate template with
          | error e =>
            simp only [happly] at h
            exact hsame h
          | ok stored =>
            simp only [happly] at h
            refine hput stored ((ExitPlan.applyTemplate_planId happly).trans hkey) (.inr ?_) h
            rw [ExitPlan.applyTemplate_template happly]
        · exact hsame h
    | pause =>
      simp only [hkind] at h
      exact hput (plan.setStatus .paused) hkey (.inl rfl) h
    | resume =>
      simp only [hkind] at h
      split at h
      · exact hsame h
      · split at h
        · exact hput (plan.setStatus .active) hkey (.inl rfl) h
        · exact hsame h
    | cancel =>
      simp only [hkind] at h
      exact hput { plan with status := .cancelled, errorMessage := command.reason } hkey (.inl rfl) h

theorem ExitRun.step_template (registry : ExitStrategyRegistry) {s : ExitRun} {op : ExitOp} {id : String} {next : ExitPlan}
    (h : (s.step registry op).book.plans.get? id = some next) :
    (∃ plan, s.book.plans.get? id = some plan ∧ next.template = plan.template) ∨ next.template ∈ op.templates := by
  by_cases hcommand : ∃ command, op = .applyCommand command
  · obtain ⟨command, rfl⟩ := hcommand
    refine (ExitPlanBook.applyCommand_template h).imp_right fun htemplate => ?_
    exact Option.mem_toList.mpr htemplate
  · have hstep := s.step_plan registry op id
    rw [h] at hstep
    generalize s.book.plans.get? id = stored at hstep
    cases hstep with
    | same => exact .inl ⟨next, rfl, rfl⟩
    | created template volume price time =>
      exact .inr (List.mem_singleton.mpr (ExitPlan.registerEntryFill_template _ _ _ _))
    | entryFill template volume price time _ hcurrent =>
      rcases hcurrent with rfl | happly
      · exact .inl ⟨_, rfl, ExitPlan.registerEntryFill_template _ _ _ _⟩
      · refine .inr (List.mem_singleton.mpr ?_)
        rw [ExitPlan.registerEntryFill_template]
        exact ExitPlan.applyTemplate_template happly
    | upserted command => exact absurd ⟨command, rfl⟩ hcommand
    | paused _ command => exact absurd ⟨command, rfl⟩ hcommand
    | resumed command => exact absurd ⟨command, rfl⟩ hcommand
    | cancelled _ command => exact absurd ⟨command, rfl⟩ hcommand
    | evaluated plan code context => exact .inl ⟨plan, rfl, ExitPlan.evaluate_template registry plan context⟩
    | marked _ _ _ hmark => exact .inl ⟨_, rfl, (ExitPlan.markIntent_sameEntry hmark).template⟩
    | ordered plan event => exact .inl ⟨plan, rfl, (ExitPlan.applyOrderEvent_sameEntry plan event).template⟩
    | filled plan fill => exact .inl ⟨plan, rfl, (ExitPlan.applyExitFill_sameEntry plan fill).template⟩

theorem ExitRun.step_clean (registry : ExitStrategyRegistry) {s : ExitRun} (op : ExitOp) {id : String}
    (h : (s.book.pending id).Clean) : ((s.step registry op).book.pending id).Clean := by
  cases s.step_pending registry op id with
  | same _ hsame => exact hsame ▸ h
  | marked d i _ hplan hnext hmark =>
    rw [ExitPlanBook.pending_of_get? hplan] at h
    rw [ExitPlanBook.pending_of_get? hnext, ExitPlan.markIntent_pending hmark]
    exact ⟨fun _ htarget => (Option.not_mem_none _ htarget).elim, h.zeroFills⟩
  | ordered e _ hplan hnext _ heffect =>
    rw [ExitPlanBook.pending_of_get? hplan] at h
    rw [ExitPlanBook.pending_of_get? hnext]
    exact heffect.clean h
  | filled f _ hplan hnext _ heffect =>
    rw [ExitPlanBook.pending_of_get? hplan] at h
    rw [ExitPlanBook.pending_of_get? hnext]
    exact heffect.clean h

theorem ExitRun.step_kept (registry : ExitStrategyRegistry) {s : ExitRun} {op : ExitOp} (h : s.book.Kept)
    (hop : ∀ template ∈ op.templates, template.Kept) : (s.step registry op).book.Kept := by
  intro id next hnext
  constructor
  · rcases ExitRun.step_template registry hnext with ⟨plan, hplan, htemplate⟩ | hgiven
    · rw [htemplate]
      exact (h id plan hplan).template
    · exact hop _ hgiven
  · have hclean : (s.book.pending id).Clean := by
      unfold ExitPlanBook.pending
      cases hplan : s.book.plans.get? id with
      | none => exact ⟨fun _ htarget => (Option.not_mem_none _ htarget).elim, fun _ hi => by cases hi⟩
      | some plan => exact (h id plan hplan).pending
    have hpending := ExitRun.step_clean registry op hclean
    rw [ExitPlanBook.pending_of_get? hnext] at hpending
    exact hpending

/-- An operation of the book, or a restart from its snapshot. `uuid4` are the ids that the reader generates. -/
inductive RestartOp where
  | operate (op : ExitOp)
  | restart (uuid4 : String → Nat → String)

def ExitRun.next (registry : ExitStrategyRegistry) (s : ExitRun) : RestartOp → ExitRun
  | .operate op => s.step registry op
  | .restart uuid4 => { s with book := s.book.orElse (ExitPlanBook.fromDict uuid4 (.dict s.book.toDict)) }

def ExitRun.restarted (registry : ExitStrategyRegistry) (ops : List RestartOp) : ExitRun :=
  ops.foldl (ExitRun.next registry) {}

def RestartOp.operation? : RestartOp → Option ExitOp
  | .operate op => some op
  | .restart _ => none

def ExitRun.uninterrupted (registry : ExitStrategyRegistry) (ops : List RestartOp) : ExitRun :=
  (ops.filterMap RestartOp.operation?).foldl (ExitRun.step registry) {}

theorem ExitRun.foldl_next (registry : ExitStrategyRegistry) {ops : List RestartOp}
    (hops : ∀ op, .operate op ∈ ops → ∀ template ∈ op.templates, template.Kept) :
    ∀ {s : ExitRun}, s.book.Kept → ops.foldl (ExitRun.next registry) s =
      (ops.filterMap RestartOp.operation?).foldl (ExitRun.step registry) s := by
  induction ops with
  | nil => exact fun _ => rfl
  | cons op ops ih =>
    intro s hs
    have htail := fun op hop => hops op (List.mem_cons_of_mem _ hop)
    cases op with
    | operate op =>
      exact ih htail (ExitRun.step_kept registry hs (hops op (List.mem_cons_self ..)))
    | restart uuid4 =>
      have hsame : ExitRun.next registry s (.restart uuid4) = s := by
        simp only [ExitRun.next, hs.fromDict_toDict, ExitPlanBook.orElse]
      rw [List.foldl_cons, hsame]
      exact ih htail hs

/-- A run whose templates are all kept may be restarted anywhere: plans and offered decisions are those of the run
    without restarts. -/
theorem restarted_eq_uninterrupted (registry : ExitStrategyRegistry) (ops : List RestartOp)
    (hkept : ∀ op, .operate op ∈ ops → ∀ template ∈ op.templates, template.Kept) :
    ExitRun.restarted registry ops = ExitRun.uninterrupted registry ops := by
  refine ExitRun.foldl_next registry hkept ?_
  intro id plan hplan
  cases hplan

theorem manualTemplate_kept : manualTemplate.Kept := by
  refine ⟨fun rule hrule => ?_, by decide, ⟨by decide, by decide +kernel⟩, ⟨by decide, by decide +kernel⟩⟩
  obtain rfl := List.mem_singleton.mp hrule
  exact ⟨by decide, by decide, by decide +kernel⟩

def manualRestart (template : ExitPlanTemplate) : List RestartOp :=
  [.operate (.registerEntryFill template 100 10 none), .restart fun _ _ => "generated",
    .operate (.evaluate "600000.SH" morningContext)]

theorem manual_restart_transparent :
    (ExitRun.restarted manualRegistry (manualRestart manualTemplate)).offered.map (·.ruleId) =
      (ExitRun.uninterrupted manualRegistry (manualRestart manualTemplate)).offered.map (·.ruleId) ∧
    (ExitRun.uninterrupted manualRegistry (manualRestart manualTemplate)).offered ≠ [] := by
  refine ⟨?_, by decide +kernel⟩
  rw [restarted_eq_uninterrupted manualRegistry (manualRestart manualTemplate) ?_]
  intro op hop template htemplate
  simp only [manualRestart, List.mem_cons, RestartOp.operate.injEq, reduceCtorEq, List.not_mem_nil, or_false, false_or] at hop
  rcases hop with rfl | rfl
  · obtain rfl := List.mem_singleton.mp htemplate
    exact manualTemplate_kept
  · cases htemplate

/-- Two manual rules, the first with the priority zero. -/
def zeroPriorityTemplate : ExitPlanTemplate :=
  { manualTemplate with
    rules := [{ manualExitRule with ruleId := "last", priority := 0 },
      { manualExitRule with ruleId := "first", priority := 100 }]
    rules_ne := by simp }

/-- The priority zero comes back as the default one, and another rule sells. -/
theorem zero_priority_not_restored :
    ¬ ∀ (registry : ExitStrategyRegistry) (ops : List RestartOp),
      (ExitRun.restarted registry ops).offered.map (·.ruleId) = (ExitRun.uninterrupted registry ops).offered.map (·.ruleId) := by
  intro hclaim
  have hoffered : (ExitRun.restarted manualRegistry (manualRestart zeroPriorityTemplate)).offered.map (·.ruleId) = ["last"] ∧
      (ExitRun.uninterrupted manualRegistry (manualRestart zeroPriorityTemplate)).offered.map (·.ruleId) = ["first"] := by
    decide +kernel
  have hsame := hclaim manualRegistry (manualRestart zeroPriorityTemplate)
  rw [hoffered.1, hoffered.2] at hsame
  exact absurd hsame (by decide)

end QuantX
