import QuantX.Lib.Run
import QuantX.Trading.PriceRules
import QuantX.Theorems.ExitPlan.Pending

/-! Runs of an exit plan book. `offered` holds the decisions of the evaluation just made that were not marked yet. -/

namespace QuantX
open Lib ExitPlan

inductive ExitOp where
  | registerEntryFill (template : ExitPlanTemplate) (volume : Int) (price : Rat) (tradeTime : Option DateTime)
  | applyCommand (command : ExitPlanCommand)
  | evaluate (instrumentCode : String) (context : ExitEvaluationContext)
  | markIntent (decision : ExitDecision) (intentId : String)
  | applyOrderEvent (event : OrderEvent)
  | applyExitFill (fill : ExitFill)

def ExitPlanBook.orElse (book : ExitPlanBook) : Except String ExitPlanBook → ExitPlanBook
  | .ok next => next
  | .error _ => book

def decisionsOf : Except String (List ExitDecision) → List ExitDecision
  | .ok decisions => decisions
  | .error _ => []

structure ExitRun where
  book : ExitPlanBook := .empty
  offered : List ExitDecision := []

def ExitRun.step (registry : ExitStrategyRegistry) (s : ExitRun) : ExitOp → ExitRun
  | .registerEntryFill template volume price tradeTime =>
    { book := s.book.orElse (s.book.registerEntryFill template volume price tradeTime) }
  | .applyCommand command => { book := s.book.orElse (s.book.applyCommand command) }
  | .evaluate instrumentCode context =>
    let result := s.book.evaluate registry instrumentCode context
    { book := result.1, offered := decisionsOf result.2 }
  | .markIntent decision intentId =>
    { book := s.book.orElse (s.book.markIntent decision intentId)
      offered := s.offered.filter fun other => other.planId ≠ decision.planId }
  | .applyOrderEvent event => { book := s.book.applyOrderEvent event }
  | .applyExitFill fill => { book := s.book.applyExitFill fill }

namespace ExitPlanBook
variable {plan : ExitPlan}

def pending (book : ExitPlanBook) (id : String) : PendingView := ((book.plans.get? id).map pendingView).getD {}

def remaining (book : ExitPlanBook) (id : String) : Int := ((book.plans.get? id).map remainingVolume).getD 0

def entered (book : ExitPlanBook) (id : String) : Int := ((book.plans.get? id).map ExitPlan.entryFilledVolume).getD 0

theorem pending_of_get? {book : ExitPlanBook} {id : String} (h : book.plans.get? id = some plan) :
    book.pending id = plan.pendingView := by
  unfold pending
  rw [h]
  rfl

theorem remaining_of_get? {book : ExitPlanBook} {id : String} (h : book.plans.get? id = some plan) :
    book.remaining id = plan.remainingVolume := by
  unfold remaining
  rw [h]
  rfl

theorem entered_of_get? {book : ExitPlanBook} {id : String} (h : book.plans.get? id = some plan) :
    book.entered id = plan.entryFilledVolume := by
  unfold entered
  rw [h]
  rfl

theorem remaining_eq (book : ExitPlanBook) (id : String) :
    book.remaining id = max 0 (book.entered id - (book.pending id).exited) := by
  unfold remaining entered pending
  cases book.plans.get? id <;> rfl

theorem get?_put (book : ExitPlanBook) (plan : ExitPlan) (id : String) :
    (book.put plan).plans.get? id = if plan.planId = id then some plan else book.plans.get? id :=
  Dict.get?_set _ _ _ _

end ExitPlanBook

inductive PlanStep (registry : ExitStrategyRegistry) (id : String) : ExitOp → Option ExitPlan → Option ExitPlan → Prop
  | same (op : ExitOp) (stored : Option ExitPlan) : PlanStep registry id op stored stored
  /-- The first entry fill of a plan creates it. -/
  | created (template : ExitPlanTemplate) (volume : Int) (price : Rat) (time : Option DateTime) (own : template.planId = id) :
      PlanStep registry id (.registerEntryFill template volume price time) none
        (some (({ template := template } : ExitPlan).registerEntryFill volume price time))
  | entryFill {plan current : ExitPlan} (template : ExitPlanTemplate) (volume : Int) (price : Rat) (time : Option DateTime)
      (own : template.planId = id) (hcurrent : current = plan ∨ plan.applyTemplate template = .ok current) :
      PlanStep registry id (.registerEntryFill template volume price time) (some plan)
        (some (current.registerEntryFill volume price time))
  | upserted {plan next : ExitPlan} (command : ExitPlanCommand) (template : ExitPlanTemplate) (own : command.planId = id)
      (kind : command.command = .upsertPolicy) (given : command.template = some template) (h : plan.applyTemplate template = .ok next) :
      PlanStep registry id (.applyCommand command) (some plan) (some next)
  | paused (plan : ExitPlan) (command : ExitPlanCommand) (own : command.planId = id) (kind : command.command = .pause) :
      PlanStep registry id (.applyCommand command) (some plan) (some (plan.setStatus .paused))
  | resumed {plan : ExitPlan} (command : ExitPlanCommand) (own : command.planId = id) (kind : command.command = .resume)
      (sound : plan.reconciliationError = "") :
      PlanStep registry id (.applyCommand command) (some plan) (some (plan.setStatus .active))
  | cancelled (plan : ExitPlan) (command : ExitPlanCommand) (own : command.planId = id) (kind : command.command = .cancel) :
      PlanStep registry id (.applyCommand command) (some plan)
        (some { plan with status := .cancelled, errorMessage := command.reason })
  | evaluated (plan : ExitPlan) (code : String) (context : ExitEvaluationContext) :
      PlanStep registry id (.evaluate code context) (some plan) (some (plan.evaluate registry context).1)
  | marked {plan next : ExitPlan} (decision : ExitDecision) (intentId : String) (own : decision.planId = id)
      (h : plan.markIntent decision intentId = .ok next) :
      PlanStep registry id (.markIntent decision intentId) (some plan) (some next)
  | ordered (plan : ExitPlan) (event : OrderEvent) (own : event.planId = id) :
      PlanStep registry id (.applyOrderEvent event) (some plan) (some (plan.applyOrderEvent event))
  | filled (plan : ExitPlan) (fill : ExitFill) (own : fill.planId = id) :
      PlanStep registry id (.applyExitFill fill) (some plan) (some (plan.applyExitFill fill))

namespace ExitPlanBook
variable {registry : ExitStrategyRegistry} {book : ExitPlanBook} {id : String}
variable {context : ExitEvaluationContext}

theorem get?_onPlan {target : String} {op : ExitPlan → ExitPlan} {hop : ∀ plan, (op plan).template = plan.template} :
    (book.onPlan target op hop).plans.get? id =
      if target = id then (book.plans.get? id).map op else book.plans.get? id := by
  show (book.plans.modify target op).get? id = _
  rw [Dict.get?_modify]
  split
  · rename_i h
    rw [h]
  · rfl

theorem put_plan {op : ExitOp} {target : String} {next : ExitPlan} (hid : next.planId = target)
    (h : PlanStep registry target op (book.plans.get? target) (some next)) (id : String) :
    PlanStep registry id op (book.plans.get? id) ((book.put next).plans.get? id) := by
  rw [get?_put]
  split
  · rename_i heq
    obtain rfl : target = id := hid.symm.trans heq
    exact h
  · exact .same _ _

/-- The template of an entry fill has the id of the plan it is stored under, so the fill always registers. -/
theorem registerEntryFill_put (template : ExitPlanTemplate) (volume : Int) (price : Rat) (time : Option DateTime) :
    ∃ next : ExitPlan, book.registerEntryFill template volume price time = .ok (book.put next) ∧
      next.planId = template.planId ∧
      PlanStep registry template.planId (.registerEntryFill template volume price time)
        (book.plans.get? template.planId) (some next) := by
  have hid : ∀ plan : ExitPlan, (plan.registerEntryFill volume price time).planId = plan.planId := fun plan => by
    rw [planId, registerEntryFill_template]
    rfl
  unfold registerEntryFill
  cases hget : book.plans.get? template.planId with
  | none => exact ⟨_, rfl, hid _, .created template volume price time rfl⟩
  | some plan =>
    have hkey : plan.planId = template.planId := book.keyed hget
    simp only
    split
    · have happly : plan.applyTemplate template = .ok { plan with template } := by
        unfold applyTemplate
        rw [if_neg (not_not.mpr hkey.symm)]
      rw [happly]
      exact ⟨_, rfl, hid _, .entryFill template volume price time rfl (Or.inr happly)⟩
    · exact ⟨_, rfl, (hid plan).trans hkey, .entryFill template volume price time rfl (Or.inl rfl)⟩

theorem applyCommand_plan (command : ExitPlanCommand) (id : String) :
    PlanStep registry id (.applyCommand command) (book.plans.get? id)
      ((book.orElse (book.applyCommand command)).plans.get? id) := by
  unfold applyCommand
  cases hget : book.plans.get? command.planId with
  | none => exact .same _ _
  | some plan =>
    have hkey : plan.planId = command.planId := book.keyed hget
    have put : ∀ next : ExitPlan, next.planId = command.planId →
        PlanStep registry command.planId (.applyCommand command) (some plan) (some next) →
        PlanStep registry id (.applyCommand command) (book.plans.get? id) ((book.put next).plans.get? id) :=
      fun next hid h => put_plan hid (hget ▸ h) id
    cases hkind : command.command with
    | upsertPolicy =>
      cases htemplate : command.template with
      | none => exact .same _ _
      | some template =>
        simp only
        split
        · cases happly : plan.applyTemplate template with
          | error e => exact .same _ _
          | ok next =>
            exact put next ((applyTemplate_planId happly).trans hkey) (.upserted command template rfl hkind htemplate happly)
        · exact .same _ _
    | pause => exact put _ hkey (.paused plan command rfl hkind)
    | resume =>
      simp only
      split
      · exact .same _ _
      · rename_i hsound
        split
        · exact put _ hkey (.resumed command rfl hkind (not_not.mp hsound))
        · exact .same _ _
    | cancel => exact put _ hkey (.cancelled plan command rfl hkind)

theorem evaluate_plan (code : String) (context : ExitEvaluationContext) (id : String) :
    PlanStep registry id (.evaluate code context) (book.plans.get? id)
      ((book.evaluate registry code context).1.plans.get? id) := by
  cases hnext : (book.evaluate registry code context).1.plans.get? id with
  | none =>
    have hkeys : id ∉ book.plans.entries.map Prod.fst := by
      rw [← evaluatePlans_keys registry code context]
      exact Dict.lookup_eq_none.mp hnext
    rw [show book.plans.get? id = none from Dict.lookup_eq_none.mpr hkeys]
    exact .same _ _
  | some next =>
    obtain ⟨plan, hplan, rfl | rfl⟩ := evaluatePlans_lookup registry code context hnext
    · rw [show book.plans.get? id = some next from hplan]
      exact .same _ _
    · rw [show book.plans.get? id = some plan from hplan]
      exact .evaluated plan code context

theorem markIntent_plan (decision : ExitDecision) (intentId id : String) :
    PlanStep registry id (.markIntent decision intentId) (book.plans.get? id)
      ((book.orElse (book.markIntent decision intentId)).plans.get? id) := by
  unfold markIntent
  cases hget : book.plans.get? decision.planId with
  | none => exact .same _ _
  | some plan =>
    cases hmark : plan.markIntent decision intentId with
    | error e =>
      simp only [hmark, Except.map, orElse]
      exact .same _ _
    | ok next =>
      have hid : next.planId = decision.planId := by
        rw [planId, (markIntent_sameEntry hmark).template]
        exact book.keyed hget
      simp only [hmark, Except.map, orElse]
      exact put_plan hid (hget ▸ .marked decision intentId rfl hmark) id

theorem onPlan_plan {target : String} {op : ExitOp} {f : ExitPlan → ExitPlan}
    (hf : ∀ plan, (f plan).template = plan.template)
    (h : ∀ plan, PlanStep registry target op (some plan) (some (f plan))) (id : String) :
    PlanStep registry id op (book.plans.get? id) ((book.onPlan target f hf).plans.get? id) := by
  rw [get?_onPlan]
  split
  · rename_i heq
    subst heq
    cases book.plans.get? target with
    | none => exact .same _ _
    | some plan => exact h plan
  · exact .same _ _

theorem evaluatePlans_decided (code : String) (context : ExitEvaluationContext) :
    ∀ {l : List (String × ExitPlan)} {decision : ExitDecision},
      decision ∈ decisionsOf (evaluatePlans registry code context l).2 →
      ∃ e ∈ l, e.2.template.instrumentCode = code ∧ (e.2.evaluate registry context).2 = .ok (some decision)
  | [], decision, h => by cases h
  | (key, plan) :: rest, decision, h => by
    have ih := @evaluatePlans_decided code context rest decision
    have later : decision ∈ decisionsOf (evaluatePlans registry code context rest).2 →
        ∃ e ∈ (key, plan) :: rest, e.2.template.instrumentCode = code ∧
          (e.2.evaluate registry context).2 = .ok (some decision) := fun h => by
      obtain ⟨e, he, hd⟩ := ih h
      exact ⟨e, List.mem_cons_of_mem _ he, hd⟩
    unfold evaluatePlans at h
    split at h
    · exact later h
    · rename_i hcode
      split at h
      · cases h
      · rename_i found heq
        cases hrest : (evaluatePlans registry code context rest).2 with
        | error e =>
          simp only [hrest, Except.map, decisionsOf] at h
          cases h
        | ok decisions =>
          simp only [hrest, Except.map, decisionsOf, List.mem_append, Option.mem_toList] at h
          rcases h with h | h
          · exact ⟨(key, plan), List.mem_cons_self, not_not.mp hcode, by rw [heq, h]⟩
          · exact later (by rw [hrest]; exact h)

theorem evaluate_plan_of_decision {code : String} {decision : ExitDecision}
    (h : decision ∈ decisionsOf (book.evaluate registry code context).2) :
    ∃ plan, book.plans.get? decision.planId = some plan ∧ (plan.evaluate registry context).2 = .ok (some decision) := by
  have hmem : decision ∈ decisionsOf (evaluatePlans registry code context book.plans.entries).2 := by
    unfold evaluate at h
    simp only at h
    cases hresult : (evaluatePlans registry code context book.plans.entries).2 with
    | error e =>
      rw [hresult] at h
      cases h
    | ok decisions =>
      rw [hresult] at h
      simp only [Except.map, decisionsOf, List.mem_insertionSort] at h
      exact h
  obtain ⟨⟨key, plan⟩, he, _, hd⟩ := evaluatePlans_decided code context hmem
  have hget := Dict.mem_entries.mp he
  rw [((evaluate_spec registry plan context).2 decision hd).planId, book.keyed hget]
  exact ⟨plan, hget, hd⟩

theorem evaluate_decided {code : String} {decision : ExitDecision}
    (h : decision ∈ decisionsOf (book.evaluate registry code context).2) :
    ∃ plan, book.plans.get? decision.planId = some plan ∧ Decided plan decision := by
  obtain ⟨plan, hplan, hdecision⟩ := evaluate_plan_of_decision h
  exact ⟨plan, hplan, (evaluate_spec registry plan context).2 decision hdecision⟩

end ExitPlanBook

theorem ExitRun.step_plan (registry : ExitStrategyRegistry) (s : ExitRun) (op : ExitOp) (id : String) :
    PlanStep registry id op (s.book.plans.get? id) ((s.step registry op).book.plans.get? id) := by
  cases op with
  | registerEntryFill template volume price time =>
    obtain ⟨next, hok, hid, h⟩ := @ExitPlanBook.registerEntryFill_put registry s.book template volume price time
    show PlanStep registry id _ _ ((s.book.orElse _).plans.get? id)
    rw [hok]
    exact ExitPlanBook.put_plan hid h id
  | applyCommand command => exact ExitPlanBook.applyCommand_plan command id
  | evaluate code context => exact ExitPlanBook.evaluate_plan code context id
  | markIntent decision intentId => exact ExitPlanBook.markIntent_plan decision intentId id
  | applyOrderEvent event =>
    exact ExitPlanBook.onPlan_plan (fun plan => (plan.applyOrderEvent_sameEntry event).template)
      (fun plan => .ordered plan event rfl) id
  | applyExitFill fill =>
    exact ExitPlanBook.onPlan_plan (fun plan => (plan.applyExitFill_sameEntry fill).template)
      (fun plan => .filled plan fill rfl) id

/-- What a step does to the pending part of plan `p`: only the plan's own marks, order reports and executions touch it.
    -/
inductive PendingStep (p : String) (before after : ExitPlanBook) : ExitOp → Prop
  | same (op : ExitOp) (h : after.pending p = before.pending p) (entered : before.entered p ≤ after.entered p) :
      PendingStep p before after op
  | marked {plan next : ExitPlan} (d : ExitDecision) (i : String) (own : d.planId = p)
      (hplan : before.plans.get? p = some plan) (hnext : after.plans.get? p = some next)
      (h : plan.markIntent d i = .ok next) : PendingStep p before after (.markIntent d i)
  | ordered {plan next : ExitPlan} (e : OrderEvent) (own : e.planId = p) (hplan : before.plans.get? p = some plan)
      (hnext : after.plans.get? p = some next) (position : SameEntry plan next) (h : OrderEffect plan e next) :
      PendingStep p before after (.applyOrderEvent e)
  | filled {plan next : ExitPlan} (f : ExitFill) (own : f.planId = p) (hplan : before.plans.get? p = some plan)
      (hnext : after.plans.get? p = some next) (position : SameEntry plan next) (h : FillEffect plan f next) :
      PendingStep p before after (.applyExitFill f)

theorem ExitPlan.registerEntryFill_entered (plan : ExitPlan) (volume : Int) (price : Rat) (time : Option DateTime) :
    plan.entryFilledVolume ≤ (plan.registerEntryFill volume price time).entryFilledVolume := by
  unfold ExitPlan.registerEntryFill
  split
  · exact le_refl _
  · rename_i hvolume
    push Not at hvolume
    have hgrow : plan.entryFilledVolume ≤ plan.entryFilledVolume + volume := by omega
    split
    · exact hgrow
    · split <;> exact hgrow

theorem ExitPlan.applyTemplate_entered {plan next : ExitPlan} {template : ExitPlanTemplate}
    (h : plan.applyTemplate template = .ok next) : next.entryFilledVolume = plan.entryFilledVolume := by
  unfold ExitPlan.applyTemplate at h
  split at h
  · cases h
  · cases h
    rfl

theorem ExitRun.step_pending (registry : ExitStrategyRegistry) (s : ExitRun) (op : ExitOp) (p : String) :
    PendingStep p s.book (s.step registry op).book op := by
  have hstep := s.step_plan registry op p
  generalize hplan : s.book.plans.get? p = stored at hstep
  generalize hnext : (s.step registry op).book.plans.get? p = stored' at hstep
  have keep : ∀ {plan next : ExitPlan}, stored = some plan → stored' = some next → SamePending plan next →
      plan.entryFilledVolume ≤ next.entryFilledVolume → PendingStep p s.book (s.step registry op).book op := by
    rintro plan next rfl rfl hsame hentry
    refine .same op ?_ ?_
    · rw [ExitPlanBook.pending_of_get? hplan, ExitPlanBook.pending_of_get? hnext]
      exact hsame
    · rw [ExitPlanBook.entered_of_get? hplan, ExitPlanBook.entered_of_get? hnext]
      exact hentry
  cases hstep with
  | same =>
    refine .same op ?_ ?_
    · unfold ExitPlanBook.pending
      rw [hplan, hnext]
    · unfold ExitPlanBook.entered
      rw [hplan, hnext]
  | created template volume price time _ =>
    refine .same _ ?_ ?_
    · rw [ExitPlanBook.pending_of_get? hnext]
      unfold ExitPlanBook.pending
      rw [hplan]
      exact SamePending.registerEntryFill { template := template } volume price time
    · rw [ExitPlanBook.entered_of_get? hnext]
      unfold ExitPlanBook.entered
      rw [hplan]
      exact registerEntryFill_entered { template := template } volume price time
  | entryFill template volume price time _ hcurrent =>
    rcases hcurrent with rfl | happly
    · exact keep rfl rfl (.registerEntryFill _ _ _ _) (registerEntryFill_entered _ _ _ _)
    · refine keep rfl rfl ((SamePending.applyTemplate happly).trans (.registerEntryFill _ _ _ _)) ?_
      rw [← applyTemplate_entered happly]
      exact registerEntryFill_entered _ _ _ _
  | upserted _ _ _ _ _ happly => exact keep rfl rfl (.applyTemplate happly) (applyTemplate_entered happly).ge
  | paused => exact keep rfl rfl rfl (le_refl _)
  | resumed => exact keep rfl rfl rfl (le_refl _)
  | cancelled => exact keep rfl rfl rfl (le_refl _)
  | evaluated plan code context =>
    have hobserved := (evaluate_spec registry plan context).1
    exact keep rfl rfl hobserved.pending hobserved.position.entry.ge
  | marked d i own h => exact .marked d i own hplan hnext h
  | ordered plan event own =>
    exact .ordered event own hplan hnext (applyOrderEvent_sameEntry plan event) (applyOrderEvent_effect plan event)
  | filled plan fill own =>
    exact .filled fill own hplan hnext (applyExitFill_sameEntry plan fill) (applyExitFill_effect plan fill)

def ExitPlanBook.Offers (book : ExitPlanBook) (decision : ExitDecision) : Prop :=
  ∃ plan, book.plans.get? decision.planId = some plan ∧ Decided plan decision

theorem ExitPlan.Decided.observed {plan next : ExitPlan} {decision : ExitDecision} (h : Decided plan decision)
    (hn : Observed plan next) : Decided next decision where
  planId := by rw [h.planId, ExitPlan.planId, ExitPlan.planId, hn.position.template]
  status := by rw [hn.status]; exact h.status
  intent := hn.pending.intent.trans h.intent
  remaining := by rw [hn.remaining]; exact h.remaining
  volume_pos := h.volume_pos
  volume_le := by rw [hn.remaining]; exact h.volume_le

theorem ExitPlanBook.evaluate_offers {registry : ExitStrategyRegistry} {book : ExitPlanBook} {code : String}
    {context : ExitEvaluationContext} {decision : ExitDecision}
    (h : decision ∈ decisionsOf (book.evaluate registry code context).2) :
    (book.evaluate registry code context).1.Offers decision := by
  obtain ⟨plan, hplan, hdecided⟩ := evaluate_decided h
  have hstep := @evaluate_plan registry book code context decision.planId
  rw [hplan] at hstep
  generalize hnext : (book.evaluate registry code context).1.plans.get? decision.planId = stored at hstep
  cases hstep with
  | same => exact ⟨plan, hnext, hdecided⟩
  | evaluated => exact ⟨_, hnext, hdecided.observed (evaluate_spec registry plan context).1⟩

/-- A decision on offer was made by this step, or it was on offer before and its plan is as it was. -/
theorem ExitRun.step_offered (registry : ExitStrategyRegistry) (s : ExitRun) (op : ExitOp) : ∀ d ∈ (s.step registry op).offered,
    (∃ code context, op = .evaluate code context) ∨
      d ∈ s.offered ∧ (s.step registry op).book.plans.get? d.planId = s.book.plans.get? d.planId := by
  intro d hd
  cases op with
  | evaluate code context => exact .inl ⟨code, context, rfl⟩
  | markIntent decision intentId =>
    obtain ⟨hmem, hother⟩ := List.mem_filter.mp hd
    have hne : d.planId ≠ decision.planId := of_decide_eq_true hother
    refine .inr ⟨hmem, ?_⟩
    have hstep := s.step_plan registry (.markIntent decision intentId) d.planId
    generalize (s.step registry (.markIntent decision intentId)).book.plans.get? d.planId = after at hstep ⊢
    generalize s.book.plans.get? d.planId = stored at hstep ⊢
    cases hstep with
    | same => rfl
    | marked _ _ own => exact absurd own.symm hne
  | registerEntryFill => cases hd
  | applyCommand => cases hd
  | applyOrderEvent => cases hd
  | applyExitFill => cases hd

theorem ExitRun.step_offers (registry : ExitStrategyRegistry) {s : ExitRun} {op : ExitOp}
    (h : ∀ d ∈ s.offered, s.book.Offers d) : ∀ d ∈ (s.step registry op).offered, (s.step registry op).book.Offers d := by
  intro d hd
  rcases s.step_offered registry op d hd with ⟨code, context, rfl⟩ | ⟨hmem, hsame⟩
  · exact ExitPlanBook.evaluate_offers hd
  · obtain ⟨plan, hplan, hdecided⟩ := h d hmem
    exact ⟨plan, hsame.trans hplan, hdecided⟩

def manualRegistry : ExitStrategyRegistry := ExitStrategyRegistry.empty.register "MANUAL_TRIGGER" manualTrigger

def manualExitRule : ExitRuleSpec := { strategy := "MANUAL_TRIGGER", ruleId := "rule" }

def manualTemplate : ExitPlanTemplate where
  planId := "plan"
  sourceType := "MANUAL"
  sourceId := "source"
  accountId := "account"
  instrumentCode := "600000.SH"
  bucket := "SWING"
  rules := [manualExitRule]
  identified := by decide
  rules_ne := List.cons_ne_nil _ _

def morningContext : ExitEvaluationContext where
  timestamp := ⟨"2024-01-02T10:00:00", "2024-01-02", 36000000000, 1704160800000⟩
  currentPrice := 10

def heldRun : ExitRun := ({} : ExitRun).step manualRegistry (.registerEntryFill manualTemplate 100 10 none)

def offeredRun : ExitRun := heldRun.step manualRegistry (.evaluate "600000.SH" morningContext)

theorem offeredRun_ne : offeredRun.offered ≠ [] := by decide +kernel

def manualDecision : ExitDecision := offeredRun.offered.head offeredRun_ne

theorem manualDecision_planId : manualDecision.planId = "plan" := by decide +kernel

/-- The decision marked as intent `i`. -/
def markedRun (i : String) : ExitRun := offeredRun.step manualRegistry (.markIntent manualDecision i)

end QuantX
