import QuantX.Strategies.ManagedExitPlan
import QuantX.Theorems.ExitPlan.Snapshot
import QuantX.Theorems.ExitPlan.Sticky

namespace QuantX.Reconcile
open Lib ExitPlan

/-- Operations of a book, restarts from its snapshot, and steps of the managed strategy. -/
inductive ManagedOp where
  | book (op : ExitOp)
  | restart (uuid4 : String → Nat → String)
  | step (uuid4 : Nat → String) (parameters : ManagedExitParameters) (input : ManagedExitInput)

def next (registry : ExitStrategyRegistry) (s : ExitRun) : ManagedOp → ExitRun
  | .book op => s.step registry op
  | .restart uuid4 => { book := s.book.orElse (ExitPlanBook.fromDict uuid4 (.dict s.book.toDict)) }
  | .step uuid4 parameters input => { book := (s.book.managedStep registry uuid4 parameters input).1 }

def decisions (registry : ExitStrategyRegistry) (s : ExitRun) : ManagedOp → List ExitDecision
  | .book (.evaluate code context) => decisionsOf (s.book.evaluate registry code context).2
  | .step uuid4 parameters input => (s.book.managedStep registry uuid4 parameters input).2.toList
  | _ => []

def Unmarked (p : String) : ManagedOp → Prop
  | .book (.markIntent d _) => d.planId ≠ p
  | _ => True

/-- The operation writes over the status of plan `p`: PAUSE or CANCEL of it, or a step of its strategy with
    the switch off. -/
def Overwrites (p : String) : ManagedOp → Prop
  | .book (.applyCommand command) => command.planId = p ∧ (command.command = .pause ∨ command.command = .cancel)
  | .step _ parameters _ => parameters.template.planId = p ∧ parameters.exitPlanEnabled = false
  | _ => False

/-- Plan `p` is in the book under a sticky error. -/
def StickyAt (p : String) (s : ExitRun) : Prop := ∃ plan, s.book.plans.get? p = some plan ∧ Sticky plan

section Steps
variable {registry : ExitStrategyRegistry} {p : String} {s : ExitRun}
variable {parameters : ManagedExitParameters} {uuid4 : Nat → String} {input : ManagedExitInput} {d : Option ExitDecision}

theorem book_sticky {op : ExitOp} (h : StickyAt p s) (hmark : Unmarked p (.book op)) (hno : ¬Overwrites p (.book op)) :
    StickyAt p (s.step registry op) := by
  obtain ⟨plan, hplan, hsticky⟩ := h
  have hstep := s.step_plan registry op p
  rw [hplan] at hstep
  generalize hnext : (s.step registry op).book.plans.get? p = stored at hstep
  cases hstep with
  | same => exact ⟨plan, hnext, hsticky⟩
  | entryFill template volume price time _ hcurrent =>
    rcases hcurrent with rfl | happly
    · exact ⟨_, hnext, hsticky.registerEntryFill volume price time⟩
    · exact ⟨_, hnext, (hsticky.applyTemplate happly).registerEntryFill volume price time⟩
  | upserted _ _ _ _ _ happly => exact ⟨_, hnext, hsticky.applyTemplate happly⟩
  | paused _ _ own kind => exact absurd ⟨own, Or.inl kind⟩ hno
  | resumed _ _ _ sound => exact absurd sound (sticky_iff.mp hsticky)
  | cancelled _ _ own kind => exact absurd ⟨own, Or.inr kind⟩ hno
  | evaluated _ code context => exact ⟨_, hnext, hsticky.observed (evaluate_spec registry plan context).1⟩
  | marked d i own => exact absurd own hmark
  | ordered _ event own => exact ⟨_, hnext, hsticky.applyOrderEvent event⟩
  | filled _ fill own => exact ⟨_, hnext, hsticky.applyExitFill fill⟩

theorem restart_sticky (uuid4 : String → Nat → String) (h : StickyAt p s) : StickyAt p (next registry s (.restart uuid4)) := by
  obtain ⟨plan, hplan, hsticky⟩ := h
  obtain ⟨book, hread, hget⟩ := ExitPlanBook.fromDict_toDict uuid4 s.book
  refine ⟨plan.reloaded (uuid4 p), ?_, hsticky⟩
  show (s.book.orElse (ExitPlanBook.fromDict uuid4 (.dict s.book.toDict))).plans.get? p = _
  rw [hread]
  show book.plans.get? p = _
  rw [hget, hplan]
  rfl

/-- A step of the strategy on a sticky plan with the switch on writes the plan back and returns no decision. -/
theorem step_on_sticky
    {plan : ExitPlan} (hsticky : Sticky plan) {snapshot : ManagedExitPlan.Snapshot}
    (hon : parameters.exitPlanEnabled = true)
    (h : ManagedExitPlan.step registry uuid4 parameters input plan.toDict = .ok (snapshot, d)) :
    d = none ∧ ∃ saved, Sticky saved ∧ saved.planId = plan.planId ∧ snapshot = saved.toDict := by
  have hne : plan.toDict.isEmpty = false := rfl
  have hloaded : Sticky (plan.reloaded uuid4) := hsticky
  have hswitch : ManagedExitPlan.switchOn (plan.reloaded uuid4) = plan.reloaded uuid4 := by
    refine if_neg fun hc => ?_
    rw [hloaded.1] at hc
    cases hc.1
  have hkept : ∃ saved, Sticky saved ∧ saved.planId = plan.planId ∧
      ManagedExitPlan.evaluatePlan registry (plan.reloaded uuid4) input = (saved, .ok none) := by
    unfold ManagedExitPlan.evaluatePlan
    split
    · exact ⟨_, hloaded, rfl, rfl⟩
    · refine ⟨plan.reloaded uuid4, hloaded, rfl, ?_⟩
      unfold evaluate
      rw [if_pos]
      rw [hloaded.1]
      exact ⟨by decide, by decide⟩
  obtain ⟨saved, hsaved, hid, heval⟩ := hkept
  unfold ManagedExitPlan.step at h
  split at h
  · cases h
    exact ⟨rfl, plan, hsticky, rfl, rfl⟩
  · split at h
    · cases h
      exact ⟨rfl, plan, hsticky, rfl, rfl⟩
    · simp only [ManagedExitPlan.planFromInput, hne, Bool.false_eq_true, ↓reduceIte, ExitPlan.fromDict_toDict, bind,
        Except.bind, hswitch, heval] at h
      split at h
      · cases h
      · cases h
        exact ⟨rfl, saved, hsaved, hid, rfl⟩

theorem step_off
    {snapshot snapshot' : ManagedExitPlan.Snapshot} (hoff : parameters.exitPlanEnabled = false)
    (h : ManagedExitPlan.step registry uuid4 parameters input snapshot = .ok (snapshot', d)) : d = none := by
  unfold ManagedExitPlan.step at h
  split at h
  · cases h
    rfl
  · split at h
    · cases h
      rfl
    · simp only [bind, Except.bind, hoff, Bool.false_eq_true, not_false_eq_true, ↓reduceIte] at h
      split at h
      · cases h
      · cases h
        rfl

theorem newPlan_planId (parameters : ManagedExitParameters) :
    (ManagedExitPlan.newPlan parameters).planId = parameters.template.planId := by
  unfold ManagedExitPlan.newPlan
  simp only
  split
  · rw [planId, registerEntryFill_template]
  · show (ExitPlan.registerEntryFill _ _ _ _).template.planId = _
    rw [registerEntryFill_template]

theorem planFromInput_planId {book : ExitPlanBook}
    {plan : ExitPlan} (h : ManagedExitPlan.planFromInput uuid4 parameters (book.snapshotOf parameters.template.planId) =
      .ok plan) : plan.planId = parameters.template.planId := by
  unfold ManagedExitPlan.planFromInput ExitPlanBook.snapshotOf at h
  cases hget : book.plans.get? parameters.template.planId with
  | none =>
    rw [hget] at h
    cases h
    exact newPlan_planId parameters
  | some stored =>
    rw [hget] at h
    simp only [show stored.toDict.isEmpty = false from rfl, Bool.false_eq_true, ↓reduceIte,
      ExitPlan.fromDict_toDict] at h
    cases h
    rw [ExitPlan.reloaded_planId]
    exact book.keyed hget

theorem evaluatePlan_planId (plan : ExitPlan) (input : ManagedExitInput) :
    (ManagedExitPlan.evaluatePlan registry plan input).1.planId = plan.planId := by
  unfold ManagedExitPlan.evaluatePlan
  split
  · rfl
  · rw [planId, evaluate_template]
    rfl

theorem switchOff_planId (plan : ExitPlan) : (ManagedExitPlan.switchOff plan).planId = plan.planId := by
  unfold ManagedExitPlan.switchOff
  split <;> rfl

theorem switchOn_planId (plan : ExitPlan) : (ManagedExitPlan.switchOn plan).planId = plan.planId := by
  unfold ManagedExitPlan.switchOn
  split <;> rfl

theorem step_saved
    {book : ExitPlanBook} {snapshot : ManagedExitPlan.Snapshot}
    (h : ManagedExitPlan.step registry uuid4 parameters input (book.snapshotOf parameters.template.planId) =
      .ok (snapshot, d)) :
    (snapshot = [] ∨ ∃ saved : ExitPlan, snapshot = saved.toDict ∧ saved.planId = parameters.template.planId) ∧
      ∀ decision, d = some decision → decision.planId = parameters.template.planId := by
  have hkept : book.snapshotOf parameters.template.planId = [] ∨ ∃ saved : ExitPlan,
      book.snapshotOf parameters.template.planId = saved.toDict ∧ saved.planId = parameters.template.planId := by
    unfold ExitPlanBook.snapshotOf
    cases hget : book.plans.get? parameters.template.planId with
    | none => exact Or.inl rfl
    | some stored => exact Or.inr ⟨stored, rfl, book.keyed hget⟩
  unfold ManagedExitPlan.step at h
  split at h
  · cases h
    exact ⟨hkept, fun _ hd => by cases hd⟩
  split at h
  · cases h
    exact ⟨hkept, fun _ hd => by cases hd⟩
  cases hload : ManagedExitPlan.planFromInput uuid4 parameters (book.snapshotOf parameters.template.planId) with
  | error e =>
    rw [hload] at h
    cases h
  | ok plan =>
    have hplan := planFromInput_planId hload
    rw [hload] at h
    simp only [bind, Except.bind] at h
    split at h
    · cases h
      exact ⟨Or.inr ⟨_, rfl, (switchOff_planId plan).trans hplan⟩, fun _ hd => by cases hd⟩
    split at h
    · cases h
    have heval : (ManagedExitPlan.evaluatePlan registry (ManagedExitPlan.switchOn plan) input).1.planId =
        parameters.template.planId := ((evaluatePlan_planId _ input).trans (switchOn_planId plan)).trans hplan
    split at h
    · cases h
    · rename_i found hfound
      split at h
      · cases h
        exact ⟨Or.inr ⟨_, rfl, heval⟩, fun _ hd => by cases hd⟩
      · rename_i decision
        split at h
        · cases h
        · rename_i marked hmarked
          cases h
          refine ⟨Or.inr ⟨marked, rfl, ?_⟩, fun other hd => ?_⟩
          · rw [planId, (markIntent_sameEntry hmarked).template]
            exact heval
          · cases hd
            unfold ManagedExitPlan.evaluatePlan at hfound
            split at hfound
            · cases hfound
            · rw [((evaluate_spec registry _ input.context).2 _ hfound).planId]
              exact (switchOn_planId plan).trans hplan

theorem managedStep_other
    (hother : parameters.template.planId ≠ p) :
    (s.book.managedStep registry uuid4 parameters input).1.plans.get? p = s.book.plans.get? p ∧
      ∀ d ∈ (s.book.managedStep registry uuid4 parameters input).2.toList, d.planId ≠ p := by
  unfold ExitPlanBook.managedStep
  cases hstep : ManagedExitPlan.step registry uuid4 parameters input (s.book.snapshotOf parameters.template.planId) with
  | error e => exact ⟨rfl, fun _ hd => by cases hd⟩
  | ok result =>
    obtain ⟨snapshot, d⟩ := result
    obtain ⟨hsaved, hdecision⟩ := step_saved hstep
    have hd : ∀ decision ∈ d.toList, decision.planId ≠ p := fun decision hmem => by
      rw [hdecision decision (Option.mem_toList.mp hmem)]
      exact hother
    simp only
    rcases hsaved with rfl | ⟨saved, rfl, hid⟩
    · exact ⟨rfl, hd⟩
    · rw [ExitPlan.fromDict_toDict]
      refine ⟨?_, hd⟩
      rw [ExitPlanBook.get?_put, if_neg]
      exact fun heq => hother (hid.symm.trans heq)

theorem managedStep_on
    (h : StickyAt p s) (hid : parameters.template.planId = p) (hon : parameters.exitPlanEnabled = true) :
    StickyAt p { book := (s.book.managedStep registry uuid4 parameters input).1 } ∧
      (s.book.managedStep registry uuid4 parameters input).2 = none := by
  obtain ⟨plan, hplan, hsticky⟩ := h
  have hsnapshot : s.book.snapshotOf parameters.template.planId = plan.toDict := by
    unfold ExitPlanBook.snapshotOf
    rw [hid, hplan]
  unfold ExitPlanBook.managedStep
  rw [hsnapshot]
  cases hstep : ManagedExitPlan.step registry uuid4 parameters input plan.toDict with
  | error e => exact ⟨⟨plan, hplan, hsticky⟩, rfl⟩
  | ok result =>
    obtain ⟨snapshot, d⟩ := result
    obtain ⟨rfl, saved, hsaved, hsavedId, rfl⟩ := step_on_sticky hsticky hon hstep
    simp only
    rw [ExitPlan.fromDict_toDict]
    refine ⟨⟨saved.reloaded uuid4, ?_, hsaved⟩, rfl⟩
    rw [ExitPlanBook.get?_put, if_pos]
    exact hsavedId.trans (s.book.keyed hplan)

theorem managedStep_off
    (hoff : parameters.exitPlanEnabled = false) : (s.book.managedStep registry uuid4 parameters input).2 = none := by
  unfold ExitPlanBook.managedStep
  cases hstep : ManagedExitPlan.step registry uuid4 parameters input (s.book.snapshotOf parameters.template.planId) with
  | error e => rfl
  | ok result =>
    obtain ⟨snapshot, found⟩ := result
    obtain rfl := step_off hoff hstep
    simp only
    split <;> rfl

theorem next_sticky {op : ManagedOp} (h : StickyAt p s) (hmark : Unmarked p op) (hno : ¬Overwrites p op) :
    StickyAt p (next registry s op) := by
  cases op with
  | book op => exact book_sticky h hmark hno
  | restart uuid4 => exact restart_sticky uuid4 h
  | step uuid4 parameters input =>
    by_cases hid : parameters.template.planId = p
    · have hon : parameters.exitPlanEnabled = true := by
        by_contra hoff
        exact hno ⟨hid, Bool.not_eq_true _ ▸ hoff⟩
      exact (managedStep_on h hid hon).1
    · obtain ⟨plan, hplan, hsticky⟩ := h
      exact ⟨plan, (managedStep_other hid).1.trans hplan, hsticky⟩

theorem sticky_decides_nothing {op : ManagedOp} (h : StickyAt p s) : ∀ d ∈ decisions registry s op, d.planId ≠ p := by
  intro d hd
  cases op with
  | book op =>
    cases op with
    | evaluate code context =>
      rintro rfl
      obtain ⟨plan, hplan, hsticky⟩ := h
      obtain ⟨found, hfound, hdecided⟩ := ExitPlanBook.evaluate_decided hd
      obtain rfl : plan = found := Option.some.inj (hplan.symm.trans hfound)
      have hstatus := hdecided.status
      rw [hsticky.1] at hstatus
      rcases hstatus with hstatus | hstatus <;> cases hstatus
    | _ => cases hd
  | restart uuid4 => cases hd
  | step uuid4 parameters input =>
    replace hd : d ∈ (s.book.managedStep registry uuid4 parameters input).2.toList := hd
    by_cases hid : parameters.template.planId = p
    · have hnone : (s.book.managedStep registry uuid4 parameters input).2 = none := by
        cases hon : parameters.exitPlanEnabled with
        | true => exact (managedStep_on h hid hon).2
        | false => exact managedStep_off hon
      rw [hnone] at hd
      cases hd
    · exact (managedStep_other hid).2 d hd

/-- As long as nothing writes over the status of a sticky plan, no operation returns a decision for it. -/
theorem sticky_plan_never_sold {log : List (Moment ExitRun ManagedOp)}
    (h : Run (StickyAt p) (next registry) (fun _ _ op => Unmarked p op ∧ ¬Overwrites p op) log s) (op : ManagedOp) :
    ∀ d ∈ decisions registry s op, d.planId ≠ p := by
  have hsticky : StickyAt p s :=
    Run.invariant (fun _ s => StickyAt p s) (fun _ hs => hs) (fun _ _ _ hs hop => next_sticky hs hop.1 hop.2) h
  exact sticky_decides_nothing hsticky

end Steps

def ghostReport : OrderEvent := { planId := "plan", intentId := "ghost", status := .filled }

def burnedRun : ExitRun := heldRun.step manualRegistry (.applyOrderEvent ghostReport)

theorem burnedRun_sticky : StickyAt "plan" burnedRun := by
  have hplan : (burnedRun.book.plans.get? "plan").any
      (fun plan => decide (plan.status = .error) && isStickyError plan.errorMessage) = true := by decide +kernel
  cases hget : burnedRun.book.plans.get? "plan" with
  | none =>
    rw [hget] at hplan
    cases hplan
  | some plan =>
    rw [hget] at hplan
    have hboth : decide (plan.status = .error) = true ∧ isStickyError plan.errorMessage = true :=
      Bool.and_eq_true_iff.mp hplan
    exact ⟨plan, hget, of_decide_eq_true hboth.1, hboth.2⟩

def enabledStep : ManagedOp :=
  .step (fun _ => "uuid") { template := manualTemplate, exitPlanEnabled := true }
    { inputId := "input", instrumentCode := "600000.SH", cadence := .tick, context := morningContext }

theorem burned_plan_never_sold :
    ¬Overwrites "plan" enabledStep ∧
      ∀ d ∈ decisions manualRegistry (next manualRegistry burnedRun enabledStep) enabledStep, d.planId ≠ "plan" := by
  have hno : ¬Overwrites "plan" enabledStep := fun h => by cases h.2
  exact ⟨hno, sticky_plan_never_sold (.step (.start burnedRun_sticky) enabledStep ⟨trivial, hno⟩) _⟩

def pauseOp : ManagedOp := .book (.applyCommand { command := .pause, planId := "plan" })
def resumeOp : ManagedOp := .book (.applyCommand { command := .resume, planId := "plan" })
def evaluateOp : ManagedOp := .book (.evaluate "600000.SH" morningContext)

def resumedRun : ExitRun := next manualRegistry (next manualRegistry burnedRun pauseOp) resumeOp

theorem resumedRun_decides : decisions manualRegistry resumedRun evaluateOp ≠ [] := by decide +kernel

theorem sticky_plan_sold_after_pause :
    ¬∀ (registry : ExitStrategyRegistry) (p : String) (log : List (Moment ExitRun ManagedOp)) (s : ExitRun),
      Run (StickyAt p) (next registry) (fun _ _ op => Unmarked p op) log s →
      ∀ op, ∀ d ∈ decisions registry s op, d.planId ≠ p := by
  intro hclaim
  have hstart : Run (StickyAt "plan") (next manualRegistry) (fun _ _ op => Unmarked "plan" op) [] burnedRun :=
    .start burnedRun_sticky
  have hrun := (hstart.step pauseOp trivial).step resumeOp trivial
  refine hclaim manualRegistry "plan" _ _ hrun evaluateOp _ (List.head_mem resumedRun_decides) ?_
  decide +kernel

end QuantX.Reconcile
