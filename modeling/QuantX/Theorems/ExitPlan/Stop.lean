import QuantX.Theorems.ExitPlan.Sticky

/-! Reports after an operator's stop. PAUSE and CANCEL only write the status, and a report that drains afterwards may
    open the gate of the stopped plan. -/

namespace QuantX.ExitPlan
variable {plan : ExitPlan}
open Lib

def GateOpen (plan : ExitPlan) : Prop :=
  (plan.status = .active ∨ plan.status = .partiallyExited) ∧ plan.pendingIntentId = "" ∧ 0 < plan.remainingVolume

/-- The order report ends the pending intent of a sound plan that has volume left: by a zero-fill proof, or by
    announcing exactly the positive volume executed. -/
def OrderRearms (plan : ExitPlan) (e : OrderEvent) : Prop :=
  plan.pendingIntentId ≠ "" ∧ e.intentId = plan.pendingIntentId ∧ ¬Sticky plan ∧ 0 < plan.remainingVolume ∧
    (e.status = .reconciledZeroFill ∨
      e.status.terminal = true ∧ ¬(e.status = .filled ∧ plan.lateAfterZeroFill e.intentId = true) ∧
        ∃ target, optionalNonNegativeInt e.cumulativeFilledVolume = some target ∧ 0 < target ∧
          plan.pendingFilledVolume = target ∧
          ∀ previous, plan.pendingTerminalCumulativeFill = some previous → previous ≤ target)

/-- The execution leaves volume on a sound plan and either has no intent on an idle plan or reaches the announced
    cumulative fill of the pending intent. -/
def FillRearms (plan : ExitPlan) (f : ExitFill) : Prop :=
  0 < f.volume ∧ 0 < f.price ∧ f.volume < plan.remainingVolume ∧ ¬Sticky plan ∧
    plan.lateAfterZeroFill f.intentId = false ∧ f.intentId = plan.pendingIntentId ∧
    (plan.pendingIntentId = "" ∨
      plan.pendingOrderTerminal = true ∧ ∃ target, plan.pendingTerminalCumulativeFill = some target ∧ 0 < target ∧
        plan.pendingFilledVolume + f.volume = target)

theorem Sticky.not_gateOpen (h : Sticky plan) : ¬GateOpen plan := by
  rintro ⟨hstatus, _⟩
  rw [h.1] at hstatus
  rcases hstatus with hstatus | hstatus <;> cases hstatus

theorem not_gateOpen_of_error (h : plan.status = .error) : ¬GateOpen plan := by
  rintro ⟨hstatus, _⟩
  rw [h] at hstatus
  rcases hstatus with hstatus | hstatus <;> cases hstatus

theorem applyOrderEvent_late {e : OrderEvent} (hlate : plan.lateAfterZeroFill e.intentId = true)
    (hwork : e.status.provesWork = true) : (plan.applyOrderEvent e).status = .error := by
  unfold applyOrderEvent
  simp only [hlate, hwork, Bool.true_or, Bool.and_self, ↓reduceIte]
  rfl

theorem order_gate {e : OrderEvent} (h : ¬GateOpen plan) (hno : ¬OrderRearms plan e) :
    ¬GateOpen (plan.applyOrderEvent e) := by
  by_cases hsticky : Sticky plan
  · exact (hsticky.applyOrderEvent e).not_gateOpen
  have hremaining : (plan.applyOrderEvent e).exitedVolume = plan.exitedVolume →
      (plan.applyOrderEvent e).remainingVolume = plan.remainingVolume := fun hexited => by
    unfold remainingVolume
    rw [hexited, (applyOrderEvent_sameEntry plan e).entry]
  cases applyOrderEvent_effect plan e with
  | ignored heq =>
    rw [heq]
    exact h
  | burned message heq =>
    rw [heq]
    exact not_gateOpen_of_error rfl
  | working _ pending hsame => exact fun hopen => pending (hsame.intent.symm.trans hopen.2.1)
  | held _ pending _ hsame => exact fun hopen => pending (hsame.intent.symm.trans hopen.2.1)
  | announced _ _ pending _ _ hsame => exact fun hopen => pending (hsame.intent.symm.trans hopen.2.1)
  | zeroFill own pending zero hcleared =>
    intro hopen
    have hleft := hopen.2.2
    rw [hremaining hcleared.exited] at hleft
    exact hno ⟨pending, own, hsticky, hleft, Or.inl zero⟩
  | converged target own pending terminal found pos reached hcleared =>
    intro hopen
    have hleft := hopen.2.2
    rw [hremaining hcleared.exited] at hleft
    obtain ⟨hcum, _, _, hprevious⟩ := terminalTarget?_eq_some.mp found
    refine hno ⟨pending, own, hsticky, hleft, Or.inr ⟨terminal, ?_, target, hcum, pos, reached, hprevious⟩⟩
    rintro ⟨hfilled, hlate⟩
    exact not_gateOpen_of_error (applyOrderEvent_late hlate (by rw [hfilled]; rfl)) hopen

theorem applyExitFill_late {f : ExitFill} (hsticky : ¬Sticky plan) (hvolume : 0 < f.volume)
    (hprice : 0 < f.price) (happlied : 0 < plan.appliedVolume f) (hlate : plan.lateAfterZeroFill f.intentId = true)
    (own : f.intentId = plan.pendingIntentId) : (plan.applyExitFill f).status = .error := by
  have hnomiss : plan.mismatchesPending f = false := by
    rw [← Bool.not_eq_true, mismatchesPending_iff]
    exact not_not.mpr own
  have herror : plan.lateSafetyError f ≠ "" := by
    unfold lateSafetyError
    rw [if_pos hlate]
    intro hempty
    have hlength := congrArg String.length hempty
    rw [String.length_append] at hlength
    have : "ZERO_FILL_PROOF_INVALIDATED_AFTER_RELEASE:".length = 42 := by decide
    have : "".length = 0 := by decide
    omega
  unfold applyExitFill
  simp only
  rw [if_neg (by push Not; exact ⟨hvolume, hprice⟩), if_neg (not_le.mpr happlied),
    if_neg (fun hne => hsticky (sticky_iff.mpr hne)), if_pos ⟨herror, by rw [hnomiss]; decide⟩]
  rfl

theorem fill_gate {f : ExitFill} (h : ¬GateOpen plan) (hno : ¬FillRearms plan f) :
    ¬GateOpen (plan.applyExitFill f) := by
  by_cases hsticky : Sticky plan
  · exact (hsticky.applyExitFill f).not_gateOpen
  cases applyExitFill_effect plan f with
  | ignored _ heq =>
    rw [heq]
    exact h
  | refused _ message heq =>
    rw [heq]
    exact not_gateOpen_of_error rfl
  | booked hvolume hprice happlied hbooked =>
    intro hopen
    have hleft : (plan.applyExitFill f).exitedVolume = plan.exitedVolume + plan.appliedVolume f →
        f.volume < plan.remainingVolume ∧ plan.appliedVolume f = f.volume := fun hexited => by
      have hpos := hopen.2.2
      unfold remainingVolume at hpos
      rw [hexited, (applyExitFill_sameEntry plan f).entry] at hpos
      unfold appliedVolume remainingVolume at hpos happlied ⊢
      omega
    have hlate : f.intentId = plan.pendingIntentId → plan.lateAfterZeroFill f.intentId = false := fun own => by
      by_contra hlate
      exact not_gateOpen_of_error
        (applyExitFill_late hsticky hvolume hprice happlied (Bool.not_eq_false _ ▸ hlate) own) hopen
    cases hbooked with
    | unmatched _ _ status => exact not_gateOpen_of_error status hopen
    | uncorrelated blank idle hsame =>
      have own := blank.trans idle.symm
      obtain ⟨hlt, _⟩ := hleft (hsame.elim SamePending.exited Cleared.exited)
      exact hno ⟨hvolume, hprice, hlt, hsticky, hlate own, own, Or.inl idle⟩
    | progressed _ pending hsame => exact pending (hsame.intent.symm.trans hopen.2.1)
    | converged target own pending terminal found pos reached hcleared =>
      obtain ⟨hlt, happly⟩ := hleft hcleared.exited
      refine hno ⟨hvolume, hprice, hlt, hsticky, hlate own, own, Or.inr ⟨terminal, target, found, pos, ?_⟩⟩
      rw [← happly, ← reached]
      exact (if_pos (matchesPending_iff.mpr ⟨pending, own⟩)).symm
    | soldOut _ _ _ gone hcleared =>
      have hpos := hopen.2.2
      unfold remainingVolume at hpos gone
      rw [hcleared.exited, (applyExitFill_sameEntry plan f).entry] at hpos
      replace gone : max 0 (plan.entryFilledVolume - (plan.bookExitFill f).exitedVolume) ≤ 0 := gone
      omega

end QuantX.ExitPlan

/-! ### Runs after a stop -/

namespace QuantX.OperatorStop
open Lib ExitPlan

/-- The state right after PAUSE or CANCEL of plan `p`. -/
def Stopped (p : String) (s : ExitRun) : Prop :=
  ∃ before : ExitPlanBook, ∃ command : ExitPlanCommand, (command.command = .pause ∨ command.command = .cancel) ∧
    command.planId = p ∧ before.applyCommand command = .ok s.book

def Drains : ExitOp → Prop
  | .applyOrderEvent _ => True
  | .applyExitFill _ => True
  | .evaluate _ _ => True
  | _ => False

/-- The report rearms plan `p` as the book holds it. -/
def Rearms (p : String) (s : ExitRun) : ExitOp → Prop
  | .applyOrderEvent e => e.planId = p ∧ ∃ plan, s.book.plans.get? p = some plan ∧ OrderRearms plan e
  | .applyExitFill f => f.planId = p ∧ ∃ plan, s.book.plans.get? p = some plan ∧ FillRearms plan f
  | _ => False

def Closed (p : String) (s : ExitRun) : Prop := ∀ plan, s.book.plans.get? p = some plan → ¬GateOpen plan

theorem stopped_closed {p : String} {s : ExitRun} (h : Stopped p s) : Closed p s := by
  obtain ⟨before, command, hkind, rfl, happly⟩ := h
  intro plan hplan
  unfold ExitPlanBook.applyCommand at happly
  cases hget : before.plans.get? command.planId with
  | none =>
    simp only [hget] at happly
    cases happly
    rw [hget] at hplan
    cases hplan
  | some stored =>
    have hid : stored.planId = command.planId := before.keyed hget
    have closed : ∀ next : ExitPlan, before.put next = s.book → next.planId = command.planId →
        (next.status = .paused ∨ next.status = .cancelled) → ¬GateOpen plan := fun next hbook hnext hstatus => by
      rw [← hbook, ExitPlanBook.get?_put, if_pos hnext] at hplan
      cases hplan
      rintro ⟨hopen, _⟩
      rcases hstatus with hstatus | hstatus <;> rw [hstatus] at hopen <;> rcases hopen with hopen | hopen <;> cases hopen
    rcases hkind with hkind | hkind
    · simp only [hget, hkind] at happly
      exact closed _ (Except.ok.inj happly) hid (Or.inl rfl)
    · simp only [hget, hkind] at happly
      exact closed _ (Except.ok.inj happly) hid (Or.inr rfl)

theorem closed_step {registry : ExitStrategyRegistry} {p : String} {s : ExitRun} {op : ExitOp} (h : Closed p s)
    (hdrains : Drains op) (hno : ¬Rearms p s op) : Closed p (s.step registry op) := by
  intro next hnext
  have hstep := s.step_plan registry op p
  rw [hnext] at hstep
  generalize hplan : s.book.plans.get? p = stored at hstep
  cases hstep with
  | same => exact h next hplan
  | evaluated plan code context =>
    have hobserved := (evaluate_spec registry plan context).1
    rintro ⟨hstatus, hidle, hleft⟩
    rw [hobserved.status] at hstatus
    rw [hobserved.remaining] at hleft
    exact h plan hplan ⟨hstatus, hobserved.pending.intent.symm.trans hidle, hleft⟩
  | ordered plan event own => exact order_gate (h plan hplan) fun hrearms => hno ⟨own, plan, hplan, hrearms⟩
  | filled plan fill own => exact fill_gate (h plan hplan) fun hrearms => hno ⟨own, plan, hplan, hrearms⟩
  | _ => cases hdrains

/-- After PAUSE or CANCEL, reports that do not rearm the plan never lead to a decision for it. -/
theorem stopped_plan_never_decides {registry : ExitStrategyRegistry} {p : String} {log : List (Moment ExitRun ExitOp)}
    {s : ExitRun} (h : Run (Stopped p) (ExitRun.step registry) (fun _ s op => Drains op ∧ ¬Rearms p s op) log s)
    (code : String) (context : ExitEvaluationContext) :
    ∀ d ∈ decisionsOf (s.book.evaluate registry code context).2, d.planId ≠ p := by
  have hclosed : Closed p s :=
    Run.invariant (fun _ s => Closed p s) (fun _ hs => stopped_closed hs) (fun _ _ _ hc hop => closed_step hc hop.1 hop.2) h
  rintro d hd rfl
  obtain ⟨plan, hplan, hdecided⟩ := ExitPlanBook.evaluate_decided hd
  exact hclosed plan hplan ⟨hdecided.status, hdecided.intent, hdecided.remaining⟩

def pauseCommand : ExitPlanCommand := { command := .pause, planId := "plan" }

def pausedRun : ExitRun := heldRun.step manualRegistry (.applyCommand pauseCommand)

theorem pausedRun_stopped : Stopped "plan" pausedRun := ⟨heldRun.book, pauseCommand, Or.inl rfl, rfl, rfl⟩

def foreignReport : OrderEvent := { planId := "plan", intentId := "other", status := .cancelled }

theorem paused_plan_never_decides :
    ¬Rearms "plan" pausedRun (.applyOrderEvent foreignReport) ∧
      ∀ d ∈ decisionsOf ((pausedRun.step manualRegistry (.applyOrderEvent foreignReport)).book.evaluate manualRegistry
        "600000.SH" morningContext).2, d.planId ≠ "plan" := by
  have hidle : (pausedRun.book.plans.get? "plan").map (·.pendingIntentId) = some "" := by decide +kernel
  have hno : ¬Rearms "plan" pausedRun (.applyOrderEvent foreignReport) := by
    rintro ⟨_, plan, hplan, hrearms⟩
    rw [hplan] at hidle
    exact hrearms.1 (Option.some.inj hidle)
  exact ⟨hno, stopped_plan_never_decides (.step (.start pausedRun_stopped) (ExitOp.applyOrderEvent foreignReport)
    ⟨trivial, hno⟩) _ _⟩

def strayFill : ExitFill := { planId := "plan", volume := 50, price := 10 }

def rearmedRun : ExitRun := pausedRun.step manualRegistry (.applyExitFill strayFill)

theorem rearmedRun_decides :
    decisionsOf (rearmedRun.book.evaluate manualRegistry "600000.SH" morningContext).2 ≠ [] := by decide +kernel

/-- The stray execution makes the paused plan sell again. -/
theorem paused_plan_rearmed :
    ¬∀ (registry : ExitStrategyRegistry) (p : String) (log : List (Moment ExitRun ExitOp)) (s : ExitRun),
      Run (Stopped p) (ExitRun.step registry) (fun _ _ op => Drains op) log s →
      ∀ code context, ∀ d ∈ decisionsOf (s.book.evaluate registry code context).2, d.planId ≠ p := by
  intro hclaim
  have hrun : Run (Stopped "plan") (ExitRun.step manualRegistry) (fun _ _ op => Drains op) _ rearmedRun :=
    .step (.start pausedRun_stopped) (ExitOp.applyExitFill strayFill) trivial
  refine hclaim manualRegistry "plan" _ _ hrun "600000.SH" morningContext _ (List.head_mem rearmedRun_decides) ?_
  decide +kernel

end QuantX.OperatorStop
