import QuantX.Theorems.ExitPlan.SellGate

namespace QuantX.ExitVolume
open Lib ExitPlan SellGate

def reported (f : ExitFill) : Int := if 0 < f.volume ∧ 0 < f.price then f.volume else 0

/-- The volume reported for plan `p` in one step. -/
def reportedBy (p : String) : ExitOp → Int
  | .applyExitFill f => if f.planId = p then reported f else 0
  | _ => 0

/-- The volume reported for intent `i` of plan `p` in one step. -/
def reportedFor (p i : String) : ExitOp → Int
  | .applyExitFill f => if f.planId = p ∧ f.intentId = i then reported f else 0
  | _ => 0

def reportedTotal (p : String) (log : History) : Int := (log.map fun m => reportedBy p m.op).sum
def reportedVolume (p i : String) (log : History) : Int := (log.map fun m => reportedFor p i m.op).sum

/-- An honest broker reports executions of the pending intent only, and in total no more than requested. -/
def Honest (log : History) (s : ExitRun) : ExitOp → Prop
  | .applyExitFill f => 0 < reported f →
      (s.book.pending f.planId).intent ≠ "" ∧ f.intentId = (s.book.pending f.planId).intent ∧
        reportedVolume f.planId f.intentId log + reported f ≤ (s.book.pending f.planId).requested
  | _ => True

def HonestLegal (log : History) (s : ExitRun) (op : ExitOp) : Prop := Legal log s op ∧ Honest log s op

abbrev HonestReaches (registry : ExitStrategyRegistry) : History → ExitRun → Prop :=
  Run (· = {}) (ExitRun.step registry) HonestLegal

theorem HonestReaches.reaches {registry : ExitStrategyRegistry} {log : History} {s : ExitRun}
    (h : HonestReaches registry log s) : Reaches registry log s :=
  Run.mono (fun _ _ _ hlegal => hlegal.1) h

section Step
variable {registry : ExitStrategyRegistry} {log : History} {s : ExitRun} {p : String}

theorem order_exited {plan next : ExitPlan} {e : OrderEvent} (h : OrderEffect plan e next) :
    next.exitedVolume = plan.exitedVolume := by
  cases h with
  | ignored h => rw [h]
  | burned message h =>
    rw [h]
    rfl
  | working _ _ h => exact h.exited
  | held _ _ _ h => exact h.exited
  | announced _ _ _ _ _ h => exact h.exited
  | converged _ _ _ _ _ _ _ h => exact h.exited
  | zeroFill _ _ _ h => exact h.exited

theorem booked_exited {plan next : ExitPlan} {f : ExitFill} (h : BookedEffect plan f next) :
    next.exitedVolume = plan.exitedVolume + plan.appliedVolume f := by
  cases h with
  | unmatched _ h _ => exact h.exited
  | uncorrelated _ _ h => exact h.elim SamePending.exited Cleared.exited
  | progressed _ _ h => exact h.exited
  | converged _ _ _ _ _ _ _ h => exact h.exited
  | soldOut _ _ _ _ h => exact h.exited

theorem step_exited {op : ExitOp} (hop : ∀ f, op ≠ .applyExitFill f) :
    ((s.step registry op).book.pending p).exited = (s.book.pending p).exited := by
  cases s.step_pending registry op p with
  | same _ heq _ => rw [heq]
  | marked d i _ hplan hnext h =>
    rw [ExitPlanBook.pending_of_get? hplan, ExitPlanBook.pending_of_get? hnext, markIntent_pending h]
  | ordered e _ hplan hnext _ h =>
    rw [ExitPlanBook.pending_of_get? hplan, ExitPlanBook.pending_of_get? hnext]
    exact order_exited h
  | filled f => exact absurd rfl (hop f)

def Bounded (book : ExitPlanBook) (p : String) : Prop :=
  0 ≤ (book.pending p).exited ∧ (book.pending p).exited ≤ book.entered p

theorem bounded_step {op : ExitOp} (h : Bounded s.book p) : Bounded (s.step registry op).book p := by
  unfold Bounded at h ⊢
  cases s.step_pending registry op p with
  | same _ heq hentered =>
    rw [heq]
    exact ⟨h.1, h.2.trans hentered⟩
  | marked d i _ hplan hnext hmark =>
    rw [ExitPlanBook.pending_of_get? hplan, ExitPlanBook.entered_of_get? hplan] at h
    rw [ExitPlanBook.pending_of_get? hnext, ExitPlanBook.entered_of_get? hnext, markIntent_pending hmark,
      (markIntent_sameEntry hmark).entry]
    exact h
  | ordered e _ hplan hnext position heffect =>
    rw [ExitPlanBook.pending_of_get? hplan, ExitPlanBook.entered_of_get? hplan] at h
    rw [ExitPlanBook.pending_of_get? hnext, ExitPlanBook.entered_of_get? hnext, position.entry]
    show 0 ≤ ExitPlan.exitedVolume _ ∧ ExitPlan.exitedVolume _ ≤ _
    rw [order_exited heffect]
    exact h
  | @filled plan next f _ hplan hnext position heffect =>
    rw [ExitPlanBook.pending_of_get? hplan, ExitPlanBook.entered_of_get? hplan] at h
    rw [ExitPlanBook.pending_of_get? hnext, ExitPlanBook.entered_of_get? hnext, position.entry]
    replace h : 0 ≤ plan.exitedVolume ∧ plan.exitedVolume ≤ plan.entryFilledVolume := h
    show 0 ≤ next.exitedVolume ∧ next.exitedVolume ≤ _
    cases heffect with
    | ignored _ heq => exact heq ▸ h
    | refused _ message heq =>
      rw [heq]
      exact h
    | booked _ _ applied hbooked =>
      have hfits : plan.appliedVolume f ≤ plan.remainingVolume := min_le_right _ _
      have hremaining : plan.remainingVolume = max 0 (plan.entryFilledVolume - plan.exitedVolume) := rfl
      rw [booked_exited hbooked]
      omega

theorem Reaches.bounded (h : Reaches registry log s) (p : String) : Bounded s.book p := by
  refine Run.invariant (fun _ s => Bounded s.book p) ?_ (fun _ _ _ hb _ => bounded_step hb) h
  rintro _ rfl
  exact ⟨le_refl _, le_refl _⟩

end Step

/-! ### An honest broker -/

/-- How the pending part of a plan and what is left to sell follow from honest reports. -/
structure HonestInv (log : History) (p : String) (v : PendingView) (remaining : Int) : Prop where
  total : reportedTotal p log = v.exited
  filled : v.intent ≠ "" → reportedVolume p v.intent log = v.filled
  open_le : v.requested - v.filled ≤ remaining
  unmarked : ∀ i, i ≠ "" → ¬Marked log p i → reportedVolume p i log = 0

section Honest
variable {registry : ExitStrategyRegistry} {log : History} {s : ExitRun} {p i : String} {m : Moment ExitRun ExitOp}
  {v v' : PendingView} {r r' : Int}
variable {f : ExitFill}

theorem reportedTotal_cons : reportedTotal p (m :: log) = reportedBy p m.op + reportedTotal p log := by
  unfold reportedTotal
  rw [List.map_cons, List.sum_cons]

theorem reportedVolume_cons : reportedVolume p i (m :: log) = reportedFor p i m.op + reportedVolume p i log := by
  unfold reportedVolume
  rw [List.map_cons, List.sum_cons]

theorem reported_nonneg (f : ExitFill) : 0 ≤ reported f := by
  unfold reported
  split
  · omega
  · omega

theorem reported_pos (h : 0 < reported f) : reported f = f.volume ∧ 0 < f.volume ∧ 0 < f.price := by
  unfold reported at h ⊢
  split at h
  · rename_i hf
    rw [if_pos hf]
    exact ⟨rfl, hf⟩
  · omega

theorem HonestInv.quiet (h : HonestInv log p v r) (hby : reportedBy p m.op = 0) (hfor : ∀ i, reportedFor p i m.op = 0)
    (hexited : v'.exited = v.exited) (hopen : v'.requested - v'.filled ≤ r')
    (hfilled : v'.intent ≠ "" → reportedVolume p v'.intent log = v'.filled) : HonestInv (m :: log) p v' r' where
  total := by rw [reportedTotal_cons, hby, h.total, hexited, zero_add]
  filled := fun hne => by rw [reportedVolume_cons, hfor, hfilled hne, zero_add]
  open_le := hopen
  unmarked := fun i hi hno => by
    rw [reportedVolume_cons, hfor, h.unmarked i hi (fun hold => hno hold.cons), add_zero]

theorem reportedBy_zero (h : reported f = 0) : reportedBy p (.applyExitFill f) = 0 := by
  show (if f.planId = p then reported f else 0) = 0
  rw [h, ite_self]

theorem reportedFor_zero (h : reported f = 0) (i : String) : reportedFor p i (.applyExitFill f) = 0 := by
  show (if f.planId = p ∧ f.intentId = i then reported f else 0) = 0
  rw [h, ite_self]

theorem order_open {plan next : ExitPlan} {e : OrderEvent} (h : OrderEffect plan e next) :
    next.pendingView.intent = plan.pendingIntentId ∧ next.pendingView.requested = plan.pendingRequestedVolume ∧
        next.pendingView.filled = plan.pendingFilledVolume ∨
      next.pendingView.intent = "" ∧ next.pendingView.requested = 0 ∧ next.pendingView.filled = 0 := by
  cases h with
  | ignored h =>
    rw [h]
    exact Or.inl ⟨rfl, rfl, rfl⟩
  | burned message h =>
    rw [h]
    exact Or.inl ⟨rfl, rfl, rfl⟩
  | working _ _ h =>
    rw [h]
    exact Or.inl ⟨rfl, rfl, rfl⟩
  | held _ _ _ h =>
    rw [h]
    exact Or.inl ⟨rfl, rfl, rfl⟩
  | announced _ _ _ _ _ h =>
    rw [h]
    exact Or.inl ⟨rfl, rfl, rfl⟩
  | converged _ _ _ _ _ _ _ h =>
    rw [h.view]
    exact Or.inr ⟨rfl, rfl, rfl⟩
  | zeroFill _ _ _ h =>
    rw [h.view]
    exact Or.inr ⟨rfl, rfl, rfl⟩

theorem HonestInv.applied {plan : ExitPlan} (h : HonestInv log p plan.pendingView plan.remainingVolume)
    (hpos : 0 < reported f) (hne : plan.pendingIntentId ≠ "") (own : f.intentId = plan.pendingIntentId)
    (hle : reportedVolume p f.intentId log + reported f ≤ plan.pendingRequestedVolume) :
    plan.appliedVolume f = reported f := by
  have hfilled : reportedVolume p plan.pendingIntentId log = plan.pendingFilledVolume := h.filled hne
  have hopen : plan.pendingRequestedVolume - plan.pendingFilledVolume ≤ plan.remainingVolume := h.open_le
  obtain ⟨heq, hvolume, _⟩ := reported_pos hpos
  rw [own, hfilled] at hle
  unfold appliedVolume
  omega

/-- The pending part after an honest execution: it stays open for what is left, or it is released. -/
theorem booked_open {plan next : ExitPlan} (h : BookedEffect plan f next)
    (hne : plan.pendingIntentId ≠ "") (own : f.intentId = plan.pendingIntentId) :
    next.pendingView.intent = plan.pendingIntentId ∧ next.pendingView.requested = plan.pendingRequestedVolume ∧
        next.pendingView.filled = plan.pendingFilledVolume + plan.appliedVolume f ∨
      next.pendingView.intent = "" ∧ next.pendingView.requested = 0 ∧ next.pendingView.filled = 0 := by
  cases h with
  | unmatched other => exact absurd own other
  | uncorrelated _ idle => exact absurd idle hne
  | progressed _ _ h =>
    rw [h]
    exact Or.inl ⟨rfl, rfl, bookExitFill_filled own hne⟩
  | converged _ _ _ _ _ _ _ h =>
    rw [h.view]
    exact Or.inr ⟨rfl, rfl, rfl⟩
  | soldOut _ _ _ _ h =>
    rw [h.view]
    exact Or.inr ⟨rfl, rfl, rfl⟩

theorem honest_fill {plan next : ExitPlan} (h : HonestInv log p plan.pendingView plan.remainingVolume)
    (hm : m.op = .applyExitFill f) (hp : f.planId = p) (hmarked : Marked log p plan.pendingIntentId)
    (position : SameEntry plan next) (heffect : FillEffect plan f next) (hpos : 0 < reported f)
    (hne : plan.pendingIntentId ≠ "") (own : f.intentId = plan.pendingIntentId)
    (hle : reportedVolume p f.intentId log + reported f ≤ plan.pendingRequestedVolume) :
    HonestInv (m :: log) p next.pendingView next.remainingVolume := by
  have happlied := h.applied hpos hne own hle
  obtain ⟨heq, hvolume, hprice⟩ := reported_pos hpos
  have hfits : plan.appliedVolume f ≤ plan.remainingVolume := min_le_right _ _
  cases heffect with
  | ignored nothing _ =>
    rcases nothing with hno | hno | hno
    · omega
    · exact absurd hprice (not_lt.mpr hno)
    · omega
  | refused gone _ _ => omega
  | booked _ _ _ hbooked =>
    have hexited := booked_exited hbooked
    have hremaining : next.remainingVolume = plan.remainingVolume - plan.appliedVolume f := by
      unfold remainingVolume at hfits ⊢
      rw [position.entry, hexited]
      omega
    have hby : reportedBy p m.op = reported f := by
      rw [hm]
      exact if_pos hp
    have hopen : plan.pendingRequestedVolume - plan.pendingFilledVolume ≤ plan.remainingVolume := h.open_le
    refine ⟨?_, fun hnext => ?_, ?_, fun i hi hno => ?_⟩
    · rw [reportedTotal_cons, hby, h.total]
      show reported f + plan.exitedVolume = next.exitedVolume
      omega
    · rcases booked_open hbooked hne own with ⟨hintent, _, hfilled⟩ | ⟨hintent, _, _⟩
      · have hfor : reportedFor p plan.pendingIntentId m.op = reported f := by
          rw [hm]
          exact if_pos ⟨hp, own⟩
        have hold : reportedVolume p plan.pendingIntentId log = plan.pendingFilledVolume := h.filled hne
        rw [hintent, reportedVolume_cons, hfor, hold, hfilled]
        omega
      · exact absurd hintent hnext
    · rcases booked_open hbooked hne own with ⟨_, hrequested, hfilled⟩ | ⟨_, hrequested, hfilled⟩
      · rw [hrequested, hfilled]
        omega
      · rw [hrequested, hfilled]
        omega
    · have hold : ¬Marked log p i := fun hmarked => hno hmarked.cons
      have hfor : reportedFor p i m.op = 0 := by
        rw [hm]
        refine if_neg fun hi => hold ?_
        rw [← hi.2, own]
        exact hmarked
      rw [reportedVolume_cons, hfor, h.unmarked i hi hold, add_zero]

theorem step_fill {plan : ExitPlan} {f : ExitFill} (hplan : s.book.plans.get? f.planId = some plan) :
    (s.step registry (.applyExitFill f)).book.plans.get? f.planId = some (plan.applyExitFill f) := by
  show (s.book.applyExitFill f).plans.get? f.planId = _
  unfold ExitPlanBook.applyExitFill
  rw [ExitPlanBook.get?_onPlan, if_pos rfl, hplan]
  rfl

theorem quiet_step {op : ExitOp} (hinv : Inv log s) (h : HonestInv log p (s.book.pending p) (s.book.remaining p))
    (hlegal : Legal log s op) (hby : reportedBy p op = 0) (hfor : ∀ i, reportedFor p i op = 0) :
    HonestInv (momentOf registry s op :: log) p ((s.step registry op).book.pending p)
      ((s.step registry op).book.remaining p) := by
  cases s.step_pending registry op p with
  | same _ heq hentered =>
    have hremaining : s.book.remaining p ≤ (s.step registry op).book.remaining p := by
      rw [ExitPlanBook.remaining_eq, ExitPlanBook.remaining_eq, heq]
      omega
    rw [heq]
    exact h.quiet hby hfor rfl (h.open_le.trans hremaining) h.filled
  | @marked plan next d i own hplan hnext hmark =>
    have hremaining : next.remainingVolume = plan.remainingVolume := by
      unfold remainingVolume
      rw [(markIntent_sameEntry hmark).entry]
      have : next.exitedVolume = plan.exitedVolume := congrArg PendingView.exited (markIntent_pending hmark)
      rw [this]
    obtain ⟨hoffered, hi, hfresh⟩ := hlegal
    obtain ⟨offered, hget, hdecided⟩ := hinv.offers d hoffered
    subst own
    obtain rfl : plan = offered := Option.some.inj (hplan.symm.trans hget)
    rw [ExitPlanBook.pending_of_get? hnext, ExitPlanBook.remaining_of_get? hnext, markIntent_pending hmark, hremaining]
    rw [ExitPlanBook.pending_of_get? hplan] at h
    refine h.quiet hby hfor rfl ?_ fun _ => h.unmarked i hi hfresh
    show d.volume - 0 ≤ plan.remainingVolume
    have := hdecided.volume_le
    omega
  | @ordered plan next e own hplan hnext position heffect =>
    have hexited := order_exited heffect
    have hremaining : next.remainingVolume = plan.remainingVolume := by
      unfold remainingVolume
      rw [position.entry, hexited]
    have hnonneg : 0 ≤ plan.remainingVolume := le_max_left 0 _
    rw [ExitPlanBook.pending_of_get? hnext, ExitPlanBook.remaining_of_get? hnext, hremaining]
    rw [ExitPlanBook.pending_of_get? hplan, ExitPlanBook.remaining_of_get? hplan] at h
    rcases order_open heffect with ⟨hintent, hrequested, hfilled⟩ | ⟨hintent, hrequested, hfilled⟩
    · refine h.quiet hby hfor hexited ?_ ?_
      · rw [hrequested, hfilled]
        exact h.open_le
      · rw [hintent, hfilled]
        exact h.filled
    · refine h.quiet hby hfor hexited ?_ fun hne => absurd hintent hne
      rw [hrequested, hfilled]
      omega
  | @filled plan next f own hplan hnext position heffect =>
    rw [ExitPlanBook.pending_of_get? hnext, ExitPlanBook.remaining_of_get? hnext]
    rw [ExitPlanBook.pending_of_get? hplan, ExitPlanBook.remaining_of_get? hplan] at h
    cases heffect with
    | ignored _ heq =>
      subst heq
      exact h.quiet hby hfor rfl h.open_le h.filled
    | refused _ message heq =>
      subst heq
      exact h.quiet hby hfor rfl h.open_le h.filled
    | booked hvolume hprice _ _ =>
      have hreport : reportedBy p (.applyExitFill f) = f.volume := (if_pos own).trans (if_pos ⟨hvolume, hprice⟩)
      omega

theorem honest_step {op : ExitOp} (hinv : Inv log s) (h : HonestInv log p (s.book.pending p) (s.book.remaining p))
    (hlegal : HonestLegal log s op) :
    HonestInv (momentOf registry s op :: log) p ((s.step registry op).book.pending p)
      ((s.step registry op).book.remaining p) := by
  cases op with
  | applyExitFill f =>
    by_cases hpos : f.planId = p ∧ 0 < reported f
    · obtain ⟨rfl, hpos⟩ := hpos
      obtain ⟨hne, own, hle⟩ := hlegal.2 hpos
      have hmarked := (hinv.plans f.planId).marked hne
      cases hplan : s.book.plans.get? f.planId with
      | none =>
        unfold ExitPlanBook.pending at hne
        rw [hplan] at hne
        exact absurd rfl hne
      | some plan =>
        have hnext := @step_fill registry s plan f hplan
        rw [ExitPlanBook.pending_of_get? hnext, ExitPlanBook.remaining_of_get? hnext]
        rw [ExitPlanBook.pending_of_get? hplan] at hne own hle h hmarked
        rw [ExitPlanBook.remaining_of_get? hplan] at h
        exact honest_fill h rfl rfl hmarked (applyExitFill_sameEntry plan f) (applyExitFill_effect plan f) hpos hne own hle
    · have hzero : f.planId = p → reported f = 0 := fun hp => by
        have hnot := not_and.mp hpos hp
        have hnonneg := reported_nonneg f
        omega
      refine quiet_step hinv h hlegal.1 ?_ fun i => ?_
      · by_cases hp : f.planId = p
        · exact reportedBy_zero (hzero hp)
        · exact if_neg hp
      · by_cases hp : f.planId = p
        · exact reportedFor_zero (hzero hp) i
        · exact if_neg fun hc => hp hc.1
  | _ => exact quiet_step hinv h hlegal.1 rfl fun _ => rfl

theorem HonestReaches.inv (h : HonestReaches registry log s) :
    Inv log s ∧ ∀ p, HonestInv log p (s.book.pending p) (s.book.remaining p) := by
  refine Run.invariant (fun log s => Inv log s ∧ ∀ p, HonestInv log p (s.book.pending p) (s.book.remaining p)) ?_ ?_ h
  · rintro _ rfl
    exact ⟨inv_start, fun p => ⟨rfl, fun hne => absurd rfl hne, le_refl _, fun _ _ _ => rfl⟩⟩
  · rintro log s op ⟨hinv, hhonest⟩ hlegal
    exact ⟨inv_step hinv hlegal.1, fun p => honest_step hinv (hhonest p) hlegal⟩

end Honest

/-- Every plan has sold between nothing and its entry position, and only executions change that. With an honest broker
    every execution is booked whole, the exited volume is the sum of the fills, and what is still requested fits in what
    is left to sell. -/
theorem exit_volume_conserved (registry : ExitStrategyRegistry) (log : History) (s : ExitRun) :
    (Reaches registry log s →
      (∀ p plan, s.book.plans.get? p = some plan →
        0 ≤ plan.exitedVolume ∧ plan.exitedVolume ≤ plan.entryFilledVolume) ∧
      ∀ op p, (∀ f, op ≠ .applyExitFill f) →
        ((s.step registry op).book.pending p).exited = (s.book.pending p).exited) ∧
    (HonestReaches registry log s →
      (∀ p plan, s.book.plans.get? p = some plan →
        plan.exitedVolume = reportedTotal p log ∧
          plan.pendingRequestedVolume - plan.pendingFilledVolume ≤ plan.remainingVolume) ∧
      ∀ f plan, HonestLegal log s (.applyExitFill f) → s.book.plans.get? f.planId = some plan →
        (plan.applyExitFill f).exitedVolume = plan.exitedVolume + reported f) := by
  refine ⟨fun h => ⟨fun p plan hplan => ?_, fun op p hop => step_exited hop⟩,
    fun h => ⟨fun p plan hplan => ?_, fun f plan hlegal hplan => ?_⟩⟩
  · have hbounded := Reaches.bounded h p
    unfold Bounded at hbounded
    rw [ExitPlanBook.pending_of_get? hplan, ExitPlanBook.entered_of_get? hplan] at hbounded
    exact hbounded
  · have hinv := (HonestReaches.inv h).2 p
    rw [ExitPlanBook.pending_of_get? hplan, ExitPlanBook.remaining_of_get? hplan] at hinv
    exact ⟨hinv.total.symm, hinv.open_le⟩
  · have hbefore := ((HonestReaches.inv h).2 f.planId).total
    have hafter := ((HonestReaches.inv (h.step (.applyExitFill f) hlegal)).2 f.planId).total
    rw [ExitPlanBook.pending_of_get? hplan] at hbefore
    rw [ExitPlanBook.pending_of_get? (step_fill hplan), reportedTotal_cons] at hafter
    have hby : reportedBy f.planId (.applyExitFill f) = reported f := if_pos rfl
    replace hbefore : reportedTotal f.planId log = plan.exitedVolume := hbefore
    replace hafter : reportedBy f.planId (.applyExitFill f) + reportedTotal f.planId log =
      (plan.applyExitFill f).exitedVolume := hafter
    omega

def wholeFill : ExitFill := { planId := "plan", volume := 100, price := 11, intentId := "i1" }

def soldRun : ExitRun := (markedRun "i1").step manualRegistry (.applyExitFill wholeFill)

def soldLog : History :=
  [⟨markedRun "i1", .applyExitFill wholeFill, soldRun⟩,
    ⟨offeredRun, .markIntent manualDecision "i1", markedRun "i1"⟩,
    ⟨heldRun, .evaluate "600000.SH" morningContext, offeredRun⟩,
    ⟨{}, .registerEntryFill manualTemplate 100 10 none, heldRun⟩]

theorem soldRun_reached : HonestReaches manualRegistry soldLog soldRun := by
  have hstart : HonestReaches manualRegistry [] {} := .start rfl
  have hheld : HonestReaches manualRegistry _ heldRun :=
    hstart.step (.registerEntryFill manualTemplate 100 10 none) ⟨trivial, trivial⟩
  have hoffered : HonestReaches manualRegistry _ offeredRun :=
    hheld.step (.evaluate "600000.SH" morningContext) ⟨trivial, trivial⟩
  have hmarked : HonestReaches manualRegistry _ (markedRun "i1") :=
    hoffered.step (.markIntent manualDecision "i1") ⟨⟨List.head_mem _, by decide, fun ⟨m, hm, d, hop, _⟩ => by
      rcases List.mem_cons.mp hm with rfl | hm
      · cases hop
      · obtain rfl := List.mem_singleton.mp hm
        cases hop⟩, trivial⟩
  exact hmarked.step (.applyExitFill wholeFill) ⟨trivial, fun _ => by decide +kernel⟩

theorem whole_fill_conserved :
    HonestReaches manualRegistry soldLog soldRun ∧ reportedTotal "plan" soldLog = 100 ∧
      (soldRun.book.plans.get? "plan").isSome = true ∧
      ∀ plan, soldRun.book.plans.get? "plan" = some plan →
        plan.exitedVolume = 100 ∧ plan.exitedVolume ≤ plan.entryFilledVolume := by
  have htotal : reportedTotal "plan" soldLog = 100 := by decide +kernel
  have hconserved := exit_volume_conserved manualRegistry soldLog soldRun
  refine ⟨soldRun_reached, htotal, by decide +kernel, fun plan hplan => ⟨?_, ?_⟩⟩
  · rw [((hconserved.2 soldRun_reached).1 "plan" plan hplan).1, htotal]
  · exact ((hconserved.1 (HonestReaches.reaches soldRun_reached)).1 "plan" plan hplan).2

end QuantX.ExitVolume
