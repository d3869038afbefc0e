import QuantX.Theorems.ExitPlan.Run

namespace QuantX.SellGate
open Lib ExitPlan

abbrev History := List (Moment ExitRun ExitOp)

/-- Intent `i` was marked on plan `p`. -/
def Marked (log : History) (p i : String) : Prop := ∃ m ∈ log, ∃ d, m.op = .markIntent d i ∧ d.planId = p

/-- A decision of the evaluation just made is marked under a fresh intent id; all other arguments are
    arbitrary. -/
def Legal (log : History) (s : ExitRun) : ExitOp → Prop
  | .markIntent d i => d ∈ s.offered ∧ i ≠ "" ∧ ¬Marked log d.planId i
  | _ => True

/-- The history `log` leads from the empty book to `s`. -/
abbrev Reaches (registry : ExitStrategyRegistry) : History → ExitRun → Prop := Run (· = {}) (ExitRun.step registry) Legal

/-- A terminal order report of `i` announced the cumulative fill `target`. -/
def Announced (log : History) (p i : String) (target : Int) : Prop :=
  ∃ m ∈ log, ∃ e, m.op = .applyOrderEvent e ∧ e.planId = p ∧ e.intentId = i ∧ e.status.terminal = true ∧
    optionalNonNegativeInt e.cumulativeFilledVolume = some target

/-- The volume that one moment executed for the pending intent `i`. -/
def matched (p i : String) (m : Moment ExitRun ExitOp) : Int :=
  match m.op with
  | .applyExitFill f =>
    if f.planId = p ∧ f.intentId = i ∧ (m.before.book.pending p).intent = i then
      (m.after.book.pending p).exited - (m.before.book.pending p).exited
    else 0
  | _ => 0

/-- The volume that was executed for `i` while it was pending. -/
def matchedVolume (p i : String) (log : History) : Int := (log.map (matched p i)).sum

/-- The three ways to release `i` at a moment, given the history before it. -/
inductive ReleasedBy (p i : String) (earlier : History) (m : Moment ExitRun ExitOp) : Prop
  | zeroFill (e : OrderEvent) (op : m.op = .applyOrderEvent e) (plan : e.planId = p) (intent : e.intentId = i)
      (zero : e.status = .reconciledZeroFill)
  | announced (target : Int) (pos : 0 < target) (terminal : Announced (m :: earlier) p i target)
      (fills : matchedVolume p i (m :: earlier) = target)
  | soldOut (f : ExitFill) (op : m.op = .applyExitFill f) (plan : f.planId = p) (intent : f.intentId = i)
      (held : 0 < m.before.book.remaining p) (gone : m.after.book.remaining p = 0)

/-- At some moment `i` was pending before and nothing was pending after, by one of the three ways. -/
def Released (log : History) (p i : String) : Prop :=
  ∃ later m earlier, log = later ++ m :: earlier ∧ Marked earlier p i ∧ (m.before.book.pending p).intent = i ∧
    (m.after.book.pending p).intent = "" ∧ ReleasedBy p i earlier m

/-- Operations that cannot end the pending intent of plan `p`: entry fills, commands, evaluations, marks, reports about
    another intent or plan, order reports that are not terminal, and terminal ones whose cumulative fill is missing,
    zero, behind the executions or below an earlier announcement. -/
def NeverReleases (p : String) (v : PendingView) : ExitOp → Prop
  | .applyOrderEvent e =>
    e.planId ≠ p ∨ e.intentId ≠ v.intent ∨ (e.status.terminal = false ∧ e.status ≠ .reconciledZeroFill) ∨
      (e.status.terminal = true ∧
        match optionalNonNegativeInt e.cumulativeFilledVolume with
        | none => True
        | some target => target = 0 ∨ target < v.filled ∨ ∃ previous, v.target = some previous ∧ target < previous)
  | .applyExitFill f => f.planId ≠ p ∨ f.intentId ≠ v.intent
  | _ => True

structure PlanInv (log : History) (p : String) (v : PendingView) : Prop where
  marked : v.intent ≠ "" → Marked log p v.intent
  zeroFills : ∀ i ∈ v.zeroFills, Marked log p i
  filled : v.intent ≠ "" → matchedVolume p v.intent log = v.filled
  target : ∀ t, v.intent ≠ "" → v.target = some t → Announced log p v.intent t
  unmarked : ∀ i, i ≠ "" → ¬Marked log p i → matchedVolume p i log = 0
  released : ∀ i, Marked log p i → i ≠ "" ∧ i = v.intent ∨ Released log p i

section Step
variable {log : History} {p i : String} {v v' : PendingView} {m : Moment ExitRun ExitOp}

theorem Marked.cons (h : Marked log p i) : Marked (m :: log) p i := by
  obtain ⟨m', hm, h⟩ := h
  exact ⟨m', List.mem_cons_of_mem _ hm, h⟩

theorem Announced.cons {target : Int} (h : Announced log p i target) : Announced (m :: log) p i target := by
  obtain ⟨m', hm, h⟩ := h
  exact ⟨m', List.mem_cons_of_mem _ hm, h⟩

theorem Released.cons (h : Released log p i) : Released (m :: log) p i := by
  obtain ⟨later, m', earlier, rfl, h⟩ := h
  exact ⟨m :: later, m', earlier, rfl, h⟩

theorem matchedVolume_cons (i : String) : matchedVolume p i (m :: log) = matched p i m + matchedVolume p i log := by
  unfold matchedVolume
  rw [List.map_cons, List.sum_cons]

/-- The moment marks nothing on `p`. -/
def Unmarking (p : String) (m : Moment ExitRun ExitOp) : Prop := ∀ d i, m.op = .markIntent d i → d.planId ≠ p

theorem Marked.of_cons (hm : Unmarking p m) {i : String} (h : Marked (m :: log) p i) : Marked log p i := by
  obtain ⟨m', hmem, d, hop, hp⟩ := h
  rcases List.mem_cons.mp hmem with rfl | hmem
  · exact absurd hp (hm d i hop)
  · exact ⟨m', hmem, d, hop, hp⟩

theorem matched_eq_zero {i : String} (hi : (m.before.book.pending p).intent ≠ i) : matched p i m = 0 := by
  unfold matched
  split
  · rw [if_neg (fun h => hi h.2.2)]
  · rfl

theorem PlanInv.unmarked_cons (h : PlanInv log p v) (hbefore : m.before.book.pending p = v) (hi : i ≠ "")
    (hno : ¬Marked (m :: log) p i) : matchedVolume p i (m :: log) = 0 := by
  have hold : ¬Marked log p i := fun hmarked => hno hmarked.cons
  have hother : (m.before.book.pending p).intent ≠ i := by
    rw [hbefore]
    rintro rfl
    exact hold (h.marked hi)
  rw [matchedVolume_cons, h.unmarked i hi hold, matched_eq_zero hother, add_zero]

theorem PlanInv.advance (h : PlanInv log p v) (hbefore : m.before.book.pending p = v) (hm : Unmarking p m)
    (hintent : v'.intent = v.intent) (hzero : ∀ i ∈ v'.zeroFills, i ∈ v.zeroFills)
    (hfilled : v.intent ≠ "" → v'.filled = matched p v.intent m + v.filled)
    (htarget : ∀ t, v.intent ≠ "" → v'.target = some t → v.target = some t ∨ Announced (m :: log) p v.intent t) :
    PlanInv (m :: log) p v' where
  marked := by
    rw [hintent]
    exact fun hv => (h.marked hv).cons
  zeroFills := fun i hi => (h.zeroFills i (hzero i hi)).cons
  filled := by
    rw [hintent]
    intro hv
    rw [matchedVolume_cons, h.filled hv, hfilled hv]
  target := by
    rw [hintent]
    intro t hv ht
    exact (htarget t hv ht).elim (fun ht => (h.target t hv ht).cons) id
  unmarked := fun i hi hno => h.unmarked_cons hbefore hi hno
  released := fun i hi => by
    rw [hintent]
    exact (h.released i (hi.of_cons hm)).imp_right Released.cons

theorem PlanInv.release (h : PlanInv log p v) (hbefore : m.before.book.pending p = v)
    (hafter : m.after.book.pending p = v') (hm : Unmarking p m) (hv : v.intent ≠ "") (hv' : v'.intent = "")
    (hzero : ∀ i ∈ v'.zeroFills, i ∈ v.zeroFills ∨ i ≠ "" ∧ i = v.intent) (hby : ReleasedBy p v.intent log m) :
    PlanInv (m :: log) p v' where
  marked := fun hne => absurd hv' hne
  zeroFills := fun i hi => by
    rcases hzero i hi with hi | ⟨_, rfl⟩
    · exact (h.zeroFills i hi).cons
    · exact (h.marked hv).cons
  filled := fun hne => absurd hv' hne
  target := fun _ hne => absurd hv' hne
  unmarked := fun i hi hno => h.unmarked_cons hbefore hi hno
  released := fun i hi => by
    rcases h.released i (hi.of_cons hm) with ⟨_, rfl⟩ | hi
    · exact Or.inr ⟨[], m, log, rfl, h.marked hv, by rw [hbefore], by rw [hafter, hv'], hby⟩
    · exact Or.inr hi.cons

theorem PlanInv.mark (h : PlanInv log p v) {d : ExitDecision} (hop : m.op = .markIntent d i) (hp : d.planId = p)
    (hidle : v.intent = "") (hi : i ≠ "") (hfresh : ¬Marked log p i) :
    PlanInv (m :: log) p
      { v with intent := i, requested := d.volume, filled := 0, orderTerminal := false, target := none } where
  marked := fun _ => ⟨m, List.mem_cons_self, d, hop, hp⟩
  zeroFills := fun j hj => (h.zeroFills j hj).cons
  filled := fun _ => by
    have hzero : matched p i m = 0 := by
      unfold matched
      rw [hop]
    rw [matchedVolume_cons, hzero, h.unmarked i hi hfresh]
    rfl
  target := fun t _ ht => by cases ht
  unmarked := fun j hj hno => by
    have hzero : matched p j m = 0 := by
      unfold matched
      rw [hop]
    rw [matchedVolume_cons, hzero, h.unmarked j hj (fun hold => hno hold.cons), add_zero]
  released := fun j hj => by
    obtain ⟨m', hmem, d', hop', hp'⟩ := hj
    rcases List.mem_cons.mp hmem with rfl | hmem
    · rw [hop] at hop'
      cases hop'
      exact Or.inl ⟨hi, rfl⟩
    · rcases h.released j ⟨m', hmem, d', hop', hp'⟩ with ⟨hj, rfl⟩ | hj
      · exact absurd hidle hj
      · exact Or.inr hj.cons

theorem PlanInv.same (h : PlanInv log p v) (hbefore : m.before.book.pending p = v) (hm : Unmarking p m)
    (hnone : v.intent ≠ "" → matched p v.intent m = 0) : PlanInv (m :: log) p v :=
  h.advance hbefore hm rfl (fun _ hi => hi) (fun hv => by rw [hnone hv, zero_add]) fun _ _ ht => Or.inl ht

end Step

/-! ### The invariant of a run -/

structure Inv (log : History) (s : ExitRun) : Prop where
  offers : ∀ d ∈ s.offered, s.book.Offers d
  plans : ∀ p, PlanInv log p (s.book.pending p)

theorem inv_start : Inv [] {} where
  offers := fun _ hd => by cases hd
  plans := fun p => {
    marked := fun h => absurd rfl h, zeroFills := fun _ hi => by cases hi
    filled := fun h => absurd rfl h
    target := fun _ h => absurd rfl h, unmarked := fun _ _ _ => rfl
    released := fun _ hi => by
      obtain ⟨_, hmem, _⟩ := hi
      cases hmem }

section RunStep
variable {registry : ExitStrategyRegistry} {log : History} {s : ExitRun} {p : String}
variable {f : ExitFill} {plan : ExitPlan}

def momentOf (registry : ExitStrategyRegistry) (s : ExitRun) (op : ExitOp) : Moment ExitRun ExitOp :=
  ⟨s, op, s.step registry op⟩

theorem mark_pending {d : ExitDecision} {i : String} (hd : s.book.Offers d)
    (hi : i ∉ (s.book.pending d.planId).zeroFills) :
    ((s.step registry (.markIntent d i)).book.pending d.planId) =
      { s.book.pending d.planId with
        intent := i, requested := d.volume, filled := 0, orderTerminal := false, target := none } := by
  obtain ⟨plan, hplan, hdecided⟩ := hd
  rw [ExitPlanBook.pending_of_get? hplan] at hi ⊢
  have hmark : ∃ next, plan.markIntent d i = .ok next := by
    unfold markIntent
    rw [if_neg (by exact hi)]
    exact ⟨_, rfl⟩
  obtain ⟨next, hmark⟩ := hmark
  have hbook : (s.step registry (.markIntent d i)).book = s.book.put next := by
    show s.book.orElse (s.book.markIntent d i) = _
    unfold ExitPlanBook.markIntent
    simp only [hplan, hmark, Except.map, ExitPlanBook.orElse]
  have hid : next.planId = d.planId := by
    rw [hdecided.planId, planId, (markIntent_sameEntry hmark).template]
    rfl
  rw [hbook, ExitPlanBook.pending_of_get? (by rw [ExitPlanBook.get?_put, if_pos hid])]
  exact markIntent_pending hmark

theorem matched_of_same {op : ExitOp} (i : String)
    (h : (s.step registry op).book.pending p = s.book.pending p) : matched p i (momentOf registry s op) = 0 := by
  unfold matched
  split
  · split
    · show ((s.step registry op).book.pending p).exited - (s.book.pending p).exited = 0
      rw [h]
      omega
    · rfl
  · rfl

theorem PlanInv.unchanged {op : ExitOp} (h : PlanInv log p (s.book.pending p)) (hm : Unmarking p (momentOf registry s op))
    (heq : (s.step registry op).book.pending p = s.book.pending p) :
    PlanInv (momentOf registry s op :: log) p ((s.step registry op).book.pending p) := by
  rw [heq]
  exact h.same rfl hm fun _ => matched_of_same _ heq

theorem matched_order (e : OrderEvent) (i : String) : matched p i (momentOf registry s (.applyOrderEvent e)) = 0 := rfl

theorem announced_now {e : OrderEvent} {target : Int} (hp : e.planId = p)
    (own : e.intentId = plan.pendingIntentId) (terminal : e.status.terminal = true)
    (found : plan.terminalTarget? e.status e.cumulativeFilledVolume = some target) :
    Announced (momentOf registry s (.applyOrderEvent e) :: log) p plan.pendingIntentId target :=
  ⟨_, List.mem_cons_self, e, rfl, hp, own, terminal, (terminalTarget?_eq_some.mp found).1⟩

theorem PlanInv.ordered {plan next : ExitPlan} {e : OrderEvent} (h : PlanInv log p (s.book.pending p))
    (hplan : s.book.plans.get? p = some plan)
    (hnext : (s.step registry (.applyOrderEvent e)).book.plans.get? p = some next) (hp : e.planId = p)
    (heffect : OrderEffect plan e next) :
    PlanInv (momentOf registry s (.applyOrderEvent e) :: log) p
      ((s.step registry (.applyOrderEvent e)).book.pending p) := by
  have hbefore := ExitPlanBook.pending_of_get? hplan
  have hafter := ExitPlanBook.pending_of_get? hnext
  have hm : Unmarking p (momentOf registry s (.applyOrderEvent e)) := fun _ _ hop => by cases hop
  cases heffect with
  | ignored heq =>
    subst heq
    exact h.unchanged hm (hafter.trans hbefore.symm)
  | burned message heq =>
    subst heq
    exact h.unchanged hm (hafter.trans hbefore.symm)
  | working _ _ hsame => exact h.unchanged hm ((hafter.trans hsame).trans hbefore.symm)
  | held own pending terminal hsame =>
    rw [hafter, hsame]
    rw [hbefore] at h
    exact h.advance hbefore hm rfl (fun _ hi => hi) (fun _ => by rw [matched_order, zero_add]; rfl)
      fun _ _ ht => Or.inl ht
  | announced target own pending terminal found hsame =>
    rw [hafter, hsame]
    rw [hbefore] at h
    refine h.advance hbefore hm rfl (fun _ hi => hi) (fun _ => by rw [matched_order, zero_add]; rfl) fun t _ ht => ?_
    cases ht
    exact Or.inr (announced_now hp own terminal found)
  | converged target own pending terminal found pos reached hcleared =>
    rw [hafter]
    rw [hbefore] at h
    refine h.release hbefore hafter hm pending hcleared.intent hcleared.zeroFills ?_
    refine .announced target pos (announced_now hp own terminal found) ?_
    rw [matchedVolume_cons, matched_order, zero_add]
    exact (h.filled pending).trans reached
  | zeroFill own pending zero hcleared =>
    rw [hafter]
    rw [hbefore] at h
    exact h.release hbefore hafter hm pending hcleared.intent hcleared.zeroFills (.zeroFill e rfl hp own zero)

theorem matched_fill {plan next : ExitPlan} (hplan : s.book.plans.get? p = some plan)
    (hnext : (s.step registry (.applyExitFill f)).book.plans.get? p = some next) (hp : f.planId = p)
    (own : f.intentId = plan.pendingIntentId) (hexited : next.exitedVolume = (plan.bookExitFill f).exitedVolume) :
    matched p plan.pendingIntentId (momentOf registry s (.applyExitFill f)) = plan.appliedVolume f := by
  have hbefore := ExitPlanBook.pending_of_get? hplan
  have hcond : f.planId = p ∧ f.intentId = plan.pendingIntentId ∧
      (s.book.pending p).intent = plan.pendingIntentId := ⟨hp, own, by rw [hbefore]; rfl⟩
  show (if f.planId = p ∧ f.intentId = plan.pendingIntentId ∧ (s.book.pending p).intent = plan.pendingIntentId then
      ((s.step registry (.applyExitFill f)).book.pending p).exited - (s.book.pending p).exited else 0) = _
  rw [if_pos hcond, hbefore, ExitPlanBook.pending_of_get? hnext]
  show next.exitedVolume - plan.exitedVolume = _
  rw [hexited]
  show plan.exitedVolume + plan.appliedVolume f - plan.exitedVolume = _
  omega

theorem matched_other {i : String} (hi : f.intentId ≠ i) :
    matched p i (momentOf registry s (.applyExitFill f)) = 0 :=
  if_neg fun h => hi h.2.1

theorem bookExitFill_filled (own : f.intentId = plan.pendingIntentId)
    (pending : plan.pendingIntentId ≠ "") :
    (plan.bookExitFill f).pendingFilledVolume = plan.pendingFilledVolume + plan.appliedVolume f :=
  if_pos (matchesPending_iff.mpr ⟨pending, own⟩)

theorem bookExitFill_unmatched (other : f.intentId ≠ plan.pendingIntentId) :
    (plan.bookExitFill f).pendingFilledVolume = plan.pendingFilledVolume :=
  if_neg fun h => other (matchesPending_iff.mp h).2

theorem PlanInv.filledBy {plan next : ExitPlan} (h : PlanInv log p (s.book.pending p))
    (hplan : s.book.plans.get? p = some plan)
    (hnext : (s.step registry (.applyExitFill f)).book.plans.get? p = some next) (hp : f.planId = p)
    (heffect : FillEffect plan f next) (hentry : SameEntry plan next) :
    PlanInv (momentOf registry s (.applyExitFill f) :: log) p ((s.step registry (.applyExitFill f)).book.pending p) := by
  have hbefore := ExitPlanBook.pending_of_get? hplan
  have hafter := ExitPlanBook.pending_of_get? hnext
  have hm : Unmarking p (momentOf registry s (.applyExitFill f)) := fun _ _ hop => by cases hop
  cases heffect with
  | ignored _ heq =>
    subst heq
    exact h.unchanged hm (hafter.trans hbefore.symm)
  | refused _ message heq =>
    subst heq
    exact h.unchanged hm (hafter.trans hbefore.symm)
  | booked volume price applied hbooked =>
    rw [hafter]
    rw [hbefore] at h
    cases hbooked with
    | unmatched other hsame _ =>
      rw [hsame]
      refine h.advance hbefore hm rfl (fun _ hi => hi) (fun _ => ?_) fun _ _ ht => Or.inl ht
      rw [pendingView_intent, matched_other other, zero_add]
      exact bookExitFill_unmatched other
    | uncorrelated _ idle hsame =>
      rcases hsame with hsame | hcleared
      · rw [hsame]
        exact h.advance hbefore hm rfl (fun _ hi => hi) (fun hne => absurd idle hne) fun _ hne => absurd idle hne
      · refine h.advance hbefore hm (hcleared.intent.trans idle.symm) (fun i hi => ?_) (fun hne => absurd idle hne)
          fun _ hne => absurd idle hne
        rcases hcleared.zeroFills i hi with hi | ⟨hne, heq⟩
        · exact hi
        · exact absurd (heq.trans idle) hne
    | progressed own pending hsame =>
      rw [hsame]
      refine h.advance hbefore hm rfl (fun _ hi => hi) (fun _ => ?_) fun _ _ ht => Or.inl ht
      rw [pendingView_intent, matched_fill hplan hnext hp own hsame.exited, add_comm]
      exact bookExitFill_filled own pending
    | converged target own pending terminal found pos reached hcleared =>
      refine h.release hbefore hafter hm pending hcleared.intent hcleared.zeroFills ?_
      refine .announced target pos (h.target target pending found).cons ?_
      rw [matchedVolume_cons, h.filled pending, pendingView_intent,
        matched_fill hplan hnext hp own hcleared.exited, add_comm, ← reached]
      exact (bookExitFill_filled own pending).symm
    | soldOut own pending alive gone hcleared =>
      refine h.release hbefore hafter hm pending hcleared.intent hcleared.zeroFills (.soldOut f rfl hp own ?_ ?_)
      · show 0 < s.book.remaining p
        rw [ExitPlanBook.remaining_of_get? hplan]
        exact applied.trans_le (min_le_right _ _)
      · show (s.step registry (.applyExitFill f)).book.remaining p = 0
        rw [ExitPlanBook.remaining_of_get? hnext]
        have hremaining : next.remainingVolume = (plan.bookExitFill f).remainingVolume := by
          unfold remainingVolume
          rw [hcleared.exited, hentry.entry]
          rfl
        have hnonneg : 0 ≤ next.remainingVolume := le_max_left 0 _
        omega

theorem PlanInv.step {op : ExitOp} (h : PlanInv log p (s.book.pending p)) (hop : ∀ d i, op ≠ .markIntent d i) :
    PlanInv (momentOf registry s op :: log) p ((s.step registry op).book.pending p) := by
  cases s.step_pending registry op p with
  | same _ heq _ => exact h.unchanged (fun d i hmark => absurd hmark (hop d i)) heq
  | marked d i => exact absurd rfl (hop d i)
  | ordered e own hplan hnext _ heffect => exact h.ordered hplan hnext own heffect
  | filled f own hplan hnext position heffect => exact h.filledBy hplan hnext own heffect position

theorem PlanInv.marking {d : ExitDecision} {i : String} (hinv : Inv log s) (hlegal : Legal log s (.markIntent d i)) :
    PlanInv (momentOf registry s (.markIntent d i) :: log) p ((s.step registry (.markIntent d i)).book.pending p) := by
  obtain ⟨hoffered, hi, hfresh⟩ := hlegal
  have hoffer := hinv.offers d hoffered
  by_cases hp : d.planId = p
  · subst hp
    have hzero : i ∉ (s.book.pending d.planId).zeroFills := fun hmem => hfresh ((hinv.plans _).zeroFills i hmem)
    rw [mark_pending hoffer hzero]
    obtain ⟨plan, hplan, hdecided⟩ := hoffer
    exact (hinv.plans _).mark rfl rfl (by rw [ExitPlanBook.pending_of_get? hplan]; exact hdecided.intent) hi hfresh
  · refine (hinv.plans p).unchanged (fun _ _ hop => by cases hop; exact hp) ?_
    cases s.step_pending registry (.markIntent d i) p with
    | same _ heq _ => exact heq
    | marked _ _ own => exact absurd own hp

theorem inv_step {op : ExitOp} (hinv : Inv log s) (hlegal : Legal log s op) :
    Inv (momentOf registry s op :: log) (s.step registry op) where
  offers := s.step_offers registry hinv.offers
  plans := fun p => by
    by_cases hmark : ∃ d i, op = .markIntent d i
    · obtain ⟨d, i, rfl⟩ := hmark
      exact PlanInv.marking hinv hlegal
    · push Not at hmark
      exact (hinv.plans p).step hmark

end RunStep

theorem Reaches.inv {registry : ExitStrategyRegistry} {log : History} {s : ExitRun} (h : Reaches registry log s) :
    Inv log s := by
  refine Run.invariant Inv ?_ (fun _ _ _ hinv hlegal => inv_step hinv hlegal) h
  rintro _ rfl
  exact inv_start

/-! ### The gate -/

section Gate
variable {registry : ExitStrategyRegistry} {log : History} {s : ExitRun} {p : String}

theorem order_keeps {plan next : ExitPlan} {e : OrderEvent} (heffect : OrderEffect plan e next) (hp : e.planId = p)
    (hnever : NeverReleases p plan.pendingView (.applyOrderEvent e)) : next.pendingIntentId = plan.pendingIntentId := by
  cases heffect with
  | ignored h => rw [h]
  | burned message h =>
    rw [h]
    rfl
  | working _ _ h => exact h.intent
  | held _ _ _ h => exact h.intent
  | announced _ _ _ _ _ h => exact h.intent
  | converged target own pending terminal found pos reached h =>
    obtain ⟨hcum, _, _, hprevious⟩ := terminalTarget?_eq_some.mp found
    simp only [NeverReleases, hcum, terminal] at hnever
    rcases hnever with hne | hne | ⟨hne, _⟩ | ⟨_, hzero | hbehind | ⟨previous, hprev, hlt⟩⟩
    · exact absurd hp hne
    · exact absurd own hne
    · cases hne
    · omega
    · have hfilled : plan.pendingView.filled = target := reached
      omega
    · have := hprevious previous hprev
      omega
  | zeroFill own pending zero h =>
    simp only [NeverReleases, zero] at hnever
    rcases hnever with hne | hne | ⟨_, hne⟩ | ⟨hne, _⟩
    · exact absurd hp hne
    · exact absurd own hne
    · exact absurd rfl hne
    · cases hne

theorem fill_keeps {plan next : ExitPlan} {f : ExitFill} (heffect : FillEffect plan f next) (hp : f.planId = p)
    (hpending : plan.pendingIntentId ≠ "") (hnever : NeverReleases p plan.pendingView (.applyExitFill f)) :
    next.pendingIntentId = plan.pendingIntentId := by
  have hother : f.intentId ≠ plan.pendingIntentId := hnever.resolve_left (not_not.mpr hp)
  cases heffect with
  | ignored _ h => rw [h]
  | refused _ message h =>
    rw [h]
    rfl
  | booked _ _ _ h =>
    cases h with
    | unmatched _ h _ => exact h.intent
    | uncorrelated _ idle _ => exact absurd idle hpending
    | progressed own _ _ => exact absurd own hother
    | converged _ own => exact absurd own hother
    | soldOut own => exact absurd own hother

theorem step_keeps {op : ExitOp} (hinv : Inv log s) (hlegal : Legal log s op) (hpending : (s.book.pending p).intent ≠ "")
    (hnever : NeverReleases p (s.book.pending p) op) :
    ((s.step registry op).book.pending p).intent = (s.book.pending p).intent := by
  cases s.step_pending registry op p with
  | same _ heq _ => rw [heq]
  | marked d i own =>
    -- A decision is offered only while nothing is pending.
    obtain ⟨plan, hget, hdecided⟩ := hinv.offers d hlegal.1
    rw [own] at hget
    rw [ExitPlanBook.pending_of_get? hget] at hpending
    exact absurd hdecided.intent hpending
  | ordered e own hplan hnext _ heffect =>
    rw [ExitPlanBook.pending_of_get? hplan] at hnever ⊢
    rw [ExitPlanBook.pending_of_get? hnext]
    exact order_keeps heffect own hnever
  | filled f own hplan hnext _ heffect =>
    rw [ExitPlanBook.pending_of_get? hplan] at hnever hpending ⊢
    rw [ExitPlanBook.pending_of_get? hnext]
    exact fill_keeps heffect own hpending hnever

/-- A plan gets a decision only when nothing is pending and every intent marked before was released in one of the three
    ways; no other operation ends a pending intent. -/
theorem decision_after_release (h : Reaches registry log s) :
    (∀ code context d, d ∈ decisionsOf (s.book.evaluate registry code context).2 →
      (s.book.pending d.planId).intent = "" ∧ ∀ i, Marked log d.planId i → Released log d.planId i) ∧
    ∀ op p, Legal log s op → (s.book.pending p).intent ≠ "" → NeverReleases p (s.book.pending p) op →
      ((s.step registry op).book.pending p).intent = (s.book.pending p).intent := by
  have hinv := Reaches.inv h
  refine ⟨fun code context d hd => ?_, fun op p hlegal hpending hnever => step_keeps hinv hlegal hpending hnever⟩
  obtain ⟨plan, hplan, hdecided⟩ := ExitPlanBook.evaluate_decided hd
  have hidle : (s.book.pending d.planId).intent = "" := by
    rw [ExitPlanBook.pending_of_get? hplan]
    exact hdecided.intent
  refine ⟨hidle, fun i hi => ?_⟩
  rcases (hinv.plans d.planId).released i hi with ⟨hne, heq⟩ | hreleased
  · exact absurd (heq.trans hidle) hne
  · exact hreleased

end Gate

def zeroFillReport : OrderEvent := { planId := "plan", intentId := "i1", status := .reconciledZeroFill }

def reofferedRun : ExitRun := (markedRun "i1").step manualRegistry (.applyOrderEvent zeroFillReport)

def reofferedLog : History :=
  [⟨markedRun "i1", .applyOrderEvent zeroFillReport, reofferedRun⟩,
    ⟨offeredRun, .markIntent manualDecision "i1", markedRun "i1"⟩,
    ⟨heldRun, .evaluate "600000.SH" morningContext, offeredRun⟩,
    ⟨{}, .registerEntryFill manualTemplate 100 10 none, heldRun⟩]

theorem reofferedRun_reached : Reaches manualRegistry reofferedLog reofferedRun := by
  have hstart : Reaches manualRegistry [] {} := .start rfl
  have hheld : Reaches manualRegistry _ heldRun := hstart.step (.registerEntryFill manualTemplate 100 10 none) trivial
  have hoffered : Reaches manualRegistry _ offeredRun := hheld.step (.evaluate "600000.SH" morningContext) trivial
  have hmarked : Reaches manualRegistry _ (markedRun "i1") :=
    hoffered.step (.markIntent manualDecision "i1") ⟨List.head_mem _, by decide, fun ⟨m, hm, d, hop, _⟩ => by
      rcases List.mem_cons.mp hm with rfl | hm
      · cases hop
      · obtain rfl := List.mem_singleton.mp hm
        cases hop⟩
  exact hmarked.step (.applyOrderEvent zeroFillReport) trivial

theorem reofferedRun_decides :
    decisionsOf (reofferedRun.book.evaluate manualRegistry "600000.SH" morningContext).2 ≠ [] := by decide +kernel

theorem decision_after_zero_fill :
    (∃ d ∈ decisionsOf (reofferedRun.book.evaluate manualRegistry "600000.SH" morningContext).2, d.planId = "plan") ∧
      Marked reofferedLog "plan" "i1" ∧ Released reofferedLog "plan" "i1" := by
  have hmarked : Marked reofferedLog "plan" "i1" :=
    ⟨_, List.mem_cons_of_mem _ List.mem_cons_self, manualDecision, rfl, manualDecision_planId⟩
  have hplan : ((decisionsOf (reofferedRun.book.evaluate manualRegistry "600000.SH" morningContext).2).head
      reofferedRun_decides).planId = "plan" := by decide +kernel
  have hgate := (decision_after_release reofferedRun_reached).1 "600000.SH" morningContext _
    (List.head_mem reofferedRun_decides)
  rw [hplan] at hgate
  exact ⟨⟨_, List.head_mem reofferedRun_decides, hplan⟩, hmarked, hgate.2 "i1" hmarked⟩

end QuantX.SellGate
