import QuantX.Theorems.ExitPlan.Run

namespace QuantX.ExitPlan
variable {fills : List ExitFill} {l l' : List ExitFill}
open Lib

def volumeOf (fills : List ExitFill) : Int := (fills.map (·.volume)).sum
def amountOf (fills : List ExitFill) : Rat := (fills.map fun f => f.price * (f.volume : Rat)).sum

def ruleOf (plan : ExitPlan) (f : ExitFill) : String := if f.ruleId ≠ "" then f.ruleId else plan.pendingRuleId

def ruleVolume (plan : ExitPlan) (fills : List ExitFill) (r : String) : Option Int :=
  if r = "" ∨ ∀ f ∈ fills, plan.ruleOf f ≠ r then plan.ruleFilledVolumes.get? r
  else some (plan.ruleFilledVolumes.getD r 0 + volumeOf (fills.filter fun f => plan.ruleOf f = r))

/-- The completed rules after the fills: a once rule of the intent completes when its target is met. -/
def completedAfter (plan : ExitPlan) (fills : List ExitFill) : List String :=
  let target := plan.ruleTargetVolumes.getD plan.pendingRuleId 0
  match plan.rule? plan.pendingRuleId with
  | some rule =>
    if plan.pendingRuleId ≠ "" ∧ rule.once ∧ (plan.ruleVolume fills plan.pendingRuleId).getD 0 ≥ target ∧ target > 0 ∧
        rule.ruleId ∉ plan.completedRuleIds then plan.completedRuleIds ++ [rule.ruleId]
    else plan.completedRuleIds
  | none => plan.completedRuleIds

/-- The state that the fills of the pending intent lead to. It does not depend on their order. -/
structure Converged (plan : ExitPlan) (fills : List ExitFill) (next : ExitPlan) : Prop where
  status : next.status = if volumeOf fills = plan.remainingVolume then .completed else .partiallyExited
  exited : next.exitedVolume = plan.exitedVolume + volumeOf fills
  avgPrice : next.exitAvgPrice =
    (plan.exitAvgPrice * plan.exitedVolume + amountOf fills) / (plan.exitedVolume + volumeOf fills : Int)
  ruleFills : ∀ r, next.ruleFilledVolumes.get? r = plan.ruleVolume fills r
  completed : next.completedRuleIds = plan.completedAfter fills
  intent : next.pendingIntentId = ""
  order : next.pendingOrderId = ""
  rule : next.pendingRuleId = ""
  requested : next.pendingRequestedVolume = 0
  filled : next.pendingFilledVolume = 0
  orderTerminal : next.pendingOrderTerminal = false
  target : next.pendingTerminalCumulativeFill = none

theorem volumeOf_append (l l' : List ExitFill) : volumeOf (l ++ l') = volumeOf l + volumeOf l' := by
  unfold volumeOf
  rw [List.map_append, List.sum_append]

theorem volumeOf_cons (f : ExitFill) (l : List ExitFill) : volumeOf (f :: l) = f.volume + volumeOf l := by
  unfold volumeOf
  rw [List.map_cons, List.sum_cons]

theorem volumeOf_append_singleton (l : List ExitFill) (f : ExitFill) : volumeOf (l ++ [f]) = volumeOf l + f.volume := by
  rw [volumeOf_append, volumeOf_cons]
  show volumeOf l + (f.volume + 0) = _
  omega

theorem volumeOf_perm (h : l.Perm l') : volumeOf l = volumeOf l' := (h.map _).sum_eq

theorem amountOf_perm (h : l.Perm l') : amountOf l = amountOf l' := (h.map _).sum_eq

theorem amountOf_append_singleton (l : List ExitFill) (f : ExitFill) :
    amountOf (l ++ [f]) = amountOf l + f.price * (f.volume : Rat) := by
  unfold amountOf
  rw [List.map_append, List.sum_append, List.map_singleton, List.sum_singleton]

theorem volumeOf_nonneg {l : List ExitFill} (h : ∀ f ∈ l, 0 < f.volume) : 0 ≤ volumeOf l := by
  induction l with
  | nil => exact le_refl 0
  | cons f l ih =>
    have hf := h f List.mem_cons_self
    have hl := ih fun g hg => h g (List.mem_cons_of_mem _ hg)
    rw [volumeOf_cons]
    omega

theorem volumeOf_pos {l : List ExitFill} (h : ∀ f ∈ l, 0 < f.volume) (hne : l ≠ []) : 0 < volumeOf l := by
  cases l with
  | nil => exact absurd rfl hne
  | cons f l =>
    have hf := h f List.mem_cons_self
    have hl := volumeOf_nonneg fun g hg => h g (List.mem_cons_of_mem _ hg)
    rw [volumeOf_cons]
    omega

theorem ruleVolume_perm (plan : ExitPlan) (h : l.Perm l') (r : String) :
    plan.ruleVolume l r = plan.ruleVolume l' r := by
  unfold ruleVolume
  rw [volumeOf_perm (h.filter _)]
  have hmem : (∀ f ∈ l, plan.ruleOf f ≠ r) ↔ ∀ f ∈ l', plan.ruleOf f ≠ r :=
    ⟨fun hl f hf => hl f (h.mem_iff.mpr hf), fun hl f hf => hl f (h.mem_iff.mp hf)⟩
  simp only [hmem]

/-! ### Booking the fills of the pending intent -/

/-- `next` is `plan` with the fills booked on it and on its pending intent. -/
structure Booked (plan : ExitPlan) (fills : List ExitFill) (next : ExitPlan) : Prop where
  position : SameEntry plan next
  intent : next.pendingIntentId = plan.pendingIntentId
  rule : next.pendingRuleId = plan.pendingRuleId
  targets : next.ruleTargetVolumes = plan.ruleTargetVolumes
  completed : next.completedRuleIds = plan.completedRuleIds
  exited : next.exitedVolume = plan.exitedVolume + volumeOf fills
  amount : next.exitAvgPrice * next.exitedVolume = plan.exitAvgPrice * plan.exitedVolume + amountOf fills
  filled : next.pendingFilledVolume = plan.pendingFilledVolume + volumeOf fills
  ruleFills : ∀ r, next.ruleFilledVolumes.get? r = plan.ruleVolume fills r

theorem ruleVolume_nil (plan : ExitPlan) (r : String) : plan.ruleVolume [] r = plan.ruleFilledVolumes.get? r :=
  if_pos (Or.inr fun _ hf => by cases hf)

theorem Booked.refl (plan : ExitPlan) : Booked plan [] plan where
  position := .refl plan
  intent := rfl
  rule := rfl
  targets := rfl
  completed := rfl
  exited := (Int.add_zero _).symm
  amount := (add_zero _).symm
  filled := (Int.add_zero _).symm
  ruleFills := fun r => (plan.ruleVolume_nil r).symm

theorem ruleVolume_append (plan : ExitPlan) (fills : List ExitFill) (f : ExitFill) (r : String) :
    plan.ruleVolume (fills ++ [f]) r =
      if plan.ruleOf f = r ∧ r ≠ "" then some ((plan.ruleVolume fills r).getD 0 + f.volume) else plan.ruleVolume fills r := by
  have hsingle : volumeOf [f] = f.volume := by rw [volumeOf_cons]; exact add_zero _
  by_cases hr : r = ""
  · rw [if_neg (fun h => h.2 hr)]
    unfold ruleVolume
    rw [if_pos (Or.inl hr), if_pos (Or.inl hr)]
  by_cases hf : plan.ruleOf f = r
  · rw [if_pos ⟨hf, hr⟩]
    unfold ruleVolume
    have hnew : ¬(r = "" ∨ ∀ g ∈ fills ++ [f], plan.ruleOf g ≠ r) := by
      rintro (h | h)
      · exact hr h
      · exact h f (by simp) hf
    have hfilter : ([f].filter fun g => decide (plan.ruleOf g = r)) = [f] := by simp [hf]
    rw [if_neg hnew, List.filter_append, hfilter, volumeOf_append, hsingle]
    split
    · rename_i hnone
      have hempty : (fills.filter fun g => decide (plan.ruleOf g = r)) = [] := by
        rw [List.filter_eq_nil_iff]
        intro g hg hgr
        exact hnone.resolve_left hr g hg (of_decide_eq_true hgr)
      rw [hempty]
      show some (plan.ruleFilledVolumes.getD r 0 + (0 + f.volume)) = _
      rw [zero_add]
      rfl
    · rw [Option.getD_some, add_assoc]
  · rw [if_neg (fun h => hf h.1)]
    unfold ruleVolume
    have hfilter : ([f].filter fun g => decide (plan.ruleOf g = r)) = [] := by simp [hf]
    have hall : (∀ g ∈ fills ++ [f], plan.ruleOf g ≠ r) ↔ ∀ g ∈ fills, plan.ruleOf g ≠ r := by
      constructor
      · exact fun h g hg => h g (List.mem_append_left _ hg)
      · intro h g hg
        rcases List.mem_append.mp hg with hg | hg
        · exact h g hg
        · obtain rfl := List.mem_singleton.mp hg
          exact hf
    simp only [hall, List.filter_append, hfilter, List.append_nil]

theorem Booked.bookExitFill {plan next : ExitPlan} {f : ExitFill} (h : Booked plan fills next)
    (hpending : plan.pendingIntentId ≠ "") (own : f.intentId = plan.pendingIntentId) (hvolume : 0 < f.volume)
    (hfits : f.volume ≤ next.remainingVolume) (hexited : 0 ≤ next.exitedVolume) :
    Booked plan (fills ++ [f]) (next.bookExitFill f) := by
  have hmatch : next.matchesPending f = true :=
    matchesPending_iff.mpr ⟨by rw [h.intent]; exact hpending, own.trans h.intent.symm⟩
  have happlied : next.appliedVolume f = f.volume := by
    unfold appliedVolume
    omega
  have hsum := volumeOf_append_singleton fills f
  have hresolved : next.resolvedRuleId f = plan.ruleOf f := by
    unfold resolvedRuleId ruleOf
    rw [hmatch, h.rule]
    rfl
  have htotal : (next.bookExitFill f).exitedVolume = next.exitedVolume + f.volume := by
    show next.exitedVolume + next.appliedVolume f = _
    rw [happlied]
  refine ⟨h.position.trans ⟨rfl, rfl⟩, h.intent, h.rule, h.targets, h.completed, ?_, ?_, ?_, fun r => ?_⟩
  · rw [htotal, h.exited, hsum]
    omega
  · have hne : ((next.exitedVolume + f.volume : Int) : Rat) ≠ 0 := by
      have : next.exitedVolume + f.volume ≠ 0 := by omega
      exact_mod_cast this
    rw [htotal]
    show (next.exitAvgPrice * next.exitedVolume + f.price * next.appliedVolume f) /
      (next.exitedVolume + next.appliedVolume f : Int) * _ = _
    rw [happlied, div_mul_cancel₀ _ hne, h.amount, amountOf_append_singleton, add_assoc]
  · show (if next.matchesPending f then _ else _) = _
    rw [if_pos hmatch, happlied, h.filled, hsum]
    omega
  · rw [ruleVolume_append]
    show (if next.resolvedRuleId f ≠ "" then
      next.ruleFilledVolumes.set (next.resolvedRuleId f)
        (next.ruleFilledVolumes.getD (next.resolvedRuleId f) 0 + next.appliedVolume f)
      else next.ruleFilledVolumes).get? r = _
    rw [hresolved, happlied]
    by_cases hr : plan.ruleOf f = r
    · subst hr
      by_cases hempty : plan.ruleOf f = ""
      · rw [if_neg (not_not.mpr hempty), if_neg (fun hc => hc.2 hempty)]
        exact h.ruleFills _
      · rw [if_pos hempty, if_pos ⟨rfl, hempty⟩, Dict.get?_set_self]
        unfold Dict.getD
        rw [h.ruleFills]
    · have hother : ¬(plan.ruleOf f = r ∧ r ≠ "") := fun hc => hr hc.1
      rw [if_neg hother, ← h.ruleFills]
      split
      · exact Dict.get?_set_ne _ _ hr
      · rfl

theorem Booked.remaining {plan next : ExitPlan} (h : Booked plan fills next)
    (hnonneg : 0 ≤ volumeOf fills) (hle : volumeOf fills ≤ plan.remainingVolume) :
    next.remainingVolume = plan.remainingVolume - volumeOf fills := by
  unfold remainingVolume at hle ⊢
  rw [h.position.entry, h.exited]
  omega

theorem completeOnceRule_completed {plan next : ExitPlan} (h : Booked plan fills next) :
    (if next.pendingRuleId ≠ "" then next.completeOnceRule next.pendingRuleId else next).completedRuleIds =
      plan.completedAfter fills := by
  have hrule : next.rule? plan.pendingRuleId = plan.rule? plan.pendingRuleId := by
    unfold rule?
    rw [h.position.template]
  have hfilled : next.ruleFilledVolumes.getD plan.pendingRuleId 0 =
      (plan.ruleVolume fills plan.pendingRuleId).getD 0 := by
    unfold Dict.getD
    rw [h.ruleFills]
  unfold completedAfter completeOnceRule
  simp only [h.rule, h.targets, h.completed, hrule, hfilled]
  by_cases hempty : plan.pendingRuleId = ""
  · rw [if_neg (not_not.mpr hempty)]
    cases plan.rule? plan.pendingRuleId with
    | none => exact h.completed
    | some rule =>
      simp only [hempty, ne_eq, not_true_eq_false, false_and, ↓reduceIte]
      exact h.completed
  · rw [if_pos hempty, if_neg hempty]
    cases plan.rule? plan.pendingRuleId with
    | none => exact h.completed
    | some rule =>
      simp only [ne_eq, hempty, not_false_eq_true, true_and]
      split
      · rfl
      · exact h.completed

theorem Booked.finalizePending {plan next : ExitPlan} (h : Booked plan fills next)
    (hexited : 0 ≤ plan.exitedVolume) (hpos : 0 < volumeOf fills) (hle : volumeOf fills ≤ plan.remainingVolume) :
    Converged plan fills next.finalizePending := by
  have hremaining := h.remaining hpos.le hle
  have hsame : SamePending next
      (if next.pendingRuleId ≠ "" then next.completeOnceRule next.pendingRuleId else next) := by
    split
    · exact .completeOnceRule next _
    · exact .refl next
  have hposition : SameEntry next
      (if next.pendingRuleId ≠ "" then next.completeOnceRule next.pendingRuleId else next) := by
    split
    · exact completeOnceRule_sameEntry next _
    · exact .refl next
  have hcompleted := completeOnceRule_completed h
  have hkept : ∀ r : String, (next.completeOnceRule r).ruleFilledVolumes = next.ruleFilledVolumes ∧
      (next.completeOnceRule r).exitAvgPrice = next.exitAvgPrice := fun r => by
    unfold completeOnceRule
    simp only
    split_ifs
    · exact ⟨rfl, rfl⟩
    · split
      · split <;> exact ⟨rfl, rfl⟩
      · exact ⟨rfl, rfl⟩
  have hrest : (if next.pendingRuleId ≠ "" then next.completeOnceRule next.pendingRuleId else next).ruleFilledVolumes =
        next.ruleFilledVolumes ∧
      (if next.pendingRuleId ≠ "" then next.completeOnceRule next.pendingRuleId else next).exitAvgPrice =
        next.exitAvgPrice := by
    split
    · exact hkept _
    · exact ⟨rfl, rfl⟩
  unfold ExitPlan.finalizePending
  simp only
  generalize (if next.pendingRuleId ≠ "" then next.completeOnceRule next.pendingRuleId else next) = ended at *
  refine ⟨?_, ?_, ?_, fun r => ?_, hcompleted, rfl, rfl, rfl, rfl, rfl, rfl, rfl⟩
  · have hleft : ended.remainingVolume = plan.remainingVolume - volumeOf fills := by
      rw [← hremaining]
      unfold remainingVolume
      rw [hsame.exited, hposition.entry]
    show (if ended.remainingVolume ≤ 0 then _ else _) = _
    rw [hleft]
    by_cases heq : volumeOf fills = plan.remainingVolume
    · rw [if_pos (by omega), if_pos heq]
    · rw [if_neg (by omega), if_neg heq]
  · exact hsame.exited.trans h.exited
  · show ended.exitAvgPrice = _
    have hne : ((plan.exitedVolume + volumeOf fills : Int) : Rat) ≠ 0 := by
      have : plan.exitedVolume + volumeOf fills ≠ 0 := by omega
      exact_mod_cast this
    rw [hrest.2, eq_div_iff hne, ← h.amount, h.exited]
  · show ended.ruleFilledVolumes.get? r = _
    rw [hrest.1]
    exact h.ruleFills r

/-! ### The reports of the intent -/

/-- A plan whose intent `i` was just marked. -/
structure Fresh (plan : ExitPlan) (i : String) : Prop where
  intent : plan.pendingIntentId = i
  named : i ≠ ""
  status : plan.status = .exitPending
  filled : plan.pendingFilledVolume = 0
  alive : plan.pendingOrderTerminal = false
  target : plan.pendingTerminalCumulativeFill = none
  unproven : i ∉ plan.reconciledZeroFillIntentIds
  exited : 0 ≤ plan.exitedVolume

theorem markIntent_fresh {before plan : ExitPlan} {d : ExitDecision} {i : String}
    (h : before.markIntent d i = .ok plan) (hi : i ≠ "") (hexited : 0 ≤ before.exitedVolume) : Fresh plan i := by
  have hview := markIntent_pending h
  have hunproven : i ∉ before.reconciledZeroFillIntentIds := by
    intro hmem
    unfold markIntent at h
    rw [if_pos hmem] at h
    cases h
  have hstatus : plan.status = .exitPending := by
    unfold markIntent at h
    rw [if_neg hunproven] at h
    cases h
    rfl
  exact {
    intent := congrArg PendingView.intent hview, named := hi, status := hstatus
    filled := congrArg PendingView.filled hview, alive := congrArg PendingView.orderTerminal hview
    target := congrArg PendingView.target hview
    unproven := by
      have : plan.reconciledZeroFillIntentIds = before.reconciledZeroFillIntentIds := congrArg PendingView.zeroFills hview
      rw [this]
      exact hunproven
    exited := by
      have : plan.exitedVolume = before.exitedVolume := congrArg PendingView.exited hview
      rw [this]
      exact hexited }

/-- The intent is still pending after the fills. `target` is what its terminal report announced, if any. -/
structure Waiting (plan : ExitPlan) (fills : List ExitFill) (target : Option Int) (next : ExitPlan) : Prop where
  booked : Booked plan fills next
  status : next.status = .exitPending
  terminal : next.pendingOrderTerminal = target.isSome
  announced : next.pendingTerminalCumulativeFill = target
  zeroFills : next.reconciledZeroFillIntentIds = plan.reconciledZeroFillIntentIds

section Reports
variable {plan next : ExitPlan} {i : String} {fills : List ExitFill} {f : ExitFill} {e : OrderEvent} {target : Option Int}
  {total : Int}

theorem setStatus_self {status : ExitPlanStatus} (h : plan.status = status) : plan.setStatus status = plan := by
  subst h
  rfl

theorem reconciliationError_of_pending (h : plan.status = .exitPending) : plan.reconciliationError = "" :=
  if_neg fun hc => by
    rw [h] at hc
    cases hc.1

theorem lateAfterZeroFill_of_not_mem {j : String} (h : j ∉ plan.reconciledZeroFillIntentIds) :
    plan.lateAfterZeroFill j = false := by
  unfold lateAfterZeroFill
  simp [h]

theorem applyExitFill_settle (hstatus : next.status = .exitPending)
    (hlate : next.lateAfterZeroFill f.intentId = false) (hvolume : 0 < f.volume) (hprice : 0 < f.price)
    (hfits : f.volume ≤ next.remainingVolume) :
    next.applyExitFill f = (next.bookExitFill f).settleExitFill next f := by
  have happlied : ¬next.appliedVolume f ≤ 0 := by
    unfold appliedVolume
    omega
  have hsafe : next.lateSafetyError f = "" := by
    unfold lateSafetyError
    rw [hlate]
    rfl
  unfold applyExitFill
  simp only
  rw [if_neg (by push Not; exact ⟨hvolume, hprice⟩), if_neg happlied, reconciliationError_of_pending hstatus,
    if_neg (not_not.mpr rfl), hsafe, if_neg (fun hc => hc.1 rfl)]

theorem settleExitFill_own {booked : ExitPlan} (hpending : next.pendingIntentId ≠ "")
    (own : f.intentId = next.pendingIntentId)
    (hbehind : ∀ t, booked.pendingTerminalCumulativeFill = some t → booked.pendingFilledVolume ≤ t) :
    booked.settleExitFill next f =
      if booked.pendingOrderTerminal then
        if booked.terminalFillTargetReached then booked.finalizePending else booked.setStatus .exitPending
      else if booked.remainingVolume ≤ 0 then booked.finalizePending else booked.setStatus .exitPending := by
  have hmatch : next.matchesPending f = true := matchesPending_iff.mpr ⟨hpending, own⟩
  have hmiss : ¬next.mismatchesPending f = true := fun h => mismatchesPending_iff.mp h own
  have hexceeded : booked.exceededTarget? true = none := by
    unfold exceededTarget?
    split
    · rename_i t ht
      rw [if_neg]
      rintro ⟨_, _, hpast⟩
      have := hbehind t ht
      omega
    · rfl
  unfold settleExitFill
  simp only
  rw [if_neg hmiss, hmatch, hexceeded]
  simp

theorem Waiting.step (hfresh : Fresh plan i) (h : Waiting plan fills target next) (own : f.intentId = i)
    (hvolume : 0 < f.volume) (hprice : 0 < f.price) (hnonneg : 0 ≤ volumeOf fills)
    (hfits : volumeOf (fills ++ [f]) ≤ plan.remainingVolume)
    (hbehind : ∀ t, target = some t → volumeOf (fills ++ [f]) ≤ t) :
    Booked plan (fills ++ [f]) (next.bookExitFill f) ∧
      next.applyExitFill f =
        if target.isSome then
          if target = some (volumeOf (fills ++ [f])) then (next.bookExitFill f).finalizePending else next.bookExitFill f
        else if volumeOf (fills ++ [f]) = plan.remainingVolume then (next.bookExitFill f).finalizePending
        else next.bookExitFill f := by
  have hsum := volumeOf_append_singleton fills f
  have hintent : next.pendingIntentId = i := h.booked.intent.trans hfresh.intent
  have hpending : next.pendingIntentId ≠ "" := by
    rw [hintent]
    exact hfresh.named
  have hown : f.intentId = next.pendingIntentId := own.trans hintent.symm
  have hlate : next.lateAfterZeroFill f.intentId = false := by
    refine lateAfterZeroFill_of_not_mem ?_
    rw [h.zeroFills, own]
    exact hfresh.unproven
  have hremaining := h.booked.remaining hnonneg (by omega)
  have hexited : 0 ≤ next.exitedVolume := by
    have := h.booked.exited
    have := hfresh.exited
    omega
  have hbooked := h.booked.bookExitFill (hfresh.intent ▸ hfresh.named) (own.trans hfresh.intent.symm) hvolume
    (by omega) hexited
  have hleft := hbooked.remaining (by omega) hfits
  have hfilled : (next.bookExitFill f).pendingFilledVolume = volumeOf (fills ++ [f]) := by
    rw [hbooked.filled, hfresh.filled, zero_add]
  refine ⟨hbooked, ?_⟩
  rw [applyExitFill_settle h.status hlate hvolume hprice (by omega), settleExitFill_own hpending hown]
  · have hterminal : (next.bookExitFill f).pendingOrderTerminal = target.isSome := h.terminal
    have hself : (next.bookExitFill f).setStatus .exitPending = next.bookExitFill f := setStatus_self h.status
    rw [hterminal, hself]
    cases htarget : target with
    | none =>
      simp only [Option.isSome_none, Bool.false_eq_true, ↓reduceIte]
      by_cases hall : volumeOf (fills ++ [f]) = plan.remainingVolume
      · rw [if_pos (by omega), if_pos hall]
      · rw [if_neg (by omega), if_neg hall]
    | some t =>
      have hreached : (next.bookExitFill f).terminalFillTargetReached = true ↔ some t = some (volumeOf (fills ++ [f])) := by
        have hannounced : (next.bookExitFill f).pendingTerminalCumulativeFill = some t := h.announced.trans htarget
        have hterm : (next.bookExitFill f).pendingOrderTerminal = true := by rw [hterminal, htarget]; rfl
        rw [terminalFillTargetReached_iff, hannounced, hfilled]
        constructor
        · rintro ⟨_, _, t', ht', _, hreach⟩
          rw [hreach]
          exact ht'
        · intro heq
          exact ⟨hpending, hterm, _, heq, by omega, rfl⟩
      simp [hreached]
  · intro t ht
    rw [hfilled]
    exact hbehind t (h.announced.symm.trans ht)

theorem Waiting.advance (hfresh : Fresh plan i) (h : Waiting plan fills target next) (own : f.intentId = i)
    (hvolume : 0 < f.volume) (hprice : 0 < f.price) (hnonneg : 0 ≤ volumeOf fills)
    (hfits : volumeOf (fills ++ [f]) ≤ plan.remainingVolume)
    (hbehind : ∀ t, target = some t → volumeOf (fills ++ [f]) < t)
    (hleft : target = none → volumeOf (fills ++ [f]) ≠ plan.remainingVolume) :
    Waiting plan (fills ++ [f]) target (next.applyExitFill f) := by
  obtain ⟨hbooked, heq⟩ := h.step hfresh own hvolume hprice hnonneg hfits fun t ht => (hbehind t ht).le
  have hkeep : next.applyExitFill f = next.bookExitFill f := by
    rw [heq]
    cases htarget : target with
    | none =>
      rw [if_neg (by decide), if_neg (hleft htarget)]
    | some t =>
      rw [if_pos Option.isSome_some, if_neg]
      intro hsame
      have := hbehind t htarget
      rw [Option.some.inj hsame] at this
      omega
  rw [hkeep]
  exact ⟨hbooked, h.status, h.terminal, h.announced, h.zeroFills⟩

/-- The fill that reaches the announced total, or that sells the rest before anything is announced. -/
theorem Waiting.finish (hfresh : Fresh plan i) (h : Waiting plan fills target next) (own : f.intentId = i)
    (hvolume : 0 < f.volume) (hprice : 0 < f.price) (hnonneg : 0 ≤ volumeOf fills)
    (hfits : volumeOf (fills ++ [f]) ≤ plan.remainingVolume)
    (hreached : target = some (volumeOf (fills ++ [f])) ∨
      target = none ∧ volumeOf (fills ++ [f]) = plan.remainingVolume) :
    Converged plan (fills ++ [f]) (next.applyExitFill f) := by
  have hsum := volumeOf_append_singleton fills f
  obtain ⟨hbooked, heq⟩ := h.step hfresh own hvolume hprice hnonneg hfits fun t ht => by
    rcases hreached with hr | ⟨hr, _⟩ <;> rw [hr] at ht <;> cases ht
    exact le_refl _
  have hend : next.applyExitFill f = (next.bookExitFill f).finalizePending := by
    rw [heq]
    rcases hreached with hr | ⟨hr, hall⟩
    · rw [hr, if_pos Option.isSome_some, if_pos rfl]
    · rw [hr, if_neg (by decide), if_pos hall]
  rw [hend]
  exact hbooked.finalizePending hfresh.exited (by omega) hfits

theorem Waiting.soldSome (hfresh : Fresh plan i) :
    ∀ {l : List ExitFill}, (∀ f ∈ l, f.intentId = i ∧ 0 < f.volume ∧ 0 < f.price) → volumeOf l < plan.remainingVolume →
      Waiting plan l none (l.foldl applyExitFill plan) := by
  intro l
  induction l using List.reverseRecOn with
  | nil =>
    intro _ _
    exact ⟨.refl plan, hfresh.status, hfresh.alive, hfresh.target, rfl⟩
  | append_singleton l f ih =>
    intro hl hlt
    have hf := hl f (by simp)
    have hl' : ∀ g ∈ l, g.intentId = i ∧ 0 < g.volume ∧ 0 < g.price := fun g hg => hl g (List.mem_append_left _ hg)
    have hnonneg := volumeOf_nonneg fun g hg => (hl' g hg).2.1
    have hsum := volumeOf_append_singleton l f
    rw [List.foldl_append, List.foldl_cons, List.foldl_nil]
    exact (ih hl' (by omega)).advance hfresh hf.1 hf.2.1 hf.2.2 hnonneg hlt.le (fun _ ht => by cases ht)
      fun _ => hlt.ne

theorem Converged.soldOut (hfresh : Fresh plan i) {l : List ExitFill}
    (hl : ∀ f ∈ l, f.intentId = i ∧ 0 < f.volume ∧ 0 < f.price) (hpos : 0 < volumeOf l)
    (hall : volumeOf l = plan.remainingVolume) : Converged plan l (l.foldl applyExitFill plan) := by
  cases l using List.reverseRecOn with
  | nil => exact absurd hpos (lt_irrefl _)
  | append_singleton l f =>
    have hf := hl f (by simp)
    have hl' : ∀ g ∈ l, g.intentId = i ∧ 0 < g.volume ∧ 0 < g.price := fun g hg => hl g (List.mem_append_left _ hg)
    have hnonneg := volumeOf_nonneg fun g hg => (hl' g hg).2.1
    have hsum := volumeOf_append_singleton l f
    rw [List.foldl_append, List.foldl_cons, List.foldl_nil]
    exact (Waiting.soldSome hfresh hl' (by omega)).finish hfresh hf.1 hf.2.1 hf.2.2 hnonneg hall.le (Or.inr ⟨rfl, hall⟩)

theorem Waiting.announcedFills (hfresh : Fresh plan i) (htotal : total ≤ plan.remainingVolume) :
    ∀ {post fills : List ExitFill} {next : ExitPlan}, Waiting plan fills (some total) next → 0 ≤ volumeOf fills →
      (∀ f ∈ post, f.intentId = i ∧ 0 < f.volume ∧ 0 < f.price) → post ≠ [] → volumeOf (fills ++ post) = total →
      Converged plan (fills ++ post) (post.foldl applyExitFill next)
  | [], _, _, _, _, _, hne, _ => absurd rfl hne
  | [f], fills, next, h, hnonneg, hpost, _, hsum => by
    have hf := hpost f List.mem_cons_self
    exact h.finish hfresh hf.1 hf.2.1 hf.2.2 hnonneg (by omega) (Or.inl (by rw [hsum]))
  | f :: g :: rest, fills, next, h, hnonneg, hpost, _, hsum => by
    have hf := hpost f List.mem_cons_self
    have hrest : ∀ x ∈ g :: rest, x.intentId = i ∧ 0 < x.volume ∧ 0 < x.price :=
      fun x hx => hpost x (List.mem_cons_of_mem _ hx)
    have hpos := volumeOf_pos (fun x hx => (hrest x hx).2.1) (List.cons_ne_nil g rest)
    have hassoc : fills ++ f :: g :: rest = (fills ++ [f]) ++ (g :: rest) := by simp
    have hsplit : volumeOf (fills ++ [f]) + volumeOf (g :: rest) = total := by
      rw [← volumeOf_append, ← hassoc, hsum]
    have hnew := volumeOf_append_singleton fills f
    rw [hassoc, List.foldl_cons]
    refine Waiting.announcedFills hfresh htotal (h.advance hfresh hf.1 hf.2.1 hf.2.2 hnonneg (by omega) ?_ ?_)
      (by omega) hrest (List.cons_ne_nil _ _) (by rw [← hassoc, hsum])
    · intro t ht
      cases ht
      omega
    · intro hnone
      cases hnone

theorem applyOrderEvent_terminal (hfresh : Fresh plan i) (h : Waiting plan fills none next) (hintent : e.intentId = i)
    (hstatus : e.status = .filled ∨ e.status = .cancelled) :
    next.applyOrderEvent e =
      ((next.setOrderId e.orderId).applyTerminalOrderEvent e.status e.cumulativeFilledVolume) := by
  have hpending : next.pendingIntentId = i := h.booked.intent.trans hfresh.intent
  have hlate : next.lateAfterZeroFill e.intentId = false := by
    refine lateAfterZeroFill_of_not_mem ?_
    rw [h.zeroFills, hintent]
    exact hfresh.unproven
  have hsame : (e.intentId ≠ next.pendingIntentId) = False := by
    rw [hintent, hpending]
    simp
  unfold applyOrderEvent
  simp only [hlate, hsame, decide_false, Bool.and_false, Bool.or_self, Bool.false_and, Bool.false_eq_true, ↓reduceIte,
    or_false]
  rw [if_neg (by rw [hpending]; exact hfresh.named), reconciliationError_of_pending h.status]
  unfold restoreReconciliationError applyPendingOrderEvent
  rcases hstatus with hs | hs <;> rw [hs] <;> rfl

theorem Booked.announce (h : Booked plan fills next) (orderId : String) (t : Int) :
    Booked plan fills (((next.setOrderId orderId).holdTerminal).setTerminalTarget t) := by
  have hid : Booked plan fills (next.setOrderId orderId) := by
    unfold setOrderId
    split
    · exact ⟨h.position.trans ⟨rfl, rfl⟩, h.intent, h.rule, h.targets, h.completed, h.exited, h.amount, h.filled,
        h.ruleFills⟩
    · exact h
  exact ⟨hid.position.trans ⟨rfl, rfl⟩, hid.intent, hid.rule, hid.targets, hid.completed, hid.exited, hid.amount,
    hid.filled, hid.ruleFills⟩

theorem Waiting.terminal_report (hfresh : Fresh plan i) (h : Waiting plan fills none next) (hintent : e.intentId = i)
    (hstatus : e.status = .filled ∨ e.status = .cancelled) (hcumulative : e.cumulativeFilledVolume = .int total)
    (hpos : 0 < total) (hnonneg : 0 ≤ volumeOf fills) (hle : volumeOf fills ≤ total) :
    next.applyOrderEvent e =
      if volumeOf fills = total then (((next.setOrderId e.orderId).holdTerminal).setTerminalTarget total).finalizePending
      else ((next.setOrderId e.orderId).holdTerminal).setTerminalTarget total := by
  have hset := SamePending.setOrderId next e.orderId
  have hfilled : (next.setOrderId e.orderId).pendingFilledVolume = volumeOf fills := by
    rw [hset.filled, h.booked.filled, hfresh.filled, zero_add]
  have hfound : (next.setOrderId e.orderId).terminalTarget? e.status e.cumulativeFilledVolume = some total := by
    rw [terminalTarget?_eq_some, hfilled, hset.target, h.announced, hcumulative]
    refine ⟨if_pos hpos.le, ?_, by omega, fun _ hp => by cases hp⟩
    rintro ⟨_, hzero⟩
    omega
  rw [applyOrderEvent_terminal hfresh h hintent hstatus]
  unfold applyTerminalOrderEvent
  rw [hfound]
  simp only [hfilled]
  by_cases hall : volumeOf fills = total
  · rw [if_neg (by omega), if_neg (by omega), if_pos hall]
  · rw [if_pos (by omega), if_neg hall]

end Reports

theorem Converged.perm {plan next : ExitPlan} (h : Converged plan l next) (hp : l.Perm l') :
    Converged plan l' next := by
  have hrules : plan.completedAfter l = plan.completedAfter l' := by
    unfold completedAfter
    rw [ruleVolume_perm plan hp]
  exact {
    status := by rw [h.status, volumeOf_perm hp]
    exited := by rw [h.exited, volumeOf_perm hp]
    avgPrice := by rw [h.avgPrice, amountOf_perm hp, volumeOf_perm hp]
    ruleFills := fun r => by rw [h.ruleFills, ruleVolume_perm plan hp]
    completed := h.completed.trans hrules
    intent := h.intent, order := h.order, rule := h.rule, requested := h.requested, filled := h.filled
    orderTerminal := h.orderTerminal, target := h.target }

def applyReports (plan : ExitPlan) (pre : List ExitFill) (e : OrderEvent) (post : List ExitFill) : ExitPlan :=
  post.foldl applyExitFill ((pre.foldl applyExitFill plan).applyOrderEvent e)

/-- The reports of one intent: positive fills and the terminal report that announces their total, which fits in the
    requested volume and the position. -/
structure IntentReports (plan : ExitPlan) (i : String) (requested : Int) (fills : List ExitFill) (e : OrderEvent) : Prop where
  valid : ∀ f ∈ fills, f.intentId = i ∧ 0 < f.volume ∧ 0 < f.price
  total_pos : 0 < volumeOf fills
  total_le : volumeOf fills ≤ min requested plan.remainingVolume
  intent : e.intentId = i
  status : e.status = .filled ∨ e.status = .cancelled
  cumulative : e.cumulativeFilledVolume = .int (volumeOf fills)

theorem applyOrderEvent_released {next : ExitPlan} {e : OrderEvent} {i : String} (hidle : next.pendingIntentId = "")
    (hi : i ≠ "") (hintent : e.intentId = i) :
    (e.status = .filled → (next.applyOrderEvent e).status = .error) ∧
      (e.status = .cancelled → next.applyOrderEvent e = next) := by
  have hne : e.intentId ≠ "" := by
    rw [hintent]
    exact hi
  refine ⟨fun hs => ?_, fun hs => ?_⟩
  · unfold applyOrderEvent
    simp only [hs, hidle, hne, ne_eq, not_false_eq_true, decide_true, Bool.and_self, Bool.or_true,
      OrderReportStatus.provesWork, ↓reduceIte]
    rfl
  · unfold applyOrderEvent
    simp [hs, hidle, OrderReportStatus.provesWork]

/-- However the fills and the terminal report of a freshly marked intent interleave, the plan converges, unless FILLED
    comes last after the fills sold the whole position. -/
theorem reports_converge_iff {before plan : ExitPlan} {d : ExitDecision} {i : String}
    (hmark : before.markIntent d i = .ok plan) (hi : i ≠ "") (hexited : 0 ≤ before.exitedVolume)
    {fills pre post : List ExitFill} {e : OrderEvent} (h : IntentReports plan i plan.pendingRequestedVolume fills e)
    (hperm : (pre ++ post).Perm fills) :
    Converged plan fills (plan.applyReports pre e post) ↔
      ¬(e.status = .filled ∧ post = [] ∧ volumeOf fills = plan.remainingVolume) := by
  have hfresh := markIntent_fresh hmark hi hexited
  have hmem : ∀ f ∈ pre ++ post, f.intentId = i ∧ 0 < f.volume ∧ 0 < f.price := fun f hf =>
    h.valid f (hperm.mem_iff.mp hf)
  have hpre : ∀ f ∈ pre, f.intentId = i ∧ 0 < f.volume ∧ 0 < f.price := fun f hf => hmem f (List.mem_append_left _ hf)
  have hpost : ∀ f ∈ post, f.intentId = i ∧ 0 < f.volume ∧ 0 < f.price := fun f hf => hmem f (List.mem_append_right _ hf)
  have hnonneg := volumeOf_nonneg fun f hf => (hpre f hf).2.1
  have hfits : volumeOf fills ≤ plan.remainingVolume := h.total_le.trans (min_le_right _ _)
  have hpos := h.total_pos
  have hsplit : volumeOf pre + volumeOf post = volumeOf fills := by
    rw [← volumeOf_append]
    exact volumeOf_perm hperm
  unfold applyReports
  by_cases hlast : post = []
  · subst hlast
    have hall : volumeOf pre = volumeOf fills := by
      rw [← hsplit]
      exact (add_zero _).symm
    rw [List.append_nil] at hperm
    rw [List.foldl_nil]
    by_cases hgone : volumeOf fills = plan.remainingVolume
    · -- The fills sold the position and released the intent before the report arrived.
      have hdone := Converged.soldOut hfresh hpre (by omega) (by omega)
      obtain ⟨hfilled, hcancelled⟩ := applyOrderEvent_released hdone.intent hi h.intent
      rcases h.status with hs | hs
      · refine iff_of_false (fun hc => ?_) fun hn => hn ⟨hs, rfl, hgone⟩
        have hstatus := hc.status
        rw [hfilled hs, if_pos hgone] at hstatus
        cases hstatus
      · refine iff_of_true ?_ fun hc => ?_
        · rw [hcancelled hs]
          exact hdone.perm hperm
        · rw [hs] at hc
          cases hc.1
    · have hwaiting := Waiting.soldSome hfresh hpre (by omega)
      refine iff_of_true ?_ fun hc => hgone hc.2.2
      rw [hwaiting.terminal_report hfresh h.intent h.status h.cumulative hpos hnonneg (by omega), if_pos hall]
      exact ((hwaiting.booked.announce _ _).finalizePending hfresh.exited (by omega) (by omega)).perm hperm
  · have hmore := volumeOf_pos (fun f hf => (hpost f hf).2.1) hlast
    have hwaiting := Waiting.soldSome hfresh hpre (by omega)
    refine iff_of_true ?_ fun hc => hlast hc.2.1
    rw [hwaiting.terminal_report hfresh h.intent h.status h.cumulative hpos hnonneg (by omega), if_neg (by omega)]
    have hannounced : Waiting plan pre (some (volumeOf fills))
        ((((pre.foldl applyExitFill plan).setOrderId e.orderId).holdTerminal).setTerminalTarget (volumeOf fills)) :=
      ⟨hwaiting.booked.announce _ _, rfl, rfl, rfl, (SamePending.setOrderId _ _).zeroFills.trans hwaiting.zeroFills⟩
    exact (Waiting.announcedFills hfresh hfits hannounced hnonneg hpost hlast (volumeOf_perm hperm)).perm hperm

def heldPlan : ExitPlan := ({ template := manualTemplate } : ExitPlan).registerEntryFill 100 10 none

def sale : ExitDecision :=
  { planId := "plan", ruleId := "rule", ruleType := "MANUAL_TRIGGER", reason := "MANUAL_TRIGGER", volume := 100,
    priority := 500 }

def salePlan : ExitPlan :=
  { (heldPlan.openIntent sale "i1").startOnceRule sale with lastExitReason := sale.reason, status := .exitPending }

theorem salePlan_marked : heldPlan.markIntent sale "i1" = .ok salePlan := rfl

def saleFills : List ExitFill :=
  [{ planId := "plan", volume := 40, price := 11, intentId := "i1" },
    { planId := "plan", volume := 60, price := 12, intentId := "i1" }]

def saleReport : OrderEvent :=
  { planId := "plan", intentId := "i1", status := .filled, cumulativeFilledVolume := .int 100 }

theorem saleReports : IntentReports salePlan "i1" salePlan.pendingRequestedVolume saleFills saleReport where
  valid := by decide +kernel
  total_pos := by decide
  total_le := by decide +kernel
  intent := rfl
  status := Or.inl rfl
  cumulative := rfl

/-- The FILLED report between the two fills. -/
theorem sale_converges : Converged salePlan saleFills
    (salePlan.applyReports [{ planId := "plan", volume := 60, price := 12, intentId := "i1" }] saleReport
      [{ planId := "plan", volume := 40, price := 11, intentId := "i1" }]) := by
  refine (reports_converge_iff salePlan_marked (by decide) (by decide) saleReports (List.Perm.swap _ _ _)).mpr ?_
  rintro ⟨_, hlast, _⟩
  cases hlast

/-- The FILLED report after both fills puts the plan in `error`. -/
theorem filled_report_last_diverges :
    ¬∀ (before plan : ExitPlan) (d : ExitDecision) (i : String) (fills pre post : List ExitFill) (e : OrderEvent),
      before.markIntent d i = .ok plan → i ≠ "" → 0 ≤ before.exitedVolume →
      IntentReports plan i plan.pendingRequestedVolume fills e → (pre ++ post).Perm fills →
      Converged plan fills (plan.applyReports pre e post) := by
  intro hclaim
  have hstatus := (hclaim heldPlan salePlan sale "i1" saleFills saleFills [] saleReport salePlan_marked (by decide)
    (by decide) saleReports (by rw [List.append_nil])).status
  exact absurd hstatus (by decide +kernel)

end QuantX.ExitPlan
