import QuantX.Theorems.ExitPlan.Run

namespace QuantX.ExitPlan
open Lib

/-- The plan is in `error` under a sticky message. -/
def Sticky (plan : ExitPlan) : Prop := plan.status = .error ∧ isStickyError plan.errorMessage = true

theorem isStickyError_append {start rest : String} (h : start ∈ stickyErrorPrefixes) :
    isStickyError (start ++ rest) = true := by
  unfold isStickyError
  rw [List.any_eq_true]
  refine ⟨start, h, ?_⟩
  rw [List.isPrefixOf_iff_prefix, String.toList_append]
  exact List.prefix_append _ _

theorem reconciliationError_eq {plan : ExitPlan} (h : Sticky plan) : plan.reconciliationError = plan.errorMessage :=
  if_pos h

theorem sticky_iff {plan : ExitPlan} : Sticky plan ↔ plan.reconciliationError ≠ "" := by
  constructor
  · intro h hempty
    rw [reconciliationError_eq h] at hempty
    have hsticky := h.2
    rw [hempty] at hsticky
    exact absurd hsticky (by decide)
  · intro h
    by_contra hnot
    exact h (if_neg hnot)

theorem fillIntentMismatchError_sticky (intentId current : String) (late : Bool) :
    isStickyError (fillIntentMismatchError intentId current late) = true := by
  unfold fillIntentMismatchError
  simp only
  split
  · exact isStickyError_append (by decide)
  · rw [String.append_assoc, String.append_assoc]
    exact isStickyError_append (by decide)

theorem lateSafetyError_cases (plan : ExitPlan) (fill : ExitFill) :
    plan.lateSafetyError fill = "" ∨ isStickyError (plan.lateSafetyError fill) = true := by
  unfold lateSafetyError
  split
  · exact Or.inr (isStickyError_append (by decide))
  · exact Or.inl rfl

theorem mismatchError_sticky (plan : ExitPlan) (fill : ExitFill) : Sticky (plan.mismatchError fill) := by
  refine ⟨rfl, ?_⟩
  show isStickyError (if plan.lateSafetyError fill ≠ "" then _ else _) = true
  split
  · rename_i hlate
    exact (lateSafetyError_cases plan fill).resolve_left hlate
  · exact fillIntentMismatchError_sticky _ _ _

theorem restore_sticky (plan : ExitPlan) {before : ExitPlan} (h : Sticky before) :
    Sticky (plan.restoreReconciliationError before.reconciliationError) := by
  unfold restoreReconciliationError
  rw [if_pos (sticky_iff.mp h)]
  refine ⟨rfl, ?_⟩
  rw [reconciliationError_eq h]
  exact h.2

namespace Sticky
variable {plan next : ExitPlan}

theorem applyOrderEvent (h : Sticky plan) (event : OrderEvent) : Sticky (plan.applyOrderEvent event) := by
  unfold ExitPlan.applyOrderEvent
  simp only
  split
  · exact ⟨rfl, fillIntentMismatchError_sticky _ _ _⟩
  · split
    · exact h
    · exact restore_sticky _ h

theorem applyExitFill (h : Sticky plan) (fill : ExitFill) : Sticky (plan.applyExitFill fill) := by
  unfold ExitPlan.applyExitFill
  simp only
  split
  · exact h
  · split
    · split
      · exact mismatchError_sticky plan fill
      · exact h
    · rw [if_pos (sticky_iff.mp h)]
      exact restore_sticky _ h

theorem registerEntryFill (h : Sticky plan) (volume : Int) (price : Rat) (time : Option DateTime) :
    Sticky (plan.registerEntryFill volume price time) := by
  have hbook : Sticky (plan.bookEntryFill volume price) := by
    refine ⟨?_, h.2⟩
    unfold bookEntryFill
    simp only [h.1]
  unfold ExitPlan.registerEntryFill
  split
  · exact h
  · split
    · exact hbook
    · split
      · exact hbook
      · exact hbook

theorem applyTemplate (h : Sticky plan) {template : ExitPlanTemplate} (happly : plan.applyTemplate template = .ok next) :
    Sticky next := by
  unfold ExitPlan.applyTemplate at happly
  split at happly
  · cases happly
  · cases happly
    exact h

theorem observed (h : Sticky plan) (hn : Observed plan next) : Sticky next := by
  refine ⟨hn.status.trans h.1, ?_⟩
  rw [hn.error]
  exact h.2

end Sticky
end QuantX.ExitPlan
