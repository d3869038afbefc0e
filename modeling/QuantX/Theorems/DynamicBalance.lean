import Mathlib.Algebra.Order.Field.Rat
import Mathlib.Tactic.Linarith
import QuantX.Strategies.DynamicBalance

namespace QuantX
namespace BalanceParameters

variable {p : BalanceParameters} {input : BalanceInput} {close signal : Rat} {trend : BalanceTrendState}

/-- The caps on a position: of the parameters, the profile, the risk caps and the cash buffer. -/
def caps (p : BalanceParameters) (input : BalanceInput) : List Rat :=
  [p.maxPositionPct, input.profile.maxPositionPct.getD 1] ++ input.riskCaps.maxPositionPct.toList ++
    if 0 < input.assets then [max 0 (1 - p.cashBuffer input)] else []

/-- The targets keep within the caps and the least position, add up, and buy nothing that only reduces. -/
structure TargetsWithin (p : BalanceParameters) (input : BalanceInput) (close : Rat) (t : BalanceTargets) : Prop where
  lowest : p.minPct input ≤ t.targetTotalPct
  capped : ∀ cap ∈ p.caps input, t.targetTotalPct ≤ max (p.minPct input) cap
  parts : 0 ≤ p.coreMin input → t.targetCorePct + t.targetSwingPct = max 0 (t.targetTotalPct - t.lockedCorePct)
  swing : t.targetSwingPct ≤ input.profile.swingMaxPct.getD (15 / 100)
  swing_nonneg : 0 ≤ input.profile.swingMaxPct.getD (15 / 100) → 0 ≤ t.targetSwingPct
  reduces : input.riskCaps.onlyReducePosition → t.targetTotalPct ≤ max (p.minPct input) input.currentPositionPct
  keeps : input.riskCaps.onlyReducePosition → 0 ≤ p.rebalanceThresholdPct → 0 ≤ input.profile.swingMaxPct.getD (15 / 100) →
    0 < input.assets → 0 ≤ (input.currentBuckets close).coreAmount →
    max (p.minPct input) input.currentPositionPct * input.assets ≤
        (input.currentBuckets close).lockedCoreAmount + (input.currentBuckets close).coreAmount →
      ∀ phase amount, .buyCore amount ∉ p.coreRebalanceIntents input close t phase

theorem clamp_le_upper (value lower upper : Rat) : balanceClamp value lower upper ≤ max lower upper := by
  unfold balanceClamp
  split_ifs
  · exact max_le (le_max_left ..) ((min_le_left ..).trans (le_max_left ..))
  · exact max_le (le_max_left ..) ((min_le_left ..).trans (le_max_right ..))

theorem clamp_le_value (value lower upper : Rat) : balanceClamp value lower upper ≤ max lower value :=
  max_le (le_max_left ..) ((min_le_right ..).trans (le_max_right ..))

theorem maxPct_le_cap {cap : Rat} (h : cap ∈ p.caps input) : p.maxPct input ≤ cap := by
  have hlast : p.maxPct input ≤ min (min p.maxPositionPct (input.profile.maxPositionPct.getD 1))
      (input.riskCaps.maxPositionPct.getD (min p.maxPositionPct (input.profile.maxPositionPct.getD 1))) := by
    unfold maxPct
    split_ifs
    · exact min_le_left ..
    · exact le_refl _
  have hfirst := hlast.trans (min_le_left ..)
  simp only [caps, List.mem_append, List.mem_cons, List.not_mem_nil, or_false, Option.mem_toList, Option.mem_def] at h
  rcases h with ((rfl | rfl) | hrisk) | hbuffer
  · exact hfirst.trans (min_le_left ..)
  · exact hfirst.trans (min_le_right ..)
  · rw [hrisk] at hlast
    exact hlast.trans (min_le_right ..)
  · split_ifs at hbuffer with hassets
    · rw [List.mem_singleton.mp hbuffer]
      unfold maxPct
      rw [if_pos hassets]
      exact min_le_right ..
    · cases hbuffer

theorem targetTotalPct_le (h : input.riskCaps.onlyReducePosition) :
    (p.buildTargets input close signal trend).targetTotalPct ≤ max (p.minPct input) input.currentPositionPct := by
  refine (clamp_le_value ..).trans (max_le_max (le_refl _) ?_)
  rw [if_pos h]
  exact min_le_right ..

theorem core_add_swing (h : 0 ≤ p.coreMin input) {t : BalanceTargets} (ht : t = p.buildTargets input close signal trend) :
    t.targetCorePct + t.targetSwingPct = max 0 (t.targetTotalPct - t.lockedCorePct) := by
  have hactive := le_max_left 0 (t.targetTotalPct - t.lockedCorePct)
  have hswing : t.targetSwingPct ≤ max 0 (t.targetTotalPct - t.lockedCorePct) := by
    subst ht
    exact (min_le_left ..).trans (max_le hactive (sub_le_self _ (mul_nonneg hactive (h.trans (le_max_left ..)))))
  have hcore : t.targetCorePct = max 0 (max 0 (t.targetTotalPct - t.lockedCorePct) - t.targetSwingPct) := by
    subst ht
    rfl
  rw [hcore, max_eq_right (sub_nonneg.mpr hswing), sub_add_cancel]

theorem swing_nonneg (h : 0 ≤ input.profile.swingMaxPct.getD (15 / 100)) : 0 ≤ (p.buildTargets input close signal trend).targetSwingPct :=
  le_min (le_max_left ..) h

/-- Where the ledger's core volumes are worth the position and the least one, the core bucket has no gap. -/
theorem core_covered (hreduces : input.riskCaps.onlyReducePosition) (hswing : 0 ≤ input.profile.swingMaxPct.getD (15 / 100))
    (hassets : 0 < input.assets) (hcore : 0 ≤ (input.currentBuckets close).coreAmount)
    (hcovered : max (p.minPct input) input.currentPositionPct * input.assets ≤
      (input.currentBuckets close).lockedCoreAmount + (input.currentBuckets close).coreAmount) :
    (p.buildTargets input close signal trend).targetCorePct ≤ (input.currentBuckets close).coreAmount / input.assets := by
  have hlocked : (p.buildTargets input close signal trend).lockedCorePct = (input.currentBuckets close).lockedCoreAmount / input.assets :=
    if_pos hassets
  have htotal := @targetTotalPct_le p input close signal trend hreduces
  have hsum := (le_div_iff₀ hassets).mpr hcovered
  rw [add_div, ← hlocked] at hsum
  have hpct := div_nonneg hcore hassets.le
  refine max_le hpct ((sub_le_self _ (swing_nonneg hswing)).trans (max_le hpct ?_))
  exact sub_le_iff_le_add'.mpr (htotal.trans hsum)

end BalanceParameters
end QuantX
