import QuantX.Trading.PositionAdjustment
import Mathlib.Tactic.Linarith

namespace QuantX
open Lib

/-- The ranges of a profile's fields, below the cap on the position where that is a share. -/
structure PositionAdjustmentProfile.WellFormed (profile : PositionAdjustmentProfile) (cap : Option Rat) : Prop where
  min_nonneg : 0 ≤ profile.minPositionPct
  min_le_max : profile.minPositionPct ≤ profile.maxPositionPct
  max_le_one : profile.maxPositionPct ≤ 1
  max_le_cap : ∀ c ∈ cap, 0 ≤ c → c ≤ 1 → profile.maxPositionPct ≤ c
  share_nonneg : 0 ≤ profile.coreShareMin
  share_min_le_max : profile.coreShareMin ≤ profile.coreShareMax
  share_le_one : profile.coreShareMax ≤ 1
  swing_nonneg : 0 ≤ profile.swingMaxPct
  swing_le_max : profile.swingMaxPct ≤ profile.maxPositionPct
  buckets : ∀ entry ∈ profile.bucketCaps,
    0 ≤ entry.2.minPct ∧ entry.2.minPct ≤ entry.2.maxPct ∧ entry.2.maxPct ≤ profile.maxPositionPct

def PositionAdjustmentProfile.NoBuys (profile : PositionAdjustmentProfile) : Prop :=
  profile.allowCoreBuy = false ∧ profile.allowSwingBuy = false

/-- What the risk caps demand of a profile, whatever the market and the overrides ask for. -/
structure PositionAdjustmentProfile.Within (profile : PositionAdjustmentProfile) (riskCaps : Fields) : Prop where
  cap : ∀ c ∈ (PyVal.get riskCaps "max_position_pct").optionalFloat, profile.maxPositionPct ≤ max 0 c
  cash : ∀ c ∈ (PyVal.get riskCaps "min_cash_buffer_pct").optionalFloat, min c 1 ≤ profile.targetCashBufferPct
  buy : TradingRiskChecker.isFalse (PyVal.get riskCaps "allow_buy") = true → profile.NoBuys
  sell : TradingRiskChecker.isFalse (PyVal.get riskCaps "allow_sell") = true →
    profile.allowCoreSell = false ∧ profile.allowSwingSell = false
  reduce : (PyVal.get riskCaps "only_reduce_position").truthy = true →
    profile.NoBuys ∧ profile.minPositionPct = 0 ∧ profile.maxPositionPct ≤ max 0 profile.currentPositionPct
  kill : (PyVal.get riskCaps "kill_switch_active").truthy = true →
    profile.NoBuys ∧ profile.profile = "DEFENSIVE" ∧ profile.minPositionPct = 0 ∧ profile.maxPositionPct ≤ 20 / 100 ∧
      40 / 100 ≤ profile.targetCashBufferPct ∧ profile.swingMaxPct = 0
  bucketBuy : profile.allowBucketBuy =
    [(.core, profile.allowCoreBuy), (.swing, profile.allowSwingBuy), (.lockedCore, false)]
  bucketSell : profile.allowBucketSell =
    [(.core, profile.allowCoreSell), (.swing, profile.allowSwingSell), (.lockedCore, false)]

namespace PositionAdjustmentLayer
variable {profile : PositionAdjustmentProfile} {riskCaps parameters : Fields} {cap : Option Rat}

/-- The clamped least position is within the greatest exactly where one of them was within the whole. -/
theorem clampProfile_min_le_max : (clampProfile profile).minPositionPct ≤ (clampProfile profile).maxPositionPct ↔
    profile.minPositionPct ≤ 1 ∨ profile.maxPositionPct ≤ 1 := by
  simp only [clampProfile]
  constructor
  · intro h
    by_contra hbeyond
    rw [not_or, not_le, not_le] at hbeyond
    have hmin : 1 < max 0 (min profile.minPositionPct profile.maxPositionPct) := lt_max_of_lt_right (lt_min hbeyond.1 hbeyond.2)
    have hmax : max 0 (min profile.maxPositionPct 1) ≤ 1 := max_le zero_le_one (min_le_right _ _)
    exact absurd (hmin.trans_le (h.trans hmax)) (lt_irrefl _)
  · intro h
    refine max_le_max le_rfl (le_min (min_le_right _ _) ?_)
    rcases h with h | h
    · exact (min_le_left _ _).trans h
    · exact (min_le_right _ _).trans h

theorem wellFormed_clampProfile (hcap : ∀ c ∈ cap, profile.maxPositionPct ≤ c) :
    (buildBucketCaps (clampProfile profile)).WellFormed cap ↔ profile.minPositionPct ≤ 1 ∨ profile.maxPositionPct ≤ 1 := by
  rw [← clampProfile_min_le_max]
  refine ⟨fun h => h.min_le_max, fun hle => ?_⟩
  have hmaxNonneg : 0 ≤ (clampProfile profile).maxPositionPct := le_max_left _ _
  have hmaxOne : (clampProfile profile).maxPositionPct ≤ 1 := max_le zero_le_one (min_le_right _ _)
  have hminNonneg : 0 ≤ (clampProfile profile).minPositionPct := le_max_left _ _
  have hshareNonneg : 0 ≤ (clampProfile profile).coreShareMin := le_max_left _ _
  have hshareMin : (clampProfile profile).coreShareMin ≤ 1 := max_le zero_le_one (min_le_right _ _)
  have hshareLe : (clampProfile profile).coreShareMin ≤ (clampProfile profile).coreShareMax := le_max_left _ _
  have hshareOne : (clampProfile profile).coreShareMax ≤ 1 := max_le hshareMin (min_le_right _ _)
  have hswingNonneg : 0 ≤ (clampProfile profile).swingMaxPct := le_max_left _ _
  have hswingLe : (clampProfile profile).swingMaxPct ≤ (clampProfile profile).maxPositionPct :=
    max_le hmaxNonneg (min_le_right _ _)
  refine ⟨hminNonneg, hle, hmaxOne, ?_, hshareNonneg, hshareLe, hshareOne, hswingNonneg, hswingLe, ?_⟩
  · intro c hc hpos _
    exact max_le hpos ((min_le_left _ _).trans (hcap c hc))
  · intro entry hentry
    simp only [buildBucketCaps, List.mem_cons, List.not_mem_nil, or_false] at hentry
    rcases hentry with rfl | rfl | rfl
    · refine ⟨mul_nonneg hminNonneg hshareNonneg, mul_le_mul hle hshareLe hshareNonneg hmaxNonneg, ?_⟩
      exact mul_le_of_le_one_right hmaxNonneg hshareOne
    · have hrest : 0 ≤ (clampProfile profile).maxPositionPct * max 0 (1 - (clampProfile profile).coreShareMin) :=
        mul_nonneg hmaxNonneg (le_max_left _ _)
      exact ⟨le_rfl, le_min hswingNonneg hrest, (min_le_left _ _).trans hswingLe⟩
    · exact ⟨le_rfl, le_rfl, hmaxNonneg⟩

theorem capAmounts_max_le : ∀ c ∈ (PyVal.get riskCaps "max_position_pct").optionalFloat,
    (capAmounts riskCaps profile).maxPositionPct ≤ c := by
  intro c hc
  simp only [capAmounts, Option.mem_def.mp hc, Option.map_some, Option.getD_some]
  exact min_le_right _ _

theorem tightenProfile_max_le :
    (tightenProfile riskCaps profile).maxPositionPct ≤ (capAmounts riskCaps profile).maxPositionPct := by
  simp only [tightenProfile]
  repeat' split
  all_goals simp [applyKillSwitch, applyReduceOnly, blockBuy, blockSell]

/-- The moves leave both positions beyond the whole exactly where no cap holds them and neither reduce-only nor the kill
    switch sets the least. -/
theorem tightenProfile_beyond :
    1 < (tightenProfile riskCaps profile).minPositionPct ∧ 1 < (tightenProfile riskCaps profile).maxPositionPct ↔
      1 < profile.minPositionPct ∧ 1 < profile.maxPositionPct ∧
        (∀ c ∈ (PyVal.get riskCaps "max_position_pct").optionalFloat, 1 < c) ∧
        (PyVal.get riskCaps "only_reduce_position").truthy = false ∧
        (PyVal.get riskCaps "kill_switch_active").truthy = false := by
  have hcap : 1 < (capAmounts riskCaps profile).maxPositionPct ↔ 1 < profile.maxPositionPct ∧
      ∀ c ∈ (PyVal.get riskCaps "max_position_pct").optionalFloat, 1 < c := by
    rcases hc : (PyVal.get riskCaps "max_position_pct").optionalFloat with _ | c
    · simp [capAmounts, hc]
    · simp [capAmounts, hc]
  have hmin : (capAmounts riskCaps profile).minPositionPct = profile.minPositionPct := rfl
  have hzero : ¬(1 : Rat) < 0 := by norm_num
  simp only [tightenProfile]
  rcases hkill : (PyVal.get riskCaps "kill_switch_active").truthy with _ | _
  · rcases hreduce : (PyVal.get riskCaps "only_reduce_position").truthy with _ | _
    · have hflags : ∀ moved : PositionAdjustmentProfile, moved.minPositionPct = profile.minPositionPct →
          moved.maxPositionPct = (capAmounts riskCaps profile).maxPositionPct →
          (1 < moved.minPositionPct ∧ 1 < moved.maxPositionPct ↔ 1 < profile.minPositionPct ∧ 1 < profile.maxPositionPct ∧
            ∀ c ∈ (PyVal.get riskCaps "max_position_pct").optionalFloat, 1 < c) := by
        intro moved hmovedMin hmovedMax
        rw [hmovedMin, hmovedMax, hcap]
      simp only [Bool.false_eq_true, if_false, and_true]
      refine hflags _ ?_ ?_
      all_goals
        repeat' split
        all_goals rfl
    · simp only [if_true, Bool.false_eq_true, if_false, Bool.true_eq_false, false_and, and_false, iff_false]
      rintro ⟨hbeyond, -⟩
      refine hzero (lt_of_lt_of_eq hbeyond ?_)
      repeat' split
      all_goals rfl
  · simp [applyKillSwitch, PositionProfileName.template, hzero]

def Unheld (riskCaps : Fields) : Prop :=
  (∀ c ∈ (PyVal.get riskCaps "max_position_pct").optionalFloat, 1 < c) ∧
    (PyVal.get riskCaps "only_reduce_position").truthy = false ∧ (PyVal.get riskCaps "kill_switch_active").truthy = false

theorem applyRiskCaps_wellFormed {capped : PositionAdjustmentProfile} (h : applyRiskCaps riskCaps profile = .ok capped) :
    (buildBucketCaps capped).WellFormed (PyVal.get riskCaps "max_position_pct").optionalFloat ↔
      ¬(1 < profile.minPositionPct ∧ 1 < profile.maxPositionPct ∧ Unheld riskCaps) := by
  obtain ⟨riskTags, -, h⟩ := bind_eq_ok.mp h
  obtain ⟨reasonCodes, -, h⟩ := bind_eq_ok.mp h
  cases h
  rw [wellFormed_clampProfile fun c hc => tightenProfile_max_le.trans (capAmounts_max_le c hc), ← not_lt, ← not_lt, ← not_and_or]
  exact not_congr tightenProfile_beyond

theorem applyParameterOverrides_ok {overridden : PositionAdjustmentProfile}
    (h : applyParameterOverrides parameters profile = .ok overridden) :
    ∃ overrides, mappingOrEmpty (PyVal.get parameters "position_profile_overrides") = .ok overrides ∧
      overridden.minPositionPct = overrideNumber overrides "min_position_pct" profile.minPositionPct ∧
      overridden.maxPositionPct = overrideNumber overrides "max_position_pct" profile.maxPositionPct := by
  obtain ⟨overrides, hoverrides, h⟩ := bind_eq_ok.mp h
  cases h
  exact ⟨overrides, hoverrides, rfl, rfl⟩

/-- Least and greatest position are both configured beyond the whole, and nothing in the risk caps holds them. -/
def BothBeyondWhole (template : PositionProfileTemplate) (parameters riskCaps : Fields) : Prop :=
  (∃ overrides, mappingOrEmpty (PyVal.get parameters "position_profile_overrides") = .ok overrides ∧
      1 < overrideNumber overrides "min_position_pct" template.minPositionPct ∧
      1 < overrideNumber overrides "max_position_pct" template.maxPositionPct) ∧
    Unheld riskCaps

/-- A profile is well formed exactly where least and greatest position are not both configured beyond the whole. -/
theorem adjustProfile_wellFormed_iff (template : PositionProfileTemplate) (reasonTags : List String) (current : Rat)
    (parameters riskCaps : Fields) (profile : PositionAdjustmentProfile)
    (h : adjustProfile parameters riskCaps { fromTemplate template reasonTags with currentPositionPct := current } = .ok profile) :
    profile.WellFormed (PyVal.get riskCaps "max_position_pct").optionalFloat ↔ ¬BothBeyondWhole template parameters riskCaps := by
  obtain ⟨overridden, hoverridden, h⟩ := bind_eq_ok.mp h
  obtain ⟨capped, hcapped, h⟩ := bind_eq_ok.mp h
  cases h
  obtain ⟨overrides, hoverrides, hmin, hmax⟩ := applyParameterOverrides_ok hoverridden
  rw [applyRiskCaps_wellFormed hcapped, hmin, hmax]
  refine not_congr ⟨?_, ?_⟩
  · rintro ⟨hminBeyond, hmaxBeyond, hunheld⟩
    exact ⟨⟨overrides, hoverrides, hminBeyond, hmaxBeyond⟩, hunheld⟩
  · rintro ⟨⟨read, hread, hminBeyond, hmaxBeyond⟩, hunheld⟩
    obtain rfl := Except.ok.inj (hread.symm.trans hoverrides)
    exact ⟨hminBeyond, hmaxBeyond, hunheld⟩

def overriddenNormal (overrides : Fields) : Except String PositionAdjustmentProfile :=
  adjustProfile [("position_profile_overrides", .dict overrides)] []
    { fromTemplate PositionProfileName.normalBalance.template ["default_normal"] with currentPositionPct := 0 }

/-- Overrides of one and a half for the least and of two for the greatest position leave the least one above the
    greatest. -/
theorem min_above_max : ∃ profile, overriddenNormal [("min_position_pct", .float (3 / 2)), ("max_position_pct", .float 2)] = .ok profile ∧
    profile.minPositionPct = 3 / 2 ∧ profile.maxPositionPct = 1 ∧ ¬profile.WellFormed none := by
  refine ⟨_, rfl, by decide +kernel, by decide +kernel, ?_⟩
  intro h
  exact absurd h.min_le_max (by decide +kernel)

/-- An override beyond the whole of the greatest position alone is clamped. -/
theorem adjustProfile_wellFormed_max : ∃ profile, overriddenNormal [("max_position_pct", .float 2)] = .ok profile ∧
    profile.WellFormed none := by
  have h : ∃ profile, overriddenNormal [("max_position_pct", .float 2)] = .ok profile := ⟨_, rfl⟩
  obtain ⟨profile, hprofile⟩ := h
  refine ⟨profile, hprofile, (adjustProfile_wellFormed_iff _ _ _ _ _ profile hprofile).mpr ?_⟩
  rintro ⟨⟨overrides, hoverrides, hmin, -⟩, -⟩
  obtain rfl := Except.ok.inj hoverrides
  exact absurd hmin (by decide +kernel)

/-! ## The risk caps prevail -/

theorem tightenProfile_cash_ge : ∀ c ∈ (PyVal.get riskCaps "min_cash_buffer_pct").optionalFloat,
    c ≤ (tightenProfile riskCaps profile).targetCashBufferPct := by
  intro c hc
  have hcapped : c ≤ (capAmounts riskCaps profile).targetCashBufferPct := by
    simp [capAmounts, Option.mem_def.mp hc]
  refine hcapped.trans ?_
  simp only [tightenProfile]
  repeat' split
  all_goals simp [applyKillSwitch, applyReduceOnly, blockBuy, blockSell]

theorem tightenProfile_current : (tightenProfile riskCaps profile).currentPositionPct = profile.currentPositionPct := by
  simp only [tightenProfile]
  repeat' split
  all_goals rfl

theorem clamp_eq_zero {q bound : Rat} (h : q ≤ 0) : max 0 (min q bound) = 0 := max_eq_left ((min_le_left _ _).trans h)

theorem tightenProfile_within : (buildBucketCaps (clampProfile (tightenProfile riskCaps profile))).Within riskCaps := by
  have hclamp {q bound : Rat} (hq : q ≤ bound) : max 0 (min q 1) ≤ max 0 bound :=
    max_le_max le_rfl ((min_le_left _ _).trans hq)
  refine ⟨?_, ?_, ?_, ?_, ?_, ?_, rfl, rfl⟩
  · intro c hc
    exact hclamp (tightenProfile_max_le.trans (capAmounts_max_le c hc))
  · intro c hc
    exact le_max_of_le_right (min_le_min_right 1 (tightenProfile_cash_ge c hc))
  · intro hbuy
    simp only [tightenProfile, hbuy, if_true]
    repeat' split
    all_goals exact ⟨rfl, rfl⟩
  · intro hsell
    simp only [tightenProfile, hsell, if_true]
    repeat' split
    all_goals exact ⟨rfl, rfl⟩
  · intro hreduce
    simp only [tightenProfile, hreduce, if_true]
    repeat' split
    all_goals refine ⟨⟨rfl, rfl⟩, clamp_eq_zero le_rfl, hclamp ?_⟩
    -- The kill switch takes its own bound besides the current position.
    all_goals first
      | exact min_le_right _ _
      | exact (min_le_left _ _).trans (min_le_right _ _)
  · intro hkill
    simp only [tightenProfile, hkill, if_true]
    refine ⟨⟨rfl, rfl⟩, rfl, clamp_eq_zero le_rfl, ?_, ?_, clamp_eq_zero le_rfl⟩
    · exact (hclamp (min_le_right _ _)).trans_eq (by decide +kernel)
    · exact le_max_of_le_right (le_min (le_max_right _ _) (by decide +kernel))

theorem adjustProfile_within {adjusted : PositionAdjustmentProfile} (h : adjustProfile parameters riskCaps profile = .ok adjusted) :
    adjusted.Within riskCaps ∧ adjusted.currentPositionPct = profile.currentPositionPct := by
  obtain ⟨overridden, hoverridden, h⟩ := bind_eq_ok.mp h
  obtain ⟨capped, hcapped, h⟩ := bind_eq_ok.mp h
  cases h
  obtain ⟨riskTags, -, hcapped⟩ := bind_eq_ok.mp hcapped
  obtain ⟨reasonCodes, -, hcapped⟩ := bind_eq_ok.mp hcapped
  cases hcapped
  obtain ⟨overrides, -, hoverridden⟩ := bind_eq_ok.mp hoverridden
  cases hoverridden
  exact ⟨tightenProfile_within, tightenProfile_current⟩

/-- Every profile that is built stays within the risk caps, and its current position is the one of the portfolio. -/
theorem buildProfile_within (strOf : PyVal → String) (marketContext riskCaps portfolioState runtimeState parameters : Fields)
    (instrumentCode : String) (profile : PositionAdjustmentProfile)
    (h : buildProfile strOf marketContext riskCaps portfolioState runtimeState parameters instrumentCode = .ok profile) :
    profile.Within riskCaps ∧ currentPositionPct portfolioState instrumentCode = .ok profile.currentPositionPct := by
  obtain ⟨current, hcurrent, h⟩ := bind_eq_ok.mp h
  obtain ⟨hwithin, hkept⟩ := adjustProfile_within h
  exact ⟨hwithin, hcurrent.trans (congrArg _ hkept.symm)⟩

/-- The kill switch prevails over overrides that ask for core buys and the whole. -/
theorem buildProfile_killed : ∃ profile, buildProfile (fun _ => "") [] [("kill_switch_active", .bool true)] [] []
    [("position_profile_overrides", .dict [("allow_core_buy", .bool true), ("max_position_pct", .int 1)])] "" = .ok profile ∧
    profile.Within [("kill_switch_active", .bool true)] :=
  Exists.imp (fun profile h => ⟨h, (buildProfile_within _ _ _ _ _ _ _ profile h).1⟩) ⟨_, rfl⟩

end PositionAdjustmentLayer
end QuantX
