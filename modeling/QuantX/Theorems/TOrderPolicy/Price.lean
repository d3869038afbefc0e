import QuantX.Trading.TOrderPolicy
import QuantX.Lib.Multiples

namespace QuantX
open Lib

namespace TOrderPolicy
variable {policy : TOrderPolicy} {prices : PriceInputs} {unit : Int} {digits more : Nat} {x y value tick reference price : Rat}
variable {bounds : List Rat}

theorem onGrid_scale {numerator : Int} {places : Nat} (h : Decimal.OnGrid digits unit x) (hsmall : |numerator| < 10 ^ more) :
    Decimal.OnGrid (digits + more) (unit - places) (x * (numerator / 10 ^ places)) := by
  have hten : (10 : Rat) ≠ 0 := by norm_num
  obtain ⟨n, hn⟩ := h.multiple
  refine ⟨⟨n * numerator, ?_⟩, ?_⟩
  · rw [hn, zpow_sub₀ hten, zpow_natCast]
    push_cast
    ring
  · have hlarge : (0 : Rat) < 10 ^ places := by positivity
    have hfactor : |(numerator : Rat)| < 10 ^ more := by exact_mod_cast hsmall
    have hpow : (10 : Rat) ^ (((digits + more : Nat) : Int) + (unit - places)) = 10 ^ (digits + unit) * 10 ^ more / 10 ^ places := by
      rw [← zpow_natCast 10 more, ← zpow_natCast 10 places, ← zpow_add₀ hten, ← zpow_sub₀ hten]
      congr 1
      push_cast
      ring
    rw [hpow, abs_mul, abs_div, abs_of_pos hlarge, mul_div_assoc']
    refine div_lt_div_of_pos_right ?_ hlarge
    exact mul_lt_mul'' h.small hfactor (abs_nonneg _) (abs_nonneg _)

theorem onGrid_finer (places : Nat) (h : Decimal.OnGrid digits unit x) : Decimal.OnGrid (digits + places) (unit - places) x := by
  have hten : (10 : Rat) ≠ 0 := by norm_num
  obtain ⟨n, hn⟩ := h.multiple
  refine ⟨⟨n * 10 ^ places, ?_⟩, ?_⟩
  · rw [hn, zpow_sub₀ hten, zpow_natCast]
    push_cast
    field_simp
  · refine lt_of_lt_of_eq h.small ?_
    congr 1
    push_cast
    ring

theorem ceil_eq (x : Rat) : x.ceil = ⌈x⌉ := by
  refine eq_of_forall_ge_iff fun n => ?_
  rw [Rat.ceil_le_iff, Int.ceil_le]

theorem roundToTick_down (hvalue : Decimal.OnGrid 27 unit value) (htick : Decimal.OnGrid 27 unit tick) (hpos : 0 < value)
    (htickPos : 0 < tick) : roundToTick value tick false = floorTo tick value := by
  have hwhole : (dec (value / tick)).floor = ⌊value / tick⌋ := Decimal.floor_fix_div hvalue htick hpos htickPos
  have hle : floorTo tick value ≤ value := floorTo_le htickPos
  have hnonneg : 0 ≤ floorTo tick value :=
    mul_nonneg (Int.cast_nonneg (Int.floor_nonneg.mpr (div_pos hpos htickPos).le)) htickPos.le
  have hmultiple : Decimal.Multiple unit (floorTo tick value) := by
    obtain ⟨n, hn⟩ := htick.multiple
    exact ⟨⌊value / tick⌋ * n, by rw [floorTo]; nth_rewrite 2 [hn]; push_cast; ring⟩
  have hgrid := (Decimal.OnGrid.of_le hmultiple hnonneg hle hvalue).mono (show 27 ≤ 28 by decide)
  simp only [roundToTick, Bool.false_eq_true, if_false, hwhole]
  exact hgrid.fix_eq

theorem roundToTick_up (hvalue : Decimal.OnGrid 27 unit value) (htick : Decimal.OnGrid 27 unit tick) (hpos : 0 < value)
    (htickPos : 0 < tick) : roundToTick value tick true = ceilTo tick value := by
  have hwhole : (dec (value / tick)).ceil = ⌈value / tick⌉ :=
    (Decimal.ceil_fix_div hvalue htick hpos htickPos).trans (ceil_eq _)
  have hle : ceilTo tick value ≤ value + tick := by
    have hless := (Int.ceil_lt_add_one (value / tick)).le
    calc ceilTo tick value ≤ (value / tick + 1) * tick := mul_le_mul_of_nonneg_right hless htickPos.le
      _ = value + tick := by rw [add_mul, div_mul_cancel₀ _ htickPos.ne', one_mul]
  have hnonneg : 0 ≤ ceilTo tick value := hpos.le.trans (le_ceilTo htickPos)
  have hmultiple : Decimal.Multiple unit (ceilTo tick value) := by
    obtain ⟨n, hn⟩ := htick.multiple
    exact ⟨⌈value / tick⌉ * n, by rw [ceilTo]; nth_rewrite 2 [hn]; push_cast; ring⟩
  have hgrid := Decimal.OnGrid.of_le hmultiple hnonneg hle (hvalue.add htick)
  simp only [roundToTick, if_true, hwhole]
  exact hgrid.fix_eq

theorem le_foldl_min : x ≤ bounds.foldl min value ↔ x ≤ value ∧ ∀ bound ∈ bounds, x ≤ bound := by
  induction bounds generalizing value with
  | nil => simp
  | cons bound bounds ih => simp [ih, and_assoc]

theorem foldl_max_le : bounds.foldl max value ≤ x ↔ value ≤ x ∧ ∀ bound ∈ bounds, bound ≤ x := by
  induction bounds generalizing value with
  | nil => simp
  | cons bound bounds ih => simp [ih, and_assoc]

theorem foldl_choice {P : Rat → Prop} {pick : Rat → Rat → Rat} (hpick : ∀ x y, pick x y = x ∨ pick x y = y)
    (hvalue : P value) (hbounds : ∀ bound ∈ bounds, P bound) : P (bounds.foldl pick value) := by
  induction bounds generalizing value with
  | nil => exact hvalue
  | cons bound bounds ih =>
    refine ih ?_ fun other hother => hbounds other (List.mem_cons_of_mem _ hother)
    rcases hpick value bound with h | h
    · rw [h]
      exact hvalue
    · rw [h]
      exact hbounds bound (List.mem_cons_self ..)

theorem mem_givenBounds {bounds : List (Option Rat)} {bound : Rat} : bound ∈ givenBounds bounds ↔ some bound ∈ bounds ∧ 0 < bound := by
  simp only [givenBounds, List.mem_filterMap, Option.filter_eq_some_iff, decide_eq_true_eq]
  constructor
  · rintro ⟨given, hgiven, rfl, hpos⟩
    exact ⟨hgiven, hpos⟩
  · rintro ⟨hgiven, hpos⟩
    exact ⟨some bound, hgiven, rfl, hpos⟩

/-! ### The best price -/

/-- The prices that are given, whole numbers of one decimal place with at most 23 digits. -/
def PricesOnGrid (prices : PriceInputs) : Prop :=
  ∃ unit, ∀ given, some given ∈ [prices.referencePrice, prices.priceTick, prices.limitUp, prices.limitDown, prices.cageUpper,
    prices.cageLower] → Decimal.OnGrid 23 unit given

/-- A price within the slippage from the reference and within every positive bound of the policy's side. -/
def Respects (policy : TOrderPolicy) (prices : PriceInputs) (reference price : Rat) : Prop :=
  match policy.side with
  | .buy => price ≤ reference * (1 + policy.maxSlippageBps / 10000) ∧
      ∀ bound, some bound ∈ [prices.limitUp, prices.cageUpper] → 0 < bound → price ≤ bound
  | .sell => reference * (1 - policy.maxSlippageBps / 10000) ≤ price ∧
      ∀ bound, some bound ∈ [prices.limitDown, prices.cageLower] → 0 < bound → bound ≤ price

theorem positiveDecimal_ok {given : Option Rat} {reason : String} (h : positiveDecimal given reason = .ok value) :
    given = some value ∧ 0 < value := by
  unfold positiveDecimal at h
  split at h
  · cases h
  · rename_i hpos
    cases h
    rcases given with _ | given
    · exact absurd le_rfl hpos
    · exact ⟨rfl, not_le.mp hpos⟩

theorem maxSlippageBps_eq (policy : TOrderPolicy) : policy.maxSlippageBps = 30 := by
  rcases policy.frozen with h | h
  · exact (Prod.mk.inj (Prod.mk.inj (Prod.mk.inj h).2).2).1
  · exact (Prod.mk.inj (Prod.mk.inj (Prod.mk.inj h).2).2).1

theorem dec_factor (numerator : Int) (hsmall : |numerator| < 10 ^ 4) : dec (numerator / 1000) = numerator / 1000 := by
  refine @Decimal.OnGrid.fix_eq 28 (-3) _ ⟨⟨numerator, by norm_num [div_eq_mul_inv]⟩, ?_⟩
  have hfactor : |(numerator : Rat)| < 10 ^ 4 := by exact_mod_cast hsmall
  rw [abs_div]
  norm_num at hfactor ⊢
  linarith

theorem dec_moved (numerator : Int) (hsmall : |numerator| < 10 ^ 4) (h : Decimal.OnGrid 23 unit reference) :
    Decimal.OnGrid 27 (unit - 3) (reference * (numerator / 1000)) ∧
      dec (reference * (numerator / 1000)) = reference * (numerator / 1000) := by
  have hgrid := @onGrid_scale unit 23 4 reference numerator 3 h hsmall
  norm_num at hgrid
  exact ⟨hgrid, (hgrid.mono (by decide)).fix_eq⟩

theorem slippageBound_buy (hside : policy.side = .buy) (h : Decimal.OnGrid 23 unit reference) :
    Decimal.OnGrid 27 (unit - 3) (policy.slippageBound reference) ∧
      policy.slippageBound reference = reference * (1 + policy.maxSlippageBps / 10000) := by
  have hbps := dec_factor 3 (by norm_num)
  have hfactor := dec_factor 1003 (by norm_num)
  have hmoved := dec_moved 1003 (by norm_num) h
  norm_num at hbps hfactor hmoved
  simp only [slippageBound, hside, maxSlippageBps_eq]
  norm_num [hbps, hfactor, hmoved.1, hmoved.2]

theorem slippageBound_sell (hside : policy.side = .sell) (h : Decimal.OnGrid 23 unit reference) :
    Decimal.OnGrid 27 (unit - 3) (policy.slippageBound reference) ∧
      policy.slippageBound reference = reference * (1 - policy.maxSlippageBps / 10000) := by
  have hbps := dec_factor 3 (by norm_num)
  have hfactor := dec_factor 997 (by norm_num)
  have hmoved := dec_moved 997 (by norm_num) h
  norm_num at hbps hfactor hmoved
  simp only [slippageBound, hside, maxSlippageBps_eq]
  norm_num [hbps, hfactor, hmoved.1, hmoved.2]

theorem protectedLimitPrice_buy (hside : policy.side = .buy) (hgrid : PricesOnGrid prices)
    (h : policy.protectedLimitPrice prices = .ok price) :
    ∃ reference tick, prices.referencePrice = some reference ∧ prices.priceTick = some tick ∧
      IsGreatest {p | IsMultiple tick p ∧ policy.Respects prices reference p} price := by
  obtain ⟨unit, hgrid⟩ := hgrid
  obtain ⟨reference, hreference, h⟩ := bind_eq_ok.mp h
  obtain ⟨tick, htick, h⟩ := bind_eq_ok.mp h
  obtain ⟨hreference, hreferencePos⟩ := positiveDecimal_ok hreference
  obtain ⟨htick, htickPos⟩ := positiveDecimal_ok htick
  have hbound := slippageBound_buy hside (hgrid reference (by simp [hreference]))
  simp only [hside] at h
  cases h
  have hslipPos : 0 < policy.slippageBound reference := by
    rw [hbound.2, maxSlippageBps_eq]
    norm_num
    exact hreferencePos
  have hgiven : ∀ bound ∈ givenBounds [prices.limitUp, prices.cageUpper], Decimal.OnGrid 27 (unit - 3) bound ∧ 0 < bound := by
    intro bound hbound
    obtain ⟨hmem, hpos⟩ := mem_givenBounds.mp hbound
    refine ⟨(onGrid_finer 3 (hgrid bound ?_)).mono (by decide), hpos⟩
    simp only [List.mem_cons, List.not_mem_nil, or_false] at hmem ⊢
    tauto
  obtain ⟨hvalue, hvaluePos⟩ := foldl_choice (P := fun v => Decimal.OnGrid 27 (unit - 3) v ∧ 0 < v) min_choice
    ⟨hbound.1, hslipPos⟩ hgiven
  refine ⟨reference, tick, hreference, htick, ?_⟩
  rw [roundToTick_down hvalue ((onGrid_finer 3 (hgrid tick (by simp [htick]))).mono (by decide)) hvaluePos htickPos]
  have hrespects : ∀ p, policy.Respects prices reference p ↔
      p ≤ (givenBounds [prices.limitUp, prices.cageUpper]).foldl min (policy.slippageBound reference) := by
    intro p
    simp [Respects, hside, le_foldl_min, hbound.2, mem_givenBounds]
  simp only [hrespects]
  exact floorTo_isGreatest htickPos _

theorem protectedLimitPrice_sell (hside : policy.side = .sell) (hgrid : PricesOnGrid prices)
    (h : policy.protectedLimitPrice prices = .ok price) :
    ∃ reference tick, prices.referencePrice = some reference ∧ prices.priceTick = some tick ∧
      IsLeast {p | IsMultiple tick p ∧ policy.Respects prices reference p} price := by
  obtain ⟨unit, hgrid⟩ := hgrid
  obtain ⟨reference, hreference, h⟩ := bind_eq_ok.mp h
  obtain ⟨tick, htick, h⟩ := bind_eq_ok.mp h
  obtain ⟨hreference, hreferencePos⟩ := positiveDecimal_ok hreference
  obtain ⟨htick, htickPos⟩ := positiveDecimal_ok htick
  have hbound := slippageBound_sell hside (hgrid reference (by simp [hreference]))
  simp only [hside] at h
  cases h
  have hslipPos : 0 < policy.slippageBound reference := by
    rw [hbound.2, maxSlippageBps_eq]
    norm_num
    exact hreferencePos
  have hgiven : ∀ bound ∈ givenBounds [prices.limitDown, prices.cageLower], Decimal.OnGrid 27 (unit - 3) bound ∧ 0 < bound := by
    intro bound hbound
    obtain ⟨hmem, hpos⟩ := mem_givenBounds.mp hbound
    refine ⟨(onGrid_finer 3 (hgrid bound ?_)).mono (by decide), hpos⟩
    simp only [List.mem_cons, List.not_mem_nil, or_false] at hmem ⊢
    tauto
  obtain ⟨hvalue, hvaluePos⟩ := foldl_choice (P := fun v => Decimal.OnGrid 27 (unit - 3) v ∧ 0 < v) max_choice
    ⟨hbound.1, hslipPos⟩ hgiven
  refine ⟨reference, tick, hreference, htick, ?_⟩
  rw [roundToTick_up hvalue ((onGrid_finer 3 (hgrid tick (by simp [htick]))).mono (by decide)) hvaluePos htickPos]
  have hrespects : ∀ p, policy.Respects prices reference p ↔
      (givenBounds [prices.limitDown, prices.cageLower]).foldl max (policy.slippageBound reference) ≤ p := by
    intro p
    simp [Respects, hside, foldl_max_le, hbound.2, mem_givenBounds]
  simp only [hrespects]
  exact ceilTo_isLeast htickPos _

end TOrderPolicy
end QuantX
