import QuantX.Theorems.OrderSizer.Lots
import QuantX.Lib.Require
import Mathlib.Tactic.Positivity

namespace QuantX
open Lib

structure TradingCostPolicy.Nonneg (policy : TradingCostPolicy) : Prop where
  commissionRate : 0 ≤ policy.commissionRate
  minimumCommission : 0 ≤ policy.minimumCommission
  transferFeeRate : 0 ≤ policy.transferFeeRate

def GivenAmount (value : PyVal) (amount : Rat) : Prop := value = .float amount ∨ ∃ n : Int, value = .int n ∧ amount = n

namespace OrderSizer
variable {sizer : OrderSizer} {intent : TradeIntent} {price cap : Rat} {account position : Fields}
  {allocatedAmountCap sellVolumeCap : PyVal} {sizing : Sizing} {volume volume' : Int}

@[simp] theorem cashRequired_zero : sizer.cashRequired price 0 = 0 := by simp [cashRequired, estimateBuyFeeCny]

theorem estimateBuyFeeCny_nonneg {policy : TradingCostPolicy} (hcosts : policy.Nonneg) : 0 ≤ estimateBuyFeeCny price volume policy := by
  unfold estimateBuyFeeCny
  split
  · exact le_rfl
  · rename_i hpos
    have hprice : 0 < price := by
      by_contra hle
      exact hpos (.inl (not_lt.mp hle))
    have hvolume : (0 : Rat) < volume := by
      by_contra hle
      exact hpos (.inr (by exact_mod_cast not_lt.mp hle))
    have htransfer := hcosts.transferFeeRate
    exact add_nonneg (le_max_of_le_left hcosts.minimumCommission) (by positivity)

theorem cashRequired_mono (hcosts : sizer.costs.Nonneg) (hprice : 0 < price) (hvolume : 0 ≤ volume) (hle : volume ≤ volume') :
    sizer.cashRequired price volume ≤ sizer.cashRequired price volume' := by
  have hamount : price * volume ≤ price * volume' := mul_le_mul_of_nonneg_left (by exact_mod_cast hle) hprice.le
  rcases hvolume.eq_or_lt with rfl | hpos
  · have hnonneg : 0 ≤ price * volume' := by simpa using hamount
    rw [cashRequired_zero]
    exact add_nonneg hnonneg (estimateBuyFeeCny_nonneg hcosts)
  · have hgiven : ¬(price ≤ 0 ∨ volume ≤ 0) := by
      rintro (h | h)
      · exact absurd hprice (not_lt.mpr h)
      · omega
    have hgiven' : ¬(price ≤ 0 ∨ volume' ≤ 0) := by
      rintro (h | h)
      · exact absurd hprice (not_lt.mpr h)
      · omega
    simp only [cashRequired, estimateBuyFeeCny, if_neg hgiven, if_neg hgiven']
    have hcommission := mul_le_mul_of_nonneg_right hamount hcosts.commissionRate
    have htransfer := mul_le_mul_of_nonneg_right hamount hcosts.transferFeeRate
    exact add_le_add hamount (add_le_add (max_le_max le_rfl hcommission) htransfer)

theorem allocatedVolume_isGreatest (hcosts : sizer.costs.Nonneg) (hprice : 0 < price) (hcap : 0 ≤ cap) (hvolume : 0 ≤ volume) :
    IsGreatest {v | AShareMarketRules.lotSize ∣ v ∧ v ≤ volume ∧ sizer.cashRequired price v ≤ cap}
      (sizer.allocatedVolume price cap volume) := by
  have hlot := AShareMarketRules.lotSize_pos
  -- The lots that are paid for are the ones up to some number.
  have hdown : ∀ m n : Nat, m ≤ n → sizer.cashRequired price ((n : Int) * AShareMarketRules.lotSize) ≤ cap →
      sizer.cashRequired price ((m : Int) * AShareMarketRules.lotSize) ≤ cap := by
    intro m n hmn hfits
    refine (cashRequired_mono hcosts hprice (by positivity) ?_).trans hfits
    exact mul_le_mul_of_nonneg_right (by exact_mod_cast hmn) hlot.le
  have hnothing : sizer.cashRequired price (((0 : Nat) : Int) * AShareMarketRules.lotSize) ≤ cap := by simpa using hcap
  have hsearch := lastFit_isGreatest hdown hnothing (Nat.zero_le (volume / AShareMarketRules.lotSize).toNat)
  have hlots : ((volume / AShareMarketRules.lotSize).toNat : Int) = volume / AShareMarketRules.lotSize :=
    Int.toNat_of_nonneg (Int.ediv_nonneg hvolume hlot.le)
  obtain ⟨⟨hhigh, hfits⟩, hbest⟩ := hsearch
  refine ⟨⟨Dvd.intro_left _ rfl, ?_, hfits⟩, ?_⟩
  · have hwhole := (div_mul_isGreatest hlot volume).1.2
    refine (mul_le_mul_of_nonneg_right ?_ hlot.le).trans hwhole
    rw [← hlots]
    exact_mod_cast hhigh
  · rintro v ⟨⟨k, rfl⟩, hle, hpaid⟩
    rw [mul_comm] at hle hpaid ⊢
    refine mul_le_mul_of_nonneg_right ?_ hlot.le
    by_cases hk : 0 ≤ k
    · lift k to Nat using hk
      have hkhigh : k ≤ (volume / AShareMarketRules.lotSize).toNat := by
        have hdiv : (k : Int) ≤ volume / AShareMarketRules.lotSize := (Int.le_ediv_iff_mul_le hlot).mpr hle
        omega
      exact_mod_cast hbest ⟨hkhigh, hpaid⟩
    · exact (not_le.mp hk).le.trans (Int.natCast_nonneg _)

/-! ### Drafts of purchases -/

theorem sizeSide_buy {saleCap : Option Int} {target : SizingTarget} (h : sizeSide intent .buy price position saleCap target = .ok sizing) :
    AShareMarketRules.lotSize ∣ sizing.volume ∧ 0 ≤ sizing.volume := by
  simp only [sizeSide] at h
  split at h
  · cases h
    exact ⟨dvd_zero _, le_rfl⟩
  · simp only [sizeBuy] at h
    split at h
    · obtain ⟨capacity, -, h⟩ := bind_eq_ok.mp h
      cases h
      have hsized := AShareMarketRules.lotSize_dvd_normalizeBuyVolume (buyTarget price target)
      have hcapacity := AShareMarketRules.lotSize_dvd_normalizeBuyVolume capacity
      refine ⟨?_, le_min (AShareMarketRules.normalizeBuyVolume_nonneg _) (AShareMarketRules.normalizeBuyVolume_nonneg _)⟩
      rcases min_choice (AShareMarketRules.normalizeBuyVolume (buyTarget price target))
        (AShareMarketRules.normalizeBuyVolume capacity) with hmin | hmin
      · rw [hmin]
        exact hsized
      · rw [hmin]
        exact hcapacity
    · cases h
      exact ⟨AShareMarketRules.lotSize_dvd_normalizeBuyVolume _, AShareMarketRules.normalizeBuyVolume_nonneg _⟩

theorem readAllocationCap_given (hgiven : GivenAmount allocatedAmountCap cap) (hprice : 0 < price) (hcap : 0 ≤ cap) :
    readAllocationCap .buy price allocatedAmountCap = .ok (some cap) := by
  have hcheck : checkAllocationCap .buy price cap = .ok (some cap) := by
    simp [checkAllocationCap, if_neg (not_lt.mpr hcap), if_neg (not_le.mpr hprice)]
  rcases hgiven with rfl | ⟨n, rfl, rfl⟩
  · exact hcheck
  · exact hcheck

/-- The volume of a purchase with an allocation is the largest lot multiple, within the volume bought without it, whose
    price and fee the allocated amount covers. -/
theorem allocated_draft_greatest (sizer : OrderSizer) (intent : TradeIntent) (price cap : Rat) (account position : Fields)
    (allocatedAmountCap sellVolumeCap : PyVal) (hcosts : sizer.costs.Nonneg) (hprice : 0 < price) (hcap : 0 ≤ cap)
    (hgiven : GivenAmount allocatedAmountCap cap) :
    (∀ plain, sizer.draftIntent intent .buy price account position .none sellVolumeCap = .ok plain →
      ∃ draft, sizer.draftIntent intent .buy price account position allocatedAmountCap sellVolumeCap = .ok draft ∧
        AShareMarketRules.lotSize ∣ plain.sizedVolume ∧
        IsGreatest {v | AShareMarketRules.lotSize ∣ v ∧ v ≤ plain.sizedVolume ∧
          price * v + estimateBuyFeeCny price v sizer.costs ≤ cap} draft.sizedVolume ∧
        0 ≤ draft.sizedVolume ∧
        (cap < price * AShareMarketRules.lotSize + estimateBuyFeeCny price AShareMarketRules.lotSize sizer.costs →
          draft.sizedVolume = 0)) ∧
    ∀ draft, sizer.draftIntent intent .buy price account position allocatedAmountCap sellVolumeCap = .ok draft →
      ∃ plain, sizer.draftIntent intent .buy price account position .none sellVolumeCap = .ok plain := by
  have hread := readAllocationCap_given hgiven hprice hcap
  constructor
  · intro plain hplain
    obtain ⟨saleCap, none?, amount, sizing, hsale, hnone, hamount, hsizing, rfl⟩ := draftIntent_ok hplain
    obtain rfl := Except.ok.inj hnone
    obtain ⟨hlots, hnonneg⟩ := sizeSide_buy hsizing
    have hgreatest := allocatedVolume_isGreatest hcosts hprice hcap hnonneg
    have hvolume : 0 ≤ sizer.allocatedVolume price cap sizing.volume :=
      hgreatest.2 ⟨dvd_zero _, hnonneg, by simpa using hcap⟩
    refine ⟨OrderSizer.draft intent .buy price (sizer.allocate price (some cap) sizing), ?_, hlots, hgreatest, hvolume, ?_⟩
    · simp only [draftIntent, hsale, hread, hamount, hsizing, bind, Except.bind, pure, Except.pure]
    · intro hsmall
      obtain ⟨⟨k, hk⟩, -, hpaid⟩ := hgreatest.1
      have hlot := AShareMarketRules.lotSize_pos
      by_contra hne
      have hone : AShareMarketRules.lotSize ≤ sizer.allocatedVolume price cap sizing.volume :=
        Int.le_of_dvd (lt_of_le_of_ne hvolume (Ne.symm hne)) ⟨k, hk⟩
      exact absurd (hsmall.trans_le (cashRequired_mono hcosts hprice hlot.le hone)) (not_lt.mpr hpaid)
  · intro draft hdraft
    obtain ⟨saleCap, some?, amount, sizing, hsale, hsome, hamount, hsizing, rfl⟩ := draftIntent_ok hdraft
    refine ⟨OrderSizer.draft intent .buy price (sizer.allocate price none sizing), ?_⟩
    simp only [draftIntent, hsale, readAllocationCap, hamount, hsizing, bind, Except.bind, pure, Except.pure]

def plainSizer : OrderSizer where
  strOf _ := ""

def amountIntent : TradeIntent where
  intentId := "intent"
  instrumentCode := "600000.SH"
  bucket := "swing"
  targetAmount := some 10000

/-- An allocation of 5005.05 leaves a draft of at most 1000 shares, whose cash it covers. -/
theorem allocated_draft_greatest_plain : ∃ draft : OrderDraft, draft.sizedVolume ≤ 1000 ∧
    10 * draft.sizedVolume + estimateBuyFeeCny 10 draft.sizedVolume {} ≤ 500505 / 100 ∧ 500 ≤ draft.sizedVolume := by
  obtain ⟨plain, hplain, hvolume⟩ := exists_of_toOption
    (show (plainSizer.draftIntent amountIntent .buy 10 [] [] .none .none).toOption.map OrderDraft.sizedVolume = some 1000 by
      decide +kernel)
  obtain ⟨draft, -, -, ⟨⟨-, hle, hpaid⟩, hbest⟩, -⟩ :=
    (allocated_draft_greatest plainSizer amountIntent 10 (500505 / 100) [] [] (.float (500505 / 100)) .none
      ⟨by decide +kernel, by decide +kernel, by decide +kernel⟩ (by norm_num) (by norm_num) (.inl rfl)).1 plain hplain
  rw [hvolume] at hle
  exact ⟨draft, hle, hpaid, hbest ⟨by decide, by omega, by decide +kernel⟩⟩

end OrderSizer
end QuantX
