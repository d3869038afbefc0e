import QuantX.Trading.OrderSizer

namespace QuantX
open Lib

namespace AShareMarketRules
variable {volume requested available : Int} {request : OrderRequest}

theorem lotSize_pos : 0 < lotSize := by decide

theorem lotSize_dvd_normalizeBuyVolume (volume : Int) : lotSize ∣ normalizeBuyVolume volume := by
  unfold normalizeBuyVolume
  split
  · exact dvd_zero _
  · exact Dvd.intro_left _ rfl

theorem normalizeBuyVolume_nonneg (volume : Int) : 0 ≤ normalizeBuyVolume volume := by
  unfold normalizeBuyVolume
  split
  · exact le_rfl
  · rename_i hpos
    exact mul_nonneg (Int.ediv_nonneg (by omega) lotSize_pos.le) lotSize_pos.le

theorem le_normalizeBuyVolume {lots : Int} (hlots : lotSize ∣ lots) (hpos : 0 < lots) :
    lots ≤ normalizeBuyVolume volume ↔ lots ≤ volume := by
  unfold normalizeBuyVolume
  split
  · omega
  · have hgreatest := div_mul_isGreatest lotSize_pos volume
    exact ⟨fun h => h.trans hgreatest.1.2, fun h => hgreatest.2 ⟨hlots, h⟩⟩

theorem checkLots_sale (hsell : request.orderType = .sell) :
    checkLots request available = .passed ↔
      request.volume ≤ available ∧ (request.volume = available ∨ lotSize ≤ request.volume) := by
  simp only [checkLots, hsell]
  split
  · simp only [reduceCtorEq, false_iff]
    omega
  · split
    · simp only [reduceCtorEq, false_iff]
      omega
    · simp only [true_iff]
      omega

theorem checkVolume_unbounded :
    checkVolume request available none none = .passed ↔ 0 < request.volume ∧ checkLots request available = .passed := by
  unfold checkVolume
  split
  · simp only [reduceCtorEq, false_iff]
    omega
  · rename_i hpos
    rcases hlots : checkLots request available with _ | ⟨code, message, metadata⟩
    · simpa [checkVolumeBounds] using hpos
    · simp

theorem checkVolume_sale (hsell : request.orderType = .sell) :
    checkVolume request available none none = .passed ↔
      0 < request.volume ∧ request.volume ≤ available ∧ (request.volume = available ∨ lotSize ≤ request.volume) := by
  rw [checkVolume_unbounded, checkLots_sale hsell]

theorem normalizeSellVolume_cases (requested available : Int) :
    normalizeSellVolume requested available = 0 ∨
      0 < available ∧ normalizeSellVolume requested available = available ∨
      normalizeSellVolume requested available ≤ available ∧ lotSize ≤ normalizeSellVolume requested available := by
  simp only [normalizeSellVolume]
  split
  · exact .inl rfl
  · rename_i hpos
    split
    · exact .inr (.inl ⟨by omega, by assumption⟩)
    · split
      · exact .inl rfl
      · right
        right
        simp only [lotSize] at *
        omega

theorem normalizeSellVolume_accepted (hsell : request.orderType = .sell)
    (hvolume : request.volume = normalizeSellVolume requested available) :
    request.volume = 0 ∨ checkVolume request available none none = .passed := by
  rw [checkVolume_sale hsell, hvolume]
  rcases normalizeSellVolume_cases requested available with hzero | ⟨havailable, hall⟩ | ⟨hle, hlot⟩
  · exact .inl hzero
  · exact .inr ⟨by omega, by omega, .inl hall⟩
  · have := lotSize_pos
    exact .inr ⟨by omega, hle, .inr hlot⟩

theorem normalizeSellVolume_eq_self (hpos : 0 < requested) (hle : requested ≤ available) :
    normalizeSellVolume requested available = requested ↔ requested = available ∨ requested % lotSize = 0 := by
  have hmin : min requested available = requested := min_eq_left hle
  have hgiven : ¬(requested ≤ 0 ∨ available ≤ 0) := by omega
  simp only [normalizeSellVolume, hmin, if_neg hgiven, lotSize]
  split
  · rename_i hall
    simp [hall]
  · split <;> omega

/-- Sizing and the rules agree on a sale: what sizing leaves is nothing or accepted, and if it is accepted sizing leaves
    it as it is. -/
def SaleAgrees (request : OrderRequest) (available : Int) : Prop :=
  (normalizeSellVolume request.volume available = 0 ∨
      checkVolume { request with volume := normalizeSellVolume request.volume available } available none none = .passed) ∧
    (checkVolume request available none none = .passed → normalizeSellVolume request.volume available = request.volume)

def OddPart (volume available : Int) : Prop := lotSize ≤ volume ∧ volume < available ∧ volume % lotSize ≠ 0

instance : Decidable (OddPart volume available) := inferInstanceAs (Decidable (_ ∧ _ ∧ _))

theorem saleAgrees_iff (hsell : request.orderType = .sell) : SaleAgrees request available ↔ ¬OddPart request.volume available := by
  have hsized : normalizeSellVolume request.volume available = 0 ∨
      checkVolume { request with volume := normalizeSellVolume request.volume available } available none none = .passed :=
    @normalizeSellVolume_accepted _ _ { request with volume := normalizeSellVolume request.volume available } hsell rfl
  have hlot := lotSize_pos
  rw [SaleAgrees, checkVolume_sale hsell]
  constructor
  · rintro ⟨-, hkept⟩ ⟨hlots, hpart, hodd⟩
    have hself := hkept ⟨by omega, hpart.le, .inr hlots⟩
    rcases (normalizeSellVolume_eq_self (by omega) hpart.le).mp hself with hall | hwhole
    · exact hpart.ne hall
    · exact hodd hwhole
  · intro hpart
    refine ⟨hsized, ?_⟩
    rintro ⟨hpos, hle, hrule⟩
    refine (normalizeSellVolume_eq_self hpos hle).mpr ?_
    rcases hrule with hall | hlots
    · exact .inl hall
    · by_contra hneither
      exact hpart ⟨hlots, by omega, by omega⟩

end AShareMarketRules

/-! ## Drafts of sales -/

namespace OrderSizer
variable {sizer : OrderSizer} {intent : TradeIntent} {price : Rat} {account position : Fields} {orderType : OrderType}
  {allocatedAmountCap sellVolumeCap : PyVal} {draft : OrderDraft}

theorem draftIntent_ok (h : sizer.draftIntent intent orderType price account position allocatedAmountCap sellVolumeCap = .ok draft) :
    ∃ saleCap cap amount sizing,
      readSellVolumeCap orderType sellVolumeCap = .ok saleCap ∧
      readAllocationCap orderType price allocatedAmountCap = .ok cap ∧
      rawTargetAmount intent price account = .ok amount ∧
      sizeSide intent orderType price position saleCap
        (capLiquidity intent orderType price ⟨amount, intent.requestedVolume, [], intent.metadata⟩) = .ok sizing ∧
      draft = OrderSizer.draft intent orderType price (sizer.allocate price cap sizing) := by
  obtain ⟨saleCap, hsale, h⟩ := bind_eq_ok.mp h
  obtain ⟨cap, hcap, h⟩ := bind_eq_ok.mp h
  obtain ⟨amount, hamount, h⟩ := bind_eq_ok.mp h
  obtain ⟨sizing, hsizing, h⟩ := bind_eq_ok.mp h
  exact ⟨saleCap, cap, amount, sizing, hsale, hcap, hamount, hsizing, (Except.ok.inj h).symm⟩

theorem readAllocationCap_buy {cap : Rat} (h : readAllocationCap orderType price allocatedAmountCap = .ok (some cap)) :
    orderType = .buy ∧ 0 ≤ cap ∧ 0 < price := by
  have hcheck : ∀ given : Rat, checkAllocationCap orderType price given = .ok (some cap) → orderType = .buy ∧ 0 ≤ cap ∧ 0 < price := by
    intro given hgiven
    simp only [checkAllocationCap] at hgiven
    split at hgiven
    · cases hgiven
    · split at hgiven
      · cases hgiven
      · split at hgiven
        · cases hgiven
        · rename_i hcap hbuy hprice
          cases hgiven
          exact ⟨not_not.mp hbuy, not_lt.mp hcap, not_le.mp hprice⟩
  cases allocatedAmountCap with
  | int n => exact hcheck _ h
  | float q => exact hcheck _ h
  | _ => cases h

theorem draftIntent_sale
    (h : sizer.draftIntent intent .sell price account position allocatedAmountCap sellVolumeCap = .ok draft) :
    draft.sizedVolume = 0 ∨ ∃ requested available, intField position "available_volume" = .ok available ∧
      draft.sizedVolume = AShareMarketRules.normalizeSellVolume requested available := by
  obtain ⟨saleCap, cap, amount, sizing, -, hcap, -, hsizing, rfl⟩ := draftIntent_ok h
  have hnone : cap = none := by
    cases cap with
    | none => rfl
    | some cap => cases (readAllocationCap_buy hcap).1
  subst hnone
  simp only [sizeSide] at hsizing
  split at hsizing
  · cases hsizing
    exact .inl rfl
  · obtain ⟨available, havailable, hsizing⟩ := bind_eq_ok.mp hsizing
    cases hsizing
    exact .inr ⟨_, available, havailable, rfl⟩

/-- Every drafted sale is for nothing or accepted, and the two rules agree on a sale exactly where it is no odd part of
    the position. -/
theorem sell_volumes_agree_iff (request : OrderRequest) (hsell : request.orderType = .sell) :
    (∀ (sizer : OrderSizer) (intent : TradeIntent) (price : Rat) (account position : Fields) (allocatedAmountCap sellVolumeCap : PyVal)
        (draft : OrderDraft) (available : Int),
      sizer.draftIntent intent .sell price account position allocatedAmountCap sellVolumeCap = .ok draft →
      intField position "available_volume" = .ok available → request.volume = draft.sizedVolume →
      draft.sizedVolume = 0 ∨ AShareMarketRules.checkVolume request available none none = .passed) ∧
    ∀ available, AShareMarketRules.SaleAgrees request available ↔ ¬AShareMarketRules.OddPart request.volume available := by
  refine ⟨?_, fun available => AShareMarketRules.saleAgrees_iff hsell⟩
  intro sizer intent price account position allocatedAmountCap sellVolumeCap draft available h havailable hvolume
  rcases draftIntent_sale h with hzero | ⟨requested, read, hread, hsized⟩
  · exact .inl hzero
  · obtain rfl : read = available := Except.ok.inj (hread.symm.trans havailable)
    rw [← hvolume]
    exact AShareMarketRules.normalizeSellVolume_accepted hsell (hvolume.trans hsized)

def saleOf (volume : Int) : OrderRequest where
  instrumentCode := "600000.SH"
  orderType := .sell
  priceType := .limit
  volume := volume
  price := 10

/-- Half of 300 shares is sold in one order with an odd lot that sizing would cut off. -/
theorem odd_part_accepted : AShareMarketRules.checkVolume (saleOf 150) 300 none none = .passed ∧
    AShareMarketRules.normalizeSellVolume 150 300 ≠ 150 ∧ ¬AShareMarketRules.SaleAgrees (saleOf 150) 300 := by
  refine ⟨rfl, by decide, ?_⟩
  rintro ⟨-, hkept⟩
  exact absurd (hkept rfl) (by decide)

/-- The whole of an odd position is sold, and a sale of whole lots. -/
theorem sell_volumes_agree_whole : AShareMarketRules.SaleAgrees (saleOf 150) 150 ∧ AShareMarketRules.SaleAgrees (saleOf 200) 350 := by
  exact ⟨((sell_volumes_agree_iff (saleOf 150) rfl).2 150).mpr (by decide),
    ((sell_volumes_agree_iff (saleOf 200) rfl).2 350).mpr (by decide)⟩

end OrderSizer
end QuantX
