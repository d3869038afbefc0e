import QuantX.Theorems.OrderSizer.Allocation

namespace QuantX
open Lib

namespace OrderSizer
variable {sizer : OrderSizer} {intent : TradeIntent} {price bound : Rat} {account position : Fields}
  {allocatedAmountCap sellVolumeCap : PyVal} {draft : OrderDraft} {amount : Option Rat} {lots : Int}

def Uncut (intent : TradeIntent) (amount : Option Rat) : Prop :=
  ∀ cap ∈ intent.liquidityCap, ∀ asked ∈ amount, asked ≤ cap

def wanted (intent : TradeIntent) (price : Rat) (amount : Option Rat) : Int :=
  buyTarget price (capLiquidity intent .buy price ⟨amount, intent.requestedVolume, [], intent.metadata⟩)

theorem capLiquidity_uncut {target : SizingTarget} (h : Uncut intent target.amount) : capLiquidity intent .buy price target = target := by
  unfold capLiquidity
  split
  · rename_i cap asked hcap hasked
    exact if_neg fun hcut => not_lt.mpr (h cap hcap asked hasked) hcut.2
  · rfl

theorem wanted_asked {volume : Int} (huncut : Uncut intent amount) (hasked : intent.requestedVolume = some volume)
    (hpos : 0 < volume) : wanted intent price amount = volume := by
  unfold wanted
  rw [capLiquidity_uncut huncut]
  simp [buyTarget, hasked, Option.filter, hpos]

theorem price_mul_floor_le (hprice : 0 < price) (bound : Rat) : price * ((bound / price).floor : Int) ≤ bound := by
  have hfloor : ((bound / price).floor : Rat) ≤ bound / price := Rat.floor_le _
  rw [mul_comm]
  exact (le_div_iff₀ hprice).mp hfloor

theorem buyTarget_paid {target : SizingTarget} (hprice : 0 < price) (hnone : ∀ volume ∈ target.volume, volume ≤ 0)
    {asked : Rat} (hamount : target.amount = some asked) : price * buyTarget price target ≤ max 0 asked := by
  have hvolume : target.volume.filter (0 < ·) = none := by
    rw [Option.filter_eq_none_iff]
    intro volume hmem
    simpa using hnone volume hmem
  simp only [buyTarget, hvolume, hamount]
  by_cases hpos : 0 < asked
  · simp only [Option.filter, hpos, decide_true, if_true]
    exact (price_mul_floor_le hprice asked).trans (le_max_right _ _)
  · simp [Option.filter, hpos]

theorem wanted_cut {cap asked : Rat} (hprice : 0 < price) (hcap : intent.liquidityCap = some cap) (hcut : cap < asked) :
    price * wanted intent price (some asked) ≤ cap := by
  have hcapPos : 0 < cap := by
    have hfilter := hcap
    unfold TradeIntent.liquidityCap at hfilter
    exact of_decide_eq_true (Option.filter_eq_some_iff.mp hfilter).2
  have hfloor := price_mul_floor_le hprice cap
  simp only [wanted, capLiquidity, hcap, hcut, and_self, if_true]
  simp only [buyTarget]
  split
  · rename_i volume hvolume
    obtain ⟨hmin, hpos⟩ := Option.filter_eq_some_iff.mp hvolume
    obtain ⟨given, -, rfl⟩ := Option.map_eq_some_iff.mp hmin
    refine le_trans (mul_le_mul_of_nonneg_left ?_ hprice.le) hfloor
    exact_mod_cast min_le_right _ _
  · rename_i paid _ hpaid
    obtain ⟨hsame, -⟩ := Option.filter_eq_some_iff.mp hpaid
    obtain rfl := Option.some.inj hsame
    exact hfloor
  · rename_i hnone
    simp [Option.filter, hcapPos] at hnone

theorem rawTargetAmount_stated {stated : Rat} (hstated : intent.statedAmount = some stated)
    (h : rawTargetAmount intent price account = .ok amount) : amount = some stated := by
  obtain ⟨asset, -, h⟩ := bind_eq_ok.mp h
  simp only [hstated] at h
  exact (Except.ok.inj h).symm

theorem rawTargetAmount_none (hprice : 0 < price) (h : rawTargetAmount intent price account = .ok none) :
    ∀ volume ∈ intent.requestedVolume, volume ≤ 0 := by
  obtain ⟨asset, -, h⟩ := bind_eq_ok.mp h
  split at h
  · cases h
  · cases h
  · intro volume hvolume
    have hnone := Option.map_eq_none_iff.mp (Except.ok.inj h)
    have hzero := Option.filter_eq_none_iff.mp hnone volume hvolume
    simp only [hprice, and_true, decide_eq_true_eq, not_not] at hzero
    exact hzero.le

def IsCeiling (intent : TradeIntent) (bound : Rat) : Prop :=
  intent.liquidityCap = some bound ∨ intent.statedAmount = some bound ∧ 0 ≤ bound

theorem IsCeiling.nonneg (h : IsCeiling intent bound) : 0 ≤ bound := by
  rcases h with hcap | ⟨-, hpos⟩
  · unfold TradeIntent.liquidityCap at hcap
    exact (of_decide_eq_true (Option.filter_eq_some_iff.mp hcap).2).le
  · exact hpos

theorem wanted_le (hprice : 0 < price) (hamount : rawTargetAmount intent price account = .ok amount)
    (hceiling : IsCeiling intent bound) (hnone : Uncut intent amount → ∀ volume ∈ intent.requestedVolume, volume ≤ 0) :
    price * wanted intent price amount ≤ bound := by
  rcases amount with _ | asked
  · -- Without an amount there is no volume either.
    have huncut : Uncut intent none := fun _ _ _ h => absurd h (Option.not_mem_none _)
    have hvolume : intent.requestedVolume.filter (0 < ·) = none := by
      rw [Option.filter_eq_none_iff]
      intro volume hmem
      simpa using rawTargetAmount_none hprice hamount volume hmem
    have hzero : wanted intent price none = 0 := by
      unfold wanted
      rw [capLiquidity_uncut huncut]
      simp [buyTarget, hvolume]
    rw [hzero]
    simpa using hceiling.nonneg
  · by_cases huncut : Uncut intent (some asked)
    · have hpaid : price * wanted intent price (some asked) ≤ max 0 asked := by
        unfold wanted
        rw [capLiquidity_uncut huncut]
        exact buyTarget_paid hprice (hnone huncut) rfl
      refine hpaid.trans (max_le hceiling.nonneg ?_)
      rcases hceiling with hcap | ⟨hstated, -⟩
      · exact huncut bound hcap asked rfl
      · exact (Option.some.inj (rawTargetAmount_stated hstated hamount)).le
    · simp only [Uncut, not_forall, not_le] at huncut
      obtain ⟨cap, hcap, given, hgiven, hcut⟩ := huncut
      obtain rfl : asked = given := Option.some.inj hgiven
      have hpaid := wanted_cut hprice hcap hcut
      rcases hceiling with hbound | ⟨hstated, -⟩
      · obtain rfl : cap = bound := Option.some.inj ((Option.mem_def.mp hcap).symm.trans hbound)
        exact hpaid
      · rw [← Option.some.inj (rawTargetAmount_stated hstated hamount)]
        exact hpaid.trans hcut.le

theorem le_sizeSide {saleCap : Option Int} {target : SizingTarget} {sizing : Sizing} (hprice : 0 < price)
    (h : sizeSide intent .buy price position saleCap target = .ok sizing)
    (hlots : AShareMarketRules.lotSize ∣ lots) (hpos : 0 < lots) :
    lots ≤ sizing.volume ↔ lots ≤ buyTarget price target ∧
      (intent.isEntry = true → ∃ capacity, oldInventory position = .ok capacity ∧ lots ≤ capacity) := by
  have hround : ∀ volume, lots ≤ AShareMarketRules.normalizeBuyVolume volume ↔ lots ≤ volume :=
    fun _ => AShareMarketRules.le_normalizeBuyVolume hlots hpos
  simp only [sizeSide, if_neg (not_le.mpr hprice), sizeBuy] at h
  split at h
  · rename_i hentry
    obtain ⟨capacity, hcapacity, h⟩ := bind_eq_ok.mp h
    cases h
    simp only [le_min_iff, hround, hentry, hcapacity, true_implies]
    constructor
    · rintro ⟨hwanted, hheld⟩
      exact ⟨hwanted, capacity, rfl, hheld⟩
    · rintro ⟨hwanted, read, hread, hheld⟩
      obtain rfl := Except.ok.inj hread
      exact ⟨hwanted, hheld⟩
  · rename_i hentry
    cases h
    simp [hround, hentry]

theorem le_allocate {cap : Option Rat} {sizing : Sizing} (hcosts : cap = none ∨ sizer.costs.Nonneg) (hprice : 0 < price)
    (hcap : ∀ c ∈ cap, 0 ≤ c) (hvolume : 0 ≤ sizing.volume) (hlots : AShareMarketRules.lotSize ∣ lots) (hle : lots ≤ sizing.volume)
    (hpaid : ∀ c ∈ cap, sizer.cashRequired price lots ≤ c) : lots ≤ (sizer.allocate price cap sizing).volume := by
  rcases cap with _ | cap
  · exact hle
  · rcases hcosts with hnone | hcosts
    · cases hnone
    · exact (allocatedVolume_isGreatest hcosts hprice (hcap cap rfl) hvolume).2 ⟨hlots, hle, hpaid cap rfl⟩

theorem allocate_volume {cap : Option Rat} {sizing : Sizing} (hcap : ∀ c ∈ cap, 0 ≤ c)
    (hsized : AShareMarketRules.lotSize ∣ sizing.volume ∧ 0 ≤ sizing.volume) :
    let volume := (sizer.allocate price cap sizing).volume
    AShareMarketRules.lotSize ∣ volume ∧ 0 ≤ volume ∧ volume ≤ sizing.volume ∧ ∀ c ∈ cap, sizer.cashRequired price volume ≤ c := by
  rcases cap with _ | cap
  · exact ⟨hsized.1, hsized.2, le_rfl, fun _ h => absurd h (Option.not_mem_none _)⟩
  · have hlot := AShareMarketRules.lotSize_pos
    have hnothing : sizer.cashRequired price (((0 : Nat) : Int) * AShareMarketRules.lotSize) ≤ cap := by
      simpa using hcap cap rfl
    let fits := fun lots : Nat => sizer.cashRequired price ((lots : Int) * AShareMarketRules.lotSize) ≤ cap
    have hrange := (@lastFit_range fits _ 0 _ (Nat.zero_le (sizing.volume / AShareMarketRules.lotSize).toNat)).2
    refine ⟨Dvd.intro_left _ rfl, mul_nonneg (Int.natCast_nonneg _) hlot.le, ?_, ?_⟩
    · refine (mul_le_mul_of_nonneg_right ?_ hlot.le).trans (div_mul_isGreatest hlot sizing.volume).1.2
      have hlots := Int.toNat_of_nonneg (Int.ediv_nonneg hsized.2 hlot.le)
      rw [← hlots]
      exact_mod_cast hrange
    · rintro c hc
      obtain rfl : cap = c := Option.some.inj hc
      exact @lastFit_fits fits _ 0 _ hnothing

/-- Some whole lots beyond the bound are within a volume asked for and not cut by the liquidity, the old inventory of an
    entry and the allocation. -/
def ReachesBeyond (sizer : OrderSizer) (intent : TradeIntent) (price : Rat) (account position : Fields) (allocatedAmountCap : PyVal)
    (bound : Rat) : Prop :=
  ∃ lots, AShareMarketRules.lotSize ∣ lots ∧ bound < price * lots ∧
    (∃ volume, intent.requestedVolume = some volume ∧ lots ≤ volume) ∧
    (∀ amount, rawTargetAmount intent price account = .ok amount → Uncut intent amount) ∧
    (intent.isEntry = true → ∃ capacity, oldInventory position = .ok capacity ∧ lots ≤ capacity) ∧
    ∀ cap, readAllocationCap .buy price allocatedAmountCap = .ok (some cap) → sizer.cashRequired price lots ≤ cap

/-- What is bought keeps within a bound where no volume asked for reaches beyond, and only there. -/
theorem sizedVolume_le_iff (hprice : 0 < price) (hceiling : IsCeiling intent bound)
    (h : sizer.draftIntent intent .buy price account position allocatedAmountCap sellVolumeCap = .ok draft) :
    (¬ReachesBeyond sizer intent price account position allocatedAmountCap bound → price * draft.sizedVolume ≤ bound) ∧
      (allocatedAmountCap = .none ∨ sizer.costs.Nonneg → price * draft.sizedVolume ≤ bound →
        ¬ReachesBeyond sizer intent price account position allocatedAmountCap bound) := by
  obtain ⟨saleCap, cap, amount, sizing, -, hcap, hamount, hsizing, rfl⟩ := draftIntent_ok h
  have hsized := sizeSide_buy hsizing
  have hcapNonneg : ∀ c ∈ cap, 0 ≤ c := by
    intro c hc
    obtain rfl := Option.mem_def.mp hc
    exact (readAllocationCap_buy hcap).2.1
  constructor
  · intro hwithin
    obtain ⟨hlots, hnonneg, hle, hpaid⟩ := @allocate_volume sizer price _ _ hcapNonneg hsized
    by_contra hbeyond
    rw [not_le] at hbeyond
    -- The volume that is bought would be such lots itself.
    have hpos : 0 < (sizer.allocate price cap sizing).volume := by
      have hamountPos := hceiling.nonneg.trans_lt hbeyond
      exact_mod_cast pos_of_mul_pos_right hamountPos hprice.le
    obtain ⟨hwanted, hheld⟩ := (le_sizeSide hprice hsizing hlots hpos).mp hle
    by_cases hasked : Uncut intent amount ∧ ∃ volume, intent.requestedVolume = some volume ∧ 0 < volume
    · obtain ⟨huncut, volume, hvolume, hvolumePos⟩ := hasked
      refine hwithin ⟨_, hlots, hbeyond, ⟨volume, hvolume, ?_⟩, ?_, hheld, ?_⟩
      · rw [← @wanted_asked intent price amount volume huncut hvolume hvolumePos]
        exact hwanted
      · intro read hread
        obtain rfl := Except.ok.inj (hread.symm.trans hamount)
        exact huncut
      · intro c hc
        obtain rfl := Except.ok.inj (hc.symm.trans hcap)
        exact hpaid c rfl
    · have hbound : price * wanted intent price amount ≤ bound := by
        refine wanted_le hprice hamount hceiling ?_
        intro huncut volume hvolume
        by_contra hvolumePos
        exact hasked ⟨huncut, volume, hvolume, not_le.mp hvolumePos⟩
      have hless : price * (sizer.allocate price cap sizing).volume ≤ price * wanted intent price amount :=
        mul_le_mul_of_nonneg_left (by exact_mod_cast hwanted) hprice.le
      exact absurd (hbeyond.trans_le (hless.trans hbound)) (lt_irrefl _)
  · rintro hcosts hle ⟨lots, hlots, hbeyond, ⟨volume, hvolume, hasked⟩, huncut, hheld, hpaid⟩
    have hpos : 0 < lots := by
      have hamountPos := hceiling.nonneg.trans_lt hbeyond
      exact_mod_cast pos_of_mul_pos_right hamountPos hprice.le
    have hwanted : lots ≤ wanted intent price amount := by
      rw [wanted_asked (huncut amount hamount) hvolume (hpos.trans_le hasked)]
      exact hasked
    have hsizes := (le_sizeSide hprice hsizing hlots hpos).mpr ⟨hwanted, hheld⟩
    have hcosts : cap = none ∨ sizer.costs.Nonneg := by
      rcases hcosts with rfl | hcosts
      · exact .inl (Except.ok.inj hcap).symm
      · exact .inr hcosts
    have hbought : lots ≤ (sizer.allocate price cap sizing).volume := by
      refine le_allocate hcosts hprice hcapNonneg hsized.2 hlots hsizes ?_
      intro c hc
      obtain rfl := Option.mem_def.mp hc
      exact hpaid c hcap
    have hmore : price * lots ≤ price * (sizer.allocate price cap sizing).volume :=
      mul_le_mul_of_nonneg_left (by exact_mod_cast hbought) hprice.le
    exact absurd (hbeyond.trans_le (hmore.trans hle)) (lt_irrefl _)

/-! ## Both ceilings -/

def WithinCeilings (intent : TradeIntent) (price : Rat) (draft : OrderDraft) : Prop :=
  (∀ cap ∈ intent.liquidityCap, price * draft.sizedVolume ≤ cap) ∧ ∀ amount ∈ intent.statedAmount, price * draft.sizedVolume ≤ amount

/-- No volume asked for reaches beyond the liquidity or the stated amount, and the stated amount is not negative. -/
def AsksWithin (sizer : OrderSizer) (intent : TradeIntent) (price : Rat) (account position : Fields) (allocatedAmountCap : PyVal) : Prop :=
  (∀ cap ∈ intent.liquidityCap, ¬ReachesBeyond sizer intent price account position allocatedAmountCap cap) ∧
    ∀ amount ∈ intent.statedAmount, 0 ≤ amount ∧ ¬ReachesBeyond sizer intent price account position allocatedAmountCap amount

/-- An intent for 1000 shares that states an amount of 500, where the liquidity is 1000. -/
def bothIntent : TradeIntent where
  intentId := "intent"
  instrumentCode := "600000.SH"
  bucket := "swing"
  targetAmount := some 500
  targetVolume := some 1000
  metadata := [("liquidity_cap_amount", .float 1000)]

end OrderSizer
end QuantX
