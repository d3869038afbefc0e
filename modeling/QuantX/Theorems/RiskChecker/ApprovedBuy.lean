import QuantX.Theorems.RiskChecker.BuyCap
import QuantX.Lib.Require

/-! # Approved purchases

The caps on a purchase are asked in three places: the single order's amount and the cash on the requested volume, the other
amounts on the volume that they leave of it. -/

namespace QuantX.TradingRiskChecker
open Lib
variable {checker : TradingRiskChecker} {request : OrderRequest} {context : OrderContext} {decision : OrderRiskDecision}
variable {minimum : Int}
variable {market : MarketDataSnapshot}

def assetFigure (account : Fields) (cash : Rat) : Except String Rat :=
  ((((PyVal.get account "total_asset").or (PyVal.get account "cash_total")).or (.float cash)).or (.float 0)).toFloat

/-- The value of the position: the one it shows, or its volume at the market's price. -/
def positionValue (request : OrderRequest) (context : OrderContext) : Except String Rat := do
  let price := ((context.marketData.map (·.price)).filter (0 < ·)).getD request.price
  let currentVolume ← longVolume context.position
  return (PyVal.get context.position "market_value").optionalFloat.getD (currentVolume * price)

/-- An amount within every configured cap on purchases. The shares of the total assets bind where the account has any.
    -/
structure WithinContextCaps (request : OrderRequest) (context : OrderContext) (amount : Rat) : Prop where
  newBuy : ∀ limit, (PyVal.get context.riskCaps "max_new_buy_amount_today").optionalFloat = some limit → amount ≤ limit
  cashBuffer : ∀ pct cash asset, (PyVal.get context.riskCaps "min_cash_buffer_pct").optionalFloat = some pct →
    availableCash context.account = .ok cash → assetFigure context.account cash = .ok asset → 0 < asset →
      amount ≤ max 0 (cash - asset * pct)
  position : ∀ pct cash asset value, (PyVal.get context.riskCaps "max_position_pct").optionalFloat = some pct →
    availableCash context.account = .ok cash → assetFigure context.account cash = .ok asset →
      positionValue request context = .ok value → 0 < asset → amount ≤ max 0 (asset * pct - value)

theorem positionRoom_within {asset : Rat} {room : List (String × Rat)} (h : positionRoom request context asset = .ok room)
    (amount : Rat) : (∀ item ∈ room, amount ≤ item.2) ↔
      ∀ pct value, (PyVal.get context.riskCaps "max_position_pct").optionalFloat = some pct →
        positionValue request context = .ok value → 0 < asset → amount ≤ max 0 (asset * pct - value) := by
  unfold positionRoom at h
  split at h
  · rename_i pct hpct
    rw [hpct]
    split at h
    · rename_i hasset
      obtain ⟨volume, hvolume, h⟩ := bind_eq_ok.mp h
      cases h
      have hvalue : positionValue request context = .ok ((PyVal.get context.position "market_value").optionalFloat.getD
          (volume * ((context.marketData.map (·.price)).filter (0 < ·)).getD request.price)) := bind_written hvolume rfl
      constructor
      · rintro hroom pct' value hsame hvalue' -
        obtain rfl := Option.some.inj hsame
        obtain rfl := Except.ok.inj (hvalue.symm.trans hvalue')
        exact hroom _ (List.mem_singleton.mpr rfl)
      · intro hroom item hitem
        obtain rfl := List.mem_singleton.mp hitem
        exact hroom pct _ rfl hvalue hasset
    · rename_i hasset
      cases h
      exact ⟨fun _ _ _ _ _ hpos => absurd hpos hasset, fun _ _ hitem => by cases hitem⟩
  · rename_i hpct
    cases h
    rw [hpct]
    exact ⟨fun _ _ _ hsame => (by cases hsame), fun _ _ hitem => (by cases hitem)⟩

theorem withinContextCaps_iff {amounts : List (String × Rat)} (h : capAmounts request context = .ok amounts) (amount : Rat) :
    WithinContextCaps request context amount ↔ ∀ item ∈ amounts, amount ≤ item.2 := by
  obtain ⟨cash, hcash, h⟩ := bind_eq_ok.mp h
  obtain ⟨asset, hasset, h⟩ := bind_eq_ok.mp h
  obtain ⟨room, hroom, h⟩ := bind_eq_ok.mp h
  cases h
  have hposition := positionRoom_within hroom amount
  simp only [List.forall_mem_append, hposition]
  constructor
  · intro hwithin
    refine ⟨⟨fun item hitem => ?_, fun item hitem => ?_⟩, fun pct value hpct => hwithin.position pct cash asset value hpct hcash hasset⟩
    · split at hitem
      · obtain rfl := List.mem_singleton.mp hitem
        exact hwithin.newBuy _ ‹_›
      · cases hitem
    · split at hitem
      · split at hitem
        · obtain rfl := List.mem_singleton.mp hitem
          exact hwithin.cashBuffer _ cash asset ‹_› hcash hasset ‹_›
        · cases hitem
      · cases hitem
  · rintro ⟨⟨hnewBuy, hbuffer⟩, hposition⟩
    refine ⟨fun limit hlimit => ?_, fun pct cash' asset' hpct hcash' hasset' hpos => ?_,
      fun pct cash' asset' value hpct hcash' hasset' hvalue hpos => ?_⟩
    · simp only [hlimit] at hnewBuy
      exact hnewBuy _ (List.mem_singleton.mpr rfl)
    · obtain rfl := Except.ok.inj (hcash.symm.trans hcash')
      obtain rfl := Except.ok.inj (hasset.symm.trans hasset')
      simp only [hpct, if_pos hpos] at hbuffer
      exact hbuffer _ (List.mem_singleton.mpr rfl)
    · obtain rfl := Except.ok.inj (hcash.symm.trans hcash')
      obtain rfl := Except.ok.inj (hasset.symm.trans hasset')
      exact hposition pct value hpct hvalue hpos

theorem smallest_mem (first : String × Rat) (rest : List (String × Rat)) : smallest first rest ∈ first :: rest := by
  induction rest generalizing first with
  | nil => exact List.mem_cons_self
  | cons next rest ih =>
    rw [smallest]
    rcases List.mem_cons.mp (ih (if next.2 < first.2 then next else first)) with hbest | hrest
    · rw [hbest]
      split
      · exact List.mem_cons_of_mem _ List.mem_cons_self
      · exact List.mem_cons_self
    · exact List.mem_cons_of_mem _ (List.mem_cons_of_mem _ hrest)

theorem cappedVolume_minimum {maxAmount : Rat} (hpos : 0 < cappedVolume request context maxAmount)
    (hminimum : minVolume request context = some minimum) : minimum ≤ cappedVolume request context maxAmount := by
  simp only [cappedVolume, hminimum, Option.any_some, decide_eq_true_eq] at hpos ⊢
  split at hpos
  · cases hpos
  · rename_i hsmall
    rw [if_neg hsmall]
    exact not_lt.mp hsmall

theorem capBuyByContext_none (hbuy : request.orderType = .buy) (hprice : 0 < request.price)
    (h : capBuyByContext request context = .ok none) : WithinContextCaps request context (request.price * request.volume) := by
  have hskip : ¬ (request.orderType ≠ .buy ∨ request.price ≤ 0) := by simp [hbuy, hprice]
  simp only [capBuyByContext, if_neg hskip] at h
  obtain ⟨amounts, hamounts, h⟩ := bind_eq_ok.mp h
  rw [withinContextCaps_iff hamounts]
  cases amounts with
  | nil => exact fun item hitem => by cases hitem
  | cons first rest =>
    simp only at h
    split at h
    · rename_i hwithin
      exact fun item hitem => hwithin.trans (smallest_le first rest item hitem)
    · obtain ⟨riskTags, -, h⟩ := bind_eq_ok.mp h
      split at h <;> cases h

structure CutTo (request : OrderRequest) (context : OrderContext) (volume : Int) : Prop where
  positive : 0 < volume
  lots : AShareMarketRules.lotSize ∣ volume
  below : volume < request.volume
  minimum : ∀ minimum, minVolume request context = some minimum → minimum ≤ volume
  within : WithinContextCaps request context (request.price * volume)
  greatest : ∀ larger, AShareMarketRules.lotSize ∣ larger → volume < larger → ¬ WithinContextCaps request context (request.price * larger)

/-- A purchase that is cut is cut to the greatest volume of whole lots that keeps to the caps. -/
theorem capBuyByContext_some (hbuy : request.orderType = .buy) (hprice : 0 < request.price)
    (h : capBuyByContext request context = .ok (some decision)) (hallowed : decision.allowed = true) :
    CutTo request context decision.finalVolume := by
  have hskip : ¬ (request.orderType ≠ .buy ∨ request.price ≤ 0) := by simp [hbuy, hprice]
  simp only [capBuyByContext, if_neg hskip] at h
  obtain ⟨amounts, hamounts, h⟩ := bind_eq_ok.mp h
  cases amounts with
  | nil => cases h
  | cons first rest =>
    simp only at h
    split at h
    · cases h
    · rename_i hexceeds
      obtain ⟨riskTags, -, h⟩ := bind_eq_ok.mp h
      split at h
      · cases h
        cases hallowed
      · rename_i hpos
        cases h
        have hpos := not_le.mp hpos
        obtain ⟨⟨hlots, hamount⟩, hgreatest⟩ := cappedVolume_isGreatest hprice hpos
        refine ⟨hpos, hlots, ?_, fun minimum => cappedVolume_minimum hpos, ?_, fun larger hlarger hbelow hwithin => ?_⟩
        · have hless := lt_of_mul_lt_mul_left (hamount.trans_lt (not_le.mp hexceeds)) hprice.le
          exact_mod_cast hless
        · exact (withinContextCaps_iff hamounts _).mpr fun item hitem => hamount.trans (smallest_le first rest item hitem)
        · have hpaid := (withinContextCaps_iff hamounts _).mp hwithin _ (smallest_mem first rest)
          exact absurd (hgreatest ⟨hlarger, hpaid⟩) (not_le.mpr hbelow)

theorem cost_le {amount amount' rate minimum : Rat} (hpos : 0 < amount) (hle : amount ≤ amount') (hrate : -1 ≤ rate) :
    amount + AShareMarketRules.estimateCommission amount rate minimum ≤
      amount' + AShareMarketRules.estimateCommission amount' rate minimum := by
  have hcost : ∀ x, 0 < x → x + AShareMarketRules.estimateCommission x rate minimum = max (x * (1 + rate)) (x + minimum) := by
    intro x hx
    rw [AShareMarketRules.estimateCommission, if_neg (not_le.mpr hx), ← max_add_add_left, mul_add, mul_one]
  rw [hcost _ hpos, hcost _ (hpos.trans_le hle)]
  exact max_le_max (mul_le_mul_of_nonneg_right hle (by linarith)) (by linarith)

/-- The volume of an approved purchase keeps to the rules, the cash and all of the caps at once. -/
structure ApprovedBuy (checker : TradingRiskChecker) (request : OrderRequest) (context : OrderContext) (decision : OrderRiskDecision) :
    Prop where
  positive : 0 < decision.finalVolume
  lots : AShareMarketRules.lotSize ∣ decision.finalVolume
  requested : decision.finalVolume ≤ request.volume
  minimum : ∀ market minimum, context.marketData = some market → market.minLimitOrderVolume = some minimum →
    minimum ≤ decision.finalVolume
  affordable : ∀ cash, availableCash context.account = .ok cash → decision.finalVolume * request.price +
    AShareMarketRules.estimateCommission (decision.finalVolume * request.price) checker.commissionRate checker.minCommission ≤ cash
  singleOrder : ∀ limit, (PyVal.get context.riskCaps "max_single_order_amount").optionalFloat = some limit →
    decision.finalVolume * request.price ≤ limit
  within : WithinContextCaps request context (decision.finalVolume * request.price)
  greatest : decision.action = .cap → ∀ larger, AShareMarketRules.lotSize ∣ larger → decision.finalVolume < larger →
    larger ≤ request.volume → ¬ WithinContextCaps request context (larger * request.price)

theorem minVolume_of_market (hbuy : request.orderType = .buy)
    (hmarket : context.marketData = some market) (hminimum : market.minLimitOrderVolume = some minimum) (hpos : 0 < minimum) :
    minVolume request context = some minimum := by
  simp [minVolume, hmarket, hminimum, hbuy, hpos]

theorem checkVolume_buy (hbuy : request.orderType = .buy) {available : Int} {minVolume maxVolume : Option Int}
    (h : AShareMarketRules.checkVolume request available minVolume maxVolume = .passed) :
    AShareMarketRules.lotSize ∣ request.volume ∧ ∀ minimum, minVolume = some minimum → minimum ≤ request.volume := by
  unfold AShareMarketRules.checkVolume at h
  split at h
  · cases h
  · simp only [AShareMarketRules.checkLots, hbuy] at h
    split at h
    · rename_i hlots
      split at hlots
      · cases hlots
      · rename_i hwhole
        refine ⟨Int.dvd_of_emod_eq_zero (not_not.mp hwhole), fun minimum hminimum => ?_⟩
        subst hminimum
        by_contra hbelow
        simp [AShareMarketRules.checkVolumeBounds, Option.filter, not_le.mp hbelow] at h
    · rename_i hfailed
      exact (hfailed h).elim

theorem checkContextCaps_single (h : checker.checkContextCaps request context = .ok none) {limit : Rat}
    (hlimit : (PyVal.get context.riskCaps "max_single_order_amount").optionalFloat = some limit) :
    request.price * request.volume ≤ limit := by
  simp only [checkContextCaps, hlimit, Option.any_some, decide_eq_true_eq] at h
  split at h
  · obtain ⟨riskTags, -, h⟩ := bind_eq_ok.mp h
    obtain ⟨reasonCodes, -, h⟩ := bind_eq_ok.mp h
    cases h
  · split at h
    · obtain ⟨riskTags, -, h⟩ := bind_eq_ok.mp h
      cases h
    · exact not_lt.mp ‹_›

theorem minimum_of_market (hbuy : request.orderType = .buy) {volume : Int} (hpos : 0 < volume)
    (hminimum : ∀ minimum, minVolume request context = some minimum → minimum ≤ volume)
    (hmarket : context.marketData = some market) (hgiven : market.minLimitOrderVolume = some minimum) : minimum ≤ volume := by
  by_cases hbinds : 0 < minimum
  · exact hminimum minimum (minVolume_of_market hbuy hmarket hgiven hbinds)
  · exact (not_lt.mp hbinds).trans hpos.le

theorem amount_below (hprice : 0 < request.price) {volume : Int} (hpos : 0 < volume) (hle : volume ≤ request.volume) :
    0 < volume * request.price ∧ volume * request.price ≤ request.price * request.volume := by
  refine ⟨mul_pos (by exact_mod_cast hpos) hprice, ?_⟩
  rw [mul_comm]
  exact mul_le_mul_of_nonneg_left (by exact_mod_cast hle) hprice.le

/-- An allowed purchase at a price is approved by all of the caps. -/
theorem evaluateOrder_approved (hbuy : request.orderType = .buy) (hprice : 0 < request.price) (hrate : -1 ≤ checker.commissionRate)
    (h : checker.evaluateOrder request context = .ok decision) (hallowed : decision.allowed = true) :
    ApprovedBuy checker request context decision := by
  obtain ⟨hcaps, ⟨available, hchecked⟩, hside⟩ := evaluateOrder_passed h hallowed
  have hvolume := checkVolume_passed hchecked
  obtain ⟨hlots, hminimum⟩ := checkVolume_buy hbuy hchecked
  obtain ⟨⟨cash, hcash, hcovered⟩, hcut⟩ := decideSide_buy hbuy hside hallowed
  have haffordable : ∀ volume : Int, 0 < volume → volume ≤ request.volume → ∀ cash', availableCash context.account = .ok cash' →
      volume * request.price + AShareMarketRules.estimateCommission (volume * request.price) checker.commissionRate
        checker.minCommission ≤ cash' := by
    intro volume hpos hle cash' hcash'
    obtain rfl := Except.ok.inj (hcash.symm.trans hcash')
    obtain ⟨hamount, hbelow⟩ := amount_below hprice hpos hle
    exact (cost_le hamount hbelow hrate).trans hcovered
  have hsingle : ∀ volume : Int, 0 < volume → volume ≤ request.volume → ∀ limit,
      (PyVal.get context.riskCaps "max_single_order_amount").optionalFloat = some limit → volume * request.price ≤ limit :=
    fun volume hpos hle limit hlimit => (amount_below hprice hpos hle).2.trans (checkContextCaps_single hcaps hlimit)
  rcases hcut with ⟨rfl, hnone⟩ | hsome
  · refine ⟨hvolume, hlots, le_rfl, fun _ _ => minimum_of_market hbuy hvolume hminimum, haffordable _ hvolume le_rfl,
      hsingle _ hvolume le_rfl, ?_, fun hcapped => by cases hcapped⟩
    rw [show (OrderRiskDecision.allow request).finalVolume = request.volume from rfl, mul_comm]
    exact capBuyByContext_none hbuy hprice hnone
  · obtain ⟨hpos, hwhole, hbelow, hleast, hwithin, hgreatest⟩ := capBuyByContext_some hbuy hprice hsome hallowed
    refine ⟨hpos, hwhole, hbelow.le, fun _ _ => minimum_of_market hbuy hpos hleast, haffordable _ hpos hbelow.le,
      hsingle _ hpos hbelow.le, ?_, fun _ larger hlarger hexceeds _ => ?_⟩
    · rw [mul_comm]
      exact hwithin
    · rw [mul_comm]
      exact hgreatest larger hlarger hexceeds

def roundChecker : TradingRiskChecker := { isTradingHours := fun _ => true, repr := fun _ => "", strOf := fun _ => "" }

def tenBuy (volume : Int) : OrderRequest :=
  { instrumentCode := "600000.SH", orderType := .buy, priceType := .limit, volume, price := 10 }

def cappedContext (cash asset : Rat) (cap : String × PyVal) : OrderContext :=
  { account := [("available_cash", .float cash), ("total_asset", .float asset)], position := [], marketData := none, riskCaps := [cap] }

/-- A purchase of a thousand shares is cut to five hundred by the amount for the day. -/
theorem ten_buy_approved : ∃ decision,
    roundChecker.evaluateOrder (tenBuy 1000) (cappedContext 100000 100000 ("max_new_buy_amount_today", .float 5050)) = .ok decision ∧
      decision.action = .cap ∧ decision.finalVolume = 500 ∧
      ApprovedBuy roundChecker (tenBuy 1000) (cappedContext 100000 100000 ("max_new_buy_amount_today", .float 5050)) decision := by
  obtain ⟨decision, hdecision, hread⟩ := exists_of_toOption
    (show (roundChecker.evaluateOrder (tenBuy 1000) (cappedContext 100000 100000 ("max_new_buy_amount_today", .float 5050))).toOption.map
      (fun decision => (decision.action, decision.allowed, decision.finalVolume)) = some (.cap, true, 500) by decide +kernel)
  simp only [Prod.mk.injEq] at hread
  obtain ⟨haction, hallowed, hvolume⟩ := hread
  exact ⟨decision, hdecision, haction, hvolume, evaluateOrder_approved rfl (by decide) (by decide +kernel) hdecision hallowed⟩

def rebateChecker : TradingRiskChecker := { roundChecker with commissionRate := -2, minCommission := -1000000 }

/-- The cap on the position is passed over where the total assets are negative, and a purchase whose commission pays for
    it costs more once it is cut. -/
theorem negative_asset_unbound :
    (∃ decision, roundChecker.evaluateOrder (tenBuy 100) (cappedContext 100000 (-1) ("max_position_pct", .float (1 / 2))) =
        .ok decision ∧ decision.allowed = true ∧
      assetFigure (cappedContext 100000 (-1) ("max_position_pct", .float (1 / 2))).account 100000 = .ok (-1) ∧
      positionValue (tenBuy 100) (cappedContext 100000 (-1) ("max_position_pct", .float (1 / 2))) = .ok 0 ∧
      ¬ decision.finalVolume * (tenBuy 100).price ≤ max 0 (-1 * (1 / 2) - 0)) ∧
    ∃ decision, rebateChecker.evaluateOrder (tenBuy 1000) (cappedContext (-9000) 100000 ("max_new_buy_amount_today", .float 5050)) =
        .ok decision ∧ decision.allowed = true ∧
      ¬ decision.finalVolume * (tenBuy 1000).price + AShareMarketRules.estimateCommission
        (decision.finalVolume * (tenBuy 1000).price) rebateChecker.commissionRate rebateChecker.minCommission ≤ -9000 := by
  constructor
  · obtain ⟨decision, hdecision, hread⟩ := exists_of_toOption
      (show (roundChecker.evaluateOrder (tenBuy 100) (cappedContext 100000 (-1) ("max_position_pct", .float (1 / 2)))).toOption.map
        (fun decision => (decision.allowed, decision.finalVolume)) = some (true, 100) by decide +kernel)
    simp only [Prod.mk.injEq] at hread
    obtain ⟨hallowed, hvolume⟩ := hread
    refine ⟨decision, hdecision, hallowed, eq_ok_of_toOption (by decide +kernel), eq_ok_of_toOption (by decide +kernel), ?_⟩
    rw [hvolume]
    decide +kernel
  · obtain ⟨decision, hdecision, hread⟩ := exists_of_toOption
      (show (rebateChecker.evaluateOrder (tenBuy 1000) (cappedContext (-9000) 100000 ("max_new_buy_amount_today",
        .float 5050))).toOption.map (fun decision => (decision.allowed, decision.finalVolume)) = some (true, 500) by decide +kernel)
    simp only [Prod.mk.injEq] at hread
    obtain ⟨hallowed, hvolume⟩ := hread
    refine ⟨decision, hdecision, hallowed, ?_⟩
    rw [hvolume]
    decide +kernel

end QuantX.TradingRiskChecker
