import QuantX.Trading.RiskChecker

namespace QuantX.TradingRiskChecker
open Lib
variable {checker : TradingRiskChecker} {request : OrderRequest} {context : OrderContext} {decision : OrderRiskDecision}
variable {checks : List OrderCheckResult}

theorem checkBuyCaps_stops {riskTags : List PyVal} (h : checker.checkBuyCaps request context riskTags = some decision) :
    decision.allowed = false := by
  simp only [checkBuyCaps] at h
  repeat' split at h
  all_goals cases h
  all_goals rfl

theorem checkSideCaps_stops {riskTags : List PyVal} (h : checker.checkSideCaps request context riskTags = some decision) :
    decision.allowed = false := by
  unfold checkSideCaps at h
  split at h
  · exact checkBuyCaps_stops h
  · split at h
    · cases h
      rfl
    · cases h
  · cases h

theorem checkContextCaps_stops (h : checker.checkContextCaps request context = .ok (some decision)) :
    decision.allowed = false := by
  simp only [checkContextCaps] at h
  split at h
  · obtain ⟨riskTags, -, h⟩ := bind_eq_ok.mp h
    obtain ⟨reasonCodes, -, h⟩ := bind_eq_ok.mp h
    cases h
    rfl
  · split at h
    · obtain ⟨riskTags, -, h⟩ := bind_eq_ok.mp h
      cases h
      rfl
    · split at h
      · obtain ⟨riskTags, -, h⟩ := bind_eq_ok.mp h
        exact checkSideCaps_stops (Except.ok.inj h)
      · cases h

theorem firstFailure_stops (h : firstFailure request checks = some decision) :
    decision.allowed = false := by
  induction checks with
  | nil => cases h
  | cons check checks ih =>
    cases check with
    | passed => exact ih h
    | failed code message metadata =>
      cases h
      rfl

theorem firstFailure_eq_none :
    firstFailure request checks = none ↔ ∀ check ∈ checks, check = .passed := by
  induction checks with
  | nil => simp [firstFailure]
  | cons check checks ih => cases check <;> simp [firstFailure, ih]

theorem checkVolume_passed {available : Int} {minVolume maxVolume : Option Int}
    (h : AShareMarketRules.checkVolume request available minVolume maxVolume = .passed) : 0 < request.volume := by
  unfold AShareMarketRules.checkVolume at h
  split at h
  · cases h
  · rename_i hvolume
    exact not_le.mp hvolume

/-! ### The way through -/

theorem evaluateOrder_passed (h : checker.evaluateOrder request context = .ok decision) (hallowed : decision.allowed = true) :
    checker.checkContextCaps request context = .ok none ∧
      (∃ available, AShareMarketRules.checkVolume request available (minVolume request context) (maxVolume request context) =
        .passed) ∧ checker.decideSide request context = .ok decision := by
  obtain ⟨stopped, hcaps, h⟩ := bind_eq_ok.mp h
  cases stopped with
  | some stopped =>
    cases h
    cases (checkContextCaps_stops hcaps).symm.trans hallowed
  | none =>
    obtain ⟨availableVolume, -, h⟩ := bind_eq_ok.mp h
    cases hrules : firstFailure request (checker.ruleChecks request context availableVolume) with
    | some failure =>
      simp only [hrules] at h
      cases h
      cases (firstFailure_stops hrules).symm.trans hallowed
    | none =>
      simp only [hrules] at h
      split at h
      · cases h
        cases hallowed
      · exact ⟨hcaps, ⟨availableVolume, firstFailure_eq_none.mp hrules _ (by simp [ruleChecks])⟩, h⟩

theorem evaluateOrder_allowed (h : checker.evaluateOrder request context = .ok decision) (hallowed : decision.allowed = true) :
    0 < request.volume ∧ checker.decideSide request context = .ok decision := by
  obtain ⟨-, ⟨available, hpassed⟩, h⟩ := evaluateOrder_passed h hallowed
  exact ⟨checkVolume_passed hpassed, h⟩

theorem decideSide_buy (hbuy : request.orderType = .buy) (h : checker.decideSide request context = .ok decision)
    (hallowed : decision.allowed = true) :
    (∃ cash, availableCash context.account = .ok cash ∧ request.price * request.volume +
      AShareMarketRules.estimateCommission (request.price * request.volume) checker.commissionRate checker.minCommission ≤ cash) ∧
      (decision = .allow request ∧ capBuyByContext request context = .ok none ∨
        capBuyByContext request context = .ok (some decision)) := by
  simp only [decideSide, hbuy] at h
  obtain ⟨power, hpower, h⟩ := bind_eq_ok.mp h
  obtain ⟨cash, hcash, hpower⟩ := bind_eq_ok.mp hpower
  split at hpower
  · cases hpower
    cases h
    cases hallowed
  · rename_i hcovered
    cases hpower
    refine ⟨⟨cash, hcash, not_lt.mp hcovered⟩, ?_⟩
    obtain ⟨cut, hcut, h⟩ := bind_eq_ok.mp h
    cases cut with
    | some cut =>
      cases h
      exact .inr hcut
    | none =>
      cases h
      exact .inl ⟨rfl, hcut⟩

theorem evaluateOrder_buy (hbuy : request.orderType = .buy) (h : checker.evaluateOrder request context = .ok decision)
    (hallowed : decision.allowed = true) :
    0 < request.volume ∧ (decision = .allow request ∧ capBuyByContext request context = .ok none ∨
      capBuyByContext request context = .ok (some decision)) := by
  obtain ⟨hvolume, h⟩ := evaluateOrder_allowed h hallowed
  exact ⟨hvolume, (decideSide_buy hbuy h hallowed).2⟩

theorem evaluateOrder_sell (hsell : request.orderType = .sell) (h : checker.evaluateOrder request context = .ok decision)
    (hallowed : decision.allowed = true) :
    0 < request.volume ∧ checker.checkSellCapacityDecision request context = .ok decision := by
  obtain ⟨hvolume, h⟩ := evaluateOrder_allowed h hallowed
  simp only [decideSide, hsell] at h
  exact ⟨hvolume, h⟩

end QuantX.TradingRiskChecker
