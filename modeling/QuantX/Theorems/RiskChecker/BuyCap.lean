import QuantX.Theorems.RiskChecker.Decision
import QuantX.Lib.Multiples

namespace QuantX
open Lib

namespace ContextRiskLayer
variable {strOf : PyVal → String} {input : CapsContext} {caps : RiskContextCaps}
variable {asset pct : Rat}

def accountOf (input : CapsContext) : Fields := (mappingOrEmpty (PyVal.get input.portfolioState "account")).toOption.getD []

/-- The amount that is configured: in the explicit caps, the parameters or the risk config. -/
def explicitAmount (input : CapsContext) : Option Rat :=
  let params := input.parameters
  let mapping (value : PyVal) : Fields := (mappingOrEmpty value).toOption.getD []
  firstOptionalFloat [PyVal.get (mapping (PyVal.get params "risk_caps")) "max_new_buy_amount_today",
    PyVal.get params "max_new_buy_amount_today",
    PyVal.get (mapping ((PyVal.get params "risk_config").or (PyVal.get params "risk"))) "max_new_buy_amount_today"]

@[simp] theorem applyMarketState_amount (marketState : String) :
    (applyMarketState marketState caps).maxNewBuyAmountToday = caps.maxNewBuyAmountToday := by
  unfold applyMarketState
  repeat' split
  all_goals rfl

@[simp] theorem applyIndustryState_amount (industryState : String) :
    (applyIndustryState industryState caps).maxNewBuyAmountToday = caps.maxNewBuyAmountToday := by
  unfold applyIndustryState
  split <;> rfl

@[simp] theorem applyLiquidityState_amount (liquidityState : String) (asset : Option Rat) :
    (applyLiquidityState liquidityState asset caps).maxNewBuyAmountToday = caps.maxNewBuyAmountToday := by
  unfold applyLiquidityState
  split <;> rfl

@[simp] theorem applyDataQuality_amount (dataQuality : String) :
    (applyDataQuality dataQuality caps).maxNewBuyAmountToday = caps.maxNewBuyAmountToday := by
  unfold applyDataQuality
  split <;> rfl

theorem applyKillSwitchGuards_caps (riskConfig : Fields) :
    (applyKillSwitchGuards strOf input riskConfig caps).maxNewBuyAmountToday = caps.maxNewBuyAmountToday ∧
      (applyKillSwitchGuards strOf input riskConfig caps).maxNewBuyPctToday = caps.maxNewBuyPctToday := by
  simp only [applyKillSwitchGuards, tripped]
  constructor
  all_goals
    repeat' split
    all_goals rfl

theorem closeOnKillSwitch_caps : (closeOnKillSwitch caps).maxNewBuyAmountToday = caps.maxNewBuyAmountToday ∧
    (closeOnKillSwitch caps).maxNewBuyPctToday = caps.maxNewBuyPctToday := by
  simp only [closeOnKillSwitch, noted]
  constructor
  all_goals
    repeat' split
    all_goals rfl

theorem deriveBuyAmount_pct (asset : Option Rat) :
    (deriveBuyAmount asset caps).maxNewBuyPctToday = caps.maxNewBuyPctToday := by
  unfold deriveBuyAmount
  split <;> rfl

theorem deriveBuyAmount_amount (hpct : caps.maxNewBuyPctToday = some pct) :
    (deriveBuyAmount (some asset) caps).maxNewBuyAmountToday =
      some (caps.maxNewBuyAmountToday.getD (max 0 (asset * pct))) := by
  unfold deriveBuyAmount
  cases hamount : caps.maxNewBuyAmountToday <;> simp [hpct, hamount]

theorem configuredCaps_amount {params explicitCaps riskConfig context : Fields}
    (h : configuredCaps strOf params explicitCaps riskConfig context = .ok caps) :
    caps.maxNewBuyAmountToday = firstOptionalFloat [PyVal.get explicitCaps "max_new_buy_amount_today",
      PyVal.get params "max_new_buy_amount_today", PyVal.get riskConfig "max_new_buy_amount_today"] := by
  obtain ⟨items, -, h⟩ := bind_eq_ok.mp h
  obtain ⟨reasonCodes, -, h⟩ := bind_eq_ok.mp h
  obtain ⟨riskTags, -, h⟩ := bind_eq_ok.mp h
  obtain ⟨metadata, -, h⟩ := bind_eq_ok.mp h
  cases h
  rfl

/-- The tightened amount is the configured one, and the percentage of the total assets only without one. -/
theorem tightened_amount {riskConfig : Fields}
    (hpct : (tightened strOf input riskConfig (some asset) caps).maxNewBuyPctToday = some pct) :
    (tightened strOf input riskConfig (some asset) caps).maxNewBuyAmountToday =
      some (caps.maxNewBuyAmountToday.getD (max 0 (asset * pct))) := by
  simp only [tightened, closeOnKillSwitch_caps, applyKillSwitchGuards_caps, deriveBuyAmount_pct] at hpct ⊢
  rw [deriveBuyAmount_amount hpct]
  simp

theorem buildCaps_amount (h : buildCaps strOf input = .ok caps)
    (hasset : totalAsset (accountOf input) = some asset) (hpct : caps.maxNewBuyPctToday = some pct) :
    caps.maxNewBuyAmountToday = some ((explicitAmount input).getD (max 0 (asset * pct))) := by
  obtain ⟨explicitCaps, hexplicit, h⟩ := bind_eq_ok.mp h
  obtain ⟨riskConfig, hconfig, h⟩ := bind_eq_ok.mp h
  obtain ⟨account, haccount, h⟩ := bind_eq_ok.mp h
  obtain ⟨configured, hconfigured, h⟩ := bind_eq_ok.mp h
  obtain ⟨orderState, -, h⟩ := bind_eq_ok.mp h
  cases h
  have hsame : accountOf input = account := by simp [accountOf, haccount, Except.toOption]
  rw [hsame] at hasset
  simp only [hasset] at hpct ⊢
  rw [tightened_amount hpct, configuredCaps_amount hconfigured]
  simp [explicitAmount, hexplicit, hconfig, Except.toOption]

end ContextRiskLayer

namespace TradingRiskChecker
variable {checker : TradingRiskChecker} {request : OrderRequest} {context : OrderContext} {decision : OrderRiskDecision}

theorem smallest_le (first : String × Rat) (rest : List (String × Rat)) :
    ∀ item ∈ first :: rest, (smallest first rest).2 ≤ item.2 := by
  induction rest generalizing first with
  | nil => simp [smallest]
  | cons next rest ih =>
    intro item hitem
    have hbest := ih (if next.2 < first.2 then next else first)
    have hfirst := hbest _ (List.mem_cons_self ..)
    rw [smallest]
    rcases List.mem_cons.mp hitem with rfl | hitem
    · split at hfirst <;> grind
    · rcases List.mem_cons.mp hitem with rfl | hitem
      · split at hfirst <;> grind
      · exact hbest item (List.mem_cons_of_mem _ hitem)

theorem cappedVolume_isGreatest {maxAmount : Rat} (hprice : 0 < request.price)
    (hpos : 0 < cappedVolume request context maxAmount) :
    IsGreatest {volume | AShareMarketRules.lotSize ∣ volume ∧ request.price * volume ≤ maxAmount}
      (cappedVolume request context maxAmount) := by
  simp only [cappedVolume] at hpos ⊢
  split at hpos
  · cases hpos
  · rename_i hsmall
    rw [if_neg hsmall]
    simp only [AShareMarketRules.normalizeBuyVolume] at hpos ⊢
    split at hpos
    · cases hpos
    · rename_i hvolume
      rw [if_neg hvolume]
      have hset : ∀ volume : Int, volume ≤ (maxAmount / request.price).floor ↔ request.price * volume ≤ maxAmount := by
        intro volume
        rw [Rat.le_floor_iff, le_div_iff₀ hprice, mul_comm]
      simpa only [hset] using div_mul_isGreatest (show (0 : Int) < AShareMarketRules.lotSize by decide) (maxAmount / request.price).floor

theorem capAmounts_newBuy {limit : Rat} {amounts : List (String × Rat)}
    (hlimit : (PyVal.get context.riskCaps "max_new_buy_amount_today").optionalFloat = some limit)
    (h : capAmounts request context = .ok amounts) : ("MAX_NEW_BUY_AMOUNT_TODAY", limit) ∈ amounts := by
  simp only [capAmounts, hlimit] at h
  obtain ⟨cash, -, h⟩ := bind_eq_ok.mp h
  obtain ⟨asset, -, h⟩ := bind_eq_ok.mp h
  obtain ⟨position, -, h⟩ := bind_eq_ok.mp h
  cases h
  simp

theorem capBuyByContext_amount {limit : Rat} (hbuy : request.orderType = .buy) (hprice : 0 < request.price)
    (hlimit : (PyVal.get context.riskCaps "max_new_buy_amount_today").optionalFloat = some limit) :
    (capBuyByContext request context = .ok none → request.price * request.volume ≤ limit) ∧
      ∀ decision, capBuyByContext request context = .ok (some decision) → decision.allowed = true →
        decision.finalAmount ≤ limit := by
  have hskip : ¬ (request.orderType ≠ .buy ∨ request.price ≤ 0) := by simp [hbuy, hprice]
  simp only [capBuyByContext, if_neg hskip]
  constructor
  · intro h
    obtain ⟨amounts, hamounts, h⟩ := bind_eq_ok.mp h
    have hmem := capAmounts_newBuy hlimit hamounts
    cases amounts with
    | nil => cases hmem
    | cons first rest =>
      simp only at h
      split at h
      · rename_i hwithin
        exact hwithin.trans (smallest_le first rest _ hmem)
      · obtain ⟨riskTags, -, h⟩ := bind_eq_ok.mp h
        split at h <;> cases h
  · intro decision h hallowed
    obtain ⟨amounts, hamounts, h⟩ := bind_eq_ok.mp h
    have hmem := capAmounts_newBuy hlimit hamounts
    cases amounts with
    | nil => cases hmem
    | cons first rest =>
      simp only at h
      split at h
      · cases h
      · obtain ⟨riskTags, -, h⟩ := bind_eq_ok.mp h
        split at h
        · cases h
          cases hallowed
        · rename_i hcapped
          cases h
          exact (cappedVolume_isGreatest hprice (not_le.mp hcapped)).1.2.trans (smallest_le first rest _ hmem)

theorem evaluateOrder_amount {limit : Rat} (hbuy : request.orderType = .buy) (hprice : 0 < request.price)
    (hlimit : (PyVal.get context.riskCaps "max_new_buy_amount_today").optionalFloat = some limit)
    (h : checker.evaluateOrder request context = .ok decision) (hallowed : decision.allowed = true) :
    decision.finalAmount ≤ limit := by
  obtain ⟨hleft, hcut⟩ := capBuyByContext_amount hbuy hprice hlimit
  obtain ⟨-, ⟨rfl, hnone⟩ | hsome⟩ := evaluateOrder_buy hbuy h hallowed
  · exact hleft hnone
  · exact hcut _ hsome hallowed

theorem evaluateOrder_unpriced (hbuy : request.orderType = .buy) (hprice : request.price ≤ 0)
    (h : checker.evaluateOrder request context = .ok decision) (hallowed : decision.allowed = true) :
    decision.finalAmount ≤ 0 := by
  obtain ⟨hvolume, ⟨rfl, -⟩ | h⟩ := evaluateOrder_buy hbuy h hallowed
  · exact mul_nonpos_of_nonpos_of_nonneg hprice (by exact_mod_cast hvolume.le)
  · simp only [capBuyByContext, if_pos (Or.inr hprice : request.orderType ≠ .buy ∨ request.price ≤ 0)] at h
    cases h

end TradingRiskChecker

open ContextRiskLayer

/-- A purchase that is allowed under caps and with the account that they were built from. -/
structure AllowedBuy (strOf : PyVal → String) (input : CapsContext) (caps : RiskContextCaps) (request : OrderRequest)
    (decision : OrderRiskDecision) : Prop where
  built : buildCaps strOf input = .ok caps
  side : request.orderType = .buy
  evaluated : ∃ (checker : TradingRiskChecker) (context : OrderContext), context.account = accountOf input ∧
    context.riskCaps = caps.toDict ∧ checker.evaluateOrder request context = .ok decision
  allowed : decision.allowed = true

/-- Whatever else is configured or reported: with this amount, these total assets and this final percentage every
    purchase stays within the percentage. -/
def BuysWithin (strOf : PyVal → String) (amount : Option Rat) (asset pct : Rat) : Prop :=
  ∀ input caps request decision, explicitAmount input = amount → totalAsset (accountOf input) = some asset →
    caps.maxNewBuyPctToday = some pct → AllowedBuy strOf input caps request decision → decision.finalAmount ≤ asset * pct

theorem toDict_amount (caps : RiskContextCaps) :
    (PyVal.get caps.toDict "max_new_buy_amount_today").optionalFloat = caps.maxNewBuyAmountToday := by
  have hget : PyVal.get caps.toDict "max_new_buy_amount_today" = numberOrNone caps.maxNewBuyAmountToday := by
    simp [PyVal.get, RiskContextCaps.toDict, Dict.lookup]
  rw [hget, optionalFloat_numberOrNone]

theorem buysWithin_of_amount {strOf : PyVal → String} {amount : Option Rat} {asset pct : Rat} (hpct : 0 ≤ asset * pct)
    (hamount : ∀ limit ∈ amount, limit ≤ asset * pct) : BuysWithin strOf amount asset pct := by
  intro input caps request decision hexplicit hasset hcaps hbuy
  obtain ⟨checker, context, -, hriskCaps, hevaluated⟩ := hbuy.evaluated
  by_cases hprice : 0 < request.price
  · have hlimit : (PyVal.get context.riskCaps "max_new_buy_amount_today").optionalFloat =
        some (amount.getD (max 0 (asset * pct))) := by
      rw [hriskCaps, toDict_amount, buildCaps_amount hbuy.built hasset hcaps, hexplicit]
    refine (TradingRiskChecker.evaluateOrder_amount hbuy.side hprice hlimit hevaluated hbuy.allowed).trans ?_
    cases amount with
    | none => exact max_le hpct le_rfl
    | some limit => exact hamount limit rfl
  · exact (TradingRiskChecker.evaluateOrder_unpriced hbuy.side (not_lt.mp hprice) hevaluated hbuy.allowed).trans hpct

/-! ## Runs that only cap purchases

Every pair of a configured amount and a percentage is reached, and an order for any amount within the caps is
allowed. -/

def plainInput (configured : Option Rat) (asset pct cash : Rat) : CapsContext where
  portfolioState := [("account", .dict [("total_asset", .float asset), ("available_cash", .float cash)])]
  parameters := [("max_new_buy_pct_today", .float pct), ("max_new_buy_amount_today", numberOrNone configured)]

def plainCaps (configured : Option Rat) (pct : Rat) : RiskContextCaps :=
  { maxNewBuyPctToday := some pct, maxNewBuyAmountToday := configured }

variable {strOf : PyVal → String} {configured : Option Rat} {asset pct cash : Rat}

theorem normalizeState_missing {state : String} (hstate : stripText state = state) (hne : state ≠ "") :
    ∀ missing : Nat, normalizeState strOf (List.replicate missing .none ++ [.str state]) = upperText state
  | 0 => by
    show (if stripText state ≠ "" then upperText (stripText state) else normalizeState strOf []) = upperText state
    rw [hstate, if_pos hne]
  | missing + 1 => normalizeState_missing hstate hne missing

theorem normalizeState_normal (missing : Nat) :
    normalizeState strOf (List.replicate missing .none ++ [.str "NORMAL"]) = "NORMAL" := by
  rw [normalizeState_missing (by decide +kernel) (by decide)]
  decide +kernel

theorem contextStates_empty : contextStates strOf [] = ⟨"NORMAL", "NORMAL", "NORMAL", "OK"⟩ := by
  have hmarket : normalizeState strOf [.none, .none, .none, .str "NORMAL"] = "NORMAL" := normalizeState_normal 3
  have hnormal : normalizeState strOf [.none, .str "NORMAL"] = "NORMAL" := normalizeState_normal 1
  have hquality : normalizeState strOf [.none, .str "OK"] = upperText "OK" :=
    normalizeState_missing (by decide +kernel) (by decide) 1
  have hok : upperText "OK" = "OK" := by decide +kernel
  simp [contextStates, PyVal.get, Dict.lookup, hmarket, hnormal, hquality, hok]

theorem configuredCaps_plain : configuredCaps strOf (plainInput configured asset pct cash).parameters [] [] [] =
    .ok (plainCaps configured pct) := by
  have hmode : normalizeState strOf [.none, .none, .none, .none, .str "NORMAL"] = "NORMAL" := normalizeState_normal 4
  have haction : upperText "DELAY" = "DELAY" := by decide +kernel
  have hamount : (numberOrNone configured).optionalFloat = configured := optionalFloat_numberOrNone configured
  simp [configuredCaps, plainInput, plainCaps, PyVal.get, Dict.lookup, getOr, iterItems, toMapping, firstOptionalFloat,
    valueText, PyVal.pyStr, hmode, haction, bind, Except.bind, pure, Except.pure]
  refine ⟨rfl, rfl, ?_, rfl, rfl⟩
  cases configured <;> rfl

theorem tightened_plain : tightened strOf (plainInput configured asset pct cash) [] (some asset) (plainCaps configured pct) =
    deriveBuyAmount (some asset) (plainCaps configured pct) := by
  have hstates : contextStates strOf (plainInput configured asset pct cash).marketContext = _ := contextStates_empty
  have hstock : normalizeState strOf [.none, .str ""] = "" := rfl
  have hnone : PyVal.none.optionalFloat = none := rfl
  simp only [tightened, hstates]
  cases configured <;> simp [applyMarketState, applyIndustryState, applyLiquidityState, applyDataQuality, plainCaps, deriveBuyAmount,
    applyKillSwitchGuards, closeOnKillSwitch, plainInput, PyVal.get, Dict.lookup, PyVal.truthy, hstock, firstOptionalFloat, List.findSome?, hnone, reaches]

theorem plainInput_asset : totalAsset (accountOf (plainInput configured asset pct cash)) = some asset := rfl

theorem plainInput_amount : explicitAmount (plainInput configured asset pct cash) = configured := by
  cases configured <;> rfl

structure PlainCaps (amount pct : Rat) (caps : RiskContextCaps) : Prop where
  pct : caps.maxNewBuyPctToday = some pct
  amount : caps.maxNewBuyAmountToday = some amount
  position : caps.maxPositionPct = none
  cashBuffer : caps.minCashBufferPct = none
  single : caps.maxSingleOrderAmount = none
  killSwitch : caps.killSwitchActive = false
  buy : caps.allowBuy = true
  reduce : caps.onlyReducePosition = false

theorem deriveBuyAmount_plain :
    PlainCaps (configured.getD (max 0 (asset * pct))) pct (deriveBuyAmount (some asset) (plainCaps configured pct)) := by
  cases configured <;> exact ⟨rfl, rfl, rfl, rfl, rfl, rfl, rfl, rfl⟩

theorem PlainCaps.noted {amount : Rat} {caps : RiskContextCaps} (h : PlainCaps amount pct caps) (reasonCodes riskTags : List String)
    (metadata : Dict String PyVal) :
    PlainCaps amount pct { caps with reasonCodes, riskTags, metadata } :=
  ⟨h.pct, h.amount, h.position, h.cashBuffer, h.single, h.killSwitch, h.buy, h.reduce⟩

theorem buildCaps_plain (strOf : PyVal → String) (configured : Option Rat) (asset pct cash : Rat) : ∃ caps, buildCaps strOf (plainInput configured asset pct cash) = .ok caps ∧
    PlainCaps (configured.getD (max 0 (asset * pct))) pct caps := by
  refine ⟨_, bind_written (a := []) rfl (bind_written (a := []) rfl (bind_written rfl
    (bind_written configuredCaps_plain (bind_written rfl rfl)))), ?_⟩
  have hplain : PlainCaps (configured.getD (max 0 (asset * pct))) pct
      (tightened strOf (plainInput configured asset pct cash) []
        (totalAsset [("total_asset", .float asset), ("available_cash", .float cash)]) (plainCaps configured pct)) := by
    rw [show totalAsset [("total_asset", .float asset), ("available_cash", .float cash)] = some asset from rfl, tightened_plain]
    exact deriveBuyAmount_plain
  exact hplain.noted _ _ _

def plainBuy (amount : Rat) : OrderRequest :=
  { instrumentCode := "600000.SH", orderType := .buy, priceType := .market, volume := 100, price := amount / 100 }

def plainChecker (strOf : PyVal → String) : TradingRiskChecker :=
  { commissionRate := 0, minCommission := 0, isTradingHours := fun _ => true, repr := fun _ => "", strOf }

def plainContext (input : CapsContext) (caps : RiskContextCaps) : OrderContext :=
  { account := accountOf input, position := [], marketData := none, riskCaps := caps.toDict }

open TradingRiskChecker
variable {caps : RiskContextCaps} {limit amount : Rat}

structure PlainRead (limit : Rat) (caps : Fields) : Prop where
  amount : (PyVal.get caps "max_new_buy_amount_today").optionalFloat = some limit
  position : (PyVal.get caps "max_position_pct").optionalFloat = none
  cashBuffer : (PyVal.get caps "min_cash_buffer_pct").optionalFloat = none
  single : (PyVal.get caps "max_single_order_amount").optionalFloat = none
  killSwitch : (PyVal.get caps "kill_switch_active").truthy = false
  buy : TradingRiskChecker.isFalse (PyVal.get caps "allow_buy") = false
  reduce : (PyVal.get caps "only_reduce_position").truthy = false

theorem PlainCaps.read (h : PlainCaps limit pct caps) : PlainRead limit caps.toDict := by
  refine ⟨(toDict_amount caps).trans h.amount, ?_, ?_, ?_, ?_, ?_, ?_⟩
  all_goals
    simp [PyVal.get, RiskContextCaps.toDict, Dict.lookup, h.position, h.cashBuffer, h.single, h.killSwitch, h.buy, h.reduce,
      PyVal.truthy, TradingRiskChecker.isFalse]

theorem plain_contextCaps {context : OrderContext} (hcaps : PlainRead limit context.riskCaps) (amount : Rat) :
    (plainChecker strOf).checkContextCaps (plainBuy amount) context = .ok none := by
  have hbucket : (plainChecker strOf).requestBucket (plainBuy amount) = "" := by
    simp [requestBucket, plainBuy, PyVal.get, Dict.lookup, PyVal.or, PyVal.truthy, valueText, PyVal.pyStr, lowerText]
  have hside : ∀ riskTags, (plainChecker strOf).checkSideCaps (plainBuy amount) context riskTags = none := by
    intro riskTags
    show (plainChecker strOf).checkBuyCaps (plainBuy amount) context riskTags = none
    simp [checkBuyCaps, hbucket, hcaps.buy, hcaps.reduce]
  simp only [checkContextCaps, hcaps.killSwitch, hcaps.single, hside]
  rfl

theorem plainBuy_cost (amount : Rat) : (plainBuy amount).price * (plainBuy amount).volume = amount :=
  div_mul_cancel₀ amount (by decide : (100 : Rat) ≠ 0)

theorem plain_cash (configured : Option Rat) (asset pct cash : Rat) :
    availableCash (accountOf (plainInput configured asset pct cash)) = .ok cash :=
  congrArg PyVal.toFloat (PyVal.float_or cash)

theorem plain_capBuy (hcaps : PlainRead limit caps.toDict) (hamount : amount ≤ 0 ∨ amount ≤ limit) :
    capBuyByContext (plainBuy amount) (plainContext (plainInput configured asset pct amount) caps) = .ok none := by
  by_cases hprice : (plainBuy amount).price ≤ 0
  · exact if_pos (.inr hprice)
  · have hwithin : amount ≤ limit := by
      refine hamount.resolve_left fun hneg => hprice ?_
      exact div_nonpos_of_nonpos_of_nonneg hneg (by decide)
    have hasset : ∃ total, ((((PyVal.get (accountOf (plainInput configured asset pct amount)) "total_asset").or
        (PyVal.get (accountOf (plainInput configured asset pct amount)) "cash_total")).or (.float amount)).or
        (.float 0)).toFloat = .ok total := by
      show ∃ total, ((((PyVal.float asset).or .none).or (.float amount)).or (.float 0)).toFloat = .ok total
      by_cases hasset : asset = 0 <;> by_cases hzero : amount = 0 <;> simp [PyVal.or, PyVal.truthy, hasset, hzero]
    obtain ⟨total, htotal⟩ := hasset
    have hamounts : capAmounts (plainBuy amount) (plainContext (plainInput configured asset pct amount) caps) =
        .ok [("MAX_NEW_BUY_AMOUNT_TODAY", limit)] := by
      refine bind_written (plain_cash configured asset pct amount) (bind_written htotal ?_)
      simp only [plainContext, positionRoom, hcaps.amount, hcaps.cashBuffer, hcaps.position]
      rfl
    have hskip : ¬ ((plainBuy amount).orderType ≠ .buy ∨ (plainBuy amount).price ≤ 0) := fun h => h.elim (fun h => h rfl) hprice
    simp only [capBuyByContext, if_neg hskip, hamounts, bind, Except.bind, smallest, plainBuy_cost, if_pos hwithin]
    rfl

theorem plainBuy_evaluated (hcaps : PlainRead limit caps.toDict) (hamount : amount ≤ 0 ∨ amount ≤ limit) :
    (plainChecker strOf).evaluateOrder (plainBuy amount) (plainContext (plainInput configured asset pct amount) caps) =
      .ok (.allow (plainBuy amount)) := by
  refine bind_written (a := none) (plain_contextCaps hcaps _) (bind_written (a := 0) rfl ?_)
  have hrules : firstFailure (plainBuy amount)
      ((plainChecker strOf).ruleChecks (plainBuy amount) (plainContext (plainInput configured asset pct amount) caps) 0) = none := rfl
  have hhours : (plainChecker strOf).outsideTradingHours (plainContext (plainInput configured asset pct amount) caps) = false := rfl
  simp only [hrules, hhours]
  have hfree : AShareMarketRules.estimateCommission amount 0 0 = 0 := by
    unfold AShareMarketRules.estimateCommission
    split
    · rfl
    · simp
  have hpower : (plainChecker strOf).checkBuyingPowerDecision (plainBuy amount)
      (plainContext (plainInput configured asset pct amount) caps) = .ok (.allow (plainBuy amount)) := by
    refine bind_written (plain_cash configured asset pct amount) ?_
    simp only [plainBuy_cost, plainChecker, hfree, add_zero, lt_irrefl]
    rfl
  exact bind_written hpower (bind_written (plain_capBuy hcaps hamount) rfl)
/-- A panic on an account of a million, with a configured amount of a million. -/
def panicInput : CapsContext where
  portfolioState := [("account", .dict [("total_asset", .int 1000000), ("available_cash", .int 1000000)])]
  marketContext := [("market_state", .str "PANIC")]
  parameters := [("risk_caps", .dict [("max_new_buy_amount_today", .int 1000000)])]

def panicBuy : OrderRequest :=
  { instrumentCode := "600000.SH", orderType := .buy, priceType := .limit, volume := 1000, price := 100,
    metadata := [("bucket", .str "core")] }

def panicChecker : TradingRiskChecker := { isTradingHours := fun _ => true, repr := fun _ => "", strOf := fun _ => "" }

/-- The final percentage, the total assets and the final amount of the purchase. -/
def panicOutcome : Option (Option Rat × Option Rat × Bool × Rat) := do
  let caps ← (buildCaps (fun _ => "") panicInput).toOption
  let decision ← (panicChecker.evaluateOrder panicBuy (plainContext panicInput caps)).toOption
  return (caps.maxNewBuyPctToday, totalAsset (accountOf panicInput), decision.allowed, decision.finalAmount)

end QuantX
