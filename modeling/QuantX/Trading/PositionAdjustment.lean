import QuantX.Trading.RiskChecker

/-! # The position adjustment layer

`PositionAdjustmentLayer.build_profile`: a template, overridden by the run's parameters, tightened by the risk caps and
clamped. -/

namespace QuantX
open Lib

inductive PositionProfileName where
  | aggressiveAccumulation
  | normalBalance
  | rangeTrading
  | cautious
  | distribution
  | defensive
  deriving DecidableEq, Repr

def PositionProfileName.value : PositionProfileName → String
  | .aggressiveAccumulation => "AGGRESSIVE_ACCUMULATION"
  | .normalBalance => "NORMAL_BALANCE"
  | .rangeTrading => "RANGE_TRADING"
  | .cautious => "CAUTIOUS"
  | .distribution => "DISTRIBUTION"
  | .defensive => "DEFENSIVE"

structure PositionProfileTemplate where
  profile : PositionProfileName
  (minPositionPct maxPositionPct targetCashBufferPct coreShareMin coreShareMax swingMaxPct : Rat)
  (balanceBetaMultiplier inventoryGammaMultiplier gridStepMultiplier : Rat)
  (allowCoreBuy allowSwingBuy : Bool)
  allowCoreSell : Bool := true
  allowSwingSell : Bool := true

structure BucketCap where
  (minPct maxPct : Rat)

structure PositionAdjustmentProfile where
  profile : String
  (minPositionPct maxPositionPct targetCashBufferPct coreShareMin coreShareMax swingMaxPct : Rat)
  (balanceBetaMultiplier inventoryGammaMultiplier gridStepMultiplier : Rat)
  (allowCoreBuy allowSwingBuy allowCoreSell allowSwingSell : Bool)
  reasonTags : List String := []
  bucketCaps : List (Bucket × BucketCap) := []
  allowBucketBuy : List (Bucket × Bool) := []
  allowBucketSell : List (Bucket × Bool) := []
  engineMultipliers : List (String × Rat) := []
  currentPositionPct : Rat := 0

/-- `PROFILE_TEMPLATES`. -/
def PositionProfileName.template : PositionProfileName → PositionProfileTemplate
  | .aggressiveAccumulation => {
      profile := .aggressiveAccumulation, minPositionPct := 30 / 100, maxPositionPct := 80 / 100,
      targetCashBufferPct := 20 / 100, coreShareMin := 80 / 100, coreShareMax := 95 / 100, swingMaxPct := 10 / 100,
      balanceBetaMultiplier := 120 / 100, inventoryGammaMultiplier := 85 / 100, gridStepMultiplier := 1,
      allowCoreBuy := true, allowSwingBuy := true }
  | .normalBalance => {
      profile := .normalBalance, minPositionPct := 20 / 100, maxPositionPct := 70 / 100,
      targetCashBufferPct := 25 / 100, coreShareMin := 65 / 100, coreShareMax := 85 / 100, swingMaxPct := 15 / 100,
      balanceBetaMultiplier := 1, inventoryGammaMultiplier := 1, gridStepMultiplier := 1,
      allowCoreBuy := true, allowSwingBuy := true }
  | .rangeTrading => {
      profile := .rangeTrading, minPositionPct := 25 / 100, maxPositionPct := 65 / 100,
      targetCashBufferPct := 25 / 100, coreShareMin := 50 / 100, coreShareMax := 75 / 100, swingMaxPct := 25 / 100,
      balanceBetaMultiplier := 95 / 100, inventoryGammaMultiplier := 1, gridStepMultiplier := 90 / 100,
      allowCoreBuy := true, allowSwingBuy := true }
  | .cautious => {
      profile := .cautious, minPositionPct := 10 / 100, maxPositionPct := 50 / 100,
      targetCashBufferPct := 30 / 100, coreShareMin := 75 / 100, coreShareMax := 95 / 100, swingMaxPct := 5 / 100,
      balanceBetaMultiplier := 75 / 100, inventoryGammaMultiplier := 120 / 100, gridStepMultiplier := 125 / 100,
      allowCoreBuy := true, allowSwingBuy := false }
  | .distribution => {
      profile := .distribution, minPositionPct := 0, maxPositionPct := 40 / 100,
      targetCashBufferPct := 35 / 100, coreShareMin := 80 / 100, coreShareMax := 1, swingMaxPct := 0,
      balanceBetaMultiplier := 60 / 100, inventoryGammaMultiplier := 130 / 100, gridStepMultiplier := 150 / 100,
      allowCoreBuy := false, allowSwingBuy := false }
  | .defensive => {
      profile := .defensive, minPositionPct := 0, maxPositionPct := 20 / 100,
      targetCashBufferPct := 40 / 100, coreShareMin := 90 / 100, coreShareMax := 1, swingMaxPct := 0,
      balanceBetaMultiplier := 45 / 100, inventoryGammaMultiplier := 140 / 100, gridStepMultiplier := 150 / 100,
      allowCoreBuy := false, allowSwingBuy := false }

namespace PositionAdjustmentLayer

/-- `value.strip().lower()`. -/
def flagText (text : String) : String := lowerText (stripText text)

/-- `_truthy`. -/
def readTruthy : PyVal → Bool
  | .str text => ["1", "true", "yes", "y", "on"].contains (flagText text)
  | value => value.truthy

def optionalBool : PyVal → Option Bool
  | .bool b => some b
  | .str text =>
    if ["1", "true", "yes", "y", "on", "enabled", "allowed"].contains (flagText text) then some true
    else if ["0", "false", "no", "n", "off", "disabled", "disallowed"].contains (flagText text) then some false
    else none
  | .int n => some (n ≠ 0)
  | .float q => some (q ≠ 0)
  | _ => none

/-- `_upper`. -/
def upperValue (strOf : PyVal → String) (value : PyVal) : String :=
  upperText (stripText (valueText strOf (value.or (.str ""))))

/-- `_first_upper`: the first of the fields that is neither missing nor empty. -/
def firstUpper (strOf : PyVal → String) (source : Fields) : List String → String
  | [] => ""
  | key :: keys =>
    match PyVal.get source key with
    | .none => firstUpper strOf source keys
    | .str "" => firstUpper strOf source keys
    | value => upperValue strOf value

def selectProfile (strOf : PyVal → String) (marketContext riskCaps runtimeState : Fields) : PositionProfileName × List String :=
  let dataQuality := upperValue strOf (PyVal.get marketContext "data_quality")
  let insufficient := dataQuality = "INSUFFICIENT" ∨ dataQuality = "MISSING"
  let tags := if insufficient then ["data_quality_insufficient"] else []
  let marketState := firstUpper strOf marketContext
    ["market_state", "market_regime", "market_risk_state", "environment_state"]
  let industryState := firstUpper strOf marketContext ["industry_state", "sector_state", "sector_trend_state"]
  let stockState := firstUpper strOf marketContext ["stock_state", "trend_state", "structure_state"]
  let riskMode := upperValue strOf ((PyVal.get riskCaps "risk_mode").or (PyVal.get marketContext "risk_mode"))
  let score (key : String) : Option Rat := ((PyVal.get marketContext key).or (PyVal.get runtimeState key)).optionalFloat
  let marketStable := marketState ∈ ["", "NORMAL", "STABLE", "RISK_ON", "BULL"]
  let flag (key : String) : Bool := readTruthy (PyVal.get marketContext key)
  if (PyVal.get riskCaps "kill_switch_active").truthy then (.defensive, ["kill_switch"])
  else if marketState ∈ ["PANIC", "CRASH", "BROKEN"] then (.defensive, tags ++ ["market_panic"])
  else if industryState ∈ ["BROKEN", "BREAKDOWN"] then (.defensive, tags ++ ["sector_broken"])
  else if flag "defensive" then (.defensive, tags ++ ["defensive_flag"])
  else if flag "high_distribution" ∨ readTruthy (PyVal.get runtimeState "high_distribution") ∨
      stockState ∈ ["HIGH_DISTRIBUTION", "DISTRIBUTION"] ∨ (score "high_distribution_score").any (75 ≤ ·) then
    (.distribution, tags ++ ["distribution_risk"])
  else if riskMode ∈ ["RISK_OFF", "RISK_REDUCED", "REDUCED"] then (.cautious, tags ++ ["risk_caps_reduced"])
  else if marketState ∈ ["RISK_OFF", "WEAK"] ∨ insufficient then (.cautious, tags ++ ["market_weak_or_missing"])
  else if marketStable ∧ industryState ∈ ["STRONG", "UPTREND", "BULL"] ∧
      (flag "low_accumulation" ∨ stockState ∈ ["LOW_ACCUMULATION", "LOW_SUPPORT"] ∨ (score "low_score").any (70 ≤ ·)) then
    (.aggressiveAccumulation, tags ++ ["low_accumulation"])
  else if marketStable ∧ industryState ∈ ["", "NEUTRAL", "NORMAL", "STABLE"] ∧
      (flag "range_bound" ∨ stockState ∈ ["RANGE", "RANGE_TRADING", "BOX"]) then
    (.rangeTrading, tags ++ ["range_trading"])
  else (.normalBalance, tags ++ ["default_normal"])

def fromTemplate (template : PositionProfileTemplate) (reasonTags : List String) : PositionAdjustmentProfile where
  profile := template.profile.value
  minPositionPct := template.minPositionPct
  maxPositionPct := template.maxPositionPct
  targetCashBufferPct := template.targetCashBufferPct
  coreShareMin := template.coreShareMin
  coreShareMax := template.coreShareMax
  swingMaxPct := template.swingMaxPct
  balanceBetaMultiplier := template.balanceBetaMultiplier
  inventoryGammaMultiplier := template.inventoryGammaMultiplier
  gridStepMultiplier := template.gridStepMultiplier
  allowCoreBuy := template.allowCoreBuy
  allowSwingBuy := template.allowSwingBuy
  allowCoreSell := template.allowCoreSell
  allowSwingSell := template.allowSwingSell
  reasonTags := reasonTags

/-- What `.get` is asked of. -/
def asMapping : PyVal → Except String Fields
  | .dict fields => .ok fields
  | _ => .error "AttributeError"

def currentPositionPct (portfolioState : Fields) (instrumentCode : String) : Except String Rat := do
  let account ← mappingOrEmpty (PyVal.get portfolioState "account")
  let totalAsset := (((PyVal.get account "total_asset").or (PyVal.get account "cash_total")).or
    (PyVal.get account "total_equity")).optionalFloat.getD 0
  if totalAsset ≤ 0 then return 0
  let position ← if instrumentCode = "" then pure [] else do
    let positions ← asMapping ((PyVal.get portfolioState "positions").or (.dict []))
    asMapping (getOr instrumentCode (.dict []) [positions])
  let price := ((PyVal.get position "last_price").or (PyVal.get position "price")).optionalFloat.getD 0
  let volume := (((PyVal.get position "long_volume").or (PyVal.get position "total_volume")).or (.int 0)).optionalFloat.getD 0
  let marketValue := (PyVal.get position "market_value").optionalFloat.getD (price * volume)
  return max 0 (min (marketValue / totalAsset) 1)

def overrideNumber (overrides : Fields) (key : String) (current : Rat) : Rat := (PyVal.get overrides key).optionalFloat.getD current

def overrideFlag (overrides : Fields) (key : String) (current : Bool) : Bool := (optionalBool (PyVal.get overrides key)).getD current

def applyParameterOverrides (parameters : Fields) (profile : PositionAdjustmentProfile) : Except String PositionAdjustmentProfile := do
  let overrides ← mappingOrEmpty (PyVal.get parameters "position_profile_overrides")
  return { profile with
    minPositionPct := overrideNumber overrides "min_position_pct" profile.minPositionPct
    maxPositionPct := overrideNumber overrides "max_position_pct" profile.maxPositionPct
    targetCashBufferPct := overrideNumber overrides "target_cash_buffer_pct" profile.targetCashBufferPct
    coreShareMin := overrideNumber overrides "core_share_min" profile.coreShareMin
    coreShareMax := overrideNumber overrides "core_share_max" profile.coreShareMax
    swingMaxPct := overrideNumber overrides "swing_max_pct" profile.swingMaxPct
    balanceBetaMultiplier := overrideNumber overrides "balance_beta_multiplier" profile.balanceBetaMultiplier
    inventoryGammaMultiplier := overrideNumber overrides "inventory_gamma_multiplier" profile.inventoryGammaMultiplier
    gridStepMultiplier := overrideNumber overrides "grid_step_multiplier" profile.gridStepMultiplier
    allowCoreBuy := overrideFlag overrides "allow_core_buy" profile.allowCoreBuy
    allowSwingBuy := overrideFlag overrides "allow_swing_buy" profile.allowSwingBuy
    allowCoreSell := overrideFlag overrides "allow_core_sell" profile.allowCoreSell
    allowSwingSell := overrideFlag overrides "allow_swing_sell" profile.allowSwingSell }

def readTags (riskCaps : Fields) (key : String) : Except String (List String) := do
  (← iterItems (getOr key (.list []) [riskCaps])).mapM fun tag =>
    match tag with
    | .str tag => .ok tag
    | _ => .error "TypeError"

def capAmounts (riskCaps : Fields) (profile : PositionAdjustmentProfile) : PositionAdjustmentProfile :=
  { profile with
    maxPositionPct := ((PyVal.get riskCaps "max_position_pct").optionalFloat.map (min profile.maxPositionPct)).getD
      profile.maxPositionPct
    targetCashBufferPct := ((PyVal.get riskCaps "min_cash_buffer_pct").optionalFloat.map
      (max profile.targetCashBufferPct)).getD profile.targetCashBufferPct }

def blockBuy (profile : PositionAdjustmentProfile) : PositionAdjustmentProfile :=
  { profile with allowCoreBuy := false, allowSwingBuy := false }

def applyReduceOnly (profile : PositionAdjustmentProfile) : PositionAdjustmentProfile :=
  { blockBuy profile with
    maxPositionPct := min profile.maxPositionPct profile.currentPositionPct, minPositionPct := 0 }

def blockSell (profile : PositionAdjustmentProfile) : PositionAdjustmentProfile :=
  { profile with allowCoreSell := false, allowSwingSell := false }

def applyKillSwitch (profile : PositionAdjustmentProfile) : PositionAdjustmentProfile :=
  let defensive := PositionProfileName.defensive.template
  { blockBuy profile with
    profile := defensive.profile.value, minPositionPct := defensive.minPositionPct
    maxPositionPct := min profile.maxPositionPct defensive.maxPositionPct
    targetCashBufferPct := max profile.targetCashBufferPct defensive.targetCashBufferPct
    coreShareMin := defensive.coreShareMin, coreShareMax := defensive.coreShareMax, swingMaxPct := defensive.swingMaxPct
    balanceBetaMultiplier := defensive.balanceBetaMultiplier
    inventoryGammaMultiplier := defensive.inventoryGammaMultiplier, gridStepMultiplier := defensive.gridStepMultiplier }

def clampProfile (profile : PositionAdjustmentProfile) : PositionAdjustmentProfile :=
  let minPositionPct := max 0 (min profile.minPositionPct profile.maxPositionPct)
  let maxPositionPct := max 0 (min profile.maxPositionPct 1)
  let coreShareMin := max 0 (min profile.coreShareMin 1)
  { profile with
    minPositionPct, maxPositionPct, targetCashBufferPct := max 0 (min profile.targetCashBufferPct 1), coreShareMin
    coreShareMax := max coreShareMin (min profile.coreShareMax 1)
    swingMaxPct := max 0 (min profile.swingMaxPct maxPositionPct) }

def tightenProfile (riskCaps : Fields) (profile : PositionAdjustmentProfile) : PositionAdjustmentProfile :=
  let profile := capAmounts riskCaps profile
  let profile := if TradingRiskChecker.isFalse (PyVal.get riskCaps "allow_buy") then blockBuy profile else profile
  let profile := if (PyVal.get riskCaps "only_reduce_position").truthy then applyReduceOnly profile else profile
  let profile := if TradingRiskChecker.isFalse (PyVal.get riskCaps "allow_sell") then blockSell profile else profile
  if (PyVal.get riskCaps "kill_switch_active").truthy then applyKillSwitch profile else profile

def applyRiskCaps (riskCaps : Fields) (profile : PositionAdjustmentProfile) : Except String PositionAdjustmentProfile := do
  let riskTags ← readTags riskCaps "risk_tags"
  let reasonCodes ← readTags riskCaps "reason_codes"
  return clampProfile (tightenProfile riskCaps { profile with
    reasonTags := sortedSet (profile.reasonTags ++ riskTags ++ reasonCodes) })

def buildBucketCaps (profile : PositionAdjustmentProfile) : PositionAdjustmentProfile :=
  { profile with
    bucketCaps := [
      (.core, ⟨profile.minPositionPct * profile.coreShareMin, profile.maxPositionPct * profile.coreShareMax⟩),
      (.swing, ⟨0, min profile.swingMaxPct (profile.maxPositionPct * max 0 (1 - profile.coreShareMin))⟩),
      (.lockedCore, ⟨0, 0⟩)]
    allowBucketBuy := [(.core, profile.allowCoreBuy), (.swing, profile.allowSwingBuy), (.lockedCore, false)]
    allowBucketSell := [(.core, profile.allowCoreSell), (.swing, profile.allowSwingSell), (.lockedCore, false)]
    engineMultipliers := [("balance_beta", profile.balanceBetaMultiplier),
      ("inventory_gamma", profile.inventoryGammaMultiplier), ("grid_step", profile.gridStepMultiplier)] }

def adjustProfile (parameters riskCaps : Fields) (profile : PositionAdjustmentProfile) : Except String PositionAdjustmentProfile := do
  let profile ← applyParameterOverrides parameters profile
  return buildBucketCaps (← applyRiskCaps riskCaps profile)

/-- `build_profile`. A missing mapping is an empty one. -/
def buildProfile (strOf : PyVal → String) (marketContext riskCaps portfolioState runtimeState parameters : Fields)
    (instrumentCode : String) : Except String PositionAdjustmentProfile := do
  let (name, reasonTags) := selectProfile strOf marketContext riskCaps runtimeState
  let current ← currentPositionPct portfolioState instrumentCode
  adjustProfile parameters riskCaps { fromTemplate name.template reasonTags with currentPositionPct := current }

end PositionAdjustmentLayer
end QuantX
