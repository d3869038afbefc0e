import QuantX.Trading.ExitPlan
import QuantX.Trading.MarketRules
import QuantX.Trading.ContextRisk
import QuantX.Lib.Multiples

/-! # The order sizer

`OrderSizer.draft_intent`: what a trade intent asks for becomes a legal A-share order. Prices and amounts are exact
rationals, and a cap that is no number is not represented but for its type. -/

namespace QuantX
open Lib

structure TradeIntent where
  (intentId instrumentCode bucket : String)
  targetAmount : Option Rat := none
  targetPositionPct : Option Rat := none
  targetVolume : Option Int := none
  metadata : Fields := []

structure OrderDraft where
  intentId : String
  side : OrderType
  (instrumentCode bucket : String)
  limitPrice : Rat
  rawTargetAmount : Option Rat
  rawTargetVolume : Option Int
  sizedAmount : Rat
  sizedVolume : Int
  sizeReasonCodes : List String
  metadata : Fields

structure SizingTarget where
  amount : Option Rat
  volume : Option Int
  reasonCodes : List String
  metadata : Fields

def SizingTarget.note (target : SizingTarget) (applies : Prop) [Decidable applies] (reasonCode : String) : SizingTarget :=
  if applies then { target with reasonCodes := target.reasonCodes ++ [reasonCode] } else target

structure Sizing where
  volume : Int
  target : SizingTarget

namespace TradeIntent
variable (intent : TradeIntent)

/-- `intent.target_volume or _optional_int(metadata.get("requested_volume", metadata.get("volume")))`. -/
def requestedVolume : Option Int :=
  (intent.targetVolume.filter (· ≠ 0)).or
    (getOr "requested_volume" (PyVal.get intent.metadata "volume") [intent.metadata]).optionalInt

def statedAmount : Option Rat :=
  firstOptionalFloat [numberOrNone intent.targetAmount, PyVal.get intent.metadata "target_amount",
    PyVal.get intent.metadata "budget"]

def statedPct : Option Rat :=
  firstOptionalFloat [numberOrNone intent.targetPositionPct, PyVal.get intent.metadata "target_position_pct",
    PyVal.get intent.metadata "allocation_pct"]

/-- `_optional_positive_number(metadata.get("liquidity_cap_amount"))`. -/
def liquidityCap : Option Rat := (PyVal.get intent.metadata "liquidity_cap_amount").optionalFloat.filter (0 < ·)

def isEntry : Bool := lowerText (((PyVal.get intent.metadata "t_trade_role").or (.str "")).text "") = "entry"

end TradeIntent

/-- The sizer's settings. `strOf` is the text that Python gives a number. -/
structure OrderSizer where
  costs : TradingCostPolicy := {}
  strOf : Rat → String

namespace OrderSizer
variable (sizer : OrderSizer) (intent : TradeIntent) (orderType : OrderType) (price : Rat) (account position : Fields)

def readSellVolumeCap : PyVal → Except String (Option Int)
  | .none => .ok none
  | .int n =>
    if n < 0 then .error "SELL_VOLUME_CAP_INVALID"
    else if orderType ≠ .sell then .error "SELL_VOLUME_CAP_REQUIRES_SELL"
    else .ok (some n)
  | _ => .error "SELL_VOLUME_CAP_INVALID"

def checkAllocationCap (cap : Rat) : Except String (Option Rat) :=
  if cap < 0 then .error "ALLOCATION_AMOUNT_CAP_INVALID"
  else if orderType ≠ .buy then .error "ALLOCATION_AMOUNT_CAP_REQUIRES_BUY"
  else if price ≤ 0 then .error "ALLOCATION_AMOUNT_CAP_PRICE_INVALID"
  else .ok (some cap)

def readAllocationCap : PyVal → Except String (Option Rat)
  | .none => .ok none
  | .int n => checkAllocationCap orderType price n
  | .float q => checkAllocationCap orderType price q
  | _ => .error "ALLOCATION_AMOUNT_CAP_INVALID"

def rawTargetAmount : Except String (Option Rat) := do
  let totalAsset ← ((((PyVal.get account "total_asset").or (PyVal.get account "cash_total")).or
    (PyVal.get account "available_cash")).or (.float 0)).toFloat
  match intent.statedAmount, intent.statedPct.filter fun _ => 0 < totalAsset with
  | some amount, _ => return some amount
  | none, some pct => return some (totalAsset * pct)
  | none, none =>
    return (intent.requestedVolume.filter fun volume => volume ≠ 0 ∧ 0 < price).map fun (volume : Int) => volume * price

def capLiquidity (target : SizingTarget) : SizingTarget :=
  match intent.liquidityCap, target.amount with
  | some cap, some amount =>
    if orderType = .buy ∧ cap < amount then
      { amount := some cap
        volume := (target.volume.filter fun volume => volume ≠ 0 ∧ 0 < price).map fun volume => min volume (cap / price).floor
        reasonCodes := target.reasonCodes ++ ["LIQUIDITY_PARTICIPATION_CAP"]
        metadata := Dict.put "uncapped_target_amount" (.float amount) target.metadata }
    else target
  | _, _ => target

def buyTarget (target : SizingTarget) : Int :=
  match target.volume.filter (0 < ·), target.amount.filter (0 < ·) with
  | some volume, _ => volume
  | none, some amount => (amount / price).floor
  | none, none => 0

def oldInventory : Except String Int := do
  let available ← (getOr "available_volume" (.int 0) [position]).toInt
  let lockedCore ← (getOr "locked_core_available_volume" (.int 0) [position]).toInt
  let capacity ← (getOr "t_trade_exit_capacity" (.int (max 0 (available - lockedCore))) [position]).toInt
  return max 0 capacity

def sizeBuy (target : SizingTarget) : Except String Sizing := do
  let requested := buyTarget price target
  let sized := AShareMarketRules.normalizeBuyVolume requested
  let target := { target with volume := some requested }.note (sized ≠ requested) "BUY_LOT_NORMALIZED"
  if intent.isEntry then do
    let capped := min sized (AShareMarketRules.normalizeBuyVolume (← oldInventory position))
    return ⟨capped, target.note (capped ≠ sized) "T_TRADE_OLD_INVENTORY_CAP"⟩
  else return ⟨sized, target⟩

def sellTarget (available : Int) (target : SizingTarget) : SizingTarget :=
  if (PyVal.get intent.metadata "sell_all").truthy ∨ (PyVal.get intent.metadata "close_position").truthy ∨
      target.volume.getD 0 ≤ 0 then
    { target with volume := some available }.note True "SELL_ALL_AVAILABLE"
  else target

def capSale (available : Int) (cap : Option Int) (target : SizingTarget) : Sizing :=
  let requested := target.volume.getD 0
  match cap with
  | none => ⟨requested, target⟩
  | some cap =>
    let metadata := Dict.put "broker_available_volume" (.int available) (Dict.put "sell_volume_cap" (.int cap) target.metadata)
    ⟨min requested cap, { target with metadata }.note (min requested cap < requested) "SELL_CAPACITY_CAP"⟩

def sizeSell (cap : Option Int) (target : SizingTarget) : Except String Sizing := do
  let available ← intField position "available_volume"
  let capped := capSale available cap (sellTarget intent available target)
  let sized := AShareMarketRules.normalizeSellVolume capped.volume available
  return ⟨sized, capped.target.note (sized ≠ capped.target.volume.getD 0) "SELL_VOLUME_NORMALIZED_OR_CAPPED"⟩

def cashRequired (volume : Int) : Rat := price * volume + estimateBuyFeeCny price volume sizer.costs

def allocatedVolume (cap : Rat) (volume : Int) : Int :=
  let lots := lastFit (fun lots => sizer.cashRequired price ((lots : Int) * AShareMarketRules.lotSize) ≤ cap) 0
    (volume / AShareMarketRules.lotSize).toNat
  lots * AShareMarketRules.lotSize

def allocate (cap : Option Rat) (sizing : Sizing) : Sizing :=
  match cap with
  | none => sizing
  | some cap =>
    let capped := sizer.allocatedVolume price cap sizing.volume
    let target := (sizing.target.note (capped < sizing.volume) "ALLOCATION_AMOUNT_CAP").note
      (capped < sizing.volume ∧ capped = 0) "MIN_LOT_EXCEEDS_ALLOCATION_BUDGET"
    let metadata := Dict.put "allocated_amount_cap" (.str (sizer.strOf cap)) target.metadata
    let metadata := Dict.put "allocation_estimated_fee_cny" (.str (sizer.strOf (estimateBuyFeeCny price capped sizer.costs))) metadata
    let metadata := Dict.put "allocation_cash_required" (.str (sizer.strOf (sizer.cashRequired price capped))) metadata
    ⟨capped, { target with metadata }⟩

def sizeSide (sellVolumeCap : Option Int) (target : SizingTarget) : Except String Sizing :=
  if price ≤ 0 then return ⟨0, target.note True "INVALID_PRICE"⟩
  else
    match orderType with
    | .buy => sizeBuy intent price position target
    | .sell => sizeSell intent position sellVolumeCap target
    | _ => return ⟨0, target.note True "UNSUPPORTED_ORDER_TYPE"⟩

def draft (sizing : Sizing) : OrderDraft :=
  let target := sizing.target
  let tooSmall := orderType = .buy ∧ target.amount.any fun amount => 0 < amount ∧ amount < price * AShareMarketRules.lotSize
  let target := (target.note (sizing.volume ≤ 0 ∧ tooSmall) "MIN_LOT_EXCEEDS_RISK_BUDGET").note (sizing.volume ≤ 0)
    "ZERO_SIZED_VOLUME"
  { intentId := intent.intentId, side := orderType, instrumentCode := intent.instrumentCode, bucket := intent.bucket
    limitPrice := price, rawTargetAmount := target.amount, rawTargetVolume := target.volume
    sizedAmount := price * sizing.volume, sizedVolume := sizing.volume, sizeReasonCodes := target.reasonCodes
    metadata := target.metadata }

def draftIntent (allocatedAmountCap sellVolumeCap : PyVal) : Except String OrderDraft := do
  let sellVolumeCap ← readSellVolumeCap orderType sellVolumeCap
  let allocationCap ← readAllocationCap orderType price allocatedAmountCap
  let amount ← rawTargetAmount intent price account
  let target := capLiquidity intent orderType price ⟨amount, intent.requestedVolume, [], intent.metadata⟩
  let sizing ← sizeSide intent orderType price position sellVolumeCap target
  return draft intent orderType price (sizer.allocate price allocationCap sizing)

end OrderSizer
end QuantX
