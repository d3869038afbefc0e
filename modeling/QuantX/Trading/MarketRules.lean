import QuantX.Trading.BucketLedger

/-! # A-share market rules

The rule checks that an order passes before it is routed. Prices are exact rationals. Where a message prints a price,
`repr` is the text that Python gives a float. -/

namespace QuantX
open Lib

inductive PriceType where
  | limit
  | market
  | stop
  | stopLimit
  deriving DecidableEq, Repr

structure OrderRequest where
  instrumentCode : String
  orderType : OrderType
  priceType : PriceType
  volume : Int
  price : Rat := 0
  metadata : List (String × PyVal) := []

/-- What the checks read off a market snapshot. The order volume bounds are attributes that a snapshot need
    not have. -/
structure MarketDataSnapshot where
  timestamp : Option String := none
  price : Rat := 0
  priceTick : Rat := 1 / 100
  limitUp : Option Rat := none
  limitDown : Option Rat := none
  isTrading : Bool := true
  suspended : Bool := false
  minLimitOrderVolume : Option Int := none
  minLimitSellOrderVolume : Option Int := none
  maxLimitOrderVolume : Option Int := none
  maxLimitSellOrderVolume : Option Int := none

/-- `OrderCheckResult`: nothing where the check passes. -/
inductive OrderCheckResult where
  | passed
  | failed (code message : String) (metadata : List (String × PyVal))

def OrderCheckResult.ok : OrderCheckResult → Bool
  | .passed => true
  | .failed _ _ _ => false

/-- `Decimal.quantize` to an integer with `ROUND_HALF_UP`: ties go away from zero. -/
def roundHalfUp (value : Rat) : Int :=
  if 0 ≤ value then (value + 1 / 2).floor else -(-value + 1 / 2).floor

namespace AShareMarketRules

def lotSize : Int := 100
def defaultPriceTick : Rat := 1 / 100

def normalizePrice (price priceTick : Rat) : Rat :=
  let tick := PyVal.orNumber priceTick defaultPriceTick
  let tick := if tick ≤ 0 then defaultPriceTick else tick
  roundHalfUp (price / tick) * tick

def isPriceTickAligned (price priceTick : Rat) : Bool :=
  let tick := PyVal.orNumber priceTick defaultPriceTick
  |normalizePrice price priceTick - price| < max (1 / 100000000) (tick / 1000)

def normalizeBuyVolume (volume : Int) : Int :=
  if volume ≤ 0 then 0 else volume / lotSize * lotSize

def normalizeSellVolume (requestedVolume availableVolume : Int) : Int :=
  if requestedVolume ≤ 0 ∨ availableVolume ≤ 0 then 0
  else
    let volume := min requestedVolume availableVolume
    if volume = availableVolume then volume
    else if volume < lotSize then 0
    else volume / lotSize * lotSize

def estimateCommission (amount rate minimum : Rat) : Rat :=
  if amount ≤ 0 then 0 else max (amount * rate) minimum

def checkTradingStatus (market : Option MarketDataSnapshot) (strictMarketData : Bool) : OrderCheckResult :=
  match market with
  | none => if strictMarketData then .failed "missing_market_data" "缺少行情状态，拒绝下单" [] else .passed
  | some market =>
    if market.suspended || !market.isTrading then .failed "suspended" "标的停牌或不可交易" [] else .passed

def checkPriceLimits (repr : Rat → String) (request : OrderRequest) (market : Option MarketDataSnapshot)
    (strictLimitData : Bool) : OrderCheckResult :=
  match market.bind (·.limitUp), market.bind (·.limitDown) with
  | some limitUp, some limitDown =>
    if limitUp < request.price then
      .failed "above_limit_up" ("订单价格超过涨停价: " ++ repr request.price ++ " > " ++ repr limitUp) []
    else if request.price < limitDown then
      .failed "below_limit_down" ("订单价格低于跌停价: " ++ repr request.price ++ " < " ++ repr limitDown) []
    else .passed
  | _, _ => if strictLimitData then .failed "missing_limit_data" "缺少涨跌停价格" [] else .passed

def checkPrice (repr : Rat → String) (request : OrderRequest) (market : Option MarketDataSnapshot)
    (strictLimitData : Bool) : OrderCheckResult :=
  if request.priceType = .market then .passed
  else if request.price ≤ 0 then .failed "invalid_price" "限价单价格必须大于0" []
  else
    let tick := (market.map (·.priceTick)).getD defaultPriceTick
    if !isPriceTickAligned request.price tick then
      .failed "price_tick" ("价格不符合最小变价单位: price=" ++ repr request.price ++ ", tick=" ++ repr tick) []
    else checkPriceLimits repr request market strictLimitData

def checkLimitBlock (request : OrderRequest) (market : Option MarketDataSnapshot) : OrderCheckResult :=
  match market with
  | none => .passed
  | some market =>
    if market.price ≤ 0 then .passed
    else
      match request.orderType, market.limitUp, market.limitDown with
      | .buy, some limitUp, _ =>
        if limitUp ≤ request.price ∧ limitUp ≤ market.price then .failed "limit_up_blocked" "涨停封板默认不成交" []
        else .passed
      | .sell, _, some limitDown =>
        if request.price ≤ limitDown ∧ market.price ≤ limitDown then .failed "limit_down_blocked" "跌停封板默认不成交" []
        else .passed
      | _, _, _ => .passed

def checkLots (request : OrderRequest) (availableVolume : Int) : OrderCheckResult :=
  match request.orderType with
  | .buy => if request.volume % lotSize ≠ 0 then .failed "buy_lot" "买入数量必须为100股整数倍" [] else .passed
  | .sell =>
    if availableVolume < request.volume then
      .failed "insufficient_position" ("可用持仓不足: " ++ toString availableVolume ++ " < " ++ toString request.volume) []
    else if request.volume ≠ availableVolume ∧ request.volume < lotSize then
      .failed "odd_lot_sell" "不足100股的零股必须一次性卖出" []
    else .passed
  | _ => .passed

def checkVolumeBounds (volume : Int) (minVolume maxVolume : Option Int) : OrderCheckResult :=
  match minVolume.filter (volume < ·), maxVolume.filter (· < volume) with
  | some minVolume, _ =>
    .failed "below_min_volume" ("订单数量低于最小申报量: " ++ toString volume ++ " < " ++ toString minVolume) []
  | none, some maxVolume =>
    .failed "above_max_volume" ("订单数量超过最大申报量: " ++ toString volume ++ " > " ++ toString maxVolume) []
  | none, none => .passed

def checkVolume (request : OrderRequest) (availableVolume : Int) (minVolume maxVolume : Option Int) : OrderCheckResult :=
  if request.volume ≤ 0 then .failed "invalid_volume" "订单数量必须大于0" []
  else
    match checkLots request availableVolume with
    | .passed => checkVolumeBounds request.volume minVolume maxVolume
    | failed => failed

end AShareMarketRules
end QuantX
