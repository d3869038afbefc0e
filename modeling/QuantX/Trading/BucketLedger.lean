import QuantX.Lib.Fields
import Mathlib.Algebra.Order.Ring.Rat

/-! # The bucket ledger

Per instrument three buckets with their volumes, the orders that wait for fills, and the substitution plans of sells that
take shares from other buckets. Prices are exact rationals. -/

namespace QuantX
open Lib

/-- `round`: to the nearest integer, and to the even one of two that are as near. -/
def roundHalfEven (value : Rat) : Int :=
  let below := value.floor
  if value - below < 1 / 2 then below
  else if 1 / 2 < value - below then below + 1
  else if below % 2 = 0 then below
  else below + 1

/-- `int(position.get("long_volume", position.get("total_volume", 0)) or 0)`. -/
def longVolume (position : List (String × PyVal)) : Except String Int :=
  ((getOr "long_volume" (getOr "total_volume" (.int 0) [position]) [position]).or (.int 0)).toInt

/-! ## Buckets -/

inductive Bucket where
  | lockedCore
  | core
  | swing
  deriving DecidableEq, Repr

def Bucket.name : Bucket → String
  | .lockedCore => "locked_core"
  | .core => "core"
  | .swing => "swing"

def knownBuckets : List Bucket := [.lockedCore, .core, .swing]

/-- `str.lower` as far as an ASCII result goes: the Kelvin sign is the only letter outside ASCII whose
    lower case is an ASCII letter. -/
def lowerText (s : String) : String := s.map fun c => if c = Char.ofNat 0x212A then 'k' else c.toLower

/-- `_normalize_bucket` of a text. Every unknown name is the core bucket. -/
def normalizeBucket (bucket : String) : Bucket :=
  let name := lowerText (PyVal.orText bucket "core")
  if name = "locked" ∨ name = "lockedcore" ∨ name = "locked_core" then .lockedCore
  else if name = "swing" then .swing
  else .core

/-- `_normalize_bucket` of any value: only a text can name a bucket other than the core one. -/
def normalizeBucketValue (value : PyVal) : Bucket := normalizeBucket ((value.or (.str "core")).text "")

structure BucketPositionState where
  bucket : Bucket
  totalVolume : Int := 0
  availableVolume : Int := 0
  todayBuyVolume : Int := 0
  frozenVolume : Int := 0
  marketValue : Rat := 0
  avgPrice : Rat := 0
  lastPrice : Rat := 0
  deriving DecidableEq

namespace BucketPositionState

def normalize (state : BucketPositionState) : BucketPositionState :=
  let totalVolume := max 0 state.totalVolume
  let frozenVolume := max 0 state.frozenVolume
  { state with
    totalVolume, frozenVolume, todayBuyVolume := max 0 state.todayBuyVolume
    availableVolume := min (max 0 state.availableVolume) (max 0 (totalVolume - frozenVolume))
    marketValue := max 0 state.marketValue, avgPrice := max 0 state.avgPrice, lastPrice := max 0 state.lastPrice }

/-- `total_volume * (last_price or avg_price)`. -/
def revalue (state : BucketPositionState) : BucketPositionState :=
  { state with
    marketValue := state.totalVolume * (if state.lastPrice ≠ 0 then state.lastPrice else state.avgPrice) }

def freeze (state : BucketPositionState) (volume : Int) : BucketPositionState :=
  { state with
    availableVolume := state.availableVolume - volume, frozenVolume := state.frozenVolume + volume }.normalize

def unfreeze (state : BucketPositionState) (volume : Int) : BucketPositionState :=
  { state with
    frozenVolume := max 0 (state.frozenVolume - volume), availableVolume := state.availableVolume + volume }.normalize

def sellFrozen (state : BucketPositionState) (volume : Int) : BucketPositionState :=
  { state with
    frozenVolume := max 0 (state.frozenVolume - volume)
    totalVolume := max 0 (state.totalVolume - volume) }.revalue.normalize

def sellUnreserved (state : BucketPositionState) (volume : Int) : BucketPositionState :=
  { state with
    totalVolume := state.totalVolume - volume
    availableVolume := max 0 (state.availableVolume - volume) }.revalue.normalize

def applyBucketBuy (state : BucketPositionState) (volume : Int) (price : Rat) : BucketPositionState :=
  let oldValue := state.avgPrice * state.totalVolume
  let addValue := max 0 price * volume
  let totalVolume := state.totalVolume + volume
  { state with
    totalVolume, todayBuyVolume := state.todayBuyVolume + volume
    avgPrice := if 0 < totalVolume then (oldValue + addValue) / totalVolume else state.avgPrice
    lastPrice := max state.lastPrice price }.revalue.normalize

def giveTodayBuy (state : BucketPositionState) (volume : Int) : BucketPositionState :=
  { state with
    totalVolume := state.totalVolume - volume, todayBuyVolume := state.todayBuyVolume - volume }.revalue.normalize

def settle (state : BucketPositionState) : BucketPositionState :=
  { state with
    availableVolume := max 0 (state.totalVolume - state.frozenVolume), todayBuyVolume := 0 }.normalize

def scaleVolume (value : Int) (factor : Rat) : Int := max 0 (roundHalfEven (value * factor))

def adjust (state : BucketPositionState) (volumeFactor priceMultiplier cashDividend : Rat) : BucketPositionState :=
  let state := state.normalize
  { state with
    totalVolume := scaleVolume state.totalVolume volumeFactor
    availableVolume := scaleVolume state.availableVolume volumeFactor
    todayBuyVolume := scaleVolume state.todayBuyVolume volumeFactor
    frozenVolume := scaleVolume state.frozenVolume volumeFactor
    avgPrice := max 0 (state.avgPrice * priceMultiplier - cashDividend)
    lastPrice := max 0 (state.lastPrice * priceMultiplier - cashDividend) }.revalue.normalize

def takePosition (state : BucketPositionState) (longVolume available frozen todayBuy : Int) (avgPrice lastPrice : Rat) :
    BucketPositionState :=
  { state with
    totalVolume := longVolume, availableVolume := available, frozenVolume := frozen, todayBuyVolume := todayBuy
    avgPrice, lastPrice }

def takeDelta (state : BucketPositionState) (delta unbooked : Int) : BucketPositionState :=
  { state with
    totalVolume := max 0 (state.totalVolume + delta)
    availableVolume := if 0 < delta then state.availableVolume + max 0 unbooked else state.availableVolume }.normalize

/-- What marking to market does to a bucket; `total` is the volume of all buckets. -/
def mark (state : BucketPositionState) (lastPrice avgPrice marketValue : Rat) (total : Int) : BucketPositionState :=
  let lastPrice := if 0 < lastPrice then lastPrice else state.lastPrice
  { state with
    avgPrice := if 0 < avgPrice ∧ state.avgPrice ≤ 0 then avgPrice else state.avgPrice, lastPrice
    marketValue :=
      if 0 < total ∧ 0 < marketValue then marketValue * state.totalVolume / total
      else if 0 < lastPrice then state.totalVolume * lastPrice
      else state.marketValue }.normalize

/-- `to_dict` of a normalized state. -/
def toDict (state : BucketPositionState) : List (String × PyVal) :=
  [("bucket", .str state.bucket.name), ("total_volume", .int state.totalVolume),
    ("available_volume", .int state.availableVolume), ("today_buy_volume", .int state.todayBuyVolume),
    ("frozen_volume", .int state.frozenVolume), ("market_value", .float state.marketValue),
    ("avg_price", .float state.avgPrice), ("last_price", .float state.lastPrice)]

def positionFields (name : String) (state : BucketPositionState) : List (String × PyVal) :=
  [(name ++ "_volume", .int state.totalVolume), (name ++ "_total_volume", .int state.totalVolume),
    (name ++ "_available", .int state.availableVolume), (name ++ "_available_volume", .int state.availableVolume),
    (name ++ "_frozen_volume", .int state.frozenVolume), (name ++ "_today_buy_volume", .int state.todayBuyVolume)]

end BucketPositionState

inductive SubstitutionStatus where
  | planned
  | reserved
  | applied
  | rolledBack
  | partialApplied
  deriving DecidableEq, Repr

def SubstitutionStatus.ofText : String → Except String SubstitutionStatus
  | "PLANNED" => .ok .planned
  | "RESERVED" => .ok .reserved
  | "APPLIED" => .ok .applied
  | "ROLLED_BACK" => .ok .rolledBack
  | "PARTIAL_APPLIED" => .ok .partialApplied
  | _ => .error "ValueError"

structure SubstitutionLeg where
  bucket : String
  volume : Int
  deriving DecidableEq

structure SubstitutionPlan where
  requestedBucket : String
  sellFromBuckets : List SubstitutionLeg
  reattributeBuyToBucket : String := "core"
  volume : Int := 0
  reason : String := ""
  enabled : Bool := true
  (planId orderId : String)
  status : SubstitutionStatus := .planned
  appliedVolume : Int := 0
  rolledBackVolume : Int := 0
  metadata : List (String × PyVal) := []

/-- One leg of `sell_from_buckets`. -/
def SubstitutionLeg.fromDict : PyVal → Except String SubstitutionLeg
  | .dict raw => do return { bucket := textField raw "bucket" "", volume := ← intField raw "volume" }
  | _ => .error "AttributeError"

def SubstitutionStatus.fromField (data : List (String × PyVal)) : Except String SubstitutionStatus :=
  match Dict.lookup "status" data with
  | some (.str status) => ofText status
  | _ => .ok .planned

/-- `str(data.get(key, default) or default)`. -/
def textOrField (raw : List (String × PyVal)) (key default : String) : String :=
  (((Dict.lookup key raw).getD (.str default)).or (.str default)).text ""

/-- `SubstitutionPlan.from_dict`: nothing for a missing or empty mapping. `uuid4` is the id of a plan without one; legs
    without a positive volume are dropped. -/
def SubstitutionPlan.fromDict (uuid4 orderId : String) :
    Option (List (String × PyVal)) → Except String (Option SubstitutionPlan)
  | none => .ok none
  | some [] => .ok none
  | some data => do
    let status ← SubstitutionStatus.fromField data
    let items ← listOrEmpty (PyVal.get data "sell_from_buckets")
    let legs ← items.mapM SubstitutionLeg.fromDict
    let volume ← intField data "volume"
    let appliedVolume ← intField data "applied_volume"
    let rolledBackVolume ← intField data "rolled_back_volume"
    let metadata ← mappingOrEmpty (PyVal.get data "metadata")
    return some {
      requestedBucket := textOrField data "requested_bucket" "swing"
      sellFromBuckets := legs.filter fun leg => 0 < leg.volume
      reattributeBuyToBucket := textOrField data "reattribute_buy_to_bucket" "core", volume
      reason := textField data "reason" "", enabled := boolField data "enabled" true
      planId := ((PyVal.get data "plan_id").or (.str uuid4)).text ""
      orderId := PyVal.orText orderId (textField data "order_id" ""), status, appliedVolume
      rolledBackVolume, metadata }

inductive OrderType where
  | buy
  | sell
  | buyToCover
  | sellShort
  deriving DecidableEq, Repr

structure ReservedLeg where
  bucket : Bucket
  (volume remainingVolume : Int)
  deriving DecidableEq

structure PendingOrder where
  (orderId instrumentCode : String)
  orderType : OrderType
  bucket : Bucket
  (volume remainingVolume : Int)
  price : Rat
  metadata : Dict String PyVal
  reservedLegs : List ReservedLeg
  substitutionPlanId : Option String
  createdAt : String

inductive LedgerEvent where
  | bucketUnfrozen (bucket : Bucket) (volume : Int) (reason : String)
  | substitutionRolledBack (plan : SubstitutionPlan)
  | bucketBuyApplied (bucket : Bucket) (volume : Int)
  | bucketSellApplied (bucket : Bucket) (volume : Int)
  | bucketSellUnreserved (bucket : Bucket) (volume : Int)
  | substitutionReattributed (fromBucket toBucket : Bucket) (volume : Int)
  | corporateActionBucketAdjusted (bucket : Bucket) (before after : BucketPositionState)
  | corporateActionApplied (actionId exDate : Option String) (volumeFactor priceFactor cashDividendPerShare : Rat)

structure BucketLedgerPatch where
  instrumentCode : String
  changedBuckets : Dict Bucket BucketPositionState := Dict.empty
  events : List LedgerEvent := []

/-- The arguments of `reserve_order`. -/
structure ReserveCall where
  (orderId instrumentCode : String)
  orderType : OrderType
  bucket : String
  volume : Int
  price : Rat := 0
  metadata : Dict String PyVal := Dict.empty
  substitutionPlan : Option (List (String × PyVal)) := none

structure LedgerTrade where
  (orderId instrumentCode : String)
  tradeType : OrderType
  volume : Int
  price : Rat

structure BucketLedger where
  runId : String
  buckets : Dict String (Dict Bucket BucketPositionState) := Dict.empty
  pendingOrders : Dict String PendingOrder := Dict.empty
  pendingSubstitutions : Dict String SubstitutionPlan := Dict.empty
  lastSettlementDate : Option String := none

namespace BucketLedger

def state (ledger : BucketLedger) (code : String) (bucket : Bucket) : BucketPositionState :=
  (ledger.buckets.getD code Dict.empty).getD bucket { bucket := bucket }

def ensureInstrument (ledger : BucketLedger) (code : String) : BucketLedger :=
  { ledger with
    buckets := ledger.buckets.set code (knownBuckets.foldl
      (fun buckets bucket => buckets.setdefault bucket { bucket := bucket }) (ledger.buckets.getD code Dict.empty)) }

/-- Change the state of one bucket, which is made first where it is missing (`_bucket`). -/
def modifyBucket (ledger : BucketLedger) (code : String) (bucket : Bucket)
    (change : BucketPositionState → BucketPositionState) : BucketLedger :=
  let ledger := ledger.ensureInstrument code
  { ledger with
    buckets := ledger.buckets.set code
      ((ledger.buckets.getD code Dict.empty).set bucket (change (ledger.state code bucket))) }

/-- `_instrument_snapshot`: writing the states out normalizes them. -/
def instrumentSnapshot (ledger : BucketLedger) (code : String) : BucketLedger × Dict Bucket BucketPositionState :=
  if code = "" then (ledger, Dict.empty)
  else
    let ledger := ledger.ensureInstrument code
    let written := (ledger.buckets.getD code Dict.empty).map BucketPositionState.normalize
    ({ ledger with buckets := ledger.buckets.set code written }, written)

def modifyBuckets (ledger : BucketLedger) (code : String) (change : BucketPositionState → BucketPositionState) : BucketLedger :=
  let ledger := ledger.ensureInstrument code
  { ledger with buckets := ledger.buckets.set code ((ledger.buckets.getD code Dict.empty).map change) }

def markToMarket (ledger : BucketLedger) (code : String) (lastPrice avgPrice marketValue : Rat) : BucketLedger :=
  let total := ((ledger.ensureInstrument code).buckets.getD code Dict.empty).sum (·.totalVolume)
  ledger.modifyBuckets code (·.mark lastPrice avgPrice marketValue total)

/-- The numbers that a position is synchronized by. The market value is read last, in `syncBuckets`. -/
structure PositionFigures where
  (longVolume available frozen todayBuy : Int)
  (avgPrice lastPrice : Rat)

def PositionFigures.read (position : List (String × PyVal)) : Except String PositionFigures := do
  return {
    longVolume := ← QuantX.longVolume position, available := ← intField position "available_volume"
    frozen := ← intField position "frozen_volume", todayBuy := ← intField position "today_buy_volume"
    avgPrice := ← ((getOr "long_avg_price" (getOr "avg_price" (.float 0) [position]) [position]).or (.float 0)).toFloat
    lastPrice := ← floatField position "last_price" 0 }

/-- The buckets follow a position that is held or has orders: without any volume the core bucket takes it whole, else
    the difference. A market value that cannot be read raises after that. -/
def syncBuckets (ledger : BucketLedger) (code : String) (figures : PositionFigures) (marketValue : Except String Rat) :
    BucketLedger × Except String Unit :=
  let ledger := ledger.ensureInstrument code
  let buckets := ledger.buckets.getD code Dict.empty
  if buckets.values.all (·.totalVolume = 0) then
    let ledger := ledger.modifyBucket code .core
      (·.takePosition figures.longVolume figures.available figures.frozen figures.todayBuy figures.avgPrice figures.lastPrice)
    match marketValue with
    | .error e => (ledger, .error e)
    | .ok marketValue => (ledger.modifyBucket code .core fun core => { core with marketValue }.normalize, .ok ())
  else
    let delta := figures.longVolume - buckets.sum (·.totalVolume)
    let ledger :=
      if delta ≠ 0 then ledger.modifyBucket code .core (·.takeDelta delta (figures.available - buckets.sum (·.availableVolume)))
      else ledger
    match marketValue with
    | .error e => (ledger, .error e)
    | .ok marketValue => (ledger.markToMarket code figures.lastPrice figures.avgPrice marketValue, .ok ())

/-- `sync_position`. An instrument that is neither held nor ordered leaves the ledger. -/
def syncPosition (ledger : BucketLedger) (code : String) (position : List (String × PyVal)) : BucketLedger × Except String Unit :=
  if code = "" then (ledger, .ok ())
  else
    match PositionFigures.read position with
    | .error e => (ledger, .error e)
    | .ok figures =>
      if figures.longVolume ≤ 0 ∧ ledger.pendingOrders.values.all (·.instrumentCode ≠ code) then
        ({ ledger with buckets := ledger.buckets.erase code }, .ok ())
      else ledger.syncBuckets code figures (floatField position "market_value" 0)

/-- `decorate_position`: the position with the volumes of its buckets, after the buckets follow it. -/
def decoratePosition (ledger : BucketLedger) (code : String) (position : List (String × PyVal)) :
    BucketLedger × Except String (List (String × PyVal)) :=
  match ledger.syncPosition code position with
  | (ledger, .error e) => (ledger, .error e)
  | (ledger, .ok ()) =>
    let ledger := ledger.modifyBuckets code BucketPositionState.normalize
    let entries := (ledger.buckets.getD code Dict.empty).entries
    let shown := entries.flatMap fun entry => entry.2.positionFields entry.1.name
    let written := ("bucket_ledger", PyVal.dict (entries.map fun entry => (entry.1.name, .dict entry.2.toDict)))
    (ledger, .ok ((shown ++ [written]).foldl (fun data field => Dict.put field.1 field.2 data) position))

def planLegs (plan : SubstitutionPlan) : List ReservedLeg :=
  (plan.sellFromBuckets.filter fun leg => 0 < leg.volume).map fun leg =>
    { bucket := normalizeBucket leg.bucket, volume := leg.volume, remainingVolume := leg.volume }

def freezeLegs (ledger : BucketLedger) (code : String) : List ReservedLeg → BucketLedger
  | [] => ledger
  | leg :: legs => freezeLegs (ledger.modifyBucket code leg.bucket (·.freeze leg.volume)) code legs

/-- `_reserve_substitution_legs`: every leg is checked before one is frozen. No legs come back where one bucket has too
    little. -/
def reserveSubstitutionLegs (ledger : BucketLedger) (code : String) (plan : SubstitutionPlan) :
    BucketLedger × List ReservedLeg :=
  let legs := planLegs plan
  if legs.any fun leg => (ledger.state code leg.bucket).availableVolume < leg.volume then (ledger, [])
  else (ledger.freezeLegs code legs, legs)

def reserveSell (ledger : BucketLedger) (call : ReserveCall) (plan : Option SubstitutionPlan) :
    BucketLedger × Option (List ReservedLeg) :=
  match plan.filter (·.enabled) with
  | some plan =>
    let (ledger, legs) := ledger.reserveSubstitutionLegs call.instrumentCode plan
    if legs.isEmpty then (ledger, none)
    else
      ({ ledger with
          pendingSubstitutions := ledger.pendingSubstitutions.set call.orderId { plan with status := .reserved } },
        some legs)
  | none =>
    let bucket := normalizeBucket call.bucket
    if bucket = .lockedCore then (ledger, none)
    else if (ledger.state call.instrumentCode bucket).availableVolume < call.volume then (ledger, none)
    else
      (ledger.modifyBucket call.instrumentCode bucket (·.freeze call.volume),
        some [{ bucket, volume := call.volume, remainingVolume := call.volume }])

def pendingOf (call : ReserveCall) (now : String) (plan : Option SubstitutionPlan) (legs : List ReservedLeg) :
    PendingOrder where
  orderId := call.orderId
  instrumentCode := call.instrumentCode
  orderType := call.orderType
  bucket := normalizeBucket call.bucket
  volume := call.volume
  remainingVolume := call.volume
  price := call.price
  metadata := call.metadata
  reservedLegs := legs
  substitutionPlanId := plan.map (·.planId)
  createdAt := now

/-- `reserve_order`. A plan that cannot be read raises after the instrument's buckets are made. -/
def reserveOrder (ledger : BucketLedger) (uuid4 now : String) (call : ReserveCall) :
    BucketLedger × Except String Bool :=
  if call.orderId = "" ∨ call.instrumentCode = "" then (ledger, .ok false)
  else if call.volume ≤ 0 then (ledger, .ok false)
  else
    let ledger := ledger.ensureInstrument call.instrumentCode
    match SubstitutionPlan.fromDict uuid4 call.orderId call.substitutionPlan with
    | .error e => (ledger, .error e)
    | .ok plan =>
      let (ledger, legs) :=
        if call.orderType = .sell then ledger.reserveSell call plan else (ledger, some [])
      match legs with
      | none => (ledger, .ok false)
      | some legs =>
        ({ ledger with pendingOrders := ledger.pendingOrders.set call.orderId (pendingOf call now plan legs) }, .ok true)

def movePending (ledger : BucketLedger) (oldOrderId newOrderId : String) : BucketLedger :=
  match ledger.pendingOrders.get? oldOrderId with
  | none => ledger
  | some pending =>
    { ledger with
      pendingOrders := (ledger.pendingOrders.erase oldOrderId).set newOrderId { pending with orderId := newOrderId } }

def moveSubstitution (ledger : BucketLedger) (oldOrderId newOrderId : String) : BucketLedger :=
  match ledger.pendingSubstitutions.get? oldOrderId with
  | none => ledger
  | some plan =>
    { ledger with
      pendingSubstitutions := (ledger.pendingSubstitutions.erase oldOrderId).set newOrderId
        { plan with orderId := newOrderId } }

def transferOrder (ledger : BucketLedger) (oldOrderId newOrderId : String) : BucketLedger :=
  if oldOrderId = "" ∨ newOrderId = "" ∨ oldOrderId = newOrderId then ledger
  else (ledger.movePending oldOrderId newOrderId).moveSubstitution oldOrderId newOrderId

def releaseLegs (ledger : BucketLedger) (code reason : String) : List ReservedLeg → BucketLedger × List LedgerEvent
  | [] => (ledger, [])
  | leg :: legs =>
    if leg.remainingVolume ≤ 0 then releaseLegs ledger code reason legs
    else
      let (next, events) :=
        releaseLegs (ledger.modifyBucket code leg.bucket (·.unfreeze leg.remainingVolume)) code reason legs
      (next, .bucketUnfrozen leg.bucket leg.remainingVolume reason :: events)

def rollbackOrder (ledger : BucketLedger) (orderId reason : String) : BucketLedger × BucketLedgerPatch :=
  match ledger.pendingOrders.get? orderId with
  | none => (ledger, { instrumentCode := "" })
  | some pending =>
    let ledger := { ledger with pendingOrders := ledger.pendingOrders.erase orderId }
    let (ledger, events) := ledger.releaseLegs pending.instrumentCode reason pending.reservedLegs
    let (ledger, events) := match ledger.pendingSubstitutions.get? orderId with
      | none => (ledger, events)
      | some plan =>
        let plan := { plan with
          status := if 0 < plan.appliedVolume then .partialApplied else .rolledBack
          rolledBackVolume := plan.rolledBackVolume + pending.remainingVolume }
        ({ ledger with pendingSubstitutions := ledger.pendingSubstitutions.erase orderId },
          events ++ [LedgerEvent.substitutionRolledBack plan])
    let (ledger, changed) := ledger.instrumentSnapshot pending.instrumentCode
    (ledger, { instrumentCode := pending.instrumentCode, changedBuckets := changed, events })

def consumeLegs (ledger : BucketLedger) (code : String) :
    List ReservedLeg → Int → BucketLedger × List ReservedLeg × Int × List LedgerEvent
  | [], remaining => (ledger, [], remaining, [])
  | leg :: legs, remaining =>
    if remaining ≤ 0 then (ledger, leg :: legs, remaining, [])
    else if leg.remainingVolume ≤ 0 then
      let (next, legs, remaining, events) := consumeLegs ledger code legs remaining
      (next, leg :: legs, remaining, events)
    else
      let take := min remaining leg.remainingVolume
      let (next, legs, remaining, events) :=
        consumeLegs (ledger.modifyBucket code leg.bucket (·.sellFrozen take)) code legs (remaining - take)
      (next, { leg with remainingVolume := leg.remainingVolume - take } :: legs, remaining,
        .bucketSellApplied leg.bucket take :: events)

/-- `_apply_bucket_sell`: first from the order's legs, the rest from the bucket of the trade. -/
def applyBucketSell (ledger : BucketLedger) (orderId code : String) (bucket : Bucket) (volume : Int) :
    BucketLedger × List LedgerEvent :=
  let (ledger, remaining, events) := match ledger.pendingOrders.get? orderId with
    | none => (ledger, volume, [])
    | some pending =>
      let (ledger, legs, remaining, events) := ledger.consumeLegs code pending.reservedLegs volume
      ({ ledger with pendingOrders := ledger.pendingOrders.set orderId { pending with reservedLegs := legs } },
        remaining, events)
  if 0 < remaining then
    let take := min remaining (ledger.state code bucket).totalVolume
    (ledger.modifyBucket code bucket (·.sellUnreserved take), events ++ [.bucketSellUnreserved bucket take])
  else (ledger, events)

/-- `_apply_substitution_reattribute`: today's shares of the requested bucket take the place of the old ones sold for
    it. -/
def applySubstitutionReattribute (ledger : BucketLedger) (orderId code : String) (plan : SubstitutionPlan)
    (volume : Int) (price : Rat) : BucketLedger × List LedgerEvent :=
  let requested := normalizeBucket plan.requestedBucket
  let target := normalizeBucket plan.reattributeBuyToBucket
  let ledger := ledger.ensureInstrument code
  let movable := min (min volume (ledger.state code requested).todayBuyVolume) (ledger.state code requested).totalVolume
  let (ledger, events) :=
    if 0 < movable ∧ requested ≠ target then
      ((ledger.modifyBucket code requested (·.giveTodayBuy movable)).modifyBucket code target
          (·.applyBucketBuy movable price),
        [.substitutionReattributed requested target movable])
    else (ledger, [])
  let appliedVolume := plan.appliedVolume + volume
  if max plan.volume volume ≤ appliedVolume then
    let plan := { plan with appliedVolume, status := .applied }
    -- The plan leaves under the order id it carries, which is the one it is stored under.
    ({ ledger with pendingSubstitutions := (ledger.pendingSubstitutions.set orderId plan).erase plan.orderId }, events)
  else
    let plan := { plan with appliedVolume, status := .partialApplied }
    ({ ledger with pendingSubstitutions := ledger.pendingSubstitutions.set orderId plan }, events)

/-- `_consume_pending`: the record goes once nothing of the order is left. -/
def consumePending (ledger : BucketLedger) (orderId : String) (volume : Int) : BucketLedger :=
  match ledger.pendingOrders.get? orderId with
  | none => ledger
  | some pending =>
    if orderId = "" then ledger
    else
      let remaining := max 0 (pending.remainingVolume - volume)
      if remaining ≤ 0 then { ledger with pendingOrders := ledger.pendingOrders.erase orderId }
      else
        { ledger with
          pendingOrders := ledger.pendingOrders.set orderId { pending with remainingVolume := remaining } }

def tradeBucket (ledger : BucketLedger) (orderId : String) (orderMetadata : Dict String PyVal) : Bucket :=
  let pending := ledger.pendingOrders.get? orderId
  let metadata := ((pending.map (·.metadata)).getD Dict.empty).update orderMetadata.entries
  match metadata.get? "bucket" with
  | some value => normalizeBucketValue value
  | none => (pending.map (·.bucket)).getD .core

def bookTrade (ledger : BucketLedger) (event : LedgerTrade) (bucket : Bucket) : BucketLedger × List LedgerEvent :=
  match event.tradeType with
  | .buy | .buyToCover =>
    (ledger.modifyBucket event.instrumentCode bucket (·.applyBucketBuy event.volume event.price),
      [.bucketBuyApplied bucket event.volume])
  | .sell =>
    let (ledger, events) := ledger.applyBucketSell event.orderId event.instrumentCode bucket event.volume
    match ledger.pendingSubstitutions.get? event.orderId with
    | none => (ledger, events)
    | some plan =>
      let (ledger, more) :=
        ledger.applySubstitutionReattribute event.orderId event.instrumentCode plan event.volume event.price
      (ledger, events ++ more)
  | .sellShort => (ledger, [])

def applyTrade (ledger : BucketLedger) (event : LedgerTrade) (orderMetadata : Dict String PyVal) :
    BucketLedger × BucketLedgerPatch :=
  if event.instrumentCode = "" then (ledger, { instrumentCode := "" })
  else if event.volume ≤ 0 then (ledger, { instrumentCode := event.instrumentCode })
  else
    let (ledger, events) := ledger.bookTrade event (ledger.tradeBucket event.orderId orderMetadata)
    let ledger := ledger.consumePending event.orderId event.volume
    let (ledger, changed) := ledger.instrumentSnapshot event.instrumentCode
    (ledger, { instrumentCode := event.instrumentCode, changedBuckets := changed, events })

/-- `settle_trading_day`, once per date. -/
def settleTradingDay (ledger : BucketLedger) (tradingDate : String) : BucketLedger :=
  if ledger.lastSettlementDate = some tradingDate then ledger
  else
    { ledger with
      lastSettlementDate := some tradingDate
      buckets := ledger.buckets.map fun buckets => buckets.map BucketPositionState.settle }

/-- The arguments of `apply_corporate_action`. -/
structure CorporateAction where
  volumeFactor : Rat := 1
  priceFactor : Option Rat := none
  cashDividendPerShare : Rat := 0
  actionId : Option String := none
  exDate : Option String := none

def CorporateAction.factor (action : CorporateAction) : Rat := if action.volumeFactor ≤ 0 then 1 else action.volumeFactor

def CorporateAction.priceMultiplier (action : CorporateAction) : Rat :=
  match action.priceFactor with
  | none => 1 / action.factor
  | some factor => if factor = 0 then 1 else factor

/-- `apply_corporate_action`: the buckets are rescaled, the legs of the pending orders are not. -/
def applyCorporateAction (ledger : BucketLedger) (code : String) (action : CorporateAction) :
    BucketLedger × BucketLedgerPatch :=
  if code = "" then (ledger, { instrumentCode := "" })
  else
    let cashDividend := max 0 action.cashDividendPerShare
    let change := (BucketPositionState.adjust · action.factor action.priceMultiplier cashDividend)
    let ledger := ledger.ensureInstrument code
    let before := ledger.buckets.getD code Dict.empty
    let adjusted := (before.entries.filter fun entry => entry.2.normalize ≠ change entry.2).map fun entry =>
      LedgerEvent.corporateActionBucketAdjusted entry.1 entry.2.normalize (change entry.2)
    let applied := LedgerEvent.corporateActionApplied action.actionId action.exDate action.factor action.priceMultiplier
      cashDividend
    let ledger := { ledger with buckets := ledger.buckets.set code (before.map change) }
    let (ledger, changed) := ledger.instrumentSnapshot code
    (ledger, { instrumentCode := code, changedBuckets := changed, events := adjusted ++ [applied] })

structure LedgerIssue where
  (code fieldName : String)
  (actual expected : Int)

def LedgerIssue.text (issue : LedgerIssue) : String :=
  s!"{issue.code}.{issue.fieldName}: bucket={issue.actual}, position={issue.expected}"

def optionalVolumes : List (String × (BucketPositionState → Int)) :=
  [("available_volume", (·.availableVolume)), ("frozen_volume", (·.frozenVolume)), ("today_buy_volume", (·.todayBuyVolume))]

/-- The `checks` of an instrument. -/
def positionChecks (code : String) (buckets : Dict Bucket BucketPositionState) (position : List (String × PyVal)) :
    Except String (List LedgerIssue) := do
  let expected ← longVolume position
  let shown := optionalVolumes.filter fun field => (Dict.lookup field.1 position).isSome
  let checks ← shown.mapM fun field => do
    return { code, fieldName := field.1, actual := buckets.sum field.2, expected := ← intField position field.1 }
  return { code, fieldName := "total_volume", actual := buckets.sum (·.totalVolume), expected } :: checks

/-- The loop of `validate_invariants`. An instrument without a position is held to the empty one. -/
def validateCodes (ledger : BucketLedger) (positions : Dict String (List (String × PyVal))) :
    List String → BucketLedger × Except String (List LedgerIssue)
  | [] => (ledger, .ok [])
  | code :: codes =>
    let ledger := ledger.ensureInstrument code
    match positionChecks code (ledger.buckets.getD code Dict.empty) (positions.getD code []) with
    | .error e => (ledger, .error e)
    | .ok checks =>
      let (ledger, issues) := validateCodes ledger positions codes
      (ledger, issues.map fun issues => checks.filter (fun issue => issue.actual ≠ issue.expected) ++ issues)

def validateIssues (ledger : BucketLedger) (positions : Dict String (List (String × PyVal))) :
    BucketLedger × Except String (List LedgerIssue) :=
  ledger.validateCodes positions ((ledger.buckets.keys ++ positions.keys).dedup.mergeSort fun a b => decide (a ≤ b))

def validateInvariants (ledger : BucketLedger) (positions : Dict String (List (String × PyVal))) :
    BucketLedger × Except String (List String) :=
  let (ledger, issues) := ledger.validateIssues positions
  (ledger, issues.map fun issues => issues.map LedgerIssue.text)

end BucketLedger

end QuantX
