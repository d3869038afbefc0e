import QuantX.Lib.PyEq
import QuantX.Text
import QuantX.Trading.BucketLedger

/-! # The live bucket projection

The buckets of an account, replayed on a fresh ledger from a seed and the fills since. The broker's balances stay
authoritative. Times are in microseconds. A price is nothing where the decimal is not finite; prices do not reach the
projection. -/

namespace QuantX
open Lib

structure ExchangeCalendar where
  date : Int → Int
  isoformat : Int → String
  date_mono : ∀ ⦃t t' : Int⦄, t ≤ t' → date t ≤ date t'
  isoformat_injective : Function.Injective isoformat

/-- What a replay takes from its host: the ids that `uuid4` gives and the readings of the clock, one for each
    fill. -/
structure ReplayHost where
  (uuid4 now : Nat → String)

structure LiveAttributedFill where
  (fillId clientOrderId instrumentCode side : String)
  volume : Int
  price : Option Rat
  occurredAt : Int
  bucket : String
  substitutionPlan : PyVal := .none
  deriving DecidableEq

/-- `_qty`. A truth value is not a quantity. -/
def qty : PyVal → Except String Nat
  | .int value => if 0 ≤ value then .ok value.toNat else .error "LIVE_BUCKET_QUANTITY_INVALID"
  | _ => .error "LIVE_BUCKET_QUANTITY_INVALID"

/-- `set(fields) == set(names)`. -/
def sameKeys (fields : List (String × PyVal)) (names : List String) : Bool :=
  (fields.all fun field => names.contains field.1) && names.all fun name => (fields.map Prod.fst).contains name

structure SeedBucket where
  bucket : Bucket
  (totalVolume todayBuyVolume : Nat)
  today_le : todayBuyVolume ≤ totalVolume

def SeedBucket.validate (bucket : Bucket) : PyVal → Except String SeedBucket
  | .dict values => do
    if !sameKeys values ["total_volume", "today_buy_volume"] then throw "LIVE_BUCKET_SEED_SHAPE_INVALID"
    let total ← qty (PyVal.get values "total_volume")
    let today ← qty (PyVal.get values "today_buy_volume")
    if h : today ≤ total then return ⟨bucket, total, today, h⟩ else throw "LIVE_BUCKET_SEED_CONSERVATION_INVALID"
  | _ => .error "LIVE_BUCKET_SEED_SHAPE_INVALID"

def seedInstrument (code : String) : PyVal → Except String (Dict Bucket SeedBucket)
  | .dict buckets => do
    if stripText code = "" || !sameKeys buckets (knownBuckets.map Bucket.name) then throw "LIVE_BUCKET_SEED_SHAPE_INVALID"
    let rows ← buckets.mapM fun field => do
      return (normalizeBucket field.1, ← SeedBucket.validate (normalizeBucket field.1) field.2)
    return Dict.ofList rows
  | _ => .error "LIVE_BUCKET_SEED_SHAPE_INVALID"

def validateSeed : PyVal → Except String (Dict String (Dict Bucket SeedBucket))
  | .dict instruments => do
    if instruments.isEmpty then throw "LIVE_BUCKET_EXPLICIT_SEED_REQUIRED"
    let rows ← instruments.mapM fun field => do return (field.1, ← seedInstrument field.1 field.2)
    return Dict.ofList rows
  | _ => .error "LIVE_BUCKET_EXPLICIT_SEED_REQUIRED"

/-- `BucketPositionState.from_dict` of a validated bucket. -/
def SeedBucket.state (seed : SeedBucket) : BucketPositionState :=
  { bucket := seed.bucket, totalVolume := seed.totalVolume, availableVolume := seed.totalVolume - seed.todayBuyVolume
    todayBuyVolume := seed.todayBuyVolume : BucketPositionState }.normalize

namespace BucketLedger

/-- `from_dict` of a validated seed and the day it was taken on. No code of a seed is empty. -/
def ofSeed (seed : Dict String (Dict Bucket SeedBucket)) (lastSettlementDate : String) : BucketLedger :=
  seed.keys.foldl ensureInstrument
    { runId := "", buckets := seed.map fun buckets => buckets.map SeedBucket.state
      lastSettlementDate := some lastSettlementDate }

/-- `snapshot`: writing the buckets out normalizes them. -/
def snapshot (ledger : BucketLedger) : BucketLedger :=
  { ledger with buckets := ledger.buckets.map fun buckets => buckets.map BucketPositionState.normalize }

end BucketLedger

/-- `value in names` for a set of names; values that have no hash raise. -/
def inNames (value : PyVal) (names : List String) : Except String Bool :=
  match value with
  | .str s => .ok (names.contains s)
  | .list _ | .dict _ => .error "TypeError"
  | _ => .ok false

def substitutionFields (bucket : String) : PyVal → Except String (List (String × PyVal) × List PyVal)
  | .dict plan => do
    if PyVal.get plan "enabled" ≠ .bool true then throw "LIVE_BUCKET_SUBSTITUTION_INVALID"
    if !(PyVal.get plan "requested_bucket").same (.str bucket) then throw "LIVE_BUCKET_SUBSTITUTION_INVALID"
    if !(← inNames (PyVal.get plan "reattribute_buy_to_bucket") ["core", "swing"]) then
      throw "LIVE_BUCKET_SUBSTITUTION_INVALID"
    match PyVal.get plan "sell_from_buckets" with
    | .list legs => return (plan, legs)
    | _ => throw "LIVE_BUCKET_SUBSTITUTION_INVALID"
  | _ => .error "LIVE_BUCKET_SUBSTITUTION_INVALID"

def legNames (legs : List PyVal) : List PyVal :=
  legs.filterMap fun leg =>
    match leg with
    | .dict leg => some (PyVal.get leg "bucket")
    | _ => none

def hashable : PyVal → Bool
  | .list _ | .dict _ => false
  | _ => true

def checkLegNames (legs : List PyVal) : Except String Unit :=
  if !(legNames legs).all hashable then .error "TypeError"
  else if ¬ ((legNames legs).map PyVal.plain).Nodup then .error "LIVE_BUCKET_SUBSTITUTION_DUPLICATE_LEG"
  else .ok ()

/-- The part of the legs that a fill takes after what earlier fills of the order took: its legs, and what is left to
    skip and to take. -/
def takeLegs : List PyVal → Nat → Nat → Except String (List (String × Nat) × Nat × Nat)
  | [], skip, remaining => .ok ([], skip, remaining)
  | .dict leg :: legs, skip, remaining => do
    if !(← inNames (PyVal.get leg "bucket") ["core", "swing"]) then throw "LIVE_BUCKET_SUBSTITUTION_INVALID"
    let volume ← qty (PyVal.get leg "volume")
    let skipped := min skip volume
    let take := min remaining (volume - skipped)
    let (taken, skip, remaining) ← takeLegs legs (skip - skipped) (remaining - take)
    return (if take ≠ 0 then ((PyVal.get leg "bucket").text "", take) :: taken else taken, skip, remaining)
  | _ :: _, _, _ => .error "LIVE_BUCKET_SUBSTITUTION_INVALID"

def planOfFill (plan : List (String × PyVal)) (volume : Int) (legs : List (String × Nat)) : List (String × PyVal) :=
  let leg := fun (taken : String × Nat) => PyVal.dict [("bucket", .str taken.1), ("volume", .int taken.2)]
  let plan := Dict.put "sell_from_buckets" (.list (legs.map leg)) (Dict.put "volume" (.int volume) plan)
  Dict.drop "rolled_back_volume" (Dict.drop "applied_volume" plan)

structure ReplayState where
  ledger : BucketLedger
  previousDay : Int
  seen : List String := []
  orderFilled : Dict String Nat := Dict.empty
  orderMaterial : Dict String (String × String × String × PyVal) := Dict.empty
  sameClock : Dict (String × Int) String := Dict.empty

def checkFill (seedAsOf asOf : Int) (seen : List String) (fill : LiveAttributedFill) : Except String Unit := do
  if fill.fillId = "" ∨ fill.fillId ∈ seen ∨ fill.clientOrderId = "" ∨ fill.instrumentCode = "" then
    throw "LIVE_BUCKET_FILL_INVALID"
  if fill.bucket ∉ knownBuckets.map Bucket.name ∨ fill.side ∉ ["BUY", "SELL"] then throw "LIVE_BUCKET_FILL_INVALID"
  let volume ← qty (.int fill.volume)
  if volume = 0 ∨ ¬ fill.price.any (0 < ·) then throw "LIVE_BUCKET_FILL_INVALID"
  if ¬ (seedAsOf < fill.occurredAt ∧ fill.occurredAt ≤ asOf) then throw "LIVE_BUCKET_FILL_INVALID"

/-- The fills of one instrument and instant are of one side: timestamps cannot tell a purchase from the sell that
    replaces it. -/
def checkClock (sameClock : Dict (String × Int) String) (fill : LiveAttributedFill) : Except String Unit :=
  if (sameClock.get? (fill.instrumentCode, fill.occurredAt)).any (· ≠ fill.side) then
    .error "LIVE_BUCKET_AMBIGUOUS_FILL_ORDER"
  else .ok ()

def material (fill : LiveAttributedFill) : String × String × String × PyVal :=
  (fill.instrumentCode, fill.side, fill.bucket, fill.substitutionPlan)

def sameMaterial (m m' : String × String × String × PyVal) : Bool :=
  m.1 = m'.1 && m.2.1 = m'.2.1 && m.2.2.1 = m'.2.2.1 && m.2.2.2.same m'.2.2.2

def checkMaterial (orderMaterial : Dict String (String × String × String × PyVal)) (fill : LiveAttributedFill) :
    Except String Unit :=
  if (orderMaterial.get? fill.clientOrderId).any fun m => !sameMaterial m (material fill) then
    .error "LIVE_BUCKET_ORDER_MATERIAL_CONFLICT"
  else .ok ()

def settleTo (calendar : ExchangeCalendar) (day : Int) (state : ReplayState) : ReplayState :=
  if day ≠ state.previousDay then
    { state with ledger := state.ledger.settleTradingDay (calendar.isoformat day), previousDay := day }
  else state

def substitutionOf (state : ReplayState) (fill : LiveAttributedFill) :
    Except String (BucketLedger × Option (List (String × PyVal))) :=
  if fill.substitutionPlan = .none then .ok (state.ledger, none)
  else do
    let (plan, legs) ← substitutionFields fill.bucket fill.substitutionPlan
    checkLegNames legs
    let ledger := state.ledger.snapshot
    let today := (ledger.state fill.instrumentCode (normalizeBucket fill.bucket)).todayBuyVolume
    if PyVal.get plan "reattribute_buy_to_bucket" ≠ .str fill.bucket ∧ today < fill.volume then
      throw "LIVE_BUCKET_SUBSTITUTION_BUY_EVIDENCE_REQUIRED"
    let (taken, skip, remaining) ← takeLegs legs (state.orderFilled.getD fill.clientOrderId 0) fill.volume.toNat
    if remaining ≠ 0 ∨ skip ≠ 0 then throw "LIVE_BUCKET_SUBSTITUTION_OVERFILL"
    return (ledger, some (planOfFill plan fill.volume taken))

def sellCall (fill : LiveAttributedFill) (plan : Option (List (String × PyVal))) : ReserveCall where
  orderId := fill.clientOrderId
  instrumentCode := fill.instrumentCode
  orderType := .sell
  bucket := fill.bucket
  volume := fill.volume
  price := fill.price.getD 0
  metadata := Dict.empty.set "bucket" (.str fill.bucket)
  substitutionPlan := plan

def reserveSellOf (host : ReplayHost) (state : ReplayState) (fill : LiveAttributedFill) : Except String BucketLedger := do
  let (ledger, plan) ← substitutionOf state fill
  let n := state.seen.length
  let (ledger, reserved) := ledger.reserveOrder (host.uuid4 n) (host.now n) (sellCall fill plan)
  if ← reserved then return ledger else throw "LIVE_BUCKET_SELL_EXCEEDS_ATTRIBUTION"

def tradeOf (fill : LiveAttributedFill) : LedgerTrade where
  orderId := fill.clientOrderId
  instrumentCode := fill.instrumentCode
  tradeType := if fill.side = "BUY" then .buy else .sell
  volume := fill.volume
  price := fill.price.getD 0

def replayFill (calendar : ExchangeCalendar) (host : ReplayHost) (seedAsOf asOf : Int) (state : ReplayState)
    (fill : LiveAttributedFill) : Except String ReplayState := do
  checkFill seedAsOf asOf state.seen fill
  checkClock state.sameClock fill
  checkMaterial state.orderMaterial fill
  let state := settleTo calendar (calendar.date fill.occurredAt)
    { state with
      sameClock := state.sameClock.set (fill.instrumentCode, fill.occurredAt) fill.side
      orderMaterial := state.orderMaterial.set fill.clientOrderId (material fill), seen := fill.fillId :: state.seen }
  let ledger ← if fill.side = "SELL" then reserveSellOf host state fill else .ok state.ledger
  let (ledger, _) := ledger.applyTrade (tradeOf fill) (Dict.empty.set "bucket" (.str fill.bucket))
  return { state with
    ledger
    orderFilled := state.orderFilled.set fill.clientOrderId
      (state.orderFilled.getD fill.clientOrderId 0 + fill.volume.toNat) }

def FillLe (a b : LiveAttributedFill) : Prop :=
  a.occurredAt < b.occurredAt ∨ (a.occurredAt = b.occurredAt ∧ a.fillId ≤ b.fillId)

instance : DecidableRel FillLe := fun a b =>
  inferInstanceAs (Decidable (a.occurredAt < b.occurredAt ∨ (a.occurredAt = b.occurredAt ∧ a.fillId ≤ b.fillId)))

structure LiveBucketRow where
  (totalVolume todayBuyVolume availableVolume : Int)
  deriving DecidableEq

/-- `actual.get(key)` of a position; a missing one has no volume. -/
def brokerVolume (position : Option PyVal) (key : String) : Except String Nat :=
  match position with
  | none => .ok 0
  | some (.dict fields) => qty (PyVal.get fields key)
  | some _ => .error "AttributeError"

/-- The rows of one instrument. Every instrument of a ledger has the known buckets; one that it does not have is empty
    in all of them. -/
def projectInstrument (ledger : BucketLedger) (brokerPositions : Dict String PyVal) (code : String) :
    Except String (List (Bucket × LiveBucketRow)) := do
  let total ← brokerVolume (brokerPositions.get? code) "volume"
  let free ← brokerVolume (brokerPositions.get? code) "can_use_volume"
  if (total : Int) ≠ (knownBuckets.map fun bucket => (ledger.state code bucket).totalVolume).sum ∨ total < free then
    throw "LIVE_BUCKET_BROKER_TOTAL_CONFLICT"
  let settled := (knownBuckets.map fun bucket => (ledger.state code bucket).availableVolume).sum
  if settled < free then throw "LIVE_BUCKET_BROKER_SETTLEMENT_CONFLICT"
  let unavailable := settled - free
  return knownBuckets.map fun bucket =>
    let row := ledger.state code bucket
    (bucket, ⟨row.totalVolume, row.todayBuyVolume, max 0 (row.availableVolume - unavailable)⟩)

abbrev ProjectedInstruments := List (String × List (Bucket × LiveBucketRow))

def projectLedger (ledger : BucketLedger) (brokerPositions : Dict String PyVal) : Except String ProjectedInstruments :=
  (sortedSet (ledger.buckets.keys ++ brokerPositions.keys)).mapM fun code => do return (code, ← projectInstrument ledger brokerPositions code)

structure ReplayInputs where
  seed : PyVal
  (seedAsOf asOf : Int)
  fills : List LiveAttributedFill
  brokerPositions : Dict String PyVal

structure LiveBucketProjection where
  instruments : ProjectedInstruments
  sourceHash : String
  deriving DecidableEq

/-- `replay_live_bucket_projection`. `hash` is the digest of the inputs with the projection. -/
def replayLiveBucketProjection (calendar : ExchangeCalendar) (host : ReplayHost)
    (hash : ReplayInputs → ProjectedInstruments → String) (inputs : ReplayInputs) : Except String LiveBucketProjection := do
  if inputs.asOf < inputs.seedAsOf then throw "LIVE_BUCKET_FUTURE_SEED"
  let seed ← validateSeed inputs.seed
  let day := calendar.date inputs.seedAsOf
  let state : ReplayState := { ledger := .ofSeed seed (calendar.isoformat day), previousDay := day }
  let state ← (inputs.fills.insertionSort FillLe).foldlM (replayFill calendar host inputs.seedAsOf inputs.asOf) state
  let state := settleTo calendar (calendar.date inputs.asOf) state
  let instruments ← projectLedger state.ledger.snapshot inputs.brokerPositions
  return ⟨instruments, hash inputs instruments⟩

end QuantX
