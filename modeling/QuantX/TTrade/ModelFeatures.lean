import QuantX.Lib.Require
import QuantX.Trading.SymbolMarketDeltaRing
import Mathlib.Algebra.Order.Ring.Rat

/-! # Features of a complete minute

A minute of accepted ticks of one symbol becomes a bar of features where its ticks cover it without a break. Prices and
features are exact; the local time and the manifest hashes are parameters. A hash raises where its payload is no JSON. -/

namespace QuantX
open Lib

def FEATURE_SCHEMA_VERSION : Nat := 1

structure LocalMinute where
  date : String
  minute : Nat
  deriving DecidableEq, Repr

def marketSession (localTime : Int → LocalMinute) (atMs : Int) : Except String String :=
  let now := localTime atMs
  if 570 ≤ now.minute ∧ now.minute < 690 then .ok (now.date ++ ":AM")
  else if 780 ≤ now.minute ∧ now.minute < 900 then .ok (now.date ++ ":PM")
  else .error "T_MODEL_OUTSIDE_CONTINUOUS_SESSION"

structure TModelFeatureBar where
  (featureBarId instrumentCode : String)
  (intervalStartMs intervalEndMs availableAtMs : Int)
  (marketSession streamId continuityGeneration : String)
  sourceFenceRange : Nat × Nat
  featureSchemaVersion : Nat
  capabilityManifestVersion : String
  featureValues : List Rat
  featureCoverage : Rat
  featureVectorHash : String
  (marketContextAsOfMs sectorContextAsOfMs : Int)
  status : String := "COMPLETE"
  deriving DecidableEq, Repr

structure FeatureArgs where
  intervalStartMs : Int
  capabilityManifestVersion : String
  (marketContextAsOfMs sectorContextAsOfMs maxGapMs : Int)

structure FeatureIdentity where
  instrumentCode : String
  (intervalStartMs intervalEndMs availableAtMs : Int)
  (streamId continuityGeneration capabilityManifestVersion : String)
  (marketContextAsOfMs sectorContextAsOfMs : Int)
  vectorHash : String
  source : List AcceptedTMarketTick
  maxGapMs : Int

structure FeatureHost where
  localTime : Int → LocalMinute
  vectorHash : List Rat → Except String String
  barHash : FeatureIdentity → Except String String

namespace AcceptedTMarketTick

abbrev instrumentCode (tick : AcceptedTMarketTick) : String := tick.sample.instrumentCode

def identity (tick : AcceptedTMarketTick) : String × String := (tick.streamId, tick.sample.continuityGeneration)

def follows (previous tick : AcceptedTMarketTick) : Bool :=
  tick.acceptedSequence = previous.acceptedSequence + 1 ∧ previous.marketFenceSequence < tick.marketFenceSequence ∧
    (previous.sample.sourceTimeMs < tick.sample.sourceTimeMs ∨
      previous.sample.sourceTimeMs = tick.sample.sourceTimeMs ∧ previous.sample.tickOrdinal < tick.sample.tickOrdinal) ∧
    previous.receivedAtMs ≤ tick.receivedAtMs

def inMinute (tick : AcceptedTMarketTick) (intervalStartMs : Int) : Bool :=
  tick.discontinuityReason = none ∧ intervalStartMs ≤ tick.sample.sourceTimeMs ∧ tick.sample.sourceTimeMs < intervalStartMs + 60000

end AcceptedTMarketTick

structure FeatureRow where
  (price spread imbalance amount : Rat)
  source : Int

def OpportunitySample.capabilities (sample : OpportunitySample) : Option (Rat × Rat × Rat × Rat × Rat) :=
  match sample.bidPrice, sample.askPrice, sample.bidVolume, sample.askVolume, sample.cumulativeAmount with
  | some bid, some ask, some bidQty, some askQty, some amount =>
    if 0 ≤ sample.price ∧ 0 ≤ bid ∧ 0 ≤ ask ∧ 0 ≤ bidQty ∧ 0 ≤ askQty ∧ 0 ≤ amount then some (bid, ask, bidQty, askQty, amount) else none
  | _, _, _, _, _ => none

def readTick (args : FeatureArgs) (availableAtMs : Int) (first : AcceptedTMarketTick) (previous : Option AcceptedTMarketTick)
    (tick : AcceptedTMarketTick) : Except String FeatureRow := do
  require
    (tick.instrumentCode = first.instrumentCode ∧ tick.identity = first.identity ∧ tick.inMinute args.intervalStartMs ∧
      (tick.sample.sourceTimeMs : Int) ≤ tick.receivedAtMs ∧ (tick.receivedAtMs : Int) ≤ availableAtMs ∧
      previous.all fun previous => previous.follows tick)
    "T_MODEL_FEATURE_CONTINUITY_INVALID"
  match tick.sample.capabilities with
  | none => .error "T_MODEL_FEATURE_CAPABILITY_MISSING"
  | some (bid, ask, bidQty, askQty, amount) =>
    require (0 < tick.sample.price ∧ 0 < bid ∧ 0 < ask ∧ 0 < bidQty + askQty ∧ bid ≤ ask) "T_MODEL_FEATURE_MARKET_INVALID"
    .ok
      { price := tick.sample.price, spread := (ask - bid) / ((ask + bid) / 2)
        imbalance := (bidQty - askQty) / (bidQty + askQty), amount, source := tick.sample.sourceTimeMs }

def readTicks (args : FeatureArgs) (availableAtMs : Int) (first : AcceptedTMarketTick) :
    Option AcceptedTMarketTick → List AcceptedTMarketTick → Except String (List FeatureRow)
  | _, [] => .ok []
  | previous, tick :: ticks => do
    let row ← readTick args availableAtMs first previous tick
    let rows ← readTicks args availableAtMs first (some tick) ticks
    return row :: rows

def gaps (args : FeatureArgs) (sources : List Int) : List Int :=
  (sources.headD 0 - args.intervalStartMs) :: (args.intervalStartMs + 60000 - sources.getLastD 0) ::
    sources.zipWith (fun left right => right - left) sources.tail

/-- The features of a minute in schema order: return, range, spread, imbalance, growth of turnover, ticks per second. -/
def featureValues (rows : List FeatureRow) : List Rat :=
  let prices := rows.map FeatureRow.price
  let spreads := rows.map FeatureRow.spread
  let imbalances := rows.map FeatureRow.imbalance
  let amounts := rows.map FeatureRow.amount
  let amountDelta := amounts.getLastD 0 - amounts.headD 0
  [prices.getLastD 0 / prices.headD 0 - 1, ((prices.max?).getD 0 - (prices.min?).getD 0) / prices.headD 0, spreads.sum / spreads.length,
    imbalances.sum / imbalances.length, amountDelta / max (max (amounts.headD 0) amountDelta) 1, rows.length / 60]

def buildCompleteFeatureBar (host : FeatureHost) (ticks : List AcceptedTMarketTick) (args : FeatureArgs) (watermarkMs availableAtMs : Int) :
    Except String TModelFeatureBar := do
  require
    (0 ≤ args.intervalStartMs ∧ 0 ≤ watermarkMs ∧ 0 ≤ availableAtMs ∧ 0 ≤ args.marketContextAsOfMs ∧ 0 ≤ args.sectorContextAsOfMs ∧
      0 < args.maxGapMs ∧ args.maxGapMs < 60000)
    "T_MODEL_FEATURE_CLOCK_INVALID"
  require (args.intervalStartMs % 60000 = 0 ∧ args.capabilityManifestVersion ≠ "") "T_MODEL_FEATURE_IDENTITY_INVALID"
  require (args.intervalStartMs + 60000 ≤ watermarkMs ∧ watermarkMs ≤ availableAtMs) "T_MODEL_MINUTE_NOT_COMPLETE"
  require (max args.marketContextAsOfMs args.sectorContextAsOfMs ≤ args.intervalStartMs) "T_MODEL_FUTURE_CONTEXT"
  let session ← marketSession host.localTime args.intervalStartMs
  let lastSession ← marketSession host.localTime (args.intervalStartMs + 60000 - 1)
  require (session = lastSession ∧ 2 ≤ ticks.length) "T_MODEL_FEATURE_COVERAGE_INVALID"
  match ticks with
  | [] => .error "T_MODEL_FEATURE_COVERAGE_INVALID"
  | first :: rest =>
    let rows ← readTicks args availableAtMs first none ticks
    let amounts := rows.map FeatureRow.amount
    require ((∀ gap ∈ gaps args (rows.map FeatureRow.source), gap ≤ args.maxGapMs) ∧ ∀ pair ∈ amounts.zip amounts.tail, pair.1 ≤ pair.2)
      "T_MODEL_FEATURE_COVERAGE_INVALID"
    let features := featureValues rows
    let vectorHash ← host.vectorHash features
    let featureBarId ← host.barHash
      { instrumentCode := first.instrumentCode, intervalStartMs := args.intervalStartMs
        intervalEndMs := args.intervalStartMs + 60000, availableAtMs, streamId := first.streamId
        continuityGeneration := first.sample.continuityGeneration
        capabilityManifestVersion := args.capabilityManifestVersion, marketContextAsOfMs := args.marketContextAsOfMs
        sectorContextAsOfMs := args.sectorContextAsOfMs, vectorHash, source := ticks, maxGapMs := args.maxGapMs }
    .ok
      { featureBarId, instrumentCode := first.instrumentCode, intervalStartMs := args.intervalStartMs
        intervalEndMs := args.intervalStartMs + 60000, availableAtMs, marketSession := session
        streamId := first.streamId, continuityGeneration := first.sample.continuityGeneration
        sourceFenceRange := (first.marketFenceSequence, (rest.getLastD first).marketFenceSequence)
        featureSchemaVersion := FEATURE_SCHEMA_VERSION, capabilityManifestVersion := args.capabilityManifestVersion
        featureValues := features, featureCoverage := 1, featureVectorHash := vectorHash
        marketContextAsOfMs := args.marketContextAsOfMs, sectorContextAsOfMs := args.sectorContextAsOfMs }

end QuantX
