import QuantX.TTrade.ModelFeatures

/-! # Labels of observations and folds without overlap

An observation is labelled by what its ticks touch first, and labels are split into training and validation ids, one fold
for each window. Prices and costs are exact. The manifest hashes are parameters; the one of a path raises where a price
is not finite. -/

namespace QuantX
open Lib

structure TLabelSpec where
  version : String
  (horizonMs maxGapMs volume : Int)
  (targetNetBps stopNetBps slippageBps commissionRate minimumCommission stampTaxRate transferFeeRate : Rat)
  version_ne : version ≠ ""
  clocks : 0 < horizonMs ∧ 0 < maxGapMs ∧ maxGapMs ≤ horizonMs
  lots : 0 < volume ∧ volume % 100 = 0
  costs : 0 ≤ slippageBps ∧ 0 ≤ commissionRate ∧ 0 ≤ minimumCommission ∧ 0 ≤ stampTaxRate ∧ 0 ≤ transferFeeRate
  barriers : 0 < targetNetBps ∧ 0 < stopNetBps ∧ slippageBps < 10000 ∧ stopNetBps < 10000

/-- A tick of a path. A price that is no finite number is `none`, and so is `executable_buy` where it is no boolean. -/
structure TLabelTick where
  instrumentCode : String
  (sourceMs ordinal : Int)
  generation : String
  (bid ask : Option Rat)
  executableBuy : Option Bool
  healthy : Bool
  deriving DecidableEq, Repr

structure TObservationLabel where
  (observationId featureBarId instrumentCode : String)
  (anchorMs labelEndMs : Int)
  (specHash label reason pathHash : String)
  primaryHorizonMs : Int
  deriving DecidableEq, Repr

structure TWalkForwardWindow where
  (trainStartMs validationStartMs validationEndMs : Int)
  deriving DecidableEq, Repr

structure TWalkForwardSplit where
  (trainIds validationIds : List String)
  coordinateHash : String
  deriving DecidableEq, Repr

structure TFoldCoordinate where
  window : TWalkForwardWindow
  (trainIds validationIds : List String)
  (embargoMs maxHorizonMs finalStartMs : Int)
  observations : List TObservationLabel

structure ModelDataHost where
  localTime : Int → LocalMinute
  pathHash : List TLabelTick → Int → Except String String
  fingerprint : TLabelSpec → String
  observationId : String → String → String
  coordinateHash : TFoldCoordinate → String

structure TVerdict where
  (label reason : String)
  endMs : Int
  deriving DecidableEq, Repr

def TLabelTick.reliable (tick : TLabelTick) (bar : TModelFeatureBar) (spec : TLabelSpec) (pathWatermarkMs previousMs previousOrdinal : Int) :
    Option (Rat × Rat × Bool) :=
  match tick.bid, tick.ask, tick.executableBuy with
  | some bid, some ask, some executableBuy =>
    if tick.instrumentCode = bar.instrumentCode ∧ tick.generation = bar.continuityGeneration ∧ tick.healthy ∧ 0 ≤ tick.ordinal ∧
        (previousMs < tick.sourceMs ∨ previousMs = tick.sourceMs ∧ previousOrdinal < tick.ordinal) ∧
        tick.sourceMs ≤ pathWatermarkMs ∧ tick.sourceMs - previousMs ≤ spec.maxGapMs ∧ 0 < bid ∧ 0 < ask ∧ bid ≤ ask then
      some (bid, ask, executableBuy)
    else none
  | _, _, _ => none

def TLabelSpec.entryCost (spec : TLabelSpec) (ask : Rat) : Rat :=
  let gross := ask * (1 + spec.slippageBps / 10000) * spec.volume
  gross + max spec.minimumCommission (gross * spec.commissionRate) + gross * spec.transferFeeRate

def TLabelSpec.netBps (spec : TLabelSpec) (entryCost bid : Rat) : Rat :=
  let gross := bid * (1 - spec.slippageBps / 10000) * spec.volume
  let proceeds := gross - max spec.minimumCommission (gross * spec.commissionRate) - gross * (spec.stampTaxRate + spec.transferFeeRate)
  (proceeds / entryCost - 1) * 10000

/-- The loop over a path: the first reliable tick that can be bought is the entry, a later one that touches a barrier ends
    it. -/
def followPath (bar : TModelFeatureBar) (spec : TLabelSpec) (deadline pathWatermarkMs : Int) :
    Int → Int → Option Rat → List TLabelTick → TVerdict
  | previousMs, _, entryCost, [] =>
    if entryCost = none then ⟨"UNAVAILABLE", "NO_EXECUTABLE_ENTRY", deadline⟩
    else if pathWatermarkMs < deadline ∨ spec.maxGapMs < deadline - previousMs then ⟨"UNAVAILABLE", "INCOMPLETE_HORIZON", deadline⟩
    else ⟨"NO_TOUCH", "HORIZON_COMPLETE", deadline⟩
  | previousMs, previousOrdinal, entryCost, tick :: path =>
    match tick.reliable bar spec pathWatermarkMs previousMs previousOrdinal with
    | none => ⟨"UNAVAILABLE", "PATH_UNRELIABLE", deadline⟩
    | some (bid, ask, executableBuy) =>
      match entryCost with
      | none =>
        followPath bar spec deadline pathWatermarkMs tick.sourceMs tick.ordinal (if executableBuy then some (spec.entryCost ask) else none) path
      | some cost =>
        if spec.targetNetBps ≤ spec.netBps cost bid then ⟨"TARGET_FIRST", "NET_TARGET_TOUCHED", tick.sourceMs⟩
        else if spec.netBps cost bid ≤ -spec.stopNetBps then ⟨"STOP_FIRST", "NET_STOP_TOUCHED", tick.sourceMs⟩
        else followPath bar spec deadline pathWatermarkMs tick.sourceMs tick.ordinal (some cost) path

def inSession (host : ModelDataHost) (bar : TModelFeatureBar) (atMs : Int) : Bool :=
  match marketSession host.localTime atMs with
  | .ok session => session = bar.marketSession
  | .error _ => false

def labelPath (anchor deadline : Int) (ticks : List TLabelTick) : List TLabelTick :=
  ticks.filter fun tick => anchor < tick.sourceMs ∧ tick.sourceMs ≤ deadline

def labelVerdict (host : ModelDataHost) (bar : TModelFeatureBar) (ticks : List TLabelTick) (spec : TLabelSpec) (pathWatermarkMs : Int) : TVerdict :=
  let anchor := bar.availableAtMs
  let deadline := bar.availableAtMs + spec.horizonMs
  if inSession host bar anchor ∧ inSession host bar deadline then
    followPath bar spec deadline pathWatermarkMs anchor (-1) none (labelPath anchor deadline ticks)
  else ⟨"UNAVAILABLE", "SESSION_BOUNDARY", deadline⟩

def labelObservation (host : ModelDataHost) (bar : TModelFeatureBar) (ticks : List TLabelTick) (spec : TLabelSpec) (pathWatermarkMs : Int) :
    Except String TObservationLabel := do
  let anchor := bar.availableAtMs
  require (bar.status = "COMPLETE" ∧ bar.intervalEndMs ≤ anchor) "T_LABEL_COMPLETE_ANCHOR_REQUIRED"
  require (anchor ≤ pathWatermarkMs) "T_LABEL_PATH_WATERMARK_INVALID"
  let pathHash ← host.pathHash (labelPath anchor (bar.availableAtMs + spec.horizonMs) ticks) pathWatermarkMs
  let verdict := labelVerdict host bar ticks spec pathWatermarkMs
  return { observationId := host.observationId bar.featureBarId (host.fingerprint spec)
           featureBarId := bar.featureBarId, instrumentCode := bar.instrumentCode, anchorMs := anchor
           labelEndMs := verdict.endMs, specHash := host.fingerprint spec, label := verdict.label
           reason := verdict.reason, pathHash, primaryHorizonMs := spec.horizonMs }

namespace TObservationLabel

def le (x y : TObservationLabel) : Bool := x.anchorMs < y.anchorMs ∨ x.anchorMs = y.anchorMs ∧ x.observationId ≤ y.observationId

def eligible (x : TObservationLabel) : Bool := x.label ∈ ["TARGET_FIRST", "STOP_FIRST", "NO_TOUCH"]

def trains (window : TWalkForwardWindow) (embargoMs : Int) (x : TObservationLabel) : Bool :=
  x.eligible ∧ window.trainStartMs ≤ x.anchorMs ∧ x.anchorMs < window.validationStartMs ∧ x.labelEndMs < window.validationStartMs - embargoMs

def validates (window : TWalkForwardWindow) (finalStartMs : Int) (x : TObservationLabel) : Bool :=
  x.eligible ∧ window.validationStartMs ≤ x.anchorMs ∧ x.anchorMs < window.validationEndMs ∧
    x.labelEndMs < min window.validationEndMs finalStartMs

def intervalValid (maxHorizonMs : Int) (x : TObservationLabel) : Bool :=
  0 < x.primaryHorizonMs ∧ x.primaryHorizonMs ≤ maxHorizonMs ∧ x.anchorMs ≤ x.labelEndMs ∧ x.labelEndMs ≤ x.anchorMs + x.primaryHorizonMs

end TObservationLabel

def walkForward (host : ModelDataHost) (ordered : List TObservationLabel) (embargoMs maxHorizonMs finalStartMs : Int) :
    Int → List TWalkForwardWindow → Except String (List TWalkForwardSplit)
  | _, [] => .ok []
  | previousEnd, window :: windows => do
    require
      (0 ≤ window.trainStartMs ∧ window.trainStartMs < window.validationStartMs ∧ window.validationStartMs < window.validationEndMs ∧
        window.validationEndMs ≤ finalStartMs ∧ previousEnd ≤ window.validationStartMs)
      "T_MODEL_WALK_FORWARD_WINDOW_INVALID"
    let train := (ordered.filter (TObservationLabel.trains window embargoMs)).map TObservationLabel.observationId
    let validation := (ordered.filter (TObservationLabel.validates window finalStartMs)).map TObservationLabel.observationId
    require (train ≠ [] ∧ validation ≠ []) "T_MODEL_EMPTY_PURGED_FOLD"
    let coordinate : TFoldCoordinate :=
      { window, trainIds := train, validationIds := validation, embargoMs, maxHorizonMs, finalStartMs
        observations := ordered.filter fun x => x.observationId ∈ train ++ validation }
    let splits ← walkForward host ordered embargoMs maxHorizonMs finalStartMs window.validationEndMs windows
    return ⟨train, validation, host.coordinateHash coordinate⟩ :: splits

def purgedWalkForward (host : ModelDataHost) (labels : List TObservationLabel) (windows : List TWalkForwardWindow)
    (embargoMs maxHorizonMs finalStartMs : Int) : Except String (List TWalkForwardSplit) := do
  require (0 < maxHorizonMs ∧ maxHorizonMs ≤ embargoMs ∧ windows ≠ []) "T_MODEL_EMBARGO_INVALID"
  require ((labels.map TObservationLabel.observationId).Nodup ∧ (labels.map TObservationLabel.specHash).dedup.length = 1)
    "T_MODEL_OBSERVATION_IDENTITY_INVALID"
  require (labels.all (TObservationLabel.intervalValid maxHorizonMs)) "T_MODEL_LABEL_INTERVAL_INVALID"
  walkForward host (labels.mergeSort TObservationLabel.le) embargoMs maxHorizonMs finalStartMs (-1) windows

end QuantX
