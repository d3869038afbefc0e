import QuantX.Lib.Decimal
import QuantX.Trading.ContextRisk
import QuantX.Trading.ExecutionOwner

/-! # Snapshots of a T portfolio

The evidence that one allocation is planned on, read at one cut. Times are in microseconds. Amounts are decimals: the
result of every operation is rounded to the 28 digits of the default context. -/

namespace QuantX
open Lib

def dec (x : Rat) : Rat := Decimal.fix 28 x

/-- `sum(values, Decimal(0))`. -/
def decSum (values : List Rat) : Rat := values.foldl (fun total value => dec (total + value)) 0

/-- `_identity`: no value is blank. -/
def Identified (values : List String) : Prop := ∀ v ∈ values, stripText v ≠ ""

/-- `_amount`: no amount is negative. -/
def Amounts (values : List Rat) : Prop := ∀ v ∈ values, 0 ≤ v

structure PortfolioEvidenceCut where
  executionRef : ExecutionOwnerRef
  environment : ExecutionEnvironment
  asOf : Int
  (accountSnapshotId accountSnapshotHash : String)
  accountSnapshotAsOf : Int
  localObligationWatermark : String
  obligationsAsOf : Int
  owner : executionRef.ownerType = "T_ASSISTANT_EXECUTION"
  identified : Identified [accountSnapshotId, accountSnapshotHash, localObligationWatermark]
  noFuture : max accountSnapshotAsOf obligationsAsOf ≤ asOf

structure TEnvelopePosition where
  (instrumentCode primaryIndustry : String)
  (lockedCore core swing oldSellableVolume uncoveredProtectedVolume : Nat)
  (currentTExposure uncoveredEntryAmount : Rat)
  activeOrPendingEntry : Bool
  identified : Identified [instrumentCode, primaryIndustry]
  amounts : Amounts [currentTExposure, uncoveredEntryAmount]
  old_le : oldSellableVolume ≤ lockedCore + core + swing

structure TTradingEnvelopePolicy where
  version : String
  protectedCoreVolume : Nat
  maxSymbolTAmount : Rat
  maxEntryVolume : Nat
  identified : Identified [version]
  amounts : Amounts [maxSymbolTAmount]

structure TTradingEnvelope where
  cut : PortfolioEvidenceCut
  configVersion : String
  policy : TTradingEnvelopePolicy
  observedPositionProjection : TEnvelopePosition
  identified : Identified [configVersion]

namespace TTradingEnvelope

def instrumentCode (envelope : TTradingEnvelope) : String := envelope.observedPositionProjection.instrumentCode
def primaryIndustry (envelope : TTradingEnvelope) : String := envelope.observedPositionProjection.primaryIndustry

def protectedOldPositionFloor (envelope : TTradingEnvelope) : Nat :=
  envelope.observedPositionProjection.lockedCore + envelope.policy.protectedCoreVolume

def planningReplaceableOldVolumeCeiling (envelope : TTradingEnvelope) : Nat :=
  let position := envelope.observedPositionProjection
  min (position.oldSellableVolume - envelope.protectedOldPositionFloor - position.uncoveredProtectedVolume)
    (position.swing + (position.core - envelope.policy.protectedCoreVolume))

def maxIncrementalTAmount (envelope : TTradingEnvelope) : Rat :=
  let position := envelope.observedPositionProjection
  max 0 (dec (dec (envelope.policy.maxSymbolTAmount - position.currentTExposure) - position.uncoveredEntryAmount))

def planningEntryVolumeCeiling (envelope : TTradingEnvelope) : Nat :=
  min envelope.planningReplaceableOldVolumeCeiling envelope.policy.maxEntryVolume

def reasonCodes (envelope : TTradingEnvelope) : List String :=
  (if envelope.observedPositionProjection.activeOrPendingEntry then ["T_SAME_SYMBOL_ENTRY_OBLIGATION"] else []) ++
    (if envelope.planningEntryVolumeCeiling = 0 then ["T_NO_REPLACEABLE_OLD_POSITION"] else []) ++
    (if envelope.maxIncrementalTAmount = 0 then ["T_SYMBOL_AMOUNT_EXHAUSTED"] else [])

def positiveTEligible (envelope : TTradingEnvelope) : Bool := envelope.reasonCodes.isEmpty

end TTradingEnvelope

structure TPortfolioPolicy where
  version : String
  (maxTotalTAmount maxTotalAssetFraction cashBuffer maxIndustryTAmount : Rat)
  maxConcurrentBatches : Nat
  maxDailyLoss : Rat
  identified : Identified [version]
  amounts : Amounts [maxTotalTAmount, maxTotalAssetFraction, cashBuffer, maxIndustryTAmount, maxDailyLoss]
  fraction_le : maxTotalAssetFraction ≤ 1

structure IndustryTExposure where
  primaryIndustry : String
  (currentTExposure uncoveredBuyAmount : Rat)
  identified : Identified [primaryIndustry]
  amounts : Amounts [currentTExposure, uncoveredBuyAmount]

/-- A snapshot after its checks: envelopes and industries are sorted by name and distinct, all envelopes share its cut,
    and the industries add up to its totals and cover its envelopes. -/
structure PortfolioTDecisionSnapshot where
  cut : PortfolioEvidenceCut
  (cycleId configVersion strategyBinding scorerBinding : String)
  policy : TPortfolioPolicy
  envelopes : List TTradingEnvelope
  industryExposures : List IndustryTExposure
  (availableCash totalAssets uncoveredBuyAmount currentTExposure realizedTPnl unrealizedTPnl : Rat)
  activeBatchCount : Nat
  (entryEnabled killSwitch reconcileRequired : Bool)
  identified : Identified [cycleId, configVersion, strategyBinding, scorerBinding]
  amounts : Amounts [availableCash, totalAssets, uncoveredBuyAmount, currentTExposure]
  envelopes_sorted : (envelopes.map (·.instrumentCode)).Pairwise (· < ·)
  envelopes_cut : ∀ envelope ∈ envelopes, envelope.cut = cut ∧ envelope.configVersion = configVersion
  industries_sorted : (industryExposures.map (·.primaryIndustry)).Pairwise (· < ·)
  industries_total : decSum (industryExposures.map (·.currentTExposure)) = currentTExposure ∧
    decSum (industryExposures.map (·.uncoveredBuyAmount)) = uncoveredBuyAmount
  industries_known : ∀ envelope ∈ envelopes, envelope.primaryIndustry ∈ industryExposures.map (·.primaryIndustry)
  industries_cover : ∀ industry ∈ industryExposures,
    let positions := (envelopes.map (·.observedPositionProjection)).filter (·.primaryIndustry = industry.primaryIndustry)
    decSum (positions.map (·.currentTExposure)) ≤ industry.currentTExposure ∧
      decSum (positions.map (·.uncoveredEntryAmount)) ≤ industry.uncoveredBuyAmount

namespace PortfolioTDecisionSnapshot

def entryBlockers (snapshot : PortfolioTDecisionSnapshot) : List String :=
  (if !snapshot.entryEnabled then ["T_ACCOUNT_ENTRY_DISABLED"] else []) ++
    (if snapshot.killSwitch then ["T_ACCOUNT_KILL_SWITCH"] else []) ++
    (if snapshot.reconcileRequired then ["T_ACCOUNT_RECONCILE_REQUIRED"] else []) ++
    (if dec (snapshot.realizedTPnl + snapshot.unrealizedTPnl) ≤ dec (-snapshot.policy.maxDailyLoss) then
      ["T_DAILY_LOSS_LIMIT"] else [])

def planningAmountCap (snapshot : PortfolioTDecisionSnapshot) : Rat :=
  if snapshot.entryBlockers ≠ [] then 0
  else
    let policy := snapshot.policy
    max 0 (min
      (min (dec (dec (policy.maxTotalTAmount - snapshot.currentTExposure) - snapshot.uncoveredBuyAmount))
        (dec (dec (dec (snapshot.totalAssets * policy.maxTotalAssetFraction) - snapshot.currentTExposure) -
          snapshot.uncoveredBuyAmount)))
      (dec (dec (snapshot.availableCash - policy.cashBuffer) - snapshot.uncoveredBuyAmount)))

def environment (snapshot : PortfolioTDecisionSnapshot) : ExecutionEnvironment := snapshot.cut.environment

end PortfolioTDecisionSnapshot

inductive HashInput where
  | envelope (cut : PortfolioEvidenceCut) (configVersion : String) (policy : TTradingEnvelopePolicy)
      (position : TEnvelopePosition)
  | snapshot (snapshot : PortfolioTDecisionSnapshot)
  | decision (executionRef : ExecutionOwnerRef) (environment : ExecutionEnvironment) (cycleId : String)
      (allocationAttempt : Int) (intentId : String) (portfolioInputFingerprint : String)

section Fingerprint
variable (hash : HashInput → String)

/-- `input_fingerprint`, where `hash` is the digest of the canonical form. -/
def TTradingEnvelope.inputFingerprint (envelope : TTradingEnvelope) : String :=
  hash (.envelope envelope.cut envelope.configVersion envelope.policy envelope.observedPositionProjection)

def TTradingEnvelope.envelopeId (envelope : TTradingEnvelope) : String := "tenv:" ++ envelope.inputFingerprint hash

def PortfolioTDecisionSnapshot.portfolioInputFingerprint (snapshot : PortfolioTDecisionSnapshot) : String :=
  hash (.snapshot snapshot)

end Fingerprint

end QuantX
