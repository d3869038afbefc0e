import Mathlib.Algebra.Order.Floor.Ring
import Mathlib.Data.Rat.Floor

/-! # Targets of the dynamic balance strategy

What the strategy aims at with its core and swing buckets, and the core orders that follow. The sigmoid of the price distance
is a parameter, numbers are exact, and a number that is missing or cannot be read is `none`. Texts of intents are left out. -/

namespace QuantX

inductive BalanceTrendState where
  | lowAccumulation
  | uptrend
  | neutral
  | highDistribution
  | downtrend
  deriving DecidableEq, Repr

inductive BalancePositionPhase where
  | buildingCore
  | balancedRun
  | distribution
  | defensive
  deriving DecidableEq, Repr

structure BalanceParameters where
  neutralPositionPct : Rat := 35 / 100
  minPositionPct : Rat := 5 / 100
  maxPositionPct : Rat := 70 / 100
  cashBufferPct : Rat := 25 / 100
  inventoryGamma : Rat := 8 / 10
  coreBaseShare : Rat := 75 / 100
  coreMinShare : Rat := 60 / 100
  coreMaxShare : Rat := 92 / 100
  rebalanceThresholdPct : Rat := 2 / 100
  dailyCoreAddLimitPct : Rat := 5 / 100
  singleOrderLimitPct : Rat := 4 / 100
  minOrderAmount : Rat := 3000

structure BalanceProfile where
  minPositionPct : Option Rat := none
  maxPositionPct : Option Rat := none
  targetCashBufferPct : Option Rat := none
  inventoryGammaMultiplier : Option Rat := none
  coreShareMin : Option Rat := none
  coreShareMax : Option Rat := none
  swingMaxPct : Option Rat := none
  allowCoreBuy : Bool := true
  allowCoreSell : Bool := true
  allowSwingSell : Bool := true

structure BalanceRiskCaps where
  maxPositionPct : Option Rat := none
  minCashBufferPct : Option Rat := none
  onlyReducePosition : Bool := false

/-- The account, the ledger's volumes and the position of the instrument. -/
structure BalanceInput where
  profile : BalanceProfile := {}
  riskCaps : BalanceRiskCaps := {}
  totalAsset : Rat
  cashTotal : Rat := 0
  availableCash : Option Rat := none
  lockedCoreVolume : Int := 0
  coreVolume : Int := 0
  swingVolume : Int := 0
  longVolume : Int := 0
  marketValue : Option Rat := none

structure BalanceTargets where
  (targetTotalPct targetCorePct targetSwingPct lockedCorePct coreShare : Rat)

structure BalanceBuckets where
  (lockedCoreAmount coreAmount swingAmount : Rat)

inductive BalanceIntent where
  | sellSwing (volume : Int)
  | sellCore (volume : Int)
  | buyCore (amount : Rat)
  deriving DecidableEq, Repr

/-- The lower bound prevails where the two cross. -/
def balanceClamp (value lower upper : Rat) : Rat := max lower (min (if upper < lower then lower else upper) value)

def volumeForAmount (amount price : Rat) : Int := if amount ≤ 0 ∨ price ≤ 0 then 0 else max 0 ⌊amount / price⌋

namespace BalanceInput

/-- `total_asset or cash_total`. -/
def assets (input : BalanceInput) : Rat := if input.totalAsset = 0 then input.cashTotal else input.totalAsset

/-- The asset of the order functions, which fall back on the cash. -/
def account (input : BalanceInput) : Rat := if input.assets = 0 then input.availableCash.getD 0 else input.assets

def currentPositionPct (input : BalanceInput) : Rat :=
  if input.account ≤ 0 then 0 else input.marketValue.getD 0 / input.account

/-- A ledger without volume leaves the position to the core bucket. -/
def currentBuckets (input : BalanceInput) (price : Rat) : BalanceBuckets where
  lockedCoreAmount := input.lockedCoreVolume * price
  coreAmount := (if input.lockedCoreVolume + input.coreVolume + input.swingVolume ≤ 0 then input.longVolume else input.coreVolume) * price
  swingAmount := input.swingVolume * price

end BalanceInput

namespace BalanceParameters

def minPct (p : BalanceParameters) (input : BalanceInput) : Rat := max p.minPositionPct (input.profile.minPositionPct.getD 0)

def cashBuffer (p : BalanceParameters) (input : BalanceInput) : Rat :=
  max (max p.cashBufferPct (input.profile.targetCashBufferPct.getD 0)) (input.riskCaps.minCashBufferPct.getD 0)

def maxPct (p : BalanceParameters) (input : BalanceInput) : Rat :=
  let maxPct := min p.maxPositionPct (input.profile.maxPositionPct.getD 1)
  let maxPct := min maxPct (input.riskCaps.maxPositionPct.getD maxPct)
  if 0 < input.assets then min maxPct (max 0 (1 - p.cashBuffer input)) else maxPct

def coreMin (p : BalanceParameters) (input : BalanceInput) : Rat := max p.coreMinShare (input.profile.coreShareMin.getD (1 / 2))

def buildTargets (p : BalanceParameters) (input : BalanceInput) (close signal : Rat) (trend : BalanceTrendState) : BalanceTargets :=
  let trendAdjust : Rat :=
    match trend with
    | .lowAccumulation => 14 / 100
    | .uptrend => 8 / 100
    | .neutral => 0
    | .highDistribution => -18 / 100
    | .downtrend => -28 / 100
  let targetTotal := p.neutralPositionPct + signal * (22 / 100) + trendAdjust
  let targetTotal := if input.riskCaps.onlyReducePosition then min targetTotal input.currentPositionPct else targetTotal
  let targetTotal := balanceClamp targetTotal (p.minPct input) (p.maxPct input)
  let gamma := p.inventoryGamma * input.profile.inventoryGammaMultiplier.getD 1
  let coreShare := balanceClamp (p.coreBaseShare + gamma * max 0 signal * (10 / 100)) (p.coreMin input)
    (min p.coreMaxShare (input.profile.coreShareMax.getD 1))
  let lockedCorePct := if 0 < input.assets then (input.currentBuckets close).lockedCoreAmount / input.assets else 0
  let activeTargetTotal := max 0 (targetTotal - lockedCorePct)
  let targetSwing := min (max 0 (activeTargetTotal - activeTargetTotal * coreShare)) (input.profile.swingMaxPct.getD (15 / 100))
  { targetTotalPct := targetTotal, targetCorePct := max 0 (activeTargetTotal - targetSwing)
    targetSwingPct := targetSwing, lockedCorePct, coreShare }

def coreRebalanceIntents (p : BalanceParameters) (input : BalanceInput) (price : Rat) (targets : BalanceTargets)
    (phase : BalancePositionPhase) : List BalanceIntent :=
  let asset := input.account
  let current := input.currentBuckets price
  if asset ≤ 0 ∨ price ≤ 0 then []
  else if phase = .defensive ∨ phase = .distribution then
    let excess := (current.lockedCoreAmount + current.coreAmount + current.swingAmount) / asset - targets.targetTotalPct
    let swing := volumeForAmount (min (excess * asset) current.swingAmount) price
    let core := volumeForAmount (min (excess * asset) current.coreAmount) price
    if p.rebalanceThresholdPct < excess ∧ input.profile.allowSwingSell ∧ 0 < swing then [.sellSwing swing]
    else if p.rebalanceThresholdPct < excess ∧ input.profile.allowCoreSell ∧ 0 < core then [.sellCore core]
    else []
  else
    let coreGap := targets.targetCorePct - current.coreAmount / asset
    let amount := min (min (min (coreGap * asset) (p.dailyCoreAddLimitPct * asset)) (p.singleOrderLimitPct * asset))
      (input.availableCash.getD asset)
    if p.rebalanceThresholdPct < coreGap ∧ input.profile.allowCoreBuy ∧ p.minOrderAmount ≤ amount then [.buyCore amount] else []

end BalanceParameters
end QuantX
