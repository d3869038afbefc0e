import QuantX.Lib.Dict
import Mathlib.Algebra.Order.Field.Rat

/-! # The execution outcome of a T-trade candidate

The fills that a candidate's entry and exits report, added up. A fill that is rejected raises, and the state is what it
was mutated to by then. Prices, amounts and fees are exact, times are in milliseconds. -/

namespace QuantX
open Lib

inductive CandidateOutcomeUnavailableReason where
  | continuityChanged
  | observationGap
  | outOfOrder
  | tradingHalted
  | windowIncomplete
  | entryIncomplete
  | noEntryFill
  deriving DecidableEq, Repr

inductive PostFillOutcomeStatus where
  | waitingEntry
  | observing
  | matured
  | unavailable
  deriving DecidableEq, Repr

structure CandidateOutcomeDefinition where
  sourceTimeMs : Int
  horizonsSeconds : List Int
  sourceTimeMs_nonneg : 0 ≤ sourceTimeMs
  deriving DecidableEq, Repr

inductive CandidateFillRole where
  | entry
  | exit
  deriving DecidableEq, Repr

/-- `_fill_fingerprint`: the facts of a fill. -/
structure FillFingerprint where
  role : CandidateFillRole
  sourceTimeMs : Int
  price : Rat
  volume : Nat
  fee : Option Rat
  deriving DecidableEq, Repr

structure CandidateExecutionFill extends FillFingerprint where
  fillId : String
  entryComplete : Bool := false
  entryTargetVolume : Option Nat := none
  price_pos : 0 < price
  volume_pos : 0 < volume
  fee_nonneg : ∀ value, fee = some value → 0 ≤ value
  target_pos : ∀ target, entryTargetVolume = some target → 0 < target

structure CandidateHorizonOutcome where
  (horizonSeconds deadlineMs : Int)
  observedAtMs : Option Int := none
  observedPrice : Option Rat := none
  returnPct : Option Rat := none
  mfePct : Option Rat := none
  maePct : Option Rat := none
  netReturnPct : Option Rat := none
  netMfePct : Option Rat := none
  netMaePct : Option Rat := none
  deriving DecidableEq, Repr

structure CandidateExecutionOutcome where
  appliedFillIds : List String := []
  appliedFillFingerprints : Dict String FillFingerprint := .empty
  entryVolume : Nat := 0
  entryAmount : Rat := 0
  entryFee : Option Rat := some 0
  exitVolume : Nat := 0
  exitAmount : Rat := 0
  exitFee : Option Rat := some 0
  realizedNetPnl : Option Rat := none
  entryFrozen : Bool := false
  entryTargetVolume : Option Nat := none
  lastEntryFillSourceTimeMs : Option Int := none

structure CandidatePostFillOutcome where
  status : PostFillOutcomeStatus := .waitingEntry
  armedAtMs : Option Int := none
  referencePrice : Option Rat := none
  referenceAmount : Option Rat := none
  referenceVolume : Option Nat := none
  horizons : List CandidateHorizonOutcome := []
  highPrice : Option Rat := none
  lowPrice : Option Rat := none
  runningNetMfePct : Option Rat := none
  runningNetMaePct : Option Rat := none
  lastSourceTimeMs : Option Int := none
  unavailableReason : Option CandidateOutcomeUnavailableReason := none
  finalizedAtMs : Option Int := none
  deriving DecidableEq, Repr

structure CandidateOutcomeState where
  definition : CandidateOutcomeDefinition
  execution : CandidateExecutionOutcome := {}
  postFill : CandidatePostFillOutcome := {}

namespace CandidateExecutionOutcome
variable (execution : CandidateExecutionOutcome)

def closed : Bool := 0 < execution.entryVolume && execution.entryVolume ≤ execution.exitVolume

def feeTruthAvailable : Bool := execution.closed && execution.entryFee.isSome && execution.exitFee.isSome

def entryPrice : Option Rat := if execution.entryVolume = 0 then none else some (execution.entryAmount / execution.entryVolume)

end CandidateExecutionOutcome

def accumulateFee : Option Rat → Option Rat → Option Rat
  | some current, some incoming => some (current + incoming)
  | _, _ => none

namespace CandidateOutcomeState
variable (s : CandidateOutcomeState)

/-- `_arm_post_fill`. It raises where nothing was entered. -/
def armPostFill (armedAtMs : Int) : CandidateOutcomeState × Option String :=
  match s.execution.entryPrice with
  | none => (s, some "成交后结果冻结缺少有效入场成交")
  | some entryPrice =>
    ({ s with
      execution := { s.execution with entryFrozen := true }
      postFill := { s.postFill with
        status := .observing, armedAtMs := some armedAtMs, referencePrice := some entryPrice
        referenceAmount := some s.execution.entryAmount, referenceVolume := some s.execution.entryVolume
        highPrice := some entryPrice, lowPrice := some entryPrice, lastSourceTimeMs := some armedAtMs
        horizons := s.definition.horizonsSeconds.map fun horizon =>
          { horizonSeconds := horizon, deadlineMs := armedAtMs + horizon * 1000 } } }, none)

def armCompletedEntryIfReady (entryComplete : Bool) : CandidateOutcomeState × Option String :=
  match s.execution.entryTargetVolume, s.execution.lastEntryFillSourceTimeMs with
  | some target, some last =>
    if entryComplete ∧ s.execution.entryFrozen = false ∧ target ≤ s.execution.entryVolume then s.armPostFill last else (s, none)
  | _, _ => (s, none)

end CandidateOutcomeState

def mergeEntryTarget (execution : CandidateExecutionOutcome) (targetVolume : Option Nat) : Except String CandidateExecutionOutcome :=
  match targetVolume with
  | none => .ok execution
  | some target =>
    if execution.entryTargetVolume.all (· = target) then .ok { execution with entryTargetVolume := some target }
    else .error "同一候选的入场目标成交数量不一致"

namespace CandidateHorizonOutcome

def withoutNet (horizon : CandidateHorizonOutcome) : CandidateHorizonOutcome :=
  { horizon with netReturnPct := none, netMfePct := none, netMaePct := none }

def close (horizon : CandidateHorizonOutcome) : CandidateHorizonOutcome :=
  if horizon.observedAtMs.isSome then horizon
  else { horizonSeconds := horizon.horizonSeconds, deadlineMs := horizon.deadlineMs }

def withNet (horizon : CandidateHorizonOutcome) (feePct : Rat) : CandidateHorizonOutcome :=
  match horizon.returnPct, horizon.mfePct, horizon.maePct with
  | some returnPct, some mfePct, some maePct =>
    { horizon with netReturnPct := some (returnPct - feePct), netMfePct := some (mfePct - feePct), netMaePct := some (maePct - feePct) }
  | _, _, _ => horizon

def netExtrema (horizon : CandidateHorizonOutcome) (feePct : Rat) : Option (Rat × Rat) :=
  match horizon.returnPct, horizon.mfePct, horizon.maePct with
  | some _, some mfePct, some maePct => some (mfePct - feePct, maePct - feePct)
  | _, _, _ => none

end CandidateHorizonOutcome

namespace CandidatePostFillOutcome
variable (postFill : CandidatePostFillOutcome)

/-- `_invalidate_post_fill_net`. -/
def invalidateNet : CandidatePostFillOutcome :=
  { postFill with runningNetMfePct := none, runningNetMaePct := none, horizons := postFill.horizons.map (·.withoutNet) }

/-- `_make_post_fill_unavailable`. -/
def makeUnavailable (reason : CandidateOutcomeUnavailableReason) (finalizedAtMs : Int) : CandidatePostFillOutcome :=
  { postFill with
    status := .unavailable, unavailableReason := some reason, finalizedAtMs := some finalizedAtMs
    horizons := postFill.horizons.map (·.close) }

def extremum (pick : Rat → Rat → Rat) (old : Option Rat) : List Rat → Option Rat
  | [] => old
  | value :: values => some (values.foldl pick value)

def refreshNet (feePct : Rat) : CandidatePostFillOutcome :=
  let extrema := postFill.horizons.filterMap (·.netExtrema feePct)
  { postFill with
    horizons := postFill.horizons.map (·.withNet feePct)
    runningNetMfePct := extremum max postFill.runningNetMfePct (extrema.map Prod.fst)
    runningNetMaePct := extremum min postFill.runningNetMaePct (extrema.map Prod.snd) }

end CandidatePostFillOutcome

/-- `_refresh_post_fill_net_from_closed_execution`. -/
def CandidateOutcomeState.refreshPostFillNet (s : CandidateOutcomeState) : CandidateOutcomeState :=
  match s.execution.entryFee, s.execution.exitFee with
  | some entryFee, some exitFee =>
    if s.execution.closed ∧ 0 < s.execution.entryAmount then
      { s with postFill := s.postFill.refreshNet ((entryFee + exitFee) / s.execution.entryAmount * 100) }
    else s
  | _, _ => s

/-! ### Fills -/

namespace CandidateExecutionOutcome

def recordFill (execution : CandidateExecutionOutcome) (fill : CandidateExecutionFill) : CandidateExecutionOutcome :=
  { execution with
    appliedFillIds := execution.appliedFillIds ++ [fill.fillId]
    appliedFillFingerprints := execution.appliedFillFingerprints.set fill.fillId fill.toFillFingerprint }

def addEntry (execution : CandidateExecutionOutcome) (fill : CandidateExecutionFill) : CandidateExecutionOutcome :=
  { execution with
    entryVolume := execution.entryVolume + fill.volume, entryAmount := execution.entryAmount + fill.price * fill.volume
    entryFee := accumulateFee execution.entryFee fill.fee
    lastEntryFillSourceTimeMs := some (max (execution.lastEntryFillSourceTimeMs.getD fill.sourceTimeMs) fill.sourceTimeMs) }

def addExit (execution : CandidateExecutionOutcome) (fill : CandidateExecutionFill) : CandidateExecutionOutcome :=
  { execution with
    exitVolume := execution.exitVolume + fill.volume, exitAmount := execution.exitAmount + fill.price * fill.volume
    exitFee := accumulateFee execution.exitFee fill.fee }

def realized (execution : CandidateExecutionOutcome) : Option Rat :=
  let grossExit := if execution.entryVolume < execution.exitVolume
    then execution.exitAmount * (execution.entryVolume / execution.exitVolume) else execution.exitAmount
  match execution.entryFee, execution.exitFee with
  | some entryFee, some exitFee => some (grossExit - execution.entryAmount - entryFee - exitFee)
  | _, _ => none

end CandidateExecutionOutcome

namespace CandidateOutcomeState
variable (s : CandidateOutcomeState) (fill : CandidateExecutionFill)

def noteFee : CandidateOutcomeState :=
  if fill.fee.isNone then { s with postFill := s.postFill.invalidateNet } else s

def realize : CandidateOutcomeState :=
  { s with execution := { s.execution with realizedNetPnl := s.execution.realized } }.refreshPostFillNet

def endWindow (sourceTimeMs : Int) : CandidateOutcomeState :=
  if s.postFill.status = .observing then { s with postFill := s.postFill.makeUnavailable .windowIncomplete sourceTimeMs } else s

def settleFill : CandidateOutcomeState :=
  if s.execution.closed then ((s.noteFee fill).realize).endWindow fill.sourceTimeMs else s.noteFee fill

def redeliver : CandidateOutcomeState × Option String :=
  if s.execution.appliedFillFingerprints.get? fill.fillId ≠ some fill.toFillFingerprint then (s, some "同一成交标识对应的成交事实不一致")
  else if fill.role = .entry then
    match mergeEntryTarget s.execution fill.entryTargetVolume with
    | .error message => (s, some message)
    | .ok execution => { s with execution }.armCompletedEntryIfReady fill.entryComplete
  else (s, none)

def applyEntry : CandidateOutcomeState × Option String :=
  if s.execution.entryFrozen then (s, some "入场完成冻结后不得追加候选入场成交")
  else match mergeEntryTarget s.execution fill.entryTargetVolume with
    | .error message => (s, some message)
    | .ok execution =>
      match { s with execution := (execution.recordFill fill).addEntry fill }.armCompletedEntryIfReady fill.entryComplete with
      | (s, some message) => (s, some message)
      | (s, none) => (s.settleFill fill, none)

def applyExit : CandidateOutcomeState × Option String :=
  if s.execution.entryVolume = 0 then (s, some "候选退出成交不得早于候选入场成交")
  else if s.execution.entryVolume < s.execution.exitVolume + fill.volume then (s, some "候选退出成交累计数量不得超过入场成交数量")
  else ({ s with execution := (s.execution.recordFill fill).addExit fill }.settleFill fill, none)

/-- `apply_candidate_execution_fill`: the state that it leaves, and the error that it raises. -/
def applyFill : CandidateOutcomeState × Option String :=
  if s.execution.appliedFillIds.contains fill.fillId then s.redeliver fill
  else if fill.sourceTimeMs ≤ s.definition.sourceTimeMs then (s, some "候选成交必须严格发生在候选源时间之后")
  else match fill.role with
    | .entry => s.applyEntry fill
    | .exit => s.applyExit fill

end CandidateOutcomeState

def startCandidateOutcome (definition : CandidateOutcomeDefinition) : CandidateOutcomeState := { definition := definition }

end QuantX
