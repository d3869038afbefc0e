import Mathlib.Data.Prod.Lex
import QuantX.TTrade.CandidateOutcome

/-! # Observations of a T-trade candidate

Two windows, the candidate's own and that of its fills, each with the identity of the last observation that it took.
Prices are exact and finite. -/

namespace QuantX

inductive CandidateOutcomeStatus where
  | observing
  | matured
  | unavailable
  deriving DecidableEq, Repr

structure ObservationDefinition extends CandidateOutcomeDefinition where
  tickOrdinal : Int
  continuityGeneration : String
  referencePrice : Rat
  maxObservationGapMs : Int := 60000
  tickOrdinal_nonneg : 0 ≤ tickOrdinal
  referencePrice_pos : 0 < referencePrice
  maxObservationGapMs_pos : 0 < maxObservationGapMs
  horizonsSeconds_nonempty : horizonsSeconds ≠ []
  horizonsSeconds_pos : ∀ horizon ∈ horizonsSeconds, 0 < horizon
  horizonsSeconds_increasing : horizonsSeconds.Pairwise (· < ·)

structure CandidatePriceObservation where
  (sourceTimeMs tickOrdinal : Int)
  continuityGeneration : String
  price : Rat
  tradingHalted : Bool := false

structure CandidateWindow where
  status : CandidateOutcomeStatus := .observing
  horizons : List CandidateHorizonOutcome
  (highPrice lowPrice : Option Rat)
  lastSourceTimeMs : Option Int := none
  lastTickOrdinal : Option Int := none
  sampleCount : Int := 0
  unavailableReason : Option CandidateOutcomeUnavailableReason := none
  finalizedAtMs : Option Int := none
  deriving DecidableEq, Repr

structure PostFillWindow extends CandidatePostFillOutcome where
  lastTickOrdinal : Option Int := none
  sampleCount : Int := 0
  deriving DecidableEq, Repr

structure ObservedOutcome where
  definition : ObservationDefinition
  window : CandidateWindow
  execution : CandidateExecutionOutcome := {}
  postFill : PostFillWindow := {}

def ObservationDefinition.identity (definition : ObservationDefinition) : Int ×ₗ Int := toLex (definition.sourceTimeMs, definition.tickOrdinal)

def CandidatePriceObservation.identity (o : CandidatePriceObservation) : Int ×ₗ Int := toLex (o.sourceTimeMs, o.tickOrdinal)

inductive ObservationVerdict where
  | repeated
  | breaks (reason : CandidateOutcomeUnavailableReason)
  | taken
  deriving DecidableEq, Repr

/-- The checks of a window in their order. Gaps count from `since` where nothing was taken yet. -/
def ObservationDefinition.verdict (definition : ObservationDefinition) (lastSourceTimeMs : Option Int) (lastTickOrdinal since : Int)
    (o : CandidatePriceObservation) : ObservationVerdict :=
  if o.continuityGeneration ≠ definition.continuityGeneration then .breaks .continuityChanged
  else if o.tradingHalted then .breaks .tradingHalted
  else if o.price ≤ 0 then .breaks .observationGap
  else if lastSourceTimeMs.any fun last => o.identity = toLex (last, lastTickOrdinal) then .repeated
  else if lastSourceTimeMs.any fun last => o.identity < toLex (last, lastTickOrdinal) then .breaks .outOfOrder
  else if definition.maxObservationGapMs < o.sourceTimeMs - lastSourceTimeMs.getD since then .breaks .observationGap
  else .taken

/-- `price or observed`: no price and a price of zero count alike. -/
def orPrice (price : Option Rat) (observed : Rat) : Rat :=
  match price with
  | some price => if price = 0 then observed else price
  | none => observed

namespace CandidateHorizonOutcome
variable (horizon : CandidateHorizonOutcome) (o : CandidatePriceObservation)

def due : Bool := horizon.observedAtMs.isNone && decide (horizon.deadlineMs ≤ o.sourceTimeMs)

def clear : CandidateHorizonOutcome :=
  if horizon.observedAtMs.isSome then horizon
  else { horizon with observedAtMs := none, observedPrice := none, returnPct := none, mfePct := none, maePct := none }

def observe (reference high low : Rat) : CandidateHorizonOutcome :=
  { horizon with
    observedAtMs := some o.sourceTimeMs, observedPrice := some o.price
    returnPct := some ((o.price / reference - 1) * 100), mfePct := some ((high / reference - 1) * 100)
    maePct := some ((low / reference - 1) * 100) }

end CandidateHorizonOutcome

namespace CandidateWindow
variable (w : CandidateWindow) (definition : ObservationDefinition) (o : CandidatePriceObservation)

/-- `_make_unavailable`. -/
def makeUnavailable (reason : CandidateOutcomeUnavailableReason) : CandidateWindow :=
  { w with
    status := .unavailable, unavailableReason := some reason, finalizedAtMs := some o.sourceTimeMs
    horizons := w.horizons.map (·.clear) }

def take : CandidateWindow :=
  let high := max (orPrice w.highPrice o.price) o.price
  let low := min (orPrice w.lowPrice o.price) o.price
  let horizons := w.horizons.map fun horizon => if horizon.due o then horizon.observe o definition.referencePrice high low else horizon
  let matured := horizons.all (·.observedAtMs.isSome)
  { w with
    lastSourceTimeMs := some o.sourceTimeMs, lastTickOrdinal := some o.tickOrdinal, sampleCount := w.sampleCount + 1
    highPrice := some high, lowPrice := some low, horizons, status := if matured then .matured else w.status
    finalizedAtMs := if matured then some o.sourceTimeMs else w.finalizedAtMs }

def judged : ObservationVerdict → CandidateWindow
  | .repeated => w
  | .breaks reason => w.makeUnavailable o reason
  | .taken => w.take definition o

def observe : CandidateWindow :=
  if w.status ≠ .observing then w
  else w.judged definition o (definition.verdict w.lastSourceTimeMs (w.lastTickOrdinal.getD 0) definition.sourceTimeMs o)

end CandidateWindow

/-- `_post_fill_net_return_pct`. -/
def CandidateExecutionOutcome.netReturnPct (execution : CandidateExecutionOutcome) (markPrice : Rat) : Option Rat :=
  if !execution.feeTruthAvailable || execution.entryAmount ≤ 0 then none
  else
    let openVolume : Int := execution.entryVolume - execution.exitVolume
    let netPnl := execution.exitAmount + markPrice * openVolume - execution.entryAmount - execution.entryFee.getD 0 - execution.exitFee.getD 0
    some (netPnl / execution.entryAmount * 100)

namespace PostFillWindow
variable (w : PostFillWindow) (definition : ObservationDefinition) (execution : CandidateExecutionOutcome) (o : CandidatePriceObservation)

/-- `int(last_tick_ordinal or -1)`. -/
def lastOrdinal : Int :=
  match w.lastTickOrdinal with
  | some ordinal => if ordinal = 0 then -1 else ordinal
  | none => -1

def take : PostFillWindow :=
  let high := max (orPrice w.highPrice o.price) o.price
  let low := min (orPrice w.lowPrice o.price) o.price
  let net := execution.netReturnPct o.price
  let runningMfe := net.elim w.runningNetMfePct fun net => some (max (w.runningNetMfePct.getD net) net)
  let runningMae := net.elim w.runningNetMaePct fun net => some (min (w.runningNetMaePct.getD net) net)
  let horizons := w.horizons.map fun horizon =>
    if horizon.due o then
      { horizon.observe o (w.referencePrice.getD 0) high low with netReturnPct := net, netMfePct := runningMfe, netMaePct := runningMae }
    else horizon
  let matured := !horizons.isEmpty && horizons.all (·.observedAtMs.isSome)
  { w with
    lastSourceTimeMs := some o.sourceTimeMs, lastTickOrdinal := some o.tickOrdinal, sampleCount := w.sampleCount + 1
    highPrice := some high, lowPrice := some low, runningNetMfePct := runningMfe, runningNetMaePct := runningMae
    horizons, status := if matured then .matured else w.status
    finalizedAtMs := if matured then some o.sourceTimeMs else w.finalizedAtMs }

def judged : ObservationVerdict → PostFillWindow
  | .repeated => w
  | .breaks reason => { w with toCandidatePostFillOutcome := w.makeUnavailable reason o.sourceTimeMs }
  | .taken => w.take execution o

/-- `_observe_post_fill`. -/
def observe : PostFillWindow :=
  if w.status ≠ .observing then w
  else if o.sourceTimeMs ≤ w.armedAtMs.getD 0 then w
  else w.judged execution o (definition.verdict w.lastSourceTimeMs w.lastOrdinal (w.armedAtMs.getD 0) o)

end PostFillWindow

namespace ObservedOutcome
variable (s : ObservedOutcome) (o : CandidatePriceObservation)

/-- `start_candidate_outcome`. -/
def start (definition : ObservationDefinition) : ObservedOutcome where
  definition := definition
  window :=
    { highPrice := some definition.referencePrice, lowPrice := some definition.referencePrice
      horizons := definition.horizonsSeconds.map fun horizon =>
        { horizonSeconds := horizon, deadlineMs := definition.sourceTimeMs + horizon * 1000 } }

/-- `observe_candidate_outcome`. -/
def observe : ObservedOutcome :=
  if o.identity ≤ s.definition.identity then s
  else { s with window := s.window.observe s.definition o, postFill := s.postFill.observe s.definition s.execution o }

/-- `apply_candidate_execution_fill` on the whole state. The counters of the observation stay. -/
def applyFill (fill : CandidateExecutionFill) : ObservedOutcome × Option String :=
  let (next, error) := CandidateOutcomeState.applyFill
    { definition := s.definition.toCandidateOutcomeDefinition, execution := s.execution, postFill := s.postFill.toCandidatePostFillOutcome } fill
  ({ s with execution := next.execution, postFill := { s.postFill with toCandidatePostFillOutcome := next.postFill } }, error)

end ObservedOutcome
end QuantX
