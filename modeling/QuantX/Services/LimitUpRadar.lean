import Mathlib.Algebra.Order.Ring.Unbundled.Rat
import Mathlib.Data.Rat.Defs

/-! # The limit-up radar

The stages of one instrument over the scans of a trading day, and the restart from the events that were emitted. Prices are
exact and times are instants in microseconds. Of the scores only the break penalty is kept. -/

namespace QuantX

inductive RadarStage where
  | momentum
  | surging
  | nearLimit
  | touching
  | sealed
  | broken
  | resealed
  deriving DecidableEq, Repr

/-- What a scan reads of an instrument that it does not exclude. -/
structure RadarObservation where
  (currentPrice upStopPrice priceTick highPrice preClose : Rat)
  (askPrice bidVol : List Rat)
  minuteClose : List (Int × Rat)
  changePct : Rat
  growthSegment : Bool
  updatedAt : Int
  currentPrice_pos : 0 < currentPrice
  upStopPrice_pos : 0 < upStopPrice
  priceTick_pos : 0 < priceTick

structure RadarLifecycle where
  stage : Option RadarStage := none
  everTouched : Bool := false
  everSealed : Bool := false
  breakCount : Nat := 0
  firstTouchAt : Option Int := none
  firstSealedAt : Option Int := none
  lastStageAt : Option Int := none
  deriving DecidableEq, Repr

structure RadarEvent where
  stage : RadarStage
  occurredAt : Int
  deriving DecidableEq, Repr

namespace RadarObservation

/-- Half a tick under the limit still counts as at the limit. -/
def belowLimit (o : RadarObservation) : Bool := o.currentPrice < o.upStopPrice - o.priceTick / 2

def atLimit (o : RadarObservation) : Bool := 0 < o.upStopPrice ∧ o.upStopPrice - o.priceTick / 2 ≤ o.currentPrice

def sealed (o : RadarObservation) : Bool := o.atLimit ∧ o.askPrice.headD 0 ≤ 0 ∧ 0 < o.bidVol.headD 0

def distancePct (o : RadarObservation) : Rat := max 0 ((o.upStopPrice - o.currentPrice) / o.upStopPrice * 100)

/-- The change since the earliest close of the last six minutes. -/
def priceChange5m (o : RadarObservation) : Rat :=
  let values := o.minuteClose.filter fun (minute, price) =>
    0 ≤ o.updatedAt - minute ∧ o.updatedAt - minute < 6 * 60 * 1000000 ∧ 0 < price
  match (values.mergeSort fun a b => a.1 ≤ b.1).head? with
  | none => 0
  | some (_, reference) => (o.currentPrice - reference) / reference * 100

def isCandidate (o : RadarObservation) (everTouched : Bool) : Bool :=
  let dailyLimitPct := if 0 < o.preClose then (o.upStopPrice / o.preClose - 1) * 100 else if o.growthSegment then 20 else 10
  3 / 10 - 1 / 1000000 ≤ o.changePct / max dailyLimitPct (1 / 1000000) ∨ o.distancePct ≤ 5 ∨ everTouched ∨
    (0 < o.highPrice ∧ o.upStopPrice - o.priceTick / 2 ≤ o.highPrice)

end RadarObservation

namespace RadarLifecycle

def stageOf (l : RadarLifecycle) (o : RadarObservation) : RadarStage :=
  if o.sealed then if 0 < l.breakCount then .resealed else .sealed
  else if l.everSealed ∧ o.belowLimit then .broken
  else if o.atLimit then .touching
  else if o.distancePct ≤ 1 then .nearLimit
  else if o.distancePct ≤ 5 then .surging
  else if 1 ≤ o.priceChange5m then .surging else .momentum

def markTouched (l : RadarLifecycle) (occurredAt : Int) : RadarLifecycle :=
  { l with everTouched := true, firstTouchAt := l.firstTouchAt.or (some occurredAt) }

def markSealed (l : RadarLifecycle) (occurredAt : Int) : RadarLifecycle :=
  { l with everSealed := true, firstSealedAt := l.firstSealedAt.or (some occurredAt) }

/-- A break is counted where the stage before it is a sealed one. -/
def transition (l : RadarLifecycle) (stage : RadarStage) (occurredAt : Int) : RadarLifecycle × List RadarEvent :=
  if l.stage = some stage then (l, [])
  else
    let after := if stage ∈ [.touching, .sealed, .broken, .resealed] then l.markTouched occurredAt else l
    let after := if stage ∈ [.sealed, .resealed] then after.markSealed occurredAt else after
    let after :=
      if stage = .broken ∧ l.stage ∈ [some .sealed, some .resealed] then { after with breakCount := after.breakCount + 1 } else after
    ({ after with stage := some stage, lastStageAt := some occurredAt }, [⟨stage, occurredAt⟩])

/-- Every stored break is counted. -/
def restoreEvent (l : RadarLifecycle) (event : RadarEvent) : RadarLifecycle :=
  let after := { l with stage := some event.stage, lastStageAt := some event.occurredAt }
  let after := if event.stage ∈ [.touching, .sealed, .broken, .resealed] then after.markTouched event.occurredAt else after
  let after := if event.stage ∈ [.sealed, .broken, .resealed] then after.markSealed event.occurredAt else after
  if event.stage = .broken then { after with breakCount := after.breakCount + 1 } else after

def restore (events : List RadarEvent) : RadarLifecycle := events.foldl restoreEvent {}

end RadarLifecycle

/-- The `BREAK_PENALTY` of the score. -/
def breakPenalty (breakCount : Nat) : Int := -min 24 (breakCount * 8)

structure RadarItem where
  observation : RadarObservation
  stage : RadarStage
  breakCount : Nat
  breakPenalty : Int

structure LimitUpRadarBuilder where
  lifecycle : RadarLifecycle := {}
  events : List RadarEvent := []
  items : List RadarItem := []

/-- A scan. The score is taken before the transition. -/
def LimitUpRadarBuilder.build (b : LimitUpRadarBuilder) (o : RadarObservation) : LimitUpRadarBuilder :=
  if o.isCandidate b.lifecycle.everTouched then
    let stage := b.lifecycle.stageOf o
    let after := b.lifecycle.transition stage o.updatedAt
    { lifecycle := after.1, events := b.events ++ after.2
      items := b.items ++ [⟨o, stage, after.1.breakCount, breakPenalty b.lifecycle.breakCount⟩] }
  else b

def LimitUpRadarBuilder.scan (b : LimitUpRadarBuilder) (os : List RadarObservation) : LimitUpRadarBuilder := os.foldl build b

end QuantX
