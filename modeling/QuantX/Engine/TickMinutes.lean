import QuantX.MarketData.RealtimeArchive
import Mathlib.Algebra.Order.Field.Rat

/-! # Minutes generated from ticks

The Engine aggregates the ticks of an instrument into minutes and offers them to the archive. Two subscriptions feed the
one aggregate. Times are readings of the Shanghai clock in microseconds, eight hours ahead of UTC. Caches, subscribers
and what the session does with a request are left out. -/

namespace QuantX

structure MarketTick where
  time : Int
  lastPrice : Rat
  «open» : Rat
  (high low lastClose amount volume tickvol : Rat)
  (stockStatus openInt continuityGeneration : Int)
  marketStreamId : String
  marketStreamSequence : Int
  marketStreamReset : Bool
  deriving Repr

/-- A `KLine` of the period `1m`. -/
structure MinuteKline where
  time : Int
  «open» : Rat
  (high low close preClose volume amount settelementPrice : Rat)
  (openInterest suspendFlag : Int)
  deriving DecidableEq, Repr

/-- An entry of `tick_minute_klines`. -/
structure MinuteState where
  originComplete : Bool
  (baseAmount baseVolume : Rat)
  kline : MinuteKline
  (lastSavedAt lastSavedMinute : Option Int)
  (lastCumulativeAmount lastCumulativeVolume : Rat)
  minute : Int
  lineage : Int × String
  (sequence lastObservedAt : Int)
  originReset : Bool

def minuteStart (time : Int) : Int := time - time % 60000000

def isIntraday1mMinute (time : Int) : Bool :=
  let minutes := minuteStart time / 60000000 % 1440
  9 * 60 + 15 ≤ minutes ∧ minutes ≤ 9 * 60 + 25 ∨ 9 * 60 + 30 ≤ minutes ∧ minutes ≤ 11 * 60 + 30 ∨
    13 * 60 ≤ minutes ∧ minutes ≤ 15 * 60

namespace MarketTick
variable (tick : MarketTick)

/-- `_tick_price`. -/
def price? : Option Rat := [tick.lastPrice, tick.open, tick.high, tick.low].find? (0 < ·)

def minute : Int := minuteStart tick.time

def cumulativeVolume : Rat := max 0 tick.volume

def cumulativeAmount : Rat := max 0 tick.amount

def lineage : Int × String := (tick.continuityGeneration, tick.marketStreamId)

def hasLineage : Bool := 0 < tick.continuityGeneration ∧ tick.marketStreamId ≠ "" ∧ 0 < tick.marketStreamSequence

def lineageBroken : Bool :=
  (tick.continuityGeneration ≠ 0 ∨ tick.marketStreamId ≠ "" ∨ tick.marketStreamSequence ≠ 0) ∧ tick.hasLineage = false

end MarketTick

namespace MinuteState
variable (state : MinuteState) (tick : MarketTick)

def breakOrigin : MinuteState := { state with originComplete := false }

def refuses : Bool :=
  tick.time < state.lastObservedAt ∨
    if state.lineage.1 ≠ 0 then
      tick.hasLineage = false ∨ tick.continuityGeneration < state.lineage.1 ∨
        tick.continuityGeneration = state.lineage.1 ∧
          (tick.marketStreamId ≠ state.lineage.2 ∨ tick.marketStreamSequence ≤ state.sequence)
    else tick.hasLineage = false ∧ tick.time = state.lastObservedAt

def restarts : Bool :=
  (if state.lineage.1 ≠ 0 then tick.continuityGeneration ≠ state.lineage.1 else tick.hasLineage) ∨
    tick.cumulativeVolume < state.lastCumulativeVolume ∨ tick.cumulativeAmount < state.lastCumulativeAmount ∨
    60000000 < tick.minute - state.minute

def base (state : Option MinuteState) (tick : MarketTick) (price : Rat) : Rat × Rat :=
  match state with
  | some state => (max 0 state.lastCumulativeVolume, max 0 state.lastCumulativeAmount)
  | none => (max 0 (tick.cumulativeVolume - max 0 tick.tickvol), max 0 (tick.cumulativeAmount - max 0 tick.tickvol * price))

def open_ (state : Option MinuteState) (tick : MarketTick) (price : Rat) (reset handled : Bool) : MinuteState where
  originComplete := state.isSome && tick.hasLineage && handled
  baseAmount := (base state tick price).2
  baseVolume := (base state tick price).1
  kline := {
    time := tick.minute
    «open» := price
    high := price, low := price, close := price, preClose := tick.lastClose
    volume := max 0 (tick.cumulativeVolume - (base state tick price).1)
    amount := max 0 (tick.cumulativeAmount - (base state tick price).2), settelementPrice := 0
    openInterest := tick.openInt, suspendFlag := tick.stockStatus }
  lastSavedAt := none
  lastSavedMinute := none
  lastCumulativeAmount := tick.cumulativeAmount
  lastCumulativeVolume := tick.cumulativeVolume
  minute := tick.minute
  lineage := tick.lineage
  sequence := tick.marketStreamSequence
  lastObservedAt := tick.time
  originReset := reset

def extend (price : Rat) : MinuteState := { state with
  kline := { state.kline with
    high := max state.kline.high price, low := min state.kline.low price, close := price
    preClose := if tick.lastClose ≠ 0 then tick.lastClose else state.kline.preClose
    volume := max 0 (tick.cumulativeVolume - state.baseVolume)
    amount := max 0 (tick.cumulativeAmount - state.baseAmount), openInterest := tick.openInt
    suspendFlag := tick.stockStatus }
  lastCumulativeAmount := tick.cumulativeAmount, lastCumulativeVolume := tick.cumulativeVolume
  sequence := tick.marketStreamSequence, lastObservedAt := tick.time, originReset := false }

/-- `_should_save_tick_generated_kline`; the interval is in seconds. -/
def shouldSave (interval : Rat) : Bool :=
  state.lastSavedMinute ≠ some state.kline.time ∨ interval ≤ 0 ∨
    state.lastSavedAt.all fun savedAt => interval ≤ (tick.time - savedAt : Int) / 1000000

/-- `_mark_tick_generated_kline_save_attempt`. -/
def markSaveAttempt : MinuteState :=
  { state with lastSavedAt := some tick.time, lastSavedMinute := some state.kline.time }

end MinuteState

/-- `_build_tick_generated_kline`: the state whose minute is returned, or the state that is left where none is. -/
def buildTickGeneratedKline (s : Option MinuteState) (tick : MarketTick) (deliveryReset handled : Bool) :
    Except (Option MinuteState) MinuteState :=
  match tick.price? with
  | none => .error (s.map MinuteState.breakOrigin)
  | some price =>
    if isIntraday1mMinute tick.time = false then .error (s.map MinuteState.breakOrigin)
    else if s.any (tick.minute < ·.minute) then .error s
    else if tick.lineageBroken then .error s
    else if s.any (·.refuses tick) then .error s
    else
      let reset := tick.marketStreamReset || deliveryReset || s.any (·.restarts tick)
      match if reset then none else s with
      | none => .ok (.open_ none tick price reset handled)
      | some state =>
        if state.minute < tick.minute then .ok (.open_ (some state) tick price reset handled)
        else .ok (state.extend tick price)

/-- What `_offer_archive` is called with. -/
structure ArchiveCandidate where
  kline : MinuteKline
  lineage : Int × String
  sequence : Int
  sealed : Bool
  deriving DecidableEq

def MinuteState.candidate (state : MinuteState) (sealed : Bool) : ArchiveCandidate :=
  ⟨state.kline, state.lineage, state.sequence, sealed⟩

def finishedMinute (s : Option MinuteState) (state : MinuteState) : List ArchiveCandidate :=
  (s.toList.filter fun previous => previous.minute < state.kline.time ∧ state.originReset = false).map fun previous =>
    previous.candidate previous.originComplete

/-- `_handle_tick_generated_1m`: the state after a tick, and what is offered. -/
def handleTickGenerated1m (interval : Rat) (s : Option MinuteState) (tick : MarketTick) (deliveryReset handled : Bool) :
    Option MinuteState × List ArchiveCandidate :=
  match buildTickGeneratedKline s tick deliveryReset handled with
  | .error s => (s, [])
  | .ok state =>
    if state.shouldSave tick interval then
      (some (state.markSaveAttempt tick), finishedMinute s state ++ [state.candidate false])
    else (some state, finishedMinute s state)

def ArchiveBar.valid (bar : ArchiveBar) : Bool :=
  0 < bar.open ∧ 0 < bar.high ∧ 0 < bar.low ∧ 0 < bar.close ∧ 0 ≤ bar.preClose ∧ 0 ≤ bar.volume ∧ 0 ≤ bar.amount ∧
    0 ≤ bar.settelementPrice ∧ 0 ≤ bar.openInterest ∧ 0 ≤ bar.suspendFlag ∧
    ¬ (bar.high < max bar.open (max bar.close bar.low) ∨ min bar.open bar.close < bar.low)

structure EngineArchiveSession where
  generation : Int
  isInstrument : String → Bool
  uuid : String → Option String
  year : Int → Int

def utc (time : Int) : Int := time - 8 * 3600 * 1000000

def MinuteKline.bar (kline : MinuteKline) : ArchiveBar :=
  ⟨kline.open, kline.high, kline.low, kline.close, kline.preClose, kline.volume, kline.amount, kline.settelementPrice,
    kline.openInterest, kline.suspendFlag⟩

/-- The request that `EngineArchiveSession.offer` passes on. -/
def EngineArchiveSession.request (session : EngineArchiveSession) (stockCode : String) (candidate : ArchiveCandidate) :
    Option ArchiveRevision :=
  match session.uuid candidate.lineage.2 with
  | none => none
  | some streamId =>
    if h : 0 < session.generation ∧ 0 < candidate.lineage.1 ∧ 0 < candidate.sequence then
      if session.isInstrument stockCode ∧ session.generation ≤ 2 ^ 63 - 1 ∧ candidate.lineage.1 ≤ 2 ^ 63 - 1 ∧
          candidate.sequence ≤ 2 ^ 63 - 1 ∧ utc candidate.kline.time % 60000000 = 0 ∧
          1990 ≤ session.year (utc candidate.kline.time) ∧ session.year (utc candidate.kline.time) ≤ 2100 ∧
          candidate.kline.bar.valid then
        some ⟨⟨stockCode, utc candidate.kline.time, session.generation, candidate.lineage.1, streamId, candidate.sequence,
          candidate.sealed, h.1, h.2.1, h.2.2⟩, candidate.kline.bar⟩
      else none
    else none

end QuantX
