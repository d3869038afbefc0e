import QuantX.Lib.Window
import QuantX.Text
import Mathlib.Data.Rat.Defs

/-! # The delta ring of a symbol

A bounded ring of the accepted ticks of one symbol and the slices that a consumer takes from it. A change of
generation, a gap, an overwrite or too much lag yields a slice that says so and a cursor to replay from. -/

namespace QuantX
open Lib

structure OpportunitySample where
  (instrumentCode tradeDate : String)
  (sourceTimeMs tickOrdinal : Nat)
  price : Rat
  continuityGeneration : String := "0"
  receivedAtMs : Option Int := none
  bidPrice : Option Rat := none
  askPrice : Option Rat := none
  bidVolume : Option Rat := none
  askVolume : Option Rat := none
  cumulativeAmount : Option Rat := none
  cumulativeVolume : Option Rat := none
  priceTick : Rat := 1 / 100
  instrument_ne : instrumentCode ≠ ""
  tradeDate_ne : tradeDate ≠ ""
  generation_ne : continuityGeneration ≠ ""

def T_ASSISTANT_DELTA_RING_CAPACITY : Nat := 4096
def T_ASSISTANT_DELTA_RING_WINDOW_MS : Int := 600000
def T_ASSISTANT_REDUCER_MAX_LAG_TICKS : Nat := 512
def T_ASSISTANT_REDUCER_MAX_LAG_MS : Int := 2000
def T_ASSISTANT_FUTURE_TIMESTAMP_SKEW_MS : Int := 5000

def T_MARKET_STREAM_NOT_READY : String := "T_MARKET_STREAM_NOT_READY"
def T_MARKET_GENERATION_CHANGED : String := "T_MARKET_GENERATION_CHANGED"
def T_MARKET_SEQUENCE_GAP : String := "T_MARKET_SEQUENCE_GAP"
def T_MARKET_RING_OVERFLOW : String := "T_MARKET_RING_OVERFLOW"
def T_REDUCER_LAG_EXCEEDED : String := "T_REDUCER_LAG_EXCEEDED"
def T_REWARM_REQUIRED : String := "T_REWARM_REQUIRED"
def T_MARKET_FUTURE_TIMESTAMP : String := "T_MARKET_FUTURE_TIMESTAMP"

inductive TickAcceptance where
  | accepted
  | duplicate
  | outOfOrder
  | futureTimestamp
  deriving DecidableEq

inductive SymbolDeltaCoverage where
  | ready
  | streamNotReady
  | generationChanged
  | sequenceGap
  | ringOverflow
  | reducerLagExceeded
  deriving DecidableEq

def SymbolDeltaCoverage.value : SymbolDeltaCoverage → String
  | ready => "READY"
  | streamNotReady => T_MARKET_STREAM_NOT_READY
  | generationChanged => T_MARKET_GENERATION_CHANGED
  | sequenceGap => T_MARKET_SEQUENCE_GAP
  | ringOverflow => T_MARKET_RING_OVERFLOW
  | reducerLagExceeded => T_REDUCER_LAG_EXCEEDED

def SymbolDeltaCoverage.requiresRewarm (coverage : SymbolDeltaCoverage) : Bool := coverage ≠ ready

structure TMarketSourceIdentity where
  continuityGeneration : String
  (sourceTimeMs tickOrdinal : Nat)
  deriving DecidableEq

def TMarketSourceIdentity.before (x y : TMarketSourceIdentity) : Prop :=
  x.continuityGeneration < y.continuityGeneration ∨
    (x.continuityGeneration = y.continuityGeneration ∧
      (x.sourceTimeMs < y.sourceTimeMs ∨ (x.sourceTimeMs = y.sourceTimeMs ∧ x.tickOrdinal < y.tickOrdinal)))

instance (x y : TMarketSourceIdentity) : Decidable (x.before y) := by
  unfold TMarketSourceIdentity.before
  infer_instance

def OpportunitySample.sourceIdentity (sample : OpportunitySample) : TMarketSourceIdentity :=
  ⟨sample.continuityGeneration, sample.sourceTimeMs, sample.tickOrdinal⟩

inductive TickDiscontinuity where
  | generationChanged
  | sequenceGap
  deriving DecidableEq

def TickDiscontinuity.value : TickDiscontinuity → String
  | generationChanged => T_MARKET_GENERATION_CHANGED
  | sequenceGap => T_MARKET_SEQUENCE_GAP

structure AcceptedTMarketTick where
  streamId : String
  (acceptedSequence receivedAtMs : Nat)
  sample : OpportunitySample
  discontinuityReason : Option TickDiscontinuity := none
  marketFenceSequence : Nat := acceptedSequence
  stream_ne : streamId ≠ ""
  sequence_pos : 1 ≤ acceptedSequence
  fence_pos : 1 ≤ marketFenceSequence

structure SymbolMarketCursor where
  (streamId continuityGeneration : String)
  (ringGeneration acceptedSequence : Nat)
  sourceIdentity : Option TMarketSourceIdentity := none
  deriving DecidableEq

structure SymbolMarketCursor.Valid (cursor : SymbolMarketCursor) : Prop where
  stream : cursor.streamId ≠ ""
  continuity : cursor.continuityGeneration ≠ ""
  ring : 1 ≤ cursor.ringGeneration

structure TickAcceptanceResult where
  acceptance : TickAcceptance
  reason : Option String
  ringGeneration : Nat

structure DeltaSliceManifest where
  instrumentCode : String
  coverage : SymbolDeltaCoverage
  reasonCodes : List String
  fromCursor : Option SymbolMarketCursor
  nextCursor : SymbolMarketCursor
  ticks : List AcceptedTMarketTick

structure SymbolMarketDeltaSlice extends DeltaSliceManifest where
  (fromAcceptedSequenceExclusive toAcceptedSequenceInclusive : Nat)
  manifestHash : String

structure SymbolMarketDeltaRing where
  instrumentCode : String
  ticks : List AcceptedTMarketTick := []
  streamId : String := ""
  continuityGeneration : String := ""
  ringGeneration : Nat := 1
  lastSequence : Nat := 0
  lastIdentity : Option TMarketSourceIdentity := none
  discontinuityReason : Option TickDiscontinuity := none

namespace SymbolMarketDeltaRing

def new (instrumentCode : String) (initialRingGeneration : Nat) : Except String SymbolMarketDeltaRing :=
  let code := upperText (stripText instrumentCode)
  if code = "" then .error "symbol delta ring requires instrument_code"
  else if initialRingGeneration < 1 then .error "symbol delta ring generation must be positive"
  else .ok { instrumentCode := code, ringGeneration := initialRingGeneration }

variable (self : SymbolMarketDeltaRing)

def resetForDiscontinuity (reason : TickDiscontinuity) : SymbolMarketDeltaRing :=
  { self with
    ticks := [], ringGeneration := self.ringGeneration + 1, lastSequence := 0, lastIdentity := none
    discontinuityReason := some reason }

/-- `_prune`: the oldest ticks give way to the capacity and to the window. -/
def pruned (ticks : List AcceptedTMarketTick) (latestSourceTimeMs : Nat) : List AcceptedTMarketTick :=
  (recent T_ASSISTANT_DELTA_RING_CAPACITY ticks).dropWhile fun tick =>
    (tick.sample.sourceTimeMs : Int) < latestSourceTimeMs - T_ASSISTANT_DELTA_RING_WINDOW_MS

def follow (tick : AcceptedTMarketTick) : SymbolMarketDeltaRing :=
  let generation := tick.sample.continuityGeneration
  let ring := match tick.discontinuityReason with
    | some reason => self.resetForDiscontinuity reason
    | none =>
      if self.streamId ≠ "" ∧ (tick.streamId ≠ self.streamId ∨ generation ≠ self.continuityGeneration) then
        self.resetForDiscontinuity .generationChanged
      else self
  { ring with streamId := tick.streamId, continuityGeneration := generation }

def acceptance (tick : AcceptedTMarketTick) : TickAcceptance :=
  match self.lastIdentity with
  | none => .accepted
  | some last =>
    if tick.sample.sourceIdentity = last then .duplicate
    else if tick.sample.sourceIdentity.before last ∨ tick.acceptedSequence ≤ self.lastSequence then .outOfOrder
    else .accepted

def push (tick : AcceptedTMarketTick) : SymbolMarketDeltaRing :=
  { self with
    ticks := pruned (self.ticks ++ [tick]) tick.sample.sourceTimeMs, lastSequence := tick.acceptedSequence
    lastIdentity := some tick.sample.sourceIdentity }

def accept (tick : AcceptedTMarketTick) (captureTimeMs : Int) :
    Except String (TickAcceptanceResult × SymbolMarketDeltaRing) :=
  if tick.sample.instrumentCode ≠ self.instrumentCode then .error "accepted Tick does not belong to symbol ring"
  else if captureTimeMs + T_ASSISTANT_FUTURE_TIMESTAMP_SKEW_MS < tick.sample.sourceTimeMs then
    .ok (⟨.futureTimestamp, some T_MARKET_FUTURE_TIMESTAMP, self.ringGeneration⟩, self)
  else
    let ring := self.follow tick
    match ring.acceptance tick with
    | .duplicate => .ok (⟨.duplicate, some "DUPLICATE_SOURCE_IDENTITY", ring.ringGeneration⟩, ring)
    | .accepted =>
      .ok (⟨.accepted, ring.discontinuityReason.map TickDiscontinuity.value, ring.ringGeneration⟩, ring.push tick)
    | _ => .ok (⟨.outOfOrder, some "OUT_OF_ORDER_SOURCE_IDENTITY", ring.ringGeneration⟩, ring)

def covers (throughAcceptedSequence : Option Int) (tick : AcceptedTMarketTick) : Bool :=
  throughAcceptedSequence.all fun through => (tick.marketFenceSequence : Int) ≤ through

/-- `eligible_ticks`. -/
def eligible (throughAcceptedSequence : Option Int) : List AcceptedTMarketTick :=
  self.ticks.filter (covers throughAcceptedSequence)

/-- `_rewarm_cursor`: a base to replay from. -/
def rewarmCursor (eligibleTicks : List AcceptedTMarketTick) (targetSequence : Nat) : SymbolMarketCursor :=
  { streamId := self.streamId, continuityGeneration := self.continuityGeneration, ringGeneration := self.ringGeneration
    acceptedSequence := (eligibleTicks.head?.map (·.acceptedSequence - 1)).getD targetSequence }

section Slices
variable (hash : DeltaSliceManifest → String)

def slice (cursor : Option SymbolMarketCursor) (nextCursor : SymbolMarketCursor) (coverage : SymbolDeltaCoverage)
    (ticks : List AcceptedTMarketTick) : SymbolMarketDeltaSlice :=
  let manifest : DeltaSliceManifest :=
    { instrumentCode := self.instrumentCode, coverage
      reasonCodes := if coverage = .ready then [] else [coverage.value, T_REWARM_REQUIRED], fromCursor := cursor
      nextCursor, ticks }
  { toDeltaSliceManifest := manifest, fromAcceptedSequenceExclusive := (cursor.map (·.acceptedSequence)).getD 0
    toAcceptedSequenceInclusive := nextCursor.acceptedSequence, manifestHash := hash manifest }

def discontinuitySlice (cursor : Option SymbolMarketCursor) (coverage : SymbolDeltaCoverage) : SymbolMarketDeltaSlice :=
  let nextCursor : SymbolMarketCursor :=
    { streamId := if self.streamId = "" then (cursor.map (·.streamId)).getD "unavailable" else self.streamId
      continuityGeneration :=
        if self.continuityGeneration = "" then (cursor.map (·.continuityGeneration)).getD "unavailable"
        else self.continuityGeneration
      ringGeneration := self.ringGeneration, acceptedSequence := self.lastSequence
      sourceIdentity := self.lastIdentity }
  self.slice hash cursor nextCursor coverage []

def nextCursor (cursor : Option SymbolMarketCursor) (eligibleTicks : List AcceptedTMarketTick) : SymbolMarketCursor :=
  { streamId := self.streamId, continuityGeneration := self.continuityGeneration, ringGeneration := self.ringGeneration
    acceptedSequence :=
      (eligibleTicks.getLast?.map (·.acceptedSequence)).getD ((cursor.map (·.acceptedSequence)).getD 0)
    sourceIdentity :=
      (eligibleTicks.getLast?.map fun tick => some tick.sample.sourceIdentity).getD (cursor.bind (·.sourceIdentity)) }

def lagging (pending : List AcceptedTMarketTick) (decisionTimeMs : Int) : Bool :=
  match pending with
  | [] => false
  | first :: _ =>
    T_ASSISTANT_REDUCER_MAX_LAG_TICKS < pending.length ||
      T_ASSISTANT_REDUCER_MAX_LAG_MS < max 0 (decisionTimeMs - first.receivedAtMs)

def ownSlice (cursor : Option SymbolMarketCursor) (decisionTimeMs : Int) (eligibleTicks : List AcceptedTMarketTick)
    (targetSequence : Nat) (rewarmReplay : Bool) : SymbolMarketDeltaSlice :=
  let cursorSequence : Nat := (cursor.map (·.acceptedSequence)).getD 0
  let pending := eligibleTicks.filter fun tick => cursorSequence < tick.acceptedSequence
  if cursor.isSome ∧ (eligibleTicks.head?.any fun oldest => (cursorSequence : Int) < oldest.acceptedSequence - 1) then
    self.slice hash cursor (self.rewarmCursor eligibleTicks targetSequence) .ringOverflow []
  else if rewarmReplay = false ∧ lagging pending decisionTimeMs then
    self.slice hash cursor (self.rewarmCursor eligibleTicks targetSequence) .reducerLagExceeded []
  else self.slice hash cursor (self.nextCursor cursor eligibleTicks) .ready pending

def sliceAfter (cursor : Option SymbolMarketCursor) (decisionTimeMs : Int) (throughAcceptedSequence : Option Int)
    (rewarmReplay : Bool) : SymbolMarketDeltaSlice :=
  if self.streamId = "" ∨ self.continuityGeneration = "" then self.discontinuitySlice hash cursor .streamNotReady
  else
    let eligibleTicks := self.eligible throughAcceptedSequence
    let targetSequence := (eligibleTicks.getLast?.map (·.acceptedSequence)).getD
      ((cursor.map (·.acceptedSequence)).getD self.lastSequence)
    match cursor with
    | some position =>
      if position.streamId ≠ self.streamId ∨ position.continuityGeneration ≠ self.continuityGeneration then
        self.slice hash cursor (self.rewarmCursor eligibleTicks targetSequence) .generationChanged []
      else if position.ringGeneration ≠ self.ringGeneration then
        let coverage := if self.discontinuityReason = some .sequenceGap then .sequenceGap else .generationChanged
        self.slice hash cursor (self.rewarmCursor eligibleTicks targetSequence) coverage []
      else self.ownSlice hash cursor decisionTimeMs eligibleTicks targetSequence rewarmReplay
    | none => self.ownSlice hash cursor decisionTimeMs eligibleTicks targetSequence rewarmReplay

end Slices
end SymbolMarketDeltaRing

structure DeltaWorld where
  ring : SymbolMarketDeltaRing
  cursor : Option SymbolMarketCursor := none

inductive DeltaOp where
  | accept (tick : AcceptedTMarketTick) (captureTimeMs : Int)
  | slice (decisionTimeMs : Int) (throughAcceptedSequence : Option Int) (rewarmReplay : Bool)

def DeltaWorld.step (hash : DeltaSliceManifest → String) (w : DeltaWorld) : DeltaOp → DeltaWorld
  | .accept tick captureTimeMs =>
    match w.ring.accept tick captureTimeMs with
    | .ok (_, ring) => { w with ring }
    | .error _ => w
  | .slice decisionTimeMs throughAcceptedSequence rewarmReplay =>
    { w with
      cursor := some (w.ring.sliceAfter hash w.cursor decisionTimeMs throughAcceptedSequence rewarmReplay).nextCursor }

end QuantX
