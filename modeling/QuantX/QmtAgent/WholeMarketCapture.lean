import QuantX.Lib.PyVal
import QuantX.Text
import Mathlib.Algebra.Order.Ring.Rat

/-! # Whole-market capture

The callback of the native subscription numbers every update, keeps the latest ticks and queues updates for a READY
consumer. Every operation holds the lock, so it is one step. Values are immutable here, so the copies of the source are
the values themselves. Times are in microseconds, readings of the monotonic clock rationals. -/

namespace QuantX
open Lib

def MIN_CAPTURED_MARKET_EVENT_ESTIMATED_BYTES : Nat := 1024

def shanghaiDate (instant : Int) : Int := (instant + 28800000000) / 86400000000

structure Clock where
  now : Int
  monotonic : Rat
  deriving DecidableEq

inductive WholeMarketCaptureError where
  | invalidated (reason : String)
  | overflow (reason : String)
  | noLoop
  deriving DecidableEq

structure CapturedMarketEvent where
  captureSequence : Nat
  capturedAt : Int
  capturedMonotonic : Rat
  data : Dict String PyVal
  estimatedBytes : Nat

structure WholeMarketSnapshot where
  captureWatermark : Nat
  data : Dict String PyVal
  captureSequences : Dict String Nat
  capturedMonotonic : Dict String Rat

structure LatestTick where
  captureSequence : Nat
  capturedAt : Int
  capturedMonotonic : Rat
  value : PyVal

structure CaptureLimits where
  (maxReadyCallbacks maxReadyEstimatedBytes estimatedTickBytes : Nat)
  callbacks_pos : 1 ≤ maxReadyCallbacks
  bytes_pos : 1 ≤ maxReadyEstimatedBytes
  tick_pos : 1 ≤ estimatedTickBytes

structure WholeMarketCapture where
  limits : CaptureLimits
  latest : Dict String LatestTick := .empty
  readyEvents : List CapturedMarketEvent := []
  readyEstimatedBytes : Nat := 0
  captureSequence : Nat := 0
  ready : Bool := false
  invalidationReason : String := ""
  invalidationIsOverflow : Bool := false
  /-- A loop is bound, so there is an event to wait on. -/
  bound : Bool := false
  callbackCount : Nat := 0
  syncMergedCallbacks : Nat := 0
  lastCallbackMonotonic : Rat := 0

/-- `_normalize_data`: codes stripped and in upper case, blank ones dropped. -/
def normalizeData : PyVal → Dict String PyVal
  | .dict fields => fields.foldl
      (fun normalizedData field =>
        let normalized := upperText (stripText field.1)
        if normalized = "" then normalizedData else normalizedData.set normalized field.2)
      .empty
  | _ => .empty

/-- What `n` instruments are estimated to take. -/
def CaptureLimits.estimate (limits : CaptureLimits) (n : Nat) : Nat :=
  max MIN_CAPTURED_MARKET_EVENT_ESTIMATED_BYTES (n * limits.estimatedTickBytes)

namespace WholeMarketCapture
variable (self : WholeMarketCapture)

def bindLoop : WholeMarketCapture := { self with bound := true }
def unbindLoop : WholeMarketCapture := { self with bound := false }

/-- `_invalidation_exception_locked`. -/
def invalidation : Option WholeMarketCaptureError :=
  if self.invalidationReason = "" then none
  else if self.invalidationIsOverflow then some (.overflow self.invalidationReason)
  else some (.invalidated self.invalidationReason)

def dropReady : WholeMarketCapture := { self with ready := false, readyEvents := [], readyEstimatedBytes := 0 }

def overflowReason (depth projected : Nat) : String :=
  "whole-market READY ingress overflow: depth=" ++ toString depth ++ " projected_estimated_bytes=" ++
    toString projected ++ " max_callbacks=" ++ toString self.limits.maxReadyCallbacks ++ " max_estimated_bytes=" ++
    toString self.limits.maxReadyEstimatedBytes

def tick (clock : Clock) (value : PyVal) : LatestTick :=
  { captureSequence := self.captureSequence + 1, capturedAt := clock.now, capturedMonotonic := clock.monotonic, value }

def merge (clock : Clock) (normalized : Dict String PyVal) : WholeMarketCapture :=
  { self with
    captureSequence := self.captureSequence + 1, callbackCount := self.callbackCount + 1
    lastCallbackMonotonic := clock.monotonic, latest := self.latest.update (normalized.map (self.tick clock)).entries }

def event (clock : Clock) (normalized : Dict String PyVal) : CapturedMarketEvent :=
  { captureSequence := self.captureSequence + 1, capturedAt := clock.now, capturedMonotonic := clock.monotonic
    data := normalized, estimatedBytes := self.limits.estimate normalized.entries.length }

def capture (clock : Clock) (data : PyVal) : WholeMarketCapture :=
  let normalized := normalizeData data
  if normalized.entries = [] then self
  else
    let event := self.event clock normalized
    let merged := self.merge clock normalized
    let projected := self.readyEstimatedBytes + event.estimatedBytes
    if self.ready = false then { merged with syncMergedCallbacks := self.syncMergedCallbacks + 1 }
    else if self.limits.maxReadyCallbacks ≤ self.readyEvents.length ∨ self.limits.maxReadyEstimatedBytes < projected then
      { merged.dropReady with
        invalidationReason := self.overflowReason self.readyEvents.length projected, invalidationIsOverflow := true }
    else { merged with readyEvents := self.readyEvents ++ [event], readyEstimatedBytes := projected }

def beginSyncing : WholeMarketCapture :=
  { self.dropReady with invalidationReason := "", invalidationIsOverflow := false }

def forceResync (reason : String) : WholeMarketCapture :=
  { self.dropReady with
    invalidationReason := if reason = "" then "whole-market capture invalidated" else reason
    invalidationIsOverflow := false }

def resetSource (reason : String) : WholeMarketCapture :=
  { self.dropReady with
    latest := .empty, invalidationReason := if reason = "" then "whole-market source reset" else reason
    invalidationIsOverflow := false }

def included (tradingDate : Option Int) : Dict String LatestTick :=
  self.latest.filter fun e => tradingDate.all (shanghaiDate e.2.capturedAt = ·)

def latestSnapshot (tradingDate : Option Int) : WholeMarketSnapshot :=
  let included := self.included tradingDate
  { captureWatermark := self.captureSequence, data := included.map (·.value)
    captureSequences := included.map (·.captureSequence), capturedMonotonic := included.map (·.capturedMonotonic) }

/-- `_converged_event_locked`. -/
def convergedEvent (clock : Clock) (afterSequence : Nat) (tradingDate : Option Int) : CapturedMarketEvent :=
  let newer := (self.included tradingDate).filter fun e => afterSequence < e.2.captureSequence
  let monotonic := (newer.values.map (·.capturedMonotonic)).min?
  { captureSequence := self.captureSequence, capturedAt := (newer.values.map (·.capturedAt)).min?.getD clock.now
    -- A reading of zero counts as none.
    capturedMonotonic := if monotonic = some 0 then clock.monotonic else monotonic.getD clock.monotonic
    data := newer.map (·.value), estimatedBytes := self.limits.estimate newer.entries.length }

def activateReady (clock : Clock) (afterSequence : Nat) (tradingDate : Option Int) :
    Except WholeMarketCaptureError (CapturedMarketEvent × WholeMarketCapture) :=
  match self.invalidation with
  | some error => .error error
  | none =>
    .ok (self.convergedEvent clock afterSequence tradingDate,
      { self with readyEvents := [], readyEstimatedBytes := 0, ready := true })

/-- One turn of the loop of `next_ready_event`: an event, or nothing yet. -/
def nextReadyEvent : Except WholeMarketCaptureError (Option CapturedMarketEvent × WholeMarketCapture) :=
  match self.invalidation with
  | some error => .error error
  | none =>
    match self.readyEvents with
    | event :: rest =>
      .ok (some event,
        { self with readyEvents := rest, readyEstimatedBytes := self.readyEstimatedBytes - event.estimatedBytes })
    | [] => if self.bound then .ok (none, self) else .error .noLoop

end WholeMarketCapture

inductive CaptureSession where
  | idle
  | syncing
  | copied (snapshot : WholeMarketSnapshot)
  | refused (snapshot : WholeMarketSnapshot) (error : WholeMarketCaptureError)
  | ready (snapshot : WholeMarketSnapshot) (converged : CapturedMarketEvent) (events : List CapturedMarketEvent)
  | stopped (snapshot : WholeMarketSnapshot) (converged : CapturedMarketEvent) (events : List CapturedMarketEvent)
      (error : WholeMarketCaptureError)

structure CaptureWorld where
  capture : WholeMarketCapture
  session : CaptureSession := .idle

inductive CaptureOp where
  | capture (clock : Clock) (data : PyVal)
  | forceResync (reason : String)
  | resetSource (reason : String)
  | bindLoop
  | unbindLoop
  /-- The consumer begins a session, also in the middle of one. -/
  | begin
  /-- The consumer takes the next step of its session. -/
  | advance (clock : Clock)

namespace CaptureWorld

def begin (w : CaptureWorld) : CaptureWorld := { capture := w.capture.beginSyncing, session := .syncing }

/-- The consumer copies the latest state, cuts over to the queue, then reads one event after another until a call
    raises. -/
def advance (w : CaptureWorld) (clock : Clock) : CaptureWorld :=
  match w.session with
  | .idle => w
  | .syncing => { w with session := .copied (w.capture.latestSnapshot none) }
  | .copied snapshot =>
    match w.capture.activateReady clock snapshot.captureWatermark none with
    | .ok (converged, capture) => { capture, session := .ready snapshot converged [] }
    | .error error => { w with session := .refused snapshot error }
  | .ready snapshot converged events =>
    match w.capture.nextReadyEvent with
    | .ok (some event, capture) => { capture, session := .ready snapshot converged (events ++ [event]) }
    | .ok (none, capture) => { capture, session := .ready snapshot converged events }
    | .error error => { w with session := .stopped snapshot converged events error }
  | .refused .. => w
  | .stopped .. => w

def step (w : CaptureWorld) : CaptureOp → CaptureWorld
  | .capture clock data => { w with capture := w.capture.capture clock data }
  | .forceResync reason => { w with capture := w.capture.forceResync reason }
  | .resetSource reason => { w with capture := w.capture.resetSource reason }
  | .bindLoop => { w with capture := w.capture.bindLoop }
  | .unbindLoop => { w with capture := w.capture.unbindLoop }
  | .begin => w.begin
  | .advance clock => w.advance clock

end CaptureWorld
end QuantX
