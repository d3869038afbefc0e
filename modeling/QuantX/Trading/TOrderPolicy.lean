import QuantX.TTrade.PortfolioSnapshot

/-! # Order policies of a positive T

Prices are decimals under the default context. A `datetime` is its wall clock in microseconds with its offset from UTC,
if it has one; the rules of the exchange's time zone are those of the host. -/

namespace QuantX
open Lib

/-- A `datetime`. -/
structure ClockTime where
  wall : Int
  utcOffset : Option Int := none
  deriving DecidableEq, Repr

structure ZoneInfo where
  (toWall toInstant : Int → Int)

inductive TOrderPolicyDecision where
  | allowNew
  | allowReplace
  | waitAuthoritativeTerminal
  | expired
  | cutoff
  | replaceLimitReached
  deriving DecidableEq, Repr

structure TOrderPolicyResult where
  decision : TOrderPolicyDecision
  reasonCode : String
  limitPrice : Option Rat := none
  remainingVolume : Int := 0

def TOrderPolicyResult.allowed (result : TOrderPolicyResult) : Bool :=
  result.decision = .allowNew || result.decision = .allowReplace

inductive TOrderSide where
  | buy
  | sell
  deriving DecidableEq, Repr

structure PriceInputs where
  (referencePrice priceTick : Option Rat)
  limitUp : Option Rat := none
  limitDown : Option Rat := none
  cageUpper : Option Rat := none
  cageLower : Option Rat := none

namespace TOrderPolicy

def positiveDecimal (value : Option Rat) (reason : String) : Except String Rat :=
  if value.getD 0 ≤ 0 then .error reason else .ok (value.getD 0)

def roundToTick (value tick : Rat) (upward : Bool) : Rat :=
  let ticks := if upward then (dec (value / tick)).ceil else (dec (value / tick)).floor
  dec (ticks * tick)

def dayMicros : Int := 24 * 60 * 60 * 1000000

def cutoffMicros : Int := (14 * 60 + 50) * 60 * 1000000

/-- `_exchange_time`: the microseconds since midnight. -/
def exchangeTime (zone : ZoneInfo) (value : ClockTime) : Int :=
  match value.utcOffset with
  | none => value.wall % dayMicros
  | some offset => zone.toWall (value.wall - offset) % dayMicros

def instant (zone : ZoneInfo) (value : ClockTime) : Int :=
  match value.utcOffset with
  | none => zone.toInstant value.wall
  | some offset => value.wall - offset

def timeBetween (zone : ZoneInfo) (later earlier : ClockTime) : Int :=
  if later.utcOffset = none ∧ earlier.utcOffset = none then later.wall - earlier.wall
  else instant zone later - instant zone earlier

/-- `_elapsed_seconds`, in microseconds. -/
def elapsedMicros (zone : ZoneInfo) (later earlier : ClockTime) : Int := max 0 (timeBetween zone later earlier)

def givenBounds (bounds : List (Option Rat)) : List Rat := bounds.filterMap fun bound => bound.filter (0 < ·)

end TOrderPolicy

/-- `_TOrderPolicy`, with the check that both versions make of their fields. -/
structure TOrderPolicy where
  version : String
  side : TOrderSide
  (maxSlippageBps orderTtlSeconds maxReplaceCount totalTtlSeconds : Int)
  frozen : (version, side, maxSlippageBps, orderTtlSeconds, maxReplaceCount, totalTtlSeconds) =
      ("TEntryOrderPolicy.v1", .buy, 30, 30, 1, 60) ∨
    (version, side, maxSlippageBps, orderTtlSeconds, maxReplaceCount, totalTtlSeconds) =
      ("TExitOrderPolicy.v1", .sell, 30, 30, 2, 90)

def tEntryOrderPolicy : TOrderPolicy := ⟨"TEntryOrderPolicy.v1", .buy, 30, 30, 1, 60, .inl rfl⟩

def tExitOrderPolicy : TOrderPolicy := ⟨"TExitOrderPolicy.v1", .sell, 30, 30, 2, 90, .inr rfl⟩

/-- The arguments of `decide_replace` but for the prices. -/
structure ReplaceRequest where
  (now originalCreatedAt : ClockTime)
  (replaceCount requestedVolume authoritativeFilledVolume : Int)
  (priorOrderAuthoritativeTerminal resultUnknown cancelUnconfirmed : Bool)
  priorOrderCreatedAt : Option ClockTime := none

namespace TOrderPolicy
variable (zone : ZoneInfo) (policy : TOrderPolicy) (prices : PriceInputs)

def slippageBound (reference : Rat) : Rat :=
  let bps := dec (policy.maxSlippageBps / 10000)
  match policy.side with
  | .buy => dec (reference * dec (1 + bps))
  | .sell => dec (reference * dec (1 - bps))

def protectedLimitPrice : Except String Rat := do
  let reference ← positiveDecimal prices.referencePrice "T_ORDER_REFERENCE_PRICE_INVALID"
  let tick ← positiveDecimal prices.priceTick "T_ORDER_PRICE_TICK_INVALID"
  let value := policy.slippageBound reference
  match policy.side with
  | .buy => return roundToTick ((givenBounds [prices.limitUp, prices.cageUpper]).foldl min value) tick false
  | .sell => return roundToTick ((givenBounds [prices.limitDown, prices.cageLower]).foldl max value) tick true

def afterCutoff (now : ClockTime) : Bool := policy.side = .buy && cutoffMicros ≤ exchangeTime zone now

def decideNew (now : ClockTime) : Except String TOrderPolicyResult := do
  if policy.afterCutoff zone now then return { decision := .cutoff, reasonCode := "T_ENTRY_CUTOFF_REACHED" }
  let price ← policy.protectedLimitPrice prices
  return { decision := .allowNew, reasonCode := policy.version ++ "_NEW_ALLOWED", limitPrice := some price }

def expiredResult : TOrderPolicyResult where
  decision := .expired
  reasonCode := if policy.side = .buy then "T_ENTRY_ORDER_EXPIRED" else "T_EXIT_ORDER_EXPIRED"

def decideReplace (request : ReplaceRequest) : Except String TOrderPolicyResult := do
  if request.resultUnknown then
    return { decision := .waitAuthoritativeTerminal, reasonCode := "ORDER_RESULT_UNKNOWN" }
  if request.cancelUnconfirmed || !request.priorOrderAuthoritativeTerminal then
    return { decision := .waitAuthoritativeTerminal, reasonCode := "ORDER_CANCEL_UNCONFIRMED" }
  if policy.totalTtlSeconds * 1000000 ≤ elapsedMicros zone request.now request.originalCreatedAt then return policy.expiredResult
  if policy.afterCutoff zone request.now then return { decision := .cutoff, reasonCode := "T_ENTRY_CUTOFF_REACHED" }
  if policy.maxReplaceCount ≤ max 0 request.replaceCount then
    return { decision := .replaceLimitReached, reasonCode := "ORDER_REPLACE_LIMIT_REACHED" }
  if elapsedMicros zone request.now (request.priorOrderCreatedAt.getD request.originalCreatedAt) < policy.orderTtlSeconds * 1000000 then
    return {
      decision := .waitAuthoritativeTerminal
      reasonCode := if policy.side = .buy then "T_ENTRY_ORDER_ACTIVE" else "T_EXIT_ORDER_ACTIVE" }
  let remaining := max 0 (request.requestedVolume - max 0 request.authoritativeFilledVolume)
  if remaining ≤ 0 then return policy.expiredResult
  let price ← policy.protectedLimitPrice prices
  return {
    decision := .allowReplace, reasonCode := policy.version ++ "_REPLACE_ALLOWED", limitPrice := some price
    remainingVolume := remaining }

end TOrderPolicy
end QuantX
