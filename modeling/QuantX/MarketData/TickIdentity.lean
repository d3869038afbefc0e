import QuantX.Lib.Groups
import QuantX.Lib.Occurrences
import QuantX.Lib.PyEq
import QuantX.Lib.Require
import QuantX.Text
import QuantX.Trading.BucketLedger
import Mathlib.Data.Sum.Order

/-! # Identity, order and storage times of ticks

Ticks of one stock and period share a source millisecond; they are told apart by what a snapshot says, ordered by it,
and stored one microsecond apart. Floats are exact, and a time is the instant that it stands for, in microseconds. -/

namespace QuantX
open Lib

def HISTORICAL_TICK_ORDINALS_PER_MILLISECOND : Nat := 1000

inductive PyFloat where
  | finite (q : Rat)
  | nan
  | inf (negative : Bool)
  deriving DecidableEq, Repr

inductive TickScalar where
  | none
  | bool (b : Bool)
  | int (n : Int)
  | float (x : PyFloat)
  | str (s : String)
  deriving DecidableEq, Repr

inductive TickValue where
  | scalar (value : TickScalar)
  | list (items : List TickScalar)
  deriving DecidableEq, Repr

structure Tick where
  attributes : Dict String TickValue
  time : Option Int

structure TickHost where
  (strOf reprOf : TickValue → String)
  floatOf : String → Option PyFloat
  decimalOf : String → Option (Rat ⊕ String)
  dumps : PyVal → String

def tickDefaults : Dict String TickValue := .ofList [
  ("price_tick", .scalar (.float (.finite (1 / 100)))),
  ("up_stop_price", .scalar (.float (.finite 0))),
  ("down_stop_price", .scalar (.float (.finite 0))),
  ("source_time_ms", .scalar (.int 0)),
  ("tick_ordinal", .scalar (.int 0)),
  ("continuity_generation", .scalar (.int 0)),
  ("market_stream_id", .scalar (.str "")),
  ("market_stream_sequence", .scalar (.int 0)),
  ("market_stream_reset", .scalar (.bool false))]

/-- `_tick_fields`, but for the time. -/
def Tick.fields (tick : Tick) : Dict String TickValue := tickDefaults.update tick.attributes.entries

/-- `getattr(tick, name, default)`. -/
def Tick.get (tick : Tick) (name : String) (default : TickValue) : TickValue := tick.fields.getD name default

def canonicalNumber (q : Rat) : PyVal := if q.den = 1 then .int q.num else .float q

def canonicalFloat : PyFloat → PyVal
  | .finite q => canonicalNumber q
  | .nan => .dict [("$float", .str "nan")]
  | .inf negative => .dict [("$float", .str (if negative then "-inf" else "inf"))]

def canonicalScalar : TickScalar → PyVal
  | .none => .none
  | .bool b => .bool b
  | .int n => .int n
  | .float x => canonicalFloat x
  | .str s => .str s

def canonicalValue : TickValue → PyVal
  | .scalar value => canonicalScalar value
  | .list items => .list (items.map canonicalScalar)

section Host
variable (host : TickHost)

/-- `float(value)`, where that is a number. -/
def floatScalar : TickScalar → Option PyFloat
  | .none => none
  | .bool b => some (.finite (if b then 1 else 0))
  | .int n => some (.finite n)
  | .float x => some x
  | .str s => host.floatOf s

/-- `_rounded_market_value` of a scalar. -/
def roundedMarketScalar (value : TickScalar) (digits : Nat) : PyVal :=
  match floatScalar host value with
  | some (.finite q) => canonicalNumber (roundHalfEven (q * 10 ^ digits) / 10 ^ digits)
  | _ => canonicalScalar value

def roundedMarketValue (digits : Nat) : TickValue → PyVal
  | .scalar value => roundedMarketScalar host value digits
  | .list items => canonicalValue (.list items)

/-- `_IDENTITY_FIELDS`, sorted. -/
def identityFields : List String :=
  ["amount", "ask_price", "ask_vol", "bid_price", "bid_vol", "high", "last_close", "last_price", "low", "open", "open_int", "period",
    "stock_code", "transaction_num", "volume"]

def identityScalarPrecision (name : String) : Option Nat :=
  Dict.lookup name [("last_price", 3), ("open", 3), ("high", 3), ("low", 3), ("last_close", 3), ("amount", 2), ("volume", 2)]

def identityListPrecision (name : String) : Option Nat :=
  Dict.lookup name [("ask_price", 3), ("bid_price", 3), ("ask_vol", 2), ("bid_vol", 2)]

def identityFieldValue (name : String) (value : TickValue) : PyVal :=
  match identityScalarPrecision name with
  | some digits => roundedMarketValue host digits value
  | none =>
    match identityListPrecision name, value with
    | some digits, .list items => .list (items.map fun item => roundedMarketScalar host item digits)
    | _, _ => canonicalValue value

namespace Tick
variable (tick : Tick)

/-- `tick_snapshot_identity`. -/
def snapshotIdentity : String :=
  host.dumps (.dict (identityFields.filterMap fun name =>
    (tick.fields.get? name).map fun value => (name, identityFieldValue host name value)))

def storageFields : List String := ["source_time_ms", "tick_ordinal"]

/-- `_full_snapshot_payload`, its fields by their names. -/
def fullSnapshotPayload : String :=
  host.dumps (.dict ((rankedEntries id (tick.fields.filter (·.1 ∉ storageFields))).map fun field => (field.1, canonicalValue field.2)))

def statedSourceTimeMs : Except String (Option Int) :=
  let value := tick.get "source_time_ms" (.scalar .none)
  let invalid : Except String (Option Int) := .error ("invalid Tick source_time_ms: " ++ host.reprOf value)
  let ofFloat : Option PyFloat → Except String (Option Int)
    | none => invalid
    | some .nan => .ok none
    | some (.inf _) => invalid
    | some (.finite q) => if q = 0 then .ok none else if q.den = 1 ∧ 0 ≤ q then .ok (some q.num) else invalid
  match value with
  | .list _ => invalid
  | .scalar .none => .ok none
  | .scalar (.bool _) => invalid
  | .scalar (.str text) => if stripText text = "" ∨ stripText text = "0" then .ok none else ofFloat (host.floatOf text)
  | .scalar (.int n) => ofFloat (some (.finite n))
  | .scalar (.float x) => ofFloat (some x)

/-- `tick_source_time_ms`. -/
def sourceTimeMs : Except String Int := do
  match ← tick.statedSourceTimeMs host with
  | some ms => return ms
  | none =>
    match tick.time with
    | some time => return time / 1000
    | none => throw "Tick must contain a datetime time or integer source_time_ms"

end Tick

/-- `_numeric_order_key`: numbers before texts. -/
def numericOrderKey (value : TickValue) : Rat ⊕ₗ String :=
  let text := toLex (.inr (host.dumps (canonicalValue value)))
  match value with
  | .scalar (.int n) => toLex (.inl n)
  | .scalar (.float (.finite q)) => toLex (.inl q)
  | .scalar (.float .nan) => toLex (.inr "NaN")
  | .scalar (.float (.inf negative)) => toLex (.inr (if negative then "-Infinity" else "Infinity"))
  | .scalar (.str s) => match host.decimalOf s with
    | some number => toLex number
    | none => text
  | _ => text

def integerOf : TickValue → Option Int
  | .scalar (.int n) => some n
  | .scalar (.float (.finite q)) => if q.den = 1 then some q.num else none
  | _ => none

def authoritativeOrdinal (tick : Tick) : Nat ×ₗ Int :=
  match integerOf (tick.get "source_time_ms" (.scalar .none)), integerOf (tick.get "tick_ordinal" (.scalar .none)) with
  | some sourceTimeMs, some ordinal =>
    if 0 < sourceTimeMs ∧ 0 ≤ ordinal ∧ ordinal < HISTORICAL_TICK_ORDINALS_PER_MILLISECOND then toLex (0, ordinal) else toLex (1, 0)
  | _, _ => toLex (1, 0)

abbrev SnapshotOrderKey := (Rat ⊕ₗ String) ×ₗ (Rat ⊕ₗ String) ×ₗ (Rat ⊕ₗ String) ×ₗ String ×ₗ (Nat ×ₗ Int) ×ₗ String

def snapshotOrderKey (tick : Tick) : SnapshotOrderKey :=
  let key := fun name => numericOrderKey host (tick.get name (.scalar .none))
  toLex (key "transaction_num", toLex (key "volume", toLex (key "amount", toLex (tick.snapshotIdentity host,
    toLex (authoritativeOrdinal tick, tick.fullSnapshotPayload host)))))

def DATETIME_END : Int := 253402300800000000
def SHANGHAI_END : Int := DATETIME_END - 8 * 3600 * 1000000

/-- `tick_storage_time`, of integers. -/
def tickStorageTime (sourceTimeMs ordinal : Int) : Except String Int := do
  require (0 ≤ sourceTimeMs ∧ 0 ≤ ordinal ∧ ordinal < HISTORICAL_TICK_ORDINALS_PER_MILLISECOND) "Tick storage identity is out of range"
  require (sourceTimeMs * 1000 + ordinal < DATETIME_END) "Tick storage identity cannot produce a datetime"
  require (sourceTimeMs * 1000 + ordinal < SHANGHAI_END) "date value out of range"
  return sourceTimeMs * 1000 + ordinal

structure TickGroup where
  (stockCode period : String)
  sourceTimeMs : Int
  deriving DecidableEq, Repr

namespace TickGroup

def rank (group : TickGroup) : Int ×ₗ String ×ₗ String := toLex (group.sourceTimeMs, toLex (group.stockCode, group.period))

end TickGroup

def Tick.identityKey (tick : Tick) : Except String (TickGroup × String) := do
  let sourceTimeMs ← tick.sourceTimeMs host
  return ({
    stockCode := host.strOf (tick.get "stock_code" (.scalar (.str "")))
    period := host.strOf (tick.get "period" (.scalar (.str "tick"))), sourceTimeMs }, tick.snapshotIdentity host)

def Tick.keyed (tick : Tick) : Except String ((TickGroup × String) × Tick) := do
  let key ← tick.identityKey host
  return (key, tick)

def Tick.stored (tick : Tick) (sourceTimeMs : Int) (ordinal : Nat) (time : Int) : Tick :=
  { attributes := (tick.attributes.set "source_time_ms" (.scalar (.int sourceTimeMs))).set "tick_ordinal" (.scalar (.int ordinal))
    time := some time }

def normalizeGroup (group : TickGroup) (ticks : List Tick) : Except String (List Tick) := do
  let ordered := sortBy (snapshotOrderKey host) ticks
  require (ordered.length ≤ HISTORICAL_TICK_ORDINALS_PER_MILLISECOND) ("too many Tick occurrences in one source millisecond: " ++
    group.stockCode ++ "/" ++ group.period ++ "/" ++ toString group.sourceTimeMs ++ " has " ++ toString ordered.length ++ ", maximum is 1000")
  ordered.zipIdx.mapM fun item => do
    let time ← tickStorageTime group.sourceTimeMs item.2
    return item.1.stored group.sourceTimeMs item.2 time

def retainTicks (sequences : List (List Tick)) : Except String (List ((TickGroup × String) × Tick)) := do
  let keyed ← sequences.mapM (·.mapM (Tick.keyed host))
  return (Retained.retainAll keyed).items

def mergeTicksLosslessly (sequences : List (List Tick)) : Except String (List Tick) := do
  let retained ← retainTicks host sequences
  let groups := groupAll (retained.map fun item => (item.1.1, item.2))
  let normalized ← (rankedEntries TickGroup.rank groups).mapM fun entry => normalizeGroup host entry.1 entry.2
  return normalized.flatten

def normalizeTicksLosslessly (ticks : List Tick) : Except String (List Tick) := mergeTicksLosslessly host [ticks]

end Host

def tickQueryEndTime (endTime : Option Int) : Option Int := endTime.map fun time => time / 1000 * 1000 + 999

end QuantX
