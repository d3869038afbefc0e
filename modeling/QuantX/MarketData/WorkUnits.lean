import QuantX.Lib.Rank
import QuantX.Lib.Require

/-! # Work units of a historical request

A request for bars is cut into units for one native call each: one period, a batch of the sorted codes and a window of
days. Dates are day numbers of the calendar (`date.toordinal`), of which there is a last one. -/

namespace QuantX
open Lib (require sortBy)

def MAX_COLLECTION_UNITS : Nat := 2048
def HISTORICAL_WORK_UNIT_INSTRUMENTS : Nat := 20
def HISTORICAL_TICK_WORK_UNIT_INSTRUMENTS : Nat := 10

/-- `date.max.toordinal()`. -/
def maxOrdinal : Nat := 3652059

structure HistoricalRequest (Other : Type) where
  operation : String := "bars"
  stockList : List String
  periods : List String := []
  (startTime endTime : Nat)
  other : Other
  deriving DecidableEq

/-- `HISTORICAL_WORK_UNIT_WINDOW_DAYS`. -/
def historicalWindowDays : String → Option Nat
  | "tick" => some 1
  | "1m" => some 1
  | "1d" => some 31
  | _ => none

def slices {α : Type} : List Nat → List α → List (List α)
  | [], _ => []
  | width :: widths, values => values.take width :: slices widths (values.drop width)

/-- The number of groups of at most `size` values. -/
def groupCount (length size : Nat) : Nat := (length + size - 1) / size

def groupWidths (length count : Nat) : List Nat :=
  (List.range count).map fun index => length / count + if index < length % count then 1 else 0

def chunks {α : Type} (values : List α) (size : Nat) : List (List α) :=
  if values.isEmpty then [] else slices (groupWidths values.length (groupCount values.length size)) values

/-- `date + timedelta(days)`. -/
def addDays (date days : Nat) : Except String Nat :=
  if date + days ≤ maxOrdinal then .ok (date + days) else .error "date value out of range"

/-- `_date_windows` from a day on, with a turn for each day that is left. -/
def dateWindows (last maxDays : Nat) : Nat → Nat → Except String (List (Nat × Nat))
  | 0, _ => .ok []
  | turns + 1, cursor =>
    if last < cursor then .ok []
    else do
      let windowEnd := min last (← addDays cursor (maxDays - 1))
      let rest ← dateWindows last maxDays turns (← addDays windowEnd 1)
      return (cursor, windowEnd) :: rest

/-- `units.append` of some units, up to the bound of the catalog. -/
def appendUnits {α : Type} (units new : List α) : Except String (List α) :=
  if (units ++ new).length ≤ MAX_COLLECTION_UNITS then .ok (units ++ new)
  else .error "collection unit plan exceeds its bounded catalog"

namespace HistoricalRequest
variable {Other : Type} (request : HistoricalRequest Other) (instrumentBatchSize : Option Nat)

def askedPeriods : List String := if request.periods.isEmpty then ["1d"] else request.periods

def batchSize (period : String) : Nat :=
  instrumentBatchSize.getD (if period = "tick" then HISTORICAL_TICK_WORK_UNIT_INSTRUMENTS else HISTORICAL_WORK_UNIT_INSTRUMENTS)

def unit (period : String) (codeBatch : List String) (window : Nat × Nat) : HistoricalRequest Other :=
  { request with stockList := codeBatch, periods := [period], startTime := window.1, endTime := window.2 }

def periodWindows (period : String) : Except String (List (Nat × Nat)) :=
  match historicalWindowDays period with
  | none => .error period
  | some maxDays => dateWindows request.endTime maxDays (request.endTime + 1 - request.startTime) request.startTime

def periodUnits (period : String) : Except String (List (HistoricalRequest Other)) := do
  let windows ← request.periodWindows period
  return (chunks (sortBy id request.stockList) (batchSize instrumentBatchSize period)).flatMap fun codeBatch =>
    windows.map (request.unit period codeBatch)

/-- `plan_historical_work_units`. -/
def planWorkUnits : Except String (List (HistoricalRequest Other)) := do
  require (∀ size ∈ instrumentBatchSize, 10 ≤ size ∧ size ≤ 30) "historical work-unit size must be between 10 and 30"
  if request.stockList.isEmpty then return [request]
  if request.operation = "" ∨ request.operation = "bars" then
    request.askedPeriods.foldlM (fun units period => do appendUnits units (← request.periodUnits instrumentBatchSize period)) []
  else
    appendUnits [] ((chunks (sortBy id request.stockList) (instrumentBatchSize.getD HISTORICAL_WORK_UNIT_INSTRUMENTS)).map
      fun codeBatch => { request with stockList := codeBatch })

end HistoricalRequest
end QuantX
