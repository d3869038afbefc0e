import QuantX.Lib.Dict
import QuantX.Text

/-! The local order reservations of the runtime state manager: cash and shares set aside for orders that the broker may
    not report yet. Amounts are whole cents. The source cuts negative results off with `max(0, ..)`; the operations
    take that cut as `clamp`. -/

namespace QuantX
open Lib (Dict)

structure PositionVolumes where
  (availableVolume frozenVolume : Int)
deriving DecidableEq, Repr

/-- The part of `custom` that `_sync_reservation_state` writes. -/
structure PersistedReservations where
  brokerCoveredCashReservations : List String
  orderCashReservations : Dict String Int
  orderPositionReservations : Dict String (Dict String Int)

/-- The account, the positions and the reservations of a `RuntimeStateManager`. -/
structure RuntimeReservations where
  enableReserve : Bool
  (cash frozenCash : Int)
  positions : Dict String PositionVolumes
  reservations : Dict String Int
  brokerCoveredCashReservations : Finset String
  positionReservations : Dict String (Dict String Int)
  custom : PersistedReservations

def ensurePositionDict (clamp : Int → Int) (position : Option PositionVolumes) : PositionVolumes :=
  let data := position.getD ⟨0, 0⟩
  ⟨clamp data.availableVolume, clamp data.frozenVolume⟩

def positiveEntries (reserved : Dict String Int) : Dict String Int := reserved.filter fun e => 0 < e.2

namespace RuntimeReservations
variable (clamp : Int → Int) (m : RuntimeReservations)

def syncReservationState : RuntimeReservations :=
  { m with custom :=
      { brokerCoveredCashReservations := sortedTexts (m.brokerCoveredCashReservations ∩ m.reservations.keys.toFinset)
        orderCashReservations := positiveEntries m.reservations
        orderPositionReservations :=
          (m.positionReservations.filter fun e => e.2.entries ≠ []).map positiveEntries } }

def restoreReservationState : RuntimeReservations :=
  let reservations := positiveEntries m.custom.orderCashReservations
  { m with
    reservations
    brokerCoveredCashReservations := m.custom.brokerCoveredCashReservations.toFinset ∩ reservations.keys.toFinset
    positionReservations := m.custom.orderPositionReservations.map positiveEntries }

def reserveCash (orderId : String) (amount : Int) : Bool × RuntimeReservations :=
  if !m.enableReserve then (false, m)
  else if amount ≤ 0 then (false, m)
  else if m.cash < amount then (false, m)
  else (true, syncReservationState { m with
    cash := m.cash - amount, frozenCash := m.frozenCash + amount
    reservations := m.reservations.set orderId (m.reservations.getD orderId 0 + amount) })

def keepRemaining (orderId : String) (remaining : Int) (gone : Bool) : RuntimeReservations :=
  if gone then
    { m with
      reservations := m.reservations.erase orderId
      brokerCoveredCashReservations := m.brokerCoveredCashReservations.erase orderId }
  else { m with reservations := m.reservations.set orderId remaining }

/-- The shortfall that the reservation does not fund, and the state after it. A remainder of at most `1e-8`
    yuan counts as none. -/
def consumeCashReservation (orderId : String) (amount : Int) : Int × RuntimeReservations :=
  if amount ≤ 0 then (0, m)
  else
    let reserved := m.reservations.getD orderId 0
    if reserved ≤ 0 then (amount, m)
    else
      let consumed := min reserved amount
      let remaining := reserved - consumed
      (clamp (amount - consumed),
        syncReservationState (keepRemaining { m with frozenCash := clamp (m.frozenCash - consumed) } orderId remaining
          (remaining * 1000000 ≤ 1)))

def releaseCash (orderId : String) (amount : Option Int) : Bool × RuntimeReservations :=
  if !m.enableReserve then (false, m)
  else
    let reserved := m.reservations.getD orderId 0
    if reserved ≤ 0 then (false, m)
    else
      let releaseAmount := amount.elim reserved fun amount => min amount reserved
      if releaseAmount ≤ 0 then (false, m)
      else
        -- The snapshot already counted a covered reservation as frozen: only the next one gives it back.
        let account :=
          if orderId ∈ m.brokerCoveredCashReservations then m
          else { m with cash := m.cash + releaseAmount, frozenCash := clamp (m.frozenCash - releaseAmount) }
        let remaining := reserved - releaseAmount
        (true, syncReservationState (account.keepRemaining orderId remaining (remaining ≤ 0)))

def transferReservation (oldOrderId newOrderId : String) : RuntimeReservations :=
  if oldOrderId = newOrderId then m
  else
    let covered :=
      if oldOrderId ∈ m.brokerCoveredCashReservations then insert newOrderId (m.brokerCoveredCashReservations.erase oldOrderId)
      else m.brokerCoveredCashReservations
    let cashReserved := m.reservations.getD oldOrderId 0
    let kept := m.reservations.erase oldOrderId
    let reservations := if cashReserved ≠ 0 then kept.set newOrderId (kept.getD newOrderId 0 + cashReserved) else kept
    let positionReserved := m.positionReservations.getD oldOrderId Dict.empty
    let keptPositions := m.positionReservations.erase oldOrderId
    let positionReservations :=
      if positionReserved.entries ≠ [] then
        keptPositions.set newOrderId ((keptPositions.getD newOrderId Dict.empty).tally positionReserved.entries)
      else keptPositions
    syncReservationState { m with brokerCoveredCashReservations := covered, reservations, positionReservations }

def reservePosition (orderId instrumentCode : String) (volume : Int) : Bool × RuntimeReservations :=
  if volume ≤ 0 then (false, m)
  else
    let position := ensurePositionDict clamp (m.positions.get? instrumentCode)
    if position.availableVolume < volume then (false, m)
    else
      let reserved := m.positionReservations.getD orderId Dict.empty
      (true, syncReservationState { m with
        positions := m.positions.set instrumentCode
          ⟨position.availableVolume - volume, position.frozenVolume + volume⟩
        positionReservations :=
          m.positionReservations.set orderId (reserved.set instrumentCode (reserved.getD instrumentCode 0 + volume)) })

def keepVolume (reserved : Dict String Int) (code : String) (remaining : Int) : Dict String Int :=
  if remaining ≤ 0 then reserved.erase code else reserved.set code remaining

/-- The loop of `release_position`: the order's reserved volumes, the positions, and whether anything changed. -/
structure Release where
  reserved : Dict String Int
  positions : Dict String PositionVolumes
  changed : Bool

def Release.code (volume : Option Int) (run : Release) (code : String) : Release :=
  if code = "" then run
  else match run.reserved.get? code with
    | none => run
    | some held =>
      let releaseVolume := volume.elim held fun volume => min volume held
      if releaseVolume ≤ 0 then run
      else
        let position := ensurePositionDict clamp (run.positions.get? code)
        { reserved := keepVolume run.reserved code (held - releaseVolume)
          positions := run.positions.set code
            ⟨position.availableVolume + releaseVolume, clamp (position.frozenVolume - releaseVolume)⟩
          changed := true }

def keepOrder (held : Dict String (Dict String Int)) (orderId : String) (reserved : Dict String Int) :
    Dict String (Dict String Int) :=
  if reserved.entries = [] then held.erase orderId else held.set orderId reserved

def releasePosition (orderId : String) (instrumentCode : Option String) (volume : Option Int) : Bool × RuntimeReservations :=
  let reserved := m.positionReservations.getD orderId Dict.empty
  if reserved.entries = [] then (false, m)
  else
    let codes := if instrumentCode.getD "" = "" then reserved.keys else [instrumentCode.getD ""]
    let run := codes.foldl (Release.code clamp volume) ⟨reserved, m.positions, false⟩
    let kept := { m with positionReservations := keepOrder m.positionReservations orderId run.reserved }
    (run.changed, if run.changed then syncReservationState { kept with positions := run.positions } else kept)

def consumePositionReservation (orderId instrumentCode : String) (volume : Int) : Int × RuntimeReservations :=
  if volume ≤ 0 then (0, m)
  else
    let reserved := m.positionReservations.getD orderId Dict.empty
    let reservedVolume := reserved.getD instrumentCode 0
    let consumed := min volume reservedVolume
    (clamp (volume - consumed),
      if consumed ≤ 0 then m
      else
        let position := ensurePositionDict clamp (m.positions.get? instrumentCode)
        syncReservationState { m with
          positions := m.positions.set instrumentCode
            ⟨position.availableVolume, clamp (position.frozenVolume - consumed)⟩
          positionReservations := keepOrder m.positionReservations orderId (keepVolume reserved instrumentCode (reservedVolume - consumed)) })

def updateAccount (cash frozenCash : Int) (coveredOrderIds : List String) : RuntimeReservations :=
  let covered := coveredOrderIds.toFinset ∩ m.reservations.keys.toFinset
  let unobserved := m.reservations.sumBy fun orderId amount => if orderId ∈ covered then 0 else amount
  syncReservationState { m with
    brokerCoveredCashReservations := covered, cash := cash - unobserved, frozenCash := frozenCash + unobserved }

def localFrozen (coveredOrderIds : List String) (code : String) : Int :=
  m.positionReservations.sumBy fun orderId reserved => if orderId ∈ coveredOrderIds then 0 else reserved.getD code 0

/-- One code of `replace_broker_positions`. -/
def replaceBrokerPosition (snapshot : Dict String PositionVolumes) (coveredOrderIds : List String)
    (positions : Dict String PositionVolumes) (code : String) : Dict String PositionVolumes :=
  let data := snapshot.getD code ⟨0, 0⟩
  let held := m.localFrozen coveredOrderIds code
  let updated := positions.set code
    (ensurePositionDict clamp (some ⟨clamp (data.availableVolume - held), data.frozenVolume + held⟩))
  if !snapshot.contains code ∧ held = 0 then updated.erase code else updated

def replaceBrokerPositions (snapshot : Dict String PositionVolumes) (coveredOrderIds : List String) : RuntimeReservations :=
  { m with positions :=
      (m.positions.keys ++ snapshot.keys).dedup.foldl (m.replaceBrokerPosition clamp snapshot coveredOrderIds) m.positions }

end RuntimeReservations

inductive ReservationCall where
  | reserveCash (orderId : String) (amount : Int)
  | consumeCashReservation (orderId : String) (amount : Int)
  | releaseCash (orderId : String) (amount : Option Int)
  | transferReservation (oldOrderId newOrderId : String)
  | reservePosition (orderId instrumentCode : String) (volume : Int)
  | consumePositionReservation (orderId instrumentCode : String) (volume : Int)
  | releasePosition (orderId : String) (instrumentCode : Option String) (volume : Option Int)
  | updateAccount (cash frozenCash : Int) (coveredOrderIds : List String)
  | replaceBrokerPositions (positions : Dict String PositionVolumes) (coveredOrderIds : List String)
  | restart

inductive ReservationAnswer where
  | done (accepted : Bool)
  | left (amount : Int)
  | nothing
deriving DecidableEq, Repr

def RuntimeReservations.call (clamp : Int → Int) (m : RuntimeReservations) :
    ReservationCall → ReservationAnswer × RuntimeReservations
  | .reserveCash orderId amount => (m.reserveCash orderId amount).map .done id
  | .consumeCashReservation orderId amount => (m.consumeCashReservation clamp orderId amount).map .left id
  | .releaseCash orderId amount => (m.releaseCash clamp orderId amount).map .done id
  | .transferReservation oldOrderId newOrderId => (.nothing, m.transferReservation oldOrderId newOrderId)
  | .reservePosition orderId code volume => (m.reservePosition clamp orderId code volume).map .done id
  | .consumePositionReservation orderId code volume => (m.consumePositionReservation clamp orderId code volume).map .left id
  | .releasePosition orderId code volume => (m.releasePosition clamp orderId code volume).map .done id
  | .updateAccount cash frozenCash covered => (.nothing, m.updateAccount cash frozenCash covered)
  | .replaceBrokerPositions positions covered => (.nothing, m.replaceBrokerPositions clamp positions covered)
  | .restart => (.nothing, m.restoreReservationState)

end QuantX
