import QuantX.Lib.Run
import QuantX.Theorems.RuntimeReservations.Volumes

namespace QuantX
open Lib (Dict Run Moment)
namespace RuntimeReservations
variable {m : RuntimeReservations}
variable {log : List (Moment RuntimeReservations ReservationCall)}

theorem positiveEntries_eq {reserved : Dict String Int} (h : Positive reserved) : positiveEntries reserved = reserved := by
  refine Dict.ext (List.filter_eq_self.mpr ?_)
  rintro ⟨code, volume⟩ hmem
  exact decide_eq_true (h code volume (Dict.mem_entries.mp hmem))

def Synced (m : RuntimeReservations) : Prop := m.custom = m.syncReservationState.custom

theorem restore_eq (hsynced : m.Synced) (hcash : m.CashBacked)
    (hvolumes : VolumesBacked m.positions m.positionReservations) : m.restoreReservationState = m := by
  obtain ⟨enableReserve, cash, frozenCash, positions, reservations, covered, held, custom⟩ := m
  unfold Synced syncReservationState at hsynced
  dsimp only at hsynced hcash hvolumes
  have hreservations : positiveEntries reservations = reservations := positiveEntries_eq hcash.positive
  have hcovered : covered ⊆ reservations.keys.toFinset := by
    intro orderId hmem
    obtain ⟨amount, hget⟩ := Option.isSome_iff_exists.mp (hcash.covered orderId hmem)
    exact List.mem_toFinset.mpr (List.mem_map.mpr ⟨(orderId, amount), Dict.mem_entries.mpr hget, rfl⟩)
  have hheld : ((held.filter fun e => e.2.entries ≠ []).map positiveEntries).map positiveEntries = held := by
    have hfilter : (held.filter fun e => e.2.entries ≠ []) = held := by
      refine Dict.ext (List.filter_eq_self.mpr ?_)
      rintro ⟨orderId, reserved⟩ hmem
      exact decide_eq_true (hvolumes.orders orderId reserved (Dict.mem_entries.mp hmem)).1
    have hmap : held.map positiveEntries = held := by
      refine Dict.ext ((List.map_congr_left ?_).trans (List.map_id _))
      rintro ⟨orderId, reserved⟩ hmem
      exact congrArg (Prod.mk orderId) (positiveEntries_eq (hvolumes.orders orderId reserved (Dict.mem_entries.mp hmem)).2)
    rw [hfilter, hmap, hmap]
  unfold restoreReservationState
  rw [hsynced]
  dsimp only
  rw [hreservations, hreservations, hheld, Finset.inter_eq_left.mpr hcovered, toFinset_sortedTexts,
    Finset.inter_eq_left.mpr hcovered]

/-! ### What a call leaves alone -/

structure Recorded (m m' : RuntimeReservations) : Prop where
  enabled : m'.enableReserve = m.enableReserve
  synced : m.Synced → m'.Synced

theorem Recorded.refl (m : RuntimeReservations) : Recorded m m := ⟨rfl, id⟩

theorem recorded_sync {m m' : RuntimeReservations} (h : m'.enableReserve = m.enableReserve) : Recorded m m'.syncReservationState :=
  ⟨h, fun _ => rfl⟩

section Untouched
variable (m : RuntimeReservations) (orderId : String)

theorem reserveCash_rest (amount : Int) :
    Recorded m (m.reserveCash orderId amount).2 ∧ SameVolumes m (m.reserveCash orderId amount).2 := by
  unfold reserveCash
  split_ifs
  · exact ⟨.refl m, rfl, rfl⟩
  · exact ⟨.refl m, rfl, rfl⟩
  · exact ⟨.refl m, rfl, rfl⟩
  · exact ⟨recorded_sync rfl, rfl, rfl⟩

theorem keepRemaining_rest (remaining : Int) (gone : Bool) :
    (m.keepRemaining orderId remaining gone).enableReserve = m.enableReserve ∧
      (m.keepRemaining orderId remaining gone).positions = m.positions ∧
      (m.keepRemaining orderId remaining gone).positionReservations = m.positionReservations := by
  cases gone <;> exact ⟨rfl, rfl, rfl⟩

theorem consumeCash_rest (amount : Int) : Recorded m (m.consumeCashReservation id orderId amount).2 ∧
    SameVolumes m (m.consumeCashReservation id orderId amount).2 := by
  unfold consumeCashReservation
  dsimp only
  split_ifs
  · exact ⟨.refl m, rfl, rfl⟩
  · exact ⟨.refl m, rfl, rfl⟩
  · obtain ⟨henabled, hpositions, hheld⟩ := keepRemaining_rest _ orderId _ _
    exact ⟨recorded_sync henabled, hpositions, hheld⟩

theorem releaseCash_rest (amount : Option Int) : Recorded m (m.releaseCash id orderId amount).2 ∧
    SameVolumes m (m.releaseCash id orderId amount).2 := by
  unfold releaseCash
  dsimp only
  split_ifs
  · exact ⟨.refl m, rfl, rfl⟩
  · exact ⟨.refl m, rfl, rfl⟩
  · exact ⟨.refl m, rfl, rfl⟩
  · obtain ⟨henabled, hpositions, hheld⟩ := keepRemaining_rest m orderId _ _
    exact ⟨recorded_sync henabled, hpositions, hheld⟩
  · obtain ⟨henabled, hpositions, hheld⟩ := keepRemaining_rest _ orderId _ _
    exact ⟨recorded_sync henabled, hpositions, hheld⟩

theorem transferReservation_recorded (newOrderId : String) : Recorded m (m.transferReservation orderId newOrderId) := by
  unfold transferReservation
  by_cases hsame : orderId = newOrderId
  · rw [if_pos hsame]
    exact .refl m
  · rw [if_neg hsame]
    exact recorded_sync rfl

theorem reservePosition_rest (code : String) (volume : Int) : Recorded m (m.reservePosition id orderId code volume).2 ∧
    SameCash m (m.reservePosition id orderId code volume).2 := by
  unfold reservePosition
  dsimp only
  split_ifs
  · exact ⟨.refl m, .refl m⟩
  · exact ⟨.refl m, .refl m⟩
  · exact ⟨recorded_sync rfl, rfl, rfl, rfl, rfl⟩

theorem consumePosition_rest (code : String) (volume : Int) : Recorded m (m.consumePositionReservation id orderId code volume).2 ∧
    SameCash m (m.consumePositionReservation id orderId code volume).2 := by
  unfold consumePositionReservation
  dsimp only
  split_ifs
  · exact ⟨.refl m, .refl m⟩
  · exact ⟨.refl m, .refl m⟩
  · exact ⟨recorded_sync rfl, rfl, rfl, rfl, rfl⟩

theorem releasePosition_rest {m : RuntimeReservations} (h : VolumesBacked m.positions m.positionReservations) (orderId : String)
    (instrumentCode : Option String) (volume : Option Int) : Recorded m (m.releasePosition id orderId instrumentCode volume).2 ∧
      SameCash m (m.releasePosition id orderId instrumentCode volume).2 := by
  unfold releasePosition
  dsimp only
  by_cases hnone : (m.positionReservations.getD orderId Dict.empty).entries = []
  · rw [if_pos hnone]
    exact ⟨.refl m, .refl m⟩
  rw [if_neg hnone]
  have hrun := releaseCodes_kept h orderId volume
    (if instrumentCode.getD "" = "" then (m.positionReservations.getD orderId Dict.empty).keys else [instrumentCode.getD ""])
    (releaseStart_kept h orderId)
  generalize List.foldl (Release.code id volume) _ _ = run at hrun ⊢
  cases hchanged : run.changed with
  | true => exact ⟨recorded_sync rfl, rfl, rfl, rfl, rfl⟩
  | false =>
    -- Nothing was released, so the order keeps what it had.
    have hsame : { m with positionReservations := keepOrder m.positionReservations orderId run.reserved } = m := by
      obtain ⟨reserved, hget⟩ : ∃ reserved, m.positionReservations.get? orderId = some reserved := by
        cases hget : m.positionReservations.get? orderId with
        | none => exact absurd (by rw [Dict.getD, hget]; rfl) hnone
        | some reserved => exact ⟨reserved, rfl⟩
      have hreserved : m.positionReservations.getD orderId Dict.empty = reserved := by
        rw [Dict.getD, hget, Option.getD_some]
      rw [hrun.unchanged hchanged]
      rw [hreserved] at hnone ⊢
      rw [keepOrder, if_neg hnone, Dict.set_same hget]
    rw [hsame]
    exact ⟨.refl m, .refl m⟩

end Untouched

/-- The source's `max(0, ..)`. -/
def cutAtZero (x : Int) : Int := max 0 x

theorem cutAtZero_eq (x : Int) (h : 0 ≤ x) : cutAtZero x = x := max_eq_right h

/-- A manager that reserves nothing yet, over an account and positions without negative frozen amounts. -/
structure Fresh (m : RuntimeReservations) : Prop where
  enabled : m.enableReserve = true
  reservations : m.reservations = Dict.empty
  covered : m.brokerCoveredCashReservations = ∅
  held : m.positionReservations = Dict.empty
  custom : m.custom = ⟨[], Dict.empty, Dict.empty⟩
  cash : 0 ≤ m.frozenCash
  volumes : ∀ code, 0 ≤ (positionOf m.positions code).availableVolume ∧ 0 ≤ (positionOf m.positions code).frozenVolume

/-- A snapshot freezes what it covers and leaves available what it does not. -/
def Backs (m : RuntimeReservations) : ReservationCall → Prop
  | .updateAccount _ frozenCash orderIds => m.cashCovered orderIds ≤ frozenCash
  | .replaceBrokerPositions snapshot orderIds => m.SnapshotBacks snapshot orderIds
  | _ => True

def step (m : RuntimeReservations) (call : ReservationCall) : RuntimeReservations := (m.call cutAtZero call).2

structure Sound (m : RuntimeReservations) : Prop where
  enabled : m.enableReserve = true
  cash : m.CashBacked
  volumes : VolumesBacked m.positions m.positionReservations
  synced : m.Synced

def cashFilled (m : RuntimeReservations) : ReservationCall → Int
  | .consumeCashReservation orderId amount => m.cashTaken orderId amount
  | _ => 0

/-- The part of it that the last account snapshot counted as free. -/
def uncoveredFilled (m : RuntimeReservations) : ReservationCall → Int
  | .consumeCashReservation orderId amount =>
    if orderId ∈ m.brokerCoveredCashReservations then 0 else m.cashTaken orderId amount
  | _ => 0

def volumeFilled (m : RuntimeReservations) (code : String) : ReservationCall → Int
  | .consumePositionReservation orderId instrumentCode volume => m.volumeTaken orderId instrumentCode volume code
  | _ => 0

def cashTotal (m : RuntimeReservations) : Int := m.cash + m.frozenCash

def volumeTotal (m : RuntimeReservations) (code : String) : Int :=
  (positionOf m.positions code).availableVolume + (positionOf m.positions code).frozenVolume

def reportedCash : ReservationCall → Option Int
  | .updateAccount cash frozenCash _ => some (cash + frozenCash)
  | _ => none

def reportedVolume (code : String) : ReservationCall → Option Int
  | .replaceBrokerPositions snapshot _ => some ((positionOf snapshot code).availableVolume + (positionOf snapshot code).frozenVolume)
  | _ => none

structure Conserves (m m' : RuntimeReservations) (call : ReservationCall) : Prop where
  cash : m'.cashTotal = (reportedCash call).getD (m.cashTotal - m.cashFilled call)
  volume : ∀ code, m'.volumeTotal code = (reportedVolume code call).getD (m.volumeTotal code - m.volumeFilled code call)

def reportedFree : ReservationCall → Option Int
  | .updateAccount cash _ _ => some cash
  | _ => none

/-- The free cash of the last account snapshot, less the fills since then of reservations outside it. -/
def freeCash : List (Moment RuntimeReservations ReservationCall) → Option Int
  | [] => none
  | moment :: earlier => (reportedFree moment.op).or ((freeCash earlier).map (· - moment.before.uncoveredFilled moment.op))

theorem Fresh.sound (h : Fresh m) : Sound m := by
  obtain ⟨henabled, hreservations, hcovered, hheld, hcustom, hcash, hvolumes⟩ := h
  refine ⟨henabled, ⟨?_, ?_, ?_⟩, ⟨?_, fun code => (hvolumes code).1, fun code => ?_⟩, ?_⟩
  · rw [hreservations]
    intro orderId amount hget
    cases hget
  · rw [hcovered]
    intro orderId hmem
    simp at hmem
  · rw [cashReserved, hreservations]
    exact hcash
  · rw [hheld]
    intro orderId reserved hget
    cases hget
  · rw [hheld]
    exact (hvolumes code).2
  · rw [Synced, hcustom, syncReservationState, hreservations, hcovered, hheld]
    simp [positiveEntries, Dict.empty, Dict.filter, Dict.map]

structure Kept (m m' : RuntimeReservations) (call : ReservationCall) : Prop where
  sound : m'.Sound
  conserves : Conserves m m' call
  free : m'.cash + m'.cashUncovered ≤ (reportedFree call).getD (m.cash + m.cashUncovered - m.uncoveredFilled call)

section Steps
variable {m m' : RuntimeReservations} (h : m.Sound) {call : ReservationCall}
include h

theorem Sound.cash_call {taken spent : Int} (hrest : Recorded m m' ∧ SameVolumes m m') (hkept : CashKept m m' taken spent)
    (hcash : reportedCash call = none) (hfree : reportedFree call = none) (hvolume : ∀ code, reportedVolume code call = none)
    (htaken : m.cashFilled call = taken) (hspent : m.uncoveredFilled call = spent) (hfilled : ∀ code, m.volumeFilled code call = 0) :
    Kept m m' call := by
  obtain ⟨⟨henabled, hsynced⟩, hsame⟩ := hrest
  obtain ⟨hbacked, htotal⟩ := hsame.kept h.volumes
  refine ⟨⟨henabled.trans h.enabled, hkept.backed, hbacked, hsynced h.synced⟩, ⟨?_, fun code => ?_⟩, ?_⟩
  · rw [hcash, htaken]
    exact hkept.total
  · rw [hvolume, hfilled]
    exact htotal code
  · rw [hfree, hspent]
    exact hkept.free

theorem Sound.volume_call {taken : String → Int} (hrest : Recorded m m' ∧ SameCash m m') (hkept : VolumesKept m m' taken)
    (hcash : reportedCash call = none) (hfree : reportedFree call = none) (hvolume : ∀ code, reportedVolume code call = none)
    (htaken : m.cashFilled call = 0) (hspent : m.uncoveredFilled call = 0) (hfilled : ∀ code, m.volumeFilled code call = taken code) :
    Kept m m' call := by
  obtain ⟨⟨henabled, hsynced⟩, hsame⟩ := hrest
  obtain ⟨hbacked, htotal, hfree'⟩ := hsame.kept h.cash
  refine ⟨⟨henabled.trans h.enabled, hbacked, hkept.backed, hsynced h.synced⟩, ⟨?_, fun code => ?_⟩, ?_⟩
  · rw [hcash, htaken]
    exact htotal
  · rw [hvolume, hfilled]
    exact hkept.total code
  · rw [hfree, hspent]
    exact hfree'

theorem Sound.transfer (oldOrderId newOrderId : String) :
    Kept m (m.transferReservation oldOrderId newOrderId) (.transferReservation oldOrderId newOrderId) := by
  obtain ⟨henabled, hsynced⟩ := transferReservation_recorded m oldOrderId newOrderId
  obtain ⟨hcash, htotal, hfree⟩ := transferReservation_kept h.cash oldOrderId newOrderId
  obtain ⟨hvolumes, hvolume⟩ := transferReservation_volumes h.volumes oldOrderId newOrderId
  exact ⟨⟨henabled.trans h.enabled, hcash, hvolumes, hsynced h.synced⟩, ⟨htotal, hvolume⟩, hfree⟩

theorem Sound.update {cash frozenCash : Int} {orderIds : List String} (hlegal : m.cashCovered orderIds ≤ frozenCash) :
    Kept m (m.updateAccount cash frozenCash orderIds) (.updateAccount cash frozenCash orderIds) := by
  obtain ⟨hbacked, htotal, hfree⟩ := updateAccount_backed h.cash cash hlegal
  exact ⟨⟨h.enabled, hbacked, h.volumes, rfl⟩, ⟨htotal, fun _ => (sub_zero _).symm⟩, hfree.le⟩

theorem Sound.replace {snapshot : Dict String PositionVolumes} {orderIds : List String} (hlegal : m.SnapshotBacks snapshot orderIds) :
    Kept m (m.replaceBrokerPositions id snapshot orderIds) (.replaceBrokerPositions snapshot orderIds) := by
  have hsame : SameCash m (m.replaceBrokerPositions id snapshot orderIds) := ⟨rfl, rfl, rfl, rfl⟩
  obtain ⟨hbacked, htotal, hfree⟩ := hsame.kept h.cash
  refine ⟨⟨h.enabled, hbacked, replaceBrokerPositions_backed h.volumes hlegal, h.synced⟩, ⟨htotal, fun code => ?_⟩, hfree⟩
  change volumeTotal _ code = (positionOf snapshot code).availableVolume + (positionOf snapshot code).frozenVolume
  rw [volumeTotal, replaceBrokerPositions_position h.volumes hlegal]
  dsimp only
  omega

theorem Sound.restart : Kept m m .restart := by
  refine ⟨h, ⟨(sub_zero _).symm, fun _ => (sub_zero _).symm⟩, ?_⟩
  exact (sub_zero _).symm.le

theorem Sound.call_kept (call : ReservationCall) (hlegal : m.Backs call) : Kept m (m.call id call).2 call := by
  cases call with
  | reserveCash orderId amount =>
    exact h.cash_call (reserveCash_rest m orderId amount) (reserveCash_kept h.cash orderId amount) rfl rfl (fun _ => rfl) rfl rfl fun _ => rfl
  | consumeCashReservation orderId amount =>
    exact h.cash_call (consumeCash_rest m orderId amount) (consumeCash_kept h.cash orderId amount) rfl rfl (fun _ => rfl) rfl rfl fun _ => rfl
  | releaseCash orderId amount =>
    exact h.cash_call (releaseCash_rest m orderId amount) (releaseCash_kept h.cash orderId amount) rfl rfl (fun _ => rfl) rfl rfl fun _ => rfl
  | transferReservation oldOrderId newOrderId => exact h.transfer oldOrderId newOrderId
  | reservePosition orderId code volume =>
    exact h.volume_call (reservePosition_rest m orderId code volume) (reservePosition_kept h.volumes orderId code volume)
      rfl rfl (fun _ => rfl) rfl rfl fun _ => rfl
  | consumePositionReservation orderId code volume =>
    exact h.volume_call (consumePosition_rest m orderId code volume) (consumePosition_kept h.volumes orderId code volume)
      rfl rfl (fun _ => rfl) rfl rfl fun _ => rfl
  | releasePosition orderId code volume =>
    exact h.volume_call (releasePosition_rest h.volumes orderId code volume) (releasePosition_kept h.volumes orderId code volume)
      rfl rfl (fun _ => rfl) rfl rfl fun _ => rfl
  | updateAccount cash frozenCash orderIds => exact h.update hlegal
  | replaceBrokerPositions snapshot orderIds => exact h.replace hlegal
  | restart =>
    change Kept m m.restoreReservationState .restart
    rw [restore_eq h.synced h.cash h.volumes]
    exact h.restart

theorem Sound.call_uncut (call : ReservationCall) (hlegal : m.Backs call) : m.call cutAtZero call = m.call id call := by
  cases call with
  | reserveCash orderId amount => rfl
  | consumeCashReservation orderId amount =>
    exact congrArg (Prod.map ReservationAnswer.left id) (consumeCash_uncut h.cash orderId cutAtZero_eq amount)
  | releaseCash orderId amount => exact congrArg (Prod.map ReservationAnswer.done id) (releaseCash_uncut h.cash orderId cutAtZero_eq amount)
  | transferReservation oldOrderId newOrderId => rfl
  | reservePosition orderId code volume => exact congrArg (Prod.map ReservationAnswer.done id) (reservePosition_uncut h.volumes orderId cutAtZero_eq code volume)
  | consumePositionReservation orderId code volume =>
    exact congrArg (Prod.map ReservationAnswer.left id) (consumePosition_uncut h.volumes orderId cutAtZero_eq code volume)
  | releasePosition orderId code volume => exact congrArg (Prod.map ReservationAnswer.done id) (releasePosition_uncut h.volumes orderId cutAtZero_eq code volume)
  | updateAccount cash frozenCash orderIds => rfl
  | replaceBrokerPositions snapshot orderIds =>
    exact congrArg (Prod.mk ReservationAnswer.nothing) (replaceBrokerPositions_uncut cutAtZero h.volumes hlegal cutAtZero_eq)
  | restart => rfl

theorem Sound.step_kept (hlegal : m.Backs call) : Kept m (m.step call) call := by
  unfold step
  rw [h.call_uncut call hlegal]
  exact h.call_kept call hlegal

end Steps

abbrev Runs (log : List (Moment RuntimeReservations ReservationCall)) (m : RuntimeReservations) : Prop :=
  Run Fresh step (fun _ m call => m.Backs call) log m

theorem Runs.sound (h : Runs log m) : Sound m := by
  refine h.invariant (fun _ m => Sound m) (fun m hstart => hstart.sound) ?_
  intro log m call hm hlegal
  exact (hm.step_kept hlegal).sound

/-- Free cash and uncovered reservations never exceed what the last account snapshot left free. -/
theorem Runs.free (h : Runs log m) :
    ∀ free, freeCash log = some free → m.cash + m.cashUncovered ≤ free := by
  have hinv := h.invariant (fun log m => Sound m ∧ ∀ free, freeCash log = some free → m.cash + m.cashUncovered ≤ free)
    (fun m hstart => ⟨hstart.sound, fun free hfree => by cases hfree⟩) ?_
  · exact hinv.2
  intro log m call hm hlegal
  obtain ⟨hsound, hbound⟩ := hm
  have hkept := hsound.step_kept hlegal
  refine ⟨hkept.sound, fun free hfree => ?_⟩
  have hcall := hkept.free
  unfold freeCash at hfree
  cases hreported : reportedFree call with
  | some reported =>
    rw [hreported] at hfree hcall
    cases hfree
    exact hcall
  | none =>
    rw [hreported, Option.none_or] at hfree
    obtain ⟨before, hbefore, rfl⟩ := Option.map_eq_some_iff.mp hfree
    rw [hreported, Option.getD_none] at hcall
    have := hbound before hbefore
    dsimp only
    omega

/-! ### Conservation -/

/-- Reservations conserve cash and shares in every run: the frozen totals cover them and no cut at zero matters, totals
    change by snapshots and fills only, free cash stays within the last snapshot, and a restart changes nothing. -/
theorem reservations_conserved {log : List (Moment RuntimeReservations ReservationCall)} {m : RuntimeReservations} (h : Runs log m) :
    (m.cashReserved ≤ m.frozenCash ∧ ∀ code, heldVolume m.positionReservations code ≤ (positionOf m.positions code).frozenVolume) ∧
    (∀ call, m.Backs call → m.call cutAtZero call = m.call id call ∧ Conserves m (m.step call) call) ∧
    (∀ orderId amount, m.call cutAtZero (.consumeCashReservation orderId amount) =
        (.left (max amount 0 - m.cashTaken orderId amount), m.step (.consumeCashReservation orderId amount)) ∧
      (m.step (.consumeCashReservation orderId amount)).reservations.getD orderId 0 =
        m.reservations.getD orderId 0 - m.cashTaken orderId amount) ∧
    (∀ orderId code volume, m.call cutAtZero (.consumePositionReservation orderId code volume) =
        (.left (max volume 0 - m.volumeTaken orderId code volume code), m.step (.consumePositionReservation orderId code volume)) ∧
      ((m.step (.consumePositionReservation orderId code volume)).positionReservations.getD orderId Dict.empty).getD code 0 =
        (m.positionReservations.getD orderId Dict.empty).getD code 0 - m.volumeTaken orderId code volume code) ∧
    (∀ free, freeCash log = some free → m.cash + m.cashUncovered ≤ free) ∧
    m.restoreReservationState = m := by
  have hsound := h.sound
  refine ⟨⟨hsound.cash.frozen, hsound.volumes.frozen⟩, ?_, ?_, ?_, h.free, restore_eq hsound.synced hsound.cash hsound.volumes⟩
  · intro call hlegal
    exact ⟨hsound.call_uncut call hlegal, (hsound.step_kept hlegal).conserves⟩
  · intro orderId amount
    have htaken := hsound.cash.taken_eq orderId amount
    rw [← consumeCash_uncut hsound.cash orderId cutAtZero_eq] at htaken
    refine ⟨Prod.ext ?_ rfl, htaken.2⟩
    exact congrArg ReservationAnswer.left htaken.1
  · intro orderId code volume
    have htaken := hsound.volumes.taken_eq orderId code volume
    rw [← consumePosition_uncut hsound.volumes orderId cutAtZero_eq] at htaken
    refine ⟨Prod.ext ?_ rfl, htaken.2⟩
    exact congrArg ReservationAnswer.left htaken.1

def desk : RuntimeReservations where
  enableReserve := true
  cash := 1000000
  frozenCash := 0
  positions := Dict.empty.set "600000.SH" ⟨1000, 0⟩
  reservations := Dict.empty
  brokerCoveredCashReservations := ∅
  positionReservations := Dict.empty
  custom := ⟨[], Dict.empty, Dict.empty⟩

theorem desk_fresh : Fresh desk := by
  refine ⟨rfl, rfl, rfl, rfl, rfl, le_refl 0, fun code => ?_⟩
  rw [show desk.positions = Dict.empty.set "600000.SH" ⟨1000, 0⟩ from rfl, positionOf_set]
  split_ifs
  · exact ⟨by decide, le_refl 0⟩
  · exact ⟨le_refl 0, le_refl 0⟩

/-- Cash is reserved for a buy, shares for a sell; a snapshot covers the buy before it fills in part under the broker's
    id, and the rest is released. -/
theorem reservations_conserved_desk :
    let calls := [.reserveCash "intent" 600000, .reservePosition "sell" "600000.SH" 600, .updateAccount 400000 600000 ["intent"],
      .transferReservation "intent" "broker", .consumeCashReservation "broker" 250000, .releaseCash "broker" none]
    let m := (Lib.play step desk calls).2
    m.cashReserved ≤ m.frozenCash ∧ m.cash + m.cashUncovered ≤ 400000 ∧ m.restoreReservationState = m := by
  intro calls m
  have h : Runs (Lib.play step desk calls).1 m := by
    refine .step (.step (.step (.step (.step (.step (.start desk_fresh) _ ?_) _ ?_) _ ?_) _ ?_) _ ?_) _ ?_
    · trivial
    · trivial
    · change cashCovered _ _ ≤ 600000
      decide +kernel
    · trivial
    · trivial
    · trivial
  obtain ⟨⟨hfrozen, -⟩, -, -, -, hfree, hrestart⟩ := reservations_conserved h
  exact ⟨hfrozen, hfree 400000 (by decide +kernel), hrestart⟩

end RuntimeReservations
end QuantX
