import QuantX.Theorems.RuntimeReservations.Cash

namespace QuantX
open Lib (Dict)
namespace RuntimeReservations
variable {held : Dict String (Dict String Int)} {reserved : Dict String Int}

def positionOf (positions : Dict String PositionVolumes) (code : String) : PositionVolumes := positions.getD code ⟨0, 0⟩

def heldVolume (held : Dict String (Dict String Int)) (code : String) : Int := held.sumBy fun _ reserved => reserved.getD code 0

def coveredVolume (m : RuntimeReservations) (orderIds : List String) (code : String) : Int :=
  m.positionReservations.sumBy fun orderId reserved => if orderId ∈ orderIds then reserved.getD code 0 else 0

def Positive (reserved : Dict String Int) : Prop := ∀ code volume, reserved.get? code = some volume → 0 < volume

/-- Every order reserves something, every volume is positive, and the frozen volumes cover them. -/
structure VolumesBacked (positions : Dict String PositionVolumes) (held : Dict String (Dict String Int)) : Prop where
  orders : ∀ orderId reserved, held.get? orderId = some reserved → reserved.entries ≠ [] ∧ Positive reserved
  volumes : ∀ code, 0 ≤ (positionOf positions code).availableVolume
  frozen : ∀ code, heldVolume held code ≤ (positionOf positions code).frozenVolume

theorem Positive.getD_nonneg (h : Positive reserved) (code : String) : 0 ≤ reserved.getD code 0 := by
  unfold Dict.getD
  cases hget : reserved.get? code with
  | none => exact le_refl 0
  | some volume => exact (h _ _ hget).le

theorem Positive.empty : Positive Dict.empty := by
  intro code volume hget
  cases hget

theorem positive_of_orders
    (h : ∀ orderId reserved, held.get? orderId = some reserved → reserved.entries ≠ [] ∧ Positive reserved) (orderId : String) :
    Positive (held.getD orderId Dict.empty) := by
  unfold Dict.getD
  cases hget : held.get? orderId with
  | none => exact Positive.empty
  | some reserved => exact (h _ _ hget).2

theorem getD_le_heldVolume
    (h : ∀ orderId reserved, held.get? orderId = some reserved → reserved.entries ≠ [] ∧ Positive reserved) (orderId code : String) :
    (held.getD orderId Dict.empty).getD code 0 ≤ heldVolume held code := by
  have herase := Dict.sumBy_erase_default held orderId (f := fun _ reserved => reserved.getD code 0) (a := Dict.empty) rfl
  have hrest : 0 ≤ (held.erase orderId).sumBy fun _ reserved => reserved.getD code 0 := by
    refine Dict.sumBy_nonneg ?_
    intro k reserved hget
    rw [Dict.get?_erase] at hget
    split_ifs at hget
    exact (h _ _ hget).2.getD_nonneg code
  unfold heldVolume
  omega

theorem heldVolume_nonneg
    (h : ∀ orderId reserved, held.get? orderId = some reserved → reserved.entries ≠ [] ∧ Positive reserved) (code : String) :
    0 ≤ heldVolume held code :=
  Dict.sumBy_nonneg fun _ _ hget => (h _ _ hget).2.getD_nonneg code

theorem keepVolume_getD (reserved : Dict String Int) {code : String} {remaining : Int} (h : 0 ≤ remaining) (k : String) :
    (keepVolume reserved code remaining).getD k 0 = if code = k then remaining else reserved.getD k 0 := by
  unfold keepVolume
  by_cases hnone : remaining ≤ 0
  · rw [if_pos hnone, Dict.getD, Dict.get?_erase]
    split_ifs
    · exact le_antisymm h hnone
    · rfl
  · rw [if_neg hnone, Dict.getD_set]

theorem Positive.keepVolume (h : Positive reserved) (code : String) (remaining : Int) :
    Positive (keepVolume reserved code remaining) := by
  intro k volume hget
  unfold RuntimeReservations.keepVolume at hget
  by_cases hnone : remaining ≤ 0
  · rw [if_pos hnone, Dict.get?_erase] at hget
    split_ifs at hget
    exact h _ _ hget
  · rw [if_neg hnone, Dict.get?_set] at hget
    split_ifs at hget
    · cases hget
      omega
    · exact h _ _ hget

theorem keepOrder_orders
    (h : ∀ orderId reserved, held.get? orderId = some reserved → reserved.entries ≠ [] ∧ Positive reserved) (orderId : String)
    (hreserved : Positive reserved) :
    ∀ k r, (keepOrder held orderId reserved).get? k = some r → r.entries ≠ [] ∧ Positive r := by
  intro k r hget
  unfold keepOrder at hget
  by_cases hnone : reserved.entries = []
  · rw [if_pos hnone, Dict.get?_erase] at hget
    split_ifs at hget
    exact h _ _ hget
  · rw [if_neg hnone, Dict.get?_set] at hget
    split_ifs at hget
    · cases hget
      exact ⟨hnone, hreserved⟩
    · exact h _ _ hget

theorem keepOrder_volume (held : Dict String (Dict String Int)) (orderId : String) (reserved : Dict String Int) (code : String) :
    heldVolume (keepOrder held orderId reserved) code =
      heldVolume held code + reserved.getD code 0 - (held.getD orderId Dict.empty).getD code 0 := by
  unfold keepOrder heldVolume
  by_cases hnone : reserved.entries = []
  · have hempty : reserved = Dict.empty := Dict.ext hnone
    rw [if_pos hnone, Dict.sumBy_erase_default held orderId (a := Dict.empty) rfl, hempty]
    change _ = _ + 0 - _
    rw [add_zero]
  · rw [if_neg hnone, Dict.sumBy_set_default held orderId reserved (a := Dict.empty) rfl]

theorem keepOrder_getD (held : Dict String (Dict String Int)) (orderId : String) (reserved : Dict String Int) :
    (keepOrder held orderId reserved).getD orderId Dict.empty = reserved := by
  unfold keepOrder
  by_cases hnone : reserved.entries = []
  · rw [if_pos hnone, Dict.getD, Dict.get?_erase, if_pos rfl]
    exact Dict.ext hnone.symm
  · rw [if_neg hnone, Dict.getD_set, if_pos rfl]

theorem positionOf_set (positions : Dict String PositionVolumes) (code : String) (position : PositionVolumes) (k : String) :
    positionOf (positions.set code position) k = if code = k then position else positionOf positions k :=
  Dict.getD_set ..

theorem ensurePositionDict_id (positions : Dict String PositionVolumes) (code : String) :
    ensurePositionDict id (positions.get? code) = positionOf positions code := rfl

theorem VolumesBacked.put {positions : Dict String PositionVolumes} {held held' : Dict String (Dict String Int)}
    (h : VolumesBacked positions held) {code : String} {position : PositionVolumes}
    (horders : ∀ orderId reserved, held'.get? orderId = some reserved → reserved.entries ≠ [] ∧ Positive reserved)
    (hothers : ∀ k, code ≠ k → heldVolume held' k = heldVolume held k) (hvolume : 0 ≤ position.availableVolume)
    (hfrozen : heldVolume held' code ≤ position.frozenVolume) : VolumesBacked (positions.set code position) held' where
  orders := horders
  volumes := by
    intro k
    rw [positionOf_set]
    split_ifs
    · exact hvolume
    · exact h.volumes k
  frozen := by
    intro k
    rw [positionOf_set]
    split_ifs with hk
    · exact hk ▸ hfrozen
    · rw [hothers k hk]
      exact h.frozen k

section Order
variable {held : Dict String (Dict String Int)} {positions : Dict String PositionVolumes} {orderId : String}

theorem VolumesBacked.keepOrder_self (h : VolumesBacked positions held) (orderId : String) :
    VolumesBacked positions (keepOrder held orderId (held.getD orderId Dict.empty)) where
  orders := keepOrder_orders h.orders orderId (positive_of_orders h.orders orderId)
  volumes := h.volumes
  frozen := by
    intro code
    rw [keepOrder_volume, add_sub_cancel_right]
    exact h.frozen code

theorem VolumesBacked.keep {reserved : Dict String Int}
    (horders : ∀ k r, held.get? k = some r → r.entries ≠ [] ∧ Positive r) (hreserved : Positive reserved)
    (h : VolumesBacked positions (keepOrder held orderId reserved)) {code : String} {remaining : Int} (hremaining : 0 ≤ remaining)
    {position : PositionVolumes} (hvolume : 0 ≤ position.availableVolume)
    (hfrozen : heldVolume (keepOrder held orderId reserved) code + remaining - reserved.getD code 0 ≤ position.frozenVolume) :
    VolumesBacked (positions.set code position) (keepOrder held orderId (keepVolume reserved code remaining)) := by
  refine h.put (keepOrder_orders horders orderId (hreserved.keepVolume code remaining)) ?_ hvolume ?_
  · intro k hk
    rw [keepOrder_volume, keepOrder_volume, keepVolume_getD reserved hremaining, if_neg hk]
  · rw [keepOrder_volume] at hfrozen
    rw [keepOrder_volume, keepVolume_getD reserved hremaining, if_pos rfl]
    omega

end Order

/-! ### The calls -/

/-- What a call keeps between two position snapshots: it takes `taken` out of each code. -/
structure VolumesKept (m m' : RuntimeReservations) (taken : String → Int) : Prop where
  backed : VolumesBacked m'.positions m'.positionReservations
  total : ∀ code, (positionOf m'.positions code).availableVolume + (positionOf m'.positions code).frozenVolume =
    (positionOf m.positions code).availableVolume + (positionOf m.positions code).frozenVolume - taken code

structure SameVolumes (m m' : RuntimeReservations) : Prop where
  positions : m'.positions = m.positions
  held : m'.positionReservations = m.positionReservations

theorem SameVolumes.kept {m m' : RuntimeReservations} (h : SameVolumes m m')
    (hm : VolumesBacked m.positions m.positionReservations) : VolumesKept m m' fun _ => 0 where
  backed := by rw [h.positions, h.held]; exact hm
  total := by intro code; rw [h.positions, sub_zero]

/-- The volume of a code that a fill of `volume` takes from an order's reservation. -/
def volumeTaken (m : RuntimeReservations) (orderId instrumentCode : String) (volume : Int) (code : String) : Int :=
  if code = instrumentCode then min ((m.positionReservations.getD orderId Dict.empty).getD instrumentCode 0) (max volume 0) else 0

section Calls
variable {m : RuntimeReservations} (h : VolumesBacked m.positions m.positionReservations) (orderId : String)
include h

theorem reservePosition_kept (code : String) (volume : Int) :
    VolumesKept m (m.reservePosition id orderId code volume).2 fun _ => 0 := by
  unfold reservePosition
  rw [ensurePositionDict_id]
  by_cases hvolume : volume ≤ 0
  · rw [if_pos hvolume]
    exact SameVolumes.kept ⟨rfl, rfl⟩ h
  rw [if_neg hvolume]
  by_cases havailable : (positionOf m.positions code).availableVolume < volume
  · rw [if_pos havailable]
    exact SameVolumes.kept ⟨rfl, rfl⟩ h
  rw [if_neg havailable]
  have hreserved := positive_of_orders h.orders orderId
  have hheld := hreserved.getD_nonneg code
  have hfrozen := h.frozen code
  generalize hr : m.positionReservations.getD orderId Dict.empty = reserved at hreserved hheld ⊢
  have hset : m.positionReservations.set orderId (reserved.set code (reserved.getD code 0 + volume)) =
      keepOrder m.positionReservations orderId (keepVolume reserved code (reserved.getD code 0 + volume)) := by
    unfold keepVolume keepOrder
    rw [if_neg (show ¬reserved.getD code 0 + volume ≤ 0 by omega), if_neg (Dict.set_entries_ne _ _ _)]
  have hself := h.keepOrder_self orderId
  rw [hr] at hself
  have hsame : heldVolume (keepOrder m.positionReservations orderId reserved) code = heldVolume m.positionReservations code := by
    rw [keepOrder_volume, hr, add_sub_cancel_right]
  constructor
  · change VolumesBacked _ (m.positionReservations.set orderId (reserved.set code (reserved.getD code 0 + volume)))
    rw [hset]
    refine VolumesBacked.keep h.orders hreserved hself (by omega) ?_ ?_
    · dsimp only
      omega
    · rw [hsame]
      dsimp only
      omega
  · intro k
    change (positionOf (m.positions.set code _) k).availableVolume + (positionOf (m.positions.set code _) k).frozenVolume = _
    rw [positionOf_set]
    split_ifs with hk
    · subst hk
      dsimp only
      omega
    · exact (sub_zero _).symm

theorem consumePosition_kept (code : String) (volume : Int) :
    VolumesKept m (m.consumePositionReservation id orderId code volume).2 (m.volumeTaken orderId code volume) := by
  have hreserved := positive_of_orders h.orders orderId
  have hheld := hreserved.getD_nonneg code
  have hfrozen := h.frozen code
  have hvolume := h.volumes code
  have hself := h.keepOrder_self orderId
  have hsame : heldVolume (keepOrder m.positionReservations orderId (m.positionReservations.getD orderId Dict.empty)) code =
      heldVolume m.positionReservations code := by
    rw [keepOrder_volume, add_sub_cancel_right]
  have hnothing : min ((m.positionReservations.getD orderId Dict.empty).getD code 0) (max volume 0) = 0 →
      VolumesKept m m (m.volumeTaken orderId code volume) := by
    intro hnone
    refine ⟨h, fun k => ?_⟩
    unfold volumeTaken
    rw [hnone, ite_self, sub_zero]
  unfold consumePositionReservation
  rw [ensurePositionDict_id]
  by_cases hasked : volume ≤ 0
  · rw [if_pos hasked]
    exact hnothing (by omega)
  rw [if_neg hasked]
  dsimp only
  by_cases hconsumed : min volume ((m.positionReservations.getD orderId Dict.empty).getD code 0) ≤ 0
  · rw [if_pos hconsumed]
    exact hnothing (by omega)
  rw [if_neg hconsumed]
  generalize hr : m.positionReservations.getD orderId Dict.empty = reserved at *
  constructor
  · refine VolumesBacked.keep h.orders hreserved hself (by omega) hvolume ?_
    rw [hsame]
    dsimp only [id]
    omega
  · intro k
    change (positionOf (m.positions.set code _) k).availableVolume + (positionOf (m.positions.set code _) k).frozenVolume = _
    rw [positionOf_set]
    unfold volumeTaken
    rw [hr]
    by_cases hk : code = k
    · subst hk
      rw [if_pos rfl, if_pos rfl]
      dsimp only [id]
      omega
    · rw [if_neg hk, if_neg (Ne.symm hk), sub_zero]

structure ReleaseKept (m : RuntimeReservations) (orderId : String) (run : Release) : Prop where
  positive : Positive run.reserved
  backed : VolumesBacked run.positions (keepOrder m.positionReservations orderId run.reserved)
  total : ∀ code, (positionOf run.positions code).availableVolume + (positionOf run.positions code).frozenVolume =
    (positionOf m.positions code).availableVolume + (positionOf m.positions code).frozenVolume
  unchanged : run.changed = false → run = ⟨m.positionReservations.getD orderId Dict.empty, m.positions, false⟩

theorem releaseCode_kept (volume : Option Int) {run : Release} (hrun : ReleaseKept m orderId run) (code : String) :
    ReleaseKept m orderId (run.code id volume code) := by
  unfold Release.code
  by_cases hcode : code = ""
  · rw [if_pos hcode]
    exact hrun
  rw [if_neg hcode]
  cases hget : run.reserved.get? code with
  | none => exact hrun
  | some held =>
    dsimp only
    rw [ensurePositionDict_id]
    generalize hrelease : volume.elim held (fun volume => min volume held) = release
    have hle : release ≤ held := by
      cases volume with
      | none => exact hrelease.symm.le
      | some volume => exact hrelease ▸ min_le_right _ _
    by_cases hnone : release ≤ 0
    · rw [if_pos hnone]
      exact hrun
    rw [if_neg hnone]
    have hheld : run.reserved.getD code 0 = held := by
      rw [Dict.getD, hget, Option.getD_some]
    have hvolume := hrun.backed.volumes code
    have hfrozen := hrun.backed.frozen code
    constructor
    · exact hrun.positive.keepVolume code _
    · refine VolumesBacked.keep h.orders hrun.positive hrun.backed (by omega) ?_ ?_
      · dsimp only
        omega
      · rw [hheld]
        dsimp only [id]
        omega
    · intro k
      rw [positionOf_set, ← hrun.total k]
      split_ifs with hk
      · subst hk
        dsimp only [id]
        omega
      · rfl
    · intro hchanged
      cases hchanged

theorem releaseCodes_kept (volume : Option Int) (codes : List String) {run : Release} (hrun : ReleaseKept m orderId run) :
    ReleaseKept m orderId (codes.foldl (Release.code id volume) run) := by
  induction codes generalizing run with
  | nil => exact hrun
  | cons code codes ih => exact ih (releaseCode_kept h orderId volume hrun code)

theorem releaseStart_kept : ReleaseKept m orderId ⟨m.positionReservations.getD orderId Dict.empty, m.positions, false⟩ :=
  ⟨positive_of_orders h.orders orderId, h.keepOrder_self orderId, fun _ => rfl, fun _ => rfl⟩

theorem releasePosition_kept (instrumentCode : Option String) (volume : Option Int) :
    VolumesKept m (m.releasePosition id orderId instrumentCode volume).2 fun _ => 0 := by
  unfold releasePosition
  dsimp only
  by_cases hnone : (m.positionReservations.getD orderId Dict.empty).entries = []
  · rw [if_pos hnone]
    exact SameVolumes.kept ⟨rfl, rfl⟩ h
  rw [if_neg hnone]
  have hrun := releaseCodes_kept h orderId volume
    (if instrumentCode.getD "" = "" then (m.positionReservations.getD orderId Dict.empty).keys else [instrumentCode.getD ""])
    (releaseStart_kept h orderId)
  generalize List.foldl (Release.code id volume) _ _ = run at hrun ⊢
  obtain ⟨-, hbacked, htotal, hunchanged⟩ := hrun
  cases hchanged : run.changed with
  | true => exact ⟨hbacked, fun code => (htotal code).trans (sub_zero _).symm⟩
  | false =>
    rw [hunchanged hchanged] at hbacked ⊢
    exact ⟨hbacked, fun code => (sub_zero _).symm⟩

/-! ### The cuts at zero -/

section Cuts
variable {clamp : Int → Int} (hclamp : ∀ x, 0 ≤ x → clamp x = x)
include hclamp

theorem ensurePositionDict_uncut (code : String) :
    ensurePositionDict clamp (m.positions.get? code) = ensurePositionDict id (m.positions.get? code) := by
  have hvolume := h.volumes code
  have hfrozen := le_trans (heldVolume_nonneg h.orders code) (h.frozen code)
  change PositionVolumes.mk (clamp (positionOf m.positions code).availableVolume) (clamp (positionOf m.positions code).frozenVolume) = _
  rw [hclamp _ hvolume, hclamp _ hfrozen]
  rfl

theorem reservePosition_uncut (code : String) (volume : Int) :
    m.reservePosition clamp orderId code volume = m.reservePosition id orderId code volume := by
  unfold reservePosition
  rw [ensurePositionDict_uncut h hclamp]

theorem consumePosition_uncut (code : String) (volume : Int) :
    m.consumePositionReservation clamp orderId code volume = m.consumePositionReservation id orderId code volume := by
  have hle := le_trans (getD_le_heldVolume h.orders orderId code) (h.frozen code)
  have htaken := min_le_right volume ((m.positionReservations.getD orderId Dict.empty).getD code 0)
  unfold consumePositionReservation
  rw [ensurePositionDict_uncut h hclamp, ensurePositionDict_id]
  dsimp only
  rw [hclamp (volume - _) (Int.sub_nonneg_of_le (min_le_left _ _)), hclamp ((positionOf m.positions code).frozenVolume - _) (by omega)]
  rfl

theorem releaseCode_uncut (volume : Option Int) {run : Release} (hrun : ReleaseKept m orderId run) (code : String) :
    run.code clamp volume code = run.code id volume code := by
  unfold Release.code
  cases hget : run.reserved.get? code with
  | none => rfl
  | some held =>
    have hvolume := hrun.backed.volumes code
    have hfrozen := le_trans (heldVolume_nonneg hrun.backed.orders code) (hrun.backed.frozen code)
    have hle := le_trans (getD_le_heldVolume hrun.backed.orders orderId code) (hrun.backed.frozen code)
    rw [keepOrder_getD, Dict.getD, hget, Option.getD_some] at hle
    have hrelease : volume.elim held (fun volume => min volume held) ≤ held := by
      cases volume with
      | none => exact le_refl _
      | some volume => exact min_le_right _ _
    have hensure : ensurePositionDict clamp (run.positions.get? code) = ensurePositionDict id (run.positions.get? code) := by
      change PositionVolumes.mk (clamp (positionOf run.positions code).availableVolume)
        (clamp (positionOf run.positions code).frozenVolume) = _
      rw [hclamp _ hvolume, hclamp _ hfrozen]
      rfl
    dsimp only
    rw [hensure, ensurePositionDict_id, hclamp ((positionOf run.positions code).frozenVolume - _) (by omega)]
    rfl

theorem releasePosition_uncut (instrumentCode : Option String) (volume : Option Int) :
    m.releasePosition clamp orderId instrumentCode volume = m.releasePosition id orderId instrumentCode volume := by
  have hcodes : ∀ (codes : List String) (run : Release), ReleaseKept m orderId run →
      codes.foldl (Release.code clamp volume) run = codes.foldl (Release.code id volume) run := by
    intro codes
    induction codes with
    | nil => exact fun _ _ => rfl
    | cons code codes ih =>
      intro run hrun
      rw [List.foldl_cons, List.foldl_cons, releaseCode_uncut h orderId hclamp volume hrun code]
      exact ih _ (releaseCode_kept h orderId volume hrun code)
  unfold releasePosition
  dsimp only
  rw [hcodes _ _ (releaseStart_kept h orderId)]

end Cuts
end Calls

theorem VolumesBacked.taken_eq {m : RuntimeReservations} (h : VolumesBacked m.positions m.positionReservations)
    (orderId code : String) (volume : Int) :
    (m.consumePositionReservation id orderId code volume).1 = max volume 0 - m.volumeTaken orderId code volume code ∧
      ((m.consumePositionReservation id orderId code volume).2.positionReservations.getD orderId Dict.empty).getD code 0 =
        (m.positionReservations.getD orderId Dict.empty).getD code 0 - m.volumeTaken orderId code volume code := by
  have hheld := (positive_of_orders h.orders orderId).getD_nonneg code
  unfold volumeTaken consumePositionReservation
  rw [if_pos rfl]
  by_cases hasked : volume ≤ 0
  · rw [if_pos hasked]
    constructor
    · dsimp only
      omega
    · dsimp only
      omega
  rw [if_neg hasked]
  dsimp only
  by_cases hconsumed : min volume ((m.positionReservations.getD orderId Dict.empty).getD code 0) ≤ 0
  · rw [if_pos hconsumed]
    constructor
    · dsimp only [id]
      omega
    · omega
  rw [if_neg hconsumed]
  constructor
  · dsimp only [id]
    omega
  · change ((keepOrder m.positionReservations orderId (keepVolume _ code _)).getD orderId Dict.empty).getD code 0 = _
    rw [keepOrder_getD, keepVolume_getD _ (by omega), if_pos rfl]
    omega

/-- The reserved volumes after `old` became `new`. -/
def moveVolumes (held : Dict String (Dict String Int)) (old new : String) : Dict String (Dict String Int) :=
  if (held.getD old Dict.empty).entries ≠ [] then
    (held.erase old).set new (((held.erase old).getD new Dict.empty).tally (held.getD old Dict.empty).entries)
  else held.erase old

theorem Positive.tally {d e : Dict String Int} (hd : Positive d) (he : Positive e) : Positive (d.tally e.entries) := by
  intro code volume hget
  rw [Dict.get?_tally_entries] at hget
  cases hadded : e.get? code with
  | none =>
    rw [hadded] at hget
    exact hd _ _ hget
  | some added =>
    rw [hadded] at hget
    cases hget
    have hpos := he _ _ hadded
    have hheld := hd.getD_nonneg code
    omega

section Move
variable {held : Dict String (Dict String Int)} {old new : String}
  (h : ∀ orderId reserved, held.get? orderId = some reserved → reserved.entries ≠ [] ∧ Positive reserved)
include h

theorem erase_orders : ∀ orderId reserved, (held.erase old).get? orderId = some reserved → reserved.entries ≠ [] ∧ Positive reserved := by
  intro orderId reserved hget
  rw [Dict.get?_erase] at hget
  split_ifs at hget
  exact h _ _ hget

theorem moveVolumes_orders :
    ∀ orderId reserved, (moveVolumes held old new).get? orderId = some reserved → reserved.entries ≠ [] ∧ Positive reserved := by
  intro orderId reserved hget
  unfold moveVolumes at hget
  split_ifs at hget with hsome
  · rw [Dict.get?_set] at hget
    split_ifs at hget
    · cases hget
      exact ⟨Dict.tally_entries_ne hsome _, (positive_of_orders (erase_orders h) new).tally (positive_of_orders h old)⟩
    · exact erase_orders h _ _ hget
  · exact erase_orders h _ _ hget

omit h in
theorem moveVolumes_volume (code : String) : heldVolume (moveVolumes held old new) code = heldVolume held code := by
  have herase := Dict.sumBy_erase_default held old (f := fun _ reserved => reserved.getD code 0) (a := Dict.empty) rfl
  unfold moveVolumes heldVolume
  by_cases hnone : (held.getD old Dict.empty).entries = []
  · rw [if_neg (not_not.mpr hnone), herase, show held.getD old Dict.empty = Dict.empty from Dict.ext hnone]
    exact sub_zero _
  · rw [if_pos hnone, Dict.sumBy_set_default _ _ _ (a := Dict.empty) rfl, Dict.getD_tally_entries, herase]
    omega

end Move

theorem transferReservation_volumes {m : RuntimeReservations} (h : VolumesBacked m.positions m.positionReservations)
    (oldOrderId newOrderId : String) : VolumesKept m (m.transferReservation oldOrderId newOrderId) fun _ => 0 := by
  unfold transferReservation
  by_cases hsame : oldOrderId = newOrderId
  · rw [if_pos hsame]
    exact SameVolumes.kept ⟨rfl, rfl⟩ h
  rw [if_neg hsame]
  refine ⟨⟨moveVolumes_orders h.orders, h.volumes, ?_⟩, fun code => (sub_zero _).symm⟩
  intro code
  exact (moveVolumes_volume code).trans_le (h.frozen code)

/-! ### Position snapshots -/

/-- The position that a snapshot leaves for a code: none when neither the snapshot nor a local order has it. -/
def snapshotPosition (clamp : Int → Int) (m : RuntimeReservations) (snapshot : Dict String PositionVolumes) (orderIds : List String)
    (code : String) : Option PositionVolumes :=
  if !snapshot.contains code ∧ m.localFrozen orderIds code = 0 then none
  else some (ensurePositionDict clamp (some ⟨clamp ((positionOf snapshot code).availableVolume - m.localFrozen orderIds code),
    (positionOf snapshot code).frozenVolume + m.localFrozen orderIds code⟩))

section Snapshot
variable (clamp : Int → Int) (m : RuntimeReservations) (snapshot : Dict String PositionVolumes) (orderIds : List String)

theorem replaceBrokerPosition_get? (positions : Dict String PositionVolumes) (code k : String) :
    (m.replaceBrokerPosition clamp snapshot orderIds positions code).get? k =
      if code = k then snapshotPosition clamp m snapshot orderIds k else positions.get? k := by
  unfold replaceBrokerPosition snapshotPosition positionOf
  dsimp only
  by_cases hk : code = k
  · subst hk
    rw [if_pos rfl]
    split_ifs
    · rw [Dict.get?_erase, if_pos rfl]
    · rw [Dict.get?_set_self]
  · rw [if_neg hk]
    split_ifs
    · rw [Dict.get?_erase, if_neg hk, Dict.get?_set_ne _ _ hk]
    · rw [Dict.get?_set_ne _ _ hk]

theorem replaceBrokerPositions_get? (k : String) : (m.replaceBrokerPositions clamp snapshot orderIds).positions.get? k =
    if k ∈ (m.positions.keys ++ snapshot.keys).dedup then snapshotPosition clamp m snapshot orderIds k else m.positions.get? k := by
  unfold replaceBrokerPositions
  generalize (m.positions.keys ++ snapshot.keys).dedup = codes
  induction codes using List.reverseRecOn with
  | nil => rfl
  | append_singleton codes code ih =>
    rw [List.foldl_append, List.foldl_cons, List.foldl_nil, replaceBrokerPosition_get?, ih]
    by_cases hk : code = k
    · simp [hk]
    · have hk' : ¬k = code := fun heq => hk heq.symm
      simp [hk, hk']

variable {m snapshot orderIds}

theorem heldVolume_split (orderIds : List String) (code : String) :
    heldVolume m.positionReservations code = m.coveredVolume orderIds code + m.localFrozen orderIds code := by
  unfold heldVolume coveredVolume localFrozen
  rw [← Dict.sumBy_add]
  refine Dict.sumBy_congr ?_
  intro orderId reserved hget
  split_ifs <;> omega

theorem localFrozen_nonneg (h : VolumesBacked m.positions m.positionReservations) (orderIds : List String) (code : String) : 0 ≤ m.localFrozen orderIds code := by
  refine Dict.sumBy_nonneg ?_
  intro orderId reserved hget
  split_ifs
  · exact le_refl 0
  · exact (h.orders _ _ hget).2.getD_nonneg code

/-- The snapshot backs what is reserved: its frozen volumes the orders it covers, its available volumes the others. -/
def SnapshotBacks (m : RuntimeReservations) (snapshot : Dict String PositionVolumes) (orderIds : List String) : Prop :=
  ∀ code, m.coveredVolume orderIds code ≤ (positionOf snapshot code).frozenVolume ∧
    m.localFrozen orderIds code ≤ (positionOf snapshot code).availableVolume

variable (h : VolumesBacked m.positions m.positionReservations) (hlegal : m.SnapshotBacks snapshot orderIds)
include h hlegal

theorem replaceBrokerPositions_position (code : String) :
    positionOf (m.replaceBrokerPositions id snapshot orderIds).positions code =
      ⟨(positionOf snapshot code).availableVolume - m.localFrozen orderIds code,
        (positionOf snapshot code).frozenVolume + m.localFrozen orderIds code⟩ := by
  obtain ⟨-, havailable⟩ := hlegal code
  have hlocal := localFrozen_nonneg h orderIds code
  have habsent : snapshot.get? code = none → positionOf snapshot code = ⟨0, 0⟩ := by
    intro hnone
    rw [positionOf, Dict.getD, hnone, Option.getD_none]
  rw [positionOf, Dict.getD, replaceBrokerPositions_get?]
  by_cases hcode : code ∈ (m.positions.keys ++ snapshot.keys).dedup
  · rw [if_pos hcode]
    unfold snapshotPosition
    by_cases hgone : !snapshot.contains code ∧ m.localFrozen orderIds code = 0
    · obtain ⟨hnone, hzero⟩ := hgone
      have hnone : snapshot.get? code = none := by simpa [Dict.contains] using hnone
      rw [if_pos ⟨by simp [Dict.contains, hnone], hzero⟩, habsent hnone, hzero]
      rfl
    · rw [if_neg hgone]
      rfl
  · rw [if_neg hcode]
    rw [List.mem_dedup, List.mem_append] at hcode
    obtain ⟨hheld, hsnapshot⟩ := not_or.mp hcode
    have hnone : snapshot.get? code = none := Dict.lookup_eq_none.mpr hsnapshot
    have hposition : m.positions.get? code = none := Dict.lookup_eq_none.mpr hheld
    rw [habsent hnone] at havailable ⊢
    have hzero : m.localFrozen orderIds code = 0 := le_antisymm havailable hlocal
    rw [hposition, hzero]
    rfl

theorem replaceBrokerPositions_backed :
    VolumesBacked (m.replaceBrokerPositions id snapshot orderIds).positions m.positionReservations where
  orders := h.orders
  volumes := by
    intro code
    have hlocal := (hlegal code).2
    rw [replaceBrokerPositions_position h hlegal]
    dsimp only
    omega
  frozen := by
    intro code
    have hcovered := (hlegal code).1
    rw [replaceBrokerPositions_position h hlegal, heldVolume_split orderIds]
    dsimp only
    omega

theorem replaceBrokerPositions_uncut (hclamp : ∀ x, 0 ≤ x → clamp x = x) :
    m.replaceBrokerPositions clamp snapshot orderIds = m.replaceBrokerPositions id snapshot orderIds := by
  have hcode : m.replaceBrokerPosition clamp snapshot orderIds = m.replaceBrokerPosition id snapshot orderIds := by
    funext positions code
    obtain ⟨hcovered, havailable⟩ := hlegal code
    have hlocal := localFrozen_nonneg h orderIds code
    have hheld : 0 ≤ m.coveredVolume orderIds code := by
      refine Dict.sumBy_nonneg ?_
      intro orderId reserved hget
      split_ifs
      · exact (h.orders _ _ hget).2.getD_nonneg code
      · exact le_refl 0
    have hensure : ensurePositionDict clamp (some ⟨clamp ((positionOf snapshot code).availableVolume - m.localFrozen orderIds code),
        (positionOf snapshot code).frozenVolume + m.localFrozen orderIds code⟩) =
        ensurePositionDict id (some ⟨id ((positionOf snapshot code).availableVolume - m.localFrozen orderIds code),
          (positionOf snapshot code).frozenVolume + m.localFrozen orderIds code⟩) := by
      change PositionVolumes.mk (clamp (clamp _)) (clamp ((positionOf snapshot code).frozenVolume + m.localFrozen orderIds code)) = _
      rw [hclamp ((positionOf snapshot code).availableVolume - _) (by omega),
        hclamp ((positionOf snapshot code).availableVolume - _) (by omega),
        hclamp ((positionOf snapshot code).frozenVolume + _) (by omega)]
      rfl
    unfold replaceBrokerPosition
    unfold positionOf at hensure
    dsimp only at hensure ⊢
    rw [hensure]
  unfold replaceBrokerPositions
  rw [hcode]

end Snapshot

end RuntimeReservations
end QuantX
