import QuantX.Theorems.BucketLedger.Conservation
import QuantX.Lib.Require

namespace QuantX
open Lib

namespace BucketPositionState
variable {state : BucketPositionState}

theorem mark_volumes (h : state.volumes.Normal) (lastPrice avgPrice marketValue : Rat) (total : Int) :
    (state.mark lastPrice avgPrice marketValue total).volumes = state.volumes := by
  unfold mark
  exact normalize_volumes h

theorem takeDelta_total (delta unbooked : Int) :
    (state.takeDelta delta unbooked).totalVolume = max 0 (state.totalVolume + delta) := by
  simp only [takeDelta, normalize]
  omega

theorem takeDelta_available (h : state.volumes.Normal) (delta unbooked : Int) :
    (state.takeDelta delta unbooked).availableVolume ≤ state.availableVolume + max 0 unbooked := by
  have havailable : 0 ≤ state.availableVolume := h.available
  simp only [takeDelta, normalize]
  split <;> omega

end BucketPositionState

namespace BucketLedger
variable {ledger next : BucketLedger} {code : String} {position : List (String × PyVal)} {long available : Int}

def instrumentAvailable (ledger : BucketLedger) (code : String) : Int :=
  (knownBuckets.map fun bucket => (ledger.state code bucket).availableVolume).sum

theorem sum_ensured (ledger : BucketLedger) (code : String) (f : BucketPositionState → Int) :
    ((ledger.ensureInstrument code).buckets.getD code Dict.empty).sum f =
      (knownBuckets.map fun bucket => f (ledger.state code bucket)).sum :=
  Dict.sum_of_get? (by decide) (fun bucket => by cases bucket <;> decide) (ledger.get?_ensureInstrument code) f

theorem values_ensured_all :
    ((ledger.ensureInstrument code).buckets.getD code Dict.empty).values.all (·.totalVolume = 0) = true ↔
      ∀ bucket, (ledger.state code bucket).totalVolume = 0 := by
  rw [List.all_eq_true]
  constructor
  · intro h bucket
    exact of_decide_eq_true (h _ (Dict.mem_values.mpr ⟨bucket, ledger.get?_ensureInstrument code bucket⟩))
  · intro h state hstate
    obtain ⟨bucket, hget⟩ := Dict.mem_values.mp hstate
    rw [get?_ensureInstrument] at hget
    obtain rfl := Option.some.inj hget
    exact decide_eq_true (h bucket)

theorem instrumentTotal_eq (ledger : BucketLedger) (code : String) :
    ledger.instrumentTotal code = (ledger.state code .lockedCore).totalVolume + (ledger.state code .core).totalVolume +
      (ledger.state code .swing).totalVolume := by
  simp only [instrumentTotal, knownBuckets, List.map_cons, List.map_nil, List.sum_cons, List.sum_nil]
  omega

theorem instrumentAvailable_eq (ledger : BucketLedger) (code : String) :
    ledger.instrumentAvailable code = (ledger.state code .lockedCore).availableVolume +
      (ledger.state code .core).availableVolume + (ledger.state code .swing).availableVolume := by
  simp only [instrumentAvailable, knownBuckets, List.map_cons, List.map_nil, List.sum_cons, List.sum_nil]
  omega

theorem positionChecks_total {head : String} {buckets : Dict Bucket BucketPositionState} {checks : List LedgerIssue}
    (h : positionChecks head buckets position = .ok checks) {issue : LedgerIssue} (hissue : issue ∈ checks) :
    issue.code = head ∧ (issue.fieldName = "total_volume" →
      issue.actual = buckets.sum (·.totalVolume) ∧ longVolume position = .ok issue.expected) := by
  obtain ⟨expected, hexpected, h⟩ := bind_eq_ok.mp h
  obtain ⟨optional, hoptional, h⟩ := bind_eq_ok.mp h
  obtain rfl := Except.ok.inj h
  rcases List.mem_cons.mp hissue with rfl | hissue
  · exact ⟨rfl, fun _ => ⟨rfl, hexpected⟩⟩
  · obtain ⟨field, hfield, hread⟩ := (mapM_each hoptional).2 issue hissue
    obtain ⟨volume, hvolume, hread⟩ := bind_eq_ok.mp hread
    obtain rfl := Except.ok.inj hread
    refine ⟨rfl, fun hname => ?_⟩
    have hmember := (List.mem_filter.mp hfield).1
    simp only [optionalVolumes, List.mem_cons, List.not_mem_nil, or_false] at hmember
    rcases hmember with rfl | rfl | rfl <;> simp at hname

theorem validateCodes_total {positions : Dict String (List (String × PyVal))} (hget : positions.get? code = some position)
    (hlong : longVolume position = .ok long) {codes : List String} :
    ∀ {ledger : BucketLedger} {issues : List LedgerIssue}, (ledger.validateCodes positions codes).2 = .ok issues →
      ∀ issue ∈ issues, issue.code = code → issue.fieldName = "total_volume" → ledger.instrumentTotal code ≠ long := by
  induction codes with
  | nil =>
    intro ledger issues h issue hissue
    obtain rfl := Except.ok.inj h
    cases hissue
  | cons head codes ih =>
    intro ledger issues h issue hissue hcode hfield
    rw [validateCodes] at h
    split at h
    · cases h
    · rename_i checks hchecks
      cases hrest : ((ledger.ensureInstrument head).validateCodes positions codes).2 with
      | error e =>
        simp only [hrest, Except.map] at h
        cases h
      | ok rest =>
        simp only [hrest, Except.map] at h
        obtain rfl := Except.ok.inj h
        rcases List.mem_append.mp hissue with hown | hlater
        · obtain ⟨hown, hdiffers⟩ := List.mem_filter.mp hown
          obtain ⟨hhead, htotal⟩ := positionChecks_total hchecks hown
          obtain ⟨hactual, hexpected⟩ := htotal hfield
          obtain rfl := hhead.symm.trans hcode
          rw [Dict.getD, hget, Option.getD_some, hlong] at hexpected
          rw [← (hactual.trans (ledger.sum_ensured head _) : issue.actual = ledger.instrumentTotal head), Except.ok.inj hexpected]
          exact of_decide_eq_true hdiffers
        · have htail := ih hrest issue hlater hcode hfield
          simpa only [instrumentTotal, state_ensureInstrument] using htail

/-! ## What a synchronization does -/

/-- The core bucket takes the whole difference as far as it has room; the other buckets keep their volumes. -/
structure Followed (ledger next : BucketLedger) (code : String) (long available : Int) : Prop where
  normal : next.NormalAt code
  others : ∀ bucket, bucket ≠ .core → next.volumes code bucket = ledger.volumes code bucket
  total : (next.state code .core).totalVolume =
    max 0 ((ledger.state code .core).totalVolume + (long - ledger.instrumentTotal code))
  available : (next.state code .core).availableVolume ≤
    (ledger.state code .core).availableVolume + max 0 (available - ledger.instrumentAvailable code)

theorem NormalAt.available_eq_zero (h : ledger.NormalAt code) {bucket : Bucket} (hzero : (ledger.state code bucket).totalVolume = 0) :
    (ledger.state code bucket).availableVolume = 0 := by
  obtain ⟨-, havailable, -, hfrozen, hfits⟩ := h bucket
  simp only [volumes, BucketPositionState.volumes] at havailable hfrozen hfits
  omega

theorem markToMarket_followed {middle : BucketLedger} (h : Followed ledger middle code long available)
    (lastPrice avgPrice marketValue : Rat) :
    Followed ledger (middle.markToMarket code lastPrice avgPrice marketValue) code long available := by
  have hvolumes : ∀ bucket, (middle.markToMarket code lastPrice avgPrice marketValue).volumes code bucket =
      middle.volumes code bucket := by
    intro bucket
    rw [volumes, markToMarket, state_modifyBuckets]
    exact BucketPositionState.mark_volumes (h.normal bucket) _ _ _ _
  refine ⟨fun bucket => hvolumes bucket ▸ h.normal bucket,
    fun bucket hbucket => (hvolumes bucket).trans (h.others bucket hbucket), ?_, ?_⟩
  · exact (congrArg Volumes.total (hvolumes .core)).trans h.total
  · exact (congrArg Volumes.available (hvolumes .core)).le.trans h.available

theorem syncBuckets_followed (hnormal : ledger.NormalAt code) {figures : PositionFigures} {marketValue : Except String Rat}
    (h : ledger.syncBuckets code figures marketValue = (next, .ok ())) :
    Followed ledger next code figures.longVolume figures.available := by
  rw [syncBuckets] at h
  split at h
  · rename_i hzero
    have htotals := values_ensured_all.mp hzero
    have htotal : ledger.instrumentTotal code = 0 := by
      rw [instrumentTotal_eq, htotals, htotals, htotals]
      rfl
    have havailable : ledger.instrumentAvailable code = 0 := by
      rw [instrumentAvailable_eq, hnormal.available_eq_zero (htotals _), hnormal.available_eq_zero (htotals _),
        hnormal.available_eq_zero (htotals _)]
      rfl
    cases marketValue with
    | error e => cases h
    | ok marketValue =>
      obtain rfl := (Prod.mk.inj h).1
      refine ⟨fun bucket => ?_, fun bucket hbucket => ?_, ?_, ?_⟩
      · by_cases hbucket : Bucket.core = bucket
        · simp only [volumes, state_modifyBucket, hbucket, and_self, if_true]
          exact BucketPositionState.normalize_normal _
        · simp only [volumes, state_modifyBucket, state_ensureInstrument, hbucket, and_false, if_false]
          exact hnormal bucket
      · simp [volumes, state_modifyBucket, hbucket.symm]
      · simp only [state_modifyBucket, and_self, if_true, BucketPositionState.normalize, BucketPositionState.takePosition,
          htotals, htotal]
        omega
      · simp only [state_modifyBucket, and_self, if_true, BucketPositionState.normalize, BucketPositionState.takePosition,
          state_ensureInstrument, hnormal.available_eq_zero (htotals _), havailable]
        omega
  · cases marketValue with
    | error e => cases h
    | ok marketValue =>
      obtain rfl := (Prod.mk.inj h).1
      rw [sum_ensured, sum_ensured]
      change Followed ledger (markToMarket (if figures.longVolume - ledger.instrumentTotal code ≠ 0 then
        (ledger.ensureInstrument code).modifyBucket code .core (·.takeDelta (figures.longVolume - ledger.instrumentTotal code)
          (figures.available - ledger.instrumentAvailable code)) else ledger.ensureInstrument code) code _ _ _) code _ _
      have hensured : (ledger.ensureInstrument code).NormalAt code := fun bucket => by
        rw [volumes, state_ensureInstrument]
        exact hnormal bucket
      split
      · refine markToMarket_followed ⟨modifyBucket_normalAt hensured _ _ fun state => BucketPositionState.normalize_normal _,
          fun bucket hbucket => ?_, ?_, ?_⟩ _ _ _
        · simp [volumes, state_modifyBucket, hbucket.symm]
        · rw [state_modifyBucket, if_pos ⟨rfl, rfl⟩, state_ensureInstrument]
          exact BucketPositionState.takeDelta_total _ _
        · rw [state_modifyBucket, if_pos ⟨rfl, rfl⟩, state_ensureInstrument]
          exact BucketPositionState.takeDelta_available (hnormal .core) _ _
      · rename_i hsame
        refine markToMarket_followed ⟨hensured, fun bucket _ => ?_, ?_, ?_⟩ _ _ _
        · rw [volumes, state_ensureInstrument, volumes]
        · have hcore := (hnormal .core).total
          simp only [volumes, BucketPositionState.volumes] at hcore
          rw [state_ensureInstrument]
          omega
        · rw [state_ensureInstrument]
          omega

theorem syncPosition_followed (hcode : code ≠ "") (hnormal : ledger.NormalAt code) (hlong : longVolume position = .ok long)
    (hpos : 0 < long) (havailable : intField position "available_volume" = .ok available)
    (hsync : ledger.syncPosition code position = (next, .ok ())) : Followed ledger next code long available := by
  rw [syncPosition, if_neg hcode] at hsync
  cases hfigures : PositionFigures.read position with
  | error e =>
    rw [hfigures] at hsync
    cases hsync
  | ok figures =>
    obtain ⟨long', hlong', hrest⟩ := bind_eq_ok.mp hfigures
    obtain ⟨available', havailable', hrest⟩ := bind_eq_ok.mp hrest
    obtain ⟨frozen, -, hrest⟩ := bind_eq_ok.mp hrest
    obtain ⟨todayBuy, -, hrest⟩ := bind_eq_ok.mp hrest
    obtain ⟨avgPrice, -, hrest⟩ := bind_eq_ok.mp hrest
    obtain ⟨lastPrice, -, hrest⟩ := bind_eq_ok.mp hrest
    obtain rfl := Except.ok.inj hrest
    obtain rfl := Except.ok.inj (hlong.symm.trans hlong')
    obtain rfl := Except.ok.inj (havailable.symm.trans havailable')
    simp only [hfigures] at hsync
    rw [if_neg fun h => absurd h.1 (not_le.mpr hpos)] at hsync
    exact syncBuckets_followed hnormal hsync

/-- The buckets have the volume of the position, nothing goes into those that the core one does not stand for, and no
    volume becomes available that the position does not have. -/
structure Synchronized (ledger next : BucketLedger) (code : String) (position : List (String × PyVal)) (long available : Int) :
    Prop where
  total : next.instrumentTotal code = long
  reconciled : ∀ positions issues, positions.get? code = some position → (next.validateIssues positions).2 = .ok issues →
    ∀ issue ∈ issues, issue.code = code → issue.fieldName ≠ "total_volume"
  swing : (next.state code .swing).totalVolume ≤ (ledger.state code .swing).totalVolume
  lockedCore : (next.state code .lockedCore).totalVolume ≤ (ledger.state code .lockedCore).totalVolume
  available : next.instrumentAvailable code ≤ max available (ledger.instrumentAvailable code)

/-- A synchronization does all it is for exactly where the position has room for the buckets that it takes
    nothing from. -/
theorem syncPosition_synchronized_iff (hcode : code ≠ "") (hnormal : ledger.NormalAt code)
    (hlong : longVolume position = .ok long) (hpos : 0 < long) (havailable : intField position "available_volume" = .ok available)
    (hsync : ledger.syncPosition code position = (next, .ok ())) :
    Synchronized ledger next code position long available ↔
      (ledger.state code .swing).totalVolume + (ledger.state code .lockedCore).totalVolume ≤ long := by
  have hfollowed := syncPosition_followed hcode hnormal hlong hpos havailable hsync
  have hswing := hfollowed.others .swing (by decide)
  have hlocked := hfollowed.others .lockedCore (by decide)
  have hcore := hfollowed.total
  simp only [volumes, BucketPositionState.volumes, Volumes.mk.injEq] at hswing hlocked
  obtain ⟨hswing, hswingAvailable, -⟩ := hswing
  obtain ⟨hlocked, hlockedAvailable, -⟩ := hlocked
  rw [instrumentTotal_eq] at hcore
  constructor
  · intro h
    have htotal := h.total
    rw [instrumentTotal_eq] at htotal
    omega
  · intro hroom
    have htotal : next.instrumentTotal code = long := by
      rw [instrumentTotal_eq]
      omega
    refine ⟨htotal, fun positions issues hget hissues issue hissue hown hfield => ?_, hswing.le, hlocked.le, ?_⟩
    · exact validateCodes_total hget hlong hissues issue hissue hown hfield htotal
    · have hcoreAvailable := hfollowed.available
      simp only [instrumentAvailable_eq] at hcoreAvailable ⊢
      omega

def swingLedger : BucketLedger where
  runId := "run-1"
  buckets := Dict.ofList [("600000.SH", Dict.ofList [
    (.core, { bucket := .core, totalVolume := 100, availableVolume := 100 }),
    (.swing, { bucket := .swing, totalVolume := 500, availableVolume := 500 })])]

def heldPosition (long : Int) : List (String × PyVal) := [("long_volume", .int long), ("available_volume", .int long)]

theorem swingLedger_normalAt : swingLedger.NormalAt "600000.SH" := by
  intro bucket
  cases bucket <;> exact ⟨by decide +kernel, by decide +kernel, by decide +kernel, by decide +kernel, by decide +kernel⟩

theorem swing_ledger_synchronized :
    Synchronized swingLedger (swingLedger.syncPosition "600000.SH" (heldPosition 700)).1 "600000.SH" (heldPosition 700) 700 700 :=
  (syncPosition_synchronized_iff (by decide) swingLedger_normalAt rfl (by decide) rfl (Prod.ext rfl rfl)).mpr (by decide)

/-- The core bucket gives up its 100, and the buckets keep 500 of a position of 300. -/
theorem swing_ledger_not_synchronized :
    swingLedger.NormalAt "600000.SH" ∧ longVolume (heldPosition 300) = .ok 300 ∧
      (swingLedger.syncPosition "600000.SH" (heldPosition 300)).2 = .ok () ∧
      (swingLedger.syncPosition "600000.SH" (heldPosition 300)).1.instrumentTotal "600000.SH" = 500 ∧
      ¬ Synchronized swingLedger (swingLedger.syncPosition "600000.SH" (heldPosition 300)).1 "600000.SH" (heldPosition 300)
        300 300 := by
  have htotal : (swingLedger.syncPosition "600000.SH" (heldPosition 300)).1.instrumentTotal "600000.SH" = 500 := by
    decide +kernel
  refine ⟨swingLedger_normalAt, rfl, rfl, htotal, fun h => ?_⟩
  have hheld := h.total
  exact absurd hheld (by decide)

end BucketLedger

end QuantX
