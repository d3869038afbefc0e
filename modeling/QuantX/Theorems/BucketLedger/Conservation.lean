import QuantX.Theorems.BucketLedger.Undo

namespace QuantX
open Lib

/-! ## Orders -/

/-- What the legs of a pending order keep to. Only a substitution sell draws on the locked bucket. -/
structure PendingOrder.Held (order : PendingOrder) : Prop where
  legs : LegsOk order.reservedLegs
  other : order.orderType ≠ .sell → order.reservedLegs = []
  locked : (∃ leg ∈ order.reservedLegs, leg.bucket = .lockedCore) → order.substitutionPlanId ≠ none

namespace PendingOrder
variable {order : PendingOrder} {code : String} {bucket : Bucket}

theorem Held.reservedOn_nonneg (h : order.Held) (code : String) (bucket : Bucket) : 0 ≤ order.reservedOn code bucket := by
  unfold reservedOn
  split
  · exact heldIn_nonneg h.legs
  · exact le_refl 0

theorem Held.reservedOn_eq (h : order.Held) (code : String) (bucket : Bucket) :
    order.reservedOn code bucket = if order.instrumentCode = code then heldIn bucket order.reservedLegs else 0 := by
  unfold reservedOn
  by_cases hsell : order.orderType = .sell
  · simp [hsell]
  · simp [hsell, h.other hsell]

end PendingOrder

namespace BucketLedger
variable {ledger next : BucketLedger} {code orderId : String} {order : PendingOrder}
variable {change : Bucket → Volumes → Volumes}

/-- The parts of every bucket fit, and the legs of the pending sells lie within the frozen parts. -/
structure Covered (ledger : BucketLedger) : Prop where
  sound : ∀ code, ledger.SoundAt code
  named : ledger.pendingOrders.get? "" = none
  orders : ∀ id order, ledger.pendingOrders.get? id = some order → order.Held
  reserved : ∀ code bucket, ledger.reservedOn code bucket ≤ ledger.frozen code bucket

theorem Covered.heldIn_le (h : ledger.Covered) (hget : ledger.pendingOrders.get? orderId = some order) (bucket : Bucket) :
    heldIn bucket order.reservedLegs ≤ (ledger.volumes order.instrumentCode bucket).frozen := by
  have hsum := reservedOn_erase hget order.instrumentCode bucket
  have hrest : 0 ≤ (ledger.pendingOrders.erase orderId).sum fun order' => order'.reservedOn order.instrumentCode bucket := by
    refine Dict.sum_nonneg fun id other hother => ?_
    rw [Dict.get?_erase] at hother
    split at hother
    · cases hother
    · exact (h.orders id other hother).reservedOn_nonneg _ _
  have hle := h.reserved order.instrumentCode bucket
  rw [(h.orders orderId order hget).reservedOn_eq, if_pos rfl] at hsum
  show _ ≤ ledger.frozen order.instrumentCode bucket
  omega

theorem Covered.replaced_nonneg (h : ledger.Covered) (orderId code : String) (bucket : Bucket) :
    0 ≤ ((ledger.pendingOrders.get? orderId).map (·.reservedOn code bucket)).getD 0 := by
  cases hget : ledger.pendingOrders.get? orderId with
  | none => exact le_refl 0
  | some old => exact (h.orders orderId old hget).reservedOn_nonneg code bucket

theorem Covered.erase (h : ledger.Covered) (hget : ledger.pendingOrders.get? orderId = some order)
    (hpending : next.pendingOrders = ledger.pendingOrders.erase orderId) (hsound : ∀ code, next.SoundAt code)
    (hfrozen : ∀ code bucket, ledger.frozen code bucket - order.reservedOn code bucket ≤ next.frozen code bucket) :
    next.Covered where
  sound := hsound
  named := by
    rw [hpending, Dict.get?_erase]
    split
    · rfl
    · exact h.named
  orders id other hother := by
    rw [hpending, Dict.get?_erase] at hother
    split at hother
    · cases hother
    · exact h.orders id other hother
  reserved code bucket := by
    have hsum := reservedOn_erase hget code bucket
    have hold := h.reserved code bucket
    have hnew := hfrozen code bucket
    rw [reservedOn, hpending]
    omega

theorem Covered.set (h : ledger.Covered) (order : PendingOrder) (hid : orderId ≠ "") (hheld : order.Held)
    (hpending : next.pendingOrders = ledger.pendingOrders.set orderId order) (hsound : ∀ code, next.SoundAt code)
    (hfrozen : ∀ code bucket, ledger.reservedOn code bucket ≤ ledger.frozen code bucket →
      ledger.reservedOn code bucket + order.reservedOn code bucket ≤
        next.frozen code bucket + ((ledger.pendingOrders.get? orderId).map (·.reservedOn code bucket)).getD 0) :
    next.Covered where
  sound := hsound
  named := by
    rw [hpending, Dict.get?_set_ne _ _ hid]
    exact h.named
  orders id other hother := by
    rw [hpending, Dict.get?_set] at hother
    split at hother
    · obtain rfl := Option.some.inj hother
      exact hheld
    · exact h.orders id other hother
  reserved code bucket := by
    have hsum := ledger.pendingOrders.sum_set orderId order fun order => order.reservedOn code bucket
    have hnew := hfrozen code bucket (h.reserved code bucket)
    rw [reservedOn, hpending]
    unfold reservedOn at hnew
    omega

def instrumentTotal (ledger : BucketLedger) (code : String) : Int :=
  (knownBuckets.map fun bucket => (ledger.state code bucket).totalVolume).sum

/-- What an operation adds to the volume of an instrument. -/
def totalDelta (code : String) : LedgerOp → Int
  | .trade event _ =>
    if event.instrumentCode = code ∧ code ≠ "" ∧ 0 < event.volume then
      match event.tradeType with
      | .buy | .buyToCover => event.volume
      | .sell => -event.volume
      | .sellShort => 0
    else 0
  | _ => 0

theorem totalDelta_other {event : LedgerTrade} {metadata : Dict String PyVal} {code : String} (hne : code ≠ event.instrumentCode) :
    totalDelta code (.trade event metadata) = 0 := if_neg fun h => hne h.1.symm

/-- The instruments that an operation is about. A settlement is about all of them. -/
def About (ledger : BucketLedger) (code : String) : LedgerOp → Prop
  | .reserve _ _ call => call.instrumentCode = code
  | .transfer _ _ => False
  | .rollback orderId _ => ∃ order, ledger.pendingOrders.get? orderId = some order ∧ order.instrumentCode = code
  | .trade event _ => event.instrumentCode = code
  | .settle _ => True

/-- The sells that may take volume out of the locked bucket: substitution sells with a leg there or whose plan hands its
    purchases of today to another one. -/
def DrawsOnLocked (ledger : BucketLedger) (code : String) : LedgerOp → Prop
  | .trade event _ => event.tradeType = .sell ∧ event.instrumentCode = code ∧
    ∃ order, ledger.pendingOrders.get? event.orderId = some order ∧
      ((order.substitutionPlanId ≠ none ∧ ∃ leg ∈ order.reservedLegs, leg.bucket = .lockedCore) ∨
        ∃ plan, ledger.pendingSubstitutions.get? event.orderId = some plan ∧
          normalizeBucket plan.requestedBucket = .lockedCore)
  | _ => False

structure Conserves (ledger : BucketLedger) (op : LedgerOp) (next : BucketLedger) : Prop where
  total : ∀ code, next.instrumentTotal code = ledger.instrumentTotal code + totalDelta code op
  locked : ∀ code, (next.state code .lockedCore).totalVolume < (ledger.state code .lockedCore).totalVolume →
    ledger.DrawsOnLocked code op
  others : ∀ code, ¬ ledger.About code op → ∀ bucket, next.state code bucket = ledger.state code bucket

theorem Conserves.of_state {op : LedgerOp} (hstate : ∀ code bucket, next.state code bucket = ledger.state code bucket)
    (hdelta : ∀ code, totalDelta code op = 0) : Conserves ledger op next where
  total code := by simp [instrumentTotal, hstate, hdelta]
  locked code hless := by
    rw [hstate] at hless
    exact absurd hless (lt_irrefl _)
  others code _ bucket := hstate code bucket

theorem Booked.conserves {op : LedgerOp} (h : Booked ledger next code change)
    (habout : ∀ code', ¬ ledger.About code' op → code' ≠ code) (hother : ∀ code', code' ≠ code → totalDelta code' op = 0)
    (delta : Bucket → Int) (hchange : ∀ bucket, (change bucket (ledger.volumes code bucket)).total =
      (ledger.volumes code bucket).total + delta bucket)
    (hdelta : (knownBuckets.map delta).sum = totalDelta code op)
    (hlocked : delta .lockedCore < 0 → ledger.DrawsOnLocked code op) : Conserves ledger op next where
  total code' := by
    by_cases hcode : code' = code
    · subst hcode
      have hbucket : ∀ bucket, (next.state code' bucket).totalVolume =
          (ledger.state code' bucket).totalVolume + delta bucket := fun bucket => by
        have hown := congrArg Volumes.total (h.own bucket)
        rw [hchange] at hown
        exact hown
      simp only [knownBuckets, List.map_cons, List.map_nil, List.sum_cons, List.sum_nil] at hdelta
      simp only [instrumentTotal, knownBuckets, List.map_cons, List.map_nil, List.sum_cons, List.sum_nil, hbucket]
      omega
    · simp [instrumentTotal, h.others code' hcode, hother code' hcode]
  locked code' hless := by
    by_cases hcode : code' = code
    · subst hcode
      refine hlocked ?_
      have hown := congrArg Volumes.total (h.own .lockedCore)
      rw [hchange] at hown
      simp only [volumes, BucketPositionState.volumes] at hown
      omega
    · rw [h.others code' hcode] at hless
      exact absurd hless (lt_irrefl _)
  others code' hnot bucket := h.others code' (habout code' hnot) bucket

theorem Booked.sound_all (h : Booked ledger next code change)
    (hold : ∀ code, ledger.SoundAt code) (hnew : next.SoundAt code) (code' : String) : next.SoundAt code' := by
  by_cases hcode : code' = code
  · exact hcode ▸ hnew
  · intro bucket
    rw [volumes, h.others code' hcode]
    exact hold code' bucket

theorem Booked.frozen_others (h : Booked ledger next code change) {code' : String}
    (hcode : code' ≠ code) (bucket : Bucket) : next.frozen code' bucket = ledger.frozen code' bucket := by
  rw [frozen, h.others code' hcode, frozen]

/-! ### Reserving -/

theorem heldIn_le_of_nodup {legs : List ReservedLeg} {available : Bucket → Int} (hnonneg : ∀ bucket, 0 ≤ available bucket)
    (hnodup : (legs.map (·.bucket)).Nodup) (hcovered : ∀ leg ∈ legs, leg.remainingVolume ≤ available leg.bucket)
    (bucket : Bucket) : heldIn bucket legs ≤ available bucket := by
  induction legs with
  | nil => exact hnonneg bucket
  | cons leg legs ih =>
    rw [List.map_cons, List.nodup_cons] at hnodup
    obtain ⟨hhead, htail⟩ := hnodup
    have hrest := ih htail fun l hl => hcovered l (List.mem_cons_of_mem _ hl)
    rw [heldIn_cons]
    by_cases hbucket : leg.bucket = bucket
    · subst hbucket
      have hnone : legs.filter (·.bucket = leg.bucket) = [] := by
        refine List.filter_eq_nil_iff.mpr fun l hl hsame => hhead ?_
        exact List.mem_map.mpr ⟨l, hl, of_decide_eq_true hsame⟩
      have hleg := hcovered leg List.mem_cons_self
      simp only [heldIn, hnone, List.map_nil, List.sum_nil, ↓reduceIte, add_zero]
      exact hleg
    · rw [if_neg hbucket, zero_add]
      exact hrest

def LegsDistinct (uuid4 : String) (call : ReserveCall) : Prop :=
  ∀ plan, SubstitutionPlan.fromDict uuid4 call.orderId call.substitutionPlan = .ok (some plan) →
    call.orderType = .sell → plan.enabled = true → ((planLegs plan).map (·.bucket)).Nodup

section Reserve
variable {uuid4 now : String} {call : ReserveCall} {plan : Option SubstitutionPlan}

theorem LegsDistinct.orderLegs (h : LegsDistinct uuid4 call) (hread : Readable uuid4 call plan) :
    ((orderLegs call plan).map (·.bucket)).Nodup := by
  unfold BucketLedger.orderLegs
  split
  · rename_i hsell
    split
    · rename_i p hfilter
      obtain ⟨rfl, henabled⟩ := Option.filter_eq_some_iff.mp hfilter
      exact h p hread.read hsell henabled
    · simp
  · simp

theorem pendingOf_held (now : String) (hread : Readable uuid4 call plan) (hgrant : ledger.Grantable call plan) :
    (pendingOf call now plan (orderLegs call plan)).Held where
  legs := orderLegs_legsOk hread.volume plan
  other hside := by simp only [pendingOf, orderLegs] at hside ⊢; rw [if_neg hside]
  locked hleg hnone := by
    obtain ⟨leg, hleg, hlocked⟩ := hleg
    cases plan with
    | some p => cases hnone
    | none =>
      simp only [pendingOf, orderLegs] at hleg
      split at hleg
      · rename_i hsell
        obtain rfl := List.mem_singleton.mp hleg
        exact hgrant.locked hsell rfl hlocked
      · cases hleg

theorem reserveOrder_conserves (h : ledger.Covered) (hdistinct : LegsDistinct uuid4 call) :
    (ledger.reserveOrder uuid4 now call).1.Covered ∧
      Conserves ledger (.reserve uuid4 now call) (ledger.reserveOrder uuid4 now call).1 := by
  rcases ledger.reserveOrder_cases uuid4 now call with ⟨hkeep | hkeep, -⟩ | ⟨plan, hread, hgranted, -⟩
  · rw [hkeep]
    exact ⟨h, .of_state (fun _ _ => rfl) fun _ => rfl⟩
  · rw [hkeep]
    have hstate := ledger.state_ensureInstrument call.instrumentCode
    refine ⟨⟨fun code bucket => ?_, h.named, h.orders, fun code bucket => ?_⟩, .of_state hstate fun _ => rfl⟩
    · rw [ensureInstrument_volumes]
      exact h.sound code bucket
    · rw [frozen, hstate]
      exact h.reserved code bucket
  · have hsounds := h.sound call.instrumentCode
    have hlegs := orderLegs_legsOk hread.volume plan
    have hfit : ledger.LegsFit call.instrumentCode (orderLegs call plan) := by
      refine heldIn_le_of_nodup (fun bucket => (hsounds bucket).available) (hdistinct.orderLegs hread) fun leg hleg => ?_
      rw [(orderLegs_ok hread.volume plan leg hleg).2]
      exact hgranted.grantable.covered leg hleg
    obtain ⟨hbooked, -⟩ := hgranted.booked hread hsounds.normalAt hfit
    have hsound := hbooked.soundAt fun bucket => (hsounds bucket).freeze (by
      have hheld : 0 ≤ heldIn bucket (orderLegs call plan) := heldIn_nonneg hlegs
      have hfrozen := (hsounds bucket).frozen
      omega) (hfit bucket)
    have hheld := pendingOf_held now hread hgranted.grantable
    refine ⟨h.set _ hread.named hheld hgranted.pendingOrders (hbooked.sound_all h.sound hsound) fun code bucket hold => ?_,
      hbooked.conserves (fun code hnot heq => hnot heq.symm) (fun _ _ => rfl) (fun _ => 0) (fun bucket => ?_) rfl
        fun hneg => absurd hneg (lt_irrefl 0)⟩
    · have hreplaced := h.replaced_nonneg call.orderId code bucket
      rw [hheld.reservedOn_eq]
      by_cases hcode : code = call.instrumentCode
      · subst hcode
        have hown := congrArg Volumes.frozen (hbooked.own bucket)
        simp only [volumes, BucketPositionState.volumes, Volumes.freeze] at hown
        simp only [pendingOf, ↓reduceIte, frozen] at hold ⊢
        omega
      · rw [hbooked.frozen_others hcode, if_neg (fun heq => hcode heq.symm)]
        omega
    · simp [Volumes.freeze]

end Reserve

theorem Covered.of_plans (h : ledger.Covered) (plans : Dict String SubstitutionPlan) :
    Covered { ledger with pendingSubstitutions := plans } := ⟨h.sound, h.named, h.orders, h.reserved⟩

theorem movePending_covered (oldOrderId : String) (h : ledger.Covered) {newOrderId : String} (hnew : newOrderId ≠ "") :
    (ledger.movePending oldOrderId newOrderId).Covered := by
  unfold movePending
  cases hget : ledger.pendingOrders.get? oldOrderId with
  | none => exact h
  | some order =>
    have hheld := h.orders oldOrderId order hget
    have htaken : Covered { ledger with pendingOrders := ledger.pendingOrders.erase oldOrderId } :=
      h.erase hget rfl h.sound fun code bucket => by
        have hnonneg := hheld.reservedOn_nonneg code bucket
        show _ ≤ ledger.frozen code bucket
        omega
    refine htaken.set { order with orderId := newOrderId } hnew ⟨hheld.legs, hheld.other, hheld.locked⟩ rfl h.sound
      fun code bucket _ => ?_
    have hsum := reservedOn_erase hget code bucket
    have hold := h.reserved code bucket
    have hreplaced := htaken.replaced_nonneg newOrderId code bucket
    refine le_trans (le_of_eq ?_) (le_add_of_le_of_nonneg hold hreplaced)
    rw [← hsum]
    rfl

theorem transferOrder_buckets (oldOrderId newOrderId : String) :
    (ledger.transferOrder oldOrderId newOrderId).buckets = ledger.buckets := by
  unfold transferOrder
  split
  · rfl
  · unfold moveSubstitution movePending
    split <;> split <;> rfl

theorem transferOrder_conserves (h : ledger.Covered) (oldOrderId newOrderId : String) :
    (ledger.transferOrder oldOrderId newOrderId).Covered ∧
      Conserves ledger (.transfer oldOrderId newOrderId) (ledger.transferOrder oldOrderId newOrderId) := by
  refine ⟨?_, .of_state (fun code bucket => ?_) fun _ => rfl⟩
  · unfold transferOrder
    split
    · exact h
    · rename_i hnamed
      obtain ⟨-, hnew, -⟩ := not_or.mp hnamed |>.imp id not_or.mp
      have hmoved := movePending_covered oldOrderId h hnew
      unfold moveSubstitution
      split
      · exact hmoved
      · exact hmoved.of_plans _
  · rw [state, transferOrder_buckets, state]

theorem rollbackOrder_conserves (h : ledger.Covered) (orderId reason : String) :
    (ledger.rollbackOrder orderId reason).1.Covered ∧
      Conserves ledger (.rollback orderId reason) (ledger.rollbackOrder orderId reason).1 := by
  cases hget : ledger.pendingOrders.get? orderId with
  | none =>
    have hnone : ledger.rollbackOrder orderId reason = (ledger, { instrumentCode := "" }) := by rw [rollbackOrder, hget]
    rw [hnone]
    exact ⟨h, .of_state (fun _ _ => rfl) fun _ => rfl⟩
  | some order =>
    have hheld := h.orders orderId order hget
    have hsounds := h.sound order.instrumentCode
    obtain ⟨hpending, hbooked, -⟩ := rollbackOrder_rolledBack reason hget hsounds.normalAt hheld.legs (h.heldIn_le hget)
      hsounds.backedFor
    have hsound := hbooked.soundAt fun bucket => (hsounds bucket).freeze (by
      have hle := h.heldIn_le hget bucket
      omega) (by
      have hnonneg : 0 ≤ heldIn bucket order.reservedLegs := heldIn_nonneg hheld.legs
      have havailable := (hsounds bucket).available
      omega)
    refine ⟨h.erase hget hpending (hbooked.sound_all h.sound hsound) fun code bucket => ?_,
      hbooked.conserves (fun code hnot heq => hnot ⟨order, hget, heq.symm⟩) (fun _ _ => rfl) (fun _ => 0) (fun bucket => ?_) rfl
        fun hneg => absurd hneg (lt_irrefl 0)⟩
    · rw [hheld.reservedOn_eq]
      by_cases hcode : code = order.instrumentCode
      · subst hcode
        have hown := congrArg Volumes.frozen (hbooked.own bucket)
        simp only [volumes, BucketPositionState.volumes, Volumes.freeze] at hown
        simp only [frozen, hown, ↓reduceIte]
        omega
      · rw [hbooked.frozen_others hcode, if_neg (fun heq => hcode heq.symm)]
        omega
    · simp [Volumes.freeze]

/-! ### Trades -/

theorem sum_heldIn (legs : List ReservedLeg) : (knownBuckets.map (heldIn · legs)).sum = heldTotal legs := by
  induction legs with
  | nil => rfl
  | cons leg legs ih =>
    simp only [knownBuckets, List.map_cons, List.map_nil, List.sum_cons, List.sum_nil] at ih ⊢
    simp only [heldIn_cons]
    cases leg.bucket <;> simp <;> omega

theorem sum_handed (code : String) (plan : SubstitutionPlan) (volume : Int) :
    (knownBuckets.map (ledger.handed code plan volume)).sum = 0 := by
  simp only [knownBuckets, List.map_cons, List.map_nil, List.sum_cons, List.sum_nil, handed]
  cases normalizeBucket plan.reattributeBuyToBucket <;> cases normalizeBucket plan.requestedBucket <;> simp

theorem exists_leg_of_heldIn_pos {legs : List ReservedLeg} {bucket : Bucket} (h : 0 < heldIn bucket legs) :
    ∃ leg ∈ legs, leg.bucket = bucket := by
  by_contra hnone
  have hempty : legs.filter (·.bucket = bucket) = [] := by
    refine List.filter_eq_nil_iff.mpr fun leg hleg hsame => hnone ?_
    exact ⟨leg, hleg, of_decide_eq_true hsame⟩
  simp [heldIn, hempty] at h

section Trade
variable {event : LedgerTrade} {metadata : Dict String PyVal} {legs : List ReservedLeg}
  {result : BucketLedger × BucketLedgerPatch}

theorem Filled.covered (h : Filled ledger event order legs result) (hcovered : ledger.Covered)
    (hget : ledger.pendingOrders.get? event.orderId = some order) (hcode : event.instrumentCode = order.instrumentCode)
    (hid : event.orderId ≠ "") : result.1.Covered := by
  have hheld := hcovered.orders _ order hget
  have hsound := h.booked.sound_all hcovered.sound h.sound
  have hlegs : PendingOrder.Held { order with reservedLegs := legs } := by
    refine ⟨h.legsOk, fun hside => ?_, fun hleg => hheld.locked ?_⟩
    · have hsame := h.buckets
      rw [hheld.other hside, List.map_nil, List.map_eq_nil_iff] at hsame
      exact hsame
    · obtain ⟨leg, hleg, hlocked⟩ := hleg
      have hmem : leg.bucket ∈ order.reservedLegs.map (·.bucket) := h.buckets ▸ List.mem_map_of_mem hleg
      obtain ⟨old, hold, hbucket⟩ := List.mem_map.mp hmem
      exact ⟨old, hold, hbucket.trans hlocked⟩
  -- The record is stored with its shorter legs before the rest of the order is counted.
  have hstored : Covered { result.1 with
      pendingOrders := ledger.pendingOrders.set event.orderId { order with reservedLegs := legs } } := by
    refine hcovered.set _ hid hlegs rfl hsound fun code bucket hold => ?_
    rw [hlegs.reservedOn_eq, hget, Option.map_some, Option.getD_some, hheld.reservedOn_eq]
    by_cases hsame : code = event.instrumentCode
    · subst hsame
      have hown := congrArg Volumes.frozen (h.booked.own bucket)
      have hsold := h.sold bucket
      simp only [volumes, BucketPositionState.volumes, Volumes.sell, Volumes.buy] at hown
      simp only [frozen, if_pos hcode.symm] at hold ⊢
      show _ ≤ (result.1.state event.instrumentCode bucket).frozenVolume + _
      omega
    · have hkeep := h.booked.frozen_others hsame bucket
      have hne : order.instrumentCode ≠ code := fun heq => hsame (hcode ▸ heq.symm)
      simp only [if_neg hne]
      show _ ≤ result.1.frozen code bucket + 0
      omega
  have horders := h.pendingOrders
  unfold ordersFilled at horders
  split at horders
  · refine hstored.erase (Dict.get?_set_self _ _ _) horders hsound fun code bucket => ?_
    have hnonneg := hlegs.reservedOn_nonneg code bucket
    show result.1.frozen code bucket - _ ≤ _
    omega
  · refine hstored.set { order with reservedLegs := legs, remainingVolume := order.remainingVolume - event.volume } hid
      ⟨hlegs.legs, hlegs.other, hlegs.locked⟩ horders hsound fun code bucket hold => ?_
    rw [Dict.get?_set_self, Option.map_some, Option.getD_some]
    exact add_le_add hold (le_refl _)

theorem Filled.sum_soldFrom (h : Filled ledger event order legs result) :
    (knownBuckets.map fun bucket => soldFrom bucket result.2.events).sum = event.volume := by
  have hold := sum_heldIn order.reservedLegs
  have hnew := sum_heldIn legs
  have htotal := h.total
  simp only [knownBuckets, List.map_cons, List.map_nil, List.sum_cons, List.sum_nil, h.sold] at hold hnew ⊢
  omega

theorem Filled.sum_handedTo (h : Filled ledger event order legs result) :
    (knownBuckets.map fun bucket => handedTo bucket result.2.events).sum = 0 := by
  simp only [h.handed]
  cases ledger.pendingSubstitutions.get? event.orderId with
  | none => rfl
  | some plan => exact sum_handed _ plan _

theorem Filled.conserves (h : Filled ledger event order legs result) (hcovered : ledger.Covered)
    (hget : ledger.pendingOrders.get? event.orderId = some order) (hcode : event.instrumentCode ≠ "")
    (hvolume : 0 < event.volume) (hsell : event.tradeType = .sell) : Conserves ledger (.trade event metadata) result.1 := by
  refine h.booked.conserves (fun code hnot heq => hnot heq.symm) (fun code hne => ?_)
    (fun bucket => handedTo bucket result.2.events - soldFrom bucket result.2.events) (fun bucket => ?_) ?_ fun hneg => ?_
  · exact totalDelta_other hne
  · simp only [Volumes.sell, Volumes.buy]
    omega
  · have hsold := h.sum_soldFrom
    have hhanded := h.sum_handedTo
    simp only [knownBuckets, List.map_cons, List.map_nil, List.sum_cons, List.sum_nil] at hsold hhanded ⊢
    simp only [totalDelta, hsell, hcode, hvolume, ne_eq, not_false_eq_true, and_self, ↓reduceIte]
    omega
  · refine ⟨hsell, rfl, order, hget, ?_⟩
    by_cases hsold : 0 < soldFrom .lockedCore result.2.events
    · have hrest : 0 ≤ heldIn .lockedCore legs := heldIn_nonneg h.legsOk
      have hheld := h.sold .lockedCore
      obtain ⟨leg, hleg, hlocked⟩ := exists_leg_of_heldIn_pos (show 0 < heldIn .lockedCore order.reservedLegs by omega)
      exact .inl ⟨(hcovered.orders _ order hget).locked ⟨leg, hleg, hlocked⟩, leg, hleg, hlocked⟩
    · have hhanded := h.handed .lockedCore
      have hbound := h.bound .lockedCore
      cases hplan : ledger.pendingSubstitutions.get? event.orderId with
      | none =>
        rw [hplan, Option.map_none, Option.getD_none] at hhanded
        omega
      | some plan =>
        refine .inr ⟨plan, rfl, ?_⟩
        by_contra hne
        have hnonneg := (hcovered.sound event.instrumentCode (normalizeBucket plan.requestedBucket)).todayBuy
        rw [hplan, Option.map_some, Option.getD_some] at hhanded
        simp only [BucketLedger.handed, if_neg hne, sub_zero] at hhanded
        split at hhanded <;> omega

theorem consumePending_covered (h : ledger.Covered) (orderId : String) (volume : Int) :
    (ledger.consumePending orderId volume).Covered := by
  cases hget : ledger.pendingOrders.get? orderId with
  | none => rwa [consumePending, hget]
  | some order =>
    have hid : orderId ≠ "" := by
      rintro rfl
      cases hget.symm.trans h.named
    have hheld := h.orders orderId order hget
    rw [consumePending_eq hid hget]
    split
    · refine h.erase hget rfl h.sound fun code bucket => ?_
      have hnonneg := hheld.reservedOn_nonneg code bucket
      show _ ≤ ledger.frozen code bucket
      omega
    · refine h.set { order with remainingVolume := order.remainingVolume - volume } hid
        ⟨hheld.legs, hheld.other, hheld.locked⟩ rfl h.sound fun code bucket hold => ?_
      rw [hget, Option.map_some, Option.getD_some]
      exact add_le_add hold (le_refl _)

/-- A purchase is free; a sale is a fill of a pending sell that its legs still cover. -/
def SaleCovered (ledger : BucketLedger) (event : LedgerTrade) : Prop :=
  event.tradeType = .sell → ∃ order, ledger.pendingOrders.get? event.orderId = some order ∧
    event.instrumentCode = order.instrumentCode ∧ event.volume ≤ heldTotal order.reservedLegs

theorem applyTrade_idle (h : event.instrumentCode = "" ∨ event.volume ≤ 0) : (ledger.applyTrade event metadata).1 = ledger := by
  unfold applyTrade
  split
  · rfl
  · rename_i hcode
    rw [if_pos (h.resolve_left hcode)]

theorem applyTrade_conserves (h : ledger.Covered) (hsale : ledger.SaleCovered event) :
    (ledger.applyTrade event metadata).1.Covered ∧
      Conserves ledger (.trade event metadata) (ledger.applyTrade event metadata).1 := by
  by_cases hidle : event.instrumentCode = "" ∨ event.volume ≤ 0
  · rw [applyTrade_idle hidle]
    refine ⟨h, .of_state (fun _ _ => rfl) fun code => if_neg ?_⟩
    rintro ⟨rfl, hcode, hvolume⟩
    exact hidle.elim hcode (not_le.mpr hvolume)
  · obtain ⟨hcode, hvolume⟩ := not_or.mp hidle
    rw [not_le] at hvolume
    by_cases hsell : event.tradeType = .sell
    · obtain ⟨order, hget, hsame, henough⟩ := hsale hsell
      have hid : event.orderId ≠ "" := by
        intro hempty
        rw [hempty, h.named] at hget
        cases hget
      obtain ⟨legs, hfilled⟩ := applyTrade_filled event metadata hid hcode hvolume hsell hget (h.sound _)
        (h.orders _ order hget).legs henough (hsame ▸ h.heldIn_le hget)
      exact ⟨hfilled.covered h hget hsame hid, hfilled.conserves h hget hcode hvolume hsell⟩
    · have hsounds := h.sound event.instrumentCode
      obtain ⟨hbooked, hpending⟩ := applyTrade_bought event metadata hcode hvolume hsell hsounds.normalAt
      have hsound := hbooked.soundAt fun bucket => by
        unfold boughtIn
        split
        · have htoday := (hsounds bucket).todayBuy
          exact (hsounds bucket).buy (by omega)
        · exact hsounds bucket
      have hfrozen : ∀ code bucket, (ledger.applyTrade event metadata).1.frozen code bucket = ledger.frozen code bucket := by
        intro code bucket
        by_cases hsame : code = event.instrumentCode
        · subst hsame
          refine (congrArg Volumes.frozen (hbooked.own bucket)).trans ?_
          unfold boughtIn
          split <;> rfl
        · exact hbooked.frozen_others hsame bucket
      obtain ⟨-, hnamed, horders, hreserved⟩ := consumePending_covered h event.orderId event.volume
      refine ⟨⟨hbooked.sound_all h.sound hsound, hpending ▸ hnamed, hpending ▸ horders, fun code bucket => ?_⟩, ?_⟩
      · have hold := hreserved code bucket
        rw [hfrozen, reservedOn, hpending]
        refine le_trans hold (le_of_eq ?_)
        rw [frozen, state, consumePending_buckets, frozen, state]
      · refine hbooked.conserves (fun code hnot heq => hnot heq.symm) (fun code hne => totalDelta_other hne)
          (fun bucket => if event.tradeType ≠ .sellShort ∧ ledger.tradeBucket event.orderId metadata = bucket
            then event.volume else 0) (fun bucket => ?_) ?_ fun hneg => ?_
        · unfold boughtIn
          split
          · rfl
          · exact (add_zero _).symm
        · simp only [totalDelta, hcode, hvolume, ne_eq, not_false_eq_true, and_self, ↓reduceIte]
          generalize ledger.tradeBucket event.orderId metadata = bucket
          revert hsell
          cases event.tradeType <;> intro hsell <;> first | exact absurd rfl hsell | cases bucket <;> simp [knownBuckets]
        · split at hneg <;> omega

end Trade

theorem settleTradingDay_conserves (h : ledger.Covered) (date : String) :
    (ledger.settleTradingDay date).Covered ∧ Conserves ledger (.settle date) (ledger.settleTradingDay date) := by
  have hvolumes : ∀ code bucket, (ledger.settleTradingDay date).volumes code bucket = ledger.volumes code bucket ∨
      (ledger.settleTradingDay date).volumes code bucket = (ledger.volumes code bucket).settle := by
    intro code bucket
    rcases ledger.state_settleTradingDay date code bucket with hstate | hstate
    · exact .inl (congrArg BucketPositionState.volumes hstate)
    · exact .inr ((congrArg BucketPositionState.volumes hstate).trans (BucketPositionState.settle_volumes (h.sound code bucket)))
  have htotal : ∀ code bucket, ((ledger.settleTradingDay date).state code bucket).totalVolume =
      (ledger.state code bucket).totalVolume := fun code bucket => by
    rcases hvolumes code bucket with hsame | hsame <;> exact congrArg Volumes.total hsame
  have hfrozen : ∀ code bucket, (ledger.settleTradingDay date).frozen code bucket = ledger.frozen code bucket :=
    fun code bucket => by rcases hvolumes code bucket with hsame | hsame <;> exact congrArg Volumes.frozen hsame
  refine ⟨⟨fun code bucket => ?_, ?_, ?_, fun code bucket => ?_⟩, fun code => ?_, fun code hless => ?_, fun code hnot => ?_⟩
  · rcases hvolumes code bucket with hsame | hsame <;> rw [hsame]
    · exact h.sound code bucket
    · exact (h.sound code bucket).settle
  · rw [pendingOrders_settleTradingDay]
    exact h.named
  · rw [pendingOrders_settleTradingDay]
    exact h.orders
  · rw [hfrozen, reservedOn, pendingOrders_settleTradingDay]
    exact h.reserved code bucket
  · simp [instrumentTotal, htotal, totalDelta]
  · rw [htotal] at hless
    exact absurd hless (lt_irrefl _)
  · exact absurd trivial hnot

end BucketLedger

/-! ## Runs -/

namespace BucketLedger
variable {ledger : BucketLedger} {log : List (Moment BucketLedger LedgerOp)}

/-- What the callers keep to: substitution legs on distinct buckets, and sales that the legs of a pending
    sell still cover. -/
def LegalVolumes (ledger : BucketLedger) : LedgerOp → Prop
  | .reserve uuid4 _ call => LegsDistinct uuid4 call
  | .trade event _ => ledger.SaleCovered event
  | _ => True

def SeededVolumes (ledger : BucketLedger) : Prop := ledger.pendingOrders = Dict.empty ∧ ∀ code, ledger.SoundAt code

def VolumeRun : List (Moment BucketLedger LedgerOp) → BucketLedger → Prop :=
  Run SeededVolumes step fun _ => LegalVolumes

theorem VolumeRun.next (h : VolumeRun log ledger) (op : LedgerOp) (hop : ledger.LegalVolumes op) :
    VolumeRun (⟨ledger, op, ledger.step op⟩ :: log) (ledger.step op) := Run.step h op hop

theorem SeededVolumes.covered (h : ledger.SeededVolumes) : ledger.Covered := by
  obtain ⟨hpending, hsound⟩ := h
  refine ⟨hsound, by rw [hpending]; rfl, fun id order hget => ?_, fun code bucket => ?_⟩
  · rw [hpending] at hget
    cases hget
  · rw [reservedOn, hpending]
    exact (hsound code bucket).frozen

theorem step_conserves (h : ledger.Covered) (op : LedgerOp) (hop : ledger.LegalVolumes op) :
    (ledger.step op).Covered ∧ Conserves ledger op (ledger.step op) := by
  cases op with
  | reserve uuid4 now call => exact reserveOrder_conserves h hop
  | transfer oldOrderId newOrderId => exact transferOrder_conserves h oldOrderId newOrderId
  | rollback orderId reason => exact rollbackOrder_conserves h orderId reason
  | trade event metadata => exact applyTrade_conserves h hop
  | settle date => exact settleTradingDay_conserves h date

theorem VolumeRun.conserves (h : VolumeRun log ledger) :
    ledger.Covered ∧ ∀ moment ∈ log, Conserves moment.before moment.op moment.after := by
  refine Run.invariant (fun log ledger => ledger.Covered ∧ ∀ moment ∈ log, Conserves moment.before moment.op moment.after)
    (fun ledger hstart => ⟨hstart.covered, fun _ hmem => absurd hmem List.not_mem_nil⟩) (fun log ledger op hold hop => ?_) h
  obtain ⟨hcovered, hlog⟩ := hold
  obtain ⟨hnext, hstep⟩ := step_conserves hcovered op hop
  exact ⟨hnext, List.forall_mem_cons.mpr ⟨hstep, hlog⟩⟩

theorem sellRun {uuid4 now : String} {call : ReserveCall} {event : LedgerTrade} (hstart : ledger.SeededVolumes)
    (hcall : LegsDistinct uuid4 call) (hfill : (ledger.step (.reserve uuid4 now call)).SaleCovered event) :
    let reserved := ledger.step (.reserve uuid4 now call)
    VolumeRun [⟨reserved, .trade event Dict.empty, reserved.step (.trade event Dict.empty)⟩,
      ⟨ledger, .reserve uuid4 now call, reserved⟩] (reserved.step (.trade event Dict.empty)) := by
  have hrun : VolumeRun [] ledger := Run.start hstart
  exact (hrun.next (.reserve uuid4 now call) hcall).next (.trade event Dict.empty) hfill

theorem SaleCovered.of_map {event : LedgerTrade} (held : Int)
    (h : (ledger.pendingOrders.get? event.orderId).map (fun order => (order.instrumentCode, heldTotal order.reservedLegs)) =
      some (event.instrumentCode, held)) (henough : event.volume ≤ held) : ledger.SaleCovered event := by
  intro _
  obtain ⟨order, hget, hpair⟩ := Option.map_eq_some_iff.mp h
  obtain ⟨hcode, hheld⟩ := Prod.mk.inj hpair
  exact ⟨order, hget, hcode.symm, hheld ▸ henough⟩

theorem mixed_run : VolumeRun
    [⟨mixedLedger.step (.reserve "plan-1" "now" mixedSell), .trade mixedFill Dict.empty,
        (mixedLedger.step (.reserve "plan-1" "now" mixedSell)).step (.trade mixedFill Dict.empty)⟩,
      ⟨mixedLedger, .reserve "plan-1" "now" mixedSell, mixedLedger.step (.reserve "plan-1" "now" mixedSell)⟩]
    ((mixedLedger.step (.reserve "plan-1" "now" mixedSell)).step (.trade mixedFill Dict.empty)) := by
  refine sellRun ⟨rfl, mixedLedger_sound⟩ (fun plan hread _ _ => ?_)
    (SaleCovered.of_map 300 (by decide +kernel) (by decide))
  rw [mixedSell_legs hread]
  decide

/-- Shares bought today for the locked bucket beside old swing shares. -/
def lockedLedger : BucketLedger where
  runId := "run"
  buckets := Dict.ofList [("600000.SH", Dict.ofList [
    (.lockedCore, { bucket := .lockedCore, totalVolume := 100, todayBuyVolume := 100 }),
    (.swing, { bucket := .swing, totalVolume := 100, availableVolume := 100 })])]

/-- A swing sell whose plan requests the locked bucket. -/
def lockedSell : ReserveCall where
  orderId := "intent-1"
  instrumentCode := "600000.SH"
  orderType := .sell
  bucket := "swing"
  volume := 100
  substitutionPlan := some [("requested_bucket", .str "locked_core"),
    ("sell_from_buckets", .list [.dict [("bucket", .str "swing"), ("volume", .int 100)]])]

def lockedFill : LedgerTrade where
  orderId := "intent-1"
  instrumentCode := "600000.SH"
  tradeType := .sell
  volume := 100
  price := 10

theorem lockedLedger_sound (code : String) : lockedLedger.SoundAt code := by
  refine soundAt_of_single rfl (fun bucket => ?_) code
  cases bucket <;> exact ⟨by decide +kernel, by decide +kernel, by decide +kernel, by decide +kernel⟩

end BucketLedger
end QuantX
