import QuantX.Theorems.BucketLedger.Access
import QuantX.Trading.RiskChecker
import QuantX.Lib.Run

/-! # Reservation conservation

The freeze of a sell is kept twice: as the frozen volume of its buckets and as the remaining volume of its legs. -/

namespace QuantX
open Lib

def heldIn (bucket : Bucket) (legs : List ReservedLeg) : Int :=
  ((legs.filter (·.bucket = bucket)).map (·.remainingVolume)).sum

def heldTotal (legs : List ReservedLeg) : Int := (legs.map (·.remainingVolume)).sum

def LegsOk (legs : List ReservedLeg) : Prop := ∀ leg ∈ legs, 0 ≤ leg.remainingVolume

section Legs
variable {bucket : Bucket} {leg : ReservedLeg} {legs : List ReservedLeg}

@[simp] theorem heldIn_nil : heldIn bucket [] = 0 := rfl
@[simp] theorem heldTotal_nil : heldTotal [] = 0 := rfl

theorem heldIn_cons :
    heldIn bucket (leg :: legs) = (if leg.bucket = bucket then leg.remainingVolume else 0) + heldIn bucket legs := by
  by_cases h : leg.bucket = bucket <;> simp [heldIn, h]

@[simp] theorem heldTotal_cons : heldTotal (leg :: legs) = leg.remainingVolume + heldTotal legs := by
  simp [heldTotal]

theorem LegsOk.head (h : LegsOk (leg :: legs)) : 0 ≤ leg.remainingVolume := h leg List.mem_cons_self
theorem LegsOk.tail (h : LegsOk (leg :: legs)) : LegsOk legs := fun l hl => h l (List.mem_cons_of_mem _ hl)

theorem LegsOk.cons (hleg : 0 ≤ leg.remainingVolume) (h : LegsOk legs) : LegsOk (leg :: legs) :=
  fun l hl => (List.mem_cons.mp hl).elim (fun heq => heq ▸ hleg) (h l)

theorem LegsOk.empty (h : LegsOk (leg :: legs)) (hnone : leg.remainingVolume ≤ 0) :
    leg.remainingVolume = 0 ∧ ∀ bucket, heldIn bucket (leg :: legs) = heldIn bucket legs := by
  have hzero : leg.remainingVolume = 0 := le_antisymm hnone h.head
  exact ⟨hzero, fun bucket => by simp [heldIn_cons, hzero]⟩

theorem heldIn_nonneg (h : LegsOk legs) : 0 ≤ heldIn bucket legs := by
  induction legs with
  | nil => exact le_refl 0
  | cons leg legs ih =>
    have htail := ih h.tail
    have hhead := h.head
    rw [heldIn_cons]
    split <;> omega

theorem heldIn_le_heldTotal (h : LegsOk legs) : heldIn bucket legs ≤ heldTotal legs := by
  induction legs with
  | nil => exact le_refl 0
  | cons leg legs ih =>
    have htail := ih h.tail
    have hhead := h.head
    rw [heldIn_cons, heldTotal_cons]
    split <;> omega

theorem heldIn_eq_zero (h : LegsOk legs) (htotal : heldTotal legs = 0) : heldIn bucket legs = 0 := by
  have hle : heldIn bucket legs ≤ heldTotal legs := heldIn_le_heldTotal h
  have hnonneg : 0 ≤ heldIn bucket legs := heldIn_nonneg h
  omega

theorem heldTotal_nonneg (h : LegsOk legs) : 0 ≤ heldTotal legs := by
  induction legs with
  | nil => exact le_refl 0
  | cons leg legs ih =>
    have htail := ih h.tail
    have hhead := h.head
    rw [heldTotal_cons]
    omega

end Legs

/-! ## Freezing and releasing legs -/

namespace BucketPositionState
variable (state : BucketPositionState) (volume : Int)

@[simp] theorem normalize_frozen : state.normalize.frozenVolume = max 0 state.frozenVolume := rfl
@[simp] theorem settle_frozen : state.settle.frozenVolume = max 0 state.frozenVolume := rfl
@[simp] theorem giveTodayBuy_frozen : (state.giveTodayBuy volume).frozenVolume = max 0 state.frozenVolume := rfl
@[simp] theorem sellUnreserved_frozen : (state.sellUnreserved volume).frozenVolume = max 0 state.frozenVolume := rfl

@[simp] theorem applyBucketBuy_frozen (price : Rat) :
    (state.applyBucketBuy volume price).frozenVolume = max 0 state.frozenVolume := rfl

@[simp] theorem freeze_frozen : (state.freeze volume).frozenVolume = max 0 (state.frozenVolume + volume) := rfl

@[simp] theorem unfreeze_frozen : (state.unfreeze volume).frozenVolume = max 0 (state.frozenVolume - volume) := by
  show max 0 (max 0 (state.frozenVolume - volume)) = _
  omega

@[simp] theorem sellFrozen_frozen : (state.sellFrozen volume).frozenVolume = max 0 (state.frozenVolume - volume) := by
  show max 0 (max 0 (state.frozenVolume - volume)) = _
  omega

end BucketPositionState

namespace BucketLedger
variable {ledger next : BucketLedger} {code : String} {legs : List ReservedLeg}

def frozen (ledger : BucketLedger) (code : String) (bucket : Bucket) : Int := (ledger.state code bucket).frozenVolume

theorem frozen_modifyBucket (code' : String) (bucket bucket' : Bucket)
    (change : BucketPositionState → BucketPositionState) :
    (ledger.modifyBucket code bucket change).frozen code' bucket' =
      if code = code' ∧ bucket = bucket' then (change (ledger.state code bucket)).frozenVolume
      else ledger.frozen code' bucket' := by
  rw [frozen, state_modifyBucket]
  split <;> rfl

def FrozenOk (ledger : BucketLedger) : Prop := ∀ code bucket, 0 ≤ ledger.frozen code bucket

theorem frozen_shift {bucket : Bucket} (change : BucketPositionState → BucketPositionState) {delta : Int}
    (hchange : (change (ledger.state code bucket)).frozenVolume = max 0 (ledger.frozen code bucket + delta))
    (hdelta : 0 ≤ ledger.frozen code bucket + delta) (code' : String) (bucket' : Bucket) :
    (ledger.modifyBucket code bucket change).frozen code' bucket' =
      ledger.frozen code' bucket' + if code = code' ∧ bucket = bucket' then delta else 0 := by
  rw [frozen_modifyBucket]
  split
  · rename_i h
    obtain ⟨rfl, rfl⟩ := h
    rw [hchange, max_eq_right hdelta]
  · rw [add_zero]

theorem FrozenOk.shift (hok : ledger.FrozenOk) {bucket : Bucket} (change : BucketPositionState → BucketPositionState)
    {delta : Int} (hchange : (change (ledger.state code bucket)).frozenVolume = max 0 (ledger.frozen code bucket + delta)) :
    (ledger.modifyBucket code bucket change).FrozenOk := by
  intro code' bucket'
  rw [frozen_modifyBucket]
  split
  · rw [hchange]
    exact le_max_left _ _
  · exact hok code' bucket'

theorem freezeLegs_frozen (code : String) (hok : ledger.FrozenOk)
    (hlegs : ∀ leg ∈ legs, 0 < leg.volume ∧ leg.remainingVolume = leg.volume) (code' : String) (bucket : Bucket) :
    (ledger.freezeLegs code legs).frozen code' bucket =
      ledger.frozen code' bucket + if code = code' then heldIn bucket legs else 0 := by
  induction legs generalizing ledger with
  | nil => simp [freezeLegs]
  | cons leg legs ih =>
    obtain ⟨hpos, hremaining⟩ := hlegs leg List.mem_cons_self
    have hnow := hok code leg.bucket
    have hchange : ((ledger.state code leg.bucket).freeze leg.volume).frozenVolume =
        max 0 (ledger.frozen code leg.bucket + leg.volume) := BucketPositionState.freeze_frozen _ _
    rw [freezeLegs, ih (hok.shift (·.freeze leg.volume) hchange) fun l hl => hlegs l (List.mem_cons_of_mem _ hl),
      frozen_shift (·.freeze leg.volume) hchange (by omega), heldIn_cons, hremaining, add_assoc]
    by_cases hcode : code = code' <;> simp [hcode]

theorem releaseLegs_pendingOrders (ledger : BucketLedger) (code reason : String) (legs : List ReservedLeg) :
    (ledger.releaseLegs code reason legs).1.pendingOrders = ledger.pendingOrders := by
  induction legs generalizing ledger with
  | nil => rfl
  | cons leg legs ih =>
    rw [releaseLegs]
    split
    · exact ih _
    · exact ih _

theorem releaseLegs_frozen (code reason : String) (hok : ledger.FrozenOk) (hlegs : LegsOk legs)
    (hheld : ∀ bucket, heldIn bucket legs ≤ ledger.frozen code bucket) (code' : String) (bucket : Bucket) :
    (ledger.releaseLegs code reason legs).1.frozen code' bucket =
      ledger.frozen code' bucket - if code = code' then heldIn bucket legs else 0 := by
  induction legs generalizing ledger with
  | nil => simp [releaseLegs]
  | cons leg legs ih =>
    have hhead := hlegs.head
    have hrest : ∀ bucket, 0 ≤ heldIn bucket legs := fun bucket => heldIn_nonneg hlegs.tail
    rw [releaseLegs]
    split
    · rename_i hnone
      obtain ⟨hzero, hsame⟩ := hlegs.empty hnone
      rw [ih hok hlegs.tail (fun b => hsame b ▸ hheld b), hsame]
    · have hleg := hheld leg.bucket
      rw [heldIn_cons, if_pos rfl] at hleg
      have hkeep := hrest leg.bucket
      have hdelta : 0 ≤ ledger.frozen code leg.bucket + -leg.remainingVolume := by omega
      have hchange : ((ledger.state code leg.bucket).unfreeze leg.remainingVolume).frozenVolume =
          max 0 (ledger.frozen code leg.bucket + -leg.remainingVolume) := BucketPositionState.unfreeze_frozen _ _
      have hshift := frozen_shift (·.unfreeze leg.remainingVolume) hchange hdelta
      rw [ih (hok.shift (·.unfreeze leg.remainingVolume) hchange) hlegs.tail, hshift, heldIn_cons]
      · by_cases hcode : code = code'
        · subst hcode
          by_cases hbucket : leg.bucket = bucket <;> simp [hbucket]
          omega
        · simp [hcode]
      · intro b
        have hb := hheld b
        rw [heldIn_cons] at hb
        rw [hshift]
        by_cases hbucket : leg.bucket = b <;> simp [hbucket] at hb ⊢ <;> omega

theorem consumeLegs_pendingOrders (ledger : BucketLedger) (code : String) (legs : List ReservedLeg) (volume : Int) :
    (ledger.consumeLegs code legs volume).1.pendingOrders = ledger.pendingOrders := by
  induction legs generalizing ledger volume with
  | nil => rfl
  | cons leg legs ih =>
    rw [consumeLegs]
    split
    · rfl
    · split
      · exact ih _ volume
      · exact ih _ _

/-- What a sold volume does to legs: it empties them in order, and the buckets lose what the legs lose. -/
structure Consumed (ledger : BucketLedger) (code : String) (legs : List ReservedLeg) (volume : Int)
    (result : BucketLedger × List ReservedLeg × Int × List LedgerEvent) : Prop where
  legsOk : LegsOk result.2.1
  total : heldTotal result.2.1 = max 0 (heldTotal legs - volume)
  frozen : ∀ code' bucket, result.1.frozen code' bucket =
    ledger.frozen code' bucket - if code = code' then heldIn bucket legs - heldIn bucket result.2.1 else 0

theorem consumeLegs_consumed {volume : Int} (hvolume : 0 ≤ volume) (hok : ledger.FrozenOk) (hlegs : LegsOk legs)
    (hheld : ∀ bucket, heldIn bucket legs ≤ ledger.frozen code bucket) :
    Consumed ledger code legs volume (ledger.consumeLegs code legs volume) := by
  induction legs generalizing ledger volume with
  | nil => exact ⟨hlegs, by simp [consumeLegs]; omega, by simp [consumeLegs]⟩
  | cons leg legs ih =>
    have hhead := hlegs.head
    have hrest : ∀ bucket, 0 ≤ heldIn bucket legs := fun bucket => heldIn_nonneg hlegs.tail
    have htotal := heldTotal_nonneg hlegs
    rw [consumeLegs]
    split
    · -- Nothing is left to take.
      refine ⟨hlegs, ?_, by simp⟩
      show heldTotal (leg :: legs) = _
      omega
    · rename_i hleft
      split
      · -- An empty leg stays as it is.
        rename_i hnone
        obtain ⟨hzero, hsame⟩ := hlegs.empty hnone
        obtain ⟨hlegs', htotal', hfrozen'⟩ := ih hvolume hok hlegs.tail fun b => hsame b ▸ hheld b
        refine ⟨hlegs'.cons hhead, ?_, fun code' b => ?_⟩
        · simp only [heldTotal_cons, hzero, zero_add]
          exact htotal'
        · simp [hfrozen', heldIn_cons, hzero]
      · rename_i hsome
        have hleg := hheld leg.bucket
        rw [heldIn_cons, if_pos rfl] at hleg
        have hkeep := hrest leg.bucket
        have htake := min_le_left volume leg.remainingVolume
        have htake' := min_le_right volume leg.remainingVolume
        dsimp only
        generalize htakeEq : min volume leg.remainingVolume = take at htake htake' ⊢
        have hdelta : 0 ≤ ledger.frozen code leg.bucket + -take := by omega
        have hchange : ((ledger.state code leg.bucket).sellFrozen take).frozenVolume =
            max 0 (ledger.frozen code leg.bucket + -take) := BucketPositionState.sellFrozen_frozen _ _
        have hshift := frozen_shift (·.sellFrozen take) hchange hdelta
        have hheld' : ∀ b, heldIn b legs ≤ (ledger.modifyBucket code leg.bucket (·.sellFrozen take)).frozen code b := by
          intro b
          have hb := hheld b
          rw [heldIn_cons] at hb
          rw [hshift]
          by_cases hbucket : leg.bucket = b <;> simp [hbucket] at hb ⊢ <;> omega
        have hrec := ih (show 0 ≤ volume - take by omega) (hok.shift (·.sellFrozen take) hchange) hlegs.tail hheld'
        revert hrec
        generalize consumeLegs (ledger.modifyBucket code leg.bucket (·.sellFrozen take)) code legs (volume - take) = result
        obtain ⟨next, legs', left, events⟩ := result
        rintro ⟨hlegs', htotal', hfrozen'⟩
        have htail := heldTotal_nonneg hlegs.tail
        refine ⟨hlegs'.cons (by show 0 ≤ leg.remainingVolume - take; omega), ?_, fun code' b => ?_⟩
        · simp only [heldTotal_cons] at htotal' ⊢
          omega
        · simp only [heldIn_cons] at hfrozen' ⊢
          rw [hfrozen', hshift]
          by_cases hcode : code = code'
          · subst hcode
            by_cases hbucket : leg.bucket = b
            · subst hbucket
              simp only [and_self, ↓reduceIte]
              omega
            · simp only [hbucket, and_false, ↓reduceIte]
              omega
          · simp [hcode]

end BucketLedger

def PendingOrder.reservedOn (order : PendingOrder) (code : String) (bucket : Bucket) : Int :=
  if order.orderType = .sell ∧ order.instrumentCode = code then heldIn bucket order.reservedLegs else 0

/-- The legs of a sell hold what is left of the order; other orders have no legs. -/
structure PendingOrder.Ok (order : PendingOrder) : Prop where
  legs : LegsOk order.reservedLegs
  sell : order.orderType = .sell → heldTotal order.reservedLegs = order.remainingVolume
  other : order.orderType ≠ .sell → order.reservedLegs = []

theorem PendingOrder.Ok.reservedOn_nonneg {order : PendingOrder} (h : order.Ok) (code : String) (bucket : Bucket) :
    0 ≤ order.reservedOn code bucket := by
  unfold reservedOn
  split
  · exact heldIn_nonneg h.legs
  · exact le_refl 0

namespace BucketLedger
variable {ledger next : BucketLedger} {code orderId : String} {order : PendingOrder}
variable {change : BucketPositionState → BucketPositionState}

def reservedOn (ledger : BucketLedger) (code : String) (bucket : Bucket) : Int :=
  ledger.pendingOrders.sum fun order => order.reservedOn code bucket

structure Balanced (ledger : BucketLedger) : Prop where
  named : ledger.pendingOrders.get? "" = none
  orders : ∀ id order, ledger.pendingOrders.get? id = some order → order.Ok
  frozen : ∀ code bucket, ledger.frozen code bucket = ledger.reservedOn code bucket

theorem Balanced.frozenOk (h : ledger.Balanced) : ledger.FrozenOk := by
  intro code bucket
  rw [h.frozen]
  exact Dict.sum_nonneg fun id order hget => (h.orders id order hget).reservedOn_nonneg code bucket

theorem reservedOn_erase (hget : ledger.pendingOrders.get? orderId = some order) (code : String) (bucket : Bucket) :
    (ledger.pendingOrders.erase orderId).sum (fun order => order.reservedOn code bucket) + order.reservedOn code bucket =
      ledger.reservedOn code bucket := by
  have h := ledger.pendingOrders.sum_erase orderId fun order => order.reservedOn code bucket
  rwa [hget] at h

theorem Balanced.order_le (h : ledger.Balanced) (hget : ledger.pendingOrders.get? orderId = some order) (code : String)
    (bucket : Bucket) : order.reservedOn code bucket ≤ ledger.frozen code bucket := by
  have hsum := reservedOn_erase hget code bucket
  have hrest : 0 ≤ (ledger.pendingOrders.erase orderId).sum fun order => order.reservedOn code bucket := by
    refine Dict.sum_nonneg fun id other hother => ?_
    rw [Dict.get?_erase] at hother
    split at hother
    · cases hother
    · exact (h.orders id other hother).reservedOn_nonneg code bucket
  rw [h.frozen]
  omega

theorem Balanced.heldIn_le (h : ledger.Balanced) (hget : ledger.pendingOrders.get? orderId = some order)
    (bucket : Bucket) : heldIn bucket order.reservedLegs ≤ ledger.frozen order.instrumentCode bucket := by
  by_cases hsell : order.orderType = .sell
  · have hle := h.order_le hget order.instrumentCode bucket
    rwa [PendingOrder.reservedOn, if_pos ⟨hsell, rfl⟩] at hle
  · rw [(h.orders orderId order hget).other hsell]
    exact h.frozenOk _ _

/-- The pending orders stay, and so does every frozen volume that is not negative. -/
structure Quiet (ledger next : BucketLedger) : Prop where
  pendingOrders : next.pendingOrders = ledger.pendingOrders
  frozen : ledger.FrozenOk → ∀ code bucket, next.frozen code bucket = ledger.frozen code bucket

theorem Quiet.refl : Quiet ledger ledger := ⟨rfl, fun _ _ _ => rfl⟩

theorem Quiet.frozenOk (h : Quiet ledger next) (hok : ledger.FrozenOk) : next.FrozenOk := by
  intro code bucket
  rw [h.frozen hok]
  exact hok code bucket

theorem Quiet.trans {last : BucketLedger} (h : Quiet ledger next) (h' : Quiet next last) : Quiet ledger last where
  pendingOrders := h'.pendingOrders.trans h.pendingOrders
  frozen hok code bucket := (h'.frozen (h.frozenOk hok) code bucket).trans (h.frozen hok code bucket)

theorem Quiet.balanced (h : Quiet ledger next) (hbal : ledger.Balanced) : next.Balanced where
  named := by rw [h.pendingOrders]; exact hbal.named
  orders := by rw [h.pendingOrders]; exact hbal.orders
  frozen code bucket := by
    rw [h.frozen hbal.frozenOk, hbal.frozen]
    unfold reservedOn
    rw [h.pendingOrders]

theorem ensureInstrument_quiet (code : String) : Quiet ledger (ledger.ensureInstrument code) where
  pendingOrders := rfl
  frozen _ code' bucket := by rw [frozen, state_ensureInstrument, frozen]

theorem modifyBucket_quiet {bucket : Bucket}
    (hchange : ∀ state, (change state).frozenVolume = max 0 state.frozenVolume) :
    Quiet ledger (ledger.modifyBucket code bucket change) where
  pendingOrders := rfl
  frozen hok code' bucket' := by
    rw [frozen_modifyBucket]
    split
    · rename_i heq
      obtain ⟨rfl, rfl⟩ := heq
      rw [hchange]
      exact max_eq_right (hok code bucket)
    · rfl

theorem Quiet.of_states (hpending : next.pendingOrders = ledger.pendingOrders)
    (hchange : ∀ state, (change state).frozenVolume = max 0 state.frozenVolume)
    (hstate : ∀ code bucket, next.state code bucket = ledger.state code bucket ∨
      next.state code bucket = change (ledger.state code bucket)) : Quiet ledger next where
  pendingOrders := hpending
  frozen hok code bucket := by
    rcases hstate code bucket with h | h
    · rw [BucketLedger.frozen, h, BucketLedger.frozen]
    · rw [BucketLedger.frozen, h, hchange]
      exact max_eq_right (hok code bucket)

theorem instrumentSnapshot_quiet (code : String) : Quiet ledger (ledger.instrumentSnapshot code).1 :=
  .of_states (pendingOrders_instrumentSnapshot code) BucketPositionState.normalize_frozen
    (state_instrumentSnapshot code)

theorem settleTradingDay_quiet (date : String) : Quiet ledger (ledger.settleTradingDay date) :=
  .of_states (pendingOrders_settleTradingDay date) BucketPositionState.settle_frozen (state_settleTradingDay date)

theorem setPlans_quiet (plans : Dict String SubstitutionPlan) :
    Quiet ledger { ledger with pendingSubstitutions := plans } := ⟨rfl, fun _ _ _ => rfl⟩

theorem applySubstitutionReattribute_quiet (plan : SubstitutionPlan) (volume : Int) (price : Rat) :
    Quiet ledger (ledger.applySubstitutionReattribute orderId code plan volume price).1 := by
  have hmove : ∀ (requested target : Bucket) (movable : Int), Quiet ledger
      (((ledger.ensureInstrument code).modifyBucket code requested (·.giveTodayBuy movable)).modifyBucket code target
        (·.applyBucketBuy movable price)) := fun requested target movable =>
    ((ensureInstrument_quiet code).trans (modifyBucket_quiet fun state => state.giveTodayBuy_frozen movable)).trans
      (modifyBucket_quiet fun state => state.applyBucketBuy_frozen movable price)
  unfold applySubstitutionReattribute
  dsimp only
  split <;> split
  · exact (hmove _ _ _).trans (setPlans_quiet _)
  · exact (ensureInstrument_quiet code).trans (setPlans_quiet _)
  · exact (hmove _ _ _).trans (setPlans_quiet _)
  · exact (ensureInstrument_quiet code).trans (setPlans_quiet _)

theorem heldTotal_orderLegs {call : ReserveCall} {plan : Option SubstitutionPlan} (hsell : call.orderType = .sell)
    (hplan : ∀ p, plan = some p → p.enabled = true → heldTotal (planLegs p) = call.volume) :
    heldTotal (orderLegs call plan) = call.volume := by
  simp only [orderLegs, if_pos hsell]
  cases hfilter : plan.filter (·.enabled) with
  | some p =>
    obtain ⟨rfl, henabled⟩ := Option.filter_eq_some_iff.mp hfilter
    exact hplan p rfl henabled
  | none => simp

theorem orderLegs_legsOk {call : ReserveCall} (hvolume : 0 < call.volume) (plan : Option SubstitutionPlan) :
    LegsOk (orderLegs call plan) := by
  intro leg hleg
  obtain ⟨hpos, hremaining⟩ := orderLegs_ok hvolume plan leg hleg
  omega

theorem Balanced.put (h : ledger.Balanced) (order : PendingOrder) (hid : orderId ≠ "") (hok : order.Ok)
    (hpending : next.pendingOrders = ledger.pendingOrders.set orderId order)
    (hfrozen : ∀ code bucket, next.frozen code bucket = ledger.frozen code bucket + order.reservedOn code bucket)
    (hfresh : ledger.pendingOrders.get? orderId = none) : next.Balanced where
  named := by rw [hpending, Dict.get?_set_ne _ _ hid]; exact h.named
  orders id other hget := by
    rw [hpending, Dict.get?_set] at hget
    split at hget
    · obtain rfl := Option.some.inj hget
      exact hok
    · exact h.orders id other hget
  frozen code bucket := by
    have hsum := ledger.pendingOrders.sum_set orderId order fun order => order.reservedOn code bucket
    rw [hfresh, Option.map_none, Option.getD_none, add_zero] at hsum
    rw [hfrozen, h.frozen, reservedOn, reservedOn, hpending, hsum]

theorem reserveOrder_balanced (uuid4 now : String) (call : ReserveCall) (h : ledger.Balanced)
    (hfresh : ledger.pendingOrders.get? call.orderId = none)
    (hplan : ∀ plan, SubstitutionPlan.fromDict uuid4 call.orderId call.substitutionPlan = .ok (some plan) →
      call.orderType = .sell → plan.enabled = true → heldTotal (planLegs plan) = call.volume) :
    (ledger.reserveOrder uuid4 now call).1.Balanced := by
  have hstart := (ensureInstrument_quiet call.instrumentCode).balanced h
  rcases ledger.reserveOrder_cases uuid4 now call with ⟨hkeep | hkeep, -⟩ | ⟨plan, hreadable, hgranted, -⟩
  · rw [hkeep]
    exact h
  · rw [hkeep]
    exact hstart
  · have hlegs := orderLegs_legsOk hreadable.volume plan
    have hfreeze := freezeLegs_frozen call.instrumentCode hstart.frozenOk (orderLegs_ok hreadable.volume plan)
    have hother : call.orderType ≠ .sell → orderLegs call plan = [] := fun hsell => by
      simp only [orderLegs, if_neg hsell]
    refine hstart.put (pendingOf call now plan (orderLegs call plan)) hreadable.named
      ⟨hlegs, fun hsell => ?_, hother⟩ hgranted.pendingOrders (fun code bucket => ?_) hfresh
    · refine heldTotal_orderLegs hsell ?_
      rintro p rfl
      exact hplan p hreadable.read hsell
    · rw [frozen, state, hgranted.buckets]
      refine (hfreeze code bucket).trans ?_
      simp only [PendingOrder.reservedOn, pendingOf]
      by_cases hsell : call.orderType = .sell
      · simp [hsell]
      · simp [hsell, hother hsell]

theorem moveSubstitution_quiet (oldOrderId newOrderId : String) :
    Quiet ledger (ledger.moveSubstitution oldOrderId newOrderId) := by
  unfold moveSubstitution
  split
  · exact .refl
  · exact setPlans_quiet _

theorem movePending_balanced (oldOrderId newOrderId : String) (h : ledger.Balanced) (hnew : newOrderId ≠ "")
    (hfresh : ledger.pendingOrders.get? newOrderId = none) : (ledger.movePending oldOrderId newOrderId).Balanced := by
  unfold movePending
  cases hget : ledger.pendingOrders.get? oldOrderId with
  | none => exact h
  | some order =>
    refine ⟨?_, fun id other hother => ?_, fun code bucket => ?_⟩
    · show Dict.get? (Dict.set _ _ _) "" = none
      rw [Dict.get?_set_ne _ _ hnew, Dict.get?_erase]
      split
      · rfl
      · exact h.named
    · have hok := h.orders oldOrderId order hget
      replace hother : Dict.get? (Dict.set _ _ _) id = some other := hother
      rw [Dict.get?_set] at hother
      split at hother
      · obtain rfl := Option.some.inj hother
        exact ⟨hok.legs, hok.sell, hok.other⟩
      · rw [Dict.get?_erase] at hother
        split at hother
        · cases hother
        · exact h.orders id other hother
    · have hsum := Dict.sum_set (ledger.pendingOrders.erase oldOrderId) newOrderId { order with orderId := newOrderId }
        fun order => order.reservedOn code bucket
      have hgone : (ledger.pendingOrders.erase oldOrderId).get? newOrderId = none := by
        rw [Dict.get?_erase]
        split
        · rfl
        · exact hfresh
      rw [hgone, Option.map_none, Option.getD_none, add_zero] at hsum
      show ledger.frozen code bucket = Dict.sum _ _
      rw [hsum, h.frozen, ← reservedOn_erase hget code bucket]
      rfl

theorem transferOrder_balanced (oldOrderId newOrderId : String) (h : ledger.Balanced)
    (hfresh : ledger.pendingOrders.get? newOrderId = none) : (ledger.transferOrder oldOrderId newOrderId).Balanced := by
  unfold transferOrder
  split
  · exact h
  · rename_i hnamed
    obtain ⟨-, hnew, -⟩ := not_or.mp hnamed |>.imp id not_or.mp
    exact (moveSubstitution_quiet oldOrderId newOrderId).balanced (movePending_balanced oldOrderId newOrderId h hnew hfresh)

theorem rollbackOrder_balanced (orderId reason : String) (h : ledger.Balanced) :
    (ledger.rollbackOrder orderId reason).1.Balanced := by
  unfold rollbackOrder
  cases hget : ledger.pendingOrders.get? orderId with
  | none => exact h
  | some order =>
    have hok := h.orders orderId order hget
    generalize hstart : ({ ledger with pendingOrders := ledger.pendingOrders.erase orderId } : BucketLedger) = start
    have hstate : ∀ code bucket, start.frozen code bucket = ledger.frozen code bucket := by
      intro code bucket
      rw [← hstart]
      rfl
    have hstartOk : start.FrozenOk := fun code bucket => by rw [hstate]; exact h.frozenOk code bucket
    have hpending := start.releaseLegs_pendingOrders order.instrumentCode reason order.reservedLegs
    have hfrozen := releaseLegs_frozen order.instrumentCode reason hstartOk hok.legs
      fun bucket => by rw [hstate]; exact h.heldIn_le hget bucket
    have hreleased : (start.releaseLegs order.instrumentCode reason order.reservedLegs).1.Balanced := by
      refine ⟨?_, fun id other hother => ?_, fun code bucket => ?_⟩
      · rw [hpending, ← hstart, Dict.get?_erase]
        split
        · rfl
        · exact h.named
      · rw [hpending, ← hstart, Dict.get?_erase] at hother
        split at hother
        · cases hother
        · exact h.orders id other hother
      · have hsum := reservedOn_erase hget code bucket
        have hheld : order.reservedOn code bucket =
            if order.instrumentCode = code then heldIn bucket order.reservedLegs else 0 := by
          unfold PendingOrder.reservedOn
          by_cases hsell : order.orderType = .sell
          · simp [hsell]
          · simp [hsell, hok.other hsell]
        rw [hfrozen, hstate, h.frozen, ← hsum, ← hheld, reservedOn, hpending, ← hstart]
        exact Int.add_sub_cancel _ _
    dsimp only
    split
    · exact (instrumentSnapshot_quiet _).balanced hreleased
    · exact (instrumentSnapshot_quiet _).balanced ((setPlans_quiet _).balanced hreleased)

/-! ## Fills -/

/-- The ledger between the sale of a volume and the count of the order's rest: the legs gave the volume up, the counter
    did not. -/
structure Filling (ledger : BucketLedger) (orderId : String) (order : PendingOrder) (volume : Int) : Prop where
  pending : ledger.pendingOrders.get? orderId = some order
  named : ledger.pendingOrders.get? "" = none
  others : ∀ id other, id ≠ orderId → ledger.pendingOrders.get? id = some other → other.Ok
  legs : LegsOk order.reservedLegs
  sell : order.orderType = .sell → heldTotal order.reservedLegs = max 0 (order.remainingVolume - volume)
  other : order.orderType ≠ .sell → order.reservedLegs = []
  frozen : ∀ code bucket, ledger.frozen code bucket = ledger.reservedOn code bucket

variable {volume : Int}

theorem Filling.frozenOk (h : Filling ledger orderId order volume) : ledger.FrozenOk := by
  intro code bucket
  rw [h.frozen]
  refine Dict.sum_nonneg fun id other hget => ?_
  by_cases hid : id = orderId
  · subst hid
    obtain rfl := Option.some.inj (h.pending.symm.trans hget)
    unfold PendingOrder.reservedOn
    split
    · exact heldIn_nonneg h.legs
    · exact le_refl 0
  · exact (h.others id other hid hget).reservedOn_nonneg code bucket

theorem Filling.quiet (h : Filling ledger orderId order volume) (hquiet : Quiet ledger next) :
    Filling next orderId order volume := by
  have hreserved : ∀ code bucket, next.reservedOn code bucket = ledger.reservedOn code bucket := by
    intro code bucket
    unfold reservedOn
    rw [hquiet.pendingOrders]
  refine ⟨?_, ?_, ?_, h.legs, h.sell, h.other, fun code bucket => ?_⟩
  · rw [hquiet.pendingOrders]
    exact h.pending
  · rw [hquiet.pendingOrders]
    exact h.named
  · rw [hquiet.pendingOrders]
    exact h.others
  · rw [hquiet.frozen h.frozenOk, h.frozen, hreserved]

theorem Filling.consumePending_balanced (h : Filling ledger orderId order volume) :
    (ledger.consumePending orderId volume).Balanced := by
  have hid : orderId ≠ "" := by
    rintro rfl
    cases h.pending.symm.trans h.named
  rw [consumePending, h.pending]
  dsimp only
  rw [if_neg hid]
  split
  · rename_i hdone
    have hempty : ∀ code bucket, order.reservedOn code bucket = 0 := by
      intro code bucket
      unfold PendingOrder.reservedOn
      split
      · rename_i hsell
        refine heldIn_eq_zero h.legs ?_
        have htotal := h.sell hsell.1
        omega
      · rfl
    refine ⟨?_, fun id other hother => ?_, fun code bucket => ?_⟩
    · show Dict.get? (Dict.erase _ _) "" = none
      rw [Dict.get?_erase]
      split
      · rfl
      · exact h.named
    · replace hother : Dict.get? (Dict.erase _ _) id = some other := hother
      rw [Dict.get?_erase] at hother
      split at hother
      · cases hother
      · rename_i hne
        exact h.others id other (fun heq => hne heq.symm) hother
    · have hsum := reservedOn_erase h.pending code bucket
      rw [hempty, add_zero] at hsum
      show ledger.frozen code bucket = Dict.sum _ _
      rw [h.frozen, hsum]
  · rename_i hleft
    refine ⟨?_, fun id other hother => ?_, fun code bucket => ?_⟩
    · show Dict.get? (Dict.set _ _ _) "" = none
      rw [Dict.get?_set_ne _ _ hid]
      exact h.named
    · replace hother : Dict.get? (Dict.set _ _ _) id = some other := hother
      rw [Dict.get?_set] at hother
      split at hother
      · obtain rfl := Option.some.inj hother
        exact ⟨h.legs, h.sell, h.other⟩
      · rename_i hne
        exact h.others id other (fun heq => hne heq.symm) hother
    · have hsum := ledger.pendingOrders.sum_set orderId
        { order with remainingVolume := max 0 (order.remainingVolume - volume) } fun order => order.reservedOn code bucket
      rw [h.pending, Option.map_some, Option.getD_some] at hsum
      show ledger.frozen code bucket = Dict.sum _ _
      rw [h.frozen]
      exact (add_right_cancel hsum).symm

theorem Balanced.filling_other (h : ledger.Balanced) (hget : ledger.pendingOrders.get? orderId = some order)
    (hother : order.orderType ≠ .sell) : Filling ledger orderId order volume :=
  ⟨hget, h.named, fun id other _ => h.orders id other, (h.orders _ _ hget).legs, fun hsell => absurd hsell hother,
    (h.orders _ _ hget).other, h.frozen⟩

theorem sellRest_quiet (bucket : Bucket) (remaining : Int) (events : List LedgerEvent) :
    Quiet ledger (if 0 < remaining then
      (ledger.modifyBucket code bucket (·.sellUnreserved (min remaining (ledger.state code bucket).totalVolume)),
        events ++ [.bucketSellUnreserved bucket (min remaining (ledger.state code bucket).totalVolume)])
      else (ledger, events)).1 := by
  split
  · exact modifyBucket_quiet fun state => state.sellUnreserved_frozen _
  · exact .refl

theorem applyBucketSell_filling (bucket : Bucket) (h : ledger.Balanced)
    (hget : ledger.pendingOrders.get? orderId = some order) (hsell : order.orderType = .sell) (hvolume : 0 < volume) :
    ∃ legs, Filling (ledger.applyBucketSell orderId order.instrumentCode bucket volume).1 orderId
      { order with reservedLegs := legs } volume := by
  have hok := h.orders orderId order hget
  have hconsumed := consumeLegs_consumed (Int.le_of_lt hvolume) h.frozenOk hok.legs (h.heldIn_le hget)
  have hpending := ledger.consumeLegs_pendingOrders order.instrumentCode order.reservedLegs volume
  simp only [applyBucketSell, hget]
  revert hconsumed hpending
  generalize ledger.consumeLegs order.instrumentCode order.reservedLegs volume = result
  obtain ⟨next, legs, remaining, events⟩ := result
  rintro ⟨hlegs, htotal, hfrozen⟩ hpending
  refine ⟨legs, Filling.quiet ?_ (sellRest_quiet bucket remaining events)⟩
  replace hpending : next.pendingOrders = ledger.pendingOrders := hpending
  refine ⟨?_, ?_, fun id other hne hother => ?_, hlegs, fun _ => ?_, fun hno => absurd hsell hno, fun code bucket => ?_⟩
  · exact Dict.get?_set_self _ _ _
  · have hid : orderId ≠ "" := by
      rintro rfl
      cases hget.symm.trans h.named
    rw [Dict.get?_set_ne _ _ hid, hpending]
    exact h.named
  · replace hother : Dict.get? (Dict.set _ _ _) id = some other := hother
    rw [Dict.get?_set_ne _ _ fun heq => hne heq.symm, hpending] at hother
    exact h.orders id other hother
  · rw [← hok.sell hsell]
    exact htotal
  · -- The bucket and the record lose the same volume.
    have hsum := next.pendingOrders.sum_set orderId { order with reservedLegs := legs }
      fun order => order.reservedOn code bucket
    rw [hpending, hget, Option.map_some, Option.getD_some] at hsum
    have hold : ledger.frozen code bucket = ledger.pendingOrders.sum fun order => order.reservedOn code bucket :=
      h.frozen code bucket
    have hnew := hfrozen code bucket
    have hheld : ∀ legs, PendingOrder.reservedOn { order with reservedLegs := legs } code bucket =
        if order.instrumentCode = code then heldIn bucket legs else 0 := by
      intro legs
      simp [PendingOrder.reservedOn, hsell]
    have hheldBefore := hheld order.reservedLegs
    dsimp only at hheldBefore hnew
    rw [hheld legs, hheldBefore] at hsum
    show next.frozen code bucket = (next.pendingOrders.set orderId { order with reservedLegs := legs }).sum
      fun order => order.reservedOn code bucket
    rw [hpending]
    split_ifs at hsum hnew <;> omega

theorem applyBucketSell_quiet (code : String) (bucket : Bucket) (volume : Int) (hget : ledger.pendingOrders.get? orderId = none) :
    Quiet ledger (ledger.applyBucketSell orderId code bucket volume).1 := by
  simp only [applyBucketSell, hget]
  exact sellRest_quiet bucket volume []

theorem bookTrade_quiet (event : LedgerTrade) (bucket : Bucket)
    (hget : ledger.pendingOrders.get? event.orderId = none) : Quiet ledger (ledger.bookTrade event bucket).1 := by
  have hsold := applyBucketSell_quiet event.instrumentCode bucket event.volume hget
  unfold bookTrade
  cases event.tradeType with
  | buy => exact modifyBucket_quiet fun state => state.applyBucketBuy_frozen _ _
  | buyToCover => exact modifyBucket_quiet fun state => state.applyBucketBuy_frozen _ _
  | sellShort => exact .refl
  | sell =>
    dsimp only
    split
    · exact hsold
    · exact hsold.trans (applySubstitutionReattribute_quiet _ _ _)

theorem bookTrade_filling (event : LedgerTrade) (bucket : Bucket) (h : ledger.Balanced)
    (hget : ledger.pendingOrders.get? event.orderId = some order) (hcode : event.instrumentCode = order.instrumentCode)
    (htype : event.tradeType = order.orderType) (hvolume : 0 < event.volume) :
    ∃ order, Filling (ledger.bookTrade event bucket).1 event.orderId order event.volume := by
  unfold bookTrade
  cases hside : event.tradeType with
  | buy =>
    have hother : order.orderType ≠ .sell := by rw [← htype, hside]; exact OrderType.noConfusion
    exact ⟨order, (h.filling_other hget hother).quiet (modifyBucket_quiet fun state => state.applyBucketBuy_frozen _ _)⟩
  | buyToCover =>
    have hother : order.orderType ≠ .sell := by rw [← htype, hside]; exact OrderType.noConfusion
    exact ⟨order, (h.filling_other hget hother).quiet (modifyBucket_quiet fun state => state.applyBucketBuy_frozen _ _)⟩
  | sellShort =>
    have hother : order.orderType ≠ .sell := by rw [← htype, hside]; exact OrderType.noConfusion
    exact ⟨order, h.filling_other hget hother⟩
  | sell =>
    obtain ⟨legs, hsold⟩ := applyBucketSell_filling bucket h hget (htype ▸ hside) hvolume
    rw [← hcode] at hsold
    dsimp only
    split
    · exact ⟨_, hsold⟩
    · exact ⟨_, hsold.quiet (applySubstitutionReattribute_quiet _ _ _)⟩

theorem applyTrade_balanced (event : LedgerTrade) (metadata : Dict String PyVal) (h : ledger.Balanced)
    (hfill : ∀ order, ledger.pendingOrders.get? event.orderId = some order →
      event.instrumentCode = order.instrumentCode ∧ event.tradeType = order.orderType) :
    (ledger.applyTrade event metadata).1.Balanced := by
  unfold applyTrade
  split
  · exact h
  · split
    · exact h
    · rename_i hvolume
      refine (instrumentSnapshot_quiet _).balanced ?_
      generalize ledger.tradeBucket event.orderId metadata = bucket
      cases hget : ledger.pendingOrders.get? event.orderId with
      | none =>
        have hquiet := bookTrade_quiet event bucket hget
        have hcount : (ledger.bookTrade event bucket).1.consumePending event.orderId event.volume =
            (ledger.bookTrade event bucket).1 := by rw [consumePending, hquiet.pendingOrders, hget]
        rw [hcount]
        exact hquiet.balanced h
      | some order =>
        obtain ⟨hcode, htype⟩ := hfill order hget
        obtain ⟨filled, hfilling⟩ := bookTrade_filling event bucket h hget hcode htype (not_le.mp hvolume)
        exact hfilling.consumePending_balanced

theorem substitutionLegs_total (capacity : Bucket → Int) (sources : List Bucket) (requested : Int) (h : 0 ≤ requested) :
    (∀ leg ∈ (substitutionLegs capacity sources requested).1, 0 < leg.2) ∧
      0 ≤ (substitutionLegs capacity sources requested).2 ∧
      ((substitutionLegs capacity sources requested).1.map (·.2)).sum + (substitutionLegs capacity sources requested).2 =
        requested := by
  induction sources generalizing requested with
  | nil => simp [substitutionLegs, h]
  | cons source sources ih =>
    rw [substitutionLegs]
    split
    · exact ih requested h
    · rename_i hsome
      have htake := min_le_left requested (capacity source)
      have hpos : 0 < min requested (capacity source) := lt_min (by omega) (by omega)
      dsimp only
      generalize min requested (capacity source) = take at htake hpos ⊢
      obtain ⟨hlegs, hrest, hsum⟩ := ih (requested - take) (by omega)
      refine ⟨fun leg hleg => ?_, hrest, ?_⟩
      · rcases List.mem_cons.mp hleg with rfl | hleg
        · exact hpos
        · exact hlegs leg hleg
      · rw [List.map_cons, List.sum_cons]
        omega

def namedLeg (leg : Bucket × Int) : SubstitutionLeg := { bucket := leg.1.name, volume := leg.2 }

theorem SubstitutionLeg.fromDict_fields (leg : SubstitutionLeg) :
    SubstitutionLeg.fromDict (.dict [("bucket", .str leg.bucket), ("volume", .int leg.volume)]) = .ok leg := by
  simp only [SubstitutionLeg.fromDict, textField, intField, PyVal.get, Dict.lookup, String.reduceEq, ↓reduceIte,
    Option.getD_some, PyVal.str_or, PyVal.orText_empty, PyVal.text_str, PyVal.int_or_zero, PyVal.toInt_int]
  rfl

theorem fromDict_substitutionPlanFields (uuid4 orderId : String) (requested : Int) (legs : List (Bucket × Int)) :
    SubstitutionPlan.fromDict uuid4 orderId (some (substitutionPlanFields requested legs)) = .ok (some {
      requestedBucket := "swing", sellFromBuckets := (legs.map namedLeg).filter fun leg => 0 < leg.volume
      reattributeBuyToBucket := "core", volume := requested, reason := "swing_t0_sell_with_core_inventory"
      planId := uuid4, orderId := PyVal.orText orderId ""
      status := .planned }) := by
  have hlegs := mapM_written SubstitutionLeg.fromDict_fields (legs.map namedLeg)
  rw [List.map_map] at hlegs
  simp only [SubstitutionPlan.fromDict, substitutionPlanFields, SubstitutionStatus.fromField, textOrField, textField,
    intField, boolField, PyVal.get, Dict.lookup, String.reduceEq, ↓reduceIte, Option.getD_some, Option.getD_none,
    listOrEmpty_list, PyVal.int_or_zero, PyVal.toInt_int, bind, Except.bind, pure, Except.pure]
  rw [show (legs.map fun leg => PyVal.dict [("bucket", .str leg.1.name), ("volume", .int leg.2)]) =
    legs.map ((fun leg : SubstitutionLeg => PyVal.dict [("bucket", .str leg.bucket), ("volume", .int leg.volume)]) ∘ namedLeg)
    from rfl, hlegs]
  rfl

theorem checker_plan_legs {capacity : Bucket → Int} {requested : Int} (h : 0 ≤ requested)
    {fields : List (String × PyVal)} (hplan : checkT1Substitution capacity requested = some fields)
    {uuid4 orderId : String} {plan : SubstitutionPlan}
    (hread : SubstitutionPlan.fromDict uuid4 orderId (some fields) = .ok (some plan)) :
    ((planLegs plan).map (·.volume)).sum = requested := by
  obtain ⟨hpos, hrest, hsum⟩ := substitutionLegs_total capacity substitutionSources requested h
  simp only [checkT1Substitution] at hplan
  split at hplan
  · rename_i hcovered
    obtain rfl := Option.some.inj hplan
    rw [fromDict_substitutionPlanFields] at hread
    obtain rfl := Option.some.inj (Except.ok.inj hread)
    generalize substitutionLegs capacity substitutionSources requested = result at hpos hrest hsum hcovered
    have hkept : ∀ leg ∈ result.1.map namedLeg, decide (0 < leg.volume) = true := by
      intro leg hleg
      obtain ⟨source, hsource, rfl⟩ := List.mem_map.mp hleg
      exact decide_eq_true (hpos source hsource)
    simp only [planLegs, List.filter_eq_self.mpr hkept, List.map_map]
    show (result.1.map (·.2)).sum = requested
    omega
  · cases hplan

end BucketLedger

/-! ## Runs -/

inductive LedgerOp where
  | reserve (uuid4 now : String) (call : ReserveCall)
  | transfer (oldOrderId newOrderId : String)
  | rollback (orderId reason : String)
  | trade (event : LedgerTrade) (metadata : Dict String PyVal)
  | settle (tradingDate : String)

namespace BucketLedger
variable {ledger : BucketLedger} {log : List (Moment BucketLedger LedgerOp)}

def step (ledger : BucketLedger) : LedgerOp → BucketLedger
  | .reserve uuid4 now call => (ledger.reserveOrder uuid4 now call).1
  | .transfer oldOrderId newOrderId => ledger.transferOrder oldOrderId newOrderId
  | .rollback orderId reason => (ledger.rollbackOrder orderId reason).1
  | .trade event metadata => (ledger.applyTrade event metadata).1
  | .settle tradingDate => ledger.settleTradingDay tradingDate

/-- What the callers keep to. Orders come and move under ids that are not pending, the legs of a substitution sell make
    up the order, and a trade under a pending id fills that order. -/
def Legal (ledger : BucketLedger) : LedgerOp → Prop
  | .reserve uuid4 _ call =>
    ledger.pendingOrders.get? call.orderId = none ∧
      ∀ plan, SubstitutionPlan.fromDict uuid4 call.orderId call.substitutionPlan = .ok (some plan) →
        call.orderType = .sell → plan.enabled = true → ((planLegs plan).map (·.volume)).sum = call.volume
  | .transfer _ newOrderId => ledger.pendingOrders.get? newOrderId = none
  | .rollback _ _ => True
  | .trade event _ => ∀ order, ledger.pendingOrders.get? event.orderId = some order →
      event.instrumentCode = order.instrumentCode ∧ event.tradeType = order.orderType
  | .settle _ => True

def Seeded (ledger : BucketLedger) : Prop :=
  ledger.pendingOrders = Dict.empty ∧ ∀ code bucket, (ledger.state code bucket).frozenVolume = 0

def LedgerRun : List (Moment BucketLedger LedgerOp) → BucketLedger → Prop := Run Seeded step fun _ => Legal

theorem LedgerRun.next (h : LedgerRun log ledger) (op : LedgerOp) (hop : ledger.Legal op) :
    LedgerRun (⟨ledger, op, ledger.step op⟩ :: log) (ledger.step op) := Run.step h op hop

theorem Seeded.balanced (h : ledger.Seeded) : ledger.Balanced := by
  obtain ⟨hpending, hfrozen⟩ := h
  refine ⟨by rw [hpending]; rfl, fun id order hget => ?_, fun code bucket => ?_⟩
  · rw [hpending] at hget
    cases hget
  · rw [reservedOn, hpending]
    exact hfrozen code bucket

theorem heldTotal_planLegs (plan : SubstitutionPlan) : heldTotal (planLegs plan) = ((planLegs plan).map (·.volume)).sum := by
  exact congrArg List.sum (List.map_congr_left fun leg hleg => (planLegs_ok plan leg hleg).2)

theorem step_balanced (h : ledger.Balanced) (op : LedgerOp) (hop : ledger.Legal op) : (ledger.step op).Balanced := by
  cases op with
  | reserve uuid4 now call =>
    obtain ⟨hfresh, hplan⟩ := hop
    refine reserveOrder_balanced uuid4 now call h hfresh fun plan hread hsell henabled => ?_
    rw [heldTotal_planLegs]
    exact hplan plan hread hsell henabled
  | transfer oldOrderId newOrderId => exact transferOrder_balanced oldOrderId newOrderId h hop
  | rollback orderId reason => exact rollbackOrder_balanced orderId reason h
  | trade event metadata => exact applyTrade_balanced event metadata h hop
  | settle tradingDate => exact (settleTradingDay_quiet tradingDate).balanced h

theorem LedgerRun.balanced (h : LedgerRun log ledger) : ledger.Balanced :=
  Run.invariant (fun _ ledger => ledger.Balanced) (fun _ => Seeded.balanced) (fun _ _ op hbal hop => step_balanced hbal op hop) h

/-- Along every run a bucket's frozen volume is what the pending sells hold there; without pending orders nothing is
    frozen. -/
theorem frozen_eq_reserved (h : LedgerRun log ledger) :
    (∀ code bucket, (ledger.state code bucket).frozenVolume = ledger.reservedOn code bucket) ∧
      (ledger.pendingOrders.keys = [] → ∀ code bucket, (ledger.state code bucket).frozenVolume = 0) := by
  have hfrozen := h.balanced.frozen
  refine ⟨hfrozen, fun hnone code bucket => ?_⟩
  have hentries : ledger.pendingOrders.entries = [] := List.map_eq_nil_iff.mp hnone
  rw [show (ledger.state code bucket).frozenVolume = _ from hfrozen code bucket, reservedOn, Dict.sum_eq, hentries]
  rfl

/-- A swing bucket with shares bought today beside an old core holding. -/
def mixedLedger : BucketLedger where
  runId := "run"
  buckets := Dict.ofList [("600000.SH", Dict.ofList [
    (.swing, { bucket := .swing, totalVolume := 300, availableVolume := 100, todayBuyVolume := 200 }),
    (.core, { bucket := .core, totalVolume := 500, availableVolume := 500 })])]

def mixedCapacity : Bucket → Int
  | .swing => 100
  | .core => 500
  | .lockedCore => 0

/-- A swing sell that the checker covers from both buckets. -/
def mixedSell : ReserveCall where
  orderId := "intent-1"
  instrumentCode := "600000.SH"
  orderType := .sell
  bucket := "swing"
  volume := 300
  substitutionPlan := checkT1Substitution mixedCapacity 300

def mixedFill : LedgerTrade where
  orderId := "intent-1"
  instrumentCode := "600000.SH"
  tradeType := .sell
  volume := 150
  price := 10

theorem mixedLedger_seeded : mixedLedger.Seeded := by
  refine ⟨rfl, fun code bucket => ?_⟩
  by_cases hcode : code = "600000.SH"
  · subst hcode
    cases bucket <;> decide +kernel
  · have hnone : mixedLedger.buckets.get? code = none := by
      show Dict.lookup code [("600000.SH", _)] = none
      rw [Dict.lookup, if_neg fun h => hcode h.symm]
      rfl
    simp only [state, Dict.getD, hnone]
    rfl

/-- After a partial fill of the covered sell the core bucket still holds the rest of its leg. -/
theorem mixed_sell_frozen :
    let filled := (mixedLedger.step (.reserve "plan-1" "now" mixedSell)).step (.trade mixedFill Dict.empty)
    filled.reservedOn "600000.SH" .core = 150 ∧ (filled.state "600000.SH" .core).frozenVolume = 150 := by
  have hplan : ∀ plan, SubstitutionPlan.fromDict "plan-1" "intent-1" mixedSell.substitutionPlan = .ok (some plan) →
      mixedSell.orderType = .sell → plan.enabled = true → ((planLegs plan).map (·.volume)).sum = mixedSell.volume := by
    intro plan hread _ _
    exact checker_plan_legs (by decide) (show checkT1Substitution mixedCapacity 300 = some _ from rfl) hread
  have hfill : Legal (mixedLedger.step (.reserve "plan-1" "now" mixedSell)) (.trade mixedFill Dict.empty) := by
    intro order horder
    have hpending : ((mixedLedger.step (.reserve "plan-1" "now" mixedSell)).pendingOrders.get? "intent-1").map
        (fun order => (order.instrumentCode, order.orderType)) = some ("600000.SH", .sell) := by decide +kernel
    replace horder : (mixedLedger.step (.reserve "plan-1" "now" mixedSell)).pendingOrders.get? "intent-1" = some order :=
      horder
    rw [horder, Option.map_some, Option.some.injEq, Prod.mk.injEq] at hpending
    exact ⟨hpending.1.symm, hpending.2.symm⟩
  have hstart : LedgerRun [] mixedLedger := Run.start mixedLedger_seeded
  have hrun := (hstart.next (.reserve "plan-1" "now" mixedSell) ⟨rfl, hplan⟩).next (.trade mixedFill Dict.empty) hfill
  have hheld : BucketLedger.reservedOn ((mixedLedger.step (.reserve "plan-1" "now" mixedSell)).step
      (.trade mixedFill Dict.empty)) "600000.SH" .core = 150 := by decide +kernel
  exact ⟨hheld, ((frozen_eq_reserved hrun).1 _ _).trans hheld⟩

end BucketLedger
end QuantX
