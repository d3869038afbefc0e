import QuantX.Theorems.BucketLedger.Substitution

namespace QuantX
open Lib

namespace BucketPositionState
variable {state : BucketPositionState}

structure ScalesEvenly (factor : Rat) (v : Volumes) : Prop where
  frozen : scaleVolume v.frozen factor = v.frozen
  backed : v.frozen ≤ scaleVolume v.total factor
  parts : scaleVolume v.todayBuy factor = 0 ∨
    scaleVolume v.available factor + v.frozen + scaleVolume v.todayBuy factor ≤ scaleVolume v.total factor

def adjusted (factor : Rat) (v : Volumes) : Volumes where
  total := scaleVolume v.total factor
  available := min (scaleVolume v.available factor) (max 0 (scaleVolume v.total factor - scaleVolume v.frozen factor))
  todayBuy := scaleVolume v.todayBuy factor
  frozen := scaleVolume v.frozen factor

theorem scaleVolume_nonneg (value : Int) (factor : Rat) : 0 ≤ scaleVolume value factor := le_max_left _ _

theorem adjust_volumes (h : state.volumes.Normal) (factor priceMultiplier cashDividend : Rat) :
    (state.adjust factor priceMultiplier cashDividend).volumes = adjusted factor state.volumes := by
  have hsame := normalize_volumes h
  simp only [volumes, Volumes.mk.injEq] at hsame
  obtain ⟨htotal, havailable, htoday, hfrozen⟩ := hsame
  have hnonneg := fun value => scaleVolume_nonneg value factor
  simp only [adjust, htotal, havailable, htoday, hfrozen]
  ext <;> simp only [volumes, revalue, normalize, adjusted, max_eq_right (hnonneg _)]

theorem ScalesEvenly.sound {factor : Rat} {v : Volumes} (h : ScalesEvenly factor v) : (adjusted factor v).Sound := by
  obtain ⟨hfrozen, hbacked, hparts⟩ := h
  have htotal := scaleVolume_nonneg v.total factor
  have havailable := scaleVolume_nonneg v.available factor
  have htoday := scaleVolume_nonneg v.todayBuy factor
  have hheld := scaleVolume_nonneg v.frozen factor
  refine ⟨?_, htoday, hheld, ?_⟩ <;> simp only [adjusted] <;> omega

theorem adjust_new (bucket : Bucket) (factor priceMultiplier : Rat) {cashDividend : Rat} (hcash : 0 ≤ cashDividend) :
    ({ bucket := bucket } : BucketPositionState).adjust factor priceMultiplier cashDividend = { bucket := bucket } := by
  have hzero : scaleVolume 0 factor = 0 := by
    simp only [scaleVolume, Int.cast_zero, zero_mul]
    decide +kernel
  have hprice : max 0 ((0 : Rat) * priceMultiplier - cashDividend) = 0 := by
    rw [zero_mul, zero_sub]
    exact max_eq_left (neg_nonpos.mpr hcash)
  simp only [adjust, BucketLedger.normalize_new, hzero, hprice]
  cases bucket <;> decide +kernel

end BucketPositionState

namespace BucketLedger
variable {ledger next : BucketLedger} {code : String} {action : CorporateAction}
variable {log : List (Moment BucketLedger LedgerOp)}

theorem applyCorporateAction_booked (action : CorporateAction) (hcode : code ≠ "") (hnormal : ledger.NormalAt code) :
    Booked ledger (ledger.applyCorporateAction code action).1 code
        (fun _ v => BucketPositionState.adjusted action.factor v) ∧
      (ledger.applyCorporateAction code action).1.pendingOrders = ledger.pendingOrders ∧
      (ledger.applyCorporateAction code action).1.pendingSubstitutions = ledger.pendingSubstitutions := by
  simp only [applyCorporateAction, if_neg hcode]
  generalize hchange : (BucketPositionState.adjust · action.factor action.priceMultiplier (max 0 action.cashDividendPerShare)) =
    change
  have hnew : ∀ bucket, change { bucket := bucket } = { bucket := bucket } := fun bucket => by
    rw [← hchange]
    exact BucketPositionState.adjust_new bucket _ _ (le_max_left _ _)
  generalize hledger : ({ ledger.ensureInstrument code with
    buckets := (ledger.ensureInstrument code).buckets.set code
      (((ledger.ensureInstrument code).buckets.getD code Dict.empty).map change) } : BucketLedger) = scaled
  have hown : ∀ bucket, scaled.state code bucket = change (ledger.state code bucket) := by
    intro bucket
    rw [← hledger, ← state_ensureInstrument ledger code code bucket]
    simp only [state, Dict.getD_set, ↓reduceIte]
    exact getD_map_state (hnew bucket)
  have hbooked : Booked ledger scaled code fun _ v => BucketPositionState.adjusted action.factor v := by
    refine ⟨fun bucket => ?_, fun code' hne bucket => ?_⟩
    · rw [volumes, hown, ← hchange]
      exact BucketPositionState.adjust_volumes (hnormal bucket) _ _ _
    · rw [← hledger, ← state_ensureInstrument ledger code code' bucket]
      simp only [state, Dict.getD_set, if_neg hne.symm]
  have hscaled : scaled.NormalAt code := by
    intro bucket
    rw [volumes, hown, ← hchange]
    exact BucketPositionState.normalize_normal _
  refine ⟨hbooked.trans (instrumentSnapshot_booked hscaled), ?_, ?_⟩
  · rw [pendingOrders_instrumentSnapshot, ← hledger]
    rfl
  · rw [instrumentSnapshot_buckets, ← hledger]
    rfl

/-- The frozen volumes are what the pending sells hold, and the parts of every bucket fit. -/
structure Consistent (ledger : BucketLedger) : Prop where
  balanced : ledger.Balanced
  sound : ∀ code, ledger.SoundAt code

def ActionFits (ledger : BucketLedger) (code : String) (action : CorporateAction) : Prop :=
  ∀ bucket, BucketPositionState.ScalesEvenly action.factor (ledger.volumes code bucket)

theorem applyCorporateAction_consistent (h : ledger.Consistent) (hcode : code ≠ "") (hfits : ledger.ActionFits code action) :
    (ledger.applyCorporateAction code action).1.Consistent := by
  obtain ⟨hbooked, hpending, -⟩ := applyCorporateAction_booked action hcode (h.sound code).normalAt
  have hfrozen : ∀ code' bucket, (ledger.applyCorporateAction code action).1.frozen code' bucket =
      ledger.frozen code' bucket := by
    intro code' bucket
    by_cases hsame : code' = code
    · subst hsame
      exact (congrArg Volumes.frozen (hbooked.own bucket)).trans (hfits bucket).frozen
    · exact hbooked.frozen_others hsame bucket
  refine ⟨⟨hpending ▸ h.balanced.named, hpending ▸ h.balanced.orders, fun code' bucket => ?_⟩,
    hbooked.sound_all h.sound (hbooked.soundAt fun bucket => (hfits bucket).sound)⟩
  rw [hfrozen, h.balanced.frozen, reservedOn, reservedOn, hpending]

/-! ## Finishing the pending sells -/

/-- Rollbacks, and fills of pending sells up to what is left of them. -/
def Finishing (ledger : BucketLedger) : LedgerOp → Prop
  | .rollback _ _ => True
  | .trade event _ => event.tradeType = .sell ∧ 0 < event.volume ∧
    ∃ order, ledger.pendingOrders.get? event.orderId = some order ∧ order.orderType = .sell ∧
      order.instrumentCode = event.instrumentCode ∧ event.instrumentCode ≠ "" ∧ event.volume ≤ order.remainingVolume
  | _ => False

def FinishRun (start : BucketLedger) : List (Moment BucketLedger LedgerOp) → BucketLedger → Prop :=
  Run (· = start) step fun _ => Finishing

def eventsOn (code : String) (ledger : BucketLedger) : LedgerOp → List LedgerEvent
  | .trade event metadata => if event.instrumentCode = code then (ledger.applyTrade event metadata).2.events else []
  | _ => []

def reported (code : String) (log : List (Moment BucketLedger LedgerOp)) : List LedgerEvent :=
  log.flatMap fun moment => moment.before.eventsOn code moment.op

def filledOn (code : String) : LedgerOp → Int
  | .trade event _ => if event.instrumentCode = code then event.volume else 0
  | _ => 0

def filledVolume (code : String) (log : List (Moment BucketLedger LedgerOp)) : Int :=
  (log.map fun moment => filledOn code moment.op).sum

structure Reported (ledger : BucketLedger) (op : LedgerOp) (next : BucketLedger) : Prop where
  total : ∀ code bucket, (next.state code bucket).totalVolume = (ledger.state code bucket).totalVolume -
    soldFrom bucket (ledger.eventsOn code op) + handedTo bucket (ledger.eventsOn code op)
  sold : ∀ code, (knownBuckets.map fun bucket => soldFrom bucket (ledger.eventsOn code op)).sum = filledOn code op
  handed : ∀ code, (knownBuckets.map fun bucket => handedTo bucket (ledger.eventsOn code op)).sum = 0

theorem rollbackOrder_consistent (h : ledger.Consistent) (orderId reason : String) :
    (ledger.rollbackOrder orderId reason).1.Consistent ∧
      Reported ledger (.rollback orderId reason) (ledger.rollbackOrder orderId reason).1 := by
  have hbalanced := rollbackOrder_balanced orderId reason h.balanced
  cases hget : ledger.pendingOrders.get? orderId with
  | none =>
    have hnone : ledger.rollbackOrder orderId reason = (ledger, { instrumentCode := "" }) := by rw [rollbackOrder, hget]
    rw [hnone]
    exact ⟨h, ⟨fun code bucket => by simp [eventsOn], fun code => rfl, fun code => rfl⟩⟩
  | some order =>
    have hlegs := (h.balanced.orders orderId order hget).legs
    have hsounds := h.sound order.instrumentCode
    obtain ⟨-, hbooked, -⟩ := rollbackOrder_rolledBack reason hget hsounds.normalAt hlegs (h.balanced.heldIn_le hget)
      hsounds.backedFor
    have hsound := hbooked.soundAt fun bucket => (hsounds bucket).freeze (by
      have hle : heldIn bucket order.reservedLegs ≤ (ledger.volumes order.instrumentCode bucket).frozen :=
        h.balanced.heldIn_le hget bucket
      omega) (by
      have hnonneg : 0 ≤ heldIn bucket order.reservedLegs := heldIn_nonneg hlegs
      have havailable := (hsounds bucket).available
      omega)
    refine ⟨⟨hbalanced, hbooked.sound_all h.sound hsound⟩, ⟨fun code bucket => ?_, fun code => rfl, fun code => rfl⟩⟩
    simp only [eventsOn, soldFrom_nil, handedTo_nil, sub_zero, add_zero]
    by_cases hcode : code = order.instrumentCode
    · subst hcode
      exact congrArg Volumes.total (hbooked.own bucket)
    · rw [hbooked.others code hcode]

theorem applyTrade_consistent (h : ledger.Consistent) {event : LedgerTrade} {metadata : Dict String PyVal}
    (hfill : ledger.Finishing (.trade event metadata)) :
    (ledger.applyTrade event metadata).1.Consistent ∧
      Reported ledger (.trade event metadata) (ledger.applyTrade event metadata).1 := by
  obtain ⟨hside, hvolume, order, hget, hsell, hcode, hnamed, hleft⟩ := hfill
  have hok := h.balanced.orders event.orderId order hget
  have hid : event.orderId ≠ "" := by
    intro hempty
    rw [hempty, h.balanced.named] at hget
    cases hget
  have hfrozen : ∀ bucket, heldIn bucket order.reservedLegs ≤ (ledger.volumes event.instrumentCode bucket).frozen :=
    hcode ▸ h.balanced.heldIn_le hget
  obtain ⟨legs, hfilled⟩ := applyTrade_filled event metadata hid hnamed hvolume hside hget (h.sound _) hok.legs
    (by rw [hok.sell hsell]; exact hleft) hfrozen
  have hbalanced := applyTrade_balanced event metadata h.balanced fun order' hget' => by
    obtain rfl := Option.some.inj (hget.symm.trans hget')
    exact ⟨hcode.symm, hside.trans hsell.symm⟩
  refine ⟨⟨hbalanced, hfilled.booked.sound_all h.sound hfilled.sound⟩,
    ⟨fun code bucket => ?_, fun code => ?_, fun code => ?_⟩⟩
  · by_cases hsame : event.instrumentCode = code
    · subst hsame
      have hown := congrArg Volumes.total (hfilled.booked.own bucket)
      simp only [eventsOn, ↓reduceIte]
      exact hown
    · simp only [eventsOn, if_neg hsame, soldFrom_nil, handedTo_nil, sub_zero, add_zero]
      rw [hfilled.booked.others code fun heq => hsame heq.symm]
  · by_cases hsame : event.instrumentCode = code
    · simp only [eventsOn, filledOn, if_pos hsame]
      exact hfilled.sum_soldFrom
    · simp [eventsOn, filledOn, hsame, knownBuckets]
  · by_cases hsame : event.instrumentCode = code
    · simp only [eventsOn, if_pos hsame]
      exact hfilled.sum_handedTo
    · simp [eventsOn, hsame, knownBuckets]

theorem step_finishing (h : ledger.Consistent) (op : LedgerOp) (hop : ledger.Finishing op) :
    (ledger.step op).Consistent ∧ Reported ledger op (ledger.step op) := by
  cases op with
  | rollback orderId reason => exact rollbackOrder_consistent h orderId reason
  | trade event metadata => exact applyTrade_consistent h hop
  | reserve uuid4 now call => exact absurd hop id
  | transfer oldOrderId newOrderId => exact absurd hop id
  | settle date => exact absurd hop id

/-- Along a run that finishes sells the totals fall by what the run reports sold, and move by what it
    reports handed over. -/
theorem FinishRun.totals {start final : BucketLedger} (hstart : start.Consistent)
    (h : FinishRun start log final) : final.Consistent ∧
      (∀ code bucket, (final.state code bucket).totalVolume = (start.state code bucket).totalVolume -
        soldFrom bucket (reported code log) + handedTo bucket (reported code log)) ∧
      ∀ code, final.instrumentTotal code = start.instrumentTotal code - filledVolume code log := by
  refine Run.invariant (fun log ledger => ledger.Consistent ∧
      (∀ code bucket, (ledger.state code bucket).totalVolume = (start.state code bucket).totalVolume -
        soldFrom bucket (reported code log) + handedTo bucket (reported code log)) ∧
      ∀ code, ledger.instrumentTotal code = start.instrumentTotal code - filledVolume code log)
    ?_ (fun log ledger op hold hop => ?_) h
  · rintro ledger rfl
    exact ⟨hstart, fun code bucket => by simp [reported], fun code => by simp [filledVolume]⟩
  · obtain ⟨hconsistent, htotal, hsum⟩ := hold
    obtain ⟨hnext, hreport⟩ := step_finishing hconsistent op hop
    refine ⟨hnext, fun code bucket => ?_, fun code => ?_⟩
    · rw [hreport.total, htotal]
      simp only [reported, List.flatMap_cons, soldFrom_append, handedTo_append]
      omega
    · have hold := hsum code
      have hsold := hreport.sold code
      have hhanded := hreport.handed code
      simp only [instrumentTotal, knownBuckets, List.map_cons, List.map_nil, List.sum_cons, List.sum_nil, hreport.total,
        filledVolume] at hold hsold hhanded ⊢
      omega

theorem Balanced.frozen_eq_zero (h : ledger.Balanced)
    (hnone : ∀ id order, ledger.pendingOrders.get? id = some order → order.orderType = .sell → order.instrumentCode ≠ code)
    (bucket : Bucket) : ledger.frozen code bucket = 0 := by
  rw [h.frozen, reservedOn, Dict.sum_eq]
  refine List.sum_eq_zero fun held hheld => ?_
  obtain ⟨⟨id, order⟩, hentry, rfl⟩ := List.mem_map.mp hheld
  have hget := Dict.mem_entries.mp hentry
  exact if_neg fun hboth => hnone id order hget hboth.1 hboth.2

theorem consistent_of_runs (h : LedgerRun log ledger) (h' : VolumeRun log ledger) :
    ledger.Consistent := ⟨h.balanced, h'.conserves.1.sound⟩

def mixedReserved : BucketLedger := mixedLedger.step (.reserve "plan-1" "now" mixedSell)

theorem mixedReserved_consistent : mixedReserved.Consistent := by
  have hplan : ∀ plan, SubstitutionPlan.fromDict "plan-1" mixedSell.orderId mixedSell.substitutionPlan = .ok (some plan) →
      mixedSell.orderType = .sell → plan.enabled = true → ((planLegs plan).map (·.volume)).sum = mixedSell.volume := by
    intro plan hread _ _
    rw [mixedSell_legs hread]
    decide
  have hledger : LedgerRun [] mixedLedger := Run.start mixedLedger_seeded
  have hvolumes : VolumeRun [] mixedLedger := Run.start ⟨rfl, mixedLedger_sound⟩
  refine consistent_of_runs (hledger.next (.reserve "plan-1" "now" mixedSell) ⟨rfl, hplan⟩)
    (hvolumes.next (.reserve "plan-1" "now" mixedSell) fun plan hread _ _ => ?_)
  rw [mixedSell_legs hread]
  decide

theorem rollback_finishRun (action : CorporateAction) :
    let acted := (mixedReserved.applyCorporateAction "600000.SH" action).1
    FinishRun acted [⟨acted, .rollback "intent-1" "cancelled", acted.step (.rollback "intent-1" "cancelled")⟩]
      (acted.step (.rollback "intent-1" "cancelled")) := by
  intro acted
  have hstart : FinishRun acted [] acted := Run.start rfl
  exact Run.step hstart (.rollback "intent-1" "cancelled") trivial

theorem no_sell_of_keys (h : ledger.pendingOrders.keys = []) :
    ∀ id order, ledger.pendingOrders.get? id = some order → order.orderType = .sell → order.instrumentCode ≠ code := by
  intro id order hget
  have hmem := Dict.mem_entries.mpr hget
  rw [List.map_eq_nil_iff.mp h] at hmem
  cases hmem

end BucketLedger
end QuantX
