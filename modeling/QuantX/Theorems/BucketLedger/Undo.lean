import QuantX.Theorems.BucketLedger.Operations

namespace QuantX.BucketLedger
open Lib
variable {ledger : BucketLedger} {uuid4 now reason : String} {call : ReserveCall}
variable {plan : Option SubstitutionPlan}

def Normalized (ledger : BucketLedger) : Prop := ∀ code, ledger.NormalAt code

/-- What reserving is to be: a refusal leaves no trace, a grant freezes no more than was available, and a rollback
    brings every volume back. -/
structure AllOrNothing (ledger : BucketLedger) (uuid4 now reason : String) (call : ReserveCall) : Prop where
  refused : (ledger.reserveOrder uuid4 now call).2 = .ok false →
    (∀ code bucket, (ledger.reserveOrder uuid4 now call).1.state code bucket = ledger.state code bucket) ∧
      (ledger.reserveOrder uuid4 now call).1.pendingOrders = ledger.pendingOrders ∧
      (ledger.reserveOrder uuid4 now call).1.pendingSubstitutions = ledger.pendingSubstitutions
  granted : (ledger.reserveOrder uuid4 now call).2 = .ok true → call.orderType = .sell → ∀ code bucket,
    ((ledger.reserveOrder uuid4 now call).1.state code bucket).frozenVolume - (ledger.state code bucket).frozenVolume ≤
        (ledger.state code bucket).availableVolume ∧
      0 ≤ ((ledger.reserveOrder uuid4 now call).1.state code bucket).availableVolume
  undone : ∀ code bucket,
    (((ledger.reserveOrder uuid4 now call).1.rollbackOrder call.orderId reason).1.state code bucket).volumes =
      (ledger.state code bucket).volumes

/-- The legs of a plan that pass the ledger's check one by one fit into their buckets together. -/
def LegsShare (ledger : BucketLedger) (uuid4 : String) (call : ReserveCall) : Prop :=
  ∀ plan, Readable uuid4 call (some plan) → call.orderType = .sell → plan.enabled = true →
    (∀ leg ∈ planLegs plan, leg.volume ≤ (ledger.state call.instrumentCode leg.bucket).availableVolume) →
    ∀ bucket, heldIn bucket (planLegs plan) ≤ (ledger.state call.instrumentCode bucket).availableVolume

theorem LegsShare.legsFit (h : ledger.LegsShare uuid4 call) (hnormal : ledger.Normalized)
    (hread : Readable uuid4 call plan) (hgrant : ledger.Grantable call plan) :
    ledger.LegsFit call.instrumentCode (orderLegs call plan) := by
  intro bucket
  have havailable := (hnormal call.instrumentCode bucket).available
  by_cases hsell : call.orderType = .sell
  · have hcovered := hgrant.covered
    simp only [orderLegs, if_pos hsell] at hcovered ⊢
    cases hfilter : plan.filter (·.enabled) with
    | some p =>
      obtain ⟨rfl, henabled⟩ := Option.filter_eq_some_iff.mp hfilter
      rw [hfilter] at hcovered
      exact h p hread hsell henabled hcovered bucket
    | none =>
      rw [hfilter] at hcovered
      have hleg := hcovered _ (List.mem_singleton_self _)
      simp only [heldIn_cons, heldIn_nil, add_zero]
      split
      · rename_i hbucket
        rwa [← hbucket]
      · exact havailable
  · simp only [orderLegs, if_neg hsell, heldIn_nil]
    exact havailable

theorem Granted.undone {next : BucketLedger} (h : Granted ledger now call plan next)
    (hread : Readable uuid4 call plan) (hnormal : ledger.Normalized)
    (hfit : ledger.LegsFit call.instrumentCode (orderLegs call plan)) (reason code : String) (bucket : Bucket) :
    (next.rollbackOrder call.orderId reason).1.volumes code bucket = ledger.volumes code bucket := by
  obtain ⟨hfreeze, hfrozen⟩ := h.booked hread (hnormal _) hfit
  have hlegs := orderLegs_legsOk hread.volume plan
  have hget : next.pendingOrders.get? call.orderId = some (pendingOf call now plan (orderLegs call plan)) := by
    rw [h.pendingOrders, Dict.get?_set_self]
  have hheld : ∀ b, heldIn b (orderLegs call plan) ≤ (next.volumes call.instrumentCode b).frozen := by
    intro b
    have hold := (hnormal call.instrumentCode b).frozen
    rw [hfreeze.own]
    simp only [Volumes.freeze]
    omega
  have hbacked : next.BackedFor call.instrumentCode (orderLegs call plan) := by
    -- A bucket with available volume has room for its frozen part.
    intro b hpos
    have hroom := (hnormal call.instrumentCode b).fits
    have hleg : heldIn b (orderLegs call plan) ≤ (ledger.volumes call.instrumentCode b).available := hfit b
    rw [hfreeze.own]
    simp only [Volumes.freeze]
    omega
  obtain ⟨-, hback, -⟩ := rollbackOrder_rolledBack reason hget hfrozen hlegs hheld hbacked
  have hboth := hfreeze.trans hback
  by_cases hcode : code = call.instrumentCode
  · subst hcode
    rw [hboth.own, Volumes.freeze_freeze]
    simp [pendingOf]
  · rw [volumes, hboth.others code hcode, volumes]

theorem Granted.frozen_eq {next : BucketLedger} (h : Granted ledger now call plan next)
    (hread : Readable uuid4 call plan) (hnormal : ledger.Normalized) (bucket : Bucket) :
    next.frozen call.instrumentCode bucket =
      ledger.frozen call.instrumentCode bucket + heldIn bucket (orderLegs call plan) := by
  have hok : (ledger.ensureInstrument call.instrumentCode).FrozenOk := fun code b => by
    rw [frozen, state_ensureInstrument]
    exact (hnormal code b).frozen
  have hfreeze := freezeLegs_frozen call.instrumentCode hok (orderLegs_ok hread.volume plan) call.instrumentCode bucket
  rw [frozen, state, h.buckets]
  refine hfreeze.trans ?_
  rw [if_pos rfl, frozen, state_ensureInstrument, frozen]

theorem reserveOrder_allOrNothing (hnormal : ledger.Normalized) (hfresh : ledger.pendingOrders.get? call.orderId = none) :
    ledger.AllOrNothing uuid4 now reason call ↔ ledger.LegsShare uuid4 call := by
  rcases ledger.reserveOrder_cases uuid4 now call with ⟨hkeep, hno, hrefused⟩ | ⟨plan, hread, hgranted, hyes⟩
  · have hstate : ∀ code bucket, (ledger.reserveOrder uuid4 now call).1.state code bucket = ledger.state code bucket := by
      intro code bucket
      rcases hkeep with hkeep | hkeep <;> rw [hkeep]
      exact state_ensureInstrument _ _ _ _
    have hpending : (ledger.reserveOrder uuid4 now call).1.pendingOrders = ledger.pendingOrders := by
      rcases hkeep with hkeep | hkeep <;> rw [hkeep]
      rfl
    have hplans : (ledger.reserveOrder uuid4 now call).1.pendingSubstitutions = ledger.pendingSubstitutions := by
      rcases hkeep with hkeep | hkeep <;> rw [hkeep]
      rfl
    constructor
    · intro _ p hread hsell henabled hcovered bucket
      have hlegs : orderLegs call (some p) = planLegs p := by simp [orderLegs, hsell, Option.filter, henabled]
      by_cases hempty : planLegs p = []
      · rw [hempty]
        exact (hnormal call.instrumentCode bucket).available
      · refine absurd ⟨hlegs ▸ hcovered, fun _ => hlegs ▸ hempty, fun _ hnone => ?_⟩ (hrefused _ hread)
        simp [Option.filter, henabled] at hnone
    · intro _
      refine ⟨fun _ => ⟨hstate, hpending, hplans⟩, fun hyes => absurd hyes hno, fun code bucket => ?_⟩
      have hback : (ledger.reserveOrder uuid4 now call).1.rollbackOrder call.orderId reason =
          ((ledger.reserveOrder uuid4 now call).1, { instrumentCode := "" }) := by
        rw [rollbackOrder, hpending, hfresh]
      rw [hback, hstate]
  · constructor
    · intro h p hreadP hsell henabled hcovered bucket
      obtain rfl := Except.ok.inj (hread.read.symm.trans hreadP.read)
      have hlegs : orderLegs call (some p) = planLegs p := by simp [orderLegs, hsell, Option.filter, henabled]
      obtain ⟨hfrozen, -⟩ := h.granted hyes hsell call.instrumentCode bucket
      have hmore := hgranted.frozen_eq hread hnormal bucket
      simp only [frozen] at hmore
      rw [hlegs] at hmore
      omega
    · intro h
      have hfit := h.legsFit hnormal hread hgranted.grantable
      obtain ⟨hfreeze, -⟩ := hgranted.booked hread (hnormal _) hfit
      refine ⟨fun hno => ?_, fun _ _ code bucket => ?_, hgranted.undone hread hnormal hfit reason⟩
      · rw [hyes] at hno
        cases hno
      · by_cases hcode : code = call.instrumentCode
        · subst hcode
          have hbucket := hfit bucket
          have hnow := hfreeze.own bucket
          simp only [volumes, BucketPositionState.volumes, Volumes.freeze, Volumes.mk.injEq] at hnow
          obtain ⟨-, havailable, -, hfrozen⟩ := hnow
          rw [havailable, hfrozen]
          omega
        · rw [hfreeze.others code hcode]
          have havailable : 0 ≤ (ledger.state code bucket).availableVolume := (hnormal code bucket).available
          omega

theorem state_of_get?_none {code : String} (h : ledger.buckets.get? code = none) (bucket : Bucket) :
    ledger.state code bucket = { bucket := bucket } := by
  simp [state, Dict.getD, h]

theorem soundAt_of_single {code : String} {buckets : Dict Bucket BucketPositionState}
    (hsingle : ledger.buckets = Dict.ofList [(code, buckets)]) (hsound : ledger.SoundAt code) (code' : String) :
    ledger.SoundAt code' := by
  by_cases hcode : code' = code
  · exact hcode ▸ hsound
  · have hnone : ledger.buckets.get? code' = none := by
      rw [hsingle]
      show Dict.lookup code' [(code, buckets)] = none
      rw [Dict.lookup, if_neg fun h => hcode h.symm]
      rfl
    intro bucket
    rw [volumes, state_of_get?_none hnone]
    exact ⟨le_refl 0, le_refl 0, le_refl 0, le_refl 0⟩

theorem mixedLedger_sound (code : String) : mixedLedger.SoundAt code := by
  refine soundAt_of_single rfl (fun bucket => ?_) code
  cases bucket <;> exact ⟨by decide +kernel, by decide +kernel, by decide +kernel, by decide +kernel⟩

theorem mixedSell_legs {plan : SubstitutionPlan}
    (hread : SubstitutionPlan.fromDict "plan-1" mixedSell.orderId mixedSell.substitutionPlan = .ok (some plan)) :
    planLegs plan = [⟨.swing, 100, 100⟩, ⟨.core, 200, 200⟩] := by
  have hlegs : (SubstitutionPlan.fromDict "plan-1" mixedSell.orderId mixedSell.substitutionPlan).map
      (fun plan => plan.map planLegs) = .ok (some [⟨.swing, 100, 100⟩, ⟨.core, 200, 200⟩]) := by decide +kernel
  rw [hread] at hlegs
  exact Option.some.inj (Except.ok.inj hlegs)

/-- The covered sell of swing and core shares is reserved all or nothing. -/
theorem mixed_sell_allOrNothing : mixedLedger.AllOrNothing "plan-1" "now" "cancelled" mixedSell := by
  refine (reserveOrder_allOrNothing (fun code => (mixedLedger_sound code).normalAt) rfl).mpr ?_
  intro plan hread _ _ _ bucket
  rw [mixedSell_legs hread.read]
  cases bucket <;> decide +kernel

def doubledSell : ReserveCall where
  orderId := "intent-1"
  instrumentCode := "600000.SH"
  orderType := .sell
  bucket := "swing"
  volume := 200
  substitutionPlan := some [("sell_from_buckets", .list [.dict [("bucket", .str "swing"), ("volume", .int 100)],
    .dict [("bucket", .str "SWING"), ("volume", .int 100)]])]

/-- Both legs pass the check against the same hundred shares, and two hundred are frozen. -/
theorem doubled_sell_not_allOrNothing :
    mixedLedger.Normalized ∧ mixedLedger.pendingOrders.get? doubledSell.orderId = none ∧
      ¬ mixedLedger.AllOrNothing "plan-1" "now" "cancelled" doubledSell := by
  refine ⟨fun code => (mixedLedger_sound code).normalAt, rfl, fun h => ?_⟩
  have hfrozen := (h.granted (by decide +kernel) rfl "600000.SH" .swing).1
  revert hfrozen
  decide +kernel

end QuantX.BucketLedger
