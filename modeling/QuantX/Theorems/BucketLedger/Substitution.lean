import QuantX.Theorems.BucketLedger.Conservation

namespace QuantX
open Lib

def reservedLeg (leg : Bucket × Int) : ReservedLeg := { bucket := leg.1, volume := leg.2, remainingVolume := leg.2 }

theorem normalizeBucket_name (bucket : Bucket) : normalizeBucket bucket.name = bucket := by
  cases bucket <;> decide +kernel

theorem substitutionLegs_sublist (capacity : Bucket → Int) (sources : List Bucket) (requested : Int) :
    ((substitutionLegs capacity sources requested).1.map Prod.fst).Sublist sources := by
  induction sources generalizing requested with
  | nil => simp [substitutionLegs]
  | cons source sources ih =>
    rw [substitutionLegs]
    split
    · exact (ih requested).cons source
    · exact (ih _).cons_cons source

theorem planLegs_named {legs : List (Bucket × Int)} (hpos : ∀ leg ∈ legs, 0 < leg.2) {plan : SubstitutionPlan}
    (hplan : plan.sellFromBuckets = (legs.map BucketLedger.namedLeg).filter fun leg => 0 < leg.volume) :
    BucketLedger.planLegs plan = legs.map reservedLeg := by
  have hkept : ∀ leg ∈ legs.map BucketLedger.namedLeg, decide (0 < leg.volume) = true := by
    intro leg hleg
    obtain ⟨source, hsource, rfl⟩ := List.mem_map.mp hleg
    exact decide_eq_true (hpos source hsource)
  simp only [BucketLedger.planLegs, hplan, List.filter_eq_self.mpr hkept, List.map_map]
  refine List.map_congr_left fun leg _ => ?_
  simp [BucketLedger.namedLeg, reservedLeg, normalizeBucket_name]

structure CheckerPlan (requested : Int) (plan : SubstitutionPlan) : Prop where
  enabled : plan.enabled = true
  source : normalizeBucket plan.requestedBucket = .swing
  target : normalizeBucket plan.reattributeBuyToBucket = .core
  volume : plan.volume = requested
  applied : plan.appliedVolume = 0
  distinct : ((BucketLedger.planLegs plan).map (·.bucket)).Nodup
  total : heldTotal (BucketLedger.planLegs plan) = requested

theorem checkT1Substitution_plan {capacity : Bucket → Int} {requested : Int} (hrequested : 0 ≤ requested)
    {fields : List (String × PyVal)} (hplan : checkT1Substitution capacity requested = some fields)
    {uuid4 orderId : String} {plan : SubstitutionPlan}
    (hread : SubstitutionPlan.fromDict uuid4 orderId (some fields) = .ok (some plan)) : CheckerPlan requested plan := by
  have htotal := BucketLedger.checker_plan_legs hrequested hplan hread
  obtain ⟨hpos, -⟩ := BucketLedger.substitutionLegs_total capacity substitutionSources requested hrequested
  have hsub := substitutionLegs_sublist capacity substitutionSources requested
  simp only [checkT1Substitution] at hplan
  split at hplan
  · obtain rfl := Option.some.inj hplan
    rw [BucketLedger.fromDict_substitutionPlanFields] at hread
    obtain rfl := Option.some.inj (Except.ok.inj hread)
    refine ⟨rfl, normalizeBucket_name .swing, normalizeBucket_name .core, rfl, rfl, ?_, ?_⟩
    · rw [planLegs_named hpos rfl, List.map_map]
      exact List.Nodup.sublist hsub (by decide)
    · rw [BucketLedger.heldTotal_planLegs]
      exact htotal
  · cases hplan

/-! ## Filling the order -/

namespace BucketLedger
variable {ledger : BucketLedger} {code orderId uuid4 now : String} {call : ReserveCall}

/-- What the sell has handed from the swing to the core bucket once `filled` of it is filled. -/
def handedBy (todayBuy filled : Int) (bucket : Bucket) : Int :=
  (if .core = bucket then min filled todayBuy else 0) - if .swing = bucket then min filled todayBuy else 0

/-- The buckets once `filled` of the sell is filled and `legs` are left of it. -/
def FilledTo (start : Bucket → Volumes) (legs : List ReservedLeg) (filled : Int) (left : List ReservedLeg) (ledger : BucketLedger)
    (code : String) : Prop :=
  ∀ bucket, (ledger.volumes code bucket).total = (start bucket).total - (heldIn bucket legs - heldIn bucket left) +
    handedBy (start .swing).todayBuy filled bucket

/-- A substitution sell of `volume` with `filled` filled. `start` are the volumes before its first fill, `legs` the legs
    it was reserved with. -/
structure PartlyFilled (start : Bucket → Volumes) (legs : List ReservedLeg) (volume : Int) (ledger : BucketLedger)
    (code orderId : String) (filled : Int) (order : PendingOrder) (plan : SubstitutionPlan) : Prop where
  pending : ledger.pendingOrders.get? orderId = some order
  stored : ledger.pendingSubstitutions.get? orderId = some plan
  sound : ledger.SoundAt code
  legsOk : LegsOk order.reservedLegs
  frozen : ∀ bucket, heldIn bucket order.reservedLegs ≤ (ledger.volumes code bucket).frozen
  held : heldTotal order.reservedLegs = volume - filled
  remaining : order.remainingVolume = volume - filled
  source : normalizeBucket plan.requestedBucket = .swing
  target : normalizeBucket plan.reattributeBuyToBucket = .core
  planned : plan.volume = volume
  applied : plan.appliedVolume = filled
  bounds : 0 ≤ filled
  today : (ledger.volumes code .swing).todayBuy = (start .swing).todayBuy - min filled (start .swing).todayBuy
  totals : FilledTo start legs filled order.reservedLegs ledger code

variable {start : Bucket → Volumes} {legs : List ReservedLeg} {volume filled : Int} {order : PendingOrder}
  {plan : SubstitutionPlan} {event : LedgerTrade}

/-- A fill of the sell `orderId`. -/
structure FillOf (code orderId : String) (event : LedgerTrade) : Prop where
  order : event.orderId = orderId
  instrument : event.instrumentCode = code
  side : event.tradeType = .sell
  volume : 0 < event.volume

theorem PartlyFilled.fill (h : PartlyFilled start legs volume ledger code orderId filled order plan)
    (hid : orderId ≠ "") (hcode : code ≠ "") (hfill : FillOf code orderId event) (hmore : filled + event.volume ≤ volume)
    (hstart : (start .swing).Sound) (metadata : Dict String PyVal) :
    ∃ left, LegsOk left ∧ heldTotal left = volume - (filled + event.volume) ∧
      FilledTo start legs (filled + event.volume) left (ledger.applyTrade event metadata).1 code ∧
      (filled + event.volume < volume → ∃ order' plan', order'.reservedLegs = left ∧
        PartlyFilled start legs volume (ledger.applyTrade event metadata).1 code orderId (filled + event.volume) order' plan') := by
  obtain ⟨rfl, rfl, hside, hvolume⟩ := hfill
  have htoday := hstart.todayBuy
  obtain ⟨left, hfilled⟩ := applyTrade_filled event metadata hid hcode hvolume hside h.pending h.sound h.legsOk
    (by rw [h.held]; omega) h.frozen
  have hhanded : ∀ bucket, handedTo bucket (ledger.applyTrade event metadata).2.events =
      handedBy (start .swing).todayBuy (filled + event.volume) bucket - handedBy (start .swing).todayBuy filled bucket := by
    intro bucket
    rw [hfilled.handed bucket, h.stored, Option.map_some, Option.getD_some]
    simp only [handed, h.source, h.target, h.today, handedBy]
    have hbounds := h.bounds
    cases bucket <;> simp <;> omega
  have hswing : ((ledger.applyTrade event metadata).1.volumes event.instrumentCode .swing).todayBuy =
      (start .swing).todayBuy - min (filled + event.volume) (start .swing).todayBuy := by
    rw [hfilled.booked.own, hhanded]
    simp only [Volumes.sell, Volumes.buy, h.today, handedBy]
    have hbounds := h.bounds
    simp
    omega
  have htotals : FilledTo start legs (filled + event.volume) left (ledger.applyTrade event metadata).1 event.instrumentCode := by
    intro bucket
    have hold := h.totals bucket
    have hsold := hfilled.sold bucket
    rw [hfilled.booked.own, hhanded]
    simp only [Volumes.sell, Volumes.buy]
    omega
  refine ⟨left, hfilled.legsOk, ?_, htotals, fun hleft => ?_⟩
  · rw [hfilled.total, h.held]
    omega
  · have horders := hfilled.pendingOrders
    have hplans := hfilled.plans
    rw [h.stored, Option.map_some, Option.getD_some] at hplans
    simp only [ordersFilled, if_neg (show ¬ order.remainingVolume ≤ event.volume by rw [h.remaining]; omega)] at horders
    simp only [plansFilled, if_neg (show ¬ max plan.volume event.volume ≤ plan.appliedVolume + event.volume by
      rw [h.planned, h.applied]; omega)] at hplans
    refine ⟨{ order with reservedLegs := left, remainingVolume := order.remainingVolume - event.volume },
      { plan with appliedVolume := plan.appliedVolume + event.volume, status := .partialApplied }, rfl,
      ⟨?_, ?_, hfilled.sound, hfilled.legsOk, fun bucket => ?_, ?_, ?_, h.source, h.target, h.planned, ?_, ?_, hswing, htotals⟩⟩
    · rw [horders, Dict.get?_set_self]
    · rw [hplans, Dict.get?_set_self]
    · have hold := h.frozen bucket
      have hsold := hfilled.sold bucket
      rw [hfilled.booked.own]
      simp only [Volumes.sell, Volumes.buy]
      omega
    · rw [hfilled.total, h.held]
      omega
    · have hremaining := h.remaining
      show order.remainingVolume - event.volume = _
      omega
    · have happlied := h.applied
      show plan.appliedVolume + event.volume = _
      omega
    · have hbounds := h.bounds
      omega

def afterFills (ledger : BucketLedger) (fills : List (LedgerTrade × Dict String PyVal)) : BucketLedger :=
  fills.foldl (fun ledger fill => (ledger.applyTrade fill.1 fill.2).1) ledger

theorem sum_fills_nonneg {fills : List (LedgerTrade × Dict String PyVal)} (h : ∀ fill ∈ fills, FillOf code orderId fill.1) :
    0 ≤ (fills.map fun fill => fill.1.volume).sum := by
  refine List.sum_nonneg fun v hv => ?_
  obtain ⟨fill, hmem, rfl⟩ := List.mem_map.mp hv
  exact (h fill hmem).volume.le

/-- However the rest of the sell is split, the buckets end where one fill of it would have taken them. -/
theorem PartlyFilled.fills (hid : orderId ≠ "") (hcode : code ≠ "") (hstart : (start .swing).Sound)
    (fills : List (LedgerTrade × Dict String PyVal)) (hfills : ∀ fill ∈ fills, FillOf code orderId fill.1) :
    ∀ {ledger : BucketLedger} {filled : Int} {order : PendingOrder} {plan : SubstitutionPlan},
      PartlyFilled start legs volume ledger code orderId filled order plan → filled < volume →
      filled + (fills.map fun fill => fill.1.volume).sum = volume →
      FilledTo start legs volume [] (ledger.afterFills fills) code := by
  induction fills with
  | nil =>
    intro ledger filled order plan h hless hsum
    rw [List.map_nil, List.sum_nil, add_zero] at hsum
    omega
  | cons fill fills ih =>
    intro ledger filled order plan h hless hsum
    obtain ⟨hfill, hrest⟩ := List.forall_mem_cons.mp hfills
    have hnonneg := sum_fills_nonneg hrest
    rw [List.map_cons, List.sum_cons] at hsum
    obtain ⟨left, hlegs, htotal, hfilled, hmore⟩ := h.fill hid hcode hfill (by omega) hstart fill.2
    by_cases hdone : filled + fill.1.volume < volume
    · obtain ⟨order', plan', -, hpartly⟩ := hmore hdone
      exact ih hrest hpartly hdone (by omega)
    · -- The last fill: nothing is left of the legs, and no fill can follow.
      have hnone : fills = [] := by
        cases fills with
        | nil => rfl
        | cons other fills =>
          obtain ⟨hother, htail⟩ := List.forall_mem_cons.mp hrest
          have hpos := hother.volume
          have hlast := sum_fills_nonneg htail
          rw [List.map_cons, List.sum_cons] at hsum
          omega
      subst hnone
      rw [List.map_nil, List.sum_nil, add_zero] at hsum
      intro bucket
      have hbucket := hfilled bucket
      have hzero : heldIn bucket left = 0 := heldIn_eq_zero hlegs (by omega)
      rw [hzero, hsum] at hbucket
      exact hbucket

/-! ## The whole order -/

theorem Granted.partlyFilled {next : BucketLedger} (h : Granted ledger now call (some plan) next)
    (hread : Readable uuid4 call (some plan)) (hsell : call.orderType = .sell) (hplan : CheckerPlan call.volume plan)
    (hsound : ledger.SoundAt call.instrumentCode) :
    PartlyFilled (ledger.volumes call.instrumentCode) (planLegs plan) call.volume next call.instrumentCode call.orderId 0
      (pendingOf call now (some plan) (planLegs plan)) { plan with status := .reserved } := by
  have hlegs : orderLegs call (some plan) = planLegs plan := by
    simp [orderLegs, hsell, Option.filter, hplan.enabled]
  have hlegsOk : LegsOk (planLegs plan) := hlegs ▸ orderLegs_legsOk hread.volume (some plan)
  have hfit : ledger.LegsFit call.instrumentCode (orderLegs call (some plan)) := by
    refine heldIn_le_of_nodup (fun bucket => (hsound bucket).available) (hlegs ▸ hplan.distinct) fun leg hleg => ?_
    rw [(orderLegs_ok hread.volume (some plan) leg hleg).2]
    exact h.grantable.covered leg hleg
  obtain ⟨hbooked, -⟩ := h.booked hread hsound.normalAt hfit
  rw [hlegs] at hbooked hfit
  have hheld : ∀ bucket, 0 ≤ heldIn bucket (planLegs plan) := fun bucket => heldIn_nonneg hlegsOk
  have hfrozen : ∀ bucket, 0 ≤ (ledger.volumes call.instrumentCode bucket).frozen := fun bucket => (hsound bucket).frozen
  refine ⟨by rw [h.pendingOrders, hlegs, Dict.get?_set_self], ?_, ?_, hlegsOk, fun bucket => ?_, ?_, ?_, hplan.source,
    hplan.target, hplan.volume, hplan.applied, le_refl 0, ?_, fun bucket => ?_⟩
  · rw [h.plans]
    simp [plansAfter, hsell, Option.filter, hplan.enabled]
  · refine hbooked.soundAt fun bucket => (hsound bucket).freeze ?_ (hfit bucket)
    have h₁ := hheld bucket
    have h₂ := hfrozen bucket
    omega
  · have h₂ := hfrozen bucket
    rw [hbooked.own]
    simp only [pendingOf, Volumes.freeze]
    omega
  · show heldTotal (planLegs plan) = _
    rw [hplan.total, sub_zero]
  · simp [pendingOf]
  · have htoday := (hsound .swing).todayBuy
    rw [hbooked.own]
    simp only [Volumes.freeze]
    omega
  · have htoday := (hsound .swing).todayBuy
    rw [hbooked.own]
    simp only [pendingOf, Volumes.freeze, handedBy, min_eq_left htoday]
    simp

/-- A completely filled substitution sell leaves the other buckets' volume and takes its own from the swing bucket
    exactly when it drew on the other buckets alone or for all of today's purchases. -/
theorem substitution_neutral_iff {capacity : Bucket → Int} {fields : List (String × PyVal)}
    {fills : List (LedgerTrade × Dict String PyVal)} (hchecked : checkT1Substitution capacity call.volume = some fields)
    (hfields : call.substitutionPlan = some fields) (hsell : call.orderType = .sell)
    (hsound : ledger.SoundAt call.instrumentCode)
    (hgranted : (ledger.reserveOrder uuid4 now call).2 = .ok true)
    (hread : SubstitutionPlan.fromDict uuid4 call.orderId (some fields) = .ok (some plan))
    (henough : heldIn .core (planLegs plan) + heldIn .lockedCore (planLegs plan) ≤
      (ledger.state call.instrumentCode .swing).todayBuyVolume)
    (hfills : ∀ fill ∈ fills, FillOf call.instrumentCode call.orderId fill.1)
    (hfilled : (fills.map fun fill => fill.1.volume).sum = call.volume) :
    let final := (ledger.reserveOrder uuid4 now call).1.afterFills fills
    ((final.state call.instrumentCode .swing).totalVolume =
          (ledger.state call.instrumentCode .swing).totalVolume - call.volume ∧
        (final.state call.instrumentCode .core).totalVolume + (final.state call.instrumentCode .lockedCore).totalVolume =
          (ledger.state call.instrumentCode .core).totalVolume + (ledger.state call.instrumentCode .lockedCore).totalVolume) ↔
      (heldIn .swing (planLegs plan) = 0 ∨
        (ledger.state call.instrumentCode .swing).todayBuyVolume =
          heldIn .core (planLegs plan) + heldIn .lockedCore (planLegs plan)) := by
  rcases ledger.reserveOrder_cases uuid4 now call with ⟨-, hno, -⟩ | ⟨plan', hreadable, hgrant, -⟩
  · exact absurd hgranted hno
  · obtain rfl : plan' = some plan := by
      have hsame := hreadable.read
      rw [hfields, hread] at hsame
      exact (Except.ok.inj hsame).symm
    have hplan := checkT1Substitution_plan hreadable.volume.le hchecked hread
    have hpartly := hgrant.partlyFilled hreadable hsell hplan hsound
    have htotals := PartlyFilled.fills hreadable.named hreadable.coded (hsound .swing) fills hfills hpartly hreadable.volume
      (by rw [hfilled, zero_add])
    have hlegs : LegsOk (planLegs plan) := hpartly.legsOk
    have hswing : 0 ≤ heldIn .swing (planLegs plan) := heldIn_nonneg hlegs
    have hsum := sum_heldIn (planLegs plan)
    rw [hplan.total] at hsum
    simp only [knownBuckets, List.map_cons, List.map_nil, List.sum_cons, List.sum_nil] at hsum
    have hs := htotals .swing
    have hc := htotals .core
    have hl := htotals .lockedCore
    simp only [handedBy, heldIn_nil, reduceCtorEq, ↓reduceIte, volumes, BucketPositionState.volumes] at hs hc hl
    omega

/-- A swing sell of `volume` shares with the plan that the checker makes for the mixed ledger. -/
def checkedSell (volume : Int) : ReserveCall :=
  { mixedSell with volume, substitutionPlan := checkT1Substitution mixedCapacity volume }

def checkedFill (volume : Int) : LedgerTrade × Dict String PyVal := ({ mixedFill with volume }, Dict.empty)

theorem checkedFill_fillOf {volume : Int} (h : 0 < volume) : FillOf "600000.SH" "intent-1" (checkedFill volume).1 :=
  ⟨rfl, rfl, rfl, h⟩

/-- A sell of 300 takes 100 swing and 200 core shares and hands over the 200 bought today. -/
theorem checked_sell_neutral :
    let final := (mixedLedger.reserveOrder "plan-1" "now" (checkedSell 300)).1.afterFills [checkedFill 120, checkedFill 180]
    (final.state "600000.SH" .swing).totalVolume = (mixedLedger.state "600000.SH" .swing).totalVolume - 300 ∧
      (final.state "600000.SH" .core).totalVolume + (final.state "600000.SH" .lockedCore).totalVolume =
        (mixedLedger.state "600000.SH" .core).totalVolume + (mixedLedger.state "600000.SH" .lockedCore).totalVolume := by
  have hchecked : checkT1Substitution mixedCapacity (checkedSell 300).volume =
      some (substitutionPlanFields 300 [(.swing, 100), (.core, 200)]) := rfl
  have hread := fromDict_substitutionPlanFields "plan-1" (checkedSell 300).orderId 300 [(.swing, 100), (.core, 200)]
  have hfills : ∀ fill ∈ [checkedFill 120, checkedFill 180],
      FillOf (checkedSell 300).instrumentCode (checkedSell 300).orderId fill.1 := by
    intro fill hfill
    rcases List.mem_pair.mp hfill with rfl | rfl <;> exact checkedFill_fillOf (by decide)
  exact (substitution_neutral_iff hchecked rfl rfl (mixedLedger_sound _) (by decide +kernel) hread (by decide +kernel) hfills
    (by decide +kernel)).mpr (.inr (by decide +kernel))

/-- A sell of 250 takes 100 swing and 150 core shares, but hands over all 200 bought today: swing loses 300, core gains
    50. -/
theorem checked_sell_not_neutral :
    let final := (mixedLedger.reserveOrder "plan-1" "now" (checkedSell 250)).1.afterFills [checkedFill 250]
    mixedLedger.SoundAt "600000.SH" ∧ (mixedLedger.reserveOrder "plan-1" "now" (checkedSell 250)).2 = .ok true ∧
      checkT1Substitution mixedCapacity 250 = some (substitutionPlanFields 250 [(.swing, 100), (.core, 150)]) ∧
      150 ≤ (mixedLedger.state "600000.SH" .swing).todayBuyVolume ∧
      ¬ ((final.state "600000.SH" .swing).totalVolume = (mixedLedger.state "600000.SH" .swing).totalVolume - 250 ∧
        (final.state "600000.SH" .core).totalVolume + (final.state "600000.SH" .lockedCore).totalVolume =
          (mixedLedger.state "600000.SH" .core).totalVolume + (mixedLedger.state "600000.SH" .lockedCore).totalVolume) := by
  exact ⟨mixedLedger_sound _, by decide +kernel, rfl, by decide +kernel, by decide +kernel⟩

end BucketLedger
end QuantX
