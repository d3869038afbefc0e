import QuantX.Trading.BucketLedger

namespace QuantX.BucketLedger
open Lib
variable {ledger : BucketLedger}
variable {buckets : Dict Bucket BucketPositionState}

theorem getD_ensured (names : List Bucket) (bucket : Bucket) :
    (names.foldl (fun buckets bucket => buckets.setdefault bucket { bucket := bucket }) buckets).getD bucket
      { bucket := bucket } = buckets.getD bucket { bucket := bucket } := by
  induction names generalizing buckets with
  | nil => rfl
  | cons name names ih =>
    rw [List.foldl_cons, ih]
    exact Dict.getD_setdefault _ _ _ _ fun h => by rw [h]

@[simp] theorem state_ensureInstrument (ledger : BucketLedger) (code code' : String) (bucket : Bucket) :
    (ledger.ensureInstrument code).state code' bucket = ledger.state code' bucket := by
  simp only [state, ensureInstrument, Dict.getD_set]
  by_cases hcode : code = code'
  · subst hcode
    rw [if_pos rfl]
    exact getD_ensured knownBuckets bucket
  · rw [if_neg hcode]

theorem state_modifyBucket (code code' : String) (bucket bucket' : Bucket)
    (change : BucketPositionState → BucketPositionState) :
    (ledger.modifyBucket code bucket change).state code' bucket' =
      if code = code' ∧ bucket = bucket' then change (ledger.state code bucket) else ledger.state code' bucket' := by
  have hkeep := ledger.state_ensureInstrument code code' bucket'
  simp only [modifyBucket, state_ensureInstrument]
  simp only [state, Dict.getD_set] at hkeep ⊢
  by_cases hcode : code = code'
  · subst hcode
    rw [if_pos rfl, Dict.getD_set]
    by_cases hbucket : bucket = bucket'
    · rw [if_pos hbucket, if_pos ⟨rfl, hbucket⟩]
    · rw [if_neg hbucket, if_neg fun h => hbucket h.2]
      exact hkeep
  · rw [if_neg hcode, if_neg fun h => hcode h.1]
    exact hkeep

theorem getD_map_state {bucket : Bucket}
    {change : BucketPositionState → BucketPositionState} (hnew : change { bucket := bucket } = { bucket := bucket }) :
    (buckets.map change).getD bucket { bucket := bucket } = change (buckets.getD bucket { bucket := bucket }) := by
  simp only [Dict.getD, Dict.get?_map]
  cases buckets.get? bucket with
  | none => exact hnew.symm
  | some _ => rfl

theorem normalize_new (bucket : Bucket) : ({ bucket := bucket } : BucketPositionState).normalize = { bucket := bucket } := rfl

theorem settle_new (bucket : Bucket) : ({ bucket := bucket } : BucketPositionState).settle = { bucket := bucket } := rfl

theorem state_instrumentSnapshot (code code' : String) (bucket : Bucket) :
    (ledger.instrumentSnapshot code).1.state code' bucket = ledger.state code' bucket ∨
      (ledger.instrumentSnapshot code).1.state code' bucket = (ledger.state code' bucket).normalize := by
  have hkeep := ledger.state_ensureInstrument code code' bucket
  unfold instrumentSnapshot
  by_cases hempty : code = ""
  · rw [if_pos hempty]
    exact .inl rfl
  · rw [if_neg hempty]
    simp only [state, Dict.getD_set] at hkeep ⊢
    by_cases hcode : code = code'
    · subst hcode
      rw [if_pos rfl, getD_map_state (normalize_new bucket), hkeep]
      exact .inr rfl
    · rw [if_neg hcode]
      exact .inl hkeep

theorem state_instrumentSnapshot_other {code code' : String} (hcode : code' ≠ code) (bucket : Bucket) :
    (ledger.instrumentSnapshot code).1.state code' bucket = ledger.state code' bucket := by
  have hkeep := ledger.state_ensureInstrument code code' bucket
  unfold instrumentSnapshot
  split
  · rfl
  · simp only [state, Dict.getD_set, if_neg hcode.symm] at hkeep ⊢
    exact hkeep

@[simp] theorem pendingOrders_instrumentSnapshot (code : String) :
    (ledger.instrumentSnapshot code).1.pendingOrders = ledger.pendingOrders := by
  unfold instrumentSnapshot
  split <;> rfl

theorem state_map {next : BucketLedger} {change : BucketPositionState → BucketPositionState}
    (hnew : ∀ bucket : Bucket, change { bucket := bucket } = { bucket := bucket })
    (hbuckets : next.buckets = ledger.buckets.map fun buckets => buckets.map change) (code : String) (bucket : Bucket) :
    next.state code bucket = change (ledger.state code bucket) := by
  have hcode : next.buckets.getD code Dict.empty = (ledger.buckets.getD code Dict.empty).map change := by
    rw [hbuckets]
    simp only [Dict.getD, Dict.get?_map]
    cases ledger.buckets.get? code <;> rfl
  simp only [state, hcode]
  exact getD_map_state (hnew bucket)

theorem state_settleTradingDay_new {date : String} (hdate : ledger.lastSettlementDate ≠ some date) (code : String)
    (bucket : Bucket) : (ledger.settleTradingDay date).state code bucket = (ledger.state code bucket).settle := by
  rw [settleTradingDay, if_neg hdate]
  exact state_map settle_new rfl code bucket

theorem state_settleTradingDay (date code : String) (bucket : Bucket) :
    (ledger.settleTradingDay date).state code bucket = ledger.state code bucket ∨
      (ledger.settleTradingDay date).state code bucket = (ledger.state code bucket).settle := by
  by_cases hdate : ledger.lastSettlementDate = some date
  · rw [settleTradingDay, if_pos hdate]
    exact .inl rfl
  · exact .inr (state_settleTradingDay_new hdate code bucket)

@[simp] theorem pendingOrders_settleTradingDay (date : String) :
    (ledger.settleTradingDay date).pendingOrders = ledger.pendingOrders := by
  unfold settleTradingDay
  split <;> rfl

theorem get?_ensureInstrument (ledger : BucketLedger) (code : String) (bucket : Bucket) :
    ((ledger.ensureInstrument code).buckets.getD code Dict.empty).get? bucket = some (ledger.state code bucket) := by
  simp only [ensureInstrument, Dict.getD_set, if_pos, knownBuckets, List.foldl_cons, List.foldl_nil, Dict.get?_setdefault]
  cases bucket <;> simp [state, Dict.getD, Dict.get?_setdefault]

theorem get?_modifyBuckets (code : String) (change : BucketPositionState → BucketPositionState) (bucket : Bucket) :
    ((ledger.modifyBuckets code change).buckets.getD code Dict.empty).get? bucket = some (change (ledger.state code bucket)) := by
  simp [modifyBuckets, Dict.getD_set, if_pos, Dict.get?_map, get?_ensureInstrument]

theorem state_modifyBuckets (code : String) (change : BucketPositionState → BucketPositionState) (bucket : Bucket) :
    (ledger.modifyBuckets code change).state code bucket = change (ledger.state code bucket) := by
  rw [state, Dict.getD, get?_modifyBuckets, Option.getD_some]

theorem positionFields_available {bucket bucket' : Bucket} {state : BucketPositionState} {field : String × PyVal}
    (hfield : field ∈ state.positionFields bucket'.name) (hname : field.1 = bucket.name ++ "_available_volume") :
    bucket' = bucket ∧ field.2 = .int state.availableVolume := by
  simp only [BucketPositionState.positionFields, List.mem_cons, List.not_mem_nil, or_false] at hfield
  rcases hfield with rfl | rfl | rfl | rfl | rfl | rfl
  all_goals cases bucket <;> cases bucket' <;> simp [Bucket.name] at hname ⊢

theorem decoratePosition_available {code : String} {position data : List (String × PyVal)}
    (h : (ledger.decoratePosition code position).2 = .ok data) (bucket : Bucket) :
    Dict.lookup (bucket.name ++ "_available_volume") data =
        some (.int ((ledger.decoratePosition code position).1.state code bucket).availableVolume) ∧
      0 ≤ ((ledger.decoratePosition code position).1.state code bucket).availableVolume := by
  unfold decoratePosition at h ⊢
  cases hsync : ledger.syncPosition code position with
  | mk synced result =>
    rw [hsync] at h
    cases result with
    | error e => cases h
    | ok _ =>
      simp only at h ⊢
      obtain rfl := Except.ok.inj h
      rw [state_modifyBuckets]
      refine ⟨Dict.lookup_puts ?_ (.inl ?_), le_min (le_max_left 0 _) (le_max_left 0 _)⟩
      · intro field hfield hname
        rcases List.mem_append.mp hfield with hfield | hfield
        · obtain ⟨⟨bucket', state⟩, hentry, hfield⟩ := List.mem_flatMap.mp hfield
          obtain ⟨rfl, hvalue⟩ := positionFields_available hfield hname
          have hstate := Dict.mem_entries.mp hentry
          rw [get?_modifyBuckets] at hstate
          rw [hvalue, Option.some.inj hstate]
        · obtain rfl := List.mem_singleton.mp hfield
          cases bucket <;> simp [Bucket.name] at hname
      · rw [List.map_append, List.mem_append]
        have hentry : (bucket, (synced.state code bucket).normalize) ∈
            ((synced.modifyBuckets code BucketPositionState.normalize).buckets.getD code Dict.empty).entries :=
          Dict.mem_entries.mpr (get?_modifyBuckets code _ bucket)
        refine .inl (List.mem_map.mpr
          ⟨(bucket.name ++ "_available_volume", .int (synced.state code bucket).normalize.availableVolume),
            List.mem_flatMap.mpr ⟨_, hentry, ?_⟩, rfl⟩)
        simp [BucketPositionState.positionFields]

/-! ### Reservations -/

/-- The legs that an order asks for: those of its plan, or all of it from the order's own bucket. -/
def orderLegs (call : ReserveCall) (plan : Option SubstitutionPlan) : List ReservedLeg :=
  if call.orderType = .sell then
    match plan.filter (·.enabled) with
    | some plan => planLegs plan
    | none => [{ bucket := normalizeBucket call.bucket, volume := call.volume, remainingVolume := call.volume }]
  else []

/-- The plans after a reservation: a sell stores the one that it follows. -/
def plansAfter (plans : Dict String SubstitutionPlan) (call : ReserveCall) (plan : Option SubstitutionPlan) :
    Dict String SubstitutionPlan :=
  if call.orderType = .sell then
    match plan.filter (·.enabled) with
    | some plan => plans.set call.orderId { plan with status := .reserved }
    | none => plans
  else plans

/-- What a sell is granted on: each leg for itself is covered, and a sell without a plan is not of the
    locked bucket. -/
structure Grantable (ledger : BucketLedger) (call : ReserveCall) (plan : Option SubstitutionPlan) : Prop where
  covered : ∀ leg ∈ orderLegs call plan, leg.volume ≤ (ledger.state call.instrumentCode leg.bucket).availableVolume
  legs : call.orderType = .sell → orderLegs call plan ≠ []
  locked : call.orderType = .sell → plan.filter (·.enabled) = none → normalizeBucket call.bucket ≠ .lockedCore

structure Readable (uuid4 : String) (call : ReserveCall) (plan : Option SubstitutionPlan) : Prop where
  named : call.orderId ≠ ""
  coded : call.instrumentCode ≠ ""
  volume : 0 < call.volume
  read : SubstitutionPlan.fromDict uuid4 call.orderId call.substitutionPlan = .ok plan

structure Granted (ledger : BucketLedger) (now : String) (call : ReserveCall) (plan : Option SubstitutionPlan)
    (next : BucketLedger) : Prop where
  grantable : ledger.Grantable call plan
  pendingOrders : next.pendingOrders = ledger.pendingOrders.set call.orderId (pendingOf call now plan (orderLegs call plan))
  plans : next.pendingSubstitutions = plansAfter ledger.pendingSubstitutions call plan
  buckets : next.buckets =
    ((ledger.ensureInstrument call.instrumentCode).freezeLegs call.instrumentCode (orderLegs call plan)).buckets

theorem freezeLegs_buckets (code : String) (legs : List ReservedLeg) :
    ledger.freezeLegs code legs = { ledger with buckets := (ledger.freezeLegs code legs).buckets } := by
  induction legs generalizing ledger with
  | nil => rfl
  | cons leg legs ih => exact ih

theorem planLegs_ok (plan : SubstitutionPlan) :
    ∀ leg ∈ planLegs plan, 0 < leg.volume ∧ leg.remainingVolume = leg.volume := by
  intro leg hleg
  obtain ⟨source, hsource, rfl⟩ := List.mem_map.mp hleg
  exact ⟨of_decide_eq_true (List.mem_filter.mp hsource).2, rfl⟩

theorem orderLegs_ok {call : ReserveCall} (hvolume : 0 < call.volume) (plan : Option SubstitutionPlan) :
    ∀ leg ∈ orderLegs call plan, 0 < leg.volume ∧ leg.remainingVolume = leg.volume := by
  intro leg hleg
  unfold orderLegs at hleg
  split at hleg
  · split at hleg
    · exact planLegs_ok _ leg hleg
    · obtain rfl := List.mem_singleton.mp hleg
      exact ⟨hvolume, rfl⟩
  · cases hleg

theorem reserveSell_cases (ledger : BucketLedger) (call : ReserveCall) (plan : Option SubstitutionPlan)
    (hsell : call.orderType = .sell) :
    (¬ ledger.Grantable call plan ∧ ledger.reserveSell call plan = (ledger, none)) ∨
      (ledger.Grantable call plan ∧ ledger.reserveSell call plan =
        ({ ledger.freezeLegs call.instrumentCode (orderLegs call plan) with
            pendingSubstitutions := plansAfter ledger.pendingSubstitutions call plan },
          some (orderLegs call plan))) := by
  cases hfilter : plan.filter (·.enabled) with
  | some p =>
    have hlegs : orderLegs call plan = planLegs p := by simp only [orderLegs, if_pos hsell, hfilter]
    simp only [reserveSell, plansAfter, if_pos hsell, hfilter, hlegs]
    by_cases hshort : (planLegs p).any fun leg =>
        (ledger.state call.instrumentCode leg.bucket).availableVolume < leg.volume
    · have hrefused : ledger.reserveSubstitutionLegs call.instrumentCode p = (ledger, []) := if_pos hshort
      obtain ⟨leg, hleg, hless⟩ := List.any_eq_true.mp hshort
      refine .inl ⟨fun h => absurd (h.covered leg (hlegs ▸ hleg)) (not_le.mpr (of_decide_eq_true hless)), ?_⟩
      simp only [hrefused]
      rfl
    · have hfrozen : ledger.reserveSubstitutionLegs call.instrumentCode p =
          (ledger.freezeLegs call.instrumentCode (planLegs p), planLegs p) := if_neg hshort
      simp only [hfrozen]
      by_cases hempty : planLegs p = []
      · refine .inl ⟨fun h => h.legs hsell (hlegs.trans hempty), ?_⟩
        rw [hempty]
        rfl
      · rw [if_neg (by simpa using hempty)]
        refine .inr ⟨⟨by simpa [hlegs] using hshort, fun _ => hlegs ▸ hempty, fun _ hnone => ?_⟩, ?_⟩
        · cases hfilter.symm.trans hnone
        · rw [freezeLegs_buckets]
  | none =>
    have hlegs : orderLegs call plan =
        [{ bucket := normalizeBucket call.bucket, volume := call.volume, remainingVolume := call.volume }] := by
      simp only [orderLegs, if_pos hsell, hfilter]
    simp only [reserveSell, plansAfter, if_pos hsell, hfilter, hlegs]
    split
    · rename_i hlocked
      exact .inl ⟨fun h => h.locked hsell hfilter hlocked, rfl⟩
    · rename_i hlocked
      split
      · rename_i hshort
        refine .inl ⟨fun h => ?_, rfl⟩
        have hcovered := h.covered ⟨normalizeBucket call.bucket, call.volume, call.volume⟩ (by simp [hlegs])
        exact absurd hcovered (not_le.mpr hshort)
      · rename_i hshort
        exact .inr ⟨⟨by simpa [hlegs] using hshort, fun _ => by simp [hlegs], fun _ _ => hlocked⟩, rfl⟩

theorem Grantable.ensured {call : ReserveCall} {plan : Option SubstitutionPlan} {code : String} :
    (ledger.ensureInstrument code).Grantable call plan ↔ ledger.Grantable call plan := by
  constructor
  · rintro ⟨hcovered, hlegs, hlocked⟩
    exact ⟨by simpa using hcovered, hlegs, hlocked⟩
  · rintro ⟨hcovered, hlegs, hlocked⟩
    exact ⟨by simpa using hcovered, hlegs, hlocked⟩

theorem reserveOrder_cases (ledger : BucketLedger) (uuid4 now : String) (call : ReserveCall) :
    (((ledger.reserveOrder uuid4 now call).1 = ledger ∨
        (ledger.reserveOrder uuid4 now call).1 = ledger.ensureInstrument call.instrumentCode) ∧
      (ledger.reserveOrder uuid4 now call).2 ≠ .ok true ∧
      ∀ plan, Readable uuid4 call plan → ¬ ledger.Grantable call plan) ∨
    ∃ plan, Readable uuid4 call plan ∧ Granted ledger now call plan (ledger.reserveOrder uuid4 now call).1 ∧
      (ledger.reserveOrder uuid4 now call).2 = .ok true := by
  unfold reserveOrder
  split
  · rename_i hnamed
    exact .inl ⟨.inl rfl, by simp, fun plan h => absurd hnamed (not_or.mpr ⟨h.named, h.coded⟩)⟩
  · rename_i hnamed
    obtain ⟨hid, hcode⟩ := not_or.mp hnamed
    split
    · rename_i hvolume
      exact .inl ⟨.inl rfl, by simp, fun plan h => absurd hvolume (not_le.mpr h.volume)⟩
    · rename_i hvolume
      cases hread : SubstitutionPlan.fromDict uuid4 call.orderId call.substitutionPlan with
      | error e =>
        refine .inl ⟨.inr rfl, by simp, fun plan h => ?_⟩
        cases hread.symm.trans h.read
      | ok plan =>
        have hreadable : Readable uuid4 call plan := ⟨hid, hcode, not_le.mp hvolume, hread⟩
        dsimp only
        by_cases hsell : call.orderType = .sell
        · rw [if_pos hsell]
          rcases (ledger.ensureInstrument call.instrumentCode).reserveSell_cases call plan hsell with
            ⟨hnot, hno⟩ | ⟨hgrant, hyes⟩
          · rw [hno]
            refine .inl ⟨.inr rfl, by simp, fun plan' h => ?_⟩
            obtain rfl := Except.ok.inj (hread.symm.trans h.read)
            exact mt Grantable.ensured.mpr hnot
          · rw [hyes]
            refine .inr ⟨plan, hreadable, ⟨Grantable.ensured.mp hgrant, ?_, rfl, rfl⟩, rfl⟩
            rw [freezeLegs_buckets]
            rfl
        · rw [if_neg hsell]
          have hlegs : orderLegs call plan = [] := by simp only [orderLegs, if_neg hsell]
          refine .inr ⟨plan, hreadable, ⟨⟨by simp [hlegs], fun h => absurd h hsell, fun h => absurd h hsell⟩, ?_, ?_, ?_⟩, rfl⟩
          · rw [hlegs]
            rfl
          · simp only [plansAfter, if_neg hsell]
            rfl
          · rw [hlegs]
            rfl

end QuantX.BucketLedger
