import QuantX.Theorems.RiskChecker.Decision
import QuantX.Theorems.BucketLedger.Substitution

/-! # Swing sells, from the checker to the ledger

The checker reads the capacities of a swing sell off a decorated position, the ledger keeps its own buckets. -/

namespace QuantX
variable {capacity : Bucket → Int} {volume : Int}
open Lib

def takes (capacity : Bucket → Int) : List Bucket → Int → List (Bucket × Int)
  | [], _ => []
  | source :: sources, remaining =>
    let volume := min remaining (capacity source)
    (source, volume) :: takes capacity sources (remaining - volume)

theorem substitutionLegs_eq_takes (hcapacity : ∀ bucket, 0 ≤ capacity bucket)
    (sources : List Bucket) {requested : Int} (hrequested : 0 ≤ requested) :
    (substitutionLegs capacity sources requested).1 = (takes capacity sources requested).filter fun leg => 0 < leg.2 := by
  induction sources generalizing requested with
  | nil => rfl
  | cons source sources ih =>
    have hsource := hcapacity source
    rw [substitutionLegs, takes]
    split
    · rename_i hskip
      have hzero : min requested (capacity source) = 0 := by omega
      rw [hzero, sub_zero, List.filter_cons_of_neg (by simp), ih hrequested]
    · rename_i htake
      rw [List.filter_cons_of_pos (by simp; omega), ← ih (by omega)]

structure DrawnFrom (capacity : Bucket → Int) (volume : Int) (legs : List (Bucket × Int)) : Prop where
  distinct : (legs.map (·.1)).Nodup
  positive : ∀ leg ∈ legs, 0 < leg.2
  total : (legs.map (·.2)).sum = volume
  fits : ∀ leg ∈ legs, leg.2 ≤ capacity leg.1
  core : ∀ taken, (.core, taken) ∈ legs → capacity .swing = 0 ∨ (.swing, capacity .swing) ∈ legs
  locked : ∀ taken, (.lockedCore, taken) ∈ legs → capacity .core = 0 ∨ (.core, capacity .core) ∈ legs

theorem substitutionLegs_drawn (hcapacity : ∀ bucket, 0 ≤ capacity bucket)
    (hvolume : 0 ≤ volume) (hcovered : (substitutionLegs capacity substitutionSources volume).2 ≤ 0) :
    DrawnFrom capacity volume (substitutionLegs capacity substitutionSources volume).1 := by
  obtain ⟨hpos, hrest, hsum⟩ := BucketLedger.substitutionLegs_total capacity substitutionSources volume hvolume
  have hlegs := substitutionLegs_eq_takes hcapacity substitutionSources hvolume
  have hswing := hcapacity .swing
  have hcore := hcapacity .core
  refine ⟨List.Nodup.sublist (substitutionLegs_sublist _ _ _) (by decide), hpos, by omega, ?_, ?_, ?_⟩
  all_goals
    rw [hlegs]
    simp only [takes, substitutionSources, List.mem_filter, List.mem_cons, List.not_mem_nil, or_false, decide_eq_true_eq]
  · rintro leg ⟨rfl | rfl | rfl, -⟩
    all_goals exact min_le_right _ _
  · rintro taken ⟨h, htaken⟩
    simp only [Prod.mk.injEq, reduceCtorEq, false_and, true_and, or_false, false_or] at h ⊢
    omega
  · rintro taken ⟨h, htaken⟩
    simp only [Prod.mk.injEq, reduceCtorEq, false_and, true_and, or_false, false_or] at h ⊢
    omega

namespace TradingRiskChecker
variable {checker : TradingRiskChecker} {request : OrderRequest} {context : OrderContext} {decision : OrderRiskDecision}
  {available : Bucket → Int}

def Shows (position : Fields) (available : Bucket → Int) : Prop :=
  ∀ bucket, Dict.lookup (bucket.name ++ "_available_volume") position = some (.int (available bucket)) ∧ 0 ≤ available bucket

/-- The part of a bucket that the flags leave open to a swing sell. -/
def openTo (caps metadata : Fields) (available : Bucket → Int) : Bucket → Int
  | .swing => available .swing
  | .core => if boolField metadata "allow_t1_substitution" true then available .core else 0
  | .lockedCore =>
    if boolField metadata "allow_t1_substitution" true ∧ boolField caps "allow_locked_core_substitution" false then
      available .lockedCore
    else 0

theorem openTo_le (caps metadata : Fields) (h : ∀ bucket, 0 ≤ available bucket) (bucket : Bucket) :
    0 ≤ openTo caps metadata available bucket ∧ openTo caps metadata available bucket ≤ available bucket := by
  have hbucket := h bucket
  cases bucket <;> simp only [openTo] <;> try split
  all_goals omega

theorem allowedCapacity_of (hshows : Shows context.position available) (hsome : ∃ bucket, 0 < available bucket)
    {capacity : SellCapacity} (h : bucketSellCapacity context = .ok capacity) (bucket : Bucket) :
    (allowedCapacity request capacity).of bucket = openTo context.riskCaps request.metadata available bucket := by
  have hread : ∀ bucket : Bucket, (getOr (bucket.name ++ "_available_volume")
      (PyVal.get context.position (bucket.name ++ "_available")) [context.position]).optionalInt = some (available bucket) := by
    intro bucket
    rw [getOr, (hshows bucket).1]
    rfl
  have hswing := (hshows .swing).2
  have hcore := (hshows .core).2
  have hlocked := (hshows .lockedCore).2
  have hpositive : ∀ volume : Int,
      ¬ (available .core ≤ 0 ∧ available .swing ≤ 0 ∧ available .lockedCore ≤ 0 ∧ 0 < volume) := by
    rintro volume ⟨hcore, hswing, hlocked, -⟩
    obtain ⟨bucket, hbucket⟩ := hsome
    cases bucket <;> omega
  simp only [bucketSellCapacity, show ("swing" : String) = Bucket.swing.name from rfl,
    show ("core" : String) = Bucket.core.name from rfl, show ("locked_core" : String) = Bucket.lockedCore.name from rfl,
    hread] at h
  obtain ⟨volume, -, h⟩ := bind_eq_ok.mp h
  simp only [pure_bind, if_neg (hpositive volume)] at h
  cases h
  cases bucket <;> simp only [allowedCapacity, openTo] <;> split <;> simp_all [SellCapacity.of]
  all_goals split <;> omega

theorem usesBucketT1Model_swing (hbucket : checker.requestBucket request = "swing") : usesBucketT1Model request context = true := by
  have hnamed : (PyVal.get request.metadata "bucket").truthy = true := by
    by_contra hfalsy
    simp only [requestBucket, PyVal.or, if_neg hfalsy, valueText, PyVal.pyStr] at hbucket
    exact absurd hbucket (by decide +kernel)
  simp [usesBucketT1Model, hnamed]

theorem insufficientDecision_stops {missing : Int} (h : checker.insufficientDecision request context missing = .ok decision) :
    decision.allowed = false := by
  obtain ⟨riskTags, -, h⟩ := bind_eq_ok.mp h
  split at h
  all_goals
    cases h
    rfl

/-- A swing sell is allowed when the open parts of the buckets cover it, with the plan of its legs. -/
theorem checkSellCapacity_swing (hsell : request.orderType = .sell) (hbucket : checker.requestBucket request = "swing")
    (h : checker.checkSellCapacityDecision request context = .ok decision) (hallowed : decision.allowed = true) :
    ∃ capacity, bucketSellCapacity context = .ok capacity ∧
      (substitutionLegs (allowedCapacity request capacity).of substitutionSources request.volume).2 ≤ 0 ∧
      decision.substitutionPlan = checkT1Substitution (allowedCapacity request capacity).of request.volume := by
  have hmodel : ¬ (request.orderType ≠ .sell ∨ (!usesBucketT1Model request context) = true) := by
    simp [hsell, usesBucketT1Model_swing hbucket]
  obtain ⟨first, hfirst, h⟩ := bind_eq_ok.mp h
  simp only [checkT1SubstitutionDecision, if_neg hmodel] at hfirst
  obtain ⟨total, -, hfirst⟩ := bind_eq_ok.mp hfirst
  split at hfirst
  · cases hfirst
    cases h
    cases hallowed
  · rw [if_neg (not_not_intro hbucket)] at hfirst
    obtain ⟨capacity, hcapacity, hfirst⟩ := bind_eq_ok.mp hfirst
    refine ⟨capacity, hcapacity, ?_⟩
    split at hfirst
    · obtain ⟨stopped, hstopped, hfirst⟩ := bind_eq_ok.mp hfirst
      cases hfirst
      cases h
      cases (insufficientDecision_stops hstopped).symm.trans hallowed
    · rename_i hcovered
      refine ⟨not_lt.mp hcovered, ?_⟩
      split at hfirst
      · rename_i hnone
        cases hfirst
        cases h
        exact hnone.symm
      · rename_i plan hplan
        obtain ⟨riskTags, -, hfirst⟩ := bind_eq_ok.mp hfirst
        cases hfirst
        cases h
        exact hplan.symm

end TradingRiskChecker

/-! ## Agreement with the ledger -/

open TradingRiskChecker

/-- What the legs of an allowed swing sell keep to, where `available` are the ledger's own volumes. -/
structure LegsAgree (available : Bucket → Int) (request : OrderRequest) (caps : Fields) (legs : List (Bucket × Int)) : Prop where
  distinct : (legs.map (·.1)).Nodup
  positive : ∀ leg ∈ legs, 0 < leg.2
  total : (legs.map (·.2)).sum = request.volume
  fits : ∀ leg ∈ legs, leg.2 ≤ available leg.1
  /-- The core bucket is drawn on once the swing bucket is used up. -/
  core : ∀ taken, (.core, taken) ∈ legs → available .swing = 0 ∨ (.swing, available .swing) ∈ legs
  /-- The locked one once the core bucket is, and only with leave. -/
  locked : ∀ taken, (.lockedCore, taken) ∈ legs → boolField caps "allow_locked_core_substitution" false = true ∧
    (available .core = 0 ∨ (.core, available .core) ∈ legs)
  own : boolField request.metadata "allow_t1_substitution" true = false → ∀ leg ∈ legs, leg.1 = .swing

variable {available : Bucket → Int} {request : OrderRequest} {caps : Fields} {legs : List (Bucket × Int)}

theorem DrawnFrom.agree (hnonneg : ∀ bucket, 0 ≤ available bucket)
    (h : DrawnFrom (openTo caps request.metadata available) request.volume legs) : LegsAgree available request caps legs := by
  -- A leg needs an open bucket, and what is open of it is all that is available.
  have hopen : ∀ leg ∈ legs, 0 < openTo caps request.metadata available leg.1 := fun leg hleg =>
    (h.positive leg hleg).trans_le (h.fits leg hleg)
  have hcore : ∀ taken, (.core, taken) ∈ legs → boolField request.metadata "allow_t1_substitution" true = true := by
    intro taken hleg
    have hpos := hopen _ hleg
    simp only [openTo] at hpos
    split at hpos
    · assumption
    · omega
  have hlocked : ∀ taken, (.lockedCore, taken) ∈ legs → boolField request.metadata "allow_t1_substitution" true = true ∧
      boolField caps "allow_locked_core_substitution" false = true := by
    intro taken hleg
    have hpos := hopen _ hleg
    simp only [openTo] at hpos
    split at hpos
    · assumption
    · omega
  refine ⟨h.distinct, h.positive, h.total, fun leg hleg => (h.fits leg hleg).trans (openTo_le caps _ hnonneg _).2,
    h.core, ?_, ?_⟩
  · intro taken hleg
    obtain ⟨hallowed, hleave⟩ := hlocked taken hleg
    have hbefore := h.locked taken hleg
    simp only [openTo, if_pos hallowed] at hbefore
    exact ⟨hleave, hbefore⟩
  · rintro hforbidden ⟨bucket, taken⟩ hleg
    cases bucket with
    | swing => rfl
    | core => cases hforbidden.symm.trans (hcore taken hleg)
    | lockedCore => cases hforbidden.symm.trans (hlocked taken hleg).1

/-- The reservation of a swing sell with the checker's plan. -/
def swingSell (orderId code bucket : String) (volume : Int) (price : Rat) (metadata : Dict String PyVal)
    (plan : Option Fields) : ReserveCall :=
  { orderId, instrumentCode := code, orderType := .sell, bucket, volume, price,
    metadata, substitutionPlan := plan }

theorem checkT1Substitution_eq_some {plan : Fields}
    (h : checkT1Substitution capacity volume = some plan) :
    plan = substitutionPlanFields volume (substitutionLegs capacity substitutionSources volume).1 := by
  simp only [checkT1Substitution] at h
  split at h
  · exact (Option.some.inj h).symm
  · cases h

theorem DrawnFrom.swing_only (h : DrawnFrom capacity volume legs) (hvolume : 0 < volume)
    (hswing : ∀ leg ∈ legs, leg.1 = .swing) : volume ≤ capacity .swing := by
  cases legs with
  | nil =>
    have htotal := h.total
    simp only [List.map_nil, List.sum_nil] at htotal
    omega
  | cons leg rest =>
    have hrest : rest = [] := by
      refine List.eq_nil_iff_forall_not_mem.mpr fun other hother => ?_
      have hsame : leg.1 = other.1 := (hswing leg (by simp)).trans (hswing other (by simp [hother])).symm
      exact (List.nodup_cons.mp h.distinct).1 (List.mem_map.mpr ⟨other, hother, hsame.symm⟩)
    have htotal := h.total
    have hfits := h.fits leg (by simp)
    rw [hswing leg (by simp)] at hfits
    simp only [hrest, List.map_cons, List.map_nil, List.sum_cons, List.sum_nil, add_zero] at htotal
    omega

open BucketLedger in
/-- The ledger reserves a swing sell that its buckets cover, by the legs of the plan or from the swing bucket. -/
theorem swingSell_reserved {ledger : BucketLedger} {uuid4 now orderId code bucket : String} {price : Rat}
    {metadata : Dict String PyVal} (hid : orderId ≠ "") (hcode : code ≠ "")
    (hbucket : normalizeBucket bucket = .swing) (hvolume : 0 < volume)
    (hcapacity : ∀ bucket, 0 ≤ capacity bucket ∧ capacity bucket ≤ (ledger.state code bucket).availableVolume)
    (hcovered : (substitutionLegs capacity substitutionSources volume).2 ≤ 0) :
    (ledger.reserveOrder uuid4 now
      (swingSell orderId code bucket volume price metadata (checkT1Substitution capacity volume))).2 = .ok true := by
  have hdrawn := substitutionLegs_drawn (fun bucket => (hcapacity bucket).1) hvolume.le hcovered
  have hgranted : ∀ call plan, Readable uuid4 call plan → ledger.Grantable call plan →
      (ledger.reserveOrder uuid4 now call).2 = .ok true := by
    intro call plan hreadable hgrantable
    rcases ledger.reserveOrder_cases uuid4 now call with ⟨-, -, hrefused⟩ | ⟨-, -, -, htrue⟩
    · exact absurd hgrantable (hrefused plan hreadable)
    · exact htrue
  cases hplan : checkT1Substitution capacity volume with
  | none =>
    refine hgranted _ none ⟨hid, hcode, hvolume, rfl⟩ ⟨?_, fun _ => by simp [orderLegs, swingSell], fun _ _ => ?_⟩
    · intro leg hleg
      have hswing : ∀ leg ∈ (substitutionLegs capacity substitutionSources volume).1, leg.1 = .swing := by
        intro leg hleg
        by_contra hother
        have hany : (substitutionLegs capacity substitutionSources volume).1.any (fun leg => leg.1 ≠ .swing) = true :=
          List.any_eq_true.mpr ⟨leg, hleg, by simpa using hother⟩
        simp only [checkT1Substitution, if_pos (And.intro hcovered hany)] at hplan
        cases hplan
      simp only [orderLegs, swingSell, ↓reduceIte, Option.filter_none, List.mem_singleton, hbucket] at hleg
      subst hleg
      exact (hdrawn.swing_only hvolume hswing).trans (hcapacity .swing).2
    · show normalizeBucket bucket ≠ .lockedCore
      rw [hbucket]
      decide
  | some fields =>
    obtain rfl := checkT1Substitution_eq_some hplan
    have hread := fromDict_substitutionPlanFields uuid4 orderId volume (substitutionLegs capacity substitutionSources volume).1
    have hlegs : ∀ plan : SubstitutionPlan, plan.sellFromBuckets =
        ((substitutionLegs capacity substitutionSources volume).1.map namedLeg).filter (fun leg => 0 < leg.volume) →
        plan.enabled = true → orderLegs (swingSell orderId code bucket volume price metadata
          (some (substitutionPlanFields volume (substitutionLegs capacity substitutionSources volume).1))) (some plan) =
          (substitutionLegs capacity substitutionSources volume).1.map reservedLeg := by
      intro plan hfrom henabled
      simp only [orderLegs, swingSell, ↓reduceIte, Option.filter_some, henabled]
      exact planLegs_named hdrawn.positive hfrom
    refine hgranted _ _ ⟨hid, hcode, hvolume, hread⟩ ⟨?_, fun _ => ?_, fun _ hnone => by cases hnone⟩
    · rw [hlegs _ rfl rfl]
      intro leg hleg
      obtain ⟨source, hsource, rfl⟩ := List.mem_map.mp hleg
      exact (hdrawn.fits source hsource).trans (hcapacity source.1).2
    · rw [hlegs _ rfl rfl]
      intro hnil
      have htotal := hdrawn.total
      rw [List.map_eq_nil_iff.mp hnil] at htotal
      simp only [List.map_nil, List.sum_nil] at htotal
      omega

/-- What the checker allows of a swing sell, the ledger reserves. -/
theorem allowed_swing_sell_reserved {ledger : BucketLedger} {code : String} {position data : Fields}
    {checker : TradingRiskChecker} {context : OrderContext} {decision : OrderRiskDecision} (hcode : code ≠ "")
    (hdecorated : (ledger.decoratePosition code position).2 = .ok data) (hposition : context.position = data)
    (hsome : ∃ bucket, 0 < ((ledger.decoratePosition code position).1.state code bucket).availableVolume)
    (hsell : request.orderType = .sell) (hbucket : checker.requestBucket request = "swing")
    (hevaluated : checker.evaluateOrder request context = .ok decision) (hallowed : decision.allowed = true) :
    (∀ plan, decision.substitutionPlan = some plan → ∃ legs, plan = substitutionPlanFields request.volume legs ∧
      LegsAgree (fun bucket => ((ledger.decoratePosition code position).1.state code bucket).availableVolume) request
        context.riskCaps legs) ∧
      ∀ uuid4 now orderId bucket price metadata, orderId ≠ "" → normalizeBucket bucket = .swing →
        ((ledger.decoratePosition code position).1.reserveOrder uuid4 now
          (swingSell orderId code bucket request.volume price metadata decision.substitutionPlan)).2 = .ok true := by
  obtain ⟨hvolume, hcapacity⟩ := evaluateOrder_sell hsell hevaluated hallowed
  obtain ⟨capacity, hcapacity, hcovered, hplan⟩ := checkSellCapacity_swing hsell hbucket hcapacity hallowed
  have hshows : Shows context.position fun bucket =>
      ((ledger.decoratePosition code position).1.state code bucket).availableVolume := by
    rw [hposition]
    exact BucketLedger.decoratePosition_available hdecorated
  have hnonneg := fun bucket => (hshows bucket).2
  have hopen : (allowedCapacity request capacity).of = openTo context.riskCaps request.metadata fun bucket =>
      ((ledger.decoratePosition code position).1.state code bucket).availableVolume :=
    funext fun bucket => allowedCapacity_of hshows hsome hcapacity bucket
  rw [hopen] at hcovered hplan
  have hcapacities := openTo_le context.riskCaps request.metadata hnonneg
  constructor
  · intro plan hsome
    refine ⟨_, checkT1Substitution_eq_some (hplan.symm.trans hsome), ?_⟩
    exact (substitutionLegs_drawn (fun bucket => (hcapacities bucket).1) hvolume.le hcovered).agree hnonneg
  · intro uuid4 now orderId bucket price metadata hid hswing
    rw [hplan]
    exact swingSell_reserved hid hcode hswing hvolume hcapacities hcovered

def heldPosition : Fields := [("long_volume", .int 300), ("available_volume", .int 300)]

def heldSell : OrderRequest :=
  { instrumentCode := "600000.SH", orderType := .sell, priceType := .market, volume := 100,
    metadata := [("bucket", .str "swing")] }

def heldChecker : TradingRiskChecker := { isTradingHours := fun _ => true, repr := fun _ => "", strOf := fun _ => "" }

def heldContext (position : Fields) : OrderContext := { account := [], position, marketData := none }

/-- Whether the sell is allowed, and what is available in the core bucket. -/
def heldOutcome : Option (Bool × Int) := do
  let decorated := BucketLedger.decoratePosition { runId := "run" } "600000.SH" heldPosition
  let data ← decorated.2.toOption
  let decision ← (heldChecker.evaluateOrder heldSell (heldContext data)).toOption
  return (decision.allowed, (decorated.1.state "600000.SH" .core).availableVolume)

/-- The core bucket covers it. -/
theorem held_sell_reserved : ∃ data decision,
    (BucketLedger.decoratePosition { runId := "run" } "600000.SH" heldPosition).2 = .ok data ∧
      heldChecker.evaluateOrder heldSell (heldContext data) = .ok decision ∧ decision.allowed = true ∧
      ((BucketLedger.decoratePosition { runId := "run" } "600000.SH" heldPosition).1.reserveOrder "id" "now"
        (swingSell "order" "600000.SH" "swing" 100 0 Dict.empty decision.substitutionPlan)).2 = .ok true := by
  have houtcome : heldOutcome = some (true, 300) := by decide +kernel
  cases hdata : (BucketLedger.decoratePosition { runId := "run" } "600000.SH" heldPosition).2 with
  | error e => simp [heldOutcome, hdata, Except.toOption] at houtcome
  | ok data =>
    cases hdecision : heldChecker.evaluateOrder heldSell (heldContext data) with
    | error e => simp [heldOutcome, hdata, hdecision, Except.toOption] at houtcome
    | ok decision =>
      simp only [heldOutcome, hdata, hdecision, Except.toOption, Option.bind_eq_bind, Option.bind_some, Option.pure_def,
        Option.some.injEq, Prod.mk.injEq] at houtcome
      obtain ⟨hallowed, havailable⟩ := houtcome
      refine ⟨data, decision, rfl, hdecision, hallowed, ?_⟩
      exact (allowed_swing_sell_reserved (by decide) hdata rfl ⟨.core, by rw [havailable]; decide⟩ rfl (by decide +kernel)
        hdecision hallowed).2 "id" "now" "order" "swing" 0 Dict.empty (by decide) (by decide +kernel)

end QuantX
