import QuantX.Theorems.LiveBuckets.Book
import QuantX.Theorems.BucketLedger.Substitution

namespace QuantX
open Lib

def legOf : PyVal → Option (Bucket × Nat)
  | .dict leg =>
    match inNames (PyVal.get leg "bucket") ["core", "swing"], qty (PyVal.get leg "volume") with
    | .ok true, .ok volume => some (normalizeBucket ((PyVal.get leg "bucket").text ""), volume)
    | _, _ => none
  | _ => none

def legsOf : List PyVal → Option (List (Bucket × Nat))
  | [] => some []
  | leg :: legs =>
    match legOf leg, legsOf legs with
    | some leg, some legs => some (leg :: legs)
    | _, _ => none

def readablePlan (plan : List (String × PyVal)) : Bool :=
  (SubstitutionStatus.fromField plan).isOk && (mappingOrEmpty (PyVal.get plan "metadata")).isOk

def planMove (bucket : String) (plan : PyVal) : Option Move :=
  match substitutionFields bucket plan with
  | .error _ => none
  | .ok (plan, legs) =>
    if (checkLegNames legs).isOk && readablePlan plan then
      (legsOf legs).map fun legs =>
        .substitute (normalizeBucket bucket) (normalizeBucket ((PyVal.get plan "reattribute_buy_to_bucket").text "")) legs
    else none

/-- What the shares of a fill do, where it can be replayed at all. Nothing sells out of the locked bucket
    without a plan. -/
def moveOf (fill : LiveAttributedFill) : Option Move :=
  if fill.side = "BUY" then some (.buy (normalizeBucket fill.bucket))
  else if fill.substitutionPlan = .none then
    if normalizeBucket fill.bucket = .lockedCore then none else some (.sell (normalizeBucket fill.bucket))
  else planMove fill.bucket fill.substitutionPlan

variable {bucket target : String} {plan fields : List (String × PyVal)} {value : PyVal} {legs : List PyVal}
  {parts : List (Bucket × Nat)} {skip remaining : Nat}

theorem inNames_ok {names : List String} (h : inNames value names = .ok true) : ∃ s ∈ names, value = .str s := by
  cases value with
  | str s => exact ⟨s, by simpa [inNames] using h, rfl⟩
  | _ => simp [inNames] at h

theorem qty_ok {n : Nat} (h : qty value = .ok n) : value = .int n := by
  cases value with
  | int k =>
    simp only [qty] at h
    split at h
    · rename_i hk
      obtain rfl := Except.ok.inj h
      rw [Int.toNat_of_nonneg hk]
    · cases h
  | _ => simp [qty] at h

/-- A mapping that names the fill's bucket, a target that can be sold from, and its legs. -/
structure PlanFields (bucket : String) (value : PyVal) (plan : List (String × PyVal)) (legs : List PyVal) (target : String) :
    Prop where
  mapping : value = .dict plan
  enabled : PyVal.get plan "enabled" = .bool true
  requested : PyVal.get plan "requested_bucket" = .str bucket
  reattributed : PyVal.get plan "reattribute_buy_to_bucket" = .str target
  target_mem : target ∈ ["core", "swing"]
  sold : PyVal.get plan "sell_from_buckets" = .list legs

theorem substitutionFields_ok (h : substitutionFields bucket value = .ok (plan, legs)) :
    ∃ target, PlanFields bucket value plan legs target := by
  cases value with
  | dict fields =>
    simp only [substitutionFields, bind, Except.bind] at h
    split at h
    · cases h
    · rename_i henabled
      split at h
      · cases h
      · rename_i hrequested
        cases hnames : inNames (PyVal.get fields "reattribute_buy_to_bucket") ["core", "swing"] with
        | error e =>
          rw [hnames] at h
          cases h
        | ok found =>
          rw [hnames] at h
          cases found with
          | false => cases h
          | true =>
            obtain ⟨target, hmem, htarget⟩ := inNames_ok hnames
            have hsame : PyVal.get fields "requested_bucket" = .str bucket := by
              have hplain := PyVal.same_iff.mp (by simpa using hrequested)
              exact PyVal.eq_str_of_plain hplain
            simp only [Bool.not_true, Bool.false_eq_true, if_false] at h
            revert h
            split
            · rename_i hlegs
              intro h
              cases h
              exact ⟨target, rfl, by simpa using henabled, hsame, htarget, hmem, hlegs⟩
            · intro h
              cases h
  | _ => cases h

theorem legOf_some {leg : PyVal} {part : Bucket × Nat} (h : legOf leg = some part) :
    ∃ fields s, leg = .dict fields ∧ s ∈ ["core", "swing"] ∧ PyVal.get fields "bucket" = .str s ∧
      PyVal.get fields "volume" = .int part.2 ∧ part.1 = normalizeBucket s := by
  cases leg with
  | dict fields =>
    simp only [legOf] at h
    split at h
    · rename_i volume hnames hvolume
      obtain ⟨s, hs, hbucket⟩ := inNames_ok hnames
      obtain rfl := Option.some.inj h
      exact ⟨fields, s, rfl, hs, hbucket, qty_ok hvolume, by rw [hbucket, PyVal.text_str]⟩
    · cases h
  | _ => cases h

theorem legOf_plain {leg leg' : PyVal} {part part' : Bucket × Nat} (h : leg.plain = leg'.plain) (hpart : legOf leg = some part)
    (hpart' : legOf leg' = some part') : part = part' := by
  obtain ⟨fields, s, rfl, -, hbucket, hvolume, hown⟩ := legOf_some hpart
  obtain ⟨fields', s', rfl, -, hbucket', hvolume', hown'⟩ := legOf_some hpart'
  have hsame := PyVal.plain_get h "bucket"
  have hsame' := PyVal.plain_get h "volume"
  simp only [hbucket, hbucket', hvolume, hvolume', PyVal.plain_str, PyVal.plain_int, PyVal.str.injEq, PyVal.float.injEq] at hsame hsame'
  have hn : part.2 = part'.2 := by exact_mod_cast hsame'
  exact Prod.ext (by rw [hown, hown', hsame]) hn

theorem legsOf_cons {leg : PyVal} (h : legsOf (leg :: legs) = some parts) :
    ∃ part rest, legOf leg = some part ∧ legsOf legs = some rest ∧ parts = part :: rest := by
  simp only [legsOf] at h
  split at h
  · rename_i part rest hpart hrest
    obtain rfl := Option.some.inj h
    exact ⟨part, rest, hpart, hrest, rfl⟩
  · cases h

theorem legsOf_plain {legs' : List PyVal} {parts' : List (Bucket × Nat)} (h : legs.map PyVal.plain = legs'.map PyVal.plain)
    (hparts : legsOf legs = some parts) (hparts' : legsOf legs' = some parts') : parts = parts' := by
  induction legs generalizing legs' parts parts' with
  | nil =>
    obtain rfl := List.map_eq_nil_iff.mp h.symm
    exact Option.some.inj (hparts.symm.trans hparts')
  | cons leg legs ih =>
    cases legs' with
    | nil => cases h
    | cons leg' legs' =>
      obtain ⟨hleg, hlegs⟩ := List.cons.inj h
      obtain ⟨part, rest, hpart, hrest, rfl⟩ := legsOf_cons hparts
      obtain ⟨part', rest', hpart', hrest', rfl⟩ := legsOf_cons hparts'
      rw [legOf_plain hleg hpart hpart', ih hlegs hrest hrest']

theorem planMove_some {move : Move} (h : planMove bucket value = some move) :
    ∃ plan legs target parts, substitutionFields bucket value = .ok (plan, legs) ∧ PlanFields bucket value plan legs target ∧
      (checkLegNames legs).isOk = true ∧ readablePlan plan = true ∧ legsOf legs = some parts ∧
      move = .substitute (normalizeBucket bucket) (normalizeBucket target) parts := by
  simp only [planMove] at h
  split at h
  · cases h
  · rename_i plan legs hfields
    split at h
    · rename_i hreads
      obtain ⟨target, hplan⟩ := substitutionFields_ok hfields
      obtain ⟨parts, hparts, hmove⟩ := Option.map_eq_some_iff.mp h
      rw [hplan.reattributed, PyVal.text_str] at hmove
      simp only [Bool.and_eq_true] at hreads
      exact ⟨plan, legs, target, parts, hfields, hplan, hreads.1, hreads.2, hparts, hmove.symm⟩
    · cases h

theorem planMove_plain {value' : PyVal} {move move' : Move} (h : value.plain = value'.plain)
    (hmove : planMove bucket value = some move) (hmove' : planMove bucket value' = some move') : move = move' := by
  obtain ⟨plan, legs, target, parts, -, ⟨rfl, -, -, htarget, -, hsold⟩, -, -, hparts, rfl⟩ := planMove_some hmove
  obtain ⟨plan', legs', target', parts', -, ⟨rfl, -, -, htarget', -, hsold'⟩, -, -, hparts', rfl⟩ := planMove_some hmove'
  have hsame := PyVal.plain_get h "reattribute_buy_to_bucket"
  have hsame' := PyVal.plain_get h "sell_from_buckets"
  simp only [htarget, htarget', hsold, hsold', PyVal.plain_str, PyVal.plain_list, PyVal.str.injEq, PyVal.list.injEq] at hsame hsame'
  rw [hsame, legsOf_plain hsame' hparts hparts']

theorem moveOf_material {fill fill' : LiveAttributedFill} {move move' : Move} (h : sameMaterial (material fill) (material fill') = true)
    (hmove : moveOf fill = some move) (hmove' : moveOf fill' = some move') :
    fill.instrumentCode = fill'.instrumentCode ∧ move = move' := by
  simp only [sameMaterial, Bool.and_eq_true, decide_eq_true_eq, PyVal.same_iff] at h
  obtain ⟨⟨⟨hcode, hside⟩, hbucket⟩, hplan⟩ := h
  dsimp only [material] at hcode hside hbucket hplan
  refine ⟨hcode, ?_⟩
  have hnone : fill.substitutionPlan = .none ↔ fill'.substitutionPlan = .none := by
    constructor
    · intro hsame
      rw [hsame, PyVal.plain_none] at hplan
      exact PyVal.eq_none_of_plain hplan.symm
    · intro hsame
      rw [hsame, PyVal.plain_none] at hplan
      exact PyVal.eq_none_of_plain hplan
  simp only [moveOf, hside, hbucket, hnone] at hmove hmove'
  split at hmove
  · rename_i hbuy
    rw [if_pos hbuy] at hmove'
    exact Option.some.inj (hmove.symm.trans hmove')
  · rename_i hbuy
    rw [if_neg hbuy] at hmove'
    split at hmove
    · rename_i hplain
      rw [if_pos hplain] at hmove'
      exact Option.some.inj (hmove.symm.trans hmove')
    · rename_i hplain
      rw [if_neg hplain] at hmove'
      exact planMove_plain hplan hmove hmove'

/-! ## The legs of one fill -/

def cutLegs : List (Bucket × Nat) → Nat → Nat → List (Bucket × Nat)
  | [], _, _ => []
  | part :: parts, skip, remaining =>
    let take := min remaining (part.2 - min skip part.2)
    if take ≠ 0 then (part.1, take) :: cutLegs parts (skip - min skip part.2) (remaining - take)
    else cutLegs parts (skip - min skip part.2) (remaining - take)

def legsTotal (parts : List (Bucket × Nat)) : Nat := (parts.map (·.2)).sum

theorem core_name : Bucket.core.name = "core" := rfl
theorem swing_name : Bucket.swing.name = "swing" := rfl

theorem name_normalizeBucket {s : String} (h : s ∈ ["core", "swing"]) : (normalizeBucket s).name = s := by
  simp only [List.mem_cons, List.not_mem_nil, or_false] at h
  rcases h with rfl | rfl
  · rw [← core_name, normalizeBucket_name]
  · rw [← swing_name, normalizeBucket_name]

theorem inNames_mem {names : List String} {s : String} (h : s ∈ names) : inNames (.str s) names = .ok true := by
  simp [inNames, h]

theorem qty_natCast (n : Nat) : qty (.int n) = .ok n := by simp [qty]

theorem takeLegs_ok (h : legsOf legs = some parts) (skip remaining : Nat) :
    takeLegs legs skip remaining = .ok ((cutLegs parts skip remaining).map fun part => (part.1.name, part.2),
      skip - legsTotal parts, remaining - (legsTotal parts - skip)) := by
  induction legs generalizing parts skip remaining with
  | nil =>
    obtain rfl := Option.some.inj h
    simp [takeLegs, cutLegs, legsTotal]
  | cons leg legs ih =>
    obtain ⟨part, rest, hpart, hrest, rfl⟩ := legsOf_cons h
    obtain ⟨fields, s, rfl, hs, hbucket, hvolume, hown⟩ := legOf_some hpart
    simp only [takeLegs, hbucket, hvolume, inNames_mem hs, qty_natCast, ih hrest, PyVal.text_str, bind, Except.bind, pure,
      Except.pure, cutLegs, hown, Except.ok.injEq, Prod.mk.injEq, legsTotal, List.map_cons, List.sum_cons, Bool.not_true,
      Bool.false_eq_true, if_false]
    refine ⟨?_, by omega, by omega⟩
    split
    · rw [List.map_cons, name_normalizeBucket hs]
    · rfl

theorem takeLegs_error (h : legsOf legs = none) (skip remaining : Nat) : ∃ e, takeLegs legs skip remaining = .error e := by
  induction legs generalizing skip remaining with
  | nil => cases h
  | cons leg legs ih =>
    cases leg with
    | dict fields =>
      simp only [takeLegs, bind, Except.bind]
      cases hnames : inNames (PyVal.get fields "bucket") ["core", "swing"] with
      | error e => exact ⟨e, rfl⟩
      | ok found =>
        cases found with
        | false => exact ⟨_, rfl⟩
        | true =>
          cases hvolume : qty (PyVal.get fields "volume") with
          | error e => exact ⟨e, rfl⟩
          | ok volume =>
            have hrest : legsOf legs = none := by
              simp only [legsOf, legOf, hnames, hvolume] at h
              cases hlegs : legsOf legs with
              | none => rfl
              | some rest =>
                rw [hlegs] at h
                cases h
            obtain ⟨e, he⟩ := ih hrest (skip - min skip volume) (remaining - min remaining (volume - min skip volume))
            refine ⟨e, ?_⟩
            simp [he]
    | _ => exact ⟨_, rfl⟩

theorem cutLegs_pos (parts : List (Bucket × Nat)) (skip remaining : Nat) : ∀ part ∈ cutLegs parts skip remaining, 0 < part.2 := by
  induction parts generalizing skip remaining with
  | nil => simp [cutLegs]
  | cons part parts ih =>
    rw [cutLegs]
    split
    · rename_i htake
      intro taken htaken
      rcases List.mem_cons.mp htaken with rfl | htaken
      · exact Nat.pos_of_ne_zero htake
      · exact ih _ _ taken htaken
    · exact ih _ _

theorem cutLegs_sublist (parts : List (Bucket × Nat)) (skip remaining : Nat) :
    ((cutLegs parts skip remaining).map Prod.fst).Sublist (parts.map Prod.fst) := by
  induction parts generalizing skip remaining with
  | nil => simp [cutLegs]
  | cons part parts ih =>
    rw [cutLegs]
    split
    · exact (ih _ _).cons_cons part.1
    · exact (ih _ _).cons part.1

/-- What a fill takes from a bucket is what the order takes with it, less what it takes without it. -/
theorem sum_cutLegs (own : Bucket) (parts : List (Bucket × Nat)) (skip remaining : Nat) :
    ((cutLegs parts skip remaining).map fun part => if part.1 = own then (part.2 : Int) else 0).sum =
      takenFrom own parts (skip + remaining) - takenFrom own parts skip := by
  induction parts generalizing skip remaining with
  | nil => simp [cutLegs, takenFrom]
  | cons part parts ih =>
    obtain ⟨bucket, volume⟩ := part
    have hrest := ih (skip - min skip volume) (remaining - min remaining (volume - min skip volume))
    rw [show skip - min skip volume + (remaining - min remaining (volume - min skip volume)) = skip + remaining - volume by omega,
      show skip - min skip volume = skip - volume by omega] at hrest
    simp only [cutLegs, takenFrom]
    rw [show skip - min skip volume = skip - volume by omega]
    split
    · rw [List.map_cons, List.sum_cons, hrest]
      split <;> omega
    · rename_i htake
      rw [hrest]
      split <;> omega

theorem checkLegNames_ok (h : (checkLegNames legs).isOk = true) : ((legNames legs).map PyVal.plain).Nodup := by
  unfold checkLegNames at h
  split at h
  · cases h
  · split at h
    · cases h
    · rename_i hnodup
      exact not_not.mp hnodup

theorem legsOf_nodup (h : legsOf legs = some parts) (hnames : ((legNames legs).map PyVal.plain).Nodup) :
    (parts.map Prod.fst).Nodup := by
  induction legs generalizing parts with
  | nil =>
    obtain rfl := Option.some.inj h
    exact List.nodup_nil
  | cons leg legs ih =>
    obtain ⟨part, rest, hpart, hrest, rfl⟩ := legsOf_cons h
    obtain ⟨fields, s, rfl, hs, hbucket, -, hown⟩ := legOf_some hpart
    simp only [legNames, List.filterMap_cons, List.map_cons, hbucket, List.nodup_cons] at hnames
    refine List.nodup_cons.mpr ⟨fun hmem => hnames.1 ?_, ih hrest hnames.2⟩
    have hfound : ∀ {legs : List PyVal} {parts : List (Bucket × Nat)}, legsOf legs = some parts → part.1 ∈ parts.map Prod.fst →
        PyVal.str s ∈ legNames legs := by
      intro legs
      induction legs with
      | nil =>
        intro parts hparts hmem
        obtain rfl := Option.some.inj hparts
        cases hmem
      | cons leg legs ih =>
        intro parts hparts hmem
        obtain ⟨part', rest', hpart', hrest', rfl⟩ := legsOf_cons hparts
        obtain ⟨fields', s', rfl, hs', hbucket', -, hown'⟩ := legOf_some hpart'
        simp only [legNames, List.filterMap_cons, hbucket']
        rcases List.mem_cons.mp hmem with hsame | hmem
        · rw [hown, hown'] at hsame
          rw [← name_normalizeBucket hs, hsame, name_normalizeBucket hs']
          exact List.mem_cons_self
        · exact List.mem_cons_of_mem _ (ih hrest' hmem)
    exact List.mem_map_of_mem (hfound hrest hmem)

/-! ## The plan that the ledger reads -/

theorem planOfFill_ne_nil (plan : List (String × PyVal)) (volume : Int) (legs : List (String × Nat)) :
    planOfFill plan volume legs ≠ [] := by
  intro h
  have hlookup : Dict.lookup "sell_from_buckets" (planOfFill plan volume legs) = none := by rw [h]; rfl
  simp [planOfFill, Dict.lookup_drop, Dict.lookup_put] at hlookup

theorem lookup_planOfFill {key : String} (volume : Int) (taken : List (String × Nat)) (hkey : key ≠ "sell_from_buckets")
    (hkey' : key ≠ "volume") (happlied : key ≠ "applied_volume") (hrolled : key ≠ "rolled_back_volume") :
    Dict.lookup key (planOfFill plan volume taken) = Dict.lookup key plan := by
  simp [planOfFill, Dict.lookup_drop, Dict.lookup_put, hkey.symm, hkey'.symm, happlied.symm, hrolled.symm]

def wholeLeg (part : Bucket × Nat) : ReservedLeg := { bucket := part.1, volume := part.2, remainingVolume := part.2 }

structure FillPlan (orderId bucket target : String) (volume : Int) (parts : List (Bucket × Nat)) (plan : SubstitutionPlan) :
    Prop where
  enabled : plan.enabled = true
  requested : plan.requestedBucket = bucket
  target : plan.reattributeBuyToBucket = target
  volume : plan.volume = volume
  applied : plan.appliedVolume = 0
  orderId : plan.orderId = orderId
  legs : BucketLedger.planLegs plan = parts.map wholeLeg

theorem mapM_cutLegs (parts : List (Bucket × Nat)) :
    ((parts.map fun part => (part.1.name, part.2)).map fun taken : String × Nat =>
      PyVal.dict [("bucket", .str taken.1), ("volume", .int taken.2)]).mapM SubstitutionLeg.fromDict =
      .ok ((parts.map fun part => (part.1, (part.2 : Int))).map BucketLedger.namedLeg) := by
  induction parts with
  | nil => rfl
  | cons part parts ih =>
    have hleg := BucketLedger.SubstitutionLeg.fromDict_fields { bucket := part.1.name, volume := part.2 }
    simp only [List.map_cons, List.mapM_cons, hleg, ih]
    rfl

theorem lookup_of_get {key s : String} (h : PyVal.get plan key = .str s) : Dict.lookup key plan = some (.str s) := by
  unfold PyVal.get at h
  cases hlookup : Dict.lookup key plan with
  | none => simp [hlookup] at h
  | some value => simpa [hlookup] using h

theorem textOrField_of_get {key s default : String} (h : Dict.lookup key plan = some (.str s)) (hs : s ≠ "") :
    textOrField plan key default = s := by
  simp [textOrField, h, PyVal.orText, hs]

theorem fromDict_of_ne_nil (uuid4 orderId : String) (h : fields ≠ []) :
    SubstitutionPlan.fromDict uuid4 orderId (some fields) = (do
      let status ← SubstitutionStatus.fromField fields
      let items ← listOrEmpty (PyVal.get fields "sell_from_buckets")
      let legs ← items.mapM SubstitutionLeg.fromDict
      let volume ← intField fields "volume"
      let appliedVolume ← intField fields "applied_volume"
      let rolledBackVolume ← intField fields "rolled_back_volume"
      let metadata ← mappingOrEmpty (PyVal.get fields "metadata")
      return some {
        requestedBucket := textOrField fields "requested_bucket" "swing"
        sellFromBuckets := legs.filter fun leg => 0 < leg.volume
        reattributeBuyToBucket := textOrField fields "reattribute_buy_to_bucket" "core", volume
        reason := textField fields "reason" "", enabled := boolField fields "enabled" true
        planId := ((PyVal.get fields "plan_id").or (.str uuid4)).text ""
        orderId := PyVal.orText orderId (textField fields "order_id" ""), status, appliedVolume, rolledBackVolume
        metadata }) := by
  cases fields with
  | nil => exact absurd rfl h
  | cons field fields => rfl

/-- The numbers and legs of the plan of a fill are always read; its status and metadata come from the account. -/
theorem fromDict_planOfFill (uuid4 : String) {parts : List (Bucket × Nat)} (hplan : PlanFields bucket value plan legs target)
    (hbucket : bucket ≠ "") {orderId : String} (horder : orderId ≠ "") (volume : Int) (hpos : ∀ part ∈ parts, 0 < part.2) :
    (readablePlan plan = true ∧ ∃ p, SubstitutionPlan.fromDict uuid4 orderId
        (some (planOfFill plan volume (parts.map fun part => (part.1.name, part.2)))) = .ok (some p) ∧
        FillPlan orderId bucket target volume parts p) ∨
      (readablePlan plan = false ∧ ∃ e, SubstitutionPlan.fromDict uuid4 orderId
        (some (planOfFill plan volume (parts.map fun part => (part.1.name, part.2)))) = .error e) := by
  generalize htaken : parts.map (fun part => (part.1.name, part.2)) = taken
  have hlookup : ∀ key, key ≠ "sell_from_buckets" → key ≠ "volume" → key ≠ "applied_volume" → key ≠ "rolled_back_volume" →
      Dict.lookup key (planOfFill plan volume taken) = Dict.lookup key plan :=
    fun key => lookup_planOfFill volume taken
  have hstatus : SubstitutionStatus.fromField (planOfFill plan volume taken) = SubstitutionStatus.fromField plan := by
    rw [SubstitutionStatus.fromField, hlookup _ (by decide) (by decide) (by decide) (by decide), SubstitutionStatus.fromField]
  have hmetadata : PyVal.get (planOfFill plan volume taken) "metadata" = PyVal.get plan "metadata" := by
    rw [PyVal.get, hlookup _ (by decide) (by decide) (by decide) (by decide), PyVal.get]
  have hsold : PyVal.get (planOfFill plan volume taken) "sell_from_buckets" =
      .list (taken.map fun taken => .dict [("bucket", .str taken.1), ("volume", .int taken.2)]) := by
    simp [PyVal.get, planOfFill, Dict.lookup_drop, Dict.lookup_put]
  have hvolume : intField (planOfFill plan volume taken) "volume" = .ok volume := by
    simp [intField, PyVal.get, planOfFill, Dict.lookup_drop, Dict.lookup_put]
  have happlied : intField (planOfFill plan volume taken) "applied_volume" = .ok 0 := by
    simp [intField, PyVal.get, planOfFill, Dict.lookup_drop, PyVal.or, PyVal.truthy]
  have hrolled : intField (planOfFill plan volume taken) "rolled_back_volume" = .ok 0 := by
    simp [intField, PyVal.get, planOfFill, Dict.lookup_drop, PyVal.or, PyVal.truthy]
  have hmapM := mapM_cutLegs parts
  rw [htaken] at hmapM
  rw [fromDict_of_ne_nil _ _ (planOfFill_ne_nil _ _ _), hstatus, hsold, hvolume, happlied, hrolled, hmetadata]
  simp only [listOrEmpty_list, bind, Except.bind, hmapM]
  cases hread : SubstitutionStatus.fromField plan with
  | error e => exact .inr ⟨by simp [readablePlan, hread, Except.isOk, Except.toBool], e, rfl⟩
  | ok status =>
    cases hread' : mappingOrEmpty (PyVal.get plan "metadata") with
    | error e => exact .inr ⟨by simp [readablePlan, hread', Except.isOk, Except.toBool], e, rfl⟩
    | ok metadata =>
      refine .inl ⟨by simp [readablePlan, hread, hread', Except.isOk, Except.toBool], _, rfl, ?_, ?_, ?_, rfl, rfl, ?_, ?_⟩
      · have henabled : Dict.lookup "enabled" plan = some (.bool true) := by
          have hget := hplan.enabled
          unfold PyVal.get at hget
          cases hfound : Dict.lookup "enabled" plan with
          | none => simp [hfound] at hget
          | some value => simpa [hfound] using hget
        simp [boolField, hlookup, henabled]
      · refine textOrField_of_get ?_ hbucket
        rw [hlookup _ (by decide) (by decide) (by decide) (by decide)]
        exact lookup_of_get hplan.requested
      · refine textOrField_of_get ?_ ?_
        · rw [hlookup _ (by decide) (by decide) (by decide) (by decide)]
          exact lookup_of_get hplan.reattributed
        · rintro rfl
          exact absurd hplan.target_mem (by decide)
      · simp [PyVal.orText, horder]
      · rw [@planLegs_named (parts.map fun part => (part.1, (part.2 : Int))) ?_ _ rfl, List.map_map]
        · rfl
        · intro leg hleg
          obtain ⟨part, hpart, rfl⟩ := List.mem_map.mp hleg
          exact Int.natCast_pos.mpr (hpos part hpart)

end QuantX
