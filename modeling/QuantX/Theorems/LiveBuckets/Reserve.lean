import QuantX.Theorems.LiveBuckets.Mirror

namespace QuantX
open Lib BucketLedger

variable {calendar : ExchangeCalendar} {host : ReplayHost} {ledger : BucketLedger} {book : Book} {fill : LiveAttributedFill}
  {state : ReplayState} {metadata : Dict String PyVal} {plan : Option SubstitutionPlan} {fields : Option (List (String × PyVal))}
  {uuid4 now : String}

theorem name_of_mem {name : String} (h : name ∈ knownBuckets.map Bucket.name) : (normalizeBucket name).name = name := by
  obtain ⟨bucket, -, rfl⟩ := List.mem_map.mp h
  rw [normalizeBucket_name]

theorem ne_empty_of_mem {name : String} (h : name ∈ knownBuckets.map Bucket.name) : name ≠ "" := by
  obtain ⟨bucket, -, rfl⟩ := List.mem_map.mp h
  cases bucket <;> simp [Bucket.name]

structure SellFill (fill : LiveAttributedFill) : Prop where
  side : fill.side = "SELL"
  order : fill.clientOrderId ≠ ""
  code : fill.instrumentCode ≠ ""
  volume : 0 < fill.volume
  bucket : fill.bucket ∈ knownBuckets.map Bucket.name

theorem SellFill.natVolume (h : SellFill fill) : ((entryOf fill).volume : Int) = fill.volume := Int.toNat_of_nonneg h.volume.le

theorem reserve_shaped (now : String) (metadata : Dict String PyVal) (hfill : SellFill fill) (h : Mirrors calendar ledger book) (hsound : book.Sound)
    (hread : Readable uuid4 (sellCall fill fields) plan) (hshape : SellShape book fill fields plan) :
    (¬ (∀ bucket, book.sold (entryOf fill) bucket ≤ book.settled fill.instrumentCode bucket) ∧
        (ledger.reserveOrder uuid4 now (sellCall fill fields)).2 ≠ .ok true) ∨
      ((∀ bucket, book.sold (entryOf fill) bucket ≤ book.settled fill.instrumentCode bucket) ∧
        (ledger.reserveOrder uuid4 now (sellCall fill fields)).2 = .ok true ∧
        Mirrors calendar ((ledger.reserveOrder uuid4 now (sellCall fill fields)).1.applyTrade (tradeOf fill) metadata).1
          (book.apply (entryOf fill))) := by
  have hiff := hshape.grantable_iff hfill.volume h hsound
  rcases ledger.reserveOrder_cases uuid4 now (sellCall fill fields) with ⟨-, hno, hrefused⟩ | ⟨plan', hread', hgranted, hyes⟩
  · exact .inl ⟨fun hcovers => hrefused plan hread (hiff.mpr hcovers), hno⟩
  · obtain rfl : plan' = plan := Except.ok.inj (hread'.read.symm.trans hread.read)
    refine .inr ⟨hiff.mp hgranted.grantable, hyes, h.filled hsound hshape hfill.side hread hgranted ?_⟩
    exact (reserveOrder_touches ledger uuid4 now (sellCall fill fields) rfl).date

theorem plain_shape (hfill : SellFill fill) (hplan : fill.substitutionPlan = .none) (hlocked : normalizeBucket fill.bucket ≠ .lockedCore) :
    SellShape book fill none none := by
  have hmove : (entryOf fill).move = .sell (normalizeBucket fill.bucket) := by
    simp [entryOf, moveOf, hfill.side, hplan, hlocked]
  have hlegs : orderLegs (sellCall fill none) none =
      [{ bucket := normalizeBucket fill.bucket, volume := fill.volume, remainingVolume := fill.volume }] := rfl
  refine ⟨by rw [hlegs]; exact List.nodup_singleton _, by rw [hlegs]; simp [heldTotal], fun bucket => ?_,
    fun _ => ⟨hlocked, fun bucket => by simp [Entry.brings, hmove, Move.entering]⟩, fun p hp => by cases hp⟩
  have hn := hfill.natVolume
  rw [hlegs, heldIn_cons]
  simp only [heldIn_nil, add_zero, Book.sold, hmove, Move.taken]
  split
  · push_cast
    omega
  · rfl

theorem heldIn_wholeLegs (bucket : Bucket) (parts : List (Bucket × Nat)) :
    heldIn bucket (parts.map wholeLeg) = (parts.map fun part => if part.1 = bucket then (part.2 : Int) else 0).sum := by
  induction parts with
  | nil => rfl
  | cons part parts ih =>
    rw [List.map_cons, heldIn_cons, ih]
    rfl

theorem planned_shape {bucket target : String} {parts : List (Bucket × Nat)} {p : SubstitutionPlan} (hfill : SellFill fill)
    (hmove : (entryOf fill).move = .substitute (normalizeBucket bucket) (normalizeBucket target) parts)
    (hnodup : (parts.map Prod.fst).Nodup) (hwithin : book.filled fill.clientOrderId + fill.volume.toNat ≤ legsTotal parts)
    (htoday : normalizeBucket bucket ≠ normalizeBucket target → fill.volume ≤ book.today fill.instrumentCode (normalizeBucket bucket))
    (hp : FillPlan fill.clientOrderId bucket target fill.volume
      (cutLegs parts (book.filled fill.clientOrderId) fill.volume.toNat) p) : SellShape book fill fields (some p) := by
  have hn : (fill.volume.toNat : Int) = fill.volume := Int.toNat_of_nonneg hfill.volume.le
  have hlegs : orderLegs (sellCall fill fields) (some p) =
      (cutLegs parts (book.filled fill.clientOrderId) fill.volume.toNat).map wholeLeg := by
    simp [orderLegs, sellCall, Option.filter, hp.enabled, hp.legs]
  have hsold : ∀ own, heldIn own (orderLegs (sellCall fill fields) (some p)) = book.sold (entryOf fill) own := by
    intro own
    rw [hlegs, heldIn_wholeLegs, sum_cutLegs, Book.sold, hmove]
    rfl
  refine ⟨?_, ?_, hsold, fun hnone => (by cases hnone), fun q hq => ?_⟩
  · rw [hlegs, List.map_map]
    exact List.Nodup.sublist (cutLegs_sublist _ _ _) hnodup
  · -- Over all buckets the legs make up the fill.
    rw [← sum_heldIn]
    have hafter := sum_takenFrom parts (book.filled fill.clientOrderId + fill.volume.toNat)
    have hbefore := sum_takenFrom parts (book.filled fill.clientOrderId)
    rw [legsTotal] at hwithin
    simp only [knownBuckets, List.map_cons, List.map_nil, List.sum_cons, List.sum_nil, hsold, Book.sold, hmove,
      Move.taken] at hafter hbefore ⊢
    rw [Nat.cast_min, Nat.cast_add] at hafter
    have hentry : (entryOf fill).volume = fill.volume.toNat := rfl
    have horder : (entryOf fill).orderId = fill.clientOrderId := rfl
    rw [hentry, horder]
    omega
  · obtain rfl := Option.some.inj hq
    refine ⟨hp.enabled, hp.volume, hp.applied, hp.orderId, fun own => ?_, ?_⟩
    · rw [hp.requested, hp.target, Entry.brings, hfill.natVolume, hmove, Move.entering]
      split <;> split <;> simp
    · rw [hp.requested, hp.target]
      exact htoday

structure Sellable (book : Book) (fill : LiveAttributedFill) : Prop where
  moves : (moveOf fill).isSome = true
  covers : book.Covers (entryOf fill)

structure Reserved (calendar : ExchangeCalendar) (book : Book) (fill : LiveAttributedFill) (ledger next : BucketLedger) : Prop where
  knows : ∀ code, code ≠ fill.instrumentCode → (next.knows code ↔ ledger.knows code)
  mirrors : ∀ metadata, Mirrors calendar (next.applyTrade (tradeOf fill) metadata).1 (book.apply (entryOf fill))

theorem reserveSellOf_error {e : String} (h : substitutionOf state fill = .error e) : reserveSellOf host state fill = .error e := by
  rw [reserveSellOf, h]
  rfl

theorem reserveSellOf_unread (h : substitutionOf state fill = .ok (ledger, fields)) (hfill : SellFill fill)
    (hread : ∀ uuid4, ∃ e, SubstitutionPlan.fromDict uuid4 fill.clientOrderId fields = .error e) :
    ∃ e, reserveSellOf host state fill = .error e := by
  obtain ⟨e, he⟩ := hread (host.uuid4 state.seen.length)
  have hreserve : (ledger.reserveOrder (host.uuid4 state.seen.length) (host.now state.seen.length) (sellCall fill fields)).2 =
      .error e := by
    simp [reserveOrder, sellCall, he, hfill.order, hfill.code, not_le.mpr hfill.volume]
  refine ⟨e, ?_⟩
  rw [reserveSellOf, h]
  simp only [bind, Except.bind, hreserve]

theorem reserveSellOf_shaped (host : ReplayHost) (hsub : substitutionOf state fill = .ok (ledger, fields)) (hfill : SellFill fill)
    (h : Mirrors calendar ledger book) (hsound : book.Sound)
    (hread : ∃ plan, SubstitutionPlan.fromDict (host.uuid4 state.seen.length) fill.clientOrderId fields = .ok plan ∧
      SellShape book fill fields plan) :
    (¬ (∀ bucket, book.sold (entryOf fill) bucket ≤ book.settled fill.instrumentCode bucket) ∧
        ∃ e, reserveSellOf host state fill = .error e) ∨
      ((∀ bucket, book.sold (entryOf fill) bucket ≤ book.settled fill.instrumentCode bucket) ∧
        ∃ next, reserveSellOf host state fill = .ok next ∧ Reserved calendar book fill ledger next) := by
  obtain ⟨plan, hplan, hshape⟩ := hread
  have hreadable : Readable (host.uuid4 state.seen.length) (sellCall fill fields) plan :=
    ⟨hfill.order, hfill.code, hfill.volume, hplan⟩
  have hcases := fun metadata => reserve_shaped (host.now state.seen.length) metadata hfill h hsound hreadable hshape
  have htouches := reserveOrder_touches ledger (host.uuid4 state.seen.length) (host.now state.seen.length) (sellCall fill fields) rfl
  rw [reserveSellOf, hsub]
  simp only [bind, Except.bind]
  generalize ledger.reserveOrder (host.uuid4 state.seen.length) (host.now state.seen.length) (sellCall fill fields) = result
    at hcases htouches
  obtain ⟨next, reserved⟩ := result
  by_cases hcovers : ∀ bucket, book.sold (entryOf fill) bucket ≤ book.settled fill.instrumentCode bucket
  · have hyes : ∀ metadata, reserved = .ok true ∧
        Mirrors calendar (next.applyTrade (tradeOf fill) metadata).1 (book.apply (entryOf fill)) :=
      fun metadata => ((hcases metadata).resolve_left fun hno => hno.1 hcovers).2
    refine .inr ⟨hcovers, next, ?_, fun code hcode => ?_, fun metadata => (hyes metadata).2⟩
    · rw [(hyes Dict.empty).1]
      rfl
    · rw [BucketLedger.knows, htouches.others code hcode, BucketLedger.knows]
  · have hno := ((hcases Dict.empty).resolve_right fun hyes => hcovers hyes.1).2
    refine .inl ⟨hcovers, ?_⟩
    cases reserved with
    | error _ => exact ⟨_, rfl⟩
    | ok granted =>
      cases granted with
      | false => exact ⟨_, rfl⟩
      | true => exact absurd rfl hno

/-! ## Sells as the book sees them -/

theorem Sellable.iff_of_move {move : Move} (hmove : moveOf fill = some move) (hwithin : move.Within (book.filled fill.clientOrderId + fill.volume.toNat))
    (htoday : ∀ bucket, move.leaves bucket = true → (fill.volume.toNat : Int) ≤ book.today fill.instrumentCode bucket) :
    Sellable book fill ↔ ∀ bucket, book.sold (entryOf fill) bucket ≤ book.settled fill.instrumentCode bucket := by
  have hentry : (entryOf fill).move = move := by simp [entryOf, hmove]
  constructor
  · exact fun h => h.covers.settled
  · intro h
    refine ⟨by simp [hmove], h, ?_, ?_⟩
    · rw [hentry]
      exact hwithin
    · rw [hentry]
      exact htoday

theorem snapshot_knows (ledger : BucketLedger) (code : String) : ledger.snapshot.knows code ↔ ledger.knows code := by
  simp [BucketLedger.knows, BucketLedger.snapshot, Dict.get?_map]

theorem leaves_substitute {requested target : String} (hrequested : requested ∈ knownBuckets.map Bucket.name)
    (htarget : target ∈ ["core", "swing"]) (parts : List (Bucket × Nat)) (bucket : Bucket) :
    (Move.substitute (normalizeBucket requested) (normalizeBucket target) parts).leaves bucket = true ↔
      normalizeBucket requested = bucket ∧ target ≠ requested := by
  have hdiffer : normalizeBucket target ≠ normalizeBucket requested ↔ target ≠ requested := by
    refine not_congr ⟨fun hsame => ?_, fun hsame => by rw [hsame]⟩
    rw [← name_normalizeBucket htarget, hsame, name_of_mem hrequested]
  simp only [Move.leaves, ne_eq, Bool.and_eq_true, decide_eq_true_eq]
  constructor
  · rintro ⟨rfl, hne⟩
    exact ⟨rfl, hdiffer.mp (by simpa using hne)⟩
  · rintro ⟨rfl, hne⟩
    exact ⟨rfl, by simpa using hdiffer.mpr hne⟩

structure PlanRead (bucket : String) (value : PyVal) (plan : List (String × PyVal)) (legs : List PyVal) (target : String)
    (parts : List (Bucket × Nat)) : Prop where
  fields : substitutionFields bucket value = .ok (plan, legs)
  plan : PlanFields bucket value plan legs target
  names : checkLegNames legs = .ok ()
  parts : legsOf legs = some parts

section Read
variable {bucket target : String} {value : PyVal} {plan : List (String × PyVal)} {legs : List PyVal} {parts : List (Bucket × Nat)}

theorem PlanRead.planMove (h : PlanRead bucket value plan legs target parts) : planMove bucket value =
    if readablePlan plan = true then some (.substitute (normalizeBucket bucket) (normalizeBucket target) parts) else none := by
  have hnames : (checkLegNames legs).isOk = true := by rw [h.names]; rfl
  rw [QuantX.planMove, h.fields]
  simp [hnames, h.parts, h.plan.reattributed]

theorem planRead_or_error (state : ReplayState) (hplanned : fill.substitutionPlan ≠ .none) :
    (∃ plan legs target parts, PlanRead fill.bucket fill.substitutionPlan plan legs target parts) ∨
      (QuantX.planMove fill.bucket fill.substitutionPlan = none ∧ ∃ e, substitutionOf state fill = .error e) := by
  cases hfields : substitutionFields fill.bucket fill.substitutionPlan with
  | error e =>
    refine .inr ⟨by simp [QuantX.planMove, hfields], e, ?_⟩
    simp [substitutionOf, hplanned, hfields, bind, Except.bind]
  | ok found =>
    obtain ⟨plan, legs⟩ := found
    obtain ⟨target, hplan⟩ := substitutionFields_ok hfields
    cases hnames : checkLegNames legs with
    | error e =>
      refine .inr ⟨by simp [QuantX.planMove, hfields, hnames, Except.isOk, Except.toBool], e, ?_⟩
      simp [substitutionOf, hplanned, hfields, hnames, bind, Except.bind]
    | ok _ =>
      cases hlegs : legsOf legs with
      | some parts => exact .inl ⟨plan, legs, target, parts, hfields, hplan, hnames, hlegs⟩
      | none =>
        obtain ⟨e, he⟩ := takeLegs_error hlegs (state.orderFilled.getD fill.clientOrderId 0) fill.volume.toNat
        refine .inr ⟨by simp [QuantX.planMove, hfields, hlegs], ?_⟩
        simp only [substitutionOf, hplanned, hfields, hnames, bind, Except.bind, he, if_false]
        split
        · exact ⟨_, rfl⟩
        · exact ⟨e, rfl⟩

theorem PlanRead.substitutionOf (h : PlanRead fill.bucket fill.substitutionPlan plan legs target parts)
    (hplanned : fill.substitutionPlan ≠ .none) (hmirrors : Mirrors calendar state.ledger book) (hsound : book.Sound)
    (hfilled : state.orderFilled.getD fill.clientOrderId 0 = book.filled fill.clientOrderId) :
    QuantX.substitutionOf state fill =
      if target ≠ fill.bucket ∧ book.today fill.instrumentCode (normalizeBucket fill.bucket) < fill.volume then
        .error "LIVE_BUCKET_SUBSTITUTION_BUY_EVIDENCE_REQUIRED"
      else if book.filled fill.clientOrderId + fill.volume.toNat ≤ legsTotal parts then
        .ok (state.ledger.snapshot, some (planOfFill plan fill.volume
          ((cutLegs parts (book.filled fill.clientOrderId) fill.volume.toNat).map fun part => (part.1.name, part.2))))
      else .error "LIVE_BUCKET_SUBSTITUTION_OVERFILL" := by
  have htoday : (state.ledger.snapshot.state fill.instrumentCode (normalizeBucket fill.bucket)).todayBuyVolume =
      book.today fill.instrumentCode (normalizeBucket fill.bucket) :=
    congrArg Volumes.todayBuy ((hmirrors.snapshot hsound).volumes fill.instrumentCode (normalizeBucket fill.bucket))
  have htake := takeLegs_ok h.parts (book.filled fill.clientOrderId) fill.volume.toNat
  have hdone : (fill.volume.toNat - (legsTotal parts - book.filled fill.clientOrderId) ≠ 0 ∨
      book.filled fill.clientOrderId - legsTotal parts ≠ 0) ↔
      ¬ book.filled fill.clientOrderId + fill.volume.toNat ≤ legsTotal parts := by omega
  simp only [QuantX.substitutionOf, hplanned, h.fields, h.names, bind, Except.bind, h.plan.reattributed, htoday, hfilled, if_false,
    ne_eq, PyVal.str.injEq]
  by_cases hshort : ¬ target = fill.bucket ∧ book.today fill.instrumentCode (normalizeBucket fill.bucket) < fill.volume
  · rw [if_pos hshort, if_pos hshort]
    rfl
  · rw [if_neg hshort, if_neg hshort]
    simp only [htake]
    by_cases hwithin : book.filled fill.clientOrderId + fill.volume.toNat ≤ legsTotal parts
    · rw [if_neg (fun hmore => hdone.mp hmore hwithin), if_pos hwithin]
      rfl
    · rw [if_pos (hdone.mpr hwithin), if_neg hwithin]
      rfl

end Read

theorem reserveSellOf_planned (hfill : SellFill fill) (h : Mirrors calendar state.ledger book) (hsound : book.Sound)
    (hfilled : state.orderFilled.getD fill.clientOrderId 0 = book.filled fill.clientOrderId) (hplanned : fill.substitutionPlan ≠ .none) :
    (¬ Sellable book fill ∧ ∃ e, reserveSellOf host state fill = .error e) ∨
      (Sellable book fill ∧ ∃ next, reserveSellOf host state fill = .ok next ∧ Reserved calendar book fill state.ledger next) := by
  have hn : (fill.volume.toNat : Int) = fill.volume := Int.toNat_of_nonneg hfill.volume.le
  have hmoveOf : moveOf fill = planMove fill.bucket fill.substitutionPlan := by simp [moveOf, hfill.side, hplanned]
  have hunread : planMove fill.bucket fill.substitutionPlan = none → ¬ Sellable book fill := by
    intro hnone hsellable
    have hmoves := hsellable.moves
    rw [hmoveOf, hnone] at hmoves
    cases hmoves
  rcases planRead_or_error state hplanned with ⟨plan, legs, target, parts, hread⟩ | ⟨hnone, e, he⟩
  · have hsub := hread.substitutionOf hplanned h hsound hfilled
    have hmove := hread.planMove
    have hleaves := leaves_substitute hfill.bucket hread.plan.target_mem parts
    cases hreadable : readablePlan plan with
    | false =>
      -- The ledger cannot read the plan, whatever its legs are.
      rw [hreadable, if_neg Bool.false_ne_true] at hmove
      refine .inl ⟨hunread hmove, ?_⟩
      split at hsub
      · exact ⟨_, reserveSellOf_error hsub⟩
      · split at hsub
        · refine reserveSellOf_unread hsub hfill fun uuid4 => ?_
          have hcases := fromDict_planOfFill uuid4 hread.plan (ne_empty_of_mem hfill.bucket) hfill.order fill.volume
            (cutLegs_pos parts (book.filled fill.clientOrderId) fill.volume.toNat)
          rcases hcases with ⟨hyes, -⟩ | ⟨-, herror⟩
          · rw [hreadable] at hyes
            cases hyes
          · exact herror
        · exact ⟨_, reserveSellOf_error hsub⟩
    | true =>
      rw [hreadable, if_pos rfl, ← hmoveOf] at hmove
      have hentry : (entryOf fill).move = .substitute (normalizeBucket fill.bucket) (normalizeBucket target) parts := by
        simp [entryOf, hmove]
      split at hsub
      · -- The purchases that the plan hands over are not there.
        rename_i hshort
        refine .inl ⟨fun hsellable => ?_, _, reserveSellOf_error hsub⟩
        have hcovers := hsellable.covers.today (normalizeBucket fill.bucket)
        rw [hentry, hleaves] at hcovers
        have hfits : (fill.volume.toNat : Int) ≤ book.today fill.instrumentCode (normalizeBucket fill.bucket) := hcovers ⟨rfl, hshort.1⟩
        omega
      · rename_i hshort
        have htoday : target ≠ fill.bucket → fill.volume ≤ book.today fill.instrumentCode (normalizeBucket fill.bucket) :=
          fun hne => not_lt.mp fun hless => hshort ⟨hne, hless⟩
        split at hsub
        · rename_i hwithin
          have hiff : Sellable book fill ↔ ∀ bucket, book.sold (entryOf fill) bucket ≤ book.settled fill.instrumentCode bucket := by
            refine Sellable.iff_of_move hmove hwithin fun bucket hbucket => ?_
            obtain ⟨rfl, hne⟩ := (hleaves bucket).mp hbucket
            rw [hn]
            exact htoday hne
          have hshape := reserveSellOf_shaped host hsub hfill (h.snapshot hsound) hsound ?_
          · rw [hiff]
            rcases hshape with hno | ⟨hyes, next, hnext, hreserved⟩
            · exact .inl hno
            · refine .inr ⟨hyes, next, hnext, fun code hcode => ?_, hreserved.mirrors⟩
              exact (hreserved.knows code hcode).trans (snapshot_knows state.ledger code)
          · have hcases := fromDict_planOfFill (host.uuid4 state.seen.length) hread.plan (ne_empty_of_mem hfill.bucket)
              hfill.order fill.volume (cutLegs_pos parts (book.filled fill.clientOrderId) fill.volume.toNat)
            rcases hcases with ⟨-, p, hp, hfillPlan⟩ | ⟨hno, -⟩
            · have hnames : (checkLegNames legs).isOk = true := by rw [hread.names]; rfl
              refine ⟨some p, hp, planned_shape hfill hentry (legsOf_nodup hread.parts (checkLegNames_ok hnames)) hwithin ?_ hfillPlan⟩
              exact fun hne => htoday fun hsame => hne (by rw [hsame])
            · rw [hreadable] at hno
              cases hno
        · -- The legs are used up.
          rename_i hwithin
          refine .inl ⟨fun hsellable => hwithin ?_, _, reserveSellOf_error hsub⟩
          have hcovers := hsellable.covers.within
          rw [hentry] at hcovers
          exact hcovers
  · exact .inl ⟨hunread hnone, e, reserveSellOf_error he⟩

theorem reserveSellOf_plain (hfill : SellFill fill) (h : Mirrors calendar state.ledger book) (hsound : book.Sound)
    (hplan : fill.substitutionPlan = .none) :
    (¬ Sellable book fill ∧ ∃ e, reserveSellOf host state fill = .error e) ∨
      (Sellable book fill ∧ ∃ next, reserveSellOf host state fill = .ok next ∧ Reserved calendar book fill state.ledger next) := by
  have hsub : substitutionOf state fill = .ok (state.ledger, none) := if_pos hplan
  by_cases hlocked : normalizeBucket fill.bucket = .lockedCore
  · have hmove : moveOf fill = none := by simp [moveOf, hfill.side, hplan, hlocked]
    refine .inl ⟨fun hsellable => ?_, ?_⟩
    · have hmoves := hsellable.moves
      rw [hmove] at hmoves
      cases hmoves
    · have hreserve : (state.ledger.reserveOrder (host.uuid4 state.seen.length) (host.now state.seen.length) (sellCall fill none)).2 =
          .ok false := by
        simp [reserveOrder, sellCall, hfill.order, hfill.code, not_le.mpr hfill.volume, SubstitutionPlan.fromDict, reserveSell, hlocked,
          Option.filter]
      refine ⟨"LIVE_BUCKET_SELL_EXCEEDS_ATTRIBUTION", ?_⟩
      rw [reserveSellOf, hsub]
      simp only [bind, Except.bind, hreserve]
      rfl
  · have hmove : moveOf fill = some (.sell (normalizeBucket fill.bucket)) := by simp [moveOf, hfill.side, hplan, hlocked]
    have hiff : Sellable book fill ↔ ∀ bucket, book.sold (entryOf fill) bucket ≤ book.settled fill.instrumentCode bucket :=
      Sellable.iff_of_move hmove trivial fun bucket hbucket => by cases hbucket
    rw [hiff]
    rcases reserveSellOf_shaped host hsub hfill h hsound ⟨none, rfl, plain_shape hfill hplan hlocked⟩ with
      hno | ⟨hyes, next, hnext, hreserved⟩
    · exact .inl hno
    · exact .inr ⟨hyes, next, hnext, hreserved⟩

theorem reserveSellOf_cases (host : ReplayHost) (hfill : SellFill fill) (h : Mirrors calendar state.ledger book) (hsound : book.Sound)
    (hfilled : state.orderFilled.getD fill.clientOrderId 0 = book.filled fill.clientOrderId) :
    (¬ Sellable book fill ∧ ∃ e, reserveSellOf host state fill = .error e) ∨
      (Sellable book fill ∧ ∃ next, reserveSellOf host state fill = .ok next ∧ Reserved calendar book fill state.ledger next) := by
  by_cases hplan : fill.substitutionPlan = .none
  · exact reserveSellOf_plain hfill h hsound hplan
  · exact reserveSellOf_planned hfill h hsound hfilled hplan

end QuantX
