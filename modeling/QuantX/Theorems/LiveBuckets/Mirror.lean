import QuantX.Theorems.LiveBuckets.Plan

/-! # The ledger mirrors the book

Between two fills of a replay nothing is frozen and no order is pending, so the volumes of the ledger are those of the book. -/

namespace QuantX.BucketLedger
open Lib

variable {ledger next last : BucketLedger} {code : String} {bucket : Bucket}

/-! ## What an operation on one instrument leaves alone -/

def knows (ledger : BucketLedger) (code : String) : Prop := (ledger.buckets.get? code).isSome = true

structure Touches (ledger next : BucketLedger) (code : String) : Prop where
  date : next.lastSettlementDate = ledger.lastSettlementDate
  others : ∀ code', code' ≠ code → next.buckets.get? code' = ledger.buckets.get? code'

theorem Touches.refl : Touches ledger ledger code := ⟨rfl, fun _ _ => rfl⟩

theorem Touches.trans (h : Touches ledger next code) (h' : Touches next last code) : Touches ledger last code :=
  ⟨h'.date.trans h.date, fun code' hcode => (h'.others code' hcode).trans (h.others code' hcode)⟩

theorem Touches.of_buckets (hdate : next.lastSettlementDate = ledger.lastSettlementDate) (hbuckets : next.buckets = ledger.buckets) :
    Touches ledger next code := ⟨hdate, fun _ _ => by rw [hbuckets]⟩

theorem ensureInstrument_touches (ledger : BucketLedger) (code : String) : Touches ledger (ledger.ensureInstrument code) code :=
  ⟨rfl, fun _ hcode => Dict.get?_set_ne _ _ hcode.symm⟩

theorem modifyBucket_touches (ledger : BucketLedger) (code : String) (bucket : Bucket)
    (change : BucketPositionState → BucketPositionState) : Touches ledger (ledger.modifyBucket code bucket change) code :=
  (ledger.ensureInstrument_touches code).trans ⟨rfl, fun _ hcode => Dict.get?_set_ne _ _ hcode.symm⟩

theorem freezeLegs_touches (ledger : BucketLedger) (code : String) (legs : List ReservedLeg) :
    Touches ledger (ledger.freezeLegs code legs) code := by
  induction legs generalizing ledger with
  | nil => exact .refl
  | cons leg legs ih => exact (ledger.modifyBucket_touches code leg.bucket _).trans (ih _)

theorem consumeLegs_touches (ledger : BucketLedger) (code : String) (legs : List ReservedLeg) (volume : Int) :
    Touches ledger (ledger.consumeLegs code legs volume).1 code := by
  induction legs generalizing ledger volume with
  | nil => exact .refl
  | cons leg legs ih =>
    rw [consumeLegs]
    split
    · exact .refl
    · split
      · exact ih ledger volume
      · exact (ledger.modifyBucket_touches code leg.bucket _).trans (ih _ _)

theorem instrumentSnapshot_touches (ledger : BucketLedger) (code : String) :
    Touches ledger (ledger.instrumentSnapshot code).1 code := by
  unfold instrumentSnapshot
  split
  · exact .refl
  · exact (ledger.ensureInstrument_touches code).trans ⟨rfl, fun _ hcode => Dict.get?_set_ne _ _ hcode.symm⟩

theorem knows_instrumentSnapshot (hcode : code ≠ "") : (ledger.instrumentSnapshot code).1.knows code := by
  rw [instrumentSnapshot, if_neg hcode, knows]
  simp

theorem reserveSell_touches {call : ReserveCall} (hsell : call.orderType = .sell) (ledger : BucketLedger)
    (plan : Option SubstitutionPlan) : Touches ledger (ledger.reserveSell call plan).1 call.instrumentCode := by
  rcases ledger.reserveSell_cases call plan hsell with ⟨-, h⟩ | ⟨-, h⟩
  · rw [h]
    exact .refl
  · rw [h]
    exact (ledger.freezeLegs_touches call.instrumentCode (orderLegs call plan)).trans (.of_buckets rfl rfl)

theorem reserveOrder_touches (ledger : BucketLedger) (uuid4 now : String) (call : ReserveCall) (hsell : call.orderType = .sell) :
    Touches ledger (ledger.reserveOrder uuid4 now call).1 call.instrumentCode := by
  have hstart := ledger.ensureInstrument_touches call.instrumentCode
  unfold reserveOrder
  split
  · exact .refl
  · split
    · exact .refl
    · dsimp only
      split
      · exact hstart
      · rename_i plan hread
        have hreserve := hstart.trans (reserveSell_touches hsell (ledger.ensureInstrument call.instrumentCode) plan)
        split
        · exact hreserve
        · exact hreserve.trans (.of_buckets rfl rfl)

theorem consumePending_touches (ledger : BucketLedger) (orderId : String) (volume : Int) :
    Touches ledger (ledger.consumePending orderId volume) code := by
  refine .of_buckets ?_ (consumePending_buckets orderId volume)
  unfold consumePending
  split
  · rfl
  · split
    · rfl
    · dsimp only
      split <;> rfl

theorem applyBucketSell_touches (ledger : BucketLedger) (orderId code : String) (bucket : Bucket) (volume : Int) :
    Touches ledger (ledger.applyBucketSell orderId code bucket volume).1 code := by
  have hrest : ∀ (ledger' : BucketLedger) (remaining : Int) (events : List LedgerEvent), Touches ledger ledger' code →
      Touches ledger (if 0 < remaining then
        (ledger'.modifyBucket code bucket (·.sellUnreserved (min remaining (ledger'.state code bucket).totalVolume)),
          events ++ [LedgerEvent.bucketSellUnreserved bucket (min remaining (ledger'.state code bucket).totalVolume)])
        else (ledger', events)).1 code := by
    intro ledger' remaining events h
    split <;> dsimp only
    · exact h.trans (ledger'.modifyBucket_touches code bucket _)
    · exact h
  unfold applyBucketSell
  cases hget : ledger.pendingOrders.get? orderId with
  | none => exact hrest ledger volume [] .refl
  | some order => exact hrest _ _ _ ((ledger.consumeLegs_touches code order.reservedLegs volume).trans (.of_buckets rfl rfl))

theorem applySubstitutionReattribute_touches (ledger : BucketLedger) (orderId code : String) (plan : SubstitutionPlan)
    (volume : Int) (price : Rat) :
    Touches ledger (ledger.applySubstitutionReattribute orderId code plan volume price).1 code := by
  rw [applySubstitutionReattribute_eq]
  have hstart := ledger.ensureInstrument_touches code
  have hover : Touches ledger (ledger.handOver code plan volume price).1 code := by
    unfold handOver
    dsimp only
    split <;> dsimp only
    · exact (hstart.trans (modifyBucket_touches _ _ _ _)).trans (modifyBucket_touches _ _ _ _)
    · exact hstart
  exact hover.trans (.of_buckets rfl rfl)

theorem bookTrade_touches (ledger : BucketLedger) (event : LedgerTrade) (bucket : Bucket) :
    Touches ledger (ledger.bookTrade event bucket).1 event.instrumentCode := by
  unfold bookTrade
  split <;> dsimp only
  · exact ledger.modifyBucket_touches _ _ _
  · exact ledger.modifyBucket_touches _ _ _
  · have hsell := ledger.applyBucketSell_touches event.orderId event.instrumentCode bucket event.volume
    split
    · exact hsell
    · exact hsell.trans (applySubstitutionReattribute_touches _ _ _ _ _ _)
  · exact .refl

theorem applyTrade_touches (ledger : BucketLedger) (event : LedgerTrade) (metadata : Dict String PyVal) :
    Touches ledger (ledger.applyTrade event metadata).1 event.instrumentCode := by
  unfold applyTrade
  split
  · exact .refl
  · split
    · exact .refl
    · exact ((ledger.bookTrade_touches event _).trans (consumePending_touches _ _ _)).trans (instrumentSnapshot_touches _ _)

theorem knows_applyTrade {event : LedgerTrade} {metadata : Dict String PyVal} (hcode : event.instrumentCode ≠ "")
    (hvolume : 0 < event.volume) : (ledger.applyTrade event metadata).1.knows event.instrumentCode := by
  simp only [applyTrade, if_neg hcode, if_neg (not_le.mpr hvolume)]
  exact knows_instrumentSnapshot hcode

end QuantX.BucketLedger

namespace QuantX
open Lib BucketLedger

structure Mirrors (calendar : ExchangeCalendar) (ledger : BucketLedger) (book : Book) : Prop where
  volumes : ∀ code bucket, ledger.volumes code bucket =
    ⟨book.total code bucket, book.settled code bucket, book.today code bucket, 0⟩
  orders : ledger.pendingOrders = Dict.empty
  plans : ledger.pendingSubstitutions = Dict.empty
  date : ledger.lastSettlementDate = some (calendar.isoformat book.day)

def entryOf (fill : LiveAttributedFill) : Entry where
  orderId := fill.clientOrderId
  code := fill.instrumentCode
  instant := fill.occurredAt
  volume := fill.volume.toNat
  move := (moveOf fill).getD (.buy .core)

variable {calendar : ExchangeCalendar} {ledger next : BucketLedger} {book : Book} {code : String} {fill : LiveAttributedFill}
  {metadata : Dict String PyVal} {plan : Option SubstitutionPlan} {fields : Option (List (String × PyVal))} {uuid4 now : String}

theorem Mirrors.soundAt (h : Mirrors calendar ledger book) (hsound : book.Sound) (code : String) : ledger.SoundAt code := by
  intro bucket
  rw [h.volumes]
  exact ⟨hsound.settled code bucket, hsound.today code bucket, le_rfl, by simp [Book.total]⟩

theorem Mirrors.snapshot (h : Mirrors calendar ledger book) (hsound : book.Sound) : Mirrors calendar ledger.snapshot book where
  volumes code bucket := by
    rw [BucketLedger.volumes, @state_map ledger _ _ normalize_new rfl, BucketPositionState.normalize_volumes]
    · exact h.volumes code bucket
    · exact (h.soundAt hsound code bucket).normal
  orders := h.orders
  plans := h.plans
  date := h.date

theorem Mirrors.settle (h : Mirrors calendar ledger book) (hsound : book.Sound) {day : Int} (hday : day ≠ book.day) :
    Mirrors calendar (ledger.settleTradingDay (calendar.isoformat day)) (book.advance day) := by
  have hdate : ledger.lastSettlementDate ≠ some (calendar.isoformat day) := by
    rw [h.date]
    exact fun hsame => hday (calendar.isoformat_injective (Option.some.inj hsame)).symm
  refine ⟨fun code bucket => ?_, ?_, ?_, ?_⟩
  · rw [BucketLedger.volumes, state_settleTradingDay_new hdate, BucketPositionState.settle_volumes (h.soundAt hsound code bucket)]
    have hvolumes := h.volumes code bucket
    rw [BucketLedger.volumes] at hvolumes
    rw [hvolumes, Book.total_advance, Book.advance, if_pos hday]
    simp [Volumes.settle, Book.total]
  · rw [pendingOrders_settleTradingDay, h.orders]
  · rw [settleTradingDay, if_neg hdate]
    exact h.plans
  · rw [settleTradingDay, if_neg hdate, Book.advance_day]

theorem tradeBucket_named (ledger : BucketLedger) (orderId : String) {name : String} (hname : name ≠ "") :
    ledger.tradeBucket orderId (Dict.empty.set "bucket" (.str name)) = normalizeBucket name := by
  have hget : (((ledger.pendingOrders.get? orderId).map (·.metadata)).getD Dict.empty |>.update
      (Dict.empty.set "bucket" (PyVal.str name)).entries).get? "bucket" = some (.str name) := by
    rw [Dict.get?_update, Dict.get?_set_self]
    rfl
  unfold tradeBucket
  simp only [hget]
  simp [normalizeBucketValue, PyVal.orText, hname]

theorem volumes_apply (h : Mirrors calendar ledger book) (e : Entry) (bucket : Bucket) :
    (⟨(book.apply e).total e.code bucket, (book.apply e).settled e.code bucket, (book.apply e).today e.code bucket, 0⟩ : Volumes) =
      (((ledger.volumes e.code bucket).freeze (book.sold e bucket)).sell (book.sold e bucket)).buy (e.brings bucket) := by
  rw [h.volumes, Book.total_apply]
  ext <;> simp only [Book.apply, if_true, Volumes.freeze, Volumes.sell, Volumes.buy] <;> omega

theorem Mirrors.booked (h : Mirrors calendar ledger book) (e : Entry) {change : Bucket → Volumes → Volumes}
    (hbooked : Booked ledger next e.code change)
    (hchange : ∀ bucket, change bucket (ledger.volumes e.code bucket) =
      (((ledger.volumes e.code bucket).freeze (book.sold e bucket)).sell (book.sold e bucket)).buy (e.brings bucket))
    (horders : next.pendingOrders = Dict.empty) (hplans : next.pendingSubstitutions = Dict.empty)
    (hdate : next.lastSettlementDate = ledger.lastSettlementDate) : Mirrors calendar next (book.apply e) where
  volumes code bucket := by
    by_cases hcode : code = e.code
    · subst hcode
      rw [hbooked.own, hchange, volumes_apply h]
    · rw [BucketLedger.volumes, hbooked.others code hcode, ← BucketLedger.volumes, h.volumes, Book.total_apply]
      simp [Book.apply, hcode]
  orders := horders
  plans := hplans
  date := hdate.trans h.date

theorem sold_buy {e : Entry} (h : e.move.isBuy = true) (bucket : Bucket) : book.sold e bucket = 0 := by
  cases hmove : e.move <;> simp_all [Move.isBuy, Book.sold, Move.taken]

theorem applyTrade_buy_orders {event : LedgerTrade} (metadata : Dict String PyVal) (hside : event.tradeType = .buy) (horders : ledger.pendingOrders = Dict.empty)
    (hplans : ledger.pendingSubstitutions = Dict.empty) :
    (ledger.applyTrade event metadata).1.pendingOrders = Dict.empty ∧
      (ledger.applyTrade event metadata).1.pendingSubstitutions = Dict.empty := by
  unfold applyTrade
  split
  · exact ⟨horders, hplans⟩
  · split
    · exact ⟨horders, hplans⟩
    · dsimp only
      rw [instrumentSnapshot_buckets]
      have hnone : (ledger.bookTrade event (ledger.tradeBucket event.orderId metadata)).1.pendingOrders = Dict.empty := by
        rw [bookTrade, hside]
        exact horders
      rw [consumePending, hnone]
      refine ⟨hnone, ?_⟩
      rw [bookTrade, hside]
      exact hplans

theorem Mirrors.buy (h : Mirrors calendar ledger book) (hsound : book.Sound) (hbuy : fill.side = "BUY") (hvolume : 0 < fill.volume)
    (hcode : fill.instrumentCode ≠ "") (hname : fill.bucket ≠ "") :
    Mirrors calendar (ledger.applyTrade (tradeOf fill) (Dict.empty.set "bucket" (.str fill.bucket))).1 (book.apply (entryOf fill)) := by
  have hside : (tradeOf fill).tradeType = .buy := if_pos hbuy
  have hmove : (entryOf fill).move = .buy (normalizeBucket fill.bucket) := by simp [entryOf, moveOf, hbuy]
  have htouches := ledger.applyTrade_touches (tradeOf fill) (Dict.empty.set "bucket" (.str fill.bucket))
  obtain ⟨hbooked, -⟩ := @applyTrade_bought ledger (tradeOf fill) (Dict.empty.set "bucket" (.str fill.bucket)) hcode
    hvolume (by rw [hside]; decide) (h.soundAt hsound _).normalAt
  obtain ⟨horders, hplans⟩ := applyTrade_buy_orders (Dict.empty.set "bucket" (.str fill.bucket)) hside h.orders h.plans
  refine h.booked (entryOf fill) hbooked (fun bucket => ?_) horders hplans htouches.date
  rw [sold_buy (by rw [hmove]; rfl), Volumes.freeze_zero, Volumes.sell_zero, tradeBucket_named _ _ hname]
  simp only [boughtIn, hside, Entry.brings, hmove, Move.entering]
  have hn : ((entryOf fill).volume : Int) = fill.volume := Int.toNat_of_nonneg hvolume.le
  rw [hn]
  split
  · rename_i hsame
    simp only [if_pos hsame.2, mul_one]
    rfl
  · rename_i hsame
    simp only [if_neg (fun hb => hsame ⟨by decide, hb⟩), mul_zero, Volumes.buy_zero]

/-! ## Sells -/

theorem remaining_le_heldIn {legs : List ReservedLeg} (h : LegsOk legs) {leg : ReservedLeg} (hmem : leg ∈ legs) :
    leg.remainingVolume ≤ heldIn leg.bucket legs := by
  induction legs with
  | nil => cases hmem
  | cons head legs ih =>
    have hrest : 0 ≤ heldIn leg.bucket legs := heldIn_nonneg h.tail
    have hhead := h.head
    rw [heldIn_cons]
    rcases List.mem_cons.mp hmem with rfl | hmem
    · rw [if_pos rfl]
      omega
    · have hfits := ih h.tail hmem
      split <;> omega

/-- A sell whose legs are those of the entry. A plan also hands today's purchases over, which have to be there. -/
structure SellShape (book : Book) (fill : LiveAttributedFill) (fields : Option (List (String × PyVal)))
    (plan : Option SubstitutionPlan) : Prop where
  nodup : ((orderLegs (sellCall fill fields) plan).map (·.bucket)).Nodup
  total : heldTotal (orderLegs (sellCall fill fields) plan) = fill.volume
  sold : ∀ bucket, heldIn bucket (orderLegs (sellCall fill fields) plan) = book.sold (entryOf fill) bucket
  plain : plan = none → normalizeBucket fill.bucket ≠ .lockedCore ∧ ∀ bucket, (entryOf fill).brings bucket = 0
  planned : ∀ p, plan = some p → p.enabled = true ∧ p.volume = fill.volume ∧ p.appliedVolume = 0 ∧
    p.orderId = fill.clientOrderId ∧ (∀ bucket, (entryOf fill).brings bucket =
      (if normalizeBucket p.reattributeBuyToBucket = bucket then fill.volume else 0) -
        if normalizeBucket p.requestedBucket = bucket then fill.volume else 0) ∧
    (normalizeBucket p.requestedBucket ≠ normalizeBucket p.reattributeBuyToBucket →
      fill.volume ≤ book.today fill.instrumentCode (normalizeBucket p.requestedBucket))

theorem SellShape.grantable_iff (h : SellShape book fill fields plan) (hvolume : 0 < fill.volume)
    (hmirrors : Mirrors calendar ledger book) (hsound : book.Sound) : ledger.Grantable (sellCall fill fields) plan ↔
      ∀ bucket, book.sold (entryOf fill) bucket ≤ book.settled fill.instrumentCode bucket := by
  have hlegs : ∀ leg ∈ orderLegs (sellCall fill fields) plan, 0 < leg.volume ∧ leg.remainingVolume = leg.volume :=
    orderLegs_ok hvolume plan
  have hlegsOk : LegsOk (orderLegs (sellCall fill fields) plan) := orderLegs_legsOk hvolume plan
  have havailable : ∀ bucket, (ledger.state fill.instrumentCode bucket).availableVolume = book.settled fill.instrumentCode bucket :=
    fun bucket => congrArg Volumes.available (hmirrors.volumes fill.instrumentCode bucket)
  constructor
  · intro hgrant bucket
    rw [← h.sold]
    refine heldIn_le_of_nodup (hsound.settled fill.instrumentCode) h.nodup (fun leg hleg => ?_) bucket
    rw [(hlegs leg hleg).2, ← havailable]
    exact hgrant.covered leg hleg
  · intro hcovers
    refine ⟨fun leg hleg => ?_, fun _ hnil => ?_, fun _ hplain => ?_⟩
    · have hheld := remaining_le_heldIn hlegsOk hleg
      have hbucket := hcovers leg.bucket
      rw [← h.sold] at hbucket
      rw [(hlegs leg hleg).2] at hheld
      exact (hheld.trans hbucket).trans_eq (havailable leg.bucket).symm
    · have htotal := h.total
      rw [hnil] at htotal
      exact absurd htotal (by simpa [heldTotal] using (ne_of_gt hvolume).symm)
    · cases plan with
      | none => exact (h.plain rfl).1
      | some p => simp [Option.filter, (h.planned p rfl).1] at hplain

theorem erase_set_set_empty {α : Type} (k : String) (v w : α) : ((Dict.empty.set k v).set k w).erase k = Dict.empty := by
  apply Dict.ext
  simp [Dict.set, Dict.erase, Dict.put, Dict.drop, Dict.empty]

theorem Mirrors.filled (h : Mirrors calendar ledger book) (hsound : book.Sound) (hshape : SellShape book fill fields plan)
    (hsell : fill.side = "SELL") (hread : Readable uuid4 (sellCall fill fields) plan)
    (hgranted : Granted ledger now (sellCall fill fields) plan next)
    (hdate : next.lastSettlementDate = ledger.lastSettlementDate) :
    Mirrors calendar (next.applyTrade (tradeOf fill) metadata).1 (book.apply (entryOf fill)) := by
  have hvolume : 0 < fill.volume := hread.volume
  have hcovers := (hshape.grantable_iff hvolume h hsound).mp hgranted.grantable
  have hlegsOk : LegsOk (orderLegs (sellCall fill fields) plan) := orderLegs_legsOk hvolume plan
  have hstart := h.soundAt hsound fill.instrumentCode
  have hfit : ledger.LegsFit fill.instrumentCode (orderLegs (sellCall fill fields) plan) := by
    intro bucket
    rw [hshape.sold]
    exact (hcovers bucket).trans_eq (congrArg Volumes.available (h.volumes fill.instrumentCode bucket)).symm
  obtain ⟨hreserved, -⟩ := hgranted.booked hread hstart.normalAt hfit
  have hnext : next.SoundAt fill.instrumentCode := by
    refine hreserved.soundAt fun bucket => (hstart bucket).freeze ?_ (hfit bucket)
    have hheld : 0 ≤ heldIn bucket (orderLegs (sellCall fill fields) plan) := heldIn_nonneg hlegsOk
    have hfrozen := (hstart bucket).frozen
    omega
  have hget : next.pendingOrders.get? (tradeOf fill).orderId =
      some (pendingOf (sellCall fill fields) now plan (orderLegs (sellCall fill fields) plan)) := by
    rw [hgranted.pendingOrders]
    exact Dict.get?_set_self _ _ _
  have hside : (tradeOf fill).tradeType = .sell := by simp [tradeOf, hsell]
  obtain ⟨left, hfilled⟩ := applyTrade_filled (tradeOf fill) metadata hread.named hread.coded hvolume hside hget hnext hlegsOk
    hshape.total.ge fun bucket => by
      have hfrozen := (hstart bucket).frozen
      rw [show (tradeOf fill).instrumentCode = (sellCall fill fields).instrumentCode from rfl, hreserved.own]
      simp only [pendingOf, Volumes.freeze]
      show heldIn bucket (orderLegs (sellCall fill fields) plan) ≤ (ledger.volumes fill.instrumentCode bucket).frozen + _
      omega
  -- The fill takes all that the legs hold.
  have hleft : heldTotal left = 0 := by
    rw [hfilled.total]
    exact sub_eq_zero.mpr hshape.total
  have hsold : ∀ bucket, soldFrom bucket (next.applyTrade (tradeOf fill) metadata).2.events = book.sold (entryOf fill) bucket := by
    intro bucket
    have hall := hfilled.sold bucket
    rw [heldIn_eq_zero hfilled.legsOk hleft, zero_add] at hall
    rw [← hall]
    exact hshape.sold bucket
  have hplans : next.pendingSubstitutions = plansAfter Dict.empty (sellCall fill fields) plan := by rw [hgranted.plans, h.plans]
  have htoday : ∀ bucket, (next.volumes fill.instrumentCode bucket).todayBuy = book.today fill.instrumentCode bucket := by
    intro bucket
    have hvolumes := h.volumes fill.instrumentCode bucket
    have hown := hreserved.own bucket
    rw [show (sellCall fill fields).instrumentCode = fill.instrumentCode from rfl, hvolumes] at hown
    rw [hown, Volumes.freeze]
  have hrest : (∀ bucket, handedTo bucket (next.applyTrade (tradeOf fill) metadata).2.events = (entryOf fill).brings bucket) ∧
      (next.applyTrade (tradeOf fill) metadata).1.pendingSubstitutions = Dict.empty := by
    cases plan with
    | none =>
      have hnone : next.pendingSubstitutions = Dict.empty := by rw [hplans]; rfl
      refine ⟨fun bucket => ?_, ?_⟩
      · rw [hfilled.handed, hnone, (hshape.plain rfl).2]
        rfl
      · rw [hfilled.plans, hnone]
        rfl
    | some p =>
      obtain ⟨henabled, hplanned, happlied, horder, hbrings, htodayOk⟩ := hshape.planned p rfl
      have hone : next.pendingSubstitutions = Dict.empty.set fill.clientOrderId { p with status := .reserved } := by
        rw [hplans]
        simp [plansAfter, Option.filter, henabled, sellCall]
      have hstored : next.pendingSubstitutions.get? (tradeOf fill).orderId = some { p with status := .reserved } := by
        rw [hone]
        exact Dict.get?_set_self _ _ _
      refine ⟨fun bucket => ?_, ?_⟩
      · rw [hfilled.handed, hstored, hbrings]
        simp only [Option.map_some, Option.getD_some, handed]
        rw [show (tradeOf fill).instrumentCode = fill.instrumentCode from rfl, htoday,
          show (tradeOf fill).volume = fill.volume from rfl]
        by_cases hsame : normalizeBucket p.requestedBucket = normalizeBucket p.reattributeBuyToBucket
        · rw [hsame, sub_self, sub_self]
        · rw [min_eq_left (htodayOk hsame)]
      · rw [hfilled.plans, hstored, hone]
        simp only [Option.map_some, Option.getD_some, plansFilled]
        rw [if_pos (by rw [happlied, hplanned]; simp [tradeOf]), show (tradeOf fill).orderId = fill.clientOrderId from rfl, horder]
        exact erase_set_set_empty _ _ _
  refine h.booked (entryOf fill) (hreserved.trans hfilled.booked) (fun bucket => ?_) ?_ hrest.2 ?_
  · simp only [hsold, hrest.1]
    rw [hshape.sold]
  · rw [hfilled.pendingOrders, ordersFilled, if_pos (by exact le_rfl), hgranted.pendingOrders, h.orders]
    exact erase_set_set_empty _ _ _
  · exact (next.applyTrade_touches (tradeOf fill) metadata).date.trans hdate

end QuantX
