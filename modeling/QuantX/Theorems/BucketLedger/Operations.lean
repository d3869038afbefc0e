import QuantX.Theorems.BucketLedger.Volumes

namespace QuantX.BucketLedger
open Lib
variable {ledger next : BucketLedger} {code orderId : String} {order : PendingOrder}
variable {volume : Int}

def LegsFit (ledger : BucketLedger) (code : String) (legs : List ReservedLeg) : Prop :=
  ∀ bucket, heldIn bucket legs ≤ (ledger.state code bucket).availableVolume

theorem Booked.normalAt (h : Booked ledger next code fun _ v => v) (hnormal : ledger.NormalAt code) : next.NormalAt code :=
  fun bucket => h.own bucket ▸ hnormal bucket

theorem ensureInstrument_volumes (code code' : String) (bucket : Bucket) :
    (ledger.ensureInstrument code).volumes code' bucket = ledger.volumes code' bucket := by
  rw [volumes, state_ensureInstrument, volumes]

theorem Granted.booked {uuid4 now : String} {call : ReserveCall} {plan : Option SubstitutionPlan}
    (h : Granted ledger now call plan next) (hread : Readable uuid4 call plan) (hnormal : ledger.NormalAt call.instrumentCode)
    (hfit : ledger.LegsFit call.instrumentCode (orderLegs call plan)) :
    Booked ledger next call.instrumentCode (fun bucket v => v.freeze (heldIn bucket (orderLegs call plan))) ∧
      next.NormalAt call.instrumentCode := by
  have hstart := ledger.ensureInstrument_booked call.instrumentCode
  obtain ⟨hfreeze, hfrozen⟩ := freezeLegs_booked (hstart.normalAt hnormal) (orderLegs_ok hread.volume plan)
    fun bucket => by rw [ensureInstrument_volumes]; exact hfit bucket
  have hstored := Booked.of_buckets call.instrumentCode h.buckets
  exact ⟨(hstart.trans hfreeze).trans hstored, hstored.normalAt hfrozen⟩

theorem releaseLegs_buckets (code reason : String) (legs : List ReservedLeg) :
    (ledger.releaseLegs code reason legs).1 = { ledger with buckets := (ledger.releaseLegs code reason legs).1.buckets } := by
  induction legs generalizing ledger with
  | nil => rfl
  | cons leg legs ih =>
    rw [releaseLegs]
    split
    · exact ih
    · exact ih

theorem instrumentSnapshot_buckets (code : String) :
    (ledger.instrumentSnapshot code).1 = { ledger with buckets := (ledger.instrumentSnapshot code).1.buckets } := by
  unfold instrumentSnapshot
  split <;> rfl

structure RolledBack (ledger : BucketLedger) (orderId : String) (order : PendingOrder) (next : BucketLedger) : Prop where
  pendingOrders : next.pendingOrders = ledger.pendingOrders.erase orderId
  booked : Booked ledger next order.instrumentCode fun bucket v => v.freeze (-heldIn bucket order.reservedLegs)
  normal : next.NormalAt order.instrumentCode

theorem rollbackOrder_rolledBack (reason : String) (hget : ledger.pendingOrders.get? orderId = some order)
    (hnormal : ledger.NormalAt order.instrumentCode) (hlegs : LegsOk order.reservedLegs)
    (hfrozen : ∀ bucket, heldIn bucket order.reservedLegs ≤ (ledger.volumes order.instrumentCode bucket).frozen)
    (hbacked : ledger.BackedFor order.instrumentCode order.reservedLegs) :
    RolledBack ledger orderId order (ledger.rollbackOrder orderId reason).1 := by
  simp only [rollbackOrder, hget]
  have htaken : Booked ledger { ledger with pendingOrders := ledger.pendingOrders.erase orderId } order.instrumentCode
    fun _ v => v := .of_buckets _ rfl
  obtain ⟨hrelease, hreleased⟩ := releaseLegs_booked reason (htaken.normalAt hnormal) hlegs hfrozen hbacked
  have hpending : (releaseLegs { ledger with pendingOrders := ledger.pendingOrders.erase orderId } order.instrumentCode
      reason order.reservedLegs).1.pendingOrders = ledger.pendingOrders.erase orderId := by
    rw [releaseLegs_buckets]
  have hdone := htaken.trans hrelease
  revert hreleased hpending hdone
  generalize (releaseLegs { ledger with pendingOrders := ledger.pendingOrders.erase orderId } order.instrumentCode
      reason order.reservedLegs) = result
  obtain ⟨released, events⟩ := result
  intro hreleased hpending hdone
  split
  · have hsnapshot := instrumentSnapshot_booked hreleased
    exact ⟨by simpa using hpending, hdone.trans hsnapshot, hsnapshot.normalAt hreleased⟩
  · rename_i plan hplan
    have hplans : Booked released { released with pendingSubstitutions := released.pendingSubstitutions.erase orderId }
      order.instrumentCode fun _ v => v := .of_buckets _ rfl
    have hsnapshot := instrumentSnapshot_booked (hplans.normalAt hreleased)
    exact ⟨by simpa using hpending, (hdone.trans hplans).trans hsnapshot, hsnapshot.normalAt (hplans.normalAt hreleased)⟩

def movable (ledger : BucketLedger) (code : String) (plan : SubstitutionPlan) (volume : Int) : Int :=
  min (min volume (ledger.volumes code (normalizeBucket plan.requestedBucket)).todayBuy)
    (ledger.volumes code (normalizeBucket plan.requestedBucket)).total

def handOver (ledger : BucketLedger) (code : String) (plan : SubstitutionPlan) (volume : Int) (price : Rat) :
    BucketLedger × List LedgerEvent :=
  let requested := normalizeBucket plan.requestedBucket
  let target := normalizeBucket plan.reattributeBuyToBucket
  let n := ledger.movable code plan volume
  if 0 < n ∧ requested ≠ target then
    (((ledger.ensureInstrument code).modifyBucket code requested (·.giveTodayBuy n)).modifyBucket code target
        (·.applyBucketBuy n price), [.substitutionReattributed requested target n])
  else (ledger.ensureInstrument code, [])

/-- The plans after a fill: a plan that is applied in full leaves. -/
def plansFilled (plans : Dict String SubstitutionPlan) (orderId : String) (plan : SubstitutionPlan) (volume : Int) :
    Dict String SubstitutionPlan :=
  let appliedVolume := plan.appliedVolume + volume
  if max plan.volume volume ≤ appliedVolume then
    (plans.set orderId { plan with appliedVolume, status := .applied }).erase plan.orderId
  else plans.set orderId { plan with appliedVolume, status := .partialApplied }

theorem applySubstitutionReattribute_eq (orderId code : String) (plan : SubstitutionPlan) (volume : Int) (price : Rat) :
    ledger.applySubstitutionReattribute orderId code plan volume price =
      ({ (ledger.handOver code plan volume price).1 with
          pendingSubstitutions := plansFilled ledger.pendingSubstitutions orderId plan volume },
        (ledger.handOver code plan volume price).2) := by
  have hmovable : min (min volume ((ledger.ensureInstrument code).state code (normalizeBucket plan.requestedBucket)).todayBuyVolume)
      ((ledger.ensureInstrument code).state code (normalizeBucket plan.requestedBucket)).totalVolume =
      ledger.movable code plan volume := by
    rw [state_ensureInstrument]
    rfl
  simp only [applySubstitutionReattribute, hmovable, handOver, plansFilled]
  by_cases hmove : 0 < ledger.movable code plan volume ∧
      normalizeBucket plan.requestedBucket ≠ normalizeBucket plan.reattributeBuyToBucket
  · simp only [if_pos hmove]
    split <;> rfl
  · simp only [if_neg hmove]
    split <;> rfl

/-- What a fill of `volume` hands to a bucket under a plan: today's purchases of the requested bucket, as
    far as they go. -/
def handed (ledger : BucketLedger) (code : String) (plan : SubstitutionPlan) (volume : Int) (bucket : Bucket) : Int :=
  let n := min volume (ledger.volumes code (normalizeBucket plan.requestedBucket)).todayBuy
  (if normalizeBucket plan.reattributeBuyToBucket = bucket then n else 0) -
    if normalizeBucket plan.requestedBucket = bucket then n else 0

structure HandedOver (ledger : BucketLedger) (code : String) (plan : SubstitutionPlan) (volume : Int)
    (result : BucketLedger × List LedgerEvent) : Prop where
  pendingOrders : result.1.pendingOrders = ledger.pendingOrders
  sold : ∀ bucket, soldFrom bucket result.2 = 0
  handed : ∀ bucket, handedTo bucket result.2 = ledger.handed code plan volume bucket
  booked : Booked ledger result.1 code fun bucket v => v.buy (handedTo bucket result.2)
  sound : result.1.SoundAt code

theorem Booked.soundAt {change : Bucket → Volumes → Volumes} (h : Booked ledger next code change)
    (hsound : ∀ bucket, (change bucket (ledger.volumes code bucket)).Sound) : next.SoundAt code :=
  fun bucket => h.own bucket ▸ hsound bucket

theorem movable_eq (plan : SubstitutionPlan) (volume : Int) (hsound : ledger.SoundAt code) :
    ledger.movable code plan volume =
      min volume (ledger.volumes code (normalizeBucket plan.requestedBucket)).todayBuy := by
  obtain ⟨havailable, htoday, hfrozen, hparts⟩ := hsound (normalizeBucket plan.requestedBucket)
  refine min_eq_left (le_trans (min_le_right _ _) ?_)
  omega

theorem giveBuy_booked {requested target : Bucket} {n : Int} (price : Rat) (hsound : ledger.SoundAt code)
    (hne : requested ≠ target) (hpos : 0 < n) (hn : n ≤ (ledger.volumes code requested).todayBuy) :
    Booked ledger ((ledger.modifyBucket code requested (·.giveTodayBuy n)).modifyBucket code target (·.applyBucketBuy n price))
      code fun bucket v => v.buy ((if target = bucket then n else 0) - if requested = bucket then n else 0) := by
  have hgive := modifyBucket_booked requested (·.giveTodayBuy n) (·.buy (-n))
    (BucketPositionState.giveTodayBuy_volumes (hsound requested) hn)
  have hnormal := modifyBucket_normalAt hsound.normalAt requested (·.giveTodayBuy n)
    fun state => BucketPositionState.normalize_normal _
  have htake := modifyBucket_booked target (·.applyBucketBuy n price) (·.buy n)
    (BucketPositionState.applyBucketBuy_volumes (hnormal target) hpos.le price)
  refine (hgive.trans htake).congr fun bucket => ?_
  by_cases htarget : target = bucket
  · subst htarget
    simp [hne]
  · by_cases hrequested : requested = bucket <;> simp [htarget, hrequested]

theorem handOver_handedOver (plan : SubstitutionPlan) (price : Rat) (hvolume : 0 ≤ volume)
    (hsound : ledger.SoundAt code) : HandedOver ledger code plan volume (ledger.handOver code plan volume price) := by
  have hstart := ledger.ensureInstrument_booked code
  simp only [handOver, movable_eq plan volume hsound]
  have hle := min_le_right volume (ledger.volumes code (normalizeBucket plan.requestedBucket)).todayBuy
  have hnonneg := le_min hvolume (hsound (normalizeBucket plan.requestedBucket)).todayBuy
  split
  · -- Today's purchases are handed over.
    rename_i hmove
    obtain ⟨hpos, hne⟩ := hmove
    have hensured : (ledger.ensureInstrument code).SoundAt code := hstart.soundAt hsound
    have hbooked := hstart.trans (giveBuy_booked price hensured hne hpos (by rwa [ensureInstrument_volumes]))
    refine ⟨rfl, fun bucket => by simp [LedgerEvent.soldFrom], fun bucket => by simp [LedgerEvent.handedTo, handed],
      hbooked.congr fun bucket => by simp [LedgerEvent.handedTo], hbooked.soundAt fun bucket => (hsound bucket).buy ?_⟩
    have htoday := (hsound bucket).todayBuy
    by_cases hrequested : normalizeBucket plan.requestedBucket = bucket
    · subst hrequested
      omega
    · simp only [if_neg hrequested]
      split <;> omega
  · -- There is nothing to hand over, or the two buckets are one.
    rename_i hstay
    refine ⟨rfl, fun bucket => rfl, fun bucket => ?_, hstart.congr fun bucket => by simp, hstart.soundAt hsound⟩
    unfold handed
    by_cases hsame : normalizeBucket plan.requestedBucket = normalizeBucket plan.reattributeBuyToBucket
    · rw [hsame]
      simp
    · have hzero : min volume (ledger.volumes code (normalizeBucket plan.requestedBucket)).todayBuy = 0 :=
        le_antisymm (not_lt.mp fun hpos => hstay ⟨hpos, hsame⟩) hnonneg
      rw [hzero]
      simp

def ordersFilled (orders : Dict String PendingOrder) (orderId : String) (order : PendingOrder) (legs : List ReservedLeg)
    (volume : Int) : Dict String PendingOrder :=
  let sold := orders.set orderId { order with reservedLegs := legs }
  if order.remainingVolume ≤ volume then sold.erase orderId
  else sold.set orderId { order with reservedLegs := legs, remainingVolume := order.remainingVolume - volume }

structure Filled (ledger : BucketLedger) (event : LedgerTrade) (order : PendingOrder) (legs : List ReservedLeg)
    (result : BucketLedger × BucketLedgerPatch) : Prop where
  legsOk : LegsOk legs
  total : heldTotal legs = heldTotal order.reservedLegs - event.volume
  buckets : legs.map (·.bucket) = order.reservedLegs.map (·.bucket)
  sold : ∀ bucket, heldIn bucket order.reservedLegs = heldIn bucket legs + soldFrom bucket result.2.events
  bound : ∀ bucket, 0 ≤ soldFrom bucket result.2.events
  handed : ∀ bucket, handedTo bucket result.2.events = ((ledger.pendingSubstitutions.get? event.orderId).map
    fun plan => ledger.handed event.instrumentCode plan event.volume bucket).getD 0
  plans : result.1.pendingSubstitutions = ((ledger.pendingSubstitutions.get? event.orderId).map
    fun plan => plansFilled ledger.pendingSubstitutions event.orderId plan event.volume).getD ledger.pendingSubstitutions
  pendingOrders : result.1.pendingOrders = ordersFilled ledger.pendingOrders event.orderId order legs event.volume
  booked : Booked ledger result.1 event.instrumentCode
    fun bucket v => (v.sell (soldFrom bucket result.2.events)).buy (handedTo bucket result.2.events)
  sound : result.1.SoundAt event.instrumentCode

theorem consumeLegs_buckets (code : String) (legs : List ReservedLeg) (volume : Int) :
    (ledger.consumeLegs code legs volume).1 = { ledger with buckets := (ledger.consumeLegs code legs volume).1.buckets } := by
  induction legs generalizing ledger volume with
  | nil => rfl
  | cons leg legs ih =>
    rw [consumeLegs]
    split
    · rfl
    · split
      · exact ih _
      · exact ih _

theorem applyBucketSell_sold (bucket : Bucket) (hget : ledger.pendingOrders.get? orderId = some order)
    (hsold : Sold ledger code order.reservedLegs volume (ledger.consumeLegs code order.reservedLegs volume)) :
    ledger.applyBucketSell orderId code bucket volume =
      ({ ledger with
          buckets := (ledger.consumeLegs code order.reservedLegs volume).1.buckets
          pendingOrders := ledger.pendingOrders.set orderId
            { order with reservedLegs := (ledger.consumeLegs code order.reservedLegs volume).2.1 } },
        (ledger.consumeLegs code order.reservedLegs volume).2.2.2) := by
  have hleft := hsold.left
  simp only [applyBucketSell, hget]
  rw [if_neg (by rw [hleft]; exact lt_irrefl 0), consumeLegs_buckets]

theorem consumePending_eq (hid : orderId ≠ "") (hget : ledger.pendingOrders.get? orderId = some order) :
    ledger.consumePending orderId volume =
      { ledger with
        pendingOrders := if order.remainingVolume ≤ volume then ledger.pendingOrders.erase orderId
          else ledger.pendingOrders.set orderId { order with remainingVolume := order.remainingVolume - volume } } := by
  simp only [consumePending, hget, if_neg hid]
  by_cases hdone : order.remainingVolume ≤ volume
  · rw [if_pos hdone, if_pos (by omega)]
  · rw [if_neg hdone, if_neg (by omega), max_eq_right (by omega)]

theorem counted_booked (volume : Int) (hid : orderId ≠ "") (hget : ledger.pendingOrders.get? orderId = some order)
    (hsound : ledger.SoundAt code) :
    Booked ledger ((ledger.consumePending orderId volume).instrumentSnapshot code).1 code fun _ v => v := by
  have hcount : Booked ledger (ledger.consumePending orderId volume) code fun _ v => v := by
    rw [consumePending_eq hid hget]
    exact .of_buckets code rfl
  exact hcount.trans (instrumentSnapshot_booked (hcount.normalAt hsound.normalAt))

theorem applyTrade_filled (event : LedgerTrade) (metadata : Dict String PyVal) (hid : event.orderId ≠ "")
    (hcode : event.instrumentCode ≠ "") (hvolume : 0 < event.volume) (hsell : event.tradeType = .sell)
    (hget : ledger.pendingOrders.get? event.orderId = some order) (hsound : ledger.SoundAt event.instrumentCode)
    (hlegs : LegsOk order.reservedLegs) (henough : event.volume ≤ heldTotal order.reservedLegs)
    (hfrozen : ∀ bucket, heldIn bucket order.reservedLegs ≤ (ledger.volumes event.instrumentCode bucket).frozen) :
    ∃ legs, Filled ledger event order legs (ledger.applyTrade event metadata) := by
  have hsold := consumeLegs_sold hsound.normalAt hlegs hvolume.le henough hfrozen hsound.backedFor
  have hsell' := applyBucketSell_sold (ledger.tradeBucket event.orderId metadata) hget hsold
  refine ⟨(ledger.consumeLegs event.instrumentCode order.reservedLegs event.volume).2.1, ?_⟩
  simp only [applyTrade, if_neg hcode, if_neg (not_le.mpr hvolume), bookTrade, hsell, hsell']
  generalize ledger.consumeLegs event.instrumentCode order.reservedLegs event.volume = consumed at hsold ⊢
  obtain ⟨next, legs, left, events⟩ := consumed
  obtain ⟨hlegs', htotal, -, hbuckets, hsoldIn, hbound, hhanded, hbooked, -⟩ := hsold
  dsimp only at hlegs' htotal hbuckets hsoldIn hbound hhanded hbooked ⊢
  generalize hsale : ({ ledger with
    buckets := next.buckets
    pendingOrders := ledger.pendingOrders.set event.orderId { order with reservedLegs := legs } } : BucketLedger) = sale
  have hbucketsSale : sale.buckets = next.buckets := by rw [← hsale]
  have hplansSale : sale.pendingSubstitutions = ledger.pendingSubstitutions := by rw [← hsale]
  have hordersSale : sale.pendingOrders = ledger.pendingOrders.set event.orderId { order with reservedLegs := legs } := by
    rw [← hsale]
  have hbookedSale := hbooked.trans (.of_buckets _ hbucketsSale)
  have hsoundSale : sale.SoundAt event.instrumentCode := hbookedSale.soundAt fun bucket => (hsound bucket).sell (by
    have hrest : 0 ≤ heldIn bucket legs := heldIn_nonneg hlegs'
    have hheld := hsoldIn bucket
    have hcover := hfrozen bucket
    omega)
  have hgetSale : sale.pendingOrders.get? event.orderId = some { order with reservedLegs := legs } := by
    rw [hordersSale, Dict.get?_set_self]
  cases hplan : ledger.pendingSubstitutions.get? event.orderId with
  | none =>
    have hcount := counted_booked event.volume hid hgetSale hsoundSale
    refine ⟨hlegs', htotal, hbuckets, hsoldIn, hbound, fun bucket => ?_, ?_, ?_, ?_, hcount.soundAt hsoundSale⟩
    · simp [hplan, hhanded]
    · rw [consumePending_eq hid hgetSale, instrumentSnapshot_buckets]
      simp [hplan, hplansSale]
    · rw [consumePending_eq hid hgetSale, instrumentSnapshot_buckets, hordersSale]
      rfl
    · exact (hbookedSale.trans hcount).congr fun bucket => by simp [hhanded]
  | some plan =>
    have hover := handOver_handedOver plan event.price hvolume.le hsoundSale
    have hsame : ∀ bucket, sale.handed event.instrumentCode plan event.volume bucket =
        ledger.handed event.instrumentCode plan event.volume bucket := by
      intro bucket
      unfold handed
      rw [hbookedSale.own]
      rfl
    dsimp only
    rw [applySubstitutionReattribute_eq]
    generalize sale.handOver event.instrumentCode plan event.volume event.price = given at hover ⊢
    obtain ⟨moved, more⟩ := given
    obtain ⟨hordersOver, hsoldOver, hhandedOver, hbookedOver, hsoundOver⟩ := hover
    generalize hdone : ({ moved with
      pendingSubstitutions := plansFilled sale.pendingSubstitutions event.orderId plan event.volume } : BucketLedger) = done
    have hplans : Booked moved done event.instrumentCode fun _ v => v := .of_buckets _ (by rw [← hdone])
    have hsoundDone := hplans.soundAt hsoundOver
    have hgetDone : done.pendingOrders.get? event.orderId = some { order with reservedLegs := legs } := by
      rw [← hdone]
      exact hordersOver ▸ hgetSale
    have hcount := counted_booked event.volume hid hgetDone hsoundDone
    refine ⟨hlegs', htotal, hbuckets, fun bucket => ?_, fun bucket => ?_, fun bucket => ?_, ?_, ?_, ?_,
      hcount.soundAt hsoundDone⟩
    · simpa [hsoldOver] using hsoldIn bucket
    · simpa [hsoldOver] using hbound bucket
    · simp [hplan, hhanded, hhandedOver, hsame]
    · rw [consumePending_eq hid hgetDone, instrumentSnapshot_buckets, ← hdone]
      simp [hplan, hplansSale]
    · rw [consumePending_eq hid hgetDone, instrumentSnapshot_buckets, ← hdone]
      rw [hordersOver, hordersSale]
      rfl
    · exact (((hbookedSale.trans hbookedOver).trans hplans).trans hcount).congr fun bucket => by simp [hhanded, hsoldOver]

theorem consumePending_buckets (orderId : String) (volume : Int) :
    (ledger.consumePending orderId volume).buckets = ledger.buckets := by
  unfold consumePending
  split
  · rfl
  · split
    · rfl
    · dsimp only
      split <;> rfl

def boughtIn (event : LedgerTrade) (bucket b : Bucket) (v : Volumes) : Volumes :=
  if event.tradeType ≠ .sellShort ∧ bucket = b then v.buy event.volume else v

theorem applyTrade_bought (event : LedgerTrade) (metadata : Dict String PyVal) (hcode : event.instrumentCode ≠ "")
    (hvolume : 0 < event.volume) (hside : event.tradeType ≠ .sell) (hnormal : ledger.NormalAt event.instrumentCode) :
    Booked ledger (ledger.applyTrade event metadata).1 event.instrumentCode
        (boughtIn event (ledger.tradeBucket event.orderId metadata)) ∧
      (ledger.applyTrade event metadata).1.pendingOrders =
        (ledger.consumePending event.orderId event.volume).pendingOrders := by
  simp only [applyTrade, if_neg hcode, if_neg (not_le.mpr hvolume)]
  generalize ledger.tradeBucket event.orderId metadata = bucket
  have hbook : Booked ledger (ledger.bookTrade event bucket).1 event.instrumentCode (boughtIn event bucket) ∧
      (ledger.bookTrade event bucket).1.NormalAt event.instrumentCode ∧
      (ledger.bookTrade event bucket).1.pendingOrders = ledger.pendingOrders := by
    have hbuy := modifyBucket_booked bucket (·.applyBucketBuy event.volume event.price) (·.buy event.volume)
      (BucketPositionState.applyBucketBuy_volumes (hnormal bucket) hvolume.le event.price)
    have hdone := modifyBucket_normalAt hnormal bucket (·.applyBucketBuy event.volume event.price)
      fun state => BucketPositionState.normalize_normal _
    unfold bookTrade
    split
    · rename_i hbuySide
      exact ⟨hbuy.congr fun b => by simp [boughtIn, hbuySide], hdone, rfl⟩
    · rename_i hcover
      exact ⟨hbuy.congr fun b => by simp [boughtIn, hcover], hdone, rfl⟩
    · rename_i hsell
      exact absurd hsell hside
    · rename_i hshort
      exact ⟨Booked.refl.congr fun b => by simp [boughtIn, hshort], hnormal, rfl⟩
  obtain ⟨hbooked, hnext, hpending⟩ := hbook
  have hcount : Booked (ledger.bookTrade event bucket).1
      ((ledger.bookTrade event bucket).1.consumePending event.orderId event.volume) event.instrumentCode fun _ v => v :=
    .of_buckets _ (consumePending_buckets _ _)
  refine ⟨(hbooked.trans hcount).trans (instrumentSnapshot_booked (hcount.normalAt hnext)), ?_⟩
  rw [pendingOrders_instrumentSnapshot, consumePending, consumePending, hpending]
  split
  · exact hpending
  · split
    · exact hpending
    · dsimp only
      split
      · rfl
      · rfl

end QuantX.BucketLedger
