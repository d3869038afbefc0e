import QuantX.Theorems.BucketLedger.Reservation

namespace QuantX
open Lib

@[ext] structure Volumes where
  total : Int
  available : Int
  todayBuy : Int
  frozen : Int
  deriving DecidableEq

namespace Volumes

def freeze (v : Volumes) (n : Int) : Volumes := { v with available := v.available - n, frozen := v.frozen + n }

def sell (v : Volumes) (n : Int) : Volumes := { v with total := v.total - n, frozen := v.frozen - n }

def buy (v : Volumes) (n : Int) : Volumes := { v with total := v.total + n, todayBuy := v.todayBuy + n }

def settle (v : Volumes) : Volumes := { v with available := v.total - v.frozen, todayBuy := 0 }

/-- What `normalize` leaves. -/
structure Normal (v : Volumes) : Prop where
  total : 0 ≤ v.total
  available : 0 ≤ v.available
  todayBuy : 0 ≤ v.todayBuy
  frozen : 0 ≤ v.frozen
  fits : v.available ≤ max 0 (v.total - v.frozen)

/-- The available, the frozen and today's volume are disjoint parts of the total. -/
structure Sound (v : Volumes) : Prop where
  available : 0 ≤ v.available
  todayBuy : 0 ≤ v.todayBuy
  frozen : 0 ≤ v.frozen
  parts : v.available + v.frozen + v.todayBuy ≤ v.total

variable {v : Volumes} {n m : Int}

@[simp] theorem freeze_zero : v.freeze 0 = v := by simp [freeze]
@[simp] theorem sell_zero : v.sell 0 = v := by simp [sell]
@[simp] theorem buy_zero : v.buy 0 = v := by simp [buy]

theorem freeze_freeze : (v.freeze n).freeze m = v.freeze (n + m) := by
  ext <;> simp only [freeze] <;> omega

theorem sell_sell : (v.sell n).sell m = v.sell (n + m) := by
  ext <;> simp only [sell] <;> omega

theorem Sound.normal (h : v.Sound) : v.Normal := by
  obtain ⟨havailable, htoday, hfrozen, hparts⟩ := h
  exact ⟨by omega, havailable, htoday, hfrozen, by omega⟩

theorem Sound.backed (h : v.Sound) : v.available + v.frozen ≤ v.total := by
  obtain ⟨-, htoday, -, hparts⟩ := h
  omega

theorem Sound.freeze (h : v.Sound) (hlow : -v.frozen ≤ n) (hhigh : n ≤ v.available) : (v.freeze n).Sound := by
  obtain ⟨havailable, htoday, hfrozen, hparts⟩ := h
  refine ⟨?_, htoday, ?_, ?_⟩ <;> simp only [Volumes.freeze] <;> omega

theorem Sound.sell (h : v.Sound) (hhigh : n ≤ v.frozen) : (v.sell n).Sound := by
  obtain ⟨havailable, htoday, hfrozen, hparts⟩ := h
  refine ⟨havailable, htoday, ?_, ?_⟩ <;> simp only [Volumes.sell] <;> omega

theorem Sound.buy (h : v.Sound) (hlow : -v.todayBuy ≤ n) : (v.buy n).Sound := by
  obtain ⟨havailable, htoday, hfrozen, hparts⟩ := h
  refine ⟨havailable, ?_, hfrozen, ?_⟩ <;> simp only [Volumes.buy] <;> omega

theorem Sound.settle (h : v.Sound) : v.settle.Sound := by
  obtain ⟨havailable, htoday, hfrozen, hparts⟩ := h
  refine ⟨?_, le_refl 0, hfrozen, ?_⟩ <;> simp only [Volumes.settle] <;> omega

end Volumes

namespace BucketPositionState
variable {state : BucketPositionState} {volume : Int}

def volumes (state : BucketPositionState) : Volumes :=
  ⟨state.totalVolume, state.availableVolume, state.todayBuyVolume, state.frozenVolume⟩

theorem normalize_normal (state : BucketPositionState) : state.normalize.volumes.Normal := by
  refine ⟨?_, ?_, ?_, ?_, ?_⟩ <;> simp only [volumes, normalize] <;> omega

theorem normalize_volumes (h : state.volumes.Normal) : state.normalize.volumes = state.volumes := by
  obtain ⟨htotal, havailable, htoday, hfrozen, hfits⟩ := h
  simp only [volumes] at htotal havailable htoday hfrozen hfits
  ext <;> simp only [volumes, normalize] <;> omega

theorem freeze_volumes (h : state.volumes.Normal) (hlow : 0 ≤ volume) (hhigh : volume ≤ state.availableVolume) :
    (state.freeze volume).volumes = state.volumes.freeze volume := by
  obtain ⟨htotal, havailable, htoday, hfrozen, hfits⟩ := h
  simp only [volumes] at htotal havailable htoday hfrozen hfits
  ext <;> simp only [volumes, freeze, normalize, Volumes.freeze] <;> omega

theorem unfreeze_volumes (h : state.volumes.Normal) (hbacked : state.availableVolume + state.frozenVolume ≤ state.totalVolume)
    (hlow : 0 ≤ volume) (hhigh : volume ≤ state.frozenVolume) :
    (state.unfreeze volume).volumes = state.volumes.freeze (-volume) := by
  obtain ⟨htotal, havailable, htoday, hfrozen, hfits⟩ := h
  simp only [volumes] at htotal havailable htoday hfrozen hfits
  ext <;> simp only [volumes, unfreeze, normalize, Volumes.freeze] <;> omega

theorem sellFrozen_volumes (h : state.volumes.Normal)
    (hbacked : state.availableVolume + state.frozenVolume ≤ state.totalVolume) (hhigh : volume ≤ state.frozenVolume) :
    (state.sellFrozen volume).volumes = state.volumes.sell volume := by
  obtain ⟨htotal, havailable, htoday, hfrozen, hfits⟩ := h
  simp only [volumes] at htotal havailable htoday hfrozen hfits
  ext <;> simp only [volumes, sellFrozen, revalue, normalize, Volumes.sell] <;> omega

theorem applyBucketBuy_volumes (h : state.volumes.Normal) (hlow : 0 ≤ volume) (price : Rat) :
    (state.applyBucketBuy volume price).volumes = state.volumes.buy volume := by
  obtain ⟨htotal, havailable, htoday, hfrozen, hfits⟩ := h
  simp only [volumes] at htotal havailable htoday hfrozen hfits
  ext <;> simp only [volumes, applyBucketBuy, revalue, normalize, Volumes.buy] <;> omega

theorem giveTodayBuy_volumes (h : state.volumes.Sound) (hhigh : volume ≤ state.todayBuyVolume) :
    (state.giveTodayBuy volume).volumes = state.volumes.buy (-volume) := by
  obtain ⟨havailable, htoday, hfrozen, hparts⟩ := h
  simp only [volumes] at havailable htoday hfrozen hparts
  ext <;> simp only [volumes, giveTodayBuy, revalue, normalize, Volumes.buy] <;> omega

theorem settle_volumes (h : state.volumes.Sound) : state.settle.volumes = state.volumes.settle := by
  obtain ⟨havailable, htoday, hfrozen, hparts⟩ := h
  simp only [volumes] at havailable htoday hfrozen hparts
  ext <;> simp only [volumes, settle, normalize, Volumes.settle] <;> omega

end BucketPositionState

namespace BucketLedger
variable {ledger next : BucketLedger} {code : String} {legs : List ReservedLeg}

def volumes (ledger : BucketLedger) (code : String) (bucket : Bucket) : Volumes := (ledger.state code bucket).volumes

def NormalAt (ledger : BucketLedger) (code : String) : Prop := ∀ bucket, (ledger.volumes code bucket).Normal

def SoundAt (ledger : BucketLedger) (code : String) : Prop := ∀ bucket, (ledger.volumes code bucket).Sound

theorem SoundAt.normalAt (h : ledger.SoundAt code) : ledger.NormalAt code := fun bucket => (h bucket).normal

/-- The buckets of one instrument change their volumes; no other instrument is touched. -/
structure Booked (ledger next : BucketLedger) (code : String) (change : Bucket → Volumes → Volumes) : Prop where
  own : ∀ bucket, next.volumes code bucket = change bucket (ledger.volumes code bucket)
  others : ∀ code', code' ≠ code → ∀ bucket, next.state code' bucket = ledger.state code' bucket

theorem Booked.refl : Booked ledger ledger code fun _ v => v := ⟨fun _ => rfl, fun _ _ _ => rfl⟩

theorem Booked.trans {last : BucketLedger} {change change' : Bucket → Volumes → Volumes}
    (h : Booked ledger next code change) (h' : Booked next last code change') :
    Booked ledger last code fun bucket v => change' bucket (change bucket v) where
  own bucket := by rw [h'.own, h.own]
  others code' hcode bucket := (h'.others code' hcode bucket).trans (h.others code' hcode bucket)

theorem Booked.congr {change change' : Bucket → Volumes → Volumes} (h : Booked ledger next code change)
    (hsame : ∀ bucket, change bucket (ledger.volumes code bucket) = change' bucket (ledger.volumes code bucket)) :
    Booked ledger next code change' where
  own bucket := by rw [h.own, hsame]
  others := h.others

theorem Booked.of_buckets (code : String) (h : next.buckets = ledger.buckets) : Booked ledger next code fun _ v => v where
  own bucket := by rw [volumes, state, h, volumes, state]
  others code' _ bucket := by rw [state, h, state]

theorem ensureInstrument_booked (ledger : BucketLedger) (code : String) :
    Booked ledger (ledger.ensureInstrument code) code fun _ v => v where
  own bucket := by rw [volumes, state_ensureInstrument, volumes]
  others code' _ bucket := state_ensureInstrument ledger code code' bucket

theorem modifyBucket_booked (bucket : Bucket) (change : BucketPositionState → BucketPositionState)
    (booking : Volumes → Volumes)
    (hchange : (change (ledger.state code bucket)).volumes = booking (ledger.volumes code bucket)) :
    Booked ledger (ledger.modifyBucket code bucket change) code fun b v => if bucket = b then booking v else v where
  own b := by
    rw [volumes, state_modifyBucket]
    by_cases hbucket : bucket = b
    · subst hbucket
      rw [if_pos ⟨rfl, rfl⟩, if_pos rfl, hchange]
    · rw [if_neg fun h => hbucket h.2, if_neg hbucket, volumes]
  others code' hcode b := by
    rw [state_modifyBucket, if_neg fun h => hcode h.1.symm]

theorem modifyBucket_normalAt (h : ledger.NormalAt code) (bucket : Bucket)
    (change : BucketPositionState → BucketPositionState) (hchange : ∀ state, (change state).volumes.Normal) :
    (ledger.modifyBucket code bucket change).NormalAt code := by
  intro b
  rw [volumes, state_modifyBucket]
  split
  · exact hchange _
  · exact h b

theorem instrumentSnapshot_booked (h : ledger.NormalAt code) :
    Booked ledger (ledger.instrumentSnapshot code).1 code fun _ v => v where
  own bucket := by
    rcases ledger.state_instrumentSnapshot code code bucket with hstate | hstate
    · rw [volumes, hstate, volumes]
    · rw [volumes, hstate, BucketPositionState.normalize_volumes (h bucket), volumes]
  others code' hcode bucket := state_instrumentSnapshot_other hcode bucket

/-! ## Legs -/

theorem booking_cons {booking : Volumes → Int → Volumes}
    (hadd : ∀ v n m, booking (booking v n) m = booking v (n + m)) (bucket b : Bucket) (v : Volumes) (n m : Int) :
    booking (if bucket = b then booking v n else v) m = booking v ((if bucket = b then n else 0) + m) := by
  split
  · rw [hadd]
  · rw [zero_add]

theorem freezeLegs_booked (h : ledger.NormalAt code)
    (hlegs : ∀ leg ∈ legs, 0 < leg.volume ∧ leg.remainingVolume = leg.volume)
    (havailable : ∀ bucket, heldIn bucket legs ≤ (ledger.volumes code bucket).available) :
    Booked ledger (ledger.freezeLegs code legs) code (fun bucket v => v.freeze (heldIn bucket legs)) ∧
      (ledger.freezeLegs code legs).NormalAt code := by
  induction legs generalizing ledger with
  | nil => exact ⟨Booked.refl.congr fun bucket => by simp, h⟩
  | cons leg legs ih =>
    obtain ⟨hpos, hremaining⟩ := hlegs leg List.mem_cons_self
    have htail : ∀ l ∈ legs, 0 < l.volume ∧ l.remainingVolume = l.volume := fun l hl => hlegs l (List.mem_cons_of_mem _ hl)
    have hrest : ∀ bucket, 0 ≤ heldIn bucket legs := fun bucket => heldIn_nonneg fun l hl => by
      obtain ⟨hlpos, hlremaining⟩ := htail l hl
      omega
    have hleg := havailable leg.bucket
    rw [heldIn_cons, if_pos rfl, hremaining] at hleg
    have hkeep := hrest leg.bucket
    have hcovered : leg.volume ≤ (ledger.state code leg.bucket).availableVolume := by
      show leg.volume ≤ (ledger.volumes code leg.bucket).available
      omega
    have hfreeze := modifyBucket_booked leg.bucket (·.freeze leg.volume) (·.freeze leg.volume)
      (BucketPositionState.freeze_volumes (h leg.bucket) hpos.le hcovered)
    have hnormal := modifyBucket_normalAt h leg.bucket (·.freeze leg.volume)
      fun state => BucketPositionState.normalize_normal _
    obtain ⟨hbooked, hdone⟩ := ih hnormal htail fun bucket => by
      have hbucket := havailable bucket
      rw [heldIn_cons, hremaining] at hbucket
      rw [hfreeze.own]
      split at hbucket <;> rename_i hsame <;> simp only [hsame, Volumes.freeze] <;> simp <;> omega
    refine ⟨(hfreeze.trans hbooked).congr fun bucket => ?_, hdone⟩
    rw [heldIn_cons, hremaining]
    exact booking_cons (fun v n m => v.freeze_freeze) _ _ _ _ _

/-- Where an order still holds volume, the available and the frozen part fit into the total. -/
def BackedFor (ledger : BucketLedger) (code : String) (legs : List ReservedLeg) : Prop :=
  ∀ bucket, 0 < heldIn bucket legs → (ledger.volumes code bucket).available + (ledger.volumes code bucket).frozen ≤
    (ledger.volumes code bucket).total

theorem SoundAt.backedFor (h : ledger.SoundAt code) : ledger.BackedFor code legs := fun bucket _ => (h bucket).backed

theorem releaseLegs_booked (reason : String) (h : ledger.NormalAt code) (hlegs : LegsOk legs)
    (hfrozen : ∀ bucket, heldIn bucket legs ≤ (ledger.volumes code bucket).frozen) (hbacked : ledger.BackedFor code legs) :
    Booked ledger (ledger.releaseLegs code reason legs).1 code (fun bucket v => v.freeze (-heldIn bucket legs)) ∧
      (ledger.releaseLegs code reason legs).1.NormalAt code := by
  induction legs generalizing ledger with
  | nil => exact ⟨Booked.refl.congr fun bucket => by simp, h⟩
  | cons leg legs ih =>
    have hhead := hlegs.head
    have hrest : ∀ bucket, 0 ≤ heldIn bucket legs := fun bucket => heldIn_nonneg hlegs.tail
    rw [releaseLegs]
    split
    · rename_i hnone
      obtain ⟨hzero, hsame⟩ := hlegs.empty hnone
      simp only [hsame] at hfrozen ⊢
      exact ih h hlegs.tail hfrozen fun bucket hpos => hbacked bucket (hsame bucket ▸ hpos)
    · rename_i hsome
      have hleg := hfrozen leg.bucket
      have hfits := hbacked leg.bucket
      rw [heldIn_cons, if_pos rfl] at hleg hfits
      have hkeep := hrest leg.bucket
      have hunfreeze := modifyBucket_booked leg.bucket (·.unfreeze leg.remainingVolume) (·.freeze (-leg.remainingVolume))
        (BucketPositionState.unfreeze_volumes (h leg.bucket) (hfits (by omega)) hhead (show _ ≤ (ledger.volumes code leg.bucket).frozen by omega))
      have hnormal := modifyBucket_normalAt h leg.bucket (·.unfreeze leg.remainingVolume)
        fun state => BucketPositionState.normalize_normal _
      have hheld : ∀ bucket, heldIn bucket legs ≤
          ((ledger.modifyBucket code leg.bucket (·.unfreeze leg.remainingVolume)).volumes code bucket).frozen := by
        intro bucket
        have hbucket := hfrozen bucket
        rw [heldIn_cons] at hbucket
        rw [hunfreeze.own]
        split at hbucket <;> rename_i hsame <;> simp only [hsame, Volumes.freeze] <;> simp <;> omega
      have hroom : (ledger.modifyBucket code leg.bucket (·.unfreeze leg.remainingVolume)).BackedFor code legs := by
        intro bucket hpos
        have hbucket := hbacked bucket
        rw [heldIn_cons] at hbucket
        rw [hunfreeze.own]
        by_cases hsame : leg.bucket = bucket <;> simp only [hsame, ↓reduceIte, zero_add, Volumes.freeze] at hbucket ⊢ <;> omega
      obtain ⟨hbooked, hdone⟩ := ih hnormal hlegs.tail hheld hroom
      refine ⟨(hunfreeze.trans hbooked).congr fun bucket => ?_, hdone⟩
      rw [heldIn_cons, booking_cons (fun v n m => v.freeze_freeze)]
      congr 1
      split <;> omega

end BucketLedger

/-- The volume that an event reports sold from a bucket. -/
def LedgerEvent.soldFrom (bucket : Bucket) : LedgerEvent → Int
  | .bucketSellApplied source volume => if source = bucket then volume else 0
  | .bucketSellUnreserved source volume => if source = bucket then volume else 0
  | _ => 0

/-- The volume that an event reports handed to a bucket by another one. -/
def LedgerEvent.handedTo (bucket : Bucket) : LedgerEvent → Int
  | .substitutionReattributed source target volume =>
    (if target = bucket then volume else 0) - if source = bucket then volume else 0
  | _ => 0

def soldFrom (bucket : Bucket) (events : List LedgerEvent) : Int := (events.map (·.soldFrom bucket)).sum
def handedTo (bucket : Bucket) (events : List LedgerEvent) : Int := (events.map (·.handedTo bucket)).sum

section Events
variable {bucket : Bucket} {event : LedgerEvent} {events events' : List LedgerEvent}

@[simp] theorem soldFrom_nil : soldFrom bucket [] = 0 := rfl
@[simp] theorem handedTo_nil : handedTo bucket [] = 0 := rfl

@[simp] theorem soldFrom_cons : soldFrom bucket (event :: events) = event.soldFrom bucket + soldFrom bucket events := by
  simp [soldFrom]

@[simp] theorem handedTo_cons : handedTo bucket (event :: events) = event.handedTo bucket + handedTo bucket events := by
  simp [handedTo]

@[simp] theorem soldFrom_append : soldFrom bucket (events ++ events') = soldFrom bucket events + soldFrom bucket events' := by
  simp [soldFrom]

@[simp] theorem handedTo_append : handedTo bucket (events ++ events') = handedTo bucket events + handedTo bucket events' := by
  simp [handedTo]

end Events

namespace BucketLedger
variable {ledger next : BucketLedger} {code : String} {legs : List ReservedLeg} {volume : Int}

/-- What a sale that the legs cover does: the buckets lose what the events report, and so do the legs. -/
structure Sold (ledger : BucketLedger) (code : String) (legs : List ReservedLeg) (volume : Int)
    (result : BucketLedger × List ReservedLeg × Int × List LedgerEvent) : Prop where
  legsOk : LegsOk result.2.1
  total : heldTotal result.2.1 = heldTotal legs - volume
  left : result.2.2.1 = 0
  buckets : result.2.1.map (·.bucket) = legs.map (·.bucket)
  sold : ∀ bucket, heldIn bucket legs = heldIn bucket result.2.1 + soldFrom bucket result.2.2.2
  bound : ∀ bucket, 0 ≤ soldFrom bucket result.2.2.2
  handed : ∀ bucket, handedTo bucket result.2.2.2 = 0
  booked : Booked ledger result.1 code fun bucket v => v.sell (soldFrom bucket result.2.2.2)
  normal : result.1.NormalAt code

theorem consumeLegs_sold (h : ledger.NormalAt code) (hlegs : LegsOk legs) (hlow : 0 ≤ volume)
    (hhigh : volume ≤ heldTotal legs) (hfrozen : ∀ bucket, heldIn bucket legs ≤ (ledger.volumes code bucket).frozen)
    (hbacked : ledger.BackedFor code legs) : Sold ledger code legs volume (ledger.consumeLegs code legs volume) := by
  induction legs generalizing ledger volume with
  | nil =>
    obtain rfl : volume = 0 := le_antisymm hhigh hlow
    exact ⟨hlegs, rfl, rfl, rfl, fun _ => rfl, fun _ => le_refl 0, fun _ => rfl, Booked.refl.congr fun _ => by simp [consumeLegs], h⟩
  | cons leg legs ih =>
    have hhead := hlegs.head
    have hrest : ∀ bucket, 0 ≤ heldIn bucket legs := fun bucket => heldIn_nonneg hlegs.tail
    rw [heldTotal_cons] at hhigh
    rw [consumeLegs]
    split
    · -- Nothing is left to take.
      obtain rfl : volume = 0 := by omega
      exact ⟨hlegs, by simp, rfl, rfl, fun _ => by simp, fun _ => le_refl 0, fun _ => rfl, Booked.refl.congr fun _ => by simp, h⟩
    · rename_i hleft
      split
      · -- An empty leg stays as it is.
        rename_i hnone
        obtain ⟨hzero, hsame⟩ := hlegs.empty hnone
        have hrec := ih h hlegs.tail hlow (by omega) (fun b => hsame b ▸ hfrozen b) fun b hpos => hbacked b (hsame b ▸ hpos)
        revert hrec
        generalize ledger.consumeLegs code legs volume = result
        obtain ⟨next, legs', left, events⟩ := result
        rintro ⟨hlegs', htotal, hzeroLeft, hbuckets, hsold, hbound, hhanded, hbooked, hnormal⟩
        refine ⟨hlegs'.cons hhead, ?_, hzeroLeft, ?_, fun b => ?_, hbound, hhanded, hbooked, hnormal⟩
        · simp only [heldTotal_cons] at htotal ⊢
          omega
        · simp only [List.map_cons] at hbuckets ⊢
          rw [hbuckets]
        · simp only [heldIn_cons] at hsold ⊢
          rw [hsold b]
          omega
      · rename_i hsome
        have hleg := hfrozen leg.bucket
        have hfits := hbacked leg.bucket
        rw [heldIn_cons, if_pos rfl] at hleg hfits
        have hkeep := hrest leg.bucket
        have htake := min_le_left volume leg.remainingVolume
        have htake' := min_le_right volume leg.remainingVolume
        have hpos : 0 < min volume leg.remainingVolume := lt_min (by omega) (by omega)
        have henough : volume - min volume leg.remainingVolume ≤ heldTotal legs := by
          have htail := heldTotal_nonneg hlegs.tail
          omega
        dsimp only
        generalize min volume leg.remainingVolume = take at htake htake' hpos henough ⊢
        have hsell := modifyBucket_booked leg.bucket (·.sellFrozen take) (·.sell take)
          (BucketPositionState.sellFrozen_volumes (h leg.bucket) (hfits (by omega))
            (show take ≤ (ledger.volumes code leg.bucket).frozen by omega))
        have hnormal := modifyBucket_normalAt h leg.bucket (·.sellFrozen take)
          fun state => BucketPositionState.normalize_normal _
        have hheld : ∀ bucket, heldIn bucket legs ≤
            ((ledger.modifyBucket code leg.bucket (·.sellFrozen take)).volumes code bucket).frozen := by
          intro bucket
          have hbucket := hfrozen bucket
          rw [heldIn_cons] at hbucket
          rw [hsell.own]
          split at hbucket <;> rename_i hsame <;> simp only [hsame, Volumes.sell] <;> simp <;> omega
        have hroom : (ledger.modifyBucket code leg.bucket (·.sellFrozen take)).BackedFor code legs := by
          intro bucket hheldPos
          have hbucket := hbacked bucket
          rw [heldIn_cons] at hbucket
          rw [hsell.own]
          by_cases hsame : leg.bucket = bucket <;> simp only [hsame, ↓reduceIte, zero_add, Volumes.sell] at hbucket ⊢ <;> omega
        have hrec := ih hnormal hlegs.tail (show 0 ≤ volume - take by omega) henough hheld hroom
        revert hrec
        generalize (ledger.modifyBucket code leg.bucket (·.sellFrozen take)).consumeLegs code legs (volume - take) = result
        obtain ⟨next, legs', left, events⟩ := result
        rintro ⟨hlegs', htotal, hzeroLeft, hbuckets, hsold, hbound, hhanded, hbooked, hdone⟩
        refine ⟨hlegs'.cons (by show 0 ≤ leg.remainingVolume - take; omega), ?_, hzeroLeft, ?_, fun b => ?_,
          fun b => ?_, fun b => ?_, ?_, hdone⟩
        · simp only [heldTotal_cons] at htotal ⊢
          omega
        · simp only [List.map_cons] at hbuckets ⊢
          rw [hbuckets]
        · simp only [heldIn_cons, soldFrom_cons, LedgerEvent.soldFrom] at hsold ⊢
          rw [hsold b]
          split <;> omega
        · have hb := hbound b
          simp only [soldFrom_cons, LedgerEvent.soldFrom] at hb ⊢
          split <;> omega
        · simp only [handedTo_cons, LedgerEvent.handedTo, zero_add]
          exact hhanded b
        · refine (hsell.trans hbooked).congr fun bucket => ?_
          simp only [soldFrom_cons, LedgerEvent.soldFrom]
          exact booking_cons (fun v n m => v.sell_sell) _ _ _ _ _

end BucketLedger
end QuantX
