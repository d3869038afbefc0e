import QuantX.Lib.Timed
import QuantX.TTrade.LiveBucketProjection
import Mathlib.Tactic.LinearCombination
import Mathlib.Tactic.Ring

/-! # The book of an account's buckets

What a replay of fills is for, without the ledger. -/

namespace QuantX
open Lib

inductive Move where
  | buy (bucket : Bucket)
  | sell (bucket : Bucket)
  | substitute (requested target : Bucket) (legs : List (Bucket × Nat))
  deriving DecidableEq

/-- What the first `n` shares of an order take from a bucket, leg after leg. -/
def takenFrom (bucket : Bucket) : List (Bucket × Nat) → Nat → Int
  | [], _ => 0
  | leg :: legs, n => (if leg.1 = bucket then ((min n leg.2 : Nat) : Int) else 0) + takenFrom bucket legs (n - leg.2)

namespace Move

/-- The settled volume that the first `n` shares of an order take from a bucket. -/
def taken (move : Move) (n : Nat) (bucket : Bucket) : Int :=
  match move with
  | buy _ => 0
  | sell own => if own = bucket then n else 0
  | substitute _ _ legs => takenFrom bucket legs n

def isBuy : Move → Bool
  | buy _ => true
  | _ => false

def entering (move : Move) (bucket : Bucket) : Int :=
  match move with
  | buy own => if own = bucket then 1 else 0
  | sell _ => 0
  | substitute requested target _ => (if target = bucket then 1 else 0) - if requested = bucket then 1 else 0

/-- The move hands today's purchases of the bucket over to another one. -/
def leaves (move : Move) (bucket : Bucket) : Bool :=
  match move with
  | substitute requested target _ => requested = bucket && target ≠ bucket
  | _ => false

/-- The legs of the order cover `n` shares. -/
def Within (move : Move) (n : Nat) : Prop :=
  match move with
  | substitute _ _ legs => n ≤ (legs.map (·.2)).sum
  | _ => True

end Move

structure Entry where
  orderId : String
  code : String
  instant : Int
  volume : Nat
  move : Move
  deriving DecidableEq

def Entry.brings (e : Entry) (bucket : Bucket) : Int := e.volume * e.move.entering bucket

structure Book where
  settled : String → Bucket → Int
  today : String → Bucket → Int
  filled : String → Nat
  day : Int

namespace Book

def advance (book : Book) (day : Int) : Book :=
  if day ≠ book.day then
    { book with settled := fun code bucket => book.settled code bucket + book.today code bucket
                today := fun _ _ => 0, day }
  else book

def sold (book : Book) (e : Entry) (bucket : Bucket) : Int :=
  e.move.taken (book.filled e.orderId + e.volume) bucket - e.move.taken (book.filled e.orderId) bucket

def apply (book : Book) (e : Entry) : Book :=
  { settled := fun code bucket => book.settled code bucket - if code = e.code then book.sold e bucket else 0
    today := fun code bucket => book.today code bucket + if code = e.code then e.brings bucket else 0
    filled := fun orderId => book.filled orderId + if orderId = e.orderId then e.volume else 0, day := book.day }

structure Covers (book : Book) (e : Entry) : Prop where
  settled : ∀ bucket, book.sold e bucket ≤ book.settled e.code bucket
  within : e.move.Within (book.filled e.orderId + e.volume)
  today : ∀ bucket, e.move.leaves bucket = true → e.volume ≤ book.today e.code bucket

structure Sound (book : Book) : Prop where
  settled : ∀ code bucket, 0 ≤ book.settled code bucket
  today : ∀ code bucket, 0 ≤ book.today code bucket

end Book

variable {date : Int → Int} {book : Book} {e e' : Entry} {l l' : List Entry} {bucket : Bucket} {code : String} {day : Int}
variable {move : Move}

theorem takenFrom_mono (bucket : Bucket) (legs : List (Bucket × Nat)) {n m : Nat} (h : n ≤ m) :
    takenFrom bucket legs n ≤ takenFrom bucket legs m := by
  induction legs generalizing n m with
  | nil => exact le_rfl
  | cons leg legs ih =>
    have hrest := ih (Nat.sub_le_sub_right h leg.2)
    simp only [takenFrom]
    split <;> omega

theorem Move.taken_mono (move : Move) (bucket : Bucket) {n m : Nat} (h : n ≤ m) : move.taken n bucket ≤ move.taken m bucket := by
  cases move with
  | buy own => exact le_rfl
  | sell own =>
    simp only [taken]
    split <;> omega
  | substitute requested target legs => exact takenFrom_mono bucket legs h

theorem Move.Within.mono {n m : Nat} (h : move.Within m) (hle : n ≤ m) : move.Within n := by
  cases move with
  | buy own => trivial
  | sell own => trivial
  | substitute requested target legs => exact hle.trans h

theorem Book.sold_nonneg (book : Book) (e : Entry) (bucket : Bucket) : 0 ≤ book.sold e bucket :=
  sub_nonneg.mpr (e.move.taken_mono bucket (Nat.le_add_right _ _))

theorem Move.entering_nonneg (h : move.leaves bucket = false) : 0 ≤ move.entering bucket := by
  cases move with
  | buy own =>
    simp only [entering]
    split <;> simp
  | sell own => exact le_rfl
  | substitute requested target legs =>
    simp only [leaves, Bool.and_eq_false_iff, decide_eq_false_iff_not] at h
    simp only [entering]
    by_cases htarget : target = bucket
    · rw [if_pos htarget]
      split <;> simp
    · have hrequested : requested ≠ bucket := by simpa [htarget] using h
      simp [htarget, hrequested]

theorem Move.entering_of_leaves (h : move.leaves bucket = true) : move.entering bucket = -1 := by
  cases move with
  | buy own => cases h
  | sell own => cases h
  | substitute requested target legs =>
    simp only [leaves, ne_eq, Bool.and_eq_true, decide_eq_true_eq] at h
    simp [entering, h]

/-! ## Steps -/

namespace Book

def step (date : Int → Int) (book : Book) (e : Entry) : Book := (book.advance (date e.instant)).apply e

def Admits (date : Int → Int) (book : Book) (e : Entry) : Prop := (book.advance (date e.instant)).Covers e

@[simp] theorem advance_day (book : Book) (day : Int) : (book.advance day).day = day := by
  unfold advance
  split
  · rfl
  · rename_i h
    exact (not_not.mp h).symm

@[simp] theorem advance_filled (book : Book) (day : Int) : (book.advance day).filled = book.filled := by
  unfold advance
  split <;> rfl

theorem advance_self {day : Int} (h : book.day = day) : book.advance day = book := if_neg (by simp [h])

@[simp] theorem step_day : (book.step date e).day = date e.instant := advance_day book _

theorem step_same_day (h : book.day = date e.instant) : book.step date e = book.apply e := by
  rw [step, advance_self h]

theorem advance_sound (h : book.Sound) (day : Int) : (book.advance day).Sound := by
  unfold advance
  split
  · exact ⟨fun code bucket => add_nonneg (h.settled code bucket) (h.today code bucket), fun _ _ => le_rfl⟩
  · exact h

theorem apply_sound (h : book.Sound) (hcovers : book.Covers e) : (book.apply e).Sound where
  settled code bucket := by
    simp only [apply]
    split
    · rename_i hcode
      exact sub_nonneg.mpr (hcode ▸ hcovers.settled bucket)
    · simpa using h.settled code bucket
  today code bucket := by
    have htoday := h.today code bucket
    simp only [apply]
    split
    · rename_i hcode
      cases hleaves : e.move.leaves bucket with
      | true =>
        have hcovered := hcovers.today bucket hleaves
        rw [Entry.brings, Move.entering_of_leaves hleaves]
        subst hcode
        omega
      | false => exact add_nonneg htoday (Int.mul_nonneg (Int.natCast_nonneg _) (Move.entering_nonneg hleaves))
    · simpa using htoday

theorem step_sound (h : book.Sound) (hadmits : book.Admits date e) : (book.step date e).Sound :=
  apply_sound (advance_sound h _) hadmits

end Book

def Consistent (l : List Entry) : Prop :=
  ∀ e ∈ l, ∀ e' ∈ l, e.orderId = e'.orderId → e.code = e'.code ∧ e.move = e'.move

theorem Book.apply_comm (book : Book) (h : e.orderId = e'.orderId → e.code = e'.code ∧ e.move = e'.move) :
    (book.apply e).apply e' = (book.apply e').apply e := by
  have hsold : ∀ code bucket, (if code = e.code then book.sold e bucket else 0) +
      (if code = e'.code then (book.apply e).sold e' bucket else 0) =
      (if code = e'.code then book.sold e' bucket else 0) + if code = e.code then (book.apply e').sold e bucket else 0 := by
    intro code bucket
    by_cases horder : e.orderId = e'.orderId
    · obtain ⟨hcode, hmove⟩ := h horder
      simp only [sold, apply, hcode, hmove, horder, if_true]
      split
      · rw [Nat.add_right_comm _ e'.volume e.volume]
        ring
      · rfl
    · simp only [sold, apply, if_neg horder, if_neg (Ne.symm horder), add_zero]
      ring
  simp only [apply, Book.mk.injEq, and_true]
  refine ⟨?_, ?_, ?_⟩
  · funext code bucket
    have hsame := hsold code bucket
    simp only [apply] at hsame
    rw [sub_sub, sub_sub, hsame]
  · funext code bucket
    ring
  · funext orderId
    omega

theorem Book.step_comm (hl : Consistent l) (he : e ∈ l) (he' : e' ∈ l) (hinstant : e.instant = e'.instant) (book : Book) :
    (book.step date e).step date e' = (book.step date e').step date e := by
  have hsame : (book.step date e).step date e' = (book.step date e).apply e' := step_same_day (by rw [step_day, hinstant])
  have hsame' : (book.step date e').step date e = (book.step date e').apply e := step_same_day (by rw [step_day, hinstant])
  rw [hsame, hsame', step, step, hinstant]
  exact apply_comm _ (hl e he e' he')

theorem Book.foldl_perm (hl : Consistent l) (hsorted : Timed Entry.instant l) (hsorted' : Timed Entry.instant l')
    (hperm : l.Perm l') (book : Book) : l.foldl (step date) book = l'.foldl (step date) book :=
  foldl_timed (fun _ he _ he' hinstant book => step_comm hl he he' hinstant book) hsorted hsorted' hperm book

/-! ### What a book adds up to -/

namespace Book

def AdmitsAll (date : Int → Int) (book : Book) (l : List Entry) : Prop := Guarded (step date) (Admits date) book l

def after (date : Int → Int) (book : Book) (l : List Entry) : Book := l.foldl (step date) book

@[simp] theorem after_nil : book.after date [] = book := rfl

@[simp] theorem after_append (l' : List Entry) : book.after date (l ++ l') = (book.after date l).after date l' :=
  List.foldl_append

@[simp] theorem after_cons : book.after date (e :: l) = (book.step date e).after date l := rfl

theorem after_concat : book.after date (l ++ [e]) = (book.after date l).step date e := by simp

theorem after_sound (h : book.Sound) (hrun : book.AdmitsAll date l) : (book.after date l).Sound :=
  Guarded.invariant (fun _ book => book.Sound) h (fun _ _ _ hsound hok _ => step_sound hsound hok) hrun

theorem after_within (hl : Consistent l) (hrun : book.AdmitsAll date l) :
    ∀ e ∈ l, e.move.Within ((book.after date l).filled e.orderId) := by
  have hinv := Guarded.invariant (fun taken book => (∀ e ∈ taken, e ∈ l) ∧ ∀ e ∈ taken, e.move.Within (book.filled e.orderId))
    (by simp) ?_ hrun
  · exact hinv.2
  · rintro taken book a ⟨hsub, hwithin⟩ hok ha
    have hself : a.move.Within ((book.step date a).filled a.orderId) := by
      simpa [step, apply] using hok.within
    refine ⟨fun e he => ?_, fun e he => ?_⟩
    · rcases List.mem_append.mp he with he | he
      · exact hsub e he
      · exact List.mem_singleton.mp he ▸ ha
    · rcases List.mem_append.mp he with he | he
      · by_cases horder : e.orderId = a.orderId
        · rw [horder, (hl e (hsub e he) a ha horder).2]
          exact hself
        · simpa [step, apply, horder] using hwithin e he
      · exact List.mem_singleton.mp he ▸ hself

end Book

def enteredOn (date : Int → Int) (l : List Entry) (code : String) (bucket : Bucket) (day : Int) : Int :=
  (l.map fun e => if e.code = code ∧ date e.instant = day then e.brings bucket else 0).sum

theorem enteredOn_append (l' : List Entry) :
    enteredOn date (l ++ l') code bucket day = enteredOn date l code bucket day + enteredOn date l' code bucket day := by
  simp [enteredOn]

theorem enteredOn_eq_zero (h : ∀ e ∈ l, date e.instant ≠ day) : enteredOn date l code bucket day = 0 := by
  refine List.sum_eq_zero fun x hx => ?_
  obtain ⟨e, he, rfl⟩ := List.mem_map.mp hx
  exact if_neg fun hcode => h e he hcode.2

theorem Book.advance_today (day : Int) :
    (book.advance day).today code bucket = if book.day = day then book.today code bucket else 0 := by
  unfold advance
  by_cases h : book.day = day
  · simp [h]
  · simp [h, Ne.symm h]

theorem Book.today_after (hsorted : Timed Entry.instant l) (hmono : ∀ ⦃t t' : Int⦄, t ≤ t' → date t ≤ date t')
    (hstart : ∀ e ∈ l, book.day ≤ date e.instant) (hend : ∀ e ∈ l, date e.instant ≤ day) :
    ((book.after date l).advance day).today code bucket =
      (if book.day = day then book.today code bucket else 0) + enteredOn date l code bucket day := by
  induction l using List.reverseRecOn with
  | nil => simp [advance_today, enteredOn]
  | append_singleton l e ih =>
    have hmem : e ∈ l ++ [e] := List.mem_append_right l List.mem_cons_self
    have hfirst := ih (List.Pairwise.sublist (List.sublist_append_left l [e]) hsorted)
      (fun e' he' => hstart e' (List.mem_append_left _ he')) fun e' he' => hend e' (List.mem_append_left _ he')
    rw [after_concat, advance_today, step_day, enteredOn_append]
    by_cases hday : date e.instant = day
    · rw [if_pos hday, step, hday]
      simp only [apply, enteredOn, hfirst, List.map_cons, List.map_nil, List.sum_singleton, hday, and_true, eq_comm (a := code)]
      ring
    · have hless : date e.instant < day := lt_of_le_of_ne (hend e hmem) hday
      have hbefore : ∀ e' ∈ l ++ [e], date e'.instant ≠ day := by
        intro e' he'
        rcases List.mem_append.mp he' with he' | he'
        · exact ne_of_lt ((hmono ((List.pairwise_append.mp hsorted).2.2 e' he' e List.mem_cons_self)).trans_lt hless)
        · exact List.mem_singleton.mp he' ▸ hday
      rw [if_neg hday, if_neg (ne_of_lt ((hstart e hmem).trans_lt hless)), ← enteredOn_append, enteredOn_eq_zero hbefore]
      rfl

def Book.total (book : Book) (code : String) (bucket : Bucket) : Int := book.settled code bucket + book.today code bucket

def Book.instrumentVolume (book : Book) (code : String) : Int := (knownBuckets.map (book.total code)).sum

def Entry.signed (e : Entry) : Int := if e.move.isBuy = true then e.volume else -e.volume

@[simp] theorem Book.total_advance (day : Int) : (book.advance day).total code bucket = book.total code bucket := by
  unfold total advance
  split <;> simp

theorem Book.total_apply : (book.apply e).total code bucket =
    book.total code bucket + if code = e.code then e.brings bucket - book.sold e bucket else 0 := by
  unfold total
  simp only [apply]
  split <;> ring

theorem Book.total_step : (book.step date e).total code bucket =
    book.total code bucket + if code = e.code then e.brings bucket - book.sold e bucket else 0 := by
  rw [step, total_apply, total_advance, sold, sold, advance_filled]

theorem sum_takenFrom (legs : List (Bucket × Nat)) (n : Nat) :
    (knownBuckets.map (takenFrom · legs n)).sum = (min n (legs.map (·.2)).sum : Nat) := by
  induction legs generalizing n with
  | nil => simp [takenFrom, knownBuckets]
  | cons leg legs ih =>
    obtain ⟨own, volume⟩ := leg
    have hrest := ih (n - volume)
    simp only [knownBuckets, List.map_cons, List.map_nil, List.sum_cons, List.sum_nil, takenFrom] at hrest ⊢
    generalize (legs.map (·.2)).sum = rest at hrest ⊢
    cases own <;> simp only [reduceCtorEq, if_true, if_false] <;> omega

theorem Move.sum_taken {n : Nat} (h : move.Within n) :
    (knownBuckets.map (move.taken n)).sum = if move.isBuy = true then 0 else (n : Int) := by
  cases move with
  | buy own => simp [knownBuckets, taken, isBuy]
  | sell own => cases own <;> simp [knownBuckets, taken, isBuy]
  | substitute requested target legs =>
    have hsum := sum_takenFrom legs n
    rw [min_eq_left h] at hsum
    exact hsum

theorem Move.sum_entering (move : Move) :
    (knownBuckets.map move.entering).sum = if move.isBuy = true then 1 else 0 := by
  cases move with
  | buy own => cases own <;> simp [knownBuckets, entering, isBuy]
  | sell own => simp [knownBuckets, entering, isBuy]
  | substitute requested target legs => cases requested <;> cases target <;> simp [knownBuckets, entering, isBuy]

theorem Book.instrumentVolume_step (h : e.move.Within (book.filled e.orderId + e.volume)) :
    (book.step date e).instrumentVolume code = book.instrumentVolume code + if code = e.code then e.signed else 0 := by
  have hbefore := Move.sum_taken (h.mono (Nat.le_add_right _ e.volume))
  have hafter := Move.sum_taken h
  have hentering := e.move.sum_entering
  simp only [instrumentVolume, knownBuckets, List.map_cons, List.map_nil, List.sum_cons, List.sum_nil, add_zero,
    total_step] at hbefore hafter hentering ⊢
  split
  · simp only [sold, Entry.signed, Entry.brings]
    push_cast at hafter
    cases hbuy : e.move.isBuy <;> simp only [hbuy, Bool.false_eq_true, if_true, if_false] at hbefore hafter hentering ⊢
    all_goals linear_combination (e.volume : Int) * hentering - hafter + hbefore
  · ring

theorem Book.instrumentVolume_after (hrun : book.AdmitsAll date l) :
    (book.after date l).instrumentVolume code =
      book.instrumentVolume code + (l.map fun e => if code = e.code then e.signed else 0).sum := by
  refine Guarded.invariant (fun taken (now : Book) => now.instrumentVolume code =
    book.instrumentVolume code + (taken.map fun e => if code = e.code then e.signed else 0).sum) (by simp) ?_ hrun
  intro taken now e hinv hok _
  have hwithin : e.move.Within (now.filled e.orderId + e.volume) := by simpa using hok.within
  rw [instrumentVolume_step hwithin, hinv]
  simp [add_assoc]

def Move.SparesLocked (move : Move) : Prop := ∀ n, move.taken n .lockedCore = 0

theorem takenFrom_eq_zero {legs : List (Bucket × Nat)} (h : ∀ leg ∈ legs, leg.1 ≠ bucket) (n : Nat) :
    takenFrom bucket legs n = 0 := by
  induction legs generalizing n with
  | nil => rfl
  | cons leg legs ih =>
    rw [takenFrom, if_neg (h leg List.mem_cons_self), ih fun leg' hleg => h leg' (List.mem_cons_of_mem leg hleg)]
    rfl

theorem Book.locked_after (h : ∀ e ∈ l, e.move.SparesLocked) :
    (book.after date l).total code .lockedCore =
      book.total code .lockedCore + (l.map fun e => if code = e.code then e.brings .lockedCore else 0).sum := by
  induction l generalizing book with
  | nil => simp
  | cons e l ih =>
    have hspares := h e List.mem_cons_self
    rw [after_cons, ih fun e' he' => h e' (List.mem_cons_of_mem e he'), total_step, sold, hspares, hspares]
    simp [add_assoc]

end QuantX
