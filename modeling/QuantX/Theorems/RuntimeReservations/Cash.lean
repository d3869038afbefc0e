import QuantX.Services.RuntimeReservations

namespace QuantX
open Lib (Dict)

namespace RuntimeReservations
variable {m : RuntimeReservations}

def cashReserved (m : RuntimeReservations) : Int := m.reservations.sumBy fun _ amount => amount

def cashUncovered (m : RuntimeReservations) : Int :=
  m.reservations.sumBy fun orderId amount => if orderId ∈ m.brokerCoveredCashReservations then 0 else amount

def cashCovered (m : RuntimeReservations) (orderIds : List String) : Int :=
  m.reservations.sumBy fun orderId amount => if orderId ∈ orderIds then amount else 0

structure CashBacked (m : RuntimeReservations) : Prop where
  positive : ∀ orderId amount, m.reservations.get? orderId = some amount → 0 < amount
  covered : ∀ orderId ∈ m.brokerCoveredCashReservations, m.reservations.contains orderId
  frozen : m.cashReserved ≤ m.frozenCash

structure SameCash (m m' : RuntimeReservations) : Prop where
  cash : m'.cash = m.cash
  frozenCash : m'.frozenCash = m.frozenCash
  reservations : m'.reservations = m.reservations
  covered : m'.brokerCoveredCashReservations = m.brokerCoveredCashReservations

theorem SameCash.refl (m : RuntimeReservations) : SameCash m m := ⟨rfl, rfl, rfl, rfl⟩

namespace SameCash
variable {m m' : RuntimeReservations} (h : SameCash m m')
include h

theorem reserved : m'.cashReserved = m.cashReserved := by
  rw [cashReserved, h.reservations]
  rfl

theorem uncovered : m'.cashUncovered = m.cashUncovered := by
  rw [cashUncovered, h.reservations, h.covered]
  rfl

theorem backed (hm : m.CashBacked) : m'.CashBacked where
  positive := by rw [h.reservations]; exact hm.positive
  covered := by rw [h.reservations, h.covered]; exact hm.covered
  frozen := by rw [h.reserved, h.frozenCash]; exact hm.frozen

end SameCash

section Reading
variable {m : RuntimeReservations}

theorem CashBacked.amount_nonneg (h : m.CashBacked) (orderId : String) : 0 ≤ m.reservations.getD orderId 0 := by
  unfold Dict.getD
  cases hget : m.reservations.get? orderId with
  | none => exact le_refl 0
  | some amount => exact (h.positive _ _ hget).le

theorem CashBacked.amount_le (h : m.CashBacked) (orderId : String) : m.reservations.getD orderId 0 ≤ m.cashReserved := by
  have herase := Dict.sumBy_erase_default m.reservations orderId (f := fun _ amount => amount) (a := 0) rfl
  have hrest : 0 ≤ (m.reservations.erase orderId).sumBy fun _ amount => amount := by
    refine Dict.sumBy_nonneg ?_
    intro k amount hget
    rw [Dict.get?_erase] at hget
    split_ifs at hget
    exact (h.positive _ _ hget).le
  unfold cashReserved
  omega

theorem CashBacked.uncovered_of_not_held (h : m.CashBacked) {orderId : String}
    (hnone : m.reservations.getD orderId 0 = 0) : orderId ∉ m.brokerCoveredCashReservations := by
  intro hmem
  obtain ⟨amount, hget⟩ := Option.isSome_iff_exists.mp (h.covered _ hmem)
  have hpos := h.positive _ _ hget
  rw [Dict.getD, hget, Option.getD_some] at hnone
  omega

end Reading

theorem keepRemaining_totals (m : RuntimeReservations) (orderId : String) {remaining : Int} {gone : Bool}
    (hgone : gone = true → remaining = 0) :
    let m' := m.keepRemaining orderId remaining gone
    m'.cashReserved = m.cashReserved + remaining - m.reservations.getD orderId 0 ∧
      m'.cashUncovered = m.cashUncovered +
        if orderId ∈ m.brokerCoveredCashReservations then 0 else remaining - m.reservations.getD orderId 0 := by
  intro m'
  cases gone with
  | true =>
    obtain rfl := hgone rfl
    constructor
    · have h := Dict.sumBy_erase_default m.reservations orderId (f := fun _ amount => amount) (a := 0) rfl
      change (m.reservations.erase orderId).sumBy (fun _ amount => amount) = _
      unfold cashReserved
      omega
    · have h := Dict.sumBy_erase_default m.reservations orderId
        (f := fun k amount => if k ∈ m.brokerCoveredCashReservations then 0 else amount) (a := 0) (by simp)
      have hsame : m'.cashUncovered =
          (m.reservations.erase orderId).sumBy fun k amount => if k ∈ m.brokerCoveredCashReservations then 0 else amount := by
        refine Dict.sumBy_congr ?_
        intro k amount hget
        rw [show m'.reservations = m.reservations.erase orderId from rfl, Dict.get?_erase] at hget
        have hk : k ≠ orderId := by
          rintro rfl
          simp at hget
        simp [m', keepRemaining, hk]
      rw [hsame, h]
      unfold cashUncovered
      split_ifs <;> omega
  | false =>
    constructor
    · exact Dict.sumBy_set_default m.reservations orderId remaining (f := fun _ amount => amount) (a := 0) rfl
    · have h := Dict.sumBy_set_default m.reservations orderId remaining
        (f := fun k amount => if k ∈ m.brokerCoveredCashReservations then 0 else amount) (a := 0) (by simp)
      refine h.trans ?_
      unfold cashUncovered
      split_ifs <;> omega

theorem keepRemaining_positive (orderId : String) {remaining : Int} {gone : Bool}
    (h : ∀ k amount, m.reservations.get? k = some amount → 0 < amount) (hkept : gone = false → 0 < remaining) :
    ∀ k amount, (m.keepRemaining orderId remaining gone).reservations.get? k = some amount → 0 < amount := by
  intro k amount hget
  cases gone with
  | true =>
    rw [show (m.keepRemaining orderId remaining true).reservations = m.reservations.erase orderId from rfl, Dict.get?_erase] at hget
    split_ifs at hget
    exact h _ _ hget
  | false =>
    rw [show (m.keepRemaining orderId remaining false).reservations = m.reservations.set orderId remaining from rfl,
      Dict.get?_set] at hget
    split_ifs at hget
    · cases hget
      exact hkept rfl
    · exact h _ _ hget

theorem keepRemaining_covered (orderId : String) (remaining : Int) (gone : Bool)
    (h : ∀ k ∈ m.brokerCoveredCashReservations, m.reservations.contains k) :
    ∀ k ∈ (m.keepRemaining orderId remaining gone).brokerCoveredCashReservations,
      (m.keepRemaining orderId remaining gone).reservations.contains k := by
  intro k hk
  cases gone with
  | true =>
    obtain ⟨hne, hmem⟩ := Finset.mem_erase.mp hk
    have hheld := h k hmem
    rw [Dict.contains] at hheld ⊢
    rw [show (m.keepRemaining orderId remaining true).reservations = m.reservations.erase orderId from rfl, Dict.get?_erase,
      if_neg hne.symm]
    exact hheld
  | false =>
    have hheld := h k hk
    rw [Dict.contains] at hheld ⊢
    rw [show (m.keepRemaining orderId remaining false).reservations = m.reservations.set orderId remaining from rfl, Dict.get?_set]
    split_ifs
    · rfl
    · exact hheld

theorem sameCash_sync (m : RuntimeReservations) : SameCash m m.syncReservationState := ⟨rfl, rfl, rfl, rfl⟩

/-- What a call keeps between two account snapshots: it takes `taken` from the account, `spent` of it from reservations
    the last snapshot does not cover. -/
structure CashKept (m m' : RuntimeReservations) (taken spent : Int) : Prop where
  backed : m'.CashBacked
  total : m'.cash + m'.frozenCash = m.cash + m.frozenCash - taken
  free : m'.cash + m'.cashUncovered ≤ m.cash + m.cashUncovered - spent

/-- What a fill of `amount` takes from an order's reservation. -/
def cashTaken (m : RuntimeReservations) (orderId : String) (amount : Int) : Int :=
  min (m.reservations.getD orderId 0) (max amount 0)

theorem SameCash.kept {m m' : RuntimeReservations} (h : SameCash m m') (hm : m.CashBacked) : CashKept m m' 0 0 where
  backed := h.backed hm
  total := by rw [h.cash, h.frozenCash, sub_zero]
  free := by rw [h.cash, h.uncovered, sub_zero]

theorem SameCash.trans_kept {m m' m'' : RuntimeReservations} {taken spent : Int} (h : SameCash m' m'')
    (hkept : CashKept m m' taken spent) : CashKept m m'' taken spent where
  backed := h.backed hkept.backed
  total := by rw [h.cash, h.frozenCash]; exact hkept.total
  free := by rw [h.cash, h.uncovered]; exact hkept.free

/-- An account that still holds the reservations of `m` keeps a remainder: its frozen cash has to cover them. -/
theorem CashBacked.keep (h : m.CashBacked) (account : RuntimeReservations) (orderId : String) (remaining : Int) (gone : Bool)
    {taken spent : Int}
    (hreservations : account.reservations = m.reservations)
    (hcovered : account.brokerCoveredCashReservations = m.brokerCoveredCashReservations)
    (hgone : gone = true → remaining = 0) (hkept : gone = false → 0 < remaining)
    (hfrozen : m.cashReserved + remaining - m.reservations.getD orderId 0 ≤ account.frozenCash)
    (htotal : account.cash + account.frozenCash = m.cash + m.frozenCash - taken)
    (hfree : account.cash + (if orderId ∈ m.brokerCoveredCashReservations then 0 else remaining - m.reservations.getD orderId 0) ≤
      m.cash - spent) :
    CashKept m (account.keepRemaining orderId remaining gone).syncReservationState taken spent := by
  obtain ⟨hreserved, huncovered⟩ := keepRemaining_totals account orderId hgone
  have hheld : account.cashReserved = m.cashReserved := by
    rw [cashReserved, hreservations]
    rfl
  have huncov : account.cashUncovered = m.cashUncovered := by
    rw [cashUncovered, hreservations, hcovered]
    rfl
  have hcash : (account.keepRemaining orderId remaining gone).cash = account.cash ∧
      (account.keepRemaining orderId remaining gone).frozenCash = account.frozenCash := by
    cases gone <;> exact ⟨rfl, rfl⟩
  rw [hreservations, hheld] at hreserved
  rw [hreservations, hcovered, huncov] at huncovered
  refine (sameCash_sync _).trans_kept
    ⟨⟨keepRemaining_positive orderId ?_ hkept, keepRemaining_covered orderId remaining gone ?_, ?_⟩, ?_, ?_⟩
  · rw [hreservations]
    exact h.positive
  · rw [hreservations, hcovered]
    exact h.covered
  · rw [hreserved, hcash.2]
    exact hfrozen
  · rw [hcash.1, hcash.2, htotal]
  · rw [hcash.1, huncovered]
    omega

/-! ### Moving a reservation to another id -/

/-- The reservations after `old` became `new`. -/
def moveAmount (reservations : Dict String Int) (old new : String) : Dict String Int :=
  if reservations.getD old 0 ≠ 0 then
    (reservations.erase old).set new ((reservations.erase old).getD new 0 + reservations.getD old 0)
  else reservations.erase old

/-- The covered ids after `old` became `new`. -/
def moveCovered (covered : Finset String) (old new : String) : Finset String :=
  if old ∈ covered then insert new (covered.erase old) else covered

section Move
variable {reservations : Dict String Int} {old new : String}

theorem moveAmount_get? (k : String) : (moveAmount reservations old new).get? k =
    if reservations.getD old 0 ≠ 0 ∧ new = k then some ((reservations.erase old).getD new 0 + reservations.getD old 0)
    else (reservations.erase old).get? k := by
  unfold moveAmount
  by_cases hamount : reservations.getD old 0 = 0
  · simp [hamount]
  · simp [hamount, Dict.get?_set]

/-- Where the amount counts the same under both ids, the sum stays; else it changes by the difference. -/
theorem moveAmount_sum (reservations : Dict String Int) (hne : old ≠ new) {f : String → Int → Int} (hf : ∀ k, f k 0 = 0) :
    (moveAmount reservations old new).sumBy f = reservations.sumBy f - f old (reservations.getD old 0) +
      (f new (reservations.getD new 0 + reservations.getD old 0) - f new (reservations.getD new 0)) := by
  have herase := Dict.sumBy_erase_default reservations old (hf old)
  have hnew : (reservations.erase old).getD new 0 = reservations.getD new 0 := by
    rw [Dict.getD, Dict.get?_erase, if_neg hne]
    rfl
  unfold moveAmount
  rw [hnew]
  by_cases hamount : reservations.getD old 0 = 0
  · rw [if_neg (not_not.mpr hamount), hamount, add_zero, herase, hamount]
    omega
  · rw [if_pos hamount, Dict.sumBy_set_default _ _ _ (hf new), herase, hnew]
    omega

theorem moveAmount_positive (h : ∀ k amount, reservations.get? k = some amount → 0 < amount) :
    ∀ k amount, (moveAmount reservations old new).get? k = some amount → 0 < amount := by
  have hheld : ∀ k, 0 ≤ reservations.getD k 0 := by
    intro k
    unfold Dict.getD
    cases hget : reservations.get? k with
    | none => exact le_refl 0
    | some amount => exact (h _ _ hget).le
  intro k amount hget
  rw [moveAmount_get?] at hget
  split_ifs at hget with hmoved
  · obtain ⟨hamount, -⟩ := hmoved
    have hold := hheld old
    have hnew : 0 ≤ (reservations.erase old).getD new 0 := by
      rw [Dict.getD, Dict.get?_erase]
      split_ifs
      · exact le_refl 0
      · exact hheld new
    cases hget
    omega
  · rw [Dict.get?_erase] at hget
    split_ifs at hget
    exact h _ _ hget

variable {m : RuntimeReservations} (h : m.CashBacked)
include h

theorem moveCovered_held : ∀ k ∈ moveCovered m.brokerCoveredCashReservations old new, (moveAmount m.reservations old new).contains k := by
  intro k hk
  have hkept : k ∈ m.brokerCoveredCashReservations → k ≠ old → (moveAmount m.reservations old new).contains k := by
    intro hmem hne
    have hheld := h.covered k hmem
    rw [Dict.contains] at hheld ⊢
    rw [moveAmount_get?]
    split_ifs
    · rfl
    · rw [Dict.get?_erase, if_neg hne.symm]
      exact hheld
  unfold moveCovered at hk
  split_ifs at hk with hold
  · rcases Finset.mem_insert.mp hk with rfl | hmem
    · have hamount : m.reservations.getD old 0 ≠ 0 := fun hnone => h.uncovered_of_not_held hnone hold
      rw [Dict.contains, moveAmount_get?, if_pos ⟨hamount, rfl⟩]
      rfl
    · obtain ⟨hne, hmem⟩ := Finset.mem_erase.mp hmem
      exact hkept hmem hne
  · refine hkept hk ?_
    rintro rfl
    exact hold hk

theorem moveAmount_uncovered (hne : old ≠ new) :
    (moveAmount m.reservations old new).sumBy (fun k amount =>
      if k ∈ moveCovered m.brokerCoveredCashReservations old new then 0 else amount) ≤ m.cashUncovered := by
  have hamount := h.amount_nonneg old
  rw [moveAmount_sum _ hne (by simp), ← Dict.sumBy_erase_default m.reservations old (a := 0) (by simp)]
  -- Away from the old id, nothing loses its cover.
  have hkept : ((m.reservations.erase old).sumBy fun k amount =>
      if k ∈ moveCovered m.brokerCoveredCashReservations old new then 0 else amount) ≤
      (m.reservations.erase old).sumBy fun k amount => if k ∈ m.brokerCoveredCashReservations then 0 else amount := by
    refine Dict.sumBy_le ?_
    intro k amount hget
    rw [Dict.get?_erase] at hget
    split_ifs at hget with hold
    have hpos := h.positive _ _ hget
    have hcover : k ∈ m.brokerCoveredCashReservations → k ∈ moveCovered m.brokerCoveredCashReservations old new := by
      intro hmem
      unfold moveCovered
      split_ifs
      · exact Finset.mem_insert_of_mem (Finset.mem_erase.mpr ⟨fun heq => hold heq.symm, hmem⟩)
      · exact hmem
    split_ifs with hnew hheld hheld
    · exact le_refl 0
    · exact hpos.le
    · exact absurd (hcover hheld) hnew
    · exact le_refl _
  have hbefore := Dict.sumBy_erase_default m.reservations old
    (f := fun k amount => if k ∈ m.brokerCoveredCashReservations then 0 else amount) (a := 0) (by simp)
  have hmoved : old ∈ m.brokerCoveredCashReservations → new ∈ moveCovered m.brokerCoveredCashReservations old new := by
    intro hold
    unfold moveCovered
    rw [if_pos hold]
    exact Finset.mem_insert_self _ _
  unfold cashUncovered
  by_cases hnew : new ∈ moveCovered m.brokerCoveredCashReservations old new
  · rw [if_pos hnew, if_pos hnew]
    split_ifs at hbefore <;> omega
  · have hold : old ∉ m.brokerCoveredCashReservations := fun hold => hnew (hmoved hold)
    rw [if_neg hold] at hbefore
    rw [if_neg hnew, if_neg hnew]
    omega

end Move

section Calls
variable {m : RuntimeReservations} (h : m.CashBacked) (orderId : String)
include h

theorem reserveCash_kept (amount : Int) : CashKept m (m.reserveCash orderId amount).2 0 0 := by
  unfold reserveCash
  split_ifs with henabled hamount hcash
  · exact (SameCash.refl m).kept h
  · exact (SameCash.refl m).kept h
  · exact (SameCash.refl m).kept h
  · have hheld := h.amount_nonneg orderId
    have hfrozen := h.frozen
    refine h.keep { m with cash := m.cash - amount, frozenCash := m.frozenCash + amount } orderId
      (m.reservations.getD orderId 0 + amount) false rfl rfl (by simp) (by intro; omega) ?_ ?_ ?_
    · dsimp only
      omega
    · dsimp only
      omega
    · dsimp only
      split_ifs <;> omega

theorem consumeCash_kept (amount : Int) :
    CashKept m (m.consumeCashReservation id orderId amount).2 (m.cashTaken orderId amount)
      (if orderId ∈ m.brokerCoveredCashReservations then 0 else m.cashTaken orderId amount) := by
  have hheld := h.amount_nonneg orderId
  have hfrozen := h.frozen
  unfold consumeCashReservation
  by_cases hamount : amount ≤ 0
  · have hnone : m.cashTaken orderId amount = 0 := by
      unfold cashTaken
      omega
    rw [if_pos hamount, hnone, ite_self]
    exact (SameCash.refl m).kept h
  rw [if_neg hamount]
  by_cases hreserved : m.reservations.getD orderId 0 ≤ 0
  · have hnone : m.cashTaken orderId amount = 0 := by
      unfold cashTaken
      omega
    rw [if_pos hreserved, hnone, ite_self]
    exact (SameCash.refl m).kept h
  have htaken : min (m.reservations.getD orderId 0) amount = m.cashTaken orderId amount := by
    unfold cashTaken
    omega
  have hle : m.cashTaken orderId amount ≤ m.reservations.getD orderId 0 := by
    rw [← htaken]
    exact min_le_left _ _
  rw [if_neg hreserved, htaken]
  refine h.keep { m with frozenCash := m.frozenCash - m.cashTaken orderId amount } orderId _ _ rfl rfl
    (fun hgone => ?_) (fun hkept => ?_) ?_ ?_ ?_
  · have hgone := of_decide_eq_true hgone
    omega
  · have hkept := of_decide_eq_false hkept
    omega
  · dsimp only
    omega
  · dsimp only
    omega
  · dsimp only
    split_ifs <;> omega

theorem releaseCash_kept (amount : Option Int) : CashKept m (m.releaseCash id orderId amount).2 0 0 := by
  have hheld := h.amount_nonneg orderId
  have hfrozen := h.frozen
  unfold releaseCash
  dsimp only
  generalize hrelease : amount.elim (m.reservations.getD orderId 0) (fun amount => min amount (m.reservations.getD orderId 0)) = release
  have hle : release ≤ m.reservations.getD orderId 0 := by
    cases amount with
    | none => exact hrelease.symm.le
    | some amount => exact hrelease ▸ min_le_right _ _
  by_cases henabled : (!m.enableReserve) = true
  · rw [if_pos henabled]
    exact (SameCash.refl m).kept h
  by_cases hreserved : m.reservations.getD orderId 0 ≤ 0
  · rw [if_neg henabled, if_pos hreserved]
    exact (SameCash.refl m).kept h
  by_cases hnone : release ≤ 0
  · rw [if_neg henabled, if_neg hreserved, if_pos hnone]
    exact (SameCash.refl m).kept h
  rw [if_neg henabled, if_neg hreserved, if_neg hnone]
  by_cases hcovered : orderId ∈ m.brokerCoveredCashReservations
  · rw [if_pos hcovered]
    refine h.keep m orderId _ _ rfl rfl (fun hgone => ?_) (fun hkept => ?_) ?_ (by omega) ?_
    · have hgone := of_decide_eq_true hgone
      omega
    · have hkept := of_decide_eq_false hkept
      omega
    · omega
    · rw [if_pos hcovered]
      omega
  · rw [if_neg hcovered]
    refine h.keep { m with cash := m.cash + release, frozenCash := m.frozenCash - release } orderId _ _ rfl rfl
      (fun hgone => ?_) (fun hkept => ?_) ?_ ?_ ?_
    · have hgone := of_decide_eq_true hgone
      omega
    · have hkept := of_decide_eq_false hkept
      omega
    · dsimp only
      omega
    · dsimp only
      omega
    · rw [if_neg hcovered]
      dsimp only
      omega

theorem transferReservation_kept (newOrderId : String) : CashKept m (m.transferReservation orderId newOrderId) 0 0 := by
  unfold transferReservation
  by_cases hsame : orderId = newOrderId
  · rw [if_pos hsame]
    exact (SameCash.refl m).kept h
  rw [if_neg hsame]
  refine (sameCash_sync _).trans_kept ⟨⟨moveAmount_positive h.positive, moveCovered_held h, ?_⟩, ?_, ?_⟩
  · exact (moveAmount_sum _ hsame (f := fun _ amount => amount) (fun _ => rfl)).trans_le (by simpa [cashReserved] using h.frozen)
  · exact (sub_zero _).symm
  · rw [sub_zero]
    exact add_le_add (le_refl m.cash) (moveAmount_uncovered h hsame)

theorem updateAccount_backed (cash : Int) {frozenCash : Int} {orderIds : List String} (hlegal : m.cashCovered orderIds ≤ frozenCash) :
    let m' := m.updateAccount cash frozenCash orderIds
    m'.CashBacked ∧ m'.cash + m'.frozenCash = cash + frozenCash ∧ m'.cash + m'.cashUncovered = cash := by
  have hmem : ∀ k amount, m.reservations.get? k = some amount →
      (k ∈ orderIds.toFinset ∩ m.reservations.keys.toFinset ↔ k ∈ orderIds) := by
    intro k amount hget
    have hkey : k ∈ m.reservations.keys := List.mem_map.mpr ⟨(k, amount), Dict.mem_entries.mpr hget, rfl⟩
    simp [hkey]
  have hsplit : m.cashReserved = m.cashCovered orderIds +
      m.reservations.sumBy fun k amount => if k ∈ orderIds.toFinset ∩ m.reservations.keys.toFinset then 0 else amount := by
    unfold cashReserved cashCovered
    rw [← Dict.sumBy_add]
    refine Dict.sumBy_congr ?_
    intro k amount hget
    rw [if_congr (hmem k amount hget) rfl rfl]
    split_ifs <;> omega
  intro m'
  refine ⟨⟨h.positive, ?_, ?_⟩, ?_, ?_⟩
  · intro k hk
    obtain ⟨-, hkey⟩ := Finset.mem_inter.mp hk
    obtain ⟨⟨k', amount⟩, hentry, rfl⟩ := List.mem_map.mp (List.mem_toFinset.mp hkey)
    rw [Dict.contains, show m'.reservations = m.reservations from rfl, Dict.mem_entries.mp hentry]
    rfl
  · change m.cashReserved ≤ frozenCash + _
    rw [hsplit]
    omega
  · change cash - _ + (frozenCash + _) = _
    omega
  · exact sub_add_cancel cash _

variable {clamp : Int → Int} (hclamp : ∀ x, 0 ≤ x → clamp x = x)
include hclamp

theorem consumeCash_uncut (amount : Int) :
    m.consumeCashReservation clamp orderId amount = m.consumeCashReservation id orderId amount := by
  have hle := h.amount_le orderId
  have hfrozen := h.frozen
  have htaken := min_le_left (m.reservations.getD orderId 0) amount
  unfold consumeCashReservation
  dsimp only
  rw [hclamp (amount - _) (Int.sub_nonneg_of_le (min_le_right _ _)), hclamp (m.frozenCash - _) (by omega)]
  rfl

theorem releaseCash_uncut (amount : Option Int) : m.releaseCash clamp orderId amount = m.releaseCash id orderId amount := by
  have hle := h.amount_le orderId
  have hfrozen := h.frozen
  have hrelease : amount.elim (m.reservations.getD orderId 0) (fun amount => min amount (m.reservations.getD orderId 0)) ≤
      m.reservations.getD orderId 0 := by
    cases amount with
    | none => exact le_refl _
    | some amount => exact min_le_right _ _
  unfold releaseCash
  dsimp only
  rw [hclamp (m.frozenCash - _) (by omega)]
  rfl

end Calls

theorem CashBacked.taken_eq (h : m.CashBacked) (orderId : String) (amount : Int) :
    (m.consumeCashReservation id orderId amount).1 = max amount 0 - m.cashTaken orderId amount ∧
      (m.consumeCashReservation id orderId amount).2.reservations.getD orderId 0 =
        m.reservations.getD orderId 0 - m.cashTaken orderId amount := by
  have hheld := h.amount_nonneg orderId
  unfold consumeCashReservation
  by_cases hamount : amount ≤ 0
  · have hnone : m.cashTaken orderId amount = 0 := by
      unfold cashTaken
      omega
    rw [if_pos hamount, hnone]
    exact ⟨by omega, (sub_zero _).symm⟩
  rw [if_neg hamount]
  by_cases hreserved : m.reservations.getD orderId 0 ≤ 0
  · have hnone : m.cashTaken orderId amount = 0 := by
      unfold cashTaken
      omega
    rw [if_pos hreserved, hnone]
    exact ⟨by omega, (sub_zero _).symm⟩
  have htaken : min (m.reservations.getD orderId 0) amount = m.cashTaken orderId amount := by
    unfold cashTaken
    omega
  have hle : m.cashTaken orderId amount ≤ m.reservations.getD orderId 0 := by
    rw [← htaken]
    exact min_le_left _ _
  rw [if_neg hreserved, htaken]
  refine ⟨?_, ?_⟩
  · change amount - m.cashTaken orderId amount = _
    omega
  · change (keepRemaining _ _ _ _).reservations.getD orderId 0 = _
    unfold keepRemaining
    split_ifs with hgone
    · have hgone := of_decide_eq_true hgone
      rw [Dict.getD, Dict.get?_erase, if_pos rfl, Option.getD_none]
      omega
    · rw [Dict.getD_set, if_pos rfl]

end RuntimeReservations
end QuantX
