import Mathlib.Algebra.Order.Group.Defs
import Mathlib.Tactic.Abel

/-! Budgets that are reserved before they are spent. A reservation has to fit under the limit; so the limit is kept although
    the payments themselves are not checked against it. -/

namespace Lib
variable {M : Type} [AddCommGroup M] [LinearOrder M]

structure Budget (M : Type) where
  spent : M
  reserved : M

namespace Budget
variable {limit : M} {b b' : Budget M}

inductive Move (limit : M) : Budget M → Budget M → Prop
  | rest (b : Budget M) : Move limit b b
  | reserve (b : Budget M) (amount : M) (hpos : 0 ≤ amount) (hfits : b.spent + amount ≤ limit) :
      Move limit b ⟨b.spent, amount⟩
  | settle (b : Budget M) (paid freed : M) (hfreed : 0 ≤ freed) (hfits : paid + freed ≤ b.reserved) :
      Move limit b ⟨b.spent + paid, b.reserved - paid - freed⟩

structure Within (limit : M) (b : Budget M) : Prop where
  reserved_nonneg : 0 ≤ b.reserved
  covered : b.spent + b.reserved ≤ limit

theorem Within.release (h : Within limit b) : Move limit b ⟨b.spent, 0⟩ := by
  have hmove : Move limit b ⟨b.spent + 0, b.reserved - 0 - b.reserved⟩ :=
    .settle b 0 b.reserved h.reserved_nonneg (by rw [zero_add])
  simpa using hmove

theorem Move.pay (paid : M) (hfits : paid ≤ b.reserved) : Move limit b ⟨b.spent + paid, b.reserved - paid⟩ := by
  have hmove : Move limit b ⟨b.spent + paid, b.reserved - paid - 0⟩ :=
    .settle b paid 0 le_rfl (by rw [add_zero]; exact hfits)
  simpa using hmove

variable [IsOrderedAddMonoid M]

theorem Within.fresh (hlimit : 0 ≤ limit) : Within limit ⟨0, 0⟩ := by
  refine ⟨le_refl _, ?_⟩
  rwa [add_zero]

theorem Move.payLast (paid : M) (hfits : paid ≤ b.reserved) : Move limit b ⟨b.spent + paid, 0⟩ := by
  have hmove : Move limit b ⟨b.spent + paid, b.reserved - paid - (b.reserved - paid)⟩ :=
    .settle b paid (b.reserved - paid) (sub_nonneg.mpr hfits) (by rw [add_sub_cancel])
  simpa using hmove

theorem Within.spent_le (h : Within limit b) : b.spent ≤ limit :=
  le_trans (le_add_of_nonneg_right h.reserved_nonneg) h.covered

theorem Within.move (h : Within limit b) (hmove : Move limit b b') : Within limit b' := by
  cases hmove with
  | rest => exact h
  | reserve amount hpos hfits => exact ⟨hpos, hfits⟩
  | settle paid freed hfreed hfits =>
    refine ⟨?_, ?_⟩
    · rw [sub_sub]
      exact sub_nonneg.mpr hfits
    · calc b.spent + paid + (b.reserved - paid - freed)
          = b.spent + b.reserved - freed := by abel
        _ ≤ b.spent + b.reserved := sub_le_self _ hfreed
        _ ≤ limit := h.covered

end Budget
end Lib
