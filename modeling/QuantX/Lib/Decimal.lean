import Mathlib.Data.Int.Log
import Mathlib.Data.Rat.Floor

/-! Decimal arithmetic with a fixed number of significant digits. The result of an operation is rounded to that many
    digits, half to even; exponents are not bounded. -/

namespace Lib
namespace Decimal
variable {prec digits more : Nat} {unit : Int} {x y : Rat}

def roundHalfEven (x : Rat) : Int :=
  let low := x.floor
  let rest := x - low
  if rest < 1 / 2 then low else if 1 / 2 < rest then low + 1 else if low % 2 = 0 then low else low + 1

/-- The unit of the last of `prec` digits. -/
def quantum (prec : Nat) (x : Rat) : Rat := (10 : Rat) ^ (Int.log 10 |x| + 1 - prec)

/-- Round to `prec` significant digits. -/
def fix (prec : Nat) (x : Rat) : Rat := if x = 0 then 0 else roundHalfEven (x / quantum prec x) * quantum prec x

theorem roundHalfEven_intCast (n : Int) : roundHalfEven n = n := by
  exact if_pos (by norm_num)

/-- A multiple of `10 ^ unit`. -/
def Multiple (unit : Int) (x : Rat) : Prop := ∃ n : Int, x = n * (10 : Rat) ^ unit

theorem Multiple.zero : Multiple unit 0 := ⟨0, by simp⟩

theorem Multiple.add (hx : Multiple unit x) (hy : Multiple unit y) : Multiple unit (x + y) := by
  obtain ⟨n, rfl⟩ := hx
  obtain ⟨m, rfl⟩ := hy
  exact ⟨n + m, by push_cast; ring⟩

theorem Multiple.sub (hx : Multiple unit x) (hy : Multiple unit y) : Multiple unit (x - y) := by
  obtain ⟨n, rfl⟩ := hx
  obtain ⟨m, rfl⟩ := hy
  exact ⟨n - m, by push_cast; ring⟩

theorem Multiple.min (hx : Multiple unit x) (hy : Multiple unit y) : Multiple unit (min x y) := by
  rcases min_choice x y with h | h
  · rw [h]
    exact hx
  · rw [h]
    exact hy

/-- A multiple of `10 ^ unit` that needs at most `digits` digits. -/
structure OnGrid (digits : Nat) (unit : Int) (x : Rat) : Prop where
  multiple : Multiple unit x
  small : |x| < (10 : Rat) ^ (digits + unit)

theorem OnGrid.zero : OnGrid digits unit 0 := by
  refine ⟨.zero, ?_⟩
  exact zpow_pos (by norm_num) _

theorem OnGrid.mono (h : OnGrid digits unit x) (hmore : digits ≤ more) : OnGrid more unit x := by
  refine ⟨h.multiple, lt_of_lt_of_le h.small ?_⟩
  exact zpow_le_zpow_right₀ (by norm_num) (by omega)

theorem OnGrid.of_le (hx : Multiple unit x) (hpos : 0 ≤ x) (hle : x ≤ y) (hy : OnGrid digits unit y) :
    OnGrid digits unit x := by
  refine ⟨hx, lt_of_le_of_lt ?_ hy.small⟩
  rw [abs_of_nonneg hpos, abs_of_nonneg (hpos.trans hle)]
  exact hle

theorem OnGrid.add (hx : OnGrid digits unit x) (hy : OnGrid digits unit y) : OnGrid (digits + 1) unit (x + y) := by
  refine ⟨hx.multiple.add hy.multiple, ?_⟩
  have hunit : (10 : Rat) ^ (((digits + 1 : Nat) : Int) + unit) = 10 * 10 ^ (digits + unit) := by
    have hexponent : ((digits + 1 : Nat) : Int) + unit = 1 + (digits + unit) := by push_cast; ring
    rw [hexponent, zpow_add₀ (by norm_num), zpow_one]
  have hpos : (0 : Rat) < 10 ^ (digits + unit) := zpow_pos (by norm_num) _
  calc |x + y| ≤ |x| + |y| := abs_add_le x y
    _ < 10 ^ (digits + unit) + 10 ^ (digits + unit) := add_lt_add hx.small hy.small
    _ ≤ 10 * 10 ^ (digits + unit) := by linarith
    _ = (10 : Rat) ^ (((digits + 1 : Nat) : Int) + unit) := hunit.symm

theorem OnGrid.sub (hx : OnGrid digits unit x) (hy : OnGrid digits unit y) (hxpos : 0 ≤ x) (hypos : 0 ≤ y) :
    OnGrid digits unit (x - y) := by
  refine ⟨hx.multiple.sub hy.multiple, ?_⟩
  have hxsmall := hx.small
  have hysmall := hy.small
  rw [abs_of_nonneg hxpos] at hxsmall
  rw [abs_of_nonneg hypos] at hysmall
  rw [abs_lt]
  exact ⟨by linarith, by linarith⟩

theorem OnGrid.fix_eq (h : OnGrid prec unit x) : fix prec x = x := by
  unfold fix
  split
  · rename_i hzero
    exact hzero.symm
  · rename_i hne
    have hten : (10 : Rat) ≠ 0 := by norm_num
    have hlog : Int.log 10 |x| < prec + unit :=
      (Int.lt_zpow_iff_log_lt (by norm_num) (abs_pos.mpr hne)).mp (by exact_mod_cast h.small)
    obtain ⟨n, hn⟩ := h.multiple
    -- The quantum divides the unit of the grid.
    obtain ⟨t, ht⟩ : ∃ t : Nat, (t : Int) = unit - (Int.log 10 |x| + 1 - prec) :=
      ⟨_, Int.toNat_of_nonneg (by omega)⟩
    have hquantum : x = ((n * 10 ^ t : Int) : Rat) * quantum prec x := by
      have hunit : unit = t + (Int.log 10 |x| + 1 - prec) := by omega
      calc x = n * (10 : Rat) ^ unit := hn
        _ = n * (10 : Rat) ^ (t + (Int.log 10 |x| + 1 - prec) : Int) := by rw [← hunit]
        _ = n * ((10 : Rat) ^ t * quantum prec x) := by rw [zpow_add₀ hten, zpow_natCast, quantum]
        _ = ((n * 10 ^ t : Int) : Rat) * quantum prec x := by push_cast; ring
    have hdiv : x / quantum prec x = ((n * 10 ^ t : Int) : Rat) :=
      (div_eq_iff (zpow_ne_zero _ hten)).mpr hquantum
    rw [hdiv, roundHalfEven_intCast]
    exact hquantum.symm

/-! ### Integers around a rounded number -/

theorem abs_roundHalfEven_sub (x : Rat) : |(roundHalfEven x : Rat) - x| ≤ 1 / 2 := by
  have hlow : (x.floor : Rat) ≤ x := Rat.floor_le x
  have hhigh : x < x.floor + 1 := by linarith [@Rat.lt_floor x]
  simp only [roundHalfEven]
  rw [abs_le]
  split
  · constructor <;> linarith
  · split
    · push_cast
      constructor <;> linarith
    · split
      · constructor <;> linarith
      · push_cast
        constructor <;> linarith

theorem quantum_pos (prec : Nat) (x : Rat) : 0 < quantum prec x := zpow_pos (by norm_num) _

theorem abs_fix_sub (prec : Nat) (x : Rat) : |fix prec x - x| ≤ |x| * (10 : Rat) ^ (1 - prec : Int) / 2 := by
  unfold fix
  split
  · rename_i hzero
    simp [hzero]
  · rename_i hne
    have hq := quantum_pos prec x
    have hscale : roundHalfEven (x / quantum prec x) * quantum prec x - x =
        (roundHalfEven (x / quantum prec x) - x / quantum prec x) * quantum prec x := by
      rw [sub_mul, div_mul_cancel₀ _ hq.ne']
    have hlast : quantum prec x ≤ |x| * (10 : Rat) ^ (1 - prec : Int) := by
      have hlead : (10 : Rat) ^ Int.log 10 |x| ≤ |x| := by
        exact_mod_cast Int.zpow_log_le_self (by norm_num) (abs_pos.mpr hne)
      calc quantum prec x = (10 : Rat) ^ Int.log 10 |x| * (10 : Rat) ^ (1 - prec : Int) := by
            rw [quantum, ← zpow_add₀ (by norm_num), add_sub_assoc]
        _ ≤ |x| * (10 : Rat) ^ (1 - prec : Int) := mul_le_mul_of_nonneg_right hlead (zpow_nonneg (by norm_num) _)
    rw [hscale, abs_mul, abs_of_pos hq]
    calc _ ≤ 1 / 2 * quantum prec x := mul_le_mul_of_nonneg_right (abs_roundHalfEven_sub _) hq.le
      _ ≤ |x| * (10 : Rat) ^ (1 - prec : Int) / 2 := by linarith

/-- A positive quotient of two numbers on a grid keeps the integers around it, where the numerator has a digit to
    spare. -/
theorem between_fix_div {n : Int} (hx : OnGrid prec unit x) (hy : OnGrid prec unit y) (hxpos : 0 < x) (hypos : 0 < y) :
    (n ≤ fix (prec + 1) (x / y) ↔ n ≤ x / y) ∧ (fix (prec + 1) (x / y) ≤ n ↔ x / y ≤ n) := by
  obtain ⟨a, ha⟩ := hx.multiple
  obtain ⟨b, hb⟩ := hy.multiple
  have hunit : (0 : Rat) < 10 ^ unit := zpow_pos (by norm_num) _
  have hbpos : (0 : Rat) < b := by
    rw [hb] at hypos
    exact pos_of_mul_pos_left hypos hunit.le
  have hquot : x / y = a / b := by rw [ha, hb, mul_div_mul_right _ _ hunit.ne']
  have haSmall : (a : Rat) < 10 ^ prec := by
    have hsmall := hx.small
    rw [abs_of_pos hxpos, ha, zpow_add₀ (by norm_num)] at hsmall
    exact_mod_cast lt_of_mul_lt_mul_right hsmall hunit.le
  have hquotPos : 0 < x / y := div_pos hxpos hypos
  -- Rounding moves the quotient by less than one part of the denominator.
  have hmove : |fix (prec + 1) (x / y) - x / y| * b < 1 := by
    have herror := abs_fix_sub (prec + 1) (x / y)
    have hpow : (10 : Rat) ^ (1 - (prec + 1 : Nat) : Int) = (10 ^ prec : Rat)⁻¹ := by
      rw [← zpow_natCast, ← zpow_neg]
      congr 1
      push_cast
      ring
    have hten : (0 : Rat) < 10 ^ prec := by positivity
    rw [abs_of_pos hquotPos, hpow] at herror
    have hpart : x / y * (10 ^ prec : Rat)⁻¹ / 2 * b = a * (10 ^ prec : Rat)⁻¹ / 2 := by
      rw [hquot]
      field_simp
    have hless : (a : Rat) * (10 ^ prec : Rat)⁻¹ < 1 := by
      rw [← div_eq_mul_inv, div_lt_one hten]
      exact haSmall
    calc _ ≤ x / y * (10 ^ prec : Rat)⁻¹ / 2 * b := mul_le_mul_of_nonneg_right herror hbpos.le
      _ = a * (10 ^ prec : Rat)⁻¹ / 2 := hpart
      _ < 1 := by linarith
  by_cases heq : x / y = n
  · have hgrid : OnGrid (prec + 1) 0 (x / y) := by
      refine ⟨⟨n, by rw [heq, zpow_zero, mul_one]⟩, ?_⟩
      have hbOne : (1 : Rat) ≤ b := by exact_mod_cast Int.add_one_le_iff.mpr (by exact_mod_cast hbpos : (0 : Int) < b)
      have hle : x / y ≤ a := by
        rw [hquot]
        exact div_le_self (by rw [ha] at hxpos; exact (pos_of_mul_pos_left hxpos hunit.le).le) hbOne
      rw [abs_of_pos hquotPos]
      have hten : (10 : Rat) ^ prec ≤ 10 ^ (((prec + 1 : Nat) : Int) + 0) := by
        rw [← zpow_natCast]
        exact zpow_le_zpow_right₀ (by norm_num) (by push_cast; omega)
      exact (hle.trans_lt haSmall).trans_le hten
    rw [hgrid.fix_eq]
    exact ⟨Iff.rfl, Iff.rfl⟩
  · -- Off the integer the quotient lies at least one part of the denominator away from it.
    have hapart : 1 ≤ |x / y - n| * b := by
      have hint : (x / y - n) * b = ((a - n * b : Int) : Rat) := by
        rw [hquot, sub_mul, div_mul_cancel₀ _ hbpos.ne']
        push_cast
        ring
      have hne : a - n * b ≠ 0 := by
        intro hzero
        rw [hzero, Int.cast_zero, mul_eq_zero, sub_eq_zero] at hint
        rcases hint with hint | hint
        · exact heq hint
        · exact hbpos.ne' hint
      have habs : |x / y - n| * b = ((|a - n * b| : Int) : Rat) := by
        rw [← abs_of_pos hbpos, ← abs_mul, hint, Int.cast_abs]
      rw [habs]
      exact_mod_cast Int.one_le_abs hne
    have hcloser : |fix (prec + 1) (x / y) - x / y| < |x / y - n| :=
      lt_of_mul_lt_mul_right (hmove.trans_le hapart) hbpos.le
    have hsides := abs_lt.mp hcloser
    rcases lt_or_gt_of_ne heq with hlt | hgt
    · rw [abs_of_neg (sub_neg.mpr hlt)] at hsides
      constructor
      · constructor <;> intro h <;> linarith
      · constructor <;> intro h <;> linarith
    · rw [abs_of_pos (sub_pos.mpr hgt)] at hsides
      constructor
      · constructor <;> intro h <;> linarith
      · constructor <;> intro h <;> linarith

theorem floor_fix_div (hx : OnGrid prec unit x) (hy : OnGrid prec unit y) (hxpos : 0 < x) (hypos : 0 < y) :
    (fix (prec + 1) (x / y)).floor = (x / y).floor := by
  refine eq_of_forall_le_iff fun n => ?_
  rw [Rat.le_floor_iff, Rat.le_floor_iff]
  exact (between_fix_div hx hy hxpos hypos).1

theorem ceil_fix_div (hx : OnGrid prec unit x) (hy : OnGrid prec unit y) (hxpos : 0 < x) (hypos : 0 < y) :
    (fix (prec + 1) (x / y)).ceil = (x / y).ceil := by
  refine eq_of_forall_ge_iff fun n => ?_
  rw [Rat.ceil_le_iff, Rat.ceil_le_iff]
  exact (between_fix_div hx hy hxpos hypos).2

end Decimal
end Lib
