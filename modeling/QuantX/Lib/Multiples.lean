import Mathlib.Algebra.Order.Floor.Ring

/-! Searching a bound by halving. On a condition that holds below whatever it holds at, the last number that fits is found. -/

namespace Lib
variable {fits : Nat → Prop} [DecidablePred fits] {low high : Nat}

/-- The last number from `low` to `high` that fits. -/
def lastFit (fits : Nat → Prop) [DecidablePred fits] (low high : Nat) : Nat :=
  if low < high then
    if fits ((low + high + 1) / 2) then lastFit fits ((low + high + 1) / 2) high
    else lastFit fits low ((low + high + 1) / 2 - 1)
  else low
termination_by high - low

theorem lastFit_range (hrange : low ≤ high) : low ≤ lastFit fits low high ∧ lastFit fits low high ≤ high := by
  induction low, high using lastFit.induct fits with
  | case1 low high hlt hfits ih =>
    rw [lastFit, if_pos hlt, if_pos hfits]
    have := ih (by omega)
    omega
  | case2 low high hlt hfits ih =>
    rw [lastFit, if_pos hlt, if_neg hfits]
    have := ih (by omega)
    omega
  | case3 low high hlt =>
    rw [lastFit, if_neg hlt]
    omega

theorem lastFit_fits (hlow : fits low) : fits (lastFit fits low high) := by
  induction low, high using lastFit.induct fits with
  | case1 low high hlt hfits ih =>
    rw [lastFit, if_pos hlt, if_pos hfits]
    exact ih hfits
  | case2 low high hlt hfits ih =>
    rw [lastFit, if_pos hlt, if_neg hfits]
    exact ih hlow
  | case3 low high hlt =>
    rw [lastFit, if_neg hlt]
    exact hlow

theorem le_lastFit (hdown : ∀ m n, m ≤ n → fits n → fits m) {n : Nat} (hn : fits n) (hhigh : n ≤ high) :
    n ≤ low ∨ n ≤ lastFit fits low high := by
  induction low, high using lastFit.induct fits with
  | case1 low high hlt hfits ih =>
    rw [lastFit, if_pos hlt, if_pos hfits]
    rcases ih hhigh with hle | hle
    · have hrange : (low + high + 1) / 2 ≤ high := by omega
      exact .inr (hle.trans (lastFit_range hrange).1)
    · exact .inr hle
  | case2 low high hlt hfits ih =>
    rw [lastFit, if_pos hlt, if_neg hfits]
    refine ih ?_
    -- A number from the middle on would carry the condition down to the middle.
    have hbelow : ¬(low + high + 1) / 2 ≤ n := fun hle => hfits (hdown _ _ hle hn)
    omega
  | case3 low high hlt =>
    exact .inl (by omega)

theorem lastFit_isGreatest (hdown : ∀ m n, m ≤ n → fits n → fits m) (hlow : fits low) (hrange : low ≤ high) :
    IsGreatest {n | n ≤ high ∧ fits n} (lastFit fits low high) := by
  refine ⟨⟨(lastFit_range hrange).2, lastFit_fits hlow⟩, ?_⟩
  rintro n ⟨hhigh, hn⟩
  rcases le_lastFit hdown hn hhigh with hle | hle
  · exact hle.trans (lastFit_range hrange).1
  · exact hle

end Lib

/-! Whole multiples of a unit, as lots and price ticks are. Rounding down gives the greatest multiple that is not
    above a number, rounding up the least one that is not below it. -/

namespace Lib
variable {K : Type*} [Field K] [LinearOrder K] [IsStrictOrderedRing K] [FloorRing K] {unit x y : K}

def IsMultiple (unit x : K) : Prop := ∃ n : Int, x = n * unit

def floorTo (unit x : K) : K := ⌊x / unit⌋ * unit

def ceilTo (unit x : K) : K := ⌈x / unit⌉ * unit

theorem floorTo_le (hunit : 0 < unit) : floorTo unit x ≤ x := (le_div_iff₀ hunit).mp (Int.floor_le _)

theorem le_ceilTo (hunit : 0 < unit) : x ≤ ceilTo unit x := (div_le_iff₀ hunit).mp (Int.le_ceil _)

theorem floorTo_isGreatest (hunit : 0 < unit) (x : K) : IsGreatest {y | IsMultiple unit y ∧ y ≤ x} (floorTo unit x) := by
  refine ⟨⟨⟨_, rfl⟩, floorTo_le hunit⟩, ?_⟩
  rintro y ⟨⟨n, rfl⟩, hle⟩
  have hfloor : n ≤ ⌊x / unit⌋ := Int.le_floor.mpr ((le_div_iff₀ hunit).mpr hle)
  exact mul_le_mul_of_nonneg_right (Int.cast_le.mpr hfloor) hunit.le

theorem ceilTo_isLeast (hunit : 0 < unit) (x : K) : IsLeast {y | IsMultiple unit y ∧ x ≤ y} (ceilTo unit x) := by
  refine ⟨⟨⟨_, rfl⟩, le_ceilTo hunit⟩, ?_⟩
  rintro y ⟨⟨n, rfl⟩, hle⟩
  have hceil : ⌈x / unit⌉ ≤ n := Int.ceil_le.mpr ((div_le_iff₀ hunit).mpr hle)
  exact mul_le_mul_of_nonneg_right (Int.cast_le.mpr hceil) hunit.le

theorem div_mul_isGreatest {unit : Int} (hunit : 0 < unit) (n : Int) :
    IsGreatest {m | unit ∣ m ∧ m ≤ n} (n / unit * unit) := by
  refine ⟨⟨Dvd.intro_left _ rfl, Int.ediv_mul_le _ hunit.ne'⟩, ?_⟩
  rintro m ⟨⟨k, rfl⟩, hle⟩
  have hk : k ≤ n / unit := (Int.le_ediv_iff_mul_le hunit).mpr (by rwa [mul_comm])
  rw [mul_comm]
  exact mul_le_mul_of_nonneg_right hk hunit.le

end Lib
