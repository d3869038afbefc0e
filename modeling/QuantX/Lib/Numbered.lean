import Mathlib.Data.List.Basic

/-! Names that end in a colon and a number. The digits of a number contain no colon, so the last colon of a name
    divides it, even if what comes before has colons of its own. -/

namespace Lib

theorem append_separator_inj {α : Type} {separator : α} {l l' m m' : List α} (hm : separator ∉ m) (hm' : separator ∉ m')
    (h : l ++ separator :: m = l' ++ separator :: m') : l = l' ∧ m = m' := by
  rcases List.append_eq_append_iff.mp h with ⟨c, hl, hc⟩ | ⟨c, hl, hc⟩
  · cases c with
    | nil =>
      rw [List.append_nil] at hl
      exact ⟨hl.symm, (List.cons.inj hc).2⟩
    | cons x c =>
      have htail : m = c ++ separator :: m' := (List.cons.inj hc).2
      exact absurd (htail ▸ List.mem_append_right c List.mem_cons_self) hm
  · cases c with
    | nil =>
      rw [List.append_nil] at hl
      exact ⟨hl, (List.cons.inj hc).2.symm⟩
    | cons x c =>
      have htail : m' = c ++ separator :: m := (List.cons.inj hc).2
      exact absurd (htail ▸ List.mem_append_right c List.mem_cons_self) hm'

theorem toList_toString {n : Int} (hn : 0 ≤ n) : (toString n).toList = Nat.toDigits 10 n.toNat := by
  rw [Int.toString_eq_repr, Int.repr_eq_if, if_pos hn, Nat.toList_repr]

theorem colon_notMem_toString {n : Int} (hn : 0 ≤ n) : ':' ∉ (toString n).toList := by
  intro hmem
  rw [toList_toString hn] at hmem
  exact absurd (Nat.isDigit_of_mem_toDigits (by decide) (by decide) hmem) (by decide)

theorem toString_inj {n n' : Int} (hn : 0 ≤ n) (hn' : 0 ≤ n') (h : (toString n).toList = (toString n').toList) : n = n' := by
  rw [toList_toString hn, toList_toString hn'] at h
  have hdigits := congrArg (Nat.ofDigitChars 10 · 0) h
  simp only [Nat.ofDigitChars_ten_toDigits] at hdigits
  rw [← Int.toNat_of_nonneg hn, ← Int.toNat_of_nonneg hn', hdigits]

def decimal? (digits : List Char) : Option Int :=
  if digits ≠ [] ∧ digits.all Char.isDigit then some (Nat.ofDigitChars 10 digits 0) else none

theorem decimal?_toString {n : Int} (hn : 0 ≤ n) : decimal? (toString n).toList = some n := by
  rw [toList_toString hn, decimal?, if_pos]
  · rw [Nat.ofDigitChars_ten_toDigits, Int.toNat_of_nonneg hn]
  · refine ⟨Nat.toDigits_ne_nil, ?_⟩
    rw [List.all_eq_true]
    intro c hc
    exact Nat.isDigit_of_mem_toDigits (by decide) (by decide) hc

theorem numbered_inj {family name name' : String} {n n' : Int} (hn : 0 ≤ n) (hn' : 0 ≤ n')
    (h : family ++ name ++ ":" ++ toString n = family ++ name' ++ ":" ++ toString n') : name = name' ∧ n = n' := by
  have hlist := congrArg String.toList h
  simp only [String.toList_append, List.append_assoc] at hlist
  obtain ⟨hname, hnumber⟩ := append_separator_inj (colon_notMem_toString hn) (colon_notMem_toString hn')
    (List.append_cancel_left hlist)
  exact ⟨String.toList_inj.mp hname, toString_inj hn hn' hnumber⟩

end Lib
