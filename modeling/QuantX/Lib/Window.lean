import Mathlib.Data.List.Chain

/-! The last items of a list: what a rolling window of bounded size still remembers, and how a window of a
    growing list lies over the part of it that a reader has taken. -/

namespace Lib
variable {α : Type}

/-- The last `n` items. -/
def recent (n : Nat) (l : List α) : List α := l.drop (l.length - n)

theorem recent_sublist (n : Nat) (l : List α) : (recent n l).Sublist l := List.drop_sublist _ _

theorem recent_concat (n : Nat) (l : List α) (x : α) : recent (n + 1) (l ++ [x]) = recent n l ++ [x] := by
  have hle : l.length + 1 - (n + 1) ≤ l.length := by omega
  rw [recent, List.length_append, List.length_singleton, List.drop_append_of_le_length hle, recent]
  congr 2
  omega

theorem recent_recent {m n : Nat} (h : m ≤ n) (l : List α) : recent m (recent n l) = recent m l := by
  unfold recent
  rw [List.length_drop, List.drop_drop]
  congr 1
  omega

theorem recent_suffix (n : Nat) (l : List α) : recent n l <:+ l := List.drop_suffix _ _

/-- A suffix of `taken ++ left` reaches into what was taken, or has lost something of what is left. -/
theorem suffix_append_cases {window taken left : List α} (h : window <:+ taken ++ left) :
    (∃ kept, kept <:+ taken ∧ window = kept ++ left) ∨ ∃ lost, lost ≠ [] ∧ left = lost ++ window := by
  rcases List.suffix_or_suffix_of_suffix h (List.suffix_append taken left) with hshort | ⟨kept, rfl⟩
  · obtain ⟨lost, rfl⟩ := hshort
    by_cases hlost : lost = []
    · subst hlost
      exact .inl ⟨[], List.nil_suffix, rfl⟩
    · exact .inr ⟨lost, hlost, rfl⟩
  · exact .inl ⟨kept, List.suffix_append_self_iff.mp h, rfl⟩

theorem filter_append_filter_not {p : α → Bool} {l : List α} (h : l.Pairwise fun a b => p b = true → p a = true) :
    l.filter p ++ l.filter (fun a => !p a) = l := by
  induction l with
  | nil => rfl
  | cons a l ih =>
    obtain ⟨hhead, htail⟩ := List.pairwise_cons.mp h
    cases ha : p a with
    | true => simp [ha, ih htail]
    | false =>
      have hnone : ∀ b ∈ l, p b = false := by
        intro b hb
        by_contra hne
        have hpa := hhead b hb (by simpa using hne)
        rw [ha] at hpa
        cases hpa
      have hleft : l.filter p = [] := List.filter_eq_nil_iff.mpr fun b hb => by simp [hnone b hb]
      have hright : l.filter (fun b => !p b) = l := List.filter_eq_self.mpr fun b hb => by simp [hnone b hb]
      simp [ha, hleft, hright]

end Lib
