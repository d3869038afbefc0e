import Mathlib.Data.List.Intervals

/-! The items of a feed that pass: an item passes by the last one that did, and is forgotten else. -/

namespace Lib
variable {τ : Type} (passes : Option τ → τ → Bool)
variable {xs : List τ} {last : Option τ}

def passing : Option τ → List τ → List τ
  | _, [] => []
  | last, x :: xs => if passes last x then x :: passing (some x) xs else passing last xs

@[simp] theorem passing_nil (last : Option τ) : passing passes last [] = [] := rfl

theorem passing_append (last : Option τ) (xs ys : List τ) :
    passing passes last (xs ++ ys) = passing passes last xs ++ passing passes ((passing passes last xs).getLast?.or last) ys := by
  induction xs generalizing last with
  | nil => simp
  | cons x xs ih =>
    simp only [List.cons_append, passing]
    split
    · rw [ih, List.getLast?_cons]
      cases (passing passes (some x) xs).getLast? <;> rfl
    · exact ih last

theorem passing_eq_nil (h : ∀ x ∈ xs, passes last x = false) : passing passes last xs = [] := by
  induction xs with
  | nil => rfl
  | cons x xs ih =>
    obtain ⟨hx, hxs⟩ := List.forall_mem_cons.mp h
    rw [passing, hx, if_neg Bool.false_ne_true, ih hxs]

theorem mem_of_mem_passing {x : τ} (h : x ∈ passing passes last xs) : x ∈ xs := by
  induction xs generalizing last with
  | nil => simp at h
  | cons y xs ih =>
    rw [passing] at h
    split at h
    · rcases List.mem_cons.mp h with rfl | h
      · exact List.mem_cons_self ..
      · exact List.mem_cons_of_mem _ (ih h)
    · exact List.mem_cons_of_mem _ (ih h)

theorem passes_of_mem_passing {x : τ} (h : x ∈ passing passes last xs) : ∃ before, passes before x = true := by
  induction xs generalizing last with
  | nil => simp at h
  | cons y xs ih =>
    rw [passing] at h
    split at h
    · rename_i hy
      rcases List.mem_cons.mp h with rfl | h
      · exact ⟨last, hy⟩
      · exact ih h
    · exact ih h

theorem passing_eq_filter {kind : τ → Bool} (hpassing : ∀ x ∈ passing passes last xs, kind x = true)
    (hpasses : xs.Pairwise fun x y => kind x = true → kind y = true → passes (some x) y = true)
    (hfirst : ∀ x ∈ xs, kind x = true → passes last x = true) : passing passes last xs = xs.filter kind := by
  induction xs generalizing last with
  | nil => rfl
  | cons x xs ih =>
    obtain ⟨hx, hxs⟩ := List.pairwise_cons.mp hpasses
    rw [passing] at hpassing ⊢
    cases hkind : kind x with
    | true =>
      have hp := hfirst x (List.mem_cons_self ..) hkind
      rw [if_pos hp] at hpassing ⊢
      rw [List.filter_cons_of_pos hkind, ih (fun y hy => hpassing y (List.mem_cons_of_mem _ hy)) hxs fun y hy => hx y hy hkind]
    | false =>
      have hp : passes last x = false := by
        cases hp : passes last x with
        | false => rfl
        | true =>
          rw [if_pos hp] at hpassing
          rw [hpassing x (List.mem_cons_self ..)] at hkind
          cases hkind
      rw [hp, if_neg Bool.false_ne_true] at hpassing ⊢
      rw [List.filter_cons_of_neg (by simp [hkind]), ih hpassing hxs fun y hy => hfirst y (List.mem_cons_of_mem _ hy)]

variable (feed : ℕ → τ)

/-- The items `first, …, next - 1`. -/
def stretch (first next : ℕ) : List τ := (List.Ico first next).map feed

theorem stretch_append {first middle next : ℕ} (h : first ≤ middle) (h' : middle ≤ next) :
    stretch feed first next = stretch feed first middle ++ stretch feed middle next := by
  rw [stretch, ← List.Ico.append_consecutive h h', List.map_append]
  rfl

theorem stretch_one (first : ℕ) : stretch feed first (first + 1) = [feed first] := by
  rw [stretch, List.Ico.succ_singleton, List.map_singleton]

theorem mem_stretch {first next : ℕ} {x : τ} : x ∈ stretch feed first next ↔ ∃ i, first ≤ i ∧ i < next ∧ feed i = x := by
  simp [stretch, and_assoc]

theorem pairwise_stretch {R : τ → τ → Prop} (h : ∀ i j, i < j → R (feed i) (feed j)) (first next : ℕ) :
    (stretch feed first next).Pairwise R :=
  List.pairwise_map.mpr ((List.Ico.pairwise_lt first next).imp fun hij => h _ _ hij)

theorem passing_stretch_succ {first last next : ℕ} (hfirst : first ≤ last) (hnext : last < next)
    (hxs : passing passes none (stretch feed first (last + 1)) = xs) (hlast : xs.getLast? = some (feed last))
    (hbetween : ∀ i, last < i → i < next → passes (some (feed last)) (feed i) = false) :
    passing passes none (stretch feed first next) = xs := by
  have hnone : passing passes (some (feed last)) (stretch feed (last + 1) next) = [] := by
    apply passing_eq_nil
    intro x hx
    obtain ⟨i, hi, hi', rfl⟩ := (mem_stretch feed).mp hx
    exact hbetween i hi hi'
  rw [stretch_append feed (hfirst.trans (Nat.le_succ last)) hnext, passing_append, hxs, hlast, Option.some_or, hnone, List.append_nil]

end Lib
