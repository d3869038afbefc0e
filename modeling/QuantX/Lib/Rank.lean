import Mathlib.Data.List.MinMax
import Mathlib.Algebra.Order.Group.Int
import Mathlib.Data.List.Sort
import Mathlib.Data.Prod.Lex
import Mathlib.Data.String.Basic

/-! Greatest values that are kept as they come. A value may be missing; a missing one is below every other. -/

namespace Lib
variable {α : Type} [LinearOrder α]

def raise (best value : Option α) : Option α :=
  match value with
  | none => best
  | some x => some (best.elim x (max x))

def AtMost (a b : Option α) : Prop := ∀ x ∈ a, ∃ y ∈ b, x ≤ y

theorem AtMost.refl (a : Option α) : AtMost a a := fun x hx => ⟨x, hx, le_refl x⟩

theorem AtMost.trans {a b c : Option α} (h : AtMost a b) (h' : AtMost b c) : AtMost a c := by
  intro x hx
  obtain ⟨y, hy, hxy⟩ := h x hx
  obtain ⟨z, hz, hyz⟩ := h' y hy
  exact ⟨z, hz, hxy.trans hyz⟩

theorem max?_append_toList (value : Option α) (l : List α) : (value.toList ++ l).max? = raise l.max? value := by
  cases value with
  | none => rfl
  | some x => exact List.max?_cons

theorem AtMost.max? {l l' : List α} (h : ∀ x ∈ l, ∃ y ∈ l', x ≤ y) : AtMost l.max? l'.max? := by
  intro x hx
  obtain ⟨y, hy, hxy⟩ := h x (List.max?_mem hx)
  cases hmax : l'.max? with
  | none =>
    rw [List.max?_eq_none_iff.mp hmax] at hy
    cases hy
  | some z => exact ⟨z, rfl, hxy.trans ((List.max?_eq_some_iff.mp hmax).2 y hy)⟩

end Lib

/-! # Ranks

What has a rank in a linear order is compared by it, tuples part by part, and sorted by it; the sort is stable. -/

namespace Lib

@[reducible] def intPreorder : Preorder Int := Int.instLinearOrder.toPreorder

theorem le_foldl_max {n : Nat} (l : List Nat) (start : Nat) (h : n ∈ l ∨ n ≤ start) : n ≤ l.foldl max start := by
  induction l generalizing start with
  | nil => exact h.resolve_left List.not_mem_nil
  | cons m rest ih =>
    refine ih (max start m) ?_
    rcases h with hmem | hle
    · rcases List.mem_cons.mp hmem with rfl | hmem
      · exact .inr (le_max_right _ _)
      · exact .inl hmem
    · exact .inr (hle.trans (le_max_left _ _))

section Sorting
variable {α β : Type} [LinearOrder β] {rank : α → β} {l l' : List α}

/-- `sorted(l, key=rank)`. -/
def sortBy (rank : α → β) (l : List α) : List α := l.insertionSort fun a b => rank a ≤ rank b

local instance rank_total : Std.Total fun a b : α => rank a ≤ rank b := ⟨fun a b => le_total (rank a) (rank b)⟩

local instance rank_trans : IsTrans α fun a b => rank a ≤ rank b := ⟨fun _ _ _ => le_trans⟩

theorem sortBy_perm (rank : α → β) (l : List α) : (sortBy rank l).Perm l := List.perm_insertionSort _ l

@[simp] theorem mem_sortBy {a : α} : a ∈ sortBy rank l ↔ a ∈ l := (sortBy_perm rank l).mem_iff

theorem sortBy_pairwise (rank : α → β) (l : List α) : (sortBy rank l).Pairwise fun a b => rank a ≤ rank b :=
  List.pairwise_insertionSort _ l

theorem sortBy_of_pairwise (h : l.Pairwise fun a b => rank a ≤ rank b) : sortBy rank l = l := h.insertionSort_eq

theorem sortBy_length (rank : α → β) (l : List α) : (sortBy rank l).length = l.length := (sortBy_perm rank l).length_eq

theorem sortBy_pairwise_lt (hinj : ∀ a ∈ l, ∀ b ∈ l, rank a = rank b → a = b) (hnodup : l.Nodup) :
    (sortBy rank l).Pairwise fun a b => rank a < rank b := by
  have hsorted : (sortBy rank l).Nodup := (sortBy_perm rank l).nodup_iff.mpr hnodup
  refine ((sortBy_pairwise rank l).and hsorted).imp_of_mem fun ha hb hpair => ?_
  exact lt_of_le_of_ne hpair.1 fun heq => hpair.2 (hinj _ (mem_sortBy.mp ha) _ (mem_sortBy.mp hb) heq)

theorem sortBy_eq_of_perm (h : l.Perm l') (hinj : ∀ a ∈ l, ∀ b ∈ l, rank a = rank b → a = b) : sortBy rank l = sortBy rank l' := by
  refine List.Perm.eq_of_pairwise (fun a b ha hb hab hba => ?_) (sortBy_pairwise rank l) (sortBy_pairwise rank l')
    ((sortBy_perm rank l).trans (h.trans (sortBy_perm rank l').symm))
  exact hinj a (mem_sortBy.mp ha) b (h.mem_iff.mpr (mem_sortBy.mp hb)) (le_antisymm hab hba)

theorem sortBy_rank_perm (h : l.Perm l') : (sortBy rank l).map rank = (sortBy rank l').map rank := by
  have hsorted : ∀ l : List α, ((sortBy rank l).map rank).Pairwise (· ≤ ·) := fun l => List.pairwise_map.mpr (sortBy_pairwise rank l)
  have hperm := (sortBy_perm rank l).trans (h.trans (sortBy_perm rank l').symm)
  exact List.Perm.eq_of_pairwise (fun _ _ _ _ => le_antisymm) (hsorted l) (hsorted l') (hperm.map rank)

end Sorting
end Lib
