import Mathlib.Data.List.Basic
import Mathlib.Order.Basic

/-! Stretches of a history in which a condition holds without a break. The newest entry of a history comes
    first. -/

namespace Lib
variable {α : Type} (p : α → Bool) (time : α → Int) (span : Int)

/-- The condition holds over consecutive entries of the history, the newest of them `span` after the oldest. -/
def Lasts (history : List α) : Prop := ∃ after held before newest oldest, history = after ++ held ++ before ∧ (∀ x ∈ held, p x) ∧
  held.head? = some newest ∧ held.getLast? = some oldest ∧ span ≤ time newest - time oldest

def stretchStart (history : List α) : Option α := (history.takeWhile p).getLast?

variable {p time span} {x : α} {history : List α}

theorem not_lasts_nil : ¬ Lasts p time span [] := by
  rintro ⟨after, held, before, newest, oldest, hsplit, -, hnewest, -⟩
  obtain ⟨hnil, -⟩ := List.append_eq_nil_iff.mp hsplit.symm
  rw [(List.append_eq_nil_iff.mp hnil).2] at hnewest
  cases hnewest

theorem Lasts.cons (h : Lasts p time span history) (x : α) : Lasts p time span (x :: history) := by
  obtain ⟨after, held, before, newest, oldest, rfl, hheld⟩ := h
  exact ⟨x :: after, held, before, newest, oldest, rfl, hheld⟩

theorem stretchStart_cons_neg (h : p x = false) : stretchStart p (x :: history) = none := by
  rw [stretchStart, List.takeWhile_cons_of_neg (by simp [h])]
  rfl

theorem stretchStart_cons_pos (h : p x = true) : stretchStart p (x :: history) = some ((stretchStart p history).getD x) := by
  rw [stretchStart, List.takeWhile_cons_of_pos h, List.getLast?_cons]
  rfl

theorem stretchStart_mem {start : α} (h : stretchStart p history = some start) : start ∈ history :=
  (List.takeWhile_prefix p).subset (List.mem_of_getLast? h)

theorem lasts_cons_iff (hsorted : (x :: history).Pairwise fun a b => time b ≤ time a) :
    Lasts p time span (x :: history) ↔
      Lasts p time span history ∨ p x = true ∧ span ≤ time x - time ((stretchStart p history).getD x) := by
  constructor
  · rintro ⟨after, held, before, newest, oldest, hsplit, hheld, hnewest, holdest, hspan⟩
    rcases after with - | ⟨y, after⟩
    · obtain ⟨rest, rfl⟩ : ∃ rest, held = newest :: rest := by
        cases held with
        | nil => cases hnewest
        | cons y rest => exact ⟨rest, by rw [Option.some.inj hnewest]⟩
      obtain ⟨rfl, hhistory⟩ := List.cons.inj hsplit
      obtain rfl : history = rest ++ before := hhistory
      refine .inr ⟨hheld x List.mem_cons_self, ?_⟩
      -- The longest stretch starts where this one does or before it.
      have hrest : (rest ++ before).takeWhile p = rest ++ before.takeWhile p :=
        List.takeWhile_append_of_pos fun y hy => hheld y (List.mem_cons_of_mem _ hy)
      have hstart : stretchStart p (x :: (rest ++ before)) = ((before.takeWhile p).getLast?.or (some oldest)) := by
        rw [stretchStart, List.takeWhile_cons_of_pos (hheld x List.mem_cons_self), hrest, ← List.cons_append, List.getLast?_append,
          holdest]
      rw [stretchStart_cons_pos (hheld x List.mem_cons_self)] at hstart
      cases hbefore : (before.takeWhile p).getLast? with
      | none =>
        rw [hbefore] at hstart
        rw [Option.some.inj hstart]
        exact hspan
      | some start =>
        rw [hbefore] at hstart
        have hle : time start ≤ time oldest := by
          have hmem : oldest ∈ x :: rest := List.mem_of_getLast? holdest
          have hlater : start ∈ before := (List.takeWhile_prefix p).subset (List.mem_of_getLast? hbefore)
          have happend : ((x :: rest) ++ before).Pairwise fun a b => time b ≤ time a := hsorted
          exact (List.pairwise_append.mp happend).2.2 oldest hmem start hlater
        rw [Option.some.inj hstart]
        omega
    · obtain ⟨-, rfl⟩ := List.cons.inj hsplit
      exact .inl ⟨after, held, before, newest, oldest, rfl, hheld, hnewest, holdest, hspan⟩
  · rintro (hlasts | ⟨hx, hspan⟩)
    · exact hlasts.cons x
    · refine ⟨[], (x :: history).takeWhile p, (x :: history).dropWhile p, x, _, (List.takeWhile_append_dropWhile ..).symm,
        fun y hy => List.all_eq_true.mp List.all_takeWhile y hy, ?_, stretchStart_cons_pos hx, hspan⟩
      rw [List.takeWhile_cons_of_pos hx]
      rfl

theorem lasts_takeWhile_iff {q : α → Bool} : Lasts p time span (history.takeWhile q) ↔
    ∃ after held before newest oldest, history = after ++ held ++ before ∧ (∀ x ∈ after ++ held, q x) ∧ (∀ x ∈ held, p x) ∧
      held.head? = some newest ∧ held.getLast? = some oldest ∧ span ≤ time newest - time oldest := by
  constructor
  · rintro ⟨after, held, before, newest, oldest, hsplit, hheld, hends⟩
    refine ⟨after, held, before ++ history.dropWhile q, newest, oldest, ?_, fun x hx => ?_, hheld, hends⟩
    · rw [← List.append_assoc, ← hsplit, List.takeWhile_append_dropWhile]
    · refine List.all_eq_true.mp (List.all_takeWhile (l := history)) x ?_
      rw [hsplit]
      exact List.mem_append_left _ hx
  · rintro ⟨after, held, before, newest, oldest, rfl, hleading, hheld, hends⟩
    exact ⟨after, held, before.takeWhile q, newest, oldest, List.takeWhile_append_of_pos hleading, hheld, hends⟩

end Lib
