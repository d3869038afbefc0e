import QuantX.Lib.Window
import Mathlib.Data.List.Perm.Basic
import Mathlib.Order.Lattice

/-! Runs over lists that are sorted by a time. Where the steps of one time commute, a fold sees only which items there are. -/

namespace Lib
universe u
variable {α : Type} {σ κ : Type u}

section Sorted
variable [LinearOrder κ] {time : α → κ} {l l' : List α}

def Timed (time : α → κ) (l : List α) : Prop := l.Pairwise fun a b => time a ≤ time b

theorem Timed.filter (h : Timed time l) (p : α → Bool) : Timed time (l.filter p) := List.Pairwise.filter p h

theorem Timed.replace {a : α} {parts : List α} (h : Timed time (l ++ a :: l')) (hparts : ∀ b ∈ parts, time b = time a) :
    Timed time (l ++ parts ++ l') := by
  obtain ⟨hl, hrest, hcross⟩ := List.pairwise_append.mp h
  obtain ⟨hhead, hl'⟩ := List.pairwise_cons.mp hrest
  have hmiddle : parts.Pairwise fun b c => time b ≤ time c :=
    List.pairwise_of_forall_mem_list fun b hb c hc => by rw [hparts b hb, hparts c hc]
  refine List.pairwise_append.mpr ⟨List.pairwise_append.mpr ⟨hl, hmiddle, fun b hb c hc => ?_⟩, hl', fun b hb c hc => ?_⟩
  · rw [hparts c hc]
    exact hcross b hb a List.mem_cons_self
  · rcases List.mem_append.mp hb with hb | hb
    · exact hcross b hb c (List.mem_cons_of_mem a hc)
    · rw [hparts b hb]
      exact hhead c hc

theorem Timed.until (h : Timed time l) (t : κ) : l.filter (time · ≤ t) ++ l.filter (fun a => !decide (time a ≤ t)) = l := by
  refine filter_append_filter_not (List.Pairwise.imp ?_ h)
  intro a b hle hb
  simp only [decide_eq_true_eq] at hb ⊢
  exact hle.trans hb

theorem Timed.before (h : Timed time l) (t : κ) : l.filter (time · < t) ++ l.filter (fun a => !decide (time a < t)) = l := by
  refine filter_append_filter_not (List.Pairwise.imp ?_ h)
  intro a b hle hb
  simp only [decide_eq_true_eq] at hb ⊢
  exact hle.trans_lt hb

theorem foldl_pull {step : σ → α → σ} {a : α} {l : List α} (h : ∀ b ∈ l, ∀ s, step (step s a) b = step (step s b) a)
    (s : σ) : l.foldl step (step s a) = step (l.foldl step s) a := by
  induction l generalizing s with
  | nil => rfl
  | cons b l ih =>
    rw [List.foldl_cons, h b List.mem_cons_self, ih fun c hc => h c (List.mem_cons_of_mem b hc)]
    rfl

theorem foldl_timed {step : σ → α → σ} (hcomm : ∀ a ∈ l, ∀ b ∈ l, time a = time b → ∀ s, step (step s a) b = step (step s b) a)
    (hl : Timed time l) (hl' : Timed time l') (hperm : l.Perm l') (s : σ) : l.foldl step s = l'.foldl step s := by
  induction l generalizing l' s with
  | nil => rw [List.nil_perm.mp hperm]
  | cons a l ih =>
    obtain ⟨first, last, rfl⟩ := List.append_of_mem (hperm.mem_iff.mp List.mem_cons_self)
    obtain ⟨hfirst, hlast⟩ := List.pairwise_cons.mp hl
    have hrest : l.Perm (first ++ last) := (hperm.trans List.perm_middle).cons_inv
    have hsame : ∀ b ∈ first, ∀ s, step (step s a) b = step (step s b) a := by
      intro b hb
      have hmem : b ∈ l := hrest.mem_iff.mpr (List.mem_append_left last hb)
      have hle : time b ≤ time a := (List.pairwise_append.mp hl').2.2 b hb a List.mem_cons_self
      exact hcomm a List.mem_cons_self b (List.mem_cons_of_mem a hmem) (le_antisymm (hfirst b hmem) hle)
    have hsorted : Timed time (first ++ last) :=
      List.Pairwise.sublist (List.Sublist.append_left (List.sublist_cons_self a last) first) hl'
    have hinner : ∀ b ∈ l, ∀ c ∈ l, time b = time c → ∀ s, step (step s b) c = step (step s c) b :=
      fun b hb c hc => hcomm b (List.mem_cons_of_mem a hb) c (List.mem_cons_of_mem a hc)
    calc (a :: l).foldl step s = (first ++ last).foldl step (step s a) := ih hinner hlast hsorted hrest (step s a)
      _ = last.foldl step (step (first.foldl step s) a) := by rw [List.foldl_append, foldl_pull hsame]
      _ = (first ++ a :: last).foldl step s := by rw [List.foldl_append, List.foldl_cons]

end Sorted

section Guarded
variable {step : σ → α → σ} {ok : σ → α → Prop} {s : σ} {l l' : List α}

def Guarded (step : σ → α → σ) (ok : σ → α → Prop) : σ → List α → Prop
  | _, [] => True
  | s, a :: l => ok s a ∧ Guarded step ok (step s a) l

theorem guarded_append : Guarded step ok s (l ++ l') ↔ Guarded step ok s l ∧ Guarded step ok (l.foldl step s) l' := by
  induction l generalizing s with
  | nil => simp [Guarded]
  | cons a l ih => simp [Guarded, ih, and_assoc]

theorem guarded_iff : Guarded step ok s l ↔ ∀ first a last, l = first ++ a :: last → ok (first.foldl step s) a := by
  constructor
  · rintro h first a last rfl
    exact (guarded_append.mp h).2.1
  · intro h
    induction l generalizing s with
    | nil => trivial
    | cons a l ih =>
      refine ⟨h [] a l rfl, ih fun first b last hl => ?_⟩
      exact h (a :: first) b last (by rw [hl, List.cons_append])

theorem Guarded.start (h : Guarded step ok s l) (hfirst : l' <+: l) : Guarded step ok s l' := by
  obtain ⟨rest, rfl⟩ := hfirst
  exact (guarded_append.mp h).1

theorem Guarded.invariant (Inv : List α → σ → Prop) (hstart : Inv [] s)
    (hstep : ∀ taken s a, Inv taken s → ok s a → a ∈ l → Inv (taken ++ [a]) (step s a)) (h : Guarded step ok s l) :
    Inv l (l.foldl step s) := by
  induction l using List.reverseRecOn with
  | nil => exact hstart
  | append_singleton l a ih =>
    obtain ⟨hl, ha, -⟩ := guarded_append.mp h
    rw [List.foldl_append]
    refine hstep l _ a (ih (fun taken s b hinv hok hb => ?_) hl) ha (List.mem_append_right l List.mem_cons_self)
    exact hstep taken s b hinv hok (List.mem_append_left [a] hb)

end Guarded
end Lib
