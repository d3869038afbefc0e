import QuantX.Lib.Dict

/-! An index from keys to the only value that has the key. A key that two values share stays in the index
    without a value, so that it resolves to nothing. -/

namespace Lib
variable {α κ : Type} [DecidableEq α] [DecidableEq κ]

def note (key : α → κ) (index : Dict κ (Option α)) (a : α) : Dict κ (Option α) :=
  index.set (key a) (if index.get? (key a) = none ∨ index.get? (key a) = some (some a) then some a else none)

structure Resolves (key : α → κ) (index : Dict κ (Option α)) (known : α → Prop) : Prop where
  absent : ∀ k, index.get? k = none ↔ ∀ a, known a → key a ≠ k
  unique : ∀ k a, index.get? k = some (some a) ↔ (known a ∧ key a = k) ∧ ∀ b, known b → key b = k → b = a

namespace Resolves
variable {key : α → κ} {index : Dict κ (Option α)} {known known' : α → Prop} {a : α}

omit [DecidableEq α] in
theorem empty (key : α → κ) : Resolves key .empty fun _ => False := by
  refine ⟨fun k => ?_, fun k a => ?_⟩
  · simp
  · simp

omit [DecidableEq α] in
theorem congr (h : Resolves key index known) (hsame : ∀ a, known' a ↔ known a) : Resolves key index known' := by
  obtain rfl : known' = known := funext fun a => propext (hsame a)
  exact h

theorem note (h : Resolves key index known) (hnew : ¬ known a) : Resolves key (note key index a) fun b => b = a ∨ known b := by
  have hother : index.get? (key a) ≠ some (some a) := fun hget => hnew ((h.unique _ _).mp hget).1.1
  have hget : ∀ k, (Lib.note key index a).get? k =
      if key a = k then some (if index.get? (key a) = none then some a else none) else index.get? k := by
    intro k
    rw [Lib.note, Dict.get?_set]
    simp [hother]
  refine ⟨fun k => ?_, fun k b => ?_⟩
  · rw [hget]
    split
    · rename_i hk
      simp only [reduceCtorEq, false_iff, not_forall]
      exact ⟨a, .inl rfl, fun hne => hne hk⟩
    · rename_i hk
      rw [h.absent]
      constructor
      · rintro hfree c (rfl | hc)
        · exact hk
        · exact hfree c hc
      · exact fun hfree c hc => hfree c (.inr hc)
  · rw [hget]
    by_cases hk : key a = k
    · subst hk
      rw [if_pos rfl, Option.some.injEq]
      by_cases hfree : index.get? (key a) = none
      · rw [if_pos hfree, Option.some.injEq]
        have hnone := (h.absent _).mp hfree
        constructor
        · rintro rfl
          exact ⟨⟨.inl rfl, rfl⟩, fun c hc hkey => hc.resolve_right fun hc => hnone c hc hkey⟩
        · exact fun hb => hb.2 a (.inl rfl) rfl
      · rw [if_neg hfree]
        -- Another value has the key, so no value is the only one.
        simp only [reduceCtorEq, false_iff]
        intro hb
        have hsome := mt (h.absent _).mpr hfree
        push Not at hsome
        obtain ⟨c, hc, hkey⟩ := hsome
        obtain rfl := hb.2 a (.inl rfl) rfl
        exact hnew (hb.2 c (.inr hc) hkey ▸ hc)
    · rw [if_neg hk, h.unique]
      constructor
      · rintro ⟨⟨hb, hkey⟩, honly⟩
        exact ⟨⟨.inr hb, hkey⟩, fun c hc hkey' => honly c (hc.resolve_left fun heq => hk (heq ▸ hkey')) hkey'⟩
      · rintro ⟨⟨hb, hkey⟩, honly⟩
        exact ⟨⟨hb.resolve_left fun heq => hk (heq ▸ hkey), hkey⟩, fun c hc => honly c (.inr hc)⟩

theorem foldl (key : α → κ) {l : List α} (hl : l.Nodup) : Resolves key (l.foldl (Lib.note key) .empty) (· ∈ l) := by
  induction l using List.reverseRecOn with
  | nil => exact (empty key).congr fun a => by simp
  | append_singleton l a ih =>
    obtain ⟨hl, -, hdisjoint⟩ := List.nodup_append.mp hl
    rw [List.foldl_append]
    refine ((ih hl).note (a := a) fun hmem => hdisjoint a hmem a (List.mem_singleton_self a) rfl).congr fun b => ?_
    rw [List.mem_append, List.mem_singleton, or_comm]

end Resolves
end Lib
