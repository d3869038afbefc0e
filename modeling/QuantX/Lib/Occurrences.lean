import QuantX.Lib.Dict

/-! # Overlapping feeds

Items with a key arrive in several sequences that overlap. -/

namespace Lib
variable {κ α : Type} [DecidableEq κ]

structure Retained (κ α : Type) where
  items : List (κ × α) := []
  counts : Dict κ Nat := .empty

def occurrences (k : κ) (items : List (κ × α)) : Nat := items.countP (·.1 = k)

def retainItem (before : Dict κ Nat) (state : List (κ × α) × Dict κ Nat) (item : κ × α) : List (κ × α) × Dict κ Nat :=
  let occurrence := state.2.getD item.1 0
  (if before.getD item.1 0 ≤ occurrence then state.1 ++ [item] else state.1, state.2.set item.1 (occurrence + 1))

namespace Retained
variable {state : Retained κ α} {sequence : List (κ × α)} {k : κ}

def retain (state : Retained κ α) (sequence : List (κ × α)) : Retained κ α :=
  let after := sequence.foldl (retainItem state.counts) (state.items, .empty)
  { items := after.1
    counts := after.2.entries.foldl (fun counts entry => counts.set entry.1 (max (counts.getD entry.1 0) entry.2)) state.counts }

@[simp] theorem occurrences_concat (k : κ) (items : List (κ × α)) (item : κ × α) :
    occurrences k (items ++ [item]) = occurrences k items + if item.1 = k then 1 else 0 := by
  simp [occurrences, List.countP_cons]

theorem retainItems (before : Dict κ Nat) (items : List (κ × α)) (sequence : List (κ × α)) :
    let after := sequence.foldl (retainItem before) (items, .empty)
    (∀ k, after.2.getD k 0 = occurrences k sequence) ∧
      ∀ k, occurrences k after.1 = occurrences k items + (occurrences k sequence - before.getD k 0) := by
  induction sequence using List.reverseRecOn with
  | nil => simp [occurrences, Dict.getD]
  | append_singleton sequence item ih =>
    obtain ⟨hcounts, hitems⟩ := ih
    rw [List.foldl_concat]
    refine ⟨fun k => ?_, fun k => ?_⟩
    · simp only [retainItem, Dict.getD_set, hcounts, occurrences_concat]
      split
      next heq => rw [heq]
      next => rfl
    · have hk := hitems k
      simp only [retainItem, hcounts, occurrences_concat]
      by_cases heq : item.1 = k
      · subst heq
        rw [if_pos rfl]
        split
        next hle =>
          rw [occurrences_concat, if_pos rfl]
          omega
        next hlt => omega
      · rw [if_neg heq]
        split
        next =>
          rw [occurrences_concat, if_neg heq]
          omega
        next => omega

theorem raise_getD (counts : Dict κ Nat) (entries : List (κ × Nat)) (hnodup : (entries.map Prod.fst).Nodup) (k : κ) :
    (entries.foldl (fun counts entry => counts.set entry.1 (max (counts.getD entry.1 0) entry.2)) counts).getD k 0 =
      max (counts.getD k 0) ((Dict.lookup k entries).getD 0) := by
  induction entries generalizing counts with
  | nil => simp [Dict.lookup]
  | cons entry entries ih =>
    obtain ⟨j, n⟩ := entry
    rw [List.map_cons, List.nodup_cons] at hnodup
    rw [List.foldl_cons, ih _ hnodup.2, Dict.getD_set, Dict.lookup]
    by_cases heq : j = k
    · subst heq
      rw [if_pos rfl, if_pos rfl, Dict.lookup_eq_none.mpr hnodup.1]
      simp
    · rw [if_neg heq, if_neg heq]

theorem retain_counts (state : Retained κ α) (sequence : List (κ × α)) (k : κ) :
    (state.retain sequence).counts.getD k 0 = max (state.counts.getD k 0) (occurrences k sequence) := by
  rw [← (retainItems state.counts state.items sequence).1 k]
  exact raise_getD _ _ (Dict.nodup _) k

theorem retain_items (state : Retained κ α) (sequence : List (κ × α)) (k : κ) :
    occurrences k (state.retain sequence).items = occurrences k state.items + (occurrences k sequence - state.counts.getD k 0) :=
  (retainItems state.counts state.items sequence).2 k

theorem mem_retain {item : κ × α} (h : item ∈ (state.retain sequence).items) : item ∈ state.items ∨ item ∈ sequence := by
  have hmem : ∀ (sequence : List (κ × α)) (acc : List (κ × α) × Dict κ Nat),
      item ∈ (sequence.foldl (retainItem state.counts) acc).1 → item ∈ acc.1 ∨ item ∈ sequence := by
    intro sequence
    induction sequence with
    | nil => exact fun _ h => .inl h
    | cons first rest ih =>
      intro acc h
      rcases ih _ h with hacc | hrest
      · simp only [retainItem] at hacc
        split at hacc
        next =>
          rcases List.mem_append.mp hacc with hacc | hfirst
          · exact .inl hacc
          · exact .inr (List.mem_cons.mpr (.inl (List.mem_singleton.mp hfirst)))
        next => exact .inl hacc
      · exact .inr (List.mem_cons_of_mem _ hrest)
  exact hmem sequence _ h

theorem retain_first (sequence : List (κ × α)) : (({} : Retained κ α).retain sequence).items = sequence := by
  have hall : ∀ (sequence : List (κ × α)) (acc : List (κ × α) × Dict κ Nat),
      (sequence.foldl (retainItem (.empty : Dict κ Nat)) acc).1 = acc.1 ++ sequence := by
    intro sequence
    induction sequence with
    | nil => simp
    | cons first rest ih =>
      intro acc
      rw [List.foldl_cons, ih]
      simp [retainItem, Dict.getD]
  exact hall sequence _

theorem retain_covered (h : ∀ k, occurrences k sequence ≤ state.counts.getD k 0) : (state.retain sequence).items = state.items := by
  have hnone : ∀ front : List (κ × α), front <+: sequence → (front.foldl (retainItem state.counts) (state.items, .empty)).1 = state.items := by
    intro front
    induction front using List.reverseRecOn with
    | nil => exact fun _ => rfl
    | append_singleton front item ih =>
      intro hprefix
      have hshort := (List.prefix_append front [item]).trans hprefix
      have hcount : (front.foldl (retainItem state.counts) (state.items, .empty)).2.getD item.1 0 = occurrences item.1 front :=
        (retainItems state.counts state.items front).1 item.1
      have hmore : occurrences item.1 (front ++ [item]) ≤ occurrences item.1 sequence := hprefix.sublist.countP_le
      rw [occurrences_concat, if_pos rfl] at hmore
      have hle := h item.1
      rw [List.foldl_concat]
      simp only [retainItem, hcount]
      rw [if_neg (by omega), ih hshort]
  exact hnone sequence List.prefix_rfl

def retainAll (sequences : List (List (κ × α))) : Retained κ α := sequences.foldl retain {}

theorem retainAll_counts (sequences : List (List (κ × α))) (k : κ) :
    (retainAll sequences).counts.getD k 0 = (sequences.map (occurrences k)).foldl max 0 ∧
      occurrences k (retainAll sequences).items = (retainAll sequences).counts.getD k 0 := by
  induction sequences using List.reverseRecOn with
  | nil => exact ⟨rfl, rfl⟩
  | append_singleton sequences sequence ih =>
    have hconcat : retainAll (sequences ++ [sequence]) = (retainAll sequences).retain sequence := List.foldl_concat ..
    rw [hconcat, retain_counts, retain_items, List.map_append, List.map_singleton, List.foldl_concat, ← ih.1, ih.2]
    exact ⟨rfl, by omega⟩

theorem retainAll_covered {first : List (κ × α)} {rest : List (List (κ × α))}
    (h : ∀ sequence ∈ rest, ∀ k, occurrences k sequence ≤ occurrences k first) : (retainAll (first :: rest)).items = first := by
  have hall : ∀ (rest : List (List (κ × α))) (state : Retained κ α), state.items = first →
      (∀ k, occurrences k first ≤ state.counts.getD k 0) → (∀ sequence ∈ rest, ∀ k, occurrences k sequence ≤ occurrences k first) →
      (rest.foldl retain state).items = first := by
    intro rest
    induction rest with
    | nil => exact fun _ hitems _ _ => hitems
    | cons sequence rest ih =>
      intro state hitems hcounts hcovered
      refine ih (state.retain sequence) ?_ (fun k => ?_) fun other hother => hcovered other (List.mem_cons_of_mem _ hother)
      · rw [retain_covered fun k => (hcovered sequence (List.mem_cons_self ..) k).trans (hcounts k), hitems]
      · rw [retain_counts]
        exact (hcounts k).trans (Nat.le_max_left _ _)
  refine hall rest _ (retain_first first) (fun k => ?_) h
  rw [retain_counts]
  exact Nat.le_max_right _ _

theorem mem_retainAll {sequences : List (List (κ × α))} {item : κ × α} (h : item ∈ (retainAll sequences).items) :
    ∃ sequence ∈ sequences, item ∈ sequence := by
  induction sequences using List.reverseRecOn with
  | nil => cases h
  | append_singleton sequences sequence ih =>
    have hconcat : retainAll (sequences ++ [sequence]) = (retainAll sequences).retain sequence := List.foldl_concat ..
    rw [hconcat] at h
    rcases mem_retain h with hbefore | hnow
    · obtain ⟨other, hother, hmem⟩ := ih hbefore
      exact ⟨other, List.mem_append_left _ hother, hmem⟩
    · exact ⟨sequence, by simp, hnow⟩

end Retained
end Lib
