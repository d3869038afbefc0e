import QuantX.Lib.Dict
import QuantX.Lib.Rank

/-! # Groups

Items with a group are collected group by group, groups in the order in which they first come up, and the groups are then
taken by their ranks. -/

namespace Lib
variable {γ α β : Type} [DecidableEq γ] {items items' : List (γ × α)} {g : γ}

/-- The items by their groups: `groups.setdefault(group, []).append(item)`. -/
def groupAll (items : List (γ × α)) : Dict γ (List α) :=
  items.foldl (fun groups item => groups.set item.1 (groups.getD item.1 [] ++ [item.2])) .empty

def inGroup (g : γ) (items : List (γ × α)) : List α := (items.filter (·.1 = g)).map Prod.snd

theorem inGroup_concat (g : γ) (items : List (γ × α)) (item : γ × α) :
    inGroup g (items ++ [item]) = if item.1 = g then inGroup g items ++ [item.2] else inGroup g items := by
  simp only [inGroup, List.filter_append, List.map_append]
  split
  next heq => simp [heq]
  next hne => simp [hne]

theorem getD_groupAll (items : List (γ × α)) (g : γ) : (groupAll items).getD g [] = inGroup g items := by
  induction items using List.reverseRecOn with
  | nil => rfl
  | append_singleton items item ih =>
    rw [groupAll, List.foldl_concat, Dict.getD_set, inGroup_concat]
    split
    next heq =>
      subst heq
      exact congrArg (· ++ [item.2]) ih
    next => exact ih

theorem mem_inGroup {a : α} : a ∈ inGroup g items ↔ (g, a) ∈ items := by
  simp only [inGroup, List.mem_map, List.mem_filter, decide_eq_true_eq]
  constructor
  · rintro ⟨⟨other, b⟩, ⟨hmem, rfl⟩, rfl⟩
    exact hmem
  · exact fun hmem => ⟨(g, a), ⟨hmem, rfl⟩, rfl⟩

theorem get?_groupAll (items : List (γ × α)) (g : γ) :
    (groupAll items).get? g = if inGroup g items = [] then none else some (inGroup g items) := by
  have hsome : ∀ l, (groupAll items).get? g = some l → l ≠ [] := by
    induction items using List.reverseRecOn with
    | nil => exact fun l h => by cases h
    | append_singleton items item ih =>
      intro l h
      rw [groupAll, List.foldl_concat, Dict.get?_set] at h
      split at h
      next =>
        cases h
        simp
      next => exact ih l h
  have hget := getD_groupAll items g
  rw [Dict.getD] at hget
  cases hknown : (groupAll items).get? g with
  | none =>
    rw [hknown] at hget
    have hempty : inGroup g items = [] := hget.symm
    rw [if_pos hempty]
  | some l =>
    rw [hknown] at hget
    have hl : l = inGroup g items := hget
    rw [if_neg (hl ▸ hsome l hknown), hl]

theorem inGroup_perm (h : items.Perm items') (g : γ) : (inGroup g items).Perm (inGroup g items') := (h.filter _).map _

theorem inGroup_flatMap {entries : List (γ × List α)} (hnodup : (entries.map Prod.fst).Nodup) (f : γ → List α → List β) (g : γ) :
    inGroup g (entries.flatMap fun entry => (f entry.1 entry.2).map (Prod.mk entry.1)) = ((Dict.lookup g entries).map (f g)).getD [] := by
  have hblock : ∀ (j : γ) (l : List β), inGroup g (l.map (Prod.mk j)) = if j = g then l else [] := by
    intro j l
    induction l with
    | nil => simp [inGroup]
    | cons b l ih =>
      rw [inGroup] at ih ⊢
      by_cases heq : j = g
      · simp_all
      · simp_all
  induction entries with
  | nil => rfl
  | cons entry entries ih =>
    obtain ⟨j, l⟩ := entry
    rw [List.map_cons, List.nodup_cons] at hnodup
    have happend : ∀ front back : List (γ × β), inGroup g (front ++ back) = inGroup g front ++ inGroup g back := by
      intro front back
      simp [inGroup]
    rw [List.flatMap_cons, happend, hblock, ih hnodup.2, Dict.lookup]
    by_cases heq : j = g
    · subst heq
      rw [if_pos rfl, if_pos rfl, Dict.lookup_eq_none.mpr hnodup.1]
      simp
    · rw [if_neg heq, if_neg heq, List.nil_append]

section Ranking
variable {ρ : Type} [LinearOrder ρ] {rank : γ → ρ} {d d' : Dict γ α}

def rankedEntries (rank : γ → ρ) (d : Dict γ α) : List (γ × α) := sortBy (fun entry => rank entry.1) d.entries

theorem mem_rankedEntries {entry : γ × α} : entry ∈ rankedEntries rank d ↔ d.get? entry.1 = some entry.2 :=
  mem_sortBy.trans Dict.mem_entries

theorem entries_inj (hrank : Function.Injective rank) :
    ∀ a ∈ d.entries, ∀ b ∈ d.entries, rank a.1 = rank b.1 → a = b := by
  rintro ⟨k, v⟩ ha ⟨k', v'⟩ hb heq
  cases hrank heq
  cases (Dict.mem_entries.mp ha).symm.trans (Dict.mem_entries.mp hb)
  rfl

theorem rankedEntries_nodup (rank : γ → ρ) (d : Dict γ α) : ((rankedEntries rank d).map Prod.fst).Nodup :=
  ((sortBy_perm _ _).map Prod.fst).nodup_iff.mpr d.nodup

theorem rankedEntries_pairwise (hrank : Function.Injective rank) : (rankedEntries rank d).Pairwise fun a b => rank a.1 < rank b.1 :=
  sortBy_pairwise_lt (entries_inj hrank) (d.nodup.of_map _)

theorem rankedEntries_congr (hrank : Function.Injective rank) (h : ∀ k, d.get? k = d'.get? k) : rankedEntries rank d = rankedEntries rank d' := by
  refine sortBy_eq_of_perm ((List.perm_ext_iff_of_nodup (d.nodup.of_map _) (d'.nodup.of_map _)).mpr fun entry => ?_) (entries_inj hrank)
  obtain ⟨k, v⟩ := entry
  rw [Dict.mem_entries, Dict.mem_entries, h]

theorem rankedEntries_mapEntries (hrank : Function.Injective rank) (f : γ × α → β) :
    rankedEntries rank (d.mapEntries f) = (rankedEntries rank d).map fun entry => (entry.1, f entry) := by
  have hsame : ((rankedEntries rank d).map fun entry => (entry.1, f entry)).Perm (d.mapEntries f).entries :=
    (sortBy_perm (fun entry => rank entry.1) d.entries).map fun entry => (entry.1, f entry)
  refine List.Perm.eq_of_pairwise (fun a b ha hb hab hba => ?_) (sortBy_pairwise _ _) ?_ ((sortBy_perm _ _).trans hsame.symm)
  · obtain ⟨entry, hentry, rfl⟩ := List.mem_map.mp hb
    have hkey := hrank (le_antisymm hab hba)
    have hvalue := mem_rankedEntries.mp ha
    rw [hkey, Dict.get?_mapEntries, mem_rankedEntries.mp hentry] at hvalue
    exact Prod.ext hkey (Option.some.inj hvalue).symm
  · exact List.pairwise_map.mpr (sortBy_pairwise (fun entry => rank entry.1) d.entries)

theorem rankedEntries_forall₂ {d : Dict γ α} {d' : Dict γ β} {R : γ × α → γ × β → Prop} (hrank : Function.Injective rank)
    (hkeys : ∀ k, (d.get? k).isSome ↔ (d'.get? k).isSome)
    (hvalues : ∀ k v w, d.get? k = some v → d'.get? k = some w → R (k, v) (k, w)) :
    List.Forall₂ R (rankedEntries rank d) (rankedEntries rank d') := by
  have hsorted : ∀ {δ : Type} (d : Dict γ δ), ((rankedEntries rank d).map Prod.fst).Pairwise fun a b => rank a ≤ rank b :=
    fun d => List.pairwise_map.mpr (sortBy_pairwise (fun entry => rank entry.1) d.entries)
  have hmem : ∀ {δ : Type} (d : Dict γ δ) (k : γ), k ∈ (rankedEntries rank d).map Prod.fst ↔ (d.get? k).isSome := by
    intro δ d k
    rw [List.mem_map, Option.isSome_iff_exists]
    constructor
    · rintro ⟨entry, hentry, rfl⟩
      exact ⟨_, mem_rankedEntries.mp hentry⟩
    · rintro ⟨v, hv⟩
      exact ⟨(k, v), mem_rankedEntries.mpr hv, rfl⟩
  have hsame : (rankedEntries rank d).map Prod.fst = (rankedEntries rank d').map Prod.fst := by
    refine List.Perm.eq_of_pairwise (fun a b _ _ hab hba => hrank (le_antisymm hab hba)) (hsorted d) (hsorted d') ?_
    refine (List.perm_ext_iff_of_nodup (rankedEntries_nodup rank d) (rankedEntries_nodup rank d')).mpr fun k => ?_
    rw [hmem, hmem, hkeys]
  have hall : ∀ (l : List (γ × α)) (l' : List (γ × β)), l.map Prod.fst = l'.map Prod.fst →
      (∀ a ∈ l, ∀ b ∈ l', a.1 = b.1 → R a b) → List.Forall₂ R l l' := by
    intro l
    induction l with
    | nil =>
      intro l' heq _
      rw [List.map_eq_nil_iff.mp heq.symm]
      exact .nil
    | cons a l ih =>
      intro l' heq hR
      cases l' with
      | nil => cases heq
      | cons b l' =>
        obtain ⟨hfirst, hrest⟩ := List.cons_eq_cons.mp heq
        exact .cons (hR a (List.mem_cons_self ..) b (List.mem_cons_self ..) hfirst)
          (ih l' hrest fun a ha b hb => hR a (List.mem_cons_of_mem _ ha) b (List.mem_cons_of_mem _ hb))
  refine hall _ _ hsame ?_
  rintro ⟨k, v⟩ ha ⟨k', w⟩ hb rfl
  exact hvalues k v w (mem_rankedEntries.mp ha) (mem_rankedEntries.mp hb)

end Ranking
end Lib
