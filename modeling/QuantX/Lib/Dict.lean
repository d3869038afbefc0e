import Mathlib.Data.List.Nodup
import Mathlib.Algebra.Order.Group.Int
import Mathlib.Algebra.Order.BigOperators.Group.List
import Mathlib.Data.List.Induction
import Mathlib.Tactic.Abel

/-! Dictionaries that remember insertion order. Overwriting a key keeps its position, a new key goes to the end, and no key
    occurs twice. -/

namespace Lib

structure Dict (κ α : Type) where
  entries : List (κ × α)
  nodup : (entries.map Prod.fst).Nodup

namespace Dict
variable {κ α β : Type}

def keys (d : Dict κ α) : List κ := d.entries.map Prod.fst
def values (d : Dict κ α) : List α := d.entries.map Prod.snd

def empty : Dict κ α := ⟨[], List.nodup_nil⟩

instance : Inhabited (Dict κ α) := ⟨empty⟩

theorem ext {d d' : Dict κ α} (h : d.entries = d'.entries) : d = d' := by
  cases d
  cases d'
  cases h
  rfl

instance [DecidableEq κ] [DecidableEq α] : DecidableEq (Dict κ α) := fun d d' =>
  decidable_of_iff (d.entries = d'.entries) ⟨ext, fun h => h ▸ rfl⟩

variable [DecidableEq κ]
variable {l : List (κ × α)} {k : κ} {v : α}

def lookup (k : κ) : List (κ × α) → Option α
  | [] => none
  | (k', v) :: rest => if k' = k then some v else lookup k rest

def put (k : κ) (v : α) : List (κ × α) → List (κ × α)
  | [] => [(k, v)]
  | (k', v') :: rest => if k' = k then (k, v) :: rest else (k', v') :: put k v rest

def drop (k : κ) : List (κ × α) → List (κ × α)
  | [] => []
  | (k', v) :: rest => if k' = k then drop k rest else (k', v) :: drop k rest

theorem mem_put_keys {k x : κ} :
    x ∈ (put k v l).map Prod.fst ↔ x = k ∨ x ∈ l.map Prod.fst := by
  induction l with
  | nil => simp [put]
  | cons e rest ih =>
    obtain ⟨k', v'⟩ := e
    by_cases h : k' = k
    · subst h
      simp [put]
    · simp only [put, h, ↓reduceIte, List.map_cons, List.mem_cons, ih]
      tauto

theorem nodup_put (h : (l.map Prod.fst).Nodup) :
    ((put k v l).map Prod.fst).Nodup := by
  induction l with
  | nil => simp [put]
  | cons e rest ih =>
    obtain ⟨k', v'⟩ := e
    rw [List.map_cons, List.nodup_cons] at h
    by_cases hk : k' = k
    · subst hk
      simpa [put] using h
    · rw [put, if_neg hk, List.map_cons, List.nodup_cons]
      exact ⟨fun hm => (mem_put_keys.mp hm).elim hk h.1, ih h.2⟩

theorem drop_sublist (k : κ) (l : List (κ × α)) : (drop k l).Sublist l := by
  induction l with
  | nil => exact List.Sublist.slnil
  | cons e rest ih =>
    obtain ⟨k', v'⟩ := e
    rw [drop]
    split
    · exact ih.cons _
    · exact ih.cons_cons _

theorem nodup_drop (h : (l.map Prod.fst).Nodup) : ((drop k l).map Prod.fst).Nodup :=
  h.sublist ((drop_sublist k l).map Prod.fst)

def get? (d : Dict κ α) (k : κ) : Option α := lookup k d.entries
def getD (d : Dict κ α) (k : κ) (default : α) : α := (d.get? k).getD default
def contains (d : Dict κ α) (k : κ) : Bool := (d.get? k).isSome

def set (d : Dict κ α) (k : κ) (v : α) : Dict κ α := ⟨put k v d.entries, nodup_put d.nodup⟩
def erase (d : Dict κ α) (k : κ) : Dict κ α := ⟨drop k d.entries, nodup_drop d.nodup⟩

/-- Keep the value of `k`, or store `v` where there is none. -/
def setdefault (d : Dict κ α) (k : κ) (v : α) : Dict κ α := if d.contains k then d else d.set k v

/-- Change the value stored under `k`, if there is one. -/
def modify (d : Dict κ α) (k : κ) (f : α → α) : Dict κ α :=
  match d.get? k with
  | some v => d.set k (f v)
  | none => d

def map (d : Dict κ α) (f : α → β) : Dict κ β :=
  ⟨d.entries.map fun e => (e.1, f e.2), by rw [List.map_map]; exact d.nodup⟩

def mapEntries (d : Dict κ α) (f : κ × α → β) : Dict κ β :=
  ⟨d.entries.map fun e => (e.1, f e), by rw [List.map_map]; exact d.nodup⟩

def update (d : Dict κ α) (l : List (κ × α)) : Dict κ α := l.foldl (fun d e => d.set e.1 e.2) d

def ofList (l : List (κ × α)) : Dict κ α := empty.update l

/-! ### Reads -/

@[simp] theorem get?_empty (k : κ) : (empty : Dict κ α).get? k = none := rfl

theorem lookup_put (k k' : κ) (v : α) (l : List (κ × α)) :
    lookup k' (put k v l) = if k = k' then some v else lookup k' l := by
  induction l with
  | nil => simp [put, lookup]
  | cons e rest ih =>
    obtain ⟨j, w⟩ := e
    by_cases hj : j = k
    · subst hj
      by_cases hk : j = k' <;> simp [put, lookup, hk]
    · by_cases hk : j = k'
      · subst hk
        have hne : k ≠ j := fun h => hj h.symm
        simp [put, lookup, hj, hne]
      · simp [put, lookup, hj, hk, ih]

theorem lookup_puts (hval : ∀ e ∈ l, e.1 = k → e.2 = v) :
    ∀ {old : List (κ × α)}, k ∈ l.map Prod.fst ∨ lookup k old = some v →
      lookup k (l.foldl (fun old e => put e.1 e.2 old) old) = some v := by
  induction l with
  | nil => exact fun h => h.resolve_left (List.not_mem_nil)
  | cons e l ih =>
    intro old h
    refine ih (fun e' he' => hval e' (List.mem_cons_of_mem _ he')) ?_
    rw [lookup_put]
    by_cases he : e.1 = k
    · exact .inr (by rw [if_pos he, hval e (List.mem_cons_self ..) he])
    · rw [if_neg he]
      refine h.imp_left fun hmem => ?_
      exact (List.mem_cons.mp hmem).resolve_left (Ne.symm he)

theorem lookup_drop (k k' : κ) (l : List (κ × α)) : lookup k' (drop k l) = if k = k' then none else lookup k' l := by
  induction l with
  | nil => simp [drop, lookup]
  | cons e rest ih =>
    obtain ⟨j, w⟩ := e
    by_cases hj : j = k
    · subst hj
      by_cases hk : j = k'
      · subst hk
        simpa [drop] using ih
      · simp [drop, lookup, hk, ih]
    · by_cases hk : j = k'
      · subst hk
        have hne : k ≠ j := fun h => hj h.symm
        simp [drop, lookup, hj, hne]
      · simp [drop, lookup, hj, hk, ih]

theorem get?_set (d : Dict κ α) (k k' : κ) (v : α) : (d.set k v).get? k' = if k = k' then some v else d.get? k' :=
  lookup_put k k' v d.entries

@[simp] theorem get?_set_self (d : Dict κ α) (k : κ) (v : α) : (d.set k v).get? k = some v := by
  rw [get?_set, if_pos rfl]

theorem get?_set_ne (d : Dict κ α) {k k' : κ} (v : α) (h : k ≠ k') : (d.set k v).get? k' = d.get? k' := by
  rw [get?_set, if_neg h]

theorem set_same {d : Dict κ α} (h : d.get? k = some v) : d.set k v = d := by
  have hput : ∀ l : List (κ × α), lookup k l = some v → put k v l = l := by
    intro l
    induction l with
    | nil => exact fun h => by cases h
    | cons entry l ih =>
      obtain ⟨j, w⟩ := entry
      intro h
      rw [lookup] at h
      rw [put]
      split at h
      next heq =>
        cases h
        rw [if_pos heq, heq]
      next hne => rw [if_neg hne, ih h]
  exact ext (hput d.entries h)

theorem getD_set (d : Dict κ α) (k k' : κ) (v w : α) : (d.set k v).getD k' w = if k = k' then v else d.getD k' w := by
  unfold getD
  rw [get?_set]
  split <;> rfl

theorem get?_erase (d : Dict κ α) (k k' : κ) : (d.erase k).get? k' = if k = k' then none else d.get? k' :=
  lookup_drop k k' d.entries

theorem get?_modify (d : Dict κ α) (k k' : κ) (f : α → α) :
    (d.modify k f).get? k' = if k = k' then (d.get? k).map f else d.get? k' := by
  unfold modify
  cases h : d.get? k with
  | none =>
    by_cases hk : k = k'
    · subst hk
      simp [h]
    · simp [hk]
  | some v => simp [get?_set]

theorem get?_modify_eq_some {d : Dict κ α} {k k' : κ} {f : α → α} {w : α} (h : (d.modify k f).get? k' = some w) :
    ∃ v, d.get? k' = some v ∧ (w = v ∨ k = k' ∧ w = f v) := by
  rw [get?_modify] at h
  split at h
  · rename_i hk
    obtain ⟨v, hv, rfl⟩ := Option.map_eq_some_iff.mp h
    exact ⟨v, hk ▸ hv, .inr ⟨hk, rfl⟩⟩
  · exact ⟨w, h, .inl rfl⟩

theorem get?_map (d : Dict κ α) (k : κ) (f : α → β) : (d.map f).get? k = (d.get? k).map f := by
  obtain ⟨l, hl⟩ := d
  show lookup k (l.map fun e => (e.1, f e.2)) = (lookup k l).map f
  clear hl
  induction l with
  | nil => rfl
  | cons e rest ih =>
    obtain ⟨j, v⟩ := e
    by_cases hj : j = k <;> simp [lookup, hj, ih]

theorem get?_mapEntries (d : Dict κ α) (k : κ) (f : κ × α → β) : (d.mapEntries f).get? k = (d.get? k).map fun v => f (k, v) := by
  obtain ⟨l, hl⟩ := d
  show lookup k (l.map fun e => (e.1, f e)) = (lookup k l).map fun v => f (k, v)
  clear hl
  induction l with
  | nil => rfl
  | cons e rest ih =>
    obtain ⟨j, v⟩ := e
    by_cases hj : j = k
    · subst hj
      simp [lookup]
    · simp [lookup, hj, ih]

theorem get?_setdefault (d : Dict κ α) (k k' : κ) (v : α) :
    (d.setdefault k v).get? k' = if k = k' then some (d.getD k v) else d.get? k' := by
  unfold setdefault contains getD
  cases hget : d.get? k with
  | none => simpa using get?_set d k k' v
  | some old =>
    simp only [Option.isSome_some, ↓reduceIte, Option.getD_some]
    split
    · rename_i h
      rw [← h, hget]
    · rfl

theorem get?_setdefault_eq_some {d : Dict κ α} {k k' : κ} {v w : α} :
    (d.setdefault k v).get? k' = some w ↔ d.get? k' = some w ∨ d.get? k' = none ∧ k = k' ∧ v = w := by
  rw [get?_setdefault, getD]
  by_cases hk : k = k'
  · subst hk
    cases d.get? k with
    | none => simp
    | some old => simp
  · simp [hk]

theorem getD_setdefault (d : Dict κ α) (k k' : κ) (v : α) {w : α} (h : k = k' → w = v) :
    (d.setdefault k v).getD k' w = d.getD k' w := by
  unfold setdefault contains
  cases hk : d.get? k with
  | some _ => rfl
  | none =>
    rw [Option.isSome_none, if_neg Bool.false_ne_true, getD_set]
    by_cases heq : k = k'
    · subst heq
      rw [if_pos rfl, getD, hk, h rfl, Option.getD_none]
    · rw [if_neg heq]

theorem lookup_eq_none : lookup k l = none ↔ k ∉ l.map Prod.fst := by
  induction l with
  | nil => simp [lookup]
  | cons e rest ih =>
    obtain ⟨j, w⟩ := e
    by_cases hj : j = k
    · subst hj
      simp [lookup]
    · have hne : k ≠ j := fun h => hj h.symm
      simp [lookup, hj, hne, ih]

theorem lookup_eq_some (hl : (l.map Prod.fst).Nodup) :
    lookup k l = some v ↔ (k, v) ∈ l := by
  induction l with
  | nil => simp [lookup]
  | cons e rest ih =>
    obtain ⟨j, w⟩ := e
    rw [List.map_cons, List.nodup_cons] at hl
    by_cases hj : j = k
    · subst hj
      have hmem : (j, v) ∉ rest := fun h => hl.1 (List.mem_map.mpr ⟨_, h, rfl⟩)
      simp [lookup, hmem, eq_comm]
    · have hne : k ≠ j := fun h => hj h.symm
      simp [lookup, hj, hne, ih hl.2]

theorem mem_entries {d : Dict κ α} : (k, v) ∈ d.entries ↔ d.get? k = some v :=
  (lookup_eq_some d.nodup).symm

theorem mem_values {d : Dict κ α} : v ∈ d.values ↔ ∃ k, d.get? k = some v := by
  unfold values
  rw [List.mem_map]
  constructor
  · rintro ⟨⟨k, v⟩, hmem, rfl⟩
    exact ⟨k, mem_entries.mp hmem⟩
  · rintro ⟨k, hget⟩
    exact ⟨(k, v), mem_entries.mpr hget, rfl⟩

theorem put_of_not_mem (h : k ∉ l.map Prod.fst) : put k v l = l ++ [(k, v)] := by
  induction l with
  | nil => rfl
  | cons e rest ih =>
    rw [List.map_cons, List.mem_cons, not_or] at h
    rw [put, if_neg (fun heq => h.1 heq.symm), ih h.2]
    rfl

theorem entries_set_new {d : Dict κ α} (h : d.get? k = none) (v : α) : (d.set k v).entries = d.entries ++ [(k, v)] :=
  put_of_not_mem (lookup_eq_none.mp h)

theorem set_entries_ne (d : Dict κ α) (k : κ) (v : α) : (d.set k v).entries ≠ [] := by
  intro hnone
  have hget := d.get?_set_self k v
  rw [get?, hnone] at hget
  cases hget

theorem update_entries : ∀ {d : Dict κ α}, ((d.entries ++ l).map Prod.fst).Nodup →
    (d.update l).entries = d.entries ++ l := by
  induction l with
  | nil => intro d _; exact (List.append_nil _).symm
  | cons e rest ih =>
    intro d h
    have hnew : e.1 ∉ d.entries.map Prod.fst := by
      rw [List.map_append, List.map_cons] at h
      intro hmem
      exact (List.nodup_append.mp h).2.2 e.1 hmem e.1 List.mem_cons_self rfl
    have hset : (d.set e.1 e.2).entries = d.entries ++ [e] := put_of_not_mem hnew
    show ((d.set e.1 e.2).update rest).entries = _
    rw [ih (by rw [hset, List.append_assoc]; exact h), hset, List.append_assoc]
    rfl

@[simp] theorem ofList_entries (d : Dict κ α) : ofList d.entries = d := ext (update_entries d.nodup)

theorem get?_ofList (hl : (l.map Prod.fst).Nodup) (k : κ) : (ofList l).get? k = lookup k l := by
  rw [get?, ofList, update_entries]
  · rfl
  · exact hl

theorem get?_ofList_functional (hl : ∀ k v w, (k, v) ∈ l → (k, w) ∈ l → v = w) :
    (ofList l).get? k = some v ↔ (k, v) ∈ l := by
  induction l using List.reverseRecOn with
  | nil => simp [ofList, update]
  | append_singleton l e ih =>
    obtain ⟨j, w⟩ := e
    have hset : ofList (l ++ [(j, w)]) = (ofList l).set j w := List.foldl_append
    rw [hset, get?_set, List.mem_append, List.mem_singleton]
    split
    · rename_i hj
      subst hj
      constructor
      · intro h
        exact .inr (by rw [Option.some.inj h])
      · intro h
        have hv : (j, v) ∈ l ++ [(j, w)] := List.mem_append.mpr (h.imp_right List.mem_singleton.mpr)
        rw [hl j v w hv (List.mem_append_right _ (List.mem_singleton_self _))]
    · rename_i hj
      rw [ih fun k v w hv hw => hl k v w (List.mem_append_left _ hv) (List.mem_append_left _ hw)]
      exact (or_iff_left fun h => hj (Prod.mk.inj h).1.symm).symm

theorem get?_update_list (hl : (l.map Prod.fst).Nodup) :
    ∀ (d : Dict κ α) (k : κ), (d.update l).get? k = (lookup k l).or (d.get? k) := by
  induction l with
  | nil => intro d k; rfl
  | cons e rest ih =>
    obtain ⟨j, v⟩ := e
    rw [List.map_cons, List.nodup_cons] at hl
    obtain ⟨hnew, hrest⟩ := hl
    intro d k
    show ((d.set j v).update rest).get? k = _
    rw [ih hrest, get?_set]
    by_cases hj : j = k
    · subst hj
      simp [lookup, lookup_eq_none.mpr hnew]
    · simp [lookup, hj]

theorem get?_update (d e : Dict κ α) (k : κ) : (d.update e.entries).get? k = (e.get? k).or (d.get? k) :=
  get?_update_list e.nodup d k

theorem get?_update_of_not_mem (h : k ∉ l.map Prod.fst) (d : Dict κ α) : (d.update l).get? k = d.get? k := by
  induction l generalizing d with
  | nil => rfl
  | cons e rest ih =>
    rw [List.map_cons, List.mem_cons, not_or] at h
    show ((d.set e.1 e.2).update rest).get? k = _
    rw [ih h.2, get?_set_ne _ _ (Ne.symm h.1)]

theorem filterMap_values_set {d : Dict κ α} {f : α → Option β} (h : (d.get? k).bind f = f v) :
    (d.set k v).values.filterMap f = d.values.filterMap f := by
  have hput : ∀ l : List (κ × α), (lookup k l).bind f = f v →
      ((put k v l).map Prod.snd).filterMap f = (l.map Prod.snd).filterMap f := by
    intro l
    induction l with
    | nil =>
      intro hl
      have hnone : f v = none := hl.symm
      simp [put, hnone]
    | cons e rest ih =>
      obtain ⟨j, w⟩ := e
      intro hl
      by_cases hj : j = k
      · subst hj
        have hsame : f w = f v := by simpa [lookup] using hl
        simp [put, List.filterMap_cons, hsame]
      · rw [lookup, if_neg hj] at hl
        simp [put, hj, List.filterMap_cons, ih hl]
  exact hput d.entries h

theorem filterMap_values_congr {d : Dict κ α} {v w : α} {f : α → Option β} (h : f v = f w) :
    (d.set k v).values.filterMap f = (d.set k w).values.filterMap f := by
  have hput : ∀ l : List (κ × α), ((put k v l).map Prod.snd).filterMap f = ((put k w l).map Prod.snd).filterMap f := by
    intro l
    induction l with
    | nil => simp [put, List.filterMap_cons, h]
    | cons e rest ih =>
      obtain ⟨j, u⟩ := e
      by_cases hj : j = k
      · simp [put, hj, List.filterMap_cons, h]
      · simp [put, hj, List.filterMap_cons, ih]
  exact hput d.entries

def Keeps (keys : List κ) (d d' : Dict κ α) : Prop := ∀ k, k ∉ keys → d'.get? k = d.get? k

namespace Keeps
variable {keys : List κ} {d d' d'' : Dict κ α}

theorem refl (keys : List κ) (d : Dict κ α) : Keeps keys d d := fun _ _ => rfl

theorem trans (h : Keeps keys d d') (h' : Keeps keys d' d'') : Keeps keys d d'' := fun k hk => (h' k hk).trans (h k hk)

theorem set {k : κ} (hk : k ∈ keys) (d : Dict κ α) (v : α) : Keeps keys d (d.set k v) :=
  fun _ hk' => get?_set_ne _ _ fun heq => hk' (heq ▸ hk)

theorem update {l : List (κ × α)} (hl : ∀ e ∈ l, e.1 ∈ keys) (d : Dict κ α) : Keeps keys d (d.update l) := fun k hk =>
  get?_update_of_not_mem (fun hmem => by
    obtain ⟨e, he, rfl⟩ := List.mem_map.mp hmem
    exact hk (hl e he)) d

theorem mono {keys' : List κ} (h : Keeps keys d d') (hsubset : keys ⊆ keys') : Keeps keys' d d' :=
  fun k hk => h k fun hmem => hk (hsubset hmem)

end Keeps

def filter (d : Dict κ α) (p : κ × α → Bool) : Dict κ α :=
  ⟨d.entries.filter p, d.nodup.sublist (List.filter_sublist.map Prod.fst)⟩

theorem get?_filter (d : Dict κ α) (p : κ × α → Bool) (k : κ) :
    (d.filter p).get? k = (d.get? k).filter fun v => p (k, v) := by
  have hiff : ∀ v, (d.filter p).get? k = some v ↔ d.get? k = some v ∧ p (k, v) = true := by
    intro v
    rw [← mem_entries, ← mem_entries]
    exact List.mem_filter
  cases hget : d.get? k with
  | none =>
    refine Option.eq_none_iff_forall_ne_some.mpr fun v hv => ?_
    rw [hiff, hget] at hv
    cases hv.1
  | some v =>
    rw [Option.filter_some]
    split
    · rename_i hp
      exact (hiff v).mpr ⟨hget, hp⟩
    · rename_i hp
      refine Option.eq_none_iff_forall_ne_some.mpr fun w hw => ?_
      rw [hiff, hget] at hw
      obtain ⟨hsame, hw⟩ := hw
      cases hsame
      exact hp hw

theorem lookup_map {ι : Type*} (f : ι → κ) (g : ι → α) (k : κ) (l : List ι) :
    lookup k (l.map fun v => (f v, g v)) = (l.find? (f · = k)).map g := by
  induction l with
  | nil => rfl
  | cons v rest ih =>
    rw [List.map_cons, lookup, List.find?_cons]
    by_cases h : f v = k
    · simp [h]
    · simp [h, ih]

section Sum
variable {M : Type} [AddCommMonoid M]
variable {d : Dict κ α} {f : κ → α → M}

/-- The sum of `f` over the entries. -/
def sumBy (d : Dict κ α) (f : κ → α → M) : M := (d.entries.map fun e => f e.1 e.2).sum

/-- The sum of `f` over the values. -/
def sum (d : Dict κ α) (f : α → M) : M := (d.values.map f).sum

omit [DecidableEq κ] in
@[simp] theorem sumBy_empty (f : κ → α → M) : (empty : Dict κ α).sumBy f = 0 := rfl

omit [DecidableEq κ] in
@[simp] theorem sum_empty (f : α → M) : (empty : Dict κ α).sum f = 0 := rfl

private theorem sumBy_put (k : κ) (v : α) (f : κ → α → M) : ∀ l : List (κ × α),
    ((put k v l).map fun e => f e.1 e.2).sum + ((lookup k l).map (f k)).getD 0 = (l.map fun e => f e.1 e.2).sum + f k v
  | [] => by simp [put, lookup]
  | (j, w) :: rest => by
    by_cases hj : j = k
    · subst hj
      simp only [put, lookup, ↓reduceIte, List.map_cons, List.sum_cons, Option.map_some, Option.getD_some]
      abel
    · have ih := sumBy_put k v f rest
      simp only [put, lookup, hj, ↓reduceIte, List.map_cons, List.sum_cons]
      rw [add_assoc, ih, add_assoc]

private theorem sumBy_drop (k : κ) (f : κ → α → M) : ∀ l : List (κ × α), (l.map Prod.fst).Nodup →
    ((drop k l).map fun e => f e.1 e.2).sum + ((lookup k l).map (f k)).getD 0 = (l.map fun e => f e.1 e.2).sum
  | [], _ => by simp [drop, lookup]
  | (j, w) :: rest, hl => by
    rw [List.map_cons, List.nodup_cons] at hl
    have ih := sumBy_drop k f rest hl.2
    by_cases hj : j = k
    · subst hj
      rw [lookup_eq_none.mpr hl.1] at ih
      simp only [Option.map_none, Option.getD_none, add_zero] at ih
      simp only [drop, lookup, ↓reduceIte, List.map_cons, List.sum_cons, Option.map_some, Option.getD_some]
      rw [ih, add_comm]
    · simp only [drop, lookup, hj, ↓reduceIte, List.map_cons, List.sum_cons]
      rw [add_assoc, ih]

theorem sumBy_set (d : Dict κ α) (k : κ) (v : α) (f : κ → α → M) :
    (d.set k v).sumBy f + ((d.get? k).map (f k)).getD 0 = d.sumBy f + f k v :=
  sumBy_put k v f d.entries

theorem sumBy_erase (d : Dict κ α) (k : κ) (f : κ → α → M) :
    (d.erase k).sumBy f + ((d.get? k).map (f k)).getD 0 = d.sumBy f :=
  sumBy_drop k f d.entries d.nodup

theorem sumBy_congr {f g : κ → α → M} (h : ∀ k v, d.get? k = some v → f k v = g k v) : d.sumBy f = d.sumBy g := by
  unfold sumBy
  congr 1
  refine List.map_congr_left ?_
  rintro ⟨k, v⟩ hmem
  exact h k v (mem_entries.mp hmem)

omit [DecidableEq κ] in
theorem sumBy_add (d : Dict κ α) (f g : κ → α → M) : (d.sumBy fun k v => f k v + g k v) = d.sumBy f + d.sumBy g := by
  unfold sumBy
  rw [← List.sum_map_add]

theorem sumBy_le [PartialOrder M] [IsOrderedAddMonoid M] {f g : κ → α → M}
    (h : ∀ k v, d.get? k = some v → f k v ≤ g k v) : d.sumBy f ≤ d.sumBy g := by
  refine List.sum_le_sum ?_
  rintro ⟨k, v⟩ hmem
  exact h k v (mem_entries.mp hmem)

theorem sumBy_nonneg [PartialOrder M] [IsOrderedAddMonoid M]
    (h : ∀ k v, d.get? k = some v → 0 ≤ f k v) : 0 ≤ d.sumBy f := by
  refine List.sum_nonneg ?_
  intro x hx
  obtain ⟨⟨k, v⟩, hmem, rfl⟩ := List.mem_map.mp hx
  exact h k v (mem_entries.mp hmem)

theorem map_getD_default {k : κ} {a : α} (hf : f k a = 0) :
    ((d.get? k).map (f k)).getD 0 = f k (d.getD k a) := by
  unfold getD
  cases d.get? k with
  | none => exact hf.symm
  | some v => rfl

theorem sumBy_set_default {M : Type} [AddCommGroup M] (d : Dict κ α) (k : κ) (v : α) {f : κ → α → M} {a : α} (hf : f k a = 0) :
    (d.set k v).sumBy f = d.sumBy f + f k v - f k (d.getD k a) := by
  rw [← map_getD_default hf, ← sumBy_set, add_sub_cancel_right]

theorem sumBy_erase_default {M : Type} [AddCommGroup M] (d : Dict κ α) (k : κ) {f : κ → α → M} {a : α} (hf : f k a = 0) :
    (d.erase k).sumBy f = d.sumBy f - f k (d.getD k a) := by
  rw [← map_getD_default hf, ← sumBy_erase d k f, add_sub_cancel_right]

omit [DecidableEq κ] in
theorem sum_eq (d : Dict κ α) (f : α → M) : d.sum f = (d.entries.map fun e => f e.2).sum := by
  unfold sum values
  rw [List.map_map]
  rfl

theorem sum_set (d : Dict κ α) (k : κ) (v : α) (f : α → M) :
    (d.set k v).sum f + ((d.get? k).map f).getD 0 = d.sum f + f v := by
  rw [sum_eq, sum_eq]
  exact sumBy_set d k v fun _ => f

theorem sum_erase (d : Dict κ α) (k : κ) (f : α → M) : (d.erase k).sum f + ((d.get? k).map f).getD 0 = d.sum f := by
  rw [sum_eq, sum_eq]
  exact sumBy_erase d k fun _ => f

omit [DecidableEq κ] in
theorem length_filter_values (d : Dict κ α) (p : α → Bool) : (d.values.filter p).length = d.sum fun v => if p v then 1 else 0 := by
  unfold sum
  induction d.values with
  | nil => rfl
  | cons v rest ih =>
    rw [List.filter_cons, List.map_cons, List.sum_cons, ← ih]
    split
    · rw [List.length_cons, Nat.add_comm]
    · rw [Nat.zero_add]

theorem length_filter_modify {k : κ} {v : α} (h : d.get? k = some v) (f : α → α) (p : α → Bool) :
    ((d.modify k f).values.filter p).length + (if p v then 1 else 0) = (d.values.filter p).length + if p (f v) then 1 else 0 := by
  have hset : d.modify k f = d.set k (f v) := by
    rw [modify, h]
  rw [length_filter_values, length_filter_values, hset]
  have hsum := sum_set d k (f v) fun v => if p v then 1 else 0
  rw [h] at hsum
  exact hsum

theorem sum_of_get? {names : List κ} (hnodup : names.Nodup) (hnames : ∀ k, k ∈ names) {value : κ → α}
    (hget : ∀ k, d.get? k = some (value k)) (f : α → M) : d.sum f = (names.map fun k => f (value k)).sum := by
  have hperm : (d.entries.map Prod.fst).Perm names :=
    (List.perm_ext_iff_of_nodup d.nodup hnodup).mpr fun k =>
      ⟨fun _ => hnames k, fun _ => List.mem_map.mpr ⟨(k, value k), mem_entries.mpr (hget k), rfl⟩⟩
  have hvalues : d.entries.map (fun e => f e.2) = (d.entries.map Prod.fst).map fun k => f (value k) := by
    rw [List.map_map]
    refine List.map_congr_left fun e he => ?_
    rw [Function.comp_apply, Option.some.inj ((hget e.1).symm.trans (mem_entries.mp he))]
  rw [sum_eq, hvalues]
  exact (hperm.map _).sum_eq

theorem sum_nonneg [PartialOrder M] [IsOrderedAddMonoid M] {f : α → M}
    (h : ∀ k v, d.get? k = some v → 0 ≤ f v) : 0 ≤ d.sum f := by
  rw [sum_eq]
  exact sumBy_nonneg (f := fun _ => f) h

end Sum

/-! ### Tallies -/

section Tally
variable [AddCommMonoid α]

def tally (d : Dict κ α) (l : List (κ × α)) : Dict κ α := l.foldl (fun d e => d.set e.1 (d.getD e.1 0 + e.2)) d

theorem tally_concat (d : Dict κ α) (l : List (κ × α)) (e : κ × α) :
    d.tally (l ++ [e]) = (d.tally l).set e.1 ((d.tally l).getD e.1 0 + e.2) := by
  rw [tally, List.foldl_append]
  rfl

/-- One amount, as a read of the key `k` sees it. -/
def bump (k : κ) (old : Option α) (e : κ × α) : Option α := if e.1 = k then some (old.getD 0 + e.2) else old

theorem get?_tally (d : Dict κ α) (l : List (κ × α)) (k : κ) : (d.tally l).get? k = l.foldl (bump k) (d.get? k) := by
  induction l using List.reverseRecOn with
  | nil => rfl
  | append_singleton l e ih =>
    rw [tally_concat, get?_set, List.foldl_append, ← ih]
    simp only [List.foldl_cons, List.foldl_nil, bump, getD]
    by_cases h : e.1 = k
    · rw [if_pos h, if_pos h, h]
    · rw [if_neg h, if_neg h]

instance (k : κ) : RightCommutative (bump k : Option α → κ × α → Option α) where
  right_comm old e e' := by
    by_cases h : e.1 = k <;> by_cases h' : e'.1 = k <;> simp [bump, h, h', add_right_comm]

theorem get?_tally_perm (d : Dict κ α) {l l' : List (κ × α)} (h : l.Perm l') (k : κ) :
    (d.tally l).get? k = (d.tally l').get? k := by
  rw [get?_tally, get?_tally, h.foldl_eq]

theorem get?_tally_entries (d e : Dict κ α) (k : κ) :
    (d.tally e.entries).get? k = (e.get? k).elim (d.get? k) fun v => some (d.getD k 0 + v) := by
  have hread : ∀ l : List (κ × α), (l.map Prod.fst).Nodup → ∀ old : Option α,
      l.foldl (bump k) old = (lookup k l).elim old fun v => some (old.getD 0 + v) := by
    intro l
    induction l with
    | nil => exact fun _ _ => rfl
    | cons entry rest ih =>
      intro hl old
      rw [List.map_cons, List.nodup_cons] at hl
      rw [List.foldl_cons, ih hl.2]
      by_cases hk : entry.1 = k
      · rw [← hk, lookup_eq_none.mpr hl.1]
        simp [bump, lookup]
      · simp [bump, lookup, hk]
  rw [get?_tally, hread e.entries e.nodup]
  rfl

theorem getD_tally_entries (d e : Dict κ α) (k : κ) : (d.tally e.entries).getD k 0 = d.getD k 0 + e.getD k 0 := by
  rw [getD, get?_tally_entries, getD, getD]
  cases e.get? k with
  | none => simp
  | some v => simp

theorem tally_entries_ne {e : Dict κ α} (he : e.entries ≠ []) (d : Dict κ α) : (d.tally e.entries).entries ≠ [] := by
  obtain ⟨⟨k, v⟩, rest, hentries⟩ := List.exists_cons_of_ne_nil he
  have hadded : e.get? k = some v := mem_entries.mp (hentries ▸ List.mem_cons_self ..)
  have hget := get?_tally_entries d e k
  intro hnone
  rw [hadded, get?, hnone] at hget
  cases hget

end Tally

end Dict
end Lib
