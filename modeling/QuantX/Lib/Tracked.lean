import QuantX.Lib.Dict

/-! Numbered records that are open until they are resolved, and the open record that each owner points at. -/

namespace Lib
variable {K R : Type}

structure Numbers (R : Type) where
  rows : Dict Nat R := Dict.empty
  next : Nat := 1

namespace Numbers

def insert (table : Numbers R) (row : R) : Numbers R where
  rows := table.rows.set table.next row
  next := table.next + 1

def modify (table : Numbers R) (id : Nat) (f : R → R) : Numbers R := { table with rows := table.rows.modify id f }

def delete (table : Numbers R) (p : R → Bool) : Numbers R := { table with rows := table.rows.filter fun row => !p row.2 }

theorem get?_modify (table : Numbers R) (id id' : Nat) (f : R → R) :
    (table.modify id f).rows.get? id' = if id = id' then (table.rows.get? id').map f else table.rows.get? id' := by
  rw [modify, Dict.get?_modify]
  split
  next hid => rw [hid]
  next => rfl

inductive Action where
  | keep
  | openNew
  | update
  | resolve
  deriving DecidableEq, Repr

def act (table : Numbers R) (active : Option Nat) (row : R) (touch close : R → R) : Action → Numbers R × Option Nat
  | .keep => (table, active)
  | .openNew => (table.insert row, some table.next)
  | .update => (active.elim table fun id => table.modify id touch, active)
  | .resolve => (active.elim table fun id => table.modify id close, none)

end Numbers

structure Ownership (K R : Type) where
  owner : R → K
  resolved : R → Bool

variable {f : Ownership K R} {table table' : Numbers R} {active : K → Option Nat}
variable {g : R → R} {id : Nat}

structure Tracks (f : Ownership K R) (table : Numbers R) (active : K → Option Nat) : Prop where
  fresh : ∀ id, table.next ≤ id → table.rows.get? id = none
  unresolved : ∀ id row, table.rows.get? id = some row → f.resolved row = false → active (f.owner row) = some id
  active : ∀ k id, active k = some id → ∃ row, table.rows.get? id = some row ∧ f.owner row = k ∧ f.resolved row = false

def Opened (f : Ownership K R) (table table' : Numbers R) (k : K) : Prop :=
  ∃ id row, table.rows.get? id = none ∧ table'.rows.get? id = some row ∧ f.owner row = k

def Resolved (f : Ownership K R) (table table' : Numbers R) (k : K) : Prop :=
  ∃ id row row', table.rows.get? id = some row ∧ f.resolved row = false ∧ table'.rows.get? id = some row' ∧ f.resolved row' = true ∧
    f.owner row = k

theorem Tracks.empty (f : Ownership K R) : Tracks f {} fun _ => none where
  fresh := by simp
  unresolved := by simp
  active := by simp

theorem Tracks.congr {active' : K → Option Nat} (h : Tracks f table active) (hactive : ∀ k, active' k = active k) : Tracks f table active' := by
  obtain rfl : active' = active := funext hactive
  exact h

theorem Tracks.insert [DecidableEq K] (h : Tracks f table active) {row : R} (hnone : active (f.owner row) = none) (hopen : f.resolved row = false) :
    Tracks f (table.insert row) fun k => if k = f.owner row then some table.next else active k where
  fresh := by
    intro id hid
    simp only [Numbers.insert] at hid ⊢
    rw [Dict.get?_set_ne _ _ (by omega)]
    exact h.fresh id (by omega)
  unresolved := by
    intro id row' hrow' hresolved
    simp only [Numbers.insert] at hrow'
    rw [Dict.get?_set] at hrow'
    split at hrow'
    next hid =>
      rw [← Option.some.inj hrow', if_pos rfl, hid]
    next =>
      have hactive := h.unresolved id row' hrow' hresolved
      rw [if_neg ?_]
      · exact hactive
      · intro hsame
        rw [hsame, hnone] at hactive
        cases hactive
  active := by
    intro k id hid
    simp only [Numbers.insert] at hid ⊢
    split at hid
    next hk =>
      rw [← Option.some.inj hid]
      exact ⟨row, Dict.get?_set_self _ _ _, hk.symm, hopen⟩
    next =>
      obtain ⟨row', hrow', hrest⟩ := h.active k id hid
      refine ⟨row', ?_, hrest⟩
      rw [Dict.get?_set_ne _ _ ?_]
      · exact hrow'
      · rintro rfl
        rw [h.fresh _ (Nat.le_refl _)] at hrow'
        cases hrow'

theorem Tracks.modify (h : Tracks f table active) (howner : ∀ row, f.owner (g row) = f.owner row)
    (hresolved : ∀ row, f.resolved (g row) = f.resolved row) : Tracks f (table.modify id g) active where
  fresh := by
    intro id' hid'
    rw [Numbers.get?_modify, h.fresh id' hid']
    split <;> rfl
  unresolved := by
    intro id' row' hrow' hopen
    rw [Numbers.get?_modify] at hrow'
    split at hrow'
    next =>
      obtain ⟨row, hrow, rfl⟩ := Option.map_eq_some_iff.mp hrow'
      rw [hresolved] at hopen
      rw [howner]
      exact h.unresolved id' row hrow hopen
    next => exact h.unresolved id' row' hrow' hopen
  active := by
    intro k id' hid'
    obtain ⟨row, hrow, howned, hopen⟩ := h.active k id' hid'
    rw [Numbers.get?_modify, hrow]
    split
    next => exact ⟨g row, rfl, (howner row).trans howned, (hresolved row).trans hopen⟩
    next => exact ⟨row, rfl, howned, hopen⟩

theorem Tracks.resolve [DecidableEq K] (h : Tracks f table active) {k : K} (hactive : active k = some id)
    (hresolved : ∀ row, f.resolved (g row) = true) : Tracks f (table.modify id g) fun k' =>
      if k' = k then none else active k' where
  fresh := by
    intro id' hid'
    rw [Numbers.get?_modify, h.fresh id' hid']
    split <;> rfl
  unresolved := by
    intro id' row' hrow' hopen
    rw [Numbers.get?_modify] at hrow'
    split at hrow'
    next =>
      obtain ⟨row, hrow, rfl⟩ := Option.map_eq_some_iff.mp hrow'
      rw [hresolved] at hopen
      cases hopen
    next hne =>
      have hother := h.unresolved id' row' hrow' hopen
      rw [if_neg ?_]
      · exact hother
      · intro hk
        rw [hk, hactive] at hother
        exact hne (Option.some.inj hother)
  active := by
    intro k' id' hid'
    split at hid'
    next => cases hid'
    next hk =>
      obtain ⟨row, hrow, howned, hopen⟩ := h.active k' id' hid'
      refine ⟨row, ?_, howned, hopen⟩
      rw [Numbers.get?_modify, if_neg ?_]
      · exact hrow
      · rintro rfl
        obtain ⟨row', hrow', howned', -⟩ := h.active k id hactive
        rw [hrow] at hrow'
        cases hrow'
        exact hk (howned.symm.trans howned')

theorem Tracks.delete (h : Tracks f table active) {p : R → Bool} (hp : ∀ row, p row = true → f.resolved row = true) :
    Tracks f (table.delete p) active where
  fresh := by
    intro id hid
    simp only [Numbers.delete] at hid ⊢
    rw [Dict.get?_filter, h.fresh id hid]
    rfl
  unresolved := by
    intro id row hrow hopen
    simp only [Numbers.delete] at hrow
    rw [Dict.get?_filter] at hrow
    exact h.unresolved id row (Option.eq_some_of_filter_eq_some hrow) hopen
  active := by
    intro k id hid
    obtain ⟨row, hrow, howned, hopen⟩ := h.active k id hid
    refine ⟨row, ?_, howned, hopen⟩
    simp only [Numbers.delete]
    rw [Dict.get?_filter, hrow, Option.filter_some, if_pos ?_]
    by_contra hdeleted
    rw [hp row (by simpa using hdeleted)] at hopen
    cases hopen

/-! ### What changes -/

theorem Tracks.opened_insert (h : Tracks f table active) (row : R) (k : K) : Opened f table (table.insert row) k ↔ f.owner row = k := by
  constructor
  · rintro ⟨id, row', hnone, hrow', howned⟩
    simp only [Numbers.insert] at hrow'
    rw [Dict.get?_set] at hrow'
    split at hrow'
    next =>
      rw [Option.some.inj hrow']
      exact howned
    next =>
      rw [hnone] at hrow'
      cases hrow'
  · rintro rfl
    exact ⟨table.next, row, h.fresh _ (Nat.le_refl _), Dict.get?_set_self _ _ _, rfl⟩

theorem Tracks.not_resolved_insert (h : Tracks f table active) (row : R) (k : K) : ¬Resolved f table (table.insert row) k := by
  rintro ⟨id, old, new, hold, hopen, hnew, hresolved, -⟩
  simp only [Numbers.insert] at hnew
  rw [Dict.get?_set_ne _ _ ?_, hold] at hnew
  · cases hnew
    rw [hopen] at hresolved
    cases hresolved
  · rintro rfl
    rw [h.fresh _ (Nat.le_refl _)] at hold
    cases hold

theorem not_opened_modify (id : Nat) (g : R → R) (k : K) : ¬Opened f table (table.modify id g) k := by
  rintro ⟨id', row, hnone, hrow, -⟩
  rw [Numbers.get?_modify, hnone] at hrow
  split at hrow <;> cases hrow

theorem not_resolved_modify (hresolved : ∀ row, f.resolved (g row) = f.resolved row) (k : K) :
    ¬Resolved f table (table.modify id g) k := by
  rintro ⟨id', old, new, hold, hopen, hnew, hnow, -⟩
  rw [Numbers.get?_modify, hold] at hnew
  split at hnew
  next =>
    cases hnew
    rw [hresolved, hopen] at hnow
    cases hnow
  next =>
    cases hnew
    rw [hopen] at hnow
    cases hnow

theorem Tracks.resolved_modify (h : Tracks f table active) {k : K} (hactive : active k = some id)
    (hresolved : ∀ row, f.resolved (g row) = true) (k' : K) : Resolved f table (table.modify id g) k' ↔ k = k' := by
  obtain ⟨row, hrow, howned, hopen⟩ := h.active k id hactive
  constructor
  · rintro ⟨id', old, new, hold, hopen', hnew, hnow, howned'⟩
    rw [Numbers.get?_modify, hold] at hnew
    split at hnew
    next hid =>
      rw [← hid, hrow] at hold
      cases hold
      exact howned.symm.trans howned'
    next =>
      cases hnew
      rw [hopen'] at hnow
      cases hnow
  · rintro rfl
    refine ⟨id, row, g row, hrow, hopen, ?_, hresolved row, howned⟩
    rw [Numbers.get?_modify, if_pos rfl, hrow]
    rfl

theorem not_opened_delete (p : R → Bool) (k : K) : ¬Opened f table (table.delete p) k := by
  rintro ⟨id, row, hnone, hrow, -⟩
  simp only [Numbers.delete] at hrow
  rw [Dict.get?_filter, hnone] at hrow
  cases hrow

theorem not_resolved_delete (p : R → Bool) (k : K) : ¬Resolved f table (table.delete p) k := by
  rintro ⟨id, old, new, hold, hopen, hnew, hnow, -⟩
  simp only [Numbers.delete] at hnew
  rw [Dict.get?_filter] at hnew
  have hsame := Option.eq_some_of_filter_eq_some hnew
  rw [hold] at hsame
  cases hsame
  rw [hopen] at hnow
  cases hnow

theorem not_opened_same (k : K) : ¬Opened f table table k := by
  rintro ⟨id, row, hnone, hrow, -⟩
  rw [hnone] at hrow
  cases hrow

theorem not_resolved_same (k : K) : ¬Resolved f table table k := by
  rintro ⟨id, old, new, hold, hopen, hnew, hnow, -⟩
  rw [hold] at hnew
  cases hnew
  rw [hopen] at hnow
  cases hnow

theorem Tracks.act [DecidableEq K] (h : Tracks f table active) {k : K} {row : R} {touch close : R → R} {action : Numbers.Action}
    (howner : f.owner row = k) (hrow : f.resolved row = false) (htouched : ∀ row, f.owner (touch row) = f.owner row)
    (htouch : ∀ row, f.resolved (touch row) = f.resolved row) (hclose : ∀ row, f.resolved (close row) = true)
    (hopen : action = .openNew → active k = none) (hactive : action = .update ∨ action = .resolve → active k ≠ none) :
    Tracks f (table.act (active k) row touch close action).1
        (fun k' => if k' = k then (table.act (active k) row touch close action).2 else active k') ∧
      (∀ k', Opened f table (table.act (active k) row touch close action).1 k' ↔ action = .openNew ∧ k = k') ∧
      ∀ k', Resolved f table (table.act (active k) row touch close action).1 k' ↔ action = .resolve ∧ k = k' := by
  have hsame : ∀ k', (if k' = k then active k else active k') = active k' := by
    intro k'
    split
    next hk => rw [hk]
    next => rfl
  cases action with
  | keep => exact ⟨h.congr hsame, fun k' => iff_of_false (not_opened_same k') (by simp), fun k' => iff_of_false (not_resolved_same k') (by simp)⟩
  | openNew =>
    subst howner
    refine ⟨h.insert (hopen rfl) hrow, fun k' => ?_, fun k' => iff_of_false (h.not_resolved_insert row k') (by simp)⟩
    rw [Numbers.act, h.opened_insert]
    simp
  | update =>
    cases hid : active k with
    | none => exact absurd hid (hactive (.inl rfl))
    | some id =>
      rw [hid] at hsame
      exact ⟨(h.modify htouched htouch).congr hsame, fun k' => iff_of_false (not_opened_modify id touch k') (by simp),
        fun k' => iff_of_false (not_resolved_modify htouch k') (by simp)⟩
  | resolve =>
    cases hid : active k with
    | none => exact absurd hid (hactive (.inr rfl))
    | some id =>
      refine ⟨h.resolve hid hclose, fun k' => iff_of_false (not_opened_modify id close k') (by simp), fun k' => ?_⟩
      have hresolved := h.resolved_modify hid hclose k'
      simp only [Numbers.act, Option.elim_some, true_and]
      exact hresolved

end Lib
