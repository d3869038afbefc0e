import QuantX.Lib.Fields

/-! A check that raises: what follows it may rely on what it checks. -/

namespace Lib

def require (c : Prop) [Decidable c] (message : String) : Except String Unit := if c then .ok () else .error message

theorem require_eq_ok {c : Prop} [Decidable c] {message : String} : require c message = .ok () ↔ c := by
  unfold require
  split
  · exact iff_of_true rfl ‹_›
  · exact iff_of_false (by simp) ‹_›

theorem map_eq_ok {α β : Type} {x : Except String α} {f : α → β} {b : β} : x.map f = .ok b ↔ ∃ a, x = .ok a ∧ f a = b := by
  cases x with
  | error message => simp [Except.map]
  | ok a => simp [Except.map]

theorem check_bind {α : Type} {check : Except String Unit} {f : Unit → Except String α} {x : α} :
    (check >>= f) = .ok x ↔ check = .ok () ∧ f () = .ok x := by
  rw [bind_eq_ok]
  constructor
  · rintro ⟨⟨⟩, hcheck, hrest⟩
    exact ⟨hcheck, hrest⟩
  · rintro ⟨hcheck, hrest⟩
    exact ⟨(), hcheck, hrest⟩

theorem require_bind {α : Type} {c : Prop} [Decidable c] {message : String} {f : Unit → Except String α} {x : α} :
    (require c message >>= f) = .ok x ↔ c ∧ f () = .ok x := by rw [check_bind, require_eq_ok]

theorem eq_ok_of_toOption {α : Type} {x : Except String α} {value : α} (h : x.toOption = some value) : x = .ok value := by
  cases x with
  | error message => cases h
  | ok given => exact congrArg Except.ok (Option.some.inj h)

theorem exists_of_toOption {α β : Type} {x : Except String α} {f : α → β} {value : β} (h : x.toOption.map f = some value) :
    ∃ given, x = .ok given ∧ f given = value := by
  obtain ⟨given, hgiven, hvalue⟩ := Option.map_eq_some_iff.mp h
  exact ⟨given, eq_ok_of_toOption hgiven, hvalue⟩

theorem forM_eq_ok {α : Type} {check : α → Except String Unit} {l : List α} : l.forM check = .ok () ↔ ∀ x ∈ l, check x = .ok () := by
  induction l with
  | nil => exact iff_of_true rfl (by simp)
  | cons x l ih => rw [List.forM_eq_forM, List.forM_cons, check_bind, ← List.forM_eq_forM, ih, List.forall_mem_cons]

theorem mapM_eq_ok {α β : Type} {f : α → Except String β} {l : List α} {l' : List β} :
    l.mapM f = .ok l' ↔ List.Forall₂ (fun a b => f a = .ok b) l l' := by
  induction l generalizing l' with
  | nil =>
    rw [List.mapM_nil, List.forall₂_nil_left_iff]
    exact ⟨fun h => (Except.ok.inj h).symm, fun h => h ▸ rfl⟩
  | cons a l ih =>
    rw [List.mapM_cons, bind_eq_ok, List.forall₂_cons_left_iff]
    constructor
    · rintro ⟨b, hb, h⟩
      obtain ⟨rest, hrest, h⟩ := bind_eq_ok.mp h
      cases h
      exact ⟨b, rest, hb, ih.mp hrest, rfl⟩
    · rintro ⟨b, rest, hb, hrest, rfl⟩
      exact ⟨b, hb, bind_eq_ok.mpr ⟨rest, ih.mpr hrest, rfl⟩⟩

theorem forall₂_each {α β : Type} {R : α → β → Prop} {l : List α} {l' : List β} (h : List.Forall₂ R l l') :
    (∀ a ∈ l, ∃ b ∈ l', R a b) ∧ ∀ b ∈ l', ∃ a ∈ l, R a b := by
  induction h with
  | nil => simp
  | cons hfirst _ ih =>
    simp only [List.forall_mem_cons, List.exists_mem_cons_iff]
    exact ⟨⟨.inl hfirst, fun a ha => .inr (ih.1 a ha)⟩, .inl hfirst, fun b hb => .inr (ih.2 b hb)⟩

theorem mapM_each {α β : Type} {f : α → Except String β} {l : List α} {l' : List β} (h : l.mapM f = .ok l') :
    (∀ a ∈ l, ∃ b ∈ l', f a = .ok b) ∧ ∀ b ∈ l', ∃ a ∈ l, f a = .ok b := forall₂_each (mapM_eq_ok.mp h)

theorem mapM_eq_error {α β : Type} {f : α → Except String β} {l : List α} {message : String} (h : l.mapM f = .error message) :
    ∃ a ∈ l, f a = .error message := by
  induction l with
  | nil => cases h
  | cons a l ih =>
    rw [List.mapM_cons] at h
    cases hfirst : f a with
    | error message' =>
      rw [hfirst] at h
      cases h
      exact ⟨a, List.mem_cons_self .., hfirst⟩
    | ok b =>
      rw [hfirst] at h
      cases hrest : l.mapM f with
      | error message' =>
        have hmessage : message' = message := by
          have hbind : (l.mapM f >>= fun rest => pure (b :: rest)) = (.error message : Except String (List β)) := h
          rw [hrest] at hbind
          exact Except.error.inj hbind
        subst hmessage
        obtain ⟨other, hother, hmem⟩ := ih hrest
        exact ⟨other, List.mem_cons_of_mem _ hother, hmem⟩
      | ok rest =>
        have hbind : (l.mapM f >>= fun rest => pure (b :: rest)) = (.error message : Except String (List β)) := h
        rw [hrest] at hbind
        cases hbind

end Lib
