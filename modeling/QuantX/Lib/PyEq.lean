import QuantX.Lib.PyVal

/-! Equality of dynamically typed records, `x == y`. Every value has a plain form, numbers as rationals and the fields of
    mappings sorted by their keys, and two values are equal where their plain forms are. -/

namespace Lib.PyVal

mutual

def decEq : (x y : PyVal) → Decidable (x = y)
  | none, none => isTrue rfl
  | bool b, bool b' => decidable_of_iff (b = b') (by simp)
  | int n, int n' => decidable_of_iff (n = n') (by simp)
  | float q, float q' => decidable_of_iff (q = q') (by simp)
  | str s, str s' => decidable_of_iff (s = s') (by simp)
  | list l, list l' => @decidable_of_iff _ (l = l') (by simp) (decEqList l l')
  | dict d, dict d' => @decidable_of_iff _ (d = d') (by simp) (decEqFields d d')
  | none, bool _ | none, int _ | none, float _ | none, str _ | none, list _ | none, dict _
  | bool _, none | bool _, int _ | bool _, float _ | bool _, str _ | bool _, list _ | bool _, dict _
  | int _, none | int _, bool _ | int _, float _ | int _, str _ | int _, list _ | int _, dict _
  | float _, none | float _, bool _ | float _, int _ | float _, str _ | float _, list _ | float _, dict _
  | str _, none | str _, bool _ | str _, int _ | str _, float _ | str _, list _ | str _, dict _
  | list _, none | list _, bool _ | list _, int _ | list _, float _ | list _, str _ | list _, dict _
  | dict _, none | dict _, bool _ | dict _, int _ | dict _, float _ | dict _, str _ | dict _, list _ =>
    isFalse (by simp)

def decEqList : (l l' : List PyVal) → Decidable (l = l')
  | [], [] => isTrue rfl
  | x :: l, x' :: l' =>
    @decidable_of_iff _ (x = x' ∧ l = l') (by simp) (@instDecidableAnd _ _ (decEq x x') (decEqList l l'))
  | [], _ :: _ | _ :: _, [] => isFalse (by simp)

def decEqFields : (d d' : List (String × PyVal)) → Decidable (d = d')
  | [], [] => isTrue rfl
  | (k, x) :: d, (k', x') :: d' =>
    @decidable_of_iff _ ((k = k' ∧ x = x') ∧ d = d') (by simp)
      (@instDecidableAnd _ _ (@instDecidableAnd _ _ inferInstance (decEq x x')) (decEqFields d d'))
  | [], _ :: _ | _ :: _, [] => isFalse (by simp)

end

instance : DecidableEq PyVal := decEq

def insertField (k : String) (x : PyVal) : List (String × PyVal) → List (String × PyVal)
  | [] => [(k, x)]
  | (k', x') :: d => if k' < k then (k', x') :: insertField k x d else (k, x) :: (k', x') :: d

mutual

def plain : PyVal → PyVal
  | none => none
  | bool b => float (if b then 1 else 0)
  | int n => float n
  | float q => float q
  | str s => str s
  | list l => list (plainList l)
  | dict d => dict (plainFields d)

def plainList : List PyVal → List PyVal
  | [] => []
  | x :: l => plain x :: plainList l

def plainFields : List (String × PyVal) → List (String × PyVal)
  | [] => []
  | (k, x) :: d => insertField k (plain x) (plainFields d)

end

/-- `x == y`. -/
def same (x y : PyVal) : Bool := plain x = plain y

theorem same_iff {x y : PyVal} : same x y = true ↔ plain x = plain y := decide_eq_true_iff

theorem lookup_insertField (k j : String) (x : PyVal) (d : List (String × PyVal)) :
    Dict.lookup j (insertField k x d) = if k = j then some x else Dict.lookup j d := by
  induction d with
  | nil => simp [insertField, Dict.lookup]
  | cons e d ih =>
    obtain ⟨k', x'⟩ := e
    rw [insertField]
    split
    · rename_i hless
      by_cases hj : k' = j
      · subst hj
        have hne : k ≠ k' := fun h => String.lt_irrefl k' (h ▸ hless)
        simp [Dict.lookup, hne]
      · simp [Dict.lookup, hj, ih]
    · by_cases hk : k = j <;> simp [Dict.lookup, hk]

theorem lookup_plainFields (k : String) (d : List (String × PyVal)) :
    Dict.lookup k (plainFields d) = (Dict.lookup k d).map plain := by
  induction d with
  | nil => simp [plainFields, Dict.lookup]
  | cons e d ih =>
    obtain ⟨k', x⟩ := e
    rw [plainFields, lookup_insertField, Dict.lookup, ih]
    split <;> rfl

theorem plainList_eq_map (l : List PyVal) : plainList l = l.map plain := by
  induction l with
  | nil => simp [plainList]
  | cons x l ih => simp [plainList, ih]

@[simp] theorem plain_none : plain none = none := by simp [plain]
@[simp] theorem plain_str (s : String) : plain (str s) = str s := by simp [plain]
@[simp] theorem plain_int (n : Int) : plain (int n) = float n := by simp [plain]
@[simp] theorem plain_list (l : List PyVal) : plain (list l) = list (l.map plain) := by simp [plain, plainList_eq_map]

theorem plain_get {d d' : List (String × PyVal)} (h : plain (dict d) = plain (dict d')) (k : String) :
    plain (get d k) = plain (get d' k) := by
  simp only [plain, dict.injEq] at h
  have hlookup : (Dict.lookup k d).map plain = (Dict.lookup k d').map plain := by
    rw [← lookup_plainFields, ← lookup_plainFields, h]
  have hget : ∀ d : List (String × PyVal), plain (get d k) = ((Dict.lookup k d).map plain).getD none := by
    intro d
    unfold get
    cases Dict.lookup k d <;> simp
  rw [hget, hget, hlookup]

theorem eq_none_of_plain {x : PyVal} (h : plain x = none) : x = none := by
  cases x with
  | none => rfl
  | _ => simp [plain] at h

theorem eq_str_of_plain {x : PyVal} {s : String} (h : plain x = str s) : x = str s := by
  cases x with
  | str s' => simpa using h
  | _ => simp [plain] at h

end Lib.PyVal
