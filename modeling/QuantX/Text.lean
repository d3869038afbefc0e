import Mathlib.Data.String.Basic
import Mathlib.Data.Finset.Sort

/-! # Texts

The text methods of the source. -/

namespace QuantX

/-- `str.upper` of a character as far as an ASCII result goes. -/
def upperChar (c : Char) : String :=
  match c.toNat with
  | 0xDF => "SS"
  | 0x131 => "I"
  | 0x17F => "S"
  | 0xFB00 => "FF"
  | 0xFB01 => "FI"
  | 0xFB02 => "FL"
  | 0xFB03 => "FFI"
  | 0xFB04 => "FFL"
  | 0xFB05 => "ST"
  | 0xFB06 => "ST"
  | _ => c.toUpper.toString

def upperText (s : String) : String := String.join (s.toList.map upperChar)

/-- `str.isspace` of a character. -/
def isSpace (c : Char) : Bool :=
  let n := c.toNat
  (9 ≤ n && n ≤ 13) || (28 ≤ n && n ≤ 32) || n = 0x85 || n = 0xA0 || n = 0x1680 || (0x2000 ≤ n && n ≤ 0x200A) ||
    n = 0x2028 || n = 0x2029 || n = 0x202F || n = 0x205F || n = 0x3000

/-- `str.strip`. -/
def stripText (s : String) : String := String.ofList (s.toList.dropWhile isSpace |>.reverse.dropWhile isSpace |>.reverse)

/-- `sorted` of a set. -/
def sortedTexts (texts : Finset String) : List String := texts.sort (· ≤ ·)

@[simp] theorem sortedTexts_empty : sortedTexts ∅ = [] := Finset.sort_empty _

@[simp] theorem toFinset_sortedTexts (texts : Finset String) : (sortedTexts texts).toFinset = texts := Finset.sort_toFinset _ _

/-- `sorted(set(x))`. -/
def sortedSet (texts : List String) : List String := texts.dedup.mergeSort fun a b => decide (a ≤ b)

theorem mem_sortedSet {texts : List String} {s : String} : s ∈ sortedSet texts ↔ s ∈ texts := by simp [sortedSet]

theorem sortedSet_congr {texts texts' : List String} (h : ∀ s, s ∈ texts ↔ s ∈ texts') : sortedSet texts = sortedSet texts' := by
  have htrans : ∀ a b c : String, decide (a ≤ b) = true → decide (b ≤ c) = true → decide (a ≤ c) = true := by
    intro a b c hab hbc
    simp only [decide_eq_true_eq] at hab hbc ⊢
    exact hab.trans hbc
  have htotal : ∀ a b : String, (decide (a ≤ b) || decide (b ≤ a)) = true := by
    intro a b
    simpa using le_total a b
  have hperm : texts.dedup.Perm texts'.dedup :=
    (List.perm_ext_iff_of_nodup (List.nodup_dedup texts) (List.nodup_dedup texts')).mpr fun s => by simp [h]
  refine List.Perm.eq_of_pairwise ?_ (List.pairwise_mergeSort htrans htotal _) (List.pairwise_mergeSort htrans htotal _)
    ((List.mergeSort_perm _ _).trans (hperm.trans (List.mergeSort_perm _ _).symm))
  intro a b _ _ hab hba
  simp only [decide_eq_true_eq] at hab hba
  exact le_antisymm hab hba

end QuantX
