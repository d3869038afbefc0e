import QuantX.Lib.PyEq
import QuantX.Lib.Require

/-! JSON documents, one to a line. A reader takes at most so many bytes of a line, so it sees the end of a line only
    where the line fits. -/

namespace Lib

abbrev Bytes := List UInt8

def newline : UInt8 := 10

def IsLine (raw : Bytes) : Prop := ∃ text, newline ∉ text ∧ raw = text ++ [newline]

/-- `readline(limit)`, with the rest of the source. -/
def readLine : Nat → Bytes → Bytes × Bytes
  | 0, source => ([], source)
  | _ + 1, [] => ([], [])
  | n + 1, b :: source =>
    if b = newline then ([b], source)
    else (b :: (readLine n source).1, (readLine n source).2)

theorem readLine_append : ∀ (limit : Nat) (source : Bytes), (readLine limit source).1 ++ (readLine limit source).2 = source
  | 0, _ => rfl
  | _ + 1, [] => rfl
  | n + 1, b :: source => by
    rw [readLine]
    split
    · rfl
    · simp [readLine_append n source]

theorem readLine_line {raw : Bytes} (h : IsLine raw) {limit : Nat} (hfits : raw.length ≤ limit) (rest : Bytes) :
    readLine limit (raw ++ rest) = (raw, rest) := by
  obtain ⟨text, htext, rfl⟩ := h
  induction text generalizing limit with
  | nil =>
    obtain ⟨n, rfl⟩ : ∃ n, limit = n + 1 := ⟨limit - 1, by simp at hfits; omega⟩
    simp [readLine]
  | cons b text ih =>
    rw [List.mem_cons, not_or] at htext
    obtain ⟨n, rfl⟩ : ∃ n, limit = n + 1 := ⟨limit - 1, by simp at hfits; omega⟩
    have hrest := @ih n htext.2 (by simpa using hfits)
    rw [List.cons_append, List.cons_append, readLine, if_neg (Ne.symm htext.1), hrest]

theorem readLine_long {raw : Bytes} (h : IsLine raw) {limit : Nat} (hlong : limit < raw.length) (rest : Bytes) :
    newline ∉ (readLine limit (raw ++ rest)).1 := by
  obtain ⟨text, htext, rfl⟩ := h
  induction text generalizing limit with
  | nil =>
    obtain rfl : limit = 0 := by simpa using hlong
    simp [readLine]
  | cons b text ih =>
    rw [List.mem_cons, not_or] at htext
    cases limit with
    | zero => simp [readLine]
    | succ n =>
      rw [List.cons_append, List.cons_append, readLine, if_neg (Ne.symm htext.1), List.mem_cons, not_or]
      exact ⟨htext.1, ih htext.2 (by simpa using hlong)⟩

theorem readLine_isLine {limit : Nat} {source : Bytes} (h : (readLine limit source).1.getLast? = some newline) :
    IsLine (readLine limit source).1 ∧ (readLine limit source).1.length ≤ limit := by
  induction limit generalizing source with
  | zero => simp [readLine] at h
  | succ n ih =>
    cases source with
    | nil => simp [readLine] at h
    | cons b source =>
      rw [readLine] at h ⊢
      split at h
      next hb =>
        rw [if_pos hb]
        exact ⟨⟨[], by simp, by rw [hb]; rfl⟩, by simp⟩
      next hb =>
        rw [if_neg hb]
        have hlast : (readLine n source).1.getLast? = some newline := by
          cases hread : (readLine n source).1 with
          | nil =>
            rw [hread] at h
            exact absurd (Option.some.inj h) hb
          | cons c text => simpa [hread] using h
        obtain ⟨⟨text, htext, heq⟩, hlength⟩ := ih hlast
        refine ⟨⟨b :: text, ?_, by simp [heq]⟩, by simpa using hlength⟩
        rw [List.mem_cons, not_or]
        exact ⟨Ne.symm hb, htext⟩

theorem IsLine.getLast? {raw : Bytes} (h : IsLine raw) : raw.getLast? = some newline := by
  obtain ⟨text, -, rfl⟩ := h
  simp

/-! ### Documents -/

structure JsonText where
  dumps : PyVal → Option Bytes
  loads : Bytes → Option PyVal

namespace JsonText

/-- The text of a document has no newline and reads back as an equal document with the same text, also at the end of a
    line. -/
def RoundTrips (json : JsonText) (value : PyVal) : Prop :=
  ∀ text, json.dumps value = some text → newline ∉ text ∧
    ∃ read, json.loads text = some read ∧ json.loads (text ++ [newline]) = some read ∧ PyVal.same read value = true ∧
      json.dumps read = some text

def Canonical (json : JsonText) : Prop := ∀ value, json.RoundTrips value

def line (json : JsonText) (value : PyVal) : Except String Bytes :=
  match json.dumps value with
  | some text => .ok (text ++ [newline])
  | none => .error "ValueError"

variable {json : JsonText} {value : PyVal} {raw : Bytes}

theorem line_eq_ok : json.line value = .ok raw ↔ ∃ text, json.dumps value = some text ∧ raw = text ++ [newline] := by
  unfold line
  cases json.dumps value with
  | none => simp
  | some text => simp [eq_comm]

theorem line_reads (hjson : json.Canonical) (h : json.line value = .ok raw) :
    IsLine raw ∧ ∃ read, json.loads raw = some read ∧ PyVal.same read value = true ∧ json.line read = .ok raw := by
  obtain ⟨text, htext, rfl⟩ := line_eq_ok.mp h
  obtain ⟨hplain, read, -, hread, hsame, hagain⟩ := hjson value text htext
  exact ⟨⟨text, hplain, rfl⟩, read, hread, hsame, line_eq_ok.mpr ⟨text, hagain, rfl⟩⟩

end JsonText

namespace PyVal

def isDict : PyVal → Bool
  | dict _ => true
  | _ => false

theorem length_insertField (k : String) (x : PyVal) (d : List (String × PyVal)) : (insertField k x d).length = d.length + 1 := by
  induction d with
  | nil => rfl
  | cons e d ih =>
    obtain ⟨k', x'⟩ := e
    rw [insertField]
    split
    · simp [ih]
    · simp

theorem length_plainFields (d : List (String × PyVal)) : (plainFields d).length = d.length := by
  induction d with
  | nil => simp [plainFields]
  | cons e d ih =>
    obtain ⟨k, x⟩ := e
    rw [plainFields, length_insertField, ih, List.length_cons]

theorem eq_dict_of_plain {x : PyVal} {d : List (String × PyVal)} (h : plain x = plain (dict d)) :
    ∃ d', x = dict d' ∧ plainFields d' = plainFields d := by
  cases x with
  | dict d' => exact ⟨d', rfl, by simpa [plain] using h⟩
  | _ => simp [plain] at h

theorem eq_single_of_same {x y : PyVal} {k : String} (h : same x (dict [(k, y)]) = true) : ∃ y', x = dict [(k, y')] ∧ same y' y = true := by
  obtain ⟨d, rfl, hd⟩ := eq_dict_of_plain (same_iff.mp h)
  have hlength := congrArg List.length hd
  rw [length_plainFields, length_plainFields, List.length_singleton] at hlength
  obtain ⟨⟨k', y'⟩, rfl⟩ := List.length_eq_one_iff.mp hlength
  simp only [plainFields, insertField, List.cons.injEq, Prod.mk.injEq, and_true] at hd
  exact ⟨y', by rw [hd.1], same_iff.mpr hd.2⟩

theorem isDict_of_same {x y : PyVal} (h : same x y = true) : x.isDict = y.isDict := by
  have hplain := same_iff.mp h
  cases y with
  | dict d =>
    obtain ⟨d', rfl, -⟩ := eq_dict_of_plain hplain
    rfl
  | _ => cases x <;> simp [plain] at hplain ⊢ <;> rfl

end PyVal
end Lib
