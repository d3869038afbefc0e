import QuantX.Theorems.NativeUnitArtifact.Writer

namespace QuantX.NativeUnitArtifacts
open Lib

variable {host : ArtifactHost} {limits : ArtifactLimits} {unit : CollectionUnit} {reading : Reading} {source rest raw : Bytes}
  {artifact : NativeUnitArtifact}

theorem nextLine_eq_ok {value : PyVal} : nextLine host limits reading source = .ok (raw, value) ↔
    raw = (readLine (lineLimit limits) source).1 ∧ raw.getLast? = some newline ∧ reading.total + raw.length ≤ limits.maxBytes ∧
      host.loads raw = some value := by
  unfold nextLine
  rw [require_bind, require_bind]
  constructor
  · rintro ⟨hlast, hbytes, h⟩
    split at h
    next value' hload =>
      cases h
      exact ⟨rfl, hlast, hbytes, hload⟩
    · cases h
  · rintro ⟨rfl, hlast, hbytes, hload⟩
    refine ⟨hlast, hbytes, ?_⟩
    rw [hload]
    rfl

theorem nextLine_line {value : PyVal} (h : IsLine raw) (hfits : raw.length ≤ lineLimit limits)
    (hbytes : reading.total + raw.length ≤ limits.maxBytes) (hload : host.loads raw = some value) :
    nextLine host limits reading (raw ++ rest) = .ok (raw, value) := by
  rw [nextLine_eq_ok, readLine_line h hfits]
  exact ⟨rfl, h.getLast?, hbytes, hload⟩

theorem nextLine_long (h : IsLine raw) (hlong : lineLimit limits < raw.length) (out : Bytes × PyVal) :
    nextLine host limits reading (raw ++ rest) ≠ .ok out := by
  intro hnext
  obtain ⟨heq, hlast, -, -⟩ := nextLine_eq_ok.mp hnext
  rw [heq] at hlast
  exact readLine_long h hlong rest (List.mem_of_getLast? hlast)

theorem recordOf?_record (record : PyVal) : recordOf? (.dict [("record", record)]) = some record := by simp [recordOf?]

theorem recordOf?_completion {value : PyVal} {count : Nat} {sha : String} (h : PyVal.same value (completion count sha) = true) :
    recordOf? value = none := by
  obtain ⟨y, rfl, -⟩ := PyVal.eq_single_of_same h
  simp [recordOf?]

def Reading.takeAll (reading : Reading) (lines : List Bytes) : Reading := lines.foldl Reading.takeRecord reading

theorem takeAll_eq (reading : Reading) (lines : List Bytes) : reading.takeAll lines =
    { total := reading.total + lines.flatten.length, count := reading.count + lines.length
      read := reading.read ++ lines.flatten
      records := reading.records ++ lines.flatten } := by
  induction lines generalizing reading with
  | nil => simp [Reading.takeAll]
  | cons raw lines ih =>
    have hnext : reading.takeAll (raw :: lines) = (reading.takeRecord raw).takeAll lines := rfl
    rw [hnext, ih]
    simp [Reading.takeRecord, Reading.take]
    omega

theorem inspectLines_records (hjson : host.Canonical) {records : List PyVal} {lines : List Bytes}
    (h : List.Forall₂ (IsRecordLine host limits) records lines) (rounds : Nat)
    (hbytes : reading.total + lines.flatten.length ≤ limits.maxBytes) (hcount : reading.count + records.length ≤ limits.maxRecords) :
    inspectLines host limits unit (records.length + rounds) reading (lines.flatten ++ rest) =
      inspectLines host limits unit rounds (reading.takeAll lines) rest := by
  induction h generalizing reading with
  | nil => simp [Reading.takeAll]
  | @cons record raw records lines hline hlines ih =>
    obtain ⟨hdict, hwritten, hlength⟩ := hline
    obtain ⟨hraw, value, hload, hsame, hagain⟩ := JsonText.line_reads hjson hwritten
    obtain ⟨record', rfl, hrecord⟩ := PyVal.eq_single_of_same hsame
    simp only [List.flatten_cons, List.length_append, List.length_cons] at hbytes hcount
    have hfits : raw.length ≤ lineLimit limits := by
      unfold lineLimit
      omega
    have hrounds : (record :: records).length + rounds = (records.length + rounds) + 1 := by
      rw [List.length_cons]
      omega
    have hchecked : checkRecord host limits reading raw (.dict [("record", record')]) record' = .ok () := by
      unfold checkRecord
      refine require_bind.mpr ⟨⟨(PyVal.isDict_of_same hrecord).trans hdict, hlength⟩, bind_eq_ok.mpr ⟨raw, hagain, ?_⟩⟩
      exact require_bind.mpr ⟨rfl, require_eq_ok.mpr (by omega)⟩
    rw [hrounds, List.flatten_cons, List.append_assoc, inspectLines]
    rw [nextLine_line hraw hfits (by omega) hload, readLine_line hraw hfits]
    simp only [bind, Except.bind, recordOf?_record, hchecked]
    refine (ih ?_ ?_).trans rfl
    · simp only [Reading.takeRecord, Reading.take]
      omega
    · simp only [Reading.takeRecord, Reading.take]
      omega

theorem inspectLines_completion (hjson : host.Canonical) (rounds : Nat)
    (hlast : host.line (completion reading.count (host.sha256 reading.records)) = .ok raw) (hfits : raw.length ≤ lineLimit limits)
    (hbytes : reading.total + raw.length ≤ limits.maxBytes) :
    inspectLines host limits unit (rounds + 1) reading raw =
      .ok ⟨unit, path host unit, host.sha256 (reading.read ++ raw), ((reading.total + raw.length : Nat) : Int), (reading.count : Int)⟩ := by
  obtain ⟨hraw, value, hload, hsame, -⟩ := JsonText.line_reads hjson hlast
  have hnext := @nextLine_line host limits reading [] raw value hraw hfits hbytes hload
  have hread := @readLine_line raw hraw (lineLimit limits) hfits []
  rw [List.append_nil] at hnext hread
  have hchecked : checkCompletion host reading raw value [] = .ok () := by
    unfold checkCompletion
    exact require_bind.mpr ⟨hsame, bind_eq_ok.mpr ⟨raw, hlast, require_bind.mpr ⟨rfl, require_eq_ok.mpr rfl⟩⟩⟩
  rw [inspectLines, hnext, hread]
  simp only [bind, Except.bind, recordOf?_completion hsame, hchecked]
  rfl

def verdict (host : ArtifactHost) (unit : CollectionUnit) (content : Bytes) (count : Nat) : NativeUnitArtifact :=
  ⟨unit, path host unit, host.sha256 content, content.length, count⟩

theorem inspectSource_parts (hjson : host.Canonical) {records : List PyVal} {first last : Bytes} {lines : List Bytes}
    (h : Parts host limits unit records first lines last) (hfirst : first.length ≤ lineLimit limits) (hlast : last.length ≤ lineLimit limits) :
    inspectSource host limits unit (first ++ lines.flatten ++ last) =
      .ok (verdict host unit (first ++ lines.flatten ++ last) records.length) := by
  obtain ⟨hraw, value, hload, -, -⟩ := JsonText.line_reads hjson h.header
  have hbytes := h.bytes
  have hcount := h.count
  have hlength := h.each.length_eq
  simp only [List.length_append] at hbytes
  rw [inspectSource, List.append_assoc, nextLine_line hraw hfirst (by simp; omega) hload, readLine_line hraw hfirst]
  simp only [bind, Except.bind, h.header, require, if_true]
  obtain ⟨rounds, hrounds⟩ : ∃ rounds, limits.maxRecords + 1 = records.length + (rounds + 1) := ⟨limits.maxRecords - records.length, by omega⟩
  rw [hrounds, inspectLines_records hjson h.each _ (by simp only [Reading.take]; omega)
    (by simpa [Reading.take] using hcount)]
  have hcompletion := h.completion
  rw [hlength] at hcompletion
  rw [inspectLines_completion hjson _ (by rw [takeAll_eq]; simpa [Reading.take] using hcompletion) hlast
    (by rw [takeAll_eq]; simp only [Reading.take]; omega)]
  rw [takeAll_eq]
  simp [Reading.take, verdict, hlength, Nat.add_assoc]

/-! ### Refusing -/

theorem recordOf?_eq_some {value record : PyVal} (h : recordOf? value = some record) : value = recordDocument record := by
  unfold recordOf? at h
  split at h
  next key found =>
    split at h
    next hkey =>
      cases h
      rw [hkey, recordDocument]
    · cases h
  · cases h

theorem inspectLines_ok {rounds : Nat} (hcount : reading.count ≤ limits.maxRecords)
    (h : inspectLines host limits unit rounds reading source = .ok artifact) :
    ∃ records lines last, List.Forall₂ (IsRecordLine host limits) records lines ∧ reading.count + records.length ≤ limits.maxRecords ∧
      host.line (completion (reading.count + records.length) (host.sha256 (reading.records ++ lines.flatten))) = .ok last ∧
      last.length ≤ lineLimit limits ∧ reading.total + (lines.flatten ++ last).length ≤ limits.maxBytes ∧ source = lines.flatten ++ last ∧
      artifact = ⟨unit, path host unit, host.sha256 (reading.read ++ source), ((reading.total + source.length : Nat) : Int),
        ((reading.count + records.length : Nat) : Int)⟩ := by
  induction rounds generalizing reading source with
  | zero => cases h
  | succ rounds ih =>
    obtain ⟨⟨raw, value⟩, hnext, h⟩ := bind_eq_ok.mp h
    obtain ⟨hraw, hlast, hbytes, hload⟩ := nextLine_eq_ok.mp hnext
    have hsource := readLine_append (lineLimit limits) source
    rw [← hraw] at hsource
    simp only at h
    generalize (readLine (lineLimit limits) source).2 = rest at h hsource
    split at h
    next record hrecord =>
      obtain ⟨⟨⟩, hchecked, h⟩ := bind_eq_ok.mp h
      obtain ⟨⟨hdict, hlength⟩, hchecked⟩ := require_bind.mp hchecked
      obtain ⟨canonical, hline, hchecked⟩ := bind_eq_ok.mp hchecked
      obtain ⟨rfl, hmore⟩ := require_bind.mp hchecked
      have hmore := require_eq_ok.mp hmore
      rw [recordOf?_eq_some hrecord] at hline
      obtain ⟨records, lines, last, hlines, hmany, hcompletion, hfits, htotal, hrest, rfl⟩ := ih hmore h
      refine ⟨record :: records, raw :: lines, last, .cons ⟨hdict, hline, hlength⟩ hlines, ?_, ?_, hfits, ?_, ?_, ?_⟩
      · simp only [Reading.takeRecord, Reading.take] at hmany
        rw [List.length_cons]
        omega
      · simp only [Reading.takeRecord, Reading.take, List.append_assoc] at hcompletion
        rw [List.length_cons, List.flatten_cons, Nat.add_comm records.length, ← Nat.add_assoc]
        exact hcompletion
      · simp only [Reading.takeRecord, Reading.take, List.length_append] at htotal
        simp only [List.flatten_cons, List.length_append]
        omega
      · rw [← hsource, hrest, List.flatten_cons, List.append_assoc]
      · rw [← hsource]
        simp only [Reading.takeRecord, Reading.take, List.append_assoc, List.length_append, List.length_cons, NativeUnitArtifact.mk.injEq, true_and]
        constructor <;> omega
    next hrecord =>
      obtain ⟨⟨⟩, hchecked, h⟩ := bind_eq_ok.mp h
      obtain ⟨-, hchecked⟩ := require_bind.mp hchecked
      obtain ⟨canonical, hline, hchecked⟩ := bind_eq_ok.mp hchecked
      obtain ⟨rfl, hend⟩ := require_bind.mp hchecked
      have hend := require_eq_ok.mp hend
      cases h
      have hall : raw = source := by rw [← hsource, hend, List.append_nil]
      have hfits : raw.length ≤ lineLimit limits := by
        rw [hraw] at hlast ⊢
        exact (readLine_isLine hlast).2
      subst hall
      refine ⟨[], [], raw, .nil, hcount, ?_, hfits, by simpa using hbytes, by simp, ?_⟩
      · simpa using hline
      · simp [Reading.take]

theorem inspectSource_ok (h : inspectSource host limits unit source = .ok artifact) :
    ∃ records first lines last, Parts host limits unit records first lines last ∧ source = first ++ lines.flatten ++ last ∧
      first.length ≤ lineLimit limits ∧ last.length ≤ lineLimit limits ∧ artifact = verdict host unit source records.length := by
  obtain ⟨⟨raw, value⟩, hnext, h⟩ := bind_eq_ok.mp h
  obtain ⟨hraw, hend, hbytes, -⟩ := nextLine_eq_ok.mp hnext
  obtain ⟨first, hfirst, h⟩ := bind_eq_ok.mp h
  obtain ⟨rfl, hbody⟩ := require_bind.mp h
  have hsource := readLine_append (lineLimit limits) source
  rw [← hraw] at hsource
  generalize (readLine (lineLimit limits) source).2 = rest at hbody hsource
  obtain ⟨records, lines, last, hlines, hmany, hcompletion, hfits, htotal, hrest, rfl⟩ := inspectLines_ok (Nat.zero_le _) hbody
  have hshape : source = raw ++ lines.flatten ++ last := by rw [← hsource, hrest, List.append_assoc]
  refine ⟨records, raw, lines, last, ⟨hfirst, hlines, ?_, ?_, ?_⟩, hshape, ?_, hfits, ?_⟩
  · simpa [Reading.take] using hmany
  · simpa [Reading.take] using hcompletion
  · simp only [Reading.take, List.length_append] at htotal
    simp only [List.length_append]
    omega
  · rw [hraw] at hend ⊢
    exact (readLine_isLine hend).2
  · rw [← hsource]
    simp [Reading.take, verdict]

end QuantX.NativeUnitArtifacts
