import QuantX.QmtAgent.NativeUnitArtifact
import Mathlib.Tactic.Linarith

namespace QuantX.NativeUnitArtifacts
open Lib

variable {host : ArtifactHost} {limits : ArtifactLimits} {call : SealCall} {unit : CollectionUnit} {w next : Writing} {raw : Bytes}

def IsRecordLine (host : ArtifactHost) (limits : ArtifactLimits) (record : PyVal) (raw : Bytes) : Prop :=
  record.isDict = true ∧ host.line (recordDocument record) = .ok raw ∧ raw.length ≤ limits.maxRecordBytes

structure Parts (host : ArtifactHost) (limits : ArtifactLimits) (unit : CollectionUnit) (records : List PyVal) (first : Bytes)
    (lines : List Bytes) (last : Bytes) : Prop where
  header : host.line (header unit) = .ok first
  each : List.Forall₂ (IsRecordLine host limits) records lines
  count : records.length ≤ limits.maxRecords
  completion : host.line (completion records.length (host.sha256 lines.flatten)) = .ok last
  bytes : (first ++ lines.flatten ++ last).length ≤ limits.maxBytes

def Encodes (host : ArtifactHost) (limits : ArtifactLimits) (unit : CollectionUnit) (records : List PyVal) (content : Bytes) : Prop :=
  ∃ first lines last, Parts host limits unit records first lines last ∧ content = first ++ lines.flatten ++ last

def Writing.wrote (w : Writing) (raw : Bytes) : Writing :=
  { w with
    content := w.content ++ raw, total := w.total + raw.length, charged := w.charged + raw.length
    number := w.number + 1 }

def Granted (call : SealCall) (number : Nat) : Prop := call.reserves number = true ∧ call.writes number = true

theorem write_eq_ok : w.write limits call raw = (next, .ok ()) ↔
    w.total + raw.length ≤ limits.maxBytes ∧ Granted call w.number ∧ next = w.wrote raw := by
  unfold Writing.write Granted
  by_cases htotal : w.total + raw.length > limits.maxBytes
  · rw [if_pos htotal]
    simp [Nat.not_le.mpr htotal]
  rw [if_neg htotal]
  have hbytes := Nat.not_lt.mp htotal
  cases hreserve : call.reserves w.number with
  | false => simp
  | true =>
    cases hwrite : call.writes w.number with
    | false => simp [hwrite]
    | true =>
      simp only [not_true_eq_false, if_false, Prod.mk.injEq, and_true, hbytes, hwrite, true_and]
      exact eq_comm

theorem step_eq_ok {line : Except String Bytes} {rest : Writing → Bytes → Writing × Except String Unit} :
    w.step limits call line rest = (next, .ok ()) ↔
      ∃ raw, line = .ok raw ∧ w.total + raw.length ≤ limits.maxBytes ∧ Granted call w.number ∧ rest (w.wrote raw) raw = (next, .ok ()) := by
  cases line with
  | error e => simp [Writing.step]
  | ok raw =>
    rw [Writing.step]
    rcases hw : w.write limits call raw with ⟨w', _ | ⟨⟨⟩⟩⟩
    · simp only [Prod.mk.injEq, reduceCtorEq, and_false, Except.ok.injEq, exists_eq_left', false_iff, not_and]
      intro htotal hgrant
      have hok := write_eq_ok.mpr ⟨htotal, hgrant, rfl⟩
      rw [hw] at hok
      cases hok
    · obtain ⟨htotal, hgrant, rfl⟩ := write_eq_ok.mp hw
      simp [htotal, hgrant]

theorem recordLine_eq_ok {count : Nat} {record : PyVal} :
    recordLine host limits count record = .ok raw ↔ IsRecordLine host limits record raw ∧ count + 1 ≤ limits.maxRecords := by
  unfold recordLine IsRecordLine
  rw [require_bind]
  constructor
  · rintro ⟨hdict, h⟩
    obtain ⟨raw', hline, h⟩ := bind_eq_ok.mp h
    obtain ⟨hlength, h⟩ := require_bind.mp h
    obtain ⟨hcount, h⟩ := require_bind.mp h
    cases h
    exact ⟨⟨hdict, hline, hlength⟩, hcount⟩
  · rintro ⟨⟨hdict, hline, hlength⟩, hcount⟩
    exact ⟨hdict, bind_eq_ok.mpr ⟨raw, hline, require_bind.mpr ⟨hlength, require_bind.mpr ⟨hcount, rfl⟩⟩⟩⟩

def Writing.wroteAll (w : Writing) (lines : List Bytes) : Writing := lines.foldl (fun w raw => (w.wrote raw).counted raw) w

theorem wroteAll_eq (w : Writing) (lines : List Bytes) : w.wroteAll lines =
    { content := w.content ++ lines.flatten, total := w.total + lines.flatten.length
      charged := w.charged + lines.flatten.length, number := w.number + lines.length, count := w.count + lines.length
      records := w.records ++ lines.flatten } := by
  induction lines generalizing w with
  | nil => simp [Writing.wroteAll]
  | cons raw lines ih =>
    have hnext : w.wroteAll (raw :: lines) = ((w.wrote raw).counted raw).wroteAll lines := rfl
    rw [hnext, ih]
    simp [Writing.wrote, Writing.counted]
    omega

theorem writeRecords_eq_ok {records : List PyVal} (hcount : w.count ≤ limits.maxRecords) (htotal : w.total ≤ limits.maxBytes) :
    writeRecords host limits call records w = (next, .ok ()) ↔ call.recordsFail = false ∧
      ∃ lines, List.Forall₂ (IsRecordLine host limits) records lines ∧ w.count + records.length ≤ limits.maxRecords ∧
        w.total + lines.flatten.length ≤ limits.maxBytes ∧ (∀ i < records.length, Granted call (w.number + i)) ∧ next = w.wroteAll lines := by
  induction records generalizing w with
  | nil =>
    rw [writeRecords]
    cases call.recordsFail with
    | true => simp
    | false => simp [Writing.wroteAll, hcount, htotal, eq_comm]
  | cons record records ih =>
    rw [writeRecords, step_eq_ok]
    constructor
    · rintro ⟨raw, hline, hbytes, hgrant, h⟩
      obtain ⟨hline, hone⟩ := recordLine_eq_ok.mp hline
      obtain ⟨hfail, lines, hlines, hmany, htotals, hgrants, rfl⟩ := (ih hone hbytes).mp h
      refine ⟨hfail, raw :: lines, .cons hline hlines, ?_, ?_, ?_, rfl⟩
      · simp only [Writing.counted, Writing.wrote] at hmany
        simp only [List.length_cons]
        omega
      · simp only [Writing.counted, Writing.wrote] at htotals
        simp only [List.flatten_cons, List.length_append]
        omega
      · intro i hi
        cases i with
        | zero => exact hgrant
        | succ i =>
          have hnext := hgrants i (by simpa using hi)
          simp only [Writing.counted, Writing.wrote] at hnext
          rwa [Nat.add_right_comm] at hnext
    · rintro ⟨hfail, lines, hlines, hmany, htotals, hgrants, rfl⟩
      cases hlines with
      | @cons _ raw _ lines hline hlines =>
        simp only [List.length_cons, List.flatten_cons, List.length_append] at hmany htotals
        refine ⟨raw, recordLine_eq_ok.mpr ⟨hline, by omega⟩, by omega, hgrants 0 (by simp), ?_⟩
        have hone : ((w.wrote raw).counted raw).count ≤ limits.maxRecords := by
          simp only [Writing.counted, Writing.wrote]
          omega
        have hbytes : ((w.wrote raw).counted raw).total ≤ limits.maxBytes := by
          simp only [Writing.counted, Writing.wrote]
          omega
        refine (ih hone hbytes).mpr ⟨hfail, lines, hlines, ?_, ?_, ?_, rfl⟩
        · simp only [Writing.counted, Writing.wrote]
          omega
        · simp only [Writing.counted, Writing.wrote]
          omega
        · intro i hi
          have hnext := hgrants (i + 1) (by simpa using hi)
          simp only [Writing.counted, Writing.wrote]
          rwa [Nat.add_right_comm]

structure Unhindered (call : SealCall) : Prop where
  opens : call.opens = true
  records : call.recordsFail = false
  granted : ∀ i < call.records.length + 2, Granted call i
  syncs : call.syncs = true

def Writing.started (first : Bytes) (lines : List Bytes) : Writing := (({} : Writing).wrote first).wroteAll lines

theorem started_eq (first : Bytes) (lines : List Bytes) : Writing.started first lines =
    { content := first ++ lines.flatten, total := first.length + lines.flatten.length
      charged := first.length + lines.flatten.length, number := 1 + lines.length, count := lines.length
      records := lines.flatten } := by
  rw [Writing.started, wroteAll_eq]
  simp [Writing.wrote]

def Writing.finished (first : Bytes) (lines : List Bytes) (last : Bytes) : Writing := (Writing.started first lines).wrote last

theorem writeAll_eq_ok : writeAll host limits call unit = (next, .ok ()) ↔ Unhindered call ∧
    ∃ first lines last, Parts host limits unit call.records first lines last ∧ next = Writing.finished first lines last := by
  unfold writeAll
  cases hopens : call.opens with
  | false =>
    simp only [Bool.false_eq_true, not_false_eq_true, if_true, Prod.mk.injEq, reduceCtorEq, and_false, false_iff, not_and]
    intro h
    rw [h.opens] at hopens
    cases hopens
  | true =>
    simp only [not_true_eq_false, if_false]
    rw [step_eq_ok]
    constructor
    · rintro ⟨first, hfirst, hbytes, hgrant, h⟩
      rcases hwritten : writeRecords host limits call call.records (({} : Writing).wrote first) with ⟨w, _ | ⟨⟨⟩⟩⟩
      · rw [writeBody, hwritten] at h
        cases h
      rw [writeBody, hwritten] at h
      have htotal : (({} : Writing).wrote first).total ≤ limits.maxBytes := hbytes
      obtain ⟨hfail, lines, hlines, hmany, -, hgrants, rfl⟩ := (writeRecords_eq_ok (Nat.zero_le _) htotal).mp hwritten
      obtain ⟨last, hlast, hbytes', hgrant', h⟩ := step_eq_ok.mp h
      have hwrote := started_eq first lines
      rw [Writing.started] at hwrote
      rw [hwrote] at hlast hbytes' hgrant'
      rw [Prod.mk.injEq] at h
      obtain ⟨rfl, hsync⟩ := h
      have hlength := hlines.length_eq
      refine ⟨⟨hopens, hfail, ?_, ?_⟩, first, lines, last, ⟨hfirst, hlines, ?_, ?_, ?_⟩, rfl⟩
      · intro i hi
        rcases Nat.eq_zero_or_pos i with rfl | hpos
        · exact hgrant
        · rcases Nat.lt_or_ge (i - 1) call.records.length with hless | hge
          · have hone := hgrants (i - 1) hless
            have hnumber : (({} : Writing).wrote first).number + (i - 1) = i := by
              simp only [Writing.wrote]
              omega
            rwa [hnumber] at hone
          · obtain rfl : i = 1 + lines.length := by omega
            exact hgrant'
      · cases hsyncs : call.syncs with
        | true => rfl
        | false => simp [hsyncs] at hsync
      · simpa [Writing.wrote] using hmany
      · rwa [hlength]
      · simp only [List.length_append]
        exact hbytes'
    · rintro ⟨hfree, first, lines, last, hparts, rfl⟩
      have hbytes := hparts.bytes
      have hcount := hparts.count
      have hlength := hparts.each.length_eq
      simp only [List.length_append] at hbytes
      refine ⟨first, hparts.header, ?_, hfree.granted 0 (by omega), ?_⟩
      · simp only [Nat.zero_add]
        omega
      have htotal : (({} : Writing).wrote first).total ≤ limits.maxBytes := by
        simp only [Writing.wrote, Nat.zero_add]
        omega
      have hwritten : writeRecords host limits call call.records (({} : Writing).wrote first) = (Writing.started first lines, .ok ()) := by
        refine (writeRecords_eq_ok (Nat.zero_le _) htotal).mpr ⟨hfree.records, lines, hparts.each, ?_, ?_, ?_, rfl⟩
        · simpa [Writing.wrote] using hcount
        · simp only [Writing.wrote, Nat.zero_add]
          omega
        · intro i hi
          have hnumber : (({} : Writing).wrote first).number + i = i + 1 := Nat.add_comm _ _
          rw [hnumber]
          exact hfree.granted (i + 1) (by omega)
      rw [writeBody, hwritten]
      refine step_eq_ok.mpr ⟨last, ?_, ?_, ?_, ?_⟩
      · rw [started_eq]
        have hcompletion := hparts.completion
        rwa [hlength] at hcompletion
      · rw [started_eq]
        simpa using hbytes
      · rw [started_eq]
        exact hfree.granted _ (by simp; omega)
      · simp [hfree.syncs, Writing.finished]

theorem finished_eq (first : Bytes) (lines : List Bytes) (last : Bytes) : Writing.finished first lines last =
    { content := first ++ lines.flatten ++ last, total := (first ++ lines.flatten ++ last).length
      charged := (first ++ lines.flatten ++ last).length, number := 2 + lines.length, count := lines.length
      records := lines.flatten } := by
  rw [Writing.finished, started_eq]
  simp only [Writing.wrote, List.length_append, Writing.mk.injEq, true_and, and_true]
  omega

/-! ### The charge -/

theorem write_charged (h : w.charged = w.total) :
    (w.write limits call raw).1.charged = (w.write limits call raw).1.total ∧ w.total ≤ (w.write limits call raw).1.total := by
  unfold Writing.write
  split
  · exact ⟨h, Nat.le_refl _⟩
  split
  · exact ⟨h, Nat.le_refl _⟩
  simp only
  split
  · exact ⟨by simp [h], Nat.le_add_right ..⟩
  · exact ⟨by simp [h], Nat.le_add_right ..⟩

theorem step_charged {line : Except String Bytes} {rest : Writing → Bytes → Writing × Except String Unit} (h : w.charged = w.total)
    (hrest : ∀ w raw, w.charged = w.total → (rest w raw).1.charged = (rest w raw).1.total ∧ w.total ≤ (rest w raw).1.total) :
    (w.step limits call line rest).1.charged = (w.step limits call line rest).1.total ∧ w.total ≤ (w.step limits call line rest).1.total := by
  cases line with
  | error e => exact ⟨h, Nat.le_refl _⟩
  | ok raw =>
    have hwrite := @write_charged limits call w raw h
    rw [Writing.step]
    rcases hw : w.write limits call raw with ⟨w', _ | ⟨⟨⟩⟩⟩
    · rw [hw] at hwrite
      exact hwrite
    · rw [hw] at hwrite
      have hnext := hrest w' raw hwrite.1
      exact ⟨hnext.1, hwrite.2.trans hnext.2⟩

theorem writeRecords_charged (records : List PyVal) (h : w.charged = w.total) :
    (writeRecords host limits call records w).1.charged = (writeRecords host limits call records w).1.total ∧
      w.total ≤ (writeRecords host limits call records w).1.total := by
  induction records generalizing w with
  | nil => exact ⟨h, Nat.le_refl _⟩
  | cons record records ih => exact step_charged h fun w raw hw => ih hw

theorem writeBody_charged (h : w.charged = w.total) :
    (writeBody host limits call w).1.charged = (writeBody host limits call w).1.total ∧ w.total ≤ (writeBody host limits call w).1.total := by
  have hrecords := @writeRecords_charged host limits call w call.records h
  rw [writeBody]
  rcases hw : writeRecords host limits call call.records w with ⟨w', _ | ⟨⟨⟩⟩⟩
  · rw [hw] at hrecords
    exact hrecords
  · rw [hw] at hrecords
    have hlast := @step_charged limits call w' (host.line (completion w'.count (host.sha256 w'.records)))
      (fun writing _ => (writing, if call.syncs then .ok () else .error "OSError")) hrecords.1 fun w _ hw => ⟨hw, Nat.le_refl _⟩
    exact ⟨hlast.1, hrecords.2.trans hlast.2⟩

theorem writeAll_charged : (writeAll host limits call unit).1.charged = (writeAll host limits call unit).1.total := by
  unfold writeAll
  split
  · rfl
  · exact (step_charged rfl fun w _ hw => writeBody_charged hw).1

def WritesHeader (host : ArtifactHost) (limits : ArtifactLimits) (call : SealCall) (unit : CollectionUnit) : Prop :=
  call.opens = true ∧ call.reserves 0 = true ∧ ∃ first, host.line (header unit) = .ok first ∧ first.length ≤ limits.maxBytes

theorem charges_iff : (writeAll host limits call unit).1.charged ≠ 0 ↔ WritesHeader host limits call unit := by
  unfold writeAll WritesHeader
  cases hopens : call.opens with
  | false => simp
  | true =>
    simp only [not_true_eq_false, if_false, true_and]
    cases hline : host.line (header unit) with
    | error e => simp [Writing.step]
    | ok first =>
      obtain ⟨text, -, hfirst⟩ := JsonText.line_eq_ok.mp hline
      have hpos : 0 < first.length := by simp [hfirst]
      rw [Writing.step]
      by_cases hbytes : first.length ≤ limits.maxBytes
      · have hfits : ¬limits.maxBytes < first.length := Nat.not_lt.mpr hbytes
        cases hreserve : call.reserves 0 with
        | false => simp [Writing.write, hreserve, hfits]
        | true =>
          cases hwrite : call.writes 0 with
          | false =>
            simp only [Writing.write, hreserve, hwrite, hfits, Nat.zero_add, gt_iff_lt, if_false, not_true_eq_false, Bool.false_eq_true,
              not_false_eq_true, if_true, Except.ok.injEq, exists_eq_left', hbytes, and_self, iff_true]
            omega
          | true =>
            have hwrote : Writing.write limits call {} first = (({} : Writing).wrote first, .ok ()) :=
              write_eq_ok.mpr ⟨by simpa using hbytes, ⟨hreserve, hwrite⟩, rfl⟩
            rw [hwrote]
            have hbody := @writeBody_charged host limits call (({} : Writing).wrote first) rfl
            simp only [Writing.wrote, Nat.zero_add] at hbody
            simp only [Writing.wrote, Nat.zero_add, Except.ok.injEq, exists_eq_left', hbytes, and_self, iff_true]
            omega
      · simp [Writing.write, hbytes, Nat.not_le.mp hbytes]

end QuantX.NativeUnitArtifacts
