import QuantX.Theorems.NativeUnitArtifact.Reader

namespace QuantX.NativeUnitArtifacts
open Lib

variable {host : ArtifactHost} {limits : ArtifactLimits} {call : SealCall} {unit : CollectionUnit} {files : Dict String Bytes}
variable {records : List PyVal} {lines : List Bytes}
variable {artifact : NativeUnitArtifact}

theorem replayLines_records (hjson : host.Canonical)
    (h : List.Forall₂ (IsRecordLine host limits) records lines) (rest : Bytes) :
    ∃ read, replayLines host limits records.length (lines.flatten ++ rest) = .ok read ∧
      List.Forall₂ (fun found record => PyVal.same found record = true) read records := by
  induction h with
  | nil => exact ⟨[], rfl, .nil⟩
  | @cons record raw records lines hline hlines ih =>
    obtain ⟨-, hwritten, hlength⟩ := hline
    obtain ⟨hraw, value, hload, hsame, -⟩ := JsonText.line_reads hjson hwritten
    obtain ⟨record', rfl, hrecord⟩ := PyVal.eq_single_of_same hsame
    obtain ⟨read, hread, hall⟩ := ih
    refine ⟨record' :: read, ?_, .cons hrecord hall⟩
    rw [List.length_cons, replayLines, List.flatten_cons, List.append_assoc, readLine_line hraw (by omega)]
    simp only [hload]
    refine bind_eq_ok.mpr ⟨record', by simp [recordField, Dict.lookup], bind_eq_ok.mpr ⟨read, hread, rfl⟩⟩

theorem replay_parts (hjson : host.Canonical) {first last content : Bytes}
    (h : Parts host limits unit records first lines last) (hcontent : content = first ++ lines.flatten ++ last)
    (hfirst : first.length ≤ lineLimit limits) (hlast : last.length ≤ lineLimit limits) (hfile : files.get? (path host unit) = some content) :
    ∃ read, replay host limits files (verdict host unit content records.length) = .ok read ∧
      List.Forall₂ (fun found record => PyVal.same found record = true) read records := by
  subst hcontent
  obtain ⟨hraw, -⟩ := JsonText.line_reads hjson h.header
  obtain ⟨read, hread, hall⟩ := replayLines_records hjson h.each last
  refine ⟨read, ?_, hall⟩
  have hopen : openFile host files unit = .ok (first ++ lines.flatten ++ last) := by
    unfold openFile
    rw [hfile]
  have hskip : (readLine (first ++ lines.flatten ++ last).length (first ++ lines.flatten ++ last)).2 = lines.flatten ++ last := by
    rw [List.append_assoc, readLine_line hraw (by simp)]
  unfold replay
  refine require_bind.mpr ⟨rfl, bind_eq_ok.mpr ⟨_, hopen, bind_eq_ok.mpr ⟨_, inspectSource_parts hjson h hfirst hlast, ?_⟩⟩⟩
  refine require_bind.mpr ⟨rfl, ?_⟩
  rw [hskip]
  exact hread

theorem inspectSource_long (hjson : host.Canonical) {first last : Bytes}
    (h : Parts host limits unit records first lines last) (hfirst : first.length ≤ lineLimit limits) (hlong : lineLimit limits < last.length)
    (artifact : NativeUnitArtifact) : inspectSource host limits unit (first ++ lines.flatten ++ last) ≠ .ok artifact := by
  intro hok
  obtain ⟨hraw, value, hload, -, -⟩ := JsonText.line_reads hjson h.header
  obtain ⟨hend, -⟩ := JsonText.line_reads hjson h.completion
  have hbytes := h.bytes
  have hcount := h.count
  simp only [List.length_append] at hbytes
  rw [inspectSource, List.append_assoc, nextLine_line hraw hfirst (by simp; omega) hload, readLine_line hraw hfirst] at hok
  simp only [bind, Except.bind, h.header, require, if_true] at hok
  obtain ⟨rounds, hrounds⟩ : ∃ rounds, limits.maxRecords + 1 = records.length + (rounds + 1) := ⟨limits.maxRecords - records.length, by omega⟩
  rw [hrounds, inspectLines_records hjson h.each _ (by simp only [Reading.take]; omega) (by simpa [Reading.take] using hcount),
    inspectLines] at hok
  obtain ⟨out, hnext, -⟩ := bind_eq_ok.mp hok
  have hrefused := @nextLine_long host limits ((Reading.take {} first).takeAll lines) [] last hend hlong out
  rw [List.append_nil] at hrefused
  exact hrefused hnext

def completionLine (host : ArtifactHost) (records : List PyVal) : Except String Bytes := do
  let lines ← records.mapM fun record => host.line (recordDocument record)
  host.line (completion records.length (host.sha256 lines.flatten))

structure Readable (host : ArtifactHost) (limits : ArtifactLimits) (unit : CollectionUnit) (records : List PyVal) : Prop where
  header : ∀ first, host.line (header unit) = .ok first → first.length ≤ lineLimit limits
  completion : ∀ last, completionLine host records = .ok last → last.length ≤ lineLimit limits

/-- Nothing is in the way of a call, its records have an encoding within the limits, and its unit has no file yet. -/
structure Publishes (host : ArtifactHost) (limits : ArtifactLimits) (call : SealCall) (files : Dict String Bytes) (unit : CollectionUnit) :
    Prop where
  free : Unhindered call
  encodes : ∃ content, Encodes host limits unit call.records content
  absent : files.get? (path host unit) = none
  links : call.links = true

theorem Parts.completionLine {first last : Bytes}
    (h : Parts host limits unit records first lines last) : completionLine host records = .ok last :=
  bind_eq_ok.mpr ⟨lines, mapM_eq_ok.mpr (h.each.imp fun _ _ hline => hline.2.1), h.completion⟩

/-- What a call leaves is right: a file that it publishes is accepted and reads back as the records, only encodings are
    accepted, a file that was there stays and is returned for its own records only, and what stays charged is the size
    of the published file. -/
structure SealExact (host : ArtifactHost) (limits : ArtifactLimits) (call : SealCall) (files : Dict String Bytes) (unit : CollectionUnit) :
    Prop where
  reads : (sealUnit host limits call files unit).published = true →
    ∃ content artifact read, (sealUnit host limits call files unit).files.get? (path host unit) = some content ∧
      inspect host limits (sealUnit host limits call files unit).files unit none = .ok artifact ∧
      artifact.sha256 = host.sha256 content ∧ artifact.byteCount = content.length ∧ artifact.recordCount = call.records.length ∧
      (∀ returned, (sealUnit host limits call files unit).outcome = .ok returned → returned = artifact) ∧
      replay host limits (sealUnit host limits call files unit).files artifact = .ok read ∧
      List.Forall₂ (fun found record => PyVal.same found record = true) read call.records
  only : ∀ source artifact, inspectSource host limits unit source = .ok artifact → ∃ records, Encodes host limits unit records source
  kept : ∀ content, files.get? (path host unit) = some content → (sealUnit host limits call files unit).files = files ∧
    ∀ returned, (sealUnit host limits call files unit).outcome = .ok returned → Encodes host limits unit call.records content
  quota : (sealUnit host limits call files unit).charged = (sealUnit host limits call files unit).released +
    if (sealUnit host limits call files unit).published then
      (((sealUnit host limits call files unit).files.get? (path host unit)).map List.length).getD 0 else 0

/-! ### A call -/

theorem sealUnit_cases (host : ArtifactHost) (limits : ArtifactLimits) (call : SealCall) (files : Dict String Bytes) (unit : CollectionUnit) :
    (Publishes host limits call files unit ∧ ∃ first lines last, Parts host limits unit call.records first lines last ∧
      (sealUnit host limits call files unit).published = true ∧
      (sealUnit host limits call files unit).files = files.set (path host unit) (first ++ lines.flatten ++ last) ∧
      (sealUnit host limits call files unit).charged = (first ++ lines.flatten ++ last).length ∧
      (sealUnit host limits call files unit).released = 0 ∧
      ∀ returned, (sealUnit host limits call files unit).outcome = .ok returned →
        returned = verdict host unit (first ++ lines.flatten ++ last) call.records.length) ∨
    ¬Publishes host limits call files unit ∧ (sealUnit host limits call files unit).published = false ∧
      (sealUnit host limits call files unit).files = files := by
  rcases hwritten : writeAll host limits call unit with ⟨w, e | ⟨⟨⟩⟩⟩
  · refine .inr ⟨fun h => ?_, by simp [sealUnit, hwritten], by simp [sealUnit, hwritten]⟩
    obtain ⟨content, first, lines, last, hparts, -⟩ := h.encodes
    have hok := writeAll_eq_ok.mpr ⟨h.free, first, lines, last, hparts, rfl⟩
    rw [hwritten] at hok
    cases hok
  · obtain ⟨hfree, first, lines, last, hparts, rfl⟩ := writeAll_eq_ok.mp hwritten
    cases hfile : files.get? (path host unit) with
    | some content =>
      have hcontains : files.contains (path host unit) = true := by simp [Dict.contains, hfile]
      refine .inr ⟨fun h => ?_, by simp [sealUnit, hwritten, publish, hcontains], by simp [sealUnit, hwritten, publish, hcontains]⟩
      have habsent := h.absent
      rw [hfile] at habsent
      cases habsent
    | none =>
      have hcontains : files.contains (path host unit) = false := by simp [Dict.contains, hfile]
      cases hlinks : call.links with
      | false =>
        refine .inr ⟨fun h => ?_, by simp [sealUnit, hwritten, publish, hcontains, hlinks], by simp [sealUnit, hwritten, publish, hcontains, hlinks]⟩
        have hlinked := h.links
        rw [hlinks] at hlinked
        cases hlinked
      | true =>
        refine .inl ⟨⟨hfree, ⟨_, first, lines, last, hparts, rfl⟩, hfile, hlinks⟩, first, lines, last, hparts, ?_⟩
        have hlength := hparts.each.length_eq
        simp only [sealUnit, hwritten, publish, hcontains, hlinks, Bool.false_eq_true, if_false, not_true_eq_false, finished_eq, true_and,
          and_false, and_self]
        intro returned hreturned
        split at hreturned
        · split at hreturned
          · cases hreturned
            simp [verdict, hlength]
          · cases hreturned
        · cases hreturned

theorem readable_of_accepted (hjson : host.Canonical) {first last : Bytes}
    (h : Parts host limits unit records first lines last)
    (hok : inspectSource host limits unit (first ++ lines.flatten ++ last) = .ok artifact) : Readable host limits unit records := by
  have hheader : first.length ≤ lineLimit limits := by
    obtain ⟨_, first', _, _, hparts, -, hfits, -⟩ := inspectSource_ok hok
    obtain rfl := Except.ok.inj (h.header.symm.trans hparts.header)
    exact hfits
  refine ⟨fun first' hfirst' => ?_, fun last' hlast' => ?_⟩
  · obtain rfl := Except.ok.inj (h.header.symm.trans hfirst')
    exact hheader
  · obtain rfl := Except.ok.inj (h.completionLine.symm.trans hlast')
    by_contra hlong
    exact inspectSource_long hjson h hheader (Nat.not_le.mp hlong) artifact hok

theorem inspect_eq_ok {content : Bytes} {expected : Option String}
    (hfile : files.get? (path host unit) = some content) : inspect host limits files unit expected = .ok artifact ↔
      content.length ≤ limits.maxBytes ∧ inspectSource host limits unit content = .ok artifact ∧ ∀ sha ∈ expected, artifact.sha256 = sha := by
  have hopen : openFile host files unit = .ok content := by
    unfold openFile
    rw [hfile]
  unfold inspect
  rw [hopen]
  constructor
  · intro h
    obtain ⟨hbytes, h⟩ := require_bind.mp h
    obtain ⟨artifact', hsource, h⟩ := bind_eq_ok.mp h
    obtain ⟨hexpected, h⟩ := require_bind.mp h
    cases h
    exact ⟨hbytes, hsource, hexpected⟩
  · rintro ⟨hbytes, hsource, hexpected⟩
    exact require_bind.mpr ⟨hbytes, bind_eq_ok.mpr ⟨artifact, hsource, require_bind.mpr ⟨hexpected, rfl⟩⟩⟩

theorem readable_of_exact (hjson : host.Canonical) (h : SealExact host limits call files unit)
    (hpublishes : Publishes host limits call files unit) : Readable host limits unit call.records := by
  rcases sealUnit_cases host limits call files unit with
    ⟨-, first, lines, last, hparts, hpublished, hfiles, -⟩ | ⟨hnot, -⟩
  · obtain ⟨content, artifact, -, hfile, hinspect, -⟩ := h.reads hpublished
    have hcontent : content = first ++ lines.flatten ++ last := by
      rw [hfiles, Dict.get?_set_self] at hfile
      exact (Option.some.inj hfile).symm
    subst hcontent
    exact readable_of_accepted hjson hparts ((inspect_eq_ok hfile).mp hinspect).2.1
  · exact absurd hpublishes hnot

/-- What a call charged for an unpublished file is released unless the file cannot be removed. -/
theorem unpublished_quota (hpublished : (sealUnit host limits call files unit).published = false) :
    ((sealUnit host limits call files unit).charged = (sealUnit host limits call files unit).released ↔
      call.unlinks = true ∨ ¬WritesHeader host limits call unit) := by
  have hcharged := @writeAll_charged host limits call unit
  have hcharges := @charges_iff host limits call unit
  have hout : (sealUnit host limits call files unit).charged = (writeAll host limits call unit).1.charged ∧
      (sealUnit host limits call files unit).released = if call.unlinks then (writeAll host limits call unit).1.total else 0 := by
    unfold sealUnit at hpublished ⊢
    simp only at hpublished ⊢
    simp [hpublished]
  rw [hout.1, hout.2]
  cases hunlinks : call.unlinks with
  | true => simp [hcharged]
  | false => simp [← hcharges]

/-- A call leaves what it should exactly where the first and the last line fit if it publishes, and else its temporary
    file can be removed or nothing was charged for it. -/
theorem seal_exact (hjson : host.Canonical) (hsha : Function.Injective host.sha256) :
    SealExact host limits call files unit ↔
      (Publishes host limits call files unit → Readable host limits unit call.records) ∧
      (call.unlinks = true ∨ Publishes host limits call files unit ∨ ¬WritesHeader host limits call unit) := by
  constructor
  · intro h
    refine ⟨readable_of_exact hjson h, ?_⟩
    rcases sealUnit_cases host limits call files unit with ⟨hpublishes, -⟩ | ⟨-, hpublished, -⟩
    · exact .inr (.inl hpublishes)
    · have hquota := h.quota
      rw [hpublished] at hquota
      rcases (unpublished_quota hpublished).mp (by simpa using hquota) with hunlinks | hnothing
      · exact .inl hunlinks
      · exact .inr (.inr hnothing)
  · rintro ⟨hreadable, hremoved⟩
    have honly : ∀ source artifact, inspectSource host limits unit source = .ok artifact →
        ∃ records, Encodes host limits unit records source := by
      intro source artifact h
      obtain ⟨records, first, lines, last, hparts, hsource, -⟩ := inspectSource_ok h
      exact ⟨records, first, lines, last, hparts, hsource⟩
    rcases sealUnit_cases host limits call files unit with
      ⟨hpublishes, first, lines, last, hparts, hpublished, hfiles, hcharged, hreleased, houtcome⟩ | ⟨hnot, hpublished, hfiles⟩
    · obtain ⟨hheader, hcompletion⟩ := hreadable hpublishes
      have hfirst := hheader first hparts.header
      have hlast := hcompletion last hparts.completionLine
      have hfile : (sealUnit host limits call files unit).files.get? (path host unit) = some (first ++ lines.flatten ++ last) := by
        rw [hfiles, Dict.get?_set_self]
      obtain ⟨read, hread, hall⟩ := replay_parts hjson hparts rfl hfirst hlast hfile
      refine ⟨fun _ => ⟨_, verdict host unit (first ++ lines.flatten ++ last) call.records.length, read, hfile, ?_, rfl, rfl, rfl, houtcome, hread, hall⟩,
        honly, ?_, ?_⟩
      · exact (inspect_eq_ok hfile).mpr ⟨hparts.bytes, inspectSource_parts hjson hparts hfirst hlast, by simp⟩
      · intro content hcontent
        rw [hpublishes.absent] at hcontent
        cases hcontent
      · rw [hpublished, hfile, hcharged, hreleased]
        simp
    · refine ⟨fun h => ?_, honly, ?_, ?_⟩
      · rw [hpublished] at h
        cases h
      · intro content hcontent
        refine ⟨hfiles, fun returned hreturned => ?_⟩
        have hcontains : files.contains (path host unit) = true := by simp [Dict.contains, hcontent]
        unfold sealUnit at hreturned
        rcases hwritten : writeAll host limits call unit with ⟨w, e | ⟨⟨⟩⟩⟩
        · rw [hwritten] at hreturned
          simp only at hreturned
          split at hreturned <;> cases hreturned
        · obtain ⟨-, first, lines, last, hparts, rfl⟩ := writeAll_eq_ok.mp hwritten
          rw [hwritten] at hreturned
          simp only [publish, hcontains, if_true] at hreturned
          split at hreturned
          · obtain ⟨-, hsource, hexpected⟩ := (inspect_eq_ok hcontent).mp hreturned
            obtain ⟨_, _, _, _, -, -, -, -, hverdict⟩ := inspectSource_ok hsource
            have hdigest := hexpected _ rfl
            rw [hverdict, finished_eq] at hdigest
            exact ⟨first, lines, last, hparts, hsha hdigest⟩
          · cases hreturned
      · rw [hpublished]
        refine (unpublished_quota hpublished).mpr ?_
        rcases hremoved with hunlinks | hpublishes | hnothing
        · exact .inl hunlinks
        · exact absurd hpublishes hnot
        · exact .inr hnothing

/-! ### Units without records -/

def utf8 (s : String) : Bytes := s.toUTF8.data.toList

def emptySha256 : String := "e3b0c44298fc1c149afbf4c8996fb92427ae41e4649b934ca495991b7852b855"

def headerText (digits : Bytes) : Bytes :=
  utf8 "\x7b\"format\":\"native-unit-v1\",\"unit\":\x7b\"payload_sha256\":\"aaaaaaaaaaaaaaaaaaaaaaaaaaaaaaaaaaaaaaaaaaaaaaaaaaaaaaaaaaaaaaaa\",\"plan_version\":\"xtdata-units-v1\",\"request_id\":\"5b0e2f4c-3d1a-4c55-9d50-0d8f6c1b7a11\",\"unit_index\":"
    ++ digits ++ utf8 "\x7d\x7d"

def emptyCompletion : Bytes :=
  utf8 "\x7b\"complete\":\x7b\"record_count\":0,\"records_sha256\":\"e3b0c44298fc1c149afbf4c8996fb92427ae41e4649b934ca495991b7852b855\"\x7d\x7d"

def emptyContent (digits : Bytes) : Bytes := headerText digits ++ [newline] ++ (emptyCompletion ++ [newline])

/-- The digest of bytes: the known ones of no bytes and of the file of the first unit, and others that tell the bytes. -/
def someSha256 (raw : Bytes) : String :=
  if raw = [] then emptySha256
  else if raw = emptyContent [48] then "6a86b765f68dbe7d5ed783a10e0c0446acc4a41dc359a6590d1e24a1878c446c"
  else String.ofList ('x' :: raw.map fun b => Char.ofNat b.toNat)

def someUnit (unitIndex : Nat) : CollectionUnit where
  requestId := "5b0e2f4c-3d1a-4c55-9d50-0d8f6c1b7a11"
  unitIndex := unitIndex
  payloadSha256 := "aaaaaaaaaaaaaaaaaaaaaaaaaaaaaaaaaaaaaaaaaaaaaaaaaaaaaaaaaaaaaaaa"

def twoTexts (v v' : PyVal) (text text' : Bytes) : JsonText where
  dumps w := if w = v then some text else if w = v' then some text' else none
  loads raw := if raw.filter (· ≠ newline) = text then some v else if raw.filter (· ≠ newline) = text' then some v' else none

theorem twoTexts_canonical {v v' : PyVal} {text text' : Bytes} (htext : newline ∉ text) (htext' : newline ∉ text') (hne : text' ≠ text) :
    (twoTexts v v' text text').Canonical := by
  have hfilter : ∀ {t : Bytes}, newline ∉ t → t.filter (· ≠ newline) = t ∧ (t ++ [newline]).filter (· ≠ newline) = t := by
    intro t ht
    have hclean : t.filter (· ≠ newline) = t := List.filter_eq_self.mpr fun b hb => decide_eq_true (ne_of_mem_of_not_mem hb ht)
    exact ⟨hclean, by rw [List.filter_append, hclean]; simp⟩
  obtain ⟨hread, hline⟩ := hfilter htext
  obtain ⟨hread', hline'⟩ := hfilter htext'
  intro w t ht
  simp only [twoTexts] at ht ⊢
  split at ht
  next hw =>
    obtain rfl := Option.some.inj ht
    subst hw
    exact ⟨htext, w, by rw [hread, if_pos rfl], by rw [hline, if_pos rfl], PyVal.same_iff.mpr rfl, if_pos rfl⟩
  next hother =>
    split at ht
    next hw =>
      obtain rfl := Option.some.inj ht
      subst hw
      exact ⟨htext', w, by rw [hread', if_neg hne, if_pos rfl], by rw [hline', if_neg hne, if_pos rfl], PyVal.same_iff.mpr rfl,
        by rw [if_neg hother, if_pos rfl]⟩
    next => cases ht

/-- A host that writes and reads the first and the last line of the file of one unit without records. -/
def emptyUnitHost (unit : CollectionUnit) (digits : Bytes) : ArtifactHost where
  toJsonText := twoTexts (header unit) (completion 0 emptySha256) (headerText digits) emptyCompletion
  sha256 := someSha256
  unitId _ := "19de96ebad202d3d7947f62c1cd291f5da02c7dcbee99c3206e65b0b928b3793"

theorem emptyUnitHost_canonical (unit : CollectionUnit) {digits : Bytes} (hdigits : newline ∉ digits) :
    (emptyUnitHost unit digits).Canonical := by
  refine twoTexts_canonical ?_ (by decide +kernel) ?_
  · simp only [headerText, List.mem_append, not_or]
    exact ⟨⟨by decide +kernel, hdigits⟩, by decide +kernel⟩
  · intro h
    have htake := congrArg (List.take 3) h
    simp only [headerText, List.append_assoc] at htake
    rw [List.take_append_of_le_length (by decide +kernel)] at htake
    exact absurd htake (by decide +kernel)

theorem ofNat_toNat_inj {b c : UInt8} (h : Char.ofNat b.toNat = Char.ofNat c.toNat) : b = c := by
  have hvalid : ∀ b : UInt8, (Char.ofNat b.toNat).toNat = b.toNat := by
    intro b
    have hb : b.toNat < 256 := b.toNat_lt
    have hchar : b.toNat.isValidChar := .inl (by omega)
    rw [Char.ofNat, dif_pos hchar]
    rfl
  have hnat := congrArg Char.toNat h
  rw [hvalid, hvalid] at hnat
  exact UInt8.toNat_inj.mp hnat

theorem someSha256_injective : Function.Injective someSha256 := by
  have hother : ∀ (raw : Bytes) (s : String), s.toList.head? ≠ some 'x' → String.ofList ('x' :: raw.map fun b => Char.ofNat b.toNat) ≠ s := by
    rintro raw s hs rfl
    simp at hs
  have hempty : emptySha256.toList.head? ≠ some 'x' := by decide +kernel
  have hfirst : ("6a86b765f68dbe7d5ed783a10e0c0446acc4a41dc359a6590d1e24a1878c446c" : String).toList.head? ≠ some 'x' := by decide +kernel
  have hknown : emptySha256 ≠ "6a86b765f68dbe7d5ed783a10e0c0446acc4a41dc359a6590d1e24a1878c446c" := by decide +kernel
  intro a b h
  unfold someSha256 at h
  split at h
  next ha =>
    split at h
    next hb => rw [ha, hb]
    next =>
      split at h
      next => exact absurd h hknown
      next => exact absurd h.symm (hother b _ hempty)
  next =>
    split at h
    next ha =>
      split at h
      next => exact absurd h.symm hknown
      next =>
        split at h
        next hb => rw [ha, hb]
        next => exact absurd h.symm (hother b _ hfirst)
    next =>
      split at h
      next => exact absurd h (hother a _ hempty)
      next =>
        split at h
        next => exact absurd h (hother a _ hfirst)
        next =>
          have hlist := congrArg String.toList h
          simp only [String.toList_ofList, List.cons.injEq, true_and] at hlist
          exact List.map_injective_iff.mpr (fun b c => ofNat_toNat_inj) hlist

def smallLimits : ArtifactLimits where
  maxBytes := 1000000
  maxRecordBytes := 4095
  maxRecords := 10
  bytes_pos := by omega
  recordBytes_pos := by omega
  records_pos := by omega

theorem emptyUnit_parts (unitIndex : Nat) (digits : Bytes) (hbytes : (emptyContent digits).length ≤ smallLimits.maxBytes) :
    Parts (emptyUnitHost (someUnit unitIndex) digits) smallLimits (someUnit unitIndex) [] (headerText digits ++ [newline]) [] (emptyCompletion ++ [newline]) where
  header := JsonText.line_eq_ok.mpr ⟨headerText digits, if_pos rfl, rfl⟩
  each := .nil
  count := by simp
  completion := by
    have hne : completion 0 emptySha256 ≠ header (someUnit unitIndex) := by simp [completion, header]
    have hempty : (emptyUnitHost (someUnit unitIndex) digits).sha256 [] = emptySha256 := by simp [emptyUnitHost, someSha256]
    refine JsonText.line_eq_ok.mpr ⟨emptyCompletion, ?_, rfl⟩
    rw [List.flatten_nil, hempty]
    simp [emptyUnitHost, twoTexts, hne]
  bytes := by simpa [emptyContent] using hbytes

theorem emptyUnit_publishes (unitIndex : Nat) (digits : Bytes) (hbytes : (emptyContent digits).length ≤ smallLimits.maxBytes) :
    Publishes (emptyUnitHost (someUnit unitIndex) digits) smallLimits { records := [] } Dict.empty (someUnit unitIndex) where
  free := ⟨rfl, rfl, fun _ _ => ⟨rfl, rfl⟩, rfl⟩
  encodes := ⟨_, _, _, _, emptyUnit_parts unitIndex digits hbytes, rfl⟩
  absent := rfl
  links := rfl

/-- The result of a unit without records. -/
theorem seal_exact_empty : SealExact (emptyUnitHost (someUnit 0) [48]) smallLimits { records := [] } Dict.empty (someUnit 0) := by
  have hparts := emptyUnit_parts 0 [48] (by decide +kernel)
  refine (seal_exact (emptyUnitHost_canonical (someUnit 0) (by decide +kernel)) someSha256_injective).mpr ⟨fun _ => ⟨?_, ?_⟩, .inl rfl⟩
  · intro first hfirst
    obtain rfl := Except.ok.inj (hparts.header.symm.trans hfirst)
    decide +kernel
  · intro last hlast
    obtain rfl := Except.ok.inj (hparts.completionLine.symm.trans hlast)
    decide +kernel

/-- A unit whose number has 3901 digits has a header that is published and never read. -/
theorem seal_exact_unread : ¬SealExact (emptyUnitHost (someUnit (10 ^ 3900)) (49 :: List.replicate 3900 48)) smallLimits { records := [] } Dict.empty
    (someUnit (10 ^ 3900)) := by
  intro h
  have hlength : (headerText (49 :: List.replicate 3900 48) ++ [newline]).length = 4121 := by
    simp only [headerText, List.length_append, List.length_cons, List.length_replicate]
    decide +kernel
  have hcontent : (emptyContent (49 :: List.replicate 3900 48)).length ≤ smallLimits.maxBytes := by
    rw [emptyContent, List.length_append, hlength]
    decide +kernel
  have hdigits : newline ∉ 49 :: List.replicate 3900 (48 : UInt8) := by
    simp only [List.mem_cons, List.mem_replicate, not_or, not_and]
    exact ⟨by decide, fun _ => by decide⟩
  have hparts := emptyUnit_parts (10 ^ 3900) (49 :: List.replicate 3900 48) hcontent
  have hread := readable_of_exact (emptyUnitHost_canonical _ hdigits) h (emptyUnit_publishes (10 ^ 3900) _ hcontent)
  have hfits := hread.header _ hparts.header
  exact absurd hfits (by decide +kernel)

end QuantX.NativeUnitArtifacts
