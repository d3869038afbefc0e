import QuantX.QmtAgent.NativeUnitPipe

/-! What a child makes of an iterator, apart from the pipe: where it breaks, and the batches that it completes before. -/

namespace QuantX.NativeUnitIpc
open Lib

variable {R : Type} {json : NativeJson R} {s next : Serving R} {e : NativeException}

def Normalises (json : NativeJson R) : Prop :=
  ∀ record raw, encoded json record = .ok raw →
    ∃ value again, json.loads raw = .ok value ∧ encoded json value = .ok again ∧ again.length = raw.length

def Normal (json : NativeJson R) (record value : R) : Prop := ∃ raw, encoded json record = .ok raw ∧ json.loads raw = .ok value

/-- The number of records before the one that is refused, or before the iterator fails, and the exception. -/
def breaks (json : NativeJson R) (ending : Option NativeException) : List R → Nat → Option (Nat × NativeException)
  | [], count => ending.map fun e => (count, e)
  | record :: rest, count => match encoded json record with
    | .error e => some (count, e)
    | .ok raw =>
      if raw.length > maxUnitBatchBytes ∨ count + 1 > maxMarketDataRecords then some (count, .value)
      else match json.loads raw with
        | .error e => some (count, e)
        | .ok _ => breaks json ending rest (count + 1)

def filled (batch : List R) (size bytes : Nat) : Bool :=
  !batch.isEmpty && (size + bytes > maxUnitBatchBytes || batch.length ≥ maxUnitBatchRecords)

/-- The batches that are completed, the first of which has begun. -/
def batches (json : NativeJson R) (ending : Option NativeException) : List R → List R → Nat → Nat → List (List R)
  | [], batch, _, _ => if ending.isNone && !batch.isEmpty then [batch] else []
  | record :: rest, batch, size, count => match encoded json record with
    | .error _ => []
    | .ok raw =>
      if raw.length > maxUnitBatchBytes then []
      else
        (if filled batch size raw.length then [batch] else []) ++
          if count + 1 > maxMarketDataRecords then []
          else match json.loads raw with
            | .error _ => []
            | .ok value =>
              if filled batch size raw.length then batches json ending rest [value] raw.length (count + 1)
              else batches json ending rest (batch ++ [value]) (size + raw.length) (count + 1)

def Serving.breaks (json : NativeJson R) (s : Serving R) : Option (Nat × NativeException) :=
  NativeUnitIpc.breaks json s.iterator.ending s.iterator.records s.count

def Serving.batches (json : NativeJson R) (s : Serving R) : List (List R) :=
  NativeUnitIpc.batches json s.iterator.ending s.iterator.records s.batch s.size s.count

theorem full_eq (s : Serving R) (raw : Bytes) : s.full raw = filled s.batch s.size raw.length := rfl

theorem filled_nil (size bytes : Nat) : filled ([] : List R) size bytes = false := rfl

theorem filled_eq_false {batch : List R} {size bytes : Nat} (h : filled batch size bytes = false) :
    batch = [] ∨ size + bytes ≤ maxUnitBatchBytes ∧ batch.length < maxUnitBatchRecords := by
  unfold filled at h
  cases batch with
  | nil => exact .inl rfl
  | cons value batch =>
    right
    simpa using h

/-- What a turn finds: the end of the records, or a record that is refused, that does not fit the batch, or that is put in it. -/
inductive Turned (json : NativeJson R) (s : Serving R) : Turn R → Prop
  | ending (e : NativeException) (hrecords : s.iterator.records = []) (hending : s.iterator.ending = some e) : Turned json s (.fail e)
  | complete (hrecords : s.iterator.records = []) (hending : s.iterator.ending = none) (hbatch : s.batch = []) : Turned json s .complete
  | rest (hrecords : s.iterator.records = []) (hending : s.iterator.ending = none) (hbatch : s.batch ≠ []) : Turned json s .flush
  | refused (e : NativeException) (hbreaks : s.breaks json = some (s.count, e)) : Turned json s (.fail e)
  | full (record : R) (rest : List R) (raw : Bytes) (hrecords : s.iterator.records = record :: rest) (hraw : encoded json record = .ok raw)
      (hbytes : raw.length ≤ maxUnitBatchBytes) (hfull : s.full raw = true) : Turned json s .flush
  | take (record : R) (raw : Bytes) (rest : List R) (value : R) (hrecords : s.iterator.records = record :: rest)
      (hraw : encoded json record = .ok raw) (hvalue : json.loads raw = .ok value) (hbytes : raw.length ≤ maxUnitBatchBytes)
      (hfull : s.full raw = false) (hcount : s.count + 1 ≤ maxMarketDataRecords) :
      Turned json s (.take
        { s with
          iterator := { s.iterator with records := rest }, batch := s.batch ++ [value], size := s.size + raw.length
          count := s.count + 1 })

theorem turn_turned (json : NativeJson R) (s : Serving R) : Turned json s (s.turn json) := by
  unfold Serving.turn
  cases hrecords : s.iterator.records with
  | nil =>
    cases hending : s.iterator.ending with
    | some e => exact .ending e hrecords hending
    | none =>
      dsimp only
      split
      next hbatch => exact .complete hrecords hending (by simpa using hbatch)
      next hbatch => exact .rest hrecords hending (by simpa using hbatch)
  | cons record rest =>
    dsimp only
    cases hraw : encoded json record with
    | error e => exact .refused e (by simp [Serving.breaks, hrecords, breaks, hraw])
    | ok raw =>
      dsimp only
      split
      next hbytes => exact .refused _ (by simp [Serving.breaks, hrecords, breaks, hraw, hbytes])
      next hbytes =>
        split
        next hfull => exact .full record rest raw hrecords hraw (by omega) hfull
        next hfull =>
          unfold Serving.add
          split
          next hcount => exact .refused _ (by simp [Serving.breaks, hrecords, breaks, hraw, hcount])
          next hcount =>
            cases hvalue : json.loads raw with
            | error e => exact .refused e (by simp [Serving.breaks, hrecords, breaks, hraw, hvalue, hbytes, hcount])
            | ok value => exact .take record raw rest value hrecords hraw hvalue (by omega) (by simpa using hfull) (by omega)

theorem turn_take (h : s.turn json = .take next) : ∃ record raw rest value, s.iterator.records = record :: rest ∧
    encoded json record = .ok raw ∧ json.loads raw = .ok value ∧ raw.length ≤ maxUnitBatchBytes ∧ s.full raw = false ∧
    s.count + 1 ≤ maxMarketDataRecords ∧
    next =
      { s with
        iterator := { s.iterator with records := rest }, batch := s.batch ++ [value], size := s.size + raw.length
        count := s.count + 1 } := by
  cases h ▸ turn_turned json s with
  | take record raw rest value hrecords hraw hvalue hbytes hfull hcount =>
    exact ⟨record, raw, rest, value, hrecords, hraw, hvalue, hbytes, hfull, hcount, rfl⟩

theorem take_breaks (h : s.turn json = .take next) : next.breaks json = s.breaks json := by
  obtain ⟨record, raw, rest, value, hrecords, hraw, hvalue, hbytes, -, hcount, rfl⟩ := turn_take h
  have hfits : ¬(raw.length > maxUnitBatchBytes ∨ s.count + 1 > maxMarketDataRecords) := by omega
  simp only [Serving.breaks, hrecords, breaks, hraw, hvalue, if_neg hfits]

theorem take_batches (h : s.turn json = .take next) : next.batches json = s.batches json := by
  obtain ⟨record, raw, rest, value, hrecords, hraw, hvalue, hbytes, hfull, hcount, rfl⟩ := turn_take h
  rw [full_eq] at hfull
  simp only [Serving.batches, hrecords, batches, hraw, hvalue, hfull, if_neg (Nat.not_lt.mpr hbytes),
    if_neg (Nat.not_lt.mpr hcount), Bool.false_eq_true, if_false, List.nil_append]

theorem turn_flush (h : s.turn json = .flush) :
    s.batch ≠ [] ∧ s.batches json = s.batch :: s.flushed.batches json ∧ s.flushed.breaks json = s.breaks json := by
  cases h ▸ turn_turned json s with
  | rest hrecords hending hbatch =>
    refine ⟨hbatch, ?_, rfl⟩
    simp [Serving.batches, Serving.flushed, hrecords, hending, batches, hbatch]
  | full record rest raw hrecords hraw hbytes hfull =>
    rw [full_eq] at hfull
    refine ⟨?_, ?_, rfl⟩
    · rintro hbatch
      rw [hbatch, filled_nil] at hfull
      cases hfull
    · simp [Serving.batches, Serving.flushed, hrecords, batches, hraw, if_neg (Nat.not_lt.mpr hbytes), hfull, filled_nil]

theorem turn_fail (h : s.turn json = .fail e) : s.breaks json = some (s.count, e) := by
  cases h ▸ turn_turned json s with
  | ending e hrecords hending => simp [Serving.breaks, hrecords, breaks, hending]
  | refused e hbreaks => exact hbreaks

theorem turn_complete (h : s.turn json = .complete) : s.iterator.records = [] ∧ s.iterator.ending = none ∧ s.batch = [] := by
  cases h ▸ turn_turned json s with
  | complete hrecords hending hbatch => exact ⟨hrecords, hending, hbatch⟩

/-! ### Sizes -/

theorem batchBytes_concat {batch : List R} {size : Nat} {value : R} {raw : Bytes} (h : batchBytes json batch = .ok size)
    (hvalue : encoded json value = .ok raw) : batchBytes json (batch ++ [value]) = .ok (size + raw.length) := by
  induction batch generalizing size with
  | nil =>
    cases h
    simp [batchBytes, hvalue]
  | cons first batch ih =>
    rw [batchBytes] at h
    cases hfirst : encoded json first with
    | error e => simp [hfirst] at h
    | ok raw' =>
      cases hrest : batchBytes json batch with
      | error e => simp [hfirst, hrest] at h
      | ok size' =>
        simp only [hfirst, hrest, Except.ok.injEq] at h
        subst h
        rw [List.cons_append, batchBytes, hfirst, ih hrest]
        simp [Nat.add_assoc]

theorem batches_length {ending : Option NativeException} {records batch : List R} {size count i : Nat}
    (h : breaks json ending records count = some (i, e)) :
    count + (batches json ending records batch size count).flatten.length ≤ i + batch.length := by
  induction records generalizing batch size count with
  | nil =>
    rw [breaks] at h
    cases ending with
    | none => cases h
    | some e' =>
      simp only [Option.map_some, Option.some.injEq, Prod.mk.injEq] at h
      simp [batches, h.1]
  | cons record rest ih =>
    rw [breaks] at h
    rw [batches]
    cases hraw : encoded json record with
    | error e' =>
      simp only [hraw, Option.some.injEq, Prod.mk.injEq] at h
      simp [h.1]
    | ok raw =>
      simp only [hraw] at h ⊢
      split at h
      next hbreak =>
        simp only [Option.some.injEq, Prod.mk.injEq] at h
        rcases hbreak with hbytes | hcount
        · simp [hbytes, h.1]
        · simp only [hcount, if_true, List.append_nil]
          split
          · simp [h.1]
          · cases filled batch size raw.length <;> simp [h.1]
      next hfits =>
        rw [not_or] at hfits
        simp only [hfits.1, hfits.2, if_false]
        cases hvalue : json.loads raw with
        | error e' =>
          simp only [hvalue, Option.some.injEq, Prod.mk.injEq] at h
          cases filled batch size raw.length <;> simp [h.1]
        | ok value =>
          simp only [hvalue] at h ⊢
          have hnew := @ih [value] raw.length (count + 1) h
          have hmore := @ih (batch ++ [value]) (size + raw.length) (count + 1) h
          simp only [List.length_append, List.length_singleton] at hnew hmore
          cases filled batch size raw.length with
          | true =>
            simp only [if_true, List.singleton_append, List.flatten_cons, List.length_append]
            omega
          | false =>
            simp only [Bool.false_eq_true, if_false, List.nil_append]
            omega

end QuantX.NativeUnitIpc
