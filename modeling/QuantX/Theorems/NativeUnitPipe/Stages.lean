import QuantX.Theorems.NativeUnitPipe.Batches

/-! Where the two sides are, whatever the order of their steps: they take turns. Each stage bounds the steps that are
    left until the parent ends. -/

namespace QuantX.NativeUnitIpc
open Lib

variable {R P : Type} {json : NativeJson R} {planner : UnitPlanner P} {call : UnitCall R P} {it : NativeIterator R}
  {identity : UnitIdentity} {s next : Serving R} {yielded : List R} {pipe pipe' : UnitPipe R P} {e : NativeException}

structure Served (json : NativeJson R) (it : NativeIterator R) (identity : UnitIdentity) (s : Serving R) (yielded : List R) : Prop where
  identity : s.identity = identity
  ending : s.iterator.ending = it.ending
  closing : s.iterator.closing = it.closing
  count : s.count = yielded.length + s.batch.length
  bytes : batchBytes json s.batch = .ok s.size
  fits : s.size ≤ maxUnitBatchBytes
  few : s.batch.length ≤ maxUnitBatchRecords
  total : s.count ≤ maxMarketDataRecords
  taken : ∃ taken, it.records = taken ++ s.iterator.records ∧ List.Forall₂ (Normal json) taken (yielded ++ s.batch)
  batches : yielded ++ (s.batches json).flatten = (NativeUnitIpc.batches json it.ending it.records [] 0 0).flatten
  breaks : s.breaks json = NativeUnitIpc.breaks json it.ending it.records 0

theorem Served.begin (json : NativeJson R) (it : NativeIterator R) (identity : UnitIdentity) :
    Served json it identity ⟨identity, it, [], 0, 0, 0⟩ [] where
  identity := rfl
  ending := rfl
  closing := rfl
  count := rfl
  bytes := rfl
  fits := Nat.zero_le _
  few := Nat.zero_le _
  total := Nat.zero_le _
  taken := ⟨[], rfl, .nil⟩
  batches := rfl
  breaks := rfl

theorem Served.take (hjson : Normalises json) (h : Served json it identity s yielded) (hturn : s.turn json = .take next) :
    Served json it identity next yielded := by
  have hbreaks := take_breaks hturn
  have hbatches := take_batches hturn
  obtain ⟨record, raw, rest, value, hrecords, hraw, hvalue, hbytes, hfull, hcount, rfl⟩ := turn_take hturn
  obtain ⟨value', again, hvalue', hagain, hlength⟩ := hjson record raw hraw
  obtain rfl := Except.ok.inj (hvalue.symm.trans hvalue')
  obtain ⟨taken, htaken, hnormal⟩ := h.taken
  have hfits : s.size + raw.length ≤ maxUnitBatchBytes ∧ s.batch.length < maxUnitBatchRecords := by
    rcases filled_eq_false hfull with hempty | hfits
    · have hsize := h.bytes
      rw [hempty] at hsize
      rw [hempty, ← Except.ok.inj hsize]
      exact ⟨by omega, Nat.succ_pos _⟩
    · exact hfits
  refine ⟨h.identity, h.ending, h.closing, ?_, ?_, hfits.1, ?_, hcount, ?_, ?_, hbreaks.trans h.breaks⟩
  · have hcount := h.count
    simp only [List.length_append, List.length_singleton]
    omega
  · rw [← hlength]
    exact batchBytes_concat h.bytes hagain
  · simp only [List.length_append, List.length_singleton]
    exact hfits.2
  · refine ⟨taken ++ [record], by simp [htaken, hrecords], ?_⟩
    rw [← List.append_assoc]
    exact List.rel_append hnormal (.cons ⟨raw, hraw, hvalue⟩ .nil)
  · rw [hbatches]
    exact h.batches

theorem Served.flush (h : Served json it identity s yielded) (hturn : s.turn json = .flush) :
    Served json it identity s.flushed (yielded ++ s.batch) := by
  obtain ⟨-, hbatches, hbreaks⟩ := turn_flush hturn
  obtain ⟨taken, htaken, hnormal⟩ := h.taken
  refine ⟨h.identity, h.ending, h.closing, ?_, rfl, Nat.zero_le _, Nat.zero_le _, h.total, ⟨taken, htaken, by simpa [Serving.flushed] using hnormal⟩, ?_,
    hbreaks.trans h.breaks⟩
  · simp [Serving.flushed, h.count]
  · rw [← h.batches, hbatches, List.flatten_cons, List.append_assoc]

def served (planner : UnitPlanner P) (call : UnitCall R P) : Except String (NativeIterator R) :=
  (admitUnit planner call call.permit.unit.requestId call.permit call.payload).map call.iterMarketData

def outcome (json : NativeJson R) (it : NativeIterator R) : Option NativeException :=
  match breaks json it.ending it.records 0 with
  | some (_, e) => some (it.closing.getD e)
  | none => it.closing

structure Yields (json : NativeJson R) (planner : UnitPlanner P) (call : UnitCall R P) (yielded : List R) : Prop where
  refused : ∀ e, served planner call = .error e → yielded = []
  taken : ∀ it, served planner call = .ok it → ∃ records, records <+: it.records ∧ List.Forall₂ (Normal json) records yielded
  batches : ∀ it, served planner call = .ok it → yielded <+: (batches json it.ending it.records [] 0 0).flatten

inductive Ending (json : NativeJson R) (planner : UnitPlanner P) (call : UnitCall R P) (yielded : List R) (late : Bool) : ParentMode R → Prop
  | returned (it : NativeIterator R) (hserved : served planner call = .ok it) (houtcome : outcome json it = none)
      (hall : List.Forall₂ (Normal json) it.records yielded) : Ending json planner call yielded late .returned
  | failure (it : NativeIterator R) (cause : NativeException) (hserved : served planner call = .ok it)
      (houtcome : outcome json it = some cause) : Ending json planner call yielded late (.raised (.failure cause.reasonCode))
  | refused (text : String) (hserved : served planner call = .error text) :
      Ending json planner call yielded late (.raised (.invalid "native unit IPC response identity mismatch"))
  | timeout (hlate : late = true) : Ending json planner call yielded late (.raised .timeout)

theorem Served.yields (h : Served json it identity s yielded) (hserved : served planner call = .ok it) {given : List R}
    (hgiven : given <+: s.batch) (hbatches : given <+: (s.batches json).flatten) : Yields json planner call (yielded ++ given) := by
  refine ⟨fun e he => ?_, fun it' hit' => ?_, fun it' hit' => ?_⟩
  · rw [hserved] at he
    cases he
  · obtain rfl := Except.ok.inj (hserved.symm.trans hit')
    obtain ⟨taken, htaken, hnormal⟩ := h.taken
    obtain ⟨rest, hrest⟩ := hgiven
    rw [← hrest, ← List.append_assoc] at hnormal
    refine ⟨taken.take (yielded ++ given).length, (List.take_prefix _ taken).trans ?_, List.forall₂_take_append _ _ _ hnormal⟩
    rw [htaken]
    exact List.prefix_append _ _
  · obtain rfl := Except.ok.inj (hserved.symm.trans hit')
    rw [← h.batches]
    exact (List.prefix_append_right_inj yielded).mpr hbatches

theorem Served.yields_all (h : Served json it identity s yielded) (hserved : served planner call = .ok it) : Yields json planner call yielded := by
  have hyields := h.yields hserved List.nil_prefix List.nil_prefix
  rwa [List.append_nil] at hyields

theorem Served.yields_batch (h : Served json it identity s yielded) (hserved : served planner call = .ok it) (hturn : s.turn json = .flush)
    {given : List R} (hgiven : given <+: s.batch) : Yields json planner call (yielded ++ given) := by
  refine h.yields hserved hgiven (hgiven.trans ?_)
  rw [(turn_flush hturn).2.1, List.flatten_cons]
  exact List.prefix_append _ _

theorem nativeUnitFailure_reasonCode (e : NativeException) : nativeUnitFailure e.reasonCode = .failure e.reasonCode := by cases e <;> rfl

theorem readFrame_unitError (identity : UnitIdentity) (sequence count : Nat) (e : NativeException) :
    readFrame json identity sequence count (unitError identity sequence e.reasonCode) = .error (.failure e.reasonCode) := by
  simp [readFrame, unitError, nativeUnitFailure_reasonCode]

theorem readFrame_unitComplete (identity : UnitIdentity) (sequence count : Nat) :
    readFrame json identity sequence count (unitComplete identity sequence count) = .ok none := by
  simp [readFrame, unitComplete]

theorem readFrame_workerError (identity : UnitIdentity) (sequence count : Nat) (requestId error : String) :
    readFrame json identity sequence count (workerError requestId error) =
      .error (.invalid "native unit IPC response identity mismatch") := by
  simp [readFrame, workerError]

theorem Served.readFrame_batch (h : Served json it identity s yielded) (hbatch : s.batch ≠ []) :
    readFrame json identity s.sequence yielded.length (unitRecords s.identity s.sequence s.batch) = .ok (some s.batch) := by
  have hlength : 1 ≤ s.batch.length ∧ s.batch.length ≤ maxUnitBatchRecords := ⟨List.length_pos_of_ne_nil hbatch, h.few⟩
  have hcount : ¬yielded.length + s.batch.length > maxMarketDataRecords := by
    rw [← h.count]
    exact Nat.not_lt.mpr h.total
  have hchecked : checkBatch json yielded.length s.batch = .ok () := by
    simp [checkBatch, hlength, h.bytes, if_neg (Nat.not_lt.mpr h.fits), if_neg hcount]
  simp [readFrame, unitRecords, h.identity, hchecked, Except.map]

def recordCount (planner : UnitPlanner P) (call : UnitCall R P) : Nat :=
  match served planner call with
  | .ok it => it.records.length
  | .error _ => 0

inductive Stage (json : NativeJson R) (planner : UnitPlanner P) (call : UnitCall R P) : Nat → UnitPipe R P → Prop
  | start (late : Bool) : Stage json planner call (7 * recordCount planner call + 5) ⟨.start, 0, 0, [], late, .idle, [], []⟩
  | asked (late : Bool) : Stage json planner call (7 * recordCount planner call + 4)
      ⟨.waiting, 0, 0, [], late, .idle, [.collectUnit call.permit.unit.requestId call.permit call.payload], []⟩
  | serving (late : Bool) (it : NativeIterator R) (s : Serving R) (yielded : List R) (hserved : served planner call = .ok it)
      (h : Served json it call.permit.identity s yielded) : Stage json planner call (7 * s.iterator.records.length + 6 * s.batch.length + 3)
      ⟨.waiting, s.sequence, yielded.length, yielded, late, .serving s, [], []⟩
  | sent (late : Bool) (it : NativeIterator R) (s : Serving R) (yielded : List R) (hserved : served planner call = .ok it)
      (h : Served json it call.permit.identity s yielded) (hturn : s.turn json = .flush) :
      Stage json planner call (7 * s.iterator.records.length + 6 * s.batch.length + 2)
      ⟨.waiting, s.sequence, yielded.length, yielded, late, .awaiting s, [], [unitRecords s.identity s.sequence s.batch]⟩
  | yielding (late : Bool) (it : NativeIterator R) (s : Serving R) (yielded given rest : List R) (hserved : served planner call = .ok it)
      (h : Served json it call.permit.identity s yielded) (hturn : s.turn json = .flush) (hbatch : s.batch = given ++ rest) :
      Stage json planner call (7 * s.iterator.records.length + rest.length + 5)
      ⟨.yielding rest, s.sequence, yielded.length + s.batch.length, yielded ++ given, late, .awaiting s, [], []⟩
  | continued (late : Bool) (it : NativeIterator R) (s : Serving R) (yielded : List R) (hserved : served planner call = .ok it)
      (h : Served json it call.permit.identity s yielded) (hturn : s.turn json = .flush) :
      Stage json planner call (7 * s.iterator.records.length + 4)
      ⟨.waiting, s.sequence + 1, (yielded ++ s.batch).length, yielded ++ s.batch, late, .awaiting s,
        [.unitContinue call.permit.identity s.sequence], []⟩
  | reported (late : Bool) (sequence : Nat) (yielded : List R) (frame : ChildFrame R) (mode : ParentMode R)
      (hread : ∀ pipe : UnitPipe R P, pipe.sequence = sequence → pipe.count = yielded.length →
        pipe.receive json call frame = { pipe with parent := mode })
      (hyields : Yields json planner call yielded) (hending : Ending json planner call yielded false mode) :
      Stage json planner call 1 ⟨.waiting, sequence, yielded.length, yielded, late, .idle, [], [frame]⟩
  | ended (pipe : UnitPipe R P) (hyields : Yields json planner call pipe.yielded)
      (hending : Ending json planner call pipe.yielded pipe.late pipe.parent)
      (hquiet : pipe.late = false → pipe.child = .idle ∧ pipe.toChild = []) : Stage json planner call 0 pipe

/-! ### Steps -/

variable {work : Nat}

theorem Ending.late {mode : ParentMode R} {late : Bool} (h : Ending json planner call yielded late mode) :
    Ending json planner call yielded true mode := by
  cases h with
  | returned it hserved houtcome hall => exact .returned it hserved houtcome hall
  | failure it cause hserved houtcome => exact .failure it cause hserved houtcome
  | refused text hserved => exact .refused text hserved
  | timeout => exact .timeout rfl

theorem Stage.yields (h : Stage json planner call work pipe) : Yields json planner call pipe.yielded := by
  have hnone : Yields json planner call [] :=
    ⟨fun _ _ => rfl, fun it _ => ⟨[], List.nil_prefix, .nil⟩, fun _ _ => List.nil_prefix⟩
  cases h with
  | start => exact hnone
  | asked => exact hnone
  | serving late it s yielded hserved h => exact h.yields_all hserved
  | sent late it s yielded hserved h => exact h.yields_all hserved
  | yielding late it s yielded given rest hserved h hturn hbatch => exact h.yields_batch hserved hturn ⟨rest, hbatch.symm⟩
  | continued late it s yielded hserved h hturn => exact h.yields_batch hserved hturn List.prefix_rfl
  | reported late sequence yielded frame mode hread hyields => exact hyields
  | ended pipe hyields => exact hyields

theorem Stage.deadline (h : Stage json planner call work pipe) : Stage json planner call work { pipe with late := true } := by
  cases h with
  | start => exact .start true
  | asked => exact .asked true
  | serving late it s yielded hserved h => exact .serving true it s yielded hserved h
  | sent late it s yielded hserved h hturn => exact .sent true it s yielded hserved h hturn
  | yielding late it s yielded given rest hserved h hturn hbatch => exact .yielding true it s yielded given rest hserved h hturn hbatch
  | continued late it s yielded hserved h hturn => exact .continued true it s yielded hserved h hturn
  | reported late sequence yielded frame mode hread hyields hending => exact .reported true sequence yielded frame mode hread hyields hending
  | ended pipe hyields hending => exact .ended _ hyields hending.late (by simp)

theorem stepChild_parent (hstep : pipe.stepChild json planner call = some pipe') :
    pipe'.parent = pipe.parent ∧ pipe'.yielded = pipe.yielded ∧ pipe'.late = pipe.late := by
  unfold UnitPipe.stepChild at hstep
  split at hstep
  next =>
    cases hstep
    unfold UnitPipe.serve
    split <;> exact ⟨rfl, rfl, rfl⟩
  next =>
    cases hstep
    unfold UnitPipe.message
    split
    · exact ⟨rfl, rfl, rfl⟩
    · split <;> exact ⟨rfl, rfl, rfl⟩
  next =>
    cases hstep
    split <;> exact ⟨rfl, rfl, rfl⟩
  next => cases hstep

theorem Served.report (h : Served json it call.permit.identity s yielded) (hserved : served planner call = .ok it) (late : Bool)
    {frame : ChildFrame R} (hframe : s.turn json = .complete ∧ frame = s.completion ∨ ∃ e, s.turn json = .fail e ∧ frame = s.failure e) :
    Stage json planner call 1 ⟨.waiting, s.sequence, yielded.length, yielded, late, .idle, [], [frame]⟩ := by
  have hyields := h.yields_all hserved
  have hclosing := h.closing
  rcases hframe with ⟨hturn, rfl⟩ | ⟨e, hturn, rfl⟩
  · obtain ⟨hrecords, hending, hbatch⟩ := turn_complete hturn
    have hbreaks := h.breaks
    simp only [Serving.breaks, hrecords, hending, NativeUnitIpc.breaks, Option.map_none] at hbreaks
    cases hclose : it.closing with
    | some e =>
      rw [hclose] at hclosing
      refine .reported late s.sequence yielded _ (.raised (.failure e.reasonCode)) (fun pipe hsequence hcount => ?_) hyields
        (.failure it e hserved ?_)
      · rw [Serving.completion, hclosing, UnitPipe.receive, h.identity, hsequence, readFrame_unitError]
      · rw [outcome, ← hbreaks, hclose]
    | none =>
      rw [hclose] at hclosing
      have hall : s.count = yielded.length := by
        rw [h.count, hbatch, List.length_nil, Nat.add_zero]
      refine .reported late s.sequence yielded _ .returned (fun pipe hsequence hcount => ?_) hyields (.returned it hserved ?_ ?_)
      · rw [Serving.completion, hclosing, UnitPipe.receive, h.identity, hall, hsequence, hcount, readFrame_unitComplete]
      · rw [outcome, ← hbreaks, hclose]
      · obtain ⟨taken, htaken, hnormal⟩ := h.taken
        rw [hrecords, List.append_nil] at htaken
        rw [hbatch, List.append_nil] at hnormal
        rwa [htaken]
  · have hbreaks := (turn_fail hturn).symm.trans h.breaks
    refine .reported late s.sequence yielded _ (.raised (.failure (it.closing.getD e).reasonCode)) (fun pipe hsequence hcount => ?_) hyields
      (.failure it (it.closing.getD e) hserved ?_)
    · rw [Serving.failure, hclosing, UnitPipe.receive, h.identity, hsequence, readFrame_unitError]
    · rw [outcome, ← hbreaks]

theorem Stage.child (hjson : Normalises json) (h : Stage json planner call work pipe) (hstep : pipe.stepChild json planner call = some pipe') :
    ∃ work', Stage json planner call work' pipe' ∧ (pipe.late = false → work' < work) := by
  cases h with
  | start => cases hstep
  | asked late =>
    obtain rfl := Option.some.inj hstep
    unfold UnitPipe.message
    simp only
    cases hlegal : admitUnit planner call call.permit.unit.requestId call.permit call.payload with
    | error text =>
      have hserved : served planner call = .error text := by rw [served, hlegal, Except.map]
      refine ⟨1, .reported late 0 [] _ _ (fun pipe hsequence hcount => ?_) ⟨fun _ _ => rfl, fun it hit => ?_, fun it hit => ?_⟩ (.refused text hserved),
        fun _ => by omega⟩
      · rw [UnitPipe.receive, readFrame_workerError]
      · exact ⟨[], List.nil_prefix, .nil⟩
      · exact List.nil_prefix
    | ok unit =>
      have hserved : served planner call = .ok (call.iterMarketData unit) := by rw [served, hlegal, Except.map]
      refine ⟨_, .serving late _ _ [] hserved (Served.begin json (call.iterMarketData unit) call.permit.identity), fun _ => ?_⟩
      simp [recordCount, hserved]
  | serving late it s yielded hserved h =>
    obtain rfl := Option.some.inj hstep
    unfold UnitPipe.serve
    cases hturn : s.turn json with
    | flush => exact ⟨_, .sent late it s yielded hserved h hturn, fun _ => by omega⟩
    | take next =>
      have hnext := h.take hjson hturn
      have hsequence : next.sequence = s.sequence := by
        obtain ⟨_, _, _, _, -, -, -, -, -, -, rfl⟩ := turn_take hturn
        rfl
      have hwork : 7 * next.iterator.records.length + 6 * next.batch.length + 3 < 7 * s.iterator.records.length + 6 * s.batch.length + 3 := by
        obtain ⟨_, _, _, _, hrecords, -, -, -, -, -, rfl⟩ := turn_take hturn
        simp only [hrecords, List.length_append, List.length_cons, List.length_nil]
        omega
      refine ⟨_, ?_, fun _ => hwork⟩
      simp only
      rw [← hsequence]
      exact .serving late it next yielded hserved hnext
    | fail e => exact ⟨1, h.report hserved late (.inr ⟨e, hturn, rfl⟩), fun _ => by omega⟩
    | complete => exact ⟨1, h.report hserved late (.inl ⟨hturn, rfl⟩), fun _ => by omega⟩
  | sent => cases hstep
  | yielding => cases hstep
  | continued late it s yielded hserved h hturn =>
    obtain rfl := Option.some.inj hstep
    have hcontinues : continues s (.unitContinue call.permit.identity s.sequence : ParentFrame P) = true := by
      simp [continues, h.identity]
    rw [hcontinues, if_pos rfl]
    exact ⟨_, .serving late it s.flushed (yielded ++ s.batch) hserved (h.flush hturn), fun _ => by simp [Serving.flushed]⟩
  | reported => cases hstep
  | ended pipe hyields hending hquiet =>
    obtain ⟨hparent, hyielded, hlate⟩ := stepChild_parent hstep
    have hl : pipe.late = true := by
      by_contra hl
      obtain ⟨hchild, hempty⟩ := hquiet (by simpa using hl)
      simp [UnitPipe.stepChild, hchild, hempty] at hstep
    refine ⟨0, .ended pipe' (by rw [hyielded]; exact hyields) (by rw [hyielded, hlate, hparent]; exact hending) ?_, ?_⟩
    · rw [hlate, hl]
      simp
    · rw [hl]
      simp

theorem Stage.expire (h : Stage json planner call work pipe) (hlate : pipe.late = true) :
    Stage json planner call 0 { pipe with parent := .raised .timeout } :=
  .ended _ h.yields (.timeout hlate) (by simp [hlate])

theorem Stage.wait (h : Stage json planner call work pipe) (hparent : pipe.parent = .waiting) (hempty : pipe.toParent = [])
    (hstep : pipe.stepParent json call = some pipe') : ∃ work', Stage json planner call work' pipe' ∧ (pipe.late = false → work' < work) := by
  have hwait : pipe.stepParent json call = if pipe.late then some { pipe with parent := .raised .timeout } else none := by
    unfold UnitPipe.stepParent
    rw [hparent, hempty]
  rw [hwait] at hstep
  split at hstep
  next hlate =>
    cases hstep
    exact ⟨0, h.expire hlate, by simp [hlate]⟩
  next => cases hstep

theorem Stage.parent (h : Stage json planner call work pipe) (hstep : pipe.stepParent json call = some pipe') :
    ∃ work', Stage json planner call work' pipe' ∧ (pipe.late = false → work' < work) := by
  cases h with
  | start late =>
    obtain rfl := Option.some.inj hstep
    rw [if_neg (Int.not_le.mpr call.timeout_pos)]
    cases late with
    | true => exact ⟨0, (Stage.start true).expire rfl, by simp⟩
    | false => exact ⟨_, .asked false, fun _ => by omega⟩
  | asked late => exact (Stage.asked late).wait rfl rfl hstep
  | serving late it s yielded hserved h => exact (Stage.serving late it s yielded hserved h).wait rfl rfl hstep
  | sent late it s yielded hserved h hturn =>
    obtain rfl := Option.some.inj hstep
    cases late with
    | true => exact ⟨0, .ended _ (h.yields_all hserved) (.timeout rfl) (by simp [UnitPipe.onTime]), by simp⟩
    | false =>
      have hbatch := (turn_flush hturn).1
      have hpos := List.length_pos_of_ne_nil hbatch
      have hnext := Stage.yielding false it s yielded [] s.batch hserved h hturn rfl
      rw [List.append_nil] at hnext
      refine ⟨7 * s.iterator.records.length + s.batch.length + 5, ?_, fun _ => by omega⟩
      simpa only [UnitPipe.onTime, UnitPipe.receive, h.readFrame_batch hbatch, Bool.false_eq_true, if_false] using hnext
  | yielding late it s yielded given rest hserved h hturn hbatch =>
    cases rest with
    | cons record rest =>
      obtain rfl := Option.some.inj hstep
      have hnext := Stage.yielding late it s yielded (given ++ [record]) rest hserved h hturn (by rw [hbatch]; simp)
      rw [← List.append_assoc] at hnext
      exact ⟨_, hnext, fun _ => by simp⟩
    | nil =>
      obtain rfl := Option.some.inj hstep
      rw [List.append_nil] at hbatch
      subst hbatch
      cases late with
      | true => exact ⟨0, .ended _ (h.yields_batch hserved hturn List.prefix_rfl) (.timeout rfl) (by simp [UnitPipe.onTime]), by simp⟩
      | false =>
        have hnext := Stage.continued false it s yielded hserved h hturn
        rw [List.length_append] at hnext
        exact ⟨_, hnext, fun _ => by simp⟩
  | continued late it s yielded hserved h hturn => exact (Stage.continued late it s yielded hserved h hturn).wait rfl rfl hstep
  | reported late sequence yielded frame mode hread hyields hending =>
    obtain rfl := Option.some.inj hstep
    cases late with
    | true => exact ⟨0, .ended _ hyields (.timeout rfl) (by simp [UnitPipe.onTime]), by simp⟩
    | false =>
      refine ⟨0, ?_, fun _ => by omega⟩
      simp only [UnitPipe.onTime, Bool.false_eq_true, if_false]
      rw [hread _ rfl rfl]
      exact .ended _ hyields hending fun _ => ⟨rfl, rfl⟩
  | ended pipe hyields hending hquiet =>
    cases hending' : pipe.parent with
    | start =>
      rw [hending'] at hending
      cases hending
    | waiting =>
      rw [hending'] at hending
      cases hending
    | yielding records =>
      rw [hending'] at hending
      cases hending
    | returned => simp [UnitPipe.stepParent, hending'] at hstep
    | raised e => simp [UnitPipe.stepParent, hending'] at hstep

end QuantX.NativeUnitIpc
