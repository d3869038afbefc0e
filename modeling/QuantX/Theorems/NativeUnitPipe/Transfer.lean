import QuantX.Theorems.NativeUnitPipe.Stages
import QuantX.Lib.Run

namespace QuantX.NativeUnitIpc
open Lib

variable {R P : Type} {json : NativeJson R} {planner : UnitPlanner P} {call : UnitCall R P} {it : NativeIterator R}
  {pipe : UnitPipe R P} {e : NativeException} {log : List (Moment (UnitPipe R P) PipeOp)}
variable {pipe' : UnitPipe R P}

/-- Runs of the two sides and the deadline. Only steps that can be taken are taken. -/
abbrev PipeRun (json : NativeJson R) (planner : UnitPlanner P) (call : UnitCall R P) :
    List (Moment (UnitPipe R P) PipeOp) → UnitPipe R P → Prop :=
  Run (fun pipe => pipe = {}) (fun pipe op => (pipe.step? json planner call op).getD pipe)
    fun _ pipe op => (pipe.step? json planner call op).isSome

def UnitPipe.Ended (pipe : UnitPipe R P) : Prop := pipe.parent = .returned ∨ ∃ e, pipe.parent = .raised e

/-! ### Runs -/

/-- The stage of a run. While the deadline has not passed, every step counts. -/
structure Staged (json : NativeJson R) (planner : UnitPlanner P) (call : UnitCall R P) (log : List (Moment (UnitPipe R P) PipeOp))
    (pipe : UnitPipe R P) : Prop where
  stage : ∃ work, Stage json planner call work pipe ∧ (pipe.late = false → log.length + work ≤ 7 * recordCount planner call + 5)
  late : pipe.late = true ↔ ∃ m ∈ log, m.op = .deadline

theorem stepParent_late (hstep : pipe.stepParent json call = some pipe') : pipe'.late = pipe.late := by
  have honTime : ∀ next : UnitPipe R P, next.late = pipe.late → (pipe.onTime next).late = pipe.late := by
    intro next hnext
    unfold UnitPipe.onTime
    split
    · rfl
    · exact hnext
  unfold UnitPipe.stepParent at hstep
  split at hstep
  next =>
    cases hstep
    split
    · rfl
    · exact honTime _ rfl
  next =>
    cases hstep
    refine honTime _ ?_
    unfold UnitPipe.receive
    split <;> rfl
  next =>
    split at hstep
    · cases hstep
      rfl
    · cases hstep
  next =>
    cases hstep
    rfl
  next =>
    cases hstep
    exact honTime _ rfl
  next => cases hstep
  next => cases hstep

theorem Staged.side {op : PipeOp} (h : Staged json planner call log pipe) (hop : op ≠ .deadline)
    (hlate : pipe'.late = pipe.late)
    (hstage : ∀ work, Stage json planner call work pipe → ∃ work', Stage json planner call work' pipe' ∧ (pipe.late = false → work' < work)) :
    Staged json planner call (⟨pipe, op, pipe'⟩ :: log) pipe' := by
  obtain ⟨work, hwork, hbound⟩ := h.stage
  obtain ⟨work', hwork', hless⟩ := hstage work hwork
  refine ⟨⟨work', hwork', fun hl => ?_⟩, ?_⟩
  · rw [hlate] at hl
    have hnow := hbound hl
    have hdone := hless hl
    rw [List.length_cons]
    omega
  · rw [hlate, h.late, List.exists_mem_cons_iff]
    exact ⟨.inr, fun hnew => hnew.resolve_left hop⟩

theorem PipeRun.staged (hjson : Normalises json) (hrun : PipeRun json planner call log pipe) : Staged json planner call log pipe := by
  refine hrun.invariant (Staged json planner call) ?_ ?_
  · rintro pipe rfl
    exact ⟨⟨_, .start false, fun _ => by simp⟩, by simp⟩
  · intro log pipe op ih hop
    obtain ⟨pipe', hstep⟩ := Option.isSome_iff_exists.mp hop
    rw [hstep, Option.getD_some]
    cases op with
    | child => exact ih.side (by simp) (stepChild_parent hstep).2.2 fun work h => h.child hjson hstep
    | parent => exact ih.side (by simp) (stepParent_late hstep) fun work h => h.parent hstep
    | deadline =>
      unfold UnitPipe.step? at hstep
      simp only at hstep
      split at hstep
      next => cases hstep
      next =>
        cases hstep
        obtain ⟨work, hwork, -⟩ := ih.stage
        exact ⟨⟨work, hwork.deadline, by simp⟩, by simp⟩

theorem Stage.progress {work : Nat} (h : Stage json planner call work pipe) :
    pipe.Ended ∨ ∃ op, op ≠ .deadline ∧ (pipe.step? json planner call op).isSome := by
  cases h with
  | start => exact .inr ⟨.parent, by simp, rfl⟩
  | asked => exact .inr ⟨.child, by simp, rfl⟩
  | serving => exact .inr ⟨.child, by simp, rfl⟩
  | sent => exact .inr ⟨.parent, by simp, rfl⟩
  | yielding late it s yielded given rest =>
    cases rest with
    | nil => exact .inr ⟨.parent, by simp, rfl⟩
    | cons record rest => exact .inr ⟨.parent, by simp, rfl⟩
  | continued => exact .inr ⟨.child, by simp, rfl⟩
  | reported => exact .inr ⟨.parent, by simp, rfl⟩
  | ended pipe hyields hending =>
    left
    cases hmode : pipe.parent with
    | returned => exact .inl hmode
    | raised e => exact .inr ⟨e, hmode⟩
    | start =>
      rw [hmode] at hending
      cases hending
    | waiting =>
      rw [hmode] at hending
      cases hending
    | yielding records =>
      rw [hmode] at hending
      cases hending

theorem Stage.ending {work : Nat} (h : Stage json planner call work pipe) (hended : pipe.Ended) :
    Ending json planner call pipe.yielded pipe.late pipe.parent := by
  cases h with
  | ended pipe hyields hending => exact hending
  | _ => rcases hended with hmode | ⟨e, hmode⟩ <;> cases hmode

theorem breaks_eq_none {ending : Option NativeException} {records : List R} {count : Nat} (h : breaks json ending records count = none) :
    ending = none ∧ (∀ record ∈ records, ∃ raw, encoded json record = .ok raw ∧ raw.length ≤ maxUnitBatchBytes) ∧
      (records = [] ∨ count + records.length ≤ maxMarketDataRecords) := by
  induction records generalizing count with
  | nil =>
    rw [breaks, Option.map_eq_none_iff] at h
    exact ⟨h, by simp, .inl rfl⟩
  | cons record rest ih =>
    rw [breaks] at h
    cases hraw : encoded json record with
    | error e => simp [hraw] at h
    | ok raw =>
      simp only [hraw] at h
      split at h
      next => cases h
      next hfits =>
        rw [not_or, Nat.not_lt, Nat.not_lt] at hfits
        cases hvalue : json.loads raw with
        | error e => simp [hvalue] at h
        | ok value =>
          simp only [hvalue] at h
          obtain ⟨hending, hall, hcount⟩ := ih h
          refine ⟨hending, ?_, .inr ?_⟩
          · rw [List.forall_mem_cons]
            exact ⟨⟨raw, hraw, hfits.1⟩, hall⟩
          · rcases hcount with rfl | hcount
            · exact hfits.2
            · rw [List.length_cons]
              omega

theorem outcome_eq_none (h : outcome json it = none) : breaks json it.ending it.records 0 = none ∧ it.closing = none := by
  unfold outcome at h
  split at h
  next => cases h
  next hbreaks => exact ⟨hbreaks, h⟩

/-- What a run has transferred. A record breaks that is no mapping with an encoding, too long or one too many; the
    iterator breaks after its last record where it fails. -/
structure Transferred (json : NativeJson R) (planner : UnitPlanner P) (call : UnitCall R P) (log : List (Moment (UnitPipe R P) PipeOp))
    (pipe : UnitPipe R P) : Prop where
  taken : ∀ it, served planner call = .ok it → ∃ records, records <+: it.records ∧ List.Forall₂ (Normal json) records pipe.yielded
  refused : ∀ text, served planner call = .error text → pipe.yielded = []
  whole : pipe.parent = .returned → ∃ it, served planner call = .ok it ∧ it.ending = none ∧ it.closing = none ∧
    List.Forall₂ (Normal json) it.records pipe.yielded ∧ it.records.length ≤ maxMarketDataRecords ∧
    ∀ record ∈ it.records, ∃ raw, encoded json record = .ok raw ∧ raw.length ≤ maxUnitBatchBytes
  broken : ∀ it count e, served planner call = .ok it → breaks json it.ending it.records 0 = some (count, e) →
    pipe.parent ≠ .returned ∧ pipe.yielded <+: (batches json it.ending it.records [] 0 0).flatten ∧
      (batches json it.ending it.records [] 0 0).flatten.length ≤ count
  raised : ∀ e, pipe.parent = .raised e → (e = .timeout ∧ ∃ m ∈ log, m.op = .deadline) ∨
    (∃ it cause, served planner call = .ok it ∧ outcome json it = some cause ∧ e = .failure cause.reasonCode) ∨
    ∃ text, served planner call = .error text ∧ e = .invalid "native unit IPC response identity mismatch"
  goesOn : pipe.Ended ∨ ∃ op, op ≠ .deadline ∧ (pipe.step? json planner call op).isSome
  bounded : (∀ m ∈ log, m.op ≠ .deadline) → log.length ≤ 7 * recordCount planner call + 5

/-- Every run transfers the broker's records in order and tells how the child ended, and without the deadline it soon
    does. -/
theorem unit_transferred (hjson : Normalises json) (hrun : PipeRun json planner call log pipe) : Transferred json planner call log pipe := by
  have hstaged := hrun.staged hjson
  obtain ⟨work, hstage, hbound⟩ := hstaged.stage
  obtain ⟨hrefused, htaken, hbatches⟩ := hstage.yields
  have hreturned : pipe.parent = .returned → ∃ it, served planner call = .ok it ∧ outcome json it = none ∧
      List.Forall₂ (Normal json) it.records pipe.yielded := by
    intro hmode
    have hending := hstage.ending (.inl hmode)
    rw [hmode] at hending
    cases hending with
    | returned it hserved houtcome hall => exact ⟨it, hserved, houtcome, hall⟩
  refine ⟨htaken, hrefused, fun hmode => ?_, fun it count e hserved hbreaks => ⟨fun hmode => ?_, hbatches it hserved, ?_⟩, fun e hmode => ?_,
    hstage.progress, fun hnone => ?_⟩
  · obtain ⟨it, hserved, houtcome, hall⟩ := hreturned hmode
    obtain ⟨hbreaks, hclosing⟩ := outcome_eq_none houtcome
    obtain ⟨hending, hrecords, hcount⟩ := breaks_eq_none hbreaks
    refine ⟨it, hserved, hending, hclosing, hall, ?_, hrecords⟩
    rcases hcount with hempty | hcount
    · simp [hempty]
    · omega
  · obtain ⟨it', hserved', houtcome, -⟩ := hreturned hmode
    obtain rfl := Except.ok.inj (hserved.symm.trans hserved')
    rw [(outcome_eq_none houtcome).1] at hbreaks
    cases hbreaks
  · have hlength := @batches_length _ _ _ it.ending it.records [] 0 0 count hbreaks
    simpa using hlength
  · have hending := hstage.ending (.inr ⟨e, hmode⟩)
    rw [hmode] at hending
    cases hending with
    | failure it cause hserved houtcome => exact .inr (.inl ⟨it, cause, hserved, houtcome, rfl⟩)
    | refused text hserved => exact .inr (.inr ⟨text, hserved, rfl⟩)
    | timeout hlate => exact .inl ⟨rfl, hstaged.late.mp hlate⟩
  · have hlate : pipe.late = false := by
      rw [← Bool.not_eq_true, hstaged.late]
      rintro ⟨m, hm, hop⟩
      exact hnone m hm hop
    have hsteps := hbound hlate
    omega

/-! ### A unit of one record -/

def takeSteps (json : NativeJson R) (planner : UnitPlanner P) (call : UnitCall R P) (ops : List PipeOp) (pipe : UnitPipe R P) :
    Option (UnitPipe R P) :=
  ops.foldlM (UnitPipe.step? json planner call) pipe

theorem PipeRun.of_steps {ops : List PipeOp} (hrun : PipeRun json planner call log pipe)
    (hsteps : takeSteps json planner call ops pipe = some pipe') :
    ∃ log', PipeRun json planner call log' pipe' ∧ log'.map Moment.op = ops.reverse ++ log.map Moment.op := by
  induction ops generalizing log pipe with
  | nil =>
    cases hsteps
    exact ⟨log, hrun, rfl⟩
  | cons op ops ih =>
    obtain ⟨next, hnext, hrest⟩ := Option.bind_eq_some_iff.mp hsteps
    have hstep := Run.step hrun op (Option.isSome_iff_exists.mpr ⟨next, hnext⟩)
    rw [hnext, Option.getD_some] at hstep
    obtain ⟨log', hlog', hops⟩ := ih hstep hrest
    exact ⟨log', hlog', by simp [hops]⟩

def oneRecord : PyVal := .dict [("close", .int 11)]

def oneRecordText : Bytes := "\x7b\"close\":11\x7d".toUTF8.data.toList

def oneRecordJson : NativeJson PyVal where
  isDict := PyVal.isDict
  dumps v := if v = oneRecord then .ok oneRecordText else .error .value
  loads raw := if raw = oneRecordText then .ok oneRecord else .error .value

theorem oneRecordJson_normalises : Normalises oneRecordJson := by
  intro record raw h
  unfold encoded at h
  split at h
  next =>
    simp only [oneRecordJson] at h
    split at h
    next hrecord =>
      cases h
      exact ⟨oneRecord, oneRecordText, by simp [oneRecordJson], by simp [encoded, oneRecordJson, oneRecord, PyVal.isDict], rfl⟩
    next => cases h
  next => cases h

theorem oneRecordPermit_epoch : (0 : Int) < 1 := by omega

theorem oneRecordPermit_validity : (0 : Int) < 30000000 := by omega

theorem oneRecordPermit_bounded : (30000000 : Int) - 0 ≤ 30000000 := by omega

def oneRecordPermit : CollectionPermit where
  permitId := "2f1c9b6e-7f0a-4a53-8a45-0c5b4f6d9e01"
  deviceId := "9d3a5c1e-5b7e-4f6a-9c2d-1e8f7a6b5c02"
  ownerEpoch := 1
  unit :=
    { requestId := "5b0e2f4c-3d1a-4c55-9d50-0d8f6c1b7a11", unitIndex := 0
      payloadSha256 := "aaaaaaaaaaaaaaaaaaaaaaaaaaaaaaaaaaaaaaaaaaaaaaaaaaaaaaaaaaaaaaaa" }
  issuedAt := 0
  expiresAt := 30000000
  epoch_pos := oneRecordPermit_epoch
  validity_pos := oneRecordPermit_validity
  validity_bounded := oneRecordPermit_bounded

def oneUnitPlanner : UnitPlanner String where
  validateRequest _ := .ok ()
  planHistoricalWorkUnits payload := .ok [payload]
  fromPayload requestId unitIndex _ := .ok
    { requestId, unitIndex, payloadSha256 := "aaaaaaaaaaaaaaaaaaaaaaaaaaaaaaaaaaaaaaaaaaaaaaaaaaaaaaaaaaaaaaaa" }

theorem oneRecordTimeout_pos : (0 : Int) < 900 := by omega

def oneRecordCall (childNow : Int) : UnitCall PyVal String where
  permit := oneRecordPermit
  payload := "bars"
  timeout := 900
  childNow := childNow
  iterMarketData _ := ⟨[oneRecord], none, none⟩
  timeout_pos := oneRecordTimeout_pos

/-- A record is transferred. -/
theorem unit_transferred_record : ∃ log pipe, pipe.parent = .returned ∧ pipe.yielded = [oneRecord] ∧
    Transferred oneRecordJson oneUnitPlanner (oneRecordCall 5) log pipe := by
  obtain ⟨pipe, hpipe, hparent, hyielded⟩ : ∃ pipe, takeSteps oneRecordJson oneUnitPlanner (oneRecordCall 5)
      [.parent, .child, .child, .child, .parent, .parent, .parent, .child, .child, .parent] {} = some pipe ∧
      pipe.parent = .returned ∧ pipe.yielded = [oneRecord] := ⟨_, rfl, rfl, rfl⟩
  obtain ⟨log, hrun, -⟩ := PipeRun.of_steps (.start rfl) hpipe
  exact ⟨log, pipe, hparent, hyielded, unit_transferred oneRecordJson_normalises hrun⟩

def Reported (json : NativeJson R) (planner : UnitPlanner P) (call : UnitCall R P) (e : ParentError) : Prop :=
  (∃ it cause, served planner call = .ok it ∧ outcome json it = some cause ∧ e = .failure cause.reasonCode) ∨
    ∃ text, served planner call = .error text ∧ e = .invalid text

/-- Without a deadline a permit that expires before the child takes the call ends in another exception than the child's. -/
theorem expired_unreported : ¬∀ log pipe, PipeRun oneRecordJson oneUnitPlanner (oneRecordCall 30000000) log pipe →
    (∀ m ∈ log, m.op ≠ .deadline) → ∀ e, pipe.parent = .raised e → Reported oneRecordJson oneUnitPlanner (oneRecordCall 30000000) e := by
  intro h
  obtain ⟨pipe, hpipe, hparent⟩ : ∃ pipe, takeSteps oneRecordJson oneUnitPlanner (oneRecordCall 30000000) [.parent, .child, .parent] {} =
      some pipe ∧ pipe.parent = .raised (.invalid "native unit IPC response identity mismatch") := ⟨_, rfl, rfl⟩
  obtain ⟨log, hrun, hops⟩ := PipeRun.of_steps (.start rfl) hpipe
  have hpunctual : ∀ m ∈ log, m.op ≠ .deadline := by
    intro m hm hop
    have hmem := @List.mem_map_of_mem _ _ _ _ Moment.op hm
    rw [hops, hop] at hmem
    simp at hmem
  have hserved : served oneUnitPlanner (oneRecordCall 30000000) = .error "native unit authorization expired before child entry" := rfl
  rcases h log pipe hrun hpunctual _ hparent with ⟨it, cause, hit, -⟩ | ⟨text, htext, he⟩
  · rw [hserved] at hit
    cases hit
  · rw [hserved] at htext
    cases htext
    simp at he

end QuantX.NativeUnitIpc
