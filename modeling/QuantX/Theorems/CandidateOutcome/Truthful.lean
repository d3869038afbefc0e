import QuantX.Theorems.CandidateOutcome.Steps

namespace QuantX
open Lib CandidateOutcomeState

variable {s : CandidateOutcomeState} {fill : CandidateExecutionFill}
variable {entryComplete : Bool}

structure Sums (execution : CandidateExecutionOutcome) : Prop where
  ids : execution.appliedFillIds = execution.appliedFillFingerprints.keys
  entryVolume : execution.entryVolume = totalVolume (execution.applied .entry)
  entryAmount : execution.entryAmount = totalAmount (execution.applied .entry)
  entryFee : execution.entryFee = totalFee (execution.applied .entry)
  last : execution.lastEntryFillSourceTimeMs = latestTime (execution.applied .entry)
  exitVolume : execution.exitVolume = totalVolume (execution.applied .exit)
  exitAmount : execution.exitAmount = totalAmount (execution.applied .exit)
  exitFee : execution.exitFee = totalFee (execution.applied .exit)
  within : execution.exitVolume ≤ execution.entryVolume
  realized : execution.realizedNetPnl = if execution.closed then execution.realized else none

namespace Sums
variable {execution : CandidateExecutionOutcome}

theorem empty : Sums {} := by constructor <;> rfl

theorem retarget (h : Sums execution) (target : Option Nat) : Sums (execution.retarget target) := { h with }

theorem freeze (h : Sums execution) : Sums { execution with entryFrozen := true } := { h with }

theorem known_iff (h : Sums execution) :
    fill.fillId ∈ execution.appliedFillIds ↔ ∃ facts, execution.appliedFillFingerprints.get? fill.fillId = some facts := by
  rw [h.ids, Dict.keys]
  constructor
  · intro hmem
    obtain ⟨⟨fillId, facts⟩, hentry, rfl⟩ := List.mem_map.mp hmem
    exact ⟨facts, Dict.mem_entries.mp hentry⟩
  · rintro ⟨facts, hfacts⟩
    exact List.mem_map.mpr ⟨_, Dict.mem_entries.mpr hfacts, rfl⟩

theorem new_of (h : Sums execution) (hnew : execution.appliedFillFingerprints.get? fill.fillId = none) :
    fill.fillId ∉ execution.appliedFillIds := by
  rw [h.known_iff]
  rintro ⟨facts, hfacts⟩
  cases hnew.symm.trans hfacts

theorem ids_recordFill (h : Sums execution) (hnew : execution.appliedFillFingerprints.get? fill.fillId = none) :
    (execution.recordFill fill).appliedFillIds = (execution.recordFill fill).appliedFillFingerprints.keys := by
  simp [CandidateExecutionOutcome.recordFill, Dict.keys, Dict.entries_set_new hnew, h.ids]

theorem entered_pos (h : Sums execution) {fillId : String} {facts : FillFingerprint} (hpos : 0 < facts.volume) (hrole : facts.role = .entry)
    (hknown : execution.appliedFillFingerprints.get? fillId = some facts) : 0 < execution.entryVolume := by
  have hmem := CandidateExecutionOutcome.mem_applied hknown
  rw [hrole] at hmem
  rw [h.entryVolume]
  exact lt_of_lt_of_le hpos (mem_totalVolume hmem)

theorem entered_at (h : Sums execution) (hpos : 0 < execution.entryVolume) :
    ∃ armedAtMs, execution.lastEntryFillSourceTimeMs = some armedAtMs := by
  rw [h.last]
  rw [h.entryVolume] at hpos
  rcases List.eq_nil_or_concat (execution.applied .entry) with hnil | ⟨front, facts, hconcat⟩
  · rw [hnil] at hpos
    cases hpos
  · rw [hconcat, List.concat_eq_append, latestTime_concat]
    exact ⟨_, rfl⟩

theorem addEntry (h : Sums execution) (hnew : execution.appliedFillFingerprints.get? fill.fillId = none) (hrole : fill.role = .entry)
    (hexit : execution.exitVolume = 0) : Sums ((execution.recordFill fill).addEntry fill) := by
  have hentry : (execution.recordFill fill).applied .entry = execution.applied .entry ++ [fill.toFillFingerprint] := by
    rw [CandidateExecutionOutcome.applied_recordFill hnew, if_pos hrole]
  have hexits : (execution.recordFill fill).applied .exit = execution.applied .exit := by
    rw [CandidateExecutionOutcome.applied_recordFill hnew, if_neg (by simp [hrole])]
  have hopen : execution.closed = false := by simp [CandidateExecutionOutcome.closed, hexit]; omega
  have hstill : ((execution.recordFill fill).addEntry fill).closed = false := by
    simp [CandidateExecutionOutcome.closed, CandidateExecutionOutcome.addEntry, CandidateExecutionOutcome.recordFill, hexit]
    have := fill.volume_pos
    omega
  constructor
  · exact h.ids_recordFill hnew
  · exact (congrArg (· + fill.volume) h.entryVolume).trans (by rw [← totalVolume_concat, ← hentry]; rfl)
  · exact (congrArg (· + fill.price * fill.volume) h.entryAmount).trans (by rw [← totalAmount_concat, ← hentry]; rfl)
  · exact (congrArg (accumulateFee · fill.fee) h.entryFee).trans (by rw [← totalFee_concat, ← hentry]; rfl)
  · exact (congrArg (fun last : Option Int => some (max (last.getD fill.sourceTimeMs) fill.sourceTimeMs)) h.last).trans
      (by rw [← latestTime_concat, ← hentry]; rfl)
  · exact h.exitVolume.trans (congrArg totalVolume hexits.symm)
  · exact h.exitAmount.trans (congrArg totalAmount hexits.symm)
  · exact h.exitFee.trans (congrArg totalFee hexits.symm)
  · exact Nat.le_add_right_of_le h.within
  · rw [if_neg (by simp [hstill])]
    have hnone := h.realized
    rw [if_neg (by simp [hopen])] at hnone
    exact hnone

theorem addExit (h : Sums execution) (hnew : execution.appliedFillFingerprints.get? fill.fillId = none) (hrole : fill.role = .exit)
    (hfits : execution.exitVolume + fill.volume ≤ execution.entryVolume) : Sums ((execution.recordFill fill).addExit fill).settled := by
  have hexit : (execution.recordFill fill).applied .exit = execution.applied .exit ++ [fill.toFillFingerprint] := by
    rw [CandidateExecutionOutcome.applied_recordFill hnew, if_pos hrole]
  have hentries : (execution.recordFill fill).applied .entry = execution.applied .entry := by
    rw [CandidateExecutionOutcome.applied_recordFill hnew, if_neg (by simp [hrole])]
  have hopen : execution.closed = false := by
    have := fill.volume_pos
    simp [CandidateExecutionOutcome.closed]
    omega
  constructor
  · exact h.ids_recordFill hnew
  · exact h.entryVolume.trans (congrArg totalVolume hentries.symm)
  · exact h.entryAmount.trans (congrArg totalAmount hentries.symm)
  · exact h.entryFee.trans (congrArg totalFee hentries.symm)
  · exact h.last.trans (congrArg latestTime hentries.symm)
  · exact (congrArg (· + fill.volume) h.exitVolume).trans (by rw [← totalVolume_concat, ← hexit]; rfl)
  · exact (congrArg (· + fill.price * fill.volume) h.exitAmount).trans (by rw [← totalAmount_concat, ← hexit]; rfl)
  · exact (congrArg (accumulateFee · fill.fee) h.exitFee).trans (by rw [← totalFee_concat, ← hexit]; rfl)
  · exact hfits
  · have hnone := h.realized
    rw [if_neg (by simp [hopen])] at hnone
    have hbefore : ((execution.recordFill fill).addExit fill).realizedNetPnl = none := hnone
    rw [CandidateExecutionOutcome.settled, hbefore]
    rfl

end Sums

/-! ## Steps -/

def Arms (s : CandidateOutcomeState) (entryComplete : Bool) (after : CandidateOutcomeState) : Prop :=
  (after = s ∧ ∀ armedAtMs, ¬ Ready s entryComplete armedAtMs) ∨ ∃ armedAtMs, Ready s entryComplete armedAtMs ∧ after = s.armed armedAtMs

def CandidateOutcomeState.entered (s : CandidateOutcomeState) (fill : CandidateExecutionFill) : CandidateOutcomeState :=
  { s with execution := ((s.execution.retarget fill.entryTargetVolume).recordFill fill).addEntry fill }

def CandidateOutcomeState.exited (s : CandidateOutcomeState) (fill : CandidateExecutionFill) : CandidateOutcomeState :=
  { s with execution := (s.execution.recordFill fill).addExit fill }

inductive Applied (s : CandidateOutcomeState) (fill : CandidateExecutionFill) : CandidateOutcomeState × Option String → Prop
  | rejected (message : String) : Applied s fill (s, some message)
  | repeatedEntry {after : CandidateOutcomeState} (hrole : fill.role = .entry)
      (hknown : s.execution.appliedFillFingerprints.get? fill.fillId = some fill.toFillFingerprint)
      (harm : Arms { s with execution := s.execution.retarget fill.entryTargetVolume } fill.entryComplete after) : Applied s fill (after, none)
  | repeatedExit (hrole : fill.role = .exit)
      (hknown : s.execution.appliedFillFingerprints.get? fill.fillId = some fill.toFillFingerprint) : Applied s fill (s, none)
  | entry {after : CandidateOutcomeState} (hrole : fill.role = .entry) (hnew : s.execution.appliedFillFingerprints.get? fill.fillId = none)
      (hopen : s.execution.entryFrozen = false) (harm : Arms (s.entered fill) fill.entryComplete after) : Applied s fill (after.settleFill fill, none)
  | exit (hrole : fill.role = .exit) (hnew : s.execution.appliedFillFingerprints.get? fill.fillId = none)
      (hfits : s.execution.exitVolume + fill.volume ≤ s.execution.entryVolume) : Applied s fill ((s.exited fill).settleFill fill, none)

structure OutcomeKept (s : CandidateOutcomeState) : Prop extends Sums s.execution where
  waiting : s.execution.entryFrozen = false → s.postFill = {}
  armed : s.execution.entryFrozen = true → s.execution.exitVolume < s.execution.entryVolume →
    ∃ armedAtMs, s.execution.lastEntryFillSourceTimeMs = some armedAtMs ∧ s.postFill = armedWindow s.definition s.execution armedAtMs

theorem arms (hpos : 0 < s.execution.entryVolume) (hwaiting : s.execution.entryFrozen = false → s.postFill = {}) (entryComplete : Bool) :
    ∃ after, Arms s entryComplete after ∧ s.armCompletedEntryIfReady entryComplete = (after, none) := by
  rcases armCompletedEntryIfReady_cases hpos hwaiting entryComplete with ⟨heq, hno⟩ | ⟨armedAtMs, hready, heq⟩
  · exact ⟨s, .inl ⟨rfl, hno⟩, heq⟩
  · exact ⟨_, .inr ⟨armedAtMs, hready, rfl⟩, heq⟩

namespace OutcomeKept

theorem applied (h : OutcomeKept s) (fill : CandidateExecutionFill) : Applied s fill (s.applyFill fill) := by
  rw [applyFill]
  split
  next hids =>
    rw [redeliver]
    split
    next => exact .rejected _
    next hsame =>
      have hknown : s.execution.appliedFillFingerprints.get? fill.fillId = some fill.toFillFingerprint := by simpa using hsame
      split
      next hrole =>
        cases hmerge : mergeEntryTarget s.execution fill.entryTargetVolume with
        | error message => exact .rejected message
        | ok merged =>
          cases mergeEntryTarget_ok hmerge
          obtain ⟨after, harm, heq⟩ := arms (s := { s with execution := s.execution.retarget fill.entryTargetVolume })
            (h.entered_pos fill.volume_pos hrole hknown) h.waiting fill.entryComplete
          simp only [heq]
          exact .repeatedEntry hrole hknown harm
      next hrole =>
        refine .repeatedExit ?_ hknown
        cases hfill : fill.role with
        | entry => exact absurd hfill hrole
        | exit => rfl
  next hids =>
    have hnew : s.execution.appliedFillFingerprints.get? fill.fillId = none := by
      refine Option.eq_none_iff_forall_ne_some.mpr fun facts hfacts => hids ?_
      simpa using h.known_iff.mpr ⟨facts, hfacts⟩
    split
    next => exact .rejected _
    next =>
      cases hrole : fill.role with
      | entry =>
        simp only [applyEntry]
        split
        next => exact .rejected _
        next hopen =>
          cases hmerge : mergeEntryTarget s.execution fill.entryTargetVolume with
          | error message => exact .rejected message
          | ok merged =>
            cases mergeEntryTarget_ok hmerge
            obtain ⟨after, harm, heq⟩ := arms (s := s.entered fill) (Nat.add_pos_right _ fill.volume_pos) h.waiting fill.entryComplete
            have heq' : ({ s with execution := ((s.execution.retarget fill.entryTargetVolume).recordFill fill).addEntry fill } :
              CandidateOutcomeState).armCompletedEntryIfReady fill.entryComplete = (after, none) := heq
            simp only [heq']
            exact .entry hrole hnew (by simpa using hopen) harm
      | exit =>
        simp only [applyExit]
        split
        next => exact .rejected _
        next =>
          split
          next => exact .rejected _
          next hfits => exact .exit hrole hnew (by omega)

theorem net (h : OutcomeKept s) (hopen : s.execution.exitVolume < s.execution.entryVolume) : s.postFill.invalidateNet = s.postFill := by
  cases hfrozen : s.execution.entryFrozen with
  | false =>
    rw [h.waiting hfrozen]
    rfl
  | true =>
    obtain ⟨armedAtMs, -, hwindow⟩ := h.armed hfrozen hopen
    rw [hwindow]
    exact armedWindow_invalidateNet _ _ _

theorem arm (h : OutcomeKept s) {entryComplete : Bool} {after : CandidateOutcomeState} (harm : Arms s entryComplete after) : OutcomeKept after := by
  rcases harm with ⟨rfl, -⟩ | ⟨armedAtMs, hready, rfl⟩
  · exact h
  · exact { h.toSums.freeze with
      waiting := fun hfalse => absurd hfalse (by simp [CandidateOutcomeState.armed])
      armed := fun _ _ => ⟨armedAtMs, hready.last, rfl⟩ }

theorem retarget (h : OutcomeKept s) (target : Option Nat) : OutcomeKept { s with execution := s.execution.retarget target } :=
  { h.toSums.retarget target with waiting := h.waiting, armed := h.armed }

theorem entered (h : OutcomeKept s) (hnew : s.execution.appliedFillFingerprints.get? fill.fillId = none) (hrole : fill.role = .entry)
    (hopen : s.execution.entryFrozen = false) (hexit : s.execution.exitVolume = 0) : OutcomeKept (s.entered fill) :=
  { (h.toSums.retarget fill.entryTargetVolume).addEntry hnew hrole hexit with
    waiting := h.waiting, armed := fun hfrozen => absurd (hopen.symm.trans hfrozen) (by decide) }

theorem exited (h : OutcomeKept s) (hnew : s.execution.appliedFillFingerprints.get? fill.fillId = none) (hrole : fill.role = .exit)
    (hfits : s.execution.exitVolume + fill.volume ≤ s.execution.entryVolume) : OutcomeKept ((s.exited fill).settleFill fill) := by
  have hsettled : ((s.exited fill).settleFill fill).execution = ((s.execution.recordFill fill).addExit fill).settled := settleFill_execution
  have hsums := h.toSums.addExit hnew hrole hfits
  have hpos := fill.volume_pos
  refine { toSums := by rwa [hsettled], waiting := fun hfrozen => ?_, armed := fun hfrozen hopen => ?_ }
  · rw [hsettled] at hfrozen
    exact settleFill_waiting (h.waiting hfrozen)
  · rw [hsettled] at hfrozen hopen
    have hbefore : s.execution.exitVolume < s.execution.entryVolume := by omega
    have hclosed : (s.exited fill).execution.closed = false := by
      have hless : (s.exited fill).execution.exitVolume < (s.exited fill).execution.entryVolume := hopen
      simp [CandidateExecutionOutcome.closed]
      omega
    rw [settleFill_open hclosed (h.net hbefore)]
    exact h.armed hfrozen hbefore

theorem settle_entry (h : OutcomeKept s) (hpos : 0 < s.execution.entryVolume) (hexit : s.execution.exitVolume = 0) : s.settleFill fill = s := by
  have hless : s.execution.exitVolume < s.execution.entryVolume := by omega
  refine settleFill_open ?_ (h.net hless)
  simp [CandidateExecutionOutcome.closed]
  omega

end OutcomeKept

theorem Arms.volumes {after : CandidateOutcomeState} (h : Arms s entryComplete after) :
    after.execution.entryVolume = s.execution.entryVolume ∧ after.execution.exitVolume = s.execution.exitVolume := by
  rcases h with ⟨rfl, -⟩ | ⟨armedAtMs, -, rfl⟩
  · exact ⟨rfl, rfl⟩
  · exact ⟨rfl, rfl⟩

theorem Arms.facts {after : CandidateOutcomeState} (h : Arms s entryComplete after) :
    after.execution.appliedFillFingerprints = s.execution.appliedFillFingerprints := by
  rcases h with ⟨rfl, -⟩ | ⟨armedAtMs, -, rfl⟩
  · rfl
  · rfl

theorem Arms.definition {after : CandidateOutcomeState} (h : Arms s entryComplete after) :
    after.definition = s.definition := by
  rcases h with ⟨rfl, -⟩ | ⟨armedAtMs, -, rfl⟩
  · rfl
  · rfl

def EntryFirst (s : CandidateOutcomeState) (fill : CandidateExecutionFill) : Prop :=
  fill.role = .entry → s.execution.appliedFillFingerprints.get? fill.fillId = none → s.execution.exitVolume = 0

theorem settle_entered (h : OutcomeKept s) {after : CandidateOutcomeState} (hrole : fill.role = .entry)
    (hnew : s.execution.appliedFillFingerprints.get? fill.fillId = none) (hopen : s.execution.entryFrozen = false)
    (hfirst : EntryFirst s fill) (harm : Arms (s.entered fill) fill.entryComplete after) : after.settleFill fill = after := by
  have hexit := hfirst hrole hnew
  obtain ⟨hentry, hexit'⟩ := harm.volumes
  refine ((h.entered hnew hrole hopen hexit).arm harm).settle_entry ?_ ?_
  · rw [hentry]
    exact Nat.add_pos_right _ fill.volume_pos
  · rw [hexit']
    exact hexit

theorem OutcomeKept.apply (h : OutcomeKept s) (hfirst : EntryFirst s fill) : OutcomeKept (s.applyFill fill).1 := by
  rcases happlied : s.applyFill fill with ⟨after, error⟩
  have hcases := h.applied fill
  rw [happlied] at hcases
  cases hcases with
  | rejected => exact h
  | repeatedEntry hrole hknown harm => exact (h.retarget _).arm harm
  | repeatedExit => exact h
  | entry hrole hnew hopen harm =>
    simp only [settle_entered h hrole hnew hopen hfirst harm]
    exact (h.entered hnew hrole hopen (hfirst hrole hnew)).arm harm
  | exit hrole hnew hfits => exact h.exited hnew hrole hfits

theorem get?_apply (h : OutcomeKept s) (fillId : String) :
    (s.applyFill fill).1.execution.appliedFillFingerprints.get? fillId =
      if (s.applyFill fill).2 = none ∧ fill.fillId = fillId then some fill.toFillFingerprint else s.execution.appliedFillFingerprints.get? fillId := by
  rcases happlied : s.applyFill fill with ⟨after, error⟩
  have hcases := h.applied fill
  rw [happlied] at hcases
  have hknown : s.execution.appliedFillFingerprints.get? fill.fillId = some fill.toFillFingerprint →
      s.execution.appliedFillFingerprints.get? fillId =
        if fill.fillId = fillId then some fill.toFillFingerprint else s.execution.appliedFillFingerprints.get? fillId := by
    intro hsome
    split
    next heq => rw [← heq, hsome]
    next => rfl
  cases hcases with
  | rejected => simp
  | repeatedEntry hrole hsome harm =>
    simp only [true_and, harm.facts]
    exact hknown hsome
  | repeatedExit hrole hsome =>
    simp only [true_and]
    exact hknown hsome
  | entry hrole hnew hopen harm =>
    simp only [true_and, settleFill_execution]
    rw [← Dict.get?_set]
    exact congrArg (Dict.get? · fillId) harm.facts
  | exit hrole hnew hfits =>
    simp only [true_and, settleFill_execution]
    rw [← Dict.get?_set]
    rfl

theorem facts_accepted (h : OutcomeKept s) (haccepted : (s.applyFill fill).2 = none) {facts : FillFingerprint}
    (hknown : s.execution.appliedFillFingerprints.get? fill.fillId = some facts) : facts = fill.toFillFingerprint := by
  rcases happlied : s.applyFill fill with ⟨after, error⟩
  have hcases := h.applied fill
  rw [happlied] at hcases haccepted
  cases hcases with
  | rejected => cases haccepted
  | repeatedEntry hrole hsome => exact Option.some.inj (hknown.symm.trans hsome)
  | repeatedExit hrole hsome => exact Option.some.inj (hknown.symm.trans hsome)
  | entry hrole hnew => cases hknown.symm.trans hnew
  | exit hrole hnew => cases hknown.symm.trans hnew

theorem applyFill_rejected (h : OutcomeKept s) (hrejected : (s.applyFill fill).2 ≠ none) : (s.applyFill fill).1 = s := by
  rcases happlied : s.applyFill fill with ⟨after, error⟩
  have hcases := h.applied fill
  rw [happlied] at hcases hrejected
  cases hcases with
  | rejected => rfl
  | repeatedEntry => exact absurd rfl hrejected
  | repeatedExit => exact absurd rfl hrejected
  | entry => exact absurd rfl hrejected
  | exit => exact absurd rfl hrejected

/-! ## Runs -/

abbrev FillRun (definition : CandidateOutcomeDefinition) (legal : List (Moment CandidateOutcomeState CandidateExecutionFill) →
    CandidateOutcomeState → CandidateExecutionFill → Prop) (log : List (Moment CandidateOutcomeState CandidateExecutionFill))
    (s : CandidateOutcomeState) : Prop :=
  Run (· = startCandidateOutcome definition) (fun s fill => (s.applyFill fill).1) legal log s

def AcceptedFill (m : Moment CandidateOutcomeState CandidateExecutionFill) : Prop := (m.before.applyFill m.op).2 = none

structure OutcomeTruthful (log : List (Moment CandidateOutcomeState CandidateExecutionFill)) (s : CandidateOutcomeState) : Prop where
  /-- The facts of a fill are kept once, and are those that its accepted deliveries told. -/
  ids : s.execution.appliedFillIds = s.execution.appliedFillFingerprints.keys
  once : ∀ fillId facts, s.execution.appliedFillFingerprints.get? fillId = some facts ↔
    ∃ m ∈ log, AcceptedFill m ∧ m.op.fillId = fillId ∧ m.op.toFillFingerprint = facts
  entry : s.execution.entryVolume = totalVolume (s.execution.applied .entry) ∧ s.execution.entryAmount = totalAmount (s.execution.applied .entry) ∧
    s.execution.entryFee = totalFee (s.execution.applied .entry)
  exit : s.execution.exitVolume = totalVolume (s.execution.applied .exit) ∧ s.execution.exitAmount = totalAmount (s.execution.applied .exit) ∧
    s.execution.exitFee = totalFee (s.execution.applied .exit)
  /-- A rejected fill leaves the state. -/
  rejected : ∀ m ∈ log, ¬ AcceptedFill m → m.after = m.before
  /-- What is realized is the result of an execution that is closed, all of whose fees are known. -/
  realized : ∀ pnl, s.execution.realizedNetPnl = some pnl ↔ s.execution.entryVolume = s.execution.exitVolume ∧ 0 < s.execution.exitVolume ∧
    ∃ entryFee exitFee, s.execution.entryFee = some entryFee ∧ s.execution.exitFee = some exitFee ∧
      pnl = s.execution.exitAmount - s.execution.entryAmount - (entryFee + exitFee)

theorem Sums.realized_iff {execution : CandidateExecutionOutcome} (h : Sums execution) (pnl : Rat) :
    execution.realizedNetPnl = some pnl ↔ execution.entryVolume = execution.exitVolume ∧ 0 < execution.exitVolume ∧
      ∃ entryFee exitFee, execution.entryFee = some entryFee ∧ execution.exitFee = some exitFee ∧
        pnl = execution.exitAmount - execution.entryAmount - (entryFee + exitFee) := by
  have hwithin := h.within
  rw [h.realized]
  by_cases hclosed : execution.closed = true
  · have heq : execution.entryVolume = execution.exitVolume ∧ 0 < execution.exitVolume := by
      simp [CandidateExecutionOutcome.closed] at hclosed
      omega
    rw [if_pos hclosed, CandidateExecutionOutcome.realized, if_neg (by omega)]
    cases execution.entryFee with
    | none => simp
    | some entryFee =>
      cases execution.exitFee with
      | none => simp
      | some exitFee => simp [heq, sub_sub, add_assoc, eq_comm]
  · rw [if_neg hclosed]
    refine ⟨fun hpnl => absurd hpnl (by simp), ?_⟩
    rintro ⟨heq, hpos, -⟩
    exfalso
    have hpositive : 0 < execution.entryVolume := by omega
    exact hclosed (by simp [CandidateExecutionOutcome.closed, hpositive, heq.le])

theorem start_kept (definition : CandidateOutcomeDefinition) : OutcomeKept (startCandidateOutcome definition) :=
  { Sums.empty with waiting := fun _ => rfl, armed := fun hfrozen => by cases hfrozen }

/-- Whatever fills a candidate gets, its entries before its exits, its outcome is that of its fills. -/
theorem outcomeTruthful {definition : CandidateOutcomeDefinition} {log : List (Moment CandidateOutcomeState CandidateExecutionFill)}
    (h : FillRun definition (fun _ => EntryFirst) log s) : OutcomeTruthful log s := by
  have hkept : ∀ {log s}, FillRun definition (fun _ => EntryFirst) log s → OutcomeKept s := fun h =>
    h.invariant (fun _ s => OutcomeKept s) (by rintro _ rfl; exact start_kept definition) fun _ _ _ hkept hfirst => hkept.apply hfirst
  refine ⟨(hkept h).ids, ?_, ⟨(hkept h).entryVolume, (hkept h).entryAmount, (hkept h).entryFee⟩,
    ⟨(hkept h).exitVolume, (hkept h).exitAmount, (hkept h).exitFee⟩,
    h.moments fun _ _ _ hrun _ => applyFill_rejected (hkept hrun), (hkept h).realized_iff⟩
  intro fillId facts
  induction h with
  | start hs =>
    cases hs
    simp [startCandidateOutcome]
  | @step log s hrun fill hfirst ih =>
    rw [get?_apply (hkept hrun)]
    by_cases haccepted : (s.applyFill fill).2 = none ∧ fill.fillId = fillId
    · rw [if_pos haccepted]
      constructor
      · rintro ⟨⟩
        exact ⟨_, List.mem_cons_self .., haccepted.1, haccepted.2, rfl⟩
      · rintro ⟨m, hmem, hm, hid, rfl⟩
        rcases List.mem_cons.mp hmem with rfl | hmem
        · rfl
        · have hknown := ih.mpr ⟨m, hmem, hm, hid, rfl⟩
          rw [← haccepted.2] at hknown
          exact congrArg some (facts_accepted (hkept hrun) haccepted.1 hknown).symm
    · rw [if_neg haccepted, ih]
      constructor
      · rintro ⟨m, hmem, hm⟩
        exact ⟨m, List.mem_cons_of_mem _ hmem, hm⟩
      · rintro ⟨m, hmem, hm, hid, rfl⟩
        rcases List.mem_cons.mp hmem with rfl | hmem
        · exact absurd ⟨hm, hid⟩ haccepted
        · exact ⟨m, hmem, hm, hid, rfl⟩

end QuantX
