import QuantX.Lib.Run
import QuantX.TTrade.CandidateOutcome
import Mathlib.Data.Rat.Cast.Defs

namespace QuantX
open Lib CandidateOutcomeState

section Totals
variable {fills fills' : List FillFingerprint} {facts : FillFingerprint}

def totalVolume (fills : List FillFingerprint) : Nat := (fills.map (·.volume)).sum

def totalAmount (fills : List FillFingerprint) : Rat := (fills.map fun facts => facts.price * (facts.volume : Rat)).sum

def totalFee (fills : List FillFingerprint) : Option Rat :=
  if ∀ facts ∈ fills, facts.fee.isSome then some (fills.map fun facts => facts.fee.getD 0).sum else none

def latestTime (fills : List FillFingerprint) : Option Int :=
  fills.foldl (fun last facts => some (max (last.getD facts.sourceTimeMs) facts.sourceTimeMs)) none

@[simp] theorem totalVolume_concat : totalVolume (fills ++ [facts]) = totalVolume fills + facts.volume := by simp [totalVolume]

@[simp] theorem totalAmount_concat : totalAmount (fills ++ [facts]) = totalAmount fills + facts.price * facts.volume := by simp [totalAmount]

theorem totalFee_known (h : ∀ facts ∈ fills, facts.fee.isSome) : totalFee fills = some (fills.map fun facts => facts.fee.getD 0).sum :=
  if_pos h

theorem totalFee_unknown (h : ∃ facts ∈ fills, facts.fee = none) : totalFee fills = none := by
  obtain ⟨facts, hmem, hfee⟩ := h
  exact if_neg fun hall => by simpa [hfee] using hall facts hmem

@[simp] theorem totalFee_concat : totalFee (fills ++ [facts]) = accumulateFee (totalFee fills) facts.fee := by
  by_cases hknown : ∀ facts ∈ fills, facts.fee.isSome
  · cases hfee : facts.fee with
    | none =>
      rw [totalFee_unknown ⟨facts, by simp, hfee⟩, totalFee_known hknown]
      rfl
    | some fee =>
      have hall : ∀ other ∈ fills ++ [facts], other.fee.isSome := by
        intro other hmem
        rcases List.mem_append.mp hmem with hmem | hmem
        · exact hknown other hmem
        · cases List.mem_singleton.mp hmem
          simp [hfee]
      rw [totalFee_known hall, totalFee_known hknown]
      simp [accumulateFee, hfee]
  · push Not at hknown
    obtain ⟨other, hmem, hfee⟩ := hknown
    have hnone : other.fee = none := by simpa using hfee
    rw [totalFee_unknown ⟨other, List.mem_append_left _ hmem, hnone⟩, totalFee_unknown ⟨other, hmem, hnone⟩]
    rfl

@[simp] theorem latestTime_concat :
    latestTime (fills ++ [facts]) = some (max ((latestTime fills).getD facts.sourceTimeMs) facts.sourceTimeMs) := by
  rw [latestTime, List.foldl_append]
  rfl

theorem totalVolume_perm (h : fills.Perm fills') : totalVolume fills = totalVolume fills' := (h.map _).sum_eq

theorem totalAmount_perm (h : fills.Perm fills') : totalAmount fills = totalAmount fills' := (h.map _).sum_eq

theorem totalFee_perm (h : fills.Perm fills') : totalFee fills = totalFee fills' := by
  unfold totalFee
  rw [(h.map _).sum_eq]
  simp only [h.mem_iff]

theorem latestTime_perm (h : fills.Perm fills') : latestTime fills = latestTime fills' := by
  refine h.foldl_eq' (fun facts _ other _ last => ?_) none
  cases last with
  | none => simp [max_comm]
  | some last => simp [max_right_comm]

theorem totalVolume_le (h : fills.Subperm fills') : totalVolume fills ≤ totalVolume fills' := by
  obtain ⟨middle, hperm, hsub⟩ := h
  rw [← totalVolume_perm hperm]
  exact (hsub.map (·.volume)).sum_le_sum fun _ _ => Nat.zero_le _

theorem mem_totalVolume (h : facts ∈ fills) : facts.volume ≤ totalVolume fills :=
  List.single_le_sum (fun _ _ => Nat.zero_le _) _ (List.mem_map_of_mem h)

end Totals

variable {s : CandidateOutcomeState} {fill : CandidateExecutionFill}

namespace CandidateExecutionOutcome
variable {execution : CandidateExecutionOutcome}

def applied (execution : CandidateExecutionOutcome) (role : CandidateFillRole) : List FillFingerprint :=
  (execution.appliedFillFingerprints.entries.filter (·.2.role = role)).map Prod.snd

theorem applied_recordFill (hnew : execution.appliedFillFingerprints.get? fill.fillId = none)
    (role : CandidateFillRole) :
    (execution.recordFill fill).applied role =
      if fill.role = role then execution.applied role ++ [fill.toFillFingerprint] else execution.applied role := by
  rw [applied, recordFill, Dict.entries_set_new hnew, List.filter_append]
  split <;> simp_all [applied]

theorem mem_applied {facts : FillFingerprint} {fillId : String}
    (h : execution.appliedFillFingerprints.get? fillId = some facts) : facts ∈ execution.applied facts.role :=
  List.mem_map.mpr ⟨(fillId, facts), List.mem_filter.mpr ⟨Dict.mem_entries.mpr h, by simp⟩, rfl⟩

end CandidateExecutionOutcome

def armedWindow (definition : CandidateOutcomeDefinition) (execution : CandidateExecutionOutcome) (armedAtMs : Int) : CandidatePostFillOutcome where
  status := .observing
  armedAtMs := some armedAtMs
  referencePrice := some (execution.entryAmount / execution.entryVolume)
  referenceAmount := some execution.entryAmount
  referenceVolume := some execution.entryVolume
  highPrice := some (execution.entryAmount / execution.entryVolume)
  lowPrice := some (execution.entryAmount / execution.entryVolume)
  lastSourceTimeMs := some armedAtMs
  horizons := definition.horizonsSeconds.map fun horizon => { horizonSeconds := horizon, deadlineMs := armedAtMs + horizon * 1000 }

theorem armedWindow_invalidateNet (definition : CandidateOutcomeDefinition) (execution : CandidateExecutionOutcome) (armedAtMs : Int) :
    (armedWindow definition execution armedAtMs).invalidateNet = armedWindow definition execution armedAtMs := by
  simp [CandidatePostFillOutcome.invalidateNet, armedWindow, CandidateHorizonOutcome.withoutNet]

def CandidateOutcomeState.armed (s : CandidateOutcomeState) (armedAtMs : Int) : CandidateOutcomeState :=
  { s with execution := { s.execution with entryFrozen := true }, postFill := armedWindow s.definition s.execution armedAtMs }

structure Ready (s : CandidateOutcomeState) (entryComplete : Bool) (armedAtMs : Int) : Prop where
  complete : entryComplete = true
  unfrozen : s.execution.entryFrozen = false
  target : ∃ target, s.execution.entryTargetVolume = some target ∧ target ≤ s.execution.entryVolume
  last : s.execution.lastEntryFillSourceTimeMs = some armedAtMs

theorem armPostFill_eq (hpos : 0 < s.execution.entryVolume) (hwaiting : s.postFill = {}) (armedAtMs : Int) :
    s.armPostFill armedAtMs = (s.armed armedAtMs, none) := by
  have hprice : s.execution.entryPrice = some (s.execution.entryAmount / s.execution.entryVolume) := if_neg (by omega)
  simp only [armPostFill, hprice, hwaiting]
  rfl

theorem armCompletedEntryIfReady_cases (hpos : 0 < s.execution.entryVolume) (hwaiting : s.execution.entryFrozen = false → s.postFill = {})
    (entryComplete : Bool) :
    (s.armCompletedEntryIfReady entryComplete = (s, none) ∧ ∀ armedAtMs, ¬ Ready s entryComplete armedAtMs) ∨
      ∃ armedAtMs, Ready s entryComplete armedAtMs ∧ s.armCompletedEntryIfReady entryComplete = (s.armed armedAtMs, none) := by
  rw [armCompletedEntryIfReady]
  split
  next target last htarget hlast =>
    split
    next h =>
      obtain ⟨hcomplete, hunfrozen, hle⟩ := h
      exact .inr ⟨last, ⟨hcomplete, hunfrozen, ⟨target, htarget, hle⟩, hlast⟩, armPostFill_eq hpos (hwaiting hunfrozen) last⟩
    next h =>
      refine .inl ⟨rfl, fun armedAtMs hready => h ⟨hready.complete, hready.unfrozen, ?_⟩⟩
      obtain ⟨other, hother, hle⟩ := hready.target
      cases htarget.symm.trans hother
      exact hle
  next hmissing =>
    refine .inl ⟨rfl, fun armedAtMs hready => ?_⟩
    obtain ⟨target, htarget, -⟩ := hready.target
    exact hmissing target armedAtMs htarget hready.last

def CandidateExecutionOutcome.retarget (execution : CandidateExecutionOutcome) (target : Option Nat) : CandidateExecutionOutcome :=
  { execution with entryTargetVolume := target.or execution.entryTargetVolume }

theorem mergeEntryTarget_eq {execution : CandidateExecutionOutcome} {target : Option Nat}
    (h : ∀ volume, target = some volume → ∀ old, execution.entryTargetVolume = some old → old = volume) :
    mergeEntryTarget execution target = .ok (execution.retarget target) := by
  cases target with
  | none => rfl
  | some volume =>
    have hall : execution.entryTargetVolume.all (· = volume) = true := by
      cases hold : execution.entryTargetVolume with
      | none => rfl
      | some old => simpa using h volume rfl old hold
    rw [mergeEntryTarget, if_pos hall]
    rfl

theorem mergeEntryTarget_ok {execution merged : CandidateExecutionOutcome} {target : Option Nat}
    (h : mergeEntryTarget execution target = .ok merged) : merged = execution.retarget target := by
  cases target with
  | none =>
    cases h
    rfl
  | some volume =>
    rw [mergeEntryTarget] at h
    split at h
    · cases h
      rfl
    · cases h

def CandidateExecutionOutcome.settled (execution : CandidateExecutionOutcome) : CandidateExecutionOutcome :=
  { execution with realizedNetPnl := if execution.closed then execution.realized else execution.realizedNetPnl }

section Settle

@[simp] theorem noteFee_execution : (s.noteFee fill).execution = s.execution := by
  rw [noteFee]
  split <;> rfl

@[simp] theorem noteFee_definition : (s.noteFee fill).definition = s.definition := by
  rw [noteFee]
  split <;> rfl

theorem noteFee_eq (hnet : s.postFill.invalidateNet = s.postFill) : s.noteFee fill = s := by
  rw [noteFee, hnet]
  split <;> rfl

@[simp] theorem refreshPostFillNet_execution : s.refreshPostFillNet.execution = s.execution := by
  rw [refreshPostFillNet]
  split
  · split <;> rfl
  · rfl

@[simp] theorem refreshPostFillNet_definition : s.refreshPostFillNet.definition = s.definition := by
  rw [refreshPostFillNet]
  split
  · split <;> rfl
  · rfl

theorem refreshPostFillNet_waiting (h : s.postFill = {}) : s.refreshPostFillNet.postFill = {} := by
  rw [refreshPostFillNet]
  split
  · split
    · rw [h]
      rfl
    · exact h
  · exact h

theorem endWindow_execution {sourceTimeMs : Int} : (s.endWindow sourceTimeMs).execution = s.execution := by
  rw [endWindow]
  split <;> rfl

theorem endWindow_definition {sourceTimeMs : Int} : (s.endWindow sourceTimeMs).definition = s.definition := by
  rw [endWindow]
  split <;> rfl

theorem endWindow_status {sourceTimeMs : Int} : (s.endWindow sourceTimeMs).postFill.status ≠ .observing := by
  rw [endWindow]
  split
  · simp [CandidatePostFillOutcome.makeUnavailable]
  · assumption

theorem settleFill_execution : (s.settleFill fill).execution = s.execution.settled := by
  rw [settleFill, CandidateExecutionOutcome.settled]
  by_cases hclosed : s.execution.closed = true
  · rw [if_pos hclosed, if_pos hclosed, endWindow_execution, realize, refreshPostFillNet_execution, noteFee_execution]
  · rw [if_neg hclosed, if_neg hclosed, noteFee_execution]

theorem settleFill_definition : (s.settleFill fill).definition = s.definition := by
  rw [settleFill]
  split
  · rw [endWindow_definition, realize, refreshPostFillNet_definition, noteFee_definition]
  · exact noteFee_definition

theorem settleFill_open (hopen : s.execution.closed = false) (hnet : s.postFill.invalidateNet = s.postFill) :
    s.settleFill fill = s := by
  rw [settleFill, if_neg (by simp [hopen]), noteFee_eq hnet]

theorem settleFill_waiting (h : s.postFill = {}) : (s.settleFill fill).postFill = {} := by
  have hnote : s.noteFee fill = s := noteFee_eq (by rw [h]; rfl)
  rw [settleFill, hnote]
  split
  · have hrealize : s.realize.postFill = {} := refreshPostFillNet_waiting h
    rw [endWindow, hrealize, if_neg (by decide)]
    exact hrealize
  · exact h

theorem settleFill_observing (h : (s.settleFill fill).postFill.status = .observing) : s.execution.closed = false := by
  rw [settleFill] at h
  split at h
  · exact absurd h endWindow_status
  · simpa using ‹¬ s.execution.closed = true›

end Settle

section Fills

theorem applyFill_repeatedEntry {merged : CandidateExecutionOutcome} (hids : fill.fillId ∈ s.execution.appliedFillIds)
    (hknown : s.execution.appliedFillFingerprints.get? fill.fillId = some fill.toFillFingerprint) (hrole : fill.role = .entry)
    (hmerge : mergeEntryTarget s.execution fill.entryTargetVolume = .ok merged) :
    s.applyFill fill = { s with execution := merged }.armCompletedEntryIfReady fill.entryComplete := by
  simp [applyFill, redeliver, hids, hknown, hrole, hmerge]

theorem applyFill_repeatedExit (hids : fill.fillId ∈ s.execution.appliedFillIds)
    (hknown : s.execution.appliedFillFingerprints.get? fill.fillId = some fill.toFillFingerprint) (hrole : fill.role = .exit) :
    s.applyFill fill = (s, none) := by
  simp [applyFill, redeliver, hids, hknown, hrole]

theorem applyFill_entry {merged next : CandidateExecutionOutcome} {armed : CandidateOutcomeState}
    (hids : fill.fillId ∉ s.execution.appliedFillIds) (hcausal : s.definition.sourceTimeMs < fill.sourceTimeMs) (hrole : fill.role = .entry)
    (hopen : s.execution.entryFrozen = false) (hmerge : mergeEntryTarget s.execution fill.entryTargetVolume = .ok merged)
    (hnext : (merged.recordFill fill).addEntry fill = next)
    (harm : { s with execution := next }.armCompletedEntryIfReady fill.entryComplete = (armed, none)) :
    s.applyFill fill = (armed.settleFill fill, none) := by
  subst hnext
  simp [applyFill, applyEntry, hids, Int.not_le.mpr hcausal, hrole, hopen, hmerge, harm]

theorem applyFill_exit (hids : fill.fillId ∉ s.execution.appliedFillIds) (hcausal : s.definition.sourceTimeMs < fill.sourceTimeMs)
    (hrole : fill.role = .exit) (hentered : 0 < s.execution.entryVolume) (hfits : s.execution.exitVolume + fill.volume ≤ s.execution.entryVolume) :
    s.applyFill fill = ({ s with execution := (s.execution.recordFill fill).addExit fill }.settleFill fill, none) := by
  simp [applyFill, applyExit, hids, Int.not_le.mpr hcausal, hrole, Nat.ne_of_gt hentered, Nat.not_lt.mpr hfits]

end Fills

end QuantX
