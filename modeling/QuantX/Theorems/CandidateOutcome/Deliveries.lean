import QuantX.Theorems.CandidateOutcome.Truthful
import Mathlib.Data.List.Perm.Subperm

/-! # Deliveries of the fills of a candidate

The fills arrive in any order, entries before exits, each as often as it is told again. -/

namespace QuantX
open Lib CandidateOutcomeState

variable {definition : CandidateOutcomeDefinition} {log : List (Moment CandidateOutcomeState CandidateExecutionFill)}
  {s : CandidateOutcomeState} {fill : CandidateExecutionFill}

/-- The fills of a candidate, the target that its entry is told to have, and whether its entry is completed. -/
structure CandidateFills (definition : CandidateOutcomeDefinition) where
  entries : List CandidateExecutionFill
  exits : List CandidateExecutionFill
  target : Option Nat
  completes : Bool
  entry_role : ∀ fill ∈ entries, fill.role = .entry
  exit_role : ∀ fill ∈ exits, fill.role = .exit
  distinct : ((entries ++ exits).map (·.fillId)).Nodup
  causal : ∀ fill ∈ entries ++ exits, definition.sourceTimeMs < fill.sourceTimeMs
  target_pos : ∀ volume, target = some volume → 0 < volume

def CandidateExecutionFill.Tells (delivery fill : CandidateExecutionFill) : Prop :=
  delivery.fillId = fill.fillId ∧ delivery.toFillFingerprint = fill.toFillFingerprint

def Delivered (log : List (Moment CandidateOutcomeState CandidateExecutionFill)) (fill : CandidateExecutionFill) : Prop :=
  ∃ m ∈ log, m.op.fillId = fill.fillId

structure SameOutcome (s s' : CandidateOutcomeState) : Prop where
  definition : s.definition = s'.definition
  ids : s.execution.appliedFillIds.Perm s'.execution.appliedFillIds
  facts : ∀ fillId, s.execution.appliedFillFingerprints.get? fillId = s'.execution.appliedFillFingerprints.get? fillId
  execution : { s.execution with appliedFillIds := [], appliedFillFingerprints := .empty } =
    { s'.execution with appliedFillIds := [], appliedFillFingerprints := .empty }
  postFill : s.postFill = s'.postFill

namespace CandidateFills
variable (p : CandidateFills definition)

structure Delivers (log : List (Moment CandidateOutcomeState CandidateExecutionFill)) (delivery : CandidateExecutionFill) : Prop where
  known : ∃ fill ∈ p.entries ++ p.exits, delivery.Tells fill
  entriesFirst : delivery.role = .exit → ∀ fill ∈ p.entries, Delivered log fill
  target : delivery.role = .entry → ∀ volume, delivery.entryTargetVolume = some volume → p.target = some volume
  completing : delivery.role = .entry → delivery.entryComplete = true →
    p.completes = true ∧ ∀ fill ∈ p.entries, delivery.fillId = fill.fillId ∨ Delivered log fill

abbrev Run (log : List (Moment CandidateOutcomeState CandidateExecutionFill)) (s : CandidateOutcomeState) : Prop :=
  FillRun definition (fun log _ delivery => p.Delivers log delivery) log s

structure Arrived (log : List (Moment CandidateOutcomeState CandidateExecutionFill)) : Prop where
  all : ∀ fill ∈ p.entries ++ p.exits, Delivered log fill
  target : ∀ volume, p.target = some volume → ∃ m ∈ log, m.op.role = .entry ∧ m.op.entryTargetVolume = some volume
  completed : p.completes = true → ∃ m ∈ log, m.op.role = .entry ∧ m.op.entryComplete = true ∧ m.op.entryTargetVolume = p.target

def OrderFree : Prop := ∀ log s log' s', p.Run log s → p.Arrived log → p.Run log' s' → p.Arrived log' → SameOutcome s s'

def entered : Nat := totalVolume (p.entries.map (·.toFillFingerprint))

def fitting : List CandidateExecutionFill := p.exits.filter (·.volume ≤ p.entered)

def exited : Nat := totalVolume (p.fitting.map (·.toFillFingerprint))

def Settles : Prop :=
  p.exited ≤ p.entered ∧ (p.completes = true → ∀ volume, p.target = some volume → volume ≤ p.entered → p.exited < p.entered)

variable {p}

theorem eq_of_id {fill other : CandidateExecutionFill} (hfill : fill ∈ p.entries ++ p.exits) (hother : other ∈ p.entries ++ p.exits)
    (h : fill.fillId = other.fillId) : fill = other := List.inj_on_of_nodup_map p.distinct hfill hother h

theorem mem_entries {fill : CandidateExecutionFill} (h : fill ∈ p.entries ++ p.exits) (hrole : fill.role = .entry) : fill ∈ p.entries := by
  rcases List.mem_append.mp h with hmem | hmem
  · exact hmem
  · cases hrole.symm.trans (p.exit_role fill hmem)

theorem mem_exits {fill : CandidateExecutionFill} (h : fill ∈ p.entries ++ p.exits) (hrole : fill.role = .exit) : fill ∈ p.exits := by
  rcases List.mem_append.mp h with hmem | hmem
  · cases hrole.symm.trans (p.entry_role fill hmem)
  · exact hmem

theorem entries_distinct : (p.entries.map (·.fillId)).Nodup :=
  p.distinct.sublist ((List.sublist_append_left _ _).map _)

theorem fitting_distinct : (p.fitting.map (·.fillId)).Nodup :=
  p.distinct.sublist ((List.filter_sublist.trans (List.sublist_append_right _ _)).map _)

end CandidateFills

section Applied
variable {execution : CandidateExecutionOutcome} {fills : List CandidateExecutionFill} {role : CandidateFillRole}

private theorem facts_subperm {pairs pairs' : List (String × FillFingerprint)} (h : pairs.Subperm pairs') :
    (pairs.map Prod.snd).Subperm (pairs'.map Prod.snd) := by
  obtain ⟨middle, hperm, hsub⟩ := h
  exact ⟨middle.map Prod.snd, hperm.map _, hsub.map _⟩

private theorem applied_nodup : (execution.appliedFillFingerprints.entries.filter (·.2.role = role)).Nodup :=
  (execution.appliedFillFingerprints.nodup.of_map _).filter _

theorem applied_subperm (hmem : ∀ fillId facts, execution.appliedFillFingerprints.get? fillId = some facts → facts.role = role →
    ∃ fill ∈ fills, fill.fillId = fillId ∧ fill.toFillFingerprint = facts) :
    (execution.applied role).Subperm (fills.map (·.toFillFingerprint)) := by
  have hpairs : (execution.appliedFillFingerprints.entries.filter (·.2.role = role)).Subperm
      (fills.map fun fill => (fill.fillId, fill.toFillFingerprint)) := by
    refine List.subperm_of_subset applied_nodup ?_
    rintro ⟨fillId, facts⟩ hentry
    obtain ⟨hentry, hrole⟩ := List.mem_filter.mp hentry
    obtain ⟨fill, hfill, rfl, rfl⟩ := hmem fillId facts (Dict.mem_entries.mp hentry) (by simpa using hrole)
    exact List.mem_map.mpr ⟨fill, hfill, rfl⟩
  have hsnd := facts_subperm hpairs
  rwa [List.map_map] at hsnd

theorem applied_perm (hdistinct : (fills.map (·.fillId)).Nodup)
    (hmem : ∀ fillId facts, execution.appliedFillFingerprints.get? fillId = some facts → facts.role = role →
      ∃ fill ∈ fills, fill.fillId = fillId ∧ fill.toFillFingerprint = facts)
    (hall : ∀ fill ∈ fills, execution.appliedFillFingerprints.get? fill.fillId = some fill.toFillFingerprint ∧ fill.role = role) :
    (execution.applied role).Perm (fills.map (·.toFillFingerprint)) := by
  refine (applied_subperm hmem).antisymm ?_
  have hpairs : (fills.map fun fill => (fill.fillId, fill.toFillFingerprint)).Subperm
      (execution.appliedFillFingerprints.entries.filter (·.2.role = role)) := by
    refine List.subperm_of_subset ?_ ?_
    · refine List.Nodup.of_map Prod.fst ?_
      rwa [List.map_map]
    · intro pair hpair
      obtain ⟨fill, hfill, rfl⟩ := List.mem_map.mp hpair
      obtain ⟨hknown, hrole⟩ := hall fill hfill
      exact List.mem_filter.mpr ⟨Dict.mem_entries.mpr hknown, by simpa using hrole⟩
  have hsnd := facts_subperm hpairs
  rwa [List.map_map] at hsnd

end Applied

/-! ## Progress -/

structure Told (p : CandidateFills definition) (log : List (Moment CandidateOutcomeState CandidateExecutionFill))
    (execution : CandidateExecutionOutcome) : Prop where
  known : ∀ fillId facts, execution.appliedFillFingerprints.get? fillId = some facts → ∃ fill ∈ p.entries ++ p.exits,
    fill.fillId = fillId ∧ fill.toFillFingerprint = facts ∧ Delivered log fill ∧ (facts.role = .exit → facts.volume ≤ p.entered)
  entries : ∀ fill ∈ p.entries, Delivered log fill → execution.appliedFillFingerprints.get? fill.fillId = some fill.toFillFingerprint

namespace Told
variable {p : CandidateFills definition} {execution : CandidateExecutionOutcome}

theorem entry_fill (h : Told p log execution) (fillId : String) (facts : FillFingerprint)
    (hknown : execution.appliedFillFingerprints.get? fillId = some facts) (hrole : facts.role = .entry) :
    ∃ fill ∈ p.entries, fill.fillId = fillId ∧ fill.toFillFingerprint = facts := by
  obtain ⟨fill, hfill, hid, rfl, -⟩ := h.known fillId facts hknown
  exact ⟨fill, p.mem_entries hfill hrole, hid, rfl⟩

theorem exit_fill (h : Told p log execution) (fillId : String) (facts : FillFingerprint)
    (hknown : execution.appliedFillFingerprints.get? fillId = some facts) (hrole : facts.role = .exit) :
    ∃ fill ∈ p.fitting, fill.fillId = fillId ∧ fill.toFillFingerprint = facts := by
  obtain ⟨fill, hfill, hid, rfl, -, hfits⟩ := h.known fillId facts hknown
  exact ⟨fill, List.mem_filter.mpr ⟨p.mem_exits hfill hrole, by simpa using hfits hrole⟩, hid, rfl⟩

theorem entry_perm (h : Told p log execution) (hall : ∀ fill ∈ p.entries, Delivered log fill) :
    (execution.applied .entry).Perm (p.entries.map (·.toFillFingerprint)) :=
  applied_perm p.entries_distinct h.entry_fill fun fill hfill => ⟨h.entries fill hfill (hall fill hfill), p.entry_role fill hfill⟩

theorem entered (h : Told p log execution) (hsums : Sums execution) (hall : ∀ fill ∈ p.entries, Delivered log fill) :
    execution.entryVolume = p.entered := hsums.entryVolume.trans (totalVolume_perm (h.entry_perm hall))

theorem exited_le (h : Told p log execution) (hsums : Sums execution) : execution.exitVolume ≤ p.exited :=
  hsums.exitVolume.trans_le (totalVolume_le (applied_subperm h.exit_fill))

end Told

structure Progress (p : CandidateFills definition) (log : List (Moment CandidateOutcomeState CandidateExecutionFill))
    (s : CandidateOutcomeState) : Prop extends OutcomeKept s, Told p log s.execution where
  definition : s.definition = definition
  exits : p.exited ≤ p.entered → ∀ fill ∈ p.fitting, Delivered log fill →
    s.execution.appliedFillFingerprints.get? fill.fillId = some fill.toFillFingerprint
  targetTold : ∀ volume, s.execution.entryTargetVolume = some volume → p.target = some volume
  targetKept : ∀ m ∈ log, m.op.role = .entry → ∀ volume, m.op.entryTargetVolume = some volume → s.execution.entryTargetVolume = some volume
  frozenAfter : s.execution.entryFrozen = true → p.completes = true ∧ (∃ volume, p.target = some volume ∧ volume ≤ p.entered) ∧
    ∀ fill ∈ p.entries, Delivered log fill
  frozenBy : ∀ m ∈ log, m.op.role = .entry → m.op.entryComplete = true → ∀ volume, m.op.entryTargetVolume = some volume →
    volume ≤ p.entered → s.execution.entryFrozen = true
  exitsAfter : ∀ exit ∈ p.exits, Delivered log exit → ∀ fill ∈ p.entries, Delivered log fill

theorem delivered_cons {m : Moment CandidateOutcomeState CandidateExecutionFill} {fill : CandidateExecutionFill} :
    Delivered (m :: log) fill ↔ m.op.fillId = fill.fillId ∨ Delivered log fill := by simp [Delivered]

namespace Progress
variable {p : CandidateFills definition}

theorem start : Progress p [] (startCandidateOutcome definition) where
  toOutcomeKept := start_kept definition
  known := fun _ _ h => by cases h
  entries := fun _ _ h => by obtain ⟨m, hm, -⟩ := h; cases hm
  definition := rfl
  exits := fun _ _ _ h => by obtain ⟨m, hm, -⟩ := h; cases hm
  targetTold := fun _ h => by cases h
  targetKept := fun _ h => by cases h
  frozenAfter := fun h => by cases h
  frozenBy := fun _ h => by cases h
  exitsAfter := fun _ _ h => by obtain ⟨m, hm, -⟩ := h; cases hm

theorem exitVolume_zero (h : Progress p log s) {fill : CandidateExecutionFill} (hfill : fill ∈ p.entries) (hnew : ¬ Delivered log fill) :
    s.execution.exitVolume = 0 := by
  by_contra hexited
  have hsome : s.execution.applied .exit ≠ [] := by
    intro hnil
    rw [h.exitVolume, hnil] at hexited
    exact hexited rfl
  obtain ⟨facts, hfacts⟩ := List.exists_mem_of_ne_nil _ hsome
  obtain ⟨⟨fillId, facts'⟩, hentry, rfl⟩ := List.mem_map.mp hfacts
  obtain ⟨hentry, hrole⟩ := List.mem_filter.mp hentry
  have hrole : facts'.role = .exit := by simpa using hrole
  obtain ⟨exit, hexit, -, rfl, hdelivered, -⟩ := h.known fillId facts' (Dict.mem_entries.mp hentry)
  exact hnew (h.exitsAfter exit (p.mem_exits hexit hrole) hdelivered fill hfill)

theorem merges (h : Progress p log s) (hlegal : p.Delivers log fill) (hrole : fill.role = .entry) :
    mergeEntryTarget s.execution fill.entryTargetVolume = .ok (s.execution.retarget fill.entryTargetVolume) := by
  refine mergeEntryTarget_eq fun volume hvolume old hold => ?_
  exact Option.some.inj ((h.targetTold old hold).symm.trans (hlegal.target hrole volume hvolume))

structure Base (s : CandidateOutcomeState) (fill : CandidateExecutionFill) (base : CandidateOutcomeState) : Prop extends OutcomeKept base where
  definition : base.definition = s.definition
  facts : ∀ fillId, base.execution.appliedFillFingerprints.get? fillId =
    if fill.fillId = fillId then some fill.toFillFingerprint else s.execution.appliedFillFingerprints.get? fillId
  target : base.execution.entryTargetVolume = fill.entryTargetVolume.or s.execution.entryTargetVolume
  frozen : base.execution.entryFrozen = s.execution.entryFrozen

theorem entry_base (h : Progress p log s) (hlegal : p.Delivers log fill) (hrole : fill.role = .entry) :
    ∃ base after, Base s fill base ∧ Arms base fill.entryComplete after ∧ s.applyFill fill = (after, none) := by
  obtain ⟨entry, hentry, hid, hfacts⟩ := hlegal.known
  have hmem : entry ∈ p.entries := p.mem_entries hentry (by rw [← hrole, ← hfacts])
  cases hknown : s.execution.appliedFillFingerprints.get? fill.fillId with
  | some facts =>
    obtain ⟨other, hother, hsame, rfl, -⟩ := h.known _ _ hknown
    cases p.eq_of_id hother hentry (hsame.trans hid)
    rw [← hfacts] at hknown
    obtain ⟨after, harm, heq⟩ := arms (s := { s with execution := s.execution.retarget fill.entryTargetVolume })
      (h.entered_pos fill.volume_pos hrole hknown) h.waiting fill.entryComplete
    refine ⟨_, after, { h.toOutcomeKept.retarget fill.entryTargetVolume with
      definition := rfl, facts := fun fillId => ?_, target := rfl, frozen := rfl }, harm, ?_⟩
    · split
      next hsame => exact hsame ▸ hknown
      next => rfl
    · exact (applyFill_repeatedEntry (h.known_iff.mpr ⟨_, hknown⟩) hknown hrole (h.merges hlegal hrole)).trans heq
  | none =>
    have hnew : ¬ Delivered log entry := by
      intro hdelivered
      cases hknown.symm.trans (hid ▸ h.entries entry hmem hdelivered)
    have hopen : s.execution.entryFrozen = false := by
      by_contra hfrozen
      exact hnew ((h.frozenAfter (by simpa using hfrozen)).2.2 entry hmem)
    have hexit := h.exitVolume_zero hmem hnew
    have hkept := h.toOutcomeKept.entered hknown hrole hopen hexit
    obtain ⟨after, harm, heq⟩ := arms (s := s.entered fill) (Nat.add_pos_right _ fill.volume_pos) hkept.waiting fill.entryComplete
    have hcausal : s.definition.sourceTimeMs < fill.sourceTimeMs := by
      rw [h.definition, congrArg FillFingerprint.sourceTimeMs hfacts]
      exact p.causal entry hentry
    refine ⟨_, after, { hkept with definition := rfl, facts := fun fillId => Dict.get?_set _ _ _ _, target := rfl, frozen := rfl }, harm, ?_⟩
    rw [applyFill_entry (h.new_of hknown) hcausal hrole hopen (h.merges hlegal hrole) rfl heq]
    rw [settle_entered h.toOutcomeKept hrole hknown hopen (fun _ _ => hexit) harm]

theorem arms_execution {base after : CandidateOutcomeState} {entryComplete : Bool} (h : Arms base entryComplete after) :
    after.execution = { base.execution with entryFrozen := after.execution.entryFrozen } := by
  rcases h with ⟨rfl, -⟩ | ⟨armedAtMs, -, rfl⟩
  · rfl
  · rfl

theorem entry (h : Progress p log s) (hlegal : p.Delivers log fill) (hrole : fill.role = .entry) :
    Progress p (⟨s, fill, (s.applyFill fill).1⟩ :: log) (s.applyFill fill).1 := by
  obtain ⟨base, after, hbase, harm, heq⟩ := h.entry_base hlegal hrole
  obtain ⟨entry, hentry, hid, hfacts⟩ := hlegal.known
  have hmem : entry ∈ p.entries := p.mem_entries hentry (by rw [← hrole, ← hfacts])
  have hexecution := arms_execution harm
  have hget : ∀ fillId, after.execution.appliedFillFingerprints.get? fillId =
      if fill.fillId = fillId then some fill.toFillFingerprint else s.execution.appliedFillFingerprints.get? fillId := by
    rw [hexecution]
    exact hbase.facts
  have htarget : after.execution.entryTargetVolume = fill.entryTargetVolume.or s.execution.entryTargetVolume := by
    rw [hexecution]
    exact hbase.target
  have hmerged : ∀ volume, after.execution.entryTargetVolume = some volume → p.target = some volume := by
    intro volume hvolume
    rw [htarget, Option.or_eq_some_iff] at hvolume
    rcases hvolume with hvolume | ⟨-, hvolume⟩
    · exact hlegal.target hrole volume hvolume
    · exact h.targetTold volume hvolume
  have hkept : ∀ volume, s.execution.entryTargetVolume = some volume → after.execution.entryTargetVolume = some volume := by
    intro volume hvolume
    rw [htarget]
    cases hnew : fill.entryTargetVolume with
    | none => exact hvolume
    | some told => exact (hlegal.target hrole told hnew).symm.trans (h.targetTold volume hvolume)
  have hafter := hbase.toOutcomeKept.arm harm
  have htold : Told p (⟨s, fill, after⟩ :: log) after.execution := by
    refine ⟨fun fillId facts hknown => ?_, fun other hother hdelivered => ?_⟩
    · rw [hget] at hknown
      split at hknown
      next hsame =>
        cases hknown
        exact ⟨entry, hentry, hid.symm.trans hsame, hfacts.symm, delivered_cons.mpr (.inl hid), fun hexit => by cases hrole.symm.trans hexit⟩
      next =>
        obtain ⟨other, hother, hsame, heq, hdelivered, hfits⟩ := h.known fillId facts hknown
        exact ⟨other, hother, hsame, heq, delivered_cons.mpr (.inr hdelivered), hfits⟩
    · rw [hget]
      split
      next hsame =>
        cases p.eq_of_id hentry (List.mem_append_left _ hother) (hid.symm.trans hsame)
        rw [hfacts]
      next hne => exact h.entries other hother ((delivered_cons.mp hdelivered).resolve_left hne)
  have hwhole : fill.entryComplete = true → p.completes = true ∧ ∀ entry ∈ p.entries, Delivered (⟨s, fill, after⟩ :: log) entry := by
    intro hcomplete
    obtain ⟨hcompletes, hall⟩ := hlegal.completing hrole hcomplete
    exact ⟨hcompletes, fun entry hentry => delivered_cons.mpr (hall entry hentry)⟩
  have hfrozen : s.execution.entryFrozen = true → after.execution.entryFrozen = true := by
    intro hfrozen
    rcases harm with ⟨rfl, -⟩ | ⟨armedAtMs, -, rfl⟩
    · exact hbase.frozen.trans hfrozen
    · rfl
  rw [heq]
  refine { hafter, htold with
    definition := ?_, exits := fun hfit exit hexit hdelivered => ?_, targetTold := hmerged, targetKept := ?_,
    frozenAfter := fun hnow => ?_, frozenBy := ?_, exitsAfter := fun exit hexit hdelivered other hother => ?_ }
  · exact harm.definition.trans (hbase.definition.trans h.definition)
  · have hexits : exit ∈ p.exits := (List.mem_filter.mp hexit).1
    have hne : fill.fillId ≠ exit.fillId := by
      intro hsame
      cases p.eq_of_id hentry (List.mem_append_right _ hexits) (hid.symm.trans hsame)
      cases (p.entry_role entry hmem).symm.trans (p.exit_role entry hexits)
    rw [hget, if_neg hne]
    exact h.exits hfit exit hexit ((delivered_cons.mp hdelivered).resolve_left hne)
  · rintro m (_ | ⟨_, hm⟩) hmrole volume hvolume
    · rw [htarget]
      exact congrArg (Option.or · _) hvolume
    · exact hkept volume (h.targetKept m hm hmrole volume hvolume)
  · rcases harm with ⟨rfl, -⟩ | ⟨armedAtMs, hready, rfl⟩
    · obtain ⟨hcompletes, hreached, hall⟩ := h.frozenAfter (hbase.frozen.symm.trans hnow)
      exact ⟨hcompletes, hreached, fun entry hentry => delivered_cons.mpr (.inr (hall entry hentry))⟩
    · obtain ⟨hcompletes, hall⟩ := hwhole hready.complete
      obtain ⟨volume, hvolume, hle⟩ := hready.target
      have hentered := htold.entered hafter.toSums hall
      exact ⟨hcompletes, ⟨volume, hmerged volume hvolume, hle.trans_eq hentered⟩, hall⟩
  · rintro m (_ | ⟨_, hm⟩) hmrole hcomplete volume hvolume hle
    · obtain ⟨-, hall⟩ := hwhole hcomplete
      have hentered : base.execution.entryVolume = p.entered := by
        have hwhole := htold.entered hafter.toSums hall
        rwa [hexecution] at hwhole
      rcases harm with ⟨rfl, hno⟩ | ⟨armedAtMs, -, rfl⟩
      · by_contra hunfrozen
        have hpos : 0 < after.execution.entryVolume := by
          rw [hentered]
          exact (p.target_pos volume (hlegal.target hrole volume hvolume)).trans_le hle
        obtain ⟨armedAtMs, hlast⟩ := hafter.entered_at hpos
        refine hno armedAtMs ⟨hcomplete, by simpa using hunfrozen, ⟨volume, ?_, hle.trans_eq hentered.symm⟩, hlast⟩
        rw [htarget]
        exact congrArg (Option.or · _) hvolume
      · rfl
    · exact hfrozen (h.frozenBy m hm hmrole hcomplete volume hvolume hle)
  · rcases delivered_cons.mp hdelivered with hsame | hdelivered
    · cases p.eq_of_id hentry (List.mem_append_right _ hexit) (hid.symm.trans hsame)
      cases (p.entry_role entry hmem).symm.trans (p.exit_role entry hexit)
    · exact delivered_cons.mpr (.inr (h.exitsAfter exit hexit hdelivered other hother))

theorem exit_same (h : Progress p log s) (hlegal : p.Delivers log fill) (hrole : fill.role = .exit) (m : Moment CandidateOutcomeState CandidateExecutionFill)
    (hop : m.op = fill) (hfit : p.exited ≤ p.entered → fill.volume ≤ p.entered →
      s.execution.appliedFillFingerprints.get? fill.fillId = some fill.toFillFingerprint) : Progress p (m :: log) s := by
  obtain ⟨exit, hexit, hid, hfacts⟩ := hlegal.known
  have hmem : exit ∈ p.exits := p.mem_exits hexit (by rw [← hrole, ← hfacts])
  refine { h.toOutcomeKept with
    known := ?_, entries := ?_, definition := h.definition, exits := ?_, targetTold := h.targetTold, targetKept := ?_,
    frozenAfter := ?_, frozenBy := ?_, exitsAfter := ?_ }
  · intro fillId facts hknown
    obtain ⟨other, hother, hsame, heq, hdelivered, hfits⟩ := h.known fillId facts hknown
    exact ⟨other, hother, hsame, heq, delivered_cons.mpr (.inr hdelivered), hfits⟩
  · intro entry hentry hdelivered
    refine h.entries entry hentry ((delivered_cons.mp hdelivered).resolve_left fun hsame => ?_)
    rw [hop] at hsame
    cases p.eq_of_id hexit (List.mem_append_left _ hentry) (hid.symm.trans hsame)
    cases (p.entry_role exit hentry).symm.trans (p.exit_role exit hmem)
  · intro hfits other hother hdelivered
    obtain ⟨hexits, hvolume⟩ := List.mem_filter.mp hother
    rcases delivered_cons.mp hdelivered with hsame | hdelivered
    · rw [hop] at hsame
      cases p.eq_of_id hexit (List.mem_append_right _ hexits) (hid.symm.trans hsame)
      rw [← hsame, ← hfacts]
      refine hfit hfits ?_
      rw [congrArg FillFingerprint.volume hfacts]
      simpa using hvolume
    · exact h.exits hfits other hother hdelivered
  · rintro m' (_ | ⟨_, hm⟩) hmrole
    · rw [hop, hrole] at hmrole
      cases hmrole
    · exact h.targetKept m' hm hmrole
  · intro hfrozen
    obtain ⟨hcompletes, hreached, hall⟩ := h.frozenAfter hfrozen
    exact ⟨hcompletes, hreached, fun entry hentry => delivered_cons.mpr (.inr (hall entry hentry))⟩
  · rintro m' (_ | ⟨_, hm⟩) hmrole
    · rw [hop, hrole] at hmrole
      cases hmrole
    · exact h.frozenBy m' hm hmrole
  · intro other hother hdelivered entry hentry
    exact delivered_cons.mpr (.inr (hlegal.entriesFirst hrole entry hentry))

theorem exit_new (h : Progress p log s) (hlegal : p.Delivers log fill) (hrole : fill.role = .exit) (m : Moment CandidateOutcomeState CandidateExecutionFill)
    (hop : m.op = fill) (hnew : s.execution.appliedFillFingerprints.get? fill.fillId = none)
    (hfits : s.execution.exitVolume + fill.volume ≤ s.execution.entryVolume) : Progress p (m :: log) ((s.exited fill).settleFill fill) := by
  obtain ⟨exit, hexit, hid, hfacts⟩ := hlegal.known
  have hmem : exit ∈ p.exits := p.mem_exits hexit (by rw [← hrole, ← hfacts])
  have hexecution : ((s.exited fill).settleFill fill).execution = ((s.execution.recordFill fill).addExit fill).settled := settleFill_execution
  have hget : ∀ fillId, ((s.exited fill).settleFill fill).execution.appliedFillFingerprints.get? fillId =
      if fill.fillId = fillId then some fill.toFillFingerprint else s.execution.appliedFillFingerprints.get? fillId := by
    intro fillId
    rw [hexecution]
    exact Dict.get?_set _ _ _ _
  have hentered := h.toTold.entered h.toSums (hlegal.entriesFirst hrole)
  refine { h.toOutcomeKept.exited hnew hrole hfits with
    known := ?_, entries := ?_, definition := ?_, exits := ?_, targetTold := ?_, targetKept := ?_,
    frozenAfter := ?_, frozenBy := ?_, exitsAfter := ?_ }
  · intro fillId facts hknown
    rw [hget] at hknown
    split at hknown
    next hsame =>
      cases hknown
      exact ⟨exit, hexit, hid.symm.trans hsame, hfacts.symm, delivered_cons.mpr (.inl (hop ▸ hid)), fun _ => by omega⟩
    next =>
      obtain ⟨other, hother, hsame, heq, hdelivered, hless⟩ := h.known fillId facts hknown
      exact ⟨other, hother, hsame, heq, delivered_cons.mpr (.inr hdelivered), hless⟩
  · intro entry hentry hdelivered
    have hne : fill.fillId ≠ entry.fillId := by
      intro hsame
      cases p.eq_of_id hexit (List.mem_append_left _ hentry) (hid.symm.trans hsame)
      cases (p.entry_role exit hentry).symm.trans (p.exit_role exit hmem)
    rw [hget, if_neg hne]
    exact h.entries entry hentry ((delivered_cons.mp hdelivered).resolve_left (hop ▸ hne))
  · exact settleFill_definition.trans h.definition
  · intro hfit other hother hdelivered
    rw [hget]
    split
    next hsame =>
      cases p.eq_of_id hexit (List.mem_append_right _ (List.mem_filter.mp hother).1) (hid.symm.trans hsame)
      rw [hfacts]
    next hne => exact h.exits hfit other hother ((delivered_cons.mp hdelivered).resolve_left (hop ▸ hne))
  · rw [hexecution]
    exact h.targetTold
  · rw [hexecution]
    rintro m' (_ | ⟨_, hm⟩) hmrole
    · rw [hop, hrole] at hmrole
      cases hmrole
    · exact h.targetKept m' hm hmrole
  · rw [hexecution]
    intro hfrozen
    obtain ⟨hcompletes, hreached, hall⟩ := h.frozenAfter hfrozen
    exact ⟨hcompletes, hreached, fun entry hentry => delivered_cons.mpr (.inr (hall entry hentry))⟩
  · rw [hexecution]
    rintro m' (_ | ⟨_, hm⟩) hmrole
    · rw [hop, hrole] at hmrole
      cases hmrole
    · exact h.frozenBy m' hm hmrole
  · intro other hother hdelivered entry hentry
    exact delivered_cons.mpr (.inr (hlegal.entriesFirst hrole entry hentry))

theorem exit_fits (h : Progress p log s) (hlegal : p.Delivers log fill) (hrole : fill.role = .exit)
    (hnew : s.execution.appliedFillFingerprints.get? fill.fillId = none) (hfit : p.exited ≤ p.entered) (hvolume : fill.volume ≤ p.entered) :
    s.execution.exitVolume + fill.volume ≤ s.execution.entryVolume := by
  obtain ⟨exit, hexit, hid, hfacts⟩ := hlegal.known
  have hmem : exit ∈ p.fitting := by
    refine List.mem_filter.mpr ⟨p.mem_exits hexit (by rw [← hrole, ← hfacts]), ?_⟩
    rw [← congrArg FillFingerprint.volume hfacts]
    simpa using hvolume
  rw [h.toTold.entered h.toSums (hlegal.entriesFirst hrole), h.exitVolume, ← totalVolume_concat]
  refine (totalVolume_le ?_).trans hfit
  have happlied := CandidateExecutionOutcome.applied_recordFill hnew .exit
  rw [if_pos hrole] at happlied
  rw [← happlied]
  refine applied_subperm fun fillId facts hknown hfactsRole => ?_
  have hset : (s.execution.appliedFillFingerprints.set fill.fillId fill.toFillFingerprint).get? fillId = some facts := hknown
  rw [Dict.get?_set] at hset
  split at hset
  next hsame =>
    cases hset
    exact ⟨exit, hmem, hid.symm.trans hsame, hfacts.symm⟩
  next => exact h.exit_fill fillId facts hset hfactsRole

theorem exit (h : Progress p log s) (hlegal : p.Delivers log fill) (hrole : fill.role = .exit) :
    Progress p (⟨s, fill, (s.applyFill fill).1⟩ :: log) (s.applyFill fill).1 := by
  obtain ⟨exit, hexit, hid, hfacts⟩ := hlegal.known
  cases hknown : s.execution.appliedFillFingerprints.get? fill.fillId with
  | some facts =>
    obtain ⟨other, hother, hsame, rfl, -⟩ := h.known _ _ hknown
    cases p.eq_of_id hother hexit (hsame.trans hid)
    rw [← hfacts] at hknown
    rw [applyFill_repeatedExit (h.known_iff.mpr ⟨_, hknown⟩) hknown hrole]
    exact h.exit_same hlegal hrole _ rfl fun _ _ => hknown
  | none =>
    have hcausal : s.definition.sourceTimeMs < fill.sourceTimeMs := by
      rw [h.definition, congrArg FillFingerprint.sourceTimeMs hfacts]
      exact p.causal exit hexit
    have hpos := fill.volume_pos
    by_cases hfits : s.execution.exitVolume + fill.volume ≤ s.execution.entryVolume
    · rw [applyFill_exit (h.new_of hknown) hcausal hrole (by omega) hfits]
      exact h.exit_new hlegal hrole _ rfl hknown hfits
    · have hrejected : (s.applyFill fill).1 = s := by
        rcases happlied : s.applyFill fill with ⟨after, error⟩
        have hcases := h.applied fill
        rw [happlied] at hcases
        cases hcases with
        | rejected => rfl
        | repeatedEntry hentry => cases hrole.symm.trans hentry
        | repeatedExit => rfl
        | entry hentry => cases hrole.symm.trans hentry
        | exit _ _ hfits' => exact absurd hfits' hfits
      rw [hrejected]
      exact h.exit_same hlegal hrole _ rfl fun hfit hvolume => absurd (h.exit_fits hlegal hrole hknown hfit hvolume) hfits

end Progress

theorem progress {p : CandidateFills definition} (h : p.Run log s) : Progress p log s := by
  refine h.invariant (fun log s => Progress p log s) ?_ fun log s fill hprogress hlegal => ?_
  · rintro _ rfl
    exact .start
  · cases hrole : fill.role with
    | entry => exact hprogress.entry hlegal hrole
    | exit => exact hprogress.exit hlegal hrole

end QuantX
