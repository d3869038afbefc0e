import Mathlib.Data.Multiset.Bind
import QuantX.MarketData.WorkUnits

namespace QuantX
open Lib (require sortBy sortBy_perm sortBy_eq_of_perm require_eq_ok bind_eq_ok)

section Groups
variable {α : Type} {values : List α} {widths : List Nat} {length size count n : Nat}

theorem sum_widths (q r : Nat) : ((List.range n).map fun index => q + if index < r then 1 else 0).sum = n * q + min r n := by
  induction n with
  | zero => simp
  | succ n ih =>
    rw [List.range_succ, List.map_append, List.sum_append, ih, Nat.succ_mul]
    simp only [List.map_cons, List.map_nil, List.sum_cons, List.sum_nil]
    split <;> omega

theorem sum_groupWidths (hcount : 0 < count) : (groupWidths length count).sum = length := by
  have hless := Nat.mod_lt length hcount
  rw [groupWidths, sum_widths, min_eq_left hless.le]
  exact Nat.div_add_mod length count

theorem groupCount_zero (hsize : 0 < size) : groupCount 0 size = 0 := Nat.div_eq_of_lt (by omega)

theorem groupCount_step (hsize : 0 < size) (hlength : 0 < length) : groupCount length size = groupCount (length - size) size + 1 := by
  unfold groupCount
  by_cases hle : size ≤ length
  · rw [← Nat.add_div_right _ hsize]
    congr 1
    omega
  · rw [Nat.div_eq_of_lt (show length - size + size - 1 < size by omega), Nat.div_eq_of_lt_le] <;> omega

theorem le_groupCount_mul (hsize : 0 < size) : length ≤ groupCount length size * size := by
  have hless := Nat.lt_div_mul_add hsize (a := length + size - 1)
  unfold groupCount
  omega

theorem groupCount_le (hsize : 0 < size) : groupCount length size ≤ length := by
  rcases Nat.eq_zero_or_pos length with rfl | hpos
  · exact (groupCount_zero hsize).le
  · refine Nat.div_le_of_le_mul ?_
    rw [Nat.mul_comm]
    exact Nat.add_sub_one_le_mul hpos.ne' hsize.ne'

theorem groupCount_pos (hsize : 0 < size) (hlength : 0 < length) : 0 < groupCount length size := by
  rw [groupCount_step hsize hlength]
  exact Nat.succ_pos _

theorem mem_groupWidths {width : Nat} (h : width ∈ groupWidths length count) :
    width = length / count ∨ width = length / count + 1 ∧ 0 < length % count := by
  obtain ⟨index, -, rfl⟩ := List.mem_map.mp h
  by_cases hindex : index < length % count
  · exact .inr ⟨by rw [if_pos hindex], by omega⟩
  · exact .inl (by rw [if_neg hindex, Nat.add_zero])

theorem groupWidths_bounds (hsize : 0 < size) (hlength : 0 < length) {width : Nat}
    (h : width ∈ groupWidths length (groupCount length size)) : 0 < width ∧ width ≤ size := by
  have hpos := groupCount_pos hsize hlength
  have hfits : length ≤ groupCount length size * size := le_groupCount_mul hsize
  have hone : 0 < length / groupCount length size := Nat.div_pos (groupCount_le hsize) hpos
  have hdiv := Nat.div_add_mod length (groupCount length size)
  have hle : length / groupCount length size ≤ size := Nat.div_le_of_le_mul hfits
  rcases mem_groupWidths h with rfl | ⟨rfl, hmore⟩
  · exact ⟨hone, hle⟩
  · refine ⟨Nat.succ_pos _, lt_of_le_of_ne hle fun heq => ?_⟩
    rw [heq] at hdiv
    omega

theorem flatten_slices (h : widths.sum = values.length) : (slices widths values).flatten = values := by
  induction widths generalizing values with
  | nil => exact (List.length_eq_zero_iff.mp h.symm).symm
  | cons width widths ih =>
    rw [List.sum_cons] at h
    rw [slices, List.flatten_cons, ih (by rw [List.length_drop]; omega), List.take_append_drop]

theorem lengths_slices (h : widths.sum ≤ values.length) : (slices widths values).map List.length = widths := by
  induction widths generalizing values with
  | nil => rfl
  | cons width widths ih =>
    rw [List.sum_cons] at h
    rw [slices, List.map_cons, ih (by rw [List.length_drop]; omega), List.length_take, min_eq_left (by omega)]

structure Batches (values : List α) (size : Nat) (batches : List (List α)) : Prop where
  whole : batches.flatten = values
  bounds : ∀ batch ∈ batches, 0 < batch.length ∧ batch.length ≤ size
  balanced : ∀ batch ∈ batches, values.length / groupCount values.length size ≤ batch.length ∧
    batch.length ≤ values.length / groupCount values.length size + 1
  count : batches.length = groupCount values.length size

theorem chunks_batches (hsize : 0 < size) (hvalues : values ≠ []) : Batches values size (chunks values size) := by
  have hlength : 0 < values.length := List.length_pos_iff.mpr hvalues
  have hsum : (groupWidths values.length (groupCount values.length size)).sum = values.length := sum_groupWidths (groupCount_pos hsize hlength)
  have hlengths := lengths_slices hsum.le
  have hwidth : ∀ batch ∈ slices (groupWidths values.length (groupCount values.length size)) values,
      batch.length ∈ groupWidths values.length (groupCount values.length size) := by
    intro batch hbatch
    rw [← hlengths]
    exact List.mem_map_of_mem hbatch
  rw [chunks, if_neg (by simpa using hvalues)]
  refine ⟨flatten_slices hsum, fun batch hbatch => groupWidths_bounds hsize hlength (hwidth batch hbatch),
    fun batch hbatch => ?_, ?_⟩
  · rcases mem_groupWidths (hwidth batch hbatch) with h | h <;> omega
  · rw [← List.length_map List.length, hlengths, groupWidths, List.length_map, List.length_range]

end Groups

section Windows
variable {last maxDays turns cursor : Nat} {windows : List (Nat × Nat)}

def daysBetween (first last : Nat) : List Nat := List.range' first (last + 1 - first)

structure Windows (cursor last maxDays : Nat) (windows : List (Nat × Nat)) : Prop where
  whole : (windows.flatMap fun window => daysBetween window.1 window.2) = daysBetween cursor last
  bounds : ∀ window ∈ windows, cursor ≤ window.1 ∧ window.1 ≤ window.2 ∧ window.2 ≤ last ∧ window.2 < window.1 + maxDays
  count : windows.length = groupCount (last + 1 - cursor) maxDays

theorem daysBetween_append {first middle : Nat} (hfirst : first ≤ middle) (hlast : middle ≤ last) :
    daysBetween first middle ++ daysBetween (middle + 1) last = daysBetween first last := by
  have hsplit : last + 1 - first = (middle + 1 - first) + (last + 1 - (middle + 1)) := by omega
  rw [daysBetween, daysBetween, daysBetween, hsplit, ← List.range'_append_1]
  congr 2
  omega

def WithinCalendar (cursor last maxDays : Nat) : Prop :=
  last < cursor ∨ last < maxOrdinal ∧ cursor + groupCount (last + 1 - cursor) maxDays * maxDays ≤ maxOrdinal + 1

theorem addDays_ok {date days next : Nat} : addDays date days = .ok next ↔ date + days ≤ maxOrdinal ∧ date + days = next := by
  unfold addDays
  split
  · simp [*]
  · simp [*]

theorem dateWindows_iff (hmax : 0 < maxDays) (hturns : last + 1 - cursor ≤ turns) :
    (∃ windows, dateWindows last maxDays turns cursor = .ok windows) ↔ WithinCalendar cursor last maxDays := by
  induction turns generalizing cursor with
  | zero => exact iff_of_true ⟨[], rfl⟩ (.inl (by omega))
  | succ turns ih =>
    rw [dateWindows]
    split
    · exact iff_of_true ⟨[], rfl⟩ (.inl ‹_›)
    rename_i hleft
    have hstep := groupCount_step hmax (show 0 < last + 1 - cursor by omega)
    have hmul := Nat.succ_mul (groupCount (last + 1 - cursor - maxDays) maxDays) maxDays
    have hrest : last + 1 - (cursor + maxDays) = last + 1 - cursor - maxDays := by omega
    simp only [bind_eq_ok, addDays_ok, WithinCalendar, pure, Except.pure, Except.ok.injEq]
    by_cases hend : last ≤ cursor + (maxDays - 1)
    · have hdone : groupCount (last + 1 - cursor - maxDays) maxDays = 0 := by
        rw [show last + 1 - cursor - maxDays = 0 by omega, groupCount_zero hmax]
      have htail : ∃ windows, dateWindows last maxDays turns (last + 1) = .ok windows := (ih (by omega)).mpr (.inl (by omega))
      rw [hdone, Nat.zero_mul] at hmul
      constructor
      · rintro ⟨_, limit, ⟨hlimit, rfl⟩, next, ⟨hnext, rfl⟩, -, -, -⟩
        right
        rw [hstep, hdone, hmul]
        omega
      · rintro (hless | ⟨hlast, hfits⟩)
        · omega
        rw [hstep, hdone, hmul] at hfits
        obtain ⟨rest, hrest⟩ := htail
        refine ⟨_, _, ⟨by omega, rfl⟩, _, ⟨?_, rfl⟩, rest, ?_, rfl⟩
        · rw [min_eq_left hend]
          omega
        · rw [min_eq_left hend]
          exact hrest
    · have htail : (∃ windows, dateWindows last maxDays turns (cursor + maxDays) = .ok windows) ↔
          WithinCalendar (cursor + maxDays) last maxDays := ih (by omega)
      have hnext : min last (cursor + (maxDays - 1)) + 1 = cursor + maxDays := by omega
      simp only [WithinCalendar, hrest] at htail
      constructor
      · rintro ⟨_, limit, ⟨hlimit, rfl⟩, next, ⟨hnext', rfl⟩, rest, hok, -⟩
        rw [hnext] at hok
        right
        rw [hstep, hmul]
        have hwithin := htail.mp ⟨rest, hok⟩
        omega
      · rintro (hless | ⟨hlast, hfits⟩)
        · omega
        rw [hstep, hmul] at hfits
        obtain ⟨rest, hok⟩ := htail.mpr (.inr ⟨hlast, by omega⟩)
        refine ⟨_, _, ⟨by omega, rfl⟩, _, ⟨by omega, rfl⟩, rest, ?_, rfl⟩
        rw [hnext]
        exact hok

theorem dateWindows_windows (hmax : 0 < maxDays) (hturns : last + 1 - cursor ≤ turns)
    (h : dateWindows last maxDays turns cursor = .ok windows) : Windows cursor last maxDays windows := by
  induction turns generalizing cursor windows with
  | zero =>
    cases h
    have hnone : last + 1 - cursor = 0 := by omega
    exact ⟨by simp [daysBetween, hnone], by simp, by rw [hnone, groupCount_zero hmax]; rfl⟩
  | succ turns ih =>
    rw [dateWindows] at h
    split at h
    · cases h
      have hnone : last + 1 - cursor = 0 := by omega
      exact ⟨by simp [daysBetween, hnone], by simp, by rw [hnone, groupCount_zero hmax]; rfl⟩
    rename_i hleft
    obtain ⟨limit, hlimit, h⟩ := bind_eq_ok.mp h
    obtain ⟨next, hnext, h⟩ := bind_eq_ok.mp h
    obtain ⟨rest, hrest, h⟩ := bind_eq_ok.mp h
    cases h
    obtain ⟨-, rfl⟩ := addDays_ok.mp hlimit
    obtain ⟨-, rfl⟩ := addDays_ok.mp hnext
    obtain ⟨hwhole, hbounds, hcount⟩ := ih (by omega) hrest
    refine ⟨?_, ?_, ?_⟩
    · rw [List.flatMap_cons, hwhole]
      exact daysBetween_append (by omega) (min_le_left _ _)
    · rw [List.forall_mem_cons]
      refine ⟨by omega, fun window hwindow => ?_⟩
      have hwindow := hbounds window hwindow
      omega
    · rw [List.length_cons, hcount, groupCount_step hmax (show 0 < last + 1 - cursor by omega)]
      congr 2
      omega

end Windows

/-! ### Units -/

theorem flatMap_swap {α β γ : Type} (xs : List α) (ys : List β) (f : α → β → List γ) :
    (xs.flatMap fun x => ys.flatMap (f x)).Perm (ys.flatMap fun y => xs.flatMap fun x => f x y) := by
  rw [← Multiset.coe_eq_coe]
  simpa only [Multiset.coe_bind] using Multiset.bind_bind (xs : Multiset α) (ys : Multiset β) (f := fun x y => (f x y : Multiset γ))

section Units
variable {Other : Type} {request : HistoricalRequest Other} {size : Option Nat} {period : String} {periods : List String}
  {units part : List (HistoricalRequest Other)}

namespace HistoricalRequest

def cells (request : HistoricalRequest Other) (period : String) : List (String × String × Nat) :=
  request.stockList.flatMap fun code => (daysBetween request.startTime request.endTime).map fun day => (period, code, day)

def covered (request : HistoricalRequest Other) (periods : List String) : List (String × String × Nat) :=
  periods.flatMap request.cells

def periodCount (request : HistoricalRequest Other) (size : Option Nat) (period : String) : Nat :=
  groupCount request.stockList.length (batchSize size period) *
    groupCount (request.endTime + 1 - request.startTime) ((historicalWindowDays period).getD 0)

def unitCount (request : HistoricalRequest Other) (size : Option Nat) (periods : List String) : Nat :=
  (periods.map (request.periodCount size)).sum

/-- A unit of a period: a batch of the codes and a window of the days, all else as in the request. -/
structure UnitOf (request : HistoricalRequest Other) (size : Option Nat) (period : String) (unit : HistoricalRequest Other) : Prop where
  same : unit = request.unit period unit.stockList (unit.startTime, unit.endTime)
  codes : unit.stockList ⊆ request.stockList
  batch : 0 < unit.stockList.length ∧ unit.stockList.length ≤ batchSize size period
  window : request.startTime ≤ unit.startTime ∧ unit.startTime ≤ unit.endTime ∧ unit.endTime ≤ request.endTime
  days : unit.endTime < unit.startTime + (historicalWindowDays period).getD 0
  balanced : request.stockList.length / groupCount request.stockList.length (batchSize size period) ≤ unit.stockList.length ∧
    unit.stockList.length ≤ request.stockList.length / groupCount request.stockList.length (batchSize size period) + 1

structure ExactCover (request : HistoricalRequest Other) (size : Option Nat) (periods : List String)
    (units : List (HistoricalRequest Other)) : Prop where
  exact : (units.flatMap fun unit => unit.covered unit.periods).Perm (request.covered periods)
  planned : ∀ unit ∈ units, ∃ period ∈ periods, request.UnitOf size period unit
  count : units.length = request.unitCount size periods

theorem ExactCover.nil : request.ExactCover size [] [] := ⟨.nil, by simp, rfl⟩

theorem ExactCover.append {ps qs : List String} {us vs : List (HistoricalRequest Other)} (hus : request.ExactCover size ps us)
    (hvs : request.ExactCover size qs vs) : request.ExactCover size (ps ++ qs) (us ++ vs) := by
  refine ⟨?_, fun unit hunit => ?_, ?_⟩
  · rw [covered, List.flatMap_append, List.flatMap_append]
    exact hus.exact.append hvs.exact
  · rcases List.mem_append.mp hunit with h | h
    · obtain ⟨period, hperiod, hunit⟩ := hus.planned unit h
      exact ⟨period, List.mem_append_left _ hperiod, hunit⟩
    · obtain ⟨period, hperiod, hunit⟩ := hvs.planned unit h
      exact ⟨period, List.mem_append_right _ hperiod, hunit⟩
  · rw [List.length_append, hus.count, hvs.count, unitCount, unitCount, unitCount, List.map_append, List.sum_append]

theorem cells_units {ordered : List String} {batches : List (List String)} {windows : List (Nat × Nat)}
    (hordered : ordered.Perm request.stockList) (hbatches : batches.flatten = ordered)
    (hwindows : (windows.flatMap fun window => daysBetween window.1 window.2) = daysBetween request.startTime request.endTime) :
    ((batches.flatMap fun codes => windows.map (request.unit period codes)).flatMap fun unit => unit.covered unit.periods).Perm
      (request.covered [period]) := by
  have hbatch : ∀ codes ∈ batches, (windows.flatMap fun window => (request.unit period codes window).cells period).Perm
      (codes.flatMap fun code => (daysBetween request.startTime request.endTime).map fun day => (period, code, day)) := by
    intro codes _
    refine (flatMap_swap windows codes _).trans (.of_eq (List.flatMap_congr fun code _ => ?_))
    rw [← hwindows, List.map_flatMap]
    rfl
  have hunits : ((batches.flatMap fun codes => windows.map (request.unit period codes)).flatMap fun unit => unit.covered unit.periods) =
      batches.flatMap fun codes => windows.flatMap fun window => (request.unit period codes window).cells period := by
    rw [List.flatMap_assoc]
    refine List.flatMap_congr fun codes _ => ?_
    rw [List.flatMap_map]
    exact List.flatMap_congr fun window _ => List.flatMap_singleton _ _
  rw [hunits, covered, List.flatMap_singleton]
  refine (List.Perm.flatMap_left batches hbatch).trans ?_
  rw [← List.flatMap_assoc, List.flatMap_id', hbatches]
  exact hordered.flatMap_right _

def InCalendar (request : HistoricalRequest Other) (period : String) : Prop :=
  WithinCalendar request.startTime request.endTime ((historicalWindowDays period).getD 0)

theorem historicalWindowDays_pos {maxDays : Nat} (h : historicalWindowDays period = some maxDays) : 0 < maxDays := by
  unfold historicalWindowDays at h
  split at h <;> cases h <;> decide

theorem batchSize_pos (hsize : ∀ n ∈ size, 10 ≤ n ∧ n ≤ 30) : 0 < batchSize size period := by
  cases size with
  | none =>
    unfold batchSize
    dsimp
    split <;> decide
  | some n => exact lt_of_lt_of_le (by decide) (hsize n rfl).1

theorem periodUnits_iff (hperiod : (historicalWindowDays period).isSome) :
    (∃ part, request.periodUnits size period = .ok part) ↔ request.InCalendar period := by
  obtain ⟨maxDays, hdays⟩ := Option.isSome_iff_exists.mp hperiod
  have hiff := dateWindows_iff (historicalWindowDays_pos hdays) (le_refl (request.endTime + 1 - request.startTime))
  simp only [InCalendar, periodUnits, periodWindows, hdays, Option.getD_some, bind_eq_ok, pure, Except.pure, Except.ok.injEq, ← hiff]
  constructor
  · rintro ⟨_, windows, h, -⟩
    exact ⟨windows, h⟩
  · rintro ⟨windows, h⟩
    exact ⟨_, windows, h, rfl⟩

theorem periodUnits_cover (hperiod : (historicalWindowDays period).isSome) (hcodes : request.stockList ≠ [])
    (hsize : ∀ n ∈ size, 10 ≤ n ∧ n ≤ 30) (h : request.periodUnits size period = .ok part) : request.ExactCover size [period] part := by
  obtain ⟨maxDays, hdays⟩ := Option.isSome_iff_exists.mp hperiod
  obtain ⟨windows, hwindows, hpart⟩ := bind_eq_ok.mp h
  cases hpart
  rw [periodWindows, hdays] at hwindows
  obtain ⟨hdaysWhole, hdaysBounds, hdaysCount⟩ := dateWindows_windows (historicalWindowDays_pos hdays) le_rfl hwindows
  have hordered := sortBy_perm id request.stockList
  have hsorted : sortBy id request.stockList ≠ [] := by
    intro hnil
    rw [hnil] at hordered
    exact hcodes hordered.symm.eq_nil
  obtain ⟨hwhole, hbounds, hbalanced, hcount⟩ := chunks_batches (batchSize_pos hsize) hsorted
  rw [hordered.length_eq] at hbalanced hcount
  refine ⟨cells_units hordered hwhole hdaysWhole, fun unit hunit => ?_, ?_⟩
  · obtain ⟨codes, hmem, window, hwindow, rfl⟩ := by simpa only [List.mem_flatMap, List.mem_map] using hunit
    refine ⟨period, List.mem_singleton.mpr rfl, rfl, fun code hcode => ?_, hbounds codes hmem, ?_, ?_, hbalanced codes hmem⟩
    · exact hordered.mem_iff.mp (hwhole ▸ List.mem_flatten.mpr ⟨codes, hmem, hcode⟩)
    · exact ⟨(hdaysBounds window hwindow).1, (hdaysBounds window hwindow).2.1, (hdaysBounds window hwindow).2.2.1⟩
    · rw [hdays]
      exact (hdaysBounds window hwindow).2.2.2
  · have hmap : ∀ codes ∈ chunks (sortBy id request.stockList) (batchSize size period),
        (windows.map (request.unit period codes)).length = windows.length := fun codes _ => List.length_map _
    rw [List.length_flatMap, List.map_congr_left hmap, List.map_const', List.sum_replicate, hcount, hdaysCount, unitCount,
      List.map_singleton, List.sum_singleton, periodCount, hdays]
    rfl

abbrev addPeriod (request : HistoricalRequest Other) (size : Option Nat) (units : List (HistoricalRequest Other)) (period : String) :
    Except String (List (HistoricalRequest Other)) := do
  appendUnits units (← request.periodUnits size period)

theorem exists_error_iff {α : Type} {result : Except String α} :
    (∃ message, result = .error message) ↔ ¬∃ value, result = .ok value := by
  cases result <;> simp

theorem appendUnits_ok {α : Type} {units new all : List α} :
    appendUnits units new = .ok all ↔ (units ++ new).length ≤ MAX_COLLECTION_UNITS ∧ units ++ new = all := by
  unfold appendUnits
  split
  · rename_i hfits
    rw [Except.ok.injEq, and_iff_right hfits]
  · rename_i hmany
    exact iff_of_false nofun fun h => hmany h.1

theorem plan_cover {ps : List String} (hperiods : ∀ p ∈ periods, (historicalWindowDays p).isSome) (hcodes : request.stockList ≠ [])
    (hsize : ∀ n ∈ size, 10 ≤ n ∧ n ≤ 30) (hunits : request.ExactCover size ps units) (hlength : units.length ≤ MAX_COLLECTION_UNITS)
    {all : List (HistoricalRequest Other)} (h : periods.foldlM (request.addPeriod size) units = .ok all) :
    request.ExactCover size (ps ++ periods) all ∧ all.length ≤ MAX_COLLECTION_UNITS := by
  induction periods generalizing ps units with
  | nil =>
    cases h
    rw [List.append_nil]
    exact ⟨hunits, hlength⟩
  | cons period periods ih =>
    rw [List.forall_mem_cons] at hperiods
    obtain ⟨next, hnext, hrest⟩ := bind_eq_ok.mp h
    obtain ⟨part, hpart, hnext⟩ := bind_eq_ok.mp hnext
    obtain ⟨hfits, rfl⟩ := appendUnits_ok.mp hnext
    have hall := ih hperiods.2 (hunits.append (periodUnits_cover hperiods.1 hcodes hsize hpart)) hfits hrest
    rwa [List.append_assoc] at hall

theorem plan_iff {ps : List String} (hperiods : ∀ p ∈ periods, (historicalWindowDays p).isSome) (hcodes : request.stockList ≠ [])
    (hsize : ∀ n ∈ size, 10 ≤ n ∧ n ≤ 30) (hunits : request.ExactCover size ps units) (hlength : units.length ≤ MAX_COLLECTION_UNITS) :
    (∃ all, periods.foldlM (request.addPeriod size) units = .ok all) ↔
      (∀ p ∈ periods, request.InCalendar p) ∧ request.unitCount size (ps ++ periods) ≤ MAX_COLLECTION_UNITS := by
  induction periods generalizing ps units with
  | nil => exact iff_of_true ⟨units, rfl⟩ ⟨by simp, by rwa [List.append_nil, ← hunits.count]⟩
  | cons period periods ih =>
    rw [List.forall_mem_cons] at hperiods ⊢
    have hmore : request.unitCount size (ps ++ [period]) ≤ request.unitCount size (ps ++ period :: periods) := by
      simp [unitCount]
    constructor
    · rintro ⟨all, h⟩
      obtain ⟨next, hnext, hrest⟩ := bind_eq_ok.mp h
      obtain ⟨part, hpart, hnext⟩ := bind_eq_ok.mp hnext
      obtain ⟨hfits, rfl⟩ := appendUnits_ok.mp hnext
      have htail := (ih hperiods.2 (hunits.append (periodUnits_cover hperiods.1 hcodes hsize hpart)) hfits).mp ⟨all, hrest⟩
      rw [List.append_assoc] at htail
      exact ⟨⟨(periodUnits_iff hperiods.1).mp ⟨part, hpart⟩, htail.1⟩, htail.2⟩
    · rintro ⟨⟨hin, hins⟩, hfits⟩
      obtain ⟨part, hpart⟩ : ∃ part, request.periodUnits size period = .ok part := (periodUnits_iff hperiods.1).mpr hin
      have hcover := hunits.append (periodUnits_cover hperiods.1 hcodes hsize hpart)
      have hnext : (units ++ part).length ≤ MAX_COLLECTION_UNITS := hcover.count ▸ hmore.trans hfits
      obtain ⟨all, hall⟩ := (ih hperiods.2 hcover hnext).mpr ⟨hins, by rwa [List.append_assoc]⟩
      exact ⟨all, bind_eq_ok.mpr ⟨_, bind_eq_ok.mpr ⟨part, hpart, appendUnits_ok.mpr ⟨hnext, rfl⟩⟩, hall⟩⟩

theorem planWorkUnits_eq (hbars : request.operation = "" ∨ request.operation = "bars") (hcodes : request.stockList ≠ []) :
    request.planWorkUnits size =
      (require (∀ n ∈ size, 10 ≤ n ∧ n ≤ 30) "historical work-unit size must be between 10 and 30" >>= fun _ =>
        request.askedPeriods.foldlM (request.addPeriod size) []) := by
  rw [planWorkUnits, if_neg (by simpa using hcodes), if_pos hbars]

/-- The plan covers the request exactly, whatever the order of the codes, and fails only for a size out of range, more
    units than the catalog holds or windows beyond the calendar. -/
theorem planWorkUnits_exact_cover (hbars : request.operation = "" ∨ request.operation = "bars") (hcodes : request.stockList ≠ [])
    (hperiods : ∀ p ∈ request.askedPeriods, (historicalWindowDays p).isSome) :
    (∀ units, request.planWorkUnits size = .ok units →
      request.ExactCover size request.askedPeriods units ∧ units.length ≤ MAX_COLLECTION_UNITS) ∧
    (∀ codes, codes.Perm request.stockList →
      planWorkUnits { request with stockList := codes } size = request.planWorkUnits size) ∧
    ((∃ message, request.planWorkUnits size = .error message) ↔ (∃ n ∈ size, n < 10 ∨ 30 < n) ∨
      MAX_COLLECTION_UNITS < request.unitCount size request.askedPeriods ∨ ∃ p ∈ request.askedPeriods, ¬request.InCalendar p) := by
  refine ⟨fun units h => ?_, fun codes hperm => ?_, ?_⟩
  · rw [planWorkUnits_eq hbars hcodes] at h
    obtain ⟨_, hsize, h⟩ := bind_eq_ok.mp h
    exact plan_cover hperiods hcodes (require_eq_ok.mp hsize) .nil (Nat.zero_le _) h
  · have hsorted : sortBy id codes = sortBy id request.stockList := sortBy_eq_of_perm hperm fun _ _ _ _ => id
    have hnil : codes ≠ [] := fun hnil => hcodes (hnil ▸ hperm).symm.eq_nil
    have hother : planWorkUnits { request with stockList := codes } size = _ := planWorkUnits_eq hbars hnil
    rw [planWorkUnits_eq hbars hcodes, hother]
    unfold addPeriod periodUnits
    rw [hsorted]
    rfl
  · by_cases hsize : ∀ n ∈ size, 10 ≤ n ∧ n ≤ 30
    · have hiff := plan_iff hperiods hcodes hsize .nil (Nat.zero_le _)
      have hgood : ¬∃ n ∈ size, n < 10 ∨ 30 < n := fun ⟨n, hn, h⟩ => by
        have := hsize n hn
        omega
      have hout : (∃ p ∈ request.askedPeriods, ¬request.InCalendar p) ↔ ¬∀ p ∈ request.askedPeriods, request.InCalendar p := by
        push Not
        rfl
      rw [planWorkUnits_eq hbars hcodes, require_eq_ok.mpr hsize, or_iff_right hgood, exists_error_iff, ← not_le, hout, ← not_and_or]
      exact not_congr (hiff.trans and_comm)
    · refine iff_of_true ⟨"historical work-unit size must be between 10 and 30", ?_⟩ (.inl ?_)
      · rw [planWorkUnits_eq hbars hcodes, require, if_neg hsize]
        rfl
      · push Not at hsize
        obtain ⟨n, hn, h⟩ := hsize
        exact ⟨n, hn, by omega⟩

def minutesRequest : HistoricalRequest PUnit :=
  { stockList := ["600000.SH"], periods := ["1m"], startTime := 738000, endTime := 738002, other := ⟨⟩ }

theorem planWorkUnits_exact_cover_minutes : minutesRequest.planWorkUnits none = .ok
    [minutesRequest.unit "1m" ["600000.SH"] (738000, 738000), minutesRequest.unit "1m" ["600000.SH"] (738001, 738001),
      minutesRequest.unit "1m" ["600000.SH"] (738002, 738002)] ∧
    ∀ units, minutesRequest.planWorkUnits none = .ok units → minutesRequest.ExactCover none ["1m"] units :=
  ⟨by decide +kernel, fun units h => ((planWorkUnits_exact_cover (.inr rfl) (by decide) (by decide)).1 units h).1⟩

/-- No codes make one unit without a code, and the last day of the calendar has no window. -/
theorem plan_without_codes_or_calendar :
    planWorkUnits { minutesRequest with stockList := [] } none = .ok [{ minutesRequest with stockList := [] }] ∧
    unitCount { minutesRequest with startTime := maxOrdinal, endTime := maxOrdinal } none ["1m"] = 1 ∧
    planWorkUnits { minutesRequest with startTime := maxOrdinal, endTime := maxOrdinal } none =
      .error "date value out of range" := by decide +kernel

end HistoricalRequest
end Units
end QuantX
