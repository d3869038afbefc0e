import QuantX.Lib.Dict
import Mathlib.Data.List.Dedup

/-! Samples that are summed up by key and hour once the hour is over, and deleted some time later. A row that is there is
    never summed up again. -/

namespace Lib
variable {K S A : Type} [DecidableEq K]

def hourLength : Int := 3600000000

/-- The start of the hour of an instant, `CAST(t / 3600 AS INTEGER) * 3600` in seconds. -/
def hourStart (t : Int) : Int := t.tdiv hourLength * hourLength

structure Sampling (K S A : Type) where
  key : S → K
  time : S → Int
  sum : List S → A

structure RollupTable (K S A : Type) where
  samples : List S := []
  rows : Dict (K × Int) A := Dict.empty

def Sampling.hour (f : Sampling K S A) (s : S) : K × Int := (f.key s, hourStart (f.time s))

def Sampling.within (f : Sampling K S A) (hour : K × Int) (s : S) : Bool :=
  f.key s = hour.1 ∧ hour.2 ≤ f.time s ∧ f.time s < hour.2 + hourLength

namespace RollupTable
variable (f : Sampling K S A) (table : RollupTable K S A)

def record (s : S) : RollupTable K S A := { table with samples := table.samples ++ [s] }

def missing (currentHour : Int) : List (K × Int) :=
  ((table.samples.filter fun s => f.time s < currentHour ∧ table.rows.get? (f.hour s) = none).map f.hour).dedup

def rollup (now rawRetention rollupRetention : Int) : RollupTable K S A where
  samples := table.samples.filter fun s => ¬f.time s < now - rawRetention
  rows :=
    (table.rows.update ((table.missing f (now / hourLength * hourLength)).map fun hour =>
      (hour, f.sum (table.samples.filter (f.within hour))))).filter fun row => ¬row.1.2 < now - rollupRetention

variable {f table} {hour : K × Int} {s : S} {row : A} {now rawRetention rollupRetention currentHour : Int}

theorem hourStart_eq {t : Int} (h : 0 ≤ t) : hourStart t = t / 3600000000 * 3600000000 := by rw [hourStart, hourLength, Int.tdiv_eq_ediv_of_nonneg h]

theorem within_iff (htime : 0 ≤ f.time s) (haligned : hour.2 % hourLength = 0) : f.within hour s = true ↔ f.hour s = hour := by
  obtain ⟨k, h⟩ := hour
  unfold Sampling.within Sampling.hour
  rw [decide_eq_true_iff, Prod.mk.injEq, hourStart_eq htime]
  simp only [hourLength] at haligned ⊢
  constructor
  · rintro ⟨hkey, hlow, hhigh⟩
    exact ⟨hkey, by omega⟩
  · rintro ⟨hkey, hhour⟩
    exact ⟨hkey, by omega, by omega⟩

theorem mem_missing : hour ∈ table.missing f currentHour ↔
    ∃ s ∈ table.samples, f.time s < currentHour ∧ table.rows.get? hour = none ∧ f.hour s = hour := by
  simp only [missing, List.mem_dedup, List.mem_map, List.mem_filter, decide_eq_true_eq]
  constructor
  · rintro ⟨s, ⟨hs, htime, hnone⟩, rfl⟩
    exact ⟨s, hs, htime, hnone, rfl⟩
  · rintro ⟨s, hs, htime, hnone, rfl⟩
    exact ⟨s, ⟨hs, htime, hnone⟩, rfl⟩

theorem get?_rollup (hour : K × Int) : (table.rollup f now rawRetention rollupRetention).rows.get? hour =
    if hour.2 < now - rollupRetention then none
    else if hour ∈ table.missing f (now / hourLength * hourLength) then some (f.sum (table.samples.filter (f.within hour)))
    else table.rows.get? hour := by
  have hkeys : (((table.missing f (now / hourLength * hourLength)).map fun hour =>
      (hour, f.sum (table.samples.filter (f.within hour)))).map Prod.fst) = table.missing f (now / hourLength * hourLength) := by
    rw [List.map_map]
    exact List.map_id _
  have hnodup : (table.missing f (now / hourLength * hourLength)).Nodup := List.nodup_dedup _
  rw [rollup, Dict.get?_filter, Dict.get?_update_list (by rw [hkeys]; exact hnodup)]
  by_cases hmissing : hour ∈ table.missing f (now / hourLength * hourLength)
  · have hlookup : Dict.lookup hour ((table.missing f (now / hourLength * hourLength)).map fun hour =>
        (hour, f.sum (table.samples.filter (f.within hour)))) = some (f.sum (table.samples.filter (f.within hour))) := by
      rw [Dict.lookup_eq_some (by rw [hkeys]; exact hnodup)]
      exact List.mem_map_of_mem hmissing
    rw [hlookup, if_pos hmissing]
    by_cases hold : hour.2 < now - rollupRetention <;> simp [hold]
  · rw [Dict.lookup_eq_none.mpr (by rw [hkeys]; exact hmissing), if_neg hmissing, Option.none_or]
    by_cases hold : hour.2 < now - rollupRetention
    · rw [if_pos hold, Option.filter_eq_none_iff]
      simp [hold]
    · rw [if_neg hold]
      cases table.rows.get? hour <;> simp [hold]

/-! ### What rows tell -/

structure Tells (f : Sampling K S A) (recorded : List S) (dropped : Int → Prop) (table : RollupTable K S A) : Prop where
  nonneg : ∀ s ∈ recorded, 0 ≤ f.time s
  stored : table.samples.Sublist recorded
  aligned : ∀ hour row, table.rows.get? hour = some row → hour.2 % hourLength = 0
  exact : ∀ hour row, table.rows.get? hour = some row → row = f.sum (recorded.filter (f.within hour))
  whole : ∀ hour : K × Int, hour.2 % hourLength = 0 → table.rows.get? hour = none → ¬dropped hour.2 →
    table.samples.filter (f.within hour) = recorded.filter (f.within hour)

variable {recorded : List S} {dropped : Int → Prop}

theorem Tells.empty (f : Sampling K S A) (dropped : Int → Prop) : Tells f [] dropped ({} : RollupTable K S A) where
  nonneg := by simp
  stored := List.nil_sublist _
  aligned := by simp
  exact := by simp
  whole := by simp

theorem Tells.record (h : Tells f recorded dropped table) (htime : 0 ≤ f.time s) (hnew : table.rows.get? (f.hour s) = none) :
    Tells f (recorded ++ [s]) dropped (table.record s) where
  nonneg := by
    intro s' hs'
    rcases List.mem_append.mp hs' with hs' | hs'
    · exact h.nonneg s' hs'
    · rw [List.mem_singleton.mp hs']
      exact htime
  stored := h.stored.append_right [s]
  aligned := h.aligned
  exact := by
    intro hour row hrow
    have hout : f.within hour s = false := by
      rw [← Bool.not_eq_true, within_iff htime (h.aligned hour row hrow)]
      rintro rfl
      rw [RollupTable.record] at hrow
      rw [hnew] at hrow
      cases hrow
    rw [List.filter_append, List.filter_cons_of_neg (by simp [hout]), List.filter_nil, List.append_nil]
    exact h.exact hour row hrow
  whole := by
    intro hour haligned hnone hdropped
    rw [RollupTable.record, List.filter_append, List.filter_append, h.whole hour haligned hnone hdropped]

def Regains (f : Sampling K S A) (recorded : List S) (dropped : Int → Prop) (table : RollupTable K S A) (now rollupRetention : Int) : Prop :=
  ∀ hour ∈ table.missing f (now / hourLength * hourLength), now - rollupRetention ≤ hour.2 → dropped hour.2 →
    table.samples.filter (f.within hour) = recorded.filter (f.within hour)

theorem Tells.rollup (h : Tells f recorded dropped table) (hraw : hourLength ≤ rawRetention)
    (hkept : Regains f recorded dropped table now rollupRetention) :
    Tells f recorded (fun start => dropped start ∨ start < now - rollupRetention) (table.rollup f now rawRetention rollupRetention) := by
  have halignedMissing : ∀ hour ∈ table.missing f (now / hourLength * hourLength), hour.2 % hourLength = 0 := by
    intro hour hmissing
    obtain ⟨s, -, -, -, rfl⟩ := mem_missing.mp hmissing
    exact Int.mul_emod_left ..
  refine ⟨h.nonneg, List.filter_sublist.trans h.stored, fun hour row hrow => ?_, fun hour row hrow => ?_, fun hour haligned hnone hdropped => ?_⟩
  · rw [get?_rollup] at hrow
    split at hrow
    · cases hrow
    · split at hrow
      next hmissing => exact halignedMissing hour hmissing
      next => exact h.aligned hour row hrow
  · rw [get?_rollup] at hrow
    split at hrow
    next => cases hrow
    next hnew =>
      split at hrow
      next hmissing =>
        rw [← Option.some.inj hrow]
        by_cases hd : dropped hour.2
        · rw [hkept hour hmissing (by omega) hd]
        · obtain ⟨_, -, -, hnone, -⟩ := mem_missing.mp hmissing
          rw [h.whole hour (halignedMissing hour hmissing) hnone hd]
      next => exact h.exact hour row hrow
  · rw [not_or] at hdropped
    rw [get?_rollup, if_neg hdropped.2] at hnone
    split at hnone
    next => cases hnone
    next hmissing =>
      rw [← h.whole hour haligned hnone hdropped.1]
      simp only [RollupTable.rollup, List.filter_filter]
      refine List.filter_congr fun s hs => ?_
      -- a sample of an hour that is not over is younger than the retention
      cases hwithin : f.within hour s with
      | false => simp
      | true =>
        have htime := h.nonneg s (h.stored.subset hs)
        have hhour := (within_iff htime haligned).mp hwithin
        have hopen : ¬f.time s < now / hourLength * hourLength := by
          intro hclosed
          exact hmissing (mem_missing.mpr ⟨s, hs, hclosed, hnone, hhour⟩)
        simp only [hourLength] at hopen hraw
        simp only [Bool.true_and, decide_eq_true_eq]
        omega

theorem Tells.counted (h : Tells f recorded dropped table) (hs : s ∈ recorded) (hgone : s ∉ table.samples) :
    dropped (f.hour s).2 ∨ ∃ row, table.rows.get? (f.hour s) = some row ∧ row = f.sum (recorded.filter (f.within (f.hour s))) ∧
      s ∈ recorded.filter (f.within (f.hour s)) := by
  have haligned : (f.hour s).2 % hourLength = 0 := Int.mul_emod_left ..
  have hmem : s ∈ recorded.filter (f.within (f.hour s)) :=
    List.mem_filter.mpr ⟨hs, (within_iff (h.nonneg s hs) haligned).mpr rfl⟩
  by_cases hdropped : dropped (f.hour s).2
  · exact .inl hdropped
  · right
    cases hrow : table.rows.get? (f.hour s) with
    | some row => exact ⟨row, rfl, h.exact _ row hrow, hmem⟩
    | none =>
      rw [← h.whole _ haligned hrow hdropped] at hmem
      exact absurd (List.mem_filter.mp hmem).1 hgone

end RollupTable
end Lib
