import QuantX.Engine.TickMinutes
import QuantX.Lib.Passing
import QuantX.Lib.Run

/-! Minutes generated from the ticks of a feed, delivered by two subscriptions in any order, with any losses. -/

namespace QuantX
open Lib

/-- A tick of the feed is handed over by a subscription, marked or not as the first one after a loss. -/
structure TickDelivery where
  index : ℕ
  reset : Bool
  /-- The archive has a handle for the instrument. -/
  handled : Bool
  deriving DecidableEq, Repr

abbrev TickMoment := Moment (Option MinuteState) TickDelivery

namespace MarketTick
variable {last tick other : MarketTick}

def counts (tick : MarketTick) : Bool := tick.price?.isSome ∧ isIntraday1mMinute tick.time ∧ tick.lineageBroken = false

/-- It is not before `last` in time, and after it in its generation and stream. -/
def follows (last tick : MarketTick) : Prop :=
  last.time ≤ tick.time ∧
    if last.continuityGeneration ≠ 0 then
      tick.hasLineage = true ∧ last.continuityGeneration ≤ tick.continuityGeneration ∧
        (tick.continuityGeneration = last.continuityGeneration →
          tick.marketStreamId = last.marketStreamId ∧ last.marketStreamSequence < tick.marketStreamSequence)
    else tick.hasLineage = true ∨ last.time ≠ tick.time

instance : DecidableRel follows := fun _ _ => inferInstanceAs (Decidable (_ ∧ _))

def passes (last : Option MarketTick) (tick : MarketTick) : Bool := tick.counts && last.all (follows · tick)

theorem generation_pos (h : tick.hasLineage = true) : 0 < tick.continuityGeneration := by
  simp only [hasLineage, decide_eq_true_eq] at h
  exact h.1

theorem follows_irrefl (tick : MarketTick) : ¬ follows tick tick := by
  rintro ⟨-, h⟩
  split at h
  · exact lt_irrefl _ (h.2.2 rfl).2
  · rename_i hzero
    rcases h with h | h
    · exact hzero (generation_pos h).ne'
    · exact h rfl

theorem follows_trans (h : follows last tick) (h' : follows tick other) : follows last other := by
  obtain ⟨htime, h⟩ := h
  obtain ⟨htime', h'⟩ := h'
  refine ⟨htime.trans htime', ?_⟩
  by_cases hlast : last.continuityGeneration ≠ 0
  · rw [if_pos hlast] at h ⊢
    obtain ⟨hlineage, hle, hsame⟩ := h
    rw [if_pos (generation_pos hlineage).ne'] at h'
    obtain ⟨hlineage', hle', hsame'⟩ := h'
    refine ⟨hlineage', hle.trans hle', fun heq => ?_⟩
    have htick : tick.continuityGeneration = last.continuityGeneration := le_antisymm (heq ▸ hle') hle
    obtain ⟨hstream, hlt⟩ := hsame htick
    obtain ⟨hstream', hlt'⟩ := hsame' (heq.trans htick.symm)
    exact ⟨hstream'.trans hstream, hlt.trans hlt'⟩
  · rw [if_neg hlast] at h ⊢
    by_cases htick : tick.continuityGeneration ≠ 0
    · rw [if_pos htick] at h'
      exact .inl h'.1
    · rw [if_neg htick] at h'
      rcases h' with h' | hne'
      · exact .inl h'
      · rcases h with h | -
        · exact absurd (generation_pos h).ne' htick
        · exact .inr fun heq => hne' (le_antisymm htime' (heq ▸ htime))

theorem passes_iff {last : Option MarketTick} : passes last tick = true ↔ tick.counts = true ∧ ∀ before ∈ last, follows before tick := by
  cases last <;> simp [passes]

theorem not_passes_of_passes {last : Option MarketTick} (h : passes last tick = true) (hother : passes last other = false) :
    passes (some tick) other = false := by
  cases hpasses : passes (some tick) other with
  | false => rfl
  | true =>
    obtain ⟨hcounts, hfollows⟩ := passes_iff.mp hpasses
    have hyes : passes last other = true :=
      passes_iff.mpr ⟨hcounts, fun before hbefore => follows_trans ((passes_iff.mp h).2 before hbefore) (hfollows tick rfl)⟩
    rw [hyes] at hother
    cases hother

theorem not_passes_self (tick : MarketTick) : passes (some tick) tick = false := by
  simp [passes, follows_irrefl]

theorem minute_mono (h : last.time ≤ tick.time) : last.minute ≤ tick.minute := by
  simp only [minute, minuteStart]
  omega

end MarketTick

namespace MinuteState
variable {s : Option MinuteState} {state after : MinuteState} {tick : MarketTick} {reset handled : Bool}
variable {last : MarketTick}

structure LastOf (state : MinuteState) (last : MarketTick) : Prop where
  minute : state.minute = last.minute
  lineage : state.lineage = last.lineage
  sequence : state.sequence = last.marketStreamSequence
  observed : state.lastObservedAt = last.time
  volume : state.lastCumulativeVolume = last.cumulativeVolume
  amount : state.lastCumulativeAmount = last.cumulativeAmount

theorem LastOf.refuses (h : state.LastOf last) : state.refuses tick = true ↔ ¬ last.follows tick := by
  simp only [MinuteState.refuses, MarketTick.follows, h.lineage, h.sequence, h.observed, MarketTick.lineage, decide_eq_true_eq]
  split <;> simp <;> grind

theorem LastOf.minute_le (h : state.LastOf last) (hf : last.follows tick) : state.minute ≤ tick.minute := by
  rw [h.minute]
  exact MarketTick.minute_mono hf.1

def continues (state : MinuteState) (tick : MarketTick) (deliveryReset : Bool) : Prop :=
  (tick.marketStreamReset || deliveryReset || state.restarts tick) = false

inductive Builds (s : Option MinuteState) (tick : MarketTick) (deliveryReset handled : Bool) (price : Rat) : MinuteState → Prop
  | start (reset : Bool) (h : ∀ state, s = some state → reset = true) :
      Builds s tick deliveryReset handled price (.open_ none tick price reset handled)
  | next {state : MinuteState} (hs : s = some state) (hc : state.continues tick deliveryReset) (h : state.minute < tick.minute) :
      Builds s tick deliveryReset handled price (.open_ (some state) tick price false handled)
  | extend {state : MinuteState} (hs : s = some state) (hc : state.continues tick deliveryReset) (h : ¬ state.minute < tick.minute) :
      Builds s tick deliveryReset handled price (state.extend tick price)

theorem build_ok (h : buildTickGeneratedKline s tick reset handled = .ok after) :
    ∃ price, tick.price? = some price ∧ tick.counts = true ∧ (∀ state, s = some state → state.minute ≤ tick.minute ∧ state.refuses tick = false) ∧
      Builds s tick reset handled price after := by
  simp only [buildTickGeneratedKline] at h
  split at h
  · cases h
  rename_i price hprice
  split at h
  · cases h
  rename_i hintraday
  split at h
  · cases h
  rename_i hminute
  split at h
  · cases h
  rename_i hlineage
  split at h
  · cases h
  rename_i hrefuses
  refine ⟨price, hprice, ?_, ?_, ?_⟩
  · simp_all [MarketTick.counts]
  · rintro state rfl
    exact ⟨by simpa using hminute, by simpa using hrefuses⟩
  · split at h
    · rename_i hstart
      cases h
      refine .start _ ?_
      rintro state rfl
      split at hstart
      · assumption
      · cases hstart
    · rename_i state hstate
      have hcontinues : s = some state ∧ (tick.marketStreamReset || reset || s.any (·.restarts tick)) = false := by
        split at hstate
        · cases hstate
        · exact ⟨hstate, by simp_all⟩
      obtain ⟨rfl, hc⟩ := hcontinues
      split at h
      · rename_i hminute
        cases h
        have hnext := @Builds.next (some state) tick reset handled price state rfl hc hminute
        rw [hc]
        exact hnext
      · rename_i hminute
        cases h
        exact .extend rfl hc hminute

theorem build_error {left : Option MinuteState} (h : buildTickGeneratedKline s tick reset handled = .error left) :
    (left = s.map breakOrigin ∧ tick.counts = false) ∨
      left = s ∧ (tick.counts = true → ∃ state, s = some state ∧ (tick.minute < state.minute ∨ state.refuses tick = true)) := by
  simp only [buildTickGeneratedKline] at h
  split at h
  · rename_i hprice
    cases h
    exact .inl ⟨rfl, by simp [MarketTick.counts, hprice]⟩
  split at h
  · rename_i hintraday
    cases h
    exact .inl ⟨rfl, by simp [MarketTick.counts, hintraday]⟩
  split at h
  · rename_i hearlier
    cases h
    obtain ⟨state, hstate, hlt⟩ := (Option.any_eq_true _ _).mp hearlier
    exact .inr ⟨rfl, fun _ => ⟨state, hstate, .inl (of_decide_eq_true hlt)⟩⟩
  split at h
  · rename_i hlineage
    cases h
    exact .inr ⟨rfl, fun hcounts => by simp [MarketTick.counts, hlineage] at hcounts⟩
  split at h
  · rename_i hrefuses
    cases h
    obtain ⟨state, hstate, hr⟩ := (Option.any_eq_true _ _).mp hrefuses
    exact .inr ⟨rfl, fun _ => ⟨state, hstate, .inr hr⟩⟩
  · split at h
    · cases h
    · split at h <;> cases h

theorem handle_ok (interval : Rat) (h : buildTickGeneratedKline s tick reset handled = .ok after) :
    ∃ saved : Bool, handleTickGenerated1m interval s tick reset handled =
      (some (if saved then after.markSaveAttempt tick else after), finishedMinute s after ++ if saved then [after.candidate false] else []) := by
  refine ⟨after.shouldSave tick interval, ?_⟩
  simp only [handleTickGenerated1m, h]
  split <;> simp

theorem handle_error (interval : Rat) {left : Option MinuteState} (h : buildTickGeneratedKline s tick reset handled = .error left) :
    handleTickGenerated1m interval s tick reset handled = (left, []) := by
  simp only [handleTickGenerated1m, h]

/-- A tick that extends the aggregate is of its lineage, and its cumulative values have not gone back. -/
theorem LastOf.extended (h : state.LastOf last) (hlast : last.counts = true) (hcounts : tick.counts = true)
    (hfollows : last.follows tick) (hc : state.continues tick reset) :
    tick.lineage = state.lineage ∧ last.cumulativeVolume ≤ tick.cumulativeVolume ∧ last.cumulativeAmount ≤ tick.cumulativeAmount := by
  simp only [continues, Bool.or_eq_false_iff] at hc
  obtain ⟨-, hrestarts⟩ := hc
  simp only [restarts, h.lineage, h.volume, h.amount, decide_eq_false_iff_not, not_or, not_lt] at hrestarts
  obtain ⟨hsame, hvolume, hamount, -⟩ := hrestarts
  refine ⟨?_, hvolume, hamount⟩
  rw [h.lineage]
  simp only [MarketTick.follows, MarketTick.lineage] at hfollows hsame ⊢
  by_cases hzero : last.continuityGeneration = 0
  · simp only [hzero, ne_eq, not_true_eq_false, if_false, MarketTick.counts, MarketTick.lineageBroken, MarketTick.hasLineage] at hsame hlast hcounts ⊢
    grind
  · simp only [hzero, ne_eq, not_false_eq_true, if_true, not_not] at hsame hfollows ⊢
    rw [hsame, (hfollows.2.2.2 hsame).1]

end MinuteState

/-! ### Aggregates -/

structure ArchiveBar.Tells (bar : ArchiveBar) (ticks : List MarketTick) : Prop where
  «open» : (ticks.filterMap MarketTick.price?).head? = some bar.open
  close : (ticks.filterMap MarketTick.price?).getLast? = some bar.close
  high : IsGreatest {price | price ∈ ticks.filterMap MarketTick.price?} bar.high
  low : IsLeast {price | price ∈ ticks.filterMap MarketTick.price?} bar.low

/-- The state aggregates the ticks that passed from `first` to `last`: those of its minute, after those before. -/
structure MinuteState.Aggregates (feed : ℕ → MarketTick) (state : MinuteState) (first last : ℕ) (before ticks : List MarketTick) : Prop where
  le : first ≤ last
  passing : passing MarketTick.passes none (stretch feed first (last + 1)) = before ++ ticks
  current : ticks.getLast? = some (feed last)
  counts : (feed last).counts = true
  lastOf : state.LastOf (feed last)
  time : state.kline.time = state.minute
  earlier : ∀ tick ∈ before, tick.minute < state.minute
  inside : ∀ tick ∈ ticks, tick.minute = state.minute
  lineage : ∀ tick ∈ before ++ ticks, tick.lineage = state.lineage
  tells : state.kline.bar.Tells ticks
  whole : state.originComplete = true → ∃ closing, before.getLast? = some closing ∧
    state.baseVolume = closing.cumulativeVolume ∧ state.baseAmount = closing.cumulativeAmount ∧
    closing.cumulativeVolume ≤ (feed last).cumulativeVolume ∧ closing.cumulativeAmount ≤ (feed last).cumulativeAmount ∧
    state.kline.volume = (feed last).cumulativeVolume - closing.cumulativeVolume ∧
    state.kline.amount = (feed last).cumulativeAmount - closing.cumulativeAmount

namespace MinuteState
variable {feed : ℕ → MarketTick} {state : MinuteState} {first last next : ℕ} {before ticks : List MarketTick} {price : Rat} {handled : Bool}

theorem tells_singleton {bar : ArchiveBar} {tick : MarketTick} (hprice : tick.price? = some price) (hopen : bar.open = price)
    (hhigh : bar.high = price) (hlow : bar.low = price) (hclose : bar.close = price) : bar.Tells [tick] := by
  constructor <;> simp [hprice, hopen, hhigh, hlow, hclose]

theorem tells_extend {tick : MarketTick} (h : state.kline.bar.Tells ticks) (hprice : tick.price? = some price) :
    (state.extend tick price).kline.bar.Tells (ticks ++ [tick]) := by
  obtain ⟨hopen, hclose, hhigh, hlow⟩ := h
  have hprices : (ticks ++ [tick]).filterMap MarketTick.price? = ticks.filterMap MarketTick.price? ++ [price] := by
    simp [hprice]
  have hset : {p | p ∈ ticks.filterMap MarketTick.price? ++ [price]} = insert price {p | p ∈ ticks.filterMap MarketTick.price?} := by
    ext p
    simp [or_comm]
  constructor <;> rw [hprices]
  · rw [List.head?_append, hopen]
    rfl
  · rw [List.getLast?_concat]
    rfl
  · have hinsert := hhigh.insert price
    rw [max_comm] at hinsert
    rwa [hset]
  · have hinsert := hlow.insert price
    rw [min_comm] at hinsert
    rwa [hset]

namespace Aggregates

theorem mark {tick : MarketTick} (h : state.Aggregates feed first last before ticks) :
    (state.markSaveAttempt tick).Aggregates feed first last before ticks :=
  { h with lastOf := ⟨h.lastOf.minute, h.lastOf.lineage, h.lastOf.sequence, h.lastOf.observed, h.lastOf.volume, h.lastOf.amount⟩ }

theorem breakOrigin (h : state.Aggregates feed first last before ticks) : state.breakOrigin.Aggregates feed first last before ticks :=
  { h with
    lastOf := ⟨h.lastOf.minute, h.lastOf.lineage, h.lastOf.sequence, h.lastOf.observed, h.lastOf.volume, h.lastOf.amount⟩
    whole := fun hwhole => by cases hwhole }

theorem passing_to (h : state.Aggregates feed first last before ticks) (hnext : last < next)
    (hbetween : ∀ i, last < i → i < next → MarketTick.passes (some (feed last)) (feed i) = false) :
    Lib.passing MarketTick.passes none (stretch feed first next) = before ++ ticks := by
  refine passing_stretch_succ _ feed h.le hnext h.passing ?_ hbetween
  rw [List.getLast?_append, h.current, Option.some_or]

theorem passing_succ (h : state.Aggregates feed first last before ticks) (hnext : last < next)
    (hbetween : ∀ i, last < i → i < next → MarketTick.passes (some (feed last)) (feed i) = false)
    (hpasses : MarketTick.passes (some (feed last)) (feed next) = true) :
    Lib.passing MarketTick.passes none (stretch feed first (next + 1)) = before ++ ticks ++ [feed next] := by
  rw [stretch_append feed (h.le.trans hnext.le) next.le_succ, passing_append, h.passing_to hnext hbetween, List.getLast?_append,
    h.current, Option.some_or, Option.some_or, stretch_one, Lib.passing, if_pos hpasses, passing_nil]

theorem start {reset : Bool} (hprice : (feed next).price? = some price) (hcounts : (feed next).counts = true) :
    (open_ none (feed next) price reset handled).Aggregates feed next next [] [feed next] where
  le := le_rfl
  passing := by
    have hpasses : MarketTick.passes none (feed next) = true := by simp [MarketTick.passes, hcounts]
    rw [stretch_one, Lib.passing, if_pos hpasses]
    rfl
  current := rfl
  counts := hcounts
  lastOf := ⟨rfl, rfl, rfl, rfl, rfl, rfl⟩
  time := rfl
  earlier := by simp
  inside := by simp [open_]
  lineage := by simp [open_]
  tells := tells_singleton hprice rfl rfl rfl rfl
  whole := by simp [open_]

variable {reset : Bool}

theorem nextMinute (h : state.Aggregates feed first last before ticks) (hnext : last < next)
    (hbetween : ∀ i, last < i → i < next → MarketTick.passes (some (feed last)) (feed i) = false)
    (hprice : (feed next).price? = some price) (hpasses : MarketTick.passes (some (feed last)) (feed next) = true)
    (hc : state.continues (feed next) reset) (hlt : state.minute < (feed next).minute) :
    (open_ (some state) (feed next) price false handled).Aggregates feed first next (before ++ ticks) [feed next] := by
  obtain ⟨hcounts, hfollows⟩ := MarketTick.passes_iff.mp hpasses
  obtain ⟨hlineage, hvolume, hamount⟩ := h.lastOf.extended h.counts hcounts (hfollows _ rfl) hc
  have hbaseVolume : max 0 state.lastCumulativeVolume = (feed last).cumulativeVolume := by
    rw [h.lastOf.volume]
    exact max_eq_right (le_max_left 0 _)
  have hbaseAmount : max 0 state.lastCumulativeAmount = (feed last).cumulativeAmount := by
    rw [h.lastOf.amount]
    exact max_eq_right (le_max_left 0 _)
  refine ⟨h.le.trans hnext.le, h.passing_succ hnext hbetween hpasses, rfl, hcounts, ⟨rfl, rfl, rfl, rfl, rfl, rfl⟩, rfl, ?_, ?_, ?_,
    tells_singleton hprice rfl rfl rfl rfl, fun _ => ?_⟩
  · intro tick htick
    rcases List.mem_append.mp htick with htick | htick
    · exact (h.earlier tick htick).trans hlt
    · rw [h.inside tick htick]
      exact hlt
  · simp [open_]
  · intro tick htick
    rcases List.mem_append.mp htick with htick | htick
    · exact (h.lineage tick htick).trans hlineage.symm
    · rw [List.mem_singleton.mp htick]
      rfl
  · refine ⟨feed last, ?_, hbaseVolume, hbaseAmount, hvolume, hamount, ?_, ?_⟩
    · rw [List.getLast?_append, h.current, Option.some_or]
    · simp only [open_, base, hbaseVolume]
      exact max_eq_right (sub_nonneg.mpr hvolume)
    · simp only [open_, base, hbaseAmount]
      exact max_eq_right (sub_nonneg.mpr hamount)

theorem extend (h : state.Aggregates feed first last before ticks) (hnext : last < next)
    (hbetween : ∀ i, last < i → i < next → MarketTick.passes (some (feed last)) (feed i) = false)
    (hprice : (feed next).price? = some price) (hpasses : MarketTick.passes (some (feed last)) (feed next) = true)
    (hc : state.continues (feed next) reset) (hle : ¬ state.minute < (feed next).minute) :
    (state.extend (feed next) price).Aggregates feed first next before (ticks ++ [feed next]) := by
  obtain ⟨hcounts, hfollows⟩ := MarketTick.passes_iff.mp hpasses
  obtain ⟨hlineage, hvolume, hamount⟩ := h.lastOf.extended h.counts hcounts (hfollows _ rfl) hc
  have hminute : state.minute = (feed next).minute := le_antisymm (h.lastOf.minute_le (hfollows _ rfl)) (not_lt.mp hle)
  refine ⟨h.le.trans hnext.le, ?_, List.getLast?_concat, hcounts, ⟨hminute, hlineage.symm, rfl, rfl, rfl, rfl⟩, h.time, h.earlier, ?_, ?_,
    tells_extend h.tells hprice, fun hwhole => ?_⟩
  · rw [← List.append_assoc]
    exact h.passing_succ hnext hbetween hpasses
  · intro tick htick
    rcases List.mem_append.mp htick with htick | htick
    · exact h.inside tick htick
    · rw [List.mem_singleton.mp htick]
      exact hminute.symm
  · intro tick htick
    rw [← List.append_assoc] at htick
    rcases List.mem_append.mp htick with htick | htick
    · exact h.lineage tick htick
    · rw [List.mem_singleton.mp htick]
      exact hlineage
  · obtain ⟨closing, hclosing, hbaseVolume, hbaseAmount, hleVolume, hleAmount, -, -⟩ := h.whole hwhole
    refine ⟨closing, hclosing, hbaseVolume, hbaseAmount, hleVolume.trans hvolume, hleAmount.trans hamount, ?_, ?_⟩
    · simp only [MinuteState.extend, hbaseVolume]
      exact max_eq_right (sub_nonneg.mpr (hleVolume.trans hvolume))
    · simp only [MinuteState.extend, hbaseAmount]
      exact max_eq_right (sub_nonneg.mpr (hleAmount.trans hamount))

end Aggregates
end MinuteState
end QuantX
