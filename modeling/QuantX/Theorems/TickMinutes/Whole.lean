import QuantX.Theorems.TickMinutes.Aggregates

namespace QuantX
open Lib

namespace TickMinutes
variable (feed : ℕ → MarketTick) (interval : Rat)

def taken (s : Option MinuteState) (d : TickDelivery) : Option MinuteState :=
  (buildTickGeneratedKline s (feed d.index) d.reset d.handled).toOption

def step (s : Option MinuteState) (d : TickDelivery) : Option MinuteState :=
  (handleTickGenerated1m interval s (feed d.index) d.reset d.handled).1

def candidates (m : TickMoment) : List ArchiveCandidate :=
  (handleTickGenerated1m interval m.before (feed m.op.index) m.op.reset m.op.handled).2

def Delivered (log : List TickMoment) (i : ℕ) : Prop := ∃ m ∈ log, m.op.index = i

def lastTaken : List TickMoment → Option ℕ
  | [] => none
  | m :: log => if (taken feed m.before m.op).isSome then some m.op.index else lastTaken log

/-- A tick that continues the aggregate comes after the last one taken, and every tick between the two was delivered. -/
def Gapless (log : List TickMoment) (s : Option MinuteState) (d : TickDelivery) : Prop :=
  ∀ state last, s = some state → (taken feed s d).isSome → state.continues (feed d.index) d.reset → lastTaken feed log = some last →
    last < d.index ∧ ∀ i, last < i → i < d.index → Delivered log i

abbrev TickRun (log : List TickMoment) (s : Option MinuteState) : Prop := Run (· = none) (step feed interval) (fun _ _ _ => True) log s

variable {feed interval} {log : List TickMoment} {s : Option MinuteState} {d : TickDelivery} {state : MinuteState}
variable {revision : ArchiveRevision}

theorem Delivered.cons {m : TickMoment} {i : ℕ} (h : Delivered log i) : Delivered (m :: log) i := by
  obtain ⟨m', hm', hi⟩ := h
  exact ⟨m', List.mem_cons_of_mem _ hm', hi⟩

theorem delivered_cons {m : TickMoment} {i : ℕ} : Delivered (m :: log) i ↔ i = m.op.index ∨ Delivered log i := by
  simp [Delivered, eq_comm]

theorem step_ok (interval : Rat) {after : MinuteState} (h : taken feed s d = some after) :
    ∃ saved : Bool, step feed interval s d = some (if saved then after.markSaveAttempt (feed d.index) else after) ∧
      candidates feed interval ⟨s, d, step feed interval s d⟩ =
        finishedMinute s after ++ if saved then [after.candidate false] else [] := by
  have hbuild : buildTickGeneratedKline s (feed d.index) d.reset d.handled = .ok after := by
    rw [taken] at h
    cases hbuild : buildTickGeneratedKline s (feed d.index) d.reset d.handled with
    | error left => rw [hbuild] at h; cases h
    | ok state => rw [hbuild] at h; cases h; rfl
  obtain ⟨saved, hhandle⟩ := MinuteState.handle_ok interval hbuild
  exact ⟨saved, by rw [step, hhandle], by rw [candidates, hhandle]⟩

theorem step_error (interval : Rat) (h : taken feed s d = none) :
    (step feed interval s d = s.map MinuteState.breakOrigin ∧ (feed d.index).counts = false ∨
      step feed interval s d = s ∧ ((feed d.index).counts = true →
        ∃ state, s = some state ∧ ((feed d.index).minute < state.minute ∨ state.refuses (feed d.index) = true))) ∧
      candidates feed interval ⟨s, d, step feed interval s d⟩ = [] := by
  rw [taken] at h
  cases hbuild : buildTickGeneratedKline s (feed d.index) d.reset d.handled with
  | ok state => rw [hbuild] at h; cases h
  | error left =>
    have hhandle := MinuteState.handle_error interval hbuild
    refine ⟨?_, by rw [candidates, hhandle]⟩
    rw [step, hhandle]
    exact MinuteState.build_error hbuild

theorem taken_ok {after : MinuteState} (h : taken feed s d = some after) :
    ∃ price, (feed d.index).price? = some price ∧ (feed d.index).counts = true ∧
      (∀ state, s = some state → state.minute ≤ (feed d.index).minute ∧ state.refuses (feed d.index) = false) ∧
      MinuteState.Builds s (feed d.index) d.reset d.handled price after := by
  rw [taken] at h
  cases hbuild : buildTickGeneratedKline s (feed d.index) d.reset d.handled with
  | error left => rw [hbuild] at h; cases h
  | ok state =>
    rw [hbuild] at h
    cases h
    exact MinuteState.build_ok hbuild

structure Followed (feed : ℕ → MarketTick) (log : List TickMoment) (s : Option MinuteState) : Prop where
  behind : ∀ i, Delivered log i → MarketTick.passes ((lastTaken feed log).map feed) (feed i) = false
  untaken : s = none → lastTaken feed log = none
  aggregates : ∀ state, s = some state → ∃ first last before ticks, lastTaken feed log = some last ∧
    (∀ i, first ≤ i → i ≤ last → Delivered log i) ∧ state.Aggregates feed first last before ticks

namespace Followed

theorem passes (h : Followed feed log s) (hcounts : (feed d.index).counts = true)
    (hrefuses : ∀ state, s = some state → state.minute ≤ (feed d.index).minute ∧ state.refuses (feed d.index) = false) :
    MarketTick.passes ((lastTaken feed log).map feed) (feed d.index) = true := by
  refine MarketTick.passes_iff.mpr ⟨hcounts, ?_⟩
  intro tick htick
  cases hs : s with
  | none => simp [h.untaken hs] at htick
  | some state =>
    obtain ⟨first, last, before, ticks, hlast, -, hagg⟩ := h.aggregates state hs
    rw [hlast] at htick
    cases htick
    by_contra hnot
    have hrefused := hagg.lastOf.refuses.mpr hnot
    rw [(hrefuses state hs).2] at hrefused
    cases hrefused

theorem not_passes (h : Followed feed log s) (hrefused : (feed d.index).counts = true →
    ∃ state, s = some state ∧ ((feed d.index).minute < state.minute ∨ state.refuses (feed d.index) = true)) :
    MarketTick.passes ((lastTaken feed log).map feed) (feed d.index) = false := by
  cases hpasses : MarketTick.passes ((lastTaken feed log).map feed) (feed d.index) with
  | false => rfl
  | true =>
    obtain ⟨hcounts, hfollows⟩ := MarketTick.passes_iff.mp hpasses
    obtain ⟨state, hs, hstate⟩ := hrefused hcounts
    obtain ⟨first, last, before, ticks, hlast, -, hagg⟩ := h.aggregates state hs
    have hlastFollows : (feed last).follows (feed d.index) := hfollows _ (by rw [hlast]; rfl)
    rcases hstate with hlt | hrefuses
    · exact absurd (hagg.lastOf.minute_le hlastFollows) hlt.not_ge
    · exact absurd hlastFollows (hagg.lastOf.refuses.mp hrefuses)

theorem between (h : Followed feed log s) {last : ℕ} (hlast : lastTaken feed log = some last)
    (hdelivered : ∀ i, last < i → i < d.index → Delivered log i) :
    ∀ i, last < i → i < d.index → MarketTick.passes (some (feed last)) (feed i) = false := by
  intro i hi hi'
  have hbehind := h.behind i (hdelivered i hi hi')
  rwa [hlast] at hbehind

theorem left (h : Followed feed log s) (htaken : taken feed s d = none) : Followed feed (⟨s, d, step feed interval s d⟩ :: log) (step feed interval s d) := by
  have hlast : lastTaken feed (⟨s, d, step feed interval s d⟩ :: log) = lastTaken feed log := by simp [lastTaken, htaken]
  obtain ⟨hcases, -⟩ := step_error interval htaken
  have hnot : MarketTick.passes ((lastTaken feed log).map feed) (feed d.index) = false := by
    rcases hcases with ⟨-, hcounts⟩ | ⟨-, hrefused⟩
    · simp [MarketTick.passes, hcounts]
    · exact h.not_passes hrefused
  refine ⟨?_, ?_, ?_⟩
  · intro i hi
    rw [hlast]
    rcases delivered_cons.mp hi with rfl | hi
    · exact hnot
    · exact h.behind i hi
  · intro hnone
    rw [hlast]
    apply h.untaken
    rcases hcases with ⟨heq, -⟩ | ⟨heq, -⟩
    · rw [heq] at hnone
      exact Option.map_eq_none_iff.mp hnone
    · rw [← heq]
      exact hnone
  · intro state hstate
    rcases hcases with ⟨heq, -⟩ | ⟨heq, -⟩
    · rw [heq] at hstate
      obtain ⟨old, hold, rfl⟩ := Option.map_eq_some_iff.mp hstate
      obtain ⟨first, last, before, ticks, hlast', hdelivered, hagg⟩ := h.aggregates old hold
      exact ⟨first, last, before, ticks, hlast.trans hlast', fun i hi hi' => (hdelivered i hi hi').cons, hagg.breakOrigin⟩
    · rw [heq] at hstate
      obtain ⟨first, last, before, ticks, hlast', hdelivered, hagg⟩ := h.aggregates state hstate
      exact ⟨first, last, before, ticks, hlast.trans hlast', fun i hi hi' => (hdelivered i hi hi').cons, hagg⟩

theorem builds (h : Followed feed log s) (hgapless : Gapless feed log s d) {after : MinuteState} (htaken : taken feed s d = some after) :
    ∃ first before ticks, first ≤ d.index ∧ (∀ i, first ≤ i → i < d.index → Delivered log i) ∧
      after.Aggregates feed first d.index before ticks := by
  obtain ⟨price, hprice, hcounts, hrefuses, hbuilds⟩ := taken_ok htaken
  have hpasses := h.passes hcounts hrefuses
  have hcontinued : ∀ state, s = some state → state.continues (feed d.index) d.reset → ∃ first last before ticks,
      lastTaken feed log = some last ∧ state.Aggregates feed first last before ticks ∧ last < d.index ∧
      (∀ i, first ≤ i → i < d.index → Delivered log i) ∧ MarketTick.passes (some (feed last)) (feed d.index) = true ∧
      ∀ i, last < i → i < d.index → MarketTick.passes (some (feed last)) (feed i) = false := by
    intro state hs hc
    obtain ⟨first, last, before, ticks, hlast, hdelivered, hagg⟩ := h.aggregates state hs
    obtain ⟨hlt, hbetween⟩ := hgapless state last hs (by rw [htaken]; rfl) hc hlast
    rw [hlast] at hpasses
    refine ⟨first, last, before, ticks, hlast, hagg, hlt, fun i hi hi' => ?_, hpasses, h.between hlast hbetween⟩
    rcases Nat.lt_or_ge last i with hi'' | hi''
    · exact hbetween i hi'' hi'
    · exact hdelivered i hi hi''
  cases hbuilds with
  | start reset _ => exact ⟨d.index, [], _, le_rfl, fun i hi hi' => absurd hi' hi.not_gt, .start hprice hcounts⟩
  | next hs hc hlt =>
    obtain ⟨first, last, before, ticks, -, hagg, hnext, hdelivered, hpass, hbetween⟩ := hcontinued _ hs hc
    exact ⟨first, _, _, hagg.le.trans hnext.le, hdelivered, hagg.nextMinute hnext hbetween hprice hpass hc hlt⟩
  | extend hs hc hle =>
    obtain ⟨first, last, before, ticks, -, hagg, hnext, hdelivered, hpass, hbetween⟩ := hcontinued _ hs hc
    exact ⟨first, _, _, hagg.le.trans hnext.le, hdelivered, hagg.extend hnext hbetween hprice hpass hc hle⟩

theorem took (h : Followed feed log s) (hgapless : Gapless feed log s d) {after : MinuteState} (htaken : taken feed s d = some after) :
    Followed feed (⟨s, d, step feed interval s d⟩ :: log) (step feed interval s d) := by
  have hlast : lastTaken feed (⟨s, d, step feed interval s d⟩ :: log) = some d.index := by simp [lastTaken, htaken]
  obtain ⟨price, hprice, hcounts, hrefuses, -⟩ := taken_ok htaken
  have hpasses := h.passes hcounts hrefuses
  obtain ⟨saved, hstep, -⟩ := step_ok interval htaken
  obtain ⟨first, before, ticks, hle, hdelivered, hagg⟩ := h.builds hgapless htaken
  refine ⟨?_, ?_, ?_⟩
  · intro i hi
    rw [hlast]
    rcases delivered_cons.mp hi with rfl | hi
    · exact MarketTick.not_passes_self _
    · exact MarketTick.not_passes_of_passes hpasses (h.behind i hi)
  · intro hnone
    rw [hstep] at hnone
    cases hnone
  · intro state hstate
    rw [hstep] at hstate
    cases hstate
    refine ⟨first, d.index, before, ticks, hlast, fun i hi hi' => ?_, ?_⟩
    · rcases hi'.eq_or_lt with rfl | hi'
      · exact delivered_cons.mpr (.inl rfl)
      · exact (hdelivered i hi hi').cons
    · cases saved with
      | false => exact hagg
      | true => exact hagg.mark

end Followed
theorem followed (h : Run (· = none) (step feed interval) (Gapless feed) log s) : Followed feed log s := by
  refine h.invariant (Followed feed) ?_ ?_
  · rintro _ rfl
    exact ⟨by simp [Delivered], fun _ => rfl, by simp⟩
  · intro log s d ih hgapless
    cases htaken : taken feed s d with
    | none => exact ih.left htaken
    | some after => exact ih.took hgapless htaken

/-! ### Revisions -/

def InSourceOrder (feed : ℕ → MarketTick) : Prop := ∀ i j, i < j → (feed i).time ≤ (feed j).time ∧
  ((feed i).lineage = (feed j).lineage → (feed i).hasLineage = true → (feed i).marketStreamSequence < (feed j).marketStreamSequence)

def revisions (feed : ℕ → MarketTick) (interval : Rat) (session : EngineArchiveSession) (stockCode : String) (m : TickMoment) :
    List ArchiveRevision := (candidates feed interval m).filterMap (session.request stockCode)

def offered (feed : ℕ → MarketTick) (interval : Rat) (session : EngineArchiveSession) (stockCode : String) :
    List TickMoment → List ArchiveRevision
  | [] => []
  | m :: log => offered feed interval session stockCode log ++ revisions feed interval session stockCode m

def ofMinute (lineage : Int × String) (minute : Int) (tick : MarketTick) : Bool :=
  tick.counts ∧ tick.lineage = lineage ∧ utc tick.minute = minute

/-- From `first` on every tick before `next` was delivered, and those that pass are the minute's ticks after earlier
    ones. -/
structure WholeMinute (feed : ℕ → MarketTick) (log : List TickMoment) (next : ℕ) (revision : ArchiveRevision) (streamId : String)
    (first : ℕ) (before ticks : List MarketTick) (closing last : MarketTick) : Prop where
  delivered : ∀ i, first ≤ i → i < next → Delivered log i
  passing : passing MarketTick.passes none (stretch feed first next) = before ++ ticks
  closed : before.getLast? = some closing
  ended : ticks.getLast? = some last
  lineage : ∀ tick ∈ before ++ ticks, tick.lineage = (revision.continuityGeneration, streamId)
  before : ∀ tick ∈ before, utc tick.minute < revision.minute
  inside : ∀ tick ∈ ticks, utc tick.minute = revision.minute
  after : revision.minute < utc (feed next).minute
  tells : revision.bar.Tells ticks
  volume : revision.bar.volume = last.cumulativeVolume - closing.cumulativeVolume
  amount : revision.bar.amount = last.cumulativeAmount - closing.cumulativeAmount

theorem request_some {session : EngineArchiveSession} {stockCode : String} {candidate : ArchiveCandidate}
    (h : session.request stockCode candidate = some revision) :
    session.uuid candidate.lineage.2 = some revision.streamId ∧ 0 < candidate.lineage.1 ∧ revision.generation = session.generation ∧
      revision.minute = utc candidate.kline.time ∧ revision.continuityGeneration = candidate.lineage.1 ∧
      revision.sequence = candidate.sequence ∧ revision.sealed = candidate.sealed ∧ revision.bar = candidate.kline.bar := by
  simp only [EngineArchiveSession.request] at h
  split at h
  · cases h
  rename_i streamId hstream
  split at h
  · rename_i hpos
    split at h
    · cases h
      exact ⟨hstream, hpos.2.1, rfl, rfl, rfl, rfl, rfl, rfl⟩
    · cases h
  · cases h

namespace WholeMinute
variable {revision : ArchiveRevision} {streamId : String} {next first : ℕ} {before ticks : List MarketTick} {closing last : MarketTick}

theorem passing_eq (h : WholeMinute feed log next revision streamId first before ticks closing last) (hordered : InSourceOrder feed) :
    before ++ ticks = (stretch feed first next).filter fun tick =>
      tick.counts ∧ tick.lineage = (revision.continuityGeneration, streamId) := by
  rw [← h.passing]
  refine passing_eq_filter _ ?_ ?_ ?_
  · intro tick htick
    obtain ⟨_, hpasses⟩ := passes_of_mem_passing _ htick
    rw [h.passing] at htick
    simpa using ⟨(MarketTick.passes_iff.mp hpasses).1, h.lineage tick htick⟩
  · have hpairwise := pairwise_stretch feed (R := fun tick other => tick.time ≤ other.time ∧ (tick.lineage = other.lineage →
      tick.hasLineage = true → tick.marketStreamSequence < other.marketStreamSequence)) hordered first next
    refine hpairwise.imp ?_
    intro tick other hlater htick hother
    simp only [decide_eq_true_eq] at htick hother
    have hlineage : tick.lineage = other.lineage := htick.2.trans hother.2.symm
    have hgeneration : tick.continuityGeneration = revision.continuityGeneration := congrArg Prod.fst htick.2
    have hpos := revision.continuity_pos
    have hne : tick.continuityGeneration ≠ 0 := by omega
    have hhas : ∀ tick : MarketTick, tick.counts = true → tick.continuityGeneration ≠ 0 → tick.hasLineage = true := by
      intro tick hcounts hne
      simp only [MarketTick.counts, MarketTick.lineageBroken, decide_eq_true_eq, decide_eq_false_iff_not] at hcounts
      grind
    have hotherGeneration : other.continuityGeneration = tick.continuityGeneration := congrArg Prod.fst hlineage.symm
    refine MarketTick.passes_iff.mpr ⟨hother.1, ?_⟩
    rintro _ ⟨⟩
    refine ⟨hlater.1, ?_⟩
    rw [if_pos hne]
    exact ⟨hhas other hother.1 (hotherGeneration ▸ hne), hotherGeneration.ge, fun _ =>
      ⟨congrArg Prod.snd hlineage.symm, hlater.2 hlineage (hhas tick htick.1 hne)⟩⟩
  · intro tick _ htick
    simp only [decide_eq_true_eq] at htick
    exact MarketTick.passes_iff.mpr ⟨htick.1, by simp⟩

theorem ticks_eq (h : WholeMinute feed log next revision streamId first before ticks closing last) (hordered : InSourceOrder feed)
    (n : ℕ) (hn : next ≤ n) : ticks = (stretch feed 0 n).filter (ofMinute (revision.continuityGeneration, streamId) revision.minute) := by
  have hminute : ∀ i j, i ≤ j → utc (feed i).minute ≤ utc (feed j).minute := by
    intro i j hij
    rcases hij.eq_or_lt with rfl | hlt
    · exact le_rfl
    · exact Int.sub_le_sub_right (MarketTick.minute_mono (hordered i j hlt).1) _
  obtain ⟨i₀, hi₀, hi₀', hfeed⟩ : ∃ i, first ≤ i ∧ i < next ∧ feed i = closing := by
    apply (mem_stretch feed).mp
    apply mem_of_mem_passing MarketTick.passes
    rw [h.passing]
    exact List.mem_append_left _ (List.mem_of_getLast? h.closed)
  have hfirst : first ≤ next := hi₀.trans hi₀'.le
  have hearlier : (stretch feed 0 first).filter (ofMinute (revision.continuityGeneration, streamId) revision.minute) = [] := by
    apply List.filter_eq_nil_iff.mpr
    intro tick htick hof
    obtain ⟨i, -, hi, rfl⟩ := (mem_stretch feed).mp htick
    simp only [ofMinute, decide_eq_true_eq] at hof
    have hle := hminute i i₀ (hi.le.trans hi₀)
    have hlt := h.before closing (List.mem_of_getLast? h.closed)
    rw [← hfeed] at hlt
    omega
  have hlater : (stretch feed next n).filter (ofMinute (revision.continuityGeneration, streamId) revision.minute) = [] := by
    apply List.filter_eq_nil_iff.mpr
    intro tick htick hof
    obtain ⟨i, hi, -, rfl⟩ := (mem_stretch feed).mp htick
    simp only [ofMinute, decide_eq_true_eq] at hof
    have hle := hminute next i hi
    have hlt := h.after
    omega
  have hbefore : before.filter (utc ·.minute = revision.minute) = [] := by
    apply List.filter_eq_nil_iff.mpr
    intro tick htick hof
    exact (h.before tick htick).ne (of_decide_eq_true hof)
  have hticks : ticks.filter (utc ·.minute = revision.minute) = ticks := by
    apply List.filter_eq_self.mpr
    intro tick htick
    exact decide_eq_true (h.inside tick htick)
  calc ticks = (before ++ ticks).filter (utc ·.minute = revision.minute) := by rw [List.filter_append, hbefore, hticks, List.nil_append]
    _ = (stretch feed first next).filter (ofMinute (revision.continuityGeneration, streamId) revision.minute) := by
        rw [h.passing_eq hordered, List.filter_filter]
        congr 1
        funext tick
        simp only [ofMinute, ← Bool.decide_and]
        congr 1
        exact propext (by tauto)
    _ = (stretch feed 0 n).filter (ofMinute (revision.continuityGeneration, streamId) revision.minute) := by
        rw [stretch_append feed (Nat.zero_le first) (hfirst.trans hn), stretch_append feed hfirst hn, List.filter_append,
          List.filter_append, hearlier, hlater, List.nil_append, List.append_nil]

end WholeMinute
/-- A revision is only sealed when its minute is finished by a tick that continues the aggregate. -/
theorem Followed.whole (h : Followed feed log s) (hgapless : Gapless feed log s d) {session : EngineArchiveSession} {stockCode : String}
    (hrevision : revision ∈ revisions feed interval session stockCode ⟨s, d, step feed interval s d⟩)
    (hsealed : revision.sealed = true) : ∃ streamId first before ticks closing last, session.uuid streamId = some revision.streamId ∧
      WholeMinute feed log d.index revision streamId first before ticks closing last := by
  obtain ⟨candidate, hcandidate, hrequest⟩ := List.mem_filterMap.mp hrevision
  obtain ⟨hstream, -, -, hminute, hgeneration, -, hsealed', hbar⟩ := request_some hrequest
  cases htaken : taken feed s d with
  | none =>
    rw [(step_error interval htaken).2] at hcandidate
    cases hcandidate
  | some after =>
    obtain ⟨saved, -, hcandidates⟩ := step_ok interval htaken
    rw [hcandidates] at hcandidate
    rcases List.mem_append.mp hcandidate with hfinished | hsaved
    · obtain ⟨previous, hprevious, rfl⟩ := List.mem_map.mp hfinished
      obtain ⟨hs, hlater⟩ := List.mem_filter.mp hprevious
      obtain ⟨hlt, hreset⟩ := of_decide_eq_true hlater
      have hs : s = some previous := by simpa using hs
      obtain ⟨first, last, before, ticks, hlast, hdelivered, hagg⟩ := h.aggregates previous hs
      have hwhole : previous.originComplete = true := hsealed'.symm.trans hsealed
      obtain ⟨price, -, hcounts, -, hbuilds⟩ := taken_ok htaken
      cases hbuilds with
      | start reset hstart => exact absurd (hstart previous hs) (by simpa [MinuteState.open_] using hreset)
      | extend hs' _ _ =>
        rw [hs'] at hs
        cases hs
        exact absurd hlt (by simp [MinuteState.extend, hagg.time])
      | @next state hs' hc hnext =>
        rw [hs'] at hs
        cases hs
        obtain ⟨hindex, hbetween⟩ := hgapless previous last hs' (by rw [htaken]; rfl) hc hlast
        obtain ⟨closing, hclosing, -, -, -, -, hvolume, hamount⟩ := hagg.whole hwhole
        have hutc : revision.minute = utc previous.minute := by rw [hminute, MinuteState.candidate, hagg.time]
        refine ⟨previous.lineage.2, first, before, ticks, closing, feed last, hstream, ?_, ?_, hclosing, hagg.current, ?_, ?_, ?_, ?_, ?_, ?_, ?_⟩
        · intro i hi hi'
          rcases Nat.lt_or_ge last i with hi'' | hi''
          · exact hbetween i hi'' hi'
          · exact hdelivered i hi hi''
        · exact hagg.passing_to hindex (h.between hlast hbetween)
        · intro tick htick
          rw [hgeneration]
          exact hagg.lineage tick htick
        · intro tick htick
          rw [hutc]
          exact Int.sub_lt_sub_right (hagg.earlier tick htick) _
        · intro tick htick
          rw [hutc, hagg.inside tick htick]
        · rw [hutc]
          exact Int.sub_lt_sub_right hnext _
        · rw [hbar]
          exact hagg.tells
        · rw [hbar]
          exact hvolume
        · rw [hbar]
          exact hamount
    · cases saved with
      | false => cases hsaved
      | true =>
        rw [List.mem_singleton.mp hsaved] at hsealed'
        rw [hsealed] at hsealed'
        cases hsealed'

/-! ### Revisions grow -/

end TickMinutes

def ArchiveCandidate.Before (candidate : ArchiveCandidate) (state : MinuteState) : Prop :=
  candidate.lineage.1 < state.lineage.1 ∨ candidate.lineage.1 = state.lineage.1 ∧ candidate.sequence < state.sequence

namespace MinuteState
variable {s : Option MinuteState} {state after : MinuteState} {tick : MarketTick} {reset handled : Bool} {price : Rat}

theorem ordinal_lt (h : state.refuses tick = false) (hpos : 0 < state.lineage.1) :
    state.lineage.1 < tick.continuityGeneration ∨
      state.lineage.1 = tick.continuityGeneration ∧ state.sequence < tick.marketStreamSequence := by
  simp only [refuses, hpos.ne', ne_eq, not_false_eq_true, if_true, decide_eq_false_iff_not] at h
  grind

theorem Builds.ordinal (h : Builds s tick reset handled price after) (hcounts : tick.counts = true) :
    after.lineage.1 = tick.continuityGeneration ∧ after.sequence = tick.marketStreamSequence := by
  cases h with
  | start | next => exact ⟨rfl, rfl⟩
  | @extend state _ hc _ =>
    refine ⟨?_, rfl⟩
    simp only [continues, restarts, Bool.or_eq_false_iff, decide_eq_false_iff_not] at hc
    simp only [MarketTick.counts, MarketTick.lineageBroken, MarketTick.hasLineage, decide_eq_true_eq, decide_eq_false_iff_not] at hc hcounts
    change state.lineage.1 = _
    grind

theorem Builds.minute (h : Builds s tick reset handled price after) (hle : ∀ state, s = some state → state.minute ≤ tick.minute) :
    after.minute = tick.minute := by
  cases h with
  | start | next => rfl
  | extend hs _ hnot =>
    have hstate := hle _ hs
    exact le_antisymm hstate (not_lt.mp hnot)

theorem Builds.time (h : Builds s tick reset handled price after) (htime : ∀ state, s = some state → state.kline.time = state.minute) :
    after.kline.time = after.minute := by
  cases h with
  | start | next => rfl
  | extend hs _ _ =>
    have hstate := htime _ hs
    exact hstate

end MinuteState

namespace TickMinutes
variable {feed : ℕ → MarketTick} {interval : Rat} {log : List TickMoment} {s : Option MinuteState} {d : TickDelivery}

def allCandidates (feed : ℕ → MarketTick) (interval : Rat) : List TickMoment → List ArchiveCandidate
  | [] => []
  | m :: log => allCandidates feed interval log ++ candidates feed interval m

/-- Of two candidates of a minute the later one is newer, or the same unsealed one. -/
def Grows (candidate later : ArchiveCandidate) : Prop :=
  candidate.kline.time = later.kline.time → 0 < candidate.lineage.1 →
    candidate.lineage.1 < later.lineage.1 ∨ candidate.lineage.1 = later.lineage.1 ∧
      (candidate.sequence < later.sequence ∨ candidate.sequence = later.sequence ∧ candidate.sealed = false ∧
        (later.sealed = true ∨ candidate = later))

structure Ranked (feed : ℕ → MarketTick) (interval : Rat) (log : List TickMoment) (s : Option MinuteState) : Prop where
  nothing : s = none → allCandidates feed interval log = []
  time : ∀ state, s = some state → state.kline.time = state.minute
  le : ∀ state, s = some state → ∀ candidate ∈ allCandidates feed interval log, candidate.kline.time ≤ state.minute
  current : ∀ state, s = some state → ∀ candidate ∈ allCandidates feed interval log, candidate.kline.time = state.minute →
    0 < candidate.lineage.1 → candidate.sealed = false ∧ (candidate.Before state ∨ candidate = state.candidate false)
  grows : (allCandidates feed interval log).Pairwise Grows

namespace Ranked

theorem left (h : Ranked feed interval log s) (htaken : taken feed s d = none) :
    Ranked feed interval (⟨s, d, step feed interval s d⟩ :: log) (step feed interval s d) := by
  obtain ⟨hcases, hnone⟩ := step_error interval htaken
  have hall : allCandidates feed interval (⟨s, d, step feed interval s d⟩ :: log) = allCandidates feed interval log := by
    rw [allCandidates, hnone, List.append_nil]
  rcases hcases with ⟨hstep, -⟩ | ⟨hstep, -⟩
  · refine ⟨fun hs => ?_, fun state hs => ?_, fun state hs => ?_, fun state hs => ?_, hall ▸ h.grows⟩
    · rw [hstep] at hs
      rw [hall]
      exact h.nothing (Option.map_eq_none_iff.mp hs)
    · rw [hstep] at hs
      obtain ⟨old, hold, rfl⟩ := Option.map_eq_some_iff.mp hs
      exact h.time old hold
    · rw [hstep] at hs
      obtain ⟨old, hold, rfl⟩ := Option.map_eq_some_iff.mp hs
      rw [hall]
      exact h.le old hold
    · rw [hstep] at hs
      obtain ⟨old, hold, rfl⟩ := Option.map_eq_some_iff.mp hs
      rw [hall]
      exact h.current old hold
  · rw [hstep]
    exact ⟨fun hs => hall.trans (h.nothing hs), h.time, fun state hs => hall ▸ h.le state hs, fun state hs => hall ▸ h.current state hs,
      hall ▸ h.grows⟩

theorem before_after (h : Ranked feed interval log s) {after : MinuteState} (htaken : taken feed s d = some after)
    {candidate : ArchiveCandidate} (hcandidate : candidate ∈ allCandidates feed interval log) (htime : candidate.kline.time = after.minute)
    (hpos : 0 < candidate.lineage.1) : candidate.sealed = false ∧ candidate.Before after := by
  obtain ⟨price, -, hcounts, hrefuses, hbuilds⟩ := taken_ok htaken
  cases hs : s with
  | none =>
    rw [h.nothing hs] at hcandidate
    cases hcandidate
  | some state =>
    obtain ⟨hle, hrefused⟩ := hrefuses state hs
    have hminute := hbuilds.minute fun state hs => (hrefuses state hs).1
    obtain ⟨hgeneration, hsequence⟩ := hbuilds.ordinal hcounts
    have hsame : candidate.kline.time = state.minute :=
      le_antisymm (h.le state hs candidate hcandidate) (hle.trans (htime.trans hminute).ge)
    obtain ⟨hsealed, hbefore⟩ := h.current state hs candidate hcandidate hsame hpos
    refine ⟨hsealed, ?_⟩
    rw [ArchiveCandidate.Before, hgeneration, hsequence]
    rcases hbefore with hbefore | hbefore
    · rcases hbefore with hlt | ⟨heq, hlt⟩
      · rcases MinuteState.ordinal_lt hrefused (hpos.trans hlt) with hlt' | ⟨heq', -⟩
        · exact .inl (hlt.trans hlt')
        · exact .inl (heq' ▸ hlt)
      · rcases MinuteState.ordinal_lt hrefused (heq ▸ hpos) with hlt' | ⟨heq', hlt'⟩
        · exact .inl (heq ▸ hlt')
        · exact .inr ⟨heq.trans heq', hlt.trans hlt'⟩
    · rw [hbefore] at hpos ⊢
      exact MinuteState.ordinal_lt hrefused hpos

theorem finished {candidate : ArchiveCandidate} {after : MinuteState} (h : candidate ∈ finishedMinute s after) :
    ∃ previous, s = some previous ∧ previous.minute < after.kline.time ∧ candidate = previous.candidate previous.originComplete := by
  obtain ⟨previous, hprevious, rfl⟩ := List.mem_map.mp h
  obtain ⟨hs, hlater⟩ := List.mem_filter.mp hprevious
  exact ⟨previous, by simpa using hs, (of_decide_eq_true hlater).1, rfl⟩

theorem took (h : Ranked feed interval log s) {after : MinuteState} (htaken : taken feed s d = some after) :
    Ranked feed interval (⟨s, d, step feed interval s d⟩ :: log) (step feed interval s d) := by
  obtain ⟨saved, hstep, hcandidates⟩ := step_ok interval htaken
  obtain ⟨price, -, hcounts, hrefuses, hbuilds⟩ := taken_ok htaken
  have hminute := hbuilds.minute fun state hs => (hrefuses state hs).1
  have htime := hbuilds.time h.time
  have hle : ∀ candidate ∈ allCandidates feed interval log, candidate.kline.time ≤ after.minute := by
    intro candidate hcandidate
    cases hs : s with
    | none =>
      rw [h.nothing hs] at hcandidate
      cases hcandidate
    | some state => exact (h.le state hs candidate hcandidate).trans (hminute ▸ (hrefuses state hs).1)
  -- What this step offers: the finished minute is an earlier one, and the minute itself is offered as it is now.
  have hnew : ∀ candidate ∈ candidates feed interval ⟨s, d, step feed interval s d⟩,
      candidate.kline.time < after.minute ∨ candidate = after.candidate false := by
    intro candidate hcandidate
    rw [hcandidates] at hcandidate
    rcases List.mem_append.mp hcandidate with hcandidate | hcandidate
    · obtain ⟨previous, hs, hlt, rfl⟩ := finished hcandidate
      rw [htime] at hlt
      exact .inl ((h.time previous hs).trans_lt hlt)
    · cases saved with
      | false => cases hcandidate
      | true => exact .inr (List.mem_singleton.mp hcandidate)
  have hsomeState : ∀ state, step feed interval s d = some state → state.minute = after.minute ∧ state.kline = after.kline ∧
      state.lineage = after.lineage ∧ state.sequence = after.sequence := by
    intro state hs
    rw [hstep] at hs
    cases hs
    cases saved with
    | false => exact ⟨rfl, rfl, rfl, rfl⟩
    | true => exact ⟨rfl, rfl, rfl, rfl⟩
  refine ⟨fun hs => ?_, fun state hs => ?_, fun state hs candidate hcandidate => ?_, fun state hs candidate hcandidate hsame hpos => ?_, ?_⟩
  · rw [hstep] at hs
    cases hs
  · obtain ⟨hm, hk, -, -⟩ := hsomeState state hs
    rw [hm, hk, htime]
  · rw [(hsomeState state hs).1]
    rcases List.mem_append.mp hcandidate with hcandidate | hcandidate
    · exact hle candidate hcandidate
    · rcases hnew candidate hcandidate with hlt | rfl
      · exact hlt.le
      · exact htime.le
  · obtain ⟨hm, hk, hl, hq⟩ := hsomeState state hs
    rw [hm] at hsame
    rcases List.mem_append.mp hcandidate with hcandidate | hcandidate
    · obtain ⟨hsealed, hbefore⟩ := h.before_after htaken hcandidate hsame hpos
      refine ⟨hsealed, .inl ?_⟩
      rw [ArchiveCandidate.Before, hl, hq]
      exact hbefore
    · rcases hnew candidate hcandidate with hlt | rfl
      · exact absurd hsame hlt.ne
      · refine ⟨rfl, .inr ?_⟩
        rw [MinuteState.candidate, MinuteState.candidate, hk, hl, hq]
  · rw [allCandidates, List.pairwise_append]
    refine ⟨h.grows, ?_, ?_⟩
    · rw [hcandidates, List.pairwise_append]
      refine ⟨?_, ?_, ?_⟩
      · cases s with
        | none => exact .nil
        | some previous =>
          rw [finishedMinute, Option.toList_some]
          exact List.pairwise_map.mpr ((List.pairwise_singleton _ _).filter _)
      · cases saved with
        | false => exact .nil
        | true => exact List.pairwise_singleton _ _
      · intro candidate hcandidate later hlater
        obtain ⟨previous, hs, hlt, rfl⟩ := finished hcandidate
        cases saved with
        | false => cases hlater
        | true =>
          rw [List.mem_singleton.mp hlater]
          intro hsame
          have hne : previous.kline.time < after.kline.time := (h.time previous hs).trans_lt hlt
          exact absurd hsame hne.ne
    · intro candidate hcandidate later hlater hsame hpos
      rcases hnew later hlater with hlt | rfl
      · rw [hcandidates] at hlater
        rcases List.mem_append.mp hlater with hlater | hlater
        · obtain ⟨previous, hs, -, rfl⟩ := finished hlater
          obtain ⟨hsealed, hbefore⟩ := h.current previous hs candidate hcandidate (hsame.trans (h.time previous hs)) hpos
          rcases hbefore with hbefore | rfl
          · rcases hbefore with hlt | ⟨heq, hlt⟩
            · exact .inl hlt
            · exact .inr ⟨heq, .inl hlt⟩
          · refine .inr ⟨rfl, .inr ⟨rfl, rfl, ?_⟩⟩
            cases hcomplete : previous.originComplete with
            | false => exact .inr rfl
            | true => exact .inl rfl
        · cases saved with
          | false => cases hlater
          | true =>
            rw [List.mem_singleton.mp hlater] at hlt
            exact absurd htime hlt.ne
      · obtain ⟨-, hbefore⟩ := h.before_after htaken hcandidate (hsame.trans htime) hpos
        rcases hbefore with hlt | ⟨heq, hlt⟩
        · exact .inl hlt
        · exact .inr ⟨heq, .inl hlt⟩

end Ranked

theorem ranked (h : TickRun feed interval log s) : Ranked feed interval log s := by
  refine h.invariant (Ranked feed interval) ?_ ?_
  · rintro _ rfl
    exact ⟨fun _ => rfl, by simp, by simp, by simp, .nil⟩
  · intro log s d ih _
    cases htaken : taken feed s d with
    | none => exact ih.left htaken
    | some after => exact ih.took htaken

end TickMinutes
end QuantX
