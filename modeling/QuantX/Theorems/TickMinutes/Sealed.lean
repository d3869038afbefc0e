import QuantX.Theorems.TickMinutes.Whole

namespace QuantX
open Lib

/-- A tick is late, of an older generation, or not after the last one of its stream. -/
def MinuteState.Outdated (state : MinuteState) (tick : MarketTick) : Prop :=
  tick.time < state.lastObservedAt ∨ 0 < state.lineage.1 ∧ (tick.continuityGeneration < state.lineage.1 ∨
    tick.lineage = state.lineage ∧ tick.marketStreamSequence ≤ state.sequence)

namespace TickMinutes
variable {feed : ℕ → MarketTick} {interval : Rat} {log : List TickMoment} {s : Option MinuteState}

theorem delivered_of_lastTaken {last : ℕ} (h : lastTaken feed log = some last) : Delivered log last := by
  induction log with
  | nil => cases h
  | cons m log ih =>
    rw [lastTaken] at h
    split at h
    · cases h
      exact delivered_cons.mpr (.inl rfl)
    · exact (ih h).cons

theorem gapless_of_delivered {d : TickDelivery} (h : ∀ i, Delivered log i ↔ i < d.index) : Gapless feed log s d := by
  intro state last _ _ _ hlast
  exact ⟨(h last).mp (delivered_of_lastTaken hlast), fun i _ hi => (h i).mpr hi⟩

theorem handle_outdated {state : MinuteState} {tick : MarketTick} (hcounts : tick.counts = true) (h : state.Outdated tick)
    (reset handled : Bool) : handleTickGenerated1m interval (some state) tick reset handled = (some state, []) := by
  have hrefuses : state.refuses tick = true := by
    simp only [MinuteState.refuses, decide_eq_true_eq]
    rcases h with h | ⟨hpos, h | ⟨hlineage, h⟩⟩
    · exact .inl h
    · rw [if_pos hpos.ne']
      exact .inr (.inr (.inl h))
    · rw [if_pos hpos.ne', ← hlineage]
      exact .inr (.inr (.inr ⟨rfl, .inr h⟩))
  cases hbuild : buildTickGeneratedKline (some state) tick reset handled with
  | ok after =>
    obtain ⟨_, -, -, hnot, -⟩ := MinuteState.build_ok hbuild
    rw [(hnot state rfl).2] at hrefuses
    cases hrefuses
  | error left =>
    rw [MinuteState.handle_error interval hbuild]
    rcases MinuteState.build_error hbuild with ⟨-, hnot⟩ | ⟨rfl, -⟩
    · rw [hcounts] at hnot
      cases hnot
    · rfl

variable {session : EngineArchiveSession} {stockCode : String}

theorem rank_of_grows {candidate later : ArchiveCandidate} {revision revision' : ArchiveRevision} (h : Grows candidate later)
    (hrevision : session.request stockCode candidate = some revision) (hrevision' : session.request stockCode later = some revision')
    (hminute : revision.minute = revision'.minute) :
    revision.rank < revision'.rank ∨ revision = revision' ∧ revision'.sealed = false := by
  obtain ⟨-, hpos, hsession, hutc, hgeneration, hsequence, hsealed, -⟩ := request_some hrevision
  obtain ⟨-, -, hsession', hutc', hgeneration', hsequence', hsealed', -⟩ := request_some hrevision'
  have htime : candidate.kline.time = later.kline.time := by
    rw [hutc, hutc'] at hminute
    simpa only [utc, sub_left_inj] using hminute
  have hepoch : revision.generation = revision'.generation := hsession.trans hsession'.symm
  simp only [ArchiveRevision.rank, ArchiveRevision.epoch, Prod.Lex.toLex_lt_toLex, toLex_inj, hepoch]
  rcases h htime hpos with hlt | ⟨heq, hlt | ⟨hsame, hopen, hclosed | rfl⟩⟩
  · exact .inl (.inl (.inr ⟨trivial, by simpa only [hgeneration, hgeneration'] using hlt⟩))
  · refine .inl (.inr ⟨?_, .inl ?_⟩)
    · rw [hgeneration, hgeneration', heq]
    · rwa [hsequence, hsequence']
  · refine .inl (.inr ⟨?_, .inr ⟨?_, ?_⟩⟩)
    · rw [hgeneration, hgeneration', heq]
    · rw [hsequence, hsequence', hsame]
    · rw [hsealed, hsealed', hopen, hclosed]
      decide
  · rw [hrevision] at hrevision'
    cases hrevision'
    exact .inr ⟨rfl, hsealed.trans hopen⟩

theorem offered_eq : offered feed interval session stockCode log = (allCandidates feed interval log).filterMap (session.request stockCode) := by
  induction log with
  | nil => rfl
  | cons m log ih => rw [offered, allCandidates, List.filterMap_append, ih, revisions]

/-- Where no tick was passed by when the aggregate was continued, a sealed revision is of its whole minute, which of a
    feed in order are all its ticks. Of two revisions of a minute the later ranks higher or is the same unsealed one.
    Outdated ticks change nothing. -/
theorem sealed_minutes (feed : ℕ → MarketTick) (interval : Rat) (session : EngineArchiveSession) (stockCode : String)
    {log : List TickMoment} {s : Option MinuteState} (h : TickRun feed interval log s) :
    ((∀ later m earlier, log = later ++ m :: earlier → Gapless feed earlier m.before m.op) →
      ∀ later m earlier, log = later ++ m :: earlier → ∀ revision ∈ revisions feed interval session stockCode m, revision.sealed = true →
        ∃ streamId first before ticks closing last, session.uuid streamId = some revision.streamId ∧
          WholeMinute feed earlier m.op.index revision streamId first before ticks closing last ∧
          (InSourceOrder feed → ∀ n, m.op.index ≤ n →
            ticks = (stretch feed 0 n).filter (ofMinute (revision.continuityGeneration, streamId) revision.minute))) ∧
      (offered feed interval session stockCode log).Pairwise (fun earlier later => earlier.minute = later.minute →
        earlier.rank < later.rank ∨ earlier = later ∧ later.sealed = false) ∧
      ∀ state tick reset handled, s = some state → tick.counts = true → state.Outdated tick →
        handleTickGenerated1m interval s tick reset handled = (s, []) := by
  refine ⟨fun hgapless => ?_, ?_, ?_⟩
  · refine (h.restrict hgapless).each ?_
    intro log s d hrun hlegal revision hrevision hsealed
    obtain ⟨streamId, first, before, ticks, closing, last, hstream, hwhole⟩ := (followed hrun).whole hlegal hrevision hsealed
    exact ⟨streamId, first, before, ticks, closing, last, hstream, hwhole, fun hordered n hn => hwhole.ticks_eq hordered n hn⟩
  · rw [offered_eq]
    refine (ranked h).grows.filterMap (session.request stockCode) ?_
    intro candidate later hgrows revision hrevision revision' hrevision'
    exact rank_of_grows hgrows hrevision hrevision'
  · rintro state tick reset handled rfl hcounts houtdated
    exact handle_outdated hcounts houtdated reset handled

/-! ### A morning -/

def morningTick (time : Int) (price volume : Rat) (sequence : Int) : MarketTick :=
  ⟨time, price, price, price, price, 9, 0, volume, 0, 0, 0, 1, "stream", sequence, false⟩

/-- Ticks of 9:30:10, 9:31:05, 9:31:40 and 9:32:01, and then one each microsecond. -/
def morningFeed : ℕ → MarketTick
  | 0 => morningTick 34210000000 10 100 1
  | 1 => morningTick 34265000000 11 150 2
  | 2 => morningTick 34300000000 8 180 3
  | n + 3 => morningTick (34321000000 + n) 9 200 (n + 4)

def morningSession : EngineArchiveSession := ⟨1, fun _ => true, fun id => some id, fun _ => 2026⟩

def morningOps (n : ℕ) : List TickDelivery := (List.range n).map fun i => ⟨i, false, true⟩

def morningLog (n : ℕ) : List TickMoment := (play (step morningFeed 10) none (morningOps n)).1

theorem morning_run (n : ℕ) : TickRun morningFeed 10 (morningLog n) (play (step morningFeed 10) none (morningOps n)).2 :=
  @Run.of_play _ _ (· = none) (step morningFeed 10) none rfl (morningOps n)

/-- The last tick of a minute is offered when it comes and again when the minute is finished. -/
theorem repeated_revision : ∃ log s, TickRun morningFeed 10 log s ∧ log.map Moment.op = [⟨1, false, true⟩, ⟨0, false, true⟩] ∧
    ¬ (offered morningFeed 10 morningSession "600000.SH" log).Pairwise fun earlier later =>
      earlier.minute = later.minute → earlier.rank < later.rank := by
  refine ⟨_, _, morning_run 2, rfl, fun hgrows => ?_⟩
  have hlength : 1 < (offered morningFeed 10 morningSession "600000.SH" (morningLog 2)).length := by decide +kernel
  have hsame : (offered morningFeed 10 morningSession "600000.SH" (morningLog 2))[0]? =
      (offered morningFeed 10 morningSession "600000.SH" (morningLog 2))[1]? := by decide +kernel
  have hlt := List.pairwise_iff_getElem.mp hgrows 0 1 (Nat.zero_lt_of_lt hlength) hlength Nat.zero_lt_one
  rw [List.getElem?_eq_getElem hlength, List.getElem?_eq_getElem (Nat.zero_lt_of_lt hlength)] at hsame
  rw [Option.some.inj hsame] at hlt
  exact lt_irrefl _ (hlt rfl)

theorem morning_gapless : ∀ later m earlier, morningLog 4 = later ++ m :: earlier → Gapless morningFeed earlier m.before m.op := by
  intro later m earlier hlog
  have hops : (morningLog 4).map (·.op.index) = [3, 2, 1, 0] := rfl
  rw [hlog, List.map_append, List.map_cons] at hops
  apply gapless_of_delivered
  intro i
  have hdelivered : Delivered earlier i ↔ i ∈ earlier.map (·.op.index) := by simp [Delivered]
  rw [hdelivered]
  rcases later with _ | ⟨_, _ | ⟨_, _ | ⟨_, _ | ⟨_, later⟩⟩⟩⟩
  · simp at hops
    grind
  · simp at hops
    grind
  · simp at hops
    grind
  · simp at hops
    grind
  · simp at hops

def lastMorningMoment : TickMoment :=
  ⟨(play (step morningFeed 10) none (morningOps 3)).2, ⟨3, false, true⟩, (play (step morningFeed 10) none (morningOps 4)).2⟩

/-- The minute of 9:31 is sealed when the tick of 9:32 comes, and it is whole. -/
theorem sealed_minutes_morning : ∃ revision ∈ revisions morningFeed 10 morningSession "600000.SH" lastMorningMoment,
    revision.sealed = true ∧ ∃ streamId first before ticks closing last,
      WholeMinute morningFeed (morningLog 3) 3 revision streamId first before ticks closing last := by
  obtain ⟨revision, hrevision, hsealed⟩ : ∃ revision ∈ revisions morningFeed 10 morningSession "600000.SH" lastMorningMoment,
      revision.sealed = true := by decide +kernel
  obtain ⟨streamId, first, before, ticks, closing, last, -, hwhole, -⟩ :=
    (sealed_minutes morningFeed 10 morningSession "600000.SH" (morning_run 4)).1 morning_gapless [] lastMorningMoment (morningLog 3) rfl
      revision hrevision hsealed
  exact ⟨revision, hrevision, hsealed, streamId, first, before, ticks, closing, last, hwhole⟩

end TickMinutes
end QuantX
