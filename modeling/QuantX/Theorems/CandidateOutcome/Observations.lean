import QuantX.TTrade.CandidateObservation

namespace QuantX
variable {definition : ObservationDefinition} {execution : CandidateExecutionOutcome} {o : CandidatePriceObservation} {last : Option Int}
  {ordinal since : Int}

theorem ObservationDefinition.verdict_taken : definition.verdict last ordinal since o = .taken ↔
    o.continuityGeneration = definition.continuityGeneration ∧ o.tradingHalted = false ∧ 0 < o.price ∧
      (∀ time ∈ last, toLex (time, ordinal) < o.identity) ∧ o.sourceTimeMs - last.getD since ≤ definition.maxObservationGapMs := by
  have hlater : (∀ time ∈ last, toLex (time, ordinal) < o.identity) ↔ ¬(last.any fun time => o.identity = toLex (time, ordinal)) = true ∧
      ¬(last.any fun time => o.identity < toLex (time, ordinal)) = true := by
    cases last with
    | none => simp
    | some time =>
      simp only [Option.mem_some_iff, forall_eq', Option.any_some, decide_eq_true_eq]
      exact ⟨fun h => ⟨h.ne', h.not_gt⟩, fun h => lt_of_le_of_ne (not_lt.mp h.2) (Ne.symm h.1)⟩
  rw [hlater, verdict]
  split_ifs with hgeneration hhalted hprice hrepeated hearlier hgap
  · exact iff_of_false (fun h => by cases h) fun h => hgeneration h.1
  · exact iff_of_false (fun h => by cases h) fun h => absurd (hhalted.symm.trans h.2.1) Bool.noConfusion
  · exact iff_of_false (fun h => by cases h) fun h => not_lt.mpr hprice h.2.2.1
  · exact iff_of_false (fun h => by cases h) fun h => h.2.2.2.1.1 hrepeated
  · exact iff_of_false (fun h => by cases h) fun h => h.2.2.2.1.2 hearlier
  · exact iff_of_false (fun h => by cases h) fun h => not_lt.mpr h.2.2.2.2 hgap
  · exact iff_of_true rfl ⟨not_not.mp hgeneration, Bool.eq_false_iff.mpr hhalted, not_le.mp hprice, ⟨hrepeated, hearlier⟩, not_lt.mp hgap⟩

theorem ObservationDefinition.verdict_again (h : definition.verdict last ordinal since o = .taken) :
    definition.verdict (some o.sourceTimeMs) o.tickOrdinal since o = .repeated := by
  obtain ⟨hgeneration, hhalted, hprice, -, -⟩ := verdict_taken.mp h
  have hsame : o.identity = toLex (o.sourceTimeMs, o.tickOrdinal) := rfl
  simp [verdict, hgeneration, hhalted, hprice, hsame]

theorem ObservationDefinition.verdict_zero (h : definition.verdict last ordinal since o = .taken) (hzero : o.tickOrdinal = 0) :
    definition.verdict (some o.sourceTimeMs) (-1) since o = .taken := by
  obtain ⟨hgeneration, hhalted, hprice, -, -⟩ := verdict_taken.mp h
  refine verdict_taken.mpr ⟨hgeneration, hhalted, hprice, fun time htime => ?_, ?_⟩
  · obtain rfl := Option.some.inj htime
    exact Prod.Lex.toLex_lt_toLex.mpr (.inr ⟨rfl, by simp [hzero]⟩)
  · rw [Option.getD_some, sub_self]
    exact definition.maxObservationGapMs_pos.le

theorem CandidateWindow.observe_again (w : CandidateWindow) : (w.observe definition o).observe definition o = w.observe definition o := by
  by_cases hstatus : w.status = .observing
  · have hobserve : w.observe definition o =
        w.judged definition o (definition.verdict w.lastSourceTimeMs (w.lastTickOrdinal.getD 0) definition.sourceTimeMs o) :=
      if_neg (not_not.mpr hstatus)
    cases hverdict : definition.verdict w.lastSourceTimeMs (w.lastTickOrdinal.getD 0) definition.sourceTimeMs o with
    | repeated =>
      have hsame : w.observe definition o = w := by rw [hobserve, hverdict]; rfl
      rw [hsame, hsame]
    | breaks reason =>
      have hbroken : w.observe definition o = w.makeUnavailable o reason := by rw [hobserve, hverdict]; rfl
      rw [hbroken]
      exact if_pos (by simp [makeUnavailable])
    | taken =>
      have htaken : w.observe definition o = w.take definition o := by rw [hobserve, hverdict]; rfl
      have hagain : definition.verdict (w.take definition o).lastSourceTimeMs ((w.take definition o).lastTickOrdinal.getD 0)
          definition.sourceTimeMs o = .repeated := ObservationDefinition.verdict_again hverdict
      rw [htaken, observe, hagain]
      exact ite_self _
  · have hsame : w.observe definition o = w := if_pos hstatus
    rw [hsame, hsame]

namespace PostFillWindow

/-- Some horizon still waits after an observation, or there is none. -/
def Open (w : PostFillWindow) (o : CandidatePriceObservation) : Prop :=
  w.horizons = [] ∨ ∃ horizon ∈ w.horizons, horizon.observedAtMs = none ∧ o.sourceTimeMs < horizon.deadlineMs

structure CountsTwice (w : PostFillWindow) (definition : ObservationDefinition) (o : CandidatePriceObservation) : Prop where
  zero : o.tickOrdinal = 0
  observing : w.status = .observing
  armed : w.armedAtMs.getD 0 < o.sourceTimeMs
  taken : definition.verdict w.lastSourceTimeMs w.lastOrdinal (w.armedAtMs.getD 0) o = .taken
  stays : w.Open o

theorem take_status {w : PostFillWindow} (h : w.status = .observing) : (w.take execution o).status = .observing ↔ w.Open o := by
  obtain ⟨observed, hobserved, hstatus⟩ : ∃ observed : CandidateHorizonOutcome → CandidateHorizonOutcome,
      (∀ horizon, (observed horizon).observedAtMs.isSome = false ↔ horizon.observedAtMs = none ∧ o.sourceTimeMs < horizon.deadlineMs) ∧
      (w.take execution o).status =
        if !(w.horizons.map observed).isEmpty && (w.horizons.map observed).all (·.observedAtMs.isSome) then .matured else w.status := by
    refine ⟨_, fun horizon => ?_, rfl⟩
    cases hseen : horizon.observedAtMs <;> by_cases hdue : horizon.deadlineMs ≤ o.sourceTimeMs <;>
      simp [CandidateHorizonOutcome.due, CandidateHorizonOutcome.observe, hseen, hdue, not_lt.mpr, not_le.mp]
  have hmatured : (!(w.horizons.map observed).isEmpty && (w.horizons.map observed).all (·.observedAtMs.isSome)) = true ↔ ¬w.Open o := by
    simp only [Open, Bool.and_eq_true, Bool.not_eq_true', List.isEmpty_eq_false_iff, ne_eq, List.map_eq_nil_iff, List.all_eq_true, List.mem_map,
      forall_exists_index, and_imp, forall_apply_eq_imp_iff₂, not_or, not_exists, ← hobserved, Bool.not_eq_false, not_and]
  rw [hstatus, h]
  split_ifs with hall
  · exact iff_of_false (fun h => by cases h) (hmatured.mp hall)
  · exact iff_of_true rfl (not_not.mp (mt hmatured.mpr hall))

theorem observe_eq {w : PostFillWindow} (hstatus : w.status = .observing) (harmed : w.armedAtMs.getD 0 < o.sourceTimeMs) :
    w.observe definition execution o =
      w.judged execution o (definition.verdict w.lastSourceTimeMs w.lastOrdinal (w.armedAtMs.getD 0) o) := by
  rw [observe, if_neg (not_not.mpr hstatus), if_neg (not_le.mpr harmed)]

theorem observe_again_iff (w : PostFillWindow) : (w.observe definition execution o).observe definition execution o =
    w.observe definition execution o ↔ ¬w.CountsTwice definition o := by
  have hstill : w.observe definition execution o = w → ((w.observe definition execution o).observe definition execution o =
      w.observe definition execution o) := fun h => by rw [h, h]
  by_cases hstatus : w.status = .observing
  · by_cases harmed : w.armedAtMs.getD 0 < o.sourceTimeMs
    · have hobserve : w.observe definition execution o =
          w.judged execution o (definition.verdict w.lastSourceTimeMs w.lastOrdinal (w.armedAtMs.getD 0) o) := observe_eq hstatus harmed
      have hstays : (w.take execution o).status = .observing ↔ w.Open o := take_status hstatus
      cases hverdict : definition.verdict w.lastSourceTimeMs w.lastOrdinal (w.armedAtMs.getD 0) o with
      | repeated =>
        refine iff_of_true (hstill (by rw [hobserve, hverdict]; rfl)) fun h => ?_
        exact absurd (hverdict.symm.trans h.taken) (by decide)
      | breaks reason =>
        refine iff_of_true ?_ fun h => absurd (hverdict.symm.trans h.taken) (by simp)
        have hbroken : (w.observe definition execution o).status = .unavailable := by rw [hobserve, hverdict]; rfl
        exact if_pos (by simp [hbroken])
      | taken =>
        have htaken : w.observe definition execution o = w.take execution o := by rw [hobserve, hverdict]; rfl
        rw [htaken]
        by_cases hopen : w.Open o
        · have hagain : (w.take execution o).observe definition execution o = (w.take execution o).judged execution o
              (definition.verdict (some o.sourceTimeMs) (w.take execution o).lastOrdinal (w.armedAtMs.getD 0) o) :=
            observe_eq (hstays.mpr hopen) harmed
          rw [hagain]
          by_cases hzero : o.tickOrdinal = 0
          · refine iff_of_false (fun hsame => ?_) (not_not.mpr ⟨hzero, hstatus, harmed, hverdict, hopen⟩)
            have hlast : (w.take execution o).lastOrdinal = -1 := by simp [lastOrdinal, take, hzero]
            rw [hlast, ObservationDefinition.verdict_zero hverdict hzero] at hsame
            have hcount : w.sampleCount + 1 + 1 = w.sampleCount + 1 := congrArg PostFillWindow.sampleCount hsame
            omega
          · refine iff_of_true ?_ fun h => hzero h.zero
            have hlast : (w.take execution o).lastOrdinal = o.tickOrdinal := by simp [lastOrdinal, take, hzero]
            rw [hlast, ObservationDefinition.verdict_again hverdict]
            rfl
        · exact iff_of_true (if_pos (mt hstays.mp hopen)) fun h => hopen h.stays
    · exact iff_of_true (hstill (by rw [observe, if_neg (not_not.mpr hstatus), if_pos (not_lt.mp harmed)])) fun h => harmed h.armed
  · exact iff_of_true (hstill (if_pos hstatus)) fun h => hstatus h.observing

end PostFillWindow

namespace ObservedOutcome

inductive OutcomeOp where
  | fill (fill : CandidateExecutionFill)
  | observe (o : CandidatePriceObservation)

def step (s : ObservedOutcome) : OutcomeOp → ObservedOutcome
  | .fill fill => (s.applyFill fill).1
  | .observe o => s.observe o

/-- Observations are delivered twice. -/
def redelivered : OutcomeOp → List OutcomeOp
  | .fill fill => [.fill fill]
  | .observe o => [.observe o, .observe o]

def CountsTwice (s : ObservedOutcome) (o : CandidatePriceObservation) : Prop :=
  s.definition.identity < o.identity ∧ s.postFill.CountsTwice s.definition o

theorem again_iff (s : ObservedOutcome) (o : CandidatePriceObservation) : (s.observe o).observe o = s.observe o ↔ ¬s.CountsTwice o := by
  by_cases hearly : o.identity ≤ s.definition.identity
  · have hsame : s.observe o = s := if_pos hearly
    rw [hsame, hsame]
    exact iff_of_true rfl fun h => not_lt.mpr hearly h.1
  · have honce : s.observe o = { s with window := s.window.observe s.definition o, postFill := s.postFill.observe s.definition s.execution o } :=
      if_neg hearly
    have htwice : (s.observe o).observe o = { s with
        window := (s.window.observe s.definition o).observe s.definition o
        postFill := (s.postFill.observe s.definition s.execution o).observe s.definition s.execution o } := by
      rw [honce]
      exact if_neg hearly
    have hcounts : s.CountsTwice o ↔ s.postFill.CountsTwice s.definition o := and_iff_right (not_le.mp hearly)
    have hpostFill : (s.postFill.observe s.definition s.execution o).observe s.definition s.execution o =
        s.postFill.observe s.definition s.execution o ↔ ¬s.postFill.CountsTwice s.definition o := s.postFill.observe_again_iff
    rw [htwice, honce, s.window.observe_again, hcounts, ← hpostFill]
    exact ⟨congrArg ObservedOutcome.postFill, fun h => by rw [h]⟩

theorem redelivered_run (ops : List OutcomeOp) (s : ObservedOutcome)
    (h : ∀ earlier o later, ops = earlier ++ .observe o :: later → ¬(earlier.foldl step s).CountsTwice o) :
    (ops.flatMap redelivered).foldl step s = ops.foldl step s := by
  induction ops generalizing s with
  | nil => rfl
  | cons op ops ih =>
    have hrest := ih (s.step op) fun earlier o later heq => h (op :: earlier) o later (by rw [heq, List.cons_append])
    rw [List.flatMap_cons, List.foldl_append, List.foldl_cons, ← hrest]
    cases op with
    | fill fill => rfl
    | observe o =>
      have hagain : (redelivered (.observe o)).foldl step s = s.step (.observe o) := (s.again_iff o).mpr (h [] o ops rfl)
      rw [hagain]

/-- An observation that comes again changes nothing exactly where it does not count twice; one not after the candidate
    changes nothing at all. So a run in which none counts twice ends as it does with each of them delivered again. -/
theorem observations_redelivered (s : ObservedOutcome) :
    (∀ o, (s.observe o).observe o = s.observe o ↔ ¬s.CountsTwice o) ∧
      (∀ o : CandidatePriceObservation, o.identity ≤ s.definition.identity → s.observe o = s) ∧
      ∀ ops : List OutcomeOp, (∀ earlier o later, ops = earlier ++ .observe o :: later → ¬(earlier.foldl step s).CountsTwice o) →
        (ops.flatMap redelivered).foldl step s = ops.foldl step s :=
  ⟨s.again_iff, fun _ hearly => if_pos hearly, fun ops => redelivered_run ops s⟩

/-- A candidate whose entry of 700 shares is complete two seconds after it. -/
def enteredOutcome : ObservedOutcome :=
  (start { sourceTimeMs := 1000, horizonsSeconds := [60], sourceTimeMs_nonneg := by decide, tickOrdinal := 7, continuityGeneration := "g1",
           referencePrice := 12, tickOrdinal_nonneg := by decide, referencePrice_pos := by decide, maxObservationGapMs_pos := by decide,
           horizonsSeconds_nonempty := by decide, horizonsSeconds_pos := by decide, horizonsSeconds_increasing := by decide }).step
    (.fill { fillId := "f1", role := .entry, sourceTimeMs := 3000, price := 13, volume := 700, fee := some 6, entryComplete := true,
             entryTargetVolume := some 700, price_pos := by decide, volume_pos := by decide, fee_nonneg := by simp, target_pos := by simp })

def observedAt (tickOrdinal : Int) : CandidatePriceObservation :=
  { sourceTimeMs := 4000, tickOrdinal, continuityGeneration := "g1", price := 11 }

/-- Delivered again, an observation with the ordinal zero is a second sample of the post-fill window. -/
theorem ordinal_zero_counted_twice : (enteredOutcome.observe (observedAt 0)).postFill.sampleCount = 1 ∧
    ((enteredOutcome.observe (observedAt 0)).observe (observedAt 0)).postFill.sampleCount = 2 ∧
    (enteredOutcome.observe (observedAt 0)).observe (observedAt 0) ≠ enteredOutcome.observe (observedAt 0) := by
  have honce : (enteredOutcome.observe (observedAt 0)).postFill.sampleCount = 1 := by decide +kernel
  have htwice : ((enteredOutcome.observe (observedAt 0)).observe (observedAt 0)).postFill.sampleCount = 2 := by decide +kernel
  refine ⟨honce, htwice, fun hsame => ?_⟩
  rw [hsame, honce] at htwice
  exact absurd htwice (by decide)

end ObservedOutcome
end QuantX
