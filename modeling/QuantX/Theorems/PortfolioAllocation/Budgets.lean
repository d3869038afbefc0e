import QuantX.Theorems.PortfolioAllocation.Verdict

namespace QuantX
open Lib

variable {hash : HashInput → String} {snapshot : PortfolioTDecisionSnapshot} {attempt now : Int} {rank : Nat}
  {budget left : AllocationBudget} {candidate : TAllocationCandidate} {verdict : Verdict} {envelope : TTradingEnvelope}
  {candidates candidates' : List TAllocationCandidate} {decisions : List TAllocationDecision} {cap : Rat} {unit : Int}
  {industry : String}

theorem Judged.takes (h : Judged snapshot now budget candidate verdict left) :
    let decision := decisionOf hash snapshot attempt now rank candidate (scheduleDelay now candidate verdict)
    (decision.granted = false ∧ decision.allocatedAmountCap = 0 ∧ left = budget) ∨
      ∃ envelope, snapshot.envelopeFor candidate.instrumentCode = some envelope ∧ decision.granted = true ∧
        candidate.instrumentCode ∉ budget.selectedSymbols ∧ budget.slots ≠ 0 ∧
        decision.allocatedAmountCap = budget.capFor snapshot.policy envelope candidate ∧
        candidate.conservativeLotCost ≤ budget.capFor snapshot.policy envelope candidate ∧
        left = budget.book envelope candidate (budget.capFor snapshot.policy envelope candidate) := by
  intro decision
  cases h with
  | refused blockers => exact .inl ⟨rfl, rfl, rfl⟩
  | delayed reason nextAt =>
    rcases scheduleDelay_delayed now candidate reason nextAt with ⟨next, h, -, -⟩ | ⟨blockers, h⟩
    · refine .inl ⟨?_, ?_, rfl⟩
      · simp only [decision, h]
        rfl
      · simp only [decision, h]
        rfl
    · refine .inl ⟨?_, ?_, rfl⟩
      · simp only [decision, h]
        rfl
      · simp only [decision, h]
        rfl
  | @allotted envelope action cap blockers henvelope hcausal hlive hfresh hslots haction hcap hlot =>
    subst hcap
    rcases haction with rfl | rfl
    · exact .inr ⟨envelope, henvelope, rfl, hfresh, hslots, rfl, hlot, rfl⟩
    · exact .inr ⟨envelope, henvelope, rfl, hfresh, hslots, rfl, hlot, rfl⟩

def grants (decisions : List TAllocationDecision) : List TAllocationDecision := decisions.filter (·.granted)

def allocatedTotal (decisions : List TAllocationDecision) : Rat := (decisions.map (·.allocatedAmountCap)).sum

def PortfolioTDecisionSnapshot.belongs (snapshot : PortfolioTDecisionSnapshot) (industry instrumentCode : String) : Bool :=
  (snapshot.envelopeFor instrumentCode).any (·.primaryIndustry = industry)

def allocatedIn (snapshot : PortfolioTDecisionSnapshot) (industry : String) (decisions : List TAllocationDecision) : Rat :=
  allocatedTotal (decisions.filter fun decision => snapshot.belongs industry decision.instrumentCode)

theorem allocatedTotal_cons (decision : TAllocationDecision) (decisions : List TAllocationDecision) :
    allocatedTotal (decision :: decisions) = decision.allocatedAmountCap + allocatedTotal decisions := by
  simp [allocatedTotal]

theorem allocatedIn_cons (decision : TAllocationDecision) (decisions : List TAllocationDecision) :
    allocatedIn snapshot industry (decision :: decisions) =
      (if snapshot.belongs industry decision.instrumentCode then decision.allocatedAmountCap else 0) +
        allocatedIn snapshot industry decisions := by
  rw [allocatedIn, List.filter_cons]
  split
  · rw [allocatedTotal_cons]
    rfl
  · rw [zero_add]
    rfl

theorem belongs_iff {instrumentCode : String} (h : snapshot.envelopeFor instrumentCode = some envelope) :
    snapshot.belongs industry instrumentCode = true ↔ envelope.primaryIndustry = industry := by
  simp [PortfolioTDecisionSnapshot.belongs, h]

variable (hash snapshot attempt now) in
theorem allocateRanked_slots (candidates : List TAllocationCandidate) :
    ∀ (rank : Nat) (budget : AllocationBudget),
      (grants (allocateRanked hash snapshot attempt now rank budget candidates)).length ≤ budget.slots ∧
        ((grants (allocateRanked hash snapshot attempt now rank budget candidates)).map (·.instrumentCode)).Nodup ∧
        ∀ decision ∈ grants (allocateRanked hash snapshot attempt now rank budget candidates),
          decision.instrumentCode ∉ budget.selectedSymbols := by
  induction candidates with
  | nil => exact fun _ budget => ⟨Nat.zero_le _, .nil, fun _ hnone => by cases hnone⟩
  | cons candidate rest ih =>
    intro rank budget
    have hjudged := judge_judged snapshot now budget candidate
    obtain ⟨hlength, hnodup, hfresh⟩ := ih (rank + 1) (judge snapshot now budget candidate).2
    rw [allocateRanked]
    rcases hjudged.takes with ⟨hrefused, -, hleft⟩ | ⟨envelope, -, hgranted, hnew, hslots, -, -, hleft⟩
    · rw [grants, List.filter_cons_of_neg (by rw [hrefused]; exact Bool.false_ne_true)]
      rw [hleft] at hlength hnodup hfresh ⊢
      exact ⟨hlength, hnodup, hfresh⟩
    · rw [grants, List.filter_cons_of_pos hgranted]
      rw [hleft] at hlength hnodup hfresh ⊢
      have hother : ∀ decision ∈ grants (allocateRanked hash snapshot attempt now (rank + 1)
          (budget.book envelope candidate (budget.capFor snapshot.policy envelope candidate)) rest),
          decision.instrumentCode ≠ candidate.instrumentCode ∧ decision.instrumentCode ∉ budget.selectedSymbols := by
        intro decision hdecision
        exact not_or.mp fun hmem => hfresh decision hdecision (Finset.mem_insert.mpr hmem)
      refine ⟨?_, ?_, ?_⟩
      · exact Nat.succ_le_of_lt (Nat.lt_of_le_of_lt hlength (Nat.sub_one_lt hslots))
      · rw [List.map_cons, List.nodup_cons]
        refine ⟨fun hmem => ?_, hnodup⟩
        obtain ⟨decision, hdecision, hsame⟩ := List.mem_map.mp hmem
        exact (hother decision hdecision).1 hsame
      · intro decision hdecision
        rcases List.mem_cons.mp hdecision with rfl | hdecision
        · exact hnew
        · exact (hother decision hdecision).2

/-- The digits of the arithmetic hold what an allocation starts from: all amounts are multiples of one power of ten, and
    the budgets below the one 27 digits above it. -/
structure ExactAmounts (unit : Int) (snapshot : PortfolioTDecisionSnapshot) (candidates : List TAllocationCandidate) :
    Prop where
  planning : Decimal.OnGrid 27 unit snapshot.planningAmountCap
  industry : Decimal.OnGrid 27 unit snapshot.policy.maxIndustryTAmount
  exposures : ∀ v ∈ snapshot.industryExposures,
    Decimal.OnGrid 27 unit v.currentTExposure ∧ Decimal.OnGrid 27 unit v.uncoveredBuyAmount
  envelopes : ∀ envelope ∈ snapshot.envelopes, Decimal.Multiple unit envelope.maxIncrementalTAmount
  ceilings : ∀ candidate ∈ candidates, Decimal.Multiple unit candidate.requestedAmountCeiling

structure ExactBudget (unit : Int) (budget : AllocationBudget) : Prop where
  remaining : Decimal.OnGrid 27 unit budget.remaining
  remaining_nonneg : 0 ≤ budget.remaining
  used : ∀ industry, Decimal.OnGrid 28 unit (budget.industryUsed.getD industry 0)
  used_nonneg : ∀ industry, 0 ≤ budget.industryUsed.getD industry 0

theorem TPortfolioPolicy.maxIndustryTAmount_nonneg (policy : TPortfolioPolicy) : 0 ≤ policy.maxIndustryTAmount :=
  policy.amounts _ (by simp)

theorem TAllocationCandidate.conservativeLotCost_pos (candidate : TAllocationCandidate) :
    0 < candidate.conservativeLotCost :=
  lt_of_le_of_ne (candidate.amounts _ (by simp)) (Ne.symm candidate.positive.2.1)

section Book
variable {policy : TPortfolioPolicy} (hbudget : ExactBudget unit budget)
  (hpolicy : Decimal.OnGrid 27 unit policy.maxIndustryTAmount)
include hbudget hpolicy

theorem ExactBudget.room (industry : String) :
    Decimal.OnGrid 28 unit (policy.maxIndustryTAmount - budget.industryUsed.getD industry 0) :=
  (hpolicy.mono (by decide)).sub (hbudget.used industry) policy.maxIndustryTAmount_nonneg (hbudget.used_nonneg industry)

theorem ExactBudget.industryRemaining_eq (industry : String) :
    budget.industryRemaining policy industry = max 0 (policy.maxIndustryTAmount - budget.industryUsed.getD industry 0) := by
  rw [AllocationBudget.industryRemaining, dec, (hbudget.room hpolicy industry).fix_eq]

theorem ExactBudget.capFor_multiple (hceiling : Decimal.Multiple unit candidate.requestedAmountCeiling)
    (hsymbol : Decimal.Multiple unit envelope.maxIncrementalTAmount) :
    Decimal.Multiple unit (budget.capFor policy envelope candidate) := by
  refine (((hceiling.min hbudget.remaining.multiple).min hsymbol).min ?_)
  rw [hbudget.industryRemaining_eq hpolicy]
  rcases max_choice 0 (policy.maxIndustryTAmount - budget.industryUsed.getD envelope.primaryIndustry 0) with h | h
  · rw [h]
    exact .zero
  · rw [h]
    exact (hbudget.room hpolicy _).multiple

theorem ExactBudget.book (hpos : 0 < cap) (hmultiple : Decimal.Multiple unit cap) (hremaining : cap ≤ budget.remaining)
    (hindustry : cap ≤ budget.industryRemaining policy envelope.primaryIndustry) :
    ExactBudget unit (budget.book envelope candidate cap) ∧
      (budget.book envelope candidate cap).remaining = budget.remaining - cap ∧
      (∀ industry, (budget.book envelope candidate cap).industryUsed.getD industry 0 =
        if envelope.primaryIndustry = industry then budget.industryUsed.getD industry 0 + cap
        else budget.industryUsed.getD industry 0) ∧
      budget.industryUsed.getD envelope.primaryIndustry 0 + cap ≤ policy.maxIndustryTAmount := by
  rw [hbudget.industryRemaining_eq hpolicy] at hindustry
  have hroom : budget.industryUsed.getD envelope.primaryIndustry 0 + cap ≤ policy.maxIndustryTAmount := by
    have hcap := (le_max_iff.mp hindustry).resolve_left (not_le.mpr hpos)
    linarith
  have hleft : Decimal.OnGrid 27 unit (budget.remaining - cap) :=
    .of_le (hbudget.remaining.multiple.sub hmultiple) (sub_nonneg.mpr hremaining) (sub_le_self _ hpos.le) hbudget.remaining
  have hused : Decimal.OnGrid 28 unit (budget.industryUsed.getD envelope.primaryIndustry 0 + cap) :=
    (Decimal.OnGrid.of_le ((hbudget.used _).multiple.add hmultiple) (add_nonneg (hbudget.used_nonneg _) hpos.le) hroom
      hpolicy).mono (by decide)
  have hremainingEq : (budget.book envelope candidate cap).remaining = budget.remaining - cap :=
    (hleft.mono (by decide)).fix_eq
  have husedEq : ∀ industry, (budget.book envelope candidate cap).industryUsed.getD industry 0 =
      if envelope.primaryIndustry = industry then budget.industryUsed.getD industry 0 + cap
      else budget.industryUsed.getD industry 0 := by
    intro industry
    rw [AllocationBudget.book, Dict.getD_set, dec, hused.fix_eq]
    split
    · rename_i hsame
      rw [hsame]
    · rfl
  refine ⟨⟨?_, ?_, fun industry => ?_, fun industry => ?_⟩, hremainingEq, husedEq, hroom⟩
  · rw [hremainingEq]
    exact hleft
  · rw [hremainingEq]
    exact sub_nonneg.mpr hremaining
  · rw [husedEq]
    split
    · rename_i hsame
      rw [← hsame]
      exact hused
    · exact hbudget.used industry
  · rw [husedEq]
    split
    · exact add_nonneg (hbudget.used_nonneg industry) hpos.le
    · exact hbudget.used_nonneg industry

end Book

variable (hash attempt now) in
/-- As long as nothing is rounded, the caps fit the money that is left and the room of every industry. -/
theorem allocateRanked_money (hpolicy : Decimal.OnGrid 27 unit snapshot.policy.maxIndustryTAmount)
    (henvelopes : ∀ envelope ∈ snapshot.envelopes, Decimal.Multiple unit envelope.maxIncrementalTAmount)
    (candidates : List TAllocationCandidate) :
    ∀ (rank : Nat) (budget : AllocationBudget), ExactBudget unit budget →
      (∀ candidate ∈ candidates, Decimal.Multiple unit candidate.requestedAmountCeiling) →
      allocatedTotal (allocateRanked hash snapshot attempt now rank budget candidates) ≤ budget.remaining ∧
        ∀ industry, allocatedIn snapshot industry (allocateRanked hash snapshot attempt now rank budget candidates) ≤
          max 0 (snapshot.policy.maxIndustryTAmount - budget.industryUsed.getD industry 0) := by
  induction candidates with
  | nil => exact fun _ budget hbudget _ => ⟨hbudget.remaining_nonneg, fun _ => le_max_left _ _⟩
  | cons candidate rest ih =>
    intro rank budget hbudget hceilings
    have hjudged := judge_judged snapshot now budget candidate
    have hrest : ∀ candidate ∈ rest, Decimal.Multiple unit candidate.requestedAmountCeiling :=
      fun other hother => hceilings other (List.mem_cons_of_mem _ hother)
    have hnext := ih (rank + 1) (judge snapshot now budget candidate).2
    rw [allocateRanked]
    dsimp only
    rcases hjudged.takes with ⟨-, hnothing, hleft⟩ | ⟨envelope, henvelope, -, -, -, hcap, hlot, hleft⟩
    · rw [hleft] at hnext ⊢
      obtain ⟨hmoney, hrooms⟩ := hnext hbudget hrest
      refine ⟨?_, fun industry => ?_⟩
      · rw [allocatedTotal_cons, hnothing, zero_add]
        exact hmoney
      · rw [allocatedIn_cons, hnothing, ite_self, zero_add]
        exact hrooms industry
    · obtain ⟨-, hremaining, -, hindustry⟩ := budget.capFor_le snapshot.policy envelope candidate
      have hpos := lt_of_lt_of_le candidate.conservativeLotCost_pos hlot
      have hmultiple := hbudget.capFor_multiple hpolicy (hceilings candidate List.mem_cons_self)
        (henvelopes envelope (List.mem_of_find?_eq_some henvelope))
      obtain ⟨hexact, hmoneyLeft, hused, hroom⟩ : ExactBudget unit (budget.book envelope candidate _) ∧ _ :=
        hbudget.book hpolicy hpos hmultiple hremaining hindustry
      rw [hleft] at hnext ⊢
      obtain ⟨hmoney, hrooms⟩ := hnext hexact hrest
      refine ⟨?_, fun industry => ?_⟩
      · rw [allocatedTotal_cons, hcap]
        linarith
      · have hrooms := hrooms industry
        rw [hused] at hrooms
        by_cases hsame : envelope.primaryIndustry = industry
        · rw [if_pos hsame, max_eq_right (by rw [← hsame]; linarith)] at hrooms
          rw [allocatedIn_cons, hcap, if_pos]
          · exact le_max_of_le_right (by linarith)
          · exact (belongs_iff henvelope).mpr hsame
        · rw [if_neg hsame] at hrooms
          rw [allocatedIn_cons, if_neg, zero_add]
          · exact hrooms
          · exact fun hbelongs => hsame ((belongs_iff henvelope).mp hbelongs)

def PortfolioTDecisionSnapshot.usedIn (snapshot : PortfolioTDecisionSnapshot) (industry : String) : Rat :=
  ((snapshot.industryExposures.find? (·.primaryIndustry = industry)).map fun v =>
    v.currentTExposure + v.uncoveredBuyAmount).getD 0

theorem planningAmountCap_nonneg (snapshot : PortfolioTDecisionSnapshot) : 0 ≤ snapshot.planningAmountCap := by
  unfold PortfolioTDecisionSnapshot.planningAmountCap
  split
  · exact le_refl 0
  · exact le_max_left _ _

theorem allocationBudget_used (snapshot : PortfolioTDecisionSnapshot) (industry : String) :
    snapshot.allocationBudget.industryUsed.getD industry 0 =
      ((snapshot.industryExposures.find? (·.primaryIndustry = industry)).map fun v =>
        dec (v.currentTExposure + v.uncoveredBuyAmount)).getD 0 := by
  rw [PortfolioTDecisionSnapshot.allocationBudget, Dict.getD, Dict.get?_ofList, Dict.lookup_map]
  rw [List.map_map]
  exact snapshot.industries_sorted.imp (fun hlt => ne_of_lt hlt)

section Start
variable (hexact : ExactAmounts unit snapshot candidates)
include hexact

theorem ExactAmounts.industryUsed (industry : String) :
    snapshot.allocationBudget.industryUsed.getD industry 0 = snapshot.usedIn industry ∧
      Decimal.OnGrid 28 unit (snapshot.usedIn industry) ∧ 0 ≤ snapshot.usedIn industry := by
  rw [allocationBudget_used, PortfolioTDecisionSnapshot.usedIn]
  cases hfound : snapshot.industryExposures.find? (·.primaryIndustry = industry) with
  | none => exact ⟨rfl, .zero, le_refl 0⟩
  | some v =>
    obtain ⟨hcurrent, huncovered⟩ := hexact.exposures v (List.mem_of_find?_eq_some hfound)
    have hsum := hcurrent.add huncovered
    exact ⟨hsum.fix_eq, hsum, add_nonneg (v.amounts _ (by simp)) (v.amounts _ (by simp))⟩

theorem ExactAmounts.start : ExactBudget unit snapshot.allocationBudget where
  remaining := hexact.planning
  remaining_nonneg := planningAmountCap_nonneg snapshot
  used industry := by
    obtain ⟨hused, hgrid, -⟩ := hexact.industryUsed industry
    rw [hused]
    exact hgrid
  used_nonneg industry := by
    obtain ⟨hused, -, hnonneg⟩ := hexact.industryUsed industry
    rw [hused]
    exact hnonneg

end Start

/-- A safe allocation: every candidate has one decision, and those that grant something share the free batches, the
    instruments, the planned money and the room of the industries. -/
structure Allocated (snapshot : PortfolioTDecisionSnapshot) (now : Int) (candidates : List TAllocationCandidate)
    (decisions : List TAllocationDecision) : Prop where
  one : (decisions.map (·.candidateId)).Perm (candidates.map (·.candidateId))
  distinct : (decisions.map (·.candidateId)).Nodup
  answers : ∀ candidate ∈ candidates, ∀ decision ∈ decisions, decision.candidateId = candidate.candidateId →
    Answers snapshot now candidate decision
  batches : (grants decisions).length ≤ snapshot.policy.maxConcurrentBatches - snapshot.activeBatchCount
  instruments : ((grants decisions).map (·.instrumentCode)).Nodup
  money : ∀ unit, ExactAmounts unit snapshot candidates → allocatedTotal decisions ≤ snapshot.planningAmountCap
  industries : ∀ unit, ExactAmounts unit snapshot candidates → ∀ industry,
    allocatedIn snapshot industry decisions ≤ max 0 (snapshot.policy.maxIndustryTAmount - snapshot.usedIn industry)

theorem allocatePortfolio_perm (h : candidates.Perm candidates') :
    allocatePortfolio hash snapshot candidates' attempt now = allocatePortfolio hash snapshot candidates attempt now := by
  unfold allocatePortfolio
  simp only [h.any_eq, (h.map (·.intentId)).nodup_iff, (h.map (·.candidateId)).nodup_iff]
  by_cases hdistinct : (candidates'.map (·.candidateId)).Nodup
  · rw [rankCandidates_eq ((h.map _).nodup_iff.mpr hdistinct) h]
  · simp [hdistinct]

theorem allocatePortfolio_ok (h : allocatePortfolio hash snapshot candidates attempt now = .ok decisions) :
    (candidates.map (·.candidateId)).Nodup ∧
      decisions = allocateRanked hash snapshot attempt now 1 snapshot.allocationBudget (rankCandidates candidates) := by
  unfold allocatePortfolio at h
  split at h
  · cases h
  · split at h
    · cases h
    · split at h
      · cases h
      · split at h
        · cases h
        · split at h
          · cases h
          · split at h
            · cases h
            · rename_i hdistinct
              cases h
              exact ⟨not_not.mp (not_or.mp hdistinct).2, rfl⟩

theorem Answers.of_forall₂ (hanswers : List.Forall₂ (Answers snapshot now) candidates decisions)
    (hdistinct : (candidates.map (·.candidateId)).Nodup) :
    decisions.map (·.candidateId) = candidates.map (·.candidateId) ∧
      ∀ candidate ∈ candidates, ∀ decision ∈ decisions, decision.candidateId = candidate.candidateId →
        Answers snapshot now candidate decision := by
  induction hanswers with
  | nil => exact ⟨rfl, fun _ hnone => by cases hnone⟩
  | @cons candidate decision candidates decisions hanswer hanswers ih =>
    rw [List.map_cons, List.nodup_cons] at hdistinct
    obtain ⟨hnew, hdistinct⟩ := hdistinct
    obtain ⟨hids, hrest⟩ := ih hdistinct
    refine ⟨?_, ?_⟩
    · rw [List.map_cons, List.map_cons, hids, hanswer.candidateId]
    · intro other hother answer hmem hsame
      rcases List.mem_cons.mp hother with rfl | hother
      · rcases List.mem_cons.mp hmem with rfl | hmem
        · exact hanswer
        · refine absurd ?_ hnew
          rw [← hids, ← hsame]
          exact List.mem_map_of_mem hmem
      · rcases List.mem_cons.mp hmem with rfl | hmem
        · refine absurd ?_ hnew
          rw [← hanswer.candidateId, hsame]
          exact List.mem_map_of_mem hother
        · exact hrest other hother answer hmem hsame

variable (hash snapshot attempt now) in
theorem allocateRanked_allocated (hdistinct : (candidates.map (·.candidateId)).Nodup) :
    Allocated snapshot now candidates
      (allocateRanked hash snapshot attempt now 1 snapshot.allocationBudget (rankCandidates candidates)) := by
  have hranked := rankCandidates_perm candidates
  obtain ⟨hids, hanswers⟩ := Answers.of_forall₂
    (allocateRanked_answers hash snapshot attempt now (rankCandidates candidates) 1 snapshot.allocationBudget)
    ((hranked.map _).nodup_iff.mpr hdistinct)
  obtain ⟨hbatches, hinstruments, -⟩ :=
    allocateRanked_slots hash snapshot attempt now (rankCandidates candidates) 1 snapshot.allocationBudget
  have hone := hranked.map (·.candidateId)
  rw [← hids] at hone
  have hmoney : ∀ unit, ExactAmounts unit snapshot candidates → _ := fun unit hexact =>
    allocateRanked_money hash attempt now hexact.industry hexact.envelopes (rankCandidates candidates) 1 _ hexact.start
      fun candidate hmem => hexact.ceilings candidate (hranked.mem_iff.mp hmem)
  refine ⟨hone, hone.nodup_iff.mpr hdistinct, ?_, hbatches, hinstruments, fun unit hexact => (hmoney unit hexact).1, ?_⟩
  · exact fun candidate hmem => hanswers candidate (hranked.mem_iff.mpr hmem)
  · intro unit hexact industry
    have hroom := (hmoney unit hexact).2 industry
    rw [(hexact.industryUsed industry).1] at hroom
    exact hroom

/-- An accepted allocation is safe, and it is the same for every order of its candidates. -/
theorem allocatePortfolio_allocated
    (h : allocatePortfolio hash snapshot candidates attempt now = .ok decisions) :
    Allocated snapshot now candidates decisions ∧ ∀ candidates', candidates.Perm candidates' →
      allocatePortfolio hash snapshot candidates' attempt now = .ok decisions := by
  obtain ⟨hdistinct, rfl⟩ := allocatePortfolio_ok h
  refine ⟨allocateRanked_allocated hash snapshot attempt now hdistinct, fun candidates' hperm => ?_⟩
  rw [allocatePortfolio_perm hperm]
  exact h

/-! ## A sample -/

def sampleCut : PortfolioEvidenceCut where
  executionRef := ⟨"T_ASSISTANT_EXECUTION", "paper-1"⟩
  environment := .paper
  asOf := 0
  accountSnapshotId := "snapshot-1"
  accountSnapshotHash := "a"
  accountSnapshotAsOf := 0
  localObligationWatermark := "b"
  obligationsAsOf := 0
  owner := rfl
  identified := by unfold Identified; decide +kernel
  noFuture := by decide

def sampleEnvelope (code : String) (hcode : stripText code ≠ "") : TTradingEnvelope where
  cut := sampleCut
  configVersion := "config-1"
  policy := ⟨"envelope-v1", 0, 10000, 1000, by unfold Identified; decide +kernel, by unfold Amounts; decide +kernel⟩
  observedPositionProjection :=
    { instrumentCode := code, primaryIndustry := "bank", lockedCore := 0, core := 0, swing := 1000
      oldSellableVolume := 1000, uncoveredProtectedVolume := 0, currentTExposure := 0, uncoveredEntryAmount := 0
      activeOrPendingEntry := false
      identified := by
        intro v hv
        rcases List.mem_cons.mp hv with rfl | hv
        · exact hcode
        · rw [List.mem_singleton.mp hv]
          decide +kernel
      amounts := by unfold Amounts; decide +kernel
      old_le := by decide }
  identified := by unfold Identified; decide +kernel

def sampleEnvelopes : List TTradingEnvelope :=
  [sampleEnvelope "A" (by decide +kernel), sampleEnvelope "B" (by decide +kernel), sampleEnvelope "C" (by decide +kernel)]

/-- Three instruments of one industry under a total and an industry limit. -/
def samplePortfolio (total industry : Rat) (htotal : 0 ≤ total) (hindustry : 0 ≤ industry) :
    PortfolioTDecisionSnapshot where
  cut := sampleCut
  cycleId := "cycle-1"
  configVersion := "config-1"
  strategyBinding := "rules-v3"
  scorerBinding := "RULE_ONLY"
  policy :=
    { version := "portfolio-v1", maxTotalTAmount := total, maxTotalAssetFraction := 1 / 2, cashBuffer := 1000
      maxIndustryTAmount := industry, maxConcurrentBatches := 3, maxDailyLoss := 2000
      identified := by unfold Identified; decide +kernel
      amounts := by simp [Amounts, htotal, hindustry]
      fraction_le := by norm_num }
  envelopes := sampleEnvelopes
  industryExposures := [⟨"bank", 0, 0, by unfold Identified; decide +kernel, by unfold Amounts; decide +kernel⟩]
  availableCash := 20000
  totalAssets := 100000
  uncoveredBuyAmount := 0
  currentTExposure := 0
  realizedTPnl := 0
  unrealizedTPnl := 0
  activeBatchCount := 0
  entryEnabled := true
  killSwitch := false
  reconcileRequired := false
  identified := by unfold Identified; decide +kernel
  amounts := by unfold Amounts; decide +kernel
  envelopes_sorted := by decide +kernel
  envelopes_cut := by
    intro envelope hmem
    simp only [sampleEnvelopes, List.mem_cons, List.not_mem_nil, or_false] at hmem
    rcases hmem with rfl | rfl | rfl
    all_goals exact ⟨rfl, rfl⟩
  industries_sorted := by decide +kernel
  industries_total := by decide +kernel
  industries_known := by decide +kernel
  industries_cover := by decide +kernel

def sampleCandidate (code : String) (score ceiling lot : Rat) (hcode : stripText code ≠ "") (hscore : 0 ≤ score)
    (hceiling : 0 < ceiling) (hlot : 0 < lot) : TAllocationCandidate where
  intentId := code
  intentVersion := 1
  candidateId := code
  candidateFingerprint := code
  instrumentCode := code
  rankScore := score
  ruleScore := score
  liquidityQuality := 1
  observedAt := 0
  expiresAt := 15000000
  requestedAmountCeiling := ceiling
  conservativeLotCost := lot
  minimumEntryVolume := 100
  dataHealthy := true
  identified := by simp [Identified, hcode]
  amounts := by simp [Amounts, hscore, hceiling.le, hlot.le]
  positive := ⟨hceiling.ne', hlot.ne', by decide⟩
  ttl := by decide

def sampleHash : HashInput → String
  | .envelope _ _ _ position => position.instrumentCode
  | .snapshot snapshot => snapshot.cycleId
  | .decision _ _ _ _ intentId _ => intentId

def wholePortfolio : PortfolioTDecisionSnapshot := samplePortfolio 12000 20000 (by norm_num) (by norm_num)

def wholeCandidates : List TAllocationCandidate :=
  [sampleCandidate "A" 70 8000 1000 (by decide +kernel) (by norm_num) (by norm_num) (by norm_num),
    sampleCandidate "B" 90 8000 1000 (by decide +kernel) (by norm_num) (by norm_num) (by norm_num),
    sampleCandidate "C" 80 8000 1000 (by decide +kernel) (by norm_num) (by norm_num) (by norm_num)]

theorem exactAmounts_whole : ExactAmounts 0 wholePortfolio wholeCandidates where
  planning := by
    have hcap : wholePortfolio.planningAmountCap = 12000 := by decide +kernel
    rw [hcap]
    exact ⟨⟨12000, by norm_num⟩, by norm_num⟩
  industry := ⟨⟨20000, by norm_num [wholePortfolio, samplePortfolio]⟩, by norm_num [wholePortfolio, samplePortfolio]⟩
  exposures v hv := by
    rw [List.mem_singleton.mp hv]
    exact ⟨.zero, .zero⟩
  envelopes envelope hmem := by
    have hall : ∀ envelope ∈ sampleEnvelopes, envelope.maxIncrementalTAmount = 10000 := by decide +kernel
    exact ⟨10000, by rw [hall envelope hmem]; norm_num⟩
  ceilings candidate hmem := by
    have hall : ∀ candidate ∈ wholeCandidates, candidate.requestedAmountCeiling = 8000 := by decide +kernel
    exact ⟨8000, by rw [hall candidate hmem]; norm_num⟩

theorem whole_allocated : ∃ decisions, allocatePortfolio sampleHash wholePortfolio wholeCandidates 1 0 = .ok decisions ∧
    Allocated wholePortfolio 0 wholeCandidates decisions ∧ ExactAmounts 0 wholePortfolio wholeCandidates ∧
    decisions.map (·.allocatedAmountCap) = [8000, 4000, 0] := by
  have h : allocatePortfolio sampleHash wholePortfolio wholeCandidates 1 0 = .ok _ := rfl
  exact ⟨_, h, (allocatePortfolio_allocated h).1, exactAmounts_whole, by decide +kernel⟩

def thirdPortfolio : PortfolioTDecisionSnapshot := samplePortfolio 10 10 (by norm_num) (by norm_num)

def thirdCandidates : List TAllocationCandidate :=
  [sampleCandidate "A" 90 (dec (1 / 3)) (1 / 10) (by decide +kernel) (by norm_num) (by decide +kernel) (by norm_num),
    sampleCandidate "B" 80 10 1 (by decide +kernel) (by norm_num) (by norm_num) (by norm_num)]

/-- A third of a unit leaves more than it should, as the difference is rounded up. -/
theorem third_exceeds_budgets : ∃ decisions, allocatePortfolio sampleHash thirdPortfolio thirdCandidates 1 0 = .ok decisions ∧
    thirdPortfolio.planningAmountCap < allocatedTotal decisions ∧
    max 0 (thirdPortfolio.policy.maxIndustryTAmount - thirdPortfolio.usedIn "bank") <
      allocatedIn thirdPortfolio "bank" decisions :=
  ⟨_, rfl, by decide +kernel, by decide +kernel⟩

end QuantX
