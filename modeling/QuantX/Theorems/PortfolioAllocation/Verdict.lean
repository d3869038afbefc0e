import QuantX.TTrade.PortfolioAllocation

namespace QuantX
open Lib

variable {hash : HashInput → String} {snapshot : PortfolioTDecisionSnapshot} {attempt now : Int} {rank : Nat}
  {budget left : AllocationBudget} {candidate : TAllocationCandidate} {verdict : Verdict}
  {candidates candidates' : List TAllocationCandidate}

inductive Judged (snapshot : PortfolioTDecisionSnapshot) (now : Int) (budget : AllocationBudget)
    (candidate : TAllocationCandidate) : Verdict → AllocationBudget → Prop
  | refused (blockers : List String) : Judged snapshot now budget candidate { blockers := blockers } budget
  | delayed (reason : String) (nextAt : Option Int) : Judged snapshot now budget candidate (delayed reason nextAt) budget
  | allotted {envelope : TTradingEnvelope} {action : TAllocationAction} {cap : Rat} (blockers : List String)
      (henvelope : snapshot.envelopeFor candidate.instrumentCode = some envelope)
      (hcausal : candidate.observedAt ≤ snapshot.cut.asOf) (hlive : now < candidate.expiresAt)
      (hfresh : candidate.instrumentCode ∉ budget.selectedSymbols) (hslots : budget.slots ≠ 0)
      (haction : action = .allow ∨ action = .cap) (hcap : cap = budget.capFor snapshot.policy envelope candidate)
      (hlot : candidate.conservativeLotCost ≤ cap) :
      Judged snapshot now budget candidate { action, cap, blockers }
        (budget.book envelope candidate cap)

theorem judge_judged (snapshot : PortfolioTDecisionSnapshot) (now : Int) (budget : AllocationBudget)
    (candidate : TAllocationCandidate) :
    Judged snapshot now budget candidate (judge snapshot now budget candidate).1 (judge snapshot now budget candidate).2 := by
  unfold judge
  split
  · exact .refused _
  · rename_i hcausal
    split
    · exact .refused _
    · rename_i hlive
      cases henvelope : snapshot.envelopeFor candidate.instrumentCode with
      | none => exact .refused _
      | some envelope =>
        dsimp only
        split
        · exact .refused _
        · split
          · exact .delayed _ _
          · split
            · exact .delayed _ _
            · split
              · exact .refused _
              · split
                · exact .refused _
                · split
                  · exact .refused _
                  · rename_i hfresh
                    split
                    · exact .delayed _ _
                    · rename_i hslots
                      unfold AllocationBudget.allot
                      dsimp only
                      split
                      · exact .refused _
                      · rename_i hlot
                        split
                        · exact .allotted [] henvelope (not_lt.mp hcausal) (not_le.mp hlive) hfresh hslots (.inl rfl) rfl
                            (not_lt.mp hlot)
                        · exact .allotted _ henvelope (not_lt.mp hcausal) (not_le.mp hlive) hfresh hslots (.inr rfl) rfl
                            (not_lt.mp hlot)

theorem AllocationBudget.capFor_le (budget : AllocationBudget) (policy : TPortfolioPolicy) (envelope : TTradingEnvelope)
    (candidate : TAllocationCandidate) :
    budget.capFor policy envelope candidate ≤ candidate.requestedAmountCeiling ∧
      budget.capFor policy envelope candidate ≤ budget.remaining ∧
      budget.capFor policy envelope candidate ≤ envelope.maxIncrementalTAmount ∧
      budget.capFor policy envelope candidate ≤ budget.industryRemaining policy envelope.primaryIndustry := by
  obtain ⟨hfirst, hindustry⟩ := le_min_iff.mp (le_refl (budget.capFor policy envelope candidate))
  obtain ⟨hfirst, hsymbol⟩ := le_min_iff.mp hfirst
  obtain ⟨hceiling, hremaining⟩ := le_min_iff.mp hfirst
  exact ⟨hceiling, hremaining, hsymbol, hindustry⟩

def TAllocationDecision.granted (decision : TAllocationDecision) : Bool :=
  decision.action = .allow || decision.action = .cap

structure Answers (snapshot : PortfolioTDecisionSnapshot) (now : Int) (candidate : TAllocationCandidate)
    (decision : TAllocationDecision) : Prop where
  intentId : decision.intentId = candidate.intentId
  candidateId : decision.candidateId = candidate.candidateId
  instrumentCode : decision.instrumentCode = candidate.instrumentCode
  causal : decision.granted = true → candidate.observedAt ≤ snapshot.cut.asOf ∧ now < candidate.expiresAt
  lot : decision.granted = true → candidate.conservativeLotCost ≤ decision.allocatedAmountCap
  ceiling : decision.granted = true → decision.allocatedAmountCap ≤ candidate.requestedAmountCeiling
  envelope : decision.granted = true → ∃ envelope, snapshot.envelopeFor candidate.instrumentCode = some envelope ∧
    decision.allocatedAmountCap ≤ envelope.maxIncrementalTAmount
  nothing : decision.granted = false → decision.allocatedAmountCap = 0
  later : decision.action = .delay → ∃ next, decision.nextEligibleAt = some next ∧ now < next ∧ next < candidate.expiresAt

theorem scheduleDelay_delayed (now : Int) (candidate : TAllocationCandidate) (reason : String) (nextAt : Option Int) :
    (∃ next, scheduleDelay now candidate (delayed reason nextAt) = { delayed reason nextAt with nextAt := some next } ∧
        now < next ∧ next < candidate.expiresAt) ∨
      ∃ blockers, scheduleDelay now candidate (delayed reason nextAt) = { blockers := blockers } := by
  have hdelay : (delayed reason nextAt).action = .delay := rfl
  unfold scheduleDelay
  rw [if_pos hdelay]
  dsimp only
  split
  · exact .inr ⟨_, rfl⟩
  · rename_i hlive
    refine .inl ⟨_, rfl, ?_, not_le.mp hlive⟩
    have hsecond : now < now + oneSecond := Int.lt_add_of_pos_right now (by decide)
    exact lt_of_lt_of_le hsecond ((le_max_left _ _).trans (le_max_left _ _))

theorem Judged.answers (h : Judged snapshot now budget candidate verdict left) :
    Answers snapshot now candidate
      (decisionOf hash snapshot attempt now rank candidate (scheduleDelay now candidate verdict)) := by
  cases h with
  | refused blockers =>
    refine ⟨rfl, rfl, rfl, fun hgranted => ?_, fun hgranted => ?_, fun hgranted => ?_, fun hgranted => ?_, fun _ => rfl,
      fun hdelay => by cases hdelay⟩
    all_goals cases hgranted
  | delayed reason nextAt =>
    rcases scheduleDelay_delayed now candidate reason nextAt with ⟨next, h, hafter, hbefore⟩ | ⟨blockers, h⟩
    · rw [h]
      refine ⟨rfl, rfl, rfl, fun hgranted => ?_, fun hgranted => ?_, fun hgranted => ?_, fun hgranted => ?_, fun _ => rfl,
        fun _ => ⟨next, rfl, hafter, hbefore⟩⟩
      all_goals cases hgranted
    · rw [h]
      refine ⟨rfl, rfl, rfl, fun hgranted => ?_, fun hgranted => ?_, fun hgranted => ?_, fun hgranted => ?_, fun _ => rfl,
        fun hdelay => by cases hdelay⟩
      all_goals cases hgranted
  | @allotted envelope action cap blockers henvelope hcausal hlive hfresh hslots haction hcap hlot =>
    obtain ⟨hceiling, -, hsymbol, -⟩ := budget.capFor_le snapshot.policy envelope candidate
    rw [← hcap] at hceiling hsymbol
    rcases haction with rfl | rfl
    all_goals
      refine ⟨rfl, rfl, rfl, fun _ => ⟨hcausal, hlive⟩, fun _ => hlot, fun _ => hceiling,
        fun _ => ⟨envelope, henvelope, hsymbol⟩, fun hnot => ?_, fun hdelay => ?_⟩
      · cases hnot
      · cases hdelay

variable (hash snapshot attempt now) in
theorem allocateRanked_answers (candidates : List TAllocationCandidate) :
    ∀ (rank : Nat) (budget : AllocationBudget),
      List.Forall₂ (Answers snapshot now) candidates (allocateRanked hash snapshot attempt now rank budget candidates) := by
  induction candidates with
  | nil => exact fun _ _ => .nil
  | cons candidate rest ih =>
    intro rank budget
    exact .cons (judge_judged snapshot now budget candidate).answers (ih _ _)

theorem candidateId_of_rankKey {a b : TAllocationCandidate} (h : a.rankKey = b.rankKey) : a.candidateId = b.candidateId := by
  simp only [TAllocationCandidate.rankKey, toLex_inj, Prod.mk.injEq] at h
  exact h.2.2.2.2.2

theorem rankCandidates_perm (candidates : List TAllocationCandidate) : (rankCandidates candidates).Perm candidates :=
  List.perm_insertionSort _ _

instance : Std.Total fun a b : TAllocationCandidate => a.rankKey ≤ b.rankKey := ⟨fun a b => le_total a.rankKey b.rankKey⟩

instance : IsTrans TAllocationCandidate fun a b => a.rankKey ≤ b.rankKey := ⟨fun _ _ _ => le_trans⟩

theorem rankCandidates_eq (hdistinct : (candidates.map (·.candidateId)).Nodup) (h : candidates.Perm candidates') :
    rankCandidates candidates' = rankCandidates candidates := by
  refine List.Perm.eq_of_pairwise ?_ (List.pairwise_insertionSort _ _) (List.pairwise_insertionSort _ _) ?_
  · intro a b ha hb hle hge
    have hmema := h.mem_iff.mpr ((rankCandidates_perm candidates').mem_iff.mp ha)
    have hmemb := (rankCandidates_perm candidates).mem_iff.mp hb
    exact List.inj_on_of_nodup_map hdistinct hmema hmemb (candidateId_of_rankKey (le_antisymm hle hge))
  · exact ((rankCandidates_perm candidates').trans h.symm).trans (rankCandidates_perm candidates).symm

end QuantX
