import QuantX.TTrade.PortfolioSnapshot
import Mathlib.Data.Prod.Lex

/-! # Allocation of a T portfolio

`allocate_portfolio` ranks the candidates of a cycle and goes through them once. Every candidate gets one decision. -/

namespace QuantX
open Lib

inductive TAllocationAction where
  | allow
  | cap
  | delay
  | reject
  deriving DecidableEq, Repr

structure TAllocationCandidate where
  intentId : String
  intentVersion : Nat
  (candidateId candidateFingerprint instrumentCode : String)
  (rankScore ruleScore liquidityQuality : Rat)
  (observedAt expiresAt : Int)
  (requestedAmountCeiling conservativeLotCost : Rat)
  minimumEntryVolume : Nat
  dataHealthy : Bool
  nextEligibleAt : Option Int := none
  identified : Identified [intentId, candidateId, candidateFingerprint, instrumentCode]
  amounts : Amounts [rankScore, ruleScore, liquidityQuality, requestedAmountCeiling, conservativeLotCost]
  positive : requestedAmountCeiling ≠ 0 ∧ conservativeLotCost ≠ 0 ∧ minimumEntryVolume ≠ 0
  ttl : observedAt < expiresAt

structure TAllocationDecision where
  (decisionId cycleId : String)
  allocationAttempt : Int
  intentId : String
  intentVersion : Nat
  (candidateId instrumentCode : String)
  rank : Nat
  rankScore : Rat
  action : TAllocationAction
  (requestedAmountCeiling allocatedAmountCap : Rat)
  portfolioInputFingerprint : String
  envelopeId : Option String
  blockers : List String
  createdAt : Int
  nextEligibleAt : Option Int

def TAllocationCandidate.rankKey (candidate : TAllocationCandidate) : Rat ×ₗ Rat ×ₗ Rat ×ₗ Int ×ₗ String ×ₗ String :=
  toLex (dec (-candidate.rankScore), toLex (dec (-candidate.ruleScore), toLex (dec (-candidate.liquidityQuality),
    toLex (candidate.observedAt, toLex (candidate.instrumentCode, candidate.candidateId)))))

def rankCandidates (candidates : List TAllocationCandidate) : List TAllocationCandidate :=
  candidates.insertionSort fun a b => a.rankKey ≤ b.rankKey

structure AllocationBudget where
  remaining : Rat
  slots : Nat
  selectedSymbols : Finset String := ∅
  industryUsed : Dict String Rat

namespace PortfolioTDecisionSnapshot

def envelopeFor (snapshot : PortfolioTDecisionSnapshot) (instrumentCode : String) : Option TTradingEnvelope :=
  snapshot.envelopes.find? (·.instrumentCode = instrumentCode)

def allocationBudget (snapshot : PortfolioTDecisionSnapshot) : AllocationBudget where
  remaining := snapshot.planningAmountCap
  slots := snapshot.policy.maxConcurrentBatches - snapshot.activeBatchCount
  industryUsed := Dict.ofList (snapshot.industryExposures.map fun v =>
    (v.primaryIndustry, dec (v.currentTExposure + v.uncoveredBuyAmount)))

end PortfolioTDecisionSnapshot

structure Verdict where
  action : TAllocationAction := .reject
  cap : Rat := 0
  blockers : List String := []
  nextAt : Option Int := none

namespace AllocationBudget

def industryRemaining (budget : AllocationBudget) (policy : TPortfolioPolicy) (industry : String) : Rat :=
  max 0 (dec (policy.maxIndustryTAmount - budget.industryUsed.getD industry 0))

def capFor (budget : AllocationBudget) (policy : TPortfolioPolicy) (envelope : TTradingEnvelope)
    (candidate : TAllocationCandidate) : Rat :=
  min (min (min candidate.requestedAmountCeiling budget.remaining) envelope.maxIncrementalTAmount)
    (budget.industryRemaining policy envelope.primaryIndustry)

def capReasons (budget : AllocationBudget) (policy : TPortfolioPolicy) (envelope : TTradingEnvelope) (cap : Rat) :
    List String :=
  (if budget.remaining = cap then ["T_PORTFOLIO_AMOUNT_CAP"] else []) ++
    (if envelope.maxIncrementalTAmount = cap then ["T_SYMBOL_AMOUNT_CAP"] else []) ++
    (if budget.industryRemaining policy envelope.primaryIndustry = cap then ["T_INDUSTRY_AMOUNT_CAP"] else [])

def book (budget : AllocationBudget) (envelope : TTradingEnvelope) (candidate : TAllocationCandidate) (cap : Rat) :
    AllocationBudget where
  remaining := dec (budget.remaining - cap)
  slots := budget.slots - 1
  selectedSymbols := insert candidate.instrumentCode budget.selectedSymbols
  industryUsed := budget.industryUsed.set envelope.primaryIndustry
    (dec (budget.industryUsed.getD envelope.primaryIndustry 0 + cap))

def allot (budget : AllocationBudget) (policy : TPortfolioPolicy) (envelope : TTradingEnvelope)
    (candidate : TAllocationCandidate) : Verdict × AllocationBudget :=
  let cap := budget.capFor policy envelope candidate
  if cap < candidate.conservativeLotCost then ({ blockers := ["T_BUDGET_BELOW_CONSERVATIVE_LOT_COST"] }, budget)
  else if cap = candidate.requestedAmountCeiling then
    ({ action := .allow, cap }, budget.book envelope candidate cap)
  else
    ({ action := .cap, cap, blockers := budget.capReasons policy envelope cap },
      budget.book envelope candidate cap)

end AllocationBudget

/-! ## One candidate -/

def delayed (reason : String) (nextAt : Option Int := none) : Verdict :=
  { action := .delay, blockers := [reason], nextAt }

def judge (snapshot : PortfolioTDecisionSnapshot) (now : Int) (budget : AllocationBudget)
    (candidate : TAllocationCandidate) : Verdict × AllocationBudget :=
  if snapshot.cut.asOf < candidate.observedAt then ({ blockers := ["T_CANDIDATE_NOT_CAUSAL"] }, budget)
  else if candidate.expiresAt ≤ now then ({ blockers := ["T_INTENT_EXPIRED"] }, budget)
  else match snapshot.envelopeFor candidate.instrumentCode with
    | none => ({ blockers := ["T_ENVELOPE_MISSING"] }, budget)
    | some envelope =>
      if snapshot.entryBlockers ≠ [] then ({ blockers := snapshot.entryBlockers }, budget)
      else if !candidate.dataHealthy then (delayed "T_CANDIDATE_DATA_UNHEALTHY", budget)
      else if candidate.nextEligibleAt.any (now < ·) then
        (delayed "T_ALLOCATION_NOT_YET_ELIGIBLE" candidate.nextEligibleAt, budget)
      else if !envelope.positiveTEligible then ({ blockers := envelope.reasonCodes }, budget)
      else if envelope.planningEntryVolumeCeiling < candidate.minimumEntryVolume then
        ({ blockers := ["T_OLD_POSITION_BELOW_MINIMUM_ENTRY"] }, budget)
      else if candidate.instrumentCode ∈ budget.selectedSymbols then ({ blockers := ["T_SAME_SYMBOL_ALLOCATED"] }, budget)
      else if budget.slots = 0 then (delayed "T_MAX_CONCURRENT_BATCHES", budget)
      else budget.allot snapshot.policy envelope candidate

/-- `timedelta(seconds=1)`. -/
def oneSecond : Int := 1000000

/-- A delay gets the time at which the candidate may come again, or is a rejection if the candidate has
    expired by then. -/
def scheduleDelay (now : Int) (candidate : TAllocationCandidate) (verdict : Verdict) : Verdict :=
  if verdict.action = .delay then
    let nextAt := max (max (now + oneSecond) (verdict.nextAt.getD now)) (candidate.nextEligibleAt.getD now)
    if candidate.expiresAt ≤ nextAt then
      { verdict with
        action := .reject, blockers := ["T_DELAY_EXCEEDS_INTENT_TTL"], nextAt := none }
    else { verdict with nextAt := some nextAt }
  else verdict

section Allocate
variable (hash : HashInput → String)

def decisionOf (snapshot : PortfolioTDecisionSnapshot) (allocationAttempt : Int) (now : Int) (rank : Nat)
    (candidate : TAllocationCandidate) (verdict : Verdict) : TAllocationDecision where
  decisionId := "talloc:" ++ hash (.decision snapshot.cut.executionRef snapshot.cut.environment snapshot.cycleId
    allocationAttempt candidate.intentId (snapshot.portfolioInputFingerprint hash))
  cycleId := snapshot.cycleId
  allocationAttempt := allocationAttempt
  intentId := candidate.intentId
  intentVersion := candidate.intentVersion
  candidateId := candidate.candidateId
  instrumentCode := candidate.instrumentCode
  rank := rank
  rankScore := candidate.rankScore
  action := verdict.action
  requestedAmountCeiling := candidate.requestedAmountCeiling
  allocatedAmountCap := verdict.cap
  portfolioInputFingerprint := snapshot.portfolioInputFingerprint hash
  envelopeId := (snapshot.envelopeFor candidate.instrumentCode).map (·.envelopeId hash)
  blockers := verdict.blockers
  createdAt := now
  nextEligibleAt := verdict.nextAt

def allocateRanked (snapshot : PortfolioTDecisionSnapshot) (allocationAttempt : Int) (now : Int) :
    Nat → AllocationBudget → List TAllocationCandidate → List TAllocationDecision
  | _, _, [] => []
  | rank, budget, candidate :: rest =>
    let (verdict, left) := judge snapshot now budget candidate
    decisionOf hash snapshot allocationAttempt now rank candidate (scheduleDelay now candidate verdict) ::
      allocateRanked snapshot allocationAttempt now (rank + 1) left rest

def allocatePortfolio (snapshot : PortfolioTDecisionSnapshot) (candidates : List TAllocationCandidate)
    (allocationAttempt : Int) (now : Int) : Except String (List TAllocationDecision) :=
  if allocationAttempt < 0 then .error "T_PORTFOLIO_INVALID_VOLUME"
  else if allocationAttempt < 1 then .error "T_ALLOCATION_ATTEMPT_REQUIRED"
  else if now < snapshot.cut.asOf then .error "T_ALLOCATION_INVALID_EVALUATION_TIME"
  else if snapshot.scorerBinding ≠ "RULE_ONLY" ∧ ¬(snapshot.scorerBinding = "SHADOW" ∧ snapshot.environment = .paper) then
    .error "T_ALLOCATION_SCORER_NOT_ENABLED"
  else if snapshot.scorerBinding = "SHADOW" ∧ (candidates.any fun v => v.rankScore ≠ dec (v.ruleScore / 100)) = true then
    .error "T_ALLOCATION_SHADOW_RULE_RANK_REQUIRED"
  else if ¬(candidates.map (·.intentId)).Nodup ∨ ¬(candidates.map (·.candidateId)).Nodup then
    .error "T_ALLOCATION_DUPLICATE_INPUT"
  else .ok (allocateRanked hash snapshot allocationAttempt now 1 snapshot.allocationBudget (rankCandidates candidates))

end Allocate

end QuantX
