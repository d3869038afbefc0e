import QuantX.Services.RiskIncreaseAdmission

namespace QuantX
open Lib (Dict require require_bind bind_eq_ok sortBy sortBy_perm sortBy_pairwise sortBy_pairwise_lt sortBy_eq_of_perm
  mem_sortBy)

variable {Sha : Type}

theorem orderKey_intentId {a b : RiskIncreaseAdmissionCandidate Sha} (h : a.orderKey = b.orderKey) : a.intentId = b.intentId := by
  unfold RiskIncreaseAdmissionCandidate.orderKey at h
  simp only [toLex_inj, Prod.mk.injEq] at h
  exact h.2.2.2.2.2.2

theorem orderKey_inj {candidates : List (RiskIncreaseAdmissionCandidate Sha)} (h : (candidates.map (·.intentId)).Nodup) :
    ∀ a ∈ candidates, ∀ b ∈ candidates, a.orderKey = b.orderKey → a = b :=
  fun _ ha _ hb hkey => List.inj_on_of_nodup_map h ha hb (orderKey_intentId hkey)

theorem ranked_ranks (ordered : List (RiskIncreaseAdmissionCandidate Sha)) :
    (ranked ordered).map (·.admissionRank) = List.range' 1 ordered.length := by
  refine List.ext_getElem (by simp [ranked]) fun i hi hi' => ?_
  simp [ranked, Nat.add_comm]

@[simp] theorem ranked_candidates (ordered : List (RiskIncreaseAdmissionCandidate Sha)) :
    (ranked ordered).map (·.candidate) = ordered := by
  refine List.ext_getElem (by simp [ranked]) fun i hi hi' => ?_
  simp [ranked]

variable {candidates candidates' : List (RiskIncreaseAdmissionCandidate Sha)} {admissions : List (RankedRiskIncreaseAdmission Sha)}

theorem rankRiskIncreaseCandidates_ok (h : rankRiskIncreaseCandidates candidates = .ok admissions) :
    admissions.map (·.admissionRank) = List.range' 1 admissions.length ∧
      (admissions.map (·.candidate)).Perm candidates ∧
      (admissions.map (·.candidate)).Pairwise fun a b => a.orderKey < b.orderKey := by
  unfold rankRiskIncreaseCandidates at h
  obtain ⟨hnodup, hranked⟩ := require_bind.mp h
  obtain rfl := Except.ok.inj hranked
  refine ⟨?_, ?_, ?_⟩
  · rw [ranked_ranks]
    simp [ranked]
  · rw [ranked_candidates]
    exact sortBy_perm _ _
  · rw [ranked_candidates]
    exact sortBy_pairwise_lt (orderKey_inj hnodup) (hnodup.of_map _)

theorem rankRiskIncreaseCandidates_perm (h : candidates.Perm candidates') :
    rankRiskIncreaseCandidates candidates = rankRiskIncreaseCandidates candidates' := by
  have hids := h.map (·.intentId)
  unfold rankRiskIncreaseCandidates
  by_cases hnodup : (candidates.map (·.intentId)).Nodup
  · rw [sortBy_eq_of_perm h (orderKey_inj hnodup)]
    simp [require, hnodup, hids.nodup_iff.mp hnodup]
  · have hnodup' : ¬(candidates'.map (·.intentId)).Nodup := fun h' => hnodup (hids.nodup_iff.mpr h')
    simp only [require, hnodup, hnodup', if_false]
    rfl

theorem exists_of_manifest_eq {admissions' : List (RankedRiskIncreaseAdmission Sha)}
    (h : admissions'.map (·.manifestEntry) = admissions.map (·.manifestEntry)) {item : RankedRiskIncreaseAdmission Sha}
    (hitem : item ∈ admissions) : ∃ item' ∈ admissions', item'.manifestEntry = item.manifestEntry := by
  have hmem : item.manifestEntry ∈ admissions'.map (·.manifestEntry) := h ▸ List.mem_map_of_mem hitem
  obtain ⟨item', hitem', heq⟩ := List.mem_map.mp hmem
  exact ⟨item', hitem', heq⟩

end QuantX

namespace QuantX
open Lib (Dict require require_bind check_bind bind_eq_ok map_eq_ok sortBy)

variable {Request Sha : Type} [DecidableEq Sha] {host : AdmissionHost Request Sha} {scope : AdmissionScope} {t : AdmissionTables Request Sha}
variable {b : AdmissionBatch Sha}

def AdmissionBatch.Closes (b b' : AdmissionBatch Sha) : Prop :=
  ∃ status reason, status ≠ .prepared ∧ status ≠ .committed ∧ b' = { b with status, terminalReason := reason }

theorem AdmissionBatch.closes_retire (b : AdmissionBatch Sha) (now : Int) : b.Closes (b.retire now) := by
  unfold retire
  split_ifs
  · exact ⟨.expired, _, by decide, by decide, rfl⟩
  · exact ⟨.superseded, _, by decide, by decide, rfl⟩

theorem AdmissionBatch.closes_expire (b : AdmissionBatch Sha) : b.Closes b.expire := ⟨.expired, _, by decide, by decide, rfl⟩

theorem AdmissionBatch.closes_supersede (b : AdmissionBatch Sha) (reason : String) : b.Closes (b.supersede reason) :=
  ⟨.superseded, _, by decide, by decide, rfl⟩

def AdmissionTables.Freed (t freed : AdmissionTables Request Sha) : Prop :=
  freed = t ∨ ∃ id b b', t.batches.get? id = some b ∧ b.status = .prepared ∧ b.Closes b' ∧ freed = t.setBatch id b'

theorem findBatch_some {batchId : String} (h : findBatch scope t batchId = .ok (some b)) :
    t.batches.get? batchId = some b ∧ b.inScope scope := by
  unfold findBatch at h
  cases hget : (t.batches.get? batchId).filter fun batch => batch.inScope scope with
  | none =>
    rw [hget] at h
    cases h
  | some found =>
    rw [hget] at h
    obtain ⟨-, heq⟩ := check_bind.mp h
    cases heq
    obtain ⟨hfound, hscope⟩ := Option.filter_eq_some_iff.mp hget
    exact ⟨hfound, of_decide_eq_true hscope⟩

theorem snapshotBatch_ok {batchId : String} {now : Int} (h : snapshotBatch scope t batchId now = .ok b) :
    t.batches.get? batchId = some b ∧ b.inScope scope ∧ b.status = .prepared ∧
      validateAccountSnapshot scope t b.accountId b.accountSnapshotId b.accountSnapshotHash now = .ok () := by
  unfold snapshotBatch at h
  obtain ⟨found, hfound, h⟩ := bind_eq_ok.mp h
  cases found with
  | none => cases h
  | some batch =>
    obtain ⟨hsnapshot, h⟩ := check_bind.mp h
    obtain ⟨hstatus, h⟩ := require_bind.mp h
    cases h
    obtain ⟨hget, hscope⟩ := findBatch_some hfound
    exact ⟨hget, hscope, hstatus, hsnapshot⟩

theorem lockedClaimedBatch_spec (batchId fenceToken : String) (now : Int) :
    (∃ b, lockedClaimedBatch scope t batchId fenceToken now = .ok b ∧ snapshotBatch scope t batchId now = .ok b ∧
      b.processingFenceToken.getD "" = fenceToken ∧ (∃ lease, b.processingLeaseUntil = some lease ∧ now < lease) ∧ now < b.expiresAt) ∨
    ∃ message held, lockedClaimedBatch scope t batchId fenceToken now = .error (message, held) ∧ t.Freed held := by
  unfold lockedClaimedBatch
  cases hbatch : snapshotBatch scope t batchId now with
  | error message => exact .inr ⟨message, t, rfl, .inl rfl⟩
  | ok b =>
    dsimp only
    by_cases htoken : b.processingFenceToken.getD "" ≠ fenceToken
    · rw [if_pos htoken]
      exact .inr ⟨_, t, rfl, .inl rfl⟩
    rw [if_neg htoken]
    by_cases hlease : ∃ lease ∈ b.processingLeaseUntil, now < lease
    · rw [if_neg (not_not.mpr hlease)]
      by_cases hexpired : b.expiresAt ≤ now
      · rw [if_pos hexpired]
        obtain ⟨hget, -, hstatus, -⟩ := snapshotBatch_ok hbatch
        exact .inr ⟨_, _, rfl, .inr ⟨batchId, b, _, hget, hstatus, b.closes_expire, rfl⟩⟩
      · rw [if_neg hexpired]
        obtain ⟨lease, hlease, hnow⟩ := hlease
        exact .inl ⟨b, rfl, rfl, not_not.mp htoken, ⟨lease, hlease, hnow⟩, lt_of_not_ge hexpired⟩
    · rw [if_pos hlease]
      exact .inr ⟨_, t, rfl, .inl rfl⟩

theorem retireAssigned_free {inputs : PrepareInputs Request Sha} {now : Int} {freed : AdmissionTables Request Sha}
    (h : retireAssigned scope t inputs now = .ok (.free freed)) :
    t.Freed freed ∧ ∀ id ∈ inputs.boundBatches, ∃ b, t.batches.get? id = some b ∧ b.status ≠ .committed := by
  unfold retireAssigned at h
  rcases hbound : inputs.boundBatches with _ | ⟨batchId, _ | ⟨other, rest⟩⟩
  · rw [hbound] at h
    cases h
    exact ⟨.inl rfl, by simp⟩
  · rw [hbound] at h
    obtain ⟨found, hfound, h⟩ := bind_eq_ok.mp h
    cases found with
    | none => cases h
    | some existing =>
      obtain ⟨hget, -⟩ := findBatch_some hfound
      dsimp only at h
      split_ifs at h with hreuse hcommitted hprepared
      · cases h
      · cases h
        refine ⟨.inr ⟨batchId, existing, _, hget, hprepared, existing.closes_retire now, rfl⟩, ?_⟩
        rintro id (_ | ⟨_, ⟨⟩⟩)
        exact ⟨existing, hget, hcommitted⟩
      · cases h
        refine ⟨.inl rfl, ?_⟩
        rintro id (_ | ⟨_, ⟨⟩⟩)
        exact ⟨existing, hget, hcommitted⟩
  · rw [hbound] at h
    cases h

theorem prepareBatch_spec (call : PrepareCall) :
    t.Freed (prepareBatch host scope t call).tables ∨
    ∃ inputs freed attempt, prepareInputs host scope t call = .ok inputs ∧ retireAssigned scope t inputs call.now = .ok (.free freed) ∧
      prepareBatch host scope t call = ⟨.ok call.batchId, insertBatch scope freed call inputs attempt, call.commit⟩ := by
  unfold prepareBatch
  cases hinputs : prepareInputs host scope t call with
  | error message => exact .inl (.inl rfl)
  | ok inputs =>
    dsimp only
    cases hassigned : retireAssigned scope t inputs call.now with
    | error message => exact .inl (.inl rfl)
    | ok assigned =>
      cases assigned with
      | reuse batchId => exact .inl (.inl rfl)
      | free freed =>
        have hfreed := (retireAssigned_free hassigned).1
        dsimp only
        cases latestForInput scope freed inputs.accountId inputs.inputFingerprint with
        | error message => exact .inl hfreed
        | ok latest =>
          dsimp only
          cases latest.filter fun e => e.2.status = .prepared ∧ call.now < e.2.expiresAt with
          | some existing => exact .inl hfreed
          | none =>
            split_ifs
            · exact .inl hfreed
            · cases nextAttempt scope freed inputs.accountId with
              | error message => exact .inl hfreed
              | ok attempt => exact .inr ⟨inputs, freed, attempt, rfl, hassigned, rfl⟩

/-! ### Events -/

def AdmissionBatch.claim (b : AdmissionBatch Sha) (call : ClaimCall) : AdmissionBatch Sha :=
  { b with
    processingOwner := some (stripText call.processingOwner), processingFenceToken := some call.token
    processingLeaseUntil := some (call.now + admissionLease) }

def AdmissionBatch.renew (b : AdmissionBatch Sha) (now : Int) : AdmissionBatch Sha :=
  { b with processingLeaseUntil := some (now + admissionLease) }

def AdmissionBatch.commit (b : AdmissionBatch Sha) (now : Int) : AdmissionBatch Sha :=
  { b with status := .committed, committedAt := some now, processingLeaseUntil := none, processingOwner := none }

/-- What a claim needs of its batch: prepared under the current snapshot, in time. -/
structure Claimable (scope : AdmissionScope) (t : AdmissionTables Request Sha) (batchId : String) (now : Int) (b : AdmissionBatch Sha) : Prop where
  get : t.batches.get? batchId = some b
  inScope : b.inScope scope
  status : b.status = .prepared
  snapshot : validateAccountSnapshot scope t b.accountId b.accountSnapshotId b.accountSnapshotHash now = .ok ()
  inTime : now < b.expiresAt

/-- What a renewal or a commit needs: the last claim of the batch, and its lease. -/
structure Claimed (scope : AdmissionScope) (t : AdmissionTables Request Sha) (batchId fenceToken : String) (now : Int) (b : AdmissionBatch Sha) : Prop
    extends Claimable scope t batchId now b where
  token : b.processingFenceToken.getD "" = fenceToken
  lease : ∃ lease, b.processingLeaseUntil = some lease ∧ now < lease

/-- What an event does to the tables, with the answer that has reached them. -/
inductive AdmissionEffect (host : AdmissionHost Request Sha) (t : AdmissionTables Request Sha) :
    AdmissionEvent Request Sha → Option AdmissionAnswer → AdmissionTables Request Sha → Prop
  | freed {e : AdmissionEvent Request Sha} {answer : Option AdmissionAnswer} {freed : AdmissionTables Request Sha} (h : t.Freed freed)
      (hanswer : answer = none ∨ ∃ id, answer = some (.prepared id)) : AdmissionEffect host t e answer freed
  | outside (changed : AdmissionTables Request Sha) : AdmissionEffect host t (.outside changed) none changed
  | prepared {scope : AdmissionScope} {call : PrepareCall} {kept : Bool} {inputs : PrepareInputs Request Sha}
      {freed : AdmissionTables Request Sha} {attempt : Nat} (hinputs : prepareInputs host scope t call = .ok inputs)
      (hassigned : retireAssigned scope t inputs call.now = .ok (.free freed)) :
      AdmissionEffect host t (.call scope (.prepare call) kept) (some (.prepared call.batchId)) (insertBatch scope freed call inputs attempt)
  | claimed {scope : AdmissionScope} {call : ClaimCall} {kept : Bool} {b : AdmissionBatch Sha}
      (h : Claimable scope t call.batchId call.now b) :
      AdmissionEffect host t (.call scope (.claim call) kept)
        (some (.claimed ⟨call.batchId, call.token, b.expiresAt, call.now + admissionLease⟩)) (t.setBatch call.batchId (b.claim call))
  | renewed {scope : AdmissionScope} {call : RenewCall} {kept : Bool} {b : AdmissionBatch Sha}
      (h : Claimed scope t call.batchId call.fenceToken call.now b) :
      AdmissionEffect host t (.call scope (.renew call) kept) (some (.renewed (call.now + admissionLease)))
        (t.setBatch call.batchId (b.renew call.now))
  | committed {scope : AdmissionScope} {call : CommitCall} {kept : Bool} {b : AdmissionBatch Sha}
      (h : Claimed scope t call.batchId call.fenceToken call.now b) (hmanifest : manifestStands host scope t call.batchId b) :
      AdmissionEffect host t (.call scope (.commit call) kept) (some (.committed call.batchId)) (t.setBatch call.batchId (b.commit call.now))

theorem Claimed.of_locked {batchId fenceToken : String} {now : Int} (h : snapshotBatch scope t batchId now = .ok b)
    (htoken : b.processingFenceToken.getD "" = fenceToken) (hlease : ∃ lease, b.processingLeaseUntil = some lease ∧ now < lease)
    (hnow : now < b.expiresAt) : Claimed scope t batchId fenceToken now b := by
  obtain ⟨hget, hscope, hstatus, hsnapshot⟩ := snapshotBatch_ok h
  exact ⟨⟨hget, hscope, hstatus, hsnapshot, hnow⟩, htoken, hlease⟩

theorem AdmissionEffect.of_outcome {e : AdmissionEvent Request Sha} {outcome : AdmissionOutcome Request Sha AdmissionAnswer} {kept : Bool}
    (h : AdmissionEffect host t e outcome.answer.toOption outcome.tables) :
    AdmissionEffect host t e (if outcome.committed || kept then outcome.answer.toOption else none)
      (if outcome.committed || kept then outcome.tables else t) := by
  by_cases hkept : (outcome.committed || kept) = true
  · rw [if_pos hkept, if_pos hkept]
    exact h
  · rw [if_neg hkept, if_neg hkept]
    exact .freed (.inl rfl) (.inl rfl)

theorem claim_effect (call : ClaimCall) (kept : Bool) :
    let outcome := t.call host scope (.claim call)
    AdmissionEffect host t (.call scope (.claim call) kept) outcome.answer.toOption outcome.tables := by
  simp only [AdmissionTables.call, AdmissionOutcome.mapAnswer]
  unfold claimBatch
  by_cases howner : stripText call.processingOwner = ""
  · rw [if_pos howner]
    exact .freed (.inl rfl) (.inl rfl)
  rw [if_neg howner]
  cases hbatch : snapshotBatch scope t call.batchId call.now with
  | error message => exact .freed (.inl rfl) (.inl rfl)
  | ok b =>
    obtain ⟨hget, hscope, hstatus, hsnapshot⟩ := snapshotBatch_ok hbatch
    dsimp only
    by_cases hexpired : b.expiresAt ≤ call.now
    · rw [if_pos hexpired]
      exact .freed (.inr ⟨_, b, _, hget, hstatus, b.closes_expire, rfl⟩) (.inl rfl)
    rw [if_neg hexpired]
    by_cases hheld : b.processingFenceToken.getD "" ≠ "" ∧ ∃ lease ∈ b.processingLeaseUntil, call.now < lease
    · rw [if_pos hheld]
      exact .freed (.inl rfl) (.inl rfl)
    · rw [if_neg hheld]
      exact .claimed ⟨hget, hscope, hstatus, hsnapshot, lt_of_not_ge hexpired⟩

theorem renew_effect (call : RenewCall) (kept : Bool) :
    let outcome := t.call host scope (.renew call)
    AdmissionEffect host t (.call scope (.renew call) kept) outcome.answer.toOption outcome.tables := by
  simp only [AdmissionTables.call, AdmissionOutcome.mapAnswer]
  unfold renewClaim
  rcases @lockedClaimedBatch_spec _ _ _ scope t call.batchId call.fenceToken call.now with
    ⟨b, hlocked, hbatch, htoken, hlease, hnow⟩ | ⟨message, held, hlocked, hfreed⟩
  · rw [hlocked]
    exact .renewed (.of_locked hbatch htoken hlease hnow)
  · rw [hlocked]
    exact .freed hfreed (.inl rfl)

theorem commit_effect (call : CommitCall) (kept : Bool) :
    let outcome := t.call host scope (.commit call)
    AdmissionEffect host t (.call scope (.commit call) kept) outcome.answer.toOption outcome.tables := by
  simp only [AdmissionTables.call, AdmissionOutcome.mapAnswer]
  unfold commitBatch
  rcases @lockedClaimedBatch_spec _ _ _ scope t call.batchId call.fenceToken call.now with
    ⟨b, hlocked, hbatch, htoken, hlease, hnow⟩ | ⟨message, held, hlocked, hfreed⟩
  · rw [hlocked]
    have hclaimed := Claimed.of_locked hbatch htoken hlease hnow
    dsimp only
    by_cases hinput : b.accountSnapshotId ≠ call.accountSnapshotId ∨
        lowerDigest b.accountSnapshotHash ≠ lowerDigest call.accountSnapshotHash ∨
        lowerDigest b.obligationWatermark ≠ lowerDigest call.obligationWatermark
    · rw [if_pos hinput]
      exact .freed (.inr ⟨_, b, _, hclaimed.get, hclaimed.status, b.closes_supersede _, rfl⟩) (.inl rfl)
    rw [if_neg hinput]
    by_cases hmanifest : manifestStands host scope t call.batchId b
    · rw [if_neg (not_not.mpr hmanifest)]
      exact .committed hclaimed hmanifest
    · rw [if_pos hmanifest]
      exact .freed (.inr ⟨_, b, _, hclaimed.get, hclaimed.status, b.closes_supersede _, rfl⟩) (.inl rfl)
  · rw [hlocked]
    exact .freed hfreed (.inl rfl)

theorem prepare_effect (call : PrepareCall) (kept : Bool) :
    let outcome := t.call host scope (.prepare call)
    AdmissionEffect host t (.call scope (.prepare call) kept) outcome.answer.toOption outcome.tables := by
  simp only [AdmissionTables.call, AdmissionOutcome.mapAnswer]
  rcases @prepareBatch_spec _ _ _ host scope t call with hfreed | ⟨inputs, freed, attempt, hinputs, hassigned, hcall⟩
  · refine .freed hfreed ?_
    cases (prepareBatch host scope t call).answer with
    | error message => exact .inl rfl
    | ok batchId => exact .inr ⟨batchId, rfl⟩
  · rw [hcall]
    exact .prepared hinputs hassigned

theorem step_effect (e : AdmissionEvent Request Sha) : AdmissionEffect host t e (t.answer? host e) (t.step host e) := by
  cases e with
  | outside changed => exact .outside changed
  | call scope call kept =>
    refine AdmissionEffect.of_outcome ?_
    cases call with
    | prepare call => exact prepare_effect call kept
    | claim call => exact claim_effect call kept
    | renew call => exact renew_effect call kept
    | commit call => exact commit_effect call kept

end QuantX
