import QuantX.Lib.Run
import QuantX.MarketData.RealtimeArchive

namespace QuantX
open Lib ArchiveTables

variable {host : ArchiveHost} {s next : ArchiveTables} {request request' : ArchiveRevision} {now : Int} {call : ArchiveCall}

namespace ArchiveRevision

theorem epoch_le (h : request.rank ≤ request'.rank) : request.epoch ≤ request'.epoch := by
  rcases Prod.Lex.toLex_le_toLex.mp h with hlt | ⟨heq, -⟩
  · exact hlt.le
  · exact heq.le

theorem epoch_lt (h : request.rank < request'.rank) (hne : request.epoch ≠ request'.epoch) : request.epoch < request'.epoch :=
  lt_of_le_of_ne (epoch_le h.le) hne

def SameMinute (request request' : ArchiveRevision) : Prop :=
  request.instrument = request'.instrument ∧ request.minute = request'.minute

end ArchiveRevision
open ArchiveRevision

structure ArchiveFollows (request request' : ArchiveRevision) : Prop where
  rank : SameMinute request request' → request.rank < request'.rank
  sealed : SameMinute request request' → request.sealed = true → request'.sealed = true ∧ request.epoch < request'.epoch
  stream : request.generation = request'.generation → request.continuityGeneration ≤ request'.continuityGeneration ∧
    (request.continuityGeneration = request'.continuityGeneration → request.streamId = request'.streamId)

structure ArchiveTables.Sound (s : ArchiveTables) (host : ArchiveHost) : Prop where
  keyed : ∀ identity row, s.revisions.get? identity = some row → row.requestId = identity ∧ host.identity row.request.toArchiveSlot = identity
  attempts : ∀ identity row, s.revisions.get? identity = some row → row.writeAttempts ≤ 4 ∧ row.readAttempts ≤ 4
  proof : ∀ identity row, s.revisions.get? identity = some row → (row.phase = .verified ↔ row.proof ≠ none)
  streams : ∀ identity row, s.revisions.get? identity = some row →
    s.streams.get? (row.request.generation, row.request.continuityGeneration) = some row.request.streamId
  sealed : ∀ identity identity' row row', s.revisions.get? identity = some row → s.revisions.get? identity' = some row' →
    SameMinute row.request row'.request → row.request.sealed = true → row.request.rank < row'.request.rank →
      row'.request.sealed = true ∧ row.request.epoch < row'.request.epoch

theorem ArchiveTables.Sound.empty (host : ArchiveHost) : ({} : ArchiveTables).Sound host where
  keyed := fun _ _ h => by cases h
  attempts := fun _ _ h => by cases h
  proof := fun _ _ h => by cases h
  streams := fun _ _ h => by cases h
  sealed := fun _ _ _ _ h => by cases h

theorem inMinute_iff {row : ArchiveRow} {instrument : String} {minute : Int} :
    row.inMinute instrument minute = true ↔ row.request.instrument = instrument ∧ row.request.minute = minute := decide_eq_true_iff

theorem newest_some {instrument : String} {minute : Int} {row : ArchiveRow} (h : s.newest instrument minute = some row) :
    row ∈ s.revisions.values ∧ row.request.instrument = instrument ∧ row.request.minute = minute ∧
      ∀ other ∈ s.revisions.values, other.request.instrument = instrument → other.request.minute = minute →
        other.request.rank ≤ row.request.rank := by
  obtain ⟨hmem, hminute⟩ := List.mem_filter.mp (List.argmax_mem (Option.mem_def.mpr h))
  obtain ⟨hinstrument, hminute⟩ := inMinute_iff.mp hminute
  refine ⟨hmem, hinstrument, hminute, ?_⟩
  intro other hother hinstrument' hminute'
  have hfiltered : other ∈ s.revisions.values.filter (·.inMinute instrument minute) :=
    List.mem_filter.mpr ⟨hother, inMinute_iff.mpr ⟨hinstrument', hminute'⟩⟩
  have hle := List.le_of_mem_argmax hfiltered (Option.mem_def.mpr h)
  exact hle

theorem newest_isSome {identity : String} {row : ArchiveRow} (h : s.revisions.get? identity = some row) :
    ∃ newest, s.newest row.request.instrument row.request.minute = some newest := by
  cases hnewest : s.newest row.request.instrument row.request.minute with
  | some newest => exact ⟨newest, rfl⟩
  | none =>
    have hmem : row ∈ s.revisions.values.filter (·.inMinute row.request.instrument row.request.minute) :=
      List.mem_filter.mpr ⟨Dict.mem_values.mpr ⟨identity, h⟩, inMinute_iff.mpr ⟨rfl, rfl⟩⟩
    rw [List.argmax_eq_none.mp hnewest] at hmem
    cases hmem

theorem checkRevision_ok (h : s.checkRevision request = .ok ()) (hsound : s.Sound host) {identity : String} {row : ArchiveRow}
    (hrow : s.revisions.get? identity = some row) (hsame : SameMinute row.request request) :
    row.request.rank < request.rank ∧ (row.request.sealed = true → request.sealed = true ∧ row.request.epoch < request.epoch) := by
  obtain ⟨newest, hnewest⟩ := newest_isSome hrow
  obtain ⟨hmem, hinstrument, hminute, hfirst⟩ := newest_some hnewest
  obtain ⟨identity', hget⟩ := Dict.mem_values.mp hmem
  rw [hsame.1, hsame.2] at hnewest
  rw [checkRevision, hnewest] at h
  obtain ⟨hstale, h⟩ := require_bind.mp h
  have hsealed := require_eq_ok.mp h
  have hle : row.request.rank ≤ newest.request.rank := hfirst row (Dict.mem_values.mpr ⟨identity, hrow⟩) rfl rfl
  have hlt : newest.request.rank < request.rank := not_le.mp hstale
  refine ⟨hle.trans_lt hlt, fun hrowSealed => ?_⟩
  have hnewestSealed : newest.request.sealed = true := by
    rcases hle.lt_or_eq with hless | heq
    · exact (hsound.sealed _ _ row newest hrow hget ⟨hinstrument.symm, hminute.symm⟩ hrowSealed hless).1
    · have hrank := congrArg (fun rank => (ofLex (ofLex rank).2).2) heq
      exact hrank.symm.trans hrowSealed
  have hnew : request.sealed = true ∧ newest.request.epoch ≠ request.epoch := by
    constructor
    · by_contra hopen
      exact hsealed ⟨hnewestSealed, .inl (by simpa using hopen)⟩
    · exact fun heq => hsealed ⟨hnewestSealed, .inr heq⟩
  exact ⟨hnew.1, (epoch_le hle).trans_lt (epoch_lt hlt hnew.2)⟩

theorem checkStream_ok (h : s.checkStream request = .ok ()) {continuity : Int} {streamId : String}
    (hstream : s.streams.get? (request.generation, continuity) = some streamId) :
    continuity ≤ request.continuityGeneration ∧ (continuity = request.continuityGeneration → streamId = request.streamId) := by
  have hmem : ((request.generation, continuity), streamId) ∈ s.streams.entries.filter fun stream => stream.1.1 = request.generation :=
    List.mem_filter.mpr ⟨Dict.mem_entries.mpr hstream, by simp⟩
  cases hnewest : s.newestStream request.generation with
  | none =>
    rw [List.argmax_eq_none.mp hnewest] at hmem
    cases hmem
  | some stream =>
    rw [checkStream, hnewest] at h
    have hfit := require_eq_ok.mp h
    push Not at hfit
    have hle := List.le_of_mem_argmax hmem (Option.mem_def.mpr hnewest)
    refine ⟨hle.trans hfit.1, fun hequal => ?_⟩
    obtain ⟨hentry, hgeneration⟩ := List.mem_filter.mp (List.argmax_mem (Option.mem_def.mpr hnewest))
    have hcontinued : stream.1.2 = request.continuityGeneration := le_antisymm hfit.1 (hequal ▸ hle)
    have hkey : stream.1 = (request.generation, continuity) :=
      Prod.ext (of_decide_eq_true hgeneration) (hcontinued.trans hequal.symm)
    have hget := Dict.mem_entries.mp hentry
    rw [hkey, hstream] at hget
    rw [Option.some.inj hget]
    exact hfit.2 hcontinued

/-! ## Moves -/

inductive ArchiveRowMove (s : ArchiveTables) : ArchiveCall → ArchiveRow → ArchiveRow → Prop
  | spent (guard : Bool) (now : Int) (row : ArchiveRow) (hpending : row.pending = true) :
      ArchiveRowMove s (.claim guard now) row { row with phase := .blocked, reason := some "ARCHIVE_ATTEMPTS_EXHAUSTED" }
  | attempted (guard : Bool) (now : Int) (row : ArchiveRow) (hless : row.attempts < 4) (next : ArchiveTables)
      (hclaimed : s.claim guard now = .ok (next, some row.attempt)) :
      ArchiveRowMove s (.claim guard now) row { row.attempt with nextRetryAt := now + 30000000 }
  | settled (guard : Bool) (claim : ArchiveRow) (phase : ArchivePhase) (reason : Option String) (proof : Option ArchiveProof) (now : Int)
      (row row' : ArchiveRow) (hclaim : claim.requestId = row.requestId) (hid : row'.requestId = row.requestId) (hrequest : row'.request = row.request)
      (hwrites : row'.writeAttempts = row.writeAttempts) (hreads : row'.readAttempts = row.readAttempts)
      (hverified : row'.phase = .verified ↔ row'.proof ≠ none) (hproof : row'.proof = proof) :
      ArchiveRowMove s (.finish guard claim phase reason proof now) row row'

inductive ArchiveMove (host : ArchiveHost) (s : ArchiveTables) : ArchiveCall → ArchiveTables → Prop
  | kept (call : ArchiveCall) : ArchiveMove host s call s
  | registered (call : ArchiveCall) (scopes : Dict (Int × String) ArchiveScopeRow) : ArchiveMove host s call { s with scopes }
  | accepted (request : ArchiveRevision) (active activeAfter : Bool) (now : Int)
      (hnew : s.revisions.get? (host.identity request.toArchiveSlot) = none) (hstream : s.checkStream request = .ok ())
      (hrevision : s.checkRevision request = .ok ()) (hsize : host.encodedBytes request ≤ MAX_ARCHIVE_REQUEST_BYTES) :
      ArchiveMove host s (.submit request active activeAfter now) (s.insertRevision host request now)
  | advanced (call : ArchiveCall) (row row' : ArchiveRow) (hrow : s.revisions.get? row.requestId = some row)
      (hmove : ArchiveRowMove s call row row') :
      ArchiveMove host s call { s with revisions := s.revisions.set row.requestId row' }

theorem registerScope_ok {scope : ArchiveRecoveryScope} {recover active activeAfter : Bool} {registeredAt : Option Int}
    (h : s.registerScope scope recover registeredAt active activeAfter now = .ok next) : next = { s with scopes := next.scopes } := by
  unfold registerScope at h
  split at h
  · obtain ⟨-, h⟩ := require_bind.mp h
    obtain rfl := Except.ok.inj h
    rfl
  · obtain ⟨-, h⟩ := require_bind.mp h
    obtain ⟨-, h⟩ := require_bind.mp h
    obtain ⟨-, h⟩ := require_bind.mp h
    obtain ⟨-, h⟩ := require_bind.mp h
    obtain ⟨-, h⟩ := require_bind.mp h
    obtain ⟨-, h⟩ := require_bind.mp h
    obtain rfl := Except.ok.inj h
    rfl

theorem accept_ok {active activeAfter : Bool} (h : s.accept host request active activeAfter now = .ok next) :
    s.checkStream request = .ok () ∧ s.checkRevision request = .ok () ∧ next = s.insertRevision host request now := by
  obtain ⟨-, h⟩ := check_bind.mp h
  obtain ⟨-, h⟩ := require_bind.mp h
  obtain ⟨hstream, h⟩ := check_bind.mp h
  obtain ⟨hrevision, h⟩ := check_bind.mp h
  obtain ⟨-, h⟩ := require_bind.mp h
  obtain ⟨-, h⟩ := require_bind.mp h
  obtain ⟨-, h⟩ := require_bind.mp h
  exact ⟨hstream, hrevision, (Except.ok.inj h).symm⟩

theorem submit_ok {active activeAfter : Bool} {identity : String} (h : s.submit host request active activeAfter now = .ok (next, identity)) :
    host.encodedBytes request ≤ MAX_ARCHIVE_REQUEST_BYTES ∧ identity = host.identity request.toArchiveSlot ∧
      ((next = s ∧ ∃ row, s.revisions.get? identity = some row ∧ row.request = request) ∨
        (s.revisions.get? identity = none ∧ s.checkStream request = .ok () ∧ s.checkRevision request = .ok () ∧
          next = s.insertRevision host request now)) := by
  obtain ⟨hsize, h⟩ := require_bind.mp h
  split at h
  · rename_i row hrow
    obtain ⟨hsame, h⟩ := require_bind.mp h
    obtain ⟨rfl, rfl⟩ := Prod.mk.inj (Except.ok.inj h)
    exact ⟨hsize, rfl, .inl ⟨rfl, row, hrow, hsame⟩⟩
  · rename_i hnew
    obtain ⟨accepted, haccept, h⟩ := bind_eq_ok.mp h
    obtain ⟨rfl, rfl⟩ := Prod.mk.inj (Except.ok.inj h)
    exact ⟨hsize, rfl, .inr ⟨hnew, accept_ok haccept⟩⟩

theorem attempt_attempts (row : ArchiveRow) :
    row.attempt.writeAttempts = (if row.phase = .write then row.writeAttempts + 1 else row.writeAttempts) ∧
      row.attempt.readAttempts = (if row.phase = .write then row.readAttempts else row.readAttempts + 1) := by
  unfold ArchiveRow.attempt
  split <;> simp

theorem attempts_bound {row : ArchiveRow} (h : row.attempts < 4) (hbound : row.writeAttempts ≤ 4 ∧ row.readAttempts ≤ 4) :
    row.attempt.writeAttempts ≤ 4 ∧ row.attempt.readAttempts ≤ 4 := by
  obtain ⟨hwrites, hreads⟩ := attempt_attempts row
  rw [hwrites, hreads]
  unfold ArchiveRow.attempts at h
  by_cases hphase : row.phase = .write
  · rw [if_pos hphase] at h
    simpa only [if_pos hphase] using ⟨Nat.succ_le_of_lt h, hbound.2⟩
  · rw [if_neg hphase] at h
    simpa only [if_neg hphase] using ⟨hbound.1, Nat.succ_le_of_lt h⟩

theorem due_some {row : ArchiveRow} (h : s.due now = some row) (hsound : s.Sound host) :
    s.revisions.get? row.requestId = some row ∧ row.pending = true := by
  obtain ⟨hmem, hdue⟩ := List.mem_filter.mp (List.argmin_mem (Option.mem_def.mpr h))
  obtain ⟨identity, hrow⟩ := Dict.mem_values.mp hmem
  have hkey := (hsound.keyed identity row hrow).1
  rw [← hkey] at hrow
  exact ⟨hrow, (of_decide_eq_true hdue).1⟩

theorem pending_phase {row : ArchiveRow} (h : row.pending = true) : row.phase = .write ∨ row.phase = .readback := of_decide_eq_true h

theorem proof_of_pending {row : ArchiveRow} (h : row.pending = true) (hproof : row.phase = .verified ↔ row.proof ≠ none) :
    row.proof = none := by
  by_contra hsome
  rw [ArchiveRow.pending, hproof.mpr hsome] at h
  cases h

theorem claim_ok {guard : Bool} {claimed : Option ArchiveRow} (h : s.claim guard now = .ok (next, claimed)) (hsound : s.Sound host) :
    (next = s ∧ claimed = none) ∨
      ∃ row, s.revisions.get? row.requestId = some row ∧ row.pending = true ∧
        ((claimed = none ∧ next = { s with revisions := s.revisions.set row.requestId { row with
            phase := .blocked, reason := some "ARCHIVE_ATTEMPTS_EXHAUSTED" } }) ∨
          (claimed = some row.attempt ∧ row.attempts < 4 ∧
            next = { s with revisions := s.revisions.set row.requestId { row.attempt with nextRetryAt := now + 30000000 } })) := by
  obtain ⟨-, h⟩ := require_bind.mp h
  split at h
  · obtain ⟨rfl, rfl⟩ := Prod.mk.inj (Except.ok.inj h)
    exact .inl ⟨rfl, rfl⟩
  · rename_i row hdue
    obtain ⟨hrow, hpending⟩ := due_some hdue hsound
    refine .inr ⟨row, hrow, hpending, ?_⟩
    split at h
    · obtain ⟨rfl, rfl⟩ := Prod.mk.inj (Except.ok.inj h)
      exact .inl ⟨rfl, rfl⟩
    · rename_i hless
      obtain ⟨rfl, rfl⟩ := Prod.mk.inj (Except.ok.inj h)
      exact .inr ⟨rfl, not_le.mp hless, rfl⟩

theorem attempt_phase (row : ArchiveRow) : row.attempt.phase = row.phase ∧ row.attempt.proof = row.proof ∧
    row.attempt.requestId = row.requestId ∧ row.attempt.request = row.request := by
  unfold ArchiveRow.attempt
  split <;> exact ⟨rfl, rfl, rfl, rfl⟩

theorem claim_move {guard : Bool} {claimed : Option ArchiveRow} (h : s.claim guard now = .ok (next, claimed)) (hsound : s.Sound host) :
    ArchiveMove host s (.claim guard now) next := by
  rcases claim_ok h hsound with ⟨rfl, -⟩ | ⟨row, hrow, hpending, ⟨-, rfl⟩ | ⟨rfl, hless, rfl⟩⟩
  · exact .kept _
  · exact .advanced _ row _ hrow (.spent guard now row hpending)
  · exact .advanced _ row _ hrow (.attempted guard now row hless _ h)

theorem claimRow_some {claim row : ArchiveRow} (h : s.claimRow claim = some row) :
    s.revisions.get? claim.requestId = some row ∧ row.phase = claim.phase ∧ row.writeAttempts = claim.writeAttempts ∧
      row.readAttempts = claim.readAttempts := by
  obtain ⟨hrow, hmatch⟩ := Option.filter_eq_some_iff.mp h
  exact ⟨hrow, of_decide_eq_true hmatch⟩

theorem finish_ok {guard : Bool} {claim : ArchiveRow} {phase : ArchivePhase} {reason : Option String} {proof : Option ArchiveProof}
    (h : s.finish guard claim phase reason proof now = .ok next) :
    ∃ row row', s.revisions.get? claim.requestId = some row ∧ row.writeAttempts = claim.writeAttempts ∧ row.readAttempts = claim.readAttempts ∧
      next = { s with revisions := s.revisions.set row.requestId row' } ∧ row'.requestId = row.requestId ∧ row'.request = row.request ∧
        row'.writeAttempts = row.writeAttempts ∧ row'.readAttempts = row.readAttempts ∧ (row'.phase = .verified ↔ row'.proof ≠ none) ∧
          row'.proof = proof := by
  obtain ⟨-, h⟩ := require_bind.mp h
  obtain ⟨delay, -, h⟩ := bind_eq_ok.mp h
  split at h
  · cases h
  · rename_i row hclaim
    obtain ⟨hproof, h⟩ := require_bind.mp h
    obtain ⟨hrow, -, hwrites, hreads⟩ := claimRow_some hclaim
    exact ⟨row, _, hrow, hwrites, hreads, (Except.ok.inj h).symm, rfl, rfl, rfl, rfl, hproof, rfl⟩

theorem finish_move {guard : Bool} {claim : ArchiveRow} {phase : ArchivePhase} {reason : Option String} {proof : Option ArchiveProof}
    (h : s.finish guard claim phase reason proof now = .ok next) (hsound : s.Sound host) :
    ArchiveMove host s (.finish guard claim phase reason proof now) next := by
  obtain ⟨row, row', hrow, -, -, rfl, hid, hrequest, hwrites, hreads, hverified, hproof⟩ := finish_ok h
  have hkey := (hsound.keyed _ row hrow).1
  rw [← hkey] at hrow
  exact .advanced _ row row' hrow (.settled guard claim phase reason proof now row row' hkey.symm hid hrequest hwrites hreads hverified hproof)

theorem call_move (hsound : s.Sound host) (call : ArchiveCall) : ArchiveMove host s call (s.call host call) := by
  cases call with
  | registerScope scope recover registeredAt active activeAfter now =>
    rw [ArchiveTables.call]
    split
    · rename_i next hnext
      rw [registerScope_ok hnext]
      exact .registered _ _
    · exact .kept _
  | submit request active activeAfter now =>
    rw [ArchiveTables.call]
    split
    · rename_i result hresult
      obtain ⟨hsize, hidentity, ⟨hkept, -⟩ | ⟨hnew, hstream, hrevision, hnext⟩⟩ := submit_ok hresult
      · rw [hkept]
        exact .kept _
      · rw [hnext]
        exact .accepted request active activeAfter now (hidentity ▸ hnew) hstream hrevision hsize
    · exact .kept _
  | claim guard now =>
    rw [ArchiveTables.call]
    split
    · exact claim_move ‹_› hsound
    · exact .kept _
  | finish guard claim phase reason proof now =>
    rw [ArchiveTables.call]
    split
    · exact finish_move ‹_› hsound
    · exact .kept _

/-! ## What one move keeps -/

def ArchiveTables.Holds (s : ArchiveTables) (host : ArchiveHost) (request : ArchiveRevision) : Prop :=
  ∃ row, s.revisions.get? (host.identity request.toArchiveSlot) = some row ∧ row.request = request

theorem ArchiveRowMove.keeps {row row' : ArchiveRow} (h : ArchiveRowMove s call row row') : row'.requestId = row.requestId ∧
    row'.request = row.request ∧ row.writeAttempts ≤ row'.writeAttempts ∧ row.readAttempts ≤ row'.readAttempts := by
  cases h with
  | spent => exact ⟨rfl, rfl, le_refl _, le_refl _⟩
  | attempted =>
    obtain ⟨-, -, hid, hrequest⟩ := attempt_phase row
    obtain ⟨hwrites, hreads⟩ := attempt_attempts row
    simp only [hid, hrequest, hwrites, hreads, true_and]
    split <;> omega
  | settled _ _ _ _ _ _ _ _ _ hid hrequest hwrites hreads => exact ⟨hid, hrequest, hwrites.ge, hreads.ge⟩

theorem ArchiveRowMove.bounded {row row' : ArchiveRow} (h : ArchiveRowMove s call row row') (hbound : row.writeAttempts ≤ 4 ∧ row.readAttempts ≤ 4) :
    row'.writeAttempts ≤ 4 ∧ row'.readAttempts ≤ 4 := by
  cases h with
  | spent => exact hbound
  | attempted _ _ _ hless => exact attempts_bound hless hbound
  | settled _ _ _ _ _ _ _ _ _ _ _ hwrites hreads => exact ⟨hwrites.le.trans hbound.1, hreads.le.trans hbound.2⟩

theorem ArchiveRowMove.verified {row row' : ArchiveRow} (h : ArchiveRowMove s call row row') (hproof : row.phase = .verified ↔ row.proof ≠ none) :
    row'.phase = .verified ↔ row'.proof ≠ none := by
  cases h with
  | spent _ _ _ hpending => simp [proof_of_pending hpending hproof]
  | attempted =>
    obtain ⟨hphase, hsame, -⟩ := attempt_phase row
    simp only [hphase, hsame]
    exact hproof
  | settled _ _ _ _ _ _ _ _ _ _ _ _ _ hverified => exact hverified

theorem ArchiveRowMove.attempts {row row' : ArchiveRow} (h : ArchiveRowMove s call row row') :
    (row'.writeAttempts = row.writeAttempts ∧ row'.readAttempts = row.readAttempts) ∨
      ∃ guard now next, call = .claim guard now ∧ s.claim guard now = .ok (next, some row.attempt) := by
  cases h with
  | spent => exact .inl ⟨rfl, rfl⟩
  | attempted guard now _ _ next hclaimed => exact .inr ⟨guard, now, next, rfl, hclaimed⟩
  | settled _ _ _ _ _ _ _ _ _ _ _ hwrites hreads => exact .inl ⟨hwrites, hreads⟩

theorem ArchiveRowMove.proof {row row' : ArchiveRow} (h : ArchiveRowMove s call row row') : row'.proof = row.proof ∨
    ∃ guard claim phase reason now, call = .finish guard claim phase reason row'.proof now ∧ claim.requestId = row.requestId := by
  cases h with
  | spent => exact .inl rfl
  | attempted => exact .inl (attempt_phase row).2.1
  | settled guard claim phase reason _ now _ _ hclaim _ _ _ _ _ hproof =>
    subst hproof
    exact .inr ⟨guard, claim, phase, reason, now, rfl, hclaim⟩

theorem ArchiveMove.keeps (h : ArchiveMove host s call next) {identity : String} {row : ArchiveRow} (hrow : s.revisions.get? identity = some row) :
    ∃ row', next.revisions.get? identity = some row' ∧ row'.requestId = row.requestId ∧ row'.request = row.request ∧
      row.writeAttempts ≤ row'.writeAttempts ∧ row.readAttempts ≤ row'.readAttempts := by
  cases h with
  | kept => exact ⟨row, hrow, rfl, rfl, le_refl _, le_refl _⟩
  | registered => exact ⟨row, hrow, rfl, rfl, le_refl _, le_refl _⟩
  | accepted request active activeAfter now hnew =>
    have hne : host.identity request.toArchiveSlot ≠ identity := by
      rintro rfl
      rw [hnew] at hrow
      cases hrow
    exact ⟨row, (Dict.get?_set_ne _ _ hne).trans hrow, rfl, rfl, le_refl _, le_refl _⟩
  | advanced _ old row' hold hmove =>
    obtain ⟨hid, hrequest, hwrites, hreads⟩ := hmove.keeps
    by_cases hidentity : old.requestId = identity
    · subst hidentity
      obtain rfl := Option.some.inj (hold.symm.trans hrow)
      exact ⟨row', Dict.get?_set_self _ _ _, hid, hrequest, hwrites, hreads⟩
    · exact ⟨row, (Dict.get?_set_ne _ _ hidentity).trans hrow, rfl, rfl, le_refl _, le_refl _⟩

theorem ArchiveMove.stream (h : ArchiveMove host s call next) {key : Int × Int} {stream : String} (hstream : s.streams.get? key = some stream) :
    next.streams.get? key = some stream := by
  cases h with
  | kept => exact hstream
  | registered => exact hstream
  | accepted => exact Dict.get?_setdefault_eq_some.mpr (.inl hstream)
  | advanced => exact hstream

theorem insertRevision_stream (h : s.checkStream request = .ok ()) :
    (s.insertRevision host request now).streams.get? (request.generation, request.continuityGeneration) = some request.streamId := by
  refine Dict.get?_setdefault_eq_some.mpr ?_
  cases hstream : s.streams.get? (request.generation, request.continuityGeneration) with
  | none => exact .inr ⟨rfl, rfl, rfl⟩
  | some stream => exact .inl (congrArg some ((checkStream_ok h hstream).2 rfl))

theorem ArchiveMove.new_row (h : ArchiveMove host s call next) {identity : String} {row : ArchiveRow} (hnew : s.revisions.get? identity = none)
    (hrow : next.revisions.get? identity = some row) :
    ∃ active activeAfter now, call = .submit row.request active activeAfter now ∧ next = s.insertRevision host row.request now ∧
      host.encodedBytes row.request ≤ MAX_ARCHIVE_REQUEST_BYTES ∧ identity = host.identity row.request.toArchiveSlot ∧
      s.checkStream row.request = .ok () ∧ s.checkRevision row.request = .ok () ∧
        row = { requestId := identity, request := row.request, nextRetryAt := now, createdAt := now } := by
  cases h with
  | kept => cases hnew.symm.trans hrow
  | registered => cases hnew.symm.trans hrow
  | accepted request active activeAfter now hnew' hstream hrevision hsize =>
    have hget := hrow
    rw [insertRevision, Dict.get?_set] at hget
    split at hget
    · rename_i hidentity
      subst hidentity
      obtain rfl := Option.some.inj hget
      exact ⟨active, activeAfter, now, rfl, rfl, hsize, rfl, hstream, hrevision, rfl⟩
    · cases hnew.symm.trans hget
  | advanced _ old row' hold =>
    rw [Dict.get?_set] at hrow
    split at hrow
    · rename_i hidentity
      subst hidentity
      cases hnew.symm.trans hold
    · cases hnew.symm.trans hrow

theorem ArchiveMove.old_row (h : ArchiveMove host s call next) {identity : String} {old row : ArchiveRow} (hold : s.revisions.get? identity = some old)
    (hrow : next.revisions.get? identity = some row) : row = old ∨ ArchiveRowMove s call old row := by
  cases h with
  | kept => exact .inl (Option.some.inj (hrow.symm.trans hold))
  | registered => exact .inl (Option.some.inj (hrow.symm.trans hold))
  | accepted request active activeAfter now hnew =>
    rw [insertRevision, Dict.get?_set] at hrow
    split at hrow
    · rename_i hidentity
      subst hidentity
      cases hnew.symm.trans hold
    · exact .inl (Option.some.inj (hrow.symm.trans hold))
  | advanced _ old' row' hold' hmove =>
    rw [Dict.get?_set] at hrow
    split at hrow
    · rename_i hidentity
      subst hidentity
      obtain rfl := Option.some.inj (hold.symm.trans hold')
      obtain rfl := Option.some.inj hrow
      exact .inr hmove
    · exact .inl (Option.some.inj (hrow.symm.trans hold))

theorem ArchiveMove.old_request (h : ArchiveMove host s call next) {identity : String} {old row : ArchiveRow} (hold : s.revisions.get? identity = some old)
    (hrow : next.revisions.get? identity = some row) : row.request = old.request := by
  rcases h.old_row hold hrow with rfl | hmove
  · rfl
  · exact hmove.keeps.2.1

theorem ArchiveMove.sound (h : ArchiveMove host s call next) (hsound : s.Sound host) : next.Sound host where
  keyed := by
    intro identity row hrow
    cases hold : s.revisions.get? identity with
    | none =>
      obtain ⟨_, _, now, -, -, -, hidentity, -, -, hfresh⟩ := h.new_row hold hrow
      exact ⟨congrArg ArchiveRow.requestId hfresh, hidentity.symm⟩
    | some old =>
      obtain ⟨hkey, hidentity⟩ := hsound.keyed identity old hold
      rcases h.old_row hold hrow with rfl | hmove
      · exact ⟨hkey, hidentity⟩
      · obtain ⟨hid, hrequest, -⟩ := hmove.keeps
        exact ⟨hid.trans hkey, hrequest ▸ hidentity⟩
  attempts := by
    intro identity row hrow
    cases hold : s.revisions.get? identity with
    | none =>
      obtain ⟨_, _, now, -, -, -, -, -, -, hfresh⟩ := h.new_row hold hrow
      rw [hfresh]
      exact ⟨Nat.zero_le 4, Nat.zero_le 4⟩
    | some old =>
      rcases h.old_row hold hrow with rfl | hmove
      · exact hsound.attempts identity row hold
      · exact hmove.bounded (hsound.attempts identity old hold)
  proof := by
    intro identity row hrow
    cases hold : s.revisions.get? identity with
    | none =>
      obtain ⟨_, _, now, -, -, -, -, -, -, hfresh⟩ := h.new_row hold hrow
      rw [hfresh]
      simp
    | some old =>
      rcases h.old_row hold hrow with rfl | hmove
      · exact hsound.proof identity row hold
      · exact hmove.verified (hsound.proof identity old hold)
  streams := by
    intro identity row hrow
    cases hold : s.revisions.get? identity with
    | none =>
      obtain ⟨_, _, now, -, hnext, -, -, hstream, -, -⟩ := h.new_row hold hrow
      rw [hnext]
      exact insertRevision_stream hstream
    | some old =>
      rw [h.old_request hold hrow]
      exact h.stream (hsound.streams identity old hold)
  sealed := by
    intro identity identity' row row' hrow hrow' hsame hsealed hrank
    cases hold' : s.revisions.get? identity' with
    | none =>
      obtain ⟨_, _, now, -, hnext, -, hidentity', -, hrevision, -⟩ := h.new_row hold' hrow'
      cases hold : s.revisions.get? identity with
      | none =>
        -- both are the revision that was accepted
        have hkey : identity = identity' := by
          by_contra hne
          rw [hnext, insertRevision, ← hidentity', Dict.get?_set_ne _ _ (Ne.symm hne), hold] at hrow
          cases hrow
        subst hkey
        obtain rfl := Option.some.inj (hrow.symm.trans hrow')
        exact absurd hrank (lt_irrefl _)
      | some old =>
        have hrequest := h.old_request hold hrow
        rw [hrequest] at hsame hsealed ⊢
        exact (checkRevision_ok hrevision hsound hold hsame).2 hsealed
    | some old' =>
      have hrequest' := h.old_request hold' hrow'
      rw [hrequest'] at hsame hrank ⊢
      cases hold : s.revisions.get? identity with
      | none =>
        obtain ⟨_, _, now, -, -, -, -, -, hrevision, -⟩ := h.new_row hold hrow
        have hsame' : SameMinute old'.request row.request := ⟨hsame.1.symm, hsame.2.symm⟩
        exact absurd hrank (checkRevision_ok hrevision hsound hold' hsame').1.not_gt
      | some old =>
        have hrequest := h.old_request hold hrow
        rw [hrequest] at hsame hsealed hrank ⊢
        exact hsound.sealed identity identity' old old' hold hold' hsame hsealed hrank

end QuantX
