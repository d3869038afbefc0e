import QuantX.Theorems.RealtimeArchive.Sound

namespace QuantX
open Lib ArchiveTables ArchiveRevision

variable {host : ArchiveHost} {s : ArchiveTables} {request request' : ArchiveRevision} {call : ArchiveCall}

abbrev ArchiveMoment := Moment ArchiveTables ArchiveCall

abbrev Archived (host : ArchiveHost) : List ArchiveMoment → ArchiveTables → Prop :=
  Run (· = {}) (ArchiveTables.call host) fun _ _ _ => True

def AcceptsRevision (host : ArchiveHost) (m : ArchiveMoment) (request : ArchiveRevision) : Prop :=
  (∃ active activeAfter now, m.op = .submit request active activeAfter now) ∧
    m.before.revisions.get? (host.identity request.toArchiveSlot) = none ∧ m.after.Holds host request

def claimedRow (m : ArchiveMoment) : Option ArchiveRow :=
  match m.op with
  | .claim guard now =>
    match m.before.claim guard now with
    | .ok result => result.2
    | .error _ => none
  | _ => none

def usesAttempt (identity : String) (phase : ArchivePhase) (m : ArchiveMoment) : Bool :=
  (claimedRow m).any fun row => row.requestId = identity && row.phase = phase

def HonestCall (host : ArchiveHost) (log : List ArchiveMoment) (_ : ArchiveTables) (call : ArchiveCall) : Prop :=
  ∀ guard claim phase reason proof now, call = .finish guard claim phase reason (some proof) now →
    (∃ m ∈ log, claimedRow m = some claim) ∧ proof.storageVersion = host.storageVersion claim.request

structure ArchiveForward (host : ArchiveHost) (log : List ArchiveMoment) (s : ArchiveTables) : Prop where
  follows : log.Pairwise fun m' m => ∀ request request', AcceptsRevision host m request → AcceptsRevision host m' request' → ArchiveFollows request request'
  published : ∀ instrument minute row, s.published host instrument minute = .ok (some row) →
    row.request.instrument = instrument ∧ row.request.minute = minute ∧ (∃ m ∈ log, AcceptsRevision host m row.request) ∧
      ∀ m ∈ log, ∀ request, AcceptsRevision host m request → SameMinute request row.request → request.rank ≤ row.request.rank
  forward : ∀ m ∈ log, ∀ instrument minute old new, m.after.published host instrument minute = .ok (some old) →
    s.published host instrument minute = .ok (some new) → old.request.rank ≤ new.request.rank
  readable : Run (· = {}) (ArchiveTables.call host) (HonestCall host) log s →
    ∀ instrument minute, ∃ answer, s.published host instrument minute = .ok answer
  resubmitted : ∀ m ∈ log, ∀ request, AcceptsRevision host m request → ∀ active activeAfter now,
    s.submit host request active activeAfter now = .ok (s, host.identity request.toArchiveSlot) ∧
      ∀ request', host.identity request'.toArchiveSlot = host.identity request.toArchiveSlot → request' ≠ request →
        ∃ message, s.submit host request' active activeAfter now = .error message
  attempts : ∀ identity, log.countP (usesAttempt identity .write) ≤ 4 ∧ log.countP (usesAttempt identity .readback) ≤ 4
  lost : ∀ first second claim claim', [second, first].Sublist log → claimedRow first = some claim → claimedRow second = some claim' →
    claim'.requestId = claim.requestId → ∀ guard phase reason proof now,
      (∃ message, s.finish guard claim phase reason proof now = .error message) ∧
        s.call host (.finish guard claim phase reason proof now) = s

namespace Archived
variable {log : List ArchiveMoment}
variable {m : ArchiveMoment}

theorem sound (h : Archived host log s) : s.Sound host := by
  induction h with
  | start h =>
    subst h
    exact .empty host
  | step _ call _ ih => exact (call_move ih call).sound ih

theorem recorded (h : Archived host log s) : ∀ m ∈ log, m.after = m.before.call host m.op ∧ m.before.Sound host :=
  h.moments fun _ _ _ hrun _ => ⟨rfl, sound hrun⟩

def RowsStay (s s' : ArchiveTables) : Prop := ∀ identity row, s.revisions.get? identity = some row →
  ∃ row', s'.revisions.get? identity = some row' ∧ row'.request = row.request ∧
    row.writeAttempts ≤ row'.writeAttempts ∧ row.readAttempts ≤ row'.readAttempts

theorem later (h : Archived host log s) : ∀ m ∈ log, RowsStay m.after s := by
  refine h.since (fun _ _ row hrow => ⟨row, hrow, rfl, le_refl _, le_refl _⟩) ?_ fun _ _ call hrun _ identity row hrow => ?_
  · intro _ _ _ hfirst hsecond identity row hrow
    obtain ⟨row', hrow', hrequest, hwrites, hreads⟩ := hfirst identity row hrow
    obtain ⟨row'', hrow'', hrequest', hwrites', hreads'⟩ := hsecond identity row' hrow'
    exact ⟨row'', hrow'', hrequest'.trans hrequest, hwrites.trans hwrites', hreads.trans hreads'⟩
  · obtain ⟨row', hrow', -, hrequest, hwrites, hreads⟩ := (call_move (sound hrun) call).keeps hrow
    exact ⟨row', hrow', hrequest, hwrites, hreads⟩

theorem held (h : Archived host log s) (hm : m ∈ log) (haccepts : AcceptsRevision host m request) : s.Holds host request := by
  obtain ⟨row, hrow, hrequest⟩ := haccepts.2.2
  obtain ⟨row', hrow', hsame, -⟩ := later h m hm _ row hrow
  exact ⟨row', hrow', hsame.trans hrequest⟩

theorem accepted (h : Archived host log s) : ∀ identity row, s.revisions.get? identity = some row → ∃ m ∈ log, AcceptsRevision host m row.request := by
  induction h with
  | start h =>
    subst h
    intro identity row hrow
    cases hrow
  | @step log s h call _ ih =>
    intro identity row hrow
    have hmove := call_move (sound h) call
    cases hold : s.revisions.get? identity with
    | none =>
      obtain ⟨active, activeAfter, now, hcall, -, -, hidentity, -⟩ := hmove.new_row hold hrow
      subst hidentity
      exact ⟨_, List.mem_cons_self, ⟨active, activeAfter, now, hcall⟩, hold, row, hrow, rfl⟩
    | some old =>
      obtain ⟨m, hm, haccepts⟩ := ih identity old hold
      rw [hmove.old_request hold hrow]
      exact ⟨m, List.mem_cons_of_mem _ hm, haccepts⟩

theorem checked (h : Archived host log s) (hm : m ∈ log) (haccepts : AcceptsRevision host m request) :
    m.before.checkStream request = .ok () ∧ m.before.checkRevision request = .ok () ∧
      host.encodedBytes request ≤ MAX_ARCHIVE_REQUEST_BYTES := by
  obtain ⟨hafter, hsound⟩ := recorded h m hm
  obtain ⟨-, hnew, row, hrow, rfl⟩ := haccepts
  rw [hafter] at hrow
  obtain ⟨_, _, _, -, -, hsize, -, hstream, hrevision, -⟩ := (call_move hsound m.op).new_row hnew hrow
  exact ⟨hstream, hrevision, hsize⟩

theorem follows (h : Archived host log s) : log.Pairwise fun m' m =>
    ∀ request request', AcceptsRevision host m request → AcceptsRevision host m' request' → ArchiveFollows request request' := by
  refine Run.pairwise h fun log s call hrun hlegal m hm request request' haccepts haccepts' => ?_
  obtain ⟨hstream, hrevision, -⟩ := checked (hrun.step call hlegal) List.mem_cons_self haccepts'
  obtain ⟨row, hrow, rfl⟩ := held hrun hm haccepts
  have hsound := sound hrun
  refine ⟨fun hsame => (checkRevision_ok hrevision hsound hrow hsame).1, fun hsame => (checkRevision_ok hrevision hsound hrow hsame).2, ?_⟩
  intro hgeneration
  have hrowStream := hsound.streams _ row hrow
  rw [hgeneration] at hrowStream
  exact checkStream_ok hstream hrowStream

/-! ### Attempts -/

theorem claimedRow_some {claim : ArchiveRow} (hsound : m.before.Sound host) (hafter : m.after = m.before.call host m.op)
    (h : claimedRow m = some claim) :
    ∃ row now, m.before.revisions.get? row.requestId = some row ∧ row.pending = true ∧ claim = row.attempt ∧
      m.after.revisions = m.before.revisions.set row.requestId { row.attempt with nextRetryAt := now } := by
  unfold claimedRow at h
  split at h
  · rename_i guard now hop
    split at h
    · rename_i result hresult
      rcases claim_ok hresult hsound with ⟨-, hnone⟩ | ⟨row, hrow, hpending, ⟨hnone, -⟩ | ⟨hclaimed, -, hnext⟩⟩
      · cases hnone.symm.trans h
      · cases hnone.symm.trans h
      · refine ⟨row, now + 30000000, hrow, hpending, Option.some.inj (h.symm.trans hclaimed), ?_⟩
        rw [hafter, hop, ArchiveTables.call, hresult]
        exact congrArg ArchiveTables.revisions hnext
    · cases h
  · cases h

theorem attempts_kept (hsound : s.Sound host) (hclaim : claimedRow ⟨s, call, s.call host call⟩ = none) {identity : String} {row row' : ArchiveRow}
    (hrow : s.revisions.get? identity = some row) (hrow' : (s.call host call).revisions.get? identity = some row') :
    row'.writeAttempts = row.writeAttempts ∧ row'.readAttempts = row.readAttempts := by
  rcases (call_move hsound call).old_row hrow hrow' with rfl | hmove
  · exact ⟨rfl, rfl⟩
  · rcases hmove.attempts with hsame | ⟨guard, now, next, rfl, hclaimed⟩
    · exact hsame
    · simp only [claimedRow, hclaimed] at hclaim
      cases hclaim

theorem usesAttempt_of_none (h : claimedRow m = none) (identity : String) (phase : ArchivePhase) :
    usesAttempt identity phase m = false := by rw [usesAttempt, h, Option.any_none]

theorem counted (h : Archived host log s) (identity : String) :
    (∀ row, s.revisions.get? identity = some row → log.countP (usesAttempt identity .write) = row.writeAttempts ∧
      log.countP (usesAttempt identity .readback) = row.readAttempts) ∧
    (s.revisions.get? identity = none → log.countP (usesAttempt identity .write) = 0 ∧ log.countP (usesAttempt identity .readback) = 0) := by
  induction h with
  | start h =>
    subst h
    refine ⟨fun row hrow => ?_, fun _ => ⟨rfl, rfl⟩⟩
    cases hrow
  | @step log s h call _ ih =>
    have hsound := sound h
    have hmove := call_move hsound call
    cases hclaim : claimedRow ⟨s, call, s.call host call⟩ with
    | none =>
      have hno := usesAttempt_of_none hclaim identity
      simp only [List.countP_cons, hno, Bool.false_eq_true, if_false, Nat.add_zero]
      constructor
      · intro row hrow
        cases hold : s.revisions.get? identity with
        | none =>
          obtain ⟨_, _, _, -, -, -, -, -, -, hfresh⟩ := hmove.new_row hold hrow
          rw [hfresh]
          exact ih.2 hold
        | some old =>
          obtain ⟨hwrites, hreads⟩ := attempts_kept hsound hclaim hold hrow
          rw [hwrites, hreads]
          exact ih.1 old hold
      · intro hnone
        refine ih.2 ?_
        cases hold : s.revisions.get? identity with
        | none => rfl
        | some old =>
          obtain ⟨row', hrow', -⟩ := hmove.keeps hold
          cases hnone.symm.trans hrow'
    | some claim =>
      obtain ⟨row, now, hrow, hpending, rfl, hnext⟩ := claimedRow_some hsound rfl hclaim
      obtain ⟨hphase, -, hid, -⟩ := attempt_phase row
      obtain ⟨hwrites, hreads⟩ := attempt_attempts row
      have huses : ∀ phase, usesAttempt identity phase ⟨s, call, s.call host call⟩ = (decide (row.requestId = identity) && decide (row.phase = phase)) := by
        intro phase
        rw [usesAttempt, hclaim, Option.any_some, hid, hphase]
      simp only [List.countP_cons, huses]
      simp only at hnext
      rw [hnext, Dict.get?_set]
      by_cases hidentity : row.requestId = identity
      · subst hidentity
        obtain ⟨hcountWrites, hcountReads⟩ := ih.1 row hrow
        refine ⟨fun row' hrow' => ?_, fun hnone => by simp at hnone⟩
        obtain rfl := Option.some.inj (hrow'.symm.trans (if_pos rfl))
        rw [hcountWrites, hcountReads, hwrites, hreads]
        rcases pending_phase hpending with hwrite | hread
        · simp [hwrite]
        · simp [hread]
      · simpa [hidentity] using ih

theorem claimed (h : Archived host log s) {m : ArchiveMoment} (hm : m ∈ log) {claim : ArchiveRow} (hclaim : claimedRow m = some claim) :
    ∃ row, s.revisions.get? claim.requestId = some row ∧ row.request = claim.request ∧
      claim.writeAttempts ≤ row.writeAttempts ∧ claim.readAttempts ≤ row.readAttempts := by
  obtain ⟨hafter, hsound⟩ := recorded h m hm
  obtain ⟨row, now, hrow, -, rfl, hnext⟩ := claimedRow_some hsound hafter hclaim
  obtain ⟨-, -, hid, hrequest⟩ := attempt_phase row
  have hget : m.after.revisions.get? row.requestId = some { row.attempt with nextRetryAt := now } := by
    rw [hnext, Dict.get?_set_self]
  obtain ⟨row', hrow', hsame, hwrites, hreads⟩ := later h m hm _ _ hget
  exact ⟨row', hid.symm ▸ hrow', hsame, hwrites, hreads⟩

theorem claimed_again (h : Archived host log s) : log.Pairwise fun m' m => ∀ claim claim', claimedRow m = some claim → claimedRow m' = some claim' →
    claim'.requestId = claim.requestId → claim.writeAttempts + claim.readAttempts < claim'.writeAttempts + claim'.readAttempts := by
  refine h.pairwise fun log s call hrun _ m hm claim claim' hclaim hclaim' hid => ?_
  obtain ⟨row, hrow, -, hwrites, hreads⟩ := claimed hrun hm hclaim
  obtain ⟨row', now, hrow', -, rfl, -⟩ := claimedRow_some (sound hrun) rfl hclaim'
  rw [← hid, (attempt_phase row').2.2.1] at hrow
  obtain rfl := Option.some.inj (hrow.symm.trans hrow')
  obtain ⟨hmore, hmore'⟩ := attempt_attempts row
  rw [hmore, hmore']
  split <;> omega

theorem finish_lost {claim row : ArchiveRow} (hrow : s.revisions.get? claim.requestId = some row)
    (hmore : claim.writeAttempts + claim.readAttempts < row.writeAttempts + row.readAttempts) (guard : Bool) (phase : ArchivePhase)
    (reason : Option String) (proof : Option ArchiveProof) (now : Int) :
    ∃ message, s.finish guard claim phase reason proof now = .error message := by
  cases hfinish : s.finish guard claim phase reason proof now with
  | error message => exact ⟨message, rfl⟩
  | ok next =>
    obtain ⟨row', _, hrow', hwrites, hreads, -⟩ := finish_ok hfinish
    obtain rfl := Option.some.inj (hrow.symm.trans hrow')
    omega

theorem published_some {instrument : String} {minute : Int} {row : ArchiveRow} (h : s.published host instrument minute = .ok (some row)) :
    s.newest instrument minute = some row := by
  unfold published at h
  split at h
  · cases h
  · rename_i newest hnewest
    obtain ⟨answer, hanswer, hsome⟩ := map_eq_ok.mp h
    obtain ⟨-, hanswer⟩ := require_bind.mp hanswer
    obtain ⟨-, hanswer⟩ := require_bind.mp hanswer
    obtain ⟨-, hanswer⟩ := require_bind.mp hanswer
    obtain ⟨-, hanswer⟩ := require_bind.mp hanswer
    obtain rfl := Option.some.inj hsome
    obtain rfl := Except.ok.inj hanswer
    exact (Option.filter_eq_some_iff.mp hnewest).1

theorem proven (h : Run (· = {}) (ArchiveTables.call host) (HonestCall host) log s) : ∀ identity row proof,
    s.revisions.get? identity = some row → row.proof = some proof → proof.storageVersion = host.storageVersion row.request := by
  induction h with
  | start h =>
    subst h
    intro identity row proof hrow
    cases hrow
  | @step log s h call hlegal ih =>
    intro identity row proof hrow hproof
    have hrun : Archived host log s := h.mono fun _ _ _ _ => trivial
    have hmove := call_move (sound hrun) call
    cases hold : s.revisions.get? identity with
    | none =>
      obtain ⟨_, _, _, -, -, -, -, -, -, hfresh⟩ := hmove.new_row hold hrow
      rw [hfresh] at hproof
      cases hproof
    | some old =>
      rw [hmove.old_request hold hrow]
      rcases hmove.old_row hold hrow with rfl | hrowMove
      · exact ih identity row proof hold hproof
      · rcases hrowMove.proof with hsame | ⟨guard, claim, phase, reason, now, hcall, hid⟩
        · exact ih identity old proof hold (hsame.symm.trans hproof)
        · rw [hproof] at hcall
          obtain ⟨⟨m, hm, hclaim⟩, hversion⟩ := hlegal guard claim phase reason proof now hcall
          obtain ⟨row', hrow', hrequest, -⟩ := claimed hrun hm hclaim
          rw [hid, ((sound hrun).keyed identity old hold).1] at hrow'
          obtain rfl := Option.some.inj (hold.symm.trans hrow')
          rw [hversion, hrequest]

end Archived

/-- Whoever calls, rows keep to their keys, streams and attempts, proofs are of verified rows, and a sealed minute is
    outranked by later seals only. -/
theorem archive_tables_sound (host : ArchiveHost) (calls : List ArchiveCall) : (play (ArchiveTables.call host) {} calls).2.Sound host :=
  Archived.sound (@Run.of_play _ _ (· = {}) (ArchiveTables.call host) {} rfl calls)

/-- Archived minutes only move forward, whoever calls and in whatever order. -/
theorem archive_forward (h : Archived host log s) : ArchiveForward host log s where
  follows := h.follows
  published := by
    intro instrument minute row hpublished
    obtain ⟨hmem, hinstrument, hminute, hfirst⟩ := newest_some (Archived.published_some hpublished)
    obtain ⟨identity, hrow⟩ := Dict.mem_values.mp hmem
    refine ⟨hinstrument, hminute, h.accepted identity row hrow, ?_⟩
    rintro m hm request haccepts ⟨hsame, hsame'⟩
    obtain ⟨other, hother, rfl⟩ := h.held hm haccepts
    exact hfirst other (Dict.mem_values.mpr ⟨_, hother⟩) (hsame.trans hinstrument) (hsame'.trans hminute)
  forward := by
    intro m hm instrument minute old new hold hnew
    obtain ⟨hmem, hinstrument, hminute, -⟩ := newest_some (Archived.published_some hold)
    obtain ⟨identity, hrow⟩ := Dict.mem_values.mp hmem
    obtain ⟨row, hrow', hrequest, -⟩ := h.later m hm identity old hrow
    have hfirst := (newest_some (Archived.published_some hnew)).2.2.2 row (Dict.mem_values.mpr ⟨identity, hrow'⟩)
    rw [hrequest] at hfirst
    exact hfirst hinstrument hminute
  readable := by
    intro hhonest instrument minute
    unfold published
    split
    · exact ⟨none, rfl⟩
    · rename_i row hnewest
      have hmem := (newest_some (Option.filter_eq_some_iff.mp hnewest).1).1
      obtain ⟨identity, hrow⟩ := Dict.mem_values.mp hmem
      obtain ⟨hkey, hidentity⟩ := h.sound.keyed identity row hrow
      have hproof : row.proof.all (·.storageVersion = host.storageVersion row.request) = true := by
        refine Option.all_eq_true _ _ |>.mpr fun proof hsome => decide_eq_true ?_
        exact Archived.proven hhonest identity row proof hrow hsome
      exact ⟨some row, map_eq_ok.mpr ⟨row, check_bind.mpr ⟨require_eq_ok.mpr (h.sound.attempts identity row hrow),
        check_bind.mpr ⟨require_eq_ok.mpr (hkey.trans hidentity.symm), check_bind.mpr ⟨require_eq_ok.mpr (h.sound.proof identity row hrow),
          check_bind.mpr ⟨require_eq_ok.mpr hproof, rfl⟩⟩⟩⟩, rfl⟩⟩
  resubmitted := by
    intro m hm request haccepts active activeAfter now
    obtain ⟨row, hrow, hrequest⟩ := h.held hm haccepts
    obtain ⟨-, -, hsize⟩ := h.checked hm haccepts
    have hfits : require (host.encodedBytes request ≤ MAX_ARCHIVE_REQUEST_BYTES) "ARCHIVE_REQUEST_TOO_LARGE" = .ok () := require_eq_ok.mpr hsize
    refine ⟨?_, fun request' hidentity hne => ?_⟩
    · refine check_bind.mpr ⟨hfits, ?_⟩
      rw [hrow]
      exact check_bind.mpr ⟨require_eq_ok.mpr hrequest, rfl⟩
    · cases hsubmit : s.submit host request' active activeAfter now with
      | error message => exact ⟨message, rfl⟩
      | ok result =>
        obtain ⟨-, hid, ⟨-, row', hrow', hrequest'⟩ | ⟨hnew, -⟩⟩ := submit_ok hsubmit
        · rw [hid, hidentity] at hrow'
          obtain rfl := Option.some.inj (hrow.symm.trans hrow')
          exact absurd (hrequest'.symm.trans hrequest) hne
        · rw [hid, hidentity] at hnew
          cases hrow.symm.trans hnew
  attempts := by
    intro identity
    obtain ⟨hcounted, hnone⟩ := h.counted identity
    cases hrow : s.revisions.get? identity with
    | none => simp [hnone hrow]
    | some row =>
      obtain ⟨hwrites, hreads⟩ := hcounted row hrow
      rw [hwrites, hreads]
      exact h.sound.attempts identity row hrow
  lost := by
    intro first second claim claim' hsub hclaim hclaim' hid guard phase reason proof now
    have hpair := List.Pairwise.sublist hsub h.claimed_again
    simp only [List.pairwise_cons, List.mem_singleton, forall_eq] at hpair
    have hless := hpair.1 claim claim' hclaim hclaim' hid
    obtain ⟨row, hrow, -, hwrites, hreads⟩ := h.claimed (hsub.subset (by simp)) hclaim'
    rw [hid] at hrow
    obtain ⟨message, hlost⟩ := Archived.finish_lost hrow (by omega) guard phase reason proof now
    exact ⟨⟨message, hlost⟩, by rw [ArchiveTables.call, hlost]⟩

def plainArchiveHost : ArchiveHost where
  identity := fun slot => slot.instrument ++ toString slot.minute ++ slot.streamId ++ toString slot.sequence
  storageVersion := fun request => toString request.bar.close
  encodedBytes := fun _ => 512
  storedBytes := fun _ => 512

theorem firstGeneration_pos : (0 : Int) < 1 := by decide

theorem firstSequence_pos : (0 : Int) < 10 := by decide

def firstRevision : ArchiveRevision where
  instrument := "600000.SH"
  minute := 60000000
  generation := 1
  continuityGeneration := 1
  streamId := "stream"
  sequence := 10
  sealed := true
  generation_pos := firstGeneration_pos
  continuity_pos := firstGeneration_pos
  sequence_pos := firstSequence_pos
  bar := ⟨10, 10, 10, 10, 10, 100, 1000, 0, 0, 0⟩

def archiveCalls : List ArchiveCall :=
  [.registerScope ⟨1, "600000.SH", 0⟩ false none true true 0, .submit firstRevision true true 70000000, .claim true 70000000, .claim true 100000000]

theorem archive_forward_minute : ArchiveForward plainArchiveHost (play (ArchiveTables.call plainArchiveHost) {} archiveCalls).1
    (play (ArchiveTables.call plainArchiveHost) {} archiveCalls).2 := by
  refine archive_forward (Run.of_play ?_ archiveCalls)
  rfl

end QuantX
