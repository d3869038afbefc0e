import QuantX.Lib.Rank
import QuantX.Lib.Require

/-! # The archive of realtime minutes

Engines submit revisions of a minute; workers claim them, write them, read them back and finish the claim. Tables are
dictionaries by their primary keys, a call is one transaction, and one that raises leaves them as they were. Columns
that repeat the request are left out. Times are in microseconds; digests and sizes come from the host. -/

namespace QuantX
open Lib

def MAX_ARCHIVE_REQUEST_BYTES : Nat := 4096
def MAX_ARCHIVE_PENDING : Nat := 20000
def MAX_ARCHIVE_SCOPES_PER_GENERATION : Nat := 10000

structure ArchiveBar where
  «open» : Rat
  (high low close preClose volume amount settelementPrice : Rat)
  (openInterest suspendFlag : Int)
  deriving DecidableEq, Repr

structure ArchiveSlot where
  instrument : String
  (minute generation continuityGeneration : Int)
  streamId : String
  sequence : Int
  sealed : Bool
  generation_pos : 0 < generation
  continuity_pos : 0 < continuityGeneration
  sequence_pos : 0 < sequence

theorem ArchiveSlot.eq_iff (slot other : ArchiveSlot) :
    (slot.instrument = other.instrument ∧ slot.minute = other.minute ∧ slot.generation = other.generation ∧
      slot.continuityGeneration = other.continuityGeneration ∧ slot.streamId = other.streamId ∧ slot.sequence = other.sequence ∧
      slot.sealed = other.sealed) ↔ slot = other := by
  cases slot
  cases other
  simp

instance : DecidableEq ArchiveSlot := fun slot other => decidable_of_iff _ (slot.eq_iff other)

structure ArchiveRevision extends ArchiveSlot where
  bar : ArchiveBar
  deriving DecidableEq

structure ArchiveRecoveryScope where
  generation : Int
  instrument : String
  startMinute : Int
  deriving DecidableEq, Repr

structure ArchiveProof where
  storageVersion : String
  fieldsVerified : Nat
  contentSha256 : String
  deriving DecidableEq, Repr

inductive ArchivePhase where
  | write
  | readback
  | verified
  | blocked
  deriving DecidableEq, Repr

structure ArchiveHost where
  identity : ArchiveSlot → String
  storageVersion : ArchiveRevision → String
  /-- The bytes of `model_dump_json`. -/
  encodedBytes : ArchiveRevision → Nat
  /-- The bytes of the text of the stored document. -/
  storedBytes : ArchiveRevision → Nat

namespace ArchiveRevision

def epoch (request : ArchiveRevision) : Int ×ₗ Int := toLex (request.generation, request.continuityGeneration)

/-- `(generation, continuity_generation, sequence, sealed)`. -/
def rank (request : ArchiveRevision) : (Int ×ₗ Int) ×ₗ (Int ×ₗ Bool) :=
  toLex (request.epoch, toLex (request.sequence, request.sealed))

end ArchiveRevision

structure ArchiveScopeRow where
  startMinute : Int
  endedAt : Option Int

/-- A row of `realtime_archive_revision`. -/
structure ArchiveRow where
  requestId : String
  request : ArchiveRevision
  phase : ArchivePhase := .write
  writeAttempts : Nat := 0
  readAttempts : Nat := 0
  reason : Option String := none
  proof : Option ArchiveProof := none
  (nextRetryAt createdAt : Int)
  deriving DecidableEq

namespace ArchiveRow

def inMinute (row : ArchiveRow) (instrument : String) (minute : Int) : Bool :=
  row.request.instrument = instrument ∧ row.request.minute = minute

/-- `phase IN ('WRITE','READBACK')`. -/
def pending (row : ArchiveRow) : Bool := row.phase = .write ∨ row.phase = .readback

def attempts (row : ArchiveRow) : Nat := if row.phase = .write then row.writeAttempts else row.readAttempts

def attempt (row : ArchiveRow) : ArchiveRow :=
  if row.phase = .write then { row with writeAttempts := row.writeAttempts + 1 } else { row with readAttempts := row.readAttempts + 1 }

/-- `ArchiveStatus.model_validate`. -/
def validate (row : ArchiveRow) (host : ArchiveHost) : Except String ArchiveRow := do
  require (row.writeAttempts ≤ 4 ∧ row.readAttempts ≤ 4) "archive status attempts"
  require (row.requestId = host.identity row.request.toArchiveSlot) "archive status identity mismatch"
  require (row.phase = .verified ↔ row.proof ≠ none) "archive status proof mismatch"
  require (row.proof.all (·.storageVersion = host.storageVersion row.request)) "archive proof storage identity mismatch"
  return row

end ArchiveRow

structure ArchiveTables where
  scopes : Dict (Int × String) ArchiveScopeRow := .empty
  streams : Dict (Int × Int) String := .empty
  revisions : Dict String ArchiveRow := .empty

namespace ArchiveTables
variable (s : ArchiveTables) (host : ArchiveHost)

local instance (priority := high) archivePreorder : Preorder Int := intPreorder

def newest (instrument : String) (minute : Int) : Option ArchiveRow :=
  (s.revisions.values.filter (·.inMinute instrument minute)).argmax fun row => row.request.rank

def newestStream (generation : Int) : Option ((Int × Int) × String) :=
  (s.streams.entries.filter fun stream => stream.1.1 = generation).argmax fun stream => stream.1.2

/-- `register_scope`. Whether the generation is active is asked before, and where nothing is recovered after; a recovery
    reads when it was registered, in microseconds. -/
def registerScope (scope : ArchiveRecoveryScope) (recover : Bool) (registeredAt : Option Int) (active activeAfter : Bool) (now : Int) :
    Except String ArchiveTables := do
  match s.scopes.get? (scope.generation, scope.instrument) with
  | some existing =>
    require (existing.startMinute = scope.startMinute) "ARCHIVE_SCOPE_CONFLICT"
    return s
  | none =>
    require (recover = true → registeredAt.any fun registered => registered - registered % 60000000 ≤ scope.startMinute)
      "ARCHIVE_RECOVERY_ORIGIN_INVALID"
    require (recover = true → active = false) "ARCHIVE_RECOVERY_SOURCE_ACTIVE"
    require (recover = true → scope.startMinute ≤ now) "ARCHIVE_RECOVERY_ORIGIN_INVALID"
    require (recover = false → active = true) "ARCHIVE_GENERATION_INACTIVE"
    require ((s.scopes.keys.filter fun key => key.1 = scope.generation).length < MAX_ARCHIVE_SCOPES_PER_GENERATION) "ARCHIVE_SCOPE_CAPACITY"
    require (recover = false → activeAfter = true) "ENGINE_ARCHIVE_GENERATION_INACTIVE"
    return { s with
      scopes := s.scopes.set (scope.generation, scope.instrument) ⟨scope.startMinute, if recover then some now else none⟩ }

def checkScope (request : ArchiveRevision) : Except String Unit :=
  match s.scopes.get? (request.generation, request.instrument) with
  | none => .error "ARCHIVE_RECOVERY_SCOPE_MISSING"
  | some scope => do
    require (scope.startMinute ≤ request.minute) "ARCHIVE_RECOVERY_SCOPE_MISSING"
    require (scope.endedAt = none) "ARCHIVE_RECOVERY_SCOPE_CLOSED"

def checkStream (request : ArchiveRevision) : Except String Unit :=
  match s.newestStream request.generation with
  | none => .ok ()
  | some stream => require (¬ (request.continuityGeneration < stream.1.2 ∨
      stream.1.2 = request.continuityGeneration ∧ stream.2 ≠ request.streamId)) "ARCHIVE_STREAM_CONFLICT"

def checkRevision (request : ArchiveRevision) : Except String Unit :=
  match s.newest request.instrument request.minute with
  | none => .ok ()
  | some previous => do
    require (¬ request.rank ≤ previous.request.rank) "ARCHIVE_REVISION_STALE"
    require (¬ (previous.request.sealed = true ∧ (request.sealed = false ∨ previous.request.epoch = request.epoch))) "ARCHIVE_MINUTE_SEALED"

def insertRevision (request : ArchiveRevision) (now : Int) : ArchiveTables :=
  let identity := host.identity request.toArchiveSlot
  { s with
    streams := s.streams.setdefault (request.generation, request.continuityGeneration) request.streamId
    revisions := s.revisions.set identity { requestId := identity, request, nextRetryAt := now, createdAt := now } }

/-- What `submit` does with a revision that is not there yet. -/
def accept (request : ArchiveRevision) (active activeAfter : Bool) (now : Int) : Except String ArchiveTables := do
  s.checkScope request
  require (active = true) "ARCHIVE_GENERATION_INACTIVE"
  s.checkStream request
  s.checkRevision request
  require ((s.revisions.values.filter ArchiveRow.pending).length < MAX_ARCHIVE_PENDING) "ARCHIVE_PENDING_CAPACITY"
  require (host.storedBytes request ≤ 4096) "IntegrityError"
  require (activeAfter = true) "ENGINE_ARCHIVE_GENERATION_INACTIVE"
  return s.insertRevision host request now

/-- `submit`, which returns the revision's identity. -/
def submit (request : ArchiveRevision) (active activeAfter : Bool) (now : Int) : Except String (ArchiveTables × String) := do
  require (host.encodedBytes request ≤ MAX_ARCHIVE_REQUEST_BYTES) "ARCHIVE_REQUEST_TOO_LARGE"
  match s.revisions.get? (host.identity request.toArchiveSlot) with
  | some row =>
    require (row.request = request) "ARCHIVE_CONTENT_CONFLICT"
    return (s, host.identity request.toArchiveSlot)
  | none => return (← s.accept host request active activeAfter now, host.identity request.toArchiveSlot)

def due (now : Int) : Option ArchiveRow :=
  (s.revisions.values.filter fun row => row.pending ∧ row.nextRetryAt ≤ now).argmin fun row =>
    toLex (row.nextRetryAt, toLex (row.createdAt, row.requestId))

/-- `claim`. The row that it returns has its attempt counted. -/
def claim (guard : Bool) (now : Int) : Except String (ArchiveTables × Option ArchiveRow) := do
  require (guard = true) "market-data ingestion lease was lost"
  match s.due now with
  | none => return (s, none)
  | some row =>
    if 4 ≤ row.attempts then
      return ({ s with revisions := s.revisions.set row.requestId { row with
        phase := .blocked, reason := some "ARCHIVE_ATTEMPTS_EXHAUSTED" } }, none)
    return ({ s with revisions := s.revisions.set row.requestId { row.attempt with nextRetryAt := now + 30000000 } }, some row.attempt)

def exhausts (claim : ArchiveRow) (phase : ArchivePhase) : Bool := phase = claim.phase ∧ 4 ≤ claim.attempts

def restDelay (claim : ArchiveRow) (phase : ArchivePhase) : Except String Int :=
  if phase = claim.phase then
    match [5, 30, 120, 240][claim.attempts - 1]? with
    | some delay => .ok delay
    | none => .error "IndexError"
  else .ok 0

def claimRow (claim : ArchiveRow) : Option ArchiveRow :=
  (s.revisions.get? claim.requestId).filter fun row =>
    row.phase = claim.phase ∧ row.writeAttempts = claim.writeAttempts ∧ row.readAttempts = claim.readAttempts

def finish (guard : Bool) (claim : ArchiveRow) (phase : ArchivePhase) (reason : Option String) (proof : Option ArchiveProof) (now : Int) :
    Except String ArchiveTables := do
  require (guard = true) "market-data ingestion lease was lost"
  let settled := if exhausts claim phase then ArchivePhase.blocked else phase
  let delay ← restDelay claim settled
  match s.claimRow claim with
  | none => .error "ARCHIVE_CLAIM_LOST"
  | some row =>
    require (settled = .verified ↔ proof ≠ none) "IntegrityError"
    return { s with
      revisions := s.revisions.set row.requestId { row with
        phase := settled, reason := if exhausts claim phase then some "ARCHIVE_ATTEMPTS_EXHAUSTED" else reason
        proof, nextRetryAt := now + delay * 1000000 } }

def published (instrument : String) (minute : Int) : Except String (Option ArchiveRow) :=
  match (s.newest instrument minute).filter fun row => row.phase = .verified with
  | none => .ok none
  | some row => (row.validate host).map some

end ArchiveTables

inductive ArchiveCall where
  | registerScope (scope : ArchiveRecoveryScope) (recover : Bool) (registeredAt : Option Int) (active activeAfter : Bool) (now : Int)
  | submit (request : ArchiveRevision) (active activeAfter : Bool) (now : Int)
  | claim (guard : Bool) (now : Int)
  | finish (guard : Bool) (claim : ArchiveRow) (phase : ArchivePhase) (reason : Option String) (proof : Option ArchiveProof) (now : Int)

def ArchiveTables.call (host : ArchiveHost) (s : ArchiveTables) : ArchiveCall → ArchiveTables
  | .registerScope scope recover registeredAt active activeAfter now =>
    match s.registerScope scope recover registeredAt active activeAfter now with
    | .ok next => next
    | .error _ => s
  | .submit request active activeAfter now =>
    match s.submit host request active activeAfter now with
    | .ok result => result.1
    | .error _ => s
  | .claim guard now =>
    match s.claim guard now with
    | .ok result => result.1
    | .error _ => s
  | .finish guard claim phase reason proof now =>
    match s.finish guard claim phase reason proof now with
    | .ok next => next
    | .error _ => s

end QuantX
