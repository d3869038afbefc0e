import QuantX.QmtAgent.CollectionJournal
import QuantX.Lib.JsonLines

/-! # Results of native units

The records of a unit are written once, to a temporary file that is then linked under the unit's name. A call is given
the records and what its environment does: opening the file, a reservation, a write, the sync, the link, its
confirmation and the removal of the temporary file may fail. Files are ordinary files of one directory. -/

namespace QuantX
open Lib

/-- `unit.model_dump(mode="json")`. -/
def CollectionUnit.dump (unit : CollectionUnit) : PyVal :=
  .dict [("plan_version", .str unit.planVersion), ("request_id", .str unit.requestId), ("unit_index", .int unit.unitIndex),
    ("payload_sha256", .str unit.payloadSha256)]

structure ArtifactHost extends JsonText where
  sha256 : Bytes → String
  unitId : CollectionUnit → String

structure ArtifactLimits where
  (maxBytes maxRecordBytes maxRecords : Nat)
  bytes_pos : 0 < maxBytes
  recordBytes_pos : 0 < maxRecordBytes
  records_pos : 0 < maxRecords

namespace NativeUnitArtifacts

def header (unit : CollectionUnit) : PyVal := .dict [("format", .str "native-unit-v1"), ("unit", unit.dump)]

def recordDocument (record : PyVal) : PyVal := .dict [("record", record)]

def completion (recordCount : Nat) (recordsSha256 : String) : PyVal :=
  .dict [("complete", .dict [("record_count", .int recordCount), ("records_sha256", .str recordsSha256)])]

def recordOf? : PyVal → Option PyVal
  | .dict [(key, record)] => if key = "record" then some record else none
  | _ => none

variable (host : ArtifactHost) (limits : ArtifactLimits)

def path (unit : CollectionUnit) : String := host.unitId unit ++ ".jsonl"

def lineLimit : Nat := max 4096 (limits.maxRecordBytes + 1)

structure Reading where
  total : Nat := 0
  count : Nat := 0
  read : Bytes := []
  records : Bytes := []

def nextLine (reading : Reading) (source : Bytes) : Except String (Bytes × PyVal) := do
  let raw := (readLine (lineLimit limits) source).1
  require (raw.getLast? = some newline) "native unit artifact is incomplete"
  require (reading.total + raw.length ≤ limits.maxBytes) "native unit artifact exceeds byte limit"
  match host.loads raw with
  | some value => return (raw, value)
  | none => throw "native unit artifact contains invalid JSON"

def Reading.take (reading : Reading) (raw : Bytes) : Reading :=
  { reading with
    total := reading.total + raw.length, read := reading.read ++ raw }

def Reading.takeRecord (reading : Reading) (raw : Bytes) : Reading :=
  { reading.take raw with
    count := reading.count + 1, records := reading.records ++ raw }

def checkRecord (reading : Reading) (raw : Bytes) (value record : PyVal) : Except String Unit := do
  require (record.isDict = true ∧ raw.length ≤ limits.maxRecordBytes) "native unit artifact record is invalid or oversized"
  let canonical ← host.line value
  require (raw = canonical) "native unit artifact record is not canonical"
  require (reading.count + 1 ≤ limits.maxRecords) "native unit artifact exceeds record limit"

def checkCompletion (reading : Reading) (raw : Bytes) (value : PyVal) (rest : Bytes) : Except String Unit := do
  let proof := completion reading.count (host.sha256 reading.records)
  require (PyVal.same value proof = true) "native unit artifact completion proof mismatch"
  let canonical ← host.line proof
  require (raw = canonical) "native unit artifact completion is not canonical"
  require (rest = []) "native unit artifact has trailing data"

def inspectLines (unit : CollectionUnit) : Nat → Reading → Bytes → Except String NativeUnitArtifact
  | 0, _, _ => .error "native unit artifact lacks a completion proof"
  | rounds + 1, reading, source => do
    let (raw, value) ← nextLine host limits reading source
    let rest := (readLine (lineLimit limits) source).2
    match recordOf? value with
    | some record => do
      checkRecord host limits reading raw value record
      inspectLines unit rounds (reading.takeRecord raw) rest
    | none => do
      checkCompletion host reading raw value rest
      let reading := reading.take raw
      return ⟨unit, path host unit, host.sha256 reading.read, reading.total, reading.count⟩

def inspectSource (unit : CollectionUnit) (source : Bytes) : Except String NativeUnitArtifact := do
  let (raw, _) ← nextLine host limits {} source
  let canonical ← host.line (header unit)
  require (raw = canonical) "native unit artifact identity mismatch"
  inspectLines host limits unit (limits.maxRecords + 1) (Reading.take {} raw) (readLine (lineLimit limits) source).2

def openFile (files : Dict String Bytes) (unit : CollectionUnit) : Except String Bytes :=
  match files.get? (path host unit) with
  | some content => .ok content
  | none => .error "FileNotFoundError"

def inspect (files : Dict String Bytes) (unit : CollectionUnit) (expectedSha256 : Option String) : Except String NativeUnitArtifact := do
  let content ← openFile host files unit
  require (content.length ≤ limits.maxBytes) "native unit artifact exceeds byte limit"
  let artifact ← inspectSource host limits unit content
  require (∀ expected ∈ expectedSha256, artifact.sha256 = expected) "native unit artifact does not match journal digest"
  return artifact

/-- `value["record"]`. -/
def recordField (value : PyVal) : Except String PyVal :=
  match value with
  | .dict fields => (Dict.lookup "record" fields).elim (.error "KeyError") .ok
  | _ => .error "TypeError"

def replayLines : Nat → Bytes → Except String (List PyVal)
  | 0, _ => .ok []
  | count + 1, source => do
    let (raw, rest) := readLine (limits.maxRecordBytes + 1) source
    match host.loads raw with
    | none => throw "JSONDecodeError"
    | some value => do
      let record ← recordField value
      let records ← replayLines count rest
      return record :: records

/-- `replay`, run to its end. The first line is read without a limit. -/
def replay (files : Dict String Bytes) (artifact : NativeUnitArtifact) : Except String (List PyVal) := do
  require (path host artifact.unit = artifact.path) "native unit artifact path mismatch"
  let content ← openFile host files artifact.unit
  let verified ← inspectSource host limits artifact.unit content
  require (verified = artifact) "native unit artifact changed after completion"
  replayLines host limits artifact.recordCount.toNat (readLine content.length content).2

/-! ## Writing -/

/-- A call of `seal`: the records, and what the environment does. A reservation and a write are given by their number. -/
structure SealCall where
  records : List PyVal
  recordsFail : Bool := false
  opens : Bool := true
  reserves : Nat → Bool := fun _ => true
  writes : Nat → Bool := fun _ => true
  syncs : Bool := true
  links : Bool := true
  confirms : Bool := true
  unlinks : Bool := true

structure Writing where
  content : Bytes := []
  total : Nat := 0
  charged : Nat := 0
  number : Nat := 0
  count : Nat := 0
  records : Bytes := []

variable (call : SealCall)

/-- `write`: the bytes are reserved before they are written. -/
def Writing.write (writing : Writing) (raw : Bytes) : Writing × Except String Unit :=
  if writing.total + raw.length > limits.maxBytes then (writing, .error "native unit artifact exceeds byte limit")
  else if ¬call.reserves writing.number then (writing, .error "reserve")
  else
    let reserved := { writing with
      charged := writing.charged + raw.length, total := writing.total + raw.length, number := writing.number + 1 }
    if ¬call.writes writing.number then (reserved, .error "OSError")
    else ({ reserved with content := writing.content ++ raw }, .ok ())

/-- The line of a record, unless it breaks a limit. `count` records came before it. -/
def recordLine (count : Nat) (record : PyVal) : Except String Bytes := do
  require (record.isDict = true) "native unit record must be an object"
  let raw ← host.line (recordDocument record)
  require (raw.length ≤ limits.maxRecordBytes) "native unit artifact record is oversized"
  require (count + 1 ≤ limits.maxRecords) "native unit artifact exceeds record limit"
  return raw

def Writing.counted (writing : Writing) (raw : Bytes) : Writing :=
  { writing with
    count := writing.count + 1, records := writing.records ++ raw }

def Writing.step (writing : Writing) (raw : Except String Bytes) (next : Writing → Bytes → Writing × Except String Unit) :
    Writing × Except String Unit :=
  match raw with
  | .error e => (writing, .error e)
  | .ok raw => match writing.write limits call raw with
    | (writing, .error e) => (writing, .error e)
    | (writing, .ok ()) => next writing raw

def writeRecords : List PyVal → Writing → Writing × Except String Unit
  | [], writing => (writing, if call.recordsFail then .error "records" else .ok ())
  | record :: rest, writing =>
    writing.step limits call (recordLine host limits writing.count record) fun writing raw => writeRecords rest (writing.counted raw)

def writeBody (writing : Writing) : Writing × Except String Unit :=
  match writeRecords host limits call call.records writing with
  | (writing, .error e) => (writing, .error e)
  | (writing, .ok ()) =>
    writing.step limits call (host.line (completion writing.count (host.sha256 writing.records))) fun writing _ =>
      (writing, if call.syncs then .ok () else .error "OSError")

def writeAll (unit : CollectionUnit) : Writing × Except String Unit :=
  if ¬call.opens then ({}, .error "OSError")
  else Writing.step limits call {} (host.line (header unit)) fun writing _ => writeBody host limits call writing

structure SealResult where
  files : Dict String Bytes
  outcome : Except String NativeUnitArtifact
  published : Bool
  (charged released : Nat)

def publish (files : Dict String Bytes) (unit : CollectionUnit) (writing : Writing) :
    Dict String Bytes × Bool × Except String NativeUnitArtifact :=
  if files.contains (path host unit) then (files, false, inspect host limits files unit (some (host.sha256 writing.content)))
  else if ¬call.links then (files, false, .error "OSError")
  else (files.set (path host unit) writing.content, true,
    if call.confirms then .ok ⟨unit, path host unit, host.sha256 writing.content, writing.total, writing.count⟩ else .error "OSError")

/-- `seal`. A temporary file that cannot be removed keeps its charge. -/
def sealUnit (files : Dict String Bytes) (unit : CollectionUnit) : SealResult :=
  let (writing, written) := writeAll host limits call unit
  let (files, published, outcome) := match written with
    | .error e => (files, false, .error e)
    | .ok () => publish host limits call files unit writing
  { files, outcome := if call.unlinks then outcome else .error "OSError", published
    charged := writing.charged, released := if call.unlinks ∧ ¬published then writing.total else 0 }

end NativeUnitArtifacts
end QuantX
