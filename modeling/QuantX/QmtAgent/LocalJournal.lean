import QuantX.Lib.UniqueKey
import QuantX.Lib.PyVal
import QuantX.Text

/-! # The journal of commands and reports

Two tables, dictionaries in the order of insertion, and what the journal keeps of them in memory. An operation is one
transaction. Times are in seconds, as the tables write them. -/

namespace QuantX
open Lib

abbrev JsonObject := List (String × PyVal)

inductive CommandStatus where
  | processing
  | completed
  deriving DecidableEq, Repr

/-- A row of `commands`, by its message. -/
structure CommandRow (Sha : Type) where
  payloadHash : Sha
  status : CommandStatus := .processing
  resultJson : Option JsonObject := none
  (commandKind clientOrderId : Option String)
  brokerOrderId : Option String := none
  targetBrokerOrderId : Option String
  createdAt : Int
  completedAt : Option Int := none

/-- A row of `reports`, by its message. -/
structure ReportRow where
  envelopeJson : String
  acked : Bool := false
  reportType : Option String
  isCompleteSnapshot : Bool
  sequenceId : Nat
  createdAt : Int
  deriving DecidableEq

/-- What the journal takes from its host: the digest of a payload, the texts of values, the reader of JSON, and the
    orders of rows without ORDER BY and of the elements of a set. -/
structure JournalHost (Sha : Type) where
  payloadHash : JsonObject → Sha
  str : PyVal → String
  loads : String → Option PyVal
  scan : List (CommandRow Sha) → List (CommandRow Sha)
  scan_perm : ∀ rows, (scan rows).Perm rows
  iterate : List String → List String
  iterate_perm : ∀ texts, (iterate texts).Perm texts

structure LocalJournal (Sha : Type) where
  commands : Dict String (CommandRow Sha) := .empty
  reports : Dict String ReportRow := .empty
  reportCount : Nat := 0
  pendingReportCount : Nat := 0
  commandCount : Nat := 0
  processingCommandCount : Nat := 0
  nextReportSequence : Nat := 1
  brokerToClient : Dict String String := .empty
  clientOrderIds : List String := []
  remarkPrefixToClient : Dict String (Option String) := .empty

inductive BeginOutcome where
  | new
  | mismatch
  | duplicate (result : JsonObject)
  | indeterminate

structure JournalStats where
  (reports pendingReports commands processingCommands : Nat)
  deriving DecidableEq, Repr

/-- `client_order_id[:20]`. -/
def remarkPrefix (clientOrderId : String) : String := String.ofList (clientOrderId.toList.take 20)

namespace LocalJournal
variable {Sha : Type} [DecidableEq Sha] (host : JournalHost Sha) (journal : LocalJournal Sha)

def publishClientOrderId (clientOrderId : String) : LocalJournal Sha :=
  if clientOrderId ∈ journal.clientOrderIds then journal
  else { journal with
    clientOrderIds := clientOrderId :: journal.clientOrderIds
    remarkPrefixToClient := note remarkPrefix journal.remarkPrefixToClient clientOrderId }

def publishBrokerOrderId (brokerOrderId clientOrderId : String) : LocalJournal Sha :=
  { journal with brokerToClient := journal.brokerToClient.set brokerOrderId clientOrderId }

def clientOf (row : CommandRow Sha) : Option String := row.clientOrderId.filter (· ≠ "")

def brokerPair (row : CommandRow Sha) : Option (String × String) :=
  row.brokerOrderId.bind fun brokerOrderId => (clientOf row).map fun clientOrderId => (brokerOrderId, clientOrderId)

def loadCorrelationCache : LocalJournal Sha :=
  let rows := host.scan (journal.commands.values.filter (·.clientOrderId.isSome))
  let clientOrderIds := (rows.filterMap clientOf).dedup
  { journal with
    clientOrderIds, brokerToClient := .ofList (rows.filterMap brokerPair)
    remarkPrefixToClient := (host.iterate clientOrderIds).foldl (note remarkPrefix) .empty }

def loadCountCache : LocalJournal Sha := { journal with
  reportCount := journal.reports.values.length
  pendingReportCount := (journal.reports.values.filter fun row => !row.acked).length
  commandCount := journal.commands.values.length
  processingCommandCount := (journal.commands.values.filter fun row => row.status = .processing).length
  nextReportSequence := (journal.reports.values.map (·.sequenceId)).foldl max 0 + 1 }

def reopen : LocalJournal Sha := (journal.loadCorrelationCache host).loadCountCache

/-- `str(value) if value is not None else None`. -/
def givenText : PyVal → Option String
  | .none => none
  | value => some (host.str value)

def beginCommand (messageId : String) (payload : JsonObject) (now : Int) : LocalJournal Sha × BeginOutcome :=
  let digest := host.payloadHash payload
  let rawClientOrderId := PyVal.get payload "client_order_id"
  let clientOrderId := if rawClientOrderId.truthy then some (host.str rawClientOrderId) else none
  let kind := upperText (host.str ((PyVal.get payload "command_kind").or (.str "")))
  match journal.commands.get? messageId with
  | some row =>
    if row.payloadHash ≠ digest then (journal, .mismatch)
    else if row.status = .completed then (journal, .duplicate (row.resultJson.getD []))
    else (journal, .indeterminate)
  | none =>
    let inserted := { journal with
      commands := journal.commands.set messageId {
        payloadHash := digest, commandKind := if kind = "" then none else some kind, clientOrderId
        targetBrokerOrderId := givenText host (PyVal.get payload "broker_order_id"), createdAt := now }
      commandCount := journal.commandCount + 1, processingCommandCount := journal.processingCommandCount + 1 }
    ((clientOrderId.filter (· ≠ "")).elim inserted inserted.publishClientOrderId, .new)

/-- The update of `complete_command`. -/
def completeRow (result : JsonObject) (brokerOrderId : Option String) (now : Int) (row : CommandRow Sha) : CommandRow Sha :=
  if row.status = .processing then
    { row with status := .completed, resultJson := some result, brokerOrderId, completedAt := some now }
  else row

def completeCommand (messageId : String) (result : JsonObject) (now : Int) : LocalJournal Sha :=
  let brokerOrderId := givenText host (PyVal.get result "broker_order_id")
  let updated := (journal.commands.get? messageId).any (·.status = .processing)
  let written := { journal with
    commands := journal.commands.modify messageId (completeRow result brokerOrderId now)
    processingCommandCount := if updated then journal.processingCommandCount - 1 else journal.processingCommandCount }
  -- The correlation is published whether or not the row has been updated.
  match brokerOrderId, (journal.commands.get? messageId).bind clientOf with
  | some brokerOrderId, some clientOrderId => (written.publishClientOrderId clientOrderId).publishBrokerOrderId brokerOrderId clientOrderId
  | _, _ => written

def oldestPlacement (clientOrderId : String) : Option (String × CommandRow Sha) :=
  ((journal.commands.entries.filter fun entry =>
    entry.2.status = .processing && entry.2.commandKind = some "PLACE_ORDER" && entry.2.clientOrderId = some clientOrderId).mergeSort
      fun a b => a.2.createdAt < b.2.createdAt || a.2.createdAt = b.2.createdAt && a.1 ≤ b.1).head?

def reconcileProcessingOrder (clientOrderId : String) (brokerOrderId : PyVal) (now : Int) : LocalJournal Sha × Bool :=
  match givenText host brokerOrderId with
  | none => (journal, false)
  | some normalized =>
    if clientOrderId = "" then (journal, false)
    else
      match journal.oldestPlacement clientOrderId with
      | none => (journal, false)
      | some entry =>
        let result := [("accepted", .bool true), ("reason", .str "reconciled_from_broker_snapshot"), ("broker_order_id", brokerOrderId),
          ("reports", .list [])]
        let written := { journal with
          commands := journal.commands.modify entry.1 (completeRow result (some normalized) now)
          processingCommandCount := journal.processingCommandCount - 1 }
        ((written.publishClientOrderId clientOrderId).publishBrokerOrderId normalized clientOrderId, true)

/-- The commands that `reconcile_processing_cancel` resolves. -/
def cancels (target : String) (row : CommandRow Sha) : Bool :=
  row.status = .processing && row.commandKind = some "CANCEL_ORDER" && row.targetBrokerOrderId = some target

def reconcileProcessingCancel (brokerOrderId : PyVal) (orderStatus : String) (now : Int) : LocalJournal Sha × Bool :=
  let target := stripText (host.str (brokerOrderId.or (.str "")))
  let status := upperText (stripText orderStatus)
  if target = "" ∨ status ∉ ["CANCELLED", "FILLED", "REJECTED", "EXPIRED"] then (journal, false)
  else
    let accepted := decide (status = "CANCELLED")
    let reason := if accepted then "reconciled_terminal_cancelled" else "reconciled_terminal_order_" ++ status.toLower
    let result := [("accepted", .bool accepted), ("reason", .str reason), ("reports", .list [])]
    let updated := (journal.commands.values.filter (cancels target)).length
    ({ journal with
      commands := journal.commands.map fun row =>
        if cancels target row then { row with status := .completed, resultJson := some result, completedAt := some now } else row
      processingCommandCount := journal.processingCommandCount - updated }, updated ≠ 0)

def classify (envelopeJson : String) : Except String (Option String × Bool) :=
  match host.loads envelopeJson with
  | none => .ok (none, false)
  | some (.dict envelope) =>
    let type := host.str ((PyVal.get envelope "message_type").or (.str ""))
    let complete := match PyVal.get envelope "payload" with
      | .dict payload => (match PyVal.get payload "is_complete" with | .bool b => b | _ => false)
      | _ => false
    .ok (if type = "" then none else some type, type = "delta_report" && complete)
  | some _ => .error "AttributeError"

def addReport (messageId envelopeJson : String) (now : Int) : Except String (LocalJournal Sha) := do
  let kind ← classify host envelopeJson
  if journal.reports.contains messageId then return journal
  return { journal with
    reports := journal.reports.set messageId {
      envelopeJson, reportType := kind.1, isCompleteSnapshot := kind.2
      sequenceId := journal.nextReportSequence, createdAt := now }
    reportCount := journal.reportCount + 1, pendingReportCount := journal.pendingReportCount + 1
    nextReportSequence := journal.nextReportSequence + 1 }

def markAcked (p : String × ReportRow → Bool) : LocalJournal Sha × Nat :=
  let updated := (journal.reports.entries.filter fun entry => !entry.2.acked && p entry).length
  ({ journal with
    reports := journal.reports.mapEntries fun entry => if !entry.2.acked && p entry then { entry.2 with acked := true } else entry.2
    pendingReportCount := journal.pendingReportCount - updated }, updated)

def retirePendingFullSnapshots : LocalJournal Sha × Nat := journal.markAcked (·.2.isCompleteSnapshot)

def acknowledgeReports (messageIds : List String) : LocalJournal Sha × Nat :=
  let normalized := (messageIds.filter (· ≠ "")).dedup
  if normalized = [] then (journal, 0) else journal.markAcked fun entry => normalized.contains entry.1

def pendingReports (limit : Option Int) : List String :=
  let pending := ((journal.reports.values.filter fun row => !row.acked).mergeSort fun a b => a.sequenceId ≤ b.sequenceId).map (·.envelopeJson)
  match limit with
  | none => pending
  | some n => if n ≤ 0 then [] else pending.take n.toNat

/-- `prune`, with the numbers of the reports and commands that it deletes. -/
def prune (retentionDays now : Int) : Except String (LocalJournal Sha × Nat × Nat) :=
  if retentionDays < 7 then .error "journal retention must be at least 7 days"
  else
    let cutoff := now - retentionDays * 86400
    let stale := fun entry : String × ReportRow => entry.2.acked && decide (entry.2.createdAt < cutoff)
    let done := fun entry : String × CommandRow Sha => entry.2.status = .completed && entry.2.completedAt.any (· < cutoff)
    let reports := (journal.reports.entries.filter stale).length
    let commands := (journal.commands.entries.filter done).length
    let pruned := { journal with
      reports := journal.reports.filter fun entry => !stale entry
      commands := journal.commands.filter fun entry => !done entry, reportCount := journal.reportCount - reports
      commandCount := journal.commandCount - commands }
    .ok (pruned.loadCorrelationCache host, reports, commands)

def stats : JournalStats := ⟨journal.reportCount, journal.pendingReportCount, journal.commandCount, journal.processingCommandCount⟩

def brokerOrderClientIds : Dict String String := journal.brokerToClient

def clientOrderIdForReport (brokerOrderId : PyVal) (orderRemark : String) : Option String :=
  let mapped := ((givenText host brokerOrderId).bind journal.brokerToClient.get?).filter (· ≠ "")
  mapped.or <|
    if "qx:".toList.isPrefixOf orderRemark.toList && orderRemark.toList.length - 3 = 20 then
      (journal.remarkPrefixToClient.get? (String.ofList (orderRemark.toList.drop 3))).join
    else none

end LocalJournal

inductive JournalCall where
  | beginCommand (messageId : String) (payload : JsonObject) (now : Int)
  | completeCommand (messageId : String) (result : JsonObject) (now : Int)
  | reconcileProcessingOrder (clientOrderId : String) (brokerOrderId : PyVal) (now : Int)
  | reconcileProcessingCancel (brokerOrderId : PyVal) (orderStatus : String) (now : Int)
  | addReport (messageId envelopeJson : String) (now : Int)
  | acknowledgeReports (messageIds : List String)
  | retirePendingFullSnapshots
  | prune (retentionDays now : Int)

inductive JournalAnswer where
  | begun (outcome : BeginOutcome)
  | done
  | resolved (found : Bool)
  | marked (rows : Nat)
  | pruned (reports commands : Nat)
  | raised (message : String)

variable {Sha : Type} [DecidableEq Sha]

def LocalJournal.call (host : JournalHost Sha) (journal : LocalJournal Sha) : JournalCall → LocalJournal Sha × JournalAnswer
  | .beginCommand messageId payload now => (journal.beginCommand host messageId payload now).map id .begun
  | .completeCommand messageId result now => (journal.completeCommand host messageId result now, .done)
  | .reconcileProcessingOrder clientOrderId brokerOrderId now =>
    (journal.reconcileProcessingOrder host clientOrderId brokerOrderId now).map id .resolved
  | .reconcileProcessingCancel brokerOrderId orderStatus now =>
    (journal.reconcileProcessingCancel host brokerOrderId orderStatus now).map id .resolved
  | .addReport messageId envelopeJson now => match journal.addReport host messageId envelopeJson now with
    | .ok next => (next, .done)
    | .error message => (journal, .raised message)
  | .acknowledgeReports messageIds => (journal.acknowledgeReports messageIds).map id .marked
  | .retirePendingFullSnapshots => journal.retirePendingFullSnapshots.map id .marked
  | .prune retentionDays now => match journal.prune host retentionDays now with
    | .ok (next, reports, commands) => (next, .pruned reports commands)
    | .error message => (journal, .raised message)

end QuantX
