import QuantX.Lib.Rank
import QuantX.Lib.Require
import QuantX.QmtAgent.LocalJournal

namespace QuantX
open Lib LocalJournal

variable {Sha : Type} {host : JournalHost Sha} {journal next : LocalJournal Sha} {commands : Dict String (CommandRow Sha)}
  {messageId clientOrderId brokerOrderId : String} {known : String → Prop} {now : Int} {result : JsonObject} {broker : Option String}
  {row : CommandRow Sha} {f : CommandRow Sha → CommandRow Sha} {κ α : Type} {entry : String × CommandRow Sha}

def Known (commands : Dict String (CommandRow Sha)) (clientOrderId : String) : Prop := ∃ row ∈ commands.values, clientOf row = some clientOrderId

def Bound (commands : Dict String (CommandRow Sha)) (brokerOrderId clientOrderId : String) : Prop :=
  ∃ row ∈ commands.values, brokerPair row = some (brokerOrderId, clientOrderId)

/-- The counts are those of the tables, and reports are numbered in their order. -/
structure Counts (journal : LocalJournal Sha) : Prop where
  reports : journal.reportCount = journal.reports.values.length
  pending : journal.pendingReportCount = (journal.reports.values.filter fun row => !row.acked).length
  commands : journal.commandCount = journal.commands.values.length
  processing : journal.processingCommandCount = (journal.commands.values.filter fun row => row.status = .processing).length
  numbered : (journal.reports.values.map (·.sequenceId)).Pairwise (· < ·)
  fresh : ∀ row ∈ journal.reports.values, row.sequenceId < journal.nextReportSequence

/-- The client orders in memory are those that are known, and their remarks resolve. -/
structure Names (journal : LocalJournal Sha) (known : String → Prop) : Prop where
  ids : ∀ clientOrderId, clientOrderId ∈ journal.clientOrderIds ↔ known clientOrderId
  remarks : Resolves remarkPrefix journal.remarkPrefixToClient known

def Correlated (journal : LocalJournal Sha) : Prop :=
  ∀ brokerOrderId clientOrderId, journal.brokerToClient.get? brokerOrderId = some clientOrderId ↔ Bound journal.commands brokerOrderId clientOrderId

structure Coherent (journal : LocalJournal Sha) : Prop where
  counts : Counts journal
  names : Names journal (Known journal.commands)
  unset : ∀ row ∈ journal.commands.values, row.status = .processing → row.brokerOrderId = none

structure SameTables (journal next : LocalJournal Sha) : Prop where
  commands : next.commands = journal.commands
  reports : next.reports = journal.reports
  reportCount : next.reportCount = journal.reportCount
  pendingReportCount : next.pendingReportCount = journal.pendingReportCount
  commandCount : next.commandCount = journal.commandCount
  processingCommandCount : next.processingCommandCount = journal.processingCommandCount
  nextReportSequence : next.nextReportSequence = journal.nextReportSequence

theorem Counts.congr (h : Counts journal) (hsame : SameTables journal next) : Counts next := by
  obtain ⟨hcommands, hreports, hreportCount, hpending, hcommandCount, hprocessing, hnext⟩ := hsame
  refine ⟨?_, ?_, ?_, ?_, ?_, ?_⟩
  · rw [hreportCount, hreports, h.reports]
  · rw [hpending, hreports, h.pending]
  · rw [hcommandCount, hcommands, h.commands]
  · rw [hprocessing, hcommands, h.processing]
  · rw [hreports]
    exact h.numbered
  · rw [hreports, hnext]
    exact h.fresh

theorem publishClientOrderId_same (journal : LocalJournal Sha) (clientOrderId : String) :
    SameTables journal (journal.publishClientOrderId clientOrderId) := by
  unfold LocalJournal.publishClientOrderId
  split
  · exact ⟨rfl, rfl, rfl, rfl, rfl, rfl, rfl⟩
  · exact ⟨rfl, rfl, rfl, rfl, rfl, rfl, rfl⟩

theorem publishClientOrderId_brokers (journal : LocalJournal Sha) (clientOrderId : String) :
    (journal.publishClientOrderId clientOrderId).brokerToClient = journal.brokerToClient := by
  unfold LocalJournal.publishClientOrderId
  split
  · rfl
  · rfl

theorem Names.publish (h : Names journal known) (clientOrderId : String) :
    Names (journal.publishClientOrderId clientOrderId) fun other => other = clientOrderId ∨ known other := by
  unfold LocalJournal.publishClientOrderId
  split
  · rename_i hmem
    have hknown := (h.ids clientOrderId).mp hmem
    have hsame : ∀ other, (other = clientOrderId ∨ known other) ↔ known other := fun other => or_iff_right_of_imp fun heq => heq ▸ hknown
    exact ⟨fun other => (h.ids other).trans (hsame other).symm, h.remarks.congr hsame⟩
  · rename_i hnew
    refine ⟨fun other => ?_, h.remarks.note (mt (h.ids clientOrderId).mpr hnew)⟩
    rw [List.mem_cons, h.ids]

theorem Names.published (h : Names journal known) (hknown : known clientOrderId) : journal.publishClientOrderId clientOrderId = journal := by
  unfold LocalJournal.publishClientOrderId
  rw [if_pos ((h.ids clientOrderId).mpr hknown)]

theorem Names.congr {known' : String → Prop} (h : Names journal known) (hids : next.clientOrderIds = journal.clientOrderIds)
    (hremarks : next.remarkPrefixToClient = journal.remarkPrefixToClient) (hknown : ∀ other, known' other ↔ known other) : Names next known' := by
  refine ⟨fun other => ?_, ?_⟩
  · rw [hids, h.ids, hknown]
  · rw [hremarks]
    exact h.remarks.congr hknown

theorem mem_scanned (host : JournalHost Sha) :
    row ∈ host.scan (commands.values.filter (·.clientOrderId.isSome)) ↔ row ∈ commands.values ∧ row.clientOrderId.isSome := by
  rw [(host.scan_perm _).mem_iff, List.mem_filter]

theorem clientOf_isSome (h : clientOf row = some clientOrderId) : row.clientOrderId.isSome := by
  obtain ⟨hclient, -⟩ := Option.filter_eq_some_iff.mp h
  rw [hclient]
  rfl

theorem brokerPair_eq_some : brokerPair row = some (brokerOrderId, clientOrderId) ↔
    row.brokerOrderId = some brokerOrderId ∧ clientOf row = some clientOrderId := by
  unfold LocalJournal.brokerPair
  cases row.brokerOrderId with
  | none => simp
  | some own =>
    cases clientOf row with
    | none => simp
    | some client => simp

theorem loadCorrelationCache_names (journal : LocalJournal Sha) : Names (journal.loadCorrelationCache host) (Known journal.commands) := by
  have hids : ∀ clientOrderId, clientOrderId ∈ (journal.loadCorrelationCache host).clientOrderIds ↔ Known journal.commands clientOrderId := by
    intro clientOrderId
    unfold LocalJournal.loadCorrelationCache
    rw [List.mem_dedup, List.mem_filterMap]
    constructor
    · rintro ⟨row, hrow, hclient⟩
      exact ⟨row, ((mem_scanned host).mp hrow).1, hclient⟩
    · rintro ⟨row, hrow, hclient⟩
      exact ⟨row, (mem_scanned host).mpr ⟨hrow, clientOf_isSome hclient⟩, hclient⟩
  refine ⟨hids, ?_⟩
  have hperm := host.iterate_perm (journal.loadCorrelationCache host).clientOrderIds
  have hnodup : (journal.loadCorrelationCache host).clientOrderIds.Nodup := List.nodup_dedup _
  refine (Resolves.foldl remarkPrefix (hperm.nodup_iff.mpr hnodup)).congr fun other => ?_
  rw [hperm.mem_iff, hids]

theorem loadCorrelationCache_correlated (hfun : ∀ b c c', Bound journal.commands b c → Bound journal.commands b c' → c = c') :
    Correlated (journal.loadCorrelationCache host) := by
  have hmem : ∀ b c, (b, c) ∈ (host.scan (journal.commands.values.filter (·.clientOrderId.isSome))).filterMap brokerPair ↔
      Bound journal.commands b c := by
    intro b c
    rw [List.mem_filterMap]
    constructor
    · rintro ⟨row, hrow, hpair⟩
      exact ⟨row, ((mem_scanned host).mp hrow).1, hpair⟩
    · rintro ⟨row, hrow, hpair⟩
      exact ⟨row, (mem_scanned host).mpr ⟨hrow, clientOf_isSome (brokerPair_eq_some.mp hpair).2⟩, hpair⟩
  intro b c
  refine (Dict.get?_ofList_functional fun b c c' hc hc' => ?_).trans (hmem b c)
  exact hfun b c c' ((hmem b c).mp hc) ((hmem b c').mp hc')

theorem Correlated.functional (h : Correlated journal) (b c c' : String) (hc : Bound journal.commands b c) (hc' : Bound journal.commands b c') :
    c = c' := Option.some.inj (((h b c).mpr hc).symm.trans ((h b c').mpr hc'))

theorem Coherent.reopen (h : Coherent journal) : Coherent (journal.reopen host) := by
  refine ⟨⟨rfl, rfl, rfl, rfl, h.counts.numbered, fun row hrow => ?_⟩, (loadCorrelationCache_names journal).congr rfl rfl fun _ => Iff.rfl, h.unset⟩
  exact Nat.lt_succ_of_le (le_foldl_max _ 0 (.inl (List.mem_map_of_mem hrow)))

theorem Correlated.reopen (h : Correlated journal) : Correlated (journal.reopen host) := loadCorrelationCache_correlated h.functional

/-! ## Commands -/

theorem values_set_new [DecidableEq κ] {d : Dict κ α} {k : κ} (h : d.get? k = none) (v : α) :
    (d.set k v).values = d.values ++ [v] := by
  unfold Dict.values
  rw [Dict.entries_set_new h, List.map_append]
  rfl

theorem known_set_new (h : commands.get? messageId = none) :
    Known (commands.set messageId row) clientOrderId ↔ clientOf row = some clientOrderId ∨ Known commands clientOrderId := by
  unfold Known
  rw [values_set_new h]
  constructor
  · rintro ⟨other, hmem, hclient⟩
    rcases List.mem_append.mp hmem with hmem | hmem
    · exact .inr ⟨other, hmem, hclient⟩
    · obtain rfl := List.mem_singleton.mp hmem
      exact .inl hclient
  · rintro (hclient | ⟨other, hmem, hclient⟩)
    · exact ⟨row, by simp, hclient⟩
    · exact ⟨other, by simp [hmem], hclient⟩

theorem bound_set_new (h : commands.get? messageId = none) (hunset : row.brokerOrderId = none) :
    Bound (commands.set messageId row) brokerOrderId clientOrderId ↔ Bound commands brokerOrderId clientOrderId := by
  unfold Bound
  rw [values_set_new h]
  constructor
  · rintro ⟨other, hmem, hpair⟩
    rcases List.mem_append.mp hmem with hmem | hmem
    · exact ⟨other, hmem, hpair⟩
    · obtain rfl := List.mem_singleton.mp hmem
      rw [brokerPair_eq_some, hunset] at hpair
      cases hpair.1
  · rintro ⟨other, hmem, hpair⟩
    exact ⟨other, List.mem_append_left _ hmem, hpair⟩

theorem mem_values_modify : row ∈ (commands.modify messageId f).values ↔
    (∃ other, other ≠ messageId ∧ commands.get? other = some row) ∨ ∃ old, commands.get? messageId = some old ∧ row = f old := by
  rw [Dict.mem_values]
  constructor
  · rintro ⟨other, hget⟩
    rw [Dict.get?_modify] at hget
    split at hget
    · obtain ⟨old, hold, rfl⟩ := Option.map_eq_some_iff.mp hget
      exact .inr ⟨old, hold, rfl⟩
    · rename_i hne
      exact .inl ⟨other, fun heq => hne heq.symm, hget⟩
  · rintro (⟨other, hne, hget⟩ | ⟨old, hold, rfl⟩)
    · refine ⟨other, ?_⟩
      rw [Dict.get?_modify, if_neg (Ne.symm hne)]
      exact hget
    · refine ⟨messageId, ?_⟩
      rw [Dict.get?_modify, if_pos rfl, hold]
      rfl

theorem exists_values_modify {p : CommandRow Sha → Prop} (hf : ∀ row, p (f row) ↔ p row) :
    (∃ row ∈ (commands.modify messageId f).values, p row) ↔ ∃ row ∈ commands.values, p row := by
  constructor
  · rintro ⟨row, hmem, hp⟩
    rcases mem_values_modify.mp hmem with ⟨other, -, hget⟩ | ⟨old, hold, rfl⟩
    · exact ⟨row, Dict.mem_values.mpr ⟨other, hget⟩, hp⟩
    · exact ⟨old, Dict.mem_values.mpr ⟨messageId, hold⟩, (hf old).mp hp⟩
  · rintro ⟨row, hmem, hp⟩
    obtain ⟨other, hget⟩ := Dict.mem_values.mp hmem
    by_cases heq : other = messageId
    · subst heq
      exact ⟨f row, mem_values_modify.mpr (.inr ⟨row, hget, rfl⟩), (hf row).mpr hp⟩
    · exact ⟨row, mem_values_modify.mpr (.inl ⟨other, heq, hget⟩), hp⟩

theorem clientOf_completeRow : clientOf (completeRow result broker now row) = clientOf row := by
  unfold LocalJournal.completeRow LocalJournal.clientOf
  split
  · rfl
  · rfl

theorem known_complete : Known (commands.modify messageId (completeRow result broker now)) clientOrderId ↔ Known commands clientOrderId :=
  exists_values_modify fun row => by rw [clientOf_completeRow]

theorem modify_none [DecidableEq κ] {d : Dict κ α} {k : κ} (h : d.get? k = none) (f : α → α) : d.modify k f = d := by
  unfold Dict.modify
  rw [h]

theorem length_modify [DecidableEq κ] (d : Dict κ α) (k : κ) (f : α → α) : (d.modify k f).values.length = d.values.length := by
  cases hget : d.get? k with
  | none => rw [modify_none hget]
  | some v =>
    have h := Dict.length_filter_modify hget f fun _ => true
    simpa using h

theorem processing_complete (commands : Dict String (CommandRow Sha)) (messageId : String) (result : JsonObject) (broker : Option String)
    (now : Int) :
    ((commands.modify messageId (completeRow result broker now)).values.filter fun row => row.status = .processing).length =
      (commands.values.filter fun row => row.status = .processing).length -
        if (commands.get? messageId).any (·.status = .processing) then 1 else 0 := by
  cases hget : commands.get? messageId with
  | none => simp [modify_none hget]
  | some row =>
    have h := Dict.length_filter_modify hget (completeRow result broker now) fun row => decide (row.status = .processing)
    by_cases hstatus : row.status = .processing
    · simp only [completeRow, hstatus, ↓reduceIte, decide_true, Option.any_some, reduceCtorEq, decide_false,
        Bool.false_eq_true, Nat.add_zero] at h ⊢
      exact Nat.eq_sub_of_add_eq h
    · simpa [completeRow, hstatus] using h

/-- The journal after a command is completed, before anything is published. -/
def LocalJournal.settled (journal : LocalJournal Sha) (messageId : String) (result : JsonObject) (broker : Option String) (now : Int) :
    LocalJournal Sha := { journal with
  commands := journal.commands.modify messageId (completeRow result broker now)
  processingCommandCount := journal.processingCommandCount -
    if (journal.commands.get? messageId).any (·.status = .processing) then 1 else 0 }

theorem Coherent.settled (h : Coherent journal) (messageId : String) (result : JsonObject) (broker : Option String) (now : Int) :
    Coherent (journal.settled messageId result broker now) := by
  refine ⟨⟨h.counts.reports, h.counts.pending, ?_, ?_, h.counts.numbered, h.counts.fresh⟩, ?_, fun row hrow hstatus => ?_⟩
  · exact h.counts.commands.trans (length_modify _ _ _).symm
  · unfold LocalJournal.settled
    rw [h.counts.processing, processing_complete]
  · exact h.names.congr rfl rfl fun other => known_complete
  · rcases mem_values_modify.mp hrow with ⟨other, -, hget⟩ | ⟨old, hold, rfl⟩
    · exact h.unset row (Dict.mem_values.mpr ⟨other, hget⟩) hstatus
    · unfold LocalJournal.completeRow at hstatus ⊢
      split
      · rename_i hold'
        rw [if_pos hold'] at hstatus
        cases hstatus
      · rename_i hold'
        rw [if_neg hold'] at hstatus
        exact absurd hstatus hold'

theorem Coherent.bind (h : Coherent journal) (brokerOrderId clientOrderId : String) :
    Coherent (journal.publishBrokerOrderId brokerOrderId clientOrderId) :=
  ⟨h.counts.congr ⟨rfl, rfl, rfl, rfl, rfl, rfl, rfl⟩, h.names.congr rfl rfl fun _ => Iff.rfl, h.unset⟩

theorem completeCommand_cases (h : Coherent journal) (host : JournalHost Sha) (messageId : String) (result : JsonObject) (now : Int) :
    (journal.completeCommand host messageId result now =
        journal.settled messageId result (givenText host (PyVal.get result "broker_order_id")) now ∧
      ∀ b row, givenText host (PyVal.get result "broker_order_id") = some b → journal.commands.get? messageId = some row → clientOf row = none) ∨
    ∃ b c row, givenText host (PyVal.get result "broker_order_id") = some b ∧ journal.commands.get? messageId = some row ∧
      clientOf row = some c ∧ journal.completeCommand host messageId result now =
        (journal.settled messageId result (some b) now).publishBrokerOrderId b c := by
  have hwritten : ∀ broker, ({ journal with
      commands := journal.commands.modify messageId (completeRow result broker now)
      processingCommandCount := if (journal.commands.get? messageId).any (·.status = .processing) then journal.processingCommandCount - 1
        else journal.processingCommandCount } : LocalJournal Sha) = journal.settled messageId result broker now := by
    intro broker
    unfold LocalJournal.settled
    split
    · rfl
    · rfl
  unfold LocalJournal.completeCommand
  dsimp only
  rw [hwritten]
  cases hbroker : givenText host (PyVal.get result "broker_order_id") with
  | none => exact .inl ⟨rfl, fun b row hb => by cases hb⟩
  | some b =>
    cases hclient : (journal.commands.get? messageId).bind clientOf with
    | none =>
      refine .inl ⟨rfl, fun b row _ hrow => ?_⟩
      rw [hrow] at hclient
      exact hclient
    | some c =>
      obtain ⟨row, hrow, hc⟩ := Option.bind_eq_some_iff.mp hclient
      refine .inr ⟨b, c, row, rfl, hrow, hc, ?_⟩
      have hknown : Known (journal.settled messageId result (some b) now).commands c :=
        known_complete.mpr ⟨row, Dict.mem_values.mpr ⟨messageId, hrow⟩, hc⟩
      have hnames := (h.settled messageId result (some b) now).names
      dsimp only
      rw [hnames.published hknown]

theorem Coherent.completeCommand (h : Coherent journal) (messageId : String) (result : JsonObject) (now : Int) :
    Coherent (journal.completeCommand host messageId result now) := by
  rcases completeCommand_cases h host messageId result now with ⟨hnext, -⟩ | ⟨b, c, row, -, -, -, hnext⟩
  · rw [hnext]
    exact h.settled _ _ _ _
  · rw [hnext]
    exact (h.settled _ _ _ _).bind b c

theorem oldestPlacement_some (h : journal.oldestPlacement clientOrderId = some entry) :
    journal.commands.get? entry.1 = some entry.2 ∧ entry.2.status = .processing ∧ entry.2.clientOrderId = some clientOrderId := by
  have hmem := List.mem_filter.mp (List.mem_mergeSort.mp (List.mem_of_mem_head? h))
  simp only [Bool.and_eq_true, decide_eq_true_eq] at hmem
  exact ⟨Dict.mem_entries.mp hmem.1, hmem.2.1.1, hmem.2.2⟩

theorem reconcileProcessingOrder_cases (h : Coherent journal) (host : JournalHost Sha) (clientOrderId : String) (raw : PyVal) (now : Int) :
    journal.reconcileProcessingOrder host clientOrderId raw now = (journal, false) ∨
    ∃ b entry result, givenText host raw = some b ∧ clientOrderId ≠ "" ∧ journal.oldestPlacement clientOrderId = some entry ∧
      journal.reconcileProcessingOrder host clientOrderId raw now =
        ((journal.settled entry.1 result (some b) now).publishBrokerOrderId b clientOrderId, true) := by
  unfold LocalJournal.reconcileProcessingOrder
  cases hraw : givenText host raw with
  | none => exact .inl rfl
  | some b =>
    by_cases hempty : clientOrderId = ""
    · exact .inl (if_pos hempty)
    · cases hentry : journal.oldestPlacement clientOrderId with
      | none => exact .inl (if_neg hempty)
      | some entry =>
        obtain ⟨hrow, hstatus, hclient⟩ := oldestPlacement_some hentry
        refine .inr ⟨b, entry, [("accepted", .bool true), ("reason", .str "reconciled_from_broker_snapshot"), ("broker_order_id", raw),
          ("reports", .list [])], rfl, hempty, rfl, ?_⟩
        have hsettled : ∀ result, ({ journal with
            commands := journal.commands.modify entry.1 (completeRow result (some b) now)
            processingCommandCount := journal.processingCommandCount - 1 } : LocalJournal Sha) = journal.settled entry.1 result (some b) now := by
          intro result
          unfold LocalJournal.settled
          rw [hrow]
          simp [hstatus]
        have hknown : ∀ result, Known (journal.settled entry.1 result (some b) now).commands clientOrderId := fun result =>
          known_complete.mpr ⟨entry.2, Dict.mem_values.mpr ⟨entry.1, hrow⟩, by simp [LocalJournal.clientOf, hclient, hempty]⟩
        dsimp only
        rw [if_neg hempty, hsettled, (h.settled _ _ _ _).names.published (hknown _)]

theorem Coherent.reconcileProcessingOrder (h : Coherent journal) (clientOrderId : String) (raw : PyVal) (now : Int) :
    Coherent (journal.reconcileProcessingOrder host clientOrderId raw now).1 := by
  rcases reconcileProcessingOrder_cases h host clientOrderId raw now with hnext | ⟨b, entry, result, -, -, -, hnext⟩
  · rw [hnext]
    exact h
  · rw [hnext]
    exact (h.settled _ _ _ _).bind b clientOrderId

def LocalJournal.newRow [DecidableEq Sha] (host : JournalHost Sha) (payload : JsonObject) (now : Int) : CommandRow Sha :=
  let rawClientOrderId := PyVal.get payload "client_order_id"
  let kind := upperText (host.str ((PyVal.get payload "command_kind").or (.str "")))
  { payloadHash := host.payloadHash payload, commandKind := if kind = "" then none else some kind
    clientOrderId := if rawClientOrderId.truthy then some (host.str rawClientOrderId) else none
    targetBrokerOrderId := givenText host (PyVal.get payload "broker_order_id"), createdAt := now }

def LocalJournal.inserted (journal : LocalJournal Sha) (messageId : String) (row : CommandRow Sha) : LocalJournal Sha := { journal with
  commands := journal.commands.set messageId row, commandCount := journal.commandCount + 1
  processingCommandCount := journal.processingCommandCount + 1 }

theorem beginCommand_cases [DecidableEq Sha] (host : JournalHost Sha) (journal : LocalJournal Sha) (messageId : String) (payload : JsonObject)
    (now : Int) :
    (∃ row outcome, journal.commands.get? messageId = some row ∧ outcome ≠ .new ∧
      journal.beginCommand host messageId payload now = (journal, outcome)) ∨
    journal.commands.get? messageId = none ∧ ∃ next, journal.beginCommand host messageId payload now = (next, .new) ∧
      SameTables (journal.inserted messageId (newRow host payload now)) next ∧ next.brokerToClient = journal.brokerToClient ∧
      ∀ known, Names journal known → Names next fun other => clientOf (newRow host payload now) = some other ∨ known other := by
  unfold LocalJournal.beginCommand
  cases hget : journal.commands.get? messageId with
  | some row =>
    refine .inl ?_
    dsimp only
    split
    · exact ⟨row, .mismatch, rfl, by simp, rfl⟩
    · split
      · exact ⟨row, .duplicate (row.resultJson.getD []), rfl, by simp, rfl⟩
      · exact ⟨row, .indeterminate, rfl, by simp, rfl⟩
  | none =>
    refine .inr ⟨rfl, _, rfl, ?_⟩
    have hclient : clientOf (newRow host payload now) = ((if (PyVal.get payload "client_order_id").truthy then
        some (host.str (PyVal.get payload "client_order_id")) else none : Option String).filter (· ≠ "")) := rfl
    rw [← hclient]
    cases hnew : clientOf (newRow host payload now) with
    | none =>
      refine ⟨⟨rfl, rfl, rfl, rfl, rfl, rfl, rfl⟩, rfl, fun known hnames => hnames.congr rfl rfl fun other => ?_⟩
      simp
    | some c =>
      refine ⟨publishClientOrderId_same _ c, publishClientOrderId_brokers _ c, fun known hnames => ?_⟩
      have hwritten : Names (journal.inserted messageId (newRow host payload now)) known := hnames.congr rfl rfl fun _ => Iff.rfl
      refine (hwritten.publish c).congr rfl rfl fun other => ?_
      simp [eq_comm]

theorem Coherent.beginCommand [DecidableEq Sha] (h : Coherent journal) (messageId : String) (payload : JsonObject) (now : Int) :
    Coherent (journal.beginCommand host messageId payload now).1 := by
  rcases beginCommand_cases host journal messageId payload now with ⟨row, outcome, -, -, hnext⟩ | ⟨hnew, next, hnext, hsame, -, hnames⟩
  · rw [hnext]
    exact h
  · rw [hnext]
    have hvalues := values_set_new hnew (newRow host payload now)
    have hinserted : Counts (journal.inserted messageId (newRow host payload now)) := by
      refine ⟨h.counts.reports, h.counts.pending, ?_, ?_, h.counts.numbered, h.counts.fresh⟩
      · show journal.commandCount + 1 = (journal.commands.set messageId (newRow host payload now)).values.length
        rw [hvalues, h.counts.commands, List.length_append]
        rfl
      · show journal.processingCommandCount + 1 =
          ((journal.commands.set messageId (newRow host payload now)).values.filter fun row => row.status = .processing).length
        rw [hvalues, h.counts.processing, List.filter_append, List.length_append]
        rfl
    refine ⟨hinserted.congr hsame, ?_, fun row hrow hstatus => ?_⟩
    · refine (hnames _ h.names).congr rfl rfl fun other => ?_
      rw [hsame.commands]
      exact known_set_new hnew
    · rw [hsame.commands] at hrow
      rcases List.mem_append.mp (hvalues ▸ hrow) with hrow | hrow
      · exact h.unset row hrow hstatus
      · obtain rfl := List.mem_singleton.mp hrow
        rfl

theorem length_filter_settle {α : Type} (p q : α → Bool) (f : α → α) (hq : ∀ x, q x = true → p x = true)
    (hf : ∀ x, q x = true → p (f x) = false) (l : List α) :
    ((l.map fun x => if q x then f x else x).filter p).length = (l.filter p).length - (l.filter q).length := by
  have hsum : ((l.map fun x => if q x then f x else x).filter p).length + (l.filter q).length = (l.filter p).length := by
    induction l with
    | nil => rfl
    | cons x rest ih =>
      by_cases hx : q x = true
      · simp [hx, hq x hx, hf x hx, ← ih]
        omega
      · by_cases hp : p x = true
        · simp [hx, hp, ← ih]
          omega
        · simp [hx, hp, ← ih]
  omega

theorem values_map {κ α β : Type} (d : Dict κ α) (f : α → β) : (d.map f).values = d.values.map f := by
  unfold Dict.map Dict.values
  rw [List.map_map, List.map_map]
  rfl

theorem exists_values_map {p : CommandRow Sha → Prop} (hf : ∀ row, p (f row) ↔ p row) :
    (∃ row ∈ (commands.map f).values, p row) ↔ ∃ row ∈ commands.values, p row := by
  simp [values_map, hf]

def cancelRow (target : String) (result : JsonObject) (now : Int) (row : CommandRow Sha) : CommandRow Sha :=
  if cancels target row then { row with status := .completed, resultJson := some result, completedAt := some now } else row

theorem cancelRow_orders (target : String) (result : JsonObject) (now : Int) (row : CommandRow Sha) :
    clientOf (cancelRow target result now row) = clientOf row ∧ brokerPair (cancelRow target result now row) = brokerPair row := by
  unfold cancelRow
  split
  · exact ⟨rfl, rfl⟩
  · exact ⟨rfl, rfl⟩

theorem reconcileProcessingCancel_cases (host : JournalHost Sha) (journal : LocalJournal Sha) (raw : PyVal) (orderStatus : String) (now : Int) :
    journal.reconcileProcessingCancel host raw orderStatus now = (journal, false) ∨
    ∃ target result, journal.reconcileProcessingCancel host raw orderStatus now = ({ journal with
      commands := journal.commands.map (cancelRow target result now)
      processingCommandCount := journal.processingCommandCount - (journal.commands.values.filter (cancels target)).length },
        decide ((journal.commands.values.filter (cancels target)).length ≠ 0)) := by
  unfold LocalJournal.reconcileProcessingCancel
  dsimp only
  split
  · exact .inl rfl
  · exact .inr ⟨_, _, rfl⟩

theorem Coherent.reconcileProcessingCancel (h : Coherent journal) (raw : PyVal) (orderStatus : String) (now : Int) :
    Coherent (journal.reconcileProcessingCancel host raw orderStatus now).1 := by
  rcases reconcileProcessingCancel_cases host journal raw orderStatus now with hnext | ⟨target, result, hnext⟩
  · rw [hnext]
    exact h
  · rw [hnext]
    refine ⟨⟨h.counts.reports, h.counts.pending, ?_, ?_, h.counts.numbered, h.counts.fresh⟩, ?_, fun row hrow hstatus => ?_⟩
    · exact h.counts.commands.trans (by rw [values_map, List.length_map])
    · show journal.processingCommandCount - (journal.commands.values.filter (cancels target)).length =
        ((journal.commands.map (cancelRow target result now)).values.filter fun row => row.status = .processing).length
      rw [h.counts.processing, values_map]
      refine (length_filter_settle (fun row => decide (row.status = .processing)) (cancels target)
        (fun row => { row with status := .completed, resultJson := some result, completedAt := some now }) ?_ (fun _ _ => rfl)
        journal.commands.values).symm
      intro row hrow
      simp only [LocalJournal.cancels, Bool.and_eq_true] at hrow
      exact hrow.1.1
    · refine h.names.congr rfl rfl fun other => exists_values_map fun row => ?_
      rw [(cancelRow_orders target result now row).1]
    · rw [values_map] at hrow
      obtain ⟨old, hold, rfl⟩ := List.mem_map.mp hrow
      unfold cancelRow at hstatus ⊢
      split
      · rename_i hcancels
        rw [if_pos hcancels] at hstatus
        cases hstatus
      · rename_i hcancels
        rw [if_neg hcancels] at hstatus
        exact h.unset old hold hstatus

theorem length_filter_entries (d : Dict κ α) (p : α → Bool) :
    (d.values.filter p).length = (d.entries.filter fun entry => p entry.2).length := by
  unfold Dict.values
  rw [List.filter_map, List.length_map]
  rfl

theorem addReport_cases (host : JournalHost Sha) (journal : LocalJournal Sha) (messageId envelopeJson : String) (now : Int) :
    (∃ message, classify host envelopeJson = .error message ∧ journal.addReport host messageId envelopeJson now = .error message) ∨
    ∃ kind, classify host envelopeJson = .ok kind ∧
      (journal.reports.contains messageId = true ∧ journal.addReport host messageId envelopeJson now = .ok journal ∨
      journal.reports.get? messageId = none ∧ journal.addReport host messageId envelopeJson now = .ok { journal with
        reports := journal.reports.set messageId {
          envelopeJson, reportType := kind.1, isCompleteSnapshot := kind.2
          sequenceId := journal.nextReportSequence, createdAt := now }
        reportCount := journal.reportCount + 1, pendingReportCount := journal.pendingReportCount + 1
        nextReportSequence := journal.nextReportSequence + 1 }) := by
  unfold LocalJournal.addReport
  cases hkind : classify host envelopeJson with
  | error message => exact .inl ⟨message, rfl, rfl⟩
  | ok kind =>
    refine .inr ⟨kind, rfl, ?_⟩
    cases hget : journal.reports.get? messageId with
    | some row =>
      have hcontains : journal.reports.contains messageId = true := by
        rw [Dict.contains, hget]
        rfl
      exact .inl ⟨hcontains, if_pos hcontains⟩
    | none =>
      have hnew : ¬ journal.reports.contains messageId = true := by
        rw [Dict.contains, hget]
        exact Bool.false_ne_true
      exact .inr ⟨rfl, if_neg hnew⟩

theorem Coherent.addReport {messageId envelopeJson : String} (h : Coherent journal)
    (hnext : journal.addReport host messageId envelopeJson now = .ok next) : Coherent next := by
  rcases addReport_cases host journal messageId envelopeJson now with ⟨message, -, herror⟩ | ⟨kind, -, ⟨-, hsame⟩ | ⟨hnew, hadded⟩⟩
  · rw [herror] at hnext
    cases hnext
  · rw [hsame] at hnext
    obtain rfl := Except.ok.inj hnext
    exact h
  · rw [hadded] at hnext
    obtain rfl := Except.ok.inj hnext
    have hvalues := values_set_new hnew
      ⟨envelopeJson, false, kind.1, kind.2, journal.nextReportSequence, now⟩
    refine ⟨⟨?_, ?_, h.counts.commands, h.counts.processing, ?_, ?_⟩, h.names.congr rfl rfl fun _ => Iff.rfl, h.unset⟩
    · dsimp only
      rw [hvalues, h.counts.reports, List.length_append]
      rfl
    · dsimp only
      rw [hvalues, h.counts.pending, List.filter_append, List.length_append]
      rfl
    · dsimp only
      rw [hvalues, List.map_append, List.pairwise_append]
      refine ⟨h.counts.numbered, List.pairwise_singleton _ _, fun n hn m hm => ?_⟩
      obtain ⟨row, hrow, rfl⟩ := List.mem_map.mp hn
      obtain rfl := List.mem_singleton.mp hm
      exact h.counts.fresh row hrow
    · intro row hrow
      rcases List.mem_append.mp (hvalues ▸ hrow) with hrow | hrow
      · exact Nat.lt_succ_of_lt (h.counts.fresh row hrow)
      · obtain rfl := List.mem_singleton.mp hrow
        exact Nat.lt_succ_self _

theorem values_mapEntries {κ α β : Type} (d : Dict κ α) (f : κ × α → β) : (d.mapEntries f).values = d.entries.map f := by
  unfold Dict.mapEntries Dict.values
  rw [List.map_map]
  rfl

theorem Coherent.markAcked (h : Coherent journal) (p : String × ReportRow → Bool) : Coherent (journal.markAcked p).1 := by
  have hsequence : ((journal.markAcked p).1.reports.values.map (·.sequenceId)) = journal.reports.values.map (·.sequenceId) := by
    show ((journal.reports.mapEntries _).values.map _) = _
    rw [values_mapEntries, List.map_map]
    unfold Dict.values
    rw [List.map_map]
    refine List.map_congr_left fun entry _ => ?_
    simp only [Function.comp_apply]
    split
    · rfl
    · rfl
  refine ⟨⟨?_, ?_, h.counts.commands, h.counts.processing, ?_, fun row hrow => ?_⟩, h.names.congr rfl rfl fun _ => Iff.rfl, h.unset⟩
  · refine h.counts.reports.trans ?_
    have := congrArg List.length hsequence
    rw [List.length_map, List.length_map] at this
    exact this.symm
  · show journal.pendingReportCount - _ = _
    rw [h.counts.pending, length_filter_entries, length_filter_entries]
    refine (length_filter_settle (fun entry : String × ReportRow => !entry.2.acked) (fun entry => !entry.2.acked && p entry)
      (fun entry => (entry.1, { entry.2 with acked := true })) ?_ (fun _ _ => rfl) journal.reports.entries).symm.trans ?_
    · intro entry hentry
      exact (Bool.and_eq_true_iff.mp hentry).1
    · show _ = ((journal.reports.entries.map _).filter _).length
      congr 2
      refine List.map_congr_left fun entry _ => ?_
      split
      · rename_i hmarked
        simp [hmarked]
      · rename_i hmarked
        simp [hmarked]
  · rw [hsequence]
    exact h.counts.numbered
  · have hmem : row.sequenceId ∈ journal.reports.values.map (·.sequenceId) := hsequence ▸ List.mem_map_of_mem hrow
    obtain ⟨old, hold, hsame⟩ := List.mem_map.mp hmem
    exact hsame ▸ h.counts.fresh old hold

/-! ## Pruning -/

structure Pruned (journal next : LocalJournal Sha) (stale : String × ReportRow → Bool) (old : String × CommandRow Sha → Bool) : Prop where
  reports : next.reports = journal.reports.filter fun entry => !stale entry
  commands : next.commands = journal.commands.filter fun entry => !old entry
  reportCount : next.reportCount = journal.reportCount - (journal.reports.entries.filter stale).length
  commandCount : next.commandCount = journal.commandCount - (journal.commands.entries.filter old).length
  pendingReportCount : next.pendingReportCount = journal.pendingReportCount
  processingCommandCount : next.processingCommandCount = journal.processingCommandCount
  nextReportSequence : next.nextReportSequence = journal.nextReportSequence

def staleReport (cutoff : Int) (entry : String × ReportRow) : Bool := entry.2.acked && decide (entry.2.createdAt < cutoff)

def oldCommand (cutoff : Int) (entry : String × CommandRow Sha) : Bool := entry.2.status = .completed && entry.2.completedAt.any (· < cutoff)

theorem prune_ok {retentionDays : Int} {reports deleted : Nat} (h : journal.prune host retentionDays now = .ok (next, reports, deleted)) :
    7 ≤ retentionDays ∧ Pruned journal next (staleReport (now - retentionDays * 86400)) (oldCommand (now - retentionDays * 86400)) ∧
      reports = (journal.reports.entries.filter (staleReport (now - retentionDays * 86400))).length ∧
      deleted = (journal.commands.entries.filter (oldCommand (now - retentionDays * 86400))).length ∧
      Names next (Known next.commands) ∧
      ((∀ b c c', Bound next.commands b c → Bound next.commands b c' → c = c') → Correlated next) := by
  unfold LocalJournal.prune at h
  split at h
  · cases h
  · rename_i hdays
    obtain ⟨rfl, hcounts⟩ := Prod.mk.inj (Except.ok.inj h)
    obtain ⟨rfl, rfl⟩ := Prod.mk.inj hcounts
    exact ⟨not_lt.mp hdays, ⟨rfl, rfl, rfl, rfl, rfl, rfl, rfl⟩, rfl, rfl, loadCorrelationCache_names _, loadCorrelationCache_correlated⟩

theorem length_filter_not {α : Type} (l : List α) (p : α → Bool) : (l.filter fun x => !p x).length = l.length - (l.filter p).length := by
  have h := List.length_eq_length_filter_add (l := l) p
  omega

theorem Pruned.counts {stale : String × ReportRow → Bool} {old : String × CommandRow Sha → Bool} (h : Counts journal)
    (hpruned : Pruned journal next stale old) (hstale : ∀ entry, stale entry = true → entry.2.acked = true)
    (hold : ∀ entry, old entry = true → entry.2.status = .completed) : Counts next := by
  obtain ⟨hreports, hcommands, hreportCount, hcommandCount, hpending, hprocessing, hnext⟩ := hpruned
  have hentries : next.reports.entries = journal.reports.entries.filter fun entry => !stale entry := by
    rw [hreports]
    rfl
  have hcommandEntries : next.commands.entries = journal.commands.entries.filter fun entry => !old entry := by
    rw [hcommands]
    rfl
  have hsublist : (next.reports.values.map (·.sequenceId)).Sublist (journal.reports.values.map (·.sequenceId)) := by
    unfold Dict.values
    rw [hentries]
    exact (List.filter_sublist.map _).map _
  refine ⟨?_, ?_, ?_, ?_, h.numbered.sublist hsublist, fun row hrow => ?_⟩
  · unfold Dict.values
    rw [hreportCount, h.reports, hentries, List.length_map, length_filter_not, Dict.values, List.length_map]
  · rw [hpending, h.pending, length_filter_entries, length_filter_entries, hentries, List.filter_filter]
    congr 1
    refine List.filter_congr fun entry _ => ?_
    cases hacked : entry.2.acked
    · have hkept : stale entry = false := by
        rw [← Bool.not_eq_true]
        intro hgone
        rw [hstale entry hgone] at hacked
        cases hacked
      rw [hkept]
      rfl
    · rfl
  · unfold Dict.values
    rw [hcommandCount, h.commands, hcommandEntries, List.length_map, length_filter_not, Dict.values, List.length_map]
  · rw [hprocessing, h.processing, length_filter_entries, length_filter_entries, hcommandEntries, List.filter_filter]
    congr 1
    refine List.filter_congr fun entry _ => ?_
    by_cases hstatus : entry.2.status = .processing
    · have hkept : old entry = false := by
        rw [← Bool.not_eq_true]
        intro hgone
        rw [hold entry hgone] at hstatus
        cases hstatus
      simp [hkept]
    · simp [hstatus]
  · rw [hnext]
    obtain ⟨old, hmem, hsame⟩ := List.mem_map.mp (hsublist.subset (List.mem_map_of_mem hrow))
    exact hsame ▸ h.fresh old hmem

theorem mem_values_filter {p : String × CommandRow Sha → Bool} {row : CommandRow Sha} (h : row ∈ (commands.filter p).values) :
    row ∈ commands.values := by
  obtain ⟨messageId, hget⟩ := Dict.mem_values.mp h
  rw [Dict.get?_filter, Option.filter_eq_some_iff] at hget
  exact Dict.mem_values.mpr ⟨messageId, hget.1⟩

theorem staleReport_acked {cutoff : Int} {entry : String × ReportRow} (h : staleReport cutoff entry = true) : entry.2.acked = true :=
  (Bool.and_eq_true_iff.mp h).1

theorem oldCommand_completed {cutoff : Int} (h : oldCommand cutoff entry = true) :
    entry.2.status = .completed := of_decide_eq_true (Bool.and_eq_true_iff.mp h).1

theorem Coherent.prune {retentionDays : Int} {reports deleted : Nat} (h : Coherent journal)
    (hnext : journal.prune host retentionDays now = .ok (next, reports, deleted)) : Coherent next := by
  obtain ⟨-, hpruned, -, -, hnames, -⟩ := prune_ok hnext
  refine ⟨hpruned.counts h.counts (fun _ => staleReport_acked) fun _ => oldCommand_completed, hnames, fun row hrow hstatus => ?_⟩
  rw [hpruned.commands] at hrow
  exact h.unset row (mem_values_filter hrow) hstatus

end QuantX
