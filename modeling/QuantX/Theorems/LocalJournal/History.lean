import QuantX.Theorems.LocalJournal.Transparent
import QuantX.Lib.Run

namespace QuantX
open Lib LocalJournal

variable {Sha : Type} [DecidableEq Sha] {host : JournalHost Sha} {journal next : LocalJournal Sha} {messageId : String} {now : Int}

abbrev JournalMoment (Sha : Type) := Moment (LocalJournal Sha) (Option JournalCall)

def LocalJournal.take (host : JournalHost Sha) (journal : LocalJournal Sha) : Option JournalCall → LocalJournal Sha
  | none => journal.reopen host
  | some call => (journal.call host call).1

theorem take_some (host : JournalHost Sha) (journal : LocalJournal Sha) (call : JournalCall) :
    journal.take host (some call) = (journal.call host call).1 := rfl

def BeginsNew (host : JournalHost Sha) (m : JournalMoment Sha) (messageId : String) : Prop :=
  ∃ payload now, m.op = some (.beginCommand messageId payload now) ∧ (m.before.beginCommand host messageId payload now).2 = .new

def Drops (m : JournalMoment Sha) (messageId : String) : Prop :=
  (∃ retentionDays now, m.op = some (.prune retentionDays now)) ∧
    (∃ row, m.before.commands.get? messageId = some row ∧ row.status = .completed) ∧ m.after.commands.get? messageId = none

/-- A command that is new has no row, and where it has been new before a pruning has taken it since. -/
def NewOnce (host : JournalHost Sha) : List (JournalMoment Sha) → Prop
  | [] => True
  | m :: earlier => (∀ messageId, BeginsNew host m messageId → m.before.commands.get? messageId = none ∧
      ∀ since m' older, earlier = since ++ m' :: older → BeginsNew host m' messageId → ∃ p ∈ since, Drops p messageId) ∧
    NewOnce host earlier

theorem beginsNew_free {m : JournalMoment Sha} (h : BeginsNew host m messageId) : m.before.commands.get? messageId = none := by
  obtain ⟨payload, now, -, hnew⟩ := h
  rcases beginCommand_cases host m.before messageId payload now with ⟨row, outcome, -, hold, hnext⟩ | ⟨hnone, -⟩
  · rw [hnext] at hnew
    exact absurd hnew hold
  · exact hnone

theorem take_keeps (hcoherent : Coherent journal) {row : CommandRow Sha} (hrow : journal.commands.get? messageId = some row)
    (op : Option JournalCall) :
    Drops ⟨journal, op, journal.take host op⟩ messageId ∨ ((journal.take host op).commands.get? messageId).isSome := by
  have hkept : ∀ {next : LocalJournal Sha}, next.commands = journal.commands → (next.commands.get? messageId).isSome := by
    intro next hsame
    rw [hsame, hrow]
    rfl
  have hmodify : ∀ {next : LocalJournal Sha} {id : String} {f : CommandRow Sha → CommandRow Sha},
      next.commands = journal.commands.modify id f → (next.commands.get? messageId).isSome := by
    intro next id f hmodified
    rw [hmodified, Dict.get?_modify]
    split
    · rename_i hid
      rw [hid, hrow]
      rfl
    · rw [hrow]
      rfl
  cases op with
  | none => exact .inr (hkept rfl)
  | some call =>
    rw [take_some]
    cases call with
    | beginCommand id payload now =>
      refine .inr ?_
      show ((journal.beginCommand host id payload now).1.commands.get? messageId).isSome
      rcases beginCommand_cases host journal id payload now with ⟨row, outcome, -, -, hnext⟩ | ⟨-, next, hnext, hsame, -⟩
      · rw [hnext]
        exact hkept rfl
      · rw [hnext, hsame.commands]
        show ((journal.commands.set id (newRow host payload now)).get? messageId).isSome
        rw [Dict.get?_set]
        split
        · rfl
        · rw [hrow]
          rfl
    | completeCommand id result now => exact .inr (hmodify (completeCommand_tables hcoherent host id result now).1)
    | reconcileProcessingOrder clientOrderId raw now =>
      refine .inr ?_
      show ((journal.reconcileProcessingOrder host clientOrderId raw now).1.commands.get? messageId).isSome
      rcases reconcileProcessingOrder_cases hcoherent host clientOrderId raw now with hnext | ⟨b, entry, result, -, -, -, hnext⟩
      · rw [hnext]
        exact hkept rfl
      · rw [hnext]
        exact hmodify rfl
    | reconcileProcessingCancel raw orderStatus now =>
      refine .inr ?_
      rw [call_reconcileProcessingCancel]
      rcases reconcileProcessingCancel_cases host journal raw orderStatus now with hnext | ⟨target, result, hnext⟩
      · rw [hnext]
        exact hkept rfl
      · rw [hnext]
        rw [Dict.get?_map, hrow]
        rfl
    | addReport id envelopeJson now =>
      rcases addReport_cases host journal id envelopeJson now with ⟨message, -, hadd⟩ | ⟨kind, -, ⟨-, hadd⟩ | ⟨-, hadd⟩⟩
      · rw [call_addReport_error hadd]
        exact .inr (hkept rfl)
      · rw [call_addReport_ok hadd]
        exact .inr (hkept rfl)
      · rw [call_addReport_ok hadd]
        exact .inr (hkept rfl)
    | acknowledgeReports messageIds =>
      refine .inr (hkept ?_)
      show (journal.acknowledgeReports messageIds).1.commands = journal.commands
      unfold LocalJournal.acknowledgeReports
      dsimp only
      split
      · rfl
      · rfl
    | retirePendingFullSnapshots => exact .inr (hkept rfl)
    | prune retentionDays now =>
      cases hprune : journal.prune host retentionDays now with
      | error message =>
        rw [call_prune_error hprune]
        exact .inr (hkept rfl)
      | ok result =>
        obtain ⟨next, reports, deleted⟩ := result
        obtain ⟨-, hpruned, -⟩ := prune_ok hprune
        rw [call_prune_ok hprune]
        have hget : next.commands.get? messageId = if !oldCommand (now - retentionDays * 86400) (messageId, row) then some row else none := by
          rw [hpruned.commands, Dict.get?_filter, hrow]
          rfl
        by_cases hold : oldCommand (now - retentionDays * 86400) (messageId, row) = true
        · rw [hold] at hget
          exact .inl ⟨⟨retentionDays, now, rfl⟩, ⟨row, hrow, oldCommand_completed hold⟩, hget⟩
        · rw [Bool.not_eq_true] at hold
          rw [hold] at hget
          refine .inr ?_
          rw [hget]
          rfl

theorem beginsNew_inserts {op : Option JournalCall} (h : BeginsNew host ⟨journal, op, journal.take host op⟩ messageId) :
    ((journal.take host op).commands.get? messageId).isSome := by
  obtain ⟨payload, now, hop, hnew⟩ := h
  subst hop
  show ((journal.beginCommand host messageId payload now).1.commands.get? messageId).isSome
  rcases beginCommand_cases host journal messageId payload now with ⟨row, outcome, -, hold, hnext⟩ | ⟨-, next, hnext, hsame, -⟩
  · dsimp only at hnew
    rw [hnext] at hnew
    exact absurd hnew hold
  · rw [hnext, hsame.commands]
    show ((journal.commands.set messageId (newRow host payload now)).get? messageId).isSome
    rw [Dict.get?_set_self]
    rfl

def Holds (host : JournalHost Sha) (log : List (JournalMoment Sha)) (journal : LocalJournal Sha) : Prop :=
  ∀ messageId since m older, log = since ++ m :: older → BeginsNew host m messageId →
    (∃ p ∈ since, Drops p messageId) ∨ (journal.commands.get? messageId).isSome

theorem Holds.take {log : List (JournalMoment Sha)} (h : Holds host log journal) (hcoherent : Coherent journal) (op : Option JournalCall) :
    Holds host (⟨journal, op, journal.take host op⟩ :: log) (journal.take host op) := by
  intro messageId since m older hlog hnew
  cases since with
  | nil =>
    obtain ⟨rfl, -⟩ := List.cons.inj hlog
    exact .inr (beginsNew_inserts hnew)
  | cons newest since =>
    obtain ⟨rfl, rfl⟩ := List.cons.inj hlog
    rcases h messageId since m older rfl hnew with ⟨p, hp, hdrops⟩ | hrow
    · exact .inl ⟨p, List.mem_cons_of_mem _ hp, hdrops⟩
    · obtain ⟨row, hrow⟩ := Option.isSome_iff_exists.mp hrow
      exact (take_keeps hcoherent hrow op).imp_left fun hdrops => ⟨_, List.mem_cons_self, hdrops⟩

structure PendingReport where
  messageId : String
  envelopeJson : String
  isCompleteSnapshot : Bool

def reportView (entry : String × ReportRow) : PendingReport := ⟨entry.1, entry.2.envelopeJson, entry.2.isCompleteSnapshot⟩

def LocalJournal.pendingRows (journal : LocalJournal Sha) : List PendingReport :=
  (journal.reports.entries.filter fun entry => !entry.2.acked).map reportView

/-- What a call does to the reports that are outstanding. -/
def outstandingAfter (host : JournalHost Sha) (before : LocalJournal Sha) (outstanding : List PendingReport) : Option JournalCall → List PendingReport
  | some (.addReport messageId envelopeJson _) => match classify host envelopeJson with
    | .ok kind => if before.reports.contains messageId then outstanding else outstanding ++ [⟨messageId, envelopeJson, kind.2⟩]
    | .error _ => outstanding
  | some (.acknowledgeReports messageIds) => outstanding.filter fun report => !(report.messageId ≠ "" && messageIds.contains report.messageId)
  | some .retirePendingFullSnapshots => outstanding.filter fun report => !report.isCompleteSnapshot
  | _ => outstanding

/-- The reports that were added and neither acknowledged nor retired since, in the order in which they were added. -/
def outstanding (host : JournalHost Sha) : List (JournalMoment Sha) → List PendingReport
  | [] => []
  | m :: earlier => outstandingAfter host m.before (outstanding host earlier) m.op

omit [DecidableEq Sha] in
theorem pendingRows_markAcked (journal : LocalJournal Sha) {p : String × ReportRow → Bool} {q : PendingReport → Bool}
    (hpq : ∀ entry, q (reportView entry) = p entry) : (journal.markAcked p).1.pendingRows = journal.pendingRows.filter fun report => !q report := by
  show ((journal.reports.entries.map fun entry => (entry.1, if !entry.2.acked && p entry then { entry.2 with acked := true } else entry.2)).filter
    fun entry => !entry.2.acked).map reportView = ((journal.reports.entries.filter fun entry => !entry.2.acked).map reportView).filter _
  rw [List.filter_map, List.map_map, List.filter_map, List.filter_filter]
  have hfilter : ∀ entry : String × ReportRow, (!(if !entry.2.acked && p entry then { entry.2 with acked := true } else entry.2).acked) =
      (!q (reportView entry) && !entry.2.acked) := by
    intro entry
    rw [hpq]
    cases hacked : entry.2.acked
    · cases p entry
      · simp [hacked]
      · simp
    · simp [hacked]
  refine (congrArg _ (List.filter_congr fun entry _ => hfilter entry)).trans ?_
  refine List.map_congr_left fun entry hentry => ?_
  -- What stays is not marked.
  have hkept := (Bool.and_eq_true_iff.mp (List.mem_filter.mp hentry).2).1
  rw [hpq, Bool.not_eq_true'] at hkept
  rw [Function.comp_apply, hkept, Bool.and_false]
  rfl

omit [DecidableEq Sha] in
theorem pendingRows_same (h : next.reports = journal.reports) : next.pendingRows = journal.pendingRows := by
  unfold LocalJournal.pendingRows
  rw [h]

theorem pendingRows_take (hcoherent : Coherent journal) (op : Option JournalCall) :
    (journal.take host op).pendingRows = outstandingAfter host journal journal.pendingRows op := by
  cases op with
  | none => exact pendingRows_same rfl
  | some call =>
    rw [take_some]
    cases call with
    | beginCommand id payload now =>
      refine pendingRows_same ?_
      show (journal.beginCommand host id payload now).1.reports = journal.reports
      rcases beginCommand_cases host journal id payload now with ⟨row, outcome, -, -, hnext⟩ | ⟨-, next, hnext, hsame, -⟩
      · rw [hnext]
      · rw [hnext]
        exact hsame.reports
    | completeCommand id result now => exact pendingRows_same (completeCommand_tables hcoherent host id result now).2
    | reconcileProcessingOrder clientOrderId raw now =>
      refine pendingRows_same ?_
      show (journal.reconcileProcessingOrder host clientOrderId raw now).1.reports = journal.reports
      rcases reconcileProcessingOrder_cases hcoherent host clientOrderId raw now with hnext | ⟨b, entry, result, -, -, -, hnext⟩
      · rw [hnext]
      · rw [hnext]
        rfl
    | reconcileProcessingCancel raw orderStatus now =>
      refine pendingRows_same ?_
      rw [call_reconcileProcessingCancel]
      rcases reconcileProcessingCancel_cases host journal raw orderStatus now with hnext | ⟨target, result, hnext⟩
      · rw [hnext]
      · rw [hnext]
    | addReport id envelopeJson now =>
      rcases addReport_cases host journal id envelopeJson now with ⟨message, hkind, hadd⟩ | ⟨kind, hkind, ⟨hthere, hadd⟩ | ⟨hnew, hadd⟩⟩
      · rw [call_addReport_error hadd]
        simp only [outstandingAfter, hkind]
      · rw [call_addReport_ok hadd]
        simp [outstandingAfter, hkind, hthere]
      · have hfree : journal.reports.contains id = false := by
          rw [Dict.contains, hnew]
          rfl
        rw [call_addReport_ok hadd]
        simp only [outstandingAfter, hkind, hfree, Bool.false_eq_true, ↓reduceIte]
        unfold LocalJournal.pendingRows
        rw [Dict.entries_set_new hnew, List.filter_append, List.map_append]
        rfl
    | acknowledgeReports messageIds =>
      have hcontains : ∀ id : String, ((messageIds.filter (· ≠ "")).dedup).contains id = (id ≠ "" && messageIds.contains id) := by
        intro id
        rw [Bool.eq_iff_iff]
        simp [and_comm]
      show (journal.acknowledgeReports messageIds).1.pendingRows =
        journal.pendingRows.filter fun report => !(report.messageId ≠ "" && messageIds.contains report.messageId)
      unfold LocalJournal.acknowledgeReports
      dsimp only
      split
      · rename_i hempty
        refine (List.filter_eq_self.mpr fun report _ => ?_).symm
        rw [← hcontains, hempty]
        rfl
      · exact pendingRows_markAcked journal fun entry => (hcontains entry.1).symm
    | retirePendingFullSnapshots => exact pendingRows_markAcked journal fun _ => rfl
    | prune retentionDays now =>
      show _ = journal.pendingRows
      cases hprune : journal.prune host retentionDays now with
      | error message => rw [call_prune_error hprune]
      | ok result =>
        obtain ⟨next, reports, deleted⟩ := result
        obtain ⟨-, hpruned, -⟩ := prune_ok hprune
        rw [call_prune_ok hprune]
        show (next.reports.entries.filter fun entry => !entry.2.acked).map reportView = _
        rw [hpruned.reports]
        show ((journal.reports.entries.filter fun entry => !staleReport _ entry).filter fun entry => !entry.2.acked).map reportView = _
        rw [List.filter_filter]
        unfold LocalJournal.pendingRows
        congr 1
        refine List.filter_congr fun entry _ => ?_
        -- What is pending is never stale.
        cases hacked : entry.2.acked <;> simp [staleReport, hacked]

/-! ## What the journal keeps -/

structure Journaled (host : JournalHost Sha) (log : List (JournalMoment Sha)) (journal : LocalJournal Sha) : Prop where
  once : NewOnce host log
  pending : ∀ limit, journal.pendingReports limit = limit.elim ((outstanding host log).map (·.envelopeJson)) fun n =>
    if n ≤ 0 then [] else ((outstanding host log).map (·.envelopeJson)).take n.toNat
  remark : ∀ orderRemark clientOrderId, journal.clientOrderIdForReport host .none orderRemark = some clientOrderId →
    orderRemark.toList = "qx:".toList ++ clientOrderId.toList.take 20 ∧ Known journal.commands clientOrderId ∧
      ∀ other, Known journal.commands other → remarkPrefix other = remarkPrefix clientOrderId → other = clientOrderId

omit [DecidableEq Sha] in
theorem Coherent.remark (h : Coherent journal) (orderRemark clientOrderId : String)
    (hresolved : journal.clientOrderIdForReport host .none orderRemark = some clientOrderId) :
    orderRemark.toList = "qx:".toList ++ clientOrderId.toList.take 20 ∧ Known journal.commands clientOrderId ∧
      ∀ other, Known journal.commands other → remarkPrefix other = remarkPrefix clientOrderId → other = clientOrderId := by
  unfold LocalJournal.clientOrderIdForReport at hresolved
  have hmapped : ((givenText host .none).bind journal.brokerToClient.get?).filter (· ≠ "") = none := rfl
  split at hresolved
  · rename_i hremark
    obtain ⟨hstart, -⟩ := Bool.and_eq_true_iff.mp hremark
    obtain ⟨rest, hrest⟩ := List.isPrefixOf_iff_prefix.mp hstart
    obtain ⟨⟨hknown, hprefix⟩, honly⟩ := (remark_join h.names _ _).mp hresolved
    have hdrop : clientOrderId.toList.take 20 = orderRemark.toList.drop 3 := by
      have htext := congrArg String.toList hprefix
      simpa [remarkPrefix] using htext
    refine ⟨?_, hknown, fun other hother hsame => honly other hother (hsame.trans hprefix)⟩
    rw [hdrop, ← hrest]
    rfl
  · cases hresolved

structure Kept (host : JournalHost Sha) (log : List (JournalMoment Sha)) (journal : LocalJournal Sha) : Prop where
  coherent : Coherent journal
  holds : Holds host log journal
  once : NewOnce host log
  rows : journal.pendingRows = outstanding host log

theorem Kept.take {log : List (JournalMoment Sha)} (h : Kept host log journal) (op : Option JournalCall) :
    Kept host (⟨journal, op, journal.take host op⟩ :: log) (journal.take host op) := by
  refine ⟨?_, h.holds.take h.coherent op, ⟨fun messageId hnew => ⟨beginsNew_free hnew, ?_⟩, h.once⟩, ?_⟩
  · cases op with
    | none => exact h.coherent.reopen
    | some call => exact h.coherent.step host call
  · -- A command that was new before has had a row, and has none now.
    intro since m' older hlog hbefore
    have hnone : journal.commands.get? messageId = none := beginsNew_free hnew
    rcases h.holds messageId since m' older hlog hbefore with hdropped | hrow
    · exact hdropped
    · rw [hnone] at hrow
      cases hrow
  · rw [pendingRows_take h.coherent op, h.rows]
    rfl

theorem Kept.journaled {log : List (JournalMoment Sha)} (h : Kept host log journal) : Journaled host log journal := by
  have hpending : journal.pendingReports none = (outstanding host log).map (·.envelopeJson) := by
    rw [pendingReports_eq h.coherent.counts, ← h.rows]
    unfold LocalJournal.pendingRows
    rw [List.map_map]
    rfl
  refine ⟨h.once, fun limit => ?_, h.coherent.remark⟩
  rw [pendingReports_limit, hpending]

theorem kept_run {log : List (JournalMoment Sha)} (h : Run (· = {}) (LocalJournal.take host) (fun _ _ _ => True) log journal) :
    Kept host log journal := by
  refine h.invariant (Kept host) ?_ fun log journal op hkept _ => hkept.take op
  rintro journal rfl
  refine ⟨coherent_empty, fun messageId since m older hlog => ?_, trivial, rfl⟩
  exact absurd hlog.symm (List.append_ne_nil_of_right_ne_nil since (List.cons_ne_nil m older))

/-- Faithful calls are answered as if the journal had never been closed, and every history is journaled. -/
theorem journal_restarts (host : JournalHost Sha) (entries : List (Option JournalCall)) (hfaithful : FaithfulSession host {} entries) :
    (LocalJournal.session host {} entries).2 = (LocalJournal.session host {} (entries.filter (·.isSome))).2 ∧
      Indistinguishable host (LocalJournal.session host {} entries).1 (LocalJournal.session host {} (entries.filter (·.isSome))).1 ∧
        Journaled host (play (LocalJournal.take host) {} entries).1 (play (LocalJournal.take host) {} entries).2 := by
  obtain ⟨hanswers, hfinal⟩ := session_alike entries (AlikeTables.refl {}) coherent_empty coherent_empty correlated_empty correlated_empty hfaithful
  have hrun : Run (· = {}) (LocalJournal.take host) (fun _ _ _ => True) (play (LocalJournal.take host) {} entries).1
      (play (LocalJournal.take host) {} entries).2 := @Run.of_play _ _ (· = {}) (LocalJournal.take host) {} rfl entries
  exact ⟨hanswers.symm, hfinal, (kept_run hrun).journaled⟩

/-- A host for examples: digests tell nothing apart, and rows and sets keep their order. -/
def plainJournalHost : JournalHost Unit where
  payloadHash := fun _ => ()
  str := PyVal.pyStr
  loads := fun _ => none
  scan := id
  scan_perm := fun _ => .refl _
  iterate := id
  iterate_perm := fun _ => .refl _

/-- A placement that completes with its broker order, a report, and a restart. -/
theorem journal_restarts_places : ∃ entries, none ∈ entries ∧
    (LocalJournal.session plainJournalHost {} entries).1.brokerOrderClientIds.get? "1001" = some "c1" ∧
      Indistinguishable plainJournalHost (LocalJournal.session plainJournalHost {} entries).1
        (LocalJournal.session plainJournalHost {} (entries.filter (·.isSome))).1 := by
  have hfaithful : FaithfulSession plainJournalHost {} [some (.beginCommand "m1" [("client_order_id", .str "c1")] 0), none,
      some (.completeCommand "m1" [("broker_order_id", .str "1001")] 1), some (.addReport "r1" "filled" 2), none] := by
    refine ⟨trivial, ⟨fun b row c _ hrow _ => ⟨?_, .inl ?_⟩, trivial, trivial⟩⟩
    · rintro other ⟨row', hrow', hpair⟩
      obtain rfl := List.mem_singleton.mp hrow'
      cases hpair
    · obtain rfl := Option.some.inj hrow
      rfl
  exact ⟨_, by simp, by decide, (journal_restarts plainJournalHost _ hfaithful).2.1⟩

/-- A cancel that a snapshot has resolved returns: its broker order is published, and the row does not record it. -/
theorem journal_restart_forgets : ¬ ∀ entries : List (Option JournalCall),
    Indistinguishable plainJournalHost (LocalJournal.session plainJournalHost {} entries).1
      (LocalJournal.session plainJournalHost {} (entries.filter (·.isSome))).1 := by
  intro hall
  have hforgets := (hall [some (.beginCommand "m1" [("command_kind", .str "CANCEL_ORDER"), ("client_order_id", .str "c1"),
    ("broker_order_id", .str "1001")] 0), some (.reconcileProcessingCancel (.str "1001") "CANCELLED" 1),
    some (.completeCommand "m1" [("broker_order_id", .str "1001")] 2), none]).brokerOrderClientIds "1001"
  revert hforgets
  decide

end QuantX
