import QuantX.Theorems.LocalJournal.Steps

/-! # Restarts

Two journals with the same commands and, numbers apart, the same reports give the same answers as long as both are coherent
and correlated. -/

namespace QuantX
open Lib LocalJournal

variable {Sha : Type} [DecidableEq Sha] {host : JournalHost Sha} {journal other next : LocalJournal Sha}
  {commands : Dict String (CommandRow Sha)} {messageId : String} {now : Int} {result : JsonObject} {row : CommandRow Sha} {b c : String}
  {call : JournalCall}

def Recordable (commands : Dict String (CommandRow Sha)) (brokerOrderId clientOrderId : String) : Prop :=
  ∀ other, Bound commands brokerOrderId other → other = clientOrderId

/-- A completion names a broker order that its row takes or that is recorded for its client order; and no call names one
    that is recorded for another client order. -/
def Faithful (host : JournalHost Sha) (journal : LocalJournal Sha) : JournalCall → Prop
  | .completeCommand messageId result _ => ∀ b row c, givenText host (PyVal.get result "broker_order_id") = some b →
    journal.commands.get? messageId = some row → clientOf row = some c →
      Recordable journal.commands b c ∧ (row.status = .processing ∨ Bound journal.commands b c)
  | .reconcileProcessingOrder clientOrderId brokerOrderId _ => ∀ b, givenText host brokerOrderId = some b →
    (journal.oldestPlacement clientOrderId).isSome → Recordable journal.commands b clientOrderId
  | _ => True

omit [DecidableEq Sha] in
theorem Faithful.congr (h : Faithful host journal call) (hsame : other.commands = journal.commands) : Faithful host other call := by
  cases call with
  | completeCommand messageId result now =>
    intro b row c
    rw [hsame]
    exact h b row c
  | reconcileProcessingOrder clientOrderId brokerOrderId now =>
    intro b
    unfold LocalJournal.oldestPlacement
    rw [hsame]
    exact h b
  | _ => exact trivial

omit [DecidableEq Sha] in
theorem bound_settled (hrow : journal.commands.get? messageId = some row) (hunset : row.status = .processing → row.brokerOrderId = none)
    (broker : Option String) : Bound (journal.settled messageId result broker now).commands b c ↔
      Bound journal.commands b c ∨ row.status = .processing ∧ broker = some b ∧ clientOf row = some c := by
  have hpair : brokerPair (completeRow result broker now row) = some (b, c) ↔
      brokerPair row = some (b, c) ∨ row.status = .processing ∧ broker = some b ∧ clientOf row = some c := by
    rw [brokerPair_eq_some, brokerPair_eq_some, clientOf_completeRow]
    unfold LocalJournal.completeRow
    split
    · rename_i hstatus
      simp [hunset hstatus, hstatus]
    · rename_i hstatus
      simp [hstatus]
  constructor
  · rintro ⟨other, hmem, hother⟩
    rcases mem_values_modify.mp hmem with ⟨id, -, hget⟩ | ⟨old, hold, rfl⟩
    · exact .inl ⟨other, Dict.mem_values.mpr ⟨id, hget⟩, hother⟩
    · obtain rfl := Option.some.inj (hrow.symm.trans hold)
      exact (hpair.mp hother).imp_left fun h => ⟨row, Dict.mem_values.mpr ⟨messageId, hrow⟩, h⟩
  · rintro (⟨other, hmem, hother⟩ | hnew)
    · obtain ⟨id, hget⟩ := Dict.mem_values.mp hmem
      by_cases hid : id = messageId
      · subst hid
        obtain rfl := Option.some.inj (hrow.symm.trans hget)
        exact ⟨_, mem_values_modify.mpr (.inr ⟨row, hrow, rfl⟩), hpair.mpr (.inl hother)⟩
      · exact ⟨other, mem_values_modify.mpr (.inl ⟨id, hid, hget⟩), hother⟩
    · exact ⟨_, mem_values_modify.mpr (.inr ⟨row, hrow, rfl⟩), hpair.mpr (.inr hnew)⟩

omit [DecidableEq Sha] in
theorem Correlated.bind (h : Correlated journal) (hrow : journal.commands.get? messageId = some row)
    (hunset : row.status = .processing → row.brokerOrderId = none) (hclient : clientOf row = some c)
    (hrecordable : Recordable journal.commands b c) (hrecorded : row.status = .processing ∨ Bound journal.commands b c) :
    Correlated ((journal.settled messageId result (some b) now).publishBrokerOrderId b c) := by
  intro b' c'
  show (journal.brokerToClient.set b c).get? b' = some c' ↔ Bound (journal.settled messageId result (some b) now).commands b' c'
  rw [bound_settled hrow hunset, Dict.get?_set]
  split
  · rename_i hb
    subst hb
    constructor
    · intro hc
      obtain rfl := Option.some.inj hc
      rcases hrecorded with hstatus | hbound
      · exact .inr ⟨hstatus, rfl, hclient⟩
      · exact .inl hbound
    · rintro (hbound | ⟨-, -, hc⟩)
      · rw [hrecordable c' hbound]
      · rw [← hclient, hc]
  · rename_i hb
    rw [h]
    refine (or_iff_left ?_).symm
    rintro ⟨-, hb', -⟩
    exact hb (Option.some.inj hb')

omit [DecidableEq Sha] in
theorem Correlated.congr (h : Correlated journal) (hbrokers : next.brokerToClient = journal.brokerToClient)
    (hbound : ∀ b c, Bound next.commands b c ↔ Bound journal.commands b c) : Correlated next := by
  intro b c
  rw [hbrokers, h, hbound]

omit [DecidableEq Sha] in
theorem Correlated.completeCommand (hcoherent : Coherent journal) (h : Correlated journal)
    (hfaithful : Faithful host journal (.completeCommand messageId result now)) :
    Correlated (journal.completeCommand host messageId result now) := by
  rcases completeCommand_cases hcoherent host messageId result now with ⟨hnext, hquiet⟩ | ⟨b, c, row, hb, hrow, hc, hnext⟩
  · rw [hnext]
    refine h.congr rfl fun b c => ?_
    cases hrow : journal.commands.get? messageId with
    | none =>
      show Bound (journal.commands.modify messageId _) b c ↔ _
      rw [modify_none hrow]
    | some row =>
      rw [bound_settled hrow (hcoherent.unset row (Dict.mem_values.mpr ⟨messageId, hrow⟩))]
      refine or_iff_left ?_
      rintro ⟨-, hb, hc⟩
      rw [hquiet b row hb hrow] at hc
      cases hc
  · rw [hnext]
    obtain ⟨hrecordable, hrecorded⟩ := hfaithful b row c hb hrow hc
    exact h.bind hrow (hcoherent.unset row (Dict.mem_values.mpr ⟨messageId, hrow⟩)) hc hrecordable hrecorded

omit [DecidableEq Sha] in
theorem Correlated.reconcileProcessingOrder {clientOrderId : String} {raw : PyVal} (hcoherent : Coherent journal) (h : Correlated journal)
    (hfaithful : Faithful host journal (.reconcileProcessingOrder clientOrderId raw now)) :
    Correlated (journal.reconcileProcessingOrder host clientOrderId raw now).1 := by
  rcases reconcileProcessingOrder_cases hcoherent host clientOrderId raw now with hnext | ⟨b, entry, result, hb, hne, hentry, hnext⟩
  · rw [hnext]
    exact h
  · rw [hnext]
    obtain ⟨hrow, hstatus, hclient⟩ := oldestPlacement_some hentry
    refine h.bind hrow (hcoherent.unset _ (Dict.mem_values.mpr ⟨entry.1, hrow⟩)) ?_ (hfaithful b hb (by rw [hentry]; rfl)) (.inl hstatus)
    simp [LocalJournal.clientOf, hclient, hne]

omit [DecidableEq Sha] in
theorem Correlated.prune {retentionDays : Int} {reports deleted : Nat} (h : Correlated journal)
    (hnext : journal.prune host retentionDays now = .ok (next, reports, deleted)) : Correlated next := by
  obtain ⟨-, hpruned, -, -, -, hcorrelated⟩ := prune_ok hnext
  have hbound : ∀ b c, Bound next.commands b c → Bound journal.commands b c := by
    rintro b c ⟨row, hrow, hpair⟩
    rw [hpruned.commands] at hrow
    exact ⟨row, mem_values_filter hrow, hpair⟩
  exact hcorrelated fun b c c' hc hc' => h.functional b c c' (hbound b c hc) (hbound b c' hc')

theorem call_addReport_ok {envelopeJson : String} (h : journal.addReport host messageId envelopeJson now = .ok next) :
    journal.call host (.addReport messageId envelopeJson now) = (next, .done) := by
  simp only [LocalJournal.call, h]

theorem call_addReport_error {envelopeJson message : String} (h : journal.addReport host messageId envelopeJson now = .error message) :
    journal.call host (.addReport messageId envelopeJson now) = (journal, .raised message) := by
  simp only [LocalJournal.call, h]

theorem call_reconcileProcessingCancel (raw : PyVal) (orderStatus : String) (now : Int) :
    journal.call host (.reconcileProcessingCancel raw orderStatus now) =
      ((journal.reconcileProcessingCancel host raw orderStatus now).1,
        .resolved (journal.reconcileProcessingCancel host raw orderStatus now).2) := by
  simp [LocalJournal.call, Prod.map]

theorem call_prune_ok {retentionDays : Int} {reports deleted : Nat}
    (h : journal.prune host retentionDays now = .ok (next, reports, deleted)) :
    journal.call host (.prune retentionDays now) = (next, .pruned reports deleted) := by
  simp only [LocalJournal.call, h]

theorem call_prune_error {retentionDays : Int} {message : String} (h : journal.prune host retentionDays now = .error message) :
    journal.call host (.prune retentionDays now) = (journal, .raised message) := by
  simp only [LocalJournal.call, h]

theorem Coherent.step (h : Coherent journal) (host : JournalHost Sha) (call : JournalCall) : Coherent (journal.call host call).1 := by
  cases call with
  | beginCommand messageId payload now => exact h.beginCommand messageId payload now
  | completeCommand messageId result now => exact h.completeCommand messageId result now
  | reconcileProcessingOrder clientOrderId brokerOrderId now => exact h.reconcileProcessingOrder clientOrderId brokerOrderId now
  | reconcileProcessingCancel brokerOrderId orderStatus now =>
    rw [call_reconcileProcessingCancel]
    exact h.reconcileProcessingCancel brokerOrderId orderStatus now
  | addReport messageId envelopeJson now =>
    cases hadd : journal.addReport host messageId envelopeJson now with
    | error message =>
      rw [call_addReport_error hadd]
      exact h
    | ok next =>
      rw [call_addReport_ok hadd]
      exact h.addReport hadd
  | acknowledgeReports messageIds =>
    show Coherent (journal.acknowledgeReports messageIds).1
    unfold LocalJournal.acknowledgeReports
    dsimp only
    split
    · exact h
    · exact h.markAcked _
  | retirePendingFullSnapshots => exact h.markAcked _
  | prune retentionDays now =>
    cases hprune : journal.prune host retentionDays now with
    | error message =>
      rw [call_prune_error hprune]
      exact h
    | ok result =>
      obtain ⟨next, reports, deleted⟩ := result
      rw [call_prune_ok hprune]
      exact h.prune hprune

theorem Correlated.step (hcoherent : Coherent journal) (h : Correlated journal) (hfaithful : Faithful host journal call) :
    Correlated (journal.call host call).1 := by
  cases call with
  | beginCommand messageId payload now =>
    show Correlated (journal.beginCommand host messageId payload now).1
    rcases beginCommand_cases host journal messageId payload now with ⟨row, outcome, -, -, hnext⟩ | ⟨hnew, next, hnext, hsame, hbrokers, -⟩
    · rw [hnext]
      exact h
    · rw [hnext]
      refine h.congr hbrokers fun b c => ?_
      rw [hsame.commands]
      exact bound_set_new hnew rfl
  | completeCommand messageId result now => exact h.completeCommand hcoherent hfaithful
  | reconcileProcessingOrder clientOrderId brokerOrderId now => exact h.reconcileProcessingOrder hcoherent hfaithful
  | reconcileProcessingCancel brokerOrderId orderStatus now =>
    rw [call_reconcileProcessingCancel]
    rcases reconcileProcessingCancel_cases host journal brokerOrderId orderStatus now with hnext | ⟨target, result, hnext⟩
    · rw [hnext]
      exact h
    · rw [hnext]
      exact h.congr rfl fun b c => exists_values_map fun row => by rw [(cancelRow_orders target result now row).2]
  | addReport messageId envelopeJson now =>
    rcases addReport_cases host journal messageId envelopeJson now with ⟨message, -, hadd⟩ | ⟨kind, -, ⟨-, hadd⟩ | ⟨-, hadd⟩⟩
    · rw [call_addReport_error hadd]
      exact h
    · rw [call_addReport_ok hadd]
      exact h
    · rw [call_addReport_ok hadd]
      exact h.congr rfl fun _ _ => Iff.rfl
  | acknowledgeReports messageIds =>
    show Correlated (journal.acknowledgeReports messageIds).1
    unfold LocalJournal.acknowledgeReports
    dsimp only
    split
    · exact h
    · exact h.congr rfl fun _ _ => Iff.rfl
  | retirePendingFullSnapshots => exact h.congr rfl fun _ _ => Iff.rfl
  | prune retentionDays now =>
    cases hprune : journal.prune host retentionDays now with
    | error message =>
      rw [call_prune_error hprune]
      exact h
    | ok result =>
      obtain ⟨next, reports, deleted⟩ := result
      rw [call_prune_ok hprune]
      exact h.prune hprune

/-! ## AlikeTables journals -/

def numberless (entry : String × ReportRow) : String × ReportRow := (entry.1, { entry.2 with sequenceId := 0 })

structure AlikeTables (journal other : LocalJournal Sha) : Prop where
  commands : other.commands = journal.commands
  reports : other.reports.entries.map numberless = journal.reports.entries.map numberless

omit [DecidableEq Sha] in
theorem AlikeTables.refl (journal : LocalJournal Sha) : AlikeTables journal journal := ⟨rfl, rfl⟩

omit [DecidableEq Sha] in
theorem AlikeTables.keys (h : AlikeTables journal other) : other.reports.entries.map Prod.fst = journal.reports.entries.map Prod.fst := by
  have hkeys := congrArg (List.map Prod.fst) h.reports
  rw [List.map_map, List.map_map] at hkeys
  exact hkeys

omit [DecidableEq Sha] in
theorem AlikeTables.filter (h : AlikeTables journal other) {p : String × ReportRow → Bool} (hp : ∀ entry, p (numberless entry) = p entry) :
    (other.reports.entries.filter p).map numberless = (journal.reports.entries.filter p).map numberless := by
  have hfilter : ∀ entries : List (String × ReportRow), (entries.filter p).map numberless = (entries.map numberless).filter p := by
    intro entries
    rw [List.filter_map]
    congr 1
    exact List.filter_congr fun entry _ => (hp entry).symm
  rw [hfilter, hfilter, h.reports]

omit [DecidableEq Sha] in
theorem AlikeTables.length_filter (h : AlikeTables journal other) {p : String × ReportRow → Bool} (hp : ∀ entry, p (numberless entry) = p entry) :
    (other.reports.entries.filter p).length = (journal.reports.entries.filter p).length := by
  have hlength := congrArg List.length (h.filter hp)
  rw [List.length_map, List.length_map] at hlength
  exact hlength

omit [DecidableEq Sha] in
theorem AlikeTables.get?_none (h : AlikeTables journal other) : other.reports.get? messageId = none ↔ journal.reports.get? messageId = none := by
  unfold Dict.get?
  rw [Dict.lookup_eq_none, Dict.lookup_eq_none, h.keys]

omit [DecidableEq Sha] in
theorem AlikeTables.markAcked (h : AlikeTables journal other) {p : String × ReportRow → Bool} (hp : ∀ entry, p (numberless entry) = p entry) :
    (other.markAcked p).2 = (journal.markAcked p).2 ∧ AlikeTables (journal.markAcked p).1 (other.markAcked p).1 := by
  have hmark : ∀ journal : LocalJournal Sha, (journal.markAcked p).1.reports.entries.map numberless =
      (journal.reports.entries.map numberless).map fun entry =>
        (entry.1, if !entry.2.acked && p entry then { entry.2 with acked := true } else entry.2) := by
    intro journal
    show (journal.reports.entries.map _).map numberless = _
    rw [List.map_map, List.map_map]
    refine List.map_congr_left fun entry _ => ?_
    show numberless (entry.1, _) = ((numberless entry).1, _)
    rw [hp]
    by_cases hmarked : (!entry.2.acked && p entry) = true
    · simp [numberless, hmarked]
    · simp [numberless, hmarked]
  refine ⟨h.length_filter fun entry => ?_, h.commands, ?_⟩
  · rw [hp]
    rfl
  · rw [hmark, hmark, h.reports]

omit [DecidableEq Sha] in
theorem completeCommand_tables (hcoherent : Coherent journal) (host : JournalHost Sha) (messageId : String) (result : JsonObject) (now : Int) :
    (journal.completeCommand host messageId result now).commands =
        journal.commands.modify messageId (completeRow result (givenText host (PyVal.get result "broker_order_id")) now) ∧
      (journal.completeCommand host messageId result now).reports = journal.reports := by
  rcases completeCommand_cases hcoherent host messageId result now with ⟨hnext, -⟩ | ⟨b, c, row, hb, -, -, hnext⟩
  · rw [hnext]
    exact ⟨rfl, rfl⟩
  · rw [hnext, hb]
    exact ⟨rfl, rfl⟩

theorem AlikeTables.beginCommand (h : AlikeTables journal other) (messageId : String) (payload : JsonObject) (now : Int) :
    (other.beginCommand host messageId payload now).2 = (journal.beginCommand host messageId payload now).2 ∧
      AlikeTables (journal.beginCommand host messageId payload now).1 (other.beginCommand host messageId payload now).1 := by
  cases hget : journal.commands.get? messageId with
  | some row =>
    have hanswer : ∃ outcome, journal.beginCommand host messageId payload now = (journal, outcome) ∧
        other.beginCommand host messageId payload now = (other, outcome) := by
      unfold LocalJournal.beginCommand
      rw [h.commands, hget]
      dsimp only
      split
      · exact ⟨_, rfl, rfl⟩
      · split
        · exact ⟨_, rfl, rfl⟩
        · exact ⟨_, rfl, rfl⟩
    obtain ⟨outcome, hnext, hnext'⟩ := hanswer
    rw [hnext, hnext']
    exact ⟨rfl, h⟩
  | none =>
    rcases beginCommand_cases host journal messageId payload now with ⟨row, -, hrow, -⟩ | ⟨-, next, hnext, hsame, -⟩
    · rw [hget] at hrow
      cases hrow
    · rcases beginCommand_cases host other messageId payload now with ⟨row, -, hrow, -⟩ | ⟨-, next', hnext', hsame', -⟩
      · rw [h.commands, hget] at hrow
        cases hrow
      · rw [hnext, hnext']
        refine ⟨rfl, ?_, ?_⟩
        · rw [hsame.commands, hsame'.commands]
          show other.commands.set messageId _ = journal.commands.set messageId _
          rw [h.commands]
        · rw [hsame.reports, hsame'.reports]
          exact h.reports

omit [DecidableEq Sha] in
theorem AlikeTables.completeCommand (h : AlikeTables journal other) (hjournal : Coherent journal) (hother : Coherent other) (messageId : String)
    (result : JsonObject) (now : Int) :
    AlikeTables (journal.completeCommand host messageId result now) (other.completeCommand host messageId result now) := by
  obtain ⟨hcommands, hreports⟩ := completeCommand_tables hjournal host messageId result now
  obtain ⟨hcommands', hreports'⟩ := completeCommand_tables hother host messageId result now
  refine ⟨?_, ?_⟩
  · rw [hcommands, hcommands', h.commands]
  · rw [hreports, hreports', h.reports]

omit [DecidableEq Sha] in
theorem AlikeTables.reconcileProcessingOrder (h : AlikeTables journal other) (clientOrderId : String) (raw : PyVal) (now : Int) :
    (other.reconcileProcessingOrder host clientOrderId raw now).2 = (journal.reconcileProcessingOrder host clientOrderId raw now).2 ∧
      AlikeTables (journal.reconcileProcessingOrder host clientOrderId raw now).1 (other.reconcileProcessingOrder host clientOrderId raw now).1 := by
  have holdest : other.oldestPlacement clientOrderId = journal.oldestPlacement clientOrderId := by
    unfold LocalJournal.oldestPlacement
    rw [h.commands]
  unfold LocalJournal.reconcileProcessingOrder
  rw [holdest]
  split
  · exact ⟨rfl, h⟩
  · split
    · exact ⟨rfl, h⟩
    · split
      · exact ⟨rfl, h⟩
      · refine ⟨rfl, ?_, ?_⟩
        · show (publishClientOrderId _ clientOrderId).commands = (publishClientOrderId _ clientOrderId).commands
          rw [(publishClientOrderId_same _ clientOrderId).commands, (publishClientOrderId_same _ clientOrderId).commands]
          rw [h.commands]
        · show (publishClientOrderId _ clientOrderId).reports.entries.map numberless =
            (publishClientOrderId _ clientOrderId).reports.entries.map numberless
          rw [(publishClientOrderId_same _ clientOrderId).reports, (publishClientOrderId_same _ clientOrderId).reports]
          exact h.reports

omit [DecidableEq Sha] in
theorem AlikeTables.reconcileProcessingCancel (h : AlikeTables journal other) (raw : PyVal) (orderStatus : String) (now : Int) :
    (other.reconcileProcessingCancel host raw orderStatus now).2 = (journal.reconcileProcessingCancel host raw orderStatus now).2 ∧
      AlikeTables (journal.reconcileProcessingCancel host raw orderStatus now).1 (other.reconcileProcessingCancel host raw orderStatus now).1 := by
  unfold LocalJournal.reconcileProcessingCancel
  dsimp only
  split
  · exact ⟨rfl, h⟩
  · rw [h.commands]
    exact ⟨rfl, rfl, h.reports⟩

theorem AlikeTables.addReport (h : AlikeTables journal other) (messageId envelopeJson : String) (now : Int) :
    (other.call host (.addReport messageId envelopeJson now)).2 = (journal.call host (.addReport messageId envelopeJson now)).2 ∧
      AlikeTables (journal.call host (.addReport messageId envelopeJson now)).1 (other.call host (.addReport messageId envelopeJson now)).1 := by
  rcases addReport_cases host journal messageId envelopeJson now with ⟨message, hkind, hadd⟩ | ⟨kind, hkind, ⟨hthere, hadd⟩ | ⟨hnew, hadd⟩⟩
  · have hadd' : other.addReport host messageId envelopeJson now = .error message := by
      unfold LocalJournal.addReport
      rw [hkind]
      rfl
    rw [call_addReport_error hadd, call_addReport_error hadd']
    exact ⟨rfl, h⟩
  · have hthere' : other.reports.contains messageId = true := by
      unfold Dict.contains at hthere ⊢
      rw [Option.isSome_iff_ne_none] at hthere ⊢
      exact mt h.get?_none.mp hthere
    have hadd' : other.addReport host messageId envelopeJson now = .ok other := by
      unfold LocalJournal.addReport
      rw [hkind]
      exact if_pos hthere'
    rw [call_addReport_ok hadd, call_addReport_ok hadd']
    exact ⟨rfl, h⟩
  · have hnew' := h.get?_none.mpr hnew
    rcases addReport_cases host other messageId envelopeJson now with ⟨message, hkind', -⟩ | ⟨kind', hkind', ⟨hthere, -⟩ | ⟨-, hadd'⟩⟩
    · rw [hkind] at hkind'
      cases hkind'
    · rw [Dict.contains, hnew'] at hthere
      cases hthere
    · rw [hkind] at hkind'
      obtain rfl := Except.ok.inj hkind'
      rw [call_addReport_ok hadd, call_addReport_ok hadd']
      refine ⟨rfl, h.commands, ?_⟩
      rw [Dict.entries_set_new hnew, Dict.entries_set_new hnew', List.map_append, List.map_append, h.reports]
      rfl

omit [DecidableEq Sha] in
theorem AlikeTables.acknowledgeReports (h : AlikeTables journal other) (messageIds : List String) :
    (other.acknowledgeReports messageIds).2 = (journal.acknowledgeReports messageIds).2 ∧
      AlikeTables (journal.acknowledgeReports messageIds).1 (other.acknowledgeReports messageIds).1 := by
  unfold LocalJournal.acknowledgeReports
  dsimp only
  split
  · exact ⟨rfl, h⟩
  · exact h.markAcked fun _ => rfl

theorem AlikeTables.prune (h : AlikeTables journal other) (retentionDays now : Int) :
    (other.call host (.prune retentionDays now)).2 = (journal.call host (.prune retentionDays now)).2 ∧
      AlikeTables (journal.call host (.prune retentionDays now)).1 (other.call host (.prune retentionDays now)).1 := by
  cases hprune : journal.prune host retentionDays now with
  | error message =>
    have hprune' : other.prune host retentionDays now = .error message := by
      unfold LocalJournal.prune at hprune ⊢
      split at hprune
      · rename_i hdays
        rw [if_pos hdays, ← hprune]
      · cases hprune
    rw [call_prune_error hprune, call_prune_error hprune']
    exact ⟨rfl, h⟩
  | ok result =>
    obtain ⟨next, reports, deleted⟩ := result
    obtain ⟨hdays, hpruned, rfl, rfl, -⟩ := prune_ok hprune
    cases hprune' : other.prune host retentionDays now with
    | error message =>
      unfold LocalJournal.prune at hprune'
      rw [if_neg (not_lt.mpr hdays)] at hprune'
      cases hprune'
    | ok result' =>
      obtain ⟨next', reports', deleted'⟩ := result'
      obtain ⟨-, hpruned', rfl, rfl, -⟩ := prune_ok hprune'
      rw [call_prune_ok hprune, call_prune_ok hprune']
      refine ⟨?_, ?_, ?_⟩
      · dsimp only
        rw [h.commands, h.length_filter fun _ => rfl]
      · show next'.commands = next.commands
        rw [hpruned.commands, hpruned'.commands, h.commands]
      · show next'.reports.entries.map numberless = next.reports.entries.map numberless
        rw [hpruned.reports, hpruned'.reports]
        exact h.filter fun _ => rfl

theorem AlikeTables.step (h : AlikeTables journal other) (hjournal : Coherent journal) (hother : Coherent other) (host : JournalHost Sha)
    (call : JournalCall) :
    (other.call host call).2 = (journal.call host call).2 ∧ AlikeTables (journal.call host call).1 (other.call host call).1 := by
  cases call with
  | beginCommand messageId payload now => exact (h.beginCommand messageId payload now).imp_left (congrArg JournalAnswer.begun)
  | completeCommand messageId result now => exact ⟨rfl, h.completeCommand hjournal hother messageId result now⟩
  | reconcileProcessingOrder clientOrderId raw now =>
    exact (h.reconcileProcessingOrder clientOrderId raw now).imp_left (congrArg JournalAnswer.resolved)
  | reconcileProcessingCancel raw orderStatus now =>
    rw [call_reconcileProcessingCancel, call_reconcileProcessingCancel]
    exact (h.reconcileProcessingCancel raw orderStatus now).imp_left (congrArg JournalAnswer.resolved)
  | addReport messageId envelopeJson now => exact h.addReport messageId envelopeJson now
  | acknowledgeReports messageIds => exact (h.acknowledgeReports messageIds).imp_left (congrArg JournalAnswer.marked)
  | retirePendingFullSnapshots =>
    have hmarked := h.markAcked (p := (·.2.isCompleteSnapshot)) fun _ => rfl
    exact hmarked.imp_left (congrArg JournalAnswer.marked)
  | prune retentionDays now => exact h.prune retentionDays now

end QuantX
