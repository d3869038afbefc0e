import QuantX.Theorems.LocalJournal.Restart

/-! # A restart is not seen

What a journal can be asked depends on its tables alone, so that faithful calls with restarts anywhere among them are
answered as the same calls without. -/

namespace QuantX
open Lib LocalJournal

variable {Sha : Type} {host : JournalHost Sha} {journal other : LocalJournal Sha}

structure Indistinguishable (host : JournalHost Sha) (journal other : LocalJournal Sha) : Prop where
  pendingReports : ∀ limit, other.pendingReports limit = journal.pendingReports limit
  stats : other.stats = journal.stats
  brokerOrderClientIds : ∀ brokerOrderId, other.brokerOrderClientIds.get? brokerOrderId = journal.brokerOrderClientIds.get? brokerOrderId
  clientOrderIdForReport : ∀ brokerOrderId orderRemark,
    other.clientOrderIdForReport host brokerOrderId orderRemark = journal.clientOrderIdForReport host brokerOrderId orderRemark

theorem pendingReports_eq (h : Counts journal) :
    journal.pendingReports none = (journal.reports.entries.filter fun entry => !entry.2.acked).map (·.2.envelopeJson) := by
  have hsorted : (journal.reports.values.filter fun row => !row.acked).Pairwise fun a b => decide (a.sequenceId ≤ b.sequenceId) = true := by
    refine ((List.pairwise_map.mp h.numbered).sublist List.filter_sublist).imp ?_
    intro a b hab
    exact decide_eq_true (Nat.le_of_lt hab)
  unfold LocalJournal.pendingReports
  rw [List.mergeSort_of_pairwise hsorted]
  unfold Dict.values
  rw [List.filter_map, List.map_map]
  rfl

theorem pendingReports_limit (journal : LocalJournal Sha) (limit : Option Int) : journal.pendingReports limit =
    limit.elim (journal.pendingReports none) fun n => if n ≤ 0 then [] else (journal.pendingReports none).take n.toNat := by
  cases limit with
  | none => rfl
  | some n => rfl

theorem AlikeTables.pendingReports (h : AlikeTables journal other) (hjournal : Counts journal) (hother : Counts other) (limit : Option Int) :
    other.pendingReports limit = journal.pendingReports limit := by
  have hnone : other.pendingReports none = journal.pendingReports none := by
    rw [pendingReports_eq hjournal, pendingReports_eq hother]
    have hfilter := congrArg (List.map (·.2.envelopeJson)) (h.filter (p := fun entry => !entry.2.acked) fun _ => rfl)
    rw [List.map_map, List.map_map] at hfilter
    exact hfilter
  rw [pendingReports_limit, pendingReports_limit journal, hnone]

theorem AlikeTables.stats (h : AlikeTables journal other) (hjournal : Counts journal) (hother : Counts other) : other.stats = journal.stats := by
  have hreports : other.reports.values.length = journal.reports.values.length := by
    have hlength := congrArg List.length h.keys
    rw [List.length_map, List.length_map] at hlength
    rw [Dict.values, Dict.values, List.length_map, List.length_map, hlength]
  have hpending : (other.reports.values.filter fun row => !row.acked).length = (journal.reports.values.filter fun row => !row.acked).length := by
    rw [length_filter_entries, length_filter_entries]
    exact h.length_filter fun _ => rfl
  unfold LocalJournal.stats
  rw [hother.reports, hother.pending, hother.commands, hother.processing, hjournal.reports, hjournal.pending, hjournal.commands,
    hjournal.processing, h.commands, hreports, hpending]

theorem AlikeTables.brokers (h : AlikeTables journal other) (hjournal : Correlated journal) (hother : Correlated other) (brokerOrderId : String) :
    other.brokerToClient.get? brokerOrderId = journal.brokerToClient.get? brokerOrderId := by
  ext c
  rw [hother, hjournal, h.commands]

theorem remark_join {known : String → Prop} (h : Names journal known) (remark clientOrderId : String) :
    (journal.remarkPrefixToClient.get? remark).join = some clientOrderId ↔
      (known clientOrderId ∧ remarkPrefix clientOrderId = remark) ∧ ∀ c, known c → remarkPrefix c = remark → c = clientOrderId := by
  rw [Option.join_eq_some_iff, h.remarks.unique]

theorem AlikeTables.indistinguishable (h : AlikeTables journal other) (hjournal : Coherent journal) (hother : Coherent other)
    (hcorrelated : Correlated journal) (hcorrelated' : Correlated other) : Indistinguishable host journal other := by
  refine ⟨h.pendingReports hjournal.counts hother.counts, h.stats hjournal.counts hother.counts, h.brokers hcorrelated hcorrelated', ?_⟩
  intro raw remark
  have hget : other.brokerToClient.get? = journal.brokerToClient.get? := funext (h.brokers hcorrelated hcorrelated')
  have hjoin : ∀ remark, (other.remarkPrefixToClient.get? remark).join = (journal.remarkPrefixToClient.get? remark).join := by
    intro remark
    ext c
    rw [remark_join hother.names, remark_join hjournal.names, h.commands]
  unfold LocalJournal.clientOrderIdForReport
  rw [hget, hjoin]

variable [DecidableEq Sha]

/-- Calls and restarts (`none`), with the answers to the calls. -/
def LocalJournal.session (host : JournalHost Sha) : LocalJournal Sha → List (Option JournalCall) → LocalJournal Sha × List JournalAnswer
  | journal, [] => (journal, [])
  | journal, none :: rest => (journal.reopen host).session host rest
  | journal, some call :: rest =>
    (((journal.call host call).1.session host rest).1, (journal.call host call).2 :: ((journal.call host call).1.session host rest).2)

def FaithfulSession (host : JournalHost Sha) : LocalJournal Sha → List (Option JournalCall) → Prop
  | _, [] => True
  | journal, none :: rest => FaithfulSession host (journal.reopen host) rest
  | journal, some call :: rest => Faithful host journal call ∧ FaithfulSession host (journal.call host call).1 rest

theorem session_alike (entries : List (Option JournalCall)) : ∀ {journal other : LocalJournal Sha}, AlikeTables journal other → Coherent journal →
    Coherent other → Correlated journal → Correlated other → FaithfulSession host journal entries →
      (other.session host (entries.filter (·.isSome))).2 = (journal.session host entries).2 ∧
        Indistinguishable host (journal.session host entries).1 (other.session host (entries.filter (·.isSome))).1 := by
  induction entries with
  | nil =>
    intro journal other halike hjournal hother hcorrelated hcorrelated' _
    exact ⟨rfl, halike.indistinguishable hjournal hother hcorrelated hcorrelated'⟩
  | cons entry rest ih =>
    intro journal other halike hjournal hother hcorrelated hcorrelated' hfaithful
    cases entry with
    | none => exact ih ⟨halike.commands, halike.reports⟩ hjournal.reopen hother hcorrelated.reopen hcorrelated' hfaithful
    | some call =>
      obtain ⟨hcall, hrest⟩ := hfaithful
      obtain ⟨hanswer, hnext⟩ := halike.step hjournal hother host call
      obtain ⟨hanswers, hfinal⟩ := ih hnext (hjournal.step host call) (hother.step host call) (hcorrelated.step hjournal hcall)
        (hcorrelated'.step hother (hcall.congr halike.commands)) hrest
      refine ⟨?_, hfinal⟩
      show (other.call host call).2 :: _ = (journal.call host call).2 :: _
      rw [hanswer]
      exact congrArg _ hanswers

omit [DecidableEq Sha] in
theorem coherent_empty : Coherent ({} : LocalJournal Sha) := by
  refine ⟨⟨rfl, rfl, rfl, rfl, List.Pairwise.nil, ?_⟩, ⟨?_, ?_⟩, ?_⟩
  · intro row hrow
    cases hrow
  · intro c
    constructor
    · intro hc
      cases hc
    · rintro ⟨row, hrow, -⟩
      cases hrow
  · refine (Resolves.empty remarkPrefix).congr fun c => ⟨?_, False.elim⟩
    rintro ⟨row, hrow, -⟩
    cases hrow
  · intro row hrow
    cases hrow

omit [DecidableEq Sha] in
theorem correlated_empty : Correlated ({} : LocalJournal Sha) := by
  intro b c
  constructor
  · intro hget
    cases hget
  · rintro ⟨row, hrow, -⟩
    cases hrow

end QuantX
