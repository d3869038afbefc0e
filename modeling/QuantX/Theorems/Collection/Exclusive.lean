import QuantX.Theorems.Collection.Sound
import QuantX.Lib.Run

/-! # Native work is entered once

Runs of a collection journal with their history. -/

namespace QuantX
open Lib

abbrev CollectionMoment (Sha : Type) [DecidableEq Sha] := Moment (CollectionJournal Sha) CollectionCall

variable {Sha : Type} [DecidableEq Sha] {d : CollectionDigests Sha} {journal next : CollectionJournal Sha} {permit : CollectionPermit}
  {deviceId requestId permitId : String} {now : Int} {failure : CollectionAbort} {artifact : NativeUnitArtifact} {unitId : Sha}
  {log : List (CollectionMoment Sha)} {call : CollectionCall}

def Commits (d : CollectionDigests Sha) (m : CollectionMoment Sha) : Prop := m.before.call d m.op = .ok m.after

def AcceptsPermit (d : CollectionDigests Sha) (m : CollectionMoment Sha) (permit : CollectionPermit) : Prop :=
  Commits d m ∧ ∃ deviceId unit now, m.op = .acceptCollectionPermit permit deviceId unit now

def BeginsPermit (d : CollectionDigests Sha) (m : CollectionMoment Sha) (permit : CollectionPermit) (now : Int) : Prop :=
  Commits d m ∧ ∃ deviceId, m.op = .beginCollectionExecution permit deviceId now

/-- An artifact is recorded only for a permit whose execution has begun. -/
def StartedFirst (d : CollectionDigests Sha) (log : List (CollectionMoment Sha)) (journal : CollectionJournal Sha) : CollectionCall → Prop
  | .recordCollectionArtifact permitId _ _ => ∀ receipt, journal.receipts.get? permitId = some receipt →
    ∃ m ∈ log, ∃ permit now, BeginsPermit d m permit now ∧ permit.permitId = permitId ∧ receipt.permitSha256 = d.payloadHash permit
  | _ => True

def OneDevice (d : CollectionDigests Sha) (log : List (CollectionMoment Sha)) (unitId : Sha) : Prop :=
  ∃ deviceId, ∀ m ∈ log, ∀ permit, AcceptsPermit d m permit → d.unitId permit.unit = unitId → permit.deviceId = deviceId

theorem OneDevice.tail {m : CollectionMoment Sha} (h : OneDevice d (m :: log) unitId) : OneDevice d log unitId := by
  obtain ⟨deviceId, hdevice⟩ := h
  exact ⟨deviceId, fun m hm => hdevice m (List.mem_cons_of_mem _ hm)⟩

inductive Does (d : CollectionDigests Sha) (journal next : CollectionJournal Sha) : CollectionCall → Prop
  | rejected {call : CollectionCall} (h : ¬ Commits d ⟨journal, call, next⟩) (hnext : next = journal) : Does d journal next call
  | retired {deviceId requestSha256 : String} {snapshot : HistoryUploadSnapshot} {now : Int}
      (h : next = journal ∨ Retires deviceId snapshot.requestId journal next) :
      Does d journal next (.retireHistoryUpload deviceId requestSha256 snapshot now)
  | accepted {permit : CollectionPermit} {deviceId : String} {unit : CollectionUnit} {now : Int}
      (hcommits : Commits d ⟨journal, .acceptCollectionPermit permit deviceId unit now, next⟩) (h : Accepted d journal next permit now) :
      Does d journal next (.acceptCollectionPermit permit deviceId unit now)
  | begun {permit : CollectionPermit} {deviceId : String} {now : Int} (h : Begun d journal next permit now) :
      Does d journal next (.beginCollectionExecution permit deviceId now)
  | aborted {permit : CollectionPermit} {failure : CollectionAbort} (h : Aborted d journal next permit failure) :
      Does d journal next (.recordCollectionAbort permit failure)
  | confirmed {permit : CollectionPermit}
      (h : next = { journal with aborts := journal.aborts.modify permit.permitId fun row => { row with accepted := true } }) :
      Does d journal next (.confirmCollectionAbort permit)
  | completed {permitId : String} {verified : Option NativeUnitArtifact} {artifact : NativeUnitArtifact}
      (h : Completed d journal next permitId artifact) : Does d journal next (.recordCollectionArtifact permitId verified artifact)

theorem handle_does (d : CollectionDigests Sha) (journal : CollectionJournal Sha) (call : CollectionCall) :
    Does d journal (journal.handle d call) call := by
  unfold CollectionJournal.handle
  cases hcall : journal.call d call with
  | error message =>
    refine .rejected (fun hcommits => ?_) rfl
    rw [Commits, hcall] at hcommits
    cases hcommits
  | ok next =>
    cases call with
    | retireHistoryUpload deviceId requestSha256 snapshot now => exact .retired (retireHistoryUpload_retires hcall)
    | acceptCollectionPermit permit deviceId unit now =>
      obtain ⟨⟨tables, first⟩, haccept, rfl⟩ := map_eq_ok.mp hcall
      exact .accepted hcall (acceptCollectionPermit_ok haccept).2.2
    | beginCollectionExecution permit deviceId now => exact .begun (beginCollectionExecution_ok hcall).2
    | recordCollectionAbort permit failure => exact .aborted (recordCollectionAbort_ok hcall)
    | confirmCollectionAbort permit => exact .confirmed (confirmCollectionAbort_ok hcall)
    | recordCollectionArtifact permitId verified artifact =>
      obtain ⟨⟨tables, first⟩, hrecord, rfl⟩ := map_eq_ok.mp hcall
      exact .completed (recordCollectionArtifact_ok hrecord)

theorem foldl_max_range (n : Nat) : ((List.range n).map (· + 1)).foldl max 0 = n := by
  induction n with
  | zero => rfl
  | succ n ih =>
    rw [List.range_succ, List.map_append, List.foldl_append, ih]
    simp

theorem attempts_eq (journal : CollectionJournal Sha) (unitId : Sha) :
    journal.attempts unitId = (journal.executions.entries.filter fun entry => entry.2.unitId = unitId).map (·.2.attemptIndex) := by
  unfold CollectionJournal.attempts Dict.values
  rw [List.filter_map, List.map_map]
  rfl

theorem attempts_begin (hbegun : Begun d journal next permit now) (unitId : Sha) :
    next.attempts unitId = journal.attempts unitId ++ if d.unitId permit.unit = unitId then [journal.nextAttempt unitId] else [] := by
  have hset : next.executions.entries =
      journal.executions.entries ++ [(permit.permitId, ⟨d.unitId permit.unit, journal.nextAttempt (d.unitId permit.unit)⟩)] := by
    rw [hbegun.next_eq]
    exact Dict.put_of_not_mem (Dict.lookup_eq_none.mp hbegun.new)
  rw [attempts_eq, attempts_eq, hset, List.filter_append, List.map_append]
  congr 1
  split
  · rename_i hunit
    simp [hunit]
  · rename_i hunit
    simp [hunit]

theorem attempts_retire (hunits : Function.Injective d.unitId) (hsound : TablesSound d journal)
    (hretires : Retires deviceId requestId journal next)
    (hdevice : ∀ permitId receipt permitId' receipt', journal.receipts.get? permitId = some receipt → receipt.unitId = unitId →
      journal.receipts.get? permitId' = some receipt' → receipt'.unitId = unitId → receipt.deviceId = receipt'.deviceId) :
    next.attempts unitId = journal.attempts unitId ∨ next.attempts unitId = [] := by
  have hreceipt : ∀ entry ∈ journal.executions.entries, entry.2.unitId = unitId →
      ∃ receipt, journal.receipts.get? entry.1 = some receipt ∧ receipt.unitId = unitId := by
    rintro ⟨permitId, execution⟩ hmem rfl
    exact hsound.executions permitId execution (Dict.mem_entries.mp hmem)
  have hentries : next.executions.entries = journal.executions.entries.filter fun entry =>
      !(journal.requestPermits deviceId requestId).contains entry.1 := by
    rw [hretires.kept]
    rfl
  rw [attempts_eq, attempts_eq, hentries, List.filter_filter]
  by_cases hany : ∃ entry ∈ journal.executions.entries, entry.2.unitId = unitId ∧
      (journal.requestPermits deviceId requestId).contains entry.1 = true
  · -- One of them goes, and the others have its device and its request.
    obtain ⟨entry, hmem, hunit, hgone⟩ := hany
    obtain ⟨receipt, hget, hdev, hreq⟩ := mem_requestPermits.mp hgone
    obtain ⟨same, hsame, hsameUnit⟩ := hreceipt entry hmem hunit
    obtain rfl := Option.some.inj (hget.symm.trans hsame)
    refine .inr ?_
    rw [List.map_eq_nil_iff, List.filter_eq_nil_iff]
    intro other hother hkept
    obtain ⟨hotherUnit, hotherKept⟩ := Bool.and_eq_true_iff.mp hkept
    obtain ⟨receipt', hget', hunit'⟩ := hreceipt other hother (of_decide_eq_true hotherUnit)
    obtain ⟨permit, -, rfl⟩ := hsound.receipts entry.1 receipt hget
    obtain ⟨permit', -, rfl⟩ := hsound.receipts other.1 receipt' hget'
    have hsameRequest : permit'.unit = permit.unit := hunits (hunit'.trans hsameUnit.symm)
    have hcontains := mem_requestPermits.mpr ⟨_, hget', (hdevice _ _ _ _ hget' hunit' hget hsameUnit).trans hdev,
      (congrArg CollectionUnit.requestId hsameRequest).trans hreq⟩
    rw [hcontains] at hotherKept
    cases hotherKept
  · refine .inl ?_
    congr 1
    refine List.filter_congr fun entry hmem => ?_
    by_cases hunit : entry.2.unitId = unitId
    · have hkept : (journal.requestPermits deviceId requestId).contains entry.1 = false := by
        rw [← Bool.not_eq_true]
        exact fun hgone => hany ⟨entry, hmem, hunit, hgone⟩
      rw [hkept]
      simp
    · simp [hunit]

/-! ## What the tables remember -/

structure Remembers (d : CollectionDigests Sha) (log : List (CollectionMoment Sha)) (journal : CollectionJournal Sha) : Prop where
  sound : TablesSound d journal
  receipts : ∀ permitId receipt, journal.receipts.get? permitId = some receipt →
    ∃ m ∈ log, ∃ permit, AcceptsPermit d m permit ∧ permit.permitId = permitId ∧ receipt = receiptOf d permit
  epochs : ∀ m ∈ log, ∀ permit, AcceptsPermit d m permit → permit.ownerEpoch ≤ journal.ownerEpochs.getD permit.deviceId 0
  begun : ∀ m ∈ log, ∀ permit now, BeginsPermit d m permit now →
    journal.historyUploadRetired permit.deviceId permit.unit.requestId = true ∨ journal.Executed d permit
  attempts : ∀ unitId, OneDevice d log unitId → ∃ n, journal.attempts unitId = List.range n

theorem remembers_empty (d : CollectionDigests Sha) : Remembers d [] {} := by
  refine ⟨⟨?_, ?_, ?_, ?_, ?_, ?_⟩, ?_, ?_, ?_, fun unitId _ => ⟨0, rfl⟩⟩ <;> intros <;> contradiction

theorem Remembers.quiet (h : Remembers d log journal) (hsound : TablesSound d next)
    (haccepts : ∀ permit, ¬ AcceptsPermit d ⟨journal, call, next⟩ permit)
    (hbegins : ∀ permit now, ¬ BeginsPermit d ⟨journal, call, next⟩ permit now)
    (hreceipts : ∀ permitId receipt, next.receipts.get? permitId = some receipt → journal.receipts.get? permitId = some receipt)
    (hepochs : next.ownerEpochs = journal.ownerEpochs)
    (hbegun : ∀ permit, journal.historyUploadRetired permit.deviceId permit.unit.requestId = true ∨ journal.Executed d permit →
      next.historyUploadRetired permit.deviceId permit.unit.requestId = true ∨ next.Executed d permit)
    (hattempts : ∀ unitId, OneDevice d log unitId → next.attempts unitId = journal.attempts unitId ∨ next.attempts unitId = []) :
    Remembers d (⟨journal, call, next⟩ :: log) next := by
  refine ⟨hsound, fun permitId receipt hreceipt => ?_, fun m hm permit haccept => ?_, fun m hm permit now hbegin => ?_,
    fun unitId hone => ?_⟩
  · obtain ⟨m, hm, hpermit⟩ := h.receipts permitId receipt (hreceipts permitId receipt hreceipt)
    exact ⟨m, List.mem_cons_of_mem _ hm, hpermit⟩
  · rcases List.mem_cons.mp hm with rfl | hm
    · exact absurd haccept (haccepts permit)
    · rw [hepochs]
      exact h.epochs m hm permit haccept
  · rcases List.mem_cons.mp hm with rfl | hm
    · exact absurd hbegin (hbegins permit now)
    · exact hbegun permit (h.begun m hm permit now hbegin)
  · obtain ⟨n, hn⟩ := h.attempts unitId hone.tail
    rcases hattempts unitId hone.tail with hsame | hnone
    · exact ⟨n, hsame.trans hn⟩
    · exact ⟨0, hnone⟩

theorem Remembers.accept {unit : CollectionUnit} (h : Remembers d log journal) (haccepted : Accepted d journal next permit now)
    (hcommits : Commits d ⟨journal, .acceptCollectionPermit permit deviceId unit now, next⟩) :
    Remembers d (⟨journal, .acceptCollectionPermit permit deviceId unit now, next⟩ :: log) next := by
  have hepochs : next.ownerEpochs = journal.ownerEpochs.set permit.deviceId permit.ownerEpoch := by rw [haccepted.next_eq]
  have hreceipts : next.receipts = journal.receipts.setdefault permit.permitId (receiptOf d permit) := by rw [haccepted.next_eq]
  have hexecutions : next.executions = journal.executions := by rw [haccepted.next_eq]
  have hretirements : next.retirements = journal.retirements := by rw [haccepted.next_eq]
  refine ⟨h.sound.accept haccepted, fun permitId receipt hreceipt => ?_, fun m hm other haccept => ?_, fun m hm other now' hbegin => ?_,
    fun unitId hone => ?_⟩
  · rw [hreceipts] at hreceipt
    rcases Dict.get?_setdefault_eq_some.mp hreceipt with hreceipt | ⟨-, hid, hreceipt⟩
    · obtain ⟨m, hm, hpermit⟩ := h.receipts permitId receipt hreceipt
      exact ⟨m, List.mem_cons_of_mem _ hm, hpermit⟩
    · exact ⟨_, List.mem_cons_self, permit, ⟨hcommits, deviceId, unit, now, rfl⟩, hid, hreceipt.symm⟩
  · rw [hepochs, Dict.getD_set]
    rcases List.mem_cons.mp hm with rfl | hm
    · obtain ⟨-, device', unit', now', hop⟩ := haccept
      obtain ⟨rfl, -⟩ := CollectionCall.acceptCollectionPermit.inj hop
      rw [if_pos rfl]
    · have hold := h.epochs m hm other haccept
      split
      · rename_i hdevice
        rw [← hdevice] at hold
        exact hold.trans haccepted.epoch
      · exact hold
  · rcases List.mem_cons.mp hm with rfl | hm
    · obtain ⟨-, device', hop⟩ := hbegin
      cases hop
    · unfold CollectionJournal.historyUploadRetired
      rw [hretirements]
      refine (h.begun m hm other now' hbegin).imp_right ?_
      rintro ⟨execution, receipt, hexecution, hunit, hreceipt, hsame⟩
      refine ⟨execution, receipt, hexecutions ▸ hexecution, hunit, ?_, hsame⟩
      rw [hreceipts]
      exact Dict.get?_setdefault_eq_some.mpr (.inl hreceipt)
  · obtain ⟨n, hn⟩ := h.attempts unitId hone.tail
    refine ⟨n, ?_⟩
    rw [attempts_eq, hexecutions, ← attempts_eq]
    exact hn

theorem Remembers.begin (hpayloads : Function.Injective d.payloadHash) (h : Remembers d log journal)
    (hbegun : Begun d journal next permit now) :
    Remembers d (⟨journal, .beginCollectionExecution permit deviceId now, next⟩ :: log) next := by
  have hepochs : next.ownerEpochs = journal.ownerEpochs := by rw [hbegun.next_eq]
  have hreceipts : next.receipts = journal.receipts := by rw [hbegun.next_eq]
  have hretirements : next.retirements = journal.retirements := by rw [hbegun.next_eq]
  have hexecutions : next.executions = journal.executions.set permit.permitId
      ⟨d.unitId permit.unit, journal.nextAttempt (d.unitId permit.unit)⟩ := by rw [hbegun.next_eq]
  refine ⟨h.sound.begin hpayloads hbegun, fun permitId receipt hreceipt => ?_, fun m hm other haccept => ?_,
    fun m hm other now' hbegin => ?_, fun unitId hone => ?_⟩
  · obtain ⟨m, hm, hpermit⟩ := h.receipts permitId receipt (hreceipts ▸ hreceipt)
    exact ⟨m, List.mem_cons_of_mem _ hm, hpermit⟩
  · rcases List.mem_cons.mp hm with rfl | hm
    · obtain ⟨-, device', unit', now', hop⟩ := haccept
      cases hop
    · rw [hepochs]
      exact h.epochs m hm other haccept
  · rcases List.mem_cons.mp hm with rfl | hm
    · obtain ⟨-, device', hop⟩ := hbegin
      obtain ⟨rfl, -⟩ := CollectionCall.beginCollectionExecution.inj hop
      obtain ⟨receipt, hreceipt, hsame⟩ := hbegun.received
      refine .inr ⟨⟨d.unitId permit.unit, journal.nextAttempt (d.unitId permit.unit)⟩, receipt, ?_, rfl, hreceipts ▸ hreceipt, hsame⟩
      rw [hexecutions, Dict.get?_set_self]
    · unfold CollectionJournal.historyUploadRetired
      rw [hretirements]
      refine (h.begun m hm other now' hbegin).imp_right ?_
      rintro ⟨execution, receipt, hexecution, hunit, hreceipt, hsame⟩
      refine ⟨execution, receipt, ?_, hunit, hreceipts ▸ hreceipt, hsame⟩
      rw [hexecutions, Dict.get?_set_ne]
      · exact hexecution
      · intro hid
        rw [← hid, hbegun.new] at hexecution
        cases hexecution
  · obtain ⟨n, hn⟩ := h.attempts unitId hone.tail
    rw [attempts_begin hbegun, hn]
    split
    · refine ⟨n + 1, ?_⟩
      rw [CollectionJournal.nextAttempt, hn, foldl_max_range, List.range_succ]
    · exact ⟨n, List.append_nil _⟩

theorem executed_retire (hpayloads : Function.Injective d.payloadHash) (hsound : TablesSound d journal)
    (hretires : Retires deviceId requestId journal next) (h : journal.Executed d permit) :
    next.historyUploadRetired permit.deviceId permit.unit.requestId = true ∨ next.Executed d permit := by
  obtain ⟨execution, receipt, hexecution, hunit, hreceipt, hsame⟩ := h
  obtain rfl := hsound.receiptOf_same hpayloads hreceipt hsame
  by_cases hscope : permit.deviceId = deviceId ∧ permit.unit.requestId = requestId
  · exact .inl ((hretires.retired _ _).mpr (.inl hscope))
  · refine .inr ⟨execution, _, (hretires.executions _ _).mpr ⟨hexecution, ?_⟩, hunit, (hretires.receipts _ _).mpr ⟨hreceipt, hscope⟩, rfl⟩
    rw [← Bool.not_eq_true, mem_requestPermits]
    rintro ⟨own, hown, hgone⟩
    obtain rfl := Option.some.inj (hreceipt.symm.trans hown)
    exact hscope hgone

theorem Remembers.retire {requestSha256 : String} {snapshot : HistoryUploadSnapshot} (hpayloads : Function.Injective d.payloadHash)
    (hunits : Function.Injective d.unitId) (h : Remembers d log journal) (hretires : Retires deviceId snapshot.requestId journal next) :
    Remembers d (⟨journal, .retireHistoryUpload deviceId requestSha256 snapshot now, next⟩ :: log) next := by
  refine h.quiet (h.sound.retire hretires) ?_ ?_ (fun permitId receipt hreceipt => ((hretires.receipts permitId receipt).mp hreceipt).1)
    hretires.epochs ?_ (fun unitId hone => ?_)
  · rintro other ⟨-, device, unit, now', hop⟩
    cases hop
  · rintro other now' ⟨-, device, hop⟩
    cases hop
  · rintro other (hretired | hexecuted)
    · exact .inl ((hretires.retired _ _).mpr (.inr hretired))
    · exact executed_retire hpayloads h.sound hretires hexecuted
  · obtain ⟨device, hdevice⟩ := hone
    have hown : ∀ permitId receipt, journal.receipts.get? permitId = some receipt → receipt.unitId = unitId → receipt.deviceId = device := by
      intro permitId receipt hreceipt hunit
      obtain ⟨m, hm, permit, haccepts, -, rfl⟩ := h.receipts permitId receipt hreceipt
      exact hdevice m hm permit haccepts hunit
    exact attempts_retire hunits h.sound hretires fun permitId receipt permitId' receipt' hreceipt hunit hreceipt' hunit' =>
      (hown _ _ hreceipt hunit).trans (hown _ _ hreceipt' hunit').symm

theorem Remembers.started (hpayloads : Function.Injective d.payloadHash) (h : Remembers d log journal)
    {verified : Option NativeUnitArtifact} (hlegal : StartedFirst d log journal (.recordCollectionArtifact permitId verified artifact))
    (hcompleted : Completed d journal next permitId artifact) : ∃ execution, journal.executions.get? permitId = some execution := by
  obtain ⟨receipt, hreceipt, -⟩ := hcompleted.received
  obtain ⟨m, hm, permit, now, hbegins, rfl, hsame⟩ := hlegal receipt hreceipt
  rcases h.begun m hm permit now hbegins with hretired | ⟨execution, -, hexecution, -⟩
  · obtain rfl := h.sound.receiptOf_same hpayloads hreceipt hsame
    exact absurd ⟨rfl, rfl⟩ (h.sound.retired _ _ hretired _ _ hreceipt)
  · exact ⟨execution, hexecution⟩

theorem Remembers.handle (hpayloads : Function.Injective d.payloadHash) (hunits : Function.Injective d.unitId)
    (h : Remembers d log journal) (hlegal : StartedFirst d log journal call) (hdoes : Does d journal next call) :
    Remembers d (⟨journal, call, next⟩ :: log) next := by
  cases hdoes with
  | rejected hrejected hsame =>
    subst hsame
    exact h.quiet h.sound (fun _ haccepts => hrejected haccepts.1) (fun _ _ hbegins => hrejected hbegins.1) (fun _ _ => id) rfl (fun _ => id)
      fun _ _ => .inl rfl
  | accepted hcommits haccepted => exact h.accept haccepted hcommits
  | begun hbegun => exact h.begin hpayloads hbegun
  | retired hretired =>
    rcases hretired with hsame | hretires
    · subst hsame
      refine h.quiet h.sound ?_ ?_ (fun _ _ => id) rfl (fun _ => id) fun _ _ => .inl rfl
      · rintro other ⟨-, device, unit, now', hop⟩
        cases hop
      · rintro other now' ⟨-, device, hop⟩
        cases hop
    · exact h.retire hpayloads hunits hretires
  | aborted haborted =>
    have hsound := h.sound.abort haborted
    obtain ⟨-, -, rfl⟩ := haborted
    refine h.quiet hsound ?_ ?_ (fun _ _ => id) rfl (fun _ => id) fun _ _ => .inl rfl
    · rintro other ⟨-, device, unit, now', hop⟩
      cases hop
    · rintro other now' ⟨-, device, hop⟩
      cases hop
  | confirmed hconfirmed =>
    have hsound := h.sound.confirm hconfirmed
    subst hconfirmed
    refine h.quiet hsound ?_ ?_ (fun _ _ => id) rfl (fun _ => id) fun _ _ => .inl rfl
    · rintro other ⟨-, device, unit, now', hop⟩
      cases hop
    · rintro other now' ⟨-, device, hop⟩
      cases hop
  | completed hcompleted =>
    have hsound := h.sound.complete hcompleted (h.started hpayloads hlegal hcompleted)
    obtain ⟨-, -, rfl⟩ := hcompleted
    refine h.quiet hsound ?_ ?_ (fun _ _ => id) rfl (fun _ => id) fun _ _ => .inl rfl
    · rintro other ⟨-, device, unit, now', hop⟩
      cases hop
    · rintro other now' ⟨-, device, hop⟩
      cases hop

/-! ## Entry -/

/-- What a permit has met when its execution begins, and that it has not begun before. -/
structure MayEnter (d : CollectionDigests Sha) (before : CollectionJournal Sha) (earlier : List (CollectionMoment Sha))
    (permit : CollectionPermit) (now : Int) : Prop where
  once : ∀ m ∈ earlier, ∀ now', ¬ BeginsPermit d m permit now'
  unsealed : before.artifacts.get? (d.unitId permit.unit) = none
  unretired : before.historyUploadRetired permit.deviceId permit.unit.requestId = false
  accepted : ∃ m ∈ earlier, AcceptsPermit d m permit
  active : permit.issuedAt ≤ now ∧ now < permit.expiresAt
  epoch : ∀ m ∈ earlier, ∀ other, AcceptsPermit d m other → other.deviceId = permit.deviceId → other.ownerEpoch ≤ permit.ownerEpoch

theorem Remembers.mayEnter (hpayloads : Function.Injective d.payloadHash) (h : Remembers d log journal)
    (hbegun : Begun d journal next permit now) : MayEnter d journal log permit now := by
  obtain ⟨hunretired, ⟨receipt, hreceipt, hsame⟩, hepoch, hactive, hresolved, hnew, -⟩ := hbegun
  refine ⟨fun m hm now' hbegins => ?_, ?_, hunretired, ?_, hactive, fun m hm other haccepts hdevice => ?_⟩
  · rcases h.begun m hm permit now' hbegins with hretired | ⟨execution, -, hexecution, -⟩
    · rw [hunretired] at hretired
      cases hretired
    · rw [hnew] at hexecution
      cases hexecution
  · -- The execution that has sealed an artifact has no abort, so it is unresolved.
    rw [Option.eq_none_iff_forall_ne_some]
    intro row hrow
    obtain ⟨⟨execution, hexecution, hunit⟩, hrunning⟩ := h.sound.artifacts _ row hrow
    have hopen := hresolved row.permitId execution hexecution hunit
    rw [CollectionJournal.unresolved, hrunning] at hopen
    cases hopen
  · obtain ⟨m, hm, accepted, haccepts, -, rfl⟩ := h.receipts _ receipt hreceipt
    obtain rfl := hpayloads hsame
    exact ⟨m, hm, haccepts⟩
  · rw [← hdevice] at hepoch
    exact (h.epochs m hm other haccepts).trans hepoch

/-- Along a history, every begun permit may enter, and a call that does not commit leaves the tables as they were. -/
def Orderly (d : CollectionDigests Sha) : List (CollectionMoment Sha) → Prop
  | [] => True
  | m :: earlier => (∀ permit now, BeginsPermit d m permit now → MayEnter d m.before earlier permit now) ∧
    (¬ Commits d m → m.after = m.before) ∧ Orderly d earlier

structure Exclusive (d : CollectionDigests Sha) (log : List (CollectionMoment Sha)) (journal : CollectionJournal Sha) : Prop where
  single : ∀ permitId permitId' execution execution', journal.executions.get? permitId = some execution →
    journal.executions.get? permitId' = some execution' → execution.unitId = execution'.unitId →
      journal.unresolved permitId = true → journal.unresolved permitId' = true → permitId = permitId'
  sealed : ∀ unitId row, journal.artifacts.get? unitId = some row → journal.aborts.get? row.permitId = none
  attempts : ∀ unitId, OneDevice d log unitId → ∃ n, journal.attempts unitId = List.range n
  orderly : Orderly d log

theorem handle_orderly (hpayloads : Function.Injective d.payloadHash) (h : Remembers d log journal) (horderly : Orderly d log)
    (call : CollectionCall) : Orderly d (⟨journal, call, journal.handle d call⟩ :: log) := by
  refine ⟨?_, ?_, horderly⟩
  · rintro permit now ⟨hcommits, deviceId, rfl⟩
    exact h.mayEnter hpayloads (beginCollectionExecution_ok hcommits).2
  · intro hrejected
    unfold Commits CollectionJournal.handle at hrejected
    unfold CollectionJournal.handle
    cases hcall : journal.call d call with
    | error message => rfl
    | ok next => exact absurd (by rw [hcall]; rfl) hrejected

/-- Native collection: one execution of a unit at a time, none after its artifact. -/
theorem collection_exclusive (hpayloads : Function.Injective d.payloadHash) (hunits : Function.Injective d.unitId)
    (h : Run (· = {}) (CollectionJournal.handle d) (StartedFirst d) log journal) : Exclusive d log journal := by
  have hrun : Remembers d log journal ∧ Orderly d log := by
    refine h.invariant (fun log journal => Remembers d log journal ∧ Orderly d log) ?_ ?_
    · rintro journal rfl
      exact ⟨remembers_empty d, trivial⟩
    · rintro log journal call ⟨hremembers, horderly⟩ hlegal
      have hdoes := handle_does d journal call
      exact ⟨hremembers.handle hpayloads hunits hlegal hdoes, handle_orderly hpayloads hremembers horderly call⟩
  obtain ⟨hremembers, horderly⟩ := hrun
  exact ⟨hremembers.sound.single, fun unitId row hrow => (hremembers.sound.artifacts unitId row hrow).2, hremembers.attempts, horderly⟩

def plainDigests : CollectionDigests (CollectionPermit ⊕ CollectionUnit) := ⟨.inl, .inr⟩

def exampleUnit : CollectionUnit := { requestId := "3f0c", unitIndex := 0, payloadSha256 := "9a" }

def examplePermit (permitId deviceId : String) : CollectionPermit where
  permitId := permitId
  deviceId := deviceId
  ownerEpoch := 1
  unit := exampleUnit
  issuedAt := 0
  expiresAt := 29500000
  epoch_pos := Int.one_pos
  validity_pos := by decide
  validity_bounded := by decide

/-- A permit is accepted, enters native work and leaves an artifact. -/
theorem collection_exclusive_enters : ∃ log journal, Run (· = {}) (CollectionJournal.handle plainDigests) (StartedFirst plainDigests) log journal ∧
    Exclusive plainDigests log journal ∧ journal.artifacts.keys = [.inr exampleUnit] := by
  have hstart : Run (· = {}) (CollectionJournal.handle plainDigests) (StartedFirst plainDigests) [] {} := .start rfl
  have hrun := ((hstart.step (.acceptCollectionPermit (examplePermit "p1" "d1") "d1" exampleUnit 1) trivial).step
    (.beginCollectionExecution (examplePermit "p1" "d1") "d1" 2) trivial).step
    (.recordCollectionArtifact "p1" (some ⟨exampleUnit, "u.bin", "77", 9, 3⟩) ⟨exampleUnit, "u.bin", "77", 9, 3⟩) (by
      rintro receipt hreceipt
      refine ⟨_, List.mem_cons_self, examplePermit "p1" "d1", 2, ⟨rfl, "d1", rfl⟩, rfl, ?_⟩
      obtain rfl := Option.some.inj hreceipt
      rfl)
  exact ⟨_, _, hrun, collection_exclusive Sum.inl_injective Sum.inr_injective hrun, by decide⟩

/-- Whatever the order of the calls, the rows of the tables belong to each other: receipts to accepted permits, executions to
    receipts, aborts and artifacts to executions, and a request that is retired has none of them. -/
theorem collection_tables_sound (hpayloads : Function.Injective d.payloadHash) (hunits : Function.Injective d.unitId)
    (h : Run (· = {}) (CollectionJournal.handle d) (StartedFirst d) log journal) : Remembers d log journal := by
  refine h.invariant (Remembers d) ?_ fun log journal call hremembers hlegal =>
    hremembers.handle hpayloads hunits hlegal (handle_does d journal call)
  rintro journal rfl
  exact remembers_empty d

/-- A permit is accepted, and an abort that was not recorded is not confirmed. -/
theorem collection_tables_accepted : ∃ log journal, Remembers plainDigests log journal ∧ journal.receipts.keys = ["p1"] := by
  have hstart : Run (· = {}) (CollectionJournal.handle plainDigests) (StartedFirst plainDigests) [] {} := .start rfl
  have hrun := (hstart.step (.acceptCollectionPermit (examplePermit "p1" "d1") "d1" exampleUnit 1) trivial).step
    (.confirmCollectionAbort (examplePermit "p1" "d1")) trivial
  exact ⟨_, _, collection_tables_sound Sum.inl_injective Sum.inr_injective hrun, by decide⟩

/-- Two devices share a unit: retiring the request of the first leaves the second attempt without the first. -/
theorem collection_attempts_gap : ¬ ∀ log journal,
    Run (· = {}) (CollectionJournal.handle plainDigests) (StartedFirst plainDigests) log journal →
      ∀ unitId, ∃ n, journal.attempts unitId = List.range n := by
  intro hall
  have hstart : Run (· = {}) (CollectionJournal.handle plainDigests) (StartedFirst plainDigests) [] {} := .start rfl
  have hrun := ((((((hstart.step (.acceptCollectionPermit (examplePermit "p1" "d1") "d1" exampleUnit 1) trivial).step
    (.beginCollectionExecution (examplePermit "p1" "d1") "d1" 2) trivial).step
    (.recordCollectionAbort (examplePermit "p1" "d1") ⟨exampleUnit, "timeout", "native_timeout"⟩) trivial).step
    (.confirmCollectionAbort (examplePermit "p1" "d1")) trivial).step
    (.acceptCollectionPermit (examplePermit "p2" "d2") "d2" exampleUnit 3) trivial).step
    (.beginCollectionExecution (examplePermit "p2" "d2") "d2" 4) trivial).step
    (.retireHistoryUpload "d1" "51" ⟨"3f0c", some 0, "evidence"⟩ 86400000000) trivial
  obtain ⟨n, hn⟩ := hall _ _ hrun (.inr exampleUnit)
  have hone : List.range n = [1] := hn.symm.trans (by decide)
  obtain rfl : n = 1 := by simpa using congrArg List.length hone
  cases hone

end QuantX
