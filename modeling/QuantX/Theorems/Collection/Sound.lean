import QuantX.QmtAgent.CollectionJournal

namespace QuantX
open Lib

variable {Sha : Type} [DecidableEq Sha] {d : CollectionDigests Sha} {journal next : CollectionJournal Sha} {permit : CollectionPermit}
  {deviceId requestId requestSha256 permitId : String} {unit : CollectionUnit} {now minimumEpoch : Int} {failure : CollectionAbort}
  {verified : Option NativeUnitArtifact} {artifact : NativeUnitArtifact} {snapshot : HistoryUploadSnapshot} {first : Bool}

theorem validateStart_ok (h : permit.validateStart deviceId unit now minimumEpoch = .ok ()) :
    (permit.deviceId = deviceId ∧ permit.unit = unit) ∧ minimumEpoch ≤ permit.ownerEpoch ∧ permit.issuedAt ≤ now ∧ now < permit.expiresAt := by
  obtain ⟨hscope, h⟩ := require_bind.mp h
  obtain ⟨hepoch, h⟩ := require_bind.mp h
  exact ⟨hscope, hepoch, require_eq_ok.mp h⟩

def receiptOf (d : CollectionDigests Sha) (permit : CollectionPermit) : CollectionReceipt Sha :=
  ⟨permit.deviceId, permit.unit.requestId, permit.unit.unitIndex, d.unitId permit.unit, d.payloadHash permit, permit.ownerEpoch⟩

/-- The receipt that stands for a request and a unit's place in it. -/
def CollectionJournal.placeReceipt (journal : CollectionJournal Sha) (deviceId requestId : String) (unitIndex : Nat) :
    Option (CollectionReceipt Sha) :=
  journal.receipts.values.find? fun receipt =>
    receipt.deviceId = deviceId && receipt.requestId = requestId && receipt.unitIndex = unitIndex

structure Accepted (d : CollectionDigests Sha) (journal next : CollectionJournal Sha) (permit : CollectionPermit) (now : Int) : Prop where
  unretired : journal.historyUploadRetired permit.deviceId permit.unit.requestId = false
  epoch : journal.ownerEpochs.getD permit.deviceId 0 ≤ permit.ownerEpoch
  active : permit.issuedAt ≤ now ∧ now < permit.expiresAt
  same : ∀ receipt, journal.receipts.get? permit.permitId = some receipt → receipt.permitSha256 = d.payloadHash permit
  next_eq : next = { journal with
    ownerEpochs := journal.ownerEpochs.set permit.deviceId permit.ownerEpoch
    receipts := journal.receipts.setdefault permit.permitId (receiptOf d permit) }

theorem acceptCollectionPermit_ok (h : journal.acceptCollectionPermit d permit deviceId unit now = .ok (next, first)) :
    permit.deviceId = deviceId ∧ permit.unit = unit ∧ Accepted d journal next permit now := by
  obtain ⟨hscoped, h⟩ := check_bind.mp h
  obtain ⟨hopen, h⟩ := require_bind.mp h
  obtain ⟨hstart, h⟩ := check_bind.mp h
  obtain ⟨hsame, h⟩ := require_bind.mp h
  obtain ⟨-, h⟩ := require_bind.mp h
  obtain ⟨-, hepoch, hactive⟩ := validateStart_ok hstart
  obtain ⟨⟨hdevice, rfl⟩, -, -⟩ := validateStart_ok hscoped
  exact ⟨hdevice, rfl, hopen, hepoch, hactive, fun receipt hreceipt => hsame receipt hreceipt, (Prod.mk.inj (Except.ok.inj h)).1.symm⟩

def CollectionJournal.Executed (journal : CollectionJournal Sha) (d : CollectionDigests Sha) (permit : CollectionPermit) : Prop :=
  ∃ execution receipt, journal.executions.get? permit.permitId = some execution ∧ execution.unitId = d.unitId permit.unit ∧
    journal.receipts.get? permit.permitId = some receipt ∧ receipt.permitSha256 = d.payloadHash permit

theorem collectionExecutionStarted_true (h : journal.collectionExecutionStarted d permit = .ok true) : journal.Executed d permit := by
  unfold CollectionJournal.collectionExecutionStarted at h
  dsimp only at h
  split at h
  · rename_i receipt hown
    obtain ⟨execution, hexecution, hreceipt⟩ := Option.bind_eq_some_iff.mp hown
    split at hreceipt
    · rename_i hunit
      split at h
      · cases h
      · rename_i hsame
        exact ⟨execution, receipt, hexecution, hunit, hreceipt, not_not.mp hsame⟩
    · cases hreceipt
  · split at h <;> cases h

theorem collectionExecutionStarted_false (h : journal.collectionExecutionStarted d permit = .ok false) :
    ∀ permitId execution, journal.executions.get? permitId = some execution → execution.unitId = d.unitId permit.unit →
      journal.unresolved permitId = false := by
  unfold CollectionJournal.collectionExecutionStarted at h
  dsimp only at h
  split at h
  · split at h <;> cases h
  · split at h
    · cases h
    · rename_i hnone
      intro permitId execution hexecution hunit
      by_contra hunresolved
      refine hnone (List.any_eq_true.mpr ⟨(permitId, execution), Dict.mem_entries.mpr hexecution, ?_⟩)
      simp only [Bool.not_eq_false] at hunresolved
      simp [hunit, hunresolved]

structure Begun (d : CollectionDigests Sha) (journal next : CollectionJournal Sha) (permit : CollectionPermit) (now : Int) : Prop where
  unretired : journal.historyUploadRetired permit.deviceId permit.unit.requestId = false
  received : ∃ receipt, journal.receipts.get? permit.permitId = some receipt ∧ receipt.permitSha256 = d.payloadHash permit
  epoch : journal.ownerEpochs.getD permit.deviceId 0 ≤ permit.ownerEpoch
  active : permit.issuedAt ≤ now ∧ now < permit.expiresAt
  resolved : ∀ permitId execution, journal.executions.get? permitId = some execution → execution.unitId = d.unitId permit.unit →
    journal.unresolved permitId = false
  new : journal.executions.get? permit.permitId = none
  next_eq : next = { journal with
    executions := journal.executions.set permit.permitId ⟨d.unitId permit.unit, journal.nextAttempt (d.unitId permit.unit)⟩ }

theorem beginCollectionExecution_ok (h : journal.beginCollectionExecution d permit deviceId now = .ok next) :
    permit.deviceId = deviceId ∧ Begun d journal next permit now := by
  obtain ⟨hopen, h⟩ := require_bind.mp h
  obtain ⟨hreceived, h⟩ := require_bind.mp h
  obtain ⟨hstart, h⟩ := check_bind.mp h
  obtain ⟨started, hstarted, h⟩ := bind_eq_ok.mp h
  obtain ⟨hfresh, h⟩ := require_bind.mp h
  obtain ⟨hnew, h⟩ := require_bind.mp h
  rw [hfresh] at hstarted
  obtain ⟨⟨hdevice, -⟩, hepoch, hactive⟩ := validateStart_ok hstart
  rw [← hdevice] at hopen
  exact ⟨hdevice, hopen, Option.map_eq_some_iff.mp hreceived, hepoch, hactive, collectionExecutionStarted_false hstarted,
    Option.isNone_iff_eq_none.mp hnew, (Except.ok.inj h).symm⟩

structure Aborted (d : CollectionDigests Sha) (journal next : CollectionJournal Sha) (permit : CollectionPermit) (failure : CollectionAbort) :
    Prop where
  executed : journal.Executed d permit
  unsealed : journal.artifacts.get? (d.unitId permit.unit) = none
  next_eq : next = { journal with aborts := journal.aborts.setdefault permit.permitId ⟨d.unitId permit.unit, permit, failure, false⟩ }

theorem recordCollectionAbort_ok (h : journal.recordCollectionAbort d permit failure = .ok next) : Aborted d journal next permit failure := by
  obtain ⟨-, h⟩ := require_bind.mp h
  obtain ⟨received, -, h⟩ := bind_eq_ok.mp h
  obtain ⟨-, h⟩ := require_bind.mp h
  obtain ⟨started, hstarted, h⟩ := bind_eq_ok.mp h
  obtain ⟨htrue, h⟩ := require_bind.mp h
  obtain ⟨hopen, h⟩ := require_bind.mp h
  rw [htrue] at hstarted
  obtain ⟨saved, -, h⟩ := bind_eq_ok.mp h
  obtain ⟨-, h⟩ := require_bind.mp h
  exact ⟨collectionExecutionStarted_true hstarted, Option.isNone_iff_eq_none.mp hopen, (Except.ok.inj h).symm⟩

theorem confirmCollectionAbort_ok (h : journal.confirmCollectionAbort d permit = .ok next) :
    next = { journal with aborts := journal.aborts.modify permit.permitId fun row => { row with accepted := true } } := by
  obtain ⟨saved, -, h⟩ := bind_eq_ok.mp h
  obtain ⟨-, h⟩ := require_bind.mp h
  exact (Except.ok.inj h).symm

structure Completed (d : CollectionDigests Sha) (journal next : CollectionJournal Sha) (permitId : String) (artifact : NativeUnitArtifact) :
    Prop where
  running : journal.aborts.get? permitId = none
  received : ∃ receipt, journal.receipts.get? permitId = some receipt ∧ receipt.unitId = d.unitId artifact.unit
  next_eq : next = { journal with
    artifacts := journal.artifacts.setdefault (d.unitId artifact.unit) ⟨permitId, artifact.sha256, artifact.byteCount, artifact.recordCount⟩ }

theorem recordCollectionArtifact_ok (h : journal.recordCollectionArtifact d permitId verified artifact = .ok (next, first)) :
    Completed d journal next permitId artifact := by
  obtain ⟨-, h⟩ := require_bind.mp h
  obtain ⟨hrunning, h⟩ := require_bind.mp h
  obtain ⟨hreceived, h⟩ := require_bind.mp h
  obtain ⟨-, h⟩ := require_bind.mp h
  obtain ⟨-, h⟩ := require_bind.mp h
  obtain ⟨rfl, -⟩ := Prod.mk.inj (Except.ok.inj h)
  exact ⟨Option.isNone_iff_eq_none.mp hrunning, Option.map_eq_some_iff.mp hreceived, rfl⟩

theorem retireHistoryUpload_ok (h : journal.retireHistoryUpload deviceId requestSha256 snapshot now = .ok next) :
    next = journal ∧ journal.historyUploadRetired deviceId snapshot.requestId = true ∨
      next = { journal with
        retirements := journal.retirements.set (deviceId, snapshot.requestId) ⟨requestSha256, snapshot.evidenceJson⟩
        aborts := journal.aborts.filter fun entry => !(journal.requestPermits deviceId snapshot.requestId).contains entry.1
        executions := journal.executions.filter fun entry => !(journal.requestPermits deviceId snapshot.requestId).contains entry.1
        artifacts := journal.artifacts.filter fun entry => !(journal.requestPermits deviceId snapshot.requestId).contains entry.2.permitId
        receipts := journal.receipts.filter fun entry => !(entry.2.deviceId = deviceId && entry.2.requestId = snapshot.requestId) } := by
  unfold CollectionJournal.retireHistoryUpload at h
  split at h
  · cases h
  · split at h
    · rename_i existing hexisting
      split at h
      · cases h
      · refine .inl ⟨(Except.ok.inj h).symm, ?_⟩
        rw [CollectionJournal.historyUploadRetired, Dict.contains, hexisting]
        rfl
    · dsimp only at h
      split at h
      · cases h
      · exact .inr (Except.ok.inj h).symm

/-! ### What the tables promise -/

structure TablesSound (d : CollectionDigests Sha) (journal : CollectionJournal Sha) : Prop where
  receipts : ∀ permitId receipt, journal.receipts.get? permitId = some receipt →
    ∃ permit, permit.permitId = permitId ∧ receipt = receiptOf d permit
  executions : ∀ permitId execution, journal.executions.get? permitId = some execution →
    ∃ receipt, journal.receipts.get? permitId = some receipt ∧ receipt.unitId = execution.unitId
  artifacts : ∀ unitId row, journal.artifacts.get? unitId = some row →
    (∃ execution, journal.executions.get? row.permitId = some execution ∧ execution.unitId = unitId) ∧ journal.aborts.get? row.permitId = none
  aborts : ∀ permitId row, journal.aborts.get? permitId = some row → ∃ execution, journal.executions.get? permitId = some execution
  single : ∀ permitId permitId' execution execution', journal.executions.get? permitId = some execution →
    journal.executions.get? permitId' = some execution' → execution.unitId = execution'.unitId →
      journal.unresolved permitId = true → journal.unresolved permitId' = true → permitId = permitId'
  retired : ∀ deviceId requestId, journal.historyUploadRetired deviceId requestId = true → ∀ permitId receipt,
    journal.receipts.get? permitId = some receipt → ¬ (receipt.deviceId = deviceId ∧ receipt.requestId = requestId)

theorem TablesSound.receiptOf_same (hinj : Function.Injective d.payloadHash) (h : TablesSound d journal) {receipt : CollectionReceipt Sha}
    (hreceipt : journal.receipts.get? permit.permitId = some receipt) (hsame : receipt.permitSha256 = d.payloadHash permit) :
    receipt = receiptOf d permit := by
  obtain ⟨own, hid, rfl⟩ := h.receipts permit.permitId receipt hreceipt
  rw [hinj hsame]

theorem TablesSound.accept (h : TablesSound d journal) (haccepted : Accepted d journal next permit now) : TablesSound d next := by
  obtain ⟨hunretired, -, -, hsame, rfl⟩ := haccepted
  refine ⟨fun permitId receipt hreceipt => ?_, fun permitId execution hexecution => ?_, h.artifacts, h.aborts, h.single,
    fun deviceId requestId hretired permitId receipt hreceipt => ?_⟩
  · rcases Dict.get?_setdefault_eq_some.mp hreceipt with hreceipt | ⟨-, rfl, rfl⟩
    · exact h.receipts permitId receipt hreceipt
    · exact ⟨permit, rfl, rfl⟩
  · obtain ⟨receipt, hreceipt, hunit⟩ := h.executions permitId execution hexecution
    exact ⟨receipt, Dict.get?_setdefault_eq_some.mpr (.inl hreceipt), hunit⟩
  · rcases Dict.get?_setdefault_eq_some.mp hreceipt with hreceipt | ⟨-, rfl, rfl⟩
    · exact h.retired deviceId requestId hretired permitId receipt hreceipt
    · rintro ⟨rfl, rfl⟩
      exact absurd hretired (by rw [Bool.not_eq_true]; exact hunretired)

theorem TablesSound.begin (hinj : Function.Injective d.payloadHash) (h : TablesSound d journal) (hbegun : Begun d journal next permit now) :
    TablesSound d next := by
  obtain ⟨-, ⟨receipt, hreceipt, hsame⟩, -, -, hresolved, hnew, rfl⟩ := hbegun
  have hown := h.receiptOf_same hinj hreceipt hsame
  have hcases : ∀ permitId execution, (journal.executions.set permit.permitId
      ⟨d.unitId permit.unit, journal.nextAttempt (d.unitId permit.unit)⟩).get? permitId = some execution →
        permitId = permit.permitId ∧ execution.unitId = d.unitId permit.unit ∨ journal.executions.get? permitId = some execution := by
    intro permitId execution hexecution
    rw [Dict.get?_set] at hexecution
    split at hexecution
    · rename_i hid
      obtain rfl := Option.some.inj hexecution
      exact .inl ⟨hid.symm, rfl⟩
    · exact .inr hexecution
  have hkept : ∀ permitId execution, journal.executions.get? permitId = some execution → (journal.executions.set permit.permitId
      ⟨d.unitId permit.unit, journal.nextAttempt (d.unitId permit.unit)⟩).get? permitId = some execution := by
    intro permitId execution hexecution
    rw [Dict.get?_set_ne _ _ ?_]
    · exact hexecution
    · rintro rfl
      rw [hnew] at hexecution
      cases hexecution
  refine ⟨h.receipts, fun permitId execution hexecution => ?_, fun unitId row hrow => ?_, fun permitId row hrow => ?_,
    fun permitId permitId' execution execution' hexecution hexecution' hunit hopen hopen' => ?_, h.retired⟩
  · rcases hcases permitId execution hexecution with ⟨rfl, hunit⟩ | hexecution
    · exact ⟨receipt, hreceipt, by rw [hown, receiptOf, hunit]⟩
    · exact h.executions permitId execution hexecution
  · obtain ⟨⟨execution, hexecution, hunit⟩, hrunning⟩ := h.artifacts unitId row hrow
    exact ⟨⟨execution, hkept _ _ hexecution, hunit⟩, hrunning⟩
  · obtain ⟨execution, hexecution⟩ := h.aborts permitId row hrow
    exact ⟨execution, hkept _ _ hexecution⟩
  · rcases hcases permitId execution hexecution with ⟨rfl, hown⟩ | hold
    · rcases hcases permitId' execution' hexecution' with ⟨rfl, -⟩ | hold'
      · rfl
      · exact absurd hopen' (by rw [Bool.not_eq_true]; exact hresolved permitId' execution' hold' (hunit.symm.trans hown))
    · rcases hcases permitId' execution' hexecution' with ⟨rfl, hown'⟩ | hold'
      · exact absurd hopen (by rw [Bool.not_eq_true]; exact hresolved permitId execution hold (hunit.trans hown'))
      · exact h.single permitId permitId' execution execution' hold hold' hunit hopen hopen'

theorem unresolved_abort (permitId : String) :
    ({ journal with aborts := journal.aborts.setdefault permit.permitId ⟨d.unitId permit.unit, permit, failure, false⟩ } :
      CollectionJournal Sha).unresolved permitId = journal.unresolved permitId := by
  unfold CollectionJournal.unresolved
  rw [Dict.get?_setdefault, Dict.getD]
  split
  · rename_i hid
    subst hid
    cases journal.aborts.get? permit.permitId <;> rfl
  · rfl

theorem TablesSound.abort (h : TablesSound d journal) (haborted : Aborted d journal next permit failure) : TablesSound d next := by
  obtain ⟨⟨execution, receipt, hexecution, hunit, -⟩, hunsealed, rfl⟩ := haborted
  refine ⟨h.receipts, h.executions, fun unitId row hrow => ?_, fun permitId row hrow => ?_, ?_, h.retired⟩
  · obtain ⟨⟨own, hown, howns⟩, hrunning⟩ := h.artifacts unitId row hrow
    refine ⟨⟨own, hown, howns⟩, ?_⟩
    rw [Option.eq_none_iff_forall_ne_some]
    intro other hother
    rcases Dict.get?_setdefault_eq_some.mp hother with hother | ⟨-, hid, -⟩
    · rw [hrunning] at hother
      cases hother
    · rw [← hid, hexecution] at hown
      obtain rfl := Option.some.inj hown
      rw [← howns, hunit, hunsealed] at hrow
      cases hrow
  · rcases Dict.get?_setdefault_eq_some.mp hrow with hrow | ⟨-, rfl, -⟩
    · exact h.aborts permitId row hrow
    · exact ⟨execution, hexecution⟩
  · intro permitId permitId' execution execution' hexecution hexecution' hunit hopen hopen'
    rw [unresolved_abort] at hopen hopen'
    exact h.single permitId permitId' execution execution' hexecution hexecution' hunit hopen hopen'

theorem TablesSound.confirm (h : TablesSound d journal) (hnext : next = { journal with
    aborts := journal.aborts.modify permit.permitId fun row => { row with accepted := true } }) : TablesSound d next := by
  subst hnext
  have hopen_of : ∀ permitId, ({ journal with
      aborts := journal.aborts.modify permit.permitId fun row => { row with accepted := true } } : CollectionJournal Sha).unresolved permitId = true →
        journal.unresolved permitId = true := by
    intro permitId hopen
    unfold CollectionJournal.unresolved at hopen ⊢
    rw [Dict.get?_modify] at hopen
    split at hopen
    · rename_i hid
      subst hid
      cases hrow : journal.aborts.get? permit.permitId with
      | none => rfl
      | some row =>
        rw [hrow] at hopen
        cases hopen
    · exact hopen
  refine ⟨h.receipts, h.executions, fun unitId row hrow => ?_, fun permitId row hrow => ?_, ?_, h.retired⟩
  · obtain ⟨hown, hrunning⟩ := h.artifacts unitId row hrow
    refine ⟨hown, ?_⟩
    rw [Option.eq_none_iff_forall_ne_some]
    intro other hother
    obtain ⟨before, hbefore, -⟩ := Dict.get?_modify_eq_some hother
    rw [hrunning] at hbefore
    cases hbefore
  · obtain ⟨before, hbefore, -⟩ := Dict.get?_modify_eq_some hrow
    exact h.aborts permitId before hbefore
  · intro permitId permitId' execution execution' hexecution hexecution' hunit hopen hopen'
    exact h.single permitId permitId' execution execution' hexecution hexecution' hunit (hopen_of permitId hopen) (hopen_of permitId' hopen')

theorem TablesSound.complete (h : TablesSound d journal) (hcompleted : Completed d journal next permitId artifact)
    (hstarted : ∃ execution, journal.executions.get? permitId = some execution) : TablesSound d next := by
  obtain ⟨hrunning, ⟨receipt, hreceipt, hunit⟩, rfl⟩ := hcompleted
  obtain ⟨execution, hexecution⟩ := hstarted
  refine ⟨h.receipts, h.executions, fun unitId row hrow => ?_, h.aborts, h.single, h.retired⟩
  rcases Dict.get?_setdefault_eq_some.mp hrow with hrow | ⟨-, rfl, rfl⟩
  · exact h.artifacts unitId row hrow
  · obtain ⟨own, hown, hsame⟩ := h.executions permitId execution hexecution
    obtain rfl := Option.some.inj (hreceipt.symm.trans hown)
    exact ⟨⟨execution, hexecution, hsame.symm.trans hunit⟩, hrunning⟩

/-! ## Retiring -/

theorem mem_requestPermits : (journal.requestPermits deviceId requestId).contains permitId = true ↔
    ∃ receipt, journal.receipts.get? permitId = some receipt ∧ receipt.deviceId = deviceId ∧ receipt.requestId = requestId := by
  simp only [CollectionJournal.requestPermits, List.contains_iff_mem, List.mem_map, List.mem_filter, Bool.and_eq_true, decide_eq_true_eq]
  constructor
  · rintro ⟨⟨id, receipt⟩, ⟨hmem, hscope⟩, rfl⟩
    exact ⟨receipt, Dict.mem_entries.mp hmem, hscope⟩
  · rintro ⟨receipt, hget, hscope⟩
    exact ⟨(permitId, receipt), ⟨Dict.mem_entries.mpr hget, hscope⟩, rfl⟩

structure Retires (deviceId requestId : String) (journal next : CollectionJournal Sha) : Prop where
  receipts : ∀ permitId receipt, next.receipts.get? permitId = some receipt ↔
    journal.receipts.get? permitId = some receipt ∧ ¬ (receipt.deviceId = deviceId ∧ receipt.requestId = requestId)
  executions : ∀ permitId execution, next.executions.get? permitId = some execution ↔
    journal.executions.get? permitId = some execution ∧ (journal.requestPermits deviceId requestId).contains permitId = false
  artifacts : ∀ unitId row, next.artifacts.get? unitId = some row ↔
    journal.artifacts.get? unitId = some row ∧ (journal.requestPermits deviceId requestId).contains row.permitId = false
  aborts : ∀ permitId row, next.aborts.get? permitId = some row ↔
    journal.aborts.get? permitId = some row ∧ (journal.requestPermits deviceId requestId).contains permitId = false
  retired : ∀ deviceId' requestId', next.historyUploadRetired deviceId' requestId' = true ↔
    deviceId' = deviceId ∧ requestId' = requestId ∨ journal.historyUploadRetired deviceId' requestId' = true
  epochs : next.ownerEpochs = journal.ownerEpochs
  kept : next.executions = journal.executions.filter fun entry => !(journal.requestPermits deviceId requestId).contains entry.1

theorem retireHistoryUpload_retires (h : journal.retireHistoryUpload deviceId requestSha256 snapshot now = .ok next) :
    next = journal ∨ Retires deviceId snapshot.requestId journal next := by
  rcases retireHistoryUpload_ok h with ⟨hsame, -⟩ | rfl
  · exact .inl hsame
  · refine .inr ⟨fun permitId receipt => ?_, fun permitId execution => ?_, fun unitId row => ?_, fun permitId row => ?_,
      fun deviceId' requestId' => ?_, rfl, rfl⟩
    · rw [Dict.get?_filter, Option.filter_eq_some_iff]
      simp [imp_iff_not_or]
    · rw [Dict.get?_filter, Option.filter_eq_some_iff]
      simp
    · rw [Dict.get?_filter, Option.filter_eq_some_iff]
      simp
    · rw [Dict.get?_filter, Option.filter_eq_some_iff]
      simp
    · unfold CollectionJournal.historyUploadRetired Dict.contains
      rw [Dict.get?_set]
      split
      · rename_i hkey
        obtain ⟨rfl, rfl⟩ := Prod.mk.inj hkey
        simp
      · rename_i hkey
        have hne : ¬ (deviceId' = deviceId ∧ requestId' = snapshot.requestId) := by
          rintro ⟨rfl, rfl⟩
          exact hkey rfl
        simp [hne]

theorem TablesSound.retire (h : TablesSound d journal) (hretires : Retires deviceId requestId journal next) : TablesSound d next := by
  obtain ⟨hreceipts, hexecutions, hartifacts, haborts, hretired, -, -⟩ := hretires
  have hopen_of : ∀ permitId execution, next.executions.get? permitId = some execution → next.unresolved permitId = true →
      journal.unresolved permitId = true := by
    intro permitId execution hexecution hopen
    obtain ⟨-, hother⟩ := (hexecutions permitId execution).mp hexecution
    unfold CollectionJournal.unresolved at hopen ⊢
    cases hrow : journal.aborts.get? permitId with
    | none => rfl
    | some row =>
      rw [(haborts permitId row).mpr ⟨hrow, hother⟩] at hopen
      exact hopen
  refine ⟨fun permitId receipt hreceipt => ?_, fun permitId execution hexecution => ?_, fun unitId row hrow => ?_,
    fun permitId row hrow => ?_, fun permitId permitId' execution execution' hexecution hexecution' hunit hopen hopen' => ?_,
    fun deviceId' requestId' htomb permitId receipt hreceipt => ?_⟩
  · exact h.receipts permitId receipt ((hreceipts permitId receipt).mp hreceipt).1
  · obtain ⟨hold, hother⟩ := (hexecutions permitId execution).mp hexecution
    obtain ⟨receipt, hreceipt, hunit⟩ := h.executions permitId execution hold
    refine ⟨receipt, (hreceipts permitId receipt).mpr ⟨hreceipt, fun hscope => ?_⟩, hunit⟩
    rw [mem_requestPermits.mpr ⟨receipt, hreceipt, hscope⟩] at hother
    cases hother
  · obtain ⟨hold, hother⟩ := (hartifacts unitId row).mp hrow
    obtain ⟨⟨execution, hexecution, hunit⟩, hrunning⟩ := h.artifacts unitId row hold
    refine ⟨⟨execution, (hexecutions _ _).mpr ⟨hexecution, hother⟩, hunit⟩, Option.eq_none_iff_forall_ne_some.mpr fun abort habort => ?_⟩
    rw [((haborts _ _).mp habort).1] at hrunning
    cases hrunning
  · obtain ⟨hold, hother⟩ := (haborts permitId row).mp hrow
    obtain ⟨execution, hexecution⟩ := h.aborts permitId row hold
    exact ⟨execution, (hexecutions _ _).mpr ⟨hexecution, hother⟩⟩
  · exact h.single permitId permitId' execution execution' ((hexecutions _ _).mp hexecution).1 ((hexecutions _ _).mp hexecution').1 hunit
      (hopen_of permitId execution hexecution hopen) (hopen_of permitId' execution' hexecution' hopen')
  · obtain ⟨hold, hother⟩ := (hreceipts permitId receipt).mp hreceipt
    rcases (hretired deviceId' requestId').mp htomb with ⟨rfl, rfl⟩ | htomb
    · exact hother
    · exact h.retired deviceId' requestId' htomb permitId receipt hold

end QuantX
