import QuantX.Theorems.RiskIncreaseAdmission.Sound

namespace QuantX
open Lib (Dict Run Moment require require_bind require_eq_ok check_bind bind_eq_ok map_eq_ok)

variable {Request Sha : Type} [DecidableEq Sha] {host : AdmissionHost Request Sha}
variable {t : AdmissionTables Request Sha} {log : List (AdmissionMoment Request Sha)} {b : AdmissionBatch Sha} {batchId : String}

/-! ### What was ranked -/

theorem mem_of_mapM_some {α β : Type} {f : α → Option β} {l : List α} {l' : List β} (h : l.mapM f = some l') {b : β} (hb : b ∈ l') :
    ∃ a ∈ l, f a = some b := by
  induction l generalizing l' with
  | nil =>
    cases h
    cases hb
  | cons a l ih =>
    rw [List.mapM_cons] at h
    obtain ⟨first, hfirst, h⟩ := Option.bind_eq_some_iff.mp h
    obtain ⟨rest, hrest, h⟩ := Option.bind_eq_some_iff.mp h
    cases h
    rcases List.mem_cons.mp hb with rfl | hb
    · exact ⟨a, List.mem_cons_self .., hfirst⟩
    · obtain ⟨x, hx, hfx⟩ := ih hrest hb
      exact ⟨x, List.mem_cons_of_mem _ hx, hfx⟩

theorem ownerType_value_injective : Function.Injective ExecutionOwnerType.value := by
  intro a b h
  cases a <;> cases b <;> first | rfl | exact absurd h (by decide)

theorem inScope_unique {scope scope' : AdmissionScope} (h : b.inScope scope) (h' : b.inScope scope') :
    scope = scope' := by
  have henvironment := h.1.symm.trans h'.1
  have hpaper := h.2.symm.trans h'.2
  rcases scope with _ | executionId <;> rcases scope' with _ | executionId'
  · rfl
  · exact absurd henvironment (show "LIVE" ≠ "PAPER" by decide)
  · exact absurd henvironment (show "PAPER" ≠ "LIVE" by decide)
  · cases hpaper
    rfl

section Material
variable {scope : AdmissionScope} {t : AdmissionTables Request Sha}

omit [DecidableEq Sha] in
theorem candidateOf_ok {id : String} {intent : AdmissionIntent Request Sha} {c : RiskIncreaseAdmissionCandidate Sha}
    (h : candidateOf host scope t id intent = .ok c) : ∃ material, materialOf scope t id intent = .ok (c.ownerType, c.allocation, material) ∧
      c.materialFingerprint = host.materialDigest material ∧ c.createdAt = intent.createdAt := by
  unfold candidateOf at h
  obtain ⟨⟨ownerType, allocation, material⟩, hmaterial, h⟩ := bind_eq_ok.mp h
  obtain ⟨-, h⟩ := check_bind.mp h
  cases h
  exact ⟨material, hmaterial, rfl, rfl⟩

theorem currentRanked_mem {items : List AdmissionItem} {admissions : List (RankedRiskIncreaseAdmission Sha)}
    (h : currentRanked host scope t items = some admissions) {item : RankedRiskIncreaseAdmission Sha} (hitem : item ∈ admissions) :
    ∃ intent, t.intents.get? item.candidate.intentId = some intent ∧
      candidateOf host scope t item.candidate.intentId intent = .ok item.candidate := by
  unfold currentRanked at h
  obtain ⟨intents, hintents, h⟩ := Option.bind_eq_some_iff.mp h
  cases hranked : (intents.mapM fun e => candidateOf host scope t e.1 e.2) >>= rankRiskIncreaseCandidates with
  | error message =>
    rw [hranked] at h
    cases h
    cases hitem
  | ok ranked =>
    rw [hranked] at h
    cases h
    obtain ⟨candidates, hcandidates, hranked⟩ := bind_eq_ok.mp hranked
    obtain ⟨-, hperm, -⟩ := rankRiskIncreaseCandidates_ok hranked
    obtain ⟨⟨id, intent⟩, hentry, hcandidate⟩ := (Lib.mapM_each hcandidates).2 _ (hperm.mem_iff.mp (List.mem_map_of_mem hitem))
    obtain rfl := candidateOf_intentId hcandidate
    obtain ⟨item', -, hintent⟩ := mem_of_mapM_some hintents hentry
    obtain ⟨found, hfound, heq⟩ := Option.map_eq_some_iff.mp hintent
    obtain ⟨hid, rfl⟩ := Prod.mk.inj heq
    exact ⟨found, hid ▸ hfound, hcandidate⟩

/-- An item's intent stands as it was ranked: ready, bound, and of the same material. -/
def CarriedAsRanked (scope : AdmissionScope) (t origin : AdmissionTables Request Sha) (b : AdmissionBatch Sha) (item : AdmissionItem) : Prop :=
  ∃ intent intent₀ material, t.intents.get? item.intentId = some intent ∧ origin.intents.get? item.intentId = some intent₀ ∧
    stillReady scope item.admissionBatchId b intent ∧ materialOf scope t item.intentId intent = .ok material ∧
    materialOf scope origin item.intentId intent₀ = .ok material ∧ intent.createdAt = intent₀.createdAt

theorem manifestStands_carried {batchId : String} {b : AdmissionBatch Sha} (hmanifest : manifestStands host scope t batchId b)
    {m : AdmissionMoment Request Sha} {call : PrepareCall} {inputs : PrepareInputs Request Sha}
    (horigin : AdmissionOrigin host m scope call inputs batchId b t.items) {item : AdmissionItem} (hitem : item ∈ t.items)
    (hbatch : item.admissionBatchId = batchId) : CarriedAsRanked scope t m.before b item := by
  obtain ⟨hready, admissions, hadmissions, hdigest⟩ := hmanifest
  obtain ⟨-, -, -, -, hhash⟩ := prepareInputs_ok horigin.prepared
  have hmem : item ∈ inputs.ranked.map (itemOf batchId) := by
    rw [← horigin.items]
    exact List.mem_filter.mpr ⟨hitem, decide_eq_true hbatch⟩
  obtain ⟨ranked, hranked, rfl⟩ := List.mem_map.mp hmem
  obtain ⟨intent₀, -, hintent₀, hcandidate₀⟩ := prepareInputs_ranked horigin.prepared hranked
  rw [horigin.manifest, hhash] at hdigest
  obtain ⟨current, hcurrent, hentry⟩ := exists_of_manifest_eq (host.manifestDigest_injective hdigest) hranked
  obtain ⟨intent, hintent, hcandidate⟩ := currentRanked_mem hadmissions hcurrent
  obtain ⟨material, hmaterial, hdigest', hcreated⟩ := candidateOf_ok hcandidate
  obtain ⟨material₀, hmaterial₀, hdigest₀, hcreated₀⟩ := candidateOf_ok hcandidate₀
  simp only [RankedRiskIncreaseAdmission.manifestEntry, AdmissionManifestEntry.mk.injEq] at hentry
  obtain ⟨-, hid, hvalue, -, htime, hfingerprint, hallocation⟩ := hentry
  have howner := ownerType_value_injective hvalue
  have hsame : material = material₀ := host.materialDigest_injective (hdigest'.symm.trans (hfingerprint.trans hdigest₀))
  rw [hid, howner, hallocation, hsame] at hmaterial
  rw [hid] at hintent
  obtain ⟨found, hfound, hstill⟩ := hready _ (by
    unfold batchItems
    rw [Lib.mem_sortBy]
    exact List.mem_filter.mpr ⟨hitem, decide_eq_true rfl⟩)
  change t.intents.get? ranked.candidate.intentId = some found at hfound
  rw [hintent] at hfound
  cases hfound
  exact ⟨intent, intent₀, _, hintent, hintent₀, hstill, hmaterial, hmaterial₀, hcreated.symm.trans (htime.trans hcreated₀)⟩

end Material

theorem toLower_toLower (c : Char) : c.toLower.toLower = c.toLower := by
  unfold Char.toLower
  split
  case isTrue hupper =>
    split
    case isTrue hlower =>
      simp only [UInt32.le_iff_toNat_le, UInt32.toNat_add, seval] at hupper hlower
      omega
    case isFalse => rfl
  case isFalse => rfl

theorem lowerDigest_lowerDigest (text : String) : lowerDigest (lowerDigest text) = lowerDigest text := by
  unfold lowerDigest
  rw [String.toList_ofList, List.map_map]
  congr 1
  refine List.map_congr_left fun c _ => ?_
  exact toLower_toLower c

omit [DecidableEq Sha] in
theorem validateAccountSnapshot_ok {scope : AdmissionScope} {t : AdmissionTables Request Sha} {accountId snapshotId snapshotHash : String}
    {now : Int} (h : validateAccountSnapshot scope t accountId snapshotId snapshotHash now = .ok ()) :
    ∃ hash, expectedSnapshot scope t accountId now = .ok (snapshotId, hash) ∧ lowerDigest hash = lowerDigest snapshotHash := by
  unfold validateAccountSnapshot at h
  obtain ⟨⟨id, hash⟩, hexpected, h⟩ := bind_eq_ok.mp h
  obtain ⟨rfl, hhash⟩ := require_eq_ok.mp h
  exact ⟨hash, hexpected, hhash⟩

def ClosedKept (t t' : AdmissionTables Request Sha) : Prop :=
  ∀ id b, t.batches.get? id = some b → b.status ≠ .prepared → t'.batches.get? id = some b

theorem closedKept_set {id : String} {b b' : AdmissionBatch Sha} (hget : t.batches.get? id = some b)
    (hstatus : b.status = .prepared) : ClosedKept t (t.setBatch id b') := by
  intro k c hk hclosed
  refine (Dict.get?_set t.batches id k b').trans ?_
  rw [if_neg, hk]
  rintro rfl
  rw [hget] at hk
  cases hk
  exact hclosed hstatus

theorem ClosedKept.refl (t : AdmissionTables Request Sha) : ClosedKept t t := fun _ _ hget _ => hget

theorem closedKept_freed {t freed : AdmissionTables Request Sha} (h : t.Freed freed) : ClosedKept t freed := by
  rcases h with rfl | ⟨id, b, b', hget, hstatus, -, rfl⟩
  · exact .refl _
  · exact closedKept_set hget hstatus

theorem closedKept_step (e : AdmissionEvent Request Sha) (hlegal : AdmissionLegal t e) :
    ClosedKept t (t.step host e) := by
  have heffect := @step_effect _ _ _ host t e
  generalize t.step host e = t' at heffect ⊢
  generalize t.answer? host e = answer at heffect
  cases heffect with
  | freed hfreed => exact closedKept_freed hfreed
  | outside =>
    intro id b hget _
    rw [hlegal.batches]
    exact hget
  | @prepared scope call kept inputs freed attempt hinputs hassigned =>
    obtain ⟨hfreed, -⟩ := retireAssigned_free hassigned
    intro id b hget hstatus
    refine (Dict.get?_set freed.batches call.batchId id _).trans ?_
    rw [if_neg, closedKept_freed hfreed id b hget hstatus]
    rintro rfl
    rw [hlegal.2] at hget
    cases hget
  | claimed h => exact closedKept_set h.get h.status
  | renewed h => exact closedKept_set h.get h.status
  | committed h => exact closedKept_set h.get h.status

theorem AdmissionRun.closed (h : AdmissionRun host log t) :
    ∀ m ∈ log, ClosedKept m.after t :=
  h.since ClosedKept.refl (fun _ _ _ hab hbc id b hget hstatus => hbc id b (hab id b hget hstatus) hstatus)
    fun _ _ e _ hlegal => closedKept_step e hlegal

def CommitsBatch (host : AdmissionHost Request Sha) (m : AdmissionMoment Request Sha) (batchId : String) : Prop :=
  m.before.answer? host m.op = some (.committed batchId)

theorem commit_inversion {e : AdmissionEvent Request Sha}
    (h : t.answer? host e = some (.committed batchId)) : ∃ scope call kept b, e = .call scope (.commit call) kept ∧ call.batchId = batchId ∧
      Claimed scope t batchId call.fenceToken call.now b ∧ manifestStands host scope t batchId b ∧
      t.step host e = t.setBatch batchId (b.commit call.now) := by
  have heffect := @step_effect _ _ _ host t e
  rw [h] at heffect
  generalize t.step host e = t' at heffect ⊢
  cases heffect with
  | freed _ hanswer =>
    rcases hanswer with hnone | ⟨id, hprepared⟩
    · cases hnone
    · cases hprepared
  | @committed scope call kept b hclaimed hmanifest => exact ⟨scope, call, kept, b, rfl, rfl, hclaimed, hmanifest, rfl⟩

/-- What a commit of a batch proves at its moment, after the moments before it. -/
structure FencedCommit (host : AdmissionHost Request Sha) (earlier : List (AdmissionMoment Request Sha)) (m : AdmissionMoment Request Sha)
    (scope : AdmissionScope) (call : CommitCall) (b : AdmissionBatch Sha) (origin : AdmissionMoment Request Sha) (prepare : PrepareCall)
    (inputs : PrepareInputs Request Sha) : Prop where
  get : m.before.batches.get? call.batchId = some b
  status : b.status = .prepared
  /-- The token is the one issued last, within its lease and the batch's time. -/
  fence : ∃ lease, lastClaim host call.batchId earlier = some (call.fenceToken, lease) ∧ call.now < lease
  inTime : call.now < prepare.now + admissionTtl
  born : origin ∈ earlier ∧ AdmissionOrigin host origin scope prepare inputs call.batchId b m.before.items
  snapshot : ∃ id hash hash', expectedSnapshot scope m.before b.accountId call.now = .ok (id, hash) ∧
    expectedSnapshot scope origin.before b.accountId prepare.now = .ok (id, hash') ∧ lowerDigest hash = lowerDigest hash'
  carried : ∀ item ∈ m.before.items, item.admissionBatchId = call.batchId → CarriedAsRanked scope m.before origin.before b item

theorem AdmissionSound.fencedCommit
    (h : AdmissionSound host log t) {scope : AdmissionScope} {call : CommitCall} (kept : Bool)
    (hclaimed : Claimed scope t call.batchId call.fenceToken call.now b) (hmanifest : manifestStands host scope t call.batchId b)
    (t' : AdmissionTables Request Sha) : ∃ origin prepare inputs,
      FencedCommit host log ⟨t, .call scope (.commit call) kept, t'⟩ scope call b origin prepare inputs := by
  obtain ⟨hclaimable, htoken, lease, hlease, hnow⟩ := hclaimed
  obtain ⟨hget, hscope, hstatus, hsnapshot, hexpires⟩ := hclaimable
  obtain ⟨origin, hmem, scope', prepare, inputs, horigin⟩ := h.born _ _ hget
  obtain rfl := inScope_unique hscope horigin.inScope
  obtain ⟨hlast, hheld⟩ := h.fence _ _ hget hstatus
  rw [hlease] at hheld
  obtain ⟨⟨token, lease'⟩, hclaim, hlease'⟩ := Option.map_eq_some_iff.mp hheld.symm
  cases hlease'
  rw [hclaim] at hlast
  rw [hlast] at htoken
  cases htoken
  obtain ⟨-, -, hsnapshot₀, -, -⟩ := prepareInputs_ok horigin.prepared
  obtain ⟨hash, hexpected, hhash⟩ := validateAccountSnapshot_ok hsnapshot
  obtain ⟨hash', hexpected', hhash'⟩ := validateAccountSnapshot_ok hsnapshot₀
  rw [horigin.snapshotId] at hexpected
  rw [horigin.snapshotHash, lowerDigest_lowerDigest] at hhash
  rw [← horigin.account] at hexpected'
  refine ⟨origin, prepare, inputs, hget, hstatus, ⟨lease', hclaim, hnow⟩, horigin.expires ▸ hexpires, ⟨hmem, horigin⟩,
    ⟨_, hash, hash', hexpected, hexpected', hhash.trans hhash'.symm⟩, ?_⟩
  intro item hitem hbatch
  exact manifestStands_carried hmanifest horigin hitem hbatch

theorem commit_closes {m : AdmissionMoment Request Sha} (h : CommitsBatch host m batchId)
    (hafter : m.after = m.before.step host m.op) : ∃ b, m.after.batches.get? batchId = some b ∧ b.status ≠ .prepared := by
  obtain ⟨scope, call, kept, b, -, -, -, -, hstep⟩ := commit_inversion h
  rw [hafter, hstep]
  exact ⟨b.commit call.now, Dict.get?_set_self .., by simp [AdmissionBatch.commit]⟩

theorem AdmissionRun.fenced (h : AdmissionRun host log t) :
    ∀ later m earlier, log = later ++ m :: earlier → ∀ batchId, CommitsBatch host m batchId →
      ∃ scope call kept b origin prepare inputs, m.op = .call scope (.commit call) kept ∧ call.batchId = batchId ∧
        FencedCommit host earlier m scope call b origin prepare inputs := by
  refine h.each (Q := fun earlier m => ∀ batchId, CommitsBatch host m batchId → ∃ scope call kept b origin prepare inputs,
    m.op = .call scope (.commit call) kept ∧ call.batchId = batchId ∧ FencedCommit host earlier m scope call b origin prepare inputs) ?_
  intro earlier t e hrun _ batchId hcommits
  obtain ⟨scope, call, kept, b, rfl, rfl, hclaimed, hmanifest, -⟩ := commit_inversion hcommits
  obtain ⟨origin, prepare, inputs, hfenced⟩ := (AdmissionRun.sound hrun).fencedCommit kept hclaimed hmanifest (t.step host (.call scope (.commit call) kept))
  exact ⟨scope, call, kept, b, origin, prepare, inputs, rfl, rfl, hfenced⟩

theorem AdmissionRun.commits_once (h : AdmissionRun host log t) :
    log.Pairwise fun m m' => ∀ batchId, ¬(CommitsBatch host m batchId ∧ CommitsBatch host m' batchId) := by
  refine h.pairwise ?_
  rintro earlier t e hrun _ m' hm' batchId ⟨hcommits, hcommits'⟩
  have hafter := hrun.moments (P := fun m => m.after = m.before.step host m.op) (fun _ _ _ _ _ => rfl) m' hm'
  obtain ⟨b', hget', hstatus'⟩ := commit_closes hcommits' hafter
  have hkept := AdmissionRun.closed hrun m' hm' batchId b' hget' hstatus'
  obtain ⟨scope, call, kept, b, -, rfl, hclaimed, -, -⟩ := commit_inversion hcommits
  rw [hclaimed.get] at hkept
  cases hkept
  exact hstatus' hclaimed.status

/-- The items of a batch are ranked from one by growing keys, in whatever order the candidates are read. -/
def RankedItems (batchId : String) (items : List AdmissionItem) (Sha : Type) : Prop :=
  ∃ (candidates : List (RiskIncreaseAdmissionCandidate Sha)) (admissions : List (RankedRiskIncreaseAdmission Sha)),
    items = admissions.map (itemOf batchId) ∧ items.map (·.admissionRank) = List.range' 1 items.length ∧
      (admissions.map (·.candidate)).Pairwise (fun a b => a.orderKey < b.orderKey) ∧
      ∀ candidates', candidates'.Perm candidates → rankRiskIncreaseCandidates candidates' = .ok admissions

theorem Born.rankedItems {items : List AdmissionItem}
    (h : Born host log batchId b items) : RankedItems batchId (items.filter fun item => item.admissionBatchId = batchId) Sha := by
  obtain ⟨m, -, scope, call, inputs, horigin⟩ := h
  obtain ⟨-, -, -, ⟨candidates, -, hranked⟩, -⟩ := prepareInputs_ok horigin.prepared
  obtain ⟨hranks, -, hkeys⟩ := rankRiskIncreaseCandidates_ok hranked
  refine ⟨candidates, inputs.ranked, horigin.items, ?_, hkeys, fun candidates' hperm => (rankRiskIncreaseCandidates_perm hperm).trans hranked⟩
  rw [horigin.items, List.length_map, List.map_map, ← hranks]
  rfl

/-- Admission is fenced in every run of sequencer calls and outside changes. -/
theorem admission_fenced {log : List (AdmissionMoment Request Sha)} {t : AdmissionTables Request Sha} (h : AdmissionRun host log t) :
    -- A batch leaves the prepared status once, for good.
    (∀ m ∈ log, ClosedKept m.after t) ∧
    -- A commit goes through for the last claim only, and carries what was ranked.
    (∀ later m earlier, log = later ++ m :: earlier → ∀ batchId, CommitsBatch host m batchId →
      ∃ scope call kept b origin prepare inputs, m.op = .call scope (.commit call) kept ∧ call.batchId = batchId ∧
        FencedCommit host earlier m scope call b origin prepare inputs) ∧
    (log.Pairwise fun m m' => ∀ batchId, ¬(CommitsBatch host m batchId ∧ CommitsBatch host m' batchId)) ∧
    -- No intent is an item of two committed batches.
    (∀ item ∈ t.items, ∀ item' ∈ t.items, item.intentId = item'.intentId →
      (∃ b, t.batches.get? item.admissionBatchId = some b ∧ b.status = .committed) →
      (∃ b, t.batches.get? item'.admissionBatchId = some b ∧ b.status = .committed) → item.admissionBatchId = item'.admissionBatchId) ∧
    ∀ id b, t.batches.get? id = some b → RankedItems id (t.items.filter fun item => item.admissionBatchId = id) Sha := by
  have hsound := h.sound
  refine ⟨h.closed, h.fenced, h.commits_once, ?_, fun id b hget => (hsound.born id b hget).rankedItems⟩
  rintro item hitem item' hitem' hintent ⟨b, hget, hstatus⟩ ⟨b', hget', hstatus'⟩
  obtain ⟨intent, hfound, hbound⟩ := hsound.bound item hitem b hget hstatus
  obtain ⟨intent', hfound', hbound'⟩ := hsound.bound item' hitem' b' hget' hstatus'
  rw [hintent, hfound'] at hfound
  cases hfound
  exact Option.some.inj (hbound.symm.trans hbound')

inductive PlainSha where
  | material (payload : IntentMaterial Unit)
  | manifestEnd
  | manifest (rank : Nat) (intentId ownerType ownerId : String) (createdAt : Int) (materialFingerprint : PlainSha)
      (allocation : Option AdmissionAllocation) (rest : PlainSha)
  | input (accountId snapshotId snapshotHash watermark : String) (manifest : PlainSha) (policyVersion environment : String)
      (paperExecutionId : Option String)
deriving DecidableEq

def PlainSha.ofManifest : List (AdmissionManifestEntry PlainSha) → PlainSha
  | [] => .manifestEnd
  | entry :: rest =>
    .manifest entry.rank entry.intentId entry.ownerType entry.ownerId entry.createdAt entry.materialFingerprint entry.allocation
      (ofManifest rest)

theorem PlainSha.ofManifest_injective : Function.Injective PlainSha.ofManifest := by
  intro entries
  induction entries with
  | nil =>
    rintro (_ | ⟨entry', rest'⟩) h
    · rfl
    · cases h
  | cons entry rest ih =>
    rintro (_ | ⟨entry', rest'⟩) h
    · cases h
    · simp only [ofManifest, PlainSha.manifest.injEq] at h
      obtain ⟨hrank, hid, htype, howner, hcreated, hmaterial, hallocation, hrest⟩ := h
      rw [ih hrest]
      congr 1
      cases entry
      cases entry'
      simp_all

def transparentHost : AdmissionHost Unit PlainSha where
  materialDigest := .material
  manifestDigest := .ofManifest
  inputDigest input := .input input.accountId input.accountSnapshotId input.accountSnapshotHash input.obligationWatermark
    input.intentManifestHash input.policyVersion input.environment input.paperExecutionId
  materialDigest_injective _ _ h := PlainSha.material.inj h
  manifestDigest_injective := PlainSha.ofManifest_injective

def readyBuy (ownerType ownerId instrumentCode : String) (createdAt : Int) : AdmissionIntent Unit PlainSha where
  ownerType
  ownerId
  environment := "LIVE"
  accountId := "account"
  instrumentCode
  direction := "BUY"
  status := "EXECUTION_READY"
  createdAt
  order := ⟨"core", "NORMAL", some 10000, none, none, none, "", none⟩
  candidateId := none
  allocationCycleId := none
  allocationVersion := 0
  allocationDecisionId := none
  admissionBatchId := none
  admissionRank := none
  admissionPolicyVersion := none
  admissionInputFingerprint := none

def readyTables : AdmissionTables Unit PlainSha where
  batches := Dict.empty
  items := []
  intents := (Dict.empty.set "strategy-buy" (readyBuy "STRATEGY_RUN" "run" "600000.SH" 1)).set "manual-buy"
    (readyBuy "MANUAL_COMMAND" "desk" "000001.SZ" 2)
  controls := Dict.empty.set "account" ⟨"snapshot", "AB"⟩
  paperAccounts := Dict.empty
  decisions := Dict.empty
  allocations := Dict.empty

def prepareEvent : AdmissionEvent Unit PlainSha :=
  .call .live (.prepare ⟨"account", "snapshot", "ab", "watermark", [], riskIncreaseAdmissionPolicyVersion, 10, true, "batch"⟩) false

def claimEvent : AdmissionEvent Unit PlainSha := .call .live (.claim ⟨"batch", "dispatcher", 20, true, "token"⟩) false

def renewEvent : AdmissionEvent Unit PlainSha := .call .live (.renew ⟨"batch", "token", 30, true⟩) false

def commitEvent : AdmissionEvent Unit PlainSha :=
  .call .live (.commit ⟨"batch", "token", "snapshot", "ab", "watermark", 40, true⟩) false

def preparedTables : AdmissionTables Unit PlainSha := readyTables.step transparentHost prepareEvent
def claimedTables : AdmissionTables Unit PlainSha := preparedTables.step transparentHost claimEvent
def renewedTables : AdmissionTables Unit PlainSha := claimedTables.step transparentHost renewEvent

def claimedLog : List (AdmissionMoment Unit PlainSha) :=
  [⟨claimedTables, renewEvent, renewedTables⟩, ⟨preparedTables, claimEvent, claimedTables⟩, ⟨readyTables, prepareEvent, preparedTables⟩]

theorem claimedLog_run : AdmissionRun transparentHost claimedLog renewedTables :=
  .step (.step (.step (.start ⟨rfl, rfl⟩) prepareEvent ⟨by decide, rfl⟩) claimEvent trivial) renewEvent trivial

/-- The commit of the claimed batch, with the manual buy ranked first. -/
theorem admission_fenced_live :
    let m : AdmissionMoment Unit PlainSha := ⟨renewedTables, commitEvent, renewedTables.step transparentHost commitEvent⟩
    (m.after.items.map fun item => (item.intentId, item.admissionRank)) = [("manual-buy", 1), ("strategy-buy", 2)] ∧
      ∃ scope call kept b origin prepare inputs, m.op = .call scope (.commit call) kept ∧ call.batchId = "batch" ∧
        FencedCommit transparentHost claimedLog m scope call b origin prepare inputs := by
  intro m
  have h : AdmissionRun transparentHost (m :: claimedLog) m.after := .step claimedLog_run commitEvent trivial
  obtain ⟨-, hfenced, -⟩ := admission_fenced h
  refine ⟨by decide +kernel, hfenced [] m claimedLog rfl "batch" ?_⟩
  change m.before.answer? transparentHost m.op = some (.committed "batch")
  decide +kernel

end QuantX
