import QuantX.Lib.Run
import QuantX.Theorems.RiskIncreaseAdmission.Effects

namespace QuantX
open Lib (Dict Run Moment require require_bind check_bind bind_eq_ok map_eq_ok)

abbrev AdmissionMoment (Request Sha : Type) := Moment (AdmissionTables Request Sha) (AdmissionEvent Request Sha)

variable {Request Sha : Type} [DecidableEq Sha] {host : AdmissionHost Request Sha}

/-- Outside changes leave batches, items and the admission fields of intents alone; a new intent has none. -/
structure AdmissionTables.AdmissionKept (t changed : AdmissionTables Request Sha) : Prop where
  batches : changed.batches = t.batches
  items : changed.items = t.items
  intents : ∀ id intent, t.intents.get? id = some intent → ∃ intent', changed.intents.get? id = some intent' ∧
    intent'.admissionBatchId = intent.admissionBatchId ∧ intent'.admissionRank = intent.admissionRank ∧
    intent'.admissionPolicyVersion = intent.admissionPolicyVersion ∧
    intent'.admissionInputFingerprint = intent.admissionInputFingerprint
  added : ∀ id intent, t.intents.get? id = none → changed.intents.get? id = some intent → intent.admissionBatchId = none

def AdmissionLegal (t : AdmissionTables Request Sha) : AdmissionEvent Request Sha → Prop
  | .call _ (.prepare call) _ => call.batchId ≠ "" ∧ t.batches.get? call.batchId = none
  | .outside changed => t.AdmissionKept changed
  | _ => True

structure AdmissionTables.Fresh (t : AdmissionTables Request Sha) : Prop where
  batches : t.batches = Dict.empty
  items : t.items = []

abbrev AdmissionRun (host : AdmissionHost Request Sha) (log : List (AdmissionMoment Request Sha)) (t : AdmissionTables Request Sha) : Prop :=
  Run AdmissionTables.Fresh (AdmissionTables.step host) (fun _ t e => AdmissionLegal t e) log t

/-- The token and the lease of a batch's claim after one more event. -/
def noteClaim (batchId : String) (e : AdmissionEvent Request Sha) (answer : Option AdmissionAnswer) (last : Option (String × Int)) :
    Option (String × Int) :=
  match e, answer with
  | .call _ (.claim call) _, some (.claimed claim) => if call.batchId = batchId then some (claim.fenceToken, claim.leaseUntil) else last
  | .call _ (.renew call) _, some (.renewed leaseUntil) =>
    if call.batchId = batchId then last.map fun claim => (claim.1, leaseUntil) else last
  | _, _ => last

def lastClaim (host : AdmissionHost Request Sha) (batchId : String) : List (AdmissionMoment Request Sha) → Option (String × Int)
  | [] => none
  | m :: earlier => noteClaim batchId m.op (m.before.answer? host m.op) (lastClaim host batchId earlier)

theorem noteClaim_other {batchId : String} {e : AdmissionEvent Request Sha} {answer : Option AdmissionAnswer} {last : Option (String × Int)}
    (h : answer = none ∨ ∃ id, answer = some (.prepared id)) : noteClaim batchId e answer last = last := by
  rcases h with rfl | ⟨id, rfl⟩
  · rcases e with ⟨scope, call | call | call | call, kept⟩ | changed <;> rfl
  · rcases e with ⟨scope, call | call | call | call, kept⟩ | changed <;> rfl

structure AdmissionOrigin (host : AdmissionHost Request Sha) (m : AdmissionMoment Request Sha) (scope : AdmissionScope) (call : PrepareCall)
    (inputs : PrepareInputs Request Sha) (batchId : String) (b : AdmissionBatch Sha) (items : List AdmissionItem) : Prop where
  op : ∃ kept, m.op = .call scope (.prepare call) kept
  id : call.batchId = batchId
  prepared : prepareInputs host scope m.before call = .ok inputs
  account : b.accountId = inputs.accountId
  inScope : b.inScope scope
  snapshotId : b.accountSnapshotId = call.accountSnapshotId
  snapshotHash : b.accountSnapshotHash = lowerDigest call.accountSnapshotHash
  manifest : b.intentManifestHash = inputs.manifestHash
  expires : b.expiresAt = call.now + admissionTtl
  items : items.filter (fun item => item.admissionBatchId = batchId) = inputs.ranked.map (itemOf batchId)

def Born (host : AdmissionHost Request Sha) (log : List (AdmissionMoment Request Sha)) (batchId : String) (b : AdmissionBatch Sha)
    (items : List AdmissionItem) : Prop :=
  ∃ m ∈ log, ∃ scope call inputs, AdmissionOrigin host m scope call inputs batchId b items

structure AdmissionBatch.SameOrigin (b b' : AdmissionBatch Sha) : Prop where
  account : b'.accountId = b.accountId
  environment : b'.environment = b.environment
  paper : b'.paperExecutionId = b.paperExecutionId
  snapshotId : b'.accountSnapshotId = b.accountSnapshotId
  snapshotHash : b'.accountSnapshotHash = b.accountSnapshotHash
  manifest : b'.intentManifestHash = b.intentManifestHash
  expires : b'.expiresAt = b.expiresAt

theorem AdmissionBatch.Closes.sameOrigin {b b' : AdmissionBatch Sha} (h : b.Closes b') : b.SameOrigin b' := by
  obtain ⟨status, reason, -, -, rfl⟩ := h
  exact ⟨rfl, rfl, rfl, rfl, rfl, rfl, rfl⟩

theorem Born.touch {log : List (AdmissionMoment Request Sha)} {batchId : String} {b b' : AdmissionBatch Sha} {items : List AdmissionItem}
    (h : Born host log batchId b items) (hsame : b.SameOrigin b') : Born host log batchId b' items := by
  obtain ⟨m, hm, scope, call, inputs, hop, hid, hinputs, haccount, hscope, hsnapshot, hhash, hmanifest, hexpires, hitems⟩ := h
  obtain ⟨haccount', henvironment', hpaper', hsnapshot', hhash', hmanifest', hexpires'⟩ := hsame
  refine ⟨m, hm, scope, call, inputs, hop, hid, hinputs, haccount'.trans haccount, ?_, hsnapshot'.trans hsnapshot, hhash'.trans hhash,
    hmanifest'.trans hmanifest, hexpires'.trans hexpires, hitems⟩
  exact ⟨henvironment'.trans hscope.1, hpaper'.trans hscope.2⟩

theorem Born.later {log : List (AdmissionMoment Request Sha)} {batchId : String} {b : AdmissionBatch Sha} {items : List AdmissionItem}
    (h : Born host log batchId b items) (m : AdmissionMoment Request Sha) : Born host (m :: log) batchId b items := by
  obtain ⟨origin, hmem, horigin⟩ := h
  exact ⟨origin, List.mem_cons_of_mem _ hmem, horigin⟩

structure AdmissionSound (host : AdmissionHost Request Sha) (log : List (AdmissionMoment Request Sha)) (t : AdmissionTables Request Sha) : Prop where
  named : ∀ id b, t.batches.get? id = some b → id ≠ ""
  born : ∀ id b, t.batches.get? id = some b → Born host log id b t.items
  unborn : ∀ id, t.batches.get? id = none → lastClaim host id log = none
  items : ∀ item ∈ t.items, ∃ b, t.batches.get? item.admissionBatchId = some b
  fence : ∀ id b, t.batches.get? id = some b → b.status = .prepared →
    b.processingFenceToken = (lastClaim host id log).map Prod.fst ∧ b.processingLeaseUntil = (lastClaim host id log).map Prod.snd
  bound : ∀ item ∈ t.items, ∀ b, t.batches.get? item.admissionBatchId = some b → b.status = .committed →
    ∃ intent, t.intents.get? item.intentId = some intent ∧ intent.admissionBatchId = some item.admissionBatchId

theorem AdmissionTables.Fresh.sound {t : AdmissionTables Request Sha} (h : t.Fresh) : AdmissionSound host [] t := by
  have hnone : ∀ id b, t.batches.get? id ≠ some b := by
    intro id b hget
    rw [h.batches] at hget
    cases hget
  refine ⟨fun id b hget => absurd hget (hnone id b), fun id b hget => absurd hget (hnone id b), fun _ _ => rfl, ?_,
    fun id b hget => absurd hget (hnone id b), ?_⟩
  · rw [h.items]
    simp
  · rw [h.items]
    simp

section Step
variable {log : List (AdmissionMoment Request Sha)} {t : AdmissionTables Request Sha} (h : AdmissionSound host log t)
  {m : AdmissionMoment Request Sha}
include h

theorem AdmissionSound.later (hclaims : ∀ id, lastClaim host id (m :: log) = lastClaim host id log) : AdmissionSound host (m :: log) t where
  named := h.named
  born := fun id b hget => (h.born id b hget).later m
  unborn := fun id hget => (hclaims id).trans (h.unborn id hget)
  items := h.items
  fence := by
    intro id b hget hstatus
    rw [hclaims]
    exact h.fence id b hget hstatus
  bound := h.bound

theorem AdmissionSound.set {id : String} {b b' : AdmissionBatch Sha} (hget : t.batches.get? id = some b) (hsame : b.SameOrigin b')
    (hclaims : ∀ k, id ≠ k → lastClaim host k (m :: log) = lastClaim host k log)
    (hfence : b'.status = .prepared → b'.processingFenceToken = (lastClaim host id (m :: log)).map Prod.fst ∧
      b'.processingLeaseUntil = (lastClaim host id (m :: log)).map Prod.snd)
    (hbound : b'.status = .committed → ∀ item ∈ t.items, item.admissionBatchId = id →
      ∃ intent, t.intents.get? item.intentId = some intent ∧ intent.admissionBatchId = some id) :
    AdmissionSound host (m :: log) (t.setBatch id b') := by
  have hread : ∀ k, (t.setBatch id b').batches.get? k = if id = k then some b' else t.batches.get? k := fun k => Dict.get?_set ..
  refine ⟨?_, ?_, ?_, ?_, ?_, ?_⟩
  · intro k c hk
    rw [hread] at hk
    split_ifs at hk with heq
    · exact heq ▸ h.named id b hget
    · exact h.named k c hk
  · intro k c hk
    rw [hread] at hk
    split_ifs at hk with heq
    · subst heq
      cases hk
      exact ((h.born _ b hget).touch hsame).later m
    · exact (h.born k c hk).later m
  · intro k hk
    rw [hread] at hk
    split_ifs at hk with heq
    rw [hclaims k heq]
    exact h.unborn k hk
  · intro item hitem
    rw [hread]
    split_ifs
    · exact ⟨b', rfl⟩
    · exact h.items item hitem
  · intro k c hk hstatus
    rw [hread] at hk
    split_ifs at hk with heq
    · subst heq
      cases hk
      exact hfence hstatus
    · rw [hclaims k heq]
      exact h.fence k c hk hstatus
  · intro item hitem c hk hstatus
    rw [hread] at hk
    split_ifs at hk with heq
    · cases hk
      rw [← heq]
      exact hbound hstatus item hitem heq.symm
    · exact h.bound item hitem c hk hstatus

end Step

/-! ### New batches -/

section Inputs
variable {scope : AdmissionScope} {t : AdmissionTables Request Sha} {call : PrepareCall} {inputs : PrepareInputs Request Sha}

theorem prepareInputs_ok (h : prepareInputs host scope t call = .ok inputs) :
    inputs.intents = readyIntents scope t inputs.accountId ∧ inputs.intents ≠ [] ∧
      validateAccountSnapshot scope t inputs.accountId call.accountSnapshotId call.accountSnapshotHash call.now = .ok () ∧
      (∃ candidates, (inputs.intents.mapM fun e => candidateOf host scope t e.1 e.2) = .ok candidates ∧
        rankRiskIncreaseCandidates candidates = .ok inputs.ranked) ∧
      inputs.manifestHash = host.manifestDigest (inputs.ranked.map (·.manifestEntry)) := by
  unfold prepareInputs at h
  obtain ⟨-, h⟩ := require_bind.mp h
  obtain ⟨hsnapshot, h⟩ := check_bind.mp h
  obtain ⟨-, h⟩ := require_bind.mp h
  obtain ⟨-, h⟩ := require_bind.mp h
  obtain ⟨hsome, h⟩ := require_bind.mp h
  obtain ⟨candidates, hcandidates, h⟩ := bind_eq_ok.mp h
  obtain ⟨ranked, hranked, h⟩ := bind_eq_ok.mp h
  obtain ⟨-, h⟩ := require_bind.mp h
  obtain rfl := Except.ok.inj h
  exact ⟨rfl, hsome, hsnapshot, ⟨candidates, hcandidates, hranked⟩, rfl⟩

theorem candidateOf_intentId {id : String} {intent : AdmissionIntent Request Sha} {c : RiskIncreaseAdmissionCandidate Sha}
    (h : candidateOf host scope t id intent = .ok c) : c.intentId = id := by
  unfold candidateOf at h
  obtain ⟨⟨ownerType, allocation, material⟩, -, h⟩ := bind_eq_ok.mp h
  obtain ⟨-, h⟩ := check_bind.mp h
  cases h
  rfl

theorem prepareInputs_ranked (h : prepareInputs host scope t call = .ok inputs) {item : RankedRiskIncreaseAdmission Sha}
    (hitem : item ∈ inputs.ranked) : ∃ intent, (item.candidate.intentId, intent) ∈ inputs.intents ∧
      t.intents.get? item.candidate.intentId = some intent ∧
      candidateOf host scope t item.candidate.intentId intent = .ok item.candidate := by
  obtain ⟨hready, -, -, ⟨candidates, hcandidates, hranked⟩, -⟩ := prepareInputs_ok h
  obtain ⟨-, hperm, -⟩ := rankRiskIncreaseCandidates_ok hranked
  have hmem : item.candidate ∈ candidates := hperm.mem_iff.mp (List.mem_map_of_mem hitem)
  obtain ⟨⟨id, intent⟩, hentry, hcandidate⟩ := (Lib.mapM_each hcandidates).2 _ hmem
  obtain rfl := candidateOf_intentId hcandidate
  refine ⟨intent, hentry, ?_, hcandidate⟩
  rw [hready] at hentry
  unfold readyIntents at hentry
  exact Dict.mem_entries.mp (List.mem_of_mem_filter (Lib.mem_sortBy.mp hentry))

end Inputs

theorem bindIntents_get? (call : PrepareCall) (inputs : PrepareInputs Request Sha) (id : String) :
    ∀ (admissions : List (RankedRiskIncreaseAdmission Sha)) (intents : Dict String (AdmissionIntent Request Sha)),
      (∀ item ∈ admissions, item.candidate.intentId ≠ id) → (admissions.foldl (bindIntent call inputs) intents).get? id = intents.get? id := by
  intro admissions
  induction admissions with
  | nil => exact fun _ _ => rfl
  | cons item admissions ih =>
    intro intents hother
    obtain ⟨hitem, hrest⟩ := List.forall_mem_cons.mp hother
    rw [List.foldl_cons, ih _ hrest, bindIntent, Dict.get?_modify, if_neg hitem]

section Insert
variable {log : List (AdmissionMoment Request Sha)} {t : AdmissionTables Request Sha} {m : AdmissionMoment Request Sha}

theorem AdmissionSound.insert (h : AdmissionSound host (m :: log) t) {scope : AdmissionScope} {call : PrepareCall} {kept : Bool}
    {inputs : PrepareInputs Request Sha} (attempt : Nat) (hop : m.op = .call scope (.prepare call) kept)
    (hinputs : prepareInputs host scope m.before call = .ok inputs) (hintents : t.intents = m.before.intents)
    (hname : call.batchId ≠ "") (hnew : t.batches.get? call.batchId = none)
    (hfree : ∀ id ∈ inputs.boundBatches, ∀ b, t.batches.get? id = some b → b.status ≠ .committed) :
    AdmissionSound host (m :: log) (insertBatch scope t call inputs attempt) := by
  have hread : ∀ k, (insertBatch scope t call inputs attempt).batches.get? k =
      if call.batchId = k then some (newBatch scope call inputs attempt) else t.batches.get? k := fun k => Dict.get?_set ..
  have hitems : (insertBatch scope t call inputs attempt).items = t.items ++ inputs.ranked.map (itemOf call.batchId) := rfl
  have hnone : ∀ item ∈ t.items, item.admissionBatchId ≠ call.batchId := by
    intro item hitem heq
    obtain ⟨b, hget⟩ := h.items item hitem
    rw [heq, hnew] at hget
    cases hget
  have hown : ∀ k, k ≠ call.batchId → (inputs.ranked.map (itemOf call.batchId)).filter (fun item => item.admissionBatchId = k) = [] := by
    intro k hk
    rw [List.filter_eq_nil_iff]
    rintro item hitem hmem
    obtain ⟨ranked, -, rfl⟩ := List.mem_map.mp hitem
    exact hk (of_decide_eq_true hmem).symm
  refine ⟨?_, ?_, ?_, ?_, ?_, ?_⟩
  · intro k b hk
    rw [hread] at hk
    split_ifs at hk with heq
    · exact heq ▸ hname
    · exact h.named k b hk
  · intro k b hk
    rw [hread] at hk
    split_ifs at hk with heq
    · subst heq
      cases hk
      refine ⟨m, List.mem_cons_self .., scope, call, inputs, ⟨kept, hop⟩, rfl, hinputs, rfl, ⟨rfl, rfl⟩, rfl, rfl, rfl, rfl, ?_⟩
      have hold : t.items.filter (fun item => item.admissionBatchId = call.batchId) = [] := by
        rw [List.filter_eq_nil_iff]
        intro item hitem hmem
        exact hnone item hitem (of_decide_eq_true hmem)
      have hall : (inputs.ranked.map (itemOf call.batchId)).filter (fun item => item.admissionBatchId = call.batchId) =
          inputs.ranked.map (itemOf call.batchId) := by
        rw [List.filter_eq_self]
        intro item hitem
        obtain ⟨ranked, -, rfl⟩ := List.mem_map.mp hitem
        exact decide_eq_true rfl
      rw [hitems, List.filter_append, hold, hall, List.nil_append]
    · obtain ⟨origin, hmem, scope', call', inputs', horigin⟩ := h.born k b hk
      refine ⟨origin, hmem, scope', call', inputs', { horigin with items := ?_ }⟩
      rw [hitems, List.filter_append, hown k (Ne.symm heq), List.append_nil]
      exact horigin.items
  · intro k hk
    rw [hread] at hk
    split_ifs at hk
    exact h.unborn k hk
  · intro item hitem
    rw [hread]
    rcases List.mem_append.mp (hitems ▸ hitem) with hold | hadded
    · rw [if_neg (Ne.symm (hnone item hold))]
      exact h.items item hold
    · obtain ⟨ranked, -, rfl⟩ := List.mem_map.mp hadded
      exact ⟨_, if_pos rfl⟩
  · intro k b hk hstatus
    rw [hread] at hk
    split_ifs at hk with heq
    · subst heq
      cases hk
      rw [h.unborn _ hnew]
      exact ⟨rfl, rfl⟩
    · exact h.fence k b hk hstatus
  · intro item hitem b hk hstatus
    rw [hread] at hk
    split_ifs at hk with heq
    · cases hk
      cases hstatus
    · rcases List.mem_append.mp (hitems ▸ hitem) with hold | hadded
      · obtain ⟨intent, hget, hbound⟩ := h.bound item hold b hk hstatus
        refine ⟨intent, ?_, hbound⟩
        -- A ready intent of the new batch is not bound to a committed one.
        refine (bindIntents_get? call inputs item.intentId _ _ ?_).trans hget
        intro ranked hranked hid
        obtain ⟨ready, hready, hintent, -⟩ := prepareInputs_ranked hinputs hranked
        rw [hid, ← hintents, hget] at hintent
        cases hintent
        have hmember : item.admissionBatchId ∈ inputs.boundBatches := by
          unfold PrepareInputs.boundBatches
          rw [List.mem_dedup, List.mem_filter]
          exact ⟨List.mem_filterMap.mpr ⟨_, hready, hbound⟩, decide_eq_true (h.named _ b hk)⟩
        exact hfree _ hmember b hk hstatus
      · obtain ⟨ranked, -, rfl⟩ := List.mem_map.mp hadded
        exact absurd rfl heq

end Insert

/-! ### Steps -/

section Steps
variable {log : List (AdmissionMoment Request Sha)} {t : AdmissionTables Request Sha}

theorem AdmissionSound.freed (h : AdmissionSound host log t) {freed : AdmissionTables Request Sha} (hfreed : t.Freed freed)
    {m : AdmissionMoment Request Sha} (hclaims : ∀ id, lastClaim host id (m :: log) = lastClaim host id log) :
    AdmissionSound host (m :: log) freed := by
  rcases hfreed with rfl | ⟨id, b, b', hget, -, hcloses, rfl⟩
  · exact h.later hclaims
  · have hsame := hcloses.sameOrigin
    obtain ⟨status, reason, hprepared, hcommitted, rfl⟩ := hcloses
    exact h.set hget hsame (fun k _ => hclaims k) (fun hstatus => absurd hstatus hprepared) fun hstatus => absurd hstatus hcommitted

theorem AdmissionSound.changed (h : AdmissionSound host log t) {changed : AdmissionTables Request Sha} (hkept : t.AdmissionKept changed)
    {m : AdmissionMoment Request Sha} (hclaims : ∀ id, lastClaim host id (m :: log) = lastClaim host id log) :
    AdmissionSound host (m :: log) changed := by
  obtain ⟨hnamed, hborn, hunborn, hitems, hfence, hbound⟩ := h.later hclaims
  refine ⟨?_, ?_, ?_, ?_, ?_, ?_⟩
  · rw [hkept.batches]
    exact hnamed
  · rw [hkept.batches, hkept.items]
    exact hborn
  · rw [hkept.batches]
    exact hunborn
  · rw [hkept.batches, hkept.items]
    exact hitems
  · rw [hkept.batches]
    exact hfence
  · rw [hkept.batches, hkept.items]
    intro item hitem b hget hstatus
    obtain ⟨intent, hintent, hbatch⟩ := hbound item hitem b hget hstatus
    obtain ⟨intent', hintent', hsame, -⟩ := hkept.intents _ _ hintent
    exact ⟨intent', hintent', hsame.trans hbatch⟩

theorem freed_intents {freed : AdmissionTables Request Sha} (h : t.Freed freed) : freed.intents = t.intents := by
  rcases h with rfl | ⟨id, b, b', -, -, -, rfl⟩ <;> rfl

theorem freed_get? {freed : AdmissionTables Request Sha} (h : t.Freed freed) {id : String} :
    (t.batches.get? id = none → freed.batches.get? id = none) ∧
      ∀ b, t.batches.get? id = some b → b.status ≠ .committed → ∀ b', freed.batches.get? id = some b' → b'.status ≠ .committed := by
  rcases h with rfl | ⟨k, c, c', hget, -, ⟨status, reason, -, hcommitted, rfl⟩, rfl⟩
  · refine ⟨fun hnone => hnone, fun b hb hstatus b' hb' => ?_⟩
    rw [hb] at hb'
    cases hb'
    exact hstatus
  · have hread := fun b' => Dict.get?_set t.batches k id b'
    constructor
    · intro hnone
      refine (hread _).trans ?_
      rw [if_neg, hnone]
      rintro rfl
      rw [hget] at hnone
      cases hnone
    · intro b hb hstatus b' hb'
      have hb' := (hread _).symm.trans hb'
      split_ifs at hb'
      · cases hb'
        exact hcommitted
      · rw [hb] at hb'
        cases hb'
        exact hstatus

theorem manifestStands_bound {scope : AdmissionScope} {batchId : String} {b : AdmissionBatch Sha} (h : manifestStands host scope t batchId b)
    (hname : batchId ≠ "") {item : AdmissionItem} (hitem : item ∈ t.items) (hbatch : item.admissionBatchId = batchId) :
    ∃ intent, t.intents.get? item.intentId = some intent ∧ intent.admissionBatchId = some batchId := by
  have hmem : item ∈ batchItems t batchId := by
    unfold batchItems
    rw [Lib.mem_sortBy, List.mem_filter]
    exact ⟨hitem, decide_eq_true hbatch⟩
  obtain ⟨intent, hget, hready⟩ := h.1 item hmem
  refine ⟨intent, hget, ?_⟩
  obtain ⟨-, -, -, -, -, hbound⟩ := hready
  cases hassigned : intent.admissionBatchId with
  | none =>
    rw [hassigned] at hbound
    exact absurd hbound.symm hname
  | some id =>
    rw [hassigned] at hbound
    exact congrArg some hbound

theorem AdmissionSound.step (h : AdmissionSound host log t) (e : AdmissionEvent Request Sha) (hlegal : AdmissionLegal t e) :
    AdmissionSound host (⟨t, e, t.step host e⟩ :: log) (t.step host e) := by
  have heffect := @step_effect _ _ _ host t e
  have hclaim : ∀ id, lastClaim host id (⟨t, e, t.step host e⟩ :: log) =
      noteClaim id e (t.answer? host e) (lastClaim host id log) := fun _ => rfl
  generalize t.step host e = t' at heffect hclaim ⊢
  generalize t.answer? host e = answer at heffect hclaim
  cases heffect with
  | freed hfreed hanswer =>
    refine h.freed hfreed fun id => ?_
    rw [hclaim, noteClaim_other hanswer]
  | outside =>
    refine h.changed hlegal fun id => ?_
    rw [hclaim, noteClaim_other (.inl rfl)]
  | @prepared scope call kept inputs freed attempt hinputs hassigned =>
    obtain ⟨hfreed, hfree⟩ := retireAssigned_free hassigned
    obtain ⟨hname, hnew⟩ := hlegal
    refine (h.freed hfreed fun id => ?_).insert attempt rfl hinputs (freed_intents hfreed) hname ((freed_get? hfreed).1 hnew) ?_
    · rw [hclaim, noteClaim_other (.inr ⟨_, rfl⟩)]
    · intro id hid b hget
      obtain ⟨b₀, hget₀, hstatus⟩ := hfree id hid
      exact (freed_get? hfreed).2 b₀ hget₀ hstatus b hget
  | @claimed scope call kept b hclaimable =>
    refine h.set hclaimable.get ⟨rfl, rfl, rfl, rfl, rfl, rfl, rfl⟩ (fun k hk => ?_) (fun _ => ?_) fun hstatus => ?_
    · rw [hclaim]
      exact if_neg hk
    · rw [hclaim, noteClaim, if_pos rfl]
      exact ⟨rfl, rfl⟩
    · have := hclaimable.status.symm.trans hstatus
      cases this
  | @renewed scope call kept b hclaimed =>
    refine h.set hclaimed.get ⟨rfl, rfl, rfl, rfl, rfl, rfl, rfl⟩ (fun k hk => ?_) (fun _ => ?_) fun hstatus => ?_
    · rw [hclaim]
      exact if_neg hk
    · obtain ⟨lease, hlease, -⟩ := hclaimed.lease
      obtain ⟨htoken, hheld⟩ := h.fence _ _ hclaimed.get hclaimed.status
      rw [hlease] at hheld
      obtain ⟨claim, hlast, -⟩ := Option.map_eq_some_iff.mp hheld.symm
      rw [hclaim, noteClaim, if_pos rfl, hlast]
      rw [hlast] at htoken
      exact ⟨htoken, rfl⟩
    · have := hclaimed.status.symm.trans hstatus
      cases this
  | @committed scope call kept b hclaimed hmanifest =>
    refine h.set hclaimed.get ⟨rfl, rfl, rfl, rfl, rfl, rfl, rfl⟩ (fun k _ => hclaim k) (fun hstatus => by cases hstatus)
      fun _ item hitem hbatch => ?_
    exact manifestStands_bound hmanifest (h.named _ _ hclaimed.get) hitem hbatch

end Steps

theorem AdmissionRun.sound {log : List (AdmissionMoment Request Sha)} {t : AdmissionTables Request Sha} (h : AdmissionRun host log t) :
    AdmissionSound host log t :=
  h.invariant (AdmissionSound host) (fun _ hstart => hstart.sound) fun _ _ e hsound hlegal => hsound.step e hlegal

end QuantX
