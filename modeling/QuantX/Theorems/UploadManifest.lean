import QuantX.MarketData.UploadManifest
import Mathlib.Data.Int.Interval

namespace QuantX
open Lib

namespace UploadRequest
variable {host : UploadHost} {request next : UploadRequest} {put : ChunkPut} {raw : Bytes} {answer : UploadAnswer}

/-- The request is as it was, or has failed while chunks were being uploaded. -/
def Stays (request next : UploadRequest) : Prop :=
  next = request ∨ request.status.mutableUpload = true ∧ ∃ error, next = { request with
    status := .failed, processingError := error }

theorem failMutable_stays (request : UploadRequest) (reason : String) : request.Stays (request.failMutable reason) := by
  unfold failMutable
  split
  · exact .inl rfl
  · split
    · exact .inl rfl
    · exact .inr ⟨by simpa using ‹¬¬request.status.mutableUpload = true›, _, rfl⟩

theorem failUpload_stays (request : UploadRequest) (deviceId reason : String) : request.Stays (request.failUpload deviceId reason) := by
  unfold failUpload
  split
  · exact .inl rfl
  · split
    · exact .inl rfl
    · exact failMutable_stays request reason

/-! ### Checks of a chunk -/

structure Passes (host : UploadHost) (put : ChunkPut) : Prop where
  headers : checkHeaders host put = none
  body : readLimitedBody put.contentLength put.body MAX_MARKET_DATA_CHUNK_BYTES = .ok put.body
  digest : matchesDigest host (host.sha256 put.body) put.contentSha256 = true

theorem readLimitedBody_eq {contentLength : Option (Option Int)} {body : Bytes} {limit : Nat}
    (h : readLimitedBody contentLength body limit = .ok raw) : raw = body := by
  unfold readLimitedBody at h
  split at h
  · cases h
  · split at h
    · cases h
    · split at h
      · cases h
      · exact (Except.ok.inj h).symm
  · split at h
    · cases h
    · exact (Except.ok.inj h).symm

theorem checkHeaders_eq_none (h : checkHeaders host put = none) :
    0 ≤ put.chunkIndex ∧ 0 ≤ put.totalChunks ∧ (0 < put.totalChunks → put.chunkIndex < put.totalChunks) := by
  unfold checkHeaders at h
  split at h
  · cases h
  · omega

/-- A chunk that passes all checks is new, for a request that still takes chunks under the same number. -/
structure Admitted (host : UploadHost) (request : UploadRequest) (put : ChunkPut) : Prop where
  passes : Passes host put
  device : request.deviceId = put.deviceId
  taking : request.status.mutableUpload = true
  fresh : request.receipts.get? put.chunkIndex = none
  undeclared : put.totalChunks = 0 → request.expectedChunks = none
  declared : 0 < put.totalChunks → request.expectedChunks = none ∨ request.expectedChunks = some put.totalChunks

/-- A chunk that is stored already, under a number that is not another one. -/
structure Repeats (host : UploadHost) (request : UploadRequest) (put : ChunkPut) : Prop where
  passes : Passes host put
  device : request.deviceId = put.deviceId
  stored : ∃ receipt, request.receipts.get? put.chunkIndex = some receipt ∧ sameChunk host put put.body receipt = true
  total : put.totalChunks = 0 ∨ request.expectedChunks = none ∨ request.expectedChunks = some put.totalChunks

theorem checkStaging_stays (h : request.checkStaging put raw = some (next, answer)) :
    request.Stays next ∧ ∀ duplicate, answer ≠ .accepted duplicate := by
  unfold checkStaging at h
  split at h
  · cases h
    exact ⟨.inl rfl, by simp⟩
  · split at h
    · cases h
      exact ⟨.inl rfl, by simp⟩
    · simp only at h
      split at h
      · cases h
        exact ⟨failMutable_stays _ _, by simp⟩
      · split at h
        · split at h
          · cases h
            exact ⟨.inl rfl, by simp⟩
          · split at h
            · cases h
              exact ⟨.inl rfl, by simp⟩
            · cases h
        · cases h
          exact ⟨.inl rfl, by simp⟩

theorem any_ne_eq_false {expected : Option Int} {total : Int} (h : ¬(expected.any fun n => decide (n ≠ total)) = true) :
    expected = none ∨ expected = some total := by
  cases expected with
  | none => exact .inl rfl
  | some n =>
    right
    simpa using h

/-- A call that is stopped under the lock leaves the request or fails it, and repeats a chunk if it is accepted. -/
theorem checkLocked_stops (hpasses : Passes host put) (h : request.checkLocked host put put.body = some (next, answer)) :
    request.Stays next ∧ ∀ duplicate, answer = .accepted duplicate → next = request ∧ duplicate = true ∧ Repeats host request put := by
  unfold checkLocked at h
  split at h
  next =>
    cases h
    exact ⟨.inl rfl, by simp⟩
  next hdevice =>
    rw [not_not] at hdevice
    split at h
    next =>
      cases h
      exact ⟨.inl rfl, by simp⟩
    next =>
      split at h
      next hdeclared =>
        split at h
        next hsame =>
          cases h
          obtain ⟨receipt, hreceipt, hsame⟩ := (Option.any_eq_true _ _).mp hsame
          exact ⟨.inl rfl, fun duplicate hd => ⟨rfl, by simpa using hd.symm, hpasses, hdevice, ⟨receipt, hreceipt, hsame⟩, .inl hdeclared.2⟩⟩
        next =>
          cases h
          exact ⟨.inl rfl, by simp⟩
      next hdeclared =>
        split at h
        next =>
          cases h
          exact ⟨failMutable_stays _ _, by simp⟩
        next htotal =>
          split at h
          next existing hexisting =>
            split at h
            next =>
              cases h
              exact ⟨failMutable_stays _ _, by simp⟩
            next hchecksum =>
              split at h
              next =>
                cases h
                exact ⟨failMutable_stays _ _, by simp⟩
              next hcount =>
                cases h
                refine ⟨.inl rfl, fun duplicate hd => ⟨rfl, by simpa using hd.symm, hpasses, hdevice, ⟨existing, hexisting, ?_⟩, ?_⟩⟩
                · rw [not_not] at hchecksum hcount
                  simp [sameChunk, hchecksum, hcount]
                · have hnonneg := (checkHeaders_eq_none hpasses.headers).2.1
                  rcases hnonneg.eq_or_lt with hzero | hpos
                  · exact .inl hzero.symm
                  · exact .inr (any_ne_eq_false fun hany => htotal ⟨hpos, hany⟩)
          next hnew =>
            split at h
            next =>
              cases h
              exact ⟨.inl rfl, by simp⟩
            next =>
              split at h
              next =>
                cases h
                exact ⟨.inl rfl, by simp⟩
              next =>
                obtain ⟨hstays, hrefused⟩ := checkStaging_stays h
                exact ⟨hstays, fun duplicate hd => absurd hd (hrefused duplicate)⟩

theorem checkLocked_eq_none (hpasses : Passes host put) (h : request.checkLocked host put put.body = none) : Admitted host request put := by
  have hnonneg := (checkHeaders_eq_none hpasses.headers).2.1
  unfold checkLocked at h
  split at h
  next => cases h
  next hdevice =>
    rw [not_not] at hdevice
    split at h
    next => cases h
    next =>
      split at h
      next => split at h <;> cases h
      next hundeclared =>
        split at h
        next => cases h
        next htotal =>
          split at h
          next =>
            split at h
            next => cases h
            next => split at h <;> cases h
          next hnew =>
            split at h
            next => cases h
            next =>
              split at h
              next => cases h
              next htaking =>
                rw [not_not] at htaking
                refine ⟨hpasses, hdevice, htaking, hnew, fun hzero => ?_, fun hpos => any_ne_eq_false fun hany => htotal ⟨hpos, hany⟩⟩
                by_contra hexpected
                exact hundeclared ⟨hexpected, hzero⟩

theorem admitChunk_stops (h : request.admitChunk host put = some (next, answer)) :
    request.Stays next ∧ ∀ duplicate, answer = .accepted duplicate → next = request ∧ duplicate = true ∧ Repeats host request put := by
  unfold admitChunk at h
  split at h
  next =>
    cases h
    exact ⟨.inl rfl, by simp⟩
  next hheaders =>
    split at h
    next =>
      cases h
      exact ⟨failUpload_stays _ _ _, by simp⟩
    next raw hraw =>
      obtain rfl := readLimitedBody_eq hraw
      split at h
      next =>
        cases h
        exact ⟨failUpload_stays _ _ _, by simp⟩
      next hdigest => exact checkLocked_stops ⟨hheaders, hraw, by simpa using hdigest⟩ h

theorem admitChunk_eq_none (h : request.admitChunk host put = none) : Admitted host request put := by
  unfold admitChunk at h
  split at h
  next => cases h
  next hheaders =>
    split at h
    next => cases h
    next raw hraw =>
      obtain rfl := readLimitedBody_eq hraw
      split at h
      next => cases h
      next hdigest => exact checkLocked_eq_none ⟨hheaders, hraw, by simpa using hdigest⟩ h

theorem Repeats.unchanged (h : Repeats host request put) : (request.uploadChunk host put).1 = request := by
  obtain ⟨receipt, hreceipt, hsame⟩ := h.stored
  have hlocked : ∃ answer, request.checkLocked host put put.body = some (request, answer) := by
    unfold checkLocked
    rw [if_neg (not_not.mpr h.device)]
    split
    · exact ⟨_, rfl⟩
    · have hany : (request.receipts.get? put.chunkIndex).any (sameChunk host put put.body) = true := by rw [hreceipt, Option.any_some, hsame]
      by_cases hdeclared : request.expectedChunks ≠ none ∧ put.totalChunks = 0
      · rw [if_pos hdeclared, if_pos hany]
        exact ⟨_, rfl⟩
      · rw [if_neg hdeclared]
        have hnot : ¬(0 < put.totalChunks ∧ request.expectedChunks.any (fun n => decide (n ≠ put.totalChunks)) = true) := by
          rintro ⟨hpos, hany⟩
          rcases h.total with hzero | hnone | hsome
          · omega
          · simp [hnone] at hany
          · simp [hsome] at hany
        rw [if_neg hnot, hreceipt]
        simp only [sameChunk, Bool.decide_and, Bool.and_eq_true, decide_eq_true_eq] at hsame
        simp only [hsame.1, hsame.2, ne_eq, not_true_eq_false, if_false]
        exact ⟨_, rfl⟩
  obtain ⟨answer, hlocked⟩ := hlocked
  have hlegal : request.admitChunk host put = some (request, answer) := by
    unfold admitChunk
    rw [h.passes.headers]
    simp [h.passes.body, h.passes.digest, hlocked]
  rw [uploadChunk, hlegal]

structure Completes (request : UploadRequest) (totalChunks : Int) : Prop where
  taking : request.status.mutableUpload = true
  total : request.expectedChunks = none ∨ request.expectedChunks = some totalChunks
  indices : (request.receipts.keys.mergeSort fun a b => decide (a ≤ b)) = (List.range totalChunks.toNat).map Int.ofNat

def complete (request : UploadRequest) (totalChunks : Int) : UploadRequest :=
  { request with
    expectedChunks := some totalChunks
    receivedChunks := (request.receipts.keys.mergeSort fun a b => decide (a ≤ b)).length, status := .uploaded }

inductive Moves (host : UploadHost) (request : UploadRequest) : UploadRequest → Prop
  | stays {next : UploadRequest} (h : request.Stays next) : Moves host request next
  | requeued (error : Option String) (h : request.status = .delivered) :
      Moves host request { request with
        status := .queued, processingError := error }
  | touched (put : ChunkPut) (files : Dict Int Bytes) (h : Admitted host request put)
      (hothers : ∀ i, put.chunkIndex ≠ i → files.get? i = request.files.get? i) : Moves host request { request with files }
  | stored (put : ChunkPut) (h : Admitted host request put) : Moves host request (request.store host put)
  | completed (totalChunks : Int) (h : Completes request totalChunks) : Moves host request (request.complete totalChunks)

theorem uploadChunk_moves (host : UploadHost) (request : UploadRequest) (put : ChunkPut) : Moves host request (request.uploadChunk host put).1 := by
  unfold uploadChunk
  cases hlegal : request.admitChunk host put with
  | some stopped =>
    obtain ⟨next, answer⟩ := stopped
    exact .stays (admitChunk_stops hlegal).1
  | none =>
    have hadmitted := admitChunk_eq_none hlegal
    cases hending : put.ending with
    | commits => exact .stored put hadmitted
    | unpublished => exact .stays (.inl rfl)
    | removed => exact .touched put _ hadmitted fun i hi => by rw [Dict.get?_erase, if_neg hi]
    | kept => exact .touched put _ hadmitted fun i hi => Dict.get?_set_ne _ _ hi

theorem completeUpload_cases (request : UploadRequest) (deviceId : String) (totalChunks : Int) :
    (Completes request totalChunks ∧ request.completeUpload deviceId totalChunks = (request.complete totalChunks, .accepted false)) ∨
    request.Stays (request.completeUpload deviceId totalChunks).1 ∧ ∀ duplicate,
      (request.completeUpload deviceId totalChunks).2 = .accepted duplicate → request.status.frozenManifest = true := by
  unfold completeUpload
  split
  · exact .inr ⟨.inl rfl, by simp⟩
  · split
    · exact .inr ⟨.inl rfl, by simp⟩
    · split
      · exact .inr ⟨.inl rfl, by simp⟩
      · split
        next => exact .inr ⟨failMutable_stays _ _, by simp⟩
        next hexpected =>
          split
          next hfrozen => exact .inr ⟨.inl rfl, fun _ _ => hfrozen⟩
          next =>
            split
            next => exact .inr ⟨.inl rfl, by simp⟩
            next htaking =>
              simp only
              split
              next => exact .inr ⟨.inl rfl, by simp⟩
              next hindices =>
                rw [not_not] at htaking hindices
                exact .inl ⟨⟨htaking, any_ne_eq_false hexpected, hindices⟩, rfl⟩

theorem failRequest_moves (host : UploadHost) (request : UploadRequest) (deviceId : String) (reason : Option String) :
    Moves host request (request.failRequest deviceId reason).1 := by
  unfold failRequest
  cases reason with
  | none => exact .stays (.inl rfl)
  | some reason =>
    simp only
    split
    · exact .stays (.inl rfl)
    · split
      · unfold requeueBusy
        split
        next => exact .stays (.inl rfl)
        next hdelivered =>
          rw [not_or, not_not, not_not] at hdelivered
          exact .requeued _ hdelivered.2
      · exact .stays (failUpload_stays _ _ _)

theorem call_moves (host : UploadHost) (request : UploadRequest) (op : UploadOp) : Moves host request (request.call host op).1 := by
  cases op with
  | put put => exact uploadChunk_moves host request put
  | complete deviceId totalChunks =>
    rcases completeUpload_cases request deviceId totalChunks with ⟨hcompletes, heq⟩ | ⟨hstays, -⟩
    · rw [call, heq]
      exact .completed totalChunks hcompletes
    · exact .stays hstays
  | fail deviceId reason => exact failRequest_moves host request deviceId reason

/-! ### What is kept -/

structure Keeps (request next : UploadRequest) : Prop where
  device : next.deviceId = request.deviceId
  expected : ∀ n, request.expectedChunks = some n → next.expectedChunks = some n
  receipts : ∀ i receipt, request.receipts.get? i = some receipt → next.receipts.get? i = some receipt
  frozen : request.status.frozenManifest = true → next = request
  failed : request.status = .failed → next = request

theorem Keeps.refl (request : UploadRequest) : Keeps request request := ⟨rfl, fun _ h => h, fun _ _ h => h, fun _ => rfl, fun _ => rfl⟩

theorem Keeps.trans {last : UploadRequest} (h : Keeps request next) (h' : Keeps next last) : Keeps request last where
  device := h'.device.trans h.device
  expected n hn := h'.expected n (h.expected n hn)
  receipts i receipt hi := h'.receipts i receipt (h.receipts i receipt hi)
  frozen hs := by
    have hnext := h.frozen hs
    rw [← hnext] at hs
    exact (h'.frozen hs).trans hnext
  failed hs := by
    have hnext := h.failed hs
    rw [← hnext] at hs
    exact (h'.failed hs).trans hnext

theorem taking_iff {status : RequestStatus} (h : status.mutableUpload = true) : status.frozenManifest = false ∧ status ≠ .failed := by
  cases status <;> simp_all [RequestStatus.mutableUpload, RequestStatus.frozenManifest]

theorem Keeps.of_taking (htaking : request.status.mutableUpload = true) (hdevice : next.deviceId = request.deviceId)
    (hexpected : ∀ n, request.expectedChunks = some n → next.expectedChunks = some n)
    (hreceipts : ∀ i receipt, request.receipts.get? i = some receipt → next.receipts.get? i = some receipt) : Keeps request next := by
  obtain ⟨hfrozen, hfailed⟩ := taking_iff htaking
  exact ⟨hdevice, hexpected, hreceipts, by simp [hfrozen], fun hs => absurd hs hfailed⟩

theorem Moves.keeps (h : Moves host request next) : Keeps request next := by
  cases h with
  | stays h =>
    rcases h with rfl | ⟨htaking, error, rfl⟩
    · exact .refl _
    · exact .of_taking htaking rfl (fun _ hn => hn) fun _ _ hi => hi
  | requeued error h => exact .of_taking (by simp [h, RequestStatus.mutableUpload]) rfl (fun _ hn => hn) fun _ _ hi => hi
  | touched put files h => exact .of_taking h.taking rfl (fun _ hn => hn) fun _ _ hi => hi
  | stored put h =>
    refine .of_taking h.taking rfl (fun n hn => ?_) fun i receipt hi => ?_
    · unfold store
      simp only
      split
      next hpos =>
        rcases h.declared hpos with hnone | hsome
        · rw [hnone] at hn
          cases hn
        · rw [← hn, hsome]
      next => exact hn
    · have hne : put.chunkIndex ≠ i := by
        rintro rfl
        rw [h.fresh] at hi
        cases hi
      exact (Dict.get?_set_ne _ _ hne).trans hi
  | completed totalChunks h =>
    refine .of_taking h.taking rfl (fun n hn => ?_) fun _ _ hi => hi
    rcases h.total with hnone | hsome
    · rw [hnone] at hn
      cases hn
    · rw [← hn, hsome]
      rfl

structure Staged (host : UploadHost) (request : UploadRequest) : Prop where
  nonneg : ∀ i receipt, request.receipts.get? i = some receipt → 0 ≤ i
  file : ∀ i receipt, request.receipts.get? i = some receipt → ∃ raw, request.files.get? i = some raw ∧
    host.sha256 raw = receipt.checksumSha256 ∧ raw.length = receipt.compressedBytes

theorem Staged.of_same (h : Staged host request) (hreceipts : next.receipts = request.receipts) (hfiles : next.files = request.files) :
    Staged host next := by
  refine ⟨?_, ?_⟩
  · rw [hreceipts]
    exact h.nonneg
  · rw [hreceipts, hfiles]
    exact h.file

theorem Moves.staged (h : Moves host request next) (hstaged : Staged host request) : Staged host next := by
  cases h with
  | stays h =>
    rcases h with rfl | ⟨-, error, rfl⟩
    · exact hstaged
    · exact hstaged.of_same rfl rfl
  | requeued => exact hstaged.of_same rfl rfl
  | touched put files h hothers =>
    refine ⟨hstaged.nonneg, fun i receipt hi => ?_⟩
    have hne : put.chunkIndex ≠ i := by
      rintro rfl
      simp only at hi
      rw [h.fresh] at hi
      cases hi
    obtain ⟨raw, hraw, hdigest⟩ := hstaged.file i receipt hi
    exact ⟨raw, (hothers i hne).trans hraw, hdigest⟩
  | stored put h =>
    refine ⟨fun i receipt hi => ?_, fun i receipt hi => ?_⟩
    · by_cases hi' : put.chunkIndex = i
      · rw [← hi']
        exact (checkHeaders_eq_none h.passes.headers).1
      · exact hstaged.nonneg i receipt ((Dict.get?_set_ne _ _ hi').symm.trans hi)
    · by_cases hi' : put.chunkIndex = i
      · subst hi'
        have hreceipt := (Dict.get?_set_self request.receipts put.chunkIndex _).symm.trans hi
        cases hreceipt
        exact ⟨put.body, Dict.get?_set_self _ _ _, rfl, rfl⟩
      · obtain ⟨raw, hraw, hdigest⟩ := hstaged.file i receipt ((Dict.get?_set_ne _ _ hi').symm.trans hi)
        exact ⟨raw, (Dict.get?_set_ne _ _ hi').trans hraw, hdigest⟩
  | completed => exact hstaged.of_same rfl rfl

def ExactManifest (request : UploadRequest) : Prop :=
  ∃ n, request.expectedChunks = some n ∧ ∀ i, (request.receipts.get? i).isSome ↔ 0 ≤ i ∧ i < n

/-- Where the chunk brings the count of the stored ones to the declared number, no chunk is stored beyond that number. -/
def Covers (host : UploadHost) (request : UploadRequest) (put : ChunkPut) : Prop :=
  request.admitChunk host put = none → put.ending = .commits → (request.receipts.entries.length : Int) + 1 = put.totalChunks →
    ∀ i receipt, request.receipts.get? i = some receipt → i < put.totalChunks

theorem mem_of_count {l : List Int} {n : Int} (hnodup : l.Nodup) (hbounds : ∀ i ∈ l, 0 ≤ i ∧ i < n) (hcount : (l.length : Int) = n) {i : Int}
    (hi : 0 ≤ i ∧ i < n) : i ∈ l := by
  have hsubset : l.toFinset ⊆ Finset.Ico 0 n := by
    intro j hj
    rw [Finset.mem_Ico]
    exact hbounds j (List.mem_toFinset.mp hj)
  have hcard : (Finset.Ico 0 n).card ≤ l.toFinset.card := by
    rw [List.toFinset_card_of_nodup hnodup, Int.card_Ico]
    omega
  have heq := Finset.eq_of_subset_of_card_le hsubset hcard
  rw [← List.mem_toFinset, heq, Finset.mem_Ico]
  exact hi

theorem isSome_get?_iff {d : Dict Int MarketDataTransfer} {i : Int} : (d.get? i).isSome ↔ i ∈ d.keys := by
  rw [Dict.keys, ← not_iff_not, Bool.not_eq_true, Option.isSome_eq_false_iff, Option.isNone_iff_eq_none]
  exact Dict.lookup_eq_none

/-- A count that reaches the declared number is of the right chunks where that number covers them. -/
theorem Admitted.exact (h : Admitted host request put) (hstaged : Staged host request)
    (hcovers : (request.receipts.entries.length : Int) + 1 = put.totalChunks →
      ∀ i receipt, request.receipts.get? i = some receipt → i < put.totalChunks)
    (huploaded : (request.store host put).status = .uploaded) : (request.store host put).ExactManifest := by
  have hentries := Dict.entries_set_new h.fresh ⟨host.sha256 put.body, put.recordCount, put.body.length⟩
  unfold store at huploaded
  simp only at huploaded
  split at huploaded
  next hcounted =>
    obtain ⟨hpos, hcount⟩ := hcounted
    have hbelow := hcovers (by rw [← hcount, hentries]; simp)
    refine ⟨put.totalChunks, by simp [store, hpos], fun i => ?_⟩
    rw [isSome_get?_iff]
    have hbounds : ∀ j ∈ (request.store host put).receipts.keys, 0 ≤ j ∧ j < put.totalChunks := by
      intro j hj
      obtain ⟨receipt, hreceipt⟩ := Option.isSome_iff_exists.mp (isSome_get?_iff.mpr hj)
      have hget := hreceipt
      rw [store, Dict.get?_set] at hget
      split at hget
      next hj =>
        obtain ⟨hnonneg, -, hless⟩ := checkHeaders_eq_none h.passes.headers
        rw [← hj]
        exact ⟨hnonneg, hless hpos⟩
      next => exact ⟨hstaged.nonneg j receipt hget, hbelow j receipt hget⟩
    refine ⟨hbounds i, mem_of_count (Dict.nodup _) hbounds ?_⟩
    rw [List.length_map]
    exact hcount
  next => cases huploaded

theorem Completes.exact {totalChunks : Int} (h : Completes request totalChunks) : (request.complete totalChunks).ExactManifest := by
  refine ⟨totalChunks, rfl, fun i => ?_⟩
  have hmem : i ∈ request.receipts.keys ↔ i ∈ (List.range totalChunks.toNat).map Int.ofNat := by
    rw [← h.indices, List.mem_mergeSort]
  rw [isSome_get?_iff]
  refine hmem.trans ?_
  simp only [List.mem_map, List.mem_range]
  constructor
  · rintro ⟨n, hn, rfl⟩
    simp only [Int.ofNat_eq_natCast]
    omega
  · rintro ⟨hnonneg, hless⟩
    exact ⟨i.toNat, by omega, by simp [hnonneg]⟩

theorem Repeats.later (h : Repeats host request put) (hkeeps : Keeps request next)
    (htotal : put.totalChunks = 0 ∨ request.expectedChunks = some put.totalChunks) : Repeats host next put := by
  obtain ⟨receipt, hreceipt, hsame⟩ := h.stored
  refine ⟨h.passes, hkeeps.device.trans h.device, ⟨receipt, hkeeps.receipts _ _ hreceipt, hsame⟩, ?_⟩
  rcases htotal with hzero | hsome
  · exact .inl hzero
  · exact .inr (.inr (hkeeps.expected _ hsome))

theorem accepted_repeats {duplicate : Bool} (h : (request.uploadChunk host put).2 = .accepted duplicate) :
    Repeats host (request.uploadChunk host put).1 put ∧ (put.totalChunks = 0 ∨
      (request.uploadChunk host put).1.expectedChunks = some put.totalChunks ∨
      request.expectedChunks = none ∧ (request.receipts.get? put.chunkIndex).isSome) := by
  cases hlegal : request.admitChunk host put with
  | some stopped =>
    obtain ⟨next, answer⟩ := stopped
    have heq : request.uploadChunk host put = (next, answer) := by rw [uploadChunk, hlegal]
    rw [heq] at h ⊢
    obtain ⟨rfl, -, hrepeats⟩ := (admitChunk_stops hlegal).2 duplicate h
    refine ⟨hrepeats, ?_⟩
    obtain ⟨receipt, hreceipt, -⟩ := hrepeats.stored
    rcases hrepeats.total with hzero | hnone | hsome
    · exact .inl hzero
    · exact .inr (.inr ⟨hnone, by simp [hreceipt]⟩)
    · exact .inr (.inl hsome)
  | none =>
    have hadmitted := admitChunk_eq_none hlegal
    have hending : put.ending = .commits := by
      unfold uploadChunk at h
      rw [hlegal] at h
      cases hending : put.ending <;> simp [hending] at h ⊢
    have heq : request.uploadChunk host put = (request.store host put, .accepted false) := by
      unfold uploadChunk
      rw [hlegal, hending]
    have htotal : put.totalChunks = 0 ∨ (request.store host put).expectedChunks = some put.totalChunks := by
      rcases (checkHeaders_eq_none hadmitted.passes.headers).2.1.eq_or_lt with hzero | hpos
      · exact .inl hzero.symm
      · exact .inr (by simp [store, hpos])
    rw [heq]
    refine ⟨⟨hadmitted.passes, hadmitted.device, ⟨_, Dict.get?_set_self _ _ _, by simp [sameChunk]⟩, ?_⟩, ?_⟩
    · exact htotal.imp_right .inr
    · exact htotal.imp_right .inl

theorem completeUpload_accepted {deviceId : String} {totalChunks : Int} {duplicate : Bool}
    (h : (request.completeUpload deviceId totalChunks).2 = .accepted duplicate) :
    ((request.completeUpload deviceId totalChunks).1.completeUpload deviceId totalChunks).1 = (request.completeUpload deviceId totalChunks).1 ∧
      (request.completeUpload deviceId totalChunks).1.status.frozenManifest = true := by
  rcases completeUpload_cases request deviceId totalChunks with ⟨-, heq⟩ | ⟨hstays, hfrozen⟩
  · rw [heq]
    refine ⟨?_, rfl⟩
    rcases completeUpload_cases (request.complete totalChunks) deviceId totalChunks with ⟨hcompletes, -⟩ | ⟨hstays, -⟩
    · have htaking := hcompletes.taking
      cases htaking
    · rcases hstays with hsame | ⟨htaking, -⟩
      · exact hsame
      · cases htaking
  · have hnow := hfrozen duplicate h
    rcases hstays with hsame | ⟨htaking, -⟩
    · rw [hsame]
      exact ⟨hsame, hnow⟩
    · rw [(taking_iff htaking).1] at hnow
      cases hnow

/-! ### Runs -/

def CallCovers (host : UploadHost) (request : UploadRequest) (op : UploadOp) : Prop := ∀ put, op = .put put → Covers host request put

def Undropped (request : UploadRequest) (op : UploadOp) : Prop :=
  ∀ put, op = .put put → 0 < put.totalChunks → request.expectedChunks = none → request.receipts.get? put.chunkIndex = none

def NewUpload (request : UploadRequest) : Prop := (request.status = .queued ∨ request.status = .delivered) ∧ request.receipts = Dict.empty

abbrev CallRun (host : UploadHost) : List (Moment UploadRequest UploadOp) → UploadRequest → Prop :=
  Run NewUpload (fun request op => (request.call host op).1) fun _ _ _ => True

abbrev UploadRun (host : UploadHost) : List (Moment UploadRequest UploadOp) → UploadRequest → Prop :=
  Run NewUpload (fun request op => (request.call host op).1) fun _ request op => request.CallCovers host op

def SameChunkPut (put put' : ChunkPut) : Prop := put' = { put with
  staging := put'.staging, ending := put'.ending }

structure ManifestKept (host : UploadHost) (log : List (Moment UploadRequest UploadOp)) (request : UploadRequest) : Prop where
  exact : request.status = .uploaded → request.ExactManifest
  expected : ∀ m ∈ log, ∀ n, m.before.expectedChunks = some n → request.expectedChunks = some n
  receipts : ∀ m ∈ log, ∀ i receipt, m.before.receipts.get? i = some receipt → request.receipts.get? i = some receipt
  staged : ∀ i receipt, request.receipts.get? i = some receipt → ∃ raw, request.files.get? i = some raw ∧
    host.sha256 raw = receipt.checksumSha256 ∧ raw.length = receipt.compressedBytes
  uploaded : ∀ m ∈ log, m.before.status = .uploaded → request = m.before
  failed : ∀ m ∈ log, m.before.status = .failed → request = m.before
  putTwice : ∀ m ∈ log, ∀ put put' duplicate, m.op = .put put → (m.before.call host m.op).2 = .accepted duplicate → SameChunkPut put put' →
    (m.after.uploadChunk host put').1 = m.after
  putAgain : (∀ m ∈ log, m.before.Undropped m.op) → ∀ m ∈ log, ∀ put put' duplicate, m.op = .put put →
    (m.before.call host m.op).2 = .accepted duplicate → SameChunkPut put put' → (request.uploadChunk host put').1 = request
  completeAgain : ∀ m ∈ log, ∀ deviceId totalChunks duplicate, m.op = .complete deviceId totalChunks →
    (m.before.call host m.op).2 = .accepted duplicate → (request.completeUpload deviceId totalChunks).1 = request

theorem Repeats.same {put' : ChunkPut} (h : Repeats host request put) (hsame : SameChunkPut put put') : Repeats host request put' := by
  rw [hsame]
  exact ⟨⟨h.passes.headers, h.passes.body, h.passes.digest⟩, h.device, h.stored, h.total⟩

theorem Stays.exact (h : request.Stays next) (hexact : request.status = .uploaded → request.ExactManifest)
    (huploaded : next.status = .uploaded) : next.ExactManifest := by
  rcases h with rfl | ⟨-, error, rfl⟩
  · exact hexact huploaded
  · cases huploaded

theorem call_exact {op : UploadOp} (hstaged : Staged host request) (hexact : request.status = .uploaded → request.ExactManifest)
    (hcovers : request.CallCovers host op) (huploaded : (request.call host op).1.status = .uploaded) :
    (request.call host op).1.ExactManifest := by
  cases op with
  | put put =>
    rw [call] at huploaded ⊢
    cases hlegal : request.admitChunk host put with
    | some stopped =>
      obtain ⟨next, answer⟩ := stopped
      have heq : request.uploadChunk host put = (next, answer) := by rw [uploadChunk, hlegal]
      rw [heq] at huploaded ⊢
      exact (admitChunk_stops hlegal).1.exact hexact huploaded
    | none =>
      have hadmitted := admitChunk_eq_none hlegal
      have hnot : request.status ≠ .uploaded := by
        intro hs
        have htaking := hadmitted.taking
        rw [hs] at htaking
        cases htaking
      unfold uploadChunk at huploaded ⊢
      rw [hlegal] at huploaded ⊢
      cases hending : put.ending with
      | commits =>
        simp only [hending] at huploaded ⊢
        exact hadmitted.exact hstaged (hcovers put rfl hlegal hending) huploaded
      | unpublished =>
        simp only [hending] at huploaded
        exact absurd huploaded hnot
      | removed =>
        simp only [hending] at huploaded
        exact absurd huploaded hnot
      | kept =>
        simp only [hending] at huploaded
        exact absurd huploaded hnot
  | complete deviceId totalChunks =>
    rw [call] at huploaded ⊢
    rcases completeUpload_cases request deviceId totalChunks with ⟨hcompletes, heq⟩ | ⟨hstays, -⟩
    · rw [heq]
      exact hcompletes.exact
    · exact hstays.exact hexact huploaded
  | fail deviceId reason =>
    rw [call] at huploaded ⊢
    unfold failRequest at huploaded ⊢
    cases reason with
    | none => exact hexact huploaded
    | some reason =>
      simp only at huploaded ⊢
      split at huploaded
      next hempty =>
        rw [if_pos hempty]
        exact hexact huploaded
      next hempty =>
        rw [if_neg hempty]
        split at huploaded
        next hbusy =>
          rw [if_pos hbusy]
          unfold requeueBusy at huploaded ⊢
          split at huploaded
          next hidle =>
            rw [if_pos hidle]
            exact hexact huploaded
          next => cases huploaded
        next hbusy =>
          rw [if_neg hbusy]
          exact (failUpload_stays _ _ _).exact hexact huploaded

section Runs
variable {log : List (Moment UploadRequest UploadOp)}

theorem UploadRun.staged (hrun : UploadRun host log request) : Staged host request ∧ (request.status = .uploaded → request.ExactManifest) := by
  refine hrun.invariant (fun _ request => Staged host request ∧ (request.status = .uploaded → request.ExactManifest)) ?_ ?_
  · rintro request ⟨hstatus, hreceipts⟩
    refine ⟨⟨?_, ?_⟩, fun huploaded => ?_⟩
    · simp [hreceipts]
    · simp [hreceipts]
    · rcases hstatus with hs | hs <;> simp [hs] at huploaded
  · rintro log request op ⟨hstaged, hexact⟩ hcovers
    exact ⟨(call_moves host request op).staged hstaged, call_exact hstaged hexact hcovers⟩

theorem UploadRun.keeps_after (hrun : UploadRun host log request) : ∀ m ∈ log, Keeps m.after request :=
  hrun.since Keeps.refl (fun _ _ _ => Keeps.trans) fun _ request op _ _ => (call_moves host request op).keeps

theorem UploadRun.called (hrun : UploadRun host log request) : ∀ m ∈ log, m.after = (m.before.call host m.op).1 :=
  hrun.moments fun _ _ _ _ _ => rfl

theorem UploadRun.keeps (hrun : UploadRun host log request) : ∀ m ∈ log, Keeps m.before request := by
  intro m hm
  have hstep := (call_moves host m.before m.op).keeps
  rw [← hrun.called m hm] at hstep
  exact hstep.trans (hrun.keeps_after m hm)

/-- Receipts and the declared number are kept, a complete manifest is exact and frozen, and repeated calls change
    nothing. -/
theorem manifest_kept (hrun : UploadRun host log request) : ManifestKept host log request := by
  obtain ⟨hstaged, hexact⟩ := hrun.staged
  have hkeeps := hrun.keeps
  refine ⟨hexact, fun m hm => (hkeeps m hm).expected, fun m hm => (hkeeps m hm).receipts, hstaged.file, fun m hm hs => ?_,
    fun m hm => (hkeeps m hm).failed, ?_, ?_, ?_⟩
  · exact (hkeeps m hm).frozen (by simp [hs, RequestStatus.frozenManifest])
  · intro m hm put put' duplicate hop haccepted hsame
    rw [hop] at haccepted
    have hafter := hrun.called m hm
    rw [hop] at hafter
    rw [hafter]
    exact ((accepted_repeats haccepted).1.same hsame).unchanged
  · intro hundropped m hm put put' duplicate hop haccepted hsame
    have hkept := hundropped m hm put hop
    rw [hop] at haccepted
    have hafter := hrun.called m hm
    rw [hop] at hafter
    obtain ⟨hrepeats, htotal⟩ := accepted_repeats haccepted
    have hlater := hrun.keeps_after m hm
    rw [hafter] at hlater
    refine ((hrepeats.later hlater ?_).same hsame).unchanged
    rcases htotal with hzero | hsome | ⟨hnone, hstored⟩
    · exact .inl hzero
    · exact .inr hsome
    · left
      rcases (checkHeaders_eq_none hrepeats.passes.headers).2.1.eq_or_lt with hzero | hpos
      · exact hzero.symm
      · rw [hkept hpos hnone] at hstored
        cases hstored
  · intro m hm deviceId totalChunks duplicate hop haccepted
    rw [hop] at haccepted
    have hafter := hrun.called m hm
    rw [hop] at hafter
    obtain ⟨hagain, hfrozen⟩ := completeUpload_accepted haccepted
    have hlater := hrun.keeps_after m hm
    rw [hafter] at hlater
    rw [hlater.frozen hfrozen]
    exact hagain

end Runs

def firstChunk : Bytes := [31, 139, 0]

def secondChunk : Bytes := [31, 139, 1]

def twoChunkHost : UploadHost where
  sha256 raw :=
    if raw = firstChunk then "4f49dc02c9600234c87f9cd67a65bba18e1ec8bab309c4a720971b25d21f144a"
    else if raw = secondChunk then "4605ac23c042fc362ef2c2f444793f8d64007657d64059663af4340c4436495e"
    else ""
  lower s := s

/-- A call for a chunk with so much of a digest, an index and a number, on an empty disk. -/
def chunkPut (body : Bytes) (contentSha256 : String) (chunkIndex totalChunks : Int) : ChunkPut where
  deviceId := "22222222-2222-4222-8222-222222222222"
  chunkIndex := chunkIndex
  contentSha256 := contentSha256
  recordCount := 1
  totalChunks := totalChunks
  contentEncoding := "gzip"
  contentLength := some (some 3)
  body := body
  staging := ⟨true, some 0, some 0, some (1024 * 1024 * 1024)⟩
  ending := .commits

def queuedUpload : UploadRequest where
  deviceId := "22222222-2222-4222-8222-222222222222"
  status := .queued

def provisionalPut (chunkIndex : Int) : ChunkPut :=
  chunkPut secondChunk "4605ac23c042fc362ef2c2f444793f8d64007657d64059663af4340c4436495e" chunkIndex 0

def declaringPut : ChunkPut := chunkPut firstChunk "4f49dc02c9600234c87f9cd67a65bba18e1ec8bab309c4a720971b25d21f144a" 0 2

/-- The second chunk, and then the first one with the number of chunks. -/
theorem manifest_kept_two : ∃ log request, request.status = .uploaded ∧ ManifestKept twoChunkHost log request := by
  have hstart : UploadRun twoChunkHost [] queuedUpload := .start ⟨.inl rfl, rfl⟩
  have hsecond := hstart.step (.put (provisionalPut 1)) (by
    intro put hput hlegal hending hcount i receipt hi
    cases hput
    cases hi)
  have hfirst := hsecond.step (.put declaringPut) (by
    intro put hput hlegal hending hcount i receipt hi
    cases hput
    have hget := (Dict.get?_set (Dict.empty : Dict Int MarketDataTransfer) 1 i _).symm.trans hi
    split at hget
    next h1 =>
      rw [← h1]
      decide
    next => cases hget)
  exact ⟨_, _, by decide +kernel, manifest_kept hfirst⟩

/-- A chunk beyond the number that is declared later counts as one of it. -/
theorem counted_manifest_inexact : ¬∀ log request, CallRun twoChunkHost log request → request.status = .uploaded → request.ExactManifest := by
  intro h
  have hnew : NewUpload queuedUpload := ⟨.inl rfl, rfl⟩
  obtain ⟨n, -, hchunks⟩ := h _ _ (Run.of_play hnew [.put (provisionalPut 5), .put declaringPut]) (by decide +kernel)
  have hfive := (hchunks 5).mp (by decide +kernel)
  have hone := (hchunks 1).mpr ⟨by omega, by omega⟩
  exact absurd hone (by decide +kernel)

end UploadRequest
end QuantX
