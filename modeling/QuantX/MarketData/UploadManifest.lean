import QuantX.MarketData.CollectionPermits
import QuantX.Lib.JsonLines
import QuantX.Lib.Run
import QuantX.Text

/-! # Upload of a manifest of chunks

A call holds the lock of the request's row from its first read to its end. What is measured of the disk is given to a
call, and so is how far it gets once it has begun to write the chunk's file. -/

namespace QuantX
open Lib

def MAX_MARKET_DATA_CHUNK_BYTES : Nat := 32 * 1024 * 1024
def MAX_MARKET_DATA_CHUNK_RECORDS : Int := 5000
def MAX_MARKET_DATA_CHUNKS : Int := 128
def MAX_MARKET_DATA_REQUEST_COMPRESSED_BYTES : Nat := 256 * 1024 * 1024
def MAX_MARKET_DATA_STAGING_BYTES : Nat := 1024 * 1024 * 1024
def MIN_MARKET_DATA_STAGING_FREE_BYTES : Int := 512 * 1024 * 1024

/-- `_MARKET_DATA_MUTABLE_UPLOAD_STATUSES`. -/
def RequestStatus.mutableUpload (status : RequestStatus) : Bool := status = .queued ∨ status = .delivered ∨ status = .receiving

/-- `_MARKET_DATA_FROZEN_MANIFEST_STATUSES`. -/
def RequestStatus.frozenManifest (status : RequestStatus) : Bool :=
  status = .uploaded ∨ status = .processing ∨ status = .blocked ∨ status = .completed

/-- A row of `market_data_transfer`, by its chunk index. -/
structure MarketDataTransfer where
  checksumSha256 : String
  recordCount : Int
  compressedBytes : Nat
  deriving DecidableEq, Repr

structure UploadRequest where
  deviceId : String
  status : RequestStatus
  expectedChunks : Option Int := none
  receivedChunks : Nat := 0
  processingError : Option String := none
  receipts : Dict Int MarketDataTransfer := Dict.empty
  files : Dict Int Bytes := Dict.empty

structure UploadHost where
  sha256 : Bytes → String
  lower : String → String

/-- What an endpoint answers. `lost` is a call that stops before it answers. -/
inductive UploadAnswer where
  | accepted (duplicate : Bool)
  | retryable (requeued : Bool)
  | reported
  | refused (code : Nat) (detail : String)
  | lost
  deriving DecidableEq, Repr

structure Staging where
  rootSafe : Bool := true
  (requestBytes retainedBytes : Option Nat)
  freeBytes : Option Int

/-- How a call ends that writes its file: it commits, stops before its file is published, or before the commit with the
    file published, which is then removed or kept. -/
inductive PutEnding where
  | commits
  | unpublished
  | removed
  | kept
  deriving DecidableEq, Repr

/-- A call of `upload_market_data_chunk`. The declared length is missing, no number or a number; the body may break the
    limit. -/
structure ChunkPut where
  deviceId : String
  chunkIndex : Int
  contentSha256 : String
  (recordCount totalChunks : Int)
  contentEncoding : String
  contentLength : Option (Option Int)
  body : Bytes
  staging : Staging
  ending : PutEnding

namespace UploadRequest
variable (host : UploadHost) (request : UploadRequest)

/-- `_market_data_manifest_is_complete`. -/
def manifestIsComplete : Bool :=
  let expected := request.expectedChunks.getD 0
  0 < expected ∧ (request.receipts.entries.length : Int) = expected

/-- `_fail_mutable_market_data_request`. -/
def failMutable (reason : String) : UploadRequest :=
  if ¬request.status.mutableUpload then request
  else if request.manifestIsComplete then request
  else
    { request with
      status := .failed, processingError := some (String.ofList (reason.toList.take 1000)) }

/-- `_fail_market_data_upload`. -/
def failUpload (deviceId reason : String) : UploadRequest :=
  if request.deviceId ≠ deviceId then request
  else if request.status.frozenManifest ∨ request.status = .failed then request
  else request.failMutable reason

/-- `_requeue_busy_market_data_request`. -/
def requeueBusy (deviceId : String) : UploadRequest × Bool :=
  if request.deviceId ≠ deviceId ∨ request.status ≠ .delivered then (request, false)
  else
    ({ request with
      status := .queued, processingError := some "Agent busy: market-data request queue full" }, true)

def checkHeaders (put : ChunkPut) : Option (Nat × String) :=
  if put.chunkIndex < 0 ∨ put.totalChunks < 0 ∨ put.totalChunks > MAX_MARKET_DATA_CHUNKS ∨
      (put.totalChunks > 0 ∧ put.chunkIndex ≥ put.totalChunks) ∨ (put.totalChunks = 0 ∧ put.chunkIndex ≥ MAX_MARKET_DATA_CHUNKS) then
    some (400, "行情批次序号无效")
  else if put.recordCount < 0 ∨ put.recordCount > MAX_MARKET_DATA_CHUNK_RECORDS then some (400, "行情批次记录数无效")
  else if host.lower (stripText put.contentEncoding) ≠ "gzip" then some (415, "行情批次必须使用 gzip 压缩")
  else none

def readLimitedBody (contentLength : Option (Option Int)) (body : Bytes) (limit : Nat) : Except (Nat × String) Bytes :=
  match contentLength with
  | some none => .error (400, "Content-Length 无效")
  | some (some declared) =>
    if declared < 0 then .error (400, "Content-Length 无效")
    else if declared > limit ∨ body.length > limit then .error (413, "行情批次超过大小限制")
    else .ok body
  | none => if body.length > limit then .error (413, "行情批次超过大小限制") else .ok body

/-- `_matches_sha256_digest`. -/
def matchesDigest (digest expected : String) : Bool := expected ≠ "" ∧ digest = host.lower expected

def sameChunk (put : ChunkPut) (raw : Bytes) (receipt : MarketDataTransfer) : Bool :=
  receipt.checksumSha256 = host.sha256 raw ∧ receipt.recordCount = put.recordCount

abbrev Stopped := UploadRequest × UploadAnswer

def checkStaging (put : ChunkPut) (raw : Bytes) : Option Stopped :=
  if ¬put.staging.rootSafe then some (request, .refused 507 "行情 staging 根目录不安全")
  else match put.staging.requestBytes with
    | none => some (request, .refused 507 "无法验证行情 request staging 容量")
    | some actualRequestBytes =>
      let requestCompressedBytes := (request.receipts.values.map MarketDataTransfer.compressedBytes).sum
      let additionalBytes := raw.length - ((request.files.get? put.chunkIndex).map List.length).getD 0
      if max requestCompressedBytes actualRequestBytes + additionalBytes > MAX_MARKET_DATA_REQUEST_COMPRESSED_BYTES then
        some (request.failMutable "market-data request exceeds compressed byte limit", .refused 413 "行情请求压缩数据超过大小限制")
      else match put.staging.retainedBytes, put.staging.freeBytes with
        | some retainedBytes, some freeBytes =>
          if retainedBytes + additionalBytes > MAX_MARKET_DATA_STAGING_BYTES then some (request, .refused 507 "行情 staging 总容量不足")
          else if freeBytes - additionalBytes < MIN_MARKET_DATA_STAGING_FREE_BYTES then some (request, .refused 507 "行情 staging 磁盘余量不足")
          else none
        | _, _ => some (request, .refused 507 "无法验证行情 staging 容量")

def checkLocked (put : ChunkPut) (raw : Bytes) : Option Stopped :=
  if request.deviceId ≠ put.deviceId then some (request, .refused 404 "行情数据请求不存在")
  else if request.status = .failed then some (request, .refused 409 "行情数据请求已经结束")
  else if request.expectedChunks ≠ none ∧ put.totalChunks = 0 then
    if (request.receipts.get? put.chunkIndex).any (sameChunk host put raw) then some (request, .accepted true)
    else some (request, .refused 409 "行情 manifest 已声明")
  else if put.totalChunks > 0 ∧ request.expectedChunks.any (· ≠ put.totalChunks) then
    some (request.failMutable s!"chunk {put.chunkIndex} total_chunks mismatch", .refused 409 "行情批次总数与首次上传不一致")
  else match request.receipts.get? put.chunkIndex with
    | some existing =>
      if existing.checksumSha256 ≠ host.sha256 raw then
        some (request.failMutable s!"chunk {put.chunkIndex} checksum mismatch", .refused 409 "重复批次内容不一致")
      else if existing.recordCount ≠ put.recordCount then
        some (request.failMutable s!"chunk {put.chunkIndex} record_count mismatch", .refused 409 "重复批次记录数不一致")
      else some (request, .accepted true)
    | none =>
      if request.status.frozenManifest then some (request, .refused 409 "行情数据 manifest 已冻结")
      else if ¬request.status.mutableUpload then some (request, .refused 409 "行情数据请求已经结束")
      else request.checkStaging put raw

def admitChunk (put : ChunkPut) : Option Stopped :=
  match checkHeaders host put with
  | some (code, detail) => some (request, .refused code detail)
  | none => match readLimitedBody put.contentLength put.body MAX_MARKET_DATA_CHUNK_BYTES with
    | .error (code, detail) =>
      some (request.failUpload put.deviceId s!"chunk {put.chunkIndex} rejected: {detail}", .refused code detail)
    | .ok raw =>
      if ¬matchesDigest host (host.sha256 raw) put.contentSha256 then
        some (request.failUpload put.deviceId s!"chunk {put.chunkIndex} SHA256 verification failed", .refused 422 "行情批次 SHA256 校验失败")
      else request.checkLocked host put raw

def store (put : ChunkPut) : UploadRequest :=
  let receipts := request.receipts.set put.chunkIndex ⟨host.sha256 put.body, put.recordCount, put.body.length⟩
  { request with
    files := request.files.set put.chunkIndex put.body, receipts
    expectedChunks := if put.totalChunks > 0 then some put.totalChunks else request.expectedChunks
    receivedChunks := receipts.entries.length
    status := if put.totalChunks > 0 ∧ (receipts.entries.length : Int) = put.totalChunks then .uploaded else .receiving }

/-- `upload_market_data_chunk`. -/
def uploadChunk (put : ChunkPut) : UploadRequest × UploadAnswer :=
  match request.admitChunk host put with
  | some stopped => stopped
  | none => match put.ending with
    | .commits => (request.store host put, .accepted false)
    | .unpublished => (request, .lost)
    | .removed => ({ request with files := request.files.erase put.chunkIndex }, .lost)
    | .kept => ({ request with files := request.files.set put.chunkIndex put.body }, .lost)

/-- `complete_market_data_upload`. -/
def completeUpload (deviceId : String) (totalChunks : Int) : UploadRequest × UploadAnswer :=
  if totalChunks ≤ 0 ∨ totalChunks > MAX_MARKET_DATA_CHUNKS then (request, .refused 400 "行情批次总数无效")
  else if request.deviceId ≠ deviceId then (request, .refused 404 "行情数据请求不存在")
  else if request.status = .failed then (request, .refused 409 "行情数据请求已经结束")
  else if request.expectedChunks.any (· ≠ totalChunks) then
    (request.failMutable "market-data manifest total_chunks mismatch", .refused 409 "行情 manifest 总数不一致")
  else if request.status.frozenManifest then (request, .accepted true)
  else if ¬request.status.mutableUpload then (request, .refused 409 "行情数据请求已经结束")
  else
    let chunkIndices := request.receipts.keys.mergeSort fun a b => decide (a ≤ b)
    if chunkIndices ≠ (List.range totalChunks.toNat).map Int.ofNat then (request, .refused 409 "行情 manifest 仍有缺失批次")
    else
      ({ request with
        expectedChunks := some totalChunks, receivedChunks := chunkIndices.length
        status := .uploaded }, .accepted false)

/-- `fail_market_data_request`. A body that has no text of a reason is refused. -/
def failRequest (deviceId : String) (reason : Option String) : UploadRequest × UploadAnswer :=
  match reason with
  | none => (request, .refused 400 "失败原因格式无效")
  | some reason =>
    let reason := stripText reason
    if reason = "" then (request, .refused 400 "失败原因不能为空")
    else if reason = "MARKET_DATA_AGENT_BUSY" then
      let (request, requeued) := request.requeueBusy deviceId
      (request, .retryable requeued)
    else (request.failUpload deviceId s!"Agent rejected request: {reason}", .reported)

end UploadRequest

inductive UploadOp where
  | put (put : ChunkPut)
  | complete (deviceId : String) (totalChunks : Int)
  | fail (deviceId : String) (reason : Option String)

def UploadRequest.call (host : UploadHost) (request : UploadRequest) : UploadOp → UploadRequest × UploadAnswer
  | .put put => request.uploadChunk host put
  | .complete deviceId totalChunks => request.completeUpload deviceId totalChunks
  | .fail deviceId reason => request.failRequest deviceId reason

end QuantX
