import LumenHorizon.Ingest.Calls

/-! # The ingest pipeline for one granule

`process_granule_inner` as a program, one function for each stretch up to the next success.
-/

namespace LumenHorizon.Ingest
open Foundation Shared IngestProgram

structure IngestConfig where
  azureQueueName : String
deriving DecidableEq, Repr

inductive GranuleProcessingOutcome where
  | skipped
  | failedBeforeDownloaded
  | failedAfterDownloaded
  | rejectedAfterDownloaded
  | failedAfterValidated
  | enqueued
deriving DecidableEq, Repr

structure IngestSummary where
  discovered : ℕ
  attempted : ℕ
  downloaded : ℕ
  validated : ℕ
  enqueued : ℕ
  rejected : ℕ
  failed : ℕ
  skipped : ℕ
deriving DecidableEq, Repr

def IngestSummary.new (discovered : ℕ) : IngestSummary :=
  { discovered := discovered, attempted := 0, downloaded := 0, validated := 0, enqueued := 0,
    rejected := 0, failed := 0, skipped := 0 }

def IngestSummary.recordAttempt (summary : IngestSummary) (outcome : GranuleProcessingOutcome) :
    IngestSummary :=
  let summary := { summary with attempted := summary.attempted + 1 }
  match outcome with
  | .skipped => { summary with skipped := summary.skipped + 1 }
  | .failedBeforeDownloaded => { summary with failed := summary.failed + 1 }
  | .failedAfterDownloaded =>
    { summary with downloaded := summary.downloaded + 1, failed := summary.failed + 1 }
  | .rejectedAfterDownloaded =>
    { summary with downloaded := summary.downloaded + 1, rejected := summary.rejected + 1 }
  | .failedAfterValidated =>
    { summary with
      downloaded := summary.downloaded + 1
      validated := summary.validated + 1
      failed := summary.failed + 1 }
  | .enqueued =>
    { summary with
      downloaded := summary.downloaded + 1
      validated := summary.validated + 1
      enqueued := summary.enqueued + 1 }

/-- From the outbox record on: build the message, enqueue it, and settle both tables. -/
def enqueueGranule (config : IngestConfig) (granule : GranuleCandidate) (blobPath : String)
    (ingestId outboxId : Uuid) : IngestProgram GranuleProcessingOutcome := do
  match processingMessageFromGranule ingestId granule blobPath with
  | .error error =>
    let _ ← markFailed ingestId (IngestFailureContext.processingMessage error).databaseMessage
    pure .failedAfterValidated
  | .ok message =>
    match ← enqueueProcessingMessage config.azureQueueName message with
    | .error error =>
      let _ ← markFailed ingestId (IngestFailureContext.queueEnqueue error).databaseMessage
      pure .failedAfterValidated
    | .ok () =>
      match ← markEnqueued ingestId with
      | .error _ => pure .failedAfterValidated
      | .ok () =>
        match ← markOutboxCompleted outboxId with
        | .error _ => pure .failedAfterValidated
        | .ok () => pure .enqueued

/-- From valid bytes on: mark the row validated and create its outbox record. -/
def validateGranule (config : IngestConfig) (granule : GranuleCandidate) (blobPath : String)
    (ingestId : Uuid) : IngestProgram GranuleProcessingOutcome := do
  match ← markValidated ingestId with
  | .error _ => pure .failedAfterDownloaded
  | .ok () =>
    match ← createPendingEnqueueOutbox ingestId "ingest_validated" with
    | .error error =>
      let _ ← markFailed ingestId (IngestFailureContext.databaseStatusUpdate .createOutbox
        "create_enqueue_outbox_failed" error).databaseMessage
      pure .failedAfterValidated
    | .ok outboxId => enqueueGranule config granule blobPath ingestId outboxId

/-- From the new row on: download, upload, mark downloaded and check the bytes. -/
def downloadGranule (config : IngestConfig) (granule : GranuleCandidate) (blobPath : String)
    (ingestId : Uuid) : IngestProgram GranuleProcessingOutcome := do
  match ← earthdataDownload granule with
  | .error error =>
    let _ ← markFailed ingestId (IngestFailureContext.earthdataDownload error).databaseMessage
    pure .failedBeforeDownloaded
  | .ok bytes =>
    match ← uploadRawBlob blobPath bytes with
    | .error error =>
      let _ ← markFailed ingestId (IngestFailureContext.storageUpload error).databaseMessage
      pure .failedBeforeDownloaded
    | .ok () =>
      match ← markDownloaded ingestId with
      | .error _ => pure .failedBeforeDownloaded
      | .ok () =>
        match validateRawGranuleBytes bytes with
        | .error error =>
          let _ ← markRejected ingestId (IngestFailureContext.rawValidation error).databaseMessage
          pure .rejectedAfterDownloaded
        | .ok () => validateGranule config granule blobPath ingestId

def processGranuleInner (config : IngestConfig) (granule : GranuleCandidate) (blobPath : String) :
    IngestProgram GranuleProcessingOutcome := do
  match ← insertDownloadingRow granule blobPath with
  | .ok (.created ingestId) => downloadGranule config granule blobPath ingestId
  | .ok .alreadyExists => pure .skipped
  | .error _ => pure .skipped

def processGranule (config : IngestConfig) (granule : GranuleCandidate) :
    IngestProgram GranuleProcessingOutcome :=
  processGranuleInner config granule granule.rawBlobPath

end LumenHorizon.Ingest
