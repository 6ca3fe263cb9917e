import LumenHorizon.Ingest.Models

/-! # Ingest failures

The classification of every error the pipeline can meet: its phase, code and category, and
whether it is worth another attempt. The text that reaches the database carries all of them.
-/

namespace LumenHorizon.Ingest
open Shared

structure StatusCode where
  code : ℕ
  text : String
deriving DecidableEq, Repr

structure DbError where
  text : String
deriving DecidableEq, Repr

inductive EarthdataError where
  | buildClient (error : String)
  | emptyBody (granuleTitle : String)
  | missingToken
  | readBody (error : String)
  | request (error : String)
  | status (granuleTitle : String) (status : StatusCode)
deriving DecidableEq, Repr

inductive StorageError where
  | azureStorage (error : String)
  | blobReadinessStatus (status : StatusCode) (body : String)
  | buildClient (error : String)
  | cannotBeBaseUrl
  | invalidBlobPath (blobPath reason : String)
  | downloadStatus (blobPath : String) (status : StatusCode) (body : String)
  | queueReadinessStatus (queueName : String) (status : StatusCode) (body : String)
  | queueStatus (queueName : String) (status : StatusCode) (body : String)
  | request (error : String)
  | readBody (error : String)
  | serializeMessage (error : String)
  | uploadStatus (blobPath : String) (status : StatusCode) (body : String)
deriving DecidableEq, Repr

inductive FailurePhase where
  | recordDownloading
  | download
  | upload
  | recoverDownload
  | markDownloaded
  | validation
  | markValidated
  | createOutbox
  | buildProcessingMessage
  | enqueue
  | markEnqueued
  | completeOutbox
deriving DecidableEq, Repr

def FailurePhase.asStr : FailurePhase → String
  | recordDownloading => "record_downloading"
  | download => "download"
  | upload => "upload"
  | recoverDownload => "recover_download"
  | markDownloaded => "mark_downloaded"
  | validation => "validation"
  | markValidated => "mark_validated"
  | createOutbox => "create_outbox"
  | buildProcessingMessage => "build_processing_message"
  | enqueue => "enqueue"
  | markEnqueued => "mark_enqueued"
  | completeOutbox => "complete_outbox"

structure IngestFailureContext where
  phase : FailurePhase
  code : String
  category : String
  retryEligible : Bool
  httpStatus : Option ℕ
  message : String
deriving DecidableEq, Repr

def IngestFailureContext.databaseMessage (failure : IngestFailureContext) : String :=
  "phase=" ++ failure.phase.asStr ++ "; code=" ++ failure.code ++ "; category=" ++
    failure.category ++ "; retry_eligible=" ++ toString failure.retryEligible ++
    (match failure.httpStatus with
      | some httpStatus => "; http_status=" ++ toString httpStatus
      | none => "") ++
    "; message=" ++ failure.message

def truncateErrorMessage (message : String) : String :=
  String.ofList (message.toList.take 1000)

def classifyHttpStatus (status : StatusCode) : String × Bool :=
  if status.code = 401 ∨ status.code = 403 then ("auth", false)
  else if status.code = 429 then ("rate_limit", true)
  else if 500 ≤ status.code ∧ status.code < 600 then ("upstream", true)
  else ("upstream", false)

namespace IngestFailureContext

/-- A failure that is an HTTP status: its class decides category and retry. -/
def ofStatus (phase : FailurePhase) (code : String) (status : StatusCode) (message : String) :
    IngestFailureContext where
  phase := phase
  code := code
  category := (classifyHttpStatus status).1
  retryEligible := (classifyHttpStatus status).2
  httpStatus := some status.code
  message := message

def earthdataDownload : EarthdataError → IngestFailureContext
  | .missingToken => ⟨.download, "earthdata_missing_token", "configuration", false, none,
      "EARTHDATA_BEARER_TOKEN is missing or still set to a placeholder"⟩
  | .buildClient error => ⟨.download, "earthdata_client_build_failed", "configuration", false, none,
      "failed to build Earthdata HTTP client: " ++ error⟩
  | .request error => ⟨.download, "earthdata_request_failed", "network", true, none,
      "Earthdata request failed before a response was received: " ++ error⟩
  | .status granuleTitle status => ofStatus .download "earthdata_http_status" status
      ("Earthdata returned HTTP " ++ status.text ++ " for granule " ++ granuleTitle)
  | .readBody error => ⟨.download, "earthdata_body_read_failed", "network", true, none,
      "failed to read Earthdata response body: " ++ error⟩
  | .emptyBody granuleTitle => ⟨.download, "earthdata_empty_body", "upstream", true, none,
      "Earthdata returned an empty body for granule " ++ granuleTitle⟩

def storageFailure (phase : FailurePhase) : StorageError → IngestFailureContext
  | .buildClient error => ⟨phase, "storage_client_build_failed", "configuration", false, none,
      "failed to build storage HTTP client: " ++ error⟩
  | .cannotBeBaseUrl => ⟨phase, "storage_endpoint_not_base_url", "configuration", false, none,
      "storage endpoint cannot be used as a base URL"⟩
  | .invalidBlobPath blobPath reason => ⟨phase, "storage_invalid_blob_path", "validation", false,
      none, "invalid blob path '" ++ blobPath ++ "': " ++ reason⟩
  | .request error => ⟨phase, "storage_request_failed", "network", true, none,
      "storage request failed before a response was received: " ++ error⟩
  | .readBody error => ⟨phase, "storage_blob_read_failed", "network", true, none,
      "failed to read storage response body: " ++ error⟩
  | .serializeMessage error => ⟨phase, "storage_message_serialize_failed", "serialization", false,
      none, "failed to serialize processing message: " ++ error⟩
  | .uploadStatus blobPath status body => ofStatus phase "storage_upload_http_status" status
      ("blob upload returned HTTP " ++ status.text ++ " for '" ++ blobPath ++ "': " ++ body)
  | .downloadStatus blobPath status body => ofStatus phase "storage_download_http_status" status
      ("blob download returned HTTP " ++ status.text ++ " for '" ++ blobPath ++ "': " ++ body)
  | .blobReadinessStatus status body => ofStatus phase "storage_blob_readiness_http_status" status
      ("raw blob container readiness check returned HTTP " ++ status.text ++ ": " ++ body)
  | .queueStatus queueName status body => ofStatus phase "storage_queue_http_status" status
      ("queue enqueue returned HTTP " ++ status.text ++ " for '" ++ queueName ++ "': " ++ body)
  | .queueReadinessStatus queueName status body =>
      ofStatus phase "storage_queue_readiness_http_status" status
        ("queue readiness check returned HTTP " ++ status.text ++ " for '" ++ queueName ++ "': " ++
          body)
  | .azureStorage error => ⟨phase, "storage_shared_helper_failed", "configuration", false, none,
      "shared Azure Storage helper failed: " ++ error⟩

def storageUpload : StorageError → IngestFailureContext := storageFailure .upload

def queueEnqueue : StorageError → IngestFailureContext := storageFailure .enqueue

def rawValidation : RawGranuleValidationError → IngestFailureContext
  | .tooSmall actualSize minimumSize => ⟨.validation, "raw_granule_too_small", "validation", false,
      none, "raw granule was " ++ toString actualSize ++ " bytes; expected at least " ++
        toString minimumSize ++ " bytes"⟩
  | .missingHdf5Magic => ⟨.validation, "raw_granule_missing_hdf5_magic", "validation", false, none,
      "raw granule is missing the HDF5 magic number"⟩

def processingMessage : ProcessingMessageValidationError → IngestFailureContext
  | .invalidJson error => ⟨.buildProcessingMessage, "processing_message_invalid_json",
      "serialization", false, none, "invalid processing message JSON: " ++ error⟩
  | .invalidBlobPath blobPath => ⟨.buildProcessingMessage, "processing_message_invalid_blob_path",
      "validation", false, none, "invalid blob path '" ++ blobPath ++ "'"⟩
  | .unsupportedProduct product => ⟨.buildProcessingMessage,
      "processing_message_unsupported_product", "validation", false, none,
      "unsupported product '" ++ product ++ "'"⟩
  | .missingTileInBlobPath blobPath => ⟨.buildProcessingMessage,
      "processing_message_blob_path_tile_missing", "validation", false, none,
      "invalid blob path '" ++ blobPath ++ "': missing hXXvYY tile coordinate"⟩
  | .tileMismatch blobTileH blobTileV messageTileH messageTileV => ⟨.buildProcessingMessage,
      "processing_message_blob_path_tile_mismatch", "validation", false, none,
      "processing message tile mismatch: blob path has h" ++ pad2 blobTileH ++ "v" ++
        pad2 blobTileV ++ ", message has h" ++ pad2 messageTileH ++ "v" ++ pad2 messageTileV⟩

def databaseStatusUpdate (phase : FailurePhase) (code : String) (error : DbError) :
    IngestFailureContext :=
  ⟨phase, code, "database", true, none, "failed to update ingest_log status: " ++ error.text⟩

inductive MarksFailed : IngestFailureContext → Prop
  | download (error : EarthdataError) : MarksFailed (earthdataDownload error)
  | upload (error : StorageError) : MarksFailed (storageUpload error)
  | outbox (error : DbError) :
      MarksFailed (databaseStatusUpdate .createOutbox "create_enqueue_outbox_failed" error)
  | message (error : ProcessingMessageValidationError) : MarksFailed (processingMessage error)
  | enqueue (error : StorageError) : MarksFailed (queueEnqueue error)

end IngestFailureContext
end LumenHorizon.Ingest
