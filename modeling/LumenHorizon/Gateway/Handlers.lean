import LumenHorizon.Gateway.TileRequests
import LumenHorizon.Gateway.TokenChecks

/-! # Handlers

The bodies of the handlers as programs over the stores and services that the gateway asks.
-/

namespace LumenHorizon.Gateway
open Foundation Shared SlippyTiles Processing GatewayProgram

structure AppConfig where
  auth : AuthConfig
  maxUrlLengthBytes : ℕ
  adminMaxBodyBytes : ℕ
  tileLatestCacheControl : String
deriving DecidableEq, Repr

/-- Which of the optional dependencies are configured. -/
structure AppState where
  config : AppConfig
  tileManifestStorage : Bool
  database : Bool
  processingQueue : Bool
  ingestAdmin : Bool
deriving DecidableEq, Repr

structure Decoders (K : Type) where
  jwt : JwtLibrary
  /-- Percent-decoding of a path parameter, if the bytes are UTF-8. -/
  pathParameter : String → Option String
  formUrlencoded : String → List (String × String)
  uuid : String → Option Uuid
  /-- A value that is no finite number is none of the field. -/
  float : String → Option (Option K)
  latestManifestPointer : Json → Except String String
  tileRedirectManifest : Json → Option (TileRedirectManifest K)
  emptyAdminBody : List UInt8 → Bool
  requeueProcessingRequest : List UInt8 → Option Uuid
  serializeMessage : ProcessingMessage → Except String String

variable {K : Type} [Field K] [LinearOrder K] (decoders : Decoders K) (state : AppState)
  (requestId : Uuid)

def latestManifest : GatewayProgram (Except StorageError Json) := do
  match ← readJsonBlob latestManifestBlobPath with
  | .error error => pure (.error error)
  | .ok value =>
    match decoders.latestManifestPointer value with
    | .error error => pure (.error (.parseLatestPointer error))
    | .ok blobPath =>
      match validateManifestBlobPath blobPath with
      | .error error => pure (.error error)
      | .ok () => readJsonBlob blobPath

def manifestById (tileSetId : String) : GatewayProgram (Except StorageError Json) :=
  match manifestBlobPath tileSetId with
  | .error error => pure (.error error)
  | .ok blobPath => readJsonBlob blobPath

def manifestStorageErrorResponse (error : StorageError) (latest : Bool) : Response :=
  GatewayError.intoResponse
    (if error = .invalidTileSetId then .invalidRequest "invalid tile set id"
    else if ¬ latest ∧ error.isBlobNotFound then .tileNotFound "tile manifest not found"
    else if latest ∧ error.isBlobNotFound then
      .serviceUnavailable "latest tile manifest is not available"
    else .serviceUnavailable "tile manifest storage is unavailable")
    requestId

def defaultLatestCacheControl : String := "public, max-age=300, must-revalidate"

/-- The configured value, if it can stand in a header. -/
def latestCacheControl : String :=
  if isHeaderValue state.config.tileLatestCacheControl then state.config.tileLatestCacheControl
  else defaultLatestCacheControl

def latestTileManifest : GatewayProgram Response :=
  if state.tileManifestStorage then do
    match ← latestManifest decoders with
    | .ok manifest =>
      pure (successResponse 200 [("cache-control", latestCacheControl state)] (.value manifest)
        requestId none)
    | .error error => pure (manifestStorageErrorResponse requestId error true)
  else
    pure ((GatewayError.serviceUnavailable "tile manifest storage is not configured").intoResponse
      requestId)

def tileManifestById (tileSetId : String) : GatewayProgram Response :=
  if ¬ AcceptedTileSetId tileSetId then
    pure ((GatewayError.invalidRequest "invalid tile set id").intoResponse requestId)
  else if state.tileManifestStorage then do
    match ← manifestById tileSetId with
    | .ok manifest => pure (successResponse 200 [] (.value manifest) requestId none)
    | .error error => pure (manifestStorageErrorResponse requestId error false)
  else
    pure ((GatewayError.serviceUnavailable "tile manifest storage is not configured").intoResponse
      requestId)

def tileClasses : GatewayProgram Response := pure (successResponse 200 [] .classes requestId none)

def tileRedirect (P : LatitudeProjection K) (tileSetId z x tileFile : String) :
    GatewayProgram Response :=
  if ¬ AcceptedTileSetId tileSetId then
    pure ((GatewayError.invalidRequest "invalid tile set id").intoResponse requestId)
  else
    match parseTileCoord z x tileFile with
    | .error error => pure (error.intoResponse requestId)
    | .ok coord =>
      if state.tileManifestStorage then do
        match ← manifestById tileSetId with
        | .error error => pure (manifestStorageErrorResponse requestId error false)
        | .ok manifest =>
          match decoders.tileRedirectManifest manifest with
          | none =>
            pure ((GatewayError.tileUnavailable "tile manifest is not redirectable").intoResponse
              requestId)
          | some manifest => pure (redirectResponse P manifest coord requestId)
      else
        pure ((GatewayError.serviceUnavailable
          "tile manifest storage is not configured").intoResponse requestId)

def listRows (query : Option String) (list : ℕ → ℕ → GatewayProgram (Except DbError (List Json)))
    (failed : String) : GatewayProgram Response :=
  match paginationFromRawQuery decoders.formUrlencoded query with
  | .error error => pure (error.intoResponse requestId)
  | .ok pagination =>
    if state.database then do
      match ← list pagination.queryLimit pagination.offset with
      | .ok rows => pure (pagedResponse rows pagination requestId)
      | .error _ => pure ((GatewayError.serviceUnavailable failed).intoResponse requestId)
    else
      pure ((GatewayError.serviceUnavailable "database is not configured").intoResponse requestId)

def listTileSetsHandler (query : Option String) : GatewayProgram Response :=
  listRows decoders state requestId query listTileSets "list tile sets failed"

def listIngestRunsHandler (query : Option String) : GatewayProgram Response :=
  listRows decoders state requestId query listIngestRuns "list ingest runs failed"

def listProcessingRunsHandler (query : Option String) : GatewayProgram Response :=
  listRows decoders state requestId query listProcessingRuns "list processing runs failed"

def searchSites (query : Option String) : GatewayProgram Response :=
  match validateSiteSearchQuery decoders.float decoders.formUrlencoded query with
  | .error error => pure (error.intoResponse requestId)
  | .ok () =>
    pure ((GatewayError.serviceUnavailable "site search is deferred").intoResponse requestId)

def siteDetail (siteId : String) : GatewayProgram Response :=
  match decoders.uuid siteId with
  | none => pure ((GatewayError.invalidRequest "invalid site id").intoResponse requestId)
  | some _ =>
    pure ((GatewayError.serviceUnavailable "site detail is deferred").intoResponse requestId)

def siteScore (siteId : String) : GatewayProgram Response :=
  match decoders.uuid siteId with
  | none => pure ((GatewayError.invalidRequest "invalid site id").intoResponse requestId)
  | some _ =>
    pure ((GatewayError.serviceUnavailable "site scoring is deferred").intoResponse requestId)

def auditedError (admin : AdminContext) (action : String) (targetId : Option Uuid)
    (outcome : String) (error : GatewayError) : GatewayProgram Response := do
  emitAdminAudit requestId admin action targetId outcome error.status
  pure (error.intoResponse requestId)

def triggerIngestHandler (admin : AdminContext) (body : List UInt8) : GatewayProgram Response :=
  let refuse := auditedError requestId admin "ingest.trigger" none
  if body ≠ [] ∧ decoders.emptyAdminBody body = false then
    refuse "validation_failed" (.invalidRequest "invalid admin request body")
  else if state.ingestAdmin = false then
    refuse "error" (.serviceUnavailable "ingest service is not configured")
  else do
    match ← triggerIngest requestId with
    | .error _ => refuse "error" (.upstreamError "ingest service trigger failed")
    | .ok upstream =>
      emitAdminAudit requestId admin "ingest.trigger" none "success" 202
      pure (successResponse 202 [] (.ingestAccepted upstream) requestId none)

/-- `parse_requeue_request`. -/
def parseRequeueRequest (body : List UInt8) : Except GatewayError Uuid :=
  if body = [] then .error (.invalidRequest "processing requeue body is required")
  else
    match decoders.requeueProcessingRequest body with
    | none => .error (.invalidRequest "invalid processing requeue body")
    | some ingestId => .ok ingestId

def enqueueRecord (admin : AdminContext) (ingestId : Uuid) (record : ProcessingRequeueRecord) :
    GatewayProgram Response :=
  let refuse := auditedError requestId admin "processing.requeue" (some ingestId)
  match ProcessingMessage.new record.ingestId record.blobPath record.product record.granuleDate
      record.tileH record.tileV with
  | .error _ =>
    refuse "validation_failed"
      (.unprocessableEntity "processing item cannot produce a valid queue message")
  | .ok message =>
    match decoders.serializeMessage message with
    | .error _ => refuse "error" .internalError
    | .ok messageJson => do
      match ← enqueueProcessingMessage messageJson with
      | .error _ => refuse "error" (.upstreamError "processing queue enqueue failed")
      | .ok () =>
        emitAdminAudit requestId admin "processing.requeue" (some ingestId) "success" 202
        pure (successResponse 202 [] (.requeueAccepted ingestId) requestId none)

def requeueProcessingItem (admin : AdminContext) (body : List UInt8) : GatewayProgram Response :=
  match parseRequeueRequest decoders body with
  | .error error =>
    auditedError requestId admin "processing.requeue" none "validation_failed" error
  | .ok ingestId =>
    let refuse := auditedError requestId admin "processing.requeue" (some ingestId)
    if state.database = false then
      refuse "error" (.serviceUnavailable "database is not configured")
    else if state.processingQueue = false then
      refuse "error" (.serviceUnavailable "processing queue is not configured")
    else do
      match ← processingMessageForRequeue ingestId with
      | .error .notFound => refuse "not_found" (.notFound "processing item not found")
      | .error _ => refuse "error" (.serviceUnavailable "processing requeue lookup failed")
      | .ok record =>
        if record.processingStatus ∈ [some "failed", some "rejected", some "deadlettered"] then
          enqueueRecord decoders requestId admin ingestId record
        else if record.processingStatus ∈ [some "processing", some "processed"] then
          refuse "conflict" (.conflict "processing item is not requeueable")
        else
          refuse "validation_failed"
            (.unprocessableEntity "processing item has no failed processing run")

def DependencyCheck.ready (name : String) : DependencyCheck :=
  { name := name, status := "ready", message := none }

def DependencyCheck.unavailable (name message : String) : DependencyCheck :=
  { name := name, status := "unavailable", message := some message }

def DependencyCheck.isReady (check : DependencyCheck) : Bool := check.status = "ready"

def dependencyCheck {ε α : Type} (name : String) : Except ε α → DependencyCheck
  | .ok _ => .ready name
  | .error _ => .unavailable name "dependency check failed"

def checkIfConfigured {ε α : Type} (configured : Bool) (name missing : String)
    (check : GatewayProgram (Except ε α)) : GatewayProgram DependencyCheck :=
  if configured then do
    let result ← check
    pure (dependencyCheck name result)
  else pure (.unavailable name missing)

def deepHealth : GatewayProgram Response := do
  let database ← checkIfConfigured state.database "database" "database is not configured"
    checkDatabase
  let tileManifest ← checkIfConfigured state.tileManifestStorage "tile_manifest"
    "tile manifest storage is not configured" (latestManifest decoders)
  let processingQueue ← checkIfConfigured state.processingQueue "processing_queue"
    "processing queue is not configured" checkProcessingQueue
  let ingestAdmin :=
    if state.ingestAdmin then DependencyCheck.ready "ingest_admin"
    else .unavailable "ingest_admin" "ingest service is not configured"
  let checks := [database, tileManifest, processingQueue, ingestAdmin]
  let ready := checks.all DependencyCheck.isReady
  pure (successResponse (if ready then 200 else 503) []
    (.deepHealth (if ready then "ready" else "not_ready") checks) requestId none)

def statusResponse (status : ℕ) (text : String) : Response :=
  { status := status, headers := [("content-type", "application/json")], body := .text text }

def health : GatewayProgram Response := pure (statusResponse 200 "healthy")

def ready : GatewayProgram Response := do
  let ready ← checkReadiness
  pure (if ready then statusResponse 200 "ready" else statusResponse 503 "not_ready")

def notFound : Response := (GatewayError.notFound "route not found").intoResponse requestId

/-- Libraries that know one manifest, and take every path parameter as it is. -/
def sampleDecoders (manifest : TileRedirectManifest K) : Decoders K where
  jwt := sampleJwt
  pathParameter := some
  formUrlencoded _ := []
  uuid _ := none
  float _ := none
  latestManifestPointer _ := .ok "manifests/sample.json"
  tileRedirectManifest json := if json = "manifest" then some manifest else none
  emptyAdminBody body := body.length = 2
  requeueProcessingRequest _ := none
  serializeMessage _ := .ok ""

def sampleState : AppState where
  config := {
    auth := sampleConfig
    maxUrlLengthBytes := 8192
    adminMaxBodyBytes := 65536
    tileLatestCacheControl := defaultLatestCacheControl }
  tileManifestStorage := true
  database := true
  processingQueue := true
  ingestAdmin := true

end LumenHorizon.Gateway
