import LumenHorizon.Gateway.Auth
import LumenHorizon.Gateway.Handlers

/-! # Requests through the middleware

A request is hardened and charged outside of its timeout, then routed inside of it. An admin route
is authenticated and charged once more, under the path that nesting leaves.
-/

namespace LumenHorizon.Gateway
open Foundation Shared SlippyTiles GatewayProgram

def adminPrefix : String := "/api/v1/admin/"

/-- `Method::eq_ignore_ascii_case`. -/
def eqIgnoreAsciiCase (a b : String) : Prop := a.toList.map Char.toLower = b.toList.map Char.toLower

instance (a b : String) : Decidable (eqIgnoreAsciiCase a b) := inferInstanceAs (Decidable (_ = _))

def validateRequestHardening (config : AppConfig) (request : Request) :
    Except GatewayError Unit :=
  if byteLength request.path > config.maxUrlLengthBytes then
    .error (.invalidRequest "request URI is too long")
  else if ∃ expected ∈ expectedMethodForApiPath request.path,
      ¬ eqIgnoreAsciiCase request.method expected then
    .error (.invalidRequest "method is not supported for this route")
  else if request.method = "GET" ∧ (contentLength request.headers).getD 0 > 0 then
    .error (.invalidRequest "GET request bodies are not accepted")
  else if startsWith request.path adminPrefix ∧ request.method = "POST" then
    if (contentLength request.headers).getD 0 > config.adminMaxBodyBytes then
      .error (.invalidRequest "request body is too large")
    else if isJsonContentType request.headers = false then
      .error (.invalidRequest "admin writes require application/json")
    else .ok ()
  else .ok ()

def actionForPath (path : String) : String :=
  ((adminRoutePolicyForPath path).map AdminRoutePolicy.action).getD "admin.request"

/-- The path that `nest` leaves to the nested router. -/
def nestedPath (path : String) : String :=
  match stripPrefix path adminPrefix with
  | some rest => String.ofList ('/' :: rest)
  | none => path

/-- The role that the policy of a path asks for; a path without a policy asks for the same. -/
def requiredRoleForPath (config : AppConfig) (path : String) : String :=
  match ((adminRoutePolicyForPath path).map AdminRoutePolicy.role).getD .configuredAdmin with
  | .configuredAdmin => config.auth.adminRequiredRole

def adminRouteClass (method : String) : RouteClass :=
  if method = "POST" then .adminWrite else .adminRead

variable {K : Type} [Field K] [LinearOrder K] (P : LatitudeProjection K) (decoders : Decoders K)
  (state : AppState) (requestId : Uuid) (request : Request)

/-- A request that is not authenticated is charged to its client. -/
def rejectUnauthenticated (error : GatewayError) : GatewayProgram Response := do
  match ← checkRateLimit (clientKeyFromHeaders request.headers) .authFailure with
  | .error rateLimitError => pure (rateLimitError.intoResponse requestId)
  | .ok () => pure (error.intoResponse requestId)

/-- An authenticated request is charged to its subject on the nested path. -/
def admitAdmin (admin : AdminContext) (next : AdminContext → GatewayProgram Response) :
    GatewayProgram Response := do
  let path := nestedPath request.path
  match ← checkRateLimit (admin.subject ++ ":" ++ path) (adminRouteClass request.method) with
  | .error error =>
    auditedError requestId admin (actionForPath path) none
      (if error.status = 429 then "rate_limited" else "error") error
  | .ok () => next admin

def requireAdmin (next : AdminContext → GatewayProgram Response) : GatewayProgram Response := do
  let requiredRole := requiredRoleForPath state.config (nestedPath request.path)
  match ← authenticateWithRole decoders.jwt state.config.auth request.headers requiredRole with
  | .ok admin => admitAdmin requestId request admin next
  | .error error => rejectUnauthenticated requestId request error

def rejection (status : ℕ) (text : String) : Response where
  status := status
  headers := [("content-type", "text/plain; charset=utf-8")]
  body := .text text

def defaultBodyLimit : ℕ := 2097152

/-- The `Bytes` extractor before a handler. -/
def withBody (next : List UInt8 → GatewayProgram Response) : GatewayProgram Response := do
  if ← readBody then
    if request.body.length > defaultBodyLimit then
      pure (rejection 413 "Failed to buffer the request body: length limit exceeded")
    else next request.body
  else pure (rejection 400 "Failed to buffer the request body")

/-- The body of a handler on its decoded parameters. -/
def publicHandler (handler : Handler) (params : List String) : GatewayProgram Response := do
  runHandler handler []
  match handler, params with
  | .health, [] => health
  | .ready, [] => ready
  | .latestTileManifest, [] => latestTileManifest decoders state requestId
  | .tileManifestById, [tileSetId] => tileManifestById state requestId tileSetId
  | .listTileSets, [] => listTileSetsHandler decoders state requestId request.query
  | .tileClasses, [] => tileClasses requestId
  | .tileRedirect, [tileSetId, z, x, tileFile] =>
    tileRedirect decoders state requestId P tileSetId z x tileFile
  | .searchSites, [] => searchSites decoders requestId request.query
  | .siteDetail, [siteId] => siteDetail decoders requestId siteId
  | .siteScore, [siteId] => siteScore decoders requestId siteId
  | _, _ => pure (notFound requestId)

def adminHandler (handler : Handler) (admin : AdminContext) : GatewayProgram Response :=
  match handler with
  | .triggerIngest => withBody request fun body => do
    runHandler handler body
    triggerIngestHandler decoders state requestId admin body
  | .requeueProcessingItem => withBody request fun body => do
    runHandler handler body
    requeueProcessingItem decoders state requestId admin body
  | .listIngestRuns => do
    runHandler handler []
    listIngestRunsHandler decoders state requestId request.query
  | .listProcessingRuns => do
    runHandler handler []
    listProcessingRunsHandler decoders state requestId request.query
  | .deepHealth => do
    runHandler handler []
    deepHealth decoders state requestId
  | _ => pure (notFound requestId)

/-- What the `Path` extractor answers to parameters of which one is not UTF-8: it names the first. -/
def undecodableParameter (handler : Handler) (params : List String) : Response :=
  let named := (handler.pathParameters.zip params).find? fun param =>
    (decoders.pathParameter param.2).isNone
  rejection 400 ("Invalid URL: Invalid UTF-8 in `" ++ (named.map Prod.fst).getD "" ++ "`")

def methodNotAllowed : Response := { status := 405, headers := [], body := .empty }

/-- A route that the router has found. The layer of the nested router is around its handlers
whatever the method. -/
def dispatch (handler : Handler) (params : List String) : GatewayProgram Response :=
  if handler.isAdmin then
    requireAdmin decoders state requestId request fun admin =>
      if handler.answers request.method then adminHandler decoders state requestId request handler admin
      else pure methodNotAllowed
  else if handler.answers request.method then
    match params.mapM decoders.pathParameter with
    | some params => publicHandler P decoders state requestId request handler params
    | none => pure (undecodableParameter decoders handler params)
  else pure methodNotAllowed

/-- `next.run(request)`. -/
def route : GatewayProgram Response :=
  match matchRoute request.path with
  | some (handler, params) => dispatch P decoders state requestId request handler params
  | none => pure (notFound requestId)

def publicRouteClass : Option RouteClass :=
  if startsWith request.path adminPrefix then none
  else routeClassForPublic request.method request.path

def admitRequest : GatewayProgram (Except GatewayError Unit) :=
  match validateRequestHardening state.config request with
  | .error error => pure (.error error)
  | .ok () =>
    match publicRouteClass request with
    | none => pure (.ok ())
    | some routeClass => checkRateLimit (clientKeyFromHeaders request.headers) routeClass

def applyStandardHeaders (headers : HeaderMap) (path : String) : HeaderMap :=
  let headers := insertHeader headers "x-request-id" (Processing.uuidDisplay requestId)
  let headers := insertHeader headers "x-content-type-options" "nosniff"
  let headers := insertHeader headers "x-frame-options" "DENY"
  let headers := insertHeader headers "referrer-policy" "no-referrer"
  let headers :=
    insertHeader headers "permissions-policy" "camera=(), microphone=(), geolocation=()"
  if startsWith path adminPrefix then insertHeader headers "cache-control" "no-store"
  else if containsText path "/manifest/" then
    insertHeader headers "cache-control" immutableCacheControl
  else headers

def Response.withStandardHeaders (response : Response) : Response :=
  { response with headers := applyStandardHeaders requestId response.headers request.path }

def timedOut : Response := (GatewayError.serviceUnavailable "request timed out").intoResponse requestId

def timedRoute : TimedProgram Response := do
  let response ← (route P decoders state requestId request).withTimeout GatewayCall.waits
  pure (response.getD (timedOut requestId))

/-- `request_context`, for a request whose id was read or is fresh. -/
def requestContext : TimedProgram Response := do
  let admitted ← (admitRequest state request).untimed
  let response ← match admitted with
    | .error error => pure (error.intoResponse requestId)
    | .ok () => timedRoute P decoders state requestId request
  pure (response.withStandardHeaders requestId request)

def requestIdFromHeaders (fresh : Uuid) : Uuid :=
  ((readHeader request.headers "x-request-id").bind decoders.uuid).getD fresh

/-- A request with the id that `Uuid::new_v4` would give it. -/
def serve (fresh : Uuid) : TimedProgram Response :=
  requestContext P decoders state (requestIdFromHeaders decoders request fresh) request

end LumenHorizon.Gateway
