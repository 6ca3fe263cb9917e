import LumenHorizon.Foundation.Outcomes
import LumenHorizon.Gateway.Handlers
import LumenHorizon.Gateway.Stores
import LumenHorizon.Shared.HttpRetry

/-! # The configuration of the gateway

`AppConfig::from_lookup` reads the environment: some variables are required, more of them outside
the local profiles, and what is set is checked. A variable that is blank counts as one that is not
set. Parsing a URL and a log filter is left to their libraries.
-/

namespace LumenHorizon.Gateway
open Foundation Shared Processing

/-- What the environment holds under each name. -/
abbrev Lookup := String → Option String

structure MissingVariable where
  name : String
  purpose : String
deriving DecidableEq, Repr

inductive ConfigError where
  | invalidSecretValue (variableName expected : String)
  | invalidValue (variableName value expected : String)
  | missingRequired (missing : List MissingVariable)
deriving DecidableEq, Repr

def ConfigError.display : ConfigError → String
  | invalidSecretValue variableName expected =>
    "configuration error: invalid " ++ variableName ++ " value: " ++ expected
  | invalidValue variableName value expected =>
    "configuration error: invalid " ++ variableName ++ " value '" ++ value ++ "': " ++ expected
  | missingRequired missing =>
    "configuration error: missing required environment variables:\n" ++ String.join
      (missing.map fun entry => "- " ++ entry.name ++ ": " ++ entry.purpose ++ "\n")

/-- Why there is no configuration: an error, or an `expect` that fails. -/
inductive LoadFailure where
  | error (error : ConfigError)
  | panic (message : String)
deriving DecidableEq, Repr

inductive RuntimeEnvironment where
  | local
  | dev
  | staging
  | prod
deriving DecidableEq, Repr

def RuntimeEnvironment.requiresDistributedRateLimit : RuntimeEnvironment → Bool
  | staging | prod => true
  | _ => false

def RuntimeEnvironment.requiresTenantBoundAuth : RuntimeEnvironment → Bool
  | staging | prod => true
  | _ => false

structure RateLimitConfig where
  backend : RateLimitBackend
  redisUrl : Option String
  distributedRequired : Bool
deriving DecidableEq, Repr

structure DatabaseConfig where
  databaseUrl : String
  maxConnections : ℕ
deriving DecidableEq, Repr

structure TileManifestStorageConfig where
  azureStorageAccount : String
  azureStorageAccessKey : String
  azureStorageEmulatorHost : Option String
  processedTilesContainer : String
deriving DecidableEq, Repr

structure IngestAdminConfig where
  baseUrl : String
deriving DecidableEq, Repr

structure InternalServiceAuthConfig where
  headerName : String
  token : String
deriving DecidableEq, Repr

structure ProcessingQueueConfig where
  azureStorageAccount : String
  azureStorageAccessKey : String
  azureStorageEmulatorHost : Option String
  queueName : String
deriving DecidableEq, Repr

/-- The configuration with what the handlers do not ask for. Timeouts are in seconds. -/
structure LoadedConfig extends AppConfig where
  port : ℕ
  rustLog : String
  runtimeEnvironment : RuntimeEnvironment
  rateLimit : RateLimitConfig
  database : Option DatabaseConfig
  tileManifestStorage : Option TileManifestStorageConfig
  ingestAdmin : Option IngestAdminConfig
  internalServiceAuth : Option InternalServiceAuthConfig
  processingQueue : Option ProcessingQueueConfig
  httpRetry : RetryConfig
  publicTimeout : ℕ
  adminTimeout : ℕ
  healthTimeout : ℕ
deriving DecidableEq, Repr

structure Url where
  scheme : String
  host : Option String
deriving DecidableEq, Repr

def defaultRustLog : String := "api_gateway=info"

/-- `url::Url::parse` and `EnvFilter::try_new`. -/
structure ConfigLibrary where
  parseUrl : String → Option Url
  isFilter : String → Bool
  isFilter_default : isFilter defaultRustLog = true

/-! ## Reading variables -/

def readOptional (lookup : Lookup) (name : String) : Option String :=
  (lookup name).filter fun value => !isBlank value

def optionalOrDefault (lookup : Lookup) (name default : String) : String :=
  (readOptional lookup name).getD default

/-- The value of a required variable, and the list of missing ones with this one if it is not
set. -/
def readRequired (lookup : Lookup) (name purpose : String) (missing : List MissingVariable) :
    Option String × List MissingVariable :=
  match readOptional lookup name with
  | some value => (some value, missing)
  | none => (none, missing ++ [⟨name, purpose⟩])

def parsePort (value : String) : Except ConfigError ℕ :=
  match parseUnsigned (2 ^ 16 - 1) value with
  | none => .error (.invalidValue "PORT" value "expected a TCP port between 1 and 65535")
  | some port =>
    if port = 0 then
      .error (.invalidValue "PORT" value "expected a TCP port between 1 and 65535")
    else .ok port

def parseUsize (variableName value : String) : Except ConfigError ℕ :=
  match parseUnsigned (2 ^ 64 - 1) value with
  | none => .error
    (.invalidValue variableName value "expected a positive integer that fits in usize")
  | some n => .ok n

def parseU64 (variableName value : String) : Except ConfigError ℕ :=
  match parseUnsigned (2 ^ 64 - 1) value with
  | none => .error (.invalidValue variableName value "expected a positive integer")
  | some n => .ok n

def parsePositiveDuration (expected variableName value : String) : Except ConfigError ℕ := do
  let duration ← parseU64 variableName value
  if duration = 0 then .error (.invalidValue variableName value expected) else .ok duration

def parsePositiveDurationSeconds : String → String → Except ConfigError ℕ :=
  parsePositiveDuration "expected at least 1 second"

def parsePositiveDurationMillis : String → String → Except ConfigError ℕ :=
  parsePositiveDuration "expected at least 1 millisecond"

/-- A positive `u32` under its own variable; a zero is quoted as a plain one. -/
def parsePositiveU32 (variableName value expected : String) : Except ConfigError ℕ :=
  match parseUnsigned (2 ^ 32 - 1) value with
  | none => .error (.invalidValue variableName value "expected a positive integer")
  | some n => if n = 0 then .error (.invalidValue variableName "0" expected) else .ok n

def parseHttpRetryConfig (lookup : Lookup) : Except ConfigError RetryConfig := do
  let maxAttempts ← parsePositiveU32 "HTTP_RETRY_MAX_ATTEMPTS"
    (optionalOrDefault lookup "HTTP_RETRY_MAX_ATTEMPTS" "3") "expected at least 1 attempt"
  let baseDelay ← parsePositiveDurationMillis "HTTP_RETRY_BASE_DELAY_MS"
    (optionalOrDefault lookup "HTTP_RETRY_BASE_DELAY_MS" "250")
  let maxDelay ← parsePositiveDurationMillis "HTTP_RETRY_MAX_DELAY_MS"
    (optionalOrDefault lookup "HTTP_RETRY_MAX_DELAY_MS" "5000")
  if baseDelay > maxDelay then
    .error (.invalidValue "HTTP_RETRY_BASE_DELAY_MS" (toString baseDelay)
      "expected a value less than or equal to HTTP_RETRY_MAX_DELAY_MS")
  else .ok ⟨maxAttempts, baseDelay, maxDelay⟩

def parseDatabaseConfig (lookup : Lookup) : Except ConfigError (Option DatabaseConfig) :=
  match readOptional lookup "DATABASE_URL" with
  | none => .ok none
  | some databaseUrl => do
    let maxConnections ← parsePositiveU32 "DATABASE_MAX_CONNECTIONS"
      (optionalOrDefault lookup "DATABASE_MAX_CONNECTIONS" "5") "expected at least 1 connection"
    .ok (some ⟨databaseUrl, maxConnections⟩)

def parseIngestAdminConfig (library : ConfigLibrary) (lookup : Lookup) :
    Except ConfigError (Option IngestAdminConfig) :=
  match readOptional lookup "INGEST_SERVICE_BASE_URL" with
  | none => .ok none
  | some baseUrl =>
    match library.parseUrl baseUrl with
    | none => .error (.invalidValue "INGEST_SERVICE_BASE_URL" baseUrl
        "expected an absolute HTTP or HTTPS URL")
    | some url =>
      if url.scheme = "http" ∨ url.scheme = "https" then .ok (some ⟨baseUrl⟩)
      else .error (.invalidValue "INGEST_SERVICE_BASE_URL" baseUrl "expected an HTTP or HTTPS URL")

def isHeaderNameChar (c : Char) : Bool := c.isAlphanum || c ∈ "!#$%&'*+-.^_`|~".toList

/-- `HeaderName::from_bytes`, which turns capitals into small letters. -/
def headerNameFromBytes (text : String) : Option String :=
  if text ≠ "" ∧ text.toList.all isHeaderNameChar ∧ byteLength text ≤ 65535 then
    some (toAsciiLowercase text)
  else none

/-- What `validate_internal_service_auth_token` accepts. -/
def StrongToken (value : String) : Prop :=
  32 ≤ byteLength value ∧ value.toList.any isWhitespace = false

instance (value : String) : Decidable (StrongToken value) := inferInstanceAs (Decidable (_ ∧ _))

def validateInternalServiceAuthToken (value : String) : Except ConfigError Unit :=
  if StrongToken value then .ok ()
  else .error (.invalidSecretValue "INTERNAL_SERVICE_AUTH_TOKEN"
    "expected at least 32 non-whitespace characters")

def parseInternalServiceAuthConfig (lookup : Lookup) :
    Except ConfigError (Option InternalServiceAuthConfig) :=
  match readOptional lookup "INTERNAL_SERVICE_AUTH_TOKEN" with
  | none => .ok none
  | some token => do
    validateInternalServiceAuthToken token
    let headerName := optionalOrDefault lookup "INTERNAL_SERVICE_AUTH_HEADER"
      "x-lumenhorizon-internal-token"
    match headerNameFromBytes headerName with
    | none => .error (.invalidValue "INTERNAL_SERVICE_AUTH_HEADER" headerName
        "expected a valid HTTP header name")
    | some _ => .ok (some ⟨headerName, token⟩)

/-- The storage variables behind a service, and the ones that are missing once any is set. -/
def readStorage (lookup : Lookup) (own accountPurpose keyPurpose : String)
    (missing : List MissingVariable) :
    Option (String × String × Option String × Option String) × List MissingVariable :=
  let account := readOptional lookup "AZURE_STORAGE_ACCOUNT"
  let key := readOptional lookup "AZURE_STORAGE_ACCESS_KEY"
  let emulator := readOptional lookup "AZURE_STORAGE_EMULATOR_HOST"
  let setting := readOptional lookup own
  if ¬ (account.isSome || key.isSome || emulator.isSome || setting.isSome) then (none, missing)
  else
    (account.bind fun account => key.map fun key => (account, key, emulator, setting),
      missing ++ (if account.isNone then [⟨"AZURE_STORAGE_ACCOUNT", accountPurpose⟩] else []) ++
        (if key.isNone then [⟨"AZURE_STORAGE_ACCESS_KEY", keyPurpose⟩] else []))

def parseTileManifestStorage (lookup : Lookup) (missing : List MissingVariable) :
    Option TileManifestStorageConfig × List MissingVariable :=
  let storage := readStorage lookup "PROCESSED_TILES_CONTAINER"
    "storage account that contains processed tile manifests"
    "storage account key used to read processed tile manifests" missing
  (storage.1.map fun (account, key, emulator, container) =>
    ⟨account, key, emulator, container.getD "processed-tiles"⟩, storage.2)

def parseProcessingQueueConfig (lookup : Lookup) (missing : List MissingVariable) :
    Option ProcessingQueueConfig × List MissingVariable :=
  let storage := readStorage lookup "AZURE_QUEUE_NAME"
    "storage account that contains the processing queue"
    "storage account key used to write processing queue messages" missing
  (storage.1.map fun (account, key, emulator, queueName) =>
    ⟨account, key, emulator, queueName.getD "viirs-processing"⟩, storage.2)

def parseRateLimitBackend (value : String) : Except ConfigError RateLimitBackend :=
  if value = "memory" then .ok .memory
  else if value = "redis" then .ok .redis
  else .error (.invalidValue "RATE_LIMIT_BACKEND" value "expected one of: memory, redis")

def parseRuntimeEnvironment (value : String) : Except ConfigError RuntimeEnvironment :=
  if value = "local" then .ok .local
  else if value = "dev" then .ok .dev
  else if value = "staging" then .ok .staging
  else if value = "prod" then .ok .prod
  else .error (.invalidValue "RUNTIME_ENVIRONMENT" value
    "expected one of: local, dev, staging, prod")

def validateRustLog (library : ConfigLibrary) (value : String) : Except ConfigError Unit :=
  if library.isFilter value then .ok ()
  else .error (.invalidValue "RUST_LOG" value "expected a valid tracing filter")

/-- What `validate_tenant_id` accepts. -/
def ConcreteTenant (value : String) : Prop :=
  value ∉ ["common", "organizations", "consumers"] ∧ '/' ∉ value.toList ∧ isBlank value = false

instance (value : String) : Decidable (ConcreteTenant value) := inferInstanceAs (Decidable (_ ∧ _))

def validateTenantId (value : String) : Except ConfigError Unit :=
  if ConcreteTenant value then .ok ()
  else .error (.invalidValue "JWT_TENANT_ID" value
    "expected a concrete Microsoft Entra tenant id, not common, organizations, or consumers")

/-- What `validate_tenant_bound_url` accepts. -/
def TenantBound (value : String) : Prop :=
  ∀ shared ∈ ["/common/", "/organizations/", "/consumers/"],
    ¬ containsText (toAsciiLowercase value) shared

instance (value : String) : Decidable (TenantBound value) :=
  inferInstanceAs (Decidable (∀ shared ∈ _, _))

@[irreducible] def validateTenantBoundUrl (variableName value : String) : Except ConfigError Unit :=
  if TenantBound value then .ok ()
  else .error (.invalidValue variableName value
    "expected a tenant-specific Microsoft Entra URL for staging and prod")

/-- What `validate_redis_url` accepts. -/
def RedisUrl (library : ConfigLibrary) (value : String) : Prop :=
  ∃ url ∈ library.parseUrl value, (url.scheme = "redis" ∨ url.scheme = "rediss") ∧ url.host.isSome

instance (library : ConfigLibrary) (value : String) : Decidable (RedisUrl library value) :=
  inferInstanceAs (Decidable (∃ url ∈ library.parseUrl value, _))

def validateRedisUrl (library : ConfigLibrary) (value : String) : Except ConfigError Unit :=
  if RedisUrl library value then .ok ()
  else .error (.invalidSecretValue "REDIS_URL" "expected a redis:// or rediss:// URL with a host")

/-! ## The whole configuration -/

/-- `expect` on a value that the list of missing variables vouches for. -/
def expectPresent (value : Option String) : Except LoadFailure String :=
  match value with
  | some value => .ok value
  | none => .error (.panic "missing required config returned above")

def orFail {α : Type} (x : Except ConfigError α) : Except LoadFailure α := x.mapError .error

def checkIfSet (check : String → Except ConfigError Unit) :
    Option String → Except ConfigError Unit
  | none => .ok ()
  | some value => check value

/-- The variables that are required because of others. -/
def missingForProfile (runtimeEnvironment : RuntimeEnvironment) (backend : RateLimitBackend)
    (redisUrl tenantId : Option String) (ingestAdmin : Option IngestAdminConfig)
    (internalServiceAuth : Option InternalServiceAuthConfig) : List MissingVariable :=
  (if backend = .redis ∧ redisUrl.isNone then
    [⟨"REDIS_URL", "Redis-compatible distributed rate-limit store URL required when " ++
      "RATE_LIMIT_BACKEND=redis"⟩]
  else if runtimeEnvironment.requiresDistributedRateLimit ∧ backend ≠ .redis then
    [⟨"REDIS_URL", "Redis-compatible distributed rate-limit store required outside " ++
      "local/dev profile"⟩]
  else []) ++
  (if runtimeEnvironment.requiresTenantBoundAuth ∧ tenantId.isNone then
    [⟨"JWT_TENANT_ID", "Microsoft Entra tenant id required outside local/dev profile"⟩]
  else []) ++
  (if runtimeEnvironment.requiresTenantBoundAuth ∧ ingestAdmin.isSome ∧
      internalServiceAuth.isNone then
    [⟨"INTERNAL_SERVICE_AUTH_TOKEN", "service-to-service token required for api-gateway admin " ++
      "calls to internal services outside local/dev profile"⟩]
  else [])

def checkTenantBoundUrls (runtimeEnvironment : RuntimeEnvironment)
    (jwtIssuer jwksUrl : Option String) : Except LoadFailure Unit :=
  if runtimeEnvironment.requiresTenantBoundAuth then do
    let issuer ← expectPresent jwtIssuer
    orFail (validateTenantBoundUrl "JWT_ISSUER" issuer)
    let jwks ← expectPresent jwksUrl
    orFail (validateTenantBoundUrl "JWKS_URL" jwks)
  else .ok ()

/-- A positive number of seconds under its variable. -/
def secondsOrDefault (lookup : Lookup) (name default : String) : Except LoadFailure ℕ :=
  orFail (parsePositiveDurationSeconds name (optionalOrDefault lookup name default))

/-- The fields of `auth`. -/
def loadAuth (lookup : Lookup) (jwtIssuer jwtAudience jwksUrl tenantId : Option String) :
    Except LoadFailure AuthConfig := do
  let issuer ← expectPresent jwtIssuer
  let audience ← expectPresent jwtAudience
  let jwks ← expectPresent jwksUrl
  let jwksCacheTtl ← secondsOrDefault lookup "JWKS_CACHE_TTL_SECONDS" "300"
  let jwtClockSkew ← secondsOrDefault lookup "JWT_CLOCK_SKEW_SECONDS" "60"
  let maxAdminTokenLifetime ← secondsOrDefault lookup "JWT_MAX_ADMIN_TOKEN_LIFETIME_SECONDS" "3600"
  .ok {
    issuer := issuer
    audience := audience
    jwksUrl := jwks
    tenantId := tenantId
    adminRoleClaim := optionalOrDefault lookup "ADMIN_ROLE_CLAIM" "roles"
    adminRequiredRole := optionalOrDefault lookup "ADMIN_REQUIRED_ROLE" "lumenhorizon.admin"
    jwksCacheTtl := jwksCacheTtl
    jwtClockSkew := jwtClockSkew
    maxAdminTokenLifetime := maxAdminTokenLifetime }

/-- What has been read when the missing variables are reported. -/
structure Gathered where
  jwtIssuer : Option String
  jwtAudience : Option String
  jwksUrl : Option String
  backend : RateLimitBackend
  runtimeEnvironment : RuntimeEnvironment
  database : Option DatabaseConfig
  tileManifestStorage : Option TileManifestStorageConfig
  ingestAdmin : Option IngestAdminConfig
  internalServiceAuth : Option InternalServiceAuthConfig
  processingQueue : Option ProcessingQueueConfig
  redisUrl : Option String
  tenantId : Option String
  missing : List MissingVariable
deriving DecidableEq, Repr

/-- `from_lookup` up to the report of the missing variables. -/
def gather (library : ConfigLibrary) (lookup : Lookup) : Except LoadFailure Gathered := do
  let jwtIssuer := readRequired lookup "JWT_ISSUER"
    "admin JWT issuer for Microsoft Entra ID tokens" []
  let jwtAudience := readRequired lookup "JWT_AUDIENCE"
    "admin JWT audience accepted by api-gateway" jwtIssuer.2
  let jwksUrl := readRequired lookup "JWKS_URL"
    "JWKS endpoint used to validate Entra ID token signatures" jwtAudience.2
  let backend ← orFail
    (parseRateLimitBackend (optionalOrDefault lookup "RATE_LIMIT_BACKEND" "memory"))
  let runtimeEnvironment ← orFail
    (parseRuntimeEnvironment (optionalOrDefault lookup "RUNTIME_ENVIRONMENT" "local"))
  let database ← orFail (parseDatabaseConfig lookup)
  let tileManifestStorage := parseTileManifestStorage lookup jwksUrl.2
  let ingestAdmin ← orFail (parseIngestAdminConfig library lookup)
  let internalServiceAuth ← orFail (parseInternalServiceAuthConfig lookup)
  let processingQueue := parseProcessingQueueConfig lookup tileManifestStorage.2
  let redisUrl := readOptional lookup "REDIS_URL"
  let tenantId := readOptional lookup "JWT_TENANT_ID"
  .ok {
    jwtIssuer := jwtIssuer.1
    jwtAudience := jwtAudience.1
    jwksUrl := jwksUrl.1
    backend := backend
    runtimeEnvironment := runtimeEnvironment
    database := database
    tileManifestStorage := tileManifestStorage.1
    ingestAdmin := ingestAdmin
    internalServiceAuth := internalServiceAuth
    processingQueue := processingQueue.1
    redisUrl := redisUrl
    tenantId := tenantId
    missing := processingQueue.2 ++ missingForProfile runtimeEnvironment backend redisUrl tenantId
      ingestAdmin internalServiceAuth }

/-- `from_lookup` once nothing is missing. -/
def finish (library : ConfigLibrary) (lookup : Lookup) (gathered : Gathered) :
    Except LoadFailure LoadedConfig := do
  orFail (checkIfSet validateTenantId gathered.tenantId)
  orFail (checkIfSet (validateRedisUrl library) gathered.redisUrl)
  checkTenantBoundUrls gathered.runtimeEnvironment gathered.jwtIssuer gathered.jwksUrl
  let port ← orFail (parsePort (optionalOrDefault lookup "PORT" "8080"))
  let rustLog := optionalOrDefault lookup "RUST_LOG" defaultRustLog
  orFail (validateRustLog library rustLog)
  let auth ← loadAuth lookup gathered.jwtIssuer gathered.jwtAudience gathered.jwksUrl
    gathered.tenantId
  let httpRetry ← orFail (parseHttpRetryConfig lookup)
  let maxUrlLengthBytes ← orFail (parseUsize "MAX_URL_LENGTH_BYTES"
    (optionalOrDefault lookup "MAX_URL_LENGTH_BYTES" "8192"))
  let adminMaxBodyBytes ← orFail (parseU64 "ADMIN_MAX_BODY_BYTES"
    (optionalOrDefault lookup "ADMIN_MAX_BODY_BYTES" "65536"))
  let publicTimeout ← secondsOrDefault lookup "PUBLIC_ROUTE_TIMEOUT_SECONDS" "5"
  let adminTimeout ← secondsOrDefault lookup "ADMIN_ROUTE_TIMEOUT_SECONDS" "15"
  let healthTimeout ← secondsOrDefault lookup "HEALTH_ROUTE_TIMEOUT_SECONDS" "2"
  .ok {
    auth := auth
    maxUrlLengthBytes := maxUrlLengthBytes
    adminMaxBodyBytes := adminMaxBodyBytes
    tileLatestCacheControl := optionalOrDefault lookup "TILE_LATEST_CACHE_CONTROL"
      "public, max-age=300, must-revalidate"
    port := port
    rustLog := rustLog
    runtimeEnvironment := gathered.runtimeEnvironment
    rateLimit := ⟨gathered.backend, gathered.redisUrl,
      gathered.runtimeEnvironment.requiresDistributedRateLimit⟩
    database := gathered.database
    tileManifestStorage := gathered.tileManifestStorage
    ingestAdmin := gathered.ingestAdmin
    internalServiceAuth := gathered.internalServiceAuth
    processingQueue := gathered.processingQueue
    httpRetry := httpRetry
    publicTimeout := publicTimeout
    adminTimeout := adminTimeout
    healthTimeout := healthTimeout }

def fromLookup (library : ConfigLibrary) (lookup : Lookup) : Except LoadFailure LoadedConfig := do
  let gathered ← gather library lookup
  if gathered.missing ≠ [] then .error (.error (.missingRequired gathered.missing))
  else finish library lookup gathered

end LumenHorizon.Gateway
