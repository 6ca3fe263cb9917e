import LumenHorizon.Gateway.Settings

/-! # Which environments the gateway starts in

A variable may be needed and not set, or set to something that is refused. The gateway starts if
there is neither, and else it says which one; what it starts with is what the handlers rely on.
-/

namespace LumenHorizon.Gateway
open Foundation Shared Processing

abbrev IsSet (lookup : Lookup) (name : String) : Prop := (readOptional lookup name).isSome

/-- The profiles other than the local ones. -/
def Hardened (lookup : Lookup) : Prop :=
  optionalOrDefault lookup "RUNTIME_ENVIRONMENT" "local" ∈ ["staging", "prod"]

def SelectsRedis (lookup : Lookup) : Prop :=
  optionalOrDefault lookup "RATE_LIMIT_BACKEND" "memory" = "redis"

/-- Any of these asks for the storage account and its key. -/
def storageNames : List String :=
  ["AZURE_STORAGE_ACCOUNT", "AZURE_STORAGE_ACCESS_KEY", "AZURE_STORAGE_EMULATOR_HOST",
    "PROCESSED_TILES_CONTAINER", "AZURE_QUEUE_NAME"]

inductive Needed (lookup : Lookup) : String → Prop
  | auth {name : String} (hname : name ∈ ["JWT_ISSUER", "JWT_AUDIENCE", "JWKS_URL"])
      (hunset : ¬ IsSet lookup name) : Needed lookup name
  | storage {name other : String}
      (hname : name ∈ ["AZURE_STORAGE_ACCOUNT", "AZURE_STORAGE_ACCESS_KEY"])
      (hunset : ¬ IsSet lookup name) (hother : other ∈ storageNames) (hset : IsSet lookup other) :
      Needed lookup name
  | redisUrl (hredis : SelectsRedis lookup) (hunset : ¬ IsSet lookup "REDIS_URL") :
      Needed lookup "REDIS_URL"
  | redisBackend (hprofile : Hardened lookup) (hmemory : ¬ SelectsRedis lookup) :
      Needed lookup "REDIS_URL"
  | tenant (hprofile : Hardened lookup) (hunset : ¬ IsSet lookup "JWT_TENANT_ID") :
      Needed lookup "JWT_TENANT_ID"
  | token (hprofile : Hardened lookup) (hingest : IsSet lookup "INGEST_SERVICE_BASE_URL")
      (hunset : ¬ IsSet lookup "INTERNAL_SERVICE_AUTH_TOKEN") :
      Needed lookup "INTERNAL_SERVICE_AUTH_TOKEN"

/-- The number that a variable stands for, which its default does when it is not set. -/
def readNumber (lookup : Lookup) (max : ℕ) (name default : String) : Option ℕ :=
  parseUnsigned max (optionalOrDefault lookup name default)

def ReadsPositive (lookup : Lookup) (max : ℕ) (name default : String) : Prop :=
  ∃ n, readNumber lookup max name default = some n ∧ 1 ≤ n

def positiveNumbers : List (String × ℕ × String) :=
  [("PORT", 2 ^ 16 - 1, "8080"), ("HTTP_RETRY_MAX_ATTEMPTS", 2 ^ 32 - 1, "3"),
    ("HTTP_RETRY_BASE_DELAY_MS", 2 ^ 64 - 1, "250"),
    ("HTTP_RETRY_MAX_DELAY_MS", 2 ^ 64 - 1, "5000"),
    ("JWKS_CACHE_TTL_SECONDS", 2 ^ 64 - 1, "300"), ("JWT_CLOCK_SKEW_SECONDS", 2 ^ 64 - 1, "60"),
    ("JWT_MAX_ADMIN_TOKEN_LIFETIME_SECONDS", 2 ^ 64 - 1, "3600"),
    ("PUBLIC_ROUTE_TIMEOUT_SECONDS", 2 ^ 64 - 1, "5"),
    ("ADMIN_ROUTE_TIMEOUT_SECONDS", 2 ^ 64 - 1, "15"),
    ("HEALTH_ROUTE_TIMEOUT_SECONDS", 2 ^ 64 - 1, "2")]

def sizes : List (String × String) :=
  [("MAX_URL_LENGTH_BYTES", "8192"), ("ADMIN_MAX_BODY_BYTES", "65536")]

def HttpUrl (library : ConfigLibrary) (value : String) : Prop :=
  ∃ url, library.parseUrl value = some url ∧ (url.scheme = "http" ∨ url.scheme = "https")

inductive Refused (library : ConfigLibrary) (lookup : Lookup) : String → Prop
  | backend (h : optionalOrDefault lookup "RATE_LIMIT_BACKEND" "memory" ∉ ["memory", "redis"]) :
      Refused library lookup "RATE_LIMIT_BACKEND"
  | environment (h : optionalOrDefault lookup "RUNTIME_ENVIRONMENT" "local" ∉
      ["local", "dev", "staging", "prod"]) : Refused library lookup "RUNTIME_ENVIRONMENT"
  | connections (hset : IsSet lookup "DATABASE_URL")
      (h : ¬ ReadsPositive lookup (2 ^ 32 - 1) "DATABASE_MAX_CONNECTIONS" "5") :
      Refused library lookup "DATABASE_MAX_CONNECTIONS"
  | ingest {baseUrl : String} (hset : readOptional lookup "INGEST_SERVICE_BASE_URL" = some baseUrl)
      (h : ¬ HttpUrl library baseUrl) : Refused library lookup "INGEST_SERVICE_BASE_URL"
  | token {value : String} (hset : readOptional lookup "INTERNAL_SERVICE_AUTH_TOKEN" = some value)
      (h : ¬ StrongToken value) : Refused library lookup "INTERNAL_SERVICE_AUTH_TOKEN"
  | header (hset : IsSet lookup "INTERNAL_SERVICE_AUTH_TOKEN")
      (h : headerNameFromBytes (optionalOrDefault lookup "INTERNAL_SERVICE_AUTH_HEADER"
        "x-lumenhorizon-internal-token") = none) :
      Refused library lookup "INTERNAL_SERVICE_AUTH_HEADER"
  | tenant {value : String} (hset : readOptional lookup "JWT_TENANT_ID" = some value)
      (h : ¬ ConcreteTenant value) : Refused library lookup "JWT_TENANT_ID"
  | redisUrl {value : String} (hset : readOptional lookup "REDIS_URL" = some value)
      (h : ¬ RedisUrl library value) : Refused library lookup "REDIS_URL"
  | shared {name value : String} (hprofile : Hardened lookup)
      (hname : name ∈ ["JWT_ISSUER", "JWKS_URL"]) (hset : readOptional lookup name = some value)
      (h : ¬ TenantBound value) : Refused library lookup name
  | filter (h : library.isFilter (optionalOrDefault lookup "RUST_LOG" defaultRustLog) = false) :
      Refused library lookup "RUST_LOG"
  | number {name default : String} {max : ℕ} (hname : (name, max, default) ∈ positiveNumbers)
      (h : ¬ ReadsPositive lookup max name default) : Refused library lookup name
  | size {name default : String} (hname : (name, default) ∈ sizes)
      (h : readNumber lookup (2 ^ 64 - 1) name default = none) : Refused library lookup name
  | delays {base max : ℕ}
      (hbase : readNumber lookup (2 ^ 64 - 1) "HTTP_RETRY_BASE_DELAY_MS" "250" = some base)
      (hmax : readNumber lookup (2 ^ 64 - 1) "HTTP_RETRY_MAX_DELAY_MS" "5000" = some max)
      (h : max < base) : Refused library lookup "HTTP_RETRY_BASE_DELAY_MS"

/-- The variables whose values no error quotes. -/
def quietNames : List String := ["INTERNAL_SERVICE_AUTH_TOKEN", "REDIS_URL"]

def Explained (library : ConfigLibrary) (lookup : Lookup) : LoadFailure → Prop
  | .panic _ => False
  | .error (.missingRequired missing) =>
    missing ≠ [] ∧ ∀ name, name ∈ missing.map MissingVariable.name ↔ Needed lookup name
  | .error (.invalidValue name _ _) => name ∉ quietNames ∧ Refused library lookup name
  | .error (.invalidSecretValue name _) => name ∈ quietNames ∧ Refused library lookup name

/-- What the gateway relies on in its configuration. -/
structure WellFormed (library : ConfigLibrary) (config : LoadedConfig) : Prop where
  port : 1 ≤ config.port ∧ config.port < 2 ^ 16
  named : ∀ text ∈ [config.auth.issuer, config.auth.audience, config.auth.jwksUrl],
    isBlank text = false
  positive : ∀ seconds ∈ [config.auth.jwksCacheTtl, config.auth.jwtClockSkew,
    config.auth.maxAdminTokenLifetime, config.publicTimeout, config.adminTimeout,
    config.healthTimeout], 1 ≤ seconds
  attempts : 1 ≤ config.httpRetry.maxAttempts
  delays : 1 ≤ config.httpRetry.baseDelay ∧ config.httpRetry.baseDelay ≤ config.httpRetry.maxDelay
  connections : ∀ database ∈ config.database, 1 ≤ database.maxConnections
  rustLog : library.isFilter config.rustLog = true
  redisUrl : config.rateLimit.backend = .redis → config.rateLimit.redisUrl.isSome
  validRedisUrl : ∀ url ∈ config.rateLimit.redisUrl, RedisUrl library url
  distributed : config.rateLimit.distributedRequired = true → config.rateLimit.backend = .redis
  tenant : ∀ tenant ∈ config.auth.tenantId, ConcreteTenant tenant
  ingest : ∀ ingestAdmin ∈ config.ingestAdmin, HttpUrl library ingestAdmin.baseUrl
  internal : ∀ auth ∈ config.internalServiceAuth,
    StrongToken auth.token ∧ (headerNameFromBytes auth.headerName).isSome
  storage : config.tileManifestStorage.map (fun storage =>
      (storage.azureStorageAccount, storage.azureStorageAccessKey,
        storage.azureStorageEmulatorHost)) =
    config.processingQueue.map fun queue =>
      (queue.azureStorageAccount, queue.azureStorageAccessKey, queue.azureStorageEmulatorHost)
  hardened : config.runtimeEnvironment.requiresTenantBoundAuth = true →
    config.rateLimit.distributedRequired = true ∧ config.auth.tenantId.isSome ∧
      TenantBound config.auth.issuer ∧ TenantBound config.auth.jwksUrl ∧
      (config.ingestAdmin.isSome → config.internalServiceAuth.isSome)

variable {library : ConfigLibrary} {lookup : Lookup}

/-! ## What each part comes to -/

theorem readRequired_eq (name purpose : String) (missing : List MissingVariable) :
    readRequired lookup name purpose missing = (readOptional lookup name,
      missing ++ if ¬ IsSet lookup name then [⟨name, purpose⟩] else []) := by
  unfold readRequired IsSet
  cases readOptional lookup name <;> simp

theorem not_isBlank_of_readOptional {name value : String}
    (h : readOptional lookup name = some value) : isBlank value = false := by
  have := (Option.filter_eq_some_iff.mp h).2
  simpa using this

theorem comesTo_orFail {α : Type} {post : α → Prop} {fails : LoadFailure → Prop}
    {x : Except ConfigError α} (h : ComesTo post (fun e => fails (.error e)) x) :
    ComesTo post fails (orFail x) := h.mapError

section Numbers

variable {name default : String} {max n : ℕ}

theorem notQuiet_of_mem_positiveNumbers (h : (name, max, default) ∈ positiveNumbers) :
    name ∉ quietNames := by
  have hall : ∀ number ∈ positiveNumbers, number.1 ∉ quietNames := by decide
  exact hall _ h

theorem explained_number {value expected : String} (h : (name, max, default) ∈ positiveNumbers)
    (hrefused : ¬ ReadsPositive lookup max name default) :
    Explained library lookup (.error (.invalidValue name value expected)) :=
  ⟨notQuiet_of_mem_positiveNumbers h, .number h hrefused⟩

theorem not_readsPositive_of_none (h : readNumber lookup max name default = none) :
    ¬ ReadsPositive lookup max name default := by
  rintro ⟨n, hn, -⟩
  simp [h] at hn

theorem not_readsPositive_of_zero (h : readNumber lookup max name default = some 0) :
    ¬ ReadsPositive lookup max name default := by
  rintro ⟨n, hn, hpos⟩
  rw [h, Option.some_inj] at hn
  omega

theorem parsePositiveDuration_comesTo {expected : String}
    (h : (name, 2 ^ 64 - 1, default) ∈ positiveNumbers) :
    ComesTo (fun n => readNumber lookup (2 ^ 64 - 1) name default = some n ∧ 1 ≤ n)
      (fun e => Explained library lookup (.error e))
      (parsePositiveDuration expected name (optionalOrDefault lookup name default)) := by
  unfold parsePositiveDuration parseU64
  cases hread : parseUnsigned (2 ^ 64 - 1) (optionalOrDefault lookup name default) with
  | none => exact comesTo_error.mpr (explained_number h (not_readsPositive_of_none hread))
  | some n =>
    rcases Nat.eq_zero_or_pos n with rfl | hpos
    · exact comesTo_error.mpr (explained_number h (not_readsPositive_of_zero hread))
    · simpa [Bind.bind, Except.bind, Nat.pos_iff_ne_zero.mp hpos] using ⟨hread, hpos⟩

theorem secondsOrDefault_comesTo (h : (name, 2 ^ 64 - 1, default) ∈ positiveNumbers) :
    ComesTo (fun n => readNumber lookup (2 ^ 64 - 1) name default = some n ∧ 1 ≤ n)
      (Explained library lookup) (secondsOrDefault lookup name default) :=
  comesTo_orFail (parsePositiveDuration_comesTo h)

theorem parsePositiveU32_comesTo {expected : String} {fails : ConfigError → Prop}
    (h : ¬ ReadsPositive lookup (2 ^ 32 - 1) name default →
      ∀ value expected, fails (.invalidValue name value expected)) :
    ComesTo (fun n => readNumber lookup (2 ^ 32 - 1) name default = some n ∧ 1 ≤ n) fails
      (parsePositiveU32 name (optionalOrDefault lookup name default) expected) := by
  unfold parsePositiveU32
  cases hread : parseUnsigned (2 ^ 32 - 1) (optionalOrDefault lookup name default) with
  | none => exact h (not_readsPositive_of_none hread) _ _
  | some n =>
    rcases Nat.eq_zero_or_pos n with rfl | hpos
    · exact h (not_readsPositive_of_zero hread) _ _
    · simpa [Nat.pos_iff_ne_zero.mp hpos] using ⟨hread, hpos⟩

theorem explained_size {value expected : String} (h : (name, default) ∈ sizes)
    (hnone : readNumber lookup (2 ^ 64 - 1) name default = none) :
    Explained library lookup (.error (.invalidValue name value expected)) := by
  have hall : ∀ size ∈ sizes, size.1 ∉ quietNames := by decide
  exact ⟨hall _ h, .size h hnone⟩

theorem parsePort_comesTo :
    ComesTo (fun n => readNumber lookup (2 ^ 16 - 1) "PORT" "8080" = some n ∧ 1 ≤ n)
      (fun e => Explained library lookup (.error e))
      (parsePort (optionalOrDefault lookup "PORT" "8080")) := by
  have hmem : ("PORT", 2 ^ 16 - 1, "8080") ∈ positiveNumbers := by decide
  unfold parsePort
  cases hread : parseUnsigned (2 ^ 16 - 1) (optionalOrDefault lookup "PORT" "8080") with
  | none => exact comesTo_error.mpr (explained_number hmem (not_readsPositive_of_none hread))
  | some n =>
    rcases Nat.eq_zero_or_pos n with rfl | hpos
    · exact comesTo_error.mpr (explained_number hmem (not_readsPositive_of_zero hread))
    · simpa [Nat.pos_iff_ne_zero.mp hpos] using ⟨hread, hpos⟩

end Numbers

theorem parseHttpRetryConfig_comesTo :
    ComesTo (fun retry : RetryConfig =>
        readNumber lookup (2 ^ 32 - 1) "HTTP_RETRY_MAX_ATTEMPTS" "3" = some retry.maxAttempts ∧
        readNumber lookup (2 ^ 64 - 1) "HTTP_RETRY_BASE_DELAY_MS" "250" = some retry.baseDelay ∧
        readNumber lookup (2 ^ 64 - 1) "HTTP_RETRY_MAX_DELAY_MS" "5000" = some retry.maxDelay ∧
        1 ≤ retry.maxAttempts ∧ 1 ≤ retry.baseDelay ∧ retry.baseDelay ≤ retry.maxDelay)
      (fun e => Explained library lookup (.error e)) (parseHttpRetryConfig lookup) := by
  unfold parseHttpRetryConfig
  refine (parsePositiveU32_comesTo fun hrefused _ _ =>
    explained_number (by decide) hrefused).bind fun attempts hattempts => ?_
  refine (parsePositiveDuration_comesTo (by decide)).bind fun base hbase => ?_
  refine (parsePositiveDuration_comesTo (by decide)).bind fun max hmax => ?_
  split_ifs with hlt
  · exact ⟨by decide, .delays hbase.1 hmax.1 hlt⟩
  · exact ⟨hattempts.1, hbase.1, hmax.1, hattempts.2, hbase.2, not_lt.mp hlt⟩

theorem parseDatabaseConfig_comesTo :
    ComesTo (fun database : Option DatabaseConfig => (∀ d ∈ database, 1 ≤ d.maxConnections) ∧
        (IsSet lookup "DATABASE_URL" →
          ReadsPositive lookup (2 ^ 32 - 1) "DATABASE_MAX_CONNECTIONS" "5"))
      (fun e => Explained library lookup (.error e)) (parseDatabaseConfig lookup) := by
  unfold parseDatabaseConfig
  cases hset : readOptional lookup "DATABASE_URL" with
  | none => simp [IsSet, hset]
  | some databaseUrl =>
    have hisSet : IsSet lookup "DATABASE_URL" := by simp [IsSet, hset]
    refine (parsePositiveU32_comesTo fun hrefused _ _ =>
      ⟨by decide, .connections hisSet hrefused⟩).bind fun connections hconnections => ?_
    exact ⟨by simpa using hconnections.2, fun _ => ⟨connections, hconnections⟩⟩

theorem parseIngestAdminConfig_comesTo :
    ComesTo (fun ingestAdmin : Option IngestAdminConfig =>
        ingestAdmin.map IngestAdminConfig.baseUrl = readOptional lookup "INGEST_SERVICE_BASE_URL" ∧
        ∀ i ∈ ingestAdmin, HttpUrl library i.baseUrl)
      (fun e => Explained library lookup (.error e)) (parseIngestAdminConfig library lookup) := by
  unfold parseIngestAdminConfig
  cases hset : readOptional lookup "INGEST_SERVICE_BASE_URL" with
  | none => simp
  | some baseUrl =>
    cases hparse : library.parseUrl baseUrl with
    | none =>
      have hrefused : ¬ HttpUrl library baseUrl := by simp [HttpUrl, hparse]
      simp only [hparse, comesTo_error]
      exact ⟨by decide, .ingest hset hrefused⟩
    | some url =>
      by_cases hscheme : url.scheme = "http" ∨ url.scheme = "https"
      · simpa [hparse, hscheme] using ⟨url, hparse, hscheme⟩
      · have hrefused : ¬ HttpUrl library baseUrl := by
          rintro ⟨url', hurl', hscheme'⟩
          cases hparse.symm.trans hurl'
          exact hscheme hscheme'
        simp only [hparse, hscheme, if_false, comesTo_error]
        exact ⟨by decide, .ingest hset hrefused⟩

theorem parseInternalServiceAuthConfig_comesTo :
    ComesTo (fun auth : Option InternalServiceAuthConfig =>
        auth.map InternalServiceAuthConfig.token =
          readOptional lookup "INTERNAL_SERVICE_AUTH_TOKEN" ∧
        ∀ a ∈ auth, StrongToken a.token ∧ (headerNameFromBytes a.headerName).isSome ∧
          a.headerName = optionalOrDefault lookup "INTERNAL_SERVICE_AUTH_HEADER"
            "x-lumenhorizon-internal-token")
      (fun e => Explained library lookup (.error e)) (parseInternalServiceAuthConfig lookup) := by
  unfold parseInternalServiceAuthConfig validateInternalServiceAuthToken
  cases hset : readOptional lookup "INTERNAL_SERVICE_AUTH_TOKEN" with
  | none => simp
  | some token =>
    have hisSet : IsSet lookup "INTERNAL_SERVICE_AUTH_TOKEN" := by simp [IsSet, hset]
    by_cases hstrong : StrongToken token
    · simp only [hstrong, if_true, Bind.bind, Except.bind]
      cases hheader : headerNameFromBytes (optionalOrDefault lookup "INTERNAL_SERVICE_AUTH_HEADER"
        "x-lumenhorizon-internal-token") with
      | none => exact ⟨by decide, .header hisSet hheader⟩
      | some _ => simp [hstrong, hheader]
    · simpa [hstrong, Bind.bind, Except.bind] using ⟨by decide, Refused.token hset hstrong⟩

/-! ## What has been read when the missing variables are reported -/

theorem parseRateLimitBackend_comesTo :
    ComesTo (fun backend => (backend = .redis ↔ SelectsRedis lookup) ∧
        optionalOrDefault lookup "RATE_LIMIT_BACKEND" "memory" ∈ ["memory", "redis"])
      (fun e => Explained library lookup (.error e))
      (parseRateLimitBackend (optionalOrDefault lookup "RATE_LIMIT_BACKEND" "memory")) := by
  unfold parseRateLimitBackend SelectsRedis
  split_ifs with hmemory hredis
  · simp [hmemory]
  · simp [hredis]
  · exact ⟨by decide, .backend (by simp [hmemory, hredis])⟩

theorem parseRuntimeEnvironment_comesTo :
    ComesTo (fun environment =>
        (environment.requiresTenantBoundAuth = true ↔ Hardened lookup) ∧
        optionalOrDefault lookup "RUNTIME_ENVIRONMENT" "local" ∈
          ["local", "dev", "staging", "prod"])
      (fun e => Explained library lookup (.error e))
      (parseRuntimeEnvironment (optionalOrDefault lookup "RUNTIME_ENVIRONMENT" "local")) := by
  unfold parseRuntimeEnvironment Hardened
  split_ifs with hlocal hdev hstaging hprod
  · simp [hlocal, RuntimeEnvironment.requiresTenantBoundAuth]
  · simp [hdev, RuntimeEnvironment.requiresTenantBoundAuth]
  · simp [hstaging, RuntimeEnvironment.requiresTenantBoundAuth]
  · simp [hprod, RuntimeEnvironment.requiresTenantBoundAuth]
  · exact ⟨by decide, .environment (by simp [hlocal, hdev, hstaging, hprod])⟩

theorem RuntimeEnvironment.requiresDistributedRateLimit_eq (environment : RuntimeEnvironment) :
    environment.requiresDistributedRateLimit = environment.requiresTenantBoundAuth := by
  cases environment <;> rfl

section Storage

variable {own accountPurpose keyPurpose : String} {missing : List MissingVariable}

def AsksForStorage (lookup : Lookup) (own : String) : Prop :=
  IsSet lookup "AZURE_STORAGE_ACCOUNT" ∨ IsSet lookup "AZURE_STORAGE_ACCESS_KEY" ∨
    IsSet lookup "AZURE_STORAGE_EMULATOR_HOST" ∨ IsSet lookup own

theorem mem_readStorage_missing {name : String} :
    name ∈ (readStorage lookup own accountPurpose keyPurpose missing).2.map MissingVariable.name ↔
      name ∈ missing.map MissingVariable.name ∨ AsksForStorage lookup own ∧
        name ∈ ["AZURE_STORAGE_ACCOUNT", "AZURE_STORAGE_ACCESS_KEY"] ∧ ¬ IsSet lookup name := by
  unfold readStorage
  by_cases hasks : AsksForStorage lookup own
  · have hany := hasks
    simp only [AsksForStorage, IsSet] at hany
    cases haccount : readOptional lookup "AZURE_STORAGE_ACCOUNT" <;>
      cases hkey : readOptional lookup "AZURE_STORAGE_ACCESS_KEY" <;>
      simp_all [IsSet] <;> grind
  · have hnone := hasks
    simp only [AsksForStorage, IsSet, not_or] at hnone
    simp [hasks, hnone]

theorem readStorage_of_isSet {account key : String}
    (haccount : readOptional lookup "AZURE_STORAGE_ACCOUNT" = some account)
    (hkey : readOptional lookup "AZURE_STORAGE_ACCESS_KEY" = some key) :
    (readStorage lookup own accountPurpose keyPurpose missing).1 =
      some (account, key, readOptional lookup "AZURE_STORAGE_EMULATOR_HOST",
        readOptional lookup own) := by
  simp [readStorage, haccount, hkey]

theorem readStorage_of_not_asks (h : ¬ AsksForStorage lookup own) :
    (readStorage lookup own accountPurpose keyPurpose missing).1 = none := by
  simp only [AsksForStorage, IsSet, not_or] at h
  simp [readStorage, h]

end Storage

@[simp] theorem mem_map_ite {p : Prop} [Decidable p] {name entry purpose : String}
    {rest : List MissingVariable} :
    name ∈ (if p then [⟨entry, purpose⟩] else rest).map MissingVariable.name ↔
      p ∧ name = entry ∨ ¬ p ∧ name ∈ rest.map MissingVariable.name := by
  split_ifs with h <;> simp [h]

theorem mem_missingForProfile {environment : RuntimeEnvironment} {backend : RateLimitBackend}
    {ingestAdmin : Option IngestAdminConfig} {auth : Option InternalServiceAuthConfig}
    (hbackend : backend = .redis ↔ SelectsRedis lookup)
    (hprofile : environment.requiresTenantBoundAuth = true ↔ Hardened lookup)
    (hingest : ingestAdmin.map IngestAdminConfig.baseUrl =
      readOptional lookup "INGEST_SERVICE_BASE_URL")
    (hauth : auth.map InternalServiceAuthConfig.token =
      readOptional lookup "INTERNAL_SERVICE_AUTH_TOKEN") {name : String} :
    name ∈ (missingForProfile environment backend (readOptional lookup "REDIS_URL")
        (readOptional lookup "JWT_TENANT_ID") ingestAdmin auth).map MissingVariable.name ↔
      name = "REDIS_URL" ∧ (SelectsRedis lookup ∧ ¬ IsSet lookup "REDIS_URL" ∨
          Hardened lookup ∧ ¬ SelectsRedis lookup) ∨
      name = "JWT_TENANT_ID" ∧ Hardened lookup ∧ ¬ IsSet lookup "JWT_TENANT_ID" ∨
      name = "INTERNAL_SERVICE_AUTH_TOKEN" ∧ Hardened lookup ∧
        IsSet lookup "INGEST_SERVICE_BASE_URL" ∧
        ¬ IsSet lookup "INTERNAL_SERVICE_AUTH_TOKEN" := by
  have hingestSet : ingestAdmin.isSome ↔ IsSet lookup "INGEST_SERVICE_BASE_URL" := by
    simp [IsSet, ← hingest]
  have hauthSet : auth.isNone ↔ ¬ IsSet lookup "INTERNAL_SERVICE_AUTH_TOKEN" := by
    simp [IsSet, ← hauth]
  have hset : ∀ other, (readOptional lookup other).isNone ↔ ¬ IsSet lookup other := by
    simp [IsSet]
  simp only [missingForProfile, RuntimeEnvironment.requiresDistributedRateLimit_eq,
    List.map_append, List.mem_append, mem_map_ite, List.map_nil, List.not_mem_nil, and_false,
    or_false, ne_eq, hbackend, hprofile, hingestSet, hauthSet, hset]
  by_cases hredis : SelectsRedis lookup <;> by_cases hhard : Hardened lookup <;>
    simp only [hredis, hhard, true_and, false_and, and_true, and_false, or_true, false_or,
      or_false, not_true_eq_false, not_false_eq_true, and_comm, or_assoc]

theorem needed_iff {name : String} :
    Needed lookup name ↔
      name ∈ ["JWT_ISSUER", "JWT_AUDIENCE", "JWKS_URL"] ∧ ¬ IsSet lookup name ∨
      name ∈ ["AZURE_STORAGE_ACCOUNT", "AZURE_STORAGE_ACCESS_KEY"] ∧ ¬ IsSet lookup name ∧
        (AsksForStorage lookup "PROCESSED_TILES_CONTAINER" ∨
          AsksForStorage lookup "AZURE_QUEUE_NAME") ∨
      name = "REDIS_URL" ∧ (SelectsRedis lookup ∧ ¬ IsSet lookup "REDIS_URL" ∨
          Hardened lookup ∧ ¬ SelectsRedis lookup) ∨
      name = "JWT_TENANT_ID" ∧ Hardened lookup ∧ ¬ IsSet lookup "JWT_TENANT_ID" ∨
      name = "INTERNAL_SERVICE_AUTH_TOKEN" ∧ Hardened lookup ∧
        IsSet lookup "INGEST_SERVICE_BASE_URL" ∧
        ¬ IsSet lookup "INTERNAL_SERVICE_AUTH_TOKEN" := by
  have hasks : (AsksForStorage lookup "PROCESSED_TILES_CONTAINER" ∨
      AsksForStorage lookup "AZURE_QUEUE_NAME") ↔ ∃ other ∈ storageNames, IsSet lookup other := by
    simp only [AsksForStorage, storageNames, List.mem_cons, exists_eq_or_imp, List.not_mem_nil,
      or_false]
    grind
  rw [hasks]
  constructor
  · rintro (⟨hname, hunset⟩ | ⟨hname, hunset, hother, hset⟩ | ⟨hredis, hunset⟩ |
      ⟨hprofile, hmemory⟩ | ⟨hprofile, hunset⟩ | ⟨hprofile, hingest, hunset⟩)
    · exact .inl ⟨hname, hunset⟩
    · exact .inr (.inl ⟨hname, hunset, _, hother, hset⟩)
    · exact .inr (.inr (.inl ⟨rfl, .inl ⟨hredis, hunset⟩⟩))
    · exact .inr (.inr (.inl ⟨rfl, .inr ⟨hprofile, hmemory⟩⟩))
    · exact .inr (.inr (.inr (.inl ⟨rfl, hprofile, hunset⟩)))
    · exact .inr (.inr (.inr (.inr ⟨rfl, hprofile, hingest, hunset⟩)))
  · rintro (⟨hname, hunset⟩ | ⟨hname, hunset, other, hother, hset⟩ |
      ⟨rfl, ⟨hredis, hunset⟩ | ⟨hprofile, hmemory⟩⟩ | ⟨rfl, hprofile, hunset⟩ |
      ⟨rfl, hprofile, hingest, hunset⟩)
    · exact .auth hname hunset
    · exact .storage hname hunset hother hset
    · exact .redisUrl hredis hunset
    · exact .redisBackend hprofile hmemory
    · exact .tenant hprofile hunset
    · exact .token hprofile hingest hunset

structure Describes (library : ConfigLibrary) (lookup : Lookup) (gathered : Gathered) : Prop where
  issuer : gathered.jwtIssuer = readOptional lookup "JWT_ISSUER"
  audience : gathered.jwtAudience = readOptional lookup "JWT_AUDIENCE"
  jwksUrl : gathered.jwksUrl = readOptional lookup "JWKS_URL"
  redisUrl : gathered.redisUrl = readOptional lookup "REDIS_URL"
  tenantId : gathered.tenantId = readOptional lookup "JWT_TENANT_ID"
  redis : gathered.backend = .redis ↔ SelectsRedis lookup
  profile : gathered.runtimeEnvironment.requiresTenantBoundAuth = true ↔ Hardened lookup
  backend : optionalOrDefault lookup "RATE_LIMIT_BACKEND" "memory" ∈ ["memory", "redis"]
  environment : optionalOrDefault lookup "RUNTIME_ENVIRONMENT" "local" ∈
    ["local", "dev", "staging", "prod"]
  database : ∀ d ∈ gathered.database, 1 ≤ d.maxConnections
  connections : IsSet lookup "DATABASE_URL" →
    ReadsPositive lookup (2 ^ 32 - 1) "DATABASE_MAX_CONNECTIONS" "5"
  ingestSet : gathered.ingestAdmin.map IngestAdminConfig.baseUrl =
    readOptional lookup "INGEST_SERVICE_BASE_URL"
  ingest : ∀ i ∈ gathered.ingestAdmin, HttpUrl library i.baseUrl
  authSet : gathered.internalServiceAuth.map InternalServiceAuthConfig.token =
    readOptional lookup "INTERNAL_SERVICE_AUTH_TOKEN"
  auth : ∀ a ∈ gathered.internalServiceAuth, StrongToken a.token ∧
    (headerNameFromBytes a.headerName).isSome ∧
    a.headerName = optionalOrDefault lookup "INTERNAL_SERVICE_AUTH_HEADER"
      "x-lumenhorizon-internal-token"
  storage : (∀ name, ¬ Needed lookup name) →
    gathered.tileManifestStorage.map (fun storage => (storage.azureStorageAccount,
      storage.azureStorageAccessKey, storage.azureStorageEmulatorHost)) =
    gathered.processingQueue.map fun queue => (queue.azureStorageAccount,
      queue.azureStorageAccessKey, queue.azureStorageEmulatorHost)
  missing : ∀ name, name ∈ gathered.missing.map MissingVariable.name ↔ Needed lookup name

theorem storage_eq_of_complete {missing missing' : List MissingVariable}
    (h : ∀ name, ¬ Needed lookup name) :
    (parseTileManifestStorage lookup missing).1.map (fun storage => (storage.azureStorageAccount,
      storage.azureStorageAccessKey, storage.azureStorageEmulatorHost)) =
    (parseProcessingQueueConfig lookup missing').1.map fun queue => (queue.azureStorageAccount,
      queue.azureStorageAccessKey, queue.azureStorageEmulatorHost) := by
  have hneeds : ∀ name ∈ ["AZURE_STORAGE_ACCOUNT", "AZURE_STORAGE_ACCESS_KEY"],
      ∀ other ∈ storageNames, IsSet lookup other → IsSet lookup name := by
    intro name hname other hother hset
    by_contra hunset
    exact h name (.storage hname hunset hother hset)
  by_cases hany : ∃ other ∈ storageNames, IsSet lookup other
  · obtain ⟨other, hother, hset⟩ := hany
    obtain ⟨account, haccount⟩ := Option.isSome_iff_exists.mp
      (hneeds "AZURE_STORAGE_ACCOUNT" (by decide) other hother hset)
    obtain ⟨key, hkey⟩ := Option.isSome_iff_exists.mp
      (hneeds "AZURE_STORAGE_ACCESS_KEY" (by decide) other hother hset)
    simp [parseTileManifestStorage, parseProcessingQueueConfig,
      readStorage_of_isSet haccount hkey]
  · have hnone : ∀ own ∈ storageNames, ¬ AsksForStorage lookup own := by
      rintro own hown (hset | hset | hset | hset)
      · exact hany ⟨_, by decide, hset⟩
      · exact hany ⟨_, by decide, hset⟩
      · exact hany ⟨_, by decide, hset⟩
      · exact hany ⟨own, hown, hset⟩
    simp [parseTileManifestStorage, parseProcessingQueueConfig,
      readStorage_of_not_asks (hnone "PROCESSED_TILES_CONTAINER" (by decide)),
      readStorage_of_not_asks (hnone "AZURE_QUEUE_NAME" (by decide))]

theorem auth_unset_iff {name : String} :
    ((¬ IsSet lookup "JWT_ISSUER" ∧ name = "JWT_ISSUER" ∨
        ¬ IsSet lookup "JWT_AUDIENCE" ∧ name = "JWT_AUDIENCE") ∨
      ¬ IsSet lookup "JWKS_URL" ∧ name = "JWKS_URL") ↔
    name ∈ ["JWT_ISSUER", "JWT_AUDIENCE", "JWKS_URL"] ∧ ¬ IsSet lookup name := by
  simp only [List.mem_cons, List.not_mem_nil, or_false]
  constructor
  · rintro ((⟨hunset, rfl⟩ | ⟨hunset, rfl⟩) | ⟨hunset, rfl⟩)
    · exact ⟨.inl rfl, hunset⟩
    · exact ⟨.inr (.inl rfl), hunset⟩
    · exact ⟨.inr (.inr rfl), hunset⟩
  · rintro ⟨rfl | rfl | rfl, hunset⟩
    · exact .inl (.inl ⟨hunset, rfl⟩)
    · exact .inl (.inr ⟨hunset, rfl⟩)
    · exact .inr ⟨hunset, rfl⟩

theorem gather_comesTo :
    ComesTo (Describes library lookup) (Explained library lookup) (gather library lookup) := by
  unfold gather
  simp only [readRequired_eq]
  refine (comesTo_orFail parseRateLimitBackend_comesTo).bind fun backend hbackend => ?_
  refine (comesTo_orFail parseRuntimeEnvironment_comesTo).bind fun environment henvironment => ?_
  refine (comesTo_orFail parseDatabaseConfig_comesTo).bind fun database hdatabase => ?_
  refine (comesTo_orFail parseIngestAdminConfig_comesTo).bind fun ingestAdmin hingest => ?_
  refine (comesTo_orFail parseInternalServiceAuthConfig_comesTo).bind fun auth hauth => ?_
  exact {
    issuer := rfl
    audience := rfl
    jwksUrl := rfl
    redisUrl := rfl
    tenantId := rfl
    redis := hbackend.1
    profile := henvironment.1
    backend := hbackend.2
    environment := henvironment.2
    database := hdatabase.1
    connections := hdatabase.2
    ingestSet := hingest.1
    ingest := hingest.2
    authSet := hauth.1
    auth := hauth.2
    storage := storage_eq_of_complete
    missing := by
      intro name
      simp only [List.map_append, List.mem_append, parseProcessingQueueConfig,
        parseTileManifestStorage, mem_readStorage_missing,
        mem_missingForProfile hbackend.1 henvironment.1 hingest.1 hauth.1, needed_iff,
        mem_map_ite, List.map_nil, List.not_mem_nil, and_false, or_false, false_or]
      rw [or_assoc, or_assoc, auth_unset_iff]
      refine or_congr Iff.rfl (or_assoc.symm.trans (or_congr ?_ Iff.rfl))
      rw [← or_and_right, and_comm, and_assoc] }

/-! ## The rest of it, once nothing is missing -/

theorem checkIfSet_comesTo {check : String → Except ConfigError Unit} {valid : String → Prop}
    {fails : ConfigError → Prop} {setting : Option String}
    (h : ∀ value, setting = some value → ComesTo (fun _ => valid value) fails (check value)) :
    ComesTo (fun _ => ∀ value, setting = some value → valid value) fails
      (checkIfSet check setting) := by
  cases setting with
  | none => simp [checkIfSet]
  | some value =>
    refine (h value rfl).mono (fun _ hvalid other hother => ?_) fun _ => id
    rwa [← Option.some_inj.mp hother]

theorem validateTenantId_comesTo {value : String}
    (hset : readOptional lookup "JWT_TENANT_ID" = some value) :
    ComesTo (fun _ => ConcreteTenant value) (fun e => Explained library lookup (.error e))
      (validateTenantId value) := by
  unfold validateTenantId
  split_ifs with h
  · exact h
  · exact ⟨by decide, .tenant hset h⟩

theorem validateRedisUrl_comesTo {value : String}
    (hset : readOptional lookup "REDIS_URL" = some value) :
    ComesTo (fun _ => RedisUrl library value) (fun e => Explained library lookup (.error e))
      (validateRedisUrl library value) := by
  unfold validateRedisUrl
  split_ifs with h
  · exact h
  · exact ⟨by decide, .redisUrl hset h⟩

theorem validateTenantBoundUrl_comesTo {name value : String} (hprofile : Hardened lookup)
    (hname : name ∈ ["JWT_ISSUER", "JWKS_URL"]) (hset : readOptional lookup name = some value) :
    ComesTo (fun _ => TenantBound value) (fun e => Explained library lookup (.error e))
      (validateTenantBoundUrl name value) := by
  have hloud : ∀ name ∈ ["JWT_ISSUER", "JWKS_URL"], name ∉ quietNames := by decide
  unfold validateTenantBoundUrl
  split_ifs with h
  · exact h
  · exact ⟨hloud name hname, .shared hprofile hname hset h⟩

theorem checkTenantBoundUrls_comesTo {environment : RuntimeEnvironment} {issuer jwks : String}
    (hprofile : environment.requiresTenantBoundAuth = true ↔ Hardened lookup)
    (hissuer : readOptional lookup "JWT_ISSUER" = some issuer)
    (hjwks : readOptional lookup "JWKS_URL" = some jwks) :
    ComesTo (fun _ => Hardened lookup → TenantBound issuer ∧ TenantBound jwks)
      (Explained library lookup) (checkTenantBoundUrls environment (some issuer) (some jwks)) := by
  unfold checkTenantBoundUrls
  split_ifs with hhardened
  · rw [hprofile] at hhardened
    refine (comesTo_orFail (validateTenantBoundUrl_comesTo hhardened (by decide) hissuer)).bind
      fun _ hboundIssuer => ?_
    refine (comesTo_orFail (validateTenantBoundUrl_comesTo hhardened (by decide) hjwks)).mono
      (fun _ hboundJwks _ => ⟨hboundIssuer, hboundJwks⟩) fun _ => id
  · exact fun h => absurd (hprofile.mpr h) hhardened

theorem loadAuth_comesTo {issuer audience jwks : String} {tenantId : Option String} :
    ComesTo (fun auth : AuthConfig => auth.issuer = issuer ∧ auth.audience = audience ∧
        auth.jwksUrl = jwks ∧ auth.tenantId = tenantId ∧
        (readNumber lookup (2 ^ 64 - 1) "JWKS_CACHE_TTL_SECONDS" "300" = some auth.jwksCacheTtl ∧
          1 ≤ auth.jwksCacheTtl) ∧
        (readNumber lookup (2 ^ 64 - 1) "JWT_CLOCK_SKEW_SECONDS" "60" = some auth.jwtClockSkew ∧
          1 ≤ auth.jwtClockSkew) ∧
        (readNumber lookup (2 ^ 64 - 1) "JWT_MAX_ADMIN_TOKEN_LIFETIME_SECONDS" "3600" =
          some auth.maxAdminTokenLifetime ∧ 1 ≤ auth.maxAdminTokenLifetime))
      (Explained library lookup)
      (loadAuth lookup (some issuer) (some audience) (some jwks) tenantId) := by
  unfold loadAuth
  refine (secondsOrDefault_comesTo (by decide)).bind fun ttl httl => ?_
  refine (secondsOrDefault_comesTo (by decide)).bind fun skew hskew => ?_
  refine (secondsOrDefault_comesTo (by decide)).bind fun lifetime hlifetime => ?_
  exact ⟨rfl, rfl, rfl, rfl, httl, hskew, hlifetime⟩

theorem validateRustLog_comesTo :
    ComesTo (fun _ => library.isFilter (optionalOrDefault lookup "RUST_LOG" defaultRustLog) = true)
      (fun e => Explained library lookup (.error e))
      (validateRustLog library (optionalOrDefault lookup "RUST_LOG" defaultRustLog)) := by
  unfold validateRustLog
  split_ifs with h
  · exact h
  · exact ⟨by decide, .filter (by simpa using h)⟩

theorem parseUsize_comesTo {name default : String} (h : (name, default) ∈ sizes) :
    ComesTo (fun n => readNumber lookup (2 ^ 64 - 1) name default = some n)
      (fun e => Explained library lookup (.error e))
      (parseUsize name (optionalOrDefault lookup name default)) := by
  unfold parseUsize
  cases hread : parseUnsigned (2 ^ 64 - 1) (optionalOrDefault lookup name default) with
  | none => exact comesTo_error.mpr (explained_size h hread)
  | some n => exact hread

theorem parseU64_comesTo {name default : String} (h : (name, default) ∈ sizes) :
    ComesTo (fun n => readNumber lookup (2 ^ 64 - 1) name default = some n)
      (fun e => Explained library lookup (.error e))
      (parseU64 name (optionalOrDefault lookup name default)) := by
  unfold parseU64
  cases hread : parseUnsigned (2 ^ 64 - 1) (optionalOrDefault lookup name default) with
  | none => exact comesTo_error.mpr (explained_size h hread)
  | some n => exact hread

theorem parseUnsigned_le {max n : ℕ} {value : String} (h : parseUnsigned max value = some n) :
    n ≤ max := by
  unfold parseUnsigned at h
  simp only [Option.ite_none_right_eq_some, Option.some_inj] at h
  omega

/-- Nothing is refused: each of its rules is against one check that has passed. -/
theorem not_refused {gathered : Gathered} (hgathered : Describes library lookup gathered)
    (htenant : ∀ value, readOptional lookup "JWT_TENANT_ID" = some value → ConcreteTenant value)
    (hredis : ∀ value, readOptional lookup "REDIS_URL" = some value → RedisUrl library value)
    (hbound : Hardened lookup → ∀ name ∈ ["JWT_ISSUER", "JWKS_URL"], ∀ value,
      readOptional lookup name = some value → TenantBound value)
    (hfilter : library.isFilter (optionalOrDefault lookup "RUST_LOG" defaultRustLog) = true)
    (hnumbers : ∀ number ∈ positiveNumbers, ReadsPositive lookup number.2.1 number.1 number.2.2)
    (hsizes : ∀ size ∈ sizes, readNumber lookup (2 ^ 64 - 1) size.1 size.2 ≠ none)
    (hdelays : ∀ base max,
      readNumber lookup (2 ^ 64 - 1) "HTTP_RETRY_BASE_DELAY_MS" "250" = some base →
      readNumber lookup (2 ^ 64 - 1) "HTTP_RETRY_MAX_DELAY_MS" "5000" = some max → base ≤ max)
    (name : String) : ¬ Refused library lookup name := by
  have htoken : ∀ value, readOptional lookup "INTERNAL_SERVICE_AUTH_TOKEN" = some value →
      StrongToken value ∧ (headerNameFromBytes (optionalOrDefault lookup
        "INTERNAL_SERVICE_AUTH_HEADER" "x-lumenhorizon-internal-token")).isSome := by
    intro value hset
    have hauth := hgathered.authSet.trans hset
    obtain ⟨auth, hmem, rfl⟩ := Option.map_eq_some_iff.mp hauth
    obtain ⟨hstrong, hheader, hname⟩ := hgathered.auth auth hmem
    exact ⟨hstrong, hname ▸ hheader⟩
  intro hrefused
  cases hrefused with
  | backend h => exact h hgathered.backend
  | environment h => exact h hgathered.environment
  | connections hset h => exact h (hgathered.connections hset)
  | ingest hset h =>
    obtain ⟨ingestAdmin, hmem, rfl⟩ := Option.map_eq_some_iff.mp (hgathered.ingestSet.trans hset)
    exact h (hgathered.ingest ingestAdmin hmem)
  | token hset h => exact h (htoken _ hset).1
  | header hset h =>
    obtain ⟨value, hvalue⟩ := Option.isSome_iff_exists.mp hset
    simpa [h] using (htoken value hvalue).2
  | tenant hset h => exact h (htenant _ hset)
  | redisUrl hset h => exact h (hredis _ hset)
  | shared hprofile hname hset h => exact h (hbound hprofile _ hname _ hset)
  | filter h => simp [hfilter] at h
  | number hname h =>
    have hreads := hnumbers _ hname
    exact h hreads
  | size hname h => exact hsizes _ hname h
  | delays hbase hmax h => exact absurd (hdelays _ _ hbase hmax) (by omega)

theorem finish_comesTo {gathered : Gathered} (hgathered : Describes library lookup gathered)
    (hcomplete : ∀ name, ¬ Needed lookup name) :
    ComesTo (fun config => WellFormed library config ∧ ∀ name, ¬ Refused library lookup name)
      (Explained library lookup) (finish library lookup gathered) := by
  have hset : ∀ name ∈ ["JWT_ISSUER", "JWT_AUDIENCE", "JWKS_URL"],
      ∃ value, readOptional lookup name = some value := by
    intro name hname
    by_contra hunset
    exact hcomplete name (.auth hname fun h => hunset (Option.isSome_iff_exists.mp h))
  obtain ⟨issuer, hissuer⟩ := hset "JWT_ISSUER" (by decide)
  obtain ⟨audience, haudience⟩ := hset "JWT_AUDIENCE" (by decide)
  obtain ⟨jwks, hjwks⟩ := hset "JWKS_URL" (by decide)
  unfold finish
  rw [hgathered.issuer, hgathered.audience, hgathered.jwksUrl, hgathered.redisUrl,
    hgathered.tenantId, hissuer, haudience, hjwks]
  refine (comesTo_orFail (checkIfSet_comesTo fun _ => validateTenantId_comesTo)).bind
    fun _ htenant => ?_
  refine (comesTo_orFail (checkIfSet_comesTo fun _ => validateRedisUrl_comesTo)).bind
    fun _ hredis => ?_
  refine (checkTenantBoundUrls_comesTo hgathered.profile hissuer hjwks).bind fun _ hbound => ?_
  refine (comesTo_orFail parsePort_comesTo).bind fun port hport => ?_
  refine (comesTo_orFail validateRustLog_comesTo).bind fun _ hfilter => ?_
  refine loadAuth_comesTo.bind fun auth hauth => ?_
  refine (comesTo_orFail parseHttpRetryConfig_comesTo).bind fun retry hretry => ?_
  refine (comesTo_orFail (parseUsize_comesTo (by decide))).bind fun urlLength hurlLength => ?_
  refine (comesTo_orFail (parseU64_comesTo (by decide))).bind fun bodyBytes hbodyBytes => ?_
  refine (secondsOrDefault_comesTo (by decide)).bind fun publicTimeout hpublic => ?_
  refine (secondsOrDefault_comesTo (by decide)).bind fun adminTimeout hadmin => ?_
  refine (secondsOrDefault_comesTo (by decide)).bind fun healthTimeout hhealth => ?_
  obtain ⟨rfl, rfl, rfl, hauthTenant, httl, hskew, hlifetime⟩ := hauth
  obtain ⟨hattempts, hbase, hmax, hattemptsPos, hbasePos, hle⟩ := hretry
  have hnumbers : ∀ number ∈ positiveNumbers,
      ReadsPositive lookup number.2.1 number.1 number.2.2 := by
    simp only [positiveNumbers, List.forall_mem_cons, List.not_mem_nil, IsEmpty.forall_iff,
      implies_true, and_true]
    exact ⟨⟨_, hport⟩, ⟨_, hattempts, hattemptsPos⟩, ⟨_, hbase, hbasePos⟩,
      ⟨_, hmax, hbasePos.trans hle⟩, ⟨_, httl⟩, ⟨_, hskew⟩, ⟨_, hlifetime⟩, ⟨_, hpublic⟩,
      ⟨_, hadmin⟩, ⟨_, hhealth⟩⟩
  have hboundSet : Hardened lookup → ∀ name ∈ ["JWT_ISSUER", "JWKS_URL"], ∀ value,
      readOptional lookup name = some value → TenantBound value := by
    intro hhardened name hname value hvalue
    simp only [List.mem_cons, List.not_mem_nil, or_false] at hname
    rcases hname with rfl | rfl
    · rw [hissuer, Option.some_inj] at hvalue
      exact hvalue ▸ (hbound hhardened).1
    · rw [hjwks, Option.some_inj] at hvalue
      exact hvalue ▸ (hbound hhardened).2
  have hsizes : ∀ size ∈ sizes, readNumber lookup (2 ^ 64 - 1) size.1 size.2 ≠ none := by
    simp only [sizes, List.forall_mem_cons, List.not_mem_nil, IsEmpty.forall_iff, implies_true,
      and_true, hurlLength, hbodyBytes]
    exact ⟨Option.some_ne_none _, Option.some_ne_none _⟩
  have hdelays : ∀ base max,
      readNumber lookup (2 ^ 64 - 1) "HTTP_RETRY_BASE_DELAY_MS" "250" = some base →
      readNumber lookup (2 ^ 64 - 1) "HTTP_RETRY_MAX_DELAY_MS" "5000" = some max →
      base ≤ max := by
    intro base max hbase' hmax'
    rw [hbase, Option.some_inj] at hbase'
    rw [hmax, Option.some_inj] at hmax'
    omega
  refine ⟨?_, not_refused hgathered htenant hredis hboundSet hfilter hnumbers hsizes hdelays⟩
  exact {
    port := ⟨hport.2, Nat.lt_of_le_pred (by decide) (parseUnsigned_le hport.1)⟩
    named := by
      simp [not_isBlank_of_readOptional hissuer, not_isBlank_of_readOptional haudience,
        not_isBlank_of_readOptional hjwks]
    positive := by simp [httl.2, hskew.2, hlifetime.2, hpublic.2, hadmin.2, hhealth.2]
    attempts := hattemptsPos
    delays := ⟨hbasePos, hle⟩
    connections := hgathered.database
    rustLog := hfilter
    redisUrl := by
      intro hbackend
      by_contra hunset
      exact hcomplete _ (.redisUrl (hgathered.redis.mp hbackend) hunset)
    validRedisUrl := hredis
    distributed := by
      intro hdistributed
      simp only [RuntimeEnvironment.requiresDistributedRateLimit_eq] at hdistributed
      by_contra hmemory
      exact hcomplete _ (.redisBackend (hgathered.profile.mp hdistributed)
        fun h => hmemory (hgathered.redis.mpr h))
    tenant := fun tenant htenantSet => htenant tenant (hauthTenant ▸ htenantSet)
    ingest := hgathered.ingest
    internal := fun a ha => ⟨(hgathered.auth a ha).1, (hgathered.auth a ha).2.1⟩
    storage := hgathered.storage hcomplete
    hardened := by
      intro hrequires
      have hhardened := hgathered.profile.mp hrequires
      refine ⟨(RuntimeEnvironment.requiresDistributedRateLimit_eq _).trans hrequires, ?_,
        (hbound hhardened).1, (hbound hhardened).2, ?_⟩
      · rw [hauthTenant]
        by_contra hunset
        exact hcomplete _ (.tenant hhardened hunset)
      · intro hingest
        have hingestSet : IsSet lookup "INGEST_SERVICE_BASE_URL" := by
          simpa [IsSet, ← hgathered.ingestSet] using hingest
        by_contra hunset
        refine hcomplete _ (.token hhardened hingestSet fun h => hunset ?_)
        simpa [IsSet, ← hgathered.authSet] using h }

/-- The gateway starts exactly when no variable is needed and none is refused, in a configuration
that is well formed; if it does not, the error says why, and lists all that is missing. -/
theorem fromLookup_explained (library : ConfigLibrary) (lookup : Lookup) :
    ComesTo (fun config => WellFormed library config ∧
        ∀ name, ¬ Needed lookup name ∧ ¬ Refused library lookup name)
      (Explained library lookup) (fromLookup library lookup) := by
  refine gather_comesTo.bind fun gathered hgathered => ?_
  split_ifs with hmissing
  · exact ⟨hmissing, hgathered.missing⟩
  · have hcomplete : ∀ name, ¬ Needed lookup name := by
      intro name
      rw [← hgathered.missing, not_not.mp hmissing]
      simp
    exact (finish_comesTo hgathered hcomplete).mono
      (fun config h => ⟨h.1, fun name => ⟨hcomplete name, h.2 name⟩⟩) fun _ => id

end LumenHorizon.Gateway
