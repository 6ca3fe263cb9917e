import LumenHorizon.Gateway.SettingsChecks

/-! # Secrets in the configuration

Two environments that differ in the secrets alone, both valid or both not, are read into the same
configuration but for the secrets, or fail with the same error. So no error carries a secret.
-/

namespace LumenHorizon.Gateway
open Foundation Shared Processing

def secretNames : List String :=
  ["INTERNAL_SERVICE_AUTH_TOKEN", "REDIS_URL", "AZURE_STORAGE_ACCESS_KEY", "DATABASE_URL"]

structure SameButSecrets (library : ConfigLibrary) (lookup lookup' : Lookup) : Prop where
  others : ∀ name, name ∉ secretNames → lookup name = lookup' name
  set : ∀ name ∈ secretNames, IsSet lookup name ↔ IsSet lookup' name
  token : ∀ token token', readOptional lookup "INTERNAL_SERVICE_AUTH_TOKEN" = some token →
    readOptional lookup' "INTERNAL_SERVICE_AUTH_TOKEN" = some token' →
    (StrongToken token ↔ StrongToken token')
  redisUrl : ∀ url url', readOptional lookup "REDIS_URL" = some url →
    readOptional lookup' "REDIS_URL" = some url' → (RedisUrl library url ↔ RedisUrl library url')

def DatabaseConfig.redact (database : DatabaseConfig) : DatabaseConfig :=
  { database with databaseUrl := "" }

def TileManifestStorageConfig.redact (storage : TileManifestStorageConfig) :
    TileManifestStorageConfig := { storage with azureStorageAccessKey := "" }

def ProcessingQueueConfig.redact (queue : ProcessingQueueConfig) : ProcessingQueueConfig :=
  { queue with azureStorageAccessKey := "" }

def InternalServiceAuthConfig.redact (auth : InternalServiceAuthConfig) :
    InternalServiceAuthConfig := { auth with token := "" }

def LoadedConfig.redact (config : LoadedConfig) : LoadedConfig :=
  { config with
    rateLimit := { config.rateLimit with
      redisUrl := config.rateLimit.redisUrl.map fun _ => "" }
    database := config.database.map DatabaseConfig.redact
    tileManifestStorage := config.tileManifestStorage.map TileManifestStorageConfig.redact
    processingQueue := config.processingQueue.map ProcessingQueueConfig.redact
    internalServiceAuth := config.internalServiceAuth.map InternalServiceAuthConfig.redact }

def Gathered.redact (gathered : Gathered) : Gathered :=
  { gathered with
    redisUrl := gathered.redisUrl.map fun _ => ""
    database := gathered.database.map DatabaseConfig.redact
    tileManifestStorage := gathered.tileManifestStorage.map TileManifestStorageConfig.redact
    processingQueue := gathered.processingQueue.map ProcessingQueueConfig.redact
    internalServiceAuth := gathered.internalServiceAuth.map InternalServiceAuthConfig.redact }

variable {library : ConfigLibrary} {lookup lookup' : Lookup}

namespace SameButSecrets

theorem readOptional_eq (h : SameButSecrets library lookup lookup') (name : String)
    (hname : name ∉ secretNames) : readOptional lookup name = readOptional lookup' name := by
  rw [readOptional, readOptional, h.others name hname]

theorem optionalOrDefault_eq (h : SameButSecrets library lookup lookup') (name default : String)
    (hname : name ∉ secretNames) :
    optionalOrDefault lookup name default = optionalOrDefault lookup' name default := by
  rw [optionalOrDefault, optionalOrDefault, h.readOptional_eq name hname]

theorem none_or_some (h : SameButSecrets library lookup lookup') (name : String)
    (hname : name ∈ secretNames) :
    readOptional lookup name = none ∧ readOptional lookup' name = none ∨
      ∃ value value', readOptional lookup name = some value ∧
        readOptional lookup' name = some value' := by
  have hset := h.set name hname
  unfold IsSet at hset
  cases hvalue : readOptional lookup name with
  | none =>
    cases hvalue' : readOptional lookup' name with
    | none => exact .inl ⟨rfl, rfl⟩
    | some value' => simp [hvalue, hvalue'] at hset
  | some value =>
    cases hvalue' : readOptional lookup' name with
    | none => simp [hvalue, hvalue'] at hset
    | some value' => exact .inr ⟨value, value', rfl, rfl⟩

theorem readRequired_eq (h : SameButSecrets library lookup lookup') (name : String)
    (hname : name ∉ secretNames) (purpose : String) (missing : List MissingVariable) :
    readRequired lookup name purpose missing = readRequired lookup' name purpose missing := by
  rw [readRequired, readRequired, h.readOptional_eq name hname]

theorem parseDatabaseConfig_alike (h : SameButSecrets library lookup lookup') :
    Alike (fun database database' : Option DatabaseConfig =>
        database.map DatabaseConfig.redact = database'.map DatabaseConfig.redact)
      (parseDatabaseConfig lookup) (parseDatabaseConfig lookup') := by
  unfold parseDatabaseConfig
  obtain ⟨hnone, hnone'⟩ | ⟨url, url', hurl, hurl'⟩ := h.none_or_some "DATABASE_URL" (by decide)
  · simp [hnone, hnone']
  · simp only [hurl, hurl', h.optionalOrDefault_eq "DATABASE_MAX_CONNECTIONS" "5" (by decide)]
    refine (Alike.of_eq rfl).bind fun connections connections' hconnections => ?_
    simp [DatabaseConfig.redact, hconnections]

theorem parseIngestAdminConfig_eq (h : SameButSecrets library lookup lookup') :
    parseIngestAdminConfig library lookup = parseIngestAdminConfig library lookup' := by
  unfold parseIngestAdminConfig
  rw [h.readOptional_eq "INGEST_SERVICE_BASE_URL" (by decide)]

theorem parseInternalServiceAuthConfig_alike (h : SameButSecrets library lookup lookup') :
    Alike (fun auth auth' : Option InternalServiceAuthConfig =>
        auth.map InternalServiceAuthConfig.redact = auth'.map InternalServiceAuthConfig.redact)
      (parseInternalServiceAuthConfig lookup) (parseInternalServiceAuthConfig lookup') := by
  unfold parseInternalServiceAuthConfig validateInternalServiceAuthToken
  rw [h.optionalOrDefault_eq "INTERNAL_SERVICE_AUTH_HEADER" _ (by decide)]
  obtain ⟨hnone, hnone'⟩ | ⟨token, token', htoken, htoken'⟩ :=
    h.none_or_some "INTERNAL_SERVICE_AUTH_TOKEN" (by decide)
  · simp [hnone, hnone']
  · simp only [htoken, htoken', h.token token token' htoken htoken']
    refine (Alike.of_eq rfl).bind fun _ _ _ => ?_
    cases headerNameFromBytes (optionalOrDefault lookup' "INTERNAL_SERVICE_AUTH_HEADER"
      "x-lumenhorizon-internal-token") with
    | none => simp
    | some _ => simp [InternalServiceAuthConfig.redact]

theorem readStorage_eq (h : SameButSecrets library lookup lookup') (own : String)
    (hown : own ∉ secretNames) (accountPurpose keyPurpose : String)
    (missing : List MissingVariable) :
    (readStorage lookup own accountPurpose keyPurpose missing).1.map
        (fun storage => (storage.1, storage.2.2)) =
      (readStorage lookup' own accountPurpose keyPurpose missing).1.map
        (fun storage => (storage.1, storage.2.2)) ∧
    (readStorage lookup own accountPurpose keyPurpose missing).2 =
      (readStorage lookup' own accountPurpose keyPurpose missing).2 := by
  unfold readStorage
  rw [h.readOptional_eq own hown, h.readOptional_eq "AZURE_STORAGE_ACCOUNT" (by decide),
    h.readOptional_eq "AZURE_STORAGE_EMULATOR_HOST" (by decide)]
  obtain ⟨hnone, hnone'⟩ | ⟨key, key', hkey, hkey'⟩ :=
    h.none_or_some "AZURE_STORAGE_ACCESS_KEY" (by decide)
  · simp [hnone, hnone']
  · cases readOptional lookup' "AZURE_STORAGE_ACCOUNT" <;> simp [hkey, hkey']

theorem parseTileManifestStorage_eq (h : SameButSecrets library lookup lookup')
    (missing : List MissingVariable) :
    (parseTileManifestStorage lookup missing).1.map TileManifestStorageConfig.redact =
      (parseTileManifestStorage lookup' missing).1.map TileManifestStorageConfig.redact ∧
    (parseTileManifestStorage lookup missing).2 = (parseTileManifestStorage lookup' missing).2 := by
  obtain ⟨hvalue, hmissing⟩ := h.readStorage_eq "PROCESSED_TILES_CONTAINER" (by decide)
    "storage account that contains processed tile manifests"
    "storage account key used to read processed tile manifests" missing
  refine ⟨?_, hmissing⟩
  have hmap := congrArg (Option.map fun storage => (⟨storage.1, "", storage.2.1,
    storage.2.2.getD "processed-tiles"⟩ : TileManifestStorageConfig)) hvalue
  simpa only [parseTileManifestStorage, Option.map_map, Function.comp_def,
    TileManifestStorageConfig.redact] using hmap

theorem parseProcessingQueueConfig_eq (h : SameButSecrets library lookup lookup')
    (missing : List MissingVariable) :
    (parseProcessingQueueConfig lookup missing).1.map ProcessingQueueConfig.redact =
      (parseProcessingQueueConfig lookup' missing).1.map ProcessingQueueConfig.redact ∧
    (parseProcessingQueueConfig lookup missing).2 =
      (parseProcessingQueueConfig lookup' missing).2 := by
  obtain ⟨hvalue, hmissing⟩ := h.readStorage_eq "AZURE_QUEUE_NAME" (by decide)
    "storage account that contains the processing queue"
    "storage account key used to write processing queue messages" missing
  refine ⟨?_, hmissing⟩
  have hmap := congrArg (Option.map fun storage => (⟨storage.1, "", storage.2.1,
    storage.2.2.getD "viirs-processing"⟩ : ProcessingQueueConfig)) hvalue
  simpa only [parseProcessingQueueConfig, Option.map_map, Function.comp_def,
    ProcessingQueueConfig.redact] using hmap

theorem missingForProfile_eq {environment : RuntimeEnvironment} {backend : RateLimitBackend}
    {tenantId : Option String} {ingestAdmin : Option IngestAdminConfig}
    {auth auth' : Option InternalServiceAuthConfig} (h : SameButSecrets library lookup lookup')
    (hauth : auth.map InternalServiceAuthConfig.redact =
      auth'.map InternalServiceAuthConfig.redact) :
    missingForProfile environment backend (readOptional lookup "REDIS_URL") tenantId ingestAdmin
        auth =
      missingForProfile environment backend (readOptional lookup' "REDIS_URL") tenantId
        ingestAdmin auth' := by
  have hnone : auth.isNone = auth'.isNone := by
    simpa only [Option.isNone_map] using congrArg Option.isNone hauth
  obtain ⟨hunset, hunset'⟩ | ⟨url, url', hurl, hurl'⟩ := h.none_or_some "REDIS_URL" (by decide)
  · simp only [missingForProfile, hnone, hunset, hunset']
  · simp only [missingForProfile, hnone, hurl, hurl', Option.isNone_some]

theorem gather_alike (h : SameButSecrets library lookup lookup') :
    Alike (fun gathered gathered' : Gathered => gathered.redact = gathered'.redact ∧
        gathered.redisUrl = readOptional lookup "REDIS_URL" ∧
        gathered'.redisUrl = readOptional lookup' "REDIS_URL")
      (gather library lookup) (gather library lookup') := by
  have hredis : (readOptional lookup "REDIS_URL").map (fun _ => "") =
      (readOptional lookup' "REDIS_URL").map fun _ => "" := by
    obtain ⟨hunset, hunset'⟩ | ⟨url, url', hurl, hurl'⟩ :=
      h.none_or_some "REDIS_URL" (by decide)
    · rw [hunset, hunset']
    · rw [hurl, hurl', Option.map_some, Option.map_some]
  unfold gather
  simp only [h.optionalOrDefault_eq "RATE_LIMIT_BACKEND" _ (by decide),
    h.optionalOrDefault_eq "RUNTIME_ENVIRONMENT" _ (by decide), h.parseIngestAdminConfig_eq,
    h.readRequired_eq "JWT_ISSUER" (by decide), h.readRequired_eq "JWT_AUDIENCE" (by decide),
    h.readRequired_eq "JWKS_URL" (by decide), h.readOptional_eq "JWT_TENANT_ID" (by decide)]
  refine (Alike.of_eq rfl).bind fun backend _ hbackend => ?_
  refine (Alike.of_eq rfl).bind fun environment _ henvironment => ?_
  refine (h.parseDatabaseConfig_alike.mapError _).bind fun database database' hdatabase => ?_
  refine (Alike.of_eq rfl).bind fun ingestAdmin _ hingest => ?_
  refine (h.parseInternalServiceAuthConfig_alike.mapError _).bind fun auth auth' hauth => ?_
  subst hbackend henvironment hingest
  generalize (readRequired lookup' "JWKS_URL" _ _).2 = missing
  obtain ⟨hstorage, hmissing⟩ := h.parseTileManifestStorage_eq missing
  obtain ⟨hqueue, hmissing'⟩ :=
    h.parseProcessingQueueConfig_eq (parseTileManifestStorage lookup' missing).2
  simp only [alike_ok, Gathered.redact, hmissing, hmissing', hstorage, hqueue, hdatabase, hauth,
    hredis, h.missingForProfile_eq hauth, and_self]

/-- `finish` reads no secret but the one of the store, which is checked. -/
theorem finish_alike (h : SameButSecrets library lookup lookup') {gathered gathered' : Gathered}
    (hgathered : gathered.redact = gathered'.redact)
    (hredis : gathered.redisUrl = readOptional lookup "REDIS_URL")
    (hredis' : gathered'.redisUrl = readOptional lookup' "REDIS_URL") :
    Alike (fun config config' : LoadedConfig => config.redact = config'.redact)
      (finish library lookup gathered) (finish library lookup' gathered') := by
  have hcheck : checkIfSet (validateRedisUrl library) gathered.redisUrl =
      checkIfSet (validateRedisUrl library) gathered'.redisUrl := by
    rw [hredis, hredis']
    obtain ⟨hunset, hunset'⟩ | ⟨url, url', hurl, hurl'⟩ :=
      h.none_or_some "REDIS_URL" (by decide)
    · rw [hunset, hunset']
    · simp only [hurl, hurl', checkIfSet, validateRedisUrl, h.redisUrl url url' hurl hurl']
  have hread : ∀ name default, name ∉ secretNames →
      optionalOrDefault lookup name default = optionalOrDefault lookup' name default :=
    h.optionalOrDefault_eq
  simp only [Gathered.redact, Gathered.mk.injEq] at hgathered
  obtain ⟨hissuer, haudience, hjwks, hbackend, henvironment, hdatabase, hstorage, hingest, hauth,
    hqueue, hurl, htenant, -⟩ := hgathered
  unfold finish loadAuth secondsOrDefault parseHttpRetryConfig
  simp (disch := decide) only [hread, hcheck, hissuer, haudience, hjwks, hbackend, henvironment,
    hingest, htenant]
  refine Alike.bind_self fun _ => ?_
  refine Alike.bind_self fun _ => ?_
  refine Alike.bind_self fun _ => ?_
  refine Alike.bind_self fun port => ?_
  refine Alike.bind_self fun _ => ?_
  refine Alike.bind_self fun auth => ?_
  refine Alike.bind_self fun retry => ?_
  refine Alike.bind_self fun urlLength => ?_
  refine Alike.bind_self fun bodyBytes => ?_
  refine Alike.bind_self fun publicTimeout => ?_
  refine Alike.bind_self fun adminTimeout => ?_
  refine Alike.bind_self fun healthTimeout => ?_
  simp only [alike_ok, LoadedConfig.redact, hurl, hdatabase, hstorage, hqueue, hauth]

end SameButSecrets

/-- The secrets decide nothing but whether they are valid: environments that differ in them alone
come to the same configuration but for the secrets, or to the same failure. -/
theorem fromLookup_secrets (library : ConfigLibrary) (lookup lookup' : Lookup)
    (h : SameButSecrets library lookup lookup') :
    Alike (fun config config' : LoadedConfig => config.redact = config'.redact)
      (fromLookup library lookup) (fromLookup library lookup') := by
  unfold fromLookup
  refine h.gather_alike.bind fun gathered gathered' hgathered => ?_
  have hmissing := congrArg Gathered.missing hgathered.1
  simp only [Gathered.redact] at hmissing
  rw [hmissing]
  split_ifs with hnone
  · simp
  · exact h.finish_alike hgathered.1 hgathered.2.1 hgathered.2.2

def storesLibrary : ConfigLibrary where
  parseUrl value :=
    if value = "redis://one:6379" then some ⟨"redis", some "one"⟩
    else if value = "rediss://two:6380" then some ⟨"rediss", some "two"⟩
    else none
  isFilter _ := true
  isFilter_default := rfl

def environmentWith (token redisUrl storageKey databaseUrl : String) : Lookup := fun name =>
  [("RATE_LIMIT_BACKEND", "redis"), ("JWT_ISSUER", "https://login.example.test/tenant/v2.0"),
    ("JWT_AUDIENCE", "api://lumenhorizon"), ("JWKS_URL", "https://login.example.test/tenant/keys"),
    ("AZURE_STORAGE_ACCOUNT", "lumenhorizon"), ("INTERNAL_SERVICE_AUTH_TOKEN", token),
    ("REDIS_URL", redisUrl), ("AZURE_STORAGE_ACCESS_KEY", storageKey),
    ("DATABASE_URL", databaseUrl)].lookup name

def environmentOne : Lookup := environmentWith "0123456789abcdef0123456789abcdef"
  "redis://one:6379" "a2V5LW9uZQ==" "postgres://one"

def environmentTwo : Lookup := environmentWith "fedcba9876543210fedcba9876543210"
  "rediss://two:6380" "a2V5LXR3bw==" "postgres://two"

theorem environmentWith_others {name : String} (h : name ∉ secretNames)
    (token redisUrl storageKey databaseUrl : String) :
    environmentWith token redisUrl storageKey databaseUrl name =
      environmentWith "" "" "" "" name := by
  simp only [secretNames, List.mem_cons, List.not_mem_nil, or_false, not_or] at h
  obtain ⟨htoken, hredis, hkey, hdatabase⟩ := h
  simp [environmentWith, List.lookup_cons, beq_false_of_ne htoken, beq_false_of_ne hredis,
    beq_false_of_ne hkey, beq_false_of_ne hdatabase]

/-- Both environments load, with the same configuration but for four secrets. -/
theorem fromLookup_secrets_four :
    Alike (fun config config' : LoadedConfig => config.redact = config'.redact)
        (fromLookup storesLibrary environmentOne) (fromLookup storesLibrary environmentTwo) ∧
      (fromLookup storesLibrary environmentOne).isOk ∧
      (fromLookup storesLibrary environmentTwo).isOk := by
  refine ⟨fromLookup_secrets storesLibrary environmentOne environmentTwo ?_, ?_, ?_⟩
  · exact {
      others := fun name hname => by
        rw [environmentOne, environmentTwo, environmentWith_others hname,
          environmentWith_others hname "fedcba9876543210fedcba9876543210"]
      set := by decide +kernel
      token := by
        have hone : readOptional environmentOne "INTERNAL_SERVICE_AUTH_TOKEN" =
            some "0123456789abcdef0123456789abcdef" := by decide +kernel
        have htwo : readOptional environmentTwo "INTERNAL_SERVICE_AUTH_TOKEN" =
            some "fedcba9876543210fedcba9876543210" := by decide +kernel
        rw [hone, htwo]
        rintro _ _ ⟨⟩ ⟨⟩
        decide +kernel
      redisUrl := by
        have hone : readOptional environmentOne "REDIS_URL" = some "redis://one:6379" := by
          decide +kernel
        have htwo : readOptional environmentTwo "REDIS_URL" = some "rediss://two:6380" := by
          decide +kernel
        rw [hone, htwo]
        rintro _ _ ⟨⟩ ⟨⟩
        decide +kernel }
  · decide +kernel
  · decide +kernel

end LumenHorizon.Gateway
