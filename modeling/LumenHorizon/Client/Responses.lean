import LumenHorizon.Client.Requests
import LumenHorizon.Foundation.Decoding
import LumenHorizon.Gateway.Caching
import LumenHorizon.Gateway.ResponseJson

/-! # Responses to the app

The app decodes an envelope and takes its data, its error or its status for the outcome. Whatever
the gateway answers to a request of the app comes out as the data or the error that it has sent.
-/

namespace LumenHorizon.Client
open Foundation Foundation.Json Decoding Shared SlippyTiles Gateway Processing

/-! ## Errors -/

inductive BackendErrorCode where
  | invalidRequest
  | notFound
  | tileUnavailable
  | tileNotFound
  | serviceUnavailable
  | unknown (value : String)
deriving DecidableEq, Repr

namespace BackendErrorCode

/-- `init(rawValue:)`. -/
def ofRawValue : String → BackendErrorCode
  | "invalid_request" => invalidRequest
  | "not_found" => notFound
  | "tile_unavailable" => tileUnavailable
  | "tile_not_found" => tileNotFound
  | "service_unavailable" => serviceUnavailable
  | value => unknown value

end BackendErrorCode

structure ApiErrorBody where
  code : String
  message : String
  details : Option String
deriving DecidableEq, Repr

structure ApiMeta where
  requestId : Option String
  timestamp : Option String
  nextCursor : Option String
deriving DecidableEq, Repr

structure ApiEnvelope (α : Type) where
  data : Option α
  info : Option ApiMeta
  error : Option ApiErrorBody
deriving DecidableEq, Repr

inductive BackendError where
  | transport (message : String)
  | unexpectedStatus (code : ℕ)
  | decoding (message : String)
  | missingData
  | backend (code : BackendErrorCode) (message : String) (details : Option String)
deriving DecidableEq, Repr

/-- `BackendError.backend(_:)`. -/
def BackendError.ofBody (body : ApiErrorBody) : BackendError :=
  .backend (.ofRawValue body.code) body.message body.details

/-! ## Decoding -/

def ApiErrorBody.decode : Decoder ApiErrorBody := fun value => do
  let members ← container value
  let code ← required members "code" text
  let message ← required members "message" text
  let details ← ifPresent members "details" text
  .ok { code, message, details }

def ApiMeta.decode : Decoder ApiMeta := fun value => do
  let members ← container value
  let requestId ← ifPresent members "request_id" text
  let timestamp ← ifPresent members "timestamp" text
  let nextCursor ← ifPresent members "next_cursor" text
  .ok { requestId, timestamp, nextCursor }

def ApiEnvelope.decode {α : Type} (payload : Decoder α) : Decoder (ApiEnvelope α) := fun value => do
  let members ← container value
  let data ← ifPresent members "data" payload
  let info ← ifPresent members "meta" ApiMeta.decode
  let error ← ifPresent members "error" ApiErrorBody.decode
  .ok { data, info, error }

/-- `JSONDecoder.decode`. -/
def decodeText {α : Type} (decode : Decoder α) (body : String) : Except DecodingError α :=
  match readJson body with
  | none => .error (.dataCorrupted [])
  | some value => decode value

/-! ## The client -/

inductive SessionResult where
  | backendError (error : BackendError)
  | otherError (localizedDescription : String)
  | nonHttp
  | http (statusCode : ℕ) (body : String)
deriving DecidableEq, Repr

def isSuccess (statusCode : ℕ) : Bool := 200 ≤ statusCode && statusCode ≤ 299

/-- What `fetch` makes of what the session gives. -/
def fetch {α : Type} (describe : DecodingError → String) (payload : Decoder α) :
    SessionResult → Except BackendError (α × Option ApiMeta)
  | .backendError error => .error error
  | .otherError description => .error (.transport description)
  | .nonHttp => .error (.transport "Non-HTTP response")
  | .http statusCode body =>
    match decodeText (ApiEnvelope.decode payload) body with
    | .error error =>
      if isSuccess statusCode = false then .error (.unexpectedStatus statusCode)
      else .error (.decoding (describe error))
    | .ok envelope =>
      match envelope.error with
      | some error => .error (.ofBody error)
      | none =>
        if isSuccess statusCode = false then .error (.unexpectedStatus statusCode)
        else
          match envelope.data with
          | none => .error .missingData
          | some data => .ok (data, envelope.info)

/-! ## The data of the endpoints -/

/-- How the numbers of a response are written and read. -/
structure NumberTexts (D : Type) where
  int : Numeral → Option ℤ
  double : Numeral → Option D
  writeDouble : D → Numeral
  int_ofInt : ∀ i, -2 ^ 63 ≤ i → i < 2 ^ 63 → int (.ofInt i) = some i
  double_writeDouble : ∀ d, double (writeDouble d) = some d

structure TileClass (D : Type) where
  classNumber : ℤ
  colorHex : String
  label : String
  minRadiance : D
  maxRadianceExclusive : D
deriving DecidableEq, Repr

structure TileClasses (D : Type) where
  classificationVersion : String
  radianceUnits : String
  classes : List (TileClass D)
deriving DecidableEq, Repr

structure TileBounds (D : Type) where
  west : D
  south : D
  east : D
  north : D
deriving DecidableEq, Repr

structure TileChecksums where
  manifestSHA256 : String
deriving DecidableEq, Repr

structure TileManifest (D : Type) where
  tileSetId : String
  datasetDate : String
  generatedAt : String
  classificationVersion : String
  renderVersion : String
  format : String
  tileSize : ℤ
  minZoom : ℤ
  maxNativeZoom : ℤ
  maxDisplayZoom : ℤ
  bounds : TileBounds D
  tileURLTemplate : String
  tileCount : ℤ
  checksums : TileChecksums
deriving DecidableEq, Repr

structure TileSetSummary (D : Type) where
  tileSetId : String
  datasetDate : String
  classificationVersion : String
  renderVersion : String
  format : String
  minZoom : ℤ
  maxNativeZoom : ℤ
  maxDisplayZoom : ℤ
  bounds : TileBounds D
  tileCount : ℤ
  manifestBlobPath : String
  latest : Bool
  createdAt : String
deriving DecidableEq, Repr

section Payloads

variable {D : Type} (numbers : NumberTexts D)

def TileClass.decode : Decoder (TileClass D) := fun value => do
  let members ← container value
  let classNumber ← required members "class" (number numbers.int)
  let colorHex ← required members "color_hex" text
  let label ← required members "label" text
  let minRadiance ← required members "min_radiance" (number numbers.double)
  let maxRadianceExclusive ← required members "max_radiance_exclusive" (number numbers.double)
  .ok { classNumber, colorHex, label, minRadiance, maxRadianceExclusive }

def TileClasses.decode : Decoder (TileClasses D) := fun value => do
  let members ← container value
  let classificationVersion ← required members "classification_version" text
  let radianceUnits ← required members "radiance_units" text
  let classes ← required members "classes" (items (TileClass.decode numbers))
  .ok { classificationVersion, radianceUnits, classes }

def TileBounds.decode : Decoder (TileBounds D) := fun value => do
  let members ← container value
  let west ← required members "west" (number numbers.double)
  let south ← required members "south" (number numbers.double)
  let east ← required members "east" (number numbers.double)
  let north ← required members "north" (number numbers.double)
  .ok { west, south, east, north }

def TileChecksums.decode : Decoder TileChecksums := fun value => do
  let members ← container value
  let manifestSHA256 ← required members "manifest_sha256" text
  .ok { manifestSHA256 }

def TileManifest.decode : Decoder (TileManifest D) := fun value => do
  let members ← container value
  let tileSetId ← required members "tile_set_id" text
  let datasetDate ← required members "dataset_date" text
  let generatedAt ← required members "generated_at" text
  let classificationVersion ← required members "classification_version" text
  let renderVersion ← required members "render_version" text
  let format ← required members "format" text
  let tileSize ← required members "tile_size" (number numbers.int)
  let minZoom ← required members "min_zoom" (number numbers.int)
  let maxNativeZoom ← required members "max_native_zoom" (number numbers.int)
  let maxDisplayZoom ← required members "max_display_zoom" (number numbers.int)
  let bounds ← required members "bounds" (TileBounds.decode numbers)
  let tileURLTemplate ← required members "tile_url_template" text
  let tileCount ← required members "tile_count" (number numbers.int)
  let checksums ← required members "checksums" TileChecksums.decode
  .ok {
    tileSetId, datasetDate, generatedAt, classificationVersion, renderVersion, format, tileSize,
    minZoom, maxNativeZoom, maxDisplayZoom, bounds, tileURLTemplate, tileCount, checksums }

def TileSetSummary.decode : Decoder (TileSetSummary D) := fun value => do
  let members ← container value
  let tileSetId ← required members "tile_set_id" text
  let datasetDate ← required members "dataset_date" text
  let classificationVersion ← required members "classification_version" text
  let renderVersion ← required members "render_version" text
  let format ← required members "format" text
  let minZoom ← required members "min_zoom" (number numbers.int)
  let maxNativeZoom ← required members "max_native_zoom" (number numbers.int)
  let maxDisplayZoom ← required members "max_display_zoom" (number numbers.int)
  let bounds ← required members "bounds" (TileBounds.decode numbers)
  let tileCount ← required members "tile_count" (number numbers.int)
  let manifestBlobPath ← required members "manifest_blob_path" text
  let latest ← required members "latest" boolean
  let createdAt ← required members "created_at" text
  .ok {
    tileSetId, datasetDate, classificationVersion, renderVersion, format, minZoom, maxNativeZoom,
    maxDisplayZoom, bounds, tileCount, manifestBlobPath, latest, createdAt }

end Payloads

structure TileSetPage (D : Type) where
  sets : List (TileSetSummary D)
  nextCursor : Option String
deriving DecidableEq, Repr

/-! ## The calls of the client -/

section Calls

variable {D : Type} (describe : DecodingError → String) (numbers : NumberTexts D)

def latestManifest (result : SessionResult) : Except BackendError (TileManifest D) :=
  (fetch describe (TileManifest.decode numbers) result).map Prod.fst

def manifest (result : SessionResult) : Except BackendError (TileManifest D) :=
  (fetch describe (TileManifest.decode numbers) result).map Prod.fst

def tileSets (result : SessionResult) : Except BackendError (TileSetPage D) :=
  (fetch describe (items (TileSetSummary.decode numbers)) result).map fun fetched =>
    { sets := fetched.1, nextCursor := fetched.2.bind ApiMeta.nextCursor }

def tileClasses (result : SessionResult) : Except BackendError (TileClasses D) :=
  (fetch describe (TileClasses.decode numbers) result).map Prod.fst

end Calls

/-! ## Envelopes of the gateway -/

def readMeta (timestamp : String) (requestId : Uuid) (nextCursor : Option String) : ApiMeta where
  requestId := some (uuidDisplay requestId)
  timestamp := some timestamp
  nextCursor := nextCursor

theorem decode_metaJson (timestamp : String) (requestId : Uuid) (nextCursor : Option String) :
    ApiMeta.decode (metaJson timestamp requestId nextCursor) =
      .ok (readMeta timestamp requestId nextCursor) := by
  cases nextCursor <;> rfl

theorem metaJson_ne_null (timestamp : String) (requestId : Uuid) (nextCursor : Option String) :
    metaJson timestamp requestId nextCursor ≠ .null := by
  intro h
  cases h

section Envelopes

variable {α : Type} {payload : Decoder α} {timestamp : String} {requestId : Uuid}

theorem decode_errorEnvelope (code : ErrorCode) (message : String) :
    ApiEnvelope.decode payload
      (envelopeJson timestamp .null requestId none (errorJson code message)) =
        .ok ⟨none, some (readMeta timestamp requestId none), some ⟨code.asStr, message, none⟩⟩ := rfl

theorem decode_nullEnvelope (nextCursor : Option String) :
    ApiEnvelope.decode payload (envelopeJson timestamp .null requestId nextCursor .null) =
      .ok ⟨none, some (readMeta timestamp requestId nextCursor), none⟩ := by
  cases nextCursor <;> rfl

theorem decode_dataEnvelope {data : JsonValue} {a : α} (hnull : data ≠ .null)
    (hdata : payload data = .ok a) (nextCursor : Option String) :
    ApiEnvelope.decode payload (envelopeJson timestamp data requestId nextCursor .null) =
      .ok ⟨some a, some (readMeta timestamp requestId nextCursor), none⟩ := by
  rw [ApiEnvelope.decode, envelopeJson, container, ok_bind, ifPresent_eq_ok rfl hnull hdata,
    ok_bind, ifPresent_eq_ok rfl (metaJson_ne_null _ _ _) (decode_metaJson _ _ _), ok_bind,
    ifPresent_null rfl, ok_bind]

theorem decode_undecodable {data : JsonValue} {error : DecodingError} (hnull : data ≠ .null)
    (hdata : payload data = .error error) (nextCursor : Option String) :
    ApiEnvelope.decode payload (envelopeJson timestamp data requestId nextCursor .null) =
      .error (error.under (.member "data")) := by
  rw [ApiEnvelope.decode, envelopeJson, container, ok_bind, ifPresent_of_named rfl hnull, hdata]
  rfl

end Envelopes

/-! ## What the app is told -/

section Outcomes

variable {α : Type} (describe : DecodingError → String) (payload : Decoder α)
  (toJson : Payload → JsonValue) (timestamp : String) (allowed : Payload → Prop)
  (response : Gateway.Response)

/-- What the app should make of a response: the code and the message of an error, the data that it
can decode with the cursor, or the place where it cannot. -/
inductive Conveyed : Except BackendError (α × Option ApiMeta) → Prop
  | refused {code : ErrorCode} {message : String} {requestId : Uuid}
      (hbody : response.body = .error code message requestId) (hstatus : 400 ≤ response.status) :
      Conveyed (.error (.backend (.ofRawValue code.asStr) message none))
  | received {data : Payload} {requestId : Uuid} {nextCursor : Option String} {a : α}
      (hbody : response.body = .envelope data requestId nextCursor) (hstatus : response.status = 200)
      (hdata : allowed data) (hnull : toJson data ≠ .null) (hdecoded : payload (toJson data) = .ok a) :
      Conveyed (.ok (a, some (readMeta timestamp requestId nextCursor)))
  | undecodable {data : Payload} {requestId : Uuid} {nextCursor : Option String}
      {error : DecodingError} (hbody : response.body = .envelope data requestId nextCursor)
      (hstatus : response.status = 200) (hdata : allowed data) (hnull : toJson data ≠ .null)
      (hdecoded : payload (toJson data) = .error error) :
      Conveyed (.error (.decoding (describe (error.under (.member "data")))))
  | missing {data : Payload} {requestId : Uuid} {nextCursor : Option String}
      (hbody : response.body = .envelope data requestId nextCursor) (hstatus : response.status = 200)
      (hdata : allowed data) (hnull : toJson data = .null) : Conveyed (.error .missingData)

end Outcomes

section Fetch

variable {α : Type} {describe : DecodingError → String} {payload : Decoder α}
  {document : Gateway.Json → JsonValue} {radiance : FloatValue → Numeral} {timestamp : String}
  {plain : String → String} {allowed : Payload → Prop} {response : Gateway.Response}

theorem fetch_error {code : ErrorCode} {message : String} {requestId : Uuid}
    (hbody : response.body = .error code message requestId) :
    fetch describe payload (.http response.status
      (response.body.toText document radiance timestamp plain)) =
        .error (.backend (.ofRawValue code.asStr) message none) := by
  simp only [fetch, hbody, ResponseBody.toText, decodeText, readJson_writeJson,
    decode_errorEnvelope]
  rfl

section Data

variable {data : Payload} {requestId : Uuid} {nextCursor : Option String}
  (hbody : response.body = .envelope data requestId nextCursor) (hstatus : response.status = 200)

include hbody hstatus

theorem fetch_null (hnull : Payload.toJson document radiance data = .null) :
    fetch describe payload (.http response.status
      (response.body.toText document radiance timestamp plain)) = .error .missingData := by
  simp only [fetch, hbody, hstatus, ResponseBody.toText, decodeText, readJson_writeJson, hnull,
    decode_nullEnvelope]
  rfl

theorem fetch_data {a : α} (hnull : Payload.toJson document radiance data ≠ .null)
    (hdecoded : payload (Payload.toJson document radiance data) = .ok a) :
    fetch describe payload (.http response.status
      (response.body.toText document radiance timestamp plain)) =
        .ok (a, some (readMeta timestamp requestId nextCursor)) := by
  simp only [fetch, hbody, hstatus, ResponseBody.toText, decodeText, readJson_writeJson,
    decode_dataEnvelope hnull hdecoded]
  rfl

theorem fetch_undecodable {error : DecodingError}
    (hnull : Payload.toJson document radiance data ≠ .null)
    (hdecoded : payload (Payload.toJson document radiance data) = .error error) :
    fetch describe payload (.http response.status
      (response.body.toText document radiance timestamp plain)) =
        .error (.decoding (describe (error.under (.member "data")))) := by
  simp only [fetch, hbody, hstatus, ResponseBody.toText, decodeText, readJson_writeJson,
    decode_undecodable hnull hdecoded]
  rfl

end Data

theorem fetch_enveloped (h : Enveloped allowed response) :
    Conveyed describe payload (Payload.toJson document radiance) timestamp allowed response
      (fetch describe payload
        (.http response.status (response.body.toText document radiance timestamp plain))) := by
  cases h with
  | error hbody hstatus =>
    rw [fetch_error hbody]
    exact .refused hbody hstatus
  | @data data requestId nextCursor hbody hstatus hdata =>
    by_cases hvalue : Payload.toJson document radiance data = .null
    · rw [fetch_null hbody hstatus hvalue]
      exact .missing hbody hstatus hdata hvalue
    cases hdecoded : payload (Payload.toJson document radiance data) with
    | error error =>
      rw [fetch_undecodable hbody hstatus hvalue hdecoded]
      exact .undecodable hbody hstatus hdata hvalue hdecoded
    | ok a =>
      rw [fetch_data hbody hstatus hvalue hdecoded]
      exact .received hbody hstatus hdata hvalue hdecoded

end Fetch

/-! ## Requests of the app -/

section Requests

variable (sets : UrlCharacterSets) (builder : BackendRequestBuilder)

/-- A request of the app as it reaches the gateway, with whatever headers. -/
def sentRequest (endpoint : BackendEndpoint) (headers : HeaderMap) : Request where
  method := "GET"
  path := rawPath ((builder.request endpoint).target sets)
  query := rawQuery ((builder.request endpoint).target sets)
  headers := headers
  body := []

/-- The handler that an endpoint asks, and its parameters. -/
def BackendEndpoint.asked : BackendEndpoint → Handler × List String
  | latestManifest => (.latestTileManifest, [])
  | manifest tileSetId => (.tileManifestById, [tileSetId])
  | tileSets _ _ => (.listTileSets, [])
  | tileClasses => (.tileClasses, [])

def BackendEndpoint.OneSegment (endpoint : BackendEndpoint) : Prop :=
  ∀ tileSetId, endpoint = manifest tileSetId → '/' ∉ tileSetId.toList

theorem isAsked_asked (endpoint : BackendEndpoint) : endpoint.asked.1.isAsked = true := by
  cases endpoint <;> rfl

/-- A request is routed to the handler that it asks; without an id there is no route. -/
theorem matchRoute_sentRequest {endpoint : BackendEndpoint} (hsegment : endpoint.OneSegment) :
    matchRoute (rawPath ((builder.request endpoint).target sets)) = none ∨
      ∃ raw, matchRoute (rawPath ((builder.request endpoint).target sets)) =
          some (endpoint.asked.1, raw) ∧ raw.mapM pathParameter = some endpoint.asked.2 := by
  have hlatest : matchRoute "/api/v1/tiles/manifest" = some (.latestTileManifest, []) := by decide
  have hsets : matchRoute "/api/v1/tiles/sets" = some (.listTileSets, []) := by decide
  have hclasses : matchRoute "/api/v1/tiles/classes" = some (.tileClasses, []) := by decide
  have hnone : matchRoute "/api/v1/tiles/manifest/" = none := by decide
  rw [rawPath_request]
  cases endpoint with
  | latestManifest => exact .inr ⟨[], hlatest, rfl⟩
  | tileSets limit cursor => exact .inr ⟨[], hsets, rfl⟩
  | tileClasses => exact .inr ⟨[], hclasses, rfl⟩
  | manifest tileSetId =>
    by_cases hempty : tileSetId = ""
    · subst hempty
      exact .inl hnone
    · have hne : escaped sets tileSetId ≠ "" := (escaped_eq_empty_iff sets tileSetId).not.mpr hempty
      have hslash : '/' ∉ (escaped sets tileSetId).toList :=
        (slash_mem_escaped sets tileSetId).not.mpr (hsegment tileSetId rfl)
      refine .inr ⟨[escaped sets tileSetId], matchRoute_manifest hne hslash, ?_⟩
      rw [List.mapM_cons, pathParameter_escaped]
      rfl

variable {K : Type}

def withPathParameters (decoders : Decoders K) : Decoders K :=
  { decoders with pathParameter := pathParameter }

variable [Field K] [LinearOrder K] (P : LatitudeProjection K) {decoders : Decoders K}
  {state : AppState} {fresh : Uuid}

/-- Whatever the gateway answers to the app is an envelope with what was asked for. -/
theorem serve_sentRequest {endpoint : BackendEndpoint} (hsegment : endpoint.OneSegment)
    {headers : HeaderMap} {t : TimedHistory} {response : Gateway.Response}
    (h : (serve P (withPathParameters decoders) state
      (sentRequest sets builder endpoint headers) fresh).Follows t (.done response)) :
    Enveloped (DataOf (withPathParameters decoders) endpoint.asked.1 endpoint.asked.2
      (Program.answered t)) response := by
  have hroute : matchRoute (sentRequest sets builder endpoint headers).path = none ∨
      ∃ raw, matchRoute (sentRequest sets builder endpoint headers).path =
          some (endpoint.asked.1, raw) ∧
        raw.mapM (withPathParameters decoders).pathParameter = some endpoint.asked.2 :=
    matchRoute_sentRequest sets builder hsegment
  exact serve_asked P fresh (isAsked_asked endpoint) rfl hroute h

/-- What the app makes of any response to a request of its own is what the gateway has sent: the
code and the message of an error, or data that were read for the request, with the cursor. An
envelope is never taken for an unexpected status. -/
theorem fetch_sentRequest {endpoint : BackendEndpoint} (hsegment : endpoint.OneSegment)
    {headers : HeaderMap} {t : TimedHistory} {response : Gateway.Response}
    (h : (serve P (withPathParameters decoders) state
      (sentRequest sets builder endpoint headers) fresh).Follows t (.done response))
    {α : Type} (describe : DecodingError → String) (payload : Decoder α)
    (document : Gateway.Json → JsonValue) (radiance : FloatValue → Numeral) (timestamp : String)
    (plain : String → String) :
    Conveyed describe payload (Payload.toJson document radiance) timestamp
      (DataOf (withPathParameters decoders) endpoint.asked.1 endpoint.asked.2 (Program.answered t))
      response
      (fetch describe payload
        (.http response.status (response.body.toText document radiance timestamp plain))) :=
  fetch_enveloped (serve_sentRequest sets builder P hsegment h)

end Requests

/-! ## The classes -/

section Classes

variable {D : Type} {numbers : NumberTexts D} {widen : FloatValue → D}

/-- A written class is decoded as far as its upper bound is. -/
theorem decode_darkSkyClass {classNumber : ℕ} (hnumber : classNumber < 2 ^ 63)
    (colorHex label : String) (minRadiance : D) (max : JsonValue) :
    TileClass.decode numbers (.object [("class", .number (.ofInt classNumber)),
      ("color_hex", .string colorHex), ("label", .string label), ("max_radiance_exclusive", max),
      ("min_radiance", .number (numbers.writeDouble minRadiance))]) =
      ((number numbers.double max).mapError (.under (.member "max_radiance_exclusive"))).map
        fun maxRadiance => ⟨classNumber, colorHex, label, minRadiance, maxRadiance⟩ := by
  have hint := number_eq_ok (numbers.int_ofInt classNumber (by omega) (by omega))
  have hdouble := number_eq_ok (numbers.double_writeDouble minRadiance)
  rw [TileClass.decode, container, ok_bind, required_eq_ok rfl hint, ok_bind,
    required_eq_ok rfl (text.eq_1 _), ok_bind, required_eq_ok rfl (text.eq_1 _), ok_bind,
    required_eq_ok rfl hdouble, ok_bind, required_of_named rfl]
  cases number numbers.double max <;> rfl

theorem decode_boundedClass {darkSkyClass : DarkSkyClass} {max : FloatValue}
    (hmax : darkSkyClass.maxRadianceExclusive = some max) (hnumber : darkSkyClass.number < 2 ^ 63)
    (label : String) :
    TileClass.decode numbers
      (darkSkyClassJson (fun radiance => numbers.writeDouble (widen radiance)) darkSkyClass label) =
      .ok ⟨darkSkyClass.number, darkSkyClass.colorHex, label, widen darkSkyClass.minRadiance,
        widen max⟩ := by
  rw [darkSkyClassJson, decode_darkSkyClass hnumber, hmax,
    number_eq_ok (numbers.double_writeDouble _)]
  rfl

theorem decode_openClass {darkSkyClass : DarkSkyClass}
    (hmax : darkSkyClass.maxRadianceExclusive = none) (hnumber : darkSkyClass.number < 2 ^ 63)
    (label : String) :
    TileClass.decode numbers
      (darkSkyClassJson (fun radiance => numbers.writeDouble (widen radiance)) darkSkyClass label) =
      .error (.valueNotFound [.member "max_radiance_exclusive"]) := by
  rw [darkSkyClassJson, decode_darkSkyClass hnumber, hmax]
  rfl

theorem decode_tileClassesJson :
    TileClasses.decode numbers
      (tileClassesJson fun radiance => numbers.writeDouble (widen radiance)) =
      .error (.valueNotFound [.member "classes", .index 8, .member "max_radiance_exclusive"]) := by
  have hsplit : darkSkyClasses.zip darkSkyLabels = (darkSkyClasses.take 8).zip darkSkyLabels ++
      [(⟨9, "#f2efe8", .finite 50, none⟩, "Inner-city sky")] := rfl
  have hbounded : ∀ darkSkyClass ∈ darkSkyClasses.take 8,
      darkSkyClass.maxRadianceExclusive.isSome = true ∧ darkSkyClass.number < 10 := by decide
  have hfront : ∀ value ∈ ((darkSkyClasses.take 8).zip darkSkyLabels).map (fun entry =>
      darkSkyClassJson (fun radiance => numbers.writeDouble (widen radiance)) entry.1 entry.2),
      ∃ a, TileClass.decode numbers value = .ok a := by
    intro value hvalue
    obtain ⟨⟨darkSkyClass, label⟩, hentry, rfl⟩ := List.mem_map.mp hvalue
    obtain ⟨hmax, hnumber⟩ := hbounded darkSkyClass (List.of_mem_zip hentry).1
    obtain ⟨max, hmax⟩ := Option.isSome_iff_exists.mp hmax
    exact ⟨_, decode_boundedClass hmax (by omega) label⟩
  have hlast : TileClass.decode numbers (darkSkyClassJson
      (fun radiance => numbers.writeDouble (widen radiance)) ⟨9, "#f2efe8", .finite 50, none⟩
      "Inner-city sky") = .error (.valueNotFound [.member "max_radiance_exclusive"]) :=
    decode_openClass rfl (by decide) _
  have hlength : (((darkSkyClasses.take 8).zip darkSkyLabels).map fun entry =>
      darkSkyClassJson (fun radiance => numbers.writeDouble (widen radiance)) entry.1
        entry.2).length = 8 := by
    rw [List.length_map]
    rfl
  rw [TileClasses.decode, tileClassesJson, container, ok_bind, required_eq_ok rfl (text.eq_1 _),
    ok_bind, required_eq_ok rfl (text.eq_1 _), ok_bind, required_of_named rfl, hsplit,
    List.map_append, items]
  simp only [List.map_cons, List.map_nil]
  rw [itemsFrom_append_error hfront hlast, hlength]
  rfl

variable (sets : UrlCharacterSets) (builder : BackendRequestBuilder) {K : Type} [Field K]
  [LinearOrder K] (P : LatitudeProjection K) {decoders : Decoders K} {state : AppState}
  {fresh : Uuid}

/-- The app never gets the classes: it fails on the last one of those that the gateway sends, and
else reports the error of the gateway. -/
theorem tileClasses_unreadable {headers : HeaderMap} {t : TimedHistory}
    {response : Gateway.Response}
    (h : (serve P (withPathParameters decoders) state
      (sentRequest sets builder .tileClasses headers) fresh).Follows t (.done response))
    (describe : DecodingError → String) (numbers : NumberTexts D) (widen : FloatValue → D)
    (document : Gateway.Json → JsonValue) (timestamp : String) (plain : String → String) :
    (response.status = 200 ∧
      tileClasses describe numbers (.http response.status (response.body.toText document
        (fun radiance => numbers.writeDouble (widen radiance)) timestamp plain)) =
        .error (.decoding (describe (.valueNotFound [.member "data", .member "classes", .index 8,
          .member "max_radiance_exclusive"])))) ∨
      ∃ code message requestId, 400 ≤ response.status ∧
        response.body = .error code message requestId ∧
        tileClasses describe numbers (.http response.status (response.body.toText document
          (fun radiance => numbers.writeDouble (widen radiance)) timestamp plain)) =
          .error (.backend (.ofRawValue code.asStr) message none) := by
  have hsegment : BackendEndpoint.tileClasses.OneSegment := by
    intro tileSetId heq
    cases heq
  cases serve_sentRequest sets builder P hsegment h with
  | error hbody hstatus =>
    refine .inr ⟨_, _, _, hstatus, hbody, ?_⟩
    rw [tileClasses, fetch_error hbody]
    rfl
  | data hbody hstatus hdata =>
    obtain rfl : _ = Payload.classes := hdata
    have hnull : Payload.toJson document (fun radiance => numbers.writeDouble (widen radiance))
        .classes ≠ .null := by
      intro heq
      cases heq
    refine .inl ⟨hstatus, ?_⟩
    rw [tileClasses, fetch_undecodable hbody hstatus hnull decode_tileClassesJson]
    rfl

end Classes

/-! ## Sample runs -/

/-- Doubles stand for themselves as they are written. -/
def plainNumbers : NumberTexts Numeral where
  int := Numeral.toInt?
  double := some
  writeDouble := id
  int_ofInt i _ _ := Numeral.toInt?_ofInt i
  double_writeDouble _ := rfl

def writtenRadiance (radiance : FloatValue) : Numeral :=
  if radiance = .finite (13421773 / 67108864) then ⟨"0.20000000298023224".toList, by decide⟩
  else if radiance = .finite (13421773 / 33554432) then ⟨"0.4000000059604645".toList, by decide⟩
  else if radiance = .finite 1 then ⟨"1.0".toList, by decide⟩
  else if radiance = .finite 3 then ⟨"3.0".toList, by decide⟩
  else if radiance = .finite 6 then ⟨"6.0".toList, by decide⟩
  else if radiance = .finite 12 then ⟨"12.0".toList, by decide⟩
  else if radiance = .finite 25 then ⟨"25.0".toList, by decide⟩
  else if radiance = .finite 50 then ⟨"50.0".toList, by decide⟩
  else ⟨"0.0".toList, by decide⟩

/-- The sample gateway behind the requests of the app. -/
def sampleAnswer (endpoint : BackendEndpoint) : TimedProgram Gateway.Response :=
  serve linearProjection (withPathParameters (sampleDecoders (.ofGenerated sampleTileSet.manifest)))
    sampleState (sentRequest foundationSets hostRoot endpoint []) 0

theorem sentRequest_sampleGet {endpoint : BackendEndpoint} {path : String}
    (hpath : rawPath ((hostRoot.request endpoint).target foundationSets) = path)
    (hquery : endpoint.queryItems = []) :
    sentRequest foundationSets hostRoot endpoint [] = sampleGet path := by
  have hitems : (hostRoot.request endpoint).queryItems = none := by
    rw [BackendRequestBuilder.request, hquery]
    rfl
  rw [sentRequest, hpath, rawQuery_target, hitems]
  rfl

theorem follows_sampleAnswer {endpoint : BackendEndpoint} {path : String}
    {response : Gateway.Response}
    {replies : List (Σ c : Program.Timed GatewayCall, Program.Timed.Reply GatewayCall.Reply c)}
    (hpath : rawPath ((hostRoot.request endpoint).target foundationSets) = path)
    (hquery : endpoint.queryItems = [])
    (hreplay : (serve linearProjection
      (withPathParameters (sampleDecoders (.ofGenerated sampleTileSet.manifest))) sampleState
      (sampleGet path) 0).replay replies = some response) :
    (sampleAnswer endpoint).Follows replies.reverse (.done response) := by
  rw [sampleAnswer, sentRequest_sampleGet hpath hquery]
  exact Program.follows_of_replay hreplay

def describeError (error : DecodingError) : String := toString (repr error)

def sampleDocument (json : Gateway.Json) : JsonValue := (readJson json).getD .null

def askedClasses :
    List (Σ c : Program.Timed GatewayCall, Program.Timed.Reply GatewayCall.Reply c) :=
  afterSampleCheck "public_tile_metadata:unknown" ⟨1, 60⟩ [⟨.runHandler .tileClasses [], ()⟩]

def sentClasses : Gateway.Response :=
  (successResponse 200 [] .classes 0 none).withStandardHeaders 0 (sampleGet "/api/v1/tiles/classes")

theorem tileClasses_unreadable_sample :
    tileClasses describeError plainNumbers (.http 200 (sentClasses.body.toText sampleDocument
      (fun radiance => plainNumbers.writeDouble (writtenRadiance radiance))
      "2024-05-21T00:00:00Z" id)) =
      .error (.decoding (describeError (.valueNotFound [.member "data", .member "classes",
        .index 8, .member "max_radiance_exclusive"]))) := by
  have hfollows : (sampleAnswer .tileClasses).Follows askedClasses.reverse (.done sentClasses) :=
    follows_sampleAnswer (rawPath_request _ _ _) rfl (by decide +kernel)
  rcases tileClasses_unreadable foundationSets hostRoot linearProjection hfollows describeError
    plainNumbers writtenRadiance sampleDocument "2024-05-21T00:00:00Z" id with
      ⟨-, hresult⟩ | ⟨_, _, _, hstatus, -, -⟩
  · exact hresult
  · exact absurd hstatus (by decide)

def askedLatest :
    List (Σ c : Program.Timed GatewayCall, Program.Timed.Reply GatewayCall.Reply c) :=
  afterSampleCheck "public_tile_metadata:unknown" ⟨1, 60⟩
    [⟨.runHandler .latestTileManifest [], ()⟩, ⟨.readJsonBlob "manifests/latest.json", .ok "{}"⟩,
      ⟨.readJsonBlob "manifests/sample.json", .ok "{}"⟩]

def sentLatest : Gateway.Response :=
  (successResponse 200 [("cache-control", defaultLatestCacheControl)] (.value "{}") 0
    none).withStandardHeaders 0 (sampleGet "/api/v1/tiles/manifest")

theorem fetch_sentRequest_latest :
    Conveyed describeError (TileManifest.decode plainNumbers)
      (Payload.toJson sampleDocument writtenRadiance) "2024-05-21T00:00:00Z"
      (DataOf (withPathParameters (sampleDecoders (.ofGenerated sampleTileSet.manifest)))
        .latestTileManifest [] (Program.answered askedLatest.reverse))
      sentLatest
      (fetch describeError (TileManifest.decode plainNumbers) (.http 200
        (sentLatest.body.toText sampleDocument writtenRadiance "2024-05-21T00:00:00Z" id))) := by
  have hsegment : BackendEndpoint.latestManifest.OneSegment := by
    intro tileSetId heq
    cases heq
  have hfollows : (sampleAnswer .latestManifest).Follows askedLatest.reverse (.done sentLatest) :=
    follows_sampleAnswer (rawPath_request _ _ _) rfl (by decide +kernel)
  exact fetch_sentRequest foundationSets hostRoot linearProjection hsegment hfollows describeError
    (TileManifest.decode plainNumbers) sampleDocument writtenRadiance "2024-05-21T00:00:00Z" id

end LumenHorizon.Client
