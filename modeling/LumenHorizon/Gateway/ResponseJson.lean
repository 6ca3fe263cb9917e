import LumenHorizon.Foundation.Json
import LumenHorizon.Gateway.Admission
import LumenHorizon.Processing.Science

/-! # Responses as JSON

A handler of the tile routes answers with an envelope around its data, or with an error in the
same form. The data are what the storage or the database has answered with.
-/

namespace LumenHorizon.Gateway
open Foundation Foundation.Json Shared SlippyTiles Processing GatewayProgram

section Bodies

-- `document` is how a value that is passed through is written, `radiance` how a radiance is, and
-- `timestamp` is the time of the response
variable (document : Json → JsonValue) (radiance : FloatValue → Numeral) (timestamp : String)

/-- The label of each class, in the order of the classes. -/
def darkSkyLabels : List String := [
  "Excellent dark site", "Dark site", "Rural sky", "Rural/suburban transition", "Suburban edge",
  "Bright suburban", "Urban transition", "City sky", "Inner-city sky"]

/-- A class as a JSON value, whose members are sorted by their names. -/
def darkSkyClassJson (darkSkyClass : DarkSkyClass) (label : String) : JsonValue :=
  .object [("class", .number (.ofInt darkSkyClass.number)),
    ("color_hex", .string darkSkyClass.colorHex), ("label", .string label),
    ("max_radiance_exclusive",
      match darkSkyClass.maxRadianceExclusive with
      | some max => .number (radiance max)
      | none => .null),
    ("min_radiance", .number (radiance darkSkyClass.minRadiance))]

/-- `json!` of the classes and their version. -/
def tileClassesJson : JsonValue :=
  .object [("classes", .array ((darkSkyClasses.zip darkSkyLabels).map fun entry =>
      darkSkyClassJson radiance entry.1 entry.2)),
    ("classification_version", .string "radiance-dark-sky-v1"),
    ("radiance_units", .string "nW/cm^2/sr")]

def DependencyCheck.toJson (check : DependencyCheck) : JsonValue :=
  .object ([("name", .string check.name), ("status", .string check.status)] ++
    (check.message.map fun message => ("message", JsonValue.string message)).toList)

def Payload.toJson : Payload → JsonValue
  | .value json => document json
  | .rows list => .array (list.map document)
  | .classes => tileClassesJson radiance
  | .ingestAccepted upstream =>
    .object [("accepted", .bool true), ("mode", .string "ingest-service"),
      ("upstream", document upstream)]
  | .requeueAccepted ingestId =>
    .object [("accepted", .bool true), ("ingest_id", .string (uuidDisplay ingestId)),
      ("mode", .string "processing-queue")]
  | .deepHealth status checks =>
    .object [("status", .string status), ("checks", .array (checks.map DependencyCheck.toJson))]

/-- `ApiMeta`, without a cursor where there is none. -/
def metaJson (requestId : Uuid) (nextCursor : Option String) : JsonValue :=
  .object ([("request_id", .string (uuidDisplay requestId)), ("timestamp", .string timestamp)] ++
    (nextCursor.map fun cursor => ("next_cursor", JsonValue.string cursor)).toList)

/-- `ApiErrorBody`, whose details are never set. -/
def errorJson (code : ErrorCode) (message : String) : JsonValue :=
  .object [("code", .string code.asStr), ("message", .string message)]

/-- `ErrorEnvelope` and `ApiEnvelope`. -/
def envelopeJson (data : JsonValue) (requestId : Uuid) (nextCursor : Option String)
    (error : JsonValue) : JsonValue :=
  .object [("data", data), ("meta", metaJson timestamp requestId nextCursor), ("error", error)]

/-- The text of a body; one without an envelope has a text of its own. -/
def ResponseBody.toText (plain : String → String) : ResponseBody → String
  | .empty => ""
  | .text body => plain body
  | .error code message requestId =>
    writeJson compact (envelopeJson timestamp .null requestId none (errorJson code message))
  | .envelope data requestId nextCursor =>
    writeJson compact
      (envelopeJson timestamp (Payload.toJson document radiance data) requestId nextCursor .null)

end Bodies

variable {K : Type} (decoders : Decoders K)

def LatestManifestRead (t : GatewayHistory) (manifest : Json) : Prop :=
  ∃ pointer blobPath, ⟨.readJsonBlob latestManifestBlobPath, .ok pointer⟩ ∈ t ∧
    decoders.latestManifestPointer pointer = .ok blobPath ∧
    validateManifestBlobPath blobPath = .ok () ∧ ⟨.readJsonBlob blobPath, .ok manifest⟩ ∈ t

/-- The data that a handler may answer with, by what was asked for it. -/
def DataOf (handler : Handler) (params : List String) (t : GatewayHistory) (data : Payload) : Prop :=
  match handler, params with
  | .latestTileManifest, _ => ∃ manifest, LatestManifestRead decoders t manifest ∧
      data = .value manifest
  | .tileManifestById, [tileSetId] => ∃ blobPath manifest,
      manifestBlobPath tileSetId = .ok blobPath ∧ ⟨.readJsonBlob blobPath, .ok manifest⟩ ∈ t ∧
      data = .value manifest
  | .listTileSets, _ => ∃ limit offset rows,
      ⟨.listTileSets (limit + 1) offset, .ok rows⟩ ∈ t ∧ data = .rows (rows.take limit)
  | .tileClasses, _ => data = .classes
  | _, _ => False

/-- An error of the gateway with the status of an error, or data with the status 200. -/
inductive Enveloped (allowed : Payload → Prop) (response : Response) : Prop
  | error {code : ErrorCode} {message : String} {requestId : Uuid}
      (hbody : response.body = .error code message requestId) (hstatus : 400 ≤ response.status)
  | data {data : Payload} {requestId : Uuid} {nextCursor : Option String}
      (hbody : response.body = .envelope data requestId nextCursor) (hstatus : response.status = 200)
      (hdata : allowed data)

theorem enveloped_intoResponse {allowed : Payload → Prop} {error : GatewayError} (requestId : Uuid)
    (h : 400 ≤ error.status) : Enveloped allowed (error.intoResponse requestId) :=
  .error rfl h

theorem enveloped_successResponse {allowed : Payload → Prop} {data : Payload} (h : allowed data)
    (headers : HeaderMap) (requestId : Uuid) (nextCursor : Option String) :
    Enveloped allowed (successResponse 200 headers data requestId nextCursor) :=
  .data rfl rfl h

theorem enveloped_pagedResponse {allowed : Payload → Prop} {rows : List Json}
    {pagination : Pagination} (h : allowed (.rows (rows.take pagination.limit))) (requestId : Uuid) :
    Enveloped allowed (pagedResponse rows pagination requestId) := by
  unfold pagedResponse
  split_ifs with hlength
  · exact enveloped_successResponse h _ _ _
  · rw [List.take_of_length_le (not_lt.mp hlength)] at h
    exact enveloped_successResponse h _ _ _

variable {decoders} {state : AppState} {request : Request}

abbrev Answers (p : GatewayProgram Response) (post : GatewayHistory → Payload → Prop)
    (t : GatewayHistory) : Prop :=
  p.Meets (fun _ _ => True) (fun _ _ => True) (fun t response => Enveloped (post t) response) t

theorem enveloped_manifestStorageErrorResponse {allowed : Payload → Prop} (requestId : Uuid)
    (error : StorageError) (latest : Bool) :
    Enveloped allowed (manifestStorageErrorResponse requestId error latest) := by
  apply enveloped_intoResponse
  split_ifs <;> decide

theorem latestManifest_reads (t : GatewayHistory) :
    (latestManifest decoders).Meets (fun _ _ => True) (fun _ _ => True)
      (fun t outcome => ∀ manifest, outcome = .ok manifest →
        LatestManifestRead decoders t manifest) t := by
  apply Program.Meets.request_bind trivial
  intro reply _
  cases reply with
  | error error =>
    intro manifest h
    cases h
  | ok pointer =>
    dsimp only
    split
    · intro manifest h
      cases h
    next blobPath hpointer =>
    split
    · intro manifest h
      cases h
    next hvalid =>
    apply Program.Meets.call trivial
    rintro reply - manifest rfl
    exact ⟨pointer, blobPath, List.mem_cons_of_mem _ List.mem_cons_self, hpointer, hvalid,
      List.mem_cons_self⟩

theorem latestTileManifest_envelops (requestId : Uuid) (params : List String) (t : GatewayHistory) :
    Answers (latestTileManifest decoders state requestId)
      (DataOf decoders .latestTileManifest params) t := by
  unfold latestTileManifest
  split
  · apply Program.Meets.bind (latestManifest_reads t)
    intro t outcome hread
    cases outcome with
    | error error => exact enveloped_manifestStorageErrorResponse _ _ _
    | ok manifest => exact enveloped_successResponse ⟨manifest, hread _ rfl, rfl⟩ _ _ _
  · exact enveloped_intoResponse _ (by decide)

theorem tileManifestById_envelops (requestId : Uuid) (tileSetId : String) (t : GatewayHistory) :
    Answers (tileManifestById state requestId tileSetId)
      (DataOf decoders .tileManifestById [tileSetId]) t := by
  unfold tileManifestById
  split
  · exact enveloped_intoResponse _ (by decide)
  split
  · unfold manifestById
    split
    · exact enveloped_manifestStorageErrorResponse _ _ _
    next blobPath hpath =>
    apply Program.Meets.request_bind trivial
    intro reply _
    cases reply with
    | error error => exact enveloped_manifestStorageErrorResponse _ _ _
    | ok manifest =>
      exact enveloped_successResponse ⟨blobPath, manifest, hpath, List.mem_cons_self, rfl⟩ _ _ _
  · exact enveloped_intoResponse _ (by decide)

theorem status_paginationParameters {pairs : List (String × String)} {limit cursor : Option String}
    {error : GatewayError} (h : paginationParameters pairs limit cursor = .error error) :
    error.status = 400 := by
  fun_induction paginationParameters pairs limit cursor with
  | case1 limit cursor => cases h
  | case2 limit cursor key value pairs hlimit ih => exact ih h
  | case3 limit cursor key value pairs hlimit hcursor ih => exact ih h
  | case4 limit cursor key value pairs hlimit hcursor hkey =>
    cases h
    rfl
  | case5 limit cursor key value pairs hlimit hcursor hkey =>
    cases h
    rfl

theorem paginationFromParts_none (cursor : Option String) :
    paginationFromParts none cursor = paginationFromParts (some "50") cursor := by
  have hfifty : parseUnsigned (2 ^ 32 - 1) "50" = some 50 := by decide
  simp only [paginationFromParts, hfifty, ok_bind]

theorem status_paginationFromParts {limit cursor : Option String} {error : GatewayError}
    (h : paginationFromParts limit cursor = .error error) : error.status = 400 := by
  obtain ⟨value, h⟩ : ∃ value, paginationFromParts (some value) cursor = .error error := by
    cases limit with
    | none => exact ⟨"50", by rw [← paginationFromParts_none, h]⟩
    | some value => exact ⟨value, h⟩
  cases hvalue : parseUnsigned (2 ^ 32 - 1) value with
  | none =>
    simp only [paginationFromParts, hvalue] at h
    cases h
    rfl
  | some limit =>
    simp only [paginationFromParts, hvalue, ok_bind] at h
    split_ifs at h
    · split at h
      · cases h
      · split at h <;> cases h
        rfl
    · cases h
      rfl

theorem status_paginationFromRawQuery {parse : String → List (String × String)}
    {query : Option String} {error : GatewayError}
    (h : paginationFromRawQuery parse query = .error error) : error.status = 400 := by
  rcases bind_eq_error_iff.mp h with hparameters | ⟨_, -, hparts⟩
  · exact status_paginationParameters hparameters
  · exact status_paginationFromParts hparts

theorem listTileSetsHandler_envelops (requestId : Uuid) (query : Option String)
    (params : List String) (t : GatewayHistory) :
    Answers (listTileSetsHandler decoders state requestId query)
      (DataOf decoders .listTileSets params) t := by
  unfold listTileSetsHandler listRows
  split
  · next error herror =>
    exact enveloped_intoResponse _ (status_paginationFromRawQuery herror).ge
  next pagination _ =>
  split
  · apply Program.Meets.request_bind trivial
    intro reply _
    cases reply with
    | error error => exact enveloped_intoResponse _ (by decide)
    | ok rows =>
      exact enveloped_pagedResponse ⟨_, _, rows, List.mem_cons_self, rfl⟩ _
  · exact enveloped_intoResponse _ (by decide)

section Route

variable [Field K] [LinearOrder K] (P : LatitudeProjection K)

def Handler.isAsked : Handler → Bool
  | .latestTileManifest | .tileManifestById | .listTileSets | .tileClasses => true
  | _ => false

theorem publicHandler_envelops (requestId : Uuid) {handler : Handler} (params : List String)
    (hasked : handler.isAsked = true) (t : GatewayHistory) :
    Answers (publicHandler P decoders state requestId request handler params)
      (DataOf decoders handler params) t := by
  apply Program.Meets.request_bind trivial
  intro _ _
  split
  · cases hasked
  · cases hasked
  · exact latestTileManifest_envelops requestId _ _
  · exact tileManifestById_envelops requestId _ _
  · exact listTileSetsHandler_envelops requestId _ _ _
  · have hclasses (t : GatewayHistory) : DataOf decoders .tileClasses [] t .classes := rfl
    exact enveloped_successResponse (hclasses _) _ _ _
  · cases hasked
  · cases hasked
  · cases hasked
  · cases hasked
  · exact enveloped_intoResponse _ (by decide)

/-- The router answers with the data of the handler, or with an error. -/
theorem route_envelops (requestId : Uuid) {handler : Handler} {raw params : List String}
    (hroute : matchRoute request.path = some (handler, raw))
    (hparams : raw.mapM decoders.pathParameter = some params) (hasked : handler.isAsked = true)
    (hget : request.method = "GET") (t : GatewayHistory) :
    Answers (route P decoders state requestId request) (DataOf decoders handler params) t := by
  have hadmin : handler.isAdmin = false := by cases handler <;> first | rfl | cases hasked
  have hanswers : handler.answers request.method = true := by
    rw [hget]
    cases handler <;> first | rfl | cases hasked
  rw [route, hroute]
  simp only [dispatch, hadmin, Bool.false_eq_true, if_false, hanswers, if_true, hparams]
  exact publicHandler_envelops P requestId params hasked t

theorem route_unmatched_envelops {allowed : GatewayHistory → Payload → Prop} (requestId : Uuid)
    (hroute : matchRoute request.path = none) (t : GatewayHistory) :
    Answers (route P decoders state requestId request) allowed t := by
  rw [route, hroute]
  exact enveloped_intoResponse _ (by decide)

theorem serve_envelops (fresh : Uuid) {allowed : GatewayHistory → Payload → Prop}
    (hroute : ∀ requestId t, Answers (route P decoders state requestId request) allowed t)
    {t : TimedHistory} {response : Response}
    (h : (serve P decoders state request fresh).Follows t (.done response)) :
    Enveloped (allowed (Program.answered t)) response := by
  have hserve := serve_meets decoders state request P fresh (fun _ _ => trivial)
    fun requestId t _ => hroute requestId t
  obtain ⟨requestId, inner, rfl, hend⟩ := hserve.post_of_follows h
  have hinner : Enveloped (allowed (Program.answered t)) inner := by
    cases hend with
    | refused error hstatus hchecks => exact enveloped_intoResponse _ hstatus
    | answered hpost hcut => exact hpost
    | dropped hcut hwaits hguar => exact enveloped_intoResponse _ (by decide)
  cases hinner with
  | error hbody hstatus => exact .error hbody hstatus
  | data hbody hstatus hdata => exact .data hbody hstatus hdata

/-- A request that is routed as it is asked, or nowhere, is answered with the data asked for. -/
theorem serve_asked (fresh : Uuid) {handler : Handler} {params : List String}
    (hasked : handler.isAsked = true) (hget : request.method = "GET")
    (hroute : matchRoute request.path = none ∨
      ∃ raw, matchRoute request.path = some (handler, raw) ∧
        raw.mapM decoders.pathParameter = some params)
    {t : TimedHistory} {response : Response}
    (h : (serve P decoders state request fresh).Follows t (.done response)) :
    Enveloped (DataOf decoders handler params (Program.answered t)) response := by
  rcases hroute with hroute | ⟨raw, hroute, hparams⟩
  · exact serve_envelops P fresh
      (fun requestId t => route_unmatched_envelops P requestId hroute t) h
  · exact serve_envelops P fresh
      (fun requestId t => route_envelops P requestId hroute hparams hasked hget t) h

end Route

end LumenHorizon.Gateway
