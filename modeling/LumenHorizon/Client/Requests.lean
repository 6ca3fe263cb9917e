import LumenHorizon.Foundation.FormEncoding
import LumenHorizon.Gateway.Queries
import LumenHorizon.Gateway.Routes

/-! # Requests of the app

The app joins the segments of an endpoint by slashes and leaves the escaping to `URLComponents`,
which keeps slashes in a path and plus signs in a query. The gateway splits the one at slashes and
reads the other as spaces.
-/

namespace LumenHorizon.Client
open Foundation Percent Utf8 FormEncoding Shared Gateway

/-! ## The app -/

inductive BackendEndpoint where
  | latestManifest
  | manifest (tileSetId : String)
  | tileSets (limit : Option ℤ) (cursor : Option String)
  | tileClasses
deriving DecidableEq, Repr

namespace BackendEndpoint

def pathSegments : BackendEndpoint → List String
  | latestManifest => ["tiles", "manifest"]
  | manifest tileSetId => ["tiles", "manifest", tileSetId]
  | tileSets _ _ => ["tiles", "sets"]
  | tileClasses => ["tiles", "classes"]

def queryItems : BackendEndpoint → List (String × String)
  | tileSets limit cursor =>
    (limit.map fun limit => ("limit", toString limit)).toList ++
      (cursor.map fun cursor => ("cursor", cursor)).toList
  | _ => []

end BackendEndpoint

/-- Of `URLComponents`, what the builder sets, unescaped. -/
structure UrlComponents where
  path : String
  queryItems : Option (List (String × String))
deriving DecidableEq, Repr

/-- The bytes that `URLComponents` leaves as they are, in a path and in a query. -/
structure UrlCharacterSets where
  path : UInt8 → Bool
  query : QuerySet
  path_ascii : ∀ b, path b = true → b.toNat < 128
  query_ascii : ∀ b, query.keep b = true → b.toNat < 128
  path_percent : path percentSign = false
  path_questionMark : path (asciiByte '?') = false
  path_slash : path (asciiByte '/') = true
  path_alphanumeric : ∀ c : Char, c.toNat < 128 → c.isAlphanum = true → path (asciiByte c) = true

/-- `components.url`, from its path on. -/
def UrlComponents.target (sets : UrlCharacterSets) (components : UrlComponents) : List UInt8 :=
  encode sets.path (asBytes components.path) ++
    match components.queryItems with
    | none => []
    | some items => asciiByte '?' :: encodePairs sets.query.keep items

/-- The base URL is a host root, with a slash behind it or without. -/
structure BackendRequestBuilder where
  basePath : String
  root : basePath = "" ∨ basePath = "/"

namespace BackendRequestBuilder

def versionSegments : List String := ["api", "v1"]

def request (builder : BackendRequestBuilder) (endpoint : BackendEndpoint) : UrlComponents :=
  let segments := versionSegments ++ endpoint.pathSegments
  let basePath := if endsWith builder.basePath "/" then
    String.ofList builder.basePath.toList.dropLast else builder.basePath
  let query := endpoint.queryItems
  { path := basePath ++ "/" ++ "/".intercalate segments
    queryItems := if query.isEmpty then none else some query }

end BackendRequestBuilder

/-! ## The gateway -/

def rawPath (target : List UInt8) : String :=
  String.ofList (asciiText (target.takeWhile (· ≠ asciiByte '?')))

def rawQuery (target : List UInt8) : Option String :=
  match target.dropWhile (· ≠ asciiByte '?') with
  | [] => none
  | _ :: query => some (String.ofList (asciiText query))

def pathParameter (raw : String) : Option String := decodeBytes (decode (asBytes raw))

def formUrlencoded (lossy : LossyReader) (query : String) : List (String × String) :=
  decodePairs lossy (asBytes query)

/-- What the handlers of the tile routes are asked for. -/
inductive TileRequest where
  | latestManifest
  | manifest (tileSetId : String)
  | tileSets (limit cursor : Option String)
  | tileClasses
deriving DecidableEq, Repr

/-- What is asked for by a route with its parameters, and a query. -/
def readRoute (lossy : LossyReader) (query : Option String) :
    Option (Handler × List String) → Option TileRequest
  | some (.latestTileManifest, _) => some .latestManifest
  | some (.tileManifestById, [tileSetId]) => (pathParameter tileSetId).map .manifest
  | some (.listTileSets, _) =>
    (paginationParameters (formUrlencoded lossy (query.getD "")) none none).toOption.map
      fun parameters => .tileSets parameters.1 parameters.2
  | some (.tileClasses, _) => some .tileClasses
  | _ => none

/-- What the router and the pagination parser make of a request. -/
def readTileRequest (lossy : LossyReader) (target : List UInt8) : Option TileRequest :=
  readRoute lossy (rawQuery target) (matchRoute (rawPath target))

/-- The endpoint as the gateway should read it, with the limit in decimal digits. -/
def BackendEndpoint.asRead : BackendEndpoint → TileRequest
  | latestManifest => .latestManifest
  | manifest tileSetId => .manifest tileSetId
  | tileSets limit cursor => .tileSets (limit.map toString) cursor
  | tileClasses => .tileClasses

/-! ## The path -/

def BackendEndpoint.path : BackendEndpoint → String
  | latestManifest => "/api/v1/tiles/manifest"
  | manifest tileSetId => "/api/v1/tiles/manifest/" ++ tileSetId
  | tileSets _ _ => "/api/v1/tiles/sets"
  | tileClasses => "/api/v1/tiles/classes"

theorem manifest_path (tileSetId : String) :
    "" ++ "/" ++ "/".intercalate ["api", "v1", "tiles", "manifest", tileSetId] =
      "/api/v1/tiles/manifest/" ++ tileSetId := by
  rw [String.intercalate_cons_cons, String.intercalate_cons_cons, String.intercalate_cons_cons,
    String.intercalate_cons_cons, String.intercalate_singleton, ← String.append_assoc,
    ← String.append_assoc, ← String.append_assoc, ← String.append_assoc]
  congr 1

theorem request_path (builder : BackendRequestBuilder) (endpoint : BackendEndpoint) :
    (builder.request endpoint).path = endpoint.path := by
  have hbase : (if endsWith builder.basePath "/" then
      String.ofList builder.basePath.toList.dropLast else builder.basePath) = "" := by
    rcases builder.root with h | h <;> rw [h] <;> decide
  have hsets : "" ++ "/" ++ "/".intercalate ["api", "v1", "tiles", "sets"] =
      "/api/v1/tiles/sets" := by decide
  simp only [BackendRequestBuilder.request, hbase]
  cases endpoint with
  | latestManifest => decide
  | manifest tileSetId => exact manifest_path tileSetId
  | tileSets limit cursor => exact hsets
  | tileClasses => decide

variable (sets : UrlCharacterSets) (lossy : LossyReader) (builder : BackendRequestBuilder)

theorem questionMark_notMem (bytes : List UInt8) : asciiByte '?' ∉ encode sets.path bytes :=
  notMem_encode sets.path_questionMark (by decide) (by decide) bytes

theorem rawPath_target (components : UrlComponents) : rawPath (components.target sets) =
    String.ofList (asciiText (encode sets.path (asBytes components.path))) := by
  have hnot := questionMark_notMem sets (asBytes components.path)
  rw [rawPath, UrlComponents.target]
  cases components.queryItems with
  | none =>
    rw [List.append_nil, List.takeWhile_eq_self_iff.mpr]
    intro b hb
    simpa using fun heq : b = asciiByte '?' => hnot (heq ▸ hb)
  | some items => rw [Text.takeWhile_append_separator hnot]

theorem rawQuery_target (components : UrlComponents) : rawQuery (components.target sets) =
    components.queryItems.map fun items =>
      String.ofList (asciiText (encodePairs sets.query.keep items)) := by
  have hnot := questionMark_notMem sets (asBytes components.path)
  rw [rawQuery, UrlComponents.target]
  cases components.queryItems with
  | none =>
    have hnone : (encode sets.path (asBytes components.path)).dropWhile (· ≠ asciiByte '?') = [] := by
      rw [List.dropWhile_eq_nil_iff]
      intro b hb
      simpa using fun heq : b = asciiByte '?' => hnot (heq ▸ hb)
    rw [List.append_nil, hnone]
    rfl
  | some items =>
    rw [Text.dropWhile_append_separator hnot]
    rfl

theorem encode_route (l : List Char) (h : ∀ c ∈ l, c.toNat < 128 ∧ (c.isAlphanum = true ∨ c = '/')) :
    encode sets.path (encodeChars l) = l.map asciiByte := by
  rw [encodeChars_of_ascii fun c hc => (h c hc).1]
  apply encode_of_keep
  intro b hb
  obtain ⟨c, hc, rfl⟩ := List.mem_map.mp hb
  obtain ⟨hascii, halphanum | rfl⟩ := h c hc
  · exact sets.path_alphanumeric c hascii halphanum
  · exact sets.path_slash

theorem rawPath_append (route rest : String)
    (h : ∀ c ∈ route.toList, c.toNat < 128 ∧ (c.isAlphanum = true ∨ c = '/')) :
    String.ofList (asciiText (encode sets.path (asBytes (route ++ rest)))) =
      route ++ String.ofList (asciiText (encode sets.path (asBytes rest))) := by
  have hbytes : asBytes (route ++ rest) = encodeChars route.toList ++ asBytes rest := by
    rw [asBytes, String.toList_append, encodeChars, List.flatMap_append]
    rfl
  apply String.toList_injective
  rw [hbytes, encode_append, encode_route sets _ h, asciiText, List.map_append, String.toList_append,
    String.toList_ofList, String.toList_ofList]
  congr 1
  exact asciiText_map_asciiByte fun c hc => (h c hc).1

def escaped (text : String) : String :=
  String.ofList (asciiText (encode sets.path (asBytes text)))

theorem asBytes_escaped (text : String) :
    asBytes (escaped sets text) = encode sets.path (asBytes text) := by
  rw [asBytes, escaped, String.toList_ofList]
  exact encodeChars_asciiText fun b hb => lt_of_mem_encode sets.path_ascii hb

theorem pathParameter_escaped (text : String) : pathParameter (escaped sets text) = some text := by
  rw [pathParameter, asBytes_escaped, decode_encode sets.path_percent, decodeBytes_asBytes]

theorem slash_mem_escaped (text : String) : '/' ∈ (escaped sets text).toList ↔ '/' ∈ text.toList := by
  have hascii : '/'.toNat < 128 := by decide
  rw [← asciiByte_mem_encodeChars hascii, ← asciiByte_mem_encodeChars hascii]
  change asciiByte '/' ∈ asBytes (escaped sets text) ↔ _
  rw [asBytes_escaped, mem_encode_iff sets.path_slash (by decide) (by decide)]
  rfl

theorem escaped_eq_empty_iff (text : String) : escaped sets text = "" ↔ text = "" := by
  constructor
  · intro h
    have hdecoded := pathParameter_escaped sets text
    rw [h, show pathParameter "" = some "" from decodeBytes_asBytes ""] at hdecoded
    exact (Option.some.inj hdecoded).symm
  · rintro rfl
    rfl

theorem rawPath_request (endpoint : BackendEndpoint) :
    rawPath ((builder.request endpoint).target sets) =
      match endpoint with
      | .manifest tileSetId => "/api/v1/tiles/manifest/" ++ escaped sets tileSetId
      | endpoint => endpoint.path := by
  have hroute (route : String)
      (h : ∀ c ∈ route.toList, c.toNat < 128 ∧ (c.isAlphanum = true ∨ c = '/')) :
      String.ofList (asciiText (encode sets.path (asBytes route))) = route := by
    simpa [asBytes, asciiText] using rawPath_append sets route "" h
  rw [rawPath_target, request_path]
  cases endpoint with
  | latestManifest => exact hroute "/api/v1/tiles/manifest" (by simp)
  | manifest tileSetId => exact rawPath_append sets "/api/v1/tiles/manifest/" tileSetId (by simp)
  | tileSets limit cursor => exact hroute "/api/v1/tiles/sets" (by simp)
  | tileClasses => exact hroute "/api/v1/tiles/classes" (by simp)

/-! ## The route of a manifest -/

theorem matchRoute_manifest {segment : String} (hne : segment ≠ "") (hslash : '/' ∉ segment.toList) :
    matchRoute ("/api/v1/tiles/manifest/" ++ segment) = some (.tileManifestById, [segment]) := by
  have hstatic : staticRoutes.find? (fun route => route.1 = "/api/v1/tiles/manifest/" ++ segment) =
      none := by
    have hroutes : ∀ route ∈ staticRoutes,
        startsWith route.1 "/api/v1/tiles/manifest/" = false := by decide
    rw [List.find?_eq_none]
    intro route hroute heq
    have hstarts := hroutes route hroute
    rw [of_decide_eq_true heq, startsWith_append] at hstarts
    cases hstarts
  have hstrip : stripPrefix ("/api/v1/tiles/manifest/" ++ segment) "/api/v1/tiles/manifest/" =
      some segment.toList := by
    rw [stripPrefix_eq_some_iff, String.ofList_toList]
  have hnil : segment.toList ≠ [] := fun h => hne (String.toList_inj.mp h)
  rw [matchRoute, hstatic]
  simp only [matchManifestRoute, hstrip, Option.bind_eq_bind, Option.bind_some]
  rw [if_pos ⟨hnil, hslash⟩, Option.some_or, String.ofList_toList]

theorem of_matchRoute_manifest {path tileSetId : String}
    (h : matchRoute path = some (.tileManifestById, [tileSetId])) :
    path = "/api/v1/tiles/manifest/" ++ tileSetId ∧ tileSetId ≠ "" ∧ '/' ∉ tileSetId.toList := by
  cases matchRoute_shape h with
  | manifest hne hslash => exact ⟨rfl, hne, hslash⟩

/-! ## The query -/

theorem formUrlencoded_query (pairs : List (String × String))
    (hnames : ∀ pair ∈ pairs, '=' ∉ pair.1.toList) :
    formUrlencoded lossy (String.ofList (asciiText (encodePairs sets.query.keep pairs))) =
      pairs.map fun pair => (plusAsSpace pair.1, plusAsSpace pair.2) := by
  have hascii : ∀ b ∈ encodePairs sets.query.keep pairs, b.toNat < 128 :=
    fun b hb => lt_of_mem_encodePairs sets.query_ascii hb
  rw [formUrlencoded, asBytes, String.toList_ofList, encodeChars_asciiText hascii,
    decodePairs_encodePairs lossy sets.query hnames]

theorem plus_notMem_toString (n : ℤ) : '+' ∉ (toString n).toList := by
  have hnat (n : ℕ) : '+' ∉ (toString n).toList :=
    Text.notMem_of_forall_isDigit (fun d hd => Text.isDigit_of_mem_toString hd) (by decide)
  cases n with
  | ofNat n => exact hnat n
  | negSucc n =>
    have hminus : (toString (Int.negSucc n)).toList = '-' :: (toString (n + 1)).toList := by
      change ("-" ++ toString (n + 1)).toList = _
      rw [String.toList_append]
      rfl
    rw [hminus, List.mem_cons, not_or]
    exact ⟨by decide, hnat _⟩

def paginationPairs (limit cursor : Option String) : List (String × String) :=
  (limit.map fun limit => ("limit", limit)).toList ++
    (cursor.map fun cursor => ("cursor", cursor)).toList

theorem paginationParameters_pairs (limit cursor : Option String) :
    paginationParameters (paginationPairs limit cursor) none none = .ok (limit, cursor) := by
  cases limit <;> cases cursor <;> simp [paginationPairs, paginationParameters]

/-- The pairs that the gateway reads have the cursor with spaces for its plus signs. -/
theorem formUrlencoded_request (limit : Option ℤ) (cursor : Option String) :
    formUrlencoded lossy ((rawQuery ((builder.request (.tileSets limit cursor)).target sets)).getD "") =
      paginationPairs (limit.map toString) (cursor.map plusAsSpace) := by
  have hlimit : plusAsSpace "limit" = "limit" := plusAsSpace_eq_iff.mpr (by decide)
  have hcursor : plusAsSpace "cursor" = "cursor" := plusAsSpace_eq_iff.mpr (by decide)
  have hnumber (n : ℤ) : plusAsSpace n.repr = n.repr :=
    plusAsSpace_eq_iff.mpr (plus_notMem_toString n)
  have hnames : ∀ pair ∈ (BackendEndpoint.tileSets limit cursor).queryItems,
      '=' ∉ pair.1.toList := by
    cases limit <;> cases cursor <;> simp [BackendEndpoint.queryItems]
  have hpairs := formUrlencoded_query sets lossy _ hnames
  have hread : (BackendEndpoint.tileSets limit cursor).queryItems.map
      (fun pair => (plusAsSpace pair.1, plusAsSpace pair.2)) =
        paginationPairs (limit.map toString) (cursor.map plusAsSpace) := by
    cases limit <;> cases cursor <;>
      simp [BackendEndpoint.queryItems, paginationPairs, hlimit, hcursor, hnumber]
  rw [rawQuery_target, ← hread, ← hpairs]
  apply congrArg (formUrlencoded lossy)
  -- without pairs there is no query, which reads like an empty one
  simp only [BackendRequestBuilder.request]
  cases (BackendEndpoint.tileSets limit cursor).queryItems with
  | nil => rfl
  | cons pair pairs => rfl

/-! ## What the gateway reads -/

/-- What is promised of a request: the gateway reads the endpoint that the app meant, and checks the
app's own limit and cursor. -/
structure MeansTheSame (endpoint : BackendEndpoint) : Prop where
  reads : readTileRequest lossy ((builder.request endpoint).target sets) = some endpoint.asRead
  paginates : ∀ limit cursor, endpoint = .tileSets limit cursor →
    paginationFromRawQuery (formUrlencoded lossy)
        (rawQuery ((builder.request endpoint).target sets)) =
      paginationFromParts (limit.map toString) cursor

/-- No tile set id that is empty or has a slash, and no cursor with a plus sign. -/
def BackendEndpoint.Plain : BackendEndpoint → Prop
  | manifest tileSetId => tileSetId ≠ "" ∧ '/' ∉ tileSetId.toList
  | tileSets _ cursor => ∀ text ∈ cursor, '+' ∉ text.toList
  | _ => True

theorem readRoute_eq_manifest {query : Option String} {route : Option (Handler × List String)}
    {tileSetId : String} (h : readRoute lossy query route = some (.manifest tileSetId)) :
    ∃ segment, route = some (.tileManifestById, [segment]) := by
  unfold readRoute at h
  split at h
  · cases h
  · next segment => exact ⟨segment, rfl⟩
  · obtain ⟨_, -, hread⟩ := Option.map_eq_some_iff.mp h
    cases hread
  · cases h
  · cases h

theorem readTileRequest_manifest (tileSetId : String) :
    readTileRequest lossy ((builder.request (.manifest tileSetId)).target sets) =
        some (.manifest tileSetId) ↔ tileSetId ≠ "" ∧ '/' ∉ tileSetId.toList := by
  have hpath : rawPath ((builder.request (.manifest tileSetId)).target sets) =
      "/api/v1/tiles/manifest/" ++ escaped sets tileSetId :=
    rawPath_request sets builder (.manifest tileSetId)
  rw [readTileRequest, hpath, ne_eq, ← escaped_eq_empty_iff sets, ← slash_mem_escaped sets]
  constructor
  · intro h
    obtain ⟨segment, hroute⟩ := readRoute_eq_manifest lossy h
    obtain ⟨hsegment, hne, hslash⟩ := of_matchRoute_manifest hroute
    obtain rfl : escaped sets tileSetId = segment := by
      simpa [← String.toList_inj] using hsegment
    exact ⟨hne, hslash⟩
  · rintro ⟨hne, hslash⟩
    rw [matchRoute_manifest hne hslash, readRoute, pathParameter_escaped]
    rfl

theorem readTileRequest_tileSets (limit : Option ℤ) (cursor : Option String) :
    readTileRequest lossy ((builder.request (.tileSets limit cursor)).target sets) =
      some (.tileSets (limit.map toString) (cursor.map plusAsSpace)) := by
  have hpath : rawPath ((builder.request (.tileSets limit cursor)).target sets) =
      "/api/v1/tiles/sets" := rawPath_request sets builder (.tileSets limit cursor)
  have hroute : matchRoute "/api/v1/tiles/sets" = some (.listTileSets, []) := by decide
  rw [readTileRequest, hpath, hroute, readRoute, formUrlencoded_request, paginationParameters_pairs]
  rfl

theorem map_plusAsSpace_eq_iff {cursor : Option String} :
    cursor.map plusAsSpace = cursor ↔ ∀ text ∈ cursor, '+' ∉ text.toList := by
  cases cursor with
  | none => simp
  | some text => simp [plusAsSpace_eq_iff]

/-- The gateway reads a request as it was meant exactly if its texts are plain. -/
theorem meansTheSame_iff (endpoint : BackendEndpoint) :
    MeansTheSame sets lossy builder endpoint ↔ endpoint.Plain := by
  cases endpoint with
  | latestManifest =>
    have hpath : rawPath ((builder.request .latestManifest).target sets) =
        "/api/v1/tiles/manifest" := rawPath_request sets builder .latestManifest
    have hroute : matchRoute "/api/v1/tiles/manifest" = some (.latestTileManifest, []) := by decide
    refine iff_of_true ⟨?_, by simp⟩ trivial
    rw [readTileRequest, hpath, hroute, readRoute, BackendEndpoint.asRead]
  | manifest tileSetId =>
    refine ⟨fun h => (readTileRequest_manifest sets lossy builder tileSetId).mp h.reads, fun h => ?_⟩
    exact ⟨(readTileRequest_manifest sets lossy builder tileSetId).mpr h, by simp⟩
  | tileSets limit cursor =>
    have hread := readTileRequest_tileSets sets lossy builder limit cursor
    rw [BackendEndpoint.Plain, ← map_plusAsSpace_eq_iff]
    constructor
    · intro h
      have hsame := Option.some.inj (hread.symm.trans h.reads)
      exact (TileRequest.tileSets.inj hsame).2
    · intro hcursor
      refine ⟨by rw [hread, hcursor]; rfl, fun limit' cursor' heq => ?_⟩
      obtain ⟨rfl, rfl⟩ := BackendEndpoint.tileSets.inj heq
      rw [paginationFromRawQuery, formUrlencoded_request, paginationParameters_pairs, hcursor]
      rfl
  | tileClasses =>
    have hpath : rawPath ((builder.request .tileClasses).target sets) =
        "/api/v1/tiles/classes" := rawPath_request sets builder .tileClasses
    have hroute : matchRoute "/api/v1/tiles/classes" = some (.tileClasses, []) := by decide
    refine iff_of_true ⟨?_, by simp⟩ trivial
    rw [readTileRequest, hpath, hroute, readRoute, BackendEndpoint.asRead]

/-! ## The characters of Foundation -/

def isAllowed (others : List Char) (b : UInt8) : Bool :=
  b.toNat < 128 && ((Char.ofNat b.toNat).isAlphanum || others.contains (Char.ofNat b.toNat))

theorem lt_of_isAllowed {others : List Char} {b : UInt8} (h : isAllowed others b = true) :
    b.toNat < 128 := by
  rw [isAllowed, Bool.and_eq_true] at h
  exact of_decide_eq_true h.1

/-- `urlPathAllowed`, and `urlQueryAllowed` without what separates the items. -/
def foundationSets : UrlCharacterSets where
  path := isAllowed "-._~!$&'()*+,;=:@/".toList
  query := {
    keep := isAllowed "-._~!$'()*+,;:@/?".toList
    percent := by decide
    ampersand := by decide
    plus := by decide }
  path_ascii _ h := lt_of_isAllowed h
  query_ascii _ h := lt_of_isAllowed h
  path_percent := by decide
  path_questionMark := by decide
  path_slash := by decide
  path_alphanumeric c hascii hc := by
    rw [isAllowed, toNat_asciiByte hascii, Char.ofNat_toNat, hc, decide_eq_true hascii]
    rfl

def replacingReader : LossyReader where
  read bytes := (decodeBytes bytes).getD "\uFFFD"
  read_asBytes text := by rw [decodeBytes_asBytes, Option.getD_some]

def hostRoot : BackendRequestBuilder where
  basePath := ""
  root := .inl rfl

/-- A tile set id with slashes is taken for the path of a tile, and a plus sign in a cursor for a
space. -/
theorem not_meansTheSame_slash_plus :
    ¬ MeansTheSame foundationSets replacingReader hostRoot (.manifest "viirs/2024/05") ∧
      ¬ MeansTheSame foundationSets replacingReader hostRoot (.tileSets none (some "a+b")) := by
  constructor
  · intro h
    have hplain := (readTileRequest_manifest foundationSets replacingReader hostRoot
      "viirs/2024/05").mp h.reads
    exact hplain.2 (by decide)
  · intro h
    have hread := readTileRequest_tileSets foundationSets replacingReader hostRoot none (some "a+b")
    have hsame := (TileRequest.tileSets.inj (Option.some.inj (hread.symm.trans h.reads))).2
    exact map_plusAsSpace_eq_iff.mp hsame "a+b" rfl (by decide)

end LumenHorizon.Client
