import LumenHorizon.Gateway.Handlers
import LumenHorizon.Processing.TileGeneration

/-! # Redirects to generated tiles

A redirect is answered for a coordinate that overlaps the bounds of the manifest, and those are
the bounds that the tiles were planned for. Its location is the template with the coordinate put
in.
-/

namespace LumenHorizon.Gateway
open Foundation Shared SlippyTiles Processing

/-- What the redirect reads of a manifest that was written by the generation. -/
def TileRedirectManifest.ofGenerated {K : Type} (manifest : TileSetManifest K) :
    TileRedirectManifest K where
  tileSetId := manifest.tileSetId
  minZoom := manifest.minZoom
  maxNativeZoom := manifest.maxNativeZoom
  maxDisplayZoom := manifest.maxDisplayZoom
  bounds := manifest.bounds
  tileUrlTemplate := manifest.tileUrlTemplate

theorem brace_notMem_toString (n : ℕ) : '\x7b' ∉ (toString n).toList :=
  Text.notMem_of_forall_isDigit (fun _ hd => Text.isDigit_of_mem_toString hd) (by decide)

theorem brace_notMem_of_accepted {tileSetId : String} (h : AcceptedTileSetId tileSetId) :
    '\x7b' ∉ tileSetId.toList := by
  intro hmem
  have hchar := List.all_eq_true.mp h.2.2.1 _ hmem
  exact absurd hchar (by decide)

theorem replaceText_placeholder {front pattern : String} {name : List Char}
    (hfront : '\x7b' ∉ front.toList) (hpattern : pattern.toList = '\x7b' :: name)
    (rest replacement : String) :
    replaceText (front ++ (pattern ++ rest)) pattern replacement =
      front ++ (replacement ++ replaceText rest pattern replacement) := by
  apply String.toList_injective
  simp only [replaceText, String.toList_append, String.toList_ofList, hpattern]
  rw [replaceChars_append_of_notMem hfront, replaceChars_pattern_append]

/-- The three placeholders of a template whose front has no brace. -/
theorem redirectUrl_template {front : String} (hfront : '\x7b' ∉ front.toList)
    (coord : TileCoord) :
    redirectUrl (front ++ "/\x7bz\x7d/\x7bx\x7d/\x7by\x7d.png") coord =
      front ++ ("/" ++ (toString coord.z ++ ("/" ++ (toString coord.x ++ ("/" ++
        (toString coord.y ++ ".png")))))) := by
  have hz : replaceText "/\x7bx\x7d/\x7by\x7d.png" "\x7bz\x7d" (toString coord.z) =
      "/\x7bx\x7d/\x7by\x7d.png" := rfl
  have hx : replaceText "/\x7by\x7d.png" "\x7bx\x7d" (toString coord.x) = "/\x7by\x7d.png" := rfl
  have hy : replaceText ".png" "\x7by\x7d" (toString coord.y) = ".png" := rfl
  have hslash : '\x7b' ∉ "/".toList := by decide
  have hz' : '\x7b' ∉ (front ++ "/").toList := by
    simp only [String.toList_append, List.mem_append, not_or]
    exact ⟨hfront, hslash⟩
  have hx' : '\x7b' ∉ (front ++ "/" ++ toString coord.z ++ "/").toList := by
    simp only [String.toList_append, List.mem_append, not_or] at hz' ⊢
    exact ⟨⟨hz', brace_notMem_toString _⟩, hslash⟩
  have hy' : '\x7b' ∉
      (front ++ "/" ++ toString coord.z ++ "/" ++ toString coord.x ++ "/").toList := by
    simp only [String.toList_append, List.mem_append, not_or] at hx' ⊢
    exact ⟨⟨hx', brace_notMem_toString _⟩, hslash⟩
  have htemplate : front ++ "/\x7bz\x7d/\x7bx\x7d/\x7by\x7d.png" =
      front ++ "/" ++ ("\x7bz\x7d" ++ "/\x7bx\x7d/\x7by\x7d.png") := by
    rw [String.append_assoc]
    rfl
  have htemplate' : front ++ "/" ++ (toString coord.z ++ "/\x7bx\x7d/\x7by\x7d.png") =
      front ++ "/" ++ toString coord.z ++ "/" ++ ("\x7bx\x7d" ++ "/\x7by\x7d.png") := by
    simp only [String.append_assoc]
    rfl
  have htemplate'' : front ++ "/" ++ toString coord.z ++ "/" ++ (toString coord.x ++ "/\x7by\x7d.png") =
      front ++ "/" ++ toString coord.z ++ "/" ++ toString coord.x ++ "/" ++
        ("\x7by\x7d" ++ ".png") := by
    simp only [String.append_assoc]
    rfl
  rw [redirectUrl, htemplate, replaceText_placeholder hz' rfl, hz, htemplate',
    replaceText_placeholder hx' rfl, hx, htemplate'', replaceText_placeholder hy' rfl, hy]
  simp only [String.append_assoc]

/-- The template of a generated manifest, at a coordinate: the path of the tile under the base. -/
theorem redirectUrl_ofGenerated {K : Type} {settings : TileSettings K} {tileSetId : String}
    {bounds : GeographicBounds K} {manifest : TileSetManifest K}
    (hmanifest : TileSetManifest.fromConfig settings tileSetId bounds = .ok manifest)
    (hbase : '\x7b' ∉ (trimEndChar '/' settings.tileCdnBaseUrl).toList)
    (hid : AcceptedTileSetId tileSetId) {coord : TileCoord} {path : String}
    (hpath : tileBlobPath tileSetId coord = .ok path) :
    redirectUrl manifest.tileUrlTemplate coord =
      trimEndChar '/' settings.tileCdnBaseUrl ++ "/" ++ path := by
  obtain ⟨-, rfl⟩ := TileSetManifest.fromConfig_eq_ok_iff.mp hmanifest
  have hfront : '\x7b' ∉
      (trimEndChar '/' settings.tileCdnBaseUrl ++ "/tiles/" ++ tileSetId).toList := by
    simp only [String.toList_append, List.mem_append, not_or]
    exact ⟨⟨hbase, by decide⟩, brace_notMem_of_accepted hid⟩
  have htiles : "/tiles/" = "/" ++ "tiles/" := rfl
  simp only [tileBlobPath, bind_eq_ok_iff] at hpath
  obtain ⟨_, -, _, -, hpath⟩ := hpath
  cases hpath
  rw [redirectUrl_template hfront, htiles]
  simp only [String.append_assoc]

section Runs

variable {K : Type} [Field K] [LinearOrder K] {P : LatitudeProjection K} {decoders : Decoders K}
  {state : AppState} {requestId : Uuid}

theorem status_tileMathErrorResponse (error : TileMathError) :
    (tileMathErrorResponse error).status = 400 := by
  cases error <;> rfl

/-- A redirect is within the zooms and the bounds of its manifest. -/
theorem redirectResponse_found {manifest : TileRedirectManifest K} {coord : TileCoord}
    (h : (redirectResponse P manifest coord requestId).status = 302) :
    manifest.minZoom ≤ coord.z ∧ coord.z ≤ manifest.maxNativeZoom ∧
      (∃ tile clipped, tileBounds P coord = .ok tile ∧
        clipBounds tile manifest.bounds = some clipped) ∧
      getHeader (redirectResponse P manifest coord requestId).headers "location" =
        some (redirectUrl manifest.tileUrlTemplate coord) := by
  unfold redirectResponse at h ⊢
  split_ifs at h ⊢ with hzoom
  · cases h
  split at h
  · next error herror =>
    have hstatus : (tileMathErrorResponse error).status = 302 := h
    rw [status_tileMathErrorResponse] at hstatus
    cases hstatus
  next bounds hbounds =>
  split at h
  · cases h
  next clipped hclip =>
  dsimp only at h ⊢
  split_ifs at h ⊢ with hheader
  · exact ⟨by omega, by omega, ⟨bounds, clipped, hbounds, hclip⟩, rfl⟩
  · cases h

theorem status_of_parsePart {max : ℕ} {part message : String} {error : GatewayError}
    (h : parsePart max part message = .error error) : error.status = 400 := by
  unfold parsePart at h
  split at h
  · cases h
    rfl
  · cases h

theorem status_of_parseTileCoord {z x tileFile : String} {error : GatewayError}
    (h : parseTileCoord z x tileFile = .error error) : error.status = 400 := by
  unfold parseTileCoord at h
  split at h
  · cases h
    rfl
  dsimp only at h
  split at h
  · cases h
    rfl
  simp only [bind_eq_error_iff] at h
  rcases h with h | ⟨z', -, h | ⟨x', -, h | ⟨y', -, h⟩⟩⟩
  · exact status_of_parsePart h
  · exact status_of_parsePart h
  · exact status_of_parsePart h
  split at h
  · cases h
    exact status_tileMathErrorResponse _
  · cases h

theorem manifestById_meets (tileSetId : String) :
    (manifestById tileSetId).Meets (fun _ _ => True) (fun t _ => t = [])
      (fun t outcome => match outcome with
        | .ok json => ∃ path, t = [⟨.readJsonBlob path, .ok json⟩]
        | .error _ => ∀ path json, ⟨.readJsonBlob path, .ok json⟩ ∉ t) [] := by
  unfold manifestById
  split
  · exact fun _ _ => List.not_mem_nil
  · next path _ =>
    refine Program.Meets.call rfl fun reply _ => ?_
    cases reply with
    | error error =>
      intro path json hmem
      cases List.mem_singleton.mp hmem
    | ok json => exact ⟨path, rfl⟩

/-- What a redirect is answered from: the coordinate and a manifest that was read. -/
structure RedirectSource (decoders : Decoders K) (z x tileFile : String) (t : GatewayHistory)
    (coord : TileCoord) (manifest : TileRedirectManifest K) : Prop where
  parsed : parseTileCoord z x tileFile = .ok coord
  read : ∃ path json, ⟨.readJsonBlob path, .ok json⟩ ∈ t ∧
    decoders.tileRedirectManifest json = some manifest

/-- A redirect is answered from its only source, or not at all. -/
theorem tileRedirect_meets (tileSetId z x tileFile : String) :
    (tileRedirect decoders state requestId P tileSetId z x tileFile).Meets (fun _ _ => True)
      (fun t _ => t = [])
      (fun t response =>
        (∃ coord manifest, RedirectSource decoders z x tileFile t coord manifest ∧
          (∀ coord' manifest', RedirectSource decoders z x tileFile t coord' manifest' →
            coord' = coord ∧ manifest' = manifest) ∧
          response = redirectResponse P manifest coord requestId) ∨
        (∀ coord manifest, ¬ RedirectSource decoders z x tileFile t coord manifest) ∧
          ∃ error : GatewayError, error.status ≠ 302 ∧ response = error.intoResponse requestId)
      [] := by
  have hnone {t : GatewayHistory} (ht : ∀ path json, ⟨.readJsonBlob path, .ok json⟩ ∉ t) :
      ∀ coord manifest, ¬ RedirectSource decoders z x tileFile t coord manifest := by
    rintro coord manifest ⟨-, path, json, hmem, -⟩
    exact ht path json hmem
  unfold tileRedirect
  split
  · exact .inr ⟨hnone fun _ _ => List.not_mem_nil, _, by decide, rfl⟩
  cases hparse : parseTileCoord z x tileFile with
  | error error =>
    have hstatus : error.status ≠ 302 := by
      rw [status_of_parseTileCoord hparse]
      decide
    exact .inr ⟨hnone fun _ _ => List.not_mem_nil, error, hstatus, rfl⟩
  | ok coord =>
    dsimp only
    split
    · refine Program.Meets.bind (manifestById_meets tileSetId) fun t outcome hread => ?_
      cases outcome with
      | error error =>
        refine .inr ⟨hnone hread, _, ?_, rfl⟩
        split_ifs <;> decide
      | ok json =>
        obtain ⟨path, rfl⟩ := hread
        dsimp only
        cases hmanifest : decoders.tileRedirectManifest json with
        | none =>
          refine .inr ⟨?_, _, by decide, rfl⟩
          rintro coord' manifest' ⟨-, path', json', hmem, hdecoded⟩
          cases List.mem_singleton.mp hmem
          cases hmanifest.symm.trans hdecoded
        | some manifest =>
          refine .inl ⟨coord, manifest, ⟨hparse, path, json, List.mem_singleton_self _, hmanifest⟩,
            ?_, rfl⟩
          rintro coord' manifest' ⟨hparse', path', json', hmem, hdecoded⟩
          cases List.mem_singleton.mp hmem
          cases hmanifest.symm.trans hdecoded
          cases hparse.symm.trans hparse'
          exact ⟨rfl, rfl⟩
    · exact .inr ⟨hnone fun _ _ => List.not_mem_nil, _, by decide, rfl⟩

variable {V : Type} [FloorRing K] [IsStrictOrderedRing K] {science : SampleScience K V}
  {granule : GranuleRasters V} {settings : TileSettings K} {tileSetId : String}
  {source : GeographicBounds K} {rasterShape : RasterShape} {tileSet : GeneratedTileSet K}

/-- A redirect with the manifest of a generated tile set is to a coordinate of its plan. -/
theorem mem_coords_of_redirectResponse {tileH tileV : ℤ}
    (hsource : viirsTileBounds tileH tileV = .ok source)
    (hgenerated : generateTileSet P science granule settings tileSetId source rasterShape =
      .ok tileSet) {coord : TileCoord}
    (hfound : (redirectResponse P (.ofGenerated tileSet.manifest) coord requestId).status = 302) :
    coord ∈ tileSet.plan.coords := by
  obtain ⟨generationBounds, hclip, hplan, -, hmanifest⟩ := generateTileSet_eq_ok hgenerated
  obtain ⟨-, hfields⟩ := TileSetManifest.fromConfig_eq_ok_iff.mp hmanifest
  obtain ⟨hmin, hmax, ⟨tile, clipped, htile, hclipped⟩, -⟩ := redirectResponse_found hfound
  simp only [TileRedirectManifest.ofGenerated, hfields] at hmin hmax hclipped
  have hbounds := validateBounds_of_clip (viirsTileBounds_sourceBox hsource) hclip
  obtain ⟨-, -, -, -, hwe, hsn⟩ := (validateBounds_eq_ok_iff _).mp hbounds
  obtain ⟨-, hwe', hsn'⟩ := tileBounds_nonempty htile
  have hoverlaps := (clipBounds_isSome_iff hwe' hsn' hwe hsn).mp ⟨clipped, hclipped⟩
  exact mem_coords_of_overlaps hbounds settings.zooms.native_le hplan hmin hmax htile hoverlaps

/-- A redirect answered with the manifest of a generated and published tile set is to one of its
planned tiles, which was uploaded, and names its path under the configured base. -/
theorem redirect_sound {tileH tileV : ℤ} (hsource : viirsTileBounds tileH tileV = .ok source)
    {cdnBaseUrl : Option String} (hbase : settings.tileCdnBaseUrl = tileCdnBaseUrl cdnBaseUrl)
    (hgenerated : generateTileSet P science granule settings tileSetId source rasterShape =
      .ok tileSet)
    {manifest : TileManifest} (hid : manifest.tileSetId = tileSetId) {promotedAt : ℕ}
    {uploads : Transcript ProcessingCall ProcessingCall.Reply} {pointer : LatestManifestPointer}
    (hpublished : (publishTileSet manifest tileSet.tiles promotedAt).Follows uploads
      (.done (.ok pointer)))
    {requested z x tileFile : String} {t : GatewayHistory} {response : Response}
    (hrun : (tileRedirect decoders state requestId P requested z x tileFile).Follows t
      (.done response))
    (hread : ∀ path json, ⟨.readJsonBlob path, .ok json⟩ ∈ t →
      decoders.tileRedirectManifest json = some (.ofGenerated tileSet.manifest))
    (hfound : response.status = 302) :
    ∃ coord path, parseTileCoord z x tileFile = .ok coord ∧ coord ∈ tileSet.plan.coords ∧
      tileBlobPath tileSetId coord = .ok path ∧
      ⟨.uploadProcessedBlob path .tile, .ok ()⟩ ∈ uploads ∧
      ('\x7b' ∉ settings.tileCdnBaseUrl.toList → '\x7d' ∉ settings.tileCdnBaseUrl.toList →
        AcceptedTileSetId tileSetId →
        getHeader response.headers "location" = some (settings.tileCdnBaseUrl ++ "/" ++ path)) := by
  rcases Program.Meets.of_follows (tileRedirect_meets requested z x tileFile) hrun
    (fun _ _ => trivial) with ⟨coord, read, ⟨hparse, blobPath, json, hmem, hdecoded⟩, -, rfl⟩ |
    ⟨-, error, hstatus, rfl⟩
  · rw [List.append_nil] at hmem
    cases (hread blobPath json hmem).symm.trans hdecoded
    have hplanned := mem_coords_of_redirectResponse hsource hgenerated hfound
    obtain ⟨generationBounds, -, -, htiles, hmanifest⟩ := generateTileSet_eq_ok hgenerated
    obtain ⟨tile, htile, rfl⟩ := exists_tile_of_mem_coords htiles hplanned
    obtain ⟨path, hpath, hupload⟩ := publishTileSet_follows_ok hpublished tile htile
    rw [hid] at hpath
    refine ⟨tile.coord, path, hparse, hplanned, hpath, hupload, fun hbrace _ haccepted => ?_⟩
    have htrimmed : trimEndChar '/' settings.tileCdnBaseUrl = settings.tileCdnBaseUrl := by
      rw [hbase, tileCdnBaseUrl, trimEndChar_trimEndChar]
    have hbrace : '\x7b' ∉ (trimEndChar '/' settings.tileCdnBaseUrl).toList := by
      rw [htrimmed]
      exact hbrace
    obtain ⟨-, -, -, hlocation⟩ := redirectResponse_found hfound
    have hurl := redirectUrl_ofGenerated hmanifest hbrace haccepted hpath
    rw [htrimmed] at hurl
    rw [hlocation, ← hurl]
    rfl
  · exact absurd hfound hstatus

end Runs

deriving instance DecidableEq for ProcessingCall

def sampleTileSettings : TileSettings ℚ where
  zooms := ⟨3, 3, 3, le_rfl, le_rfl, by decide⟩
  tileSize := 1
  tileBounds := defaultTileBounds
  tileCdnBaseUrl := tileCdnBaseUrl none

def sampleScience : SampleScience ℚ ℕ where
  classify _ _ _ _ := .ok true
  classColor _ := .ok none

def sampleRasters : GranuleRasters ℕ where
  radiance _ _ := 0
  quality _ _ := 0
  cloud := none
  observationCount := none

/-- Tile h07v04, of which one column and two rows are planned at zoom 3. -/
def sampleTileSet : GeneratedTileSet ℚ where
  plan := { ranges := [⟨3, 1, 1, 1, 2⟩], tileCount := 2 }
  tiles := [⟨⟨3, 1, 1⟩, [⟨0, 0, 0, 0⟩]⟩, ⟨⟨3, 1, 2⟩, [⟨0, 0, 0, 0⟩]⟩]
  manifest := {
    tileSetId := "sample"
    minZoom := 3
    maxNativeZoom := 3
    maxDisplayZoom := 3
    bounds := ⟨-110, 40, -100, 50⟩
    tileUrlTemplate :=
      "https://tiles.lumenhorizon.com/tiles/sample/\x7bz\x7d/\x7bx\x7d/\x7by\x7d.png" }

def publishedSample : TileManifest where
  tileSetId := "sample"
  classificationVersion := "radiance-dark-sky-v1"
  tileCount := 2
  sourceGranules := []
  manifestSha256 := ""

def samplePointer : LatestManifestPointer := ⟨"sample", "manifests/sample.json", "", 0⟩

/-- The calls of the publication, the first one first. -/
def sampleUploads : List (Σ c : ProcessingCall, c.Reply) :=
  [⟨.uploadProcessedBlob "tiles/sample/3/1/1.png" .tile, .ok ()⟩,
    ⟨.uploadProcessedBlob "tiles/sample/3/1/2.png" .tile, .ok ()⟩,
    ⟨.uploadProcessedBlob "manifests/sample.json" (.manifest publishedSample), .ok ()⟩,
    ⟨.insertTileSet publishedSample, .ok ()⟩, ⟨.promoteLatestTileSet "sample", .ok ()⟩,
    ⟨.uploadProcessedBlob "manifests/latest.json" (.latestPointer samplePointer), .ok ()⟩]

def sampleRead : List (Σ c : GatewayCall, c.Reply) :=
  [⟨.readJsonBlob "manifests/sample.json", .ok "manifest"⟩]

def sampleRedirect : Response where
  status := 302
  headers := [("location", "https://tiles.lumenhorizon.com/tiles/sample/3/1/2.png"),
    ("cache-control", immutableCacheControl)]
  body := .empty

theorem redirect_sound_sample :
    ∃ coord path, parseTileCoord "3" "1" "2.png" = .ok coord ∧
      coord ∈ sampleTileSet.plan.coords ∧ tileBlobPath "sample" coord = .ok path ∧
      ⟨.uploadProcessedBlob path .tile, .ok ()⟩ ∈ sampleUploads.reverse ∧
      ('\x7b' ∉ (tileCdnBaseUrl none).toList → '\x7d' ∉ (tileCdnBaseUrl none).toList →
        AcceptedTileSetId "sample" → getHeader sampleRedirect.headers "location" =
          some (tileCdnBaseUrl none ++ "/" ++ path)) := by
  have hsource : viirsTileBounds 7 4 = .ok (⟨-110, 40, -100, 50⟩ : GeographicBounds ℚ) := by
    decide +kernel
  have hgenerated : generateTileSet linearProjection sampleScience sampleRasters sampleTileSettings
      "sample" ⟨-110, 40, -100, 50⟩ ⟨2400, 2400⟩ = .ok sampleTileSet := by
    decide +kernel
  have hpublished : (publishTileSet publishedSample sampleTileSet.tiles 0).Follows
      sampleUploads.reverse (.done (.ok samplePointer)) :=
    Program.follows_of_replay (by decide +kernel)
  have hrun : (tileRedirect (sampleDecoders (.ofGenerated sampleTileSet.manifest)) sampleState 0
      linearProjection "sample" "3" "1" "2.png").Follows sampleRead.reverse
      (.done sampleRedirect) := Program.follows_of_replay (by decide +kernel)
  refine redirect_sound hsource rfl hgenerated rfl hpublished hrun ?_ rfl
  intro path json hmem
  cases List.mem_singleton.mp hmem
  rfl

end LumenHorizon.Gateway
