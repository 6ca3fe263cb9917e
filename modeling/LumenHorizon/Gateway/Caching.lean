import LumenHorizon.Gateway.Gates

/-! # What is cached for a year

A redirect brings its own header. Every other response under a path with `/manifest/` in it gets
the same one from the outer middleware, whatever its status is.
-/

namespace LumenHorizon.Gateway
open Foundation Shared SlippyTiles

/-! ## Cache headers -/

/-- The directives of a `cache-control` header, in lower case. -/
def directives (value : String) : List String :=
  (value.toList.splitOn ',').map fun directive =>
    String.ofList
      ((((directive.dropWhile isWhitespace).reverse.dropWhile isWhitespace).reverse).map
        Char.toLower)

/-- The value lets a response be kept for a year without asking again. -/
def YearLong (value : String) : Prop :=
  "immutable" ∈ directives value ∧ "max-age=31536000" ∈ directives value

instance (value : String) : Decidable (YearLong value) := inferInstanceAs (Decidable (_ ∧ _))

def KeptForAYear (response : Response) : Prop :=
  ∃ value, response.cacheControl = some value ∧ YearLong value

instance (response : Response) : Decidable (KeptForAYear response) :=
  inferInstanceAs (Decidable (∃ value ∈ response.cacheControl, YearLong value))

theorem yearLong_immutableCacheControl : YearLong immutableCacheControl := by decide +kernel

theorem keptForAYear_of_some {response : Response} {value : String}
    (h : response.cacheControl = some value) : KeptForAYear response ↔ YearLong value := by
  constructor
  · rintro ⟨value', hvalue, hyear⟩
    cases h.symm.trans hvalue
    exact hyear
  · exact fun hyear => ⟨value, h, hyear⟩

theorem not_keptForAYear_of_none {response : Response} (h : response.cacheControl = none) :
    ¬ KeptForAYear response := by
  rintro ⟨value, hvalue, -⟩
  cases h.symm.trans hvalue

/-- The header of the outer middleware, or the one that the response came with. -/
theorem cacheControl_withStandardHeaders (requestId : Uuid) (request : Request)
    (response : Response) :
    (response.withStandardHeaders requestId request).cacheControl =
      if startsWith request.path adminPrefix then some "no-store"
      else if containsText request.path "/manifest/" then some immutableCacheControl
      else response.cacheControl := by
  unfold Response.cacheControl Response.withStandardHeaders applyStandardHeaders
  dsimp only
  split_ifs
  · exact getHeader_insertHeader_self _ _ _
  · exact getHeader_insertHeader_self _ _ _
  · simp only [getHeader_insertHeader_of_ne _ _ (show "cache-control" ≠ "permissions-policy" by decide),
      getHeader_insertHeader_of_ne _ _ (show "cache-control" ≠ "referrer-policy" by decide),
      getHeader_insertHeader_of_ne _ _ (show "cache-control" ≠ "x-frame-options" by decide),
      getHeader_insertHeader_of_ne _ _ (show "cache-control" ≠ "x-content-type-options" by decide),
      getHeader_insertHeader_of_ne _ _ (show "cache-control" ≠ "x-request-id" by decide)]

@[simp] theorem cacheControl_successResponse (status : ℕ) (data : Payload) (requestId : Uuid)
    (nextCursor : Option String) :
    (successResponse status [] data requestId nextCursor).cacheControl = none := rfl

@[simp] theorem cacheControl_pagedResponse (rows : List Json) (pagination : Pagination)
    (requestId : Uuid) : (pagedResponse rows pagination requestId).cacheControl = none := by
  unfold pagedResponse
  split_ifs <;> rfl

/-! ## What the storage has answered -/

variable {K : Type} (decoders : Decoders K) (state : AppState) (request : Request)

def ManifestRead (t : GatewayHistory) : Prop :=
  ∃ blobPath json, ⟨.readJsonBlob blobPath, .ok json⟩ ∈ t

/-- The storage has answered with the manifest that the moving pointer names. -/
def LatestRead (t : GatewayHistory) : Prop :=
  ∃ blobPath json, blobPath ≠ latestManifestBlobPath ∧ ⟨.readJsonBlob blobPath, .ok json⟩ ∈ t

/-- The request is routed to the handler with these decoded parameters. -/
def RoutedTo (handler : Handler) (params : List String) : Prop :=
  ∃ raw, matchRoute request.path = some (handler, raw) ∧
    raw.mapM decoders.pathParameter = some params

/-- The manifest covers the coordinate and has a location for it. -/
structure Redirectable [Field K] [LinearOrder K] (P : LatitudeProjection K)
    (manifest : TileRedirectManifest K) (coord : TileCoord) : Prop where
  minZoom : manifest.minZoom ≤ coord.z
  maxZoom : coord.z ≤ manifest.maxNativeZoom
  overlaps : ∃ tile clipped, tileBounds P coord = .ok tile ∧
    clipBounds tile manifest.bounds = some clipped
  location : isHeaderValue (redirectUrl manifest.tileUrlTemplate coord) = true

/-- The storage has answered with a manifest that has a tile for the requested coordinate. -/
def RedirectRead [Field K] [LinearOrder K] (P : LatitudeProjection K) (t : GatewayHistory) : Prop :=
  ∃ tileSetId z x tileFile coord manifest,
    RoutedTo decoders request .tileRedirect [tileSetId, z, x, tileFile] ∧
      RedirectSource decoders z x tileFile t coord manifest ∧ Redirectable P manifest coord

theorem redirectResponse_found_iff [Field K] [LinearOrder K] {P : LatitudeProjection K}
    {manifest : TileRedirectManifest K} {coord : TileCoord} {requestId : Uuid} :
    (redirectResponse P manifest coord requestId).status = 302 ↔ Redirectable P manifest coord := by
  constructor
  · intro h
    obtain ⟨hmin, hmax, hoverlaps, -⟩ := redirectResponse_found h
    refine ⟨hmin, hmax, hoverlaps, ?_⟩
    obtain ⟨tile, clipped, htile, hclipped⟩ := hoverlaps
    by_contra hlocation
    rw [redirectResponse, if_neg (by omega), htile] at h
    simp only [hclipped] at h
    rw [if_neg hlocation] at h
    cases h
  · rintro ⟨hmin, hmax, ⟨tile, clipped, htile, hclipped⟩, hlocation⟩
    rw [redirectResponse, if_neg (by omega), htile]
    simp only [hclipped]
    rw [if_pos hlocation]

/-- Only a redirect that is found has a header of its own. -/
theorem cacheControl_redirectResponse [Field K] [LinearOrder K] {P : LatitudeProjection K}
    {manifest : TileRedirectManifest K} {coord : TileCoord} {requestId : Uuid}
    (h : (redirectResponse P manifest coord requestId).cacheControl ≠ none) :
    (redirectResponse P manifest coord requestId).status = 302 := by
  unfold redirectResponse at h ⊢
  split_ifs at h ⊢
  · exact absurd (GatewayError.cacheControl_intoResponse _ _) h
  split at h
  · exact absurd (GatewayError.cacheControl_intoResponse _ _) h
  split at h
  · exact absurd (GatewayError.cacheControl_intoResponse _ _) h
  dsimp only at h ⊢
  split_ifs at h ⊢
  · rfl
  · exact absurd (GatewayError.cacheControl_intoResponse _ _) h

/-! ## What a handler answers -/

def NoReads (t : GatewayHistory) : Prop := ∀ entry ∈ t, ∀ blobPath, entry.1 ≠ .readJsonBlob blobPath

theorem noReads_nil : NoReads [] := fun _ h => absurd h List.not_mem_nil

/-- Before the read that decides what the handler answers. -/
def Unread (handler : Handler) (t : GatewayHistory) : Prop :=
  match handler with
  | .tileManifestById | .tileRedirect => ¬ ManifestRead t
  | .latestTileManifest => ¬ LatestRead t
  | _ => True

/-- How the status and the header of an answer follow from what was read. -/
def AnswersAs [Field K] [LinearOrder K] (P : LatitudeProjection K) (handler : Handler)
    (t : GatewayHistory) (response : Response) : Prop :=
  match handler with
  | .tileManifestById => response.cacheControl = none ∧ (response.status = 200 ↔ ManifestRead t)
  | .tileRedirect => (response.cacheControl ≠ none → response.status = 302) ∧
      (response.status = 302 ↔ RedirectRead decoders request P t)
  | .latestTileManifest =>
      KeptForAYear response ↔ LatestRead t ∧ YearLong (latestCacheControl state)
  | _ => response.cacheControl = none

variable {decoders state request}

theorem ManifestRead.of_latestRead {t : GatewayHistory} (h : LatestRead t) : ManifestRead t := by
  obtain ⟨blobPath, json, -, hmem⟩ := h
  exact ⟨blobPath, json, hmem⟩

theorem ManifestRead.of_redirectRead [Field K] [LinearOrder K] {P : LatitudeProjection K}
    {t : GatewayHistory} (h : RedirectRead decoders request P t) : ManifestRead t := by
  obtain ⟨-, z, x, tileFile, coord, manifest, -, ⟨-, blobPath, json, hmem, -⟩, -⟩ := h
  exact ⟨blobPath, json, hmem⟩

theorem NoReads.not_manifestRead {t : GatewayHistory} (h : NoReads t) : ¬ ManifestRead t := by
  rintro ⟨blobPath, json, hmem⟩
  exact h _ hmem blobPath rfl

theorem NoReads.unread {t : GatewayHistory} (h : NoReads t) (handler : Handler) :
    Unread handler t := by
  cases handler <;>
    first
    | exact h.not_manifestRead
    | exact fun hlatest => h.not_manifestRead (.of_latestRead hlatest)
    | trivial

theorem NoReads.mem_append_iff {t t₀ : GatewayHistory} (h : NoReads t₀) {blobPath : String}
    {reply : Except StorageError Json} :
    ⟨.readJsonBlob blobPath, reply⟩ ∈ t ++ t₀ ↔ ⟨.readJsonBlob blobPath, reply⟩ ∈ t := by
  rw [List.mem_append, or_iff_left]
  exact fun hmem => h _ hmem blobPath rfl

theorem NoReads.manifestRead_append {t t₀ : GatewayHistory} (h : NoReads t₀) :
    ManifestRead (t ++ t₀) ↔ ManifestRead t := by
  simp only [ManifestRead, h.mem_append_iff]

theorem NoReads.latestRead_append {t t₀ : GatewayHistory} (h : NoReads t₀) :
    LatestRead (t ++ t₀) ↔ LatestRead t := by
  simp only [LatestRead, h.mem_append_iff]

theorem NoReads.redirectSource_append {t t₀ : GatewayHistory} (h : NoReads t₀)
    {z x tileFile : String} {coord : TileCoord} {manifest : TileRedirectManifest K} :
    RedirectSource decoders z x tileFile (t ++ t₀) coord manifest ↔
      RedirectSource decoders z x tileFile t coord manifest := by
  constructor
  · rintro ⟨hparse, path, json, hmem, hdecoded⟩
    exact ⟨hparse, path, json, h.mem_append_iff.mp hmem, hdecoded⟩
  · rintro ⟨hparse, path, json, hmem, hdecoded⟩
    exact ⟨hparse, path, json, h.mem_append_iff.mpr hmem, hdecoded⟩

/-- An error of any kind is answered before the deciding read. -/
theorem Unread.answersAs [Field K] [LinearOrder K] {P : LatitudeProjection K} {handler : Handler}
    {t : GatewayHistory} {response : Response} (hunread : Unread handler t)
    (hcache : response.cacheControl = none) (h200 : response.status ≠ 200)
    (h302 : response.status ≠ 302) : AnswersAs decoders state request P handler t response := by
  have hkept := not_keptForAYear_of_none hcache
  cases handler with
  | tileManifestById => exact ⟨hcache, iff_of_false h200 hunread⟩
  | tileRedirect =>
    exact ⟨fun h => absurd hcache h, iff_of_false h302 fun h => hunread (.of_redirectRead h)⟩
  | latestTileManifest => exact iff_of_false hkept fun h => hunread h.1
  | _ => exact hcache

theorem status_manifestStorageErrorResponse (requestId : Uuid) (error : StorageError)
    (latest : Bool) : (manifestStorageErrorResponse requestId error latest).status ≠ 200 := by
  rw [manifestStorageErrorResponse, GatewayError.status_intoResponse]
  split_ifs <;> decide

theorem tileManifestById_meets (requestId : Uuid) (tileSetId : String) :
    (tileManifestById state requestId tileSetId).Meets (fun _ _ => True) (fun t _ => t = [])
      (fun t response => response.cacheControl = none ∧ (response.status = 200 ↔ ManifestRead t))
      [] := by
  unfold tileManifestById
  split
  · refine ⟨GatewayError.cacheControl_intoResponse _ _, iff_of_false ?_ noReads_nil.not_manifestRead⟩
    simp [GatewayError.invalidRequest]
  split
  · apply Program.Meets.bind (manifestById_meets tileSetId)
    intro t outcome hread
    cases outcome with
    | error error =>
      refine ⟨GatewayError.cacheControl_intoResponse _ _,
        iff_of_false (status_manifestStorageErrorResponse _ _ _) ?_⟩
      rintro ⟨blobPath, json, hmem⟩
      exact hread blobPath json hmem
    | ok json =>
      obtain ⟨path, rfl⟩ := hread
      exact ⟨rfl, iff_of_true rfl ⟨path, json, List.mem_singleton_self _⟩⟩
  · refine ⟨GatewayError.cacheControl_intoResponse _ _, iff_of_false ?_ noReads_nil.not_manifestRead⟩
    simp [GatewayError.serviceUnavailable]

theorem not_latestRead_pointer (reply : Except StorageError Json) :
    ¬ LatestRead [⟨.readJsonBlob latestManifestBlobPath, reply⟩] := by
  rintro ⟨blobPath, json, hne, hmem⟩
  cases List.mem_singleton.mp hmem
  exact hne rfl

theorem latestManifest_meets (decoders : Decoders K) :
    (latestManifest decoders).Meets (fun _ _ => True) (fun t _ => ¬ LatestRead t)
      (fun t outcome => LatestRead t ↔ ∃ json, outcome = .ok json) [] := by
  apply Program.Meets.request_bind (fun h => noReads_nil.not_manifestRead (.of_latestRead h))
  intro reply _
  have hpointer := not_latestRead_pointer reply
  cases reply with
  | error error => exact iff_of_false hpointer (by rintro ⟨json, h⟩; cases h)
  | ok value =>
    dsimp only
    split
    · exact iff_of_false hpointer (by rintro ⟨json, h⟩; cases h)
    split
    · exact iff_of_false hpointer (by rintro ⟨json, h⟩; cases h)
    next blobPath _ _ hvalid =>
    have hne := ((validateManifestBlobPath_eq_ok_iff blobPath).mp hvalid).2.2.1
    apply Program.Meets.call hpointer
    intro reply' _
    cases reply' with
    | error error =>
      refine iff_of_false ?_ (by rintro ⟨json, h⟩; cases h)
      rintro ⟨blobPath', json, hne', hmem⟩
      rcases List.mem_cons.mp hmem with h | h
      · cases h
      · exact hpointer ⟨blobPath', json, hne', h⟩
    | ok json => exact iff_of_true ⟨blobPath, json, hne, List.mem_cons_self⟩ ⟨json, rfl⟩

theorem latestTileManifest_meets (requestId : Uuid) :
    (latestTileManifest decoders state requestId).Meets (fun _ _ => True) (fun t _ => ¬ LatestRead t)
      (fun t response =>
        KeptForAYear response ↔ LatestRead t ∧ YearLong (latestCacheControl state)) [] := by
  have herror (error : GatewayError) : ¬ KeptForAYear (error.intoResponse requestId) :=
    not_keptForAYear_of_none (GatewayError.cacheControl_intoResponse _ _)
  unfold latestTileManifest
  split
  · apply Program.Meets.bind (latestManifest_meets decoders)
    intro t outcome hread
    cases outcome with
    | error error =>
      refine iff_of_false (herror _) fun h => ?_
      obtain ⟨json, hok⟩ := hread.mp h.1
      cases hok
    | ok json =>
      have hlatest : LatestRead t := hread.mpr ⟨json, rfl⟩
      dsimp only
      rw [Program.pure_eq_done, Program.meets_done]
      rw [keptForAYear_of_some rfl]
      exact (and_iff_right hlatest).symm
  · refine iff_of_false (herror _) ?_
    rintro ⟨⟨blobPath, json, -, hmem⟩, -⟩
    cases hmem

/-- An answer without a header of its own, after whatever calls. -/
abbrev Plain (p : GatewayProgram Response) : Prop :=
  ∀ t, p.Meets (fun _ _ => True) (fun _ _ => True) (fun _ response => response.cacheControl = none) t

theorem plain_listRows (requestId : Uuid) (query : Option String)
    (list : ℕ → ℕ → GatewayProgram (Except DbError (List Json))) (failed : String) :
    Plain (listRows decoders state requestId query list failed) := by
  intro t
  unfold listRows
  split
  · exact GatewayError.cacheControl_intoResponse _ _
  split
  · apply Program.Meets.bind (Program.meets_true _ t)
    intro t' outcome _
    cases outcome with
    | ok rows => exact cacheControl_pagedResponse _ _ _
    | error error => exact GatewayError.cacheControl_intoResponse _ _
  · exact GatewayError.cacheControl_intoResponse _ _

theorem plain_siteDetail (requestId : Uuid) (siteId : String) :
    Plain (siteDetail decoders requestId siteId) := by
  intro t
  unfold siteDetail
  split <;> exact GatewayError.cacheControl_intoResponse _ _

theorem plain_siteScore (requestId : Uuid) (siteId : String) :
    Plain (siteScore decoders requestId siteId) := by
  intro t
  unfold siteScore
  split <;> exact GatewayError.cacheControl_intoResponse _ _

theorem RoutedTo.unique {handler : Handler} {params params' : List String}
    (h : RoutedTo decoders request handler params) (h' : RoutedTo decoders request handler params') :
    params = params' := by
  obtain ⟨raw, hroute, hparams⟩ := h
  obtain ⟨raw', hroute', hparams'⟩ := h'
  cases hroute.symm.trans hroute'
  exact Option.some.inj (hparams.symm.trans hparams')

section Handlers

variable [Field K] [LinearOrder K] (P : LatitudeProjection K)

theorem plain_searchSites (requestId : Uuid) (query : Option String) :
    Plain (searchSites decoders requestId query) := by
  intro t
  unfold searchSites
  split <;> exact GatewayError.cacheControl_intoResponse _ _

theorem tileRedirect_answers (requestId : Uuid) {tileSetId z x tileFile : String}
    {t₀ : GatewayHistory} (ht₀ : NoReads t₀)
    (hroute : RoutedTo decoders request .tileRedirect [tileSetId, z, x, tileFile]) :
    (tileRedirect decoders state requestId P tileSetId z x tileFile).Meets (fun _ _ => True)
      (fun t c => c.waits = true → Unread .tileRedirect t)
      (AnswersAs decoders state request P .tileRedirect) t₀ := by
  apply ((tileRedirect_meets tileSetId z x tileFile).frame t₀).mono
  · rintro t c ⟨_, rfl, rfl⟩ -
    exact ht₀.not_manifestRead
  · rintro _ response ⟨t, rfl, ⟨coord, manifest, hsource, hunique, rfl⟩ | ⟨hnone, error, hstatus, rfl⟩⟩
    · refine ⟨cacheControl_redirectResponse, redirectResponse_found_iff.trans ⟨fun h => ?_, ?_⟩⟩
      · exact ⟨_, _, _, _, coord, manifest, hroute, ht₀.redirectSource_append.mpr hsource, h⟩
      · rintro ⟨_, _, _, _, coord', manifest', hroute', hsource', h⟩
        cases hroute.unique hroute'
        obtain ⟨rfl, rfl⟩ := hunique _ _ (ht₀.redirectSource_append.mp hsource')
        exact h
    · refine ⟨fun h => absurd (GatewayError.cacheControl_intoResponse _ _) h, iff_of_false hstatus ?_⟩
      rintro ⟨_, _, _, _, coord', manifest', hroute', hsource', -⟩
      cases hroute.unique hroute'
      exact hnone _ _ (ht₀.redirectSource_append.mp hsource')

theorem publicHandler_answers (requestId : Uuid) {handler : Handler} {params : List String}
    {t₀ : GatewayHistory} (ht₀ : NoReads t₀) (hroute : RoutedTo decoders request handler params) :
    (publicHandler P decoders state requestId request handler params).Meets (fun _ _ => True)
      (fun t c => c.waits = true → Unread handler t)
      (AnswersAs decoders state request P handler) t₀ := by
  apply Program.Meets.request_bind (fun _ => ht₀.unread handler)
  intro _ _
  have ht : NoReads (⟨.runHandler handler [], ()⟩ :: t₀) := by
    intro entry hentry blobPath heq
    rcases List.mem_cons.mp hentry with rfl | hentry
    · cases heq
    · exact ht₀ entry hentry blobPath heq
  split
  · exact rfl
  · apply Program.Meets.request_bind (fun _ => trivial)
    intro ready _
    cases ready <;> exact rfl
  · apply ((latestTileManifest_meets requestId).frame _).mono
    · rintro _ c ⟨t, rfl, hlatest⟩ -
      exact ht.latestRead_append.not.mpr hlatest
    · rintro _ response ⟨t, rfl, hkept⟩
      exact hkept.trans (and_congr_left' ht.latestRead_append.symm)
  · apply ((tileManifestById_meets requestId _).frame _).mono
    · rintro _ c ⟨_, rfl, rfl⟩ -
      exact ht.not_manifestRead
    · rintro _ response ⟨t, rfl, hcache, hstatus⟩
      exact ⟨hcache, hstatus.trans ht.manifestRead_append.symm⟩
  · exact (plain_listRows requestId _ _ _ _).mono (fun _ _ _ _ => trivial) fun _ _ h => h
  · exact rfl
  · exact tileRedirect_answers P requestId ht hroute
  · exact (plain_searchSites requestId _ _).mono (fun _ _ _ _ => trivial) fun _ _ h => h
  · exact (plain_siteDetail requestId _ _).mono (fun _ _ _ _ => trivial) fun _ _ h => h
  · exact (plain_siteScore requestId _ _).mono (fun _ _ _ _ => trivial) fun _ _ h => h
  · exact (ht.unread handler).answersAs (GatewayError.cacheControl_intoResponse _ _)
      (by simp [notFound, GatewayError.notFound]) (by simp [notFound, GatewayError.notFound])

theorem Passed.noReads {t : GatewayHistory} (h : Passed state request t) : NoReads t := by
  intro entry hentry blobPath heq
  have hcheck := h.2
  split at hcheck
  · rw [hcheck] at hentry
    cases hentry
  · obtain ⟨snapshot, -, rfl⟩ := hcheck
    rw [List.mem_singleton.mp hentry] at heq
    cases heq

theorem OnlyChecks.noReads {t : GatewayHistory} (h : OnlyChecks t) : NoReads t := by
  intro entry hentry blobPath heq
  obtain ⟨key, window, hcheck⟩ := h entry hentry
  cases hcheck.symm.trans heq

theorem route_unmatched (requestId : Uuid) (hroute : matchRoute request.path = none)
    (t : GatewayHistory) :
    (route P decoders state requestId request).Meets (fun _ _ => True) (fun _ _ => True)
      (fun _ response => response.cacheControl = none) t := by
  unfold route
  rw [hroute]
  exact GatewayError.cacheControl_intoResponse _ _

theorem route_answers (requestId : Uuid) {handler : Handler} {params : List String}
    {t : GatewayHistory} (ht : NoReads t)
    (hroute : matchRoute request.path = some (handler, params)) (hadmin : handler.isAdmin = false) :
    (route P decoders state requestId request).Meets (fun _ _ => True)
      (fun t c => c.waits = true → Unread handler t)
      (AnswersAs decoders state request P handler) t := by
  have hrefused (response : Response) (hcache : response.cacheControl = none)
      (h200 : response.status ≠ 200) (h302 : response.status ≠ 302) :
      AnswersAs decoders state request P handler t response :=
    (ht.unread handler).answersAs hcache h200 h302
  unfold route dispatch
  rw [hroute]
  dsimp only
  rw [hadmin, if_neg Bool.false_ne_true]
  split
  · split
    · next decoded hdecoded =>
      exact publicHandler_answers P requestId ht ⟨params, hroute, hdecoded⟩
    · exact hrefused _ rfl (by simp [undecodableParameter, rejection])
        (by simp [undecodableParameter, rejection])
  · exact hrefused _ rfl (by simp [methodNotAllowed]) (by simp [methodNotAllowed])

end Handlers

/-! ## What is sent -/

/-- The request is for a manifest by its id and succeeds, or for a tile and is redirected. -/
def SucceedsImmutably (request : Request) (response : Response) : Prop :=
  ((∃ params, matchRoute request.path = some (.tileManifestById, params)) ∧ response.status = 200) ∨
    (∃ params, matchRoute request.path = some (.tileRedirect, params)) ∧ response.status = 302

/-- The storage has answered a request for a manifest by its id, or for a tile that is there. -/
def ReadImmutable [Field K] [LinearOrder K] (P : LatitudeProjection K) (decoders : Decoders K)
    (request : Request) (t : GatewayHistory) : Prop :=
  ((∃ params, matchRoute request.path = some (.tileManifestById, params)) ∧ ManifestRead t) ∨
    RedirectRead decoders request P t

/-- The storage has answered a request for the latest manifest. -/
def ReadLatest (request : Request) (t : GatewayHistory) : Prop :=
  (∃ params, matchRoute request.path = some (.latestTileManifest, params)) ∧ LatestRead t

/-- When nothing but immutable content is kept: the storage has answered, wherever the outer
middleware sets the header, and the header configured for the latest manifest is shorter. -/
structure CachedByOutcome [Field K] [LinearOrder K] (P : LatitudeProjection K)
    (decoders : Decoders K) (state : AppState) (request : Request) (t : GatewayHistory) :
    Prop where
  manifestPath : startsWith request.path adminPrefix = false →
    containsText request.path "/manifest/" → ReadImmutable P decoders request t
  latest : ReadLatest request t → ¬ YearLong (latestCacheControl state)

theorem not_containsText_of_latest {path : String} {params : List String}
    (h : matchRoute path = some (.latestTileManifest, params)) :
    ¬ containsText path "/manifest/" := by
  cases matchRoute_shape h with
  | static hstatic =>
    have hall : staticRoutes.all (fun route => decide (route.2 = .latestTileManifest →
        ¬ containsText route.1 "/manifest/")) = true := by decide +kernel
    simpa using List.all_eq_true.mp hall _ hstatic

section Responses

variable [Field K] [LinearOrder K] {P : LatitudeProjection K} {requestId : Uuid}
  {inner : Response} {t : GatewayHistory}

theorem cached_of_admin (hadmin : startsWith request.path adminPrefix = true) :
    (KeptForAYear (inner.withStandardHeaders requestId request) →
      SucceedsImmutably request (inner.withStandardHeaders requestId request)) ↔
      CachedByOutcome P decoders state request t := by
  have hheader : (inner.withStandardHeaders requestId request).cacheControl = some "no-store" := by
    rw [cacheControl_withStandardHeaders, if_pos hadmin]
  refine iff_of_true (fun hkept => ?_) ⟨fun h => ?_, fun hlatest => ?_⟩
  · rw [keptForAYear_of_some hheader] at hkept
    exact absurd hkept (by decide +kernel)
  · rw [hadmin] at h
    cases h
  · obtain ⟨⟨params, hroute⟩, -⟩ := hlatest
    rw [startsWith_adminPrefix_of_matchRoute hroute] at hadmin
    cases hadmin

/-- Where the router finds nothing, the path alone decides. -/
theorem cached_of_unmatched (hadmin : startsWith request.path adminPrefix = false)
    (hroute : matchRoute request.path = none) (hinner : inner.cacheControl = none) :
    (KeptForAYear (inner.withStandardHeaders requestId request) →
      SucceedsImmutably request (inner.withStandardHeaders requestId request)) ↔
      CachedByOutcome P decoders state request t := by
  have hread : ¬ ReadImmutable P decoders request t := by
    rintro (⟨⟨params, h⟩, -⟩ | ⟨_, _, _, _, _, _, ⟨params, h, -⟩, -⟩) <;>
      cases hroute.symm.trans h
  have hsucceeds : ¬ SucceedsImmutably request (inner.withStandardHeaders requestId request) := by
    rintro (⟨⟨params, h⟩, -⟩ | ⟨⟨params, h⟩, -⟩) <;> cases hroute.symm.trans h
  have hheader := cacheControl_withStandardHeaders requestId request inner
  rw [hadmin, if_neg Bool.false_ne_true] at hheader
  by_cases hmanifest : containsText request.path "/manifest/"
  · rw [if_pos hmanifest] at hheader
    have hkept := (keptForAYear_of_some hheader).mpr yearLong_immutableCacheControl
    exact iff_of_false (fun h => hsucceeds (h hkept)) fun h => hread (h.manifestPath hadmin hmanifest)
  · rw [if_neg hmanifest, hinner] at hheader
    refine iff_of_true (fun hkept => absurd hkept (not_keptForAYear_of_none hheader))
      ⟨fun _ h => absurd h hmanifest, ?_⟩
    rintro ⟨⟨params, h⟩, -⟩
    cases hroute.symm.trans h

theorem routed_iff {handler : Handler} {params : List String}
    (hroute : matchRoute request.path = some (handler, params)) (handler' : Handler) :
    (∃ params', matchRoute request.path = some (handler', params')) ↔ handler' = handler := by
  constructor
  · rintro ⟨params', h⟩
    cases hroute.symm.trans h
    rfl
  · rintro rfl
    exact ⟨params, hroute⟩

theorem routed_of_redirectRead (h : RedirectRead decoders request P t) :
    ∃ params, matchRoute request.path = some (.tileRedirect, params) := by
  obtain ⟨_, _, _, _, _, _, ⟨params, hroute, -⟩, -⟩ := h
  exact ⟨params, hroute⟩

theorem succeedsImmutably_iff {handler : Handler} {params : List String}
    (hroute : matchRoute request.path = some (handler, params))
    (hanswer : AnswersAs decoders state request P handler t inner) :
    SucceedsImmutably request inner ↔ ReadImmutable P decoders request t := by
  have hredirect (h : RedirectRead decoders request P t) : Handler.tileRedirect = handler :=
    (routed_iff hroute _).mp (routed_of_redirectRead h)
  rw [SucceedsImmutably, ReadImmutable, routed_iff hroute, routed_iff hroute]
  cases handler with
  | tileManifestById =>
    have hnone : ¬ RedirectRead decoders request P t := fun h => by cases hredirect h
    simp [hanswer.2, hnone]
  | tileRedirect => simp [hanswer.2]
  | _ =>
    have hnone : ¬ RedirectRead decoders request P t := fun h => by cases hredirect h
    simp [hnone]

/-- A public handler keeps what its answer or the path makes it keep. -/
theorem cached_of_answersAs {handler : Handler} {params : List String}
    (hroute : matchRoute request.path = some (handler, params)) (hadmin : handler.isAdmin = false)
    (hanswer : AnswersAs decoders state request P handler t inner) :
    (KeptForAYear (inner.withStandardHeaders requestId request) →
      SucceedsImmutably request (inner.withStandardHeaders requestId request)) ↔
      CachedByOutcome P decoders state request t := by
  have hinner := succeedsImmutably_iff hroute hanswer
  have hsucceeds : SucceedsImmutably request (inner.withStandardHeaders requestId request) ↔
      ReadImmutable P decoders request t := hinner
  have hpath : startsWith request.path adminPrefix = false := by
    rw [startsWith_adminPrefix_of_matchRoute hroute, hadmin]
  have hheader := cacheControl_withStandardHeaders requestId request inner
  rw [hpath, if_neg Bool.false_ne_true] at hheader
  by_cases hmanifest : containsText request.path "/manifest/"
  · rw [if_pos hmanifest] at hheader
    have hkept := (keptForAYear_of_some hheader).mpr yearLong_immutableCacheControl
    constructor
    · refine fun h => ⟨fun _ _ => hsucceeds.mp (h hkept), ?_⟩
      rintro ⟨⟨params', hlatest⟩, -⟩
      exact absurd hmanifest (not_containsText_of_latest hlatest)
    · exact fun h _ => hsucceeds.mpr (h.manifestPath hpath hmanifest)
  · rw [if_neg hmanifest] at hheader
    have hkept : KeptForAYear (inner.withStandardHeaders requestId request) ↔ KeptForAYear inner := by
      rw [KeptForAYear, KeptForAYear, hheader]
    have hlatest : ReadLatest request t ↔ Handler.latestTileManifest = handler ∧ LatestRead t := by
      rw [ReadLatest, routed_iff hroute]
    have houtcome : CachedByOutcome P decoders state request t ↔
        (Handler.latestTileManifest = handler ∧ LatestRead t →
          ¬ YearLong (latestCacheControl state)) := by
      rw [← hlatest]
      exact ⟨fun h => h.latest, fun h => ⟨fun _ hcontains => absurd hcontains hmanifest, h⟩⟩
    rw [hkept, houtcome]
    cases handler with
    | latestTileManifest =>
      have hnever : ¬ SucceedsImmutably request (inner.withStandardHeaders requestId request) := by
        rw [SucceedsImmutably, routed_iff hroute, routed_iff hroute]
        simp
      have hanswer : KeptForAYear inner ↔ LatestRead t ∧ YearLong (latestCacheControl state) :=
        hanswer
      rw [hanswer]
      exact ⟨fun h hlatest hyear => hnever (h ⟨hlatest.2, hyear⟩),
        fun h hboth => absurd hboth.2 (h ⟨rfl, hboth.1⟩)⟩
    | tileRedirect =>
      refine iff_of_true (fun hinner => ?_) fun h => by cases h.1
      obtain ⟨value, hvalue, -⟩ := hinner
      have hsome : inner.cacheControl ≠ none := by
        rw [hvalue]
        exact Option.some_ne_none value
      exact .inr ⟨⟨params, hroute⟩, hanswer.1 hsome⟩
    | tileManifestById =>
      exact iff_of_true (fun hinner => absurd hinner (not_keptForAYear_of_none hanswer.1))
        fun h => by cases h.1
    | _ =>
      exact iff_of_true (fun hinner => absurd hinner (not_keptForAYear_of_none hanswer))
        fun h => by cases h.1

/-- Whatever becomes of a request, its response is kept for a year only if it succeeds with
immutable content, exactly if the outcome makes it so. -/
theorem keptForAYear_sound_iff (fresh : Uuid) {t : TimedHistory} {response : Response}
    (h : (serve P decoders state request fresh).Follows t (.done response)) :
    (KeptForAYear response → SucceedsImmutably request response) ↔
      CachedByOutcome P decoders state request (Program.answered t) := by
  by_cases hadmin : startsWith request.path adminPrefix = true
  · have hserve := serve_meets decoders state request P fresh (fun _ _ => trivial)
      fun requestId t _ => Program.meets_true (route P decoders state requestId request) t
    obtain ⟨requestId, inner, rfl, -⟩ := hserve.post_of_follows h
    exact cached_of_admin hadmin
  rw [Bool.not_eq_true] at hadmin
  cases hroute : matchRoute request.path with
  | none =>
    have hserve := serve_meets decoders state request P fresh (fun _ _ => trivial)
      fun requestId t _ => route_unmatched P requestId hroute t
    obtain ⟨requestId, inner, rfl, hend⟩ := hserve.post_of_follows h
    apply cached_of_unmatched hadmin hroute
    cases hend with
    | refused error hstatus hchecks => exact GatewayError.cacheControl_intoResponse _ _
    | answered hpost hcut => exact hpost
    | dropped hcut hwaits hguar => exact GatewayError.cacheControl_intoResponse _ _
  | some route =>
    obtain ⟨handler, params⟩ := route
    rw [startsWith_adminPrefix_of_matchRoute hroute] at hadmin
    have hserve := serve_meets decoders state request P fresh
      (fun _ _ _ => noReads_nil.unread handler)
      fun requestId t hpassed => route_answers P requestId hpassed.noReads hroute hadmin
    obtain ⟨requestId, inner, rfl, hend⟩ := hserve.post_of_follows h
    apply cached_of_answersAs hroute hadmin
    cases hend with
    | refused error hstatus hchecks =>
      apply (hchecks.noReads.unread handler).answersAs (GatewayError.cacheControl_intoResponse _ _)
      · rw [GatewayError.status_intoResponse]
        omega
      · rw [GatewayError.status_intoResponse]
        omega
    | answered hpost hcut => exact hpost
    | dropped hcut hwaits hguar =>
      apply (hguar hwaits).answersAs (GatewayError.cacheControl_intoResponse _ _)
      · simp [GatewayError.serviceUnavailable]
      · simp [GatewayError.serviceUnavailable]

end Responses

/-! ## Sample runs -/

def sampleGet (path : String) : Request where
  method := "GET"
  path := path
  query := none
  headers := []
  body := []

/-- A run of the sample gateway after the public check, which no timeout cuts off. -/
def afterSampleCheck (key : String) (snapshot : WindowSnapshot)
    (calls : List (Σ c, GatewayCall.Reply c)) :
    List (Σ c : Program.Timed GatewayCall, Program.Timed.Reply GatewayCall.Reply c) :=
  ⟨.plain (.incrementWindow key 60), some snapshot⟩ :: calls.map inTime

def redirectedTile :
    List (Σ c : Program.Timed GatewayCall, Program.Timed.Reply GatewayCall.Reply c) :=
  afterSampleCheck "tile_redirect:unknown" ⟨1, 60⟩
    [⟨.runHandler .tileRedirect [], ()⟩, ⟨.readJsonBlob "manifests/sample.json", .ok "manifest"⟩]

def sentRedirect : Response :=
  sampleRedirect.withStandardHeaders 0 (sampleGet "/api/v1/tiles/sample/3/1/2.png")

theorem keptForAYear_sound_redirect :
    (KeptForAYear sentRedirect →
      SucceedsImmutably (sampleGet "/api/v1/tiles/sample/3/1/2.png") sentRedirect) ↔
      CachedByOutcome linearProjection (sampleDecoders (.ofGenerated sampleTileSet.manifest))
        sampleState (sampleGet "/api/v1/tiles/sample/3/1/2.png")
        (Program.answered redirectedTile.reverse) :=
  keptForAYear_sound_iff 0 (Program.follows_of_replay (by decide +kernel))

def missingManifest :
    List (Σ c : Program.Timed GatewayCall, Program.Timed.Reply GatewayCall.Reply c) :=
  afterSampleCheck "public_tile_metadata:unknown" ⟨1, 60⟩
    [⟨.runHandler .tileManifestById [], ()⟩, ⟨.readJsonBlob "manifests/missing.json",
      .error (.blobStatus "manifests/missing.json" 404 "BlobNotFound")⟩]

def slowManifest :
    List (Σ c : Program.Timed GatewayCall, Program.Timed.Reply GatewayCall.Reply c) :=
  afterSampleCheck "public_tile_metadata:unknown" ⟨1, 60⟩ [⟨.runHandler .tileManifestById [], ()⟩] ++
    [⟨.awaited (.readJsonBlob "manifests/sample.json"), none⟩]

/-- A run of the sample gateway that ends with this status and is to be kept for a year. -/
def KeptWithStatus (path : String) (status : ℕ) : Prop :=
  ∃ t response, (sampleServe (sampleGet path)).Follows t (.done response) ∧
    response.status = status ∧ KeptForAYear response

theorem keptWithStatus_of_replay {path : String} {status : ℕ}
    (replies : List (Σ c : Program.Timed GatewayCall, Program.Timed.Reply GatewayCall.Reply c))
    (h : ∃ response ∈ (sampleServe (sampleGet path)).replay replies,
      response.status = status ∧ KeptForAYear response) : KeptWithStatus path status := by
  obtain ⟨response, hreplay, hkept⟩ := h
  exact ⟨_, response, Program.follows_of_replay hreplay, hkept⟩

/-- A manifest that is missing, a client that asks too often, a storage that is slow, and a path
that the router does not know. -/
theorem not_keptForAYear_sound :
    KeptWithStatus "/api/v1/tiles/manifest/missing" 404 ∧
      KeptWithStatus "/api/v1/tiles/manifest/sample" 429 ∧
      KeptWithStatus "/api/v1/tiles/manifest/sample" 503 ∧ KeptWithStatus "/x/manifest/y" 404 := by
  refine ⟨?_, ?_, ?_, ?_⟩
  · exact keptWithStatus_of_replay missingManifest (by decide +kernel)
  · exact keptWithStatus_of_replay
      (afterSampleCheck "public_tile_metadata:unknown" ⟨181, 30⟩ []) (by decide +kernel)
  · exact keptWithStatus_of_replay slowManifest (by decide +kernel)
  · exact keptWithStatus_of_replay [] (by decide +kernel)

end LumenHorizon.Gateway
