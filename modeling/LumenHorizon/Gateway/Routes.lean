import LumenHorizon.Gateway.Http
import LumenHorizon.Gateway.RateLimit

/-! # Routes

The routes of `router` with the handlers behind them, and what the middleware reads off a path
without the router: the expected method, the budget, and the policy of an admin route.
-/

namespace LumenHorizon.Gateway
open Shared

inductive AdminRoleRequirement where
  | configuredAdmin
deriving DecidableEq, Repr

structure AdminRoutePolicy where
  method : String
  path : String
  action : String
  role : AdminRoleRequirement
deriving DecidableEq, Repr

/-- `ADMIN_ROUTE_POLICIES`. -/
def adminRoutePolicies : List AdminRoutePolicy := [
  ⟨"post", "/api/v1/admin/ingest/trigger", "ingest.trigger", .configuredAdmin⟩,
  ⟨"get", "/api/v1/admin/ingest/runs", "ingest.runs.list", .configuredAdmin⟩,
  ⟨"get", "/api/v1/admin/processing/runs", "processing.runs.list", .configuredAdmin⟩,
  ⟨"post", "/api/v1/admin/processing/requeue", "processing.requeue", .configuredAdmin⟩,
  ⟨"get", "/api/v1/admin/health/deep", "health.deep", .configuredAdmin⟩]

def adminRoutePolicyForPath (path : String) : Option AdminRoutePolicy :=
  adminRoutePolicies.find? fun policy => policy.path = path

inductive Handler where
  | health
  | ready
  | latestTileManifest
  | tileManifestById
  | listTileSets
  | tileClasses
  | tileRedirect
  | searchSites
  | siteDetail
  | siteScore
  | triggerIngest
  | listIngestRuns
  | listProcessingRuns
  | requeueProcessingItem
  | deepHealth
deriving DecidableEq, Repr

namespace Handler

/-- The handlers of the nested router. -/
def isAdmin : Handler → Bool
  | triggerIngest | listIngestRuns | listProcessingRuns | requeueProcessingItem | deepHealth => true
  | _ => false

/-- The handlers under `/api/v1` that anyone may call. -/
def isPublicApi : Handler → Bool
  | health | ready => false
  | handler => !handler.isAdmin

def isTile : Handler → Bool
  | latestTileManifest | tileManifestById | listTileSets | tileClasses | tileRedirect => true
  | _ => false

/-- `get(..)` also answers `HEAD`. -/
def answers (handler : Handler) (method : String) : Bool :=
  match handler with
  | triggerIngest | requeueProcessingItem => method = "POST"
  | _ => method = "GET" || method = "HEAD"

def pathParameters : Handler → List String
  | tileManifestById => ["tile_set_id"]
  | tileRedirect => ["tile_set_id", "z", "x", "tile_file"]
  | siteDetail | siteScore => ["site_id"]
  | _ => []

end Handler

def staticRoutes : List (String × Handler) := [
  ("/health", .health),
  ("/ready", .ready),
  ("/api/v1/tiles/manifest", .latestTileManifest),
  ("/api/v1/tiles/sets", .listTileSets),
  ("/api/v1/tiles/classes", .tileClasses),
  ("/api/v1/sites", .searchSites),
  ("/api/v1/admin/ingest/trigger", .triggerIngest),
  ("/api/v1/admin/ingest/runs", .listIngestRuns),
  ("/api/v1/admin/processing/runs", .listProcessingRuns),
  ("/api/v1/admin/processing/requeue", .requeueProcessingItem),
  ("/api/v1/admin/health/deep", .deepHealth)]

def stripPrefix (path pattern : String) : Option (List Char) :=
  if startsWith path pattern then some (path.toList.drop pattern.toList.length) else none

/-- A parameter segment that a slash ends, with what follows the slash. It may be empty, unlike a
parameter at the end of a path. -/
def takeSegment (l : List Char) : Option (List Char × List Char) :=
  match l.dropWhile (· ≠ '/') with
  | _ :: rest => some (l.takeWhile (· ≠ '/'), rest)
  | [] => none

/-- `/api/v1/tiles/manifest/{tile_set_id}`. -/
def matchManifestRoute (path : String) : Option (Handler × List String) := do
  let rest ← stripPrefix path "/api/v1/tiles/manifest/"
  if rest ≠ [] ∧ '/' ∉ rest then some (.tileManifestById, [String.ofList rest]) else none

/-- `/api/v1/tiles/{tile_set_id}/{z}/{x}/{*tile_file}`. -/
def matchTileRoute (path : String) : Option (Handler × List String) := do
  let rest ← stripPrefix path "/api/v1/tiles/"
  let (tileSetId, rest) ← takeSegment rest
  let (z, rest) ← takeSegment rest
  let (x, tileFile) ← takeSegment rest
  if tileFile ≠ [] then
    some (.tileRedirect, [String.ofList tileSetId, String.ofList z, String.ofList x,
      String.ofList tileFile])
  else none

/-- `/api/v1/sites/{site_id}` and `/api/v1/sites/{site_id}/score`. -/
def matchSiteRoute (path : String) : Option (Handler × List String) := do
  let rest ← stripPrefix path "/api/v1/sites/"
  if rest ≠ [] ∧ '/' ∉ rest then some (.siteDetail, [String.ofList rest])
  else
    let (siteId, tail) ← takeSegment rest
    if tail = "score".toList then some (.siteScore, [String.ofList siteId]) else none

/-- The handler behind a raw path with its undecoded parameters: static segments come first, and a
path they lead astray is matched against the parameters. -/
def matchRoute (path : String) : Option (Handler × List String) :=
  match staticRoutes.find? fun route => route.1 = path with
  | some route => some (route.2, [])
  | none => (matchManifestRoute path).or ((matchTileRoute path).or (matchSiteRoute path))

example : matchRoute "/api/v1/sites//score" = some (.siteScore, [""]) := by decide +kernel

def expectedMethodForApiPath (path : String) : Option String :=
  match adminRoutePolicyForPath path with
  | some policy => some policy.method
  | none =>
    if path ∈ ["/health", "/ready"] ∨
        path ∈ ["/api/v1/tiles/manifest", "/api/v1/tiles/sets", "/api/v1/tiles/classes"] ∨
        startsWith path "/api/v1/tiles/manifest/" ∨ startsWith path "/api/v1/tiles/" ∨
        path = "/api/v1/sites" ∨ startsWith path "/api/v1/sites/" then
      some "get"
    else none

def routeClassForPublic (method path : String) : Option RouteClass :=
  if method ≠ "GET" then none
  else if endsWith path ".png" ∧ startsWith path "/api/v1/tiles/" then some .tileRedirect
  else if startsWith path "/api/v1/tiles/" then some .publicTileMetadata
  else if startsWith path "/api/v1/sites" then some .publicSiteRead
  else none

theorem stripPrefix_eq_some_iff {path pattern : String} {rest : List Char} :
    stripPrefix path pattern = some rest ↔ path = pattern ++ String.ofList rest := by
  unfold stripPrefix
  constructor
  · intro h
    split_ifs at h with hstarts
    obtain ⟨tail, rfl⟩ := startsWith_iff.mp hstarts
    obtain rfl := Option.some.inj h
    rw [String.toList_append, List.drop_left, String.ofList_toList]
  · rintro rfl
    rw [if_pos (startsWith_append _ _), String.toList_append, List.drop_left,
      String.toList_ofList]

theorem eq_of_takeSegment {l segment rest : List Char} (h : takeSegment l = some (segment, rest)) :
    l = segment ++ '/' :: rest := by
  unfold takeSegment at h
  split at h
  · next d tail hdrop =>
    obtain ⟨rfl, rfl⟩ := Prod.mk.inj (Option.some.inj h)
    have hd : d = '/' := by
      have hne : l.dropWhile (fun c => decide (c ≠ '/')) ≠ [] := by
        rw [hdrop]
        exact List.cons_ne_nil _ _
      have hhead := List.head_dropWhile_not (fun c => decide (c ≠ '/')) hne
      simp only [hdrop, List.head_cons] at hhead
      simpa using hhead
    calc
      l = l.takeWhile (fun c => decide (c ≠ '/')) ++ l.dropWhile (fun c => decide (c ≠ '/')) :=
        List.takeWhile_append_dropWhile.symm
      _ = l.takeWhile (fun c => decide (c ≠ '/')) ++ '/' :: tail := by rw [hdrop, hd]
  · cases h

inductive RouteShape : String → Handler → List String → Prop
  | static {path : String} {handler : Handler} (h : (path, handler) ∈ staticRoutes) :
      RouteShape path handler []
  | manifest {tileSetId : String} (hne : tileSetId ≠ "") (hslash : '/' ∉ tileSetId.toList) :
      RouteShape ("/api/v1/tiles/manifest/" ++ tileSetId) .tileManifestById [tileSetId]
  | tile {tileSetId z x tileFile : String} (hne : tileFile ≠ "") :
      RouteShape
        ("/api/v1/tiles/" ++ (tileSetId ++ ("/" ++ (z ++ ("/" ++ (x ++ ("/" ++ tileFile)))))))
        .tileRedirect [tileSetId, z, x, tileFile]
  | site {siteId : String} (hne : siteId ≠ "") (hslash : '/' ∉ siteId.toList) :
      RouteShape ("/api/v1/sites/" ++ siteId) .siteDetail [siteId]
  | score {siteId : String} :
      RouteShape ("/api/v1/sites/" ++ (siteId ++ "/" ++ "score")) .siteScore [siteId]

theorem ofList_ne_empty {l : List Char} (h : l ≠ []) : String.ofList l ≠ "" := by
  intro heq
  have hlist := congrArg String.toList heq
  rw [String.toList_ofList] at hlist
  exact h hlist

theorem ofList_segment (segment rest : List Char) :
    String.ofList (segment ++ '/' :: rest) =
      String.ofList segment ++ "/" ++ String.ofList rest := by
  have hslash : "/".toList = ['/'] := by decide
  apply String.toList_injective
  simp only [String.toList_append, String.toList_ofList, hslash, List.append_assoc,
    List.singleton_append]

theorem matchManifestRoute_shape {path : String} {handler : Handler} {params : List String}
    (h : matchManifestRoute path = some (handler, params)) : RouteShape path handler params := by
  simp only [matchManifestRoute, Option.bind_eq_bind, Option.bind_eq_some_iff,
    stripPrefix_eq_some_iff] at h
  obtain ⟨rest, rfl, h⟩ := h
  split_ifs at h with hrest
  obtain ⟨rfl, rfl⟩ := Prod.mk.inj (Option.some.inj h)
  refine .manifest (ofList_ne_empty hrest.1) ?_
  rw [String.toList_ofList]
  exact hrest.2

theorem matchTileRoute_shape {path : String} {handler : Handler} {params : List String}
    (h : matchTileRoute path = some (handler, params)) : RouteShape path handler params := by
  simp only [matchTileRoute, Option.bind_eq_bind, Option.bind_eq_some_iff,
    stripPrefix_eq_some_iff] at h
  obtain ⟨rest, rfl, ⟨tileSetId, rest₁⟩, hid, ⟨z, rest₂⟩, hz, ⟨x, tileFile⟩, hx, h⟩ := h
  dsimp only at hz hx h
  split_ifs at h with hfile
  simp only [Option.some.injEq, Prod.mk.injEq] at h
  obtain ⟨rfl, rfl⟩ := h
  obtain rfl := eq_of_takeSegment hx
  obtain rfl := eq_of_takeSegment hz
  obtain rfl := eq_of_takeSegment hid
  simp only [ofList_segment, String.append_assoc]
  exact .tile (ofList_ne_empty hfile)

theorem matchSiteRoute_shape {path : String} {handler : Handler} {params : List String}
    (h : matchSiteRoute path = some (handler, params)) : RouteShape path handler params := by
  simp only [matchSiteRoute, Option.bind_eq_bind, Option.bind_eq_some_iff,
    stripPrefix_eq_some_iff] at h
  obtain ⟨rest, rfl, h⟩ := h
  split_ifs at h with hrest
  · obtain ⟨rfl, rfl⟩ := Prod.mk.inj (Option.some.inj h)
    refine .site (ofList_ne_empty hrest.1) ?_
    rw [String.toList_ofList]
    exact hrest.2
  · obtain ⟨⟨siteId, tail⟩, hid, h⟩ := Option.bind_eq_some_iff.mp h
    split_ifs at h with htail
    obtain ⟨rfl, rfl⟩ := Prod.mk.inj (Option.some.inj h)
    rw [eq_of_takeSegment hid, ofList_segment]
    subst htail
    rw [String.ofList_toList]
    exact .score

theorem matchRoute_shape {path : String} {handler : Handler} {params : List String}
    (h : matchRoute path = some (handler, params)) : RouteShape path handler params := by
  unfold matchRoute at h
  split at h
  · next route hfind =>
    obtain ⟨rfl, rfl⟩ := Prod.mk.inj (Option.some.inj h)
    have hpath : route.1 = path := by simpa using List.find?_some hfind
    have hmem := List.mem_of_find?_eq_some hfind
    rw [← hpath]
    exact .static hmem
  · rcases Option.or_eq_some_iff.mp h with h | ⟨-, h⟩
    · exact matchManifestRoute_shape h
    · rcases Option.or_eq_some_iff.mp h with h | ⟨-, h⟩
      · exact matchTileRoute_shape h
      · exact matchSiteRoute_shape h

theorem startsWith_of_isTile {path : String} {handler : Handler} {params : List String}
    (h : matchRoute path = some (handler, params)) (htile : handler.isTile = true) :
    startsWith path "/api/v1/tiles/" = true := by
  cases matchRoute_shape h with
  | static hstatic =>
    have hall : staticRoutes.all (fun route =>
        !route.2.isTile || startsWith route.1 "/api/v1/tiles/") = true := by decide
    have hroute := List.all_eq_true.mp hall _ hstatic
    simpa [htile] using hroute
  | manifest hne hslash =>
    exact startsWith_iff.mpr ⟨"manifest/" ++ _, by rw [← String.append_assoc]; rfl⟩
  | tile hne => exact startsWith_append _ _
  | site hne hslash => cases htile
  | score => cases htile

end LumenHorizon.Gateway
