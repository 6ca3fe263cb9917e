import LumenHorizon.Gateway.Routes
import LumenHorizon.Gateway.Storage

/-! # Which budget a tile request is charged to

The limiter reads the class off the end of the raw path, the router finds the handler by segments
and decodes the parameters later.
-/

namespace LumenHorizon.Gateway
open Shared

def Handler.isTileMetadata : Handler → Bool
  | .latestTileManifest | .tileManifestById | .listTileSets | .tileClasses => true
  | _ => false

/-- Redirects are charged to the redirect budget only, the metadata handlers to theirs only. -/
def ChargedToOwnBudget (path : String) (handler : Handler) : Prop :=
  (routeClassForPublic "GET" path = some .tileRedirect ↔ handler = .tileRedirect) ∧
    (routeClassForPublic "GET" path = some .publicTileMetadata ↔ handler.isTileMetadata = true)

theorem routeClassForPublic_of_tiles {path : String} (h : startsWith path "/api/v1/tiles/" = true) :
    routeClassForPublic "GET" path =
      if endsWith path ".png" then some .tileRedirect else some .publicTileMetadata := by
  simp [routeClassForPublic, h]

theorem endsWith_png_of_static {path : String} {handler : Handler}
    (h : (path, handler) ∈ staticRoutes) : endsWith path ".png" = false := by
  have hall : staticRoutes.all (fun route => !endsWith route.1 ".png") = true := by decide
  simpa using List.all_eq_true.mp hall _ h

/-- A tile request is charged to its own budget unless a manifest id ends like an image, or a
redirect is asked for under a raw path that does not. -/
theorem chargedToOwnBudget_iff (path : String) (handler : Handler) (params : List String)
    (hroute : matchRoute path = some (handler, params)) (htile : handler.isTile = true) :
    ChargedToOwnBudget path handler ↔
      (handler = .tileManifestById → endsWith path ".png" = false) ∧
        (handler = .tileRedirect → endsWith path ".png" = true) := by
  have hclass := routeClassForPublic_of_tiles (startsWith_of_isTile hroute htile)
  rw [ChargedToOwnBudget, hclass]
  cases matchRoute_shape hroute with
  | static hstatic =>
    -- neither a manifest by its id nor a redirect
    have hplain := endsWith_png_of_static hstatic
    have hhandler : handler ≠ .tileRedirect ∧ handler ≠ .tileManifestById := by
      have hall : staticRoutes.all (fun route =>
          decide (route.2 ≠ .tileRedirect ∧ route.2 ≠ .tileManifestById)) = true := by decide
      simpa using List.all_eq_true.mp hall _ hstatic
    have hmetadata : handler.isTileMetadata = true := by
      cases handler <;> simp_all [Handler.isTile, Handler.isTileMetadata]
    simp [hplain, hhandler, hmetadata]
  | manifest hne hslash =>
    generalize endsWith _ ".png" = png
    cases png <;> simp [Handler.isTileMetadata]
  | tile hne =>
    generalize endsWith _ ".png" = png
    cases png <;> simp [Handler.isTileMetadata]
  | site hne hslash => cases htile
  | score => cases htile

theorem chargedToOwnBudget_redirect :
    ChargedToOwnBudget "/api/v1/tiles/tile-set-1/3/1/2.png" .tileRedirect ↔
      (Handler.tileRedirect = .tileManifestById →
        endsWith "/api/v1/tiles/tile-set-1/3/1/2.png" ".png" = false) ∧
        (Handler.tileRedirect = .tileRedirect →
          endsWith "/api/v1/tiles/tile-set-1/3/1/2.png" ".png" = true) :=
  chargedToOwnBudget_iff "/api/v1/tiles/tile-set-1/3/1/2.png" .tileRedirect
    ["tile-set-1", "3", "1", "2.png"] (by decide +kernel) rfl

/-- A manifest is read on the budget of the redirects, and a redirect is answered on the budget of
the metadata: its last parameter decodes to `2.png`. -/
theorem not_chargedToOwnBudget :
    (matchRoute "/api/v1/tiles/manifest/v1.png" = some (.tileManifestById, ["v1.png"]) ∧
        validateTileSetId "v1.png" = .ok () ∧
        routeClassForPublic "GET" "/api/v1/tiles/manifest/v1.png" = some .tileRedirect) ∧
      matchRoute "/api/v1/tiles/v1/3/1/2.pn%67" = some (.tileRedirect, ["v1", "3", "1", "2.pn%67"]) ∧
        routeClassForPublic "GET" "/api/v1/tiles/v1/3/1/2.pn%67" = some .publicTileMetadata := by
  decide +kernel

end LumenHorizon.Gateway
