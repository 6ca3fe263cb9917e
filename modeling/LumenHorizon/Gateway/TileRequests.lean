import LumenHorizon.Gateway.Queries

/-! # Tile requests

The coordinate in the path of a tile, and what the redirect makes of the manifest.
-/

namespace LumenHorizon.Gateway
open Shared SlippyTiles Processing

def tileMathErrorResponse : TileMathError → GatewayError
  | .zoomTooLarge _ => .invalidRequest "tile zoom exceeds supported maximum"
  | .xOutOfRange _ _ _ | .yOutOfRange _ _ _ =>
    .invalidRequest "tile coordinate is outside zoom range"
  | _ => .invalidRequest "invalid tile coordinate"

/-- `parse::<u8>` and `parse::<u32>` of one part. -/
def parsePart (max : ℕ) (part message : String) : Except GatewayError ℕ :=
  match parseUnsigned max part with
  | none => .error (.invalidRequest message)
  | some value => .ok value

def parseTileCoord (z x tileFile : String) : Except GatewayError TileCoord :=
  if '/' ∈ tileFile.toList ∨ endsWith tileFile ".png" = false then
    .error (.invalidRequest "tile path must end with \x7by\x7d.png")
  else
    let y := trimEndMatches tileFile ".png"
    if y = "" then .error (.invalidRequest "tile y coordinate is required")
    else do
      let z ← parsePart 255 z "invalid tile zoom"
      let x ← parsePart (2 ^ 32 - 1) x "invalid tile x coordinate"
      let y ← parsePart (2 ^ 32 - 1) y "invalid tile y coordinate"
      match validateTileCoord { z := z, x := x, y := y } with
      | .error error => .error (tileMathErrorResponse error)
      | .ok () => .ok { z := z, x := x, y := y }

structure TileRedirectManifest (K : Type) where
  tileSetId : String
  minZoom : ℕ
  maxNativeZoom : ℕ
  maxDisplayZoom : ℕ
  bounds : GeographicBounds K
  tileUrlTemplate : String
deriving DecidableEq, Repr

/-- The template with its three placeholders replaced one after the other. -/
def redirectUrl (template : String) (coord : TileCoord) : String :=
  replaceText
    (replaceText (replaceText template "\x7bz\x7d" (toString coord.z)) "\x7bx\x7d"
      (toString coord.x))
    "\x7by\x7d" (toString coord.y)

def immutableCacheControl : String := "public, max-age=31536000, immutable"

variable {K : Type} [Field K] [LinearOrder K]

/-- `tile_redirect` once the manifest is read. -/
def redirectResponse (P : LatitudeProjection K) (manifest : TileRedirectManifest K)
    (coord : TileCoord) (requestId : Uuid) : Response :=
  if coord.z < manifest.minZoom ∨ coord.z > manifest.maxNativeZoom then
    (GatewayError.invalidRequest "tile zoom is outside tile set range").intoResponse requestId
  else
    match tileBounds P coord with
    | .error error => (tileMathErrorResponse error).intoResponse requestId
    | .ok bounds =>
      match clipBounds bounds manifest.bounds with
      | none => (GatewayError.tileNotFound "tile is outside tile set bounds").intoResponse requestId
      | some _ =>
        let location := redirectUrl manifest.tileUrlTemplate coord
        if isHeaderValue location then
          { status := 302
            headers := [("location", location), ("cache-control", immutableCacheControl)]
            body := .empty }
        else (GatewayError.tileUnavailable "tile redirect URL is invalid").intoResponse requestId

example : parseTileCoord "3" "1" "2.png" = .ok ⟨3, 1, 2⟩ := by decide +kernel

example : redirectUrl "https://cdn.test/tiles/v1/\x7bz\x7d/\x7bx\x7d/\x7by\x7d.png" ⟨3, 1, 2⟩ =
    "https://cdn.test/tiles/v1/3/1/2.png" := by decide +kernel

end LumenHorizon.Gateway
