import LumenHorizon.Foundation.Fallible
import LumenHorizon.Shared.SlippyTiles

/-! # Processing configuration

The settings that decide which tiles are generated. What `from_lookup_for` checks of the zooms is
part of their type.
-/

namespace LumenHorizon.Processing
open Foundation SlippyTiles

/-- `str::parse` for an unsigned integer type whose largest value is `max`: an optional plus
sign and at least one decimal digit. -/
def parseUnsigned (max : ℕ) (value : String) : Option ℕ :=
  let digits : List Char := match value.toList with
    | '+' :: rest => rest
    | all => all
  let number := digits.foldl (fun n c => n * 10 + (c.toNat - 48)) 0
  if digits ≠ [] ∧ digits.all Char.isDigit ∧ number ≤ max then some number else none

/-- Each zoom is checked against the one before. -/
structure TileZooms where
  minZoom : ℕ
  maxNativeZoom : ℕ
  maxDisplayZoom : ℕ
  min_le_native : minZoom ≤ maxNativeZoom
  native_le_display : maxNativeZoom ≤ maxDisplayZoom
  display_le : maxDisplayZoom ≤ maxSupportedZoom
deriving DecidableEq

theorem TileZooms.native_le (zooms : TileZooms) : zooms.maxNativeZoom ≤ maxSupportedZoom :=
  zooms.native_le_display.trans zooms.display_le

/-- The zoom settings of a deployment that sets none of them. -/
def defaultTileZooms : TileZooms where
  minZoom := 3
  maxNativeZoom := 10
  maxDisplayZoom := 12
  min_le_native := by decide
  native_le_display := by decide
  display_le := by decide

structure TileBounds (K : Type) where
  west : K
  south : K
  east : K
  north : K
deriving DecidableEq, Repr

/-- `impl From<TileBounds> for GeographicBounds`. -/
def TileBounds.toGeographic {K : Type} (b : TileBounds K) : GeographicBounds K :=
  { west := b.west, south := b.south, east := b.east, north := b.north }

section Bounds

variable {K : Type} [Field K] [LinearOrder K]

/-- `DEFAULT_TILE_BOUNDS`, the contiguous United States. -/
def defaultTileBounds : TileBounds K := { west := -125, south := 24, east := -66, north := 50 }

end Bounds
end LumenHorizon.Processing
