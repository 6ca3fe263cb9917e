import LumenHorizon.Foundation.Resample
import LumenHorizon.Processing.TilePlan

/-! # Rendering a tile from raster samples

A window of each dataset is resized to the tile, the samples are classified index by index, and
the pixels are coloured in the same order. The science rules and the class colours are
parameters; this module is about where a pixel comes from.
-/

namespace LumenHorizon.Processing
open Foundation SlippyTiles

structure RasterOutputSize where
  width : ℕ
  height : ℕ
deriving DecidableEq, Repr

structure RenderPixel (V : Type) where
  radiance : Option V
  rejected : Bool
deriving DecidableEq, Repr

structure Rgba where
  red : ℕ
  green : ℕ
  blue : ℕ
  alpha : ℕ
deriving DecidableEq, Repr

structure RenderedTile where
  coord : TileCoord
  pixels : List Rgba
deriving DecidableEq, Repr

/-- The science layer as rendering uses it: whether a sample is renderable, and the colour of
the dark-sky class of a radiance, where it has one. -/
structure SampleScience (K V : Type) where
  classify : V → V → Option V → Option V → Except (GenerateError K) Bool
  classColor : V → Except RenderError (Option Rgba)

/-- The datasets of a granule, each as a function of column and row. -/
structure GranuleRasters (V : Type) where
  radiance : ℕ → ℕ → V
  quality : ℕ → ℕ → V
  cloud : Option (ℕ → ℕ → V)
  observationCount : Option (ℕ → ℕ → V)

/-- `gdal_translate -srcwin x y w h -outsize n n`, its samples row by row: output column `i` is
filled from source column `x + floor((i + 1/2) * w / n)`, and rows alike. -/
def datasetWindowSamplesResized {V : Type} (raster : ℕ → ℕ → V) (window : RasterWindow)
    (outputSize : RasterOutputSize) : List V :=
  (List.range outputSize.height).flatMap fun row =>
    (List.range outputSize.width).map fun i =>
      raster (Resample.sampleIndex window.xOffset window.width outputSize.width i)
        (Resample.sampleIndex window.yOffset window.height outputSize.height row)

section Render

variable {K V : Type}

def validateAlignedSampleCounts (radiance quality : ℕ) (cloud observationCount : Option ℕ) :
    Except (GenerateError K) Unit :=
  if radiance = quality ∧ (∀ count ∈ cloud, count = radiance) ∧
      (∀ count ∈ observationCount, count = radiance) then .ok ()
  else .error (.sampleCountMismatch radiance quality cloud observationCount)

def renderPixelsFromSamples (science : SampleScience K V) (radianceSamples qualitySamples : List V)
    (cloudSamples observationCountSamples : Option (List V)) :
    Except (GenerateError K) (List (RenderPixel V)) := do
  validateAlignedSampleCounts radianceSamples.length qualitySamples.length
    (cloudSamples.map List.length) (observationCountSamples.map List.length)
  pushLoop
    (fun (sample : V × ℕ) =>
      match qualitySamples[sample.2]? with
      | none => .error (.indexOutOfBounds sample.2)
      | some quality => science.classify sample.1 quality (cloudSamples.bind (·[sample.2]?))
          (observationCountSamples.bind (·[sample.2]?)))
    (fun _ sample renderable =>
      { radiance := if renderable then some sample.1 else none, rejected := !renderable })
    [] radianceSamples.zipIdx

def renderPixel (science : SampleScience K V) (pixel : RenderPixel V) : Except RenderError Rgba :=
  if pixel.rejected then .ok ⟨0, 0, 0, 0⟩
  else match pixel.radiance with
    | none => .ok ⟨0, 0, 0, 0⟩
    | some radiance => do
      match ← science.classColor radiance with
      | none => .ok ⟨0, 0, 0, 0⟩
      | some color => .ok color

def renderPngTile (science : SampleScience K V) (tileSize : ℕ) (pixels : List (RenderPixel V)) :
    Except RenderError (List Rgba) :=
  if tileSize = 0 then .error .invalidTileSize
  else if pixels.length ≠ tileSize * tileSize then
    .error (.pixelCountMismatch tileSize (tileSize * tileSize) pixels.length)
  else pushLoop (renderPixel science) (fun _ _ color => color) [] pixels

def renderTileFromSamples (science : SampleScience K V) (coord : TileCoord) (tileSize : ℕ)
    (radianceSamples qualitySamples : List V)
    (cloudSamples observationCountSamples : Option (List V)) :
    Except (GenerateError K) RenderedTile := do
  let pixels ← renderPixelsFromSamples science radianceSamples qualitySamples cloudSamples
    observationCountSamples
  match renderPngTile science tileSize pixels with
  | .error source => .error (.renderTile coord source)
  | .ok colors => .ok { coord := coord, pixels := colors }

def renderTileWindowFromGranule (science : SampleScience K V) (granule : GranuleRasters V)
    (coord : TileCoord) (window : RasterWindow) (tileSize : ℕ) :
    Except (GenerateError K) RenderedTile :=
  let outputSize : RasterOutputSize := { width := tileSize, height := tileSize }
  renderTileFromSamples science coord tileSize
    (datasetWindowSamplesResized granule.radiance window outputSize)
    (datasetWindowSamplesResized granule.quality window outputSize)
    (granule.cloud.map fun raster => datasetWindowSamplesResized raster window outputSize)
    (granule.observationCount.map fun raster => datasetWindowSamplesResized raster window outputSize)

end Render

/-- The source column and row behind a pixel: the resize applied to the raster of positions. -/
def sourceOfPixel (window : RasterWindow) (tileSize row i : ℕ) : Option (ℕ × ℕ) :=
  (datasetWindowSamplesResized (fun x y => (x, y)) window
    { width := tileSize, height := tileSize })[row * tileSize + i]?

theorem sourceOfPixel_eq (window : RasterWindow) {tileSize row i : ℕ} (hrow : row < tileSize)
    (hi : i < tileSize) :
    sourceOfPixel window tileSize row i =
      some (Resample.sampleIndex window.xOffset window.width tileSize i,
        Resample.sampleIndex window.yOffset window.height tileSize row) := by
  have hj : (List.range tileSize)[row]? = some row := by simp [hrow]
  rw [sourceOfPixel, datasetWindowSamplesResized, getElem?_flatMap_row (by simp) hj hi]
  simp [hi]

section Provenance

variable {K V : Type} {science : SampleScience K V}

end Provenance
end LumenHorizon.Processing
