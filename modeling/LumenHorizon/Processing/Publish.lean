import LumenHorizon.Processing.Calls

/-! # Publication of a tile set

The tiles, then the immutable manifest, its row, its promotion, and last the moving pointer.
-/

namespace LumenHorizon.Processing
open Foundation Shared ProcessingProgram

def publishTileManifest (manifest : TileManifest) (promotedAt : ℕ) :
    ProcessingProgram (Except PublishError LatestManifestPointer) := do
  match manifest.manifestBlobPath with
  | .error error => pure (.error (.manifest error))
  | .ok manifestBlobPath =>
    match ← uploadProcessedBlob manifestBlobPath (.manifest manifest) with
    | .error error => pure (.error (.storage error))
    | .ok () =>
      match ← insertTileSet manifest with
      | .error error => pure (.error (.database error))
      | .ok () =>
        match ← promoteLatestTileSet manifest.tileSetId with
        | .error error => pure (.error (.database error))
        | .ok () =>
          match manifest.latestPointer promotedAt with
          | .error error => pure (.error (.manifest error))
          | .ok latestPointer =>
            match ← uploadProcessedBlob latestManifestBlobPath (.latestPointer latestPointer) with
            | .error error => pure (.error (.storage error))
            | .ok () => pure (.ok latestPointer)

/-- The loop of `publish_tile_set` over the rendered tiles. -/
def uploadTiles (tileSetId : String) :
    List RenderedTile → ProcessingProgram (Except PublishError Unit)
  | [] => pure (.ok ())
  | tile :: tiles => do
    match tileBlobPath tileSetId tile.coord with
    | .error error => pure (.error (.tileMath error))
    | .ok blobPath =>
      match ← uploadProcessedBlob blobPath .tile with
      | .error error => pure (.error (.storage error))
      | .ok () => uploadTiles tileSetId tiles

def publishTileSet (manifest : TileManifest) (tiles : List RenderedTile) (promotedAt : ℕ) :
    ProcessingProgram (Except PublishError LatestManifestPointer) := do
  match ← uploadTiles manifest.tileSetId tiles with
  | .error error => pure (.error error)
  | .ok () => publishTileManifest manifest promotedAt

end LumenHorizon.Processing
