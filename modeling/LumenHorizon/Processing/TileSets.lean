import LumenHorizon.Foundation.Table
import LumenHorizon.Processing.Errors
import LumenHorizon.Processing.ProcessingLog

/-! # Tile sets, their manifests and the processed container

The `tile_sets` table with its statements, the manifest and the pointer that publication
uploads, and the blobs of the processed container.
-/

namespace LumenHorizon.Processing
open Foundation Shared

structure SourceGranule where
  ingestId : Uuid
  product : String
  blobPath : String
deriving DecidableEq, Repr

/-- The fields of a manifest that publication reads; its checksum is kept as given. -/
structure TileManifest where
  tileSetId : String
  classificationVersion : String
  tileCount : ℕ
  sourceGranules : List SourceGranule
  manifestSha256 : String
deriving DecidableEq, Repr

structure LatestManifestPointer where
  tileSetId : String
  manifestBlobPath : String
  manifestSha256 : String
  updatedAt : ℕ
deriving DecidableEq, Repr

def TileManifest.manifestBlobPath (manifest : TileManifest) :
    Except SlippyTiles.TileMathError String :=
  Shared.manifestBlobPath manifest.tileSetId

def TileManifest.latestPointer (manifest : TileManifest) (updatedAt : ℕ) :
    Except SlippyTiles.TileMathError LatestManifestPointer := do
  let manifestBlobPath ← manifest.manifestBlobPath
  .ok {
    tileSetId := manifest.tileSetId
    manifestBlobPath := manifestBlobPath
    manifestSha256 := manifest.manifestSha256
    updatedAt := updatedAt }

/-- `tile_sets`. -/
structure TileSetRow where
  id : String
  classificationVersion : String
  tileCount : ℕ
  manifestBlobPath : String
  latest : Bool
  createdAt : ℕ
  retentionDeletedAt : Option ℕ
  retentionDeleteReason : Option String
deriving DecidableEq, Repr

structure TileSetRetentionCandidate where
  tileSetId : String
  classificationVersion : String
  manifestBlobPath : String
  createdAt : ℕ
  tileCount : ℕ
deriving DecidableEq, Repr

def microsecondsPerDay : ℕ := 86400000000

abbrev TileSetTable := List TileSetRow

namespace TileSetTable

/-- The row `insert_tile_set` inserts. -/
def insertedRow (manifest : TileManifest) (manifestBlobPath : String) (now : ℕ) : TileSetRow where
  id := manifest.tileSetId
  classificationVersion := manifest.classificationVersion
  tileCount := manifest.tileCount
  manifestBlobPath := manifestBlobPath
  latest := false
  createdAt := now
  retentionDeletedAt := none
  retentionDeleteReason := none

def insertTileSet (rows : TileSetTable) (manifest : TileManifest) (now : ℕ) :
    TileSetTable × Except DbError Unit :=
  if maxInteger < manifest.tileCount then (rows, .error (.tileCountTooLarge manifest.tileCount))
  else
    match manifest.manifestBlobPath with
    | .error error => (rows, .error (.manifest error))
    | .ok manifestBlobPath =>
      if ∃ row ∈ rows, row.id = manifest.tileSetId then
        (rows, .error (.insertTileSet
          "duplicate key value violates unique constraint \"tile_sets_pkey\""))
      else (rows ++ [insertedRow manifest manifestBlobPath now], .ok ())

/-- One transaction: it is rolled back when there is no row to promote. -/
def promoteLatestTileSet (rows : TileSetTable) (tileSetId : String) :
    TileSetTable × Except DbError Unit :=
  if ∃ row ∈ rows, row.id = tileSetId then
    (Table.update (fun row => row.id = tileSetId) (fun row => { row with latest := true })
      (Table.update (fun row => row.latest = true) (fun row => { row with latest := false }) rows),
      .ok ())
  else (rows, .error (.tileSetNotFound tileSetId))

/-- The rows `mark_tile_set_retention_deleted` may touch. -/
def RetentionDeletable (tileSetId : String) (row : TileSetRow) : Prop :=
  row.id = tileSetId ∧ row.latest = false ∧ row.retentionDeletedAt = none

instance (tileSetId : String) (row : TileSetRow) : Decidable (RetentionDeletable tileSetId row) :=
  inferInstanceAs (Decidable (_ ∧ _))

def markTileSetRetentionDeleted (rows : TileSetTable) (tileSetId reason : String) (now : ℕ) :
    TileSetTable × Except DbError Unit :=
  if ∃ row ∈ rows, RetentionDeletable tileSetId row then
    (Table.update (RetentionDeletable tileSetId)
      (fun row => { row with
        retentionDeletedAt := some now, retentionDeleteReason := some reason })
      rows, .ok ())
  else (rows, .error (.tileSetNotFound tileSetId))

/-- `retention_rank`: the place of a row among the rows of its classification version that are
not deleted, newest first. -/
def retentionRank (rows : TileSetTable) (row : TileSetRow) : ℕ :=
  (rows.filter fun other =>
    other.retentionDeletedAt = none ∧ other.classificationVersion = row.classificationVersion ∧
      (row.createdAt < other.createdAt ∨
        (row.createdAt = other.createdAt ∧ row.id < other.id))).length + 1

/-- The condition of `select_tile_set_retention_candidates`. -/
def RetentionSelectable (rows : TileSetTable) (processedRetentionDays protectedPriorTileSets now : ℕ)
    (row : TileSetRow) : Prop :=
  row.retentionDeletedAt = none ∧ row.latest = false ∧
    row.createdAt + processedRetentionDays * microsecondsPerDay < now ∧
    protectedPriorTileSets + 1 < retentionRank rows row

instance (rows : TileSetTable) (days prior now : ℕ) (row : TileSetRow) :
    Decidable (RetentionSelectable rows days prior now row) :=
  inferInstanceAs (Decidable (_ ∧ _))

def selectTileSetRetentionCandidates (rows : TileSetTable)
    (processedRetentionDays protectedPriorTileSets batchLimit now : ℕ) :
    List TileSetRetentionCandidate :=
  (Table.select (RetentionSelectable rows processedRetentionDays protectedPriorTileSets now)
    (fun a b => a.createdAt < b.createdAt ∨ (a.createdAt = b.createdAt ∧ a.id ≤ b.id))
    batchLimit rows).map fun row => {
      tileSetId := row.id
      classificationVersion := row.classificationVersion
      manifestBlobPath := row.manifestBlobPath
      createdAt := row.createdAt
      tileCount := row.tileCount }

end TileSetTable

/-- What is uploaded there: a tile's bytes, an immutable manifest, or the pointer. -/
inductive ProcessedBlob where
  | tile
  | manifest (manifest : TileManifest)
  | latestPointer (pointer : LatestManifestPointer)
deriving DecidableEq, Repr

/-- Blobs by path, each path once. -/
abbrev BlobStore := List (String × ProcessedBlob)

namespace BlobStore

def upload (store : BlobStore) (path : String) (blob : ProcessedBlob) : BlobStore :=
  store.filter (fun entry => entry.1 ≠ path) ++ [(path, blob)]

def delete (store : BlobStore) (path : String) : BlobStore :=
  store.filter fun entry => entry.1 ≠ path

def Exists (store : BlobStore) (path : String) : Prop := ∃ blob, (path, blob) ∈ store

instance (store : BlobStore) (path : String) : Decidable (store.Exists path) :=
  decidable_of_iff (∃ entry ∈ store, entry.1 = path) (by
    constructor
    · rintro ⟨⟨p, blob⟩, h, rfl⟩
      exact ⟨blob, h⟩
    · rintro ⟨blob, h⟩
      exact ⟨_, h, rfl⟩)

/-- One page of a listing: at most `maxResults` paths in order, and whether there are more. -/
def listWithPrefix (store : BlobStore) (pathPrefix : String) (maxResults : ℕ) :
    List String × Bool :=
  let paths := ((store.map Prod.fst).filter fun path => startsWith path pathPrefix).insertionSort
    (fun a b => a ≤ b)
  (paths.take maxResults, maxResults < paths.length)

theorem mem_upload {store : BlobStore} {path path' : String} {blob blob' : ProcessedBlob} :
    (path', blob') ∈ store.upload path blob ↔
      ((path', blob') ∈ store ∧ path' ≠ path) ∨ (path' = path ∧ blob' = blob) := by
  simp [upload]

theorem mem_delete {store : BlobStore} {path path' : String} {blob : ProcessedBlob} :
    (path', blob) ∈ store.delete path ↔ (path', blob) ∈ store ∧ path' ≠ path := by
  simp [delete]

theorem exists_upload_self (store : BlobStore) (path : String) (blob : ProcessedBlob) :
    (store.upload path blob).Exists path := ⟨blob, mem_upload.mpr (.inr ⟨rfl, rfl⟩)⟩

theorem Exists.upload {store : BlobStore} {path : String} (h : store.Exists path) (path' : String)
    (blob : ProcessedBlob) : (store.upload path' blob).Exists path := by
  obtain ⟨old, hold⟩ := h
  by_cases heq : path = path'
  · subst heq
    exact exists_upload_self store path blob
  · exact ⟨old, mem_upload.mpr (.inl ⟨hold, heq⟩)⟩

theorem Exists.delete {store : BlobStore} {path path' : String} (h : store.Exists path)
    (hne : path ≠ path') : (store.delete path').Exists path := by
  obtain ⟨blob, hblob⟩ := h
  exact ⟨blob, mem_delete.mpr ⟨hblob, hne⟩⟩

end BlobStore
end LumenHorizon.Processing
