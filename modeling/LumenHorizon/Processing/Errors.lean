import LumenHorizon.Shared.TileSetPaths

/-! # Errors of the processing service

The errors that reach the queue worker and the database, with the texts they print as. An error
of a part outside the model is kept by its own text.
-/

namespace LumenHorizon.Processing
open Shared SlippyTiles

/-- The `Display` texts. -/
def tileMathDisplay : TileMathError → String
  | .invalidBounds => "invalid geographic bounds"
  | .invalidViirsTile tileH tileV => "invalid VIIRS tile h" ++ pad2 tileH ++ "v" ++ pad2 tileV
  | .invalidTileSetId => "invalid tile set id"
  | .xOutOfRange z x max => "tile x " ++ toString x ++ " is outside zoom " ++ toString z ++
      " range 0..=" ++ toString max
  | .yOutOfRange z y max => "tile y " ++ toString y ++ " is outside zoom " ++ toString z ++
      " range 0..=" ++ toString max
  | .zoomTooLarge z => "tile zoom " ++ toString z ++ " exceeds supported maximum"

def hexDigit (n : ℕ) : Char := (("0123456789abcdef".toList)[n]?).getD '0'

/-- `Uuid::simple`: the 32 digits of the 128 bits. -/
def uuidSimple (id : Uuid) : List Char :=
  (List.range 32).map fun i => hexDigit (id / 16 ^ (31 - i) % 16)

/-- The hyphenated form a UUID prints as. -/
def uuidDisplay (id : Uuid) : String :=
  let digits := uuidSimple id
  let group (start length : ℕ) := (digits.drop start).take length
  String.ofList (group 0 8 ++ ['-'] ++ group 8 4 ++ ['-'] ++ group 12 4 ++ ['-'] ++ group 16 4 ++
    ['-'] ++ group 20 12)

/-- The variants that carry a `sqlx::Error` are kept with its text. -/
inductive DbError where
  | commitTransaction (error : String)
  | connect (error : String)
  | insertTileSet (error : String)
  | insertRetentionEvent (error : String)
  | manifest (error : TileMathError)
  | missingIngestLog (ingestId : Uuid)
  | promoteTileSet (error : String)
  | selectRetentionCandidates (error : String)
  | tileCountTooLarge (tileCount : ℕ)
  | tileSetNotFound (tileSetId : String)
  | updateProcessingLog (error : String)
  | updateRetentionMetadata (error : String)
  | upsertProcessingLog (error : String)
deriving DecidableEq, Repr

def DbError.display : DbError → String
  | commitTransaction error => "database error: failed to commit transaction: " ++ error
  | connect error => "database error: failed to connect to PostgreSQL: " ++ error
  | insertTileSet error => "database error: failed to insert tile_set: " ++ error
  | insertRetentionEvent error =>
      "database error: failed to insert retention cleanup event: " ++ error
  | manifest error => tileMathDisplay error
  | missingIngestLog ingestId =>
      "database error: processing queue message references missing ingest_log row: " ++
        uuidDisplay ingestId
  | promoteTileSet error => "database error: failed to promote tile_set: " ++ error
  | selectRetentionCandidates error =>
      "database error: failed to select retention candidates: " ++ error
  | tileCountTooLarge tileCount => "database error: tile_count " ++ toString tileCount ++
      " exceeds PostgreSQL integer range"
  | tileSetNotFound tileSetId => "database error: tile_set '" ++ tileSetId ++ "' does not exist"
  | updateProcessingLog error => "database error: failed to update processing_log: " ++ error
  | updateRetentionMetadata error =>
      "database error: failed to update retention metadata: " ++ error
  | upsertProcessingLog error => "database error: failed to upsert processing_log: " ++ error

structure StorageError where
  text : String
deriving DecidableEq, Repr

inductive PublishError where
  | database (error : DbError)
  | manifest (error : TileMathError)
  | storage (error : StorageError)
  | tileMath (error : TileMathError)
deriving DecidableEq, Repr

def PublishError.display : PublishError → String
  | database error => error.display
  | manifest error => tileMathDisplay error
  | storage error => error.text
  | tileMath error => tileMathDisplay error

inductive RetentionError where
  | database (error : DbError)
  | latestManifestSelected (tileSetId : String)
  | manifestPathMismatch (tileSetId expected actual : String)
  | storage (error : StorageError)
  | tileMath (error : TileMathError)
deriving DecidableEq, Repr

def RetentionError.display : RetentionError → String
  | database error => error.display
  | latestManifestSelected tileSetId =>
      "retention cleanup tried to select latest manifest pointer for tile set '" ++ tileSetId ++ "'"
  | manifestPathMismatch tileSetId expected actual =>
      "retention cleanup manifest path mismatch for tile set '" ++ tileSetId ++ "': expected '" ++
        expected ++ "', got '" ++ actual ++ "'"
  | storage error => error.text
  | tileMath error => tileMathDisplay error

/-- The errors of one command; tile generation, the HDF tools and the science layer by their
texts. -/
inductive ServiceError where
  | database (error : DbError)
  | generate (error : String)
  | hdfCli (error : String)
  | processingMessage (error : ProcessingMessageValidationError)
  | publish (error : PublishError)
  | retention (error : RetentionError)
  | science (error : String)
  | storage (error : StorageError)
deriving DecidableEq, Repr

def ServiceError.display : ServiceError → String
  | database error => error.display
  | generate error => error
  | hdfCli error => error
  | processingMessage error => error.display
  | publish error => error.display
  | retention error => error.display
  | science error => error
  | storage error => error.text

end LumenHorizon.Processing
