import LumenHorizon.Shared.ProcessingMessage

/-! # Ingest data model

Granule candidates as discovery returns them, the statuses of an ingest row, and the check on
downloaded bytes.
-/

namespace LumenHorizon.Ingest
open Shared

inductive IngestStatus where
  | downloading
  | downloaded
  | validated
  | enqueued
  | rejected
  | failed
  | recoveryPending
  | replayPending
deriving DecidableEq, Repr

structure TileCoordinate where
  h : ℕ
  v : ℕ
deriving DecidableEq, Repr

def TileCoordinate.parseTwoDigits (tens ones : Char) : ℕ :=
  (tens.toNat - 48) * 10 + (ones.toNat - 48)

/-- The first `hDDvDD` in a text, over characters as the six bytes are ASCII. -/
def TileCoordinate.parseFrom : List Char → Option TileCoordinate
  | c0 :: c1 :: c2 :: c3 :: c4 :: c5 :: rest =>
    if c0 = 'h' ∧ c1.isDigit ∧ c2.isDigit ∧ c3 = 'v' ∧ c4.isDigit ∧ c5.isDigit then
      some { h := parseTwoDigits c1 c2, v := parseTwoDigits c4 c5 }
    else parseFrom (c1 :: c2 :: c3 :: c4 :: c5 :: rest)
  | _ => none

structure GranuleCandidate where
  product : String
  title : String
  producerGranuleId : String
  dataHref : String
  granuleDate : DateTime
  tile : TileCoordinate
deriving DecidableEq, Repr

def GranuleCandidate.rawBlobPath (granule : GranuleCandidate) : String :=
  granule.product ++ "/" ++ granule.granuleDate.formatDate ++ "/h" ++
    pad 2 granule.tile.h ++ "v" ++ pad 2 granule.tile.v ++ ".h5"

def rawViirsContainer : String := "raw-viirs"

structure BlobPathValidationError where
  blobPath : String
  reason : String
deriving DecidableEq, Repr

def BlobPathValidationError.display (error : BlobPathValidationError) : String :=
  "invalid blob path '" ++ error.blobPath ++ "': " ++ error.reason

def validateRawBlobPath (blobPath : String) : Except BlobPathValidationError Unit :=
  if blobPath = "" then .error ⟨blobPath, "path must not be empty"⟩
  else if startsWith blobPath "/" then .error ⟨blobPath, "path must be relative"⟩
  else if startsWith blobPath "https://" ∨ startsWith blobPath "http://" then
    .error ⟨blobPath, "path must not be a URL"⟩
  else if startsWith blobPath (rawViirsContainer ++ "/") then
    .error ⟨blobPath, "path must not include the raw blob container prefix"⟩
  else .ok ()

theorem validateRawBlobPath_eq_ok_iff (blobPath : String) :
    validateRawBlobPath blobPath = .ok () ↔ RelativeBlobPath blobPath := by
  have hcontainer : rawViirsContainer ++ "/" = "raw-viirs/" := by decide
  unfold validateRawBlobPath RelativeBlobPath
  rw [hcontainer]
  split_ifs with hempty hslash hurl hinside
  · simp [hempty]
  · simp [hslash]
  · rcases hurl with h | h <;> simp [h]
  · simp [hinside]
  · rw [not_or] at hurl
    exact iff_of_true rfl ⟨hempty, hslash, hurl.2, hurl.1, hinside⟩

def processingMessageFromGranule (ingestId : Uuid) (granule : GranuleCandidate)
    (blobPath : String) : Except ProcessingMessageValidationError ProcessingMessage :=
  ProcessingMessage.new ingestId blobPath granule.product granule.granuleDate granule.tile.h
    granule.tile.v

/-- `b"\x89HDF\r\n\x1A\n"`. -/
def hdf5Magic : List UInt8 := [0x89, 0x48, 0x44, 0x46, 0x0d, 0x0a, 0x1a, 0x0a]

inductive RawGranuleValidationError where
  | missingHdf5Magic
  | tooSmall (actualSize minimumSize : ℕ)
deriving DecidableEq, Repr

def validateRawGranuleBytes (bytes : List UInt8) : Except RawGranuleValidationError Unit :=
  if bytes.length < hdf5Magic.length then
    .error (.tooSmall bytes.length hdf5Magic.length)
  else if ¬ hdf5Magic <+: bytes then .error .missingHdf5Magic
  else .ok ()

end LumenHorizon.Ingest
