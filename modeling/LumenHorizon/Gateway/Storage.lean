import LumenHorizon.Shared.Strings

/-! # The paths that the gateway reads manifests from

Its own check on tile set ids, and the one on the path that the moving pointer names.
-/

namespace LumenHorizon.Gateway
open Shared

inductive StorageError where
  | azureStorage (error : String)
  | blobStatus (blobPath : String) (status : ℕ) (body : String)
  | invalidTileSetId
  | invalidLatestManifestPointer
  | parseBlobJson (blobPath error : String)
  | parseLatestPointer (error : String)
  | readBlobBody (error : String)
  | request (error : String)
deriving DecidableEq, Repr

def StorageError.isBlobNotFound : StorageError → Bool
  | blobStatus _ status _ => status = 404
  | _ => false

def latestManifestBlobPath : String := "manifests/latest.json"

def maxTileSetIdLength : ℕ := 160

/-- An ASCII letter or digit, `.`, `_` or `-`. -/
def isTileSetIdChar (c : Char) : Bool := c.isAlphanum || c = '.' || c = '_' || c = '-'

/-- What `validate_tile_set_id` accepts. The bytes it allows are ASCII, so it allows the same
characters. -/
def AcceptedTileSetId (tileSetId : String) : Prop :=
  isBlank tileSetId = false ∧ byteLength tileSetId ≤ maxTileSetIdLength ∧
    tileSetId.toList.all isTileSetIdChar = true ∧ ¬ containsText tileSetId ".." ∧
    ¬ startsWith tileSetId "processed-tiles"

instance (tileSetId : String) : Decidable (AcceptedTileSetId tileSetId) :=
  inferInstanceAs (Decidable (_ ∧ _))

def validateTileSetId (tileSetId : String) : Except StorageError Unit :=
  if AcceptedTileSetId tileSetId then .ok () else .error .invalidTileSetId

def manifestBlobPath (tileSetId : String) : Except StorageError String := do
  validateTileSetId tileSetId
  .ok ("manifests/" ++ tileSetId ++ ".json")

/-- What `validate_manifest_blob_path` accepts. -/
def AcceptedManifestBlobPath (blobPath : String) : Prop :=
  startsWith blobPath "manifests/" ∧ endsWith blobPath ".json" ∧
    blobPath ≠ latestManifestBlobPath ∧ ¬ containsText blobPath ".." ∧ '\\' ∉ blobPath.toList ∧
    isBlank blobPath = false

instance (blobPath : String) : Decidable (AcceptedManifestBlobPath blobPath) :=
  inferInstanceAs (Decidable (_ ∧ _))

def validateManifestBlobPath (blobPath : String) : Except StorageError Unit :=
  if AcceptedManifestBlobPath blobPath then .ok () else .error .invalidLatestManifestPointer

theorem validateTileSetId_eq_ok_iff (tileSetId : String) :
    validateTileSetId tileSetId = .ok () ↔ AcceptedTileSetId tileSetId := by
  unfold validateTileSetId
  split_ifs with h <;> simp [h]

theorem manifestBlobPath_eq_ok_iff {tileSetId path : String} :
    manifestBlobPath tileSetId = .ok path ↔
      AcceptedTileSetId tileSetId ∧ path = "manifests/" ++ tileSetId ++ ".json" := by
  rw [manifestBlobPath, Foundation.bind_eq_ok_iff]
  constructor
  · rintro ⟨_, hvalid, heq⟩
    exact ⟨(validateTileSetId_eq_ok_iff _).mp hvalid, (Except.ok.inj heq).symm⟩
  · rintro ⟨haccepted, rfl⟩
    exact ⟨(), (validateTileSetId_eq_ok_iff _).mpr haccepted, rfl⟩

theorem validateManifestBlobPath_eq_ok_iff (blobPath : String) :
    validateManifestBlobPath blobPath = .ok () ↔ AcceptedManifestBlobPath blobPath := by
  unfold validateManifestBlobPath
  split_ifs with h <;> simp [h]

example : manifestBlobPath "2026-05-21-radiance-dark-sky-v1-a1b2c3d4" =
    .ok "manifests/2026-05-21-radiance-dark-sky-v1-a1b2c3d4.json" := by decide +kernel

end LumenHorizon.Gateway
