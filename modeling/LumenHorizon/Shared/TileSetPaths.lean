import LumenHorizon.Shared.ProcessingMessage
import LumenHorizon.Shared.SlippyTiles

/-! # Blob paths of a tile set

Where the tiles, the immutable manifest and the moving pointer of the processed container live,
and the check on a tile set id that keeps them apart.
-/

namespace LumenHorizon.Shared
open SlippyTiles

/-- `char::is_whitespace`, the Unicode property `White_Space`. -/
def isWhitespace (c : Char) : Bool :=
  let n := c.toNat
  (9 ≤ n && n ≤ 13) || n = 32 || n = 133 || n = 160 || n = 5760 || (8192 ≤ n && n ≤ 8202) ||
    n = 8232 || n = 8233 || n = 8239 || n = 8287 || n = 12288

/-- What `validate_tile_set_id` accepts. -/
def ValidTileSetId (tileSetId : String) : Prop :=
  tileSetId.toList.all isWhitespace = false ∧ '/' ∉ tileSetId.toList ∧ '\\' ∉ tileSetId.toList ∧
    ¬ ['.', '.'] <:+: tileSetId.toList ∧ ¬ startsWith tileSetId "processed-tiles"

instance (tileSetId : String) : Decidable (ValidTileSetId tileSetId) :=
  inferInstanceAs (Decidable (_ ∧ _))

def validateTileSetId (tileSetId : String) : Except TileMathError Unit :=
  if ValidTileSetId tileSetId then .ok () else .error .invalidTileSetId

def tileBlobPath (tileSetId : String) (coord : TileCoord) : Except TileMathError String := do
  validateTileSetId tileSetId
  validateTileCoord coord
  .ok ("tiles/" ++ tileSetId ++ "/" ++ toString coord.z ++ "/" ++ toString coord.x ++ "/" ++
    toString coord.y ++ ".png")

def manifestBlobPath (tileSetId : String) : Except TileMathError String := do
  validateTileSetId tileSetId
  .ok ("manifests/" ++ tileSetId ++ ".json")

def latestManifestBlobPath : String := "manifests/latest.json"

theorem manifestBlobPath_eq_ok_iff {tileSetId path : String} :
    manifestBlobPath tileSetId = .ok path ↔
      ValidTileSetId tileSetId ∧ path = "manifests/" ++ tileSetId ++ ".json" := by
  unfold manifestBlobPath validateTileSetId
  by_cases h : ValidTileSetId tileSetId
  · rw [if_pos h]
    exact ⟨fun heq => ⟨h, (Except.ok.inj heq).symm⟩, fun heq => congrArg Except.ok heq.2.symm⟩
  · rw [if_neg h]
    exact ⟨fun heq => (nomatch heq), fun heq => absurd heq.1 h⟩

theorem manifestBlobPath_injective {id id' path : String} (h : manifestBlobPath id = .ok path)
    (h' : manifestBlobPath id' = .ok path) : id = id' := by
  obtain ⟨-, rfl⟩ := manifestBlobPath_eq_ok_iff.mp h
  obtain ⟨-, heq⟩ := manifestBlobPath_eq_ok_iff.mp h'
  have hchars := congrArg String.toList heq
  simp only [String.toList_append, List.append_assoc, List.append_cancel_left_eq,
    List.append_cancel_right_eq] at hchars
  exact String.toList_injective hchars

/-- The only tile set whose manifest path is the pointer's is one called `latest`. -/
theorem manifestBlobPath_ne_latest {id path : String} (h : manifestBlobPath id = .ok path)
    (hid : id ≠ "latest") : path ≠ latestManifestBlobPath := by
  obtain ⟨-, rfl⟩ := manifestBlobPath_eq_ok_iff.mp h
  intro heq
  have hchars := congrArg String.toList heq
  have hlatest : latestManifestBlobPath.toList =
      "manifests/".toList ++ ("latest".toList ++ ".json".toList) := by decide
  rw [hlatest] at hchars
  simp only [String.toList_append, List.append_assoc, List.append_cancel_left_eq,
    List.append_cancel_right_eq] at hchars
  exact hid (String.toList_injective hchars)

theorem startsWith_tiles_of_tileBlobPath {id path : String} {coord : TileCoord}
    (h : tileBlobPath id coord = .ok path) :
    ∃ rest, path = "tiles/" ++ id ++ "/" ++ rest := by
  simp only [tileBlobPath, Foundation.bind_eq_ok_iff] at h
  obtain ⟨_, -, _, -, h⟩ := h
  refine ⟨toString coord.z ++ "/" ++ toString coord.x ++ "/" ++ toString coord.y ++ ".png", ?_⟩
  rw [← Except.ok.inj h]
  simp [String.append_assoc]

theorem head?_tileBlobPath {id path : String} {coord : TileCoord}
    (h : tileBlobPath id coord = .ok path) : path.toList.head? = some 't' := by
  obtain ⟨rest, rfl⟩ := startsWith_tiles_of_tileBlobPath h
  simp [String.toList_append]

theorem head?_manifestBlobPath {id path : String} (h : manifestBlobPath id = .ok path) :
    path.toList.head? = some 'm' := by
  obtain ⟨-, rfl⟩ := manifestBlobPath_eq_ok_iff.mp h
  simp [String.toList_append]

theorem tileBlobPath_ne_manifest {id id' path path' : String} {coord : TileCoord}
    (h : tileBlobPath id coord = .ok path) (h' : manifestBlobPath id' = .ok path') :
    path ≠ path' := by
  rintro rfl
  have hheads := (head?_tileBlobPath h).symm.trans (head?_manifestBlobPath h')
  exact absurd hheads (by decide)

theorem tileBlobPath_ne_latest {id path : String} {coord : TileCoord}
    (h : tileBlobPath id coord = .ok path) : path ≠ latestManifestBlobPath := by
  rintro rfl
  exact absurd (head?_tileBlobPath h) (by decide)

theorem ValidTileSetId.slash_notMem {tileSetId : String} (h : ValidTileSetId tileSetId) :
    '/' ∉ tileSetId.toList := h.2.1

theorem validTileSetId_of_tileBlobPath {id path : String} {coord : TileCoord}
    (h : tileBlobPath id coord = .ok path) : ValidTileSetId id := by
  simp only [tileBlobPath, Foundation.bind_eq_ok_iff, validateTileSetId] at h
  obtain ⟨_, h, -⟩ := h
  by_contra hvalid
  rw [if_neg hvalid] at h
  cases h

theorem tileSetId_eq_of_startsWith {id id' path : String} {coord : TileCoord}
    (h : tileBlobPath id coord = .ok path) (hvalid : ValidTileSetId id')
    (hstarts : startsWith path ("tiles/" ++ id' ++ "/") = true) : id = id' := by
  obtain ⟨rest, rfl⟩ := startsWith_tiles_of_tileBlobPath h
  obtain ⟨rest', hrest⟩ := List.isPrefixOf_iff_prefix.mp hstarts
  have hslash : "/".toList = ['/'] := by decide
  simp only [String.toList_append, List.append_assoc, List.append_cancel_left_eq, hslash,
    List.cons_append, List.nil_append] at hrest
  have hids := (Foundation.Text.append_separator_inj hvalid.slash_notMem
    (validTileSetId_of_tileBlobPath h).slash_notMem).mp hrest
  exact (String.toList_injective hids.1).symm

end LumenHorizon.Shared
