import LumenHorizon.Processing.Publishers

/-! # Which attempts share their artifacts

The id of a tile set is put together from the date of the granule, the configured version, the
first eight digits of the ingest id and the number of the attempt. The blobs of an attempt live
under its id, so two attempts write to one path only if their ids are the same.
-/

namespace LumenHorizon.Processing
open Foundation Shared ProcessingProgram Program SlippyTiles

/-- The `ingest_prefix` of `tile_set_id_for_message`. -/
def ingestPrefix (ingestId : Uuid) : List Char := (uuidSimple ingestId).take 8

theorem hyphen_ne_hexDigit (n : ℕ) : '-' ≠ hexDigit n := by
  unfold hexDigit
  cases hdigit : ("0123456789abcdef".toList)[n]? with
  | none => decide
  | some c =>
    rintro rfl
    exact absurd (List.mem_of_getElem? hdigit) (by decide)

theorem hyphen_notMem_ingestPrefix (ingestId : Uuid) : '-' ∉ ingestPrefix ingestId := by
  intro h
  obtain ⟨i, -, hi⟩ := List.mem_map.mp (List.mem_of_mem_take h)
  exact hyphen_ne_hexDigit _ hi.symm

theorem toList_tileSetIdForMessage (config : ProcessingConfig) (message : ProcessingMessage)
    (attempt : ℕ) : (tileSetIdForMessage config message attempt).toList =
      ((message.granuleDate.formatDate.toList ++ '-' :: config.tileClassificationVersion.toList) ++
        '-' :: ingestPrefix message.ingestId) ++
          '-' :: 'a' :: (toString (max attempt 1)).toList := by
  have hhyphen : "-".toList = ['-'] := by decide
  have hattempt : "-a".toList = ['-', 'a'] := by decide
  simp only [tileSetIdForMessage, ingestPrefix, String.toList_append, String.toList_ofList,
    hhyphen, hattempt, List.append_assoc, List.cons_append, List.nil_append]

theorem hyphen_notMem_attempt (attempt : ℕ) :
    '-' ∉ 'a' :: (toString (max attempt 1)).toList := by
  intro h
  rcases List.mem_cons.mp h with h | h
  · exact absurd h (by decide)
  · exact Text.notMem_of_forall_isDigit (fun _ hd => Text.isDigit_of_mem_toString hd) (by decide) h

/-- Two ids of one version agree exactly in what they are made of. The version may contain hyphens
itself, so the parts are taken off from the right. -/
theorem tileSetIdForMessage_eq_iff {config config' : ProcessingConfig}
    {message message' : ProcessingMessage} {attempt attempt' : ℕ}
    (hversion : config.tileClassificationVersion = config'.tileClassificationVersion) :
    tileSetIdForMessage config message attempt = tileSetIdForMessage config' message' attempt' ↔
      message.granuleDate.formatDate = message'.granuleDate.formatDate ∧
        ingestPrefix message.ingestId = ingestPrefix message'.ingestId ∧
        max attempt 1 = max attempt' 1 := by
  rw [← String.toList_inj, toList_tileSetIdForMessage, toList_tileSetIdForMessage,
    Text.separator_append_inj (hyphen_notMem_attempt _) (hyphen_notMem_attempt _),
    Text.separator_append_inj (hyphen_notMem_ingestPrefix _) (hyphen_notMem_ingestPrefix _),
    hversion, List.append_cancel_right_eq, String.toList_inj, and_assoc]
  constructor
  · rintro ⟨hdate, hingest, hnumber⟩
    exact ⟨hdate, hingest, Text.toString_inj (String.toList_injective (List.cons.inj hnumber).2)⟩
  · rintro ⟨hdate, hingest, hnumber⟩
    exact ⟨hdate, hingest, by rw [hnumber]⟩

/-- Whether a blob is one of the immutable ones: a tile or a manifest. -/
def ProcessedBlob.Immutable : ProcessedBlob → Prop
  | .latestPointer _ => False
  | _ => True

/-- Along some replies that the services can give, the attempt uploads an immutable blob there. -/
def Publisher.Uploads (publisher : Publisher) (path : String) : Prop :=
  ∃ t blob next, publisher.publish.Follows t (.call (.uploadProcessedBlob path blob) next) ∧
    (∀ entry ∈ t, Possible entry.1 entry.2) ∧ blob.Immutable

theorem Publisher.Uploads.path {publisher : Publisher} {path : String}
    (h : publisher.Uploads path) :
    (∃ coord, tileBlobPath publisher.tileSetId coord = .ok path) ∨
      manifestBlobPath publisher.tileSetId = .ok path := by
  obtain ⟨t, blob, next, hfollows, ht, himmutable⟩ := h
  have hrule : PublisherRule publisher (t ++ []) (.uploadProcessedBlob path blob) :=
    ((publish_meets publisher).of_follows hfollows ht).1
  cases blob with
  | tile =>
    obtain ⟨tile, -, hpath⟩ := hrule
    exact .inl ⟨tile.coord, hpath⟩
  | manifest manifest => exact .inr hrule.2.1
  | latestPointer pointer => exact himmutable.elim

/-- Attempts with different ids write to different paths. -/
theorem Publisher.Uploads.tileSetId_eq {publisher publisher' : Publisher} {path : String}
    (h : publisher.Uploads path) (h' : publisher'.Uploads path) :
    publisher.tileSetId = publisher'.tileSetId := by
  rcases h.path with ⟨coord, hpath⟩ | hpath <;> rcases h'.path with ⟨coord', hpath'⟩ | hpath'
  · have hvalid := validTileSetId_of_tileBlobPath hpath'
    apply tileSetId_eq_of_startsWith hpath hvalid
    obtain ⟨rest, rfl⟩ := startsWith_tiles_of_tileBlobPath hpath'
    exact startsWith_append _ rest
  · exact absurd rfl (tileBlobPath_ne_manifest hpath hpath')
  · exact absurd rfl (tileBlobPath_ne_manifest hpath' hpath)
  · exact manifestBlobPath_injective hpath hpath'

/-- Attempts that differ in their number or in the first eight digits of their ingest ids have
different ids, and neither writes an immutable blob where the other one may. -/
theorem artifacts_disjoint (publisher publisher' : Publisher)
    (hversion : publisher.config.tileClassificationVersion =
      publisher'.config.tileClassificationVersion)
    (hattempt : 1 ≤ publisher.attempt) (hattempt' : 1 ≤ publisher'.attempt)
    (hdiffer : ingestPrefix publisher.message.ingestId ≠ ingestPrefix publisher'.message.ingestId ∨
      publisher.attempt ≠ publisher'.attempt) :
    publisher.tileSetId ≠ publisher'.tileSetId ∧
      ∀ path, publisher.Uploads path → ¬ publisher'.Uploads path := by
  have hids : publisher.tileSetId ≠ publisher'.tileSetId := by
    intro heq
    obtain ⟨-, hingest, hnumber⟩ := (tileSetIdForMessage_eq_iff hversion).mp heq
    rw [max_eq_left hattempt, max_eq_left hattempt'] at hnumber
    exact hdiffer.elim (fun h => h hingest) (fun h => h hnumber)
  exact ⟨hids, fun path h h' => hids (h.tileSetId_eq h')⟩

def sampleAttempt (ingestId : Uuid) (attempt : ℕ) : Publisher :=
  { samplePublisher attempt [sampleTile] with message := sampleProcessingMessage ingestId }

theorem artifacts_disjoint_of_attempts :
    (sampleAttempt 1 1).tileSetId ≠ (sampleAttempt 1 2).tileSetId ∧
      ∀ path, (sampleAttempt 1 1).Uploads path → ¬ (sampleAttempt 1 2).Uploads path :=
  artifacts_disjoint (sampleAttempt 1 1) (sampleAttempt 1 2) rfl (by decide) (by decide)
    (.inr (by decide))

theorem Publisher.exists_manifest {publisher : Publisher}
    (hvalid : ValidTileSetId publisher.tileSetId) :
    ∃ manifest, publisher.manifest = .ok manifest := by
  have hpath := manifestBlobPath_eq_ok_iff.mpr ⟨hvalid, rfl⟩
  unfold Publisher.manifest TileManifest.fromConfig
  rw [hpath]
  exact ⟨_, rfl⟩

theorem Publisher.uploads_tile {publisher : Publisher} {tile : RenderedTile}
    {tiles : List RenderedTile} (htiles : publisher.tiles = tile :: tiles) {path : String}
    (hpath : tileBlobPath publisher.tileSetId tile.coord = .ok path) : publisher.Uploads path := by
  obtain ⟨manifest, hmanifest⟩ := exists_manifest (validTileSetId_of_tileBlobPath hpath)
  have hid : tileBlobPath manifest.tileSetId tile.coord = .ok path := by
    rw [Publisher.manifest_tileSetId hmanifest]
    exact hpath
  have hfirst : ∃ next, publisher.publish =
      Program.call (.uploadProcessedBlob path .tile) next := by
    simp only [Publisher.publish, hmanifest, publishTileSet, htiles, uploadTiles, hid]
    exact ⟨_, rfl⟩
  obtain ⟨next, hnext⟩ := hfirst
  refine ⟨[], .tile, next, ?_, fun _ h => absurd h List.not_mem_nil, trivial⟩
  rw [hnext]
  exact .start

/-- First attempts on granules of one date, under two version 4 ids with the same first eight
digits. -/
def firstSample : Publisher := sampleAttempt 0xa1b2c3d4000040008000000000000001 1

def secondSample : Publisher := sampleAttempt 0xa1b2c3d4000040008000000000000002 1

/-- Two version 4 ids with the same first eight digits: their first attempts on granules of one
date publish under one id, and both write to the path of the first tile. -/
theorem not_artifacts_disjoint :
    ¬ ∀ publisher publisher' : Publisher,
      publisher.config.tileClassificationVersion = publisher'.config.tileClassificationVersion →
      1 ≤ publisher.attempt → 1 ≤ publisher'.attempt →
      publisher.message.ingestId ≠ publisher'.message.ingestId ∨
        publisher.attempt ≠ publisher'.attempt →
      publisher.tileSetId ≠ publisher'.tileSetId ∨
        ∀ path, publisher.Uploads path → ¬ publisher'.Uploads path := by
  intro h
  have hversion : firstSample.config.tileClassificationVersion =
      secondSample.config.tileClassificationVersion := rfl
  have hids : firstSample.tileSetId = secondSample.tileSetId :=
    (tileSetIdForMessage_eq_iff hversion).mpr ⟨rfl, by decide, rfl⟩
  have hpath : tileBlobPath firstSample.tileSetId sampleTile.coord =
      .ok "tiles/2024-05-21-v1-a1b2c3d4-a1/3/1/2.png" := by decide +kernel
  rcases h firstSample secondSample hversion (by decide) (by decide) (.inl (by decide)) with h | h
  · exact h hids
  · exact h _ (Publisher.uploads_tile rfl hpath) (Publisher.uploads_tile rfl (hids ▸ hpath))

end LumenHorizon.Processing
