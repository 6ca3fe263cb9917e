import LumenHorizon.Ingest.RawPaths
import LumenHorizon.Processing.Commands

/-! # Whether a granule has a place on the map

Ingest and the message's constructor accept every tile of two digits each way. Processing places
tiles on the grid of 36 by 18, after the granule was downloaded and inspected.
-/

namespace LumenHorizon.Processing
open Foundation Shared SlippyTiles Ingest

/-- `viirs_tile_bounds` finds the tile's place. -/
def Placeable (tileH tileV : ℤ) : Prop :=
  ∃ bounds : GeographicBounds ℚ, viirsTileBounds tileH tileV = .ok bounds

/-- The tile is not past the last column or the last row of the VIIRS grid. -/
def WithinGrid (tileH tileV : ℤ) : Prop := tileH ≤ 35 ∧ tileV ≤ 17

instance (tileH tileV : ℤ) : Decidable (WithinGrid tileH tileV) :=
  inferInstanceAs (Decidable (_ ∧ _))

theorem placeable_iff {tileH tileV : ℤ} (hh : 0 ≤ tileH) (hv : 0 ≤ tileV) :
    Placeable tileH tileV ↔ WithinGrid tileH tileV := by
  simp only [Placeable, viirsTileBounds_eq_ok_iff, WithinGrid]
  constructor
  · rintro ⟨bounds, ⟨-, hh⟩, ⟨-, hv⟩, -⟩
    exact ⟨hh, hv⟩
  · rintro ⟨hh', hv'⟩
    exact ⟨_, ⟨hh, hh'⟩, ⟨hv, hv'⟩, rfl⟩

/-- The first tile that the texts of an entry name, in the order they are searched in. -/
def namedTile (entry : CmrEntry) : Option TileCoordinate :=
  (TileCoordinate.parseFrom (entry.producerGranuleId.getD entry.title).toList).or
    ((TileCoordinate.parseFrom entry.title.toList).or
      (entry.dataHref.bind fun dataHref => TileCoordinate.parseFrom dataHref.toList))

theorem namedTile_of_parseEntry {parseTime : String → Option DateTime} {product : String}
    {entry : CmrEntry} {granule : GranuleCandidate}
    (h : parseEntry parseTime product entry = some granule) :
    namedTile entry = some granule.tile := by
  simp only [parseEntry, Option.bind_eq_bind, Option.bind_eq_some_iff, Option.pure_def] at h
  obtain ⟨dataHref, hhref, tile, htile, _, -, h⟩ := h
  obtain rfl := Option.some.inj h
  rw [namedTile, hhref]
  exact htile

/-- What processing answers for a tile that is not on the grid. -/
def refusedTile (message : ProcessingMessage) : ProcessingProgram (Except ServiceError Unit) :=
  pure (.error (.generate (tileMathDisplay (.invalidViirsTile message.tileH message.tileV))))

/-- Processing gives up before it generates anything exactly if the tile has no place. -/
theorem publishGranule_refused_iff (config : ProcessingConfig) (message : ProcessingMessage)
    (promotedAt : ℕ) (inspection : Inspection) (processingLog : ProcessingLogRecord) :
    publishGranule config message promotedAt inspection processingLog = refusedTile message ↔
      ¬ Placeable message.tileH message.tileV := by
  by_cases hplace : Placeable message.tileH message.tileV
  · obtain ⟨bounds, hbounds⟩ := hplace
    have hnext : (publishGranule config message promotedAt inspection processingLog).next? =
        some (.generateTiles message inspection) := by
      unfold publishGranule
      rw [hbounds]
      rfl
    constructor
    · intro heq
      rw [heq] at hnext
      cases hnext
    · exact fun h => absurd ⟨bounds, hbounds⟩ h
  · have herror : viirsTileBounds (K := ℚ) message.tileH message.tileV =
        .error (.invalidViirsTile message.tileH message.tileV) := by
      unfold viirsTileBounds
      refine if_pos ?_
      by_contra hrange
      apply hplace
      unfold Placeable viirsTileBounds
      rw [if_neg hrange]
      exact ⟨_, rfl⟩
    refine iff_of_true ?_ hplace
    unfold publishGranule
    rw [herror]
    rfl

/-- What ingest and the constructor accept can be placed, and is not given up for its tile, exactly
if the tile that the texts name is on the grid. -/
theorem accepted_placeable_iff (parseTime : String → Option DateTime) (product : String)
    (entry : CmrEntry) (granule : GranuleCandidate)
    (hentry : parseEntry parseTime product entry = some granule) (ingestId : Uuid)
    (blobPath messageProduct : String) (granuleDate : DateTime) (tileH tileV : ℤ)
    (message : ProcessingMessage)
    (hmessage : ProcessingMessage.new ingestId blobPath messageProduct granuleDate tileH tileV =
      .ok message)
    (config : ProcessingConfig) (promotedAt : ℕ) (inspection : Inspection)
    (processingLog : ProcessingLogRecord) :
    (Placeable granule.tile.h granule.tile.v ↔
        ∃ tile, namedTile entry = some tile ∧ WithinGrid tile.h tile.v) ∧
      (Placeable message.tileH message.tileV ↔ WithinGrid tileH tileV) ∧
      (publishGranule config message promotedAt inspection processingLog ≠ refusedTile message ↔
        WithinGrid tileH tileV) := by
  obtain ⟨-, hh, hv⟩ := ProcessingMessage.new_fields hmessage
  obtain ⟨hh0, hv0⟩ := parseFirstTile_nonneg message.tileInPath
  have hplace : Placeable message.tileH message.tileV ↔ WithinGrid tileH tileV := by
    rw [placeable_iff hh0 hv0, hh, hv]
  refine ⟨?_, hplace, ?_⟩
  · rw [namedTile_of_parseEntry hentry, placeable_iff (by omega) (by omega)]
    simp
  · rw [ne_eq, publishGranule_refused_iff, not_not, hplace]

/-- The entry of a granule whose producer id names a tile east of the last column. -/
def strayEntry : CmrEntry :=
  { contractEntry with producerGranuleId := some "VNP46A2.A2024142.h36v05.002.h5" }

def strayGranule : GranuleCandidate :=
  { contractGranule with
    producerGranuleId := "VNP46A2.A2024142.h36v05.002.h5", tile := { h := 36, v := 5 } }

theorem accepted_placeable_contract :
    (Placeable 8 5 ↔ ∃ tile, namedTile contractEntry = some tile ∧ WithinGrid tile.h tile.v) ∧
      (Placeable 8 5 ↔ WithinGrid 8 5) ∧
      (publishGranule sampleConfig (sampleProcessingMessage 1) 0 (sampleEnv .ok 0 0).inspection
        { id := 1, attempts := 1 } ≠ refusedTile (sampleProcessingMessage 1) ↔ WithinGrid 8 5) :=
  accepted_placeable_iff parseSampleTime "VNP46A2" contractEntry contractGranule
    (by decide +kernel) 1 "h08v05.h5" "VNP46A2"
    { year := 2024, month := 5, day := 21, nanoOfDay := 0 } 8 5 (sampleProcessingMessage 1)
    (by decide +kernel) sampleConfig 0 (sampleEnv .ok 0 0).inspection { id := 1, attempts := 1 }

/-- The granule is accepted, so is the message for it, and its tile has no place. -/
theorem not_accepted_placeable :
    parseEntry parseSampleTime "VNP46A2" strayEntry = some strayGranule ∧
      ¬ Placeable strayGranule.tile.h strayGranule.tile.v ∧
      ∃ message, processingMessageFromGranule 1 strayGranule "VNP46A2/2024-05-21/h36v05.h5" =
          .ok message ∧
        ¬ Placeable message.tileH message.tileV := by
  have hplace : ¬ Placeable 36 5 := by
    rw [placeable_iff (by decide) (by decide)]
    decide
  have hpath : RelativeBlobPath "VNP46A2/2024-05-21/h36v05.h5" := by decide
  have htile : parseFirstTile "VNP46A2/2024-05-21/h36v05.h5".toList = some (36, 5) := by decide
  have hmessage := ProcessingMessage.new_of_valid 1 .vnp46A2 strayGranule.granuleDate hpath htile
  exact ⟨by decide +kernel, hplace, _, hmessage, hplace⟩

end LumenHorizon.Processing
