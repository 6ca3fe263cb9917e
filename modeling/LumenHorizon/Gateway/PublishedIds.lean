import LumenHorizon.Gateway.Storage
import LumenHorizon.Processing.Artifacts
import LumenHorizon.Processing.Settings

/-! # Whether the gateway can read what processing publishes

Publication checks an id for what would lead out of its directories. The gateway allows a fixed
set of characters and a length. The version in an id is configured freely, so the two differ.
-/

namespace LumenHorizon.Gateway
open Foundation Shared Processing

theorem isTileSetIdChar_of_isDigit {c : Char} (h : c.isDigit = true) :
    isTileSetIdChar c = true := by
  simp [isTileSetIdChar, Char.isAlphanum, h]

theorem pad_all (width n : ℕ) : (pad width n).toList.all isTileSetIdChar = true := by
  rw [List.all_eq_true]
  exact fun c hc => isTileSetIdChar_of_isDigit (isDigit_of_mem_pad hc)

theorem toString_all (n : ℕ) : (toString n).toList.all isTileSetIdChar = true := by
  rw [List.all_eq_true]
  exact fun c hc => isTileSetIdChar_of_isDigit (Text.isDigit_of_mem_toString hc)

theorem hexDigit_mem (n : ℕ) : hexDigit n ∈ "0123456789abcdef".toList := by
  unfold hexDigit
  cases hdigit : ("0123456789abcdef".toList)[n]? with
  | none => decide
  | some c => exact List.mem_of_getElem? hdigit

theorem ingestPrefix_all (ingestId : Uuid) {p : Char → Bool}
    (h : "0123456789abcdef".toList.all p = true) : (ingestPrefix ingestId).all p = true := by
  rw [List.all_eq_true] at h ⊢
  intro c hc
  obtain ⟨i, -, rfl⟩ := List.mem_map.mp (List.mem_of_mem_take hc)
  exact h _ (hexDigit_mem _)

/-- A date is written in allowed characters up to the year that gets a plus sign. -/
theorem formatDate_all_iff (t : DateTime) :
    t.formatDate.toList.all isTileSetIdChar = true ↔ t.year ≤ 9999 := by
  have hplus : isTileSetIdChar '+' = false := by decide
  have hhyphen : isTileSetIdChar '-' = true := by decide
  rw [DateTime.toList_formatDate]
  simp only [List.all_append, List.all_cons, pad_all, hhyphen, Bool.and_true]
  rcases DateTime.toList_formatYear t.year with ⟨hyear, heq⟩ | ⟨hyear, heq⟩
  · rw [heq, pad_all]
    simp [hyear.2]
  · rw [heq, List.all_cons, pad_all, Bool.and_true]
    split_ifs with hneg
    · simp only [hhyphen, true_iff]
      omega
    · simp only [hplus, Bool.false_eq_true, false_iff]
      omega

variable (config : ProcessingConfig) (message : ProcessingMessage) (attempt : ℕ)

theorem tileSetId_all_iff :
    (tileSetIdForMessage config message attempt).toList.all isTileSetIdChar = true ↔
      config.tileClassificationVersion.toList.all isTileSetIdChar = true ∧
        message.granuleDate.year ≤ 9999 := by
  have hhyphen : isTileSetIdChar '-' = true := by decide
  have hattempt : isTileSetIdChar 'a' = true := by decide
  have hdigits : "0123456789abcdef".toList.all isTileSetIdChar = true := by decide
  rw [toList_tileSetIdForMessage]
  simp only [List.all_append, List.all_cons, hhyphen, hattempt, toString_all,
    ingestPrefix_all _ hdigits, Bool.true_and, Bool.and_true, Bool.and_eq_true, formatDate_all_iff]
  exact and_comm

theorem byteLength_tileSetId : byteLength (tileSetIdForMessage config message attempt) =
    byteLength message.granuleDate.formatDate + byteLength config.tileClassificationVersion +
      byteLength (toString (max attempt 1)) + 12 := by
  have hhyphen : byteLength "-" = 1 := by decide
  have hattempt : byteLength "-a" = 2 := by decide
  have hdigits : "0123456789abcdef".toList.all (fun c => c.utf8Size = 1) = true := by decide
  have hprefix : byteLength (String.ofList ((uuidSimple message.ingestId).take 8)) = 8 := by
    have hascii := List.all_eq_true.mp (ingestPrefix_all message.ingestId hdigits)
    rw [byteLength_of_ascii]
    · rw [String.toList_ofList]
      simp [uuidSimple]
    · intro c hc
      rw [String.toList_ofList] at hc
      exact of_decide_eq_true (hascii c hc)
  simp only [tileSetIdForMessage, byteLength_append, hhyphen, hattempt, hprefix]
  omega

/-- The pointer may name every manifest that can be published. -/
theorem acceptedManifestBlobPath {path : String}
    (h : Shared.manifestBlobPath (tileSetIdForMessage config message attempt) = .ok path) :
    AcceptedManifestBlobPath path := by
  obtain ⟨⟨hblank, -, hbackslash, hdots, -⟩, rfl⟩ := Shared.manifestBlobPath_eq_ok_iff.mp h
  have hlast : (tileSetIdForMessage config message attempt).toList.getLast? ≠ some '.' := by
    rw [toList_tileSetIdForMessage, List.getLast?_append_of_ne_nil _ (List.cons_ne_nil _ _)]
    intro hdot
    have hmem := List.mem_of_getLast? hdot
    simp only [List.mem_cons] at hmem
    rcases hmem with hmem | hmem | hmem
    · exact absurd hmem (by decide)
    · exact absurd hmem (by decide)
    · exact absurd (Text.isDigit_of_mem_toString hmem) (by decide)
  refine ⟨?_, endsWith_append _ _, manifestBlobPath_ne_latest h ?_, ?_, ?_, ?_⟩
  · rw [String.append_assoc]
    exact startsWith_append _ _
  · exact tileSetIdForMessage_ne_latest config message attempt
  · rw [containsText]
    simp only [String.toList_append]
    refine Text.pair_not_infix_append (Text.pair_not_infix_append (by decide) hdots (by decide))
      (by decide) ?_
    rwa [List.getLast?_append_of_ne_nil]
    intro hnil
    rw [hnil] at hblank
    cases hblank
  · simp only [String.toList_append, List.mem_append, not_or]
    exact ⟨⟨by decide, hbackslash⟩, by decide⟩
  · have hm : isWhitespace 'm' = false := by decide
    simp [isBlank, String.toList_append, hm]

/-- Whether the gateway finds a tile set: it accepts the id, it looks for the manifest where it was
published, and it follows the pointer to it. -/
def Findable (tileSetId path : String) (pointer : LatestManifestPointer) : Prop :=
  validateTileSetId tileSetId = .ok () ∧ manifestBlobPath tileSetId = .ok path ∧
    validateManifestBlobPath pointer.manifestBlobPath = .ok ()

/-- A tile set that can be published can be found exactly if its version has no other characters
than the gateway's, its date has no sign in front, and the parts of its id are short enough. -/
theorem published_findable_iff {path : String}
    (hpath : Shared.manifestBlobPath (tileSetIdForMessage config message attempt) = .ok path)
    (manifest : TileManifest) (hmanifest : manifest.tileSetId =
      tileSetIdForMessage config message attempt) (updatedAt : ℕ) :
    (∃ pointer, manifest.latestPointer updatedAt = .ok pointer ∧
        Findable (tileSetIdForMessage config message attempt) path pointer) ↔
      config.tileClassificationVersion.toList.all isTileSetIdChar = true ∧
        message.granuleDate.year ≤ 9999 ∧
        byteLength message.granuleDate.formatDate + byteLength config.tileClassificationVersion +
          byteLength (toString (max attempt 1)) ≤ 148 := by
  obtain ⟨⟨hblank, -, -, hdots, hstarts⟩, hvalue⟩ := Shared.manifestBlobPath_eq_ok_iff.mp hpath
  have hpointer : ∃ pointer, manifest.latestPointer updatedAt = .ok pointer ∧
      pointer.manifestBlobPath = path := by
    rw [TileManifest.latestPointer, TileManifest.manifestBlobPath, hmanifest, hpath]
    exact ⟨_, rfl, rfl⟩
  have haccepted : AcceptedTileSetId (tileSetIdForMessage config message attempt) ↔
      byteLength (tileSetIdForMessage config message attempt) ≤ maxTileSetIdLength ∧
        (tileSetIdForMessage config message attempt).toList.all isTileSetIdChar = true := by
    constructor
    · rintro ⟨-, hlength, hchars, -⟩
      exact ⟨hlength, hchars⟩
    · rintro ⟨hlength, hchars⟩
      exact ⟨hblank, hlength, hchars, hdots, hstarts⟩
  have hfound : (∃ pointer, manifest.latestPointer updatedAt = .ok pointer ∧
      Findable (tileSetIdForMessage config message attempt) path pointer) ↔
        AcceptedTileSetId (tileSetIdForMessage config message attempt) := by
    simp only [Findable, validateTileSetId_eq_ok_iff, manifestBlobPath_eq_ok_iff,
      validateManifestBlobPath_eq_ok_iff]
    constructor
    · rintro ⟨_, -, haccepted, -⟩
      exact haccepted
    · intro haccepted
      obtain ⟨pointer, hlatest, hblob⟩ := hpointer
      refine ⟨pointer, hlatest, haccepted, ⟨haccepted, hvalue⟩, ?_⟩
      rw [hblob]
      exact acceptedManifestBlobPath config message attempt hpath
  rw [hfound, haccepted, tileSetId_all_iff, byteLength_tileSetId, maxTileSetIdLength]
  constructor
  · rintro ⟨hlength, hversion, hyear⟩
    exact ⟨hversion, hyear, by omega⟩
  · rintro ⟨hversion, hyear, hlength⟩
    exact ⟨by omega, hversion, hyear⟩

/-- A configuration whose version is the value of the variable. -/
def sampleConfigOf (version : Option String) : ProcessingConfig :=
  { Processing.sampleConfig with
    tileClassificationVersion := tileClassificationVersion version }

def sampleManifest (tileSetId : String) : TileManifest where
  tileSetId := tileSetId
  classificationVersion := "v1"
  tileCount := 0
  sourceGranules := []
  manifestSha256 := ""

theorem published_findable_default :
    (∃ pointer, (sampleManifest "2024-05-21-radiance-dark-sky-v1-00000000-a1").latestPointer 0 =
          .ok pointer ∧
        Findable "2024-05-21-radiance-dark-sky-v1-00000000-a1"
          "manifests/2024-05-21-radiance-dark-sky-v1-00000000-a1.json" pointer) ↔
      "radiance-dark-sky-v1".toList.all isTileSetIdChar = true ∧ (2024 : ℤ) ≤ 9999 ∧
        byteLength "2024-05-21" + byteLength "radiance-dark-sky-v1" + byteLength "1" ≤ 148 :=
  published_findable_iff (sampleConfigOf none) (sampleProcessingMessage 1) 1 (by decide +kernel)
    (sampleManifest "2024-05-21-radiance-dark-sky-v1-00000000-a1") (by decide +kernel) 0

/-- A version with a space in it is published, and the gateway refuses its id. -/
theorem not_published_findable :
    Shared.manifestBlobPath (tileSetIdForMessage (sampleConfigOf (some "dark sky v2"))
        (sampleProcessingMessage 1) 1) =
        .ok "manifests/2024-05-21-dark sky v2-00000000-a1.json" ∧
      validateTileSetId (tileSetIdForMessage (sampleConfigOf (some "dark sky v2"))
        (sampleProcessingMessage 1) 1) = .error .invalidTileSetId := by
  decide +kernel

end LumenHorizon.Gateway
