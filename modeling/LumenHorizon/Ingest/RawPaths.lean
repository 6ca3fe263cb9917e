import LumenHorizon.Ingest.Discovery
import LumenHorizon.Ingest.IngestLog

/-! # The paths of raw granules

A raw granule is stored under its product, its calendar date and its tile. Which rows share a path
is read off it again, and so is the tile, by the scan of the processing service.
-/

namespace LumenHorizon.Ingest
open Foundation Shared

/-- The product is one that the services process. -/
def Supported (product : String) : Prop := ∃ kind : ProcessingProduct, product = kind.asStr

def productChars : List Char := "VNPJ146A23".toList

theorem Supported.notMem {product : String} (h : Supported product) {c : Char}
    (hc : c ∉ productChars) : c ∉ product.toList := by
  obtain ⟨kind, rfl⟩ := h
  have hchars : kind.asStr.toList.all (fun c => decide (c ∈ productChars)) = true := by
    cases kind <;> decide
  exact fun hmem => hc (of_decide_eq_true (List.all_eq_true.mp hchars c hmem))

theorem toList_rawBlobPath (granule : GranuleCandidate) : granule.rawBlobPath.toList =
    granule.product.toList ++ '/' :: (granule.granuleDate.formatDate.toList ++
      '/' :: 'h' :: ((pad 2 granule.tile.h).toList ++
        'v' :: ((pad 2 granule.tile.v).toList ++ ['.', 'h', '5']))) := by
  have hslash : "/".toList = ['/'] := by decide
  have htile : "/h".toList = ['/', 'h'] := by decide
  have hrow : "v".toList = ['v'] := by decide
  have hending : ".h5".toList = ['.', 'h', '5'] := by decide
  simp only [GranuleCandidate.rawBlobPath, String.toList_append, hslash, htile, hrow, hending,
    List.append_assoc, List.cons_append, List.nil_append]

def SamePath (granule granule' : GranuleCandidate) : Prop :=
  granule.product = granule'.product ∧ granule.tile = granule'.tile ∧
    granule.granuleDate.year = granule'.granuleDate.year ∧
    granule.granuleDate.month = granule'.granuleDate.month ∧
    granule.granuleDate.day = granule'.granuleDate.day

theorem rawBlobPath_eq_iff {granule granule' : GranuleCandidate} (h : Supported granule.product)
    (h' : Supported granule'.product) :
    granule.rawBlobPath = granule'.rawBlobPath ↔ SamePath granule granule' := by
  have hdate (t : DateTime) : '/' ∉ t.formatDate.toList := fun hmem => by
    rcases DateTime.mem_formatDate hmem with h | h | h <;> revert h <;> decide
  have hpad (n : ℕ) : 'v' ∉ (pad 2 n).toList := notMem_pad (by decide) 2 n
  rw [← String.toList_inj, toList_rawBlobPath, toList_rawBlobPath,
    Text.append_separator_inj (h.notMem (by decide)) (h'.notMem (by decide)),
    Text.append_separator_inj (hdate _) (hdate _), List.cons_inj_right,
    Text.append_separator_inj (hpad _) (hpad _), List.append_cancel_right_eq, String.toList_inj,
    String.toList_inj, String.toList_inj, String.toList_inj, DateTime.formatDate_inj, pad_inj,
    pad_inj]
  constructor
  · rintro ⟨hproduct, hdate, hh, hv⟩
    refine ⟨hproduct, ?_, hdate⟩
    cases htile : granule.tile
    cases htile' : granule'.tile
    simp_all
  · rintro ⟨hproduct, htile, hdate⟩
    exact ⟨hproduct, hdate, by rw [htile], by rw [htile]⟩

/-- Two granules that are stored as two rows share a path exactly if they differ in the time of day
only. -/
theorem rawBlobPath_eq_iff_of_stored (t : Tables) (granule granule' : GranuleCandidate)
    (hsupported : Supported granule.product) (hsupported' : Supported granule'.product)
    (blobPath : String) (ingestId : Uuid) (now : ℕ)
    (hstored : ∃ row ∈ t.ingestLog, SameGranule granule row)
    (hcreated : (t.insertDownloadingRow granule' blobPath ingestId now).2 = .created ingestId) :
    granule.rawBlobPath = granule'.rawBlobPath ↔
      SamePath granule granule' ∧ granule.granuleDate.nanoOfDay ≠ granule'.granuleDate.nanoOfDay := by
  rw [rawBlobPath_eq_iff hsupported hsupported']
  refine ⟨fun hsame => ⟨hsame, fun htime => ?_⟩, And.left⟩
  obtain ⟨row, hrow, hproduct, hh, hv, hdate⟩ := hstored
  obtain ⟨hproduct', htile, hyear, hmonth, hday⟩ := hsame
  -- the uniqueness key would be the same
  have hsameDate : granule.granuleDate = granule'.granuleDate := by
    cases hd : granule.granuleDate
    cases hd' : granule'.granuleDate
    simp_all
  have hduplicate : ∃ row ∈ t.ingestLog, SameGranule granule' row :=
    ⟨row, hrow, hproduct.trans hproduct', by rw [hh, htile], by rw [hv, htile],
      hdate.trans (congrArg DateTime.timestamptz hsameDate)⟩
  rw [Tables.insertDownloadingRow, if_pos hduplicate] at hcreated
  cases hcreated

/-- A granule of 21 May 2024 that starts at this time of day. -/
def sampleGranuleAt (product : String) (nanoOfDay : ℕ) : GranuleCandidate where
  product := product
  title := product ++ ".A2024142.h08v05.002.h5"
  producerGranuleId := product ++ ".A2024142.h08v05.002.h5"
  dataHref := "https://example/" ++ product ++ ".A2024142.h08v05.002.h5"
  granuleDate := { year := 2024, month := 5, day := 21, nanoOfDay := nanoOfDay }
  tile := { h := 8, v := 5 }

def noTables : Tables where
  ingestLog := []
  outbox := []

def midnightStored : Tables :=
  (noTables.insertDownloadingRow (sampleGranuleAt "VNP46A2" 0) "VNP46A2/2024-05-21/h08v05.h5" 1 0).1

theorem rawBlobPath_eq_iff_of_stored_product :
    (sampleGranuleAt "VNP46A2" 0).rawBlobPath = (sampleGranuleAt "VJ146A2" 0).rawBlobPath ↔
      SamePath (sampleGranuleAt "VNP46A2" 0) (sampleGranuleAt "VJ146A2" 0) ∧ 0 ≠ 0 :=
  rawBlobPath_eq_iff_of_stored midnightStored (sampleGranuleAt "VNP46A2" 0) (sampleGranuleAt "VJ146A2" 0)
    ⟨.vnp46A2, rfl⟩ ⟨.vj146A2, rfl⟩ "VJ146A2/2024-05-21/h08v05.h5" 2 0 (by decide) (by decide)

/-- The same granule at noon is a second row under the first one's path. -/
theorem not_rawBlobPath_ne_of_stored :
    ¬ ∀ (t : Tables) (granule granule' : GranuleCandidate), Supported granule.product →
      Supported granule'.product → ∀ blobPath ingestId now,
      (∃ row ∈ t.ingestLog, SameGranule granule row) →
      (t.insertDownloadingRow granule' blobPath ingestId now).2 = .created ingestId →
      granule.rawBlobPath ≠ granule'.rawBlobPath := by
  intro h
  exact h midnightStored (sampleGranuleAt "VNP46A2" 0) (sampleGranuleAt "VNP46A2" 43200000000000)
    ⟨.vnp46A2, rfl⟩ ⟨.vnp46A2, rfl⟩ "VNP46A2/2024-05-21/h08v05.h5" 2 0 (by decide) (by decide)
    (by decide)

theorem TileCoordinate.parseTwoDigits_lt {tens ones : Char} (htens : tens.isDigit = true)
    (hones : ones.isDigit = true) : parseTwoDigits tens ones < 100 := by
  have htens : tens.toNat ≤ 57 := (Char.isDigit_iff_toNat.mp htens).2
  have hones : ones.toNat ≤ 57 := (Char.isDigit_iff_toNat.mp hones).2
  unfold parseTwoDigits
  omega

theorem TileCoordinate.lt_of_parseFrom {l : List Char} {tile : TileCoordinate}
    (h : parseFrom l = some tile) : tile.h < 100 ∧ tile.v < 100 := by
  fun_induction parseFrom l with
  | case1 c0 c1 c2 c3 c4 c5 rest hmatch =>
    obtain ⟨-, h1, h2, -, h4, h5⟩ := hmatch
    obtain rfl := Option.some.inj h
    exact ⟨parseTwoDigits_lt h1 h2, parseTwoDigits_lt h4 h5⟩
  | case2 c0 c1 c2 c3 c4 c5 rest hmatch ih => exact ih h
  | case3 l hshort => cases h

theorem parseEntry_cases {parseTime : String → Option DateTime} {product : String}
    {entry : CmrEntry} {granule : GranuleCandidate}
    (h : parseEntry parseTime product entry = some granule) :
    granule.product = product ∧ granule.tile.h < 100 ∧ granule.tile.v < 100 := by
  simp only [parseEntry, Option.bind_eq_bind, Option.bind_eq_some_iff, Option.pure_def] at h
  obtain ⟨_, -, tile, htile, _, -, h⟩ := h
  obtain rfl := Option.some.inj h
  refine ⟨rfl, ?_⟩
  -- whichever of the three texts the tile is found in
  rcases Option.or_eq_some_iff.mp htile with htile | ⟨-, htile⟩
  · exact TileCoordinate.lt_of_parseFrom htile
  · rcases Option.or_eq_some_iff.mp htile with htile | ⟨-, htile⟩
    · exact TileCoordinate.lt_of_parseFrom htile
    · exact TileCoordinate.lt_of_parseFrom htile

theorem parseTwoDigits_digitChar {a b : ℕ} (ha : a < 10) (hb : b < 10) :
    parseTwoDigits (Nat.digitChar a) (Nat.digitChar b) = a * 10 + b := by
  have hall : ∀ a b : Fin 10, parseTwoDigits (Nat.digitChar a) (Nat.digitChar b) = a * 10 + b := by
    decide
  exact hall ⟨a, ha⟩ ⟨b, hb⟩

/-- The scan of the processing service finds the tile of the granule in its path. -/
theorem parseFirstTile_rawBlobPath {granule : GranuleCandidate} (hsupported : Supported granule.product)
    (hh : granule.tile.h < 100) (hv : granule.tile.v < 100) :
    parseFirstTile granule.rawBlobPath.toList = some (↑granule.tile.h, ↑granule.tile.v) := by
  have hdate : 'h' ∉ granule.granuleDate.formatDate.toList := fun hmem => by
    rcases DateTime.mem_formatDate hmem with h | h | h <;> revert h <;> decide
  have hdigit {n : ℕ} (hn : n < 10) : (Nat.digitChar n).isDigit = true := by
    rw [Nat.isDigit_digitChar, decide_eq_true hn]
  have hvalue {n : ℕ} (hn : n < 100) :
      parseTwoDigits (Nat.digitChar (n / 10)) (Nat.digitChar (n % 10)) = n := by
    rw [parseTwoDigits_digitChar (by omega) (by omega)]
    omega
  rw [toList_rawBlobPath, parseFirstTile_append (hsupported.notMem (by decide)),
    parseFirstTile_cons (by decide), parseFirstTile_append hdate, parseFirstTile_cons (by decide),
    toList_pad_two hh, toList_pad_two hv]
  simp only [List.cons_append, List.nil_append]
  rw [parseFirstTile, if_pos ⟨rfl, rfl, hdigit (by omega), hdigit (by omega), hdigit (by omega),
    hdigit (by omega)⟩, hvalue hh, hvalue hv]

theorem rawBlobPath_relative {granule : GranuleCandidate} (hsupported : Supported granule.product) :
    RelativeBlobPath granule.rawBlobPath := by
  obtain ⟨kind, hkind⟩ := hsupported
  obtain ⟨rest, hrest⟩ : ∃ rest, granule.rawBlobPath.toList = 'V' :: rest := by
    rw [toList_rawBlobPath, hkind]
    cases kind <;> exact ⟨_, rfl⟩
  have hstarts (text : String) (htext : text.toList.head? ≠ some 'V') (hne : text.toList ≠ []) :
      ¬ startsWith granule.rawBlobPath text := by
    intro h
    obtain ⟨tail, htail⟩ := List.isPrefixOf_iff_prefix.mp h
    rw [hrest] at htail
    apply htext
    rw [← List.head?_append_of_ne_nil _ hne, htail, List.head?_cons]
  refine ⟨fun hempty => ?_, hstarts "/" (by decide) (by decide),
    hstarts "http://" (by decide) (by decide), hstarts "https://" (by decide) (by decide),
    hstarts "raw-viirs/" (by decide) (by decide)⟩
  rw [hempty] at hrest
  cases hrest

def GranuleCandidate.toRaw (granule : GranuleCandidate) (ingestId : Uuid) :
    RawProcessingMessage where
  ingestId := ingestId
  blobPath := granule.rawBlobPath
  product := granule.product
  granuleDate := granule.granuleDate
  tileH := granule.tile.h
  tileV := granule.tile.v

/-- A message can be built for every granule that discovery accepts. -/
theorem exists_processingMessageFromGranule {parseTime : String → Option DateTime}
    {product : ProcessingProduct} {entry : CmrEntry} {granule : GranuleCandidate}
    (hparse : parseEntry parseTime product.asStr entry = some granule) (ingestId : Uuid) :
    ∃ message, processingMessageFromGranule ingestId granule granule.rawBlobPath = .ok message ∧
      message.toRaw = granule.toRaw ingestId := by
  obtain ⟨hproduct, hh, hv⟩ := parseEntry_cases hparse
  have hsupported : Supported granule.product := ⟨product, hproduct⟩
  have hmessage := ProcessingMessage.new_of_valid ingestId product granule.granuleDate
    (rawBlobPath_relative hsupported) (parseFirstTile_rawBlobPath hsupported hh hv)
  rw [← hproduct] at hmessage
  refine ⟨_, hmessage, ?_⟩
  rw [ProcessingMessage.toRaw, GranuleCandidate.toRaw, hproduct]

/-- Every entry that ingest accepts for a supported product has a path that both services accept and
a message that processing reads back; `toJson` and `fromStr` are the serializer and its inverse on
this message. -/
theorem messageContract (parseTime : String → Option DateTime)
    (toJson : RawProcessingMessage → String) (fromStr : String → Except String RawProcessingMessage)
    (product : ProcessingProduct) (entry : CmrEntry) (granule : GranuleCandidate)
    (hparse : parseEntry parseTime product.asStr entry = some granule) (ingestId : Uuid)
    (hround : fromStr (toJson (granule.toRaw ingestId)) = .ok (granule.toRaw ingestId)) :
    validateRawBlobPath granule.rawBlobPath = .ok () ∧ RelativeBlobPath granule.rawBlobPath ∧
      ∃ message, processingMessageFromGranule ingestId granule granule.rawBlobPath = .ok message ∧
        message.toRaw = granule.toRaw ingestId ∧
        ProcessingMessage.parseJson fromStr (toJson message.toRaw) = .ok message := by
  have hrelative : RelativeBlobPath granule.rawBlobPath :=
    rawBlobPath_relative ⟨product, (parseEntry_cases hparse).1⟩
  obtain ⟨message, hmessage, hraw⟩ := exists_processingMessageFromGranule hparse ingestId
  refine ⟨(validateRawBlobPath_eq_ok_iff _).mpr hrelative, hrelative, message, hmessage, hraw, ?_⟩
  apply ProcessingMessage.parseJson_of_toRaw
  rw [hraw]
  exact hround

/-- The entry of the sample granule, whose producer id names another tile than its link. -/
def contractEntry : CmrEntry where
  title := "granule"
  producerGranuleId := some "VNP46A2.A2024142.h08v05.002.h5"
  timeStart := "2024-05-21T00:00:00.000Z"
  links := [{ href := "https://example/h01v02.h5", rel := some cmrDataLinkRel }]

def parseSampleTime (text : String) : Option DateTime :=
  if text = "2024-05-21T00:00:00.000Z" then
    some { year := 2024, month := 5, day := 21, nanoOfDay := 0 }
  else none

def contractGranule : GranuleCandidate where
  product := "VNP46A2"
  title := "granule"
  producerGranuleId := "VNP46A2.A2024142.h08v05.002.h5"
  dataHref := "https://example/h01v02.h5"
  granuleDate := { year := 2024, month := 5, day := 21, nanoOfDay := 0 }
  tile := { h := 8, v := 5 }

def sampleJson : String :=
  "\x7b\"ingest_id\":\"00000000-0000-0000-0000-000000000001\"," ++
    "\"blob_path\":\"VNP46A2/2024-05-21/h08v05.h5\",\"product\":\"VNP46A2\"," ++
    "\"granule_date\":\"2024-05-21T00:00:00Z\",\"tile_h\":8,\"tile_v\":5\x7d"

/-- A serializer and a decoder that know one message. -/
def sampleToJson (raw : RawProcessingMessage) : String :=
  if raw = contractGranule.toRaw 1 then sampleJson else ""

def sampleFromStr (json : String) : Except String RawProcessingMessage :=
  if json = sampleJson then .ok (contractGranule.toRaw 1)
  else .error "expected value at line 1 column 1"

theorem messageContract_sample :
    validateRawBlobPath contractGranule.rawBlobPath = .ok () ∧
      RelativeBlobPath contractGranule.rawBlobPath ∧
      ∃ message, processingMessageFromGranule 1 contractGranule contractGranule.rawBlobPath =
          .ok message ∧
        message.toRaw = contractGranule.toRaw 1 ∧
        ProcessingMessage.parseJson sampleFromStr (sampleToJson message.toRaw) = .ok message :=
  messageContract parseSampleTime sampleToJson sampleFromStr .vnp46A2 contractEntry contractGranule
    (by decide +kernel) 1 (by rw [sampleToJson, if_pos rfl, sampleFromStr, if_pos rfl])

end LumenHorizon.Ingest
