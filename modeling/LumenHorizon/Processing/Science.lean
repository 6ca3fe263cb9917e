import LumenHorizon.Foundation.FloatValue
import LumenHorizon.Processing.Message
import LumenHorizon.Processing.Rendering

/-! # Science rules

What a radiance, a quality flag, a cloud mask and an observation count say about a pixel, the
summary of a list of pixels, and the dark-sky class of a radiance. The literals -999.9, 0.2 and 0.4
are the `f32` values nearest to them.
-/

namespace LumenHorizon.Processing
open Foundation Shared

inductive ProductCadence where
  | daily
  | monthly
deriving DecidableEq, Repr

def dailyRadianceDataset : String :=
  "//HDFEOS/GRIDS/VIIRS_Grid_DNB_2d/Data_Fields/Gap_Filled_DNB_BRDF-Corrected_NTL"

def dailyQualityDataset : String :=
  "//HDFEOS/GRIDS/VIIRS_Grid_DNB_2d/Data_Fields/Mandatory_Quality_Flag"

def dailyCloudDataset : String := "//HDFEOS/GRIDS/VIIRS_Grid_DNB_2d/Data_Fields/QF_Cloud_Mask"

def monthlyRadianceDataset : String :=
  "//HDFEOS/GRIDS/VIIRS_Grid_DNB_2d/Data_Fields/AllAngle_Composite_Snow_Free"

def monthlyQualityDataset : String :=
  "//HDFEOS/GRIDS/VIIRS_Grid_DNB_2d/Data_Fields/AllAngle_Composite_Snow_Free_Quality"

def monthlyObservationCountDataset : String :=
  "//HDFEOS/GRIDS/VIIRS_Grid_DNB_2d/Data_Fields/AllAngle_Composite_Snow_Free_Num"

structure DatasetMapping where
  product : ProcessingProduct
  cadence : ProductCadence
  radianceDataset : String
  qualityDataset : String
  cloudDataset : Option String
  observationCountDataset : Option String
  radianceFillValue : FloatValue
  radianceValidMin : FloatValue
  qualityFillValue : ℕ
  cloudFillValue : Option ℕ
  observationCountFillValue : Option ℕ
deriving DecidableEq, Repr

def vnp46A2Mapping : DatasetMapping where
  product := .vnp46A2
  cadence := .daily
  radianceDataset := dailyRadianceDataset
  qualityDataset := dailyQualityDataset
  cloudDataset := some dailyCloudDataset
  observationCountDataset := none
  radianceFillValue := .finite (-8191181 / 8192)
  radianceValidMin := .finite 0
  qualityFillValue := 255
  cloudFillValue := some 65535
  observationCountFillValue := none

def vj146A2Mapping : DatasetMapping where
  product := .vj146A2
  cadence := .daily
  radianceDataset := dailyRadianceDataset
  qualityDataset := dailyQualityDataset
  cloudDataset := some dailyCloudDataset
  observationCountDataset := none
  radianceFillValue := .finite (-8191181 / 8192)
  radianceValidMin := .finite 0
  qualityFillValue := 255
  cloudFillValue := some 65535
  observationCountFillValue := none

def vnp46A3Mapping : DatasetMapping where
  product := .vnp46A3
  cadence := .monthly
  radianceDataset := monthlyRadianceDataset
  qualityDataset := monthlyQualityDataset
  cloudDataset := none
  observationCountDataset := some monthlyObservationCountDataset
  radianceFillValue := .finite (-8191181 / 8192)
  radianceValidMin := .finite 0
  qualityFillValue := 255
  cloudFillValue := none
  observationCountFillValue := some 65535

def datasetMappingForProduct : ProcessingProduct → DatasetMapping
  | .vnp46A2 => vnp46A2Mapping
  | .vj146A2 => vj146A2Mapping
  | .vnp46A3 => vnp46A3Mapping

/-- The error of a sample; the counts of the datasets are compared before. -/
inductive ScienceError where
  | invalidIntegerSample (dataset : String) (value : FloatValue)
deriving DecidableEq, Repr

/-- `sample_value_as_u16`. -/
def sampleValueAsU16 (dataset : String) (value : FloatValue) : Except ScienceError ℕ :=
  match value with
  | .finite number =>
    if number < 0 ∨ Int.fract number ≠ 0 ∨ 65535 < number then
      .error (.invalidIntegerSample dataset value)
    else .ok ⌊number⌋.toNat
  | _ => .error (.invalidIntegerSample dataset value)

inductive PixelQuality where
  | valid
  | invalid
deriving DecidableEq, Repr

def classifyRadiance (mapping : DatasetMapping) (radiance : FloatValue) : PixelQuality :=
  if radiance.eq mapping.radianceFillValue || radiance.lt mapping.radianceValidMin then .invalid
  else .valid

def classifyDailyQuality (qualityFlag : ℕ) : PixelQuality :=
  if qualityFlag = 0 then .valid else .invalid

def classifyMonthlyQuality (qualityFlag : ℕ) : PixelQuality :=
  if qualityFlag = 0 ∨ qualityFlag = 2 then .valid else .invalid

/-- Bits 6 and 7 are the confidence of the cloud detection. -/
def isCloudContaminated (qfCloudMask : ℕ) : Bool :=
  let cloudDetectionBits := (qfCloudMask >>> 6) &&& 3
  cloudDetectionBits = 2 ∨ cloudDetectionBits = 3

structure PixelSampleClassification where
  radianceQuality : PixelQuality
  qualityMaskQuality : PixelQuality
  qualitySample : ℕ
  cloudContaminated : Option Bool
  observationCountSample : Option ℕ
deriving DecidableEq, Repr

/-- The `match` on an optional dataset and an optional sample of it. -/
def readOptionalSample {α : Type} (dataset : Option String) (value : Option FloatValue) (read : ℕ → α) :
    Except ScienceError (Option α) :=
  match dataset, value with
  | some dataset, some value => do
    let sample ← sampleValueAsU16 dataset value
    .ok (some (read sample))
  | _, _ => .ok none

def classifyPixelSample (mapping : DatasetMapping) (radianceValue qualityValue : FloatValue)
    (cloudValue observationCountValue : Option FloatValue) :
    Except ScienceError PixelSampleClassification := do
  let radianceQuality := classifyRadiance mapping radianceValue
  let qualitySample ← sampleValueAsU16 mapping.qualityDataset qualityValue
  let qualityFlag := min qualitySample 255
  let qualityMaskQuality :=
    match mapping.cadence with
    | .daily => classifyDailyQuality qualityFlag
    | .monthly => classifyMonthlyQuality qualityFlag
  let cloudContaminated ← readOptionalSample mapping.cloudDataset cloudValue isCloudContaminated
  let observationCountSample ←
    readOptionalSample mapping.observationCountDataset observationCountValue id
  .ok {
    radianceQuality := radianceQuality
    qualityMaskQuality := qualityMaskQuality
    qualitySample := qualitySample
    cloudContaminated := cloudContaminated
    observationCountSample := observationCountSample }

namespace PixelSampleClassification

/-- `valid` in the loop of the summary. -/
def isValid (classification : PixelSampleClassification) : Bool :=
  classification.radianceQuality = .valid ∧ classification.qualityMaskQuality = .valid

def isCloudyValid (classification : PixelSampleClassification) : Bool :=
  classification.isValid && classification.cloudContaminated = some true

end PixelSampleClassification

structure PixelSample where
  radiance : FloatValue
  quality : FloatValue
  cloud : Option FloatValue
  observationCount : Option FloatValue
deriving DecidableEq, Repr

def PixelSample.classify (mapping : DatasetMapping) (sample : PixelSample) :
    Except ScienceError PixelSampleClassification :=
  classifyPixelSample mapping sample.radiance sample.quality sample.cloud sample.observationCount

/-- The samples of the datasets by their index; an index past the end of the quality samples is a
panic, and their count is compared before. -/
def pixelSamples (radianceSamples qualitySamples : List FloatValue)
    (cloudSamples observationCountSamples : Option (List FloatValue)) : List PixelSample :=
  radianceSamples.zipIdx.map fun sample => {
    radiance := sample.1
    quality := qualitySamples.getD sample.2 .nan
    cloud := cloudSamples.bind (·[sample.2]?)
    observationCount := observationCountSamples.bind (·[sample.2]?) }

def classifySamples (mapping : DatasetMapping) (samples : List PixelSample) :
    Except ScienceError (List PixelSampleClassification) :=
  pushLoop (PixelSample.classify mapping) (fun _ _ classification => classification) [] samples

/-- The loop of `summarize_quality` with its two counters. -/
def summarizeLoop (validPixelCount cloudContaminatedValidPixelCount : ℕ) :
    List PixelSampleClassification → ℕ × ℕ
  | [] => (validPixelCount, cloudContaminatedValidPixelCount)
  | classification :: classifications =>
    if classification.isValid then
      summarizeLoop (validPixelCount + 1)
        (if classification.cloudContaminated = some true then cloudContaminatedValidPixelCount + 1
          else cloudContaminatedValidPixelCount) classifications
    else summarizeLoop validPixelCount cloudContaminatedValidPixelCount classifications

def summarizeQuality (classifications : List PixelSampleClassification) : QualitySummary :=
  let counts := summarizeLoop 0 0 classifications
  { totalPixelCount := classifications.length
    validPixelCount := counts.1
    rejectedPixelCount := classifications.length - counts.1
    cloudContaminatedValidPixelCount := counts.2
    cloudFraction := if counts.1 = 0 then 0 else counts.2 / counts.1 }

def isRenderableSample (classification : PixelSampleClassification) : Bool :=
  classification.radianceQuality = .valid ∧ classification.qualityMaskQuality = .valid ∧
    classification.cloudContaminated ≠ some true

theorem summarizeLoop_eq (validCount cloudyCount : ℕ)
    (classifications : List PixelSampleClassification) :
    summarizeLoop validCount cloudyCount classifications =
      (validCount + classifications.countP PixelSampleClassification.isValid,
        cloudyCount + classifications.countP PixelSampleClassification.isCloudyValid) := by
  induction classifications generalizing validCount cloudyCount with
  | nil => rfl
  | cons classification classifications ih =>
    by_cases hvalid : classification.isValid = true
    · by_cases hcloudy : classification.cloudContaminated = some true
      · simp [summarizeLoop, hvalid, hcloudy, ih, PixelSampleClassification.isCloudyValid,
          Nat.add_assoc, Nat.add_comm 1]
      · simp [summarizeLoop, hvalid, hcloudy, ih, PixelSampleClassification.isCloudyValid,
          Nat.add_assoc, Nat.add_comm 1]
    · simp [summarizeLoop, hvalid, ih, PixelSampleClassification.isCloudyValid]

@[simp] theorem summarizeQuality_validPixelCount
    (classifications : List PixelSampleClassification) :
    (summarizeQuality classifications).validPixelCount =
      classifications.countP PixelSampleClassification.isValid := by
  simp [summarizeQuality, summarizeLoop_eq]

@[simp] theorem summarizeQuality_cloudContaminatedValidPixelCount
    (classifications : List PixelSampleClassification) :
    (summarizeQuality classifications).cloudContaminatedValidPixelCount =
      classifications.countP PixelSampleClassification.isCloudyValid := by
  simp [summarizeQuality, summarizeLoop_eq]

/-- The valid pixels are the renderable ones and the cloudy ones. -/
theorem countP_isValid (classifications : List PixelSampleClassification) :
    classifications.countP PixelSampleClassification.isValid =
      classifications.countP isRenderableSample +
        classifications.countP PixelSampleClassification.isCloudyValid := by
  induction classifications with
  | nil => rfl
  | cons classification classifications ih =>
    simp only [List.countP_cons, ih, PixelSampleClassification.isCloudyValid,
      PixelSampleClassification.isValid, isRenderableSample]
    by_cases hcloudy : classification.cloudContaminated = some true
    · simp [hcloudy, Nat.add_assoc]
    · simp [hcloudy, Nat.add_right_comm]

theorem classifySamples_eq_ok_iff {mapping : DatasetMapping} {samples : List PixelSample}
    {classifications : List PixelSampleClassification} :
    classifySamples mapping samples = .ok classifications ↔
      List.Forall₂ (fun sample classification => sample.classify mapping = .ok classification)
        samples classifications := pushLoop_results_iff

structure DarkSkyClass where
  number : ℕ
  colorHex : String
  minRadiance : FloatValue
  maxRadianceExclusive : Option FloatValue
deriving DecidableEq, Repr

def darkSkyClasses : List DarkSkyClass := [
  ⟨1, "#05070d", .finite 0, some (.finite (13421773 / 67108864))⟩,
  ⟨2, "#10203f", .finite (13421773 / 67108864), some (.finite (13421773 / 33554432))⟩,
  ⟨3, "#1f3f75", .finite (13421773 / 33554432), some (.finite 1)⟩,
  ⟨4, "#2f6f73", .finite 1, some (.finite 3)⟩,
  ⟨5, "#62a35c", .finite 3, some (.finite 6)⟩,
  ⟨6, "#b6b34b", .finite 6, some (.finite 12)⟩,
  ⟨7, "#d9822b", .finite 12, some (.finite 25)⟩,
  ⟨8, "#d64a2f", .finite 25, some (.finite 50)⟩,
  ⟨9, "#f2efe8", .finite 50, none⟩]

def classifyDarkSky (radiance : FloatValue) : Option DarkSkyClass :=
  if !radiance.isFinite || radiance.lt (.finite 0) then none
  else darkSkyClasses.find? fun darkSkyClass =>
    match darkSkyClass.maxRadianceExclusive with
    | some max => radiance.ge darkSkyClass.minRadiance && radiance.lt max
    | none => radiance.ge darkSkyClass.minRadiance

theorem classifyDarkSky_mem {radiance : FloatValue} {darkSkyClass : DarkSkyClass}
    (h : classifyDarkSky radiance = some darkSkyClass) : darkSkyClass ∈ darkSkyClasses := by
  unfold classifyDarkSky at h
  split_ifs at h
  exact List.mem_of_find?_eq_some h

/-- A class is given to every finite radiance from zero on. -/
theorem classifyDarkSky_isSome_iff {radiance : FloatValue} :
    (classifyDarkSky radiance).isSome = true ↔ ∃ value, radiance = .finite value ∧ 0 ≤ value := by
  cases radiance with
  | nan => simp [classifyDarkSky, FloatValue.isFinite]
  | negInf => simp [classifyDarkSky, FloatValue.isFinite]
  | posInf => simp [classifyDarkSky, FloatValue.isFinite]
  | finite value =>
    by_cases hneg : value < 0
    · simp [classifyDarkSky, hneg]
    · have hclasses : darkSkyClasses.any (fun darkSkyClass =>
          match darkSkyClass.maxRadianceExclusive with
          | some max => (FloatValue.finite value).ge darkSkyClass.minRadiance &&
              (FloatValue.finite value).lt max
          | none => (FloatValue.finite value).ge darkSkyClass.minRadiance) = true := by
        simp only [darkSkyClasses, List.any_cons, List.any_nil, FloatValue.ge_finite_finite,
          FloatValue.lt_finite_finite, Bool.or_eq_true, Bool.and_eq_true, decide_eq_true_eq]
        grind
      simp only [classifyDarkSky, FloatValue.isFinite_finite, FloatValue.lt_finite_finite, hneg]
      simp only [Bool.not_true, decide_false, Bool.or_self, Bool.false_eq_true, if_false,
        List.find?_isSome]
      refine iff_of_true ?_ ⟨value, rfl, not_lt.mp hneg⟩
      simpa using hclasses

end LumenHorizon.Processing
