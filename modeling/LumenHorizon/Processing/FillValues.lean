import LumenHorizon.Processing.Science

/-! # Fill values

A dataset says with its fill value that there is no observation. The mapping declares four of them;
the rules look at the one of the radiance, and the one of the quality flag happens to be no
acceptable flag. The other two are read as a cloud mask and as a count.
-/

namespace LumenHorizon.Processing
open Foundation

/-! ## What a classification reads -/

theorem sampleValueAsU16_eq_ok_iff {dataset : String} {value : FloatValue} {n : ℕ} :
    sampleValueAsU16 dataset value = .ok n ↔ value = .finite n ∧ n ≤ 65535 := by
  cases value with
  | nan => simp [sampleValueAsU16]
  | negInf => simp [sampleValueAsU16]
  | posInf => simp [sampleValueAsU16]
  | finite number =>
    simp only [sampleValueAsU16, FloatValue.finite.injEq]
    constructor
    · intro h
      split_ifs at h with hbad
      simp only [not_or, not_lt, not_not] at hbad
      obtain ⟨hnonneg, hfract, hle⟩ := hbad
      have hfloor : (⌊number⌋ : ℚ) = number := by
        have hsplit := Int.floor_add_fract number
        rw [hfract, add_zero] at hsplit
        exact hsplit
      have hn : ⌊number⌋.toNat = n := Except.ok.inj h
      have hcast : (n : ℤ) = ⌊number⌋ := by
        rw [← hn]
        exact Int.toNat_of_nonneg (Int.floor_nonneg.mpr hnonneg)
      have hnumber : number = n := by
        rw [← hfloor, ← hcast]
        rfl
      refine ⟨hnumber, ?_⟩
      rw [hnumber] at hle
      exact_mod_cast hle
    · rintro ⟨rfl, hle⟩
      have hbound : (n : ℚ) ≤ 65535 := by exact_mod_cast hle
      simp [not_lt.mpr hbound]

namespace PixelSample

variable (mapping : DatasetMapping) (sample : PixelSample)

def HasRadianceFill : Prop := sample.radiance.eq mapping.radianceFillValue = true

def HasQualityFill : Prop := sample.quality = .finite mapping.qualityFillValue

def HasCloudFill : Prop :=
  ∃ fill ∈ mapping.cloudFillValue, sample.cloud = some (.finite fill)

def HasObservationFill : Prop :=
  ∃ fill ∈ mapping.observationCountFillValue, sample.observationCount = some (.finite fill)

instance : Decidable (sample.HasCloudFill mapping) :=
  inferInstanceAs (Decidable (∃ fill ∈ mapping.cloudFillValue, _))

instance : Decidable (sample.HasObservationFill mapping) :=
  inferInstanceAs (Decidable (∃ fill ∈ mapping.observationCountFillValue, _))

/-- The sample with an absent observation for each optional fill. -/
def withoutFill : PixelSample := { sample with
  cloud := if sample.HasCloudFill mapping then none else sample.cloud
  observationCount :=
    if sample.HasObservationFill mapping then none else sample.observationCount }

/-- The values that are read are integers of sixteen bits. -/
structure Readable : Prop where
  quality : ∃ n, sampleValueAsU16 mapping.qualityDataset sample.quality = .ok n
  cloud : ∀ dataset ∈ mapping.cloudDataset, ∀ value ∈ sample.cloud,
    ∃ n, sampleValueAsU16 dataset value = .ok n
  observationCount : ∀ dataset ∈ mapping.observationCountDataset,
    ∀ value ∈ sample.observationCount, ∃ n, sampleValueAsU16 dataset value = .ok n

/-- The sample passes the radiance and the quality rule. -/
def Passes : Prop :=
  classifyRadiance mapping sample.radiance = .valid ∧
    (sample.quality = .finite 0 ∨ mapping.cadence = .monthly ∧ sample.quality = .finite 2)

variable {mapping sample}

theorem readOptionalSample_eq_ok_iff {α : Type} {dataset : Option String}
    {value : Option FloatValue} {read : ℕ → α} {result : Option α} :
    readOptionalSample dataset value read = .ok result ↔
      (∃ name ∈ dataset, ∃ number ∈ value, ∃ n, sampleValueAsU16 name number = .ok n ∧
        result = some (read n)) ∨ ((dataset = none ∨ value = none) ∧ result = none) := by
  cases dataset with
  | none => simp [readOptionalSample, eq_comm]
  | some name =>
    cases value with
    | none => simp [readOptionalSample, eq_comm]
    | some number =>
      simp only [readOptionalSample, bind_eq_ok_iff, Except.ok.injEq]
      simp [eq_comm]

theorem classify_eq_ok_iff {classification : PixelSampleClassification} :
    sample.classify mapping = .ok classification ↔
      (∃ n, sampleValueAsU16 mapping.qualityDataset sample.quality = .ok n ∧
        classification.qualitySample = n ∧
        classification.qualityMaskQuality = match mapping.cadence with
          | .daily => classifyDailyQuality (min n 255)
          | .monthly => classifyMonthlyQuality (min n 255)) ∧
      classification.radianceQuality = classifyRadiance mapping sample.radiance ∧
      readOptionalSample mapping.cloudDataset sample.cloud isCloudContaminated =
        .ok classification.cloudContaminated ∧
      readOptionalSample mapping.observationCountDataset sample.observationCount id =
        .ok classification.observationCountSample := by
  simp only [classify, classifyPixelSample, bind_eq_ok_iff]
  constructor
  · rintro ⟨n, hn, cloud, hcloud, count, hcount, h⟩
    cases h
    exact ⟨⟨n, hn, rfl, rfl⟩, rfl, hcloud, hcount⟩
  · rintro ⟨⟨n, hn, hsample, hquality⟩, hradiance, hcloud, hcount⟩
    refine ⟨n, hn, _, hcloud, _, hcount, ?_⟩
    obtain ⟨radianceQuality, qualityMaskQuality, qualitySample, cloud, count⟩ := classification
    simp only at hsample hradiance hquality
    subst hsample hradiance hquality
    rfl

theorem classify_withoutFill {classification : PixelSampleClassification}
    (h : sample.classify mapping = .ok classification) :
    (sample.withoutFill mapping).classify mapping = .ok { classification with
      cloudContaminated :=
        if sample.HasCloudFill mapping then none else classification.cloudContaminated
      observationCountSample :=
        if sample.HasObservationFill mapping then none
        else classification.observationCountSample } := by
  obtain ⟨hquality, hradiance, hcloud, hcount⟩ := classify_eq_ok_iff.mp h
  refine classify_eq_ok_iff.mpr ⟨hquality, hradiance, ?_, ?_⟩
  · by_cases hfill : sample.HasCloudFill mapping
    · simp [withoutFill, hfill, readOptionalSample]
    · simpa [withoutFill, hfill] using hcloud
  · by_cases hfill : sample.HasObservationFill mapping
    · simp [withoutFill, hfill, readOptionalSample]
    · simpa [withoutFill, hfill] using hcount

/-- A sample is classified exactly if its values can be read. -/
theorem exists_classify_iff :
    (∃ classification, sample.classify mapping = .ok classification) ↔ sample.Readable mapping := by
  have hread {α : Type} (read : ℕ → α) (dataset : Option String) (value : Option FloatValue) :
      (∃ result, readOptionalSample dataset value read = .ok result) ↔
        ∀ name ∈ dataset, ∀ number ∈ value, ∃ n, sampleValueAsU16 name number = .ok n := by
    simp only [readOptionalSample_eq_ok_iff]
    cases dataset with
    | none => simp
    | some name =>
      cases value with
      | none => simp
      | some number => simp
  constructor
  · rintro ⟨classification, h⟩
    obtain ⟨⟨n, hn, -⟩, -, hcloud, hcount⟩ := classify_eq_ok_iff.mp h
    exact ⟨⟨n, hn⟩, (hread _ _ _).mp ⟨_, hcloud⟩, (hread _ _ _).mp ⟨_, hcount⟩⟩
  · rintro ⟨⟨n, hn⟩, hcloud, hcount⟩
    obtain ⟨cloud, hcloud⟩ := (hread isCloudContaminated _ _).mpr hcloud
    obtain ⟨count, hcount⟩ := (hread id _ _).mpr hcount
    exact ⟨⟨classifyRadiance mapping sample.radiance, match mapping.cadence with
        | .daily => classifyDailyQuality (min n 255)
        | .monthly => classifyMonthlyQuality (min n 255), n, cloud, count⟩,
      classify_eq_ok_iff.mpr ⟨⟨n, hn, rfl, rfl⟩, rfl, hcloud, hcount⟩⟩

theorem isValid_iff_passes {classification : PixelSampleClassification}
    (h : sample.classify mapping = .ok classification) :
    classification.isValid = true ↔ sample.Passes mapping := by
  obtain ⟨⟨n, hn, -, hquality⟩, hradiance, -, -⟩ := classify_eq_ok_iff.mp h
  obtain ⟨hvalue, -⟩ := sampleValueAsU16_eq_ok_iff.mp hn
  simp only [PixelSampleClassification.isValid, Passes, hradiance, hquality, hvalue,
    FloatValue.finite.injEq, decide_eq_true_eq]
  refine and_congr_right fun _ => ?_
  have htwo : (n : ℚ) = 2 ↔ n = 2 := by exact_mod_cast Iff.rfl
  rw [Nat.cast_eq_zero, htwo]
  cases mapping.cadence with
  | daily =>
    simp only [classifyDailyQuality]
    split_ifs <;> simp <;> omega
  | monthly =>
    simp only [classifyMonthlyQuality]
    split_ifs <;> simp <;> omega

end PixelSample

/-! ## Decisions without the fills -/

/-- A fill is missing data for these samples: with a radiance or a quality fill a pixel is not
valid, the decisions are those that are made without the cloud fills, and no fill is recorded as a
count. -/
structure FillsAreMissing (mapping : DatasetMapping) (samples : List PixelSample) : Prop where
  invalid : ∀ classifications, classifySamples mapping samples = .ok classifications →
    ∀ pair ∈ samples.zip classifications,
      pair.1.HasRadianceFill mapping ∨ pair.1.HasQualityFill mapping → pair.2.isValid = false
  cloudFraction : ∀ classifications withoutFills,
    classifySamples mapping samples = .ok classifications →
      classifySamples mapping (samples.map (PixelSample.withoutFill mapping)) = .ok withoutFills →
        (summarizeQuality classifications).cloudFraction =
          (summarizeQuality withoutFills).cloudFraction
  rejection : ∀ classifications withoutFills,
    classifySamples mapping samples = .ok classifications →
      classifySamples mapping (samples.map (PixelSample.withoutFill mapping)) = .ok withoutFills →
        ∀ maxCloudFraction, cloudRejectionReason (summarizeQuality classifications) maxCloudFraction =
          cloudRejectionReason (summarizeQuality withoutFills) maxCloudFraction
  rendered : ∀ classifications withoutFills,
    classifySamples mapping samples = .ok classifications →
      classifySamples mapping (samples.map (PixelSample.withoutFill mapping)) = .ok withoutFills →
        classifications.map isRenderableSample = withoutFills.map isRenderableSample
  counted : ∀ classifications, classifySamples mapping samples = .ok classifications →
    ∀ pair ∈ samples.zip classifications, pair.1.HasObservationFill mapping →
      pair.2.observationCountSample = none

section Fills

variable {product : Shared.ProcessingProduct} {mapping : DatasetMapping} {sample : PixelSample}
  {samples : List PixelSample} {classification : PixelSampleClassification}
  {classifications : List PixelSampleClassification}

/-- What a classification says without the fills of its sample. -/
def dropFill (mapping : DatasetMapping) (pair : PixelSample × PixelSampleClassification) :
    PixelSampleClassification := { pair.2 with
  cloudContaminated :=
    if pair.1.HasCloudFill mapping then none else pair.2.cloudContaminated
  observationCountSample :=
    if pair.1.HasObservationFill mapping then none else pair.2.observationCountSample }

theorem classifySamples_withoutFill
    (h : classifySamples mapping samples = .ok classifications) :
    classifySamples mapping (samples.map (PixelSample.withoutFill mapping)) =
      .ok ((samples.zip classifications).map (dropFill mapping)) := by
  rw [classifySamples_eq_ok_iff] at h ⊢
  induction h with
  | nil => exact .nil
  | cons hclassify _ ih => exact .cons (PixelSample.classify_withoutFill hclassify) ih

/-- Every sample of a classified list is paired with its classification. -/
theorem exists_mem_zip (h : classifySamples mapping samples = .ok classifications)
    (hsample : sample ∈ samples) :
    ∃ classification, (sample, classification) ∈ samples.zip classifications ∧
      sample.classify mapping = .ok classification := by
  have hlist := classifySamples_eq_ok_iff.mp h
  rw [← List.map_fst_zip hlist.length_eq.le] at hsample
  obtain ⟨⟨first, classification⟩, hpair, rfl⟩ := List.mem_map.mp hsample
  exact ⟨classification, hpair, List.forall₂_zip hlist hpair⟩

theorem cloudContaminated_of_hasCloudFill
    (h : sample.classify (datasetMappingForProduct product) = .ok classification)
    (hfill : sample.HasCloudFill (datasetMappingForProduct product)) :
    classification.cloudContaminated = some true := by
  obtain ⟨-, -, hcloud, -⟩ := PixelSample.classify_eq_ok_iff.mp h
  obtain ⟨fill, hfill, hvalue⟩ := hfill
  have hdaily : fill = 65535 ∧ ∃ dataset, (datasetMappingForProduct product).cloudDataset =
      some dataset := by
    cases product with
    | vnp46A3 => cases hfill
    | vnp46A2 => exact ⟨(Option.some.inj hfill).symm, _, rfl⟩
    | vj146A2 => exact ⟨(Option.some.inj hfill).symm, _, rfl⟩
  obtain ⟨rfl, dataset, hdataset⟩ := hdaily
  have hread : sampleValueAsU16 dataset (.finite ((65535 : ℕ) : ℚ)) = .ok 65535 :=
    sampleValueAsU16_eq_ok_iff.mpr ⟨rfl, le_rfl⟩
  have hmask : isCloudContaminated 65535 = true := by decide
  rw [hvalue, hdataset] at hcloud
  simp only [readOptionalSample, hread, bind, Except.bind, hmask] at hcloud
  exact (Except.ok.inj hcloud).symm

theorem observationCountSample_of_hasObservationFill
    (h : sample.classify (datasetMappingForProduct product) = .ok classification)
    (hfill : sample.HasObservationFill (datasetMappingForProduct product)) :
    classification.observationCountSample = some 65535 := by
  obtain ⟨-, -, -, hcount⟩ := PixelSample.classify_eq_ok_iff.mp h
  obtain ⟨fill, hfill, hvalue⟩ := hfill
  have hmonthly : fill = 65535 ∧ ∃ dataset,
      (datasetMappingForProduct product).observationCountDataset = some dataset := by
    cases product with
    | vnp46A3 => exact ⟨(Option.some.inj hfill).symm, _, rfl⟩
    | vnp46A2 => cases hfill
    | vj146A2 => cases hfill
  obtain ⟨rfl, dataset, hdataset⟩ := hmonthly
  have hread : sampleValueAsU16 dataset (.finite ((65535 : ℕ) : ℚ)) = .ok 65535 :=
    sampleValueAsU16_eq_ok_iff.mpr ⟨rfl, le_rfl⟩
  rw [hvalue, hdataset] at hcount
  simp only [readOptionalSample, hread, bind, Except.bind, id] at hcount
  exact (Except.ok.inj hcount).symm

theorem not_passes_of_fill (hfill : sample.HasRadianceFill (datasetMappingForProduct product) ∨
    sample.HasQualityFill (datasetMappingForProduct product)) :
    ¬ sample.Passes (datasetMappingForProduct product) := by
  rintro ⟨hradiance, hquality⟩
  obtain hfill | hfill := hfill
  · simp [classifyRadiance, show sample.radiance.eq _ = true from hfill] at hradiance
  · have hvalue : sample.quality = .finite 255 := by
      cases product <;> exact hfill
    rw [hvalue] at hquality
    simp at hquality

/-- Fewer clouds in as many valid pixels are a lower fraction. -/
theorem cloudFraction_eq_cloudFraction_iff {others : List PixelSampleClassification}
    (hvalid : classifications.countP PixelSampleClassification.isValid =
      others.countP PixelSampleClassification.isValid) :
    (summarizeQuality classifications).cloudFraction = (summarizeQuality others).cloudFraction ↔
      classifications.countP PixelSampleClassification.isCloudyValid =
        others.countP PixelSampleClassification.isCloudyValid := by
  have hle := countP_isValid classifications
  have hle' := countP_isValid others
  simp only [summarizeQuality, summarizeLoop_eq, Nat.zero_add, hvalid]
  by_cases hnone : others.countP PixelSampleClassification.isValid = 0
  · rw [if_pos hnone, if_pos hnone]
    refine iff_of_true rfl ?_
    omega
  · rw [if_neg hnone, if_neg hnone, div_left_inj' (by exact_mod_cast hnone)]
    exact Nat.cast_inj

/-- The cloud fraction without the fills is the same exactly if no valid pixel has a cloud fill. -/
theorem cloudFraction_eq_iff
    (h : classifySamples (datasetMappingForProduct product) samples = .ok classifications) :
    (summarizeQuality classifications).cloudFraction = (summarizeQuality
        ((samples.zip classifications).map (dropFill (datasetMappingForProduct product)))).cloudFraction ↔
      ∀ sample ∈ samples, sample.HasCloudFill (datasetMappingForProduct product) →
        ¬ sample.Passes (datasetMappingForProduct product) := by
  have hlist := classifySamples_eq_ok_iff.mp h
  have hpairs (p : PixelSampleClassification → Bool) :
      classifications.countP p = (samples.zip classifications).countP (p ∘ Prod.snd) := by
    rw [← List.countP_map, List.map_snd_zip hlist.length_eq.ge]
  rw [cloudFraction_eq_cloudFraction_iff (by rw [hpairs, List.countP_map]; rfl), hpairs,
    List.countP_map, eq_comm, countP_eq_countP_iff]
  · constructor
    · intro hall sample hsample hfill hpasses
      obtain ⟨classification, hpair, hclassify⟩ := exists_mem_zip h hsample
      have hcloudy := hall _ hpair (by
        simp [PixelSampleClassification.isCloudyValid,
          cloudContaminated_of_hasCloudFill hclassify hfill,
          (PixelSample.isValid_iff_passes hclassify).mpr hpasses])
      simp [PixelSampleClassification.isCloudyValid, dropFill, hfill] at hcloudy
    · rintro hall ⟨sample, classification⟩ hpair hcloudy
      have hsample := (List.of_mem_zip hpair).1
      have hclassify := List.forall₂_zip hlist hpair
      simp only [Function.comp_apply, PixelSampleClassification.isCloudyValid,
        Bool.and_eq_true] at hcloudy ⊢
      have hnot : ¬ sample.HasCloudFill (datasetMappingForProduct product) := fun hfill =>
        hall sample hsample hfill ((PixelSample.isValid_iff_passes hclassify).mp hcloudy.1)
      simpa [dropFill, hnot, PixelSampleClassification.isValid] using hcloudy
  · rintro ⟨sample, classification⟩ hcloudy
    simp only [Function.comp_apply, PixelSampleClassification.isCloudyValid, dropFill,
      Bool.and_eq_true, decide_eq_true_eq] at hcloudy ⊢
    refine ⟨hcloudy.1, ?_⟩
    by_cases hfill : sample.HasCloudFill (datasetMappingForProduct product)
    · simp [hfill] at hcloudy
    · simpa [hfill] using hcloudy.2

/-- Without a cloud fill on a passing pixel the same pixels are rendered. -/
theorem map_isRenderableSample
    (h : classifySamples (datasetMappingForProduct product) samples = .ok classifications)
    (hclouds : ∀ sample ∈ samples, sample.HasCloudFill (datasetMappingForProduct product) →
      ¬ sample.Passes (datasetMappingForProduct product)) :
    classifications.map isRenderableSample = ((samples.zip classifications).map
      (dropFill (datasetMappingForProduct product))).map isRenderableSample := by
  have hlist := classifySamples_eq_ok_iff.mp h
  have hsnd : (samples.zip classifications).map Prod.snd = classifications :=
    List.map_snd_zip hlist.length_eq.ge
  rw [← hsnd, List.map_map, List.map_map, hsnd]
  apply List.map_congr_left
  rintro ⟨sample, classification⟩ hpair
  by_cases hfill : sample.HasCloudFill (datasetMappingForProduct product)
  · have hinvalid : classification.isValid ≠ true := fun hvalid =>
      hclouds sample (List.of_mem_zip hpair).1 hfill
        ((PixelSample.isValid_iff_passes (List.forall₂_zip hlist hpair)).mp hvalid)
    simp only [PixelSampleClassification.isValid] at hinvalid
    simp [isRenderableSample, dropFill, ← and_assoc, hinvalid]
  · simp [isRenderableSample, dropFill, hfill]

end Fills

/-- A fill is missing data exactly if some sample cannot be read, or no pixel that passes the other
rules has a cloud fill and no sample has the fill of an observation count. -/
theorem fillsAreMissing_iff (product : Shared.ProcessingProduct) (samples : List PixelSample) :
    FillsAreMissing (datasetMappingForProduct product) samples ↔
      (∃ sample ∈ samples, ¬ sample.Readable (datasetMappingForProduct product)) ∨
        (∀ sample ∈ samples, sample.HasCloudFill (datasetMappingForProduct product) →
          ¬ sample.Passes (datasetMappingForProduct product)) ∧
        ∀ sample ∈ samples, ¬ sample.HasObservationFill (datasetMappingForProduct product) := by
  by_cases hreadable : ∀ sample ∈ samples, sample.Readable (datasetMappingForProduct product)
  · obtain ⟨classifications, hclassified⟩ := (pushLoop_isOk_iff
      (PixelSample.classify (datasetMappingForProduct product))
      (fun _ _ classification => classification) [] samples).mpr fun sample hsample =>
        PixelSample.exists_classify_iff.mpr (hreadable sample hsample)
    have hwithout := classifySamples_withoutFill hclassified
    have hnone : ¬ ∃ sample ∈ samples, ¬ sample.Readable (datasetMappingForProduct product) := by
      rintro ⟨sample, hsample, hnot⟩
      exact hnot (hreadable sample hsample)
    rw [or_iff_right hnone, ← cloudFraction_eq_iff hclassified]
    constructor
    · intro h
      refine ⟨h.cloudFraction _ _ hclassified hwithout, fun sample hsample hfill => ?_⟩
      obtain ⟨classification, hpair, hclassify⟩ := exists_mem_zip hclassified hsample
      have hnot := h.counted _ hclassified _ hpair hfill
      rw [observationCountSample_of_hasObservationFill hclassify hfill] at hnot
      cases hnot
    · rintro ⟨hfraction, hcounts⟩
      have hsame : ∀ withoutFills, classifySamples (datasetMappingForProduct product)
          (samples.map (PixelSample.withoutFill (datasetMappingForProduct product))) =
            .ok withoutFills → (summarizeQuality classifications).cloudFraction =
              (summarizeQuality withoutFills).cloudFraction := by
        intro withoutFills h
        rwa [← Except.ok.inj (hwithout.symm.trans h)]
      refine ⟨?_, ?_, ?_, ?_, ?_⟩
      · intro others h pair hpair hfill
        obtain rfl : classifications = others := Except.ok.inj (hclassified.symm.trans h)
        have hclassify := List.forall₂_zip (classifySamples_eq_ok_iff.mp hclassified) hpair
        rw [Bool.eq_false_iff]
        intro hvalid
        exact not_passes_of_fill hfill ((PixelSample.isValid_iff_passes hclassify).mp hvalid)
      · intro others withoutFills h h'
        obtain rfl : classifications = others := Except.ok.inj (hclassified.symm.trans h)
        exact hsame withoutFills h'
      · intro others withoutFills h h' maxCloudFraction
        obtain rfl : classifications = others := Except.ok.inj (hclassified.symm.trans h)
        rw [cloudRejectionReason, cloudRejectionReason, exceedsMaxCloudFraction,
          exceedsMaxCloudFraction, hsame withoutFills h']
      · intro others withoutFills h h'
        obtain rfl : classifications = others := Except.ok.inj (hclassified.symm.trans h)
        rw [← Except.ok.inj (hwithout.symm.trans h')]
        exact map_isRenderableSample hclassified ((cloudFraction_eq_iff hclassified).mp hfraction)
      · intro others h pair hpair hfill
        exact absurd hfill (hcounts pair.1 (List.of_mem_zip hpair).1)
  · have hfail : ∀ classifications,
        classifySamples (datasetMappingForProduct product) samples ≠ .ok classifications := by
      intro classifications h
      refine hreadable fun sample hsample => ?_
      obtain ⟨classification, -, hclassify⟩ := exists_mem_zip h hsample
      exact PixelSample.exists_classify_iff.mp ⟨classification, hclassify⟩
    refine iff_of_true ?_ (.inl (by simpa using hreadable))
    exact ⟨fun _ h => absurd h (hfail _), fun _ _ h => absurd h (hfail _),
      fun _ _ h => absurd h (hfail _), fun _ _ h => absurd h (hfail _),
      fun _ h => absurd h (hfail _)⟩

/-- A pixel that passes the other rules, with the fill of the cloud mask. -/
def cloudFillSample : PixelSample :=
  ⟨.finite 1, .finite 0, some (.finite (65535 : ℕ)), none⟩

/-- A pixel of a monthly composite with the fill of the observation count. -/
def countFillSample : PixelSample :=
  ⟨.finite 1, .finite 0, none, some (.finite (65535 : ℕ))⟩

/-- The granule of one clear pixel and one without a cloud observation is half cloudy, and rejected
with the default threshold; the fill of an observation count is recorded. -/
theorem not_fillsAreMissing :
    (classifySamples vnp46A2Mapping [⟨.finite 1, .finite 0, some (.finite 0), none⟩,
        cloudFillSample] = .ok [⟨.valid, .valid, 0, some false, none⟩,
          ⟨.valid, .valid, 0, some true, none⟩] ∧
      cloudRejectionReason (summarizeQuality [⟨.valid, .valid, 0, some false, none⟩,
        ⟨.valid, .valid, 0, some true, none⟩]) (2 / 5) =
          some "cloud fraction exceeds configured maximum" ∧
      ¬ FillsAreMissing vnp46A2Mapping [⟨.finite 1, .finite 0, some (.finite 0), none⟩,
        cloudFillSample]) ∧
    classifySamples vnp46A3Mapping [countFillSample] = .ok [⟨.valid, .valid, 0, none, some 65535⟩] ∧
      ¬ FillsAreMissing vnp46A3Mapping [countFillSample] := by
  refine ⟨⟨by decide +kernel, by decide +kernel, fun h => ?_⟩, by decide +kernel, fun h => ?_⟩
  · have hfraction := h.cloudFraction [⟨.valid, .valid, 0, some false, none⟩,
      ⟨.valid, .valid, 0, some true, none⟩] [⟨.valid, .valid, 0, some false, none⟩,
        ⟨.valid, .valid, 0, none, none⟩] (by decide +kernel) (by decide +kernel)
    exact absurd hfraction (by decide +kernel)
  · have hcount := h.counted [⟨.valid, .valid, 0, none, some 65535⟩] (by decide +kernel)
      (countFillSample, ⟨.valid, .valid, 0, none, some 65535⟩) List.mem_cons_self
      ⟨65535, rfl, rfl⟩
    cases hcount

end LumenHorizon.Processing
