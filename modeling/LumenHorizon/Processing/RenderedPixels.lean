import LumenHorizon.Processing.Science

/-! # Rendered pixels and the quality summary

The renderer classifies the same samples as the quality gate, keeps those that are renderable and
asks for the dark-sky class of each. So its opaque pixels are the valid pixels without clouds,
unless one of them has a radiance that no class is given to.
-/

namespace LumenHorizon.Processing
open Foundation

def hexValue (c : Char) : Option ℕ :=
  if '0' ≤ c ∧ c ≤ '9' then some (c.toNat - '0'.toNat)
  else if 'a' ≤ c ∧ c ≤ 'f' then some (c.toNat - 'a'.toNat + 10)
  else if 'A' ≤ c ∧ c ≤ 'F' then some (c.toNat - 'A'.toNat + 10)
  else none

/-- `u8::from_str_radix(value, 16)` of two characters: a sign `+` may stand before one digit. -/
def parseHexByte (high low : Char) (colorHex : String) : Except RenderError ℕ :=
  match (if high = '+' then some 0 else hexValue high), hexValue low with
  | some h, some l => .ok (h * 16 + l)
  | _, _ => .error (.invalidClassColor colorHex)

/-- `parse_color_hex`. -/
def parseColorHex (colorHex : String) : Except RenderError (ℕ × ℕ × ℕ) :=
  match colorHex.toList with
  | ['#', r₁, r₀, g₁, g₀, b₁, b₀] => do
    let red ← parseHexByte r₁ r₀ colorHex
    let green ← parseHexByte g₁ g₀ colorHex
    let blue ← parseHexByte b₁ b₀ colorHex
    .ok (red, green, blue)
  | _ => .error (.invalidClassColor colorHex)

def classColor (radiance : FloatValue) : Except RenderError (Option Rgba) :=
  match classifyDarkSky radiance with
  | none => .ok none
  | some darkSkyClass => do
    let (red, green, blue) ← parseColorHex darkSkyClass.colorHex
    .ok (some ⟨red, green, blue, 255⟩)

/-- The rules of a mapping as rendering uses them; `lift` is the `?` on a science error. -/
def viirsScience {K : Type} (lift : ScienceError → GenerateError K) (mapping : DatasetMapping) :
    SampleScience K FloatValue where
  classify radiance quality cloud observationCount :=
    match classifyPixelSample mapping radiance quality cloud observationCount with
    | .ok classification => .ok (isRenderableSample classification)
    | .error error => .error (lift error)
  classColor := classColor

theorem parseColorHex_isOk {darkSkyClass : DarkSkyClass} (h : darkSkyClass ∈ darkSkyClasses) :
    ∃ color, parseColorHex darkSkyClass.colorHex = .ok color := by
  have hall : ∀ darkSkyClass ∈ darkSkyClasses,
      (parseColorHex darkSkyClass.colorHex).toOption.isSome = true := by decide
  obtain ⟨color, hcolor⟩ := Option.isSome_iff_exists.mp (hall _ h)
  cases hparsed : parseColorHex darkSkyClass.colorHex with
  | error error => simp [hparsed, Except.toOption] at hcolor
  | ok color => exact ⟨color, rfl⟩

def Rgba.isOpaque (color : Rgba) : Bool := color.alpha = 255

section Render

variable {K : Type} {mapping : DatasetMapping}

theorem renderPixel_viirsScience (lift : ScienceError → GenerateError K) (mapping : DatasetMapping)
    (pixel : RenderPixel FloatValue) :
    ∃ color, renderPixel (viirsScience lift mapping) pixel = .ok color ∧
      (color.isOpaque = true ↔ pixel.rejected = false ∧
        ∃ radiance ∈ pixel.radiance, (classifyDarkSky radiance).isSome = true) ∧
      (color.isOpaque = true → ∃ radiance ∈ pixel.radiance, ∃ darkSkyClass,
        classifyDarkSky radiance = some darkSkyClass ∧ ∃ red green blue,
          parseColorHex darkSkyClass.colorHex = .ok (red, green, blue) ∧
            color = ⟨red, green, blue, 255⟩) := by
  obtain ⟨radiance, rejected⟩ := pixel
  have htransparent : Rgba.isOpaque ⟨0, 0, 0, 0⟩ = false := by decide
  cases rejected with
  | true => exact ⟨⟨0, 0, 0, 0⟩, rfl, by simp [htransparent], by simp [htransparent]⟩
  | false =>
    cases radiance with
    | none => exact ⟨⟨0, 0, 0, 0⟩, rfl, by simp [htransparent], by simp [htransparent]⟩
    | some radiance =>
      cases hclass : classifyDarkSky radiance with
      | none =>
        refine ⟨⟨0, 0, 0, 0⟩, ?_, by simp [htransparent, hclass], by simp [htransparent]⟩
        simp [renderPixel, viirsScience, classColor, hclass]
        rfl
      | some darkSkyClass =>
        have hmem : darkSkyClass ∈ darkSkyClasses := classifyDarkSky_mem hclass
        obtain ⟨⟨red, green, blue⟩, hcolor⟩ := parseColorHex_isOk hmem
        refine ⟨⟨red, green, blue, 255⟩, ?_, by simp [Rgba.isOpaque, hclass], fun _ =>
          ⟨radiance, rfl, darkSkyClass, hclass, red, green, blue, hcolor, rfl⟩⟩
        simp [renderPixel, viirsScience, classColor, hclass, hcolor]
        rfl

def renderedPixel (pair : PixelSample × PixelSampleClassification) : RenderPixel FloatValue where
  radiance := if isRenderableSample pair.2 then some pair.1.radiance else none
  rejected := !isRenderableSample pair.2

variable {radianceSamples qualitySamples : List FloatValue}
  {cloudSamples observationCountSamples : Option (List FloatValue)}

theorem renderPixelsFromSamples_viirsScience (lift : ScienceError → GenerateError K)
    {classifications : List PixelSampleClassification}
    (haligned : validateAlignedSampleCounts (K := K) radianceSamples.length qualitySamples.length
      (cloudSamples.map List.length) (observationCountSamples.map List.length) = .ok ())
    (hclassified : classifySamples mapping (pixelSamples radianceSamples qualitySamples cloudSamples
      observationCountSamples) = .ok classifications) :
    renderPixelsFromSamples (viirsScience lift mapping) radianceSamples qualitySamples cloudSamples
      observationCountSamples =
        .ok (((pixelSamples radianceSamples qualitySamples cloudSamples
          observationCountSamples).zip classifications).map renderedPixel) := by
  rw [classifySamples_eq_ok_iff, pixelSamples, List.forall₂_map_left_iff] at hclassified
  refine bind_eq_ok_iff.mpr ⟨(), haligned, pushLoop_eq_ok_iff.mpr
    ⟨classifications.map isRenderableSample, ?_, ?_⟩⟩
  · rw [List.forall₂_map_right_iff]
    refine hclassified.imp fun sample classification h => ?_
    -- what is not a number is no quality sample, so there is one at this index
    have hquality : ∃ quality, qualitySamples[sample.2]? = some quality := by
      by_contra hnone
      have habsent : qualitySamples[sample.2]? = none := by
        cases hat : qualitySamples[sample.2]? with
        | none => rfl
        | some quality => exact absurd ⟨quality, hat⟩ hnone
      obtain ⟨number, hnumber, -⟩ := bind_eq_ok_iff.mp h
      rw [List.getD_eq_getElem?_getD, habsent] at hnumber
      cases hnumber
    obtain ⟨quality, hquality⟩ := hquality
    rw [PixelSample.classify, List.getD_eq_getElem?_getD, hquality] at h
    simp only [hquality, viirsScience]
    rw [show classifyPixelSample mapping sample.1 quality _ _ = .ok classification from h]
  · simp [pixelSamples, List.zip_map_left, List.zip_map_right, renderedPixel, Function.comp_def]

end Render

/-- The renderer and the summary agree on these samples: the opaque pixels are as many as the valid
ones that are not cloudy, and an opaque pixel meets the rules and has the colour of the class of
its own radiance. -/
structure RenderingAgrees (samples : List PixelSample)
    (classifications : List PixelSampleClassification) (colors : List Rgba) : Prop where
  count : colors.countP Rgba.isOpaque = (summarizeQuality classifications).validPixelCount -
    (summarizeQuality classifications).cloudContaminatedValidPixelCount
  pixels : ∀ (k : ℕ) (sample : PixelSample) (classification : PixelSampleClassification)
    (color : Rgba), samples[k]? = some sample → classifications[k]? = some classification →
      colors[k]? = some color → color.isOpaque = true →
        isRenderableSample classification = true ∧
          ∃ value darkSkyClass red green blue, sample.radiance = .finite value ∧
            classifyDarkSky sample.radiance = some darkSkyClass ∧
              parseColorHex darkSkyClass.colorHex = .ok (red, green, blue) ∧
                color = ⟨red, green, blue, 255⟩

/-- Of the samples that pass the quality and the cloud rule, none has a radiance that is not a
number or infinite. -/
def RadiancesFinite (samples : List PixelSample)
    (classifications : List PixelSampleClassification) : Prop :=
  ∀ pair ∈ samples.zip classifications, pair.2.qualityMaskQuality = .valid →
    pair.2.cloudContaminated ≠ some true → pair.1.radiance ≠ .nan ∧ pair.1.radiance ≠ .posInf

/-- For a mapping of a product every radiance that is not below zero passes. -/
theorem classifyRadiance_eq_valid_iff (product : Shared.ProcessingProduct) (radiance : FloatValue) :
    classifyRadiance (datasetMappingForProduct product) radiance = .valid ↔
      radiance = .nan ∨ radiance = .posInf ∨ ∃ value, radiance = .finite value ∧ 0 ≤ value := by
  have hfill : (datasetMappingForProduct product).radianceFillValue = .finite (-8191181 / 8192) := by
    cases product <;> rfl
  have hmin : (datasetMappingForProduct product).radianceValidMin = .finite 0 := by
    cases product <;> rfl
  rw [← FloatValue.lt_finite_eq_false_iff, classifyRadiance, hfill, hmin]
  by_cases hbelow : radiance.lt (.finite 0) = true
  · simp [hbelow]
  · have hne : radiance.eq (.finite (-8191181 / 8192)) = false := by
      rw [Bool.eq_false_iff]
      intro heq
      rw [FloatValue.eq_finite_iff.mp heq] at hbelow
      exact hbelow (by norm_num)
    simp [hbelow, hne]

section Agreement

variable {K : Type} (lift : ScienceError → GenerateError K) (product : Shared.ProcessingProduct)
  {samples : List PixelSample} {classifications : List PixelSampleClassification}
  {colors : List Rgba}

theorem radianceQuality_of_classify {mapping : DatasetMapping} {sample : PixelSample}
    {classification : PixelSampleClassification}
    (h : sample.classify mapping = .ok classification) :
    classification.radianceQuality = classifyRadiance mapping sample.radiance := by
  obtain ⟨quality, -, h⟩ := bind_eq_ok_iff.mp h
  obtain ⟨cloud, -, h⟩ := bind_eq_ok_iff.mp h
  obtain ⟨observationCount, -, h⟩ := bind_eq_ok_iff.mp h
  cases h
  rfl

def hasClass (pair : PixelSample × PixelSampleClassification) : Bool :=
  isRenderableSample pair.2 && (classifyDarkSky pair.1.radiance).isSome

theorem countP_isOpaque {mapping : DatasetMapping}
    {pairs : List (PixelSample × PixelSampleClassification)}
    (hcolors : pushLoop (renderPixel (viirsScience lift mapping)) (fun _ _ color => color) []
      (pairs.map renderedPixel) = .ok colors) :
    colors.countP Rgba.isOpaque = pairs.countP hasClass := by
  rw [pushLoop_results_iff, List.forall₂_map_left_iff] at hcolors
  refine (countP_eq_of_forall₂ hcolors fun pair color hcolor => ?_).symm
  obtain ⟨color', hcolor', hshown, -⟩ :=
    renderPixel_viirsScience lift mapping (renderedPixel pair)
  obtain rfl : color' = color := Except.ok.inj (hcolor'.symm.trans hcolor)
  rw [hshown]
  by_cases hrenderable : isRenderableSample pair.2 = true
  · simp [hasClass, renderedPixel, hrenderable]
  · simp [hasClass, renderedPixel, hrenderable]

/-- All samples of passing pixels have a class exactly if their radiances are finite. -/
theorem forall_hasClass_iff
    (hclassified : classifySamples (datasetMappingForProduct product) samples =
      .ok classifications) :
    (∀ pair ∈ samples.zip classifications, isRenderableSample pair.2 = true →
      hasClass pair = true) ↔ RadiancesFinite samples classifications := by
  refine forall₂_congr fun pair hpair => ?_
  have hclassify := List.forall₂_zip (classifySamples_eq_ok_iff.mp hclassified) hpair
  have hvalid := classifyRadiance_eq_valid_iff product pair.1.radiance
  rw [← radianceQuality_of_classify hclassify] at hvalid
  simp only [hasClass, isRenderableSample, Bool.and_eq_true, decide_eq_true_eq, hvalid,
    classifyDarkSky_isSome_iff]
  constructor
  · intro h hquality hclear
    constructor
    · intro hnan
      have hclass := h ⟨.inl hnan, hquality, hclear⟩
      simp [hnan] at hclass
    · intro hinf
      have hclass := h ⟨.inr (.inl hinf), hquality, hclear⟩
      simp [hinf] at hclass
  · rintro h ⟨hradiance, hquality, hclear⟩
    obtain ⟨hnan, hinf⟩ := h hquality hclear
    refine ⟨⟨hradiance, hquality, hclear⟩, ?_⟩
    exact (hradiance.resolve_left hnan).resolve_left hinf

/-- What an opaque pixel says, with the sample and the classification of its index. -/
theorem isOpaque_of_rendered {mapping : DatasetMapping}
    (hcolors : pushLoop (renderPixel (viirsScience lift mapping)) (fun _ _ color => color) []
      ((samples.zip classifications).map renderedPixel) = .ok colors) {k : ℕ}
    {sample : PixelSample} {classification : PixelSampleClassification} {color : Rgba}
    (hsample : samples[k]? = some sample)
    (hclassification : classifications[k]? = some classification) (hcolor : colors[k]? = some color)
    (hshown : color.isOpaque = true) :
    isRenderableSample classification = true ∧
      ∃ value darkSkyClass red green blue, sample.radiance = .finite value ∧
        classifyDarkSky sample.radiance = some darkSkyClass ∧
          parseColorHex darkSkyClass.colorHex = .ok (red, green, blue) ∧
            color = ⟨red, green, blue, 255⟩ := by
  have hpixel : ((samples.zip classifications).map renderedPixel)[k]? =
      some (renderedPixel (sample, classification)) := by
    rw [List.getElem?_map, List.getElem?_zip_eq_some (z := (sample, classification)) |>.mpr
      ⟨hsample, hclassification⟩]
    rfl
  obtain ⟨color', hcolor', hat⟩ := pushLoop_getElem? hcolors hpixel
  rw [List.length_nil, Nat.zero_add, hcolor] at hat
  obtain rfl : color = color' := Option.some.inj hat
  obtain ⟨color', hsame, hiff, hclass⟩ :=
    renderPixel_viirsScience lift mapping (renderedPixel (sample, classification))
  obtain rfl : color' = color := Except.ok.inj (hsame.symm.trans hcolor')
  have hrenderable : isRenderableSample classification = true := by
    simpa [renderedPixel] using (hiff.mp hshown).1
  obtain ⟨radiance, hradiance, darkSkyClass, hdark, red, green, blue, hparsed, hrgba⟩ := hclass hshown
  obtain rfl : sample.radiance = radiance := by simpa [renderedPixel, hrenderable] using hradiance
  obtain ⟨value, hvalue, -⟩ := classifyDarkSky_isSome_iff.mp (Option.isSome_of_mem hdark)
  exact ⟨hrenderable, value, darkSkyClass, red, green, blue, hvalue, hdark, hparsed, hrgba⟩

/-- Aligned samples that are classified are rendered, and the renderer agrees with the summary
exactly if no sample that passes the quality and the cloud rule has a radiance that is not a number
or infinite. -/
theorem renderingAgrees_iff (radianceSamples qualitySamples : List FloatValue)
    (cloudSamples observationCountSamples : Option (List FloatValue))
    (haligned : validateAlignedSampleCounts (K := K) radianceSamples.length qualitySamples.length
      (cloudSamples.map List.length) (observationCountSamples.map List.length) = .ok ())
    (hclassified : classifySamples (datasetMappingForProduct product) (pixelSamples radianceSamples
      qualitySamples cloudSamples observationCountSamples) = .ok classifications) :
    ∃ pixels colors,
      renderPixelsFromSamples (viirsScience lift (datasetMappingForProduct product)) radianceSamples
        qualitySamples cloudSamples observationCountSamples = .ok pixels ∧
      pushLoop (renderPixel (viirsScience lift (datasetMappingForProduct product)))
        (fun _ _ color => color) [] pixels = .ok colors ∧
      (RenderingAgrees (pixelSamples radianceSamples qualitySamples cloudSamples
          observationCountSamples) classifications colors ↔
        RadiancesFinite (pixelSamples radianceSamples qualitySamples cloudSamples
          observationCountSamples) classifications) := by
  have hrendered := renderPixelsFromSamples_viirsScience lift haligned hclassified
  generalize pixelSamples radianceSamples qualitySamples cloudSamples observationCountSamples =
    samples at hclassified hrendered ⊢
  obtain ⟨colors, hcolors⟩ := (pushLoop_isOk_iff
    (renderPixel (viirsScience lift (datasetMappingForProduct product))) (fun _ _ color => color) []
    ((samples.zip classifications).map renderedPixel)).mpr fun pixel _ =>
      (renderPixel_viirsScience lift _ pixel).imp fun color h => h.1
  refine ⟨_, colors, hrendered, hcolors, ?_⟩
  have hlength := (classifySamples_eq_ok_iff.mp hclassified).length_eq
  have hrenderable : classifications.countP isRenderableSample =
      (samples.zip classifications).countP fun pair => isRenderableSample pair.2 := by
    rw [← Function.comp_def isRenderableSample Prod.snd, ← List.countP_map,
      List.map_snd_zip hlength.ge]
  have hcounts : (summarizeQuality classifications).validPixelCount -
      (summarizeQuality classifications).cloudContaminatedValidPixelCount =
        (samples.zip classifications).countP fun pair => isRenderableSample pair.2 := by
    rw [summarizeQuality_validPixelCount, summarizeQuality_cloudContaminatedValidPixelCount,
      countP_isValid, Nat.add_sub_cancel, hrenderable]
  have hiff : colors.countP Rgba.isOpaque = (summarizeQuality classifications).validPixelCount -
      (summarizeQuality classifications).cloudContaminatedValidPixelCount ↔
        RadiancesFinite samples classifications := by
    rw [hcounts, countP_isOpaque lift hcolors, ← forall_hasClass_iff product hclassified]
    apply countP_eq_countP_iff
    intro pair hpair
    exact (Bool.and_eq_true_iff.mp hpair).1
  constructor
  · intro h
    exact hiff.mp h.count
  · intro h
    exact ⟨hiff.mpr h, fun k sample classification color hsample hclassification hcolor =>
      isOpaque_of_rendered lift hcolors hsample hclassification hcolor⟩

end Agreement

/-- A clear pixel, a cloudy one and one with the fill radiance. -/
theorem renderingAgrees_sample :
    ∃ pixels colors,
      renderPixelsFromSamples (viirsScience (fun _ => (.indexOutOfBounds 0 : GenerateError ℚ))
        vnp46A2Mapping) [.finite 1, .finite 1, .finite (-8191181 / 8192)]
        [.finite 0, .finite 0, .finite 0] (some [.finite 0, .finite 128, .finite 0]) none =
          .ok pixels ∧
      pushLoop (renderPixel (viirsScience (fun _ => (.indexOutOfBounds 0 : GenerateError ℚ))
        vnp46A2Mapping)) (fun _ _ color => color) [] pixels = .ok colors ∧
      (RenderingAgrees (pixelSamples [.finite 1, .finite 1, .finite (-8191181 / 8192)]
          [.finite 0, .finite 0, .finite 0] (some [.finite 0, .finite 128, .finite 0]) none)
          [⟨.valid, .valid, 0, some false, none⟩, ⟨.valid, .valid, 0, some true, none⟩,
            ⟨.invalid, .valid, 0, some false, none⟩] colors ↔
        RadiancesFinite (pixelSamples [.finite 1, .finite 1, .finite (-8191181 / 8192)]
          [.finite 0, .finite 0, .finite 0] (some [.finite 0, .finite 128, .finite 0]) none)
          [⟨.valid, .valid, 0, some false, none⟩, ⟨.valid, .valid, 0, some true, none⟩,
            ⟨.invalid, .valid, 0, some false, none⟩]) :=
  renderingAgrees_iff (fun _ => (.indexOutOfBounds 0 : GenerateError ℚ)) .vnp46A2 _ _ _ _
    (by decide +kernel) (by decide +kernel)

/-- A radiance that is not a number passes the rules of a valid pixel, and is not shown. -/
theorem not_renderingAgrees_nan :
    classifySamples vnp46A2Mapping (pixelSamples [.nan] [.finite 0] (some [.finite 0]) none) =
        .ok [⟨.valid, .valid, 0, some false, none⟩] ∧
      renderPixelsFromSamples (viirsScience (fun _ => (.indexOutOfBounds 0 : GenerateError ℚ))
        vnp46A2Mapping) [.nan] [.finite 0] (some [.finite 0]) none = .ok [⟨some .nan, false⟩] ∧
      pushLoop (renderPixel (viirsScience (fun _ => (.indexOutOfBounds 0 : GenerateError ℚ))
        vnp46A2Mapping)) (fun _ _ color => color) [] [⟨some .nan, false⟩] = .ok [⟨0, 0, 0, 0⟩] ∧
      ¬ RenderingAgrees (pixelSamples [.nan] [.finite 0] (some [.finite 0]) none)
        [⟨.valid, .valid, 0, some false, none⟩] [⟨0, 0, 0, 0⟩] := by
  refine ⟨by decide +kernel, by decide +kernel, by decide +kernel, fun h => ?_⟩
  exact absurd h.count (by decide +kernel)

end LumenHorizon.Processing
