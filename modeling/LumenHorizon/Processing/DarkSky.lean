import LumenHorizon.Foundation.Spans
import LumenHorizon.Processing.RenderedPixels

/-! # Dark-sky classes as spans of radiance

The nine classes are adjacent, so what a list of adjacent spans has holds of them: every radiance
lies in exactly one class, and a greater radiance in no lower one.
-/

namespace LumenHorizon.Processing
open Foundation

namespace DarkSkyClass

def contains (darkSkyClass : DarkSkyClass) (radiance : FloatValue) : Bool :=
  match darkSkyClass.maxRadianceExclusive with
  | some max => radiance.ge darkSkyClass.minRadiance && radiance.lt max
  | none => radiance.ge darkSkyClass.minRadiance

end DarkSkyClass

def finitePart : FloatValue → ℚ
  | .finite value => value
  | _ => 0

def spanStart (darkSkyClass : DarkSkyClass) : ℚ := finitePart darkSkyClass.minRadiance

def spanStop (darkSkyClass : DarkSkyClass) : Option ℚ :=
  darkSkyClass.maxRadianceExclusive.map finitePart

theorem darkSkyClasses_adjacent : Spans.Adjacent spanStart spanStop darkSkyClasses := by
  simp only [darkSkyClasses, Spans.Adjacent, spanStart, spanStop, finitePart, Option.map]
  norm_num

theorem darkSkyClasses_numbered :
    darkSkyClasses.Pairwise fun lower higher => lower.number ≤ higher.number := by decide

/-- The bounds of the table are numbers, so its test is that of a span. -/
theorem contains_eq_covers {darkSkyClass : DarkSkyClass} (h : darkSkyClass ∈ darkSkyClasses)
    (value : ℚ) : darkSkyClass.contains (.finite value) =
      decide (Spans.Covers spanStart spanStop value darkSkyClass) := by
  simp only [darkSkyClasses, List.mem_cons, List.not_mem_nil, or_false] at h
  rcases h with rfl | rfl | rfl | rfl | rfl | rfl | rfl | rfl | rfl <;>
    simp [DarkSkyClass.contains, Spans.Covers, spanStart, spanStop, finitePart]

theorem filter_contains (value : ℚ) :
    darkSkyClasses.filter (·.contains (.finite value)) =
      darkSkyClasses.filter (Spans.Covers spanStart spanStop value ·) :=
  List.filter_congr fun _ h => contains_eq_covers h value

/-- The search is over the classes that contain the radiance. -/
theorem classifyDarkSky_finite {value : ℚ} (h : 0 ≤ value) :
    classifyDarkSky (.finite value) =
      (darkSkyClasses.filter (·.contains (.finite value))).head? := by
  have hneg : (FloatValue.finite value).lt (.finite 0) = false := by
    simpa using h
  rw [List.head?_filter]
  simp only [classifyDarkSky, FloatValue.isFinite_finite, hneg, Bool.not_true, Bool.or_self,
    Bool.false_eq_true, if_false]
  rfl

theorem exists_darkSkyClass {value : ℚ} (h : 0 ≤ value) :
    ∃ darkSkyClass ∈ darkSkyClasses, Spans.Covers spanStart spanStop value darkSkyClass ∧
      darkSkyClasses.filter (·.contains (.finite value)) = [darkSkyClass] ∧
        classifyDarkSky (.finite value) = some darkSkyClass := by
  obtain ⟨darkSkyClass, hmem, hcovers⟩ := darkSkyClasses_adjacent.exists_covers h
  have hfilter : darkSkyClasses.filter (·.contains (.finite value)) = [darkSkyClass] := by
    rw [filter_contains, darkSkyClasses_adjacent.filter_eq hmem hcovers]
  exact ⟨darkSkyClass, hmem, hcovers, hfilter, by rw [classifyDarkSky_finite h, hfilter]; rfl⟩

/-- What is promised of the table: one class for each radiance, no lower one for a greater radiance,
none for any other value, and a colour for every pixel. -/
structure PartitionsRadiance : Prop where
  one : ∀ value : ℚ, 0 ≤ value → ∃ darkSkyClass,
    darkSkyClasses.filter (·.contains (.finite value)) = [darkSkyClass] ∧
      classifyDarkSky (.finite value) = some darkSkyClass
  grows : ∀ (value value' : ℚ) (darkSkyClass darkSkyClass' : DarkSkyClass), value ≤ value' →
    classifyDarkSky (.finite value) = some darkSkyClass →
      classifyDarkSky (.finite value') = some darkSkyClass' →
        darkSkyClass.number ≤ darkSkyClass'.number
  none : ∀ radiance, (∀ value : ℚ, 0 ≤ value → radiance ≠ .finite value) →
    classifyDarkSky radiance = none
  renders : ∀ (K : Type) (lift : ScienceError → GenerateError K) (mapping : DatasetMapping)
    (pixel : RenderPixel FloatValue), ∃ color,
      renderPixel (viirsScience lift mapping) pixel = .ok color

/-- The classes partition the radiances. -/
theorem darkSkyClasses_partition : PartitionsRadiance := by
  constructor
  · intro value h
    obtain ⟨darkSkyClass, -, -, hfilter, hclassify⟩ := exists_darkSkyClass h
    exact ⟨darkSkyClass, hfilter, hclassify⟩
  · intro value value' darkSkyClass darkSkyClass' hle hclass hclass'
    have hpos : 0 ≤ value := by
      obtain ⟨_, hvalue, hpos⟩ := classifyDarkSky_isSome_iff.mp (Option.isSome_of_eq_some hclass)
      exact FloatValue.finite.inj hvalue ▸ hpos
    obtain ⟨found, hmem, hcovers, -, hfound⟩ := exists_darkSkyClass hpos
    obtain ⟨found', hmem', hcovers', -, hfound'⟩ := exists_darkSkyClass (hpos.trans hle)
    obtain rfl : found = darkSkyClass := Option.some.inj (hfound.symm.trans hclass)
    obtain rfl : found' = darkSkyClass' := Option.some.inj (hfound'.symm.trans hclass')
    exact darkSkyClasses_adjacent.le_of_covers darkSkyClasses_numbered hle hmem hcovers hmem'
      hcovers'
  · intro radiance hnone
    rw [← Option.not_isSome_iff_eq_none, classifyDarkSky_isSome_iff]
    rintro ⟨value, hvalue, hpos⟩
    exact hnone value hpos hvalue
  · intro K lift mapping pixel
    obtain ⟨color, hcolor, -⟩ := renderPixel_viirsScience lift mapping pixel
    exact ⟨color, hcolor⟩

end LumenHorizon.Processing
