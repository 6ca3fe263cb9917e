import Mathlib.Data.List.DropRight
import LumenHorizon.Shared.TileSetPaths

/-! # Strings as Rust's methods see them

Lengths count bytes; patterns are searched for in characters.
-/

namespace LumenHorizon.Shared

/-- `str::len`. -/
def byteLength (text : String) : ℕ := (text.toList.map Char.utf8Size).sum

/-- `str::ends_with`. -/
def endsWith (text pattern : String) : Bool := pattern.toList.isSuffixOf text.toList

def toAsciiLowercase (text : String) : String := String.ofList (text.toList.map Char.toLower)

/-- `str::contains` with a string pattern. -/
def containsText (text pattern : String) : Prop := pattern.toList <:+: text.toList

instance (text pattern : String) : Decidable (containsText text pattern) :=
  inferInstanceAs (Decidable (_ <:+: _))

/-- `value.trim().is_empty()`. -/
def isBlank (text : String) : Bool := text.toList.all isWhitespace

/-- `str::trim_end_matches` with a character. -/
def trimEndChar (c : Char) (text : String) : String :=
  String.ofList (text.toList.reverse.dropWhile (· = c)).reverse

/-- The characters of a text with the pattern replaced wherever it begins, the next few being left
out as part of it. -/
def replaceChars (pattern replacement : List Char) : ℕ → List Char → List Char
  | _, [] => []
  | skip + 1, _ :: l => replaceChars pattern replacement skip l
  | 0, c :: l =>
    if pattern.isPrefixOf (c :: l) then
      replacement ++ replaceChars pattern replacement (pattern.length - 1) l
    else c :: replaceChars pattern replacement 0 l

/-- `str::replace` with a pattern that is not empty. -/
def replaceText (text pattern replacement : String) : String :=
  String.ofList (replaceChars pattern.toList replacement.toList 0 text.toList)

/-- The rest of the characters after the pattern, as often as it comes at their beginning. -/
def stripStart (pattern : List Char) : ℕ → List Char → List Char
  | 0, l => l
  | fuel + 1, l =>
    if pattern.isPrefixOf l then stripStart pattern fuel (l.drop pattern.length) else l

/-- `str::trim_end_matches` with a string that is not empty. -/
def trimEndMatches (text pattern : String) : String :=
  String.ofList
    (stripStart pattern.toList.reverse text.toList.length text.toList.reverse).reverse

@[simp] theorem byteLength_append (text text' : String) :
    byteLength (text ++ text') = byteLength text + byteLength text' := by
  simp [byteLength, String.toList_append]

@[simp] theorem trimEndChar_trimEndChar (c : Char) (text : String) :
    trimEndChar c (trimEndChar c text) = trimEndChar c text := by
  simp [trimEndChar, List.dropWhile_idempotent]

theorem replaceChars_skip (pattern replacement : List Char) (l r : List Char) :
    replaceChars pattern replacement l.length (l ++ r) = replaceChars pattern replacement 0 r := by
  induction l with
  | nil => rfl
  | cons c l ih =>
    rw [List.length_cons, List.cons_append, replaceChars]
    exact ih

theorem replaceChars_pattern_append (c : Char) (pattern replacement r : List Char) :
    replaceChars (c :: pattern) replacement 0 (c :: pattern ++ r) =
      replacement ++ replaceChars (c :: pattern) replacement 0 r := by
  have hprefix : (c :: pattern).isPrefixOf (c :: (pattern ++ r)) = true :=
    List.isPrefixOf_iff_prefix.mpr (List.prefix_append (c :: pattern) r)
  rw [List.cons_append, replaceChars, if_pos hprefix]
  exact congrArg _ (replaceChars_skip (c :: pattern) replacement pattern r)

theorem replaceChars_append_of_notMem {c : Char} {l : List Char} (h : c ∉ l)
    (pattern replacement r : List Char) :
    replaceChars (c :: pattern) replacement 0 (l ++ r) =
      l ++ replaceChars (c :: pattern) replacement 0 r := by
  induction l with
  | nil => rfl
  | cons d l ih =>
    obtain ⟨hne, hrest⟩ := List.ne_and_not_mem_of_not_mem_cons h
    have hprefix : ¬ (c :: pattern).isPrefixOf (d :: (l ++ r)) = true := by
      simp [hne]
    rw [List.cons_append, replaceChars, if_neg hprefix, ih hrest, List.cons_append]

theorem startsWith_iff {text pattern : String} :
    startsWith text pattern = true ↔ ∃ rest, text = pattern ++ rest := by
  rw [startsWith, List.isPrefixOf_iff_prefix]
  constructor
  · rintro ⟨rest, hrest⟩
    refine ⟨String.ofList rest, String.toList_injective ?_⟩
    rw [String.toList_append, String.toList_ofList, hrest]
  · rintro ⟨rest, rfl⟩
    rw [String.toList_append]
    exact List.prefix_append _ _

theorem endsWith_iff {text pattern : String} :
    endsWith text pattern = true ↔ ∃ front, text = front ++ pattern := by
  rw [endsWith, List.isSuffixOf_iff_suffix]
  constructor
  · rintro ⟨front, hfront⟩
    refine ⟨String.ofList front, String.toList_injective ?_⟩
    rw [String.toList_append, String.toList_ofList, hfront]
  · rintro ⟨front, rfl⟩
    rw [String.toList_append]
    exact List.suffix_append _ _

theorem endsWith_append (front text : String) : endsWith (front ++ text) text = true :=
  endsWith_iff.mpr ⟨front, rfl⟩

def repeated (text : String) (k : ℕ) : String :=
  String.ofList (List.replicate k text.toList).flatten

theorem repeated_succ (text : String) (k : ℕ) :
    repeated text (k + 1) = repeated text k ++ text := by
  apply String.toList_injective
  simp [repeated, List.replicate_succ']

/-- Enough fuel takes off every pattern that comes at the beginning. -/
theorem stripStart_spec {pattern : List Char} (hne : pattern ≠ []) {fuel : ℕ} {l : List Char}
    (hfuel : l.length ≤ fuel) :
    ∃ k, l = (List.replicate k pattern).flatten ++ stripStart pattern fuel l ∧
      ¬ pattern <+: stripStart pattern fuel l := by
  induction fuel generalizing l with
  | zero =>
    have hl : l = [] := List.length_eq_zero_iff.mp (Nat.le_zero.mp hfuel)
    subst hl
    exact ⟨0, by simp [stripStart], by simpa [stripStart] using hne⟩
  | succ fuel ih =>
    by_cases h : pattern <+: l
    · obtain ⟨rest, rfl⟩ := h
      have hpos : 0 < pattern.length := List.length_pos_iff.mpr hne
      have hstrip : stripStart pattern (fuel + 1) (pattern ++ rest) = stripStart pattern fuel rest := by
        simp [stripStart]
      rw [List.length_append] at hfuel
      obtain ⟨k, hk, hlast⟩ := ih (l := rest) (by omega)
      refine ⟨k + 1, ?_, by rwa [hstrip]⟩
      rw [hstrip, List.replicate_succ, List.flatten_cons, List.append_assoc, ← hk]
    · have hstrip : stripStart pattern (fuel + 1) l = l := by
        simp [stripStart, h]
      rw [hstrip]
      exact ⟨0, by simp, h⟩

/-- Two texts behind patterns are the same when neither begins with one more. -/
theorem flatten_append_inj {pattern l l' : List Char} {k k' : ℕ} (h : ¬ pattern <+: l)
    (h' : ¬ pattern <+: l')
    (heq : (List.replicate k pattern).flatten ++ l = (List.replicate k' pattern).flatten ++ l') :
    k = k' ∧ l = l' := by
  induction k generalizing k' with
  | zero =>
    cases k' with
    | zero => simpa using heq
    | succ k' =>
      refine absurd ⟨(List.replicate k' pattern).flatten ++ l', ?_⟩ h
      simpa [List.replicate_succ] using heq.symm
  | succ k ih =>
    cases k' with
    | zero =>
      refine absurd ⟨(List.replicate k pattern).flatten ++ l, ?_⟩ h'
      simpa [List.replicate_succ] using heq
    | succ k' =>
      simp only [List.replicate_succ, List.flatten_cons, List.append_assoc,
        List.append_cancel_left_eq] at heq
      obtain ⟨rfl, rfl⟩ := ih heq
      exact ⟨rfl, rfl⟩

theorem endsWith_eq_false_iff {text pattern : String} :
    endsWith text pattern = false ↔ ¬ pattern.toList.reverse <+: text.toList.reverse := by
  rw [List.reverse_prefix, ← List.isSuffixOf_iff_suffix, ← endsWith, Bool.not_eq_true]

theorem toList_append_repeated_reverse (front text : String) (k : ℕ) :
    (front ++ repeated text k).toList.reverse =
      (List.replicate k text.toList.reverse).flatten ++ front.toList.reverse := by
  simp [repeated, List.reverse_flatten]

theorem trimEndMatches_spec (text : String) {pattern : String} (hne : pattern ≠ "") :
    ∃ k, text = trimEndMatches text pattern ++ repeated pattern k ∧
      endsWith (trimEndMatches text pattern) pattern = false := by
  have hpattern : pattern.toList.reverse ≠ [] := by simpa using hne
  obtain ⟨k, hk, hlast⟩ := stripStart_spec hpattern (l := text.toList.reverse)
    (by simp : text.toList.reverse.length ≤ text.toList.length)
  refine ⟨k, String.toList_injective (List.reverse_injective ?_), ?_⟩
  · rw [toList_append_repeated_reverse, trimEndMatches, String.toList_ofList, List.reverse_reverse,
      ← hk]
  · rw [endsWith_eq_false_iff, trimEndMatches, String.toList_ofList, List.reverse_reverse]
    exact hlast

theorem append_repeated_inj {front front' pattern : String} {k k' : ℕ}
    (h : endsWith front pattern = false) (h' : endsWith front' pattern = false)
    (heq : front ++ repeated pattern k = front' ++ repeated pattern k') :
    k = k' ∧ front = front' := by
  have hchars := congrArg (fun text => text.toList.reverse) heq
  simp only [toList_append_repeated_reverse] at hchars
  obtain ⟨hk, hfront⟩ := flatten_append_inj (endsWith_eq_false_iff.mp h)
    (endsWith_eq_false_iff.mp h') hchars
  exact ⟨hk, String.toList_injective (List.reverse_injective hfront)⟩

/-- `trim_end_matches` takes off all the suffixes and nothing else. -/
theorem trimEndMatches_append_repeated {front pattern : String} (hne : pattern ≠ "")
    (h : endsWith front pattern = false) (k : ℕ) :
    trimEndMatches (front ++ repeated pattern k) pattern = front := by
  obtain ⟨k', heq, hlast⟩ := trimEndMatches_spec (front ++ repeated pattern k) hne
  exact ((append_repeated_inj h hlast heq).2).symm

theorem byteLength_of_ascii {text : String} (h : ∀ c ∈ text.toList, c.utf8Size = 1) :
    byteLength text = text.toList.length := by
  have hmap : text.toList.map Char.utf8Size = text.toList.map fun _ => 1 :=
    List.map_congr_left h
  rw [byteLength, hmap]
  simp

end LumenHorizon.Shared
