import LumenHorizon.Foundation.Percent
import LumenHorizon.Foundation.Text
import LumenHorizon.Foundation.Utf8

/-! # Queries as forms

A query is a list of pairs, joined by ampersands, each with an equals sign between its percent-encoded
parts. A reader of forms takes a plus sign for a space. So a writer that leaves plus signs as they
are is understood except for these.
-/

namespace LumenHorizon.Foundation.FormEncoding
open Percent Utf8

def ampersand : UInt8 := asciiByte '&'

def equalsSign : UInt8 := asciiByte '='

def plusSign : UInt8 := asciiByte '+'

def plusToSpace (b : UInt8) : UInt8 := if b = plusSign then asciiByte ' ' else b

def encodePair (keep : UInt8 → Bool) (pair : String × String) : List UInt8 :=
  encode keep (asBytes pair.1) ++ equalsSign :: encode keep (asBytes pair.2)

def encodePairs (keep : UInt8 → Bool) (pairs : List (String × String)) : List UInt8 :=
  [ampersand].intercalate (pairs.map (encodePair keep))

theorem lt_of_mem_encodePairs {keep : UInt8 → Bool} (hkeep : ∀ b, keep b = true → b.toNat < 128)
    {pairs : List (String × String)} {b : UInt8} (h : b ∈ encodePairs keep pairs) :
    b.toNat < 128 := by
  have hpair (pair : String × String) (hb : b ∈ encodePair keep pair) : b.toNat < 128 := by
    simp only [encodePair, List.mem_append, List.mem_cons] at hb
    rcases hb with hb | rfl | hb
    · exact lt_of_mem_encode hkeep hb
    · decide
    · exact lt_of_mem_encode hkeep hb
  unfold encodePairs at h
  induction pairs with
  | nil => cases h
  | cons pair pairs ih =>
    cases pairs with
    | nil => exact hpair pair (by simpa using h)
    | cons next pairs =>
      rw [List.map_cons, List.map_cons, List.intercalate_cons_cons, List.append_assoc,
        List.mem_append, List.singleton_append, List.mem_cons] at h
      rcases h with h | rfl | h
      · exact hpair pair h
      · decide
      · exact ih h

/-- A reader of bytes as text that makes something of every list of bytes. -/
structure LossyReader where
  read : List UInt8 → String
  read_asBytes : ∀ text, read (asBytes text) = text

variable (lossy : LossyReader)

def decodePart (part : List UInt8) : String := lossy.read (decode (part.map plusToSpace))

def decodePair (pair : List UInt8) : String × String :=
  (decodePart lossy (pair.takeWhile (· ≠ equalsSign)),
    decodePart lossy ((pair.dropWhile (· ≠ equalsSign)).drop 1))

/-- `form_urlencoded::parse`. -/
def decodePairs (query : List UInt8) : List (String × String) :=
  ((query.splitOn ampersand).filter (· ≠ [])).map (decodePair lossy)

def plusAsSpace (text : String) : String :=
  String.ofList (text.toList.map fun c => if c = '+' then ' ' else c)

theorem plusAsSpace_eq_iff {text : String} : plusAsSpace text = text ↔ '+' ∉ text.toList := by
  rw [plusAsSpace, ← String.toList_inj, String.toList_ofList]
  constructor
  · intro h hplus
    obtain ⟨c, -, hc⟩ := List.mem_map.mp (h ▸ hplus)
    split_ifs at hc with hplus
    · cases hc
    · exact hplus hc
  · intro h
    conv_rhs => rw [← List.map_id text.toList]
    apply List.map_congr_left
    intro c hc
    rw [if_neg, id]
    rintro rfl
    exact h hc

theorem asBytes_plusAsSpace (text : String) :
    asBytes (plusAsSpace text) = (asBytes text).map plusToSpace := by
  have hplus : asciiByte ' ' ≠ plusSign := by decide
  rw [asBytes, asBytes, plusAsSpace, String.toList_ofList]
  induction text.toList with
  | nil => rfl
  | cons c l ih =>
    rw [List.map_cons, encodeChars_cons, encodeChars_cons, List.map_append, ih]
    congr 1
    by_cases hc : c = '+'
    · subst hc
      decide
    · rw [if_neg hc]
      conv_lhs => rw [← List.map_id (String.utf8EncodeChar c)]
      apply List.map_congr_left
      intro b hb
      rw [plusToSpace, if_neg, id]
      rintro rfl
      have hmem : asciiByte '+' ∈ encodeChars [c] := by
        rw [encodeChars_cons, encodeChars_nil, List.append_nil]
        exact hb
      rw [asciiByte_mem_encodeChars (by decide), List.mem_singleton] at hmem
      exact hc hmem.symm

/-- What a writer of queries keeps and does not keep. -/
structure QuerySet where
  keep : UInt8 → Bool
  percent : keep percentSign = false
  ampersand : keep ampersand = false
  plus : keep plusSign = true

variable (querySet : QuerySet)

/-- The plus signs are the only bytes that the reader changes. -/
theorem decode_plusToSpace_encode (bytes : List UInt8) :
    decode ((encode querySet.keep bytes).map plusToSpace) = bytes.map plusToSpace := by
  have hdigit : ∀ n < 16, plusToSpace (hexDigit n) = hexDigit n := by decide
  have hpercent : plusToSpace percentSign = percentSign := by decide
  have hspace : asciiByte ' ' ≠ percentSign := by decide
  induction bytes with
  | nil => rfl
  | cons b bytes ih =>
    have hlt : b.toNat < 256 := b.toNat_lt
    rw [encode, List.flatMap_cons, List.map_append, List.map_cons]
    change decode (_ ++ (encode querySet.keep bytes).map plusToSpace) = _
    by_cases hkeep : querySet.keep b = true
    · have hne : plusToSpace b ≠ percentSign := by
        unfold plusToSpace
        split_ifs
        · exact hspace
        · rintro rfl
          rw [querySet.percent] at hkeep
          cases hkeep
      rw [encodeByte, if_pos hkeep, List.map_singleton, List.singleton_append, decode_cons hne, ih]
    · have hplus : plusToSpace b = b := by
        rw [plusToSpace, if_neg]
        rintro rfl
        exact hkeep querySet.plus
      have hunchanged : (encodeByte querySet.keep b).map plusToSpace =
          encodeByte querySet.keep b := by
        rw [encodeByte, if_neg hkeep]
        simp only [List.map_cons, List.map_nil, hpercent, hdigit _ (show b.toNat / 16 < 16 by omega),
          hdigit _ (show b.toNat % 16 < 16 by omega)]
      rw [hunchanged, decode_encodeByte querySet.percent, ih, hplus]

theorem decodePart_encode (text : String) :
    decodePart lossy (encode querySet.keep (asBytes text)) = plusAsSpace text := by
  rw [decodePart, decode_plusToSpace_encode, ← asBytes_plusAsSpace, lossy.read_asBytes]

theorem notMem_encodePair (pair : String × String) :
    ampersand ∉ encodePair querySet.keep pair := by
  have hpart (bytes : List UInt8) : ampersand ∉ encode querySet.keep bytes :=
    notMem_encode querySet.ampersand (by decide) (by decide) bytes
  simp only [encodePair, List.mem_append, List.mem_cons, not_or]
  exact ⟨hpart _, by decide, hpart _⟩

theorem decodePair_encodePair {pair : String × String} (hname : '=' ∉ pair.1.toList) :
    decodePair lossy (encodePair querySet.keep pair) = (plusAsSpace pair.1, plusAsSpace pair.2) := by
  have hequals : equalsSign ∉ encode querySet.keep (asBytes pair.1) := fun hmem => by
    have hdigit : ∀ n < 16, equalsSign ≠ hexDigit n := by decide
    rcases mem_encode hmem with ⟨-, hmem⟩ | hpercent | ⟨n, hn, hhex⟩
    · exact hname ((asciiByte_mem_encodeChars (by decide)).mp hmem)
    · revert hpercent
      decide
    · exact hdigit n hn hhex
  rw [decodePair, encodePair, Text.takeWhile_append_separator hequals,
    Text.dropWhile_append_separator hequals]
  simp only [List.drop_succ_cons, List.drop_zero, decodePart_encode]

/-- A form reader takes a written query for its pairs, except for the plus signs. -/
theorem decodePairs_encodePairs {pairs : List (String × String)}
    (hnames : ∀ pair ∈ pairs, '=' ∉ pair.1.toList) :
    decodePairs lossy (encodePairs querySet.keep pairs) =
      pairs.map fun pair => (plusAsSpace pair.1, plusAsSpace pair.2) := by
  cases hpairs : pairs with
  | nil => rfl
  | cons first rest =>
    rw [← hpairs]
    have hsplit : (encodePairs querySet.keep pairs).splitOn ampersand =
        pairs.map (encodePair querySet.keep) := by
      apply List.splitOn_intercalate
      · intro part hpart
        obtain ⟨pair, -, rfl⟩ := List.mem_map.mp hpart
        exact notMem_encodePair querySet pair
      · simp [hpairs]
    have hfilter : (pairs.map (encodePair querySet.keep)).filter (· ≠ []) =
        pairs.map (encodePair querySet.keep) := by
      rw [List.filter_eq_self]
      intro part hpart
      obtain ⟨pair, -, rfl⟩ := List.mem_map.mp hpart
      simp [encodePair]
    rw [decodePairs, hsplit, hfilter, List.map_map]
    apply List.map_congr_left
    intro pair hpair
    exact decodePair_encodePair lossy querySet (hnames pair hpair)

/-- What a serializer keeps. It writes a space as a plus sign. -/
structure SerializerSet where
  keep : UInt8 → Bool
  percent : keep percentSign = false
  ampersand : keep ampersand = false
  equals : keep equalsSign = false
  plus : keep plusSign = false

def serializeByte (keep : UInt8 → Bool) (b : UInt8) : List UInt8 :=
  if b = asciiByte ' ' then [plusSign] else encodeByte keep b

def serialize (keep : UInt8 → Bool) (bytes : List UInt8) : List UInt8 :=
  bytes.flatMap (serializeByte keep)

def serializePair (keep : UInt8 → Bool) (pair : String × String) : List UInt8 :=
  serialize keep (asBytes pair.1) ++ equalsSign :: serialize keep (asBytes pair.2)

/-- `form_urlencoded::Serializer::append_pair`, for one pair after the other. -/
def serializePairs (keep : UInt8 → Bool) (pairs : List (String × String)) : List UInt8 :=
  [ampersand].intercalate (pairs.map (serializePair keep))

variable (serializerSet : SerializerSet)

theorem decode_serialize (bytes : List UInt8) :
    decode ((serialize serializerSet.keep bytes).map plusToSpace) = bytes := by
  have hdigit : ∀ n < 16, plusToSpace (hexDigit n) = hexDigit n := by decide
  have hpercent : plusToSpace percentSign = percentSign := by decide
  induction bytes with
  | nil => rfl
  | cons b bytes ih =>
    have hlt : b.toNat < 256 := b.toNat_lt
    rw [serialize, List.flatMap_cons, List.map_append]
    change decode (_ ++ (serialize serializerSet.keep bytes).map plusToSpace) = _
    by_cases hspace : b = asciiByte ' '
    · rw [serializeByte, if_pos hspace, List.map_singleton, List.singleton_append,
        decode_cons (by decide), ih, hspace]
      rfl
    · by_cases hkeep : serializerSet.keep b = true
      · have hplus : b ≠ plusSign := fun h => by simp [h, serializerSet.plus] at hkeep
        have hne : b ≠ percentSign := fun h => by simp [h, serializerSet.percent] at hkeep
        rw [serializeByte, if_neg hspace, encodeByte, if_pos hkeep, List.map_singleton,
          List.singleton_append, plusToSpace, if_neg hplus, decode_cons hne, ih]
      · have hunchanged : (encodeByte serializerSet.keep b).map plusToSpace =
            encodeByte serializerSet.keep b := by
          rw [encodeByte, if_neg hkeep]
          simp only [List.map_cons, List.map_nil, hpercent,
            hdigit _ (show b.toNat / 16 < 16 by omega), hdigit _ (show b.toNat % 16 < 16 by omega)]
        rw [serializeByte, if_neg hspace, hunchanged, decode_encodeByte serializerSet.percent, ih]

theorem notMem_serialize {b : UInt8} (hkeep : serializerSet.keep b = false)
    (hpercent : b ≠ percentSign) (hplus : b ≠ plusSign) (hdigit : ∀ n < 16, b ≠ hexDigit n)
    (bytes : List UInt8) : b ∉ serialize serializerSet.keep bytes := by
  intro hmem
  obtain ⟨c, -, hc⟩ := List.mem_flatMap.mp hmem
  unfold serializeByte at hc
  split_ifs at hc
  · exact hplus (List.mem_singleton.mp hc)
  · exact notMem_encode hkeep hpercent hdigit [c] (by simpa [encode] using hc)

theorem decodePair_serializePair (pair : String × String) :
    decodePair lossy (serializePair serializerSet.keep pair) = pair := by
  have hequals : equalsSign ∉ serialize serializerSet.keep (asBytes pair.1) :=
    notMem_serialize serializerSet serializerSet.equals (by decide) (by decide) (by decide) _
  rw [decodePair, serializePair, Text.takeWhile_append_separator hequals,
    Text.dropWhile_append_separator hequals]
  simp only [List.drop_succ_cons, List.drop_zero, decodePart, decode_serialize, lossy.read_asBytes]

theorem decodePairs_serializePairs (pairs : List (String × String)) :
    decodePairs lossy (serializePairs serializerSet.keep pairs) = pairs := by
  cases hpairs : pairs with
  | nil => rfl
  | cons first rest =>
    rw [← hpairs]
    have hampersand (bytes : List UInt8) : ampersand ∉ serialize serializerSet.keep bytes :=
      notMem_serialize serializerSet serializerSet.ampersand (by decide) (by decide) (by decide) _
    have hsplit : (serializePairs serializerSet.keep pairs).splitOn ampersand =
        pairs.map (serializePair serializerSet.keep) := by
      apply List.splitOn_intercalate
      · intro part hpart
        obtain ⟨pair, -, rfl⟩ := List.mem_map.mp hpart
        simp only [serializePair, List.mem_append, List.mem_cons, not_or]
        exact ⟨hampersand _, by decide, hampersand _⟩
      · simp [hpairs]
    have hfilter : (pairs.map (serializePair serializerSet.keep)).filter (· ≠ []) =
        pairs.map (serializePair serializerSet.keep) := by
      rw [List.filter_eq_self]
      intro part hpart
      obtain ⟨pair, -, rfl⟩ := List.mem_map.mp hpart
      simp [serializePair]
    rw [decodePairs, hsplit, hfilter, List.map_map]
    conv_rhs => rw [← List.map_id pairs]
    exact List.map_congr_left fun pair _ => decodePair_serializePair lossy serializerSet pair

end LumenHorizon.Foundation.FormEncoding
