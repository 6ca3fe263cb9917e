import LumenHorizon.Foundation.Text
import Mathlib.Tactic

/-! # JSON texts

A value is written in a layout, which decides on the blanks between its parts. Whatever the layout,
the reader takes the text for the value.
-/

namespace LumenHorizon.Foundation.Json

/-! ## Numerals -/

def isExponent : List Char → Bool
  | [] => true
  | c :: l =>
    let digits := if l.head? = some '+' ∨ l.head? = some '-' then l.tail else l
    (c = 'e' || c = 'E') && digits ≠ [] && digits.all Char.isDigit

def isFraction : List Char → Bool
  | '.' :: l => l.takeWhile Char.isDigit ≠ [] && isExponent (l.dropWhile Char.isDigit)
  | l => isExponent l

/-- A sign, the digits of a whole number without zeros in front, a fraction and an exponent. -/
def isNumeral (l : List Char) : Bool :=
  let unsigned := if l.head? = some '-' then l.tail else l
  let whole := unsigned.takeWhile Char.isDigit
  whole ≠ [] && (whole = ['0'] || whole.head? ≠ some '0') &&
    isFraction (unsigned.dropWhile Char.isDigit)

structure Numeral where
  text : List Char
  valid : isNumeral text = true
deriving DecidableEq, Repr

def isNumeralChar (c : Char) : Bool := c.isDigit || "+-.eE".toList.contains c

theorem isNumeralChar_of_isDigit {c : Char} (h : c.isDigit = true) : isNumeralChar c = true := by
  simp [isNumeralChar, h]

theorem all_isNumeralChar_of_isDigit {l : List Char} (h : l.all Char.isDigit = true) :
    l.all isNumeralChar = true := by
  rw [List.all_eq_true] at h ⊢
  intro c hc
  exact isNumeralChar_of_isDigit (h c hc)

theorem all_isNumeralChar_takeWhile (l : List Char) :
    (l.takeWhile Char.isDigit).all isNumeralChar = true :=
  all_isNumeralChar_of_isDigit List.all_takeWhile

theorem all_of_isExponent {l : List Char} (h : isExponent l = true) :
    l.all isNumeralChar = true := by
  cases l with
  | nil => rfl
  | cons c l =>
    have he : isNumeralChar 'e' = true := by decide
    have hE : isNumeralChar 'E' = true := by decide
    have hplus : isNumeralChar '+' = true := by decide
    have hminus : isNumeralChar '-' = true := by decide
    simp only [isExponent, Bool.and_eq_true, Bool.or_eq_true, decide_eq_true_eq] at h
    obtain ⟨⟨hc, -⟩, hdigits⟩ := h
    have hc' : isNumeralChar c = true := by
      rcases hc with rfl | rfl
      · exact he
      · exact hE
    rw [List.all_cons, hc', Bool.true_and]
    cases l with
    | nil => rfl
    | cons d l =>
      split_ifs at hdigits with hsign
      · have hd : isNumeralChar d = true := by
          simp only [List.head?_cons, Option.some.injEq] at hsign
          rcases hsign with rfl | rfl
          · exact hplus
          · exact hminus
        rw [List.all_cons, hd, Bool.true_and]
        exact all_isNumeralChar_of_isDigit hdigits
      · exact all_isNumeralChar_of_isDigit hdigits

theorem all_of_isFraction {l : List Char} (h : isFraction l = true) :
    l.all isNumeralChar = true := by
  unfold isFraction at h
  split at h
  · next l =>
    have hpoint : isNumeralChar '.' = true := by decide
    rw [Bool.and_eq_true] at h
    rw [List.all_cons, hpoint, Bool.true_and, ← List.takeWhile_append_dropWhile (p := Char.isDigit)
      (l := l), List.all_append, all_isNumeralChar_takeWhile, all_of_isExponent h.2]
    rfl
  · exact all_of_isExponent h

theorem Numeral.all_isNumeralChar (n : Numeral) : n.text.all isNumeralChar = true := by
  have h := n.valid
  have hminus : isNumeralChar '-' = true := by decide
  have hunsigned : ∀ l : List Char, isFraction (l.dropWhile Char.isDigit) = true →
      l.all isNumeralChar = true := by
    intro l hl
    rw [← List.takeWhile_append_dropWhile (p := Char.isDigit) (l := l), List.all_append,
      all_isNumeralChar_takeWhile, all_of_isFraction hl]
    rfl
  simp only [isNumeral, Bool.and_eq_true] at h
  have hrest := hunsigned _ h.2
  split_ifs at hrest with hsign
  · cases htext : n.text with
    | nil => rfl
    | cons c l =>
      rw [htext] at hsign hrest
      simp only [List.head?_cons, Option.some.injEq] at hsign
      subst hsign
      rw [List.all_cons, hminus, Bool.true_and]
      exact hrest
  · exact hrest

theorem Numeral.text_ne_nil (n : Numeral) : n.text ≠ [] := by
  intro htext
  have h := n.valid
  rw [htext] at h
  exact absurd h (by decide)

theorem head?_toString_ne_zero {n : ℕ} (hn : (toString n).toList ≠ ['0']) :
    (toString n).toList.head? ≠ some '0' := by
  intro hhead
  obtain ⟨rest, hrest⟩ := List.head?_eq_some_iff.mp hhead
  have hne : rest ≠ [] := by
    rintro rfl
    exact hn hrest
  have hdigits : ∀ c ∈ rest, c.isDigit = true := fun c hc =>
    Text.isDigit_of_mem_toString (hrest ▸ List.mem_cons_of_mem _ hc)
  have hvalue : Text.value rest = n := by
    have h := Text.value_toString n
    rw [hrest] at h
    simpa [Text.value, Nat.ofDigitChars_cons] using h
  obtain ⟨k, hk⟩ := Text.exists_replicate_append hne hdigits
  have hlength := congrArg List.length hrest
  have hlength' := congrArg List.length hk
  rw [hvalue] at hlength'
  simp only [List.length_cons, List.length_append, List.length_replicate] at hlength hlength'
  omega

theorem isNumeral_toString (n : ℕ) :
    isNumeral (toString n).toList = true ∧ isNumeral ('-' :: (toString n).toList) = true := by
  have hdigits : ∀ c ∈ (toString n).toList, c.isDigit = true := fun _ => Text.isDigit_of_mem_toString
  have hsign : (toString n).toList.head? ≠ some '-' := by
    intro h
    have hminus := hdigits '-' (List.mem_of_mem_head? h)
    exact absurd hminus (by decide)
  have htake : (toString n).toList.takeWhile Char.isDigit = (toString n).toList :=
    List.takeWhile_eq_self_iff.mpr hdigits
  have hdrop : (toString n).toList.dropWhile Char.isDigit = [] :=
    List.dropWhile_eq_nil_iff.mpr hdigits
  have hne : (toString n).toList ≠ [] := by simp [Nat.toDigits_ne_nil]
  have hzero : (toString n).toList = ['0'] ∨ (toString n).toList.head? ≠ some '0' := by
    by_cases h : (toString n).toList = ['0']
    · exact .inl h
    · exact .inr (head?_toString_ne_zero h)
  simp only [isNumeral, if_neg hsign, List.head?_cons, if_true, List.tail_cons, htake, hdrop,
    Bool.and_eq_true, Bool.or_eq_true, decide_eq_true_eq]
  exact ⟨⟨⟨hne, hzero⟩, rfl⟩, ⟨⟨hne, hzero⟩, rfl⟩⟩

def Numeral.ofInt (i : ℤ) : Numeral :=
  if i < 0 then ⟨'-' :: (toString i.natAbs).toList, (isNumeral_toString i.natAbs).2⟩
  else ⟨(toString i.natAbs).toList, (isNumeral_toString i.natAbs).1⟩

/-- The number of a numeral without a fraction and an exponent; `-0` is none. -/
def Numeral.toInt? (n : Numeral) : Option ℤ :=
  let digits := if n.text.head? = some '-' then n.text.tail else n.text
  if digits.all Char.isDigit then
    if n.text.head? = some '-' then
      if digits = ['0'] then none else some (-(Text.value digits : ℤ))
    else some (Text.value digits : ℤ)
  else none

theorem Numeral.toInt?_ofInt (i : ℤ) : (ofInt i).toInt? = some i := by
  have hdigits : (toString i.natAbs).toList.all Char.isDigit = true := by
    rw [List.all_eq_true]
    exact fun _ => Text.isDigit_of_mem_toString
  by_cases hneg : i < 0
  · have hzero : (toString i.natAbs).toList ≠ ['0'] := by
      intro h
      have hvalue := Text.value_toString i.natAbs
      rw [h] at hvalue
      have hnat : (0 : ℕ) = i.natAbs := hvalue
      omega
    simp only [toInt?, ofInt, if_pos hneg, List.head?_cons, if_true, List.tail_cons, hdigits,
      if_neg hzero, Text.value_toString, Option.some.injEq]
    omega
  · have hsign : (toString i.natAbs).toList.head? ≠ some '-' := by
      intro h
      have hminus := List.all_eq_true.mp hdigits '-' (List.mem_of_mem_head? h)
      exact absurd hminus (by decide)
    simp only [toInt?, ofInt, if_neg hneg, if_neg hsign, hdigits, if_true, Text.value_toString,
      Option.some.injEq]
    omega

/-! ## Texts -/

def escapeLetter : Char → Option Char
  | '"' => some '"'
  | '\\' => some '\\'
  | '\x08' => some 'b'
  | '\t' => some 't'
  | '\n' => some 'n'
  | '\x0c' => some 'f'
  | '\r' => some 'r'
  | _ => none

def unescapeLetter : Char → Option Char
  | '"' => some '"'
  | '\\' => some '\\'
  | '/' => some '/'
  | 'b' => some '\x08'
  | 't' => some '\t'
  | 'n' => some '\n'
  | 'f' => some '\x0c'
  | 'r' => some '\r'
  | _ => none

def hexDigit (n : ℕ) : Char := (("0123456789abcdef".toList)[n]?).getD '0'

def hexValue (c : Char) : Option ℕ :=
  if c.isDigit then some (c.toNat - 48)
  else if 'a' ≤ c ∧ c ≤ 'f' then some (c.toNat - 87)
  else if 'A' ≤ c ∧ c ≤ 'F' then some (c.toNat - 55)
  else none

theorem hexValue_hexDigit : ∀ n < 16, hexValue (hexDigit n) = some n := by decide

def writeChar (c : Char) : List Char :=
  match escapeLetter c with
  | some letter => ['\\', letter]
  | none =>
    if c.toNat < 32 then ['\\', 'u', '0', '0', hexDigit (c.toNat / 16), hexDigit (c.toNat % 16)]
    else [c]

def writeText (text : String) : List Char := '"' :: text.toList.flatMap writeChar ++ ['"']

/-- What stands in a text: a character, or the number of a UTF-16 unit. -/
inductive TextUnit where
  | char (c : Char)
  | code (n : ℕ)
deriving DecidableEq, Repr

def hexQuad (a b c d : Char) : Option ℕ := do
  let a ← hexValue a
  let b ← hexValue b
  let c ← hexValue c
  let d ← hexValue d
  some (((a * 16 + b) * 16 + c) * 16 + d)

def readUnits : List Char → Option (List TextUnit × List Char)
  | [] => none
  | '"' :: l => some ([], l)
  | '\\' :: 'u' :: a :: b :: c :: d :: l => do
    let n ← hexQuad a b c d
    let (units, rest) ← readUnits l
    some (.code n :: units, rest)
  | '\\' :: letter :: l => do
    let c ← unescapeLetter letter
    let (units, rest) ← readUnits l
    some (.char c :: units, rest)
  | c :: l =>
    if c.toNat < 32 then none
    else do
      let (units, rest) ← readUnits l
      some (.char c :: units, rest)

def isHighSurrogate (n : ℕ) : Bool := 0xd800 ≤ n && n < 0xdc00

def isLowSurrogate (n : ℕ) : Bool := 0xdc00 ≤ n && n < 0xe000

/-- A surrogate stands for a character with its other half only. -/
def joinUnits : List TextUnit → Option (List Char)
  | [] => some []
  | .char c :: units => (joinUnits units).map (c :: ·)
  | .code n :: .code m :: units =>
    if isHighSurrogate n then
      if isLowSurrogate m then
        (joinUnits units).map (Char.ofNat (0x10000 + (n - 0xd800) * 0x400 + (m - 0xdc00)) :: ·)
      else none
    else if isLowSurrogate n then none
    else (joinUnits (.code m :: units)).map (Char.ofNat n :: ·)
  | .code n :: units =>
    if isHighSurrogate n || isLowSurrogate n then none
    else (joinUnits units).map (Char.ofNat n :: ·)

/-- Takes a text up to the quote that ends it. -/
abbrev TextReader := List Char → Option (String × List Char)

def readText : TextReader := fun l => do
  let (units, rest) ← readUnits l
  let chars ← joinUnits units
  some (String.ofList chars, rest)

/-- A text that nobody looks into need not stand for characters. -/
def skipText : TextReader := fun l => do
  let (units, rest) ← readUnits l
  some (String.ofList ((joinUnits units).getD []), rest)

/-- What a written character is read as. -/
def unitOf (c : Char) : TextUnit :=
  if escapeLetter c = none ∧ c.toNat < 32 then .code c.toNat else .char c

theorem escapeLetter_eq_some {c letter : Char} (h : escapeLetter c = some letter) :
    letter ≠ 'u' ∧ unescapeLetter letter = some c := by
  unfold escapeLetter at h
  split at h <;> first
    | (cases h; decide)
    | cases h

theorem readUnits_letter {letter c : Char} (hu : letter ≠ 'u') (hc : unescapeLetter letter = some c)
    (l : List Char) : readUnits ('\\' :: letter :: l) = (readUnits l).map fun read =>
      (.char c :: read.1, read.2) := by
  rw [readUnits, hc]
  · cases readUnits l <;> rfl
  · rintro a b c d l' rfl
    exact absurd rfl hu

theorem readUnits_plain {c : Char} (hname : escapeLetter c = none) (hc : ¬ c.toNat < 32)
    (l : List Char) : readUnits (c :: l) = (readUnits l).map fun read =>
      (.char c :: read.1, read.2) := by
  have hquote : c ≠ '"' := by
    rintro rfl
    cases hname
  have hbackslash : c ≠ '\\' := by
    rintro rfl
    cases hname
  rw [readUnits, if_neg hc]
  · cases readUnits l <;> rfl
  all_goals simp_all

theorem hexQuad_control {n : ℕ} (hn : n < 32) :
    hexQuad '0' '0' (hexDigit (n / 16)) (hexDigit (n % 16)) = some n := by
  have hzero : hexValue '0' = some 0 := by decide
  rw [hexQuad, hzero, hexValue_hexDigit _ (by omega), hexValue_hexDigit _ (by omega)]
  exact congrArg some (by omega)

theorem readUnits_writeChar (c : Char) (l : List Char) :
    readUnits (writeChar c ++ l) = (readUnits l).map fun read => (unitOf c :: read.1, read.2) := by
  cases hname : escapeLetter c with
  | some letter =>
    obtain ⟨hu, hletter⟩ := escapeLetter_eq_some hname
    have hwrite : writeChar c = ['\\', letter] := by rw [writeChar, hname]
    have hunit : unitOf c = .char c := if_neg (by simp [hname])
    rw [hwrite, hunit]
    exact readUnits_letter hu hletter l
  | none =>
    by_cases hc : c.toNat < 32
    · have hwrite : writeChar c =
          ['\\', 'u', '0', '0', hexDigit (c.toNat / 16), hexDigit (c.toNat % 16)] := by
        simp only [writeChar, hname, if_pos hc]
      have hunit : unitOf c = .code c.toNat := if_pos ⟨hname, hc⟩
      rw [hwrite, hunit]
      simp only [List.cons_append, List.nil_append, readUnits, hexQuad_control hc]
      cases readUnits l <;> rfl
    · have hwrite : writeChar c = [c] := by simp only [writeChar, hname, if_neg hc]
      have hunit : unitOf c = .char c := if_neg (by simp [hc])
      rw [hwrite, hunit]
      exact readUnits_plain hname hc l

theorem joinUnits_code {n : ℕ} (hhigh : isHighSurrogate n = false) (hlow : isLowSurrogate n = false)
    (units : List TextUnit) :
    joinUnits (.code n :: units) = (joinUnits units).map (Char.ofNat n :: ·) := by
  cases units with
  | nil => simp [joinUnits, hhigh, hlow]
  | cons unit units => cases unit <;> simp [joinUnits, hhigh, hlow]

theorem joinUnits_unitOf (c : Char) (units : List TextUnit) :
    joinUnits (unitOf c :: units) = (joinUnits units).map (c :: ·) := by
  unfold unitOf
  split_ifs with h
  · have hhigh : isHighSurrogate c.toNat = false := by
      simp [isHighSurrogate]
      omega
    have hlow : isLowSurrogate c.toNat = false := by
      simp [isLowSurrogate]
      omega
    rw [joinUnits_code hhigh hlow, Char.ofNat_toNat]
  · rw [joinUnits]

theorem readUnits_flatMap (chars l : List Char) :
    readUnits (chars.flatMap writeChar ++ '"' :: l) = some (chars.map unitOf, l) := by
  induction chars with
  | nil => rfl
  | cons c chars ih =>
    rw [List.flatMap_cons, List.append_assoc, readUnits_writeChar, ih]
    rfl

theorem joinUnits_map (chars : List Char) : joinUnits (chars.map unitOf) = some chars := by
  induction chars with
  | nil => rfl
  | cons c chars ih =>
    rw [List.map_cons, joinUnits_unitOf, ih]
    rfl

/-- The reader takes back every text that is written. -/
def TextReader.Inverts (reader : TextReader) : Prop :=
  ∀ (text : String) (l : List Char),
    ∃ quoted, writeText text ++ l = '"' :: quoted ∧ reader quoted = some (text, l)

theorem readText_inverts : TextReader.Inverts readText := by
  intro text l
  refine ⟨text.toList.flatMap writeChar ++ '"' :: l, by simp [writeText], ?_⟩
  simp only [readText, readUnits_flatMap, joinUnits_map, Option.bind_eq_bind, Option.bind_some,
    String.ofList_toList]

theorem skipText_inverts : TextReader.Inverts skipText := by
  intro text l
  refine ⟨text.toList.flatMap writeChar ++ '"' :: l, by simp [writeText], ?_⟩
  simp only [skipText, readUnits_flatMap, joinUnits_map, Option.bind_eq_bind, Option.bind_some,
    Option.getD_some, String.ofList_toList]

/-! ## Values -/

inductive JsonValue where
  | null
  | bool (b : Bool)
  | number (n : Numeral)
  | string (text : String)
  | array (items : List JsonValue)
  | object (members : List (String × JsonValue))

def isGap (c : Char) : Bool := c = ' ' || c = '\n' || c = '\t' || c = '\r'

/-- The blanks before an item at a depth, before a closing bracket, and behind a colon. -/
structure Layout where
  item : ℕ → List Char
  close : ℕ → List Char
  colon : List Char
  item_gap : ∀ depth, (item depth).all isGap = true
  close_gap : ∀ depth, (close depth).all isGap = true
  colon_gap : colon.all isGap = true

def compact : Layout where
  item _ := []
  close _ := []
  colon := []
  item_gap _ := rfl
  close_gap _ := rfl
  colon_gap := rfl

/-! ## Writing -/

section Write

variable (layout : Layout)

mutual

def write (depth : ℕ) : JsonValue → List Char
  | .null => ['n', 'u', 'l', 'l']
  | .bool true => ['t', 'r', 'u', 'e']
  | .bool false => ['f', 'a', 'l', 's', 'e']
  | .number n => n.text
  | .string text => writeText text
  | .array [] => ['[', ']']
  | .array (item :: items) =>
    '[' :: layout.item depth ++ write (depth + 1) item ++ writeItems depth items
  | .object [] => ['{', '}']
  | .object ((key, value) :: members) =>
    '{' :: layout.item depth ++ writeText key ++ ':' :: layout.colon ++ write (depth + 1) value ++
      writeMembers depth members

/-- What follows an item up to the closing bracket. -/
def writeItems (depth : ℕ) : List JsonValue → List Char
  | [] => layout.close depth ++ [']']
  | item :: items => ',' :: layout.item depth ++ write (depth + 1) item ++ writeItems depth items

def writeMembers (depth : ℕ) : List (String × JsonValue) → List Char
  | [] => layout.close depth ++ ['}']
  | (key, value) :: members =>
    ',' :: layout.item depth ++ writeText key ++ ':' :: layout.colon ++ write (depth + 1) value ++
      writeMembers depth members

end

end Write

def writeJson (layout : Layout) (value : JsonValue) : String := String.ofList (write layout 0 value)

/-! ## Reading -/

def skipGap (l : List Char) : List Char := l.dropWhile isGap

def readNumeral (l : List Char) : Option (JsonValue × List Char) :=
  if h : isNumeral (l.takeWhile isNumeralChar) = true then
    some (.number ⟨l.takeWhile isNumeralChar, h⟩, l.dropWhile isNumeralChar)
  else none

def readKey (readString : TextReader) (l : List Char) : Option (String × List Char) :=
  match skipGap l with
  | '"' :: l => do
    let (key, l) ← readString l
    match skipGap l with
    | ':' :: l => some (key, l)
    | _ => none
  | _ => none

mutual

/-- `readString` takes the texts of a value and `readIn` those of a member of an object; the number
bounds how deep and how far is read. -/
def readValue (readString : TextReader) (readIn : String → TextReader) :
    ℕ → List Char → Option (JsonValue × List Char)
  | 0, _ => none
  | fuel + 1, l =>
    match skipGap l with
    | 'n' :: 'u' :: 'l' :: 'l' :: l => some (.null, l)
    | 't' :: 'r' :: 'u' :: 'e' :: l => some (.bool true, l)
    | 'f' :: 'a' :: 'l' :: 's' :: 'e' :: l => some (.bool false, l)
    | '"' :: l => do
      let (text, l) ← readString l
      some (.string text, l)
    | '[' :: l =>
      if (skipGap l).head? = some ']' then some (.array [], (skipGap l).tail)
      else do
        let (item, l) ← readValue readString (fun _ => readString) fuel l
        let (items, l) ← readItems readString fuel l
        some (.array (item :: items), l)
    | '{' :: l =>
      if (skipGap l).head? = some '}' then some (.object [], (skipGap l).tail)
      else do
        let (key, l) ← readKey readString l
        let (value, l) ← readValue (readIn key) (fun _ => readIn key) fuel l
        let (members, l) ← readMembers readString readIn fuel l
        some (.object ((key, value) :: members), l)
    | l => readNumeral l

def readItems (readString : TextReader) : ℕ → List Char → Option (List JsonValue × List Char)
  | 0, _ => none
  | fuel + 1, l =>
    match skipGap l with
    | ']' :: l => some ([], l)
    | ',' :: l => do
      let (item, l) ← readValue readString (fun _ => readString) fuel l
      let (items, l) ← readItems readString fuel l
      some (item :: items, l)
    | _ => none

def readMembers (readString : TextReader) (readIn : String → TextReader) :
    ℕ → List Char → Option (List (String × JsonValue) × List Char)
  | 0, _ => none
  | fuel + 1, l =>
    match skipGap l with
    | '}' :: l => some ([], l)
    | ',' :: l => do
      let (key, l) ← readKey readString l
      let (value, l) ← readValue (readIn key) (fun _ => readIn key) fuel l
      let (members, l) ← readMembers readString readIn fuel l
      some ((key, value) :: members, l)
    | _ => none

end

/-- A text that is one value with blanks around it. -/
def readWhole (readIn : String → TextReader) (text : String) : Option JsonValue :=
  match readValue readText readIn (text.toList.length + 1) text.toList with
  | some (value, l) => if skipGap l = [] then some value else none
  | none => none

def readJson (text : String) : Option JsonValue := readWhole (fun _ => readText) text

/-- A record is read for the members that are known; the values of the others are skipped. -/
def readRecord (known : String → Bool) (text : String) : Option JsonValue :=
  readWhole (fun key => if known key then readText else skipText) text

example : (readRecord (· = "a") "\x7b\"b\":\"\\ud800\"\x7d").isSome ∧
    (readJson "\x7b\"b\":\"\\ud800\"\x7d").isNone := by
  decide +kernel

/-! ## What is read of what was written -/

theorem skipGap_append {gap : List Char} (hgap : gap.all isGap = true) (l : List Char) :
    skipGap (gap ++ l) = skipGap l := by
  rw [skipGap, List.dropWhile_append_of_pos (List.all_eq_true.mp hgap), skipGap]

theorem skipGap_cons {c : Char} (hc : isGap c = false) (l : List Char) :
    skipGap (c :: l) = c :: l := by
  rw [skipGap, List.dropWhile_cons, hc]
  rfl

/-- Nothing that could belong to a numeral in front of it comes first. -/
def Stops (l : List Char) : Prop := ∀ c ∈ l.head?, isNumeralChar c = false

theorem stops_cons {c : Char} (hc : isNumeralChar c = false) (l : List Char) : Stops (c :: l) := by
  intro d hd
  rw [List.head?_cons, Option.mem_some_iff] at hd
  rw [← hd, hc]

theorem stops_gap {gap : List Char} (hgap : gap.all isGap = true) {l : List Char} (hl : Stops l) :
    Stops (gap ++ l) := by
  cases gap with
  | nil => exact hl
  | cons c gap =>
    have hc : isGap c = true := by simpa using (List.all_eq_true.mp hgap) c List.mem_cons_self
    refine stops_cons ?_ _
    simp only [isGap, Bool.or_eq_true, decide_eq_true_eq] at hc
    rcases hc with ((rfl | rfl) | rfl) | rfl <;> decide

section Layouts

variable {layout : Layout} {readString : TextReader} {readIn : String → TextReader}

theorem stops_writeItems (depth : ℕ) (items : List JsonValue) (l : List Char) :
    Stops (writeItems layout depth items ++ l) := by
  cases items with
  | nil =>
    rw [writeItems, List.append_assoc]
    exact stops_gap (layout.close_gap depth) (stops_cons (by decide) _)
  | cons item items => exact stops_cons (by decide) _

theorem stops_writeMembers (depth : ℕ) (members : List (String × JsonValue)) (l : List Char) :
    Stops (writeMembers layout depth members ++ l) := by
  cases members with
  | nil =>
    rw [writeMembers, List.append_assoc]
    exact stops_gap (layout.close_gap depth) (stops_cons (by decide) _)
  | cons member members => exact stops_cons (by decide) _

theorem write_eq_cons (layout : Layout) (depth : ℕ) (value : JsonValue) :
    ∃ c l, write layout depth value = c :: l ∧ isGap c = false ∧ c ≠ ']' ∧ c ≠ '}' := by
  cases value with
  | null => exact ⟨_, _, by rw [write], by decide⟩
  | bool b => cases b <;> exact ⟨_, _, by rw [write], by decide⟩
  | number n =>
    obtain ⟨c, l, htext⟩ := List.exists_cons_of_ne_nil n.text_ne_nil
    have hc : isNumeralChar c = true := by
      have h := n.all_isNumeralChar
      rw [htext, List.all_cons, Bool.and_eq_true] at h
      exact h.1
    refine ⟨c, l, by rw [write, htext], ?_, ?_, ?_⟩
    · by_contra hgap
      simp only [isGap, Bool.not_eq_false, Bool.or_eq_true, decide_eq_true_eq] at hgap
      rcases hgap with ((rfl | rfl) | rfl) | rfl <;> exact absurd hc (by decide)
    · rintro rfl
      exact absurd hc (by decide)
    · rintro rfl
      exact absurd hc (by decide)
  | string text => exact ⟨_, _, by rw [write, writeText]; rfl, by decide⟩
  | array items =>
    cases items with
    | nil => exact ⟨_, _, by rw [write], by decide⟩
    | cons item items => exact ⟨'[', _, by rw [write, List.append_assoc, List.cons_append], by decide⟩
  | object members =>
    cases members with
    | nil => exact ⟨_, _, by rw [write], by decide⟩
    | cons member members => exact ⟨'{', _, by rw [write]; simp only [List.append_assoc, List.cons_append]; rfl, by decide⟩

theorem skipGap_write (depth depth' : ℕ) (value : JsonValue) (l : List Char) :
    skipGap (layout.item depth ++ (write layout depth' value ++ l)) =
      write layout depth' value ++ l := by
  obtain ⟨c, l', hwrite, hgap, -⟩ := write_eq_cons layout depth' value
  rw [skipGap_append (layout.item_gap depth), hwrite, List.cons_append, skipGap_cons hgap]

theorem readValue_gap {gap : List Char} (hgap : gap.all isGap = true) (readString : TextReader)
    (readIn : String → TextReader) (fuel : ℕ) (l : List Char) :
    readValue readString readIn fuel (gap ++ l) = readValue readString readIn fuel l := by
  cases fuel with
  | zero => rw [readValue, readValue]
  | succ fuel => rw [readValue, readValue, skipGap_append hgap]

theorem readKey_writeText (hstring : readString.Inverts) (depth : ℕ) (key : String)
    (l : List Char) :
    readKey readString (layout.item depth ++ (writeText key ++ ':' :: l)) = some (key, l) := by
  obtain ⟨quoted, hquoted, hread⟩ := hstring key (':' :: l)
  have hquote : isGap '"' = false := by decide
  have hcolon : isGap ':' = false := by decide
  rw [readKey, skipGap_append (layout.item_gap depth), hquoted, skipGap_cons hquote]
  simp only [hread]
  change (match skipGap (':' :: l) with
    | ':' :: l => some (key, l)
    | _ => none) = _
  rw [skipGap_cons hcolon]
  rfl

theorem readNumeral_text (n : Numeral) {l : List Char} (hl : Stops l) :
    readNumeral (n.text ++ l) = some (.number n, l) := by
  have hall := List.all_eq_true.mp n.all_isNumeralChar
  have htake : (n.text ++ l).takeWhile isNumeralChar = n.text := by
    rw [List.takeWhile_append_of_pos hall]
    cases l with
    | nil => simp
    | cons c l => simp [hl c (by simp)]
  have hdrop : (n.text ++ l).dropWhile isNumeralChar = l := by
    rw [List.dropWhile_append_of_pos hall]
    cases l with
    | nil => rfl
    | cons c l => simp [hl c (by simp)]
  rw [readNumeral, dif_pos (by rw [htake]; exact n.valid)]
  simp only [htake, hdrop]

theorem length_write_pos (depth : ℕ) (value : JsonValue) :
    0 < (write layout depth value).length := by
  obtain ⟨c, l, hwrite, -⟩ := write_eq_cons layout depth value
  rw [hwrite]
  exact Nat.succ_pos _

variable {depth fuel : ℕ} {l : List Char}

theorem readValue_array {item : JsonValue} {items : List JsonValue}
    (hitem : readValue readString (fun _ => readString) fuel (write layout (depth + 1) item ++
      (writeItems layout depth items ++ l)) = some (item, writeItems layout depth items ++ l))
    (hitems : readItems readString fuel (writeItems layout depth items ++ l) = some (items, l)) :
    readValue readString readIn (fuel + 1) (write layout depth (.array (item :: items)) ++ l) =
      some (.array (item :: items), l) := by
  obtain ⟨c, rest, hwrite, hgap, hc, -⟩ := write_eq_cons layout (depth + 1) item
  have hopen : isGap '[' = false := by decide
  have hhead : (skipGap (layout.item depth ++ (write layout (depth + 1) item ++
      (writeItems layout depth items ++ l)))).head? ≠ some ']' := by
    rw [skipGap_write, hwrite]
    simpa using hc
  rw [write]
  simp only [List.cons_append, List.append_assoc]
  rw [readValue, skipGap_cons hopen]
  simp only [if_neg hhead, readValue_gap (layout.item_gap depth), hitem, hitems,
    Option.bind_eq_bind, Option.bind_some]

theorem readItems_cons {item : JsonValue} {items : List JsonValue}
    (hitem : readValue readString (fun _ => readString) fuel (write layout (depth + 1) item ++
      (writeItems layout depth items ++ l)) = some (item, writeItems layout depth items ++ l))
    (hitems : readItems readString fuel (writeItems layout depth items ++ l) = some (items, l)) :
    readItems readString (fuel + 1) (writeItems layout depth (item :: items) ++ l) =
      some (item :: items, l) := by
  have hcomma : isGap ',' = false := by decide
  rw [writeItems]
  simp only [List.cons_append, List.append_assoc]
  rw [readItems, skipGap_cons hcomma]
  simp only [readValue_gap (layout.item_gap depth), hitem, hitems, Option.bind_eq_bind,
    Option.bind_some]

theorem readValue_object {key : String} {value : JsonValue} {members : List (String × JsonValue)}
    (hstring : readString.Inverts)
    (hvalue : readValue (readIn key) (fun _ => readIn key) fuel (write layout (depth + 1) value ++
      (writeMembers layout depth members ++ l)) = some (value, writeMembers layout depth members ++ l))
    (hmembers : readMembers readString readIn fuel (writeMembers layout depth members ++ l) =
      some (members, l)) :
    readValue readString readIn (fuel + 1)
        (write layout depth (.object ((key, value) :: members)) ++ l) =
      some (.object ((key, value) :: members), l) := by
  have hopen : isGap '{' = false := by decide
  have hquote : isGap '"' = false := by decide
  have hhead : (skipGap (layout.item depth ++ (writeText key ++ ':' :: (layout.colon ++
      (write layout (depth + 1) value ++ (writeMembers layout depth members ++ l)))))).head? ≠
        some '}' := by
    rw [skipGap_append (layout.item_gap depth), writeText, List.cons_append, List.cons_append,
      skipGap_cons hquote]
    simp
  rw [write]
  simp only [List.cons_append, List.append_assoc]
  rw [readValue, skipGap_cons hopen]
  simp only [if_neg hhead, readKey_writeText hstring, readValue_gap layout.colon_gap, hvalue,
    hmembers, Option.bind_eq_bind, Option.bind_some]

theorem readMembers_cons {key : String} {value : JsonValue} {members : List (String × JsonValue)}
    (hstring : readString.Inverts)
    (hvalue : readValue (readIn key) (fun _ => readIn key) fuel (write layout (depth + 1) value ++
      (writeMembers layout depth members ++ l)) = some (value, writeMembers layout depth members ++ l))
    (hmembers : readMembers readString readIn fuel (writeMembers layout depth members ++ l) =
      some (members, l)) :
    readMembers readString readIn (fuel + 1)
        (writeMembers layout depth ((key, value) :: members) ++ l) =
      some ((key, value) :: members, l) := by
  have hcomma : isGap ',' = false := by decide
  rw [writeMembers]
  simp only [List.cons_append, List.append_assoc]
  rw [readMembers, skipGap_cons hcomma]
  simp only [readKey_writeText hstring, readValue_gap layout.colon_gap, hvalue, hmembers,
    Option.bind_eq_bind, Option.bind_some]

theorem readItems_close :
    readItems readString (fuel + 1) (writeItems layout depth [] ++ l) = some ([], l) := by
  have hbracket : isGap ']' = false := by decide
  rw [writeItems, List.append_assoc, List.singleton_append, readItems,
    skipGap_append (layout.close_gap depth), skipGap_cons hbracket]
  rfl

theorem readMembers_close :
    readMembers readString readIn (fuel + 1) (writeMembers layout depth [] ++ l) =
      some ([], l) := by
  have hbrace : isGap '}' = false := by decide
  rw [writeMembers, List.append_assoc, List.singleton_append, readMembers,
    skipGap_append (layout.close_gap depth), skipGap_cons hbrace]
  rfl

theorem readValue_empty :
    readValue readString readIn (fuel + 1) (write layout depth (.array []) ++ l) =
        some (.array [], l) ∧
      readValue readString readIn (fuel + 1) (write layout depth (.object []) ++ l) =
        some (.object [], l) := by
  have hbracket : isGap '[' = false := by decide
  have hbrace : isGap '{' = false := by decide
  have hclose : isGap ']' = false := by decide
  have hclose' : isGap '}' = false := by decide
  constructor <;>
    simp only [write, readValue, List.cons_append, List.nil_append, skipGap_cons hbracket,
      skipGap_cons hbrace, skipGap_cons hclose, skipGap_cons hclose', List.head?_cons, if_true,
      List.tail_cons]

theorem readValue_number (n : Numeral) (hl : Stops l) :
    readValue readString readIn (fuel + 1) (n.text ++ l) = some (.number n, l) := by
  obtain ⟨c, rest, hwrite, hgap, -⟩ := write_eq_cons compact 0 (.number n)
  rw [write] at hwrite
  have hc : isNumeralChar c = true := by
    have h := n.all_isNumeralChar
    rw [hwrite, List.all_cons, Bool.and_eq_true] at h
    exact h.1
  have hother : ∀ {d : Char} {l' : List Char}, isNumeralChar d = false → n.text ++ l ≠ d :: l' := by
    intro d l' hd heq
    rw [hwrite, List.cons_append] at heq
    rw [(List.cons.inj heq).1, hd] at hc
    cases hc
  have hskip : skipGap (n.text ++ l) = n.text ++ l := by
    rw [hwrite, List.cons_append, skipGap_cons hgap]
  rw [readValue, hskip]
  split <;> first
    | exact readNumeral_text n hl
    | next heq => exact absurd heq (hother (by decide))

theorem readValue_string (hstring : readString.Inverts) (text : String) :
    readValue readString readIn (fuel + 1) (writeText text ++ l) = some (.string text, l) := by
  obtain ⟨quoted, hquoted, hread⟩ := hstring text l
  have hquote : isGap '"' = false := by decide
  rw [hquoted, readValue, skipGap_cons hquote]
  simp only [hread, Option.bind_eq_bind, Option.bind_some]

mutual

theorem readValue_write (value : JsonValue) {readString : TextReader}
    {readIn : String → TextReader} (hstring : readString.Inverts)
    (hin : ∀ key, (readIn key).Inverts) {depth fuel : ℕ} {l : List Char}
    (hfuel : (write layout depth value).length ≤ fuel) (hl : Stops l) :
    readValue readString readIn fuel (write layout depth value ++ l) = some (value, l) := by
  obtain ⟨fuel, rfl⟩ : ∃ n, fuel = n + 1 :=
    Nat.exists_eq_succ_of_ne_zero ((length_write_pos depth value).trans_le hfuel).ne'
  have hn : isGap 'n' = false := by decide
  have ht : isGap 't' = false := by decide
  have hf : isGap 'f' = false := by decide
  cases value with
  | null => simp only [write, readValue, List.cons_append, List.nil_append, skipGap_cons hn]
  | bool b =>
    cases b with
    | true => simp only [write, readValue, List.cons_append, List.nil_append, skipGap_cons ht]
    | false => simp only [write, readValue, List.cons_append, List.nil_append, skipGap_cons hf]
  | number n =>
    rw [write]
    exact readValue_number n hl
  | string text =>
    rw [write]
    exact readValue_string hstring text
  | array items =>
    cases items with
    | nil => exact readValue_empty.1
    | cons item items =>
      have hlength : (write layout (depth + 1) item).length ≤ fuel ∧
          (writeItems layout depth items).length ≤ fuel := by
        simp only [write, List.length_cons, List.length_append] at hfuel
        omega
      exact readValue_array
        (readValue_write item hstring (fun _ => hstring) hlength.1 (stops_writeItems depth items l))
        (readItems_writeItems items hstring hlength.2)
  | object members =>
    cases members with
    | nil => exact readValue_empty.2
    | cons member members =>
      obtain ⟨key, value⟩ := member
      have hlength : (write layout (depth + 1) value).length ≤ fuel ∧
          (writeMembers layout depth members).length ≤ fuel := by
        simp only [write, List.length_cons, List.length_append] at hfuel
        omega
      exact readValue_object hstring
        (readValue_write value (hin key) (fun _ => hin key) hlength.1
          (stops_writeMembers depth members l))
        (readMembers_writeMembers members hstring hin hlength.2)

theorem readItems_writeItems (items : List JsonValue) {readString : TextReader}
    (hstring : readString.Inverts) {depth fuel : ℕ} {l : List Char}
    (hfuel : (writeItems layout depth items).length ≤ fuel) :
    readItems readString fuel (writeItems layout depth items ++ l) = some (items, l) := by
  cases items with
  | nil =>
    obtain ⟨fuel, rfl⟩ : ∃ n, fuel = n + 1 := by
      simp only [writeItems, List.length_append, List.length_singleton] at hfuel
      exact Nat.exists_eq_succ_of_ne_zero (by omega)
    exact readItems_close
  | cons item items =>
    have hlength := hfuel
    simp only [writeItems, List.length_cons, List.length_append] at hlength
    obtain ⟨fuel, rfl⟩ : ∃ n, fuel = n + 1 := Nat.exists_eq_succ_of_ne_zero (by omega)
    exact readItems_cons
      (readValue_write item hstring (fun _ => hstring) (by omega) (stops_writeItems depth items l))
      (readItems_writeItems items hstring (by omega))

theorem readMembers_writeMembers (members : List (String × JsonValue)) {readString : TextReader}
    {readIn : String → TextReader} (hstring : readString.Inverts)
    (hin : ∀ key, (readIn key).Inverts) {depth fuel : ℕ} {l : List Char}
    (hfuel : (writeMembers layout depth members).length ≤ fuel) :
    readMembers readString readIn fuel (writeMembers layout depth members ++ l) =
      some (members, l) := by
  cases members with
  | nil =>
    obtain ⟨fuel, rfl⟩ : ∃ n, fuel = n + 1 := by
      simp only [writeMembers, List.length_append, List.length_singleton] at hfuel
      exact Nat.exists_eq_succ_of_ne_zero (by omega)
    exact readMembers_close
  | cons member members =>
    obtain ⟨key, value⟩ := member
    have hlength := hfuel
    simp only [writeMembers, List.length_cons, List.length_append] at hlength
    obtain ⟨fuel, rfl⟩ : ∃ n, fuel = n + 1 := Nat.exists_eq_succ_of_ne_zero (by omega)
    exact readMembers_cons hstring
      (readValue_write value (hin key) (fun _ => hin key) (by omega)
        (stops_writeMembers depth members l))
      (readMembers_writeMembers members hstring hin (by omega))

end

/-- What is written in any layout is read back. -/
theorem readWhole_writeJson (hin : ∀ key, (readIn key).Inverts) (value : JsonValue) :
    readWhole readIn (writeJson layout value) = some value := by
  have hread : readValue readText readIn ((write layout 0 value).length + 1)
      (write layout 0 value ++ []) = some (value, []) :=
    readValue_write value readText_inverts hin (Nat.le_succ _) (by simp [Stops])
  rw [List.append_nil] at hread
  rw [readWhole, writeJson, String.toList_ofList, hread]
  rfl

theorem readJson_writeJson (value : JsonValue) :
    readJson (writeJson layout value) = some value :=
  readWhole_writeJson (fun _ => readText_inverts) value

theorem readRecord_writeJson (known : String → Bool) (value : JsonValue) :
    readRecord known (writeJson layout value) = some value := by
  refine readWhole_writeJson (fun key => ?_) value
  split_ifs
  · exact readText_inverts
  · exact skipText_inverts

end Layouts

/-! ## Records -/

inductive MemberError where
  | missing (name : String)
  | duplicate (name : String)
  | invalid (name : String)
deriving DecidableEq, Repr

/-- The member of this name; it must be there once. -/
def requireMember {α : Type} (members : List (String × JsonValue)) (name : String)
    (decode : JsonValue → Option α) : Except MemberError α :=
  match members.filter fun member => member.1 = name with
  | [] => .error (.missing name)
  | [(_, value)] =>
    match decode value with
    | some a => .ok a
    | none => .error (.invalid name)
  | _ => .error (.duplicate name)

theorem requireMember_eq_ok {α : Type} {members : List (String × JsonValue)} {name : String}
    {value : JsonValue} {decode : JsonValue → Option α} {a : α}
    (hmember : (members.filter fun member => member.1 = name) = [(name, value)])
    (hdecode : decode value = some a) : requireMember members name decode = .ok a := by
  rw [requireMember, hmember]
  simp only [hdecode]

theorem exists_of_requireMember {α : Type} {members : List (String × JsonValue)} {name : String}
    {decode : JsonValue → Option α} {a : α} (h : requireMember members name decode = .ok a) :
    ∃ value, decode value = some a := by
  unfold requireMember at h
  split at h
  · cases h
  · next key value hmember =>
    split at h
    · next b hdecode => exact ⟨value, hdecode.trans (congrArg some (Except.ok.inj h))⟩
    · cases h
  · cases h

def decodeString : JsonValue → Option String
  | .string text => some text
  | _ => none

def decodeInt (low high : ℤ) : JsonValue → Option ℤ
  | .number n => n.toInt?.filter fun i => low ≤ i ∧ i ≤ high
  | _ => none

theorem decodeInt_ofInt {low high i : ℤ} (hlow : low ≤ i) (hhigh : i ≤ high) :
    decodeInt low high (.number (.ofInt i)) = some i := by
  rw [decodeInt, Numeral.toInt?_ofInt, Option.filter_some, if_pos (by simp [hlow, hhigh])]

end LumenHorizon.Foundation.Json
