import LumenHorizon.Foundation.Json
import LumenHorizon.Processing.Errors

/-! # UUIDs and points in time as texts

A UUID is written with hyphens and read in four forms. A point in time is written in UTC, with as
many digits of its second as it needs.
-/

namespace LumenHorizon.Shared
open Foundation Json Processing

def hexFrom : ℕ → List Char → Option ℕ
  | n, [] => some n
  | n, c :: l => (Json.hexValue c).bind fun digit => hexFrom (n * 16 + digit) l

/-- Four groups that end in a hyphen, and one behind them. -/
def parseHyphenated (l : List Char) : Option Uuid :=
  if l[8]? = some '-' ∧ l[13]? = some '-' ∧ l[18]? = some '-' ∧ l[23]? = some '-' then
    hexFrom 0 (l.take 8 ++ (l.drop 9).take 4 ++ (l.drop 14).take 4 ++ (l.drop 19).take 4 ++ l.drop 24)
  else none

/-- `Uuid::parse_str`: digits alone, with hyphens, in braces or as a name. -/
def parseUuid (text : String) : Option Uuid :=
  let l := text.toList
  if l.length = 32 then hexFrom 0 l
  else if l.length = 36 then parseHyphenated l
  else if l.length = 38 ∧ l.head? = some '{' ∧ l.getLast? = some '}' then
    parseHyphenated l.tail.dropLast
  else if l.length = 45 ∧ l.take 9 = "urn:uuid:".toList then parseHyphenated (l.drop 9)
  else none

theorem lt_of_hexValue {c : Char} {digit : ℕ} (h : Json.hexValue c = some digit) : digit < 16 := by
  unfold Json.hexValue at h
  split_ifs at h with hdigit hlower hupper
  · have := Char.isDigit_iff_toNat.mp hdigit
    simp only [Char.reduceToNat, Option.some.injEq] at this h
    omega
  · have hle : c.toNat ≤ 102 := hlower.2
    simp only [Option.some.injEq] at h
    omega
  · have hle : c.toNat ≤ 70 := hupper.2
    simp only [Option.some.injEq] at h
    omega

theorem lt_of_hexFrom {l : List Char} {n m : ℕ} (h : hexFrom n l = some m) :
    m < (n + 1) * 16 ^ l.length := by
  induction l generalizing n with
  | nil =>
    cases h
    simp
  | cons c l ih =>
    obtain ⟨digit, hdigit, hrest⟩ := Option.bind_eq_some_iff.mp h
    have hlt := lt_of_hexValue hdigit
    calc m < (n * 16 + digit + 1) * 16 ^ l.length := ih hrest
      _ ≤ ((n + 1) * 16) * 16 ^ l.length := Nat.mul_le_mul_right _ (by omega)
      _ = (n + 1) * 16 ^ (c :: l).length := by rw [List.length_cons, pow_succ]; ring

/-- The last digits of a number are read behind what was read before. -/
theorem hexFrom_digits (k n id : ℕ) :
    hexFrom n ((List.range k).map fun i => Processing.hexDigit (id / 16 ^ (k - 1 - i) % 16)) =
      some (n * 16 ^ k + id % 16 ^ k) := by
  induction k generalizing n with
  | zero => simp [hexFrom, Nat.mod_one]
  | succ k ih =>
    have hdigit : Json.hexValue (Processing.hexDigit (id / 16 ^ k % 16)) = some (id / 16 ^ k % 16) :=
      Json.hexValue_hexDigit _ (Nat.mod_lt _ (by decide))
    have hrest : (List.range k).map ((fun i => Processing.hexDigit (id / 16 ^ (k + 1 - 1 - i) % 16)) ∘
        Nat.succ) = (List.range k).map fun i => Processing.hexDigit (id / 16 ^ (k - 1 - i) % 16) := by
      apply List.map_congr_left
      intro i _
      have hexponent : k + 1 - 1 - i.succ = k - 1 - i := by omega
      rw [Function.comp_apply, hexponent]
    rw [List.range_succ_eq_map, List.map_cons, List.map_map, hrest]
    simp only [Nat.add_sub_cancel, Nat.sub_zero, hexFrom, hdigit, Option.bind_some, ih]
    rw [Nat.mod_pow_succ, pow_succ]
    exact congrArg some (by ring)

theorem hexFrom_uuidSimple {id : Uuid} (hid : id < 2 ^ 128) : hexFrom 0 (uuidSimple id) = some id := by
  have hdigits := hexFrom_digits 32 0 id
  have hpow : (16 : ℕ) ^ 32 = 2 ^ 128 := by norm_num
  rw [Nat.zero_mul, Nat.zero_add, hpow, Nat.mod_eq_of_lt hid] at hdigits
  exact hdigits

theorem parseHyphenated_groups {a b c d e : List Char} (ha : a.length = 8) (hb : b.length = 4)
    (hc : c.length = 4) (hd : d.length = 4) :
    parseHyphenated (a ++ ['-'] ++ b ++ ['-'] ++ c ++ ['-'] ++ d ++ ['-'] ++ e) =
      hexFrom 0 (a ++ b ++ c ++ d ++ e) := by
  simp [parseHyphenated, List.getElem?_append, List.take_append, List.drop_append, ha, hb, hc, hd]
  simp (disch := omega) only [List.drop_of_length_le, List.take_nil, List.nil_append]

theorem length_uuidSimple (id : Uuid) : (uuidSimple id).length = 32 := by
  rw [uuidSimple, List.length_map, List.length_range]

theorem take_drop_append (l : List Char) (start length : ℕ) :
    (l.drop start).take length ++ l.drop (start + length) = l.drop start := by
  rw [← List.drop_drop, List.take_append_drop]

theorem parseUuid_uuidDisplay {id : Uuid} (hid : id < 2 ^ 128) :
    parseUuid (uuidDisplay id) = some id := by
  have hlength := length_uuidSimple id
  have hlast : ((uuidSimple id).drop 20).take 12 = (uuidSimple id).drop 20 :=
    List.take_of_length_le (by rw [List.length_drop, hlength])
  have hgroups : (uuidSimple id).take 8 ++ ((uuidSimple id).drop 8).take 4 ++
      ((uuidSimple id).drop 12).take 4 ++ ((uuidSimple id).drop 16).take 4 ++
        ((uuidSimple id).drop 20).take 12 = uuidSimple id := by
    rw [hlast, List.append_assoc, take_drop_append _ 16 4, List.append_assoc,
      take_drop_append _ 12 4, List.append_assoc, take_drop_append _ 8 4, List.take_append_drop]
  have htext : (uuidDisplay id).toList = (uuidSimple id).take 8 ++ ['-'] ++
      ((uuidSimple id).drop 8).take 4 ++ ['-'] ++ ((uuidSimple id).drop 12).take 4 ++ ['-'] ++
        ((uuidSimple id).drop 16).take 4 ++ ['-'] ++ ((uuidSimple id).drop 20).take 12 := by
    rw [uuidDisplay, String.toList_ofList]
    rfl
  have hshort : (uuidDisplay id).toList.length = 36 := by
    rw [htext]
    simp [hlength]
  have hparse : parseHyphenated (uuidDisplay id).toList = some id := by
    rw [htext, parseHyphenated_groups (by simp [hlength]) (by simp [hlength]) (by simp [hlength])
      (by simp [hlength]), hgroups, hexFrom_uuidSimple hid]
  simp only [parseUuid, hshort, hparse]
  rfl

theorem lt_of_parseUuid {text : String} {id : Uuid} (h : parseUuid text = some id) :
    id < 2 ^ 128 := by
  have hpow : (2 : ℕ) ^ 128 = (0 + 1) * 16 ^ 32 := by norm_num
  have hhyphenated {l : List Char} (hl : l.length = 36) (h : parseHyphenated l = some id) :
      id < 2 ^ 128 := by
    unfold parseHyphenated at h
    split_ifs at h with hhyphens
    have hlt := lt_of_hexFrom h
    simp only [List.length_append, List.length_take, List.length_drop, hl] at hlt
    rw [hpow]
    exact hlt
  simp only [parseUuid] at h
  split_ifs at h with hsimple hplain hbraced hnamed
  · rw [hpow, ← hsimple]
    exact lt_of_hexFrom h
  · exact hhyphenated hplain h
  · exact hhyphenated (by simp [hbraced.1]) h
  · exact hhyphenated (by simp [hnamed.1]) h

def nanosPerSecond : ℕ := 10 ^ 9

/-- Three, six or nine digits, as many as it takes. -/
def formatFraction (nanos : ℕ) : String :=
  if nanos = 0 then ""
  else if nanos % 1000000 = 0 then "." ++ pad 3 (nanos / 1000000)
  else if nanos % 1000 = 0 then "." ++ pad 6 (nanos / 1000)
  else "." ++ pad 9 nanos

/-- How `DateTime<Utc>` is serialized. -/
def formatTime (t : DateTime) : String :=
  let seconds := t.nanoOfDay / nanosPerSecond
  t.formatDate ++ "T" ++ pad 2 (seconds / 3600) ++ ":" ++ pad 2 (seconds / 60 % 60) ++ ":" ++
    pad 2 (seconds % 60) ++ formatFraction (t.nanoOfDay % nanosPerSecond) ++ "Z"

end LumenHorizon.Shared
