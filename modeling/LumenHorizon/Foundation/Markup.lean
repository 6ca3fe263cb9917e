import Mathlib.Tactic

/-! # Texts in markup

Some characters stand in a text as an ampersand, a name and a semicolon. A document is a sequence of
tags with texts between them; the texts of an element are those between its two tags.
-/

namespace LumenHorizon.Foundation.Markup

/-- Which characters are written by a name, and what a name stands for. -/
structure Entities where
  name : Char → Option (List Char)
  value : List Char → Option Char
  value_name : ∀ {c : Char} {n : List Char}, name c = some n → value n = some c
  plain : ∀ {c : Char} {n : List Char}, name c = some n → ∀ d ∈ n, d ≠ ';' ∧ name d = none
  semicolon : name ';' = none
  ampersand : (name '&').isSome = true

variable (entities : Entities)

def escapeChar (c : Char) : List Char :=
  match entities.name c with
  | some n => '&' :: n ++ [';']
  | none => [c]

def escape (l : List Char) : List Char := l.flatMap (escapeChar entities)

/-- Within a name or not, with what there is of the name. A name that is not known or not closed
makes the text malformed. -/
def unescapeFrom : Option (List Char) → List Char → Option (List Char)
  | none, [] => some []
  | some _, [] => none
  | none, c :: l =>
    if c = '&' then unescapeFrom (some []) l else (unescapeFrom none l).map (c :: ·)
  | some n, c :: l =>
    if c = ';' then (entities.value n).bind fun c => (unescapeFrom none l).map (c :: ·)
    else unescapeFrom (some (n ++ [c])) l

def unescape (l : List Char) : Option (List Char) := unescapeFrom entities none l

variable {entities}

theorem unescapeFrom_name {n : List Char} (h : ∀ d ∈ n, d ≠ ';') (before l : List Char) :
    unescapeFrom entities (some before) (n ++ ';' :: l) =
      (entities.value (before ++ n)).bind fun c => (unescapeFrom entities none l).map (c :: ·) := by
  induction n generalizing before with
  | nil => simp [unescapeFrom]
  | cons d n ih =>
    rw [List.cons_append, unescapeFrom, if_neg (h d (by simp)),
      ih fun d hd => h d (List.mem_cons_of_mem _ hd)]
    simp

theorem unescapeFrom_escapeChar (c : Char) (l : List Char) :
    unescapeFrom entities none (escapeChar entities c ++ l) =
      (unescapeFrom entities none l).map (c :: ·) := by
  unfold escapeChar
  cases hname : entities.name c with
  | none =>
    have hne : c ≠ '&' := by
      rintro rfl
      have hsome := entities.ampersand
      rw [hname] at hsome
      cases hsome
    rw [List.singleton_append, unescapeFrom, if_neg hne]
  | some n =>
    have hplain : ∀ d ∈ n, d ≠ ';' := fun d hd => (entities.plain hname d hd).1
    simp only [List.cons_append, List.append_assoc, List.nil_append]
    rw [unescapeFrom, if_pos rfl, unescapeFrom_name hplain, List.nil_append,
      entities.value_name hname]
    rfl

/-- Escaping is undone by the reader. -/
theorem unescape_escape (l : List Char) : unescape entities (escape entities l) = some l := by
  unfold unescape escape
  induction l with
  | nil => rfl
  | cons c l ih =>
    rw [List.flatMap_cons, unescapeFrom_escapeChar, ih]
    rfl

theorem name_of_mem_escape {l : List Char} {c : Char} (h : c ∈ escape entities l) :
    entities.name c = none ∨ c = '&' := by
  obtain ⟨d, -, hc⟩ := List.mem_flatMap.mp h
  unfold escapeChar at hc
  cases hname : entities.name d with
  | none =>
    rw [hname, List.mem_singleton] at hc
    exact .inl (hc ▸ hname)
  | some n =>
    rw [hname] at hc
    simp only [List.mem_append, List.mem_cons, List.not_mem_nil, or_false] at hc
    rcases hc with (rfl | hmem) | rfl
    · exact .inr rfl
    · exact .inl (entities.plain hname c hmem).2
    · exact .inl entities.semicolon

inductive Token where
  | tag (name : List Char)
  | text (raw : List Char)
deriving DecidableEq, Repr

/-- Within a tag or a text, with what there is of it. -/
def tokensFrom : Bool → List Char → List Char → Option (List Token)
  | false, raw, [] => some [.text raw]
  | true, _, [] => none
  | false, raw, c :: l =>
    if c = '<' then (tokensFrom true [] l).map (.text raw :: ·) else tokensFrom false (raw ++ [c]) l
  | true, name, c :: l =>
    if c = '>' then (tokensFrom false [] l).map (.tag name :: ·) else tokensFrom true (name ++ [c]) l

def tokens (document : List Char) : Option (List Token) := tokensFrom false [] document

def elementTexts (name : List Char) : List Token → List (List Char)
  | .tag start :: .text raw :: .tag stop :: rest =>
    if start = name ∧ stop = '/' :: name then raw :: elementTexts name rest
    else elementTexts name (.text raw :: .tag stop :: rest)
  | _ :: rest => elementTexts name rest
  | [] => []

theorem tokensFrom_text {l : List Char} (h : '<' ∉ l) (raw rest : List Char) :
    tokensFrom false raw (l ++ '<' :: rest) =
      (tokensFrom true [] rest).map (.text (raw ++ l) :: ·) := by
  induction l generalizing raw with
  | nil => simp [tokensFrom]
  | cons c l ih =>
    obtain ⟨hne, hrest⟩ := List.ne_and_not_mem_of_not_mem_cons h
    rw [List.cons_append, tokensFrom, if_neg hne.symm, ih hrest]
    simp

theorem tokensFrom_tag {l : List Char} (h : '>' ∉ l) (name rest : List Char) :
    tokensFrom true name (l ++ '>' :: rest) =
      (tokensFrom false [] rest).map (.tag (name ++ l) :: ·) := by
  induction l generalizing name with
  | nil => simp [tokensFrom]
  | cons c l ih =>
    obtain ⟨hne, hrest⟩ := List.ne_and_not_mem_of_not_mem_cons h
    rw [List.cons_append, tokensFrom, if_neg hne.symm, ih hrest]
    simp

theorem tokensFrom_open (raw rest : List Char) :
    tokensFrom false raw ('<' :: rest) = (tokensFrom true [] rest).map (.text raw :: ·) := by
  simp [tokensFrom]

def wrapped (outer inner raw : List Char) : List Char :=
  '<' :: (outer ++ '>' :: '<' :: (inner ++ '>' :: (raw ++
    '<' :: ('/' :: inner ++ '>' :: '<' :: ('/' :: outer ++ '>' :: [])))))

theorem elementTexts_wrapped {outer inner raw : List Char} (houter : '>' ∉ outer)
    (hinner : '>' ∉ inner) (hraw : '<' ∉ raw) :
    (tokens (wrapped outer inner raw)).map (elementTexts inner) = some [raw] := by
  have hclose {name : List Char} (h : '>' ∉ name) : '>' ∉ '/' :: name := by
    simpa using h
  have hlonger : inner ≠ '/' :: inner := fun h => by
    have hlength := congrArg List.length h
    simp at hlength
  rw [tokens, wrapped, tokensFrom_open, tokensFrom_tag houter, tokensFrom_open,
    tokensFrom_tag hinner, tokensFrom_text hraw, tokensFrom_tag (hclose hinner), tokensFrom_open,
    tokensFrom_tag (hclose houter)]
  simp [tokensFrom, elementTexts, hlonger]

end LumenHorizon.Foundation.Markup
