import Mathlib.Tactic

/-! # Scanning for a run of items

A list is searched for the first place where the next few items pass their tests, one test an item.
The search may run over indices or over windows; both are the search over all tails. Where the
items are written in a code in which the tests can still be made, the scan of the code finds the
same.
-/

namespace LumenHorizon.Foundation.Scan

variable {α β γ : Type}

def matchNext : List (α → Bool) → List α → Option (List α)
  | [], _ => some []
  | _ :: _, [] => none
  | test :: tests, a :: l => if test a then (matchNext tests l).map (a :: ·) else none

/-- The first items in a row that pass their tests. -/
def scan (tests : List (α → Bool)) (l : List α) : Option (List α) :=
  l.tails.findSome? (matchNext tests)

/-- `slice::windows`. -/
def windows (size : ℕ) (l : List α) : List (List α) :=
  (List.range (l.length + 1 - size)).map fun index => (l.drop index).take size

theorem matchNext_of_short {tests : List (α → Bool)} {l : List α} (h : l.length < tests.length) :
    matchNext tests l = none := by
  induction tests generalizing l with
  | nil => cases h
  | cons test tests ih =>
    cases l with
    | nil => rfl
    | cons a l =>
      rw [List.length_cons, List.length_cons, Nat.succ_lt_succ_iff] at h
      simp [matchNext, ih h]

theorem scan_of_short {tests : List (α → Bool)} {l : List α} (h : l.length < tests.length) :
    scan tests l = none := by
  rw [scan, List.findSome?_eq_none_iff]
  intro tail htail
  apply matchNext_of_short
  exact ((List.mem_tails _ _).mp htail).length_le.trans_lt h

theorem matchNext_take (tests : List (α → Bool)) (l : List α) :
    matchNext tests (l.take tests.length) = matchNext tests l := by
  induction tests generalizing l with
  | nil => rfl
  | cons test tests ih =>
    cases l with
    | nil => rfl
    | cons a l => simp [matchNext, ih]

theorem scan_cons (tests : List (α → Bool)) (a : α) (l : List α) :
    scan tests (a :: l) = (matchNext tests (a :: l)).or (scan tests l) := by
  rw [scan, List.tails_cons, List.findSome?_cons, scan]
  cases matchNext tests (a :: l) <;> rfl

theorem tails_eq_map_range (l : List α) :
    l.tails = (List.range (l.length + 1)).map fun index => l.drop index := by
  apply List.ext_getElem
  · simp
  · intro i h h'
    rw [List.getElem_tails, List.getElem_map, List.getElem_range]

/-- A search over the first indices is the search over all tails, where it finds nothing in the
short ones. -/
theorem findSome?_range {f : List α → Option β} {size : ℕ}
    (hshort : ∀ tail : List α, tail.length < size → f tail = none) (l : List α) :
    (List.range (l.length + 1 - size)).findSome? (fun index => f (l.drop index)) =
      l.tails.findSome? f := by
  have hsplit : List.range (l.length + 1) = List.range (l.length + 1 - size) ++
      (List.range' (l.length + 1 - size) (min size (l.length + 1))) := by
    have hlength : l.length + 1 = l.length + 1 - size + min size (l.length + 1) := by omega
    rw [List.range_eq_range', List.range_eq_range']
    conv_lhs => rw [hlength, ← List.range'_append_1, Nat.zero_add]
  have hrest : (List.range' (l.length + 1 - size) (min size (l.length + 1))).findSome?
      (fun index => f (l.drop index)) = none := by
    rw [List.findSome?_eq_none_iff]
    intro index hindex
    rw [List.mem_range'_1] at hindex
    apply hshort
    rw [List.length_drop]
    omega
  rw [tails_eq_map_range, List.findSome?_map, hsplit, List.findSome?_append]
  change _ = (List.findSome? _ _).or (List.findSome? (fun index => f (l.drop index)) _)
  rw [hrest, Option.or_none]
  rfl

theorem scan_eq_range {tests : List (α → Bool)} {size : ℕ} (hsize : tests.length = size)
    (l : List α) :
    scan tests l = (List.range (l.length + 1 - size)).findSome? fun index =>
      matchNext tests (l.drop index) :=
  (findSome?_range (fun _ h => matchNext_of_short (hsize ▸ h)) l).symm

theorem scan_eq_windows {tests : List (α → Bool)} {size : ℕ} (hsize : tests.length = size)
    (l : List α) : scan tests l = (windows size l).findSome? (matchNext tests) := by
  rw [scan_eq_range hsize, windows, List.findSome?_map]
  congr 1
  funext index
  rw [Function.comp_apply, ← hsize, matchNext_take]

/-- A test of items that can be made on their code: an item has one code word, on which the test
is the same, or several, and then neither it nor any of them passes. -/
def Coded (encode : α → List β) (code : α → β) (test : α → Bool) (test' : β → Bool) : Prop :=
  ∀ a, (encode a = [code a] ∧ test' (code a) = test a) ∨
    (encode a ≠ [] ∧ (∀ b ∈ encode a, test' b = false) ∧ test a = false)

variable {encode : α → List β} {code : α → β} {tests : List (α → Bool)} {tests' : List (β → Bool)}

theorem matchNext_encode (h : List.Forall₂ (Coded encode code) tests tests') (l : List α) :
    matchNext tests' (l.flatMap encode) = (matchNext tests l).map (List.map code) := by
  induction h generalizing l with
  | nil => rfl
  | @cons test test' tests tests' hcoded _ ih =>
    cases l with
    | nil => rfl
    | cons a l =>
      rw [List.flatMap_cons]
      rcases hcoded a with ⟨hone, hsame⟩ | ⟨hsome, hfails, hfail⟩
      · rw [hone, List.singleton_append, matchNext, matchNext, hsame, ih]
        cases test a <;> simp [Function.comp_def]
      · obtain ⟨b, code', hcode⟩ := List.exists_cons_of_ne_nil hsome
        have hb : test' b = false := hfails b (by simp [hcode])
        simp [hcode, matchNext, hb, hfail]

/-- What starts inside the code of an item that has several words is no match. -/
theorem scan_skip {test' : β → Bool} {words rest : List β} (h : ∀ b ∈ words, test' b = false) :
    scan (test' :: tests') (words ++ rest) = scan (test' :: tests') rest := by
  induction words with
  | nil => rfl
  | cons b words ih =>
    have hb : test' b = false := h b (by simp)
    rw [List.cons_append, scan_cons, matchNext, hb, ih fun b hb => h b (List.mem_cons_of_mem _ hb)]
    rfl

/-- The scan of the code finds the code of what the scan of the items finds. -/
theorem scan_encode {test : α → Bool} {test' : β → Bool}
    (h : List.Forall₂ (Coded encode code) (test :: tests) (test' :: tests')) (l : List α) :
    scan (test' :: tests') (l.flatMap encode) = (scan (test :: tests) l).map (List.map code) := by
  induction l with
  | nil => rfl
  | cons a l ih =>
    have hmatch := matchNext_encode h (a :: l)
    rw [List.flatMap_cons] at hmatch ⊢
    rw [scan_cons, Option.map_or, ← ih, ← hmatch]
    obtain ⟨hone, -⟩ | ⟨hsome, hfails, -⟩ := (List.forall₂_cons.mp h).1 a
    · rw [hone, List.singleton_append, scan_cons]
    · obtain ⟨b, words, hcode⟩ := List.exists_cons_of_ne_nil hsome
      have hb : test' b = false := hfails b (by simp [hcode])
      rw [scan_skip hfails, hcode, List.cons_append, matchNext, hb]
      rfl

end LumenHorizon.Foundation.Scan
