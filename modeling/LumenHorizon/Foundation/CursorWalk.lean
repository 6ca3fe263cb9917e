import Mathlib.Tactic

/-! # Walks along cursors

A client asks for a page without a cursor and then with the cursor of the page before, until a page
comes without one.
-/

namespace LumenHorizon.Foundation.CursorWalk

variable {α γ : Type}

/-- The pages of a walk that ends within its fuel and without an error. -/
def walk (fetch : Option γ → Option (List α × Option γ)) : ℕ → Option γ → Option (List (List α))
  | 0, _ => none
  | fuel + 1, cursor =>
    match fetch cursor with
    | none => none
    | some (page, none) => some [page]
    | some (page, some next) => (walk fetch fuel (some next)).map (page :: ·)

/-- So many rows after an offset, as `LIMIT` and `OFFSET` choose them. -/
def slice (rows : List α) (limit offset : ℕ) : List α := (rows.drop offset).take limit

/-- Each page is the slice at its cursor, and names the next offset if there are rows there. -/
def Serves (fetch : Option γ → Option (List α × Option γ)) (cursorAt : ℕ → γ) (rows : List α)
    (limit : ℕ) : Prop :=
  ∀ offset, offset ≤ rows.length →
    ∀ cursor, cursor = some (cursorAt offset) ∨ (offset = 0 ∧ cursor = none) →
    fetch cursor = some (slice rows limit offset,
      if offset + limit < rows.length then some (cursorAt (offset + limit)) else none)

section Slice

variable {rows : List α} {limit offset : ℕ}

theorem length_slice : (slice rows limit offset).length = min limit (rows.length - offset) := by
  simp [slice]

/-- One row more than the limit comes back exactly when there are rows after the page. -/
theorem lt_length_slice_succ_iff :
    limit < (slice rows (limit + 1) offset).length ↔ offset + limit < rows.length := by
  rw [length_slice]
  omega

theorem take_slice_succ : (slice rows (limit + 1) offset).take limit = slice rows limit offset := by
  simp [slice, List.take_take]

theorem slice_append_drop : slice rows limit offset ++ rows.drop (offset + limit) = rows.drop offset := by
  rw [slice, ← List.drop_drop]
  exact List.take_append_drop limit (rows.drop offset)

theorem slice_of_le (h : rows.length ≤ offset + limit) :
    slice rows limit offset = rows.drop offset := by
  apply List.take_of_length_le
  rw [List.length_drop]
  omega

end Slice

theorem walk_last {fetch : Option γ → Option (List α × Option γ)} {cursorAt : ℕ → γ} {rows : List α}
    {limit offset : ℕ} (hserves : Serves fetch cursorAt rows limit) (hoffset : offset ≤ rows.length)
    (hlast : rows.length ≤ offset + limit) {cursor : Option γ}
    (hcursor : cursor = some (cursorAt offset) ∨ (offset = 0 ∧ cursor = none)) {fuel : ℕ}
    (hfuel : 0 < fuel) : walk fetch fuel cursor = some [rows.drop offset] := by
  have hpage := hserves offset hoffset cursor hcursor
  rw [if_neg (not_lt.mpr hlast), slice_of_le hlast] at hpage
  obtain ⟨fuel, rfl⟩ := Nat.exists_eq_add_one.mpr hfuel
  rw [walk, hpage]

/-- From each offset the walk returns the rows after it, in full pages up to the last. The induction
is over the pages that are still to come. -/
theorem walk_from {fetch : Option γ → Option (List α × Option γ)} {cursorAt : ℕ → γ} {rows : List α}
    {limit : ℕ} (hlimit : 0 < limit) (hserves : Serves fetch cursorAt rows limit) {n offset : ℕ}
    (hn : (rows.length - offset) / limit = n) (hoffset : offset ≤ rows.length) {cursor : Option γ}
    (hcursor : cursor = some (cursorAt offset) ∨ (offset = 0 ∧ cursor = none)) :
    ∃ pages, (∀ fuel, n < fuel → walk fetch fuel cursor = some pages) ∧
      pages.flatten = rows.drop offset ∧ ∀ page ∈ pages.dropLast, page.length = limit := by
  induction n generalizing offset cursor with
  | zero =>
    have hlast : rows.length - offset < limit := by
      rcases Nat.div_eq_zero_iff.mp hn with h | h
      · omega
      · exact h
    exact ⟨[rows.drop offset],
      fun fuel hfuel => walk_last hserves hoffset (by omega) hcursor hfuel, by simp, by simp⟩
  | succ n ih =>
    by_cases hmore : offset + limit < rows.length
    · have hpage := hserves offset hoffset cursor hcursor
      rw [if_pos hmore] at hpage
      have hleft : (rows.length - (offset + limit)) / limit = n := by
        rw [Nat.div_eq_sub_div hlimit (by omega), Nat.sub_sub] at hn
        exact Nat.succ.inj hn
      obtain ⟨pages, hwalk, hrows, hfull⟩ := ih hleft hmore.le (.inl rfl)
      refine ⟨slice rows limit offset :: pages, ?_, ?_, ?_⟩
      · intro fuel hfuel
        obtain ⟨fuel, rfl⟩ := Nat.exists_eq_add_one.mpr (Nat.zero_lt_of_lt hfuel)
        rw [walk, hpage]
        simp only [hwalk fuel (by omega), Option.map_some]
      · rw [List.flatten_cons, hrows, slice_append_drop]
      · intro page hmem
        have hne : pages ≠ [] := by
          rintro rfl
          have hlen := congrArg List.length hrows
          simp only [List.flatten_nil, List.length_nil, List.length_drop] at hlen
          omega
        rw [List.dropLast_cons_of_ne_nil hne] at hmem
        rcases List.mem_cons.mp hmem with rfl | hmem
        · rw [length_slice]
          omega
        · exact hfull page hmem
    · exact ⟨[rows.drop offset],
        fun fuel hfuel => walk_last hserves hoffset (by omega) hcursor (Nat.zero_lt_of_lt hfuel),
        by simp, by simp⟩

/-- A walk from the beginning returns every row once and in order. -/
theorem walk_exact {fetch : Option γ → Option (List α × Option γ)} {cursorAt : ℕ → γ} {rows : List α}
    {limit : ℕ} (hlimit : 0 < limit) (hserves : Serves fetch cursorAt rows limit) :
    ∃ pages, (∀ fuel, rows.length / limit < fuel → walk fetch fuel none = some pages) ∧
      pages.flatten = rows ∧ ∀ page ∈ pages.dropLast, page.length = limit :=
  walk_from hlimit hserves rfl (Nat.zero_le rows.length) (.inr ⟨rfl, rfl⟩)

end LumenHorizon.Foundation.CursorWalk
