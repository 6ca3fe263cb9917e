import Mathlib.Data.List.Sort
import Mathlib.Tactic

/-! # Tables as lists of rows

The statements a relational table answers: a conditional update, and a selection with an order
and a limit. Membership is all that most invariants need.
-/

namespace LumenHorizon.Foundation.Table

variable {α : Type}

/-- `UPDATE … SET … WHERE …` -/
def update (where' : α → Prop) [DecidablePred where'] (set : α → α) (rows : List α) : List α :=
  rows.map fun row => if where' row then set row else row

/-- `SELECT … WHERE … ORDER BY … LIMIT …` -/
def select (where' : α → Prop) [DecidablePred where'] (le : α → α → Prop) [DecidableRel le]
    (limit : ℕ) (rows : List α) : List α :=
  ((rows.filter fun row => where' row).insertionSort le).take limit

section Update

variable {where' : α → Prop} [DecidablePred where'] {set : α → α} {rows : List α}

theorem mem_update {row : α} :
    row ∈ update where' set rows ↔
      ∃ old ∈ rows, (where' old ∧ row = set old) ∨ (¬ where' old ∧ row = old) := by
  simp only [update, List.mem_map]
  constructor
  · rintro ⟨old, hold, rfl⟩
    by_cases h : where' old
    · exact ⟨old, hold, .inl ⟨h, if_pos h⟩⟩
    · exact ⟨old, hold, .inr ⟨h, if_neg h⟩⟩
  · rintro ⟨old, hold, ⟨h, rfl⟩ | ⟨h, rfl⟩⟩
    · exact ⟨old, hold, if_pos h⟩
    · exact ⟨row, hold, if_neg h⟩

theorem mem_update_of_not {row : α} (hrow : row ∈ rows) (h : ¬ where' row) :
    row ∈ update where' set rows :=
  mem_update.mpr ⟨row, hrow, .inr ⟨h, rfl⟩⟩

theorem mem_update_of {row : α} (hrow : row ∈ rows) (h : where' row) :
    set row ∈ update where' set rows :=
  mem_update.mpr ⟨row, hrow, .inl ⟨h, rfl⟩⟩

/-- An update of rows with other keys leaves the rows with a key alone. -/
theorem mem_update_iff_of_key {K : Type} {key : α → K} {row : α}
    (hother : ∀ other, where' other → key other ≠ key row)
    (hset : ∀ other, where' other → key (set other) = key other) :
    row ∈ update where' set rows ↔ row ∈ rows := by
  rw [mem_update]
  constructor
  · rintro ⟨old, hold, ⟨hmatch, rfl⟩ | ⟨-, rfl⟩⟩
    · exact absurd (hset old hmatch).symm (hother old hmatch)
    · exact hold
  · intro hrow
    exact ⟨row, hrow, .inr ⟨fun hmatch => hother row hmatch rfl, rfl⟩⟩

/-- What the assignment keeps of each row is kept of the table. -/
theorem map_update {β : Type} {f : α → β} (h : ∀ row, where' row → f (set row) = f row) :
    (update where' set rows).map f = rows.map f := by
  rw [update, List.map_map]
  apply List.map_congr_left
  intro row _
  by_cases hrow : where' row
  · simp [hrow, h row hrow]
  · simp [hrow]

/-- An update that brings no row into the selection keeps it, or takes from it. -/
theorem filter_update_sublist {β : Type} {p : α → Prop} [DecidablePred p] {f : α → β}
    (hp : ∀ row, where' row → p (set row) → p row) (hf : ∀ row, where' row → f (set row) = f row) :
    (((update where' set rows).filter fun row => p row).map f).Sublist
      ((rows.filter fun row => p row).map f) := by
  induction rows with
  | nil => exact List.Sublist.refl _
  | cons row rows ih =>
    have hcons : update where' set (row :: rows) =
        (if where' row then set row else row) :: update where' set rows := rfl
    rw [hcons]
    by_cases hrow : where' row
    · rw [if_pos hrow]
      by_cases hset : p (set row)
      · rw [List.filter_cons_of_pos (by simpa using hset),
          List.filter_cons_of_pos (by simpa using hp row hrow hset), List.map_cons, List.map_cons,
          hf row hrow]
        exact ih.cons_cons _
      · rw [List.filter_cons_of_neg (by simpa using hset)]
        exact ih.trans (((List.sublist_cons_self _ _).filter _).map f)
    · rw [if_neg hrow]
      by_cases hset : p row
      · rw [List.filter_cons_of_pos (by simpa using hset),
          List.filter_cons_of_pos (by simpa using hset), List.map_cons, List.map_cons]
        exact ih.cons_cons _
      · rw [List.filter_cons_of_neg (by simpa using hset),
          List.filter_cons_of_neg (by simpa using hset)]
        exact ih

end Update

theorem mem_of_mem_select {where' : α → Prop} [DecidablePred where'] {le : α → α → Prop}
    [DecidableRel le] {limit : ℕ} {rows : List α} {row : α}
    (h : row ∈ select where' le limit rows) : row ∈ rows ∧ where' row := by
  have hsorted := List.mem_of_mem_take h
  rw [List.mem_insertionSort, List.mem_filter] at hsorted
  exact ⟨hsorted.1, by simpa using hsorted.2⟩

/-- A selection that fits the limit returns every row it asks for. -/
theorem mem_select_of_le {where' : α → Prop} [DecidablePred where'] {le : α → α → Prop}
    [DecidableRel le] {limit : ℕ} {rows : List α}
    (hlimit : (rows.filter fun row => where' row).length ≤ limit) {row : α} (hrow : row ∈ rows)
    (h : where' row) : row ∈ select where' le limit rows := by
  rw [select, List.take_of_length_le (by rw [List.length_insertionSort]; exact hlimit),
    List.mem_insertionSort, List.mem_filter]
  exact ⟨hrow, by simpa using h⟩

/-! ## Places

`ORDER BY` a key puts a row after the rows with smaller keys, and after those of its own key that
the table has before it.
-/

section Place

variable {K : Type} [LinearOrder K] {key : α → K}

theorem orderedInsert_append_of_le {x y : α} (h : key y ≤ key x) (a b : List α) :
    (a ++ x :: b).orderedInsert (fun c d => key c ≤ key d) y =
      a.orderedInsert (fun c d => key c ≤ key d) y ++ x :: b := by
  induction a with
  | nil => exact List.orderedInsert_cons_of_le _ b h
  | cons c a ih =>
    by_cases hc : key y ≤ key c
    · simp [List.orderedInsert, hc]
    · simp [List.orderedInsert, hc, ih]

theorem orderedInsert_append_of_lt {x y : α} {a : List α} (h : key x < key y)
    (ha : ∀ c ∈ a, key c ≤ key x) (b : List α) :
    (a ++ x :: b).orderedInsert (fun c d => key c ≤ key d) y =
      a ++ x :: b.orderedInsert (fun c d => key c ≤ key d) y := by
  induction a with
  | nil => simp [not_le.mpr h]
  | cons c a ih =>
    have hc : key c < key y := (ha c List.mem_cons_self).trans_lt h
    have hrest := ih fun d hd => ha d (List.mem_cons_of_mem _ hd)
    simp [not_le.mpr hc, hrest]

theorem exists_orderedInsert_eq (x : α) {l : List α}
    (hsorted : l.Pairwise fun c d => key c ≤ key d) :
    ∃ a b, l.orderedInsert (fun c d => key c ≤ key d) x = a ++ x :: b ∧
      a.length = l.countP fun c => key c < key x := by
  induction l with
  | nil => exact ⟨[], [], rfl, rfl⟩
  | cons c l ih =>
    obtain ⟨hc, hl⟩ := List.pairwise_cons.mp hsorted
    by_cases hx : key x ≤ key c
    · refine ⟨[], c :: l, List.orderedInsert_cons_of_le _ l hx, ?_⟩
      symm
      apply List.countP_eq_zero.mpr
      intro d hd
      rcases List.mem_cons.mp hd with rfl | hd
      · simpa using hx
      · simpa using hx.trans (hc d hd)
    · obtain ⟨a, b, heq, hlength⟩ := ih hl
      refine ⟨c :: a, b, by simp [List.orderedInsert, hx, heq], ?_⟩
      rw [List.countP_cons_of_pos (by simpa using hx), List.length_cons, hlength]

theorem exists_insertionSort_eq (key : α → K) (l₁ l₂ : List α) (x : α) :
    ∃ a b, (l₁ ++ x :: l₂).insertionSort (fun c d => key c ≤ key d) = a ++ x :: b ∧
      a.length = (l₁.countP fun c => key c ≤ key x) + l₂.countP fun c => key c < key x := by
  induction l₁ with
  | nil =>
    have hsorted : (l₂.insertionSort fun c d => key c ≤ key d).Pairwise
        fun c d => key c ≤ key d := List.pairwise_insertionSort (fun c d => key c ≤ key d) l₂
    obtain ⟨a, b, heq, hlength⟩ := exists_orderedInsert_eq x hsorted
    refine ⟨a, b, heq, ?_⟩
    rw [hlength, List.countP_nil, Nat.zero_add]
    exact (List.perm_insertionSort _ _).countP_eq _
  | cons y l₁ ih =>
    obtain ⟨a, b, heq, hlength⟩ := ih
    rw [List.cons_append, List.insertionSort_cons, heq]
    by_cases hy : key y ≤ key x
    · refine ⟨_, b, orderedInsert_append_of_le hy a b, ?_⟩
      rw [List.orderedInsert_length, List.countP_cons_of_pos (by simpa using hy), hlength]
      omega
    · have hsorted : (a ++ x :: b).Pairwise fun c d => key c ≤ key d := by
        rw [← heq]
        exact List.pairwise_insertionSort (fun c d => key c ≤ key d) _
      have ha : ∀ c ∈ a, key c ≤ key x := fun c hc =>
        (List.pairwise_append.mp hsorted).2.2 c hc x List.mem_cons_self
      refine ⟨a, _, orderedInsert_append_of_lt (not_le.mp hy) ha b, ?_⟩
      rw [List.countP_cons_of_neg (by simpa using hy), hlength]

/-- The one row of its kind is selected if fewer rows than the limit have places before it. -/
theorem exists_mem_select_iff {where' : α → Prop} [DecidablePred where'] {limit : ℕ}
    {rows l₁ l₂ : List α} {x : α} {p : α → Prop}
    (hrows : (rows.filter fun row => where' row) = l₁ ++ x :: l₂) (hx : p x)
    (h₁ : ∀ y ∈ l₁, ¬ p y) (h₂ : ∀ y ∈ l₂, ¬ p y) :
    (∃ y ∈ select where' (fun c d => key c ≤ key d) limit rows, p y) ↔
      (l₁.countP fun c => key c ≤ key x) + (l₂.countP fun c => key c < key x) < limit := by
  obtain ⟨a, b, heq, hlength⟩ := exists_insertionSort_eq key l₁ l₂ x
  have hperm : (a ++ b).Perm (l₁ ++ l₂) := by
    have hsort := List.perm_insertionSort (fun c d => key c ≤ key d) (l₁ ++ x :: l₂)
    rw [heq] at hsort
    exact (List.perm_middle.symm.trans (hsort.trans List.perm_middle)).cons_inv
  have ha : ∀ y ∈ a, ¬ p y := by
    intro y hy
    rcases List.mem_append.mp (hperm.mem_iff.mp (List.mem_append_left b hy)) with hy | hy
    · exact h₁ y hy
    · exact h₂ y hy
  rw [select, hrows, heq, ← hlength, List.take_append]
  constructor
  · rintro ⟨y, hy, hp⟩
    rcases List.mem_append.mp hy with hy | hy
    · exact absurd hp (ha y (List.mem_of_mem_take hy))
    · by_contra hle
      rw [Nat.sub_eq_zero_of_le (not_lt.mp hle)] at hy
      cases hy
  · intro hlt
    obtain ⟨k, hk⟩ : ∃ k, limit - a.length = k + 1 := ⟨limit - a.length - 1, by omega⟩
    refine ⟨x, List.mem_append_right _ ?_, hx⟩
    rw [hk, List.take_succ_cons]
    exact List.mem_cons_self

end Place

/-! ## Ranks

`row_number()` over the chosen rows in descending order of a key counts the rows above.
-/

section Rank

variable {K : Type} [LinearOrder K] (key : α → K) (p : α → Prop) [DecidablePred p]

/-- How many of the chosen rows have a greater key. -/
def above (rows : List α) (row : α) : ℕ := rows.countP fun other => p other ∧ key row < key other

variable {key p} {rows : List α} {row bound : α}

theorem above_getElem {rows : List α} (h : rows.Pairwise fun a b => key b < key a) (i : ℕ)
    (hi : i < rows.length) : (rows.countP fun other => key rows[i] < key other) = i := by
  induction rows generalizing i with
  | nil => cases hi
  | cons row rows ih =>
    obtain ⟨hfirst, hrest⟩ := List.pairwise_cons.mp h
    cases i with
    | zero =>
      apply List.countP_eq_zero.mpr
      intro other hother
      rcases List.mem_cons.mp hother with rfl | hother
      · simp
      · simpa using (hfirst other hother).le
    | succ i =>
      have hlt : i < rows.length := Nat.lt_of_succ_lt_succ hi
      have hhead : key rows[i] < key row := hfirst _ (List.getElem_mem hlt)
      rw [List.getElem_cons_succ, List.countP_cons_of_pos (by simpa using hhead), ih hrest i hlt]

/-- Where keys are distinct, every rank up to the number of chosen rows is taken. -/
theorem exists_above_eq (hkeys : (rows.map key).Nodup) {i : ℕ} (hi : i < rows.countP p) :
    ∃ row ∈ rows, p row ∧ above key p rows row = i := by
  let chosen := rows.filter fun row => p row
  let sorted := chosen.insertionSort fun a b => key b ≤ key a
  have hperm : sorted.Perm chosen := List.perm_insertionSort _ _
  have hdescending : sorted.Pairwise fun a b => key b < key a := by
    have hle : sorted.Pairwise fun a b => key b ≤ key a :=
      List.pairwise_insertionSort (fun a b => key b ≤ key a) chosen
    have hnodup : (sorted.map key).Nodup :=
      (hperm.map key).nodup_iff.mpr ((List.filter_sublist.map key).nodup hkeys)
    have hne : sorted.Pairwise fun a b => key a ≠ key b := List.pairwise_map.mp hnodup
    exact (hle.and hne).imp fun h => lt_of_le_of_ne h.1 (Ne.symm h.2)
  have hlt : i < sorted.length := by
    rw [hperm.length_eq, ← List.countP_eq_length_filter]
    exact hi
  have hmem : sorted[i] ∈ chosen := hperm.mem_iff.mp (List.getElem_mem hlt)
  obtain ⟨hrow, hp⟩ := List.mem_filter.mp hmem
  refine ⟨sorted[i], hrow, by simpa using hp, ?_⟩
  calc above key p rows sorted[i]
      = chosen.countP fun other => key sorted[i] < key other := by
        rw [above, List.countP_filter]
        exact List.countP_congr fun other _ => by simp [and_comm]
    _ = sorted.countP fun other => key sorted[i] < key other := (hperm.countP_eq _).symm
    _ = i := above_getElem hdescending i hlt

/-- A row is above none of itself, so fewer rows than all are above a chosen one. -/
theorem above_lt_countP (hrow : row ∈ rows) (hp : p row) : above key p rows row < rows.countP p := by
  induction rows with
  | nil => cases hrow
  | cons other rows ih =>
    have hle : above key p rows row ≤ rows.countP p :=
      List.countP_mono_left fun other _ h => by simpa using (of_decide_eq_true h).1
    rcases List.mem_cons.mp hrow with rfl | hrow
    · rw [List.countP_cons_of_pos (by simpa using hp), above,
        List.countP_cons_of_neg (by simp)]
      exact Nat.lt_succ_of_le hle
    · have hlt := ih hrow
      unfold above at hlt ⊢
      by_cases hother : p other
      · rw [List.countP_cons_of_pos (p := fun other => decide (p other)) (by simpa using hother)]
        by_cases hkey : key row < key other
        · rw [List.countP_cons_of_pos (by simpa using ⟨hother, hkey⟩)]
          omega
        · rw [List.countP_cons_of_neg (by simp [hkey])]
          omega
      · rw [List.countP_cons_of_neg (by simp [hother]), List.countP_cons_of_neg (by simp [hother])]
        exact hlt

theorem above_lt_above {other : α} (hother : other ∈ rows) (hp : p other)
    (h : key row < key other) : above key p rows other < above key p rows row := by
  have hlt : above key (fun x => p x ∧ key row < key x) rows other < _ :=
    above_lt_countP hother (show p other ∧ key row < key other from ⟨hp, h⟩)
  have heq : above key (fun x => p x ∧ key row < key x) rows other = above key p rows other := by
    apply List.countP_congr
    intro x _
    simp only [decide_eq_true_eq]
    exact ⟨fun hx => ⟨hx.1.1, hx.2⟩, fun hx => ⟨⟨hx.1, h.trans hx.2⟩, hx.2⟩⟩
  rw [heq] at hlt
  exact hlt

/-- A row that has enough rows above it keeps them when one is taken out that has as many itself. -/
theorem le_above_of_removed {q : α → Prop} [DecidablePred q] {removed : α} {n : ℕ}
    (hq : ∀ other ∈ rows, p other → other ≠ removed → q other)
    (hremoved : p removed → n ≤ above key p rows removed) (h : n ≤ above key p rows row) :
    n ≤ above key q rows row := by
  by_cases hcounted : p removed ∧ key row < key removed
  · apply (hremoved hcounted.1).trans
    apply List.countP_mono_left
    intro other hother habove
    obtain ⟨hp, hlt⟩ := of_decide_eq_true habove
    exact decide_eq_true ⟨hq other hother hp fun heq => (heq ▸ hlt).false, hcounted.2.trans hlt⟩
  · apply h.trans
    apply List.countP_mono_left
    intro other hother habove
    obtain ⟨hp, hlt⟩ := of_decide_eq_true habove
    exact decide_eq_true ⟨hq other hother hp fun heq => hcounted (heq ▸ ⟨hp, hlt⟩), hlt⟩

/-- The chosen rows are those from a bound on, and those below it. -/
theorem countP_eq_add (key : α → K) (p : α → Prop) [DecidablePred p] (rows : List α) (bound : α) :
    rows.countP p = (rows.countP fun other => p other ∧ key bound ≤ key other) +
      rows.countP fun other => p other ∧ key other < key bound := by
  induction rows with
  | nil => rfl
  | cons other rows ih =>
    simp only [List.countP_cons, ih]
    by_cases hp : p other
    · rcases lt_or_ge (key other) (key bound) with hlt | hge
      · simp [hp, hlt, not_le.mpr hlt, Nat.add_assoc]
      · simp [hp, hge, not_lt.mpr hge, Nat.add_right_comm]
    · simp [hp]

/-- The rows above a row are those from a bound on, and those between the two. -/
theorem above_eq_add (hbound : key row < key bound) : above key p rows row =
    (rows.countP fun other => p other ∧ key bound ≤ key other) +
      above key (fun other => p other ∧ key other < key bound) rows row := by
  rw [above, countP_eq_add key _ rows bound]
  congr 1
  · apply List.countP_congr
    intro other _
    simp only [decide_eq_true_eq]
    exact ⟨fun h => ⟨h.1.1, h.2⟩, fun h => ⟨⟨h.1, hbound.trans_le h.2⟩, h.2⟩⟩
  · apply List.countP_congr
    intro other _
    simp only [decide_eq_true_eq]
    exact ⟨fun h => ⟨⟨h.1.1, h.2⟩, h.1.2⟩, fun h => ⟨⟨h.1.1, h.2⟩, h.1.2⟩⟩

end Rank

end LumenHorizon.Foundation.Table
