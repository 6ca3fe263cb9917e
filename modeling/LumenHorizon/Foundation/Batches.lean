import Mathlib.Algebra.Order.Floor.Div
import LumenHorizon.Foundation.Table

/-! # Service in batches

Entries are served in rounds of at most a batch. A round that leaves an entry waiting has a whole
batch of work behind it, so an entry waits for as many rounds as the work there is fills batches,
whatever becomes of the work in each of them.
-/

namespace LumenHorizon.Foundation

theorem served_within (waiting served : ℕ → Prop) (work : ℕ → ℕ) {batch start rounds : ℕ}
    (hstart : waiting start)
    (hround : ∀ r, waiting r → ¬ served r → waiting (r + 1) ∧ work (r + 1) + batch ≤ work r)
    (hwork : ∀ r, waiting r → 0 < work r) (hrounds : work start ≤ batch * rounds) :
    ∃ r, start ≤ r ∧ r < start + rounds ∧ served r := by
  by_contra hnever
  have hwaits : ∀ k ≤ rounds, waiting (start + k) ∧ work (start + k) + batch * k ≤ work start := by
    intro k
    induction k with
    | zero => exact fun _ => ⟨hstart, le_rfl⟩
    | succ k ih =>
      intro hk
      obtain ⟨hwaiting, hleft⟩ := ih (Nat.le_of_succ_le hk)
      have hunserved : ¬ served (start + k) := fun h => hnever ⟨start + k, by omega, by omega, h⟩
      obtain ⟨hnext, hdrop⟩ := hround (start + k) hwaiting hunserved
      refine ⟨hnext, ?_⟩
      rw [Nat.mul_succ, ← Nat.add_assoc start k 1]
      omega
  obtain ⟨hwaiting, hleft⟩ := hwaits rounds le_rfl
  have hpos := hwork _ hwaiting
  omega

section Order

variable {X K : Type} [LinearOrder K] {key : X → K} {done : ℕ → X → Prop}

theorem exists_forall_done (hkeeps : ∀ n x, done n x → done (n + 1) x) {l : List X}
    (h : ∀ x ∈ l, ∃ n, done n x) : ∃ n, ∀ x ∈ l, done n x := by
  have hlater {n m : ℕ} (hle : n ≤ m) {x : X} (hx : done n x) : done m x :=
    Nat.le_induction hx (fun k _ => hkeeps k x) m hle
  induction l with
  | nil => exact ⟨0, fun _ h => absurd h List.not_mem_nil⟩
  | cons x l ih =>
    obtain ⟨n, hn⟩ := h x List.mem_cons_self
    obtain ⟨m, hm⟩ := ih fun y hy => h y (List.mem_cons_of_mem _ hy)
    refine ⟨max n m, List.forall_mem_cons.mpr ⟨hlater (le_max_left n m) hn, fun y hy => ?_⟩⟩
    exact hlater (le_max_right n m) (hm y hy)

variable (key) (done) in
/-- If each entry is done some time after all entries before it are, all are done in the end. -/
theorem exists_done (hkeeps : ∀ n x, done n x → done (n + 1) x) {l : List X}
    (hnext : ∀ x ∈ l, ∀ n, (∀ y ∈ l, key y < key x → done n y) → ∃ m, done m x) :
    ∀ x ∈ l, ∃ n, done n x := by
  classical
  by_contra hnever
  have hne : (l.toFinset.filter fun x => ¬ ∃ n, done n x).Nonempty := by
    push Not at hnever
    obtain ⟨x, hx, hnot⟩ := hnever
    exact ⟨x, Finset.mem_filter.mpr ⟨List.mem_toFinset.mpr hx, not_exists.mpr hnot⟩⟩
  -- the first entry that is never done has all those before it done
  obtain ⟨x, hx, hfirst⟩ := Finset.exists_min_image _ key hne
  obtain ⟨hmem, hnot⟩ := Finset.mem_filter.mp hx
  have hbefore : ∀ y ∈ l.filter fun y => key y < key x, ∃ n, done n y := by
    intro y hy
    obtain ⟨hyl, hlt⟩ := List.mem_filter.mp hy
    by_contra hundone
    have hle := hfirst y (Finset.mem_filter.mpr ⟨List.mem_toFinset.mpr hyl, hundone⟩)
    exact absurd (of_decide_eq_true hlt) (not_lt.mpr hle)
  obtain ⟨n, hn⟩ := exists_forall_done hkeeps hbefore
  apply hnot
  apply hnext x (List.mem_toFinset.mp hmem) n
  exact fun y hy hlt => hn y (List.mem_filter.mpr ⟨hy, decide_eq_true hlt⟩)

end Order

section Turns

variable {X S : Type} {turn : X → S → S → Prop}

/-- The entries of a batch have their turns in order. -/
inductive Turns (turn : X → S → S → Prop) : List X → S → S → Prop
  | done (s : S) : Turns turn [] s s
  | next {x : X} {xs : List X} {s s' s'' : S} (hturn : turn x s s') (hrest : Turns turn xs s' s'') :
      Turns turn (x :: xs) s s''

variable {x : X} {xs : List X} {s s' : S}

/-- What each turn carries on to the entries after it holds of none at the end. -/
theorem Turns.keeps (h : Turns turn xs s s') (inv : List X → S → Prop)
    (hturn : ∀ x xs s s', turn x s s' → inv (x :: xs) s → inv xs s') (hinv : inv xs s) :
    inv [] s' := by
  induction h with
  | done s => exact hinv
  | next hfirst _ ih => exact ih (hturn _ _ _ _ hfirst hinv)

theorem Turns.invariant (h : Turns turn xs s s') (inv : S → Prop)
    (hturn : ∀ x ∈ xs, ∀ s s', turn x s s' → inv s → inv s') (hinv : inv s) : inv s' := by
  induction h with
  | done s => exact hinv
  | next hfirst _ ih =>
    apply ih fun x hx => hturn x (List.mem_cons_of_mem _ hx)
    exact hturn _ List.mem_cons_self _ _ hfirst hinv

/-- What an entry's turn brings about and the later turns keep. -/
theorem Turns.reached (h : Turns turn xs s s') (hx : x ∈ xs) (mark : S → Prop)
    (hown : ∀ s s', turn x s s' → mark s')
    (hlater : ∀ y s s', turn y s s' → mark s → mark s') : mark s' := by
  induction h with
  | done s => cases hx
  | next hfirst hrest ih =>
    rcases List.mem_cons.mp hx with rfl | hx
    · exact hrest.invariant mark (fun y _ => hlater y) (hown _ _ hfirst)
    · exact ih hx

/-- Entries that are ready take their share of the work each, if a turn leaves the others ready. -/
theorem Turns.work (h : Turns turn xs s s') (keep : S → Prop) (ready : S → X → Prop) (work : S → ℕ)
    (cost : ℕ) {apart : X → X → Prop}
    (hturn : ∀ x s s', turn x s s' → keep s → ready s x →
      keep s' ∧ work s' + cost ≤ work s ∧ ∀ y, apart x y → ready s y → ready s' y)
    (hkeep : keep s) (hready : ∀ x ∈ xs, ready s x) (hapart : xs.Pairwise apart) :
    keep s' ∧ work s' + cost * xs.length ≤ work s := by
  induction h with
  | done s => exact ⟨hkeep, le_rfl⟩
  | @next first rest s _ _ hfirst _ ih =>
    obtain ⟨hhead, htail⟩ := List.pairwise_cons.mp hapart
    obtain ⟨hkeep', hwork, hothers⟩ :=
      hturn first s _ hfirst hkeep (hready first List.mem_cons_self)
    have hrest := ih hkeep' (fun y hy =>
      hothers y (hhead y hy) (hready y (List.mem_cons_of_mem _ hy))) htail
    refine ⟨hrest.1, ?_⟩
    rw [List.length_cons, Nat.mul_succ]
    omega

end Turns

/-- Rows that are each found again are no more than those that are found. -/
theorem countP_le_of_mem {α : Type} {p q : α → Prop} [DecidablePred p] [DecidablePred q]
    {l l' : List α} (hl : l.Nodup) (h : ∀ x ∈ l, p x → x ∈ l' ∧ q x) :
    (l.countP fun x => p x) ≤ l'.countP fun x => q x := by
  rw [List.countP_eq_length_filter, List.countP_eq_length_filter]
  apply List.Subperm.length_le
  apply List.subperm_of_subset (hl.filter _)
  intro x hx
  obtain ⟨hmem, hp⟩ := List.mem_filter.mp hx
  obtain ⟨hmem', hq⟩ := h x hmem (of_decide_eq_true hp)
  exact List.mem_filter.mpr ⟨hmem', decide_eq_true hq⟩

/-- In a list that goes up, the entries before the first that fails the test include an entry if
none up to it fails. -/
theorem mem_takeWhile_iff_of_lt {α K : Type} [LinearOrder K] {key : α → K} {l : List α}
    (h : l.Pairwise fun a b => key a < key b) {p : α → Bool} {x : α} :
    x ∈ l.takeWhile p ↔ x ∈ l ∧ ∀ y ∈ l, key y ≤ key x → p y = true := by
  induction l with
  | nil => simp
  | cons first l ih =>
    obtain ⟨hfirst, hrest⟩ := List.pairwise_cons.mp h
    by_cases hp : p first = true
    · rw [List.takeWhile_cons_of_pos hp, List.mem_cons, ih hrest, List.mem_cons,
        List.forall_mem_cons]
      constructor
      · rintro (rfl | ⟨hx, hpass⟩)
        · exact ⟨.inl rfl, fun _ => hp, fun y hy hle => absurd (hfirst y hy) (not_lt.mpr hle)⟩
        · exact ⟨.inr hx, fun _ => hp, hpass⟩
      · rintro ⟨rfl | hx, -, hpass⟩
        · exact .inl rfl
        · exact .inr ⟨hx, hpass⟩
    · rw [List.takeWhile_cons_of_neg hp]
      constructor
      · exact fun hx => absurd hx List.not_mem_nil
      · rintro ⟨hx, hpass⟩
        have hle : key first ≤ key x := by
          rcases List.mem_cons.mp hx with rfl | hx
          · exact le_rfl
          · exact (hfirst x hx).le
        exact absurd (hpass first List.mem_cons_self hle) hp

namespace Table

section Batch

variable {α : Type} {where' : α → Prop} [DecidablePred where'] {le : α → α → Prop}
  [DecidableRel le] {limit : ℕ} {rows : List α} {row : α}

theorem nodup_map_select {β : Type} {f : α → β} (h : (rows.map f).Nodup) :
    ((select where' le limit rows).map f).Nodup := by
  have hsorted : (((rows.filter fun row => where' row).insertionSort le).map f).Nodup := by
    apply ((List.perm_insertionSort _ _).map f).nodup_iff.mpr
    exact h.sublist (List.filter_sublist.map f)
  exact hsorted.sublist ((List.take_sublist _ _).map f)

/-- A row that is asked for and not returned waits behind a full batch. -/
theorem length_select_of_not_mem (hrow : row ∈ rows) (h : where' row)
    (hwaits : row ∉ select where' le limit rows) :
    (select where' le limit rows).length = limit := by
  rw [select, List.length_take, List.length_insertionSort]
  apply Nat.min_eq_left
  by_contra hshort
  exact hwaits (mem_select_of_le (not_le.mp hshort).le hrow h)

theorem le_of_mem_select [Std.Total le] [IsTrans α le] (hrow : row ∈ rows) (h : where' row)
    (hwaits : row ∉ select where' le limit rows) {other : α}
    (hother : other ∈ select where' le limit rows) : le other row := by
  have hsorted : ((rows.filter fun x => where' x).insertionSort le).Pairwise le :=
    List.pairwise_insertionSort le _
  have hmem : row ∈ (rows.filter fun x => where' x).insertionSort le := by
    rw [List.mem_insertionSort, List.mem_filter]
    exact ⟨hrow, decide_eq_true h⟩
  rw [← List.take_append_drop limit ((rows.filter fun x => where' x).insertionSort le)]
    at hsorted hmem
  rcases List.mem_append.mp hmem with hmem | hmem
  · exact absurd hmem hwaits
  · exact (List.pairwise_append.mp hsorted).2.2 other hother row hmem

end Batch

section Key

variable {α K : Type} [LinearOrder K] {key : α → K} {where' : α → Prop} [DecidablePred where']
  {limit : ℕ} {rows : List α} {row : α}

theorem select_congr {le le' : α → α → Prop} [DecidableRel le] [DecidableRel le']
    (h : ∀ a b, le a b ↔ le' a b) : select where' le limit rows = select where' le' limit rows := by
  have heq : le = le' := funext fun a => funext fun b => propext (h a b)
  subst heq
  congr!

theorem mem_select_iff_of_mem (hkeys : (rows.map key).Nodup) (hrow : row ∈ rows)
    (h : where' row) : row ∈ select where' (fun a b => key a ≤ key b) limit rows ↔
      (rows.countP fun other => where' other ∧ key other < key row) < limit := by
  have hasked : row ∈ rows.filter fun row => where' row :=
    List.mem_filter.mpr ⟨hrow, decide_eq_true h⟩
  obtain ⟨l₁, l₂, hsplit⟩ := List.append_of_mem hasked
  have hdistinct : ((l₁ ++ row :: l₂).map key).Nodup :=
    hsplit ▸ (List.filter_sublist.map key).nodup hkeys
  obtain ⟨hnot, -⟩ := List.nodup_cons.mp ((List.perm_middle.map key).nodup_iff.mp hdistinct)
  have hne : ∀ other ∈ l₁ ++ l₂, key other ≠ key row :=
    fun other hother heq => hnot (heq ▸ List.mem_map_of_mem hother)
  have hselected : (∃ y ∈ select where' (fun a b => key a ≤ key b) limit rows, y = row) ↔
      (l₁.countP fun c => key c ≤ key row) + (l₂.countP fun c => key c < key row) < limit :=
    exists_mem_select_iff hsplit rfl
      (fun y hy heq => hne y (List.mem_append_left _ hy) (congrArg key heq))
      (fun y hy heq => hne y (List.mem_append_right _ hy) (congrArg key heq))
  have hcount : (rows.countP fun other => where' other ∧ key other < key row) =
      (l₁.countP fun c => key c ≤ key row) + l₂.countP fun c => key c < key row := by
    have hfilter : (rows.countP fun other => where' other ∧ key other < key row) =
        (rows.filter fun other => where' other).countP fun other => key other < key row := by
      rw [List.countP_filter]
      exact List.countP_congr fun other _ => by simp [and_comm]
    rw [hfilter, hsplit, List.countP_append, List.countP_cons_of_neg (by simp)]
    congr 1
    apply List.countP_congr
    intro other hother
    have hother := hne other (List.mem_append_left _ hother)
    simp [le_iff_lt_or_eq, hother]
  rw [hcount, ← hselected]
  exact ⟨fun hmem => ⟨row, hmem, rfl⟩, fun ⟨_, hmem, heq⟩ => heq ▸ hmem⟩

/-- Where keys are distinct, a selected row is one with fewer rows than the limit before it. -/
theorem mem_select_iff (hkeys : (rows.map key).Nodup) :
    row ∈ select where' (fun a b => key a ≤ key b) limit rows ↔ row ∈ rows ∧ where' row ∧
      (rows.countP fun other => where' other ∧ key other < key row) < limit := by
  constructor
  · intro h
    obtain ⟨hrow, hasked⟩ := mem_of_mem_select h
    exact ⟨hrow, hasked, (mem_select_iff_of_mem hkeys hrow hasked).mp h⟩
  · exact fun ⟨hrow, hasked, hfew⟩ => (mem_select_iff_of_mem hkeys hrow hasked).mpr hfew

theorem select_pairwise_lt (hkeys : (rows.map key).Nodup) :
    (select where' (fun a b => key a ≤ key b) limit rows).Pairwise fun a b => key a < key b := by
  have hle : (select where' (fun a b => key a ≤ key b) limit rows).Pairwise
      fun a b => key a ≤ key b :=
    (List.pairwise_insertionSort (fun a b => key a ≤ key b) _).sublist (List.take_sublist _ _)
  have hne : (select where' (fun a b => key a ≤ key b) limit rows).Pairwise
      fun a b => key a ≠ key b := List.pairwise_map.mp (nodup_map_select hkeys)
  exact (hle.and hne).imp fun h => lt_of_le_of_ne h.1 h.2

/-- A row that is asked for is reached if those before it leave room for it and all of them, and
itself, pass the test. -/
theorem mem_takeWhile_select_iff (hkeys : (rows.map key).Nodup) {p : α → Bool} (hrow : row ∈ rows)
    (h : where' row) :
    row ∈ (select where' (fun a b => key a ≤ key b) limit rows).takeWhile p ↔
      (rows.countP fun other => where' other ∧ key other < key row) < limit ∧
        ∀ other ∈ rows, where' other → key other ≤ key row → p other = true := by
  rw [mem_takeWhile_iff_of_lt (select_pairwise_lt hkeys), mem_select_iff_of_mem hkeys hrow h]
  apply and_congr_right
  intro hfew
  constructor
  · intro hpass other hother hasked hle
    refine hpass other ((mem_select_iff hkeys).mpr ⟨hother, hasked, lt_of_le_of_lt ?_ hfew⟩) hle
    apply List.countP_mono_left
    intro earlier _ hearlier
    have hbefore := of_decide_eq_true hearlier
    exact decide_eq_true ⟨hbefore.1, hbefore.2.trans_le hle⟩
  · intro hpass other hother hle
    obtain ⟨hmem, hasked⟩ := mem_of_mem_select hother
    exact hpass other hmem hasked hle

end Key

section Counting

variable {α : Type} {where' : α → Prop} [DecidablePred where'] {set : α → α} {rows : List α}
  {p q : α → Prop} [DecidablePred p] [DecidablePred q]

theorem countP_update_le (h : ∀ row ∈ rows, p (if where' row then set row else row) → q row) :
    ((update where' set rows).countP fun row => p row) ≤ rows.countP fun row => q row := by
  rw [update, List.countP_map]
  apply List.countP_mono_left
  intro row hrow hp
  exact decide_eq_true (h row hrow (of_decide_eq_true hp))

theorem countP_update_lt (h : ∀ row ∈ rows, p (if where' row then set row else row) → q row)
    (hrow : ∃ row ∈ rows, q row ∧ ¬ p (if where' row then set row else row)) :
    ((update where' set rows).countP fun row => p row) < rows.countP fun row => q row := by
  obtain ⟨row, hmem, hq, hp⟩ := hrow
  obtain ⟨before, after, rfl⟩ := List.append_of_mem hmem
  have hsplit : update where' set (before ++ row :: after) = update where' set before ++
      (if where' row then set row else row) :: update where' set after := by simp [update]
  rw [hsplit, List.countP_append, List.countP_append, List.countP_cons_of_neg (by simpa using hp),
    List.countP_cons_of_pos (by simpa using hq)]
  have hbefore := countP_update_le fun row hrow => h row (List.mem_append_left _ hrow)
  have hafter := countP_update_le fun row hrow =>
    h row (List.mem_append_right _ (List.mem_cons_of_mem _ hrow))
  omega

end Counting

/-- An update that takes from every row it changes, and has one to take from. -/
theorem sum_update_add_le {α : Type} {where' : α → Prop} [DecidablePred where'] {set : α → α}
    {rows : List α} {f : α → ℕ} (hset : ∀ row, where' row → f (set row) ≤ f row - 1)
    (hrow : ∃ row ∈ rows, where' row ∧ 0 < f row) :
    ((update where' set rows).map f).sum + 1 ≤ (rows.map f).sum := by
  have hle : ∀ rows : List α, ((update where' set rows).map f).sum ≤ (rows.map f).sum := by
    intro rows
    rw [update, List.map_map]
    apply List.sum_le_sum
    intro row _
    by_cases h : where' row
    · simpa [h] using (hset row h).trans (Nat.sub_le _ _)
    · simp [h]
  induction rows with
  | nil =>
    obtain ⟨row, hrow, -⟩ := hrow
    cases hrow
  | cons first rows ih =>
    have hcons : update where' set (first :: rows) =
      (if where' first then set first else first) :: update where' set rows := rfl
    rw [hcons, List.map_cons, List.map_cons, List.sum_cons, List.sum_cons]
    obtain ⟨row, hmem, h, hpos⟩ := hrow
    rcases List.mem_cons.mp hmem with rfl | hmem
    · have hfirst := hset row h
      have hrest := hle rows
      rw [if_pos h]
      omega
    · have hrest := ih ⟨row, hmem, h, hpos⟩
      by_cases hfirst : where' first
      · have hchanged := hset first hfirst
        rw [if_pos hfirst]
        omega
      · rw [if_neg hfirst]
        omega

end Table
end LumenHorizon.Foundation
