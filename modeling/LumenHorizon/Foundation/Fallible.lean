import Mathlib.Tactic

/-! # Fallible computations and loops that collect their results

`Except` stands for a function that returns early with `?`. A loop that pushes one entry
for each element succeeds exactly when every element's step does.
-/

namespace LumenHorizon.Foundation

variable {ε α β γ : Type}

theorem ok_bind (a : α) (f : α → Except ε β) : (Except.ok a >>= f) = f a := rfl

theorem error_bind (e : ε) (f : α → Except ε β) : (Except.error e >>= f) = .error e := rfl

theorem bind_eq_ok_iff {x : Except ε α} {f : α → Except ε β} {b : β} :
    (x >>= f) = .ok b ↔ ∃ a, x = .ok a ∧ f a = .ok b := by
  cases x with
  | error e => simp [bind, Except.bind]
  | ok a => simp [bind, Except.bind]

theorem mapError_eq_ok_iff {γ : Type*} {x : Except ε α} {f : ε → γ} {a : α} :
    x.mapError f = .ok a ↔ x = .ok a := by
  cases x <;> simp [Except.mapError]

theorem bind_eq_error_iff {x : Except ε α} {f : α → Except ε β} {e : ε} :
    (x >>= f) = .error e ↔ x = .error e ∨ ∃ a, x = .ok a ∧ f a = .error e := by
  cases x with
  | error e' => simp [bind, Except.bind]
  | ok a => simp [bind, Except.bind]

theorem eq_ok_or_eq_error (x : Except ε α) : (∃ a, x = .ok a) ∨ ∃ e, x = .error e := by
  cases x with
  | error e => exact .inr ⟨e, rfl⟩
  | ok a => exact .inl ⟨a, rfl⟩

/-- `for a in items { let b = step(a)?; entries.push(entry(entries.len(), a, b)); }` -/
def pushLoop (step : α → Except ε β) (entry : ℕ → α → β → γ) (entries : List γ) :
    List α → Except ε (List γ)
  | [] => .ok entries
  | a :: items => do
    let b ← step a
    pushLoop step entry (entries ++ [entry entries.length a b]) items

theorem pushLoop_isOk_iff (step : α → Except ε β) (entry : ℕ → α → β → γ) (entries : List γ)
    (items : List α) :
    (∃ out, pushLoop step entry entries items = .ok out) ↔ ∀ a ∈ items, ∃ b, step a = .ok b := by
  induction items generalizing entries with
  | nil => simp [pushLoop]
  | cons a items ih =>
    simp only [pushLoop, bind_eq_ok_iff, List.forall_mem_cons]
    constructor
    · rintro ⟨out, b, hb, hout⟩
      exact ⟨⟨b, hb⟩, (ih _).mp ⟨out, hout⟩⟩
    · rintro ⟨⟨b, hb⟩, hrest⟩
      obtain ⟨out, hout⟩ := (ih (entries ++ [entry entries.length a b])).mpr hrest
      exact ⟨out, b, hb, hout⟩

theorem pushLoop_map {step : α → Except ε β} {entry : ℕ → α → β → γ} {item : γ → α}
    (hitem : ∀ n a b, item (entry n a b) = a) {entries out : List γ} {items : List α}
    (h : pushLoop step entry entries items = .ok out) :
    out.map item = entries.map item ++ items := by
  induction items generalizing entries with
  | nil =>
    obtain rfl : entries = out := by simpa [pushLoop] using h
    simp
  | cons a items ih =>
    obtain ⟨b, -, hrest⟩ := bind_eq_ok_iff.mp h
    rw [ih hrest]
    simp [hitem]

theorem pushLoop_image {κ : Type} {step : α → Except ε β} {entry : ℕ → α → β → γ} {item : γ → κ}
    {key : α → κ} (hitem : ∀ n a b, step a = .ok b → item (entry n a b) = key a)
    {entries out : List γ} {items : List α} (h : pushLoop step entry entries items = .ok out) :
    out.map item = entries.map item ++ items.map key := by
  induction items generalizing entries with
  | nil =>
    obtain rfl : entries = out := by simpa [pushLoop] using h
    simp
  | cons a items ih =>
    obtain ⟨b, hb, hrest⟩ := bind_eq_ok_iff.mp h
    rw [ih hrest]
    simp [hitem _ _ _ hb]

theorem pushLoop_index {step : α → Except ε β} {entry : ℕ → α → β → γ} {index : γ → ℕ}
    (hindex : ∀ n a b, index (entry n a b) = n) {entries out : List γ} {items : List α}
    (h : pushLoop step entry entries items = .ok out) :
    out.map index = entries.map index ++ List.range' entries.length items.length := by
  induction items generalizing entries with
  | nil =>
    obtain rfl : entries = out := by simpa [pushLoop] using h
    simp
  | cons a items ih =>
    obtain ⟨b, -, hrest⟩ := bind_eq_ok_iff.mp h
    rw [ih hrest]
    simp [hindex, List.range'_succ]

theorem pushLoop_prefix {step : α → Except ε β} {entry : ℕ → α → β → γ} {entries out : List γ}
    {items : List α} (h : pushLoop step entry entries items = .ok out) : entries <+: out := by
  induction items generalizing entries with
  | nil =>
    obtain rfl : entries = out := by simpa [pushLoop] using h
    exact List.prefix_rfl
  | cons a items ih =>
    obtain ⟨b, -, hrest⟩ := bind_eq_ok_iff.mp h
    exact (List.prefix_append entries _).trans (ih hrest)

/-- The entry of item `k` comes from a successful step at item `k`. -/
theorem pushLoop_getElem? {step : α → Except ε β} {entry : ℕ → α → β → γ} {entries out : List γ}
    {items : List α} (h : pushLoop step entry entries items = .ok out) {k : ℕ} {a : α}
    (hk : items[k]? = some a) :
    ∃ b, step a = .ok b ∧
      out[entries.length + k]? = some (entry (entries.length + k) a b) := by
  induction items generalizing entries k with
  | nil => simp at hk
  | cons head items ih =>
    obtain ⟨b, hb, hrest⟩ := bind_eq_ok_iff.mp h
    cases k with
    | zero =>
      obtain rfl : head = a := by simpa using hk
      refine ⟨b, hb, ?_⟩
      obtain ⟨rest, rfl⟩ := pushLoop_prefix hrest
      simp
    | succ k =>
      obtain ⟨c, hc, hout⟩ := ih hrest (by simpa using hk)
      have hlength : (entries ++ [entry entries.length head b]).length + k =
          entries.length + (k + 1) := by
        simp only [List.length_append, List.length_cons, List.length_nil]
        omega
      rw [hlength] at hout
      exact ⟨c, hc, hout⟩

/-- A loop whose entries do not depend on their place succeeds with one entry for each item. -/
theorem pushLoop_eq_ok_iff {step : α → Except ε β} {f : α → β → γ} {entries out : List γ}
    {items : List α} :
    pushLoop step (fun _ => f) entries items = .ok out ↔
      ∃ results, List.Forall₂ (fun a b => step a = .ok b) items results ∧
        out = entries ++ (items.zip results).map fun pair => f pair.1 pair.2 := by
  induction items generalizing entries with
  | nil => simp [pushLoop, eq_comm]
  | cons a items ih =>
    simp only [pushLoop, bind_eq_ok_iff, ih, List.forall₂_cons_left_iff]
    constructor
    · rintro ⟨b, hb, results, hresults, rfl⟩
      exact ⟨b :: results, ⟨b, results, hb, hresults, rfl⟩, by simp⟩
    · rintro ⟨_, ⟨b, results, hb, hresults, rfl⟩, rfl⟩
      exact ⟨b, hb, results, hresults, by simp⟩

theorem pushLoop_results_iff {step : α → Except ε β} {items : List α} {out : List β} :
    pushLoop step (fun _ _ result => result) [] items = .ok out ↔
      List.Forall₂ (fun a b => step a = .ok b) items out := by
  have hsnd {results : List β} (hlength : results.length ≤ items.length) :
      (items.zip results).map (fun pair => pair.2) = results := List.map_snd_zip hlength
  rw [pushLoop_eq_ok_iff]
  constructor
  · rintro ⟨results, hresults, rfl⟩
    rwa [List.nil_append, hsnd hresults.length_eq.ge]
  · intro h
    exact ⟨out, h, by rw [List.nil_append, hsnd h.length_eq.ge]⟩

/-- Lists whose entries are pairwise related count as many. -/
theorem countP_eq_of_forall₂ {R : α → β → Prop} {p : α → Bool} {q : β → Bool} {as : List α}
    {bs : List β} (h : List.Forall₂ R as bs)
    (hpq : ∀ a b, R a b → (p a = true ↔ q b = true)) :
    as.countP p = bs.countP q := by
  induction h with
  | nil => rfl
  | cons hab _ ih => rw [List.countP_cons, List.countP_cons, ih, Bool.eq_iff_iff.mpr (hpq _ _ hab)]

/-- A stronger condition counts as many if nothing that meets the weaker one fails it. -/
theorem countP_eq_countP_iff {p q : α → Bool} {items : List α} (himp : ∀ a, q a = true → p a = true) :
    items.countP q = items.countP p ↔ ∀ a ∈ items, p a = true → q a = true := by
  induction items with
  | nil => simp
  | cons a items ih =>
    have hle : items.countP q ≤ items.countP p := List.countP_mono_left fun a _ => himp a
    rw [List.countP_cons, List.countP_cons, List.forall_mem_cons, ← ih]
    by_cases hq : q a = true
    · simp [hq, himp a hq]
    · by_cases hp : p a = true
      · simp only [hp, hq, if_true, Bool.false_eq_true, if_false]
        simp only [true_implies, false_and, iff_false]
        omega
      · simp [hp, hq]

/-- A list built row by row from rows of one length is addressed by row and column. -/
theorem getElem?_flatMap_row {f : α → List β} {rows : List α} {width j i : ℕ} {a : α}
    (hwidth : ∀ a ∈ rows, (f a).length = width) (hj : rows[j]? = some a) (hi : i < width) :
    (rows.flatMap f)[j * width + i]? = (f a)[i]? := by
  induction rows generalizing j with
  | nil => simp at hj
  | cons row rows ih =>
    have hrow := hwidth row List.mem_cons_self
    rw [List.flatMap_cons]
    cases j with
    | zero =>
      obtain rfl : row = a := by simpa using hj
      rw [zero_mul, zero_add, List.getElem?_append_left (by omega)]
    | succ j =>
      have hrest := ih (fun b hb => hwidth b (List.mem_cons_of_mem row hb)) (by simpa using hj)
      rw [List.getElem?_append_right (by rw [hrow]; nlinarith), ← hrest, hrow]
      congr 1
      rw [Nat.succ_mul]
      omega

end LumenHorizon.Foundation
