import Mathlib.Tactic

/-! # Fixed windows

A counter of arrivals in windows of a fixed width. A window is opened by the first arrival after
the end of the one before it, so windows are at least their width apart but follow no grid. An
arrival is within its quota while the count of its window, itself included, does not exceed it.
-/

namespace LumenHorizon.Foundation.FixedWindow

structure Window where
  startedAt : ℕ
  count : ℕ
deriving DecidableEq, Repr

/-- No window is open at this time. -/
def Closed (width now : ℕ) (window : Option Window) : Prop :=
  ∀ w, window = some w → w.startedAt + width ≤ now

/-- The window that an arrival is counted in. -/
def arrive (width now : ℕ) : Option Window → Window
  | none => ⟨now, 1⟩
  | some w => if w.startedAt + width ≤ now then ⟨now, 1⟩ else ⟨w.startedAt, w.count + 1⟩

/-- An arrival with its window before and after it. -/
structure Arrival where
  now : ℕ
  before : Option Window
  after : Window
deriving DecidableEq, Repr

def arrivals (width : ℕ) : Option Window → List ℕ → List Arrival
  | _, [] => []
  | window, now :: times =>
    ⟨now, window, arrive width now window⟩ ::
      arrivals width (some (arrive width now window)) times

section Arrive

variable {width now : ℕ} {window : Option Window} {w : Window}

theorem arrive_of_closed (h : Closed width now window) : arrive width now window = ⟨now, 1⟩ := by
  cases window with
  | none => rfl
  | some w => simp [arrive, h w rfl]

theorem arrive_of_open (h : now < w.startedAt + width) :
    arrive width now (some w) = ⟨w.startedAt, w.count + 1⟩ := by
  simp [arrive, h]

theorem closed_some_iff : Closed width now (some w) ↔ w.startedAt + width ≤ now := by
  simp [Closed]

/-- An arrival leaves the window where it is unless the window was over. -/
theorem arrive_startedAt_of_not_closed (h : ¬ Closed width now window) :
    ∃ w, window = some w ∧ (arrive width now window).startedAt = w.startedAt := by
  cases window with
  | none => simp [Closed] at h
  | some w =>
    rw [closed_some_iff, not_le] at h
    exact ⟨w, rfl, by rw [arrive_of_open h]⟩

/-- An arrival is counted in a window that is not over. -/
theorem lt_startedAt_arrive_add (hwidth : 0 < width) :
    now < (arrive width now window).startedAt + width := by
  by_cases hclosed : Closed width now window
  · rw [arrive_of_closed hclosed]
    exact Nat.lt_add_of_pos_right hwidth
  · cases window with
    | none => simp [Closed] at hclosed
    | some w =>
      rw [closed_some_iff, not_le] at hclosed
      rwa [arrive_of_open hclosed]

theorem one_le_count_arrive : 1 ≤ (arrive width now window).count := by
  by_cases hclosed : Closed width now window
  · rw [arrive_of_closed hclosed]
  · cases window with
    | none => simp [Closed] at hclosed
    | some w =>
      rw [closed_some_iff, not_le] at hclosed
      rw [arrive_of_open hclosed]
      exact Nat.le_add_left 1 w.count

end Arrive

/-- The arrivals within their quota in the window that was opened at `start`. -/
def inWindow (quota start : ℕ) (arrival : Arrival) : Bool :=
  arrival.after.startedAt = start ∧ arrival.after.count ≤ quota

/-- The arrivals within their quota between two times, both included. -/
def inInterval (quota from' until' : ℕ) (arrival : Arrival) : Bool :=
  from' ≤ arrival.now ∧ arrival.now ≤ until' ∧ arrival.after.count ≤ quota

section Quota

variable {width quota : ℕ}

theorem startedAt_arrive_le {now : ℕ} {window : Option Window}
    (h : ∀ w, window = some w → w.startedAt ≤ now) : (arrive width now window).startedAt ≤ now := by
  by_cases hclosed : Closed width now window
  · rw [arrive_of_closed hclosed]
  · obtain ⟨w, hw, hstart⟩ := arrive_startedAt_of_not_closed hclosed
    rw [hstart]
    exact h w hw

/-- A potential of the open window that pays for each arrival counted bounds how many there are. -/
theorem length_filter_arrivals_le {counts : Arrival → Bool} (potential : Window → ℕ)
    (hstep : ∀ w now, w.startedAt ≤ now →
      (if counts ⟨now, some w, arrive width now (some w)⟩ then 1 else 0) +
        potential (arrive width now (some w)) ≤ potential w)
    {times : List ℕ} (hsorted : times.Pairwise (· ≤ ·)) {w : Window}
    (hafter : ∀ now ∈ times, w.startedAt ≤ now) :
    ((arrivals width (some w) times).filter counts).length ≤ potential w := by
  induction times generalizing w with
  | nil => simp [arrivals]
  | cons now times ih =>
    have hnow : w.startedAt ≤ now := hafter now List.mem_cons_self
    have hlater : ∀ later ∈ times, (arrive width now (some w)).startedAt ≤ later := by
      intro later hmem
      calc (arrive width now (some w)).startedAt
        _ ≤ now := startedAt_arrive_le (by rintro _ ⟨⟩; exact hnow)
        _ ≤ later := (List.pairwise_cons.mp hsorted).1 later hmem
    have hrest := ih (List.pairwise_cons.mp hsorted).2 hlater
    have hpaid := hstep w now hnow
    by_cases hcounts : counts ⟨now, some w, arrive width now (some w)⟩ = true
    · rw [if_pos hcounts] at hpaid
      rw [arrivals, List.filter_cons_of_pos hcounts, List.length_cons]
      omega
    · rw [if_neg hcounts] at hpaid
      rw [arrivals, List.filter_cons_of_neg hcounts]
      omega

theorem length_filter_arrivals_none_le {counts : Arrival → Bool} (potential : Window → ℕ)
    {bound : ℕ} (hstep : ∀ w now, w.startedAt ≤ now →
      (if counts ⟨now, some w, arrive width now (some w)⟩ then 1 else 0) +
        potential (arrive width now (some w)) ≤ potential w)
    (hfirst : ∀ now, (if counts ⟨now, none, ⟨now, 1⟩⟩ then 1 else 0) + potential ⟨now, 1⟩ ≤ bound)
    {times : List ℕ} (hsorted : times.Pairwise (· ≤ ·)) :
    ((arrivals width none times).filter counts).length ≤ bound := by
  cases times with
  | nil => simp [arrivals]
  | cons now times =>
    have hrest := length_filter_arrivals_le potential hstep (List.pairwise_cons.mp hsorted).2
      (w := ⟨now, 1⟩) (List.pairwise_cons.mp hsorted).1
    have hpaid := hfirst now
    by_cases hcounts : counts ⟨now, none, ⟨now, 1⟩⟩ = true
    · rw [if_pos hcounts] at hpaid
      rw [arrivals, arrive, List.filter_cons_of_pos hcounts, List.length_cons]
      omega
    · rw [if_neg hcounts] at hpaid
      rw [arrivals, arrive, List.filter_cons_of_neg hcounts]
      omega

/-- What is left of the quota of the window opened at `start`. -/
def room (quota start : ℕ) (w : Window) : ℕ :=
  if start < w.startedAt then 0 else if start = w.startedAt then quota - w.count else quota

/-- No window takes more arrivals than its quota. -/
theorem length_inWindow_le (hwidth : 0 < width) (start : ℕ) {times : List ℕ}
    (hsorted : times.Pairwise (· ≤ ·)) :
    ((arrivals width none times).filter (inWindow quota start)).length ≤ quota := by
  apply length_filter_arrivals_none_le (room quota start) _ _ hsorted
  · intro w now hnow
    by_cases hover : w.startedAt + width ≤ now
    · rw [arrive_of_closed (closed_some_iff.mpr hover)]
      simp only [inWindow, room, decide_eq_true_eq]
      split_ifs <;> omega
    · rw [arrive_of_open (not_le.mp hover)]
      simp only [inWindow, room, decide_eq_true_eq]
      split_ifs <;> omega
  · intro now
    simp only [inWindow, room, decide_eq_true_eq]
    split_ifs <;> omega

/-- What is left of two quotas between `from'` and `from' + width`: the window open at `from'` and
the one opened after it may both take theirs, and a third would be opened too late. -/
def span (quota width from' : ℕ) (w : Window) : ℕ :=
  if from' + width < w.startedAt then 0
  else if from' < w.startedAt then quota - w.count
  else if from' < w.startedAt + width then quota - w.count + quota
  else 2 * quota

/-- No interval as wide as a window takes more arrivals than two quotas, wherever it begins. -/
theorem length_inInterval_le (hwidth : 0 < width) (from' : ℕ) {times : List ℕ}
    (hsorted : times.Pairwise (· ≤ ·)) :
    ((arrivals width none times).filter (inInterval quota from' (from' + width))).length ≤
      2 * quota := by
  apply length_filter_arrivals_none_le (span quota width from') _ _ hsorted
  · intro w now hnow
    by_cases hover : w.startedAt + width ≤ now
    · rw [arrive_of_closed (closed_some_iff.mpr hover)]
      simp only [inInterval, span, decide_eq_true_eq]
      split_ifs <;> omega
    · rw [arrive_of_open (not_le.mp hover)]
      simp only [inInterval, span, decide_eq_true_eq]
      split_ifs <;> omega
  · intro now
    simp only [inInterval, span, decide_eq_true_eq]
    split_ifs <;> omega

end Quota

end LumenHorizon.Foundation.FixedWindow
