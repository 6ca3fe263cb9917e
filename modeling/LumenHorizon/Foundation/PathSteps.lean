import Mathlib.Tactic

/-! # Steps of a path

A path is read step by step. A step goes on to a segment, stays where it is, or goes up; going up
leaves an empty segment, so that a path still ends with a separator. A segment that is fixed stays
where a step goes up from it.
-/

namespace LumenHorizon.Foundation

inductive PathStep (α : Type) where
  | stay
  | up
  | name (segment : α)
deriving DecidableEq, Repr

namespace PathStep

variable {α β : Type}

def map (f : α → β) : PathStep α → PathStep β
  | stay => stay
  | up => up
  | name a => name (f a)

section Walk

variable (empty : α) (fixed : α → Bool)

/-- The segments after one more step. -/
def take (segments : List α) : PathStep α → List α
  | stay => segments
  | up => if segments.getLast?.any fixed then segments ++ [empty] else segments.dropLast ++ [empty]
  | name a => segments ++ [a]

def walk (segments : List α) (steps : List (PathStep α)) : List α :=
  steps.foldl (take empty fixed) segments

/-- The same where a single empty segment is the root: it is not there behind a name. -/
def takeFromRoot [DecidableEq α] (segments : List α) : PathStep α → List α
  | name a => take empty fixed (if segments = [empty] then [] else segments) (name a)
  | step => take empty fixed segments step

def walkFromRoot [DecidableEq α] (segments : List α) (steps : List (PathStep α)) : List α :=
  steps.foldl (takeFromRoot empty fixed) segments

@[simp] theorem walk_nil (segments : List α) : walk empty fixed segments [] = segments := rfl

@[simp] theorem walk_cons (segments : List α) (step : PathStep α) (steps : List (PathStep α)) :
    walk empty fixed segments (step :: steps) =
      walk empty fixed (take empty fixed segments step) steps := rfl

@[simp] theorem walkFromRoot_cons [DecidableEq α] (segments : List α) (step : PathStep α)
    (steps : List (PathStep α)) : walkFromRoot empty fixed segments (step :: steps) =
      walkFromRoot empty fixed (takeFromRoot empty fixed segments step) steps := rfl

theorem take_up_cases (segments : List α) :
    take empty fixed segments up = segments ++ [empty] ∨
      take empty fixed segments up = segments.dropLast ++ [empty] := by
  by_cases h : segments.getLast?.any fixed = true
  · exact .inl (if_pos h)
  · exact .inr (if_neg h)

variable {empty fixed}

theorem walk_names (segments names : List α) :
    walk empty fixed segments (names.map name) = segments ++ names := by
  induction names generalizing segments with
  | nil => simp
  | cons a names ih =>
    rw [List.map_cons, walk_cons, ih]
    simp [take]

/-- What is at the end was there before, was left by going up, or is a name on the way. -/
theorem mem_walk {segments : List α} {steps : List (PathStep α)} {a : α}
    (h : a ∈ walk empty fixed segments steps) :
    a ∈ segments ∨ a = empty ∨ name a ∈ steps := by
  induction steps generalizing segments with
  | nil => exact .inl h
  | cons step steps ih =>
    rcases ih h with hmem | rfl | hname
    · cases step with
      | stay => exact .inl hmem
      | name b =>
        rcases List.mem_append.mp hmem with hmem | hmem
        · exact .inl hmem
        · rw [List.mem_singleton.mp hmem]
          exact .inr (.inr List.mem_cons_self)
      | up =>
        rcases take_up_cases empty fixed segments with hup | hup
        · rw [hup] at hmem
          rcases List.mem_append.mp hmem with hmem | hmem
          · exact .inl hmem
          · exact .inr (.inl (List.mem_singleton.mp hmem))
        · rw [hup] at hmem
          rcases List.mem_append.mp hmem with hmem | hmem
          · exact .inl (List.mem_of_mem_dropLast hmem)
          · exact .inr (.inl (List.mem_singleton.mp hmem))
    · exact .inr (.inl rfl)
    · exact .inr (.inr (List.mem_cons_of_mem _ hname))

theorem length_le_take {segments : List α} (h : segments ≠ []) (step : PathStep α) :
    segments.length ≤ (take empty fixed segments step).length := by
  have hpos : 0 < segments.length := List.length_pos_iff.mpr h
  cases step with
  | stay => exact le_rfl
  | name a => simp [take]
  | up =>
    rcases take_up_cases empty fixed segments with hup | hup
    · simp [hup]
    · rw [hup, List.length_append, List.length_dropLast, List.length_singleton]
      omega

theorem take_append {front segments : List α} (h : segments ≠ []) (step : PathStep α) :
    take empty fixed (front ++ segments) step = front ++ take empty fixed segments step := by
  cases step with
  | stay => rfl
  | name a => simp [take]
  | up =>
    have hlast : (front ++ segments).getLast? = segments.getLast? := by
      rw [List.getLast?_append_of_ne_nil front h]
    simp only [take, hlast, List.dropLast_append_of_ne_nil h]
    split <;> simp

theorem take_ne_nil {segments : List α} (h : segments ≠ []) (step : PathStep α) :
    take empty fixed segments step ≠ [] :=
  List.length_pos_iff.mp ((List.length_pos_iff.mpr h).trans_le (length_le_take h step))

theorem walk_ne_nil {segments : List α} (h : segments ≠ []) (steps : List (PathStep α)) :
    walk empty fixed segments steps ≠ [] := by
  induction steps generalizing segments with
  | nil => exact h
  | cons step steps ih => exact ih (take_ne_nil h step)

theorem walk_append {front segments : List α} (h : segments ≠ []) (steps : List (PathStep α)) :
    walk empty fixed (front ++ segments) steps = front ++ walk empty fixed segments steps := by
  induction steps generalizing segments with
  | nil => rfl
  | cons step steps ih => rw [walk_cons, take_append h, ih (take_ne_nil h step), walk_cons]

theorem walkFromRoot_eq_walk [DecidableEq α] {segments : List α} (h : 2 ≤ segments.length)
    (steps : List (PathStep α)) :
    walkFromRoot empty fixed segments steps = walk empty fixed segments steps := by
  induction steps generalizing segments with
  | nil => rfl
  | cons step steps ih =>
    have hne : segments ≠ [] := List.length_pos_iff.mp (by omega)
    have htake : takeFromRoot empty fixed segments step = take empty fixed segments step := by
      cases step with
      | name a =>
        have hroot : segments ≠ [empty] := by
          rintro rfl
          simp at h
        simp [takeFromRoot, hroot]
      | _ => rfl
    rw [walkFromRoot_cons, htake, ih (h.trans (length_le_take hne step)), walk_cons]

theorem take_map {f : α → β} {fixed' : β → Bool} (hfixed : ∀ a, fixed' (f a) = fixed a)
    (segments : List α) (step : PathStep α) :
    take (f empty) fixed' (segments.map f) (step.map f) =
      (take empty fixed segments step).map f := by
  cases step with
  | stay => rfl
  | name a => simp [take, map]
  | up =>
    have hlast : (segments.map f).getLast?.any fixed' = segments.getLast?.any fixed := by
      rw [List.getLast?_map]
      cases segments.getLast? <;> simp [hfixed]
    simp only [take, map, hlast, ← List.map_dropLast]
    split <;> simp

theorem takeFromRoot_map [DecidableEq α] [DecidableEq β] {f : α → β} (hf : Function.Injective f)
    {fixed' : β → Bool} (hfixed : ∀ a, fixed' (f a) = fixed a) (segments : List α)
    (step : PathStep α) : takeFromRoot (f empty) fixed' (segments.map f) (step.map f) =
      (takeFromRoot empty fixed segments step).map f := by
  cases step with
  | name a =>
    have hroot : segments.map f = [f empty] ↔ segments = [empty] := by
      rw [← List.map_singleton]
      exact (List.map_injective_iff.mpr hf).eq_iff
    have hbase : (if segments.map f = [f empty] then [] else segments.map f) =
        (if segments = [empty] then [] else segments).map f := by
      simp only [hroot]
      split <;> rfl
    simp only [takeFromRoot, map, hbase]
    exact take_map hfixed _ (name a)
  | stay => rfl
  | up => exact take_map hfixed segments up

theorem walkFromRoot_map [DecidableEq α] [DecidableEq β] {f : α → β} (hf : Function.Injective f)
    {fixed' : β → Bool} (hfixed : ∀ a, fixed' (f a) = fixed a) (segments : List α)
    (steps : List (PathStep α)) :
    walkFromRoot (f empty) fixed' (segments.map f) (steps.map (map f)) =
      (walkFromRoot empty fixed segments steps).map f := by
  induction steps generalizing segments with
  | nil => rfl
  | cons step steps ih =>
    rw [List.map_cons, walkFromRoot_cons, takeFromRoot_map hf hfixed, ih, walkFromRoot_cons]

theorem walk_map {f : α → β} {fixed' : β → Bool} (hfixed : ∀ a, fixed' (f a) = fixed a)
    (segments : List α) (steps : List (PathStep α)) :
    walk (f empty) fixed' (segments.map f) (steps.map (map f)) =
      (walk empty fixed segments steps).map f := by
  induction steps generalizing segments with
  | nil => rfl
  | cons step steps ih => rw [List.map_cons, walk_cons, take_map hfixed, ih, walk_cons]

end Walk
end PathStep
end LumenHorizon.Foundation
