import Mathlib.Tactic

/-! # Lists of adjacent spans

A span starts at a point and stops before another one, or never. In a list where each span stops
where the next one starts, and the last one never stops, every point from the first start on lies
in exactly one span, which the first-match search finds.
-/

namespace LumenHorizon.Foundation.Spans

variable {α β : Type} [LinearOrder α] (start : β → α) (stop : β → Option α)

def Covers (point : α) (span : β) : Prop :=
  start span ≤ point ∧ ∀ bound ∈ stop span, point < bound

instance (point : α) : DecidablePred (Covers start stop point) := fun span =>
  inferInstanceAs (Decidable (start span ≤ point ∧ ∀ bound ∈ stop span, point < bound))

def Adjacent : List β → Prop
  | [] => False
  | [span] => stop span = none
  | span :: next :: rest =>
    stop span = some (start next) ∧ start span ≤ start next ∧ Adjacent (next :: rest)

def Before (span later : β) : Prop := ∃ bound ∈ stop span, bound ≤ start later

variable {start stop}

/-- Points of a span lie below the points of a later one. -/
theorem Before.lt {span later : β} {point point' : α} (h : Before start stop span later)
    (hspan : Covers start stop point span) (hlater : Covers start stop point' later) :
    point < point' := by
  obtain ⟨bound, hstop, hbound⟩ := h
  calc
    point < bound := hspan.2 bound hstop
    _ ≤ start later := hbound
    _ ≤ point' := hlater.1

/-- The later spans start at the stop of the first one or after it. -/
theorem Adjacent.before {span : β} {rest : List β} (h : Adjacent start stop (span :: rest)) :
    ∀ later ∈ rest, Before start stop span later := by
  induction rest generalizing span with
  | nil => simp
  | cons next rest ih =>
    obtain ⟨hstop, -, hrest⟩ := h
    intro later hlater
    rcases List.mem_cons.mp hlater with rfl | hlater
    · exact ⟨start later, hstop, le_rfl⟩
    · obtain ⟨bound, hbound, hle⟩ := ih hrest later hlater
      have hnext : start next ≤ bound := by
        cases rest with
        | nil => cases hlater
        | cons third rest =>
          obtain ⟨hthird, hle, -⟩ := hrest
          rw [hthird, Option.mem_some_iff] at hbound
          exact hbound ▸ hle
      exact ⟨start next, hstop, hnext.trans hle⟩

theorem Adjacent.pairwise {spans : List β} (h : Adjacent start stop spans) :
    spans.Pairwise (Before start stop) := by
  induction spans with
  | nil => exact List.Pairwise.nil
  | cons span rest ih =>
    refine List.pairwise_cons.mpr ⟨h.before, ?_⟩
    cases rest with
    | nil => exact List.Pairwise.nil
    | cons next rest => exact ih h.2.2

theorem Adjacent.exists_covers {span : β} {rest : List β} {point : α}
    (h : Adjacent start stop (span :: rest)) (hpoint : start span ≤ point) :
    ∃ found ∈ span :: rest, Covers start stop point found := by
  induction rest generalizing span with
  | nil =>
    have hstop : stop span = none := h
    exact ⟨span, List.mem_cons_self, hpoint, by simp [hstop]⟩
  | cons next rest ih =>
    obtain ⟨hstop, -, hrest⟩ := h
    rcases lt_or_ge point (start next) with hlt | hge
    · exact ⟨span, List.mem_cons_self, hpoint, by simpa [hstop] using hlt⟩
    · obtain ⟨found, hmem, hfound⟩ := ih hrest hge
      exact ⟨found, List.mem_cons_of_mem _ hmem, hfound⟩

theorem Adjacent.filter_eq {spans : List β} (h : Adjacent start stop spans) {point : α} {found : β}
    (hmem : found ∈ spans) (hfound : Covers start stop point found) :
    spans.filter (Covers start stop point ·) = [found] := by
  have hpairs : (spans.filter (Covers start stop point ·)).Pairwise (Before start stop) :=
    h.pairwise.filter _
  have hcovers : ∀ span ∈ spans.filter (Covers start stop point ·),
      Covers start stop point span := fun span hspan => by
    simpa using (List.mem_filter.mp hspan).2
  have hin : found ∈ spans.filter (Covers start stop point ·) :=
    List.mem_filter.mpr ⟨hmem, by simpa using hfound⟩
  generalize spans.filter (Covers start stop point ·) = matching at hpairs hcovers hin
  match matching with
  | [] => cases hin
  | [span] => rw [List.mem_singleton.mp hin]
  | span :: other :: rest =>
    have hbefore : Before start stop span other := (List.pairwise_cons.mp hpairs).1 other (by simp)
    exact absurd (hbefore.lt (hcovers span (by simp)) (hcovers other (by simp))) (lt_irrefl point)

/-- A greater point lies in the same span or a later one, so whatever grows along the list grows
with the point. -/
theorem Adjacent.le_of_covers {spans : List β} (h : Adjacent start stop spans) {rank : β → ℕ}
    (hrank : spans.Pairwise fun span later => rank span ≤ rank later) {point point' : α}
    (hle : point ≤ point') {span later : β} (hmem : span ∈ spans)
    (hspan : Covers start stop point span) (hmem' : later ∈ spans)
    (hlater : Covers start stop point' later) : rank span ≤ rank later := by
  have hpairs := h.pairwise.and hrank
  clear h hrank
  induction hpairs with
  | nil => cases hmem
  | cons hfirst _ ih =>
    rcases List.mem_cons.mp hmem with rfl | hin
    · rcases List.mem_cons.mp hmem' with rfl | hin'
      · rfl
      · exact (hfirst later hin').2
    · rcases List.mem_cons.mp hmem' with rfl | hin'
      · exact absurd ((hfirst span hin).1.lt hlater hspan) (not_lt.mpr hle)
      · exact ih hin hin'

end LumenHorizon.Foundation.Spans
