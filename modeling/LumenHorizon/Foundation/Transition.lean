import Mathlib.Tactic

/-! # Guarded runs of a transition function

A partial step function, the states its runs reach when every step meets a guard, and the rule
that an invariant of each guarded step holds in all of them.
-/

namespace LumenHorizon.Foundation

variable {S E : Type}

/-- The states a run reaches from `init` when each of its steps meets the guard. -/
inductive Reaches (step : S → E → Option S) (guard : S → E → Prop) (init : S) : S → Prop where
  | start : Reaches step guard init init
  | next {s s' : S} {e : E} (before : Reaches step guard init s) (allowed : guard s e)
      (happens : step s e = some s') : Reaches step guard init s'

namespace Reaches

variable {step : S → E → Option S} {guard guard' : S → E → Prop} {init s t : S}

theorem invariant {Inv : S → Prop} (hinit : Inv init)
    (hstep : ∀ s e s', Inv s → guard s e → step s e = some s' → Inv s')
    (h : Reaches step guard init s) : Inv s := by
  induction h with
  | start => exact hinit
  | next _ allowed happens ih => exact hstep _ _ _ ih allowed happens

theorem trans (h : Reaches step guard init s) (h' : Reaches step guard s t) :
    Reaches step guard init t := by
  induction h' with
  | start => exact h
  | next _ allowed happens ih => exact ih.next allowed happens

theorem mono (hguard : ∀ s e, guard s e → guard' s e) (h : Reaches step guard init s) :
    Reaches step guard' init s := by
  induction h with
  | start => exact .start
  | next _ allowed happens ih => exact ih.next (hguard _ _ allowed) happens

end Reaches

/-- The state after a list of steps, if each of them can happen. -/
def runSteps (step : S → E → Option S) : S → List E → Option S
  | s, [] => some s
  | s, e :: events => (step s e).bind fun s' => runSteps step s' events

theorem reaches_of_runSteps {step : S → E → Option S} {guard : S → E → Prop} (events : List E)
    (hguard : ∀ s, ∀ e ∈ events, guard s e) {s t : S} (h : runSteps step s events = some t) :
    Reaches step guard s t := by
  induction events generalizing s with
  | nil =>
    obtain rfl : s = t := Option.some.inj h
    exact .start
  | cons e events ih =>
    obtain ⟨s', hstep, hrest⟩ := Option.bind_eq_some_iff.mp h
    have hfirst : Reaches step guard s s' :=
      Reaches.start.next (hguard s e List.mem_cons_self) hstep
    exact hfirst.trans (ih (fun s e he => hguard s e (List.mem_cons_of_mem _ he)) hrest)

/-- A run that can happen ends in a state that passes a test, where evaluating it says so. -/
theorem exists_reaches_of_runSteps {step : S → E → Option S} {guard : S → E → Prop}
    (events : List E) (hguard : ∀ s, ∀ e ∈ events, guard s e) {s : S} {test : S → Bool}
    (h : (runSteps step s events).any test = true) : ∃ t, Reaches step guard s t ∧ test t = true := by
  cases hrun : runSteps step s events with
  | none =>
    rw [hrun] at h
    cases h
  | some t =>
    rw [hrun] at h
    exact ⟨t, reaches_of_runSteps events hguard hrun, h⟩

def checkedStep (step : S → E → Option S) (check : S → E → Bool) (s : S) (e : E) : Option S :=
  if check s e then step s e else none

/-- A checked run that can happen ends in a state that passes a test. -/
theorem exists_reaches_of_checkedSteps {step : S → E → Option S} {guard : S → E → Prop}
    (check : S → E → Bool) (events : List E)
    (hguard : ∀ s, ∀ e ∈ events, check s e = true → guard s e) {s : S} {test : S → Bool}
    (h : (runSteps (checkedStep step check) s events).any test = true) :
    ∃ t, Reaches step guard s t ∧ test t = true := by
  have hchecked : ∃ t, Reaches (checkedStep step check) (fun _ e => e ∈ events) s t ∧
      test t = true := exists_reaches_of_runSteps events (fun _ _ he => he) h
  obtain ⟨t, hreaches, htest⟩ := hchecked
  refine ⟨t, ?_, htest⟩
  clear h htest
  induction hreaches with
  | start => exact .start
  | @next s' _ e _ hmem hstep ih =>
    rw [checkedStep] at hstep
    by_cases hcheck : check s' e = true
    · rw [if_pos hcheck] at hstep
      exact ih.next (hguard _ _ hmem hcheck) hstep
    · rw [if_neg hcheck] at hstep
      cases hstep

/-- The guard holds along a list of steps, each of which can happen. -/
def GuardedSteps (step : S → E → Option S) (guard : S → E → Prop) : S → List E → S → Prop
  | s, [], t => s = t
  | s, e :: events, t => guard s e ∧ ∃ s', step s e = some s' ∧ GuardedSteps step guard s' events t

theorem GuardedSteps.cons {step : S → E → Option S} {guard : S → E → Prop} {s s' t : S} {e : E}
    {events : List E} (hguard : guard s e) (hstep : step s e = some s')
    (hrest : GuardedSteps step guard s' events t) : GuardedSteps step guard s (e :: events) t :=
  ⟨hguard, s', hstep, hrest⟩

theorem reaches_of_guardedSteps {step : S → E → Option S} {guard : S → E → Prop} (events : List E)
    {s t : S} (h : GuardedSteps step guard s events t) : Reaches step guard s t := by
  induction events generalizing s with
  | nil =>
    obtain rfl : s = t := h
    exact .start
  | cons e events ih =>
    obtain ⟨hguard, s', hstep, hrest⟩ := h
    exact (Reaches.start.next hguard hstep).trans (ih hrest)

end LumenHorizon.Foundation
