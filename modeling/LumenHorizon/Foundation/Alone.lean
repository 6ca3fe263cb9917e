import LumenHorizon.Foundation.History

/-! # One program alone with its world

A program runs to its end against a world that nothing else touches, or is cut off after some of
its calls. A triple over the world says what holds between any two calls, whatever the environment
chooses within its bounds, and what holds at the end.
-/

namespace LumenHorizon.Foundation.Program

variable {C W E : Type} {R : C → Type} {α β : Type} {answer : (c : C) → E → W → W × R c}

/-- The world and the result when the program ends; the environment's choices in their order. -/
def exec (answer : (c : C) → E → W → W × R c) : Program C R α → (ℕ → E) → W → W × α
  | done a, _, w => (w, a)
  | call c next, choices, w =>
    (next (answer c (choices 0) w).2).exec answer (fun i => choices (i + 1))
      (answer c (choices 0) w).1

/-- How many calls the program makes on these choices. -/
def calls (answer : (c : C) → E → W → W × R c) : Program C R α → (ℕ → E) → W → ℕ
  | done _, _, _ => 0
  | call c next, choices, w =>
    (next (answer c (choices 0) w).2).calls answer (fun i => choices (i + 1))
      (answer c (choices 0) w).1 + 1

/-- A sequence goes on after its first program, with the choices that are left. -/
theorem exec_bind (p : Program C R α) (f : α → Program C R β) (choices : ℕ → E) (w : W) :
    (p >>= f).exec answer choices w = (f (p.exec answer choices w).2).exec answer
      (fun i => choices (i + p.calls answer choices w)) (p.exec answer choices w).1 := by
  induction p generalizing choices w with
  | done a => rfl
  | call c next ih => exact ih _ (fun i => choices (i + 1)) (answer c (choices 0) w).1

/-- The result of a program whose calls are always answered alike, if they are answered. -/
def ask (answer : (c : C) → Option (R c)) : Program C R α → Option α
  | done a => some a
  | call c next => (answer c).bind fun reply => (next reply).ask answer

/-- The world where the program is cut off after `n` calls, if it makes as many. -/
def worldAfter (answer : (c : C) → E → W → W × R c) : ℕ → Program C R α → (ℕ → E) → W → W
  | 0, _, _, w => w
  | _ + 1, done _, _, w => w
  | n + 1, call c next, choices, w =>
    worldAfter answer n (next (answer c (choices 0) w).2) (fun i => choices (i + 1))
      (answer c (choices 0) w).1

theorem worldAfter_calls (p : Program C R α) (choices : ℕ → E) (w : W) :
    worldAfter answer (p.calls answer choices w) p choices w = (p.exec answer choices w).1 := by
  induction p generalizing choices w with
  | done a => rfl
  | call c next ih => exact ih _ (fun i => choices (i + 1)) (answer c (choices 0) w).1

/-- From this world on, along every run on choices that are allowed, each world between calls meets
`inv`, and the world and the result at the end meet `post`. -/
def Alone (answer : (c : C) → E → W → W × R c) (allowed : E → Prop) (inv : W → Prop)
    (post : W → α → Prop) : Program C R α → W → Prop
  | done a, w => inv w ∧ post w a
  | call c next, w => inv w ∧ ∀ e, allowed e →
    (next (answer c e w).2).Alone answer allowed inv post (answer c e w).1

section Alone

variable {allowed : E → Prop} {inv : W → Prop} {post : W → α → Prop} {p : Program C R α} {w : W}

theorem Alone.here (h : p.Alone answer allowed inv post w) : inv w := by
  cases p with
  | done a => exact h.1
  | call c next => exact h.1

theorem Alone.bind {f : α → Program C R β} {post' : W → β → Prop}
    (hp : p.Alone answer allowed inv post w)
    (hf : ∀ w' a, inv w' → post w' a → (f a).Alone answer allowed inv post' w') :
    (p >>= f).Alone answer allowed inv post' w := by
  induction p generalizing w with
  | done a => exact hf w a hp.1 hp.2
  | call c next ih => exact ⟨hp.1, fun e he => ih _ (hp.2 e he)⟩

theorem Alone.mono {post' : W → α → Prop} (hp : p.Alone answer allowed inv post w)
    (h : ∀ w' a, inv w' → post w' a → post' w' a) : p.Alone answer allowed inv post' w := by
  induction p generalizing w with
  | done a => exact ⟨hp.1, h w a hp.1 hp.2⟩
  | call c next ih => exact ⟨hp.1, fun e he => ih _ (hp.2 e he)⟩

theorem Alone.worldAfter (hp : p.Alone answer allowed inv post w) (n : ℕ) {choices : ℕ → E}
    (hallowed : ∀ i, allowed (choices i)) : inv (worldAfter answer n p choices w) := by
  induction n generalizing p choices w with
  | zero => exact hp.here
  | succ n ih =>
    cases p with
    | done a => exact hp.1
    | call c next => exact ih (hp.2 _ (hallowed 0)) fun i => hallowed (i + 1)

theorem Alone.exec (hp : p.Alone answer allowed inv post w) {choices : ℕ → E}
    (hallowed : ∀ i, allowed (choices i)) :
    inv (p.exec answer choices w).1 ∧ post (p.exec answer choices w).1 (p.exec answer choices w).2 := by
  induction p generalizing choices w with
  | done a => exact hp
  | call c next ih => exact ih _ (hp.2 _ (hallowed 0)) fun i => hallowed (i + 1)

theorem Alone.weaken {inv' : W → Prop} (hp : p.Alone answer allowed inv post w)
    (h : ∀ w', inv w' → inv' w') : p.Alone answer allowed inv' post w := by
  induction p generalizing w with
  | done a => exact ⟨h w hp.1, hp.2⟩
  | call c next ih => exact ⟨h w hp.1, fun e he => ih _ (hp.2 e he)⟩

theorem Alone.atEnd (hp : p.Alone answer allowed inv post w) :
    p.Alone answer allowed (fun _ => True) (fun w' a => inv w' ∧ post w' a) w :=
  (hp.mono fun _ _ hinv hpost => ⟨hinv, hpost⟩).weaken fun _ _ => trivial

theorem Alone.and {inv' : W → Prop} {post' : W → α → Prop} (hp : p.Alone answer allowed inv post w)
    (hp' : p.Alone answer allowed inv' post' w) :
    p.Alone answer allowed (fun w' => inv w' ∧ inv' w') (fun w' a => post w' a ∧ post' w' a) w := by
  induction p generalizing w with
  | done a => exact ⟨⟨hp.1, hp'.1⟩, hp.2, hp'.2⟩
  | call c next ih => exact ⟨⟨hp.1, hp'.1⟩, fun e he => ih _ (hp.2 e he) (hp'.2 e he)⟩

/-- A program all of whose calls keep the invariant keeps it alone. -/
theorem Alone.of_under {guar : C → Prop} (hp : p.Under (fun _ _ => True) guar) (hw : inv w)
    (h : ∀ c e w', guar c → allowed e → inv w' → inv (answer c e w').1) :
    p.Alone answer allowed inv (fun _ _ => True) w := by
  induction p generalizing w with
  | done a => exact ⟨hw, trivial⟩
  | call c next ih => exact ⟨hw, fun e he => ih _ (hp.2 _ trivial) (h c e w hp.1 he hw)⟩

end Alone

/-! ## The calls that took effect

The environment's choice on a call says whether it takes effect.
-/

section Effective

variable (answer) (applied : E → Bool)

/-- Answer as before, and note the calls that take effect. -/
def noted (c : C) (e : E) (s : W × List C) : (W × List C) × R c :=
  (((answer c e s.1).1, if applied e then s.2 ++ [c] else s.2), (answer c e s.1).2)

/-- The calls that take effect before the program is cut off after `n` calls. -/
def effective (n : ℕ) (p : Program C R α) (choices : ℕ → E) (w : W) : List C :=
  (worldAfter (noted answer applied) n p choices (w, [])).2

theorem worldAfter_noted (n : ℕ) (p : Program C R α) (choices : ℕ → E) (s : W × List C) :
    (worldAfter (noted answer applied) n p choices s).1 = worldAfter answer n p choices s.1 := by
  induction n generalizing p choices s with
  | zero => rfl
  | succ n ih =>
    cases p with
    | done a => rfl
    | call c next => exact ih _ _ _

end Effective

section Recorded

variable (answer)

/-- Answer as before, and keep the history. -/
def recorded (c : C) (e : E) (s : W × Transcript C R) : (W × Transcript C R) × R c :=
  (((answer c e s.1).1, ⟨c, (answer c e s.1).2⟩ :: s.2), (answer c e s.1).2)

theorem exists_follows_exec_recorded (p : Program C R α) (choices : ℕ → E) (s : W × Transcript C R) :
    ∃ t, (p.exec (recorded answer) choices s).1.2 = t ++ s.2 ∧
      p.Follows t (done (p.exec (recorded answer) choices s).2) := by
  induction p generalizing choices s with
  | done a => exact ⟨[], rfl, .start⟩
  | call c next ih =>
    obtain ⟨t, hhistory, hfollows⟩ := ih _ (fun i => choices (i + 1)) (recorded answer c (choices 0) s).1
    refine ⟨t ++ [⟨c, (answer c (choices 0) s.1).2⟩], ?_, (follows_call c next _).trans hfollows⟩
    rw [List.append_assoc]
    exact hhistory

end Recorded
end LumenHorizon.Foundation.Program
