import Mathlib.Tactic

/-! # Computations that may fail

A triple says what the value of a computation meets and what its error does. A relation between
two computations says that they fail alike: with the same error, or not at all, and then with
related values. Each has its rule for one step after another.
-/

namespace LumenHorizon.Foundation

variable {ε α β γ : Type}

/-- The value meets `post`, or the error meets `fails`. -/
def ComesTo (post : α → Prop) (fails : ε → Prop) : Except ε α → Prop
  | .ok a => post a
  | .error e => fails e

@[simp] theorem comesTo_ok {post : α → Prop} {fails : ε → Prop} {a : α} :
    ComesTo post fails (.ok a) ↔ post a := Iff.rfl

@[simp] theorem comesTo_error {post : α → Prop} {fails : ε → Prop} {e : ε} :
    ComesTo post fails (.error e) ↔ fails e := Iff.rfl

theorem ComesTo.bind {mid : α → Prop} {post : β → Prop} {fails : ε → Prop} {x : Except ε α}
    {f : α → Except ε β} (hx : ComesTo mid fails x)
    (hf : ∀ a, mid a → ComesTo post fails (f a)) : ComesTo post fails (x >>= f) := by
  cases x with
  | error e => exact hx
  | ok a => exact hf a hx

theorem ComesTo.mono {post post' : α → Prop} {fails fails' : ε → Prop} {x : Except ε α}
    (hx : ComesTo post fails x) (hpost : ∀ a, post a → post' a)
    (hfails : ∀ e, fails e → fails' e) : ComesTo post' fails' x := by
  cases x with
  | error e => exact hfails e hx
  | ok a => exact hpost a hx

theorem ComesTo.mapError {post : α → Prop} {fails : γ → Prop} {x : Except ε α} {f : ε → γ}
    (hx : ComesTo post (fun e => fails (f e)) x) : ComesTo post fails (x.mapError f) := by
  cases x with
  | error e => exact hx
  | ok a => exact hx

/-- Two computations that fail alike, or both succeed with related values. -/
def Alike (related : α → β → Prop) : Except ε α → Except ε β → Prop
  | .ok a, .ok b => related a b
  | .error e, .error e' => e = e'
  | .ok _, .error _ => False
  | .error _, .ok _ => False

@[simp] theorem alike_ok {related : α → β → Prop} {a : α} {b : β} :
    Alike related (.ok a : Except ε α) (.ok b) ↔ related a b := Iff.rfl

@[simp] theorem alike_error {related : α → β → Prop} {e e' : ε} :
    Alike related (.error e : Except ε α) (.error e') ↔ e = e' := Iff.rfl

theorem Alike.of_eq {x y : Except ε α} (h : x = y) : Alike Eq x y := by
  subst h
  cases x <;> rfl

theorem Alike.bind {δ : Type} {related : α → β → Prop} {related' : γ → δ → Prop}
    {x : Except ε α} {y : Except ε β} {f : α → Except ε γ} {g : β → Except ε δ}
    (h : Alike related x y) (hrest : ∀ a b, related a b → Alike related' (f a) (g b)) :
    Alike related' (x >>= f) (y >>= g) := by
  cases x with
  | error e =>
    cases y with
    | error e' => exact h
    | ok b => exact h.elim
  | ok a =>
    cases y with
    | error e' => exact h.elim
    | ok b => exact hrest a b h

theorem Alike.bind_self {related : β → γ → Prop} {x : Except ε α} {f : α → Except ε β}
    {g : α → Except ε γ} (hrest : ∀ a, Alike related (f a) (g a)) :
    Alike related (x >>= f) (x >>= g) :=
  (Alike.of_eq rfl).bind fun a _ h => h ▸ hrest a

theorem Alike.mapError {related : α → β → Prop} {x : Except ε α} {y : Except ε β} (f : ε → γ)
    (h : Alike related x y) : Alike related (x.mapError f) (y.mapError f) := by
  cases x with
  | error e =>
    cases y with
    | error e' => exact congrArg f h
    | ok b => exact h
  | ok a =>
    cases y with
    | error e' => exact h
    | ok b => exact h

end LumenHorizon.Foundation
