import Mathlib.Tactic

/-! # Programs that talk to their environment

A program is a tree of calls; each call branches over all its replies. Nothing is said here
about what a call does, so one program can be run against a model of a database, against a
scripted environment, or one call at a time among other programs.
-/

namespace LumenHorizon.Foundation

inductive Program (C : Type) (R : C → Type) (α : Type) where
  | done (a : α)
  | call (c : C) (next : R c → Program C R α)

namespace Program

variable {C : Type} {R : C → Type} {α β γ : Type}

def andThen : Program C R α → (α → Program C R β) → Program C R β
  | done a, f => f a
  | call c next, f => call c fun reply => (next reply).andThen f

instance : Monad (Program C R) where
  pure := done
  bind := andThen

/-- The program that makes one call and returns its reply. -/
def request (c : C) : Program C R (R c) := call c done

@[simp] theorem pure_eq_done (a : α) : (pure a : Program C R α) = done a := rfl

@[simp] theorem done_bind (a : α) (f : α → Program C R β) : (done a >>= f) = f a := rfl

@[simp] theorem call_bind (c : C) (next : R c → Program C R α) (f : α → Program C R β) :
    (call c next >>= f) = call c fun reply => next reply >>= f := rfl

@[simp] theorem request_bind (c : C) (f : R c → Program C R β) :
    (request c >>= f) = call c f := rfl

theorem bind_assoc (p : Program C R α) (f : α → Program C R β) (g : β → Program C R γ) :
    (p >>= f) >>= g = p >>= fun a => f a >>= g := by
  induction p with
  | done a => rfl
  | call c next ih => exact congrArg (call c) (funext ih)

/-- The call a program makes next, if it has not finished. -/
def next? : Program C R α → Option C
  | done _ => none
  | call c _ => some c

@[simp] theorem next?_done (a : α) : (done a : Program C R α).next? = none := rfl

@[simp] theorem next?_call (c : C) (next : R c → Program C R α) :
    (call c next).next? = some c := rfl

theorem next?_eq_some_iff {p : Program C R α} {c : C} :
    p.next? = some c ↔ ∃ next, p = call c next := by
  cases p with
  | done a => simp
  | call c' next =>
    constructor
    · rintro ⟨⟩
      exact ⟨next, rfl⟩
    · rintro ⟨_, h⟩
      rw [h, next?_call]

theorem next?_bind_of_some {p : Program C R α} {c : C} (h : p.next? = some c)
    (f : α → Program C R β) : (p >>= f).next? = some c := by
  cases p with
  | done a => cases h
  | call c' next => exact h

/-- A rule about a call and what each of its replies leads to next. -/
abbrev CallRule (C : Type) (R : C → Type) := (c : C) → (R c → Option C) → Prop

/-- Every call the program can reach obeys the rule. -/
def Always (rule : CallRule C R) : Program C R α → Prop
  | done _ => True
  | call c next => rule c (fun reply => (next reply).next?) ∧ ∀ reply, (next reply).Always rule

/-- A rule that only asks for calls to be made, so that it survives more of them. -/
def Extensible (rule : CallRule C R) : Prop :=
  ∀ c next next', rule c next → (∀ reply c', next reply = some c' → next' reply = some c') →
    rule c next'

@[simp] theorem always_done (rule : CallRule C R) (a : α) :
    (done a : Program C R α).Always rule := trivial

theorem Always.call {rule : CallRule C R} {c : C} {next : R c → Program C R α}
    (h : rule c fun reply => (next reply).next?) (hnext : ∀ reply, (next reply).Always rule) :
    (Program.call c next).Always rule := ⟨h, hnext⟩

theorem Always.bind {rule : CallRule C R} (hrule : Extensible rule) {p : Program C R α}
    {f : α → Program C R β} (hp : p.Always rule) (hf : ∀ a, (f a).Always rule) :
    (p >>= f).Always rule := by
  induction p with
  | done a => exact hf a
  | call c next ih =>
    refine ⟨hrule _ _ _ hp.1 fun reply c' h => ?_, fun reply => ih reply (hp.2 reply)⟩
    exact next?_bind_of_some h f

/-- While every reply is one that `rely` admits, every call made is one that `guar` admits. -/
def Under (rely : (c : C) → R c → Prop) (guar : C → Prop) : Program C R α → Prop
  | done _ => True
  | call c next => guar c ∧ ∀ reply, rely c reply → (next reply).Under rely guar

section Under

variable {rely : (c : C) → R c → Prop} {guar : C → Prop}

@[simp] theorem under_done (a : α) : (done a : Program C R α).Under rely guar := trivial

theorem under_true (p : Program C R α) : p.Under rely fun _ => True := by
  induction p with
  | done a => trivial
  | call c next ih => exact ⟨trivial, fun reply _ => ih reply⟩

theorem Under.call {c : C} {next : R c → Program C R α} (h : guar c)
    (hnext : ∀ reply, rely c reply → (next reply).Under rely guar) :
    (Program.call c next).Under rely guar := ⟨h, hnext⟩

theorem Under.bind {p : Program C R α} {f : α → Program C R β} (hp : p.Under rely guar)
    (hf : ∀ a, (f a).Under rely guar) : (p >>= f).Under rely guar := by
  induction p with
  | done a => exact hf a
  | call c next ih => exact ⟨hp.1, fun reply hreply => ih reply (hp.2 reply hreply)⟩

theorem Under.mono {rely' : (c : C) → R c → Prop} {guar' : C → Prop} {p : Program C R α}
    (hp : p.Under rely guar) (hrely : ∀ c reply, rely' c reply → rely c reply)
    (hguar : ∀ c, guar c → guar' c) : p.Under rely' guar' := by
  induction p with
  | done a => trivial
  | call c next ih =>
    exact ⟨hguar c hp.1, fun reply hreply => ih reply (hp.2 reply (hrely c reply hreply))⟩

/-- After every call, what is left of the program is as `after` asks of the call and its reply. -/
def Onward (rely : (c : C) → R c → Prop) (after : (c : C) → R c → Program C R α → Prop) :
    Program C R α → Prop
  | done _ => True
  | call c next => ∀ reply, rely c reply →
      after c reply (next reply) ∧ (next reply).Onward rely after

theorem Onward.call {after : (c : C) → R c → Program C R α → Prop} {c : C}
    {next : R c → Program C R α}
    (h : ∀ reply, rely c reply → after c reply (next reply) ∧ (next reply).Onward rely after) :
    (Program.call c next).Onward rely after := h

theorem Under.onward {after : (c : C) → R c → Program C R α → Prop} {p : Program C R α}
    (hp : p.Under rely guar) (h : ∀ c reply q, guar c → after c reply q) :
    p.Onward rely after := by
  induction p with
  | done a => trivial
  | call c next ih =>
    exact fun reply hreply => ⟨h c reply _ hp.1, ih reply (hp.2 reply hreply)⟩

/-- Whatever the replies were before, after each call of this kind the program stays within `guar`
as long as the replies are ones that `rely` admits. -/
def Thereafter (target : C → Prop) (rely : (c : C) → R c → Prop) (guar : C → Prop) :
    Program C R α → Prop
  | done _ => True
  | call c next => (target c → ∀ reply, (next reply).Under rely guar) ∧
      ∀ reply, (next reply).Thereafter target rely guar

variable {target : C → Prop}

@[simp] theorem thereafter_done (a : α) :
    (done a : Program C R α).Thereafter target rely guar := trivial

theorem Thereafter.call {c : C} {next : R c → Program C R α}
    (h : target c → ∀ reply, (next reply).Under rely guar)
    (hnext : ∀ reply, (next reply).Thereafter target rely guar) :
    (Program.call c next).Thereafter target rely guar := ⟨h, hnext⟩

/-- A program that is within `guar` throughout is so after any call. -/
theorem Under.thereafter {p : Program C R α} (hp : p.Under (fun _ _ => True) guar) :
    p.Thereafter target rely guar := by
  induction p with
  | done a => trivial
  | call c next ih =>
    refine ⟨fun _ reply => ?_, fun reply => ih reply (hp.2 reply trivial)⟩
    exact (hp.2 reply trivial).mono (fun _ _ _ => trivial) fun _ h => h

theorem Thereafter.bind {p : Program C R α} {f : α → Program C R β}
    (hp : p.Thereafter target rely guar) (hunder : ∀ a, (f a).Under rely guar)
    (hf : ∀ a, (f a).Thereafter target rely guar) : (p >>= f).Thereafter target rely guar := by
  induction p with
  | done a => exact hf a
  | call c next ih =>
    exact ⟨fun h reply => (hp.1 h reply).bind hunder, fun reply => ih reply (hp.2 reply)⟩

/-- Before the first call of the kind nothing is asked for. -/
theorem Thereafter.bind_of_never {p : Program C R α} {f : α → Program C R β}
    (hp : p.Under (fun _ _ => True) fun c => ¬ target c)
    (hf : ∀ a, (f a).Thereafter target rely guar) : (p >>= f).Thereafter target rely guar := by
  induction p with
  | done a => exact hf a
  | call c next ih =>
    exact ⟨fun h => absurd h hp.1, fun reply => ih reply (hp.2 reply trivial)⟩

end Under

/-- Whatever the replies are, the program makes a call of this kind before it ends. -/
def Inevitable (target : C → Prop) : Program C R α → Prop
  | done _ => False
  | call c next => target c ∨ ∀ reply, (next reply).Inevitable target

theorem Inevitable.bind_left {target : C → Prop} {p : Program C R α} (h : p.Inevitable target)
    (f : α → Program C R β) : (p >>= f).Inevitable target := by
  induction p with
  | done a => exact h.elim
  | call c next ih => exact h.imp_right fun hnext reply => ih reply (hnext reply)

theorem Inevitable.bind_right {target : C → Prop} {f : α → Program C R β}
    (h : ∀ a, (f a).Inevitable target) (p : Program C R α) : (p >>= f).Inevitable target := by
  induction p with
  | done a => exact h a
  | call c next ih => exact .inr fun reply => ih reply

end Program
end LumenHorizon.Foundation
