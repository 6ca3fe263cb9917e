import LumenHorizon.Foundation.Pool

/-! # Programs of several kinds in one pool

Programs that were written for different calls run in one pool once their calls are embedded into
a common type. A rule about a program holds of the embedded one as a rule about the calls it comes
from. Live programs are counted by the call they make next.
-/

namespace LumenHorizon.Foundation

namespace Program

variable {C C' : Type} {R : C → Type} {R' : C' → Type} {α β : Type}

theorem Always.of_forall {rule : CallRule C R} (h : ∀ c next, rule c next) (p : Program C R α) :
    p.Always rule := by
  induction p with
  | done a => trivial
  | call c next ih => exact ⟨h _ _, ih⟩

/-- The program with its calls and its result embedded into other types. -/
def embed (f : C → C') (back : (c : C) → R' (f c) → R c) (g : α → β) :
    Program C R α → Program C' R' β
  | done a => done (g a)
  | call c next => call (f c) fun reply => (next (back c reply)).embed f back g

section Embed

variable (f : C → C') (back : (c : C) → R' (f c) → R c) (g : α → β)

@[simp] theorem embed_done (a : α) : (done a : Program C R α).embed f back g = done (g a) := rfl

@[simp] theorem embed_call (c : C) (next : R c → Program C R α) :
    (call c next).embed f back g = call (f c) fun reply => (next (back c reply)).embed f back g :=
  rfl

@[simp] theorem next?_embed (p : Program C R α) : (p.embed f back g).next? = p.next?.map f := by
  cases p <;> rfl

/-- A rule about embedded calls is one about the calls themselves. -/
theorem Always.embed {rule : CallRule C' R'} {p : Program C R α}
    (hp : p.Always fun c next => rule (f c) fun reply => (next (back c reply)).map f) :
    (p.embed f back g).Always rule := by
  induction p with
  | done a => trivial
  | call c next ih =>
    refine ⟨?_, fun reply => ih (back c reply) (hp.2 (back c reply))⟩
    simpa using hp.1

theorem Under.embed {rely : (c : C) → R c → Prop} {guar : C → Prop}
    {rely' : (c : C') → R' c → Prop} {guar' : C' → Prop} {p : Program C R α}
    (hp : p.Under rely guar) (hrely : ∀ c reply, rely' (f c) reply → rely c (back c reply))
    (hguar : ∀ c, guar c → guar' (f c)) : (p.embed f back g).Under rely' guar' := by
  induction p with
  | done a => trivial
  | call c next ih =>
    refine ⟨hguar c hp.1, fun reply hreply => ?_⟩
    apply ih
    exact hp.2 _ (hrely c reply hreply)

end Embed

end Program

namespace Pool

variable {W C E : Type} {R : C → Type}

/-- How many live programs make a call of this kind next. -/
def waiting (test : C → Bool) (pool : Pool W C R) : ℕ :=
  pool.procs.countP fun p => p.next?.any test

variable {test : C → Bool} {pool : Pool W C R}

theorem waiting_spawn (p : Program C R Unit) :
    ({ pool with procs := pool.procs ++ [p] } : Pool W C R).waiting test =
      pool.waiting test + if p.next?.any test then 1 else 0 := by
  simp [waiting, List.countP_append, List.countP_singleton]

theorem waiting_set {i : ℕ} {q : Program C R Unit} (hi : pool.procs[i]? = some q)
    (p : Program C R Unit) (world : W) :
    (⟨world, pool.procs.set i p⟩ : Pool W C R).waiting test +
        (if q.next?.any test then 1 else 0) =
      pool.waiting test + if p.next?.any test then 1 else 0 := by
  obtain ⟨hlt, hq⟩ := List.getElem?_eq_some_iff.mp hi
  have hpos : q.next?.any test = true → 0 < pool.waiting test := by
    intro h
    exact List.countP_pos_iff.mpr ⟨q, List.mem_of_getElem? hi, h⟩
  unfold waiting at hpos ⊢
  rw [List.countP_set hlt, hq]
  by_cases h : q.next?.any test = true
  · have hwaits := hpos h
    rw [if_pos h]
    omega
  · rw [if_neg h]
    omega

theorem waiting_pos_of_nextCall {i : ℕ} {c : C} (h : pool.nextCall i = some c)
    (hc : test c = true) : 0 < pool.waiting test := by
  obtain ⟨next, hi⟩ := nextCall_eq_some_iff.mp h
  exact List.countP_pos_iff.mpr ⟨_, List.mem_of_getElem? hi, hc⟩

end Pool
end LumenHorizon.Foundation
