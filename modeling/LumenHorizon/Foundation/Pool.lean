import LumenHorizon.Foundation.Program
import LumenHorizon.Foundation.Transition

/-! # Pools of live programs over one world

Programs are started at any time, make their calls one at a time in any order, and may be
stopped between any two calls. A call is answered by the world together with a choice of the
environment, which decides whether it fails.
-/

namespace LumenHorizon.Foundation

/-- One shared world and the programs that run against it. -/
structure Pool (W C : Type) (R : C → Type) where
  world : W
  procs : List (Program C R Unit)

inductive PoolEvent (C : Type) (R : C → Type) (E : Type) where
  | spawn (p : Program C R Unit)
  | act (i : ℕ) (e : E)
  | stop (i : ℕ)

namespace Pool

variable {W C E : Type} {R : C → Type}

/-- The next state of a pool: a program is started, makes its next call, or is stopped. -/
def step (answer : (c : C) → E → W → W × R c) (pool : Pool W C R) :
    PoolEvent C R E → Option (Pool W C R)
  | .spawn p => some { pool with procs := pool.procs ++ [p] }
  | .act i e =>
    match pool.procs[i]? with
    | some (.call c next) =>
      let result := answer c e pool.world
      some { world := result.1, procs := pool.procs.set i (next result.2) }
    | _ => none
  | .stop i =>
    match pool.procs[i]? with
    | some (.call _ _) => some { pool with procs := pool.procs.set i (.done ()) }
    | _ => none

/-- The call program `i` makes next, if it is live. -/
def nextCall (pool : Pool W C R) (i : ℕ) : Option C := (pool.procs[i]?).bind Program.next?

/-- Some live program's next call is `c`. -/
def Pending (pool : Pool W C R) (c : C) : Prop := ∃ i, pool.nextCall i = some c

/-- No program has a call left to make. -/
def Quiescent (pool : Pool W C R) : Prop := ∀ p ∈ pool.procs, p.next? = none

instance (pool : Pool W C R) : Decidable pool.Quiescent :=
  decidable_of_iff (∀ p ∈ pool.procs, p.next?.isNone = true) (by simp [Quiescent])

theorem nextCall_eq_some_iff {pool : Pool W C R} {i : ℕ} {c : C} :
    pool.nextCall i = some c ↔ ∃ next, pool.procs[i]? = some (.call c next) := by
  simp only [nextCall, Option.bind_eq_some_iff, Program.next?_eq_some_iff]
  constructor
  · rintro ⟨_, hi, next, rfl⟩
    exact ⟨next, hi⟩
  · rintro ⟨next, hi⟩
    exact ⟨_, hi, next, rfl⟩

theorem not_pending_of_quiescent {pool : Pool W C R} (h : pool.Quiescent) (c : C) :
    ¬ pool.Pending c := by
  rintro ⟨i, hi⟩
  obtain ⟨next, hp⟩ := nextCall_eq_some_iff.mp hi
  cases h _ (List.mem_of_getElem? hp)

/-- What one event can do to a pool. -/
theorem step_cases {answer : (c : C) → E → W → W × R c} {pool pool' : Pool W C R}
    {event : PoolEvent C R E} (h : pool.step answer event = some pool') :
    (∃ p, event = .spawn p ∧ pool' = { pool with procs := pool.procs ++ [p] }) ∨
    (∃ i e c next, event = .act i e ∧ pool.procs[i]? = some (.call c next) ∧
      pool' = { world := (answer c e pool.world).1
                procs := pool.procs.set i (next (answer c e pool.world).2) }) ∨
    (∃ i c next, event = .stop i ∧ pool.procs[i]? = some (.call c next) ∧
      pool' = { pool with procs := pool.procs.set i (.done ()) }) := by
  cases event with
  | spawn p => exact .inl ⟨p, rfl, (Option.some.inj h).symm⟩
  | act i e =>
    simp only [step] at h
    split at h
    · next c next hi => exact .inr (.inl ⟨i, e, c, next, rfl, hi, (Option.some.inj h).symm⟩)
    · cases h
  | stop i =>
    simp only [step] at h
    split at h
    · next c next hi => exact .inr (.inr ⟨i, c, next, rfl, hi, (Option.some.inj h).symm⟩)
    · cases h

/-- What one event can do to a pool of two programs, if it starts no other. -/
theorem step_pair_cases {answer : (c : C) → E → W → W × R c} {world : W}
    {p q : Program C R Unit} {pool' : Pool W C R} {event : PoolEvent C R E}
    (h : step answer ⟨world, [p, q]⟩ event = some pool') (hspawn : ∀ r, event ≠ .spawn r) :
    (∃ e c next, event = .act 0 e ∧ p = .call c next ∧
      pool' = ⟨(answer c e world).1, [next (answer c e world).2, q]⟩) ∨
    (∃ e c next, event = .act 1 e ∧ q = .call c next ∧
      pool' = ⟨(answer c e world).1, [p, next (answer c e world).2]⟩) ∨
    (event = .stop 0 ∧ pool' = ⟨world, [.done (), q]⟩) ∨
    (event = .stop 1 ∧ pool' = ⟨world, [p, .done ()]⟩) := by
  rcases step_cases h with ⟨r, rfl, -⟩ | ⟨i, e, c, next, rfl, hi, rfl⟩ | ⟨i, c, next, rfl, hi, rfl⟩
  · exact absurd rfl (hspawn r)
  · match i with
    | 0 => exact .inl ⟨e, c, next, rfl, Option.some.inj hi, rfl⟩
    | 1 => exact .inr (.inl ⟨e, c, next, rfl, Option.some.inj hi, rfl⟩)
    | _ + 2 => cases hi
  · match i with
    | 0 => exact .inr (.inr (.inl ⟨rfl, rfl⟩))
    | 1 => exact .inr (.inr (.inr ⟨rfl, rfl⟩))
    | _ + 2 => cases hi

theorem nextCall_spawn {pool : Pool W C R} {i : ℕ} {c : C} (h : pool.nextCall i = some c)
    (p : Program C R Unit) :
    ({ pool with procs := pool.procs ++ [p] } : Pool W C R).nextCall i = some c := by
  obtain ⟨next, hi⟩ := nextCall_eq_some_iff.mp h
  have hlt : i < pool.procs.length := (List.getElem?_eq_some_iff.mp hi).1
  rw [nextCall_eq_some_iff]
  exact ⟨next, by rw [List.getElem?_append_left hlt]; exact hi⟩

/-- A step of one program leaves the next calls of the others alone. -/
theorem nextCall_set_of_ne {pool : Pool W C R} {i j : ℕ} (h : i ≠ j) (p : Program C R Unit)
    (world : W) : (⟨world, pool.procs.set i p⟩ : Pool W C R).nextCall j = pool.nextCall j := by
  rw [nextCall, nextCall, List.getElem?_set_ne h]

theorem nextCall_set_self {pool : Pool W C R} {i : ℕ} {q : Program C R Unit}
    (hi : pool.procs[i]? = some q) (p : Program C R Unit) (world : W) :
    (⟨world, pool.procs.set i p⟩ : Pool W C R).nextCall i = p.next? := by
  have hlt : i < pool.procs.length := (List.getElem?_eq_some_iff.mp hi).1
  simp [nextCall, hlt]

/-- A call pending after a step was pending before it, opens a started program, or follows the call
that the step answers. -/
theorem pending_step {answer : (c : C) → E → W → W × R c} {pool pool' : Pool W C R}
    {event : PoolEvent C R E} (h : pool.step answer event = some pool') {c' : C}
    (hc : pool'.Pending c') :
    pool.Pending c' ∨ (∃ p, event = .spawn p ∧ p.next? = some c') ∨
      ∃ i e c next, event = .act i e ∧ pool.procs[i]? = some (.call c next) ∧
        pool'.world = (answer c e pool.world).1 ∧
        ∃ next', next (answer c e pool.world).2 = .call c' next' := by
  obtain ⟨j, hj⟩ := hc
  rcases step_cases h with ⟨p, rfl, rfl⟩ | ⟨i, e, c, next, rfl, hi, rfl⟩ | ⟨i, c, next, rfl, hi, rfl⟩
  · obtain ⟨next, hj⟩ := nextCall_eq_some_iff.mp hj
    rcases List.mem_append.mp (List.mem_of_getElem? hj) with hold | hnew
    · obtain ⟨k, hk⟩ := List.mem_iff_getElem?.mp hold
      exact .inl ⟨k, nextCall_eq_some_iff.mpr ⟨next, hk⟩⟩
    · exact .inr (.inl ⟨p, rfl, by rw [← List.mem_singleton.mp hnew, Program.next?_call]⟩)
  · by_cases hij : i = j
    · subst hij
      rw [nextCall_set_self hi] at hj
      obtain ⟨next', hnext⟩ := Program.next?_eq_some_iff.mp hj
      exact .inr (.inr ⟨i, e, c, next, rfl, hi, rfl, next', hnext⟩)
    · rw [nextCall_set_of_ne hij] at hj
      exact .inl ⟨j, hj⟩
  · by_cases hij : i = j
    · subst hij
      rw [nextCall_set_self hi] at hj
      cases hj
    · rw [nextCall_set_of_ne hij] at hj
      exact .inl ⟨j, hj⟩

/-- What started programs have, each call keeps for what is left, and an ended program has, every
program of the pool has. -/
theorem procs_step {answer : (c : C) → E → W → W × R c} {Has : Program C R Unit → Prop}
    {pool pool' : Pool W C R} {event : PoolEvent C R E} (h : pool.step answer event = some pool')
    (hspawn : ∀ p, event = .spawn p → Has p)
    (hact : ∀ i e c next, event = .act i e → pool.procs[i]? = some (.call c next) →
      Has (.call c next) → Has (next (answer c e pool.world).2))
    (hdone : Has (.done ())) (hall : ∀ p ∈ pool.procs, Has p) : ∀ p ∈ pool'.procs, Has p := by
  intro q hq
  rcases step_cases h with ⟨p, rfl, rfl⟩ | ⟨i, e, c, next, rfl, hi, rfl⟩ | ⟨i, c, next, rfl, hi, rfl⟩
  · rcases List.mem_append.mp hq with hq | hq
    · exact hall q hq
    · rw [List.mem_singleton.mp hq]
      exact hspawn p rfl
  · rcases List.mem_or_eq_of_mem_set hq with hq | rfl
    · exact hall q hq
    · exact hact i e c next rfl hi (hall _ (List.mem_of_getElem? hi))
  · rcases List.mem_or_eq_of_mem_set hq with hq | rfl
    · exact hall q hq
    · exact hdone

/-- A rule that every started program obeys is obeyed by every live program. -/
theorem always_step {answer : (c : C) → E → W → W × R c} {rule : Program.CallRule C R}
    {pool pool' : Pool W C R} {event : PoolEvent C R E}
    (h : pool.step answer event = some pool') (hspawn : ∀ p, event = .spawn p → p.Always rule)
    (hall : ∀ p ∈ pool.procs, p.Always rule) : ∀ p ∈ pool'.procs, p.Always rule :=
  procs_step h hspawn (fun _ _ _ _ _ _ hcall => hcall.2 _) trivial hall

/-- While the replies given are ones that `rely` admits, a step of a pool keeps each program within
`guar`. -/
theorem under_step {answer : (c : C) → E → W → W × R c} {rely : (c : C) → R c → Prop}
    {guar : C → Prop} {pool pool' : Pool W C R} {event : PoolEvent C R E}
    (h : pool.step answer event = some pool')
    (hspawn : ∀ p, event = .spawn p → p.Under rely guar)
    (hreply : ∀ i e c, event = .act i e → pool.nextCall i = some c →
      rely c (answer c e pool.world).2)
    (hall : ∀ p ∈ pool.procs, p.Under rely guar) : ∀ p ∈ pool'.procs, p.Under rely guar := by
  refine procs_step h hspawn (fun i e c next hevent hi hcall => ?_) trivial hall
  exact hcall.2 _ (hreply i e c hevent (nextCall_eq_some_iff.mpr ⟨next, hi⟩))

/-- What every program is to do after its calls, it is to do after the step. -/
theorem onward_step {answer : (c : C) → E → W → W × R c} {rely : (c : C) → R c → Prop}
    {after : (c : C) → R c → Program C R Unit → Prop} {pool pool' : Pool W C R}
    {event : PoolEvent C R E} (h : pool.step answer event = some pool')
    (hspawn : ∀ p, event = .spawn p → p.Onward rely after)
    (hreply : ∀ c e, rely c (answer c e pool.world).2)
    (hall : ∀ p ∈ pool.procs, p.Onward rely after) : ∀ p ∈ pool'.procs, p.Onward rely after :=
  procs_step h hspawn (fun _ e c _ _ _ hcall => (hcall _ (hreply c e)).2) trivial hall

/-- The same for one program: its own calls alone keep it within `guar`. -/
theorem under_step_at {answer : (c : C) → E → W → W × R c} {rely : (c : C) → R c → Prop}
    {guar : C → Prop} {pool pool' : Pool W C R} {event : PoolEvent C R E} {i : ℕ}
    (h : pool.step answer event = some pool')
    (hreply : ∀ e c, event = .act i e → pool.nextCall i = some c →
      rely c (answer c e pool.world).2)
    (hi : ∃ p, pool.procs[i]? = some p ∧ p.Under rely guar) :
    ∃ p, pool'.procs[i]? = some p ∧ p.Under rely guar := by
  obtain ⟨p, hp, hunder⟩ := hi
  have hlt : i < pool.procs.length := (List.getElem?_eq_some_iff.mp hp).1
  rcases step_cases h with ⟨q, rfl, rfl⟩ | ⟨j, e, c, next, rfl, hj, rfl⟩ | ⟨j, c, next, rfl, hj, rfl⟩
  · exact ⟨p, by rw [List.getElem?_append_left hlt]; exact hp, hunder⟩
  · by_cases hji : j = i
    · subst hji
      obtain rfl : p = .call c next := Option.some.inj (hp.symm.trans hj)
      exact ⟨_, by rw [List.getElem?_set_self hlt],
        hunder.2 _ (hreply e c rfl (nextCall_eq_some_iff.mpr ⟨next, hj⟩))⟩
    · exact ⟨p, by rw [List.getElem?_set_ne hji]; exact hp, hunder⟩
  · by_cases hji : j = i
    · subst hji
      exact ⟨.done (), by rw [List.getElem?_set_self hlt], trivial⟩
    · exact ⟨p, by rw [List.getElem?_set_ne hji]; exact hp, hunder⟩

/-- The world after a step, where every call is one that `guar` admits. -/
theorem world_step {answer : (c : C) → E → W → W × R c} {rely : (c : C) → R c → Prop}
    {guar : C → Prop} {Inv : W → Prop} {pool pool' : Pool W C R} {event : PoolEvent C R E}
    (h : pool.step answer event = some pool') (hall : ∀ p ∈ pool.procs, p.Under rely guar)
    (hinv : Inv pool.world) (hcall : ∀ c e, guar c → Inv (answer c e pool.world).1) :
    Inv pool'.world := by
  rcases step_cases h with ⟨p, rfl, rfl⟩ | ⟨i, e, c, next, rfl, hi, rfl⟩ | ⟨i, c, next, rfl, hi, rfl⟩
  · exact hinv
  · exact hcall c e (hall _ (List.mem_of_getElem? hi)).1
  · exact hinv

end Pool
end LumenHorizon.Foundation
