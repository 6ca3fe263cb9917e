import LumenHorizon.Foundation.History

/-! # Programs under a timeout

A timeout drops a program while it waits for a reply. A call that waits is answered or cut off;
the other calls are answered at once, so nothing comes between them. What was called before the
timeout stays called.
-/

namespace LumenHorizon.Foundation.Program

variable {C : Type} {R : C → Type} {α β : Type}

/-- A call whose reply is certain, or one that a timeout may cut off. -/
inductive Timed (C : Type) where
  | plain (c : C)
  | awaited (c : C)
deriving DecidableEq

abbrev Timed.Reply (R : C → Type) : Timed C → Type
  | plain c => R c
  | awaited c => Option (R c)

def Timed.inner : Timed C → C
  | plain c => c
  | awaited c => c

def untimed : Program C R α → Program (Timed C) (Timed.Reply R) α
  | done a => done a
  | call c next => call (.plain c) fun reply => (next reply).untimed

/-- The program with a timeout around it, which has no result if it is dropped. -/
def withTimeout (waits : C → Bool) : Program C R α → Program (Timed C) (Timed.Reply R) (Option α)
  | done a => done (some a)
  | call c next =>
    if waits c then
      call (.awaited c) fun reply => match reply with
        | none => done none
        | some reply => (next reply).withTimeout waits
    else call (.plain c) fun reply => (next reply).withTimeout waits

def answered : Transcript (Timed C) (Timed.Reply R) → Transcript C R
  | [] => []
  | ⟨.plain c, reply⟩ :: t => ⟨c, reply⟩ :: answered t
  | ⟨.awaited c, some reply⟩ :: t => ⟨c, reply⟩ :: answered t
  | ⟨.awaited _, none⟩ :: t => answered t

/-- Some call was cut off. -/
def Cut (t : Transcript (Timed C) (Timed.Reply R)) : Prop := ∃ c, ⟨.awaited c, none⟩ ∈ t

theorem answered_append (t t' : Transcript (Timed C) (Timed.Reply R)) :
    answered (t ++ t') = answered t ++ answered t' := by
  fun_induction answered t with
  | case1 => rfl
  | case2 c reply t ih => rw [List.cons_append, answered, ih, List.cons_append]
  | case3 c reply t ih => rw [List.cons_append, answered, ih, List.cons_append]
  | case4 c t ih => rw [List.cons_append, answered, ih]

@[simp] theorem not_cut_nil : ¬ Cut ([] : Transcript (Timed C) (Timed.Reply R)) := by
  rintro ⟨c, h⟩
  cases h

theorem cut_cons {entry : Σ c, Timed.Reply R c} {t : Transcript (Timed C) (Timed.Reply R)} :
    Cut (entry :: t) ↔ (∃ c, entry = ⟨.awaited c, none⟩) ∨ Cut t := by
  constructor
  · rintro ⟨c, h⟩
    rcases List.mem_cons.mp h with h | h
    · exact .inl ⟨c, h.symm⟩
    · exact .inr ⟨c, h⟩
  · rintro (⟨c, rfl⟩ | ⟨c, h⟩)
    · exact ⟨c, List.mem_cons_self⟩
    · exact ⟨c, List.mem_cons_of_mem _ h⟩

section Triples

variable {rely : (c : C) → R c → Prop} {guar : Transcript C R → C → Prop}
  {post : Transcript C R → α → Prop}

/-- A call that is cut off has no reply to ask anything of. -/
def Timed.Admits (rely : (c : C) → R c → Prop) : (c : Timed C) → Timed.Reply R c → Prop
  | plain c, reply => rely c reply
  | awaited c, some reply => rely c reply
  | awaited _, none => True

theorem Timed.admits_of_forall (h : ∀ c reply, rely c reply) (c : Timed C)
    (reply : Timed.Reply R c) : Timed.Admits rely c reply := by
  cases c with
  | plain c => exact h c reply
  | awaited c =>
    cases reply with
    | none => trivial
    | some reply => exact h c reply

theorem Meets.untimed {p : Program C R α} {t : Transcript (Timed C) (Timed.Reply R)}
    (hp : p.Meets rely guar post (answered t)) (hcut : ¬ Cut t) :
    p.untimed.Meets (Timed.Admits rely) (fun t' c => guar (answered t') c.inner)
      (fun t' a => post (answered t') a ∧ ¬ Cut t') t := by
  induction p generalizing t with
  | done a => exact ⟨hp, hcut⟩
  | call c next ih =>
    refine ⟨hp.1, fun reply hreply => ?_⟩
    have hrest : (next reply).Meets rely guar post
        (answered (R := R) (⟨.plain c, reply⟩ :: t)) := hp.2 reply hreply
    apply ih reply hrest
    rw [cut_cons]
    simp [hcut]

/-- Under a timeout the program ends as without one, unless it was cut off at a call it waited
for. -/
theorem Meets.withTimeout {waits : C → Bool} {p : Program C R α}
    {t : Transcript (Timed C) (Timed.Reply R)} (hp : p.Meets rely guar post (answered t))
    (hcut : ¬ Cut t) :
    (p.withTimeout waits).Meets (Timed.Admits rely) (fun t' c => guar (answered t') c.inner)
      (fun t' result => match result with
        | some a => post (answered t') a ∧ ¬ Cut t'
        | none => Cut t' ∧ ∃ c, waits c = true ∧ guar (answered t') c) t := by
  induction p generalizing t with
  | done a => exact ⟨hp, hcut⟩
  | call c next ih =>
    rw [Program.withTimeout]
    by_cases hwaits : waits c = true
    · rw [if_pos hwaits]
      refine ⟨hp.1, fun reply hreply => ?_⟩
      cases reply with
      | none => exact ⟨⟨c, List.mem_cons_self⟩, c, hwaits, hp.1⟩
      | some reply =>
        have hrest : (next reply).Meets rely guar post
            (answered (R := R) (⟨.awaited c, some reply⟩ :: t)) := hp.2 reply hreply
        apply ih reply hrest
        rw [cut_cons]
        simp [hcut]
    · rw [if_neg hwaits]
      refine ⟨hp.1, fun reply hreply => ?_⟩
      have hrest : (next reply).Meets rely guar post
          (answered (R := R) (⟨.plain c, reply⟩ :: t)) := hp.2 reply hreply
      apply ih reply hrest
      rw [cut_cons]
      simp [hcut]

/-- What a triple that relies on nothing says of a whole run. -/
theorem Meets.post_of_follows {guar : Transcript (Timed C) (Timed.Reply R) → Timed C → Prop}
    {post : Transcript (Timed C) (Timed.Reply R) → α → Prop}
    {p : Program (Timed C) (Timed.Reply R) α} {t : Transcript (Timed C) (Timed.Reply R)} {a : α}
    (hp : p.Meets (Timed.Admits fun _ _ => True) guar post []) (h : p.Follows t (done a)) :
    post t a := by
  have hend := hp.of_follows h fun entry _ =>
    Timed.admits_of_forall (fun _ _ => trivial) entry.1 entry.2
  rwa [List.append_nil] at hend

/-- What a triple that relies on nothing says of a call in a run. -/
theorem Meets.guar_of_run {guar : Transcript (Timed C) (Timed.Reply R) → Timed C → Prop}
    {post : Transcript (Timed C) (Timed.Reply R) → α → Prop}
    {p q : Program (Timed C) (Timed.Reply R) α} {t t' : Transcript (Timed C) (Timed.Reply R)}
    {c : Timed C} {reply : Timed.Reply R c}
    (hp : p.Meets (Timed.Admits fun _ _ => True) guar post [])
    (h : p.Follows (t' ++ ⟨c, reply⟩ :: t) q) : guar t c := by
  have hguar := hp.guar_of_follows h fun entry _ =>
    Timed.admits_of_forall (fun _ _ => trivial) entry.1 entry.2
  rwa [List.append_nil] at hguar

end Triples

end LumenHorizon.Foundation.Program
