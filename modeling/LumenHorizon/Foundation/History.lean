import LumenHorizon.Foundation.Pool

/-! # Programs with their histories

What a program may do next often depends on the replies it had. A transcript records its calls
with their replies; a triple says which calls may follow which transcript and what holds at the
end. In a pool every live program is the rest of a started one after a transcript, and what each
reply said of the world when it was given can be carried along as long as the steps keep it.
-/

namespace LumenHorizon.Foundation

/-- The calls of a program with their replies, the last one first. -/
abbrev Transcript (C : Type) (R : C → Type) := List (Σ c, R c)

namespace Program

variable {C : Type} {R : C → Type} {α β : Type}

/-- After the calls of the transcript `p` goes on as `q`. -/
inductive Follows (p : Program C R α) : Transcript C R → Program C R α → Prop
  | start : Follows p [] p
  | next {t : Transcript C R} {c : C} {next : R c → Program C R α}
      (before : Follows p t (call c next)) (reply : R c) :
      Follows p (⟨c, reply⟩ :: t) (next reply)

theorem follows_call (c : C) (next : R c → Program C R α) (reply : R c) :
    (call c next).Follows [⟨c, reply⟩] (next reply) := Follows.start.next reply

theorem Follows.trans {p q r : Program C R α} {t t' : Transcript C R} (h : p.Follows t q)
    (h' : q.Follows t' r) : p.Follows (t' ++ t) r := by
  induction h' with
  | start => exact h
  | next _ reply ih => exact ih.next reply

@[simp] theorem follows_done_iff {a : α} {t : Transcript C R} {q : Program C R α} :
    (done a : Program C R α).Follows t q ↔ t = [] ∧ q = done a := by
  constructor
  · intro h
    induction h with
    | start => exact ⟨rfl, rfl⟩
    | next _ reply ih => cases ih.2
  · rintro ⟨rfl, rfl⟩
    exact .start

/-- The first call of a program that has gone on, with the rest of the run. -/
theorem follows_call_iff {c : C} {next : R c → Program C R α} {t : Transcript C R}
    {q : Program C R α} : (call c next).Follows t q ↔
      (t = [] ∧ q = call c next) ∨
        ∃ reply t', (next reply).Follows t' q ∧ t = t' ++ [⟨c, reply⟩] := by
  constructor
  · intro h
    induction h with
    | start => exact .inl ⟨rfl, rfl⟩
    | next before reply ih =>
      rcases ih with ⟨rfl, heq⟩ | ⟨reply', t', h', rfl⟩
      · cases heq
        exact .inr ⟨reply, [], .start, rfl⟩
      · exact .inr ⟨reply', _, h'.next reply, rfl⟩
  · rintro (⟨rfl, rfl⟩ | ⟨reply, t', h', rfl⟩)
    · exact .start
    · exact (follows_call c next reply).trans h'

theorem Follows.bind {p p' : Program C R α} {t : Transcript C R} (h : p.Follows t p')
    (f : α → Program C R β) : (p >>= f).Follows t (p' >>= f) := by
  induction h with
  | start => exact .start
  | next _ reply ih => exact ih.next reply

/-- A sequence is still in its first program, or in its second one after a whole run of the
first. -/
theorem follows_bind_iff {p : Program C R α} {f : α → Program C R β} {t : Transcript C R}
    {q : Program C R β} : (p >>= f).Follows t q ↔
      (∃ p', p.Follows t p' ∧ q = p' >>= f) ∨
        ∃ a t₁ t₂, p.Follows t₁ (done a) ∧ (f a).Follows t₂ q ∧ t = t₂ ++ t₁ := by
  constructor
  · intro h
    induction p generalizing t with
    | done a => exact .inr ⟨a, [], t, .start, h, (List.append_nil t).symm⟩
    | call c next ih =>
      rcases follows_call_iff.mp h with ⟨rfl, rfl⟩ | ⟨reply, t', h', rfl⟩
      · exact .inl ⟨_, .start, rfl⟩
      · rcases ih reply h' with ⟨p', hp', rfl⟩ | ⟨a, t₁, t₂, h₁, h₂, rfl⟩
        · exact .inl ⟨p', (follows_call c next reply).trans hp', rfl⟩
        · exact .inr ⟨a, _, t₂, (follows_call c next reply).trans h₁, h₂, List.append_assoc _ _ _⟩
  · rintro (⟨p', hp', rfl⟩ | ⟨a, t₁, t₂, h₁, h₂, rfl⟩)
    · exact hp'.bind f
    · have hfirst : (p >>= f).Follows t₁ (f a) := h₁.bind f
      exact hfirst.trans h₂

/-- A sequence has ended after a whole run of each of its programs. -/
theorem follows_bind_done_iff {p : Program C R α} {f : α → Program C R β} {t : Transcript C R}
    {b : β} : (p >>= f).Follows t (done b) ↔
      ∃ a t₁ t₂, p.Follows t₁ (done a) ∧ (f a).Follows t₂ (done b) ∧ t = t₂ ++ t₁ := by
  rw [follows_bind_iff]
  constructor
  · rintro (⟨p', hp', heq⟩ | h)
    · cases p' with
      | done a => exact ⟨a, t, [], hp', heq ▸ .start, rfl⟩
      | call c next => cases heq
    · exact h
  · exact .inr

/-- A sequence that starts with one call has ended after its reply. -/
theorem follows_request_bind_done_iff {c : C} {f : R c → Program C R β} {t : Transcript C R}
    {b : β} : (request c >>= f).Follows t (done b) ↔
      ∃ reply t', (f reply).Follows t' (done b) ∧ t = t' ++ [⟨c, reply⟩] := by
  rw [request_bind, follows_call_iff]
  constructor
  · rintro (⟨-, h⟩ | h)
    · cases h
    · exact h
  · exact .inr

/-- Where these calls and replies, the first one first, take a program to its end. -/
def replay [DecidableEq C] : Program C R α → List (Σ c, R c) → Option α
  | done a, [] => some a
  | done _, _ :: _ => none
  | call _ _, [] => none
  | call c next, ⟨c', reply⟩ :: rest => if h : c' = c then (next (h ▸ reply)).replay rest else none

theorem follows_of_replay [DecidableEq C] {p : Program C R α} {replies : List (Σ c, R c)} {a : α}
    (h : p.replay replies = some a) : p.Follows replies.reverse (done a) := by
  induction p generalizing replies with
  | done b =>
    cases replies with
    | nil =>
      cases Option.some.inj h
      exact .start
    | cons entry rest => cases h
  | call c next ih =>
    cases replies with
    | nil => cases h
    | cons entry rest =>
      obtain ⟨c', reply⟩ := entry
      rw [replay] at h
      split_ifs at h with hc
      subst hc
      rw [List.reverse_cons]
      exact (follows_call c' next reply).trans (ih reply h)

theorem exists_follows_of_replay [DecidableEq C] {p : Program C R α} {replies : List (Σ c, R c)}
    (h : (p.replay replies).isSome = true) : ∃ a, p.Follows replies.reverse (done a) := by
  obtain ⟨a, ha⟩ := Option.isSome_iff_exists.mp h
  exact ⟨a, follows_of_replay ha⟩

/-- From the transcript on, while the replies are ones that `rely` admits, every call is one that
`guar` admits after the calls before it, and the end meets `post`. -/
def Meets (rely : (c : C) → R c → Prop) (guar : Transcript C R → C → Prop)
    (post : Transcript C R → α → Prop) : Program C R α → Transcript C R → Prop
  | done a, t => post t a
  | call c next, t =>
    guar t c ∧ ∀ reply, rely c reply → (next reply).Meets rely guar post (⟨c, reply⟩ :: t)

variable {rely : (c : C) → R c → Prop} {guar : Transcript C R → C → Prop}

@[simp] theorem meets_done {post : Transcript C R → α → Prop} {a : α} {t : Transcript C R} :
    (done a : Program C R α).Meets rely guar post t ↔ post t a := Iff.rfl

theorem Meets.call {post : Transcript C R → α → Prop} {c : C} {next : R c → Program C R α}
    {t : Transcript C R} (h : guar t c)
    (hnext : ∀ reply, rely c reply → (next reply).Meets rely guar post (⟨c, reply⟩ :: t)) :
    (Program.call c next).Meets rely guar post t := ⟨h, hnext⟩

theorem Meets.request_bind {post : Transcript C R → β → Prop} {c : C} {f : R c → Program C R β}
    {t : Transcript C R} (h : guar t c)
    (hf : ∀ reply, rely c reply → (f reply).Meets rely guar post (⟨c, reply⟩ :: t)) :
    (request c >>= f).Meets rely guar post t := ⟨h, hf⟩

theorem Meets.bind {mid : Transcript C R → α → Prop} {post : Transcript C R → β → Prop}
    {p : Program C R α} {f : α → Program C R β} {t : Transcript C R}
    (hp : p.Meets rely guar mid t)
    (hf : ∀ t' a, mid t' a → (f a).Meets rely guar post t') :
    (p >>= f).Meets rely guar post t := by
  induction p generalizing t with
  | done a => exact hf t a hp
  | call c next ih => exact ⟨hp.1, fun reply hreply => ih reply (hp.2 reply hreply)⟩

theorem Meets.mono {guar' : Transcript C R → C → Prop} {post post' : Transcript C R → α → Prop}
    {p : Program C R α} {t : Transcript C R} (hp : p.Meets rely guar post t)
    (hguar : ∀ t' c, guar t' c → guar' t' c) (hpost : ∀ t' a, post t' a → post' t' a) :
    p.Meets rely guar' post' t := by
  induction p generalizing t with
  | done a => exact hpost t a hp
  | call c next ih =>
    exact ⟨hguar t c hp.1, fun reply hreply => ih reply (hp.2 reply hreply)⟩

theorem Meets.of_always {ok : C → Prop} {p : Program C R α} (hp : p.Always fun c _ => ok c)
    (hguar : ∀ t c, ok c → guar t c) (t : Transcript C R) :
    p.Meets rely guar (fun _ _ => True) t := by
  induction p generalizing t with
  | done a => trivial
  | call c next ih => exact ⟨hguar t c hp.1, fun reply _ => ih reply (hp.2 reply) _⟩

theorem meets_true (p : Program C R α) (t : Transcript C R) :
    p.Meets rely (fun _ _ => True) (fun _ _ => True) t := by
  induction p generalizing t with
  | done a => trivial
  | call c next ih => exact ⟨trivial, fun reply _ => ih reply _⟩

/-- A rule about single calls, which every call that the program adds has kept to. -/
theorem Meets.of_under {ok : C → Prop} {p : Program C R α} (hp : p.Under rely ok)
    (t : Transcript C R) :
    p.Meets rely (fun t' c => ok c ∧ ∃ t₁, t' = t₁ ++ t ∧ ∀ entry ∈ t₁, ok entry.1)
      (fun t' _ => ∃ t₁, t' = t₁ ++ t ∧ ∀ entry ∈ t₁, ok entry.1) t := by
  have hgeneral : ∀ t₁ : Transcript C R, (∀ entry ∈ t₁, ok entry.1) →
      p.Meets rely (fun t' c => ok c ∧ ∃ t₁, t' = t₁ ++ t ∧ ∀ entry ∈ t₁, ok entry.1)
        (fun t' _ => ∃ t₁, t' = t₁ ++ t ∧ ∀ entry ∈ t₁, ok entry.1) (t₁ ++ t) := by
    induction p with
    | done a => exact fun t₁ ht₁ => ⟨t₁, rfl, ht₁⟩
    | call c next ih =>
      intro t₁ ht₁
      refine ⟨⟨hp.1, t₁, rfl, ht₁⟩, fun reply hreply => ?_⟩
      apply ih reply (hp.2 reply hreply) (⟨c, reply⟩ :: t₁)
      intro entry hentry
      rcases List.mem_cons.mp hentry with rfl | hentry
      · exact hp.1
      · exact ht₁ entry hentry
  exact hgeneral [] fun _ h => absurd h List.not_mem_nil

/-- A triple from the empty transcript speaks of what comes after any other one. -/
theorem Meets.frame {post : Transcript C R → α → Prop} {p : Program C R α}
    (hp : p.Meets rely guar post []) (t₀ : Transcript C R) :
    p.Meets rely (fun t c => ∃ t₁, t = t₁ ++ t₀ ∧ guar t₁ c)
      (fun t a => ∃ t₁, t = t₁ ++ t₀ ∧ post t₁ a) t₀ := by
  have hgeneral : ∀ t₁ : Transcript C R, p.Meets rely guar post t₁ →
      p.Meets rely (fun t c => ∃ t₁, t = t₁ ++ t₀ ∧ guar t₁ c)
        (fun t a => ∃ t₁, t = t₁ ++ t₀ ∧ post t₁ a) (t₁ ++ t₀) := by
    clear hp
    induction p with
    | done a => exact fun t₁ h => ⟨t₁, rfl, h⟩
    | call c next ih =>
      intro t₁ h
      exact ⟨⟨t₁, rfl, h.1⟩, fun reply hreply => ih reply (⟨c, reply⟩ :: t₁) (h.2 reply hreply)⟩
  exact hgeneral [] hp

/-- A program only adds to the transcript it started from, and ends with one of its own. -/
theorem Meets.traced {post : Transcript C R → α → Prop} {p q : Program C R α}
    {t₀ t : Transcript C R} (hp : p.Meets rely guar post (t ++ t₀)) (hq : q.Follows t p) :
    p.Meets rely (fun t' c => guar t' c ∧ ∃ t₁, t' = t₁ ++ t₀)
      (fun t' a => post t' a ∧ ∃ t₁, t' = t₁ ++ t₀ ∧ q.Follows t₁ (done a)) (t ++ t₀) := by
  induction p generalizing t with
  | done a => exact ⟨hp, t, rfl, hq⟩
  | call c next ih =>
    refine ⟨⟨hp.1, t, rfl⟩, fun reply hreply => ?_⟩
    have hrest : (next reply).Meets rely guar post ((⟨c, reply⟩ :: t) ++ t₀) := hp.2 reply hreply
    exact ih reply hrest (hq.next reply)

/-- Along histories of narrower replies, a triple bounds the calls by themselves. -/
theorem Meets.under {rely' : (c : C) → R c → Prop} {guar' : C → Prop}
    {post : Transcript C R → α → Prop} {p : Program C R α} {t : Transcript C R}
    (hp : p.Meets rely guar post t) (hrely : ∀ c reply, rely' c reply → rely c reply)
    (hguar : ∀ t' c, (∀ entry ∈ t', rely' entry.1 entry.2) → guar t' c → guar' c)
    (ht : ∀ entry ∈ t, rely' entry.1 entry.2) : p.Under rely' guar' := by
  induction p generalizing t with
  | done a => trivial
  | call c next ih =>
    refine ⟨hguar t c ht hp.1, fun reply hreply => ?_⟩
    apply ih reply (hp.2 reply (hrely c reply hreply))
    intro entry hentry
    rcases List.mem_cons.mp hentry with rfl | hentry
    · exact hreply
    · exact ht entry hentry

/-- A triple holds wherever the program gets to on admitted replies. -/
theorem Meets.of_follows {post : Transcript C R → α → Prop} {p q : Program C R α}
    {t₀ t : Transcript C R} (hp : p.Meets rely guar post t₀) (h : p.Follows t q)
    (ht : ∀ entry ∈ t, rely entry.1 entry.2) : q.Meets rely guar post (t ++ t₀) := by
  induction h with
  | start => exact hp
  | next _ reply ih =>
    have hbefore := ih fun entry hentry => ht entry (List.mem_cons_of_mem _ hentry)
    exact hbefore.2 reply (ht _ List.mem_cons_self)

/-- Every call of a run is one that the triple admits after the calls before it. -/
theorem Meets.guar_of_follows {post : Transcript C R → α → Prop} {p q : Program C R α}
    {t₀ t t' : Transcript C R} {c : C} {reply : R c} (hp : p.Meets rely guar post t₀)
    (h : p.Follows (t' ++ ⟨c, reply⟩ :: t) q)
    (ht : ∀ entry ∈ t' ++ ⟨c, reply⟩ :: t, rely entry.1 entry.2) : guar (t ++ t₀) c := by
  induction t' generalizing q with
  | nil =>
    cases h with
    | next before reply =>
      have hbefore := hp.of_follows before fun entry hentry => ht entry (List.mem_cons_of_mem _ hentry)
      exact hbefore.1
  | cons entry t' ih =>
    cases h with
    | next before reply =>
      exact ih before fun entry hentry => ht entry (List.mem_cons_of_mem _ hentry)

/-- Two whole runs that one history begins with are the same run. -/
theorem Follows.unique {p : Program C R α} {t₁ t₂ t : Transcript C R} {a b : α}
    (h₁ : p.Follows t₁ (done a)) (h₂ : p.Follows t₂ (done b)) (ht₁ : t₁ <:+ t) (ht₂ : t₂ <:+ t) :
    t₁ = t₂ ∧ a = b := by
  induction p generalizing t₁ t₂ t with
  | done a' =>
    obtain ⟨rfl, ha⟩ := follows_done_iff.mp h₁
    obtain ⟨rfl, hb⟩ := follows_done_iff.mp h₂
    cases ha
    cases hb
    exact ⟨rfl, rfl⟩
  | call c next ih =>
    rcases follows_call_iff.mp h₁ with ⟨-, heq⟩ | ⟨reply₁, t₁', h₁', rfl⟩
    · cases heq
    rcases follows_call_iff.mp h₂ with ⟨-, heq⟩ | ⟨reply₂, t₂', h₂', rfl⟩
    · cases heq
    -- both runs have the first reply of the history
    obtain ⟨later₁, rfl⟩ := ht₁
    obtain ⟨later₂, hlater⟩ := ht₂
    rw [← List.append_assoc, ← List.append_assoc] at hlater
    obtain ⟨hrest, hreply⟩ := List.append_inj' hlater rfl
    cases hreply
    have hsuffix : t₂' <:+ later₁ ++ t₁' := hrest ▸ List.suffix_append later₂ t₂'
    obtain ⟨rfl, hab⟩ := ih _ h₁' h₂' (List.suffix_append later₁ t₁') hsuffix
    exact ⟨rfl, hab⟩

end Program

/-- Every entry of the transcript is vouched for, after the entries before it. -/
def Witnessed {C : Type} {R : C → Type} (fact : Transcript C R → (c : C) → R c → Prop) :
    Transcript C R → Prop
  | [] => True
  | ⟨c, reply⟩ :: t => fact t c reply ∧ Witnessed fact t

theorem Witnessed.of_mem {C : Type} {R : C → Type}
    {fact : Transcript C R → (c : C) → R c → Prop} {t : Transcript C R} (h : Witnessed fact t)
    {c : C} {reply : R c} (hmem : ⟨c, reply⟩ ∈ t) : ∃ t', fact t' c reply := by
  induction t with
  | nil => cases hmem
  | cons entry t ih =>
    rcases List.mem_cons.mp hmem with rfl | hmem
    · exact ⟨t, h.1⟩
    · exact ih h.2 hmem

theorem Witnessed.mono {C : Type} {R : C → Type}
    {fact fact' : Transcript C R → (c : C) → R c → Prop} {t : Transcript C R}
    (h : Witnessed fact t) (himp : ∀ t' c reply, fact t' c reply → fact' t' c reply) :
    Witnessed fact' t := by
  induction t with
  | nil => trivial
  | cons entry t ih => exact ⟨himp _ _ _ h.1, ih h.2⟩

/-- The same, where what holds of the earlier entries may be used. -/
theorem Witnessed.mono_of {C : Type} {R : C → Type}
    {fact fact' : Transcript C R → (c : C) → R c → Prop} {t : Transcript C R}
    (h : Witnessed fact t)
    (himp : ∀ t' c reply, Witnessed fact t' → fact t' c reply → fact' t' c reply) :
    Witnessed fact' t := by
  induction t with
  | nil => trivial
  | cons entry t ih => exact ⟨himp _ _ _ h.2 h.1, ih h.2⟩

theorem Witnessed.of_append {C : Type} {R : C → Type}
    {fact : Transcript C R → (c : C) → R c → Prop} {t t' : Transcript C R}
    (h : Witnessed fact (t ++ t')) : Witnessed fact t' := by
  induction t with
  | nil => exact h
  | cons entry t ih => exact ih h.2

/-- Each entry of a log has what it needs before it. -/
def Preceded {α : Type} (needs : List α → α → Prop) (log : List α) : Prop :=
  ∀ before entry after, log = before ++ entry :: after → needs before entry

theorem preceded_nil {α : Type} (needs : List α → α → Prop) : Preceded needs [] := by
  intro before entry after h
  simp at h

/-- A new entry is last, and the others stay where they are. -/
theorem Preceded.concat {α : Type} {needs : List α → α → Prop} {log : List α} {entry : α}
    (h : Preceded needs log) (hentry : needs log entry) : Preceded needs (log ++ [entry]) := by
  intro before other after heq
  rcases List.eq_nil_or_concat after with rfl | ⟨rest, last, rfl⟩
  · obtain ⟨rfl, hlast⟩ := List.append_inj' heq rfl
    cases hlast
    exact hentry
  · have hsplit : log ++ [entry] = (before ++ other :: rest) ++ [last] := by
      rw [heq]
      simp
    exact h before other rest (List.append_inj' hsplit rfl).1

namespace Pool

variable {W C E : Type} {R : C → Type}

/-- Program `p` is what is left of a started program, with a transcript that the world vouches
for. -/
def Vouched (Started : Program C R Unit → Prop)
    (fact : W → Transcript C R → (c : C) → R c → Prop) (world : W) (p : Program C R Unit) : Prop :=
  ∃ p₀ t, Started p₀ ∧ p₀.Follows t p ∧ Witnessed (fact world) t

/-- A step keeps every live program vouched for, if each call makes true what its own reply says
and keeps what earlier replies said. -/
theorem vouched_step {answer : (c : C) → E → W → W × R c} {Started : Program C R Unit → Prop}
    {fact : W → Transcript C R → (c : C) → R c → Prop} {pool pool' : Pool W C R}
    {event : PoolEvent C R E} (h : pool.step answer event = some pool')
    (hspawn : ∀ p, event = .spawn p → Started p)
    (hcall : ∀ p₀ t c next e, Started p₀ → p₀.Follows t (.call c next) →
      Witnessed (fact pool.world) t →
      fact (answer c e pool.world).1 t c (answer c e pool.world).2 ∧
        ∀ t' c' reply, fact pool.world t' c' reply → fact (answer c e pool.world).1 t' c' reply)
    (hall : ∀ p ∈ pool.procs, p.next? ≠ none → Vouched Started fact pool.world p) :
    ∀ p ∈ pool'.procs, p.next? ≠ none → Vouched Started fact pool'.world p := by
  intro q hq hlive
  rcases step_cases h with ⟨p, rfl, rfl⟩ | ⟨i, e, c, next, rfl, hi, rfl⟩ | ⟨i, c, next, rfl, hi, rfl⟩
  · rcases List.mem_append.mp hq with hq | hq
    · exact hall q hq hlive
    · rw [List.mem_singleton.mp hq]
      exact ⟨p, [], hspawn p rfl, .start, trivial⟩
  · obtain ⟨p₀, t, hp₀, hfollows, ht⟩ := hall _ (List.mem_of_getElem? hi) (by simp)
    obtain ⟨hnew, hkeep⟩ := hcall p₀ t c next e hp₀ hfollows ht
    rcases List.mem_or_eq_of_mem_set hq with hq | rfl
    · obtain ⟨q₀, t', hq₀, hq', ht'⟩ := hall q hq hlive
      exact ⟨q₀, t', hq₀, hq', ht'.mono hkeep⟩
    · exact ⟨p₀, _, hp₀, hfollows.next _, hnew, ht.mono hkeep⟩
  · rcases List.mem_or_eq_of_mem_set hq with hq | rfl
    · exact hall q hq hlive
    · exact absurd rfl hlive

end Pool
end LumenHorizon.Foundation
