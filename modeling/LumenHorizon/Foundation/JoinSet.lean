import Mathlib.Tactic

/-! # Bounded parallel work

A loop over a set of spawned tasks: jobs are spawned in order while fewer than a limit are in
flight, otherwise the loop takes the result of a task that has finished, in whatever order they
finish. The first failure ends the loop.
-/

namespace LumenHorizon.Foundation

structure JoinLoop (J R : Type) where
  waiting : List J
  inFlight : List J
  joined : List R
deriving DecidableEq, Repr

inductive JoinStatus (J R ε : Type) where
  | running (s : JoinLoop J R)
  | returned (result : Except ε (List R))

namespace JoinLoop

variable {J R ε : Type} (work : J → Except ε R) (limit : ℕ)

def start (jobs : List J) : JoinLoop J R := ⟨jobs, [], []⟩

/-- `join_next`, where `pick` says which of the tasks has finished. -/
def joinNext (pick : ℕ) (s : JoinLoop J R) : JoinStatus J R ε :=
  let i := pick % s.inFlight.length
  match s.inFlight[i]? with
  | none => .running s
  | some job =>
    match work job with
    | .error e => .returned (.error e)
    | .ok result =>
      .running { s with inFlight := s.inFlight.eraseIdx i, joined := s.joined ++ [result] }

def step (pick : ℕ) (s : JoinLoop J R) : JoinStatus J R ε :=
  match s.waiting with
  | job :: waiting =>
    if s.inFlight.length < limit then
      .running { s with waiting := waiting, inFlight := s.inFlight ++ [job] }
    else s.joinNext work pick
  | [] => if s.inFlight.isEmpty then .returned (.ok s.joined) else s.joinNext work pick

def run : List ℕ → JoinLoop J R → JoinStatus J R ε
  | [], s => .running s
  | pick :: schedule, s =>
    match s.step work limit pick with
    | .running s' => run schedule s'
    | .returned result => .returned result

variable {work limit} {jobs : List J} {s s' : JoinLoop J R} {pick : ℕ}

theorem joinNext_cases (hbusy : s.inFlight ≠ []) (pick : ℕ) :
    ∃ before job after, s.inFlight = before ++ job :: after ∧
      ((∃ e, work job = .error e ∧ s.joinNext work pick = .returned (.error e)) ∨
        ∃ result, work job = .ok result ∧ s.joinNext work pick =
          .running { s with inFlight := before ++ after, joined := s.joined ++ [result] }) := by
  have hlt : pick % s.inFlight.length < s.inFlight.length :=
    Nat.mod_lt _ (List.length_pos_iff.mpr hbusy)
  have hget := List.getElem?_eq_getElem hlt
  refine ⟨s.inFlight.take (pick % s.inFlight.length), s.inFlight[pick % s.inFlight.length],
    s.inFlight.drop (pick % s.inFlight.length + 1), ?_, ?_⟩
  · rw [List.getElem_cons_drop, List.take_append_drop]
  · simp only [joinNext, hget, List.eraseIdx_eq_take_drop_succ]
    cases work s.inFlight[pick % s.inFlight.length] with
    | error e => exact .inl ⟨e, rfl, rfl⟩
    | ok result => exact .inr ⟨result, rfl, rfl⟩

/-- A step spawns the next job, returns, or joins a task. -/
theorem step_cases (work : J → Except ε R) (hlimit : 0 < limit) (s : JoinLoop J R) (pick : ℕ) :
    (∃ job waiting, s.waiting = job :: waiting ∧ s.inFlight.length < limit ∧
      s.step work limit pick =
        .running { s with waiting := waiting, inFlight := s.inFlight ++ [job] }) ∨
    (s.waiting = [] ∧ s.inFlight = [] ∧ s.step work limit pick = .returned (.ok s.joined)) ∨
    ∃ before job after, s.inFlight = before ++ job :: after ∧
      ((∃ e, work job = .error e ∧ s.step work limit pick = .returned (.error e)) ∨
        ∃ result, work job = .ok result ∧ s.step work limit pick =
          .running { s with inFlight := before ++ after, joined := s.joined ++ [result] }) := by
  obtain ⟨waiting, inFlight, joined⟩ := s
  cases waiting with
  | cons job waiting =>
    by_cases hroom : inFlight.length < limit
    · exact .inl ⟨job, waiting, rfl, hroom, if_pos hroom⟩
    · have hbusy : inFlight ≠ [] := by
        rintro rfl
        exact hroom hlimit
      have heq : step work limit pick ⟨job :: waiting, inFlight, joined⟩ =
        joinNext work pick ⟨job :: waiting, inFlight, joined⟩ := if_neg hroom
      rw [heq]
      exact .inr (.inr (joinNext_cases hbusy pick))
  | nil =>
    by_cases hbusy : inFlight = []
    · exact .inr (.inl ⟨rfl, hbusy, by simp [step, hbusy]⟩)
    · have heq : step work limit pick ⟨[], inFlight, joined⟩ =
        joinNext work pick ⟨[], inFlight, joined⟩ := by simp [step, hbusy]
      rw [heq]
      exact .inr (.inr (joinNext_cases hbusy pick))

/-- Every job waits, is in flight or has been joined, and no more are in flight than allowed. -/
structure Accounts (work : J → Except ε R) (limit : ℕ) (jobs : List J) (s : JoinLoop J R) :
    Prop where
  bounded : s.inFlight.length ≤ limit
  finished : ∃ finished, (finished ++ (s.inFlight ++ s.waiting)).Perm jobs ∧
    List.Forall₂ (fun job result => work job = .ok result) finished s.joined

/-- How many steps are left at most, the return apart. -/
def remaining (s : JoinLoop J R) : ℕ := 2 * s.waiting.length + s.inFlight.length

theorem accounts_start (work : J → Except ε R) (limit : ℕ) (jobs : List J) :
    Accounts work limit jobs (start jobs) where
  bounded := Nat.zero_le limit
  finished := ⟨[], .refl jobs, .nil⟩

theorem Accounts.step (hlimit : 0 < limit) (h : Accounts work limit jobs s)
    (hstep : s.step work limit pick = .running s') :
    Accounts work limit jobs s' ∧ s'.remaining < s.remaining := by
  obtain ⟨finished, hperm, hjoined⟩ := h.finished
  rcases step_cases work hlimit s pick with
    ⟨job, waiting, hwaiting, hroom, heq⟩ | ⟨-, -, heq⟩ | ⟨before, job, after, hflight, hjoin⟩
  · cases heq.symm.trans hstep
    refine ⟨⟨?_, finished, ?_, hjoined⟩, ?_⟩
    · simpa using hroom
    · simpa [hwaiting] using hperm
    · simp only [remaining, hwaiting, List.length_cons, List.length_append, List.length_nil]
      omega
  · cases heq.symm.trans hstep
  · rcases hjoin with ⟨e, -, heq⟩ | ⟨result, hresult, heq⟩
    · cases heq.symm.trans hstep
    · cases heq.symm.trans hstep
      have hbounded := h.bounded
      rw [hflight] at hbounded hperm
      simp only [List.length_append, List.length_cons] at hbounded
      refine ⟨⟨?_, finished ++ [job], ?_, ?_⟩, ?_⟩
      · simp only [List.length_append]
        omega
      · refine List.Perm.trans ?_ hperm
        simp only [List.append_assoc, List.cons_append, List.nil_append]
        exact (List.perm_middle.symm).append_left finished
      · exact List.rel_append hjoined (.cons hresult .nil)
      · simp only [remaining, hflight, List.length_append, List.length_cons]
        omega

theorem Accounts.run (hlimit : 0 < limit) (h : Accounts work limit jobs s) {schedule : List ℕ}
    (hrun : s.run work limit schedule = .running s') : Accounts work limit jobs s' := by
  induction schedule generalizing s with
  | nil =>
    cases hrun
    exact h
  | cons pick schedule ih =>
    unfold JoinLoop.run at hrun
    split at hrun
    next next hstep => exact ih (h.step hlimit hstep).1 hrun
    next result hstep => cases hrun

/-- What a return says of the jobs. -/
def Reports (work : J → Except ε R) (jobs : List J) : Except ε (List R) → Prop
  | .ok results => ∃ finished, finished.Perm jobs ∧
      List.Forall₂ (fun job result => work job = .ok result) finished results
  | .error e => ∃ job ∈ jobs, work job = .error e

theorem Accounts.returned (hlimit : 0 < limit) (h : Accounts work limit jobs s)
    {result : Except ε (List R)} (hstep : s.step work limit pick = .returned result) :
    Reports work jobs result := by
  obtain ⟨finished, hperm, hjoined⟩ := h.finished
  rcases step_cases work hlimit s pick with
    ⟨job, waiting, -, -, heq⟩ | ⟨hwaiting, hflight, heq⟩ | ⟨before, job, after, hflight, hjoin⟩
  · cases heq.symm.trans hstep
  · cases heq.symm.trans hstep
    refine ⟨finished, ?_, hjoined⟩
    simpa [hwaiting, hflight] using hperm
  · rcases hjoin with ⟨e, he, heq⟩ | ⟨result, -, heq⟩
    · cases heq.symm.trans hstep
      refine ⟨job, hperm.subset ?_, he⟩
      simp [hflight]
    · cases heq.symm.trans hstep

theorem Accounts.run_returned (hlimit : 0 < limit) (h : Accounts work limit jobs s)
    {schedule : List ℕ} {result : Except ε (List R)}
    (hrun : s.run work limit schedule = .returned result) : Reports work jobs result := by
  induction schedule generalizing s with
  | nil => cases hrun
  | cons pick schedule ih =>
    unfold JoinLoop.run at hrun
    split at hrun
    next next hstep => exact ih (h.step hlimit hstep).1 hrun
    next result' hstep =>
      cases hrun
      exact h.returned hlimit hstep

theorem Accounts.run_ends (hlimit : 0 < limit) (h : Accounts work limit jobs s)
    {schedule : List ℕ} (hlong : s.remaining < schedule.length) :
    ∃ result, s.run work limit schedule = .returned result := by
  induction schedule generalizing s with
  | nil => exact absurd hlong (Nat.not_lt_zero _)
  | cons pick schedule ih =>
    unfold JoinLoop.run
    split
    next next hstep =>
      obtain ⟨hnext, hless⟩ := h.step hlimit hstep
      rw [List.length_cons] at hlong
      exact ih hnext (by omega)
    next result hstep => exact ⟨result, rfl⟩

end JoinLoop

/-- A list that is sorted by a key again after its entries were taken out of order. -/
theorem insertionSort_eq_of_perm {α : Type} {key : α → ℕ} {sorted entries : List α}
    (hsorted : sorted.Pairwise fun a b => key a < key b) (hperm : entries.Perm sorted) :
    entries.insertionSort (fun a b => key a ≤ key b) = sorted := by
  have htotal : Std.Total fun a b : α => key a ≤ key b := ⟨fun a b => le_total _ _⟩
  have htrans : IsTrans α fun a b => key a ≤ key b := ⟨fun a b c => le_trans⟩
  have hinjective : ∀ a ∈ sorted, ∀ b ∈ sorted, key a = key b → a = b := by
    have hkeys : (sorted.map key).Nodup := List.pairwise_map.mpr (hsorted.imp fun h => h.ne)
    intro a ha b hb h
    exact List.inj_on_of_nodup_map hkeys ha hb h
  have hboth := (List.perm_insertionSort (fun a b : α => key a ≤ key b) entries).trans hperm
  refine List.Perm.eq_of_pairwise (fun a b ha hb hab hba => ?_) (List.pairwise_insertionSort _ entries)
    (hsorted.imp fun h => h.le) hboth
  exact hinjective a (hboth.subset ha) b hb (le_antisymm hab hba)

/-- Results that carry the key of their job are sorted back into the order of the jobs. -/
theorem JoinLoop.Reports.sort {J R ε : Type} {work : J → Except ε R} {jobs : List J}
    {results : List R} {jobKey : J → ℕ} {key : R → ℕ} (h : Reports work jobs (.ok results))
    (hjobs : jobs.Pairwise fun a b => jobKey a < jobKey b)
    (hkey : ∀ job result, work job = .ok result → key result = jobKey job) :
    List.Forall₂ (fun job result => work job = .ok result) jobs
      (results.insertionSort fun a b => key a ≤ key b) := by
  obtain ⟨finished, hperm, hresults⟩ := h
  obtain ⟨ordered, hordered, hsame⟩ := List.perm_comp_forall₂ hperm.symm hresults
  have hsorted : ordered.Pairwise fun a b => key a < key b := by
    have hkeys : ordered.map key = jobs.map jobKey := by
      clear hsame hjobs hperm
      induction hordered with
      | nil => rfl
      | cons hresult _ ih => rw [List.map_cons, List.map_cons, ih, hkey _ _ hresult]
    have hlt : (ordered.map key).Pairwise (· < ·) := hkeys ▸ List.pairwise_map.mpr hjobs
    exact List.pairwise_map.mp hlt
  rwa [insertionSort_eq_of_perm hsorted hsame.symm]

end LumenHorizon.Foundation
