import Mathlib.Tactic

/-! # Retries of an HTTP request

The loop of `send_with_retry` keeps the request in an option: every attempt but the last sends a
clone, and the last one, or one whose clone failed, sends the request itself.
-/

namespace LumenHorizon.Shared

/-- Durations are in milliseconds. -/
structure RetryConfig where
  maxAttempts : ℕ
  baseDelay : ℕ
  maxDelay : ℕ
deriving DecidableEq, Repr

/-- Doubles from attempt to attempt, in the saturating arithmetic of `u64`. -/
def RetryConfig.delayForAttempt (policy : RetryConfig) (attempt : ℕ) : ℕ :=
  let exponent := min (attempt - 1) 31
  let multiplier := 2 ^ exponent
  let baseMillis := min policy.baseDelay (2 ^ 64 - 1)
  let delayMillis := min (baseMillis * multiplier) (2 ^ 64 - 1)
  min delayMillis policy.maxDelay

/-- What the loop asks a `reqwest::Error`. -/
structure SendError where
  isTimeout : Bool
  isConnect : Bool
deriving DecidableEq, Repr

structure Response where
  status : ℕ
deriving DecidableEq, Repr

abbrev SendOutcome := Except SendError Response

def isRetryableError (error : SendError) : Bool := error.isTimeout || error.isConnect

def isRetryableStatus (status : ℕ) : Bool :=
  status = 408 ∨ status = 429 ∨ (500 ≤ status ∧ status < 600)

def isRetryable : SendOutcome → Bool
  | .ok response => isRetryableStatus response.status
  | .error error => isRetryableError error

inductive SendEnding where
  | returned (outcome : SendOutcome)
  | panicked (message : String)
deriving DecidableEq, Repr

/-- A call of `send_with_retry`: the requests it sent, the delays it waited and how it ended. -/
structure SendRun (Q : Type) where
  sent : List Q
  waited : List ℕ
  ending : SendEnding
deriving DecidableEq, Repr

section Send

variable {Q : Type} (tryClone : Q → Option Q) (policy : RetryConfig) (outcomes : ℕ → SendOutcome)

/-- `request.take().expect(message)`. -/
def takeRequest (request : Option Q) (message : String) : Except String (Q × Option Q) :=
  match request with
  | some request => .ok (request, none)
  | none => .error message

def attemptRequest (request : Option Q) (attempt maxAttempts : ℕ) : Except String (Q × Option Q) :=
  if attempt = maxAttempts then
    takeRequest request "request remains available for final attempt"
  else
    match request.bind tryClone with
    | some cloned => .ok (cloned, request)
    | none => takeRequest request "request remains available when clone fails"

/-- The loop over the attempts; `outcomes i` is what comes back on the request sent after `i`
others. -/
def sendLoop (maxAttempts : ℕ) : List ℕ → Option Q → List Q → List ℕ → SendRun Q
  | [], _, sent, waited =>
    ⟨sent, waited, .panicked "retry loop always returns from final attempt"⟩
  | attempt :: attempts, request, sent, waited =>
    match attemptRequest tryClone request attempt maxAttempts with
    | .error message => ⟨sent, waited, .panicked message⟩
    | .ok (attemptRequest, request) =>
      let outcome := outcomes sent.length
      if attempt < maxAttempts ∧ isRetryable outcome then
        sendLoop maxAttempts attempts request (sent ++ [attemptRequest])
          (waited ++ [policy.delayForAttempt attempt])
      else ⟨sent ++ [attemptRequest], waited, .returned outcome⟩

def sendWithRetry (request : Q) : SendRun Q :=
  let maxAttempts := max policy.maxAttempts 1
  sendLoop tryClone policy outcomes maxAttempts (List.range' 1 maxAttempts) (some request) [] []

end Send

/-- What is promised of a call: it does not panic, it sends the request, or clones of it, once at
least and as often as the policy allows at most, it goes on exactly after retryable outcomes while
attempts are left, and returns the last outcome. A request that cannot be cloned is sent once. -/
structure SendsWithRetry {Q : Type} (tryClone : Q → Option Q) (policy : RetryConfig)
    (outcomes : ℕ → SendOutcome) (request : Q) (run : SendRun Q) : Prop where
  returns : run.ending = .returned (outcomes (run.sent.length - 1))
  atLeastOnce : 1 ≤ run.sent.length
  atMost : run.sent.length ≤ max 1 policy.maxAttempts
  sends : ∀ sent ∈ run.sent, sent = request ∨ tryClone request = some sent
  goesOn : ∀ i, i + 1 < run.sent.length → isRetryable (outcomes i) = true
  stops : tryClone request ≠ none → isRetryable (outcomes (run.sent.length - 1)) = true →
    run.sent.length = max 1 policy.maxAttempts
  once : tryClone request = none → run.sent.length = 1

section Loop

variable {Q : Type} {tryClone : Q → Option Q} {policy : RetryConfig} {outcomes : ℕ → SendOutcome}
  {request cloned : Q} {maxAttempts : ℕ}

theorem attemptRequest_of_clone (hclone : tryClone request = some cloned) (attempt : ℕ) :
    attemptRequest tryClone (some request) attempt maxAttempts =
      if attempt = maxAttempts then .ok (request, none) else .ok (cloned, some request) := by
  unfold attemptRequest
  split_ifs <;> simp [takeRequest, hclone]

/-- A run that goes on from these requests with this many attempts after the next one. -/
structure GoesOnFrom (outcomes : ℕ → SendOutcome) (request cloned : Q) (sent : List Q)
    (remaining : ℕ) (run : SendRun Q) : Prop where
  returns : run.ending = .returned (outcomes (run.sent.length - 1))
  longer : sent.length < run.sent.length
  bounded : run.sent.length ≤ sent.length + remaining + 1
  sends : ∀ q ∈ run.sent, q ∈ sent ∨ q = request ∨ q = cloned
  goesOn : ∀ i, sent.length ≤ i → i + 1 < run.sent.length → isRetryable (outcomes i) = true
  stops : isRetryable (outcomes (run.sent.length - 1)) = true →
    run.sent.length = sent.length + remaining + 1

theorem goesOnFrom_last {last : Q} {sent : List Q} {remaining : ℕ} (waited : List ℕ)
    (hlast : last = request ∨ last = cloned)
    (h : isRetryable (outcomes sent.length) = true → remaining = 0) :
    GoesOnFrom outcomes request cloned sent remaining
      ⟨sent ++ [last], waited, .returned (outcomes sent.length)⟩ := by
  constructor
  · simp
  · simp
  · simp
  · intro q hq
    rcases List.mem_append.mp hq with hq | hq
    · exact .inl hq
    · exact .inr (List.mem_singleton.mp hq ▸ hlast)
  · intro i hi hlt
    simp only [List.length_append, List.length_singleton] at hlt
    omega
  · intro hretry
    simp only [List.length_append, List.length_singleton, Nat.add_sub_cancel] at hretry ⊢
    rw [h hretry]

/-- From an attempt on, with a request that can be cloned, the loop ends at some later attempt. -/
theorem sendLoop_of_clone (policy : RetryConfig) (outcomes : ℕ → SendOutcome)
    (hclone : tryClone request = some cloned) (remaining attempt : ℕ)
    (hmax : attempt + remaining = maxAttempts) (sent : List Q) (hsent : sent.length + 1 = attempt)
    (waited : List ℕ) :
    GoesOnFrom outcomes request cloned sent remaining
      (sendLoop tryClone policy outcomes maxAttempts (List.range' attempt (remaining + 1))
        (some request) sent waited) := by
  induction remaining generalizing attempt sent waited with
  | zero =>
    have hlast : attempt = maxAttempts := hmax
    simp only [sendLoop, attemptRequest_of_clone hclone, hlast, List.range'_succ, if_true,
      lt_irrefl, false_and, if_false]
    exact goesOnFrom_last waited (.inl rfl) fun _ => rfl
  | succ remaining ih =>
    have hne : attempt ≠ maxAttempts := by omega
    have hlt : attempt < maxAttempts := by omega
    rw [List.range'_succ]
    simp only [sendLoop, attemptRequest_of_clone hclone, if_neg hne, hlt, true_and]
    by_cases hretry : isRetryable (outcomes sent.length) = true
    · rw [if_pos hretry]
      have hrest := ih (attempt + 1) (by omega) (sent ++ [cloned]) (by simp [hsent])
        (waited ++ [policy.delayForAttempt attempt])
      have hlonger := hrest.longer
      have hbounded := hrest.bounded
      simp only [List.length_append, List.length_singleton] at hlonger hbounded
      refine ⟨hrest.returns, by omega, by omega, fun q hq => ?_, fun i hi hlast => ?_, fun h => ?_⟩
      · rcases hrest.sends q hq with hq | hq
        · rcases List.mem_append.mp hq with hq | hq
          · exact .inl hq
          · exact .inr (.inr (List.mem_singleton.mp hq))
        · exact .inr hq
      · rcases Nat.eq_or_lt_of_le hi with rfl | hi
        · exact hretry
        · exact hrest.goesOn i (by simpa using hi) hlast
      · rw [hrest.stops h, List.length_append, List.length_singleton]
        omega
    · rw [if_neg hretry]
      exact goesOnFrom_last waited (.inr rfl) fun h => absurd h hretry

/-- A request that cannot be cloned is sent itself, and is gone then. -/
theorem sendWithRetry_of_no_clone (hclone : tryClone request = none) :
    sendWithRetry tryClone policy outcomes request =
      if isRetryable (outcomes 0) = true ∧ 1 < policy.maxAttempts then
        ⟨[request], [policy.delayForAttempt 1], .panicked
          (if policy.maxAttempts = 2 then "request remains available for final attempt"
            else "request remains available when clone fails")⟩
      else ⟨[request], [], .returned (outcomes 0)⟩ := by
  by_cases hmany : 1 < policy.maxAttempts
  · obtain ⟨remaining, hmax⟩ : ∃ remaining, policy.maxAttempts = remaining + 2 :=
      ⟨policy.maxAttempts - 2, by omega⟩
    have hfirst : attemptRequest tryClone (some request) 1 (remaining + 2) = .ok (request, none) := by
      simp [attemptRequest, takeRequest, hclone]
    -- nothing is left for a second attempt, whichever it is
    have hsecond : attemptRequest tryClone none 2 (remaining + 2) = .error
        (if remaining + 2 = 2 then "request remains available for final attempt"
          else "request remains available when clone fails") := by
      by_cases hlast : remaining = 0
      · simp [attemptRequest, takeRequest, hlast]
      · simp [attemptRequest, takeRequest, hlast]
    have hlong : max (remaining + 2) 1 = remaining + 2 := by omega
    simp only [sendWithRetry, hmax, hlong, List.range'_succ, sendLoop, hfirst, List.length_nil]
    by_cases hretry : isRetryable (outcomes 0) = true
    · simp [hretry, hsecond]
    · simp [hretry]
  · have hone : max policy.maxAttempts 1 = 1 := by omega
    have hfirst : attemptRequest tryClone (some request) 1 1 = .ok (request, none) := by
      simp [attemptRequest, takeRequest]
    simp [sendWithRetry, hone, sendLoop, hfirst, hmany]

end Loop

/-- A call keeps its promise exactly if its request can be cloned, only one attempt is allowed, or
the first outcome is not to be retried. -/
theorem sendsWithRetry_iff {Q : Type} (tryClone : Q → Option Q) (policy : RetryConfig)
    (outcomes : ℕ → SendOutcome) (request : Q) :
    SendsWithRetry tryClone policy outcomes request
        (sendWithRetry tryClone policy outcomes request) ↔
      tryClone request ≠ none ∨ policy.maxAttempts ≤ 1 ∨ isRetryable (outcomes 0) = false := by
  cases hclone : tryClone request with
  | some cloned =>
    refine iff_of_true ?_ (.inl (by simp))
    obtain ⟨remaining, hmax⟩ : ∃ remaining, max policy.maxAttempts 1 = remaining + 1 :=
      ⟨max policy.maxAttempts 1 - 1, by omega⟩
    have hrun := sendLoop_of_clone policy outcomes hclone remaining 1 (Nat.add_comm 1 remaining) []
      rfl []
    rw [sendWithRetry, hmax]
    generalize sendLoop tryClone policy outcomes (remaining + 1) (List.range' 1 (remaining + 1))
      (some request) [] [] = run at hrun ⊢
    have hlonger := hrun.longer
    have hbounded := hrun.bounded
    have hstops := hrun.stops
    simp only [List.length_nil, Nat.zero_add] at hlonger hbounded hstops
    refine ⟨hrun.returns, hlonger, by omega, fun q hq => ?_, fun i => hrun.goesOn i (Nat.zero_le i),
      fun _ h => by rw [hstops h]; omega, fun h => by rw [hclone] at h; cases h⟩
    rcases hrun.sends q hq with hq | rfl | rfl
    · cases hq
    · exact .inl rfl
    · exact .inr hclone
  | none =>
    rw [sendWithRetry_of_no_clone hclone]
    by_cases hpanics : isRetryable (outcomes 0) = true ∧ 1 < policy.maxAttempts
    · rw [if_pos hpanics]
      refine iff_of_false (fun h => ?_) ?_
      · cases h.returns
      · simp [hpanics.1, hpanics.2]
    · rw [if_neg hpanics]
      refine iff_of_true ?_ (.inr ?_)
      · exact ⟨rfl, le_rfl, le_max_left _ _, fun q hq => .inl (List.mem_singleton.mp hq),
          fun i hi => absurd hi (by simp), fun h => absurd hclone h, fun _ => rfl⟩
      · by_cases hretry : isRetryable (outcomes 0) = true
        · exact .inl (not_lt.mp fun hmany => hpanics ⟨hretry, hmany⟩)
        · exact .inr (Bool.eq_false_iff.mpr hretry)

/-- A request with a streamed body, which cannot be cloned, and a server that is overloaded: the
second of three attempts finds no request. -/
theorem not_sendsWithRetry_stream :
    sendWithRetry (fun _ : Unit => none) ⟨3, 100, 1000⟩ (fun _ => .ok ⟨503⟩) () =
        ⟨[()], [100], .panicked "request remains available when clone fails"⟩ ∧
      ¬ SendsWithRetry (fun _ : Unit => none) ⟨3, 100, 1000⟩ (fun _ => .ok ⟨503⟩) ()
        (sendWithRetry (fun _ : Unit => none) ⟨3, 100, 1000⟩ (fun _ => .ok ⟨503⟩) ()) := by
  refine ⟨by decide, fun h => ?_⟩
  exact absurd h.returns (by decide)

end LumenHorizon.Shared
