import LumenHorizon.Processing.Commands
import LumenHorizon.Processing.Delivery

/-! # The worker's loop

The worker takes one delivery after another until a receive returns no message. The first delivery
that returns an error ends the run, whatever is still in the queue.
-/

namespace LumenHorizon.Processing
open Foundation Shared Program

/-- `Command::Worker`. Each delivery has a time of its own; a run that has used up these times is
still going on. -/
def worker (config : ProcessingConfig) (fromStr : String → Except String RawProcessingMessage) :
    List ℕ → ProcessingProgram (Option (Except ServiceError Unit))
  | [] => pure none
  | promotedAt :: times => do
    match ← processOnce config fromStr promotedAt with
    | .error error => pure (some (.error error))
    | .ok .handledMessage => worker config fromStr times
    | .ok .noMessage => pure (some (.ok ()))

/-- One delivery of a run: the time its publication reads, and its calls with their replies, the
last one first. -/
structure WorkerDelivery where
  promotedAt : ℕ
  history : History

section Runs

variable (config : ProcessingConfig) (fromStr : String → Except String RawProcessingMessage)

/-- The runs of the worker, by their deliveries. -/
inductive WorkerRun : List WorkerDelivery → Except ServiceError Unit → Prop
  | failed {d : WorkerDelivery} {error : ServiceError}
      (h : (processOnce config fromStr d.promotedAt).Follows d.history (.done (.error error))) :
      WorkerRun [d] (.error error)
  | noMessage {d : WorkerDelivery}
      (h : (processOnce config fromStr d.promotedAt).Follows d.history (.done (.ok .noMessage))) :
      WorkerRun [d] (.ok ())
  | handledMessage {d : WorkerDelivery} {rest : List WorkerDelivery}
      {result : Except ServiceError Unit}
      (h : (processOnce config fromStr d.promotedAt).Follows d.history
        (.done (.ok .handledMessage)))
      (hrest : WorkerRun rest result) : WorkerRun (d :: rest) result

variable {config fromStr}

/-- The ended runs of the loop are the runs by deliveries. -/
theorem worker_follows_done_iff {times : List ℕ} {t : History}
    {result : Except ServiceError Unit} :
    (worker config fromStr times).Follows t (.done (some result)) ↔
      ∃ deliveries, WorkerRun config fromStr deliveries result ∧
        deliveries.map WorkerDelivery.promotedAt <+: times ∧
        t = deliveries.reverse.flatMap WorkerDelivery.history := by
  induction times generalizing t with
  | nil =>
    constructor
    · intro h
      cases (follows_done_iff.mp h).2
    · rintro ⟨deliveries, hrun, htimes, -⟩
      cases hrun <;> exact absurd htimes (by simp)
  | cons promotedAt times ih =>
    rw [worker, follows_bind_done_iff]
    constructor
    · rintro ⟨outcome, t₁, t₂, h₁, h₂, rfl⟩
      rcases outcome with error | outcome
      · obtain ⟨rfl, heq⟩ := follows_done_iff.mp h₂
        cases heq
        exact ⟨[⟨promotedAt, t₁⟩], .failed h₁, by simp, by simp⟩
      · cases outcome with
        | handledMessage =>
          obtain ⟨deliveries, hrun, htimes, rfl⟩ := ih.mp h₂
          refine ⟨⟨promotedAt, t₁⟩ :: deliveries, .handledMessage h₁ hrun, ?_, ?_⟩
          · simpa using htimes
          · simp
        | noMessage =>
          obtain ⟨rfl, heq⟩ := follows_done_iff.mp h₂
          cases heq
          exact ⟨[⟨promotedAt, t₁⟩], .noMessage h₁, by simp, by simp⟩
    · rintro ⟨deliveries, hrun, htimes, rfl⟩
      cases hrun with
      | @failed d error h =>
        have htime : d.promotedAt = promotedAt := by simpa using htimes
        exact ⟨_, d.history, [], htime ▸ h, .start, by simp⟩
      | @noMessage d h =>
        have htime : d.promotedAt = promotedAt := by simpa using htimes
        exact ⟨_, d.history, [], htime ▸ h, .start, by simp⟩
      | @handledMessage d rest result h hrest =>
        rw [List.map_cons, List.cons_prefix_cons] at htimes
        obtain ⟨htime, htimes⟩ := htimes
        exact ⟨.ok .handledMessage, d.history, _, htime ▸ h, ih.mpr ⟨rest, hrest, htimes, rfl⟩, by simp⟩

end Runs

/-! ## What a delivery comes to -/

/-- The queue's own calls and the database answer. A start may still find no ingest row, and
downloads, local tools and uploads may fail. -/
def Healthy : (c : ProcessingCall) → c.Reply → Prop
  | .receiveMessages _ _ _, reply => reply.isOk
  | .deleteMessage _ _ _, reply => reply.isOk
  | .enqueueMessage _ _, reply => reply.isOk
  | .connect, reply => reply.isOk
  | .markEnding _ _, reply => reply.isOk
  | _, _ => True

namespace WorkerDelivery

/-- The receive of this delivery returned these messages, and these calls came after it. -/
def Received (config : ProcessingConfig) (d : WorkerDelivery)
    (messages : List ReceivedQueueMessage)
    (later : History) : Prop :=
  d.history = later ++ [⟨.receiveMessages config.azureQueueName 1
    config.processingVisibilityTimeoutSeconds, .ok messages⟩, ⟨.newQueueClient, .ok ()⟩]

/-- The receive of this delivery returned no message. -/
def FoundNoMessage (config : ProcessingConfig) (d : WorkerDelivery) : Prop :=
  ∃ later, d.Received config [] later

/-- The message does not parse, or, with these calls and replies, its processing fails on something
else than a missing ingest row. -/
def FailsToProcess (config : ProcessingConfig)
    (fromStr : String → Except String RawProcessingMessage) (d : WorkerDelivery)
    (message : ReceivedQueueMessage) (later : History) : Prop :=
  ∀ parsed, ProcessingMessage.parseJson fromStr message.messageText = .ok parsed →
    ∃ t error, t <:+ later ∧ isMissingIngestLogError error = false ∧
      (processParsedMessage config parsed d.promotedAt).Follows t (.done (.error error))

/-- The message fails while it has deliveries left. -/
def Leaves (config : ProcessingConfig)
    (fromStr : String → Except String RawProcessingMessage) (d : WorkerDelivery)
    (message : ReceivedQueueMessage) (later : History) : Prop :=
  shouldDeadletter message.dequeueCount config.processingMaxDequeueCount = false ∧
    d.FailsToProcess config fromStr message later

/-- The received message stays in the queue for a retry. -/
def LeftForRetry (config : ProcessingConfig)
    (fromStr : String → Except String RawProcessingMessage) (d : WorkerDelivery) : Prop :=
  ∃ messages message later, d.Received config messages later ∧ messages.getLast? = some message ∧
    d.Leaves config fromStr message later

/-- The queue client could not be built. -/
def WithoutClient (d : WorkerDelivery) : Prop :=
  ∃ error, d.history = [⟨.newQueueClient, .error error⟩]

variable {config : ProcessingConfig} {d : WorkerDelivery}
  {messages messages' : List ReceivedQueueMessage} {later later' : History}

theorem Received.unique (h : d.Received config messages later)
    (h' : d.Received config messages' later') : messages = messages' ∧ later = later' := by
  unfold Received at h h'
  obtain ⟨hlater, hend⟩ := List.append_inj' (h.symm.trans h') rfl
  simp only [List.cons.injEq, Sigma.mk.injEq, heq_eq_eq, true_and, and_true,
    Except.ok.injEq] at hend
  exact ⟨hend, hlater⟩

theorem Received.not_withoutClient (h : d.Received config messages later) :
    ¬ d.WithoutClient := by
  rintro ⟨error, herror⟩
  have hlength := congrArg List.length (herror.symm.trans h)
  simp at hlength

theorem WithoutClient.not_received (h : d.WithoutClient) : ¬ d.Received config messages later :=
  fun hreceived => hreceived.not_withoutClient h

end WorkerDelivery

section Deliveries

variable {config : ProcessingConfig} {fromStr : String → Except String RawProcessingMessage}
  {d : WorkerDelivery} {message : ReceivedQueueMessage} {later : History}
  {outcome : Except ServiceError ProcessOnceOutcome}

/-- A whole delivery fails to build its client, receives nothing, or goes on with a message. -/
theorem processOnce_follows_done
    (h : (processOnce config fromStr d.promotedAt).Follows d.history (.done outcome))
    (hreplies : ∀ entry ∈ d.history, Healthy entry.1 entry.2) :
    (d.WithoutClient ∧ ∃ error, outcome = .error error) ∨
      (d.Received config [] [] ∧ outcome = .ok .noMessage) ∨
      ∃ messages message later, d.Received config messages later ∧
        messages.getLast? = some message ∧
        (handleMessage config fromStr d.promotedAt message).Follows later (.done outcome) := by
  obtain ⟨client, t, hclient, ht⟩ := follows_request_bind_done_iff.mp h
  rcases client with error | ⟨⟩
  · obtain ⟨rfl, heq⟩ := follows_done_iff.mp hclient
    cases heq
    exact .inl ⟨⟨error, ht⟩, _, rfl⟩
  · obtain ⟨received, later, hreceive, rfl⟩ := follows_request_bind_done_iff.mp hclient
    have hok : received.isOk = true :=
      hreplies ⟨.receiveMessages config.azureQueueName 1 config.processingVisibilityTimeoutSeconds,
        received⟩ (by simp [ht])
    rcases received with error | messages
    · cases hok
    · have hd : d.Received config messages later := by
        rw [WorkerDelivery.Received, ht, List.append_assoc]
        rfl
      cases hlast : messages.getLast? with
      | none =>
        simp only [hlast] at hreceive
        obtain ⟨rfl, heq⟩ := follows_done_iff.mp hreceive
        cases heq
        rw [List.getLast?_eq_none_iff] at hlast
        exact .inr (.inl ⟨hlast ▸ hd, rfl⟩)
      | some message =>
        simp only [hlast] at hreceive
        exact .inr (.inr ⟨messages, message, later, hd, hlast, hreceive⟩)

theorem deadletterMessage_follows_done
    (h : (deadletterMessage config message).Follows later (.done outcome))
    (hreplies : ∀ entry ∈ later, Healthy entry.1 entry.2) : outcome = .ok .handledMessage := by
  obtain ⟨moved, t₁, t₂, hmove, hend, rfl⟩ := follows_bind_done_iff.mp h
  obtain ⟨enqueued, t, henqueue, rfl⟩ := follows_request_bind_done_iff.mp hmove
  have henqueued : enqueued.isOk = true := hreplies ⟨_, enqueued⟩ (by simp)
  rcases enqueued with error | ⟨⟩
  · cases henqueued
  · obtain ⟨deleted, t', hdelete, rfl⟩ := follows_request_bind_done_iff.mp henqueue
    have hdeleted : deleted.isOk = true := hreplies ⟨_, deleted⟩ (by simp)
    rcases deleted with error | ⟨⟩
    · cases hdeleted
    · cases (follows_done_iff.mp hdelete).2
      cases (follows_done_iff.mp hend).2
      rfl

theorem markProcessingFailure_follows_done {processingMessage : ProcessingMessage}
    {error : ServiceError} {deadlettered : Bool} {marked : Except ServiceError Unit}
    (h : (markProcessingFailure processingMessage error deadlettered).Follows later (.done marked))
    (hreplies : ∀ entry ∈ later, Healthy entry.1 entry.2) : marked = .ok () := by
  obtain ⟨connected, t, hconnect, rfl⟩ := follows_request_bind_done_iff.mp h
  have hconnected : connected.isOk = true := hreplies ⟨_, connected⟩ (by simp)
  rcases connected with error | ⟨⟩
  · cases hconnected
  · cases deadlettered
    all_goals
      obtain ⟨reply, t', hmark, rfl⟩ := follows_request_bind_done_iff.mp hconnect
      have hreply : reply.isOk = true := hreplies ⟨_, reply⟩ (by simp)
      rcases reply with error | ⟨⟩
      · cases hreply
      · cases (follows_done_iff.mp hmark).2
        rfl

/-- A failure ends the delivery in an error exactly if the message is left for a retry. -/
theorem handleFailure_follows_done {processingMessage : ProcessingMessage} {error : ServiceError}
    (h : (handleFailure config message processingMessage error).Follows later (.done outcome))
    (hreplies : ∀ entry ∈ later, Healthy entry.1 entry.2) :
    outcome = if isMissingIngestLogError error ∨
        shouldDeadletter message.dequeueCount config.processingMaxDequeueCount
      then .ok .handledMessage else .error error := by
  unfold handleFailure at h
  by_cases hmissing : isMissingIngestLogError error = true
  · rw [if_pos hmissing] at h
    rw [if_pos (.inl hmissing)]
    exact deadletterMessage_follows_done h hreplies
  · rw [if_neg hmissing] at h
    by_cases hexhausted :
        shouldDeadletter message.dequeueCount config.processingMaxDequeueCount = true
    · rw [if_pos hexhausted] at h
      rw [if_pos (.inr hexhausted)]
      obtain ⟨marked, t₁, t₂, hmark, hmove, rfl⟩ := follows_bind_done_iff.mp h
      rw [List.forall_mem_append] at hreplies
      cases markProcessingFailure_follows_done hmark hreplies.2
      exact deadletterMessage_follows_done hmove hreplies.1
    · rw [if_neg hexhausted] at h
      rw [if_neg (not_or.mpr ⟨hmissing, hexhausted⟩)]
      obtain ⟨marked, t₁, t₂, hmark, hend, rfl⟩ := follows_bind_done_iff.mp h
      rw [List.forall_mem_append] at hreplies
      cases markProcessingFailure_follows_done hmark hreplies.2
      cases (follows_done_iff.mp hend).2
      rfl

/-- A received message is handled, or it is left for a retry and ends the delivery in an error. -/
theorem handleMessage_follows_done
    (h : (handleMessage config fromStr d.promotedAt message).Follows later (.done outcome))
    (hreplies : ∀ entry ∈ later, Healthy entry.1 entry.2) :
    (d.Leaves config fromStr message later ∧ ∃ error, outcome = .error error) ∨
      (¬ d.Leaves config fromStr message later ∧ outcome = .ok .handledMessage) := by
  unfold handleMessage at h
  cases hparse : ProcessingMessage.parseJson fromStr message.messageText with
  | error error =>
    have hfails : d.FailsToProcess config fromStr message later := by
      intro parsed hparsed
      rw [hparse] at hparsed
      cases hparsed
    simp only [hparse] at h
    by_cases hexhausted :
        shouldDeadletter message.dequeueCount config.processingMaxDequeueCount = true
    · rw [if_pos hexhausted] at h
      exact .inr ⟨fun hleaves => Bool.eq_false_iff.mp hleaves.1 hexhausted,
        deadletterMessage_follows_done h hreplies⟩
    · rw [if_neg hexhausted] at h
      cases (follows_done_iff.mp h).2
      exact .inl ⟨⟨Bool.eq_false_iff.mpr hexhausted, hfails⟩, _, rfl⟩
  | ok parsed =>
    simp only [hparse] at h
    obtain ⟨processed, t₁, t₂, hprocess, hend, rfl⟩ := follows_bind_done_iff.mp h
    rw [List.forall_mem_append] at hreplies
    -- the replies decide how the processing ends
    have hfails : d.FailsToProcess config fromStr message (t₂ ++ t₁) ↔
        ∃ error, processed = .error error ∧ isMissingIngestLogError error = false := by
      constructor
      · intro hfails
        obtain ⟨t, error, ht, hmissing, hfollows⟩ := hfails parsed hparse
        obtain ⟨-, heq⟩ := hprocess.unique hfollows (List.suffix_append t₂ t₁) ht
        exact ⟨error, heq, hmissing⟩
      · rintro ⟨error, rfl, hmissing⟩ parsed' hparsed'
        rw [hparse] at hparsed'
        cases hparsed'
        exact ⟨t₁, error, List.suffix_append t₂ t₁, hmissing, hprocess⟩
    rcases processed with error | ⟨⟩
    · have houtcome := handleFailure_follows_done hend hreplies.1
      by_cases hterminal : isMissingIngestLogError error ∨
          shouldDeadletter message.dequeueCount config.processingMaxDequeueCount
      · rw [if_pos hterminal] at houtcome
        refine .inr ⟨fun hleaves => ?_, houtcome⟩
        obtain ⟨error', heq, hmissing⟩ := hfails.mp hleaves.2
        cases heq
        simp [hmissing, hleaves.1] at hterminal
      · rw [if_neg hterminal] at houtcome
        rw [not_or, Bool.not_eq_true, Bool.not_eq_true] at hterminal
        exact .inl ⟨⟨hterminal.2, hfails.mpr ⟨error, rfl, hterminal.1⟩⟩, error, houtcome⟩
    · obtain ⟨deleted, t', hdelete, rfl⟩ := follows_request_bind_done_iff.mp hend
      have hdeleted : deleted.isOk = true := hreplies.1 ⟨_, deleted⟩ (by simp)
      refine .inr ⟨fun hleaves => ?_, ?_⟩
      · obtain ⟨error, heq, -⟩ := hfails.mp hleaves.2
        cases heq
      · rcases deleted with error | ⟨⟩
        · cases hdeleted
        · cases (follows_done_iff.mp hdelete).2
          rfl

/-- A delivery that gets its client and does not leave its message returns no error, and an error
is what the others return. -/
theorem WorkerDelivery.error_iff
    (h : (processOnce config fromStr d.promotedAt).Follows d.history (.done outcome))
    (hreplies : ∀ entry ∈ d.history, Healthy entry.1 entry.2) :
    (∃ error, outcome = .error error) ↔ d.WithoutClient ∨ d.LeftForRetry config fromStr := by
  rcases processOnce_follows_done h hreplies with
    ⟨hclient, herror⟩ | ⟨hempty, rfl⟩ | ⟨messages, message, later, hreceived, hlast, hrest⟩
  · exact iff_of_true herror (.inl hclient)
  · refine iff_of_false nofun ?_
    rintro (hclient | ⟨messages, message, later, hreceived, hlast, -⟩)
    · exact hempty.not_withoutClient hclient
    · obtain ⟨rfl, -⟩ := hempty.unique hreceived
      cases hlast
  · have hlater : ∀ entry ∈ later, Healthy entry.1 entry.2 := fun entry hentry =>
      hreplies entry (hreceived ▸ List.mem_append_left _ hentry)
    rcases handleMessage_follows_done hrest hlater with ⟨hleft, herror⟩ | ⟨hleft, rfl⟩
    · exact iff_of_true herror (.inr ⟨messages, message, later, hreceived, hlast, hleft⟩)
    · refine iff_of_false nofun ?_
      rintro (hclient | ⟨messages', message', later', hreceived', hlast', hleft'⟩)
      · exact hreceived.not_withoutClient hclient
      · obtain ⟨rfl, rfl⟩ := hreceived.unique hreceived'
        cases hlast.symm.trans hlast'
        exact hleft hleft'

/-- A delivery reports an empty queue exactly if its receive returned nothing. -/
theorem WorkerDelivery.noMessage_iff
    (h : (processOnce config fromStr d.promotedAt).Follows d.history (.done outcome))
    (hreplies : ∀ entry ∈ d.history, Healthy entry.1 entry.2) :
    outcome = .ok .noMessage ↔ d.FoundNoMessage config := by
  rcases processOnce_follows_done h hreplies with
    ⟨hclient, error, rfl⟩ | ⟨hempty, rfl⟩ | ⟨messages, message, later, hreceived, hlast, hrest⟩
  · exact iff_of_false nofun fun ⟨later, hreceived⟩ => hclient.not_received hreceived
  · exact iff_of_true rfl ⟨[], hempty⟩
  · have hlater : ∀ entry ∈ later, Healthy entry.1 entry.2 := fun entry hentry =>
      hreplies entry (hreceived ▸ List.mem_append_left _ hentry)
    refine iff_of_false ?_ ?_
    · rcases handleMessage_follows_done hrest hlater with ⟨-, error, rfl⟩ | ⟨-, rfl⟩ <;> nofun
    · rintro ⟨later', hreceived'⟩
      obtain ⟨rfl, -⟩ := hreceived.unique hreceived'
      cases hlast

end Deliveries

/-! ## Draining the queue -/

/-- The last receive of the run returned no message. -/
def DrainsQueue (config : ProcessingConfig) (deliveries : List WorkerDelivery) : Prop :=
  ∃ d, deliveries.getLast? = some d ∧ d.FoundNoMessage config

theorem WorkerRun.drainsQueue_iff {config : ProcessingConfig}
    {fromStr : String → Except String RawProcessingMessage} {deliveries : List WorkerDelivery}
    {result : Except ServiceError Unit} (hrun : WorkerRun config fromStr deliveries result)
    (hreplies : ∀ d ∈ deliveries, ∀ entry ∈ d.history, Healthy entry.1 entry.2) :
    DrainsQueue config deliveries ↔
      ∀ d ∈ deliveries, ¬ d.WithoutClient ∧ ¬ d.LeftForRetry config fromStr := by
  induction hrun with
  | @failed d error h =>
    have hd := hreplies d List.mem_cons_self
    refine iff_of_false ?_ fun hall => ?_
    · rintro ⟨last, hlast, hfound⟩
      cases hlast
      cases (WorkerDelivery.noMessage_iff h hd).mpr hfound
    · have hbad := (WorkerDelivery.error_iff h hd).mp ⟨error, rfl⟩
      exact not_or.mpr (hall d List.mem_cons_self) hbad
  | @noMessage d h =>
    have hd := hreplies d List.mem_cons_self
    refine iff_of_true ⟨d, rfl, (WorkerDelivery.noMessage_iff h hd).mp rfl⟩ ?_
    intro d' hd'
    cases List.mem_singleton.mp hd'
    apply not_or.mp
    intro hbad
    obtain ⟨error, heq⟩ := (WorkerDelivery.error_iff h hd).mpr hbad
    cases heq
  | @handledMessage d rest result h hrest ih =>
    have hd := hreplies d List.mem_cons_self
    have hgood : ¬ d.WithoutClient ∧ ¬ d.LeftForRetry config fromStr := by
      apply not_or.mp
      intro hbad
      obtain ⟨error, heq⟩ := (WorkerDelivery.error_iff h hd).mpr hbad
      cases heq
    have htail : DrainsQueue config (d :: rest) ↔ DrainsQueue config rest := by
      cases hrest <;> rfl
    rw [htail, ih fun d' hd' => hreplies d' (List.mem_cons_of_mem d hd'), List.forall_mem_cons]
    exact (and_iff_right hgood).symm

def runHistory (deliveries : List WorkerDelivery) : History :=
  deliveries.reverse.flatMap WorkerDelivery.history

/-- A run of the worker goes by deliveries, and where the queue and the database answer it drains
the queue exactly if every delivery gets its client and none leaves its message for a retry. -/
theorem worker_drainsQueue_iff {config : ProcessingConfig}
    {fromStr : String → Except String RawProcessingMessage} {times : List ℕ} {t : History}
    {result : Except ServiceError Unit}
    (hrun : (worker config fromStr times).Follows t (.done (some result)))
    (hreplies : ∀ entry ∈ t, Healthy entry.1 entry.2) :
    (∃ deliveries, WorkerRun config fromStr deliveries result ∧ t = runHistory deliveries) ∧
      ∀ deliveries, WorkerRun config fromStr deliveries result → t = runHistory deliveries →
        (DrainsQueue config deliveries ↔
          ∀ d ∈ deliveries, ¬ d.WithoutClient ∧ ¬ d.LeftForRetry config fromStr) := by
  obtain ⟨deliveries, hdeliveries, -, ht⟩ := worker_follows_done_iff.mp hrun
  refine ⟨⟨deliveries, hdeliveries, ht⟩, fun deliveries' hdeliveries' ht' => ?_⟩
  apply hdeliveries'.drainsQueue_iff
  intro d hd entry hentry
  apply hreplies
  rw [ht']
  exact List.mem_flatMap.mpr ⟨d, List.mem_reverse.mpr hd, hentry⟩

def pollQueue : ProcessingCall :=
  .receiveMessages sampleConfig.azureQueueName 1 sampleConfig.processingVisibilityTimeoutSeconds

def backlog (dequeueCount : ℕ) : ProcessingWorld :=
  { ProcessingPool.empty.world with
    messages := [
      { messageId := 1, popReceipt := 1, dequeueCount := dequeueCount, messageText := "not-json",
        queueName := sampleConfig.azureQueueName },
      { messageId := 2, popReceipt := 2, dequeueCount := 0, messageText := "a",
        queueName := sampleConfig.azureQueueName }]
    nextId := 3 }

/-- The delivery that receives the first of them, with the calls after its receive. -/
def firstDelivery (dequeueCount : ℕ) (later : History) : WorkerDelivery where
  promotedAt := 0
  history := later ++ [⟨pollQueue, (answer pollQueue (sampleEnv .ok 0 0) (backlog dequeueCount)).2⟩,
    ⟨.newQueueClient, .ok ()⟩]

def emptyDelivery : WorkerDelivery where
  promotedAt := 0
  history := [⟨pollQueue, .ok []⟩, ⟨.newQueueClient, .ok ()⟩]

def moveFirstMessage : History := [
  ⟨.deleteMessage sampleConfig.azureQueueName 1 3, .ok ()⟩,
  ⟨.enqueueMessage sampleConfig.azureDeadletterQueueName "not-json", .ok ()⟩]

theorem emptyDelivery_follows :
    (processOnce sampleConfig sampleFromStr emptyDelivery.promotedAt).Follows emptyDelivery.history
      (.done (.ok .noMessage)) := by
  apply follows_request_bind_done_iff.mpr
  refine ⟨.ok (), [⟨pollQueue, .ok []⟩], ?_, rfl⟩
  apply follows_request_bind_done_iff.mpr
  exact ⟨.ok [], [], .start, rfl⟩

theorem firstDelivery_follows {dequeueCount : ℕ} {later : History}
    {outcome : Except ServiceError ProcessOnceOutcome}
    (h : (handleMessage sampleConfig sampleFromStr 0 ⟨1, 3, dequeueCount + 1, "not-json"⟩).Follows
      later (.done outcome)) :
    (processOnce sampleConfig sampleFromStr (firstDelivery dequeueCount later).promotedAt).Follows
      (firstDelivery dequeueCount later).history (.done outcome) := by
  apply follows_request_bind_done_iff.mpr
  refine ⟨.ok (), later ++ [⟨pollQueue, .ok [⟨1, 3, dequeueCount + 1, "not-json"⟩]⟩], ?_, ?_⟩
  · apply follows_request_bind_done_iff.mpr
    exact ⟨.ok [⟨1, 3, dequeueCount + 1, "not-json"⟩], later, h, rfl⟩
  · rw [firstDelivery, List.append_assoc]
    rfl

theorem handleMessage_malformed (dequeueCount : ℕ) :
    handleMessage sampleConfig sampleFromStr 0 ⟨1, 3, dequeueCount, "not-json"⟩ =
      if shouldDeadletter dequeueCount 5 then
        deadletterMessage sampleConfig ⟨1, 3, dequeueCount, "not-json"⟩
      else pure (.error (.processingMessage
        (.invalidJson "expected value at line 1 column 1"))) := rfl

theorem moveFirstMessage_follows :
    (handleMessage sampleConfig sampleFromStr 0 ⟨1, 3, 5, "not-json"⟩).Follows moveFirstMessage
      (.done (.ok .handledMessage)) := by
  have hmoved : (deadletterMessage sampleConfig ⟨1, 3, 5, "not-json"⟩).Follows moveFirstMessage
      (.done (.ok .handledMessage)) := by
    apply follows_bind_done_iff.mpr
    refine ⟨.ok (), moveFirstMessage, [], ?_, .start, rfl⟩
    apply follows_request_bind_done_iff.mpr
    refine ⟨.ok (), [⟨.deleteMessage sampleConfig.azureQueueName 1 3, .ok ()⟩], ?_, rfl⟩
    apply follows_request_bind_done_iff.mpr
    exact ⟨.ok (), [], .start, rfl⟩
  rw [handleMessage_malformed, if_pos (by decide)]
  exact hmoved

theorem firstDelivery_healthy {dequeueCount : ℕ} {later : History}
    (h : ∀ entry ∈ later, Healthy entry.1 entry.2) :
    ∀ entry ∈ (firstDelivery dequeueCount later).history, Healthy entry.1 entry.2 := by
  rw [firstDelivery, List.forall_mem_append]
  exact ⟨h, by simp [Healthy, pollQueue, answer, sampleEnv, result, Except.isOk, Except.toBool]⟩

theorem firstDelivery_received (dequeueCount : ℕ) (later : History) :
    (firstDelivery dequeueCount later).Received sampleConfig
      [⟨1, 3, dequeueCount + 1, "not-json"⟩] later := rfl

theorem emptyDelivery_received : emptyDelivery.Received sampleConfig [] [] := rfl

/-- A message that has been received often enough is moved away, and the run goes on until nothing
is left. -/
theorem drainsQueue_exhausted :
    DrainsQueue sampleConfig [firstDelivery 4 moveFirstMessage, emptyDelivery] := by
  have hrun : WorkerRun sampleConfig sampleFromStr
      [firstDelivery 4 moveFirstMessage, emptyDelivery] (.ok ()) :=
    .handledMessage (firstDelivery_follows moveFirstMessage_follows)
      (.noMessage emptyDelivery_follows)
  have hmove : ∀ entry ∈ moveFirstMessage, Healthy entry.1 entry.2 := by
    simp [moveFirstMessage, Healthy, Except.isOk, Except.toBool]
  have hempty : ∀ entry ∈ emptyDelivery.history, Healthy entry.1 entry.2 := by
    simp [emptyDelivery, pollQueue, Healthy, Except.isOk, Except.toBool]
  have hworker : (worker sampleConfig sampleFromStr [0, 0]).Follows
      (runHistory [firstDelivery 4 moveFirstMessage, emptyDelivery]) (.done (some (.ok ()))) :=
    worker_follows_done_iff.mpr ⟨_, hrun, List.prefix_rfl, rfl⟩
  refine ((worker_drainsQueue_iff hworker ?_).2 _ hrun rfl).mpr ?_
  · intro entry hentry
    obtain ⟨d, hd, hentry⟩ := List.mem_flatMap.mp hentry
    rw [List.mem_reverse, List.mem_pair] at hd
    rcases hd with rfl | rfl
    · exact firstDelivery_healthy hmove entry hentry
    · exact hempty entry hentry
  · rw [List.forall_mem_cons, List.forall_mem_singleton]
    refine ⟨⟨(firstDelivery_received 4 _).not_withoutClient, ?_⟩,
      emptyDelivery_received.not_withoutClient, ?_⟩
    · rintro ⟨messages, message, later, hreceived, hlast, hleaves, -⟩
      obtain ⟨rfl, -⟩ := (firstDelivery_received 4 _).unique hreceived
      cases hlast
      cases hleaves
    · rintro ⟨messages, message, later, hreceived, hlast, -⟩
      obtain ⟨rfl, -⟩ := emptyDelivery_received.unique hreceived
      cases hlast

/-- The first message does not parse and was never received before: the run ends with its error,
while the second one is still in the queue. -/
theorem not_drainsQueue_malformed :
    WorkerRun sampleConfig sampleFromStr [firstDelivery 0 []]
        (.error (.processingMessage (.invalidJson "expected value at line 1 column 1"))) ∧
      (∀ d ∈ [firstDelivery 0 []], ∀ entry ∈ d.history, Healthy entry.1 entry.2) ∧
      ¬ DrainsQueue sampleConfig [firstDelivery 0 []] ∧
      ((answer pollQueue (sampleEnv .ok 0 0) (backlog 0)).1.received sampleConfig.azureQueueName
        1).isSome := by
  refine ⟨.failed (firstDelivery_follows ?_), ?_, ?_, by decide⟩
  · rw [handleMessage_malformed, if_neg (by decide)]
    exact .start
  · rw [List.forall_mem_singleton]
    exact firstDelivery_healthy (by simp)
  · rintro ⟨d, hlast, later, hreceived⟩
    cases hlast
    obtain ⟨heq, -⟩ := (firstDelivery_received 0 []).unique hreceived
    cases heq

end LumenHorizon.Processing
