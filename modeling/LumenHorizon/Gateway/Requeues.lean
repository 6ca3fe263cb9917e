import LumenHorizon.Foundation.Embedding
import LumenHorizon.Gateway.KeyFetches
import LumenHorizon.Processing.Acknowledge

/-! # Requeues

A request to requeue an ingest reads the status of its processing run once, and puts a message on
the processing queue afterwards. In between anything can happen to that run, and a run that failed
may still have its message on the queue.
-/

namespace LumenHorizon.Gateway
open Foundation Shared Processing

/-! ## Workers and requests -/

inductive RequeueCall where
  | worker (c : ProcessingCall)
  | gateway (c : GatewayCall)

namespace RequeueCall

abbrev Reply : RequeueCall → Type
  | worker c => c.Reply
  | gateway c => c.Reply

/-- The call of a request that puts a message on the queue. -/
def isEnqueue : RequeueCall → Bool
  | gateway (.enqueueProcessingMessage _) => true
  | _ => false

end RequeueCall

abbrev RequeueProgram := Program RequeueCall RequeueCall.Reply Unit

def workerAttempt (config : ProcessingConfig)
    (fromStr : String → Except String RawProcessingMessage) (promotedAt : ℕ) : RequeueProgram :=
  (processOnce config fromStr promotedAt).embed .worker (fun _ reply => reply) fun _ => ()

section Request

variable {K : Type} (decoders : Decoders K) (state : AppState)

def requeueRequest (requestId : Uuid) (admin : AdminContext) (body : List UInt8) :
    RequeueProgram :=
  (requeueProcessingItem decoders state requestId admin body).embed .gateway
    (fun _ reply => reply) fun _ => ()

end Request

/-! ## What they share -/

/-- The tables and queues. `requeued` is a record for the statements: how many messages requests
have put on the processing queue. -/
structure RequeueWorld where
  processing : ProcessingWorld
  requeued : ℕ
deriving DecidableEq

/-- What the environment decides about one call. The replies of other services are its own. -/
structure RequeueEnv extends Env where
  others : (c : GatewayCall) → c.Reply

/-- `processing_log.status` as a text. -/
def processingStatusText : ProcessingStatus → String
  | .processing => "processing"
  | .processed => "processed"
  | .rejected => "rejected"
  | .failed => "failed"
  | .deadlettered => "deadlettered"

/-- The query of `processing_message_for_requeue`: an ingest row, with the status of its run if
there is one. -/
def selectRequeueRecord (w : ProcessingWorld) (ingestId : Uuid) : Option ProcessingRequeueRecord :=
  (w.ingestLog.find? fun row => row.id = ingestId).map fun row =>
    { ingestId := row.id
      blobPath := row.blobPath
      product := row.product
      granuleDate := row.granuleDate
      tileH := row.tileH
      tileV := row.tileV
      processingStatus := (w.processingLog.find? fun run => run.ingestId = row.id).map fun run =>
        processingStatusText run.status }

namespace RequeueWorld

/-- The world with one more message on the processing queue, put there by a request. -/
def enqueue (w : RequeueWorld) (queueName : String) (e : Env) (messageText : String) :
    RequeueWorld where
  processing := effect e w.processing (.enqueueMessage queueName messageText)
  requeued := w.requeued + 1

def answer (queueName : String) (c : RequeueCall) (e : RequeueEnv) (w : RequeueWorld) :
    RequeueWorld × c.Reply :=
  match c with
  | .worker c =>
    let result := Processing.answer c e.toEnv w.processing
    ({ w with processing := result.1 }, result.2)
  | .gateway (.processingMessageForRequeue ingestId) =>
    match e.outcome with
    | .ok => (w, (selectRequeueRecord w.processing ingestId).elim (.error .notFound) .ok)
    | _ => (w, .error (.query "processing_message_for_requeue" e.error))
  | .gateway (.enqueueProcessingMessage messageText) =>
    match e.outcome with
    | .ok => (w.enqueue queueName e.toEnv messageText, .ok ())
    | .failed => (w, .error ⟨e.error⟩)
    | .lost => (w.enqueue queueName e.toEnv messageText, .error ⟨e.error⟩)
  | .gateway c => (w, e.others c)

end RequeueWorld

def isFor (fromStr : String → Except String RawProcessingMessage) (ingestId : Uuid)
    (messageText : String) : Bool :=
  match ProcessingMessage.parseJson fromStr messageText with
  | .ok message => message.ingestId = ingestId
  | .error _ => false

section Live

variable (fromStr : String → Except String RawProcessingMessage) (queueName : String)
  (ingestId : Uuid)

/-- How many messages for the ingest are on the queue, visible or hidden. -/
def liveMessages (messages : List QueueMessage) : ℕ :=
  messages.countP fun m => m.queueName = queueName && isFor fromStr ingestId m.messageText

def RequeueWorld.live (w : RequeueWorld) : ℕ :=
  liveMessages fromStr queueName ingestId w.processing.messages

end Live

/-- The call puts nothing on this queue for a worker. -/
def RequeueCall.Spares (queueName : String) : RequeueCall → Prop
  | worker (.enqueueMessage other _) => other ≠ queueName
  | _ => True

section LiveAfter

variable {fromStr : String → Except String RawProcessingMessage} {queueName : String}
  {ingestId : Uuid} {w : ProcessingWorld}

theorem liveMessages_receive (hw : w.QueueOk) (other : String) (pick : ℕ) :
    liveMessages fromStr queueName ingestId (w.receive other pick) =
      liveMessages fromStr queueName ingestId w.messages := by
  unfold ProcessingWorld.receive
  split
  · rfl
  · next taken htaken =>
    rw [liveMessages, List.countP_map]
    apply List.countP_congr
    intro m hm
    simp only [Function.comp_apply]
    split
    · next hid =>
      obtain ⟨m₀, hm₀, -, hsame⟩ := ProcessingWorld.received_eq_some htaken
      obtain rfl : m = m₀ := hw.distinct m hm m₀ hm₀ (hid.trans hsame.1)
      rw [hsame.2.1, hsame.2.2]
    · rfl

theorem liveMessages_answer_le (hw : w.QueueOk) {c : ProcessingCall}
    (hc : (RequeueCall.worker c).Spares queueName) (e : Env) :
    liveMessages fromStr queueName ingestId (answer c e w).1.messages ≤
      liveMessages fromStr queueName ingestId w.messages := by
  rcases answer_effect c e w with ⟨-, h⟩ | ⟨-, finished, h⟩
  · rw [h]
  · rw [h]
    cases c with
    | receiveMessages other maxMessages timeout => exact (liveMessages_receive hw other e.pick).le
    | deleteMessage other messageId popReceipt => exact List.filter_sublist.countP_le
    | enqueueMessage other messageText =>
      have hother : other ≠ queueName := hc
      apply Nat.le_of_eq
      simp [liveMessages, effect, List.countP_append, hother]
    | _ => exact le_rfl

end LiveAfter

/-! ## One call -/

namespace RequeueWorld

variable {fromStr : String → Except String RawProcessingMessage} {queueName : String}
  {ingestId : Uuid} {w : RequeueWorld}

theorem queueOk_answer (hw : w.processing.QueueOk) (c : RequeueCall) (e : RequeueEnv) :
    (answer queueName c e w).1.processing.QueueOk := by
  have henqueue (messageText : String) :
      (w.enqueue queueName e.toEnv messageText).processing.QueueOk := by
    have hafter := hw.after (.enqueueMessage queueName messageText)
      { e.toEnv with outcome := .lost }
    exact hafter
  cases c with
  | worker c => exact hw.after c e.toEnv
  | gateway c =>
    cases c with
    | processingMessageForRequeue id => cases ho : e.outcome <;> simpa [answer, ho] using hw
    | enqueueProcessingMessage messageText =>
      cases ho : e.outcome with
      | failed => simpa [answer, ho] using hw
      | ok | lost => simpa [answer, ho] using henqueue messageText
    | _ => exact hw

/-- A call adds a live message only as the enqueue of a request, which is recorded. -/
theorem live_answer_add_le (hw : w.processing.QueueOk) {c : RequeueCall}
    (hc : c.Spares queueName) (e : RequeueEnv) :
    (answer queueName c e w).1.live fromStr queueName ingestId + w.requeued ≤
      w.live fromStr queueName ingestId + (answer queueName c e w).1.requeued := by
  have henqueue (messageText : String) :
      (w.enqueue queueName e.toEnv messageText).live fromStr queueName ingestId + w.requeued ≤
        w.live fromStr queueName ingestId +
          (w.enqueue queueName e.toEnv messageText).requeued := by
    have hone : List.countP (fun m : QueueMessage => m.queueName = queueName &&
        isFor fromStr ingestId m.messageText) [enqueued w.processing queueName messageText] ≤ 1 :=
      List.countP_le_length
    have hlive : (w.enqueue queueName e.toEnv messageText).live fromStr queueName ingestId =
        w.live fromStr queueName ingestId + List.countP (fun m : QueueMessage =>
          m.queueName = queueName && isFor fromStr ingestId m.messageText)
          [enqueued w.processing queueName messageText] := List.countP_append
    rw [hlive]
    change _ ≤ _ + (w.requeued + 1)
    omega
  cases c with
  | worker c => exact Nat.add_le_add_right (liveMessages_answer_le hw hc e.toEnv) _
  | gateway c =>
    cases c with
    | processingMessageForRequeue id => cases ho : e.outcome <;> simp [answer, ho]
    | enqueueProcessingMessage messageText =>
      cases ho : e.outcome with
      | failed => simp [answer, ho]
      | ok | lost => simpa [answer, ho] using henqueue messageText
    | _ => exact le_rfl

theorem requeued_answer_le (c : RequeueCall) (e : RequeueEnv) :
    (answer queueName c e w).1.requeued ≤ w.requeued + if c.isEnqueue then 1 else 0 := by
  cases c with
  | worker c => exact le_rfl
  | gateway c =>
    cases c with
    | processingMessageForRequeue id => cases ho : e.outcome <;> simp [answer, ho]
    | enqueueProcessingMessage messageText =>
      cases ho : e.outcome <;> simp [answer, ho, enqueue, RequeueCall.isEnqueue]
    | _ => exact le_rfl

theorem live_answer_le (hw : w.processing.QueueOk) {c : RequeueCall} (hc : c.Spares queueName)
    (e : RequeueEnv) :
    (answer queueName c e w).1.live fromStr queueName ingestId ≤
      w.live fromStr queueName ingestId + if c.isEnqueue then 1 else 0 := by
  have hlive : (answer queueName c e w).1.live fromStr queueName ingestId + w.requeued ≤
      w.live fromStr queueName ingestId + (answer queueName c e w).1.requeued :=
    live_answer_add_le hw hc e
  have hrequeued : (answer queueName c e w).1.requeued ≤
      w.requeued + if c.isEnqueue then 1 else 0 := requeued_answer_le c e
  omega

end RequeueWorld

/-! ## What the programs ask for -/

/-- The statuses that let a request go on. -/
def ProcessingRequeueRecord.Requeueable (record : ProcessingRequeueRecord) : Prop :=
  record.processingStatus ∈ [some "failed", some "rejected", some "deadlettered"]

instance (record : ProcessingRequeueRecord) : Decidable record.Requeueable :=
  inferInstanceAs (Decidable (_ ∈ _))

/-- The reply of a lookup that found such a status. -/
def RequeueCall.Admits : (c : RequeueCall) → c.Reply → Prop
  | .gateway (.processingMessageForRequeue _), .ok record => record.Requeueable
  | _, _ => False

/-- An enqueue of a request comes right after a lookup that admits it. -/
def RequeueRule : Program.CallRule RequeueCall RequeueCall.Reply := fun c next =>
  ∀ reply, (next reply).any RequeueCall.isEnqueue = true → c.Admits reply

def RequeueCall.Possible : (c : RequeueCall) → c.Reply → Prop
  | .worker c, reply => Processing.Possible c reply
  | .gateway _, _ => True

section Programs

variable {fromStr : String → Except String RawProcessingMessage} {queueName : String}
  {config : ProcessingConfig} {promotedAt : ℕ}

theorem workerAttempt_ruled : (workerAttempt config fromStr promotedAt).Always RequeueRule := by
  apply Program.Always.embed
  apply Program.Always.of_forall
  intro c next reply henqueue
  cases hnext : next reply with
  | none => simp [hnext] at henqueue
  | some c' => simp [hnext, RequeueCall.isEnqueue] at henqueue

/-- The only queue an attempt enqueues to is the one for dead letters. -/
theorem workerAttempt_spares (hdeadletter : config.azureDeadletterQueueName ≠ queueName) :
    (workerAttempt config fromStr promotedAt).Under RequeueCall.Possible
      (RequeueCall.Spares queueName) := by
  have hcalls : (processOnce config fromStr promotedAt).Under Processing.Possible fun c =>
      (RequeueCall.worker c).Spares queueName := by
    apply (processOnce_meets []).under (fun _ _ h => h) _ (by simp)
    intro t c _ hrule
    cases c with
    | enqueueMessage other messageText =>
      obtain ⟨received, -, hother, -⟩ := hrule.queueRule trivial
      exact hother ▸ hdeadletter
    | _ => trivial
  unfold workerAttempt
  exact Program.Under.embed RequeueCall.worker (fun _ reply => reply) (fun _ => ()) hcalls
    (fun _ _ h => h) fun _ h => h

variable {K : Type} {decoders : Decoders K} {state : AppState}
  {requestId : Uuid} {admin : AdminContext} {body : List UInt8}

theorem requeueRequest_spares : (requeueRequest decoders state requestId admin body).Under
    RequeueCall.Possible (RequeueCall.Spares queueName) :=
  Program.Under.embed RequeueCall.gateway (fun _ reply => reply) (fun _ => ())
    (Program.under_true _) (fun _ _ _ => trivial) fun _ _ => trivial

/-- The rule for requests, as one about the calls of the gateway. -/
abbrev RequestRule : Program.CallRule GatewayCall GatewayCall.Reply := fun c next =>
  RequeueRule (.gateway c) fun reply => (next reply).map .gateway

theorem RequestRule.of_none {c : GatewayCall} {next : c.Reply → Option GatewayCall}
    (h : ∀ reply, ((next reply).map RequeueCall.gateway).any RequeueCall.isEnqueue = false) :
    RequestRule c next := by
  intro reply henqueue
  rw [h reply] at henqueue
  cases henqueue

theorem auditedError_ruled (action : String) (targetId : Option Uuid) (outcome : String)
    (error : GatewayError) :
    (auditedError requestId admin action targetId outcome error).Always RequestRule :=
  Program.Always.call (RequestRule.of_none fun _ => rfl) fun _ => trivial

theorem enqueueRecord_ruled (ingestId : Uuid) (record : ProcessingRequeueRecord) :
    (enqueueRecord decoders requestId admin ingestId record).Always RequestRule := by
  unfold enqueueRecord
  dsimp only
  split
  · exact auditedError_ruled _ _ _ _
  split
  · exact auditedError_ruled _ _ _ _
  apply Program.Always.call
  · apply RequestRule.of_none
    intro reply
    cases reply <;> rfl
  · intro reply
    cases reply with
    | error error => exact auditedError_ruled _ _ _ _
    | ok _ => exact Program.Always.call (RequestRule.of_none fun _ => rfl) fun _ => trivial

theorem requeueProcessingItem_ruled :
    (requeueProcessingItem decoders state requestId admin body).Always RequestRule := by
  unfold requeueProcessingItem
  split
  · exact auditedError_ruled _ _ _ _
  dsimp only
  split
  · exact auditedError_ruled _ _ _ _
  split
  · exact auditedError_ruled _ _ _ _
  apply Program.Always.call
  · -- only the branch of the three statuses goes on to the enqueue
    intro reply henqueue
    dsimp only [Program.andThen] at henqueue
    split at henqueue
    · cases henqueue
    · cases henqueue
    · next record =>
      by_cases hstatus : record.processingStatus ∈
          [some "failed", some "rejected", some "deadlettered"]
      · exact hstatus
      · rw [if_neg hstatus] at henqueue
        split at henqueue <;> cases henqueue
  · intro reply
    dsimp only [Program.andThen]
    split
    · exact auditedError_ruled _ _ _ _
    · exact auditedError_ruled _ _ _ _
    split
    · exact enqueueRecord_ruled _ _
    split
    · exact auditedError_ruled _ _ _ _
    · exact auditedError_ruled _ _ _ _

theorem requeueRequest_ruled :
    (requeueRequest decoders state requestId admin body).Always RequeueRule :=
  Program.Always.embed _ _ _ requeueProcessingItem_ruled

theorem requeueRequest_starts :
    (requeueRequest decoders state requestId admin body).next?.any RequeueCall.isEnqueue =
      false := by
  unfold requeueRequest requeueProcessingItem
  split
  · rfl
  dsimp only
  split
  · rfl
  split <;> rfl

end Programs

/-! ## Runs -/

abbrev RequeuePool := Pool RequeueWorld RequeueCall RequeueCall.Reply

abbrev RequeueEvent := PoolEvent RequeueCall RequeueCall.Reply RequeueEnv

namespace RequeuePool

def step (queueName : String) : RequeuePool → RequeueEvent → Option RequeuePool :=
  Pool.step (RequeueWorld.answer queueName)

def start (world : ProcessingWorld) : RequeuePool where
  world := { processing := world, requeued := 0 }
  procs := []

/-- How many requests have been admitted by their lookup and enqueue next. -/
def admitted (pool : RequeuePool) : ℕ := pool.waiting RequeueCall.isEnqueue

section Guards

variable (fromStr : String → Except String RawProcessingMessage) (queueName : String)
  (ingestId : Uuid)

def live (pool : RequeuePool) : ℕ := pool.world.live fromStr queueName ingestId

/-- Attempts of workers on this queue, with another one for dead letters, and requests to requeue
this ingest. -/
def Started {K : Type} (decoders : Decoders K) (state : AppState) (p : RequeueProgram) : Prop :=
  (∃ config promotedAt, config.azureQueueName = queueName ∧
    config.azureDeadletterQueueName ≠ queueName ∧ p = workerAttempt config fromStr promotedAt) ∨
  ∃ requestId admin body, parseRequeueRequest decoders body = .ok ingestId ∧
    p = requeueRequest decoders state requestId admin body

def StartsOnly {K : Type} (decoders : Decoders K) (state : AppState) (event : RequeueEvent) :
    Prop :=
  ∀ p, event = .spawn p → Started fromStr queueName ingestId decoders state p

/-- A lookup admits its request only while no message for the ingest is live, and no request that
was admitted before has yet to enqueue. -/
def AdmitsAlone (pool : RequeuePool) (event : RequeueEvent) : Prop :=
  ∀ i e c, event = .act i e → pool.nextCall i = some c →
    c.Admits (RequeueWorld.answer queueName c e pool.world).2 →
      pool.live fromStr queueName ingestId = 0 ∧ pool.admitted = 0

end Guards

/-- Message ids are in order, and every program enqueues only as it may. -/
structure Orderly (queueName : String) (pool : RequeuePool) : Prop where
  queueOk : pool.world.processing.QueueOk
  ruled : ∀ p ∈ pool.procs, p.Always RequeueRule
  spares : ∀ p ∈ pool.procs, p.Under RequeueCall.Possible (RequeueCall.Spares queueName)

variable {fromStr : String → Except String RawProcessingMessage} {queueName : String}
  {ingestId : Uuid} {K : Type} {decoders : Decoders K} {state : AppState}
  {pool pool' : RequeuePool} {event : RequeueEvent}

theorem Started.orderly {p : RequeueProgram}
    (h : Started fromStr queueName ingestId decoders state p) : p.Always RequeueRule ∧
      p.Under RequeueCall.Possible (RequeueCall.Spares queueName) ∧
      p.next?.any RequeueCall.isEnqueue = false := by
  rcases h with ⟨config, promotedAt, -, hdeadletter, rfl⟩ | ⟨requestId, admin, body, -, rfl⟩
  · exact ⟨workerAttempt_ruled, workerAttempt_spares hdeadletter, rfl⟩
  · exact ⟨requeueRequest_ruled, requeueRequest_spares, requeueRequest_starts⟩

theorem orderly_start {world : ProcessingWorld} (h : world.QueueOk) :
    Orderly queueName (start world) := ⟨h, nofun, nofun⟩

theorem Orderly.step (h : Orderly queueName pool)
    (hstarts : StartsOnly fromStr queueName ingestId decoders state event)
    (hstep : pool.step queueName event = some pool') : Orderly queueName pool' where
  queueOk := by
    rcases Pool.step_cases hstep with
      ⟨p, rfl, rfl⟩ | ⟨i, e, c, next, rfl, hi, rfl⟩ | ⟨i, c, next, rfl, hi, rfl⟩
    · exact h.queueOk
    · exact RequeueWorld.queueOk_answer h.queueOk c e
    · exact h.queueOk
  ruled := Pool.always_step hstep (fun p hp => (hstarts p hp).orderly.1) h.ruled
  spares := by
    apply Pool.under_step hstep (fun p hp => (hstarts p hp).orderly.2.1) _ h.spares
    intro i e c _ _
    cases c with
    | worker c => exact ⟨e.toEnv, pool.world.processing, rfl⟩
    | gateway c => trivial

theorem Orderly.live_step (h : Orderly queueName pool)
    (hstep : pool.step queueName event = some pool') :
    pool'.live fromStr queueName ingestId + pool.world.requeued ≤
      pool.live fromStr queueName ingestId + pool'.world.requeued := by
  rcases Pool.step_cases hstep with
    ⟨p, rfl, rfl⟩ | ⟨i, e, c, next, rfl, hi, rfl⟩ | ⟨i, c, next, rfl, hi, rfl⟩
  · exact le_rfl
  · exact RequeueWorld.live_answer_add_le h.queueOk (h.spares _ (List.mem_of_getElem? hi)).1 e
  · exact le_rfl

/-- An enqueue turns an admitted request into a live message at most. Only a lookup that admits its
request adds to the two. -/
theorem Orderly.live_add_admitted_step (h : Orderly queueName pool)
    (hstarts : StartsOnly fromStr queueName ingestId decoders state event)
    (hstep : pool.step queueName event = some pool') :
    pool'.live fromStr queueName ingestId + pool'.admitted ≤
        pool.live fromStr queueName ingestId + pool.admitted ∨
      pool'.live fromStr queueName ingestId + pool'.admitted ≤
          pool.live fromStr queueName ingestId + pool.admitted + 1 ∧
        ∃ i e c, event = .act i e ∧ pool.nextCall i = some c ∧
          c.Admits (RequeueWorld.answer queueName c e pool.world).2 := by
  rcases Pool.step_cases hstep with
    ⟨p, rfl, rfl⟩ | ⟨i, e, c, next, rfl, hi, hpool⟩ | ⟨i, c, next, rfl, hi, rfl⟩
  · left
    have hnext := (hstarts p rfl).orderly.2.2
    have hadmitted : admitted { pool with procs := pool.procs ++ [p] } = pool.admitted + _ :=
      Pool.waiting_spawn p
    rw [hnext] at hadmitted
    exact Nat.add_le_add_left hadmitted.le _
  · set reply := (RequeueWorld.answer queueName c e pool.world).2
    have hlive : pool'.live fromStr queueName ingestId ≤
        pool.live fromStr queueName ingestId + if c.isEnqueue then 1 else 0 := by
      rw [hpool]
      exact RequeueWorld.live_answer_le h.queueOk (h.spares _ (List.mem_of_getElem? hi)).1 e
    have hadmitted : pool'.admitted + (if c.isEnqueue then 1 else 0) =
        pool.admitted + if (next reply).next?.any RequeueCall.isEnqueue then 1 else 0 := by
      rw [hpool]
      exact Pool.waiting_set hi (next reply) _
    by_cases hnext : (next reply).next?.any RequeueCall.isEnqueue = true
    · right
      rw [if_pos hnext] at hadmitted
      refine ⟨by omega, i, e, c, rfl, Pool.nextCall_eq_some_iff.mpr ⟨next, hi⟩, ?_⟩
      exact (h.ruled _ (List.mem_of_getElem? hi)).1 reply hnext
    · left
      rw [if_neg hnext] at hadmitted
      omega
  · left
    have hadmitted : admitted ⟨pool.world, pool.procs.set i (.done ())⟩ +
        (if c.isEnqueue then 1 else 0) = pool.admitted + 0 := Pool.waiting_set hi (.done ()) _
    exact Nat.add_le_add_left (Nat.le.intro hadmitted) _

theorem live_le_of_reaches {world : ProcessingWorld} (hworld : world.QueueOk)
    (hlive : liveMessages fromStr queueName ingestId world.messages = 1)
    (h : Reaches (step queueName)
      (fun _ event => StartsOnly fromStr queueName ingestId decoders state event) (start world)
      pool) :
    Orderly queueName pool ∧ pool.live fromStr queueName ingestId ≤ 1 + pool.world.requeued := by
  induction h with
  | start => exact ⟨orderly_start hworld, hlive.le⟩
  | @next before after event _ hstarts hstep ih =>
    obtain ⟨horderly, hbound⟩ := ih
    have hadded : after.live fromStr queueName ingestId + before.world.requeued ≤
        before.live fromStr queueName ingestId + after.world.requeued := horderly.live_step hstep
    exact ⟨horderly.step hstarts hstep, by omega⟩

/-- Where every lookup admits alone, there is a live message or an admitted request, not two of
them. -/
theorem live_add_admitted_le_one {world : ProcessingWorld} (hworld : world.QueueOk)
    (hlive : liveMessages fromStr queueName ingestId world.messages = 1)
    (h : Reaches (step queueName)
      (fun pool event => StartsOnly fromStr queueName ingestId decoders state event ∧
        AdmitsAlone fromStr queueName ingestId pool event) (start world) pool) :
    Orderly queueName pool ∧ pool.live fromStr queueName ingestId + pool.admitted ≤ 1 := by
  induction h with
  | start => exact ⟨orderly_start hworld, hlive.le⟩
  | next _ hguard hstep ih =>
    obtain ⟨horderly, hbound⟩ := ih
    refine ⟨horderly.step hguard.1 hstep, ?_⟩
    rcases horderly.live_add_admitted_step hguard.1 hstep with
      hsame | ⟨hone, i, e, c, rfl, hi, hadmits⟩
    · exact hsame.trans hbound
    · -- the lookup found nothing live and nobody admitted, so its own request is the one
      obtain ⟨hnone, hnobody⟩ := hguard.2 i e c rfl hi hadmits
      omega

end RequeuePool

/-! ## One request -/

/-- The calls of a request that is accepted: the lookup that admits it, an enqueue that is
confirmed, and the audit event. -/
def AcceptedAfterLookup (ingestId : Uuid) (t : GatewayHistory) : Prop :=
  ∃ record messageText audit, record.Requeueable ∧
    t = [⟨.emitAdminAudit audit, ()⟩, ⟨.enqueueProcessingMessage messageText, .ok ()⟩,
      ⟨.processingMessageForRequeue ingestId, .ok record⟩]

section Accepted

variable {K : Type} {decoders : Decoders K} {state : AppState} {requestId : Uuid}
  {admin : AdminContext} {body : List UInt8} {t : GatewayHistory} {response : Response}

theorem auditedError_status {action : String} {targetId : Option Uuid} {outcome : String}
    {error : GatewayError}
    (h : (auditedError requestId admin action targetId outcome error).Follows t (.done response)) :
    response.status = error.status := by
  obtain ⟨_, t', hend, -⟩ := Program.follows_request_bind_done_iff.mp h
  cases (Program.follows_done_iff.mp hend).2
  rfl

theorem enqueueRecord_accepted {ingestId : Uuid} {record : ProcessingRequeueRecord}
    (h : (enqueueRecord decoders requestId admin ingestId record).Follows t (.done response))
    (haccepted : response.status = 202) : ∃ messageText audit,
      t = [⟨.emitAdminAudit audit, ()⟩, ⟨.enqueueProcessingMessage messageText, .ok ()⟩] := by
  unfold enqueueRecord at h
  dsimp only at h
  split at h
  · rw [auditedError_status h] at haccepted
    cases haccepted
  split at h
  · rw [auditedError_status h] at haccepted
    cases haccepted
  · next messageText _ =>
    obtain ⟨reply, t', hrest, rfl⟩ := Program.follows_request_bind_done_iff.mp h
    cases reply with
    | error error =>
      rw [auditedError_status hrest] at haccepted
      cases haccepted
    | ok _ =>
      obtain ⟨_, t'', hend, rfl⟩ := Program.follows_request_bind_done_iff.mp hrest
      obtain ⟨rfl, -⟩ := Program.follows_done_iff.mp hend
      exact ⟨messageText, _, rfl⟩

theorem requeueProcessingItem_accepted
    (h : (requeueProcessingItem decoders state requestId admin body).Follows t (.done response))
    (haccepted : response.status = 202) :
    ∃ ingestId, parseRequeueRequest decoders body = .ok ingestId ∧
      AcceptedAfterLookup ingestId t := by
  unfold requeueProcessingItem at h
  cases hparse : parseRequeueRequest decoders body with
  | error error =>
    simp only [hparse] at h
    rw [auditedError_status h] at haccepted
    unfold parseRequeueRequest at hparse
    split at hparse
    · cases hparse
      cases haccepted
    · split at hparse
      · cases hparse
        cases haccepted
      · cases hparse
  | ok ingestId =>
    simp only [hparse] at h
    refine ⟨ingestId, rfl, ?_⟩
    split at h
    · rw [auditedError_status h] at haccepted
      cases haccepted
    split at h
    · rw [auditedError_status h] at haccepted
      cases haccepted
    obtain ⟨reply, t', hrest, rfl⟩ := Program.follows_request_bind_done_iff.mp h
    split at hrest
    · rw [auditedError_status hrest] at haccepted
      cases haccepted
    · rw [auditedError_status hrest] at haccepted
      cases haccepted
    · next record =>
      by_cases hstatus : record.processingStatus ∈
          [some "failed", some "rejected", some "deadlettered"]
      · rw [if_pos hstatus] at hrest
        obtain ⟨messageText, audit, rfl⟩ := enqueueRecord_accepted hrest haccepted
        exact ⟨record, messageText, audit, hstatus, rfl⟩
      · rw [if_neg hstatus] at hrest
        split at hrest
        · rw [auditedError_status hrest] at haccepted
          cases haccepted
        · rw [auditedError_status hrest] at haccepted
          cases haccepted

end Accepted

/-! ## Live messages -/

open RequeuePool in
/-- A request is accepted after one lookup that found an ended run, and one enqueue. In every run
each live message beyond the first was put there by a request of its own. Where lookups admit
requests one at a time and only while no message is live, none is live just before an enqueue, and
never more than one. -/
theorem requeue_live_le {K : Type} (fromStr : String → Except String RawProcessingMessage)
    (queueName : String) (ingestId : Uuid) (decoders : Decoders K) (state : AppState)
    {world : ProcessingWorld} (hworld : world.QueueOk)
    (hlive : liveMessages fromStr queueName ingestId world.messages = 1) :
    (∀ requestId admin body t response,
      (requeueProcessingItem decoders state requestId admin body).Follows t (.done response) →
        response.status = 202 → ∃ ingestId, parseRequeueRequest decoders body = .ok ingestId ∧
          AcceptedAfterLookup ingestId t) ∧
    (∀ pool, Reaches (step queueName)
      (fun _ event => StartsOnly fromStr queueName ingestId decoders state event) (start world)
      pool → pool.live fromStr queueName ingestId ≤ 1 + pool.world.requeued) ∧
    ∀ pool, Reaches (step queueName)
      (fun pool event => StartsOnly fromStr queueName ingestId decoders state event ∧
        AdmitsAlone fromStr queueName ingestId pool event) (start world) pool →
      pool.live fromStr queueName ingestId ≤ 1 ∧ ∀ i messageText,
        pool.nextCall i = some (.gateway (.enqueueProcessingMessage messageText)) →
          pool.live fromStr queueName ingestId = 0 := by
  refine ⟨fun _ _ _ _ _ => requeueProcessingItem_accepted, fun pool h => ?_, fun pool h => ?_⟩
  · exact (live_le_of_reaches hworld hlive h).2
  · have hone := (live_add_admitted_le_one hworld hlive h).2
    refine ⟨by omega, fun i messageText hnext => ?_⟩
    have hwaits : 0 < pool.admitted := Pool.waiting_pos_of_nextCall hnext rfl
    omega

/-! ## A requeue of a failed attempt, and one of a dead letter -/

/-- Requests for the ingest of the sample message. -/
def requeueDecoders : Decoders ℚ :=
  { sampleDecoders (.ofGenerated sampleTileSet.manifest) with
    requeueProcessingRequest := fun _ => some 1
    serializeMessage := fun _ => .ok "a" }

def sampleAttempt : RequeueProgram := workerAttempt Processing.sampleConfig sampleFromStr 0

def sampleRequeue : RequeueProgram :=
  requeueRequest requeueDecoders sampleState 0 ⟨"operator", ["admin"]⟩ [0]

/-- The message of the ingest, received so often before. -/
def queuedWorld (dequeueCount : ℕ) : ProcessingWorld :=
  { ProcessingPool.empty.world with
    ingestLog := [sampleIngestRow 1]
    messages := [{ ProcessingPool.queuedMessage with dequeueCount := dequeueCount }]
    nextId := 1 }

def requeueEnv (outcome : Outcome) : RequeueEnv :=
  { sampleEnv outcome 0 0 with others := issuerReply }

/-- An attempt that receives the message and fails at its first local step, what it does then, and
the lookup of a request. -/
def attemptEvents (settling : ℕ) : List RequeueEvent :=
  .spawn sampleAttempt :: List.replicate 4 (.act 0 (requeueEnv .ok)) ++
    .act 0 (requeueEnv .failed) :: List.replicate settling (.act 0 (requeueEnv .ok)) ++
    [.spawn sampleRequeue, .act 1 (requeueEnv .ok)]

def RequeueCall.isAccepted : RequeueCall → Bool
  | gateway (.emitAdminAudit audit) => audit.outcome = "success" && audit.statusCode = 202
  | _ => false

def RequeueCall.isLookup : RequeueCall → Bool
  | gateway (.processingMessageForRequeue _) => true
  | _ => false

theorem RequeueCall.Admits.isLookup {c : RequeueCall} {reply : c.Reply} (h : c.Admits reply) :
    c.isLookup = true := by
  cases c with
  | worker c => exact h.elim
  | gateway c =>
    cases c with
    | processingMessageForRequeue ingestId => rfl
    | _ => exact h.elim

namespace RequeuePool

theorem startsOnly_sample {settling : ℕ} :
    ∀ event ∈ attemptEvents settling, StartsOnly sampleFromStr "viirs-processing" 1 requeueDecoders
      sampleState event := by
  have hattempt : Started sampleFromStr "viirs-processing" 1 requeueDecoders sampleState
      sampleAttempt := .inl ⟨Processing.sampleConfig, 0, rfl, by decide, rfl⟩
  have hrequeue : Started sampleFromStr "viirs-processing" 1 requeueDecoders sampleState
      sampleRequeue := .inr ⟨0, ⟨"operator", ["admin"]⟩, [0], rfl, rfl⟩
  intro event hevent p hp
  subst hp
  have hspawned : p = sampleAttempt ∨ p = sampleRequeue := by
    simpa [attemptEvents] using hevent
  rcases hspawned with rfl | rfl
  · exact hattempt
  · exact hrequeue

/-- A lookup of the run finds no live message and no admitted request. -/
def checkAdmitsAlone (pool : RequeuePool) : RequeueEvent → Bool
  | .act i _ => !(pool.nextCall i).any RequeueCall.isLookup ||
      (pool.live sampleFromStr "viirs-processing" 1 = 0 && pool.admitted = 0)
  | _ => true

theorem admitsAlone_of_check {pool : RequeuePool} {event : RequeueEvent}
    (h : checkAdmitsAlone pool event = true) :
    AdmitsAlone sampleFromStr "viirs-processing" 1 pool event := by
  rintro i e c rfl hnext hadmits
  simpa [checkAdmitsAlone, hnext, hadmits.isLookup] using h

end RequeuePool

open RequeuePool in
/-- The attempt was the last that the message had. It is a dead letter when the lookup finds it, so
none is live when the request enqueues. -/
theorem requeue_live_le_deadlettered : ∃ pool : RequeuePool,
    (pool.nextCall 1).any RequeueCall.isEnqueue = true ∧
      pool.live sampleFromStr "viirs-processing" 1 = 0 := by
  have hguard : ∀ pool, ∀ event ∈ attemptEvents 4, checkAdmitsAlone pool event = true →
      StartsOnly sampleFromStr "viirs-processing" 1 requeueDecoders sampleState event ∧
        AdmitsAlone sampleFromStr "viirs-processing" 1 pool event :=
    fun pool event hevent hcheck => ⟨startsOnly_sample event hevent, admitsAlone_of_check hcheck⟩
  obtain ⟨pool, hreaches, htest⟩ := exists_reaches_of_checkedSteps checkAdmitsAlone
    (attemptEvents 4) hguard (show (runSteps (checkedStep (step "viirs-processing")
      checkAdmitsAlone) (start (queuedWorld 4)) (attemptEvents 4)).any (fun pool =>
        (pool.nextCall 1).any RequeueCall.isEnqueue) = true by decide +kernel)
  have hworld : (queuedWorld 4).QueueOk := ⟨by decide, by decide⟩
  refine ⟨pool, htest, ?_⟩
  have hnone := ((requeue_live_le sampleFromStr "viirs-processing" 1 requeueDecoders sampleState
    hworld (by decide)).2.2 pool hreaches).2 1
  cases hnext : pool.nextCall 1 with
  | none =>
    rw [hnext] at htest
    cases htest
  | some c =>
    rw [hnext] at htest hnone
    cases c with
    | worker c => cases htest
    | gateway c =>
      cases c with
      | enqueueProcessingMessage messageText => exact hnone messageText rfl
      | _ => cases htest

open RequeuePool in
/-- The attempt failed, and its message waits for the next one. The lookup finds the failed run, and
the request is accepted, which makes two live messages. -/
theorem not_requeue_live_le :
    liveMessages sampleFromStr "viirs-processing" 1 (queuedWorld 0).messages = 1 ∧
    ∃ before after : RequeuePool,
      Reaches (step "viirs-processing") (fun _ event => StartsOnly sampleFromStr "viirs-processing"
        1 requeueDecoders sampleState event) (start (queuedWorld 0)) before ∧
      (before.nextCall 1).any RequeueCall.isEnqueue = true ∧
      before.live sampleFromStr "viirs-processing" 1 = 1 ∧
      before.step "viirs-processing" (.act 1 (requeueEnv .ok)) = some after ∧
      (after.nextCall 1).any RequeueCall.isAccepted = true ∧
      after.live sampleFromStr "viirs-processing" 1 = 2 := by
  refine ⟨by decide, ?_⟩
  obtain ⟨before, hreaches, htest⟩ := exists_reaches_of_runSteps (attemptEvents 2)
    (fun _ => startsOnly_sample) (show (runSteps (step "viirs-processing") (start (queuedWorld 0))
      (attemptEvents 2)).any (fun before => (before.nextCall 1).any RequeueCall.isEnqueue &&
        decide (before.live sampleFromStr "viirs-processing" 1 = 1) &&
        (before.step "viirs-processing" (.act 1 (requeueEnv .ok))).any fun after =>
          (after.nextCall 1).any RequeueCall.isAccepted &&
            decide (after.live sampleFromStr "viirs-processing" 1 = 2)) = true by decide +kernel)
  cases hstep : before.step "viirs-processing" (.act 1 (requeueEnv .ok)) with
  | none => simp [hstep] at htest
  | some after =>
    simp only [hstep, Option.any_some, Bool.and_eq_true, decide_eq_true_eq] at htest
    obtain ⟨⟨henqueue, hlive⟩, haccepted, htwo⟩ := htest
    exact ⟨before, after, hreaches, henqueue, hlive, hstep, haccepted, htwo⟩

end LumenHorizon.Gateway
