import LumenHorizon.Processing.Delivery

/-! # No message is lost

A message leaves the main queue only by the delete of a delivery that processed it or copied it.
Over any run, with redeliveries and with workers stopped between any two calls, what was on the
main queue is still there, or is on the dead-letter queue, or was processed.
-/

namespace LumenHorizon.Processing
open Foundation Shared Program

/-! ## The messages after a call -/

/-- The same message under another receipt and dequeue count. -/
def QueueMessage.Same (m m' : QueueMessage) : Prop :=
  m'.messageId = m.messageId ∧ m'.queueName = m.queueName ∧ m'.messageText = m.messageText

theorem QueueMessage.same_refl (m : QueueMessage) : m.Same m := ⟨rfl, rfl, rfl⟩

namespace ProcessingWorld

/-- Message ids are fresh and distinct. -/
structure QueueOk (w : ProcessingWorld) : Prop where
  fresh : ∀ m ∈ w.messages, m.messageId < w.nextId
  distinct : ∀ m ∈ w.messages, ∀ m' ∈ w.messages, m.messageId = m'.messageId → m = m'

variable {w : ProcessingWorld}

/-- A receive returns one message of its queue under a new receipt. -/
theorem received_eq_some {queueName : String} {pick : ℕ} {taken : QueueMessage}
    (h : w.received queueName pick = some taken) :
    ∃ m ∈ w.messages, m.queueName = queueName ∧ m.Same taken := by
  obtain ⟨m, hm, rfl⟩ := Option.map_eq_some_iff.mp h
  obtain ⟨hmem, hqueue⟩ := List.mem_filter.mp (List.mem_of_getElem? hm)
  exact ⟨m, hmem, of_decide_eq_true hqueue, rfl, rfl, rfl⟩

theorem mem_of_mem_receive {queueName : String} {pick : ℕ} {m' : QueueMessage}
    (h : m' ∈ w.receive queueName pick) : ∃ m ∈ w.messages, m.Same m' := by
  unfold receive at h
  split at h
  · exact ⟨m', h, m'.same_refl⟩
  · next taken htaken =>
    obtain ⟨m, hm, rfl⟩ := List.mem_map.mp h
    split
    · obtain ⟨m₀, hm₀, -, hsame⟩ := received_eq_some htaken
      exact ⟨m₀, hm₀, hsame⟩
    · exact ⟨m, hm, m.same_refl⟩

theorem mem_receive (hw : w.QueueOk) (queueName : String) (pick : ℕ) {m : QueueMessage}
    (hm : m ∈ w.messages) : ∃ m' ∈ w.receive queueName pick, m.Same m' := by
  unfold receive
  split
  · exact ⟨m, hm, m.same_refl⟩
  · next taken htaken =>
    refine ⟨_, List.mem_map_of_mem hm, ?_⟩
    split
    · next hid =>
      obtain ⟨m₀, hm₀, -, hsame⟩ := received_eq_some htaken
      obtain rfl : m = m₀ := hw.distinct m hm m₀ hm₀ (hid.trans hsame.1)
      exact hsame
    · exact m.same_refl

end ProcessingWorld

open ProcessingWorld

variable {w : ProcessingWorld} {c : ProcessingCall} {e : Env}

def enqueued (w : ProcessingWorld) (queueName messageText : String) : QueueMessage where
  messageId := w.nextId
  popReceipt := w.nextId
  dequeueCount := 0
  messageText := messageText
  queueName := queueName

theorem mem_of_mem_answer {m' : QueueMessage} (h : m' ∈ (answer c e w).1.messages) :
    (∃ m ∈ w.messages, m.Same m') ∨
      ((answer c e w).1.nextId = w.nextId + 1 ∧ ∃ queueName messageText,
        c = .enqueueMessage queueName messageText ∧ m' = enqueued w queueName messageText) := by
  rcases answer_effect c e w with ⟨-, hw⟩ | ⟨-, finished, hw⟩
  · rw [hw] at h
    exact .inl ⟨m', h, m'.same_refl⟩
  · rw [hw] at h ⊢
    cases c with
    | receiveMessages queueName maxMessages timeout => exact .inl (mem_of_mem_receive h)
    | deleteMessage queueName messageId popReceipt =>
      exact .inl ⟨m', (List.mem_filter.mp h).1, m'.same_refl⟩
    | enqueueMessage queueName messageText =>
      rcases List.mem_append.mp h with h | h
      · exact .inl ⟨m', h, m'.same_refl⟩
      · exact .inr ⟨rfl, queueName, messageText, rfl, List.mem_singleton.mp h⟩
    | _ => exact .inl ⟨m', h, m'.same_refl⟩

theorem mem_answer (hw : w.QueueOk) (c : ProcessingCall) (e : Env) {m : QueueMessage}
    (hm : m ∈ w.messages) : (∃ m' ∈ (answer c e w).1.messages, m.Same m') ∨
      ∃ queueName messageId popReceipt, c = .deleteMessage queueName messageId popReceipt ∧
        IsMessage queueName messageId popReceipt m := by
  rcases answer_effect c e w with ⟨-, h⟩ | ⟨-, finished, h⟩
  · rw [h]
    exact .inl ⟨m, hm, m.same_refl⟩
  · rw [h]
    cases c with
    | receiveMessages queueName maxMessages timeout => exact .inl (mem_receive hw queueName e.pick hm)
    | deleteMessage queueName messageId popReceipt =>
      by_cases hdelete : IsMessage queueName messageId popReceipt m
      · exact .inr ⟨_, _, _, rfl, hdelete⟩
      · exact .inl ⟨m, List.mem_filter.mpr ⟨hm, decide_eq_true hdelete⟩, m.same_refl⟩
    | enqueueMessage queueName messageText =>
      exact .inl ⟨m, List.mem_append_left _ hm, m.same_refl⟩
    | _ => exact .inl ⟨m, hm, m.same_refl⟩

theorem ProcessingWorld.QueueOk.after (hw : w.QueueOk) (c : ProcessingCall) (e : Env) :
    (answer c e w).1.QueueOk where
  fresh := by
    intro m' hm'
    rcases mem_of_mem_answer hm' with ⟨m, hm, hsame⟩ | ⟨hnext, _, _, -, rfl⟩
    · rw [hsame.1]
      exact (hw.fresh m hm).trans_le (answer_nextId c e w)
    · rw [hnext]
      exact Nat.lt_succ_self _
  distinct := by
    rcases answer_effect c e w with ⟨-, h⟩ | ⟨-, finished, h⟩
    · rw [h]
      exact hw.distinct
    · rw [h]
      cases c with
      | receiveMessages queueName maxMessages timeout =>
        change ∀ m ∈ w.receive queueName e.pick, ∀ m' ∈ w.receive queueName e.pick, _
        unfold receive
        split
        · exact hw.distinct
        · next taken htaken =>
          have hid (m : QueueMessage) :
              (if m.messageId = taken.messageId then taken else m).messageId = m.messageId := by
            split
            · next h => exact h.symm
            · rfl
          intro m hm m' hm' heq
          obtain ⟨old, hold, rfl⟩ := List.mem_map.mp hm
          obtain ⟨old', hold', rfl⟩ := List.mem_map.mp hm'
          rw [hid, hid] at heq
          rw [hw.distinct old hold old' hold' heq]
      | deleteMessage queueName messageId popReceipt =>
        intro m hm m' hm'
        exact hw.distinct m (List.mem_filter.mp hm).1 m' (List.mem_filter.mp hm').1
      | enqueueMessage queueName messageText =>
        intro m hm m' hm' heq
        rcases List.mem_append.mp hm with hm | hm <;> rcases List.mem_append.mp hm' with hm' | hm'
        · exact hw.distinct m hm m' hm' heq
        · rw [List.mem_singleton.mp hm'] at heq
          exact absurd heq (hw.fresh m hm).ne
        · rw [List.mem_singleton.mp hm] at heq
          exact absurd heq.symm (hw.fresh m' hm').ne
        · rw [List.mem_singleton.mp hm, List.mem_singleton.mp hm']
      | _ => exact hw.distinct

theorem effect_finished (e : Env) (w : ProcessingWorld) (c : ProcessingCall) :
    (effect e w c).finished = w.finished := by
  cases c <;> rfl

theorem finished_confirm (w : ProcessingWorld) (c : ProcessingCall) :
    w.finished ⊆ (confirm w c).finished := by
  cases c with
  | markEnding ingestId ending =>
    cases ending with
    | failed | deadlettered => exact List.Subset.refl _
    | rejected | processed => exact List.subset_cons_self _ _
  | _ => exact List.Subset.refl _

theorem finished_answer (c : ProcessingCall) (e : Env) (w : ProcessingWorld) :
    w.finished ⊆ (answer c e w).1.finished := by
  cases ho : e.outcome with
  | ok =>
    rw [answer_of_ok ho]
    exact effect_finished e w c ▸ finished_confirm _ c
  | failed =>
    rw [answer_of_failed ho]
    exact List.Subset.refl _
  | lost =>
    rw [answer_of_lost ho]
    exact (effect_finished e w c).symm ▸ List.Subset.refl _

/-! ## What replaces a deleted message -/

variable {config : ProcessingConfig} {fromStr : String → Except String RawProcessingMessage}

def Processed (fromStr : String → Except String RawProcessingMessage) (w : ProcessingWorld)
    (messageText : String) : Prop :=
  ∃ processingMessage, ProcessingMessage.parseJson fromStr messageText = .ok processingMessage ∧
    processingMessage.ingestId ∈ w.finished

/-- The text was processed, or is on the dead-letter queue in a message newer than this one. -/
def Replaced (config : ProcessingConfig)
    (fromStr : String → Except String RawProcessingMessage) (w : ProcessingWorld)
    (messageId : ℕ) (messageText : String) : Prop :=
  Processed fromStr w messageText ∨ ∃ m ∈ w.messages,
    m.queueName = config.azureDeadletterQueueName ∧ m.messageText = messageText ∧
      messageId < m.messageId

def DeletesReplaced (config : ProcessingConfig)
    (fromStr : String → Except String RawProcessingMessage) (w : ProcessingWorld)
    (c : ProcessingCall) : Prop :=
  ∀ queueName messageId popReceipt, c = .deleteMessage queueName messageId popReceipt →
    ∀ m ∈ w.messages, IsMessage queueName messageId popReceipt m →
      Replaced config fromStr w m.messageId m.messageText

theorem Processed.answer {messageText : String} (h : Processed fromStr w messageText)
    (c : ProcessingCall) (e : Env) : Processed fromStr (answer c e w).1 messageText := by
  obtain ⟨processingMessage, hparse, hfinished⟩ := h
  exact ⟨processingMessage, hparse, finished_answer c e w hfinished⟩

/-- A replaced message stays replaced: a copy is deleted only for a newer one, which has another
id. -/
theorem Replaced.answer (hw : w.QueueOk) (hdelete : DeletesReplaced config fromStr w c)
    {messageId : ℕ} {messageText : String} (h : Replaced config fromStr w messageId messageText)
    (e : Env) : Replaced config fromStr (answer c e w).1 messageId messageText := by
  rcases h with h | ⟨m, hm, hqueue, rfl, hlt⟩
  · exact .inl (h.answer c e)
  · rcases mem_answer hw c e hm with ⟨m', hm', hsame⟩ | ⟨_, _, _, hc, hism⟩
    · exact .inr ⟨m', hm', hsame.2.1.trans hqueue, hsame.2.2, hsame.1 ▸ hlt⟩
    · rcases hdelete _ _ _ hc m hm hism with h | ⟨m₂, hm₂, hqueue₂, htext₂, hlt₂⟩
      · exact .inl (h.answer c e)
      · rcases mem_answer hw c e hm₂ with ⟨m', hm', hsame⟩ | ⟨_, _, _, hc', hism₂⟩
        · refine .inr ⟨m', hm', hsame.2.1.trans hqueue₂, hsame.2.2.trans htext₂, ?_⟩
          rw [hsame.1]
          exact hlt.trans hlt₂
        · cases hc.symm.trans hc'
          exact absurd (hism.2.1.trans hism₂.2.1.symm) hlt₂.ne

/-! ## What the replies of a delivery vouch for -/

/-- What a reply says of the world, from the time it was given on. -/
def Vouches (config : ProcessingConfig) (fromStr : String → Except String RawProcessingMessage)
    (w : ProcessingWorld) (t : History) : (c : ProcessingCall) → c.Reply → Prop
  | .receiveMessages _ _ _, .ok messages => ∀ r ∈ messages, r.messageId < w.nextId ∧
      ∀ m ∈ w.messages, m.messageId = r.messageId → m.messageText = r.messageText
  | .enqueueMessage queueName messageText, .ok () =>
      queueName = config.azureDeadletterQueueName →
        ∀ queueName' maxMessages timeout messages, ∀ r ∈ messages,
          Made t (.receiveMessages queueName' maxMessages timeout) (.ok messages) →
            r.messageText = messageText → Replaced config fromStr w r.messageId messageText
  | .markEnding ingestId ending, .ok () => Final ending → ingestId ∈ w.finished
  | _, _ => True

/-- A reply that the environment can give and whose word holds. -/
def Reported (config : ProcessingConfig) (fromStr : String → Except String RawProcessingMessage)
    (w : ProcessingWorld) (t : History) (c : ProcessingCall) (reply : c.Reply) : Prop :=
  Possible c reply ∧ Vouches config fromStr w t c reply

theorem Vouches.answer (hw : w.QueueOk) (hdelete : DeletesReplaced config fromStr w c) (e : Env)
    {t : History} {c' : ProcessingCall} {reply : c'.Reply}
    (h : Vouches config fromStr w t c' reply) :
    Vouches config fromStr (answer c e w).1 t c' reply := by
  cases c' with
  | receiveMessages queueName maxMessages timeout =>
    cases reply with
    | error error => trivial
    | ok messages =>
      intro r hr
      obtain ⟨hlt, htext⟩ := h r hr
      refine ⟨hlt.trans_le (answer_nextId c e w), fun m' hm' hid => ?_⟩
      rcases mem_of_mem_answer hm' with ⟨m, hm, hsame⟩ | ⟨-, _, _, -, rfl⟩
      · rw [hsame.2.2]
        exact htext m hm (hsame.1.symm.trans hid)
      · exact absurd hid hlt.ne'
  | enqueueMessage queueName messageText =>
    cases reply with
    | error error => trivial
    | ok _ =>
      intro hqueue queueName' maxMessages timeout messages r hr hmade htext
      exact (h hqueue queueName' maxMessages timeout messages r hr hmade htext).answer hw hdelete e
  | markEnding ingestId ending =>
    cases reply with
    | error error => trivial
    | ok _ => exact fun hfinal => finished_answer c e w (h hfinal)
  | _ => trivial

theorem vouches_answer (hw : w.QueueOk) (c : ProcessingCall) (e : Env) {t : History}
    (ht : Witnessed (Reported config fromStr w) t) :
    Vouches config fromStr (answer c e w).1 t c (answer c e w).2 := by
  cases ho : e.outcome with
  | failed =>
    rw [answer_of_failed ho]
    cases c <;> trivial
  | lost =>
    rw [answer_of_lost ho]
    cases c <;> trivial
  | ok =>
    rw [answer_of_ok ho]
    cases c with
    | receiveMessages queueName maxMessages timeout =>
      intro r hr
      cases htaken : w.received queueName e.pick with
      | none => simp [htaken] at hr
      | some taken =>
        obtain rfl : r = taken.toReceivedQueueMessage := by simpa [htaken] using hr
        obtain ⟨m₀, hm₀, -, hsame⟩ := received_eq_some htaken
        refine ⟨?_, fun m' hm' hid => ?_⟩
        · rw [hsame.1]
          exact (hw.fresh m₀ hm₀).trans (Nat.lt_succ_self _)
        · obtain ⟨m, hm, hsame'⟩ := mem_of_mem_receive hm'
          obtain rfl : m = m₀ :=
            hw.distinct m hm m₀ hm₀ (hsame'.1.symm.trans (hid.trans hsame.1))
          exact hsame'.2.2.trans hsame.2.2.symm
    | enqueueMessage queueName messageText =>
      intro hqueue queueName' maxMessages timeout messages r hr hmade htext
      obtain ⟨t', -, hreceived⟩ := ht.of_mem hmade
      exact .inr ⟨enqueued w queueName messageText,
        List.mem_append_right _ (List.mem_singleton.mpr rfl), hqueue, rfl, (hreceived r hr).1⟩
    | markEnding ingestId ending =>
      intro hfinal
      cases ending with
      | failed | deadlettered => exact hfinal.elim
      | rejected | processed => exact List.mem_cons_self
    | _ => trivial

theorem possible_of_reported {t : History} (ht : Witnessed (Reported config fromStr w) t) :
    ∀ entry ∈ t, Possible entry.1 entry.2 := by
  intro entry hentry
  obtain ⟨t', hpossible, -⟩ := ht.of_mem hentry
  exact hpossible

/-! ## Deletes -/

def Command.SharesQueues (config : ProcessingConfig) : Command → Prop
  | .processOnce other _ => other.azureQueueName = config.azureQueueName ∧
      other.azureDeadletterQueueName = config.azureDeadletterQueueName
  | _ => True

def Launched (config : ProcessingConfig) (fromStr : String → Except String RawProcessingMessage)
    (p : ProcessingProgram Unit) : Prop :=
  ∃ command : Command, command.SharesQueues config ∧ p = command.program fromStr

/-- Only a delivery deletes messages, and only as its rule says. -/
theorem Launched.delete {p : ProcessingProgram Unit} (hp : Launched config fromStr p) {t : History}
    {queueName : String} {messageId popReceipt : ℕ}
    {next : Except StorageError Unit → ProcessingProgram Unit}
    (hfollows : p.Follows t (.call (.deleteMessage queueName messageId popReceipt) next))
    (ht : ∀ entry ∈ t, Possible entry.1 entry.2) :
    ∃ other promotedAt received,
      other.azureDeadletterQueueName = config.azureDeadletterQueueName ∧
      Received other t received ∧ messageId = received.messageId ∧
      (ProcessedOk other fromStr promotedAt received t ∨ Copied other received t) := by
  obtain ⟨command, hshares, rfl⟩ := hp
  have hrule := ((command.program_meets []).of_follows hfollows ht).1
  rw [List.append_nil] at hrule
  cases command with
  | ingest row => cases hrule
  | enqueue queueName messageText => cases hrule
  | processMessage config message promotedAt =>
    obtain ⟨_, -, hrule⟩ := hrule
    exact absurd trivial hrule.not_movesMessage
  | retentionCleanup config cleanup => exact hrule.elim
  | processOnce other promotedAt =>
    have hdelivery : DeliveryRule other fromStr promotedAt t
        (.deleteMessage queueName messageId popReceipt) := hrule
    obtain ⟨received, hreceived, -, hid, -, hdone⟩ := hdelivery.queueRule trivial
    exact ⟨other, promotedAt, received, hshares.2, hreceived, hid, hdone⟩

/-- A delivery deletes its message once the message is replaced. -/
theorem Launched.deletesReplaced {p : ProcessingProgram Unit} (hp : Launched config fromStr p)
    {t : History} {next : c.Reply → ProcessingProgram Unit} (hfollows : p.Follows t (.call c next))
    (ht : Witnessed (Reported config fromStr w) t) : DeletesReplaced config fromStr w c := by
  rintro queueName messageId popReceipt rfl m hm hism
  obtain ⟨other, promotedAt, received, hdlq, ⟨messages, hmade, hlast⟩, hid, hdone⟩ :=
    hp.delete hfollows (possible_of_reported ht)
  have hreceived : received ∈ messages := List.mem_of_getLast? hlast
  obtain ⟨_, -, hvouched⟩ := ht.of_mem hmade
  have hmid : m.messageId = received.messageId := hism.2.1.trans hid
  have htext : m.messageText = received.messageText := (hvouched received hreceived).2 m hm hmid
  rw [hmid, htext]
  rcases hdone with ⟨processingMessage, _, _, hparse, -, -, ending, hfinal, t', rfl⟩ | ⟨t', rfl⟩
  · exact .inl ⟨processingMessage, hparse, ht.1.2 hfinal⟩
  · have hmade' : Made t' (.receiveMessages other.azureQueueName 1
        other.processingVisibilityTimeoutSeconds) (.ok messages) :=
      (List.mem_cons.mp hmade).resolve_left nofun
    exact ht.1.2 hdlq _ _ _ messages received hreceived hmade' rfl

/-! ## Runs -/

namespace ProcessingPool

/-- Only commands are started, whose deliveries work on these two queues. -/
def StartsOn (config : ProcessingConfig) (fromStr : String → Except String RawProcessingMessage)
    (event : ProcessingEvent) : Prop := ∀ p, event = .spawn p → Launched config fromStr p

/-- Message ids are in order, and every live command has a history the world vouches for. -/
structure MessagesOk (config : ProcessingConfig)
    (fromStr : String → Except String RawProcessingMessage) (pool : ProcessingPool) : Prop where
  queueOk : pool.world.QueueOk
  vouched : ∀ p ∈ pool.procs, p.next? ≠ none →
    Pool.Vouched (Launched config fromStr) (Reported config fromStr) pool.world p

variable {pool pool' : ProcessingPool} {event : ProcessingEvent}

theorem messagesOk_empty : empty.MessagesOk config fromStr where
  queueOk := ⟨nofun, nofun⟩
  vouched := nofun

theorem MessagesOk.step (h : pool.MessagesOk config fromStr)
    (hstarts : StartsOn config fromStr event) (hstep : pool.step event = some pool') :
    pool'.MessagesOk config fromStr where
  queueOk := by
    rcases Pool.step_cases hstep with
      ⟨p, rfl, rfl⟩ | ⟨i, e, c, next, rfl, hi, rfl⟩ | ⟨i, c, next, rfl, hi, rfl⟩
    · exact h.queueOk
    · exact h.queueOk.after c e
    · exact h.queueOk
  vouched := by
    refine Pool.vouched_step hstep hstarts (fun p₀ t c next e hp₀ hfollows ht => ⟨?_, ?_⟩) h.vouched
    · exact ⟨⟨e, _, rfl⟩, vouches_answer h.queueOk c e ht⟩
    · intro t' c' reply hreported
      exact ⟨hreported.1,
        hreported.2.answer h.queueOk (hp₀.deletesReplaced hfollows ht) e⟩

def Safe (config : ProcessingConfig) (fromStr : String → Except String RawProcessingMessage)
    (message : QueueMessage) (pool : ProcessingPool) : Prop :=
  (∃ m ∈ pool.world.messages, message.Same m) ∨
    Replaced config fromStr pool.world message.messageId message.messageText

theorem Safe.step {message : QueueMessage} (h : pool.Safe config fromStr message)
    (hok : pool.MessagesOk config fromStr) (hstep : pool.step event = some pool') :
    pool'.Safe config fromStr message := by
  rcases Pool.step_cases hstep with
    ⟨p, rfl, rfl⟩ | ⟨i, e, c, next, rfl, hi, rfl⟩ | ⟨i, c, next, rfl, hi, rfl⟩
  · exact h
  · obtain ⟨p₀, t, hp₀, hfollows, ht⟩ := hok.vouched _ (List.mem_of_getElem? hi) nofun
    have hdelete := hp₀.deletesReplaced hfollows ht
    rcases h with ⟨m, hm, hsame⟩ | h
    · rcases mem_answer hok.queueOk c e hm with ⟨m', hm', hsame'⟩ | ⟨_, _, _, hc, hism⟩
      · exact .inl ⟨m', hm', hsame'.1.trans hsame.1, hsame'.2.1.trans hsame.2.1,
          hsame'.2.2.trans hsame.2.2⟩
      · have hreplaced := hdelete _ _ _ hc m hm hism
        rw [hsame.1, hsame.2.2] at hreplaced
        exact .inr (hreplaced.answer hok.queueOk hdelete e)
    · exact .inr (h.answer hok.queueOk hdelete e)
  · exact h

/-- The message is still in its queue, or its text is on the dead-letter queue, or it was
processed. -/
def Kept (config : ProcessingConfig) (fromStr : String → Except String RawProcessingMessage)
    (message : QueueMessage) (pool : ProcessingPool) : Prop :=
  (∃ m ∈ pool.world.messages, message.Same m) ∨
    (∃ m ∈ pool.world.messages, m.queueName = config.azureDeadletterQueueName ∧
      m.messageText = message.messageText) ∨
    Processed fromStr pool.world message.messageText

theorem Safe.kept {message : QueueMessage} (h : pool.Safe config fromStr message) :
    pool.Kept config fromStr message := by
  rcases h with h | h | ⟨m, hm, hqueue, htext, -⟩
  · exact .inl h
  · exact .inr (.inr h)
  · exact .inr (.inl ⟨m, hm, hqueue, htext⟩)

theorem messagesOk_of_reaches (h : Reaches step (fun _ => StartsOn config fromStr) empty pool) :
    pool.MessagesOk config fromStr :=
  h.invariant messagesOk_empty fun _ _ _ hok hstarts hstep => hok.step hstarts hstep

theorem kept_of_reaches {message : QueueMessage}
    (h : Reaches step (fun _ => StartsOn config fromStr) empty pool)
    (hmem : message ∈ pool.world.messages)
    (h' : Reaches step (fun _ => StartsOn config fromStr) pool pool') :
    pool'.Kept config fromStr message := by
  have hinv : pool'.MessagesOk config fromStr ∧ pool'.Safe config fromStr message := by
    induction h' with
    | start => exact ⟨messagesOk_of_reaches h, .inl ⟨message, hmem, message.same_refl⟩⟩
    | next _ hstarts hstep ih => exact ⟨ih.1.step hstarts hstep, ih.2.step ih.1 hstep⟩
  exact hinv.2.kept

end ProcessingPool

/-! ## One delivery -/

/-- What a delivery has done when it asks for a delete, for a dead-letter enqueue, or reports a
handled message. -/
structure AcknowledgesSafely (config : ProcessingConfig)
    (fromStr : String → Except String RawProcessingMessage) (promotedAt : ℕ) (t : History)
    (q : ProcessingProgram (Except ServiceError ProcessOnceOutcome)) : Prop where
  deletes : ∀ queueName messageId popReceipt,
    q.next? = some (.deleteMessage queueName messageId popReceipt) →
      queueName = config.azureQueueName ∧ ∃ message, Received config t message ∧
        messageId = message.messageId ∧ popReceipt = message.popReceipt ∧
        (ProcessedOk config fromStr promotedAt message t ∨ Copied config message t)
  handled : q = .done (.ok .handledMessage) → ∃ message, Received config t message ∧
    Last t (.deleteMessage config.azureQueueName message.messageId message.popReceipt) (.ok ())
  deadletters : ∀ queueName messageText,
    q.next? = some (.enqueueMessage queueName messageText) →
      queueName = config.azureDeadletterQueueName ∧ ∃ message, Received config t message ∧
        messageText = message.messageText ∧
        (config.processingMaxDequeueCount ≤ message.dequeueCount ∨
          IngestRowMissing fromStr message t)

theorem acknowledgesSafely_of_follows {promotedAt : ℕ} {t : History}
    {q : ProcessingProgram (Except ServiceError ProcessOnceOutcome)}
    (h : (processOnceWithQueue config fromStr promotedAt).Follows t q)
    (ht : ∀ entry ∈ t, Possible entry.1 entry.2) :
    AcknowledgesSafely config fromStr promotedAt t q := by
  have hmeets := (processOnceWithQueue_meets []).of_follows h ht
  rw [List.append_nil] at hmeets
  cases q with
  | done outcome =>
    refine ⟨nofun, fun hdone => ?_, nofun⟩
    cases hdone
    exact hmeets rfl
  | call c next =>
    refine ⟨?_, nofun, ?_⟩
    · intro queueName messageId popReceipt hnext
      cases hnext
      obtain ⟨message, hreceived, hqueue, hrule⟩ := hmeets.1.queueRule trivial
      exact ⟨hqueue, message, hreceived, hrule⟩
    · intro queueName messageText hnext
      cases hnext
      obtain ⟨message, hreceived, hqueue, hrule⟩ := hmeets.1.queueRule trivial
      exact ⟨hqueue, message, hreceived, hrule⟩

/-- A start reports a missing ingest row only where there is none. -/
theorem not_known_of_missingIngestLog {message : ProcessingMessage} {ingestId : Uuid}
    (h : (answer (.upsertProcessingStarted message) e w).2 = .error (.missingIngestLog ingestId)) :
    w.Known message.ingestId = false := by
  cases ho : e.outcome with
  | failed =>
    rw [answer_of_failed ho] at h
    cases h
  | lost =>
    rw [answer_of_lost ho] at h
    cases h
  | ok =>
    rw [answer_of_ok ho] at h
    cases hknown : w.Known message.ingestId with
    | false => rfl
    | true =>
      rcases w.processingLog.upsertProcessingStarted_cases true message w.nextId e.now with
        ⟨error, herror, herr⟩ | ⟨-, -, hok⟩ | ⟨-, row, -, -, -, hok⟩
      · rw [result, hknown, herror, herr rfl] at h
        cases h
      · rw [result, hknown, hok] at h
        cases h
      · rw [result, hknown, hok] at h
        cases h

/-- Each delivery deletes, dead-letters and reports only as it may, and over every run of
commands, stopped between any two calls, no message is lost. -/
theorem noMessageLost (config : ProcessingConfig)
    (fromStr : String → Except String RawProcessingMessage) :
    (∀ promotedAt t q, (processOnceWithQueue config fromStr promotedAt).Follows t q →
      (∀ entry ∈ t, Possible entry.1 entry.2) →
        AcknowledgesSafely config fromStr promotedAt t q) ∧
    (∀ message e w ingestId,
      (answer (.upsertProcessingStarted message) e w).2 = .error (.missingIngestLog ingestId) →
        w.Known message.ingestId = false) ∧
    ∀ pool pool' message,
      Reaches ProcessingPool.step (fun _ => ProcessingPool.StartsOn config fromStr)
        ProcessingPool.empty pool → message ∈ pool.world.messages →
      Reaches ProcessingPool.step (fun _ => ProcessingPool.StartsOn config fromStr) pool pool' →
        pool'.Kept config fromStr message :=
  ⟨fun _ _ _ => acknowledgesSafely_of_follows, fun _ _ _ _ => not_known_of_missingIngestLog,
    fun _ _ _ => ProcessingPool.kept_of_reaches⟩

/-! ## A redelivered message without an ingest row -/

namespace ProcessingPool

theorem startsOn_act (i : ℕ) (e : Env) : StartsOn config fromStr (.act i e) :=
  fun _ h => nomatch h

theorem startsOn_stop (i : ℕ) : StartsOn config fromStr (.stop i) := fun _ h => nomatch h

theorem startsOn_spawn {command : Command} (h : command.SharesQueues config) :
    StartsOn config fromStr (.spawn (command.program fromStr)) := by
  intro p hp
  exact ⟨command, h, (PoolEvent.spawn.inj hp).symm⟩

def queuedMessage : QueueMessage where
  messageId := 0
  popReceipt := 0
  dequeueCount := 0
  messageText := "a"
  queueName := "viirs-processing"

def queuedPool : ProcessingPool where
  world := { empty.world with messages := [queuedMessage], nextId := 1 }
  procs := [.done ()]

theorem queuedPool_reached :
    Reaches step (fun _ => StartsOn sampleConfig sampleFromStr) empty queuedPool := by
  refine reaches_of_runSteps
    [.spawn ((Command.enqueue "viirs-processing" "a").program sampleFromStr),
      .act 0 (sampleEnv .ok 0 0)] (fun _ => ?_) rfl
  exact List.forall_mem_cons.mpr ⟨startsOn_spawn trivial,
    List.forall_mem_cons.mpr ⟨startsOn_act _ _, nofun⟩⟩

/-- A delivery that is stopped after its receive, and the redelivery to a second one. -/
def redeliveryEvents : List ProcessingEvent :=
  .spawn ((Command.processOnce sampleConfig 0).program sampleFromStr) ::
    .act 1 (sampleEnv .ok 0 0) :: .act 1 (sampleEnv .ok 0 0) :: .stop 1 ::
    .spawn ((Command.processOnce sampleConfig 0).program sampleFromStr) ::
    List.replicate 6 (.act 2 (sampleEnv .ok 0 0))

theorem redeliveryEvents_startsOn :
    ∀ event ∈ redeliveryEvents, StartsOn sampleConfig sampleFromStr event := by
  have hspawn : StartsOn sampleConfig sampleFromStr
      (.spawn ((Command.processOnce sampleConfig 0).program sampleFromStr)) :=
    startsOn_spawn ⟨rfl, rfl⟩
  intro event hevent
  simp only [redeliveryEvents, List.mem_cons, List.mem_replicate] at hevent
  rcases hevent with rfl | rfl | rfl | rfl | rfl | ⟨-, rfl⟩
  · exact hspawn
  · exact startsOn_act _ _
  · exact startsOn_act _ _
  · exact startsOn_stop _
  · exact hspawn
  · exact startsOn_act _ _

end ProcessingPool

open ProcessingPool in
/-- The only copy left is the one on the dead-letter queue. -/
theorem noMessageLost_redelivery :
    ∃ pool : ProcessingPool,
      pool.world.messages.map QueueMessage.queueName = ["viirs-processing-deadletter"] ∧
      pool.Kept sampleConfig sampleFromStr queuedMessage := by
  obtain ⟨pool, hreaches, htest⟩ := exists_reaches_of_runSteps redeliveryEvents
    (fun _ => redeliveryEvents_startsOn)
    (show (runSteps step queuedPool redeliveryEvents).any (fun pool => decide
      (pool.world.messages.map QueueMessage.queueName = ["viirs-processing-deadletter"])) = true
      by decide +kernel)
  exact ⟨pool, of_decide_eq_true htest,
    (noMessageLost sampleConfig sampleFromStr).2.2 queuedPool pool queuedMessage
      queuedPool_reached List.mem_cons_self hreaches⟩

end LumenHorizon.Processing
