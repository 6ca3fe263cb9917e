import LumenHorizon.Processing.Message

/-! # The queue worker

One delivery: receive a message, process it, and acknowledge it, move it to the dead-letter
queue, or leave it for a retry.
-/

namespace LumenHorizon.Processing
open Foundation Shared ProcessingProgram

inductive ProcessOnceOutcome where
  | handledMessage
  | noMessage
deriving DecidableEq, Repr

def shouldDeadletter (dequeueCount maxDequeueCount : ℕ) : Bool := maxDequeueCount ≤ dequeueCount

def isMissingIngestLogError : ServiceError → Bool
  | .database (.missingIngestLog _) => true
  | _ => false

def markProcessingFailure (message : ProcessingMessage) (error : ServiceError)
    (deadlettered : Bool) : ProcessingProgram (Except ServiceError Unit) := do
  match ← connect with
  | .error error => pure (.error (.database error))
  | .ok () =>
    match ← (if deadlettered then markProcessingDeadlettered message.ingestId error.display
      else markProcessingFailed message.ingestId error.display) with
    | .error error => pure (.error (.database error))
    | .ok () => pure (.ok ())

def moveQueueMessageToDeadletter (config : ProcessingConfig) (message : ReceivedQueueMessage) :
    ProcessingProgram (Except ServiceError Unit) := do
  match ← enqueueMessage config.azureDeadletterQueueName message.messageText with
  | .error error => pure (.error (.storage error))
  | .ok () =>
    match ← deleteMessage config.azureQueueName message.messageId message.popReceipt with
    | .error error => pure (.error (.storage error))
    | .ok () => pure (.ok ())

def deadletterMessage (config : ProcessingConfig) (message : ReceivedQueueMessage) :
    ProcessingProgram (Except ServiceError ProcessOnceOutcome) := do
  match ← moveQueueMessageToDeadletter config message with
  | .error error => pure (.error error)
  | .ok () => pure (.ok .handledMessage)

/-- After processing failed: a missing ingest row and an exhausted message go to the dead-letter
queue, the second after its failure is recorded; any other message is left for a retry. -/
def handleFailure (config : ProcessingConfig) (message : ReceivedQueueMessage)
    (processingMessage : ProcessingMessage) (error : ServiceError) :
    ProcessingProgram (Except ServiceError ProcessOnceOutcome) := do
  if isMissingIngestLogError error then deadletterMessage config message
  else if shouldDeadletter message.dequeueCount config.processingMaxDequeueCount then
    match ← markProcessingFailure processingMessage error true with
    | .error error => pure (.error error)
    | .ok () => deadletterMessage config message
  else
    match ← markProcessingFailure processingMessage error false with
    | .error error => pure (.error error)
    | .ok () => pure (.error error)

def handleMessage (config : ProcessingConfig)
    (fromStr : String → Except String RawProcessingMessage) (promotedAt : ℕ)
    (message : ReceivedQueueMessage) :
    ProcessingProgram (Except ServiceError ProcessOnceOutcome) := do
  match ProcessingMessage.parseJson fromStr message.messageText with
  | .error error =>
    if shouldDeadletter message.dequeueCount config.processingMaxDequeueCount then
      deadletterMessage config message
    else pure (.error (.processingMessage error))
  | .ok processingMessage =>
    match ← processParsedMessage config processingMessage promotedAt with
    | .error error => handleFailure config message processingMessage error
    | .ok () =>
      match ← deleteMessage config.azureQueueName message.messageId message.popReceipt with
      | .error error => pure (.error (.storage error))
      | .ok () => pure (.ok .handledMessage)

def processOnceWithQueue (config : ProcessingConfig)
    (fromStr : String → Except String RawProcessingMessage) (promotedAt : ℕ) :
    ProcessingProgram (Except ServiceError ProcessOnceOutcome) := do
  match ← receiveMessages config.azureQueueName 1 config.processingVisibilityTimeoutSeconds with
  | .error error => pure (.error (.storage error))
  | .ok messages =>
    match messages.getLast? with
    | none => pure (.ok .noMessage)
    | some message => handleMessage config fromStr promotedAt message

def processOnce (config : ProcessingConfig)
    (fromStr : String → Except String RawProcessingMessage) (promotedAt : ℕ) :
    ProcessingProgram (Except ServiceError ProcessOnceOutcome) := do
  match ← newQueueClient with
  | .error error => pure (.error (.storage error))
  | .ok () => processOnceWithQueue config fromStr promotedAt

def processMessagePayload (config : ProcessingConfig)
    (fromStr : String → Except String RawProcessingMessage) (promotedAt : ℕ) (message : String) :
    ProcessingProgram (Except ServiceError Unit) := do
  match ProcessingMessage.parseJson fromStr message with
  | .error error => pure (.error (.processingMessage error))
  | .ok processingMessage => processParsedMessage config processingMessage promotedAt

end LumenHorizon.Processing
