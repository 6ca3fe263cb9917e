import LumenHorizon.Ingest.Models
import LumenHorizon.Shared.QueueTransport
import LumenHorizon.Shared.SharedKey

/-! # The requests of the services to storage

Every request that the three services send is signed for exactly what it sends. The one thing that
can go wrong is a cache policy with blanks around it: it is signed with them and received without.
-/

namespace LumenHorizon.Shared
open Foundation Utf8 FormEncoding

section Calls

variable (keep : UInt8 → Bool) (client : StorageClient)

/-- A request without a body; the clients pass their own lines of the query. -/
def bodylessCall (method : String) (url : Url) (query : List (String × String))
    (canonicalizedQuery : List String) : StorageCall where
  method := method
  url := url
  query := query
  headers := []
  contentLength := none
  contentType := none
  canonicalizedQuery := canonicalizedQuery
  additionalCanonicalizedHeaders := []

def pushSegments (segments : List String) : Except StorageCallError Url :=
  if client.endpoint.cannotBeABase then .error (.azureStorage .cannotBeBaseUrl)
  else .ok (segments.foldl (pushSegment keep) client.endpoint)

def clientBlobUrl (containerName blobPath : String) : Except StorageCallError Url :=
  (blobUrl keep client.endpoint containerName blobPath).mapError .azureStorage

namespace ProcessingBlobClient

def downloadRawBlobToPath (containerName blobPath : String) :
    Except StorageCallError StorageCall := do
  let url ← clientBlobUrl keep client containerName blobPath
  .ok (bodylessCall "GET" url [] [])

def uploadProcessedBlob (containerName blobPath : String) (bytes : List UInt8)
    (contentType cacheControl : String) : Except StorageCallError StorageCall := do
  let url ← clientBlobUrl keep client containerName blobPath
  .ok {
    method := "PUT"
    url := url
    query := []
    headers := [("x-ms-blob-type", "BlockBlob"), ("x-ms-blob-content-type", contentType),
      ("x-ms-blob-cache-control", cacheControl), ("content-length", toString bytes.length)]
    contentLength := some bytes.length
    contentType := none
    canonicalizedQuery := []
    additionalCanonicalizedHeaders := ["x-ms-blob-cache-control:" ++ cacheControl,
      "x-ms-blob-content-type:" ++ contentType, "x-ms-blob-type:BlockBlob"] }

def deleteBlob (containerName blobPath : String) : Except StorageCallError StorageCall := do
  let url ← clientBlobUrl keep client containerName blobPath
  .ok (bodylessCall "DELETE" url [] [])

def listBlobsWithPrefix (containerName namePrefix : String) (maxResults : ℕ) :
    Except StorageCallError StorageCall := do
  let url ← pushSegments keep client [containerName]
  .ok (bodylessCall "GET" url
    [("comp", "list"), ("restype", "container"), ("prefix", namePrefix),
      ("maxresults", toString maxResults)]
    ["comp:list", "maxresults:" ++ toString maxResults, "prefix:" ++ namePrefix,
      "restype:container"])

end ProcessingBlobClient

def queueMessagesUrl (queueName : String) : Except StorageCallError Url := do
  validateQueueName queueName
  pushSegments keep client [queueName, "messages"]

/-- The request that puts a message into a queue, whoever sends it. -/
def messageCall (url : Url) (messageText : String) : StorageCall :=
  let body := queueMessageBody messageText
  { method := "POST"
    url := url
    query := []
    headers := [("content-type", "application/xml"), ("content-length", toString (byteLength body))]
    contentLength := some (byteLength body)
    contentType := some "application/xml"
    canonicalizedQuery := []
    additionalCanonicalizedHeaders := [] }

namespace ProcessingQueueClient

def receiveMessages (queueName : String) (maxMessages visibilityTimeoutSeconds : ℕ) :
    Except StorageCallError StorageCall := do
  let url ← queueMessagesUrl keep client queueName
  .ok (bodylessCall "GET" url
    [("numofmessages", toString maxMessages),
      ("visibilitytimeout", toString visibilityTimeoutSeconds)]
    ["numofmessages:" ++ toString maxMessages,
      "visibilitytimeout:" ++ toString visibilityTimeoutSeconds])

def queueMessageUrl (queueName messageId : String) : Except StorageCallError Url := do
  let url ← queueMessagesUrl keep client queueName
  if url.cannotBeABase then .error (.azureStorage .cannotBeBaseUrl)
  else .ok (pushSegment keep url messageId)

def deleteMessage (queueName messageId popReceipt : String) :
    Except StorageCallError StorageCall := do
  let url ← queueMessageUrl keep client queueName messageId
  .ok (bodylessCall "DELETE" url [("popreceipt", popReceipt)] ["popreceipt:" ++ popReceipt])

def enqueueMessage (queueName messageText : String) : Except StorageCallError StorageCall := do
  let url ← queueMessagesUrl keep client queueName
  .ok (messageCall url messageText)

end ProcessingQueueClient

namespace IngestClient

def rawBlobUrl (blobPath : String) : Except StorageCallError Url := do
  (Ingest.validateRawBlobPath blobPath).mapError
    fun error => .invalidBlobPath error.blobPath error.reason
  clientBlobUrl keep client Ingest.rawViirsContainer blobPath

def checkRawContainerAccess : Except StorageCallError StorageCall := do
  let url ← pushSegments keep client [Ingest.rawViirsContainer]
  .ok (bodylessCall "GET" url [("restype", "container"), ("comp", "list"), ("maxresults", "1")]
    ["comp:list", "maxresults:1", "restype:container"])

def uploadRawBlob (blobPath : String) (bytes : List UInt8) :
    Except StorageCallError StorageCall := do
  let url ← rawBlobUrl keep client blobPath
  .ok {
    method := "PUT"
    url := url
    query := []
    headers := [("x-ms-blob-type", "BlockBlob"), ("content-length", toString bytes.length)]
    contentLength := some bytes.length
    contentType := none
    canonicalizedQuery := []
    additionalCanonicalizedHeaders := ["x-ms-blob-type:BlockBlob"] }

def downloadRawBlob (blobPath : String) : Except StorageCallError StorageCall := do
  let url ← rawBlobUrl keep client blobPath
  .ok (bodylessCall "GET" url [] [])

def checkQueueAccess (queueName : String) : Except StorageCallError StorageCall := do
  validateQueueName queueName
  let url ← pushSegments keep client [queueName]
  .ok (bodylessCall "GET" url [("comp", "metadata")] ["comp:metadata"])

def enqueueProcessingMessage (queueName messageText : String) :
    Except StorageCallError StorageCall := do
  let url ← queueMessagesUrl keep client queueName
  .ok (messageCall url messageText)

end IngestClient

namespace GatewayClient

def enqueueProcessingMessage (queueName messageText : String) :
    Except StorageCallError StorageCall := do
  let url ← pushSegments keep client [queueName, "messages"]
  .ok (messageCall url messageText)

def check (queueName : String) : Except StorageCallError StorageCall := do
  let url ← pushSegments keep client [queueName]
  .ok (bodylessCall "GET" url [("comp", "metadata")] ["comp:metadata"])

def readJsonBlob (containerName blobPath : String) : Except StorageCallError StorageCall := do
  let url ← clientBlobUrl keep client containerName blobPath
  .ok (bodylessCall "GET" url [] [])

end GatewayClient

end Calls

inductive StorageOperation where
  | downloadRawBlobToPath (containerName blobPath : String)
  | uploadProcessedBlob (containerName blobPath : String) (bytes : List UInt8)
      (contentType cacheControl : String)
  | deleteBlob (containerName blobPath : String)
  | listBlobsWithPrefix (containerName namePrefix : String) (maxResults : ℕ)
  | receiveMessages (queueName : String) (maxMessages visibilityTimeoutSeconds : ℕ)
  | deleteMessage (queueName messageId popReceipt : String)
  | enqueueMessage (queueName messageText : String)
  | checkRawContainerAccess
  | uploadRawBlob (blobPath : String) (bytes : List UInt8)
  | downloadRawBlob (blobPath : String)
  | checkQueueAccess (queueName : String)
  | enqueueIngestedMessage (queueName messageText : String)
  | requeueMessage (queueName messageText : String)
  | checkQueue (queueName : String)
  | readJsonBlob (containerName blobPath : String)
deriving DecidableEq, Repr

def StorageOperation.call (keep : UInt8 → Bool) (client : StorageClient) :
    StorageOperation → Except StorageCallError StorageCall
  | downloadRawBlobToPath containerName blobPath =>
    ProcessingBlobClient.downloadRawBlobToPath keep client containerName blobPath
  | uploadProcessedBlob containerName blobPath bytes contentType cacheControl =>
    ProcessingBlobClient.uploadProcessedBlob keep client containerName blobPath bytes contentType
      cacheControl
  | deleteBlob containerName blobPath =>
    ProcessingBlobClient.deleteBlob keep client containerName blobPath
  | listBlobsWithPrefix containerName namePrefix maxResults =>
    ProcessingBlobClient.listBlobsWithPrefix keep client containerName namePrefix maxResults
  | receiveMessages queueName maxMessages visibilityTimeoutSeconds =>
    ProcessingQueueClient.receiveMessages keep client queueName maxMessages visibilityTimeoutSeconds
  | deleteMessage queueName messageId popReceipt =>
    ProcessingQueueClient.deleteMessage keep client queueName messageId popReceipt
  | enqueueMessage queueName messageText =>
    ProcessingQueueClient.enqueueMessage keep client queueName messageText
  | checkRawContainerAccess => IngestClient.checkRawContainerAccess keep client
  | uploadRawBlob blobPath bytes => IngestClient.uploadRawBlob keep client blobPath bytes
  | downloadRawBlob blobPath => IngestClient.downloadRawBlob keep client blobPath
  | checkQueueAccess queueName => IngestClient.checkQueueAccess keep client queueName
  | enqueueIngestedMessage queueName messageText =>
    IngestClient.enqueueProcessingMessage keep client queueName messageText
  | requeueMessage queueName messageText =>
    GatewayClient.enqueueProcessingMessage keep client queueName messageText
  | checkQueue queueName => GatewayClient.check keep client queueName
  | readJsonBlob containerName blobPath =>
    GatewayClient.readJsonBlob keep client containerName blobPath

def StorageOperation.headerValues : StorageOperation → List String
  | uploadProcessedBlob _ _ _ contentType cacheControl => [contentType, cacheControl]
  | _ => []

theorem canonical_bodylessCall {method : String} {url : Url} {query : List (String × String)}
    {canonicalizedQuery : List String} (hquery : canonicalizedQuery = (byName query).map line) :
    (bodylessCall method url query canonicalizedQuery).Canonical [] where
  sent := rfl
  named := by simp
  query := hquery
  headers _ := by simp [bodylessCall, byName, line]
  contentType := by simp [bodylessCall]

theorem canonical_messageCall (url : Url) (messageText : String) :
    (messageCall url messageText).Canonical [] where
  sent := rfl
  named := by simp
  query := rfl
  headers _ := by simp [messageCall, byName, line]
  contentType := by
    intro contentType hcontentType
    rw [← Option.some.inj hcontentType]
    decide

/-- A list of blobs is asked for in another order than it is signed. -/
theorem byName_listQuery (namePrefix maxResults : String) :
    (byName [("comp", "list"), ("restype", "container"), ("prefix", namePrefix),
      ("maxresults", maxResults)]).map line =
    ["comp:list", "maxresults:" ++ maxResults, "prefix:" ++ namePrefix, "restype:container"] := by
  simp [byName, line]

/-- The call is signed for what it sends, and `values` are all that decides on its own headers. -/
def SignedAs (call : StorageCall) (values : List String) : Prop :=
  ∃ own, call.Canonical own ∧
    ((∀ header ∈ own, trimBlanks header.2 = header.2) ↔ ∀ value ∈ values, trimBlanks value = value)

variable {call : StorageCall} {target : Except StorageCallError Url}

theorem signedAs_bodylessCall {method : String} {query : List (String × String)}
    {canonicalizedQuery : List String} (hquery : canonicalizedQuery = (byName query).map line)
    (hcall : (do let url ← target; .ok (bodylessCall method url query canonicalizedQuery)) =
      Except.ok call) : SignedAs call [] := by
  obtain ⟨url, -, hcall⟩ := bind_eq_ok_iff.mp hcall
  cases hcall
  exact ⟨[], canonical_bodylessCall hquery, by simp⟩

theorem signedAs_messageCall {messageText : String}
    (hcall : (do let url ← target; .ok (messageCall url messageText)) = Except.ok call) :
    SignedAs call [] := by
  obtain ⟨url, -, hcall⟩ := bind_eq_ok_iff.mp hcall
  cases hcall
  exact ⟨[], canonical_messageCall url messageText, by simp⟩

/-- The three headers of a tile are sent in another order than they are signed. -/
theorem signedAs_uploadProcessedBlob {keep : UInt8 → Bool} {client : StorageClient}
    {containerName blobPath contentType cacheControl : String} {bytes : List UInt8}
    (hcall : ProcessingBlobClient.uploadProcessedBlob keep client containerName blobPath bytes
      contentType cacheControl = .ok call) : SignedAs call [contentType, cacheControl] := by
  obtain ⟨url, -, hcall⟩ := bind_eq_ok_iff.mp hcall
  cases hcall
  have hblock : trimBlanks "BlockBlob" = "BlockBlob" := by decide
  exact ⟨[("x-ms-blob-type", "BlockBlob"), ("x-ms-blob-content-type", contentType),
    ("x-ms-blob-cache-control", cacheControl)],
    { sent := rfl
      named := by
        simp only [List.forall_mem_cons, List.not_mem_nil, false_implies, implies_true, and_true]
        decide
      query := rfl
      headers := fun _ => by simp [byName, line]
      contentType := by simp },
    by simp [hblock]⟩

theorem signedAs_uploadRawBlob {keep : UInt8 → Bool} {client : StorageClient} {blobPath : String}
    {bytes : List UInt8} (hcall : IngestClient.uploadRawBlob keep client blobPath bytes = .ok call) :
    SignedAs call [] := by
  obtain ⟨url, -, hcall⟩ := bind_eq_ok_iff.mp hcall
  cases hcall
  have hblock : trimBlanks "BlockBlob" = "BlockBlob" := by decide
  exact ⟨[("x-ms-blob-type", "BlockBlob")],
    { sent := rfl
      named := by
        simp only [List.forall_mem_cons, List.not_mem_nil, false_implies, implies_true, and_true]
        decide
      query := rfl
      headers := fun _ => by simp [byName, line]
      contentType := by simp },
    by simp [hblock]⟩

theorem StorageOperation.signedAs {keep : UInt8 → Bool} {client : StorageClient}
    {operation : StorageOperation} (hcall : operation.call keep client = .ok call) :
    SignedAs call operation.headerValues := by
  cases operation with
  | downloadRawBlobToPath => exact signedAs_bodylessCall rfl hcall
  | uploadProcessedBlob => exact signedAs_uploadProcessedBlob hcall
  | deleteBlob => exact signedAs_bodylessCall rfl hcall
  | listBlobsWithPrefix containerName namePrefix maxResults =>
    exact signedAs_bodylessCall (byName_listQuery namePrefix (toString maxResults)).symm hcall
  | receiveMessages => exact signedAs_bodylessCall (by simp [byName, line]) hcall
  | deleteMessage => exact signedAs_bodylessCall (by simp [byName, line]) hcall
  | enqueueMessage => exact signedAs_messageCall hcall
  | checkRawContainerAccess => exact signedAs_bodylessCall (by simp [byName, line]) hcall
  | uploadRawBlob => exact signedAs_uploadRawBlob hcall
  | downloadRawBlob => exact signedAs_bodylessCall rfl hcall
  | checkQueueAccess queueName =>
    obtain ⟨_, -, hcall⟩ := bind_eq_ok_iff.mp hcall
    exact signedAs_bodylessCall (by simp [byName, line]) hcall
  | enqueueIngestedMessage => exact signedAs_messageCall hcall
  | requeueMessage => exact signedAs_messageCall hcall
  | checkQueue => exact signedAs_bodylessCall (by simp [byName, line]) hcall
  | readJsonBlob => exact signedAs_bodylessCall rfl hcall

/-- The service reads the query of every operation as it was meant. It computes the signed text from
what it receives exactly if the content type and the cache policy of an upload have no blanks around
them; then it lets the request in. -/
theorem StorageOperation.send_letsIn {sign : String → String → Except String String}
    {keepSegment : UInt8 → Bool} {client : StorageClient} {serializerSet : SerializerSet}
    {lossy : LossyReader} {operation : StorageOperation} {xMsDate : String} {request : SentRequest}
    (hcall : operation.call keepSegment client = .ok call)
    (hsend : call.send sign serializerSet.keep client xMsDate = .ok request)
    (hdate : trimBlanks xMsDate = xMsDate) :
    decodePairs lossy request.query = call.query ∧
    (call.stringToSign client xMsDate = serviceStringToSign lossy client.account request ↔
      ∀ value ∈ operation.headerValues, trimBlanks value = value) ∧
    ((∀ value ∈ operation.headerValues, trimBlanks value = value) →
      LetsIn sign lossy client request) := by
  obtain ⟨own, hcanonical, hvalues⟩ := operation.signedAs hcall
  obtain ⟨authorization, hauthorization, hrequest⟩ := bind_eq_ok_iff.mp hsend
  obtain ⟨-, rfl⟩ : _ ∧ call.request serializerSet.keep authorization xMsDate = request := by
    split_ifs at hrequest with haccepted
    exact ⟨haccepted, Except.ok.inj hrequest⟩
  have htexts : call.stringToSign client xMsDate = serviceStringToSign lossy client.account
      (call.request serializerSet.keep authorization xMsDate) ↔
        ∀ value ∈ operation.headerValues, trimBlanks value = value :=
    (hcanonical.stringToSign_eq_iff client serializerSet lossy hdate).trans hvalues
  refine ⟨decodePairs_serializePairs lossy serializerSet call.query, htexts, fun h => ?_⟩
  refine ⟨authorization, ?_, rfl⟩
  rw [← htexts.mpr h]
  exact hauthorization

/-- What `form_urlencoded` keeps: letters, digits and four signs. -/
def formSet : SerializerSet where
  keep b := b.toNat < 128 &&
    ((Char.ofNat b.toNat).isAlphanum || "*-._".toList.contains (Char.ofNat b.toNat))
  percent := by decide
  ampersand := by decide
  equals := by decide
  plus := by decide

def textReader : LossyReader where
  read bytes := (decodeBytes bytes).getD ""
  read_asBytes text := by rw [decodeBytes_asBytes, Option.getD_some]

def emulatorClient : StorageClient where
  account := "devstoreaccount1"
  accessKey := "dGVzdC1zdG9yYWdlLWFjY291bnQta2V5"
  endpoint := {
    origin := "http://127.0.0.1:10000"
    path := asBytes "devstoreaccount1"
    cannotBeABase := false }

/-- A list of the blobs below a name with a blank in it. -/
theorem StorageOperation.send_letsIn_list :
    ∃ call request, (listBlobsWithPrefix "processed-tiles" "tiles/a b/" 2).call formSet.keep
        emulatorClient = .ok call ∧
      call.send (fun _ _ => .ok "Y+DR98toackTWpY+187FN4kxWJWlqgzA5j28VpWayH4=") formSet.keep
        emulatorClient "Sun, 24 May 2026 12:00:00 GMT" = .ok request ∧
      LetsIn (fun _ _ => .ok "Y+DR98toackTWpY+187FN4kxWJWlqgzA5j28VpWayH4=") textReader
        emulatorClient request :=
  ⟨_, _, rfl, rfl, (@send_letsIn _ _ formSet.keep emulatorClient formSet textReader
    (listBlobsWithPrefix "processed-tiles" "tiles/a b/" 2) "Sun, 24 May 2026 12:00:00 GMT" _ rfl rfl
    (by decide)).2.2 (by decide)⟩

end LumenHorizon.Shared
