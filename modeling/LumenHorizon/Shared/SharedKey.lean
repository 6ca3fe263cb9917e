import LumenHorizon.Foundation.FormEncoding
import LumenHorizon.Shared.BlobUrls
import LumenHorizon.Shared.Strings

/-! # Signed requests to storage

A client signs a text that it writes beside its request. The storage service writes the same text
from the request that it receives: the values of some headers in their order, the headers of its own
by name, the path and the query by name. The request is let in if both are one text.
-/

namespace LumenHorizon.Shared
open Foundation Utf8 FormEncoding

structure StorageStringToSignRequest where
  account : String
  method : String
  requestPath : String
  contentLength : Option ℕ
  contentType : Option String
  canonicalizedQuery : List String
  additionalCanonicalizedHeaders : List String
  xMsDate : String
deriving DecidableEq, Repr

def canonicalizedResource (account requestPath : String) (canonicalizedQuery : List String) :
    String :=
  canonicalizedQuery.foldl (fun value query => value ++ "\n" ++ query)
    ("/" ++ account ++ requestPath)

def storageStringToSignWithHeaders (request : StorageStringToSignRequest) : String :=
  let contentLength := ((request.contentLength.filter (0 < ·)).map toString).getD ""
  let contentType := request.contentType.getD ""
  let canonicalizedHeaders :=
    request.additionalCanonicalizedHeaders.foldl (fun headers header => headers ++ header ++ "\n") ""
      ++ ("x-ms-date:" ++ request.xMsDate ++ "\nx-ms-version:2023-11-03\n")
  request.method ++ "\n\n\n" ++ contentLength ++ "\n\n" ++ contentType ++ "\n\n\n\n\n\n\n" ++
    canonicalizedHeaders ++
    canonicalizedResource request.account request.requestPath request.canonicalizedQuery

/-- Why a request is not sent. The texts of the signing library are kept. -/
inductive StorageCallError where
  | azureStorage (error : AzureStorageError)
  | invalidQueueName (queueName reason : String)
  | invalidBlobPath (blobPath reason : String)
  | sign (message : String)
  | request
deriving DecidableEq, Repr

/-- `sign` is the keyed hash of a text, with the base64 around it; it refuses some keys. -/
def sharedKeyAuthorization (sign : String → String → Except String String)
    (account accessKey stringToSign : String) : Except StorageCallError String :=
  match sign accessKey stringToSign with
  | .error message => .error (.sign message)
  | .ok signature => .ok ("SharedKey " ++ account ++ ":" ++ signature)

def isQueueNameByte (c : Char) : Bool := c.isLower || c.isDigit || c = '-'

def validateQueueName (queueName : String) : Except StorageCallError Unit :=
  if ¬ (3 ≤ byteLength queueName ∧ byteLength queueName ≤ 63) then
    .error (.invalidQueueName queueName "queue names must be between 3 and 63 characters")
  else if ¬ queueName.toList.all isQueueNameByte then
    .error (.invalidQueueName queueName
      "queue names must contain only lowercase letters, digits, and hyphens")
  else if startsWith queueName "-" || endsWith queueName "-" || containsText queueName "--" then
    .error (.invalidQueueName queueName ("queue names must start and end with a letter or digit " ++
      "and avoid consecutive hyphens"))
  else .ok ()

/-! ## A request and what is signed for it -/

structure StorageClient where
  account : String
  accessKey : String
  endpoint : Url
deriving DecidableEq, Repr

/-- What a client sends, and what it hands over to be signed for it: the last four fields. -/
structure StorageCall where
  method : String
  url : Url
  query : List (String × String)
  headers : List (String × String)
  contentLength : Option ℕ
  contentType : Option String
  canonicalizedQuery : List String
  additionalCanonicalizedHeaders : List String
deriving DecidableEq, Repr

/-- A request as it is received: header values without the blanks around them. -/
structure SentRequest where
  method : String
  path : String
  query : List UInt8
  headers : List (String × String)
deriving DecidableEq, Repr

/-- `Url::path`. -/
def Url.pathText (url : Url) : String := String.ofList ('/' :: asciiText url.path)

def isHeaderBlank (c : Char) : Bool := c = ' ' || c = '\t'

def trimBlanks (value : String) : String :=
  String.ofList ((value.toList.dropWhile isHeaderBlank).rdropWhile isHeaderBlank)

def StorageCall.stringToSign (client : StorageClient) (call : StorageCall) (xMsDate : String) :
    String :=
  storageStringToSignWithHeaders {
    account := client.account
    method := call.method
    requestPath := call.url.pathText
    contentLength := call.contentLength
    contentType := call.contentType
    canonicalizedQuery := call.canonicalizedQuery
    additionalCanonicalizedHeaders := call.additionalCanonicalizedHeaders
    xMsDate := xMsDate }

/-- The headers of all clients, with those of the call behind them. -/
def StorageCall.sentHeaders (call : StorageCall) (authorization xMsDate : String) :
    List (String × String) :=
  [("authorization", authorization), ("x-ms-date", xMsDate), ("x-ms-version", "2023-11-03")] ++
    call.headers

def StorageCall.request (keep : UInt8 → Bool) (call : StorageCall)
    (authorization xMsDate : String) : SentRequest where
  method := call.method
  path := call.url.pathText
  query := serializePairs keep call.query
  headers := (call.sentHeaders authorization xMsDate).map fun header =>
    (header.1, trimBlanks header.2)

/-- A header with a control character in its value fails the whole request. -/
def acceptsHeader (header : String × String) : Bool :=
  header.2.toList.all fun c => c = '\t' ∨ 32 ≤ c.toNat ∧ c.toNat ≠ 127

def StorageCall.send (sign : String → String → Except String String) (keep : UInt8 → Bool)
    (client : StorageClient) (call : StorageCall) (xMsDate : String) :
    Except StorageCallError SentRequest := do
  let authorization ← sharedKeyAuthorization sign client.account client.accessKey
    (call.stringToSign client xMsDate)
  if (call.sentHeaders authorization xMsDate).all acceptsHeader then
    .ok (call.request keep authorization xMsDate)
  else .error .request

/-! ## What the service signs -/

def headerOrEmpty (headers : List (String × String)) (name : String) : String :=
  (headers.lookup name).getD ""

def byName (pairs : List (String × String)) : List (String × String) :=
  pairs.insertionSort fun pair pair' => pair.1 ≤ pair'.1

def line (pair : String × String) : String := pair.1 ++ ":" ++ pair.2

def serviceHeaders (headers : List (String × String)) : List (String × String) :=
  byName (headers.filter fun header => startsWith header.1 "x-ms-")

/-- The values with a line of their own. A length of zero counts as none. -/
def serviceFields (method : String) (headers : List (String × String)) : List String :=
  let contentLength := headerOrEmpty headers "content-length"
  [method, headerOrEmpty headers "content-encoding", headerOrEmpty headers "content-language",
    if contentLength = "0" then "" else contentLength,
    headerOrEmpty headers "content-md5", headerOrEmpty headers "content-type",
    headerOrEmpty headers "date", headerOrEmpty headers "if-modified-since",
    headerOrEmpty headers "if-match", headerOrEmpty headers "if-none-match",
    headerOrEmpty headers "if-unmodified-since", headerOrEmpty headers "range"]

def linesText (lines : List String) : String :=
  lines.foldl (fun text value => text ++ value ++ "\n") ""

def headerText (pairs : List (String × String)) : String := linesText (pairs.map line)

/-- The text of a received request. -/
def serviceStringToSign (lossy : LossyReader) (account : String) (request : SentRequest) : String :=
  linesText (serviceFields request.method request.headers) ++
    headerText (serviceHeaders request.headers) ++
    canonicalizedResource account request.path
      ((byName (decodePairs lossy request.query)).map line)

/-- The service lets a request in that carries the authorization it computes itself. -/
def LetsIn (sign : String → String → Except String String) (lossy : LossyReader)
    (client : StorageClient) (request : SentRequest) : Prop :=
  ∃ authorization, sharedKeyAuthorization sign client.account client.accessKey
      (serviceStringToSign lossy client.account request) = .ok authorization ∧
    request.headers.lookup "authorization" = some (trimBlanks authorization)

/-! ## The two texts -/

/-- What is signed for a call is what it sends: its own headers before those of its body, its query
and its own headers line by line in the order of their names. -/
structure StorageCall.Canonical (call : StorageCall) (own : List (String × String)) : Prop where
  sent : call.headers = own ++
    (call.contentType.map fun contentType => ("content-type", contentType)).toList ++
    (call.contentLength.map fun length => ("content-length", toString length)).toList
  named : ∀ header ∈ own, startsWith header.1 "x-ms-" = true
  query : call.canonicalizedQuery = (byName call.query).map line
  headers : ∀ xMsDate, call.additionalCanonicalizedHeaders ++
      ["x-ms-date:" ++ xMsDate, "x-ms-version:2023-11-03"] =
    (byName ([("x-ms-date", xMsDate), ("x-ms-version", "2023-11-03")] ++ own)).map line
  contentType : ∀ contentType ∈ call.contentType, trimBlanks contentType = contentType

theorem length_trimBlanks_le (value : String) :
    (trimBlanks value).toList.length ≤ value.toList.length := by
  rw [trimBlanks, String.toList_ofList]
  exact ( List.rdropWhile_prefix _ _).length_le.trans (List.dropWhile_suffix _).length_le

theorem trimBlanks_eq_self {value : String}
    (h : (trimBlanks value).toList.length = value.toList.length) : trimBlanks value = value := by
  rw [trimBlanks, String.toList_ofList] at h
  have hsublist := ( List.rdropWhile_prefix isHeaderBlank
    (value.toList.dropWhile isHeaderBlank)).sublist.trans (List.dropWhile_suffix _).sublist
  rw [trimBlanks, hsublist.eq_of_length h, String.ofList_toList]

theorem foldl_lines (lines : List String) (text : String) :
    lines.foldl (fun text value => text ++ value ++ "\n") text =
      text ++ lines.foldl (fun text value => text ++ value ++ "\n") "" := by
  induction lines generalizing text with
  | nil => simp
  | cons value lines ih =>
    rw [List.foldl_cons, List.foldl_cons, ih, ih ("" ++ value ++ "\n")]
    simp [String.append_assoc]

theorem linesText_append (lines lines' : List String) :
    linesText (lines ++ lines') = linesText lines ++ linesText lines' := by
  rw [linesText, List.foldl_append, foldl_lines]
  rfl

theorem length_linesText (lines : List String) :
    (linesText lines).toList.length = (lines.map fun value => value.toList.length + 1).sum := by
  induction lines with
  | nil => rfl
  | cons value lines ih =>
    rw [← List.singleton_append, linesText_append]
    simp [linesText] at ih ⊢
    omega

/-- Trimming keeps the lengths of all values only if it keeps the values. -/
theorem trimBlanks_of_sum_eq {pairs : List (String × String)}
    (h : (pairs.map fun pair => (line (pair.1, trimBlanks pair.2)).toList.length + 1).sum =
      (pairs.map fun pair => (line pair).toList.length + 1).sum) :
    ∀ pair ∈ pairs, trimBlanks pair.2 = pair.2 := by
  induction pairs with
  | nil => simp
  | cons pair pairs ih =>
    have hhead := length_trimBlanks_le pair.2
    have htail : (pairs.map fun pair => (line (pair.1, trimBlanks pair.2)).toList.length + 1).sum ≤
        (pairs.map fun pair => (line pair).toList.length + 1).sum := by
      refine List.sum_le_sum fun pair _ => ?_
      have := length_trimBlanks_le pair.2
      simp [line] at this ⊢
      omega
    simp only [List.map_cons, List.sum_cons, line, String.toList_append, List.length_append]
      at h htail hhead ih
    intro pair' hpair'
    rcases List.mem_cons.mp hpair' with rfl | hmem
    · exact trimBlanks_eq_self (by omega)
    · exact ih (by omega) pair' hmem

theorem byName_map_value (f : String → String) (pairs : List (String × String)) :
    byName (pairs.map fun pair => (pair.1, f pair.2)) =
      (byName pairs).map fun pair => (pair.1, f pair.2) := by
  exact (List.map_insertionSort _ _ (fun pair : String × String => (pair.1, f pair.2)) pairs
    fun _ _ _ _ => Iff.rfl).symm

theorem trimBlanks_of_all {value : String} (h : ∀ c ∈ value.toList, isHeaderBlank c = false) :
    trimBlanks value = value := by
  have hdrop : value.toList.dropWhile isHeaderBlank = value.toList := by
    rw [List.dropWhile_eq_self_iff]
    intro hlength
    simp [h _ (List.getElem_mem hlength)]
  have hrdrop : value.toList.rdropWhile isHeaderBlank = value.toList := by
    rw [List.rdropWhile_eq_self_iff]
    intro hne
    simp [h _ (List.getLast_mem hne)]
  rw [trimBlanks, hdrop, hrdrop, String.ofList_toList]

theorem trimBlanks_toString (n : ℕ) : trimBlanks (toString n) = toString n := by
  refine trimBlanks_of_all fun c hc => ?_
  have hdigit := Text.isDigit_of_mem_toString hc
  by_contra hblank
  simp only [isHeaderBlank, Bool.not_eq_false, Bool.or_eq_true, decide_eq_true_eq] at hblank
  rcases hblank with rfl | rfl <;> simp at hdigit

section Call

variable {call : StorageCall} {own : List (String × String)} {keep : UInt8 → Bool}
  {authorization xMsDate : String}

/-- The headers of the service's own are those that the call has, and the two of every call. -/
theorem serviceHeaders_request (hcall : call.Canonical own) :
    serviceHeaders (call.request keep authorization xMsDate).headers =
      (byName ([("x-ms-date", xMsDate), ("x-ms-version", "2023-11-03")] ++ own)).map
        fun header => (header.1, trimBlanks header.2) := by
  have hauthorization : startsWith "authorization" "x-ms-" = false := by decide
  have hdate : startsWith "x-ms-date" "x-ms-" = true := by decide
  have hversion : startsWith "x-ms-version" "x-ms-" = true := by decide
  have hcontentType : startsWith "content-type" "x-ms-" = false := by decide
  have hcontentLength : startsWith "content-length" "x-ms-" = false := by decide
  have hfilter : (own.filter fun header => startsWith header.1 "x-ms-") = own :=
    List.filter_eq_self.mpr hcall.named
  rw [serviceHeaders, ← byName_map_value trimBlanks, StorageCall.request, StorageCall.sentHeaders,
    hcall.sent, List.filter_map]
  congr 1
  cases call.contentType <;> cases call.contentLength <;>
    simp [Function.comp_def, hauthorization, hdate, hversion, hcontentType, hcontentLength, hfilter]

theorem lookup_request (hcall : call.Canonical own) {name : String}
    (hname : startsWith name "x-ms-" = false) (hother : name ≠ "authorization") :
    (call.request keep authorization xMsDate).headers.lookup name =
      ((call.contentType.map fun contentType => ("content-type", trimBlanks contentType)).toList ++
        (call.contentLength.map fun length =>
          ("content-length", toString length)).toList).lookup name := by
  have hne : ∀ {other : String}, startsWith other "x-ms-" = true → (name == other) = false := by
    rintro other hother
    rw [beq_eq_false_iff_ne]
    rintro rfl
    rw [hname] at hother
    cases hother
  have hheaders : (own.map fun header => (header.1, trimBlanks header.2)).lookup name = none := by
    rw [List.lookup_eq_none_iff]
    intro header hheader
    obtain ⟨sent, hsent, rfl⟩ := List.mem_map.mp hheader
    simp [bne, hne (hcall.named sent hsent)]
  have hlength : (call.contentLength.map fun length =>
      ("content-length", trimBlanks (toString length))).toList =
        (call.contentLength.map fun length => ("content-length", toString length)).toList := by
    cases call.contentLength with
    | none => simp only [Option.map_none]
    | some length => simp only [Option.map_some, trimBlanks_toString]
  have hauthorization : (name == "authorization") = false := by simpa using hother
  have hdate : (name == "x-ms-date") = false := hne (by decide)
  have hversion : (name == "x-ms-version") = false := hne (by decide)
  rw [← hlength]
  simp only [StorageCall.request, StorageCall.sentHeaders, hcall.sent, List.map_append,
    List.map_cons, List.cons_append, List.nil_append, List.lookup_cons, hauthorization, hdate,
    hversion, List.lookup_append, hheaders, Option.none_or]
  cases call.contentType <;> cases call.contentLength <;> rfl

theorem toString_eq_zero_iff (n : ℕ) : toString n = "0" ↔ n = 0 := by
  constructor
  · intro h
    exact Text.toString_inj h
  · rintro rfl
    rfl

/-- What the lines before the service's own headers hold. -/
def StorageCall.fields (call : StorageCall) : List String :=
  [call.method, "", "", ((call.contentLength.filter (0 < ·)).map toString).getD "", "",
    call.contentType.getD "", "", "", "", "", "", ""]

theorem linesText_fields (method contentLength contentType : String) :
    linesText [method, "", "", contentLength, "", contentType, "", "", "", "", "", ""] =
      method ++ "\n\n\n" ++ contentLength ++ "\n\n" ++ contentType ++ "\n\n\n\n\n\n\n" := by
  apply String.toList_injective
  simp [linesText]

def serviceOwn (own : List (String × String)) (xMsDate : String) : List (String × String) :=
  byName ([("x-ms-date", xMsDate), ("x-ms-version", "2023-11-03")] ++ own)

theorem StorageCall.Canonical.stringToSign_eq (hcall : call.Canonical own) (client : StorageClient) :
    call.stringToSign client xMsDate = linesText call.fields ++ headerText (serviceOwn own xMsDate) ++
      canonicalizedResource client.account call.url.pathText call.canonicalizedQuery := by
  have hown : headerText (serviceOwn own xMsDate) = call.additionalCanonicalizedHeaders.foldl
      (fun headers header => headers ++ header ++ "\n") "" ++
        ("x-ms-date:" ++ xMsDate ++ "\nx-ms-version:2023-11-03\n") := by
    have hversion : "\nx-ms-version:2023-11-03\n" = "\n" ++ ("x-ms-version:2023-11-03" ++ "\n") := by
      decide
    rw [headerText, serviceOwn, ← hcall.headers, linesText_append, hversion]
    simp only [linesText, List.foldl_cons, List.foldl_nil, String.empty_append, String.append_assoc]
  rw [hown, StorageCall.fields, linesText_fields]
  rfl

theorem headerOrEmpty_eq_empty (hcall : call.Canonical own) {name : String}
    (hname : startsWith name "x-ms-" = false)
    (hothers : name ∉ ["authorization", "content-type", "content-length"]) :
    headerOrEmpty (call.request keep authorization xMsDate).headers name = "" := by
  simp only [List.mem_cons, List.not_mem_nil, or_false, not_or] at hothers
  have htype : (name == "content-type") = false := by simpa using hothers.2.1
  have hlength : (name == "content-length") = false := by simpa using hothers.2.2
  rw [headerOrEmpty, lookup_request hcall hname hothers.1]
  cases call.contentType <;> cases call.contentLength <;> simp [List.lookup_cons, htype, hlength]

theorem headerOrEmpty_contentType (hcall : call.Canonical own) :
    headerOrEmpty (call.request keep authorization xMsDate).headers "content-type" =
      call.contentType.getD "" := by
  rw [headerOrEmpty, lookup_request hcall (by decide) (by decide)]
  cases htype : call.contentType with
  | none => cases call.contentLength <;> simp [List.lookup_cons]
  | some contentType => simp [hcall.contentType contentType htype]

theorem headerOrEmpty_contentLength (hcall : call.Canonical own) :
    (if headerOrEmpty (call.request keep authorization xMsDate).headers "content-length" = "0" then ""
      else headerOrEmpty (call.request keep authorization xMsDate).headers "content-length") =
      ((call.contentLength.filter (0 < ·)).map toString).getD "" := by
  have hheader : headerOrEmpty (call.request keep authorization xMsDate).headers "content-length" =
      (call.contentLength.map toString).getD "" := by
    rw [headerOrEmpty, lookup_request hcall (by decide) (by decide)]
    cases call.contentType <;> cases call.contentLength <;> simp [List.lookup_cons]
  rw [hheader]
  cases call.contentLength with
  | none => rfl
  | some length =>
    rcases Nat.eq_zero_or_pos length with rfl | hpos
    · rfl
    · have hne : toString length ≠ "0" := fun h => hpos.ne' ((toString_eq_zero_iff _).mp h)
      simp only [Option.map_some, Option.getD_some, if_neg hne, Option.filter_some, hpos,
        decide_true, if_true]

theorem StorageCall.Canonical.serviceStringToSign_eq (hcall : call.Canonical own)
    (client : StorageClient) (serializerSet : SerializerSet) (lossy : LossyReader) :
    serviceStringToSign lossy client.account
        (call.request serializerSet.keep authorization xMsDate) =
      linesText call.fields ++
        headerText ((serviceOwn own xMsDate).map fun header => (header.1, trimBlanks header.2)) ++
        canonicalizedResource client.account call.url.pathText call.canonicalizedQuery := by
  have hquery : decodePairs lossy (call.request serializerSet.keep authorization xMsDate).query =
      call.query := decodePairs_serializePairs lossy serializerSet call.query
  have hnone : ∀ name : String, startsWith name "x-ms-" = false →
      name ∉ ["authorization", "content-type", "content-length"] → headerOrEmpty
        (call.request serializerSet.keep authorization xMsDate).headers name = "" :=
    fun name hname hothers => headerOrEmpty_eq_empty hcall hname hothers
  have hfields : serviceFields call.method
      (call.request serializerSet.keep authorization xMsDate).headers = call.fields := by
    simp only [serviceFields, headerOrEmpty_contentLength hcall, headerOrEmpty_contentType hcall,
      hnone "content-encoding" (by decide) (by decide),
      hnone "content-language" (by decide) (by decide),
      hnone "content-md5" (by decide) (by decide), hnone "date" (by decide) (by decide),
      hnone "if-modified-since" (by decide) (by decide), hnone "if-match" (by decide) (by decide),
      hnone "if-none-match" (by decide) (by decide),
      hnone "if-unmodified-since" (by decide) (by decide), hnone "range" (by decide) (by decide),
      StorageCall.fields]
  rw [serviceStringToSign, serviceHeaders_request hcall, hquery, ← hcall.query]
  exact congrArg (fun fields => linesText fields ++ _ ++ _) hfields

/-- Trimmed values make another text, unless they are the values as they were. -/
theorem headerText_trimBlanks_iff (pairs : List (String × String)) :
    headerText (pairs.map fun header => (header.1, trimBlanks header.2)) = headerText pairs ↔
      ∀ header ∈ pairs, trimBlanks header.2 = header.2 := by
  constructor
  · intro h
    have hlengths := congrArg (fun text => text.toList.length) h
    simp only [headerText, length_linesText, List.map_map, Function.comp_def] at hlengths
    exact trimBlanks_of_sum_eq hlengths
  · intro h
    congr 1
    conv_rhs => rw [← List.map_id pairs]
    exact List.map_congr_left fun header hheader => by simp [h header hheader]

/-- Both texts are one exactly if no header of the call has blanks around its value. -/
theorem StorageCall.Canonical.stringToSign_eq_iff (hcall : call.Canonical own) (client : StorageClient)
    (serializerSet : SerializerSet) (lossy : LossyReader)
    (hdate : trimBlanks xMsDate = xMsDate) :
    call.stringToSign client xMsDate = serviceStringToSign lossy client.account
        (call.request serializerSet.keep authorization xMsDate) ↔
      ∀ header ∈ own, trimBlanks header.2 = header.2 := by
  have hversion : trimBlanks "2023-11-03" = "2023-11-03" := by decide
  have hown : (∀ header ∈ serviceOwn own xMsDate, trimBlanks header.2 = header.2) ↔
      ∀ header ∈ own, trimBlanks header.2 = header.2 := by
    simp only [serviceOwn, byName, List.mem_insertionSort, List.cons_append,
      List.nil_append, List.forall_mem_cons, hdate, hversion, true_and]
  rw [hcall.stringToSign_eq, hcall.serviceStringToSign_eq, String.append_left_inj,
    String.append_right_inj, ← hown, ← headerText_trimBlanks_iff, eq_comm]

end Call

end LumenHorizon.Shared
