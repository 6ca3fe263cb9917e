import LumenHorizon.Foundation.Markup
import LumenHorizon.Shared.ProcessingMessage

/-! # Messages as queue documents

A message text is escaped and wrapped into an XML document, whoever sends it. What the reader at the
other end takes out of the document is the text that was put in. The reader here trims no blanks; a
serialized message has none at its ends.
-/

namespace LumenHorizon.Shared
open Foundation Markup

/-- The text of a character in `escape_xml_text`. -/
def escapeXmlChar (character : Char) : String :=
  match character with
  | '&' => "&amp;"
  | '<' => "&lt;"
  | '>' => "&gt;"
  | '"' => "&quot;"
  | '\'' => "&apos;"
  | _ => String.singleton character

def escapeXmlText (value : String) : String :=
  String.ofList (value.toList.flatMap fun character => (escapeXmlChar character).toList)

def queueMessageBody (messageText : String) : String :=
  "<QueueMessage><MessageText>" ++ escapeXmlText messageText ++ "</MessageText></QueueMessage>"

def xmlEntityName : Char → Option (List Char)
  | '&' => some ['a', 'm', 'p']
  | '<' => some ['l', 't']
  | '>' => some ['g', 't']
  | '"' => some ['q', 'u', 'o', 't']
  | '\'' => some ['a', 'p', 'o', 's']
  | _ => none

def xmlEntityValue : List Char → Option Char
  | ['a', 'm', 'p'] => some '&'
  | ['l', 't'] => some '<'
  | ['g', 't'] => some '>'
  | ['q', 'u', 'o', 't'] => some '"'
  | ['a', 'p', 'o', 's'] => some '\''
  | _ => none

theorem xmlEntityName_cases {c : Char} {n : List Char} (h : xmlEntityName c = some n) :
    (c = '&' ∧ n = ['a', 'm', 'p']) ∨ (c = '<' ∧ n = ['l', 't']) ∨ (c = '>' ∧ n = ['g', 't']) ∨
      (c = '"' ∧ n = ['q', 'u', 'o', 't']) ∨ (c = '\'' ∧ n = ['a', 'p', 'o', 's']) := by
  unfold xmlEntityName at h
  split at h <;> simp_all

def xmlEntities : Entities where
  name := xmlEntityName
  value := xmlEntityValue
  value_name h := by
    rcases xmlEntityName_cases h with ⟨rfl, rfl⟩ | ⟨rfl, rfl⟩ | ⟨rfl, rfl⟩ | ⟨rfl, rfl⟩ | ⟨rfl, rfl⟩ <;>
      rfl
  plain h := by
    rcases xmlEntityName_cases h with ⟨rfl, rfl⟩ | ⟨rfl, rfl⟩ | ⟨rfl, rfl⟩ | ⟨rfl, rfl⟩ | ⟨rfl, rfl⟩ <;>
      simp [xmlEntityName]
  semicolon := rfl
  ampersand := rfl

/-- The texts of the `MessageText` elements of a document, as they stand in it. -/
def rawMessageTexts (body : String) : Option (List (List Char)) :=
  (tokens body.toList).map (elementTexts "MessageText".toList)

/-- What the reader takes out of a document with one message text. -/
def readMessageText (body : String) : Option String :=
  match rawMessageTexts body with
  | some [raw] => (unescape xmlEntities raw).map String.ofList
  | _ => none

theorem toList_escapeXmlText (value : String) :
    (escapeXmlText value).toList = escape xmlEntities value.toList := by
  have hchar (c : Char) : (escapeXmlChar c).toList = escapeChar xmlEntities c := by
    unfold escapeXmlChar escapeChar xmlEntities xmlEntityName
    split <;> simp
  rw [escapeXmlText, String.toList_ofList, escape]
  simp only [hchar]

/-- The escaped text has no character that begins or ends a tag. -/
theorem notMem_escapeXmlText {c : Char} (hname : (xmlEntityName c).isSome = true) (hc : c ≠ '&')
    (value : String) : c ∉ (escapeXmlText value).toList := by
  rw [toList_escapeXmlText]
  intro h
  rcases name_of_mem_escape h with hnone | heq
  · rw [show xmlEntities.name c = xmlEntityName c from rfl] at hnone
    rw [hnone] at hname
    cases hname
  · exact hc heq

theorem rawMessageTexts_queueMessageBody (messageText : String) :
    rawMessageTexts (queueMessageBody messageText) = some [(escapeXmlText messageText).toList] := by
  have hopen : "<QueueMessage><MessageText>".toList =
      '<' :: ("QueueMessage".toList ++ '>' :: '<' :: ("MessageText".toList ++ ['>'])) := by
    simp
  have hclose : "</MessageText></QueueMessage>".toList =
      '<' :: ('/' :: "MessageText".toList ++ '>' :: '<' :: ('/' :: "QueueMessage".toList ++ ['>'])) := by
    simp
  have hbody : (queueMessageBody messageText).toList = wrapped "QueueMessage".toList
      "MessageText".toList (escapeXmlText messageText).toList := by
    unfold queueMessageBody
    generalize escapeXmlText messageText = escaped
    simp only [String.toList_append, hopen, hclose, wrapped, List.append_assoc,
      List.cons_append, List.nil_append]
  rw [rawMessageTexts, hbody]
  exact elementTexts_wrapped (by simp) (by simp)
    (notMem_escapeXmlText (c := '<') (by decide) (by decide) messageText)

theorem unescape_escapeXmlText (value : String) :
    unescape xmlEntities (escapeXmlText value).toList = some value.toList := by
  rw [toList_escapeXmlText, unescape_escape]

theorem readMessageText_queueMessageBody (messageText : String) :
    readMessageText (queueMessageBody messageText) = some messageText := by
  rw [readMessageText, rawMessageTexts_queueMessageBody]
  simp only [unescape_escapeXmlText, Option.map_some, String.ofList_toList]

section Producers

variable (serialize : ProcessingMessage → Except String String)

/-- The body that ingest posts in `enqueue_processing_message`. -/
def ingestMessageBody (message : ProcessingMessage) : Except String String := do
  let messageText ← serialize message
  .ok (queueMessageBody messageText)

/-- The body that the gateway posts for a row of the ingest log; `none` is a refusal. -/
def requeueMessageBody (ingestId : Uuid) (blobPath product : String) (granuleDate : DateTime)
    (tileH tileV : ℤ) : Option String := do
  let message ← (ProcessingMessage.new ingestId blobPath product granuleDate tileH tileV).toOption
  let messageJson ← (serialize message).toOption
  some (queueMessageBody messageJson)

/-- The body that the worker posts for a message it has received. -/
def deadletterMessageBody (messageText : String) : String := queueMessageBody messageText

/-- A document that carries a text: its one message text is free of markup and reads as the text. -/
structure Carries (body messageText : String) : Prop where
  one : ∃ raw, rawMessageTexts body = some [raw] ∧
    (∀ c ∈ raw, c ≠ '<' ∧ c ≠ '>' ∧ c ≠ '"' ∧ c ≠ '\'') ∧
      unescape xmlEntities raw = some messageText.toList
  reads : readMessageText body = some messageText

theorem queueMessageBody_carries (messageText : String) :
    Carries (queueMessageBody messageText) messageText where
  one := by
    refine ⟨_, rawMessageTexts_queueMessageBody messageText, fun c hc => ?_,
      unescape_escapeXmlText messageText⟩
    have hnot (d : Char) (hname : (xmlEntityName d).isSome = true) (hd : d ≠ '&') : c ≠ d := by
      rintro rfl
      exact notMem_escapeXmlText hname hd messageText hc
    exact ⟨hnot '<' (by decide) (by decide), hnot '>' (by decide) (by decide),
      hnot '"' (by decide) (by decide), hnot '\'' (by decide) (by decide)⟩
  reads := readMessageText_queueMessageBody messageText

/-- What is promised of a message that serializes to a text: every producer's document carries the
text, which is parsed to the message, and a text that was received is received again. -/
structure TransportsLosslessly (fromStr : String → Except String RawProcessingMessage)
    (message : ProcessingMessage) (messageText : String) : Prop where
  ingest : ∃ body, ingestMessageBody serialize message = .ok body ∧ Carries body messageText
  requeue : ∃ body, requeueMessageBody serialize message.ingestId message.blobPath
    message.product.asStr message.granuleDate message.tileH message.tileV = some body ∧
      Carries body messageText
  deadletter : Carries (deadletterMessageBody messageText) messageText
  parses : ProcessingMessage.parseJson fromStr messageText = .ok message
  again : ∀ body received, readMessageText body = some received →
    Carries (deadletterMessageBody received) received

variable {serialize}

theorem queueTransport_lossless {fromStr : String → Except String RawProcessingMessage}
    {message : ProcessingMessage} {messageText : String}
    (hserialize : serialize message = .ok messageText)
    (hround : fromStr messageText = .ok message.toRaw) :
    TransportsLosslessly serialize fromStr message messageText where
  ingest := by
    refine ⟨queueMessageBody messageText, ?_, queueMessageBody_carries messageText⟩
    rw [ingestMessageBody, hserialize]
    rfl
  requeue := by
    refine ⟨queueMessageBody messageText, ?_, queueMessageBody_carries messageText⟩
    rw [requeueMessageBody, ProcessingMessage.new_of_valid message.ingestId message.product
      message.granuleDate message.relative message.tileInPath]
    change (do let messageJson ← (serialize message).toOption; some (queueMessageBody messageJson)) = _
    rw [hserialize]
    rfl
  deadletter := queueMessageBody_carries messageText
  parses := ProcessingMessage.parseJson_of_toRaw hround
  again := fun _ received _ => queueMessageBody_carries received

end Producers

/-- A message whose path has characters that are escaped. -/
def ampersandMessage : ProcessingMessage where
  ingestId := 7
  blobPath := "VNP46A2/a&b'<c>/h01v02.h5"
  product := .vnp46A2
  granuleDate := { year := 2024, month := 5, day := 21, nanoOfDay := 0 }
  tileH := 1
  tileV := 2
  relative := by decide
  tileInPath := by decide

def ampersandJson : String :=
  "\x7b\"ingest_id\":\"00000000-0000-0000-0000-000000000007\"," ++
    "\"blob_path\":\"VNP46A2/a&b'<c>/h01v02.h5\",\"product\":\"VNP46A2\"," ++
    "\"granule_date\":\"2024-05-21T00:00:00Z\",\"tile_h\":1,\"tile_v\":2\x7d"

theorem queueTransport_lossless_ampersand :
    TransportsLosslessly (fun _ => .ok ampersandJson) (fun _ => .ok ampersandMessage.toRaw)
      ampersandMessage ampersandJson :=
  queueTransport_lossless rfl rfl

end LumenHorizon.Shared
