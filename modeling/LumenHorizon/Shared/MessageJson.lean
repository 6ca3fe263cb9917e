import LumenHorizon.Foundation.Fallible
import LumenHorizon.Shared.QueueTransport
import LumenHorizon.Shared.WireTexts

/-! # The processing message as JSON

The text that a producer puts into a queue document, and what the worker takes it for. Neither the
layout nor the order of the members matters to it, nor members that it does not know.
-/

namespace LumenHorizon.Shared
open Foundation Json Processing

def ProcessingMessage.members (message : ProcessingMessage) : List (String × JsonValue) :=
  [("ingest_id", .string (uuidDisplay message.ingestId)), ("blob_path", .string message.blobPath),
    ("product", .string message.product.asStr),
    ("granule_date", .string (formatTime message.granuleDate)),
    ("tile_h", .number (.ofInt message.tileH)), ("tile_v", .number (.ofInt message.tileV))]

/-- `serde_json::to_string` of a message. -/
def ProcessingMessage.toJson (message : ProcessingMessage) : String :=
  writeJson compact (.object message.members)

inductive JsonError where
  | malformed
  | member (error : MemberError)
  | invalidType
deriving DecidableEq, Repr

section Reading

-- `readTime` reads a point in time, and `describe` is the text of an error
variable (readTime : String → Option DateTime) (describe : JsonError → String)

def decodeI16 : JsonValue → Option ℤ := decodeInt (-32768) 32767

def decodeUuid (value : JsonValue) : Option Uuid := (decodeString value).bind parseUuid

def decodeTime (value : JsonValue) : Option DateTime := (decodeString value).bind readTime

def RawProcessingMessage.ofMembers (members : List (String × JsonValue)) :
    Except MemberError RawProcessingMessage := do
  let ingestId ← requireMember members "ingest_id" decodeUuid
  let blobPath ← requireMember members "blob_path" decodeString
  let product ← requireMember members "product" decodeString
  let granuleDate ← requireMember members "granule_date" (decodeTime readTime)
  let tileH ← requireMember members "tile_h" decodeI16
  let tileV ← requireMember members "tile_v" decodeI16
  .ok { ingestId, blobPath, product, granuleDate, tileH, tileV }

/-- A record is an object of its members, or an array of their values in their order. -/
def RawProcessingMessage.ofJson : JsonValue → Except JsonError RawProcessingMessage
  | .object members => (ofMembers readTime members).mapError .member
  | .array [ingestId, blobPath, product, granuleDate, tileH, tileV] =>
    (ofMembers readTime [("ingest_id", ingestId), ("blob_path", blobPath), ("product", product),
      ("granule_date", granuleDate), ("tile_h", tileH), ("tile_v", tileV)]).mapError .member
  | _ => .error .invalidType

/-- The members that are looked at. -/
def isMessageField (name : String) : Bool :=
  ["ingest_id", "blob_path", "product", "granule_date", "tile_h", "tile_v"].contains name

/-- `serde_json::from_str`. -/
def rawFromStr (json : String) : Except String RawProcessingMessage :=
  match readRecord isMessageField json with
  | none => .error (describe .malformed)
  | some value => (RawProcessingMessage.ofJson readTime value).mapError describe

end Reading

variable {readTime : String → Option DateTime} {describe : JsonError → String}

/-- A tile that is found in a path has two digits for each of its numbers. -/
theorem parseFirstTile_lt {l : List Char} {tileH tileV : ℤ}
    (h : parseFirstTile l = some (tileH, tileV)) : tileH < 100 ∧ tileV < 100 := by
  have hdigit {c : Char} (hc : c.isDigit = true) : (c.toNat : ℤ) ≤ 57 := by
    exact_mod_cast (Char.isDigit_iff_toNat.mp hc).2
  fun_induction parseFirstTile l with
  | case1 c0 c1 c2 c3 c4 c5 rest hmatch =>
    obtain ⟨-, -, h1, h2, h4, h5⟩ := hmatch
    obtain ⟨rfl, rfl⟩ := Prod.mk.inj (Option.some.inj h)
    have h1 := hdigit h1
    have h2 := hdigit h2
    have h4 := hdigit h4
    have h5 := hdigit h5
    unfold parseTwoDigits
    omega
  | case2 c0 c1 c2 c3 c4 c5 rest hmatch ih => exact ih h
  | case3 l hshort => cases h

/-- An object that has each member of a message once, whatever else it has, is read as it. -/
theorem rawFromStr_members {message : ProcessingMessage} (hid : message.ingestId < 2 ^ 128)
    (hdate : readTime (formatTime message.granuleDate) = some message.granuleDate)
    {layout : Layout} {members : List (String × JsonValue)}
    (hmembers : ∀ field ∈ message.members,
      (members.filter fun member => member.1 = field.1) = [field]) :
    rawFromStr readTime describe (writeJson layout (.object members)) = .ok message.toRaw := by
  have hnonneg := parseFirstTile_nonneg message.tileInPath
  have hlt := parseFirstTile_lt message.tileInPath
  simp only [ProcessingMessage.members, List.forall_mem_cons, List.not_mem_nil, false_implies,
    implies_true, and_true] at hmembers
  obtain ⟨hingestId, hblobPath, hproduct, hgranuleDate, htileH, htileV⟩ := hmembers
  have hreadId : decodeUuid (.string (uuidDisplay message.ingestId)) = some message.ingestId := by
    rw [decodeUuid, decodeString, Option.bind_some, parseUuid_uuidDisplay hid]
  have hreadDate : decodeTime readTime (.string (formatTime message.granuleDate)) =
      some message.granuleDate := by
    rw [decodeTime, decodeString, Option.bind_some, hdate]
  have hreadH : decodeI16 (.number (.ofInt message.tileH)) = some message.tileH :=
    decodeInt_ofInt (by omega) (by omega)
  have hreadV : decodeI16 (.number (.ofInt message.tileV)) = some message.tileV :=
    decodeInt_ofInt (by omega) (by omega)
  have hraw : RawProcessingMessage.ofMembers readTime members = .ok message.toRaw := by
    simp only [RawProcessingMessage.ofMembers, requireMember_eq_ok hingestId hreadId,
      requireMember_eq_ok hblobPath (decodeString.eq_1 _),
      requireMember_eq_ok hproduct (decodeString.eq_1 _),
      requireMember_eq_ok hgranuleDate hreadDate, requireMember_eq_ok htileH hreadH,
      requireMember_eq_ok htileV hreadV]
    rfl
  rw [rawFromStr, readRecord_writeJson]
  simp only [RawProcessingMessage.ofJson, hraw]
  rfl

example : ampersandMessage.toJson = ampersandJson := by decide +kernel

/-- What is read has a UUID of 128 bits and a date that was read. -/
theorem raw_of_rawFromStr {json : String} {raw : RawProcessingMessage}
    (h : rawFromStr readTime describe json = .ok raw) :
    raw.ingestId < 2 ^ 128 ∧ ∃ text, readTime text = some raw.granuleDate := by
  have hmembers {members : List (String × JsonValue)}
      (h : (RawProcessingMessage.ofMembers readTime members).mapError JsonError.member = .ok raw) :
      raw.ingestId < 2 ^ 128 ∧ ∃ text, readTime text = some raw.granuleDate := by
    simp only [mapError_eq_ok_iff, RawProcessingMessage.ofMembers, bind_eq_ok_iff] at h
    obtain ⟨ingestId, hingestId, blobPath, -, product, -, granuleDate, hgranuleDate, tileH, -,
      tileV, -, hraw⟩ := h
    obtain ⟨value, hvalue⟩ := exists_of_requireMember hingestId
    obtain ⟨value', hvalue'⟩ := exists_of_requireMember hgranuleDate
    obtain ⟨text, -, hid⟩ := Option.bind_eq_some_iff.mp hvalue
    obtain ⟨text', -, hdate⟩ := Option.bind_eq_some_iff.mp hvalue'
    cases hraw
    exact ⟨lt_of_parseUuid hid, text', hdate⟩
  unfold rawFromStr at h
  split at h
  · cases h
  · next value hread =>
    rw [mapError_eq_ok_iff] at h
    unfold RawProcessingMessage.ofJson at h
    split at h
    · exact hmembers h
    · exact hmembers h
    · cases h

theorem toRaw_of_new {raw : RawProcessingMessage} {message : ProcessingMessage}
    (h : ProcessingMessage.new raw.ingestId raw.blobPath raw.product raw.granuleDate raw.tileH
      raw.tileV = .ok message) :
    message.ingestId = raw.ingestId ∧ message.granuleDate = raw.granuleDate := by
  unfold ProcessingMessage.new at h
  split at h
  · split at h
    · cases h
    · split at h
      · cases h
      · split at h
        · cases h
          exact ⟨rfl, rfl⟩
        · cases h
  · cases h

theorem filter_members (message : ProcessingMessage) :
    ∀ field ∈ message.members,
      (message.members.filter fun member => member.1 = field.1) = [field] := by
  simp [ProcessingMessage.members]

/-- The worker takes the message out of a queue document. -/
def WorkerReads (readTime : String → Option DateTime) (describe : JsonError → String)
    (body : String) (message : ProcessingMessage) : Prop :=
  ∃ text, readMessageText body = some text ∧
    ProcessingMessage.parseJson (rawFromStr readTime describe) text = .ok message

def readSampleTime (text : String) : Option DateTime :=
  if text = "2024-05-21T00:00:00Z" then some ampersandMessage.granuleDate else none

end LumenHorizon.Shared
