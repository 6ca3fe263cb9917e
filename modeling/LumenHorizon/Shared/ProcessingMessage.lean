import LumenHorizon.Shared.DateTime

/-! # The processing message

The message that ingest puts on the queue and processing takes off it, with the checks of its
constructor. A message is a value that passed them.
-/

namespace LumenHorizon.Shared

/-- UUIDs are compared only; version 4 ids are drawn from a counter by whoever creates them. -/
abbrev Uuid := ℕ

/-- `str::starts_with`. -/
def startsWith (text pattern : String) : Bool := pattern.toList.isPrefixOf text.toList

theorem startsWith_append (text rest : String) : startsWith (text ++ rest) text = true := by
  rw [startsWith, String.toList_append]
  exact List.isPrefixOf_iff_prefix.mpr (List.prefix_append _ _)

inductive ProcessingProduct where
  | vnp46A2
  | vj146A2
  | vnp46A3
deriving DecidableEq, Repr

def ProcessingProduct.asStr : ProcessingProduct → String
  | vnp46A2 => "VNP46A2"
  | vj146A2 => "VJ146A2"
  | vnp46A3 => "VNP46A3"

/-- The constructor's errors, and the one of the JSON parser in front of it. -/
inductive ProcessingMessageValidationError where
  | invalidBlobPath (blobPath : String)
  | invalidJson (error : String)
  | missingTileInBlobPath (blobPath : String)
  | tileMismatch (blobTileH blobTileV messageTileH messageTileV : ℤ)
  | unsupportedProduct (product : String)
deriving DecidableEq, Repr

/-- The `Display` texts. -/
def ProcessingMessageValidationError.display : ProcessingMessageValidationError → String
  | invalidBlobPath blobPath => "invalid processing message blob_path '" ++ blobPath ++
      "': must be relative to raw-viirs and must not be absolute, URL-based, or prefixed with " ++
      "raw-viirs/"
  | invalidJson error => "invalid processing message JSON: " ++ error
  | missingTileInBlobPath blobPath => "processing message blob_path '" ++ blobPath ++
      "' does not contain an hXXvYY tile"
  | tileMismatch blobTileH blobTileV messageTileH messageTileV =>
      "processing message tile mismatch: blob path has h" ++ pad2 blobTileH ++ "v" ++
        pad2 blobTileV ++ ", message has h" ++ pad2 messageTileH ++ "v" ++ pad2 messageTileV
  | unsupportedProduct product => "unsupported processing message product '" ++ product ++ "'"

def ProcessingProduct.parse (product : String) :
    Except ProcessingMessageValidationError ProcessingProduct :=
  if product = "VNP46A2" then .ok vnp46A2
  else if product = "VJ146A2" then .ok vj146A2
  else if product = "VNP46A3" then .ok vnp46A3
  else .error (.unsupportedProduct product)

theorem ProcessingProduct.parse_asStr (product : ProcessingProduct) :
    parse product.asStr = .ok product := by
  cases product <;> decide

def parseTwoDigits (tens ones : Char) : ℤ := (tens.toNat - 48) * 10 + (ones.toNat - 48)

/-- The first `hDDvDD` in a path. Its six bytes are ASCII, so windows of bytes and of
characters agree. -/
def parseFirstTile : List Char → Option (ℤ × ℤ)
  | c0 :: c1 :: c2 :: c3 :: c4 :: c5 :: rest =>
    if c0 = 'h' ∧ c3 = 'v' ∧ c1.isDigit ∧ c2.isDigit ∧ c4.isDigit ∧ c5.isDigit then
      some (parseTwoDigits c1 c2, parseTwoDigits c4 c5)
    else parseFirstTile (c1 :: c2 :: c3 :: c4 :: c5 :: rest)
  | _ => none

theorem parseFirstTile_cons {c : Char} (hc : c ≠ 'h') (l : List Char) :
    parseFirstTile (c :: l) = parseFirstTile l := by
  match l with
  | c1 :: c2 :: c3 :: c4 :: c5 :: rest => rw [parseFirstTile, if_neg (by simp [hc])]
  | [] | [_] | [_, _] | [_, _, _] | [_, _, _, _] => rfl

theorem parseFirstTile_append {before : List Char} (h : 'h' ∉ before) (l : List Char) :
    parseFirstTile (before ++ l) = parseFirstTile l := by
  induction before with
  | nil => rfl
  | cons c before ih =>
    rw [List.mem_cons, not_or] at h
    rw [List.cons_append, parseFirstTile_cons (Ne.symm h.1), ih h.2]

theorem parseFirstTile_nonneg {l : List Char} {tileH tileV : ℤ}
    (h : parseFirstTile l = some (tileH, tileV)) : 0 ≤ tileH ∧ 0 ≤ tileV := by
  have hdigit {c : Char} (hc : c.isDigit = true) : (48 : ℤ) ≤ c.toNat := by
    exact_mod_cast (Char.isDigit_iff_toNat.mp hc).1
  fun_induction parseFirstTile l with
  | case1 c0 c1 c2 c3 c4 c5 rest hmatch =>
    obtain ⟨-, -, h1, h2, h4, h5⟩ := hmatch
    obtain ⟨rfl, rfl⟩ := Prod.mk.inj (Option.some.inj h)
    have h1 := hdigit h1
    have h2 := hdigit h2
    have h4 := hdigit h4
    have h5 := hdigit h5
    unfold parseTwoDigits
    omega
  | case2 c0 c1 c2 c3 c4 c5 rest hmatch ih => exact ih h
  | case3 l hshort => cases h

/-- What `validate_blob_path` accepts; anything else is `InvalidBlobPath`. -/
def RelativeBlobPath (path : String) : Prop :=
  path ≠ "" ∧ ¬ startsWith path "/" ∧ ¬ startsWith path "http://" ∧
    ¬ startsWith path "https://" ∧ ¬ startsWith path "raw-viirs/"

instance (path : String) : Decidable (RelativeBlobPath path) :=
  inferInstanceAs (Decidable (_ ∧ _))

structure ProcessingMessage where
  ingestId : Uuid
  blobPath : String
  product : ProcessingProduct
  granuleDate : DateTime
  tileH : ℤ
  tileV : ℤ
  relative : RelativeBlobPath blobPath
  tileInPath : parseFirstTile blobPath.toList = some (tileH, tileV)
deriving DecidableEq

/-- `ProcessingMessage::new`. The supported product is kept as the enumeration its name parses
to, the three checks in their order. -/
def ProcessingMessage.new (ingestId : Uuid) (blobPath product : String) (granuleDate : DateTime)
    (tileH tileV : ℤ) : Except ProcessingMessageValidationError ProcessingMessage :=
  if hpath : RelativeBlobPath blobPath then
    match ProcessingProduct.parse product with
    | .error error => .error error
    | .ok product =>
      match htile : parseFirstTile blobPath.toList with
      | none => .error (.missingTileInBlobPath blobPath)
      | some (blobTileH, blobTileV) =>
        if hmatch : (blobTileH, blobTileV) = (tileH, tileV) then
          .ok {
            ingestId := ingestId
            blobPath := blobPath
            product := product
            granuleDate := granuleDate
            tileH := tileH
            tileV := tileV
            relative := hpath
            tileInPath := htile.trans (congrArg some hmatch) }
        else .error (.tileMismatch blobTileH blobTileV tileH tileV)
  else .error (.invalidBlobPath blobPath)

/-- The message has the row and the tile that it was built for. -/
theorem ProcessingMessage.new_fields {ingestId : Uuid} {blobPath product : String}
    {granuleDate : DateTime} {tileH tileV : ℤ} {message : ProcessingMessage}
    (h : new ingestId blobPath product granuleDate tileH tileV = .ok message) :
    message.ingestId = ingestId ∧ message.tileH = tileH ∧ message.tileV = tileV := by
  unfold new at h
  split at h
  · split at h
    · cases h
    · split at h
      · cases h
      · split at h
        · cases h
          exact ⟨rfl, rfl, rfl⟩
        · cases h
  · cases h

theorem ProcessingMessage.new_ingestId {ingestId : Uuid} {blobPath product : String}
    {granuleDate : DateTime} {tileH tileV : ℤ} {message : ProcessingMessage}
    (h : new ingestId blobPath product granuleDate tileH tileV = .ok message) :
    message.ingestId = ingestId := (new_fields h).1

theorem ProcessingMessage.new_of_valid (ingestId : Uuid) {blobPath : String}
    (product : ProcessingProduct) (granuleDate : DateTime) {tileH tileV : ℤ}
    (hpath : RelativeBlobPath blobPath)
    (htile : parseFirstTile blobPath.toList = some (tileH, tileV)) :
    new ingestId blobPath product.asStr granuleDate tileH tileV = .ok {
      ingestId := ingestId
      blobPath := blobPath
      product := product
      granuleDate := granuleDate
      tileH := tileH
      tileV := tileV
      relative := hpath
      tileInPath := htile } := by
  simp only [new, dif_pos hpath, ProcessingProduct.parse_asStr]
  split
  · next hnone => cases htile.symm.trans hnone
  · next blobTileH blobTileV hsome =>
    obtain ⟨rfl, rfl⟩ := Prod.mk.inj (Option.some.inj (htile.symm.trans hsome))
    rw [dif_pos rfl]

/-- The fields of the JSON object, before any check. -/
structure RawProcessingMessage where
  ingestId : Uuid
  blobPath : String
  product : String
  granuleDate : DateTime
  tileH : ℤ
  tileV : ℤ
deriving DecidableEq, Repr

def ProcessingMessage.toRaw (message : ProcessingMessage) : RawProcessingMessage where
  ingestId := message.ingestId
  blobPath := message.blobPath
  product := message.product.asStr
  granuleDate := message.granuleDate
  tileH := message.tileH
  tileV := message.tileV

/-- `ProcessingMessage::parse_json`; `fromStr` is the JSON decoder with its error text. -/
def ProcessingMessage.parseJson (fromStr : String → Except String RawProcessingMessage)
    (json : String) : Except ProcessingMessageValidationError ProcessingMessage :=
  match fromStr json with
  | .error error => .error (.invalidJson error)
  | .ok raw => new raw.ingestId raw.blobPath raw.product raw.granuleDate raw.tileH raw.tileV

/-- A message that is serialized is read back, where its fields are. -/
theorem ProcessingMessage.parseJson_of_toRaw {fromStr : String → Except String RawProcessingMessage}
    {json : String} {message : ProcessingMessage} (h : fromStr json = .ok message.toRaw) :
    parseJson fromStr json = .ok message := by
  rw [parseJson, h]
  exact new_of_valid message.ingestId message.product message.granuleDate message.relative
    message.tileInPath

end LumenHorizon.Shared
