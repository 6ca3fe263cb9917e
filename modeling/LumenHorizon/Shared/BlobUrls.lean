import Mathlib.Data.List.DropRight
import LumenHorizon.Foundation.PathSteps
import LumenHorizon.Foundation.Percent
import LumenHorizon.Foundation.Utf8
import LumenHorizon.Shared.ProcessingMessage

/-! # Addresses of blobs

A blob is addressed by the segments of its path, each percent-encoded behind the container. The
segments `.` and `..` are not written at all, and a segment is read without its tabs and line
breaks, so paths that are read alike have one address.
-/

namespace LumenHorizon.Shared
open Foundation Percent Utf8

def slash : UInt8 := asciiByte '/'

/-- Of a URL, what is before its path, and the path behind its first slash. -/
structure Url where
  origin : String
  path : List UInt8
  cannotBeABase : Bool
deriving DecidableEq, Repr

inductive AzureStorageError where
  | cannotBeBaseUrl
deriving DecidableEq, Repr

/-- `str::split('/')`. -/
def splitSegments (path : String) : List String := (path.toList.splitOn '/').map String.ofList

def isDotSegment (segment : String) : Bool := segment = "." ∨ segment = ".."

/-- The characters that the parser of a URL passes over. -/
def isTabOrNewline (c : Char) : Bool := c = '\t' ∨ c = '\n' ∨ c = '\r'

def withoutTabs (segment : String) : String :=
  String.ofList (segment.toList.filter (!isTabOrNewline ·))

def isAsciiAlpha (b : UInt8) : Bool :=
  (0x41 ≤ b.toNat ∧ b.toNat ≤ 0x5a) ∨ (0x61 ≤ b.toNat ∧ b.toNat ≤ 0x7a)

/-- A drive of Windows, such as `c:`. -/
def isDriveLetter : List UInt8 → Bool
  | [letter, mark] => isAsciiAlpha letter ∧ (mark = asciiByte ':' ∨ mark = asciiByte '|')
  | _ => false

/-- The path once its last segment is taken away. -/
def popSegment (path : List UInt8) : List UInt8 :=
  if isDriveLetter (path.rtakeWhile (· ≠ slash)) then path ++ [slash]
  else path.rdropWhile (· ≠ slash)

/-- How a segment behind others is read. -/
def readSegment (segment : String) : PathStep String :=
  if isDotSegment segment then .stay
  else if withoutTabs segment = ".." then .up
  else if withoutTabs segment = "." then .name ""
  else .name (withoutTabs segment)

section Urls

variable (keep : UInt8 → Bool)

/-- `PathSegmentsMut::push`; `keep` are the bytes that a path segment is allowed to have as they
are. The segment is compared with the dots before its tabs go, and again after that. -/
def pushSegment (url : Url) (segment : String) : Url :=
  if isDotSegment segment then url
  else
    let text := withoutTabs segment
    let start := if url.path = [] then [] else url.path ++ [slash]
    { url with
      path :=
        if text = ".." then popSegment url.path
        else if text = "." then start
        else start ++ encode keep (asBytes text) }

def blobUrl (endpoint : Url) (containerName blobPath : String) : Except AzureStorageError Url :=
  if endpoint.cannotBeABase then .error .cannotBeBaseUrl
  else .ok ((containerName :: splitSegments blobPath).foldl (pushSegment keep) endpoint)

def encodeSegment (segment : String) : List UInt8 := encode keep (asBytes segment)

/-- The text that is written as this segment; other bytes stand for themselves. -/
def segmentText (bytes : List UInt8) : Except (List UInt8) String :=
  match decodeBytes (decode bytes) with
  | some text => if encodeSegment keep text = bytes then .ok text else .error bytes
  | none => .error bytes

def isDriveSegment : Except (List UInt8) String → Bool
  | .error bytes => isDriveLetter bytes
  | .ok text => isDriveLetter (encodeSegment keep text)

/-- The segments that are written: those of the endpoint, the container and the path, as they are
read. -/
def writtenSegments (endpoint : Url) (containerName blobPath : String) :
    List (Except (List UInt8) String) :=
  PathStep.walkFromRoot (.ok "") (isDriveSegment keep)
    ((endpoint.path.splitOn slash).map (segmentText keep))
    ((containerName :: splitSegments blobPath).map fun segment => (readSegment segment).map .ok)

variable {keep}

theorem slash_notMem_encodeSegment (hslash : keep slash = false) (segment : String) :
    slash ∉ encodeSegment keep segment :=
  notMem_encode hslash (by decide) (by decide) _

theorem encodeSegment_of_segmentText {bytes : List UInt8} {text : String}
    (h : segmentText keep bytes = .ok text) : encodeSegment keep text = bytes := by
  unfold segmentText at h
  split at h
  · split at h
    · next hwritten =>
      cases h
      exact hwritten
    · cases h
  · cases h

theorem segmentText_error {bytes bytes' : List UInt8} (h : segmentText keep bytes = .error bytes') :
    bytes = bytes' := by
  unfold segmentText at h
  split at h
  · split at h <;> cases h
    rfl
  · cases h
    rfl

theorem segmentText_injective : Function.Injective (segmentText keep) := by
  intro bytes bytes' h
  cases hread : segmentText keep bytes with
  | ok text =>
    exact (encodeSegment_of_segmentText hread).symm.trans
      (encodeSegment_of_segmentText (h.symm.trans hread))
  | error other =>
    exact (segmentText_error hread).trans (segmentText_error (h.symm.trans hread)).symm

theorem segmentText_encodeSegment (hpercent : keep percentSign = false) (text : String) :
    segmentText keep (encodeSegment keep text) = .ok text := by
  unfold segmentText
  rw [encodeSegment, decode_encode hpercent, decodeBytes_asBytes]
  simp [encodeSegment]

theorem isDriveSegment_segmentText (bytes : List UInt8) :
    isDriveSegment keep (segmentText keep bytes) = isDriveLetter bytes := by
  cases hread : segmentText keep bytes with
  | ok text => rw [isDriveSegment, encodeSegment_of_segmentText hread]
  | error other => rw [isDriveSegment, segmentText_error hread]

theorem splitOn_injective : Function.Injective (List.splitOn slash) := by
  intro path path' h
  have hpath (path : List UInt8) : [slash].intercalate (path.splitOn slash) = path :=
    List.intercalate_splitOn slash
  rw [← hpath path, h, hpath]

theorem last_segment_cases (path : List UInt8) : slash ∉ path ∨
    ∃ front text, slash ∉ text ∧ path = front ++ slash :: text := by
  induction path with
  | nil => exact .inl List.not_mem_nil
  | cons b path ih =>
    rcases ih with hnot | ⟨front, text, hnot, rfl⟩
    · by_cases hb : b = slash
      · exact .inr ⟨[], path, hnot, by rw [hb]; rfl⟩
      · exact .inl (by simp [hnot, Ne.symm hb])
    · exact .inr ⟨b :: front, text, hnot, rfl⟩

theorem splitOn_append_segment {path text : List UInt8} (h : slash ∉ text) :
    (path ++ slash :: text).splitOn slash = path.splitOn slash ++ [text] := by
  rw [List.splitOn_append_cons_self, List.splitOn_eq_singleton h]

theorem rtakeWhile_last {front text : List UInt8} (h : slash ∉ text) :
    (front ++ slash :: text).rtakeWhile (· ≠ slash) = text := by
  have hnot : slash ∉ text.reverse := by simpa using h
  have hreverse : (front ++ slash :: text).reverse = text.reverse ++ slash :: front.reverse := by simp
  rw [List.rtakeWhile, hreverse, Text.takeWhile_append_separator hnot, List.reverse_reverse]

theorem rdropWhile_last {front text : List UInt8} (h : slash ∉ text) :
    (front ++ slash :: text).rdropWhile (· ≠ slash) = front ++ [slash] := by
  have hnot : slash ∉ text.reverse := by simpa using h
  have hreverse : (front ++ slash :: text).reverse = text.reverse ++ slash :: front.reverse := by simp
  rw [List.rdropWhile, hreverse, Text.dropWhile_append_separator hnot]
  simp

theorem splitOn_popSegment (path : List UInt8) :
    (popSegment path).splitOn slash =
      PathStep.take [] isDriveLetter (path.splitOn slash) .up := by
  have hempty (front : List UInt8) :
      (front ++ [slash]).splitOn slash = front.splitOn slash ++ [[]] :=
    splitOn_append_segment List.not_mem_nil
  unfold popSegment PathStep.take
  rcases last_segment_cases path with hnot | ⟨front, text, hnot, rfl⟩
  · have hall : ∀ b ∈ path, decide (b ≠ slash) = true := by
      intro b hb
      simpa using fun heq : b = slash => hnot (heq ▸ hb)
    rw [List.rtakeWhile_eq_self_iff.mpr hall, List.rdropWhile_eq_nil_iff.mpr hall, apply_ite (List.splitOn slash),
      hempty, List.splitOn_eq_singleton hnot]
    simp
  · rw [rtakeWhile_last hnot, rdropWhile_last hnot, apply_ite (List.splitOn slash), hempty, hempty,
      splitOn_append_segment hnot]
    simp

theorem splitOn_pushSegment (hslash : keep slash = false) (url : Url) (segment : String) :
    (pushSegment keep url segment).path.splitOn slash =
      PathStep.takeFromRoot [] isDriveLetter (url.path.splitOn slash)
        ((readSegment segment).map (encodeSegment keep)) := by
  have hroot : url.path.splitOn slash = [[]] ↔ url.path = [] := by
    rw [← List.splitOn_nil slash]
    exact splitOn_injective.eq_iff
  have hname (text : String) :
      ((if url.path = [] then [] else url.path ++ [slash]) ++ encodeSegment keep text).splitOn slash =
        PathStep.takeFromRoot [] isDriveLetter (url.path.splitOn slash)
          (.name (encodeSegment keep text)) := by
    have hnot := slash_notMem_encodeSegment hslash text
    simp only [PathStep.takeFromRoot, PathStep.take, hroot]
    by_cases hpath : url.path = []
    · simp [hpath, List.splitOn_eq_singleton hnot]
    · rw [if_neg hpath, if_neg hpath, List.append_assoc, List.singleton_append,
        splitOn_append_segment hnot]
  unfold pushSegment readSegment
  by_cases hdot : isDotSegment segment = true
  · rw [if_pos hdot, if_pos hdot]
    rfl
  · rw [if_neg hdot, if_neg hdot]
    by_cases hup : withoutTabs segment = ".."
    · simp only [if_pos hup]
      exact splitOn_popSegment url.path
    · by_cases hstay : withoutTabs segment = "."
      · have hempty := hname ""
        simp only [if_neg hup, if_pos hstay]
        rw [show encodeSegment keep "" = [] from rfl, List.append_nil] at hempty
        exact hempty
      · simp only [if_neg hup, if_neg hstay]
        exact hname (withoutTabs segment)

theorem splitOn_foldl_pushSegment (hslash : keep slash = false) (url : Url)
    (segments : List String) :
    (segments.foldl (pushSegment keep) url).path.splitOn slash =
      PathStep.walkFromRoot [] isDriveLetter (url.path.splitOn slash)
        (segments.map fun segment => (readSegment segment).map (encodeSegment keep)) := by
  induction segments generalizing url with
  | nil => rfl
  | cons segment segments ih =>
    rw [List.foldl_cons, ih, splitOn_pushSegment hslash, List.map_cons, PathStep.walkFromRoot_cons]

theorem pushSegment_fields (url : Url) (segments : List String) :
    segments.foldl (pushSegment keep) url =
      { url with path := (segments.foldl (pushSegment keep) url).path } := by
  induction segments generalizing url with
  | nil => rfl
  | cons segment segments ih =>
    rw [List.foldl_cons, ih]
    unfold pushSegment
    split <;> rfl

/-- Two paths have one address exactly if the same segments are written. -/
theorem foldl_pushSegment_eq_iff (hpercent : keep percentSign = false) (hslash : keep slash = false)
    (endpoint : Url) (containerName blobPath blobPath' : String) :
    (containerName :: splitSegments blobPath).foldl (pushSegment keep) endpoint =
        (containerName :: splitSegments blobPath').foldl (pushSegment keep) endpoint ↔
      writtenSegments keep endpoint containerName blobPath =
        writtenSegments keep endpoint containerName blobPath' := by
  have hwritten (path : String) : writtenSegments keep endpoint containerName path =
      (((containerName :: splitSegments path).foldl (pushSegment keep) endpoint).path.splitOn
        slash).map (segmentText keep) := by
    have hempty : segmentText keep [] = .ok "" := segmentText_encodeSegment hpercent ""
    have hsteps (segment : String) : (readSegment segment).map .ok =
        ((readSegment segment).map (encodeSegment keep)).map (segmentText keep) := by
      cases readSegment segment with
      | name text => simp [PathStep.map, segmentText_encodeSegment hpercent]
      | _ => rfl
    rw [splitOn_foldl_pushSegment hslash, ← PathStep.walkFromRoot_map segmentText_injective
      isDriveSegment_segmentText, hempty, List.map_map]
    simp only [writtenSegments, hsteps, Function.comp_def]
  rw [hwritten, hwritten, (List.map_injective_iff.mpr segmentText_injective).eq_iff,
    splitOn_injective.eq_iff, pushSegment_fields,
    pushSegment_fields endpoint (containerName :: splitSegments blobPath'), Url.mk.injEq]
  simp

/-- Two accepted paths have different addresses exactly if the endpoint can be a base, and their
written segments differ. -/
theorem blobUrl_ne_iff (hpercent : keep percentSign = false) (hslash : keep slash = false)
    (endpoint : Url) (containerName : String) (message message' : ProcessingMessage) :
    (∃ url url', blobUrl keep endpoint containerName message.blobPath = .ok url ∧
        blobUrl keep endpoint containerName message'.blobPath = .ok url' ∧ url ≠ url') ↔
      endpoint.cannotBeABase = false ∧
        writtenSegments keep endpoint containerName message.blobPath ≠
          writtenSegments keep endpoint containerName message'.blobPath := by
  unfold blobUrl
  by_cases hbase : endpoint.cannotBeABase = true
  · simp [hbase]
  · have hsame := foldl_pushSegment_eq_iff hpercent hslash endpoint containerName message.blobPath
      message'.blobPath
    simp [hbase, ← hsame]

end Urls

/-- The bytes of a path segment that the URL library writes as they are. -/
def specialPathSegment (b : UInt8) : Bool :=
  0x21 ≤ b.toNat ∧ b.toNat ≤ 0x7e ∧ b ∉ "\"#/%<>?\\`\x7b\x7d".toList.map asciiByte

def azureEndpoint : Url where
  origin := "https://lumenstorage.blob.core.windows.net"
  path := []
  cannotBeABase := false

/-- A message of 21 May 2024 for the tile h01v02, under a path that has it. -/
def messageUnder (blobPath : String) (hrelative : RelativeBlobPath blobPath)
    (htile : parseFirstTile blobPath.toList = some (1, 2)) : ProcessingMessage where
  ingestId := 1
  blobPath := blobPath
  product := .vnp46A2
  granuleDate := { year := 2024, month := 5, day := 21, nanoOfDay := 0 }
  tileH := 1
  tileV := 2
  relative := hrelative
  tileInPath := htile

def plainMessage : ProcessingMessage := messageUnder "VNP46A2/h01v02.h5" (by decide) (by decide)

def dottedMessage : ProcessingMessage := messageUnder "VNP46A2/./h01v02.h5" (by decide) (by decide)

def tabbedMessage : ProcessingMessage := messageUnder "VNP46A2\t/h01v02.h5" (by decide) (by decide)

def otherMessage : ProcessingMessage := messageUnder "VNP46A2/h01v02#2.h5" (by decide) (by decide)

theorem blobUrl_ne_iff_other :
    (∃ url url',
      blobUrl specialPathSegment azureEndpoint "raw-viirs" plainMessage.blobPath = .ok url ∧
        blobUrl specialPathSegment azureEndpoint "raw-viirs" otherMessage.blobPath = .ok url' ∧
          url ≠ url') ↔
      azureEndpoint.cannotBeABase = false ∧
        writtenSegments specialPathSegment azureEndpoint "raw-viirs" plainMessage.blobPath ≠
          writtenSegments specialPathSegment azureEndpoint "raw-viirs" otherMessage.blobPath :=
  blobUrl_ne_iff (by decide) (by decide) azureEndpoint "raw-viirs" plainMessage otherMessage

/-- A message with a dot in its path addresses the blob of the one without. -/
theorem not_blobUrl_ne_dotted :
    ¬ ∀ (endpoint : Url) (containerName : String) (message message' : ProcessingMessage),
      message.blobPath ≠ message'.blobPath →
        ∃ url url', blobUrl specialPathSegment endpoint containerName message.blobPath = .ok url ∧
          blobUrl specialPathSegment endpoint containerName message'.blobPath = .ok url' ∧
            url ≠ url' := by
  intro h
  obtain ⟨url, url', hurl, hurl', hne⟩ := h azureEndpoint "raw-viirs" plainMessage dottedMessage
    (by decide)
  have hsame : blobUrl specialPathSegment azureEndpoint "raw-viirs" plainMessage.blobPath =
      blobUrl specialPathSegment azureEndpoint "raw-viirs" dottedMessage.blobPath := by
    decide +kernel
  exact hne (Except.ok.inj (hurl.symm.trans (hsame.trans hurl')))

example : blobUrl specialPathSegment azureEndpoint "raw-viirs" plainMessage.blobPath =
    blobUrl specialPathSegment azureEndpoint "raw-viirs" tabbedMessage.blobPath := by decide +kernel

/-! ## The path that an address leads to -/

def joinSegments (segments : List String) : String :=
  String.ofList (['/'].intercalate (segments.map String.toList))

theorem joinSegments_splitSegments (path : String) : joinSegments (splitSegments path) = path := by
  have hchars : (splitSegments path).map String.toList = path.toList.splitOn '/' := by
    simp [splitSegments, Function.comp_def]
  rw [joinSegments, hchars, List.intercalate_splitOn, String.ofList_toList]

theorem splitSegments_joinSegments {segments : List String} (hne : segments ≠ [])
    (h : ∀ segment ∈ segments, '/' ∉ segment.toList) :
    splitSegments (joinSegments segments) = segments := by
  have hchars : ∀ chars ∈ segments.map String.toList, '/' ∉ chars := by
    simpa using h
  rw [splitSegments, joinSegments, String.toList_ofList,
    List.splitOn_intercalate '/' hchars (by simpa using hne)]
  simp [Function.comp_def]

theorem notMem_of_mem_splitOn {l text : List Char} {a : Char} (h : text ∈ l.splitOn a) :
    a ∉ text := by
  induction l generalizing text with
  | nil =>
    rw [List.splitOn_nil, List.mem_singleton] at h
    simp [h]
  | cons c l ih =>
    rw [List.splitOn_cons_eq_if_modifyHead] at h
    split at h
    · rcases List.mem_cons.mp h with rfl | h
      · exact List.not_mem_nil
      · exact ih h
    · next hc =>
      cases hrest : l.splitOn a with
      | nil => exact absurd hrest (List.splitOn_ne_nil a l)
      | cons first rest =>
        rw [hrest, List.modifyHead_cons] at h
        rcases List.mem_cons.mp h with rfl | h
        · have hfirst : a ∉ first := ih (hrest ▸ List.mem_cons_self)
          have hne : a ≠ c := fun heq => hc (by simp [heq])
          simp [hfirst, hne]
        · exact ih (hrest ▸ List.mem_cons_of_mem _ h)

theorem slash_notMem_of_mem_splitSegments {path segment : String}
    (h : segment ∈ splitSegments path) : '/' ∉ segment.toList := by
  obtain ⟨chars, hchars, rfl⟩ := List.mem_map.mp h
  rw [String.toList_ofList]
  exact notMem_of_mem_splitOn hchars

/-- A segment that is written as it is. -/
def IsPlainSegment (segment : String) : Prop :=
  isDotSegment segment = false ∧ withoutTabs segment = segment

instance (segment : String) : Decidable (IsPlainSegment segment) :=
  inferInstanceAs (Decidable (_ ∧ _))

theorem isDotSegment_eq_false_iff {segment : String} :
    isDotSegment segment = false ↔ segment ≠ "." ∧ segment ≠ ".." := by
  simp [isDotSegment]

theorem IsPlainSegment.readSegment {segment : String} (h : IsPlainSegment segment) :
    readSegment segment = .name segment := by
  obtain ⟨hdot, htabs⟩ := h
  obtain ⟨hstay, hup⟩ := isDotSegment_eq_false_iff.mp hdot
  unfold Shared.readSegment
  rw [hdot, htabs, if_neg Bool.false_ne_true, if_neg hup, if_neg hstay]

theorem withoutTabs_withoutTabs (segment : String) :
    withoutTabs (withoutTabs segment) = withoutTabs segment := by
  simp [withoutTabs, List.filter_filter]

theorem readSegment_name {segment text : String} (h : readSegment segment = .name text) :
    text = "" ∨ (text = withoutTabs segment ∧ isDotSegment text = false) := by
  unfold readSegment at h
  split at h
  · cases h
  · split at h
    · cases h
    · next hup =>
      split at h
      · cases h
        exact .inl rfl
      · next hstay =>
        cases h
        exact .inr ⟨rfl, isDotSegment_eq_false_iff.mpr ⟨hstay, hup⟩⟩

theorem isPlainSegment_of_readSegment {segment text : String}
    (h : readSegment segment = .name text) : IsPlainSegment text := by
  rcases readSegment_name h with rfl | ⟨rfl, hdot⟩
  · decide
  · exact ⟨hdot, withoutTabs_withoutTabs segment⟩

theorem slash_notMem_of_readSegment {segment text : String} (hslash : '/' ∉ segment.toList)
    (h : readSegment segment = .name text) : '/' ∉ text.toList := by
  rcases readSegment_name h with rfl | ⟨rfl, -⟩
  · decide
  · rw [withoutTabs, String.toList_ofList]
    exact fun hmem => hslash (List.mem_of_mem_filter hmem)

def isDriveText (text : String) : Bool := isDriveLetter (encodeSegment specialPathSegment text)

/-- The segments of a path as they are read. -/
def readSegments (path : String) : List String :=
  PathStep.walk "" isDriveText [] ((splitSegments path).map readSegment)

/-- The path of the blob that is at the address of this path. -/
def addressedPath (path : String) : String := joinSegments (readSegments path)

theorem mem_readSegments {path text : String} (h : text ∈ readSegments path) :
    IsPlainSegment text ∧ '/' ∉ text.toList := by
  rcases PathStep.mem_walk h with hnil | rfl | hname
  · exact absurd hnil List.not_mem_nil
  · decide
  · obtain ⟨segment, hsegment, hread⟩ := List.mem_map.mp hname
    exact ⟨isPlainSegment_of_readSegment hread,
      slash_notMem_of_readSegment (slash_notMem_of_mem_splitSegments hsegment) hread⟩

theorem readSegments_joinSegments {segments : List String} (hne : segments ≠ [])
    (h : ∀ segment ∈ segments, IsPlainSegment segment ∧ '/' ∉ segment.toList) :
    readSegments (joinSegments segments) = segments := by
  have hnames : segments.map readSegment = segments.map PathStep.name :=
    List.map_congr_left fun segment hsegment => (h segment hsegment).1.readSegment
  rw [readSegments, splitSegments_joinSegments hne fun segment hsegment => (h segment hsegment).2,
    hnames, PathStep.walk_names, List.nil_append]

theorem addressedPath_of_plain {path : String}
    (h : ∀ segment ∈ splitSegments path, IsPlainSegment segment) : addressedPath path = path := by
  have hne : splitSegments path ≠ [] := by
    simp [splitSegments, List.splitOn_ne_nil]
  have hread := readSegments_joinSegments hne fun segment hsegment =>
    ⟨h segment hsegment, slash_notMem_of_mem_splitSegments hsegment⟩
  rw [joinSegments_splitSegments] at hread
  rw [addressedPath, hread, joinSegments_splitSegments]

@[simp] theorem addressedPath_addressedPath (path : String) :
    addressedPath (addressedPath path) = addressedPath path := by
  by_cases hne : readSegments path = []
  · have hempty : addressedPath path = "" := by
      rw [addressedPath, hne]
      rfl
    rw [hempty]
    decide
  · have hread : readSegments (addressedPath path) = readSegments path :=
      readSegments_joinSegments hne fun _ => mem_readSegments
    rw [addressedPath, hread, addressedPath]

theorem joinSegments_pair (first second : String) :
    joinSegments [first, second] = first ++ "/" ++ second := by
  apply String.toList_inj.mp
  rw [joinSegments, String.toList_ofList]
  simp [List.intercalate, List.intersperse, String.toList_append]

theorem withoutTabs_append (front text : String) :
    withoutTabs (front ++ text) = withoutTabs front ++ withoutTabs text := by
  apply String.toList_inj.mp
  simp [withoutTabs, String.toList_append]

theorem ne_dots_of_length {text : String} (h : 2 < text.toList.length) :
    text ≠ "." ∧ text ≠ ".." := by
  constructor <;> rintro rfl <;> exact absurd h (by decide)

/-- A name of at least three characters that are no tabs is read without its tabs. -/
theorem readSegment_of_length {segment : String} (h : 2 < (withoutTabs segment).toList.length) :
    readSegment segment = .name (withoutTabs segment) := by
  have hshort : (withoutTabs segment).toList.length ≤ segment.toList.length := by
    rw [withoutTabs, String.toList_ofList]
    exact List.length_filter_le _ _
  obtain ⟨hstay, hup⟩ := ne_dots_of_length h
  unfold readSegment
  rw [isDotSegment_eq_false_iff.mpr (ne_dots_of_length (h.trans_le hshort)), if_neg Bool.false_ne_true, if_neg hup,
    if_neg hstay]

theorem addressedPath_pair {first second : String} (hfirst : IsPlainSegment first)
    (hslash : '/' ∉ first.toList) (hslash' : '/' ∉ second.toList)
    (hsecond : 2 < (withoutTabs second).toList.length) :
    addressedPath (first ++ "/" ++ second) = first ++ "/" ++ withoutTabs second := by
  have hsplit : splitSegments (first ++ "/" ++ second) = [first, second] := by
    rw [← joinSegments_pair]
    apply splitSegments_joinSegments (List.cons_ne_nil _ _)
    simp [hslash, hslash']
  have hread : readSegments (first ++ "/" ++ second) = [first, withoutTabs second] := by
    rw [readSegments, hsplit, List.map_cons, List.map_singleton, hfirst.readSegment,
      readSegment_of_length hsecond]
    rfl
  rw [addressedPath, hread, joinSegments_pair]
theorem withoutTabs_of_forall {text : String} (h : ∀ c ∈ text.toList, isTabOrNewline c = false) :
    withoutTabs text = text := by
  rw [withoutTabs, List.filter_eq_self.mpr (by simpa using h), String.ofList_toList]

theorem isPlainSegment_toString (n : ℕ) : IsPlainSegment (toString n) := by
  have hdot : '.' ∉ (toString n).toList := fun h => absurd (Text.isDigit_of_mem_toString h) (by decide)
  refine ⟨isDotSegment_eq_false_iff.mpr ⟨fun h => ?_, fun h => ?_⟩, withoutTabs_of_forall ?_⟩
  · exact hdot (h ▸ by decide)
  · exact hdot (h ▸ by decide)
  · intro c hc
    have hdigit := Text.isDigit_of_mem_toString hc
    by_contra htab
    rw [Bool.not_eq_false, isTabOrNewline, decide_eq_true_eq] at htab
    rcases htab with rfl | rfl | rfl <;> exact absurd hdigit (by decide)

/-- The segments of the endpoint that a name comes behind. -/
def frontSegments (endpoint : Url) : List (Except (List UInt8) String) :=
  let segments := (endpoint.path.splitOn slash).map (segmentText specialPathSegment)
  if segments = [.ok ""] then [] else segments

/-- Behind a plain container, a path that begins with a name is written as it is read. -/
theorem writtenSegments_of_name {containerName path first name : String} {rest : List String}
    (endpoint : Url) (hcontainer : IsPlainSegment containerName) (hempty : containerName ≠ "")
    (hpath : splitSegments path = first :: rest) (hfirst : readSegment first = .name name) :
    writtenSegments specialPathSegment endpoint containerName path =
      (frontSegments endpoint ++ [.ok containerName]) ++ (readSegments path).map .ok := by
  have hread : readSegments path = PathStep.walk "" isDriveText [name] (rest.map readSegment) := by
    rw [readSegments, hpath, List.map_cons, hfirst]
    rfl
  have hfront : PathStep.takeFromRoot (.ok "") (isDriveSegment specialPathSegment)
      ((endpoint.path.splitOn slash).map (segmentText specialPathSegment))
      ((readSegment containerName).map .ok) = frontSegments endpoint ++ [.ok containerName] := by
    rw [hcontainer.readSegment]
    rfl
  have hname : PathStep.takeFromRoot (.ok "") (isDriveSegment specialPathSegment)
      (frontSegments endpoint ++ [.ok containerName]) ((readSegment first).map .ok) =
        (frontSegments endpoint ++ [.ok containerName]) ++ [.ok name] := by
    have hroot : frontSegments endpoint ++ [.ok containerName] ≠ [.ok ""] := by
      intro h
      have hlast := congrArg List.getLast? h
      simp [hempty] at hlast
    simp [hfirst, PathStep.map, PathStep.takeFromRoot, PathStep.take, hroot]
  have hmap : PathStep.walk (.ok "") (isDriveSegment specialPathSegment) ([name].map .ok)
      ((rest.map readSegment).map (PathStep.map .ok)) =
        (PathStep.walk "" isDriveText [name] (rest.map readSegment)).map .ok :=
    PathStep.walk_map (fun _ => rfl) _ _
  unfold writtenSegments
  rw [hpath, List.map_cons, List.map_cons, PathStep.walkFromRoot_cons, PathStep.walkFromRoot_cons,
    hfront, hname, PathStep.walkFromRoot_eq_walk (by simp),
    PathStep.walk_append (List.cons_ne_nil _ _), hread, ← hmap, List.map_map]
  rfl

/-- Such paths have one address exactly if they lead to one blob. -/
theorem foldl_pushSegment_eq_iff_addressedPath {containerName path path' : String} (endpoint : Url)
    (hcontainer : IsPlainSegment containerName) (hempty : containerName ≠ "")
    {first first' name name' : String} {rest rest' : List String}
    (hpath : splitSegments path = first :: rest) (hfirst : readSegment first = .name name)
    (hpath' : splitSegments path' = first' :: rest') (hfirst' : readSegment first' = .name name') :
    (containerName :: splitSegments path).foldl (pushSegment specialPathSegment) endpoint =
        (containerName :: splitSegments path').foldl (pushSegment specialPathSegment) endpoint ↔
      addressedPath path = addressedPath path' := by
  have hne {path first name : String} {rest : List String}
      (hpath : splitSegments path = first :: rest) (hfirst : readSegment first = .name name) :
      readSegments path ≠ [] := by
    rw [readSegments, hpath, List.map_cons, hfirst, PathStep.walk_cons]
    exact PathStep.walk_ne_nil (List.cons_ne_nil _ _) _
  have hinj : Function.Injective (Except.ok : String → Except (List UInt8) String) :=
    fun _ _ h => Except.ok.inj h
  rw [foldl_pushSegment_eq_iff (by decide) (by decide),
    writtenSegments_of_name endpoint hcontainer hempty hpath hfirst,
    writtenSegments_of_name endpoint hcontainer hempty hpath' hfirst', List.append_cancel_left_eq,
    (List.map_injective_iff.mpr hinj).eq_iff]
  constructor
  · intro h
    rw [addressedPath, addressedPath, h]
  · intro h
    have hsplit := congrArg splitSegments h
    rwa [addressedPath, addressedPath,
      splitSegments_joinSegments (hne hpath hfirst) fun _ hmem => (mem_readSegments hmem).2,
      splitSegments_joinSegments (hne hpath' hfirst') fun _ hmem => (mem_readSegments hmem).2]
      at hsplit

end LumenHorizon.Shared
