/-
  Legacy records and what of them may be public (`scripts/migration_v1/core.py`).

  A record of a session or of a share link is projected to an imported trip
  archive: texts are cleaned and redacted, messages keep their role, content and
  timestamp, and of old plans only an allowlist of keys is kept.  The archive is
  what a record's checksum is taken of.

  What Python's own library does with a text is left open (`Python`): the
  redacting of secrets, the search for denied keys, and the hash.
-/
import RoutePilot.Lib.Utf8
import RoutePilot.Model.Canonical
import RoutePilot.Model.RunInput

namespace RoutePilot.Migration

open Lib

/-! ## Values -/

/-- A legacy value: JSON, or another column value of a database (`other`), of which only its
    truth and its text are used. -/
inductive Value where
  | none
  | bool (b : Bool)
  | int (z : ℤ)
  | float (q : ℚ)
  | nonfinite
  | str (s : String)
  | list (items : List Value)
  | dict (entries : List (String × Value))
  | other (truthy : Bool) (text : String)
  deriving Inhabited

/-- A mapping from texts to values. -/
abbrev Mapping := List (String × Value)

/-- `mapping.get(key)`. -/
def Mapping.get (mapping : Mapping) (key : String) : Value := (mapping.lookup key).getD .none

/-- `mapping[key] = value`. -/
def Mapping.set : Mapping → String → Value → Mapping
  | [], key, value => [(key, value)]
  | entry :: mapping, key, value =>
    if entry.1 = key then (key, value) :: mapping else entry :: Mapping.set mapping key value

/-- `mapping.setdefault(key, value)`. -/
def Mapping.setdefault (mapping : Mapping) (key : String) (value : Value) : Mapping :=
  if (mapping.lookup key).isSome then mapping else mapping ++ [(key, value)]

namespace Value

/-- `bool(value)`. -/
def truthy : Value → Bool
  | none => false
  | bool b => b
  | int z => z ≠ 0
  | float q => q ≠ 0
  | nonfinite => true
  | str s => s ≠ ""
  | list items => !items.isEmpty
  | dict entries => !entries.isEmpty
  | other truthy _ => truthy

/-- `value or default`. -/
def or (value default : Value) : Value := if value.truthy then value else default

end Value

/-- A moment, in microseconds from the epoch. -/
abbrev Instant := ℤ

/-- What `datetime.fromisoformat` reads: a wall clock, and its distance from UTC if the text has one. -/
inductive Stamp where
  | naive (clock : ℤ)
  | aware (clock offset : ℤ)

/-- The parts of Python's library that the migration uses. -/
structure Python where
  /-- `repr(value)` of a float, a list or a dictionary. -/
  repr : Value → String
  /-- The `_SECRET_PATTERNS`, each replaced by its `[REDACTED]`. -/
  redact : String → String
  /-- `_DENIED_KEYS.search(key)`. -/
  denied : String → Bool
  floatText : FloatText
  /-- `hashlib.sha256(value).hexdigest()`. -/
  hexdigest : List UInt8 → String
  /-- `datetime.fromisoformat(text)`, unless it raises `ValueError`. -/
  fromisoformat : String → Option Stamp

variable (P : Python)

/-- `str(value)`. -/
def Python.toStr : Value → String
  | .none => "None"
  | .bool true => "True"
  | .bool false => "False"
  | .int z => toString z
  | .str s => s
  | .other _ text => text
  | value => P.repr value

/-- `str(value or "")`. -/
def Python.text (value : Value) : String := P.toStr (value.or (.str ""))

/-! ## Hashes -/

def sha256Bytes (value : List UInt8) : String := "sha256:" ++ P.hexdigest value

/-- `sha256_bytes(text.encode("utf-8"))`. -/
def sha256Text (text : String) : String := sha256Bytes P (Utf8.encode text.toList)

def sha256Json (value : Json) : String := sha256Bytes P (Utf8.encode (value.canonicalJson P.floatText))

/-! ## The public projection -/

/-- `html.escape(text, quote=False)`. -/
def htmlEscape (text : String) : String :=
  String.ofList (text.toList.flatMap fun c =>
    if c = '&' then "&amp;".toList else if c = '<' then "&lt;".toList else if c = '>' then "&gt;".toList else [c])

def cleanString (value : Value) (maximum : ℕ := 200_000) : String :=
  let text := String.ofList ((P.text value).toList.filter fun c => c = '\n' || c = '\t' || 32 ≤ c.toNat)
  htmlEscape (pyTake maximum (P.redact text))

def allowedPublicArtifactKeys : List String :=
  ["title", "summary", "summary_lines", "warnings", "itinerary", "days", "items", "routes", "budget", "currency",
    "destination", "start_date", "end_date", "content", "answer", "plan_id", "planId"]

/-- `None` below the eighth level. -/
def bounded (depth : ℕ) (value : Json) : Json := if 8 < depth then .null else value

mutual

def publicValue (depth : ℕ) : Value → Json
  | .none => .null
  | .bool b => bounded depth (.bool b)
  | .int z => bounded depth (.int z)
  | .float q => bounded depth (.float q)
  | .nonfinite => bounded depth .nonfinite
  | .str s => bounded depth (.str (cleanString P (.str s)))
  | .list items => bounded depth (.arr ((publicItems (depth + 1) items).take 1000))
  | .dict entries => bounded depth (.obj (publicEntries depth entries))
  | .other truthy text => bounded depth (.str (cleanString P (.other truthy text)))

def publicItems (depth : ℕ) : List Value → List Json
  | [] => []
  | item :: items => publicValue depth item :: publicItems depth items

def publicEntries (depth : ℕ) : List (String × Value) → List (String × Json)
  | [] => []
  | (key, item) :: entries =>
    if P.denied key then publicEntries depth entries
    else if depth = 0 ∧ key ∉ allowedPublicArtifactKeys then publicEntries depth entries
    else (key, publicValue (depth + 1) item) :: publicEntries depth entries

end

/-- A public message. -/
structure PublicMessage where
  sourceMessageRef : String
  role : String
  content : String
  timestamp : Option String

def PublicMessage.toJson (message : PublicMessage) : Json :=
  .obj ([("source_message_ref", .str message.sourceMessageRef), ("role", .str message.role),
    ("content", .str message.content)] ++
    (message.timestamp.map fun timestamp => ("timestamp", Json.str timestamp)).toList)

def allowedMessageRoles : List String := ["user", "assistant", "system"]

def messageProjection (message : Value) (sequence : ℕ) : Option PublicMessage :=
  match message with
  | .dict entries =>
    let role := pyLower (P.text (Mapping.get entries "role"))
    let content := cleanString P (Mapping.get entries "content")
    let timestamp := cleanString P (Mapping.get entries "timestamp") 64
    if role ∉ allowedMessageRoles then none
    else if content = "" then none
    else some {
      sourceMessageRef := "message:" ++ toString sequence
      role, content
      timestamp := if timestamp = "" then none else some timestamp }
  | _ => none

/-- The artifacts of old diagnostics and deliveries, in the order they are collected. -/
def artifactCandidates (messages : List Value) (payload : Mapping) : List Value :=
  let diagnosed := messages.filterMap fun message => match message with
    | .dict entries => match Mapping.get entries "diagnostics" with
      | .dict diagnostics => some (Mapping.get diagnostics "artifact")
      | _ => none
    | _ => none
  diagnosed ++ match Mapping.get payload "delivery_bundle" with
    | .dict delivery =>
      [Mapping.get delivery "artifact", Mapping.get delivery "share", Mapping.get delivery "descriptor"]
    | _ => []

def extractSourceArtifact (messages : List Value) (payload : Mapping) : List (String × Json) :=
  ((artifactCandidates messages payload).reverse.findSome? fun candidate => match publicValue P 0 candidate with
    | .obj (field :: fields) => some (field :: fields)
    | _ => none).getD []

/-! ## Records -/

/-- One stable unit that maps to one trip and one legacy artifact. -/
structure SourceRecord where
  sourceKind : String
  sourceId : String
  payload : Mapping
  origins : List String

/-- `record.key`, which is also its cursor. -/
def SourceRecord.key (record : SourceRecord) : String := record.sourceKind ++ ":" ++ record.sourceId

/-- An imported trip archive, its constant fields aside. -/
structure Archive where
  kind : String
  ref : String
  title : String
  answer : String
  messages : List PublicMessage
  artifact : List (String × Json)

/-- The fields of an archive. -/
def Archive.fields (archive : Archive) : List (String × Json) :=
  [("schema_version", .int 1), ("schema_origin", .str "legacy"), ("read_only", .bool true),
    ("source", .obj [("kind", .str archive.kind), ("ref", .str archive.ref)]), ("title", .str archive.title),
    ("answer", .str archive.answer), ("messages", .arr (archive.messages.map PublicMessage.toJson)),
    ("artifact", .obj archive.artifact)]

def Archive.toJson (archive : Archive) : Json := .obj archive.fields

/-- `payload.get("messages")`, if it is a list. -/
def rawMessages (payload : Mapping) : List Value :=
  match Mapping.get payload "messages" with
  | .list messages => messages
  | _ => []

/-- The messages of a record that may be public: of a shared text, that text alone. -/
def projectedMessages (record : SourceRecord) : List PublicMessage :=
  let messages := (rawMessages record.payload).zipIdx 1 |>.filterMap fun m => messageProjection P m.1 m.2
  let sharedContent := cleanString P (Mapping.get record.payload "content")
  if record.sourceKind = "share" ∧ sharedContent ≠ "" then
    [{ sourceMessageRef := "share:content", role := "assistant", content := sharedContent, timestamp := none }]
  else messages

def buildImportedTripArchive (record : SourceRecord) : Archive :=
  let messages := projectedMessages P record
  let title := cleanString P
    (((Mapping.get record.payload "name").or (Mapping.get record.payload "title")).or (.str "Legacy trip")) 160
  { kind := record.sourceKind
    ref := sha256Text P record.key
    title := if title = "" then "Legacy trip" else title
    answer := "\n\n".intercalate ((messages.filter fun m => m.role = "assistant").map (·.content))
    messages
    artifact := extractSourceArtifact P (rawMessages record.payload) record.payload }

/-- `record.public_content`. -/
def SourceRecord.publicContent (record : SourceRecord) : Json := (buildImportedTripArchive P record).toJson

/-- `record.source_checksum`. -/
def SourceRecord.sourceChecksum (record : SourceRecord) : String := sha256Json P (record.publicContent P)

/-! ## Owners and rows -/

/-- An explicit tenant and owner for one legacy object. -/
structure OwnerMapping where
  tenantId : String
  ownerId : String
  locale : String
  timezone : String

def deterministicId (kind sourceKey : String) : String :=
  let digest := pyTake 48 (P.hexdigest (Utf8.encode ("routepilot-v1:" ++ kind ++ ":" ++ sourceKey).toList))
  "migr_" ++ kind ++ "_" ++ digest

/-- The first and the last moment a `datetime` has. -/
def datetimeMin : Instant := -62_135_596_800_000_000
def datetimeMax : Instant := 253_402_300_799_999_999

/-- `text.replace("Z", "+00:00")`. -/
def replaceZ (text : String) : String :=
  String.ofList (text.toList.flatMap fun c => if c = 'Z' then "+00:00".toList else [c])

/-- `_parse_datetime`: the epoch for a text that is no moment, and none where `astimezone`
    overflows. -/
def parseDatetime (value : Value) : Option Instant :=
  let text := pyStrip (P.text value)
  match P.fromisoformat (replaceZ text) with
  | none => some 0
  | some (.naive clock) => some clock
  | some (.aware clock offset) =>
    if datetimeMin ≤ clock - offset ∧ clock - offset ≤ datetimeMax then some (clock - offset) else none

structure TripRow where
  tripId : String
  tenantId : String
  ownerId : String
  title : String
  locale : String
  timezone : String
  status : String
  version : ℕ
  currentArtifactId : Option String
  currentArtifactVersion : Option ℕ
  createdAt : Instant
  updatedAt : Instant

structure MemberRow where
  tenantId : String
  tripId : String
  userId : String
  role : String
  version : ℕ
  createdAt : Instant
  updatedAt : Instant

structure ArtifactRow where
  artifactId : String
  tripId : String
  tenantId : String
  artifactType : String
  createdBy : String
  createdAt : Instant

structure VersionRow where
  artifactId : String
  tenantId : String
  version : ℕ
  schemaVersion : ℕ
  status : String
  content : Json
  parentVersion : Option ℕ
  createdAt : Instant

/-- The rows of one record. -/
structure Rows where
  trip : TripRow
  member : MemberRow
  artifact : ArtifactRow
  artifactVersion : VersionRow

def artifactType : String := "ImportedTripArchive"

/-- What the content of an artifact says of its migration. -/
def migrationField (record : SourceRecord) : String × Json :=
  ("migration", .obj [("source_ref", .str (sha256Text P record.key)),
    ("source_checksum", .str (record.sourceChecksum P)),
    ("projection_checksum", .str (sha256Json P (record.publicContent P)))])

/-- The content of an imported artifact. -/
def importedContent (record : SourceRecord) : Json :=
  .obj ((buildImportedTripArchive P record).fields ++ [migrationField P record])

/-- The rows of a record created at a moment. -/
def rowsAt (record : SourceRecord) (owner : OwnerMapping) (createdAt : Instant) : Rows :=
  let tripId := deterministicId P "trip" record.key
  let artifactId := deterministicId P "artifact" record.key
  let title := (buildImportedTripArchive P record).title
  { trip := {
      tripId, tenantId := owner.tenantId, ownerId := owner.ownerId
      title := pyTake 160 (if title = "" then "Legacy trip" else title)
      locale := owner.locale, timezone := owner.timezone, status := "active", version := 1
      currentArtifactId := some artifactId, currentArtifactVersion := some 1
      createdAt, updatedAt := createdAt }
    member := {
      tenantId := owner.tenantId, tripId, userId := owner.ownerId, role := "owner", version := 1
      createdAt, updatedAt := createdAt }
    artifact := {
      artifactId, tripId, tenantId := owner.tenantId, artifactType, createdBy := owner.ownerId, createdAt }
    artifactVersion := {
      artifactId, tenantId := owner.tenantId, version := 1, schemaVersion := 1, status := "published"
      content := importedContent P record, parentVersion := none, createdAt } }

/-- `_target_rows`, unless the moment of creation overflows. -/
def targetRows (record : SourceRecord) (owner : OwnerMapping) : Option Rows :=
  (parseDatetime P (Mapping.get record.payload "created_at")).map (rowsAt P record owner)

end RoutePilot.Migration
