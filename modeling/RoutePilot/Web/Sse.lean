/-
  The event stream on the wire: what the server writes (`_serialize_event` and
  `_stream_events` in `routes.py`), and how the browser reads it (`sse.ts`).

  A text is a list of characters, a chunk a list of bytes.  `JSON.parse` is a
  parameter (`none` if it throws), and so is `TextDecoder`.
-/
import RoutePilot.Lib.Framing
import RoutePilot.Lib.Utf8
import RoutePilot.Model.TimeText
import RoutePilot.Web.PublicEvent

namespace RoutePilot

open Lib

/-! ## The server -/

/-- `event.model_dump(mode="json")`. -/
def RunEvent.dump (e : RunEvent) : Obj :=
  [("event_id", .str e.eventId), ("schema_version", .int e.schemaVersion), ("seq", .int e.seq),
    ("type", .str e.type.value), ("occurred_at", .str (Time.dumped e.occurredAt)), ("trip_id", .str e.tripId),
    ("run_id", .str e.runId), ("trace_id", .str e.traceId), ("audience", .str e.audience), ("data", .obj e.data)]

/-- What the stream yields. -/
inductive StreamItem where
  | event (e : RunEvent)
  | heartbeat (now : Time)

/-- The events of a stream. -/
def streamedEvents (items : List StreamItem) : List RunEvent :=
  items.filterMap fun
    | .event e => some e
    | .heartbeat _ => none

variable (F : FloatText)

/-- `id: {event.seq}`. -/
def idLine (e : RunEvent) : List Char := ['i', 'd', ':', ' '] ++ (toString e.seq).toList

/-- `event: {event.type}`. -/
def eventLine (e : RunEvent) : List Char := ['e', 'v', 'e', 'n', 't', ':', ' '] ++ e.type.value.toList

/-- `data: {json.dumps(payload, ...)}`. -/
def dataLine (e : RunEvent) : List Char := ['d', 'a', 't', 'a', ':', ' '] ++ (Json.obj e.dump).dumps F

/-- `: heartbeat {utc_now().isoformat()}`. -/
def heartbeatLine (now : Time) : List Char :=
  [':', ' ', 'h', 'e', 'a', 'r', 't', 'b', 'e', 'a', 't', ' '] ++ (Time.isoformat now).toList

/-- A frame without the blank line that ends it. -/
def StreamItem.frame : StreamItem → List Char
  | .event e => idLine e ++ '\n' :: (eventLine e ++ '\n' :: dataLine F e)
  | .heartbeat now => heartbeatLine now

/-- `_serialize_event(event)`, or the comment of a heartbeat. -/
def StreamItem.text (item : StreamItem) : List Char := item.frame F ++ ['\n', '\n']

/-- The text of a stream. -/
def streamText (items : List StreamItem) : List Char := items.flatMap (·.text F)

/-! ## The browser -/

namespace Web

/-- `/\r?\n/`. -/
def lineBreak : Words Char where
  words := [['\n'], ['\r', '\n']]
  ne := by decide
  free := by decide
  apart := by decide

/-- `/\r?\n\r?\n/`. -/
def blankLine : Words Char where
  words := [['\n', '\n'], ['\n', '\r', '\n'], ['\r', '\n', '\n'], ['\r', '\n', '\r', '\n']]
  ne := by decide
  free := by decide
  apart := by decide

structure SseFrame where
  event : Option (List Char)
  id : Option (List Char)
  data : List Char

/-- `value.replace(/^ /, "")`. -/
def dropSpace : List Char → List Char
  | ' ' :: value => value
  | value => value

/-- The field of a line, and its value. -/
def fieldOf (line : List Char) : List Char × List Char :=
  if ':' ∈ line then (line.takeWhile (· ≠ ':'), dropSpace (line.dropWhile (· ≠ ':')).tail) else (line, [])

/-- The fields of the lines read so far. -/
structure Fields where
  data : List (List Char) := []
  event : Option (List Char) := none
  id : Option (List Char) := none

/-- One line of a frame. -/
def Fields.read (fields : Fields) (line : List Char) : Fields :=
  if line = [] ∨ line.head? = some ':' then fields
  else
    let (field, value) := fieldOf line
    if field = "data".toList then { fields with data := fields.data ++ [value] }
    else if field = "event".toList then { fields with event := some value }
    else if field = "id".toList then { fields with id := some value }
    else fields

/-- `data.join("\n")`. -/
def joinLines : List (List Char) → List Char
  | [] => []
  | [line] => line
  | line :: lines => line ++ '\n' :: joinLines lines

def parseFrame (block : List Char) : Option SseFrame :=
  let fields := (lineBreak.separator.split block).foldl Fields.read {}
  if fields.data = [] then none
  else some { event := fields.event, id := fields.id, data := joinLines fields.data }

/-- A call of the stream's options. -/
inductive Callback where
  | onEvent (event : PublicRunEvent)
  | onHeartbeat
  deriving Inhabited

/-- `TextDecoder`: a state, and what `decode(value, { stream })` returns. -/
structure TextDecoder where
  State : Type
  start : State
  decode : State → List UInt8 → Bool → List Char × State

/-- What is decoded from the chunks, and at last without one. -/
def TextDecoder.decodeAll (D : TextDecoder) : D.State → List (List UInt8) → List (List Char)
  | state, [] => [(D.decode state [] false).1]
  | state, value :: values =>
    (D.decode state value true).1 :: D.decodeAll (D.decode state value true).2 values

/-- `JSON.parse`. -/
abbrev JsonParse := List Char → Option Json

section
variable (D : TextDecoder) (parse : JsonParse)

/-- `consume`. -/
def consume (frameText : List Char) : List Callback :=
  match parseFrame frameText with
  | none => []
  | some frame =>
    match parse frame.data with
    | none => []
    | some payload =>
      match parsePublicRunEvent payload with
      | some event => [.onEvent event]
      | none => if frame.event = some EventType.heartbeat.value.toList then [.onHeartbeat] else []

/-- White space that `trim` removes. -/
def isJsSpace (c : Char) : Bool :=
  let n := c.toNat
  (9 ≤ n && n ≤ 13) || n == 0x20 || n == 0xA0 || n == 0x1680 || (0x2000 ≤ n && n ≤ 0x200A) || n == 0x2028 ||
    n == 0x2029 || n == 0x202F || n == 0x205F || n == 0x3000 || n == 0xFEFF

/-- The loop of `streamRunEventsOnce`, until the reader is done. -/
def readStream (state : D.State) (buffer : List Char) : List (List UInt8) → List Callback
  | [] =>
    let fed := blankLine.separator.feed buffer (D.decode state [] false).1
    fed.1.flatMap (consume parse) ++ if fed.2.all isJsSpace then [] else consume parse fed.2
  | value :: values =>
    let decoded := D.decode state value true
    let fed := blankLine.separator.feed buffer decoded.1
    fed.1.flatMap (consume parse) ++ readStream decoded.2 fed.2 values

/-- `streamRunEventsOnce` on a response that ends normally and is not aborted. -/
def streamRunEventsOnce (chunks : List (List UInt8)) : List Callback := readStream D parse D.start [] chunks

end

/-- What reading the chunks comes to: the pieces of what is decoded, and the rest unless it is blank. -/
theorem readStream_eq (D : TextDecoder) (parse : JsonParse) (state : D.State) (buffer : List Char)
    (chunks : List (List UInt8)) :
    readStream D parse state buffer chunks =
      let read := blankLine.separator.feedAll buffer (D.decodeAll state chunks)
      read.1.flatMap (consume parse) ++ if read.2.all isJsSpace then [] else consume parse read.2 := by
  induction chunks generalizing state buffer with
  | nil => simp [readStream, TextDecoder.decodeAll, Separator.feedAll]
  | cons value values ih =>
    rw [readStream, ih]
    simp [TextDecoder.decodeAll, Separator.feedAll]

end Web
end RoutePilot
