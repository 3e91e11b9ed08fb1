/-
  Listing Tasks page by page (`on_list_tasks` in `travel_agent/a2a/handler.py`).

  A page token is the offset of the next page in base64.  The Task store is read
  only; that `list_tasks` also starts jobs for submitted and working Tasks does
  not change what it returns.  A Task of this service has no `history`, which
  leaves `history_length` with its check.
-/
import RoutePilot.A2A.Service
import RoutePilot.Lib.Base64

namespace RoutePilot.A2A

open Lib

/-! ## Page tokens -/

/-- The white space that `int` skips. -/
def isSpace (c : Char) : Bool := c = ' ' || (9 ≤ c.toNat && c.toNat ≤ 13)

/-- The digits of a numeral, in groups that are joined by `_`. -/
def parseDigits (cs : List Char) : Option ℕ :=
  if (cs.splitOn '_').all fun part => !part.isEmpty && part.all Char.isDigit then
    some (Nat.ofDigitChars 10 (cs.filter (· ≠ '_')) 0)
  else none

/-- `int(text)`, of ASCII text. -/
def parseInt (cs : List Char) : Option ℤ :=
  match (cs.dropWhile isSpace).rdropWhile isSpace with
  | '-' :: ds => (parseDigits ds).map fun n => -(n : ℤ)
  | '+' :: ds => (parseDigits ds).map (↑)
  | ds => (parseDigits ds).map (↑)

/-- `text.decode("ascii")` -/
def decodeAscii (bytes : List ℕ) : Option (List Char) :=
  if bytes.all (· < 128) then some (bytes.map Char.ofNat) else none

/-- `_page_offset`. -/
def pageOffset (token : String) : Except ServiceError ℕ :=
  if token = "" then .ok 0
  else
    let decoded := do
      let bytes ← if token.toList.all (·.toNat < 128) then Base64.decode (token.toList ++ ['=', '=', '=']) else none
      parseInt (← decodeAscii bytes)
    match decoded with
    | none => .error (.invalidParams "Invalid pageToken")
    | some offset =>
      if offset < 0 then .error (.invalidParams "Invalid pageToken") else .ok offset.toNat

/-- `_page_token`. -/
def pageToken (offset : ℕ) : String :=
  String.ofList ((Base64.encode ((toString offset).toList.map Char.toNat)).rdropWhile (· == '='))

/-! ## Moments -/

/-- A `datetime`, with a timezone or without. -/
structure Datetime where
  time : Time
  aware : Bool

/-- `a > b` -/
def Datetime.later (a b : Datetime) : Except ServiceError Bool :=
  if a.aware = b.aware then .ok (b.time < a.time) else .error (.exception "TypeError")

/-- `Timestamp.ToDatetime()`, without a timezone to convert to. -/
def toDatetime (timestamp : Time) : Datetime := ⟨timestamp, false⟩

/-- The moments of the service are taken with `datetime.now(UTC)`. -/
def utcMoment (t : Time) : Datetime := ⟨t, true⟩

/-! ## The store -/

/-- `item.created_at or item.deadline` -/
def TaskRecord.created (r : TaskRecord) : Time := r.createdAt.getD r.deadline

/-- The sort key `(created, id)` of one record is no greater than that of another. -/
def TaskRecord.Before (r r' : TaskRecord) : Prop :=
  r.created < r'.created ∨ r.created = r'.created ∧ r.task.id ≤ r'.task.id

instance (r r' : TaskRecord) : Decidable (r.Before r') := inferInstanceAs (Decidable (_ ∨ _ ∧ _))

/-- `InMemoryAgentTaskStore.list`. -/
def TaskStore.list (st : TaskStore) (tenantId agentInterfaceId : String) (contextId : Option String)
    (state : Option TaskState) : List TaskRecord :=
  ((st.records.entries.filter fun e =>
      e.1.1 = tenantId && e.1.2.1 = agentInterfaceId && contextId.all (e.2.task.contextId = ·) &&
        state.all (e.2.state = ·)).map (·.2)).mergeSort fun r r' => r.Before r'

/-! ## The handler -/

/-- `ListTasksRequest`; an unspecified state is none, and so is a timestamp that is not set. -/
structure ListTasksRequest where
  tenant : String
  contextId : String := ""
  status : Option TaskState := none
  pageSize : ℤ := 0
  pageToken : String := ""
  historyLength : ℤ := 0
  statusTimestampAfter : Option Time := none
  includeArtifacts : Bool := false

structure ListTasksResponse where
  tasks : List Task
  nextPageToken : String
  pageSize : ℕ
  totalSize : ℕ

/-- `_project_task`, of a Task without history. -/
def projectTask (includeArtifacts : Bool) (task : Task) : Task :=
  if includeArtifacts then task else { task with artifacts := [] }

section
variable (registered : String → Bool) (st : TaskStore) (actor : Actor) (interfaceId : String)

/-- `TaskService.list_tasks`. -/
def listTasks (tenant : String) (contextId : Option String) (state : Option TaskState) :
    Except ServiceError (List TaskRecord) :=
  if tenant = "" ∨ tenant ≠ actor.tenantId then .error .taskNotFound
  else if !registered interfaceId then .error (.exception "KeyError")
  else .ok (st.list actor.tenantId interfaceId contextId state)

/-- `[record for record in records if record.updated_at is not None and record.updated_at > timestamp_after]` -/
def updatedAfter (timestampAfter : Datetime) : List TaskRecord → Except ServiceError (List TaskRecord)
  | [] => .ok []
  | record :: records => do
    let later ← match record.updatedAt with
      | none => .ok false
      | some updatedAt => (utcMoment updatedAt).later timestampAfter
    let rest ← updatedAfter timestampAfter records
    return if later then record :: rest else rest

/-- `on_list_tasks`. -/
def onListTasks (params : ListTasksRequest) : Except ServiceError ListTasksResponse := do
  let pageSize := if params.pageSize = 0 then 50 else params.pageSize
  if ¬ (1 ≤ pageSize ∧ pageSize ≤ 100) then
    throw (.invalidParams "pageSize must be between 1 and 100")
  if params.historyLength < 0 ∨ 100 < params.historyLength then
    throw (.invalidParams "historyLength must be between 0 and 100")
  let contextId := if params.contextId = "" then none else some params.contextId
  let records ← listTasks registered st actor interfaceId params.tenant contextId params.status
  let records ← match params.statusTimestampAfter with
    | some timestamp => updatedAfter (toDatetime timestamp) records
    | none => pure records
  let offset ← pageOffset params.pageToken
  let page := (records.drop offset).take pageSize.toNat
  let nextOffset := offset + page.length
  return { tasks := page.map fun record => projectTask params.includeArtifacts record.task
           nextPageToken := if nextOffset < records.length then pageToken nextOffset else ""
           pageSize := page.length
           totalSize := records.length }

end
end RoutePilot.A2A
