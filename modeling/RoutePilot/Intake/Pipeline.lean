/-
  What is built from an accepted command on its way to the agents: of a plan, its
  brief, the invocations of the agents and the requests of research; of a question
  (`OrchestratedWholeRunExecutor._execute_answer`), the same without a brief.

  Every service is configured: a query is made for the knowledge base, and a place
  search for the providers.
-/
import RoutePilot.Contracts.Sources
import RoutePilot.Intake.Factory
import RoutePilot.Knowledge.Models

namespace RoutePilot.Intake

open Lib Contracts
open Knowledge (Checked noExtra)
open Planning (strip Hex newPublicId)

/-! ## The commands of the interface -/

/-- `RunCommand.message`. -/
abbrev Message := { s : String // IsText 1 20_000 s }

/-- `AskPayload`. -/
structure AskPayload where
  title : Option { s : String // IsText 1 160 s }
  locale : { s : String // IsText 2 32 s }
  destinationHint : Option { s : String // IsText 1 100 s }

/-- A text or `null`. -/
def nullableText (loc : String) (least most : ℕ) : Json → Checked (Option { s : String // IsText least most s })
  | .null => .ok none
  | v => (boundedText loc least most v).map some

/-- `AskPayload.model_validate`. -/
def askPayload (payload : Obj) : Checked AskPayload :=
  .seq (.seq (.seq (.seq (.ok fun title locale hint (_ : Unit) => ⟨title, locale, hint⟩)
    (optional payload "title" none fun loc => nullableText loc 1 160))
    (optional payload "locale" ⟨"zh-CN", by decide⟩ fun loc => boundedText loc 2 32))
    (optional payload "destination_hint" none fun loc => nullableText loc 1 100))
    (noExtra payload ["title", "locale", "destination_hint"])

/-! ## Agents and their requests -/

/-- `AgentInvocation`, with the contracts of its artifacts. -/
structure AgentInvocation where
  goal : { s : String // IsText 1 4_000 s }
  contracts : List String
  bounded : 1 ≤ contracts.length ∧ contracts.length ≤ 8

/-- `AgentInvocation.model_validate` of a dispatch. -/
def agentInvocation (goal : String) (contracts : List String) : Except PyError AgentInvocation := do
  let goal ← text "AgentInvocation" 1 4_000 goal
  check (1 ≤ contracts.length ∧ contracts.length ≤ 8) (.validationError "AgentInvocation") fun h => ⟨goal, contracts, h⟩

/-- `ResearchQuery(...)`, with its default filters and threshold. -/
def researchQuery (query claimScope corpusRevision : String) (topK : ℕ) (now : Time) :
    Except PyError (Knowledge.ResearchQuery ℚ) := do
  let query ← text "ResearchQuery" 1 2_000 query
  let claimScope ← text "ResearchQuery" 1 128 claimScope
  let corpusRevision ← text "ResearchQuery" 1 128 corpusRevision
  check (1 ≤ topK ∧ topK ≤ 20) (.validationError "ResearchQuery") fun h =>
    { query := query.1, claimScope := claimScope.1, corpusRevision := corpusRevision.1, filters := { validAt := now }
      topK, scoreThreshold := 1 / 20, topK_le := h }

theorem firstPage : 1 ≤ 1 ∧ 1 ≤ 100 := by decide

/-- `PlaceSearchRequest(...)`, with its default radius and page. -/
def placeSearchRequest (query city : String) (center : Option Provider.Coordinate) (limit : ℕ) :
    Except PyError Provider.PlaceSearchRequest := do
  let query ← text "PlaceSearchRequest" 1 100 query
  let city ← text "PlaceSearchRequest" 0 80 city
  check (1 ≤ limit ∧ limit ≤ 25) (.validationError "PlaceSearchRequest") fun h =>
    { query := query.1, city := some city.1, center, limit, query_length := query.2.2, radius_le := by decide
      codes_le := by decide, limit_le := h, page_le := firstPage }

/-- `Coordinate(...)` of a point. -/
def providerCoordinate (N : Numbers) (point : GeoPoint) : Except PyError Provider.Coordinate := do
  let system : Provider.CoordinateSystem ← match point.coordinateSystem with
    | .wgs84 => .ok .wgs84
    | .gcj02 => .ok .gcj02
    | .bd09 => .error (.validationError "Coordinate")
  check ((-180 ≤ N.float point.longitude ∧ N.float point.longitude ≤ 180) ∧
      -90 ≤ N.float point.latitude ∧ N.float point.latitude ≤ 90) (.validationError "Coordinate")
    fun h => ⟨N.float point.longitude, N.float point.latitude, system, h.1, h.2⟩

/-- The default of `corpus_revision`. -/
def defaultCorpusRevision : String := "routepilot-travel-zh@2026.07.2"

/-! ## A plan -/

/-- `top_k` and its default. -/
def defaultTopK : ℕ := 10

/-- The query and the place search of research, with the directive of a model if there is one. -/
def researchRequests (N : Numbers) (directive : Option { s : String // IsText 1 32 s }) (now : Time)
    (b : SourcedBrief) (goal : String) : Except PyError (Knowledge.ResearchQuery ℚ × Provider.PlaceSearchRequest) := do
  let query ← researchQuery (b.brief.destination.displayName.1 ++ " " ++ goal) "travel.destination"
    (pyTake 128 defaultCorpusRevision) (min 20 (max 3 defaultTopK)) now
  let placeQuery := match directive with
    | some d => d.1
    | none => pyTake 100 "景点"
  let center ← providerCoordinate N b.destination.location
  let search ← placeSearchRequest placeQuery b.brief.destination.displayName.1 (some center)
    (min 20 (max 3 defaultTopK))
  return (query, search)

/-- What a plan is worked on with. -/
structure PlanInputs where
  brief : SourcedBrief
  invocations : List AgentInvocation
  query : Knowledge.ResearchQuery ℚ
  search : Provider.PlaceSearchRequest

/-- The goals of the dispatches of a plan, with the contracts they carry. -/
def planDispatches (message : String) : List (String × List String) :=
  [(message, ["TripBrief@1"]),
    (message, ["TripBrief@1", "EvidenceBundle@1", "CandidateSet@1"]),
    ("独立校验候选行程，不修改方案", ["TripBrief@1", "ItineraryPlan@1", "EvidenceBundle@1"]),
    ("审查证据覆盖、来源冲突、假设与软风险，不修改方案",
      ["TripBrief@1", "ItineraryPlan@1", "EvidenceBundle@1", "ConstraintReport@1"])]

def planInvocations (message : String) : Except PyError (List AgentInvocation) :=
  (planDispatches message).mapM fun d => agentInvocation d.1 d.2

/-- What follows the brief of a plan. -/
def planInputsOf (N : Numbers) (directive : Option { s : String // IsText 1 32 s }) (now : Time) (message : Message)
    (brief : SourcedBrief) : Except PyError PlanInputs := do
  let invocations ← planInvocations message.1
  let (query, search) ← researchRequests N directive now brief message.1
  return { brief, invocations, query, search }

/-- Everything that is built from a plan and its request. -/
def planInputs (N : Numbers) (geocode : Provider.GeocodeRequest → GeocodeResult) (d : BriefDraws)
    (directive : Option { s : String // IsText 1 32 s }) (now : Time) (request : StructuredTripRequest)
    (message : Message) : Except BuildError PlanInputs :=
  match build N geocode d now request with
  | .error e => .error e
  | .ok brief =>
    match planInputsOf N directive now message brief with
    | .error e => .error (.py e)
    | .ok inputs => .ok inputs

/-! ## A question -/

/-- The values that are false in a condition. -/
def falsy : Json → Bool
  | .null => true
  | .bool b => !b
  | .int z => z == 0
  | .float q => q == 0
  | .nonfinite => false
  | .str s => s == ""
  | .arr items => items.isEmpty
  | .obj fields => fields.isEmpty

/-- `str(payload.get("locale") or "zh-CN")[:32]` -/
def localeOf (R : Readers) (payload : Obj) : String :=
  pyTake 32 (match payload.get? "locale" with
    | some v => if falsy v then "zh-CN" else pyStr R v
    | none => "zh-CN")

/-- The hint, stripped, unless nothing is left of it. -/
def hintOf (payload : Obj) : Option String :=
  match payload.get? "destination_hint" with
  | some (.str s) => if pyStrip s = "" then none else some (pyStrip s)
  | _ => none

/-- The identifiers of a question. -/
structure QuestionDraws where
  question : Hex 13 × Hex 20
  run : Hex 13 × Hex 20
  actorDigest : Hex 24

/-- The user who asks. -/
def askingActor (digest : Hex 24) : Except PyError ActorRef := do
  let actorId ← identifier "ActorRef" ("user:" ++ digest.text)
  return ⟨.user, actorId⟩

/-- The traveler as a source. -/
def travelerSource (d : QuestionDraws) (now : Time) : SourceFields where
  sourceId := "source:user:" ++ pyTake 96 (pyLower (newPublicId "run" d.run.1 d.run.2))
  kind := .user
  name := "旅行者提问"
  version := "1"
  retrievedAt := now

/-- `TravelQuestion(...)` of a command. -/
def questionOf (R : Readers) (d : QuestionDraws) (now : Time) (message : Message) (payload : Obj) :
    Except PyError TravelQuestion := do
  let createdBy ← askingActor d.actorDigest
  let source ← sourceRef (fun _ => none) (travelerSource d now)
  travelQuestion
    { artifactId := newPublicId "question" d.question.1 d.question.2, createdAt := now, createdBy
      reason := "User submitted a lightweight travel question", question := message.1
      locale := localeOf R payload, destinationHint := hintOf payload, askedAt := now, source }

/-- The place search of a question with a hint. -/
def hintSearch (question : TravelQuestion) : Except PyError (Option Provider.PlaceSearchRequest) :=
  match question.destinationHint with
  | none => .ok none
  | some hint => (placeSearchRequest (pyTake 100 question.question.1) hint.1 none 5).map some

/-- What a question is answered with. -/
structure AskInputs where
  question : TravelQuestion
  invocation : AgentInvocation
  query : Knowledge.ResearchQuery ℚ
  search : Option Provider.PlaceSearchRequest

/-- Everything that is built from a question. -/
def askInputs (R : Readers) (d : QuestionDraws) (now : Time) (message : Message) (payload : Obj) :
    Except PyError AskInputs := do
  let question ← questionOf R d now message payload
  let invocation ← agentInvocation message.1 ["TravelQuestion@1"]
  let query ← researchQuery question.question.1 "travel.answer" defaultCorpusRevision 6 now
  let search ← hintSearch question
  return { question, invocation, query, search }

end RoutePilot.Intake
