/-
  The approved places (`place_catalog.py`) and the candidates that research makes
  of them (`ResearchA2AExecutor` in `a2a_executors.py`).

  Modelled is the branch of `_convert` in which no provider returned a place:
  evidence of the knowledge base and of the weather comes in from outside.  The
  fields of a place that only describe it (address, coordinates, summary, tags)
  are left out.
-/
import RoutePilot.Planning.Planner

namespace RoutePilot.Planning

open Lib Contracts

structure CatalogPlace where
  slug : String
  name : String
  sourceName : String
  durationMinutes : ℤ
  costMin : String
  costMax : String
  closedWeekdays : List ℕ := []
  deriving DecidableEq

/-- `BEIJING_PLACES`. -/
def beijingPlaces : List CatalogPlace :=
  [⟨"temple-of-heaven", "天坛公园", "天坛公园官网", 150, "15", "34", []⟩,
    ⟨"qianmen-dashilar", "前门大街与大栅栏历史街区", "首都之窗·前门大栅栏商圈", 90, "0", "0", []⟩,
    ⟨"jingshan-park", "景山公园", "北京市景山公园官网", 75, "2", "10", []⟩,
    ⟨"shichahai", "什刹海历史文化街区", "首都之窗·什刹海历史文化旅游风景区", 120, "0", "0", []⟩,
    ⟨"beihai-park", "北海公园", "北京市公园管理中心·北海公园", 120, "5", "20", []⟩,
    ⟨"forbidden-city", "故宫博物院", "故宫博物院官方导览", 180, "40", "60", [0]⟩,
    ⟨"national-museum-china", "中国国家博物馆", "中国国家博物馆官方服务页", 150, "0", "0", [0]⟩]

/-! ## Texts that enter a contract -/

/-- The text without what a predicate holds of at its ends. -/
def stripBy (drop : Char → Bool) (s : String) : String :=
  String.ofList ((s.toList.dropWhile drop).rdropWhile drop)

/-- `str_strip_whitespace` of the contracts. -/
def strip (s : String) : String := stripBy isWhitespace s

/-- `s.strip()`, which also strips the separators of ASCII. -/
def pythonStrip (s : String) : String :=
  stripBy (fun c => isWhitespace c || (0x1C ≤ c.toNat && c.toNat ≤ 0x1F)) s

/-! ## `ApprovedPlaceCatalog` -/

namespace CatalogPlace

/-- `f"place:catalog:{self.slug}"` -/
def placeId (place : CatalogPlace) : String := "place:catalog:" ++ place.slug

/-- `place_ref`. -/
def placeRef (place : CatalogPlace) : Except PyError PlaceRef :=
  check (isIdentifier place.placeId ∧ IsText 1 256 (strip place.name)) (.validationError "PlaceRef")
    fun h => ⟨⟨place.placeId, h.1⟩, ⟨strip place.name, h.2⟩, "Asia/Shanghai"⟩

/-- `estimated_cost`. -/
def estimatedCost (place : CatalogPlace) : Except PyError MoneyRange := do
  let minAmount ← decimalAmount (strip place.costMin)
  let maxAmount ← decimalAmount (strip place.costMax)
  moneyRange minAmount maxAmount ⟨"CNY", isCurrencyCode_cny⟩ .perPerson

end CatalogPlace

/-- `ApprovedPlaceCatalog.search`. -/
def search (catalog : List CatalogPlace) (destination : String) (localDate : Day) (limit : ℤ) :
    List CatalogPlace :=
  if pythonStrip destination = "北京" ∨ pythonStrip destination = "北京市" then
    (catalog.filter (localDate.weekday ∉ ·.closedWeekdays)).take (max 1 (min limit 8)).toNat
  else []

/-! ## `ResearchA2AExecutor` -/

/-- What research has besides the catalog, and the identifiers it draws. -/
structure Research where
  topK : ℤ := 10
  /-- evidence of the knowledge base, with its citations and conflicts -/
  retrieved : List EvidenceItem := []
  retrievedCitations : List Citation := []
  conflicts : List EvidenceConflict := []
  /-- evidence of the weather -/
  weather : List EvidenceItem := []
  weatherCitations : List Citation := []
  evidenceToken : ℕ → Hex 24
  citationToken : ℕ → Hex 24
  candidateToken : ℕ → Hex 24
  bundleToken : Hex 24
  setToken : Hex 24

namespace Research

variable (r : Research)

/-- `catalog_places` -/
def catalogPlaces (catalog : List CatalogPlace) (brief : TripBrief) : List CatalogPlace :=
  search catalog brief.destination.displayName.1 brief.dateWindow.startDate (min 8 (max 4 r.topK))

/-- `f"evidence_catalog_{index}_{new_id('ev')}"` -/
def evidenceId (index : ℕ) : String :=
  "evidence_catalog_" ++ toString index ++ "_" ++ newId "ev" (r.evidenceToken index)

def evidenceItem (index : ℕ) (place : CatalogPlace) : Except PyError EvidenceItem :=
  check (isIdentifier (r.evidenceId index) ∧ IsText 1 256 (strip place.name)) (.validationError "EvidenceItem")
    fun h => ⟨⟨_, h.1⟩, ⟨_, h.2⟩, .unknown⟩

def citation (index : ℕ) (place : CatalogPlace) : Except PyError Citation :=
  let citationId := "citation_catalog_" ++ toString index ++ "_" ++ newId "citation" (r.citationToken index)
  let locator := strip ("official-place:" ++ place.slug)
  check (isIdentifier citationId ∧ isIdentifier (r.evidenceId index) ∧ IsText 1 256 (strip place.sourceName) ∧
      IsText 1 512 locator) (.validationError "Citation")
    fun h => ⟨⟨_, h.1⟩, ⟨_, h.2.1⟩, ⟨_, h.2.2.1⟩, ⟨_, h.2.2.2⟩⟩

def candidate (index : ℕ) (place : CatalogPlace) : Except PyError Candidate := do
  let placeRef ← place.placeRef
  let estimatedCost ← place.estimatedCost
  check (isIdentifier (newId "candidate" (r.candidateToken index)) ∧ isIdentifier (r.evidenceId index) ∧
      0 < place.durationMinutes ∧ place.durationMinutes ≤ 10_080) (.validationError "Candidate")
    fun h =>
      { candidateId := ⟨_, h.1⟩, placeRef, evidenceRefs := [⟨_, h.2.1⟩]
        estimatedCost := some estimatedCost
        recommendedDurationMinutes := some place.durationMinutes.toNat
        referenced := by simp
        duration := by
          intro minutes hminutes
          obtain rfl := Option.mem_some_iff.1 hminutes
          omega }

/-- The loop over the catalog places. -/
def convertPlaces : ℕ → List CatalogPlace →
    Except PyError (List EvidenceItem × List Citation × List Candidate)
  | _, [] => .ok ([], [], [])
  | index, place :: places => do
    let item ← r.evidenceItem index place
    let citation ← r.citation index place
    let candidate ← r.candidate index place
    let (items, citations, candidates) ← convertPlaces (index + 1) places
    return (item :: items, citation :: citations, candidate :: candidates)

/-- `EvidenceBundle(...)`. -/
def bundle (brief : TripBrief) (evidence : List EvidenceItem) (citations : List Citation) :
    Except PyError EvidenceBundle :=
  check (isIdentifier (newId "artifact" r.bundleToken) ∧
      (1 ≤ evidence.length ∧ evidence.length ≤ 1000 ∧ citations.length ≤ 1000 ∧ r.conflicts.length ≤ 200) ∧
      (evidence.map (·.evidenceId)).Nodup ∧
      (∀ c ∈ citations, c.evidenceId ∈ evidence.map (·.evidenceId)) ∧
      ∀ c ∈ r.conflicts, ∀ ref ∈ c.evidenceRefs, ref ∈ evidence.map (·.evidenceId))
    (.validationError "EvidenceBundle")
    fun h =>
      { artifactId := ⟨_, h.1⟩, version := 1, timezone := brief.destination.timezone, evidence, citations
        conflicts := r.conflicts, positive := firstVersion, bounded := h.2.1, unique := h.2.2.1
        cited := h.2.2.2.1, known := h.2.2.2.2 }

/-- `CandidateSet(...)`. -/
def candidateSet (brief : TripBrief) (bundle : EvidenceBundle) (candidates : List Candidate) :
    Except PyError CandidateSet := do
  let tripBriefRef ← artifactRef brief.artifactId brief.version
  check (isIdentifier (newId "artifact" r.setToken) ∧
      (1 ≤ candidates.length ∧ candidates.length ≤ 500) ∧ (candidates.map (·.candidateId)).Nodup ∧
      ∀ c ∈ candidates, c.placeRef.timezone = bundle.timezone) (.validationError "CandidateSet")
    fun h =>
      { artifactId := ⟨_, h.1⟩, version := 1, tripBriefRef
        evidenceBundleRef := ⟨bundle.artifactId, bundle.version, bundle.positive⟩
        timezone := bundle.timezone, candidates, positive := firstVersion, bounded := h.2.1
        unique := h.2.2.1, zoned := h.2.2.2 }

/-- `_convert`, where the catalog has places and the providers have none. -/
def convert (catalog : List CatalogPlace) (brief : TripBrief) :
    Except PyError (EvidenceBundle × CandidateSet) := do
  let (items, citations, candidates) ← r.convertPlaces 0 (r.catalogPlaces catalog brief)
  let bundle ← r.bundle brief (r.retrieved ++ items ++ r.weather)
    (r.retrievedCitations ++ citations ++ r.weatherCitations)
  let candidateSet ← r.candidateSet brief bundle candidates
  return (bundle, candidateSet)

end Research

/-- Research with the catalog, and then the planner. -/
def planFromCatalog (casefold : String → String) (catalog : List CatalogPlace) (r : Research) (p : Planner)
    (brief : TripBrief) : Except PyError ItineraryPlan := do
  let (bundle, candidateSet) ← r.convert catalog brief
  buildCandidate casefold p brief candidateSet bundle

end RoutePilot.Planning
