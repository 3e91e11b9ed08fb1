/-
  The trip brief (`TripBrief` and its parts in `routepilot_contracts/artifacts.py`).

  `model_copy` makes a brief without checking it, so a `TripBrief` is what its
  fields say and `TripBrief.Valid` what the contract `TripBrief@1` asks of them.
-/
import Mathlib.Tactic.MkIffOfInductiveProp
import RoutePilot.Contracts.Common

namespace RoutePilot.Contracts

open Lib

structure TravelerGroup where
  adults : ℕ
  childrenAges : List ℕ := []
  seniors : ℕ := 0
  rooms : ℕ := 0
  accessibilityNeeds : List ShortText := []
  bounded : adults ≤ 99 ∧ childrenAges.length ≤ 30 ∧ (∀ age ∈ childrenAges, age ≤ 17) ∧
    seniors ≤ 99 ∧ rooms ≤ 50 ∧ accessibilityNeeds.length ≤ 20
  traveler : 1 ≤ adults + childrenAges.length + seniors
  deriving DecidableEq

inductive PreferenceCategory where
  | pace
  | food
  | culture
  | nature
  | shopping
  | lodging
  | mobility
  | other
  deriving DecidableEq, Repr

structure TravelPreference where
  preferenceId : Identifier
  category : PreferenceCategory
  value : ShortText
  priority : ℕ
  bounded : 1 ≤ priority ∧ priority ≤ 5
  deriving DecidableEq

inductive ConstraintType where
  | date
  | budget
  | mobility
  | dietary
  | lodging
  | visit
  | avoid
  | other
  deriving DecidableEq, Repr

structure ConstraintSpec where
  constraintId : Identifier
  constraintType : ConstraintType
  hard : Bool
  priority : ℕ
  description : NonEmptyText
  bounded : 1 ≤ priority ∧ priority ≤ 5
  deriving DecidableEq

inductive ClarificationStatus where
  | open
  | answered
  | dismissed
  deriving DecidableEq, Repr

structure ClarificationItem where
  questionId : Identifier
  prompt : NonEmptyText
  required : Bool
  status : ClarificationStatus
  answer : Option NonEmptyText := none
  answered : status = .answered ↔ answer.isSome
  deriving DecidableEq

inductive ActorType where
  | user
  | agent
  | service
  | migration
  deriving DecidableEq, Repr

structure ActorRef where
  actorType : ActorType
  actorId : Identifier
  deriving DecidableEq

/-- A brief, as its fields are set. -/
structure TripBrief where
  artifactId : String
  schemaVersion : ℕ := 1
  version : ℕ
  createdBy : ActorRef
  reason : String
  destination : PlaceRef
  dateWindow : TripDateRange
  travelers : TravelerGroup
  budget : MoneyRange
  preferences : List TravelPreference := []
  constraints : List ConstraintSpec := []
  clarificationItems : List ClarificationItem := []
  deriving DecidableEq

/-- What the contract `TripBrief@1` asks. -/
@[mk_iff]
structure TripBrief.Valid (b : TripBrief) : Prop where
  artifactId : isIdentifier b.artifactId
  schemaVersion : b.schemaVersion = 1
  version : 1 ≤ b.version
  reason : IsText 1 2000 b.reason
  preferences : b.preferences.length ≤ 50
  constraints : b.constraints.length ≤ 100
  clarificationItems : b.clarificationItems.length ≤ 30
  timezone : b.destination.timezone = b.dateWindow.timezone

instance (b : TripBrief) : Decidable b.Valid := decidable_of_iff' _ b.valid_iff

/-- `validate_contract("TripBrief@1", ...)` on the dumped fields of a brief. -/
def validateTripBrief (b : TripBrief) : Except PyError TripBrief :=
  check b.Valid (.validationError "TripBrief") fun _ => b

end RoutePilot.Contracts
