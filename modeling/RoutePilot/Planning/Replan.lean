/-
  Replanning: a patch of the brief of a pinned snapshot (`replanning.py`, with
  the request models of `models.py`).

  `str.casefold` is a parameter: nothing here depends on how it folds.  An
  identifier is drawn for each thing the patch makes, and `ReplanCall` holds the
  draws of one call.
-/
import RoutePilot.Contracts.Brief

namespace RoutePilot.Planning

open Lib Contracts

/-! ## Generated identifiers -/

/-- A number of at most `width` hexadecimal digits. -/
structure Hex (width : ℕ) where
  value : ℕ
  lt : value < 16 ^ width

/-- `width` digits, as `secrets.token_hex` and `{:0{width}x}` write them. -/
def Hex.text {width : ℕ} (h : Hex width) : String :=
  let digits := Nat.toDigits 16 h.value
  String.ofList (List.replicate (width - digits.length) '0' ++ digits)

/-- `new_public_id`. -/
def newPublicId (kind : String) (millis : Hex 13) (token : Hex 20) : String :=
  kind ++ "_" ++ millis.text ++ "_" ++ token.text

/-! ## Patches -/

structure ReplanDatePatch where
  startDate : Day
  endDate : Day
  le : startDate.ordinal ≤ endDate.ordinal
  window : endDate.ordinal - startDate.ordinal ≤ 30

structure ReplanBudgetPatch where
  minAmount : DecimalAmount
  maxAmount : DecimalAmount
  currency : Option CurrencyCode := none
  le : minAmount.value ≤ maxAmount.value

section
variable (casefold : String → String)

/-- `{value.casefold() for value in values}`, as a list. -/
def folded (values : List ShortText) : List String := values.map (casefold ·.1)

structure ReplanPreferencePatch where
  add : List ShortText := []
  remove : List ShortText := []
  bounded : add.length ≤ 20 ∧ remove.length ≤ 20
  unique : (folded casefold add).Nodup ∧ (folded casefold remove).Nodup

/-- A patch that the API accepts. -/
structure ReplanPatch where
  dates : Option ReplanDatePatch := none
  budget : Option ReplanBudgetPatch := none
  preferences : Option (ReplanPreferencePatch casefold) := none
  excludePlaces : List ShortText := []
  retainPlaces : List ShortText := []
  bounded : excludePlaces.length ≤ 50 ∧ retainPlaces.length ≤ 50
  unique : (folded casefold excludePlaces).Nodup ∧ (folded casefold retainPlaces).Nodup
  /-- `require_change` -/
  change : dates.isSome ∨ budget.isSome ∨ (∃ p ∈ preferences, p.add ≠ [] ∨ p.remove ≠ []) ∨
    excludePlaces ≠ [] ∨ retainPlaces ≠ []
  disjoint : (folded casefold excludePlaces).Disjoint (folded casefold retainPlaces)

/-- What an identifier is drawn for. -/
inductive IdUse where
  | artifact
  | date
  | budget
  | preference (value : String)
  | exclude (place : String)
  | retain (place : String)
  deriving DecidableEq

/-- One call: the patch, the digest of the user's id, and the identifiers it draws. -/
structure ReplanCall where
  patch : ReplanPatch casefold
  userDigest : Hex 32
  millis : IdUse → Hex 13
  token : IdUse → Hex 20

end

/-! ## `apply_replan_patch` -/

variable {casefold : String → String}

/-- `_actor`. -/
def actor (digest : Hex 32) : Except PyError ActorRef :=
  check (isIdentifier ("user:" ++ digest.text)) (.validationError "ActorRef")
    fun h => ⟨.user, ⟨"user:" ++ digest.text, h⟩⟩

theorem constraintPriority : 1 ≤ 5 ∧ 5 ≤ 5 := by decide

/-- `ConstraintSpec(...)` with the values every new constraint has. -/
def newConstraint (constraintId : String) (constraintType : ConstraintType) (description : String) :
    Except PyError ConstraintSpec :=
  check (isIdentifier constraintId ∧ IsText 1 2000 description) (.validationError "ConstraintSpec")
    fun h => { constraintId := ⟨constraintId, h.1⟩, constraintType, hard := true, priority := 5,
               description := ⟨description, h.2⟩, bounded := constraintPriority }

theorem preferencePriority : 1 ≤ 3 ∧ 3 ≤ 5 := by decide

/-- `TravelPreference(...)` with the values every new preference has. -/
def newPreference (preferenceId : String) (value : ShortText) : Except PyError TravelPreference :=
  check (isIdentifier preferenceId) (.validationError "TravelPreference")
    fun h => { preferenceId := ⟨preferenceId, h⟩, category := .other, value, priority := 3,
               bounded := preferencePriority }

namespace ReplanCall

def constraintId (call : ReplanCall casefold) (use : IdUse) : String :=
  newPublicId "constraint" (call.millis use) (call.token use)

def preferenceId (call : ReplanCall casefold) (value : String) : String :=
  newPublicId "preference" (call.millis (.preference value)) (call.token (.preference value))

def artifactId (call : ReplanCall casefold) : String :=
  newPublicId "artifact" (call.millis .artifact) (call.token .artifact)

end ReplanCall

def ReplanDatePatch.description (d : ReplanDatePatch) : String :=
  "旅行日期为 " ++ d.startDate.isoformat ++ " 至 " ++ d.endDate.isoformat ++ "。"

def budgetDescription (budget : MoneyRange) : String :=
  "总预算为 " ++ budget.minAmount.1 ++ "–" ++ budget.maxAmount.1 ++ " " ++ budget.currency.1 ++ "。"

/-- The date window and the constraints under `patch.dates`. -/
def patchDates (call : ReplanCall casefold) (brief : TripBrief) :
    Except PyError (TripDateRange × List ConstraintSpec) :=
  match call.patch.dates with
  | none => .ok (brief.dateWindow, brief.constraints)
  | some dates => do
    let window ← tripDateRange dates.startDate dates.endDate brief.dateWindow.timezone
    let spec ← newConstraint (call.constraintId .date) .date dates.description
    return (window, brief.constraints.filter (·.constraintType ≠ .date) ++ [spec])

/-- The budget and the constraints under `patch.budget`. -/
def patchBudget (call : ReplanCall casefold) (brief : TripBrief) (constraints : List ConstraintSpec) :
    Except PyError (MoneyRange × List ConstraintSpec) :=
  match call.patch.budget with
  | none => .ok (brief.budget, constraints)
  | some patch => do
    let budget ← moneyRange patch.minAmount patch.maxAmount
      (patch.currency.getD brief.budget.currency) brief.budget.basis
    let spec ← newConstraint (call.constraintId .budget) .budget (budgetDescription budget)
    return (budget, constraints.filter (·.constraintType ≠ .budget) ++ [spec])

/-- The loop over `patch.preferences.add`; `known` are the values there so far. -/
def addPreferences (call : ReplanCall casefold) :
    List ShortText → List TravelPreference → List String → Except PyError (List TravelPreference)
  | [], preferences, _ => .ok preferences
  | value :: values, preferences, known =>
    if casefold value.1 ∈ known then addPreferences call values preferences known
    else do
      let preference ← newPreference (call.preferenceId value.1) value
      addPreferences call values (preferences ++ [preference]) (casefold value.1 :: known)

/-- The preferences under `patch.preferences`. -/
def patchPreferences (call : ReplanCall casefold) (brief : TripBrief) :
    Except PyError (List TravelPreference) :=
  match call.patch.preferences with
  | none => .ok brief.preferences
  | some patch =>
    let kept := brief.preferences.filter (casefold ·.value.1 ∉ folded casefold patch.remove)
    addPreferences call patch.add kept (kept.map (casefold ·.value.1))

/-- The loop over `patch.exclude_places` or `patch.retain_places`. -/
def addPlaces (call : ReplanCall casefold) (constraintType : ConstraintType) (use : String → IdUse) :
    List ShortText → List ConstraintSpec → List String →
      Except PyError (List ConstraintSpec × List String)
  | [], constraints, existing => .ok (constraints, existing)
  | place :: places, constraints, existing =>
    if casefold place.1 ∈ existing then addPlaces call constraintType use places constraints existing
    else do
      let spec ← newConstraint (call.constraintId (use place.1)) constraintType place.1
      addPlaces call constraintType use places (constraints ++ [spec]) (casefold place.1 :: existing)

/-- The reason that a patched brief gives. -/
def replanReason : String := "基于固定版本 TripSnapshot 应用用户确认的结构化重规划补丁。"

/-- `apply_replan_patch`: a copy of the brief, which is not checked. -/
def applyReplanPatch (brief : TripBrief) (call : ReplanCall casefold) : Except PyError TripBrief := do
  let (dateWindow, constraints) ← patchDates call brief
  let (budget, constraints) ← patchBudget call brief constraints
  let preferences ← patchPreferences call brief
  let existing := constraints.map (casefold ·.description.1)
  let (constraints, existing) ←
    addPlaces call .avoid .exclude call.patch.excludePlaces constraints existing
  let (constraints, _) ← addPlaces call .visit .retain call.patch.retainPlaces constraints existing
  let createdBy ← actor call.userDigest
  return { brief with
    artifactId := call.artifactId, version := 1, createdBy, reason := replanReason,
    dateWindow, budget, preferences, constraints }

/-! ## What a call makes -/

section

theorem isIdentifierChar_digitChar : ∀ d < 16, isIdentifierChar (Nat.digitChar d) := by decide

theorem isIdentifierChar_toDigits {n : ℕ} {c : Char} (h : c ∈ Nat.toDigits 16 n) :
    isIdentifierChar c := by
  induction n using Nat.strongRecOn with
  | ind n ih =>
    rw [Nat.toDigits_eq_if (by decide)] at h
    split at h
    · next hn =>
      rw [List.mem_singleton.1 h]
      exact isIdentifierChar_digitChar n hn
    · rcases List.mem_append.1 h with h | h
      · exact ih (n / 16) (by omega) h
      · rw [List.mem_singleton.1 h]
        exact isIdentifierChar_digitChar _ (Nat.mod_lt _ (by decide))

variable {width : ℕ}

theorem Hex.text_length (hw : 0 < width) (h : Hex width) : h.text.length = width := by
  have := (Nat.length_toDigits_le_iff (n := h.value) (k := width) (b := 16) (by decide) hw).2 h.lt
  simp only [text, String.length_ofList, List.length_append, List.length_replicate]
  omega

theorem Hex.isIdentifierChar_text (h : Hex width) {c : Char} (hc : c ∈ h.text.toList) :
    isIdentifierChar c := by
  simp only [text, String.toList_ofList, List.mem_append] at hc
  rcases hc with hc | hc
  · rw [List.eq_of_mem_replicate hc]; decide
  · exact isIdentifierChar_toDigits hc

/-- Generated identifiers are identifiers. -/
theorem isIdentifier_newPublicId {kind : String} (millis : Hex 13) (token : Hex 20)
    (hhead : kind.toList.head?.any Char.isLower) (hall : kind.toList.all isIdentifierChar)
    (hlen : kind.length ≤ 93) : isIdentifier (newPublicId kind millis token) := by
  have hm := millis.text_length (by decide)
  have ht := token.text_length (by decide)
  have hlist : (newPublicId kind millis token).toList =
      kind.toList ++ '_' :: (millis.text.toList ++ '_' :: token.text.toList) := by
    simp [newPublicId]
  have hsize : (newPublicId kind millis token).length = kind.length + 35 := by
    simp only [newPublicId, String.length_append, hm, ht]
    rfl
  simp only [isIdentifier, hsize, hlist, Bool.and_eq_true, decide_eq_true_eq]
  refine ⟨⟨⟨?_, List.all_eq_true.2 fun c hc => ?_⟩, by omega⟩, by omega⟩
  · cases hk : kind.toList with
    | nil => rw [hk] at hhead; cases hhead
    | cons c cs => simpa [hk] using hhead
  · simp only [List.mem_append, List.mem_cons] at hc
    rcases hc with hc | rfl | hc | rfl | hc
    · exact List.all_eq_true.1 hall c hc
    · decide
    · exact millis.isIdentifierChar_text hc
    · decide
    · exact token.isIdentifierChar_text hc

end

end RoutePilot.Planning
