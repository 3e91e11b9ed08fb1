/-
  What a replan makes of a brief.

  `applyReplanPatch_eq` computes the patched brief: a replan never raises, keeps
  the constraints it does not replace, and appends one constraint for a date
  patch, one for a budget patch, and one for each place whose description is not
  there yet.
-/
import RoutePilot.Planning.Replan

namespace RoutePilot.Planning

open Lib Contracts

variable {casefold : String → String}

/-! ## Texts -/

theorem padNat_length (w n : ℕ) : (padNat w n).length = max w n.repr.length := by
  simp only [padNat, Nat.toString_eq_repr, String.length_append, String.length_ofList,
    List.length_replicate]
  omega

theorem monthDay_le (y : ℕ) : ∀ fuel m n, (monthDay y fuel m n).1 ≤ m + fuel ∧
    (monthDay y fuel m n).2 ≤ n + 1
  | 0, m, n => by simp [monthDay]
  | fuel + 1, m, n => by
    unfold monthDay
    split
    · exact ⟨by omega, le_rfl⟩
    · obtain ⟨hm, hd⟩ := monthDay_le y fuel (m + 1) (n - daysInMonth y m)
      exact ⟨by omega, by omega⟩

theorem ordToYmd_lt {n : ℕ} (h : n ≤ maxOrdinal) : (ordToYmd n).1 < 10 ^ 5 ∧
    (ordToYmd n).2.1 < 10 ^ 5 ∧ (ordToYmd n).2.2 < 10 ^ 5 := by
  unfold maxOrdinal at h
  unfold ordToYmd
  simp only
  split
  · simp only
    omega
  · obtain ⟨hm, hd⟩ := monthDay_le
      ((n - 1) / 146097 * 400 + (n - 1) % 146097 / 36524 * 100 +
        (n - 1) % 146097 % 36524 / 1461 * 4 + (n - 1) % 146097 % 36524 % 1461 / 365 + 1) 11 1
      ((n - 1) % 146097 % 36524 % 1461 % 365)
    refine ⟨?_, ?_, ?_⟩
    · simp only
      omega
    · exact hm.trans_lt (by decide)
    · refine hd.trans_lt ?_
      have : (n - 1) % 146097 % 36524 % 1461 % 365 < 365 := Nat.mod_lt _ (by decide)
      omega

theorem isoformat_length (d : Day) : d.isoformat.length ≤ 17 := by
  obtain ⟨hy, hm, hd⟩ := ordToYmd_lt d.last
  have hsize : ∀ {n : ℕ}, n < 10 ^ 5 → n.repr.length ≤ 5 :=
    fun h => (Nat.length_repr_le_iff (by decide)).2 h
  have := hsize hy
  have := hsize hm
  have := hsize hd
  simp only [Day.isoformat, Date.isoformat, String.length_append, padNat_length]
  have : "-".length = 1 := rfl
  omega

theorem ReplanDatePatch.isText (d : ReplanDatePatch) : IsText 1 2000 d.description := by
  have hhead : "旅行日期为 ".toList = '旅' :: "行日期为 ".toList := by decide
  have hlast : "。".toList = ['。'] := by decide
  have hstart := isoformat_length d.startDate
  have hend := isoformat_length d.endDate
  unfold description
  refine isText_of_ends '旅' '。'
    ("行日期为 ".toList ++ d.startDate.isoformat.toList ++ " 至 ".toList ++
      d.endDate.isoformat.toList) ?_ (by decide) (by decide) ?_
  · simp only [String.toList_append, hhead, hlast, List.cons_append]
  · have : "旅行日期为 ".length = 6 := by decide
    have : " 至 ".length = 3 := by decide
    have : "。".length = 1 := by decide
    simp only [String.length_append]
    omega

theorem isText_budgetDescription (budget : MoneyRange) : IsText 1 2000 (budgetDescription budget) := by
  have hhead : "总预算为 ".toList = '总' :: "预算为 ".toList := by decide
  have hlast : "。".toList = ['。'] := by decide
  have hmin := budget.minAmount.2
  have hmax := budget.maxAmount.2
  have hcurrency := budget.currency.2
  simp only [isDecimalAmount, Bool.and_eq_true, decide_eq_true_eq] at hmin hmax
  simp only [isCurrencyCode, Bool.and_eq_true, beq_iff_eq] at hcurrency
  unfold budgetDescription
  refine isText_of_ends '总' '。'
    ("预算为 ".toList ++ budget.minAmount.1.toList ++ "–".toList ++
      budget.maxAmount.1.toList ++ " ".toList ++ budget.currency.1.toList) ?_ (by decide) (by decide) ?_
  · simp only [String.toList_append, hhead, hlast, List.cons_append]
  · have : "总预算为 ".length = 5 := by decide
    have : "–".length = 1 := by decide
    have : " ".length = 1 := by decide
    have : "。".length = 1 := by decide
    simp only [String.length_append]
    omega

/-! ## What a call makes -/

namespace ReplanCall

theorem isIdentifier_constraintId (call : ReplanCall casefold) (use : IdUse) :
    isIdentifier (call.constraintId use) :=
  isIdentifier_newPublicId _ _ (by decide) (by decide) (by decide)

theorem isIdentifier_preferenceId (call : ReplanCall casefold) (value : String) :
    isIdentifier (call.preferenceId value) :=
  isIdentifier_newPublicId _ _ (by decide) (by decide) (by decide)

theorem isIdentifier_artifactId (call : ReplanCall casefold) : isIdentifier call.artifactId :=
  isIdentifier_newPublicId _ _ (by decide) (by decide) (by decide)

/-- The constraint a call makes, of a type and with a description. -/
def spec (call : ReplanCall casefold) (constraintType : ConstraintType) (use : IdUse)
    (description : NonEmptyText) : ConstraintSpec :=
  { constraintId := ⟨call.constraintId use, call.isIdentifier_constraintId use⟩, constraintType,
    hard := true, priority := 5, description, bounded := constraintPriority }

/-- The constraint of a place. -/
def placeSpec (call : ReplanCall casefold) (constraintType : ConstraintType) (use : String → IdUse)
    (place : ShortText) : ConstraintSpec :=
  call.spec constraintType (use place.1)
    ⟨place.1, place.2.1, place.2.2.1, place.2.2.2.trans (by decide)⟩

def preferenceSpec (call : ReplanCall casefold) (value : ShortText) : TravelPreference :=
  { preferenceId := ⟨call.preferenceId value.1, call.isIdentifier_preferenceId value.1⟩
    category := .other, value, priority := 3, bounded := preferencePriority }

end ReplanCall

variable (call : ReplanCall casefold) (brief : TripBrief)

theorem newConstraint_spec (constraintType : ConstraintType) (use : IdUse) (description : NonEmptyText) :
    newConstraint (call.constraintId use) constraintType description.1 =
      .ok (call.spec constraintType use description) :=
  check_pos ⟨call.isIdentifier_constraintId use, description.2⟩

theorem newPreference_spec (value : ShortText) :
    newPreference (call.preferenceId value.1) value = .ok (call.preferenceSpec value) :=
  check_pos (call.isIdentifier_preferenceId value.1)

theorem actor_ok (digest : Hex 32) : ∃ a, actor digest = .ok a := by
  have hid : isIdentifier ("user:" ++ digest.text) := by
    have hlen := digest.text_length (by decide)
    have hhead : "user:".toList = ['u', 's', 'e', 'r', ':'] := by decide
    have : "user:".length = 5 := by decide
    simp only [isIdentifier, String.length_append, String.toList_append, hhead, Bool.and_eq_true,
      decide_eq_true_eq]
    refine ⟨⟨⟨by rfl, List.all_eq_true.2 fun c hc => ?_⟩, by omega⟩, by omega⟩
    rcases List.mem_append.1 hc with hc | hc
    · exact List.all_eq_true.1 (by decide : ['u', 's', 'e', 'r', ':'].all isIdentifierChar = true) c hc
    · exact digest.isIdentifierChar_text hc
  exact ⟨_, check_pos hid⟩

/-! ### Places and preferences -/

/-- The descriptions of constraints, folded. -/
def descriptions (casefold : String → String) (constraints : List ConstraintSpec) : List String :=
  constraints.map (casefold ·.description.1)

/-- The constraints that a list of places adds: those of the places not described yet. -/
def addedPlaces (constraintType : ConstraintType) (use : String → IdUse) (places : List ShortText)
    (existing : List String) : List ConstraintSpec :=
  (places.filter (casefold ·.1 ∉ existing)).map (call.placeSpec constraintType use)

/-- Places whose folded names are not repeated do not see each other's constraints. -/
theorem filter_notMem_cons {α : Type} {f : α → String} {a : α} {as : List α} {existing : List String}
    (h : f a ∉ as.map f) :
    as.filter (f · ∉ f a :: existing) = as.filter (f · ∉ existing) := by
  refine List.filter_congr fun b hb => ?_
  have hne : f b ≠ f a := fun he => h (he ▸ List.mem_map_of_mem hb)
  simp [hne]

theorem addPlaces_eq (constraintType : ConstraintType) (use : String → IdUse) :
    ∀ (places : List ShortText) (constraints : List ConstraintSpec) (existing : List String),
      (folded casefold places).Nodup →
      ∃ existing', addPlaces call constraintType use places constraints existing =
        .ok (constraints ++ addedPlaces call constraintType use places existing, existing') ∧
        ∀ s, s ∈ existing' ↔ s ∈ existing ∨ s ∈ folded casefold places
  | [], constraints, existing, _ => ⟨existing, by simp [addPlaces, addedPlaces], by simp [folded]⟩
  | place :: places, constraints, existing, hnodup => by
    rw [folded, List.map_cons, List.nodup_cons] at hnodup
    unfold addPlaces
    by_cases hmem : casefold place.1 ∈ existing
    · obtain ⟨existing', heq, hiff⟩ :=
        addPlaces_eq constraintType use places constraints existing hnodup.2
      refine ⟨existing', ?_, fun s => ?_⟩
      · rw [if_pos hmem, heq]
        simp [addedPlaces, hmem]
      · rw [hiff]
        simp only [folded, List.map_cons, List.mem_cons]
        constructor
        · rintro (h | h)
          · exact .inl h
          · exact .inr (.inr h)
        · rintro (h | rfl | h)
          · exact .inl h
          · exact .inl hmem
          · exact .inr h
    · obtain ⟨existing', heq, hiff⟩ := addPlaces_eq constraintType use places
        (constraints ++ [call.placeSpec constraintType use place]) (casefold place.1 :: existing) hnodup.2
      refine ⟨existing', ?_, fun s => ?_⟩
      · rw [if_neg hmem]
        have hspec := newConstraint_spec call constraintType (use place.1)
          ⟨place.1, place.2.1, place.2.2.1, place.2.2.2.trans (by decide)⟩
        rw [hspec]
        refine heq.trans ?_
        rw [addedPlaces, filter_notMem_cons (f := fun p : ShortText => casefold p.1) hnodup.1]
        simp [addedPlaces, hmem, ReplanCall.placeSpec]
      · rw [hiff]
        simp only [folded, List.map_cons, List.mem_cons]
        tauto

theorem addPreferences_eq :
    ∀ (values : List ShortText) (preferences : List TravelPreference) (known : List String),
      (folded casefold values).Nodup →
      addPreferences call values preferences known =
        .ok (preferences ++ (values.filter (casefold ·.1 ∉ known)).map call.preferenceSpec)
  | [], preferences, known, _ => by simp [addPreferences]
  | value :: values, preferences, known, hnodup => by
    rw [folded, List.map_cons, List.nodup_cons] at hnodup
    unfold addPreferences
    by_cases hmem : casefold value.1 ∈ known
    · rw [if_pos hmem, addPreferences_eq values preferences known hnodup.2]
      simp [hmem]
    · rw [if_neg hmem, newPreference_spec]
      refine (addPreferences_eq values _ _ hnodup.2).trans ?_
      rw [filter_notMem_cons (f := fun v : ShortText => casefold v.1) hnodup.1]
      simp [hmem]

/-! ### The patched brief -/

/-- The patch replaces the constraint: it is a date or budget constraint, and that field is patched. -/
def ReplanPatch.Replaces (patch : ReplanPatch casefold) (c : ConstraintSpec) : Bool :=
  patch.dates.isSome && decide (c.constraintType = .date) ||
    patch.budget.isSome && decide (c.constraintType = .budget)

/-- The budget a patch gives, over the one there is. -/
def ReplanBudgetPatch.range (patch : ReplanBudgetPatch) (budget : MoneyRange) : MoneyRange :=
  { minAmount := patch.minAmount, maxAmount := patch.maxAmount
    currency := patch.currency.getD budget.currency, basis := budget.basis, le := patch.le }

/-- The constraints of the patched dates and budget. -/
def fieldSpecs : List ConstraintSpec :=
  call.patch.dates.toList.map (fun dates => call.spec .date .date ⟨dates.description, dates.isText⟩) ++
    call.patch.budget.toList.map fun patch => call.spec .budget .budget
      ⟨budgetDescription (patch.range brief.budget), isText_budgetDescription _⟩

/-- The constraints before the places: those the patch keeps, and those of the patched fields. -/
def standing : List ConstraintSpec :=
  brief.constraints.filter (!call.patch.Replaces ·) ++ fieldSpecs call brief

def ReplanPatch.removed (patch : ReplanPatch casefold) : List String :=
  (patch.preferences.map (folded casefold ·.remove)).getD []

def ReplanPatch.added (patch : ReplanPatch casefold) : List ShortText :=
  (patch.preferences.map (·.add)).getD []

/-- The preferences that stay. -/
def keptPreferences : List TravelPreference :=
  brief.preferences.filter (casefold ·.value.1 ∉ call.patch.removed)

def addedPreferences : List TravelPreference :=
  (call.patch.added.filter (casefold ·.1 ∉ (keptPreferences call brief).map (casefold ·.value.1))).map
    call.preferenceSpec

def excludedSpecs : List ConstraintSpec :=
  addedPlaces call .avoid .exclude call.patch.excludePlaces (descriptions casefold (standing call brief))

def retainedSpecs : List ConstraintSpec :=
  addedPlaces call .visit .retain call.patch.retainPlaces (descriptions casefold (standing call brief))

def patchedWindow : TripDateRange :=
  match call.patch.dates with
  | none => brief.dateWindow
  | some dates => { startDate := dates.startDate, endDate := dates.endDate,
                    timezone := brief.dateWindow.timezone, le := dates.le, flexible := notFlexible }

def patchedBudget : MoneyRange :=
  match call.patch.budget with
  | none => brief.budget
  | some patch => patch.range brief.budget

theorem patchDates_eq : patchDates call brief = .ok (patchedWindow call brief,
    brief.constraints.filter (fun c => !(call.patch.dates.isSome && decide (c.constraintType = .date))) ++
      call.patch.dates.toList.map fun dates => call.spec .date .date ⟨dates.description, dates.isText⟩) := by
  unfold patchDates patchedWindow
  cases hd : call.patch.dates with
  | none => simp
  | some dates =>
    have hwindow : tripDateRange dates.startDate dates.endDate brief.dateWindow.timezone = .ok
        { startDate := dates.startDate, endDate := dates.endDate,
          timezone := brief.dateWindow.timezone, le := dates.le, flexible := notFlexible } :=
      check_pos dates.le
    simp only [hwindow, ok_bind,
      newConstraint_spec call .date .date ⟨dates.description, dates.isText⟩]
    simp [pure, Except.pure]

theorem patchBudget_eq (constraints : List ConstraintSpec) : patchBudget call brief constraints =
    .ok (patchedBudget call brief,
      constraints.filter (fun c => !(call.patch.budget.isSome && decide (c.constraintType = .budget))) ++
        call.patch.budget.toList.map fun patch => call.spec .budget .budget
          ⟨budgetDescription (patch.range brief.budget), isText_budgetDescription _⟩) := by
  unfold patchBudget patchedBudget
  cases hb : call.patch.budget with
  | none => simp
  | some patch =>
    have hrange : moneyRange patch.minAmount patch.maxAmount
        (patch.currency.getD brief.budget.currency) brief.budget.basis =
          .ok (patch.range brief.budget) := check_pos patch.le
    simp only [hrange, ok_bind, newConstraint_spec call .budget .budget
      ⟨budgetDescription (patch.range brief.budget), isText_budgetDescription _⟩]
    simp [pure, Except.pure]

theorem patchPreferences_eq : patchPreferences call brief =
    .ok (keptPreferences call brief ++ addedPreferences call brief) := by
  unfold patchPreferences addedPreferences keptPreferences ReplanPatch.removed ReplanPatch.added
  cases hp : call.patch.preferences with
  | none => simp
  | some patch => exact addPreferences_eq call _ _ _ patch.unique.1

/-- The constraints left by the two filters. -/
theorem standing_eq :
    (brief.constraints.filter (fun c => !(call.patch.dates.isSome && decide (c.constraintType = .date))) ++
      call.patch.dates.toList.map fun dates =>
        call.spec .date .date ⟨dates.description, dates.isText⟩).filter
        (fun c => !(call.patch.budget.isSome && decide (c.constraintType = .budget))) ++
      call.patch.budget.toList.map (fun patch => call.spec .budget .budget
        ⟨budgetDescription (patch.range brief.budget), isText_budgetDescription _⟩) =
    standing call brief := by
  rw [standing, fieldSpecs, List.filter_append, List.filter_filter, List.append_assoc]
  congr 1
  · refine List.filter_congr fun c _ => ?_
    rw [ReplanPatch.Replaces, Bool.not_or, Bool.and_comm]
  · congr 1
    refine List.filter_eq_self.2 fun c hc => ?_
    obtain ⟨dates, -, rfl⟩ := List.mem_map.1 hc
    simp [ReplanCall.spec]

/-- Retained places do not see the constraints of excluded ones. -/
theorem retained_eq {existing : List String} (hiff : ∀ s, s ∈ existing ↔
    s ∈ descriptions casefold (standing call brief) ∨ s ∈ folded casefold call.patch.excludePlaces) :
    addedPlaces call .visit .retain call.patch.retainPlaces existing = retainedSpecs call brief := by
  unfold retainedSpecs addedPlaces
  congr 1
  refine List.filter_congr fun place hplace => ?_
  have hnot : casefold place.1 ∉ folded casefold call.patch.excludePlaces := fun h =>
    call.patch.disjoint h (List.mem_map_of_mem (f := fun p : ShortText => casefold p.1) hplace)
  simp [hiff, hnot]

/-- **The patched brief.**  A replan never raises. -/
theorem applyReplanPatch_eq : ∃ createdBy, applyReplanPatch brief call = .ok { brief with
    artifactId := call.artifactId, version := 1, createdBy
    reason := replanReason
    dateWindow := patchedWindow call brief
    budget := patchedBudget call brief
    preferences := keptPreferences call brief ++ addedPreferences call brief
    constraints := standing call brief ++ excludedSpecs call brief ++ retainedSpecs call brief } := by
  obtain ⟨createdBy, hactor⟩ := actor_ok call.userDigest
  obtain ⟨existing, hexclude, hiff⟩ := addPlaces_eq call .avoid .exclude call.patch.excludePlaces
    (standing call brief) (descriptions casefold (standing call brief)) call.patch.unique.1
  obtain ⟨existing', hretain, -⟩ := addPlaces_eq call .visit .retain call.patch.retainPlaces
    (standing call brief ++ excludedSpecs call brief) existing call.patch.unique.2
  rw [retained_eq call brief hiff] at hretain
  refine ⟨createdBy, ?_⟩
  unfold applyReplanPatch
  simp only [patchDates_eq, patchBudget_eq, patchPreferences_eq, ok_bind, standing_eq]
  rw [descriptions] at hexclude
  simp only [hexclude, ok_bind]
  rw [excludedSpecs, descriptions] at hretain
  simp only [hretain, hactor, ok_bind]
  rfl

end RoutePilot.Planning
