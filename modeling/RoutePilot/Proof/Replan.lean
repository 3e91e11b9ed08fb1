/-
  Replans over whole chains: each is applied to the brief that the one before
  produced.

  Whether a place adds a constraint is decided by its description alone, whatever
  the type of the constraint that has it; a patch is honoured exactly if it is
  `Clear`.  The copy is not checked, so its lists satisfy the contract exactly if
  there is `Room` for what the patch adds.
-/
import RoutePilot.Planning.Patched

namespace RoutePilot.Planning

open Lib Contracts

variable {casefold : String → String}

/-! ## Chains of replans -/

/-- `P` of every replan of a chain, each on the brief that the one before produced. -/
def EachReplan (P : TripBrief → ReplanCall casefold → TripBrief → Prop) :
    TripBrief → List (ReplanCall casefold) → Prop
  | _, [] => True
  | brief, call :: calls => ∃ result, applyReplanPatch brief call = .ok result ∧
      P brief call result ∧ EachReplan P result calls

theorem EachReplan.congr {P Q : TripBrief → ReplanCall casefold → TripBrief → Prop} {I : TripBrief → Prop}
    (hiff : ∀ brief call result, I brief → applyReplanPatch brief call = .ok result →
      (P brief call result ↔ Q brief call result))
    (hkeep : ∀ brief call result, I brief → applyReplanPatch brief call = .ok result →
      P brief call result → I result) :
    ∀ {brief : TripBrief} (calls : List (ReplanCall casefold)), I brief →
      (EachReplan P brief calls ↔ EachReplan Q brief calls) := by
  intro brief calls
  induction calls generalizing brief with
  | nil => exact fun _ => Iff.rfl
  | cons call calls ih =>
    intro hI
    constructor
    · rintro ⟨result, hresult, hP, hrest⟩
      have hI' := hkeep brief call result hI hresult hP
      exact ⟨result, hresult, (hiff brief call result hI hresult).1 hP, (ih hI').1 hrest⟩
    · rintro ⟨result, hresult, hQ, hrest⟩
      have hP := (hiff brief call result hI hresult).2 hQ
      exact ⟨result, hresult, hP, (ih (hkeep brief call result hI hresult hP)).2 hrest⟩

/-! ## What a patch asks -/

section
variable (casefold)

/-- A hard constraint of a type, with the folded description. -/
def HasHard (constraints : List ConstraintSpec) (constraintType : ConstraintType)
    (description : String) : Prop :=
  ∃ c ∈ constraints, c.hard = true ∧ c.constraintType = constraintType ∧
    casefold c.description.1 = casefold description

/-- No description is both to be visited and to be avoided. -/
def Consistent (brief : TripBrief) : Prop :=
  ∀ c ∈ brief.constraints, ∀ c' ∈ brief.constraints, c.hard = true → c.constraintType = .visit →
    c'.hard = true → c'.constraintType = .avoid →
      casefold c.description.1 ≠ casefold c'.description.1

end

/-- The patch neither replaces the constraint nor names its place. -/
def ReplanPatch.Leaves (patch : ReplanPatch casefold) (c : ConstraintSpec) : Bool :=
  !patch.Replaces c && decide (casefold c.description.1 ∉ folded casefold patch.excludePlaces) &&
    decide (casefold c.description.1 ∉ folded casefold patch.retainPlaces)

/-- The result says what the patch asks, and leaves the rest of the brief alone. -/
structure Honours (brief : TripBrief) (call : ReplanCall casefold) (result : TripBrief) : Prop where
  excluded : ∀ place ∈ call.patch.excludePlaces, HasHard casefold result.constraints .avoid place.1
  retained : ∀ place ∈ call.patch.retainPlaces, HasHard casefold result.constraints .visit place.1
  consistent : Consistent casefold result
  dates : ∀ d ∈ call.patch.dates,
    result.dateWindow.startDate = d.startDate ∧ result.dateWindow.endDate = d.endDate
  sameDates : call.patch.dates = none → result.dateWindow = brief.dateWindow
  budget : ∀ b ∈ call.patch.budget, result.budget.minAmount = b.minAmount ∧
    result.budget.maxAmount = b.maxAmount ∧
    result.budget.currency = b.currency.getD brief.budget.currency
  sameBudget : call.patch.budget = none → result.budget = brief.budget
  added : ∀ value ∈ call.patch.added, ∃ p ∈ result.preferences, casefold p.value.1 = casefold value.1
  removed : ∀ p ∈ result.preferences, casefold p.value.1 ∈ call.patch.removed →
    casefold p.value.1 ∈ folded casefold call.patch.added
  constraints : (brief.constraints.filter call.patch.Leaves).Sublist result.constraints
  preferences : (brief.preferences.filter (casefold ·.value.1 ∉ call.patch.removed)).Sublist
    result.preferences

/-- A constraint that stays, or one of the patched fields, has the description. -/
def Described (brief : TripBrief) (patch : ReplanPatch casefold) (description : String) : Prop :=
  (∃ c ∈ brief.constraints, patch.Replaces c = false ∧
      casefold c.description.1 = casefold description) ∨
    (∃ d ∈ patch.dates, casefold d.description = casefold description) ∨
    ∃ b ∈ patch.budget, casefold (budgetDescription (b.range brief.budget)) = casefold description

/-- Where a place of the patch is described already, the brief already asks what the patch asks. -/
structure Clear (brief : TripBrief) (patch : ReplanPatch casefold) : Prop where
  excluded : ∀ place ∈ patch.excludePlaces, Described brief patch place.1 →
    HasHard casefold brief.constraints .avoid place.1
  retained : ∀ place ∈ patch.retainPlaces, Described brief patch place.1 →
    HasHard casefold brief.constraints .visit place.1

instance (constraints : List ConstraintSpec) (constraintType : ConstraintType) (description : String) :
    Decidable (HasHard casefold constraints constraintType description) :=
  inferInstanceAs (Decidable (∃ c ∈ constraints, _))

instance (brief : TripBrief) : Decidable (Consistent casefold brief) :=
  inferInstanceAs (Decidable (∀ c ∈ brief.constraints, ∀ c' ∈ brief.constraints, _))

instance (brief : TripBrief) (patch : ReplanPatch casefold) (description : String) :
    Decidable (Described brief patch description) :=
  inferInstanceAs (Decidable ((∃ c ∈ brief.constraints, _) ∨ _ ∨ _))

/-! ### The constraints of the result -/

section
variable (call : ReplanCall casefold) (brief : TripBrief)

theorem mem_descriptions_standing {description : String} :
    casefold description ∈ descriptions casefold (standing call brief) ↔
      Described brief call.patch description := by
  simp only [descriptions, standing, fieldSpecs, List.map_append, List.mem_append, List.mem_map,
    List.mem_filter, Bool.not_eq_true', Described]
  refine or_congr ?_ (or_congr ?_ ?_)
  · simp only [and_assoc]
  · constructor
    · rintro ⟨c, ⟨d, hd, rfl⟩, hc⟩
      exact ⟨d, Option.mem_toList.1 hd, hc⟩
    · rintro ⟨d, hd, hc⟩
      exact ⟨_, ⟨d, Option.mem_toList.2 hd, rfl⟩, hc⟩
  · constructor
    · rintro ⟨c, ⟨b, hb, rfl⟩, hc⟩
      exact ⟨b, Option.mem_toList.1 hb, hc⟩
    · rintro ⟨b, hb, hc⟩
      exact ⟨_, ⟨b, Option.mem_toList.2 hb, rfl⟩, hc⟩

/-- The hard visit and avoid constraints that stand are those of the brief. -/
theorem mem_standing {c : ConstraintSpec} (h : c.constraintType = .visit ∨ c.constraintType = .avoid) :
    c ∈ standing call brief ↔ c ∈ brief.constraints := by
  have hnot : call.patch.Replaces c = false := by
    rcases h with h | h <;> simp [ReplanPatch.Replaces, h]
  simp only [standing, fieldSpecs, List.mem_append, List.mem_filter, List.mem_map]
  constructor
  · rintro (h' | ⟨d, -, rfl⟩ | ⟨b, -, rfl⟩)
    · exact h'.1
    · simp [ReplanCall.spec] at h
    · simp [ReplanCall.spec] at h
  · exact fun hc => .inl ⟨hc, by simp [hnot]⟩

theorem mem_addedPlaces {constraintType : ConstraintType} {use : String → IdUse}
    {places : List ShortText} {existing : List String} {c : ConstraintSpec}
    (h : c ∈ addedPlaces call constraintType use places existing) :
    c.constraintType = constraintType ∧ ∃ place ∈ places, c.description.1 = place.1 ∧
      casefold place.1 ∉ existing := by
  obtain ⟨place, hplace, rfl⟩ := List.mem_map.1 h
  obtain ⟨hmem, hnew⟩ := List.mem_filter.1 hplace
  exact ⟨rfl, place, hmem, rfl, by simpa using hnew⟩

/-- A place of the list is described before, or a constraint of the type is added for it. -/
theorem described_or_added (constraintType : ConstraintType) (use : String → IdUse)
    {places : List ShortText} {place : ShortText} (hplace : place ∈ places) :
    Described brief call.patch place.1 ∨ HasHard casefold (addedPlaces call constraintType use places
      (descriptions casefold (standing call brief))) constraintType place.1 := by
  by_cases hmem : casefold place.1 ∈ descriptions casefold (standing call brief)
  · exact .inl ((mem_descriptions_standing call brief).1 hmem)
  · refine .inr ⟨_, List.mem_map_of_mem (List.mem_filter.2 ⟨hplace, ?_⟩), rfl, rfl, rfl⟩
    simpa using hmem

/-- What the result asks of a place that is described already is what the brief asked. -/
theorem hasHard_of_described {constraintType : ConstraintType} (use : String → IdUse)
    (places : List ShortText) {description : String}
    (htype : constraintType = .visit ∨ constraintType = .avoid)
    (hd : Described brief call.patch description) {c : ConstraintSpec}
    (hc : c ∈ standing call brief ∨ c ∈ addedPlaces call constraintType use places
      (descriptions casefold (standing call brief)))
    (hhard : c.hard = true) (hct : c.constraintType = constraintType)
    (hdesc : casefold c.description.1 = casefold description) :
    HasHard casefold brief.constraints constraintType description := by
  rcases hc with hc | hc
  · exact ⟨c, (mem_standing call brief (hct ▸ htype)).1 hc, hhard, hct, hdesc⟩
  · obtain ⟨-, place, -, hplace, hnew⟩ := mem_addedPlaces call hc
    refine absurd ?_ hnew
    rw [← hplace, hdesc]
    exact (mem_descriptions_standing call brief).2 hd

end

/-! ### One replan -/

section
variable {call : ReplanCall casefold} {brief result : TripBrief}

/-- The fields of a result. -/
theorem result_fields (h : applyReplanPatch brief call = .ok result) :
    result.dateWindow = patchedWindow call brief ∧ result.budget = patchedBudget call brief ∧
      result.preferences = keptPreferences call brief ++ addedPreferences call brief ∧
      result.constraints = standing call brief ++ excludedSpecs call brief ++ retainedSpecs call brief := by
  obtain ⟨createdBy, heq⟩ := applyReplanPatch_eq call brief
  rw [heq] at h
  cases h
  exact ⟨rfl, rfl, rfl, rfl⟩

/-- An added avoid constraint is not described by what stands, nor by a retained place. -/
theorem consistent_result (hc : Consistent casefold brief)
    (h : applyReplanPatch brief call = .ok result) : Consistent casefold result := by
  obtain ⟨-, -, -, hcs⟩ := result_fields h
  intro c hmem c' hmem' hhard htype hhard' htype' heq
  rw [hcs, List.mem_append, List.mem_append] at hmem hmem'
  -- neither is an added constraint of the other type
  have hv : c ∈ standing call brief ∨ c ∈ retainedSpecs call brief := by
    rcases hmem with (hm | hm) | hm
    · exact .inl hm
    · rw [(mem_addedPlaces call hm).1] at htype; cases htype
    · exact .inr hm
  have ha : c' ∈ standing call brief ∨ c' ∈ excludedSpecs call brief := by
    rcases hmem' with (hm | hm) | hm
    · exact .inl hm
    · exact .inr hm
    · rw [(mem_addedPlaces call hm).1] at htype'; cases htype'
  rcases hv with hv | hv <;> rcases ha with ha | ha
  · exact hc c ((mem_standing call brief (.inl htype)).1 hv) c'
      ((mem_standing call brief (.inr htype')).1 ha) hhard htype hhard' htype' heq
  · obtain ⟨-, place, -, hplace, hnew⟩ := mem_addedPlaces call ha
    refine hnew (List.mem_map.2 ⟨c, hv, ?_⟩)
    rw [← hplace, heq]
  · obtain ⟨-, place, -, hplace, hnew⟩ := mem_addedPlaces call hv
    refine hnew (List.mem_map.2 ⟨c', ha, ?_⟩)
    rw [← hplace, heq]
  · obtain ⟨-, place, hin, hplace, -⟩ := mem_addedPlaces call hv
    obtain ⟨-, place', hin', hplace', -⟩ := mem_addedPlaces call ha
    refine call.patch.disjoint (List.mem_map.2 ⟨place', hin', rfl⟩) (List.mem_map.2 ⟨place, hin, ?_⟩)
    rw [← hplace, ← hplace', heq]

theorem preferences_added (h : applyReplanPatch brief call = .ok result) {value : ShortText}
    (hvalue : value ∈ call.patch.added) :
    ∃ p ∈ result.preferences, casefold p.value.1 = casefold value.1 := by
  obtain ⟨-, -, hps, -⟩ := result_fields h
  rw [hps]
  by_cases hknown : casefold value.1 ∈ (keptPreferences call brief).map (casefold ·.value.1)
  · obtain ⟨p, hp, heq⟩ := List.mem_map.1 hknown
    exact ⟨p, List.mem_append_left _ hp, heq⟩
  · refine ⟨call.preferenceSpec value, List.mem_append_right _ (List.mem_map_of_mem ?_), rfl⟩
    exact List.mem_filter.2 ⟨hvalue, by simpa using hknown⟩

theorem preferences_removed (h : applyReplanPatch brief call = .ok result) {p : TravelPreference}
    (hp : p ∈ result.preferences) (hremoved : casefold p.value.1 ∈ call.patch.removed) :
    casefold p.value.1 ∈ folded casefold call.patch.added := by
  obtain ⟨-, -, hps, -⟩ := result_fields h
  rw [hps] at hp
  rcases List.mem_append.1 hp with hp | hp
  · have := (List.mem_filter.1 hp).2
    simp [hremoved] at this
  · obtain ⟨value, hvalue, rfl⟩ := List.mem_map.1 hp
    exact List.mem_map_of_mem (f := fun v : ShortText => casefold v.1) (List.mem_filter.1 hvalue).1

theorem constraints_kept (h : applyReplanPatch brief call = .ok result) :
    (brief.constraints.filter call.patch.Leaves).Sublist result.constraints := by
  obtain ⟨-, -, -, hcs⟩ := result_fields h
  rw [hcs, standing, List.append_assoc, List.append_assoc]
  refine List.Sublist.trans ?_ (List.sublist_append_left _ _)
  refine List.monotone_filter_right _ fun c hc => ?_
  simp only [ReplanPatch.Leaves, Bool.and_eq_true] at hc
  exact hc.1.1

/-- **One replan.**  It honours the patch exactly if the patch is clear. -/
theorem honours_iff (hc : Consistent casefold brief) (h : applyReplanPatch brief call = .ok result) :
    Honours brief call result ↔ Clear brief call.patch := by
  obtain ⟨hwindow, hbudget, hps, hcs⟩ := result_fields h
  constructor
  · intro hh
    refine ⟨fun place hplace hd => ?_, fun place hplace hd => ?_⟩
    · obtain ⟨c, hmem, hhard, htype, heq⟩ := hh.excluded place hplace
      rw [hcs, List.mem_append, List.mem_append] at hmem
      rcases hmem with hmem | hmem
      · exact hasHard_of_described call brief _ _ (.inr rfl) hd hmem hhard htype heq
      · rw [(mem_addedPlaces call hmem).1] at htype; cases htype
    · obtain ⟨c, hmem, hhard, htype, heq⟩ := hh.retained place hplace
      rw [hcs, List.mem_append, List.mem_append] at hmem
      rcases hmem with (hmem | hmem) | hmem
      · exact hasHard_of_described call brief .retain call.patch.retainPlaces (.inl rfl)
          hd (.inl hmem) hhard htype heq
      · rw [(mem_addedPlaces call hmem).1] at htype; cases htype
      · exact hasHard_of_described call brief _ _ (.inl rfl) hd (.inr hmem) hhard htype heq
  · intro hclear
    refine ⟨fun place hplace => ?_, fun place hplace => ?_, consistent_result hc h, ?_, ?_, ?_, ?_,
      fun value hvalue => preferences_added h hvalue, fun p hp => preferences_removed h hp,
      constraints_kept h, ?_⟩
    · rcases described_or_added call brief .avoid .exclude hplace with hd | ⟨c, hmem, hrest⟩
      · obtain ⟨c, hmem, hhard, htype, heq⟩ := hclear.excluded place hplace hd
        refine ⟨c, ?_, hhard, htype, heq⟩
        rw [hcs]
        exact List.mem_append_left _ (List.mem_append_left _
          ((mem_standing call brief (.inr htype)).2 hmem))
      · exact ⟨c, hcs ▸ List.mem_append_left _ (List.mem_append_right _ hmem), hrest⟩
    · rcases described_or_added call brief .visit .retain hplace with hd | ⟨c, hmem, hrest⟩
      · obtain ⟨c, hmem, hhard, htype, heq⟩ := hclear.retained place hplace hd
        refine ⟨c, ?_, hhard, htype, heq⟩
        rw [hcs]
        exact List.mem_append_left _ (List.mem_append_left _
          ((mem_standing call brief (.inl htype)).2 hmem))
      · exact ⟨c, hcs ▸ List.mem_append_right _ hmem, hrest⟩
    · intro d hd
      rw [hwindow, patchedWindow, Option.mem_def.1 hd]
      exact ⟨rfl, rfl⟩
    · intro hnone
      rw [hwindow, patchedWindow, hnone]
    · intro b hb
      rw [hbudget, patchedBudget, Option.mem_def.1 hb]
      exact ⟨rfl, rfl, rfl⟩
    · intro hnone
      rw [hbudget, patchedBudget, hnone]
    · rw [hps]
      exact List.sublist_append_left _ _

end

/-- **Replans say what the user asked.**  Over a chain of replans of a brief without contradictions,
    every replan honours its patch exactly if every patch is clear to the brief it is applied to:
    where a place of the patch is described already, it is by a hard constraint of the right type. -/
theorem replans_honoured {brief : TripBrief} (hc : Consistent casefold brief) (calls : List (ReplanCall casefold)) :
    EachReplan Honours brief calls ↔ EachReplan (fun b call _ => Clear b call.patch) brief calls :=
  EachReplan.congr (I := Consistent casefold) (fun _ _ _ hI h => honours_iff hI h)
    (fun _ _ _ hI h _ => consistent_result hI h) calls hc

namespace Sample

def identifier (s : String) (h : isIdentifier s := by decide) : Identifier := ⟨s, h⟩

def shortText (s : String) (h : IsText 1 256 s := by decide) : ShortText := ⟨s, h⟩

def nonEmptyText (s : String) (h : IsText 1 2000 s := by decide) : NonEmptyText := ⟨s, h⟩

def amount (s : String) (h : isDecimalAmount s := by decide) : DecimalAmount := ⟨s, h⟩

def nothing : DecimalAmount := amount "0" isDecimalAmount_zero

def yuan : CurrencyCode := ⟨"CNY", isCurrencyCode_cny⟩

def hex {width : ℕ} : Hex width := ⟨0, Nat.pow_pos (by decide)⟩

/-- 4 May 2026, a Monday. -/
def monday : Day := ⟨739740, by decide, by decide⟩

def beijing : PlaceRef :=
  { placeId := identifier "place:beijing", displayName := shortText "北京", timezone := "Asia/Shanghai" }

/-- One visit of the palace is required. -/
def palace : ConstraintSpec :=
  { constraintId := identifier "constraint_1", constraintType := .visit, hard := true, priority := 5
    description := nonEmptyText "故宫博物院", bounded := constraintPriority }

def quiet : TravelPreference :=
  { preferenceId := identifier "preference_1", category := .other, value := shortText "安静"
    priority := 3, bounded := preferencePriority }

def brief : TripBrief :=
  { artifactId := "artifact_1", version := 1, createdBy := ⟨.user, identifier "user:1"⟩
    reason := "用户确认的旅行需求。", destination := beijing
    dateWindow := { startDate := monday, endDate := monday, timezone := "Asia/Shanghai"
                    le := le_rfl, flexible := notFlexible }
    travelers := { adults := 2, bounded := by decide, traveler := by decide }
    budget := { minAmount := nothing, maxAmount := amount "100", currency := yuan, basis := .total
                le := by decide }
    constraints := [palace] }

/-- A patch that excludes one place. -/
def excluding (place : ShortText) : ReplanCall id :=
  { patch := { excludePlaces := [place], bounded := by simp
               unique := by simp [folded]
               change := .inr (.inr (.inr (.inl (List.cons_ne_nil _ _))))
               disjoint := List.disjoint_nil_right _ }
    userDigest := hex, millis := fun _ => hex, token := fun _ => hex }

def temple : ReplanCall id := excluding (shortText "孔庙")

def garden : ReplanCall id := excluding (shortText "植物园")

/-- The brief with the constraints that the first patch leaves. -/
def withoutTemple : TripBrief :=
  { brief with
    constraints := standing temple brief ++ excludedSpecs temple brief ++ retainedSpecs temple brief }

end Sample

/-- A place that no constraint describes is excluded, and once more, when the first patch has described it. -/
theorem replans_honoured_temple : EachReplan Honours Sample.brief [Sample.temple, Sample.temple] := by
  obtain ⟨_, heq⟩ := applyReplanPatch_eq Sample.temple Sample.brief
  refine (replans_honoured (by decide) _).2 ⟨_, heq, ⟨by decide, by decide⟩, ?_⟩
  -- of the second brief only the constraints matter
  obtain ⟨_, heq'⟩ := applyReplanPatch_eq Sample.temple _
  have hclear : Clear Sample.withoutTemple Sample.temple.patch := ⟨by decide, by decide⟩
  exact ⟨_, heq', ⟨hclear.excluded, hclear.retained⟩, trivial⟩

/-- Excluding a place that had to be visited adds no constraint. -/
theorem excluded_place_still_visited : ¬ ∀ (casefold : String → String) (brief : TripBrief),
    Consistent casefold brief → ∀ calls : List (ReplanCall casefold), EachReplan Honours brief calls := by
  intro h
  obtain ⟨result, hresult, hhonours, -⟩ :=
    h id Sample.brief (by decide) [Sample.excluding (Sample.shortText "故宫博物院")]
  have hclear := (honours_iff (by decide) hresult).1 hhonours
  have := hclear.excluded (Sample.shortText "故宫博物院") (by decide) (by decide)
  revert this
  decide

/-! ## The contract of the result -/

/-- What a patch keeps and adds fits the lists of the contract. -/
structure Room (brief : TripBrief) (patch : ReplanPatch casefold) : Prop where
  preferences : (brief.preferences.filter (casefold ·.value.1 ∉ patch.removed)).length +
    (patch.added.filter fun value => ∀ p ∈ brief.preferences,
      casefold p.value.1 ∉ patch.removed → casefold p.value.1 ≠ casefold value.1).length ≤ 50
  constraints : (brief.constraints.filter (!patch.Replaces ·)).length + patch.dates.toList.length +
    patch.budget.toList.length +
      ((patch.excludePlaces ++ patch.retainPlaces).filter (¬ Described brief patch ·.1)).length ≤ 100

section
variable (call : ReplanCall casefold) (brief : TripBrief)

theorem addedPreferences_length : (addedPreferences call brief).length =
    (call.patch.added.filter fun value => ∀ p ∈ brief.preferences,
      casefold p.value.1 ∉ call.patch.removed → casefold p.value.1 ≠ casefold value.1).length := by
  rw [addedPreferences, List.length_map]
  congr 1
  refine List.filter_congr fun value _ => ?_
  simp only [keptPreferences, List.mem_map, List.mem_filter, not_exists, not_and,
    and_imp, decide_eq_true_eq]

theorem addedPlaces_length (constraintType : ConstraintType) (use : String → IdUse)
    (places : List ShortText) :
    (addedPlaces call constraintType use places (descriptions casefold (standing call brief))).length =
      (places.filter (¬ Described brief call.patch ·.1)).length := by
  rw [addedPlaces, List.length_map]
  congr 1
  refine List.filter_congr fun place _ => ?_
  simp only [mem_descriptions_standing]

theorem standing_length : (standing call brief).length =
    (brief.constraints.filter (!call.patch.Replaces ·)).length + call.patch.dates.toList.length +
      call.patch.budget.toList.length := by
  simp only [standing, fieldSpecs, List.length_append, List.length_map]
  omega

end

theorem isText_replanReason : IsText 1 2000 replanReason := by decide +kernel

/-- **The result of one replan** satisfies the contract exactly if there is room for it. -/
theorem valid_result_iff {call : ReplanCall casefold} {brief result : TripBrief} (hv : brief.Valid)
    (h : applyReplanPatch brief call = .ok result) : result.Valid ↔ Room brief call.patch := by
  obtain ⟨createdBy, heq⟩ := applyReplanPatch_eq call brief
  have hwindow : (patchedWindow call brief).timezone = brief.dateWindow.timezone := by
    unfold patchedWindow
    split <;> rfl
  have hps : (keptPreferences call brief ++ addedPreferences call brief).length =
      (brief.preferences.filter (casefold ·.value.1 ∉ call.patch.removed)).length +
        (call.patch.added.filter fun value => ∀ p ∈ brief.preferences,
          casefold p.value.1 ∉ call.patch.removed → casefold p.value.1 ≠ casefold value.1).length := by
    rw [List.length_append, addedPreferences_length, keptPreferences]
  have hcs : (standing call brief ++ excludedSpecs call brief ++ retainedSpecs call brief).length =
      (brief.constraints.filter (!call.patch.Replaces ·)).length + call.patch.dates.toList.length +
        call.patch.budget.toList.length + ((call.patch.excludePlaces ++ call.patch.retainPlaces).filter
          (¬ Described brief call.patch ·.1)).length := by
    simp only [List.length_append, standing_length, excludedSpecs, retainedSpecs, addedPlaces_length,
      List.filter_append]
    omega
  rw [heq] at h
  cases h
  constructor
  · intro hr
    exact ⟨hps ▸ hr.preferences, hcs ▸ hr.constraints⟩
  · intro hroom
    exact ⟨call.isIdentifier_artifactId, hv.schemaVersion, le_rfl, isText_replanReason,
      hps.trans_le hroom.preferences, hcs.trans_le hroom.constraints, hv.clarificationItems,
      hv.timezone.trans hwindow.symm⟩

theorem validateTripBrief_eq_ok {brief : TripBrief} : validateTripBrief brief = .ok brief ↔ brief.Valid := by
  simp [validateTripBrief, check_eq_ok]

/-- **Accepted replans yield valid briefs.**  Over a chain of replans of a valid brief, the validation
    of every brief produced succeeds exactly if every patch has room in the brief it is applied to. -/
theorem replans_valid {brief : TripBrief} (hv : brief.Valid) (calls : List (ReplanCall casefold)) :
    EachReplan (fun _ _ result => validateTripBrief result = .ok result) brief calls ↔
      EachReplan (fun b call _ => Room b call.patch) brief calls :=
  EachReplan.congr (I := TripBrief.Valid)
    (fun _ _ _ hI h => validateTripBrief_eq_ok.trans (valid_result_iff hI h))
    (fun _ _ _ _ _ hP => validateTripBrief_eq_ok.1 hP) calls hv

/-- Two places are excluded, one after the other. -/
theorem replans_valid_temple : EachReplan (fun _ _ result => validateTripBrief result = .ok result)
    Sample.brief [Sample.temple, Sample.garden] := by
  obtain ⟨_, heq⟩ := applyReplanPatch_eq Sample.temple Sample.brief
  refine (replans_valid (by decide) _).2 ⟨_, heq, ⟨by decide, by decide⟩, ?_⟩
  obtain ⟨_, heq'⟩ := applyReplanPatch_eq Sample.garden _
  have hroom : Room Sample.withoutTemple Sample.garden.patch := ⟨by decide, by decide⟩
  exact ⟨_, heq', ⟨hroom.preferences, hroom.constraints⟩, trivial⟩

/-- A brief with as many constraints as the contract allows. -/
def Sample.fullBrief : TripBrief := { Sample.brief with constraints := List.replicate 100 Sample.palace }

/-- One more constraint is one too many. -/
theorem full_brief_outgrown : ¬ ∀ (casefold : String → String) (brief : TripBrief), brief.Valid →
    ∀ calls : List (ReplanCall casefold),
      EachReplan (fun _ _ result => validateTripBrief result = .ok result) brief calls := by
  intro h
  have hv : Sample.fullBrief.Valid := by decide
  obtain ⟨result, hresult, hvalid, -⟩ :=
    h id Sample.fullBrief hv [Sample.temple]
  have hroom := (valid_result_iff hv hresult).1 (validateTripBrief_eq_ok.1 hvalid)
  have := hroom.constraints
  revert this
  decide

end RoutePilot.Planning
