/-
  The browser's final event filter (`public-event.ts`, `reducer.ts`).

  What an event carries is read off its data key by key (`cleanData_closed_iff`).  The filter
  is total and closed, and the reducer returns a state, for exactly the values whose type is
  no inherited name, whose sources and fields are no objects with other keys, and whose
  lifecycle is no value that throws or turns into a name (`totalAndClosed_iff`).
-/
import RoutePilot.Lib.Dict
import RoutePilot.Web.EventFilter

namespace RoutePilot.Web

open Lib

/-! ## Properties of a record -/

section
variable {record : Obj} {key key' : String}

theorem get?_filter (record : Obj) (q : String → Bool) (key : String) :
    Obj.get? (record.filter fun e => q e.1) key = if q key then Obj.get? record key else none :=
  Dict.lookup_filter_key record q key

theorem get?_assign_self (value : Option Json) : Obj.get? (assign record key value) key = value := by
  cases value with
  | some value => exact Obj.get?_set_self _ _ _
  | none =>
    refine (get?_filter record (fun name => name ≠ key) key).trans ?_
    simp

theorem get?_assign_ne (h : key' ≠ key) (value : Option Json) :
    Obj.get? (assign record key value) key' = Obj.get? record key' := by
  cases value with
  | some value => exact Obj.get?_set_ne value h
  | none =>
    refine (get?_filter record (fun name => name ≠ key) key').trans ?_
    simp [h]

theorem mem_of_get? {value : Json} (h : Obj.get? record key = some value) : (key, value) ∈ record := by
  obtain ⟨l₁, l₂, rfl, -⟩ := List.lookup_eq_some_iff.1 h
  exact List.mem_append_right _ List.mem_cons_self

/-- What is amended. -/
theorem get?_amend (f : Option Json → Option Json) : Obj.get? (amend key f record) key' =
    if key' = key then (Obj.get? record key).bind fun value => f (some value) else Obj.get? record key' := by
  unfold amend
  cases hget : Obj.get? record key with
  | none =>
    by_cases h : key' = key
    · rw [if_pos h, h]
      exact hget
    · rw [if_neg h]
  | some value =>
    by_cases h : key' = key
    · rw [if_pos h, h]
      exact get?_assign_self _
    · rw [if_neg h]
      exact get?_assign_ne h _

/-- The items of a list are amended; another value stays. -/
theorem get?_amendItems (f : Json → Option Json) : Obj.get? (amendItems key f record) key' =
    if key' = key then
      match Obj.get? record key with
      | some (.arr items) => some (.arr (items.filterMap f))
      | value => value
    else Obj.get? record key' := by
  unfold amendItems
  by_cases h : key' = key
  · rw [if_pos h, h]
    cases hget : Obj.get? record key with
    | none => exact hget
    | some value =>
      cases value with
      | arr items => exact get?_assign_self _
      | _ => exact hget
  · rw [if_neg h]
    split
    · exact get?_assign_ne h _
    · rfl

end

/-! ## Keys -/

/-- The keys of a record are among some. -/
def KeysIn (keys : List String) (record : Obj) : Prop := ∀ field ∈ record, field.1 ∈ keys

section
variable {keys : List String} {record : Obj} {key : String}

theorem KeysIn.set (h : KeysIn keys record) (hkey : key ∈ keys) (value : Json) :
    KeysIn keys (Obj.set record key value) := by
  induction record with
  | nil =>
    intro field hfield
    rw [List.mem_singleton.1 hfield]
    exact hkey
  | cons e record ih =>
    obtain ⟨name, old⟩ := e
    obtain ⟨hname, hrest⟩ := List.forall_mem_cons.1 h
    unfold Obj.set
    split
    · exact List.forall_mem_cons.2 ⟨hkey, hrest⟩
    · exact List.forall_mem_cons.2 ⟨hname, ih hrest⟩

theorem KeysIn.assign (h : KeysIn keys record) (hkey : key ∈ keys) (value : Option Json) :
    KeysIn keys (assign record key value) := by
  cases value with
  | some value => exact h.set hkey value
  | none => exact fun field hfield => h field (List.mem_of_mem_filter hfield)

theorem KeysIn.amend (h : KeysIn keys record) (f : Option Json → Option Json) : KeysIn keys (amend key f record) := by
  unfold Web.amend
  split
  · rename_i value hget
    exact h.assign (h _ (mem_of_get? hget)) _
  · exact h

theorem KeysIn.amendItems (h : KeysIn keys record) (f : Json → Option Json) :
    KeysIn keys (amendItems key f record) := by
  unfold Web.amendItems
  split
  · rename_i items hget
    exact h.assign (h _ (mem_of_get? hget)) _
  · exact h

theorem KeysIn.get?_eq_none (h : KeysIn keys record) (hkey : key ∉ keys) : Obj.get? record key = none := by
  cases hget : Obj.get? record key with
  | none => rfl
  | some value => exact absurd (h _ (mem_of_get? hget)) hkey

/-- A record with some keys at most. -/
def Listed (keys : List String) (value : Json) : Prop := ∃ record, value = .obj record ∧ KeysIn keys record

theorem pick_keysIn {value : Option Json} {picked : Obj} (h : pick value keys = some picked) : KeysIn keys picked := by
  unfold pick at h
  split at h
  · cases h
    intro field hfield
    obtain ⟨key, hkey, hmap⟩ := List.mem_filterMap.1 hfield
    obtain ⟨value, -, rfl⟩ := Option.map_eq_some_iff.1 hmap
    exact hkey
  · cases h

theorem listed_of_pick {value : Option Json} {picked : Json} (h : (pick value keys).map Json.obj = some picked) :
    Listed keys picked := by
  obtain ⟨record, hpick, rfl⟩ := Option.map_eq_some_iff.1 h
  exact ⟨record, rfl, pick_keysIn hpick⟩

end

/-! ## The parts of the data -/

def artifactRefKeys : List String := ["artifact_type", "artifact_id", "schema_version", "version"]

def sourceKeys : List String := ["source_id", "kind", "name", "version", "uri", "retrieved_at", "publisher", "license"]

def citationKeys : List String := ["citation_id", "evidence_id", "title", "locator", "source"]

def activitySourceKeys : List String := ["kind", "name", "version"]

def fieldKeys : List String := ["field_id", "label", "input_type", "required", "options"]

def errorKeys : List String := ["code", "message", "retryable"]

/-- A citation, and its source. -/
def ListedCitation (value : Json) : Prop :=
  ∃ record, value = .obj record ∧ KeysIn citationKeys record ∧
    ∀ source, Obj.get? record "source" = some source → Listed sourceKeys source

theorem cleanCitation_listed {value : Option Json} {citation : Json} (h : cleanCitation value = some citation) :
    ListedCitation citation := by
  have hsub : ∀ key ∈ ["citation_id", "evidence_id", "title", "locator"], key ∈ citationKeys := by decide
  unfold cleanCitation at h
  split at h
  · rename_i picked record hpick
    have hkeys : KeysIn ["citation_id", "evidence_id", "title", "locator"] picked := pick_keysIn hpick
    have hpicked : KeysIn citationKeys picked := fun field hfield => hsub _ (hkeys field hfield)
    split at h
    · rename_i source hsource
      cases h
      refine ⟨_, rfl, hpicked.assign (by decide) _, fun found hfound => ?_⟩
      rw [get?_assign_self] at hfound
      cases hfound
      exact listed_of_pick hsource
    · cases h
      refine ⟨_, rfl, hpicked, fun found hfound => ?_⟩
      rw [hkeys.get?_eq_none (by decide)] at hfound
      cases hfound
  · cases h

theorem cleanField_listed {field safe : Json} (h : cleanField field = some safe) : Listed fieldKeys safe := by
  have hsub : ∀ key ∈ ["field_id", "label", "input_type", "required"], key ∈ fieldKeys := by decide
  unfold cleanField at h
  split at h
  · rename_i picked record hpick
    have hkeys : KeysIn ["field_id", "label", "input_type", "required"] picked := pick_keysIn hpick
    have hpicked : KeysIn fieldKeys picked := fun field hfield => hsub _ (hkeys field hfield)
    split at h
    · cases h
      exact ⟨_, rfl, hpicked.assign (by decide) _⟩
    · cases h
      exact ⟨_, rfl, hpicked⟩
  · cases h

/-- The records in a value that should be a list: those in a list, or the one that is there instead. -/
def ListedItems (keys : List String) : Option Json → Prop
  | some (.arr items) => ∀ item ∈ items, Listed keys item
  | some (.obj record) => KeysIn keys record
  | _ => True

/-- A value that is no record with other keys. -/
def NoStray (keys : List String) : Option Json → Prop
  | some (.obj record) => KeysIn keys record
  | _ => True

/-- The items that were cleaned are listed; a value that is no list is as it was. -/
theorem listedItems_amended_iff {keys : List String} {f : Json → Option Json}
    (hf : ∀ item cleaned, f item = some cleaned → Listed keys cleaned) (value : Option Json) :
    ListedItems keys (match value with
      | some (.arr items) => some (.arr (items.filterMap f))
      | value => value) ↔ NoStray keys value := by
  rcases value with _ | (_ | _ | _ | _ | _ | _ | items | record)
  · exact Iff.rfl
  · exact Iff.rfl
  · exact Iff.rfl
  · exact Iff.rfl
  · exact Iff.rfl
  · exact Iff.rfl
  · exact Iff.rfl
  · refine iff_of_true (fun cleaned hcleaned => ?_) trivial
    obtain ⟨item, -, hitem⟩ := List.mem_filterMap.1 hcleaned
    exact hf item cleaned hitem
  · exact Iff.rfl

/-! ## Data -/

section
variable {type : EventType} {record : Obj}

/-- The data with its references cleaned. -/
def cleanRefs (type : EventType) (record : Obj) : Obj :=
  amend "snapshot_ref" cleanArtifactRef (amend "artifact_ref" cleanArtifactRef
    (record.filter (·.1 ∈ dataAllowlist type)))

theorem cleanData_obj (type : EventType) (record : Obj) :
    cleanData type (some (.obj record)) = amendType type (cleanRefs type record) := rfl

theorem cleanRefs_keysIn (type : EventType) (record : Obj) : KeysIn (dataAllowlist type) (cleanRefs type record) := by
  have hfilter : KeysIn (dataAllowlist type) (record.filter (·.1 ∈ dataAllowlist type)) := fun field hfield =>
    of_decide_eq_true (List.mem_filter.1 hfield).2
  exact (hfilter.amend _).amend _

theorem cleanData_keysIn (type : EventType) (value : Option Json) :
    KeysIn (dataAllowlist type) (cleanData type value) := by
  unfold cleanData
  split
  · rename_i record
    have hrefs := cleanRefs_keysIn type record
    show KeysIn _ (amendType type (cleanRefs type record))
    cases type
    case agentActivity => exact hrefs.amendItems _
    case citationAdded => exact hrefs.assign (by decide) _
    case inputRequired => exact hrefs.amendItems _
    case runFailed => exact KeysIn.amend hrefs fun error => (pick error ["code", "message", "retryable"]).map .obj
    all_goals exact hrefs
  · intro field hfield
    cases hfield

/-- The references of the data. -/
theorem get?_cleanRefs_ref {key : String} (hkey : key ∈ ["artifact_ref", "snapshot_ref"]) {value : Json}
    (h : Obj.get? (cleanRefs type record) key = some value) : Listed artifactRefKeys value := by
  have hclean : ∀ {old : Option Json}, (old.bind fun value => cleanArtifactRef (some value)) = some value →
      Listed artifactRefKeys value := by
    intro old hold
    obtain ⟨ref, -, href⟩ := Option.bind_eq_some_iff.1 hold
    exact listed_of_pick href
  unfold cleanRefs at h
  rw [get?_amend] at h
  split at h
  · exact hclean h
  · rw [get?_amend] at h
    split at h
    · exact hclean h
    · simp only [List.mem_cons, List.not_mem_nil, or_false] at hkey
      rcases hkey with rfl | rfl
      · contradiction
      · contradiction

/-- Other data of the references' cleaning. -/
theorem get?_cleanRefs {key : String} (hartifact : key ≠ "artifact_ref") (hsnapshot : key ≠ "snapshot_ref")
    (hkey : key ∈ dataAllowlist type) : Obj.get? (cleanRefs type record) key = Obj.get? record key := by
  unfold cleanRefs
  rw [get?_amend, if_neg hsnapshot, get?_amend, if_neg hartifact]
  refine (get?_filter record (fun name => name ∈ dataAllowlist type) key).trans ?_
  rw [if_pos (decide_eq_true hkey)]

/-- A reference is not amended any more. -/
theorem get?_amendType_ref {key : String} (hkey : key ∈ ["artifact_ref", "snapshot_ref"]) (clean : Obj) :
    Obj.get? (amendType type clean) key = Obj.get? clean key := by
  have hne : key ≠ "sources" ∧ key ≠ "citation" ∧ key ≠ "fields" ∧ key ≠ "error" := by
    simp only [List.mem_cons, List.not_mem_nil, or_false] at hkey
    rcases hkey with rfl | rfl <;> decide
  obtain ⟨hsources, hcitation, hfields, herror⟩ := hne
  cases type
  case agentActivity => exact (get?_amendItems _).trans (if_neg hsources)
  case citationAdded => exact get?_assign_ne hcitation _
  case inputRequired => exact (get?_amendItems _).trans (if_neg hfields)
  case runFailed =>
    exact (get?_amend fun error => (pick error ["code", "message", "retryable"]).map .obj).trans (if_neg herror)
  all_goals rfl

/-- **What an event of the contract carries**, if its sources and its fields are listed. -/
structure Closed (type : EventType) (data : Obj) : Prop where
  keys : KeysIn (dataAllowlist type) data
  refs : ∀ key ∈ ["artifact_ref", "snapshot_ref"], ∀ value,
    Obj.get? data key = some value → Listed artifactRefKeys value
  citation : ∀ value, Obj.get? data "citation" = some value → ListedCitation value
  error : ∀ value, Obj.get? data "error" = some value → Listed errorKeys value
  sources : ListedItems activitySourceKeys (Obj.get? data "sources")
  fields : ListedItems fieldKeys (Obj.get? data "fields")

/-- What is at a key of another type. -/
theorem get?_cleanData_of_not_allowed {key : String} (hkey : key ∉ dataAllowlist type) (value : Option Json) :
    Obj.get? (cleanData type value) key = none := (cleanData_keysIn type value).get?_eq_none hkey

/-- The sources of an activity, and the fields of a form. -/
theorem get?_cleanData_sources (record : Obj) : Obj.get? (cleanData .agentActivity (some (.obj record))) "sources" =
    match Obj.get? record "sources" with
    | some (.arr items) => some (.arr (items.filterMap cleanActivitySource))
    | value => value := by
  rw [cleanData_obj]
  refine (get?_amendItems cleanActivitySource).trans ?_
  rw [if_pos rfl, get?_cleanRefs (by decide) (by decide) (by decide)]

theorem get?_cleanData_fields (record : Obj) : Obj.get? (cleanData .inputRequired (some (.obj record))) "fields" =
    match Obj.get? record "fields" with
    | some (.arr items) => some (.arr (items.filterMap cleanField))
    | value => value := by
  rw [cleanData_obj]
  refine (get?_amendItems cleanField).trans ?_
  rw [if_pos rfl, get?_cleanRefs (by decide) (by decide) (by decide)]

/-- The data of a value. -/
def property? (value : Option Json) (key : String) : Option Json :=
  match value with
  | some (.obj record) => Obj.get? record key
  | _ => none

/-- No record stands in place of the sources of an activity, or of the fields of a form, with a key that is not one of
    theirs. -/
def NoStrayItems (type : EventType) (value : Option Json) : Prop :=
  (type = .agentActivity → NoStray activitySourceKeys (property? value "sources")) ∧
    (type = .inputRequired → NoStray fieldKeys (property? value "fields"))

theorem cleanData_sources_iff (type : EventType) (value : Option Json) :
    ListedItems activitySourceKeys (Obj.get? (cleanData type value) "sources") ↔
      (type = .agentActivity → NoStray activitySourceKeys (property? value "sources")) := by
  by_cases htype : type = .agentActivity
  · subst htype
    rw [forall_prop_of_true rfl]
    have hitem : ∀ item cleaned, cleanActivitySource item = some cleaned → Listed activitySourceKeys cleaned :=
      fun item cleaned h => listed_of_pick h
    rcases value with _ | (_ | _ | _ | _ | _ | _ | _ | record)
    case some.obj =>
      rw [get?_cleanData_sources]
      exact listedItems_amended_iff hitem (Obj.get? record "sources")
    all_goals exact Iff.rfl
  · have hkey : "sources" ∉ dataAllowlist type := by
      cases type
      case agentActivity => exact absurd rfl htype
      all_goals decide
    rw [get?_cleanData_of_not_allowed hkey]
    exact iff_of_true trivial fun h => absurd h htype

theorem cleanData_fields_iff (type : EventType) (value : Option Json) :
    ListedItems fieldKeys (Obj.get? (cleanData type value) "fields") ↔
      (type = .inputRequired → NoStray fieldKeys (property? value "fields")) := by
  by_cases htype : type = .inputRequired
  · subst htype
    rw [forall_prop_of_true rfl]
    rcases value with _ | (_ | _ | _ | _ | _ | _ | _ | record)
    case some.obj =>
      rw [get?_cleanData_fields]
      exact listedItems_amended_iff (fun item cleaned h => cleanField_listed h) (Obj.get? record "fields")
    all_goals exact Iff.rfl
  · have hkey : "fields" ∉ dataAllowlist type := by
      cases type
      case inputRequired => exact absurd rfl htype
      all_goals decide
    rw [get?_cleanData_of_not_allowed hkey]
    exact iff_of_true trivial fun h => absurd h htype

/-- The citation of an event. -/
theorem cleanData_citation {value : Option Json} {citation : Json}
    (h : Obj.get? (cleanData type value) "citation" = some citation) : ListedCitation citation := by
  by_cases htype : type = .citationAdded
  · subst htype
    unfold cleanData at h
    split at h
    · have hclean := (get?_assign_self _).symm.trans h
      exact cleanCitation_listed hclean
    · cases h
  · have hkey : "citation" ∉ dataAllowlist type := by
      cases type
      case citationAdded => exact absurd rfl htype
      all_goals decide
    rw [get?_cleanData_of_not_allowed hkey] at h
    cases h

/-- The error of an event. -/
theorem cleanData_error {value : Option Json} {error : Json}
    (h : Obj.get? (cleanData type value) "error" = some error) : Listed errorKeys error := by
  by_cases htype : type = .runFailed
  · subst htype
    unfold cleanData at h
    split at h
    · have hclean := (get?_amend (fun error => (pick error ["code", "message", "retryable"]).map .obj)).symm.trans h
      rw [if_pos rfl] at hclean
      obtain ⟨old, -, herror⟩ := Option.bind_eq_some_iff.1 hclean
      exact listed_of_pick herror
    · cases h
  · have hkey : "error" ∉ dataAllowlist type := by
      cases type
      case runFailed => exact absurd rfl htype
      all_goals decide
    rw [get?_cleanData_of_not_allowed hkey] at h
    cases h

/-- **The data of a type is closed if and only if no other record stands in place of its items.** -/
theorem cleanData_closed_iff (type : EventType) (value : Option Json) :
    Closed type (cleanData type value) ↔ NoStrayItems type value := by
  constructor
  · intro h
    exact ⟨(cleanData_sources_iff type value).1 h.sources, (cleanData_fields_iff type value).1 h.fields⟩
  · rintro ⟨hsources, hfields⟩
    refine ⟨cleanData_keysIn type value, fun key hkey ref href => ?_, fun _ h => cleanData_citation h,
      fun _ h => cleanData_error h, (cleanData_sources_iff type value).2 hsources,
        (cleanData_fields_iff type value).2 hfields⟩
    unfold cleanData at href
    split at href
    · rename_i record
      exact get?_cleanRefs_ref hkey ((get?_amendType_ref hkey (cleanRefs type record)).symm.trans href)
    · cases href

end

/-! ## The filter and the reducer -/

theorem one_le_seq {record : Obj} {envelope : Envelope} (h : envelope? record = some envelope) : 1 ≤ envelope.seq := by
  simp only [envelope?, Option.bind_eq_bind, Option.bind_eq_some_iff, Option.guard_eq_some'] at h
  obtain ⟨_, _, seq, -, _, hseq, _, -, _, -, _, -, _, -, _, -, _, -, h⟩ := h
  cases h
  exact hseq

/-- The event that a type, an envelope and data are. -/
def FilteredEvent.ofPublic (event : PublicRunEvent) : FilteredEvent where
  envelope := ⟨event.eventId, event.seq, event.occurredAt, event.tripId, event.runId, event.traceId⟩
  type := .contract event.type
  data := event.data

theorem parsePublicRunEvent_eq (record : Obj) : parsePublicRunEvent (.obj record) =
    ((string? (Obj.get? record "type")).bind publicRunEventType?).bind fun type =>
      (envelope? record).map fun envelope =>
        FilteredEvent.event ⟨envelope, .contract type, cleanData type (Obj.get? record "data")⟩ type := by
  unfold parsePublicRunEvent envelope?
  simp only [Option.bind_eq_bind, Option.map_bind, Function.comp_def]
  rfl

/-- Where the type is no inherited name, the filter lets through what is parsed. -/
theorem filterEvent_eq_parse {record : Obj}
    (h : ∀ name, (string? (Obj.get? record "type")).bind eventName? ≠ some (.inherited name)) :
    filterEvent (.obj record) = .ok ((parsePublicRunEvent (.obj record)).map FilteredEvent.ofPublic) := by
  rw [parsePublicRunEvent_eq]
  unfold filterEvent
  dsimp only
  cases htype : string? (Obj.get? record "type") with
  | none => rfl
  | some value =>
    rw [htype, Option.bind_some] at h
    rw [Option.bind_some, Option.bind_some]
    unfold eventName? at h ⊢
    cases hname : publicRunEventType? value with
    | some type => cases henvelope : envelope? record with
      | none => rfl
      | some envelope => rfl
    | none =>
      rw [hname] at h
      dsimp only at h ⊢
      split
      · rename_i heq _
        split at heq
        · rename_i hmem
          exact absurd (if_pos hmem) (h value)
        · cases heq
      · rfl

section
variable (N : NumberText)

/-- A value that turns into a text, which is a lifecycle for texts only. -/
def Readable (value : Option Json) : Prop :=
  ∀ v, value = some v → ∃ text, textOf N v = some text ∧ (isString v ∨ Lifecycle.ofValue? text = none)

theorem coerceLifecycle_iff (value : Option Json) (fallback : Lifecycle) :
    (∃ lifecycle, coerceLifecycle N value fallback = .lifecycle lifecycle) ↔ Readable N value := by
  unfold coerceLifecycle Readable
  cases value with
  | none => exact iff_of_true ⟨fallback, rfl⟩ fun v h => nomatch h
  | some value =>
    dsimp only
    cases htext : textOf N value with
    | none =>
      refine iff_of_false (fun ⟨_, h⟩ => nomatch h) fun h => ?_
      obtain ⟨text, hsome, -⟩ := h value rfl
      rw [htext] at hsome
      cases hsome
    | some text =>
      dsimp only
      cases hname : Lifecycle.ofValue? text with
      | none =>
        refine iff_of_true ⟨fallback, rfl⟩ ?_
        rintro v ⟨⟩
        exact ⟨text, htext, .inr hname⟩
      | some lifecycle =>
        dsimp only
        by_cases hstring : isString value
        · rw [if_pos hstring]
          refine iff_of_true ⟨lifecycle, rfl⟩ ?_
          rintro v ⟨⟩
          exact ⟨text, htext, .inl hstring⟩
        · rw [if_neg hstring]
          refine iff_of_false (fun ⟨_, h⟩ => nomatch h) fun h => ?_
          obtain ⟨text', hsome, hor⟩ := h value rfl
          rw [htext] at hsome
          cases hsome
          rcases hor with h | h
          · exact hstring h
          · rw [hname] at h
            cases h

theorem get?_cleanData_lifecycle (value : Option Json) :
    Obj.get? (cleanData .runLifecycleChanged value) "lifecycle_state" = property? value "lifecycle_state" := by
  rcases value with _ | (_ | _ | _ | _ | _ | _ | _ | record)
  case some.obj => exact get?_cleanRefs (by decide) (by decide) (by decide)
  all_goals rfl

/-- Where the lifecycle can be read, an event of the contract gives a state. -/
theorem reduceType_iff (next : RunUiState) (event : PublicRunEvent) :
    (∃ state, reduceType N next event = .state state) ↔
      (event.type = .runLifecycleChanged → Readable N (Obj.get? event.data "lifecycle_state")) := by
  rw [← coerceLifecycle_iff N _ next.lifecycle]
  unfold reduceType
  split
  · rename_i htype
    rw [forall_prop_of_true htype]
    cases coerceLifecycle N (Obj.get? event.data "lifecycle_state") next.lifecycle with
    | raised => exact iff_of_false (fun ⟨_, h⟩ => nomatch h) fun ⟨_, h⟩ => nomatch h
    | lifecycle lifecycle => exact iff_of_true ⟨_, rfl⟩ ⟨lifecycle, rfl⟩
    | untyped value => exact iff_of_false (fun ⟨_, h⟩ => nomatch h) fun ⟨_, h⟩ => nomatch h
  · rename_i htype
    exact iff_of_true ⟨_, rfl⟩ fun h => absurd h htype

/-- The reducer gives a state for every state if it gives one for the first event of a run. -/
theorem reduceEvent_iff {type : EventType} {envelope : Envelope} {data : Obj} (hseq : 1 ≤ envelope.seq) :
    (∀ state, ∃ state', reduceEvent N state ⟨envelope, .contract type, data⟩ = .state state') ↔
      (type = .runLifecycleChanged → Readable N (Obj.get? data "lifecycle_state")) := by
  constructor
  · intro h
    obtain ⟨state', hstate⟩ := h {}
    unfold reduceEvent at hstate
    rw [if_neg (by simp), if_neg (Int.not_le.2 (Int.lt_of_lt_of_le Int.zero_lt_one hseq))] at hstate
    exact (reduceType_iff N _ _).1 ⟨state', hstate⟩
  · intro h state
    unfold reduceEvent
    split
    · exact ⟨state, rfl⟩
    · split
      · exact ⟨state, rfl⟩
      · exact (reduceType_iff N _ (FilteredEvent.event ⟨envelope, .contract type, data⟩ type)).2 h

/-- A text is a lifecycle or not. -/
theorem coerceLifecycle_of_text {value : Option Json} (h : ∀ v, value = some v → isString v) (fallback : Lifecycle) :
    coerceLifecycle N value fallback = .lifecycle (lifecycle value fallback) := by
  cases value with
  | none => rfl
  | some value =>
    cases value with
    | str s =>
      unfold coerceLifecycle lifecycle
      simp only [textOf, string?, Option.bind_some]
      cases Lifecycle.ofValue? s with
      | none => rfl
      | some lifecycle => rfl
    | _ => cases h _ rfl

/-- Where the lifecycle is a text, the reducer is that of the events that were parsed. -/
theorem reduceEvent_eq_applyEvent (event : PublicRunEvent) (state : RunUiState)
    (h : event.type = .runLifecycleChanged → ∀ value,
      Obj.get? event.data "lifecycle_state" = some value → isString value) :
    reduceEvent N state (.ofPublic event) = .state (applyEvent state event) := by
  have htype : reduceType N (countEvent state event) event = .state (applyType (countEvent state event) event) := by
    unfold reduceType
    split
    · rename_i hlifecycle
      rw [coerceLifecycle_of_text N (h hlifecycle), applyType, hlifecycle]
    · rfl
  unfold applyEvent
  rw [apply_ite Reduced.state, apply_ite Reduced.state, ← htype]
  rfl

/-- A value is filtered without a throw, what is let through is closed, and the reducer makes a state of it. -/
def TotalAndClosed (value : Json) : Prop :=
  ∃ result, filterEvent value = .ok result ∧ ∀ filtered, result = some filtered →
    (∃ type, filtered.type = .contract type ∧ Closed type filtered.data) ∧
      ∀ state, ∃ state', reduceEvent N state filtered = .state state'

/-- The type of a value with the envelope of an event is one of the contract, no record stands in place of
    its items, and its lifecycle can be read. -/
def Expected (value : Json) : Prop :=
  ∀ record name envelope, value = .obj record → (string? (Obj.get? record "type")).bind eventName? = some name →
    envelope? record = some envelope →
      ∃ type, name = .contract type ∧ NoStrayItems type (Obj.get? record "data") ∧
        (type = .runLifecycleChanged → Readable N (property? (Obj.get? record "data") "lifecycle_state"))

theorem filterEvent_of_not_record {value : Json} (h : ∀ record, value ≠ .obj record) :
    filterEvent value = .ok none := by
  cases value with
  | obj record => exact absurd rfl (h record)
  | _ => rfl

theorem filterEvent_of_none {record : Obj}
    (h : (string? (Obj.get? record "type")).bind eventName? = none ∨ envelope? record = none) :
    filterEvent (.obj record) = .ok none := by
  unfold filterEvent
  dsimp only
  split
  · rename_i name envelope hname henvelope
    rw [hname, henvelope] at h
    rcases h with h | h <;> cases h
  · rfl

theorem filterEvent_of_some {record : Obj} {name : EventName} {envelope : Envelope}
    (hname : (string? (Obj.get? record "type")).bind eventName? = some name)
    (henvelope : envelope? record = some envelope) :
    filterEvent (.obj record) =
      (filterData name (Obj.get? record "data")).map fun data => some ⟨envelope, name, data⟩ := by
  unfold filterEvent
  dsimp only
  rw [hname, henvelope]

/-- **The filter is total and closed, and the reducer gives a state, for exactly the values that are expected.** -/
theorem totalAndClosed_iff (value : Json) : TotalAndClosed N value ↔ Expected N value := by
  by_cases hrecord : ∃ record, value = .obj record
  · obtain ⟨record, rfl⟩ := hrecord
    cases hname : (string? (Obj.get? record "type")).bind eventName? with
    | none =>
      refine iff_of_true ⟨none, filterEvent_of_none (.inl hname), fun _ h => nomatch h⟩ ?_
      rintro _ name envelope ⟨⟩ hsome -
      rw [hname] at hsome
      cases hsome
    | some name =>
      cases henvelope : envelope? record with
      | none =>
        refine iff_of_true ⟨none, filterEvent_of_none (.inr henvelope), fun _ h => nomatch h⟩ ?_
        rintro _ name envelope ⟨⟩ - hsome
        rw [henvelope] at hsome
        cases hsome
      | some envelope =>
        have hfilter := filterEvent_of_some hname henvelope
        constructor
        · rintro ⟨result, hresult, hall⟩ _ _ _ ⟨⟩ hname' henvelope'
          rw [hname] at hname'
          rw [henvelope] at henvelope'
          cases hname'
          cases henvelope'
          rw [hfilter] at hresult
          cases name with
          | inherited name =>
            unfold filterData at hresult
            split at hresult
            · contradiction
            · cases hresult
            · cases hresult
              obtain ⟨⟨type, htype, -⟩, -⟩ := hall _ rfl
              cases htype
          | contract type =>
            cases hresult
            obtain ⟨⟨type', htype, hclosed⟩, hreduced⟩ := hall _ rfl
            cases htype
            refine ⟨type, rfl, (cleanData_closed_iff type _).1 hclosed, ?_⟩
            rintro rfl
            rw [← get?_cleanData_lifecycle]
            exact (reduceEvent_iff N (one_le_seq henvelope)).1 hreduced rfl
        · intro h
          obtain ⟨type, rfl, hitems, hreadable⟩ := h record name envelope rfl hname henvelope
          refine ⟨_, hfilter, ?_⟩
          rintro filtered ⟨⟩
          refine ⟨⟨type, rfl, (cleanData_closed_iff type _).2 hitems⟩, ?_⟩
          refine (reduceEvent_iff N (one_le_seq henvelope)).2 ?_
          rintro rfl
          rw [get?_cleanData_lifecycle]
          exact hreadable rfl
  · have hnone : ∀ record, value ≠ .obj record := fun record h => hrecord ⟨record, h⟩
    refine iff_of_true ⟨none, filterEvent_of_not_record hnone, fun _ h => nomatch h⟩ ?_
    rintro record _ _ rfl
    exact absurd rfl (hnone record)

end

/-- A change of the lifecycle, with a key that is not public. -/
def runningEvent : Json :=
  .obj [("event_id", .str "e2"), ("schema_version", .int 1), ("seq", .int 2), ("type", .str "run.lifecycle_changed"),
    ("occurred_at", .str "2026-10-01T00:00:01Z"), ("trip_id", .str "t1"), ("run_id", .str "r1"),
      ("trace_id", .str "x1"),
    ("audience", .str "trip_members"), ("data", .obj [("lifecycle_state", .str "running"), ("worker", .str "w1")])]

theorem totalAndClosed_running :
    (∃ filtered, filterEvent runningEvent = .ok (some filtered) ∧
      filtered.data = [("lifecycle_state", .str "running")]) ∧
      ∀ N : NumberText, TotalAndClosed N runningEvent := by
  refine ⟨⟨_, rfl, rfl⟩, fun N => (totalAndClosed_iff N runningEvent).2 ?_⟩
  rintro _ _ _ ⟨⟩ ⟨⟩ ⟨⟩
  refine ⟨.runLifecycleChanged, rfl, ⟨(fun h => nomatch h), fun h => nomatch h⟩, fun _ value hvalue => ?_⟩
  cases hvalue
  exact ⟨"running", rfl, .inl rfl⟩

/-- An event whose type is a name that every object inherits. -/
def toStringEvent : Json :=
  .obj [("event_id", .str "e1"), ("schema_version", .int 1), ("seq", .int 1), ("type", .str "toString"),
    ("occurred_at", .str "2026-10-01T00:00:00Z"), ("trip_id", .str "t1"), ("run_id", .str "r1"),
      ("trace_id", .str "x1"),
    ("audience", .str "trip_members"), ("data", .obj [("phase", .str "accepted")])]

theorem toStringEvent_raises :
    filterEvent toStringEvent = .error .typeError ∧ ∀ N : NumberText, ¬ TotalAndClosed N toStringEvent := by
  have hraises : filterEvent toStringEvent = .error .typeError := rfl
  refine ⟨hraises, ?_⟩
  rintro N ⟨result, hresult, -⟩
  rw [hraises] at hresult
  cases hresult

end RoutePilot.Web
