/-
  What an imported trip archive keeps of a legacy record.

  A value inside the projection of a value is the projection of a value inside it, as deep
  as it lies (`inside_publicValue`): the keys, the lists, the texts and the depth of an
  artifact are read off this.  A projection does not change when private entries do
  (`PrivateEdit.publicValue_eq`), and so neither does the first one that is not empty.
-/
import RoutePilot.Migration.Records
import Mathlib.Data.List.Forall2
import Mathlib.Logic.Relation

namespace RoutePilot.Migration

open Lib

/-! ## Values inside values -/

/-- A value inside a value. -/
inductive Value.Within (value : Value) : Value → Prop where
  | self : Within value value
  | item {items : List Value} {item : Value} : item ∈ items → Within value item → Within value (.list items)
  | entry {entries : Mapping} {entry : String × Value} : entry ∈ entries → Within value entry.2 →
      Within value (.dict entries)

/-- A JSON value that lies a number of levels inside another. -/
inductive Inside (inner : Json) : ℕ → Json → Prop where
  | self : Inside inner 0 inner
  | item {n : ℕ} {items : List Json} {item : Json} : item ∈ items → Inside inner n item →
    Inside inner (n + 1) (.arr items)
  | field {n : ℕ} {fields : List (String × Json)} {field : String × Json} : field ∈ fields → Inside inner n field.2 →
      Inside inner (n + 1) (.obj fields)

theorem Value.Within.trans {a b c : Value} (hab : a.Within b) (hbc : b.Within c) : a.Within c := by
  induction hbc with
  | self => exact hab
  | item hmem _ ih => exact .item hmem ih
  | entry hmem _ ih => exact .entry hmem ih

/-- What a mapping has at a key. -/
theorem get_within (mapping : Mapping) (key : String) :
    Mapping.get mapping key = .none ∨ (Mapping.get mapping key).Within (.dict mapping) := by
  unfold Mapping.get
  cases hlookup : mapping.lookup key with
  | none => exact .inl rfl
  | some value =>
    obtain ⟨l₁, l₂, rfl, -⟩ := List.lookup_eq_some_iff.1 hlookup
    exact .inr (.entry (List.mem_append_right _ List.mem_cons_self) .self)

/-- What a mapping that lies in a value has at a key. -/
theorem get_within_of_within (mapping : Mapping) (key : String) {whole : Value}
    (h : (Value.dict mapping).Within whole) :
    Mapping.get mapping key = .none ∨ (Mapping.get mapping key).Within whole :=
  (get_within mapping key).imp_right fun hwithin => hwithin.trans h

variable {P : Python}

/-! ## The public projection -/

/-- An entry that is not kept at a level. -/
def Private (P : Python) (depth : ℕ) (key : String) : Prop :=
  P.denied key ∨ depth = 0 ∧ key ∉ allowedPublicArtifactKeys

theorem publicItems_eq_map (depth : ℕ) (items : List Value) :
    publicItems P depth items = items.map (publicValue P depth) := by
  induction items with
  | nil => rfl
  | cons item items ih => rw [publicItems, ih, List.map_cons]

theorem publicEntries_cons_of_private {depth : ℕ} {key : String} (h : Private P depth key) (item : Value)
    (entries : Mapping) : publicEntries P depth ((key, item) :: entries) = publicEntries P depth entries := by
  rw [publicEntries]
  rcases h with hdenied | hunlisted
  · rw [if_pos hdenied]
  · rw [if_pos hunlisted, ite_self]

theorem publicEntries_cons_of_public {depth : ℕ} {key : String} (h : ¬ Private P depth key) (item : Value)
    (entries : Mapping) : publicEntries P depth ((key, item) :: entries) =
      (key, publicValue P (depth + 1) item) :: publicEntries P depth entries := by
  obtain ⟨hdenied, hlisted⟩ := not_or.1 h
  rw [publicEntries, if_neg hdenied, if_neg hlisted]

theorem publicEntries_append (depth : ℕ) (front back : Mapping) :
    publicEntries P depth (front ++ back) = publicEntries P depth front ++ publicEntries P depth back := by
  induction front with
  | nil => rfl
  | cons entry front ih =>
    obtain ⟨key, item⟩ := entry
    by_cases h : Private P depth key
    · rw [List.cons_append, publicEntries_cons_of_private h, publicEntries_cons_of_private h, ih]
    · rw [List.cons_append, publicEntries_cons_of_public h, publicEntries_cons_of_public h, ih, List.cons_append]

/-- A field of a projection. -/
theorem mem_publicEntries {depth : ℕ} {entries : Mapping} {field : String × Json}
    (h : field ∈ publicEntries P depth entries) :
    ¬ Private P depth field.1 ∧ ∃ entry ∈ entries, field.2 = publicValue P (depth + 1) entry.2 := by
  induction entries with
  | nil => cases h
  | cons entry entries ih =>
    obtain ⟨key, item⟩ := entry
    by_cases hprivate : Private P depth key
    · rw [publicEntries_cons_of_private hprivate] at h
      obtain ⟨hpublic, entry, hmem, heq⟩ := ih h
      exact ⟨hpublic, entry, List.mem_cons_of_mem _ hmem, heq⟩
    · rw [publicEntries_cons_of_public hprivate] at h
      rcases List.mem_cons.1 h with rfl | h
      · exact ⟨hprivate, (key, item), List.mem_cons_self, rfl⟩
      · obtain ⟨hpublic, entry, hmem, heq⟩ := ih h
        exact ⟨hpublic, entry, List.mem_cons_of_mem _ hmem, heq⟩

theorem bounded_of_le {depth : ℕ} (h : depth ≤ 8) (value : Json) : bounded depth value = value :=
    if_neg (Nat.not_lt.2 h)

theorem bounded_of_lt {depth : ℕ} (h : 8 < depth) (value : Json) : bounded depth value = .null := if_pos h

/-- Below the eighth level nothing is kept. -/
theorem publicValue_of_lt {depth : ℕ} (h : 8 < depth) (value : Value) : publicValue P depth value = .null := by
  cases value <;> simp only [publicValue, bounded_of_lt h]

/-- An object is projected from a mapping. -/
theorem publicValue_eq_obj {depth : ℕ} {value : Value} {fields : List (String × Json)}
    (h : publicValue P depth value = .obj fields) :
    depth ≤ 8 ∧ ∃ entries, value = .dict entries ∧ fields = publicEntries P depth entries := by
  by_cases hdeep : 8 < depth
  · rw [publicValue_of_lt hdeep] at h
    cases h
  · have hle := Nat.not_lt.1 hdeep
    cases value <;> simp only [publicValue, bounded_of_le hle, Json.obj.injEq, reduceCtorEq] at h
    exact ⟨hle, _, rfl, h.symm⟩

/-- A list is projected from a list. -/
theorem publicValue_eq_arr {depth : ℕ} {value : Value} {items : List Json}
    (h : publicValue P depth value = .arr items) :
    depth ≤ 8 ∧ ∃ legacy, value = .list legacy ∧ items = (legacy.map (publicValue P (depth + 1))).take 1000 := by
  by_cases hdeep : 8 < depth
  · rw [publicValue_of_lt hdeep] at h
    cases h
  · have hle := Nat.not_lt.1 hdeep
    cases value <;> simp only [publicValue, bounded_of_le hle, Json.arr.injEq, reduceCtorEq] at h
    exact ⟨hle, _, rfl, by rw [← h, publicItems_eq_map]⟩

/-- A text is a cleaned one. -/
theorem publicValue_eq_str {depth : ℕ} {value : Value} {s : String} (h : publicValue P depth value = .str s) :
    s = cleanString P value := by
  by_cases hdeep : 8 < depth
  · rw [publicValue_of_lt hdeep] at h
    cases h
  · cases value <;> simp only [publicValue, bounded_of_le (Nat.not_lt.1 hdeep), Json.str.injEq, reduceCtorEq] at h
    · exact h.symm
    · exact h.symm

/-- **What is inside a projection is the projection of what is inside**, at its level. -/
theorem inside_publicValue {inner whole : Json} {n : ℕ} (h : Inside inner n whole) :
    ∀ {depth : ℕ} {value : Value}, whole = publicValue P depth value →
      (∃ part : Value, part.Within value ∧ inner = publicValue P (depth + n) part) ∧ (0 < n → depth + n ≤ 9) := by
  induction h with
  | self => exact fun {depth value} heq => ⟨⟨value, .self, heq⟩, fun hpos => absurd hpos (Nat.lt_irrefl 0)⟩
  | @item n items item hmem _ ih =>
    intro depth value heq
    obtain ⟨hle, legacy, rfl, rfl⟩ := publicValue_eq_arr heq.symm
    obtain ⟨old, hold, hitem⟩ := List.mem_map.1 (List.mem_of_mem_take hmem)
    obtain ⟨⟨part, hpart, hinner⟩, hbound⟩ := ih hitem.symm
    rw [show depth + 1 + n = depth + (n + 1) by omega] at hinner
    refine ⟨⟨part, .item hold hpart, hinner⟩, fun _ => ?_⟩
    rcases Nat.eq_zero_or_pos n with rfl | hpos
    · omega
    · have := hbound hpos
      omega
  | @field n fields field hmem _ ih =>
    intro depth value heq
    obtain ⟨hle, entries, rfl, rfl⟩ := publicValue_eq_obj heq.symm
    obtain ⟨-, entry, hentry, hfield⟩ := mem_publicEntries hmem
    obtain ⟨⟨part, hpart, hinner⟩, hbound⟩ := ih hfield
    rw [show depth + 1 + n = depth + (n + 1) by omega] at hinner
    refine ⟨⟨part, .entry hentry hpart, hinner⟩, fun _ => ?_⟩
    rcases Nat.eq_zero_or_pos n with rfl | hpos
    · omega
    · have := hbound hpos
      omega

/-! ## Artifacts -/

/-- An artifact that is not empty is the projection of a candidate. -/
theorem extractSourceArtifact_cases (messages : List Value) (payload : Mapping) :
    extractSourceArtifact P messages payload = [] ∨ ∃ candidate ∈ artifactCandidates messages payload,
      Json.obj (extractSourceArtifact P messages payload) = publicValue P 0 candidate := by
  unfold extractSourceArtifact
  generalize hfound : List.findSome? _ (artifactCandidates messages payload).reverse = found
  cases found with
  | none => exact .inl rfl
  | some fields =>
    obtain ⟨candidate, hmem, hcandidate⟩ := List.exists_of_findSome?_eq_some hfound
    refine .inr ⟨candidate, List.mem_reverse.1 hmem, ?_⟩
    split at hcandidate
    · rename_i hpublic
      cases hcandidate
      exact hpublic.symm
    · cases hcandidate

theorem rawMessages_within {payload : Mapping} {message : Value} (h : message ∈ rawMessages payload) :
    message.Within (.dict payload) := by
  unfold rawMessages at h
  split at h
  · rename_i messages hget
    rcases get_within payload "messages" with hnone | hwithin
    · rw [hget] at hnone
      cases hnone
    · rw [hget] at hwithin
      exact Value.Within.trans (.item h .self) hwithin
  · cases h

/-- A candidate lies in the payload, or there is nothing at its key. -/
theorem artifactCandidates_within {payload : Mapping} {candidate : Value}
    (h : candidate ∈ artifactCandidates (rawMessages payload) payload) :
    candidate = .none ∨ candidate.Within (.dict payload) := by
  unfold artifactCandidates at h
  rcases List.mem_append.1 h with hdiagnosed | hdelivered
  · obtain ⟨message, hmessage, hcandidate⟩ := List.mem_filterMap.1 hdiagnosed
    have hwithin := rawMessages_within hmessage
    split at hcandidate
    · rename_i entries
      split at hcandidate
      · rename_i diagnostics hdiagnostics
        cases hcandidate
        rcases get_within_of_within entries "diagnostics" hwithin with hnone | hinside
        · rw [hdiagnostics] at hnone
          cases hnone
        · rw [hdiagnostics] at hinside
          exact get_within_of_within _ _ hinside
      · cases hcandidate
    · cases hcandidate
  · split at hdelivered
    · rename_i delivery hdelivery
      rcases get_within payload "delivery_bundle" with hnone | hinside
      · rw [hdelivery] at hnone
        cases hnone
      · rw [hdelivery] at hinside
        simp only [List.mem_cons, List.not_mem_nil, or_false] at hdelivered
        rcases hdelivered with rfl | rfl | rfl
        · exact get_within_of_within _ _ hinside
        · exact get_within_of_within _ _ hinside
        · exact get_within_of_within _ _ hinside
    · cases hdelivered

/-! ## Messages -/

/-- A text that is not empty is not that of a missing value, where the search for secrets finds none in an
    empty text. -/
theorem cleanString_none (hredact : P.redact "" = "") (maximum : ℕ) : cleanString P .none maximum = "" := by
  have htext : P.text .none = "" := rfl
  unfold cleanString
  rw [htext]
  show htmlEscape (pyTake maximum (P.redact "")) = ""
  rw [hredact]
  simp [pyTake, htmlEscape]

/-- The cleaned text at a key, if it is not empty, is that of a value of the mapping. -/
theorem cleanString_get (hredact : P.redact "" = "") {mapping : Mapping} {key : String} {whole : Value}
    (h : (Value.dict mapping).Within whole) {maximum : ℕ} (hne : cleanString P (Mapping.get mapping key) maximum ≠ "") :
    (Mapping.get mapping key).Within whole := by
  rcases get_within_of_within mapping key h with hnone | hwithin
  · rw [hnone] at hne
    exact absurd (cleanString_none hredact maximum) hne
  · exact hwithin

/-- The content and the timestamp of a projected message are cleaned values of the message. -/
theorem messageProjection_cleaned (hredact : P.redact "" = "") {message : Value} {sequence : ℕ}
    {projected : PublicMessage} (h : messageProjection P message sequence = some projected) :
    (∃ value : Value, value.Within message ∧ projected.content = cleanString P value) ∧
      ∀ timestamp, projected.timestamp = some timestamp →
        ∃ value : Value, value.Within message ∧ timestamp = cleanString P value 64 := by
  unfold messageProjection at h
  split at h
  · rename_i entries
    dsimp only at h
    split at h
    · cases h
    · split at h
      · cases h
      · rename_i hcontent
        cases h
        refine ⟨⟨_, cleanString_get hredact .self hcontent, rfl⟩, fun timestamp htimestamp => ?_⟩
        dsimp only at htimestamp
        split at htimestamp
        · cases htimestamp
        · rename_i hne
          cases htimestamp
          exact ⟨_, cleanString_get hredact .self hne, rfl⟩
  · cases h

/-- So are those of the messages of a record. -/
theorem projectedMessages_cleaned (hredact : P.redact "" = "") {record : SourceRecord} {message : PublicMessage}
    (h : message ∈ projectedMessages P record) :
    (∃ value : Value, value.Within (.dict record.payload) ∧ message.content = cleanString P value) ∧
      ∀ timestamp, message.timestamp = some timestamp →
        ∃ value : Value, value.Within (.dict record.payload) ∧ timestamp = cleanString P value 64 := by
  unfold projectedMessages at h
  dsimp only at h
  split at h
  · rename_i hshare
    rw [List.mem_singleton.1 h]
    exact ⟨⟨_, cleanString_get hredact .self hshare.2, rfl⟩, fun timestamp htimestamp => nomatch htimestamp⟩
  · obtain ⟨⟨legacy, sequence⟩, hmem, hprojected⟩ := List.mem_filterMap.1 h
    have hwithin := rawMessages_within (List.fst_mem_of_mem_zipIdx hmem)
    obtain ⟨⟨value, hvalue, hcontent⟩, htimestamp⟩ := messageProjection_cleaned hredact hprojected
    refine ⟨⟨value, hvalue.trans hwithin, hcontent⟩, fun timestamp ht => ?_⟩
    obtain ⟨value, hvalue, heq⟩ := htimestamp timestamp ht
    exact ⟨value, hvalue.trans hwithin, heq⟩

/-! ## Private entries -/

/-- An entry that is not kept is added, removed or changed, somewhere in a value that is projected at a level. -/
inductive PrivateEdit (P : Python) : ℕ → Value → Value → Prop where
  | add {depth : ℕ} {key : String} (front back : Mapping) (item : Value) : Private P depth key →
      PrivateEdit P depth (.dict (front ++ back)) (.dict (front ++ (key, item) :: back))
  | remove {depth : ℕ} {key : String} (front back : Mapping) (item : Value) : Private P depth key →
      PrivateEdit P depth (.dict (front ++ (key, item) :: back)) (.dict (front ++ back))
  | change {depth : ℕ} {key : String} (front back : Mapping) (item item' : Value) : Private P depth key →
      PrivateEdit P depth (.dict (front ++ (key, item) :: back)) (.dict (front ++ (key, item') :: back))
  | entry {depth : ℕ} {item item' : Value} (front back : Mapping) (key : String) :
    PrivateEdit P (depth + 1) item item' →
      PrivateEdit P depth (.dict (front ++ (key, item) :: back)) (.dict (front ++ (key, item') :: back))
  | item {depth : ℕ} {item item' : Value} (front back : List Value) : PrivateEdit P (depth + 1) item item' →
      PrivateEdit P depth (.list (front ++ item :: back)) (.list (front ++ item' :: back))

/-- **An edit of a private entry does not show.** -/
theorem PrivateEdit.publicValue_eq {depth : ℕ} {value value' : Value} (h : PrivateEdit P depth value value') :
    publicValue P depth value = publicValue P depth value' := by
  induction h with
  | add front back item hprivate =>
    simp only [publicValue, publicEntries_append, publicEntries_cons_of_private hprivate]
  | remove front back item hprivate =>
    simp only [publicValue, publicEntries_append, publicEntries_cons_of_private hprivate]
  | change front back item item' hprivate =>
    simp only [publicValue, publicEntries_append, publicEntries_cons_of_private hprivate]
  | @entry depth item item' front back key _ ih =>
    by_cases hprivate : Private P depth key
    · simp only [publicValue, publicEntries_append, publicEntries_cons_of_private hprivate]
    · simp only [publicValue, publicEntries_append, publicEntries_cons_of_public hprivate, ih]
  | item front back _ ih => simp only [publicValue, publicItems_eq_map, List.map_append, List.map_cons, ih]

/-- Two artifact bundles that differ in private entries only. -/
def SameBundle (P : Python) : Value → Value → Prop := Relation.ReflTransGen (PrivateEdit P 0)

theorem SameBundle.publicValue_eq {bundle bundle' : Value} (h : SameBundle P bundle bundle') :
    publicValue P 0 bundle = publicValue P 0 bundle' := by
  induction h with
  | refl => rfl
  | tail _ hedit ih => exact ih.trans hedit.publicValue_eq

/-! ### Payloads -/

/-- Two mappings with one sequence of keys, and related values. -/
def EntriesAgree (R : String → Value → Value → Prop) : Mapping → Mapping → Prop :=
  List.Forall₂ fun entry entry' => entry.1 = entry'.1 ∧ R entry.1 entry.2 entry'.2

theorem EntriesAgree.get {R : String → Value → Value → Prop} {mapping mapping' : Mapping}
    (h : EntriesAgree R mapping mapping') (key : String) (hnone : R key .none .none) :
    R key (Mapping.get mapping key) (Mapping.get mapping' key) := by
  unfold Mapping.get
  induction h with
  | nil => exact hnone
  | @cons entry entry' mapping mapping' hentry _ ih =>
    obtain ⟨name, value⟩ := entry
    obtain ⟨name', value'⟩ := entry'
    obtain ⟨rfl, hvalue⟩ := hentry
    rw [List.lookup_cons, List.lookup_cons]
    cases hkey : key == name with
    | true =>
      rw [beq_iff_eq.1 hkey]
      exact hvalue
    | false => exact ih

/-- Two values that are one, or mappings that agree. -/
inductive DictsAgree (R : String → Value → Value → Prop) : Value → Value → Prop where
  | same {value : Value} : DictsAgree R value value
  | dicts {entries entries' : Mapping} : EntriesAgree R entries entries' → DictsAgree R (.dict entries) (.dict entries')

/-- Two mappings that differ in private entries of the bundles at some keys only. -/
def BundlesAgree (P : Python) (keys : List String) : Value → Value → Prop :=
  DictsAgree fun key value value' => if key ∈ keys then SameBundle P value value' else value = value'

/-- Two messages that differ in private entries of the artifact in their diagnostics only. -/
def MessagesAgree (P : Python) : Value → Value → Prop :=
  DictsAgree fun key value value' =>
    if key = "diagnostics" then BundlesAgree P ["artifact"] value value' else value = value'

/-- Two lists of messages. -/
inductive ListsAgree (P : Python) : Value → Value → Prop where
  | same {value : Value} : ListsAgree P value value
  | lists {items items' : List Value} : List.Forall₂ (MessagesAgree P) items items' →
    ListsAgree P (.list items) (.list items')

/-- Two payloads that differ in private entries of their artifact bundles only. -/
def PayloadsAgree (P : Python) : Mapping → Mapping → Prop :=
  EntriesAgree fun key value value' =>
    if key = "messages" then ListsAgree P value value'
    else if key = "delivery_bundle" then BundlesAgree P ["artifact", "share", "descriptor"] value value'
    else value = value'

theorem filterMap_eq_of_forall₂ {α β : Type} {f : α → Option β} {as bs : List α}
    (h : List.Forall₂ (fun a b => f a = f b) as bs) : as.filterMap f = bs.filterMap f := by
  induction h with
  | nil => rfl
  | cons hab _ ih => rw [List.filterMap_cons, List.filterMap_cons, hab, ih]

/-- What agreeing messages have at another key than that of their diagnostics. -/
theorem get_eq_of_agree {entries entries' : Mapping}
    (h : EntriesAgree (fun key value value' =>
      if key = "diagnostics" then BundlesAgree P ["artifact"] value value' else value = value') entries entries')
    {key : String} (hkey : key ≠ "diagnostics") : Mapping.get entries key = Mapping.get entries' key := by
  have hget := h.get key (by rw [if_neg hkey])
  rw [if_neg hkey] at hget
  exact hget

theorem MessagesAgree.messageProjection_eq {message message' : Value} (h : MessagesAgree P message message')
    (sequence : ℕ) : messageProjection P message sequence = messageProjection P message' sequence := by
  cases h with
  | same => rfl
  | dicts h =>
    have hrole := get_eq_of_agree h (show "role" ≠ "diagnostics" by decide)
    have hcontent := get_eq_of_agree h (show "content" ≠ "diagnostics" by decide)
    have htimestamp := get_eq_of_agree h (show "timestamp" ≠ "diagnostics" by decide)
    simp only [messageProjection, hrole, hcontent, htimestamp]

/-- What agreeing mappings have at the key of a bundle. -/
theorem publicValue_get_eq {keys : List String} {entries entries' : Mapping}
    (h : EntriesAgree (fun key value value' => if key ∈ keys then SameBundle P value value' else value = value') entries
      entries') (key : String) :
    publicValue P 0 (Mapping.get entries key) = publicValue P 0 (Mapping.get entries' key) := by
  by_cases hkey : key ∈ keys
  · have hget := h.get key (by rw [if_pos hkey]; exact .refl)
    rw [if_pos hkey] at hget
    exact hget.publicValue_eq
  · have hget := h.get key (by rw [if_neg hkey])
    rw [if_neg hkey] at hget
    rw [hget]

/-- The artifact in the diagnostics of a message. -/
def diagnosedArtifact (message : Value) : Option Value :=
  match message with
  | .dict entries => match Mapping.get entries "diagnostics" with
    | .dict diagnostics => some (Mapping.get diagnostics "artifact")
    | _ => none
  | _ => none

/-- The artifacts in a delivery. -/
def deliveredArtifacts (delivery : Value) : List Value :=
  match delivery with
  | .dict delivery => [Mapping.get delivery "artifact", Mapping.get delivery "share", Mapping.get delivery "descriptor"]
  | _ => []

theorem artifactCandidates_eq (messages : List Value) (payload : Mapping) : artifactCandidates messages payload =
    messages.filterMap diagnosedArtifact ++ deliveredArtifacts (Mapping.get payload "delivery_bundle") := rfl

theorem MessagesAgree.diagnosedArtifact_eq {message message' : Value} (h : MessagesAgree P message message') :
    (diagnosedArtifact message).map (publicValue P 0) = (diagnosedArtifact message').map (publicValue P 0) := by
  cases h with
  | same => rfl
  | dicts h =>
    have hdiagnostics := h.get "diagnostics" (by rw [if_pos rfl]; exact .same)
    rw [if_pos rfl] at hdiagnostics
    unfold diagnosedArtifact
    dsimp only
    generalize Mapping.get _ "diagnostics" = diagnostics at hdiagnostics
    generalize Mapping.get _ "diagnostics" = diagnostics' at hdiagnostics
    cases hdiagnostics with
    | same => rfl
    | dicts hbundles => exact congrArg some (publicValue_get_eq hbundles "artifact")

theorem BundlesAgree.deliveredArtifacts_eq {keys : List String} {delivery delivery' : Value}
    (h : BundlesAgree P keys delivery delivery') :
    (deliveredArtifacts delivery).map (publicValue P 0) = (deliveredArtifacts delivery').map (publicValue P 0) := by
  cases h with
  | same => rfl
  | dicts h =>
    simp only [deliveredArtifacts, List.map_cons, List.map_nil, publicValue_get_eq h]

/-- The messages of agreeing payloads. -/
theorem PayloadsAgree.rawMessages {payload payload' : Mapping} (h : PayloadsAgree P payload payload') :
    List.Forall₂ (MessagesAgree P) (rawMessages payload) (rawMessages payload') := by
  have hmessages := h.get "messages" (by rw [if_pos rfl]; exact .same)
  rw [if_pos rfl] at hmessages
  unfold Migration.rawMessages
  generalize Mapping.get payload "messages" = messages at hmessages
  generalize Mapping.get payload' "messages" = messages' at hmessages
  cases hmessages with
  | same => exact List.forall₂_same.2 fun _ _ => DictsAgree.same
  | lists hlists => exact hlists

theorem PayloadsAgree.get_eq {payload payload' : Mapping} (h : PayloadsAgree P payload payload') {key : String}
    (hmessages : key ≠ "messages") (hdelivery : key ≠ "delivery_bundle") :
    Mapping.get payload key = Mapping.get payload' key := by
  have hget := h.get key (by rw [if_neg hmessages, if_neg hdelivery])
  rw [if_neg hmessages, if_neg hdelivery] at hget
  exact hget

/-- The candidates of agreeing payloads have the same projections. -/
theorem PayloadsAgree.candidates_eq {payload payload' : Mapping} (h : PayloadsAgree P payload payload') :
    (artifactCandidates (Migration.rawMessages payload) payload).map (publicValue P 0) =
      (artifactCandidates (Migration.rawMessages payload') payload').map (publicValue P 0) := by
  have hdelivery := h.get "delivery_bundle" (by rw [if_neg (by decide), if_pos rfl]; exact .same)
  rw [if_neg (by decide), if_pos rfl] at hdelivery
  rw [artifactCandidates_eq, artifactCandidates_eq, List.map_append, List.map_append, List.map_filterMap,
    List.map_filterMap, hdelivery.deliveredArtifacts_eq]
  congr 1
  refine filterMap_eq_of_forall₂ (h.rawMessages.imp fun message message' hagree => ?_)
  exact hagree.diagnosedArtifact_eq

/-- The artifact is found among the projections of the candidates. -/
theorem extractSourceArtifact_eq (messages : List Value) (payload : Mapping) :
    extractSourceArtifact P messages payload =
    (((artifactCandidates messages payload).map (publicValue P 0)).reverse.findSome? fun projected =>
      match projected with
      | .obj (field :: fields) => some (field :: fields)
      | _ => none).getD [] := by
  rw [← List.map_reverse, List.findSome?_map]
  rfl

theorem PayloadsAgree.projectedMessages_eq {record : SourceRecord} {payload : Mapping}
    (h : PayloadsAgree P record.payload payload) :
    projectedMessages P { record with payload } = projectedMessages P record := by
  have hmessages : ∀ {messages messages' : List Value} (n : ℕ), List.Forall₂ (MessagesAgree P) messages messages' →
      (messages.zipIdx n).filterMap (fun m => messageProjection P m.1 m.2) =
        (messages'.zipIdx n).filterMap fun m => messageProjection P m.1 m.2 := by
    intro messages messages' n hagree
    induction hagree generalizing n with
    | nil => rfl
    | cons hmessage _ ih =>
      rw [List.zipIdx_cons, List.zipIdx_cons, List.filterMap_cons, List.filterMap_cons,
        hmessage.messageProjection_eq, ih]
  have hcontent := h.get_eq (show "content" ≠ "messages" by decide) (show "content" ≠ "delivery_bundle" by decide)
  simp only [projectedMessages, hcontent, hmessages 1 h.rawMessages]

/-- **An archive does not change with the private entries of the artifact bundles.** -/
theorem PayloadsAgree.archive_eq {record : SourceRecord} {payload : Mapping}
    (h : PayloadsAgree P record.payload payload) :
    buildImportedTripArchive P { record with payload } = buildImportedTripArchive P record := by
  have hname := h.get_eq (show "name" ≠ "messages" by decide) (show "name" ≠ "delivery_bundle" by decide)
  have htitle := h.get_eq (show "title" ≠ "messages" by decide) (show "title" ≠ "delivery_bundle" by decide)
  have hkey : SourceRecord.key { record with payload } = record.key := rfl
  simp only [buildImportedTripArchive, h.projectedMessages_eq, hname, htitle, hkey, extractSourceArtifact_eq,
    h.candidates_eq]

/-! ## Archives -/

/-- What an imported trip archive may carry. -/
structure CarriesNothingPrivate (P : Python) (record : SourceRecord) : Prop where
  /-- no denied key at any level -/
  keys : ∀ n fields, Inside (.obj fields) n (.obj (buildImportedTripArchive P record).artifact) →
    ∀ field ∈ fields, P.denied field.1 = false
  topLevel : ∀ field ∈ (buildImportedTripArchive P record).artifact, field.1 ∈ allowedPublicArtifactKeys
  /-- nothing but `null` below the eighth level, and nothing in it -/
  depth : ∀ n inner, Inside inner n (.obj (buildImportedTripArchive P record).artifact) → n ≤ 9 ∧
    (8 < n → inner = .null)
  lists : ∀ n items, Inside (.arr items) n (.obj (buildImportedTripArchive P record).artifact) → items.length ≤ 1000
  texts : ∀ n s, Inside (.str s) n (.obj (buildImportedTripArchive P record).artifact) →
    ∃ value : Value, value.Within (.dict record.payload) ∧ s = cleanString P value
  contents : ∀ message ∈ (buildImportedTripArchive P record).messages,
    ∃ value : Value, value.Within (.dict record.payload) ∧ message.content = cleanString P value
  timestamps : ∀ message ∈ (buildImportedTripArchive P record).messages, ∀ timestamp,
    message.timestamp = some timestamp →
    ∃ value : Value, value.Within (.dict record.payload) ∧ timestamp = cleanString P value 64
  /-- private entries of the artifact bundles do not show -/
  unchanged : ∀ payload, PayloadsAgree P record.payload payload →
    buildImportedTripArchive P { record with payload } = buildImportedTripArchive P record

/-- What is inside an artifact is the projection of a value of the payload. -/
theorem inside_artifact {record : SourceRecord} {inner : Json} {n : ℕ}
    (h : Inside inner n (.obj (buildImportedTripArchive P record).artifact)) :
    (n = 0 ∧ inner = .obj [] ∨ ∃ value : Value, value.Within (.dict record.payload) ∧ inner = publicValue P n value) ∧
      n ≤ 9 := by
  rcases extractSourceArtifact_cases (rawMessages record.payload) record.payload with hempty | ⟨candidate, hmem, heq⟩
  · have hobj : (buildImportedTripArchive P record).artifact = [] := hempty
    rw [hobj] at h
    cases h with
    | self => exact ⟨.inl ⟨rfl, rfl⟩, Nat.zero_le _⟩
    | field hmem _ => cases hmem
  · obtain ⟨⟨part, hpart, hinner⟩, hbound⟩ := inside_publicValue h heq
    rw [Nat.zero_add] at hinner
    refine ⟨.inr ⟨part, ?_, hinner⟩, ?_⟩
    · rcases artifactCandidates_within hmem with rfl | hwithin
      · rw [publicValue] at heq
        cases heq
      · exact hpart.trans hwithin
    · rcases Nat.eq_zero_or_pos n with rfl | hpos
      · exact Nat.zero_le _
      · have := hbound hpos
        omega

/-- **An archive carries nothing private**, where the search for secrets finds none in an empty text. -/
theorem archive_carriesNothingPrivate (hredact : P.redact "" = "") (record : SourceRecord) :
    CarriesNothingPrivate P record where
  keys n fields h field hfield := by
    rcases (inside_artifact h).1 with ⟨-, hempty⟩ | ⟨value, -, heq⟩
    · cases hempty
      cases hfield
    · obtain ⟨-, entries, -, rfl⟩ := publicValue_eq_obj heq.symm
      exact Bool.eq_false_iff.2 (not_or.1 (mem_publicEntries hfield).1).1
  topLevel field hfield := by
    rcases (inside_artifact .self).1 with ⟨-, hempty⟩ | ⟨value, -, heq⟩
    · rw [Json.obj.inj hempty] at hfield
      cases hfield
    · obtain ⟨-, entries, -, hfields⟩ := publicValue_eq_obj heq.symm
      rw [hfields] at hfield
      by_contra hunlisted
      exact (mem_publicEntries hfield).1 (.inr ⟨rfl, hunlisted⟩)
  depth n inner h := by
    obtain ⟨hinner, hle⟩ := inside_artifact h
    refine ⟨hle, fun hdeep => ?_⟩
    rcases hinner with ⟨hzero, -⟩ | ⟨value, -, heq⟩
    · omega
    · rw [heq, publicValue_of_lt hdeep]
  lists n items h := by
    rcases (inside_artifact h).1 with ⟨-, hempty⟩ | ⟨value, -, heq⟩
    · cases hempty
    · obtain ⟨-, legacy, -, rfl⟩ := publicValue_eq_arr heq.symm
      exact List.length_take_le _ _
  texts n s h := by
    rcases (inside_artifact h).1 with ⟨-, hempty⟩ | ⟨value, hwithin, heq⟩
    · cases hempty
    · exact ⟨value, hwithin, publicValue_eq_str heq.symm⟩
  contents message h := (projectedMessages_cleaned hredact h).1
  timestamps message h := (projectedMessages_cleaned hredact h).2
  unchanged payload h := h.archive_eq

/-- A session with a plan whose page is private. -/
def museumRecord : SourceRecord where
  sourceKind := "session"
  sourceId := "s1"
  payload := [("messages", .list [.dict [("role", .str "assistant"), ("content", .str "A day at the museum"),
    ("diagnostics", .dict [("artifact", .dict [("title", .str "Museum"), ("raw_html", .str "page")])])]])]
  origins := []

/-- What the library does with its texts. -/
def museumPython : Python where
  repr _ := ""
  redact text := text
  denied key := key = "raw_html"
  floatText := ⟨fun _ => "0.0".toList, fun _ => (by decide : Json.OneLine "0.0".toList)⟩
  hexdigest _ := "d698df9d2c5b96558dff4a343d993256561a85915614fe636d24b828a840d3ef"
  fromisoformat _ := none

theorem museum_carriesNothingPrivate : (buildImportedTripArchive museumPython museumRecord).artifact.length = 1 ∧
    CarriesNothingPrivate museumPython museumRecord :=
  ⟨by decide +kernel, archive_carriesNothingPrivate rfl museumRecord⟩

end RoutePilot.Migration
