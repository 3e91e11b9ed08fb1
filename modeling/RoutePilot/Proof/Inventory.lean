/-
  What an inventory pins of the rows that are migrated.

  Two merges of legacy copies that pass one inventory have, for every record of
  it, one public archive: the checksums agree, and a checksum determines the
  archive up to the order of keys.  The rows also hold the moment of creation,
  which is not part of the archive: the rows are identical if and only if the
  copies met first agree on it (`rows_pinned_iff`), and two copies that differ
  in it pass one inventory (`creation_not_pinned`).
-/
import RoutePilot.Migration.Sources

namespace RoutePilot.Migration

open Lib

variable {P : Python}

/-! ## Merging -/

/-- Two records that differ in their origins at most. -/
def SameSource (a b : SourceRecord) : Prop := { a with origins := b.origins } = b

theorem SameSource.refl (a : SourceRecord) : SameSource a a := rfl

theorem SameSource.payload {a b : SourceRecord} (h : SameSource a b) : a.payload = b.payload := by rw [← h]

/-- The copy of a record that is met first. -/
def firstCopy (records : List SourceRecord) (key : String) : Option SourceRecord :=
  records.find? fun record => record.key = key

/-- Of the records met, each key has the first copy, its origins aside. -/
def KeepsFirst (merged : Collection) (met : List SourceRecord) : Prop :=
  ∀ key, match firstCopy met key with
    | none => merged.records.get? key = none
    | some copy => ∃ kept, merged.records.get? key = some kept ∧ SameSource kept copy

theorem firstCopy_concat (met : List SourceRecord) (record : SourceRecord) (key : String) :
    firstCopy (met ++ [record]) key = (firstCopy met key).or (if record.key = key then some record else none) := by
  unfold firstCopy
  rw [List.find?_append]
  by_cases h : record.key = key <;> simp [h]

theorem mergeRecord_keeps {merged merged' : Collection} {met : List SourceRecord} {record : SourceRecord}
    (h : KeepsFirst merged met) (hok : mergeRecord P merged record = .ok merged') :
    KeepsFirst merged' (met ++ [record]) := by
  intro key
  have hkey := h key
  rw [firstCopy_concat]
  unfold mergeRecord at hok
  by_cases hk : record.key = key
  · subst hk
    rw [if_pos rfl]
    cases hfirst : firstCopy met record.key with
    | none =>
      rw [hfirst] at hkey
      rw [hkey] at hok
      cases hok
      exact ⟨record, Collection.get?_insert_self _ _, .refl record⟩
    | some copy =>
      rw [hfirst] at hkey
      obtain ⟨kept, hkept, hsame⟩ := hkey
      rw [hkept] at hok
      simp only at hok
      split at hok
      · cases hok
      · cases hok
        -- the kept copy is written back under its own key
        have hkept' : ({ kept with origins := mergedOrigins kept.origins record.origins } : SourceRecord).key =
            record.key := show kept.key = record.key from merged.keyed _ _ hkept
        refine ⟨{ kept with origins := mergedOrigins kept.origins record.origins }, ?_, hsame⟩
        rw [← hkept']
        exact Collection.get?_insert_self _ _
  · rw [if_neg hk, Option.or_none]
    have hother : merged'.records.get? key = merged.records.get? key := by
      split at hok
      · cases hok
        exact Collection.get?_insert_ne _ (Ne.symm hk)
      · rename_i kept hkept
        split at hok
        · cases hok
        · cases hok
          refine Collection.get?_insert_ne _ fun heq => hk ?_
          rw [heq]
          exact (merged.keyed _ _ hkept).symm
    rw [hother]
    exact hkey

theorem mergeAll_keeps {records : List SourceRecord} : ∀ {merged merged' : Collection} {met : List SourceRecord},
    KeepsFirst merged met → records.foldlM (mergeRecord P) merged = .ok merged' →
      KeepsFirst merged' (met ++ records) := by
  induction records with
  | nil =>
    intro merged merged' met h hok
    cases hok
    rwa [List.append_nil]
  | cons record records ih =>
    intro merged merged' met h hok
    rw [List.foldlM_cons] at hok
    obtain ⟨next, hnext, hok⟩ := bind_eq_ok.1 hok
    have hall := ih (mergeRecord_keeps h hnext) hok
    rwa [List.append_assoc, List.singleton_append] at hall

/-- A merged record is the copy of it that was met first. -/
theorem mergeRecords_ok {collections : List Collection} {records : List SourceRecord}
    (hok : mergeRecords P collections = .ok records) {record : SourceRecord} (h : record ∈ records) :
    ∃ copy, firstCopy (allRecords collections) record.key = some copy ∧ SameSource record copy := by
  obtain ⟨merged, hmerged, hrecords⟩ := bind_eq_ok.1 hok
  cases hrecords
  have hempty : KeepsFirst .empty [] := fun key => rfl
  have hkeeps := mergeAll_keeps hempty hmerged
  obtain ⟨entry, hentry, rfl⟩ := List.mem_map.1 ((List.mem_insertionSort _).1 h)
  have hget := Dict.get?_of_mem merged.distinct hentry
  have hkey := merged.keyed _ _ hget
  have hfirst := hkeeps entry.1
  rw [List.nil_append] at hfirst
  rw [hkey]
  cases hcopy : firstCopy (allRecords collections) entry.1 with
  | none =>
    rw [hcopy, hget] at hfirst
    cases hfirst
  | some copy =>
    rw [hcopy, hget] at hfirst
    obtain ⟨kept, hkept, hsame⟩ := hfirst
    cases hkept
    exact ⟨copy, rfl, hsame⟩

/-! ## Validation -/

/-- The keys that an inventory records. -/
def inventoriedKeys (P : Python) (inventory : Inventory) : List String :=
  match Mapping.get inventory "records" with
  | .list items => (expectedChecksums P items).entries.map Prod.fst
  | _ => []

/-- The checksum that an inventory records for a key. -/
def inventoriedChecksum (P : Python) (inventory : Inventory) (key : String) : Option String :=
  match Mapping.get inventory "records" with
  | .list items => (expectedChecksums P items).get? key
  | _ => none

theorem get?_currentRecords {records : List SourceRecord} {key : String} {record : SourceRecord}
    (h : (currentRecords records).get? key = some record) : record ∈ records ∧ record.key = key := by
  obtain h | h := Dict.get?_setAll h
  · cases h
  · obtain ⟨r, hr, heq⟩ := List.mem_map.1 h
    cases heq
    exact ⟨hr, rfl⟩

theorem map_key_filterMap {f : String → Option SourceRecord} {keys : List String} (hsome : ∀ key ∈ keys, (f key).isSome)
    (hkey : ∀ key record, f key = some record → record.key = key) : (keys.filterMap f).map SourceRecord.key = keys := by
  induction keys with
  | nil => rfl
  | cons key keys ih =>
    obtain ⟨record, hrecord⟩ := Option.isSome_iff_exists.1 (hsome key List.mem_cons_self)
    rw [List.filterMap_cons_some hrecord, List.map_cons, ih fun k hk => hsome k (List.mem_cons_of_mem _ hk),
      hkey key record hrecord]

/-- What validation selects: the records under the inventoried keys, in the order of their keys, each
    with the checksum that the inventory has for it. -/
structure Selected (P : Python) (records : List SourceRecord) (inventory : Inventory) (selected : List SourceRecord) :
    Prop where
  keys : selected.map SourceRecord.key = (inventoriedKeys P inventory).insertionSort (· ≤ ·)
  present : ∀ record ∈ selected, record ∈ records
  pinned : ∀ record ∈ selected, inventoriedChecksum P inventory record.key = some (record.sourceChecksum P)

theorem validateSourceSnapshot_ok {records selected : List SourceRecord} {inventory : Inventory}
    (hok : validateSourceSnapshot P records inventory = .ok selected) : Selected P records inventory selected := by
  unfold validateSourceSnapshot at hok
  split at hok
  · rename_i items hitems
    simp only at hok
    split at hok
    · cases hok
    · rename_i hsame
      split at hok
      · cases hok
      · cases hok
        simp only [ne_eq, not_or, not_not, List.filter_eq_nil_iff] at hsame
        obtain ⟨hmissing, hchanged⟩ := hsame
        have hfound : ∀ record, record ∈ sortedByCursor
            (((expectedChecksums P items).entries.map Prod.fst).filterMap (currentRecords records).get?) →
            record.key ∈ (expectedChecksums P items).entries.map Prod.fst ∧
              (currentRecords records).get? record.key = some record := by
          intro record hrecord
          obtain ⟨key, hkey, hget⟩ := List.mem_filterMap.1 ((List.mem_insertionSort _).1 hrecord)
          obtain ⟨-, rfl⟩ := get?_currentRecords hget
          exact ⟨hkey, hget⟩
        refine ⟨?_, fun record hrecord => (get?_currentRecords (hfound record hrecord).2).1, ?_⟩
        · have hsome : ∀ key ∈ (expectedChecksums P items).entries.map Prod.fst,
              ((currentRecords records).get? key).isSome := fun key hkey => by
            simpa [Option.isSome_iff_ne_none] using hmissing key hkey
          have hkeys := map_key_filterMap hsome fun key record h => (get?_currentRecords h).2
          simp only [inventoriedKeys, hitems]
          rw [sortedByCursor, List.map_insertionSort CursorLE (· ≤ ·) SourceRecord.key _ fun a _ b _ => Iff.rfl, hkeys]
        · intro record hrecord
          obtain ⟨hkey, hget⟩ := hfound record hrecord
          have hsum := hchanged record.key hkey
          simp only [inventoriedChecksum, hitems]
          simpa [hget] using hsum
  · cases hok

/-- The checksums that an inventory records of its own records. -/
theorem expectedChecksums_recorded {recorded : List SourceRecord} {items : List Value} {mappingChecksum : String}
    (hitems : Mapping.get (buildInventory P recorded mappingChecksum) "records" = .list items)
    (hnodup : (recorded.map SourceRecord.key).Nodup) :
    (expectedChecksums P items).entries = recorded.map fun r => (r.key, r.sourceChecksum P) := by
  cases hitems
  unfold expectedChecksums
  rw [List.filterMap_map]
  have hpairs : recorded.filterMap (fun r => some (r.key, r.sourceChecksum P)) =
      recorded.map fun r => (r.key, r.sourceChecksum P) := by rw [← List.filterMap_eq_map]; rfl
  refine (Dict.entries_setAll ?_).trans hpairs
  show ((recorded.filterMap fun r => some (r.key, r.sourceChecksum P)).map Prod.fst).Nodup
  rw [hpairs, List.map_map]
  exact hnodup

/-- **Sources that are as they were inventoried are selected**, in the order of their keys. -/
theorem validateSourceSnapshot_of_unchanged {records recorded : List SourceRecord}
    (hsame : records.map (fun r => (r.key, r.sourceChecksum P)) = recorded.map fun r => (r.key, r.sourceChecksum P))
    (hnodup : (records.map SourceRecord.key).Nodup) (hsorted : sortedByCursor records = records)
    (mappingChecksum : String) :
    validateSourceSnapshot P records (buildInventory P recorded mappingChecksum) = .ok records := by
  have hkeys : recorded.map SourceRecord.key = records.map SourceRecord.key := by
    have h := congrArg (List.map Prod.fst) hsame
    rw [List.map_map, List.map_map] at h
    exact h.symm
  obtain ⟨items, hitems⟩ : ∃ items, Mapping.get (buildInventory P recorded mappingChecksum) "records" = .list items :=
    ⟨_, rfl⟩
  have hexpected : (expectedChecksums P items).entries = records.map fun r => (r.key, r.sourceChecksum P) :=
    (expectedChecksums_recorded hitems (hkeys ▸ hnodup)).trans hsame.symm
  have hcurrent : (currentRecords records).entries = records.map fun r => (r.key, r) := by
    refine Dict.entries_setAll ?_
    show ((records.map fun r => (r.key, r)).map Prod.fst).Nodup
    rw [List.map_map]
    exact hnodup
  have hget : ∀ r ∈ records, (currentRecords records).get? r.key = some r := fun r hr =>
    Dict.get?_of_mem (e := (r.key, r)) (by rw [Dict.DistinctKeys, hcurrent, List.map_map]; exact hnodup)
      (hcurrent ▸ List.mem_map_of_mem hr)
  have hsum : ∀ r ∈ records, (expectedChecksums P items).get? r.key = some (r.sourceChecksum P) := fun r hr =>
    Dict.get?_of_mem (e := (r.key, r.sourceChecksum P))
      (by rw [Dict.DistinctKeys, hexpected, List.map_map]; exact hnodup)
      (hexpected ▸ List.mem_map_of_mem hr)
  have hfound : (records.map SourceRecord.key).filterMap (currentRecords records).get? = records := by
    rw [List.filterMap_map]
    refine (List.filterMap_congr fun r hr => hget r hr).trans ?_
    exact List.filterMap_some
  have hprint : P.text (Mapping.get (buildInventory P recorded mappingChecksum) "source_fingerprint") =
      sourceFingerprint P records := by
    have hitems : recorded.map (fingerprintItem P) = records.map (fingerprintItem P) := by
      have h := congrArg (List.map fun e : String × String =>
        Json.obj [("source_key", .str e.1), ("source_checksum", .str e.2)]) hsame
      rw [List.map_map, List.map_map] at h
      exact h.symm
    have htext : ∀ s, P.text (.str s) = s := fun s => by
      by_cases hs : s = "" <;> simp [Python.text, Value.or, Value.truthy, Python.toStr, hs]
    refine (htext _).trans ?_
    rw [sourceFingerprint, hitems, sourceFingerprint]
  unfold validateSourceSnapshot
  rw [hitems]
  dsimp only
  have hall : (expectedChecksums P items).entries.map Prod.fst = records.map SourceRecord.key := by
    rw [hexpected, List.map_map]
    rfl
  rw [hall, hfound, hsorted, hprint, if_neg, if_neg (not_not.2 rfl)]
  · rfl
  · simp only [ne_eq, not_or, not_not, List.filter_eq_nil_iff, List.forall_mem_map]
    exact ⟨fun r hr => by rw [hget r hr]; exact Bool.false_ne_true, fun r hr => by rw [hget r hr, hsum r hr]; simp⟩

/-! ## One archive -/

/-- Rows up to the order of keys in their content. -/
def Rows.sorted (rows : Rows) : Rows :=
  { rows with artifactVersion := { rows.artifactVersion with content := rows.artifactVersion.content.sortKeys } }

theorem sha256Json_inj (hhash : Function.Injective P.hexdigest) (hfloat : P.floatText.Readable) {a b : Json}
    (h : sha256Json P a = sha256Json P b) : a.sortKeys = b.sortKeys := by
  have hbytes := hhash (String.append_right_inj _ |>.1 h)
  exact Json.canonicalJson_inj hfloat (Utf8.encode_injective hbytes)

/-- Archives that are equal up to the order of keys have one title. -/
theorem title_eq {a b : Archive} (h : a.toJson.sortKeys = b.toJson.sortKeys) : a.title = b.title := by
  have hkeys : (b.fields.map Prod.fst).Nodup := by
    have heq : b.fields.map Prod.fst =
        ["schema_version", "schema_origin", "read_only", "source", "title", "answer", "messages", "artifact"] := rfl
    rw [heq]
    decide
  have htitle : (Json.str a.title).sortKeys = (Json.str b.title).sortKeys :=
    Json.value_eq_of_sortKeys h hkeys "title" (by simp [Archive.fields]) (by simp [Archive.fields])
  exact Json.str.inj htitle

/-- The keys of an imported content are distinct. -/
theorem importedKeys_nodup (record : SourceRecord) :
    (((buildImportedTripArchive P record).fields ++ [migrationField P record]).map Prod.fst).Nodup := by
  have hkeys : ((buildImportedTripArchive P record).fields ++ [migrationField P record]).map Prod.fst =
      ["schema_version", "schema_origin", "read_only", "source", "title", "answer", "messages", "artifact",
        "migration"] := rfl
  rw [hkeys]
  decide

/-- Records of one key and one checksum have the same rows, but for the moment of creation. -/
theorem rowsAt_sorted (hhash : Function.Injective P.hexdigest) (hfloat : P.floatText.Readable)
    {a b : SourceRecord} (hkey : a.key = b.key) (hsum : a.sourceChecksum P = b.sourceChecksum P)
    (owner : OwnerMapping) (createdAt : Instant) :
    (rowsAt P a owner createdAt).sorted = (rowsAt P b owner createdAt).sorted := by
  have hcontent : (a.publicContent P).sortKeys = (b.publicContent P).sortKeys := sha256Json_inj hhash hfloat hsum
  have htitle := title_eq hcontent
  have hmigration : migrationField P a = migrationField P b := by
    have hprojection : sha256Json P (a.publicContent P) = sha256Json P (b.publicContent P) := hsum
    unfold migrationField
    rw [hkey, hsum, hprojection]
  have himported : (importedContent P a).sortKeys = (importedContent P b).sortKeys := by
    unfold importedContent
    rw [← hmigration]
    exact Json.sortKeys_append (importedKeys_nodup a) hcontent
  simp only [rowsAt, Rows.sorted, hkey, htitle, himported]

/-! ## Identical rows -/

/-- The rows of the inventoried records are the same in two selections, one under one key. -/
structure RowsPinned (P : Python) (mappings : Dict String OwnerMapping) (selected selected' : List SourceRecord) :
    Prop where
  keys : selected.map SourceRecord.key = selected'.map SourceRecord.key
  rows : ∀ a ∈ selected, ∀ b ∈ selected', a.key = b.key → ∀ owner, mappings.get? a.key = some owner →
    (targetRows P a owner).map Rows.sorted = (targetRows P b owner).map Rows.sorted

/-- The copies of an inventoried record that are met first say the same of its creation. -/
def CreationPinned (P : Python) (mappings : Dict String OwnerMapping) (inventory : Inventory)
    (sources sources' : List Collection) : Prop :=
  ∀ key ∈ inventoriedKeys P inventory, (mappings.get? key).isSome →
    ∀ copy copy', firstCopy (allRecords sources) key = some copy → firstCopy (allRecords sources') key = some copy' →
      parseDatetime P (Mapping.get copy.payload "created_at") = parseDatetime P (Mapping.get copy'.payload "created_at")

theorem targetRows_sorted_iff (hhash : Function.Injective P.hexdigest) (hfloat : P.floatText.Readable)
    {a b : SourceRecord} (hkey : a.key = b.key) (hsum : a.sourceChecksum P = b.sourceChecksum P)
    (owner : OwnerMapping) :
    (targetRows P a owner).map Rows.sorted = (targetRows P b owner).map Rows.sorted ↔
      parseDatetime P (Mapping.get a.payload "created_at") = parseDatetime P (Mapping.get b.payload "created_at") := by
  unfold targetRows
  rw [Option.map_map, Option.map_map]
  have hrows : Rows.sorted ∘ rowsAt P a owner = Rows.sorted ∘ rowsAt P b owner :=
    funext fun createdAt => rowsAt_sorted hhash hfloat hkey hsum owner createdAt
  rw [hrows]
  refine ⟨fun h => Option.map_injective (fun t t' heq => ?_) h, fun h => by rw [h]⟩
  exact congrArg (fun rows : Rows => rows.trip.createdAt) heq

section
variable {mappings : Dict String OwnerMapping} {inventory : Inventory} {sources sources' : List Collection}
  {selected selected' : List SourceRecord}

theorem validatedSources_ok (hok : validatedSources P sources inventory = .ok selected) :
    ∃ records, mergeRecords P sources = .ok records ∧ Selected P records inventory selected := by
  obtain ⟨records, hmerge, hvalid⟩ := bind_eq_ok.1 hok
  exact ⟨records, hmerge, validateSourceSnapshot_ok hvalid⟩

/-- The copy that a selected record is. -/
theorem selected_firstCopy (hok : validatedSources P sources inventory = .ok selected) {record : SourceRecord}
    (h : record ∈ selected) : ∃ copy, firstCopy (allRecords sources) record.key = some copy ∧
      SameSource record copy := by
  obtain ⟨records, hmerge, hselected⟩ := validatedSources_ok hok
  exact mergeRecords_ok hmerge (hselected.present record h)

theorem mem_inventoriedKeys (hok : validatedSources P sources inventory = .ok selected) {key : String} :
    key ∈ inventoriedKeys P inventory ↔ ∃ record ∈ selected, record.key = key := by
  obtain ⟨records, -, hselected⟩ := validatedSources_ok hok
  rw [← List.mem_insertionSort (· ≤ ·), ← hselected.keys, List.mem_map]

/-- Two merges of legacy sources that pass one inventory give identical rows for every inventoried
    record, if and only if the first copies agree on the moment of creation. -/
theorem rows_pinned_iff (hhash : Function.Injective P.hexdigest) (hfloat : P.floatText.Readable)
    (hok : validatedSources P sources inventory = .ok selected)
    (hok' : validatedSources P sources' inventory = .ok selected') :
    RowsPinned P mappings selected selected' ↔ CreationPinned P mappings inventory sources sources' := by
  obtain ⟨records, -, hselected⟩ := validatedSources_ok hok
  obtain ⟨records', -, hselected'⟩ := validatedSources_ok hok'
  have hsum : ∀ a ∈ selected, ∀ b ∈ selected', a.key = b.key → a.sourceChecksum P = b.sourceChecksum P := by
    intro a ha b hb hkey
    have hpinned := hselected.pinned a ha
    rw [hkey, hselected'.pinned b hb] at hpinned
    exact (Option.some.inj hpinned).symm
  constructor
  · intro hrows key hkey howner copy copy' hcopy hcopy'
    obtain ⟨a, ha, rfl⟩ := (mem_inventoriedKeys hok).1 hkey
    obtain ⟨b, hb, hba⟩ := (mem_inventoriedKeys hok').1 hkey
    obtain ⟨first, hfirst, hsame⟩ := selected_firstCopy hok ha
    obtain ⟨first', hfirst', hsame'⟩ := selected_firstCopy hok' hb
    rw [hcopy] at hfirst
    rw [hba, hcopy'] at hfirst'
    cases hfirst
    cases hfirst'
    obtain ⟨owner, howner⟩ := Option.isSome_iff_exists.1 howner
    have hsorted := hrows.rows a ha b hb hba.symm owner howner
    rw [targetRows_sorted_iff hhash hfloat hba.symm (hsum a ha b hb hba.symm)] at hsorted
    rwa [hsame.payload, hsame'.payload] at hsorted
  · intro hcreation
    refine ⟨hselected.keys.trans hselected'.keys.symm, fun a ha b hb hab owner howner => ?_⟩
    rw [targetRows_sorted_iff hhash hfloat hab (hsum a ha b hb hab)]
    obtain ⟨first, hfirst, hsame⟩ := selected_firstCopy hok ha
    obtain ⟨first', hfirst', hsame'⟩ := selected_firstCopy hok' hb
    rw [← hab] at hfirst'
    rw [hsame.payload, hsame'.payload]
    have hkey := (mem_inventoriedKeys hok).2 ⟨a, ha, rfl⟩
    exact hcreation a.key hkey (by rw [howner]; rfl) first first' hfirst hfirst'

end

/-! ## Two copies of one session -/

namespace Sample

/-- The library on the texts below: no secret, no denied key, dates only, and a hash that is the text
    itself. -/
def python : Python where
  repr _ := ""
  redact text := text
  denied _ := false
  floatText := .fractions
  hexdigest bytes := String.ofList (bytes.map fun b => Char.ofNat b.toNat)
  fromisoformat text := (dateFromIsoformat text).map fun d =>
    .naive (86_400_000_000 * ((daysBeforeYear d.year + (((List.range d.month).tail.map (daysInMonth d.year)).sum) +
      d.day : ℕ) - 719_163 : ℤ))

theorem hexdigest_injective : Function.Injective python.hexdigest := by
  intro as bs h
  have hlist := String.ofList_injective h
  refine List.map_injective_iff.2 (fun a b hab => ?_) hlist
  have hnat := congrArg Char.toNat hab
  have hvalid : ∀ x : UInt8, (Char.ofNat x.toNat).toNat = x.toNat := by
    intro x
    have hlt := x.toNat_lt
    have hchar : x.toNat.isValidChar := .inl (by omega)
    rw [Char.ofNat, dif_pos hchar]
    rfl
  rw [hvalid, hvalid] at hnat
  exact UInt8.toNat_inj.1 hnat

/-- A copy of one session, created at a date, with where it was read. -/
def copy (createdAt origin : String) : SourceRecord :=
  ⟨"session", "s1", [("session_id", .str "s1"), ("name", .str "Rome"), ("messages", .list []),
    ("created_at", .str createdAt)], [origin]⟩

/-- A copy that was read in two places. -/
def both (createdAt origin origin' : String) : SourceRecord :=
  { copy createdAt origin with origins := mergedOrigins [origin] [origin'] }

/-- A source that holds one copy. -/
def source (createdAt origin : String) : Collection := Collection.empty.insert (copy createdAt origin)

theorem copy_key (d o : String) : (copy d o).key = "session" ++ ":" ++ "s1" := rfl

/-- The owner of the session. -/
def owner : OwnerMapping := ⟨"t1", "u1", "zh-CN", "Asia/Shanghai"⟩

def mappings : Dict String OwnerMapping := (∅ : Dict String OwnerMapping).set ("session" ++ ":" ++ "s1") owner

theorem mappings_copy (d o : String) : mappings.get? (copy d o).key = some owner := by
  rw [copy_key]
  exact Dict.get?_set_self _ _ _

/-- The date is not in the archive. -/
theorem copy_checksum (d d' o o' : String) :
    (copy d o).sourceChecksum P = (copy d' o').sourceChecksum P := by
  have harchive : buildImportedTripArchive P (copy d o) = buildImportedTripArchive P (copy d' o') := by
    simp [buildImportedTripArchive, projectedMessages, rawMessages, artifactCandidates, extractSourceArtifact, copy,
      SourceRecord.key, Mapping.get, List.lookup_cons]
  simp only [SourceRecord.sourceChecksum, SourceRecord.publicContent, harchive]

theorem copy_unchanged (d d' o o' : String) : [copy d o].map (fun r => (r.key, r.sourceChecksum P)) =
    [copy d' o'].map fun r => (r.key, r.sourceChecksum P) :=
  congrArg (fun sum => [((copy d o).key, sum)]) (copy_checksum d d' o o')

/-- The merge of copies of the session, and an inventory of one of them. -/
theorem validated_alone (d o d' o' : String) :
    validatedSources P [source d o] (buildInventory P [copy d' o'] "") = .ok [copy d o] := by
  have hmerge : mergeRecords P [source d o] = .ok [copy d o] := rfl
  unfold validatedSources
  rw [hmerge]
  exact validateSourceSnapshot_of_unchanged (copy_unchanged d d' o o') (List.nodup_singleton _) rfl ""

theorem validated_both (d o d' o' : String) :
    validatedSources P [source d o, source d' o'] (buildInventory P [copy d' o'] "") =
      .ok [both d o o'] := by
  have hmerge : mergeRecords P [source d o, source d' o'] =
      .ok [both d o o'] := by
    have hall : allRecords [source d o, source d' o'] = [copy d o, copy d' o'] := rfl
    have hfirst : mergeRecord P .empty (copy d o) = .ok (Collection.empty.insert (copy d o)) := rfl
    have hget : (Collection.empty.insert (copy d o)).records.get? (copy d' o').key = some (copy d o) := rfl
    have hsecond : mergeRecord P (Collection.empty.insert (copy d o)) (copy d' o') =
        .ok ((Collection.empty.insert (copy d o)).insert (both d o o')) := by
      unfold mergeRecord
      rw [hget]
      exact if_neg (not_not.2 (copy_checksum d d' o o'))
    unfold mergeRecords
    rw [hall, List.foldlM_cons, hfirst, ok_bind, List.foldlM_cons, hsecond]
    rfl
  unfold validatedSources
  rw [hmerge, ok_bind]
  have hsame : [both d o o'].map (fun r => (r.key, r.sourceChecksum P)) =
      [copy d' o'].map fun r => (r.key, r.sourceChecksum P) := copy_unchanged d d' o o'
  exact validateSourceSnapshot_of_unchanged hsame (List.nodup_singleton _) rfl ""

end Sample

/-- Copies created on one day have identical rows. -/
theorem rows_pinned_same_day : RowsPinned Sample.python Sample.mappings
    [Sample.both "2024-01-01" "file" "sql"]
    [Sample.copy "2024-01-01" "sql"] := by
  refine (rows_pinned_iff Sample.hexdigest_injective FloatText.fractions_readable
    (Sample.validated_both "2024-01-01" "file" "2024-01-01" "sql")
    (Sample.validated_alone "2024-01-01" "sql" "2024-01-01" "sql")).2 ?_
  intro key _ _ copy copy' hcopy hcopy'
  have hmem : copy ∈ [Sample.copy "2024-01-01" "file", Sample.copy "2024-01-01" "sql"] :=
    List.mem_of_find?_eq_some hcopy
  have hmem' : copy' ∈ [Sample.copy "2024-01-01" "sql"] := List.mem_of_find?_eq_some hcopy'
  simp only [List.mem_cons, List.not_mem_nil, or_false] at hmem hmem'
  subst hmem'
  obtain rfl | rfl := hmem <;> rfl

/-- A copy with another day of creation passes the inventory, and its rows differ. -/
theorem creation_not_pinned : ¬ ∀ (P : Python) (mappings : Dict String OwnerMapping) (inventory : Inventory)
    (sources sources' : List Collection) (selected selected' : List SourceRecord), Function.Injective P.hexdigest →
    P.floatText.Readable → validatedSources P sources inventory = .ok selected →
    validatedSources P sources' inventory = .ok selected' → RowsPinned P mappings selected selected' := by
  intro h
  have hpinned := h Sample.python Sample.mappings _ _ _ _ _ Sample.hexdigest_injective FloatText.fractions_readable
    (Sample.validated_both "2024-01-01" "file" "2024-02-01" "sql")
    (Sample.validated_alone "2024-02-01" "sql" "2024-02-01" "sql")
  have hkey : (Sample.both "2024-01-01" "file" "sql").key = (Sample.copy "2024-02-01" "sql").key :=
    (Sample.copy_key "2024-01-01" "file").trans (Sample.copy_key "2024-02-01" "sql").symm
  have hrows := hpinned.rows _ (List.mem_singleton_self _) _ (List.mem_singleton_self _) hkey Sample.owner
    (Sample.mappings_copy "2024-01-01" "file")
  rw [targetRows_sorted_iff Sample.hexdigest_injective FloatText.fractions_readable hkey
    (Sample.copy_checksum "2024-01-01" "2024-02-01" "file" "sql")] at hrows
  exact absurd hrows (by decide +kernel)

end RoutePilot.Migration
