/-
  A migration that completed, reconciled.

  In a target that was empty the rows of the records stand in the order of the
  records (`filled_of_complete`), and `verify` finds no issue
  (`verify_complete`).  With the position of the three durable places this
  gives what a backfill that was killed any number of times ends with
  (`backfill_resumable`).
-/
import RoutePilot.Migration.Verify
import RoutePilot.Proof.Backfill

namespace RoutePilot.Migration

open Lib

variable {P : Python} {I : Integrity} {R : Request} {mappings : Dict String OwnerMapping} {records : List SourceRecord}

/-! ## The rows of an empty target -/

/-- The rows of a record, as they are computed. -/
theorem mappedRows_ok {record : SourceRecord} {rows : Rows} (h : mappedRows P mappings record = .ok rows) :
    ∃ owner createdAt, mappings.get? record.key = some owner ∧ targetRows P record owner = some rows ∧
      rows = rowsAt P record owner createdAt := by
  unfold mappedRows at h
  split at h
  · cases h
  · rename_i owner howner
    split at h
    · cases h
    · rename_i htarget
      cases h
      obtain ⟨createdAt, -, heq⟩ := Option.map_eq_some_iff.1 htarget
      exact ⟨owner, createdAt, howner, htarget, heq.symm⟩

/-- The target that holds some rows and nothing else. -/
def filledWith (rows : List Rows) : Target where
  trips := rows.map (·.trip)
  members := rows.map (·.member)
  artifacts := rows.map (·.artifact)
  versions := rows.map (·.artifactVersion)

/-- The rows of some records, one after the other. -/
abbrev RowsOf (P : Python) (mappings : Dict String OwnerMapping) (records : List SourceRecord) (rows : List Rows) :
    Prop :=
  List.Forall₂ (fun record r => mappedRows P mappings record = .ok r) records rows

theorem insertOrValidate_new {ρ : Type} {name : String} {table table' : List ρ} {isKey : ρ → Bool} {admits : Bool}
    {mismatches : ρ → List String} {expected : ρ} {status : RowStatus} (hnew : ∀ row ∈ table, ¬ isKey row = true)
    (h : insertOrValidate name table isKey admits mismatches expected = .ok (table', status)) :
    table' = table ++ [expected] := by
  unfold insertOrValidate at h
  rw [List.find?_eq_none.2 hnew] at h
  simp only at h
  split at h
  · cases h
    rfl
  · cases h

/-- New rows are appended. -/
theorem applyRecord_new {before : List Rows} {record : SourceRecord} {rows : Rows} {target : Target}
    (hrows : mappedRows P mappings record = .ok rows) (htrip : ∀ r ∈ before, r.trip.tripId ≠ rows.trip.tripId)
    (hmember : ∀ r ∈ before, r.member.tripId ≠ rows.member.tripId)
    (hartifact : ∀ r ∈ before, r.artifact.artifactId ≠ rows.artifact.artifactId)
    (hversion : ∀ r ∈ before, r.artifactVersion.artifactId ≠ rows.artifactVersion.artifactId)
    (h : applyRecord P I mappings (filledWith before) record = .ok target) :
    target = filledWith (before ++ [rows]) := by
  obtain ⟨rows', hrows', h⟩ := bind_eq_ok.1 h
  rw [hrows] at hrows'
  cases hrows'
  obtain ⟨⟨target₁, statuses⟩, hinsert, h⟩ := bind_eq_ok.1 h
  cases h
  obtain ⟨⟨trips, onTrip⟩, ht, hinsert⟩ := bind_eq_ok.1 hinsert
  obtain ⟨⟨members, onMember⟩, hm, hinsert⟩ := bind_eq_ok.1 hinsert
  obtain ⟨⟨artifacts, onArtifact⟩, ha, hinsert⟩ := bind_eq_ok.1 hinsert
  obtain ⟨⟨versions, onVersion⟩, hv, hinsert⟩ := bind_eq_ok.1 hinsert
  cases hinsert
  have ht := insertOrValidate_new (by simpa [filledWith] using htrip) ht
  have hm := insertOrValidate_new (by simpa [filledWith] using fun r hr heq => absurd heq (hmember r hr)) hm
  have ha := insertOrValidate_new (by simpa [filledWith] using hartifact) ha
  have hv := insertOrValidate_new (by simpa [filledWith] using fun r hr heq => absurd heq (hversion r hr)) hv
  simp [filledWith, ht, hm, ha, hv]

/-- The identifiers of trips and artifacts, prefixes of hashes of the keys, do not collide. -/
def NoCollision (P : Python) (keys : List String) : Prop :=
  (keys.map (deterministicId P "trip")).Nodup ∧ (keys.map (deterministicId P "artifact")).Nodup

theorem RowsOf.tripIds {rows : List Rows} (h : RowsOf P mappings records rows) :
    rows.map (·.trip.tripId) = (records.map SourceRecord.key).map (deterministicId P "trip") := by
  induction h with
  | nil => rfl
  | cons hrow _ ih =>
    obtain ⟨_, _, -, -, rfl⟩ := mappedRows_ok hrow
    simp only [List.map_cons, ih]
    rfl

theorem RowsOf.artifactIds {rows : List Rows} (h : RowsOf P mappings records rows) :
    rows.map (·.artifact.artifactId) = (records.map SourceRecord.key).map (deterministicId P "artifact") := by
  induction h with
  | nil => rfl
  | cons hrow _ ih =>
    obtain ⟨_, _, -, -, rfl⟩ := mappedRows_ok hrow
    simp only [List.map_cons, ih]
    rfl

/-- Rows whose members and versions are of their own trip and artifact. -/
structure Linked (rows : Rows) : Prop where
  member : rows.member.tripId = rows.trip.tripId
  artifact : rows.artifact.tripId = rows.trip.tripId
  version : rows.artifactVersion.artifactId = rows.artifact.artifactId
  current : rows.trip.currentArtifactId = some rows.artifact.artifactId ∧ rows.trip.currentArtifactVersion = some 1
  first : rows.artifactVersion.version = 1
  owner : rows.member.role = "owner"
  memberTenant : rows.member.tenantId = rows.trip.tenantId
  artifactTenant : rows.artifact.tenantId = rows.trip.tenantId
  versionTenant : rows.artifactVersion.tenantId = rows.artifact.tenantId

theorem RowsOf.linked {rows : List Rows} (h : RowsOf P mappings records rows) : ∀ r ∈ rows, Linked r := by
  induction h with
  | nil => exact List.forall_mem_nil _
  | cons hrow _ ih =>
    obtain ⟨_, _, -, -, rfl⟩ := mappedRows_ok hrow
    exact List.forall_mem_cons.2 ⟨⟨rfl, rfl, rfl, ⟨rfl, rfl⟩, rfl, rfl, rfl, rfl, rfl⟩, ih⟩

/-- Migrated after other rows, the rows of the records follow them. -/
theorem filled_append {prior : List SourceRecord} {before : List Rows} (hbefore : RowsOf P mappings prior before) :
    ∀ {target : Target}, NoCollision P ((prior ++ records).map SourceRecord.key) →
      records.foldlM (applyRecord P I mappings) (filledWith before) = .ok target →
        ∃ rows, RowsOf P mappings records rows ∧ target = filledWith (before ++ rows) := by
  induction records generalizing prior before with
  | nil =>
    intro target _ h
    cases h
    exact ⟨[], .nil, by rw [List.append_nil]⟩
  | cons record records ih =>
    intro target hid h
    rw [List.foldlM_cons, bind_eq_ok] at h
    obtain ⟨next, hrecord, h⟩ := h
    obtain ⟨rows, hrows, -, -⟩ := applyRecord_ok hrecord
    have hmore : RowsOf P mappings (prior ++ [record]) (before ++ [rows]) := List.rel_append hbefore (.cons hrows .nil)
    have hids : (prior ++ record :: records).map SourceRecord.key =
        (prior ++ [record]).map SourceRecord.key ++ records.map SourceRecord.key := by simp
    rw [hids] at hid
    -- the identifiers so far are those of the rows so far
    have htrips : ((before ++ [rows]).map (·.trip.tripId)).Nodup := by
      have hsub := hid.1
      rw [List.map_append, ← hmore.tripIds] at hsub
      exact hsub.of_append_left
    have hartifacts : ((before ++ [rows]).map (·.artifact.artifactId)).Nodup := by
      have hsub := hid.2
      rw [List.map_append, ← hmore.artifactIds] at hsub
      exact hsub.of_append_left
    rw [List.map_append, List.nodup_append] at htrips hartifacts
    have htrip : ∀ r ∈ before, r.trip.tripId ≠ rows.trip.tripId :=
      fun r hr => htrips.2.2 _ (List.mem_map_of_mem hr) _ List.mem_cons_self
    have hartifact : ∀ r ∈ before, r.artifact.artifactId ≠ rows.artifact.artifactId :=
      fun r hr => hartifacts.2.2 _ (List.mem_map_of_mem hr) _ List.mem_cons_self
    have hlinked := hmore.linked
    have hself := hlinked rows (List.mem_append_right _ List.mem_cons_self)
    have hnext := applyRecord_new hrows htrip
      (fun r hr => by
        rw [(hlinked r (List.mem_append_left _ hr)).member, hself.member]
        exact htrip r hr)
      hartifact
      (fun r hr => by
        rw [(hlinked r (List.mem_append_left _ hr)).version, hself.version]
        exact hartifact r hr) hrecord
    subst hnext
    rw [← List.map_append, List.append_assoc, List.singleton_append] at hid
    have hid' : NoCollision P (((prior ++ [record]) ++ records).map SourceRecord.key) := by
      rwa [List.append_assoc, List.singleton_append]
    obtain ⟨rest, hrest, htarget⟩ := ih hmore hid' h
    exact ⟨rows :: rest, .cons hrows hrest, by rw [htarget, List.append_assoc, List.singleton_append]⟩

/-- In a target that was empty the rows of the records stand in their order. -/
theorem filled_of_complete {target : Target} (hid : NoCollision P (records.map SourceRecord.key))
    (h : records.foldlM (applyRecord P I mappings) ⟨[], [], [], []⟩ = .ok target) :
    ∃ rows, RowsOf P mappings records rows ∧ target = filledWith rows :=
  filled_append (show RowsOf P mappings [] [] from .nil) hid h

/-! ## The report -/

section
variable {rows : List Rows} {entries : List ArchiveEntry}

/-- Rows with identifiers of their own, each linked. -/
structure Distinct (rows : List Rows) : Prop where
  linked : ∀ r ∈ rows, Linked r
  trips : ∀ r ∈ rows, ∀ r' ∈ rows, r.trip.tripId = r'.trip.tripId → r = r'
  artifacts : ∀ r ∈ rows, ∀ r' ∈ rows, r.artifact.artifactId = r'.artifact.artifactId → r = r'

theorem RowsOf.distinct (h : RowsOf P mappings records rows) (hid : NoCollision P (records.map SourceRecord.key)) :
    Distinct rows where
  linked := h.linked
  trips r hr r' hr' heq := List.inj_on_of_nodup_map (by rw [h.tripIds]; exact hid.1) hr hr' heq
  artifacts r hr r' hr' heq := List.inj_on_of_nodup_map (by rw [h.artifactIds]; exact hid.2) hr hr' heq

/-! ### Counts -/

theorem orphanCount_eq_zero {α β : Type} {left : List α} {right : List β} {on : α → β → Bool}
    (h : ∀ a ∈ left, ∃ b ∈ right, on a b = true) : orphanCount left right on = 0 := by
  unfold orphanCount
  rw [List.countP_eq_zero]
  intro a ha
  obtain ⟨b, hb, hon⟩ := h a ha
  simp only [Bool.not_eq_true', Bool.not_eq_false]
  exact List.any_eq_true.2 ⟨b, hb, hon⟩

theorem joinCount_eq_zero {α β : Type} {left : List α} {right : List β} {on : α → β → Bool}
    (h : ∀ a ∈ left, ∀ b ∈ right, ¬ on a b = true) : joinCount left right on = 0 := by
  unfold joinCount
  induction left with
  | nil => rfl
  | cons a left ih =>
    rw [List.forall_mem_cons] at h
    rw [List.map_cons, List.sum_cons, List.countP_eq_zero.2 h.1, ih h.2]

/-- No row of the target is an orphan, and no two joined rows are of two tenants. -/
theorem globalIntegrity_filled (h : Distinct rows) : ∀ c ∈ globalIntegrity (filledWith rows), c.2 = 0 := by
  have hmember : ∀ r ∈ rows, ∀ r' ∈ rows, r.member.tripId = r'.trip.tripId → r = r' := fun r hr r' hr' heq =>
    h.trips r hr r' hr' ((h.linked r hr).member.symm.trans heq)
  have hartifact : ∀ r ∈ rows, ∀ r' ∈ rows, r.artifact.tripId = r'.trip.tripId → r = r' := fun r hr r' hr' heq =>
    h.trips r hr r' hr' ((h.linked r hr).artifact.symm.trans heq)
  have hversion : ∀ r ∈ rows, ∀ r' ∈ rows, r.artifactVersion.artifactId = r'.artifact.artifactId → r = r' :=
    fun r hr r' hr' heq => h.artifacts r hr r' hr' ((h.linked r hr).version.symm.trans heq)
  unfold globalIntegrity filledWith
  simp only [List.forall_mem_cons, List.not_mem_nil, false_imp_iff, implies_true, and_true]
  refine ⟨orphanCount_eq_zero ?_, orphanCount_eq_zero ?_, orphanCount_eq_zero ?_, joinCount_eq_zero ?_,
    joinCount_eq_zero ?_, joinCount_eq_zero ?_, orphanCount_eq_zero ?_⟩
  · simp only [List.forall_mem_map, decide_eq_true_eq]
    exact fun r hr => ⟨r.trip, List.mem_map_of_mem hr, (h.linked r hr).member⟩
  · simp only [List.forall_mem_map, decide_eq_true_eq]
    exact fun r hr => ⟨r.trip, List.mem_map_of_mem hr, (h.linked r hr).artifact⟩
  · simp only [List.forall_mem_map, decide_eq_true_eq]
    exact fun r hr => ⟨r.artifact, List.mem_map_of_mem hr, (h.linked r hr).version⟩
  · simp only [List.forall_mem_map, decide_eq_true_eq, not_and, not_not]
    intro r hr r' hr' heq
    rw [← hmember r hr r' hr' heq]
    exact (h.linked r hr).memberTenant
  · simp only [List.forall_mem_map, decide_eq_true_eq, not_and, not_not]
    intro r hr r' hr' heq
    rw [← hartifact r hr r' hr' heq]
    exact (h.linked r hr).artifactTenant
  · simp only [List.forall_mem_map, decide_eq_true_eq, not_and, not_not]
    intro r hr r' hr' heq
    rw [← hversion r hr r' hr' heq]
    exact (h.linked r hr).versionTenant
  · intro t ht
    obtain ⟨r, hr, rfl⟩ := List.mem_map.1 (List.mem_of_mem_filter ht)
    refine ⟨r.artifactVersion, List.mem_map_of_mem hr, ?_⟩
    have hlinked := h.linked r hr
    simp [hlinked.current, hlinked.version, hlinked.first]

/-- The identifiers in the entries are those of the rows. -/
theorem entries_ids (hrows : RowsOf P mappings records rows)
    (hentries : List.Forall₂ (EntryOf P mappings) records entries) :
    entries.map (·.targetTripId) = rows.map (·.trip.tripId) ∧
      entries.map (·.targetArtifactId) = rows.map (·.artifact.artifactId) := by
  induction hrows generalizing entries with
  | nil =>
    cases hentries
    exact ⟨rfl, rfl⟩
  | cons hrow _ ih =>
    cases hentries with
    | cons hentry hrest =>
      obtain ⟨r, status, hr, rfl⟩ := hentry
      rw [hrow] at hr
      cases hr
      simp only [List.map_cons, ih hrest]
      exact ⟨rfl, rfl⟩

theorem countP_filled {ρ : Type} {f : Rows → ρ} {p : ρ → Bool} (h : ∀ r ∈ rows, p (f r) = true) :
    (rows.map f).countP p = rows.length := by
  rw [List.countP_eq_length.2 (List.forall_mem_map.2 h), List.length_map]

theorem targetCounts_filled (hrows : RowsOf P mappings records rows)
    (hentries : List.Forall₂ (EntryOf P mappings) records entries) :
    ∀ c ∈ targetCounts (filledWith rows) entries, c.2 = records.length := by
  obtain ⟨htrips, hartifacts⟩ := entries_ids hrows hentries
  have hlinked := hrows.linked
  unfold targetCounts filledWith
  simp only [htrips, hartifacts, hrows.length_eq, List.forall_mem_cons, List.not_mem_nil, false_imp_iff, implies_true,
    and_true]
  refine ⟨countP_filled fun r hr => ?_, countP_filled fun r hr => ?_, countP_filled fun r hr => ?_,
    countP_filled fun r hr => ?_⟩
  · exact decide_eq_true (List.mem_map_of_mem hr)
  · exact decide_eq_true (List.mem_map_of_mem hr)
  · rw [(hlinked r hr).version, (hlinked r hr).first]
    exact decide_eq_true ⟨List.mem_map_of_mem hr, rfl⟩
  · rw [(hlinked r hr).member, (hlinked r hr).owner]
    exact decide_eq_true ⟨List.mem_map_of_mem hr, rfl⟩

/-! ### Records -/

/-- The only element that a search can find. -/
theorem find?_only {α : Type} {l : List α} {p : α → Bool} {a : α} (ha : a ∈ l) (hp : p a = true)
    (honly : ∀ b ∈ l, p b = true → b = a) : l.find? p = some a := by
  cases hfind : l.find? p with
  | none => exact absurd hp (List.find?_eq_none.1 hfind a ha)
  | some b => rw [honly b (List.mem_of_find?_eq_some hfind) (List.find?_some hfind)]

/-- The rows found for a record are its own. -/
theorem selectRows_filled (h : Distinct rows) {r : Rows} (hr : r ∈ rows) : selectRows (filledWith rows) r = some r := by
  have hlinked := h.linked r hr
  have htrip : (rows.map (·.trip)).find? (fun row => row.tripId = r.trip.tripId) = some r.trip := by
    refine find?_only (List.mem_map_of_mem hr) (decide_eq_true rfl) (List.forall_mem_map.2 fun r' hr' heq => ?_)
    rw [h.trips r' hr' r hr (of_decide_eq_true heq)]
  have hmember : (rows.map (·.member)).find?
      (fun row => row.tripId = r.member.tripId ∧ row.userId = r.member.userId) = some r.member := by
    refine find?_only (List.mem_map_of_mem hr) (decide_eq_true ⟨rfl, rfl⟩) (List.forall_mem_map.2 fun r' hr' heq => ?_)
    have hids := (of_decide_eq_true heq).1
    rw [(h.linked r' hr').member, hlinked.member] at hids
    rw [h.trips r' hr' r hr hids]
  have hartifact : (rows.map (·.artifact)).find? (fun row => row.artifactId = r.artifact.artifactId) =
    some r.artifact := by
    refine find?_only (List.mem_map_of_mem hr) (decide_eq_true rfl) (List.forall_mem_map.2 fun r' hr' heq => ?_)
    rw [h.artifacts r' hr' r hr (of_decide_eq_true heq)]
  have hversion : (rows.map (·.artifactVersion)).find?
      (fun row => row.artifactId = r.artifactVersion.artifactId ∧ row.version = 1) = some r.artifactVersion := by
    refine find?_only (List.mem_map_of_mem hr) (decide_eq_true ⟨rfl, hlinked.first⟩)
      (List.forall_mem_map.2 fun r' hr' heq => ?_)
    have hids := (of_decide_eq_true heq).1
    rw [(h.linked r' hr').version, hlinked.version] at hids
    rw [h.artifacts r' hr' r hr hids]
  unfold selectRows filledWith
  simp only [htrip, hmember, hartifact, hversion]
  rfl

/-- A record whose own rows are found, and whose entry is in the manifest, has no issue. -/
theorem rowIssues_own {record : SourceRecord} {owner : OwnerMapping} {createdAt : Instant} {status : String} :
    rowIssues P record (archiveEntry P record (rowsAt P record owner createdAt) status) owner
      (rowsAt P record owner createdAt) (rowsAt P record owner createdAt) = [] := by
  simp [rowIssues, issueIf, archiveEntry, rowsAt]

theorem recordIssues_filled (hdistinct : Distinct rows) {existing : Dict String ArchiveEntry} {record : SourceRecord}
    {r : Rows} {entry : ArchiveEntry} (hr : r ∈ rows) (hrow : mappedRows P R.mappings record = .ok r)
    (hentry : EntryOf P R.mappings record entry) (hget : existing.get? record.key = some entry) :
    recordIssues P R (filledWith rows) existing record = .ok [] := by
  obtain ⟨r', status, hr', rfl⟩ := hentry
  rw [hrow] at hr'
  cases hr'
  obtain ⟨owner, createdAt, howner, htarget, rfl⟩ := mappedRows_ok hrow
  unfold recordIssues
  simp only [hget, howner, htarget, selectRows_filled hdistinct hr]
  rw [rowIssues_own]
  rfl

theorem mapM_nil {α β : Type} {f : α → Except String (List β)} {as : List α} (h : ∀ a ∈ as, f a = .ok []) :
    as.mapM f = .ok (as.map fun _ => []) := by
  induction as with
  | nil => rfl
  | cons a as ih =>
    rw [List.forall_mem_cons] at h
    rw [List.mapM_cons, h.1, ok_bind, ih h.2]
    rfl

theorem sortedDifference_self (keys : List String) : sortedDifference keys keys = [] := by
  have hnone : keys.filter (· ∉ keys) = [] := List.filter_eq_nil_iff.2 fun key hkey => by simp [hkey]
  unfold sortedDifference
  rw [hnone]
  rfl

theorem forall₂_mem_left {α β : Type} {Rel : α → β → Prop} {as : List α} {bs : List β} (h : List.Forall₂ Rel as bs) :
    ∀ a ∈ as, ∃ b ∈ bs, Rel a b := by
  induction h with
  | nil => exact List.forall_mem_nil _
  | cons hab _ ih =>
    rw [List.forall_mem_cons]
    exact ⟨⟨_, List.mem_cons_self, hab⟩, fun a ha => (ih a ha).imp fun b hb => ⟨List.mem_cons_of_mem _ hb.1, hb.2⟩⟩

/-- A migration of a target that was empty, once it is complete, is verified without an issue. -/
theorem verify_complete {loaded : List SourceRecord} (hrequested : Requested P R loaded records)
    (hid : NoCollision P (records.map SourceRecord.key)) {world : World}
    (h : Complete P I R records ⟨[], [], [], []⟩ world) : verify P R world = .ok [] := by
  have hrising := hrequested.selected.rising
  obtain ⟨rows, hrows, htarget⟩ := filled_of_complete hid h.target
  obtain ⟨manifest, hmanifest, hentries⟩ := h.manifest
  have hdistinct := hrows.distinct hid
  -- the manifest has the entries of the records, under their keys
  have hall : records.take records.length = records := List.take_length
  have hat : EntriesAt P R records records.length manifest.entries := by
    unfold EntriesAt
    rwa [hall]
  have hexisting := hat.byKey hrising
  have hkeys := hexisting.keys
  have hlisted := hexisting
  unfold ExistingAt at hlisted
  rw [hall] at hkeys hlisted
  have hexpected : List.Forall₂ (EntryOf P R.mappings) records
      (expectedEntries (records.map SourceRecord.key) (entriesByKey manifest.entries)) := by
    unfold expectedEntries
    rw [← hkeys, hexisting.values hrising, List.forall₂_map_right_iff]
    exact hlisted.imp fun _ _ hae => hae.2
  have hrecords : ∀ record ∈ records,
      recordIssues P R world.target (entriesByKey manifest.entries) record = .ok [] := by
    intro record hrecord
    obtain ⟨r, hr, hrow⟩ := forall₂_mem_left hrows record hrecord
    obtain ⟨e, he, hkey, hentry⟩ := forall₂_mem_left hlisted record hrecord
    have hget := Dict.get?_of_mem (hexisting.distinct hrising) he
    rw [hkey] at hget
    rw [htarget]
    exact recordIssues_filled hdistinct hr hrow hentry hget
  have hcounts : (targetCounts world.target
      (expectedEntries (records.map SourceRecord.key) (entriesByKey manifest.entries))).any
        (fun c => c.2 ≠ records.length) = false := by
    rw [List.any_eq_false, htarget]
    intro c hc
    simpa using targetCounts_filled hrows hexpected c hc
  have hintegrity : (globalIntegrity world.target).filter (fun c => c.2 ≠ 0) = [] := by
    rw [List.filter_eq_nil_iff, htarget]
    intro c hc
    simpa using globalIntegrity_filled hdistinct c hc
  have hload : loadArchive (some manifest) = manifest := rfl
  unfold verify
  rw [hrequested.loads, ok_bind, hrequested.validates, ok_bind, hrequested.mapping, ok_bind, hmanifest, hload]
  simp only
  rw [mapM_nil hrecords, ok_bind, hkeys, hintegrity, if_neg (by rw [hcounts]; exact Bool.false_ne_true),
    manifestIssues, sortedDifference_self]
  simp
  rfl

end

/-! ## Any number of restarts -/

/-- A run that completes has selected its records. -/
theorem selected_of_completed {batchSize : ℕ} {disk disk' : Disk World}
    (h : (backfill P I R batchSize).run disk = .ok () disk') : ∃ records, selectedRecords P R = .ok records := by
  obtain ⟨_, d₁, -, h⟩ := bind_ok.1 h
  obtain ⟨records, d₂, hselected, -⟩ := bind_ok.1 h
  cases hsel : selectedRecords P R with
  | ok records => exact ⟨records, rfl⟩
  | error message =>
    rw [hsel] at hselected
    cases hselected

/-- The entries of some records are under their keys. -/
theorem entries_keys {entries : List ArchiveEntry} (h : List.Forall₂ (EntryOf P mappings) records entries) :
    entries.map (·.sourceKey) = records.map SourceRecord.key := by
  induction h with
  | nil => rfl
  | cons hentry _ ih =>
    obtain ⟨rows, status, -, rfl⟩ := hentry
    rw [List.map_cons, List.map_cons, ih]
    rfl

/-- A backfill of any batch sizes, killed any number of times at any point, and run once more to its end:
    the target is that of an uninterrupted run, the manifest has one entry for each inventoried record,
    and in a target that was empty the verification finds no issue. -/
theorem backfill_resumable {target : Target} {runs : List (ℕ × ℕ)} {batchSize left : ℕ} {disk : Disk World}
    (hlast : (backfill P I R batchSize).run ⟨afterRuns P I R ⟨target, none, none⟩ runs, left⟩ = .ok () disk) :
    (∀ size, 1 ≤ size ∧ size ≤ 10_000 → ∃ world, Completes (backfill P I R size) ⟨target, none, none⟩ () world ∧
        world.target = disk.world.target) ∧
      (∃ manifest, disk.world.manifest = some manifest ∧
        (manifest.entries.map (·.sourceKey)).Perm (inventoriedKeys P R.inventory) ∧
          (inventoriedKeys P R.inventory).Nodup) ∧
      (target = ⟨[], [], [], []⟩ → NoCollision P (inventoriedKeys P R.inventory) → verify P R disk.world = .ok []) := by
  obtain ⟨records, hsel⟩ := selected_of_completed hlast
  obtain ⟨loaded, hrequested⟩ := selectedRecords_ok hsel
  have hprogress := afterRuns_progress (I := I) hsel target runs
  obtain ⟨-, hcomplete⟩ := (backfill_leads hsel batchSize hprogress).ok hlast
  have hperm : (records.map SourceRecord.key).Perm (inventoriedKeys P R.inventory) := by
    rw [hrequested.selected.keys]
    exact List.perm_insertionSort _ _
  refine ⟨fun size hsize => ?_, ?_, fun hempty hid => ?_⟩
  · -- an uninterrupted run migrates the same records from the same start
    have hstart : Progress P I R records target ⟨target, none, none⟩ := progress_start target
    obtain ⟨world, hworld⟩ := backfill_completes hsel hsize hstart hcomplete.target
    obtain ⟨-, halone⟩ := hworld.leads (backfill_leads hsel size hstart)
    have htargets := halone.target
    rw [hcomplete.target] at htargets
    exact ⟨world, hworld, (Except.ok.inj htargets).symm⟩
  · obtain ⟨manifest, hmanifest, hentries⟩ := hcomplete.manifest
    refine ⟨manifest, hmanifest, ?_, inventoriedKeys_nodup _⟩
    rw [entries_keys hentries]
    exact hperm
  · subst hempty
    refine verify_complete hrequested ?_ hcomplete
    exact ⟨((hperm.map _).nodup_iff).2 hid.1, ((hperm.map _).nodup_iff).2 hid.2⟩

/-! ## Two sessions -/

namespace Sample

/-- A schema that takes every row. -/
def allows : Integrity := ⟨fun _ _ => true, fun _ _ => true, fun _ _ => true, fun _ _ => true⟩

/-- A session of a file. -/
def session (id : String) : SourceRecord :=
  ⟨"session", id, [("session_id", .str id), ("name", .str "Rome"), ("messages", .list []),
    ("created_at", .str "2024-01-01")], ["file:sessions.json"]⟩

def sessions : List SourceRecord := [session "s1", session "s2"]

/-- The sessions of a file, under an inventory of it. -/
def request : Request where
  inventory := buildInventory python sessions "mapping"
  mappings := Sample.mappings.set (session "s2").key owner
  mappingChecksum := "mapping"
  sessionsFile := some ("sessions.json", some (.dict (sessions.map fun s => (s.sourceId, .dict s.payload))))
  shareLinksFile := none
  sourceDatabase := none
  requestHash := "request"

theorem selected_request : selectedRecords python request = .ok sessions := by
  have hload : loadSources python request.sessionsFile request.shareLinksFile request.sourceDatabase =
    .ok sessions := rfl
  have hvalid : validateSourceSnapshot python sessions request.inventory = .ok sessions :=
    validateSourceSnapshot_of_unchanged rfl (by decide) rfl "mapping"
  have hmapping : checkMapping request "owner mapping changed after inventory; create a new inventory" = .ok () := rfl
  have howners : checkOwners request sessions = .ok () := rfl
  unfold selectedRecords
  rw [hload, ok_bind, hvalid, ok_bind, hmapping, ok_bind, howners]
  rfl

theorem mappedRows_session {id : String} (howner : request.mappings.get? (session id).key = some owner) :
    ∃ createdAt, mappedRows python request.mappings (session id) =
      .ok (rowsAt python (session id) owner createdAt) := by
  have hcreated : (parseDatetime python (Mapping.get (session id).payload "created_at")).isSome := by
    show (parseDatetime python (.str "2024-01-01")).isSome
    decide +kernel
  obtain ⟨createdAt, hcreated⟩ := Option.isSome_iff_exists.1 hcreated
  refine ⟨createdAt, ?_⟩
  simp only [mappedRows, howner, targetRows, hcreated, Option.map_some]
  rfl

/-- The sessions can be migrated. -/
theorem request_applies : ∃ target, sessions.foldlM (applyRecord python allows request.mappings) ⟨[], [], [], []⟩ =
    .ok target := by
  obtain ⟨createdAt, hrows⟩ := mappedRows_session (show request.mappings.get? (session "s1").key = some owner from rfl)
  obtain ⟨createdAt', hrows'⟩ := mappedRows_session
    (show request.mappings.get? (session "s2").key = some owner from rfl)
  let rows := rowsAt python (session "s1") owner createdAt
  let rows' := rowsAt python (session "s2") owner createdAt'
  have hfirst : applyRecord python allows request.mappings ⟨[], [], [], []⟩ (session "s1") =
    .ok (filledWith [rows]) := by
    unfold applyRecord
    rw [hrows, ok_bind]
    rfl
  have hsecond : applyRecord python allows request.mappings (filledWith [rows]) (session "s2") =
      .ok (filledWith [rows, rows']) := by
    unfold applyRecord
    rw [hrows', ok_bind]
    rfl
  refine ⟨filledWith [rows, rows'], ?_⟩
  rw [sessions, List.foldlM_cons, hfirst, ok_bind, List.foldlM_cons, hsecond]
  rfl

theorem request_keys : inventoriedKeys python request.inventory = ["session:s1", "session:s2"] :=
  congrArg (List.map Prod.fst) (expectedChecksums_recorded (show Mapping.get (buildInventory python sessions "mapping")
    "records" = .list _ from rfl) (by decide))

theorem request_ids : NoCollision python (inventoriedKeys python request.inventory) := by
  rw [request_keys]
  exact ⟨by decide +kernel, by decide +kernel⟩

end Sample

/-- Killed after the second batch of one session is committed, and with batches of two after the first write, the
    backfill of two sessions completes with batches of 100: both are in the manifest, and the target is verified. -/
theorem backfill_resumable_once : ∃ left disk,
    (backfill Sample.python Sample.allows Sample.request 100).run ⟨afterRuns Sample.python Sample.allows Sample.request
      ⟨⟨[], [], [], []⟩, none, none⟩ [(1, 4), (2, 1)], left⟩ = .ok () disk ∧
    (∃ manifest, disk.world.manifest = some manifest ∧
      (manifest.entries.map (·.sourceKey)).Perm ["session:s1", "session:s2"]) ∧
    verify Sample.python Sample.request disk.world = .ok [] := by
  obtain ⟨target, htarget⟩ := Sample.request_applies
  have hprogress := afterRuns_progress (I := Sample.allows) Sample.selected_request ⟨[], [], [], []⟩ [(1, 4), (2, 1)]
  obtain ⟨world, writes, hrun⟩ := backfill_completes Sample.selected_request
    (show 1 ≤ 100 ∧ 100 ≤ 10_000 by decide) hprogress htarget
  obtain ⟨-, ⟨manifest, hmanifest, hkeys, -⟩, hverified⟩ := backfill_resumable (hrun 0)
  exact ⟨_, _, hrun 0, ⟨manifest, hmanifest, Sample.request_keys ▸ hkeys⟩, hverified rfl Sample.request_ids⟩

end RoutePilot.Migration
