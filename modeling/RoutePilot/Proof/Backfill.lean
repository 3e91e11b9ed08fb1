/-
  A backfill that is killed and run again.

  After any runs the three durable places are at three positions in the order of
  the records: the state at `c`, the manifest at `m` and the target at `d`, with
  `c ≤ m ≤ d` (`Progress`).  A run starts at `c`: what it migrates up to `d` is
  settled already, and each batch moves all three at least to its end
  (`backfillBatch_leads`).  So a run that completes leaves the target of an
  uninterrupted run, and a manifest of all records (`backfill_leads`).
-/
import RoutePilot.Migration.Backfill
import RoutePilot.Proof.Inventory

namespace RoutePilot.Migration

open Lib

variable {P : Python} {I : Integrity} {R : Request} {records : List SourceRecord}

/-! ## The order of the records -/

theorem expectedChecksums_distinct (items : List Value) : (expectedChecksums P items).DistinctKeys :=
  (show Dict.DistinctKeys ∅ from List.nodup_nil).setAll _

theorem inventoriedKeys_nodup (inventory : Inventory) : (inventoriedKeys P inventory).Nodup := by
  unfold inventoriedKeys
  split
  · exact expectedChecksums_distinct _
  · exact List.nodup_nil

/-- The records are those that the inventory selects, each with an owner. -/
structure Requested (P : Python) (R : Request) (loaded records : List SourceRecord) : Prop where
  loads : loadSources P R.sessionsFile R.shareLinksFile R.sourceDatabase = .ok loaded
  validates : validateSourceSnapshot P loaded R.inventory = .ok records
  mapping : ∀ message, checkMapping R message = .ok ()
  owned : ∀ record ∈ records, (R.mappings.get? record.key).isSome

theorem Requested.selected {loaded : List SourceRecord} (h : Requested P R loaded records) :
    Selected P loaded R.inventory records := validateSourceSnapshot_ok h.validates

/-- The message does not decide the check. -/
theorem checkMapping_ok {message : String} (h : checkMapping R message = .ok ()) (message' : String) :
    checkMapping R message' = .ok () := by
  unfold checkMapping at h ⊢
  split at h
  · split at h
    · cases h
    · rename_i hsame
      exact if_neg hsame
  · cases h

theorem selectedRecords_ok (h : selectedRecords P R = .ok records) : ∃ loaded, Requested P R loaded records := by
  obtain ⟨loaded, hload, h⟩ := bind_eq_ok.1 h
  obtain ⟨selected, hselected, h⟩ := bind_eq_ok.1 h
  obtain ⟨_, hmapping, h⟩ := bind_eq_ok.1 h
  obtain ⟨_, howners, h⟩ := bind_eq_ok.1 h
  cases h
  refine ⟨loaded, hload, hselected, checkMapping_ok hmapping, fun record hrecord => ?_⟩
  unfold checkOwners at howners
  simp only [ne_eq, List.filter_eq_nil_iff] at howners
  split at howners
  · cases howners
  · rename_i hall
    simpa [Option.isSome_iff_ne_none] using not_not.1 hall record hrecord

/-- The keys of the records rise. -/
def Rising (records : List SourceRecord) : Prop := records.Pairwise fun a b => a.key < b.key

theorem Selected.rising {loaded : List SourceRecord} {inventory : Inventory} (h : Selected P loaded inventory records) :
    Rising records := by
  have htotal : Std.Total fun a b : String => a ≤ b := ⟨String.le_total⟩
  have htrans : IsTrans String fun a b => a ≤ b := ⟨fun a b c => String.le_trans⟩
  have hsorted := List.pairwise_insertionSort (· ≤ ·) (inventoriedKeys P inventory)
  have hnodup := ((List.perm_insertionSort (· ≤ ·) (inventoriedKeys P inventory)).nodup_iff).2 (inventoriedKeys_nodup _)
  rw [← h.keys] at hsorted hnodup
  have hle := List.pairwise_map.1 hsorted
  have hne := List.pairwise_map.1 hnodup
  refine (hle.and hne).imp fun {a b} hab => ?_
  by_contra hlt
  exact hab.2 (String.le_antisymm hab.1 (String.not_lt.1 hlt))

/-! ## Positions -/

/-- The cursor after the first `c` records. -/
def cursorAt (records : List SourceRecord) (c : ℕ) : Option String := (records.take c).getLast?.map SourceRecord.key

/-- The records after a position are those after its cursor. -/
theorem pendingRecords_cursorAt (hrising : Rising records) (c : ℕ) :
    pendingRecords (cursorAt records c) records = records.drop c := by
  have hsplit := List.take_append_drop c records
  have hpair := hrising
  rw [← hsplit] at hpair
  obtain ⟨hfirst, -, hacross⟩ := List.pairwise_append.1 hpair
  unfold pendingRecords cursorAt
  cases hlast : (records.take c).getLast? with
  | none =>
    rw [List.getLast?_eq_none_iff] at hlast
    have hall : records.drop c = records := by rw [hlast, List.nil_append] at hsplit; exact hsplit
    simp [hall]
  | some last =>
    obtain ⟨front, hfront⟩ := List.getLast?_eq_some_iff.1 hlast
    have hmem : last ∈ records.take c := by rw [hfront]; simp
    -- what comes before the cursor is not after it
    have hbefore : ∀ a ∈ records.take c, ¬ last.key < a.key := by
      intro a ha hlt
      rw [hfront] at ha hfirst
      obtain ha | ha := List.mem_append.1 ha
      · exact String.lt_asymm hlt ((List.pairwise_append.1 hfirst).2.2 a ha last (List.mem_singleton_self _))
      · rw [List.mem_singleton.1 ha] at hlt
        exact String.lt_irrefl _ hlt
    conv_lhs => rw [← hsplit]
    simp only [Option.map_some]
    rw [List.filter_append, List.filter_eq_nil_iff.2 fun a ha => by simpa using hbefore a ha, List.nil_append]
    exact List.filter_eq_self.2 fun a ha => by simpa using hacross last hmem a ha

theorem cursorAt_add (c n : ℕ) :
    ((((records.drop c).take n).getLast?).map SourceRecord.key).or (cursorAt records c) = cursorAt records (c + n) := by
  unfold cursorAt
  rw [List.take_add, List.getLast?_append]
  cases ((records.drop c).take n).getLast? <;> rfl

/-- The target has the first `d` records. -/
def TargetAt (P : Python) (I : Integrity) (R : Request) (records : List SourceRecord) (start : Target) (d : ℕ)
    (target : Target) : Prop :=
  (records.take d).foldlM (applyRecord P I R.mappings) start = .ok target

/-- The entries are those of the first `m` records. -/
def EntriesAt (P : Python) (R : Request) (records : List SourceRecord) (m : ℕ) (entries : List ArchiveEntry) : Prop :=
  List.Forall₂ (EntryOf P R.mappings) (records.take m) entries

/-- The entries are kept under the keys of the first `m` records, in their order. -/
def ExistingAt (P : Python) (R : Request) (records : List SourceRecord) (m : ℕ) (existing : Dict String ArchiveEntry) :
    Prop :=
  List.Forall₂ (fun record e => e.1 = record.key ∧ EntryOf P R.mappings record e.2) (records.take m) existing.entries

/-- The state is at the first `c` records. -/
def StateAt (R : Request) (records : List SourceRecord) (c : ℕ) (state : Option ResumeState) : Prop :=
  ∃ s, loadState R state = .ok s ∧ s.requestHash = R.requestHash ∧ s.lastCommittedCursor = cursorAt records c

/-! ### Entries -/

theorem Rising.nodup (h : Rising records) : (records.map SourceRecord.key).Nodup := by
  refine List.pairwise_map.2 (List.Pairwise.imp (fun {a b} hlt heq => ?_) h)
  rw [heq] at hlt
  exact String.lt_irrefl _ hlt

/-- Rewriting the elements on the right, each of which stays related to what it is related to. -/
theorem forall₂_map_right {α β : Type} {Rel : α → β → Prop} {f : β → β} {as : List α} {bs : List β}
    (h : List.Forall₂ Rel as bs) (hf : ∀ a ∈ as, ∀ b, Rel a b → Rel a (f b)) : List.Forall₂ Rel as (bs.map f) := by
  induction h with
  | nil => exact .nil
  | cons hab _ ih =>
    rw [List.forall_mem_cons] at hf
    exact .cons (hf.1 _ hab) (ih hf.2)

section
variable {m c n : ℕ} {existing : Dict String ArchiveEntry} {entries : List ArchiveEntry}

theorem ExistingAt.keys (h : ExistingAt P R records m existing) :
    existing.entries.map Prod.fst = (records.take m).map SourceRecord.key := by
  unfold ExistingAt at h
  generalize records.take m = rs, existing.entries = es at h
  induction h with
  | nil => rfl
  | cons hab _ ih => rw [List.map_cons, List.map_cons, hab.1, ih]

/-- An entry written at a position up to the first free one. -/
theorem ExistingAt.set (hrising : Rising records) (h : ExistingAt P R records m existing) {j : ℕ} (hj : j ≤ m)
    {record : SourceRecord} (hrecord : records[j]? = some record) {entry : ArchiveEntry}
    (hentry : EntryOf P R.mappings record entry) :
    ExistingAt P R records (max m (j + 1)) (existing.set record.key entry) := by
  have hmem : record ∈ records := List.mem_of_getElem? hrecord
  obtain hlt | rfl := Nat.lt_or_eq_of_le hj
  · -- the record has an entry already, which is replaced in place
    have hin : record ∈ records.take m :=
      List.mem_of_getElem? (i := j) (by rw [List.getElem?_take_of_lt hlt, hrecord])
    have hsome : (existing.get? record.key).isSome := Dict.get?_isSome_iff.2 (h.keys ▸ List.mem_map_of_mem hin)
    rw [Nat.max_eq_left hlt]
    unfold ExistingAt Dict.set
    rw [if_pos hsome]
    refine forall₂_map_right h fun a ha e hae => ?_
    by_cases hkey : e.1 = record.key
    · have hsame : a = record :=
        List.inj_on_of_nodup_map hrising.nodup (List.mem_of_mem_take ha) hmem (hae.1.symm.trans hkey)
      subst hsame
      rw [if_pos hkey]
      exact ⟨rfl, hentry⟩
    · rw [if_neg hkey]
      exact hae
  · -- the record is the next one
    have htake : records.take (j + 1) = records.take j ++ [record] := by
      rw [List.take_add_one, hrecord]
      rfl
    have hnodup := hrising.nodup.sublist ((List.take_sublist (j + 1) records).map _)
    rw [htake, List.map_append, List.nodup_append] at hnodup
    have hnone : ¬ (existing.get? record.key).isSome := by
      rw [Dict.get?_isSome_iff, h.keys]
      exact fun hin => hnodup.2.2 _ hin _ List.mem_cons_self rfl
    rw [Nat.max_eq_right (Nat.le_succ j)]
    unfold ExistingAt Dict.set
    rw [if_neg hnone, htake]
    exact List.rel_append h (.cons ⟨rfl, hentry⟩ .nil)

/-- The entries of a batch that starts inside the part with entries. -/
theorem ExistingAt.setAll (hrising : Rising records) :
    ∀ {n c m : ℕ} {existing : Dict String ArchiveEntry} {entries : List ArchiveEntry},
      ExistingAt P R records m existing → c ≤ m →
        List.Forall₂ (EntryOf P R.mappings) ((records.drop c).take n) entries →
          ExistingAt P R records (max m (c + n))
          (existing.setAll (entries.map fun entry => (entry.sourceKey, entry))) := by
  intro n
  induction n with
  | zero =>
    intro c m existing entries h hcm hentries
    rw [List.take_zero, List.forall₂_nil_left_iff] at hentries
    subst hentries
    rw [Nat.add_zero, Nat.max_eq_left hcm]
    exact h
  | succ n ih =>
    intro c m existing entries h hcm hentries
    obtain hlt | hge := Nat.lt_or_ge c records.length
    · rw [List.drop_eq_getElem_cons hlt, List.take_succ_cons] at hentries
      cases hentries with
      | cons hentry hrest =>
        have hset := h.set hrising hcm (List.getElem?_eq_getElem hlt) hentry
        have hall := ih hset (Nat.le_max_right _ _) hrest
        obtain ⟨rows, status, -, rfl⟩ := hentry
        have hmax : max (max m (c + 1)) (c + 1 + n) = max m (c + (n + 1)) := by omega
        rw [hmax] at hall
        exact hall
    · -- there are no more records
      rw [List.drop_eq_nil_of_le hge, List.take_nil, List.forall₂_nil_left_iff] at hentries
      subst hentries
      have htake : records.take (max m (c + (n + 1))) = records.take m := by
        rw [List.take_of_length_le (by omega), List.take_of_length_le (by omega)]
      unfold ExistingAt
      rw [htake]
      exact h

theorem EntriesAt.byKey (hrising : Rising records) (h : EntriesAt P R records m entries) :
    ExistingAt P R records m (entriesByKey entries) := by
  have hstart : ExistingAt P R records 0 (∅ : Dict String ArchiveEntry) := .nil
  have hall := hstart.setAll hrising (n := m) (Nat.le_refl 0) h
  rwa [Nat.zero_add, Nat.max_eq_right (Nat.zero_le m)] at hall

theorem ExistingAt.distinct (hrising : Rising records) (h : ExistingAt P R records m existing) :
    existing.DistinctKeys := by
  unfold Dict.DistinctKeys
  rw [h.keys]
  exact hrising.nodup.sublist ((List.take_sublist m records).map _)

/-- Looked up under their own keys the entries are found in their order. -/
theorem ExistingAt.values (hrising : Rising records) (h : ExistingAt P R records m existing) :
    (existing.entries.map Prod.fst).filterMap existing.get? = existing.entries.map Prod.snd := by
  rw [List.filterMap_map, ← List.filterMap_eq_map]
  exact List.filterMap_congr fun e he => Dict.get?_of_mem (h.distinct hrising) he

/-- Sorted by their keys the entries are in the order of the records. -/
theorem ExistingAt.sorted (hrising : Rising records) (h : ExistingAt P R records m existing) :
    EntriesAt P R records m (sortedEntries existing) := by
  have hsorted : (existing.entries.map Prod.fst).Pairwise fun a b : String => a ≤ b := by
    rw [h.keys, List.pairwise_map]
    exact List.Pairwise.imp (fun {a b} hlt => String.not_lt.1 (String.lt_asymm hlt))
      (hrising.sublist (List.take_sublist m records))
  unfold sortedEntries EntriesAt
  rw [hsorted.insertionSort_eq, h.values hrising, List.forall₂_map_right_iff]
  exact List.Forall₂.imp (fun _ _ hae => hae.2) h

end

/-! ## Progress -/

/-- Where the durable places are, with the state at the first `c` records: the manifest is no further
    back, and the target no further back than the manifest. -/
structure At (P : Python) (I : Integrity) (R : Request) (records : List SourceRecord) (start : Target) (c m d : ℕ)
    (world : World) : Prop where
  stateFirst : c ≤ m
  manifestFirst : m ≤ d
  target : TargetAt P I R records start d world.target
  manifest : EntriesAt P R records m (loadArchive world.manifest).entries
  state : StateAt R records c world.state

/-- What the three places are after any runs. -/
def Progress (P : Python) (I : Integrity) (R : Request) (records : List SourceRecord) (start : Target) (world : World) :
    Prop :=
  ∃ c m d, At P I R records start c m d world

/-- What a run holds in memory, while the manifest is at `m` and the state at `c`. -/
structure Holds (P : Python) (R : Request) (records : List SourceRecord) (c m : ℕ) (memory : Memory) : Prop where
  existing : ExistingAt P R records m memory.existing
  archive : EntriesAt P R records m memory.archive.entries
  cursor : memory.state.lastCommittedCursor = cursorAt records c
  requestHash : memory.state.requestHash = R.requestHash

/-- Between two batches. -/
def Between (P : Python) (I : Integrity) (R : Request) (records : List SourceRecord) (start : Target) (c : ℕ)
    (memory : Memory) (world : World) : Prop :=
  ∃ m d, At P I R records start c m d world ∧ Holds P R records c m memory

theorem loadState_ok {state : ResumeState} (h : state.requestHash = R.requestHash) :
    loadState R (some state) = .ok state := by
  unfold loadState
  exact if_neg (not_not.2 h)

section
variable {start : Target} {memory : Memory} {world : World} {c m d n : ℕ}

theorem At.writeTarget (h : At P I R records start c m d world) {d' : ℕ} (hd : d ≤ d') {target : Target}
    (htarget : TargetAt P I R records start d' target) : At P I R records start c m d' { world with target } where
  stateFirst := h.stateFirst
  manifestFirst := h.manifestFirst.trans hd
  target := htarget
  manifest := h.manifest
  state := h.state

theorem At.writeManifest (h : At P I R records start c m d world) {m' : ℕ} (hm : m ≤ m') (hd : m' ≤ d)
    {archive : Manifest} (harchive : EntriesAt P R records m' archive.entries) :
    At P I R records start c m' d { world with manifest := some archive } where
  stateFirst := h.stateFirst.trans hm
  manifestFirst := hd
  target := h.target
  manifest := harchive
  state := h.state

theorem At.writeState (h : At P I R records start c m d world) {c' : ℕ} (hc : c' ≤ m) {state : ResumeState}
    (hhash : state.requestHash = R.requestHash) (hcursor : state.lastCommittedCursor = cursorAt records c') :
    At P I R records start c' m d { world with state := some state } where
  stateFirst := hc
  manifestFirst := h.manifestFirst
  target := h.target
  manifest := h.manifest
  state := ⟨state, loadState_ok hhash, hhash, hcursor⟩

theorem Holds.withEntries (hrising : Rising records) (h : Holds P R records c m memory) (hcm : c ≤ m)
    {entries : List ArchiveEntry} (hentries : List.Forall₂ (EntryOf P R.mappings) ((records.drop c).take n) entries) :
    Holds P R records c (max m (c + n)) (memory.withEntries entries) where
  existing := h.existing.setAll hrising hcm hentries
  archive := (h.existing.setAll hrising hcm hentries).sorted hrising
  cursor := h.cursor
  requestHash := h.requestHash

theorem Holds.advanced (h : Holds P R records c m memory) :
    Holds P R records (c + n) m (memory.advanced ((records.drop c).take n)) where
  existing := h.existing
  archive := h.archive
  cursor := by
    unfold Memory.advanced
    rw [h.cursor, cursorAt_add]
  requestHash := h.requestHash

/-! ## One batch -/

/-- The transaction of a batch moves the target to the end of the batch, or leaves it further on. -/
theorem commitBatch_leads (h : At P I R records start c m d world) :
    Leads (commitBatch P I R ((records.drop c).take n)) world
      (fun entries w => List.Forall₂ (EntryOf P R.mappings) ((records.drop c).take n) entries ∧
        At P I R records start c m (max d (c + n)) w) (Progress P I R records start) := by
  have hhere : Progress P I R records start world := ⟨c, m, d, h⟩
  refine .bind (Q := fun w' w => world = w' ∧ world = w) (.look ⟨rfl, rfl⟩) ?_
  rintro _ _ ⟨rfl, rfl⟩
  refine .bind (Q := fun r w => world = w ∧ migrateBatch P I R.mappings world.target ((records.drop c).take n) = .ok r)
    (.raising hhere fun r hr => ⟨rfl, hr⟩) ?_
  rintro ⟨target, entries⟩ w ⟨rfl, hbatch⟩
  obtain ⟨hfold, hentries⟩ := migrateBatch_ok hbatch
  have htarget := (applyRecord_settles.overlap (h.stateFirst.trans h.manifestFirst) h.target).1 hfold
  exact .bind (Q := fun _ => At P I R records start c m (max d (c + n)))
    (.durable hhere (h.writeTarget (Nat.le_max_left _ _) htarget)) fun _ w hw => .pure ⟨hentries, hw⟩

theorem backfillBatch_leads (hrising : Rising records) (h : Between P I R records start c memory world) :
    Leads (backfillBatch P I R memory ((records.drop c).take n)) world
      (Between P I R records start (c + n)) (Progress P I R records start) := by
  obtain ⟨m, d, hat, hholds⟩ := h
  refine .bind (commitBatch_leads hat) ?_
  rintro entries committed ⟨hentries, hcommitted⟩
  have hholds := hholds.withEntries hrising hat.stateFirst hentries
  have hmanifest := hcommitted.writeManifest (Nat.le_max_left m (c + n))
    (by have := hat.manifestFirst; omega) hholds.archive
  refine .bind (Q := fun _ => At P I R records start c (max m (c + n)) (max d (c + n)))
    (.durable ⟨_, _, _, hcommitted⟩ hmanifest) ?_
  intro _ written hwritten
  have hholds := hholds.advanced (n := n)
  have hstate := hwritten.writeState (Nat.le_max_right m (c + n)) hholds.requestHash hholds.cursor
  exact .bind (Q := fun _ => At P I R records start (c + n) (max m (c + n)) (max d (c + n)))
    (.durable ⟨_, _, _, hwritten⟩ hstate) fun _ w hw => .pure ⟨_, _, hw, hholds⟩

/-! ## One run -/

theorem backfillBatches_leads (hrising : Rising records) (batchSize c₀ : ℕ) : ∀ (count : ℕ) {i : ℕ} {memory : Memory}
    {world : World}, Between P I R records start (c₀ + i * batchSize) memory world →
      Leads (backfillBatches P I R batchSize (records.drop c₀) count i memory) world
        (Between P I R records start (c₀ + (i + count) * batchSize)) (Progress P I R records start) := by
  intro count
  induction count with
  | zero => exact fun h => .pure h
  | succ count ih =>
    intro i memory world h
    have hbatch := backfillBatch_leads hrising (n := batchSize) h
    rw [← List.drop_drop] at hbatch
    refine .bind hbatch fun memory' world' h' => ?_
    have hi : c₀ + i * batchSize + batchSize = c₀ + (i + 1) * batchSize := by rw [Nat.add_mul]; omega
    rw [hi] at h'
    have hloop := ih h'
    rwa [Nat.add_assoc i 1 count, Nat.add_comm 1 count] at hloop

/-- All records are migrated, and in the manifest. -/
structure Complete (P : Python) (I : Integrity) (R : Request) (records : List SourceRecord) (start : Target)
    (world : World) : Prop where
  target : records.foldlM (applyRecord P I R.mappings) start = .ok world.target
  manifest : ∃ manifest, world.manifest = some manifest ∧ List.Forall₂ (EntryOf P R.mappings) records manifest.entries

theorem finish_leads (h : Between P I R records start c memory world) (hall : records.length ≤ c) :
    Leads (finish R memory) world (fun _ w => Progress P I R records start w ∧ Complete P I R records start w)
      (Progress P I R records start) := by
  obtain ⟨m, d, hat, hholds⟩ := h
  have hm : records.take m = records := List.take_of_length_le (hall.trans hat.stateFirst)
  have hd : records.take d = records := List.take_of_length_le (hall.trans (hat.stateFirst.trans hat.manifestFirst))
  refine .bind (Q := fun _ => At P I R records start c m d)
    (.durable ⟨c, m, d, hat⟩ (hat.writeState hat.stateFirst hholds.requestHash hholds.cursor)) fun _ w hw => ?_
  let archive : Manifest := { memory.archive with
    status := "backfill_complete"
    sourceFingerprint := some (Mapping.get R.inventory "source_fingerprint")
    requestHash := some R.requestHash }
  have hlast := hw.writeManifest (Nat.le_refl m) hw.manifestFirst (show EntriesAt P R records m archive.entries from
    hholds.archive)
  refine .durable ⟨c, m, d, hw⟩ ⟨⟨c, m, d, hlast⟩, ?_, ?_⟩
  · have htarget := hlast.target
    unfold TargetAt at htarget
    rwa [hd] at htarget
  · have harchive := hholds.archive
    unfold EntriesAt at harchive
    rw [hm] at harchive
    exact ⟨_, rfl, harchive⟩

theorem le_batches (len : ℕ) {n : ℕ} (hn : 1 ≤ n) : len ≤ (len + n - 1) / n * n := by
  have hdiv := Nat.div_add_mod (len + n - 1) n
  have hmod := Nat.mod_lt (len + n - 1) hn
  rw [Nat.mul_comm] at hdiv
  omega

/-- The memory that a run starts with. -/
theorem start_between (hrising : Rising records) (h : At P I R records start c m d world) {state : ResumeState}
    (hload : loadState R world.state = .ok state) :
    Between P I R records start c
      { state, archive := loadArchive world.manifest, existing := entriesByKey (loadArchive world.manifest).entries }
      world ∧ state.lastCommittedCursor = cursorAt records c := by
  obtain ⟨s, hs, hhash, hcursor⟩ := h.state
  rw [hload] at hs
  cases hs
  exact ⟨⟨m, d, h, h.manifest.byKey hrising, h.manifest, hcursor, hhash⟩, hcursor⟩

/-- A run from any progress makes progress, and if it completes everything is migrated. -/
theorem backfill_leads (hsel : selectedRecords P R = .ok records) (batchSize : ℕ)
    (h : Progress P I R records start world) :
    Leads (backfill P I R batchSize) world
      (fun _ w => Progress P I R records start w ∧ Complete P I R records start w) (Progress P I R records start) := by
  obtain ⟨loaded, hrequested⟩ := selectedRecords_ok hsel
  have hrising := hrequested.selected.rising
  refine .bind (Q := fun _ w => world = w ∧ 1 ≤ batchSize) (.raising h fun _ hsize => ⟨rfl, ?_⟩) ?_
  · by_contra hlt
    rw [if_neg fun hboth => hlt hboth.1] at hsize
    cases hsize
  rintro _ w ⟨rfl, hsize⟩
  refine .bind (Q := fun selected w => world = w ∧ records = selected) (.raising h fun selected hs => ⟨rfl, ?_⟩) ?_
  · rw [hsel] at hs
    exact Except.ok.inj hs
  rintro _ w ⟨rfl, rfl⟩
  refine .bind (Q := fun w' w => world = w' ∧ world = w) (.look ⟨rfl, rfl⟩) ?_
  rintro _ _ ⟨rfl, rfl⟩
  refine .bind (Q := fun state w => world = w ∧ loadState R world.state = .ok state)
    (.raising h fun _ hs => ⟨rfl, hs⟩) ?_
  rintro state _ ⟨rfl, hload⟩
  obtain ⟨c, m, d, hat⟩ := h
  obtain ⟨hbetween, hcursor⟩ := start_between hrising hat hload
  simp only [hcursor, pendingRecords_cursorAt hrising]
  have hloop := backfillBatches_leads hrising batchSize c (((records.drop c).length + batchSize - 1) / batchSize)
    (i := 0)
    (by rw [Nat.zero_mul]; exact hbetween)
  refine .bind hloop fun memory' world' h' => finish_leads h' ?_
  have hbatches := le_batches (records.drop c).length hsize
  rw [List.length_drop] at hbatches ⊢
  rw [Nat.zero_add]
  omega

/-- Before any run the three places are at the first record. -/
theorem progress_start (target : Target) : Progress P I R records target ⟨target, none, none⟩ := by
  refine ⟨0, 0, 0, Nat.le_refl 0, Nat.le_refl 0, rfl, .nil, ?_⟩
  exact ⟨_, rfl, rfl, rfl⟩

theorem afterRuns_progress (hsel : selectedRecords P R = .ok records) (target : Target) (runs : List (ℕ × ℕ)) :
    Progress P I R records target (afterRuns P I R ⟨target, none, none⟩ runs) := by
  refine Leads.restarts (fun batchSize w hw => ?_) (progress_start target)
  exact (backfill_leads hsel batchSize hw).mono fun _ _ hdone => hdone.1

/-! ## A run that nothing interrupts -/

theorem backfillBatch_completes (h : Between P I R records start c memory world) {target : Target}
    (hwhole : records.foldlM (applyRecord P I R.mappings) start = .ok target) :
    ∃ memory' world', Completes (backfillBatch P I R memory ((records.drop c).take n)) world memory' world' := by
  obtain ⟨m, d, hat, -⟩ := h
  obtain ⟨next, hnext, -⟩ := foldlM_take_ok hwhole (max d (c + n))
  have hfold := (applyRecord_settles.overlap (hat.stateFirst.trans hat.manifestFirst) hat.target).2 hnext
  obtain ⟨entries, hbatch⟩ := exists_migrateBatch hfold
  have hcommit : Completes (commitBatch P I R ((records.drop c).take n)) world entries { world with target := next } :=
    Completes.look.bind ((Completes.raising hbatch).bind (Completes.durable.bind .pure))
  exact ⟨_, _, hcommit.bind (Completes.durable.bind (Completes.durable.bind .pure))⟩

theorem backfillBatches_completes (hrising : Rising records) {target : Target}
    (hwhole : records.foldlM (applyRecord P I R.mappings) start = .ok target) {batchSize : ℕ} (c₀ : ℕ) :
    ∀ (count : ℕ) {i : ℕ} {memory : Memory} {world : World},
      Between P I R records start (c₀ + i * batchSize) memory world →
      ∃ memory' world', Completes (backfillBatches P I R batchSize
        (records.drop c₀) count i memory) world memory' world' := by
  intro count
  induction count with
  | zero => exact fun {i memory world} _ => ⟨memory, world, .pure⟩
  | succ count ih =>
    intro i memory world h
    obtain ⟨memory', world', hbatch⟩ := backfillBatch_completes (n := batchSize) h hwhole
    have hbetween := hbatch.leads (backfillBatch_leads hrising h)
    have hi : c₀ + i * batchSize + batchSize = c₀ + (i + 1) * batchSize := by rw [Nat.add_mul]; omega
    rw [hi] at hbetween
    obtain ⟨memory'', world'', hrest⟩ := ih hbetween
    rw [← List.drop_drop] at hbatch
    exact ⟨memory'', world'', hbatch.bind hrest⟩

/-- Where all records can be migrated, a run that nothing interrupts completes, from any progress. -/
theorem backfill_completes (hsel : selectedRecords P R = .ok records) {batchSize : ℕ}
    (hsize : 1 ≤ batchSize ∧ batchSize ≤ 10_000) (h : Progress P I R records start world) {target : Target}
    (hwhole : records.foldlM (applyRecord P I R.mappings) start = .ok target) :
    ∃ world', Completes (backfill P I R batchSize) world () world' := by
  obtain ⟨loaded, hrequested⟩ := selectedRecords_ok hsel
  have hrising := hrequested.selected.rising
  obtain ⟨c, m, d, hat⟩ := h
  obtain ⟨state, hload, -, -⟩ := hat.state
  obtain ⟨hbetween, hcursor⟩ := start_between hrising hat hload
  rw [← Nat.add_zero c, ← Nat.zero_mul batchSize] at hbetween
  obtain ⟨memory', world', hloop⟩ := backfillBatches_completes hrising hwhole c
    (((records.drop c).length + batchSize - 1) / batchSize) hbetween
  rw [← pendingRecords_cursorAt hrising c, ← hcursor] at hloop
  have hfinish : ∃ last, Completes (finish R memory') world' () last := ⟨_, Completes.durable.bind Completes.durable⟩
  obtain ⟨last, hfinish⟩ := hfinish
  exact ⟨last, (Completes.raising (if_pos hsize)).bind ((Completes.raising hsel).bind (Completes.look.bind
    ((Completes.raising hload).bind (hloop.bind hfinish))))⟩

end

end RoutePilot.Migration
