/-
  The fusion of two rankings, in the in-memory repository (`_fuse`) and in the
  PostgreSQL one (`_fuse_rows`), with the weights of the source and exact numbers.

  Both enter their candidates in two passes, and both sort by a score, a trust and a
  chunk that the two lists of chunks determine (`map_key_fuse`, `map_key_fuseRows`).
-/
import Mathlib.Algebra.Order.Ring.Rat
import Mathlib.Tactic.NormNum
import RoutePilot.Knowledge.Postgres
import RoutePilot.Lib.RankFusion

namespace RoutePilot.Knowledge

open Lib

/-! ## Sorting -/

section
variable {F : Type} [LinearOrder F]

theorem keyLe_total (a b : F × ℕ × String) : keyLe a b || keyLe b a := by
  obtain ⟨a, m, s⟩ := a
  obtain ⟨b, n, t⟩ := b
  simp only [keyLe, Bool.or_eq_true, decide_eq_true_eq]
  rcases lt_trichotomy a b with h | rfl | h
  · exact .inl (.inl h)
  · rcases lt_trichotomy m n with h | rfl | h
    · exact .inl (.inr ⟨rfl, .inl h⟩)
    · exact (String.le_total s t).imp (fun h => .inr ⟨rfl, .inr ⟨rfl, h⟩⟩) fun h => .inr ⟨rfl, .inr ⟨rfl, h⟩⟩
    · exact .inr (.inr ⟨rfl, .inl h⟩)
  · exact .inr (.inl h)

theorem keyLe_trans (a b c : F × ℕ × String) (hab : keyLe a b) (hbc : keyLe b c) : keyLe a c := by
  obtain ⟨a, m, s⟩ := a
  obtain ⟨b, n, t⟩ := b
  obtain ⟨c, o, u⟩ := c
  simp only [keyLe, decide_eq_true_eq] at hab hbc ⊢
  rcases hab with hab | ⟨rfl, hab⟩
  · rcases hbc with hbc | ⟨rfl, -⟩
    · exact .inl (hab.trans hbc)
    · exact .inl hab
  · rcases hbc with hbc | ⟨rfl, hbc⟩
    · exact .inl hbc
    · refine .inr ⟨rfl, ?_⟩
      rcases hab with hab | ⟨rfl, hab⟩
      · rcases hbc with hbc | ⟨rfl, -⟩
        · exact .inl (hab.trans hbc)
        · exact .inl hab
      · rcases hbc with hbc | ⟨rfl, hbc⟩
        · exact .inl hbc
        · exact .inr ⟨rfl, String.le_trans hab hbc⟩

variable {α : Type} (key : α → F × ℕ × String) (items : List α)

theorem perm_sortedDown : (sortedDown key items).Perm items := List.mergeSort_perm _ _

/-- The keys fall. -/
theorem pairwise_sortedDown : (sortedDown key items).Pairwise fun a b => keyLe (key b) (key a) :=
  List.pairwise_mergeSort (fun a b c hab hbc => keyLe_trans (key c) (key b) (key a) hbc hab)
    (fun a b => keyLe_total (key b) (key a)) items

/-- The keys are sorted as such. -/
theorem map_sortedDown : (sortedDown key items).map key = sortedDown id (items.map key) :=
  List.map_mergeSort fun _ _ _ _ => rfl

end

/-! ## Scores -/

/-- The weights of the source, as exact numbers. -/
def exactRanking (cosineSimilarity : List ℚ → List ℚ → ℚ) : Ranking ℚ := ⟨45 / 100, 55 / 100, cosineSimilarity⟩

section
variable (cos : List ℚ → List ℚ → ℚ)

/-- The score of two ranks before it is clamped; `alone` if there is no vector ranking. -/
def unclampedScore (alone : Bool) (lexicalRank vectorRank : Option ℕ) : ℚ :=
  (reciprocalRank 60 (45 / 100) lexicalRank + reciprocalRank 60 (55 / 100) vectorRank) /
    greatestScore 60 (45 / 100) (55 / 100) alone

/-- The score of two ranks. -/
def scoreOf (alone : Bool) (lexicalRank vectorRank : Option ℕ) : ℚ :=
  if greatestScore 60 (45 / 100 : ℚ) (55 / 100) alone ≠ 0 then min 1 (unclampedScore alone lexicalRank vectorRank)
  else 0

theorem greatestScore_weights_pos (alone : Bool) : 0 < greatestScore 60 (45 / 100 : ℚ) (55 / 100) alone :=
  greatestScore_pos (by norm_num) (by norm_num) alone

theorem unclampedScore_nonneg (alone : Bool) (lexicalRank vectorRank : Option ℕ) :
    0 ≤ unclampedScore alone lexicalRank vectorRank :=
  div_nonneg (add_nonneg (reciprocalRank_nonneg (by norm_num)) (reciprocalRank_nonneg (by norm_num)))
    (greatestScore_weights_pos alone).le

variable {lexical vector : List String}

theorem rankOf_mem_pos {keys : List String} {k : String} : ∀ r ∈ rankOf keys k, 1 ≤ r := fun _ h => rankOf_pos h

/-- The scores of two rankings need no clamp. -/
theorem unclampedScore_le_one (k : String) :
    unclampedScore vector.isEmpty (rankOf lexical k) (rankOf vector k) ≤ 1 := by
  rw [unclampedScore, div_le_one (greatestScore_weights_pos _)]
  refine add_reciprocalRank_le (by norm_num) (by norm_num) rankOf_mem_pos rankOf_mem_pos fun halone => ?_
  rw [List.isEmpty_iff.1 halone]
  rfl

theorem scoreOf_eq (k : String) : scoreOf vector.isEmpty (rankOf lexical k) (rankOf vector k) =
    unclampedScore vector.isEmpty (rankOf lexical k) (rankOf vector k) := by
  rw [scoreOf, if_pos (greatestScore_weights_pos _).ne', min_eq_right (unclampedScore_le_one k)]

/-- A chunk placed as high in both rankings. -/
theorem unclampedScore_mono {k k' : String} (hlexical : lexical.idxOf k ≤ lexical.idxOf k')
    (hvector : vector.idxOf k ≤ vector.idxOf k') :
    unclampedScore vector.isEmpty (rankOf lexical k') (rankOf vector k') ≤
      unclampedScore vector.isEmpty (rankOf lexical k) (rankOf vector k) := by
  refine div_le_div_of_nonneg_right (add_le_add ?_ ?_) (greatestScore_weights_pos _).le
  · exact reciprocalRank_mono (by norm_num) rankOf_mem_pos fun r' hr' => rankOf_of_idxOf_le hlexical hr'
  · exact reciprocalRank_mono (by norm_num) rankOf_mem_pos fun r' hr' => rankOf_of_idxOf_le hvector hr'

/-! ## Fused lists -/

/-- What is expected of a fused list of chunks and scores, from the two rankings. -/
structure WellFused (lexical vector : List String) (fused : List (String × ℚ)) : Prop where
  /-- every chunk of either list, and no other, occurs exactly once -/
  nodup : (fused.map Prod.fst).Nodup
  mem_iff : ∀ k, k ∈ fused.map Prod.fst ↔ k ∈ lexical ∨ k ∈ vector
  range : ∀ e ∈ fused, 0 ≤ e.2 ∧ e.2 ≤ 1
  falling : fused.Pairwise fun e e' => e'.2 ≤ e.2
  /-- a chunk that is in neither place below another one; an absent chunk is below all -/
  monotone : ∀ e ∈ fused, ∀ e' ∈ fused, lexical.idxOf e.1 ≤ lexical.idxOf e'.1 →
    vector.idxOf e.1 ≤ vector.idxOf e'.1 → e'.2 ≤ e.2
  unclamped : ∀ e ∈ fused, e.2 = unclampedScore vector.isEmpty (rankOf lexical e.1) (rankOf vector e.1)

/-- The keys that a fusion sorts by. -/
def fusedKeys (lexical vector : List String) (tier : String → ℕ) : List (ℚ × ℕ × String) :=
  sortedDown id <| (unionKeys lexical vector).map fun k =>
    (scoreOf vector.isEmpty (rankOf lexical k) (rankOf vector k), tier k, k)

theorem wellFused_fusedKeys (hlexical : lexical.Nodup) (hvector : vector.Nodup) (tier : String → ℕ) :
    WellFused lexical vector ((fusedKeys lexical vector tier).map fun key => (key.2.2, key.1)) := by
  have hperm : ((fusedKeys lexical vector tier).map fun key => key.2.2).Perm (unionKeys lexical vector) := by
    refine ((perm_sortedDown id _).map _).trans ?_
    rw [List.map_map]
    exact (List.map_id _).symm ▸ List.Perm.refl _
  have hscore : ∀ e ∈ (fusedKeys lexical vector tier).map (fun key => (key.2.2, key.1)),
      e.2 = unclampedScore vector.isEmpty (rankOf lexical e.1) (rankOf vector e.1) := by
    intro e he
    obtain ⟨key, hkey, rfl⟩ := List.mem_map.1 he
    obtain ⟨k, -, rfl⟩ := List.mem_map.1 ((perm_sortedDown id _).subset hkey)
    exact scoreOf_eq k
  have hfst : ((fusedKeys lexical vector tier).map fun key => (key.2.2, key.1)).map Prod.fst =
      (fusedKeys lexical vector tier).map fun key => key.2.2 := List.map_map
  constructor
  · rw [hfst]
    exact hperm.nodup_iff.2 (nodup_unionKeys hlexical hvector)
  · intro k
    rw [hfst, hperm.mem_iff, mem_unionKeys]
  · intro e he
    rw [hscore e he]
    exact ⟨unclampedScore_nonneg _ _ _, unclampedScore_le_one e.1⟩
  · rw [List.pairwise_map]
    refine (pairwise_sortedDown id _).imp fun {a b} h => ?_
    simp only [keyLe, id, decide_eq_true_eq] at h
    exact h.elim le_of_lt fun h => h.1.le
  · intro e he e' he' hlex hvec
    rw [hscore e he, hscore e' he']
    exact unclampedScore_mono hlex hvec
  · exact hscore

/-! ## `_fuse` -/

section
variable {lexical vector : List (KnowledgeChunk × ℚ)}

/-- The chunks of a ranking. -/
def chunkIds (ranking : List (KnowledgeChunk × ℚ)) : List String := ranking.map (·.1.chunkId)

def lexicalCandidate (e : KnowledgeChunk × ℚ) (i : ℕ) : Candidate ℚ :=
  { chunk := e.1, lexical := some e.2, lexicalRank := some (i + 1) }

def vectorCandidate (e : KnowledgeChunk × ℚ) (i : ℕ) (previous : Option (Candidate ℚ)) : Candidate ℚ where
  chunk := e.1
  lexical := previous.bind (·.lexical)
  vector := some e.2
  lexicalRank := previous.bind (·.lexicalRank)
  vectorRank := some (i + 1)

theorem candidates_eq (lexical vector : List (KnowledgeChunk × ℚ)) :
    candidates lexical vector = twoPass (·.1.chunkId) lexicalCandidate vectorCandidate lexical vector := rfl

/-- A candidate under its key has the ranks of the chunk in both lists, and the chunk of one of them. -/
theorem candidate_of_get? (hlexical : (chunkIds lexical).Nodup) (hvector : (chunkIds vector).Nodup) {k : String}
    {c : Candidate ℚ} (h : (candidates lexical vector).get? k = some c) :
    (c.lexicalRank = rankOf (chunkIds lexical) k ∧ c.vectorRank = rankOf (chunkIds vector) k) ∧
      ∃ e ∈ lexical ++ vector, e.1.chunkId = k ∧ e.1 = c.chunk := by
  rw [candidates_eq] at h
  exact ⟨ranks_twoPass _ hlexical hvector Candidate.lexicalRank Candidate.vectorRank (fun _ _ => ⟨rfl, rfl⟩)
      (fun _ _ _ => ⟨rfl, rfl⟩) h,
    origin_twoPass _ hlexical hvector Candidate.chunk (·.1) (fun _ _ => rfl) (fun _ _ _ => .inl rfl) h⟩

/-- The trust of a chunk among the candidates. -/
def candidateTrust (lexical vector : List (KnowledgeChunk × ℚ)) (k : String) : ℕ :=
  (((candidates lexical vector).get? k).map fun c => trustOrder c.chunk.trustTier).getD 0

theorem map_key_fuse (hlexical : (chunkIds lexical).Nodup) (hvector : (chunkIds vector).Nodup) :
    (fuse (exactRanking cos) lexical vector).map (fun e => (e.2, trustOrder e.1.chunk.trustTier, e.1.chunk.chunkId)) =
      fusedKeys (chunkIds lexical) (chunkIds vector) (candidateTrust lexical vector) := by
  have hempty : (chunkIds vector).isEmpty = vector.isEmpty := by cases vector <;> rfl
  unfold fuse
  rw [map_sortedDown, List.map_map, fusedKeys, candidates_eq]
  congr 1
  refine map_values_twoPass _ hlexical hvector _ _ fun k c hget => ?_
  rw [← candidates_eq] at hget
  obtain ⟨⟨hlexicalRank, hvectorRank⟩, e, -, hk, hchunk⟩ := candidate_of_get? hlexical hvector hget
  rw [← hlexicalRank, ← hvectorRank, hempty, candidateTrust, hget, ← hk, hchunk]
  rfl

end

/-! ## `_fuse_rows` -/

section
variable {lexicalRows vectorRows : List (RankingRow ℚ)}

/-- The chunks of a ranking. -/
def rowIds (rows : List (RankingRow ℚ)) : List String := rows.map (·.chunkId)

def lexicalRow (greatest : ℚ) (row : RankingRow ℚ) (i : ℕ) : RankedRow ℚ where
  row
  lexicalScore := some (min 1 (row.lexicalScore.getD 0 / max greatest (1 / (1_000_000_000 : ℕ))))
  lexicalRank := some (i + 1)

def vectorRow (row : RankingRow ℚ) (i : ℕ) (previous : Option (RankedRow ℚ)) : RankedRow ℚ where
  row := (previous.map (·.row)).getD row
  lexicalScore := previous.bind (·.lexicalScore)
  vectorScore := some (max 0 (min 1 (row.vectorScore.getD 0)))
  lexicalRank := previous.bind (·.lexicalRank)
  vectorRank := some (i + 1)

theorem rankedRows_eq (lexicalRows vectorRows : List (RankingRow ℚ)) : rankedRows lexicalRows vectorRows =
    twoPass (·.chunkId) (lexicalRow (maxLexical (lexicalRows.map fun row => row.lexicalScore.getD 0))) vectorRow
      lexicalRows vectorRows := rfl

theorem rankedRow_of_get? (hlexical : (rowIds lexicalRows).Nodup) (hvector : (rowIds vectorRows).Nodup) {k : String}
    {r : RankedRow ℚ} (h : (rankedRows lexicalRows vectorRows).get? k = some r) :
    (r.lexicalRank = rankOf (rowIds lexicalRows) k ∧ r.vectorRank = rankOf (rowIds vectorRows) k) ∧
      ∃ row ∈ lexicalRows ++ vectorRows, row.chunkId = k ∧ row = r.row := by
  rw [rankedRows_eq] at h
  refine ⟨ranks_twoPass _ hlexical hvector RankedRow.lexicalRank RankedRow.vectorRank (fun _ _ => ⟨rfl, rfl⟩)
      (fun _ _ _ => ⟨rfl, rfl⟩) h,
    origin_twoPass _ hlexical hvector RankedRow.row id (fun _ _ => rfl) (fun row i previous => ?_) h⟩
  cases previous with
  | none => exact .inl rfl
  | some r => exact .inr ⟨r, rfl, rfl⟩

/-- The trust of a chunk among the rows. -/
def rowTrust (lexicalRows vectorRows : List (RankingRow ℚ)) (k : String) : ℕ :=
  (((rankedRows lexicalRows vectorRows).get? k).map fun r => trustOrderOf r.row.trustTier).getD 0

theorem map_key_fuseRows (hlexical : (rowIds lexicalRows).Nodup) (hvector : (rowIds vectorRows).Nodup) :
    (fuseRows (exactRanking cos) lexicalRows vectorRows).map
        (fun e => (e.2, trustOrderOf e.1.row.trustTier, e.1.row.chunkId)) =
      fusedKeys (rowIds lexicalRows) (rowIds vectorRows) (rowTrust lexicalRows vectorRows) := by
  have hempty : (rowIds vectorRows).isEmpty = vectorRows.isEmpty := by cases vectorRows <;> rfl
  unfold fuseRows
  rw [map_sortedDown, List.map_map, fusedKeys, rankedRows_eq]
  congr 1
  refine map_values_twoPass _ hlexical hvector _ _ fun k r hget => ?_
  rw [← rankedRows_eq] at hget
  obtain ⟨⟨hlexicalRank, hvectorRank⟩, row, -, hk, hrow⟩ := rankedRow_of_get? hlexical hvector hget
  rw [← hlexicalRank, ← hvectorRank, hempty, rowTrust, hget, ← hk, hrow]
  rfl

end

/-! ## Both repositories -/

/-- The chunks and scores of a fused list. -/
def scores (fused : List (Candidate ℚ × ℚ)) : List (String × ℚ) := fused.map fun e => (e.1.chunk.chunkId, e.2)

def rowScores (fused : List (RankedRow ℚ × ℚ)) : List (String × ℚ) := fused.map fun e => (e.1.row.chunkId, e.2)

/-- A row of the chunk of a ranking. -/
def RowOf (e : KnowledgeChunk × ℚ) (row : RankingRow ℚ) : Prop :=
  row.chunkId = e.1.chunkId ∧ row.trustTier = e.1.trustTier.value

theorem trustOrderOf_value (tier : TrustTier) : trustOrderOf tier.value = trustOrder tier := by
  cases tier <;> decide

section
variable {lexical vector : List (KnowledgeChunk × ℚ)} {lexicalRows vectorRows : List (RankingRow ℚ)}

theorem rowIds_eq {ranking : List (KnowledgeChunk × ℚ)} {rows : List (RankingRow ℚ)}
    (h : List.Forall₂ RowOf ranking rows) :
    rowIds rows = chunkIds ranking := by
  induction h with
  | nil => rfl
  | cons hrow _ ih =>
    rw [rowIds, chunkIds, List.map_cons, List.map_cons, hrow.1]
    exact congrArg _ ih

theorem exists_rowOf {ranking : List (KnowledgeChunk × ℚ)} {rows : List (RankingRow ℚ)}
    (h : List.Forall₂ RowOf ranking rows) {row : RankingRow ℚ} (hrow : row ∈ rows) : ∃ e ∈ ranking, RowOf e row := by
  induction h with
  | nil => cases hrow
  | cons hhead _ ih =>
    rcases List.mem_cons.1 hrow with rfl | hrow
    · exact ⟨_, List.mem_cons_self, hhead⟩
    · obtain ⟨e, he, hof⟩ := ih hrow
      exact ⟨e, List.mem_cons_of_mem _ he, hof⟩

/-- Chunks with one id have one trust, in whichever list they are. -/
theorem trustTier_eq (hlexical : (chunkIds lexical).Nodup) (hvector : (chunkIds vector).Nodup)
    (hsame : ∀ e ∈ lexical, ∀ e' ∈ vector, e.1.chunkId = e'.1.chunkId → e.1.trustTier = e'.1.trustTier)
    {e e' : KnowledgeChunk × ℚ} (he : e ∈ lexical ++ vector) (he' : e' ∈ lexical ++ vector)
    (hid : e.1.chunkId = e'.1.chunkId) : e.1.trustTier = e'.1.trustTier := by
  rcases List.mem_append.1 he with he | he <;> rcases List.mem_append.1 he' with he' | he'
  · rw [List.inj_on_of_nodup_map hlexical he he' hid]
  · exact hsame e he e' he' hid
  · exact (hsame e' he' e he hid.symm).symm
  · rw [List.inj_on_of_nodup_map hvector he he' hid]

/-- Both repositories trust a chunk alike. -/
theorem rowTrust_eq (hlexical : (chunkIds lexical).Nodup) (hvector : (chunkIds vector).Nodup)
    (hlexicalRows : List.Forall₂ RowOf lexical lexicalRows) (hvectorRows : List.Forall₂ RowOf vector vectorRows)
    (hsame : ∀ e ∈ lexical, ∀ e' ∈ vector, e.1.chunkId = e'.1.chunkId → e.1.trustTier = e'.1.trustTier)
    {k : String} (hk : k ∈ unionKeys (chunkIds lexical) (chunkIds vector)) :
    rowTrust lexicalRows vectorRows k = candidateTrust lexical vector k := by
  have hlexicalIds := (rowIds_eq hlexicalRows).symm ▸ hlexical
  have hvectorIds := (rowIds_eq hvectorRows).symm ▸ hvector
  obtain ⟨c, hc⟩ : ∃ c, (candidates lexical vector).get? k = some c :=
    exists_get?_twoPass _ lexicalCandidate vectorCandidate hlexical hvector hk
  obtain ⟨r, hr⟩ : ∃ r, (rankedRows lexicalRows vectorRows).get? k = some r := by
    refine exists_get?_twoPass _ (lexicalRow _) vectorRow hlexicalIds hvectorIds ?_
    rw [← rowIds, ← rowIds, rowIds_eq hlexicalRows, rowIds_eq hvectorRows]
    exact hk
  obtain ⟨-, e, he, hek, hchunk⟩ := candidate_of_get? hlexical hvector hc
  obtain ⟨-, row, hrow, hrowk, hrowr⟩ := rankedRow_of_get? hlexicalIds hvectorIds hr
  obtain ⟨e', he', hof⟩ : ∃ e' ∈ lexical ++ vector, RowOf e' row := by
    rcases List.mem_append.1 hrow with hrow | hrow
    · obtain ⟨e', he', hof⟩ := exists_rowOf hlexicalRows hrow
      exact ⟨e', List.mem_append_left _ he', hof⟩
    · obtain ⟨e', he', hof⟩ := exists_rowOf hvectorRows hrow
      exact ⟨e', List.mem_append_right _ he', hof⟩
  have htier : e'.1.trustTier = e.1.trustTier :=
    trustTier_eq hlexical hvector hsame he' he (hof.1.symm.trans (hrowk.trans hek.symm))
  rw [rowTrust, candidateTrust, hr, hc]
  show trustOrderOf r.row.trustTier = trustOrder c.chunk.trustTier
  rw [← hrowr, hof.2, trustOrderOf_value, htier, hchunk]

/-- **Rank fusion keeps every chunk once, with falling scores from 0 to 1 that no clamp changes and that respect
    both rankings; and both repositories fuse the same rankings alike.** -/
theorem fusion_wellFused (hlexical : (chunkIds lexical).Nodup) (hvector : (chunkIds vector).Nodup)
    (hlexicalRows : (rowIds lexicalRows).Nodup) (hvectorRows : (rowIds vectorRows).Nodup) :
    WellFused (chunkIds lexical) (chunkIds vector) (scores (fuse (exactRanking cos) lexical vector)) ∧
    WellFused (rowIds lexicalRows) (rowIds vectorRows)
    (rowScores (fuseRows (exactRanking cos) lexicalRows vectorRows)) ∧
    (List.Forall₂ RowOf lexical lexicalRows → List.Forall₂ RowOf vector vectorRows →
      (∀ e ∈ lexical, ∀ e' ∈ vector, e.1.chunkId = e'.1.chunkId → e.1.trustTier = e'.1.trustTier) →
        rowScores (fuseRows (exactRanking cos) lexicalRows vectorRows) =
          scores (fuse (exactRanking cos) lexical vector)) := by
  have hscores : scores (fuse (exactRanking cos) lexical vector) =
      (fusedKeys (chunkIds lexical) (chunkIds vector) (candidateTrust lexical vector)).map
        fun key => (key.2.2, key.1) := by
    rw [← map_key_fuse cos hlexical hvector, List.map_map]
    rfl
  have hrowScores : rowScores (fuseRows (exactRanking cos) lexicalRows vectorRows) =
      (fusedKeys (rowIds lexicalRows) (rowIds vectorRows) (rowTrust lexicalRows vectorRows)).map
        fun key => (key.2.2, key.1) := by
    rw [← map_key_fuseRows cos hlexicalRows hvectorRows, List.map_map]
    rfl
  refine ⟨?_, ?_, fun hlex hvec hsame => ?_⟩
  · rw [hscores]
    exact wellFused_fusedKeys hlexical hvector _
  · rw [hrowScores]
    exact wellFused_fusedKeys hlexicalRows hvectorRows _
  · rw [hscores, hrowScores, rowIds_eq hlex, rowIds_eq hvec, fusedKeys, fusedKeys]
    congr 2
    refine List.map_congr_left fun k hk => ?_
    rw [rowTrust_eq hlexical hvector hlex hvec hsame hk]

end

/-- A chunk of an official source. -/
def officialChunk (chunkId : String) : KnowledgeChunk where
  chunkId
  documentId := "doc"
  sourceId := "src"
  tenantId := none
  visibilityScope := .public_
  ordinal := 0
  content := "西湖全天开放"
  contentHash := chunkId
  tokenCount := 6
  lexicalTerms := "西湖 开放"
  canonicalSourceUri := "https://example.com/lake"
  sourceVersion := "1"
  sourceType := "guide"
  sourceTitle := "West Lake"
  language := "zh-CN"
  geoEntities := []
  tags := []
  publishedAt := none
  observedAt := 0
  validFrom := none
  validUntil := none
  corpusRevision := "1"
  tokenizerVersion := "routepilot-cjk-bigram@1"
  trustTier := .official
  license := { licenseId := "cc-by", usagePolicy := "attribution" }
  injectionSuspected := false

/-- Two chunks, of which one is in both rankings. -/
theorem fusion_wellFused_two :
    rowScores (fuseRows (exactRanking fun _ _ => 0) [⟨"a", "official", some 3, none⟩, ⟨"b", "official", some 2, none⟩]
        [⟨"b", "official", none, some (1 / 2)⟩]) =
      scores (fuse (exactRanking fun _ _ => 0) [(officialChunk "a", 1), (officialChunk "b", 1 / 2)]
        [(officialChunk "b", 1 / 2)]) := by
  refine (@fusion_wellFused (fun _ _ => 0) [(officialChunk "a", 1), (officialChunk "b", 1 / 2)]
    [(officialChunk "b", 1 / 2)] [⟨"a", "official", some 3, none⟩, ⟨"b", "official", some 2, none⟩]
    [⟨"b", "official", none, some (1 / 2)⟩] (by decide) (by decide) (by decide) (by decide)).2.2
    (.cons ⟨rfl, rfl⟩ (.cons ⟨rfl, rfl⟩ .nil)) (.cons ⟨rfl, rfl⟩ .nil) fun e he e' he' _ => ?_
  simp only [List.mem_cons, List.not_mem_nil, or_false] at he he'
  rcases he with rfl | rfl <;> subst he' <;> rfl

end

end RoutePilot.Knowledge
