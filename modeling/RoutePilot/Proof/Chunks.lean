/-
  What the chunker accepts (`ParagraphWindowChunker.split` in `rag/text.py`).

  A unit is no longer than the target.  A chunk that repeats the end of the one before
  it is longer than the target by the overlap and a blank line at most.  Of what was
  merged before a unit only the ending counts, so that the bound is kept exactly if each
  unit has room behind it.  Two paragraphs of the target's length make the longest chunk:
  the bound is kept for every text, or the chunker raises on this one.
-/
import RoutePilot.Knowledge.Text

namespace RoutePilot.Knowledge

open Lib

/-! ## Paragraphs -/

theorem strip_ne_nil_iff {text : List Char} : strip text ≠ [] ↔ ∃ c ∈ text, isPySpace c = false := stripEnds_ne_nil_iff

theorem length_strip_le (text : List Char) : (strip text).length ≤ text.length := length_stripEnds_le text

/-- What separates paragraphs is white space. -/
theorem blankLine_space {text : List Char} {n : ℕ} (h : blankLine text = some n) :
    0 < n ∧ ∀ c ∈ text.take n, isPySpace c := by
  unfold blankLine at h
  split at h
  · rename_i text
    split at h
    · cases h
    · rename_i m hm
      cases h
      refine ⟨Nat.succ_pos _, fun c hc => ?_⟩
      rw [List.take_succ_cons, List.mem_cons] at hc
      rcases hc with rfl | hc
      · rfl
      · -- the match ends inside the white space that follows the first line break
        have hrun : m + 1 ≤ (text.takeWhile isPySpace).length := by
          rw [← Nat.succ_eq_add_one, ← hm]
          exact (List.rdropWhile_prefix _ _).length_le
        have htake : text.take (m + 1) = (text.takeWhile isPySpace).take (m + 1) := by
          obtain ⟨rest, hrest⟩ := List.takeWhile_prefix isPySpace (l := text)
          conv_lhs => rw [← hrest]
          rw [List.take_append_of_le_length hrun]
        rw [htake] at hc
        exact List.mem_takeWhile_imp (List.mem_of_mem_take hc)
  · cases h

theorem flatten_consHead {α : Type} (a : α) (pieces : List (List α)) :
    (Separator.consHead a pieces).flatten = a :: pieces.flatten := by cases pieces <;> rfl

theorem filter_splitAfter (k : ℕ) (text : List Char) :
    (splitAfter k text).flatten.filter (!isPySpace ·) = (text.drop k).filter (!isPySpace ·) := by
  induction k, text using splitAfter.induct with
  | case1 k => cases k <;> rfl
  | case2 k c text ih => exact ih
  | case3 c text n hn ih =>
    obtain ⟨hpos, hspace⟩ := blankLine_space hn
    obtain ⟨m, rfl⟩ := Nat.exists_eq_succ_of_ne_zero hpos.ne'
    have hnone : ((c :: text).take (m + 1)).filter (!isPySpace ·) = [] := by
      rw [List.filter_eq_nil_iff]
      intro d hd
      simp [hspace d hd]
    rw [splitAfter, hn, List.drop_zero, ← List.take_append_drop (m + 1) (c :: text), List.filter_append, hnone]
    exact ih
  | case4 c text hn ih =>
    rw [List.drop_zero] at ih ⊢
    rw [splitAfter, hn, flatten_consHead, List.filter_cons, List.filter_cons, ih]

/-- **A text is split at white space only.** -/
theorem filter_splitBlankLines (text : List Char) :
    (splitBlankLines text).flatten.filter (!isPySpace ·) = text.filter (!isPySpace ·) := filter_splitAfter 0 text

namespace ParagraphWindowChunker

/-- A text that is not blank has a paragraph. -/
theorem paragraphs_ne_nil {content : List Char} (h : strip content ≠ []) : paragraphs content ≠ [] := by
  obtain ⟨c, hc, hspace⟩ := strip_ne_nil_iff.1 h
  have hkept : c ∈ (splitBlankLines content).flatten := by
    have : c ∈ content.filter (!isPySpace ·) := List.mem_filter.2 ⟨hc, by simp [hspace]⟩
    rw [← filter_splitBlankLines] at this
    exact (List.mem_filter.1 this).1
  obtain ⟨piece, hpiece, hmem⟩ := List.mem_flatten.1 hkept
  refine List.ne_nil_of_mem (List.mem_filter.2 ⟨List.mem_map_of_mem hpiece, ?_⟩)
  simpa using strip_ne_nil_iff.2 ⟨c, hmem, hspace⟩

/-- A paragraph begins with a character that is not white space. -/
theorem head?_of_mem_paragraphs {content paragraph : List Char} (h : paragraph ∈ paragraphs content) :
    paragraph ≠ [] ∧ ∀ c ∈ paragraph.head?, isPySpace c = false := by
  obtain ⟨hmem, hne⟩ := List.mem_filter.1 h
  obtain ⟨piece, -, rfl⟩ := List.mem_map.1 hmem
  exact ⟨by simpa using hne, head?_stripEnds piece⟩

variable (chunker : ParagraphWindowChunker)

/-! ## Units -/

/-- A text that is not white space throughout, or is empty. -/
def Inked (text : List Char) : Prop := text ≠ [] → ∃ c ∈ text, isPySpace c = false

theorem inked_strip (text : List Char) : Inked (strip text) := by
  intro hne
  cases hs : strip text with
  | nil => exact absurd hs hne
  | cons c rest =>
    refine ⟨c, List.mem_cons_self, head?_stripEnds (p := isPySpace) text c ?_⟩
    rw [← strip, hs]
    rfl

theorem strip_strip (text : List Char) : strip (strip text) = strip text := stripEnds_stripEnds (fun _ => id) text

theorem inked_of_stripped {text : List Char} (h : strip text = text) : Inked text := h ▸ inked_strip text

/-- What the merging of units relies on. -/
structure IsUnit (unit : List Char) : Prop where
  length_le : unit.length ≤ chunker.targetChars
  stripped : strip unit = unit

theorem isUnit_strip {text : List Char} (h : text.length ≤ chunker.targetChars) : chunker.IsUnit (strip text) :=
  ⟨(length_strip_le _).trans h, strip_strip _⟩

theorem isUnit_windows (paragraph : List Char) (start : ℕ) :
    ∀ unit ∈ chunker.windows paragraph start, chunker.IsUnit unit := by
  have hwindow : ∀ start, ((paragraph.take (min paragraph.length (start + chunker.targetChars))).drop start).length ≤
      chunker.targetChars := fun start => by
    rw [List.length_drop, List.length_take]
    omega
  induction start using windows.induct chunker paragraph with
  | case1 start hlt stop hstop =>
    intro unit hunit
    rw [windows, if_pos hlt, if_pos hstop, List.mem_singleton] at hunit
    subst hunit
    exact chunker.isUnit_strip (hwindow start)
  | case2 start hlt stop hstop ih =>
    intro unit hunit
    rw [windows, if_pos hlt, if_neg hstop, List.mem_cons] at hunit
    rcases hunit with rfl | hunit
    · exact chunker.isUnit_strip (hwindow start)
    · exact ih unit hunit
  | case3 start hlt =>
    intro unit hunit
    rw [windows, if_neg hlt] at hunit
    cases hunit

theorem isUnit_unitsOf {content paragraph : List Char} (hparagraph : paragraph ∈ paragraphs content) :
    ∀ unit ∈ chunker.unitsOf paragraph, chunker.IsUnit unit := by
  intro unit hunit
  unfold unitsOf at hunit
  split at hunit
  · rename_i hle
    rw [List.mem_singleton] at hunit
    subst hunit
    obtain ⟨piece, -, rfl⟩ := List.mem_map.1 (List.mem_filter.1 hparagraph).1
    exact ⟨hle, strip_strip _⟩
  · exact chunker.isUnit_windows paragraph 0 unit hunit

/-- The first unit of a paragraph is not empty. -/
theorem exists_mem_unitsOf {paragraph : List Char} (hne : paragraph ≠ []) (hhead : ∀ c ∈ paragraph.head?,
    isPySpace c = false) :
    ∃ unit ∈ chunker.unitsOf paragraph, unit ≠ [] := by
  unfold unitsOf
  split
  · exact ⟨paragraph, List.mem_singleton_self _, hne⟩
  · cases paragraph with
    | nil => exact absurd rfl hne
    | cons c paragraph =>
      have hc : isPySpace c = false := hhead c rfl
      have htarget := chunker.target_ge
      refine ⟨strip (((c :: paragraph).take (min (c :: paragraph).length (0 + chunker.targetChars))).drop 0), ?_, ?_⟩
      · rw [windows, if_pos (by simp)]
        dsimp only
        split
        · exact List.mem_singleton_self _
        · exact List.mem_cons_self
      · refine strip_ne_nil_iff.2 ⟨c, ?_, hc⟩
        rw [List.drop_zero, List.mem_take_iff_getElem]
        exact ⟨0, by simp; omega, rfl⟩

/-! ## Chunks -/

/-- The length of a chunk that repeats the end of the one before it. -/
def longest : ℕ :=
  if chunker.overlapChars = 0 then chunker.targetChars else chunker.targetChars + chunker.overlapChars + 2

theorem targetChars_le_longest : chunker.targetChars ≤ chunker.longest := by
  unfold longest
  split <;> omega

/-- What holds while units are merged. -/
structure Bounded (m : Merged) : Prop where
  chunks : ∀ chunk ∈ m.chunks, chunk ≠ [] ∧ chunk.length ≤ chunker.longest
  current : m.current.length ≤ chunker.longest
  stripped : strip m.current = m.current

theorem joined_ne_nil {left right : List Char} (hleft : Inked left) (hne : left ≠ []) : joined left right ≠ [] := by
  obtain ⟨c, hc, hspace⟩ := hleft hne
  exact strip_ne_nil_iff.2 ⟨c, List.mem_append_left _ (List.mem_append_left _ hc), hspace⟩

theorem length_joined_le (left right : List Char) : (joined left right).length ≤ left.length + 2 + right.length := by
  refine (length_strip_le _).trans ?_
  rw [List.length_append, List.length_append]
  rfl

theorem length_begun_le {current unit : List Char} (hunit : unit.length ≤ chunker.targetChars) :
    (chunker.begun current unit).length ≤ chunker.longest := by
  have hle := chunker.targetChars_le_longest
  unfold begun
  dsimp only
  by_cases hoverlap : chunker.overlapChars ≠ 0
  · rw [if_pos hoverlap]
    split
    · refine (length_joined_le _ _).trans ?_
      have hlast : (strip (lastChars chunker.overlapChars current)).length ≤ chunker.overlapChars := by
        refine (length_strip_le _).trans ?_
        rw [lastChars, List.length_drop]
        omega
      rw [longest, if_neg hoverlap]
      omega
    · exact hunit.trans hle
  · rw [if_neg hoverlap, if_neg (not_not.2 rfl)]
    exact hunit.trans hle

theorem strip_begun {current unit : List Char} (hunit : strip unit = unit) :
    strip (chunker.begun current unit) = chunker.begun current unit := by
  unfold begun
  dsimp only
  generalize (if chunker.overlapChars ≠ 0 then strip (lastChars chunker.overlapChars current) else []) = tail
  split
  · exact strip_strip _
  · exact hunit

/-- What one unit does: it is the first of a chunk, has room in it, or begins another. -/
theorem merge_cases (m : Merged) (unit : List Char) :
    (m.current = [] ∧ chunker.merge m unit = ⟨m.chunks, unit⟩) ∨
    (m.current ≠ [] ∧ (joined m.current unit).length ≤ chunker.targetChars ∧
      chunker.merge m unit = ⟨m.chunks, joined m.current unit⟩) ∨
    (m.current ≠ [] ∧ chunker.targetChars < (joined m.current unit).length ∧
      chunker.merge m unit = ⟨m.chunks ++ [m.current], chunker.begun m.current unit⟩) := by
  unfold merge
  dsimp only
  by_cases hne : m.current ≠ []
  · rw [if_pos hne, if_pos hne]
    by_cases hroom : (joined m.current unit).length ≤ chunker.targetChars
    · exact .inr (.inl ⟨hne, hroom, if_pos hroom⟩)
    · exact .inr (.inr ⟨hne, Nat.lt_of_not_le hroom, if_neg hroom⟩)
  · rw [if_neg hne, if_neg hne, ite_self]
    exact .inl ⟨not_not.1 hne, rfl⟩

theorem bounded_merge {m : Merged} (hm : chunker.Bounded m) {unit : List Char} (hunit : chunker.IsUnit unit) :
    chunker.Bounded (chunker.merge m unit) := by
  have hle := chunker.targetChars_le_longest
  obtain ⟨-, heq⟩ | ⟨-, hroom, heq⟩ | ⟨hne, -, heq⟩ := chunker.merge_cases m unit
  · rw [heq]
    exact ⟨hm.chunks, hunit.length_le.trans hle, hunit.stripped⟩
  · rw [heq]
    exact ⟨hm.chunks, hroom.trans hle, strip_strip _⟩
  · rw [heq]
    refine ⟨fun chunk hchunk => ?_, chunker.length_begun_le hunit.length_le, chunker.strip_begun hunit.stripped⟩
    rw [List.mem_append, List.mem_singleton] at hchunk
    rcases hchunk with hchunk | rfl
    · exact hm.chunks chunk hchunk
    · exact ⟨hne, hm.current⟩

theorem bounded_foldl (units : List (List Char)) (hunits : ∀ unit ∈ units, chunker.IsUnit unit) {m : Merged}
    (hm : chunker.Bounded m) : chunker.Bounded (units.foldl chunker.merge m) := by
  induction units generalizing m with
  | nil => exact hm
  | cons unit units ih =>
    exact ih (fun u hu => hunits u (List.mem_cons_of_mem _ hu))
      (chunker.bounded_merge hm (hunits unit List.mem_cons_self))

/-- Something has been kept. -/
def Merged.Started (m : Merged) : Prop := m.chunks ≠ [] ∨ m.current ≠ []

theorem started_merge {m : Merged} (hm : chunker.Bounded m) {unit : List Char} (h : m.Started ∨ unit ≠ []) :
    (chunker.merge m unit).Started := by
  obtain ⟨hnil, heq⟩ | ⟨hne, -, heq⟩ | ⟨-, -, heq⟩ := chunker.merge_cases m unit
  · rw [heq]
    exact h.imp_left fun hs => hs.resolve_right fun hne => hne hnil
  · rw [heq]
    exact .inr (joined_ne_nil (inked_of_stripped hm.stripped) hne)
  · rw [heq]
    exact .inl (List.append_ne_nil_of_right_ne_nil _ (List.cons_ne_nil _ _))

theorem started_foldl (units : List (List Char)) (hunits : ∀ unit ∈ units, chunker.IsUnit unit) {m : Merged}
    (hm : chunker.Bounded m) (h : m.Started ∨ ∃ unit ∈ units, unit ≠ []) : (units.foldl chunker.merge m).Started := by
  induction units generalizing m with
  | nil =>
    rcases h with h | ⟨unit, hunit, -⟩
    · exact h
    · cases hunit
  | cons unit units ih =>
    refine ih (fun u hu => hunits u (List.mem_cons_of_mem _ hu))
      (chunker.bounded_merge hm (hunits unit List.mem_cons_self)) ?_
    rcases h with h | ⟨u, hu, hne⟩
    · exact .inl (chunker.started_merge hm (.inl h))
    · rw [List.mem_cons] at hu
      rcases hu with rfl | hu
      · exact .inl (chunker.started_merge hm (.inr hne))
      · exact .inr ⟨u, hu, hne⟩

theorem isUnit_of_mem (content : List Char) :
    ∀ unit ∈ (paragraphs content).flatMap chunker.unitsOf, chunker.IsUnit unit := by
  intro unit hunit
  obtain ⟨paragraph, hparagraph, hmem⟩ := List.mem_flatMap.1 hunit
  exact chunker.isUnit_unitsOf hparagraph unit hmem

theorem bounded_nil : chunker.Bounded ⟨[], []⟩ :=
  ⟨fun _ h => absurd h List.not_mem_nil, Nat.zero_le _, rfl⟩

/-- The units of a text. -/
def units (content : List Char) : List (List Char) := (paragraphs content).flatMap chunker.unitsOf

/-- The chunks are those that have been filled, and the one that was being filled. -/
theorem mem_chunksOf {content chunk : List Char} : chunk ∈ chunker.chunksOf content ↔
    chunk ∈ ((chunker.units content).foldl chunker.merge ⟨[], []⟩).chunks ∨
      chunk ≠ [] ∧ chunk = ((chunker.units content).foldl chunker.merge ⟨[], []⟩).current := by
  have hstarted := chunker.started_foldl _ (chunker.isUnit_of_mem content) chunker.bounded_nil
  unfold chunksOf units
  generalize ((paragraphs content).flatMap chunker.unitsOf).foldl chunker.merge ⟨[], []⟩ = m at hstarted
  dsimp only
  rw [if_neg]
  · by_cases hne : m.current ≠ []
    · rw [if_pos hne, List.mem_append, List.mem_singleton]
      exact or_congr_right ⟨fun h => ⟨h ▸ hne, h⟩, And.right⟩
    · rw [if_neg hne]
      refine (or_iff_left ?_).symm
      rintro ⟨hchunk, rfl⟩
      exact hne hchunk
  · -- a text that is not blank has been kept in part
    rintro ⟨hnone, hcontent⟩
    obtain ⟨paragraph, hparagraph⟩ := List.exists_mem_of_ne_nil _ (paragraphs_ne_nil hcontent)
    obtain ⟨hne, hhead⟩ := head?_of_mem_paragraphs hparagraph
    obtain ⟨unit, hunit, hunitne⟩ := chunker.exists_mem_unitsOf hne hhead
    have hkept := hstarted (.inr ⟨unit, List.mem_flatMap.2 ⟨paragraph, hparagraph, hunit⟩, hunitne⟩)
    by_cases hcurrent : m.current ≠ []
    · rw [if_pos hcurrent] at hnone
      exact List.append_ne_nil_of_right_ne_nil _ (List.cons_ne_nil _ _) hnone
    · rw [if_neg hcurrent] at hnone
      exact hkept.elim (fun hs => hs hnone) hcurrent

/-- **Chunks are not empty, and no longer than the target, the overlap and a blank line.** -/
theorem chunksOf_bounded (content : List Char) :
    ∀ chunk ∈ chunker.chunksOf content, chunk ≠ [] ∧ chunk.length ≤ chunker.longest := by
  have hm := chunker.bounded_foldl _ (chunker.isUnit_of_mem content) chunker.bounded_nil
  intro chunk hchunk
  rcases chunker.mem_chunksOf.1 hchunk with hchunk | ⟨hne, rfl⟩
  · exact hm.chunks chunk hchunk
  · exact ⟨hne, hm.current⟩

/-! ## What a chunk repeats -/

/-- What is left of the last characters of a text. -/
def ending (text : List Char) : List Char := strip (lastChars chunker.overlapChars text)

/-- What a chunk that begins after these units repeats of them. -/
def repeated (units : List (List Char)) : List Char := chunker.ending (units.foldl joined [])

/-- No unit is too long to stand behind what a chunk repeats of the units before it. -/
def RepeatsFit (content : List Char) : Prop :=
  ∀ i (h : i < (chunker.units content).length),
    (joined (chunker.repeated ((chunker.units content).take i)) (chunker.units content)[i]).length ≤ maxChunkChars

instance (content : List Char) : Decidable (chunker.RepeatsFit content) := Nat.decidableBallLT _ _

theorem lastChars_append (n : ℕ) (left right : List Char) :
    lastChars n (left ++ right) = left.drop (left.length + right.length - n) ++ lastChars n right := by
  rw [lastChars, lastChars, List.drop_append, List.length_append]
  congr 2
  omega

/-- White space before the last characters is stripped, and what stands before them is left out. -/
theorem strip_lastChars_append {n : ℕ} {before spaces text : List Char} (hspaces : ∀ c ∈ spaces, isPySpace c)
    (h : before = [] ∨ n ≤ (spaces ++ text).length) :
    strip (lastChars n (before ++ (spaces ++ text))) = strip (lastChars n text) := by
  have hbefore : lastChars n (before ++ (spaces ++ text)) = lastChars n (spaces ++ text) := by
    rcases h with rfl | hle
    · rfl
    · rw [lastChars_append, List.drop_eq_nil_of_le (by omega), List.nil_append]
  rw [hbefore, lastChars_append]
  exact stripEnds_append_left fun c hc => hspaces c (List.mem_of_mem_drop hc)

section
variable {chunker} {text unit : List Char}

theorem bare_of_stripped (hne : text ≠ []) (h : strip text = text) : Bare isPySpace text := by
  have hbare := bare_stripEnds (p := isPySpace) (l := text) (by rwa [← strip, h])
  rwa [← strip, h] at hbare

theorem isPySpace_blank : ∀ c ∈ ['\n', '\n'], isPySpace c = true := by
  intro c hc
  rw [List.eq_of_mem_replicate (show c ∈ List.replicate 2 '\n' from hc)]
  rfl

theorem joined_nil_right (h : strip text = text) : joined text [] = text := by
  rw [joined, List.append_nil, strip, stripEnds_append_right isPySpace_blank]
  exact h

theorem joined_nil_left (h : strip unit = unit) : joined [] unit = unit := by
  rw [joined, List.nil_append, strip, stripEnds_append_left isPySpace_blank]
  exact h

theorem joined_of_bare (htext : Bare isPySpace text) (hunit : Bare isPySpace unit) :
    joined text unit = text ++ ['\n', '\n'] ++ unit := (htext.append _ hunit).stripEnds_eq

theorem strip_ending (text : List Char) : strip (chunker.ending text) = chunker.ending text := strip_strip _

theorem ending_nil : chunker.ending [] = [] := by
  rw [ending, lastChars, List.drop_nil]
  rfl

theorem ending_of_zero (h : chunker.overlapChars = 0) (text : List Char) : chunker.ending text = [] := by
  rw [ending, h, lastChars, Nat.sub_zero, List.drop_length]
  rfl

/-- The ending of a text, what stands before it, and the white space between them. -/
theorem exists_ending (hne : text ≠ []) (h : strip text = text) (hoverlap : chunker.overlapChars ≠ 0) :
    ∃ before spaces, text = before ++ (spaces ++ chunker.ending text) ∧ (∀ c ∈ spaces, isPySpace c) ∧
      (before = [] ∨ chunker.overlapChars ≤ (spaces ++ chunker.ending text).length) ∧ chunker.ending text ≠ [] := by
  have hbare := bare_of_stripped hne h
  obtain ⟨before, hbefore⟩ : ∃ before, before ++ lastChars chunker.overlapChars text = text :=
    ⟨text.take (text.length - chunker.overlapChars), List.take_append_drop _ _⟩
  have hpos : 0 < text.length := List.length_pos_of_ne_nil hne
  have hlastne : lastChars chunker.overlapChars text ≠ [] := by
    rw [Ne, lastChars, List.drop_eq_nil_iff]
    omega
  -- the text does not end in white space, and neither do its last characters
  have hright : ∀ c ∈ (lastChars chunker.overlapChars text).getLast?, isPySpace c = false := by
    intro c hc
    refine hbare.last c ?_
    rwa [← hbefore, List.getLast?_append_of_ne_nil _ hlastne]
  have hsplit : (lastChars chunker.overlapChars text).takeWhile isPySpace ++ chunker.ending text =
      lastChars chunker.overlapChars text := by
    have hdrop : chunker.ending text = (lastChars chunker.overlapChars text).dropWhile isPySpace := by
      rw [ending, strip, stripEnds, List.rdropWhile_eq_self_iff]
      intro hdropne hspace
      have hlast := hright _ (by
        rw [← List.takeWhile_append_dropWhile (p := isPySpace) (l := lastChars chunker.overlapChars text),
          List.getLast?_append_of_ne_nil _ hdropne]
        exact List.getLast?_eq_getLast_of_ne_nil hdropne)
      rw [hlast] at hspace
      cases hspace
    rw [hdrop, List.takeWhile_append_dropWhile]
  refine ⟨before, _, by rw [hsplit, hbefore], fun c hc => List.mem_takeWhile_imp hc, ?_, ?_⟩
  · rw [hsplit, lastChars, List.length_drop]
    rcases Nat.lt_or_ge text.length chunker.overlapChars with hlt | hge
    · refine .inl (List.length_eq_zero_iff.1 ?_)
      have hlen := congrArg List.length hbefore
      rw [List.length_append, lastChars, List.length_drop] at hlen
      omega
    · exact .inr (by omega)
  · refine strip_ne_nil_iff.2 ?_
    cases hlast : (lastChars chunker.overlapChars text).getLast? with
    | none => exact absurd (List.getLast?_eq_none_iff.1 hlast) hlastne
    | some c => exact ⟨c, List.mem_of_getLast? hlast, hright c hlast⟩

/-- Of a text that a unit is put behind, only its ending counts. -/
theorem ending_joined (htext : strip text = text) (hunit : strip unit = unit) :
    chunker.ending (joined text unit) = chunker.ending (joined (chunker.ending text) unit) := by
  by_cases hoverlap : chunker.overlapChars = 0
  · rw [ending_of_zero hoverlap, ending_of_zero hoverlap]
  by_cases hne : text = []
  · rw [hne, ending_nil]
  obtain ⟨before, spaces, heq, hspaces, hlong, hend⟩ := exists_ending hne htext hoverlap
  by_cases hunitne : unit = []
  · rw [hunitne, joined_nil_right htext, joined_nil_right (strip_ending text)]
    conv_lhs => rw [heq]
    exact strip_lastChars_append hspaces hlong
  · have hbare := bare_of_stripped hunitne hunit
    rw [joined_of_bare (bare_of_stripped hne htext) hbare,
      joined_of_bare (bare_of_stripped hend (strip_ending text)) hbare]
    have hsplit : text ++ ['\n', '\n'] ++ unit =
        before ++ (spaces ++ (chunker.ending text ++ ['\n', '\n'] ++ unit)) := by
      conv_lhs => rw [heq]
      simp only [List.append_assoc]
    rw [hsplit]
    refine strip_lastChars_append hspaces (hlong.imp_right fun hle => hle.trans ?_)
    simp only [List.length_append]
    omega

theorem length_joined (htext : strip text = text) (hunit : strip unit = unit) : (joined text unit).length =
    if text = [] then unit.length else if unit = [] then text.length else text.length + 2 + unit.length := by
  split
  · next hnil => rw [hnil, joined_nil_left hunit]
  · next hne =>
    split
    · next hnil => rw [hnil, joined_nil_right htext]
    · next hunitne =>
      rw [joined_of_bare (bare_of_stripped hne htext) (bare_of_stripped hunitne hunit)]
      simp only [List.length_append, List.length_cons, List.length_nil]

theorem length_ending_le (text : List Char) : (chunker.ending text).length ≤ text.length :=
  (length_strip_le _).trans (List.drop_suffix _ _).length_le

/-- What a chunk repeats is no longer than the chunk that it repeats it of. -/
theorem length_joined_ending_le (htext : strip text = text) (hunit : strip unit = unit) :
    (joined (chunker.ending text) unit).length ≤ (joined text unit).length ∧
      text.length ≤ (joined text unit).length := by
  rw [length_joined htext hunit, length_joined (strip_ending text) hunit]
  have hle := chunker.length_ending_le text
  by_cases hne : text = []
  · rw [hne, ending_nil]
    simp
  · rw [if_neg hne]
    by_cases hunitne : unit = []
    · rw [if_pos hunitne, if_pos hunitne, hunitne, List.length_nil]
      refine ⟨?_, le_rfl⟩
      split <;> omega
    · rw [if_neg hunitne, if_neg hunitne]
      refine ⟨?_, by omega⟩
      split <;> omega

/-- The chunk after another one begins with the ending of it. -/
theorem begun_eq (hunit : strip unit = unit) (text : List Char) :
    chunker.begun text unit = joined (chunker.ending text) unit := by
  unfold begun
  dsimp only
  by_cases hoverlap : chunker.overlapChars = 0
  · rw [if_neg (not_not.2 hoverlap), if_neg (not_not.2 rfl), ending_of_zero hoverlap, joined_nil_left hunit]
  · rw [if_pos hoverlap]
    split
    · rfl
    · next hnil => rw [ending, not_not.1 hnil, joined_nil_left hunit]

end

/-- No chunk is too long so far. -/
def Merged.Fits (m : Merged) : Prop :=
  (∀ chunk ∈ m.chunks, chunk.length ≤ maxChunkChars) ∧ m.current.length ≤ maxChunkChars

/-- A unit leaves the ending of all that has been merged. -/
theorem ending_merge {m : Merged} {unit : List Char} (hm : strip m.current = m.current) (hunit : strip unit = unit) :
    chunker.ending (chunker.merge m unit).current = chunker.ending (joined m.current unit) := by
  obtain ⟨hnil, heq⟩ | ⟨-, -, heq⟩ | ⟨-, -, heq⟩ := chunker.merge_cases m unit
  · rw [heq, hnil, joined_nil_left hunit]
  · rw [heq]
  · rw [heq, begun_eq hunit, ← ending_joined hm hunit]

/-- **One unit.**  The chunks stay short enough if the unit has room behind the ending of what was merged. -/
theorem fits_merge_iff {m : Merged} {unit : List Char} (hm : strip m.current = m.current)
    (hunit : chunker.IsUnit unit) :
    (chunker.merge m unit).Fits ↔ m.Fits ∧ (joined (chunker.ending m.current) unit).length ≤ maxChunkChars := by
  have htarget := chunker.target_le
  obtain ⟨hending, hcurrent⟩ := chunker.length_joined_ending_le hm hunit.stripped
  obtain ⟨hnil, heq⟩ | ⟨-, hroom, heq⟩ | ⟨-, -, heq⟩ := chunker.merge_cases m unit
  · rw [heq, Merged.Fits, Merged.Fits, hnil, ending_nil, joined_nil_left hunit.stripped]
    exact and_congr_left fun _ => (and_iff_left (Nat.zero_le _)).symm
  · rw [heq, Merged.Fits, Merged.Fits]
    exact ⟨fun h => ⟨⟨h.1, by omega⟩, by omega⟩, fun h => ⟨h.1.1, hroom.trans htarget⟩⟩
  · rw [heq, Merged.Fits, Merged.Fits, begun_eq hunit.stripped, List.forall_mem_append, List.forall_mem_singleton]

/-- **All units.**  Of what was merged before, only its ending counts. -/
theorem fits_foldl_iff {units : List (List Char)} (hunits : ∀ unit ∈ units, chunker.IsUnit unit) {m : Merged}
    (hm : chunker.Bounded m) {text : List Char} (htext : strip text = text)
    (hending : chunker.ending m.current = chunker.ending text) :
    (units.foldl chunker.merge m).Fits ↔ m.Fits ∧ ∀ i (h : i < units.length),
      (joined (chunker.ending ((units.take i).foldl joined text)) units[i]).length ≤ maxChunkChars := by
  induction units generalizing m text with
  | nil => exact (and_iff_left fun i h => absurd h (Nat.not_lt_zero i)).symm
  | cons unit units ih =>
    have hunit := hunits unit List.mem_cons_self
    have hstep : chunker.ending (chunker.merge m unit).current = chunker.ending (joined text unit) := by
      rw [chunker.ending_merge hm.stripped hunit.stripped, ending_joined hm.stripped hunit.stripped, hending,
        ← ending_joined htext hunit.stripped]
    rw [List.foldl_cons, ih (fun u hu => hunits u (List.mem_cons_of_mem _ hu)) (chunker.bounded_merge hm hunit)
      (strip_strip _) hstep, chunker.fits_merge_iff hm.stripped hunit, hending, and_assoc]
    refine and_congr_right fun _ => Iff.symm ?_
    exact Nat.forall_lt_succ_left' (p := fun i h =>
      (joined (chunker.ending (((unit :: units).take i).foldl joined text)) (unit :: units)[i]).length ≤ maxChunkChars)

/-- The chunks are short enough exactly if every unit has room behind what is repeated. -/
theorem chunksOf_fits_iff (content : List Char) :
    (∀ chunk ∈ chunker.chunksOf content, chunk.length ≤ maxChunkChars) ↔ chunker.RepeatsFit content := by
  have hfits := chunker.fits_foldl_iff (chunker.isUnit_of_mem content) chunker.bounded_nil
    (show strip [] = [] from rfl) rfl
  have hnil : (⟨[], []⟩ : Merged).Fits := ⟨fun _ h => absurd h List.not_mem_nil, Nat.zero_le _⟩
  rw [and_iff_right hnil] at hfits
  refine Iff.trans ?_ hfits
  constructor
  · intro h
    refine ⟨fun chunk hchunk => h chunk (chunker.mem_chunksOf.2 (.inl hchunk)), ?_⟩
    by_cases hcurrent : ((chunker.units content).foldl chunker.merge ⟨[], []⟩).current = []
    · rw [units] at hcurrent
      rw [hcurrent]
      exact Nat.zero_le _
    · exact h _ (chunker.mem_chunksOf.2 (.inr ⟨hcurrent, rfl⟩))
  · intro h chunk hchunk
    rcases chunker.mem_chunksOf.1 hchunk with hchunk | ⟨-, rfl⟩
    · exact h.1 chunk hchunk
    · exact h.2

theorem split_eq_ok {chunker : ParagraphWindowChunker} {content : String} {chunks : List String}
    (h : chunker.split content = .ok chunks) : chunks = (chunker.chunksOf content.toList).map String.ofList := by
  unfold split at h
  dsimp only at h
  split at h
  · cases h
  · exact (Except.ok.inj h).symm

/-- The chunkers are what the constructor accepts. -/
theorem init_eq_ok_iff {targetChars overlapChars : ℤ} : init targetChars overlapChars = .ok chunker ↔
    (chunker.targetChars : ℤ) = targetChars ∧ (chunker.overlapChars : ℤ) = overlapChars := by
  have hge := chunker.target_ge
  have hle := chunker.target_le
  have hlt := chunker.overlap_lt
  unfold init
  constructor
  · intro h
    split at h
    · cases h
    · split at h
      · cases h
      · cases h
        constructor <;> dsimp only <;> omega
  · rintro ⟨rfl, rfl⟩
    rw [dif_neg (by omega), dif_neg (by omega)]
    rfl

theorem split_ok_iff (content : String) :
    (∃ chunks, chunker.split content = .ok chunks) ↔
      ∀ chunk ∈ chunker.chunksOf content.toList, chunk.length ≤ maxChunkChars := by
  unfold split
  dsimp only
  split
  · rename_i hany
    obtain ⟨chunk, hmem, hbad⟩ := List.any_eq_true.1 hany
    have hlong : chunk.length > maxChunkChars := by
      simpa [(chunker.chunksOf_bounded content.toList chunk hmem).1] using hbad
    exact ⟨fun ⟨_, h⟩ => (nomatch h), fun h => absurd (h chunk hmem) (by omega)⟩
  · rename_i hany
    refine ⟨fun _ chunk hmem => ?_, fun _ => ⟨_, rfl⟩⟩
    by_contra hlong
    exact hany (List.any_eq_true.2 ⟨chunk, hmem, by simp; omega⟩)

/-! ## Two paragraphs -/

theorem splitAfter_letters (n : ℕ) (text : List Char) (piece : List Char) (pieces : List (List Char))
    (h : splitAfter 0 text = piece :: pieces) :
    splitAfter 0 (List.replicate n 'a' ++ text) = (List.replicate n 'a' ++ piece) :: pieces := by
  induction n with
  | zero => exact h
  | succ n ih =>
    rw [List.replicate_succ, List.cons_append, splitAfter, show blankLine ('a' :: _) = none from rfl, ih]
    rfl

/-- Two paragraphs of the letter `a`. -/
def twoParagraphs (n : ℕ) : List Char := List.replicate n 'a' ++ ('\n' :: '\n' :: List.replicate n 'a')

theorem strip_letters (n : ℕ) : strip (List.replicate n 'a') = List.replicate n 'a' := by
  refine stripEnds_eq_self (fun c hc => ?_) (fun c hc => ?_)
  · rw [List.eq_of_mem_replicate (List.mem_of_mem_head? hc)]
    rfl
  · rw [List.eq_of_mem_replicate (List.mem_of_mem_getLast? hc)]
    rfl

theorem splitBlankLines_twoParagraphs {n : ℕ} (hn : 0 < n) :
    splitBlankLines (twoParagraphs n) = [List.replicate n 'a', List.replicate n 'a'] := by
  obtain ⟨m, rfl⟩ := Nat.exists_eq_succ_of_ne_zero hn.ne'
  have hlast := splitAfter_letters (m + 1) [] [] [] rfl
  rw [List.append_nil] at hlast
  have hblank : blankLine ('\n' :: '\n' :: List.replicate (m + 1) 'a') = some 2 := by
    rw [List.replicate_succ]
    rfl
  have hrest : splitAfter 0 ('\n' :: '\n' :: List.replicate (m + 1) 'a') = [[], List.replicate (m + 1) 'a'] := by
    rw [splitAfter, hblank]
    exact congrArg ([] :: ·) hlast
  rw [splitBlankLines, twoParagraphs, splitAfter_letters _ _ _ _ hrest, List.append_nil]

theorem letters_ne_nil {n : ℕ} (hn : 0 < n) : List.replicate n 'a' ≠ [] := by
  intro hnil
  rw [List.replicate_eq_nil_iff] at hnil
  omega

theorem paragraphs_twoParagraphs {n : ℕ} (hn : 0 < n) :
    paragraphs (twoParagraphs n) = [List.replicate n 'a', List.replicate n 'a'] := by
  rw [paragraphs, splitBlankLines_twoParagraphs hn]
  simp only [List.map_cons, List.map_nil, strip_letters]
  rw [List.filter_eq_self]
  intro paragraph hparagraph
  simp only [List.mem_cons, List.not_mem_nil, or_false, or_self] at hparagraph
  subst hparagraph
  simpa using hn.ne'

theorem joined_letters {m n : ℕ} (hm : 0 < m) (hn : 0 < n) :
    joined (List.replicate m 'a') (List.replicate n 'a') =
      List.replicate m 'a' ++ ['\n', '\n'] ++ List.replicate n 'a' := by
  refine stripEnds_eq_self (fun c hc => ?_) (fun c hc => ?_)
  · rw [List.append_assoc, List.head?_append_of_ne_nil _ (letters_ne_nil hm)] at hc
    rw [List.eq_of_mem_replicate (List.mem_of_mem_head? hc)]
    rfl
  · rw [List.getLast?_append_of_ne_nil _ (letters_ne_nil hn)] at hc
    rw [List.eq_of_mem_replicate (List.mem_of_mem_getLast? hc)]
    rfl

theorem strip_lastChars_letters {m n : ℕ} (h : m ≤ n) :
    strip (lastChars m (List.replicate n 'a')) = List.replicate m 'a' := by
  rw [lastChars, List.drop_replicate, List.length_replicate, strip_letters]
  congr 1
  omega

theorem chunksOf_twoParagraphs (h : chunker.overlapChars ≠ 0) :
    chunker.chunksOf (twoParagraphs chunker.targetChars) =
      [List.replicate chunker.targetChars 'a',
        List.replicate chunker.overlapChars 'a' ++ ['\n', '\n'] ++ List.replicate chunker.targetChars 'a'] := by
  have htarget := chunker.target_ge
  have hoverlap := chunker.overlap_lt
  have hpos : 0 < chunker.targetChars := by omega
  have hunits : chunker.unitsOf (List.replicate chunker.targetChars 'a') =
    [List.replicate chunker.targetChars 'a'] := by
    rw [unitsOf, if_pos (by rw [List.length_replicate])]
  have hfirst : chunker.merge ⟨[], []⟩ (List.replicate chunker.targetChars 'a') =
      ⟨[], List.replicate chunker.targetChars 'a'⟩ := by
    obtain ⟨-, heq⟩ | ⟨hne, -, -⟩ | ⟨hne, -, -⟩ := chunker.merge_cases ⟨[], []⟩ (List.replicate chunker.targetChars 'a')
    · exact heq
    · exact absurd rfl hne
    · exact absurd rfl hne
  have hsecond : chunker.merge ⟨[], List.replicate chunker.targetChars 'a'⟩ (List.replicate chunker.targetChars 'a') =
      ⟨[List.replicate chunker.targetChars 'a'],
        List.replicate chunker.overlapChars 'a' ++ ['\n', '\n'] ++ List.replicate chunker.targetChars 'a'⟩ := by
    obtain ⟨hnil, -⟩ | ⟨-, hroom, -⟩ | ⟨-, -, heq⟩ := chunker.merge_cases ⟨[], List.replicate chunker.targetChars 'a'⟩
      (List.replicate chunker.targetChars 'a')
    · exact absurd hnil (letters_ne_nil hpos)
    · dsimp only at hroom
      rw [joined_letters hpos hpos] at hroom
      simp only [List.length_append, List.length_replicate, List.length_cons, List.length_nil] at hroom
      omega
    · dsimp only at heq
      rw [heq, begun, if_pos h, strip_lastChars_letters (by omega), if_pos (letters_ne_nil (Nat.pos_of_ne_zero h)),
        joined_letters (Nat.pos_of_ne_zero h) hpos]
      rfl
  unfold chunksOf
  rw [paragraphs_twoParagraphs hpos, List.flatMap_cons, List.flatMap_cons, List.flatMap_nil, hunits, List.append_nil,
    List.singleton_append, List.foldl_cons, List.foldl_cons, List.foldl_nil, hfirst, hsecond]
  simp

/-- Every text is one whose repetitions fit, if nothing is repeated, or there is room for it. -/
theorem forall_repeatsFit_iff : (∀ content, chunker.RepeatsFit content) ↔
    chunker.overlapChars = 0 ∨ chunker.targetChars + chunker.overlapChars + 2 ≤ maxChunkChars := by
  constructor
  · intro h
    by_contra hlong
    rw [not_or] at hlong
    have hle := (chunker.chunksOf_fits_iff _).2 (h (twoParagraphs chunker.targetChars)) _ (by
      rw [chunker.chunksOf_twoParagraphs hlong.1]
      exact List.mem_cons_of_mem _ List.mem_cons_self)
    simp only [List.length_append, List.length_replicate, List.length_cons, List.length_nil] at hle
    omega
  · intro h content
    have hlongest : chunker.longest ≤ maxChunkChars := by
      have hle := chunker.target_le
      unfold longest
      split <;> omega
    exact (chunker.chunksOf_fits_iff content).1 fun chunk hchunk =>
      (chunker.chunksOf_bounded content chunk hchunk).2.trans hlongest

/-- **The chunker keeps its bound.**  On a text, it returns chunks that are not empty and not too long if and only if
    each unit of the text has room behind what is repeated of the units before it. -/
theorem split_keeps_bound_iff (content : String) :
    (∃ chunks, chunker.split content = .ok chunks ∧
        ∀ chunk ∈ chunks, chunk ≠ "" ∧ chunk.length ≤ maxChunkChars) ↔ chunker.RepeatsFit content.toList := by
  rw [← chunker.chunksOf_fits_iff]
  constructor
  · rintro ⟨chunks, hsplit, -⟩
    exact (chunker.split_ok_iff content).1 ⟨chunks, hsplit⟩
  · intro h
    obtain ⟨chunks, hsplit⟩ := (chunker.split_ok_iff content).2 h
    refine ⟨chunks, hsplit, fun chunk hchunk => ?_⟩
    rw [split_eq_ok hsplit] at hchunk
    obtain ⟨text, htext, rfl⟩ := List.mem_map.1 hchunk
    refine ⟨fun hnil => (chunker.chunksOf_bounded _ text htext).1 ?_, ?_⟩
    · simpa using congrArg String.toList hnil
    · rw [String.length_ofList]
      exact h text htext

/-- The chunker of the ingestion, with its default sizes, on two paragraphs of the target's length. -/
theorem split_keeps_bound_default : ∃ chunks,
    (⟨2400, 240, by decide, by decide, by decide⟩ : ParagraphWindowChunker).split
      (String.ofList (twoParagraphs 2400)) = .ok chunks ∧
    ∀ chunk ∈ chunks, chunk ≠ "" ∧ chunk.length ≤ maxChunkChars :=
  (split_keeps_bound_iff _ _).2 ((forall_repeatsFit_iff _).2 (.inr (by decide)) _)

/-- Two paragraphs of the target's length, and a chunk that may not be longer: the second chunk repeats the end
    of the first. -/
theorem split_raises_on_two_paragraphs : ∃ chunker, init 8_000 240 = .ok chunker ∧
    chunker.split (String.ofList (twoParagraphs 8_000)) = .error "chunker produced an invalid chunk" := by
  refine ⟨⟨8_000, 240, by decide, by decide, by decide⟩, rfl, ?_⟩
  set chunker : ParagraphWindowChunker := ⟨8_000, 240, by decide, by decide, by decide⟩ with hchunker
  cases hsplit : chunker.split (String.ofList (twoParagraphs 8_000)) with
  | error message =>
    unfold split at hsplit
    dsimp only at hsplit
    split at hsplit
    · exact hsplit.symm
    · cases hsplit
  | ok chunks =>
    have hle := (chunker.split_ok_iff _).1 ⟨chunks, hsplit⟩ _ (by
      rw [String.toList_ofList]
      rw [show (8000 : ℕ) = chunker.targetChars from rfl, chunker.chunksOf_twoParagraphs (by decide)]
      exact List.mem_cons_of_mem _ List.mem_cons_self)
    simp only [List.length_append, List.length_replicate, List.length_cons, List.length_nil, hchunker,
      maxChunkChars] at hle
    omega

end ParagraphWindowChunker

end RoutePilot.Knowledge
