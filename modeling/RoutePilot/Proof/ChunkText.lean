/-
  What becomes of a text that is chunked (`ParagraphWindowChunker.split` in `rag/text.py`).

  Paragraphs and windows are pieces of the text in the order of their starts and of their
  ends, and merging puts pieces together.  A chunk begins with the end of the one before
  it, which may cut a piece, so its first piece is in order by its end only: where windows
  overlap, it may start after the second one.
-/
import Mathlib.Data.Bool.AllAny
import RoutePilot.Lib.Pieces
import RoutePilot.Proof.Chunks

namespace RoutePilot.Knowledge

open Lib

/-- A text without its white space. -/
def inkOf (text : List Char) : List Char := text.filter (!isPySpace ·)

@[simp] theorem inkOf_append (l r : List Char) : inkOf (l ++ r) = inkOf l ++ inkOf r := List.filter_append l r

theorem inkOf_strip (text : List Char) : inkOf (strip text) = inkOf text := filter_stripEnds text

theorem inkOf_joined (left right : List Char) :
    inkOf (ParagraphWindowChunker.joined left right) = inkOf left ++ inkOf right := by
  rw [ParagraphWindowChunker.joined, inkOf_strip, inkOf_append, inkOf_append, List.append_assoc]
  rfl

/-! ## Paragraphs -/

variable {content : List Char}

theorem splitAfter_ne_nil (k : ℕ) (text : List Char) : splitAfter k text ≠ [] := by
  induction k, text using splitAfter.induct with
  | case1 k => cases k <;> exact List.cons_ne_nil _ _
  | case2 k c text ih => exact ih
  | case3 c text n hn ih =>
    rw [splitAfter, hn]
    exact List.cons_ne_nil _ _
  | case4 c text hn ih =>
    rw [splitAfter, hn]
    cases splitAfter 0 text <;> exact List.cons_ne_nil _ _

/-- A piece ends before another one starts. -/
def Before (x y : Piece content) : Prop := x.stop ≤ y.start

/-- The pieces between blank lines stand one behind the other. -/
theorem exists_pieces_splitAfter (k : ℕ) (text : List Char) {j : ℕ} (hj : content.drop j = text) :
    ∃ pieces : List (Piece content), pieces.map Piece.items = splitAfter k text ∧ pieces.Pairwise Before ∧
      (∀ x ∈ pieces, j + k ≤ x.start) ∧ (k = 0 → ∀ x ∈ pieces.head?, x.start = j) := by
  induction k, text using splitAfter.induct generalizing j with
  | case1 k =>
    refine ⟨[⟨j + k, [], List.nil_prefix⟩], ?_, List.pairwise_singleton _ _, ?_, ?_⟩
    · cases k <;> rfl
    · rw [List.forall_mem_singleton]
    · rintro rfl x ⟨rfl⟩
      rfl
  | case2 k c text ih =>
    obtain ⟨pieces, hitems, hbefore, hstart, -⟩ := ih (j := j + 1) (by rw [← List.drop_drop, hj]; rfl)
    refine ⟨pieces, hitems, hbefore, fun x hx => ?_, fun h => absurd h (Nat.succ_ne_zero k)⟩
    have := hstart x hx
    omega
  | case3 c text n hn ih =>
    obtain ⟨pieces, hitems, hbefore, hstart, -⟩ := ih (j := j + 1) (by rw [← List.drop_drop, hj]; rfl)
    have hafter : ∀ x ∈ pieces, j ≤ x.start := fun x hx => by
      have := hstart x hx
      omega
    refine ⟨⟨j, [], List.nil_prefix⟩ :: pieces, ?_, List.pairwise_cons.2 ⟨hafter, hbefore⟩, ?_, ?_⟩
    · rw [splitAfter, hn, List.map_cons, hitems]
    · rw [List.forall_mem_cons]
      exact ⟨le_rfl, hafter⟩
    · rintro - x ⟨rfl⟩
      rfl
  | case4 c text hn ih =>
    obtain ⟨pieces, hitems, hbefore, hstart, hhead⟩ := ih (j := j + 1) (by rw [← List.drop_drop, hj]; rfl)
    have hne := splitAfter_ne_nil 0 text
    cases pieces with
    | nil => exact absurd hitems.symm hne
    | cons x pieces =>
      have hx : x.start = j + 1 := hhead rfl x rfl
      have hstands := x.stands
      rw [hx, ← List.drop_drop, hj] at hstands
      rw [List.pairwise_cons] at hbefore
      -- the piece grows at its front, and ends where it did
      let grown : Piece content := ⟨j, c :: x.items, by rw [hj]; exact List.cons_prefix_cons.2 ⟨rfl, hstands⟩⟩
      have hstop : grown.stop = x.stop := by
        show j + (x.items.length + 1) = x.start + x.items.length
        omega
      refine ⟨grown :: pieces, ?_, List.pairwise_cons.2 ⟨fun y hy => ?_, hbefore.2⟩, ?_, ?_⟩
      · rw [splitAfter, hn, ← hitems]
        rfl
      · show grown.stop ≤ y.start
        rw [hstop]
        exact hbefore.1 y hy
      · rw [List.forall_mem_cons]
        refine ⟨le_rfl, fun y hy => ?_⟩
        have := hstart y (List.mem_cons_of_mem _ hy)
        omega
      · rintro - y ⟨rfl⟩
        rfl

namespace ParagraphWindowChunker

/-- The paragraphs stand one behind the other. -/
theorem exists_pieces_paragraphs (content : List Char) : ∃ pieces : List (Piece content),
    pieces.map Piece.items = paragraphs content ∧ pieces.Pairwise Before ∧ ∀ x ∈ pieces, Bare isPySpace x.items := by
  obtain ⟨pieces, hitems, hbefore, -, -⟩ := exists_pieces_splitAfter 0 content (content.drop_zero)
  refine ⟨(pieces.map (Piece.strip isPySpace)).filter fun x => x.items ≠ [], ?_, ?_, ?_⟩
  · rw [paragraphs, splitBlankLines, ← hitems, List.map_map, List.filter_map, List.filter_map, List.map_map]
    rfl
  · refine List.Pairwise.sublist List.filter_sublist (List.pairwise_map.2 (hbefore.imp fun {x y} hxy => ?_))
    exact (Piece.strip_inside isPySpace x).2.trans (le_trans hxy (Piece.strip_inside isPySpace y).1)
  · intro x hx
    obtain ⟨hx, hne⟩ := List.mem_filter.1 hx
    obtain ⟨y, -, rfl⟩ := List.mem_map.1 hx
    rw [decide_eq_true_eq] at hne
    exact bare_stripEnds hne

/-! ## Units -/

variable (chunker : ParagraphWindowChunker)

/-- The windows of a paragraph begin and end in an order. -/
theorem exists_windows (paragraph : List Char) (start : ℕ) : ∃ windows : List (Piece paragraph),
    windows.map (fun x => strip x.items) = chunker.windows paragraph start ∧
    windows.Pairwise (fun x y => x.start ≤ y.start ∧ x.stop ≤ y.stop) ∧
    ∀ x ∈ windows, start ≤ x.start ∧ min paragraph.length (start + chunker.targetChars) ≤ x.stop ∧
      x.stop ≤ paragraph.length := by
  have htarget := chunker.target_ge
  have hwindow : ∀ start, start < paragraph.length →
      (Piece.window paragraph start (min paragraph.length (start + chunker.targetChars))).stop =
        min paragraph.length (start + chunker.targetChars) := fun start hlt =>
    Piece.window_stop (by omega) (by omega)
  induction start using windows.induct chunker paragraph with
  | case1 start hlt stop hstop =>
    refine ⟨[Piece.window paragraph start stop], ?_, List.pairwise_singleton _ _, ?_⟩
    · rw [windows, if_pos hlt, if_pos hstop]
      rfl
    · rw [List.forall_mem_singleton]
      have := hwindow start hlt
      exact ⟨le_rfl, this.ge, this.trans_le (by omega)⟩
  | case2 start hlt stop hstop ih =>
    obtain ⟨windows, hitems, hordered, hbounds⟩ := ih
    have hthis := hwindow start hlt
    refine ⟨Piece.window paragraph start stop :: windows, ?_, ?_, ?_⟩
    · rw [ParagraphWindowChunker.windows, if_pos hlt, if_neg hstop, List.map_cons, hitems]
      rfl
    · refine List.pairwise_cons.2 ⟨fun x hx => ?_, hordered⟩
      obtain ⟨hstart, hend, -⟩ := hbounds x hx
      refine ⟨show start ≤ x.start by omega, ?_⟩
      rw [hthis]
      omega
    · rw [List.forall_mem_cons]
      refine ⟨⟨le_rfl, hthis.ge, hthis.trans_le (by omega)⟩, fun x hx => ?_⟩
      obtain ⟨hstart, hend, hlen⟩ := hbounds x hx
      omega
  | case3 start hlt =>
    refine ⟨[], ?_, List.Pairwise.nil, fun x hx => absurd hx List.not_mem_nil⟩
    rw [windows, if_neg hlt]
    rfl

/-- The units of a paragraph stand in it, in an order. -/
theorem exists_pieces_unitsOf (paragraph : Piece content) : ∃ units : List (Piece content),
    units.map Piece.items = chunker.unitsOf paragraph.items ∧
    (∀ x ∈ units, x.items ≠ [] → (Bare isPySpace paragraph.items → Bare isPySpace x.items) ∧
      paragraph.start ≤ x.start ∧ x.stop ≤ paragraph.stop) ∧
    units.Pairwise (fun x y => x.items ≠ [] → y.items ≠ [] → x.start ≤ y.start ∧ x.stop ≤ y.stop) ∧
    (paragraph.items.length ≤ chunker.targetChars → units = [paragraph]) := by
  by_cases hshort : paragraph.items.length ≤ chunker.targetChars
  · refine ⟨[paragraph], ?_, ?_, List.pairwise_singleton _ _, fun _ => rfl⟩
    · rw [unitsOf, if_pos hshort]
      rfl
    · rw [List.forall_mem_singleton]
      exact fun _ => ⟨id, le_rfl, le_rfl⟩
  · obtain ⟨windows, hitems, hordered, hbounds⟩ := chunker.exists_windows paragraph.items 0
    refine ⟨windows.map fun x => paragraph.within (x.strip isPySpace), ?_, ?_, ?_, fun h => absurd h hshort⟩
    · rw [unitsOf, if_neg hshort, ← hitems, List.map_map]
      rfl
    · intro y hy hne
      obtain ⟨x, hx, rfl⟩ := List.mem_map.1 hy
      obtain ⟨-, -, hlen⟩ := hbounds x hx
      refine ⟨fun _ => bare_stripEnds hne, Nat.le_add_right _ _, ?_⟩
      rw [Piece.within_stop]
      exact Nat.add_le_add_left ((Piece.strip_inside isPySpace x).2.trans hlen) _
    · refine List.pairwise_map.2 (hordered.imp fun {x y} hxy hx hy => ?_)
      obtain ⟨hstart, hstop⟩ := Piece.strip_ordered hxy.1 hxy.2 hx hy
      rw [Piece.within_stop, Piece.within_stop]
      exact ⟨Nat.add_le_add_left hstart _, Nat.add_le_add_left hstop _⟩

/-- What holds of a piece, which may be cut, and of a later one. -/
structure Follows (x y : Piece content) : Prop where
  stop : x.stop ≤ y.stop
  start : chunker.overlapChars = 0 → x.start ≤ y.start
  short : (∀ paragraph ∈ paragraphs content, paragraph.length ≤ chunker.targetChars) → Before x y

theorem follows_of_before {x y : Piece content} (h : Before x y) : chunker.Follows x y ∧ x.start ≤ y.start := by
  have hx : x.start ≤ x.stop := Nat.le_add_right _ _
  have hy : y.start ≤ y.stop := Nat.le_add_right _ _
  unfold Before at h
  exact ⟨⟨by omega, fun _ => by omega, fun _ => h⟩, by omega⟩

/-- The units stand in the text, in an order. -/
theorem exists_pieces_units (content : List Char) : ∃ units : List (Piece content),
    units.map Piece.items = (paragraphs content).flatMap chunker.unitsOf ∧
    (∀ x ∈ units, x.items ≠ [] → Bare isPySpace x.items) ∧
    units.Pairwise fun x y => x.items ≠ [] → y.items ≠ [] → chunker.Follows x y ∧ x.start ≤ y.start := by
  obtain ⟨pieces, hitems, hbefore, hbare⟩ := exists_pieces_paragraphs content
  choose units hunits using @chunker.exists_pieces_unitsOf content
  refine ⟨pieces.flatMap units, ?_, ?_, ?_⟩
  · rw [← hitems, List.flatMap_map, List.map_flatMap]
    exact List.flatMap_congr fun x _ => (hunits x).1
  · intro y hy hne
    obtain ⟨x, hx, hy⟩ := List.mem_flatMap.1 hy
    exact ((hunits x).2.1 y hy hne).1 (hbare x hx)
  · refine List.pairwise_flatMap.2 ⟨fun paragraph hparagraph => ?_, hbefore.imp fun {p q} hpq x hx y hy hxne hyne => ?_⟩
    · obtain ⟨-, -, hordered, hshort⟩ := hunits paragraph
      by_cases hle : paragraph.items.length ≤ chunker.targetChars
      · rw [hshort hle]
        exact List.pairwise_singleton _ _
      · -- a paragraph that has windows is a long one
        refine hordered.imp fun {x y} hxy hx hy => ?_
        obtain ⟨hstart, hstop⟩ := hxy hx hy
        refine ⟨⟨hstop, fun _ => hstart, fun hall => absurd (hall _ ?_) hle⟩, hstart⟩
        rw [← hitems]
        exact List.mem_map_of_mem hparagraph
    · have hxstop := ((hunits p).2.1 x hx hxne).2.2
      have hystart := ((hunits q).2.1 y hy hyne).2.1
      exact chunker.follows_of_before (hxstop.trans (le_trans hpq hystart))

/-! ## Chunks -/

/-- A blank line. -/
def blank : List Char := ['\n', '\n']

theorem blank_space : ∀ c ∈ blank, isPySpace c := by
  intro c hc
  obtain rfl : c = '\n' := by simpa [blank] using hc
  decide

/-- The pieces of a chunk; the first one may be cut. -/
structure Kept (pieces : List (Piece content)) : Prop where
  bare : ∀ x ∈ pieces, Bare isPySpace x.items
  follows : pieces.Pairwise chunker.Follows
  starts : pieces.tail.Pairwise (·.start ≤ ·.start)

/-- A piece that can be put behind others. -/
structure Continues (pieces : List (Piece content)) (y : Piece content) : Prop where
  follows : ∀ x ∈ pieces, chunker.Follows x y
  starts : ∀ x ∈ pieces.tail, x.start ≤ y.start

section
variable {chunker} {pieces last : List (Piece content)} {y z : Piece content}

theorem kept_nil : chunker.Kept ([] : List (Piece content)) :=
  ⟨fun _ hx => absurd hx List.not_mem_nil, .nil, .nil⟩

theorem continues_nil : chunker.Continues [] y :=
  ⟨fun _ hx => absurd hx List.not_mem_nil, fun _ hx => absurd hx List.not_mem_nil⟩

theorem tail_concat (pieces : List (Piece content)) (y : Piece content) :
    (pieces ++ [y]).tail = if pieces = [] then [] else pieces.tail ++ [y] := by
  cases pieces <;> rfl

theorem Kept.concat (h : chunker.Kept pieces) (hy : Bare isPySpace y.items) (hcontinues : chunker.Continues pieces y) :
    chunker.Kept (pieces ++ [y]) where
  bare := by
    rw [List.forall_mem_append, List.forall_mem_singleton]
    exact ⟨h.bare, hy⟩
  follows := by
    rw [List.pairwise_append]
    refine ⟨h.follows, List.pairwise_singleton _ _, fun x hx => ?_⟩
    rw [List.forall_mem_singleton]
    exact hcontinues.follows x hx
  starts := by
    rw [tail_concat]
    split
    · exact .nil
    · rw [List.pairwise_append]
      refine ⟨h.starts, List.pairwise_singleton _ _, fun x hx => ?_⟩
      rw [List.forall_mem_singleton]
      exact hcontinues.starts x hx

theorem Continues.concat (h : chunker.Continues pieces z) (hy : chunker.Follows y z ∧ y.start ≤ z.start) :
    chunker.Continues (pieces ++ [y]) z where
  follows := by
    rw [List.forall_mem_append, List.forall_mem_singleton]
    exact ⟨h.follows, hy.1⟩
  starts := by
    rw [tail_concat]
    split
    · exact fun x hx => absurd hx List.not_mem_nil
    · rw [List.forall_mem_append, List.forall_mem_singleton]
      exact ⟨h.starts, hy.2⟩

/-- A piece that is cut still ends where it did. -/
theorem Follows.cut (hoverlap : chunker.overlapChars ≠ 0) {k : ℕ} (hk : k ≤ y.items.length) (h : chunker.Follows y z) :
    chunker.Follows (y.cut k) z := by
  have hstop : (y.cut k).stop = y.stop := by
    show y.start + k + (y.items.drop k).length = y.start + y.items.length
    rw [List.length_drop]
    omega
  refine ⟨?_, fun hzero => absurd hzero hoverlap, fun hall => ?_⟩
  · rw [hstop]
    exact h.stop
  · rw [Before, hstop]
    exact h.short hall

/-- The end of the pieces of a chunk can begin another chunk. -/
theorem Kept.endOf (hoverlap : chunker.overlapChars ≠ 0) (h : chunker.Kept pieces) (hend : Piece.EndOf pieces last)
    (hbare : ∀ x ∈ last, Bare isPySpace x.items) :
    chunker.Kept last ∧ ∀ z, chunker.Continues pieces z → chunker.Continues last z := by
  cases hend with
  | none => exact ⟨kept_nil, fun z _ => continues_nil⟩
  | @cut x rest k hsuffix =>
    have hk : k ≤ x.items.length := by
      have hne := (hbare (x.cut k) List.mem_cons_self).ne_nil
      by_contra hlt
      exact hne (List.drop_eq_nil_of_le (by omega))
    have hrest : rest <:+ pieces.tail := by
      obtain ⟨before, rfl⟩ := hsuffix
      cases before with
      | nil => exact List.suffix_rfl
      | cons b before => exact ⟨before ++ [x], by simp⟩
    have hfollows := h.follows.sublist hsuffix.sublist
    rw [List.pairwise_cons] at hfollows
    refine ⟨⟨hbare, List.pairwise_cons.2 ⟨fun w hw => (hfollows.1 w hw).cut hoverlap hk, hfollows.2⟩,
      h.starts.sublist hrest.sublist⟩, fun z hz => ⟨?_, fun w hw => hz.starts w (hrest.subset hw)⟩⟩
    rw [List.forall_mem_cons]
    exact ⟨(hz.follows x (hsuffix.subset List.mem_cons_self)).cut hoverlap hk,
      fun w hw => hz.follows w (hsuffix.subset (List.mem_cons_of_mem _ hw))⟩

/-- A text of pieces, and a unit behind it. -/
theorem Kept.exists_extended (h : chunker.Kept pieces)
    (hy : y.items ≠ [] → Bare isPySpace y.items ∧ chunker.Continues pieces y) :
    ∃ pieces' : List (Piece content), chunker.Kept pieces' ∧
      (if Piece.assembled blank pieces ≠ [] then joined (Piece.assembled blank pieces) y.items else y.items) =
        Piece.assembled blank pieces' ∧
      ∀ z, chunker.Continues pieces z → (y.items ≠ [] → chunker.Follows y z ∧ y.start ≤ z.start) →
        chunker.Continues pieces' z := by
  by_cases hnil : y.items = []
  · -- nothing is put behind the text, and the blank line is stripped
    refine ⟨pieces, h, ?_, fun z hz _ => hz⟩
    by_cases hpieces : pieces = []
    · rw [hpieces, Piece.assembled_nil, if_neg (not_not.2 rfl), hnil]
    · have hbare := Piece.bare_assembled blank hpieces h.bare
      rw [if_pos hbare.ne_nil, hnil, joined, List.append_nil]
      exact hbare.stripEnds_append_right blank_space
  · obtain ⟨hbare, hcontinues⟩ := hy hnil
    refine ⟨pieces ++ [y], h.concat hbare hcontinues, ?_, fun z hz hyz => hz.concat (hyz hnil)⟩
    by_cases hpieces : pieces = []
    · rw [hpieces, Piece.assembled_nil, if_neg (not_not.2 rfl), List.nil_append, Piece.assembled_singleton]
    · have htext := Piece.bare_assembled blank hpieces h.bare
      rw [if_pos htext.ne_nil, Piece.assembled_concat y hpieces]
      exact (htext.append blank hbare).stripEnds_eq

end

/-- What holds of the chunks while the `units` are still to be merged. -/
structure Merging (m : Merged) (units : List (Piece content)) : Prop where
  chunks : ∀ chunk ∈ m.chunks, ∃ pieces : List (Piece content),
    chunker.Kept pieces ∧ chunk = Piece.assembled blank pieces
  current : ∃ pieces : List (Piece content), chunker.Kept pieces ∧ m.current = Piece.assembled blank pieces ∧
    ∀ y ∈ units, y.items ≠ [] → chunker.Continues pieces y

/-- One unit more. -/
theorem merging_merge {m : Merged} {y : Piece content} {units : List (Piece content)}
    (h : chunker.Merging m (y :: units)) (hbare : y.items ≠ [] → Bare isPySpace y.items)
    (hlater : ∀ z ∈ units, y.items ≠ [] → z.items ≠ [] → chunker.Follows y z ∧ y.start ≤ z.start) :
    chunker.Merging (chunker.merge m y.items) units := by
  obtain ⟨pieces, hkept, hcurrent, hunits⟩ := h.current
  rw [List.forall_mem_cons] at hunits
  -- what is current next is a text of pieces with the unit behind it
  have hnext : ∀ {before : List (Piece content)}, chunker.Kept before →
      (∀ z, chunker.Continues pieces z → chunker.Continues before z) → ∀ {text : List Char},
      text = (if Piece.assembled blank before ≠ [] then joined (Piece.assembled blank before) y.items else y.items) →
      ∃ pieces' : List (Piece content), chunker.Kept pieces' ∧ text = Piece.assembled blank pieces' ∧
        ∀ z ∈ units, z.items ≠ [] → chunker.Continues pieces' z := by
    intro before hbefore hcontinues text htext
    obtain ⟨pieces', hkept', hassembled, hstill⟩ :=
      hbefore.exists_extended fun hne => ⟨hbare hne, hcontinues y (hunits.1 hne)⟩
    exact ⟨pieces', hkept', htext.trans hassembled,
      fun z hz hzne => hstill z (hcontinues z (hunits.2 z hz hzne)) fun hyne => hlater z hz hyne hzne⟩
  obtain ⟨hnil, heq⟩ | ⟨hne, -, heq⟩ | ⟨hne, -, heq⟩ := chunker.merge_cases m y.items
  · rw [heq]
    refine ⟨h.chunks, hnext hkept (fun _ => id) ?_⟩
    rw [← hcurrent, if_neg (not_not.2 hnil)]
  · rw [heq]
    refine ⟨h.chunks, hnext hkept (fun _ => id) ?_⟩
    rw [← hcurrent, if_pos hne]
  · rw [heq]
    refine ⟨fun chunk hchunk => ?_, ?_⟩
    · rw [List.mem_append, List.mem_singleton] at hchunk
      rcases hchunk with hchunk | rfl
      · exact h.chunks chunk hchunk
      · exact ⟨pieces, hkept, hcurrent⟩
    · by_cases hoverlap : chunker.overlapChars ≠ 0
      · obtain ⟨last, hend, hlast, htail⟩ := Piece.exists_endOf blank_space hkept.bare
          (m.current.length - chunker.overlapChars)
        rw [← hcurrent] at htail
        obtain ⟨hkept', hcontinues⟩ := hkept.endOf hoverlap hend hlast
        refine hnext hkept' hcontinues ?_
        rw [← htail, begun, if_pos hoverlap]
        rfl
      · refine hnext kept_nil (fun _ _ => continues_nil) ?_
        rw [begun, if_neg hoverlap]
        rfl

theorem merging_foldl {units : List (Piece content)} (hbare : ∀ y ∈ units, y.items ≠ [] → Bare isPySpace y.items)
    (hordered : units.Pairwise fun y z => y.items ≠ [] → z.items ≠ [] → chunker.Follows y z ∧ y.start ≤ z.start)
    {m : Merged} (h : chunker.Merging m units) :
    @Merging content chunker ((units.map Piece.items).foldl chunker.merge m) [] := by
  induction units generalizing m with
  | nil => exact h
  | cons y units ih =>
    rw [List.forall_mem_cons] at hbare
    rw [List.pairwise_cons] at hordered
    exact ih hbare.2 hordered.2 (chunker.merging_merge h hbare.1 hordered.1)

/-- The chunks are put together from pieces. -/
theorem exists_pieces_chunksOf (content : List Char) : ∀ chunk ∈ chunker.chunksOf content,
    ∃ pieces : List (Piece content), chunker.Kept pieces ∧ chunk = Piece.assembled blank pieces := by
  obtain ⟨units, hitems, hbare, hordered⟩ := chunker.exists_pieces_units content
  have hmerging := chunker.merging_foldl hbare hordered (m := ⟨[], []⟩)
    ⟨fun chunk hchunk => absurd hchunk List.not_mem_nil, [], kept_nil, rfl, fun _ _ _ => continues_nil⟩
  rw [hitems] at hmerging
  unfold chunksOf
  generalize ((paragraphs content).flatMap chunker.unitsOf).foldl chunker.merge ⟨[], []⟩ = m at hmerging
  intro chunk hchunk
  dsimp only at hchunk
  by_cases hwhole : (if m.current ≠ [] then m.chunks ++ [m.current] else m.chunks) = [] ∧ strip content ≠ []
  · rw [if_pos hwhole, List.mem_singleton] at hchunk
    subst hchunk
    let whole : Piece content := ⟨0, content, List.prefix_rfl⟩
    refine ⟨[whole.strip isPySpace], ⟨?_, List.pairwise_singleton _ _, .nil⟩, ?_⟩
    · rw [List.forall_mem_singleton]
      exact bare_stripEnds hwhole.2
    · rw [Piece.assembled_singleton]
      rfl
  · rw [if_neg hwhole] at hchunk
    by_cases hne : m.current ≠ []
    · rw [if_pos hne, List.mem_append, List.mem_singleton] at hchunk
      rcases hchunk with hchunk | rfl
      · exact hmerging.chunks chunk hchunk
      · obtain ⟨pieces, hkept, hcurrent, -⟩ := hmerging.current
        exact ⟨pieces, hkept, hcurrent⟩
    · rw [if_neg hne] at hchunk
      exact hmerging.chunks chunk hchunk

/-! ## Ink -/

theorem inkOf_flatten_paragraphs (content : List Char) : inkOf (paragraphs content).flatten = inkOf content := by
  have hstrip : ∀ pieces : List (List Char), inkOf (pieces.map strip).flatten = inkOf pieces.flatten := by
    intro pieces
    induction pieces with
    | nil => rfl
    | cons piece pieces ih =>
      rw [List.map_cons, List.flatten_cons, List.flatten_cons, inkOf_append, inkOf_append, inkOf_strip, ih]
  rw [paragraphs, List.flatten_filter_ne_nil, hstrip]
  exact filter_splitBlankLines content

/-- The windows leave nothing out. -/
theorem ink_windows (paragraph : List Char) (start : ℕ) :
    (inkOf (paragraph.drop start)).Sublist (inkOf (chunker.windows paragraph start).flatten) := by
  have htarget := chunker.target_ge
  induction start using windows.induct chunker paragraph with
  | case1 start hlt stop hstop =>
    rw [windows, if_pos hlt, if_pos hstop, List.flatten_singleton, inkOf_strip, List.take_of_length_le hstop]
  | case2 start hlt stop hstop ih =>
    have hsplit : paragraph.drop start = (paragraph.take stop).drop start ++ paragraph.drop stop := by
      have hle : start ≤ (paragraph.take stop).length := by
        rw [List.length_take]
        omega
      conv_lhs => rw [← List.take_append_drop stop paragraph]
      rw [List.drop_append_of_le_length hle]
    -- the next window begins at the end of this one or before
    have hnext : (paragraph.drop stop).Sublist (paragraph.drop (max (start + 1) (stop - chunker.overlapChars))) :=
      (List.drop_suffix_drop_left paragraph (by omega)).sublist
    rw [windows, if_pos hlt, if_neg hstop, List.flatten_cons, inkOf_append, inkOf_strip, hsplit, inkOf_append]
    exact (List.Sublist.refl _).append ((hnext.filter _).trans ih)
  | case3 start hlt =>
    rw [List.drop_eq_nil_of_le (by omega)]
    exact List.nil_sublist _

theorem ink_unitsOf (paragraph : List Char) :
    (inkOf paragraph).Sublist (inkOf (chunker.unitsOf paragraph).flatten) := by
  unfold unitsOf
  split
  · rw [List.flatten_singleton]
  · exact chunker.ink_windows paragraph 0

theorem ink_units (paragraphs : List (List Char)) :
    (inkOf paragraphs.flatten).Sublist (inkOf (paragraphs.flatMap chunker.unitsOf).flatten) := by
  induction paragraphs with
  | nil => exact List.nil_sublist _
  | cons paragraph paragraphs ih =>
    rw [List.flatten_cons, List.flatMap_cons, List.flatten_append, inkOf_append, inkOf_append]
    exact (chunker.ink_unitsOf paragraph).append ih

/-- The text of the chunks so far. -/
def Merged.text (m : Merged) : List Char := m.chunks.flatten ++ m.current

theorem ink_merge (m : Merged) (unit : List Char) :
    (inkOf m.text ++ inkOf unit).Sublist (inkOf (chunker.merge m unit).text) := by
  obtain ⟨hnil, heq⟩ | ⟨-, -, heq⟩ | ⟨-, -, heq⟩ := chunker.merge_cases m unit
  · rw [heq, Merged.text, Merged.text, hnil, List.append_nil, inkOf_append]
  · rw [heq, Merged.text, Merged.text, inkOf_append, inkOf_append, inkOf_joined, List.append_assoc]
  · rw [heq, Merged.text, Merged.text, List.flatten_append, List.flatten_singleton, inkOf_append _ (chunker.begun _ _)]
    refine (List.Sublist.refl _).append ?_
    unfold begun
    dsimp only
    generalize (if chunker.overlapChars ≠ 0 then strip (lastChars chunker.overlapChars m.current) else []) = tail
    split
    · rw [inkOf_joined]
      exact List.sublist_append_right _ _
    · exact .refl _

theorem ink_foldl (units : List (List Char)) (m : Merged) :
    (inkOf m.text ++ inkOf units.flatten).Sublist (inkOf (units.foldl chunker.merge m).text) := by
  induction units generalizing m with
  | nil =>
    rw [List.flatten_nil]
    exact (List.append_nil (inkOf m.text)).symm ▸ .refl _
  | cons unit units ih =>
    rw [List.flatten_cons, inkOf_append, ← List.append_assoc]
    exact ((chunker.ink_merge m unit).append (.refl _)).trans (ih _)

theorem ink_chunksOf (content : List Char) : (inkOf content).Sublist (inkOf (chunker.chunksOf content).flatten) := by
  have hunits := chunker.ink_units (paragraphs content)
  have hfoldl := chunker.ink_foldl ((paragraphs content).flatMap chunker.unitsOf) ⟨[], []⟩
  rw [inkOf_flatten_paragraphs] at hunits
  unfold chunksOf
  generalize ((paragraphs content).flatMap chunker.unitsOf).foldl chunker.merge ⟨[], []⟩ = m at hfoldl
  have hkept : (inkOf content).Sublist (inkOf m.text) := hunits.trans hfoldl
  dsimp only
  by_cases hwhole : (if m.current ≠ [] then m.chunks ++ [m.current] else m.chunks) = [] ∧ strip content ≠ []
  · rw [if_pos hwhole, List.flatten_singleton, inkOf_strip]
  · rw [if_neg hwhole]
    by_cases hne : m.current ≠ []
    · rw [if_pos hne, List.flatten_append, List.flatten_singleton]
      exact hkept
    · rw [if_neg hne]
      rwa [Merged.text, not_not.1 hne, List.append_nil] at hkept

/-- **Chunking drops no text.**  Without white space, a text is a subsequence of its chunks.  Each chunk is put
    together from pieces of the text, with a blank line between them, in the order of their ends and, from the second
    one on, of their starts; the first one is in this order as well unless chunks overlap and a paragraph is long. -/
theorem split_keeps_text {content : String} {chunks : List String} (h : chunker.split content = .ok chunks) :
    (inkOf content.toList).Sublist (inkOf (String.join chunks).toList) ∧
    ∀ chunk ∈ chunks, ∃ pieces : List (Piece content.toList),
      chunk.toList = ['\n', '\n'].intercalate (pieces.map Piece.items) ∧
      pieces.Pairwise (·.stop ≤ ·.stop) ∧ pieces.tail.Pairwise (·.start ≤ ·.start) ∧
      (chunker.overlapChars = 0 ∨ (∀ paragraph ∈ paragraphs content.toList, paragraph.length ≤ chunker.targetChars) →
        pieces.Pairwise (·.start ≤ ·.start)) := by
  rw [split_eq_ok h]
  constructor
  · have hjoin : (String.join ((chunker.chunksOf content.toList).map String.ofList)).toList =
        (chunker.chunksOf content.toList).flatten := by
      rw [String.toList_join, List.flatMap_map]
      simp
    rw [hjoin]
    exact chunker.ink_chunksOf content.toList
  · intro chunk hchunk
    obtain ⟨text, htext, rfl⟩ := List.mem_map.1 hchunk
    obtain ⟨pieces, hkept, hpieces⟩ := chunker.exists_pieces_chunksOf content.toList text htext
    refine ⟨pieces, ?_, hkept.follows.imp Follows.stop, hkept.starts, ?_⟩
    · rw [String.toList_ofList]
      exact hpieces
    · rintro (hoverlap | hshort)
      · exact hkept.follows.imp fun {x y} hxy => hxy.start hoverlap
      · refine hkept.follows.imp fun {x y} hxy => ?_
        have hx : x.start ≤ x.stop := Nat.le_add_right _ _
        exact hx.trans (hxy.short hshort)

/-- Two paragraphs in two chunks, of which the second one begins with the end of the first paragraph. -/
theorem split_keeps_text_repeated : ∃ chunks first second,
    (⟨200, 100, by decide, by decide, by decide⟩ : ParagraphWindowChunker).split
      (String.ofList (twoParagraphs 200)) = .ok chunks ∧ chunks = [first, second] ∧
    (inkOf (twoParagraphs 200)).Sublist (inkOf (String.join chunks).toList) ∧
    ∃ pieces : List (Piece (String.ofList (twoParagraphs 200)).toList),
      second.toList = ['\n', '\n'].intercalate (pieces.map Piece.items) ∧ pieces.Pairwise (·.start ≤ ·.start) := by
  set chunker : ParagraphWindowChunker := ⟨200, 100, by decide, by decide, by decide⟩ with hchunker
  have hchunks : chunker.chunksOf (twoParagraphs 200) = _ := chunker.chunksOf_twoParagraphs (by decide)
  obtain ⟨chunks, hsplit⟩ := (chunker.split_ok_iff (String.ofList (twoParagraphs 200))).2 (by
    rw [String.toList_ofList, hchunks]
    decide +kernel)
  have heq := split_eq_ok hsplit
  rw [String.toList_ofList, hchunks] at heq
  obtain ⟨hink, hpieces⟩ := split_keeps_text _ hsplit
  refine ⟨chunks, _, _, hsplit, heq, ?_, ?_⟩
  · rwa [String.toList_ofList] at hink
  · rw [heq] at hpieces
    obtain ⟨pieces, htext, -, -, hordered⟩ := hpieces _ (List.mem_cons_of_mem _ List.mem_cons_self)
    refine ⟨pieces, htext, hordered (.inr ?_)⟩
    rw [String.toList_ofList, paragraphs, splitBlankLines_twoParagraphs (by decide)]
    decide +kernel

/-! ## A word in two windows -/

namespace Sample

/-- A word. -/
def word : List Char := List.replicate 22 'b' ++ List.replicate 38 'c'

/-- A long paragraph of which the word is in two windows. -/
def paragraph : List Char :=
  'a' :: List.replicate 219 ' ' ++ (word ++ (List.replicate 120 ' ' ++ List.replicate 100 'z'))

/-- A chunker that repeats up to half of a chunk. -/
def halves : ParagraphWindowChunker := ⟨200, 100, by decide, by decide, by decide⟩

/-- The second chunk begins with the end of the word, and has the word again behind it. -/
def second : List Char := List.replicate 38 'c' ++ '\n' :: '\n' :: (word ++ '\n' :: '\n' :: List.replicate 100 'z')

theorem length_paragraph : paragraph.length = 500 := by decide +kernel

theorem unitsOf_paragraph : halves.unitsOf paragraph = [['a'], word, word, List.replicate 100 'z'] := by
  have hlast : halves.windows paragraph 300 = [strip ((paragraph.take 500).drop 300)] := by
    rw [windows, length_paragraph]
    rfl
  have hthird : halves.windows paragraph 200 =
    strip ((paragraph.take 400).drop 200) :: halves.windows paragraph 300 := by
    rw [windows, length_paragraph]
    rfl
  have hsecond : halves.windows paragraph 100 =
    strip ((paragraph.take 300).drop 100) :: halves.windows paragraph 200 := by
    rw [windows, length_paragraph]
    rfl
  have hfirst : halves.windows paragraph 0 = strip ((paragraph.take 200).drop 0) :: halves.windows paragraph 100 := by
    rw [windows, length_paragraph]
    rfl
  rw [unitsOf, length_paragraph, if_neg (by decide), hfirst, hsecond, hthird, hlast]
  decide +kernel

theorem mem_chunksOf_paragraph : second ∈ halves.chunksOf paragraph ∧
    ∀ chunk ∈ halves.chunksOf paragraph, chunk.length ≤ maxChunkChars := by
  have hparagraphs : paragraphs paragraph = [paragraph] := by decide +kernel
  have hchunks : halves.chunksOf paragraph = [['a'] ++ blank ++ word ++ blank ++ word, second] := by
    rw [chunksOf, hparagraphs, List.flatMap_singleton, unitsOf_paragraph]
    decide +kernel
  rw [hchunks]
  decide +kernel

theorem newline_paragraph : ∀ c ∈ paragraph, c ≠ '\n' := List.all_iff_forall_prop.1 (by decide +kernel)

theorem start_of_letter {i : ℕ} : (paragraph[i]? = some 'b' → i < 242) ∧ (paragraph[i]? = some 'c' → 242 ≤ i) := by
  constructor
  · intro h
    by_contra hge
    have hmem : 'b' ∈ paragraph.drop 242 := by
      refine List.mem_of_getElem? (i := i - 242) ?_
      rwa [List.getElem?_drop, Nat.add_sub_cancel' (not_lt.1 hge)]
    exact (show 'b' ∉ paragraph.drop 242 by decide +kernel) hmem
  · intro h
    by_contra hlt
    have hmem : 'c' ∈ paragraph.take 242 := by
      refine List.mem_of_getElem? (i := i) ?_
      rwa [List.getElem?_take_of_lt (not_le.1 hlt)]
    exact (show 'c' ∉ paragraph.take 242 by decide +kernel) hmem

/-- Where a piece stands that begins with a letter. -/
theorem getElem?_start {x : Piece paragraph} {c : Char} (h : c ∈ x.items.head?) : paragraph[x.start]? = some c := by
  rw [List.head?_eq_getElem?] at h
  exact Piece.getElem?_items h

/-- A text is read up to its first line break. -/
theorem takeWhile_newline {l : List Char} (h : ∀ c ∈ l, c ≠ '\n') (r : List Char) :
    (l ++ '\n' :: r).takeWhile (· ≠ '\n') = l := by
  rw [List.takeWhile_append_of_pos fun c hc => decide_eq_true (h c hc), List.takeWhile_cons_of_neg (by decide),
    List.append_nil]

theorem mem_head?_of_intercalate {c : Char} (hc : c ≠ '\n') {text : List Char} (texts : List (List Char))
    (h : c ∈ (['\n', '\n'].intercalate (text :: texts)).head?) : c ∈ text.head? := by
  cases text with
  | nil =>
    cases texts with
    | nil => cases h
    | cons text' texts =>
      rw [List.intercalate_cons_cons] at h
      exact absurd (Option.some.inj h).symm hc
  | cons d text =>
    cases texts with
    | nil => exact h
    | cons text' texts => exact h

/-- However the second chunk is put together, its first piece starts after the second one. -/
theorem not_ordered (pieces : List (Piece paragraph)) (h : second = ['\n', '\n'].intercalate (pieces.map Piece.items)) :
    ¬ pieces.Pairwise (·.start ≤ ·.start) := by
  have hnewline : ∀ x : Piece paragraph, ∀ c ∈ x.items, c ≠ '\n' := fun x c hc =>
    newline_paragraph c (List.mem_of_mem_drop (x.stands.subset hc))
  cases pieces with
  | nil => exact absurd h (List.append_ne_nil_of_right_ne_nil _ (List.cons_ne_nil _ _))
  | cons x pieces =>
    cases pieces with
    | nil =>
      rw [List.map_singleton, List.intercalate_singleton] at h
      exact absurd rfl (hnewline x '\n' (h ▸ List.mem_append_right _ List.mem_cons_self))
    | cons y rest =>
      intro hordered
      have hle : x.start ≤ y.start := List.rel_of_pairwise_cons hordered List.mem_cons_self
      rw [List.map_cons, List.map_cons, List.intercalate_cons_cons, List.append_assoc] at h
      -- the first piece is the end of the word, and the second one begins as the word does
      have hx : List.replicate 38 'c' = x.items := by
        have htake := congrArg (List.takeWhile (· ≠ '\n')) h
        rwa [second, takeWhile_newline (fun c hc => by rw [List.eq_of_mem_replicate hc]; decide),
          List.cons_append, takeWhile_newline (hnewline x)] at htake
      rw [second, hx, List.append_cancel_left_eq] at h
      have hxstart := start_of_letter.2 (getElem?_start (x := x) (c := 'c') (by rw [← hx]; rfl))
      have hy : 'b' ∈ y.items.head? := by
        refine mem_head?_of_intercalate (by decide) (rest.map Piece.items) ?_
        have htail : word ++ '\n' :: '\n' :: List.replicate 100 'z' =
            ['\n', '\n'].intercalate (y.items :: rest.map Piece.items) := (List.cons.inj (List.cons.inj h).2).2
        rw [← htail]
        rfl
      have hystart := start_of_letter.1 (getElem?_start hy)
      omega

end Sample

/-- The second chunk of a paragraph begins with a piece that starts after the next one. -/
theorem split_disorders_windows : ¬ ∀ (chunker : ParagraphWindowChunker) (content : String) (chunks : List String),
    chunker.split content = .ok chunks →
    (inkOf content.toList).Sublist (inkOf (String.join chunks).toList) ∧
    ∀ chunk ∈ chunks, ∃ pieces : List (Piece content.toList),
      chunk.toList = ['\n', '\n'].intercalate (pieces.map Piece.items) ∧ pieces.Pairwise (·.start ≤ ·.start) := by
  intro h
  obtain ⟨hmem, hlen⟩ := Sample.mem_chunksOf_paragraph
  obtain ⟨chunks, hsplit⟩ := (Sample.halves.split_ok_iff (String.ofList Sample.paragraph)).2 (by
    rw [String.toList_ofList]
    exact hlen)
  have hchunks := split_eq_ok hsplit
  rw [String.toList_ofList] at hchunks
  obtain ⟨pieces, hpieces, hordered⟩ := (h _ _ _ hsplit).2 (String.ofList Sample.second) (by
    rw [hchunks]
    exact List.mem_map_of_mem hmem)
  rw [String.toList_ofList] at hpieces
  have htext := String.toList_ofList (l := Sample.paragraph)
  generalize (String.ofList Sample.paragraph).toList = text at pieces htext
  subst htext
  exact Sample.not_ordered pieces hpieces hordered

end ParagraphWindowChunker

end RoutePilot.Knowledge
