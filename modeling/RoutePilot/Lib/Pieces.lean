/-
  Pieces of a text, and where they stand in it.

  A piece can be cut at its beginning and stripped at its ends.  Bare pieces are put
  together with a separator between them; what is left of the end of such a text, when it
  is stripped, is put together from the last of the pieces, the first of which may be cut.
-/
import Mathlib.Data.List.Infix
import RoutePilot.Lib.Strip

namespace Lib

variable {α : Type}

/-- A piece of a text, and where it starts. -/
structure Piece (text : List α) where
  start : ℕ
  items : List α
  stands : items <+: text.drop start

namespace Piece

variable {text : List α} {p : α → Bool}

/-- Where a piece ends. -/
def stop (x : Piece text) : ℕ := x.start + x.items.length

/-- `text[a:b]` -/
def window (text : List α) (a b : ℕ) : Piece text :=
  ⟨a, (text.take b).drop a, by rw [List.drop_take]; exact List.take_prefix _ _⟩

/-- A piece without its first `k` elements. -/
def cut (x : Piece text) (k : ℕ) : Piece text :=
  ⟨x.start + k, x.items.drop k, by rw [← List.drop_drop]; exact x.stands.drop k⟩

/-- A piece without what a predicate holds of at its ends. -/
def strip (p : α → Bool) (x : Piece text) : Piece text :=
  ⟨x.start + (x.items.takeWhile p).length, stripEnds p x.items, by
    rw [← List.drop_drop]
    refine List.IsPrefix.trans ?_ (x.stands.drop _)
    rw [drop_length_takeWhile]
    exact List.rdropWhile_prefix p _⟩

/-- A piece of a piece. -/
def within (x : Piece text) (y : Piece x.items) : Piece text :=
  ⟨x.start + y.start, y.items, by rw [← List.drop_drop]; exact y.stands.trans (x.stands.drop _)⟩

@[simp] theorem window_start (a b : ℕ) : (window text a b).start = a := rfl

@[simp] theorem cut_start (x : Piece text) (k : ℕ) : (x.cut k).start = x.start + k := rfl

@[simp] theorem strip_items (x : Piece text) : (x.strip p).items = stripEnds p x.items := rfl

@[simp] theorem within_start (x : Piece text) (y : Piece x.items) : (x.within y).start = x.start + y.start := rfl

@[simp] theorem within_items (x : Piece text) (y : Piece x.items) : (x.within y).items = y.items := rfl

theorem window_stop {a b : ℕ} (h : a ≤ b) (hb : b ≤ text.length) : (window text a b).stop = b := by
  show a + ((text.take b).drop a).length = b
  rw [List.length_drop, List.length_take]
  omega

theorem within_stop (x : Piece text) (y : Piece x.items) : (x.within y).stop = x.start + y.stop := Nat.add_assoc _ _ _

theorem getElem?_items {x : Piece text} {i : ℕ} {a : α} (h : x.items[i]? = some a) : text[x.start + i]? = some a := by
  obtain ⟨rest, hrest⟩ := x.stands
  rw [← List.getElem?_drop, ← hrest, List.getElem?_append_left (List.getElem?_eq_some_iff.1 h).1]
  exact h

theorem getElem?_of_mem_span {x : Piece text} {i : ℕ} (hstart : x.start ≤ i) (hstop : i < x.stop) :
    x.items[i - x.start]? = text[i]? := by
  unfold stop at hstop
  have hlt : i - x.start < x.items.length := by omega
  rw [List.getElem?_eq_getElem hlt, ← getElem?_items (List.getElem?_eq_getElem hlt), Nat.add_sub_cancel' hstart]

/-! ## Stripped pieces -/

/-- A stripped piece stands inside the piece. -/
theorem strip_inside (p : α → Bool) (x : Piece text) : x.start ≤ (x.strip p).start ∧ (x.strip p).stop ≤ x.stop := by
  refine ⟨Nat.le_add_right _ _, ?_⟩
  have hlen := congrArg List.length (takeWhile_append_stripEnds (p := p) x.items)
  simp only [List.length_append] at hlen
  show x.start + (x.items.takeWhile p).length + (stripEnds p x.items).length ≤ x.start + x.items.length
  omega

/-- A stripped piece has all the elements of the piece that are kept. -/
theorem strip_covers {x : Piece text} {i : ℕ} {a : α} (ha : text[i]? = some a) (hp : p a = false) (hstart : x.start ≤ i)
    (hstop : i < x.stop) : (x.strip p).start ≤ i ∧ i < (x.strip p).stop := by
  rw [← getElem?_of_mem_span hstart hstop, ← takeWhile_append_stripEnds (p := p) x.items] at ha
  have hkept : ∀ {side : List α} {k : ℕ}, (∀ b ∈ side, p b) → side[k]? ≠ some a := fun hside hk => by
    have := hside a (List.mem_of_getElem? hk)
    rw [hp] at this
    cases this
  have hleft : (x.items.takeWhile p).length ≤ i - x.start := by
    by_contra hlt
    rw [List.append_assoc, List.getElem?_append_left (by omega)] at ha
    exact hkept (fun b hb => List.mem_takeWhile_imp hb) ha
  have hright : i - x.start < (x.items.takeWhile p ++ stripEnds p x.items).length := by
    by_contra hge
    rw [List.getElem?_append_right (by omega)] at ha
    exact hkept (fun b hb => List.mem_rtakeWhile_imp hb) ha
  rw [List.length_append] at hright
  show x.start + _ ≤ i ∧ i < x.start + (x.items.takeWhile p).length + (stripEnds p x.items).length
  omega

/-- What stands at the ends of a bare piece. -/
theorem ends_of_bare {x : Piece text} (h : Bare p x.items) : x.start < x.stop ∧
    (∃ a, text[x.start]? = some a ∧ p a = false) ∧ ∃ a, text[x.stop - 1]? = some a ∧ p a = false := by
  have hpos : 0 < x.items.length := List.length_pos_iff.2 h.ne_nil
  refine ⟨Nat.lt_add_of_pos_right hpos, ?_, ?_⟩
  · have hhead : x.items[0]? = some (x.items.head h.ne_nil) := by
      rw [← List.head?_eq_getElem?, List.head?_eq_some_head]
    exact ⟨_, getElem?_items hhead, h.head _ (List.head?_eq_some_head h.ne_nil)⟩
  · have hlast : x.items[x.items.length - 1]? = some (x.items.getLast h.ne_nil) := by
      rw [← List.getLast?_eq_getElem?, List.getLast?_eq_getLast_of_ne_nil]
    have hitems := getElem?_items hlast
    rw [← Nat.add_sub_assoc hpos] at hitems
    exact ⟨_, hitems, h.last _ (List.getLast?_eq_getLast_of_ne_nil h.ne_nil)⟩

/-- **Pieces that begin and end in an order, stripped, begin and end in this order.** -/
theorem strip_ordered {x y : Piece text} (hstart : x.start ≤ y.start) (hstop : x.stop ≤ y.stop)
    (hx : (x.strip p).items ≠ []) (hy : (y.strip p).items ≠ []) :
    (x.strip p).start ≤ (y.strip p).start ∧ (x.strip p).stop ≤ (y.strip p).stop := by
  obtain ⟨hlt, -, a, ha, hpa⟩ := ends_of_bare (x := x.strip p) (bare_stripEnds hx)
  obtain ⟨hlt', ⟨b, hb, hpb⟩, -⟩ := ends_of_bare (x := y.strip p) (bare_stripEnds hy)
  obtain ⟨-, hinside⟩ := strip_inside p x
  obtain ⟨hinside', -⟩ := strip_inside p y
  constructor
  · by_contra hgt
    -- the first element that `y` keeps would be kept of `x`
    have := (strip_covers hb hpb (hstart.trans hinside') (by omega)).1
    omega
  · by_contra hgt
    -- the last element that `x` keeps is before `y`, or kept of `y`
    by_cases hbefore : y.start ≤ (x.strip p).stop - 1
    · have := (strip_covers ha hpa hbefore (by omega)).2
      omega
    · omega

/-! ## Pieces put together -/

section
variable {sep : List α} {pieces : List (Piece text)}

/-- Pieces with a separator between them. -/
def assembled (sep : List α) (pieces : List (Piece text)) : List α := sep.intercalate (pieces.map items)

@[simp] theorem assembled_nil : assembled sep ([] : List (Piece text)) = [] := rfl

@[simp] theorem assembled_singleton (x : Piece text) : assembled sep [x] = x.items := List.intercalate_singleton

theorem assembled_cons (x : Piece text) (h : pieces ≠ []) :
    assembled sep (x :: pieces) = x.items ++ sep ++ assembled sep pieces := by
  rw [assembled, List.map_cons, List.intercalate_cons_of_ne_nil (by simpa using h), assembled, List.append_assoc]

theorem assembled_concat (x : Piece text) (h : pieces ≠ []) :
    assembled sep (pieces ++ [x]) = assembled sep pieces ++ sep ++ x.items := by
  induction pieces with
  | nil => exact absurd rfl h
  | cons y pieces ih =>
    cases pieces with
    | nil => rw [List.singleton_append, assembled_cons y (List.cons_ne_nil x []), assembled_singleton,
      assembled_singleton]
    | cons z pieces =>
      rw [List.cons_append, assembled_cons y (by simp), ih (List.cons_ne_nil _ _),
        assembled_cons y (List.cons_ne_nil z pieces)]
      simp only [List.append_assoc]

theorem bare_assembled (sep : List α) (hne : pieces ≠ []) (h : ∀ x ∈ pieces, Bare p x.items) :
    Bare p (assembled sep pieces) := by
  induction pieces with
  | nil => exact absurd rfl hne
  | cons x pieces ih =>
    rw [List.forall_mem_cons] at h
    by_cases hnil : pieces = []
    · rw [hnil, assembled_singleton]
      exact h.1
    · rw [assembled_cons x hnil]
      exact h.1.append sep (ih hnil h.2)

/-- The last of some pieces, the first of them without its beginning. -/
inductive EndOf (pieces : List (Piece text)) : List (Piece text) → Prop where
  | none : EndOf pieces []
  | cut {x rest} (k : ℕ) (h : x :: rest <:+ pieces) : EndOf pieces (x.cut k :: rest)

theorem EndOf.cons {x : Piece text} {last : List (Piece text)} (h : EndOf pieces last) : EndOf (x :: pieces) last := by
  cases h with
  | none => exact .none
  | cut k h => exact .cut k (h.trans (List.suffix_cons _ _))

/-- The end of a bare list, from its next element that is kept. -/
theorem exists_bare_drop {l : List α} (h : Bare p l) {n : ℕ} (hlt : n < l.length) :
    ∃ k left, l.drop n = left ++ l.drop (n + k) ∧ (∀ a ∈ left, p a) ∧ Bare p (l.drop (n + k)) := by
  have hdrop : l.drop (n + ((l.drop n).takeWhile p).length) = (l.drop n).dropWhile p := by
    rw [← List.drop_drop, drop_length_takeWhile]
  have hlast : ∀ {r : List α}, r <:+ l → ∀ a ∈ r.getLast?, p a = false := by
    rintro r ⟨l', rfl⟩ a ha
    refine h.last a ?_
    cases hr : r with
    | nil => rw [hr] at ha; cases ha
    | cons b r' => rwa [List.getLast?_append_of_ne_nil _ (List.cons_ne_nil b r'), ← hr]
  refine ⟨((l.drop n).takeWhile p).length, (l.drop n).takeWhile p, ?_, fun a ha => List.mem_takeWhile_imp ha, ?_⟩
  · rw [hdrop, List.takeWhile_append_dropWhile]
  · rw [hdrop]
    refine ⟨fun hnil => ?_, ?_, hlast ((List.dropWhile_suffix p).trans (List.drop_suffix n l))⟩
    · -- the last element is kept
      have hne : l.drop n ≠ [] := by simpa using hlt
      have hkept := hlast (List.drop_suffix n l) _ (List.getLast?_eq_getLast_of_ne_nil hne)
      rw [List.dropWhile_eq_nil_iff] at hnil
      rw [hnil _ (List.getLast_mem hne)] at hkept
      cases hkept
    · intro a ha
      have hfirst := List.head?_dropWhile_not p (l.drop n)
      rw [ha] at hfirst
      simpa using hfirst

/-- **The end of pieces that are put together.** -/
theorem exists_endOf (hsep : ∀ a ∈ sep, p a) (h : ∀ x ∈ pieces, Bare p x.items) (n : ℕ) : ∃ last, EndOf pieces last ∧
    (∀ x ∈ last, Bare p x.items) ∧ stripEnds p ((assembled sep pieces).drop n) = assembled sep last := by
  induction pieces generalizing n with
  | nil => exact ⟨[], .none, fun x hx => absurd hx List.not_mem_nil, by rw [assembled_nil, List.drop_nil]; rfl⟩
  | cons x pieces ih =>
    rw [List.forall_mem_cons] at h
    by_cases hlt : n < x.items.length
    · -- the text begins inside the first piece
      obtain ⟨k, left, hdrop, hleft, hbare⟩ := exists_bare_drop h.1 hlt
      by_cases hnil : pieces = []
      · subst hnil
        refine ⟨[x.cut (n + k)], .cut _ List.suffix_rfl, ?_, ?_⟩
        · rw [List.forall_mem_singleton]
          exact hbare
        · rw [assembled_singleton, assembled_singleton, hdrop]
          exact hbare.stripEnds_append_left hleft
      · refine ⟨x.cut (n + k) :: pieces, .cut _ List.suffix_rfl, ?_, ?_⟩
        · rw [List.forall_mem_cons]
          exact ⟨hbare, h.2⟩
        · rw [assembled_cons x hnil, assembled_cons _ hnil, List.append_assoc, List.drop_append_of_le_length hlt.le,
            hdrop, List.append_assoc, ← List.append_assoc _ sep]
          exact (hbare.append sep (bare_assembled sep hnil h.2)).stripEnds_append_left hleft
    · rw [not_lt] at hlt
      by_cases hnil : pieces = []
      · subst hnil
        refine ⟨[], .none, fun x hx => absurd hx List.not_mem_nil, ?_⟩
        rw [assembled_singleton, List.drop_eq_nil_of_le hlt]
        rfl
      · rw [assembled_cons x hnil, List.append_assoc, List.drop_append, List.drop_eq_nil_of_le hlt, List.nil_append]
        by_cases hin : n - x.items.length ≤ sep.length
        · -- it begins inside the separator
          rw [List.drop_append_of_le_length hin]
          refine ⟨pieces, ?_, h.2, ?_⟩
          · cases pieces with
            | nil => exact absurd rfl hnil
            | cons y rest => exact .cut (x := y) 0 (List.suffix_cons x _)
          · exact (bare_assembled sep hnil h.2).stripEnds_append_left fun a ha => hsep a (List.mem_of_mem_drop ha)
        · rw [List.drop_append, List.drop_eq_nil_of_le (by omega), List.nil_append]
          obtain ⟨last, hend, hbare, hstrip⟩ := ih h.2 (n - x.items.length - sep.length)
          exact ⟨last, hend.cons, hbare, hstrip⟩

end

end Piece

end Lib
