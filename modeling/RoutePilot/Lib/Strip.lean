/-
  A list without what a predicate holds of at its two ends.
-/
import Mathlib.Data.List.DropRight
import Mathlib.Data.List.Infix

namespace Lib

variable {α : Type} {p : α → Bool}

/-- `l` without the elements at its ends of which `p` holds. -/
def stripEnds (p : α → Bool) (l : List α) : List α := (l.dropWhile p).rdropWhile p

theorem infix_of_stripEnds (l : List α) : stripEnds p l <:+: l :=
  (List.rdropWhile_prefix p _).isInfix.trans (List.dropWhile_suffix p).isInfix

theorem length_stripEnds_le (l : List α) : (stripEnds p l).length ≤ l.length := (infix_of_stripEnds l).length_le

/-- Nothing is left of what `p` holds of throughout, and only of that. -/
theorem stripEnds_eq_nil_iff {l : List α} : stripEnds p l = [] ↔ ∀ a ∈ l, p a := by
  rw [stripEnds, List.rdropWhile_eq_nil_iff]
  constructor
  · intro h a ha
    by_contra hp
    -- the element would be kept at the left, or be behind one that is
    cases hd : l.dropWhile p with
    | nil => exact hp (List.dropWhile_eq_nil_iff.1 hd a ha)
    | cons b l' =>
      have hb := List.head?_dropWhile_not p l
      rw [hd] at hb h
      simp [h b List.mem_cons_self] at hb
  · intro h a ha
    exact h a ((List.dropWhile_suffix p).subset ha)

theorem stripEnds_ne_nil_iff {l : List α} : stripEnds p l ≠ [] ↔ ∃ a ∈ l, p a = false := by
  rw [Ne, stripEnds_eq_nil_iff]
  simp

/-- A list whose ends `p` does not hold of. -/
theorem stripEnds_eq_self {l : List α} (hfirst : ∀ a ∈ l.head?, p a = false) (hlast : ∀ a ∈ l.getLast?, p a = false) :
    stripEnds p l = l := by
  have hdrop : l.dropWhile p = l := by
    cases l with
    | nil => rfl
    | cons a l => exact List.dropWhile_cons_of_neg (by simp [hfirst a rfl])
  rw [stripEnds, hdrop, List.rdropWhile_eq_self_iff]
  intro hne hp
  rw [hlast _ (List.getLast?_eq_getLast_of_ne_nil hne)] at hp
  cases hp

/-- The first element that is left. -/
theorem head?_stripEnds (l : List α) : ∀ a ∈ (stripEnds p l).head?, p a = false := by
  intro a ha
  obtain ⟨t, ht⟩ := List.rdropWhile_prefix p (l.dropWhile p)
  have hfirst := List.head?_dropWhile_not p l
  rw [← ht, List.head?_append, show ((l.dropWhile p).rdropWhile p).head? = some a from ha] at hfirst
  simpa using hfirst

/-- What is left, between what is left out. -/
theorem takeWhile_append_stripEnds (l : List α) :
    l.takeWhile p ++ stripEnds p l ++ (l.dropWhile p).rtakeWhile p = l := by
  rw [stripEnds, List.append_assoc, List.rdropWhile_append_rtakeWhile, List.takeWhile_append_dropWhile]

theorem drop_length_takeWhile (l : List α) : l.drop (l.takeWhile p).length = l.dropWhile p := by
  have hdrop : (l.takeWhile p ++ l.dropWhile p).drop (l.takeWhile p).length = l.dropWhile p := List.drop_left
  rwa [List.takeWhile_append_dropWhile] at hdrop

/-- The last element that is left. -/
theorem getLast?_stripEnds (l : List α) : ∀ a ∈ (stripEnds p l).getLast?, p a = false := by
  intro a ha
  have hne : stripEnds p l ≠ [] := fun hnil => by rw [hnil] at ha; cases ha
  rw [List.getLast?_eq_getLast_of_ne_nil hne] at ha
  obtain rfl := Option.some.inj ha
  exact Bool.eq_false_iff.2 (List.rdropWhile_last_not p (l.dropWhile p) hne)

/-- What `p` does not hold of is kept. -/
theorem filter_stripEnds (l : List α) : (stripEnds p l).filter (!p ·) = l.filter (!p ·) := by
  have hleft : (l.takeWhile p).filter (!p ·) = [] := by
    rw [List.filter_eq_nil_iff]
    intro a ha
    simp [List.mem_takeWhile_imp ha]
  have hright : ((l.dropWhile p).rtakeWhile p).filter (!p ·) = [] := by
    rw [List.filter_eq_nil_iff]
    intro a ha
    simp [List.mem_rtakeWhile_imp ha]
  conv_rhs => rw [← takeWhile_append_stripEnds (p := p) l]
  rw [List.filter_append, List.filter_append, hleft, hright, List.nil_append, List.append_nil]

/-- Not empty, and `p` does not hold of the ends. -/
structure Bare (p : α → Bool) (l : List α) : Prop where
  ne_nil : l ≠ []
  head : ∀ a ∈ l.head?, p a = false
  last : ∀ a ∈ l.getLast?, p a = false

theorem bare_stripEnds {l : List α} (h : stripEnds p l ≠ []) : Bare p (stripEnds p l) :=
  ⟨h, head?_stripEnds l, getLast?_stripEnds l⟩

section
variable {l r : List α}

theorem Bare.stripEnds_eq (h : Bare p l) : stripEnds p l = l := stripEnds_eq_self h.head h.last

theorem Bare.dropWhile_append (h : Bare p l) (r : List α) : (l ++ r).dropWhile p = l ++ r := by
  cases l with
  | nil => exact absurd rfl h.ne_nil
  | cons a l => exact List.dropWhile_cons_of_neg (by simp [h.head a rfl])

/-- Two bare lists and what is between them. -/
theorem Bare.append (hl : Bare p l) (between : List α) (hr : Bare p r) : Bare p (l ++ between ++ r) where
  ne_nil := List.append_ne_nil_of_right_ne_nil _ hr.ne_nil
  head := by
    rw [List.append_assoc, List.head?_append_of_ne_nil _ hl.ne_nil]
    exact hl.head
  last := by
    rw [List.getLast?_append_of_ne_nil _ hr.ne_nil]
    exact hr.last

/-- What stands before a bare list is left out. -/
theorem Bare.stripEnds_append_left (hr : Bare p r) (hl : ∀ a ∈ l, p a) : stripEnds p (l ++ r) = r := by
  have hself := hr.stripEnds_eq
  rwa [stripEnds, List.dropWhile_append_of_pos hl]

/-- What stands behind a bare list is left out. -/
theorem Bare.stripEnds_append_right (hl : Bare p l) (hr : ∀ a ∈ r, p a) : stripEnds p (l ++ r) = l := by
  have hself := hl.stripEnds_eq
  have hdrop := hl.dropWhile_append []
  rw [List.append_nil] at hdrop
  rw [stripEnds, hdrop, List.rdropWhile] at hself
  rwa [stripEnds, hl.dropWhile_append, List.rdropWhile, List.reverse_append,
    List.dropWhile_append_of_pos fun a ha => hr a (List.mem_reverse.1 ha)]

/-- What stands at an end and is left out there makes no difference. -/
theorem stripEnds_append_left (hl : ∀ a ∈ l, p a) : stripEnds p (l ++ r) = stripEnds p r := by
  rw [stripEnds, List.dropWhile_append_of_pos hl]
  rfl

theorem stripEnds_append_right (hr : ∀ a ∈ r, p a) : stripEnds p (l ++ r) = stripEnds p l := by
  by_cases hall : ∀ a ∈ l, p a
  · rw [stripEnds_append_left hall, stripEnds_eq_nil_iff.2 hall, stripEnds_eq_nil_iff.2 hr]
  · have hne : l.dropWhile p ≠ [] := fun hnil => hall (List.dropWhile_eq_nil_iff.1 hnil)
    rw [stripEnds, List.dropWhile_append, if_neg (by simpa using hne), List.rdropWhile, List.reverse_append,
      List.dropWhile_append_of_pos fun a ha => hr a (List.mem_reverse.1 ha)]
    rfl

end

/-- To strip less first makes no difference. -/
theorem stripEnds_stripEnds {q : α → Bool} (h : ∀ a, q a → p a) (l : List α) :
    stripEnds p (stripEnds q l) = stripEnds p l := by
  have hleft : ∀ a ∈ l.takeWhile q, p a := fun a ha => h a (List.mem_takeWhile_imp ha)
  have hright : ∀ a ∈ (l.dropWhile q).rtakeWhile q, p a := fun a ha => h a (List.mem_rtakeWhile_imp ha)
  conv_rhs => rw [← takeWhile_append_stripEnds (p := q) l]
  rw [stripEnds_append_right hright, stripEnds_append_left hleft]

end Lib
