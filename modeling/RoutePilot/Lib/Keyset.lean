/-
  Keyset pagination.

  A page holds the next keys after a cursor, in their order, and is cut with a look-ahead of one.
  The keys may change from one page to the next: `Walked` says what a walk has returned of the keys
  that were there when it began, and `pagesLeft` bounds what is still to come.
-/
import Mathlib.Data.List.Sort

namespace Lib.Keyset

/-- The place of a walk in the order of the keys. -/
inductive Position (κ : Type)
  | start
  | after (key : κ)
  | ended
  deriving DecidableEq, Repr

variable {κ : Type} [LinearOrder κ]

namespace Position

/-- The cursor of the next page. -/
def cursor : Position κ → Option κ
  | .after key => some key
  | _ => none

/-- Where a page leaves the walk. -/
def ofNext : Option κ → Position κ
  | some key => .after key
  | none => .ended

/-- The walk is past a key. -/
def Passed : Position κ → κ → Prop
  | .start, _ => False
  | .after key, k => k ≤ key
  | .ended, _ => True

instance (p : Position κ) : DecidablePred p.Passed := fun k =>
  match p with
  | .start => inferInstanceAs (Decidable False)
  | .after key => inferInstanceAs (Decidable (k ≤ key))
  | .ended => inferInstanceAs (Decidable True)

theorem passed_after {key k : κ} : (Position.after key).Passed k ↔ k ≤ key := .rfl

variable {p : Position κ}

theorem Passed.lt {a b : κ} (ha : p.Passed a) (hb : ¬ p.Passed b) : a < b := by
  cases p with
  | start => exact ha.elim
  | after key => exact lt_of_le_of_lt ha (not_le.1 hb)
  | ended => exact absurd trivial hb

/-- The keys that are still to come are those after the cursor. -/
theorem not_passed_iff (hp : p ≠ .ended) (k : κ) : ¬ p.Passed k ↔ ∀ key ∈ p.cursor, key < k := by
  cases p with
  | start => simp [Passed, cursor]
  | after key => simp [Passed, cursor]
  | ended => exact absurd rfl hp

end Position

open Position

/-- The next cursor, of the keys that are left. -/
def nextKey (limit : ℕ) (left : List κ) : Option κ := if limit < left.length then (left.take limit).getLast? else none

section
variable {limit : ℕ} {left : List κ} (hsorted : left.Pairwise (· < ·))
include hsorted

/-- A page that is not the last one, cut at its last key. -/
theorem cut {key : κ} (h : nextKey limit left = some key) :
    key ∈ left ∧ (∀ k ∈ left.take limit, k ≤ key) ∧ ∀ k ∈ left.drop limit, key < k := by
  unfold nextKey at h
  split at h
  · have hlast := List.mem_of_getLast? h
    obtain ⟨init, hinit⟩ := List.getLast?_eq_some_iff.1 h
    have htake := (List.pairwise_append.1 (List.take_append_drop limit left ▸ hsorted))
    refine ⟨List.mem_of_mem_take hlast, fun k hk => ?_, fun k hk => htake.2.2 key hlast k hk⟩
    have hpairs := htake.1
    rw [hinit] at hpairs hk
    obtain hk | hk := List.mem_append.1 hk
    · exact le_of_lt ((List.pairwise_append.1 hpairs).2.2 k hk key (List.mem_singleton_self key))
    · exact (List.mem_singleton.1 hk).le
  · cases h

/-- A walk is past the keys of the page, and of the keys that were left, past no other. -/
theorem passed_next_iff (hlimit : 0 < limit) {k : κ} (hk : k ∈ left) : (ofNext (nextKey limit left)).Passed k ↔
    k ∈ left.take limit := by
  cases h : nextKey limit left with
  | some key =>
    obtain ⟨-, htake, hdrop⟩ := cut hsorted h
    refine ⟨fun hle => ?_, htake k⟩
    rw [← List.take_append_drop limit left] at hk
    exact (List.mem_append.1 hk).resolve_right fun hmem => absurd (hdrop k hmem) (not_lt.2 hle)
  | none =>
    refine iff_of_true trivial ?_
    rwa [List.take_of_length_le]
    by_contra hlt
    rw [nextKey, if_pos (not_le.1 hlt), List.getLast?_eq_none_iff, List.take_eq_nil_iff] at h
    rcases h with h | rfl
    · exact absurd h hlimit.ne'
    · exact absurd (Nat.zero_le limit) hlt

end

/-- What is sorted by its keys has them in their order. -/
theorem pairwise_mergeSort_key {α : Type} (key : α → κ) (l : List α) :
    (l.mergeSort fun a b => key a ≤ key b).Pairwise fun a b => key a ≤ key b := by
  refine (List.pairwise_mergeSort (fun a b c hab hbc => ?_) (fun a b => ?_) l).imp fun h => of_decide_eq_true h
  · exact decide_eq_true ((of_decide_eq_true hab).trans (of_decide_eq_true hbc))
  · simpa using le_total (key a) (key b)

/-! ## What a walk returns -/

/-- A walk has returned the keys it is past, of those that were there when it began, and none twice. -/
structure Walked (initial : κ → Prop) (p : Position κ) (returned : List κ) : Prop where
  sorted : returned.Pairwise (· < ·)
  passed : ∀ k ∈ returned, p.Passed k
  covered : ∀ k, initial k → p.Passed k → k ∈ returned

section
variable {initial : κ → Prop} {p : Position κ} {returned left : List κ} {limit : ℕ}

theorem Walked.begin : Walked initial .start [] where
  sorted := .nil
  passed _ hk := absurd hk List.not_mem_nil
  covered _ _ hp := hp.elim

theorem Walked.nodup (h : Walked initial p returned) : returned.Nodup := h.sorted.imp ne_of_lt

/-- A page moves the walk forward. -/
theorem passed_mono (hsorted : left.Pairwise (· < ·)) (hleft : ∀ k ∈ left, ¬ p.Passed k) {k : κ}
    (hk : p.Passed k) : (ofNext (nextKey limit left)).Passed k := by
  cases h : nextKey limit left with
  | none => trivial
  | some key => exact (hk.lt (hleft key (cut hsorted h).1)).le

/-- **Page rule.**  Whatever the keys are by now, the next page keeps a walk whole, as long as the first keys are still
    among them. -/
theorem Walked.page (h : Walked initial p returned) (hsorted : left.Pairwise (· < ·)) (hlimit : 0 < limit)
    (hleft : ∀ k ∈ left, ¬ p.Passed k) (hkept : ∀ k, initial k → ¬ p.Passed k → k ∈ left) :
    Walked initial (ofNext (nextKey limit left)) (returned ++ left.take limit) where
  sorted := by
    refine List.pairwise_append.2 ⟨h.sorted, hsorted.sublist (List.take_sublist ..), fun a ha b hb => ?_⟩
    exact (h.passed a ha).lt (hleft b (List.mem_of_mem_take hb))
  passed k hk := by
    obtain hk | hk := List.mem_append.1 hk
    · exact passed_mono hsorted hleft (h.passed k hk)
    · exact (passed_next_iff hsorted hlimit (List.mem_of_mem_take hk)).2 hk
  covered k hk hpassed := by
    by_cases hp : p.Passed k
    · exact List.mem_append_left _ (h.covered k hk hp)
    · exact List.mem_append_right _ ((passed_next_iff hsorted hlimit (hkept k hk hp)).1 hpassed)

end

/-! ## What is left of a walk -/

/-- At most so many pages are left, of the given keys. -/
def pagesLeft (keys : List κ) (p : Position κ) : ℕ :=
  if p = .ended then 0 else (keys.filter fun k => ¬ p.Passed k).length + 1

theorem pagesLeft_le (keys : List κ) (p : Position κ) : pagesLeft keys p ≤ keys.length + 1 := by
  unfold pagesLeft
  split
  · omega
  · exact Nat.succ_le_succ (List.length_filter_le ..)

/-- A page is one of those that were left. -/
theorem pagesLeft_page {keys : List κ} {p : Position κ} (hp : p ≠ .ended) (hsorted : keys.Pairwise (· < ·))
    (limit : ℕ) :
    pagesLeft keys (ofNext (nextKey limit (keys.filter fun k => ¬ p.Passed k))) < pagesLeft keys p := by
  have hleft : (keys.filter fun k => ¬ p.Passed k).Pairwise (· < ·) := hsorted.sublist List.filter_sublist
  rw [pagesLeft, pagesLeft, if_neg hp]
  cases h : nextKey limit (keys.filter fun k => ¬ p.Passed k) with
  | none => simp [ofNext]
  | some key =>
    obtain ⟨hkey, -, -⟩ := cut hleft h
    have hahead : (keys.filter fun k => ¬ (Position.after key).Passed k) =
        (keys.filter fun k => ¬ p.Passed k).filter fun k => ¬ k ≤ key := by
      rw [List.filter_filter]
      refine List.filter_congr fun k _ => ?_
      by_cases hk : p.Passed k
      · have := hk.lt (by simpa using (List.mem_filter.1 hkey).2)
        simp [passed_after, hk, this.le]
      · simp [passed_after, hk]
    rw [ofNext, if_neg (by nofun), hahead]
    refine Nat.succ_lt_succ (List.length_filter_lt_length_iff_exists.2 ⟨key, hkey, ?_⟩)
    simp

/-- Keys that come and go behind the walk leave it no more pages. -/
theorem pagesLeft_mono {keys keys' : List κ} {p : Position κ} (hkeys : keys'.Nodup)
    (hahead : ∀ k ∈ keys', ¬ p.Passed k → k ∈ keys) : pagesLeft keys' p ≤ pagesLeft keys p := by
  unfold pagesLeft
  split
  · exact le_rfl
  · refine Nat.succ_le_succ ((List.subperm_of_subset (hkeys.filter _) fun k hk => ?_).length_le)
    obtain ⟨hk, hp⟩ := List.mem_filter.1 hk
    exact List.mem_filter.2 ⟨hahead k hk (by simpa using hp), hp⟩

end Lib.Keyset
