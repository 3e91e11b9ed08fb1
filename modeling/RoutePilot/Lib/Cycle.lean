/-
  A list that is dealt out over and over, and hands of what was dealt.

  `rounds l n` is `n` rounds of `l`, and `Dealt` says that something was dealt in
  turn.  Some of it may be dropped: `inTurn_iff` says when what is kept could
  have been dealt in turn itself, and `inTurn_iff_of_nodup` that of a list
  without repetitions only the last may be dropped.
-/
import Mathlib.Data.List.Chain
import Mathlib.Order.Interval.Finset.Nat
import RoutePilot.Lib.History

namespace Lib

open Lts (Every)

theorem every_iff_split {α : Type} {P : List α → α → Prop} {H : List α} :
    Every P H ↔ ∀ before a after, H = before ++ a :: after → P before a := by
  constructor
  · rintro h before a after rfl
    have := h before.length (by simp)
    simpa using this
  · intro h n hn
    refine h _ _ (H.drop (n + 1)) ?_
    rw [List.cons_getElem_drop_succ, List.take_append_drop]

variable {α β : Type}

/-! ## Rounds -/

/-- `n` rounds of a list. -/
def rounds (l : List α) (n : ℕ) : List α := (List.replicate n l).flatten

theorem rounds_succ (l : List α) (n : ℕ) : rounds l (n + 1) = l ++ rounds l n := rfl

theorem length_rounds (l : List α) (n : ℕ) : (rounds l n).length = n * l.length := by simp [rounds]

theorem getElem?_rounds {l : List α} {n i : ℕ} (h : i < n * l.length) :
    (rounds l n)[i]? = l[i % l.length]? := by
  induction n generalizing i with
  | zero => omega
  | succ n ih =>
    rw [rounds_succ]
    by_cases hi : i < l.length
    · rw [List.getElem?_append_left hi, Nat.mod_eq_of_lt hi]
    · have hrest : i - l.length < n * l.length := by
        rw [Nat.succ_mul] at h
        omega
      rw [List.getElem?_append_right (by omega), ih hrest, ← Nat.mod_eq_sub_mod (by omega)]

/-- Beginnings of the rounds are what has the list's elements in turn. -/
theorem prefix_rounds_iff {l m : List α} (hl : l ≠ []) :
    (∃ n, m <+: rounds l n) ↔ ∀ i < m.length, l[i % l.length]? = m[i]? := by
  constructor
  · rintro ⟨n, hn⟩ i hi
    have hlen := hn.length_le
    rw [length_rounds] at hlen
    rw [← getElem?_rounds (n := n) (by omega), List.getElem?_eq_getElem hi]
    exact List.prefix_iff_getElem?.1 hn i hi
  · intro h
    refine ⟨m.length, List.prefix_iff_getElem?.2 fun i hi => ?_⟩
    rw [getElem?_rounds, h i hi, List.getElem?_eq_getElem hi]
    exact hi.trans_le (Nat.le_mul_of_pos_right _ (List.length_pos_iff.2 hl))

/-- Nothing comes a second time before all of `first` have come. -/
def Sooner (first m : List α) : Prop := Every (fun before a => a ∈ before → ∀ x ∈ first, x ∈ before) m

instance [DecidableEq α] (first m : List α) : Decidable (Sooner first m) :=
  inferInstanceAs (Decidable (Every _ m))

theorem Sooner.of_nodup {first m : List α} (h : m.Nodup) : Sooner first m := by
  refine every_iff_split.2 fun before a after heq hmem => ?_
  rw [heq, List.nodup_append] at h
  exact absurd rfl (h.2.2 a hmem a (List.mem_cons_self ..))

theorem sooner_append {first l m : List α} (h : ∀ x ∈ first, x ∈ l) :
    Sooner first (l ++ m) ↔ Sooner first l := by
  unfold Sooner
  rw [every_iff_split, every_iff_split]
  constructor
  · rintro hs before a after rfl
    exact hs before a (after ++ m) (by simp)
  · intro hs before a after heq hmem x hx
    rcases List.append_eq_append_iff.1 heq with ⟨rest, rfl, -⟩ | ⟨rest, rfl, hrest⟩
    · exact List.mem_append_left _ (h x hx)
    · cases rest with
      | nil =>
        rw [List.append_nil] at h
        exact h x hx
      | cons b rest =>
        obtain ⟨rfl, -⟩ := List.cons.inj hrest
        exact hs before a rest rfl hmem x hx

/-- After one round all of the list have come, so only the first round matters. -/
theorem sooner_iff {l m first : List α} {n : ℕ} (h : m <+: rounds l n) (hfirst : ∀ x ∈ first, x ∈ l) :
    Sooner first m ↔ Sooner first (l.take m.length) := by
  cases n with
  | zero =>
    obtain rfl := List.prefix_nil.1 h
    rfl
  | succ n =>
    rcases List.prefix_or_prefix_of_prefix h (List.prefix_append l (rounds l n)) with hm | ⟨rest, rfl⟩
    · rw [← List.prefix_iff_eq_take.1 hm]
    · rw [sooner_append hfirst, List.take_of_length_le (by simp)]

/-! ## What was dealt, and what was kept -/

section
variable (l : List α) (what : β → α) (dropped : β → Bool)

/-- The list's elements were dealt in turn. -/
def Dealt (taken : List β) : Prop := ∀ i v, taken[i]? = some v → l[i % l.length]? = some (what v)

/-- What is kept comes in turn, although something was dropped before it. -/
def InTurn (taken : List β) : Prop :=
  Every (fun before v => dropped v = false →
    l[before.length % l.length]? = l[(before.length - before.countP dropped) % l.length]?) taken

instance [DecidableEq α] (taken : List β) : Decidable (InTurn l dropped taken) :=
  inferInstanceAs (Decidable (Every _ taken))

variable {l what dropped} {taken : List β}

theorem length_kept (before : List β) :
    (before.filter (!dropped ·)).length = before.length - before.countP dropped := by
  have := List.length_eq_countP_add_countP dropped (l := before)
  rw [← List.countP_eq_length_filter]
  have hnot : before.countP (fun a => decide ¬dropped a = true) = before.countP (!dropped ·) :=
    List.countP_congr fun a _ => by simp
  omega

theorem inTurn_iff (hl : l ≠ []) (h : Dealt l what taken) :
    (∃ n, (taken.filter (!dropped ·)).map what <+: rounds l n) ↔ InTurn l dropped taken := by
  rw [prefix_rounds_iff hl, InTurn, every_iff_split]
  constructor
  · rintro hturn before v after rfl hv
    have hkept : (before ++ v :: after).filter (!dropped ·) =
        before.filter (!dropped ·) ++ v :: after.filter (!dropped ·) := by
      rw [List.filter_append, List.filter_cons_of_pos (by simpa using hv)]
    have hlook := hturn (before.filter (!dropped ·)).length (by rw [hkept]; simp)
    rw [List.getElem?_map, hkept, List.getElem?_append_right le_rfl, Nat.sub_self, List.getElem?_cons_zero,
      Option.map_some, length_kept] at hlook
    rw [h before.length v (by simp), hlook]
  · intro hturn i hi
    rw [List.length_map] at hi
    -- what was taken before the `i`-th that is kept
    obtain ⟨before, l₂, hsplit, hfirst, hrest⟩ := List.filter_eq_append_iff.1
      (List.take_append_drop i (taken.filter (!dropped ·))).symm
    rw [List.drop_eq_getElem_cons hi] at hrest
    rw [List.getElem?_map, List.getElem?_eq_getElem hi]
    generalize (taken.filter (!dropped ·))[i] = v at hrest ⊢
    obtain ⟨skipped, after, rfl, hskipped, hkept, -⟩ := List.filter_eq_cons_iff.1 hrest
    rw [← List.append_assoc] at hsplit
    have hcount : (before ++ skipped).length - (before ++ skipped).countP dropped = i := by
      have hnone : skipped.filter (!dropped ·) = [] := List.filter_eq_nil_iff.2 hskipped
      rw [← length_kept, List.filter_append, hfirst, hnone, List.append_nil, List.length_take]
      omega
    have hlook := hturn _ _ _ hsplit (by simpa using hkept)
    have hget : taken[(before ++ skipped).length]? = some v := by
      rw [hsplit, List.getElem?_append_right le_rfl, Nat.sub_self, List.getElem?_cons_zero]
    rw [hcount, h _ _ hget] at hlook
    rw [← hlook, Option.map_some]

/-- Of a list without repetitions only the last that was taken may be dropped, if nothing is dropped
    right after something was. -/
theorem inTurn_iff_of_nodup (hl : l.Nodup) (htwo : ∀ v ∈ taken, dropped v = true → 2 ≤ l.length)
    (hchain : taken.IsChain fun v w => dropped v = true → dropped w = false) :
    InTurn l dropped taken ↔ ∀ v ∈ taken.dropLast, dropped v = false := by
  constructor
  · intro h
    by_contra hsome
    have hfound : taken.find? dropped ≠ none := by
      intro hnone
      rw [List.find?_eq_none] at hnone
      exact hsome fun v hv => by simpa using hnone v (List.mem_of_mem_dropLast hv)
    -- the first that was dropped, and what was taken next
    obtain ⟨v, hv⟩ := Option.ne_none_iff_exists'.1 hfound
    obtain ⟨hdropped, before, after, rfl, hbefore⟩ := List.find?_eq_some_iff_append.1 hv
    have hclean : before.countP dropped = 0 := List.countP_eq_zero.2 fun u hu => by simpa using hbefore u hu
    cases after with
    | nil =>
      refine hsome fun u hu => ?_
      rw [List.dropLast_concat] at hu
      simpa using hbefore u hu
    | cons w after =>
      have hnext : dropped w = false := by
        obtain ⟨-, htail, -⟩ := List.isChain_append.1 hchain
        exact (List.isChain_cons_cons.1 htail).1 hdropped
      have hlook := every_iff_split.1 h (before ++ [v]) w after (by simp) hnext
      have hpos := htwo v (by simp) hdropped
      rw [List.countP_append, hclean, List.countP_singleton, if_pos hdropped, List.length_append,
        List.length_singleton, Nat.zero_add, Nat.add_sub_cancel] at hlook
      have hlt (n : ℕ) : n % l.length < l.length := Nat.mod_lt _ (by omega)
      rw [List.getElem?_eq_getElem (hlt _), List.getElem?_eq_getElem (hlt _), Option.some.injEq,
        hl.getElem_inj_iff] at hlook
      have hsame := Nat.mod_injOn_Ico before.length l.length (by simp; omega) (by simp; omega) hlook
      omega
  · intro h
    refine every_iff_split.2 fun before v after heq _ => ?_
    have hclean : before.countP dropped = 0 := by
      refine List.countP_eq_zero.2 fun u hu => ?_
      have := h u (by rw [heq, List.dropLast_append_of_ne_nil (by simp)]; exact List.mem_append_left _ hu)
      simpa using this
    rw [hclean, Nat.sub_zero]

end

/-! ## Hands -/

/-- As many places of the list as it has follow each other without coming back. -/
theorem nodup_places {start k length : ℕ} (h : k ≤ length) :
    ((List.range' start k).map (· % length)).Nodup := by
  refine (List.nodup_map_iff_inj_on List.nodup_range').2 fun i hi j hj hij => ?_
  rw [List.mem_range'_1] at hi hj
  refine Nat.mod_injOn_Ico start length ?_ ?_ hij <;> simp <;> omega

/-- A hand no longer than the list has no two alike unless two different places of the list are. -/
theorem nodup_hand_iff {l : List α} {start k : ℕ} (h : k ≤ l.length) :
    ((List.range' start k).map fun i => l[i % l.length]?).Nodup ↔
      ∀ i ∈ (List.range' start k).map (· % l.length), ∀ j ∈ (List.range' start k).map (· % l.length),
        i ≠ j → l[i]? ≠ l[j]? := by
  have hmap : ((List.range' start k).map fun i => l[i % l.length]?) =
      ((List.range' start k).map (· % l.length)).map (l[·]?) := by rw [List.map_map]; rfl
  rw [hmap, List.nodup_map_iff_inj_on (nodup_places h)]
  exact ⟨fun hinj i hi j hj hne heq => hne (hinj i hi j hj heq),
    fun hne i hi j hj heq => by_contra fun hij => hne i hi j hj hij heq⟩

end Lib
