/-
  Dictionaries as association lists.

  A dictionary keeps its entries in insertion order, as Python's `dict` does:
  `set` overwrites an existing key in place and appends a new one, `pop` drops
  a key, `mapValues` rewrites every value.  Proofs go through `get?` only
  (`get?_set`, `get?_pop`, `get?_mapValues`).
-/
import Mathlib.Data.List.Basic

namespace Lib

/-- A dictionary, with its entries in insertion order. -/
structure Dict (K V : Type) where
  entries : List (K × V)
  deriving DecidableEq, Repr

namespace Dict
variable {K V W : Type}

/-- The empty dictionary. -/
def empty : Dict K V := ⟨[]⟩

instance : EmptyCollection (Dict K V) := ⟨empty⟩
instance : Inhabited (Dict K V) := ⟨empty⟩

variable [DecidableEq K]

def get? (d : Dict K V) (k : K) : Option V := d.entries.lookup k

/-- `d.get(k, v)`: the value at `k`, or the default. -/
def getD (d : Dict K V) (k : K) (v : V) : V := (d.get? k).getD v

/-- `d[k] = v`. -/
def set (d : Dict K V) (k : K) (v : V) : Dict K V :=
  if (d.get? k).isSome then ⟨d.entries.map fun e => if e.1 = k then (k, v) else e⟩
  else ⟨d.entries ++ [(k, v)]⟩

/-- `d.pop(k, None)`, the returned value aside. -/
def pop (d : Dict K V) (k : K) : Dict K V := ⟨d.entries.filter fun e => e.1 ≠ k⟩

/-- Rewrite every value. -/
def mapValues (d : Dict K V) (f : V → W) : Dict K W := ⟨d.entries.map fun e => (e.1, f e.2)⟩

/-- `{k: v for k, v in d.items() if p(v)}`. -/
def filterValues (d : Dict K V) (p : V → Bool) : Dict K V := ⟨d.entries.filter fun e => (d.get? e.1).any p⟩

/-- The values, in the order of their keys. -/
def values (d : Dict K V) : List V := d.entries.filterMap fun e => d.get? e.1

@[simp] theorem get?_empty (k : K) : (∅ : Dict K V).get? k = none := rfl

theorem not_get?_empty {k : K} {v : V} (h : (∅ : Dict K V).get? k = some v) : False := by
  rw [get?_empty] at h
  cases h

private theorem lookup_replace (es : List (K × V)) (k k' : K) (v : V) :
    (es.map fun e => if e.1 = k then (k, v) else e).lookup k' =
      if k' = k then (es.lookup k).map fun _ => v else es.lookup k' := by
  induction es with
  | nil => simp
  | cons e es ih =>
    obtain ⟨a, b⟩ := e
    by_cases ha : a = k
    · subst ha
      by_cases hk : k' = a
      · subst hk; simp
      · have : (k' == a) = false := by simpa using hk
        simp [List.lookup_cons, this, hk, ih]
    · by_cases hk : k' = k
      · subst hk
        have : (k' == a) = false := by simpa using fun h => ha h.symm
        simp [List.lookup_cons, ha, this, ih]
      · by_cases hka : k' = a
        · subst hka; simp [ha]
        · have : (k' == a) = false := by simpa using hka
          simp [List.lookup_cons, ha, this, hk, ih]

theorem get?_set (d : Dict K V) (k k' : K) (v : V) :
    (d.set k v).get? k' = if k' = k then some v else d.get? k' := by
  unfold set
  by_cases h : (d.get? k).isSome
  · obtain ⟨w, hw⟩ := Option.isSome_iff_exists.1 h
    rw [if_pos h]
    show List.lookup k' _ = _
    rw [lookup_replace, show d.entries.lookup k = some w from hw]
    rfl
  · have hn : d.entries.lookup k = none := Option.not_isSome_iff_eq_none.1 h
    rw [if_neg h]
    show List.lookup k' (d.entries ++ [(k, v)]) = _
    rw [List.lookup_append]
    by_cases hk : k' = k
    · subst hk; simp [hn]
    · have : (k' == k) = false := by simpa using hk
      simp [List.lookup_cons, this, hk, get?]

@[simp] theorem get?_set_self (d : Dict K V) (k : K) (v : V) : (d.set k v).get? k = some v := by
  simp [get?_set]

theorem get?_set_ne (d : Dict K V) {k k' : K} (h : k' ≠ k) (v : V) :
    (d.set k v).get? k' = d.get? k' := by
  simp [get?_set, h]

theorem get?_pop (d : Dict K V) (k k' : K) :
    (d.pop k).get? k' = if k' = k then none else d.get? k' := by
  obtain ⟨es⟩ := d
  simp only [pop, get?]
  induction es with
  | nil => simp
  | cons e es ih =>
    obtain ⟨a, b⟩ := e
    by_cases ha : a = k
    · subst ha
      by_cases hk : k' = a
      · subst hk; simpa using ih
      · have : (k' == a) = false := by simpa using hk
        simpa [List.lookup_cons, this, hk] using ih
    · by_cases hka : k' = a
      · subst hka; simp [ha]
      · have : (k' == a) = false := by simpa using hka
        simpa [List.lookup_cons, ha, this] using ih

@[simp] theorem get?_pop_self (d : Dict K V) (k : K) : (d.pop k).get? k = none := by
  simp [get?_pop]

theorem get?_pop_ne (d : Dict K V) {k k' : K} (h : k' ≠ k) : (d.pop k).get? k' = d.get? k' := by
  simp [get?_pop, h]

@[simp] theorem get?_mapValues (d : Dict K V) (f : V → W) (k : K) :
    (d.mapValues f).get? k = (d.get? k).map f := by
  obtain ⟨es⟩ := d
  simp only [mapValues, get?]
  induction es with
  | nil => simp
  | cons e es ih =>
    obtain ⟨a, b⟩ := e
    by_cases hk : k = a
    · subst hk; simp
    · have : (k == a) = false := by simpa using hk
      simpa [List.lookup_cons, this] using ih

/-- An entry of a key is kept with its key. -/
theorem lookup_filter_key (es : List (K × V)) (q : K → Bool) (k : K) :
    (es.filter fun e => q e.1).lookup k = if q k then es.lookup k else none := by
  induction es with
  | nil => simp
  | cons e es ih =>
    obtain ⟨a, b⟩ := e
    rw [List.filter_cons]
    by_cases hk : k = a
    · subst hk
      cases hq : q k with
      | true => simp
      | false => simpa [hq] using ih
    · have hne : (k == a) = false := by simpa using hk
      cases hq : q a with
      | true => simpa [List.lookup_cons, hne] using ih
      | false => simpa [List.lookup_cons, hne] using ih

@[simp] theorem get?_filterValues (d : Dict K V) (p : V → Bool) (k : K) :
    (d.filterValues p).get? k = (d.get? k).filter p := by
  refine (lookup_filter_key d.entries (fun a => (d.get? a).any p) k).trans ?_
  show (if (d.get? k).any p then d.get? k else none) = _
  cases d.get? k with
  | none => rfl
  | some v => cases h : p v <;> simp [h, Option.filter]

theorem exists_get?_of_mem_values {d : Dict K V} {v : V} (h : v ∈ d.values) :
    ∃ k, d.get? k = some v := by
  obtain ⟨e, -, he⟩ := List.mem_filterMap.1 h
  exact ⟨e.1, he⟩

theorem mem_values_of_get? {d : Dict K V} {k : K} {v : V} (h : d.get? k = some v) :
    v ∈ d.values := by
  obtain ⟨l₁, l₂, he, -⟩ := List.lookup_eq_some_iff.1 h
  refine List.mem_filterMap.2 ⟨(k, v), ?_, h⟩
  rw [he]
  exact List.mem_append_right _ List.mem_cons_self

theorem mem_entries_of_get? {d : Dict K V} {k : K} {v : V} (h : d.get? k = some v) : (k, v) ∈ d.entries := by
  obtain ⟨l₁, l₂, he, -⟩ := List.lookup_eq_some_iff.1 h
  rw [he]
  exact List.mem_append_right _ List.mem_cons_self

theorem getD_set (d : Dict K V) (k k' : K) (v w : V) :
    (d.set k v).getD k' w = if k' = k then v else d.getD k' w := by
  rw [getD, get?_set]
  split <;> rfl

theorem getD_mapValues (d : Dict K V) (f : V → W) (k : K) (w : V) :
    (d.mapValues f).getD k (f w) = f (d.getD k w) := by
  rw [getD, get?_mapValues, getD]
  cases d.get? k <;> rfl

/-! ## Distinct keys -/

/-- No key has two entries. -/
def DistinctKeys (d : Dict K V) : Prop := (d.entries.map Prod.fst).Nodup

theorem get?_of_mem {d : Dict K V} (h : d.DistinctKeys) {e : K × V} (he : e ∈ d.entries) :
    d.get? e.1 = some e.2 := by
  obtain ⟨es⟩ := d
  unfold DistinctKeys at h
  unfold get?
  simp only at h he ⊢
  induction es with
  | nil => cases he
  | cons b bs ih =>
    obtain ⟨k, v⟩ := b
    rw [List.map_cons, List.nodup_cons] at h
    obtain rfl | he := List.mem_cons.1 he
    · simp
    · have hne : (e.1 == k) = false := by
        have : e.1 ≠ k := fun heq => h.1 (List.mem_map.2 ⟨e, he, heq⟩)
        simpa using this
      rw [List.lookup_cons, hne]
      exact ih h.2 he

theorem values_eq {d : Dict K V} (h : d.DistinctKeys) : d.values = d.entries.map Prod.snd := by
  unfold values
  rw [← List.filterMap_eq_map]
  exact List.filterMap_congr fun e he => get?_of_mem h he

theorem DistinctKeys.set {d : Dict K V} (h : d.DistinctKeys) (k : K) (v : V) :
    (d.set k v).DistinctKeys := by
  unfold Dict.set
  split
  · have hkeys : (d.entries.map fun e => if e.1 = k then (k, v) else e).map Prod.fst =
        d.entries.map Prod.fst := by
      rw [List.map_map]
      refine List.map_congr_left fun e _ => ?_
      simp only [Function.comp_apply]
      split
      · next he => exact he.symm
      · rfl
    unfold DistinctKeys
    rw [hkeys]
    exact h
  · next hno =>
    unfold DistinctKeys
    rw [List.map_append, List.nodup_append]
    refine ⟨h, List.pairwise_singleton .., ?_⟩
    rintro a ha b hb rfl
    obtain ⟨e, he, hek⟩ := List.mem_map.1 ha
    have hk : e.1 = k := hek.trans (List.mem_singleton.1 hb)
    exact hno (by rw [← hk, get?_of_mem h he]; rfl)

theorem get?_isSome_iff {d : Dict K V} {k : K} : (d.get? k).isSome ↔ k ∈ d.entries.map Prod.fst := by
  unfold Dict.get?
  rw [List.lookup_isSome_iff, List.mem_map]
  constructor
  · rintro ⟨e, he, hkey⟩
    exact ⟨e, he, (beq_iff_eq.1 hkey).symm⟩
  · rintro ⟨e, he, rfl⟩
    exact ⟨e, he, beq_self_eq_true _⟩

/-- The keys after a key is set. -/
theorem keys_set (d : Dict K V) (k : K) (v : V) : (d.set k v).entries.map Prod.fst =
    if k ∈ d.entries.map Prod.fst then d.entries.map Prod.fst else d.entries.map Prod.fst ++ [k] := by
  unfold Dict.set
  by_cases hk : (d.get? k).isSome
  · rw [if_pos hk, if_pos (get?_isSome_iff.1 hk), List.map_map]
    refine List.map_congr_left fun e _ => ?_
    simp only [Function.comp_apply]
    split
    · next he => exact he.symm
    · rfl
  · rw [if_neg hk, if_neg fun hmem => hk (get?_isSome_iff.2 hmem), List.map_append]
    rfl

theorem length_set_le (d : Dict K V) (k : K) (v : V) : (d.set k v).entries.length ≤ d.entries.length + 1 := by
  unfold Dict.set
  split
  · rw [List.length_map]
    exact Nat.le_succ _
  · rw [List.length_append]
    exact Nat.le_refl _

/-- There is room where an entry was. -/
theorem length_pop_lt {d : Dict K V} {e : K × V} (he : e ∈ d.entries) :
    (d.pop e.1).entries.length < d.entries.length := by
  refine List.length_filter_lt_length_iff_exists.2 ⟨e, he, ?_⟩
  simp

omit [DecidableEq K] in
theorem DistinctKeys.mapValues {d : Dict K V} (h : d.DistinctKeys) (f : V → W) :
    (d.mapValues f).DistinctKeys := by
  unfold DistinctKeys Dict.mapValues
  rw [List.map_map]
  exact h

/-- Writing the stored value changes nothing. -/
theorem set_get? {d : Dict K V} (h : d.DistinctKeys) {k : K} {v : V} (hv : d.get? k = some v) :
    d.set k v = d := by
  obtain ⟨es⟩ := d
  rw [set, if_pos (by rw [hv]; rfl)]
  congr 1
  refine (List.map_congr_left fun e he => ?_).trans (List.map_id es)
  simp only [id_eq]
  split
  · next hk =>
    have hget := get?_of_mem h he
    rw [hk, hv] at hget
    cases hget
    rw [← hk]
  · rfl

theorem mapValues_eq_self {d : Dict K V} (h : d.DistinctKeys) {f : V → V}
    (hf : ∀ k v, d.get? k = some v → f v = v) : d.mapValues f = d := by
  obtain ⟨es⟩ := d
  rw [mapValues]
  congr 1
  refine (List.map_congr_left fun e he => ?_).trans (List.map_id es)
  rw [hf e.1 e.2 (get?_of_mem h he)]
  rfl

/-- `d.update(entries)`. -/
def setAll (d : Dict K V) (entries : List (K × V)) : Dict K V := entries.foldl (fun d e => d.set e.1 e.2) d

theorem DistinctKeys.setAll {d : Dict K V} (h : d.DistinctKeys) (entries : List (K × V)) :
    (d.setAll entries).DistinctKeys := by
  induction entries generalizing d with
  | nil => exact h
  | cons e entries ih => exact ih (h.set e.1 e.2)

/-- An entry after an update was there before, or is one of the new ones. -/
theorem get?_setAll {entries : List (K × V)} : ∀ {d : Dict K V} {k : K} {v : V}, (d.setAll entries).get? k = some v →
    d.get? k = some v ∨ (k, v) ∈ entries := by
  induction entries with
  | nil => exact fun h => .inl h
  | cons e es ih =>
    intro d k v h
    obtain h | h := ih (show ((d.set e.1 e.2).setAll es).get? k = some v from h)
    · rw [get?_set] at h
      split at h
      · next heq =>
        cases h
        exact .inr (by rw [heq]; exact List.mem_cons_self)
      · exact .inl h
    · exact .inr (List.mem_cons_of_mem _ h)

/-- New keys are appended. -/
theorem entries_setAll {entries : List (K × V)} : ∀ {d : Dict K V}, ((d.entries ++ entries).map Prod.fst).Nodup →
    (d.setAll entries).entries = d.entries ++ entries := by
  induction entries with
  | nil => exact fun _ => (List.append_nil _).symm
  | cons e es ih =>
    intro d hnodup
    have hnew : e.1 ∉ d.entries.map Prod.fst := fun hmem => by
      rw [List.map_append, List.nodup_append] at hnodup
      exact hnodup.2.2 _ hmem _ (List.mem_map_of_mem List.mem_cons_self) rfl
    have hset : (d.set e.1 e.2).entries = d.entries ++ [e] := by
      unfold Dict.set
      rw [if_neg (mt get?_isSome_iff.1 hnew)]
    rw [← List.singleton_append, ← List.append_assoc, ← hset] at hnodup
    refine (ih hnodup).trans ?_
    rw [hset, List.append_assoc, List.singleton_append]

end Dict

/-! ## Greatest elements -/

/-- `max(a :: as, key=f)`: the fold keeps the greatest element seen so far. -/
theorem foldl_greatest {α : Type} (f : α → ℕ) (a : α) (as : List α) :
    as.foldl (fun m b => if f m < f b then b else m) a ∈ a :: as ∧
      ∀ b ∈ a :: as, f b ≤ f (as.foldl (fun m b => if f m < f b then b else m) a) := by
  induction as generalizing a with
  | nil => simp
  | cons c cs ih =>
    rw [List.foldl_cons]
    split
    · next hlt =>
      obtain ⟨hm, hle⟩ := ih c
      refine ⟨List.mem_cons_of_mem _ hm, fun b hb => ?_⟩
      obtain rfl | hb := List.mem_cons.1 hb
      · exact Nat.le_trans (Nat.le_of_lt hlt) (hle c List.mem_cons_self)
      · exact hle b hb
    · next hge =>
      obtain ⟨hm, hle⟩ := ih a
      have ha := hle a List.mem_cons_self
      refine ⟨?_, fun b hb => ?_⟩
      · obtain hm | hm := List.mem_cons.1 hm
        · rw [hm]; exact List.mem_cons_self
        · exact List.mem_cons_of_mem _ (List.mem_cons_of_mem _ hm)
      · obtain rfl | hb := List.mem_cons.1 hb
        · exact ha
        · obtain rfl | hb := List.mem_cons.1 hb
          · omega
          · exact hle b (List.mem_cons_of_mem _ hb)

end Lib
