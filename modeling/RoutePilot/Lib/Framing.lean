/-
  Splitting of a text at separators, in one go or as it arrives.

  A separator is recognized at the head of a text (`Separator.len`), as a regular
  expression is.  `split` is `text.split(separator)`.  A reader that splits what has
  arrived so far, keeps the last piece and appends the next chunk to it, finds the pieces
  of the whole text, however it was cut (`feedAll_eq`).
-/
import Mathlib.Data.List.Basic
import Mathlib.Tactic.Common

namespace Lib

/-- What separates the pieces of a text.  A match does not depend on what follows it, and one that is
    completed by what follows had no match before it. -/
structure Separator (α : Type) where
  /-- the length of a match at the head -/
  len : List α → Option ℕ
  nil : len [] = none
  pos : ∀ {s n}, len s = some n → 0 < n ∧ n ≤ s.length
  mono : ∀ {s n} (t), len s = some n → len (s ++ t) = some n
  late : ∀ {s t n}, len s = none → len (s ++ t) = some n → ∀ k, len (s.drop k) = none

namespace Separator
variable {α : Type} (S : Separator α)

/-- An element in front of the first piece. -/
def consHead (a : α) : List (List α) → List (List α)
  | [] => [[a]]
  | piece :: pieces => (a :: piece) :: pieces

/-- The pieces after the next `k` elements. -/
def splitAfter : ℕ → List α → List (List α)
  | _, [] => [[]]
  | k + 1, _ :: s => splitAfter k s
  | 0, a :: s =>
    match S.len (a :: s) with
    | some n => [] :: splitAfter (n - 1) s
    | none => consHead a (splitAfter 0 s)

/-- `s.split(separator)`. -/
def split (s : List α) : List (List α) := S.splitAfter 0 s

theorem splitAfter_eq : ∀ (k : ℕ) (s : List α), S.splitAfter k s = S.split (s.drop k)
  | k, [] => by cases k <;> rfl
  | 0, _ :: _ => rfl
  | k + 1, _ :: s => splitAfter_eq k s

@[simp] theorem split_nil : S.split [] = [[]] := rfl

theorem split_match {s : List α} {n : ℕ} (h : S.len s = some n) : S.split s = [] :: S.split (s.drop n) := by
  cases s with
  | nil =>
    rw [S.nil] at h
    cases h
  | cons a s =>
    obtain ⟨m, rfl⟩ := Nat.exists_eq_succ_of_ne_zero (Nat.pos_iff_ne_zero.1 (S.pos h).1)
    have hcons : S.split (a :: s) = [] :: S.splitAfter m s := by
      unfold split
      simp only [splitAfter, h]
      rfl
    rw [hcons, S.splitAfter_eq m s, List.drop_succ_cons]

theorem split_cons {a : α} {s : List α} (h : S.len (a :: s) = none) : S.split (a :: s) = consHead a (S.split s) := by
  unfold split
  simp only [splitAfter, h]

theorem split_ne_nil (s : List α) : S.split s ≠ [] := by
  cases s with
  | nil => simp
  | cons a s =>
    cases h : S.len (a :: s) with
    | some n => simp [S.split_match h]
    | none =>
      rw [S.split_cons h]
      cases S.split s <;> simp [consHead]

/-- A text without a separator is one piece. -/
theorem split_single {s : List α} (h : ∀ k, S.len (s.drop k) = none) : S.split s = [s] := by
  induction s with
  | nil => rfl
  | cons a s ih => rw [S.split_cons (h 0), ih fun k => h (k + 1), consHead]

/-- What is one piece is not cut. -/
theorem eq_of_split_single {s piece : List α} (h : S.split s = [piece]) : piece = s := by
  induction s generalizing piece with
  | nil =>
    rw [split_nil] at h
    exact (List.singleton_inj.1 h).symm
  | cons a s ih =>
    cases hlen : S.len (a :: s) with
    | some n =>
      rw [S.split_match hlen] at h
      exact absurd (List.cons_eq_cons.1 h).2 (S.split_ne_nil _)
    | none =>
      rw [S.split_cons hlen] at h
      match hs : S.split s with
      | [] => exact absurd hs (S.split_ne_nil s)
      | [rest] =>
        rw [hs, consHead] at h
        rw [← List.singleton_inj.1 h, ih hs]
      | _ :: _ :: _ =>
        rw [hs, consHead] at h
        cases h

/-- The last piece. -/
def last (s : List α) : List α := (S.split s).getLast (S.split_ne_nil s)

theorem dropLast_append_last (s : List α) : (S.split s).dropLast ++ [S.last s] = S.split s :=
  List.dropLast_append_getLast (S.split_ne_nil s)

/-- **Arrival.**  The pieces of a text are those of its first part, but the last, and those of the last piece with the
    rest of the text. -/
theorem split_append (s t : List α) : S.split (s ++ t) = (S.split s).dropLast ++ S.split (S.last s ++ t) := by
  induction hlength : s.length using Nat.strongRecOn generalizing s with
  | _ n ih =>
    subst hlength
    -- a single piece is the text itself
    by_cases hsingle : S.split s = [s]
    · have hlast : S.last s = s := by
        unfold last
        simp [hsingle]
      rw [hlast, hsingle]
      rfl
    cases hlen : S.len s with
    | some n =>
      obtain ⟨hpos, hle⟩ := S.pos hlen
      have hrec := ih (s.drop n).length (by rw [List.length_drop]; omega) (s.drop n) rfl
      have hlast : S.last s = S.last (s.drop n) := by
        unfold last
        simp only [S.split_match hlen]
        rw [List.getLast_cons (S.split_ne_nil _)]
      rw [S.split_match (S.mono t hlen), List.drop_append_of_le_length hle, hrec, hlast, S.split_match hlen,
        List.dropLast_cons_of_ne_nil (S.split_ne_nil _)]
      rfl
    | none =>
      cases s with
      | nil => exact absurd rfl hsingle
      | cons a s =>
        have hnone : S.len (a :: s ++ t) = none := by
          cases hmatch : S.len (a :: s ++ t) with
          | none => rfl
          | some n => exact absurd (S.split_single (S.late hlen hmatch)) hsingle
        have hrec := ih s.length (Nat.lt_succ_self _) s rfl
        rw [List.cons_append] at hnone ⊢
        rw [S.split_cons hnone, hrec]
        -- the first piece is not the last
        have hsplit := S.split_cons hlen
        have hmore : ∃ piece next pieces, S.split s = piece :: next :: pieces := by
          match hpieces : S.split s with
          | [] => exact absurd hpieces (S.split_ne_nil s)
          | [piece] =>
            rw [hpieces, S.eq_of_split_single hpieces] at hsplit
            exact absurd hsplit hsingle
          | piece :: next :: pieces => exact ⟨piece, next, pieces, rfl⟩
        obtain ⟨piece, next, pieces, hpieces⟩ := hmore
        have hlast : S.last (a :: s) = S.last s := by
          unfold last
          simp [hsplit, hpieces, consHead]
        rw [hlast, hsplit, hpieces]
        simp [consHead]

/-- The last piece is not cut. -/
theorem split_last (s : List α) : S.split (S.last s) = [S.last s] := by
  -- nothing arrives after `s`, so the pieces of its last piece are that piece alone
  have h := S.split_append s []
  rw [List.append_nil, List.append_nil] at h
  have h' : (S.split s).dropLast ++ [S.last s] = (S.split s).dropLast ++ S.split (S.last s) :=
    (S.dropLast_append_last s).trans h
  exact (List.append_cancel_left h').symm

/-! ## A reader -/

/-- The pieces that are complete with a chunk, and what is kept of it. -/
def feed (buffer chunk : List α) : List (List α) × List α :=
  ((S.split (buffer ++ chunk)).dropLast, S.last (buffer ++ chunk))

/-- A reader of chunks. -/
def feedAll : List α → List (List α) → List (List α) × List α
  | buffer, [] => ([], buffer)
  | buffer, chunk :: chunks =>
    let fed := S.feed buffer chunk
    let rest := feedAll fed.2 chunks
    (fed.1 ++ rest.1, rest.2)

/-- **Arrival in chunks.**  The pieces a reader has seen, and what it kept, are the pieces of the text. -/
theorem split_feedAll (buffer : List α) (chunks : List (List α)) :
    (S.feedAll buffer chunks).1 ++ S.split (S.feedAll buffer chunks).2 = S.split (buffer ++ chunks.flatten) := by
  induction chunks generalizing buffer with
  | nil => simp [feedAll]
  | cons chunk chunks ih =>
    rw [List.flatten_cons, ← List.append_assoc, S.split_append (buffer ++ chunk), ← ih]
    exact List.append_assoc ..

/-- What a reader keeps is not cut. -/
theorem split_feedAll_rest {buffer : List α} (chunks : List (List α)) (h : S.split buffer = [buffer]) :
    S.split (S.feedAll buffer chunks).2 = [(S.feedAll buffer chunks).2] := by
  induction chunks generalizing buffer with
  | nil => exact h
  | cons chunk chunks ih => exact ih (S.split_last _)

/-- A separator in front of which nothing matches ends a piece. -/
theorem split_terminated {body sep : List α} {n : ℕ} (rest : List α) (hsep : S.len sep = some n)
    (hn : n = sep.length) (hbody : ∀ k < body.length, S.len (body.drop k ++ sep ++ rest) = none) :
    S.split (body ++ sep ++ rest) = body :: S.split rest := by
  induction body with
  | nil =>
    rw [List.nil_append, S.split_match (S.mono rest hsep), hn, List.drop_left]
  | cons a body ih =>
    have hhead := hbody 0 (Nat.zero_lt_succ _)
    rw [List.drop_zero, List.cons_append, List.cons_append] at hhead
    rw [List.cons_append, List.cons_append, S.split_cons hhead, ih fun k hk => hbody (k + 1) (Nat.succ_lt_succ hk),
      consHead]

end Separator

/-! ## Separators that are words -/

/-- Some words, of which none begins another, and none occurs in a proper beginning of one. -/
structure Words (α : Type) where
  words : List (List α)
  ne : [] ∉ words
  free : ∀ w ∈ words, ∀ w' ∈ words, w <+: w' → w = w'
  apart : ∀ w ∈ words, ∀ i < w.length, ∀ k ≤ i, ∀ w' ∈ words, ¬ w' <+: (w.take i).drop k

namespace Words
variable {α : Type} [DecidableEq α] (W : Words α)

/-- The length of the word at the head. -/
def len (s : List α) : Option ℕ := (W.words.find? fun w => w.isPrefixOf s).map List.length

theorem len_eq_some {s : List α} {n : ℕ} (h : W.len s = some n) : ∃ w ∈ W.words, w <+: s ∧ n = w.length := by
  obtain ⟨w, hw, rfl⟩ := Option.map_eq_some_iff.1 h
  have hprefix : w.isPrefixOf s = true := List.find?_some (p := fun w : List α => w.isPrefixOf s) hw
  exact ⟨w, List.mem_of_find?_eq_some hw, List.isPrefixOf_iff_prefix.1 hprefix, rfl⟩

theorem len_eq_none {s : List α} : W.len s = none ↔ ∀ w ∈ W.words, ¬ w <+: s := by
  simp [len, List.isPrefixOf_iff_prefix]

theorem len_of_prefix {w s : List α} (hw : w ∈ W.words) (h : w <+: s) : W.len s = some w.length := by
  cases hlen : W.len s with
  | none => exact absurd h (W.len_eq_none.1 hlen w hw)
  | some n =>
    obtain ⟨w', hw', h', rfl⟩ := W.len_eq_some hlen
    -- both begin the text, so one begins the other
    rcases List.prefix_or_prefix_of_prefix h h' with hle | hle
    · rw [W.free w hw w' hw' hle]
    · rw [W.free w' hw' w hw hle]

/-- The words as a separator. -/
def separator : Separator α where
  len := W.len
  nil := by
    rw [W.len_eq_none]
    intro w hw h
    rw [List.prefix_nil.1 h] at hw
    exact W.ne hw
  pos {s n} h := by
    obtain ⟨w, hw, hs, rfl⟩ := W.len_eq_some h
    refine ⟨List.length_pos_iff.2 ?_, hs.length_le⟩
    rintro rfl
    exact W.ne hw
  mono {s n} t h := by
    obtain ⟨w, hw, hs, rfl⟩ := W.len_eq_some h
    exact W.len_of_prefix hw (hs.trans (List.prefix_append s t))
  late {s t n} hnone h k := by
    obtain ⟨w, hw, hs, rfl⟩ := W.len_eq_some h
    -- the text so far is a proper beginning of the word
    have hbegins : s <+: w := by
      rcases List.prefix_or_prefix_of_prefix hs (List.prefix_append s t) with hle | hle
      · exact absurd hle (W.len_eq_none.1 hnone w hw)
      · exact hle
    have hshort : s.length < w.length := by
      refine Nat.lt_of_le_of_ne hbegins.length_le fun heq => ?_
      rw [hbegins.eq_of_length heq] at hnone
      exact W.len_eq_none.1 hnone w hw (List.prefix_refl w)
    rw [List.prefix_iff_eq_take.1 hbegins, W.len_eq_none]
    intro w' hw'
    rcases Nat.lt_or_ge s.length k with hk | hk
    · rw [List.drop_of_length_le (by rw [List.length_take]; omega)]
      intro h'
      rw [List.prefix_nil.1 h'] at hw'
      exact W.ne hw'
    · exact W.apart w hw s.length hshort k hk w' hw'

end Words
end Lib
