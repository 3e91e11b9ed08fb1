/-
  Base64 with the URL-safe alphabet (`base64.urlsafe_b64encode`,
  `base64.urlsafe_b64decode`).

  Bytes are numbers below 256.  The decoder is the one that does not validate: it
  skips what is not in an alphabet, and stops at the padding that completes a
  group.  `decode_encode` is the round trip, with any padding after the text.
-/
import Mathlib.Data.List.DropRight
import Mathlib.Data.List.GetD
import Mathlib.Data.List.Nodup

namespace Lib.Base64

/-! ## Alphabet -/

/-- The URL-safe alphabet. -/
def alphabet : List Char :=
  "ABCDEFGHIJKLMNOPQRSTUVWXYZabcdefghijklmnopqrstuvwxyz0123456789-_".toList

/-- The character of six bits. -/
def digit (v : ℕ) : Char := alphabet.getD v 'A'

/-- The six bits of a character, in either alphabet. -/
def value? (c : Char) : Option ℕ :=
  if c = '+' then some 62 else if c = '/' then some 63
  else if c ∈ alphabet then some (alphabet.idxOf c) else none

/-- The codes of the alphabet. -/
theorem map_toNat_alphabet :
    alphabet.map Char.toNat = List.range' 65 26 ++ List.range' 97 26 ++ List.range' 48 10 ++ [45, 95] :=
  (congrArg (List.map Char.toNat) String.toList_ofList).trans rfl

theorem length_alphabet : alphabet.length = 64 := by
  have hlen := congrArg List.length map_toNat_alphabet
  simpa using hlen

theorem nodup_alphabet : alphabet.Nodup := by
  refine List.Nodup.of_map Char.toNat ?_
  rw [map_toNat_alphabet]
  have hdisjoint : ∀ {l r : List ℕ}, l.Nodup → r.Nodup → (∀ m ∈ l, ∀ n ∈ r, m ≠ n) → (l ++ r).Nodup :=
    fun hl hr h => List.nodup_append.2 ⟨hl, hr, h⟩
  refine hdisjoint (hdisjoint (hdisjoint List.nodup_range' List.nodup_range' ?_) List.nodup_range' ?_)
    (by decide) ?_ <;>
    intro m hm n hn <;>
    simp only [List.mem_append, List.mem_range'_1, List.mem_cons, List.not_mem_nil, or_false] at hm hn <;>
    omega

/-- A property of the codes is one of the characters. -/
theorem forall_alphabet {P : ℕ → Prop} [DecidablePred P]
    (h : (List.range' 65 26 ++ List.range' 97 26 ++ List.range' 48 10 ++ [45, 95]).all (fun n => decide (P n)) = true)
    {c : Char} (hc : c ∈ alphabet) : P c.toNat := by
  rw [← map_toNat_alphabet, List.all_map, List.all_eq_true] at h
  exact of_decide_eq_true (h c hc)

theorem digit_eq_getElem {v : ℕ} (h : v < alphabet.length) : digit v = alphabet[v] := List.getD_eq_getElem _ _ h

theorem digit_mem : ∀ v < 64, digit v ∈ alphabet := by
  intro v h
  rw [← length_alphabet] at h
  rw [digit_eq_getElem h]
  exact List.getElem_mem h

theorem digit_ne_pad : ∀ v < 64, digit v ≠ '=' := by
  intro v h hpad
  have hne := forall_alphabet (P := (· ≠ '='.toNat)) (by decide) (digit_mem v h)
  exact hne (congrArg Char.toNat hpad)

theorem digit_ascii : ∀ v < 64, (digit v).toNat < 128 := fun v h =>
  forall_alphabet (P := (· < 128)) (by decide) (digit_mem v h)

theorem value?_digit : ∀ v < 64, value? (digit v) = some v := by
  intro v h
  have hmem := digit_mem v h
  have hplus : digit v ≠ '+' := fun heq =>
    forall_alphabet (P := (· ≠ '+'.toNat)) (by decide) hmem (congrArg Char.toNat heq)
  have hslash : digit v ≠ '/' := fun heq =>
    forall_alphabet (P := (· ≠ '/'.toNat)) (by decide) hmem (congrArg Char.toNat heq)
  rw [value?, if_neg hplus, if_neg hslash, if_pos hmem]
  rw [← length_alphabet] at h
  rw [digit_eq_getElem h, nodup_alphabet.idxOf_getElem]

/-! ## Encoding -/

/-- The text of bytes, without its padding. -/
def text : List ℕ → List Char
  | [] => []
  | [a] => [digit (a / 4), digit (a % 4 * 16)]
  | [a, b] => [digit (a / 4), digit (a % 4 * 16 + b / 16), digit (b % 16 * 4)]
  | a :: b :: c :: bytes =>
    digit (a / 4) :: digit (a % 4 * 16 + b / 16) :: digit (b % 16 * 4 + c / 64) :: digit (c % 64) :: text bytes

theorem length_text (bytes : List ℕ) : (text bytes).length = (4 * bytes.length + 2) / 3 := by
  induction bytes using text.induct with
  | case1 => simp [text]
  | case2 a => simp [text]
  | case3 a b => simp [text]
  | case4 a b c bytes ih =>
    simp only [text, List.length_cons, ih]
    omega

/-- `urlsafe_b64encode`. -/
def encode (bytes : List ℕ) : List Char :=
  text bytes ++ List.replicate ((3 - bytes.length % 3) % 3) '='

/-! ## Decoding -/

/-- The loop of `a2b_base64`, with the place in a group of four, the bits left over and the padding seen. -/
def scan : ℕ → ℕ → ℕ → List Char → Option (List ℕ)
  | place, _, _, [] => if place = 0 then some [] else none
  | place, left, pads, c :: cs =>
    if c = '=' then
      if place < 2 then scan place left pads cs
      else if 4 ≤ place + (pads + 1) then some []
      else scan place left (pads + 1) cs
    else match value? c, place with
      | none, _ => scan place left pads cs
      | some v, 0 => scan 1 v 0 cs
      | some v, 1 => (scan 2 (v % 16) 0 cs).map ((left * 4 + v / 16) :: ·)
      | some v, 2 => (scan 3 (v % 4) 0 cs).map ((left * 16 + v / 4) :: ·)
      | some v, _ => (scan 0 0 0 cs).map ((left * 64 + v) :: ·)

/-- `urlsafe_b64decode`. -/
def decode (cs : List Char) : Option (List ℕ) := scan 0 0 0 cs

section
variable {left pads v : ℕ} {cs : List Char}

theorem scan_zero (h : v < 64) : scan 0 left pads (digit v :: cs) = scan 1 v 0 cs := by
  have hpad := digit_ne_pad v h
  have hvalue := value?_digit v h
  generalize digit v = c at hpad hvalue ⊢
  conv_lhs => unfold scan
  rw [if_neg hpad, hvalue]
  rfl

theorem scan_one (h : v < 64) :
    scan 1 left pads (digit v :: cs) = (scan 2 (v % 16) 0 cs).map ((left * 4 + v / 16) :: ·) := by
  have hpad := digit_ne_pad v h
  have hvalue := value?_digit v h
  generalize digit v = c at hpad hvalue ⊢
  conv_lhs => unfold scan
  rw [if_neg hpad, hvalue]
  rfl

theorem scan_two (h : v < 64) :
    scan 2 left pads (digit v :: cs) = (scan 3 (v % 4) 0 cs).map ((left * 16 + v / 4) :: ·) := by
  have hpad := digit_ne_pad v h
  have hvalue := value?_digit v h
  generalize digit v = c at hpad hvalue ⊢
  conv_lhs => unfold scan
  rw [if_neg hpad, hvalue]
  rfl

theorem scan_three (h : v < 64) :
    scan 3 left pads (digit v :: cs) = (scan 0 0 0 cs).map ((left * 64 + v) :: ·) := by
  have hpad := digit_ne_pad v h
  have hvalue := value?_digit v h
  generalize digit v = c at hpad hvalue ⊢
  conv_lhs => unfold scan
  rw [if_neg hpad, hvalue]
  rfl

end

/-- Padding that no group waits for is skipped. -/
theorem scan_pads (k : ℕ) : scan 0 0 0 (List.replicate k '=') = some [] := by
  induction k with
  | zero => rfl
  | succ k ih =>
    rw [List.replicate_succ]
    unfold scan
    rw [if_pos rfl, if_pos Nat.two_pos]
    exact ih

/-- **Round trip.**  A text without its padding is read back, with three characters of padding or more. -/
theorem decode_text (k : ℕ) {bytes : List ℕ} (h : ∀ b ∈ bytes, b < 256) :
    decode (text bytes ++ List.replicate (k + 3) '=') = some bytes := by
  unfold decode
  induction bytes using text.induct with
  | case1 => exact scan_pads _
  | case2 a =>
    have ha := h a (by simp)
    rw [text, List.cons_append, List.cons_append, scan_zero (by omega), scan_one (by omega), List.nil_append,
      List.replicate_succ, List.replicate_succ]
    have hone : scan 2 (a % 4 * 16 % 16) 0 ('=' :: '=' :: List.replicate (k + 1) '=') = some [] := rfl
    rw [hone, Option.map_some]
    congr 2
    omega
  | case3 a b =>
    have ha := h a (by simp)
    have hb := h b (by simp)
    rw [text, List.cons_append, List.cons_append, List.cons_append, scan_zero (by omega),
      scan_one (by omega), scan_two (by omega), List.nil_append, List.replicate_succ]
    have hone : scan 3 (b % 16 * 4 % 4) 0 ('=' :: List.replicate (k + 2) '=') = some [] := rfl
    rw [hone, Option.map_some, Option.map_some]
    congr 2
    · omega
    · congr 1
      omega
  | case4 a b c bytes ih =>
    have ha := h a (by simp)
    have hb := h b (by simp)
    have hc := h c (by simp)
    rw [text, List.cons_append, List.cons_append, List.cons_append, List.cons_append, scan_zero (by omega),
      scan_one (by omega), scan_two (by omega), scan_three (by omega), ih fun x hx => h x (by simp [hx])]
    simp only [Option.map_some]
    congr 2
    · omega
    · congr 1
      · omega
      · congr 1
        omega

/-- The characters of a text are in the alphabet. -/
theorem forall_text {P : Char → Prop} (hP : ∀ v < 64, P (digit v)) {bytes : List ℕ}
    (h : ∀ b ∈ bytes, b < 256) : ∀ c ∈ text bytes, P c := by
  induction bytes using text.induct with
  | case1 => simp [text]
  | case2 a =>
    have ha := h a (by simp)
    simp only [text, List.forall_mem_cons]
    exact ⟨hP _ (by omega), hP _ (by omega), List.forall_mem_nil _⟩
  | case3 a b =>
    have ha := h a (by simp)
    have hb := h b (by simp)
    simp only [text, List.forall_mem_cons]
    exact ⟨hP _ (by omega), hP _ (by omega), hP _ (by omega), List.forall_mem_nil _⟩
  | case4 a b c bytes ih =>
    have ha := h a (by simp)
    have hb := h b (by simp)
    have hc := h c (by simp)
    simp only [text, List.forall_mem_cons]
    exact ⟨hP _ (by omega), hP _ (by omega), hP _ (by omega), hP _ (by omega), ih fun x hx => h x (by simp [hx])⟩

/-- Stripping the padding leaves the text. -/
theorem rdropWhile_encode {bytes : List ℕ} (h : ∀ b ∈ bytes, b < 256) :
    (encode bytes).rdropWhile (· == '=') = text bytes := by
  rw [encode, List.rdropWhile, List.reverse_append, List.reverse_replicate,
    List.dropWhile_append_of_pos fun c hc => by simp [List.eq_of_mem_replicate hc]]
  have hkeep : (text bytes).reverse.dropWhile (· == '=') = (text bytes).reverse := by
    cases hr : (text bytes).reverse with
    | nil => rfl
    | cons c cs =>
      have hmem : c ∈ text bytes := List.mem_reverse.1 (hr ▸ List.mem_cons_self ..)
      exact List.dropWhile_cons_of_neg (by simpa using forall_text (P := (· ≠ '=')) digit_ne_pad h c hmem)
  rw [hkeep, List.reverse_reverse]

end Lib.Base64
