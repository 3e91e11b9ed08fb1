/-
  Texts of JavaScript, as the code units they are sequences of: how `JSON.stringify`
  writes them, and their bytes.

  The two halves of a surrogate pair stay together; a half alone is escaped, as control
  characters are, and is U+FFFD in UTF-8.
-/
import Mathlib.Data.List.Basic
import Mathlib.Data.Rat.Defs

namespace RoutePilot.Web

/-- A text, by its UTF-16 code units. -/
abbrev JsString := List UInt16

/-- The code units of a text of ASCII characters. -/
def units (s : String) : JsString := s.toList.map fun c => UInt16.ofNat c.toNat

theorem length_units (s : String) : (units s).length = s.length := by
  rw [units, List.length_map, String.length_toList]

/-- What `JSON.parse` returns. -/
inductive JsValue where
  | null
  | bool (b : Bool)
  | number (q : ℚ)
  | string (s : JsString)
  | array (items : List JsValue)
  | object (fields : List (JsString × JsValue))

/-- `value[key]`; what is no object has none of the names that are looked for. -/
def JsValue.get? (value : JsValue) (key : String) : Option JsValue :=
  match value with
  | .object fields => fields.lookup (units key)
  | _ => none

/-! ## `JSON.stringify` -/

/-- The first half of a surrogate pair. -/
def isHigh (u : UInt16) : Bool := 0xD800 ≤ u.toNat && u.toNat ≤ 0xDBFF

/-- The second half of a surrogate pair. -/
def isLow (u : UInt16) : Bool := 0xDC00 ≤ u.toNat && u.toNat ≤ 0xDFFF

def hexDigit (n : ℕ) : UInt16 := if n < 10 then UInt16.ofNat (0x30 + n) else UInt16.ofNat (0x57 + n)

/-- `\uXXXX` -/
def unicodeEscape (u : UInt16) : JsString :=
  [0x5C, 0x75, hexDigit (u.toNat / 0x1000), hexDigit (u.toNat / 0x100 % 0x10), hexDigit (u.toNat / 0x10 % 0x10),
    hexDigit (u.toNat % 0x10)]

/-- The letter of a control character, a quotation mark or a backslash with a short escape. -/
def shortEscape (u : UInt16) : Option UInt16 :=
  if u = 0x08 then some 0x62
  else if u = 0x09 then some 0x74
  else if u = 0x0A then some 0x6E
  else if u = 0x0C then some 0x66
  else if u = 0x0D then some 0x72
  else if u = 0x22 ∨ u = 0x5C then some u
  else none

/-- What a code unit that is not part of a surrogate pair becomes. -/
def escapeUnit (u : UInt16) : JsString :=
  match shortEscape u with
  | some letter => [0x5C, letter]
  | none => if u.toNat < 0x20 ∨ isHigh u ∨ isLow u then unicodeEscape u else [u]

/-- The text between the quotation marks. -/
def escape : JsString → JsString
  | [] => []
  | [u] => escapeUnit u
  | u :: v :: s => if isHigh u ∧ isLow v then u :: v :: escape s else escapeUnit u ++ escape (v :: s)

/-- `JSON.stringify` of a text. -/
def quote (s : JsString) : JsString := 0x22 :: (escape s ++ [0x22])

/-! ## Lengths -/

/-- The code units that a code unit becomes. -/
def unitLength (u : UInt16) : ℕ :=
  if (shortEscape u).isSome then 2 else if u.toNat < 0x20 ∨ isHigh u ∨ isLow u then 6 else 1

/-- The code units that a text becomes: two for a surrogate pair and for a character with a short escape, six for
    another control character and for half a pair, and one for any other. -/
def escapedLength : JsString → ℕ
  | [] => 0
  | [u] => unitLength u
  | u :: v :: s => if isHigh u ∧ isLow v then 2 + escapedLength s else unitLength u + escapedLength (v :: s)

theorem length_escapeUnit (u : UInt16) : (escapeUnit u).length = unitLength u := by
  unfold escapeUnit unitLength
  cases shortEscape u with
  | some letter => rfl
  | none =>
    dsimp only
    split <;> rfl

theorem length_escape (s : JsString) : (escape s).length = escapedLength s := by
  induction s using escape.induct with
  | case1 => rfl
  | case2 u => exact length_escapeUnit u
  | case3 u v s h ih =>
    rw [escape, escapedLength, if_pos h, if_pos h, List.length_cons, List.length_cons, ih]
    omega
  | case4 u v s h ih =>
    rw [escape, escapedLength, if_neg h, if_neg h, List.length_append, length_escapeUnit, ih]

theorem length_quote (s : JsString) : (quote s).length = escapedLength s + 2 := by
  rw [quote, List.length_cons, List.length_append, length_escape]
  rfl

/-- Copies of one code unit that is no surrogate. -/
theorem escapedLength_replicate {u : UInt16} (h : isHigh u = false) (n : ℕ) :
    escapedLength (List.replicate n u) = n * unitLength u := by
  induction n with
  | zero => simp [escapedLength]
  | succ n ih =>
    cases n with
    | zero => simp [escapedLength, List.replicate_succ]
    | succ n =>
      rw [List.replicate_succ, List.replicate_succ, escapedLength, if_neg (by simp [h]), ← List.replicate_succ, ih]
      rw [Nat.succ_mul (n + 1), Nat.add_comm]

/-! ## Bytes -/

/-- The bytes of a code unit that is not part of a surrogate pair. -/
def utf8Unit (u : UInt16) : List UInt8 :=
  let n := u.toNat
  if isHigh u ∨ isLow u then [0xEF, 0xBF, 0xBD]
  else if n < 0x80 then [UInt8.ofNat n]
  else if n < 0x800 then [UInt8.ofNat (0xC0 + n / 0x40), UInt8.ofNat (0x80 + n % 0x40)]
  else [UInt8.ofNat (0xE0 + n / 0x1000), UInt8.ofNat (0x80 + n / 0x40 % 0x40), UInt8.ofNat (0x80 + n % 0x40)]

/-- The bytes of a surrogate pair. -/
def utf8Pair (u v : UInt16) : List UInt8 :=
  let n := 0x10000 + (u.toNat - 0xD800) * 0x400 + (v.toNat - 0xDC00)
  [UInt8.ofNat (0xF0 + n / 0x40000), UInt8.ofNat (0x80 + n / 0x1000 % 0x40), UInt8.ofNat (0x80 + n / 0x40 % 0x40),
    UInt8.ofNat (0x80 + n % 0x40)]

/-- `Buffer.from(s, "utf8")` -/
def utf8 : JsString → List UInt8
  | [] => []
  | [u] => utf8Unit u
  | u :: v :: s => if isHigh u ∧ isLow v then utf8Pair u v ++ utf8 s else utf8Unit u ++ utf8 (v :: s)

/-- The bytes that a code unit becomes in a text of `JSON.stringify`. -/
def unitBytes (u : UInt16) : ℕ :=
  if (shortEscape u).isSome then 2
  else if u.toNat < 0x20 ∨ isHigh u ∨ isLow u then 6
  else if u.toNat < 0x80 then 1
  else if u.toNat < 0x800 then 2
  else 3

/-- The bytes that a text becomes in a text of `JSON.stringify`: two for a character with a short escape, six for
    another control character and for half a surrogate pair, four for a pair, and one, two or three for any other. -/
def escapedBytes : JsString → ℕ
  | [] => 0
  | [u] => unitBytes u
  | u :: v :: s => if isHigh u ∧ isLow v then 4 + escapedBytes s else unitBytes u + escapedBytes (v :: s)

theorem utf8_cons {u : UInt16} (h : isHigh u = false) (s : JsString) : utf8 (u :: s) = utf8Unit u ++ utf8 s := by
  cases s with
  | nil => rw [utf8, utf8, List.append_nil]
  | cons v s => rw [utf8, if_neg (by simp [h])]

/-- Copies of one code unit that is no surrogate. -/
theorem escapedBytes_replicate {u : UInt16} (h : isHigh u = false) (n : ℕ) :
    escapedBytes (List.replicate n u) = n * unitBytes u := by
  induction n with
  | zero => simp [escapedBytes]
  | succ n ih =>
    cases n with
    | zero => simp [escapedBytes, List.replicate_succ]
    | succ n =>
      rw [List.replicate_succ, List.replicate_succ, escapedBytes, if_neg (by simp [h]), ← List.replicate_succ, ih]
      rw [Nat.succ_mul (n + 1), Nat.add_comm]

/-- A text without first halves of surrogate pairs, before another. -/
theorem utf8_append {s : JsString} (h : ∀ u ∈ s, isHigh u = false) (t : JsString) :
    utf8 (s ++ t) = s.flatMap utf8Unit ++ utf8 t := by
  induction s with
  | nil => rfl
  | cons u s ih =>
    rw [List.cons_append, utf8_cons (h u List.mem_cons_self), ih fun v hv => h v (List.mem_cons_of_mem _ hv),
      List.flatMap_cons, List.append_assoc]

theorem hexDigit_small {n : ℕ} (h : n < 16) : (hexDigit n).toNat < 0x80 := by
  unfold hexDigit
  split <;> simp <;> omega

/-- A code unit of ASCII is one byte. -/
theorem length_utf8Unit_of_lt {u : UInt16} (h : u.toNat < 0x80) : (utf8Unit u).length = 1 := by
  unfold utf8Unit isHigh isLow
  dsimp only
  rw [if_neg (by simp; omega), if_pos h]
  rfl

theorem isHigh_of_lt {u : UInt16} (h : u.toNat < 0x80) : isHigh u = false := by
  unfold isHigh
  simp
  omega

theorem length_flatMap_utf8Unit {s : JsString} (h : ∀ u ∈ s, u.toNat < 0x80) :
    (s.flatMap utf8Unit).length = s.length := by
  induction s with
  | nil => rfl
  | cons u s ih =>
    rw [List.flatMap_cons, List.length_append, length_utf8Unit_of_lt (h u List.mem_cons_self),
      ih fun v hv => h v (List.mem_cons_of_mem _ hv), List.length_cons, Nat.add_comm]

/-- A text of ASCII before another. -/
theorem length_utf8_append {s : JsString} (h : ∀ u ∈ s, u.toNat < 0x80) (t : JsString) :
    (utf8 (s ++ t)).length = s.length + (utf8 t).length := by
  rw [utf8_append fun u hu => isHigh_of_lt (h u hu), List.length_append, length_flatMap_utf8Unit h]

theorem unicodeEscape_small {u : UInt16} : ∀ v ∈ unicodeEscape u, v.toNat < 0x80 := by
  have hu := u.toNat_lt
  unfold unicodeEscape
  simp only [List.forall_mem_cons, List.not_mem_nil, IsEmpty.forall_iff, implies_true, and_true]
  exact ⟨by decide, by decide, hexDigit_small (by omega), hexDigit_small (by omega), hexDigit_small (by omega),
    hexDigit_small (by omega)⟩

theorem shortEscape_small {u letter : UInt16} (h : shortEscape u = some letter) : letter.toNat < 0x80 := by
  unfold shortEscape at h
  repeat' split at h
  all_goals cases h
  all_goals try decide
  rename_i hu
  rcases hu with rfl | rfl <;> decide

/-- What one code unit becomes, before another text. -/
theorem length_utf8_escapeUnit (u : UInt16) (t : JsString) :
    (utf8 (escapeUnit u ++ t)).length = unitBytes u + (utf8 t).length := by
  unfold escapeUnit unitBytes
  cases hshort : shortEscape u with
  | some letter =>
    dsimp only
    rw [length_utf8_append]
    · rfl
    · intro v hv
      simp only [List.mem_cons, List.not_mem_nil, or_false] at hv
      rcases hv with rfl | rfl
      · decide
      · exact shortEscape_small hshort
  | none =>
    dsimp only
    by_cases hspecial : u.toNat < 0x20 ∨ isHigh u ∨ isLow u
    · rw [if_pos hspecial, if_pos hspecial, length_utf8_append unicodeEscape_small]
      rfl
    · rw [if_neg hspecial, if_neg hspecial]
      obtain ⟨-, hsurrogate⟩ := not_or.1 hspecial
      obtain ⟨hhigh, -⟩ := not_or.1 hsurrogate
      rw [List.singleton_append, utf8_cons (by simpa using hhigh), List.length_append]
      congr 1
      unfold utf8Unit
      dsimp only
      rw [if_neg hsurrogate]
      simp only [Option.isSome_none, Bool.false_eq_true, if_false]
      split
      · rfl
      · split <;> rfl

/-- **The bytes of an escaped text, before another.** -/
theorem length_utf8_escape (s t : JsString) : (utf8 (escape s ++ t)).length = escapedBytes s + (utf8 t).length := by
  induction s using escape.induct with
  | case1 => simp [escape, escapedBytes]
  | case2 u => exact length_utf8_escapeUnit u t
  | case3 u v s h ih =>
    rw [escape, escapedBytes, if_pos h, if_pos h, List.cons_append, List.cons_append, utf8, if_pos h,
      List.length_append, ih]
    show 4 + _ = _
    omega
  | case4 u v s h ih =>
    rw [escape, escapedBytes, if_neg h, if_neg h, List.append_assoc, length_utf8_escapeUnit, ih]
    omega

end RoutePilot.Web
