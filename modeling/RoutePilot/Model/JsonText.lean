/-
  What Python's `json.dumps` writes, with `ensure_ascii=False` and
  `separators=(",", ":")`.

  A string is escaped so that no control character is left in it: the text of a
  value is on one line (`Json.dumps_oneLine`).  How a float is written is left
  open, but that it is on one line.
-/
import Mathlib.Data.List.Basic
import Mathlib.Tactic.Common
import RoutePilot.Model.Json

namespace RoutePilot

/-- `float.__repr__`. -/
structure FloatText where
  repr : ℚ → List Char
  oneLine : ∀ q, ∀ c ∈ repr q, 32 ≤ c.toNat

namespace Json

/-- The last digit of an escape. -/
def hexDigit (n : ℕ) : Char := if n < 10 then Char.ofNat (48 + n) else Char.ofNat (87 + n)

/-- `ESCAPE_DCT`, and the characters outside it. -/
def escapeChar (c : Char) : List Char :=
  if c = '"' then ['\\', '"']
  else if c = '\\' then ['\\', '\\']
  else if c = '\n' then ['\\', 'n']
  else if c = '\r' then ['\\', 'r']
  else if c = '\t' then ['\\', 't']
  else if c.toNat = 8 then ['\\', 'b']
  else if c.toNat = 12 then ['\\', 'f']
  else if c.toNat < 32 then ['\\', 'u', '0', '0', hexDigit (c.toNat / 16), hexDigit (c.toNat % 16)]
  else [c]

/-- `py_encode_basestring`. -/
def encodeString (s : String) : List Char := '"' :: s.toList.flatMap escapeChar ++ ['"']

/-- `separator.join(items)`. -/
def joined (separator : Char) : List (List Char) → List Char
  | [] => []
  | [item] => item
  | item :: items => item ++ separator :: joined separator items

variable (F : FloatText)

mutual

/-- `json.dumps`. -/
def dumps : Json → List Char
  | null => "null".toList
  | bool b => (if b then "true" else "false").toList
  | int z => (toString z).toList
  | float q => F.repr q
  | nonfinite => "NaN".toList
  | str s => encodeString s
  | arr items => '[' :: joined ',' (dumpsItems items) ++ [']']
  | obj fields => '\x7b' :: joined ',' (dumpsFields fields) ++ ['\x7d']

def dumpsItems : List Json → List (List Char)
  | [] => []
  | item :: items => dumps item :: dumpsItems items

def dumpsFields : List (String × Json) → List (List Char)
  | [] => []
  | (key, value) :: fields => (encodeString key ++ ':' :: dumps value) :: dumpsFields fields

end

/-! ## One line -/

/-- No control character. -/
def OneLine (cs : List Char) : Prop := ∀ c ∈ cs, 32 ≤ c.toNat

instance (cs : List Char) : Decidable (OneLine cs) := List.decidableBAll (fun c : Char => 32 ≤ c.toNat) cs

theorem OneLine.append {cs ds : List Char} (h : OneLine cs) (h' : OneLine ds) : OneLine (cs ++ ds) := by
  intro c hc
  obtain hc | hc := List.mem_append.1 hc
  · exact h c hc
  · exact h' c hc

theorem OneLine.cons {c : Char} {cs : List Char} (hc : 32 ≤ c.toNat) (h : OneLine cs) : OneLine (c :: cs) := by
  rintro d (- | ⟨-, hd⟩)
  · exact hc
  · exact h d hd

theorem OneLine.joined {separator : Char} (hs : 32 ≤ separator.toNat) :
    ∀ {items : List (List Char)}, (∀ item ∈ items, OneLine item) → OneLine (joined separator items)
  | [], _ => nofun
  | [item], h => h item List.mem_cons_self
  | item :: _ :: _, h =>
    (h item List.mem_cons_self).append
      (.cons hs (OneLine.joined hs fun i hi => h i (List.mem_cons_of_mem _ hi)))

theorem hexDigit_oneLine : ∀ n < 16, 32 ≤ (hexDigit n).toNat := by decide

theorem escapeChar_oneLine (c : Char) : OneLine (escapeChar c) := by
  unfold escapeChar
  split_ifs with _ _ _ _ _ _ _ hlow
  any_goals decide
  · have hhigh := hexDigit_oneLine (c.toNat / 16) (by omega)
    have hdigit := hexDigit_oneLine (c.toNat % 16) (by omega)
    refine .cons (by decide) (.cons (by decide) (.cons (by decide) (.cons (by decide) ?_)))
    exact .cons hhigh (.cons hdigit nofun)
  · exact .cons (Nat.le_of_not_lt hlow) nofun

theorem encodeString_oneLine (s : String) : OneLine (encodeString s) := by
  refine .cons (by decide) (OneLine.append (fun c hc => ?_) (by decide))
  obtain ⟨d, -, hc⟩ := List.mem_flatMap.1 hc
  exact escapeChar_oneLine d c hc

theorem toDigits_oneLine (n : ℕ) : OneLine (Nat.toDigits 10 n) := by
  intro c hc
  have hdigit := Nat.isDigit_of_mem_toDigits (by decide) (by decide) hc
  simp only [Char.isDigit, Bool.and_eq_true, decide_eq_true_eq, ge_iff_le, UInt32.le_iff_toNat_le] at hdigit
  exact le_trans (by decide) hdigit.1

theorem toString_int_oneLine (z : ℤ) : OneLine (toString z).toList := by
  cases z with
  | ofNat n =>
    have heq : (toString (Int.ofNat n)).toList = Nat.toDigits 10 n := by simp [toString, Int.repr, Nat.repr]
    rw [heq]
    exact toDigits_oneLine n
  | negSucc n =>
    have heq : (toString (Int.negSucc n)).toList = '-' :: Nat.toDigits 10 (n + 1) := by
      simp [toString, Int.repr, Nat.repr]
    rw [heq]
    exact .cons (by decide) (toDigits_oneLine _)

mutual

theorem dumps_oneLine : ∀ j : Json, OneLine (j.dumps F)
  | null => by simp only [dumps]; decide
  | bool true => by simp only [dumps]; decide
  | bool false => by simp only [dumps]; decide
  | int z => by simp only [dumps]; exact toString_int_oneLine z
  | float q => by simp only [dumps]; exact F.oneLine q
  | nonfinite => by simp only [dumps]; decide
  | str s => by simp only [dumps]; exact encodeString_oneLine s
  | arr items => by
    simp only [dumps]
    exact .cons (by decide) (.append (.joined (by decide) (dumpsItems_oneLine items)) (by decide))
  | obj fields => by
    simp only [dumps]
    exact .cons (by decide) (.append (.joined (by decide) (dumpsFields_oneLine fields)) (by decide))

theorem dumpsItems_oneLine : ∀ items : List Json, ∀ text ∈ dumpsItems F items, OneLine text
  | [] => by simp [dumpsItems]
  | item :: items => by
    simp only [dumpsItems, List.forall_mem_cons]
    exact ⟨dumps_oneLine item, dumpsItems_oneLine items⟩

theorem dumpsFields_oneLine : ∀ fields : List (String × Json), ∀ text ∈ dumpsFields F fields, OneLine text
  | [] => by simp [dumpsFields]
  | (key, value) :: fields => by
    simp only [dumpsFields, List.forall_mem_cons]
    exact ⟨(encodeString_oneLine key).append (.cons (by decide) (dumps_oneLine value)), dumpsFields_oneLine fields⟩

end

end Json
end RoutePilot
