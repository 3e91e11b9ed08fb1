/-
  JSON values, as Python's `json` reads and writes them.

  Objects are association lists without repeated keys; `Obj.get?` is
  `dict.get` and `Obj.set` the overwriting of one key in `{**d, k: v}`.
-/
import Mathlib.Data.List.Basic
import Mathlib.Data.Rat.Defs

namespace RoutePilot

/-- A JSON value.  `int` and `float` are distinct in Python, and `nonfinite` is one of
    the `NaN` and `Infinity` literals its parser accepts. -/
inductive Json where
  | null
  | bool (b : Bool)
  | int (z : ℤ)
  | float (q : ℚ)
  | nonfinite
  | str (s : String)
  | arr (items : List Json)
  | obj (fields : List (String × Json))
  deriving Repr, Inhabited

/-- A JSON object. -/
abbrev Obj := List (String × Json)

namespace Obj

/-- `d.get(k)`. -/
def get? (d : Obj) (k : String) : Option Json := d.lookup k

/-- `{**d, k: v}`: overwrite `k` in place, or append it. -/
def set : Obj → String → Json → Obj
  | [], k, v => [(k, v)]
  | (k', w) :: d, k, v => if k' = k then (k, v) :: d else (k', w) :: set d k v

@[simp] theorem get?_set_self (d : Obj) (k : String) (v : Json) : (d.set k v).get? k = some v := by
  induction d with
  | nil => simp [set, get?]
  | cons e d ih =>
    obtain ⟨k', w⟩ := e
    by_cases h : k' = k
    · simp [set, get?, h]
    · have hk : (k == k') = false := by simpa using fun h' => h h'.symm
      simp only [get?] at ih
      simp [set, get?, h, List.lookup_cons, hk, ih]

theorem get?_set_ne {d : Obj} {k k' : String} (v : Json) (h : k' ≠ k) : (d.set k v).get? k' = d.get? k' := by
  induction d with
  | nil =>
    have hne : (k' == k) = false := by simpa using h
    simp [set, get?, List.lookup_cons, hne]
  | cons e d ih =>
    obtain ⟨key, w⟩ := e
    by_cases hk : key = k
    · subst hk
      have hne : (k' == key) = false := by simpa using h
      simp [set, get?, List.lookup_cons, hne]
    · simp only [set, if_neg hk, get?, List.lookup_cons]
      cases k' == key
      · exact ih
      · rfl

end Obj

namespace Json

/-- `isinstance(v, dict)`. -/
def isDict : Json → Bool
  | obj _ => true
  | _ => false

/-- `isinstance(v, str)`, with its value. -/
def asStr? : Json → Option String
  | str s => some s
  | _ => none

/-- `v is True`. -/
def isTrue : Json → Bool
  | bool b => b
  | _ => false

end Json
end RoutePilot
