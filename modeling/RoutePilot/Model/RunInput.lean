/-
  Typed values supplied to a waiting Run (`validate_run_input_values` in
  `models.py`), with the parts of the standard library it uses: `str.strip`,
  `date.fromisoformat` and the finiteness test of `float`.
-/
import Mathlib.Algebra.Group.Nat.Defs
import RoutePilot.Model.Entities

namespace RoutePilot

/-! ## Strings -/

/-- `c.isspace()` for one character. -/
def isPySpace (c : Char) : Bool :=
  let n := c.toNat
  (9 ≤ n && n ≤ 13) || (28 ≤ n && n ≤ 32) || n == 0x85 || n == 0xA0 || n == 0x1680 ||
    (0x2000 ≤ n && n ≤ 0x200A) || n == 0x2028 || n == 0x2029 || n == 0x202F || n == 0x205F ||
    n == 0x3000

/-- `s.strip()`. -/
def pyStrip (s : String) : String :=
  String.ofList (((s.toList.dropWhile isPySpace).reverse.dropWhile isPySpace).reverse)

/-- `s.lower()`, on ASCII letters. -/
def pyLower (s : String) : String := String.ofList (s.toList.map Char.toLower)

/-- `s[:n]`. -/
def pyTake (n : ℕ) (s : String) : String := String.ofList (s.toList.take n)

/-! ## Dates -/

/-- A calendar date. -/
structure Date where
  year : ℕ
  month : ℕ
  day : ℕ
  deriving DecidableEq, Repr, Inhabited

def isLeap (y : ℕ) : Bool := y % 4 == 0 && (y % 100 != 0 || y % 400 == 0)

def daysInMonth (y m : ℕ) : ℕ :=
  if m = 2 then (if isLeap y then 29 else 28)
  else if m = 4 ∨ m = 6 ∨ m = 9 ∨ m = 11 then 30 else 31

/-- The range checks of the `date` constructor. -/
def mkDate (y m d : ℕ) : Option Date :=
  if 1 ≤ y ∧ y ≤ 9999 ∧ 1 ≤ m ∧ m ≤ 12 ∧ 1 ≤ d ∧ d ≤ daysInMonth y m then some ⟨y, m, d⟩ else none

/-- Days before 1 January of year `y`. -/
def daysBeforeYear (y : ℕ) : ℕ := (y - 1) * 365 + (y - 1) / 4 - (y - 1) / 100 + (y - 1) / 400

/-- Month and day of the `n`-th day (from 0) of a year, counting from month `m`. -/
def monthDay (y : ℕ) : ℕ → ℕ → ℕ → ℕ × ℕ
  | 0, m, n => (m, n + 1)
  | fuel + 1, m, n =>
    if n < daysInMonth y m then (m, n + 1) else monthDay y fuel (m + 1) (n - daysInMonth y m)

/-- The date with proleptic Gregorian ordinal `n` (`1` is 1 January of year 1). -/
def ordToYmd (n : ℕ) : ℕ × ℕ × ℕ :=
  let k := n - 1
  let n400 := k / 146097
  let k := k % 146097
  let n100 := k / 36524
  let k₁ := k % 36524
  let n4 := k₁ / 1461
  let k₂ := k₁ % 1461
  let n1 := k₂ / 365
  let k₃ := k₂ % 365
  let y := n400 * 400 + n100 * 100 + n4 * 4 + n1 + 1
  if n1 = 4 ∨ n100 = 4 then (y - 1, 12, 31) else
    let md := monthDay y 11 1 k₃
    (y, md.1, md.2)

/-- The weekday of an ordinal, Monday being `0`. -/
def weekdayOfOrd (n : ℕ) : ℕ := (n + 6) % 7

/-- The ordinal of the Monday of ISO week 1 of year `y` (week 1 of year 1 starts on day 1). -/
def isoWeek1Monday (y : ℕ) : ℕ :=
  let first := daysBeforeYear y + 1
  let w := weekdayOfOrd first
  if 3 < w then first - w + 7 else first - w

/-- An ISO calendar date: year, week, weekday. -/
def isoToDate (y week day : ℕ) : Option Date :=
  let firstWeekday := weekdayOfOrd (daysBeforeYear y + 1)
  let weekOk := (1 ≤ week && week ≤ 52) ||
    (week == 53 && (firstWeekday == 3 || (firstWeekday == 2 && isLeap y)))
  if y = 0 ∨ !weekOk ∨ ¬ (1 ≤ day ∧ day ≤ 7) then none else
    let ymd := ordToYmd (isoWeek1Monday y + (week - 1) * 7 + day - 1)
    mkDate ymd.1 ymd.2.1 ymd.2.2

/-- Parse exactly `n` ASCII digits. -/
def parseDigits : ℕ → ℕ → List Char → Option (ℕ × List Char)
  | 0, acc, cs => some (acc, cs)
  | _ + 1, _, [] => none
  | n + 1, acc, c :: cs =>
    if '0' ≤ c ∧ c ≤ '9' then parseDigits n (acc * 10 + (c.toNat - 48)) cs else none

/-- Skip the separator `-` if the date uses separators. -/
def skipSep (sep : Bool) (cs : List Char) : Option (List Char) :=
  if sep then (match cs with
    | '-' :: cs => some cs
    | _ => none) else some cs

/-- `date.fromisoformat` (CPython's C parser: 7, 8 or 10 bytes, a calendar or an ISO week
    date, with or without separators). -/
def dateFromIsoformat (s : String) : Option Date := do
  guard (s.utf8ByteSize = 7 ∨ s.utf8ByteSize = 8 ∨ s.utf8ByteSize = 10)
  let (y, cs) ← parseDigits 4 0 s.toList
  let sep := cs.head? == some '-'
  let cs := if sep then cs.tail else cs
  if cs.head? == some 'W' then
    let (w, cs) ← parseDigits 2 0 cs.tail
    if cs.isEmpty then isoToDate y w 1
    else
      let cs ← skipSep sep cs
      let (d, _) ← parseDigits 1 0 cs
      isoToDate y w d
  else
    let (m, cs) ← parseDigits 2 0 cs
    let cs ← skipSep sep cs
    let (d, _) ← parseDigits 2 0 cs
    mkDate y m d

/-- `n` in decimal, padded with zeros to `w` digits. -/
def padNat (w n : ℕ) : String :=
  let s := toString n
  String.ofList (List.replicate (w - s.length) '0') ++ s

/-- `date.isoformat()`. -/
def Date.isoformat (d : Date) : String := padNat 4 d.year ++ "-" ++ padNat 2 d.month ++ "-" ++ padNat 2 d.day

/-! ## Field values -/

/-- The exceptions of the field checks: `ValueError`, or the `OverflowError` of `float(n)` on an
    integer beyond the range of doubles, which no caller handles. -/
inductive InputError where
  | valueError (message : String)
  | overflowError
  deriving DecidableEq, Repr

/-- Integers from here on are rounded to infinity by `float`. -/
def floatOverflow : ℕ := 2 ^ 1024 - 2 ^ 970

/-- Check and normalize the value of one field. -/
def normalizeValue (field : RunInputField) (value : Json) : Except InputError Json :=
  match field.inputType, value with
  | .text, .str s =>
    if (pyStrip s).isEmpty || 2000 < s.length then
      .error (.valueError "text input must contain 1 to 2000 characters")
    else .ok (.str (pyStrip s))
  | .text, _ => .error (.valueError "text input must contain 1 to 2000 characters")
  | .date, .str s =>
    match dateFromIsoformat s with
    | some d => .ok (.str d.isoformat)
    | none => .error (.valueError "date input must be an ISO date")
  | .date, _ => .error (.valueError "date input must be an ISO date")
  | .number, .int z => if z.natAbs < floatOverflow then .ok value else .error .overflowError
  | .number, .float _ => .ok value
  | .number, _ => .error (.valueError "number input must be finite")
  | .singleSelect, .str s =>
    if field.options.contains s then .ok value
    else .error (.valueError "single-select input is not an allowed option")
  | .singleSelect, _ => .error (.valueError "single-select input is not an allowed option")
  | .multiSelect, .arr items =>
    if items.any (fun i => match i.asStr? with
        | some s => !field.options.contains s
        | none => true) || !decide (items.filterMap Json.asStr?).Nodup then
      .error (.valueError "multi-select input contains invalid options")
    else .ok value
  | .multiSelect, _ => .error (.valueError "multi-select input contains invalid options")
  | .confirmation, .bool _ => .ok value
  | .confirmation, _ => .error (.valueError "confirmation input must be boolean")

/-- Validate a resume payload against the exact persisted public schema. -/
def validateRunInputValues (pending : RunPendingInput) (values : Obj) : Except InputError Obj :=
  let field? (id : String) := pending.fields.reverse.find? (·.fieldId == id)
  if values.any fun kv => (field? kv.1).isNone then
    .error (.valueError "resume input contains unknown fields")
  else if pending.fields.any fun f => f.required && (values.get? f.fieldId).isNone then
    .error (.valueError "resume input is missing required fields")
  else values.mapM fun kv =>
    match field? kv.1 with
    | some f => (normalizeValue f kv.2).map fun v => (kv.1, v)
    | none => .error (.valueError "resume input contains unknown fields")

/-! ## What is accepted -/

/-- The values of a field's type. -/
def RunInputField.Accepts (field : RunInputField) : Json → Prop
  | .str s => match field.inputType with
    | .text => ∃ t : String, s = pyStrip t ∧ s.isEmpty = false ∧ t.length ≤ 2000
    | .date => ∃ d t, dateFromIsoformat t = some d ∧ s = d.isoformat
    | .singleSelect => s ∈ field.options
    | _ => False
  | .int z => field.inputType = .number ∧ z.natAbs < floatOverflow
  | .float _ => field.inputType = .number
  | .bool _ => field.inputType = .confirmation
  | .arr items => field.inputType = .multiSelect ∧ (items.filterMap Json.asStr?).Nodup ∧
      ∀ i ∈ items, ∃ s ∈ field.options, i = .str s
  | _ => False

theorem normalizeValue_ok {field : RunInputField} {value v : Json}
    (h : normalizeValue field value = .ok v) : field.Accepts v := by
  unfold normalizeValue at h
  split at h
  · next s ht =>
    split at h
    · cases h
    · next hno =>
      cases h
      simp only [Bool.or_eq_true, decide_eq_true_eq, not_or, Bool.not_eq_true, not_lt] at hno
      simp only [RunInputField.Accepts, ht]
      exact ⟨s, rfl, hno.1, hno.2⟩
  · cases h
  · next s ht =>
    split at h
    · next d hd =>
      cases h
      simp only [RunInputField.Accepts, ht]
      exact ⟨d, s, hd, rfl⟩
    · cases h
  · cases h
  · next z ht =>
    split at h
    · next hz => cases h; exact ⟨ht, hz⟩
    · cases h
  · next ht => cases h; exact ht
  · cases h
  · next s ht =>
    split at h
    · next hs =>
      cases h
      simp only [RunInputField.Accepts, ht]
      simpa using hs
    · cases h
  · cases h
  · next items ht =>
    split at h
    · cases h
    · next hno =>
      cases h
      simp only [Bool.or_eq_true, not_or, Bool.not_eq_true, List.any_eq_false,
        Bool.not_eq_false', decide_eq_true_eq] at hno
      refine ⟨ht, hno.2, fun i hi => ?_⟩
      have := hno.1 i hi
      cases i with
      | str s => exact ⟨s, by simpa [Json.asStr?] using this, rfl⟩
      | _ => simp [Json.asStr?] at this
  · cases h
  · next ht => cases h; exact ht
  · cases h

/-- The values answer a request: their fields are known, the required ones are there, and every
    value is one of its field's type. -/
structure RunPendingInput.Answered (pending : RunPendingInput) (values : Obj) : Prop where
  known : ∀ kv ∈ values, ∃ f ∈ pending.fields, f.fieldId = kv.1 ∧ f.Accepts kv.2
  required : ∀ f ∈ pending.fields, f.required = true → f.fieldId ∈ values.map (·.1)

section
variable {α β γ ε : Type} {f : α → Except ε β}

theorem mapM_cons_ok {a : α} {as : List α} {bs : List β} (h : (a :: as).mapM f = .ok bs) :
    ∃ b bs', bs = b :: bs' ∧ f a = .ok b ∧ as.mapM f = .ok bs' := by
  rw [List.mapM_cons] at h
  cases ha : f a with
  | error e => rw [ha] at h; cases h
  | ok b =>
    cases has : as.mapM f with
    | error e => rw [ha, has] at h; cases h
    | ok bs' => rw [ha, has] at h; cases h; exact ⟨b, bs', rfl, rfl, rfl⟩

theorem mem_of_mapM_ok {as : List α} {bs : List β} (h : as.mapM f = .ok bs) {b : β} (hb : b ∈ bs) :
    ∃ a ∈ as, f a = .ok b := by
  induction as generalizing bs with
  | nil => cases h; cases hb
  | cons a as ih =>
    obtain ⟨b', bs', rfl, ha, has⟩ := mapM_cons_ok h
    rcases List.mem_cons.1 hb with rfl | hb
    · exact ⟨a, List.mem_cons_self, ha⟩
    · obtain ⟨a', ha', hf⟩ := ih has hb
      exact ⟨a', List.mem_cons_of_mem _ ha', hf⟩

theorem map_of_mapM_ok {g : α → γ} {g' : β → γ} (hg : ∀ a b, f a = .ok b → g' b = g a)
    {as : List α} {bs : List β} (h : as.mapM f = .ok bs) : bs.map g' = as.map g := by
  induction as generalizing bs with
  | nil => cases h; rfl
  | cons a as ih =>
    obtain ⟨b, bs', rfl, ha, has⟩ := mapM_cons_ok h
    rw [List.map_cons, List.map_cons, hg a b ha, ih has]

end

/-- A key that is present is one of the keys. -/
theorem Obj.mem_keys_of_get? {d : Obj} {k : String} (h : (d.get? k).isSome) : k ∈ d.map (·.1) := by
  induction d with
  | nil => cases h
  | cons e d ih =>
    obtain ⟨k', v⟩ := e
    by_cases hk : k = k'
    · simp [hk]
    · have hne : (k == k') = false := by simpa using hk
      rw [Obj.get?, List.lookup_cons, hne] at h
      exact List.mem_cons_of_mem _ (ih h)

theorem validateRunInputValues_ok {pending : RunPendingInput} {supplied values : Obj}
    (h : validateRunInputValues pending supplied = .ok values) :
    pending.Answered values ∧ values.map (·.1) = supplied.map (·.1) := by
  unfold validateRunInputValues at h
  simp only at h
  split at h
  · cases h
  · split at h
    · cases h
    · next hreq =>
      -- each value keeps its key and is normalized by its field
      have hkv : ∀ kv kv' : String × Json, (match pending.fields.reverse.find? (·.fieldId == kv.1) with
          | some f => (normalizeValue f kv.2).map fun v => (kv.1, v)
          | none => .error (.valueError "resume input contains unknown fields")) = .ok kv' →
          kv'.1 = kv.1 ∧ ∃ f ∈ pending.fields, f.fieldId = kv.1 ∧ f.Accepts kv'.2 := by
        intro kv kv' hkv
        split at hkv
        · next f hf =>
          cases hn : normalizeValue f kv.2 with
          | error e => rw [hn] at hkv; cases hkv
          | ok v =>
            rw [hn] at hkv
            cases hkv
            have hid := List.find?_some hf
            have hmem := List.mem_of_find?_eq_some hf
            exact ⟨rfl, f, List.mem_reverse.1 hmem, by simpa using hid, normalizeValue_ok hn⟩
        · cases hkv
      have hkeys : values.map (·.1) = supplied.map (·.1) :=
        map_of_mapM_ok (fun kv kv' hok => (hkv kv kv' hok).1) h
      refine ⟨⟨fun kv' hkv' => ?_, fun f hf hr => ?_⟩, hkeys⟩
      · obtain ⟨kv, -, hok⟩ := mem_of_mapM_ok h hkv'
        obtain ⟨hk, f, hf, hid, hacc⟩ := hkv kv kv' hok
        exact ⟨f, hf, by rw [hid, hk], hacc⟩
      · rw [hkeys]
        refine Obj.mem_keys_of_get? ?_
        by_contra hnone
        refine hreq (List.any_eq_true.2 ⟨f, hf, ?_⟩)
        simp only [hr, Bool.true_and]
        simpa using hnone

end RoutePilot
