/-
  The canonical text of a JSON value: `json.dumps` with `sort_keys=True`.

  The text of a value shows its own end (`Json.dumps_delimited`), so no two
  values have one text (`Json.dumps_injective`), and two values with one
  canonical text are equal up to the order of the keys of their objects
  (`Json.canonicalJson_inj`).
-/
import Mathlib.Data.List.Sort
import Mathlib.Tactic.IntervalCases
import RoutePilot.Lib.Delimited
import RoutePilot.Model.JsonText

namespace RoutePilot

open Lib

/-- A letter of a number. -/
def isNumberLetter (c : Char) : Bool := c.isDigit || c = '-' || c = '+' || c = '.' || c = 'e'

/-- What `float.__repr__` writes: no two floats alike, and each in the letters of a number with a
    point or an exponent in it. -/
structure FloatText.Readable (F : FloatText) : Prop where
  injective : Function.Injective F.repr
  letters : ∀ q, ∀ c ∈ F.repr q, isNumberLetter c = true
  marked : ∀ q, '.' ∈ F.repr q ∨ 'e' ∈ F.repr q
  begins : ∀ q, ∃ c cs, F.repr q = c :: cs ∧ (c = '-' ∨ c.isDigit = true)

namespace Json

/-! ## Strings -/

/-- The value of a hexadecimal digit. -/
def hexValue (c : Char) : ℕ := if c.isDigit then c.toNat - 48 else c.toNat - 87

/-- One character of a string's text, read back, and what follows it. -/
def unescape : List Char → Option (Char × List Char)
  | [] => none
  | '"' :: _ => none
  | '\\' :: '"' :: rest => some ('"', rest)
  | '\\' :: '\\' :: rest => some ('\\', rest)
  | '\\' :: 'n' :: rest => some ('\n', rest)
  | '\\' :: 'r' :: rest => some ('\r', rest)
  | '\\' :: 't' :: rest => some ('\t', rest)
  | '\\' :: 'b' :: rest => some (Char.ofNat 8, rest)
  | '\\' :: 'f' :: rest => some (Char.ofNat 12, rest)
  | '\\' :: 'u' :: '0' :: '0' :: h :: l :: rest => some (Char.ofNat (16 * hexValue h + hexValue l), rest)
  | '\\' :: _ => none
  | c :: rest => some (c, rest)

theorem unescape_quote (rest : List Char) : unescape ('"' :: rest) = none := rfl

/-- A control character is escaped in a way that is read back. -/
theorem unescape_low {c : Char} (h : c.toNat < 32) (rest : List Char) :
    unescape (escapeChar c ++ rest) = some (c, rest) := by
  have hlow : ∀ n < 32, unescape (escapeChar (Char.ofNat n) ++ rest) = some (Char.ofNat n, rest) := by
    intro n hn
    interval_cases n <;> rfl
  have hc := hlow c.toNat h
  rwa [Char.ofNat_toNat] at hc

theorem unescape_escapeChar (c : Char) (rest : List Char) : unescape (escapeChar c ++ rest) = some (c, rest) := by
  by_cases hlow : c.toNat < 32
  · exact unescape_low hlow rest
  · by_cases hq : c = '"'
    · subst hq
      rfl
    · by_cases hs : c = '\\'
      · subst hs
        rfl
      · have hself : escapeChar c = [c] := by
          unfold escapeChar
          have hne : ∀ d : Char, d.toNat < 32 → c ≠ d := fun d hd hcd => hlow (hcd ▸ hd)
          rw [if_neg hq, if_neg hs, if_neg (hne '\n' (by decide)), if_neg (hne '\r' (by decide)),
            if_neg (hne '\t' (by decide)), if_neg (by omega), if_neg (by omega), if_neg hlow]
        rw [hself]
        unfold unescape
        split <;> simp_all

/-- A string's text may be followed by anything. -/
theorem encodeString_delimited (s : String) : Delimited encodeString (fun _ => True) s := by
  -- the closing quote is what no escaped character begins with
  have hchars : ∀ (cs ds rest rest' : List Char),
      cs.flatMap escapeChar ++ '"' :: rest = ds.flatMap escapeChar ++ '"' :: rest' → cs = ds ∧ rest = rest' := by
    intro cs
    induction cs with
    | nil =>
      intro ds rest rest' heq
      cases ds with
      | nil => exact ⟨rfl, (List.cons.inj heq).2⟩
      | cons d ds =>
        have hread := congrArg unescape heq
        simp [unescape_escapeChar, unescape_quote] at hread
    | cons c cs ih =>
      intro ds rest rest' heq
      have hread := congrArg unescape heq
      cases ds with
      | nil => simp [unescape_escapeChar, unescape_quote] at hread
      | cons d ds =>
        simp only [List.flatMap_cons, List.append_assoc, unescape_escapeChar, Option.some.injEq, Prod.mk.injEq] at hread
        obtain ⟨hds, hrests⟩ := ih ds rest rest' hread.2
        exact ⟨by rw [hread.1, hds], hrests⟩
  intro t rest rest' _ _ heq
  simp only [encodeString, List.cons_append, List.append_assoc, List.nil_append, List.cons.injEq, true_and] at heq
  obtain ⟨hst, hrests⟩ := hchars _ _ _ _ heq
  exact ⟨String.toList_inj.1 hst, hrests⟩

/-! ## Numbers -/

theorem toDigits_injective : Function.Injective (Nat.toDigits 10) := by
  intro n m h
  rw [← Nat.ofDigitChars_ten_toDigits (n := n), h, Nat.ofDigitChars_ten_toDigits]

theorem isDigit_of_mem_toDigits {n : ℕ} {c : Char} (h : c ∈ Nat.toDigits 10 n) : c.isDigit = true :=
  Nat.isDigit_of_mem_toDigits (by decide) (by decide) h

/-- The text of an integer: its digits, after a sign if it is negative. -/
theorem toList_toString_int (z : ℤ) :
    (toString z).toList = match z with
      | .ofNat n => Nat.toDigits 10 n
      | .negSucc n => '-' :: Nat.toDigits 10 (n + 1) := by
  cases z <;> simp [toString, Int.repr, Nat.repr]

theorem toString_int_injective {z z' : ℤ} (h : (toString z).toList = (toString z').toList) : z = z' := by
  rw [toList_toString_int, toList_toString_int] at h
  have hsign : ∀ n m : ℕ, Nat.toDigits 10 n ≠ '-' :: Nat.toDigits 10 m := by
    intro n m heq
    have hdigit : '-'.isDigit = true := isDigit_of_mem_toDigits (n := n) (heq ▸ List.mem_cons_self)
    exact absurd hdigit (by decide)
  cases z with
  | ofNat n =>
    cases z' with
    | ofNat m => rw [toDigits_injective h]
    | negSucc m => exact absurd h (hsign n (m + 1))
  | negSucc n =>
    cases z' with
    | ofNat m => exact absurd h.symm (hsign m (n + 1))
    | negSucc m =>
      have hnm := toDigits_injective (List.cons.inj h).2
      rw [Nat.succ.inj hnm]

/-- The letters of an integer are digits and the sign. -/
theorem toString_int_letters (z : ℤ) {c : Char} (h : c ∈ (toString z).toList) : c.isDigit = true ∨ c = '-' := by
  rw [toList_toString_int] at h
  cases z with
  | ofNat n => exact .inl (isDigit_of_mem_toDigits h)
  | negSucc n =>
    obtain hc | hc := List.mem_cons.1 h
    · exact .inr hc
    · exact .inl (isDigit_of_mem_toDigits hc)

theorem toString_int_begins (z : ℤ) : ∃ c cs, (toString z).toList = c :: cs ∧ (c = '-' ∨ c.isDigit = true) := by
  cases heq : (toString z).toList with
  | nil =>
    rw [toList_toString_int] at heq
    cases z with
    | ofNat n => exact absurd heq Nat.toDigits_ne_nil
    | negSucc n => cases heq
  | cons c cs => exact ⟨c, cs, rfl, (toString_int_letters z (heq ▸ List.mem_cons_self)).symm⟩

/-! ## The text of a value -/

/-- What follows the text of a value. -/
def Stop (rest : List Char) : Prop := ∀ c ∈ rest.head?, c = ',' ∨ c = ']' ∨ c = '\x7d'

/-- What a value begins with. -/
inductive Lead where
  | null | true | false | number | nan | string | array | object
  deriving DecidableEq

def lead : Json → Lead
  | null => .null
  | bool b => if b then .true else .false
  | int _ => .number
  | float _ => .number
  | nonfinite => .nan
  | str _ => .string
  | arr _ => .array
  | obj _ => .object

/-- The value that a letter begins. -/
def leadOf? (c : Char) : Option Lead :=
  if c = 'n' then some .null
  else if c = 't' then some .true
  else if c = 'f' then some .false
  else if c = 'N' then some .nan
  else if c = '"' then some .string
  else if c = '[' then some .array
  else if c = '\x7b' then some .object
  else if c = '-' ∨ c.isDigit = true then some .number
  else none

theorem leadOf?_number {c : Char} (h : c = '-' ∨ c.isDigit = true) : leadOf? c = some .number := by
  have hne : ∀ d : Char, d ≠ '-' → d.isDigit = false → c ≠ d := by
    rintro d hd hdigit rfl
    obtain rfl | h := h
    · exact hd rfl
    · rw [h] at hdigit
      cases hdigit
  unfold leadOf?
  rw [if_neg (hne 'n' (by decide) (by decide)), if_neg (hne 't' (by decide) (by decide)),
    if_neg (hne 'f' (by decide) (by decide)), if_neg (hne 'N' (by decide) (by decide)),
    if_neg (hne '"' (by decide) (by decide)), if_neg (hne '[' (by decide) (by decide)),
    if_neg (hne '\x7b' (by decide) (by decide)), if_pos h]

variable {F : FloatText} (hF : F.Readable)
include hF

theorem dumps_lead (j : Json) : ∃ c cs, dumps F j = c :: cs ∧ leadOf? c = some j.lead := by
  cases j with
  | null => exact ⟨'n', _, rfl, rfl⟩
  | bool b => cases b <;> exact ⟨_, _, rfl, rfl⟩
  | int z =>
    obtain ⟨c, cs, heq, hc⟩ := toString_int_begins z
    exact ⟨c, cs, by simp only [dumps]; exact heq, leadOf?_number hc⟩
  | float q =>
    obtain ⟨c, cs, heq, hc⟩ := hF.begins q
    exact ⟨c, cs, by simp only [dumps]; exact heq, leadOf?_number hc⟩
  | nonfinite => exact ⟨'N', _, rfl, rfl⟩
  | str s => exact ⟨'"', _, rfl, rfl⟩
  | arr items => exact ⟨'[', _, rfl, rfl⟩
  | obj fields => exact ⟨'\x7b', _, rfl, rfl⟩

/-- Two values whose texts begin alike are of one kind. -/
theorem lead_eq {a b : Json} {rest rest' : List Char} (h : dumps F a ++ rest = dumps F b ++ rest') :
    a.lead = b.lead := by
  obtain ⟨c, cs, ha, hc⟩ := dumps_lead hF a
  obtain ⟨d, ds, hb, hd⟩ := dumps_lead hF b
  rw [ha, hb] at h
  rw [(List.cons.inj h).1, hd] at hc
  exact (Option.some.inj hc).symm

/-- No value begins with what closes a list or an object. -/
theorem dumps_ne_close {close : Char} (hclose : leadOf? close = none) (j : Json) (rest rest' : List Char) :
    dumps F j ++ rest ≠ close :: rest' := by
  obtain ⟨c, cs, hj, hc⟩ := dumps_lead hF j
  intro heq
  rw [hj] at heq
  rw [(List.cons.inj heq).1, hclose] at hc
  cases hc

/-! ### Numbers -/

omit hF in
theorem Stop.not_letter {rest : List Char} (h : Stop rest) : ∀ c ∈ rest.head?, ¬ isNumberLetter c = true := by
  intro c hc
  obtain rfl | rfl | rfl := h c hc <;> decide

omit hF in
theorem int_letters (z : ℤ) : ∀ c ∈ dumps F (int z), isNumberLetter c = true := by
  intro c hc
  simp only [dumps] at hc
  obtain hdigit | rfl := toString_int_letters z hc
  · simp [isNumberLetter, hdigit]
  · decide

theorem float_letters (q : ℚ) : ∀ c ∈ dumps F (float q), isNumberLetter c = true := by
  intro c hc
  simp only [dumps] at hc
  exact hF.letters q c hc

/-- A float has a letter in it that no integer has. -/
theorem int_ne_float (z : ℤ) (q : ℚ) : dumps F (int z) ≠ dumps F (float q) := by
  intro heq
  simp only [dumps] at heq
  obtain hmark | hmark := hF.marked q
  · obtain h | h := toString_int_letters z (heq ▸ hmark) <;> exact absurd h (by decide)
  · obtain h | h := toString_int_letters z (heq ▸ hmark) <;> exact absurd h (by decide)

theorem int_delimited (z : ℤ) : Delimited (dumps F) Stop (int z) := by
  intro b rest rest' hrest hrest' heq
  have hlead := lead_eq hF heq
  cases b with
  | int z' =>
    obtain ⟨htoken, hrests⟩ := token_append_inj (int_letters z) (int_letters z') hrest.not_letter hrest'.not_letter heq
    simp only [dumps] at htoken
    exact ⟨by rw [toString_int_injective htoken], hrests⟩
  | float q =>
    obtain ⟨htoken, -⟩ :=
      token_append_inj (int_letters z) (float_letters hF q) hrest.not_letter hrest'.not_letter heq
    exact absurd htoken (int_ne_float hF z q)
  | bool b => cases b <;> cases hlead
  | _ => cases hlead

theorem float_delimited (q : ℚ) : Delimited (dumps F) Stop (float q) := by
  intro b rest rest' hrest hrest' heq
  have hlead := lead_eq hF heq
  cases b with
  | int z =>
    obtain ⟨htoken, -⟩ :=
      token_append_inj (float_letters hF q) (int_letters z) hrest.not_letter hrest'.not_letter heq
    exact absurd htoken.symm (int_ne_float hF z q)
  | float q' =>
    obtain ⟨htoken, hrests⟩ :=
      token_append_inj (float_letters hF q) (float_letters hF q') hrest.not_letter hrest'.not_letter heq
    simp only [dumps] at htoken
    exact ⟨by rw [hF.injective htoken], hrests⟩
  | bool b => cases b <;> cases hlead
  | _ => cases hlead

/-! ### Lists and objects -/

omit hF in
theorem joined_eq_separated {α : Type} (code : α → List Char) (mark : Char) :
    ∀ as : List α, joined mark (as.map code) = separated code mark as
  | [] => rfl
  | [a] => by simp [joined, separated]
  | a :: b :: as => by
    have htail := joined_eq_separated code mark (b :: as)
    simp only [List.map_cons] at htail
    simp [joined, separated, htail]

omit hF in
theorem dumpsItems_eq_map (items : List Json) : dumpsItems F items = items.map (dumps F) := by
  induction items with
  | nil => rfl
  | cons item items ih => rw [dumpsItems, ih, List.map_cons]

/-- The text of an entry of an object. -/
def dumpsField (F : FloatText) (field : String × Json) : List Char := encodeString field.1 ++ ':' :: dumps F field.2

omit hF in
theorem dumpsFields_eq_map (fields : List (String × Json)) : dumpsFields F fields = fields.map (dumpsField F) := by
  induction fields with
  | nil => rfl
  | cons field fields ih =>
    obtain ⟨key, value⟩ := field
    rw [dumpsFields, ih, List.map_cons, dumpsField]

omit hF in
theorem stop_comma (rest : List Char) : Stop (',' :: rest) := by
  intro c hc
  exact .inl (Option.some.inj hc).symm

omit hF in
theorem stop_bracket (rest : List Char) : Stop (']' :: rest) := by
  intro c hc
  exact .inr (.inl (Option.some.inj hc).symm)

omit hF in
theorem stop_brace (rest : List Char) : Stop ('\x7d' :: rest) := by
  intro c hc
  exact .inr (.inr (Option.some.inj hc).symm)

theorem arr_delimited {items : List Json} (h : ∀ item ∈ items, Delimited (dumps F) Stop item) :
    Delimited (dumps F) Stop (arr items) := by
  intro b rest rest' hrest hrest' heq
  have hlead := lead_eq hF heq
  cases b with
  | arr items' =>
    simp only [dumps, dumpsItems_eq_map, joined_eq_separated, List.cons_append, List.append_assoc,
      List.nil_append] at heq
    obtain ⟨hitems, hrests⟩ := Delimited.separated stop_comma stop_bracket (by decide)
      (fun j => dumps_ne_close hF (by decide) j) h (List.cons.inj heq).2
    exact ⟨by rw [hitems], hrests⟩
  | bool b => cases b <;> cases hlead
  | _ => cases hlead

theorem obj_delimited {fields : List (String × Json)} (h : ∀ field ∈ fields, Delimited (dumps F) Stop field.2) :
    Delimited (dumps F) Stop (obj fields) := by
  intro b rest rest' hrest hrest' heq
  have hlead := lead_eq hF heq
  cases b with
  | obj fields' =>
    simp only [dumps, dumpsFields_eq_map, joined_eq_separated, List.cons_append, List.append_assoc,
      List.nil_append] at heq
    have hfield : ∀ field ∈ fields, Delimited (dumpsField F) Stop field :=
      fun field hmem => (encodeString_delimited field.1).pair (h field hmem)
    obtain ⟨hfields, hrests⟩ := Delimited.separated stop_comma stop_brace (by decide)
      (fun field rest rest' => by simp [dumpsField, encodeString]) hfield (List.cons.inj heq).2
    exact ⟨by rw [hfields], hrests⟩
  | bool b => cases b <;> cases hlead
  | _ => cases hlead

/-! ### All values -/

omit hF

mutual

theorem dumps_delimited (hF : F.Readable) : ∀ j : Json, Delimited (dumps F) Stop j
  | null => by
    intro b rest rest' _ _ heq
    have hlead := lead_eq hF heq
    cases b with
    | null => exact ⟨rfl, List.append_cancel_left heq⟩
    | bool b => cases b <;> cases hlead
    | _ => cases hlead
  | bool x => by
    intro b rest rest' _ _ heq
    have hlead := lead_eq hF heq
    cases b with
    | bool y =>
      have hxy : x = y := by cases x <;> cases y <;> first | rfl | cases hlead
      subst hxy
      exact ⟨rfl, List.append_cancel_left heq⟩
    | _ => cases x <;> cases hlead
  | int z => int_delimited hF z
  | float q => float_delimited hF q
  | nonfinite => by
    intro b rest rest' _ _ heq
    have hlead := lead_eq hF heq
    cases b with
    | nonfinite => exact ⟨rfl, List.append_cancel_left heq⟩
    | bool b => cases b <;> cases hlead
    | _ => cases hlead
  | str s => by
    intro b rest rest' _ _ heq
    have hlead := lead_eq hF heq
    cases b with
    | str t =>
      simp only [dumps] at heq
      obtain ⟨hst, hrests⟩ := encodeString_delimited s t rest rest' trivial trivial heq
      exact ⟨by rw [hst], hrests⟩
    | bool b => cases b <;> cases hlead
    | _ => cases hlead
  | arr items => arr_delimited hF (items_delimited hF items)
  | obj fields => obj_delimited hF (fields_delimited hF fields)

theorem items_delimited (hF : F.Readable) : ∀ items : List Json, ∀ item ∈ items, Delimited (dumps F) Stop item
  | [] => nofun
  | item :: items => by
    rw [List.forall_mem_cons]
    exact ⟨dumps_delimited hF item, items_delimited hF items⟩

theorem fields_delimited (hF : F.Readable) : ∀ fields : List (String × Json), ∀ field ∈ fields,
    Delimited (dumps F) Stop field.2
  | [] => nofun
  | (key, value) :: fields => by
    rw [List.forall_mem_cons]
    exact ⟨dumps_delimited hF value, fields_delimited hF fields⟩

end

/-- No two values have one text. -/
theorem dumps_injective (hF : F.Readable) : Function.Injective (dumps F) := by
  intro a b h
  have hstop : Stop [] := nofun
  exact (dumps_delimited hF a b [] [] hstop hstop (by rw [h])).1

/-! ## Sorted keys -/

mutual

/-- The value with the keys of its objects in order (`sort_keys=True`). -/
def sortKeys : Json → Json
  | arr items => arr (sortItems items)
  | obj fields => obj ((sortFields fields).insertionSort fun a b => a.1 ≤ b.1)
  | j => j

def sortItems : List Json → List Json
  | [] => []
  | item :: items => sortKeys item :: sortItems items

def sortFields : List (String × Json) → List (String × Json)
  | [] => []
  | (key, value) :: fields => (key, sortKeys value) :: sortFields fields

end

theorem sortFields_eq_map : ∀ fields : List (String × Json),
    sortFields fields = fields.map fun field => (field.1, sortKeys field.2)
  | [] => rfl
  | (key, value) :: fields => by rw [sortFields, sortFields_eq_map fields, List.map_cons]

theorem sortItems_eq_map : ∀ items : List Json, sortItems items = items.map sortKeys
  | [] => rfl
  | item :: items => by rw [sortItems, sortItems_eq_map items, List.map_cons]

/-- Objects that are equal up to the order of keys have the same fields, each up to that order. -/
theorem perm_of_sortKeys_eq {fields fields' : List (String × Json)}
    (h : sortKeys (obj fields) = sortKeys (obj fields')) :
    (sortFields fields).Perm (sortFields fields') := by
  simp only [sortKeys, obj.injEq] at h
  have hperm := List.perm_insertionSort (fun a b : String × Json => a.1 ≤ b.1) (sortFields fields)
  rw [h] at hperm
  exact hperm.symm.trans (List.perm_insertionSort _ _)

theorem keys_perm {fields fields' : List (String × Json)} (h : sortKeys (obj fields) = sortKeys (obj fields')) :
    (fields.map Prod.fst).Perm (fields'.map Prod.fst) := by
  have hperm := (perm_of_sortKeys_eq h).map Prod.fst
  rwa [sortFields_eq_map, sortFields_eq_map, List.map_map, List.map_map] at hperm

/-- What equal objects have under a key is equal up to the order of keys. -/
theorem value_eq_of_sortKeys {fields fields' : List (String × Json)}
    (h : sortKeys (obj fields) = sortKeys (obj fields')) (hnd : (fields'.map Prod.fst).Nodup) (key : String)
    {value value' : Json} (hvalue : (key, value) ∈ fields) (hvalue' : (key, value') ∈ fields') :
    sortKeys value = sortKeys value' := by
  have hmem : (key, sortKeys value) ∈ sortFields fields' := by
    refine (perm_of_sortKeys_eq h).subset ?_
    rw [sortFields_eq_map]
    exact List.mem_map_of_mem (f := fun field => (field.1, sortKeys field.2)) hvalue
  rw [sortFields_eq_map] at hmem
  obtain ⟨⟨k, v⟩, hfield, heq⟩ := List.mem_map.1 hmem
  obtain ⟨rfl, hv⟩ := Prod.mk.inj heq
  rw [← hv, show v = value' from congrArg Prod.snd (List.inj_on_of_nodup_map hnd hfield hvalue' rfl)]

/-- Equal objects with the same keys in the same order have equal values. -/
theorem values_eq_of_sortKeys {fields fields' : List (String × Json)}
    (h : sortKeys (obj fields) = sortKeys (obj fields')) (hkeys : fields.map Prod.fst = fields'.map Prod.fst)
    (hnd : (fields'.map Prod.fst).Nodup) :
    fields.map (sortKeys ·.2) = fields'.map (sortKeys ·.2) := by
  have hlength := congrArg List.length hkeys
  rw [List.length_map, List.length_map] at hlength
  refine List.ext_getElem (by rw [List.length_map, List.length_map, hlength]) fun i hi hi' => ?_
  rw [List.length_map] at hi hi'
  have hkey : fields[i].1 = fields'[i].1 := by
    have hget := congrArg (·[i]?) hkeys
    simpa [hi, hi'] using hget
  rw [List.getElem_map, List.getElem_map]
  refine value_eq_of_sortKeys h hnd fields[i].1 (List.getElem_mem hi) ?_
  rw [hkey]
  exact List.getElem_mem hi'

/-- The sorted form of an object of distinct keys is that of any order of its fields. -/
theorem sortKeys_eq_of_perm {fields fields' : List (String × Json)} (hnd : (fields.map Prod.fst).Nodup)
    (h : (sortFields fields).Perm (sortFields fields')) : sortKeys (obj fields) = sortKeys (obj fields') := by
  have htotal : Std.Total fun a b : String × Json => a.1 ≤ b.1 := ⟨fun a b => String.le_total a.1 b.1⟩
  have htrans : IsTrans (String × Json) fun a b => a.1 ≤ b.1 := ⟨fun a b c => String.le_trans⟩
  simp only [sortKeys, obj.injEq]
  have hperm := (List.perm_insertionSort (fun a b : String × Json => a.1 ≤ b.1) (sortFields fields)).trans
    (h.trans (List.perm_insertionSort (fun a b : String × Json => a.1 ≤ b.1) (sortFields fields')).symm)
  refine hperm.eq_of_pairwise ?_ (List.pairwise_insertionSort _ _) (List.pairwise_insertionSort _ _)
  -- two fields under one key are the same field
  intro a b ha hb hab hba
  have ha' : a ∈ sortFields fields := (List.mem_insertionSort _).1 ha
  have hb' : b ∈ sortFields fields := h.mem_iff.2 ((List.mem_insertionSort _).1 hb)
  have hkeys : ((sortFields fields).map Prod.fst).Nodup := by
    rw [sortFields_eq_map, List.map_map]
    exact hnd
  exact List.inj_on_of_nodup_map hkeys ha' hb' (String.le_antisymm hab hba)

/-- Equal objects stay equal with the same fields added to both. -/
theorem sortKeys_append {fields fields' extra : List (String × Json)}
    (hnd : ((fields ++ extra).map Prod.fst).Nodup) (h : sortKeys (obj fields) = sortKeys (obj fields')) :
    sortKeys (obj (fields ++ extra)) = sortKeys (obj (fields' ++ extra)) := by
  refine sortKeys_eq_of_perm hnd ?_
  have hperm := (perm_of_sortKeys_eq h).append_right (sortFields extra)
  simpa only [sortFields_eq_map, List.map_append] using hperm

/-- `canonical_json`. -/
def canonicalJson (F : FloatText) (value : Json) : List Char := dumps F (sortKeys value)

/-- One canonical text: one value, up to the order of keys. -/
theorem canonicalJson_inj (hF : F.Readable) {a b : Json} (h : canonicalJson F a = canonicalJson F b) :
    sortKeys a = sortKeys b := dumps_injective hF h

end Json

/-- Floats as fractions, for values without floats. -/
def FloatText.fractions : FloatText where
  repr q := (toString q.num).toList ++ '.' :: Nat.toDigits 10 q.den
  oneLine q := by
    refine Json.OneLine.append (Json.toString_int_oneLine q.num) (.cons (by decide) (Json.toDigits_oneLine q.den))

theorem FloatText.fractions_readable : FloatText.fractions.Readable where
  injective := by
    intro p q h
    -- the point is where the numerator ends
    have hpoint : ∀ z : ℤ, ∀ c ∈ (toString z).toList, c ≠ '.' := by
      rintro z c hc rfl
      obtain h | h := Json.toString_int_letters z hc <;> exact absurd h (by decide)
    have hhead : ∀ r : List Char, ∀ c ∈ ('.' :: r).head?, ¬ c ≠ '.' := by
      rintro r c hc hne
      exact hne (Option.some.inj hc).symm
    obtain ⟨hnum, hden⟩ := token_append_inj (P := (· ≠ '.')) (hpoint p.num) (hpoint q.num) (hhead _) (hhead _) h
    exact Rat.ext (Json.toString_int_injective hnum) (Json.toDigits_injective (List.cons.inj hden).2)
  letters q c hc := by
    obtain hc | hc := List.mem_append.1 hc
    · obtain h | rfl := Json.toString_int_letters q.num hc
      · simp [isNumberLetter, h]
      · decide
    · obtain rfl | hc := List.mem_cons.1 hc
      · decide
      · simp [isNumberLetter, Json.isDigit_of_mem_toDigits hc]
  marked q := .inl (List.mem_append_right _ List.mem_cons_self)
  begins q := by
    obtain ⟨c, cs, heq, hc⟩ := Json.toString_int_begins q.num
    exact ⟨c, cs ++ '.' :: Nat.toDigits 10 q.den, congrArg (· ++ '.' :: Nat.toDigits 10 q.den) heq, hc⟩

end RoutePilot
