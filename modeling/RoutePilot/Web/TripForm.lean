/-
  The trip form of the workbench (`travel-constraints.ts`).

  A text is a sequence of characters, of which those beyond the basic plane count
  twice in `length`.  Upper case is left open.  Of a draft without errors the form
  makes the request it sends (`buildTripRequest`).
-/
import Mathlib.Data.List.Dedup
import RoutePilot.Contracts.Calendar
import RoutePilot.Lib.Decimal
import RoutePilot.Planning.Catalog
import RoutePilot.Web.Sse

namespace RoutePilot.Web

open Lib
open Planning (stripBy)

/-! ## Texts -/

/-- `s.length` -/
def jsLength (s : String) : ℕ := (s.toList.map fun c => if c.toNat < 0x10000 then 1 else 2).sum

/-- `s.trim()` -/
def jsTrim (s : String) : String := stripBy isJsSpace s

/-- `left.localeCompare(right)`, on texts of digits. -/
def localeCompare : List Char → List Char → Ordering
  | [], [] => .eq
  | [], _ => .lt
  | _, [] => .gt
  | c :: cs, d :: ds => if c.toNat < d.toNat then .lt else if d.toNat < c.toNat then .gt else localeCompare cs ds

/-! ## Fields -/

structure TravelConstraintDraft where
  destination : String
  startDate : String
  endDate : String
  adults : String
  seniors : String
  budgetMin : String
  budgetMax : String
  currency : String
  preferences : String
  accessibilityNeeds : String

/-- `ISO_DATE`, with the numbers it finds. -/
def isoDate (value : String) : Option (ℕ × ℕ × ℕ) :=
  match value.toList with
  | [a, b, c, d, '-', e, f, '-', g, h] =>
    if [a, b, c, d, e, f, g, h].all Char.isDigit then
      some (Nat.ofDigitChars 10 [a, b, c, d] 0, Nat.ofDigitChars 10 [e, f] 0, Nat.ofDigitChars 10 [g, h] 0)
    else none
  | _ => none

/-- The date of `isRealIsoDate`.  `Date.UTC` carries months and days that are too large, and takes
    the years before 100 for those of the twentieth century: the text is then another one. -/
def realIsoDate (value : String) : Option Date :=
  match isoDate value with
  | some (year, month, day) =>
    (mkDate year month day).filter fun date => 100 ≤ year && date.isoformat == value
  | none => none

/-- The characters of `LIST_SEPARATOR`. -/
def isListSeparator (c : Char) : Bool := c ∈ [',', '，', ';', '；', '\n']

/-- `parseTextList`; a run of separators leaves empty items, which are dropped. -/
def parseTextList (value : String) : List String :=
  let items := (value.toList.splitOnP isListSeparator).map fun item => jsTrim (String.ofList item)
  ((items.filter (· ≠ "")).reverse.dedup).reverse

/-- `listError`. -/
def listError (items : List String) : Option String :=
  if 20 < items.length then some "最多填写 20 项"
  else if items.any fun item => 256 < jsLength item then some "每一项不能超过 256 个字符"
  else none

/-- `validateTraveler`. -/
def validateTraveler (value : String) : Option ℕ :=
  let digits := value.toList
  if digits ≠ [] ∧ digits.all Char.isDigit ∧ Nat.ofDigitChars 10 digits 0 ≤ 99 then
    some (Nat.ofDigitChars 10 digits 0)
  else none

/-- The first two parts of `text.split(".")`. -/
def integerPart (text : List Char) : List Char := text.takeWhile (· ≠ '.')

def fractionPart (text : List Char) : List Char := ((text.dropWhile (· ≠ '.')).drop 1).takeWhile (· ≠ '.')

/-- `text.padEnd(4, "0")` -/
def padEnd4 (text : List Char) : List Char := text ++ List.replicate (4 - text.length) '0'

/-- `compareDecimal`. -/
def compareDecimal (left right : String) : Ordering :=
  let leftInteger := integerPart left.toList
  let rightInteger := integerPart right.toList
  if leftInteger.length ≠ rightInteger.length then (if rightInteger.length < leftInteger.length then .gt else .lt)
  else match localeCompare leftInteger rightInteger with
    | .eq => localeCompare (padEnd4 (fractionPart left.toList)) (padEnd4 (fractionPart right.toList))
    | order => order

/-- A budget text of the form. -/
def isBudget (s : String) : Bool := jsLength s ≤ 32 && Decimal.isNumeral 4 s.toList

/-! ## The form -/

/-- `TripRequestInput`. -/
structure TripRequestInput where
  destination : String
  startDate : String
  endDate : String
  adults : ℕ
  seniors : ℕ
  budgetMin : String
  budgetMax : String
  currency : String
  preferences : List String
  accessibilityNeeds : List String

/-- The request as JSON. -/
def TripRequestInput.json (r : TripRequestInput) : Obj :=
  [("destination", .str r.destination), ("start_date", .str r.startDate), ("end_date", .str r.endDate),
    ("adults", .int r.adults), ("seniors", .int r.seniors), ("budget_min", .str r.budgetMin),
    ("budget_max", .str r.budgetMax), ("currency", .str r.currency), ("preferences", .arr (r.preferences.map .str)),
    ("accessibility_needs", .arr (r.accessibilityNeeds.map .str))]

/-- The errors of a draft, by field. -/
abbrev Errors := List (String × String)

/-- `errors[field] = message` under a condition. -/
def errorIf (c : Bool) (field message : String) : Errors := if c then [(field, message)] else []

section
variable (upper : String → String) (draft : TravelConstraintDraft) (today : String)

def destinationErrors : Errors :=
  let destination := jsTrim draft.destination
  if destination = "" then [("destination", "请输入目的地")]
  else errorIf (100 < jsLength destination) "destination" "目的地不能超过 100 个字符"

def dateErrors : Errors :=
  match realIsoDate draft.startDate, realIsoDate draft.endDate with
  | none, none => [("start_date", "请选择有效的出发日期"), ("end_date", "请选择有效的返程日期")]
  | none, some _ => [("start_date", "请选择有效的出发日期")]
  | some _, none =>
    errorIf (draft.startDate < today) "start_date" "出发日期不能早于今天" ++ [("end_date", "请选择有效的返程日期")]
  | some start, some finish =>
    -- the days since an epoch, as `Date.UTC` counts them
    let difference : ℤ := Date.toordinal finish - Date.toordinal start
    errorIf (draft.startDate < today) "start_date" "出发日期不能早于今天" ++
      (if difference < 0 then [("end_date", "返程日期不能早于出发日期")]
        else errorIf (30 < difference) "end_date" "单次规划最多覆盖 31 天（含首尾）")

def travelerErrors : Errors :=
  match validateTraveler draft.adults, validateTraveler draft.seniors with
  | none, none => [("adults", "成人数须为 0–99 的整数"), ("seniors", "老人数须为 0–99 的整数")]
  | none, some _ => [("adults", "成人数须为 0–99 的整数")]
  | some _, none => [("seniors", "老人数须为 0–99 的整数")]
  | some adults, some seniors => errorIf (adults + seniors < 1) "adults" "至少需要 1 位旅行者"

def budgetErrors : Errors :=
  let budgetMin := jsTrim draft.budgetMin
  let budgetMax := jsTrim draft.budgetMax
  errorIf (!isBudget budgetMin) "budget_min" "请输入非负金额，最多保留 4 位小数" ++
    errorIf (!isBudget budgetMax) "budget_max" "请输入非负金额，最多保留 4 位小数" ++
    errorIf (isBudget budgetMin && isBudget budgetMax && compareDecimal budgetMin budgetMax == .gt)
      "budget_max" "最高预算不能低于最低预算"

/-- The errors of a list that has one. -/
def listErrors (field value : String) : Errors :=
  match listError (parseTextList value) with
  | some message => [(field, message)]
  | none => []

/-- The errors that `buildTripRequest` finds. -/
def draftErrors : Errors :=
  destinationErrors draft ++ dateErrors draft today ++ travelerErrors draft ++ budgetErrors draft ++
    errorIf (!Contracts.isCurrencyCode (upper (jsTrim draft.currency))) "currency" "请选择有效的三位币种代码" ++
    listErrors "preferences" draft.preferences ++ listErrors "accessibility_needs" draft.accessibilityNeeds

/-- `buildTripRequest`, with `toUpperCase`. -/
def buildTripRequest : Except Errors TripRequestInput :=
  match draftErrors upper draft today, validateTraveler draft.adults, validateTraveler draft.seniors with
  | [], some adults, some seniors =>
    .ok
      { destination := jsTrim draft.destination, startDate := draft.startDate, endDate := draft.endDate, adults, seniors
        budgetMin := jsTrim draft.budgetMin, budgetMax := jsTrim draft.budgetMax
        currency := upper (jsTrim draft.currency)
        preferences := parseTextList draft.preferences, accessibilityNeeds := parseTextList draft.accessibilityNeeds }
  | errors, _, _ => .error errors

end

end RoutePilot.Web
