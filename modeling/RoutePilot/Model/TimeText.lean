/-
  Timestamps as text: `datetime.isoformat()` of a UTC time, and the form in
  which a model dumped for JSON has it.

  A text of digits and separators is on one line (`Time.isoformat_oneLine`).
-/
import RoutePilot.Model.JsonText
import RoutePilot.Model.RunInput

namespace RoutePilot

/-- `date.toordinal()` of the epoch. -/
def epochOrdinal : ℕ := 719_163

namespace Time

/-- The date of a timestamp. -/
def date (t : Time) : Date :=
  let ymd := ordToYmd (t / 86_400_000_000 + epochOrdinal)
  ⟨ymd.1, ymd.2.1, ymd.2.2⟩

/-- The microseconds, unless they are zero. -/
def fraction (t : Time) : String :=
  if t % 1_000_000 = 0 then "" else "." ++ padNat 6 (t % 1_000_000)

/-- The text of a timestamp, with the text of its time zone. -/
def text (zone : String) (t : Time) : String :=
  let seconds := t / 1_000_000
  (date t).isoformat ++ "T" ++ padNat 2 (seconds / 3_600 % 24) ++ ":" ++ padNat 2 (seconds / 60 % 60) ++ ":" ++
    padNat 2 (seconds % 60) ++ fraction t ++ zone

/-- `datetime.isoformat()`. -/
def isoformat (t : Time) : String := text "+00:00" t

/-- A timestamp in `model_dump(mode="json")`. -/
def dumped (t : Time) : String := text "Z" t

example : isoformat 1_700_000_000_250_000 = "2023-11-14T22:13:20.250000+00:00" := by decide +kernel

/-! ## One line -/

theorem padNat_oneLine (w n : ℕ) : Json.OneLine (padNat w n).toList := by
  unfold padNat
  rw [String.toList_append, String.toList_ofList]
  refine .append (fun c hc => ?_) ?_
  · rw [List.eq_of_mem_replicate hc]
    decide
  · have heq : (toString n).toList = Nat.toDigits 10 n := by simp [toString, Nat.repr]
    rw [heq]
    exact Json.toDigits_oneLine n

theorem date_oneLine (d : Date) : Json.OneLine d.isoformat.toList := by
  unfold Date.isoformat
  simp only [String.toList_append]
  refine .append (.append (.append (.append ?_ (by decide)) ?_) (by decide)) ?_ <;> exact padNat_oneLine _ _

theorem fraction_oneLine (t : Time) : Json.OneLine (fraction t).toList := by
  unfold fraction
  split
  · decide
  · rw [String.toList_append]
    exact .append (by decide) (padNat_oneLine _ _)

theorem text_oneLine {zone : String} (h : Json.OneLine zone.toList) (t : Time) : Json.OneLine (text zone t).toList := by
  unfold text
  simp only [String.toList_append]
  refine .append (.append (.append (.append (.append (.append (.append (.append (date_oneLine _) (by decide)) ?_)
    (by decide)) ?_) (by decide)) ?_) (fraction_oneLine t)) h <;> exact padNat_oneLine _ _

theorem isoformat_oneLine (t : Time) : Json.OneLine (isoformat t).toList := text_oneLine (by decide) t

end Time
end RoutePilot
