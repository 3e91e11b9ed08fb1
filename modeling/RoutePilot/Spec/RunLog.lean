/-
  What a store keeps about Runs, abstractly: each Run with its events.

  A step accepts a new Run with its first event, or moves one Run to its next
  control version and appends one event.  The stores number the events by two
  different rules, so the rule is a parameter (`LogStep number`); whichever it
  is, the events of a Run are numbered `1` to its control version.
-/
import Mathlib.Logic.Function.Basic
import RoutePilot.Model.Entities

namespace RoutePilot

/-- The Runs of a store, each with its events in the order of their appending. -/
abbrev RunLog := String → Option (RunView × List RunEvent)

/-- A rule that numbers the next event of a Run. -/
abbrev Numbering := RunView → List RunEvent → ℕ

/-- The in-memory rule: the length of the list plus one. -/
def byLength : Numbering := fun _ events => events.length + 1

/-- The PostgreSQL rule: the new control version. -/
def byVersion : Numbering := fun run _ => run.controlVersion + 1

/-- The control version an event carries in its data. -/
def RunEvent.dataVersion (e : RunEvent) : Option Json := e.data.get? "control_version"

/-- One step of the log. -/
inductive LogStep (number : Numbering) (L L' : RunLog) : Prop
  | same (h : L' = L)
  | accepted (run : RunView) (e : RunEvent) (hversion : run.controlVersion = 1) (hseq : e.seq = 1)
      (htype : e.type = .runAccepted) (hdata : e.dataVersion = some (.int 1))
      (h : L' = Function.update L run.runId (some (run, [e])))
  | appended (run run' : RunView) (events : List RunEvent) (e : RunEvent)
      (hrun : L run.runId = some (run, events)) (hid : run'.runId = run.runId)
      (hversion : run'.controlVersion = run.controlVersion + 1)
      (hseq : e.seq = number run events)
      (hdata : e.dataVersion = some (.int (run.controlVersion + 1 : ℕ)))
      (h : L' = Function.update L run.runId (some (run', events ++ [e])))

/-- The events of a Run are numbered from `1` to its control version, carry their number as
    control version, and start with `run.accepted`. -/
structure Numbered (run : RunView) (events : List RunEvent) : Prop where
  length : events.length = run.controlVersion
  seq : ∀ (i : ℕ) (e : RunEvent), events[i]? = some e → e.seq = i + 1
  data : ∀ (i : ℕ) (e : RunEvent), events[i]? = some e → e.dataVersion = some (.int (i + 1 : ℕ))
  first : ∃ e, events.head? = some e ∧ e.type = .runAccepted

theorem Numbered.accepted {run : RunView} {e : RunEvent} (hversion : run.controlVersion = 1)
    (hseq : e.seq = 1) (htype : e.type = .runAccepted) (hdata : e.dataVersion = some (.int 1)) :
    Numbered run [e] where
  length := by rw [hversion]; rfl
  seq i e' h := by
    obtain ⟨rfl, rfl⟩ : i = 0 ∧ e = e' := by cases i <;> simp_all
    exact hseq
  data i e' h := by
    obtain ⟨rfl, rfl⟩ : i = 0 ∧ e = e' := by cases i <;> simp_all
    exact hdata
  first := ⟨e, rfl, htype⟩

theorem Numbered.appended {run run' : RunView} {events : List RunEvent} {e : RunEvent}
    (h : Numbered run events) (hversion : run'.controlVersion = run.controlVersion + 1)
    (hseq : e.seq = run.controlVersion + 1)
    (hdata : e.dataVersion = some (.int (run.controlVersion + 1 : ℕ))) :
    Numbered run' (events ++ [e]) := by
  -- the new event is the one at the old length, every other one keeps its place
  have hsplit : ∀ i e', (events ++ [e])[i]? = some e' →
      events[i]? = some e' ∨ i = run.controlVersion ∧ e = e' := by
    intro i e' hi
    rw [List.getElem?_append] at hi
    split at hi
    · exact .inl hi
    · next hlt =>
      rw [List.getElem?_singleton] at hi
      split at hi
      · next h0 => exact .inr ⟨by have := h.length; omega, by simpa using hi⟩
      · cases hi
  refine ⟨?_, ?_, ?_, ?_⟩
  · rw [List.length_append, h.length, hversion]; rfl
  · intro i e' hi
    obtain hi | ⟨rfl, rfl⟩ := hsplit i e' hi
    · exact h.seq i e' hi
    · exact hseq
  · intro i e' hi
    obtain hi | ⟨rfl, rfl⟩ := hsplit i e' hi
    · exact h.data i e' hi
    · exact hdata
  · obtain ⟨e₀, h₀, ht⟩ := h.first
    refine ⟨e₀, ?_, ht⟩
    rw [List.head?_append, h₀]; rfl

/-- Both rules give the next event the new control version. -/
theorem Numbered.byLength_eq {run : RunView} {events : List RunEvent} (h : Numbered run events) :
    byLength run events = byVersion run events := by
  rw [byLength, byVersion, h.length]

/-- The numbers of the events are determined by the control version. -/
theorem Numbered.map_seq {run : RunView} {events : List RunEvent} (h : Numbered run events) :
    events.map (·.seq) = List.range' 1 run.controlVersion := by
  apply List.ext_getElem?
  intro i
  rw [List.getElem?_map]
  by_cases hi : i < run.controlVersion
  · have hlt : i < events.length := h.length ▸ hi
    rw [List.getElem?_range' hi, List.getElem?_eq_getElem hlt]
    simp [h.seq i _ (List.getElem?_eq_getElem hlt), Nat.add_comm]
  · rw [List.getElem?_eq_none (by rw [h.length]; omega), List.getElem?_eq_none (by simpa using hi)]
    rfl

/-- The events after a number are those after a position. -/
theorem Numbered.filter_seq {run : RunView} {events : List RunEvent} (h : Numbered run events)
    (n : ℕ) : events.filter (n < ·.seq) = events.drop n := by
  have hgo : ∀ (es : List RunEvent) (k : ℕ), (∀ i e, es[i]? = some e → e.seq = k + i + 1) →
      es.filter (n < ·.seq) = es.drop (n - k) := by
    intro es
    induction es with
    | nil => intro k _; simp
    | cons e es ih =>
      intro k hseq
      have he : e.seq = k + 1 := hseq 0 e rfl
      have hes := ih (k + 1) fun i e' hi => by
        have := hseq (i + 1) e' (by simpa using hi)
        omega
      by_cases hn : n ≤ k
      · have h₁ : n - k = 0 := by omega
        have h₂ : n - (k + 1) = 0 := by omega
        rw [h₂, List.drop_zero] at hes
        rw [h₁, List.drop_zero, List.filter_cons_of_pos (by simp; omega), hes]
      · have h₁ : n - k = (n - (k + 1)) + 1 := by omega
        rw [h₁, List.drop_succ_cons, List.filter_cons_of_neg (by simp; omega), hes]
  simpa using hgo events 0 fun i e hi => by simpa using h.seq i e hi

/-- The events of a Run, none if it is not stored. -/
def RunLog.events (L : RunLog) (id : String) : List RunEvent := (L id).elim [] (·.2)

/-- The Run is stored in a terminal state. -/
def RunLog.Ended (L : RunLog) (id : String) : Prop :=
  ∃ run events, L id = some (run, events) ∧ run.lifecycleState.isTerminal

/-- Every Run of a log is stored under its identifier, with numbered events. -/
def LogOk (L : RunLog) : Prop :=
  ∀ id run events, L id = some (run, events) → run.runId = id ∧ Numbered run events

/-- A step keeps the log numbered, for every rule that gives a numbered Run its next version. -/
theorem LogStep.logOk {number : Numbering} {L L' : RunLog} (hs : LogStep number L L')
    (hnumber : ∀ run events, Numbered run events → number run events = run.controlVersion + 1)
    (hL : LogOk L) : LogOk L' := by
  intro id run₁ events₁ h₁
  cases hs with
  | same h => rw [h] at h₁; exact hL id run₁ events₁ h₁
  | accepted run e hversion hseq htype hdata h =>
    rw [h, Function.update_apply] at h₁
    split at h₁
    · next hid => cases h₁; exact ⟨hid.symm, .accepted hversion hseq htype hdata⟩
    · exact hL id run₁ events₁ h₁
  | appended run run' events e hrun hid hversion hseq hdata h =>
    rw [h, Function.update_apply] at h₁
    split at h₁
    · next hid' =>
      cases h₁
      obtain ⟨-, hn⟩ := hL _ _ _ hrun
      exact ⟨hid.trans hid'.symm, hn.appended hversion (hseq.trans (hnumber _ _ hn)) hdata⟩
    · exact hL id run₁ events₁ h₁

end RoutePilot
