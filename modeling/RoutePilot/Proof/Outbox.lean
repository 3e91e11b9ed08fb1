/-
  The outbox delivers at least once.

  A worker holds a row by its latest claim: the number of attempts of a record
  is that of the row as long as the worker is the one that has it locked
  (`Inv.current`).  What is published was delivered before, since a worker marks
  a record as published only after it published it.
-/
import Mathlib.Data.List.Perm.Subperm
import Mathlib.Tactic.Common
import RoutePilot.Outbox.Model

namespace RoutePilot.Outbox

open Lib

variable {lease : String → ℕ} {upper : String → String} {w w' : World} {l : Label}

/-! ## Statements -/

/-- Of a sorted list, an element that few others come up to is among the first ones. -/
theorem mem_take_of_few {α : Type} {f : α → ℕ} {l : List α} {a : α} {n : ℕ} (hsorted : l.Pairwise fun x y => f x ≤ f y)
    (ha : a ∈ l) (hfew : l.countP (fun x => f x ≤ f a) ≤ n) : a ∈ l.take n := by
  obtain ⟨l₁, l₂, rfl⟩ := List.append_of_mem ha
  have hbefore : ∀ x ∈ l₁, f x ≤ f a := fun x hx =>
    (List.pairwise_append.1 hsorted).2.2 x hx a List.mem_cons_self
  have hall : l₁.countP (fun x => f x ≤ f a) = l₁.length :=
    List.countP_eq_length.2 fun x hx => by simpa using hbefore x hx
  rw [List.countP_append, hall, List.countP_cons_of_pos (by simp)] at hfew
  refine List.mem_of_getElem? (i := l₁.length) ?_
  rw [List.getElem?_take_of_lt (by omega), List.getElem?_append_right le_rfl, Nat.sub_self]
  rfl

namespace Repository
variable {self : Repository} {now : Time} {limit : ℤ} {scan : List OutboxRow} {row : OutboxRow}

theorem mem_selected (h : row ∈ self.selected now limit scan) : row ∈ scan ∧ self.claimable now row := by
  have hsorted := List.mem_of_mem_take h
  rw [List.mem_mergeSort] at hsorted
  exact List.mem_filter.1 hsorted

theorem claimable_unpublished (h : self.claimable now row) : row.publishedAt = none := by
  simp only [claimable, Bool.and_eq_true, Option.isNone_iff_eq_none] at h
  exact h.1.1

/-- A row is selected unless a whole batch of claimable ones comes before it. -/
theorem selected_of_few (hrow : row ∈ scan) (hclaimable : self.claimable now row)
    (hfew : scan.countP (fun x => self.claimable now x && decide (x.createdAt ≤ row.createdAt)) ≤ batchSize limit) :
    row ∈ self.selected now limit scan := by
  have hsorted : ((scan.filter (self.claimable now)).mergeSort fun a b => a.createdAt ≤ b.createdAt).Pairwise
      fun x y => x.createdAt ≤ y.createdAt := by
    refine (List.pairwise_mergeSort ?_ ?_ _).imp fun h => by simpa using h
    · intro a b c hab hbc
      simp only [decide_eq_true_eq] at hab hbc ⊢
      exact hab.trans hbc
    · intro a b
      simpa using le_total a.createdAt b.createdAt
  refine mem_take_of_few hsorted (by simpa using ⟨hrow, hclaimable⟩) ?_
  rw [(List.mergeSort_perm _ _).countP_eq, List.countP_filter]
  exact (List.countP_mono_left fun x _ hx => by simpa [and_comm] using hx).trans hfew

theorem claimable_iff (self : Repository) {now : Time} :
    self.claimable now row ↔ row.publishedAt = none ∧ row.availableAt ≤ now ∧
      ∀ lockedAt, row.lockedAt = some lockedAt → lockedAt + seconds self.leaseSeconds < now := by
  unfold claimable
  rw [Bool.and_eq_true, Bool.and_eq_true, Option.isNone_iff_eq_none, decide_eq_true_iff, Option.all_eq_true, and_assoc]
  -- a lapsed lease is compared, not computed
  have hlapsed : ∀ x : ℕ, decide (x + seconds self.leaseSeconds < now) = true ↔ x + seconds self.leaseSeconds < now :=
    fun _ => decide_eq_true_iff
  simp only [hlapsed]

/-- From some time on a row that is not published is claimable. -/
theorem claimable_eventually (self : Repository) (h : row.publishedAt = none) :
    ∃ t, ∀ now, t ≤ now → self.claimable now row := by
  cases hlocked : row.lockedAt with
  | none => exact ⟨row.availableAt, fun now hnow => self.claimable_iff.2 ⟨h, hnow, by simp [hlocked]⟩⟩
  | some lockedAt =>
    refine ⟨max row.availableAt (lockedAt + seconds self.leaseSeconds + 1), fun now hnow => ?_⟩
    refine self.claimable_iff.2 ⟨h, (le_max_left ..).trans hnow, fun lockedAt' heq => ?_⟩
    rw [hlocked, Option.some.injEq] at heq
    have hlate : lockedAt + seconds self.leaseSeconds + 1 ≤ now := (le_max_right ..).trans hnow
    exact heq ▸ Nat.lt_of_lt_of_le (Nat.lt_succ_self _) hlate

end Repository

/-! ## What a step does to a row -/

theorem leased_get? (self : Repository) (now : Time) (ids : List String) (rows : Table) (k : String) :
    (self.leased now ids rows).get? k = (rows.get? k).map fun row =>
      if row.outboxId ∈ ids then
        { row with lockedAt := some now, lockedBy := some self.workerId, publishAttempts := row.publishAttempts + 1 }
      else row := Dict.get?_mapValues ..

theorem markPublished_get? (self : Repository) (r : OutboxRecord) (now : Time) (rows : Table) (k : String) :
    (self.markPublished r now rows).get? k = (rows.get? k).map fun row =>
      if self.holds r row then
        { row with publishedAt := some now, lockedAt := none, lockedBy := none, lastError := none }
      else row := Dict.get?_mapValues ..

theorem markFailed_get? (self : Repository) (r : OutboxRecord) (code : String) (now : Time) (rows : Table)
    (k : String) :
    (self.markFailed r code now rows).get? k = (rows.get? k).map fun row =>
      if self.holds r row then
        { row with
          availableAt := now + seconds (Repository.delaySeconds r), lockedAt := none, lockedBy := none
          lastError := some (Repository.safeCode code) }
      else row := Dict.get?_mapValues ..

theorem Repository.holds_iff {self : Repository} {r : OutboxRecord} {row : OutboxRow} :
    self.holds r row = true ↔ row.outboxId = r.outboxId ∧ row.lockedBy = some self.workerId ∧
      row.publishedAt = none := by
  simp [holds, and_assoc]

/-- What keeps track of rows and records. -/
structure Inv (w : World) : Prop where
  keyed : ∀ {k row}, w.rows.get? k = some row → row.outboxId = k
  delivered : ∀ {k row}, w.rows.get? k = some row → row.publishedAt ≠ none → row.envelope ∈ w.delivered
  /-- a record is of a row, and of its latest claim if its worker has the row locked -/
  current : ∀ {worker r}, r ∈ (w.workers worker).records → ∃ row, w.rows.get? r.outboxId = some row ∧
    row.envelope = r.envelope ∧
      (row.lockedBy = some worker → row.publishedAt = none → row.publishAttempts = r.publishAttempts)
  published : ∀ {worker r rest}, w.workers worker = .published r rest → r.envelope ∈ w.delivered

namespace Inv

theorem init : Inv {} := by
  constructor
  · rintro k row (h : (∅ : Table).get? k = some row)
    cases h
  · rintro k row (h : (∅ : Table).get? k = some row)
    cases h
  · rintro worker r (h : r ∈ [])
    cases h
  · rintro worker r rest (h : Phase.idle = _)
    cases h

/-- The rows of a batch are those of the table. -/
theorem scanned (h : Inv w) {scan : List OutboxRow} (hscan : scan.Subperm w.rows.values) {row : OutboxRow}
    (hrow : row ∈ scan) : w.rows.get? row.outboxId = some row := by
  obtain ⟨k, hk⟩ := Dict.exists_get?_of_mem_values (hscan.subset hrow)
  rwa [h.keyed hk]

/-- A step of one worker, that changes rows in place. -/
theorem update (h : Inv w) {worker : String} {phase : Phase} {f : OutboxRow → OutboxRow} {rows : Table}
    {delivered : List Envelope} (hrows : ∀ k, rows.get? k = (w.rows.get? k).map f)
    (hid : ∀ row, (f row).outboxId = row.outboxId) (henvelope : ∀ row, (f row).envelope = row.envelope)
    (hmore : ∀ x ∈ w.delivered, x ∈ delivered)
    (hdelivered : ∀ k row, w.rows.get? k = some row → (f row).publishedAt ≠ none → row.envelope ∈ delivered)
    (hothers : ∀ other row, other ≠ worker → (f row).lockedBy = some other → (f row).publishedAt = none →
      row.lockedBy = some other ∧ row.publishedAt = none ∧ (f row).publishAttempts = row.publishAttempts)
    (hrecords : ∀ r ∈ phase.records, ∃ row, w.rows.get? r.outboxId = some row ∧ row.envelope = r.envelope ∧
      ((f row).lockedBy = some worker → (f row).publishedAt = none → (f row).publishAttempts = r.publishAttempts))
    (hphase : ∀ r rest, phase = .published r rest → r.envelope ∈ delivered) :
    Inv { rows, workers := Function.update w.workers worker phase, delivered } := by
  constructor
  case keyed =>
    intro k row hk
    obtain ⟨row₀, hk₀, rfl⟩ := Option.map_eq_some_iff.1 ((hrows k).symm.trans hk)
    rw [hid, h.keyed hk₀]
  case delivered =>
    intro k row hk hpublished
    obtain ⟨row₀, hk₀, rfl⟩ := Option.map_eq_some_iff.1 ((hrows k).symm.trans hk)
    rw [henvelope]
    exact hdelivered k row₀ hk₀ hpublished
  case current =>
    intro other r hr
    simp only [Function.update_apply] at hr
    split at hr
    · next heq =>
      subst heq
      obtain ⟨row, hk, henv, hcurrent⟩ := hrecords r hr
      exact ⟨f row, by simp only [hrows, hk, Option.map_some], (henvelope row).trans henv, hcurrent⟩
    · next hne =>
      obtain ⟨row, hk, henv, hcurrent⟩ := h.current hr
      refine ⟨f row, by simp only [hrows, hk, Option.map_some], (henvelope row).trans henv, fun hlocked hnone => ?_⟩
      obtain ⟨hlocked₀, hnone₀, hattempts⟩ := hothers other row hne hlocked hnone
      rw [hattempts]
      exact hcurrent hlocked₀ hnone₀
  case published =>
    intro other r rest hother
    simp only [Function.update_apply] at hother
    split at hother
    · exact hphase r rest hother
    · exact hmore _ (h.published hother)

/-- A step of one worker that changes no row. -/
theorem advance (h : Inv w) {worker : String} {phase : Phase} {delivered : List Envelope}
    (hmore : ∀ x ∈ w.delivered, x ∈ delivered) (hrecords : ∀ r ∈ phase.records, r ∈ (w.workers worker).records)
    (hphase : ∀ r rest, phase = .published r rest → r.envelope ∈ delivered) :
    Inv { w with workers := Function.update w.workers worker phase, delivered } := by
  refine h.update (f := id) (fun k => by simp) (fun _ => rfl) (fun _ => rfl) hmore ?_ ?_ ?_ hphase
  · exact fun k row hk hpublished => hmore _ (h.delivered hk hpublished)
  · exact fun _ _ _ hlocked hnone => ⟨hlocked, hnone, rfl⟩
  · exact fun r hr => h.current (hrecords r hr)

/-- **Step rule.** -/
theorem step (h : Inv w) (hs : Step lease upper w l w') : Inv w' := by
  cases hs with
  | insert row hnew hkey =>
    have hkept : ∀ {k row₀}, w.rows.get? k = some row₀ → k ≠ row.outboxId := by
      rintro k row₀ hk rfl
      exact nomatch hkey.symm.trans hk
    constructor
    case keyed =>
      intro k row₁ hk
      simp only [Dict.get?_set] at hk
      split at hk
      · next heq => cases hk; exact heq.symm
      · exact h.keyed hk
    case delivered =>
      intro k row₁ hk hpublished
      simp only [Dict.get?_set] at hk
      split at hk
      · cases hk
        exact absurd hnew.publishedAt hpublished
      · exact h.delivered hk hpublished
    case current =>
      intro worker r hr
      obtain ⟨row₁, hk, hcurrent⟩ := h.current hr
      exact ⟨row₁, by simp only [Dict.get?_set, if_neg (hkept hk), hk], hcurrent⟩
    case published => exact h.published
  | @claim worker now limit scan batch rows hidle hscan hclaim =>
    cases hclaim
    refine h.update (leased_get? _ _ _ _) (fun row => by split <;> rfl) (fun row => by split <;> rfl) (fun _ => id)
      ?_ ?_ ?_ ?_
    · intro k row hk hpublished
      refine h.delivered hk ?_
      split at hpublished <;> exact hpublished
    · intro other row hne hlocked hnone
      split at hlocked
      · cases hlocked
        exact absurd rfl hne
      · next hout =>
        rw [if_neg hout] at hnone ⊢
        exact ⟨hlocked, hnone, rfl⟩
    · intro r hr
      rw [Phase.records_next] at hr
      obtain ⟨row, hrow, rfl⟩ := List.mem_map.1 hr
      refine ⟨row, h.scanned hscan (Repository.mem_selected hrow).1, rfl, fun _ _ => ?_⟩
      rw [if_pos (List.mem_map_of_mem hrow)]
      rfl
    · intro r rest hphase
      cases hb : ((repository lease worker).selected now limit scan).map (·.record) with
      | nil => rw [hb] at hphase; cases hphase
      | cons r' rest' => rw [hb] at hphase; cases hphase
  | @publish worker r rest hphase =>
    refine h.advance (fun x hx => List.mem_cons_of_mem _ hx) (fun r' hr' => ?_) (fun r' rest' heq => ?_)
    · rw [hphase]
      exact hr'
    · cases heq
      exact List.mem_cons_self
  | @publishRaises worker error r rest hphase =>
    refine h.advance (fun _ => id) (fun r' hr' => ?_) nofun
    rw [hphase]
    exact hr'
  | @markPublished worker now r rest hphase =>
    have hr : r ∈ (w.workers worker).records := by rw [hphase]; exact List.mem_cons_self
    refine h.update (markPublished_get? _ _ _ _) (fun row => by split <;> rfl) (fun row => by split <;> rfl)
      (fun _ => id)
      ?_ ?_ ?_ ?_
    · intro k row hk hpublished
      split at hpublished
      · next hholds =>
        obtain ⟨row', hk', henv, -⟩ := h.current hr
        rw [← (Repository.holds_iff.1 hholds).1, h.keyed hk, hk] at hk'
        cases hk'
        rw [henv]
        exact h.published hphase
      · exact h.delivered hk hpublished
    · intro other row _ hlocked hnone
      split at hlocked
      · cases hlocked
      · next hout =>
        rw [if_neg hout] at hnone ⊢
        exact ⟨hlocked, hnone, rfl⟩
    · intro r' hr'
      rw [Phase.records_next] at hr'
      have hmem : r' ∈ (w.workers worker).records := by rw [hphase]; exact List.mem_cons_of_mem _ hr'
      obtain ⟨row, hk, henv, hcurrent⟩ := h.current hmem
      refine ⟨row, hk, henv, fun hlocked hnone => ?_⟩
      split at hlocked
      · cases hlocked
      · next hout =>
        rw [if_neg hout] at hnone ⊢
        exact hcurrent hlocked hnone
    · intro r' rest' heq
      cases rest <;> cases heq
  | @markFailed worker error now r rest hphase =>
    refine h.update (markFailed_get? _ _ _ _ _) (fun row => by split <;> rfl)
      (fun row => by split <;> simp only [OutboxRow.envelope, OutboxRow.record]) (fun _ => id) ?_ ?_ ?_ ?_
    · intro k row hk hpublished
      refine h.delivered hk ?_
      split at hpublished <;> exact hpublished
    · intro other row _ hlocked hnone
      split at hlocked
      · cases hlocked
      · next hout =>
        rw [if_neg hout] at hnone ⊢
        exact ⟨hlocked, hnone, rfl⟩
    · intro r' hr'
      rw [Phase.records_next] at hr'
      have hmem : r' ∈ (w.workers worker).records := by rw [hphase]; exact List.mem_cons_of_mem _ hr'
      obtain ⟨row, hk, henv, hcurrent⟩ := h.current hmem
      refine ⟨row, hk, henv, fun hlocked hnone => ?_⟩
      split at hlocked
      · cases hlocked
      · next hout =>
        rw [if_neg hout] at hnone ⊢
        exact hcurrent hlocked hnone
    · intro r' rest' heq
      cases rest <;> cases heq
  | crash worker => exact h.advance (fun _ => id) nofun nofun

theorem reach (hw : (dispatchers lease upper).Reach Lts.anyStep w) : Inv w := by
  refine hw.invariant (I := Inv) ?_ fun _ _ _ _ h _ hs => h.step hs
  rintro _ rfl
  exact init

end Inv

/-! ## The promise -/

/-- The record comes from the latest claim of the row, and the row was not given back since. -/
def OutboxRow.HeldBy (row : OutboxRow) (worker : String) (r : OutboxRecord) : Prop :=
  row.lockedBy = some worker ∧ row.publishAttempts = r.publishAttempts

variable (lease upper) in
/-- What the outbox promises in a state. -/
structure AtLeastOnce (w : World) : Prop where
  /-- a row that is published, if only by the next step, was delivered before it -/
  delivered : ∀ {l w' k row}, (dispatchers lease upper).step w l w' → w'.rows.get? k = some row →
    row.publishedAt ≠ none → row.envelope ∈ w.delivered
  /-- a worker that no longer holds the row of its record changes nothing by marking it -/
  fenced : ∀ {worker now r w'}, (w.workers worker).marks = some r →
    (∀ row, w.rows.get? r.outboxId = some row → ¬ row.HeldBy worker r) →
    (dispatchers lease upper).step w (.mark worker now) w' → ∀ k, w'.rows.get? k = w.rows.get? k
  /-- a row that is published stays as it is, and is never claimed again -/
  final : ∀ {k row w₁}, w.rows.get? k = some row → row.publishedAt ≠ none →
    (dispatchers lease upper).Steps Lts.anyStep w w₁ → w₁.rows.get? k = some row ∧
      ∀ {worker now limit scan w₂}, (dispatchers lease upper).step w₁ (.claim worker now limit scan) w₂ →
        ∀ r ∈ (w₂.workers worker).records, r.outboxId ≠ k
  /-- a row that is not published can be claimed from some time on, as long as no step touches it: it is in every
      batch whose statement gets to lock it and that older rows do not fill, and there is such a batch -/
  available : ∀ {k row} (worker : String), w.rows.get? k = some row → row.publishedAt = none →
    ∃ t, ∀ w₁ now limit, (dispatchers lease upper).Steps Lts.anyStep w w₁ → w₁.rows.get? k = some row → t ≤ now →
      w₁.workers worker = .idle →
      (∀ scan w₂, (dispatchers lease upper).step w₁ (.claim worker now limit scan) w₂ → row ∈ scan →
        scan.countP (fun x => (repository lease worker).claimable now x && decide (x.createdAt ≤ row.createdAt)) ≤
          Repository.batchSize limit → row.record ∈ (w₂.workers worker).records) ∧
      ∃ scan w₂, (dispatchers lease upper).step w₁ (.claim worker now limit scan) w₂ ∧
        row.record ∈ (w₂.workers worker).records

/-- A step leaves a published row as it is. -/
theorem Inv.published_kept (h : Inv w) (hs : Step lease upper w l w') {k : String} {row : OutboxRow}
    (hk : w.rows.get? k = some row) (hpublished : row.publishedAt ≠ none) : w'.rows.get? k = some row := by
  have hmark : ∀ {worker r}, ¬ (repository lease worker).holds r row = true := fun hholds =>
    hpublished (Repository.holds_iff.1 hholds).2.2
  cases hs with
  | insert row₁ hnew hkey =>
    have hne : k ≠ row₁.outboxId := by
      rintro rfl
      exact nomatch hkey.symm.trans hk
    rw [Dict.get?_set_ne _ hne, hk]
  | @claim worker now limit scan batch rows hidle hscan hclaim =>
    cases hclaim
    rw [leased_get?, hk, Option.map_some, if_neg]
    intro hin
    obtain ⟨row₁, hrow₁, hid⟩ := List.mem_map.1 hin
    have hselected := Repository.mem_selected hrow₁
    have hsame := h.scanned hscan hselected.1
    rw [hid, h.keyed hk, hk] at hsame
    cases hsame
    exact hpublished (Repository.claimable_unpublished hselected.2)
  | publish | publishRaises | crash => exact hk
  | markPublished => rw [markPublished_get?, hk, Option.map_some, if_neg hmark]
  | markFailed => rw [markFailed_get?, hk, Option.map_some, if_neg hmark]

/-- A batch has no published row. -/
theorem Inv.claim_unpublished (h : Inv w) {worker : String} {now : Time} {limit : ℤ} {scan : List OutboxRow}
    (hs : Step lease upper w (.claim worker now limit scan) w') {r : OutboxRecord}
    (hr : r ∈ (w'.workers worker).records) :
    ∃ row, w.rows.get? r.outboxId = some row ∧ row.publishedAt = none := by
  cases hs with
  | claim hidle hscan hclaim =>
    cases hclaim
    simp only [Function.update_self, Phase.records_next] at hr
    obtain ⟨row, hrow, rfl⟩ := List.mem_map.1 hr
    have hselected := Repository.mem_selected hrow
    exact ⟨row, h.scanned hscan hselected.1, Repository.claimable_unpublished hselected.2⟩

/-- A row that a step publishes is one whose record is marked as published. -/
theorem Inv.step_delivered (h : Inv w) (hs : Step lease upper w l w') {k : String} {row : OutboxRow}
    (hk : w'.rows.get? k = some row) (hpublished : row.publishedAt ≠ none) : row.envelope ∈ w.delivered := by
  have hdelivered := (h.step hs).delivered hk hpublished
  cases hs with
  | @publish worker r rest hphase => exact h.delivered hk hpublished
  | insert | claim | publishRaises | markPublished | markFailed | crash => exact hdelivered

/-- A mark changes only a row that the worker holds by this record. -/
theorem Inv.mark_fenced (h : Inv w) {worker : String} {now : Time} {r : OutboxRecord}
    (hmarks : (w.workers worker).marks = some r)
    (hlost : ∀ row, w.rows.get? r.outboxId = some row → ¬ row.HeldBy worker r)
    (hs : Step lease upper w (.mark worker now) w') (k : String) : w'.rows.get? k = w.rows.get? k := by
  have hrecord : r ∈ (w.workers worker).records := by
    cases hphase : w.workers worker <;> rw [hphase] at hmarks <;> cases hmarks
    all_goals exact List.mem_cons_self
  have hnone : ∀ row, w.rows.get? k = some row → ¬ (repository lease worker).holds r row = true := by
    intro row hk hholds
    obtain ⟨hid, hlocked, hunpublished⟩ := Repository.holds_iff.1 hholds
    obtain ⟨row', hk', -, hcurrent⟩ := h.current hrecord
    have hsame : row' = row := by
      rw [← hid, h.keyed hk, hk] at hk'
      cases hk'
      rfl
    subst hsame
    exact hlost row' hk' ⟨hlocked, hcurrent hlocked hunpublished⟩
  have hmap : ∀ f : OutboxRow → OutboxRow, (∀ row, ¬ (repository lease worker).holds r row = true → f row = row) →
      (w.rows.get? k).map f = w.rows.get? k := by
    intro f hf
    cases hk : w.rows.get? k with
    | none => rfl
    | some row => rw [Option.map_some, hf row (hnone row hk)]
  cases hs with
  | markPublished hphase =>
    rw [hphase] at hmarks
    cases hmarks
    exact (markPublished_get? ..).trans (hmap _ fun row hrow => if_neg hrow)
  | markFailed hphase =>
    rw [hphase] at hmarks
    cases hmarks
    exact (markFailed_get? ..).trans (hmap _ fun row hrow => if_neg hrow)

/-- **The outbox delivers at least once.** -/
theorem outbox_at_least_once (lease : String → ℕ) (upper : String → String) {w : World}
    (hw : (dispatchers lease upper).Reach Lts.anyStep w) : AtLeastOnce lease upper w := by
  constructor
  case delivered => exact fun hs hk hpublished => (Inv.reach hw).step_delivered hs hk hpublished
  case fenced => exact fun hmarks hlost hs => (Inv.reach hw).mark_fenced hmarks hlost hs
  case final =>
    intro k row w₁ hk hpublished hs
    have hkept : w₁.rows.get? k = some row := by
      refine Lts.Steps.relate (R := fun a b => ∀ row : OutboxRow, a.rows.get? k = some row → row.publishedAt ≠ none →
        b.rows.get? k = some row) ?_ ?_ ?_ hw hs row hk hpublished
      · exact fun _ _ hk _ => hk
      · exact fun _ _ _ h h' row hk hp => h' row (h row hk hp) hp
      · exact fun a l b ha _ hs row hk hp => (Inv.reach ha).published_kept hs hk hp
    refine ⟨hkept, fun hclaim r hr heq => ?_⟩
    obtain ⟨row', hk', hnone⟩ := (Inv.reach (hw.steps hs)).claim_unpublished hclaim hr
    rw [heq, hkept] at hk'
    cases hk'
    exact hpublished hnone
  case available =>
    intro k row worker hk hnone
    obtain ⟨t, ht⟩ := (repository lease worker).claimable_eventually hnone
    refine ⟨t, fun w₁ now limit hs hk₁ hnow hidle => ?_⟩
    have hbatch : ∀ scan w₂, Step lease upper w₁ (.claim worker now limit scan) w₂ → row ∈ scan →
        scan.countP (fun x => (repository lease worker).claimable now x && decide (x.createdAt ≤ row.createdAt)) ≤
          Repository.batchSize limit → row.record ∈ (w₂.workers worker).records := by
      intro scan w₂ hclaim hscan hfew
      cases hclaim with
      | claim hidle' hsub hclaim =>
        cases hclaim
        simp only [Function.update_self, Phase.records_next]
        exact List.mem_map_of_mem (Repository.selected_of_few hscan (ht now hnow) hfew)
    refine ⟨hbatch, [row], _, .claim hidle ?_ rfl, ?_⟩
    · exact List.singleton_subperm_iff.2 (Dict.mem_values_of_get? hk₁)
    · refine hbatch [row] _ (.claim hidle ?_ rfl) List.mem_cons_self ?_
      · exact List.singleton_subperm_iff.2 (Dict.mem_values_of_get? hk₁)
      · have hsize : 1 ≤ Repository.batchSize limit := by
          unfold Repository.batchSize
          omega
        exact (List.countP_le_length ..).trans hsize

namespace Sample

/-- A row that was just written. -/
def fresh : OutboxRow where
  outboxId := "outbox_0"
  tenantId := "tenant"
  aggregateType := "run"
  aggregateId := "run_0"
  eventType := "run.dispatch.requested"
  payload := .obj []
  createdAt := 0
  availableAt := 0

/-- The row after a claim. -/
def claimed (worker : String) (now : Time) (attempts : ℕ) : OutboxRow :=
  { fresh with lockedAt := some now, lockedBy := some worker, publishAttempts := attempts }

/-- A worker claims the row and publishes it too late: its lease has lapsed, and another one holds the row. -/
def overtaken : World where
  rows := ⟨[("outbox_0", claimed "b" (seconds 11) 2)]⟩
  workers := Function.update (Function.update (Function.update (fun _ => .idle) "a" (.publishing fresh.record []))
    "b" (.publishing (claimed "a" 0 1).record [])) "a" (.published fresh.record [])
  delivered := [fresh.envelope]

/-- A batch of one row. -/
theorem claim_one {w : World} (worker : String) (now : Time) (row : OutboxRow)
    (hidle : w.workers worker = .idle) (hrow : w.rows.values = [row])
    (hclaimable : (repository (fun _ => 10) worker).claimable now row) :
    Step (fun _ => 10) id w (.claim worker now 100 [row]) { w with
      rows := (repository (fun _ => 10) worker).leased now [row.outboxId] w.rows
      workers := Function.update w.workers worker (.publishing row.record []) } := by
  have hselected : (repository (fun _ => 10) worker).selected now 100 [row] = [row] := by
    have hsize : Repository.batchSize 100 = 100 := by decide
    simp [Repository.selected, hclaimable, hsize]
  have hclaim : (repository (fun _ => 10) worker).claimBatch now 100 [row] w.rows =
      ([row.record], (repository (fun _ => 10) worker).leased now [row.outboxId] w.rows) := by
    simp only [Repository.claimBatch, hselected, List.map_cons, List.map_nil]
  exact .claim hidle (by rw [hrow]) hclaim

theorem overtaken_reach : (dispatchers (fun _ => 10) id).Reach Lts.anyStep overtaken := by
  have hstep : ∀ {w w' l}, (dispatchers (fun _ => 10) id).Reach Lts.anyStep w → Step (fun _ => 10) id w l w' →
      (dispatchers (fun _ => 10) id).Reach Lts.anyStep w' := fun h hs => h.step trivial hs
  have h₁ := hstep (.init rfl) (.insert (w := {}) fresh ⟨rfl, rfl, rfl, rfl⟩ rfl)
  have h₂ := hstep h₁ (claim_one "a" 0 fresh rfl rfl (by decide))
  have h₃ := hstep h₂ (claim_one "b" (seconds 11) (claimed "a" 0 1) rfl rfl (by decide))
  exact hstep h₃ (.publish rfl)

end Sample

open Sample in
/-- The mark of the overtaken worker changes nothing. -/
theorem outbox_at_least_once_overtaken : ∃ w',
    (dispatchers (fun _ => 10) id).step overtaken (.mark "a" (seconds 12)) w' ∧
      w'.rows.get? "outbox_0" = overtaken.rows.get? "outbox_0" := by
  have hs : (dispatchers (fun _ => 10) id).step overtaken (.mark "a" (seconds 12)) _ := .markPublished rfl
  refine ⟨_, hs, (outbox_at_least_once _ _ overtaken_reach).fenced (r := fresh.record) rfl ?_ hs _⟩
  rintro row hk ⟨hlocked, -⟩
  have hrow : row = claimed "b" (seconds 11) 2 := by
    have hget : overtaken.rows.get? "outbox_0" = some (claimed "b" (seconds 11) 2) := rfl
    exact Option.some.inj (hk.symm.trans hget)
  rw [hrow] at hlocked
  exact absurd hlocked (by decide)

end RoutePilot.Outbox
