/-
  The fence of Task executions, with store calls that may fail.

  A job writes with the lease it claimed, on every path but one: when the claim
  itself raises an unexpected error, the job has no lease and fails the Task
  without one.
-/
import RoutePilot.A2A.Play

namespace RoutePilot.A2A

open Lib Lts

/-- No claim fails unexpectedly. -/
def ClaimsSafely {σ : Type} (_ : Machine.World svc Call σ) : Machine.Label svc Call → Prop
  | .start _ => True
  | .run _ o r => ClaimSafe o r

/-- The step is a replacement under the newest lease of the Task, which is the owner's and has not
    expired at the time of the replacement. -/
def FencedBy {σ : Type} (B : TaskBackend σ) (s s' : σ) (key : TaskKey) (owner : String) : Prop :=
  ∃ now proposed version lease active, B.exec now (.replace proposed version (some lease)) s
      (.ok proposed) s' ∧ proposed.key = key ∧ (B.view s).lease key = some active ∧
    active.Matches lease ∧ active.owner = owner ∧ active.attempt = (B.view s).attempts key ∧
    now < active.leaseUntil

section
variable {σ : Type} (B : TaskBackend σ) (cfg : ServiceConfig) (n : ℕ)

/-- Runs whose claims do not fail unexpectedly. -/
def fencedSetting : Setting σ := ⟨B, cfg, n, False, True⟩

variable {B cfg n}

theorem fenced_ok {w : Machine.World svc Call σ} {l : Machine.Label svc Call} (h : ClaimsSafely w l) :
    (fencedSetting B cfg n).contract.ok w l := by
  cases l with
  | start => trivial
  | run i o r => exact fun p _ => ⟨False.elim, fun _ => h⟩

/-- A step that changes a record was no failure: the store executed a replacement. -/
theorem replaced_exec {o : TaskOp} {s s' : σ} {r : Except ServiceError o.Ans} {proposed : TaskRecord}
    {version : ℕ} {lease : Option TaskExecutionLease} (ho : o = .replace proposed version lease)
    (h : (services B cfg n).exec (.store o) s r s')
    (hne : (B.view s').record ≠ (B.view s).record) :
    ∃ now current, B.exec now (.replace proposed version lease) s (.ok proposed) s' ∧
      (∀ l ∈ lease, (B.view s).Holds now proposed.key l) ∧
      (B.view s).record proposed.key = some current ∧ B.view s' = (B.view s).store proposed := by
  subst ho
  obtain ⟨now, r₀, hexec, -⟩ | ⟨rfl, -⟩ := h
  · have heff := B.refines _ _ _ _ _ hexec
    generalize hv : B.view s' = v' at heff hne
    cases heff with
    | replaced _ current _ hcur _ hlease => exact ⟨now, current, hexec, hlease, hcur, rfl⟩
    | notReplaced => exact absurd rfl hne
  · exact absurd rfl hne

/-- The attempts of a Task are only counted up. -/
theorem attempts_mono {ok : Machine.World svc Call σ → Machine.Label svc Call → Prop}
    {w w' : Machine.World svc Call σ} (h : (services B cfg n).system.Reach ok w)
    (hs : (services B cfg n).system.Steps ok w w') (key : TaskKey) :
    (B.view w.shared).attempts key ≤ (B.view w'.shared).attempts key := by
  let T : Setting σ := ⟨B, cfg, n, False, False⟩
  have hok : ∀ w l, T.contract.ok w l := by
    intro w l
    cases l with
    | start => trivial
    | run i o r => exact fun p _ => ⟨False.elim, False.elim⟩
  refine Steps.relate (R := fun w w' : Machine.World svc Call σ =>
    (B.view w.shared).attempts key ≤ (B.view w'.shared).attempts key) (fun _ => le_rfl)
    (fun _ _ _ => le_trans) ?_ h hs
  intro w l w' hw _ hstep
  cases hstep with
  | start => exact le_rfl
  | run i p o k r s' y hp hcode hexec hy =>
    have hreach : (services B cfg n).system.Reach T.contract.ok w := hw.mono fun w l _ => hok w l
    obtain ⟨⟨-, hle, -⟩, -⟩ := (T.worldOk hreach).guar hp hcode hexec (hok w _)
    exact hle.2 key

/-- A lease that a claim hands out has the next attempt number, which is counted. -/
theorem claimed_attempt {w w' : Machine.World svc Call σ} {i : ℕ} {key : TaskKey} {owner : String}
    {duration : ℕ} {lease : TaskExecutionLease}
    (hs : (services B cfg n).Step w (.run i (.store (.claimExecution key owner duration))
      (.ok (some lease))) w') :
    lease.attempt = (B.view w.shared).attempts key + 1 ∧
      (B.view w'.shared).attempts key = lease.attempt := by
  cases hs with
  | run _ p _ k _ s' y hp hcode hexec hy =>
    obtain ⟨now, r₀, hexec, hr⟩ | ⟨-, e, hr, -⟩ := hexec
    · have heff := B.refines _ _ _ _ _ hexec
      cases r₀ with
      | error e => cases hr
      | ok x =>
        cases hr
        show _ ∧ (B.view s').attempts key = _
        generalize B.view s' = v' at heff
        cases heff with
        | claimed _ _ _ _ _ _ _ _ hattempt => exact ⟨hattempt, Function.update_self ..⟩
    · cases hr

end

/-- **Execution fencing.**  Over every store and every run whose claims do not fail unexpectedly, a
    job changes a Task only while it holds the newest, unexpired lease of the Task.  Whatever fails,
    the attempt numbers handed out for a Task strictly increase, and a renewal or release of a lease
    that is not the active one changes nothing. -/
theorem execution_fenced {σ : Type} (B : TaskBackend σ) (cfg : ServiceConfig) (n : ℕ) :
    (∀ w, (services B cfg n).system.Reach ClaimsSafely w → ∀ i o r w' p record input alreadyWorking owner,
      ClaimsSafely w (.run i o r) → (services B cfg n).Step w (.run i o r) w' → w.procs[i]? = some p →
      p.call = .executeJob record input alreadyWorking owner → ∀ key,
      (B.view w'.shared).record key ≠ (B.view w.shared).record key →
        FencedBy B w.shared w'.shared key owner) ∧
    (∀ w₁, (services B cfg n).system.Reach anyStep w₁ →
      ∀ i j key owner owner' duration duration' lease lease' w₂ w₃ w₄,
      (services B cfg n).Step w₁ (.run i (.store (.claimExecution key owner duration))
        (.ok (some lease))) w₂ → (services B cfg n).system.Steps anyStep w₂ w₃ →
      (services B cfg n).Step w₃ (.run j (.store (.claimExecution key owner' duration'))
        (.ok (some lease'))) w₄ → lease.attempt < lease'.attempt) ∧
    ∀ now s lease,
      (¬ (B.view s).Holds now lease.key lease → ∀ duration r s',
        B.exec now (.renewExecution lease duration) s r s' → B.view s' = B.view s) ∧
      ((∀ active, (B.view s).lease lease.key = some active → ¬ active.Matches lease) → ∀ r s',
        B.exec now (.releaseExecution lease) s r s' → B.view s' = B.view s) := by
  refine ⟨?_, ?_, ?_⟩
  · intro w hw i o r w' p record input alreadyWorking owner hok hs hp hcall key hne
    let T := fencedSetting B cfg n
    have hreach : (services T.store T.cfg T.rounds).system.Reach T.contract.ok w :=
      hw.mono fun w l => fenced_ok
    cases hs with
    | run _ p' _ k _ s' y hp' hcode hexec hy =>
      rw [hp] at hp'
      cases hp'
      have hWorld := T.worldOk hreach
      obtain ⟨⟨-, -, hguar⟩, -⟩ := hWorld.guar hp hcode hexec (fenced_ok hok)
      have hchange : (B.view s').record ≠ (B.view w.shared).record := fun heq => hne (congrFun heq key)
      obtain ⟨proposed, version, lease, ho, howner⟩ :=
        hguar.fence trivial record input alreadyWorking owner hcall hchange
      subst ho
      obtain ⟨now, current, hx, hholds, hcur, hview⟩ := replaced_exec rfl hexec hchange
      obtain ⟨active, hactive, hmatch, hlt⟩ := hholds lease rfl
      have hkey : proposed.key = key := by
        by_contra hk
        refine hne ?_
        show (B.view s').record key = _
        rw [hview]
        exact Function.update_of_ne (fun h => hk h.symm) ..
      subst hkey
      exact ⟨now, proposed, version, lease, active, hx, rfl, hactive, hmatch, hmatch.1.trans howner,
        hWorld.inv.lease _ _ hactive, hlt⟩
  · intro w₁ hw i j key owner owner' duration duration' lease lease' w₂ w₃ w₄ h₁ hsteps h₃
    obtain ⟨-, hcount⟩ := claimed_attempt h₁
    obtain ⟨hnext, -⟩ := claimed_attempt h₃
    have hw₂ : (services B cfg n).system.Reach anyStep w₂ := hw.step trivial h₁
    have hmono := attempts_mono hw₂ hsteps key
    omega
  · intro now s lease
    refine ⟨fun hno duration r s' hx => ?_, fun hno r s' hx => ?_⟩
    · have heff := B.refines _ _ _ _ _ hx
      generalize B.view s' = v' at heff
      cases heff with
      | renewed _ active _ _ hactive hmatch hlt => exact absurd ⟨active, hactive, hmatch, hlt⟩ hno
      | notRenewed => rfl
    · have heff := B.refines _ _ _ _ _ hx
      generalize B.view s' = v' at heff
      cases heff with
      | released _ active hactive hmatch => exact absurd hmatch (hno active hactive)
      | notReleased => rfl

/-! ## A job whose claim succeeds, and one whose claim fails -/

/-- The store did not fail. -/
def Move.isAnswer : Move → Bool
  | .fault .. => false
  | _ => true

/-- The in-memory store raises no unexpected error by itself. -/
theorem Move.claimSafe {m : Move} (hm : m.isAnswer = true) {st st' : TaskStore} {o : ServiceOp}
    {r : Except ServiceError o.Ans} (h : m.reply st o = some (r, st')) : ClaimSafe o r := by
  cases o with
  | execute | forever => trivial
  | store o =>
    cases o with
    | claimExecution key owner duration =>
      cases m with
      | fault => cases hm
      | start | result => cases h
      | answer now =>
        cases h
        show ClaimSafe (.store (.claimExecution key owner duration))
          (fromStore (outcome ((claimExecution now key owner duration).run st)))
        cases hx : (claimExecution now key owner duration).run st with
        | ok x st' => trivial
        | error e st' =>
          rw [(claimExecution_error hx).1]
          exact False.elim
    | _ => trivial

theorem claimsSafely_of_isAnswer {cfg : ServiceConfig} {n : ℕ} {w w' : ServiceWorld} {ms : List Move}
    (h : plays cfg n (fun _ m => m.isAnswer) w ms = some w') :
    (services memoryTasks cfg n).system.Steps ClaimsSafely w w' := by
  refine plays_steps (fun w m l w' hm _ hl => ?_) h
  cases l with
  | start => trivial
  | run i o r => exact Move.claimSafe hm (hl i o r rfl).2

namespace Sample

/-- The first job has claimed the Task and is about to move it to working. -/
def claiming : List Move := creation ++ (claim 1 "first").take 3

def claimed : ServiceWorld :=
  (plays cfg 10 (fun _ m => m.isAnswer) { shared := {} } claiming).get (by decide)

theorem claimed_reach : (services memoryTasks cfg 10).system.Reach ClaimsSafely claimed :=
  ⟨_, rfl, claimsSafely_of_isAnswer (Option.some_get _).symm⟩

/-- The first job works. -/
def started : ServiceWorld := (play cfg 10 claimed (.answer 6 "" 1)).get (by decide)

/-- A second job, whose claim fails while the first one works. -/
def failedClaim : List Move :=
  working ++ [.start 7 "" (.executeJob task none true "second"), .fault 8 "error" 2 "OperationalError",
    .answer 9 "" 2]

def unclaimed : ServiceWorld := (world failedClaim).get (by decide)

/-- The second job has failed the Task. -/
def overridden : ServiceWorld := (play cfg 10 unclaimed (.answer 10 "" 2)).get (by decide)

end Sample

/-- The first job starts to work under its lease. -/
theorem execution_fenced_started :
    FencedBy memoryTasks Sample.claimed.shared Sample.started.shared Sample.key "first" := by
  have hplay : playReply (.answer 6 "" 1) 6 "" 1 Sample.claimed = some Sample.started :=
    (Option.some_get _).symm
  obtain ⟨p, o, k, r, hp, -, hr, hs⟩ := @playReply_step Sample.cfg 10 _ _ _ _ _ _ hplay
  have hcall : p.call = .executeJob Sample.task none false "first" := by
    have : (Sample.claimed.procs[1]?).map (·.call) = some (.executeJob Sample.task none false "first") := rfl
    rw [hp] at this
    exact Option.some.inj this
  refine (execution_fenced memoryTasks Sample.cfg 10).1 _ Sample.claimed_reach 1 o r _ p _ _ _ _
    (Move.claimSafe rfl hr) hs hp hcall Sample.key fun heq => ?_
  have hversion : (Sample.claimed.shared.records.get? Sample.key).map (·.version) = some 1 := by decide
  have hversion' : (Sample.started.shared.records.get? Sample.key).map (·.version) = some 2 := by decide
  have heq' : Sample.started.shared.records.get? Sample.key = Sample.claimed.shared.records.get? Sample.key :=
    heq
  rw [heq', hversion] at hversion'
  cases hversion'

/-- A job whose claim failed moves the Task that another job is executing. -/
theorem failed_claim_overrides : ¬ ∀ w, (services memoryTasks Sample.cfg 10).system.Reach anyStep w →
    ∀ i o r w' p record input alreadyWorking owner,
      (services memoryTasks Sample.cfg 10).Step w (.run i o r) w' → w.procs[i]? = some p →
      p.call = .executeJob record input alreadyWorking owner → ∀ key,
      (memoryTasks.view w'.shared).record key ≠ (memoryTasks.view w.shared).record key →
        FencedBy memoryTasks w.shared w'.shared key owner := by
  intro h
  have hplay : playReply (.answer 10 "" 2) 10 "" 2 Sample.unclaimed = some Sample.overridden :=
    (Option.some_get _).symm
  obtain ⟨p, o, k, r, hp, -, -, hs⟩ := @playReply_step Sample.cfg 10 _ _ _ _ _ _ hplay
  have hcall : p.call = .executeJob Sample.task none true "second" := by
    have : (Sample.unclaimed.procs[2]?).map (·.call) = some (.executeJob Sample.task none true "second") :=
      rfl
    rw [hp] at this
    exact Option.some.inj this
  have hversion : (Sample.unclaimed.shared.records.get? Sample.key).map (·.version) = some 2 := by decide
  have hversion' : (Sample.overridden.shared.records.get? Sample.key).map (·.version) = some 3 := by decide
  have hfenced := h _ (Sample.world_reach (Option.some_get _).symm) 2 o r _ p _ _ _ _ hs hp hcall Sample.key
    fun heq => by
      have heq' : Sample.overridden.shared.records.get? Sample.key =
        Sample.unclaimed.shared.records.get? Sample.key := heq
      rw [heq', hversion] at hversion'
      cases hversion'
  obtain ⟨-, -, -, -, active, -, -, hactive, -, howner, -⟩ := hfenced
  -- the lease is the first job's
  have hlease : (Sample.unclaimed.shared.executionLeases.get? Sample.key).map (·.owner) = some "first" := by
    decide
  have hactive' : Sample.unclaimed.shared.executionLeases.get? Sample.key = some active := hactive
  rw [hactive', Option.map_some, howner] at hlease
  exact absurd hlease (by decide)

end RoutePilot.A2A
