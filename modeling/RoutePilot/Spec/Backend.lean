/-
  The two stores behind one interface (`PlatformStore`): how a store executes
  an operation, by what clock, and which Run it holds under an identifier.
-/
import RoutePilot.Postgres.Ops

namespace RoutePilot

open Lib

/-- A platform store.  `ε` is what an operation reads from outside of it. -/
structure Backend (σ ε : Type) where
  init : σ
  clock : ε → Time
  /-- the clock and the identifiers of the caller -/
  caller : ε → Env
  /-- the operation returns or raises, in the state it leaves -/
  exec : ε → (o : StoreOp) → σ → Except StoreError o.Ans → σ → Prop
  /-- the identifiers the operation draws are not in use -/
  fresh : ε → σ → Prop
  storedRun : σ → String → Option RunView

/-- An operation with its environment and its result. -/
structure OpLabel (ε : Type) where
  env : ε
  op : StoreOp
  result : Except StoreError op.Ans

def memoryBackend : Backend Store Env where
  init := {}
  clock := Env.now
  caller := id
  exec env o st r st' :=
    r = outcome ((o.run env).run st) ∧ st' = final ((o.run env).run st)
  fresh env st := st.trips.get? (env.newPublicId "trip") = none ∧
    st.runs.get? (env.newPublicId "run") = none
  storedRun st runId := st.runs.get? runId

/-- A transaction may also fail for reasons outside the model; it is then rolled back. -/
def postgresBackend : Backend Postgres.Database Postgres.Env where
  init := {}
  clock := Postgres.Env.databaseNow
  caller := Postgres.Env.toEnv
  exec env o db r db' :=
    (r = outcome ((Postgres.runOp env o).run db) ∧ db' = final ((Postgres.runOp env o).run db)) ∨
      (∃ e, r = .error e) ∧ db' = db
  -- the primary keys refuse a used identifier
  fresh _ _ := True
  storedRun db runId := (db.runs.get? runId).map (·.run)

theorem memoryBackend_exec_ok {env : Env} {o : StoreOp} {st st' : Store} {x : o.Ans}
    (h : memoryBackend.exec env o st (.ok x) st') : (o.run env).run st = .ok x st' := by
  obtain ⟨h₁, h₂⟩ := h
  rw [h₂]
  exact outcome_eq_ok.1 h₁.symm

theorem memoryBackend_exec_error {env : Env} {o : StoreOp} {st st' : Store} {e : StoreError}
    (h : memoryBackend.exec env o st (.error e) st') : (o.run env).run st = .error e st' := by
  obtain ⟨h₁, h₂⟩ := h
  cases hr : (o.run env).run st with
  | ok x s => rw [hr] at h₁; cases h₁
  | error e' s => rw [hr] at h₁ h₂; cases h₁; rw [h₂]; rfl

theorem memoryBackend_step {env : Env} {o : StoreOp} {st st' : Store}
    {r : Except StoreError o.Ans} (h : memoryBackend.exec env o st r st') :
    memoryStore.step st ⟨env, o⟩ st' := h.2

theorem postgresBackend_exec_ok {env : Postgres.Env} {o : StoreOp} {db db' : Postgres.Database}
    {x : o.Ans} (h : postgresBackend.exec env o db (.ok x) db') :
    (Postgres.runOp env o).run db = .ok x db' := by
  obtain ⟨h₁, h₂⟩ | ⟨⟨e, h₁⟩, -⟩ := h
  · rw [h₂]
    exact outcome_eq_ok.1 h₁.symm
  · cases h₁

theorem postgresBackend_exec_error {env : Postgres.Env} {o : StoreOp} {db db' : Postgres.Database}
    {e : StoreError} (h : postgresBackend.exec env o db (.error e) db') : db' = db := by
  obtain ⟨h₁, h₂⟩ | ⟨-, h₂⟩ := h
  · cases hr : (Postgres.runOp env o).run db with
    | ok x s => rw [hr] at h₁; cases h₁
    | error e' s => rw [hr] at h₂; exact h₂.trans (Postgres.runOp_error hr)
  · exact h₂

theorem postgresBackend_step {env : Postgres.Env} {o : StoreOp} {db db' : Postgres.Database}
    {r : Except StoreError o.Ans} (h : postgresBackend.exec env o db r db') :
    Postgres.postgresStore.step db ⟨env, o⟩ db' := by
  cases r with
  | ok x => exact .inr ⟨x, postgresBackend_exec_ok h⟩
  | error e => exact .inl (postgresBackend_exec_error h)

end RoutePilot
