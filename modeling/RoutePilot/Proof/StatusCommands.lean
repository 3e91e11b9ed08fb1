/-
  Status commands are exact and agree across repositories.

  The repositories get the same calls.  They start with the same documents, and
  `SameKeySameDocument` is the condition under which they go on to agree: a key that is
  used again for a command is used for its document.  A row of a command keeps what the in-memory repository
  keeps of its result, the rest of which is in the row of the document (`Recorded`).  So long as a key is used
  again for its document only, the two repositories answer alike (`paired_step`).
-/
import RoutePilot.Knowledge.Postgres
import RoutePilot.Knowledge.Specs
import RoutePilot.Lib.History
import RoutePilot.Spec.Knowledge

namespace RoutePilot.Knowledge

open Lib Lts

/-! ## Calls of both repositories -/

section
variable {F : Type}

/-- A call of `change_document_status`. -/
structure StatusCall where
  now : Time
  context : AuthorizedKnowledgeContext
  documentId : String
  command : StatusCommand
  key : String

/-- Both repositories. -/
structure Pair (F : Type) where
  memory : Repository F
  database : Database

/-- A call, and how it ended in either. -/
structure PairEntry where
  call : StatusCall
  memory : Except KnowledgeError StatusResult
  database : Except KnowledgeError StatusResult

/-- The repositories hold the same documents, in rows that read back as they were written. -/
structure Pair.SameDocuments (p : Pair F) : Prop where
  document : ∀ k, (p.database.documents.get? k).map (fun row => (p.database.adminDocument row).toKnowledgeDocument) =
    p.memory.documents.get? k
  id : ∀ k d, p.memory.documents.get? k = some d → d.documentId = k
  chunkCount : ∀ k, p.database.chunks.values.countP (fun documentId => documentId = k) =
    p.memory.chunks.values.countP fun chunk => chunk.documentId = k
  /-- `ck_v1_knowledge_documents_scope_tenant` -/
  scope : ∀ k row, p.database.documents.get? k = some row →
    (row.columns.visibilityScope = .public_ ∧ row.columns.tenantId = none ∧ row.scopeKey = "__public__") ∨
    (row.columns.visibilityScope = .tenant ∧ row.columns.tenantId = some row.scopeKey)

namespace RepositoryConfig
variable (c : RepositoryConfig F)

/-- Both repositories, call by call. -/
def paired : Lts (Pair F) PairEntry where
  init p := p.SameDocuments ∧ p.memory.statusIdempotency = ∅ ∧ p.database.documentCommands = ∅
  step p e p' :=
    let m := (c.changeDocumentStatus e.call.now e.call.context e.call.documentId e.call.command e.call.key).run p.memory
    let d := (Database.changeDocumentStatus c.tools e.call.now e.call.context e.call.documentId e.call.command
      e.call.key).run p.database
    e.memory = outcome m ∧ e.database = outcome d ∧ p' = ⟨final m, final d⟩

def commandHash (command : StatusCommand) : String := c.tools.sha256 (c.tools.commandText command)

end RepositoryConfig

/-- The scope of the key of a call that passes the checks. -/
def Pair.callScope (p : Pair F) (call : StatusCall) : Option String :=
  match checkStatusCall call.context call.key, manageable call.context (p.memory.documents.get? call.documentId) with
  | .ok _, .ok document => some (scopeKey call.context.tenantId document.visibilityScope)
  | _, _ => none

/-- A key that was used for this command before was used for this document. -/
def SameKeySameDocument (c : RepositoryConfig F) (e : Taken (Pair F) PairEntry) : Prop :=
  ∀ scope, e.before.callScope e.label.call = some scope →
    ∀ record, e.before.memory.statusIdempotency.get? (scope, e.label.call.key) = some record →
      record.requestHash = c.commandHash e.label.call.command →
      record.result.document.documentId = e.label.call.documentId

/-- The call changes the status of a document, from the version `v`. -/
def Consumes (e : Taken (Pair F) PairEntry) (documentId : String) (v : ℕ) : Prop :=
  e.label.call.documentId = documentId ∧
    ∃ d d', e.before.memory.documents.get? documentId = some d ∧ e.after.memory.documents.get? documentId = some d' ∧
      d.version = v ∧ d'.status ≠ d.status

/-- What status commands promise in a history of calls. -/
structure Exact (H : List (Taken (Pair F) PairEntry)) : Prop where
  agree : ∀ e ∈ H, e.label.memory = e.label.database
  /-- a result describes the document of the call -/
  names : ∀ e ∈ H, ∀ result, e.label.memory = .ok result → result.document.documentId = e.label.call.documentId
  /-- a key is used for one document and one command -/
  keys : Every (fun K e => ∀ e' ∈ K, ∀ result scope, e'.label.memory = .ok result →
    e'.before.callScope e'.label.call = some scope → e.before.callScope e.label.call = some scope →
    e'.label.call.key = e.label.call.key →
    (e'.label.call.documentId ≠ e.label.call.documentId ∨ e'.label.call.command ≠ e.label.call.command) →
    (∃ message, e.label.memory = .error (.conflict message)) ∧ e.after = e.before) H
  versions : Every (fun K e => ∀ e' ∈ K, ∀ documentId v, Consumes e' documentId v → ¬ Consumes e documentId v) H

end

variable {F : Type} {c : RepositoryConfig F}

/-! ## The PostgreSQL repository -/

theorem manageable_some (context : AuthorizedKnowledgeContext) (r : Repository F) (document : KnowledgeDocument) :
    manageable context (some document) = (Database.checkManaged context (r.adminView document)).map fun _ =>
      document := by
  have hvisible : documentVisible context document = false ↔
      (r.adminView document).visibilityScope ≠ .public_ ∧ (r.adminView document).tenantId ≠ some context.tenantId := by
    simp [documentVisible, Repository.adminView]
  simp only [manageable, Database.checkManaged]
  by_cases h : documentVisible context document = false
  · rw [if_pos h, if_pos (hvisible.1 h)]
    rfl
  · rw [if_neg h, if_neg (hvisible.not.1 h)]
    by_cases h' : document.visibilityScope = .public_ ∧ context.canManagePublicKnowledge = false
    · rw [if_pos h', if_pos (show (r.adminView document).visibilityScope = .public_ ∧ _ from h')]
      rfl
    · rw [if_neg h', if_neg (show ¬ ((r.adminView document).visibilityScope = .public_ ∧ _) from h')]
      rfl

/-- A row reads back as its columns, but for the license. -/
theorem adminDocument_frame (db : Database) (row : DocumentRow) :
    (db.adminDocument row).visibilityScope = row.columns.visibilityScope ∧
      (db.adminDocument row).tenantId = row.columns.tenantId ∧ (db.adminDocument row).version = row.columns.version ∧
      (db.adminDocument row).status = row.columns.status := ⟨rfl, rfl, rfl, rfl⟩

namespace Pair.SameDocuments
variable {p : Pair F} (h : p.SameDocuments)
include h

/-- A document reads back as it is in memory. -/
theorem adminDocument {k : String} {row : DocumentRow} {d : KnowledgeDocument}
    (hrow : p.database.documents.get? k = some row) (hd : p.memory.documents.get? k = some d) :
    p.database.adminDocument row = p.memory.adminView d := by
  have hread := h.document k
  rw [hrow, hd] at hread
  have hd' : (p.database.adminDocument row).toKnowledgeDocument = d := Option.some.inj hread
  have hid : row.columns.documentId = k := (congrArg KnowledgeDocument.documentId hd').trans (h.id k d hd)
  have hcount : (p.database.adminDocument row).chunkCount = (p.memory.adminView d).chunkCount := by
    show p.database.chunks.values.countP _ = p.memory.chunks.values.countP _
    rw [hid, h.id k d hd]
    exact h.chunkCount k
  show DocumentAdminView.mk (p.database.adminDocument row).toKnowledgeDocument
    (p.database.adminDocument row).chunkCount = _
  rw [hd', hcount]
  rfl

/-- The row of a document that the caller may manage. -/
theorem row {context : AuthorizedKnowledgeContext} {documentId : String} {document : KnowledgeDocument}
    (hdocument : manageable context (p.memory.documents.get? documentId) = .ok document) :
    ∃ row, p.database.getAdminDocument documentId = .ok (row, p.memory.adminView document) ∧
      p.database.documents.get? documentId = some row ∧
      Database.checkManaged context (p.memory.adminView document) = .ok () ∧
      row.scopeKey = scopeKey context.tenantId document.visibilityScope := by
  obtain ⟨hd, hvisible⟩ := manageable_ok hdocument
  have hread := h.document documentId
  rw [hd] at hread
  obtain ⟨row, hrow, hread⟩ := Option.map_eq_some_iff.1 hread
  refine ⟨row, ?_, hrow, ?_, ?_⟩
  · unfold Database.getAdminDocument
    rw [hrow, ← h.adminDocument hrow hd]
  · rw [hd, manageable_some context p.memory] at hdocument
    cases hcheck : Database.checkManaged context (p.memory.adminView document) with
    | error e =>
      rw [hcheck] at hdocument
      cases hdocument
    | ok u => rfl
  · obtain ⟨hv, ht, -⟩ := adminDocument_frame p.database row
    rw [hread] at hv ht
    obtain ⟨hpublic, -, hscope⟩ | ⟨htenant, hscope⟩ := h.scope documentId row hrow
    · rw [hscope, hv, hpublic]
      rfl
    · rw [hv, htenant]
      rw [← hv] at htenant
      rw [← ht] at hscope
      simp only [documentVisible, htenant, reduceCtorEq, false_or, decide_eq_true_eq] at hvisible
      exact Option.some.inj (hscope.symm.trans hvisible)

/-- A document that the caller may not manage. -/
theorem no_row {context : AuthorizedKnowledgeContext} {documentId : String} {e : KnowledgeError}
    (hdocument : manageable context (p.memory.documents.get? documentId) = .error e) :
    p.database.getAdminDocument documentId = .error e ∨ ∃ row document,
      p.database.getAdminDocument documentId = .ok (row, document) ∧
        Database.checkManaged context document = .error e := by
  have hread := h.document documentId
  cases hd : p.memory.documents.get? documentId with
  | none =>
    rw [hd] at hread hdocument
    cases hdocument
    unfold Database.getAdminDocument
    rw [Option.map_eq_none_iff.1 hread]
    exact .inl rfl
  | some document =>
    rw [hd] at hread
    obtain ⟨row, hrow, -⟩ := Option.map_eq_some_iff.1 hread
    rw [hd, manageable_some context p.memory] at hdocument
    refine .inr ⟨row, p.memory.adminView document, ?_, ?_⟩
    · unfold Database.getAdminDocument
      rw [hrow, ← h.adminDocument hrow hd]
    · cases hcheck : Database.checkManaged context (p.memory.adminView document) with
      | error e' =>
        rw [hcheck] at hdocument
        cases hdocument
        rfl
      | ok u =>
        rw [hcheck] at hdocument
        cases hdocument

end Pair.SameDocuments

namespace Database
variable {T : TextTools} {now : Time} {context : AuthorizedKnowledgeContext} {documentId : String}
  {command : StatusCommand} {key : String} {db : Database}

theorem run_unchecked {e : KnowledgeError} (h : checkStatusCall context key = .error e) :
    (changeDocumentStatus T now context documentId command key).run db = .error e db := by
  simp only [changeDocumentStatus, run_atomic, EStateM.run_bind, run_ask, h]

theorem run_unmanaged {e : KnowledgeError} (h : checkStatusCall context key = .ok ())
    (hrow : db.getAdminDocument documentId = .error e ∨ ∃ row document,
      db.getAdminDocument documentId = .ok (row, document) ∧ checkManaged context document = .error e) :
    (changeDocumentStatus T now context documentId command key).run db = .error e db := by
  obtain hrow | ⟨row, document, hrow, hmanaged⟩ := hrow
  · simp only [changeDocumentStatus, run_atomic, EStateM.run_bind, run_ask, h, EStateM.run_get, hrow]
  · simp only [changeDocumentStatus, run_atomic, EStateM.run_bind, run_ask, h, EStateM.run_get, hrow, hmanaged]

section
variable {row : DocumentRow} {document : DocumentAdminView} (h : checkStatusCall context key = .ok ())
  (hrow : db.getAdminDocument documentId = .ok (row, document)) (hmanaged : checkManaged context document = .ok ())
include h hrow hmanaged

theorem run_conflict {existing : CommandRow} (hkey : db.documentCommands.get? (row.scopeKey, key) = some existing)
    (hne : ¬ (existing.requestHash = T.sha256 (T.commandText command) ∧ existing.documentId = documentId)) :
    (changeDocumentStatus T now context documentId command key).run db =
      .error (.conflict "idempotency key was already used with a different command") db := by
  simp only [changeDocumentStatus, run_atomic, EStateM.run_bind, run_ask, h, EStateM.run_get, hrow, hmanaged, hkey,
    ensure, if_neg hne, EStateM.run_throw]

theorem run_replayed {existing : CommandRow} (hkey : db.documentCommands.get? (row.scopeKey, key) = some existing)
    (heq : existing.requestHash = T.sha256 (T.commandText command) ∧ existing.documentId = documentId) :
    (changeDocumentStatus T now context documentId command key).run db =
      .ok { document := replayed document existing, idempotentReplay := true } db := by
  simp only [changeDocumentStatus, run_atomic, EStateM.run_bind, run_ask, h, EStateM.run_get, hrow, hmanaged, hkey,
    ensure, if_pos heq, EStateM.run_pure]

theorem run_outdated (hkey : db.documentCommands.get? (row.scopeKey, key) = none)
    (hversion : document.version ≠ command.expectedVersion) :
    (changeDocumentStatus T now context documentId command key).run db =
      .error (.versionConflict "knowledge document version changed; refresh and retry" document.version) db := by
  simp only [changeDocumentStatus, run_atomic, EStateM.run_bind, run_ask, h, EStateM.run_get, hrow, hmanaged, hkey,
    ensure, if_neg hversion, EStateM.run_throw]

theorem run_new (hkey : db.documentCommands.get? (row.scopeKey, key) = none)
    (hversion : document.version = command.expectedVersion) {updated : DocumentAdminView} {db' : Database}
    (happlied : db.applied documentId document command now = .ok (updated, db')) :
    (changeDocumentStatus T now context documentId command key).run db =
      .ok { document := updated } { db' with
        documentCommands := db'.documentCommands.set (row.scopeKey, key) {
          requestHash := T.sha256 (T.commandText command)
          documentId
          actorId := context.actorId
          targetStatus := command.targetStatus
          reason := command.reason
          resultStatus := updated.status
          resultReason := updated.quarantineReason
          resultVersion := updated.version
          resultUpdatedAt := updated.updatedAt } } := by
  simp only [changeDocumentStatus, run_atomic, EStateM.run_bind, run_ask, h, EStateM.run_get, hrow, hmanaged, hkey,
    ensure, if_pos hversion, EStateM.run_pure, happlied, EStateM.run_set]

end

/-- The row after a command. -/
def commandedRow (row : DocumentRow) (command : StatusCommand) (now : Time) : DocumentRow :=
  { row with columns := row.columns.commanded command now }

/-- The rows of the documents after a command. -/
def commandedDocuments (db : Database) (documentId : String) (row : DocumentRow) (command : StatusCommand)
    (now : Time) :
    Dict String DocumentRow :=
  if row.columns.status ≠ command.targetStatus then db.documents.set documentId (commandedRow row command now)
  else db.documents

/-- Under the lock of its row a document has the version that was read. -/
theorem applied_eq (r : Repository F) {row : DocumentRow} {d : KnowledgeDocument}
    (hrow : db.documents.get? documentId = some row)
    (hread : (db.adminDocument row).toKnowledgeDocument = d) (hversion : d.version = command.expectedVersion) :
    db.applied documentId (r.adminView d) command now = .ok (r.adminView (d.commanded command now),
      { db with documents := db.commandedDocuments documentId row command now }) := by
  obtain ⟨-, -, hv, hs⟩ := adminDocument_frame db row
  rw [hread] at hv hs
  unfold applied commandedDocuments commandedRow
  by_cases hstatus : d.status = command.targetStatus
  · have hsame : d.commanded command now = d := if_neg (not_not.2 hstatus)
    rw [if_neg (not_not.2 (hs.symm.trans hstatus)), hsame]
    exact if_neg (not_not.2 hstatus)
  · have hstatus' : row.columns.status ≠ command.targetStatus := hs ▸ hstatus
    have hmoved : d.commanded command now = _ := if_pos hstatus
    have hmoved' : row.columns.commanded command now = _ := if_pos hstatus'
    have hupdate : db.updateStatus documentId command now = some (row.columns.version + 1, { db with
        documents := db.documents.set documentId { row with columns := row.columns.commanded command now } }) := by
      unfold updateStatus
      simp only [hrow, if_pos (hv.symm.trans hversion)]
      rw [hmoved']
    refine (if_pos hstatus).trans ?_
    rw [hupdate, if_pos hstatus', hmoved]
    simp only [← hv]
    rfl

theorem get?_commandedDocuments {row : DocumentRow} (hrow : db.documents.get? documentId = some row) (k : String) :
    (db.commandedDocuments documentId row command now).get? k =
      if k = documentId then some (commandedRow row command now) else db.documents.get? k := by
  unfold commandedDocuments
  by_cases hstatus : row.columns.status = command.targetStatus
  · have hsame : commandedRow row command now = row := by
      unfold commandedRow
      rw [show row.columns.commanded command now = row.columns from if_neg (not_not.2 hstatus)]
    rw [if_neg (not_not.2 hstatus), hsame]
    split
    · next hk => rw [hk, hrow]
    · rfl
  · rw [if_pos hstatus, Dict.get?_set]

end Database

/-! ## Simulation -/

/-- What the row of a command keeps of its result. -/
inductive Recorded (p : Pair F) : Option StatusIdempotencyRecord → Option CommandRow → Prop
  | none : Recorded p none none
  | some {record : StatusIdempotencyRecord} {row : CommandRow} {d : KnowledgeDocument}
      (hash : row.requestHash = record.requestHash) (id : row.documentId = record.result.document.documentId)
      (current : p.memory.documents.get? row.documentId = some d)
      (result : record.result.document = Database.replayed (p.memory.adminView d) row) :
        Recorded p (some record) (some row)

/-- The repositories hold the same documents and the same commands. -/
structure Mirrors (p : Pair F) : Prop where
  same : p.SameDocuments
  recorded : ∀ k, Recorded p (p.memory.statusIdempotency.get? k) (p.database.documentCommands.get? k)

theorem mirrors_init {p : Pair F} (h : c.paired.init p) : Mirrors p := by
  obtain ⟨hsame, hmemory, hdatabase⟩ := h
  refine ⟨hsame, fun k => ?_⟩
  rw [hmemory, hdatabase]
  exact .none

/-- A command on a row is one on what is read of it. -/
theorem read_commanded (db db' : Database) (row : DocumentRow) (command : StatusCommand) (now : Time) :
    (db'.adminDocument (Database.commandedRow row command now)).toKnowledgeDocument =
      (db.adminDocument row).toKnowledgeDocument.commanded command now := by
  unfold Database.adminDocument Database.commandedRow KnowledgeDocument.commanded
  by_cases hstatus : row.columns.status = command.targetStatus
  · simp only [hstatus, ne_eq, not_true_eq_false, if_false]
  · simp only [hstatus, ne_eq, not_false_eq_true, if_true]

/-- What a replay replaces may be changed before. -/
theorem replayed_commanded (r : Repository F) (d : KnowledgeDocument) (command : StatusCommand) (now : Time)
    (row : CommandRow) : Database.replayed (r.adminView (d.commanded command now)) row =
      Database.replayed (r.adminView d) row := by
  obtain ⟨status, reason, version, updatedAt, hframe⟩ := commanded_frame d command now
  rw [hframe]
  rfl

/-- Both repositories after a change. -/
theorem mirrors_new {p : Pair F} (h : Mirrors p) {documentId : String} {d : KnowledgeDocument} {row : DocumentRow}
    (hd : p.memory.documents.get? documentId = some d) (hrow : p.database.documents.get? documentId = some row)
    {key : String × String} {hash : String} {command : StatusCommand} {now : Time} {commandRow : CommandRow}
    (hhash : commandRow.requestHash = hash) (hid : commandRow.documentId = documentId)
    (hresult : p.memory.adminView (d.commanded command now) = Database.replayed (p.memory.adminView d) commandRow) :
    Mirrors (F := F) ⟨{ p.memory with
        documents := if d.status ≠ command.targetStatus then p.memory.documents.set documentId (d.commanded command now)
          else p.memory.documents
        statusIdempotency := p.memory.statusIdempotency.set key
          ⟨hash, { document := p.memory.adminView (d.commanded command now) }⟩ },
      { p.database with
        documents := p.database.commandedDocuments documentId row command now
        documentCommands := p.database.documentCommands.set key commandRow }⟩ := by
  have hrows := fun k => show (p.database.commandedDocuments documentId row command now).get? k = _ from
    Database.get?_commandedDocuments hrow k
  have hmemory := get?_changed p.memory documentId d command now hd
  obtain ⟨status, reason, version, updatedAt, hframe⟩ := commanded_frame d command now
  refine ⟨⟨fun k => ?_, fun k d' hd' => ?_, h.same.chunkCount, fun k row' hrow' => ?_⟩, fun k => ?_⟩
  · refine (congrArg _ (hrows k)).trans (Eq.trans ?_ (hmemory k).symm)
    by_cases hk : k = documentId
    · have hread := h.same.document documentId
      rw [hd, hrow] at hread
      rw [if_pos hk, if_pos hk, Option.map_some, read_commanded p.database,
        show (p.database.adminDocument row).toKnowledgeDocument = d from Option.some.inj hread]
    · rw [if_neg hk, if_neg hk]
      exact h.same.document k
  · rw [hmemory] at hd'
    split at hd'
    · next hk =>
      cases hd'
      rw [hframe, hk]
      exact h.same.id documentId d hd
    · exact h.same.id k d' hd'
  · rw [hrows] at hrow'
    split at hrow'
    · next hk =>
      cases hrow'
      obtain ⟨status, reason, version, updatedAt, hframe⟩ := commanded_frame row.columns command now
      unfold Database.commandedRow
      rw [hframe]
      exact h.same.scope documentId row hrow
    · exact h.same.scope k row' hrow'
  · show Recorded _ ((p.memory.statusIdempotency.set key _).get? k)
      ((p.database.documentCommands.set key commandRow).get? k)
    rw [Dict.get?_set, Dict.get?_set]
    by_cases hk : k = key
    · rw [if_pos hk, if_pos hk]
      refine .some hhash ?_ (d := d.commanded command now) ((hmemory _).trans (if_pos hid)) ?_
      · rw [hid, hframe]
        exact (h.same.id documentId d hd).symm
      · exact hresult.trans (replayed_commanded p.memory d command now commandRow).symm
    · rw [if_neg hk, if_neg hk]
      have hrecorded := h.recorded k
      generalize p.memory.statusIdempotency.get? k = record at hrecorded
      generalize p.database.documentCommands.get? k = command at hrecorded
      cases hrecorded with
      | none => exact .none
      | @some record' row' d' hhash hid hcurrent hresult =>
        by_cases hsame : row'.documentId = documentId
        · rw [hsame, hd] at hcurrent
          cases hcurrent
          exact .some hhash hid ((hmemory _).trans (if_pos hsame))
            (hresult.trans (replayed_commanded p.memory d _ now row').symm)
        · exact .some hhash hid (((hmemory _).trans (if_neg hsame)).trans hcurrent) hresult

/-! ## One call -/

variable (c) in
/-- How a call ends, in both repositories. -/
inductive Paired (p : Pair F) (call : StatusCall) : Except KnowledgeError StatusResult → Pair F → Prop
  | failed (e : KnowledgeError)
      (h : ∀ scope record, p.callScope call = some scope →
        p.memory.statusIdempotency.get? (scope, call.key) = some record →
        record.requestHash ≠ c.commandHash call.command ∧ ∃ message, e = .conflict message) :
      Paired p call (.error e) p
  | replayed (scope : String) (record : StatusIdempotencyRecord) (hscope : p.callScope call = some scope)
      (hkey : p.memory.statusIdempotency.get? (scope, call.key) = some record)
      (heq : record.requestHash = c.commandHash call.command) : Paired p call (.ok record.result.replay) p
  | new (scope : String) (d : KnowledgeDocument) (database : Database) (hscope : p.callScope call = some scope)
      (hd : p.memory.documents.get? call.documentId = some d)
      (hkey : p.memory.statusIdempotency.get? (scope, call.key) = none) :
      Paired p call (.ok { document := p.memory.adminView (d.commanded call.command call.now) })
        ⟨{ p.memory with
            documents := if d.status ≠ call.command.targetStatus then
                p.memory.documents.set call.documentId (d.commanded call.command call.now)
              else p.memory.documents
            statusIdempotency := p.memory.statusIdempotency.set (scope, call.key)
              ⟨c.commandHash call.command, { document := p.memory.adminView (d.commanded call.command call.now) }⟩ },
          database⟩

theorem callScope_ok {p : Pair F} {call : StatusCall} {d : KnowledgeDocument}
    (h : checkStatusCall call.context call.key = .ok ())
    (hd : manageable call.context (p.memory.documents.get? call.documentId) = .ok d) :
    p.callScope call = some (scopeKey call.context.tenantId d.visibilityScope) := by
  unfold Pair.callScope
  rw [h, hd]

/-- One call: the repositories answer alike and go on to hold the same. -/
theorem paired_step {p p' : Pair F} {e : PairEntry} (hstep : c.paired.step p e p') (h : Mirrors p)
    (hown : SameKeySameDocument c ⟨p, e, p'⟩) :
    e.memory = e.database ∧ Paired c p e.call e.memory p' ∧ Mirrors p' := by
  obtain ⟨hmemory, hdatabase, rfl⟩ := hstep
  obtain ⟨⟨now, context, documentId, command, key⟩, memory, database⟩ := e
  dsimp only at hmemory hdatabase hown ⊢
  rw [hmemory, hdatabase]
  have hcases := c.changeDocumentStatus_cases now context documentId command key p.memory
  generalize hout : outcome ((c.changeDocumentStatus now context documentId command key).run p.memory) = out at hcases
  generalize hafter : final ((c.changeDocumentStatus now context documentId command key).run p.memory) = after at hcases
  cases hcases with
  | unchecked e hcheck =>
    rw [Database.run_unchecked hcheck]
    refine ⟨rfl, .failed e fun scope record hscope => ?_, h⟩
    simp only [Pair.callScope, hcheck, reduceCtorEq] at hscope
  | unmanageable e hcheck hdocument =>
    rw [Database.run_unmanaged hcheck (h.same.no_row hdocument)]
    refine ⟨rfl, .failed e fun scope record hscope => ?_, h⟩
    simp only [Pair.callScope, hcheck, hdocument, reduceCtorEq] at hscope
  | conflict d existing hcheck hdocument hkey hne =>
    obtain ⟨row, hget, hrow, hmanaged, hscope⟩ := h.same.row hdocument
    have hrecorded := h.recorded (row.scopeKey, key)
    rw [hscope, hkey, ← hscope] at hrecorded
    generalize hcommand : p.database.documentCommands.get? (row.scopeKey, key) = found at hrecorded
    cases hrecorded with
    | some hhash =>
      rw [Database.run_conflict hcheck hget hmanaged hcommand fun heq => hne (hhash.symm.trans heq.1)]
      refine ⟨rfl, .failed _ fun scope record hscope' hfound => ?_, h⟩
      rw [callScope_ok hcheck hdocument] at hscope'
      cases hscope'
      cases hkey.symm.trans hfound
      exact ⟨hne, _, rfl⟩
  | replayed d existing hcheck hdocument hkey heq =>
    obtain ⟨row, hget, hrow, hmanaged, hscope⟩ := h.same.row hdocument
    have hrecorded := h.recorded (row.scopeKey, key)
    rw [hscope, hkey, ← hscope] at hrecorded
    generalize hcommand : p.database.documentCommands.get? (row.scopeKey, key) = found at hrecorded
    have hdoc := hown _ (callScope_ok hcheck hdocument) existing hkey heq
    cases hrecorded with
    | @some _ commandRow d' hhash hid hcurrent hresult =>
      rw [Database.run_replayed hcheck hget hmanaged hcommand ⟨hhash.trans heq, hid.trans hdoc⟩]
      rw [hid, hdoc, (manageable_ok hdocument).1] at hcurrent
      cases hcurrent
      refine ⟨?_, .replayed _ existing (callScope_ok hcheck hdocument) hkey heq, h⟩
      show Except.ok (StatusResult.mk existing.result.document true) = _
      rw [hresult]
      rfl
  | outdated d hcheck hdocument hkey hversion =>
    obtain ⟨row, hget, hrow, hmanaged, hscope⟩ := h.same.row hdocument
    have hrecorded := h.recorded (row.scopeKey, key)
    rw [hscope, hkey, ← hscope] at hrecorded
    generalize hcommand : p.database.documentCommands.get? (row.scopeKey, key) = found at hrecorded
    cases hrecorded with
    | none =>
      rw [Database.run_outdated hcheck hget hmanaged hcommand hversion]
      refine ⟨rfl, .failed _ fun scope record hscope' hfound => ?_, h⟩
      rw [callScope_ok hcheck hdocument] at hscope'
      cases hscope'
      cases hkey.symm.trans hfound
  | new d hcheck hdocument hkey hversion =>
    obtain ⟨row, hget, hrow, hmanaged, hscope⟩ := h.same.row hdocument
    have hrecorded := h.recorded (row.scopeKey, key)
    rw [hscope, hkey, ← hscope] at hrecorded
    generalize hcommand : p.database.documentCommands.get? (row.scopeKey, key) = found at hrecorded
    have hd := (manageable_ok hdocument).1
    have hread := h.same.document documentId
    rw [hd, hrow] at hread
    cases hrecorded with
    | none =>
      have happlied : p.database.applied documentId (p.memory.adminView _) command now = _ :=
        Database.applied_eq p.memory hrow (Option.some.inj hread) hversion
      rw [Database.run_new hcheck hget hmanaged hcommand hversion happlied]
      refine ⟨rfl, .new _ d _ (callScope_ok hcheck hdocument) hd hkey, ?_⟩
      rw [← hscope]
      refine mirrors_new h hd hrow rfl rfl ?_
      obtain ⟨status, reason, version, updatedAt, hframe⟩ := commanded_frame d command now
      rw [hframe]
      rfl

/-! ## Runs -/

/-- What is known of the calls made so far. -/
structure StatusInv (c : RepositoryConfig F) (p : Pair F) (K : List (Taken (Pair F) PairEntry)) : Prop where
  mirrors : Mirrors p
  /-- the key of a successful call is kept, with its command and its document -/
  kept : ∀ e ∈ K, ∀ result scope, e.label.memory = .ok result → e.before.callScope e.label.call = some scope →
    ∃ record, p.memory.statusIdempotency.get? (scope, e.label.call.key) = some record ∧
      record.requestHash = c.commandHash e.label.call.command ∧
      record.result.document.documentId = e.label.call.documentId
  /-- a version that was consumed is past -/
  past : ∀ e ∈ K, ∀ documentId v, Consumes e documentId v →
    ∃ d, p.memory.documents.get? documentId = some d ∧ v < d.version

/-- A command that changes the status moves to the next version. -/
theorem commanded_version (d : KnowledgeDocument) (command : StatusCommand) (now : Time) :
    d.version ≤ (d.commanded command now).version ∧
      ((d.commanded command now).status ≠ d.status → (d.commanded command now).version = d.version + 1) := by
  unfold KnowledgeDocument.commanded
  split
  · exact ⟨Nat.le_succ _, fun _ => rfl⟩
  · exact ⟨Nat.le_refl _, fun h => absurd rfl h⟩

/-- The documents after a call. -/
theorem Paired.documents {p p' : Pair F} {call : StatusCall} {out : Except KnowledgeError StatusResult}
    (h : Paired c p call out p') (k : String) : p'.memory.documents.get? k = p.memory.documents.get? k ∨
      k = call.documentId ∧ ∃ d, p.memory.documents.get? k = some d ∧
        p'.memory.documents.get? k = some (d.commanded call.command call.now) := by
  cases h with
  | failed => exact .inl rfl
  | replayed => exact .inl rfl
  | new scope d database hscope hd hkey =>
    have hget := get?_changed p.memory call.documentId d call.command call.now hd k
    by_cases hk : k = call.documentId
    · exact .inr ⟨hk, d, hk ▸ hd, hget.trans (if_pos hk)⟩
    · exact .inl (hget.trans (if_neg hk))

/-- A document moves forward. -/
theorem Paired.version_le {p p' : Pair F} {call : StatusCall} {out : Except KnowledgeError StatusResult}
    (h : Paired c p call out p') {k : String} {d : KnowledgeDocument} (hd : p.memory.documents.get? k = some d) :
    ∃ d', p'.memory.documents.get? k = some d' ∧ d.version ≤ d'.version := by
  obtain hsame | ⟨-, d', hd', hafter⟩ := h.documents k
  · exact ⟨d, hsame.trans hd, Nat.le_refl _⟩
  · cases hd.symm.trans hd'
    exact ⟨_, hafter, (commanded_version d call.command call.now).1⟩

/-- A call that consumes a version leaves the next one. -/
theorem Paired.consumed {p p' : Pair F} {e : PairEntry} (h : Paired c p e.call e.memory p') {documentId : String}
    {v : ℕ} (hconsumes : Consumes ⟨p, e, p'⟩ documentId v) :
    ∃ d, p'.memory.documents.get? documentId = some d ∧ v < d.version := by
  obtain ⟨-, d, d', hd, hd', hv, hstatus⟩ := hconsumes
  dsimp only at hd hd'
  obtain hsame | ⟨-, d₀, hd₀, hafter⟩ := h.documents documentId
  · rw [hsame, hd] at hd'
    cases hd'
    exact absurd rfl hstatus
  · rw [hd] at hd₀
    cases hd₀
    rw [hafter] at hd'
    cases hd'
    refine ⟨_, hafter, ?_⟩
    rw [(commanded_version d e.call.command e.call.now).2 hstatus]
    omega

/-- What is kept of a key stays. -/
theorem Paired.keeps {p p' : Pair F} {call : StatusCall} {out : Except KnowledgeError StatusResult}
    (h : Paired c p call out p') {k : String × String} {record : StatusIdempotencyRecord}
    (hk : p.memory.statusIdempotency.get? k = some record) : p'.memory.statusIdempotency.get? k = some record := by
  cases h with
  | failed => exact hk
  | replayed => exact hk
  | new scope d database hscope hd hkey =>
    refine (Dict.get?_set_ne _ ?_ _).trans hk
    rintro rfl
    cases hkey.symm.trans hk

/-- A successful call describes its document. -/
theorem Paired.names {p p' : Pair F} {e : PairEntry} (h : Paired c p e.call e.memory p') (hmirrors : Mirrors p)
    (hown : SameKeySameDocument c ⟨p, e, p'⟩) {result : StatusResult} (hresult : e.memory = .ok result) :
    result.document.documentId = e.call.documentId := by
  generalize e.memory = out at h hresult
  cases h with
  | failed => cases hresult
  | replayed scope record hscope hkey heq =>
    cases hresult
    exact hown scope hscope record hkey heq
  | new scope d database hscope hd hkey =>
    cases hresult
    obtain ⟨status, reason, version, updatedAt, hframe⟩ := commanded_frame d e.call.command e.call.now
    show (d.commanded e.call.command e.call.now).documentId = _
    rw [hframe]
    exact hmirrors.same.id _ d hd

theorem statusInv_step {p p' : Pair F} {K : List (Taken (Pair F) PairEntry)} {e : PairEntry} (h : StatusInv c p K)
    (hpaired : Paired c p e.call e.memory p') (hmirrors : Mirrors p') (hown : SameKeySameDocument c ⟨p, e, p'⟩) :
    StatusInv c p' (K ++ [⟨p, e, p'⟩]) := by
  refine ⟨hmirrors, fun e' he' result scope hresult hscope => ?_, fun e' he' documentId v hconsumes => ?_⟩
  · obtain he' | he' := List.mem_append.1 he'
    · obtain ⟨record, hkey, hrest⟩ := h.kept e' he' result scope hresult hscope
      exact ⟨record, hpaired.keeps hkey, hrest⟩
    · cases List.mem_singleton.1 he'
      dsimp only at hresult hscope
      have hnames := hpaired.names h.mirrors hown hresult
      generalize e.memory = out at hpaired hresult
      cases hpaired with
      | failed => cases hresult
      | replayed scope' record hscope' hkey heq =>
        cases hscope.symm.trans hscope'
        cases hresult
        exact ⟨record, hkey, heq, hnames⟩
      | new scope' d database hscope' hd hkey =>
        cases hscope.symm.trans hscope'
        cases hresult
        exact ⟨_, Dict.get?_set_self .., rfl, hnames⟩
  · obtain he' | he' := List.mem_append.1 he'
    · obtain ⟨d, hd, hlt⟩ := h.past e' he' documentId v hconsumes
      obtain ⟨d', hd', hle⟩ := hpaired.version_le hd
      exact ⟨d', hd', Nat.lt_of_lt_of_le hlt hle⟩
    · cases List.mem_singleton.1 he'
      exact hpaired.consumed hconsumes

/-- **Status commands.**  So long as a key that was used for a command is used again for its document only, the calls
    of a history are exact, and the repositories agree on them. -/
theorem statusCommands_exact {p₀ p : Pair F} {H : List (Taken (Pair F) PairEntry)} (hinit : c.paired.init p₀)
    (hrun : c.paired.Trace p₀ H p) (hown : ∀ e ∈ H, SameKeySameDocument c e)
    (hdigest : ∀ e ∈ H, ∀ e' ∈ H, c.commandHash e.label.call.command = c.commandHash e'.label.call.command →
      e.label.call.command = e'.label.call.command) : Exact H := by
  have hinv := hrun.invariant (I := fun q K => (∀ e ∈ K, SameKeySameDocument c e) →
      (∀ e ∈ K, ∀ e' ∈ K, c.commandHash e.label.call.command = c.commandHash e'.label.call.command →
        e.label.call.command = e'.label.call.command) → StatusInv c q K ∧ Exact K) ?_ ?_
  · exact (hinv hown hdigest).2
  · intro _ _
    have hnil : ∀ e : Taken (Pair F) PairEntry, e ∉ ([] : List (Taken (Pair F) PairEntry)) := fun _ => List.not_mem_nil
    exact ⟨⟨mirrors_init hinit, fun e he => absurd he (hnil e), fun e he => absurd he (hnil e)⟩,
      ⟨fun e he => absurd he (hnil e), fun e he => absurd he (hnil e), .nil, .nil⟩⟩
  · intro q e q' K ih hstep hown hdigest
    have hleft : ∀ e' ∈ K, e' ∈ K ++ [⟨q, e, q'⟩] := fun e' he' => List.mem_append_left _ he'
    have hlast : (⟨q, e, q'⟩ : Taken (Pair F) PairEntry) ∈ K ++ [⟨q, e, q'⟩] :=
      List.mem_append_right _ (List.mem_singleton_self _)
    obtain ⟨h, hexact⟩ := ih (fun e' he' => hown e' (hleft e' he'))
      fun e₁ h₁ e₂ h₂ => hdigest e₁ (hleft e₁ h₁) e₂ (hleft e₂ h₂)
    obtain ⟨hagree, hpaired, hmirrors⟩ := paired_step hstep h.mirrors (hown _ hlast)
    have h' := statusInv_step h hpaired hmirrors (hown _ hlast)
    refine ⟨h', fun e' he' => ?_, fun e' he' result hresult => ?_, every_snoc.2 ⟨hexact.keys, ?_⟩,
      every_snoc.2 ⟨hexact.versions, ?_⟩⟩
    · obtain he' | he' := List.mem_append.1 he'
      · exact hexact.agree e' he'
      · cases List.mem_singleton.1 he'
        exact hagree
    · obtain he' | he' := List.mem_append.1 he'
      · exact hexact.names e' he' result hresult
      · cases List.mem_singleton.1 he'
        exact hpaired.names h.mirrors (hown _ hlast) hresult
    · intro e' he' result scope hresult hscope' hscope hkey hother
      obtain ⟨record, hfound, hhash, hdocument⟩ := h.kept e' he' result scope hresult hscope'
      rw [hkey] at hfound
      dsimp only at hscope hfound hother ⊢
      have hsame := hown _ hlast scope hscope record hfound
      have hcollision := hdigest e' (hleft e' he') _ hlast
      generalize e.memory = out at hpaired
      cases hpaired with
      | failed error hconflict =>
        obtain ⟨-, message, rfl⟩ := hconflict scope record hscope hfound
        exact ⟨⟨message, rfl⟩, rfl⟩
      | replayed scope' record' hscope'' hfound' heq =>
        cases hscope.symm.trans hscope''
        cases hfound.symm.trans hfound'
        obtain hdoc | hcommand := hother
        · exact absurd (hdocument.symm.trans (hsame heq)) hdoc
        · exact absurd (hcollision (hhash.symm.trans heq)) hcommand
      | new scope' d database hscope'' hd hnone =>
        cases hscope.symm.trans hscope''
        cases hnone.symm.trans hfound
    · intro e' he' documentId v hconsumes' hconsumes
      obtain ⟨d, hd, hlt⟩ := h.past e' he' documentId v hconsumes'
      obtain ⟨-, d', -, hd', -, hv, -⟩ := hconsumes
      cases hd.symm.trans hd'
      omega

/-! ## One key, two documents -/

def lakeDocument (name : Char) : KnowledgeDocument :=
  documentOf wordTools (callEnv july name) "north" (lakeRequest .tenant july) (callEnv july name).newSourceId
    (lakeDigest "hello") false

def lakeChunk (name : Char) : KnowledgeChunk :=
  chunkFields wordTools (callEnv july name) "north" (lakeRequest .tenant july) (callEnv july name).newSourceId false 0
    "hello"

/-- Two documents of a tenant. -/
def twoDocuments : Pair ℕ where
  memory := {
    documents := (Dict.empty.set "da" (lakeDocument 'a')).set "db" (lakeDocument 'b')
    chunks := (Dict.empty.set "a" (lakeChunk 'a')).set "b" (lakeChunk 'b') }
  database := {
    documents := (Dict.empty.set "da" ⟨"north", lakeDocument 'a'⟩).set "db" ⟨"north", lakeDocument 'b'⟩
    chunks := (Dict.empty.set "a" "da").set "b" "db" }

theorem twoDocuments_init : plainRepository.paired.init twoDocuments := by
  refine ⟨⟨fun k => ?_, fun k d hd => ?_, fun k => ?_, fun k row hrow => ?_⟩, rfl, rfl⟩
  · show ((Dict.set _ "db" _).get? k).map _ = (Dict.set _ "db" _).get? k
    rw [Dict.get?_set, Dict.get?_set, Dict.get?_set, Dict.get?_set]
    by_cases hb : k = "db"
    · rw [if_pos hb, if_pos hb]
      rfl
    · by_cases ha : k = "da"
      · rw [if_neg hb, if_neg hb, if_pos ha, if_pos ha]
        rfl
      · rw [if_neg hb, if_neg hb, if_neg ha, if_neg ha]
        rfl
  · have hget : (Dict.set _ "db" _).get? k = some d := hd
    rw [Dict.get?_set, Dict.get?_set] at hget
    split at hget
    · next hk =>
      cases hget
      exact hk.symm
    · split at hget
      · next hk =>
        cases hget
        exact hk.symm
      · cases hget
  · have hdatabase : twoDocuments.database.chunks.values = ["da", "db"] := by decide +kernel
    have hmemory : twoDocuments.memory.chunks.values.map (·.documentId) = ["da", "db"] := by decide +kernel
    rw [hdatabase, ← hmemory, List.countP_map]
    rfl
  · have hget : (Dict.set _ "db" _).get? k = some row := hrow
    rw [Dict.get?_set, Dict.get?_set] at hget
    split at hget
    · cases hget
      exact .inr ⟨rfl, rfl⟩
    · split at hget
      · cases hget
        exact .inr ⟨rfl, rfl⟩
      · cases hget

/-- The quarantine of a document. -/
def quarantine (documentId : String) : StatusCall where
  now := july
  context := manager "north" north_stripped north_length ["tenant_admin"]
  documentId
  command := {
    targetStatus := .quarantined
    expectedVersion := 1
    reason := some "stale"
    version_pos := Nat.le_refl 1
    reason_length := by
      rintro _ ⟨⟩
      decide +kernel
    reason_given := fun _ => rfl }
  key := "moderate-1"

def paired (p : Pair ℕ) (call : StatusCall) : PairEntry where
  call
  memory := outcome ((plainRepository.changeDocumentStatus call.now call.context call.documentId call.command
    call.key).run p.memory)
  database := outcome ((Database.changeDocumentStatus wordTools call.now call.context call.documentId call.command
    call.key).run p.database)

def pairedState (p : Pair ℕ) (call : StatusCall) : Pair ℕ where
  memory := final ((plainRepository.changeDocumentStatus call.now call.context call.documentId call.command
    call.key).run p.memory)
  database := final ((Database.changeDocumentStatus wordTools call.now call.context call.documentId call.command
    call.key).run p.database)

/-- The quarantine of the first document, and a second call under its key. -/
def twoCommands (documentId : String) : List (Taken (Pair ℕ) PairEntry) :=
  let p := pairedState twoDocuments (quarantine "da")
  [⟨twoDocuments, paired twoDocuments (quarantine "da"), p⟩,
    ⟨p, paired p (quarantine documentId), pairedState p (quarantine documentId)⟩]

theorem trace_twoCommands (documentId : String) : plainRepository.paired.Trace twoDocuments (twoCommands documentId)
    (pairedState (pairedState twoDocuments (quarantine "da")) (quarantine documentId)) :=
  .cons ⟨rfl, rfl, rfl⟩ (.cons ⟨rfl, rfl, rfl⟩ (.nil _))

theorem twoCommands_command (documentId : String) : ∀ e ∈ twoCommands documentId,
    e.label.call.command = (quarantine "da").command := by
  intro e he
  obtain rfl | he := List.mem_cons.1 he
  · rfl
  · obtain rfl := List.mem_singleton.1 he
    rfl

/-- The command for the second document is answered with the first one. -/
theorem replay_names_other_document : ¬ ∀ (p₀ p : Pair ℕ) (H : List (Taken (Pair ℕ) PairEntry)),
    plainRepository.paired.init p₀ → plainRepository.paired.Trace p₀ H p →
    (∀ e ∈ H, ∀ e' ∈ H, plainRepository.commandHash e.label.call.command =
      plainRepository.commandHash e'.label.call.command →
      e.label.call.command = e'.label.call.command) → Exact H := by
  intro h
  have hexact := h _ _ _ twoDocuments_init (trace_twoCommands "db")
    fun e he e' he' _ => (twoCommands_command "db" e he).trans (twoCommands_command "db" e' he').symm
  have hanswer : (paired (pairedState twoDocuments (quarantine "da")) (quarantine "db")).memory.toOption.map
      (·.document.documentId) = some "da" := by decide +kernel
  obtain ⟨result, hresult, hid⟩ := Option.map_eq_some_iff.1 hanswer
  generalize hmemory : (paired (pairedState twoDocuments (quarantine "da")) (quarantine "db")).memory = out at hresult
  cases out with
  | error e => cases hresult
  | ok result' =>
    cases hresult
    have hname := hexact.names _ (List.mem_cons_of_mem _ List.mem_cons_self) result hmemory
    rw [hid] at hname
    exact absurd hname (by decide)

theorem statusCommands_exact_lake : Exact (twoCommands "da") := by
  refine statusCommands_exact twoDocuments_init (trace_twoCommands "da") (fun e he => ?_)
    fun e he e' he' _ => (twoCommands_command "da" e he).trans (twoCommands_command "da" e' he').symm
  obtain rfl | he := List.mem_cons.1 he
  · intro scope _ record hrecord
    cases hrecord
  · obtain rfl := List.mem_singleton.1 he
    intro scope _ record hrecord _
    have hall : (pairedState twoDocuments (quarantine "da")).memory.statusIdempotency.entries.all fun e =>
        e.2.result.document.documentId = "da" := by decide +kernel
    have hdocument := List.all_eq_true.1 hall _ (Dict.mem_entries_of_get? hrecord)
    rw [decide_eq_true_eq] at hdocument
    exact hdocument

end RoutePilot.Knowledge
