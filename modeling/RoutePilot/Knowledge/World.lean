/-
  Calls of the in-memory repository, one after the other.

  The operations that write are ingestion and status changes; the others read.
  `Entry.Fresh` is what the generator of identifiers promises about a call.  `listing`
  is a caller that lists the documents page by page, while the other calls go on.
-/
import Mathlib.Data.String.Basic
import RoutePilot.Knowledge.Memory
import RoutePilot.Lib.History
import RoutePilot.Lib.Keyset

namespace RoutePilot.Knowledge

open Lib Lts

inductive KnowledgeOp where
  | ingest (context : AuthorizedKnowledgeContext) (request : IngestDocumentRequest) (idempotencyKey : String)
  | changeStatus (context : AuthorizedKnowledgeContext) (documentId : String) (command : StatusCommand)
      (idempotencyKey : String)

inductive Answer where
  | ingested (result : IngestResult)
  | changed (result : StatusResult)

variable {F : Type}

/-- A call, and how it ended. -/
structure Entry (F : Type) where
  env : Env F
  op : KnowledgeOp
  result : Except KnowledgeError Answer

namespace RepositoryConfig
variable (c : RepositoryConfig F)

def call (env : Env F) : KnowledgeOp → KnowledgeM F Answer
  | .ingest context request key => .ingested <$> c.ingest env context request key
  | .changeStatus context documentId command key =>
    .changed <$> c.changeDocumentStatus env.now context documentId command key

/-- The repository, call by call. -/
def knowledge : Lts (Repository F) (Entry F) where
  init r := r = {}
  step r e r' := e.result = outcome ((c.call e.env e.op).run r) ∧ r' = final ((c.call e.env e.op).run r)

end RepositoryConfig

/-- The identifiers that a call draws are new. -/
structure Entry.Fresh (r : Repository F) (e : Entry F) : Prop where
  document : r.documents.get? e.env.newDocumentId = none
  source : ∀ k d, r.documents.get? k = some d → d.sourceId ≠ e.env.newSourceId
  chunk : ∀ n, r.chunks.get? (e.env.newChunkId n) = none
  chunks : Function.Injective e.env.newChunkId

/-- The identifier that a call draws for a document is new. -/
def newDocument (r : Repository F) (e : Entry F) : Prop := r.documents.get? e.env.newDocumentId = none

/-! ## Page by page -/

/-- What a caller has been returned, with the repository that goes on. -/
structure Listing (F : Type) where
  repository : Repository F
  position : Keyset.Position String
  items : List DocumentAdminView

inductive ListingStep (F : Type) where
  | page (limit : ℤ)
  | write (e : Entry F)

/-- The caller follows `next_cursor`, with any calls in between. -/
def RepositoryConfig.listing (c : RepositoryConfig F) (context : AuthorizedKnowledgeContext) :
    Lts (Listing F) (ListingStep F) where
  init s := c.knowledge.Reach newDocument s.repository ∧ s.position = .start ∧ s.items = []
  step s l s' := match l with
    | .page limit => s.position ≠ .ended ∧ ∃ page,
      s.repository.listDocuments context none limit s.position.cursor = .ok page ∧
      s' = { s with position := .ofNext page.nextCursor, items := s.items ++ page.items }
    | .write e => c.knowledge.step s.repository e s'.repository ∧ s' = { s with repository := s'.repository }

end RoutePilot.Knowledge
