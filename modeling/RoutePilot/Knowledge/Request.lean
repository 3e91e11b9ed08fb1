/-
  The ingest request and its parsing (`rag/models.py`).

  A body is checked field by field, and the errors of all fields are collected; an
  omitted field gets its default, which for `observed_at` is the time of the
  parsing.  What the standard library and the validation library read (URLs, IP
  addresses, timestamps, lax booleans and integers) is left open.
-/
import Mathlib.Tactic.Common
import RoutePilot.Knowledge.Models
import RoutePilot.Model.JsonText

namespace RoutePilot.Knowledge

/-! ## Source URIs -/

/-- What `urlsplit` finds. -/
structure SplitUrl where
  scheme : String
  hostname : Option String
  username : Option String
  password : Option String
  port : Option ℕ
  path : String
  query : String

/-- The attributes of an `ip_address`. -/
structure IpAddress where
  isPrivate : Bool
  isLoopback : Bool
  isLinkLocal : Bool
  isMulticast : Bool
  isReserved : Bool
  isUnspecified : Bool

/-- What is read by libraries. -/
structure Readers where
  urlsplit : String → Except String SplitUrl
  ipAddress : String → Option IpAddress
  urlunsplit : (scheme netloc path query fragment : String) → String
  /-- a timestamp; one without a timezone is no instant -/
  datetime : Json → Option (Option Time)
  bool : Json → Option Bool
  int : Json → Option ℤ
  floatText : FloatText

/-- `s.rstrip(".")`. -/
def rstripDots (s : String) : String := String.ofList ((s.toList.reverse.dropWhile (· = '.')).reverse)

variable (R : Readers)

/-- `canonicalize_source_uri`. -/
def canonicalizeSourceUri (value : String) : Except String String := do
  let parsed ← R.urlsplit (pyStrip value)
  let scheme := pyLower parsed.scheme
  if scheme ∉ ["http", "https"] then throw "source URI must use http or https"
  let hostname := parsed.hostname.getD ""
  if hostname = "" ∨ parsed.username.any (· ≠ "") ∨ parsed.password.any (· ≠ "") then
    throw "source URI must contain a host and no userinfo"
  let host := rstripDots (pyLower hostname)
  if (R.ipAddress host).any fun a => a.isPrivate || a.isLoopback || a.isLinkLocal || a.isMulticast ||
      a.isReserved || a.isUnspecified then
    throw "source URI must not reference a non-public IP address"
  let netloc := match parsed.port with
    | some port => host ++ ":" ++ toString port
    | none => host
  let path := if parsed.path = "" then "/" else parsed.path
  return R.urlunsplit scheme netloc path parsed.query ""

/-! ## Checks -/

structure FieldError where
  loc : List String
  message : String
  deriving DecidableEq, Repr

/-- A value, or the errors of its fields. -/
abbrev Checked (α : Type) := Except (List FieldError) α

namespace Checked
variable {α β : Type}

/-- Both are checked, and the errors of both are collected. -/
def seq : Checked (α → β) → Checked α → Checked β
  | .ok f, .ok a => .ok (f a)
  | .ok _, .error e => .error e
  | .error e, .ok _ => .error e
  | .error e, .error e' => .error (e ++ e')

/-- `raise ValueError` in a validator. -/
def fail (loc message : String) : Checked α := .error [⟨[loc], message⟩]

/-- The errors of a nested model are errors at its field. -/
def within (loc : String) : Checked α → Checked α
  | .ok a => .ok a
  | .error es => .error (es.map fun e => { e with loc := loc :: e.loc })

end Checked

section
variable (body : Obj) (loc : String)

/-- A field that may be omitted. -/
def optional {α : Type} (check : Json → Checked α) : Checked (Option α) :=
  match body.get? loc with
  | none => .ok none
  | some v => (check v).map some

/-- A field that must be given. -/
def required {α : Type} (check : Json → Checked α) : Checked α :=
  match body.get? loc with
  | none => .fail loc "missing"
  | some v => check v

/-- A string of bounded length, stripped. -/
def text (least most : ℕ) : Json → Checked String
  | .str s =>
    let s := pyStrip s
    if s.length < least then .fail loc "string_too_short"
    else if most < s.length then .fail loc "string_too_long"
    else .ok s
  | _ => .fail loc "string_type"

/-- A value or `null`. -/
def nullable {α : Type} (check : Json → Checked α) : Json → Checked (Option α)
  | .null => .ok none
  | v => (check v).map some

/-- An instant; a naive timestamp is rejected. -/
def instant (v : Json) : Checked Time :=
  match R.datetime v with
  | none => .fail loc "datetime_type"
  | some none => .fail loc "knowledge timestamps must include a timezone"
  | some (some t) => .ok t

/-- The strings of a list, stripped. -/
def strings : List Json → Checked (List String)
  | [] => .ok []
  | .str s :: items => .seq (.ok fun rest => pyStrip s :: rest) (strings items)
  | _ :: items => .seq (.seq (.ok fun _ rest => rest) (Checked.fail loc "string_type" : Checked Unit)) (strings items)

/-- `normalize_bounded_values`. -/
def normalizeBoundedValues (values : List String) : Checked (List String) :=
  let values := values.map pyStrip
  if values.any fun v => v.length = 0 ∨ 128 < v.length then .fail loc "metadata values must contain 1-128 characters"
  else .ok values.reverse.dedup.reverse

/-- A list of filter values. -/
def values : Json → Checked (List String)
  | .arr items =>
    if 64 < items.length then .fail loc "too_long"
    else (strings loc items).bind (normalizeBoundedValues loc)
  | _ => .fail loc "list_type"

def visibility : Json → Checked VisibilityScope
  | .str "public" => .ok .public_
  | .str "tenant" => .ok .tenant
  | _ => .fail loc "enum"

def trustTier : Json → Checked TrustTier
  | .str "official" => .ok .official
  | .str "operator" => .ok .operator
  | .str "trusted_media" => .ok .trustedMedia
  | .str "community" => .ok .community
  | .str "user_private" => .ok .userPrivate
  | _ => .fail loc "enum"

/-- A canonical URI. -/
def uri (value : String) : Checked String :=
  match canonicalizeSourceUri R value with
  | .ok s => .ok s
  | .error message => .fail loc message

/-- `validate_metadata_size`. -/
def metadata : Json → Checked Obj
  | .obj fields =>
    if 32_768 < (String.ofList ((Json.obj fields).dumps R.floatText)).utf8ByteSize then
      .fail loc "metadata exceeds 32768 UTF-8 bytes"
    else if fields.any fun e => e.1.length = 0 ∨ 128 < e.1.length then
      .fail loc "metadata keys must contain 1-128 characters"
    else .ok fields
  | _ => .fail loc "dict_type"

/-- `extra="forbid"`. -/
def noExtra (known : List String) : Checked Unit :=
  match body.filter fun e => e.1 ∉ known with
  | [] => .ok ()
  | extra => .error (extra.map fun e => ⟨[e.1], "extra_forbidden"⟩)

end

/-! ## The request -/

/-- `LicenseMetadata`. -/
def license : Json → Checked LicenseMetadata
  | .obj body =>
    .seq (.seq (.seq (.seq (.seq (.seq
      (.ok fun id url policy allowed days _ => ⟨id, url, policy, allowed.getD true, days⟩)
      (required body "license_id" (text "license_id" 1 128)))
      (match Obj.get? body "license_url" with
        | none | some .null => .ok none
        | some v => (text "license_url" 0 2_048 v).bind fun s =>
          if s = "" then .ok none else (uri R "license_url" s).map some))
      (required body "usage_policy" (text "usage_policy" 1 2_000)))
      (optional body "indexing_allowed" fun v =>
        match R.bool v with
        | some b => .ok b
        | none => .fail "indexing_allowed" "bool_type"))
      (match Obj.get? body "retention_days" with
        | none | some .null => .ok none
        | some v =>
          match R.int v with
          | some n =>
            if n < 1 then .fail "retention_days" "greater_than_equal"
            else if 36_500 < n then .fail "retention_days" "less_than_equal"
            else .ok (some n.toNat)
          | none => .fail "retention_days" "int_type"))
      (noExtra body ["license_id", "license_url", "usage_policy", "indexing_allowed", "retention_days"])
  | _ => .fail "license" "model_type"

/-- The fields that a body gives, checked and normalized. -/
structure GivenFields where
  canonicalSourceUri : String
  sourceType : String
  sourceVersion : String
  title : String
  content : String
  visibilityScope : Option VisibilityScope
  language : Option String
  geoEntities : Option (List String)
  tags : Option (List String)
  publishedAt : Option (Option Time)
  observedAt : Option Time
  validFrom : Option (Option Time)
  validUntil : Option (Option Time)
  corpusRevision : String
  trustTier : TrustTier
  license : LicenseMetadata
  parserVersion : Option String
  chunkerVersion : Option String
  metadata : Option Obj

/-- `IngestDocumentRequest`. -/
structure IngestDocumentRequest where
  canonicalSourceUri : String
  sourceType : String
  sourceVersion : String
  title : String
  content : String
  visibilityScope : VisibilityScope := .tenant
  language : String := "zh-CN"
  geoEntities : List String := []
  tags : List String := []
  publishedAt : Option Time := none
  observedAt : Time
  validFrom : Option Time := none
  validUntil : Option Time := none
  corpusRevision : String
  trustTier : TrustTier
  license : LicenseMetadata
  parserVersion : String := "plain-text@1"
  chunkerVersion : String := "paragraph-window@1"
  metadata : Obj := []

/-- The fields of `IngestDocumentRequest`, each with its own checks. -/
def givenFields : Json → Checked GivenFields
  | .obj body =>
    .seq (.seq (.seq (.seq (.seq (.seq (.seq
      (.seq (.seq (.seq (.seq (.seq (.seq (.seq (.seq (.seq (.seq (.seq (.seq (.seq
      (.ok fun a b c d e f g h i j k l m n o p q r s (_ : Unit) =>
        ⟨a, b, c, d, e, f, g, h, i, j, k, l, m, n, o, p, q, r, s⟩)
      (required body "canonical_source_uri" fun v =>
        (text "canonical_source_uri" 8 2_048 v).bind (uri R "canonical_source_uri")))
      (required body "source_type" (text "source_type" 1 64)))
      (required body "source_version" (text "source_version" 1 128)))
      (required body "title" (text "title" 1 256)))
      (required body "content" (text "content" 1 262_144)))
      (optional body "visibility_scope" (visibility "visibility_scope")))
      (optional body "language" (text "language" 2 32)))
      (optional body "geo_entities" (values "geo_entities")))
      (optional body "tags" (values "tags")))
      (optional body "published_at" (nullable (instant R "published_at"))))
      (optional body "observed_at" (instant R "observed_at")))
      (optional body "valid_from" (nullable (instant R "valid_from"))))
      (optional body "valid_until" (nullable (instant R "valid_until"))))
      (required body "corpus_revision" (text "corpus_revision" 1 128)))
      (required body "trust_tier" (trustTier "trust_tier")))
      (required body "license" fun v => (license R v).within "license"))
      (optional body "parser_version" (text "parser_version" 1 64)))
      (optional body "chunker_version" (text "chunker_version" 1 64)))
      (optional body "metadata" (metadata R "metadata")))
      (noExtra body ["canonical_source_uri", "source_type", "source_version", "title", "content", "visibility_scope",
        "language", "geo_entities", "tags", "published_at", "observed_at", "valid_from", "valid_until",
        "corpus_revision", "trust_tier", "license", "parser_version", "chunker_version", "metadata"])
  | _ => .error [⟨[], "model_type"⟩]

/-- The request of the given fields, parsed at the time `now`. -/
def GivenFields.request (given : GivenFields) (now : Time) : IngestDocumentRequest where
  canonicalSourceUri := given.canonicalSourceUri
  sourceType := given.sourceType
  sourceVersion := given.sourceVersion
  title := given.title
  content := given.content
  visibilityScope := given.visibilityScope.getD .tenant
  language := given.language.getD "zh-CN"
  geoEntities := given.geoEntities.getD []
  tags := given.tags.getD []
  publishedAt := given.publishedAt.join
  observedAt := given.observedAt.getD now
  validFrom := given.validFrom.join
  validUntil := given.validUntil.join
  corpusRevision := given.corpusRevision
  trustTier := given.trustTier
  license := given.license
  parserVersion := given.parserVersion.getD "plain-text@1"
  chunkerVersion := given.chunkerVersion.getD "paragraph-window@1"
  metadata := given.metadata.getD []

/-- `validate_validity_and_license`. -/
def validateValidityAndLicense (request : IngestDocumentRequest) : Checked IngestDocumentRequest :=
  if request.validFrom.any fun f => request.validUntil.any fun u => u ≤ f then
    .error [⟨[], "valid_until must be later than valid_from"⟩]
  else if request.license.indexingAllowed = false then .error [⟨[], "license does not permit indexing"⟩]
  else .ok request

/-- The parsing of a body at the time `now`. -/
def parseIngestRequest (now : Time) (body : Json) : Checked IngestDocumentRequest :=
  (givenFields R body).bind fun given => validateValidityAndLicense (given.request now)

/-! ## The time of the parsing -/

/-- What a body is parsed to depends on the time by the default of `observed_at` only. -/
theorem parseIngestRequest_cases (R : Readers) (body : Json) :
    (∃ es, ∀ now, parseIngestRequest R now body = .error es) ∨
    ∃ given, givenFields R body = .ok given ∧ ∀ now, parseIngestRequest R now body = .ok (given.request now) := by
  unfold parseIngestRequest
  cases hgiven : givenFields R body with
  | error es => exact .inl ⟨es, fun _ => rfl⟩
  | ok given =>
    simp only [Except.bind]
    unfold validateValidityAndLicense
    by_cases hvalid : (given.request 0).validFrom.any fun f => (given.request 0).validUntil.any fun u => u ≤ f
    · exact .inl ⟨_, fun now => if_pos hvalid⟩
    · by_cases hlicense : (given.request 0).license.indexingAllowed = false
      · exact .inl ⟨_, fun now => (if_neg hvalid).trans (if_pos hlicense)⟩
      · exact .inr ⟨given, rfl, fun now => (if_neg hvalid).trans (if_neg hlicense)⟩

end RoutePilot.Knowledge
