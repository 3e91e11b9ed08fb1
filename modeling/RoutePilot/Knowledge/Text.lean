/-
  Text safety and chunking of the knowledge base (`rag/text.py`).

  The parser of uploads is told of start tags, end tags and texts, and keeps the texts
  that it is told of while it counts no element as open whose content is dropped.

  The chunker splits a text at its blank lines.  A paragraph that is too long becomes windows,
  each of which repeats the end of the one before it.  Units are joined as long as a
  chunk has room, and a chunk that is begun because there is none repeats the end of
  the chunk before it.
-/
import RoutePilot.Lib.Framing
import RoutePilot.Lib.Strip
import RoutePilot.Model.RunInput

namespace RoutePilot.Knowledge

open Lib

/-- `MAX_CHUNK_CHARS` -/
def maxChunkChars : ℕ := 8_000

/-! ## `_TextOnlyHTMLParser` -/

/-- What `HTMLParser` reports. -/
inductive HtmlEvent where
  | starttag (tag : String)
  | endtag (tag : String)
  | data (data : String)
  deriving DecidableEq, Repr

structure TextOnlyHTMLParser where
  parts : List String := []
  blockDepth : ℕ := 0

namespace TextOnlyHTMLParser

/-- `_blocked` -/
def blocked : List String := ["script", "style", "iframe", "object", "embed", "svg", "math", "template"]

/-- `_breaks` -/
def breaks : List String := ["p", "div", "br", "li", "section", "article", "tr", "h1", "h2", "h3", "h4"]

/-- `handle_starttag`. -/
def handleStarttag (self : TextOnlyHTMLParser) (tag : String) : TextOnlyHTMLParser :=
  let normalized := pyLower tag
  if normalized ∈ blocked then { self with blockDepth := self.blockDepth + 1 }
  else if self.blockDepth = 0 ∧ normalized ∈ breaks then { self with parts := self.parts ++ ["\n"] }
  else self

/-- `handle_endtag`; the depth does not fall below 0. -/
def handleEndtag (self : TextOnlyHTMLParser) (tag : String) : TextOnlyHTMLParser :=
  let normalized := pyLower tag
  if normalized ∈ blocked then { self with blockDepth := self.blockDepth - 1 }
  else if self.blockDepth = 0 ∧ normalized ∈ breaks then { self with parts := self.parts ++ ["\n"] }
  else self

/-- `handle_data`. -/
def handleData (self : TextOnlyHTMLParser) (data : String) : TextOnlyHTMLParser :=
  if self.blockDepth = 0 then { self with parts := self.parts ++ [data] } else self

def handle (self : TextOnlyHTMLParser) : HtmlEvent → TextOnlyHTMLParser
  | .starttag tag => self.handleStarttag tag
  | .endtag tag => self.handleEndtag tag
  | .data data => self.handleData data

/-- `feed`. -/
def feed (self : TextOnlyHTMLParser) (events : List HtmlEvent) : TextOnlyHTMLParser := events.foldl handle self

/-- `"".join(parser.parts)` -/
def text (self : TextOnlyHTMLParser) : String := String.join self.parts

end TextOnlyHTMLParser

/-! ## Texts -/

/-- `text.strip()` -/
def strip (text : List Char) : List Char := stripEnds isPySpace text

/-- `text[-n:]`, for a positive `n`. -/
def lastChars (n : ℕ) (text : List Char) : List Char := text.drop (text.length - n)

/-- The length of a match of `\n\s*\n` at the head: up to the last line break of the white space. -/
def blankLine : List Char → Option ℕ
  | '\n' :: text =>
    match ((text.takeWhile isPySpace).rdropWhile (· != '\n')).length with
    | 0 => none
    | n + 1 => some (n + 2)
  | _ => none

/-- The pieces after the next `k` characters. -/
def splitAfter : ℕ → List Char → List (List Char)
  | _, [] => [[]]
  | k + 1, _ :: text => splitAfter k text
  | 0, c :: text =>
    match blankLine (c :: text) with
    | some n => [] :: splitAfter (n - 1) text
    | none => Separator.consHead c (splitAfter 0 text)

/-- `re.split(r"\n\s*\n", text)` -/
def splitBlankLines (text : List Char) : List (List Char) := splitAfter 0 text

/-! ## `ParagraphWindowChunker` -/

structure ParagraphWindowChunker where
  targetChars : ℕ
  overlapChars : ℕ
  target_ge : 200 ≤ targetChars
  target_le : targetChars ≤ maxChunkChars
  overlap_lt : overlapChars < targetChars

namespace ParagraphWindowChunker

/-- `__init__`. -/
def init (targetChars overlapChars : ℤ) : Except String ParagraphWindowChunker :=
  if h : targetChars < 200 ∨ targetChars > maxChunkChars then .error "target_chars is outside the safe chunk range"
  else if h' : overlapChars < 0 ∨ overlapChars ≥ targetChars then
    .error "overlap_chars must be non-negative and less than target_chars"
  else .ok ⟨targetChars.toNat, overlapChars.toNat, by omega, by omega, by omega⟩

variable (self : ParagraphWindowChunker)

/-- The units of a long paragraph, from `start` on. -/
def windows (paragraph : List Char) (start : ℕ) : List (List Char) :=
  if start < paragraph.length then
    let stop := min paragraph.length (start + self.targetChars)
    let unit := strip ((paragraph.take stop).drop start)
    if stop ≥ paragraph.length then [unit]
    else unit :: windows paragraph (max (start + 1) (stop - self.overlapChars))
  else []
termination_by paragraph.length - start

/-- The units of a paragraph. -/
def unitsOf (paragraph : List Char) : List (List Char) :=
  if paragraph.length ≤ self.targetChars then [paragraph] else self.windows paragraph 0

/-- The chunks so far, and the one being filled. -/
structure Merged where
  chunks : List (List Char)
  current : List Char

/-- A text, a blank line and another. -/
def joined (left right : List Char) : List Char := strip (left ++ ['\n', '\n'] ++ right)

/-- What the chunk after `current` begins with: the end of `current`, and the unit that had no room in it. -/
def begun (current unit : List Char) : List Char :=
  let tail := if self.overlapChars ≠ 0 then strip (lastChars self.overlapChars current) else []
  if tail ≠ [] then joined tail unit else unit

/-- One unit more. -/
def merge (m : Merged) (unit : List Char) : Merged :=
  let candidate := if m.current ≠ [] then joined m.current unit else unit
  if candidate.length ≤ self.targetChars then { m with current := candidate }
  else if m.current ≠ [] then { chunks := m.chunks ++ [m.current], current := self.begun m.current unit }
  else { m with current := unit }

/-- The paragraphs that are not empty. -/
def paragraphs (content : List Char) : List (List Char) := ((splitBlankLines content).map strip).filter (· ≠ [])

/-- The chunks before they are checked. -/
def chunksOf (content : List Char) : List (List Char) :=
  let merged := ((paragraphs content).flatMap self.unitsOf).foldl self.merge ⟨[], []⟩
  let chunks := if merged.current ≠ [] then merged.chunks ++ [merged.current] else merged.chunks
  if chunks = [] ∧ strip content ≠ [] then [strip content] else chunks

/-- `split`. -/
def split (content : String) : Except String (List String) :=
  let chunks := self.chunksOf content.toList
  if chunks.any fun chunk => chunk = [] ∨ chunk.length > maxChunkChars then .error "chunker produced an invalid chunk"
  else .ok (chunks.map String.ofList)

end ParagraphWindowChunker

end RoutePilot.Knowledge
