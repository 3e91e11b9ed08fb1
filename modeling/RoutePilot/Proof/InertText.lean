/-
  Which text of an upload is kept (`_TextOnlyHTMLParser` in `rag/text.py`).

  A document is a forest of texts, elements and void elements.  Its inert text leaves
  out what stands inside the elements whose content is dropped (`inert`).  The parser
  collects it, up to the first void element that is one of these (`text_feed_eq`): it is
  counted as open, and no end tag follows.  So the whole inert text is collected if and
  only if nothing of it follows such an element (`text_feed_eq_inert_iff`).
-/
import RoutePilot.Knowledge.Text

namespace RoutePilot.Knowledge

open TextOnlyHTMLParser

/-! ## Documents -/

/-- The elements that have no end tag. -/
def voidElements : List String :=
  ["area", "base", "br", "col", "embed", "hr", "img", "input", "link", "meta", "param", "source", "track", "wbr"]

/-- A part of a document. -/
inductive HtmlNode where
  | data (data : String)
  | element (tag : String) (children : List HtmlNode)
  | void (tag : String) (h : pyLower tag ∈ voidElements)

mutual

/-- What the parser is told of a part. -/
def HtmlNode.events : HtmlNode → List HtmlEvent
  | .data data => [.data data]
  | .element tag children => .starttag tag :: (eventsOf children ++ [.endtag tag])
  | .void tag _ => [.starttag tag]

def eventsOf : List HtmlNode → List HtmlEvent
  | [] => []
  | node :: nodes => node.events ++ eventsOf nodes

end

/-- A line break at a tag of the listed block elements. -/
def lineBreak (tag : String) : String := if pyLower tag ∈ breaks then "\n" else ""

mutual

/-- The inert text of a part: its texts and line breaks that are not inside a blocked element. -/
def HtmlNode.inert : HtmlNode → String
  | .data data => data
  | .element tag children =>
    if pyLower tag ∈ blocked then "" else lineBreak tag ++ inertOf children ++ lineBreak tag
  | .void tag _ => if pyLower tag ∈ blocked then "" else lineBreak tag

def inertOf : List HtmlNode → String
  | [] => ""
  | node :: nodes => node.inert ++ inertOf nodes

end

/-! ## Pieces -/

mutual

/-- The pieces of the inert text in their order, and `none` where a blocked void element stands, also inside
    a blocked element. -/
def HtmlNode.pieces : HtmlNode → List (Option String)
  | .data data => [some data]
  | .element tag children =>
    if pyLower tag ∈ blocked then (piecesOf children).filter (·.isNone)
    else some (lineBreak tag) :: (piecesOf children ++ [some (lineBreak tag)])
  | .void tag _ => if pyLower tag ∈ blocked then [none] else [some (lineBreak tag)]

def piecesOf : List HtmlNode → List (Option String)
  | [] => []
  | node :: nodes => node.pieces ++ piecesOf nodes

end

/-- The text of pieces. -/
def joinPieces (pieces : List (Option String)) : String := String.join (pieces.map (·.getD ""))

@[simp] theorem joinPieces_nil : joinPieces [] = "" := rfl

@[simp] theorem joinPieces_append (pieces pieces' : List (Option String)) :
    joinPieces (pieces ++ pieces') = joinPieces pieces ++ joinPieces pieces' := by
  rw [joinPieces, List.map_append, String.join_append]
  rfl

@[simp] theorem joinPieces_singleton (piece : Option String) : joinPieces [piece] = piece.getD "" := by
  simp [joinPieces]

theorem joinPieces_eq_empty_iff {pieces : List (Option String)} :
    joinPieces pieces = "" ↔ ∀ s, some s ∈ pieces → s = "" := by
  induction pieces with
  | nil => simp
  | cons piece pieces ih =>
    rw [← List.singleton_append, joinPieces_append, joinPieces_singleton, String.append_eq_empty_iff, ih]
    cases piece with
    | none => simp
    | some s => simp

/-- Without its texts nothing is left. -/
theorem joinPieces_filter_isNone (pieces : List (Option String)) : joinPieces (pieces.filter (·.isNone)) = "" := by
  rw [joinPieces_eq_empty_iff]
  intro s hs
  cases (List.mem_filter.1 hs).2

mutual

theorem HtmlNode.inert_eq : (node : HtmlNode) → node.inert = joinPieces node.pieces
  | .data data => by rw [HtmlNode.inert, HtmlNode.pieces, joinPieces_singleton]; rfl
  | .element tag children => by
    rw [HtmlNode.inert, HtmlNode.pieces]
    split
    · rw [joinPieces_filter_isNone]
    · rw [← List.singleton_append, joinPieces_append, joinPieces_append, joinPieces_singleton, ← inertOf_eq children,
        String.append_assoc]
      rfl
  | .void tag _ => by
    rw [HtmlNode.inert, HtmlNode.pieces]
    split
    · rw [joinPieces_singleton]; rfl
    · rw [joinPieces_singleton]; rfl

/-- The pieces make the inert text. -/
theorem inertOf_eq : (nodes : List HtmlNode) → inertOf nodes = joinPieces (piecesOf nodes)
  | [] => rfl
  | node :: nodes => by rw [inertOf, piecesOf, joinPieces_append, ← node.inert_eq, ← inertOf_eq nodes]

end

/-! ## Runs -/

/-- What the parser does on the events of a well-nested part: it counts each blocked void element as open from then
    on, and keeps the pieces before the first, if it counts none as open yet. -/
structure Follows (events : List HtmlEvent) (pieces : List (Option String)) : Prop where
  blockDepth : ∀ σ : TextOnlyHTMLParser, (σ.feed events).blockDepth = σ.blockDepth + pieces.count none
  text : ∀ σ : TextOnlyHTMLParser, (σ.feed events).text =
    σ.text ++ if σ.blockDepth = 0 then joinPieces (pieces.takeWhile (·.isSome)) else ""

theorem text_append (σ : TextOnlyHTMLParser) (part : String) :
    ({ σ with parts := σ.parts ++ [part] } : TextOnlyHTMLParser).text = σ.text ++ part := by
  simp [TextOnlyHTMLParser.text]

theorem feed_append (σ : TextOnlyHTMLParser) (events events' : List HtmlEvent) :
    σ.feed (events ++ events') = (σ.feed events).feed events' := List.foldl_append

theorem takeWhile_isSome_eq_self {pieces : List (Option String)} (h : pieces.count none = 0) :
    pieces.takeWhile (·.isSome) = pieces := by
  rw [List.takeWhile_eq_self_iff]
  intro piece hpiece
  cases piece with
  | none => exact absurd hpiece (List.count_eq_zero.1 h)
  | some s => rfl

theorem takeWhile_isSome_append {pieces : List (Option String)} (h : pieces.count none ≠ 0)
    (pieces' : List (Option String)) :
    (pieces ++ pieces').takeWhile (·.isSome) = pieces.takeWhile (·.isSome) := by
  have hmem : none ∈ pieces := List.count_pos_iff.1 (Nat.pos_of_ne_zero h)
  induction pieces with
  | nil => cases hmem
  | cons piece pieces ih =>
    cases piece with
    | none => rfl
    | some s =>
      have hrest : none ∈ pieces := by simpa using hmem
      rw [List.cons_append, List.takeWhile_cons_of_pos rfl, List.takeWhile_cons_of_pos rfl,
        ih (List.count_pos_iff.2 hrest).ne' hrest]

theorem Follows.nil : Follows [] [] :=
  ⟨fun σ => rfl, fun σ => by simp [feed]⟩

theorem Follows.append {events events' : List HtmlEvent} {pieces pieces' : List (Option String)}
    (h : Follows events pieces) (h' : Follows events' pieces') : Follows (events ++ events') (pieces ++ pieces') := by
  constructor
  · intro σ
    rw [feed_append, h'.blockDepth, h.blockDepth, List.count_append, Nat.add_assoc]
  · intro σ
    rw [feed_append, h'.text, h.text, h.blockDepth, String.append_assoc]
    congr 1
    by_cases hdepth : σ.blockDepth = 0
    · rw [hdepth, Nat.zero_add, if_pos rfl, if_pos rfl]
      by_cases hnone : pieces.count none = 0
      · rw [if_pos hnone, takeWhile_isSome_eq_self hnone, List.takeWhile_append_of_pos, joinPieces_append]
        intro piece hpiece
        rw [← takeWhile_isSome_eq_self hnone] at hpiece
        exact List.mem_takeWhile_imp hpiece
      · rw [if_neg hnone, takeWhile_isSome_append hnone, String.append_empty]
    · rw [if_neg hdepth, if_neg hdepth, if_neg (by omega), String.append_empty]

/-- One piece that is kept as long as no element counts as open. -/
theorem Follows.piece {event : HtmlEvent} {part : String} (hdepth : ∀ σ, (handle σ event).blockDepth = σ.blockDepth)
    (htext : ∀ σ, (handle σ event).text = σ.text ++ if σ.blockDepth = 0 then part else "") :
    Follows [event] [some part] := by
  constructor
  · exact fun σ => hdepth σ
  · intro σ
    rw [show σ.feed [event] = handle σ event from rfl, htext, List.takeWhile_cons_of_pos rfl, List.takeWhile_nil,
      joinPieces_singleton]
    rfl

theorem Follows.data (data : String) : Follows [.data data] [some data] := by
  refine .piece (fun σ => ?_) fun σ => ?_
  · rw [handle, handleData]
    split <;> rfl
  · rw [handle, handleData]
    split
    · rw [text_append]
    · rw [String.append_empty]

/-- A tag of an element that is not blocked. -/
theorem Follows.lineBreak {tag : String} (h : pyLower tag ∉ blocked) (event : HtmlEvent)
    (hevent : event = .starttag tag ∨ event = .endtag tag) : Follows [event] [some (lineBreak tag)] := by
  have hhandle : ∀ σ, handle σ event =
      if σ.blockDepth = 0 ∧ pyLower tag ∈ breaks then { σ with parts := σ.parts ++ ["\n"] } else σ := by
    intro σ
    rcases hevent with rfl | rfl
    · rw [handle, handleStarttag]
      exact if_neg h
    · rw [handle, handleEndtag]
      exact if_neg h
  refine .piece (fun σ => ?_) fun σ => ?_
  · rw [hhandle]
    split <;> rfl
  · rw [hhandle, Knowledge.lineBreak]
    by_cases hdepth : σ.blockDepth = 0
    · by_cases hbreak : pyLower tag ∈ breaks
      · rw [if_pos ⟨hdepth, hbreak⟩, if_pos hdepth, if_pos hbreak, text_append]
      · rw [if_neg fun hand => hbreak hand.2, if_pos hdepth, if_neg hbreak, String.append_empty]
    · rw [if_neg fun hand => hdepth hand.1, if_neg hdepth, String.append_empty]

/-- The start tag of a blocked element. -/
theorem handle_starttag {tag : String} (h : pyLower tag ∈ blocked) (σ : TextOnlyHTMLParser) :
    handle σ (.starttag tag) = { σ with blockDepth := σ.blockDepth + 1 } := by
  rw [handle, handleStarttag]
  exact if_pos h

theorem Follows.void {tag : String} (h : pyLower tag ∈ blocked) : Follows [.starttag tag] [none] := by
  constructor
  · intro σ
    rw [show σ.feed [.starttag tag] = handle σ (.starttag tag) from rfl, handle_starttag h]
    rfl
  · intro σ
    rw [show σ.feed [.starttag tag] = handle σ (.starttag tag) from rfl, handle_starttag h]
    simp [TextOnlyHTMLParser.text]

/-- A blocked element: its texts are dropped, but a blocked void element in it stays open. -/
theorem Follows.blocked {tag : String} (h : pyLower tag ∈ blocked) {events : List HtmlEvent}
    {pieces : List (Option String)} (hevents : Follows events pieces) :
    Follows (.starttag tag :: (events ++ [.endtag tag])) (pieces.filter (·.isNone)) := by
  have hcount : (pieces.filter (·.isNone)).count none = pieces.count none := List.count_filter rfl
  have htake : joinPieces ((pieces.filter (·.isNone)).takeWhile (·.isSome)) = "" := by
    rw [joinPieces_eq_empty_iff]
    intro s hs
    cases (List.mem_filter.1 ((List.takeWhile_prefix _).subset hs)).2
  have hfeed : ∀ σ : TextOnlyHTMLParser, σ.feed (.starttag tag :: (events ++ [.endtag tag])) =
      handle (({ σ with blockDepth := σ.blockDepth + 1 } : TextOnlyHTMLParser).feed events) (.endtag tag) := by
    intro σ
    rw [← handle_starttag h, feed, List.foldl_cons, List.foldl_append]
    rfl
  have hend : ∀ σ, handle σ (.endtag tag) = { σ with blockDepth := σ.blockDepth - 1 } := by
    intro σ
    rw [handle, handleEndtag]
    exact if_pos h
  constructor
  · intro σ
    rw [hfeed, hend, hcount]
    dsimp only
    rw [hevents.blockDepth]
    dsimp only
    omega
  · intro σ
    rw [hfeed, hend, htake, ite_self, String.append_empty]
    have htext := hevents.text { σ with blockDepth := σ.blockDepth + 1 }
    rw [if_neg (Nat.succ_ne_zero _), String.append_empty] at htext
    exact htext

mutual

theorem HtmlNode.follows : (node : HtmlNode) → Follows node.events node.pieces
  | .data data => by
    rw [HtmlNode.events, HtmlNode.pieces]
    exact .data data
  | .element tag children => by
    rw [HtmlNode.events, HtmlNode.pieces]
    split
    · rename_i h
      exact .blocked h (follows_eventsOf children)
    · rename_i h
      exact (Follows.lineBreak h _ (.inl rfl)).append ((follows_eventsOf children).append (.lineBreak h _ (.inr rfl)))
  | .void tag _ => by
    rw [HtmlNode.events, HtmlNode.pieces]
    split
    · rename_i h
      exact .void h
    · rename_i h
      exact .lineBreak h _ (.inl rfl)

theorem follows_eventsOf : (nodes : List HtmlNode) → Follows (eventsOf nodes) (piecesOf nodes)
  | [] => .nil
  | node :: nodes => by
    rw [eventsOf, piecesOf]
    exact node.follows.append (follows_eventsOf nodes)

end

/-- **The parser keeps the inert text up to the first blocked void element.** -/
theorem text_feed_eq (document : List HtmlNode) : (feed {} (eventsOf document)).text =
    joinPieces ((piecesOf document).takeWhile (·.isSome)) := by
  rw [(follows_eventsOf document).text, if_pos rfl]
  exact String.empty_append

/-- Of the inert text nothing follows a blocked void element. -/
def NothingFollows (document : List HtmlNode) : Prop :=
  ∀ s, some s ∈ (piecesOf document).dropWhile (·.isSome) → s = ""

/-- **The parser collects the inert text if and only if nothing of it follows a blocked void element.** -/
theorem text_feed_eq_inert_iff (document : List HtmlNode) :
    (feed {} (eventsOf document)).text = inertOf document ↔ NothingFollows document := by
  rw [text_feed_eq, inertOf_eq, NothingFollows, ← joinPieces_eq_empty_iff]
  conv_lhs => rhs; rw [← List.takeWhile_append_dropWhile (p := (·.isSome)) (l := piecesOf document), joinPieces_append]
  constructor
  · intro h
    have hlist := congrArg String.toList h
    rw [String.toList_append, List.self_eq_append_right] at hlist
    rwa [String.toList_eq_nil_iff] at hlist
  · intro h
    rw [h, String.append_empty]

/-- A paragraph before an `embed` is kept, without its script. -/
theorem text_before_embed : (feed {} (eventsOf [.element "p" [.data "开放时间", .element "script" [.data "open()"]],
      .void "embed" (by decide)])).text =
    inertOf [.element "p" [.data "开放时间", .element "script" [.data "open()"]], .void "embed" (by decide)] := by
  refine (text_feed_eq_inert_iff _).2 fun s hs => ?_
  rw [show (piecesOf [.element "p" [.data "开放时间", .element "script" [.data "open()"]],
    .void "embed" (by decide)]).dropWhile (·.isSome) = [none] by decide +kernel] at hs
  cases List.mem_singleton.1 hs

/-- A paragraph after an `embed` is lost. -/
theorem text_after_embed : (feed {} (eventsOf [.void "embed" (by decide), .element "p" [.data "开放时间"]])).text = "" ∧
    inertOf [.void "embed" (by decide), .element "p" [.data "开放时间"]] = "\n开放时间\n" := by
  decide +kernel

end RoutePilot.Knowledge
