/-
  The event stream round-trips over the wire.

  A frame is some lines without control characters, none of them empty, so no
  blank line is in it before the one that ends it (`Framed`): cutting the whole
  text at blank lines gives the frames back.  The reader cuts what it has
  decoded so far, which comes to the same (`Separator.split_feedAll`), wherever
  the bytes are cut.
-/
import Mathlib.Data.Option.Basic
import RoutePilot.Web.Sse

namespace RoutePilot

open Lib Web

/-! ## Frames -/

/-- Lines without control characters, of which none but the first can be empty. -/
inductive Framed : List Char → Prop
  | nil : Framed []
  | char {c : Char} {s : List Char} (hc : 32 ≤ c.toNat) (h : Framed s) : Framed (c :: s)
  | line {c : Char} {s : List Char} (hc : 32 ≤ c.toNat) (h : Framed s) : Framed ('\n' :: c :: s)

theorem Framed.append {s t : List Char} (h : Framed s) (h' : Framed t) : Framed (s ++ t) := by
  induction h with
  | nil => exact h'
  | char hc _ ih => exact .char hc ih
  | line hc _ ih => exact .line hc ih

theorem Framed.of_oneLine : ∀ {s : List Char}, Json.OneLine s → Framed s
  | [], _ => .nil
  | c :: _, h => .char (h c List.mem_cons_self) (.of_oneLine fun d hd => h d (List.mem_cons_of_mem c hd))

theorem Framed.newline {s : List Char} (h : Json.OneLine s) (hne : s ≠ []) : Framed ('\n' :: s) := by
  cases s with
  | nil => exact absurd rfl hne
  | cons c s => exact .line (h c List.mem_cons_self) (.of_oneLine fun d hd => h d (List.mem_cons_of_mem c hd))

/-- A word of control characters does not begin with another character. -/
theorem len_char {W : Words Char} (hW : ∀ w ∈ W.words, w.head?.any (·.toNat < 32)) {c : Char} {s : List Char}
    (hc : 32 ≤ c.toNat) : W.separator.len (c :: s) = none := by
  refine W.len_eq_none.2 fun w hw hprefix => ?_
  obtain ⟨d, hd, hlow⟩ := Option.any_eq_true _ _ |>.1 (hW w hw)
  obtain ⟨t, rfl⟩ := List.head?_eq_some_iff.1 hd
  obtain ⟨rfl, -⟩ := List.cons_prefix_cons.1 hprefix
  simp only [decide_eq_true_eq] at hlow
  omega

theorem blankLine_len_line {c : Char} {s : List Char} (hc : 32 ≤ c.toNat) :
    blankLine.separator.len ('\n' :: c :: s) = none := by
  refine blankLine.len_eq_none.2 fun w hw hprefix => ?_
  have hsecond : ∀ w ∈ blankLine.words, w.tail.head?.any (·.toNat < 32) := by decide
  obtain ⟨d, hd, hlow⟩ := Option.any_eq_true _ _ |>.1 (hsecond w hw)
  obtain ⟨t, ht⟩ := List.head?_eq_some_iff.1 hd
  obtain ⟨b, u, rfl⟩ : ∃ b u, w = b :: u := List.exists_cons_of_ne_nil (by rintro rfl; cases ht)
  rw [List.tail_cons] at ht
  rw [ht] at hprefix
  obtain ⟨-, hprefix⟩ := List.cons_prefix_cons.1 hprefix
  obtain ⟨rfl, -⟩ := List.cons_prefix_cons.1 hprefix
  simp only [decide_eq_true_eq] at hlow
  omega

/-- No blank line begins inside of a frame. -/
theorem Framed.len_eq_none {s : List Char} (h : Framed s) (t : List Char) :
    ∀ k < s.length, blankLine.separator.len (s.drop k ++ t) = none := by
  induction h with
  | nil => exact fun k hk => absurd hk (Nat.not_lt_zero k)
  | char hc _ ih =>
    rintro (- | k) hk
    · exact len_char (by decide) hc
    · exact ih k (Nat.lt_of_succ_lt_succ hk)
  | line hc _ ih =>
    rintro (- | - | k) hk
    · exact blankLine_len_line hc
    · exact len_char (by decide) hc
    · exact ih k (Nat.lt_of_succ_lt_succ (Nat.lt_of_succ_lt_succ hk))

/-- What comes before a blank line is one piece. -/
theorem Framed.split {s : List Char} (h : Framed s) (rest : List Char) :
    blankLine.separator.split (s ++ ['\n', '\n'] ++ rest) = s :: blankLine.separator.split rest := by
  refine blankLine.separator.split_terminated (n := 2) rest (by decide) rfl fun k hk => ?_
  rw [List.append_assoc]
  exact h.len_eq_none _ k hk

section
variable (F : FloatText)

theorem toString_nat_oneLine (n : ℕ) : Json.OneLine (toString n).toList := by
  have heq : (toString n).toList = Nat.toDigits 10 n := by simp [toString, Nat.repr]
  rw [heq]
  exact Json.toDigits_oneLine n

theorem idLine_oneLine (e : RunEvent) : Json.OneLine (idLine e) := .append (by decide) (toString_nat_oneLine e.seq)

theorem eventLine_oneLine (e : RunEvent) : Json.OneLine (eventLine e) := by
  refine .append (by decide) ?_
  cases e.type <;> decide

theorem dataLine_oneLine (e : RunEvent) : Json.OneLine (dataLine F e) := .append (by decide) (Json.dumps_oneLine F _)

theorem heartbeatLine_oneLine (now : Time) : Json.OneLine (heartbeatLine now) :=
  .append (by decide) (Time.isoformat_oneLine now)

theorem StreamItem.framed (item : StreamItem) : Framed (item.frame F) := by
  cases item with
  | event e =>
    refine .append (.of_oneLine (idLine_oneLine e)) ?_
    rw [← List.cons_append]
    exact .append (.newline (eventLine_oneLine e) (by simp [eventLine]))
      (.newline (dataLine_oneLine F e) (by simp [dataLine]))
  | heartbeat now => exact .of_oneLine (heartbeatLine_oneLine now)

/-- **The text of a stream, cut at blank lines.** -/
theorem split_streamText (items : List StreamItem) :
    blankLine.separator.split (streamText F items) = items.map (·.frame F) ++ [[]] := by
  induction items with
  | nil => rfl
  | cons item items ih =>
    have hcons : streamText F (item :: items) = item.frame F ++ ['\n', '\n'] ++ streamText F items := by
      simp [streamText, StreamItem.text]
    rw [hcons, (item.framed F).split, ih]
    rfl

/-! ## One frame -/

theorem lineBreak_len_drop {s : List Char} (h : Json.OneLine s) (t : List Char) :
    ∀ k < s.length, lineBreak.separator.len (s.drop k ++ t) = none := by
  intro k hk
  rw [List.drop_eq_getElem_cons hk, List.cons_append]
  exact len_char (by decide) (h _ (List.getElem_mem hk))

/-- The lines of a text, the first of them without control characters. -/
theorem split_line {s : List Char} (h : Json.OneLine s) (rest : List Char) :
    lineBreak.separator.split (s ++ '\n' :: rest) = s :: lineBreak.separator.split rest := by
  have hsplit : lineBreak.separator.split (s ++ ['\n'] ++ rest) = s :: lineBreak.separator.split rest :=
    lineBreak.separator.split_terminated rest (show lineBreak.separator.len ['\n'] = some 1 by decide) rfl
      fun k hk => by
      rw [List.append_assoc]
      exact lineBreak_len_drop h _ k hk
  rwa [List.append_assoc] at hsplit

theorem split_lastLine {s : List Char} (h : Json.OneLine s) : lineBreak.separator.split s = [s] := by
  refine lineBreak.separator.split_single fun k => ?_
  rcases Nat.lt_or_ge k s.length with hk | hk
  · have hnone := lineBreak_len_drop h [] k hk
    rwa [List.append_nil] at hnone
  · rw [List.drop_of_length_le hk]
    exact lineBreak.separator.nil

theorem idLine_read (e : RunEvent) : Fields.read {} (idLine e) = { id := some (toString e.seq).toList } := rfl

theorem eventLine_read (e : RunEvent) (fields : Fields) :
    fields.read (eventLine e) = { fields with event := some e.type.value.toList } := rfl

theorem dataLine_read (e : RunEvent) (fields : Fields) :
    fields.read (dataLine F e) = { fields with data := fields.data ++ [(Json.obj e.dump).dumps F] } := rfl

/-- The frame of an event is read back. -/
theorem parseFrame_event (e : RunEvent) :
    parseFrame ((StreamItem.event e).frame F) = some {
      event := some e.type.value.toList, id := some (toString e.seq).toList, data := (Json.obj e.dump).dumps F } := by
  unfold parseFrame StreamItem.frame
  simp only [split_line (idLine_oneLine e), split_line (eventLine_oneLine e), split_lastLine (dataLine_oneLine F e),
    List.foldl_cons, List.foldl_nil, idLine_read, eventLine_read, dataLine_read]
  rfl

/-- A heartbeat is a comment. -/
theorem parseFrame_heartbeat (now : Time) : parseFrame ((StreamItem.heartbeat now).frame F) = none := by
  unfold parseFrame StreamItem.frame
  rw [split_lastLine (heartbeatLine_oneLine now)]
  rfl

end

/-! ## The stream -/

/-- The envelope that the contract asks for. -/
structure RunEvent.Enveloped (e : RunEvent) : Prop where
  schemaVersion : e.schemaVersion = 1
  seq : 1 ≤ e.seq
  audience : e.audience = "trip_members"

/-- The event as the browser has it. -/
def RunEvent.toPublic (e : RunEvent) : PublicRunEvent where
  eventId := e.eventId
  seq := e.seq
  type := e.type
  occurredAt := Time.dumped e.occurredAt
  tripId := e.tripId
  runId := e.runId
  traceId := e.traceId
  data := cleanData e.type (some (.obj e.data))

theorem RunEvent.dump_type (e : RunEvent) : Obj.get? e.dump "type" = some (.str e.type.value) := rfl
theorem RunEvent.dump_schemaVersion (e : RunEvent) :
    Obj.get? e.dump "schema_version" = some (.int e.schemaVersion) := rfl
theorem RunEvent.dump_seq (e : RunEvent) : Obj.get? e.dump "seq" = some (.int e.seq) := rfl
theorem RunEvent.dump_eventId (e : RunEvent) : Obj.get? e.dump "event_id" = some (.str e.eventId) := rfl
theorem RunEvent.dump_occurredAt (e : RunEvent) :
    Obj.get? e.dump "occurred_at" = some (.str (Time.dumped e.occurredAt)) := rfl
theorem RunEvent.dump_tripId (e : RunEvent) : Obj.get? e.dump "trip_id" = some (.str e.tripId) := rfl
theorem RunEvent.dump_runId (e : RunEvent) : Obj.get? e.dump "run_id" = some (.str e.runId) := rfl
theorem RunEvent.dump_traceId (e : RunEvent) : Obj.get? e.dump "trace_id" = some (.str e.traceId) := rfl
theorem RunEvent.dump_audience (e : RunEvent) : Obj.get? e.dump "audience" = some (.str e.audience) := rfl
theorem RunEvent.dump_data (e : RunEvent) : Obj.get? e.dump "data" = some (.obj e.data) := rfl

theorem parsePublicRunEvent_dump {e : RunEvent} (h : e.Enveloped) :
    parsePublicRunEvent (.obj e.dump) = some e.toPublic := by
  obtain ⟨hschema, hseq, haudience⟩ := h
  have hpos : (1 : ℤ) ≤ e.seq := by exact_mod_cast hseq
  simp only [parsePublicRunEvent, RunEvent.dump_type, RunEvent.dump_schemaVersion, RunEvent.dump_seq,
    RunEvent.dump_eventId, RunEvent.dump_occurredAt, RunEvent.dump_tripId, RunEvent.dump_runId, RunEvent.dump_traceId,
    RunEvent.dump_audience, RunEvent.dump_data, string?, integer?, hschema, haudience, publicRunEventType?_value,
    Option.bind_some]
  simp [hpos, RunEvent.toPublic]

/-- `TextDecoder` in streaming mode, as specified: it decodes what is encoded, wherever the bytes are cut.
    (It removes a byte order mark at the start.) -/
def Web.TextDecoder.Inverse (D : TextDecoder) : Prop :=
  ∀ text : List Char, text.head? ≠ some '\uFEFF' → ∀ chunks : List (List UInt8), chunks.flatten = Utf8.encode text →
    (D.decodeAll D.start chunks).flatten = text

theorem StreamItem.text_head (F : FloatText) (item : StreamItem) (rest : List Char) :
    (item.text F ++ rest).head? = some 'i' ∨ (item.text F ++ rest).head? = some ':' := by
  cases item with
  | event e =>
    left
    rw [text, frame, idLine]
    simp only [List.cons_append, List.head?_cons]
  | heartbeat now =>
    right
    rw [text, frame, heartbeatLine]
    simp only [List.cons_append, List.head?_cons]

theorem streamText_head (F : FloatText) (items : List StreamItem) : (streamText F items).head? ≠ some '\uFEFF' := by
  cases items with
  | nil => exact nofun
  | cons item items =>
    rw [streamText, List.flatMap_cons]
    rcases item.text_head F (items.flatMap (·.text F)) with h | h <;>
    · rw [h]
      decide

theorem consume_none {block : List Char} (parse : JsonParse) (h : parseFrame block = none) :
    consume parse block = [] := by
  simp only [consume, h]

theorem consume_some {block : List Char} {parse : JsonParse} {frame : SseFrame} {payload : Json}
    {event : PublicRunEvent} (h : parseFrame block = some frame) (hparse : parse frame.data = some payload)
    (hevent : parsePublicRunEvent payload = some event) : consume parse block = [.onEvent event] := by
  simp only [consume, h, hparse, hevent]

/-- What consuming the frames of a stream comes to. -/
theorem consume_frames (F : FloatText) (parse : JsonParse) {items : List StreamItem}
    (hvalid : ∀ e ∈ streamedEvents items, e.Enveloped)
    (hparse : ∀ e ∈ streamedEvents items, parse ((Json.obj e.dump).dumps F) = some (.obj e.dump)) :
    (items.map (·.frame F)).flatMap (consume parse) = (streamedEvents items).map fun e => .onEvent e.toPublic := by
  induction items with
  | nil => rfl
  | cons item items ih =>
    rw [List.map_cons, List.flatMap_cons]
    cases item with
    | event e =>
      have hevents : streamedEvents (.event e :: items) = e :: streamedEvents items := List.filterMap_cons_some rfl
      rw [hevents, List.forall_mem_cons] at hvalid hparse
      rw [consume_some (parseFrame_event F e) hparse.1 (parsePublicRunEvent_dump hvalid.1), ih hvalid.2 hparse.2,
        hevents, List.map_cons, List.singleton_append]
    | heartbeat now =>
      have hevents : streamedEvents (.heartbeat now :: items) = streamedEvents items := List.filterMap_cons_none rfl
      rw [hevents] at hvalid hparse ⊢
      rw [consume_none parse (parseFrame_heartbeat F now), ih hvalid hparse, List.nil_append]

theorem mapM_some {α β : Type} {f : α → Option β} {g : α → β} :
    ∀ {l : List α}, (∀ a ∈ l, f a = some (g a)) → l.mapM f = some (l.map g)
  | [], _ => rfl
  | a :: l, h => by
    rw [List.forall_mem_cons] at h
    rw [List.mapM_cons, h.1, mapM_some h.2]
    rfl

/-- **The event stream round-trips over the wire.**  For every sequence of events and heartbeats, and every way of
    cutting its bytes into chunks, the browser is called with exactly the parsed events of the sequence, in order. -/
theorem event_stream_round_trip (F : FloatText) (D : TextDecoder) (hdecoder : D.Inverse) (parse : JsonParse)
    (items : List StreamItem) (hvalid : ∀ e ∈ streamedEvents items, e.Enveloped)
    (hparse : ∀ e ∈ streamedEvents items, parse ((Json.obj e.dump).dumps F) = some (.obj e.dump))
    (chunks : List (List UInt8)) (hchunks : chunks.flatten = Utf8.encode (streamText F items)) :
    ∃ parsed, (streamedEvents items).mapM (fun e => parsePublicRunEvent (.obj e.dump)) = some parsed ∧
      streamRunEventsOnce D parse chunks = parsed.map .onEvent := by
  refine ⟨(streamedEvents items).map RunEvent.toPublic,
    mapM_some fun e he => parsePublicRunEvent_dump (hvalid e he), ?_⟩
  have htext := hdecoder _ (streamText_head F items) chunks hchunks
  -- the pieces that were read and the rest are the frames and an empty piece
  have hsplit := blankLine.separator.split_feedAll [] (D.decodeAll D.start chunks)
  rw [List.nil_append, htext, split_streamText, blankLine.separator.split_feedAll_rest _ rfl] at hsplit
  obtain ⟨hframes, hrest⟩ := List.append_inj' hsplit rfl
  rw [streamRunEventsOnce, readStream_eq]
  simp only [hframes, List.singleton_inj.1 hrest, consume_frames F parse hvalid hparse]
  simp

/-! ## A decoder -/

namespace Utf8Stream

/-- What was decoded, and the bytes of an unfinished character. -/
structure State where
  started : Bool := false
  pending : List UInt8 := []

/-- A byte order mark at the start is removed. -/
def withoutMark (started : Bool) : List Char → List Char
  | c :: text => if !started && c = '\uFEFF' then text else c :: text
  | [] => []

/-- The replacement of an unfinished character at the end. -/
def flushed (pending : List UInt8) : List Char := if pending = [] then [] else ['\uFFFD']

def decode (state : State) (value : List UInt8) (stream : Bool) : List Char × State :=
  let pushed := Utf8.pushAll state.pending value
  let text := withoutMark state.started pushed.1
  if stream then (text, { started := state.started || !pushed.1.isEmpty, pending := pushed.2 })
  else (text ++ flushed pushed.2, {})

/-- `new TextDecoder()`. -/
def decoder : TextDecoder := { State := State, start := {}, decode := decode }

theorem withoutMark_eq {started : Bool} {text : List Char} (h : started = true ∨ text.head? ≠ some '\uFEFF') :
    withoutMark started text = text := by
  cases text with
  | nil => rfl
  | cons c text =>
    rcases h with rfl | h
    · rfl
    · have hc : c ≠ '\uFEFF' := fun he => h (congrArg some he)
      simp [withoutMark, hc]

/-- The chunks are decoded as their bytes are, one after the other. -/
theorem decodeAll_eq (state : State) (chunks : List (List UInt8))
    (h : state.started = true ∨ (Utf8.pushAll state.pending chunks.flatten).1.head? ≠ some '\uFEFF') :
    (decoder.decodeAll state chunks).flatten =
      (Utf8.pushAll state.pending chunks.flatten).1 ++ flushed (Utf8.pushAll state.pending chunks.flatten).2 := by
  induction chunks generalizing state with
  | nil => simp [TextDecoder.decodeAll, decoder, decode, Utf8.pushAll, withoutMark]
  | cons value values ih =>
    rw [List.flatten_cons, Utf8.pushAll_append] at h ⊢
    have hvalue : state.started = true ∨ (Utf8.pushAll state.pending value).1.head? ≠ some '\uFEFF' := by
      refine h.imp_right fun hhead hmark => hhead ?_
      obtain ⟨rest, hrest⟩ := List.head?_eq_some_iff.1 hmark
      simp [hrest]
    have hvalues := ih (decode state value true).2 (by
      rcases h with hstarted | hhead
      · exact .inl (by simp [decode, hstarted])
      · cases htext : (Utf8.pushAll state.pending value).1 with
        | nil =>
          rw [htext, List.nil_append] at hhead
          exact .inr hhead
        | cons c text => exact .inl (by simp [decode, htext]))
    have hcons : decoder.decodeAll state (value :: values) =
      (decode state value true).1 :: decoder.decodeAll (decode state value true).2 values := rfl
    have htext : (decode state value true).1 = (Utf8.pushAll state.pending value).1 := withoutMark_eq hvalue
    rw [hcons, List.flatten_cons, htext, hvalues, List.append_assoc]
    rfl

/-- The decoder is one of those assumed. -/
theorem decoder_inverse : decoder.Inverse := by
  intro text hhead chunks hchunks
  have h := decodeAll_eq {} chunks (.inr (by rw [hchunks, Utf8.pushAll_encode]; exact hhead))
  rw [hchunks, Utf8.pushAll_encode] at h
  exact h.trans (List.append_nil text)

/-- An event with line breaks and other characters in its data. -/
def blankLineEvent : RunEvent where
  eventId := "evt_1"
  seq := 7
  type := .runPhaseChanged
  occurredAt := 0
  tripId := "trip_1"
  runId := "run_1"
  traceId := "trace_1"
  data := [("label", .str "规划\r\n\r\ndata: 中"), ("control_version", .int 7)]

/-- It comes between two heartbeats. -/
def items : List StreamItem := [.heartbeat 0, .event blankLineEvent, .heartbeat 15_000_000]

/-- No float is written. -/
def noFloats : FloatText := { repr := fun _ => [], oneLine := fun _ => List.forall_mem_nil _ }

/-- `JSON.parse`, on the one text that occurs. -/
def parseEvent : JsonParse := fun text =>
  if text = (Json.obj blankLineEvent.dump).dumps noFloats then some (.obj blankLineEvent.dump) else none

/-- Every byte arrives alone. -/
def bytewise : List (List UInt8) := (Utf8.encode (streamText noFloats items)).map fun b => [b]

end Utf8Stream

/-- An event with blank lines in its data, between two heartbeats, byte by byte. -/
theorem event_stream_round_trip_bytewise :
    ∃ parsed, [Utf8Stream.blankLineEvent].mapM (fun e => parsePublicRunEvent (.obj e.dump)) = some parsed ∧
      streamRunEventsOnce Utf8Stream.decoder Utf8Stream.parseEvent Utf8Stream.bytewise = parsed.map .onEvent := by
  have hevents : streamedEvents Utf8Stream.items = [Utf8Stream.blankLineEvent] := rfl
  have h := event_stream_round_trip Utf8Stream.noFloats Utf8Stream.decoder Utf8Stream.decoder_inverse
    Utf8Stream.parseEvent Utf8Stream.items
  rw [hevents] at h
  refine h ?_ ?_ Utf8Stream.bytewise ?_
  · rw [List.forall_mem_singleton]
    exact ⟨rfl, by decide, rfl⟩
  · rw [List.forall_mem_singleton]
    exact if_pos rfl
  · unfold Utf8Stream.bytewise
    rw [← List.flatMap_def]
    exact List.flatMap_pure_eq_map _ _ |>.trans (List.map_id _)

end RoutePilot
