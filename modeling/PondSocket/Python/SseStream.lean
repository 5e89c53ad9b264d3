import PondSocket.Go.SseStream

namespace PondSocket.Python.Wire

open Library List
open Library.JsonText
open Library.EventStream (typeOf OneLine Yields)
open Js (ServerEvent ClientEvent clientEvent)
open Go.Wire (hexDigit hex_value hex_printable read_escaped read_unicode toJson eventField dataField)

-- The strings of json.dumps with ensure_ascii=False.
def escapeChar (char : Char) : List Char :=
  if char = '"' ∨ char = '\\' then ['\\', char]
  else if char = '\n' then ['\\', 'n']
  else if char = '\r' then ['\\', 'r']
  else if char = '\t' then ['\\', 't']
  else if char = '\x0c' then ['\\', 'f']
  else if char = '\x08' then ['\\', 'b']
  else if char.toNat < 32 then ['\\', 'u', '0', '0', hexDigit (char.toNat / 16), hexDigit (char.toNat % 16)]
  else [char]

def shortEscapes : List (Char × Char) :=
  [('"', '"'), ('\\', '\\'), ('\n', 'n'), ('\r', 'r'), ('\t', 't'), ('\x0c', 'f'), ('\x08', 'b')]

theorem escape_cases (char : Char) :
    (∃ mark, (char, mark) ∈ shortEscapes ∧ escapeChar char = ['\\', mark]) ∨ (char.toNat < 32 ∧
        escapeChar char = ['\\', 'u', '0', '0', hexDigit (char.toNat / 16), hexDigit (char.toNat % 16)]) ∨
        (char ≠ '"' ∧ char ≠ '\\' ∧ 32 ≤ char.toNat ∧ escapeChar char = [char]) := by
  by_cases short : char ∈ shortEscapes.map Prod.fst
  · left
    simp only [shortEscapes, map_cons, map_nil, mem_cons, not_mem_nil, or_false] at short
    rcases short with same | same | same | same | same | same | same
    all_goals
      rw [same]
      exact ⟨_, by decide, rfl⟩
  right
  simp only [shortEscapes, map_cons, map_nil, mem_cons, not_mem_nil, or_false, not_or] at short
  obtain ⟨quote, slash, feed, carriage, tab, page, back⟩ := short
  rw [escapeChar, if_neg (not_or.mpr ⟨quote, slash⟩), if_neg feed, if_neg carriage, if_neg tab, if_neg page, if_neg back]
  by_cases control : char.toNat < 32
  · rw [if_pos control]
    exact .inl ⟨control, rfl⟩
  · rw [if_neg control]
    exact .inr ⟨quote, slash, Nat.le_of_not_lt control, rfl⟩

theorem short_reads {char mark : Char} (listed : (char, mark) ∈ shortEscapes) (lone : Nat → Char) (rest : List Char) :
    readEscape lone (mark :: rest) = some (char, rest) ∧ 32 ≤ mark.toNat := by
  simp only [shortEscapes, mem_cons, Prod.mk.injEq, not_mem_nil, or_false] at listed
  rcases listed with same | same | same | same | same | same | same
  all_goals
    rw [same.1, same.2]
    exact ⟨rfl, by decide⟩

theorem escape_reads (lone : Nat → Char) (fuel : Nat) (char : Char) (rest : List Char) :
    readString lone (fuel + 1) (escapeChar char ++ rest) = (readString lone fuel rest).map (consChar char) := by
  rcases escape_cases char with ⟨_, listed, written⟩ | ⟨_, written⟩ | ⟨quote, slash, solid, written⟩
  · rw [written]
    exact read_escaped lone (short_reads listed lone rest).1
  · rw [written]
    apply read_unicode lone char.toNat char rest
    · simp only [readUnit, hex_value _ (Nat.mod_lt char.toNat (by decide : 0 < 16)),
        hex_value (char.toNat / 16) (by omega), show hexValue '0' = some 0 from rfl, Option.bind_eq_bind, Option.bind_some]
      refine congrArg some (Prod.ext ?_ rfl)
      omega
    · omega
    · rfl
  · rw [written, singleton_append, readString, if_neg quote, if_neg slash, if_neg (Nat.not_lt.mpr solid)]

theorem escape_solid (char : Char) : 0 < (escapeChar char).length := by
  rcases escape_cases char with ⟨_, _, written⟩ | ⟨_, written⟩ | ⟨_, _, _, written⟩
  all_goals
    rw [written]
    exact Nat.succ_pos _

theorem escape_printable (char : Char) : ∀ written ∈ escapeChar char, 32 ≤ written.toNat := by
  rcases escape_cases char with ⟨_, listed, shape⟩ | ⟨_, shape⟩ | ⟨_, _, solid, shape⟩
  · have printable := (short_reads listed (fun _ => '?') []).2
    rw [shape]
    simpa using printable
  · have high := hex_printable (char.toNat / 16) (by omega)
    have low := hex_printable (char.toNat % 16) (Nat.mod_lt _ (by decide))
    rw [shape]
    simpa using And.intro high low
  · rw [shape]
    simpa using solid

def dumpsEscape : Escape := ⟨escapeChar, escape_reads, escape_solid, escape_printable⟩

-- An Event with a payload of what a JSON text can say.
structure Event where
  action : String
  channelName : String
  requestId : String
  event : String
  payload : Value

namespace Event

def wirePayload (event : Event) : Value :=
  match event.payload with
  | .null => .object []
  | payload => payload

def toWire (event : Event) : Value :=
  .object [("action", .string event.action), ("event", .string event.event), ("channelName", .string event.channelName),
    ("requestId", .string event.requestId), ("payload", event.wirePayload)]

def toJson (event : Event) : List Char := event.toWire.render dumpsEscape

-- The event as the server of the other language would have it.
def asServer (event : Event) : Go.Wire.Event :=
  ⟨event.action, event.channelName, event.requestId, event.wirePayload, event.event, "", [], "", ""⟩

end Event

-- A line break in the name becomes a space.
def spaced (char : Char) : Char := if char = '\r' ∨ char = '\n' then ' ' else char

def sseName (event : Event) : List Char :=
  (if event.event = "" then ['m', 'e', 's', 's', 'a', 'g', 'e'] else event.event.toList).map spaced

inductive SseFrame where
  | event (event : Event)
  | comment (text : List Char) (oneLine : OneLine text)

def eventToSseFrame (event : Event) : List Char :=
  eventField ++ (sseName event ++ '\n' :: (dataField ++ (event.toJson ++ ['\n', '\n'])))

def sseComment (text : List Char) : List Char := ':' :: ((' ' :: text) ++ ['\n', '\n'])

def SseFrame.text : SseFrame → List Char
  | .event sent => eventToSseFrame sent
  | .comment text _ => sseComment text

def SseFrame.sent : SseFrame → Option Event
  | .event sent => some sent
  | .comment _ _ => none

variable {event : Event}

theorem json_one_line : OneLine event.toJson := by
  have printable := JsonText.render_printable dumpsEscape event.toWire
  constructor
  · intro member
    exact absurd (printable '\n' member) (by decide)
  · intro member
    exact absurd (printable '\r' member) (by decide)

theorem spaced_plain {char : Char} : spaced char ≠ '\n' ∧ spaced char ≠ '\r' := by
  by_cases breaks : char = '\r' ∨ char = '\n'
  · rw [spaced, if_pos breaks]
    decide
  · rw [spaced, if_neg breaks]
    exact ⟨fun same => breaks (.inr same), fun same => breaks (.inl same)⟩

theorem name_one_line : OneLine (sseName event) := by
  constructor
  · intro member
    obtain ⟨char, _, same⟩ := mem_map.mp member
    exact spaced_plain.1 same
  · intro member
    obtain ⟨_, _, same⟩ := mem_map.mp member
    exact spaced_plain.2 same

theorem spaced_same (text target : List Char)
    (plain : ∀ char ∈ target, char ≠ ' ' ∧ char ≠ '\r' ∧ char ≠ '\n') : text.map spaced = target ↔ text = target := by
  induction text generalizing target with
  | nil => simp
  | cons char _ ih =>
    cases target with
    | nil => simp
    | cons first others =>
      obtain ⟨space, carriage, feed⟩ := plain first mem_cons_self
      have here : spaced char = first ↔ char = first := by
        by_cases breaks : char = '\r' ∨ char = '\n'
        · rw [spaced, if_pos breaks]
          refine iff_of_false (fun same => space same.symm) ?_
          intro same
          rcases breaks with broken | broken
          · exact carriage (same.symm.trans broken)
          · exact feed (same.symm.trans broken)
        · rw [spaced, if_neg breaks]
      rw [map_cons, cons.injEq, cons.injEq, here,
        ih others fun other member => plain other (mem_cons_of_mem first member)]

theorem name_message_iff (event : Event) :
    typeOf (sseName event) = typeOf [] ↔ event.event = "" ∨ event.event = "message" := by
  have solid : sseName event ≠ [] := by
    intro none
    rw [sseName, map_eq_nil_iff] at none
    split at none
    · cases none
    · rename_i named
      exact named (String.toList_eq_nil_iff.mp none)
  have plain : ∀ char ∈ typeOf [], char ≠ ' ' ∧ char ≠ '\r' ∧ char ≠ '\n' := by
    intro char member
    rw [typeOf, if_pos rfl] at member
    simp only [mem_cons, not_mem_nil, or_false] at member
    rcases member with rfl | rfl | rfl | rfl | rfl | rfl | rfl <;> decide
  rw [typeOf, if_neg solid, sseName, spaced_same _ _ plain]
  by_cases empty : event.event = ""
  · rw [if_pos empty]
    exact iff_of_true rfl (.inl empty)
  rw [if_neg empty]
  constructor
  · intro same
    exact .inr (String.ext same)
  · intro either
    rcases either with none | same
    · exact absurd none empty
    · rw [same]
      rfl

theorem yields_frame (frame : SseFrame) :
    Yields frame.text (frame.sent.toList.map fun event => ⟨typeOf (sseName event), event.toJson⟩) := by
  cases frame with
  | event => exact EventStream.yields_named name_one_line json_one_line
  | comment text oneLine =>
    exact EventStream.yields_comment ((EventStream.one_line_append [' '] text).mpr ⟨by decide, oneLine⟩)

theorem text_unmarked (frames : List SseFrame) : (frames.flatMap SseFrame.text).head? ≠ some '\uFEFF' := by
  cases frames with
  | nil =>
    intro same
    cases same
  | cons frame =>
    cases frame with
    | event => exact (by decide : some 'e' ≠ some '\uFEFF')
    | comment => exact (by decide : some ':' ≠ some '\uFEFF')

section

variable (lone : Nat → Char) (numeral : Number → Rat)

theorem wire_accepted (server : ServerEvent event.asServer) :
    Js.ChannelEventSchema.parse (toJson numeral event.toWire).parse = .ok (clientEvent numeral event.asServer) := by
  have accepted := Js.event_accepted numeral server
  rw [← accepted]
  apply Js.schema_congr
  intro key member
  rw [Js.find_value, Js.find_value]
  simp only [mem_cons, not_mem_nil, or_false] at member
  rcases member with same | same | same | same | same
  all_goals
    rw [same]
    simp [OrderedMap.findEntry, Event.asServer]

theorem frame_handled (server : ServerEvent event.asServer) :
    Js.handleMessage lone numeral event.toJson = [clientEvent numeral event.asServer] := by
  have parsed : Js.parseLine lone numeral event.toJson = .ok (clientEvent numeral event.asServer) := by
    rw [Js.parseLine, Event.toJson, JsonText.parse_render]
    simp [wire_accepted numeral server]
  exact Js.line_handled rfl json_one_line.1 parsed

def sentEvents (frames : List SseFrame) : List Event := frames.filterMap SseFrame.sent

-- The JS client publishes the events of the frames, in their order.
def Published (frames : List SseFrame) : Prop :=
  Js.readStream lone numeral (frames.flatMap SseFrame.text) =
    (sentEvents frames).map fun event => clientEvent numeral event.asServer

theorem published_iff {frames : List SseFrame} (server : ∀ event ∈ sentEvents frames, ServerEvent event.asServer) :
    Published lone numeral frames ↔ ∀ event ∈ sentEvents frames, event.event = "" ∨ event.event = "message" := by
  have messages := EventStream.yields_messages
    (EventStream.yields_all SseFrame.text frames fun frame _ => yields_frame frame) (text_unmarked frames)
  have items : (frames.flatMap fun frame =>
      frame.sent.toList.map fun event => (⟨typeOf (sseName event), event.toJson⟩ : EventStream.Message)) =
        (sentEvents frames).map fun event => ⟨typeOf (sseName event), event.toJson⟩ := by
    rw [sentEvents]
    clear server messages
    induction frames with
    | nil => rfl
    | cons frame _ ih =>
      rw [flatMap_cons, ih, filterMap_cons]
      cases frame.sent with
      | none | some => rfl
  rw [Published, Js.readStream, messages, items, Js.broadcast_iff
      fun event member => frame_handled lone numeral (server event member)]
  simp [name_message_iff]

-- Both streams come through where no event goes under a name of its own; and only
-- there, unless a name of the Go server has line breaks, which write lines of their own.
theorem streams_published_iff (writes : List Go.Wire.SseWrite) (frames : List SseFrame)
    (serves : ∀ sent ∈ Go.Wire.sentEvents writes, ServerEvent sent.1)
    (server : ∀ event ∈ sentEvents frames, ServerEvent event.asServer) :
    ((∀ sent ∈ Go.Wire.sentEvents writes, Go.Wire.Unnamed sent) ∧
        (∀ event ∈ sentEvents frames, event.event = "" ∨ event.event = "message") →
      Go.Wire.Published lone numeral writes ∧ Published lone numeral frames) ∧
      ((∀ sent ∈ Go.Wire.sentEvents writes, OneLine (Go.Wire.fieldName sent)) →
        Go.Wire.Published lone numeral writes ∧ Published lone numeral frames →
          (∀ sent ∈ Go.Wire.sentEvents writes, Go.Wire.Unnamed sent) ∧
            ∀ event ∈ sentEvents frames, event.event = "" ∨ event.event = "message") := by
  rw [published_iff lone numeral server]
  constructor
  · intro named
    have oneLine : ∀ sent ∈ Go.Wire.sentEvents writes, OneLine (Go.Wire.fieldName sent) :=
      fun sent member => Go.Wire.unnamed_one_line (named.1 sent member)
    exact ⟨(Go.Wire.published_iff lone numeral serves oneLine).mpr named.1, named.2⟩
  · intro oneLine published
    exact ⟨(Go.Wire.published_iff lone numeral serves oneLine).mp published.1, published.2⟩

end

def chat : Event := ⟨"BROADCAST", "room", "1", "chat", .object []⟩

def told : Event := ⟨"BROADCAST", "room", "1", "message", .object []⟩

theorem plain_published :
    Go.Wire.Published (fun _ => '?') (fun _ => 0) [.sendJSON chat.asServer false, .keepAlive, .sendJSON told.asServer true] ∧
      Published (fun _ => '?') (fun _ => 0) [.event told] := by
  apply (streams_published_iff (fun _ => '?') (fun _ => 0)
    [.sendJSON chat.asServer false, .keepAlive, .sendJSON told.asServer true] [.event told] ?_ ?_).1
  · constructor
    · intro sent member
      have known : sent ∈ [(chat.asServer, false), (told.asServer, true)] := member
      simp only [mem_cons, not_mem_nil, or_false] at known
      rcases known with same | same
      · rw [same]
        exact fun value => Bool.noConfusion value
      · rw [same]
        exact fun _ => .inr rfl
    · intro event member
      rw [mem_singleton.mp member]
      exact .inr rfl
  · intro sent member
    have known : sent ∈ [(chat.asServer, false), (told.asServer, true)] := member
    simp only [mem_cons, not_mem_nil, or_false] at known
    rcases known with same | same
    all_goals
      rw [same]
      exact ⟨[], rfl, .inl mem_cons_self⟩
  · intro event member
    rw [mem_singleton.mp member]
    exact ⟨[], rfl, .inl mem_cons_self⟩

theorem named_unpublished :
    ¬ (Go.Wire.Published (fun _ => '?') (fun _ => 0) [.sendJSON chat.asServer true] ∧
      Published (fun _ => '?') (fun _ => 0) [.event chat]) := by
  intro both
  have named := (published_iff (fun _ => '?') (fun _ => 0) ?_).mp both.2 chat mem_cons_self
  · exact absurd named (by decide)
  intro event member
  rw [mem_singleton.mp member]
  exact ⟨[], rfl, .inl mem_cons_self⟩

end PondSocket.Python.Wire
