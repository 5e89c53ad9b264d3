import PondSocket.Go.Frames

namespace PondSocket.Js

open Library List Go.Wire
open Library.JsonText (Value Number)
open Go.Wire (Group ConnRun ConnStep toJson joinLines)

-- What trim takes off a string: the white space and the line ends of the language.
def isTrimmed (char : Char) : Bool :=
  let code := char.toNat
  decide ((9 ≤ code ∧ code ≤ 13) ∨ code = 0x20 ∨ code = 0xA0 ∨ code = 0x1680 ∨ (0x2000 ≤ code ∧ code ≤ 0x200A) ∨
    code = 0x2028 ∨ code = 0x2029 ∨ code = 0x202F ∨ code = 0x205F ∨ code = 0x3000 ∨ code = 0xFEFF)

def trim (text : List Char) : List Char :=
  (((text.dropWhile isTrimmed).reverse).dropWhile isTrimmed).reverse

-- What _parseMessages throws: a SyntaxError of JSON.parse, or a ValidationError.
inductive FrameError where
  | malformed
  | invalid (error : ValidationError)

section

variable (lone : Nat → Char) (numeral : Number → Rat)

variable (event : Go.Wire.Event)

def parseLine (line : List Char) : Except FrameError ClientEvent :=
  match JsonText.parse lone line with
  | none => .error .malformed
  | some value =>
    match ChannelEventSchema.parse (toJson numeral value).parse with
    | .error error => .error (.invalid error)
    | .ok event => .ok event

def parseLines : List (List Char) → Except FrameError (List ClientEvent)
  | [] => .ok []
  | line :: rest =>
    if (trim line).isEmpty then parseLines rest
    else
      match parseLine lone numeral line with
      | .error error => .error error
      | .ok event => (parseLines rest).map fun events => event :: events

def parseMessages (data : List Char) : Except FrameError (List ClientEvent) :=
  parseLines lone numeral ((trim data).splitOn '\n')

def payloadOf (event : Go.Wire.Event) : JsValue := (toJson numeral event.payload).parse

-- The event with the fields that a client has: of the payload of a presence event
-- those are the two that its schema names.
def clientEvent (event : Go.Wire.Event) : ClientEvent where
  action := event.action
  event := event.event
  channelName := event.channelName
  requestId := event.requestId
  payload :=
    if event.action = ServerActions.presence.text then
      .object [("presence", (payloadOf numeral event).field "presence"), ("changed", (payloadOf numeral event).field "changed")]
    else payloadOf numeral event

def IsRecord : Value → Prop
  | .object _ => True
  | _ => False

-- The payload of a presence event, among whatever else it says.
def PresencePayload (fields : List (String × Value)) : Prop :=
  ∃ items changed, OrderedMap.findEntry "presence" fields = some (.array items) ∧ (∀ item ∈ items, IsRecord item) ∧
    OrderedMap.findEntry "changed" fields = some (.object changed)

-- What a server says to clients: an object in an event of the server, and a presence
-- event with objects for its entries.
def ServerEvent (event : Go.Wire.Event) : Prop :=
  ∃ fields, event.payload = .object fields ∧
    (event.action ∈ serverActions ∨
      (event.action = ServerActions.presence.text ∧ event.event ∈ presenceEvents ∧ PresencePayload fields))

theorem trim_solid {first last : Char} {inner : List Char} (starts : isTrimmed first = false)
    (ends : isTrimmed last = false) : trim (first :: (inner ++ [last])) = first :: (inner ++ [last]) := by
  have head : (first :: (inner ++ [last])).dropWhile isTrimmed = first :: (inner ++ [last]) := by
    rw [dropWhile_cons_of_neg (by rw [starts]; exact Bool.false_ne_true)]
  have back : (first :: (inner ++ [last])).reverse = last :: (inner.reverse ++ [first]) := by
    rw [reverse_cons, reverse_append, reverse_singleton, append_assoc, singleton_append]
  rw [trim, head, back, dropWhile_cons_of_neg (by rw [ends]; exact Bool.false_ne_true), ← back, reverse_reverse]

variable {event}

theorem marshal_braced : ∃ inner, event.marshal = '{' :: (inner ++ ['}']) := ⟨_, rfl⟩

theorem join_lines_braced {rest : List Go.Wire.Event} :
    ∃ inner, joinLines event.marshal (rest.map Go.Wire.Event.marshal) = '{' :: (inner ++ ['}']) := by
  obtain ⟨inner, shape⟩ := marshal_braced
  rcases eq_nil_or_concat rest with empty | ⟨others, _, whole⟩
  · rw [empty]
    exact ⟨inner, by rw [shape]; exact append_nil _⟩
  obtain ⟨tail, ending⟩ := marshal_braced
  refine ⟨inner ++ '}' :: ((others.map Go.Wire.Event.marshal).flatMap (fun data => '\n' :: data) ++ '\n' :: '{' :: tail), ?_⟩
  rw [whole, joinLines, shape, concat_eq_append, map_append, flatMap_append, map_singleton, flatMap_singleton, ending]
  simp only [cons_append, append_assoc, nil_append]

theorem join_lines_intercalate (message : List Char) (queued : List (List Char)) :
    joinLines message queued = ['\n'].intercalate (message :: queued) := by
  induction queued generalizing message with
  | nil => simp [joinLines]
  | cons next _ ih =>
    have later := ih next
    rw [joinLines] at later ⊢
    rw [intercalate_cons_cons, ← later, flatMap_cons]
    simp

theorem marshal_line : '\n' ∉ event.marshal := by
  intro member
  have printable := JsonText.render_printable marshalEscape event.value '\n' member
  exact absurd printable (by decide)

theorem frame_lines (group : Group) :
    (trim group.frame).splitOn '\n' = group.events.map Go.Wire.Event.marshal := by
  obtain ⟨event, rest⟩ := group
  obtain ⟨_, shape⟩ := join_lines_braced
  have trimmed : trim (Group.frame (event, rest)) = Group.frame (event, rest) := by
    rw [Group.frame, shape]
    exact trim_solid (by decide) (by decide)
  rw [trimmed, Group.frame, join_lines_intercalate]
  apply splitOn_intercalate
  · intro line member
    rcases mem_cons.mp member with first | later
    · rw [first]
      exact marshal_line
    obtain ⟨_, _, same⟩ := mem_map.mp later
    rw [← same]
    exact marshal_line
  · exact cons_ne_nil _ _

theorem find_value (key : String) (fields : List (String × Value)) :
    OrderedMap.findEntry key (parseFields (Go.Wire.fieldsJson numeral fields)) =
      (OrderedMap.findEntry key fields).map fun value => (toJson numeral value).parse := by
  induction fields with
  | nil => rfl
  | cons entry _ ih =>
    obtain ⟨name, _⟩ := entry
    simp only [fieldsJson, parseFields, OrderedMap.findEntry]
    by_cases same : key = name
    · rw [if_pos same, if_pos same, Option.map_some]
    · rw [if_neg same, if_neg same, ih]

theorem items_map (items : List Value) :
    parseItems (Go.Wire.itemsJson numeral items) = items.map fun item => (toJson numeral item).parse := by
  induction items with
  | nil => rfl
  | cons _ _ ih => rw [itemsJson, parseItems, ih, map_cons]

theorem record_object {item : Value} (record : IsRecord item) : IsObject (toJson numeral item).parse := by
  cases item with
  | object => exact trivial
  | _ => exact record.elim

theorem schema_congr (fields others : List (String × JsValue))
    (same : ∀ key ∈ ["action", "event", "channelName", "requestId", "payload"],
      OrderedMap.findEntry key fields = OrderedMap.findEntry key others) :
    ChannelEventSchema.parse (.object fields) = ChannelEventSchema.parse (.object others) := by
  have required : ∀ key path, key ∈ ["action", "event", "channelName", "requestId", "payload"] →
      requireField fields key path = requireField others key path := by
    intro key path member
    rw [requireField, same key member, ← requireField]
  have action := required "action" "action" (by simp)
  have event := required "event" "event" (by simp)
  have channelName := required "channelName" "channelName" (by simp)
  have requestId := required "requestId" "requestId" (by simp)
  have payload := required "payload" "payload" (by simp)
  simp only [ChannelEventSchema.parse, PresenceMessageSchema.parse, ServerMessageSchema.parse, validateObject, bind,
    Except.bind, action, event, channelName, requestId, payload]

theorem schema_event {fields : List (String × Value)} (object : event.payload = .object fields) :
    ChannelEventSchema.parse (toJson numeral event.value).parse =
      ChannelEventSchema.parse (wireObject event.channelName (.string event.requestId) event.action event.event
        (parseFields (Go.Wire.fieldsJson numeral fields))) := by
  apply schema_congr
  intro key member
  rw [find_value, object]
  simp only [mem_cons, not_mem_nil, or_false] at member
  rcases member with same | same | same | same | same
  all_goals
    rw [same]
    simp [OrderedMap.findEntry, toJson, Json.parse]

theorem event_accepted (server : ServerEvent event) :
    ChannelEventSchema.parse (toJson numeral event.value).parse = .ok (clientEvent numeral event) := by
  obtain ⟨fields, object, kind⟩ := server
  have seen : payloadOf numeral event = .object (parseFields (fieldsJson numeral fields)) := by
    rw [payloadOf, object]
    rfl
  rw [schema_event numeral object]
  rcases kind with listed | ⟨action, named, items, changed, presence, records, change⟩
  · have other : event.action ≠ ServerActions.presence.text := by
      intro same
      rw [same] at listed
      exact absurd listed (by decide)
    rw [parse_server _ _ _ _ _ other, if_pos listed, clientEvent, if_neg other, seen]
  rw [action, parse_presence]
  refine ⟨named, parseItems (itemsJson numeral items), parseFields (fieldsJson numeral changed),
    ?_, ?_, ?_, ?_⟩
  · rw [find_value, presence]
    rfl
  · intro item member
    rw [items_map] at member
    obtain ⟨source, inside, same⟩ := mem_map.mp member
    rw [← same]
    exact record_object numeral (records source inside)
  · rw [find_value, change]
    rfl
  · rw [clientEvent, if_pos action, seen, JsValue.field, JsValue.field, find_value, find_value, presence, change, action]
    rfl

theorem parse_line_event (server : ServerEvent event) :
    parseLine lone numeral event.marshal = .ok (clientEvent numeral event) := by
  rw [parseLine, Go.Wire.Event.marshal, JsonText.parse_render]
  simp [event_accepted numeral server]

theorem parse_lines_events {events : List Go.Wire.Event} (server : ∀ event ∈ events, ServerEvent event) :
    parseLines lone numeral (events.map Go.Wire.Event.marshal) = .ok (events.map (clientEvent numeral)) := by
  induction events with
  | nil => rfl
  | cons event _ ih =>
    obtain ⟨_, shape⟩ := marshal_braced
    have solid : (trim event.marshal).isEmpty = false := by
      rw [shape, trim_solid (by decide) (by decide)]
      rfl
    rw [map_cons, parseLines, solid, if_neg Bool.false_ne_true,
      parse_line_event lone numeral (server event mem_cons_self),
      ih fun event member => server event (mem_cons_of_mem _ member)]
    rfl

theorem parse_frame {group : Group} (server : ∀ event ∈ group.events, ServerEvent event) :
    parseMessages lone numeral group.frame = .ok (group.events.map (clientEvent numeral)) := by
  rw [parseMessages, frame_lines]
  exact parse_lines_events lone numeral server

theorem sent_all {good : Go.Wire.Event → Prop} {sendBuffer : Nat} {labels : List ConnStep}
    (all : ∀ event, .sendJSON event ∈ labels → good event) :
    ∀ event ∈ (run ConnRun.step (.new sendBuffer) labels).sent, good event := by
  apply run_keeps ConnRun.step (fun _ label => ∀ event, label = .sendJSON event → good event)
    (fun state => ∀ event ∈ state.sent, good event)
  · intro state label kept admitted
    cases label with
    | sendJSON event =>
      simp only [ConnRun.step, ConnRun.sendJSON]
      split
      · intro found member
        rcases mem_append.mp member with before | new
        · exact kept found before
        · rw [mem_singleton.mp new]
          exact admitted event rfl
      · exact kept
    | receive =>
      simp only [ConnRun.step, ConnRun.receive]
      split
      · cases state.send with
        | nil | cons => exact kept
      · exact kept
    | write =>
      simp only [ConnRun.step, ConnRun.write]
      split
      · cases state.message with
        | none | some => exact kept
      · exact kept
    | close => exact kept
  · intro event member
    exact absurd member not_mem_nil
  · rw [follows_labels]
    intro label member event same
    rw [same] at member
    exact all event member

theorem frames_parsed (sendBuffer : Nat) (labels : List ConnStep)
    (server : ∀ event, .sendJSON event ∈ labels → ServerEvent event) :
    ∃ groups : List (List Go.Wire.Event), groups.flatten = (run ConnRun.step (.new sendBuffer) labels).written ∧
      (run ConnRun.step (.new sendBuffer) labels).frames.map (parseMessages lone numeral) =
        groups.map fun group => .ok (group.map (clientEvent numeral)) := by
  obtain ⟨groups, first, queued, grouped, _⟩ :=
    ConnRun.grouped_run (.new sendBuffer) [] [] [] ConnRun.grouped_new
  rw [nil_append] at grouped
  refine ⟨groups.map Group.events, ?_, ?_⟩
  · rw [ConnRun.written_grouped first queued grouped, flatMap_def]
  rw [grouped.frames, map_map, map_map]
  apply map_congr_left
  intro group member
  apply parse_frame lone numeral
  intro event inside
  apply sent_all server event
  rw [grouped.sent]
  exact mem_append_left _ (mem_flatMap.mpr ⟨group, member, inside⟩)

def spaced : Go.Wire.Event :=
  ⟨"BROADCAST", "room", "1", .object [("text", .string " \n two \n")], "message", "", [], "", ""⟩

def joined : Go.Wire.Event :=
  ⟨"PRESENCE", "room", "2",
    .object [("event", .string "JOIN"), ("userId", .string "u"), ("changed", .object []), ("presence", .array [.object []])],
    "JOIN", "", [], "", ""⟩

theorem batch_parsed :
    ∃ groups : List (List Go.Wire.Event), groups.flatten =
          (run ConnRun.step (.new 8) [.sendJSON spaced, .sendJSON joined, .receive, .write]).written ∧
        (run ConnRun.step (.new 8) [.sendJSON spaced, .sendJSON joined, .receive, .write]).frames.map
            (parseMessages (fun _ => '?') (fun _ => 0)) =
          groups.map fun group => .ok (group.map (clientEvent fun _ => 0)) := by
  apply frames_parsed
  intro event member
  have sent : event = spaced ∨ event = joined := by simpa using member
  rcases sent with same | same
  · rw [same]
    exact ⟨_, rfl, .inl (by decide)⟩
  rw [same]
  refine ⟨_, rfl, .inr ⟨rfl, by decide, [.object []], [], rfl, ?_, rfl⟩⟩
  intro item member
  rw [mem_singleton.mp member]
  exact trivial

end

end PondSocket.Js
