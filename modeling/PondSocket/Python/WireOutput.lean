import PondSocket.Library.LooseJson
import PondSocket.Library.Utf8
import PondSocket.Python.SseStream
import PondSocket.Js.ClientChannel

namespace PondSocket.Python.Inbound

open Library List OrderedMap Option
open Library.JsonText (Number readUnit)
open Library.LooseJson
open Js (ClientActions)
open Go.Wire (hexDigit hex_value)

-- A float of Python, whose finite ones are left open: read is what float() makes of a
-- literal, which may be beyond them all, and repr writes a literal that is read back.
inductive PyFloat (F : Type) where
  | finite (value : F)
  | constant (value : Constant)

structure Floats (F : Type) where
  read : Number → PyFloat F
  repr : F → Number
  marked : ∀ value, isWhole (repr value) = false
  readsBack : ∀ value, read (repr value) = .finite value

-- What json.loads makes.
inductive Data (F : Type) where
  | none
  | bool (value : Bool)
  | int (value : Int)
  | float (value : PyFloat F)
  | str (text : List CodePoint)
  | list (items : List (Data F))
  | dict (fields : List (List CodePoint × Data F))

def text (literal : String) : List CodePoint := points literal.toList

section

variable {F : Type} (floats : Floats F)

def ofNumber (number : Number) : Data F :=
  if isWhole number then .int (readWhole number.literal) else .float (floats.read number)

mutual

def ofValue : Value → Data F
  | .null => .none
  | .bool value => .bool value
  | .number value => ofNumber floats value
  | .constant value => .float (.constant value)
  | .string text => .str text
  | .array items => .list (ofItems items)
  | .object fields => .dict (OrderedMap.ofList (ofFields fields)).entries

def ofItems : List Value → List (Data F)
  | [] => []
  | item :: rest => ofValue item :: ofItems rest

def ofFields : List (List CodePoint × Value) → List (List CodePoint × Data F)
  | [] => []
  | (key, value) :: rest => (key, ofValue value) :: ofFields rest

end

mutual

def Data.value : Data F → Value
  | .none => .null
  | .bool value => .bool value
  | .int value => .number (whole value)
  | .float (.finite value) => .number (floats.repr value)
  | .float (.constant value) => .constant value
  | .str text => .string text
  | .list items => .array (itemValues items)
  | .dict fields => .object (fieldValues fields)

def itemValues : List (Data F) → List Value
  | [] => []
  | item :: rest => item.value :: itemValues rest

def fieldValues : List (List CodePoint × Data F) → List (List CodePoint × Value)
  | [] => []
  | (key, value) :: rest => (key, value.value) :: fieldValues rest

end

def loads (source : List Char) : Option (Data F) := (parse source).map (ofValue floats)

theorem escape_reads (fuel : Nat) (char : Char) (rest : List Char) :
    readString (fuel + 1) (Wire.escapeChar char ++ rest) = (readString fuel rest).map (consPoint (.char char)) := by
  rcases Wire.escape_cases char with ⟨mark, listed, written⟩ | ⟨_, written⟩ | ⟨quote, slash, solid, written⟩
  · have short : readEscape (mark :: rest) = some (.char char, rest) := by
      simp only [Wire.shortEscapes, mem_cons, Prod.mk.injEq, not_mem_nil, or_false] at listed
      rcases listed with same | same | same | same | same | same | same
      all_goals
        rw [same.1, same.2]
        rfl
    rw [written, cons_append, singleton_append, readString, if_neg (by decide), if_pos rfl, short]
  · have unit : readUnit ('0' :: '0' :: hexDigit (char.toNat / 16) :: hexDigit (char.toNat % 16) :: rest) =
        some (char.toNat, rest) := by
      simp only [readUnit, hex_value _ (Nat.mod_lt char.toNat (by decide : 0 < 16)),
        hex_value (char.toNat / 16) (by omega), show JsonText.hexValue '0' = some 0 from rfl, Option.bind_eq_bind,
        bind_some]
      refine congrArg some (Prod.ext ?_ rfl)
      omega
    have lead : JsonText.isLead char.toNat = false := decide_eq_false (by omega)
    have trail : JsonText.isTrail char.toNat = false := decide_eq_false (by omega)
    rw [written, cons_append, readString, if_neg (by decide), if_pos rfl, cons_append, readEscape, if_pos rfl,
      readUnicode]
    simp [unit, lead, trail]
  · rw [written, singleton_append, readString, if_neg quote, if_neg slash, if_neg (Nat.not_lt.mpr solid)]

-- json.dumps with ensure_ascii=False and the short separators.
def dumpsEscape : Escape := ⟨Wire.escapeChar, escape_reads, Wire.escape_solid⟩

def dumps (data : Data F) : List CodePoint := (data.value floats).render dumpsEscape

structure Event (F : Type) where
  action : ClientActions
  channelName : List CodePoint
  requestId : List CodePoint
  event : List CodePoint
  payload : List (List CodePoint × Data F)

-- takes says which texts pydantic takes for a str.
variable (takes : List CodePoint → Bool)

def strOf (data : Data F) : Option (List CodePoint) :=
  match data with
  | .str text => if takes text then some text else none
  | _ => none

def dictOf (data : Data F) : Option (List (List CodePoint × Data F)) :=
  match data with
  | .dict fields => if fields.all fun field => takes field.1 then some fields else none
  | _ => none

def actionOf (data : Data F) : Option ClientActions :=
  match data with
  | .str value => [ClientActions.joinChannel, .leaveChannel, .broadcast].find? fun action => decide (value = text action.text)
  | _ => none

def field (key : String) (fields : List (List CodePoint × Data F)) : Option (Data F) :=
  OrderedMap.findEntry (text key) fields

-- populate_by_name: a field goes by its alias or, without it, by its name.
def aliased (key name : String) (fields : List (List CodePoint × Data F)) : Option (Data F) :=
  (field key fields).or (field name fields)

def parseClientMessage (fields : List (List CodePoint × Data F)) : Option (Event F) := do
  let event ← (field "event" fields).bind (strOf takes)
  let requestId ← (aliased "requestId" "request_id" fields).bind (strOf takes)
  let channelName ← (aliased "channelName" "channel_name" fields).bind (strOf takes)
  let payload ← (field "payload" fields).bind (dictOf takes)
  let action ← (field "action" fields).bind actionOf
  return ⟨action, channelName, requestId, event, payload⟩

def Event.checked (event : Event F) : Option (Event F) :=
  if event.channelName = [] ∨ event.requestId = [] ∨ event.event = [] then none else some event

def parseInboundText (source : List Char) : Option (Event F) :=
  match loads floats source with
  | some (.dict fields) => (parseClientMessage takes fields).bind Event.checked
  | _ => none

namespace Event

def wireFields (event : Event F) : List (List CodePoint × Data F) :=
  [(text "action", .str (text event.action.text)), (text "event", .str event.event),
    (text "channelName", .str event.channelName), (text "requestId", .str event.requestId),
    (text "payload", .dict event.payload)]

def toWire (event : Event F) : Data F := .dict event.wireFields

def toJson (event : Event F) : List CodePoint := dumps floats event.toWire

-- A client's action has no type of its own there.
def envelope (event : Event F) (messageId endpoint : String) (now : Nat) : Data F :=
  .dict [(text "protocol", .str (text "pondsocket.distributed")), (text "version", .int 1),
    (text "type", .str (text "USER_MESSAGE")), (text "messageId", .str (text messageId)),
    (text "sourceNodeId", .str (text "")), (text "endpointName", .str (text endpoint)),
    (text "channelName", .str event.channelName), (text "timestamp", .int now),
    (text "fromUserId", .str (text "CHANNEL")), (text "event", .str event.event),
    (text "payload", .dict event.payload), (text "requestId", .str event.requestId),
    (text "recipientDescriptor", .str (text "ALL_USERS"))]

end Event

-- str.encode: none where it raises.
def utf8 (source : List CodePoint) : Option (List Nat) :=
  (encode source).map fun chars => chars.flatMap fun char => Utf8.encode char.toNat

def eventToDistributedBytes (event : Event F) (messageId endpoint : String) (now : Nat) : Option (List Nat) :=
  utf8 (dumps floats (event.envelope messageId endpoint now))

def spaced (point : CodePoint) : CodePoint :=
  if point = .char '\r' ∨ point = .char '\n' then .char ' ' else point

def eventToSseFrame (event : Event F) : Option (List Nat) :=
  utf8 (text "event: " ++ ((if event.event = [] then text "message" else event.event).map spaced ++
    (text "\ndata: " ++ (event.toJson floats ++ text "\n\n"))))

namespace Event

def plain (event : Event F) : Bool :=
  isText event.channelName && isText event.requestId && isText event.event &&
    ((Data.dict event.payload).value floats).plain

def finite (event : Event F) : Bool := ((Data.dict event.payload).value floats).finite

end Event

theorem is_text_text {literal : String} : isText (text literal) = true := is_text_points literal.toList

variable {event : Event F}

namespace Event

theorem wire_plain : (event.toWire.value floats).plain = event.plain floats := by
  simp only [toWire, wireFields, Data.value, fieldValues, Value.plain, plainFields, plain, is_text_text, Bool.true_and, Bool.and_true]
  cases isText event.event <;> cases isText event.channelName <;> cases isText event.requestId <;> rfl

theorem wire_finite (event : Event F) : (event.toWire.value floats).finite = event.finite floats := by
  simp [toWire, wireFields, Data.value, fieldValues, Value.finite, finiteFields, finite]

theorem envelope_plain (event : Event F) (messageId endpoint : String) (now : Nat) :
    ((event.envelope messageId endpoint now).value floats).plain = event.plain floats := by
  simp only [envelope, Data.value, fieldValues, Value.plain, plainFields, plain, is_text_text, Bool.true_and, Bool.and_true]
  cases isText event.event <;> cases isText event.channelName <;> cases isText event.requestId <;>
    simp only [Bool.false_and, Bool.and_false, Bool.true_and, Bool.and_true]

end Event

theorem utf8_some (source : List CodePoint) : (utf8 source).isSome = isText source := by
  rw [utf8, isSome_map, encode]
  cases isText source <;> rfl

theorem dumps_text (data : Data F) : isText (dumps floats data) = (data.value floats).plain :=
  is_text_render dumpsEscape (data.value floats)

theorem distributed_some (event : Event F) (messageId endpoint : String) (now : Nat) :
    (eventToDistributedBytes floats event messageId endpoint now).isSome = event.plain floats := by
  rw [eventToDistributedBytes, utf8_some, dumps_text, Event.envelope_plain]

theorem json_text (event : Event F) : isText (event.toJson floats) = event.plain floats := by
  rw [Event.toJson, dumps_text, Event.wire_plain]

theorem spaced_text (source : List CodePoint) : isText (source.map spaced) = isText source := by
  rw [isText, isText, List.all_map]
  apply congrArg (all source)
  funext point
  change (spaced point).scalar.isSome = point.scalar.isSome
  rw [spaced]
  split
  · rename_i breaks
    rcases breaks with same | same
    all_goals
      rw [same]
      rfl
  · rfl

theorem sse_some (plain : event.plain floats = true) : (eventToSseFrame floats event).isSome = true := by
  have name : isText (if event.event = [] then text "message" else event.event) = true := by
    simp only [Event.plain, Bool.and_eq_true] at plain
    split
    · exact is_text_text
    · exact plain.1.2
  rw [eventToSseFrame, utf8_some, is_text_append, is_text_append, is_text_append, is_text_append, spaced_text, name,
    json_text, plain]
  simp [is_text_text]

mutual

def Data.distinct : Data F → Prop
  | .list items => distinctItems items
  | .dict fields => (fields.map Prod.fst).Nodup ∧ distinctFields fields
  | _ => True

def distinctItems : List (Data F) → Prop
  | [] => True
  | item :: rest => item.distinct ∧ distinctItems rest

def distinctFields : List (List CodePoint × Data F) → Prop
  | [] => True
  | (_, value) :: rest => value.distinct ∧ distinctFields rest

end

theorem distinct_fields_iff (fields : List (List CodePoint × Data F)) :
    distinctFields fields ↔ ∀ field ∈ fields, field.2.distinct := by
  induction fields with
  | nil => exact ⟨fun _ field member => absurd member not_mem_nil, fun _ => trivial⟩
  | cons _ _ ih =>
    rw [forall_mem_cons, ← ih]
    exact Iff.rfl

theorem mem_put {rows : List (List CodePoint × Data F)} {key : List CodePoint} {value : Data F}
    {row : List CodePoint × Data F} (member : row ∈ OrderedMap.putEntry key value rows) :
    row = (key, value) ∨ row ∈ rows := by
  induction rows with
  | nil => exact .inl (mem_singleton.mp member)
  | cons first _ ih =>
    rw [putEntry] at member
    split at member
    · rcases mem_cons.mp member with same | later
      · exact .inl same
      · exact .inr (mem_cons_of_mem first later)
    rcases mem_cons.mp member with same | later
    · exact .inr (same ▸ mem_cons_self)
    rcases ih later with new | old
    · exact .inl new
    · exact .inr (mem_cons_of_mem first old)

theorem mem_of_list (rows : List (List CodePoint × Data F)) (row : List CodePoint × Data F)
    (member : row ∈ (OrderedMap.ofList rows).entries) : row ∈ rows := by
  have whole : ∀ (rows : List (List CodePoint × Data F)) (map : OrderedMap (List CodePoint) (Data F)),
      row ∈ (rows.foldl (fun result row => result.set row.1 row.2) map).entries → row ∈ map.entries ∨ row ∈ rows := by
    intro rows
    induction rows with
    | nil => exact fun map there => .inl there
    | cons first _ ih =>
      intro map there
      rcases ih (map.set first.1 first.2) there with early | later
      · rcases mem_put early with same | old
        · exact .inr (same ▸ mem_cons_self)
        · exact .inl old
      · exact .inr (mem_cons_of_mem first later)
  rcases whole rows .empty member with none | found
  · cases none
  · exact found

mutual

theorem distinct_of_value (value : Value) : (ofValue floats value).distinct := by
  cases value with
  | null => trivial
  | bool value => trivial
  | number value =>
    rw [ofValue, ofNumber]
    split <;> trivial
  | constant value => trivial
  | string text => trivial
  | array items => exact distinct_of_items items
  | object fields =>
    refine ⟨(ofList (ofFields floats fields)).distinct, ?_⟩
    rw [distinct_fields_iff]
    intro field member
    exact (distinct_fields_iff _).mp (distinct_of_fields fields) field (mem_of_list _ field member)

theorem distinct_of_items (items : List Value) : distinctItems (ofItems floats items) := by
  cases items with
  | nil => trivial
  | cons item rest => exact ⟨distinct_of_value item, distinct_of_items rest⟩

theorem distinct_of_fields (fields : List (List CodePoint × Value)) : distinctFields (ofFields floats fields) := by
  cases fields with
  | nil => trivial
  | cons field rest =>
    obtain ⟨key, value⟩ := field
    exact ⟨distinct_of_value value, distinct_of_fields rest⟩

end

mutual

theorem of_value_value (data : Data F) (distinct : data.distinct) : ofValue floats (data.value floats) = data := by
  cases data with
  | none => rfl
  | bool value => rfl
  | int value => rw [Data.value, ofValue, ofNumber, if_pos (whole_is_whole value), read_whole]
  | float value =>
    cases value with
    | finite value => rw [Data.value, ofValue, ofNumber, floats.marked, if_neg Bool.false_ne_true, floats.readsBack]
    | constant value => rfl
  | str text => rfl
  | list items => rw [Data.value, ofValue, of_item_values items distinct]
  | dict fields =>
    rw [Data.value, ofValue, of_field_values fields distinct.2]
    exact congrArg (fun map => Data.dict map.entries) (of_list_entries ⟨fields, distinct.1⟩)

theorem of_item_values (items : List (Data F)) (distinct : distinctItems items) :
    ofItems floats (itemValues floats items) = items := by
  cases items with
  | nil => rfl
  | cons item rest => rw [itemValues, ofItems, of_value_value item distinct.1, of_item_values rest distinct.2]

theorem of_field_values (fields : List (List CodePoint × Data F)) (distinct : distinctFields fields) :
    ofFields floats (fieldValues floats fields) = fields := by
  cases fields with
  | nil => rfl
  | cons field rest =>
    obtain ⟨key, value⟩ := field
    rw [fieldValues, ofFields, of_value_value value distinct.1, of_field_values rest distinct.2]

end

variable {data : Data F}

theorem loads_dumps (distinct : data.distinct) (plain : (data.value floats).plain = true) :
    loads floats (chars (dumps floats data)) = some data := by
  rw [loads, dumps, parse_render plain, map_some, of_value_value floats data distinct]

structure Event.Received (event : Event F) : Prop where
  name : takes event.event = true
  request : takes event.requestId = true
  channel : takes event.channelName = true
  keys : (event.payload.all fun field => takes field.1) = true
  complete : event.checked = some event
  distinct : (Data.dict event.payload).distinct

theorem str_of_some {value : List CodePoint} (found : strOf takes data = some value) : takes value = true := by
  cases data with
  | str =>
    rw [strOf] at found
    split at found
    · rename_i taken
      cases found
      exact taken
    · cases found
  | _ => cases found

theorem dict_of_some {fields : List (List CodePoint × Data F)} (found : dictOf takes data = some fields) :
    data = .dict fields ∧ (fields.all fun field => takes field.1) = true := by
  cases data with
  | dict =>
    rw [dictOf] at found
    split at found
    · rename_i taken
      cases found
      exact ⟨rfl, taken⟩
    · cases found
  | _ => cases found

theorem checked_some {other : Event F} (found : event.checked = some other) :
    event = other ∧ other.checked = some other := by
  have same : event = other := by
    rw [Event.checked] at found
    split at found
    · cases found
    · cases found
      rfl
  refine ⟨same, ?_⟩
  rw [same] at found
  exact found

theorem received (source : List Char) (event : Event F) (accepted : parseInboundText floats takes source = some event) :
    event.Received takes := by
  rw [parseInboundText] at accepted
  split at accepted
  · rename_i fields loaded
    obtain ⟨value, _, made⟩ := map_eq_some_iff.mp loaded
    have distinct : (Data.dict fields).distinct := made ▸ distinct_of_value floats value
    obtain ⟨_, parsed, checked⟩ := Option.bind_eq_some_iff.mp accepted
    obtain ⟨same, complete⟩ := checked_some checked
    rw [parseClientMessage] at parsed
    simp only [Option.bind_eq_bind, Option.bind_eq_some_iff, Option.pure_def, Option.some.injEq] at parsed
    obtain ⟨_, ⟨_, _, named⟩, _, ⟨_, _, requested⟩, _, ⟨_, _, housed⟩, _, ⟨_, there, held⟩, _, _, shape⟩ :=
      parsed
    obtain ⟨dict, keys⟩ := dict_of_some takes held
    rw [← same, ← shape] at complete ⊢
    refine ⟨str_of_some takes named, str_of_some takes requested, str_of_some takes housed, keys, complete, ?_⟩
    have member := (find_entry_mem fields distinct.1).mp there
    rw [← dict]
    exact (distinct_fields_iff fields).mp distinct.2 _ member
  · cases accepted

theorem action_of_text (action : ClientActions) :
    actionOf (.str (text action.text) : Data F) = some action := by
  cases action <;> rfl

theorem parse_wire (received : event.Received takes) : parseClientMessage takes event.wireFields = some event := by
  have action : field "action" event.wireFields = some (.str (text event.action.text)) := rfl
  have name : field "event" event.wireFields = some (.str event.event) := rfl
  have channel : aliased "channelName" "channel_name" event.wireFields = some (.str event.channelName) := rfl
  have request : aliased "requestId" "request_id" event.wireFields = some (.str event.requestId) := rfl
  have payload : field "payload" event.wireFields = some (.dict event.payload) := rfl
  rw [parseClientMessage, action, name, channel, request, payload]
  simp [strOf, dictOf, received.name, received.request, received.channel, received.keys, action_of_text]

theorem wire_distinct (received : event.Received takes) : event.toWire.distinct := by
  have keys : [text "action", text "event", text "channelName", text "requestId", text "payload"].Nodup := by decide
  exact ⟨keys, trivial, trivial, trivial, trivial, received.distinct, trivial⟩

theorem parse_json (received : event.Received takes) (plain : event.plain floats = true) :
    parseInboundText floats takes (chars (event.toJson floats)) = some event := by
  rw [parseInboundText, Event.toJson, loads_dumps floats (wire_distinct takes received)
    ((Event.wire_plain floats).trans plain)]
  change (parseClientMessage takes event.wireFields).bind Event.checked = some event
  rw [parse_wire takes received, bind_some, received.complete]

section

variable (lone : Nat → Char) (messageId endpoint : String) (now : Nat)

structure Emits (event : Event F) : Prop where
  valid : ∃ written, encode (event.toJson floats) = some written ∧ (JsonText.parse lone written).isSome = true
  encoded : (utf8 (event.toJson floats)).isSome = true
  sse : (eventToSseFrame floats event).isSome = true
  distributed : (eventToDistributedBytes floats event messageId endpoint now).isSome = true
  back : ∃ written, encode (event.toJson floats) = some written ∧ ∃ again,
    parseInboundText floats takes written = some again ∧ again.event = event.event ∧ again.payload = event.payload

theorem json_valid_iff :
    (∃ written, encode (event.toJson floats) = some written ∧ (JsonText.parse lone written).isSome = true) ↔
      event.plain floats = true ∧ event.finite floats = true := by
  rw [← Event.wire_plain, ← Event.wire_finite]
  exact valid_iff

theorem wire_output_iff (source : List Char) (event : Event F)
    (accepted : parseInboundText floats takes source = some event) :
    Emits floats takes lone messageId endpoint now event ↔ event.plain floats = true ∧ event.finite floats = true := by
  constructor
  · intro emits
    exact (json_valid_iff floats lone).mp emits.valid
  · intro both
    have written : encode (event.toJson floats) = some (chars (event.toJson floats)) := by
      rw [encode, json_text, if_pos both.1]
    refine ⟨(json_valid_iff floats lone).mpr both, ?_, sse_some floats both.1, ?_, ?_⟩
    · rw [utf8_some, json_text]
      exact both.1
    · rw [distributed_some]
      exact both.1
    · have again := parse_json floats takes (received floats takes source event accepted) both.1
      exact ⟨_, written, event, again, rfl, rfl⟩

end

end

def beyond : List Char := ['1', 'e', '9', '9', '9']

structure Literal where
  number : Number
  marked : isWhole number = false
  within : number.literal ≠ beyond

def literals : Floats Literal where
  read number :=
    if marked : isWhole number = false then
      if within : number.literal ≠ beyond then .finite ⟨number, marked, within⟩ else .constant .infinity
    else .constant .nan
  repr := Literal.number
  marked := Literal.marked
  readsBack value := by rw [dif_pos value.marked, dif_pos value.within]

def frame (payload : String) : List Char :=
  "\x7b\"action\":\"BROADCAST\",\"event\":\"chat\",\"requestId\":\"1\",\"channelName\":\"room\",\"payload\":".toList ++
    (payload.toList ++ "\x7d".toList)

theorem accepted_such (source : List Char) (such : Event Literal → Bool)
    (found : (parseInboundText literals isText source).any such = true) :
    ∃ event, parseInboundText literals isText source = some event ∧ such event = true := by
  cases accepted : parseInboundText literals isText source with
  | none =>
    rw [accepted] at found
    cases found
  | some event =>
    rw [accepted] at found
    exact ⟨event, rfl, found⟩

theorem half_emits :
    ∃ event, parseInboundText literals isText (frame "\x7b\"n\":1.5\x7d") = some event ∧
      Emits literals isText (fun _ => '?') "message-1" "/socket" 0 event := by
  obtain ⟨event, accepted, good⟩ := accepted_such (frame "\x7b\"n\":1.5\x7d")
    (fun event => event.plain literals && event.finite literals) (by decide +kernel)
  rw [Bool.and_eq_true] at good
  exact ⟨event, accepted, (wire_output_iff literals isText (fun _ => '?') "message-1" "/socket" 0 _ event accepted).mpr good⟩

theorem not_emitted {source : List Char}
    (bad : (parseInboundText literals isText source).any
      (fun event => !(event.plain literals && event.finite literals)) = true) :
    ∃ event, parseInboundText literals isText source = some event ∧
      ¬ Emits literals isText (fun _ => '?') "message-1" "/socket" 0 event := by
  obtain ⟨event, accepted, found⟩ := accepted_such source _ bad
  refine ⟨event, accepted, ?_⟩
  intro emits
  have both := (json_valid_iff literals (fun _ => '?')).mp emits.valid
  rw [both.1, both.2] at found
  cases found

theorem bad_emitted :
    (∃ event, parseInboundText literals isText (frame "\x7b\"n\":NaN\x7d") = some event ∧
      ¬ Emits literals isText (fun _ => '?') "message-1" "/socket" 0 event) ∧
      (∃ event, parseInboundText literals isText (frame "\x7b\"n\":1e999\x7d") = some event ∧
        ¬ Emits literals isText (fun _ => '?') "message-1" "/socket" 0 event) ∧
        ∃ event, parseInboundText literals isText (frame "\x7b\"n\":\"\\ud800\"\x7d") = some event ∧
          ¬ Emits literals isText (fun _ => '?') "message-1" "/socket" 0 event :=
  ⟨not_emitted (by decide +kernel), not_emitted (by decide +kernel), not_emitted (by decide +kernel)⟩

end PondSocket.Python.Inbound
