import PondSocket.Js.Endpoint
import PondSocket.Js.Outgoing

namespace PondSocket.Js

open Library List OrderedMap Option ChannelEngine

inductive Json where
  | null
  | bool (value : Bool)
  | number (value : Rat)
  | string (value : String)
  | array (items : List Json)
  | object (fields : List (String × Json))

-- JSON.stringify: an undefined field is left out, an undefined item becomes null.
mutual

def JsValue.stringify : JsValue → Option Json
  | .undefined => none
  | .null => some .null
  | .bool value => some (.bool value)
  | .number value => some (.number value)
  | .string value => some (.string value)
  | .array items => some (.array (stringifyItems items))
  | .object fields => some (.object (stringifyFields fields))

def stringifyItems : List JsValue → List Json
  | [] => []
  | item :: rest => item.stringify.getD .null :: stringifyItems rest

def stringifyFields : List (String × JsValue) → List (String × Json)
  | [] => []
  | (key, value) :: rest =>
    match value.stringify with
    | none => stringifyFields rest
    | some text => (key, text) :: stringifyFields rest

end

mutual

def Json.parse : Json → JsValue
  | .null => .null
  | .bool value => .bool value
  | .number value => .number value
  | .string value => .string value
  | .array items => .array (parseItems items)
  | .object fields => .object (parseFields fields)

def parseItems : List Json → List JsValue
  | [] => []
  | item :: rest => item.parse :: parseItems rest

def parseFields : List (String × Json) → List (String × JsValue)
  | [] => []
  | (key, value) :: rest => (key, value.parse) :: parseFields rest

end

-- A value that JSON can say: undefined stands nowhere in it.
mutual

def JsValue.Plain : JsValue → Prop
  | .undefined => False
  | .array items => PlainItems items
  | .object fields => PlainFields fields
  | _ => True

def PlainItems : List JsValue → Prop
  | [] => True
  | item :: rest => item.Plain ∧ PlainItems rest

def PlainFields : List (String × JsValue) → Prop
  | [] => True
  | (_, value) :: rest => value.Plain ∧ PlainFields rest

end

mutual

theorem stringify_plain (value : JsValue) (plain : value.Plain) :
    ∃ text, value.stringify = some text ∧ text.parse = value := by
  cases value with
  | undefined => exact plain.elim
  | null => exact ⟨_, rfl, rfl⟩
  | bool value => exact ⟨_, rfl, rfl⟩
  | number value => exact ⟨_, rfl, rfl⟩
  | string value => exact ⟨_, rfl, rfl⟩
  | array items => exact ⟨_, rfl, congrArg JsValue.array (stringify_plain_items items plain)⟩
  | object fields => exact ⟨_, rfl, congrArg JsValue.object (stringify_plain_fields fields plain)⟩

theorem stringify_plain_items (items : List JsValue) (plain : PlainItems items) :
    parseItems (stringifyItems items) = items := by
  cases items with
  | nil => rfl
  | cons item rest =>
    obtain ⟨text, written, read⟩ := stringify_plain item plain.1
    simp only [stringifyItems, parseItems, written, getD_some, read, stringify_plain_items rest plain.2]

theorem stringify_plain_fields (fields : List (String × JsValue)) (plain : PlainFields fields) :
    parseFields (stringifyFields fields) = fields := by
  cases fields with
  | nil => rfl
  | cons entry rest =>
    obtain ⟨key, value⟩ := entry
    obtain ⟨text, written, read⟩ := stringify_plain value plain.1
    simp only [stringifyFields, parseFields, written, read, stringify_plain_fields rest plain.2]

end

mutual

theorem parse_plain (text : Json) : text.parse.Plain := by
  cases text with
  | null => trivial
  | bool value => trivial
  | number value => trivial
  | string value => trivial
  | array items => exact parse_plain_items items
  | object fields => exact parse_plain_fields fields

theorem parse_plain_items (items : List Json) : PlainItems (parseItems items) := by
  cases items with
  | nil => trivial
  | cons item rest => exact ⟨parse_plain item, parse_plain_items rest⟩

theorem parse_plain_fields (fields : List (String × Json)) : PlainFields (parseFields fields) := by
  cases fields with
  | nil => trivial
  | cons entry rest =>
    obtain ⟨key, value⟩ := entry
    exact ⟨parse_plain value, parse_plain_fields rest⟩

end

def JsValue.typeOf : JsValue → String
  | .undefined => "undefined"
  | .null => "object"
  | .bool _ => "boolean"
  | .number _ => "number"
  | .string _ => "string"
  | .array _ => "object"
  | .object _ => "object"

-- The texts of the client's ValidationErrors; a value they quote is quoted as JSON.
inductive ValidationText where
  | missing
  | expectedType (kind got : String)
  | expectedOneOf (values : List String) (got : JsValue)
  | expected (value : String) (got : JsValue)

structure ValidationError where
  message : ValidationText
  path : String

def ServerActions.text : ServerActions → String
  | .presence => "PRESENCE"
  | .system => "SYSTEM"
  | .broadcast => "BROADCAST"
  | .error => "ERROR"
  | .connect => "CONNECT"

def presenceEvents : List String := ["JOIN", "LEAVE", "UPDATE"]

def serverActions : List String :=
  [ServerActions.broadcast.text, ServerActions.connect.text, ServerActions.error.text, ServerActions.system.text]

-- What the client makes of a frame.
structure ClientEvent where
  action : String
  event : String
  channelName : String
  requestId : String
  payload : JsValue

def requireField (fields : List (String × JsValue)) (key path : String) : Except ValidationError JsValue :=
  match OrderedMap.findEntry key fields with
  | none => .error ⟨.missing, path⟩
  | some value => .ok value

def validateString (value : JsValue) (path : String) : Except ValidationError String :=
  match value with
  | .string text => .ok text
  | other => .error ⟨.expectedType "string" other.typeOf, path⟩

def validateObject (value : JsValue) (path : String) : Except ValidationError (List (String × JsValue)) :=
  match value with
  | .object fields => .ok fields
  | other => .error ⟨.expectedType "object" other.typeOf, path⟩

def validateRecord (value : JsValue) (path : String) : Except ValidationError JsValue :=
  match value with
  | .object fields => .ok (.object fields)
  | other => .error ⟨.expectedType "record with string keys" other.typeOf, path⟩

def validateArray (value : JsValue) (path : String) : Except ValidationError (List JsValue) :=
  match value with
  | .array items => .ok items
  | other => .error ⟨.expectedType "array" other.typeOf, path⟩

def validateEnum (value : JsValue) (values : List String) (path : String) : Except ValidationError String :=
  match value with
  | .string text => if text ∈ values then .ok text else .error ⟨.expectedOneOf values value, path⟩
  | other => .error ⟨.expectedOneOf values other, path⟩

def validatePresence : List JsValue → Nat → Except ValidationError Unit
  | [], _ => .ok ()
  | item :: rest, index =>
    match validateRecord item s!"payload.presence[{index}]" with
    | .error error => .error error
    | .ok _ => validatePresence rest (index + 1)

namespace PresenceMessageSchema

def parse (data : JsValue) : Except ValidationError ClientEvent := do
  let obj ← validateObject data "presenceMessage"
  let requestId ← requireField obj "requestId" "requestId"
  let channelName ← requireField obj "channelName" "channelName"
  let event ← requireField obj "event" "event"
  let action ← requireField obj "action" "action"
  let payload ← requireField obj "payload" "payload"
  let requestId ← validateString requestId "requestId"
  let channelName ← validateString channelName "channelName"
  let event ← validateEnum event presenceEvents "event"
  let action ← match action with
    | .string text =>
      if text = ServerActions.presence.text then .ok text
      else .error ⟨.expected ServerActions.presence.text (.string text), "action"⟩
    | other => .error ⟨.expected ServerActions.presence.text other, "action"⟩
  let payload ← validateObject payload "payload"
  let presence ← requireField payload "presence" "payload.presence"
  let changed ← requireField payload "changed" "payload.changed"
  let items ← validateArray presence "payload.presence"
  validatePresence items 0
  let changed ← validateRecord changed "payload.changed"
  return ⟨action, event, channelName, requestId, .object [("presence", .array items), ("changed", changed)]⟩

end PresenceMessageSchema

namespace ServerMessageSchema

def parse (data : JsValue) : Except ValidationError ClientEvent := do
  let obj ← validateObject data "serverMessage"
  let event ← requireField obj "event" "event"
  let requestId ← requireField obj "requestId" "requestId"
  let channelName ← requireField obj "channelName" "channelName"
  let payload ← requireField obj "payload" "payload"
  let action ← requireField obj "action" "action"
  let event ← validateString event "event"
  let requestId ← validateString requestId "requestId"
  let channelName ← validateString channelName "channelName"
  let payload ← validateRecord payload "payload"
  let action ← validateEnum action serverActions "action"
  return ⟨action, event, channelName, requestId, payload⟩

end ServerMessageSchema

namespace ChannelEventSchema

def parse (data : JsValue) : Except ValidationError ClientEvent := do
  let obj ← validateObject data "channelEvent"
  let action ← requireField obj "action" "action"
  match action with
  | .string text =>
    if text = ServerActions.presence.text then PresenceMessageSchema.parse data else ServerMessageSchema.parse data
  | _ => ServerMessageSchema.parse data

end ChannelEventSchema

-- An event as the object that JSON.stringify is given.
def wireObject (channelName : String) (requestId : JsValue) (action event : String) (payload : List (String × JsValue)) :
    JsValue :=
  .object [("channelName", .string channelName), ("requestId", requestId), ("action", .string action),
    ("event", .string event), ("payload", .object payload)]

def EventPayload.fields : EventPayload → List (String × JsValue)
  | .message payload => payload.entries
  | .presence changed rows =>
    [("changed", .object changed.entries), ("presence", .array (rows.map fun row => .object row.entries))]

-- The client has the event that the server has, with the fields of its payload in
-- any order.
structure SameEvent (parsed : ClientEvent) (object : JsValue) : Prop where
  action : object.field "action" = .string parsed.action
  event : object.field "event" = .string parsed.event
  channelName : object.field "channelName" = .string parsed.channelName
  requestId : object.field "requestId" = .string parsed.requestId
  payload : ∃ fields given, parsed.payload = .object fields ∧ object.field "payload" = .object given ∧ fields.Perm given

-- What is written for an event is accepted by the client as that event.
def Understood (object : JsValue) : Prop :=
  ∃ text parsed, object.stringify = some text ∧ ChannelEventSchema.parse text.parse = .ok parsed ∧ SameEvent parsed object

def IsObject : JsValue → Prop
  | .object _ => True
  | _ => False

-- The payload of a presence message, with nothing else in it.
def PresenceShaped (payload : List (String × JsValue)) : Prop :=
  ∃ items changed, (∀ item ∈ items, IsObject item) ∧
    [("presence", .array items), ("changed", .object changed)].Perm payload

theorem parse_server (channelName requestId action event : String) (payload : List (String × JsValue))
    (other : action ≠ ServerActions.presence.text) :
    ChannelEventSchema.parse (wireObject channelName (.string requestId) action event payload) =
      if action ∈ serverActions then .ok ⟨action, event, channelName, requestId, .object payload⟩
      else .error ⟨.expectedOneOf serverActions (.string action), "action"⟩ := by
  simp only [ChannelEventSchema.parse, ServerMessageSchema.parse, wireObject, validateObject, requireField,
    findEntry, validateString, validateRecord, validateEnum, bind, Except.bind, pure, Except.pure]
  by_cases listed : action ∈ serverActions
  · simp [other, listed]
  · simp [other, listed]

theorem validate_presence_ok (items : List JsValue) (index : Nat) :
    validatePresence items index = .ok () ↔ ∀ item ∈ items, IsObject item := by
  induction items generalizing index with
  | nil => simp [validatePresence]
  | cons item _ ih =>
    cases item with
    | object => simp [validatePresence, validateRecord, ih, IsObject]
    | _ => simp [validatePresence, validateRecord, IsObject]

theorem parse_presence (channelName requestId event : String) (payload : List (String × JsValue)) (parsed : ClientEvent) :
    ChannelEventSchema.parse (wireObject channelName (.string requestId) ServerActions.presence.text event payload) =
        .ok parsed ↔
      event ∈ presenceEvents ∧ ∃ items changed, OrderedMap.findEntry "presence" payload = some (.array items) ∧
        (∀ item ∈ items, IsObject item) ∧ OrderedMap.findEntry "changed" payload = some (.object changed) ∧
        parsed = ⟨ServerActions.presence.text, event, channelName, requestId,
          .object [("presence", .array items), ("changed", .object changed)]⟩ := by
  simp only [ChannelEventSchema.parse, PresenceMessageSchema.parse, wireObject, validateObject, requireField,
    findEntry, validateString, validateEnum, bind, Except.bind, pure, Except.pure]
  by_cases listed : event ∈ presenceEvents
  · simp [listed]
    cases found : findEntry "presence" payload with
    | none => simp
    | some presence =>
      cases given : findEntry "changed" payload with
      | none => simp
      | some changed =>
        cases presence with
        | array items =>
          have checked := validate_presence_ok items 0
          cases outcome : validatePresence items 0 with
          | error =>
            have refused : ¬ ∀ item ∈ items, IsObject item := by
              rw [← checked, outcome]
              intro same
              cases same
            simp [validateArray, outcome, refused]
          | ok =>
            have accepted := checked.mp outcome
            cases changed with
            | object fields =>
              simp only [validateArray, validateRecord, outcome, Except.ok.injEq]
              constructor
              · intro same
                exact ⟨items, rfl, accepted, fields, rfl, same.symm⟩
              · rintro ⟨_, items', _, _, changed', same⟩
                cases items'
                cases changed'
                exact same.symm
            | _ => simp [validateArray, validateRecord, outcome]
        | _ => simp [validateArray]
  · simp [listed]

theorem plain_fields_iff (fields : List (String × JsValue)) : PlainFields fields ↔ ∀ entry ∈ fields, entry.2.Plain := by
  induction fields with
  | nil => simp [PlainFields]
  | cons _ _ ih => simp [PlainFields, ih]

theorem plain_perm {fields others : List (String × JsValue)} (same : fields.Perm others) (plain : PlainFields fields) :
    PlainFields others := by
  rw [plain_fields_iff] at plain ⊢
  exact fun entry member => plain entry (same.mem_iff.mpr member)

theorem plain_find {fields : List (String × JsValue)} {key : String} {value : JsValue} (plain : PlainFields fields)
    (found : OrderedMap.findEntry key fields = some value) : value.Plain := by
  induction fields with
  | nil => cases found
  | cons _ _ ih =>
    simp only [findEntry] at found
    split at found
    · cases found
      exact plain.1
    · exact ih plain.2 found

theorem shaped_find {payload : List (String × JsValue)} {items : List JsValue} {changed : List (String × JsValue)}
    (same : [("presence", JsValue.array items), ("changed", .object changed)].Perm payload) :
    OrderedMap.findEntry "presence" payload = some (.array items) ∧
      OrderedMap.findEntry "changed" payload = some (.object changed) := by
  have distinct : (payload.map Prod.fst).Nodup := (same.map Prod.fst).nodup_iff.mp (by simp)
  constructor
  · exact (find_entry_mem payload distinct).mpr (same.mem_iff.mp (by simp))
  · exact (find_entry_mem payload distinct).mpr (same.mem_iff.mp (by simp))

theorem wire_written (channelName requestId action event : String) (payload : List (String × JsValue)) :
    ∃ text, (wireObject channelName (.string requestId) action event payload).stringify = some text ∧
      text.parse = wireObject channelName (.string requestId) action event (parseFields (stringifyFields payload)) := by
  refine ⟨_, rfl, ?_⟩
  simp [stringifyFields, JsValue.stringify, Json.parse, parseFields, wireObject]

theorem understood_iff (channelName : String) (requestId : JsValue) (action event : String)
    (payload : List (String × JsValue)) :
    Understood (wireObject channelName requestId action event payload) ↔
      (∃ text, requestId = .string text) ∧ PlainFields payload ∧ (action ∈ serverActions ∨
          (action = ServerActions.presence.text ∧ event ∈ presenceEvents ∧ PresenceShaped payload)) := by
  constructor
  · rintro ⟨text, _, written, accepted, same⟩
    obtain ⟨id, known⟩ : ∃ id, requestId = .string id := ⟨_, same.requestId⟩
    subst known
    obtain ⟨frame, spelled, read⟩ := wire_written channelName id action event payload
    rw [spelled] at written
    cases written
    rw [read] at accepted
    have plain := parse_plain_fields (stringifyFields payload)
    obtain ⟨_, given, is, known, perm⟩ := same.payload
    cases known
    refine ⟨⟨id, rfl⟩, ?_⟩
    by_cases presence : action = ServerActions.presence.text
    · subst presence
      obtain ⟨listed, items, changed, given, objects, changes, rfl⟩ := (parse_presence _ _ _ _ _).mp accepted
      cases is
      refine ⟨plain_perm perm ⟨?_, ?_, trivial⟩, .inr ⟨rfl, listed, items, changed, objects, perm⟩⟩
      · exact plain_find plain given
      · exact plain_find plain changes
    rw [parse_server _ _ _ _ _ presence] at accepted
    split at accepted
    · rename_i listed
      cases accepted
      cases is
      exact ⟨plain_perm perm plain, .inl listed⟩
    · cases accepted
  · rintro ⟨⟨id, rfl⟩, plain, kind⟩
    obtain ⟨frame, spelled, read⟩ := wire_written channelName id action event payload
    rw [stringify_plain_fields payload plain] at read
    rcases kind with listed | ⟨rfl, listed, items, changed, objects, perm⟩
    · have other : action ≠ ServerActions.presence.text := by
        rintro rfl
        revert listed
        decide
      have accepted := parse_server channelName id action event payload other
      rw [if_pos listed, ← read] at accepted
      exact ⟨frame, _, spelled, accepted, rfl, rfl, rfl, rfl, payload, payload, rfl, rfl, List.Perm.refl payload⟩
    · obtain ⟨given, changes⟩ := shaped_find perm
      have accepted := (parse_presence channelName id event payload _).mpr ⟨listed, items, changed, given, objects, changes, rfl⟩
      rw [← read] at accepted
      exact ⟨frame, _, spelled, accepted, rfl, rfl, rfl, rfl, _, payload, rfl, rfl, perm⟩

def ChannelEvent.toObject (wire : RequestId → String) (event : ChannelEvent) : JsValue :=
  wireObject event.channelName (.string (wire event.requestId)) event.action.text event.event event.payload.fields

def distributedMessageTypes : List String :=
  ["STATE_REQUEST", "STATE_RESPONSE", "USER_JOINED", "USER_LEFT", "USER_MESSAGE", "PRESENCE_UPDATE", "PRESENCE_REMOVED",
    "ASSIGNS_UPDATE", "EVICT_USER", "USER_REMOVE", "USER_GET_REQUEST", "USER_GET_RESPONSE", "NODE_HEARTBEAT"]

def JsValue.isString : JsValue → Bool
  | .string _ => true
  | _ => false

def JsValue.isNumber : JsValue → Bool
  | .number _ => true
  | _ => false

def JsValue.equals (value : JsValue) (text : String) : Bool :=
  match value with
  | .string other => other = text
  | _ => false

def isValidMessage (message : JsValue) : Bool :=
  message.typeOf = "object" && (message.field "protocol").equals "pondsocket.distributed" &&
    (match message.field "version" with
      | .number version => version = 1
      | _ => false) &&
    distributedMessageTypes.any (fun name => (message.field "type").equals name) &&
    (message.field "messageId").isString && (message.field "endpointName").isString &&
    (message.field "channelName").isString && (message.field "sourceNodeId").isString &&
    (message.field "timestamp").isNumber

namespace ChannelEngine

-- #handleRemoteMessage on the message as it was parsed: whom it is for.
def namedRecipients (engine : ChannelEngine) (message : JsValue) : List UserId :=
  match message.field "recipientDescriptor" with
  | .string "ALL_USERS" => engine.users
  | .string "ALL_EXCEPT_SENDER" => engine.users.filter fun user => !(message.field "fromUserId").equals user
  | .array items => engine.users.filter fun user => items.any fun item => item.equals user
  | _ => []

-- And the event it makes of it.
def remoteObject (engine : ChannelEngine) (message : JsValue) : JsValue :=
  .object [("channelName", .string engine.name), ("requestId", message.field "requestId"),
    ("action", .string ServerActions.broadcast.text), ("event", message.field "event"),
    ("payload", message.field "payload")]

end ChannelEngine

-- What an onMessage is to be given, and whether by way of processOutgoingEvents.
structure Parcel where
  subscriber : Subscriber
  direct : Bool
  object : JsValue

-- The object that EndpointEngine.sendMessage is given, in a lobby without outgoing
-- handlers: the getter of the context's event throws for a name the wildcard refuses.
def Parcel.written (parcel : Parcel) : Option JsValue :=
  if parcel.direct || (parcel.object.field "action").equals ServerActions.presence.text then some parcel.object
  else
    match parcel.object.field "event" with
    | .string name => if parseWildcard name = .params then some parcel.object else none
    | _ => none

def Parcel.Arrives (parcel : Parcel) : Prop := ∃ object, parcel.written = some object ∧ Understood object

-- Where the events that are sent to clients come from.
inductive EventSource where
  | userMessage (engine : ChannelEngine) (message : Json)
  | addUser (engine : ChannelEngine) (userId : UserId) (assigns : PondAssigns) (onMessage : ConnectionId)
      (requestId : RequestId)
  | failure (clientId : UserId) (error : Thrown) (errorType channelName : String) (requestId : RequestId)
  | presence (engine : PresenceEngine) (requestId : RequestId) (action : PresenceEventTypes) (userId : UserId)
      (data : Option PondPresence)
  | sendMessage (engine : ChannelEngine) (sender : UserId) (recipient : ChannelReceivers) (action : ServerActions)
      (event : String) (payload : PondMessage) (requestId : RequestId)

namespace EventSource

def handedParcels (wire : RequestId → String) (direct : Bool) (engine : ChannelEngine) : List Parcel :=
  engine.handed.map fun row => ⟨row.1, direct, row.2.toObject wire⟩

def parcels (wire : RequestId → String) : EventSource → List Parcel
  | .userMessage engine message =>
    (engine.publisher.observers.values.filter fun subscriber =>
      (engine.namedRecipients message.parse).contains subscriber.userId).map fun subscriber =>
        ⟨subscriber, false, engine.remoteObject message.parse⟩
  | .addUser engine userId assigns onMessage requestId =>
    handedParcels wire true ({ engine with effects := [] }.addUser userId assigns onMessage requestId).engine
  | .failure clientId error errorType channelName requestId =>
    [⟨⟨clientId, clientId⟩, true, (buildError error errorType channelName requestId).toObject wire⟩]
  | .presence engine requestId action userId data =>
    match engine.processPresenceAction requestId action userId data with
    | .error _ => []
    | .ok (_, event) => event.recipients.map fun userId => ⟨⟨userId, userId⟩, false, event.toChannelEvent.toObject wire⟩
  | .sendMessage engine sender recipient action event payload requestId =>
    handedParcels wire false
      ({ engine with effects := [] }.sendMessage sender recipient action event payload requestId).engine

-- The shape that a USER_MESSAGE has by the protocol, with requestId optional.
structure ConformingUserMessage (message : JsValue) : Prop where
  kind : message.field "type" = .string "USER_MESSAGE"
  fromUserId : ∃ text, message.field "fromUserId" = .string text
  event : ∃ text, message.field "event" = .string text
  payload : ∃ fields, message.field "payload" = .object fields
  requestId : message.field "requestId" = .undefined ∨ ∃ text, message.field "requestId" = .string text
  recipientDescriptor : message.field "recipientDescriptor" = .string "ALL_USERS" ∨
    message.field "recipientDescriptor" = .string "ALL_EXCEPT_SENDER" ∨
    ∃ items, message.field "recipientDescriptor" = .array items ∧ ∀ item ∈ items, ∃ text, item = .string text

def Conforms : EventSource → Prop
  | .userMessage _ message => isValidMessage message.parse = true ∧ ConformingUserMessage message.parse
  | _ => True

-- What the server needs for its client to understand the event.
def Legible : EventSource → Prop
  | .userMessage _ message => (∃ text, message.parse.field "requestId" = .string text) ∧
      ∀ name, message.parse.field "event" = .string name → parseWildcard name = .params
  | .presence engine _ _ _ data => (∀ userId value, engine.presenceCache.get? userId = some value →
      PlainFields value.entries) ∧ ∀ value, data = some value → PlainFields value.entries
  | .sendMessage _ _ _ action event payload _ => PlainFields payload.entries ∧
      if action = .presence then event ∈ presenceEvents ∧ PresenceShaped payload.entries
      else parseWildcard event = .params
  | _ => True

end EventSource

variable (subscriber : Subscriber) (channelName : String) (requestId : JsValue)

theorem action_field (action event : String) (payload : List (String × JsValue)) :
    (wireObject channelName requestId action event payload).field "action" = .string action := rfl

theorem event_field (action event : String) (payload : List (String × JsValue)) :
    (wireObject channelName requestId action event payload).field "event" = .string event := rfl

theorem parcel_arrives (action event : String)
    (payload : List (String × JsValue)) (other : action ≠ ServerActions.presence.text) :
    Parcel.Arrives ⟨subscriber, false, wireObject channelName requestId action event payload⟩ ↔
      parseWildcard event = .params ∧ Understood (wireObject channelName requestId action event payload) := by
  have refused : (JsValue.string action).equals ServerActions.presence.text = false := decide_eq_false other
  simp only [Parcel.Arrives, Parcel.written, action_field, event_field, refused, Bool.or_self, Bool.false_eq_true, if_false]
  by_cases params : parseWildcard event = .params
  · simp [params]
  · simp [params]

theorem direct_arrives (object : JsValue) :
    Parcel.Arrives ⟨subscriber, true, object⟩ ↔ Understood object := by
  simp [Parcel.Arrives, Parcel.written]

theorem presence_arrives (direct : Bool) (channelName : String) (requestId : JsValue)
    (event : String) (payload : List (String × JsValue)) :
    Parcel.Arrives ⟨subscriber, direct, wireObject channelName requestId ServerActions.presence.text event payload⟩ ↔
      Understood (wireObject channelName requestId ServerActions.presence.text event payload) := by
  have accepted : (JsValue.string ServerActions.presence.text).equals ServerActions.presence.text = true := by
    decide
  simp only [Parcel.Arrives, Parcel.written, action_field, accepted, Bool.or_true, if_true, some.injEq]
  exact ⟨fun arrives => by obtain ⟨_, rfl, understood⟩ := arrives; exact understood, fun understood => ⟨_, rfl, understood⟩⟩

theorem action_listed (action : ServerActions) (other : action ≠ .presence) :
    action.text ∈ serverActions ∧ action.text ≠ ServerActions.presence.text := by
  cases action with
  | presence => exact absurd rfl other
  | system | broadcast | error | connect => decide

theorem error_payload_plain {code message : String} {status : Nat} :
    PlainFields (errorPayload code message status).entries :=
  ⟨trivial, trivial, trivial, trivial, ⟨trivial, trivial, trivial⟩, trivial⟩

namespace EventSource

variable {wire : RequestId → String} {engine : ChannelEngine} {parcel : Parcel}

variable {userId : UserId}

theorem add_user_arrives {assigns : PondAssigns} {onMessage : ConnectionId} {requestId : RequestId}
    (among : parcel ∈ (EventSource.addUser engine userId assigns onMessage requestId).parcels wire) :
    parcel.Arrives := by
  obtain ⟨row, member, rfl⟩ := mem_map.mp among
  have said := handed_add_user { engine with effects := [] } userId assigns onMessage requestId
  rw [said] at member
  have acknowledged : row.2 = engine.acknowledgement requestId := by
    rcases mem_append.mp member with old | new
    · cases old
    split at new
    · cases new
    · rw [mem_singleton.mp new]
      rfl
  rw [direct_arrives, acknowledged]
  exact (understood_iff _ _ _ _ _).mpr ⟨⟨_, rfl⟩, trivial, .inl (action_listed .system (by decide)).1⟩

theorem failure_arrives {clientId : UserId} {error : Thrown} {errorType channelName : String} {requestId : RequestId}
    (among : parcel ∈ (EventSource.failure clientId error errorType channelName requestId).parcels wire) :
    parcel.Arrives := by
  rw [mem_singleton.mp among, direct_arrives]
  exact (understood_iff _ _ _ _ _).mpr ⟨⟨_, rfl⟩, error_payload_plain, .inl (action_listed .error (by decide)).1⟩

variable {recipient : ChannelReceivers} {action : ServerActions} {payload : PondMessage} {sender : UserId}

theorem sent_event {event : String} {requestId : RequestId} {row : Subscriber × ChannelEvent}
    (silent : engine.handed = [])
    (member : row ∈ (engine.sendMessage sender recipient action event payload requestId).engine.handed) :
    row.2 = ⟨action, event, engine.name, requestId, .message payload⟩ := by
  simp only [ChannelEngine.sendMessage] at member
  split at member
  · rw [silent] at member
    cases member
  split at member
  · rw [silent] at member
    cases member
  rw [handed_broadcast, handed_publish, silent, nil_append] at member
  obtain ⟨_, _, rfl⟩ := mem_map.mp member
  rfl

theorem send_message_arrives {event : String} {requestId : RequestId}
    (among : parcel ∈ (EventSource.sendMessage engine sender recipient action event payload requestId).parcels wire) :
    parcel.Arrives ↔ (EventSource.sendMessage engine sender recipient action event payload requestId).Legible := by
  obtain ⟨row, member, rfl⟩ := mem_map.mp among
  have sent := sent_event rfl member
  rw [sent, Legible]
  by_cases presence : action = .presence
  · subst presence
    have unlisted : ServerActions.presence.text ∉ serverActions := by decide
    refine (presence_arrives row.1 false _ _ event payload.entries).trans ((understood_iff _ _ _ _ _).trans ?_)
    simp [unlisted]
  obtain ⟨listed, other⟩ := action_listed action presence
  refine (parcel_arrives row.1 _ _ _ event payload.entries other).trans ?_
  rw [understood_iff]
  simp [presence, listed, and_comm]

theorem user_message_arrives {message : Json} (conforming : ConformingUserMessage message.parse)
    (among : parcel ∈ (EventSource.userMessage engine message).parcels wire) :
    parcel.Arrives ↔ (EventSource.userMessage engine message).Legible := by
  obtain ⟨subscriber, _, rfl⟩ := mem_map.mp among
  obtain ⟨name, named⟩ := conforming.event
  obtain ⟨fields, given⟩ := conforming.payload
  have object : engine.remoteObject message.parse = wireObject engine.name (message.parse.field "requestId")
      ServerActions.broadcast.text name fields := by
    rw [remoteObject, named, given]
    rfl
  have plain : PlainFields fields := by
    have whole := parse_plain message
    cases read : message.parse with
    | object entries =>
      rw [read] at whole given
      cases found : findEntry "payload" entries with
      | none =>
        simp only [JsValue.field, found, getD_none] at given
        cases given
      | some =>
        simp only [JsValue.field, found, getD_some] at given
        subst given
        exact plain_find whole found
    | _ =>
      rw [read] at given
      cases given
  obtain ⟨listed, other⟩ := action_listed .broadcast (by decide)
  rw [object, parcel_arrives subscriber _ _ _ name fields other, understood_iff, Legible]
  simp [named, plain, listed, and_comm]

theorem presence_published (engine next : PresenceEngine) (requestId : RequestId) (action : PresenceEventTypes)
    (userId : UserId) (data : Option PondPresence) (event : InternalChannelEvent)
    (done : engine.processPresenceAction requestId action userId data = .ok (next, event)) :
    event.toChannelEvent = ⟨.presence, action.text, engine.channelId, requestId,
      .presence (((engine.presenceCache.get? userId).or data).getD .empty)
        (PresenceEngine.applied engine.presenceCache userId data).values⟩ := by
  simp only [PresenceEngine.processPresenceAction] at done
  split at done
  · cases done
  split at done
  · cases done
  split at done
  · cases done
  · obtain ⟨_, rfl⟩ := done
    cases data <;> rfl

theorem values_get {cache : OrderedMap UserId PondPresence} {value : PondPresence} :
    value ∈ cache.values ↔ ∃ userId, cache.get? userId = some value := by
  constructor
  · intro member
    obtain ⟨row, inside, rfl⟩ := mem_map.mp member
    exact ⟨row.1, (find_entry_mem cache.entries cache.distinct).mpr inside⟩
  · rintro ⟨userId, found⟩
    exact mem_map.mpr ⟨(userId, value), (find_entry_mem cache.entries cache.distinct).mp found, rfl⟩

theorem published_plain (cache : OrderedMap UserId PondPresence) (userId : UserId) (data : Option PondPresence) :
    (PlainFields (((cache.get? userId).or data).getD .empty).entries ∧
        ∀ value ∈ (PresenceEngine.applied cache userId data).values, PlainFields value.entries) ↔
      (∀ other value, cache.get? other = some value → PlainFields value.entries) ∧
        ∀ value, data = some value → PlainFields value.entries := by
  have after : ∀ other, (PresenceEngine.applied cache userId data).get? other =
      if other = userId then data else cache.get? other := by
    intro other
    cases data with
    | none => exact get_delete cache userId other
    | some value => exact get_set cache userId other value
  constructor
  · rintro ⟨changed, rows⟩
    refine ⟨fun other value found => ?_, fun value given => ?_⟩
    · by_cases his : other = userId
      · subst his
        rw [found] at changed
        exact changed
      · exact rows value (values_get.mpr ⟨other, by rw [after, if_neg his]; exact found⟩)
    · exact rows value (values_get.mpr ⟨userId, by rw [after, if_pos rfl]; exact given⟩)
  · rintro ⟨cached, fresh⟩
    refine ⟨?_, fun value member => ?_⟩
    · cases found : cache.get? userId with
      | some value => exact cached userId value found
      | none =>
        cases given : data with
        | none => exact trivial
        | some value => exact fresh value given
    obtain ⟨other, found⟩ := values_get.mp member
    rw [after] at found
    split at found
    · exact fresh value found
    · exact cached other value found

theorem plain_rows (rows : List PondPresence) :
    PlainItems (rows.map fun row => .object row.entries) ↔ ∀ row ∈ rows, PlainFields row.entries := by
  induction rows with
  | nil => simp [PlainItems]
  | cons _ _ ih => simp [PlainItems, JsValue.Plain, ih]

theorem presence_legible {engine : PresenceEngine} {requestId : RequestId} {action : PresenceEventTypes}
    {data : Option PondPresence}
    (among : parcel ∈ (EventSource.presence engine requestId action userId data).parcels wire) :
    parcel.Arrives ↔ (EventSource.presence engine requestId action userId data).Legible := by
  simp only [parcels] at among
  cases done : engine.processPresenceAction requestId action userId data with
  | error =>
    rw [done] at among
    cases among
  | ok result =>
    obtain ⟨next, event⟩ := result
    rw [done] at among
    obtain ⟨_, _, rfl⟩ := mem_map.mp among
    have published := presence_published engine next requestId action userId data event done
    rw [published]
    have listed : action.text ∈ presenceEvents := by cases action <;> decide
    have shaped : PresenceShaped (EventPayload.presence (((engine.presenceCache.get? userId).or data).getD .empty)
        (PresenceEngine.applied engine.presenceCache userId data).values).fields := by
      refine ⟨_, _, fun item member => ?_, List.Perm.swap _ _ []⟩
      obtain ⟨_, _, rfl⟩ := mem_map.mp member
      exact trivial
    refine (presence_arrives _ false _ _ action.text _).trans ((understood_iff _ _ _ _ _).trans ?_)
    have plain := published_plain engine.presenceCache userId data
    rw [← plain_rows] at plain
    refine Iff.trans ?_ plain
    constructor
    · rintro ⟨_, whole, _⟩
      exact ⟨whole.1, whole.2.1⟩
    · rintro ⟨changed, rows⟩
      exact ⟨⟨_, rfl⟩, ⟨changed, rows, trivial⟩, .inr ⟨rfl, listed, shaped⟩⟩

def oneMember : ChannelEngine :=
  ((ChannelEngine.new "/ws" "room" "n" none).addUser "u" .empty "u" (.supplied "r")).engine

def userMessageFields : List (String × Json) :=
  [("protocol", .string "pondsocket.distributed"), ("version", .number 1), ("type", .string "USER_MESSAGE"),
    ("messageId", .string "m"), ("sourceNodeId", .string "other"), ("endpointName", .string "ws"),
    ("channelName", .string "room"), ("timestamp", .number 1), ("fromUserId", .string "v"), ("event", .string "hi"),
    ("payload", .object []), ("recipientDescriptor", .string "ALL_USERS")]

end EventSource

end PondSocket.Js
