import PondSocket.Go.FrameReaders
import PondSocket.Python.Channel

namespace PondSocket.Python.Client

open Library Option Go.Wire.Event
open Library.JsonText (Value Number parse parse_render parse_overlong)
open Js (Json ServerEvent)
open Go.Wire (Reading Group TakesOne toJson fieldsJson fieldOr marshalEscape textOf recordOf recordsOf records_of)

inductive ServerActions where
  | presence
  | system
  | broadcast
  | error
  | connect
deriving DecidableEq

def ServerActions.value : ServerActions → String
  | .presence => "PRESENCE"
  | .system => "SYSTEM"
  | .broadcast => "BROADCAST"
  | .error => "ERROR"
  | .connect => "CONNECT"

def serverMessageAction (text : String) : Option ServerActions :=
  [ServerActions.broadcast, .connect, .error, .system].find? fun action => decide (action.value = text)

def presenceEventTypes (text : String) : Option PresenceEventTypes :=
  [PresenceEventTypes.join, .leave, .update].find? fun event => decide (event.value = text)

structure ServerMessage where
  event : String
  requestId : String
  channelName : String
  payload : List (String × Json)
  action : ServerActions

structure PresencePayloadModel where
  presence : List (List (String × Json))
  changed : List (String × Json)

structure PresenceMessage where
  requestId : String
  channelName : String
  event : PresenceEventTypes
  payload : PresencePayloadModel

inductive ChannelEvent where
  | server (message : ServerMessage)
  | presence (message : PresenceMessage)

def ChannelEvent.said : ChannelEvent → Go.Wire.ChannelEvent
  | .server said => ⟨said.action.value, said.event, .object said.payload, said.channelName, said.requestId⟩
  | .presence said =>
    ⟨"PRESENCE", said.event.value,
      .object [("presence", .array (said.payload.presence.map .object)), ("changed", .object said.payload.changed)],
      said.channelName, said.requestId⟩

-- What json.loads raises: a JSONDecodeError, or what the interpreter's limits make it.
inductive LoadError where
  | decode
  | limit
deriving DecidableEq

section

variable (lone : Nat → Char) (within : Value → Bool) (numeral : Number → Rat)

-- json.loads on a text without NaN or Infinity; within says which values the limits on
-- recursion and on the digits of an integer leave.
def loads (data : List Char) : Except LoadError Value :=
  match parse lone data with
  | none => .error .decode
  | some value => if within value then .ok value else .error .limit

def dictOf (key : String) (fields : List (String × Value)) : Option (List (String × Json)) :=
  (OrderedMap.findEntry key fields).bind (recordOf numeral)

def parseServerMessage (fields : List (String × Value)) : Option ServerMessage := do
  let event ← textOf "event" fields
  let requestId ← textOf "requestId" fields
  let channelName ← textOf "channelName" fields
  let payload ← dictOf numeral "payload" fields
  let action ← (textOf "action" fields).bind serverMessageAction
  return ⟨event, requestId, channelName, payload, action⟩

def presencePayloadModel (fields : List (String × Value)) : Option PresencePayloadModel := do
  let presence ← match OrderedMap.findEntry "presence" fields with
    | some (.array items) => recordsOf numeral items
    | _ => none
  let changed ← dictOf numeral "changed" fields
  return ⟨presence, changed⟩

def parsePresenceMessage (fields : List (String × Value)) : Option PresenceMessage := do
  let requestId ← textOf "requestId" fields
  let channelName ← textOf "channelName" fields
  let event ← (textOf "event" fields).bind presenceEventTypes
  let payload ← match OrderedMap.findEntry "payload" fields with
    | some (.object payload) => presencePayloadModel numeral payload
    | _ => none
  return ⟨requestId, channelName, event, payload⟩

-- none stands for any ValidationError.
def parseChannelEvent (data : Value) : Option ChannelEvent :=
  match data with
  | .object fields =>
    match OrderedMap.findEntry "action" fields with
    | none => none
    | some _ =>
      if textOf "action" fields = some "PRESENCE" then (parsePresenceMessage numeral fields).map .presence
      else (parseServerMessage numeral fields).map .server
  | _ => none

def handleInboundText (text : List Char) : Reading ChannelEvent :=
  match loads lone within text with
  | .error .decode => .passed
  | .error .limit => .ended
  | .ok data =>
    match parseChannelEvent numeral data with
    | none => .passed
    | some event => .routed event

theorem loads_marshal (event : Go.Wire.Event) :
    loads lone within event.marshal = if within event.value then .ok event.value else .error .limit := by
  rw [loads, marshal, parse_render]

theorem loads_joined (event next : Go.Wire.Event) (others : List Go.Wire.Event) :
    loads lone within (Group.frame (event, next :: others)) = .error .decode := by
  have joined : Group.frame (event, next :: others) = event.value.render marshalEscape ++ '\n' ::
        (next.marshal ++ (others.map marshal).flatMap fun data => '\n' :: data) := rfl
  rw [joined, loads, parse_overlong]
  · decide
  · intro empty
    cases empty

theorem server_action_of {action : String} (server : action ∈ Js.serverActions) :
    some action ≠ some "PRESENCE" ∧ ∃ found, serverMessageAction action = some found ∧ found.value = action := by
  have all : ∀ action ∈ Js.serverActions, some action ≠ some "PRESENCE" ∧
      ∃ found ∈ [ServerActions.system, .broadcast, .error, .connect],
        serverMessageAction action = some found ∧ found.value = action := by decide
  obtain ⟨other, found, _, read, same⟩ := all action server
  exact ⟨other, found, read, same⟩

theorem presence_event_of {event : String} (listed : event ∈ Js.presenceEvents) :
    ∃ found, presenceEventTypes event = some found ∧ found.value = event := by
  have all : ∀ event ∈ Js.presenceEvents, ∃ found ∈ [PresenceEventTypes.join, .leave, .update],
      presenceEventTypes event = some found ∧ found.value = event := by decide
  obtain ⟨found, _, read, same⟩ := all event listed
  exact ⟨found, read, same⟩

theorem parse_server_event {event : Go.Wire.Event} (server : ServerEvent event) :
    ∃ got, parseChannelEvent numeral event.value = some got ∧ got.said = event.seen numeral := by
  obtain ⟨fields, object, kind⟩ := server
  have there : OrderedMap.findEntry "action" event.fields = some (.string event.action) := rfl
  have action : textOf "action" event.fields = some event.action := rfl
  have channelName : textOf "channelName" event.fields = some event.channelName := rfl
  have requestId : textOf "requestId" event.fields = some event.requestId := rfl
  have name : textOf "event" event.fields = some event.event := rfl
  have payload : OrderedMap.findEntry "payload" event.fields = some (.object fields) := by
    rw [← object]
    rfl
  simp only [parseChannelEvent, Go.Wire.value_fields, there, action]
  rcases kind with listed | ⟨isPresence, listed, _, changed, presence, records, change⟩
  · obtain ⟨other, found, reads, same⟩ := server_action_of listed
    have apart : event.action ≠ "PRESENCE" := fun equal => other (congrArg some equal)
    rw [if_neg other]
    refine ⟨.server ⟨event.event, event.requestId, event.channelName, fieldsJson numeral fields, found⟩, ?_, ?_⟩
    · simp [parseServerMessage, name, requestId, channelName, dictOf, payload, recordOf, action, reads]
    · simp [ChannelEvent.said, seen, object, if_neg apart, same, toJson]
  have presenceAction : event.action = "PRESENCE" := isPresence
  rw [if_pos (congrArg some presenceAction)]
  obtain ⟨found, reads, same⟩ := presence_event_of listed
  obtain ⟨maps, mapped, listing⟩ := records_of numeral records
  refine ⟨.presence ⟨event.requestId, event.channelName, found, ⟨maps, fieldsJson numeral changed⟩⟩, ?_, ?_⟩
  · simp only [parsePresenceMessage, requestId, channelName, name, bind_some, reads, payload,
      presencePayloadModel, presence, mapped, dictOf, change, recordOf, bind_eq_bind, pure_def,
      map_some]
  simp only [ChannelEvent.said, seen, object, if_pos presenceAction, same, fieldOr, presence, change,
    getD_some, toJson, listing]
  rw [presenceAction]

theorem takes_one :
    TakesOne (handleInboundText lone within numeral) ChannelEvent.said numeral fun event => within event.value = true where
  alone event server small := by
    obtain ⟨got, parsed, same⟩ := parse_server_event numeral server
    refine ⟨got, ?_, same⟩
    simp only [handleInboundText, loads_marshal, if_pos small, parsed]
  large event _ big got := by
    simp only [handleInboundText, loads_marshal, if_neg big]
    intro same
    cases same
  joined event next others got := by
    simp only [handleInboundText, loads_joined]
    intro same
    cases same

end

end PondSocket.Python.Client
