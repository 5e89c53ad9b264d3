import PondSocket.Go.FrameReaders
import PondSocket.Rust.Channel

namespace PondSocket.Rust.Client

open Library Option Go.Wire.Event
open Library.JsonText (Value Number parse parse_render parse_overlong)
open Js (Json ServerEvent)
open Go.Wire (Reading Group TakesOne toJson fieldsJson fieldOr marshalEscape textOf recordOf recordsOf records_of)

inductive ServerAction where
  | presence
  | system
  | broadcast
  | error
  | connect
deriving DecidableEq

def ServerAction.text : ServerAction → String
  | .presence => "PRESENCE"
  | .system => "SYSTEM"
  | .broadcast => "BROADCAST"
  | .error => "ERROR"
  | .connect => "CONNECT"

def ServerAction.ofText (text : String) : Option ServerAction :=
  [ServerAction.presence, .system, .broadcast, .error, .connect].find? fun action => decide (action.text = text)

def presenceEventType (text : String) : Option PresenceEventType :=
  [PresenceEventType.join, .leave, .update].find? fun event => decide (event.text = text)

-- A Map<String, Value>.
abbrev PondMap := List (String × Json)

structure ServerMessage where
  event : String
  requestId : String
  channelName : String
  payload : PondMap
  action : ServerAction

structure PresencePayload where
  presence : List PondMap
  changed : PondMap

structure PresenceMessage where
  requestId : String
  channelName : String
  event : PresenceEventType
  payload : PresencePayload

inductive ChannelEvent where
  | message (message : ServerMessage)
  | presence (message : PresenceMessage)

def ChannelEvent.said : ChannelEvent → Go.Wire.ChannelEvent
  | .message said => ⟨said.action.text, said.event, .object said.payload, said.channelName, said.requestId⟩
  | .presence said =>
    ⟨"PRESENCE", said.event.text,
      .object [("presence", .array (said.payload.presence.map .object)), ("changed", .object said.payload.changed)],
      said.channelName, said.requestId⟩

section

variable (finite : Number → Bool) (numeral : Number → Rat)

-- serde_json stops at 128 levels, and at a number beyond the range of a double.
def recursionLimit : Nat := 128

def fits (value : Value) : Bool := decide (value.depth < recursionLimit) && value.allNumbers finite

-- serde_json::from_str. Half of a surrogate pair is refused: where there is one, the
-- reading depends on what is put in its place.
def fromStr (data : List Char) : Option Value :=
  match parse (fun _ => 'a') data with
  | none => none
  | some value =>
    if (parse (fun _ => 'b') data).map (fun other => other.render marshalEscape) = some (value.render marshalEscape) ∧
        fits finite value = true then
      some value
    else none

def mapOrDefault (key : String) (fields : List (String × Value)) : Option PondMap :=
  match OrderedMap.findEntry key fields with
  | none => some []
  | some value => recordOf numeral value

def mapsOrDefault (key : String) (fields : List (String × Value)) : Option (List PondMap) :=
  match OrderedMap.findEntry key fields with
  | none => some []
  | some (.array items) => recordsOf numeral items
  | some _ => none

def serverMessage (fields : List (String × Value)) : Option ServerMessage := do
  let event ← textOf "event" fields
  let requestId ← textOf "requestId" fields
  let channelName ← textOf "channelName" fields
  let payload ← mapOrDefault numeral "payload" fields
  let action ← (textOf "action" fields).bind ServerAction.ofText
  return ⟨event, requestId, channelName, payload, action⟩

def presencePayload (fields : List (String × Value)) : Option PresencePayload := do
  let presence ← mapsOrDefault numeral "presence" fields
  let changed ← mapOrDefault numeral "changed" fields
  return ⟨presence, changed⟩

def presenceMessage (fields : List (String × Value)) : Option PresenceMessage := do
  let requestId ← textOf "requestId" fields
  let channelName ← textOf "channelName" fields
  let event ← (textOf "event" fields).bind presenceEventType
  let payload ← match OrderedMap.findEntry "payload" fields with
    | some (.object payload) => presencePayload numeral payload
    | _ => none
  return ⟨requestId, channelName, event, payload⟩

def parseChannelEvent (data : List Char) : Option ChannelEvent :=
  match fromStr finite data with
  | some (.object fields) =>
    match textOf "action" fields with
    | none => none
    | some action =>
      if action = "PRESENCE" then (presenceMessage numeral fields).map .presence
      else (serverMessage numeral fields).map .message
  | _ => none

def readFrame (data : List Char) : Reading ChannelEvent :=
  match parseChannelEvent finite numeral data with
  | none => .passed
  | some event => .routed event

variable {finite}

theorem from_str_marshal (event : Go.Wire.Event) :
    fromStr finite event.marshal = if fits finite event.value = true then some event.value else none := by
  simp [fromStr, marshal, parse_render]

theorem from_str_joined (event next : Go.Wire.Event) (others : List Go.Wire.Event) :
    fromStr finite (Group.frame (event, next :: others)) = none := by
  have joined : Group.frame (event, next :: others) = event.value.render marshalEscape ++ '\n' ::
        (next.marshal ++ (others.map marshal).flatMap fun data => '\n' :: data) := rfl
  rw [joined, fromStr, parse_overlong]
  · decide
  · intro empty
    cases empty

theorem action_of_server {action : String} (server : action ∈ Js.serverActions) :
    action ≠ "PRESENCE" ∧ ∃ found, ServerAction.ofText action = some found ∧ found.text = action := by
  have all : ∀ action ∈ Js.serverActions, action ≠ "PRESENCE" ∧ ∃ found ∈ [ServerAction.system, .broadcast, .error, .connect],
      ServerAction.ofText action = some found ∧ found.text = action := by decide
  obtain ⟨other, found, _, read, same⟩ := all action server
  exact ⟨other, found, read, same⟩

theorem presence_event_of {event : String} (listed : event ∈ Js.presenceEvents) :
    ∃ found, presenceEventType event = some found ∧ found.text = event := by
  have all : ∀ event ∈ Js.presenceEvents, ∃ found ∈ [PresenceEventType.join, .leave, .update],
      presenceEventType event = some found ∧ found.text = event := by decide
  obtain ⟨found, _, read, same⟩ := all event listed
  exact ⟨found, read, same⟩

variable {numeral}

theorem parse_server_event {event : Go.Wire.Event} (server : ServerEvent event)
    (small : fits finite event.value = true) :
    ∃ got, parseChannelEvent finite numeral event.marshal = some got ∧ got.said = event.seen numeral := by
  obtain ⟨fields, object, kind⟩ := server
  have read : fromStr finite event.marshal = some (.object event.fields) := by
    rw [from_str_marshal, if_pos small, Go.Wire.value_fields]
  have action : textOf "action" event.fields = some event.action := rfl
  have channelName : textOf "channelName" event.fields = some event.channelName := rfl
  have requestId : textOf "requestId" event.fields = some event.requestId := rfl
  have name : textOf "event" event.fields = some event.event := rfl
  have payload : OrderedMap.findEntry "payload" event.fields = some (.object fields) := by
    rw [← object]
    rfl
  simp only [parseChannelEvent, read, action]
  rcases kind with listed | ⟨isPresence, listed, _, changed, presence, records, change⟩
  · obtain ⟨other, found, reads, same⟩ := action_of_server listed
    rw [if_neg other]
    refine ⟨.message ⟨event.event, event.requestId, event.channelName, fieldsJson numeral fields, found⟩, ?_, ?_⟩
    · simp [serverMessage, name, requestId, channelName, mapOrDefault, payload, recordOf, action, reads]
    · simp [ChannelEvent.said, seen, object, if_neg other, same, toJson]
  have presenceAction : event.action = "PRESENCE" := isPresence
  rw [if_pos presenceAction]
  obtain ⟨found, reads, same⟩ := presence_event_of listed
  obtain ⟨maps, mapped, listing⟩ := records_of numeral records
  refine ⟨.presence ⟨event.requestId, event.channelName, found, ⟨maps, fieldsJson numeral changed⟩⟩, ?_, ?_⟩
  · simp only [presenceMessage, requestId, channelName, name, bind_some, reads, payload, presencePayload,
      mapsOrDefault, presence, mapped, mapOrDefault, change, recordOf, bind_eq_bind, pure_def,
      map_some]
  simp only [ChannelEvent.said, seen, object, if_pos presenceAction, same, fieldOr, presence, change,
    getD_some, toJson, listing]
  rw [presenceAction]

theorem takes_one :
    TakesOne (readFrame finite numeral) ChannelEvent.said numeral fun event => fits finite event.value = true where
  alone event server small := by
    obtain ⟨got, parsed, same⟩ := parse_server_event server small
    exact ⟨got, by rw [readFrame, parsed], same⟩
  large event _ big got := by
    simp only [readFrame, parseChannelEvent, from_str_marshal, if_neg big]
    intro same
    cases same
  joined event next others got := by
    simp only [readFrame, parseChannelEvent, from_str_joined]
    intro same
    cases same

end

end PondSocket.Rust.Client
