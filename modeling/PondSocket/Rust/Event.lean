import PondSocket.Go.Protocol

namespace PondSocket.Rust

open Library
open Js (Json UserId NodeId)
open Go (MsgType asString asMap asSlice)

-- serde_json's Map, of which only the lookups matter.
abbrev Table := OrderedMap String Json

def get (value : Json) (key : String) : Option Json :=
  match value with
  | .object fields => OrderedMap.findEntry key fields
  | _ => none

def getStr (value : Json) (key : String) : Option String := (get value key).bind asString

def getOr (value : Json) (key : String) (default : Json) : Json := (get value key).getD default

def tableJson (table : Table) : Json := .object table.entries

structure Event where
  action : String
  channelName : String
  requestId : String
  event : String
  payload : Json
  nodeId : NodeId
  recipients : List UserId
  fromUserId : UserId
  recipientDescriptor : String

def Event.new (action channelName requestId event : String) (payload : Json) : Event :=
  ⟨action, channelName, requestId, event, payload, "", [], "", ""⟩

structure Stamp where
  messageId : String
  timestamp : Nat

def messageType (event : Event) (subtype : String) : MsgType :=
  if event.action = "BROADCAST" then .userMessage
  else if event.action = "PRESENCE" then
    if "remove".toList.isSuffixOf subtype.toList ∨ event.event = "LEAVE" then .presenceRemoved else .presenceUpdate
  else if event.action = "ASSIGNS" then .assignsUpdate
  else if event.action = "USER_COMMAND" then
    if event.event = "user:remove" then .userRemove
    else if event.event = "user:get_request" then .userGetRequest
    else if event.event = "user:get_response" then .userGetResponse
    else .evictUser
  else if event.action = "STATE_REQUEST" then .stateRequest
  else if event.action = "STATE_RESPONSE" then .stateResponse
  else if event.action = "USER_JOINED" then .userJoined
  else if event.action = "USER_LEFT" then .userLeft
  else if event.action = "HEARTBEAT" then .nodeHeartbeat
  else .userMessage

namespace Event

def descriptor (event : Event) : Json :=
  if event.recipientDescriptor = "ALL_EXCEPT_SENDER" then .string "ALL_EXCEPT_SENDER"
  else if ¬ event.recipients.isEmpty then .array (event.recipients.map .string)
  else .string "ALL_USERS"

def changed (event : Event) : Json := getOr event.payload "changed" (.object [])

def field (event : Event) (key : String) (default : Json) : String × Json := (key, getOr event.payload key default)

def bodyEntries (event : Event) : MsgType → List (String × Json)
  | .userMessage =>
    [("fromUserId", .string (if event.fromUserId = "" then "CHANNEL" else event.fromUserId)),
      ("event", .string event.event), ("payload", event.payload), ("requestId", .string event.requestId),
      ("recipientDescriptor", event.descriptor)]
  | .presenceUpdate =>
    [("userId", .string ((getStr event.changed "userId").getD "")), ("presence", event.changed)]
  | .presenceRemoved =>
    [("userId", .string (((get event.payload "changed").bind fun changed => getStr changed "userId").getD ""))]
  | .assignsUpdate => [event.field "userId" (.string ""), event.field "assigns" (.object [])]
  | .evictUser => [event.field "userId" (.string ""), event.field "reason" (.string "")]
  | .userRemove => [event.field "userId" (.string "")]
  | .userGetRequest =>
    [event.field "userId" (.string ""), ("requestId", .string event.requestId),
      event.field "fromNode" (.string event.nodeId)]
  | .userGetResponse =>
    [event.field "userId" (.string ""), ("requestId", .string event.requestId), event.field "assigns" (.object []),
      event.field "presence" (.object [])]
  | .userJoined =>
    [event.field "userId" (.string ""), event.field "presence" (.object []), event.field "assigns" (.object [])]
  | .userLeft => [event.field "userId" (.string "")]
  | .stateRequest => [event.field "fromNode" (.string event.nodeId)]
  | .stateResponse => [event.field "users" (.array [])]
  | .nodeHeartbeat => [("nodeId", .string event.nodeId)]

def headEntries (event : Event) (stamp : Stamp) (kind : MsgType) (endpoint : String) : List (String × Json) :=
  [("protocol", .string "pondsocket.distributed"), ("version", .number 1), ("type", .string kind.text),
    ("messageId", .string stamp.messageId), ("sourceNodeId", .string event.nodeId), ("endpointName", .string endpoint),
    ("channelName", .string event.channelName), ("timestamp", .number stamp.timestamp)]

def toBytes (event : Event) (stamp : Stamp) (subtype endpoint : String) : Json :=
  .object (event.headEntries stamp (messageType event subtype) endpoint ++ event.bodyEntries (messageType event subtype))

end Event

def asI64 : Json → Option Int
  | .number value => if value.den = 1 ∧ -2 ^ 63 ≤ value.num ∧ value.num < 2 ^ 63 then some value.num else none
  | _ => none

-- entry("userId").or_insert on the object that changed is, if it is one.
def withUserId (changed userId : Json) : Json :=
  match changed with
  | .object fields =>
    if (OrderedMap.findEntry "userId" fields).isSome then changed else .object (fields ++ [("userId", userId)])
  | _ => changed

-- The event for each type of message; uuid is the id it gets if it has none.
def eventOf (data : Json) (channelName requestId : String) (nodeId : NodeId) : MsgType → Option Event
  | .userMessage => do
      let event ← getStr data "event"
      return {
        action := "BROADCAST"
        channelName := channelName
        requestId := requestId
        event := event
        payload := getOr data "payload" (.object [])
        nodeId := nodeId
        recipients := (((get data "recipientDescriptor").bind asSlice).map (List.filterMap asString)).getD []
        fromUserId := (getStr data "fromUserId").getD "CHANNEL"
        recipientDescriptor := (getStr data "recipientDescriptor").getD "" }
  | .presenceUpdate =>
    some { Event.new "PRESENCE" channelName requestId "UPDATE"
      (.object [("presence", .array []),
        ("changed", withUserId (getOr data "presence" (.object [])) (getOr data "userId" (.string "")))]) with
      nodeId := nodeId }
  | .presenceRemoved =>
    some { Event.new "PRESENCE" channelName requestId "LEAVE"
      (.object [("presence", .array []), ("changed", .object [("userId", getOr data "userId" (.string ""))])]) with
      nodeId := nodeId }
  | .assignsUpdate =>
    some { Event.new "ASSIGNS" channelName requestId "assigns:update"
      (.object [("userId", getOr data "userId" (.string "")), ("key", getOr data "key" .null),
        ("value", getOr data "value" .null), ("assigns", getOr data "assigns" (.object []))]) with
      nodeId := nodeId }
  | .evictUser =>
    some { Event.new "USER_COMMAND" channelName requestId "user:evict"
      (.object [("userId", getOr data "userId" (.string "")), ("reason", getOr data "reason" (.string ""))]) with
      nodeId := nodeId }
  | .userRemove =>
    some { Event.new "USER_COMMAND" channelName requestId "user:remove"
      (.object [("userId", getOr data "userId" (.string ""))]) with
      nodeId := nodeId }
  | .userGetRequest =>
    some { Event.new "USER_COMMAND" channelName requestId "user:get_request"
      (.object [("userId", getOr data "userId" (.string "")), ("requestId", .string requestId),
        ("fromNode", getOr data "fromNode" (.string ""))]) with
      nodeId := nodeId }
  | .userGetResponse =>
    some { Event.new "USER_COMMAND" channelName requestId "user:get_response"
      (.object [("userId", getOr data "userId" (.string "")), ("requestId", .string requestId),
        ("assigns", getOr data "assigns" (.object [])), ("presence", getOr data "presence" (.object []))]) with
      nodeId := nodeId }
  | .userJoined =>
    some { Event.new "USER_JOINED" channelName requestId "user:joined"
      (.object [("userId", getOr data "userId" (.string "")), ("presence", getOr data "presence" (.object [])),
        ("assigns", getOr data "assigns" (.object []))]) with
      nodeId := nodeId }
  | .userLeft =>
    some { Event.new "USER_LEFT" channelName requestId "user:left"
      (.object [("userId", getOr data "userId" (.string ""))]) with
      nodeId := nodeId }
  | .stateRequest =>
    some { Event.new "STATE_REQUEST" channelName requestId "state:request"
      (.object [("fromNode", getOr data "fromNode" (.string ""))]) with
      nodeId := nodeId }
  | .stateResponse =>
    some { Event.new "STATE_RESPONSE" channelName requestId "state:response"
      (.object [("users", getOr data "users" (.array []))]) with
      nodeId := nodeId }
  | .nodeHeartbeat =>
    some { Event.new "HEARTBEAT" channelName requestId "heartbeat"
      (.object [("nodeId", getOr data "nodeId" (.string ""))]) with
      nodeId := nodeId }

def fromBytes (uuid : String) (data : Json) : Option Event := do
  let protocol ← getStr data "protocol"
  if protocol ≠ "pondsocket.distributed" then none
  else
    let version ← (get data "version").bind asI64
    if version ≠ 1 then none
    else
      let type ← getStr data "type"
      let channelName ← getStr data "channelName"
      let nodeId ← getStr data "sourceNodeId"
      let kind ← MsgType.ofText type
      eventOf data channelName ((getStr data "requestId").getD uuid) nodeId kind

@[simp] theorem get_object (fields : List (String × Json)) (key : String) :
    get (.object fields) key = OrderedMap.findEntry key fields := rfl

@[simp] theorem as_map_table {table : Table} : asMap (tableJson table) = some table :=
  congrArg some table.of_list_entries

end PondSocket.Rust
