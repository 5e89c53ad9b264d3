import PondSocket.Go.Protocol

namespace PondSocket.Python

open Library
open Js (Json UserId NodeId)
open Go (MsgType index asString asMap asSlice)

abbrev Dict := OrderedMap String Json

def dictJson (dict : Dict) : Json := .object dict.entries

def truthy : Json → Bool
  | .null => false
  | .bool value => value
  | .number value => decide (value ≠ 0)
  | .string text => decide (text ≠ "")
  | .array items => !items.isEmpty
  | .object fields => !fields.isEmpty

def orElse (value other : Json) : Json := if truthy value then value else other

def getOr (value : Json) (key : String) (default : Json) : Json :=
  match value with
  | .object fields => (OrderedMap.findEntry key fields).getD default
  | _ => default

def entryOf (value : Json) (key : String) : List (String × Json) :=
  match value with
  | .object fields =>
    match OrderedMap.findEntry key fields with
    | some found => [(key, found)]
    | none => []
  | _ => []

def asDict (value : Json) : Dict := (asMap value).getD .empty

structure Event where
  action : String
  channelName : String
  requestId : String
  event : String
  payload : Json
  nodeId : NodeId
  recipients : List UserId
  recipientDescriptor : Json
  fromUserId : UserId
  userId : UserId

def Event.plain (action channelName requestId event : String) (payload : Json) (nodeId : NodeId) : Event :=
  ⟨action, channelName, requestId, event, payload, nodeId, [], .string "ALL_USERS", "CHANNEL", ""⟩

def Event.checked (event : Event) : Option Event :=
  if event.action = "" ∨ event.channelName = "" ∨ event.requestId = "" ∨ event.event = "" then none else some event

theorem Event.checked_some {event other : Event} (passed : event.checked = some other) : other = event := by
  simp only [checked, Option.ite_none_left_eq_some, Option.some.injEq] at passed
  exact passed.2.symm

theorem Event.checked_complete (event : Event) (action : event.action ≠ "") (channelName : event.channelName ≠ "")
    (requestId : event.requestId ≠ "") (name : event.event ≠ "") : event.checked = some event := by
  simp [checked, action, channelName, requestId, name]

structure Stamp where
  messageId : String
  timestamp : Nat

def headEntries (stamp : Stamp) (kind : MsgType) (nodeId : NodeId) (endpoint channel : String) : List (String × Json) :=
  [("protocol", .string "pondsocket.distributed"), ("version", .number 1), ("type", .string kind.text),
    ("messageId", .string stamp.messageId), ("sourceNodeId", .string nodeId), ("endpointName", .string endpoint),
    ("channelName", .string channel), ("timestamp", .number stamp.timestamp)]

-- distributed_bytes, up to the text of the value.
def distributedBytes (stamp : Stamp) (kind : MsgType) (nodeId : NodeId) (endpoint channel : String)
    (extra : List (String × Json)) : Json :=
  .object (headEntries stamp kind nodeId endpoint channel ++ extra)

def messageType (event : Event) (subtype : String) : MsgType :=
  if event.action = "BROADCAST" then .userMessage
  else if event.action = "PRESENCE" then
    if "remove".toList.isSuffixOf subtype.toList ∨ event.event = "LEAVE" then .presenceRemoved else .presenceUpdate
  else if event.action = "ASSIGNS" then .assignsUpdate
  else if event.action = "USER_COMMAND" then
    if event.event = "user:remove" then .userRemove else .evictUser
  else .userMessage

section

-- str of a value that json.loads gives.
variable (str : Json → String)

def textOr (value : Json) (default : String) : String := if truthy value then str value else default

namespace Event

def changed (event : Event) : Json := getOr event.payload "changed" (.object [])

def presenceUser (event : Event) : String :=
  if event.userId ≠ "" then event.userId
  else textOr str (orElse (index event.changed "userId") (index event.changed "id")) ""

def bodyEntries (event : Event) : MsgType → List (String × Json)
  | .userMessage =>
    [("fromUserId", .string event.fromUserId), ("event", .string event.event),
      ("payload", match event.payload with | .null => .object [] | payload => payload),
      ("requestId", .string event.requestId), ("recipientDescriptor", event.recipientDescriptor)]
  | .presenceUpdate =>
    [("userId", .string (event.presenceUser str)), ("presence", dictJson (asDict event.changed))]
  | .presenceRemoved => [("userId", .string (event.presenceUser str))]
  | .assignsUpdate =>
    [("userId", getOr event.payload "userId" (.string "")), ("assigns", getOr event.payload "assigns" (.object []))]
  | .evictUser =>
    [("userId", getOr event.payload "userId" (.string "")), ("reason", getOr event.payload "reason" (.string ""))]
  | .userRemove => [("userId", getOr event.payload "userId" (.string ""))]
  | _ => []

def toBytes (event : Event) (stamp : Stamp) (subtype endpoint : String) : Json :=
  distributedBytes stamp (messageType event subtype) event.nodeId endpoint event.channelName
    (event.bodyEntries str (messageType event subtype))

end Event

-- parse_envelope; in Python True equals 1.
def parseEnvelope (data : Json) : Option Json :=
  match index data "protocol", index data "version", index data "type", index data "sourceNodeId" with
  | .string protocol, .number version, .string _, .string _ =>
    if protocol = "pondsocket.distributed" ∧ version = 1 then some data else none
  | .string protocol, .bool true, .string _, .string _ =>
    if protocol = "pondsocket.distributed" then some data else none
  | _, _, _, _ => none

def listed : Json → List UserId
  | .array items => items.map str
  | _ => []

def decodedDescriptor (raw : Json) : Json :=
  match orElse (index raw "recipientDescriptor") (.string "ALL_USERS") with
  | .array items => .array ((items.map str).map .string)
  | descriptor => descriptor

def payloadOr (raw other : Json) : Json :=
  match index raw "payload" with
  | .object (entry :: rest) => .object (entry :: rest)
  | _ => other

def eventOf (raw : Json) (channelName requestId : String) (nodeId : NodeId) : MsgType → Option Event
  | .userMessage =>
    some { Event.plain "BROADCAST" channelName requestId (textOr str (index raw "event") "")
      (match index raw "payload" with | .null => .object [] | payload => payload) nodeId with
      recipients := listed str (orElse (index raw "recipientDescriptor") (.string "ALL_USERS"))
      recipientDescriptor := decodedDescriptor str raw
      fromUserId := textOr str (index raw "fromUserId") "CHANNEL" }
  | .presenceUpdate =>
    some { Event.plain "PRESENCE" channelName requestId (textOr str (index raw "event") "UPDATE")
      (payloadOr raw (.object [("presence", .array []), ("changed", orElse (index raw "presence") (.object []))])) nodeId with
      userId := textOr str (index raw "userId") "" }
  | .presenceRemoved =>
    some { Event.plain "PRESENCE" channelName requestId "LEAVE"
      (payloadOr raw (.object [("presence", .array []),
        ("changed", .object [("userId", orElse (index raw "userId") (.string ""))])])) nodeId with
      userId := textOr str (index raw "userId") "" }
  | .assignsUpdate =>
    some (Event.plain "ASSIGNS" channelName requestId "assigns:update"
      (payloadOr raw (.object ([("userId", orElse (index raw "userId") (.string "")),
        ("assigns", orElse (index raw "assigns") (.object []))] ++ entryOf raw "key" ++ entryOf raw "value"))) nodeId)
  | .evictUser =>
    some (Event.plain "USER_COMMAND" channelName requestId "user:evict"
      (.object [("userId", orElse (index raw "userId") (.string "")),
        ("reason", orElse (index raw "reason") (.string ""))]) nodeId)
  | .userRemove =>
    some (Event.plain "USER_COMMAND" channelName requestId "user:remove"
      (.object [("userId", orElse (index raw "userId") (.string "")),
        ("reason", orElse (index raw "reason") (.string ""))]) nodeId)
  | _ => none

-- uuid is the id an event gets that brings none.
def eventFromEnvelope (uuid : String) (raw : Json) : Option Event := do
  let type ← asString (index raw "type")
  let channelName ← asString (index raw "channelName")
  let nodeId ← asString (index raw "sourceNodeId")
  let kind ← MsgType.ofText type
  let event ← eventOf str raw channelName (textOr str (index raw "requestId") uuid) nodeId kind
  event.checked

end

end PondSocket.Python
