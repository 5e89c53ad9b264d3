import PondSocket.Python.Channel

namespace PondSocket.Python

open Library
open Js (Json UserId NodeId)
open Go (MsgType index asString asMap asSlice)

namespace Channel

def trackNodeUser (channel : Channel) (nodeId : NodeId) (userId : UserId) : Channel :=
  if nodeId = "" then channel
  else
    { channel with
      nodeUsers := channel.nodeUsers.set nodeId (((channel.nodeUsers.get? nodeId).getD .empty).add userId) }

def untrackNodeUser (channel : Channel) (nodeId : NodeId) (userId : UserId) : Channel :=
  if nodeId = "" then channel
  else
    match channel.nodeUsers.get? nodeId with
    | none => channel
    | some users =>
      let users := users.delete userId
      { channel with
        nodeUsers := if users.isEmpty then channel.nodeUsers.delete nodeId
          else channel.nodeUsers.set nodeId users }

def mergedPresence (changed : Dict) : Dict :=
  let presence := (changed.delete "userId").delete "id"
  if presence.isEmpty then changed else presence

def withSnapshot (channel : Channel) (payload : Json) : Json :=
  match payload with
  | .object fields =>
    dictJson ((OrderedMap.ofList fields).set "presence" (.array (channel.presence.values.map dictJson)))
  | payload => payload

section

variable (str : Json → String)

def resolveDistributedRecipients (channel : Channel) (event : Event) : List UserId :=
  match event.recipientDescriptor with
  | .array items => channel.connections.keys.filter fun userId => (items.map str).contains userId
  | .string "ALL_EXCEPT_SENDER" => channel.connections.keys.filter fun userId => decide (userId ≠ event.fromUserId)
  | _ => channel.connections.keys

def changedUser (event : Event) (changed : Dict) : UserId :=
  if event.userId ≠ "" then event.userId
  else textOr str (orElse (index (dictJson changed) "userId") (index (dictJson changed) "id")) ""

def mergeRemotePresence (channel : Channel) (event : Event) : Channel × Event :=
  match asMap (index event.payload "changed") with
  | none => (channel, event)
  | some changed =>
    let userId := changedUser str event changed
    if userId = "" then (channel, event)
    else if event.event = "LEAVE" then
      let channel := { channel with presence := channel.presence.delete userId }
      (channel, { event with payload := channel.withSnapshot event.payload })
    else
      let existed := channel.presence.has userId
      let channel := { channel with presence := channel.presence.set userId (mergedPresence changed) }
      (channel, { event with
        event := if existed then "UPDATE" else "JOIN"
        payload := channel.withSnapshot event.payload })

def mergedAssigns (assigns : Dict) (payload : Json) : Dict :=
  match index payload "key" with
  | .string key => assigns.set key (index payload "value")
  | _ => (asMap (index payload "assigns")).getD assigns

def handleRemoteAssigns (channel : Channel) (event : Event) : Channel :=
  let userId := textOr str (index event.payload "userId") ""
  if userId = "" then channel
  else
    match channel.assigns.get? userId with
    | none => channel
    | some assigns => { channel with assigns := channel.assigns.set userId (mergedAssigns assigns event.payload) }

def handleRemoteUserCommand (channel : Channel) (moment : Moment) (event : Event) : Channel :=
  let userId := textOr str (index event.payload "userId") ""
  let reason := textOr str (index event.payload "reason") "remote command"
  if userId = "" ∨ channel.connections.has userId = false then channel
  else if event.event = "user:evict" then
    match (channel.evicted moment.uuid reason).checked with
    | none => channel
    | some evicted => ((channel.sendDirect [userId] evicted).removeUser moment userId reason false).1
  else (channel.removeUser moment userId reason false).1

def dispatchEvent (channel : Channel) (moment : Moment) (event : Event) : Channel :=
  if event.action = "BROADCAST" then
    channel.dispatchTo moment.room event (channel.resolveDistributedRecipients str event)
  else if event.action = "PRESENCE" then
    let merged := channel.mergeRemotePresence str event
    merged.1.dispatchTo moment.room merged.2 merged.1.presence.keys
  else if event.action = "ASSIGNS" then channel.handleRemoteAssigns str event
  else if event.action = "USER_COMMAND" then channel.handleRemoteUserCommand str moment event
  else channel

def stateUsers (channel : Channel) : List Json :=
  channel.connections.keys.map fun userId =>
    .object [("id", .string userId), ("assigns", dictJson ((channel.assigns.get? userId).getD .empty)),
      ("presence", dictJson ((channel.presence.get? userId).getD .empty))]

def handleStateRequest (channel : Channel) : Channel :=
  if channel.connections.isEmpty then channel
  else channel.publishDistributed .stateResponse [("users", .array channel.stateUsers)]

def adoptUser (channel : Channel) (nodeId : NodeId) (userId : UserId) (user : Json) : Channel :=
  let channel := { channel with assigns := channel.assigns.set userId (asDict (index user "assigns")) }
  let channel := channel.trackNodeUser nodeId userId
  match asMap (index user "presence") with
  | none => channel
  | some presence =>
    if presence.isEmpty then channel else { channel with presence := channel.presence.set userId presence }

def handleStateResponseUser (nodeId : NodeId) (channel : Channel) (user : Json) : Channel :=
  let userId := textOr str (index user "id") ""
  if userId = "" ∨ channel.connections.has userId = true then channel else channel.adoptUser nodeId userId user

def handleStateResponse (channel : Channel) (nodeId : NodeId) (raw : Json) : Channel :=
  match asSlice (index raw "users") with
  | none => channel
  | some users => users.foldl (handleStateResponseUser str nodeId) channel

def handleRemoteUserJoined (channel : Channel) (nodeId : NodeId) (raw : Json) : Channel :=
  let userId := textOr str (index raw "userId") ""
  if userId = "" ∨ channel.connections.has userId = true then channel else channel.adoptUser nodeId userId raw

def handleRemoteUserLeft (channel : Channel) (nodeId : NodeId) (raw : Json) : Channel :=
  let userId := textOr str (index raw "userId") ""
  if userId = "" ∨ channel.connections.has userId = true then channel
  else
    { channel with
      assigns := channel.assigns.delete userId
      presence := channel.presence.delete userId }.untrackNodeUser nodeId userId

def handleUserGetRequest (channel : Channel) (raw : Json) : Channel :=
  let userId := textOr str (index raw "userId") ""
  let requestId := textOr str (index raw "requestId") ""
  if userId = "" ∨ requestId = "" ∨ channel.connections.has userId = false then channel
  else
    channel.publishDistributed .userGetResponse
      [("userId", .string userId), ("requestId", .string requestId),
        ("assigns", dictJson ((channel.assigns.get? userId).getD .empty)),
        ("presence", dictJson ((channel.presence.get? userId).getD .empty))]

def handleMessage (channel : Channel) (moment : Moment) (nodeId : NodeId) (raw : Json) : MsgType → Channel
  | .stateRequest => channel.handleStateRequest
  | .stateResponse => channel.handleStateResponse str nodeId raw
  | .userJoined => channel.handleRemoteUserJoined str nodeId raw
  | .userLeft => channel.handleRemoteUserLeft str nodeId raw
  | .userGetRequest => channel.handleUserGetRequest str raw
  | .userGetResponse | .nodeHeartbeat => channel
  | .userMessage | .presenceUpdate | .presenceRemoved | .assignsUpdate | .evictUser | .userRemove =>
    match eventFromEnvelope str moment.uuid raw with
    | none => channel
    | some event => channel.dispatchEvent str moment event

def handlePubsubMessage (channel : Channel) (moment : Moment) (data : Json) : Channel :=
  match parseEnvelope data with
  | none => channel
  | some raw =>
    match asString (index raw "sourceNodeId"), asString (index raw "channelName"),
      (asString (index raw "type")).bind MsgType.ofText with
    | some nodeId, some channelName, some kind =>
      if nodeId = channel.nodeId ∨ channelName ≠ channel.name ∨ channel.active = false then channel
      else channel.handleMessage str moment nodeId raw kind
    | _, _, _ => channel

def received (receiver sender next : Channel) (moment : Moment) (stamp : Stamp) : Channel :=
  if receiver.distributed then
    (next.published.drop sender.published.length).foldl
      (fun receiver publication => receiver.handlePubsubMessage str moment (sender.wire str stamp publication)) receiver
  else receiver

end

end Channel

end PondSocket.Python
