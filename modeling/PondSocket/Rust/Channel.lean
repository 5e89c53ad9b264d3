import PondSocket.Rust.Event

namespace PondSocket.Rust

open Library
open Js (Json UserId NodeId)
open Go (asMap)

structure PondError where
  channelName : String
  code : Nat
  message : String
deriving DecidableEq

def badRequest (channelName message : String) : PondError := ⟨channelName, 400, message⟩

def notFound (channelName message : String) : PondError := ⟨channelName, 404, message⟩

def conflict (channelName message : String) : PondError := ⟨channelName, 409, message⟩

def internal (channelName message : String) : PondError := ⟨channelName, 500, message⟩

-- An Arc<dyn Transport>: serial tells apart the transports that give one id.
structure Transport where
  id : UserId
  serial : Nat
deriving DecidableEq

structure DispatchItem where
  event : Event
  recipients : List UserId

-- The LeaveContext of a user that was removed.
structure Departure where
  userId : UserId
  assigns : Table
  presence : Option Table
  reason : String

structure Publication where
  event : Event
  subtype : String

-- distributed says that there is a pubsub and the endpoint has a path. The last
-- four are logs: what went into the dispatch queue, what send_direct was to send,
-- what was published and whom the leave handler was called for.
structure Channel where
  name : String
  endpointPath : String
  nodeId : NodeId
  distributed : Bool
  active : Bool
  connections : OrderedMap UserId Transport
  assigns : OrderedMap UserId Table
  presence : OrderedMap UserId Table
  nodeUsers : OrderedMap NodeId (OrderedSet UserId)
  nodeLastSeen : OrderedMap NodeId Nat
  dispatched : List DispatchItem
  direct : List (Transport × Event)
  published : List Publication
  departures : List Departure

inductive PresenceEventType where
  | join
  | leave
  | update
deriving DecidableEq

def PresenceEventType.text : PresenceEventType → String
  | .join => "JOIN"
  | .leave => "LEAVE"
  | .update => "UPDATE"

def PresenceEventType.subtype : PresenceEventType → String
  | .join => "presence:join"
  | .leave => "presence:leave"
  | .update => "presence:update"

-- What the run time settles in a call: the clock, the uuid that is drawn and
-- whether the dispatch queue takes an item before the timeout.
structure Moment where
  now : Nat
  uuid : String
  room : Bool
deriving DecidableEq

namespace Channel

def new (name endpointPath : String) (nodeId : NodeId) (pubsub : Bool) : Channel where
  name := name
  endpointPath := endpointPath
  nodeId := nodeId
  distributed := pubsub && decide (endpointPath ≠ "")
  active := false
  connections := .empty
  assigns := .empty
  presence := .empty
  nodeUsers := .empty
  nodeLastSeen := .empty
  dispatched := []
  direct := []
  published := []
  departures := []

def cleanEndpoint (channel : Channel) : String := String.ofList (channel.endpointPath.toList.dropWhile (· = '/'))

def wire (channel : Channel) (stamp : Stamp) (publication : Publication) : Json :=
  publication.event.toBytes stamp publication.subtype channel.cleanEndpoint

def hasUser (channel : Channel) (userId : UserId) : Bool := channel.connections.has userId

def userCount (channel : Channel) : Nat := channel.connections.size

def publishEventToPubsub (channel : Channel) (event : Event) (subtype : String) : Channel :=
  if channel.distributed then { channel with published := channel.published ++ [⟨event, subtype⟩] } else channel

def own (channel : Channel) (action requestId event : String) (payload : Json) : Event :=
  { Event.new action channel.name requestId event payload with nodeId := channel.nodeId }

def assignUpdate (channel : Channel) (uuid : String) (userId : UserId) (key : String) (value : Json) (assigns : Table) :
    Event :=
  channel.own "ASSIGNS" uuid "assigns:update"
    (.object [("userId", .string userId), ("key", .string key), ("value", value), ("assigns", tableJson assigns)])

def userCommand (channel : Channel) (uuid command : String) (userId : UserId) (reason : String) : Event :=
  channel.own "USER_COMMAND" uuid command (.object [("userId", .string userId), ("reason", .string reason)])

def userJoined (channel : Channel) (uuid : String) (userId : UserId) (assigns : Table) : Event :=
  channel.own "USER_JOINED" uuid "user:joined"
    (.object [("userId", .string userId), ("presence", .object []), ("assigns", tableJson assigns)])

def userLeft (channel : Channel) (uuid : String) (userId : UserId) : Event :=
  channel.own "USER_LEFT" uuid "user:left" (.object [("userId", .string userId)])

def stateRequest (channel : Channel) (uuid : String) : Event :=
  channel.own "STATE_REQUEST" uuid "state:request" (.object [("fromNode", .string channel.nodeId)])

def stateResponse (channel : Channel) (uuid : String) (users : List Json) : Event :=
  channel.own "STATE_RESPONSE" uuid "state:response" (.object [("users", .array users)])

def userGetRequest (channel : Channel) (uuid : String) (userId : UserId) : Event :=
  channel.own "USER_COMMAND" uuid "user:get_request"
    (.object [("userId", .string userId), ("requestId", .string uuid), ("fromNode", .string channel.nodeId)])

def userGetResponse (channel : Channel) (userId : UserId) (requestId : String) (assigns presence : Table) : Event :=
  channel.own "USER_COMMAND" requestId "user:get_response"
    (.object [("userId", .string userId), ("requestId", .string requestId), ("assigns", tableJson assigns),
      ("presence", tableJson presence)])

def requestUser (channel : Channel) (moment : Moment) (userId : UserId) : Channel :=
  channel.publishEventToPubsub (channel.userGetRequest moment.uuid userId) "user:get_request"

def enqueueDispatch (channel : Channel) (room : Bool) (item : DispatchItem) : Channel × Option PondError :=
  if room then ({ channel with dispatched := channel.dispatched ++ [item] }, none)
  else (channel, some (internal channel.name "channel dispatch queue timed out"))

def dispatchLocalBestEffort (channel : Channel) (room : Bool) (event : Event) (recipients : List UserId) : Channel :=
  if recipients.isEmpty then channel else (channel.enqueueDispatch room ⟨event, recipients⟩).1

def localPresenceSnapshot (channel : Channel) : List Json × List UserId :=
  (channel.presence.values.map tableJson, channel.presence.keys)

def orInsertUserId (changed : Table) (userId : UserId) : Table :=
  if changed.has "userId" then changed else changed.set "userId" (.string userId)

def presenceChange (channel : Channel) (uuid : String) (userId : UserId) (eventType : PresenceEventType)
    (changed : Table) : Event :=
  channel.own "PRESENCE" uuid eventType.text
    (.object [("presence", .array channel.localPresenceSnapshot.1),
      ("changed", tableJson (orInsertUserId changed userId))])

def publishPresenceChange (channel : Channel) (moment : Moment) (userId : UserId) (eventType : PresenceEventType)
    (changed : Table) : Channel :=
  let event := channel.presenceChange moment.uuid userId eventType changed
  (channel.dispatchLocalBestEffort moment.room event channel.localPresenceSnapshot.2).publishEventToPubsub event
    eventType.subtype

def sendDirect (channel : Channel) (userIds : List UserId) (event : Event) : Channel :=
  { channel with
    direct := channel.direct ++ (userIds.filterMap channel.connections.get?).map fun transport => (transport, event) }

def sendSystem (channel : Channel) (event : String) (payload : Json) (requestId : String) (userIds : List UserId) :
    Channel :=
  channel.sendDirect userIds (Event.new "SYSTEM" channel.name requestId event payload)

def sendAcknowledge (channel : Channel) (requestId : String) (userId : UserId) : Channel :=
  channel.sendSystem "ACKNOWLEDGE" (.object []) requestId [userId]

def sendUnauthorized (channel : Channel) (requestId : String) (userId : UserId) (code : Nat) (message : String) :
    Channel :=
  channel.sendSystem "UNAUTHORIZED" (.object [("code", .number code), ("message", .string message)]) requestId [userId]

def addUser (channel : Channel) (moment : Moment) (transport : Transport) (assigns : Table) :
    Channel × Option PondError :=
  if channel.active = false then (channel, some (internal channel.name "channel is not active"))
  else if channel.connections.has transport.id then
    (channel, some (conflict channel.name "user already exists in channel"))
  else
    let channel := { channel with
      connections := channel.connections.set transport.id transport
      assigns := channel.assigns.set transport.id assigns }
    (channel.publishEventToPubsub (channel.userJoined moment.uuid transport.id assigns) "user:joined", none)

-- Up to the call of remove_channel_if_idle at its end.
def removeUser (channel : Channel) (moment : Moment) (userId : UserId) (reason : String) : Channel :=
  if channel.connections.has userId = false then channel
  else
    let assigns := (channel.assigns.get? userId).getD .empty
    let presence := channel.presence.get? userId
    let channel := { channel with
      connections := channel.connections.delete userId
      assigns := channel.assigns.delete userId
      presence := channel.presence.delete userId }
    let channel := match presence with
      | none => channel
      | some old => channel.publishPresenceChange moment userId .leave old
    let channel := channel.publishEventToPubsub (channel.userLeft moment.uuid userId) "user:left"
    { channel with departures := channel.departures ++ [⟨userId, assigns, presence, reason⟩] }

def updateAssign (channel : Channel) (moment : Moment) (userId : UserId) (key : String) (value : Json) :
    Channel × Option PondError :=
  let updated := ((channel.assigns.get? userId).getD .empty).set key value
  if channel.connections.has userId = false then
    (channel.publishEventToPubsub (channel.assignUpdate moment.uuid userId key value updated) "assigns:update",
      some (notFound channel.name "user not in channel"))
  else
    let channel := { channel with assigns := channel.assigns.set userId updated }
    (channel.publishEventToPubsub (channel.assignUpdate moment.uuid userId key value updated) "assigns:update", none)

def trackPresence (channel : Channel) (moment : Moment) (userId : UserId) (presence : Json) :
    Channel × Option PondError :=
  match asMap presence with
  | none => (channel, some (internal channel.name "presence must be an object"))
  | some presence =>
    if channel.presence.has userId then (channel, some (conflict channel.name "already tracking presence"))
    else
      let channel := { channel with presence := channel.presence.set userId presence }
      (channel.publishPresenceChange moment userId .join presence, none)

def updatePresence (channel : Channel) (moment : Moment) (userId : UserId) (presence : Json) :
    Channel × Option PondError :=
  match asMap presence with
  | none => (channel, some (internal channel.name "presence must be an object"))
  | some presence =>
    if channel.presence.has userId = false then (channel, some (notFound channel.name "not tracking presence"))
    else
      let channel := { channel with presence := channel.presence.set userId presence }
      (channel.publishPresenceChange moment userId .update presence, none)

def untrackPresence (channel : Channel) (moment : Moment) (userId : UserId) : Channel :=
  match channel.presence.get? userId with
  | none => channel
  | some old =>
    let channel := { channel with presence := channel.presence.delete userId }
    channel.publishPresenceChange moment userId .leave old

-- send_event with ServerAction::Broadcast, which is what its three callers pass.
def sendEvent (channel : Channel) (moment : Moment) (event : String) (payload : Json) (recipients : List UserId)
    (pubsubRecipients : Option (List UserId)) (recipientDescriptor : Option String) (sender : Option UserId) :
    Channel × Option PondError :=
  if recipients.isEmpty then (channel, none)
  else
    let event := { channel.own "BROADCAST" moment.uuid event payload with
      recipients := pubsubRecipients.getD []
      recipientDescriptor := recipientDescriptor.getD ""
      fromUserId := sender.getD "" }
    match channel.enqueueDispatch moment.room ⟨event, recipients⟩ with
    | (channel, some error) => (channel, some error)
    | (channel, none) => (channel.publishEventToPubsub event "message", none)

def broadcast (channel : Channel) (moment : Moment) (event : String) (payload : Json) : Channel × Option PondError :=
  channel.sendEvent moment event payload channel.connections.keys none none none

def broadcastTo (channel : Channel) (moment : Moment) (event : String) (payload : Json) (userIds : List UserId) :
    Channel × Option PondError :=
  channel.sendEvent moment event payload userIds (some userIds) none none

def broadcastFrom (channel : Channel) (moment : Moment) (event : String) (payload : Json) (senderId : UserId) :
    Channel × Option PondError :=
  channel.sendEvent moment event payload (channel.connections.keys.filter fun id => decide (id ≠ senderId)) none
    (some "ALL_EXCEPT_SENDER") (some senderId)

def evicted (channel : Channel) (uuid reason : String) : Event :=
  Event.new "SYSTEM" channel.name uuid "EVICTED" (.object [("reason", .string reason)])

def evictUser (channel : Channel) (moment : Moment) (userId : UserId) (reason : String) : Channel :=
  if channel.hasUser userId = false then
    channel.publishEventToPubsub (channel.userCommand moment.uuid "user:evict" userId reason) "user:evict"
  else
    (channel.sendDirect [userId] (channel.evicted moment.uuid reason)).removeUser moment userId "evicted"

end Channel

end PondSocket.Rust
