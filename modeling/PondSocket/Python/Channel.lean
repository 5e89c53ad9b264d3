import PondSocket.Python.Event

namespace PondSocket.Python

open Library
open Js (Json UserId NodeId)
open Go (MsgType)

-- What a call raises: a PondError of the channel or the key it names, or the
-- ValueError of an event that lacks a field.
inductive Raised where
  | pondError (channelName : String) (code : Nat) (message : String)
  | valueError
deriving DecidableEq

def notFound (channelName message : String) : Raised := .pondError channelName 404 message

def conflict (channelName message : String) : Raised := .pondError channelName 409 message

def internal (channelName message : String) : Raised := .pondError channelName 500 message

-- serial tells apart the transports that give one id.
structure Transport where
  id : UserId
  serial : Nat
deriving DecidableEq

structure DispatchItem where
  event : Event
  recipientIds : List UserId

inductive Publication where
  | event (event : Event) (subtype : String)
  | distributed (kind : MsgType) (extra : List (String × Json))

-- distributed says that there is a pubsub and the endpoint has a path. The last
-- three are logs: what went into the dispatch queue, what _send_direct was to send
-- and what was published.
structure Channel where
  name : String
  endpointPath : String
  nodeId : NodeId
  distributed : Bool
  active : Bool
  connections : OrderedMap UserId Transport
  assigns : OrderedMap UserId Dict
  presence : OrderedMap UserId Dict
  nodeUsers : OrderedMap NodeId (OrderedSet UserId)
  dispatched : List DispatchItem
  direct : List (Transport × Event)
  published : List Publication

inductive PresenceEventTypes where
  | join
  | leave
  | update
deriving DecidableEq

def PresenceEventTypes.value : PresenceEventTypes → String
  | .join => "JOIN"
  | .leave => "LEAVE"
  | .update => "UPDATE"

def PresenceEventTypes.subtype : PresenceEventTypes → String
  | .join => "presence:join"
  | .leave => "presence:leave"
  | .update => "presence:update"

-- What the run time settles in a call: the uuid that is drawn and whether the
-- dispatch queue takes an item before the timeout.
structure Moment where
  uuid : String
  room : Bool
  drawn : uuid ≠ ""
deriving DecidableEq

namespace Channel

def new (name endpointPath : String) (nodeId : NodeId) (pubsub : Bool) : Channel where
  name := name
  endpointPath := endpointPath
  nodeId := nodeId
  distributed := pubsub && decide (endpointPath ≠ "")
  active := false
  connections := .empty
  assigns := .empty
  presence := .empty
  nodeUsers := .empty
  dispatched := []
  direct := []
  published := []

def cleanEndpoint (channel : Channel) : String :=
  match channel.endpointPath.toList with
  | '/' :: rest => String.ofList rest
  | _ => channel.endpointPath

def wire (str : Json → String) (channel : Channel) (stamp : Stamp) : Publication → Json
  | .event event subtype => event.toBytes str stamp subtype channel.cleanEndpoint
  | .distributed kind extra => distributedBytes stamp kind channel.nodeId channel.cleanEndpoint channel.name extra

def hasUser (channel : Channel) (userId : UserId) : Bool := channel.connections.has userId

def publish (channel : Channel) (publication : Publication) : Channel :=
  if channel.distributed then { channel with published := channel.published ++ [publication] } else channel

def publishEventToPubsub (channel : Channel) (event : Event) (subtype : String) : Channel :=
  channel.publish (.event event subtype)

def publishDistributed (channel : Channel) (kind : MsgType) (extra : List (String × Json)) : Channel :=
  channel.publish (.distributed kind extra)

def andThen (result : Channel × Option Raised) (rest : Channel → Channel × Option Raised) : Channel × Option Raised :=
  match result with
  | (channel, none) => rest channel
  | (channel, some raised) => (channel, some raised)

def own (channel : Channel) (action requestId event : String) (payload : Json) : Event :=
  Event.plain action channel.name requestId event payload channel.nodeId

def sendDirect (channel : Channel) (userIds : List UserId) (event : Event) : Channel :=
  { channel with
    direct := channel.direct ++ (userIds.filterMap channel.connections.get?).map fun transport => (transport, event) }

def enqueueDispatch (channel : Channel) (room : Bool) (event : Event) (recipientIds : List UserId) : Channel :=
  if channel.active = false then channel
  else if room then { channel with dispatched := channel.dispatched ++ [⟨event, recipientIds⟩] }
  else channel

def dispatchTo (channel : Channel) (room : Bool) (event : Event) (recipientIds : List UserId) : Channel :=
  if recipientIds.isEmpty then channel else channel.enqueueDispatch room event recipientIds

def stateRequest (channel : Channel) : Channel :=
  channel.publishDistributed .stateRequest [("fromNode", .string channel.nodeId)]

def start (channel : Channel) : Channel :=
  if channel.active then channel else { channel with active := true }.stateRequest

def close (channel : Channel) : Channel :=
  if channel.active then { channel with active := false, nodeUsers := .empty } else channel

def addUser (channel : Channel) (transport : Transport) (assigns : Dict) : Channel × Option Raised :=
  if channel.active = false then (channel, some (internal channel.name "Channel is not active"))
  else if channel.connections.has transport.id then (channel, some (conflict transport.id "Key already exists"))
  else
    let channel := { channel with
      connections := channel.connections.set transport.id transport
      assigns := channel.assigns.set transport.id assigns }
    (channel.publishDistributed .userJoined
      [("userId", .string transport.id), ("presence", .object []), ("assigns", dictJson assigns)], none)

def presenceChange (channel : Channel) (uuid : String) (eventType : PresenceEventTypes) (userId : UserId) (changed : Dict) :
    Event :=
  { channel.own "PRESENCE" uuid eventType.value
      (.object [("presence", .array (channel.presence.values.map dictJson)), ("changed", dictJson changed)]) with
    userId := userId }

def publishPresenceChange (channel : Channel) (moment : Moment) (eventType : PresenceEventTypes) (userId : UserId)
    (changed : Dict) : Channel × Option Raised :=
  match (channel.presenceChange moment.uuid eventType userId changed).checked with
  | none => (channel, some .valueError)
  | some event =>
    ((channel.dispatchTo moment.room event channel.presence.keys).publishEventToPubsub event eventType.subtype, none)

def trackPresence (channel : Channel) (moment : Moment) (userId : UserId) (data : Dict) : Channel × Option Raised :=
  if channel.presence.has userId then
    (channel, some (conflict channel.name s!"Already tracking presence for {userId}"))
  else
    { channel with presence := channel.presence.set userId data }.publishPresenceChange moment .join userId data

def updatePresence (channel : Channel) (moment : Moment) (userId : UserId) (data : Dict) : Channel × Option Raised :=
  if channel.presence.has userId = false then
    (channel, some (notFound channel.name s!"Not tracking presence for {userId}"))
  else
    { channel with presence := channel.presence.set userId data }.publishPresenceChange moment .update userId data

def untrackPresence (channel : Channel) (moment : Moment) (userId : UserId) : Channel × Option Raised :=
  match channel.presence.get? userId with
  | none => (channel, none)
  | some old =>
    { channel with presence := channel.presence.delete userId }.publishPresenceChange moment .leave userId old

def publishUserCommand (channel : Channel) (moment : Moment) (command : String) (userId : UserId) (reason : String) :
    Channel × Option Raised :=
  match (channel.own "USER_COMMAND" moment.uuid command
      (.object [("userId", .string userId), ("reason", .string reason)])).checked with
  | none => (channel, some .valueError)
  | some event => (channel.publishEventToPubsub event command, none)

def removeUser (channel : Channel) (moment : Moment) (userId : UserId) (reason : String) (skipDistributed : Bool) :
    Channel × Option Raised :=
  if channel.connections.has userId = false then channel.publishUserCommand moment "user:remove" userId reason
  else
    let channel := { channel with
      connections := channel.connections.delete userId
      assigns := channel.assigns.delete userId }
    andThen (channel.untrackPresence moment userId) fun channel =>
      let channel := if skipDistributed then channel
        else channel.publishDistributed .userLeft [("userId", .string userId)]
      (if channel.connections.isEmpty then channel.close else channel, none)

def updateAssign (channel : Channel) (moment : Moment) (userId : UserId) (key : String) (value : Json) :
    Channel × Option Raised :=
  match channel.assigns.get? userId with
  | none => (channel, some (notFound channel.name s!"User {userId} not in channel"))
  | some current =>
    let updated := current.set key value
    let channel := { channel with assigns := channel.assigns.set userId updated }
    match (channel.own "ASSIGNS" moment.uuid "assigns:update"
        (.object [("userId", .string userId), ("assigns", dictJson updated)])).checked with
    | none => (channel, some .valueError)
    | some event => (channel.publishEventToPubsub event "assigns:update", none)

def evicted (channel : Channel) (uuid reason : String) : Event :=
  channel.own "SYSTEM" uuid "EVICTED" (.object [("reason", .string reason)])

def evictUser (channel : Channel) (moment : Moment) (userId : UserId) (reason : String) : Channel × Option Raised :=
  if channel.connections.has userId = false then channel.publishUserCommand moment "user:evict" userId reason
  else
    match (channel.evicted moment.uuid reason).checked with
    | none => (channel, some .valueError)
    | some event => (channel.sendDirect [userId] event).removeUser moment userId "evicted" true

inductive RecipientSpec where
  | allUsers
  | allExceptSender (senderId : UserId)
  | toUsers (userIds : List UserId)

def resolveRecipients (channel : Channel) : RecipientSpec → List UserId
  | .allUsers => channel.connections.keys
  | .allExceptSender senderId => channel.connections.keys.filter fun userId => decide (userId ≠ senderId)
  | .toUsers userIds => userIds

def addressed (event : Event) : RecipientSpec → Event
  | .allUsers => { event with recipientDescriptor := .string "ALL_USERS" }
  | .allExceptSender senderId =>
    { event with recipientDescriptor := .string "ALL_EXCEPT_SENDER", fromUserId := senderId }
  | .toUsers userIds => { event with recipientDescriptor := .array (userIds.map .string), recipients := userIds }

def sendEvent (channel : Channel) (moment : Moment) (recipients : RecipientSpec) (eventName : String) (payload : Dict) :
    Channel × Option Raised :=
  match (channel.own "BROADCAST" moment.uuid eventName (dictJson payload)).checked with
  | none => (channel, some .valueError)
  | some event =>
    let event := addressed event recipients
    ((channel.dispatchTo moment.room event (channel.resolveRecipients recipients)).publishEventToPubsub event "message",
      none)

def broadcast (channel : Channel) (moment : Moment) (eventName : String) (payload : Dict) : Channel × Option Raised :=
  channel.sendEvent moment .allUsers eventName payload

def broadcastTo (channel : Channel) (moment : Moment) (eventName : String) (payload : Dict) (userIds : List UserId) :
    Channel × Option Raised :=
  channel.sendEvent moment (.toUsers userIds) eventName payload

def broadcastFrom (channel : Channel) (moment : Moment) (eventName : String) (payload : Dict) (excludeUserId : UserId) :
    Channel × Option Raised :=
  channel.sendEvent moment (.allExceptSender excludeUserId) eventName payload

end Channel

end PondSocket.Python
