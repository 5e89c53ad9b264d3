import Mathlib.Data.Rat.Defs
import PondSocket.Library.OrderedMap

namespace PondSocket.Js

open Library

abbrev UserId := String
abbrev NodeId := String

-- The values of an `unknown` field. A finite JavaScript number is a rational.
inductive JsValue where
  | undefined
  | null
  | bool (value : Bool)
  | number (value : Rat)
  | string (value : String)
  | array (items : List JsValue)
  | object (fields : List (String × JsValue))

namespace JsValue

-- The ?? operator.
def orElse (value other : JsValue) : JsValue :=
  match value with
  | .undefined => other
  | .null => other
  | present => present

def field (value : JsValue) (key : String) : JsValue :=
  match value with
  | .object fields => (OrderedMap.findEntry key fields).getD .undefined
  | _ => .undefined

end JsValue

abbrev PondObject := OrderedMap String JsValue
abbrev PondPresence := PondObject
abbrev PondMessage := PondObject
abbrev PondAssigns := PondObject

-- crypto.randomUUID draws an id nobody else has: the drawing node and a count.
inductive RequestId where
  | supplied (text : String)
  | generated (nodeId : NodeId) (index : Nat)
deriving DecidableEq

inductive Thrown where
  | httpError (statusCode : Nat) (message : String)
  | error (message : String)
deriving DecidableEq

inductive PresenceEventTypes where
  | join
  | leave
  | update
deriving DecidableEq

def PresenceEventTypes.text : PresenceEventTypes → String
  | .join => "JOIN"
  | .leave => "LEAVE"
  | .update => "UPDATE"

inductive ServerActions where
  | presence
  | system
  | broadcast
  | error
  | connect
deriving DecidableEq

-- SystemSender is a string enumeration, so a sender is compared as a string.
def SystemSender.channel : String := "CHANNEL"

def ErrorTypes.handlerNotFound : String := "HANDLER_NOT_FOUND"

def Events.acknowledge : String := "ACKNOWLEDGE"

def Events.connection : String := "CONNECTION"

def Events.unauthorized : String := "UNAUTHORIZED"

inductive ChannelReceivers where
  | allUsers
  | allExceptSender
  | users (ids : List UserId)
deriving DecidableEq

inductive EventPayload where
  | message (payload : PondMessage)
  | presence (changed : PondPresence) (presence : List PondPresence)

structure ChannelEvent where
  action : ServerActions
  event : String
  channelName : String
  requestId : RequestId
  payload : EventPayload

structure InternalChannelEvent extends ChannelEvent where
  recipients : List UserId

structure UserData where
  id : UserId
  assigns : PondAssigns
  presence : PondPresence

structure StateUser where
  id : UserId
  presence : Option PondPresence
  assigns : PondAssigns

-- A descriptor that is neither of the two names nor an array is none.
inductive MessageBody where
  | stateRequest (fromNode : NodeId)
  | stateResponse (users : Option (List StateUser))
  | userJoined (userId : UserId) (presence : Option PondPresence) (assigns : PondAssigns)
  | userLeft (userId : UserId)
  | userMessage (fromUserId : UserId) (event : String) (payload : PondMessage) (requestId : RequestId)
      (recipientDescriptor : Option ChannelReceivers)
  | presenceUpdate (userId : UserId) (presence : Option PondPresence)
  | presenceRemoved (userId : UserId)
  | assignsUpdate (userId : UserId) (assigns : Option PondAssigns) (key : Option String) (value : JsValue)
  | evictUser (userId : UserId) (reason : String)
  | userRemove (userId : UserId)
  | userGetRequest (userId : UserId) (requestId : RequestId) (fromNode : NodeId)
  | userGetResponse (userId : UserId) (requestId : RequestId) (assigns : Option PondAssigns)
      (presence : Option PondPresence)
  | nodeHeartbeat (nodeId : NodeId)

structure DistributedMessage where
  endpointName : String
  channelName : String
  sourceNodeId : Option NodeId
  body : MessageBody

-- What the engine reads of its IDistributedBackend.
structure DistributedBackend where
  nodeId : NodeId
  heartbeatTimeoutMs : Nat
deriving DecidableEq

end PondSocket.Js
