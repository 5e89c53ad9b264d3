import PondSocket.Js.Wire
import Mathlib.Algebra.Group.Int.Defs

namespace PondSocket.Go

open Library
open Js (Json UserId NodeId)

-- map[string]interface{}; a decoded interface{} is the Json it was decoded from,
-- null being nil. Nothing below depends on the order of a map's entries.
abbrev Assigns := OrderedMap String Json

def asMap : Json → Option Assigns
  | .object fields => some (.ofList fields)
  | _ => none

def asString : Json → Option String
  | .string text => some text
  | _ => none

def asSlice : Json → Option (List Json)
  | .array items => some items
  | _ => none

def index (value : Json) (key : String) : Json :=
  match value with
  | .object fields => (OrderedMap.findEntry key fields).getD .null
  | _ => .null

inductive MsgType where
  | stateRequest
  | stateResponse
  | userJoined
  | userLeft
  | userMessage
  | presenceUpdate
  | presenceRemoved
  | assignsUpdate
  | evictUser
  | userRemove
  | userGetRequest
  | userGetResponse
  | nodeHeartbeat
deriving DecidableEq

namespace MsgType

def text : MsgType → String
  | .stateRequest => "STATE_REQUEST"
  | .stateResponse => "STATE_RESPONSE"
  | .userJoined => "USER_JOINED"
  | .userLeft => "USER_LEFT"
  | .userMessage => "USER_MESSAGE"
  | .presenceUpdate => "PRESENCE_UPDATE"
  | .presenceRemoved => "PRESENCE_REMOVED"
  | .assignsUpdate => "ASSIGNS_UPDATE"
  | .evictUser => "EVICT_USER"
  | .userRemove => "USER_REMOVE"
  | .userGetRequest => "USER_GET_REQUEST"
  | .userGetResponse => "USER_GET_RESPONSE"
  | .nodeHeartbeat => "NODE_HEARTBEAT"

def all : List MsgType :=
  [.stateRequest, .stateResponse, .userJoined, .userLeft, .userMessage, .presenceUpdate, .presenceRemoved,
    .assignsUpdate, .evictUser, .userRemove, .userGetRequest, .userGetResponse, .nodeHeartbeat]

def ofText (text : String) : Option MsgType := all.find? fun kind => decide (kind.text = text)

theorem of_text (kind : MsgType) : ofText kind.text = some kind := by
  cases kind <;> decide

end MsgType

structure DistributedUser where
  id : UserId
  assigns : Json
  presence : Json

-- No type is one the switches below do not list.
structure DistributedEnvelope where
  type : Option MsgType
  sourceNodeId : NodeId
  channelName : String
  fromUserId : UserId
  event : String
  payload : Json
  requestId : String
  recipientDescriptor : Json
  userId : UserId
  presence : Json
  presenceList : List Json
  presenceEvent : String
  assigns : Json
  reason : String
  fromNode : NodeId
  users : List DistributedUser
  nodeId : NodeId

def distributedProtocol : String := "pondsocket.distributed"

def distributedVersion : Int := 1

-- json.Unmarshal into one field: an absent key and a null leave the zero value,
-- a value of another type is an error.
def stringField (data : Json) (key : String) : Option String :=
  match index data key with
  | .null => some ""
  | .string text => some text
  | _ => none

def intField (data : Json) (key : String) (bits : Nat) : Option Int :=
  match index data key with
  | .null => some 0
  | .number value =>
    if value.den = 1 ∧ -2 ^ (bits - 1) ≤ value.num ∧ value.num < 2 ^ (bits - 1) then some value.num else none
  | _ => none

def sliceField (data : Json) (key : String) : Option (List Json) :=
  match index data key with
  | .null => some []
  | .array items => some items
  | _ => none

def decodeUser (data : Json) : Option DistributedUser :=
  match data with
  | .null => some ⟨"", .null, .null⟩
  | .object _ => do
      let id ← stringField data "id"
      return ⟨id, index data "assigns", index data "presence"⟩
  | _ => none

def decodeUsers : List Json → Option (List DistributedUser)
  | [] => some []
  | item :: rest => do
      let user ← decodeUser item
      let users ← decodeUsers rest
      return user :: users

def decodeEnvelope (data : Json) : Option DistributedEnvelope := do
  let protocol ← stringField data "protocol"
  let version ← intField data "version" 64
  let type ← stringField data "type"
  let _ ← stringField data "messageId"
  let sourceNodeId ← stringField data "sourceNodeId"
  let _ ← stringField data "endpointName"
  let channelName ← stringField data "channelName"
  let _ ← intField data "timestamp" 64
  let fromUserId ← stringField data "fromUserId"
  let event ← stringField data "event"
  let requestId ← stringField data "requestId"
  let userId ← stringField data "userId"
  let presenceList ← sliceField data "presenceList"
  let presenceEvent ← stringField data "presenceEvent"
  let reason ← stringField data "reason"
  let fromNode ← stringField data "fromNode"
  let users ← (sliceField data "users").bind decodeUsers
  let nodeId ← stringField data "nodeId"
  if protocol ≠ distributedProtocol ∨ version ≠ distributedVersion then none
  else
    return {
      type := MsgType.ofText type
      sourceNodeId := sourceNodeId
      channelName := channelName
      fromUserId := fromUserId
      event := event
      payload := index data "payload"
      requestId := requestId
      recipientDescriptor := index data "recipientDescriptor"
      userId := userId
      presence := index data "presence"
      presenceList := presenceList
      presenceEvent := presenceEvent
      assigns := index data "assigns"
      reason := reason
      fromNode := fromNode
      users := users
      nodeId := nodeId }

inductive Action where
  | broadcast
  | presence
  | assigns
  | userCommand
deriving DecidableEq

def join : String := "JOIN"

def leave : String := "LEAVE"

def update : String := "UPDATE"

def userEvictCommand : String := "user:evict"

def userRemoveCommand : String := "user:remove"

def userGetRequest : String := "user:get_request"

def userGetResponse : String := "user:get_response"

structure Event where
  action : Action
  channelName : String
  requestId : String
  payload : Json
  event : String
  nodeId : NodeId
  recipients : List UserId := []
  fromUserId : UserId := ""
  recipient : String := ""

def stringItems (items : List Json) : List String := items.filterMap asString

def eventFromEnvelope (uuid : String) (env : DistributedEnvelope) : Option Event :=
  let requestId := if env.requestId = "" then uuid else env.requestId
  let ev (action : Action) (event : String) (payload : Json) : Event :=
    { action := action
      channelName := env.channelName
      requestId := requestId
      payload := payload
      event := event
      nodeId := env.sourceNodeId }
  match env.type with
  | some .userMessage =>
    let message := { ev .broadcast env.event env.payload with fromUserId := env.fromUserId }
    match env.recipientDescriptor with
    | .array ids => some { message with recipients := stringItems ids }
    | .string descriptor => some { message with recipient := descriptor }
    | _ => some message
  | some .presenceUpdate =>
    let listed := if env.presenceList.isEmpty then [] else [("presence", Json.array env.presenceList)]
    some (ev .presence (if env.presenceEvent = "" then update else env.presenceEvent)
      (.object ([("userId", .string env.userId), ("changed", env.presence)] ++ listed)))
  | some .presenceRemoved =>
    some (ev .presence (if env.presenceEvent = "" then leave else env.presenceEvent)
      (.object [("userId", .string env.userId)]))
  | some .assignsUpdate =>
    match env.payload with
    | .null => some (ev .assigns "assigns:update"
        (.object [("userId", .string env.userId), ("assigns", env.assigns)]))
    | payload => some (ev .assigns "assigns:update" payload)
  | some .evictUser =>
    some (ev .userCommand userEvictCommand
      (.object [("userID", .string env.userId), ("reason", .string env.reason)]))
  | some .userRemove =>
    some (ev .userCommand userRemoveCommand
      (.object [("userID", .string env.userId), ("reason", .string env.reason)]))
  | some .userGetRequest =>
    some (ev .userCommand userGetRequest
      (.object [("userID", .string env.userId), ("requestID", .string env.requestId),
        ("fromNode", .string env.fromNode)]))
  | some .userGetResponse =>
    some (ev .userCommand userGetResponse
      (.object [("requestID", .string env.requestId), ("userID", .string env.userId),
        ("assigns", env.assigns), ("presence", env.presence), ("found", .bool true)]))
  | some .stateRequest | some .stateResponse | some .userJoined | some .userLeft | some .nodeHeartbeat
  | none => none

end PondSocket.Go
