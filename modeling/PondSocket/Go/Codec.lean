import PondSocket.Go.PresenceCalls
import PondSocket.Go.Dispatch

namespace PondSocket.Go

open Library
open Js (Json UserId NodeId)

inductive PublishedAction where
  | broadcast
  | system
  | presence
  | assigns
  | userCommand
deriving DecidableEq

inductive EventPayload where
  | presence (payload : PresencePayload)
  | json (value : Json)

def PresencePayload.marshal (payload : PresencePayload) : Json :=
  .object [("event", .string payload.event), ("userId", .string payload.userId), ("changed", payload.change),
    ("presence", .array payload.presence)]

def EventPayload.marshal : EventPayload → Json
  | .presence payload => payload.marshal
  | .json value => value

structure PublishedEvent where
  action : PublishedAction
  channelName : String
  requestId : String
  payload : EventPayload
  event : String
  nodeId : NodeId
  recipients : List UserId := []

def distributedTypeFromEvent (event : PublishedEvent) : MsgType :=
  match event.action with
  | .presence => if event.event = leave then .presenceRemoved else .presenceUpdate
  | .assigns => .assignsUpdate
  | .userCommand =>
    if event.event = userRemoveCommand then .userRemove
    else if event.event = userGetRequest then .userGetRequest
    else if event.event = userGetResponse then .userGetResponse
    else .evictUser
  | .broadcast | .system => .userMessage

namespace EventPayload

def entry (payload : EventPayload) (key : String) : Json :=
  match payload with
  | .presence _ => .null
  | .json value => index value key

def text (payload : EventPayload) (key : String) : String := (asString (payload.entry key)).getD ""

def textEither (payload : EventPayload) (key other : String) : String :=
  if payload.text key = "" then payload.text other else payload.text key

def entryEither (payload : EventPayload) (key other : String) : Json :=
  match payload.entry key with
  | .null => payload.entry other
  | value => value

end EventPayload

def PublishedEvent.envelope (event : PublishedEvent) (sender : UserId) (recipientDescriptor : Json) :
    DistributedEnvelope :=
  let kind := distributedTypeFromEvent event
  let env := newEnvelope kind event.channelName event.nodeId
  match kind with
  | .userMessage =>
    { env with
      requestId := event.requestId
      fromUserId := sender
      event := event.event
      payload := event.payload.marshal
      recipientDescriptor := match recipientDescriptor with
        | .null => if event.recipients.isEmpty then .string "ALL_USERS" else .array (event.recipients.map .string)
        | descriptor => descriptor }
  | .presenceUpdate =>
    match event.payload with
    | .presence payload =>
      { env with
        presenceEvent := event.event
        userId := payload.userId
        presence := payload.change
        presenceList := payload.presence }
    | payload =>
      { env with
        presenceEvent := event.event
        userId := payload.text "userId"
        presence := payload.entry "changed"
        presenceList := (asSlice (payload.entry "presence")).getD [] }
  | .presenceRemoved =>
    match event.payload with
    | .presence payload => { env with presenceEvent := event.event, userId := payload.userId }
    | payload => { env with presenceEvent := event.event, userId := payload.text "userId" }
  | .assignsUpdate =>
    { env with
      userId := event.payload.textEither "userId" "UserID"
      assigns := event.payload.entryEither "assigns" "Assigns" }
  | .evictUser => { env with userId := event.payload.text "userID", reason := event.payload.text "reason" }
  | .userRemove => { env with userId := event.payload.text "userID" }
  | .userGetRequest =>
    { env with
      requestId := event.requestId
      fromNode := event.nodeId
      userId := event.payload.textEither "userID" "userId" }
  | .userGetResponse =>
    { env with
      requestId := event.requestId
      userId := event.payload.textEither "userID" "userId"
      assigns := event.payload.entry "assigns"
      presence := event.payload.entry "presence" }
  | .stateRequest | .stateResponse | .userJoined | .userLeft | .nodeHeartbeat =>
    { env with payload := event.payload.marshal, event := event.event }

def distributedBytesFromEvent (stamp : Stamp) (endpoint : String) (event : PublishedEvent) (sender : UserId)
    (recipientDescriptor : Json) : Json :=
  (event.envelope sender recipientDescriptor).marshal stamp endpoint

theorem envelope_type (event : PublishedEvent) (sender : UserId) (recipientDescriptor : Json) :
    (event.envelope sender recipientDescriptor).type = some (distributedTypeFromEvent event) := by
  simp only [PublishedEvent.envelope]
  cases distributedTypeFromEvent event <;> first | rfl | (cases event.payload <;> rfl)

theorem decode_published (stamp : Stamp) (endpoint : String) (event : PublishedEvent) (sender : UserId)
    (recipientDescriptor : Json) :
    decodeEnvelope (distributedBytesFromEvent stamp endpoint event sender recipientDescriptor) =
      some (event.envelope sender recipientDescriptor) := by
  apply DistributedEnvelope.decode_marshal
  rw [envelope_type]
  rfl

structure User where
  userId : UserId
  assigns : Option Assigns
  presence : Json

def User.assignsValue (user : User) : Json :=
  match user.assigns with
  | none => .null
  | some assigns => .object assigns.entries

namespace Channel

def userGetAnswer (channel : Channel) (requestId : String) (user : User) : PublishedEvent where
  action := .userCommand
  channelName := channel.name
  requestId := requestId
  payload := .json (.object [("requestID", .string requestId), ("userID", .string user.userId),
    ("assigns", user.assignsValue), ("presence", user.presence), ("found", .bool true)])
  event := userGetResponse
  nodeId := channel.nodeId

def localUser (channel : Channel) (userId : UserId) : Except Failure User :=
  match channel.getUserUnsafe userId with
  | .error failure => .error failure
  | .ok (assigns, presence) => .ok ⟨userId, some assigns, presence.getD .null⟩

def handleUserGetRequest (channel : Channel) (event : Event) (userId : UserId) : Option PublishedEvent :=
  if channel.distributed = false ∨ textAt event.payload "requestID" = "" then none
  else
    match channel.localUser userId with
    | .error _ => none
    | .ok user => some (channel.userGetAnswer (textAt event.payload "requestID") user)

def handleUserGetResponse (userGetCoordinators : List String) (event : Event) : Option (String × User) :=
  let requestId := textAt event.payload "requestID"
  if requestId = "" ∨ requestId ∉ userGetCoordinators then none
  else
    match index event.payload "found" with
    | .bool true =>
      some (requestId, ⟨textAt event.payload "userID", asMap (index event.payload "assigns"),
        index event.payload "presence"⟩)
    | _ => none

end Channel

end PondSocket.Go
