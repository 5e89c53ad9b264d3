import PondSocket.Go.Codec

namespace PondSocket.Go

open Library List
open Js (Json UserId NodeId)

-- The three recipient forms of sendMessage; a request id is never empty.
inductive Recipient where
  | all
  | allExceptSender
  | users (first : UserId) (rest : List UserId)
deriving DecidableEq

namespace Recipient

def descriptor : Recipient → Json
  | .all => .string "ALL_USERS"
  | .allExceptSender => .string "ALL_EXCEPT_SENDER"
  | .users first rest => .array ((first :: rest).map .string)

def userIds : Recipient → List UserId
  | .users first rest => first :: rest
  | _ => []

def text : Recipient → String
  | .all => "ALL_USERS"
  | .allExceptSender => "ALL_EXCEPT_SENDER"
  | .users _ _ => ""

def audience (recipient : Recipient) (sender : UserId) : Audience :=
  match recipient with
  | .all => .all
  | .allExceptSender => .allExceptSender sender
  | .users first rest => .users (first :: rest)

end Recipient

inductive PresenceEvent where
  | join
  | update
  | leave
deriving DecidableEq

def PresenceEvent.text : PresenceEvent → String
  | .join => Go.join
  | .update => Go.update
  | .leave => Go.leave

inductive Announcement where
  | message (system : Bool) (event : String) (payload : Json) (requestId : String) (named : requestId ≠ "")
      (sender : UserId) (recipient : Recipient)
  | presence (event : PresenceEvent) (userId : UserId) (change : Json) (list : List Json) (requestId : String)
  | assigns (userId : UserId) (key : String) (value : Json) (snapshot : Assigns) (requestId : String)
  | evict (userId : UserId) (reason requestId : String)
  | remove (userId : UserId) (reason requestId : String)
  | getRequest (userId : UserId) (requestId : String)
  | getResponse (requestId : String) (user : User)

def PublishedAction.received : PublishedAction → Action
  | .broadcast | .system => .broadcast
  | .presence => .presence
  | .assigns => .assigns
  | .userCommand => .userCommand

namespace Announcement

def commandPayload (userId : UserId) (reason : String) : Json :=
  .object [("userID", .string userId), ("reason", .string reason)]

def assignsPayload (userId : UserId) (key : String) (value : Json) (assigns : Assigns) : Json :=
  .object [("userId", .string userId), ("key", .string key), ("value", value), ("assigns", .object assigns.entries)]

-- The events of sendMessage, publishPresenceEvent, broadcastAssignsUpdate,
-- publishUserCommand, requestRemoteUser and handleUserGetRequest.
def published (channel : Channel) : Announcement → PublishedEvent
  | .message system event payload requestId _ _ recipient =>
    { action := if system then .system else .broadcast
      channelName := channel.name
      requestId := requestId
      payload := .json payload
      event := event
      nodeId := channel.nodeId
      recipients := recipient.userIds }
  | .presence event userId change list requestId =>
    { action := .presence
      channelName := channel.name
      requestId := requestId
      payload := .presence ⟨event.text, userId, change, list⟩
      event := event.text
      nodeId := channel.nodeId }
  | .assigns userId key value snapshot requestId =>
    { action := .assigns
      channelName := channel.name
      requestId := requestId
      payload := .json (assignsPayload userId key value snapshot)
      event := "assigns:update"
      nodeId := channel.nodeId }
  | .evict userId reason requestId =>
    { action := .userCommand
      channelName := channel.name
      requestId := requestId
      payload := .json (commandPayload userId reason)
      event := userEvictCommand
      nodeId := channel.nodeId }
  | .remove userId reason requestId =>
    { action := .userCommand
      channelName := channel.name
      requestId := requestId
      payload := .json (commandPayload userId reason)
      event := userRemoveCommand
      nodeId := channel.nodeId }
  | .getRequest userId requestId =>
    { action := .userCommand
      channelName := channel.name
      requestId := requestId
      payload := .json (.object [("userID", .string userId), ("requestID", .string requestId)])
      event := userGetRequest
      nodeId := channel.nodeId }
  | .getResponse requestId user => channel.userGetAnswer requestId user

def sender : Announcement → UserId
  | .message _ _ _ _ _ sender _ => sender
  | _ => "CHANNEL"

def descriptor : Announcement → Json
  | .message _ _ _ _ _ _ recipient => recipient.descriptor
  | _ => .string "ALL_USERS"

def bytes (announcement : Announcement) (channel : Channel) (stamp : Stamp) (endpoint : String) : Json :=
  distributedBytesFromEvent stamp endpoint (announcement.published channel) announcement.sender announcement.descriptor

def decoded (announcement : Announcement) (channel : Channel) (stamp : Stamp) (endpoint uuid : String) : Option Event :=
  (decodeEnvelope (announcement.bytes channel stamp endpoint)).bind (eventFromEnvelope uuid)

def event (announcement : Announcement) (channel : Channel) : Event :=
  let published := announcement.published channel
  let event : Event :=
    { action := published.action.received
      channelName := published.channelName
      requestId := published.requestId
      payload := published.payload.marshal
      event := published.event
      nodeId := published.nodeId }
  match announcement with
  | .message _ _ _ _ _ sender recipient =>
    { event with
      fromUserId := sender
      recipients := recipient.userIds
      recipient := recipient.text }
  | _ => event

def carried : Announcement → List String
  | .message .. => []
  | .presence .leave .. => ["userId"]
  | .presence .. => ["userId", "changed"]
  | .assigns .. => ["userId", "assigns"]
  | .evict .. => ["userID", "reason"]
  | .remove .. => ["userID"]
  | .getRequest .. => ["userID", "requestID"]
  | .getResponse .. => ["requestID", "userID", "assigns", "presence", "found"]

-- USER_REMOVE has no reason on the wire.
def wired : Announcement → Announcement
  | .remove userId _ requestId => .remove userId "" requestId
  | announcement => announcement

end Announcement

structure Channel.SameEffect (receiver : Channel) (event decoded : Event) : Prop where
  action : decoded.action = event.action
  name : decoded.event = event.event
  tables : ∀ moment, (receiver.handleEvent moment decoded).1 = (receiver.handleEvent moment event).1
  users : ∀ moment, (receiver.handleEvent moment decoded).2.map InternalEvent.recipients =
    (receiver.handleEvent moment event).2.map InternalEvent.recipients
  answer : receiver.handleUserGetRequest decoded (textAt decoded.payload "userID") =
    receiver.handleUserGetRequest event (textAt event.payload "userID")
  delivery : ∀ userGetCoordinators, Channel.handleUserGetResponse userGetCoordinators decoded =
    Channel.handleUserGetResponse userGetCoordinators event
  message : event.action = .broadcast → decoded.payload = event.payload ∧ decoded.requestId = event.requestId

namespace Channel

variable (receiver : Channel)

theorem same_effect_refl (event : Event) : receiver.SameEffect event event :=
  ⟨rfl, rfl, fun _ => rfl, fun _ => rfl, rfl, fun _ => rfl, fun _ => ⟨rfl, rfl⟩⟩

theorem addressed_recipients {first second : Event} {recipients : List UserId} :
    (addressed first recipients).map InternalEvent.recipients = (addressed second recipients).map InternalEvent.recipients := by
  simp only [addressed]
  split <;> rfl

theorem text_absent {payload : Json} {key : String} (absent : index payload key = .null) : textAt payload key = "" := by
  rw [textAt, absent]
  rfl

variable {receiver}

theorem no_lookup {event decoded : Event} (asked : index event.payload "requestID" = .null)
    (read : index decoded.payload "requestID" = .null) :
    receiver.handleUserGetRequest decoded (textAt decoded.payload "userID") =
        receiver.handleUserGetRequest event (textAt event.payload "userID") ∧
      ∀ userGetCoordinators, handleUserGetResponse userGetCoordinators decoded =
        handleUserGetResponse userGetCoordinators event := by
  have first := text_absent asked
  have second := text_absent read
  constructor
  · simp [handleUserGetRequest, first, second]
  · intro userGetCoordinators
    simp [handleUserGetResponse, first, second]

theorem presence_event_alike {now : Nat} {event decoded : Event} (name : decoded.event = event.event)
    (source : decoded.nodeId = event.nodeId) (user : index decoded.payload "userId" = index event.payload "userId")
    (changed : event.event ≠ leave → index decoded.payload "changed" = index event.payload "changed") :
    receiver.handleRemotePresenceEvent now decoded = receiver.handleRemotePresenceEvent now event := by
  simp only [handleRemotePresenceEvent, textAt, user, name, source]
  by_cases left : event.event = leave
  · simp [if_pos left]
  · simp [if_neg left, changed left]

theorem same_effect_presence (event decoded : Event) (kind : event.action = .presence)
    (action : decoded.action = event.action) (name : decoded.event = event.event) (source : decoded.nodeId = event.nodeId)
    (user : index decoded.payload "userId" = index event.payload "userId")
    (changed : event.event ≠ leave → index decoded.payload "changed" = index event.payload "changed")
    (asked : index event.payload "requestID" = .null) (read : index decoded.payload "requestID" = .null) :
    receiver.SameEffect event decoded := by
  obtain ⟨answer, delivery⟩ := no_lookup asked read
  have handled : ∀ now, receiver.handleRemotePresenceEvent now decoded = receiver.handleRemotePresenceEvent now event :=
    fun now => presence_event_alike name source user changed
  refine ⟨action, name, ?_, ?_, answer, delivery, fun message => ?_⟩
  · intro moment
    simp only [handleEvent, action, kind, handled]
  · intro moment
    simp only [handleEvent, action, kind, handled]
    exact addressed_recipients
  · rw [kind] at message
    cases message

theorem same_effect_assigns {event decoded : Event} (snapshot : Json) (assigns : Assigns)
    (kind : event.action = .assigns) (action : decoded.action = event.action) (name : decoded.event = event.event)
    (user : textAtEither decoded.payload "userId" "UserID" = textAtEither event.payload "userId" "UserID")
    (map : asMap snapshot = some assigns) (said : index event.payload "assigns" = snapshot)
    (heard : index decoded.payload "assigns" = snapshot)
    (asked : index event.payload "requestID" = .null) (read : index decoded.payload "requestID" = .null) :
    receiver.SameEffect event decoded := by
  obtain ⟨answer, delivery⟩ := no_lookup asked read
  have handled : receiver.handleRemoteAssignsEvent decoded = receiver.handleRemoteAssignsEvent event := by
    simp [handleRemoteAssignsEvent, user, said, heard, map, mergedAssigns]
  refine ⟨action, name, ?_, ?_, answer, delivery, fun message => ?_⟩
  · intro moment
    simp [handleEvent, action, kind, handled]
  · intro moment
    simp [handleEvent, action, kind]
  · rw [kind] at message
    cases message

theorem same_effect_command (event decoded : Event) (kind : event.action = .userCommand)
    (action : decoded.action = event.action) (name : decoded.event = event.event)
    (user : textAt decoded.payload "userID" = textAt event.payload "userID")
    (reason : textAt decoded.payload "reason" = textAt event.payload "reason")
    (asked : textAt decoded.payload "requestID" = textAt event.payload "requestID")
    (found : index decoded.payload "found" = index event.payload "found")
    (assigns : index decoded.payload "assigns" = index event.payload "assigns")
    (presence : index decoded.payload "presence" = index event.payload "presence") :
    receiver.SameEffect event decoded := by
  refine ⟨action, name, ?_, ?_, ?_, ?_, fun message => ?_⟩
  · intro moment
    simp [handleEvent, action, kind, handleRemoteUserCommand, user, reason, name]
  · intro moment
    simp [handleEvent, action, kind]
  · simp [handleUserGetRequest, user, asked]
  · intro userGetCoordinators
    simp [handleUserGetResponse, user, asked, found, assigns, presence]
  · rw [kind] at message
    cases message

end Channel

namespace Announcement

variable (userId : UserId)

theorem read_back (announcement : Announcement) (channel : Channel) (stamp : Stamp) (endpoint uuid : String) :
    announcement.decoded channel stamp endpoint uuid =
      eventFromEnvelope uuid ((announcement.published channel).envelope announcement.sender announcement.descriptor) := by
  rw [decoded, bytes, decode_published]
  rfl

theorem recipient_strings (ids : List UserId) : stringItems (ids.map Json.string) = ids := by
  rw [stringItems, filterMap_map]
  exact filterMap_some

theorem message_envelope (system : Bool) (event : String) (payload : Json) (requestId : String) (named : requestId ≠ "")
    (sender : UserId) (recipient : Recipient) (channel : Channel) :
    ((Announcement.message system event payload requestId named sender recipient).published channel).envelope sender
        recipient.descriptor =
      { newEnvelope .userMessage channel.name channel.nodeId with
        requestId := requestId
        fromUserId := sender
        event := event
        payload := payload
        recipientDescriptor := recipient.descriptor } := by
  cases system <;> cases recipient <;> rfl

theorem message_event (system : Bool) (event : String) (payload : Json) (requestId : String) (named : requestId ≠ "")
    (sender : UserId) (recipient : Recipient) (channel : Channel) :
    (Announcement.message system event payload requestId named sender recipient).event channel =
      { action := .broadcast
        channelName := channel.name
        requestId := requestId
        payload := payload
        event := event
        nodeId := channel.nodeId
        recipients := recipient.userIds
        fromUserId := sender
        recipient := recipient.text } := by
  cases system <;> rfl

variable {requestId : String}

theorem message_read (system : Bool) (event : String) (payload : Json) (named : requestId ≠ "") (sender : UserId)
    (recipient : Recipient) (channel : Channel) (stamp : Stamp) (endpoint uuid : String) :
    (Announcement.message system event payload requestId named sender recipient).decoded channel stamp endpoint uuid =
      some ((Announcement.message system event payload requestId named sender recipient).event channel) := by
  rw [read_back, message_event]
  simp only [Announcement.sender, Announcement.descriptor, message_envelope]
  cases recipient with
  | all | allExceptSender =>
    simp only [eventFromEnvelope, newEnvelope, Recipient.descriptor, if_neg named]
    rfl
  | users =>
    simp only [eventFromEnvelope, newEnvelope, Recipient.descriptor, if_neg named, recipient_strings]
    rfl

def audience : Announcement → Option Audience
  | .message _ _ _ _ _ sender recipient => some (recipient.audience sender)
  | _ => none

theorem message_addressed (receiver channel : Channel) (system : Bool) (event : String) (payload : Json)
    (named : requestId ≠ "") (sender : UserId) (recipient : Recipient) :
    receiver.messageRecipients
        ((Announcement.message system event payload requestId named sender recipient).event channel) =
      receiver.audience ((Announcement.message system event payload requestId named sender recipient).event channel)
        (recipient.audience sender) := by
  cases recipient with
  | all | allExceptSender | users => rfl

structure Kept (announcement : Announcement) (channel : Channel) (decoded : Event) : Prop where
  addressed : ∀ (receiver : Channel) audience, announcement.audience = some audience →
    receiver.messageRecipients decoded = receiver.audience decoded audience
  carried : ∀ key ∈ announcement.carried, index decoded.payload key = index (announcement.event channel).payload key
  effect : ∀ receiver : Channel, receiver.SameEffect (announcement.wired.event channel) decoded

def Arrives (announcement : Announcement) : Prop :=
  ∀ channel stamp endpoint uuid, ∃ event,
    announcement.decoded channel stamp endpoint uuid = some event ∧ announcement.Kept channel event

theorem arrives_of {announcement : Announcement} (untold : announcement.audience = none)
    (reads : ∀ channel uuid, ∃ event, eventFromEnvelope uuid
        ((announcement.published channel).envelope announcement.sender announcement.descriptor) = some event ∧
      announcement.carried.map (index event.payload) = announcement.carried.map (index (announcement.event channel).payload) ∧
      ∀ receiver : Channel, receiver.SameEffect (announcement.wired.event channel) event) : announcement.Arrives := by
  intro channel stamp endpoint uuid
  obtain ⟨event, read, carried, effect⟩ := reads channel uuid
  refine ⟨event, (read_back announcement channel stamp endpoint uuid).trans read, ?_, map_inj_left.mp carried, effect⟩
  intro receiver audience told
  rw [untold] at told
  cases told

theorem presence_update_arrives (kind : PresenceEvent) (other : kind ≠ .leave) (userId : UserId) (change : Json)
    (list : List Json) (requestId : String) : (Announcement.presence kind userId change list requestId).Arrives := by
  refine arrives_of rfl fun channel uuid => ?_
  have given : ¬ kind.text = "" := by
    cases kind <;> decide
  have envelope : ((Announcement.presence kind userId change list requestId).published channel).envelope "CHANNEL"
      (.string "ALL_USERS") =
      { newEnvelope .presenceUpdate channel.name channel.nodeId with
        presenceEvent := kind.text
        userId := userId
        presence := change
        presenceList := list } := by
    cases kind with
    | leave => exact absurd rfl other
    | join | update => rfl
  have listed : ∀ key, key ≠ "presence" → OrderedMap.findEntry key
      (if list.isEmpty then [] else [("presence", Json.array list)]) = none := by
    intro key different
    cases list with
    | nil => rfl
    | cons => exact if_neg different
  simp only [Announcement.sender, Announcement.descriptor, envelope, eventFromEnvelope, newEnvelope, if_neg given]
  refine ⟨_, rfl, ?_, fun receiver => ?_⟩
  · cases kind with
    | leave => exact absurd rfl other
    | join | update => rfl
  · apply Channel.same_effect_presence
    · rfl
    · rfl
    · rfl
    · rfl
    · rfl
    · intro _
      rfl
    · rfl
    · simp only [index]
      rw [OrderedMap.find_append, listed "requestID" (by decide)]
      rfl

theorem presence_leave_arrives (change : Json) (list : List Json) :
    (Announcement.presence .leave userId change list requestId).Arrives := by
  refine arrives_of rfl fun _ _ => ⟨_, rfl, rfl, fun receiver => ?_⟩
  apply Channel.same_effect_presence
  · rfl
  · rfl
  · rfl
  · rfl
  · rfl
  · exact fun other => absurd rfl other
  · rfl
  · rfl

theorem same_named : (if userId = "" then "" else userId) = userId := by
  by_cases empty : userId = ""
  · rw [if_pos empty, empty]
  · rw [if_neg empty]

theorem assigns_arrives (key : String) (value : Json) (snapshot : Assigns) :
    (Announcement.assigns userId key value snapshot requestId).Arrives := by
  refine arrives_of rfl fun channel uuid => ?_
  have envelope : ((Announcement.assigns userId key value snapshot requestId).published channel).envelope "CHANNEL"
      (.string "ALL_USERS") =
      { newEnvelope .assignsUpdate channel.name channel.nodeId with
        userId := userId
        assigns := .object snapshot.entries } := by
    change { newEnvelope .assignsUpdate channel.name channel.nodeId with
      userId := if userId = "" then "" else userId
      assigns := Json.object snapshot.entries } = _
    rw [same_named]
  simp only [Announcement.sender, Announcement.descriptor, envelope]
  refine ⟨_, rfl, rfl, fun receiver => ?_⟩
  apply Channel.same_effect_assigns (.object snapshot.entries) (.ofList snapshot.entries) <;> rfl

variable {reason : String}

theorem evict_arrives : (Announcement.evict userId reason requestId).Arrives := by
  refine arrives_of rfl fun _ _ => ⟨_, rfl, rfl, fun receiver => ?_⟩
  apply Channel.same_effect_command <;> rfl

theorem remove_arrives : (Announcement.remove userId reason requestId).Arrives := by
  refine arrives_of rfl fun _ _ => ⟨_, rfl, rfl, fun receiver => ?_⟩
  apply Channel.same_effect_command <;> rfl

theorem get_request_arrives : (Announcement.getRequest userId requestId).Arrives := by
  refine arrives_of rfl fun channel uuid => ?_
  have envelope : ((Announcement.getRequest userId requestId).published channel).envelope "CHANNEL"
      (.string "ALL_USERS") =
      { newEnvelope .userGetRequest channel.name channel.nodeId with
        requestId := requestId
        fromNode := channel.nodeId
        userId := userId } := by
    change { newEnvelope .userGetRequest channel.name channel.nodeId with
      requestId := requestId
      fromNode := channel.nodeId
      userId := if userId = "" then "" else userId } = _
    rw [same_named]
  simp only [Announcement.sender, Announcement.descriptor, envelope]
  refine ⟨_, rfl, rfl, fun receiver => ?_⟩
  apply Channel.same_effect_command <;> rfl

theorem get_response_arrives (user : User) : (Announcement.getResponse requestId user).Arrives := by
  refine arrives_of rfl fun channel uuid => ?_
  have envelope : ((Announcement.getResponse requestId user).published channel).envelope "CHANNEL"
      (.string "ALL_USERS") =
      { newEnvelope .userGetResponse channel.name channel.nodeId with
        requestId := requestId
        userId := user.userId
        assigns := user.assignsValue
        presence := user.presence } := by
    change { newEnvelope .userGetResponse channel.name channel.nodeId with
      requestId := requestId
      userId := if user.userId = "" then "" else user.userId
      assigns := user.assignsValue
      presence := user.presence } = _
    rw [same_named]
  simp only [Announcement.sender, Announcement.descriptor, envelope]
  refine ⟨_, rfl, rfl, fun receiver => ?_⟩
  apply Channel.same_effect_command <;> rfl

theorem codec_round_trip (announcement : Announcement) (channel : Channel) (stamp : Stamp) (endpoint uuid : String) :
    ∃ event, announcement.decoded channel stamp endpoint uuid = some event ∧ announcement.Kept channel event := by
  have arrives : announcement.Arrives := by
    cases announcement with
    | message system name payload _ named sender recipient =>
      intro channel stamp endpoint uuid
      refine ⟨_, message_read system name payload named sender recipient channel stamp endpoint uuid, ?_, ?_, ?_⟩
      · intro receiver audience same
        cases same
        exact message_addressed receiver channel system name payload named sender recipient
      · intro key member
        cases member
      · exact fun receiver => receiver.same_effect_refl _
    | presence kind userId change list =>
      by_cases left : kind = .leave
      · rw [left]
        exact presence_leave_arrives userId change list
      · exact presence_update_arrives kind left userId change list _
    | assigns userId key value snapshot => exact assigns_arrives userId key value snapshot
    | evict userId => exact evict_arrives userId
    | remove userId => exact remove_arrives userId
    | getRequest userId => exact get_request_arrives userId
    | getResponse _ user => exact get_response_arrives user
  exact arrives channel stamp endpoint uuid

def removal : Announcement := .remove "u" "gone" "request-1"

def joining : Announcement := .presence .join "u" (.object []) [.object []] "request-1"

def hosting : Channel := ((newChannel "room" "node-2" true true 90000).addUser ⟨"u", 1, none⟩).1

theorem removal_reason_dropped :
    (∃ event, removal.decoded (newChannel "room" "node-1" true true 90000) Channel.remoteStamp "api" "uuid-1" = some event ∧
      textAt event.payload "reason" = "" ∧
      textAt (removal.event (newChannel "room" "node-1" true true 90000)).payload "reason" = "gone" ∧
      ¬ hosting.SameEffect (removal.event (newChannel "room" "node-1" true true 90000)) event) ∧
    ∃ event, joining.decoded (newChannel "room" "node-1" true true 90000) Channel.remoteStamp "api" "uuid-1" = some event ∧
      event.requestId = "uuid-1" ∧
      (joining.event (newChannel "room" "node-1" true true 90000)).requestId = "request-1" := by
  constructor
  · refine ⟨_, read_back removal _ Channel.remoteStamp "api" "uuid-1", rfl, rfl, fun same => ?_⟩
    have causes := congrArg (fun channel => channel.issued.map ChannelMembership.cause) (same.tables Channel.remoteMoment)
    revert causes
    decide +kernel
  · exact ⟨_, read_back joining _ Channel.remoteStamp "api" "uuid-1", rfl, rfl⟩

end Announcement

end PondSocket.Go
