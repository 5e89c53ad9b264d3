import PondSocket.Go.ClusterMessages

namespace PondSocket.Go

open Library Channel Announcement
open Js (Json UserId NodeId)

def requestOf (data : Json) : Option String := (decodeEnvelope data).map DistributedEnvelope.requestId

theorem envelope_source (event : PublishedEvent) (sender : UserId) (recipientDescriptor : Json) :
    (event.envelope sender recipientDescriptor).sourceNodeId = event.nodeId := by
  simp only [PublishedEvent.envelope]
  cases distributedTypeFromEvent event <;> first | rfl | (cases event.payload <;> rfl)

variable {channel receiver : Channel}

namespace Announcement

theorem published_source (announcement : Announcement) (channel : Channel) :
    (announcement.published channel).nodeId = channel.nodeId := by
  cases announcement <;> rfl

theorem own_ignored (announcement : Announcement) (stamp : Stamp) (endpoint : String) (moment : Moment)
    (same : channel.nodeId = receiver.nodeId) :
    receiver.onChannelTopic moment (announcement.bytes channel stamp endpoint) = (receiver, none) ∧
      receiver.remoteCommand moment (announcement.bytes channel stamp endpoint) = none := by
  have source : ((announcement.published channel).envelope announcement.sender announcement.descriptor).sourceNodeId =
      receiver.nodeId := by
    rw [envelope_source, published_source, same]
  simp only [onChannelTopic, handleDistributedMessage, remoteCommand, bytes, decode_published,
    if_pos source]
  cases receiver.checkState with
  | some => exact ⟨rfl, rfl⟩
  | none => exact ⟨rfl, if_pos source⟩

theorem message_request (message : ChannelMessage) (channel : Channel) (stamp : Stamp) (endpoint : String) :
    requestOf (message.announcement.bytes channel stamp endpoint) = some message.requestId := by
  rw [requestOf, bytes, decode_published, ChannelMessage.announcement, sender, descriptor, message_envelope]
  rfl

theorem lookup_request (userId : UserId) (lookup : String) (channel : Channel) (stamp : Stamp) (endpoint : String) :
    requestOf ((getRequest userId lookup).bytes channel stamp endpoint) = some lookup := by
  rw [requestOf, bytes, decode_published]
  rfl

theorem answer_request (lookup : String) (user : User) (channel : Channel) (stamp : Stamp) (endpoint : String) :
    requestOf ((getResponse lookup user).bytes channel stamp endpoint) = some lookup := by
  rw [requestOf, bytes, decode_published]
  rfl

end Announcement

namespace Channel

def targets (channel : Channel) (message : ChannelMessage) : List UserId :=
  channel.audience (message.localEvent channel) (message.recipient.audience message.sender)

end Channel

variable {userId : UserId}

namespace ChannelMessage

variable (message : ChannelMessage)

def Addresses (message : ChannelMessage) (userId : UserId) : Prop :=
  match message.recipient with
  | .all => True
  | .allExceptSender => userId ≠ message.sender
  | .users first rest => userId ∈ first :: rest

theorem mem_targets :
    userId ∈ channel.targets message ↔ channel.connections.has userId = true ∧ message.Addresses userId := by
  have keys : userId ∈ channel.connections.keys ↔ channel.connections.has userId = true :=
    OrderedMap.mem_keys
  rw [targets, Addresses, ← keys]
  cases message.recipient with
  | all | allExceptSender | users => simp [Recipient.audience, Channel.audience]

theorem targets_nodup : (channel.targets message).Nodup :=
  Dispatcher.audience_nodup

structure Conveyed (message : ChannelMessage) (channel : Channel) (item : InternalEvent) : Prop where
  request : item.event.requestId = message.requestId
  event : item.event.event = message.event
  payload : item.event.payload = message.payload
  recipients : item.recipients = channel.targets message

theorem conveyed_addressed (channel : Channel) (event : Event) (item : InternalEvent)
    (request : event.requestId = message.requestId) (name : event.event = message.event)
    (payload : event.payload = message.payload) (made : Channel.addressed event (channel.targets message) = some item) :
    message.Conveyed channel item := by
  simp only [Channel.addressed] at made
  split at made
  · cases made
  · cases made
    exact ⟨request, name, payload, rfl⟩

theorem received (stamp : Stamp) (endpoint : String) (moment : Moment) (running : receiver.done = false)
    (foreign : channel.nodeId ≠ receiver.nodeId) :
    ∃ event : Event, event.requestId = message.requestId ∧ event.event = message.event ∧
      event.payload = message.payload ∧
      receiver.onChannelTopic moment (message.announcement.bytes channel stamp endpoint) =
        (receiver, Channel.addressed event (receiver.targets message)) ∧
      receiver.remoteCommand moment (message.announcement.bytes channel stamp endpoint) = none := by
  have check : receiver.checkState = none := by
    rw [checkState, running]
    rfl
  have read := message_read false message.event message.payload message.named
    message.sender message.recipient channel stamp endpoint moment.uuid
  have aimed := message_addressed receiver channel false message.event message.payload
    message.named message.sender message.recipient
  rw [message_event] at read aimed
  have source : (((Announcement.message false message.event message.payload message.requestId message.named message.sender
      message.recipient).published channel).envelope message.sender message.recipient.descriptor).sourceNodeId ≠
      receiver.nodeId := by
    exact foreign
  have same : ∀ event : Event, receiver.audience event (message.recipient.audience message.sender) =
      receiver.targets message := by
    intro event
    rw [targets]
    cases message.recipient <;> rfl
  rw [same] at aimed
  rw [read_back] at read
  simp only [Announcement.sender, Announcement.descriptor] at read
  refine ⟨message.announcement.event channel, ?_, ?_, ?_, ?_, ?_⟩
  · rw [announcement, message_event]
  · rw [announcement, message_event]
  · rw [announcement, message_event]
  · simp only [onChannelTopic, handleDistributedMessage, check, announcement, Announcement.bytes,
      decode_published, Announcement.sender, Announcement.descriptor, if_neg source, message_event]
    simp only [handleEnvelope, read]
    simp only [message_envelope, newEnvelope, handleEvent, aimed]
  · simp only [remoteCommand, check, announcement, Announcement.bytes, decode_published, Announcement.sender,
      Announcement.descriptor, if_neg source, read]
    rfl

end ChannelMessage

variable {lookup : String}

namespace Announcement

theorem lookup_received (userId : UserId) (lookup : String) (stamp : Stamp) (endpoint : String) (moment : Moment)
    (running : receiver.done = false) (foreign : channel.nodeId ≠ receiver.nodeId) :
    receiver.onChannelTopic moment ((getRequest userId lookup).bytes channel stamp endpoint) = (receiver, none) ∧
      ∃ event, receiver.remoteCommand moment ((getRequest userId lookup).bytes channel stamp endpoint) = some event ∧
        event.event = userGetRequest ∧ textAt event.payload "userID" = userId ∧
        textAt event.payload "requestID" = lookup := by
  have check : receiver.checkState = none := by
    rw [checkState, running]
    rfl
  have source : (((getRequest userId lookup).published channel).envelope "CHANNEL" (.string "ALL_USERS")).sourceNodeId ≠
      receiver.nodeId := by
    exact foreign
  have named : ((getRequest userId lookup).published channel).payload.textEither "userID" "userId" = userId := by
    exact same_named userId
  constructor
  · simp only [onChannelTopic, handleDistributedMessage, check, bytes, decode_published, sender, descriptor,
      if_neg source]
    rfl
  · have command : receiver.remoteCommand moment ((getRequest userId lookup).bytes channel stamp endpoint) =
        eventFromEnvelope moment.uuid
          (((getRequest userId lookup).published channel).envelope "CHANNEL" (.string "ALL_USERS")) := by
      simp only [remoteCommand, check, bytes, decode_published, sender, descriptor, if_neg source]
      rfl
    rw [command]
    exact ⟨_, rfl, rfl, named, rfl⟩

theorem answer_received (asked : lookup ≠ "") (user : User) (stamp : Stamp) (endpoint : String) (moment : Moment)
    (running : receiver.done = false) (foreign : channel.nodeId ≠ receiver.nodeId) :
    receiver.onChannelTopic moment ((getResponse lookup user).bytes channel stamp endpoint) = (receiver, none) ∧
      ∃ event, receiver.remoteCommand moment ((getResponse lookup user).bytes channel stamp endpoint) = some event ∧
        event.event = userGetResponse ∧
        ∀ waiting, (Channel.handleUserGetResponse waiting event).map Prod.fst =
          if lookup ∈ waiting then some lookup else none := by
  have check : receiver.checkState = none := by
    rw [checkState, running]
    rfl
  have source : (((getResponse lookup user).published channel).envelope "CHANNEL" (.string "ALL_USERS")).sourceNodeId ≠
      receiver.nodeId := by
    exact foreign
  constructor
  · simp only [onChannelTopic, handleDistributedMessage, check, bytes, decode_published, sender, descriptor,
      if_neg source]
    rfl
  · have command : receiver.remoteCommand moment ((getResponse lookup user).bytes channel stamp endpoint) =
        eventFromEnvelope moment.uuid
          (((getResponse lookup user).published channel).envelope "CHANNEL" (.string "ALL_USERS")) := by
      simp only [remoteCommand, check, bytes, decode_published, sender, descriptor, if_neg source]
      rfl
    rw [command]
    refine ⟨_, rfl, rfl, fun waiting => ?_⟩
    change (if lookup = "" ∨ lookup ∉ waiting then none else some (lookup, _)).map Prod.fst = _
    by_cases member : lookup ∈ waiting
    · rw [if_neg (not_or.mpr ⟨asked, not_not.mpr member⟩), if_pos member]
      rfl
    · rw [if_pos (.inr member), if_neg member]
      rfl

end Announcement

namespace ClusterNode

variable (node : ClusterNode) (waiting : List String)

variable (moment : Moment)

theorem take_nothing : node.take (node.channel, none) = node := by
  simp [take, channel]

variable {endpoint : String} {stamp : Stamp}

theorem receive_own {announcement : Announcement} (same : channel.nodeId = node.channel.nodeId) :
    node.receive waiting moment (announcement.bytes channel stamp endpoint) = (node, none) := by
  obtain ⟨handled, command⟩ := announcement.own_ignored stamp endpoint moment same
  simp [receive, handled, command, take_nothing]

theorem receive_message {message : ChannelMessage} (running : node.channel.done = false)
    (foreign : channel.nodeId ≠ node.channel.nodeId)
    (room : node.dispatcher.queued.length - node.dispatcher.taken < queueCapacity) :
    ∃ event : Event, event.requestId = message.requestId ∧ event.event = message.event ∧
      event.payload = message.payload ∧
      node.receive waiting moment (message.announcement.bytes channel stamp endpoint) =
        ({ node with dispatcher := { node.dispatcher with
            queued := node.dispatcher.queued ++ (Channel.addressed event (node.channel.targets message)).toList } },
          none) := by
  obtain ⟨event, request, name, payload, handled, command⟩ :=
    message.received stamp endpoint moment running foreign
  refine ⟨event, request, name, payload, ?_⟩
  simp only [receive, handled, command, take, if_pos room]
  rfl

theorem receive_lookup (running : node.channel.done = false) (foreign : channel.nodeId ≠ node.channel.nodeId) :
    ∃ event, textAt event.payload "userID" = userId ∧ textAt event.payload "requestID" = lookup ∧
      node.receive waiting moment ((Announcement.getRequest userId lookup).bytes channel stamp endpoint) =
        ({ node with requests := node.requests ++ [event] }, none) := by
  obtain ⟨handled, event, command, name, user, request⟩ :=
    lookup_received userId lookup stamp endpoint moment running foreign
  refine ⟨event, user, request, ?_⟩
  simp [receive, handled, command, take_nothing, if_pos name]

theorem receive_answer (lookup : String)
    (asked : lookup ≠ "") (user : User) (channel : Channel) (stamp : Stamp) (endpoint : String)
    (running : node.channel.done = false) (foreign : channel.nodeId ≠ node.channel.nodeId) :
    node.receive waiting moment ((Announcement.getResponse lookup user).bytes channel stamp endpoint) =
      (node, if lookup ∈ waiting then some lookup else none) := by
  obtain ⟨handled, event, command, name, found⟩ :=
    answer_received asked user stamp endpoint moment running foreign
  have other : ¬ event.event = userGetRequest := by
    rw [name]
    decide
  simp [receive, handled, command, take_nothing, if_neg other, if_pos name, found]

end ClusterNode

end PondSocket.Go
