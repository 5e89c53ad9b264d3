import PondSocket.Python.Codec

namespace PondSocket.Python

open Library List OrderedMap Option
open Js (Json UserId NodeId)
open Go (MsgType index asString asMap asSlice)

inductive Message where
  | userJoined (userId : UserId) (assigns : Dict)
  | userLeft (userId : UserId)
  | stateRequest
  | stateResponse (users : List (UserId × Dict × Dict))
  | assignsUpdate (userId : UserId) (assigns : Dict)
  | presenceUpdate (userId : UserId) (presence : Dict)
  | presenceRemoved (userId : UserId)
  | command (evict : Bool) (userId : UserId) (reason : String)

abbrev Row := Option Dict × Option Dict

def Channel.row (channel : Channel) (userId : UserId) : Row :=
  (channel.assigns.get? userId, channel.presence.get? userId)

def stateUser (user : UserId × Dict × Dict) : Json :=
  .object [("id", .string user.1), ("assigns", dictJson user.2.1), ("presence", dictJson user.2.2)]

def responseEffect (userId : UserId) (row : Row) (user : UserId × Dict × Dict) : Row :=
  if user.1 = userId then (some user.2.1, if user.2.2.isEmpty then row.2 else some user.2.2) else row

namespace Message

def effect (userId : UserId) (row : Row) : Message → Row
  | .userJoined other assigns => if other = userId then (some assigns, row.2) else row
  | .userLeft other => if other = userId then (none, none) else row
  | .stateResponse users => users.foldl (responseEffect userId) row
  | .assignsUpdate other assigns => if other = userId then (row.1.map fun _ => assigns, row.2) else row
  | .presenceUpdate other presence => if other = userId then (row.1, some (Channel.mergedPresence presence)) else row
  | .presenceRemoved other => if other = userId then (row.1, none) else row
  | .stateRequest | .command _ _ _ => row

def users : Message → List UserId
  | .userJoined userId _ | .userLeft userId | .assignsUpdate userId _ | .presenceUpdate userId _
  | .presenceRemoved userId => [userId]
  | .stateResponse users => users.map Prod.fst
  | .stateRequest | .command _ _ _ => []

def isTable : Message → Bool
  | .stateRequest | .command _ _ _ => false
  | _ => true

end Message

inductive Told (channel : Channel) : Message → Publication → Prop where
  | userJoined (userId : UserId) (assigns : Dict) :
      Told channel (.userJoined userId assigns) (.distributed .userJoined
        [("userId", .string userId), ("presence", .object []), ("assigns", dictJson assigns)])
  | userLeft (userId : UserId) : Told channel (.userLeft userId) (.distributed .userLeft [("userId", .string userId)])
  | stateRequest : Told channel .stateRequest (.distributed .stateRequest [("fromNode", .string channel.nodeId)])
  | stateResponse (users : List (UserId × Dict × Dict)) :
      Told channel (.stateResponse users) (.distributed .stateResponse [("users", .array (users.map stateUser))])
  | assignsUpdate (userId : UserId) (assigns : Dict) (uuid : String) (drawn : uuid ≠ "") :
      Told channel (.assignsUpdate userId assigns) (.event (channel.own "ASSIGNS" uuid "assigns:update"
        (.object [("userId", .string userId), ("assigns", dictJson assigns)])) "assigns:update")
  | presenceUpdate (userId : UserId) (presence : Dict) (uuid : String) (drawn : uuid ≠ "")
      (eventType : PresenceEventTypes) (kept : eventType ≠ .leave) (snapshot : List Json) :
      Told channel (.presenceUpdate userId presence) (.event { channel.own "PRESENCE" uuid eventType.value
        (.object [("presence", .array snapshot), ("changed", dictJson presence)]) with userId := userId }
        eventType.subtype)
  | presenceRemoved (userId : UserId) (old : Dict) (uuid : String) (drawn : uuid ≠ "") (snapshot : List Json) :
      Told channel (.presenceRemoved userId) (.event { channel.own "PRESENCE" uuid PresenceEventTypes.leave.value
        (.object [("presence", .array snapshot), ("changed", dictJson old)]) with userId := userId }
        PresenceEventTypes.leave.subtype)
  | command (evict : Bool) (userId : UserId) (reason uuid : String) (drawn : uuid ≠ "") :
      Told channel (.command evict userId reason) (.event
        (channel.own "USER_COMMAND" uuid (if evict then "user:evict" else "user:remove")
          (.object [("userId", .string userId), ("reason", .string reason)]))
        (if evict then "user:evict" else "user:remove"))

structure Quiet (before after : Channel) : Prop where
  name : after.name = before.name
  endpointPath : after.endpointPath = before.endpointPath
  nodeId : after.nodeId = before.nodeId
  distributed : after.distributed = before.distributed
  active : after.active = before.active
  connections : after.connections = before.connections
  published : after.published = before.published

theorem Quiet.refl (channel : Channel) : Quiet channel channel := ⟨rfl, rfl, rfl, rfl, rfl, rfl, rfl⟩

theorem Quiet.trans (first second third : Channel) (left : Quiet first second) (right : Quiet second third) :
    Quiet first third :=
  ⟨right.name.trans left.name, right.endpointPath.trans left.endpointPath, right.nodeId.trans left.nodeId,
    right.distributed.trans left.distributed, right.active.trans left.active,
    right.connections.trans left.connections, right.published.trans left.published⟩

structure Hears (before after : Channel) (effect : UserId → Row → Row) : Prop where
  quiet : Quiet before after
  rows : ∀ userId, after.row userId = effect userId (before.row userId)

section

variable (str : Json → String)

namespace Channel

variable (receiver : Channel) (sender : Channel) (userId : UserId)

variable {nodeId : NodeId}

theorem quiet_dispatch (channel : Channel) (room : Bool) (event : Event) (recipientIds : List UserId) :
    Hears channel (channel.dispatchTo room event recipientIds) fun _ => id := by
  simp only [dispatchTo, enqueueDispatch]
  split
  · exact ⟨.refl channel, fun _ => rfl⟩
  split
  · exact ⟨.refl channel, fun _ => rfl⟩
  split
  · exact ⟨⟨rfl, rfl, rfl, rfl, rfl, rfl, rfl⟩, fun _ => rfl⟩
  · exact ⟨.refl channel, fun _ => rfl⟩

variable {channel : Channel}

theorem quiet_track {nodeId : NodeId} {userId : UserId} :
    Hears channel (channel.trackNodeUser nodeId userId) fun _ => id := by
  simp only [trackNodeUser]
  split
  · exact ⟨.refl channel, fun _ => rfl⟩
  · exact ⟨⟨rfl, rfl, rfl, rfl, rfl, rfl, rfl⟩, fun _ => rfl⟩

theorem quiet_untrack {nodeId : NodeId} {userId : UserId} :
    Hears channel (channel.untrackNodeUser nodeId userId) fun _ => id := by
  simp only [untrackNodeUser]
  split
  · exact ⟨.refl channel, fun _ => rfl⟩
  split
  · exact ⟨.refl channel, fun _ => rfl⟩
  · exact ⟨⟨rfl, rfl, rfl, rfl, rfl, rfl, rfl⟩, fun _ => rfl⟩

theorem adopt_heard (channel : Channel) (nodeId : NodeId) (userId : UserId) (user : Json) (assigns presence : Dict)
    (hasAssigns : index user "assigns" = dictJson assigns) (hasPresence : index user "presence" = dictJson presence) :
    Hears channel (channel.adoptUser nodeId userId user) fun other row =>
      responseEffect other row (userId, assigns, presence) := by
  simp only [adoptUser, hasAssigns, hasPresence, as_map_dict, as_dict_dict]
  obtain ⟨quiet, rows⟩ := quiet_track
  have first : Quiet channel { channel with assigns := channel.assigns.set userId assigns } :=
    ⟨rfl, rfl, rfl, rfl, rfl, rfl, rfl⟩
  have tracked := Quiet.trans _ _ _ first quiet
  simp only [Channel.row, Prod.mk.injEq, id] at rows
  cases empty : presence.isEmpty with
  | true =>
    refine ⟨tracked, fun other => ?_⟩
    simp only [if_true, Channel.row, rows, responseEffect, empty, OrderedMap.get_set, eq_comm]
    split <;> rfl
  | false =>
    refine ⟨⟨tracked.name, tracked.endpointPath, tracked.nodeId, tracked.distributed, tracked.active,
      tracked.connections, tracked.published⟩, fun other => ?_⟩
    simp only [Bool.false_eq_true, if_false, Channel.row, rows, responseEffect, empty, OrderedMap.get_set, eq_comm]
    split <;> rfl

theorem joined_heard {raw : Json} {userId : UserId} {assigns : Dict}
    (strings : ∀ text, str (.string text) = text) (user : index raw "userId" = .string userId)
    (hasAssigns : index raw "assigns" = dictJson assigns) (hasPresence : index raw "presence" = .object [])
    (present : userId ≠ "") (apart : receiver.hasUser userId = false) :
    Hears receiver (receiver.handleRemoteUserJoined str nodeId raw) fun other row =>
      (Message.userJoined userId assigns).effect other row := by
  have named := text_or_text str strings "" present
  have absent : ¬ (userId = "" ∨ receiver.connections.has userId = true) := by
    rw [not_or, Bool.not_eq_true]
    exact ⟨present, apart⟩
  simp only [handleRemoteUserJoined, user, named, if_neg absent]
  exact receiver.adopt_heard nodeId userId raw assigns .empty hasAssigns hasPresence

theorem left_heard {raw : Json} {userId : UserId}
    (strings : ∀ text, str (.string text) = text) (user : index raw "userId" = .string userId)
    (present : userId ≠ "") (apart : receiver.hasUser userId = false) :
    Hears receiver (receiver.handleRemoteUserLeft str nodeId raw) fun other row =>
      (Message.userLeft userId).effect other row := by
  have named := text_or_text str strings "" present
  have absent : ¬ (userId = "" ∨ receiver.connections.has userId = true) := by
    rw [not_or, Bool.not_eq_true]
    exact ⟨present, apart⟩
  simp only [handleRemoteUserLeft, user, named, if_neg absent]
  obtain ⟨quiet, rows⟩ := quiet_untrack
  have first : Quiet receiver { receiver with
    assigns := receiver.assigns.delete userId
    presence := receiver.presence.delete userId } := ⟨rfl, rfl, rfl, rfl, rfl, rfl, rfl⟩
  refine ⟨.trans _ _ _ first quiet, fun other => ?_⟩
  rw [rows]
  simp only [row, Message.effect, get_delete, eq_comm]
  split <;> rfl

theorem response_user_heard {user : UserId × Dict × Dict}
    (strings : ∀ text, str (.string text) = text) (present : user.1 ≠ "") (apart : receiver.hasUser user.1 = false) :
    Hears receiver (handleStateResponseUser str nodeId receiver (stateUser user)) fun other row =>
      responseEffect other row user := by
  have named := text_or_text str strings "" present
  have absent : ¬ (user.1 = "" ∨ receiver.connections.has user.1 = true) := by
    rw [not_or, Bool.not_eq_true]
    exact ⟨present, apart⟩
  have id : index (stateUser user) "id" = .string user.1 := rfl
  simp only [handleStateResponseUser, id, named, if_neg absent]
  exact receiver.adopt_heard nodeId user.1 (stateUser user) user.2.1 user.2.2 rfl rfl

theorem response_heard {users : List (UserId × Dict × Dict)}
    (strings : ∀ text, str (.string text) = text)
    (apart : ∀ user ∈ users, user.1 ≠ "" ∧ receiver.hasUser user.1 = false) :
    Hears receiver ((users.map stateUser).foldl (handleStateResponseUser str nodeId) receiver) fun other row =>
      users.foldl (responseEffect other) row := by
  induction users generalizing receiver with
  | nil => exact ⟨.refl receiver, fun _ => rfl⟩
  | cons user _ ih =>
    obtain ⟨present, absent⟩ := apart user (mem_cons_self ..)
    obtain ⟨quiet, rows⟩ := receiver.response_user_heard str strings present absent
    have later := ih (handleStateResponseUser str nodeId receiver (stateUser user)) fun other member => by
      obtain ⟨named, away⟩ := apart other (mem_cons_of_mem _ member)
      rw [hasUser, quiet.connections]
      exact ⟨named, away⟩
    refine ⟨.trans _ _ _ quiet later.quiet, fun other => ?_⟩
    rw [map_cons, foldl_cons, later.rows other, rows other, foldl_cons]

theorem assigns_heard {event : Event} {userId : UserId} {assigns : Dict}
    (strings : ∀ text, str (.string text) = text)
    (payload : event.payload = .object [("userId", .string userId), ("assigns", dictJson assigns)]) (present : userId ≠ "") :
    Hears receiver (receiver.handleRemoteAssigns str event) fun other row =>
      (Message.assignsUpdate userId assigns).effect other row := by
  have named := text_or_text str strings "" present
  have user : index event.payload "userId" = .string userId := by
    rw [payload]
    rfl
  have merged : ∀ table, mergedAssigns table event.payload = assigns := by
    intro table
    have key : index event.payload "key" = .null := by
      rw [payload]
      rfl
    have sent : index event.payload "assigns" = dictJson assigns := by
      rw [payload]
      rfl
    rw [mergedAssigns, key]
    simp only [sent, as_map_dict, getD_some]
  simp only [handleRemoteAssigns, user, named, if_neg present, merged]
  cases held : receiver.assigns.get? userId with
  | none =>
    refine ⟨.refl receiver, fun other => ?_⟩
    simp only [Message.effect]
    split
    · rename_i same
      subst same
      simp only [row, held, map_none]
    · rfl
  | some =>
    refine ⟨⟨rfl, rfl, rfl, rfl, rfl, rfl, rfl⟩, fun other => ?_⟩
    simp only [row, Message.effect, OrderedMap.get_set, eq_comm]
    split
    · rename_i same
      subst same
      simp only [held, map_some]
    · rfl

theorem merged_heard (room : Bool) (event : Event) (table : OrderedMap UserId Dict)
    (stored : (receiver.mergeRemotePresence str event).1 = { receiver with presence := table }) :
    Hears receiver ((receiver.mergeRemotePresence str event).1.dispatchTo room (receiver.mergeRemotePresence str event).2
      (receiver.mergeRemotePresence str event).1.presence.keys) fun other _ => (receiver.assigns.get? other, table.get? other) := by
  have dispatched := quiet_dispatch (receiver.mergeRemotePresence str event).1 room
    (receiver.mergeRemotePresence str event).2 (receiver.mergeRemotePresence str event).1.presence.keys
  have first : Quiet receiver (receiver.mergeRemotePresence str event).1 := by
    rw [stored]
    exact ⟨rfl, rfl, rfl, rfl, rfl, rfl, rfl⟩
  refine ⟨.trans _ _ _ first dispatched.quiet, fun other => ?_⟩
  rw [dispatched.rows other, stored]
  rfl

theorem presence_heard (room : Bool) (event : Event) (userId : UserId) (presence : Dict)
    (payload : index event.payload "changed" = dictJson presence) (user : event.userId = userId) (kept : event.event ≠ "LEAVE")
    (present : userId ≠ "") :
    Hears receiver ((receiver.mergeRemotePresence str event).1.dispatchTo room (receiver.mergeRemotePresence str event).2
      (receiver.mergeRemotePresence str event).1.presence.keys) fun other row => (Message.presenceUpdate userId presence).effect other row := by
  have about : changedUser str event presence = userId := by
    rw [changedUser, if_pos (user ▸ present), user]
  have heard := receiver.merged_heard str room event (receiver.presence.set userId (mergedPresence presence)) (by
    simp only [mergeRemotePresence, payload, as_map_dict, about, if_neg present, if_neg kept])
  refine ⟨heard.quiet, fun other => ?_⟩
  rw [heard.rows]
  simp only [row, Message.effect, OrderedMap.get_set, eq_comm]
  split <;> rfl

theorem removed_heard (room : Bool) {event : Event} {userId : UserId} (changed : Dict)
    (payload : index event.payload "changed" = dictJson changed) (user : event.userId = userId) (left : event.event = "LEAVE")
    (present : userId ≠ "") :
    Hears receiver ((receiver.mergeRemotePresence str event).1.dispatchTo room (receiver.mergeRemotePresence str event).2
      (receiver.mergeRemotePresence str event).1.presence.keys) fun other row => (Message.presenceRemoved userId).effect other row := by
  have about : changedUser str event changed = userId := by
    rw [changedUser, if_pos (user ▸ present), user]
  have heard := receiver.merged_heard str room event (receiver.presence.delete userId) (by
    simp only [mergeRemotePresence, payload, as_map_dict, about, if_neg present, left, if_true])
  refine ⟨heard.quiet, fun other => ?_⟩
  rw [heard.rows]
  simp only [row, Message.effect, get_delete, eq_comm]
  split <;> rfl

theorem assigns_bytes (assigns : Dict) (uuid : String) (stamp : Stamp) :
    sender.wire str stamp (.event (sender.own "ASSIGNS" uuid "assigns:update"
        (.object [("userId", .string userId), ("assigns", dictJson assigns)])) "assigns:update") =
      distributedBytes stamp .assignsUpdate sender.nodeId sender.cleanEndpoint sender.name
        [("userId", .string userId), ("assigns", dictJson assigns)] := rfl

theorem assigns_decoded (assigns : Dict) (uuid fresh : String) (stamp : Stamp)
    (later : fresh ≠ "") (present : sender.name ≠ "") (user : userId ≠ "") :
    eventFromEnvelope str fresh (sender.wire str stamp (.event (sender.own "ASSIGNS" uuid "assigns:update"
        (.object [("userId", .string userId), ("assigns", dictJson assigns)])) "assigns:update")) =
      some (Event.plain "ASSIGNS" sender.name fresh "assigns:update"
        (.object [("userId", .string userId), ("assigns", dictJson assigns)]) sender.nodeId) := by
  have request : textOr str (index (.object [("userId", .string userId), ("assigns", dictJson assigns)]) "requestId") fresh =
      fresh := by
    simp [textOr, findEntry, truthy]
  rw [assigns_bytes, event_from_bytes, request]
  simp only [eventOf, payloadOr, entryOf, distributedBytes, headEntries, cons_append, nil_append, index_object,
    findEntry, String.reduceEq, if_false, if_true, getD_some, getD_none, append_nil,
    bind_some, or_else_string user, or_else_dict]
  exact Event.checked_complete _ (show "ASSIGNS" ≠ "" by decide) present later (show "assigns:update" ≠ "" by decide)

variable {stamp : Stamp} {uuid : String}

variable {eventType : PresenceEventTypes} {snapshot : List Json}

theorem presence_bytes {presence : Dict} (user : userId ≠ "") (kept : eventType ≠ .leave) :
    sender.wire str stamp (.event { sender.own "PRESENCE" uuid eventType.value
        (.object [("presence", .array snapshot), ("changed", dictJson presence)]) with userId := userId }
        eventType.subtype) =
      distributedBytes stamp .presenceUpdate sender.nodeId sender.cleanEndpoint sender.name
        [("userId", .string userId), ("presence", dictJson presence)] := by
  have kind : messageType { sender.own "PRESENCE" uuid eventType.value
      (.object [("presence", .array snapshot), ("changed", dictJson presence)]) with userId := userId }
      eventType.subtype = .presenceUpdate := by
    cases eventType with
    | leave => exact absurd rfl kept
    | join | update => rfl
  have about : Event.presenceUser str { sender.own "PRESENCE" uuid eventType.value
      (.object [("presence", .array snapshot), ("changed", dictJson presence)]) with userId := userId } = userId :=
    if_pos user
  have changed : Event.changed { sender.own "PRESENCE" uuid eventType.value
      (.object [("presence", .array snapshot), ("changed", dictJson presence)]) with userId := userId } =
        dictJson presence := rfl
  simp only [wire, Event.toBytes, kind, Event.bodyEntries, about, changed, as_dict_dict]
  rfl

theorem presence_decoded (presence : Dict) (uuid : String) {fresh : String} (snapshot : List Json) (stamp : Stamp)
    (strings : ∀ text, str (.string text) = text) (later : fresh ≠ "") (present : sender.name ≠ "") (user : userId ≠ "")
    (kept : eventType ≠ .leave) :
    eventFromEnvelope str fresh (sender.wire str stamp (.event { sender.own "PRESENCE" uuid eventType.value
        (.object [("presence", .array snapshot), ("changed", dictJson presence)]) with userId := userId }
        eventType.subtype)) =
      some { Event.plain "PRESENCE" sender.name fresh "UPDATE"
        (.object [("presence", .array []), ("changed", dictJson presence)]) sender.nodeId with userId := userId } := by
  have request : textOr str (index (.object [("userId", .string userId), ("presence", dictJson presence)]) "requestId") fresh =
      fresh := by
    simp [textOr, findEntry, truthy]
  have named := text_or_text str strings "" user
  have update : textOr str .null "UPDATE" = "UPDATE" := rfl
  rw [sender.presence_bytes str userId user kept, event_from_bytes, request]
  simp only [eventOf, payloadOr, distributedBytes, headEntries, cons_append, nil_append, index_object,
    findEntry, String.reduceEq, if_false, if_true, getD_some, getD_none,
    bind_some, named, update, or_else_dict]
  exact Event.checked_complete _ (show "PRESENCE" ≠ "" by decide) present later (show "UPDATE" ≠ "" by decide)

theorem removed_bytes {old : Dict} (user : userId ≠ "") :
    sender.wire str stamp (.event { sender.own "PRESENCE" uuid PresenceEventTypes.leave.value
        (.object [("presence", .array snapshot), ("changed", dictJson old)]) with userId := userId }
        PresenceEventTypes.leave.subtype) =
      distributedBytes stamp .presenceRemoved sender.nodeId sender.cleanEndpoint sender.name
        [("userId", .string userId)] := by
  have kind : messageType { sender.own "PRESENCE" uuid PresenceEventTypes.leave.value
      (.object [("presence", .array snapshot), ("changed", dictJson old)]) with userId := userId }
      PresenceEventTypes.leave.subtype = .presenceRemoved := rfl
  have about : Event.presenceUser str { sender.own "PRESENCE" uuid PresenceEventTypes.leave.value
      (.object [("presence", .array snapshot), ("changed", dictJson old)]) with userId := userId } = userId :=
    if_pos user
  simp only [wire, Event.toBytes, kind, Event.bodyEntries, about]
  rfl

theorem removed_decoded (old : Dict) (uuid fresh : String)
    (snapshot : List Json) (stamp : Stamp) (strings : ∀ text, str (.string text) = text)
    (later : fresh ≠ "") (present : sender.name ≠ "") (user : userId ≠ "") :
    eventFromEnvelope str fresh (sender.wire str stamp (.event { sender.own "PRESENCE" uuid PresenceEventTypes.leave.value
        (.object [("presence", .array snapshot), ("changed", dictJson old)]) with userId := userId }
        PresenceEventTypes.leave.subtype)) =
      some { Event.plain "PRESENCE" sender.name fresh "LEAVE"
        (.object [("presence", .array []), ("changed", .object [("userId", .string userId)])]) sender.nodeId with
        userId := userId } := by
  have request : textOr str (index (.object [("userId", .string userId)]) "requestId") fresh = fresh := by
    simp [textOr, findEntry, truthy]
  have named := text_or_text str strings "" user
  rw [sender.removed_bytes str userId user, event_from_bytes, request]
  simp only [eventOf, payloadOr, distributedBytes, headEntries, cons_append, nil_append, index_object,
    findEntry, String.reduceEq, if_false, if_true, getD_some, getD_none,
    bind_some, named, or_else_string user]
  exact Event.checked_complete _ (show "PRESENCE" ≠ "" by decide) present later (show "LEAVE" ≠ "" by decide)

-- The reason of a removal is not sent.
def commandExtra (evict : Bool) (userId : UserId) (reason : String) : List (String × Json) :=
  if evict then [("userId", .string userId), ("reason", .string reason)] else [("userId", .string userId)]

theorem command_bytes (evict : Bool) (userId : UserId) (reason uuid : String) (stamp : Stamp) :
    sender.wire str stamp (.event (sender.own "USER_COMMAND" uuid (if evict then "user:evict" else "user:remove")
        (.object [("userId", .string userId), ("reason", .string reason)]))
        (if evict then "user:evict" else "user:remove")) =
      distributedBytes stamp (if evict then .evictUser else .userRemove) sender.nodeId sender.cleanEndpoint sender.name
        (commandExtra evict userId reason) := by
  cases evict <;> rfl

theorem command_decoded (evict : Bool) (userId : UserId) (reason uuid fresh : String) (stamp : Stamp)
    (later : fresh ≠ "") (present : sender.name ≠ "") :
    ∃ given, eventFromEnvelope str fresh (sender.wire str stamp (.event
        (sender.own "USER_COMMAND" uuid (if evict then "user:evict" else "user:remove")
          (.object [("userId", .string userId), ("reason", .string reason)]))
        (if evict then "user:evict" else "user:remove"))) =
      some (Event.plain "USER_COMMAND" sender.name fresh (if evict then "user:evict" else "user:remove")
        (.object [("userId", orElse (.string userId) (.string "")), ("reason", given)]) sender.nodeId) := by
  cases evict with
  | true =>
    refine ⟨orElse (.string reason) (.string ""), ?_⟩
    exact Event.checked_complete _ (show "USER_COMMAND" ≠ "" by decide) present later (show "user:evict" ≠ "" by decide)
  | false =>
    refine ⟨orElse .null (.string ""), ?_⟩
    exact Event.checked_complete _ (show "USER_COMMAND" ≠ "" by decide) present later (show "user:remove" ≠ "" by decide)

theorem bytes_heard (receiver : Channel) {sender : Channel} (moment : Moment) (stamp : Stamp) (named : sender.name = receiver.name)
    (foreign : sender.nodeId ≠ receiver.nodeId) (active : receiver.active = true) (kind : MsgType)
    (extra : List (String × Json)) :
    receiver.handlePubsubMessage str moment
        (distributedBytes stamp kind sender.nodeId sender.cleanEndpoint sender.name extra) =
      receiver.handleMessage str moment sender.nodeId
        (distributedBytes stamp kind sender.nodeId sender.cleanEndpoint sender.name extra) kind := by
  rw [named, handle_bytes str receiver foreign, if_pos active]

variable {moment : Moment}

theorem command_heard {receiver sender : Channel} {evict : Bool} {userId : UserId} {reason : String}
    (named : sender.name = receiver.name) (present : receiver.name ≠ "") (foreign : sender.nodeId ≠ receiver.nodeId)
    (active : receiver.active = true) :
    ∃ event, receiver.handlePubsubMessage str moment (sender.wire str stamp (.event
        (sender.own "USER_COMMAND" uuid (if evict then "user:evict" else "user:remove")
          (.object [("userId", .string userId), ("reason", .string reason)]))
        (if evict then "user:evict" else "user:remove"))) = receiver.handleRemoteUserCommand str moment event := by
  obtain ⟨given, decoded⟩ := command_decoded str sender evict userId reason uuid moment.uuid stamp moment.drawn (named ▸ present)
  refine ⟨Event.plain "USER_COMMAND" sender.name moment.uuid (if evict then "user:evict" else "user:remove")
    (.object [("userId", orElse (.string userId) (.string "")), ("reason", given)]) sender.nodeId, ?_⟩
  rw [command_bytes] at decoded ⊢
  rw [receiver.bytes_heard str moment stamp named foreign active]
  cases evict with
  | true =>
    simp only [if_true] at decoded ⊢
    simp only [handleMessage, decoded]
    rfl
  | false =>
    simp only [handleMessage, decoded]
    rfl

theorem table_heard {receiver sender : Channel} {message : Message} {publication : Publication}
    (strings : ∀ text, str (.string text) = text) (told : Told sender message publication)
    (table : message.isTable = true) (named : sender.name = receiver.name) (present : receiver.name ≠ "")
    (foreign : sender.nodeId ≠ receiver.nodeId) (active : receiver.active = true)
    (apart : ∀ userId ∈ message.users, userId ≠ "" ∧ receiver.hasUser userId = false) :
    Hears receiver (receiver.handlePubsubMessage str moment (sender.wire str stamp publication)) fun userId row =>
      message.effect userId row := by
  have bytes := receiver.bytes_heard str moment stamp named foreign active
  cases told with
  | stateRequest | command => cases table
  | userJoined userId =>
    obtain ⟨some, away⟩ := apart userId (mem_singleton_self _)
    simp only [wire, bytes]
    apply receiver.joined_heard str strings _ _ _ some away
    all_goals
      rw [index_body]
      · rfl
      · decide
  | userLeft userId =>
    obtain ⟨some, away⟩ := apart userId (mem_singleton_self _)
    simp only [wire, bytes]
    apply receiver.left_heard str strings _ some away
    rw [index_body]
    · rfl
    · decide
  | stateResponse =>
    simp only [wire, bytes, handleMessage, handleStateResponse]
    apply receiver.response_heard str strings
    intro user member
    exact apart user.1 (mem_map_of_mem member)
  | assignsUpdate userId assigns uuid drawn =>
    obtain ⟨some, away⟩ := apart userId (mem_singleton_self _)
    have decoded := assigns_decoded str sender userId assigns uuid moment.uuid stamp moment.drawn (named ▸ present) some
    rw [assigns_bytes] at decoded ⊢
    rw [bytes]
    simp only [handleMessage, decoded]
    exact receiver.assigns_heard str strings rfl some
  | presenceUpdate userId presence uuid drawn _ kept snapshot =>
    obtain ⟨some, away⟩ := apart userId (mem_singleton_self _)
    have decoded := presence_decoded str sender userId presence uuid snapshot stamp strings moment.drawn
      (named ▸ present) some kept
    rw [presence_bytes str sender userId some kept] at decoded ⊢
    rw [bytes]
    simp only [handleMessage, decoded]
    exact receiver.presence_heard str moment.room _ userId presence rfl rfl (show "UPDATE" ≠ "LEAVE" by decide) some
  | presenceRemoved userId old uuid drawn snapshot =>
    obtain ⟨some, _⟩ := apart userId (mem_singleton_self _)
    have decoded := removed_decoded str sender userId old uuid moment.uuid snapshot stamp strings moment.drawn
      (named ▸ present) some
    rw [removed_bytes str sender userId some] at decoded ⊢
    rw [bytes]
    simp only [handleMessage, decoded]
    exact receiver.removed_heard str moment.room (.ofList [("userId", .string userId)]) rfl rfl rfl some

end Channel

end

end PondSocket.Python
