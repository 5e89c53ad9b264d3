import PondSocket.Rust.Remote

namespace PondSocket.Rust

open Library Channel
open Js (Json UserId NodeId)
open Go (MsgType asString asMap asSlice)

-- What a channel publishes: each form of event with what it is built from. An
-- assigns update carries the table that has the key set.
inductive Announcement where
  | message (event : String) (payload : Json)
  | messageTo (event : String) (payload : Json) (userIds : List UserId)
  | messageFrom (event : String) (payload : Json) (senderId : UserId)
  | presence (eventType : PresenceEventType) (userId : UserId) (changed : Table)
  | assigns (userId : UserId) (key : String) (value : Json) (assigns : Table)
  | evict (userId : UserId) (reason : String)
  | remove (userId : UserId) (reason : String)
  | userGetRequest (userId : UserId)
  | userGetResponse (userId : UserId) (assigns presence : Table)
  | userJoined (userId : UserId) (assigns : Table)
  | userLeft (userId : UserId)
  | stateRequest
  | stateResponse (users : List Json)

def Channel.publication (channel : Channel) (uuid : String) : Announcement → Publication
  | .message event payload => ⟨channel.own "BROADCAST" uuid event payload, "message"⟩
  | .messageTo event payload userIds =>
    ⟨{ channel.own "BROADCAST" uuid event payload with recipients := userIds }, "message"⟩
  | .messageFrom event payload senderId =>
    ⟨{ channel.own "BROADCAST" uuid event payload with
      recipientDescriptor := "ALL_EXCEPT_SENDER"
      fromUserId := senderId }, "message"⟩
  | .presence eventType userId changed => ⟨channel.presenceChange uuid userId eventType changed, eventType.subtype⟩
  | .assigns userId key value assigns =>
    ⟨channel.assignUpdate uuid userId key value (assigns.set key value), "assigns:update"⟩
  | .evict userId reason => ⟨channel.userCommand uuid "user:evict" userId reason, "user:evict"⟩
  | .remove userId reason => ⟨channel.userCommand uuid "user:remove" userId reason, "user:remove"⟩
  | .userGetRequest userId => ⟨channel.userGetRequest uuid userId, "user:get_request"⟩
  | .userGetResponse userId assigns presence =>
    ⟨channel.userGetResponse userId uuid assigns presence, "user:get_response"⟩
  | .userJoined userId assigns => ⟨channel.userJoined uuid userId assigns, "user:joined"⟩
  | .userLeft userId => ⟨channel.userLeft uuid userId, "user:left"⟩
  | .stateRequest => ⟨channel.stateRequest uuid, "state:request"⟩
  | .stateResponse users => ⟨channel.stateResponse uuid users, "state:response"⟩

def AlikeTables (left right : Option Table) : Prop :=
  left.isSome = right.isSome ∧ ∀ key, left.bind (fun table => table.get? key) = right.bind fun table => table.get? key

structure Channel.SameEffect (left right : Channel) : Prop where
  connections : left.connections = right.connections
  assigns : ∀ userId, AlikeTables (left.assigns.get? userId) (right.assigns.get? userId)
  presence : ∀ userId, AlikeTables (left.presence.get? userId) (right.presence.get? userId)
  nodeUsers : left.nodeUsers = right.nodeUsers
  addressed : left.dispatched.map DispatchItem.recipients = right.dispatched.map DispatchItem.recipients
  direct : left.direct = right.direct
  published : left.published = right.published
  departures : left.departures = right.departures

-- Where the receiver ends with what the event itself would have done there.
def Announcement.KeepsEffect (receiver : Channel) (room : Bool) : Announcement → Prop
  | .messageFrom _ _ senderId =>
    senderId ≠ "" ∨ room = false ∨ receiver.hasUser "" = false ∧ receiver.hasUser "CHANNEL" = false
  | .presence .leave userId changed =>
    (∃ text, (Channel.orInsertUserId changed userId).get? "userId" = some (.string text)) ∨ receiver.presence.has "" = false
  | .assigns userId key _ table =>
    ∀ current, receiver.assigns.get? userId = some current →
      ∀ other value, other ≠ key → table.get? other = some value → current.get? other = some value
  | .remove userId reason => receiver.hasUser userId = true → reason = "remote command"
  | _ => True

variable {stamp : Stamp}

namespace Event

theorem get_body {event : Event} {subtype endpoint key : String}
    (body : key ∉ ["protocol", "version", "type", "messageId", "sourceNodeId", "endpointName", "channelName",
      "timestamp"]) :
    get (event.toBytes stamp subtype endpoint) key =
      OrderedMap.findEntry key (event.bodyEntries (messageType event subtype)) := by
  simp only [List.mem_cons, List.not_mem_nil, or_false, not_or] at body
  simp [toBytes, headEntries, OrderedMap.findEntry, body]

theorem from_to_bytes (event : Event) (stamp : Stamp) (subtype endpoint uuid : String) :
    fromBytes uuid (event.toBytes stamp subtype endpoint) =
      eventOf (event.toBytes stamp subtype endpoint) event.channelName
        ((getStr (event.toBytes stamp subtype endpoint) "requestId").getD uuid) event.nodeId
        (messageType event subtype) := by
  have head : ∀ key value, OrderedMap.findEntry key (event.headEntries stamp (messageType event subtype) endpoint) =
      some value → get (event.toBytes stamp subtype endpoint) key = some value := by
    intro key value found
    rw [toBytes, get_object, OrderedMap.find_append, found]
    rfl
  have version : asI64 (.number 1) = some 1 := by decide
  simp only [fromBytes, getStr, head "protocol" _ rfl, head "version" _ rfl, head "type" _ rfl,
    head "channelName" _ rfl, head "sourceNodeId" _ rfl, Option.bind_some, asString, version, MsgType.of_text,
    Option.bind_eq_bind]
  rfl

end Event

def Channel.decoded (channel : Channel) (uuid fresh : String) : Announcement → Event
  | .message event payload =>
    { channel.own "BROADCAST" uuid event payload with fromUserId := "CHANNEL", recipientDescriptor := "ALL_USERS" }
  | .messageTo event payload userIds =>
    { channel.own "BROADCAST" uuid event payload with
      recipients := userIds
      fromUserId := "CHANNEL"
      recipientDescriptor := if userIds.isEmpty then "ALL_USERS" else "" }
  | .messageFrom event payload senderId =>
    { channel.own "BROADCAST" uuid event payload with
      recipientDescriptor := "ALL_EXCEPT_SENDER"
      fromUserId := if senderId = "" then "CHANNEL" else senderId }
  | .presence .leave userId changed =>
    channel.own "PRESENCE" fresh "LEAVE" (.object [("presence", .array []),
      ("changed", .object [("userId",
        .string ((((orInsertUserId changed userId).get? "userId").bind asString).getD ""))])])
  | .presence _ userId changed =>
    channel.own "PRESENCE" fresh "UPDATE" (.object [("presence", .array []),
      ("changed", tableJson (orInsertUserId changed userId))])
  | .assigns userId key value assigns =>
    channel.own "ASSIGNS" fresh "assigns:update" (.object [("userId", .string userId), ("key", .null),
      ("value", .null), ("assigns", tableJson (assigns.set key value))])
  | .evict userId reason => channel.userCommand fresh "user:evict" userId reason
  | .remove userId _ => channel.own "USER_COMMAND" fresh "user:remove" (.object [("userId", .string userId)])
  | .userGetRequest userId => channel.userGetRequest uuid userId
  | .userGetResponse userId assigns presence => channel.userGetResponse userId uuid assigns presence
  | .userJoined userId assigns => channel.userJoined fresh userId assigns
  | .userLeft userId => channel.userLeft fresh userId
  | .stateRequest => channel.stateRequest fresh
  | .stateResponse users => channel.stateResponse fresh users

theorem filter_strings (items : List String) : (items.map Json.string).filterMap asString = items := by
  induction items with
  | nil => rfl
  | cons item _ ih => exact congrArg (List.cons item) ih

variable {userId : UserId} {changed : Table}

theorem has_user_id : (Channel.orInsertUserId changed userId).has "userId" = true := by
  rw [Channel.orInsertUserId]
  split
  · assumption
  · exact OrderedMap.has_set.mpr (.inl rfl)

theorem with_user_id (table : Table) (userId : Json) (present : table.has "userId" = true) :
    withUserId (tableJson table) userId = tableJson table := by
  exact if_pos present

def Announcement.kind : Announcement → MsgType
  | .message _ _ | .messageTo _ _ _ | .messageFrom _ _ _ => .userMessage
  | .presence .leave _ _ => .presenceRemoved
  | .presence _ _ _ => .presenceUpdate
  | .assigns _ _ _ _ => .assignsUpdate
  | .evict _ _ => .evictUser
  | .remove _ _ => .userRemove
  | .userGetRequest _ => .userGetRequest
  | .userGetResponse _ _ _ => .userGetResponse
  | .userJoined _ _ => .userJoined
  | .userLeft _ => .userLeft
  | .stateRequest => .stateRequest
  | .stateResponse _ => .stateResponse

theorem publication_type (channel : Channel) (uuid : String) (said : Announcement) :
    messageType (channel.publication uuid said).event (channel.publication uuid said).subtype = said.kind := by
  cases said with
  | presence eventType =>
    cases eventType with
    | join => exact if_neg (by decide : ¬ ("remove".toList.isSuffixOf "presence:join".toList ∨ "JOIN" = "LEAVE"))
    | leave => exact if_pos (Or.inr rfl : "remove".toList.isSuffixOf "presence:leave".toList ∨ "LEAVE" = "LEAVE")
    | update =>
      exact if_neg (by decide : ¬ ("remove".toList.isSuffixOf "presence:update".toList ∨ "UPDATE" = "LEAVE"))
  | _ => rfl

theorem event_of_body (channel : Channel) (uuid fresh : String) (said : Announcement) (data : Json)
    (body : ∀ key, key ∉ ["protocol", "version", "type", "messageId", "sourceNodeId", "endpointName", "channelName",
      "timestamp"] →
      get data key = OrderedMap.findEntry key ((channel.publication uuid said).event.bodyEntries said.kind)) :
    eventOf data channel.name ((getStr data "requestId").getD fresh) channel.nodeId said.kind =
      some (channel.decoded uuid fresh said) := by
  cases said with
  | message =>
    simp [Announcement.kind, eventOf, getStr, getOr, body, Event.bodyEntries, OrderedMap.findEntry, asString, asSlice,
      Channel.decoded, Channel.publication, Channel.own, Event.new, Event.descriptor]
  | messageTo _ _ userIds =>
    cases userIds with
    | nil =>
      simp [Announcement.kind, eventOf, getStr, getOr, body, Event.bodyEntries, OrderedMap.findEntry, asString,
        asSlice, Channel.decoded, Channel.publication, Channel.own, Event.new, Event.descriptor]
    | cons first rest =>
      have read := filter_strings (first :: rest)
      simp only [List.map_cons] at read
      simp [Announcement.kind, eventOf, getStr, getOr, body, Event.bodyEntries, OrderedMap.findEntry, asString,
        asSlice, Channel.decoded, Channel.publication, Channel.own, Event.new, Event.descriptor, read]
  | messageFrom _ _ senderId =>
    simp [Announcement.kind, eventOf, getStr, getOr, body, Event.bodyEntries, OrderedMap.findEntry, asString, asSlice,
      Channel.decoded, Channel.publication, Channel.own, Event.new, Event.descriptor]
    by_cases nobody : senderId = "" <;> simp [nobody]
  | presence eventType _ changed =>
    cases eventType with
    | leave =>
      simp [Announcement.kind, eventOf, getStr, getOr, body, Event.bodyEntries, OrderedMap.findEntry,
        Channel.decoded, Channel.publication, Channel.own, Event.new, Channel.presenceChange, tableJson]
      rfl
    | join | update =>
      simp [Announcement.kind, eventOf, getStr, getOr, body, Event.bodyEntries, OrderedMap.findEntry,
        Channel.decoded, Channel.publication, Channel.own, Event.new, Channel.presenceChange, Event.changed,
        with_user_id, has_user_id]
  | _ =>
    simp [Announcement.kind, eventOf, getStr, getOr, body, Event.bodyEntries, Event.field, OrderedMap.findEntry,
      asString, Channel.decoded, Channel.publication, Channel.own, Event.new, Channel.userCommand,
      Channel.assignUpdate, Channel.userGetRequest, Channel.userGetResponse, Channel.userJoined, Channel.userLeft,
      Channel.stateRequest, Channel.stateResponse]

variable {sender : Channel} {uuid : String} {said : Announcement}

theorem decode_announced {fresh : String} :
    fromBytes fresh (sender.wire stamp (sender.publication uuid said)) = some (sender.decoded uuid fresh said) := by
  have own : (sender.publication uuid said).event.channelName = sender.name ∧
      (sender.publication uuid said).event.nodeId = sender.nodeId := by
    cases said <;> exact ⟨rfl, rfl⟩
  rw [Channel.wire, Event.from_to_bytes, publication_type, own.1, own.2]
  apply event_of_body
  intro key body
  rw [Event.get_body body, publication_type]

theorem decoded_sender (sender : Channel) (uuid fresh : String) (said : Announcement) :
    (sender.decoded uuid fresh said).nodeId = sender.nodeId ∧
      (sender.decoded uuid fresh said).channelName = sender.name := by
  cases said with
  | presence eventType => cases eventType <;> exact ⟨rfl, rfl⟩
  | _ => exact ⟨rfl, rfl⟩

variable {receiver : Channel} {moment : Moment}

theorem handle_announced (named : sender.name = receiver.name)
    (apart : ¬ (sender.nodeId ≠ "" ∧ sender.nodeId = receiver.nodeId)) :
    receiver.handlePubsubMessage moment (sender.wire stamp (sender.publication uuid said)) =
      receiver.dispatchPubsubEvent moment (sender.decoded uuid moment.uuid said) := by
  obtain ⟨node, channel⟩ := decoded_sender sender uuid moment.uuid said
  rw [Channel.handlePubsubMessage, decode_announced]
  simp only [node, channel]
  rw [if_neg apart, if_neg (not_not.mpr named)]

theorem handle_own (identified : sender.nodeId ≠ "") (same : sender.nodeId = receiver.nodeId) :
    receiver.handlePubsubMessage moment (sender.wire stamp (sender.publication uuid said)) = receiver := by
  rw [Channel.handlePubsubMessage, decode_announced]
  simp only [(decoded_sender sender uuid moment.uuid said).1]
  rw [if_pos ⟨identified, same⟩]

namespace Channel

def received (receiver sender next : Channel) (moment : Moment) (stamp : Stamp) : Channel :=
  (next.published.drop sender.published.length).foldl
    (fun receiver publication => receiver.handlePubsubMessage moment (sender.wire stamp publication)) receiver

theorem alike_refl (table : Option Table) : AlikeTables table table := ⟨rfl, fun _ => rfl⟩

theorem alike_symm {left right : Option Table} (alike : AlikeTables left right) : AlikeTables right left :=
  ⟨alike.1.symm, fun key => (alike.2 key).symm⟩

theorem same_refl (channel : Channel) : channel.SameEffect channel :=
  ⟨rfl, fun _ => alike_refl _, fun _ => alike_refl _, rfl, rfl, rfl, rfl, rfl⟩

theorem same_dispatch_iff {room : Bool} {first second : Event} {left right : List UserId} :
    (receiver.dispatchLocalBestEffort room first left).SameEffect (receiver.dispatchLocalBestEffort room second right) ↔
      room = false ∨ left = right := by
  constructor
  · intro same
    have addressed := same.addressed
    rw [recipients_dispatched, recipients_dispatched] at addressed
    cases room with
    | false => exact .inl rfl
    | true =>
      right
      cases left <;> cases right <;> simp_all
  · intro alike
    have addressed : (receiver.dispatchLocalBestEffort room first left).dispatched.map DispatchItem.recipients =
        (receiver.dispatchLocalBestEffort room second right).dispatched.map DispatchItem.recipients := by
      rw [recipients_dispatched, recipients_dispatched]
      rcases alike with full | same
      · simp [full]
      · rw [same]
    rw [dispatch_frame, dispatch_frame receiver room second]
    exact ⟨rfl, fun _ => alike_refl _, fun _ => alike_refl _, rfl, addressed, rfl, rfl, rfl⟩

theorem filter_apart (ids : List UserId) (left right : UserId) :
    ids.filter (fun id => decide (id ≠ left)) = ids.filter (fun id => decide (id ≠ right)) ↔
      left = right ∨ left ∉ ids ∧ right ∉ ids := by
  constructor
  · intro same
    have agree : ∀ id, id ∈ ids → (id ≠ left ↔ id ≠ right) := by
      intro id member
      have listed : id ∈ ids.filter (fun id => decide (id ≠ left)) ↔ id ∈ ids.filter (fun id => decide (id ≠ right)) := by
        rw [same]
      simpa [member] using listed
    by_cases equal : left = right
    · exact .inl equal
    refine .inr ⟨fun member => ?_, fun member => ?_⟩
    · exact (agree left member).mpr equal rfl
    · exact (agree right member).mp (Ne.symm equal) rfl
  · rintro (rfl | ⟨leftAbsent, rightAbsent⟩)
    · rfl
    · apply List.filter_congr
      intro id member
      have first : id ≠ left := fun eq => leftAbsent (eq ▸ member)
      have second : id ≠ right := fun eq => rightAbsent (eq ▸ member)
      simp [first, second]

theorem absent_iff (channel : Channel) (userId : UserId) :
    userId ∉ channel.connections.keys ↔ channel.hasUser userId = false := by
  rw [OrderedMap.mem_keys, Bool.not_eq_true, hasUser]

theorem message_from_effect {event : String} {payload : Json} {senderId : UserId} :
    (receiver.dispatchPubsubEvent moment
        (sender.decoded uuid moment.uuid (.messageFrom event payload senderId))).SameEffect
      (receiver.dispatchPubsubEvent moment (sender.publication uuid (.messageFrom event payload senderId)).event) ↔
      senderId ≠ "" ∨ moment.room = false ∨ receiver.hasUser "" = false ∧ receiver.hasUser "CHANNEL" = false := by
  have read : receiver.dispatchPubsubEvent moment (sender.decoded uuid moment.uuid (.messageFrom event payload senderId)) =
      receiver.dispatchLocalBestEffort moment.room (sender.decoded uuid moment.uuid (.messageFrom event payload senderId))
        (receiver.connections.keys.filter fun id => decide (id ≠ if senderId = "" then "CHANNEL" else senderId)) := rfl
  have meant : receiver.dispatchPubsubEvent moment (sender.publication uuid (.messageFrom event payload senderId)).event =
      receiver.dispatchLocalBestEffort moment.room (sender.publication uuid (.messageFrom event payload senderId)).event
        (receiver.connections.keys.filter fun id => decide (id ≠ senderId)) := rfl
  rw [read, meant, same_dispatch_iff, filter_apart, absent_iff, absent_iff]
  by_cases nobody : senderId = ""
  · subst nobody
    have different : "CHANNEL" ≠ "" := by decide
    simp [different, and_comm]
  · simp [nobody]

theorem same_presence_of_eq {first second : Event} (firstKind : first.action = "PRESENCE")
    (secondKind : second.action = "PRESENCE")
    (same : receiver.changedPresence first = receiver.changedPresence second) :
    (receiver.dispatchPubsubEvent moment first).SameEffect (receiver.dispatchPubsubEvent moment second) := by
  obtain ⟨_, firstDone⟩ := receiver.remote_presence_effect first firstKind
  obtain ⟨_, secondDone⟩ := receiver.remote_presence_effect second secondKind
  rw [firstDone, secondDone, same]
  exact same_dispatch_iff.mpr (.inr rfl)

theorem presence_effect {eventType : PresenceEventType} (stays : eventType ≠ .leave) :
    (receiver.dispatchPubsubEvent moment
        (sender.decoded uuid moment.uuid (.presence eventType userId changed))).SameEffect
      (receiver.dispatchPubsubEvent moment (sender.publication uuid (.presence eventType userId changed)).event) := by
  cases eventType with
  | leave => exact absurd rfl stays
  | join | update => exact same_presence_of_eq rfl rfl rfl

theorem presence_user_table {value : Json} (found : changed.get? "userId" = some value) :
    presenceUser changed = asString value := by
  rw [presenceUser, found]
  rfl

def leaveTarget (changed : Table) (userId : UserId) : UserId :=
  (((orInsertUserId changed userId).get? "userId").bind asString).getD ""

theorem read_leave (sender receiver : Channel) (uuid fresh : String) (userId : UserId) (changed : Table) :
    receiver.changedPresence (sender.decoded uuid fresh (.presence .leave userId changed)) =
      receiver.presence.delete (leaveTarget changed userId) := rfl

theorem leave_effect :
    (receiver.dispatchPubsubEvent moment (sender.decoded uuid moment.uuid (.presence .leave userId changed))).SameEffect
      (receiver.dispatchPubsubEvent moment (sender.publication uuid (.presence .leave userId changed)).event) ↔
      (∃ text, (orInsertUserId changed userId).get? "userId" = some (.string text)) ∨ receiver.presence.has "" = false := by
  obtain ⟨value, found⟩ := OrderedMap.has_iff.mp has_user_id
  have meant : receiver.changedPresence (sender.publication uuid (.presence .leave userId changed)).event =
      (asString value).elim receiver.presence receiver.presence.delete := by
    have table : (get (sender.publication uuid (.presence .leave userId changed)).event.payload "changed").bind asMap =
        some (orInsertUserId changed userId) := as_map_table
    rw [changedPresence, table, Option.getD_some, presence_user_table found]
    cases asString value <;> rfl
  have read : receiver.changedPresence (sender.decoded uuid moment.uuid (.presence .leave userId changed)) =
      receiver.presence.delete ((asString value).getD "") := by
    rw [read_leave, leaveTarget, found]
    rfl
  cases named : asString value with
  | some text =>
    have string : value = .string text := by
      cases value <;> simp_all [asString]
    rw [named] at meant read
    refine iff_of_true (same_presence_of_eq rfl rfl (read.trans meant.symm)) (.inl ⟨text, ?_⟩)
    rw [found, string]
  | none =>
    rw [named] at meant read
    have unnamed : ¬ ∃ text, (orInsertUserId changed userId).get? "userId" = some (.string text) := by
      rintro ⟨_, same⟩
      rw [found] at same
      cases same
      cases named
    constructor
    · intro same
      right
      have alike := (same.presence "").1
      obtain ⟨_, firstDone⟩ := receiver.remote_presence_effect
        (sender.decoded uuid moment.uuid (.presence .leave userId changed)) rfl
      obtain ⟨secondHanded, secondDone⟩ := receiver.remote_presence_effect
        (sender.publication uuid (.presence .leave userId changed)).event rfl
      rw [firstDone, secondDone, dispatch_frame, dispatch_frame _ _ secondHanded, read, meant] at alike
      simpa [OrderedMap.has] using alike
    · intro absent
      have none := absent.resolve_left unnamed
      exact same_presence_of_eq rfl rfl (read.trans ((OrderedMap.delete_absent none).trans meant.symm))

def withHeld (channel : Channel) (userId : UserId) (change : Table → Table) : Channel :=
  match channel.assigns.get? userId with
  | none => channel
  | some current => { channel with assigns := channel.assigns.set userId (change current) }

theorem assigns_effect {key : String} {value : Json} {assigns : Table} :
    (receiver.dispatchPubsubEvent moment
        (sender.decoded uuid moment.uuid (.assigns userId key value assigns))).SameEffect
      (receiver.dispatchPubsubEvent moment (sender.publication uuid (.assigns userId key value assigns)).event) ↔
      ∀ current, receiver.assigns.get? userId = some current →
        ∀ other value, other ≠ key → assigns.get? other = some value → current.get? other = some value := by
  have read : receiver.dispatchPubsubEvent moment (sender.decoded uuid moment.uuid (.assigns userId key value assigns)) =
      receiver.withHeld userId fun current => current.merge (.ofList (assigns.set key value).entries) := rfl
  have meant : receiver.dispatchPubsubEvent moment (sender.publication uuid (.assigns userId key value assigns)).event =
      receiver.withHeld userId fun current => current.set key value := rfl
  rw [read, meant]
  simp only [withHeld]
  cases held : receiver.assigns.get? userId with
  | none => simp [same_refl]
  | some current =>
    rw [OrderedMap.of_list_entries]
    constructor
    · intro same _ there other found different stored
      cases there
      have alike := (same.assigns userId).2 other
      simp only [OrderedMap.get_set_same, Option.bind_some] at alike
      rw [OrderedMap.get_merge, OrderedMap.get_set_other different, stored, Option.some_or,
        OrderedMap.get_set_other different] at alike
      exact alike.symm
    · intro agree
      refine ⟨rfl, fun query => ?_, fun _ => alike_refl _, rfl, rfl, rfl, rfl, rfl⟩
      by_cases same : query = userId
      · subst same
        refine ⟨by simp, fun other => ?_⟩
        simp only [OrderedMap.get_set_same, Option.bind_some]
        rw [OrderedMap.get_merge, OrderedMap.get_set, OrderedMap.get_set]
        by_cases changed : other = key
        · simp [changed]
        rw [if_neg changed, if_neg changed]
        cases stored : assigns.get? other with
        | none => exact Option.none_or
        | some found => rw [Option.some_or, agree current rfl other found changed stored]
      · simp only [OrderedMap.get_set_other same]
        exact alike_refl _

theorem remove_effect {reason : String} :
    (receiver.dispatchPubsubEvent moment (sender.decoded uuid moment.uuid (.remove userId reason))).SameEffect
      (receiver.dispatchPubsubEvent moment (sender.publication uuid (.remove userId reason)).event) ↔
      (receiver.hasUser userId = true → reason = "remote command") := by
  have read : receiver.dispatchPubsubEvent moment (sender.decoded uuid moment.uuid (.remove userId reason)) =
      if receiver.hasUser userId then receiver.removeUser moment userId "remote command" else receiver := rfl
  have meant : receiver.dispatchPubsubEvent moment (sender.publication uuid (.remove userId reason)).event =
      if receiver.hasUser userId then receiver.removeUser moment userId reason else receiver := rfl
  rw [read, meant]
  cases here : receiver.hasUser userId with
  | false => simp [same_refl]
  | true =>
    simp only [if_true, forall_const]
    constructor
    · intro same
      have logs := same.departures
      simp only [removeUser, show receiver.connections.has userId = true from here] at logs
      simpa [eq_comm] using logs
    · rintro rfl
      exact same_refl _

end Channel

theorem effect_iff :
    (receiver.dispatchPubsubEvent moment (sender.decoded uuid moment.uuid said)).SameEffect
      (receiver.dispatchPubsubEvent moment (sender.publication uuid said).event) ↔
      said.KeepsEffect receiver moment.room := by
  cases said with
  | message => exact iff_of_true (Channel.same_dispatch_iff.mpr (.inr rfl)) trivial
  | messageTo _ _ userIds =>
    apply iff_of_true _ trivial
    cases userIds <;> exact Channel.same_dispatch_iff.mpr (.inr rfl)
  | messageFrom => exact message_from_effect
  | presence eventType =>
    cases eventType with
    | leave => exact leave_effect
    | join | update => exact iff_of_true (presence_effect (by decide)) trivial
  | assigns => exact assigns_effect
  | remove => exact remove_effect
  | _ => exact iff_of_true (Channel.same_refl _) trivial

-- The event that is read back does what the published one would have done, for
-- each form exactly where the condition above holds.
theorem round_trip_iff (sender receiver : Channel) (moment : Moment) (stamp : Stamp) (uuid : String)
    (said : Announcement) :
    ∃ decoded, fromBytes moment.uuid (sender.wire stamp (sender.publication uuid said)) = some decoded ∧
      ((receiver.dispatchPubsubEvent moment decoded).SameEffect
          (receiver.dispatchPubsubEvent moment (sender.publication uuid said).event) ↔
        said.KeepsEffect receiver moment.room) :=
  ⟨_, decode_announced, effect_iff⟩

def codecMoment : Moment := ⟨0, "fresh", true⟩

def codecReceiver : Channel :=
  { Channel.new "/room" "/ws" "b" true with
    assigns := OrderedMap.empty.set "alice" (OrderedMap.empty.set "role" (.string "admin")) }

def codecUpdate : Announcement := .assigns "alice" "color" (.string "red") (OrderedMap.empty.set "role" (.string "guest"))

theorem delta_dropped :
    ∃ decoded, fromBytes "fresh" ((Channel.new "/room" "/ws" "a" true).wire ⟨"m", 0⟩
        ((Channel.new "/room" "/ws" "a" true).publication "id" codecUpdate)) = some decoded ∧
      ¬ (codecReceiver.dispatchPubsubEvent codecMoment decoded).SameEffect
        (codecReceiver.dispatchPubsubEvent codecMoment
          ((Channel.new "/room" "/ws" "a" true).publication "id" codecUpdate).event) := by
  refine ⟨_, decode_announced, fun same => ?_⟩
  have kept := effect_iff.mp same
  have admin := kept (OrderedMap.empty.set "role" (.string "admin")) rfl "role" (.string "guest") (by decide) rfl
  exact absurd (Json.string.inj (Option.some.inj admin) : "admin" = "guest") (by decide)

end PondSocket.Rust
