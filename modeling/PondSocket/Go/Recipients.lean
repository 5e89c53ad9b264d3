import PondSocket.Go.Remote

namespace PondSocket.Js

open Library

theorem find_parsed (fields : List (String × Json)) (key : String) :
    OrderedMap.findEntry key (parseFields fields) = (OrderedMap.findEntry key fields).map Json.parse := by
  induction fields with
  | nil => rfl
  | cons entry _ ih =>
    obtain ⟨other, _⟩ := entry
    by_cases same : key = other <;> simp [parseFields, OrderedMap.findEntry, same, ih]

theorem equals_iff (value : JsValue) (text : String) : value.equals text = true ↔ value = .string text := by
  cases value <;> simp [JsValue.equals]

theorem parse_string (value : Json) (text : String) : value.parse = .string text ↔ value = .string text := by
  cases value <;> simp [Json.parse]

theorem parse_items (items : List Json) : parseItems items = items.map Json.parse := by
  induction items with
  | nil => rfl
  | cons _ _ ih => rw [parseItems, List.map_cons, ih]

namespace ChannelEngine

def JoinedHere (engine : ChannelEngine) (userId : UserId) : Prop :=
  userId ∈ engine.users ∧ ∃ subscriber ∈ engine.publisher.observers.values, subscriber.userId = userId

def messageAudience (engine : ChannelEngine) (message : JsValue) : List UserId :=
  (engine.publisher.observers.values.filter fun subscriber =>
    (engine.namedRecipients message).contains subscriber.userId).map Subscriber.userId

end ChannelEngine

end PondSocket.Js

namespace PondSocket.Go

open Library
open Js (Json JsValue UserId NodeId ChannelEngine)

variable {data : Json}

theorem parsed_field {key : String} :
    data.parse.field key = (index data key).parse ∨ index data key = .null ∧ data.parse.field key = .undefined := by
  cases data with
  | object fields =>
    simp only [Json.parse, JsValue.field, index, Js.find_parsed]
    cases OrderedMap.findEntry key fields with
    | none => exact .inr ⟨rfl, rfl⟩
    | some => exact .inl rfl
  | null | bool value | number value | string value | array items => exact .inr ⟨rfl, rfl⟩

theorem mem_string_items (items : List Json) (text : String) : text ∈ stringItems items ↔ .string text ∈ items := by
  rw [stringItems, List.mem_filterMap]
  constructor
  · rintro ⟨item, member, read⟩
    cases item with
    | string =>
      cases read
      exact member
    | _ => cases read
  · intro member
    exact ⟨.string text, member, rfl⟩

theorem string_field_read {key text : String} (read : stringField data key = some text) :
    text = (asString (index data key)).getD "" ∧ (index data key = .null ∨ ∃ text, index data key = .string text) := by
  unfold stringField at read
  cases value : index data key with
  | null =>
    rw [value] at read
    exact ⟨(Option.some.inj read).symm, .inl rfl⟩
  | string other =>
    rw [value] at read
    exact ⟨(Option.some.inj read).symm, .inr ⟨other, rfl⟩⟩
  | bool | number | array | object =>
    rw [value] at read
    cases read

variable {env : DistributedEnvelope}

theorem decoded_message (accepted : decodeEnvelope data = some env) :
    env.recipientDescriptor = index data "recipientDescriptor" ∧ stringField data "fromUserId" = some env.fromUserId := by
  iterate 8 obtain ⟨_, _, accepted⟩ := Option.bind_eq_some_iff.mp accepted
  obtain ⟨_, read, rest⟩ := Option.bind_eq_some_iff.mp accepted
  iterate 9 obtain ⟨_, _, rest⟩ := Option.bind_eq_some_iff.mp rest
  split at rest
  · cases rest
  · cases rest
    exact ⟨rfl, read⟩

def Addresses (descriptor sender : Json) (userId : UserId) : Prop :=
  match descriptor with
  | .string text => text = "ALL_USERS" ∨ text = "ALL_EXCEPT_SENDER" ∧ sender ≠ .string userId
  | .array items => .string userId ∈ items
  | _ => False

theorem named_iff {engine : ChannelEngine} {userId : UserId} :
    userId ∈ engine.namedRecipients data.parse ↔
      userId ∈ engine.users ∧ Addresses (index data "recipientDescriptor") (index data "fromUserId") userId := by
  have sender : data.parse.field "fromUserId" = .string userId ↔ index data "fromUserId" = .string userId := by
    rcases parsed_field with same | ⟨absent, missing⟩
    · rw [same, Js.parse_string]
    · simp [absent, missing]
  have nobody : ∀ value : JsValue, value = .undefined ∨ value = .null →
      data.parse.field "recipientDescriptor" = value → engine.namedRecipients data.parse = [] := by
    rintro value (rfl | rfl) same <;> simp only [ChannelEngine.namedRecipients, same]
  rcases parsed_field with same | ⟨absent, missing⟩
  · cases named : index data "recipientDescriptor" with
    | null =>
      rw [named] at same
      simp [nobody _ (.inr rfl) same, Addresses]
    | bool | number | object =>
      rw [named] at same
      simp [ChannelEngine.namedRecipients, same, Json.parse, Addresses]
    | string text =>
      rw [named] at same
      simp only [ChannelEngine.namedRecipients, same, Json.parse, Addresses]
      by_cases everyone : text = "ALL_USERS"
      · simp [everyone]
      by_cases others : text = "ALL_EXCEPT_SENDER"
      · subst others
        simp only [List.mem_filter, Bool.not_eq_true', Bool.eq_false_iff, ne_eq, Js.equals_iff, sender]
        simp
      · split <;> simp_all
    | array =>
      rw [named] at same
      simp only [ChannelEngine.namedRecipients, same, Json.parse, Addresses, List.mem_filter, Js.parse_items,
        List.any_map, List.any_eq_true, Function.comp_apply, Js.equals_iff, Js.parse_string]
      simp
  · rw [absent]
    simp [nobody _ (.inl rfl) missing, Addresses]

theorem audience_iff (engine : ChannelEngine) (data : Json) (userId : UserId) :
    userId ∈ engine.messageAudience data.parse ↔
      engine.JoinedHere userId ∧ Addresses (index data "recipientDescriptor") (index data "fromUserId") userId := by
  simp only [ChannelEngine.messageAudience, List.mem_map, List.mem_filter, List.contains_iff_mem,
    ChannelEngine.JoinedHere]
  constructor
  · rintro ⟨subscriber, ⟨member, named⟩, rfl⟩
    obtain ⟨listed, addressed⟩ := named_iff.mp named
    exact ⟨⟨listed, subscriber, member, rfl⟩, addressed⟩
  · rintro ⟨⟨listed, subscriber, member, rfl⟩, addressed⟩
    exact ⟨subscriber, ⟨member, named_iff.mpr ⟨listed, addressed⟩⟩, rfl⟩

def Reaches (descriptor sender : Json) (userId : UserId) : Prop :=
  match descriptor with
  | .string text => text = "ALL_EXCEPT_SENDER" → (asString sender).getD "" ≠ userId
  | .array items => stringItems items = [] ∨ .string userId ∈ items
  | _ => True

def Resolved (descriptor sender : Json) (emptyJoined : Prop) : Prop :=
  match descriptor with
  | .string text => text = "ALL_USERS" ∨ text = "ALL_EXCEPT_SENDER" ∧ (sender = .null → ¬ emptyJoined)
  | .array items => stringItems items ≠ []
  | _ => False

theorem resolved_iff (descriptor sender : Json) (joined : UserId → Prop)
    (typed : sender = .null ∨ ∃ text, sender = .string text) :
    (∀ userId, joined userId → (Reaches descriptor sender userId ↔ Addresses descriptor sender userId)) ↔
      Resolved descriptor sender (joined "") ∨ ∀ userId, ¬ joined userId := by
  cases descriptor with
  | null | bool | number | object => simp [Reaches, Addresses, Resolved]
  | array items =>
    by_cases unlisted : stringItems items = []
    · have nobody : ∀ userId, ¬ Json.string userId ∈ items := by
        intro userId member
        have listed := (mem_string_items items userId).mpr member
        rw [unlisted] at listed
        cases listed
      simp [Reaches, Addresses, Resolved, unlisted, nobody]
    · simp [Reaches, Addresses, Resolved, unlisted]
  | string text =>
    by_cases others : text = "ALL_EXCEPT_SENDER"
    · subst others
      rcases typed with rfl | ⟨_, rfl⟩
      · simp only [Reaches, Addresses, Resolved, asString, Option.getD_none]
        constructor
        · intro alike
          refine .inl (.inr ⟨trivial, fun _ emptyJoined => ?_⟩)
          have kept := (alike "" emptyJoined).mpr (.inr ⟨trivial, by simp⟩) trivial
          exact kept rfl
        · rintro ((everyone | ⟨_, absent⟩) | nobody) userId member
          · exact absurd everyone (by decide)
          · have named : "" ≠ userId := by
              rintro rfl
              exact absent trivial member
            simp [named]
          · exact absurd member (nobody userId)
      · simp [Reaches, Addresses, Resolved, asString]
    · by_cases everyone : text = "ALL_USERS" <;> simp [Reaches, Addresses, Resolved, others, everyone]

namespace Channel

def delivered (channel : Channel) (queue : List InternalEvent) (moment : Moment) (data : Json) : List UserId :=
  ((offer queue (channel.handleDistributedMessage moment data).2).drop queue.length).flatMap InternalEvent.recipients

theorem offered (queue : List InternalEvent) (event : Event) (recipients : List UserId) :
    ((offer queue (addressed event recipients)).drop queue.length).flatMap InternalEvent.recipients =
      if queue.length < queueCapacity then recipients else [] := by
  unfold addressed
  cases recipients with
  | nil => simp [offer]
  | cons =>
    by_cases room : queue.length < queueCapacity
    · simp [offer, room]
    · simp [offer, room]

theorem message_recipients_iff (channel : Channel) (uuid : String) (env : DistributedEnvelope) (event : Event)
    (kind : env.type = some .userMessage) (read : eventFromEnvelope uuid env = some event) (sender : Json)
    (sent : env.fromUserId = (asString sender).getD "") (userId : UserId) :
    userId ∈ channel.messageRecipients event ↔
      channel.connections.has userId = true ∧ Reaches env.recipientDescriptor sender userId := by
  have keys : userId ∈ channel.connections.keys ↔ channel.connections.has userId = true :=
    OrderedMap.mem_keys
  simp only [eventFromEnvelope, kind] at read
  cases descriptor : env.recipientDescriptor with
  | null | bool | number | object =>
    simp only [descriptor] at read
    cases read
    simp [messageRecipients, Reaches, keys]
  | string text =>
    simp only [descriptor] at read
    cases read
    by_cases others : text = "ALL_EXCEPT_SENDER"
    · simp [messageRecipients, Reaches, keys, others, sent, ne_comm]
    · simp [messageRecipients, Reaches, keys, others]
  | array items =>
    simp only [descriptor] at read
    cases read
    by_cases unlisted : stringItems items = []
    · simp [messageRecipients, Reaches, keys, unlisted]
    · simp [messageRecipients, Reaches, keys, unlisted, List.length_pos_iff, ← mem_string_items]

theorem delivered_iff {channel : Channel} {queue : List InternalEvent} {moment : Moment}
    (accepted : decodeEnvelope data = some env) (kind : env.type = some .userMessage)
    (foreign : env.sourceNodeId ≠ channel.nodeId) (userId : UserId) :
    userId ∈ channel.delivered queue moment data ↔
      queue.length < queueCapacity ∧ channel.connections.has userId = true ∧
        Reaches (index data "recipientDescriptor") (index data "fromUserId") userId := by
  obtain ⟨descriptor, read⟩ := decoded_message accepted
  have sender := (string_field_read read).1
  obtain ⟨event, read⟩ : ∃ event, eventFromEnvelope moment.uuid env = some event := by
    simp only [eventFromEnvelope, kind]
    split <;> exact ⟨_, rfl⟩
  have action : event.action = .broadcast := by
    simp only [eventFromEnvelope, kind] at read
    split at read <;> cases read <;> rfl
  have handled : (channel.handleDistributedMessage moment data).2 =
      addressed event (channel.messageRecipients event) := by
    rw [handleDistributedMessage, accepted]
    dsimp only
    rw [if_neg foreign]
    simp [handleEnvelope, kind, read, handleEvent, action]
  rw [delivered, handled, offered]
  by_cases room : queue.length < queueCapacity
  · rw [if_pos room, message_recipients_iff channel moment.uuid env event kind read _ sender, descriptor]
    simp [room]
  · simp [room]

end Channel

def userMessage (descriptor : Json) : Json :=
  .object [("protocol", .string distributedProtocol), ("version", .number 1), ("type", .string "USER_MESSAGE"),
    ("messageId", .string "message-1"), ("sourceNodeId", .string "node-3"), ("endpointName", .string "api"),
    ("channelName", .string "room"), ("timestamp", .number 0), ("fromUserId", .string "b"),
    ("event", .string "greet"), ("payload", .object []), ("requestId", .string "request-1"),
    ("recipientDescriptor", descriptor)]

theorem index_descriptor (descriptor : Json) :
    index (userMessage descriptor) "recipientDescriptor" = descriptor := by
  simp [index, userMessage, OrderedMap.findEntry]

def emptyRoom (name : String) : Channel := newChannel name "node-1" true true 90000

def goRoom : Channel := ((emptyRoom "room").addUser ⟨"a", 0, none⟩).1

def jsRoom : ChannelEngine :=
  ((ChannelEngine.new "api" "room" "node-2" (some ⟨"node-2", 90000⟩)).addUser "a" .empty "a"
    (.supplied "request-0")).engine

namespace Channel

theorem rooms_alike (userId : UserId) : goRoom.connections.has userId = true ↔ jsRoom.JoinedHere userId := by
  have connected : goRoom.connections.store.keys = ["a"] := by decide +kernel
  have listed : jsRoom.users = ["a"] := by decide +kernel
  have hosted : jsRoom.publisher.observers.values.map Js.Subscriber.userId = ["a"] := by decide +kernel
  have joined : jsRoom.JoinedHere userId ↔
      userId ∈ jsRoom.users ∧ userId ∈ jsRoom.publisher.observers.values.map Js.Subscriber.userId := by
    rw [ChannelEngine.JoinedHere, List.mem_map]
  rw [joined, listed, hosted, Store.has, ← OrderedMap.mem_keys, connected]
  simp

end Channel

end PondSocket.Go
