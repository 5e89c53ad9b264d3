import PondSocket.Python.Codec
import PondSocket.Go.Recipients
import PondSocket.Library.Places

namespace PondSocket.Python

open Library
open Js (Json UserId NodeId ChannelEngine)
open Go (MsgType index asString asMap Addresses)

structure Cluster where
  name : String
  nodes : List Channel
  named : ∀ node ∈ nodes, node.name = name
  distinct : (nodes.map Channel.nodeId).Nodup

theorem Cluster.apart (cluster : Cluster) (first second : Nat) (left right : Channel)
    (here : cluster.nodes[first]? = some left) (there : cluster.nodes[second]? = some right) (different : first ≠ second) :
    left.nodeId ≠ right.nodeId :=
  different_of_distinct cluster.distinct first second left right here there different

structure TargetedCall where
  eventName : String
  payload : Dict
  userIds : List UserId

namespace Channel

def targetedCall (channel : Channel) (moment : Moment) (call : TargetedCall) : Channel × Option Raised :=
  channel.broadcastTo moment call.eventName call.payload call.userIds

def dispatchedSince (after before : Channel) : List DispatchItem := after.dispatched.drop before.dispatched.length

end Channel

namespace TargetedCall

def Got (call : TargetedCall) (node after : Channel) : Prop :=
  (∀ item ∈ after.dispatchedSince node, item.event.event = call.eventName ∧ item.event.payload = dictJson call.payload) ∧
    ∀ userId, node.hasUser userId = true →
      (userId ∈ (after.dispatchedSince node).flatMap DispatchItem.recipientIds ↔ userId ∈ call.userIds)

def named (call : TargetedCall) (channel : Channel) : Bool :=
  decide (channel.name ≠ "") && decide (call.eventName ≠ "")

def Missed (call : TargetedCall) (node : Channel) : Prop := ∀ userId ∈ call.userIds, node.hasUser userId = false

-- The node takes part, and whom it hears the event for is whom it is for: an empty
-- list is heard as everyone.
def HeardBy (call : TargetedCall) (caller node : Channel) (room : Bool) : Prop :=
  if call.named caller ∧ caller.distributed ∧ node.distributed ∧ node.active ∧ room then
    call.userIds ≠ [] ∨ node.connections.isEmpty = true
  else call.Missed node

def DoneBy (call : TargetedCall) (caller : Channel) (room : Bool) : Prop :=
  call.named caller = true ∧ caller.active = true ∧ room = true ∨ call.Missed caller

end TargetedCall

section

variable (str : Json → String)

def TargetedCall.reached (call : TargetedCall) (caller : Channel) (moment : Moment) (stamp : Stamp) (calling : Bool)
    (node : Channel) (later : Moment) : Channel :=
  let done := (caller.targetedCall moment call).1
  (if calling then done else node).received str caller done later stamp

def TargetedCall.Reaches (call : TargetedCall) (cluster : Cluster) (place : Nat) (caller : Channel) (moment : Moment)
    (stamp : Stamp) (later : Nat → Moment) : Prop :=
  ∀ (other : Nat) (node : Channel), cluster.nodes[other]? = some node →
    call.Got node (call.reached str caller moment stamp (decide (other = place)) node (later other))

def senderId (sender : Json) : UserId := textOr str sender "CHANNEL"

def Resolved (descriptor sender : Json) (here : UserId → Prop) : Prop :=
  match descriptor with
  | .string text => text = "ALL_USERS" ∨ text = "ALL_EXCEPT_SENDER" ∧
      ∀ userId, here userId → (userId = senderId str sender ↔ sender = .string userId)
  | .array items => items ≠ [] ∧ ∀ item ∈ items, here (str item) → .string (str item) ∈ items
  | _ => False

def Reaches (descriptor sender : Json) (userId : UserId) : Prop :=
  match descriptor with
  | .string text => text = "ALL_EXCEPT_SENDER" → userId ≠ senderId str sender
  | .array items => items = [] ∨ ∃ item ∈ items, str item = userId
  | _ => True

theorem resolved_iff (strings : ∀ text, str (.string text) = text) (descriptor sender : Json) (here : UserId → Prop) :
    (∀ userId, here userId → (Reaches str descriptor sender userId ↔ Addresses descriptor sender userId)) ↔
      Resolved str descriptor sender here ∨ ∀ userId, ¬ here userId := by
  cases descriptor with
  | null | bool | number | object => simp [Reaches, Addresses, Resolved]
  | array items =>
    simp only [Reaches, Addresses, Resolved]
    by_cases none : items = []
    · subst none
      simp
    simp only [none, false_or, ne_eq, not_false_eq_true, true_and]
    constructor
    · intro alike
      refine .inl fun item member there => ?_
      exact (alike (str item) there).mp ⟨item, member, rfl⟩
    · rintro (alike | nobody) userId there
      · constructor
        · rintro ⟨item, member, rfl⟩
          exact alike item member there
        · intro member
          exact ⟨.string userId, member, strings userId⟩
      · exact absurd there (nobody userId)
  | string text =>
    by_cases others : text = "ALL_EXCEPT_SENDER"
    · subst others
      simp only [Reaches, Addresses, Resolved, forall_const, true_and, String.reduceEq, false_or]
      constructor
      · intro alike
        refine .inl fun userId there => ?_
        exact not_iff_not.mp (alike userId there)
      · rintro (alike | nobody) userId there
        · exact not_iff_not.mpr (alike userId there)
        · exact absurd there (nobody userId)
    · by_cases everyone : text = "ALL_USERS" <;> simp [Reaches, Addresses, Resolved, others, everyone]

variable {uuid : String} {stamp : Stamp}

namespace Channel

variable (channel : Channel)

variable {event : Event} {raw : Json}

theorem resolve_falsy (descriptor : event.recipientDescriptor = decodedDescriptor str raw)
    (falsy : truthy (index raw "recipientDescriptor") = false) :
    channel.resolveDistributedRecipients str event = channel.connections.keys := by
  have everyone : decodedDescriptor str raw = .string "ALL_USERS" := by
    simp [decodedDescriptor, orElse, falsy]
  simp [resolveDistributedRecipients, descriptor, everyone]

theorem reaches_falsy {descriptor sender : Json} {userId : UserId} (falsy : truthy descriptor = false) :
    Reaches str descriptor sender userId := by
  cases descriptor with
  | null | bool | number | object => trivial
  | string =>
    intro others
    rw [others] at falsy
    cases falsy
  | array =>
    apply Or.inl
    simpa [truthy] using falsy

theorem resolve_iff (strings : ∀ text, str (.string text) = text)
    (descriptor : event.recipientDescriptor = decodedDescriptor str raw)
    (sender : event.fromUserId = senderId str (index raw "fromUserId")) (userId : UserId) :
    userId ∈ channel.resolveDistributedRecipients str event ↔ channel.hasUser userId = true ∧
      Reaches str (index raw "recipientDescriptor") (index raw "fromUserId") userId := by
  have keys : userId ∈ channel.connections.keys ↔ channel.hasUser userId = true := OrderedMap.mem_keys
  cases truth : truthy (index raw "recipientDescriptor") with
  | false =>
    rw [channel.resolve_falsy str descriptor truth, keys]
    simp [reaches_falsy str truth]
  | true =>
    simp only [decodedDescriptor, orElse, truth, if_true] at descriptor
    cases given : index raw "recipientDescriptor" with
    | null | bool | number | object =>
      simp only [given] at descriptor
      simp [resolveDistributedRecipients, descriptor, Reaches, keys]
    | string text =>
      simp only [given] at descriptor
      by_cases others : text = "ALL_EXCEPT_SENDER"
      · subst others
        simp [resolveDistributedRecipients, descriptor, Reaches, keys, sender]
      · simp [resolveDistributedRecipients, descriptor, Reaches, keys, others]
    | array items =>
      simp only [given] at descriptor truth
      have some : items ≠ [] := by simpa [truthy] using truth
      simp [resolveDistributedRecipients, descriptor, Reaches, keys, some, strings]

theorem decoded_message     (message : index raw "type" = .string MsgType.userMessage.text) (decoded : eventFromEnvelope str uuid raw = some event) :
    event.recipientDescriptor = decodedDescriptor str raw ∧ event.fromUserId = senderId str (index raw "fromUserId") := by
  simp only [eventFromEnvelope, message, asString, Option.bind_eq_bind, Option.bind_some, MsgType.of_text, eventOf] at decoded
  obtain ⟨_, _, rest⟩ := Option.bind_eq_some_iff.mp decoded
  obtain ⟨_, _, rest⟩ := Option.bind_eq_some_iff.mp rest
  rw [Event.checked_some rest]
  exact ⟨rfl, rfl⟩

theorem chosen_alike_iff {engine : ChannelEngine} (strings : ∀ text, str (.string text) = text)
    (message : index raw "type" = .string MsgType.userMessage.text)
    (decoded : eventFromEnvelope str uuid raw = some event)
    (joined : ∀ userId, channel.hasUser userId = true ↔ engine.JoinedHere userId) :
    (∀ userId, userId ∈ channel.resolveDistributedRecipients str event ↔ userId ∈ engine.messageAudience raw.parse) ↔
      Resolved str (index raw "recipientDescriptor") (index raw "fromUserId") (fun userId => channel.hasUser userId = true) ∨
        ∀ userId, ¬ channel.hasUser userId = true := by
  obtain ⟨descriptor, sender⟩ := decoded_message str message decoded
  rw [← resolved_iff str strings]
  apply forall_congr'
  intro userId
  rw [channel.resolve_iff str strings descriptor sender, Go.audience_iff, ← joined]
  exact and_congr_right_iff

theorem dispatch_since (room : Bool) (event : Event) (recipientIds : List UserId) :
    (channel.dispatchTo room event recipientIds).dispatchedSince channel =
      if recipientIds.isEmpty ∨ channel.active = false ∨ room = false then [] else [⟨event, recipientIds⟩] := by
  cases recipientIds with
  | nil => simp [dispatchTo, dispatchedSince]
  | cons =>
    cases active : channel.active with
    | false => simp [dispatchTo, enqueueDispatch, dispatchedSince, active]
    | true => cases room <;> simp [dispatchTo, enqueueDispatch, dispatchedSince, active]

theorem dispatch_published (room : Bool) (event : Event) (recipientIds : List UserId) :
    (channel.dispatchTo room event recipientIds).published = channel.published ∧
      (channel.dispatchTo room event recipientIds).nodeId = channel.nodeId ∧
        (channel.dispatchTo room event recipientIds).distributed = channel.distributed := by
  simp only [dispatchTo, enqueueDispatch]
  split
  · exact ⟨rfl, rfl, rfl⟩
  split
  · exact ⟨rfl, rfl, rfl⟩
  · split <;> exact ⟨rfl, rfl, rfl⟩

variable {receiver sender : Channel}

theorem received_idle {next : Channel} {moment : Moment} (idle : next.published = sender.published) :
    receiver.received str sender next moment stamp = receiver := by
  rw [received, idle, List.drop_length, List.foldl_nil, ite_self]

theorem received_one {next : Channel} {moment : Moment} {publication : Publication}
    (done : next.published = sender.published ++ [publication]) :
    receiver.received str sender next moment stamp =
      if receiver.distributed then receiver.handlePubsubMessage str moment (sender.wire str stamp publication)
      else receiver := by
  rw [received, done, List.drop_left, List.foldl_cons, List.foldl_nil]

end Channel

namespace TargetedCall

variable (call : TargetedCall) (channel : Channel)

variable (moment : Moment)

def sent (call : TargetedCall) (channel : Channel) (uuid : String) : Event :=
  Channel.addressed (channel.own "BROADCAST" uuid call.eventName (dictJson call.payload)) (.toUsers call.userIds)

theorem call_done :
    (channel.targetedCall moment call).1 =
      if call.named channel then
        (channel.dispatchTo moment.room (call.sent channel moment.uuid) call.userIds).publishEventToPubsub
          (call.sent channel moment.uuid) "message"
      else channel := by
  have checked : (channel.own "BROADCAST" moment.uuid call.eventName (dictJson call.payload)).checked =
      if call.named channel then some (channel.own "BROADCAST" moment.uuid call.eventName (dictJson call.payload))
      else none := by
    have drawn := moment.drawn
    by_cases unnamed : channel.name = ""
    · simp [Event.checked, Channel.own, Event.plain, named, unnamed]
    by_cases silent : call.eventName = ""
    · simp [Event.checked, Channel.own, Event.plain, named, silent]
    · simp [Event.checked, Channel.own, Event.plain, named, unnamed, drawn]
  simp only [Channel.targetedCall, Channel.broadcastTo, Channel.sendEvent, checked]
  cases call.named channel <;> rfl

theorem call_published :
    (channel.targetedCall moment call).1.published = channel.published ++
      if call.named channel ∧ channel.distributed then [.event (call.sent channel moment.uuid) "message"] else [] := by
  obtain ⟨published, _, distributed⟩ :=
    channel.dispatch_published moment.room (call.sent channel moment.uuid) call.userIds
  rw [call.call_done channel moment]
  cases named : call.named channel with
  | false => simp
  | true =>
    simp only [if_true, Channel.publishEventToPubsub, Channel.publish, distributed]
    cases channel.distributed <;> simp [published]

theorem call_since :
    (channel.targetedCall moment call).1.dispatchedSince channel =
      if call.userIds.isEmpty ∨ ¬ (call.named channel = true ∧ channel.active = true ∧ moment.room = true) then []
      else [⟨call.sent channel moment.uuid, call.userIds⟩] := by
  rw [call.call_done channel moment]
  cases named : call.named channel with
  | false => simp [Channel.dispatchedSince]
  | true =>
    have since := channel.dispatch_since moment.room (call.sent channel moment.uuid) call.userIds
    have same : ∀ next : Channel, (next.publishEventToPubsub (call.sent channel moment.uuid) "message").dispatchedSince
        channel = next.dispatchedSince channel := by
      intro next
      simp only [Channel.publishEventToPubsub, Channel.publish]
      split <;> rfl
    rw [if_pos rfl, same, since]
    cases channel.active <;> cases moment.room <;> simp

def heard (call : TargetedCall) (channel : Channel) (uuid : String) : Event :=
  { call.sent channel uuid with
    recipientDescriptor := if call.userIds.isEmpty then .string "ALL_USERS" else .array (call.userIds.map .string) }

theorem sent_body (uuid endpoint : String) (stamp : Stamp) :
    index ((call.sent channel uuid).toBytes str stamp "message" endpoint) "event" = .string call.eventName ∧
      index ((call.sent channel uuid).toBytes str stamp "message" endpoint) "payload" = dictJson call.payload ∧
        index ((call.sent channel uuid).toBytes str stamp "message" endpoint) "fromUserId" = .string "CHANNEL" ∧
          index ((call.sent channel uuid).toBytes str stamp "message" endpoint) "recipientDescriptor" =
            .array (call.userIds.map .string) := by
  have bytes : (call.sent channel uuid).toBytes str stamp "message" endpoint =
      distributedBytes stamp .userMessage channel.nodeId endpoint channel.name
        ((call.sent channel uuid).bodyEntries str .userMessage) := rfl
  rw [bytes]
  refine ⟨?_, ?_, ?_, ?_⟩
  all_goals
    rw [index_body]
    · rfl
    · decide

theorem sent_decoded (moment later : Moment) (stamp : Stamp)
    (strings : ∀ text, str (.string text) = text) (named : call.named channel = true) :
    eventFromEnvelope str later.uuid
        ((call.sent channel moment.uuid).toBytes str stamp "message" channel.cleanEndpoint) =
      some (call.heard channel moment.uuid) := by
  obtain ⟨name, present⟩ : channel.name ≠ "" ∧ call.eventName ≠ "" := by
    simpa [TargetedCall.named] using named
  obtain ⟨event, payload, sender, descriptor⟩ := call.sent_body str channel moment.uuid channel.cleanEndpoint stamp
  have bytes : (call.sent channel moment.uuid).toBytes str stamp "message" channel.cleanEndpoint =
      distributedBytes stamp .userMessage channel.nodeId channel.cleanEndpoint channel.name
        ((call.sent channel moment.uuid).bodyEntries str .userMessage) := rfl
  have request : index (.object ((call.sent channel moment.uuid).bodyEntries str .userMessage)) "requestId" =
      .string moment.uuid := rfl
  have read : eventOf str ((call.sent channel moment.uuid).toBytes str stamp "message" channel.cleanEndpoint) channel.name
      moment.uuid channel.nodeId .userMessage = some (call.heard channel moment.uuid) := by
    simp only [eventOf, decodedDescriptor, event, payload, sender, descriptor, text_or_text str strings _ present]
    have channelText : textOr str (.string "CHANNEL") "CHANNEL" = "CHANNEL" := text_or_text str strings _ (by decide)
    rw [channelText]
    cases ids : call.userIds with
    | nil => simp [heard, sent, Channel.addressed, Channel.own, Event.plain, orElse, truthy, listed, dictJson, ids]
    | cons _ rest =>
      have back : rest.map (str ∘ Json.string) = rest := (List.map_congr_left fun text _ => strings text).trans rest.map_id
      simp [heard, sent, Channel.addressed, Channel.own, Event.plain, orElse, truthy, listed, dictJson, ids, strings, back]
  rw [bytes] at read
  rw [bytes, event_from_bytes, request, text_or_text str strings _ moment.drawn, read, Option.bind_some]
  exact Event.checked_complete _ (show "BROADCAST" ≠ "" by decide) name moment.drawn present

theorem got_iff (node after : Channel) (event : Event) (recipientIds : List UserId) (taken : Prop)
    [Decidable taken] (name : event.event = call.eventName) (payload : event.payload = dictJson call.payload)
    (since : after.dispatchedSince node = if recipientIds.isEmpty ∨ ¬ taken then [] else [⟨event, recipientIds⟩]) :
    call.Got node after ↔
      ∀ userId, node.hasUser userId = true → (taken ∧ userId ∈ recipientIds ↔ userId ∈ call.userIds) := by
  have listed : ∀ userId, userId ∈ (after.dispatchedSince node).flatMap DispatchItem.recipientIds ↔
      taken ∧ userId ∈ recipientIds := by
    intro userId
    rw [since]
    cases recipientIds with
    | nil => simp
    | cons => by_cases done : taken <;> simp
  simp only [Got, listed]
  refine and_iff_right ?_
  intro item member
  rw [since] at member
  split at member
  · cases member
  · rw [List.mem_singleton.mp member]
    exact ⟨name, payload⟩

variable {node : Channel}

theorem missed_iff {taken : Prop} {recipientIds : List UserId} (idle : ¬ taken) :
    (∀ userId, node.hasUser userId = true → (taken ∧ userId ∈ recipientIds ↔ userId ∈ call.userIds)) ↔ call.Missed node := by
  simp only [idle, false_and, false_iff, Missed]
  constructor
  · intro none userId listed
    exact Bool.eq_false_iff.mpr fun there => none userId there listed
  · intro missed userId there listed
    rw [missed userId listed] at there
    cases there

variable {caller : Channel}

theorem got_own {moment later : Moment} :
    call.Got caller (call.reached str caller moment stamp true caller later) ↔ call.DoneBy caller moment.room := by
  have node : (caller.targetedCall moment call).1.nodeId = caller.nodeId := by
    rw [call.call_done caller moment]
    split
    · simp only [Channel.publishEventToPubsub, Channel.publish]
      split <;> exact (caller.dispatch_published _ _ _).2.1
    · rfl
  have kept : call.reached str caller moment stamp true caller later = (caller.targetedCall moment call).1 := by
    have published := call.call_published caller moment
    simp only [reached, if_true]
    split at published
    · rw [Channel.received_one str published]
      split
      · have own := (caller.targetedCall moment call).1.handle_own str later stamp
        rw [node] at own
        exact own _ _ _ _
      · rfl
    · rw [List.append_nil] at published
      exact Channel.received_idle str published
  rw [kept, call.got_iff caller _ (call.sent caller moment.uuid) call.userIds _ rfl rfl (call.call_since caller moment), DoneBy]
  by_cases taken : call.named caller = true ∧ caller.active = true ∧ moment.room = true
  · simp [taken]
  · rw [call.missed_iff taken]
    exact (or_iff_right taken).symm

theorem heard_resolved {channel : Channel} (strings : ∀ text, str (.string text) = text) (userId : UserId) :
    userId ∈ node.resolveDistributedRecipients str (call.heard channel uuid) ↔
      node.hasUser userId = true ∧ (call.userIds = [] ∨ userId ∈ call.userIds) := by
  have keys : userId ∈ node.connections.keys ↔ node.hasUser userId = true := OrderedMap.mem_keys
  cases ids : call.userIds with
  | nil => simp [Channel.resolveDistributedRecipients, heard, ids, keys]
  | cons => simp [Channel.resolveDistributedRecipients, heard, ids, keys, strings]

theorem heard_right_iff (strings : ∀ text, str (.string text) = text) :
    (∀ userId, node.hasUser userId = true →
        (true = true ∧ userId ∈ node.resolveDistributedRecipients str (call.heard caller uuid) ↔ userId ∈ call.userIds)) ↔
      call.userIds ≠ [] ∨ node.connections.isEmpty = true := by
  simp only [call.heard_resolved str strings, true_and, OrderedMap.empty_iff]
  by_cases none : call.userIds = []
  · simp only [none, true_or, and_true, List.not_mem_nil, iff_false, ne_eq, not_true_eq_false, false_or]
    constructor
    · intro nobody userId
      exact Bool.eq_false_iff.mpr fun there => nobody userId there there
    · intro nobody userId there _
      have absent : node.hasUser userId = false := nobody userId
      rw [there] at absent
      cases absent
  · simp only [none, false_or, ne_eq, not_false_eq_true, true_or, iff_true]
    intro userId there
    exact and_iff_right there

theorem got_other {moment later : Moment} (strings : ∀ text, str (.string text) = text) (same : node.name = caller.name)
    (apart : caller.nodeId ≠ node.nodeId) :
    call.Got node (call.reached str caller moment stamp false node later) ↔ call.HeardBy caller node later.room := by
  have published := call.call_published caller moment
  have plain : call.reached str caller moment stamp false node later =
      node.received str caller (caller.targetedCall moment call).1 later stamp := rfl
  have unheard : ∀ after : Channel, after = node → (call.Got node after ↔ call.Missed node) := by
    rintro after rfl
    rw [call.got_iff after after (call.sent caller moment.uuid) [] False rfl rfl (by simp [Channel.dispatchedSince]),
      call.missed_iff id]
  rw [plain, HeardBy]
  by_cases said : call.named caller = true ∧ caller.distributed = true
  · obtain ⟨named, distributed⟩ := said
    rw [if_pos ⟨named, distributed⟩] at published
    rw [Channel.received_one str published]
    cases listening : node.distributed with
    | false =>
      rw [if_neg (by simp), if_neg (by simp)]
      exact unheard node rfl
    | true =>
      have bytes : caller.wire str stamp (.event (call.sent caller moment.uuid) "message") =
          distributedBytes stamp .userMessage caller.nodeId caller.cleanEndpoint node.name
            ((call.sent caller moment.uuid).bodyEntries str .userMessage) := by
        rw [same]
        rfl
      have decoded := call.sent_decoded str caller moment later stamp strings named
      have wired : caller.wire str stamp (.event (call.sent caller moment.uuid) "message") =
          (call.sent caller moment.uuid).toBytes str stamp "message" caller.cleanEndpoint := rfl
      rw [if_pos rfl, bytes, node.handle_bytes str apart, ← bytes, wired]
      cases running : node.active with
      | false =>
        rw [if_neg (by simp), if_neg (by simp)]
        exact unheard node rfl
      | true =>
        have handled : node.handleMessage str later caller.nodeId
            ((call.sent caller moment.uuid).toBytes str stamp "message" caller.cleanEndpoint) .userMessage =
              node.dispatchTo later.room (call.heard caller moment.uuid)
                (node.resolveDistributedRecipients str (call.heard caller moment.uuid)) := by
          simp only [Channel.handleMessage, decoded]
          rfl
        have since : (node.dispatchTo later.room (call.heard caller moment.uuid)
            (node.resolveDistributedRecipients str (call.heard caller moment.uuid))).dispatchedSince node =
              if (node.resolveDistributedRecipients str (call.heard caller moment.uuid)).isEmpty ∨ ¬ later.room = true
              then [] else [⟨call.heard caller moment.uuid,
                node.resolveDistributedRecipients str (call.heard caller moment.uuid)⟩] := by
          rw [node.dispatch_since, running]
          simp
        rw [if_pos rfl, handled, call.got_iff node _ _ _ (later.room = true) rfl rfl since]
        cases room : later.room with
        | false =>
          rw [if_neg (by simp)]
          exact call.missed_iff (by simp)
        | true =>
          rw [if_pos ⟨named, distributed, rfl, rfl, rfl⟩]
          exact call.heard_right_iff str strings
  · rw [if_neg said, List.append_nil] at published
    rw [Channel.received_idle str published, if_neg (fun done => said ⟨done.1, done.2.1⟩)]
    exact unheard node rfl

end TargetedCall

-- A targeted message reaches whom it is for exactly where its list is not empty or
-- nobody else could hear it, and the two sides choose alike exactly for resolved
-- descriptors.
theorem targets_kept_iff (strings : ∀ text, str (.string text) = text) :
    (∀ (cluster : Cluster) (place : Nat) (caller : Channel) (moment : Moment) (stamp : Stamp) (later : Nat → Moment)
        (call : TargetedCall), cluster.nodes[place]? = some caller →
      (call.Reaches str cluster place caller moment stamp later ↔ call.DoneBy caller moment.room ∧
        ∀ (other : Nat) (node : Channel), cluster.nodes[other]? = some node → other ≠ place →
          call.HeardBy caller node (later other).room)) ∧
    ∀ (channel : Channel) (engine : ChannelEngine) (uuid : String) (raw : Json) (event : Event),
      index raw "type" = .string "USER_MESSAGE" → eventFromEnvelope str uuid raw = some event →
      (∀ userId, channel.hasUser userId = true ↔ engine.JoinedHere userId) →
      ((∀ userId, userId ∈ channel.resolveDistributedRecipients str event ↔ userId ∈ engine.messageAudience raw.parse) ↔
        Resolved str (index raw "recipientDescriptor") (index raw "fromUserId") (fun userId => channel.hasUser userId = true) ∨
          ∀ userId, ¬ channel.hasUser userId = true) := by
  constructor
  · intro cluster place caller moment stamp later call calling
    have here := List.mem_of_getElem? calling
    constructor
    · intro reaches
      constructor
      · have got := reaches place caller calling
        rw [decide_eq_true rfl] at got
        exact (call.got_own str).mp got
      · intro other node there different
        have got := reaches other node there
        rw [decide_eq_false different] at got
        have same := (cluster.named node (List.mem_of_getElem? there)).trans (cluster.named caller here).symm
        exact (call.got_other str strings same
          (cluster.apart place other caller node calling there (Ne.symm different))).mp got
    · intro kept other node there
      by_cases own : other = place
      · subst own
        cases Option.some.inj (calling.symm.trans there)
        rw [decide_eq_true rfl]
        exact (call.got_own str).mpr kept.1
      rw [decide_eq_false own]
      have same := (cluster.named node (List.mem_of_getElem? there)).trans (cluster.named caller here).symm
      exact (call.got_other str strings same
        (cluster.apart place other caller node calling there (Ne.symm own))).mpr (kept.2 other node there own)
  · intro channel engine uuid raw event message decoded joined
    exact channel.chosen_alike_iff str strings message decoded joined

end

def sampleStr : Json → String
  | .string text => text
  | .null => "None"
  | .bool true => "True"
  | .bool false => "False"
  | .number value => toString value.num
  | .array _ => "[]"
  | .object _ => "\x7b\x7d"

theorem sample_drawn : "request-1" ≠ "" := by decide

def sampleMoment : Moment := ⟨"request-1", true, sample_drawn⟩

def joined (node : NodeId) (userIds : List UserId) : Channel :=
  { Channel.new "/room" "/ws" node true with
    active := true
    connections := .ofList (userIds.map fun userId => (userId, ⟨userId, 0⟩)) }

def twoNodes (first second : List UserId) : Cluster where
  name := "/room"
  nodes := [joined "a" first, joined "b" second]
  named := by simp [joined, Channel.new]
  distinct := by simp [joined, Channel.new]

theorem targets_kept_both :
    TargetedCall.Reaches sampleStr ⟨"hi", .empty, ["bob", "dave"]⟩ (twoNodes ["alice"] ["bob", "carol"]) 0
        (joined "a" ["alice"]) sampleMoment ⟨"m", 0⟩ (fun _ => sampleMoment) ∧
      ∃ event, eventFromEnvelope sampleStr "u" (Go.userMessage (.array [.string "a"])) = some event ∧
        ∀ userId, userId ∈ (joined "b" ["a"]).resolveDistributedRecipients sampleStr event ↔
          userId ∈ Go.jsRoom.messageAudience (Go.userMessage (.array [.string "a"])).parse := by
  have kept := targets_kept_iff sampleStr fun _ => rfl
  constructor
  · refine (kept.1 (twoNodes ["alice"] ["bob", "carol"]) 0 (joined "a" ["alice"]) sampleMoment ⟨"m", 0⟩
      (fun _ => sampleMoment) ⟨"hi", .empty, ["bob", "dave"]⟩ rfl).mpr ⟨.inl ⟨by decide, rfl, rfl⟩, ?_⟩
    intro other node there different
    have second : node = joined "b" ["bob", "carol"] := by
      cases other with
      | zero => exact absurd rfl different
      | succ rest =>
        cases rest with
        | zero => exact (Option.some.inj there).symm
        | succ => cases there
    rw [second, TargetedCall.HeardBy, if_pos (by decide)]
    exact .inl (by decide)
  · refine ⟨_, rfl, ?_⟩
    refine (kept.2 (joined "b" ["a"]) Go.jsRoom "u" (Go.userMessage (.array [.string "a"])) _ rfl rfl ?_).mpr (.inl ?_)
    · intro userId
      have here : (joined "b" ["a"]).connections.keys = ["a"] := by decide +kernel
      have there : Go.goRoom.connections.store.keys = ["a"] := by decide +kernel
      rw [← Go.Channel.rooms_alike, Channel.hasUser, Go.Store.has, ← OrderedMap.mem_keys, ← OrderedMap.mem_keys, here, there]
    simp only [Go.index_descriptor, Resolved, ne_eq, List.cons_ne_self, not_false_eq_true, List.mem_singleton, true_and]
    rintro item rfl _
    rfl

theorem empty_target_broadcast :
    ¬ TargetedCall.Reaches sampleStr ⟨"hi", .empty, []⟩ (twoNodes ["alice"] ["bob"]) 0 (joined "a" ["alice"]) sampleMoment
      ⟨"m", 0⟩ (fun _ => sampleMoment) := by
  intro reaches
  have kept := ((targets_kept_iff sampleStr fun _ => rfl).1 (twoNodes ["alice"] ["bob"]) 0 (joined "a" ["alice"])
    sampleMoment ⟨"m", 0⟩ (fun _ => sampleMoment) ⟨"hi", .empty, []⟩ rfl).mp reaches
  have heard := kept.2 1 (joined "b" ["bob"]) rfl (by decide)
  rw [TargetedCall.HeardBy, if_pos (by decide)] at heard
  exact absurd heard (by decide)

end PondSocket.Python
