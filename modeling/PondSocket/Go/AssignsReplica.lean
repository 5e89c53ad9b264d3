import PondSocket.Go.Envelope
import PondSocket.Go.Recipients
import PondSocket.Js.LocalMembership
import PondSocket.Library.Run

namespace PondSocket.Js

open Library

def asObject : JsValue → Option PondObject
  | .object fields => some (.ofList fields)
  | _ => none

def asText : JsValue → Option String
  | .string text => some text
  | _ => none

def tableBody (message : JsValue) : Option MessageBody :=
  match message.field "userId" with
  | .string userId =>
    if (message.field "type").equals "USER_JOINED" then
      (asObject (message.field "assigns")).map fun assigns =>
        .userJoined userId (asObject (message.field "presence")) assigns
    else if (message.field "type").equals "USER_LEFT" then some (.userLeft userId)
    else if (message.field "type").equals "ASSIGNS_UPDATE" then
      some (.assignsUpdate userId (asObject (message.field "assigns")) (asText (message.field "key"))
        (message.field "value"))
    else none
  | _ => none

def ChannelEngine.receiveText (engine : ChannelEngine) (now : Nat) (source : NodeId) (message : JsValue) :
    ChannelEngine :=
  match tableBody message with
  | none => engine
  | some body => engine.handleDistributedMessage now ⟨engine.endpointId, engine.name, some source, body⟩

mutual

theorem parse_injective (left right : Json) (same : left.parse = right.parse) : left = right := by
  cases left with
  | array items =>
    cases right with
    | array others => rw [parse_items_injective items others (JsValue.array.inj same)]
    | null | bool | number | string | object => cases same
  | object fields =>
    cases right with
    | object others => rw [parse_fields_injective fields others (JsValue.object.inj same)]
    | null | bool | number | string | array => cases same
  | null | bool | number | string => cases right <;> simp_all [Json.parse]

theorem parse_items_injective (left right : List Json) (same : parseItems left = parseItems right) :
    left = right := by
  cases left with
  | nil =>
    cases right with
    | nil => rfl
    | cons other others => cases same
  | cons item rest =>
    cases right with
    | nil => cases same
    | cons other others =>
      obtain ⟨one, tail⟩ := List.cons.inj same
      rw [parse_injective item other one, parse_items_injective rest others tail]

theorem parse_fields_injective (left right : List (String × Json)) (same : parseFields left = parseFields right) :
    left = right := by
  cases left with
  | nil =>
    cases right with
    | nil => rfl
    | cons other others => cases same
  | cons entry rest =>
    cases right with
    | nil => cases same
    | cons other others =>
      obtain ⟨key, value⟩ := entry
      obtain ⟨name, given⟩ := other
      obtain ⟨one, tail⟩ := List.cons.inj same
      obtain ⟨keys, values⟩ := Prod.mk.inj one
      rw [keys, parse_injective value given values, parse_fields_injective rest others tail]

end

end PondSocket.Js

namespace PondSocket.Go

open Library
open Js (Json JsValue UserId NodeId ChannelEngine MessageBody PondAssigns)

structure Frame where
  stamp : Stamp
  sourceNodeId : NodeId
  endpointName : String
  channelName : String

inductive TableMessage where
  | userJoined (userId : UserId) (presence assigns : Assigns)
  | userLeft (userId : UserId)
  | snapshot (userId : UserId) (assigns : Assigns) (changed : Option (String × Json))
  | delta (userId : UserId) (key : String) (value : Json)

variable {frame : Frame}

variable {message : TableMessage}

namespace TableMessage

def userId : TableMessage → UserId
  | .userJoined userId _ _ => userId
  | .userLeft userId => userId
  | .snapshot userId _ _ => userId
  | .delta userId _ _ => userId

def kind : TableMessage → MsgType
  | .userJoined _ _ _ => .userJoined
  | .userLeft _ => .userLeft
  | .snapshot _ _ _ => .assignsUpdate
  | .delta _ _ _ => .assignsUpdate

def changedFields : Option (String × Json) → List (String × Json)
  | none => []
  | some (key, value) => [("key", .string key), ("value", value)]

def fields : TableMessage → List (String × Json)
  | .userJoined _ presence assigns => [("presence", .object presence.entries), ("assigns", .object assigns.entries)]
  | .userLeft _ => []
  | .snapshot _ assigns changed => ("assigns", .object assigns.entries) :: changedFields changed
  | .delta _ key value => changedFields (some (key, value))

def text (message : TableMessage) (frame : Frame) : Json :=
  .object ([("protocol", .string distributedProtocol), ("version", .number 1), ("type", .string message.kind.text),
    ("messageId", .string frame.stamp.messageId), ("sourceNodeId", .string frame.sourceNodeId),
    ("endpointName", .string frame.endpointName), ("channelName", .string frame.channelName),
    ("timestamp", .number frame.stamp.timestamp), ("userId", .string message.userId)] ++ message.fields)

def presence : TableMessage → Json
  | .userJoined _ presence _ => .object presence.entries
  | _ => .null

def assigns : TableMessage → Json
  | .userJoined _ _ assigns => .object assigns.entries
  | .snapshot _ assigns _ => .object assigns.entries
  | _ => .null

def envelope (message : TableMessage) (frame : Frame) : DistributedEnvelope :=
  { newEnvelope message.kind frame.channelName frame.sourceNodeId with
    userId := message.userId
    presence := message.presence
    assigns := message.assigns }

theorem index_text {key : String}
    (body : key ∉ ["protocol", "version", "type", "messageId", "sourceNodeId", "endpointName", "channelName",
      "timestamp", "userId"]) :
    index (message.text frame) key = (OrderedMap.findEntry key message.fields).getD .null := by
  simp only [List.mem_cons, List.not_mem_nil, or_false, not_or] at body
  simp [index, text, OrderedMap.findEntry, body]

theorem find_changed (changed : Option (String × Json)) (key : String) (other : key ≠ "key" ∧ key ≠ "value") :
    OrderedMap.findEntry key (changedFields changed) = none := by
  cases changed <;> simp [changedFields, OrderedMap.findEntry, other.1, other.2]

theorem decode_text (message : TableMessage) : decodeEnvelope (message.text frame) = some (message.envelope frame) := by
  have head : ∀ key text, OrderedMap.findEntry key
      [("protocol", Json.string distributedProtocol), ("version", .number 1), ("type", .string message.kind.text),
        ("messageId", .string frame.stamp.messageId), ("sourceNodeId", .string frame.sourceNodeId),
        ("endpointName", .string frame.endpointName), ("channelName", .string frame.channelName),
        ("timestamp", .number frame.stamp.timestamp), ("userId", .string message.userId)] = some (.string text) →
      stringField (message.text frame) key = some text := by
    intro key text found
    rw [stringField, TableMessage.text, index, OrderedMap.find_append, found]
    rfl
  have silent : ∀ key, key ∉ ["protocol", "version", "type", "messageId", "sourceNodeId", "endpointName",
      "channelName", "timestamp", "userId", "presence", "assigns", "key", "value"] →
      index (message.text frame) key = .null := by
    intro key body
    simp only [List.mem_cons, List.not_mem_nil, or_false, not_or] at body
    rw [index_text (by simp [body])]
    cases message <;> simp [fields, OrderedMap.findEntry, find_changed, body]
  have noText : ∀ key, index (message.text frame) key = .null → stringField (message.text frame) key = some "" := by
    intro key absent
    rw [stringField, absent]
  have noSlice : ∀ key, index (message.text frame) key = .null → sliceField (message.text frame) key = some [] := by
    intro key absent
    rw [sliceField, absent]
  have version : intField (message.text frame) "version" 64 = some distributedVersion := by
    simp [intField, index, TableMessage.text, OrderedMap.findEntry, distributedVersion]
  have timestamp : intField (message.text frame) "timestamp" 64 = some frame.stamp.timestamp := by
    have fits := frame.stamp.fits
    simp [intField, index, TableMessage.text, OrderedMap.findEntry]
    omega
  have presence : index (message.text frame) "presence" = message.presence := by
    rw [index_text (by decide)]
    cases message <;> simp [fields, TableMessage.presence, OrderedMap.findEntry, find_changed]
  have assigns : index (message.text frame) "assigns" = message.assigns := by
    rw [index_text (by decide)]
    cases message <;> simp [fields, TableMessage.assigns, OrderedMap.findEntry, find_changed]
  rw [decodeEnvelope, head "protocol" distributedProtocol rfl, head "type" message.kind.text rfl,
    head "messageId" frame.stamp.messageId rfl, head "sourceNodeId" frame.sourceNodeId rfl,
    head "endpointName" frame.endpointName rfl, head "channelName" frame.channelName rfl, version, timestamp,
    head "userId" message.userId rfl, presence, assigns]
  simp only [noText _ (silent "fromUserId" (by decide)), noText _ (silent "event" (by decide)),
    noText _ (silent "requestId" (by decide)), noText _ (silent "presenceEvent" (by decide)),
    noText _ (silent "reason" (by decide)), noText _ (silent "fromNode" (by decide)),
    noText _ (silent "nodeId" (by decide)), noSlice _ (silent "presenceList" (by decide)),
    noSlice _ (silent "users" (by decide)), silent "payload" (by decide), silent "recipientDescriptor" (by decide)]
  simp [decodeUsers, MsgType.of_text, envelope, newEnvelope]

def goEntry (message : TableMessage) (entry : Option Assigns) : Option Assigns :=
  match message with
  | .userJoined _ _ assigns => some (.ofList assigns.entries)
  | .userLeft _ => none
  | .snapshot _ assigns _ => some ((entry.getD .empty).merge (.ofList assigns.entries))
  | .delta _ _ _ => some (entry.getD .empty)

end TableMessage

structure EntryChanged (channel next : Channel) (userId : UserId) (entry : Option Assigns) : Prop where
  done : next.done = channel.done
  distributed : next.distributed = channel.distributed
  nodeId : next.nodeId = channel.nodeId
  locals : ∀ query, next.store.has query = channel.store.has query
  remote : ∀ query, channel.store.has query = false →
    next.remoteAssigns.get? query =
      if query = userId ∧ query ≠ "" then entry else channel.remoteAssigns.get? query

theorem entry_unchanged {channel : Channel} {userId : UserId} {entry : Option Assigns}
    (idle : channel.store.has userId = true ∨ userId = "") : EntryChanged channel channel userId entry where
  done := rfl
  distributed := rfl
  nodeId := rfl
  locals := fun _ => rfl
  remote := by
    intro query remote
    rw [if_neg]
    rintro ⟨rfl, named⟩
    rcases idle with present | empty
    · rw [present] at remote
      cases remote
    · exact named empty

theorem read_missing {store : Store Assigns} {userId : UserId} (absent : store.has userId = false) :
    ∃ failure, store.read userId = .error failure := by
  cases read : store.read userId with
  | error failure => exact ⟨failure, rfl⟩
  | ok =>
    have present := store.read_has read
    rw [absent] at present
    cases present

namespace Channel

variable (channel : Channel)

theorem receive_text {moment : Moment} (running : channel.done = false)
    (foreign : frame.sourceNodeId ≠ channel.nodeId) :
    channel.onChannelTopic moment (message.text frame) = channel.handleEnvelope moment (message.envelope frame) := by
  rw [onChannelTopic, checkState, running]
  simp only [Bool.false_eq_true, if_false, handleDistributedMessage, message.decode_text]
  exact if_neg foreign

theorem joined_changes {now : Nat} {userId : UserId} {presence assigns : Assigns} :
    EntryChanged channel
      (channel.handleRemoteUserJoined now ((TableMessage.userJoined userId presence assigns).envelope frame)) userId
      (some (.ofList assigns.entries)) := by
  have named : ((TableMessage.userJoined userId presence assigns).envelope frame).userId = userId := rfl
  simp only [handleRemoteUserJoined, named]
  by_cases empty : userId = ""
  · rw [if_pos empty]
    exact entry_unchanged (.inr empty)
  rw [if_neg empty]
  cases present : channel.store.has userId with
  | true =>
    obtain ⟨value, found⟩ := OrderedMap.has_iff.mp present
    have read : channel.store.read userId = .ok value := channel.store.read_ok.mpr found
    rw [read]
    exact entry_unchanged (.inl present)
  | false =>
    obtain ⟨_, read⟩ := read_missing present
    rw [read]
    rw [track_frame, adopt_frame]
    refine ⟨rfl, rfl, rfl, fun _ => rfl, fun query _ => ?_⟩
    change (channel.remoteAssigns.set userId (.ofList assigns.entries)).get? query = _
    rw [OrderedMap.get_set]
    by_cases same : query = userId
    · rw [if_pos same, if_pos ⟨same, same ▸ empty⟩]
    · rw [if_neg same, if_neg fun both => same both.1]

theorem left_changes {userId : UserId} :
    EntryChanged channel (channel.handleRemoteUserLeft ((TableMessage.userLeft userId).envelope frame)) userId none := by
  change EntryChanged channel (if userId = "" then channel else _) userId _
  by_cases empty : userId = ""
  · rw [if_pos empty]
    exact entry_unchanged (.inr empty)
  rw [if_neg empty, untrack_frame]
  refine ⟨rfl, rfl, rfl, fun _ => rfl, fun query _ => ?_⟩
  change (channel.remoteAssigns.delete userId).get? query = _
  rw [OrderedMap.get_delete]
  by_cases same : query = userId
  · rw [if_pos same, if_pos ⟨same, same ▸ empty⟩]
  · rw [if_neg same, if_neg fun both => same both.1]

theorem assigns_changes {event : Event} (userId : UserId) (assigns : Json)
    (payload : event.payload = .object [("userId", .string userId), ("assigns", assigns)]) :
    EntryChanged channel (channel.handleRemoteAssignsEvent event) userId
      (some (mergedAssigns ((channel.remoteAssigns.get? userId).getD .empty) (asMap assigns) "" .null)) := by
  have user : textAtEither event.payload "userId" "UserID" = userId := by
    by_cases empty : userId = "" <;>
      simp [payload, textAtEither, textAt, index, OrderedMap.findEntry, asString]
  have key : textAtEither event.payload "key" "Key" = "" := by
    simp [payload, textAtEither, textAt, index, OrderedMap.findEntry, asString]
  have value : valueAtEither event.payload "value" "Value" = .null := by
    simp [payload, valueAtEither, index, OrderedMap.findEntry]
  have remote : (asMap (index event.payload "assigns")).or (asMap (index event.payload "Assigns")) = asMap assigns := by
    have absent : asMap (index event.payload "Assigns") = none := by
      simp [payload, index, OrderedMap.findEntry, asMap]
    have given : index event.payload "assigns" = assigns := by
      simp [payload, index, OrderedMap.findEntry]
    rw [absent, given, Option.or_none]
  unfold handleRemoteAssignsEvent
  simp only [user, key, value, remote]
  by_cases empty : userId = ""
  · rw [if_pos empty]
    exact entry_unchanged (.inr empty)
  rw [if_neg empty]
  cases read : channel.store.read userId with
  | ok =>
    have present := channel.store.read_has read
    refine ⟨rfl, rfl, rfl, fun query => channel.store.has_update userId query _, fun query remote => ?_⟩
    rw [if_neg]
    rintro ⟨rfl, _⟩
    rw [present] at remote
    cases remote
  | error =>
    refine ⟨rfl, rfl, rfl, fun _ => rfl, fun query _ => ?_⟩
    rw [OrderedMap.get_set]
    by_cases same : query = userId
    · rw [if_pos same, if_pos ⟨same, same ▸ empty⟩]
    · rw [if_neg same, if_neg fun both => same both.1]

theorem receives (moment : Moment) (frame : Frame) (message : TableMessage)
    (running : channel.done = false) (foreign : frame.sourceNodeId ≠ channel.nodeId) :
    EntryChanged channel (channel.onChannelTopic moment (message.text frame)).1 message.userId
      (message.goEntry (channel.remoteAssigns.get? message.userId)) := by
  rw [channel.receive_text running foreign]
  cases message with
  | userJoined => exact channel.joined_changes
  | userLeft => exact channel.left_changes
  | snapshot userId assigns => exact channel.assigns_changes userId (.object assigns.entries) rfl
  | delta userId => exact channel.assigns_changes userId .null rfl

end Channel

def parsedMap (assigns : Assigns) : PondAssigns := .ofList (Js.parseFields assigns.entries)

theorem parsed_keys (fields : List (String × Json)) : (Js.parseFields fields).map Prod.fst = fields.map Prod.fst := by
  induction fields with
  | nil => rfl
  | cons _ _ ih => rw [Js.parseFields, List.map_cons, List.map_cons, ih]

theorem get_parsed_map (assigns : Assigns) (key : String) :
    (parsedMap assigns).get? key = (assigns.get? key).map Json.parse := by
  rw [parsedMap, OrderedMap.get_of_list _ (by rw [parsed_keys]; exact assigns.distinct), Js.find_parsed]
  rfl

theorem get_relisted (assigns : Assigns) (key : String) :
    (OrderedMap.ofList assigns.entries).get? key = assigns.get? key :=
  OrderedMap.get_of_list assigns.entries assigns.distinct key

namespace TableMessage

def body : TableMessage → MessageBody
  | .userJoined userId presence assigns => .userJoined userId (some (parsedMap presence)) (parsedMap assigns)
  | .userLeft userId => .userLeft userId
  | .snapshot userId assigns none => .assignsUpdate userId (some (parsedMap assigns)) none .undefined
  | .snapshot userId assigns (some (key, value)) =>
    .assignsUpdate userId (some (parsedMap assigns)) (some key) value.parse
  | .delta userId key value => .assignsUpdate userId none (some key) value.parse

theorem parsed_object {fields : List (String × Json)} {key : String} :
    (Json.object fields).parse.field key = ((OrderedMap.findEntry key fields).map Json.parse).getD .undefined := by
  rw [Json.parse, JsValue.field, Js.find_parsed]

theorem table_body_text (message : TableMessage) : Js.tableBody (message.text frame).parse = some message.body := by
  have field : ∀ key, (message.text frame).parse.field key = _ := fun key => parsed_object
  cases message with
  | userJoined userId =>
    simp [Js.tableBody, field, OrderedMap.findEntry, TableMessage.userId, fields, kind, MsgType.text, Json.parse,
      JsValue.equals, Js.asObject, body, parsedMap]
  | userLeft userId =>
    simp [Js.tableBody, field, OrderedMap.findEntry, TableMessage.userId, kind, MsgType.text, Json.parse,
      JsValue.equals, body]
  | snapshot userId _ changed =>
    cases changed with
    | none | some =>
      simp [Js.tableBody, field, OrderedMap.findEntry, TableMessage.userId, fields, changedFields, kind,
        MsgType.text, Json.parse, JsValue.equals, Js.asObject, Js.asText, body, parsedMap]
  | delta userId =>
    simp [Js.tableBody, field, OrderedMap.findEntry, TableMessage.userId, fields, changedFields, kind, MsgType.text,
      Json.parse, JsValue.equals, Js.asObject, Js.asText, body]

def jsEntry (message : TableMessage) (entry : Option PondAssigns) : Option PondAssigns :=
  match message with
  | .userJoined _ _ assigns => some (entry.getD (parsedMap assigns))
  | .userLeft _ => none
  | .snapshot _ assigns _ => entry.map fun _ => parsedMap assigns
  | .delta _ key value => entry.map fun current => if key = "" then current else current.set key value.parse

theorem joined_cache (tables : Js.Tables) (now : Nat) (source : Option NodeId) (userId : UserId)
    (presence : Option Js.PondPresence) (assigns : PondAssigns) :
    (tables.joined now source userId presence assigns).assignsCache =
      if tables.assignsCache.has userId then tables.assignsCache else tables.assignsCache.set userId assigns := by
  unfold Js.Tables.joined
  by_cases listed : tables.assignsCache.has userId = true
  · rw [if_pos listed, if_pos listed]
  rw [if_neg listed, if_neg listed, Js.Tables.track_frame]
  cases presence with
  | none => rfl
  | some =>
    dsimp only
    split <;> rfl

theorem js_receives (message : TableMessage) {engine : ChannelEngine} {now : Nat} {query : UserId} :
    (engine.receiveText now frame.sourceNodeId (message.text frame).parse).assignsCache.get? query =
      if query = message.userId then message.jsEntry (engine.assignsCache.get? query)
      else engine.assignsCache.get? query := by
  have moved := congrArg (fun tables => tables.assignsCache.get? query)
    (engine.tables_receive now ⟨engine.endpointId, engine.name, some frame.sourceNodeId, message.body⟩)
  rw [ChannelEngine.receiveText, message.table_body_text]
  refine moved.trans ?_
  have set : ∀ (userId : UserId) (assigns : PondAssigns) (entry : Option PondAssigns),
      (query = userId → some assigns = entry) → (engine.assignsCache.set userId assigns).get? query =
        if query = userId then entry else engine.assignsCache.get? query := by
    intro userId assigns entry same
    rw [OrderedMap.get_set]
    by_cases hit : query = userId
    · rw [if_pos hit, if_pos hit, same hit]
    · rw [if_neg hit, if_neg hit]
  have kept : ∀ (userId : UserId) (entry : Option PondAssigns),
      (query = userId → engine.assignsCache.get? userId = entry) → engine.assignsCache.get? query =
        if query = userId then entry else engine.assignsCache.get? query := by
    intro userId entry same
    by_cases hit : query = userId
    · rw [if_pos hit, ← same hit, hit]
    · rw [if_neg hit]
  cases message with
  | userJoined userId _ assigns =>
    change (engine.tables.joined now _ userId _ (parsedMap assigns)).assignsCache.get? query = _
    rw [joined_cache]
    cases found : engine.assignsCache.get? userId with
    | none =>
      have absent : engine.tables.assignsCache.has userId = false := OrderedMap.has_false_iff.mpr found
      rw [absent, if_neg Bool.false_ne_true]
      exact set userId _ _ fun same => by simp [jsEntry, same, found]
    | some =>
      have present : engine.tables.assignsCache.has userId = true := OrderedMap.has_iff.mpr ⟨_, found⟩
      rw [present, if_pos rfl]
      exact kept userId _ fun same => by simp [jsEntry, same, found]
  | userLeft userId =>
    change ((engine.tables.forget userId).untrack _ userId).assignsCache.get? query = _
    rw [Js.Tables.untrack_frame]
    exact OrderedMap.get_delete engine.assignsCache userId query
  | snapshot userId assigns changed =>
    have reassigned : ∀ key value,
        (engine.tables.reassign userId (some (parsedMap assigns)) key value).assignsCache.get? query =
          if query = userId then (engine.assignsCache.get? query).map fun _ => parsedMap assigns
          else engine.assignsCache.get? query := by
      intro key value
      unfold Js.Tables.reassign
      cases found : engine.assignsCache.get? userId with
      | none =>
        rw [show engine.tables.assignsCache.get? userId = none from found]
        exact kept userId _ fun same => by simp [same, found]
      | some current =>
        rw [show engine.tables.assignsCache.get? userId = some current from found]
        exact set userId _ _ fun same => by simp [same, found]
    cases changed with
    | none => exact reassigned none .undefined
    | some pair => exact reassigned (some pair.1) pair.2.parse
  | delta userId key value =>
    change (engine.tables.reassign userId none (some key) value.parse).assignsCache.get? query = _
    unfold Js.Tables.reassign
    cases found : engine.assignsCache.get? userId with
    | none =>
      rw [show engine.tables.assignsCache.get? userId = none from found]
      exact kept userId _ fun same => by simp [jsEntry, same, found]
    | some current =>
      rw [show engine.tables.assignsCache.get? userId = some current from found]
      dsimp only
      by_cases empty : key = ""
      · rw [if_pos empty]
        exact kept userId _ fun same => by simp [jsEntry, same, empty]
      · rw [if_neg empty]
        exact set userId _ _ fun same => by simp [jsEntry, same, found, empty]

end TableMessage

def SameAssigns (go : Option Assigns) (js : Option PondAssigns) : Prop :=
  match go, js with
  | none, none => True
  | some here, some there => ∀ key, there.get? key = (here.get? key).map Json.parse
  | _, _ => False

namespace TableMessage

def Idle (message : TableMessage) (entry : Option Assigns) : Prop :=
  match message with
  | .userJoined _ _ _ => entry.isSome = true
  | .userLeft _ => entry = none
  | .snapshot _ assigns _ => ∀ current, entry = some current → ∀ key, current.get? key = assigns.get? key
  | .delta _ key value => ∀ current, entry = some current → key = "" ∨ current.get? key = some value

def Fits (message : TableMessage) (entry : Option Assigns) : Prop :=
  match message with
  | .userJoined _ _ assigns => ∀ current, entry = some current → ∀ key, current.get? key = assigns.get? key
  | .userLeft _ => True
  | .snapshot _ assigns _ =>
    ∃ current, entry = some current ∧ ∀ key, current.has key = true → assigns.has key = true
  | .delta _ key value => ∃ current, entry = some current ∧ (key = "" ∨ current.get? key = some value)

theorem map_parse_inj (here there : Option Json) : here.map Json.parse = there.map Json.parse ↔ here = there := by
  constructor
  · intro same
    exact Option.map_injective Js.parse_injective same
  · rintro rfl
    rfl

variable {there : Option PondAssigns} {here : Option Assigns}

theorem fits_iff (message : TableMessage) (same : SameAssigns here there) :
    SameAssigns (message.goEntry here) (message.jsEntry there) ↔ message.Fits here := by
  cases here with
  | none =>
    cases there with
    | some => exact same.elim
    | none =>
      cases message with
      | userJoined => simp [goEntry, jsEntry, SameAssigns, Fits, get_parsed_map, get_relisted]
      | userLeft | snapshot | delta => simp [goEntry, jsEntry, SameAssigns, Fits]
  | some here =>
    cases there with
    | none => exact same.elim
    | some there =>
      have equal : ∀ key, there.get? key = (here.get? key).map Json.parse := same
      cases message with
      | userJoined =>
        simp only [goEntry, jsEntry, SameAssigns, Fits, get_relisted, Option.getD_some, equal, map_parse_inj,
          Option.some.injEq]
        exact ⟨fun alike current known => known ▸ alike, fun alike => alike here rfl⟩
      | userLeft => simp [goEntry, jsEntry, SameAssigns, Fits]
      | snapshot _ assigns =>
        simp only [goEntry, jsEntry, SameAssigns, Fits, Option.map_some, Option.getD_some, OrderedMap.get_merge,
          get_parsed_map, get_relisted, map_parse_inj, Option.some.injEq, exists_eq_left']
        refine forall_congr' fun key => ?_
        simp only [OrderedMap.has]
        cases assigns.get? key <;> cases here.get? key <;> simp
      | delta _ key value =>
        simp only [goEntry, jsEntry, SameAssigns, Fits, Option.map_some, Option.getD_some, Option.some.injEq,
          exists_eq_left']
        by_cases empty : key = ""
        · simp [empty, equal]
        simp only [empty, if_false, false_or]
        constructor
        · intro alike
          have mine := alike key
          rw [OrderedMap.get_set_same] at mine
          exact ((map_parse_inj (some value) (here.get? key)).mp mine).symm
        · intro held query
          rw [OrderedMap.get_set]
          by_cases hit : query = key
          · rw [if_pos hit, hit, held]
            rfl
          · rw [if_neg hit, equal]

theorem idle_iff (message : TableMessage) (same : SameAssigns here there) :
    SameAssigns here (message.jsEntry there) ↔ message.Idle here := by
  cases here with
  | none =>
    cases there with
    | some => exact same.elim
    | none => cases message <;> simp [jsEntry, SameAssigns, Idle]
  | some here =>
    cases there with
    | none => exact same.elim
    | some there =>
      have equal : ∀ key, there.get? key = (here.get? key).map Json.parse := same
      cases message with
      | userJoined => simp [jsEntry, SameAssigns, Idle, equal]
      | userLeft => simp [jsEntry, SameAssigns, Idle]
      | snapshot =>
        simp only [jsEntry, SameAssigns, Idle, Option.map_some, get_parsed_map, map_parse_inj,
          Option.some.injEq, forall_eq']
        exact forall_congr' fun key => eq_comm
      | delta userId key value =>
        have kept := fits_iff (.delta userId key value) same
        simp only [goEntry, Fits, Option.getD_some, Option.some.injEq, exists_eq_left'] at kept
        simp only [Idle, Option.some.injEq, forall_eq']
        exact kept

end TableMessage

structure Replica where
  channel : Channel
  engine : ChannelEngine

structure Arrival where
  moment : Moment
  frame : Frame
  message : TableMessage

namespace Replica

variable (replica : Replica) (nodeId : NodeId)

def step (replica : Replica) (arrival : Arrival) : Replica :=
  let text := arrival.message.text arrival.frame
  ⟨(replica.channel.onChannelTopic arrival.moment text).1,
    replica.engine.receiveText arrival.moment.now arrival.frame.sourceNodeId text.parse⟩

def Aligned (replica : Replica) : Prop :=
  ∀ userId, replica.channel.store.has userId = false →
    SameAssigns (replica.channel.reported userId) (replica.engine.getAssigns.get? userId)

def Sound (replica : Replica) (arrival : Arrival) : Prop :=
  let entry := replica.channel.reported arrival.message.userId
  replica.channel.store.has arrival.message.userId = true ∨
    if arrival.message.userId = "" then arrival.message.Idle entry else arrival.message.Fits entry

structure Attached (nodeId : NodeId) (replica : Replica) : Prop where
  running : replica.channel.done = false
  distributed : replica.channel.distributed = true
  node : replica.channel.nodeId = nodeId

theorem reported_remote (attached : replica.Attached nodeId) (userId : UserId)
    (remote : replica.channel.store.has userId = false) :
    replica.channel.reported userId = replica.channel.remoteAssigns.get? userId := by
  have absent : replica.channel.store.store.get? userId = none := OrderedMap.has_false_iff.mp remote
  rw [replica.channel.reported_eq attached.running attached.distributed, absent, Option.none_or]

variable {replica nodeId}

theorem attached_step {arrival : Arrival} (attached : replica.Attached nodeId)
    (foreign : arrival.frame.sourceNodeId ≠ nodeId) : (replica.step arrival).Attached nodeId := by
  have changed := replica.channel.receives arrival.moment arrival.frame arrival.message attached.running
    (by rw [attached.node]; exact foreign)
  exact ⟨changed.done.trans attached.running, changed.distributed.trans attached.distributed,
    changed.nodeId.trans attached.node⟩

theorem aligned_step {arrival : Arrival} (attached : replica.Attached nodeId)
    (foreign : arrival.frame.sourceNodeId ≠ nodeId) (aligned : replica.Aligned) :
    (replica.step arrival).Aligned ↔ replica.Sound arrival := by
  have changed := replica.channel.receives arrival.moment arrival.frame arrival.message attached.running
    (by rw [attached.node]; exact foreign)
  have next := attached_step attached foreign
  -- An entry after the step, in terms of the entry before it.
  have entry : ∀ userId, replica.channel.store.has userId = false →
      (SameAssigns ((replica.step arrival).channel.reported userId)
          ((replica.step arrival).engine.getAssigns.get? userId) ↔
        (userId = arrival.message.userId →
          if userId = "" then arrival.message.Idle (replica.channel.reported userId)
          else arrival.message.Fits (replica.channel.reported userId))) := by
    intro userId remote
    have same := aligned userId remote
    have still : (replica.step arrival).channel.store.has userId = false := (changed.locals userId).trans remote
    have go : (replica.step arrival).channel.reported userId =
        if userId = arrival.message.userId ∧ userId ≠ "" then
          arrival.message.goEntry (replica.channel.reported arrival.message.userId)
        else replica.channel.reported userId := by
      rw [reported_remote _ nodeId next userId still]
      refine (changed.remote userId remote).trans ?_
      by_cases hit : userId = arrival.message.userId ∧ userId ≠ ""
      · rw [if_pos hit, if_pos hit, ← hit.1, reported_remote _ nodeId attached userId remote]
      · rw [if_neg hit, if_neg hit, reported_remote _ nodeId attached userId remote]
    have js : (replica.step arrival).engine.getAssigns.get? userId =
        if userId = arrival.message.userId then arrival.message.jsEntry (replica.engine.getAssigns.get? userId)
        else replica.engine.getAssigns.get? userId :=
      arrival.message.js_receives
    rw [go, js]
    by_cases mine : userId = arrival.message.userId
    · by_cases empty : userId = ""
      · rw [if_neg fun both => both.2 empty, if_pos mine, arrival.message.idle_iff same]
        simp [mine, mine ▸ empty]
      · rw [if_pos ⟨mine, empty⟩, if_pos mine, ← mine, arrival.message.fits_iff same]
        simp [empty]
    · simp [mine, same]
  constructor
  · intro good
    by_cases here : replica.channel.store.has arrival.message.userId = true
    · exact .inl here
    · have remote := Bool.eq_false_iff.mpr here
      exact .inr ((entry _ remote).mp (good _ ((changed.locals _).trans remote)) rfl)
  · intro sound userId remote
    have before : replica.channel.store.has userId = false := (changed.locals userId).symm.trans remote
    refine (entry userId before).mpr ?_
    rintro rfl
    rcases sound with here | fits
    · rw [before] at here
      cases here
    · exact fits

def fresh : Replica := ⟨emptyRoom "room", .new "api" "room" "node-2" (some ⟨"node-2", 90000⟩)⟩

def arrival (message : TableMessage) : Arrival :=
  ⟨⟨0, "uuid", true⟩, ⟨⟨"message-1", 0, epoch_fits⟩, "node-3", "api", "room"⟩, message⟩

def userAssigns (keys : List String) : Assigns := .ofList (keys.map fun key => (key, .bool true))

theorem fresh_aligned : fresh.Aligned := by
  intro userId _
  trivial

end Replica

end PondSocket.Go
