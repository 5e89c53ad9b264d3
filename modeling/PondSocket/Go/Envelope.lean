import PondSocket.Go.Protocol

namespace PondSocket.Go

open Library OrderedMap
open Js (Json UserId NodeId)

-- uuid.NewString and time.Now().UnixMilli, which is an int64.
structure Stamp where
  messageId : String
  timestamp : Int
  fits : -2 ^ 63 ≤ timestamp ∧ timestamp < 2 ^ 63

theorem epoch_fits : -2 ^ 63 ≤ (0 : Int) ∧ (0 : Int) < 2 ^ 63 := by decide

def textEntry (key text : String) : List (String × Json) := if text = "" then [] else [(key, .string text)]

def nonNil : Json → Option Json
  | .null => none
  | value => some value

def valueEntry (key : String) (value : Json) : List (String × Json) :=
  match nonNil value with
  | none => []
  | some value => [(key, value)]

def sliceEntry (key : String) (items : List Json) : List (String × Json) :=
  if items.isEmpty then [] else [(key, .array items)]

def DistributedUser.marshal (user : DistributedUser) : Json :=
  .object [("id", .string user.id), ("assigns", user.assigns), ("presence", user.presence)]

namespace DistributedEnvelope

def kindText (env : DistributedEnvelope) : String :=
  match env.type with
  | none => ""
  | some kind => kind.text

def headEntries (env : DistributedEnvelope) (stamp : Stamp) (endpointName : String) : List (String × Json) :=
  [("protocol", .string distributedProtocol), ("version", .number 1), ("type", .string env.kindText),
    ("messageId", .string stamp.messageId), ("sourceNodeId", .string env.sourceNodeId),
    ("endpointName", .string endpointName), ("channelName", .string env.channelName),
    ("timestamp", .number stamp.timestamp)]

def bodyEntries (env : DistributedEnvelope) : List (String × Json) :=
  textEntry "fromUserId" env.fromUserId ++ (textEntry "event" env.event ++ (valueEntry "payload" env.payload ++
    (textEntry "requestId" env.requestId ++ (valueEntry "recipientDescriptor" env.recipientDescriptor ++
    (textEntry "userId" env.userId ++ (valueEntry "presence" env.presence ++
    (sliceEntry "presenceList" env.presenceList ++ (textEntry "presenceEvent" env.presenceEvent ++
    (valueEntry "assigns" env.assigns ++ (textEntry "reason" env.reason ++ (textEntry "fromNode" env.fromNode ++
    (sliceEntry "users" (env.users.map DistributedUser.marshal) ++ textEntry "nodeId" env.nodeId))))))))))))

def marshal (env : DistributedEnvelope) (stamp : Stamp) (endpointName : String) : Json :=
  .object (env.headEntries stamp endpointName ++ env.bodyEntries)

end DistributedEnvelope

def newEnvelope (msgType : MsgType) (channel : String) (nodeId : NodeId) : DistributedEnvelope where
  type := some msgType
  sourceNodeId := nodeId
  channelName := channel
  fromUserId := ""
  event := ""
  payload := .null
  requestId := ""
  recipientDescriptor := .null
  userId := ""
  presence := .null
  presenceList := []
  presenceEvent := ""
  assigns := .null
  reason := ""
  fromNode := ""
  users := []
  nodeId := ""

def encodeStateRequest (stamp : Stamp) (endpoint channel : String) (nodeId : NodeId) : Json :=
  { newEnvelope .stateRequest channel nodeId with fromNode := nodeId }.marshal stamp endpoint

def encodeStateResponse (stamp : Stamp) (endpoint channel : String) (nodeId : NodeId)
    (users : List DistributedUser) : Json :=
  { newEnvelope .stateResponse channel nodeId with users := users }.marshal stamp endpoint

def encodeUserJoined (stamp : Stamp) (endpoint channel : String) (nodeId : NodeId) (userId : UserId)
    (presence assigns : Json) : Json :=
  { newEnvelope .userJoined channel nodeId with userId := userId, presence := presence, assigns := assigns }.marshal
    stamp endpoint

def encodeUserLeft (stamp : Stamp) (endpoint channel : String) (nodeId : NodeId) (userId : UserId) : Json :=
  { newEnvelope .userLeft channel nodeId with userId := userId }.marshal stamp endpoint

def encodeHeartbeat (stamp : Stamp) (endpoint channel : String) (nodeId : NodeId) : Json :=
  { newEnvelope .nodeHeartbeat channel nodeId with nodeId := nodeId }.marshal stamp endpoint

def encodeAssignsUpdate (stamp : Stamp) (endpoint channel : String) (nodeId : NodeId) (userId : UserId)
    (assigns : Json) : Json :=
  { newEnvelope .assignsUpdate channel nodeId with userId := userId, assigns := assigns }.marshal stamp endpoint

theorem find_text (query key text : String) :
    OrderedMap.findEntry query (textEntry key text) =
      if query = key ∧ text ≠ "" then some (.string text) else none := by
  unfold textEntry
  by_cases empty : text = ""
  · simp [empty, findEntry]
  · by_cases same : query = key <;> simp [empty, findEntry]

theorem find_value (query key : String) (value : Json) :
    OrderedMap.findEntry query (valueEntry key value) = if query = key then nonNil value else none := by
  unfold valueEntry
  cases nonNil value <;> by_cases same : query = key <;> simp [findEntry]

theorem non_nil_get (value : Json) : (nonNil value).getD .null = value := by
  cases value <;> rfl

theorem find_slice (query key : String) (items : List Json) :
    OrderedMap.findEntry query (sliceEntry key items) =
      if query = key ∧ items ≠ [] then some (.array items) else none := by
  cases items <;> by_cases same : query = key <;> simp [sliceEntry, findEntry]

theorem decode_users_marshal (users : List DistributedUser) :
    decodeUsers (users.map DistributedUser.marshal) = some users := by
  induction users with
  | nil => rfl
  | cons user _ ih =>
    have one : decodeUser user.marshal = some user := by
      simp [decodeUser, DistributedUser.marshal, stringField, index, findEntry]
    simp [decodeUsers, one, ih]

namespace DistributedEnvelope

variable (env : DistributedEnvelope) (stamp : Stamp) (endpointName : String)

variable {key : String}

theorem read_text {data : Json} {text : String} (written : index data key = if text = "" then .null else .string text) :
    stringField data key = some text := by
  unfold stringField
  rw [written]
  by_cases empty : text = ""
  · rw [if_pos empty, empty]
  · rw [if_neg empty]

theorem read_slice {data : Json} {items : List Json}
    (written : index data key = if items = [] then .null else .array items) : sliceField data key = some items := by
  unfold sliceField
  rw [written]
  by_cases empty : items = []
  · rw [if_pos empty, empty]
  · rw [if_neg empty]

theorem find_head (endpointName key : String) :
    index (env.marshal stamp endpointName) key = ((OrderedMap.findEntry key (env.headEntries stamp endpointName)).or
        (OrderedMap.findEntry key env.bodyEntries)).getD .null := by
  rw [marshal, index, find_append]

theorem find_body_text {endpointName text : String}
    (written : (OrderedMap.findEntry key (env.headEntries stamp endpointName)).or
      (OrderedMap.findEntry key env.bodyEntries) = if text ≠ "" then some (.string text) else none) :
    stringField (env.marshal stamp endpointName) key = some text := by
  refine read_text ?_
  rw [find_head, written]
  by_cases empty : text = "" <;> simp [empty]

theorem body_texts :
    stringField (env.marshal stamp endpointName) "fromUserId" = some env.fromUserId ∧
      stringField (env.marshal stamp endpointName) "event" = some env.event ∧
      stringField (env.marshal stamp endpointName) "requestId" = some env.requestId ∧
      stringField (env.marshal stamp endpointName) "userId" = some env.userId ∧
      stringField (env.marshal stamp endpointName) "presenceEvent" = some env.presenceEvent ∧
      stringField (env.marshal stamp endpointName) "reason" = some env.reason ∧
      stringField (env.marshal stamp endpointName) "fromNode" = some env.fromNode ∧
      stringField (env.marshal stamp endpointName) "nodeId" = some env.nodeId := by
  refine ⟨?_, ?_, ?_, ?_, ?_, ?_, ?_, ?_⟩ <;>
    exact find_body_text env stamp
      (by simp [headEntries, bodyEntries, find_append, find_text, find_value, find_slice, findEntry])

theorem body_values :
    index (env.marshal stamp endpointName) "payload" = env.payload ∧
      index (env.marshal stamp endpointName) "recipientDescriptor" = env.recipientDescriptor ∧
      index (env.marshal stamp endpointName) "presence" = env.presence ∧
      index (env.marshal stamp endpointName) "assigns" = env.assigns := by
  refine ⟨?_, ?_, ?_, ?_⟩ <;>
    simp [find_head, headEntries, bodyEntries, find_append, find_text, find_value, find_slice, findEntry, non_nil_get]

theorem body_slices :
    sliceField (env.marshal stamp endpointName) "presenceList" = some env.presenceList ∧
      sliceField (env.marshal stamp endpointName) "users" = some (env.users.map DistributedUser.marshal) := by
  constructor
  · refine read_slice ?_
    by_cases empty : env.presenceList = [] <;>
      simp [find_head, headEntries, bodyEntries, find_append, find_text, find_value, find_slice, findEntry, empty]
  · refine read_slice ?_
    by_cases empty : env.users = [] <;>
      simp [find_head, headEntries, bodyEntries, find_append, find_text, find_value, find_slice, findEntry, empty]

theorem decode_marshal
    (known : env.type.isSome = true) : decodeEnvelope (env.marshal stamp endpointName) = some env := by
  obtain ⟨kind, same⟩ := Option.isSome_iff_exists.mp known
  have type : MsgType.ofText env.kindText = env.type := by
    rw [kindText, same]
    exact MsgType.of_text kind
  have head : ∀ key text, findEntry key (env.headEntries stamp endpointName) = some (.string text) →
      stringField (env.marshal stamp endpointName) key = some text := by
    intro key text found
    rw [stringField, find_head, found]
    rfl
  have version : intField (env.marshal stamp endpointName) "version" 64 = some distributedVersion := by
    simp [intField, find_head, headEntries, findEntry, distributedVersion]
  have timestamp : intField (env.marshal stamp endpointName) "timestamp" 64 = some stamp.timestamp := by
    have fits := stamp.fits
    simp [intField, find_head, headEntries, findEntry]
    omega
  obtain ⟨fromUserId, event, requestId, userId, presenceEvent, reason, fromNode, nodeId⟩ :=
    env.body_texts stamp endpointName
  obtain ⟨payload, descriptor, presence, assigns⟩ := env.body_values stamp endpointName
  obtain ⟨presenceList, users⟩ := env.body_slices stamp endpointName
  rw [decodeEnvelope, head "protocol" distributedProtocol rfl, head "type" env.kindText rfl,
    head "messageId" stamp.messageId rfl, head "sourceNodeId" env.sourceNodeId rfl,
    head "endpointName" endpointName rfl, head "channelName" env.channelName rfl, version, timestamp, fromUserId, event,
    requestId, userId, presenceEvent, reason, fromNode, nodeId, presenceList, users, payload, descriptor, presence,
    assigns]
  simp [decode_users_marshal, type]

end DistributedEnvelope

end PondSocket.Go
