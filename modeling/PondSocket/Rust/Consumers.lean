import PondSocket.Rust.RemoteMessage
import PondSocket.Go.AssignsReplica

namespace PondSocket.Js

open Library

-- The users of a well-formed state response.
def stateUser (item : JsValue) : Option StateUser :=
  match item.field "id", asObject (item.field "assigns") with
  | .string id, some assigns => some ⟨id, asObject (item.field "presence"), assigns⟩
  | _, _ => none

def stateUsers : JsValue → Option (List StateUser)
  | .array items => some (items.filterMap stateUser)
  | _ => none

-- What the handlers of membership and state read of a parsed message.
def consumedBody (message : JsValue) : Option MessageBody :=
  match message.field "type", message.field "userId" with
  | .string "STATE_RESPONSE", _ => some (.stateResponse (stateUsers (message.field "users")))
  | .string "PRESENCE_UPDATE", .string userId => some (.presenceUpdate userId (asObject (message.field "presence")))
  | .string "PRESENCE_REMOVED", .string userId => some (.presenceRemoved userId)
  | _, _ => tableBody message

-- The listener of subscribeToChannel, of an engine that has subscribed; a message
-- to users is handed on and changes no table.
def ChannelEngine.consumes (engine : ChannelEngine) (now : Nat) (message : JsValue) : ChannelEngine :=
  match engine.backend with
  | none => engine
  | some backend =>
    if isValidMessage message = false ∨ (message.field "sourceNodeId").equals backend.nodeId = true then engine
    else
      match consumedBody message with
      | none => engine
      | some body =>
        engine.handleDistributedMessage now
          ⟨engine.endpointId, engine.name, asText (message.field "sourceNodeId"), body⟩

def Tables.row (tables : Tables) (userId : UserId) : Option PondAssigns × Option PondPresence :=
  (tables.assignsCache.get? userId, tables.presenceCache.get? userId)

end PondSocket.Js

namespace PondSocket.Rust

open Library
open Js (Json JsValue UserId NodeId ChannelEngine MessageBody PondAssigns PondPresence StateUser)
open Go (MsgType asString asMap asSlice parsedMap SameAssigns)

namespace Channel

def isIdle (channel : Channel) (joinsInFlight : Nat) : Bool :=
  channel.connections.isEmpty && decide (joinsInFlight = 0) && channel.nodeUsers.values.all (fun users => users.isEmpty)

def closed (channel : Channel) : Channel :=
  { channel with
    active := false
    connections := .empty
    assigns := .empty
    presence := .empty
    nodeUsers := .empty
    nodeLastSeen := .empty }

-- handle_remote_user_left gets to its end.
def leaves (channel : Channel) (moment : Moment) (data : Json) : Bool :=
  match fromBytes moment.uuid data with
  | none => false
  | some event =>
    decide (event.action = "USER_LEFT" ∧ event.channelName = channel.name ∧
      ¬ (event.nodeId ≠ "" ∧ event.nodeId = channel.nodeId)) &&
    (getStr event.payload "userId").any fun userId => !channel.hasUser userId

-- The subscription of a channel, with the removal of an idle channel by its lobby.
-- lobby is the number of the channel's joins in flight, and none if there is no
-- lobby any more that lists the channel.
def consumes (channel : Channel) (moment : Moment) (lobby : Option Nat) (data : Json) : Channel :=
  if channel.active = false then channel
  else
    let next := channel.handlePubsubMessage moment data
    if (channel.leaves moment data && lobby.any next.isIdle) = true then next.closed else next

-- The users whom a message puts into the dispatch queue.
def addressees (channel : Channel) (moment : Moment) (lobby : Option Nat) (data : Json) : List UserId :=
  ((channel.consumes moment lobby data).dispatched.drop channel.dispatched.length).flatMap DispatchItem.recipients

end Channel

namespace RemoteMessage

-- A USER_LEFT after which nobody is left whom the channel is kept for.
def Closes (channel : Channel) (source : NodeId) (lobby : Option Nat) : RemoteMessage → Prop
  | .userLeft userId =>
    lobby = some 0 ∧ channel.connections.isEmpty = true ∧
      ∀ node users other, channel.nodeUsers.get? node = some users → users.has other = true →
        source ≠ "" ∧ node = source ∧ other = userId
  | _ => False

end RemoteMessage

variable {message : RemoteMessage} {data : Json} {userId : UserId}

namespace Channel

theorem all_empty_iff (nodeUsers : OrderedMap NodeId (OrderedSet UserId)) :
    nodeUsers.values.all (fun users => users.isEmpty) = true ↔
      ∀ node users other, nodeUsers.get? node = some users → users.has other = false := by
  rw [List.all_eq_true]
  constructor
  · intro all node users other found
    have member : users ∈ nodeUsers.values :=
      List.mem_map.mpr ⟨(node, users), OrderedMap.mem_entries.mpr found, rfl⟩
    exact OrderedMap.empty_iff.mp (all users member) other
  · intro none users member
    obtain ⟨⟨node, _⟩, listed, rfl⟩ := List.mem_map.mp member
    have found := OrderedMap.mem_entries.mp listed
    exact OrderedMap.empty_iff.mpr fun other => none node _ other found

theorem untrack_empty_iff (channel : Channel) (nodeId : NodeId) (userId : UserId) :
    (channel.untrackNodeUser nodeId userId).nodeUsers.values.all (fun users => users.isEmpty) = true ↔
      ∀ node users other, channel.nodeUsers.get? node = some users → users.has other = true →
        nodeId ≠ "" ∧ node = nodeId ∧ other = userId := by
  rw [all_empty_iff]
  have same : (∀ node users other, channel.nodeUsers.get? node = some users → users.has other = true →
      nodeId ≠ "" ∧ node = nodeId ∧ other = userId) ↔
      ∀ node users other, channel.nodeUsers.get? node = some users →
        ¬ (nodeId ≠ "" ∧ node = nodeId ∧ other = userId) → users.has other = false := by
    refine forall_congr' fun node => forall_congr' fun users => forall_congr' fun other => ?_
    rw [← Bool.not_eq_true]
    tauto
  rw [same]
  simp only [untrackNodeUser]
  by_cases unnamed : nodeId = ""
  · simp [unnamed]
  rw [if_neg unnamed]
  cases tracked : channel.nodeUsers.get? nodeId with
  | none =>
    refine forall_congr' fun node => forall_congr' fun users => forall_congr' fun other => forall_congr' fun found => ?_
    have different : node ≠ nodeId := by
      rintro rfl
      rw [tracked] at found
      cases found
    simp [different]
  | some members =>
    -- The row of the node, and the rows of the others.
    constructor
    · intro none node users other found apart
      by_cases here : node = nodeId
      · subst here
        rw [tracked] at found
        cases found
        have named : other ≠ userId := fun same => apart ⟨unnamed, rfl, same⟩
        cases empty : (members.delete userId).isEmpty with
        | true =>
          have gone := OrderedMap.empty_iff.mp empty other
          rw [Bool.eq_false_iff] at gone ⊢
          exact fun member => gone (OrderedMap.has_delete.mpr ⟨named, member⟩)
        | false =>
          have left := none node (members.delete userId) other (by
            simp [empty])
          rw [Bool.eq_false_iff] at left ⊢
          exact fun member => left (OrderedMap.has_delete.mpr ⟨named, member⟩)
      · apply none node users other
        dsimp only
        split
        · rw [OrderedMap.get_delete_other here]
          exact found
        · rw [OrderedMap.get_set_other here]
          exact found
    · intro none node users other found
      dsimp only at found
      split at found
      · by_cases here : node = nodeId
        · rw [here, OrderedMap.get_delete_same] at found
          cases found
        · rw [OrderedMap.get_delete_other here] at found
          exact none node users other found fun both => here both.2.1
      by_cases here : node = nodeId
      · rw [here, OrderedMap.get_set_same] at found
        cases found
        rw [Bool.eq_false_iff]
        intro member
        obtain ⟨named, before⟩ := OrderedMap.has_delete.mp member
        have absent := none nodeId members other tracked fun both => named both.2.2
        rw [before] at absent
        cases absent
      · rw [OrderedMap.get_set_other here] at found
        exact none node users other found fun both => here both.2.1

theorem left_through (channel : Channel) (moment : Moment) {source : NodeId}
    (enveloped : Enveloped data message.kind source channel.name) (spelled : message.Spells data)
    (foreign : ¬ (source ≠ "" ∧ source = channel.nodeId))
    (away : ∀ userId ∈ message.users, channel.hasUser userId = false) :
    channel.leaves moment data = true ↔ ∃ userId, message = .userLeft userId := by
  have decoded := read_enveloped moment.uuid enveloped
  simp only [leaves, decoded]
  cases message with
  | userLeft userId =>
    have user : get data "userId" = some (.string userId) := spelled
    have absent := away userId (List.mem_singleton_self _)
    refine iff_of_true ?_ ⟨userId, rfl⟩
    simp only [RemoteMessage.kind, eventOf, Event.new, getOr, user, Option.getD_some, Bool.and_eq_true, decide_eq_true_eq]
    refine ⟨⟨trivial, trivial, foreign⟩, ?_⟩
    simp only [getStr, get_object, OrderedMap.findEntry, if_true, Option.bind_some, asString, Option.any_some, absent,
      Bool.not_false]
  | userMessage _ event =>
    obtain ⟨_, said, _⟩ := spelled
    have text : getStr data "event" = some event := by
      rw [getStr, said]
      rfl
    refine iff_of_false ?_ ?_
    · simp [RemoteMessage.kind, eventOf, text]
    · rintro ⟨userId, same⟩
      cases same
  | _ =>
    refine iff_of_false ?_ ?_
    · simp [RemoteMessage.kind, eventOf, Event.new]
    · rintro ⟨_, same⟩
      cases same

theorem left_node_users (channel : Channel) (moment : Moment) {source : NodeId}
    (enveloped : Enveloped data .userLeft source channel.name) (user : get data "userId" = some (.string userId))
    (foreign : ¬ (source ≠ "" ∧ source = channel.nodeId)) (away : channel.hasUser userId = false) :
    (channel.handlePubsubMessage moment data).nodeUsers = (channel.untrackNodeUser source userId).nodeUsers := by
  rw [channel.handles moment enveloped foreign rfl rfl rfl]
  have named : getStr (.object [("userId", getOr data "userId" (.string ""))]) "userId" = some userId := by
    rw [getOr, user]
    rfl
  have handled : ∀ event : Event, event.payload = .object [("userId", getOr data "userId" (.string ""))] →
      event.nodeId = source → (channel.handleRemoteUserLeft event).nodeUsers =
        (channel.untrackNodeUser source userId).nodeUsers := by
    intro event payload node
    simp only [handleRemoteUserLeft, payload, named, away, Bool.false_eq_true, if_false, node, untrackNodeUser]
    split
    · rfl
    · cases channel.nodeUsers.get? source <;> rfl
  exact handled _ rfl rfl

theorem consumed_effect (channel : Channel) (moment : Moment) (lobby : Option Nat) {source : NodeId}
    (enveloped : Enveloped data message.kind source channel.name) (spelled : message.Spells data)
    (foreign : ¬ (source ≠ "" ∧ source = channel.nodeId))
    (away : ∀ userId ∈ message.users, channel.hasUser userId = false) (active : channel.active = true) :
    (message.Closes channel source lobby ∧ channel.consumes moment lobby data =
        (channel.handlePubsubMessage moment data).closed) ∨
      ¬ message.Closes channel source lobby ∧ channel.consumes moment lobby data =
        channel.handlePubsubMessage moment data := by
  have running : ¬ channel.active = false := by
    rw [active]
    exact Bool.true_eq_false.mp
  have through := channel.left_through moment enveloped spelled foreign away
  have idle : (channel.leaves moment data && lobby.any (channel.handlePubsubMessage moment data).isIdle) = true ↔
      message.Closes channel source lobby := by
    rw [Bool.and_eq_true, through]
    cases message with
    | userLeft userId =>
      have absent := away userId (List.mem_singleton_self _)
      obtain ⟨kept, _⟩ := channel.remote_effect moment enveloped spelled foreign away
      have nodes := channel.left_node_users moment enveloped spelled foreign absent
      rw [RemoteMessage.Closes, ← untrack_empty_iff channel source userId, ← nodes]
      cases lobby with
      | none => simp
      | some =>
        simp only [Option.any_some, isIdle, kept.connections, Bool.and_eq_true, decide_eq_true_eq, Option.some.injEq]
        constructor
        · rintro ⟨_, ⟨nobody, finished⟩, alone⟩
          exact ⟨finished, nobody, alone⟩
        · rintro ⟨finished, nobody, alone⟩
          exact ⟨⟨userId, rfl⟩, ⟨nobody, finished⟩, alone⟩
    | _ => simp [RemoteMessage.Closes]
  simp only [consumes, if_neg running]
  by_cases closes : message.Closes channel source lobby
  · exact .inl ⟨closes, if_pos (idle.mpr closes)⟩
  · exact .inr ⟨closes, if_neg fun both => closes (idle.mp both)⟩

end Channel

theorem parsed_get (data : Json) (key : String) : data.parse.field key = ((get data key).map Json.parse).getD .undefined := by
  cases data with
  | object => rw [Json.parse, JsValue.field, Js.find_parsed, get_object]
  | null | bool value | number value | string value | array items => rfl

theorem parsed_table (table : Table) : Js.asObject (tableJson table).parse = some (parsedMap table) := rfl

theorem parsed_empty (table : Table) : (parsedMap table).isEmpty = table.isEmpty := by
  rw [Bool.eq_iff_iff, OrderedMap.empty_iff, OrderedMap.empty_iff]
  refine forall_congr' fun key => ?_
  rw [OrderedMap.has, OrderedMap.has, Go.get_parsed_map, Option.isSome_map]

variable {channelName : String}

theorem parsed_head {kind : MsgType} {source : NodeId} (enveloped : Enveloped data kind source channelName) :
    Js.isValidMessage data.parse = true ∧ data.parse.field "type" = .string kind.text ∧
      data.parse.field "sourceNodeId" = .string source := by
  obtain ⟨messageId, hasMessageId⟩ := enveloped.messageId
  obtain ⟨endpointName, hasEndpointName⟩ := enveloped.endpointName
  obtain ⟨timestamp, hasTimestamp⟩ := enveloped.timestamp
  have type : data.parse.field "type" = .string kind.text := by
    rw [parsed_get, enveloped.type]
    rfl
  have source : data.parse.field "sourceNodeId" = .string source := by
    rw [parsed_get, enveloped.sourceNodeId]
    rfl
  refine ⟨?_, type, source⟩
  have object : data.parse.typeOf = "object" := by
    have protocol := enveloped.protocol
    cases data with
    | object => rfl
    | _ => cases protocol
  have known : Js.distributedMessageTypes.any (fun name => (JsValue.string kind.text).equals name) = true := by
    cases kind <;> decide
  simp only [Js.isValidMessage, object, type, source, known]
  simp [parsed_get, enveloped.protocol, enveloped.version, hasMessageId, hasEndpointName, enveloped.channel, hasTimestamp,
    Json.parse, JsValue.equals, JsValue.isString, JsValue.isNumber]

variable {users : List (UserId × Table × Table)}

namespace RemoteMessage

def body : RemoteMessage → Option MessageBody
  | .userJoined userId presence assigns => some (.userJoined userId (some (parsedMap presence)) (parsedMap assigns))
  | .userLeft userId => some (.userLeft userId)
  | .stateResponse users =>
    some (.stateResponse (some (users.map fun user => ⟨user.1, some (parsedMap user.2.1), parsedMap user.2.2⟩)))
  | .assignsUpdate userId assigns delta =>
    some (.assignsUpdate userId (assigns.map parsedMap) (delta.map Prod.fst)
      ((delta.map fun changed => changed.2.parse).getD .undefined))
  | .presenceUpdate userId presence => some (.presenceUpdate userId (some (parsedMap presence)))
  | .presenceRemoved userId => some (.presenceRemoved userId)
  | .userMessage _ _ _ => none

theorem parsed_users {items : List Json} (spelled : List.Forall₂ SpellsUser users items) :
    items.filterMap (fun item => Js.stateUser item.parse) =
      users.map fun user => ⟨user.1, some (parsedMap user.2.1), parsedMap user.2.2⟩ := by
  induction spelled with
  | nil => rfl
  | @cons user item _ _ said _ ih =>
    obtain ⟨id, presence, assigns⟩ := said
    have read : Js.stateUser item.parse = some ⟨user.1, some (parsedMap user.2.1), parsedMap user.2.2⟩ := by
      simp [Js.stateUser, parsed_get, id, presence, assigns, Json.parse, parsed_table]
    rw [List.filterMap_cons, read, List.map_cons, ← ih]

theorem consumed_body (message : RemoteMessage) {source : NodeId}
    (enveloped : Enveloped data message.kind source channelName) (spelled : message.Spells data) :
    Js.consumedBody data.parse = message.body := by
  obtain ⟨_, type, _⟩ := parsed_head enveloped
  cases message with
  | userJoined =>
    obtain ⟨user, hasPresence, hasAssigns⟩ := spelled
    simp [Js.consumedBody, Js.tableBody, type, kind, MsgType.text, parsed_get, user, hasPresence, hasAssigns, Json.parse,
      JsValue.equals, parsed_table, body]
  | userLeft userId =>
    have user : get data "userId" = some (.string userId) := spelled
    simp [Js.consumedBody, Js.tableBody, type, kind, MsgType.text, parsed_get, user, Json.parse, JsValue.equals, body]
  | stateResponse =>
    obtain ⟨_, listed, each⟩ := spelled
    simp [Js.consumedBody, type, kind, MsgType.text, parsed_get, listed, Json.parse, Js.stateUsers, Js.parse_items,
      body]
    exact parsed_users each
  | assignsUpdate _ assigns delta =>
    obtain ⟨user, hasAssigns, key, value⟩ := spelled
    have noObject : Js.asObject .undefined = none := rfl
    have noText : Js.asText .undefined = none := rfl
    have someText : ∀ text, Js.asText (.string text) = some text := fun _ => rfl
    cases assigns <;> cases delta <;>
      simp [Js.consumedBody, Js.tableBody, type, kind, MsgType.text, parsed_get, user, hasAssigns, key, value, Json.parse,
        JsValue.equals, parsed_table, noObject, noText, someText, body]
  | presenceUpdate =>
    obtain ⟨user, hasPresence⟩ := spelled
    simp [Js.consumedBody, type, kind, MsgType.text, parsed_get, user, hasPresence, Json.parse, parsed_table, body]
  | presenceRemoved userId =>
    have user : get data "userId" = some (.string userId) := spelled
    simp [Js.consumedBody, type, kind, MsgType.text, parsed_get, user, Json.parse, body]
  | userMessage =>
    simp only [Js.consumedBody, type, kind, MsgType.text, Js.tableBody, body]
    cases data.parse.field "userId" <;> simp [JsValue.equals]

def listRow (userId : UserId) (row : Option PondAssigns × Option PondPresence) (user : UserId × Table × Table) :
    Option PondAssigns × Option PondPresence :=
  if user.1 = userId ∧ row.1.isNone = true then
    (some (parsedMap user.2.2), if user.2.1.isEmpty then row.2 else some (parsedMap user.2.1))
  else row

def reassigned (assigns : Option Table) (delta : Option (String × Json)) (current : PondAssigns) : PondAssigns :=
  match assigns, delta with
  | some assigns, _ => parsedMap assigns
  | none, some (key, value) => if key = "" then current else current.set key value.parse
  | none, none => current

def engineEffect (userId : UserId) (row : Option PondAssigns × Option PondPresence) :
    RemoteMessage → Option PondAssigns × Option PondPresence
  | .userJoined other presence assigns =>
    if other = userId ∧ row.1.isNone = true then
      (some (parsedMap assigns), if presence.isEmpty || row.2.isSome then row.2 else some (parsedMap presence))
    else row
  | .userLeft other => if other = userId then (none, none) else row
  | .stateResponse users => users.foldl (listRow userId) row
  | .assignsUpdate other assigns delta => if other = userId then (row.1.map (reassigned assigns delta), row.2) else row
  | .presenceUpdate other presence => if other = userId then (row.1, some (parsedMap presence)) else row
  | .presenceRemoved other => if other = userId then (row.1, none) else row
  | .userMessage _ _ _ => row

end RemoteMessage

variable (tables : Js.Tables)

structure Hosting (before after : Js.Tables) : Prop where
  backend : after.backend = before.backend
  publisher : after.publisher = before.publisher

variable {source : Option NodeId} {now : Nat}

theorem track_hosting :
    Hosting tables (tables.track now source userId) ∧
      ∀ other, (tables.track now source userId).row other = tables.row other := by
  rw [Js.Tables.track_frame]
  exact ⟨⟨rfl, rfl⟩, fun _ => rfl⟩

theorem untrack_hosting :
    Hosting tables (tables.untrack source userId) ∧
      ∀ other, (tables.untrack source userId).row other = tables.row other := by
  rw [Js.Tables.untrack_frame]
  exact ⟨⟨rfl, rfl⟩, fun _ => rfl⟩

theorem list_hosting (now : Nat) (source : Option NodeId) (userId other : UserId) (assigns : PondAssigns) :
    Hosting tables ((tables.list userId assigns).track now source userId) ∧
      ((tables.list userId assigns).track now source userId).row other =
        if userId = other then (some assigns, tables.presenceCache.get? other) else tables.row other := by
  obtain ⟨kept, rows⟩ := track_hosting (tables.list userId assigns)
  refine ⟨⟨kept.backend, kept.publisher⟩, ?_⟩
  rw [rows]
  simp only [Js.Tables.row, Js.Tables.list, OrderedMap.get_set]
  by_cases same : userId = other
  · rw [if_pos same, if_pos same.symm]
  · rw [if_neg same, if_neg (Ne.symm same)]

theorem present_row {other : UserId} {presence : PondPresence} :
    (tables.present userId presence).row other =
      if userId = other then ((tables.row other).1, some presence) else tables.row other := by
  simp only [Js.Tables.row, Js.Tables.present, OrderedMap.get_set]
  by_cases same : userId = other
  · rw [if_pos same, if_pos same.symm]
  · rw [if_neg same, if_neg (Ne.symm same)]

theorem unknown_iff (userId : UserId) :
    tables.assignsCache.has userId = true ↔ ¬ (tables.row userId).1.isNone = true := by
  rw [OrderedMap.has, Js.Tables.row]
  cases tables.assignsCache.get? userId <;> simp

theorem adopt_hosting {user : UserId × Table × Table} :
    Hosting tables (Js.Tables.adoptUser now source tables ⟨user.1, some (parsedMap user.2.1), parsedMap user.2.2⟩) ∧
      ∀ other, (Js.Tables.adoptUser now source tables ⟨user.1, some (parsedMap user.2.1), parsedMap user.2.2⟩).row other =
        RemoteMessage.listRow other (tables.row other) user := by
  have known := unknown_iff tables user.1
  simp only [Js.Tables.adoptUser, RemoteMessage.listRow, parsed_empty]
  by_cases listed : tables.assignsCache.has user.1 = true
  · rw [if_pos listed]
    refine ⟨⟨rfl, rfl⟩, fun other => ?_⟩
    rw [if_neg]
    rintro ⟨same, absent⟩
    exact known.mp listed (same ▸ absent)
  rw [if_neg listed]
  have absent : (tables.row user.1).1.isNone = true := by
    by_contra present
    exact listed (known.mpr present)
  have stored := fun other => list_hosting tables now source user.1 other (parsedMap user.2.2)
  obtain ⟨kept, _⟩ := stored user.1
  by_cases empty : user.2.1.isEmpty = true
  · rw [if_pos empty]
    refine ⟨kept, fun other => ?_⟩
    rw [(stored other).2]
    by_cases same : user.1 = other
    · rw [if_pos same, if_pos ⟨same, same ▸ absent⟩, if_pos empty]
      rfl
    · rw [if_neg same, if_neg fun both => same both.1]
  · rw [if_neg empty]
    refine ⟨⟨kept.backend, kept.publisher⟩, fun other => ?_⟩
    rw [present_row, (stored other).2]
    by_cases same : user.1 = other
    · rw [if_pos same, if_pos same, if_pos ⟨same, same ▸ absent⟩, if_neg empty]
    · rw [if_neg same, if_neg same, if_neg fun both => same both.1]

theorem adopt_all_hosting :
    Hosting tables ((users.map fun user => (⟨user.1, some (parsedMap user.2.1), parsedMap user.2.2⟩ : StateUser)).foldl
        (Js.Tables.adoptUser now source) tables) ∧
      ∀ other, ((users.map fun user => (⟨user.1, some (parsedMap user.2.1), parsedMap user.2.2⟩ : StateUser)).foldl
        (Js.Tables.adoptUser now source) tables).row other = users.foldl (RemoteMessage.listRow other) (tables.row other) := by
  induction users generalizing tables with
  | nil => exact ⟨⟨rfl, rfl⟩, fun _ => rfl⟩
  | cons user _ ih =>
    obtain ⟨kept, rows⟩ := adopt_hosting tables
    rw [List.map_cons, List.foldl_cons]
    obtain ⟨later, all⟩ := ih (Js.Tables.adoptUser now source tables ⟨user.1, some (parsedMap user.2.1), parsedMap user.2.2⟩)
    refine ⟨⟨later.backend.trans kept.backend, later.publisher.trans kept.publisher⟩, fun other => ?_⟩
    rw [all other, rows other, List.foldl_cons]

variable {tables}

theorem reassign_hosting {assigns : Option Table} {delta : Option (String × Json)} :
    Hosting tables (tables.reassign userId (assigns.map parsedMap) (delta.map Prod.fst)
        ((delta.map fun changed => changed.2.parse).getD .undefined)) ∧
      ∀ other, (tables.reassign userId (assigns.map parsedMap) (delta.map Prod.fst)
        ((delta.map fun changed => changed.2.parse).getD .undefined)).row other =
          RemoteMessage.engineEffect other (tables.row other) (.assignsUpdate userId assigns delta) := by
  have listed : ∀ current table, tables.assignsCache.get? userId = some current →
      RemoteMessage.reassigned assigns delta current = table → ∀ other, (tables.list userId table).row other =
        RemoteMessage.engineEffect other (tables.row other) (.assignsUpdate userId assigns delta) := by
    rintro current _ held rfl other
    simp only [Js.Tables.row, Js.Tables.list, RemoteMessage.engineEffect, OrderedMap.get_set]
    by_cases same : userId = other
    · rw [if_pos same, if_pos same.symm, ← same, held]
      rfl
    · rw [if_neg same, if_neg (Ne.symm same)]
  have kept : (∀ current, tables.assignsCache.get? userId = some current →
      RemoteMessage.reassigned assigns delta current = current) → ∀ other, tables.row other =
        RemoteMessage.engineEffect other (tables.row other) (.assignsUpdate userId assigns delta) := by
    intro idle other
    simp only [RemoteMessage.engineEffect]
    by_cases same : userId = other
    · rw [if_pos same, ← same]
      simp only [Js.Tables.row]
      cases held : tables.assignsCache.get? userId with
      | none => rfl
      | some current => rw [Option.map_some, idle current held]
    · rw [if_neg same]
  simp only [Js.Tables.reassign]
  cases held : tables.assignsCache.get? userId with
  | none =>
    refine ⟨⟨rfl, rfl⟩, kept fun current there => ?_⟩
    rw [held] at there
    cases there
  | some current =>
    cases assigns with
    | some => exact ⟨⟨rfl, rfl⟩, listed current _ held rfl⟩
    | none =>
      cases delta with
      | none => exact ⟨⟨rfl, rfl⟩, kept fun _ _ => rfl⟩
      | some changed =>
        simp only [Option.map_none, Option.map_some, Option.getD_some]
        by_cases empty : changed.1 = ""
        · rw [if_pos empty]
          exact ⟨⟨rfl, rfl⟩, kept fun _ _ => if_pos empty⟩
        · rw [if_neg empty]
          exact ⟨⟨rfl, rfl⟩, listed current _ held (if_neg empty)⟩

theorem joined_hosting {presence assigns : Table} :
    Hosting tables (tables.joined now source userId (some (parsedMap presence)) (parsedMap assigns)) ∧
      ∀ other, (tables.joined now source userId (some (parsedMap presence)) (parsedMap assigns)).row other =
        RemoteMessage.engineEffect other (tables.row other) (.userJoined userId presence assigns) := by
  have known := unknown_iff tables userId
  simp only [Js.Tables.joined, RemoteMessage.engineEffect, parsed_empty]
  by_cases listed : tables.assignsCache.has userId = true
  · rw [if_pos listed]
    refine ⟨⟨rfl, rfl⟩, fun other => ?_⟩
    rw [if_neg]
    rintro ⟨same, absent⟩
    exact known.mp listed (same ▸ absent)
  rw [if_neg listed]
  have absent : (tables.row userId).1.isNone = true := by
    by_contra present
    exact listed (known.mpr present)
  have stored := fun other => list_hosting tables now source userId other (parsedMap assigns)
  obtain ⟨kept, _⟩ := stored userId
  have tracked : ((tables.list userId (parsedMap assigns)).track now source userId).presenceCache.has userId =
      (tables.row userId).2.isSome := by
    rw [Js.Tables.track_frame]
    rfl
  rw [tracked]
  by_cases idle : (presence.isEmpty || (tables.row userId).2.isSome) = true
  · rw [if_pos idle]
    refine ⟨kept, fun other => ?_⟩
    rw [(stored other).2]
    by_cases same : userId = other
    · subst same
      rw [if_pos rfl, if_pos ⟨rfl, absent⟩, if_pos idle]
      rfl
    · rw [if_neg same, if_neg fun both => same both.1]
  · rw [if_neg idle]
    refine ⟨⟨kept.backend, kept.publisher⟩, fun other => ?_⟩
    rw [present_row, (stored other).2]
    by_cases same : userId = other
    · subst same
      rw [if_pos rfl, if_pos rfl, if_pos ⟨rfl, absent⟩, if_neg idle]
    · rw [if_neg same, if_neg same, if_neg fun both => same both.1]

theorem received_effect {heard : Js.DistributedMessage} (said : message.body = some heard.body) :
    Hosting tables (tables.receive now heard) ∧
      ∀ userId, (tables.receive now heard).row userId = message.engineEffect userId (tables.row userId) := by
  obtain ⟨_, _, _, _⟩ := heard
  cases message with
  | userJoined =>
    cases Option.some.inj said
    exact joined_hosting
  | userLeft userId =>
    cases Option.some.inj said
    obtain ⟨kept, rows⟩ := untrack_hosting (tables.forget userId)
    refine ⟨⟨kept.backend, kept.publisher⟩, fun other => (rows other).trans ?_⟩
    simp only [Js.Tables.row, Js.Tables.forget, RemoteMessage.engineEffect, OrderedMap.get_delete, eq_comm]
    split <;> rfl
  | stateResponse =>
    cases Option.some.inj said
    exact adopt_all_hosting tables
  | assignsUpdate =>
    cases Option.some.inj said
    exact reassign_hosting
  | presenceUpdate =>
    cases Option.some.inj said
    exact ⟨⟨rfl, rfl⟩, fun other => present_row tables⟩
  | presenceRemoved =>
    cases Option.some.inj said
    refine ⟨⟨rfl, rfl⟩, fun other => ?_⟩
    simp only [Js.Tables.receive, Js.Tables.row, Js.Tables.unpresent, RemoteMessage.engineEffect, OrderedMap.get_delete, eq_comm]
    split <;> rfl
  | userMessage => cases said

theorem engine_consumes {engine : ChannelEngine} (now : Nat) {source : NodeId} {backend : Js.DistributedBackend}
    (attached : engine.backend = some backend) (foreign : source ≠ backend.nodeId)
    (enveloped : Enveloped data message.kind source channelName) (spelled : message.Spells data) :
    Hosting engine.tables (engine.consumes now data.parse).tables ∧
      ∀ userId, (engine.consumes now data.parse).tables.row userId =
        message.engineEffect userId (engine.tables.row userId) := by
  obtain ⟨valid, _, sender⟩ := parsed_head enveloped
  have taken : ¬ (Js.isValidMessage data.parse = false ∨
      (data.parse.field "sourceNodeId").equals backend.nodeId = true) := by
    rw [valid, sender, Js.equals_iff, JsValue.string.injEq]
    simp [foreign]
  simp only [ChannelEngine.consumes, attached, if_neg taken, message.consumed_body enveloped spelled]
  cases said : message.body with
  | none =>
    refine ⟨⟨rfl, rfl⟩, fun userId => ?_⟩
    cases message with
    | userMessage => rfl
    | _ => cases said
  | some =>
    rw [ChannelEngine.tables_receive]
    exact received_effect said

end PondSocket.Rust
