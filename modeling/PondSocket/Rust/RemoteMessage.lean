import PondSocket.Rust.PresenceReplica

namespace PondSocket.Rust

open Library
open Js (Json UserId NodeId)
open Go (MsgType asString asMap asSlice)

-- The messages about membership and state, and those to users. A user of a state
-- response comes with presence and assigns.
inductive RemoteMessage where
  | userJoined (userId : UserId) (presence assigns : Table)
  | userLeft (userId : UserId)
  | stateResponse (users : List (UserId × Table × Table))
  | assignsUpdate (userId : UserId) (assigns : Option Table) (delta : Option (String × Json))
  | presenceUpdate (userId : UserId) (presence : Table)
  | presenceRemoved (userId : UserId)
  | userMessage (fromUserId : UserId) (event : String) (recipientDescriptor : Option Json)

abbrev Row := Option Table × Option Table

namespace RemoteMessage

def kind : RemoteMessage → MsgType
  | .userJoined _ _ _ => .userJoined
  | .userLeft _ => .userLeft
  | .stateResponse _ => .stateResponse
  | .assignsUpdate _ _ _ => .assignsUpdate
  | .presenceUpdate _ _ => .presenceUpdate
  | .presenceRemoved _ => .presenceRemoved
  | .userMessage _ _ _ => .userMessage

def users : RemoteMessage → List UserId
  | .userJoined userId _ _ | .userLeft userId | .assignsUpdate userId _ _ | .presenceUpdate userId _
  | .presenceRemoved userId => [userId]
  | .stateResponse users => users.map Prod.fst
  | .userMessage _ _ _ => []

def SpellsUser (user : UserId × Table × Table) (item : Json) : Prop :=
  get item "id" = some (.string user.1) ∧ get item "presence" = some (tableJson user.2.1) ∧
    get item "assigns" = some (tableJson user.2.2)

-- The fields of a text say the message; a text may have other fields besides.
def Spells (data : Json) : RemoteMessage → Prop
  | .userJoined userId presence assigns =>
    get data "userId" = some (.string userId) ∧ get data "presence" = some (tableJson presence) ∧
      get data "assigns" = some (tableJson assigns)
  | .userLeft userId | .presenceRemoved userId => get data "userId" = some (.string userId)
  | .stateResponse users => ∃ items, get data "users" = some (.array items) ∧ List.Forall₂ SpellsUser users items
  | .assignsUpdate userId assigns delta =>
    get data "userId" = some (.string userId) ∧ get data "assigns" = assigns.map tableJson ∧
      get data "key" = delta.map (fun changed => .string changed.1) ∧ get data "value" = delta.map Prod.snd
  | .presenceUpdate userId presence =>
    get data "userId" = some (.string userId) ∧ get data "presence" = some (tableJson presence)
  | .userMessage fromUserId event recipientDescriptor =>
    get data "fromUserId" = some (.string fromUserId) ∧ get data "event" = some (.string event) ∧
      get data "recipientDescriptor" = recipientDescriptor

def adoptRow (userId : UserId) (row : Row) (user : UserId × Table × Table) : Row :=
  if user.1 = userId then (some user.2.2, if user.2.1.isEmpty then row.2 else some user.2.1) else row

-- The delta, if there is one, is taken instead of the snapshot.
def updated (assigns : Option Table) (delta : Option (String × Json)) (current : Table) : Table :=
  match delta with
  | some (key, value) => current.set key value
  | none => current.merge (assigns.getD .empty)

def effect (userId : UserId) (row : Row) : RemoteMessage → Row
  | .userJoined other presence assigns => adoptRow userId row (other, presence, assigns)
  | .userLeft other => if other = userId then (none, none) else row
  | .stateResponse users => users.foldl (adoptRow userId) row
  | .assignsUpdate other assigns delta =>
    if other = userId then (row.1.map (updated assigns delta), row.2) else row
  | .presenceUpdate other presence =>
    if Channel.presenceUser (Channel.orInsertUserId presence other) = some userId then
      (row.1, some (Channel.orInsertUserId presence other))
    else row
  | .presenceRemoved other => if other = userId then (row.1, none) else row
  | .userMessage _ _ _ => row

end RemoteMessage

structure Enveloped (data : Json) (kind : MsgType) (source : NodeId) (channelName : String) : Prop where
  protocol : get data "protocol" = some (.string "pondsocket.distributed")
  version : get data "version" = some (.number 1)
  type : get data "type" = some (.string kind.text)
  messageId : ∃ text, get data "messageId" = some (.string text)
  sourceNodeId : get data "sourceNodeId" = some (.string source)
  endpointName : ∃ text, get data "endpointName" = some (.string text)
  channel : get data "channelName" = some (.string channelName)
  timestamp : ∃ value, get data "timestamp" = some (.number value)

variable {source : NodeId} {data : Json}

theorem read_enveloped {kind : MsgType} {channelName : String} (uuid : String)
    (enveloped : Enveloped data kind source channelName) :
    fromBytes uuid data = eventOf data channelName ((getStr data "requestId").getD uuid) source kind := by
  have version : asI64 (.number 1) = some 1 := by decide
  simp only [fromBytes, getStr, enveloped.protocol, enveloped.version, enveloped.type, enveloped.sourceNodeId,
    enveloped.channel, Option.bind_some, asString, version, MsgType.of_text, Option.bind_eq_bind]
  rfl

theorem index_get (data : Json) (key : String) : Go.index data key = (get data key).getD .null := by
  cases data <;> rfl

structure Undisturbed (before after : Channel) : Prop where
  name : after.name = before.name
  nodeId : after.nodeId = before.nodeId
  active : after.active = before.active
  connections : after.connections = before.connections

theorem undisturbed_refl {channel : Channel} : Undisturbed channel channel := ⟨rfl, rfl, rfl, rfl⟩

theorem undisturbed_trans {first second third : Channel} (early : Undisturbed first second)
    (late : Undisturbed second third) : Undisturbed first third :=
  ⟨late.name.trans early.name, late.nodeId.trans early.nodeId, late.active.trans early.active,
    late.connections.trans early.connections⟩

variable {userId : UserId} {presence : Table}

theorem with_user_id_object :
    withUserId (tableJson presence) (.string userId) = tableJson (Channel.orInsertUserId presence userId) := by
  rw [Channel.orInsertUserId]
  split
  · rename_i present
    exact with_user_id presence (.string userId) present
  rename_i absent
  have missing : "userId" ∉ presence.entries.map Prod.fst := fun member =>
    absent (OrderedMap.mem_keys.mp member)
  simp only [withUserId, tableJson, OrderedMap.set, OrderedMap.put_entry_absent missing]
  exact if_neg absent

namespace Channel

variable (channel : Channel) (moment : Moment) {event : Event}

def row (channel : Channel) (userId : UserId) : Row := (channel.assigns.get? userId, channel.presence.get? userId)

variable {nodeId : NodeId}

theorem track_undisturbed {now : Nat} :
    Undisturbed channel (channel.trackNodeUser now nodeId userId) ∧
      ∀ other, (channel.trackNodeUser now nodeId userId).row other = channel.row other := by
  simp only [trackNodeUser]
  split
  · exact ⟨undisturbed_refl, fun _ => rfl⟩
  · exact ⟨⟨rfl, rfl, rfl, rfl⟩, fun _ => rfl⟩

theorem untrack_undisturbed :
    Undisturbed channel (channel.untrackNodeUser nodeId userId) ∧
      ∀ other, (channel.untrackNodeUser nodeId userId).row other = channel.row other := by
  simp only [untrackNodeUser]
  split
  · exact ⟨undisturbed_refl, fun _ => rfl⟩
  split
  · exact ⟨undisturbed_refl, fun _ => rfl⟩
  · exact ⟨⟨rfl, rfl, rfl, rfl⟩, fun _ => rfl⟩

variable {assigns : Table}

theorem adopt_effect {now : Nat} :
    Undisturbed channel (channel.adoptUser now nodeId userId (some (tableJson assigns)) (some (tableJson presence))) ∧
      ∀ other, (channel.adoptUser now nodeId userId (some (tableJson assigns)) (some (tableJson presence))).row other =
        RemoteMessage.adoptRow other (channel.row other) (userId, presence, assigns) := by
  simp only [adoptUser, Option.bind_some, as_map_table, Option.getD_some]
  obtain ⟨kept, rows⟩ := track_undisturbed { channel with
    assigns := channel.assigns.set userId assigns
    presence := if presence.isEmpty then channel.presence else channel.presence.set userId presence }
  refine ⟨⟨kept.name, kept.nodeId, kept.active, kept.connections⟩, fun other => ?_⟩
  rw [rows other]
  simp only [row, RemoteMessage.adoptRow, OrderedMap.get_set]
  by_cases same : userId = other
  · rw [if_pos same, if_pos same.symm]
    split
    · rfl
    · rw [OrderedMap.get_set, if_pos same.symm]
  rw [if_neg same, if_neg (Ne.symm same)]
  split
  · rfl
  · rw [OrderedMap.get_set, if_neg (Ne.symm same)]

theorem listed_effect (now : Nat) (nodeId : NodeId) {users : List (UserId × Table × Table)}
    {items : List Json} (spelled : List.Forall₂ RemoteMessage.SpellsUser users items)
    (foreign : ∀ user ∈ users, channel.hasUser user.1 = false) :
    Undisturbed channel (items.foldl (handleStateResponseUser now nodeId) channel) ∧
      ∀ other, (items.foldl (handleStateResponseUser now nodeId) channel).row other =
        users.foldl (RemoteMessage.adoptRow other) (channel.row other) := by
  induction spelled generalizing channel with
  | nil => exact ⟨undisturbed_refl, fun _ => rfl⟩
  | @cons user item _ _ said _ ih =>
    obtain ⟨id, presence, assigns⟩ := said
    have away := foreign user (List.mem_cons_self ..)
    have named : getStr item "id" = some user.1 := by
      rw [getStr, id]
      rfl
    have first : handleStateResponseUser now nodeId channel item =
        channel.adoptUser now nodeId user.1 (some (tableJson user.2.2)) (some (tableJson user.2.1)) := by
      simp only [handleStateResponseUser, named, away, presence, assigns]
      exact if_neg Bool.false_ne_true
    obtain ⟨kept, rows⟩ := channel.adopt_effect
    rw [List.foldl_cons, first]
    obtain ⟨later, all⟩ := ih _ fun other member => by
      rw [hasUser, kept.connections]
      exact foreign other (List.mem_cons_of_mem _ member)
    refine ⟨undisturbed_trans kept later, fun other => ?_⟩
    rw [all other, rows other, List.foldl_cons]

theorem handles {kind : MsgType} {event : Event} (enveloped : Enveloped data kind source channel.name)
    (foreign : ¬ (source ≠ "" ∧ source = channel.nodeId))
    (read : eventOf data channel.name ((getStr data "requestId").getD moment.uuid) source kind = some event)
    (named : event.channelName = channel.name) (sent : event.nodeId = source) :
    channel.handlePubsubMessage moment data = channel.dispatchPubsubEvent moment event := by
  have decoded := read_enveloped moment.uuid enveloped
  rw [read] at decoded
  simp [handlePubsubMessage, decoded, named, sent, if_neg foreign]

theorem joined_effect (payload : event.payload = .object [("userId", .string userId), ("presence", tableJson presence),
      ("assigns", tableJson assigns)]) (away : channel.hasUser userId = false) :
    Undisturbed channel (channel.handleRemoteUserJoined moment event) ∧
      ∀ other, (channel.handleRemoteUserJoined moment event).row other =
        RemoteMessage.effect other (channel.row other) (.userJoined userId presence assigns) := by
  have user : getStr event.payload "userId" = some userId := by
    rw [payload]
    rfl
  have hasPresence : get event.payload "presence" = some (tableJson presence) := by
    rw [payload]
    rfl
  have hasAssigns : get event.payload "assigns" = some (tableJson assigns) := by
    rw [payload]
    rfl
  simp only [handleRemoteUserJoined, user, away, Bool.false_eq_true, if_false, hasPresence, hasAssigns]
  exact channel.adopt_effect

theorem left_effect (payload : event.payload = .object [("userId", .string userId)])
    (away : channel.hasUser userId = false) :
    Undisturbed channel (channel.handleRemoteUserLeft event) ∧ ∀ other, (channel.handleRemoteUserLeft event).row other =
        RemoteMessage.effect other (channel.row other) (.userLeft userId) := by
  have user : getStr event.payload "userId" = some userId := by
    rw [payload]
    rfl
  simp only [handleRemoteUserLeft, user, away, Bool.false_eq_true, if_false]
  obtain ⟨kept, rows⟩ := untrack_undisturbed { channel with
    assigns := channel.assigns.delete userId
    presence := channel.presence.delete userId }
  refine ⟨⟨kept.name, kept.nodeId, kept.active, kept.connections⟩, fun other => ?_⟩
  rw [rows other]
  simp only [row, RemoteMessage.effect, OrderedMap.get_delete, eq_comm]
  split <;> rfl

theorem update_effect {assigns : Option Table} {delta : Option (String × Json)} (kind : event.event = "assigns:update")
    (payload : event.payload = .object [("userId", .string userId),
      ("key", (delta.map fun changed => .string changed.1).getD .null), ("value", (delta.map Prod.snd).getD .null),
      ("assigns", (assigns.map tableJson).getD (.object []))]) :
    Undisturbed channel (channel.handleRemoteAssigns event) ∧ ∀ other, (channel.handleRemoteAssigns event).row other =
        RemoteMessage.effect other (channel.row other) (.assignsUpdate userId assigns delta) := by
  have user : getStr event.payload "userId" = some userId := by
    rw [payload]
    rfl
  have merged : ∀ current, mergedAssigns current event.payload = RemoteMessage.updated assigns delta current := by
    intro current
    cases delta with
    | some changed =>
      have key : getStr event.payload "key" = some changed.1 := by
        rw [payload]
        rfl
      have value : getOr event.payload "value" .null = changed.2 := by
        rw [payload]
        rfl
      simp [mergedAssigns, key, value, RemoteMessage.updated]
    | none =>
      have key : getStr event.payload "key" = none := by
        rw [payload]
        rfl
      have sent : (get event.payload "assigns").bind asMap = some (assigns.getD .empty) := by
        rw [payload]
        cases assigns with
        | none => rfl
        | some => exact as_map_table
      simp [mergedAssigns, key, sent, RemoteMessage.updated]
  have unmoved : ¬ event.event ≠ "assigns:update" := fun other => other kind
  simp only [handleRemoteAssigns, if_neg unmoved, user]
  cases held : channel.assigns.get? userId with
  | none =>
    refine ⟨undisturbed_refl, fun other => ?_⟩
    simp only [RemoteMessage.effect]
    split
    · rename_i same
      rw [row, ← same, held]
      rfl
    · rfl
  | some =>
    refine ⟨⟨rfl, rfl, rfl, rfl⟩, fun other => ?_⟩
    simp only [row, RemoteMessage.effect, OrderedMap.get_set, merged]
    by_cases same : userId = other
    · rw [if_pos same, if_pos same.symm, ← same, held]
      rfl
    · rw [if_neg same, if_neg (Ne.symm same)]

theorem dispatch_message (kind : event.action = "BROADCAST") :
    channel.dispatchPubsubEvent moment event =
      channel.dispatchLocalBestEffort moment.room event (channel.messageRecipients event) := by
  simp [dispatchPubsubEvent, kind]

theorem dispatch_assigns (kind : event.action = "ASSIGNS") :
    channel.dispatchPubsubEvent moment event = channel.handleRemoteAssigns event := by
  simp [dispatchPubsubEvent, kind]

theorem presence_change_effect (kind : event.action = "PRESENCE") (effect : UserId → Row → Row)
    (table : ∀ other, (channel.assigns.get? other, (channel.changedPresence event).get? other) =
      effect other (channel.row other)) :
    Undisturbed channel (channel.dispatchPubsubEvent moment event) ∧
      ∀ other, (channel.dispatchPubsubEvent moment event).row other = effect other (channel.row other) := by
  obtain ⟨_, dispatched⟩ := channel.remote_presence_effect event kind
  rw [dispatched, dispatch_frame]
  exact ⟨⟨rfl, rfl, rfl, rfl⟩, table⟩

theorem remote_effect {message : RemoteMessage} (enveloped : Enveloped data message.kind source channel.name)
    (spelled : message.Spells data) (foreign : ¬ (source ≠ "" ∧ source = channel.nodeId))
    (away : ∀ userId ∈ message.users, channel.hasUser userId = false) :
    Undisturbed channel (channel.handlePubsubMessage moment data) ∧
      ∀ userId, (channel.handlePubsubMessage moment data).row userId =
        RemoteMessage.effect userId (channel.row userId) message := by
  cases message with
  | userJoined userId =>
    obtain ⟨user, hasPresence, hasAssigns⟩ := spelled
    have absent := away userId (List.mem_singleton_self _)
    rw [channel.handles moment enveloped foreign rfl rfl rfl]
    apply channel.joined_effect moment _ absent
    simp only [Event.new, getOr, user, hasPresence, hasAssigns, Option.getD_some]
  | userLeft userId =>
    have absent := away userId (List.mem_singleton_self _)
    have user : get data "userId" = some (.string userId) := spelled
    rw [channel.handles moment enveloped foreign rfl rfl rfl]
    apply channel.left_effect _ absent
    simp only [Event.new, getOr, user, Option.getD_some]
  | stateResponse users =>
    obtain ⟨items, listed, each⟩ := spelled
    rw [channel.handles moment enveloped foreign rfl rfl rfl]
    have handled := channel.listed_effect moment.now source each fun user member =>
      away user.1 (List.mem_map_of_mem member)
    have given : getOr data "users" (.array []) = .array items := by
      rw [getOr, listed, Option.getD_some]
    rw [given]
    exact handled
  | assignsUpdate =>
    obtain ⟨user, hasAssigns, key, value⟩ := spelled
    rw [channel.handles moment enveloped foreign rfl rfl rfl]
    rw [channel.dispatch_assigns moment rfl]
    apply channel.update_effect
    · rfl
    · simp only [Event.new, getOr, user, hasAssigns, key, value, Option.getD_some]
  | presenceUpdate userId presence =>
    obtain ⟨user, hasPresence⟩ := spelled
    rw [channel.handles moment enveloped foreign rfl rfl rfl]
    apply channel.presence_change_effect moment _ (fun other row => RemoteMessage.effect other row (.presenceUpdate userId presence))
    · intro other
      have changed : withUserId (getOr data "presence" (.object [])) (getOr data "userId" (.string "")) =
          tableJson (orInsertUserId presence userId) := by
        rw [getOr, getOr, user, hasPresence]
        exact with_user_id_object
      have read : ∀ payload, payload = Json.object [("presence", .array []),
          ("changed", withUserId (getOr data "presence" (.object [])) (getOr data "userId" (.string "")))] →
          ((get payload "changed").bind asMap).getD .empty = orInsertUserId presence userId := by
        intro payload same
        rw [same, changed]
        exact congrArg (Option.getD · .empty) as_map_table
      simp only [changedPresence, Event.new, read _ rfl, RemoteMessage.effect]
      cases named : presenceUser (orInsertUserId presence userId) with
      | none => rfl
      | some target =>
        have kept : ("UPDATE" : String) ≠ "LEAVE" := by decide
        simp only [if_neg kept, OrderedMap.get_set, Option.some.injEq, row]
        by_cases same : target = other
        · rw [if_pos same, if_pos same.symm]
        · rw [if_neg same, if_neg (Ne.symm same)]
    · rfl
  | presenceRemoved userId =>
    have user : get data "userId" = some (.string userId) := spelled
    rw [channel.handles moment enveloped foreign rfl rfl rfl]
    apply channel.presence_change_effect moment _ (fun other row => RemoteMessage.effect other row (.presenceRemoved userId))
    · intro other
      have named : ∀ payload, payload = Json.object [("presence", .array []),
          ("changed", .object [("userId", getOr data "userId" (.string ""))])] →
          presenceUser (((get payload "changed").bind asMap).getD .empty) = some userId := by
        intro payload same
        rw [same, getOr, user]
        rfl
      simp only [changedPresence, Event.new, named _ rfl, RemoteMessage.effect, if_true, OrderedMap.get_delete, row, eq_comm]
      split <;> rfl
    · rfl
  | userMessage _ event =>
    obtain ⟨_, said, _⟩ := spelled
    have text : getStr data "event" = some event := by
      rw [getStr, said]
      rfl
    rw [channel.handles moment enveloped foreign (by
      simp only [eventOf, text, Option.bind_eq_bind, Option.bind_some]
      rfl) rfl rfl]
    rw [channel.dispatch_message moment rfl, dispatch_frame]
    exact ⟨⟨rfl, rfl, rfl, rfl⟩, fun _ => rfl⟩

end Channel

end PondSocket.Rust
