import PondSocket.Rust.Channel

namespace PondSocket.Rust

open Library
open Js (Json UserId NodeId)
open Go (asString asMap asSlice)

namespace Channel

def trackNodeUser (channel : Channel) (now : Nat) (nodeId : NodeId) (userId : UserId) : Channel :=
  if nodeId = "" then channel
  else
    { channel with
      nodeUsers := channel.nodeUsers.set nodeId (((channel.nodeUsers.get? nodeId).getD .empty).add userId)
      nodeLastSeen := if channel.nodeLastSeen.has nodeId then channel.nodeLastSeen
        else channel.nodeLastSeen.set nodeId now }

def untrackNodeUser (channel : Channel) (nodeId : NodeId) (userId : UserId) : Channel :=
  if nodeId = "" then channel
  else
    match channel.nodeUsers.get? nodeId with
    | none => channel
    | some users =>
      let users := users.delete userId
      { channel with
        nodeUsers := if users.isEmpty then channel.nodeUsers.delete nodeId
          else channel.nodeUsers.set nodeId users }

def presenceUser (changed : Table) : Option UserId :=
  ((changed.get? "userId").or (changed.get? "id")).bind asString

def setPresence (payload : Json) (snapshot : List Json) : Json :=
  match payload with
  | .object fields => .object (OrderedMap.putEntry "presence" (.array snapshot) fields)
  | other => other

def handleRemotePresence (channel : Channel) (event : Event) : Channel × Event × List UserId :=
  let changed := ((get event.payload "changed").bind asMap).getD .empty
  let channel := match presenceUser changed with
    | none => channel
    | some userId =>
      { channel with
        presence := if event.event = "LEAVE" then channel.presence.delete userId
          else channel.presence.set userId changed }
  (channel, { event with payload := setPresence event.payload channel.localPresenceSnapshot.1 },
    channel.localPresenceSnapshot.2)

-- The delta, if there is one, is taken instead of the snapshot.
def mergedAssigns (assigns : Table) (payload : Json) : Table :=
  match getStr payload "key" with
  | some key => assigns.set key (getOr payload "value" .null)
  | none =>
    match (get payload "assigns").bind asMap with
    | some remote => assigns.merge remote
    | none => assigns

def handleRemoteAssigns (channel : Channel) (event : Event) : Channel :=
  if event.event ≠ "assigns:update" then channel
  else
    match getStr event.payload "userId" with
    | none => channel
    | some userId =>
      match channel.assigns.get? userId with
      | none => channel
      | some assigns => { channel with assigns := channel.assigns.set userId (mergedAssigns assigns event.payload) }

-- What the handlers of replicated users store: the assigns, a presence that is an
-- object with entries, and the node.
def adoptUser (channel : Channel) (now : Nat) (nodeId : NodeId) (userId : UserId) (assigns presence : Option Json) :
    Channel :=
  let channel := { channel with
    assigns := channel.assigns.set userId ((assigns.bind asMap).getD .empty)
    presence := match presence.bind asMap with
      | some presence => if presence.isEmpty then channel.presence else channel.presence.set userId presence
      | none => channel.presence }
  channel.trackNodeUser now nodeId userId

def handleUserGetRequest (channel : Channel) (event : Event) (userId : UserId) : Channel :=
  if channel.hasUser userId then
    let requestId := (getStr event.payload "requestId").getD event.requestId
    channel.publishEventToPubsub (channel.userGetResponse userId requestId
      ((channel.assigns.get? userId).getD .empty) ((channel.presence.get? userId).getD .empty)) "user:get_response"
  else channel

def handleUserGetResponse (channel : Channel) (moment : Moment) (event : Event) (userId : UserId) : Channel :=
  if channel.hasUser userId then channel
  else
    let channel := { channel with
      assigns := match (get event.payload "assigns").bind asMap with
        | some assigns => channel.assigns.set userId assigns
        | none => channel.assigns
      presence := match (get event.payload "presence").bind asMap with
        | some presence => if presence.isEmpty then channel.presence else channel.presence.set userId presence
        | none => channel.presence }
    channel.trackNodeUser moment.now event.nodeId userId

def handleRemoteUserCommand (channel : Channel) (moment : Moment) (event : Event) : Channel :=
  match getStr event.payload "userId" with
  | none => channel
  | some userId =>
    let reason := (getStr event.payload "reason").getD "remote command"
    if event.event = "user:evict" then
      if channel.hasUser userId then
        (channel.sendDirect [userId] (channel.evicted moment.uuid reason)).removeUser moment userId "evicted"
      else channel
    else if event.event = "user:remove" then
      if channel.hasUser userId then channel.removeUser moment userId reason else channel
    else if event.event = "user:get_request" then channel.handleUserGetRequest event userId
    else if event.event = "user:get_response" then channel.handleUserGetResponse moment event userId
    else channel

def stateUsers (channel : Channel) : List Json :=
  channel.connections.keys.map fun id =>
    .object [("id", .string id), ("assigns", tableJson ((channel.assigns.get? id).getD .empty)),
      ("presence", tableJson ((channel.presence.get? id).getD .empty))]

def handleStateRequest (channel : Channel) (moment : Moment) : Channel :=
  if channel.connections.isEmpty then channel
  else channel.publishEventToPubsub (channel.stateResponse moment.uuid channel.stateUsers) "state:response"

def handleStateResponseUser (now : Nat) (nodeId : NodeId) (channel : Channel) (user : Json) : Channel :=
  match getStr user "id" with
  | none => channel
  | some id =>
    if channel.hasUser id then channel else channel.adoptUser now nodeId id (get user "assigns") (get user "presence")

def handleStateResponse (channel : Channel) (moment : Moment) (event : Event) : Channel :=
  match (get event.payload "users").bind asSlice with
  | none => channel
  | some users => users.foldl (handleStateResponseUser moment.now event.nodeId) channel

def handleRemoteUserJoined (channel : Channel) (moment : Moment) (event : Event) : Channel :=
  match getStr event.payload "userId" with
  | none => channel
  | some id =>
    if channel.hasUser id then channel
    else channel.adoptUser moment.now event.nodeId id (get event.payload "assigns") (get event.payload "presence")

-- Up to the call of remove_channel_if_idle at its end.
def handleRemoteUserLeft (channel : Channel) (event : Event) : Channel :=
  match getStr event.payload "userId" with
  | none => channel
  | some id =>
    if channel.hasUser id then channel
    else
      let channel := { channel with
        assigns := channel.assigns.delete id
        presence := channel.presence.delete id }
      channel.untrackNodeUser event.nodeId id

def messageRecipients (channel : Channel) (event : Event) : List UserId :=
  if ¬ event.recipients.isEmpty then event.recipients.filter channel.connections.has
  else if event.recipientDescriptor = "ALL_EXCEPT_SENDER" then
    channel.connections.keys.filter fun id => decide (id ≠ event.fromUserId)
  else channel.connections.keys

def dispatchPubsubEvent (channel : Channel) (moment : Moment) (event : Event) : Channel :=
  if event.action = "PRESENCE" then
    let handled := channel.handleRemotePresence event
    handled.1.dispatchLocalBestEffort moment.room handled.2.1 handled.2.2
  else if event.action = "ASSIGNS" then channel.handleRemoteAssigns event
  else if event.action = "USER_COMMAND" then channel.handleRemoteUserCommand moment event
  else if event.action = "STATE_REQUEST" then channel.handleStateRequest moment
  else if event.action = "STATE_RESPONSE" then channel.handleStateResponse moment event
  else if event.action = "USER_JOINED" then channel.handleRemoteUserJoined moment event
  else if event.action = "USER_LEFT" then channel.handleRemoteUserLeft event
  else channel.dispatchLocalBestEffort moment.room event (channel.messageRecipients event)

def handlePubsubMessage (channel : Channel) (moment : Moment) (data : Json) : Channel :=
  match fromBytes moment.uuid data with
  | none => channel
  | some event =>
    if event.nodeId ≠ "" ∧ event.nodeId = channel.nodeId then channel
    else if event.channelName ≠ channel.name then channel
    else channel.dispatchPubsubEvent moment event

theorem recipients_dispatched (receiver : Channel) (room : Bool) (event : Event) (userIds : List UserId) :
    (receiver.dispatchLocalBestEffort room event userIds).dispatched.map DispatchItem.recipients =
      receiver.dispatched.map DispatchItem.recipients ++ if userIds.isEmpty ∨ room = false then [] else [userIds] := by
  cases userIds with
  | nil => simp [dispatchLocalBestEffort]
  | cons => cases room <;> simp [dispatchLocalBestEffort, enqueueDispatch]

theorem dispatch_frame (receiver : Channel) (room : Bool) (event : Event) (userIds : List UserId) :
    receiver.dispatchLocalBestEffort room event userIds =
      { receiver with dispatched := (receiver.dispatchLocalBestEffort room event userIds).dispatched } := by
  simp only [dispatchLocalBestEffort, enqueueDispatch]
  split
  · rfl
  · cases room <;> rfl

def changedPresence (channel : Channel) (event : Event) : OrderedMap UserId Table :=
  match presenceUser (((get event.payload "changed").bind asMap).getD .empty) with
  | none => channel.presence
  | some userId =>
    if event.event = "LEAVE" then channel.presence.delete userId
    else channel.presence.set userId (((get event.payload "changed").bind asMap).getD .empty)

theorem remote_presence_effect (channel : Channel) {moment : Moment} (event : Event) (kind : event.action = "PRESENCE") :
    ∃ handed, channel.dispatchPubsubEvent moment event =
      { channel with presence := channel.changedPresence event }.dispatchLocalBestEffort moment.room handed
        (channel.changedPresence event).keys := by
  have stored : (channel.handleRemotePresence event).1 = { channel with presence := channel.changedPresence event } := by
    simp only [handleRemotePresence, changedPresence]
    cases presenceUser (((get event.payload "changed").bind asMap).getD .empty) with
    | none | some => rfl
  have listed : (channel.handleRemotePresence event).2.2 = (channel.handleRemotePresence event).1.presence.keys := rfl
  refine ⟨(channel.handleRemotePresence event).2.1, ?_⟩
  rw [dispatchPubsubEvent, if_pos kind]
  simp only [listed, stored]

end Channel

end PondSocket.Rust
