import PondSocket.Go.Channel

namespace PondSocket.Go

open Library
open Js (Json UserId NodeId)

structure InternalEvent where
  event : Event
  recipients : List UserId

-- What the run time settles while a message is handled: the clock, the uuid that
-- is drawn and whether a sendMessage gets its event into the queue in time.
structure Moment where
  now : Nat
  uuid : String
  sent : Bool
deriving DecidableEq

-- A string of a payload, tried under a second key when the first gives none.
def textAt (payload : Json) (key : String) : String := (asString (index payload key)).getD ""

def textAtEither (payload : Json) (key other : String) : String :=
  if textAt payload key = "" then textAt payload other else textAt payload key

def valueAtEither (payload : Json) (key other : String) : Json :=
  match index payload key with
  | .null => index payload other
  | value => value

namespace Channel

def setRemoteAssigns (channel : Channel) (userId : UserId) (assigns : Assigns) : Channel :=
  { channel with remoteAssigns := channel.remoteAssigns.set userId assigns }

def removeRemoteAssigns (channel : Channel) (userId : UserId) : Channel :=
  { channel with remoteAssigns := channel.remoteAssigns.delete userId }

def trackNodeUser (channel : Channel) (now : Nat) (nodeId : NodeId) (userId : UserId) : Channel :=
  if nodeId = "" ∨ nodeId = channel.nodeId then channel
  else
    let users := (channel.nodeUsers.get? nodeId).getD .empty
    { channel with
      nodeUsers := channel.nodeUsers.set nodeId (users.add userId)
      nodeLastSeen := if channel.nodeLastSeen.has nodeId then channel.nodeLastSeen
        else channel.nodeLastSeen.set nodeId now }

def untrackNodeUser (channel : Channel) (nodeId : NodeId) (userId : UserId) : Channel :=
  if nodeId = "" then channel
  else
    match channel.nodeUsers.get? nodeId with
    | none => channel
    | some users =>
      let users := users.delete userId
      { channel with
        nodeUsers := if users.isEmpty then channel.nodeUsers.delete nodeId
          else channel.nodeUsers.set nodeId users }

def recordHeartbeat (channel : Channel) (now : Nat) (nodeId : NodeId) : Channel :=
  if nodeId = "" ∨ nodeId = channel.nodeId then channel
  else { channel with nodeLastSeen := channel.nodeLastSeen.set nodeId now }

def adoptPresence (channel : Channel) (userId : UserId) (presence : Json) : Channel :=
  match asMap presence with
  | none => channel
  | some map =>
    if map.isEmpty then channel else { channel with presence := channel.presence.upsert userId presence }

def handleStateResponseUser (now : Nat) (sourceNodeId : NodeId) (channel : Channel) (user : DistributedUser) :
    Channel :=
  if user.id = "" then channel
  else
    match channel.store.read user.id with
    | .ok _ => channel
    | .error _ =>
      let channel := match asMap user.assigns with
        | some assigns => channel.setRemoteAssigns user.id assigns
        | none => channel
      (channel.adoptPresence user.id user.presence).trackNodeUser now sourceNodeId user.id

def handleStateResponse (channel : Channel) (now : Nat) (env : DistributedEnvelope) : Channel :=
  env.users.foldl (handleStateResponseUser now env.sourceNodeId) channel

def handleRemoteUserJoined (channel : Channel) (now : Nat) (env : DistributedEnvelope) : Channel :=
  if env.userId = "" then channel
  else
    match channel.store.read env.userId with
    | .ok _ => channel
    | .error _ =>
      let channel := channel.setRemoteAssigns env.userId ((asMap env.assigns).getD .empty)
      (channel.adoptPresence env.userId env.presence).trackNodeUser now env.sourceNodeId env.userId

def handleRemoteUserLeft (channel : Channel) (env : DistributedEnvelope) : Channel :=
  if env.userId = "" then channel
  else
    let channel := (channel.removeRemoteAssigns env.userId).untrackNodeUser env.sourceNodeId env.userId
    { channel with presence := channel.presence.drop env.userId }

def localUsersSnapshot (channel : Channel) : List DistributedUser :=
  channel.store.store.entries.map fun row =>
    ⟨row.1, .object row.2.entries, match channel.presence.store.get? row.1 with
      | some .null | none => .object []
      | some presence => presence⟩

def handleStateRequest (channel : Channel) : Channel :=
  if channel.localUsersSnapshot.isEmpty then channel
  else channel.publish (.stateResponse channel.localUsersSnapshot)

def handleRemotePresenceEvent (channel : Channel) (now : Nat) (event : Event) : Channel :=
  let userId := textAt event.payload "userId"
  if userId = "" then channel
  else if event.event = leave then
    ({ channel with presence := channel.presence.drop userId }).untrackNodeUser event.nodeId userId
  else
    let channel := match index event.payload "changed" with
      | .null => channel
      | change => { channel with presence := channel.presence.upsert userId change }
    channel.trackNodeUser now event.nodeId userId

def mergedAssigns (current : Assigns) (remote : Option Assigns) (key : String) (value : Json) : Assigns :=
  match remote with
  | some remote => current.merge remote
  | none => if key ≠ "" then current.set key value else current

def handleRemoteAssignsEvent (channel : Channel) (event : Event) : Channel :=
  let userId := textAtEither event.payload "userId" "UserID"
  let key := textAtEither event.payload "key" "Key"
  let value := valueAtEither event.payload "value" "Value"
  if userId = "" then channel
  else
    let remote := (asMap (index event.payload "assigns")).or (asMap (index event.payload "Assigns"))
    match channel.store.read userId with
    | .ok existing =>
      let updated := channel.store.update userId (mergedAssigns existing remote key value)
      { channel with store := channel.store.after updated }
    | .error _ =>
      let current := (channel.remoteAssigns.get? userId).getD .empty
      { channel with remoteAssigns := channel.remoteAssigns.set userId (mergedAssigns current remote key value) }

def evictUserLocal (channel : Channel) (sent : Bool) (userId : UserId) (reason : String) : Channel :=
  if sent then (channel.removeUser userId ("evicted:" ++ reason)).1 else channel

-- The two user-get commands read and write none of these fields.
def handleRemoteUserCommand (channel : Channel) (sent : Bool) (event : Event) : Channel :=
  let userId := textAt event.payload "userID"
  let reason := textAt event.payload "reason"
  if event.event = userGetRequest ∨ event.event = userGetResponse ∨ userId = "" then channel
  else
    match channel.getUserUnsafe userId with
    | .error _ => channel
    | .ok _ =>
      if event.event = userEvictCommand then channel.evictUserLocal sent userId reason
      else if event.event = userRemoveCommand then channel.removeUserLocal userId reason
      else channel

def presenceRecipients (channel : Channel) : List UserId :=
  channel.presence.keys.filter fun userId => channel.connections.keys.contains userId

def messageRecipients (channel : Channel) (event : Event) : List UserId :=
  let connectedUsers := channel.connections.keys
  if event.recipients.length > 0 then
    connectedUsers.filter fun connId => event.recipients.contains connId
  else if event.recipient = "ALL_EXCEPT_SENDER" then
    connectedUsers.filter fun connId => decide (connId ≠ event.fromUserId)
  else connectedUsers

def addressed (event : Event) (recipients : List UserId) : Option InternalEvent :=
  if recipients.isEmpty then none else some ⟨event, recipients⟩

def handleEvent (channel : Channel) (moment : Moment) (event : Event) : Channel × Option InternalEvent :=
  match event.action with
  | .assigns => (channel.handleRemoteAssignsEvent event, none)
  | .userCommand => (channel.handleRemoteUserCommand moment.sent event, none)
  | .presence =>
    let channel := channel.handleRemotePresenceEvent moment.now event
    (channel, addressed event channel.presenceRecipients)
  | .broadcast => (channel, addressed event (channel.messageRecipients event))

def handleEnvelope (channel : Channel) (moment : Moment) (env : DistributedEnvelope) :
    Channel × Option InternalEvent :=
  match env.type with
  | some .stateRequest => (channel.handleStateRequest, none)
  | some .stateResponse => (channel.handleStateResponse moment.now env, none)
  | some .userJoined => (channel.handleRemoteUserJoined moment.now env, none)
  | some .userLeft => (channel.handleRemoteUserLeft env, none)
  | some .nodeHeartbeat => (channel.recordHeartbeat moment.now env.nodeId, none)
  | _ =>
    match eventFromEnvelope moment.uuid env with
    | none => (channel, none)
    | some event => channel.handleEvent moment event

def handleDistributedMessage (channel : Channel) (moment : Moment) (data : Json) : Channel × Option InternalEvent :=
  match decodeEnvelope data with
  | none => (channel, none)
  | some env => if env.sourceNodeId = channel.nodeId then (channel, none) else channel.handleEnvelope moment env

def onChannelTopic (channel : Channel) (moment : Moment) (data : Json) : Channel × Option InternalEvent :=
  match channel.checkState with
  | some _ => (channel, none)
  | none => channel.handleDistributedMessage moment data

def onHeartbeatTopic (channel : Channel) (now : Nat) (data : Json) : Channel :=
  match channel.checkState, decodeEnvelope data with
  | none, some env =>
    if env.type = some .nodeHeartbeat then
      channel.recordHeartbeat now (if env.nodeId = "" then env.sourceNodeId else env.nodeId)
    else channel
  | _, _ => channel

def dropStaleNode (state : Channel × List UserId) (nodeId : NodeId) : Channel × List UserId :=
  let channel := { state.1 with nodeLastSeen := state.1.nodeLastSeen.delete nodeId }
  match channel.nodeUsers.get? nodeId with
  | none => (channel, state.2)
  | some users =>
    ({ channel with
        remoteAssigns := users.keys.foldl OrderedMap.delete channel.remoteAssigns
        nodeUsers := channel.nodeUsers.delete nodeId },
      state.2 ++ users.keys)

def staleNodes (channel : Channel) (now : Nat) : List NodeId :=
  (channel.nodeLastSeen.entries.filter fun row => decide (row.2 + channel.heartbeatTimeout ≤ now)).map Prod.fst

def cleanupStaleNodes (channel : Channel) (now : Nat) : Channel :=
  let state := (channel.staleNodes now).foldl dropStaleNode (channel, [])
  { state.1 with presence := state.2.foldl Store.drop state.1.presence }

theorem track_frame (channel : Channel) (now : Nat) (nodeId : NodeId) (userId : UserId) :
    channel.trackNodeUser now nodeId userId =
      { channel with
        nodeUsers := (channel.trackNodeUser now nodeId userId).nodeUsers
        nodeLastSeen := (channel.trackNodeUser now nodeId userId).nodeLastSeen } := by
  unfold trackNodeUser
  split <;> rfl

theorem untrack_frame (channel : Channel) (nodeId : NodeId) (userId : UserId) :
    channel.untrackNodeUser nodeId userId =
      { channel with nodeUsers := (channel.untrackNodeUser nodeId userId).nodeUsers } := by
  unfold untrackNodeUser
  split
  · rfl
  · cases channel.nodeUsers.get? nodeId <;> rfl

theorem adopt_frame (channel : Channel) (userId : UserId) (presence : Json) :
    channel.adoptPresence userId presence =
      { channel with presence := (channel.adoptPresence userId presence).presence } := by
  unfold adoptPresence
  cases asMap presence with
  | none => rfl
  | some =>
    dsimp only
    split <;> rfl

end Channel

def queueCapacity : Nat := 128

def offer (queue : List InternalEvent) (event : Option InternalEvent) : List InternalEvent :=
  match event with
  | none => queue
  | some event => if queue.length < queueCapacity then queue ++ [event] else queue

end PondSocket.Go
