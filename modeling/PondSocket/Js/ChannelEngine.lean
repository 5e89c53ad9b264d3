import PondSocket.Js.PresenceEngine
import PondSocket.Js.Subject

namespace PondSocket.Js

open Library

-- The socket an onMessage handler writes to.
abbrev ConnectionId := String

-- The observer that #buildSubscriber registers with the publisher.
structure Subscriber where
  userId : UserId
  onMessage : ConnectionId
deriving DecidableEq

structure BroadcastEvent where
  event : String
  channelName : String
  requestId : RequestId
  sender : UserId
  payload : PondMessage

-- What an engine does outside its own fields, in the order it does it. A
-- subscriber is handed an event when its recipients check lets it through.
inductive Effect where
  | handed (subscriber : Subscriber) (event : ChannelEvent)
  | broadcast (message : DistributedMessage)
  | subscribeToChannel
  | unsubscribeChannel
  | deleteChannel (name : String)
  | leaveCallback (user : UserData)
  | runMiddleware (event : BroadcastEvent)
  | resolveUserGet (requestId : RequestId) (data : Option UserData)

-- distributedReady is none without a backend and tells otherwise whether the
-- promise has resolved; readyCallbacks counts the callbacks still to run on it.
structure ChannelEngine where
  endpointId : String
  name : String
  nodeId : NodeId
  backend : Option DistributedBackend
  presenceEngine : Option PresenceEngine := none
  assignsCache : OrderedMap UserId PondAssigns := .empty
  userSubscriptions : OrderedMap UserId Nat := .empty
  publisher : Subject Subscriber := .new
  distributedSubscription : Bool := false
  heartbeatSubscription : Bool := false
  nodeLastSeen : OrderedMap NodeId Nat := .empty
  nodeUsers : OrderedMap NodeId (OrderedSet UserId) := .empty
  pendingUserGets : OrderedSet RequestId := .empty
  staleNodeTimer : Bool := false
  closed : Bool := false
  distributedReady : Option Bool := none
  readyCallbacks : Nat := 0
  drawn : Nat := 0
  effects : List Effect := []

-- A throw leaves the fields as they were when it was thrown.
structure Outcome where
  engine : ChannelEngine
  thrown : Option Thrown := none

def Outcome.andThen (outcome : Outcome) (next : ChannelEngine → Outcome) : Outcome :=
  match outcome.thrown with
  | some _ => outcome
  | none => next outcome.engine

namespace ChannelEngine

def new (endpointId name : String) (nodeId : NodeId) (backend : Option DistributedBackend) : ChannelEngine :=
  { endpointId := endpointId
    name := name
    nodeId := nodeId
    backend := backend
    heartbeatSubscription := backend.isSome
    staleNodeTimer := backend.isSome
    distributedReady := backend.map fun _ => false
    effects := if backend.isSome then [.subscribeToChannel] else [] }

def users (engine : ChannelEngine) : List UserId := engine.assignsCache.keys

def emit (engine : ChannelEngine) (effect : Effect) : ChannelEngine :=
  { engine with effects := engine.effects ++ [effect] }

def uuid (engine : ChannelEngine) : RequestId := .generated engine.nodeId engine.drawn

def drawUuid (engine : ChannelEngine) : ChannelEngine := { engine with drawn := engine.drawn + 1 }

def presenceOf (engine : ChannelEngine) (userId : UserId) : Option PondPresence :=
  engine.presenceEngine.bind fun presence => presence.getPresence userId

-- The synchronous part of #broadcastToNodes: the backend publishes in call order.
def broadcastToNodes (engine : ChannelEngine) (body : MessageBody) : ChannelEngine :=
  if engine.backend.isSome ∧ engine.closed = false then
    engine.emit (.broadcast ⟨engine.endpointId, engine.name, none, body⟩)
  else engine

-- #publisher.publish, with the recipients check each subscriber starts with.
def publish (engine : ChannelEngine) (event : InternalChannelEvent) : ChannelEngine :=
  { engine with
    effects := engine.effects ++
      ((engine.publisher.observers.values.filter fun subscriber => event.recipients.contains subscriber.userId).map
        fun subscriber => .handed subscriber event.toChannelEvent) }

def buildSubscriber (engine : ChannelEngine) (userId : UserId) (onMessage : ConnectionId) :
    Except Thrown ChannelEngine :=
  match engine.publisher.subscribe ⟨userId, onMessage⟩ with
  | .error thrown => .error thrown
  | .ok (publisher, subscription) =>
    .ok { engine with
      publisher := publisher
      userSubscriptions := engine.userSubscriptions.set userId subscription }

def getOrCreatePresenceEngine (engine : ChannelEngine) : PresenceEngine :=
  engine.presenceEngine.getD (.new engine.name)

-- One call on the presence engine, which publishes its event when it succeeds.
def presenceAction (engine : ChannelEngine)
    (action : PresenceEngine → RequestId → Except Thrown (PresenceEngine × InternalChannelEvent)) : Outcome :=
  let presence := engine.getOrCreatePresenceEngine
  match action presence engine.uuid with
  | .error thrown => ⟨{ engine with presenceEngine := some presence }, some thrown⟩
  | .ok (next, event) => ⟨({ engine with presenceEngine := some next }.drawUuid).publish event, none⟩

def safeRemovePresence (engine : ChannelEngine) (userId : UserId) : ChannelEngine :=
  if engine.presenceEngine.isSome then
    (engine.presenceAction fun presence requestId => presence.removePresence requestId userId).engine
  else engine

def requestChannelState (engine : ChannelEngine) : ChannelEngine :=
  engine.broadcastToNodes (.stateRequest engine.nodeId)

-- #requestChannelState is the only callback that is ever registered.
def afterDistributedReady (engine : ChannelEngine) : ChannelEngine :=
  match engine.distributedReady with
  | none => engine.requestChannelState
  | some _ => { engine with readyCallbacks := engine.readyCallbacks + 1 }

def runReadyCallback (engine : ChannelEngine) : ChannelEngine :=
  if engine.distributedReady = some true ∧ 0 < engine.readyCallbacks then
    let engine := { engine with readyCallbacks := engine.readyCallbacks - 1 }
    if engine.closed then engine else engine.requestChannelState
  else engine

-- #setupDistributedSubscription after its await.
def distributedSubscribed (engine : ChannelEngine) : ChannelEngine :=
  let engine := { engine with distributedReady := engine.distributedReady.map fun _ => true }
  if engine.closed then engine.emit .unsubscribeChannel else { engine with distributedSubscription := true }

def distributedRejected (engine : ChannelEngine) : ChannelEngine :=
  { engine with distributedReady := engine.distributedReady.map fun _ => true }

def addUser (engine : ChannelEngine) (userId : UserId) (assigns : PondAssigns) (onMessage : ConnectionId)
    (requestId : RequestId) : Outcome :=
  if engine.assignsCache.has userId then
    ⟨engine, some (.httpError 400 s!"ChannelEngine: User with id {userId} already exists in channel {engine.name}")⟩
  else
    let isFirstUser := engine.assignsCache.isEmpty
    let engine := engine.emit (.handed ⟨userId, onMessage⟩
      { channelName := engine.name, requestId := requestId, action := .system,
        event := Events.acknowledge, payload := .message .empty })
    let engine := { engine with assignsCache := engine.assignsCache.set userId assigns }
    match engine.buildSubscriber userId onMessage with
    | .error thrown => ⟨engine, some thrown⟩
    | .ok engine =>
      let engine := if isFirstUser ∧ engine.backend.isSome then engine.afterDistributedReady else engine
      ⟨engine.broadcastToNodes (.userJoined userId (some .empty) assigns), none⟩

def getUsersFromRecipients (engine : ChannelEngine) (recipients : ChannelReceivers) (sender : UserId) :
    Except Thrown (List UserId) :=
  match recipients with
  | .allUsers => .ok engine.users
  | .allExceptSender =>
    if sender = SystemSender.channel then
      .error (.httpError 400 s!"ChannelEngine: Invalid sender {sender} for recipients ALL_EXCEPT_SENDER")
    else .ok (engine.users.filter fun user => decide (user ≠ sender))
  | .users ids =>
    let listed := ",".intercalate ids
    if ids.any fun user => decide (user ∉ engine.users) then
      .error (.httpError 400 s!"ChannelEngine: Invalid user ids in recipients {listed}")
    else .ok ids

def sendMessage (engine : ChannelEngine) (sender : UserId) (recipient : ChannelReceivers) (action : ServerActions)
    (event : String) (payload : PondMessage) (requestId : RequestId) : Outcome :=
  if engine.assignsCache.has sender = false ∧ sender ≠ SystemSender.channel then
    ⟨engine, some (.httpError 404 s!"ChannelEngine: User with id {sender} does not exist in channel {engine.name}")⟩
  else
    match engine.getUsersFromRecipients recipient sender with
    | .error thrown => ⟨engine, some thrown⟩
    | .ok recipients =>
      let engine := engine.publish
        { channelName := engine.name, requestId := requestId, action := action, event := event,
          payload := .message payload, recipients := recipients }
      ⟨engine.broadcastToNodes (.userMessage sender event payload requestId (some recipient)), none⟩

-- A call that leaves out requestId draws one.
def sendFresh (engine : ChannelEngine) (sender : UserId) (recipient : ChannelReceivers) (action : ServerActions)
    (event : String) (payload : PondMessage) : Outcome :=
  engine.drawUuid.sendMessage sender recipient action event payload engine.uuid

def broadcastMessage (engine : ChannelEngine) (userId : UserId) (event : String) (requestId : RequestId)
    (payload : PondMessage) : Outcome :=
  if engine.assignsCache.has userId = false then
    ⟨engine, some (.httpError 404 s!"ChannelEngine: User with id {userId} does not exist in channel {engine.name}")⟩
  else ⟨engine.emit (.runMiddleware ⟨event, engine.name, requestId, userId, payload⟩), none⟩

def handlerNotFoundPayload (failure : Option (Nat × String)) : PondMessage :=
  let message := match failure with
    | some (_, text) => if text = "" then "A handler did not respond to the event" else text
    | none => "A handler did not respond to the event"
  let code := match failure with
    | some (statusCode, _) => if statusCode = 0 then 500 else statusCode
    | none => 500
  .ofList [("message", .string message), ("code", .number code)]

-- The final callback that broadcastMessage gives to the middleware.
def handlerNotFound (engine : ChannelEngine) (userId : UserId) (requestId : RequestId)
    (failure : Option (Nat × String)) : Outcome :=
  engine.sendMessage SystemSender.channel (.users [userId]) .error ErrorTypes.handlerNotFound
    (handlerNotFoundPayload failure) requestId

def trackPresence (engine : ChannelEngine) (userId : UserId) (presence : PondPresence) : Outcome :=
  (engine.presenceAction fun inner requestId => inner.trackPresence requestId userId (some presence)).andThen
    fun engine => ⟨engine.broadcastToNodes (.presenceUpdate userId (some presence)), none⟩

def updatePresence (engine : ChannelEngine) (userId : UserId) (presence : PondPresence) : Outcome :=
  (engine.presenceAction fun inner requestId => inner.updatePresence requestId userId (some presence)).andThen
    fun engine => ⟨engine.broadcastToNodes (.presenceUpdate userId (some presence)), none⟩

def upsertPresence (engine : ChannelEngine) (userId : UserId) (presence : PondPresence) : Outcome :=
  (engine.presenceAction fun inner requestId => inner.upsertPresence requestId userId (some presence)).andThen
    fun engine => ⟨engine.broadcastToNodes (.presenceUpdate userId (some presence)), none⟩

def removePresence (engine : ChannelEngine) (userId : UserId) : Outcome :=
  if engine.presenceEngine.isSome then
    (engine.presenceAction fun inner requestId => inner.removePresence requestId userId).andThen
      fun engine => ⟨engine.broadcastToNodes (.presenceRemoved userId), none⟩
  else ⟨engine, none⟩

def updateAssigns (engine : ChannelEngine) (userId : UserId) (assigns : PondMessage) : Outcome :=
  match engine.assignsCache.get? userId with
  | none => ⟨engine, some (.httpError 404 s!"User with id {userId} does not exist in channel {engine.name}")⟩
  | some currentAssigns =>
    let newAssigns := currentAssigns.merge assigns
    let engine := { engine with assignsCache := engine.assignsCache.set userId newAssigns }
    ⟨engine.broadcastToNodes (.assignsUpdate userId (some newAssigns) none .undefined), none⟩

def getUserData (engine : ChannelEngine) (userId : UserId) : Except Thrown UserData :=
  let assigns := engine.assignsCache.get? userId
  let presence := engine.presenceOf userId
  if assigns.isNone ∧ presence.isNone then
    .error (.httpError 404 s!"User with id {userId} does not exist in the channel {engine.name}")
  else .ok ⟨userId, assigns.getD .empty, presence.getD .empty⟩

def getAssigns (engine : ChannelEngine) : OrderedMap UserId PondAssigns := engine.assignsCache

def getPresence (engine : ChannelEngine) : OrderedMap UserId PondPresence :=
  match engine.presenceEngine with
  | none => .empty
  | some presence => presence.getAllPresence

-- The publisher loses every observer, so the unsubscribe calls before it are absorbed.
def close (engine : ChannelEngine) : ChannelEngine :=
  let engine := { engine with
    closed := true
    userSubscriptions := .empty
    assignsCache := .empty
    presenceEngine := none }
  let engine := if engine.distributedSubscription then
      { engine with distributedSubscription := false }.emit .unsubscribeChannel
    else engine
  let engine := { engine with
    heartbeatSubscription := false
    staleNodeTimer := false
    pendingUserGets := .empty
    nodeLastSeen := .empty
    nodeUsers := .empty
    publisher := engine.publisher.close }
  engine.emit (.deleteChannel engine.name)

def unsubscribeUser (engine : ChannelEngine) (userId : UserId) : ChannelEngine :=
  match engine.userSubscriptions.get? userId with
  | none => engine
  | some subscription =>
    { engine with
      publisher := engine.publisher.unsubscribe subscription
      userSubscriptions := engine.userSubscriptions.delete userId }

def forget (engine : ChannelEngine) (userId : UserId) : ChannelEngine :=
  { engine with assignsCache := engine.assignsCache.delete userId }.safeRemovePresence userId

def removeUser (engine : ChannelEngine) (userId : UserId) (skipDistributedBroadcast : Bool) : ChannelEngine :=
  match engine.getUserData userId with
  | .error _ => engine
  | .ok userData =>
    let engine := (engine.forget userId).unsubscribeUser userId
    let engine := if skipDistributedBroadcast then engine else engine.broadcastToNodes (.userLeft userId)
    let engine := if engine.assignsCache.isEmpty then engine.close else engine
    engine.emit (.leaveCallback userData)

def kickedOutPayload (reason : String) : PondMessage :=
  .ofList [("message", .string reason), ("code", .number 403)]

def kickedPayload (userId : UserId) (reason : String) : PondMessage :=
  .ofList [("userId", .string userId), ("reason", .string reason)]

def kickUser (engine : ChannelEngine) (userId : UserId) (reason : String) : Outcome :=
  let kickedOut := engine.sendFresh SystemSender.channel (.users [userId]) .system "kicked_out"
    (kickedOutPayload reason)
  kickedOut.andThen fun engine =>
    let kicked := engine.sendFresh SystemSender.channel .allUsers .system "kicked" (kickedPayload userId reason)
    kicked.andThen fun engine =>
      ⟨(engine.broadcastToNodes (.evictUser userId reason)).removeUser userId true, none⟩

def requestUserRemoval (engine : ChannelEngine) (userId : UserId) : ChannelEngine :=
  engine.broadcastToNodes (.userRemove userId)

def getUserAcrossNodes (engine : ChannelEngine) (userId : UserId) : ChannelEngine :=
  if engine.backend.isSome then
    let requestId := engine.uuid
    let engine := engine.drawUuid
    let engine := { engine with pendingUserGets := engine.pendingUserGets.add requestId }
    engine.broadcastToNodes (.userGetRequest userId requestId engine.nodeId)
  else engine.emit (.resolveUserGet engine.uuid none)

-- The timer of a pending getUserAcrossNodes.
def userGetTimeout (engine : ChannelEngine) (requestId : RequestId) : ChannelEngine :=
  if engine.pendingUserGets.has requestId then
    { engine with pendingUserGets := engine.pendingUserGets.delete requestId }.emit (.resolveUserGet requestId none)
  else engine

def destroyedPayload (reason : Option String) : PondMessage :=
  .ofList [("message", .string (reason.getD "Channel has been destroyed"))]

def destroy (engine : ChannelEngine) (reason : Option String) : ChannelEngine :=
  let told := engine.sendFresh SystemSender.channel .allUsers .error "destroyed" (destroyedPayload reason)
  told.engine.close

def trackNodeUser (engine : ChannelEngine) (now : Nat) (sourceNodeId : Option NodeId) (userId : UserId) :
    ChannelEngine :=
  match sourceNodeId with
  | none => engine
  | some node =>
    if node = "" then engine
    else
      let users := (engine.nodeUsers.get? node).getD .empty
      { engine with
        nodeUsers := engine.nodeUsers.set node (users.add userId)
        nodeLastSeen := if engine.nodeLastSeen.has node then engine.nodeLastSeen
          else engine.nodeLastSeen.set node now }

def untrackNodeUser (engine : ChannelEngine) (sourceNodeId : Option NodeId) (userId : UserId) : ChannelEngine :=
  match sourceNodeId with
  | none => engine
  | some node =>
    if node = "" then engine
    else
      match engine.nodeUsers.get? node with
      | none => engine
      | some users =>
        let users := users.delete userId
        { engine with
          nodeUsers := if users.isEmpty then engine.nodeUsers.delete node else engine.nodeUsers.set node users }

def stateUsers (engine : ChannelEngine) : List StateUser :=
  engine.assignsCache.entries.map fun row => ⟨row.1, some ((engine.presenceOf row.1).getD .empty), row.2⟩

def handleStateRequest (engine : ChannelEngine) : ChannelEngine :=
  if engine.assignsCache.isEmpty then engine
  else engine.broadcastToNodes (.stateResponse (some engine.stateUsers))

def handleStateResponseUser (now : Nat) (sourceNodeId : Option NodeId) (engine : ChannelEngine) (user : StateUser) :
    ChannelEngine :=
  if engine.assignsCache.has user.id then engine
  else
    let engine := { engine with assignsCache := engine.assignsCache.set user.id user.assigns }
    let engine := engine.trackNodeUser now sourceNodeId user.id
    match user.presence with
    | none => engine
    | some presence =>
      if presence.isEmpty then engine
      else (engine.presenceAction fun inner requestId =>
        inner.upsertPresence requestId user.id (some presence)).engine

def handleStateResponse (engine : ChannelEngine) (now : Nat) (sourceNodeId : Option NodeId)
    (users : Option (List StateUser)) : ChannelEngine :=
  match users with
  | none => engine
  | some users => users.foldl (handleStateResponseUser now sourceNodeId) engine

def handleRemoteUserJoined (engine : ChannelEngine) (now : Nat) (sourceNodeId : Option NodeId) (userId : UserId)
    (presence : Option PondPresence) (assigns : PondAssigns) : ChannelEngine :=
  if engine.assignsCache.has userId then engine
  else
    let engine := { engine with assignsCache := engine.assignsCache.set userId assigns }
    let engine := engine.trackNodeUser now sourceNodeId userId
    match presence with
    | none => engine
    | some presence =>
      if presence.isEmpty then engine
      else (engine.presenceAction fun inner requestId =>
        inner.trackPresence requestId userId (some presence)).engine

def handleRemoteUserLeft (engine : ChannelEngine) (sourceNodeId : Option NodeId) (userId : UserId) : ChannelEngine :=
  let engine := { engine with assignsCache := engine.assignsCache.delete userId }
  (engine.untrackNodeUser sourceNodeId userId).safeRemovePresence userId

-- The recipients that #handleRemoteMessage resolves; unlike the sending side it
-- takes an id list as a filter.
def remoteRecipients (engine : ChannelEngine) (fromUserId : UserId) (descriptor : ChannelReceivers) : List UserId :=
  match descriptor with
  | .allUsers => engine.users
  | .allExceptSender => engine.users.filter fun user => decide (user ≠ fromUserId)
  | .users ids => engine.users.filter fun user => ids.contains user

def handleRemoteMessage (engine : ChannelEngine) (fromUserId : UserId) (event : String) (payload : PondMessage)
    (requestId : RequestId) (recipientDescriptor : Option ChannelReceivers) : ChannelEngine :=
  match recipientDescriptor with
  | none => engine
  | some descriptor =>
    let recipients := engine.remoteRecipients fromUserId descriptor
    if recipients.isEmpty then engine
    else engine.publish
      { channelName := engine.name, requestId := requestId, action := .broadcast, event := event,
        payload := .message payload, recipients := recipients }

def handleRemotePresenceUpdate (engine : ChannelEngine) (userId : UserId) (presence : Option PondPresence) :
    ChannelEngine :=
  (engine.presenceAction fun inner requestId => inner.upsertPresence requestId userId presence).engine

def handleRemoteAssignsUpdate (engine : ChannelEngine) (userId : UserId) (assigns : Option PondAssigns)
    (key : Option String) (value : JsValue) : ChannelEngine :=
  match engine.assignsCache.get? userId with
  | none => engine
  | some current =>
    match assigns with
    | some assigns => { engine with assignsCache := engine.assignsCache.set userId assigns }
    | none =>
      match key with
      | none => engine
      | some key =>
        if key = "" then engine
        else { engine with assignsCache := engine.assignsCache.set userId (current.set key value) }

def handleRemoteEvictUser (engine : ChannelEngine) (userId : UserId) (reason : String) : ChannelEngine :=
  let engine := if engine.userSubscriptions.has userId then
      engine.drawUuid.publish
        { channelName := engine.name, requestId := engine.uuid, action := .system, event := "kicked_out",
          payload := .message (kickedOutPayload reason), recipients := [userId] }
    else engine
  (engine.forget userId).unsubscribeUser userId

def handleRemoteUserRemove (engine : ChannelEngine) (sourceNodeId : Option NodeId) (userId : UserId) :
    ChannelEngine :=
  if engine.userSubscriptions.has userId then engine.removeUser userId false
  else (engine.forget userId).untrackNodeUser sourceNodeId userId

def handleRemoteUserGetRequest (engine : ChannelEngine) (userId : UserId) (requestId : RequestId) : ChannelEngine :=
  if engine.userSubscriptions.has userId then
    engine.broadcastToNodes (.userGetResponse userId requestId
      (some ((engine.assignsCache.get? userId).getD .empty)) (some ((engine.presenceOf userId).getD .empty)))
  else engine

def handleRemoteUserGetResponse (engine : ChannelEngine) (userId : UserId) (requestId : RequestId)
    (assigns : Option PondAssigns) (presence : Option PondPresence) : ChannelEngine :=
  if engine.pendingUserGets.has requestId then
    { engine with pendingUserGets := engine.pendingUserGets.delete requestId }.emit
      (.resolveUserGet requestId (some ⟨userId, assigns.getD .empty, presence.getD .empty⟩))
  else engine

-- The listener swallows what a handler throws.
def handleDistributedMessage (engine : ChannelEngine) (now : Nat) (message : DistributedMessage) : ChannelEngine :=
  match message.body with
  | .stateRequest _ => engine.handleStateRequest
  | .stateResponse users => engine.handleStateResponse now message.sourceNodeId users
  | .userJoined userId presence assigns =>
    engine.handleRemoteUserJoined now message.sourceNodeId userId presence assigns
  | .userLeft userId => engine.handleRemoteUserLeft message.sourceNodeId userId
  | .userMessage fromUserId event payload requestId recipientDescriptor =>
    engine.handleRemoteMessage fromUserId event payload requestId recipientDescriptor
  | .presenceUpdate userId presence => engine.handleRemotePresenceUpdate userId presence
  | .presenceRemoved userId => engine.safeRemovePresence userId
  | .assignsUpdate userId assigns key value => engine.handleRemoteAssignsUpdate userId assigns key value
  | .evictUser userId reason => engine.handleRemoteEvictUser userId reason
  | .userRemove userId => engine.handleRemoteUserRemove message.sourceNodeId userId
  | .userGetRequest userId requestId _ => engine.handleRemoteUserGetRequest userId requestId
  | .userGetResponse userId requestId assigns presence =>
    engine.handleRemoteUserGetResponse userId requestId assigns presence
  | .nodeHeartbeat _ => engine

def heartbeat (engine : ChannelEngine) (now : Nat) (nodeId : NodeId) : ChannelEngine :=
  if engine.heartbeatSubscription then { engine with nodeLastSeen := engine.nodeLastSeen.set nodeId now }
  else engine

def dropStaleNode (engine : ChannelEngine) (nodeId : NodeId) : ChannelEngine :=
  let engine := match engine.nodeUsers.get? nodeId with
    | none => engine
    | some users =>
      let engine := users.keys.foldl forget engine
      { engine with nodeUsers := engine.nodeUsers.delete nodeId }
  { engine with nodeLastSeen := engine.nodeLastSeen.delete nodeId }

def cleanupStaleNodes (engine : ChannelEngine) (now : Nat) : ChannelEngine :=
  match engine.backend with
  | none => engine
  | some backend =>
    engine.nodeLastSeen.entries.foldl (fun engine row =>
      if row.2 + backend.heartbeatTimeoutMs ≤ now then engine.dropStaleNode row.1 else engine) engine

def staleNodeTick (engine : ChannelEngine) (now : Nat) : ChannelEngine :=
  if engine.staleNodeTimer then engine.cleanupStaleNodes now else engine

end ChannelEngine

end PondSocket.Js
