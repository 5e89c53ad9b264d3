import PondSocket.Library.Run
import PondSocket.Rust.Codec

namespace PondSocket.Rust

open Library List
open Js (Json UserId NodeId)
open Go (asMap)

def matchTopic (pattern topic : String) : Bool :=
  if pattern = topic then true
  else if ".*".toList.isSuffixOf pattern.toList then
    (pattern.toList.take (pattern.toList.length - 2)).isPrefixOf topic.toList
  else false

def formatTopic (namespaceName endpoint channel : String) : String :=
  "pondsocket:v1:" ++ namespaceName ++ ":" ++ endpoint ++ ":" ++ channel

-- serial counts the publications; it only names the message.
structure Message where
  serial : Nat
  topic : String
  data : Json

-- listed says that the pubsub still has it; what is in its buffer is received all
-- the same.
structure Subscription where
  pattern : String
  owner : Nat
  listed : Bool
  buffer : List Message

-- The writes of the membership handlers, one for each lock that is taken.
inductive TableOp where
  | setAssigns (userId : UserId) (assigns : Table)
  | setPresence (userId : UserId) (presence : Table)
  | trackNode (nodeId : NodeId) (userId : UserId)
  | seeNode (nodeId : NodeId)
  | dropAssigns (userId : UserId)
  | dropPresence (userId : UserId)
  | untrackNode (nodeId : NodeId) (userId : UserId)

def TableOp.apply (now : Nat) (channel : Channel) : TableOp → Channel
  | .setAssigns userId assigns => { channel with assigns := channel.assigns.set userId assigns }
  | .setPresence userId presence => { channel with presence := channel.presence.set userId presence }
  | .trackNode nodeId userId =>
    if nodeId = "" then channel
    else
      { channel with
        nodeUsers := channel.nodeUsers.set nodeId (((channel.nodeUsers.get? nodeId).getD .empty).add userId) }
  | .seeNode nodeId =>
    if nodeId = "" ∨ channel.nodeLastSeen.has nodeId then channel
    else { channel with nodeLastSeen := channel.nodeLastSeen.set nodeId now }
  | .dropAssigns userId => { channel with assigns := channel.assigns.delete userId }
  | .dropPresence userId => { channel with presence := channel.presence.delete userId }
  | .untrackNode nodeId userId => channel.untrackNodeUser nodeId userId

def joinedOps (event : Event) (userId : UserId) : List TableOp :=
  .setAssigns userId (((get event.payload "assigns").bind asMap).getD .empty) ::
    (match (get event.payload "presence").bind asMap with
      | some presence => if presence.isEmpty then [] else [.setPresence userId presence]
      | none => []) ++
      [.trackNode event.nodeId userId, .seeNode event.nodeId]

def leftOps (event : Event) (userId : UserId) : List TableOp :=
  [.dropAssigns userId, .dropPresence userId, .untrackNode event.nodeId userId]

namespace Channel

-- A handler up to the end of its first read: what it has done, and the writes it
-- goes on to. The handlers of the other messages run at one go.
def begin (channel : Channel) (moment : Moment) (data : Json) : Channel × List TableOp :=
  match fromBytes moment.uuid data with
  | none => (channel, [])
  | some event =>
    if event.nodeId ≠ "" ∧ event.nodeId = channel.nodeId then (channel, [])
    else if event.channelName ≠ channel.name then (channel, [])
    else if event.action = "USER_JOINED" ∨ event.action = "USER_LEFT" then
      match getStr event.payload "userId" with
      | none => (channel, [])
      | some userId =>
        if channel.hasUser userId then (channel, [])
        else if event.action = "USER_JOINED" then (channel, joinedOps event userId)
        else (channel, leftOps event userId)
    else (channel.dispatchPubsubEvent moment event, [])

def Lists (channel : Channel) (nodeId : NodeId) (userId : UserId) : Prop :=
  ∃ users, channel.nodeUsers.get? nodeId = some users ∧ users.has userId = true

def Forgotten (channel : Channel) (userId : UserId) : Prop :=
  channel.assigns.has userId = false ∧ channel.presence.has userId = false ∧ ∀ node, ¬ channel.Lists node userId

end Channel

-- A task that the subscription has spawned for a message, the one that the handler
-- spawned in turn, and this one between its writes.
inductive Stage where
  | spawned
  | called
  | writing (ops : List TableOp)

structure HandlerTask where
  subscription : Nat
  owner : Nat
  message : Message
  stage : Stage

def HandlerTask.key (task : HandlerTask) : Nat × Message := (task.subscription, task.message)

-- The channels of all nodes on one LocalPubSub. handled logs the messages whose
-- handling has ended, with the subscription.
structure Hub where
  bufferSize : Nat
  closed : Bool
  published : Nat
  peers : List Channel
  subs : List Subscription
  tasks : List HandlerTask
  handled : List (Nat × Message)

-- perform is anything else a node does to its channel, up to what identifies it.
inductive HubStep where
  | create (channel : Channel)
  | subscribe (peer : Nat) (namespaceName : String)
  | publish (topic : String) (data : Json)
  | receive (subscription : Nat)
  | call (place : Nat)
  | run (place : Nat) (moment : Moment)
  | perform (peer : Nat) (channel : Channel)
  | unsubscribe (subscription : Nat)
  | close

namespace Hub

def new (bufferSize : Nat) : Hub where
  bufferSize := max bufferSize 1
  closed := false
  published := 0
  peers := []
  subs := []
  tasks := []
  handled := []

def subscribe (hub : Hub) (peer : Nat) (namespaceName : String) : Hub :=
  match hub.peers[peer]? with
  | none => hub
  | some channel =>
    if hub.closed ∨ channel.endpointPath = "" then hub
    else
      { hub with
        subs := hub.subs ++ [⟨formatTopic namespaceName channel.cleanEndpoint channel.name, peer, true, []⟩] }

-- try_send drops the message where the buffer is full.
def offer (bufferSize : Nat) (message : Message) (sub : Subscription) : Subscription :=
  if sub.listed ∧ matchTopic sub.pattern message.topic ∧ sub.buffer.length < bufferSize then
    { sub with buffer := sub.buffer ++ [message] }
  else sub

def publish (hub : Hub) (topic : String) (data : Json) : Hub :=
  if hub.closed then hub
  else
    { hub with
      published := hub.published + 1
      subs := hub.subs.map (offer hub.bufferSize ⟨hub.published, topic, data⟩) }

def receive (hub : Hub) (subscription : Nat) : Hub :=
  match hub.subs[subscription]? with
  | none => hub
  | some sub =>
    match sub.buffer with
    | [] => hub
    | message :: rest =>
      { hub with
        subs := hub.subs.set subscription { sub with buffer := rest }
        tasks := hub.tasks ++ [⟨subscription, sub.owner, message, .spawned⟩] }

def call (hub : Hub) (place : Nat) : Hub :=
  match hub.tasks[place]? with
  | none => hub
  | some task =>
    match task.stage with
    | .spawned => { hub with tasks := hub.tasks.set place { task with stage := .called } }
    | _ => hub

-- A task has changed its channel and goes on to the writes that are left, or ends.
def advance (hub : Hub) (place : Nat) (task : HandlerTask) (channel : Channel) (ops : List TableOp) : Hub :=
  match ops with
  | [] =>
    { hub with
      peers := hub.peers.set task.owner channel
      tasks := hub.tasks.eraseIdx place
      handled := hub.handled ++ [(task.subscription, task.message)] }
  | op :: rest =>
    { hub with
      peers := hub.peers.set task.owner channel
      tasks := hub.tasks.set place { task with stage := .writing (op :: rest) } }

def runTask (hub : Hub) (place : Nat) (moment : Moment) : Hub :=
  match hub.tasks[place]? with
  | none => hub
  | some task =>
    match hub.peers[task.owner]? with
    | none => hub
    | some channel =>
      match task.stage with
      | .spawned => hub
      | .called =>
        hub.advance place task (channel.begin moment task.message.data).1
          (channel.begin moment task.message.data).2
      | .writing [] => hub.advance place task channel []
      | .writing (op :: rest) => hub.advance place task (op.apply moment.now channel) rest

def perform (hub : Hub) (peer : Nat) (channel : Channel) : Hub :=
  { hub with
    peers := hub.peers.modify peer fun old =>
      { channel with name := old.name, endpointPath := old.endpointPath, nodeId := old.nodeId } }

def act (hub : Hub) : HubStep → Hub
  | .create channel => { hub with peers := hub.peers ++ [channel] }
  | .subscribe peer namespaceName => hub.subscribe peer namespaceName
  | .publish topic data => hub.publish topic data
  | .receive subscription => hub.receive subscription
  | .call place => hub.call place
  | .run place moment => hub.runTask place moment
  | .perform peer channel => hub.perform peer channel
  | .unsubscribe subscription =>
    if hub.closed then hub
    else { hub with subs := hub.subs.modify subscription fun sub => { sub with listed := false } }
  | .close => { hub with closed := true, subs := hub.subs.map fun sub => { sub with listed := false } }

end Hub

variable {channel : Channel} {event : Event}

variable {moment : Moment}

theorem dispatch_joined (kind : event.action = "USER_JOINED") :
    channel.dispatchPubsubEvent moment event = channel.handleRemoteUserJoined moment event := by
  simp only [Channel.dispatchPubsubEvent, kind]
  rfl

theorem dispatch_left (kind : event.action = "USER_LEFT") :
    channel.dispatchPubsubEvent moment event = channel.handleRemoteUserLeft event := by
  simp only [Channel.dispatchPubsubEvent, kind]
  rfl

theorem joined_ops {now : Nat} {userId : UserId} :
    (joinedOps event userId).foldl (TableOp.apply now) channel =
      channel.adoptUser now event.nodeId userId (get event.payload "assigns") (get event.payload "presence") := by
  have tracked : ∀ before : Channel, [TableOp.trackNode event.nodeId userId, .seeNode event.nodeId].foldl
      (TableOp.apply now) before = before.trackNodeUser now event.nodeId userId := by
    intro before
    simp only [foldl_cons, foldl_nil, TableOp.apply, Channel.trackNodeUser]
    by_cases nobody : event.nodeId = ""
    · simp [nobody]
    · by_cases known : before.nodeLastSeen.has event.nodeId = true <;> simp [nobody, known]
  rw [joinedOps, foldl_append, tracked, foldl_cons, Channel.adoptUser]
  cases (get event.payload "presence").bind asMap with
  | none => rfl
  | some =>
    dsimp only
    split <;> rfl

theorem begin_then_ops (channel : Channel) (moment : Moment) (data : Json) :
    (channel.begin moment data).2.foldl (TableOp.apply moment.now) (channel.begin moment data).1 =
      channel.handlePubsubMessage moment data := by
  simp only [Channel.begin, Channel.handlePubsubMessage]
  cases fromBytes moment.uuid data with
  | none => rfl
  | some event =>
    dsimp only
    split
    · rfl
    split
    · rfl
    split
    · rename_i membership
      cases named : getStr event.payload "userId" with
      | none =>
        rcases membership with joined | left
        · rw [dispatch_joined joined, Channel.handleRemoteUserJoined, named]
          rfl
        · rw [dispatch_left left, Channel.handleRemoteUserLeft, named]
          rfl
      | some =>
        dsimp only
        rcases membership with joined | left
        · rw [if_pos joined, dispatch_joined joined, Channel.handleRemoteUserJoined, named]
          dsimp only
          split
          · rfl
          · exact joined_ops
        have different : event.action ≠ "USER_JOINED" := by
          rw [left]
          decide
        rw [if_neg different, dispatch_left left, Channel.handleRemoteUserLeft, named]
        dsimp only
        split
        · rfl
        · rfl
    · rfl

end PondSocket.Rust
