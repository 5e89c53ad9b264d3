import PondSocket.Go.Operations
import PondSocket.Go.PubSub
import PondSocket.Go.Envelope

namespace PondSocket.Go

open Library
open Js (Json UserId NodeId)

inductive CloseStage where
  | running
  | channelTopic
  | heartbeatTopic
  | closed
deriving DecidableEq

structure Peer where
  address : Address
  channel : Channel
  subscribed : Bool
  startedAt : Option Nat
  stage : CloseStage

structure Published where
  message : PubSubMessage
  time : Nat

structure Delivery where
  subscription : Nat
  message : PubSubMessage

structure Hub where
  now : Nat
  pubsub : LocalPubSub
  peers : List Peer
  deliveries : List Delivery
  published : List Published
  handled : List Delivery

inductive HubLabel where
  | wait (time : Nat)
  | create (namespaceOption endpointPath : GoString) (name : String) (nodeId : NodeId) (onDestroy : Bool)
      (heartbeatTimeout : Nat)
  | subscribeChannel (peer : Nat)
  | subscribeHeartbeat (peer : Nat)
  | publish (topic : GoString) (data : Json)
  | publishHeartbeat (peer : Nat) (stamp : Stamp)
  | take (subscription : Nat)
  | handle (delivery : Nat) (uuid : String) (sent : Bool)
  | perform (peer : Nat) (op : ChannelOp)
  | close (peer : Nat)
  | unsubscribe (peer : Nat)
  | tick (peer : Nat)
  | closePubSub

namespace Hub

def new (bufferSize : Int) : Hub := ⟨0, .new bufferSize, [], [], [], []⟩

def update (hub : Hub) (peer : Nat) (change : Peer → Peer) : Hub :=
  { hub with peers := hub.peers.modify peer change }

def create (hub : Hub) (namespaceOption endpointPath : GoString) (name : String) (nodeId : NodeId) (onDestroy : Bool)
    (heartbeatTimeout : Nat) : Hub :=
  let channel := newChannel name nodeId (decide (endpointPath ≠ [])) onDestroy heartbeatTimeout
  { hub with peers := hub.peers ++ [⟨⟨namespaceOption, endpointPath, bytes name⟩, channel, false, none, .running⟩] }

def subscribeChannel (hub : Hub) (peer : Nat) : Hub :=
  match hub.peers[peer]? with
  | none => hub
  | some entry =>
    if entry.subscribed ∨ entry.channel.distributed = false then hub
    else
      let hub := { hub with pubsub := hub.pubsub.subscribe entry.address.channelTopic peer .channelTopic }
      hub.update peer fun entry => { entry with subscribed := true }

def subscribeHeartbeat (hub : Hub) (peer : Nat) : Hub :=
  match hub.peers[peer]? with
  | none => hub
  | some entry =>
    if entry.subscribed = false ∨ entry.startedAt.isSome then hub
    else
      let hub := { hub with pubsub := hub.pubsub.subscribe entry.address.heartbeatTopic peer .heartbeatTopic }
      hub.update peer fun entry => { entry with startedAt := some hub.now }

def publish (hub : Hub) (topic : GoString) (data : Json) : Hub :=
  if hub.pubsub.closed then hub
  else
    { hub with
      pubsub := hub.pubsub.publish topic data
      published := hub.published ++ [⟨⟨topic, data⟩, hub.now⟩] }

def publishHeartbeat (hub : Hub) (peer : Nat) (stamp : Stamp) : Hub :=
  match hub.peers[peer]? with
  | none => hub
  | some entry =>
    if entry.channel.distributed = false then hub
    else
      match entry.channel.checkState with
      | some _ => hub
      | none =>
        hub.publish entry.address.heartbeatTopic
          (encodeHeartbeat stamp "__heartbeat__" "__heartbeat__" entry.channel.nodeId)

def take (hub : Hub) (subscription : Nat) : Hub :=
  match hub.pubsub.subs[subscription]? with
  | none => hub
  | some sub =>
    match sub.ch with
    | [] => hub
    | message :: rest =>
      { hub with
        pubsub := { hub.pubsub with
          subs := hub.pubsub.subs.modify subscription fun sub => { sub with ch := rest } }
        deliveries := hub.deliveries ++ [⟨subscription, message⟩] }

def handle (hub : Hub) (delivery : Nat) (uuid : String) (sent : Bool) : Hub :=
  match hub.deliveries[delivery]? with
  | none => hub
  | some entry =>
    let hub := { hub with
      deliveries := hub.deliveries.eraseIdx delivery
      handled := hub.handled ++ [entry] }
    match hub.pubsub.subs[entry.subscription]? with
    | none => hub
    | some sub =>
      hub.update sub.owner fun peer =>
        { peer with channel := (peer.channel.handle ⟨hub.now, uuid, sent⟩ entry.message.data sub.handler).1 }

def perform (hub : Hub) (peer : Nat) (op : ChannelOp) : Hub :=
  if op.isLocal then hub.update peer fun entry => { entry with channel := entry.channel.act op } else hub

def close (hub : Hub) (peer : Nat) : Hub :=
  hub.update peer fun entry =>
    if entry.channel.done then entry
    else
      { entry with
        channel := entry.channel.closeLocked
        stage := if entry.channel.distributed then .channelTopic else .closed }

def unsubscribe (hub : Hub) (peer : Nat) : Hub :=
  match hub.peers[peer]? with
  | none => hub
  | some entry =>
    match entry.stage with
    | .channelTopic =>
      let hub := { hub with pubsub := hub.pubsub.unsubscribe entry.address.channelTopic }
      hub.update peer fun entry => { entry with stage := .heartbeatTopic }
    | .heartbeatTopic =>
      let hub := { hub with pubsub := hub.pubsub.unsubscribe entry.address.heartbeatTopic }
      hub.update peer fun entry => { entry with stage := .closed }
    | .running | .closed => hub

-- The first time a ticker fires is a timeout after it was made.
def ticking (peer : Peer) (now : Nat) : Bool :=
  match peer.startedAt with
  | none => false
  | some time => decide (time + peer.channel.heartbeatTimeout ≤ now)

def tick (hub : Hub) (peer : Nat) : Hub :=
  hub.update peer fun entry =>
    if ticking entry hub.now then { entry with channel := entry.channel.cleanupStaleNodes hub.now } else entry

def act (hub : Hub) : HubLabel → Hub
  | .wait time => { hub with now := hub.now + time }
  | .create namespaceOption endpointPath name nodeId onDestroy heartbeatTimeout =>
    hub.create namespaceOption endpointPath name nodeId onDestroy heartbeatTimeout
  | .subscribeChannel peer => hub.subscribeChannel peer
  | .subscribeHeartbeat peer => hub.subscribeHeartbeat peer
  | .publish topic data => hub.publish topic data
  | .publishHeartbeat peer stamp => hub.publishHeartbeat peer stamp
  | .take subscription => hub.take subscription
  | .handle delivery uuid sent => hub.handle delivery uuid sent
  | .perform peer op => hub.perform peer op
  | .close peer => hub.close peer
  | .unsubscribe peer => hub.unsubscribe peer
  | .tick peer => hub.tick peer
  | .closePubSub => { hub with pubsub := hub.pubsub.close }

theorem updated_peer {hub : Hub} {peer place : Nat} (change : Peer → Peer) (next : Peer)
    (found : (hub.update peer change).peers[place]? = some next) :
    ∃ before, hub.peers[place]? = some before ∧ next = if peer = place then change before else before :=
  get_modify found

def apiPath : GoString := bytes "/api"

def opened (namespaceOption : GoString) (name : String) (nodeId : NodeId) (peer : Nat) : List HubLabel :=
  [.create namespaceOption apiPath name nodeId true 90000, .subscribeChannel peer, .subscribeHeartbeat peer]

def beatStamp : Stamp := ⟨"message-1", 0, by decide⟩

end Hub

end PondSocket.Go
