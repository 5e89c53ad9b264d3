import PondSocket.Go.RoundTrip
import PondSocket.Go.Pipeline

namespace PondSocket.Go

open Library
open Js (Json UserId NodeId)

def channelEntity : UserId := "CHANNEL"

structure ChannelMessage where
  event : String
  payload : Json
  requestId : String
  named : requestId ≠ ""
  sender : UserId
  recipient : Recipient

inductive BroadcastCall where
  | broadcast
  | broadcastTo (userIds : List UserId)
  | broadcastFrom (senderId : UserId)
deriving DecidableEq

-- The uuids and the time that a call may draw; uuids do not repeat.
structure Draws where
  requestId : String
  lookup : String
  stamp : Stamp
  named : requestId ≠ ""
  asked : lookup ≠ ""
  apart : requestId ≠ lookup

def BroadcastCall.message (call : BroadcastCall) (event : String) (payload : Json) (draws : Draws) :
    Option ChannelMessage :=
  match call with
  | .broadcast => some ⟨event, payload, draws.requestId, draws.named, channelEntity, .all⟩
  | .broadcastTo [] => none
  | .broadcastTo (first :: rest) =>
    some ⟨event, payload, draws.requestId, draws.named, channelEntity, .users first rest⟩
  | .broadcastFrom senderId => some ⟨event, payload, draws.requestId, draws.named, senderId, .allExceptSender⟩

namespace ChannelMessage

def announcement (message : ChannelMessage) : Announcement :=
  .message false message.event message.payload message.requestId message.named message.sender message.recipient

def localEvent (message : ChannelMessage) (channel : Channel) : Event where
  action := .broadcast
  channelName := channel.name
  requestId := message.requestId
  payload := message.payload
  event := message.event
  nodeId := ""
  recipients := message.recipient.userIds

end ChannelMessage

-- Where a call of sendMessage is: it waits for an answer of requestRemoteUser,
-- knows that its sender is in the channel, has sent its message, or has failed.
inductive CallPhase where
  | asking
  | found
  | sent
  | refused
deriving DecidableEq

structure SendCall where
  node : Nat
  message : ChannelMessage
  lookup : String
  phase : CallPhase

def Channel.admission (channel : Channel) (message : ChannelMessage) : CallPhase :=
  match channel.checkState with
  | some _ => .refused
  | none =>
    if message.sender ≠ channelEntity then
      match channel.localUser message.sender with
      | .ok _ => .found
      | .error _ => if channel.distributed then .asking else .refused
    else if message.recipient = .allExceptSender then .refused
    else .found

def Dispatcher.sendMessage (dispatcher : Dispatcher) (stamp : Stamp) (endpoint : String) (message : ChannelMessage) :
    Dispatcher × Option Json :=
  (dispatcher.address (message.localEvent dispatcher.channel) (message.recipient.audience message.sender),
    if dispatcher.channel.distributed then some (message.announcement.bytes dispatcher.channel stamp endpoint) else none)

def Channel.remoteCommand (channel : Channel) (moment : Moment) (data : Json) : Option Event :=
  match channel.checkState, decodeEnvelope data with
  | none, some env =>
    if env.sourceNodeId = channel.nodeId then none
    else
      match eventFromEnvelope moment.uuid env with
      | some event => if event.action = .userCommand then some event else none
      | none => none
  | _, _ => none

structure ClusterNode where
  dispatcher : Dispatcher
  inbox : List Json := []
  requests : List Event := []

namespace ClusterNode

def channel (node : ClusterNode) : Channel := node.dispatcher.channel

-- The send of handleDistributedMessage, which drops the event when there is no room.
def take (node : ClusterNode) (handled : Channel × Option InternalEvent) : ClusterNode :=
  { node with
    dispatcher := { node.dispatcher with
      channel := handled.1
      queued :=
        if node.dispatcher.queued.length - node.dispatcher.taken < queueCapacity then
          node.dispatcher.queued ++ handled.2.toList
        else node.dispatcher.queued } }

def receive (node : ClusterNode) (waiting : List String) (moment : Moment) (data : Json) : ClusterNode × Option String :=
  let handled := node.take (node.channel.onChannelTopic moment data)
  match node.channel.remoteCommand moment data with
  | none => (handled, none)
  | some event =>
    if event.event = userGetRequest then ({ handled with requests := handled.requests ++ [event] }, none)
    else if event.event = userGetResponse then
      (handled, (Channel.handleUserGetResponse waiting event).map Prod.fst)
    else (handled, none)

end ClusterNode

structure MessageCluster where
  endpoint : String
  nodes : List ClusterNode
  calls : List SendCall := []
  outbox : List Json := []

inductive ClusterLabel where
  | call (node : Nat) (call : BroadcastCall) (event : String) (payload : Json) (draws : Draws)
  | resume (place : Nat) (stamp : Stamp)
  | timeOut (place : Nat)
  | publish (place : Nat)
  | deliver (node place : Nat) (moment : Moment)
  | answer (node place : Nat) (stamp : Stamp)
  | dispatch (node : Nat) (label : DispatchLabel)

namespace MessageCluster

def start (endpoint : String) (placement : List Channel) : MessageCluster where
  endpoint := endpoint
  nodes := placement.map fun channel => { dispatcher := { channel := channel } }

def post (cluster : MessageCluster) (data : Json) : MessageCluster :=
  { cluster with nodes := cluster.nodes.map fun node => { node with inbox := node.inbox ++ [data] } }

def enter (cluster : MessageCluster) (place : Nat) (node : ClusterNode) (message : ChannelMessage) (draws : Draws) :
    MessageCluster :=
  let phase := node.channel.admission message
  let cluster := { cluster with calls := cluster.calls ++ [⟨place, message, draws.lookup, phase⟩] }
  if phase = .asking then
    cluster.post ((Announcement.getRequest message.sender draws.lookup).bytes node.channel draws.stamp cluster.endpoint)
  else cluster

def call (cluster : MessageCluster) (place : Nat) (call : BroadcastCall) (event : String) (payload : Json)
    (draws : Draws) : MessageCluster :=
  match cluster.nodes[place]?, call.message event payload draws with
  | some node, some message => cluster.enter place node message draws
  | _, _ => cluster

def transmit (cluster : MessageCluster) (place : Nat) (sending : SendCall) (node : ClusterNode) (stamp : Stamp) :
    MessageCluster :=
  let sent := node.dispatcher.sendMessage stamp cluster.endpoint sending.message
  { cluster with
    nodes := cluster.nodes.set sending.node { node with dispatcher := sent.1 }
    calls := cluster.calls.set place { sending with phase := .sent }
    outbox := cluster.outbox ++ sent.2.toList }

def resume (cluster : MessageCluster) (place : Nat) (stamp : Stamp) : MessageCluster :=
  match cluster.calls[place]? with
  | none => cluster
  | some sending =>
    match cluster.nodes[sending.node]? with
    | none => cluster
    | some node => if sending.phase = .found then cluster.transmit place sending node stamp else cluster

def timeOut (cluster : MessageCluster) (place : Nat) : MessageCluster :=
  match cluster.calls[place]? with
  | none => cluster
  | some sending =>
    if sending.phase = .asking then { cluster with calls := cluster.calls.set place { sending with phase := .refused } }
    else cluster

def publish (cluster : MessageCluster) (place : Nat) : MessageCluster :=
  match cluster.outbox[place]? with
  | none => cluster
  | some data => { cluster with outbox := cluster.outbox.eraseIdx place }.post data

def waiting (cluster : MessageCluster) (place : Nat) : List String :=
  (cluster.calls.filter fun sending => decide (sending.node = place ∧ sending.phase = .asking)).map SendCall.lookup

def wake (place : Nat) (lookup : Option String) (sending : SendCall) : SendCall :=
  if sending.node = place ∧ sending.phase = .asking ∧ lookup = some sending.lookup then { sending with phase := .found }
  else sending

def deliver (cluster : MessageCluster) (place item : Nat) (moment : Moment) : MessageCluster :=
  match cluster.nodes[place]? with
  | none => cluster
  | some node =>
    match node.inbox[item]? with
    | none => cluster
    | some data =>
      let handled := { node with inbox := node.inbox.eraseIdx item }.receive (cluster.waiting place) moment data
      { cluster with
        nodes := cluster.nodes.set place handled.1
        calls := cluster.calls.map (wake place handled.2) }

def answer (cluster : MessageCluster) (place item : Nat) (stamp : Stamp) : MessageCluster :=
  match cluster.nodes[place]? with
  | none => cluster
  | some node =>
    match node.requests[item]? with
    | none => cluster
    | some event =>
      let rest := { cluster with
        nodes := cluster.nodes.set place { node with requests := node.requests.eraseIdx item } }
      match node.channel.handleUserGetRequest event (textAt event.payload "userID") with
      | none => rest
      | some published =>
        rest.post (distributedBytesFromEvent stamp cluster.endpoint published channelEntity (.string "ALL_USERS"))

def dispatch (cluster : MessageCluster) (place : Nat) (label : DispatchLabel) : MessageCluster :=
  match cluster.nodes[place]? with
  | none => cluster
  | some node => { cluster with nodes := cluster.nodes.set place { node with dispatcher := node.dispatcher.act label } }

def act (cluster : MessageCluster) : ClusterLabel → MessageCluster
  | .call node call event payload draws => cluster.call node call event payload draws
  | .resume place stamp => cluster.resume place stamp
  | .timeOut place => cluster.timeOut place
  | .publish place => cluster.publish place
  | .deliver node place moment => cluster.deliver node place moment
  | .answer node place stamp => cluster.answer node place stamp
  | .dispatch node label => cluster.dispatch node label

end MessageCluster

end PondSocket.Go
