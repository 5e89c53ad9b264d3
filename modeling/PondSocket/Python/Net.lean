import PondSocket.Python.Replica
import Mathlib.Logic.Function.Basic

namespace PondSocket.Python

open Library
open Js (Json UserId NodeId)

-- The nodes of one channel with a pubsub. A link holds what one node has published
-- for another that has subscribed, in the order in which it will be delivered.
structure Net where
  name : String
  endpointPath : String
  node : NodeId → Channel
  link : NodeId → NodeId → List Json

-- create is the lobby's new channel in the place of one that is closed.
inductive NetOp where
  | create (node : NodeId)
  | start (node : NodeId)
  | addUser (node : NodeId) (transport : Transport) (assigns : Dict)
  | removeUser (node : NodeId) (userId : UserId) (reason : String)
  | evictUser (node : NodeId) (userId : UserId) (reason : String)
  | updateAssign (node : NodeId) (userId : UserId) (key : String) (value : Json)
  | trackPresence (node : NodeId) (userId : UserId) (data : Dict)
  | updatePresence (node : NodeId) (userId : UserId) (data : Dict)
  | untrackPresence (node : NodeId) (userId : UserId)
  | deliver (source target : NodeId)

structure NetStep where
  op : NetOp
  moment : Moment
  stamp : Stamp

namespace Net

def new (name endpointPath : String) : Net where
  name := name
  endpointPath := endpointPath
  node := fun node => .new name endpointPath node true
  link := fun _ _ => []

-- A node goes on to what a call has left, and the others that have subscribed get
-- what it has published. A node that has closed its channel has unsubscribed.
def commit (str : Json → String) (net : Net) (stamp : Stamp) (node : NodeId) (after : Channel) : Net :=
  { net with
    node := Function.update net.node node after
    link := fun source target =>
      if source = node ∧ target ≠ node ∧ (net.node target).active then
        net.link source target ++
          (after.published.drop (net.node node).published.length).map ((net.node node).wire str stamp)
      else if target = node ∧ after.active = false then []
      else net.link source target }

def dequeue (net : Net) (source target : NodeId) (rest : List Json) : Net :=
  { net with
    link := fun origin goal => if origin = source ∧ goal = target then rest else net.link origin goal }

def create (net : Net) (node : NodeId) : Net :=
  if (net.node node).active then net
  else { net with node := Function.update net.node node (.new net.name net.endpointPath node true) }

def step (str : Json → String) (net : Net) (step : NetStep) : Net :=
  match step.op with
  | .create node => net.create node
  | .start node => net.commit str step.stamp node (net.node node).start
  | .addUser node transport assigns => net.commit str step.stamp node ((net.node node).addUser transport assigns).1
  | .removeUser node userId reason =>
    net.commit str step.stamp node ((net.node node).removeUser step.moment userId reason false).1
  | .evictUser node userId reason =>
    net.commit str step.stamp node ((net.node node).evictUser step.moment userId reason).1
  | .updateAssign node userId key value =>
    net.commit str step.stamp node ((net.node node).updateAssign step.moment userId key value).1
  | .trackPresence node userId data =>
    net.commit str step.stamp node ((net.node node).trackPresence step.moment userId data).1
  | .updatePresence node userId data =>
    net.commit str step.stamp node ((net.node node).updatePresence step.moment userId data).1
  | .untrackPresence node userId =>
    net.commit str step.stamp node ((net.node node).untrackPresence step.moment userId).1
  | .deliver source target =>
    match net.link source target with
    | [] => net
    | data :: rest =>
      (net.dequeue source target rest).commit str step.stamp target
        ((net.node target).handlePubsubMessage str step.moment data)

def Converged (net : Net) : Prop :=
  (∀ source target, net.link source target = []) → ∀ node, (net.node node).active = true → ∀ userId,
    (∀ host, (net.node host).hasUser userId = true →
      ((net.node node).assigns.get? userId).isSome = true ∧
        (net.node node).row userId = (net.node host).row userId) ∧
    ((∀ host, (net.node host).hasUser userId = false) → (net.node node).row userId = (none, none))

-- Every user id joins on one node only.
def OneHome (home : UserId → NodeId) (step : NetStep) : Prop :=
  match step.op with
  | .addUser node transport _ => node = home transport.id
  | _ => True

end Net

-- What a row may lack when its user's node has yet to answer a state request: no
-- user that has left, and no presence that the answer would not bring.
def Within (full part : Row) : Prop :=
  (full = (none, none) → part = (none, none)) ∧ (full.2.all OrderedMap.isEmpty = true → part.2 = full.2)

namespace Net

-- A user is connected by a non-empty id; a user who is connected to the node is
-- evicted only while no other channel runs; assigns and presence are changed where
-- the user is connected, and the presence has no userId or id of its own; a channel
-- is started with no rows left over.
def Guarded (home : UserId → NodeId) (net : Net) (step : NetStep) : Prop :=
  net.name ≠ "" ∧ net.endpointPath ≠ "" ∧
    match step.op with
    | .create _ | .removeUser _ _ _ | .deliver _ _ => True
    | .start node =>
      (net.node node).active = true ∨
        ∀ userId, home userId ≠ node → Within ((net.node (home userId)).row userId) ((net.node node).row userId)
    | .addUser _ transport _ => transport.id ≠ ""
    | .evictUser node userId _ =>
      (net.node node).hasUser userId = true → ∀ other, other ≠ node → (net.node other).active = false
    | .updateAssign node userId _ _ =>
      (net.node node).hasUser userId = true ∨ (net.node node).assigns.has userId = false
    | .trackPresence node userId data =>
      (net.node node).hasUser userId = true ∧ Channel.mergedPresence data = data ∨
        (net.node node).presence.has userId = true
    | .updatePresence node userId data =>
      (net.node node).hasUser userId = true ∧ Channel.mergedPresence data = data ∨
        (net.node node).presence.has userId = false
    | .untrackPresence node userId =>
      (net.node node).hasUser userId = true ∨ (net.node node).presence.has userId = false

end Net

end PondSocket.Python
