import PondSocket.Rust.Hub

namespace PondSocket.Rust

open Library
open Js (UserId NodeId)

-- An Arc<Channel> with its counter of joins; objects are never reused.
structure LobbyChannel where
  channel : Channel
  inFlight : Nat

-- What the holder of the lobby's write lock does next: acquire_for_join from
-- looking on, remove_channel_if_idle from checking on.
inductive Section where
  | looking (name : String)
  | starting (name : String) (id : Nat)
  | held (id : Nat)
  | checking (name : String)
  | counting (name : String) (id : Nat)
  | flying (name : String) (id : Nat)
  | nodes (name : String) (id : Nat)
  | dropping (name : String) (id : Nat)

structure Joiner where
  transport : Transport
  assigns : Table

-- What a task does next while it does not hold the lock. joining says that a user
-- is added by a join that has not been finished.
inductive LobbyTask where
  | acquiring (name : String)
  | inside
  | joined (id : Nat)
  | adding (id : Nat) (joiner : Joiner) (joining : Bool)
  | inserting (id : Nat) (joiner : Joiner) (joining : Bool)
  | settling (id : Nat) (joiner : Joiner) (joining : Bool)
  | finishing (id : Nat)
  | leaving (id : Nat) (userId : UserId)
  | remoteLeaving (id : Nat) (nodeId : NodeId) (userId : UserId)
  | forgetting (id : Nat) (ops : List TableOp)
  | removing (name : String)
  | closing (id : Nat)
  | clearing (id : Nat)
  | wiping (id : Nat)
  | done

-- The calls that tasks are spawned for. The last one is an add_user on a channel
-- that was not acquired for a join.
inductive LobbyCall where
  | acquireForJoin (name : String)
  | removeUser (id : Nat) (userId : UserId)
  | remoteUserLeft (id : Nat) (nodeId : NodeId) (userId : UserId)
  | removeChannelIfIdle (name : String)
  | addUser (id : Nat) (joiner : Joiner)

def LobbyCall.task : LobbyCall → LobbyTask
  | .acquireForJoin name => .acquiring name
  | .removeUser id userId => .leaving id userId
  | .remoteUserLeft id nodeId userId => .remoteLeaving id nodeId userId
  | .removeChannelIfIdle name => .removing name
  | .addUser id joiner => .adding id joiner false

-- One lock or one atomic operation each: a task takes the lobby's lock, its holder
-- goes on, another task goes on, a join adds a user or is finished, or a remote
-- handler or the stale cleanup writes a table.
inductive LobbyStep where
  | call (call : LobbyCall)
  | lock (place : Nat)
  | holder
  | task (place : Nat)
  | add (place : Nat) (joiner : Joiner)
  | finish (place : Nat)
  | table (id now : Nat) (op : TableOp)

structure LobbyRun where
  endpointPath : String
  nodeId : NodeId
  pubsub : Bool
  channels : OrderedMap String Nat
  objects : List LobbyChannel
  lock : Option (Nat × Section)
  tasks : List LobbyTask

namespace LobbyRun

def new (endpointPath : String) (nodeId : NodeId) (pubsub : Bool) : LobbyRun where
  endpointPath := endpointPath
  nodeId := nodeId
  pubsub := pubsub
  channels := .empty
  objects := []
  lock := none
  tasks := []

def goes (lobby : LobbyRun) (place : Nat) (task : LobbyTask) : LobbyRun :=
  { lobby with tasks := lobby.tasks.set place task }

def holds (lobby : LobbyRun) (place : Nat) (next : Section) : LobbyRun := { lobby with lock := some (place, next) }

def releases (lobby : LobbyRun) (place : Nat) (task : LobbyTask) : LobbyRun :=
  { lobby with lock := none, tasks := lobby.tasks.set place task }

def touch (lobby : LobbyRun) (id : Nat) (change : Channel → Channel) : LobbyRun :=
  { lobby with objects := lobby.objects.modify id fun object => { object with channel := change object.channel } }

def count (lobby : LobbyRun) (id : Nat) (change : Nat → Nat) : LobbyRun :=
  { lobby with objects := lobby.objects.modify id fun object => { object with inFlight := change object.inFlight } }

def takeLock (lobby : LobbyRun) (place : Nat) : LobbyRun :=
  match lobby.lock, lobby.tasks[place]? with
  | none, some (.acquiring name) => (lobby.goes place .inside).holds place (.looking name)
  | none, some (.removing name) => (lobby.goes place .inside).holds place (.checking name)
  | _, _ => lobby

def started (lobby : LobbyRun) (name : String) : LobbyChannel :=
  ⟨{ Channel.new name lobby.endpointPath lobby.nodeId lobby.pubsub with active := true }, 0⟩

def holder (lobby : LobbyRun) : LobbyRun :=
  match lobby.lock with
  | none => lobby
  | some (place, .looking name) =>
    match lobby.channels.get? name with
    | some id => lobby.holds place (.held id)
    | none =>
      { lobby with objects := lobby.objects ++ [lobby.started name] }.holds place
        (.starting name lobby.objects.length)
  | some (place, .starting name id) => { lobby with channels := lobby.channels.set name id }.holds place (.held id)
  | some (place, .held id) => (lobby.count id (· + 1)).releases place (.joined id)
  | some (place, .checking name) =>
    match lobby.channels.get? name with
    | none => lobby.releases place .done
    | some id => lobby.holds place (.counting name id)
  | some (place, .counting name id) =>
    if lobby.objects[id]?.any (fun object => object.channel.userCount = 0) then lobby.holds place (.flying name id)
    else lobby.releases place .done
  | some (place, .flying name id) =>
    if lobby.objects[id]?.any (fun object => object.inFlight = 0) then lobby.holds place (.nodes name id)
    else lobby.releases place .done
  | some (place, .nodes name id) =>
    if lobby.objects[id]?.any (fun object => object.channel.nodeUsers.values.all OrderedMap.isEmpty) then
      lobby.holds place (.dropping name id)
    else lobby.releases place .done
  | some (place, .dropping name id) =>
    { lobby with channels := lobby.channels.delete name }.releases place (.closing id)

def added (id : Nat) (joining : Bool) : LobbyTask := if joining then .joined id else .done

def taskStep (lobby : LobbyRun) (place : Nat) : LobbyRun :=
  match lobby.tasks[place]? with
  | some (.adding id joiner joining) =>
    match lobby.objects[id]? with
    | none => lobby
    | some object =>
      if object.channel.active then lobby.goes place (.inserting id joiner joining)
      else lobby.goes place (added id joining)
  | some (.inserting id joiner joining) =>
    match lobby.objects[id]? with
    | none => lobby
    | some object =>
      if object.channel.hasUser joiner.transport.id then lobby.goes place (added id joining)
      else
        (lobby.touch id fun channel =>
          { channel with connections := channel.connections.set joiner.transport.id joiner.transport }).goes place
            (.settling id joiner joining)
  | some (.settling id joiner joining) =>
    (lobby.touch id fun channel =>
      { channel with assigns := channel.assigns.set joiner.transport.id joiner.assigns }).goes place (added id joining)
  | some (.finishing id) =>
    match lobby.objects[id]? with
    | none => lobby
    | some object => (lobby.count id (· - 1)).goes place (.removing object.channel.name)
  | some (.leaving id userId) =>
    match lobby.objects[id]? with
    | none => lobby
    | some object =>
      if object.channel.hasUser userId then
        (lobby.touch id fun channel => { channel with connections := channel.connections.delete userId }).goes place
          (.forgetting id [.dropAssigns userId, .dropPresence userId])
      else lobby.goes place .done
  | some (.remoteLeaving id nodeId userId) =>
    match lobby.objects[id]? with
    | none => lobby
    | some object =>
      if object.channel.hasUser userId then lobby.goes place .done
      else lobby.goes place (.forgetting id [.dropAssigns userId, .dropPresence userId, .untrackNode nodeId userId])
  | some (.forgetting id (op :: rest)) =>
    (lobby.touch id fun channel => op.apply 0 channel).goes place (.forgetting id rest)
  | some (.forgetting id []) =>
    match lobby.objects[id]? with
    | none => lobby
    | some object => lobby.goes place (.removing object.channel.name)
  | some (.closing id) => (lobby.touch id fun channel => { channel with active := false }).goes place (.clearing id)
  | some (.clearing id) => (lobby.touch id fun channel => { channel with connections := .empty }).goes place (.wiping id)
  | some (.wiping id) =>
    (lobby.touch id fun channel =>
      { channel with
        assigns := .empty
        presence := .empty
        nodeLastSeen := .empty
        nodeUsers := .empty }).goes place .done
  | _ => lobby

def step (lobby : LobbyRun) : LobbyStep → LobbyRun
  | .call call => { lobby with tasks := lobby.tasks ++ [call.task] }
  | .lock place => lobby.takeLock place
  | .holder => lobby.holder
  | .task place => lobby.taskStep place
  | .add place joiner =>
    match lobby.tasks[place]? with
    | some (.joined id) => lobby.goes place (.adding id joiner true)
    | _ => lobby
  | .finish place =>
    match lobby.tasks[place]? with
    | some (.joined id) => lobby.goes place (.finishing id)
    | _ => lobby
  | .table id now op => lobby.touch id fun channel => op.apply now channel

end LobbyRun

end PondSocket.Rust
