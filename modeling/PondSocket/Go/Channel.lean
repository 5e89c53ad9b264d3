import PondSocket.Go.Store

namespace PondSocket.Go

open Library OrderedMap
open Js (Json UserId NodeId)

-- A connection: serial tells apart the connections that give one id.
structure Transport where
  id : UserId
  serial : Nat
  assigns : Option Assigns

-- The cause is the one its own context was cancelled with.
structure ChannelMembership where
  connection : Transport
  cause : Option String

inductive Publication where
  | userJoined (userId : UserId) (assigns : Assigns)
  | userLeft (userId : UserId)
  | presence (event : String) (userId : UserId) (change : Json) (presence : List Json)
  | assignsUpdate (userId : UserId) (assigns : Assigns)
  | userCommand (command : String) (userId : UserId) (reason : String)
  | stateResponse (users : List DistributedUser)

-- distributed says that there is a PubSub and an endpoint path. A membership is
-- named by its place in issued, which holds every one made so far; closed holds
-- the connections whose context is done. teardowns counts the goroutines that
-- removals have started.
structure Channel where
  name : String
  nodeId : NodeId
  distributed : Bool
  onDestroy : Bool
  heartbeatTimeout : Nat
  store : Store Assigns := .new
  presence : Store Json := .new
  connections : Store Transport := .new
  memberships : Store Nat := .new
  issued : List ChannelMembership := []
  closed : List Nat := []
  done : Bool := false
  remoteAssigns : OrderedMap UserId Assigns := .empty
  nodeUsers : OrderedMap NodeId (OrderedSet UserId) := .empty
  nodeLastSeen : OrderedMap NodeId Nat := .empty
  teardowns : Nat := 0
  published : List Publication := []

def newChannel (name : String) (nodeId : NodeId) (distributed onDestroy : Bool) (heartbeatTimeout : Nat) : Channel where
  name := name
  nodeId := nodeId
  distributed := distributed
  onDestroy := onDestroy
  heartbeatTimeout := heartbeatTimeout

namespace Channel

def checkState (channel : Channel) : Option Failure := if channel.done then some .shuttingDown else none

def publish (channel : Channel) (publication : Publication) : Channel :=
  if channel.distributed then { channel with published := channel.published ++ [publication] } else channel

def newChannelMembership (channel : Channel) (user : Transport) : Channel :=
  { channel with issued := channel.issued ++ [⟨user, none⟩] }

def active (channel : Channel) (membership : Nat) : Bool :=
  match channel.issued[membership]? with
  | none => false
  | some entry => !channel.done && entry.cause.isNone && !channel.closed.contains entry.connection.serial

def reason (channel : Channel) (membership : Nat) : String :=
  match channel.issued[membership]? with
  | none => "connection_closed"
  | some entry => entry.cause.getD (if channel.done then "channel_closed" else "connection_closed")

def cancelMembership (channel : Channel) (membership : Nat) (reason : String) : Channel :=
  { channel with
    issued := channel.issued.modify membership fun entry =>
      if entry.cause.isNone ∧ channel.done = false then { entry with cause := some reason } else entry }

def closeMembership (channel : Channel) (membership : Nat) (reason : String) : Channel :=
  channel.cancelMembership membership reason

def releaseMembership (channel : Channel) (userId : UserId) (reason : String) : Channel :=
  match channel.memberships.read userId with
  | .error _ => channel
  | .ok membership =>
    let channel := channel.closeMembership membership reason
    { channel with memberships := channel.memberships.drop userId }

def getUserUnsafe (channel : Channel) (userId : UserId) : Except Failure (Assigns × Option Json) :=
  match channel.store.read userId with
  | .error failure => .error failure
  | .ok assigns => .ok (assigns, channel.presence.store.get? userId)

-- publishPresenceEvent also offers the event to the local connections.
def unTrack (channel : Channel) (userId : UserId) : Channel :=
  match channel.presence.read userId with
  | .error _ => channel
  | .ok old =>
    let channel := { channel with presence := channel.presence.drop userId }
    channel.publish (.presence leave userId old channel.presence.store.values)

def removeUserLocalWithDestroy (channel : Channel) (userId : UserId) (reason : String) (destroyWhenEmpty : Bool) :
    Channel :=
  let channel := channel.releaseMembership userId reason
  let channel := { channel with store := channel.store.drop userId }
  let channel := channel.unTrack userId
  let channel := { channel with connections := channel.connections.drop userId }
  let channel := channel.publish (.userLeft userId)
  let remainingUsers := channel.store.len
  if destroyWhenEmpty ∧ channel.onDestroy ∧ remainingUsers = 0 then
    { channel with teardowns := channel.teardowns + 1 }
  else channel

def removeUserLocal (channel : Channel) (userId : UserId) (reason : String) : Channel :=
  channel.removeUserLocalWithDestroy userId reason true

def createUser (channel : Channel) (user : Transport) : Channel × Option Failure :=
  let membership := channel.issued.length
  let channel := channel.newChannelMembership user
  if channel.active membership = false then
    (channel.closeMembership membership "join_failed", some .badRequest)
  else
    let assignsToAdd := user.assigns.getD .empty
    match channel.store.create user.id assignsToAdd with
    | .error failure => (channel.closeMembership membership "join_failed", some failure)
    | .ok store =>
      let channel := { channel with store := store }
      match channel.connections.create user.id user with
      | .error failure =>
        let channel := { channel with store := channel.store.drop user.id }
        (channel.closeMembership membership "join_failed", some failure)
      | .ok connections =>
        let channel := { channel with connections := connections }
        match channel.memberships.create user.id membership with
        | .error failure =>
          let channel := { channel with
            store := channel.store.drop user.id
            connections := channel.connections.drop user.id }
          (channel.closeMembership membership "join_failed", some failure)
        | .ok memberships =>
          ({ channel with memberships := memberships }.publish (.userJoined user.id assignsToAdd), none)

def addUser (channel : Channel) (user : Transport) : Channel × Option Failure :=
  match channel.checkState with
  | some failure => (channel, some failure)
  | none =>
    match channel.memberships.read user.id with
    | .error _ => channel.createUser user
    | .ok existing =>
      if channel.active existing then (channel, some .conflict)
      else (channel.removeUserLocalWithDestroy user.id (channel.reason existing) false).createUser user

def removeUser (channel : Channel) (userId : UserId) (reason : String) : Channel × Option Failure :=
  match channel.checkState with
  | some failure => (channel, some failure)
  | none =>
    match channel.getUserUnsafe userId with
    | .error failure =>
      if channel.distributed then (channel.publish (.userCommand userRemoveCommand userId reason), none)
      else (channel, some failure)
    | .ok _ => (channel.removeUserLocal userId reason, none)

def removeExpiredMembership (channel : Channel) (userId : UserId) (membership : Nat) : Channel :=
  match channel.memberships.read userId with
  | .error _ => channel
  | .ok current =>
    if current ≠ membership then channel else channel.removeUserLocal userId (channel.reason membership)

def closeUser (channel : Channel) (userId : UserId) : Channel :=
  let channel := channel.releaseMembership userId "channel_closed"
  let channel := { channel with store := channel.store.drop userId }
  let channel := channel.unTrack userId
  { channel with connections := channel.connections.drop userId }

def userIds (channel : Channel) : OrderedSet UserId :=
  (channel.store.keys ++ channel.connections.keys ++ channel.memberships.keys ++ channel.presence.keys).foldl
    OrderedSet.add .empty

def closeLocked (channel : Channel) : Channel :=
  if channel.done then channel
  else
    let channel := { channel with done := true }
    channel.userIds.keys.foldl closeUser channel

def trackConnectedUser (channel : Channel) (userId : UserId) (presenceData : Json) : Channel × Option Failure :=
  match channel.checkState with
  | some failure => (channel, some failure)
  | none =>
    match channel.memberships.read userId with
    | .error _ => (channel, some .notFound)
    | .ok membership =>
      if channel.active membership = false then (channel, some .notFound)
      else
        match channel.presence.create userId presenceData with
        | .error failure => (channel, some failure)
        | .ok presence =>
          ({ channel with presence := presence }.publish
            (.presence join userId presenceData presence.store.values), none)

def updateAssigns (channel : Channel) (userId : UserId) (key : String) (value : Json) : Channel × Option Failure :=
  match channel.checkState with
  | some failure => (channel, some failure)
  | none =>
    match channel.store.read userId with
    | .error failure => (channel, if channel.distributed then none else some failure)
    | .ok assigns =>
      match channel.store.update userId (assigns.set key value) with
      | .error failure => (channel, some failure)
      | .ok store => ({ channel with store := store }, none)

def broadcastAssignsUpdate (channel : Channel) (userId : UserId) (key : String) (value : Json) : Channel :=
  match channel.checkState with
  | some _ => channel
  | none =>
    match channel.store.read userId with
    | .ok current => channel.publish (.assignsUpdate userId current)
    | .error _ => channel.publish (.assignsUpdate userId (OrderedMap.empty.set key value))

def addRemoteAssigns (result : OrderedMap UserId Assigns) (row : UserId × Assigns) : OrderedMap UserId Assigns :=
  if result.has row.1 then result else result.set row.1 row.2

def getAssigns (channel : Channel) : Option (OrderedMap UserId Assigns) :=
  match channel.checkState with
  | some _ => none
  | none =>
    if channel.distributed then
      some (channel.remoteAssigns.entries.foldl addRemoteAssigns channel.store.store)
    else some channel.store.store

theorem get_added {rows : List (UserId × Assigns)} (distinct : (rows.map Prod.fst).Nodup)
    (result : OrderedMap UserId Assigns) {userId : UserId} :
    (rows.foldl addRemoteAssigns result).get? userId = (result.get? userId).or (OrderedMap.findEntry userId rows) := by
  induction rows generalizing result with
  | nil => exact Option.or_none.symm
  | cons row _ ih =>
    obtain ⟨other, _⟩ := row
    obtain ⟨_, later⟩ := List.nodup_cons.mp distinct
    rw [List.foldl_cons, ih later, addRemoteAssigns, findEntry]
    by_cases same : userId = other
    · subst same
      cases found : result.get? userId with
      | none | some => simp [has, found]
    split
    · rfl
    · rw [get_set_other same]

def reported (channel : Channel) (userId : UserId) : Option Assigns :=
  channel.getAssigns.bind fun assigns => assigns.get? userId

theorem reported_eq (channel : Channel) (running : channel.done = false) (distributed : channel.distributed = true)
    (userId : UserId) :
    channel.reported userId = (channel.store.store.get? userId).or (channel.remoteAssigns.get? userId) := by
  simp only [reported, getAssigns, checkState, running, distributed, Bool.false_eq_true, if_false, if_true,
    Option.bind_some]
  exact get_added channel.remoteAssigns.distinct channel.store.store

end Channel

end PondSocket.Go
