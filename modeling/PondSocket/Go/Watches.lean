import PondSocket.Library.Run
import PondSocket.Go.Seated

namespace PondSocket.Go

open Library
open Js (Json UserId NodeId)

-- What context.AfterFunc has been asked for: a call waits for its context to end,
-- can be stopped until its goroutine has been started, and runs once.
inductive Callback where
  | unset
  | armed
  | stopped
  | started
  | ran
deriving DecidableEq

def Callback.stop : Callback → Callback
  | .armed => .stopped
  | callback => callback

structure MembershipWatch where
  connection : Callback := .unset
  cleanup : Callback := .unset
deriving DecidableEq

def MembershipWatch.watch : MembershipWatch := ⟨.armed, .armed⟩

def MembershipWatch.close (watch : MembershipWatch) : MembershipWatch := ⟨watch.connection.stop, watch.cleanup.stop⟩

inductive Holder where
  | inserting (user : Transport)
  | watching (membership : Nat)
  | closing

structure WatchedChannel where
  channel : Channel
  watches : List MembershipWatch := []
  held : Option Holder := none

namespace Channel

def contextDone (channel : Channel) (membership : Nat) : Bool :=
  match channel.issued[membership]? with
  | none => false
  | some entry => channel.done || entry.cause.isSome

def connectionDone (channel : Channel) (membership : Nat) : Bool :=
  match channel.issued[membership]? with
  | none => false
  | some entry => channel.closed.contains entry.connection.serial

def trackMember (channel : Channel) (userId : UserId) (presenceData : Json) : Channel × Option Failure :=
  match channel.memberships.read userId with
  | .error _ => (channel, some .notFound)
  | .ok membership =>
    if channel.active membership = false then (channel, some .notFound)
    else
      match channel.presence.create userId presenceData with
      | .error failure => (channel, some failure)
      | .ok presence =>
        ({ channel with presence := presence }.publish
          (.presence join userId presenceData presence.store.values), none)

theorem track_connected_eq (channel : Channel) (userId : UserId) (presenceData : Json) :
    channel.trackConnectedUser userId presenceData =
      match channel.checkState with
      | some failure => (channel, some failure)
      | none => channel.trackMember userId presenceData := rfl

end Channel

inductive WatchOp where
  | addUser (user : Transport)
  | trackConnectedUser (userId : UserId) (presenceData : Json)
  | removeUser (userId : UserId) (reason : String)
  | close
  | proceed
  | parentDone
  | connectionStarts (membership : Nat)
  | connectionRuns (membership : Nat)
  | cleanupStarts (membership : Nat)
  | cleanupRuns (membership : Nat)

namespace WatchedChannel

def released (watched : WatchedChannel) (userId : UserId) : List MembershipWatch :=
  match watched.channel.memberships.read userId with
  | .error _ => watched.watches
  | .ok membership => watched.watches.modify membership MembershipWatch.close

def removeUserLocalWithDestroy (watched : WatchedChannel) (userId : UserId) (reason : String) (destroyWhenEmpty : Bool) :
    WatchedChannel :=
  { watched with
    channel := watched.channel.removeUserLocalWithDestroy userId reason destroyWhenEmpty
    watches := watched.released userId }

def closeUser (watched : WatchedChannel) (userId : UserId) : WatchedChannel :=
  { watched with
    channel := watched.channel.closeUser userId
    watches := watched.released userId }

def addUser (watched : WatchedChannel) (user : Transport) : WatchedChannel :=
  match watched.channel.checkState with
  | some _ => watched
  | none =>
    match watched.channel.memberships.read user.id with
    | .error _ => { watched with held := some (.inserting user) }
    | .ok existing =>
      if watched.channel.active existing then watched
      else
        { watched.removeUserLocalWithDestroy user.id (watched.channel.reason existing) false with
          held := some (.inserting user) }

def insertUser (watched : WatchedChannel) (user : Transport) : WatchedChannel :=
  let created := watched.channel.createUser user
  { channel := created.1
    watches := watched.watches ++ [{}]
    held := if created.2.isNone then some (.watching watched.channel.issued.length) else none }

def watchUser (watched : WatchedChannel) (membership : Nat) : WatchedChannel :=
  { watched with
    watches := watched.watches.set membership MembershipWatch.watch
    held := none }

def closeUsers (watched : WatchedChannel) : WatchedChannel :=
  { watched.channel.userIds.keys.foldl closeUser watched with held := none }

def proceed (watched : WatchedChannel) : WatchedChannel :=
  match watched.held with
  | none => watched
  | some (.inserting user) => watched.insertUser user
  | some (.watching membership) => watched.watchUser membership
  | some .closing => watched.closeUsers

def removeUser (watched : WatchedChannel) (userId : UserId) (reason : String) : WatchedChannel :=
  match watched.channel.checkState with
  | some _ => watched
  | none =>
    match watched.channel.getUserUnsafe userId with
    | .error _ => { watched with channel := (watched.channel.removeUser userId reason).1 }
    | .ok _ => watched.removeUserLocalWithDestroy userId reason true

def close (watched : WatchedChannel) : WatchedChannel :=
  if watched.channel.done then watched
  else { watched with channel := { watched.channel with done := true }, held := some .closing }

def connectionStarts (watched : WatchedChannel) (membership : Nat) : WatchedChannel :=
  match watched.watches[membership]? with
  | none => watched
  | some watch =>
    if watch.connection = .armed ∧ watched.channel.connectionDone membership = true then
      { watched with watches := watched.watches.set membership { watch with connection := .started } }
    else watched

def connectionRuns (watched : WatchedChannel) (membership : Nat) : WatchedChannel :=
  match watched.watches[membership]? with
  | none => watched
  | some watch =>
    if watch.connection = .started then
      { watched with
        channel := watched.channel.cancelMembership membership "connection_closed"
        watches := watched.watches.set membership { watch with connection := .ran } }
    else watched

def cleanupStarts (watched : WatchedChannel) (membership : Nat) : WatchedChannel :=
  match watched.watches[membership]? with
  | none => watched
  | some watch =>
    if watch.cleanup = .armed ∧ watched.channel.contextDone membership = true then
      { watched with watches := watched.watches.set membership { watch with cleanup := .started } }
    else watched

def removeExpiredMembership (watched : WatchedChannel) (userId : UserId) (membership : Nat) : WatchedChannel :=
  match watched.channel.memberships.read userId with
  | .error _ => watched
  | .ok current =>
    if current ≠ membership then watched
    else watched.removeUserLocalWithDestroy userId (watched.channel.reason membership) true

def cleanupRuns (watched : WatchedChannel) (membership : Nat) : WatchedChannel :=
  match watched.watches[membership]?, watched.channel.issued[membership]? with
  | some watch, some entry =>
    if watch.cleanup = .started then
      { watched with watches := watched.watches.set membership { watch with cleanup := .ran } }.removeExpiredMembership
        entry.connection.id membership
    else watched
  | _, _ => watched

def act (watched : WatchedChannel) : WatchOp → WatchedChannel
  | .addUser user => if watched.held.isNone then watched.addUser user else watched
  | .trackConnectedUser userId presenceData =>
    if watched.held.isNone then
      { watched with channel := (watched.channel.trackMember userId presenceData).1 }
    else watched
  | .removeUser userId reason => if watched.held.isNone then watched.removeUser userId reason else watched
  | .close => if watched.held.isNone then watched.close else watched
  | .proceed => watched.proceed
  | .parentDone => { watched with channel := { watched.channel with done := true } }
  | .connectionStarts membership => watched.connectionStarts membership
  | .connectionRuns membership => watched.connectionRuns membership
  | .cleanupStarts membership => watched.cleanupStarts membership
  | .cleanupRuns membership => if watched.held.isNone then watched.cleanupRuns membership else watched

def connectionEnds (watched : WatchedChannel) (serial : Nat) : WatchedChannel :=
  { watched with channel := { watched.channel with closed := watched.channel.closed ++ [serial] } }

theorem add_user_parts (watched : WatchedChannel) (user : Transport) (free : watched.held = none) :
    ((watched.addUser user).proceed.proceed).channel = (watched.channel.addUser user).1 := by
  have inserted : ∀ start : WatchedChannel, start.held = some (.inserting user) →
      start.proceed.proceed.channel = (start.channel.createUser user).1 := by
    intro start held
    simp only [proceed, held, insertUser]
    cases (start.channel.createUser user).2 <;> rfl
  have rested : watched.proceed.proceed = watched := by
    simp [proceed, free]
  simp only [addUser, Channel.addUser]
  cases watched.channel.checkState with
  | some => exact congrArg WatchedChannel.channel rested
  | none =>
    cases watched.channel.memberships.read user.id with
    | error => exact inserted _ rfl
    | ok =>
      dsimp only
      split
      · exact congrArg WatchedChannel.channel rested
      · exact inserted _ rfl

theorem close_users_channel (userIds : List UserId) (watched : WatchedChannel) :
    (userIds.foldl closeUser watched).channel = userIds.foldl Channel.closeUser watched.channel := by
  induction userIds generalizing watched with
  | nil => rfl
  | cons userId _ ih => exact ih (watched.closeUser userId)

theorem close_parts (watched : WatchedChannel) (free : watched.held = none) :
    watched.close.proceed.channel = watched.channel.closeLocked := by
  simp only [close, Channel.closeLocked]
  split
  · simp [proceed, free]
  · exact close_users_channel _ _

end WatchedChannel

-- The channels of a process and the connections whose context has ended.
structure WatchedChannels where
  ended : List Nat := []
  channels : List WatchedChannel := []

inductive ProcessLabel where
  | newChannel (name : String) (nodeId : NodeId) (distributed onDestroy : Bool) (heartbeatTimeout : Nat)
  | operates (place : Nat) (op : WatchOp)
  | connectionEnds (serial : Nat)

def WatchedChannels.act (process : WatchedChannels) : ProcessLabel → WatchedChannels
  | .newChannel name nodeId distributed onDestroy heartbeatTimeout =>
    { process with
      channels := process.channels ++
        [{ channel := { newChannel name nodeId distributed onDestroy heartbeatTimeout with closed := process.ended } }] }
  | .operates place op => { process with channels := process.channels.modify place fun watched => watched.act op }
  | .connectionEnds serial =>
    { ended := process.ended ++ [serial]
      channels := process.channels.map fun watched => watched.connectionEnds serial }

end PondSocket.Go
