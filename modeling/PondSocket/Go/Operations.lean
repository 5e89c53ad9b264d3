import PondSocket.Go.Remote
import PondSocket.Library.Run

namespace PondSocket.Go

open Library
open Js (Json UserId NodeId)

namespace Channel

variable (channel : Channel)

theorem publish_frame (publication : Publication) :
    channel.publish publication = { channel with published := (channel.publish publication).published } := by
  unfold publish
  split <;> rfl

theorem release_frame (userId : UserId) (reason : String) :
    channel.releaseMembership userId reason =
      { channel with
        issued := (channel.releaseMembership userId reason).issued
        memberships := channel.memberships.drop userId } := by
  unfold releaseMembership
  cases read : channel.memberships.read userId with
  | ok => rfl
  | error =>
    have absent := channel.memberships.read_error read
    rw [Store.drop_absent channel.memberships absent]

theorem un_track_frame (userId : UserId) :
    channel.unTrack userId =
      { channel with
        presence := channel.presence.drop userId
        published := (channel.unTrack userId).published } := by
  unfold unTrack
  cases read : channel.presence.read userId with
  | ok =>
    dsimp only
    rw [publish_frame]
  | error =>
    have absent := channel.presence.read_error read
    rw [Store.drop_absent channel.presence absent]

structure Gone (channel next : Channel) (userId : UserId) : Prop where
  store : next.store = channel.store.drop userId
  presence : next.presence = channel.presence.drop userId
  connections : next.connections = channel.connections.drop userId
  memberships : next.memberships = channel.memberships.drop userId
  rest : next = { channel with
    store := next.store
    presence := next.presence
    connections := next.connections
    memberships := next.memberships
    issued := next.issued
    teardowns := next.teardowns
    published := next.published }

theorem close_user_gone {userId : UserId} : Gone channel (channel.closeUser userId) userId := by
  unfold closeUser
  rw [release_frame]
  dsimp only
  rw [un_track_frame]
  exact ⟨rfl, rfl, rfl, rfl, rfl⟩

theorem remove_gone (userId : UserId) (reason : String) (destroyWhenEmpty : Bool) :
    Gone channel (channel.removeUserLocalWithDestroy userId reason destroyWhenEmpty) userId := by
  unfold removeUserLocalWithDestroy
  rw [release_frame]
  dsimp only
  rw [un_track_frame]
  rw [publish_frame]
  split <;> exact ⟨rfl, rfl, rfl, rfl, rfl⟩

end Channel

inductive ChannelOp where
  | addUser (user : Transport)
  | removeUser (userId : UserId) (reason : String)
  | connectionClosed (serial : Nat)
  | connectionDone (membership : Nat)
  | expired (membership : Nat)
  | parentDone
  | close
  | trackConnectedUser (userId : UserId) (presence : Json)
  | updateAssigns (userId : UserId) (key : String) (value : Json)
  | receive (moment : Moment) (data : Json)
  | heartbeat (now : Nat) (data : Json)
  | tick (now : Nat)

def ChannelOp.isLocal : ChannelOp → Bool
  | .close | .receive _ _ | .heartbeat _ _ | .tick _ => false
  | _ => true

namespace Channel

def expire (channel : Channel) (membership : Nat) : Channel :=
  match channel.issued[membership]? with
  | none => channel
  | some entry => channel.removeExpiredMembership entry.connection.id membership

def act (channel : Channel) (op : ChannelOp) : Channel :=
  match op with
  | .addUser user => (channel.addUser user).1
  | .removeUser userId reason => (channel.removeUser userId reason).1
  | .connectionClosed serial => { channel with closed := serial :: channel.closed }
  | .connectionDone membership => channel.cancelMembership membership "connection_closed"
  | .expired membership => channel.expire membership
  | .parentDone => { channel with done := true }
  | .close => channel.closeLocked
  | .trackConnectedUser userId presence => (channel.trackConnectedUser userId presence).1
  | .updateAssigns userId key value => (channel.updateAssigns userId key value).1
  | .receive moment data => (channel.onChannelTopic moment data).1
  | .heartbeat now data => channel.onHeartbeatTopic now data
  | .tick now => channel.cleanupStaleNodes now

end Channel

end PondSocket.Go
