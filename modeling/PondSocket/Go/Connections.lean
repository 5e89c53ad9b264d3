import PondSocket.Go.LastSeen
import PondSocket.Go.Membership

namespace PondSocket.Go

open Library
open Js (Json UserId NodeId)

namespace Channel

variable (channel : Channel)

variable (moment : Moment)

def Keyed (channel : Channel) : Prop :=
  ∀ userId connection, channel.connections.store.get? userId = some connection → connection.id = userId

theorem keyed_same {channel next : Channel} (same : SameMembers channel next) (keyed : channel.Keyed) : next.Keyed := by
  intro userId connection found
  rw [same.connections] at found
  exact keyed userId connection found

variable {userId : UserId}

theorem keyed_gone {channel next : Channel} (gone : Gone channel next userId) (keyed : channel.Keyed) : next.Keyed := by
  intro query connection found
  rw [gone.connections, Store.drop_store, OrderedMap.get_delete] at found
  split at found
  · cases found
  · exact keyed query connection found

variable {user : Transport}

theorem keyed_create_user (keyed : channel.Keyed) : (channel.createUser user).1.Keyed := by
  simp only [createUser]
  split
  · exact keyed
  cases (channel.newChannelMembership user).store.create user.id (user.assigns.getD .empty) with
  | error => exact keyed
  | ok store =>
    cases created : (channel.newChannelMembership user).connections.create user.id user with
    | error => exact keyed
    | ok connections =>
      have added : ∀ userId connection, connections.store.get? userId = some connection → connection.id = userId := by
        intro userId connection found
        simp only [Store.create] at created
        split at created
        · cases created
        cases created
        rw [OrderedMap.get_set] at found
        split at found
        · rename_i same
          rw [← Option.some.inj found, same]
        · exact keyed userId connection found
      cases (channel.newChannelMembership user).memberships.create user.id channel.issued.length with
      | error =>
        intro userId connection found
        have dropped : (connections.drop user.id).store.get? userId = some connection := found
        rw [Store.drop_store, OrderedMap.get_delete] at dropped
        split at dropped
        · cases dropped
        · exact added userId connection dropped
      | ok =>
        dsimp only
        rw [publish_frame]
        exact added

theorem keyed_add_user (keyed : channel.Keyed) : (channel.addUser user).1.Keyed := by
  simp only [addUser]
  cases channel.checkState with
  | some => exact keyed
  | none =>
    cases channel.memberships.read user.id with
    | error => exact keyed_create_user channel keyed
    | ok =>
      dsimp only
      split
      · exact keyed
      · apply keyed_create_user
        exact keyed_gone (remove_gone channel user.id _ false) keyed

theorem keyed_remove_user {reason : String} (keyed : channel.Keyed) : (channel.removeUser userId reason).1.Keyed := by
  simp only [removeUser]
  cases channel.checkState with
  | some => exact keyed
  | none =>
    cases channel.getUserUnsafe userId with
    | ok => exact keyed_gone (remove_gone channel userId reason true) keyed
    | error =>
      dsimp only
      split
      · rw [publish_frame]
        exact keyed
      · exact keyed

theorem keyed_expire {membership : Nat} (keyed : channel.Keyed) :
    (channel.expire membership).Keyed := by
  simp only [expire]
  cases channel.issued[membership]? with
  | none => exact keyed
  | some entry =>
    simp only [removeExpiredMembership]
    cases channel.memberships.read entry.connection.id with
    | error => exact keyed
    | ok =>
      dsimp only
      split
      · exact keyed
      · exact keyed_gone (remove_gone channel _ _ true) keyed

theorem keyed_close (keyed : channel.Keyed) : channel.closeLocked.Keyed := by
  have fold : ∀ (userIds : List UserId) (start : Channel), start.Keyed → (userIds.foldl closeUser start).Keyed := by
    intro userIds
    induction userIds with
    | nil => exact fun _ => id
    | cons _ _ ih =>
      intro start ready
      exact ih _ (keyed_gone (close_user_gone start) ready)
  simp only [closeLocked]
  split
  · exact keyed
  · exact fold _ { channel with done := true } keyed

theorem keyed_track {presence : Json} (keyed : channel.Keyed) :
    (channel.trackConnectedUser userId presence).1.Keyed := by
  simp only [trackConnectedUser]
  cases channel.checkState with
  | some => exact keyed
  | none =>
    cases channel.memberships.read userId with
    | error => exact keyed
    | ok =>
      dsimp only
      split
      · exact keyed
      cases channel.presence.create userId presence with
      | error => exact keyed
      | ok =>
        dsimp only
        rw [publish_frame]
        exact keyed

theorem keyed_update_assigns {key : String} {value : Json} (keyed : channel.Keyed) :
    (channel.updateAssigns userId key value).1.Keyed := by
  simp only [updateAssigns]
  cases channel.checkState with
  | some => exact keyed
  | none =>
    cases channel.store.read userId with
    | error => exact keyed
    | ok assigns =>
      dsimp only
      cases channel.store.update userId (assigns.set key value) with
      | error | ok => exact keyed

theorem keyed_event {event : Event} (keyed : channel.Keyed) :
    (channel.handleEvent moment event).1.Keyed := by
  simp only [handleEvent]
  cases event.action with
  | broadcast => exact keyed
  | presence => exact keyed_same (same_presence_event channel moment.now event) keyed
  | assigns =>
    simp only [handleRemoteAssignsEvent]
    split
    · exact keyed
    cases channel.store.read (textAtEither event.payload "userId" "UserID") with
    | ok | error => exact keyed
  | userCommand =>
    simp only [handleRemoteUserCommand]
    split
    · exact keyed
    cases channel.getUserUnsafe (textAt event.payload "userID") with
    | error => exact keyed
    | ok =>
      simp only [evictUserLocal]
      split
      · split
        · exact keyed_remove_user channel keyed
        · exact keyed
      split
      · exact keyed_gone (remove_gone channel _ _ true) keyed
      · exact keyed

theorem keyed_envelope {env : DistributedEnvelope} (keyed : channel.Keyed) :
    (channel.handleEnvelope moment env).1.Keyed := by
  simp only [handleEnvelope]
  split
  · simp only [handleStateRequest]
    split
    · exact keyed
    · rw [publish_frame]
      exact keyed
  · exact keyed_same (same_state_response channel moment.now) keyed
  · exact keyed_same (same_joined channel moment.now) keyed
  · exact keyed_same (same_left channel) keyed
  · exact keyed_same (same_heartbeat channel) keyed
  · cases eventFromEnvelope moment.uuid env with
    | none => exact keyed
    | some => exact keyed_event channel moment keyed

theorem keyed_handle (data : Json) (handler : Handler) (keyed : channel.Keyed) :
    (channel.handle moment data handler).1.Keyed := by
  cases handler with
  | channelTopic =>
    simp only [handle, onChannelTopic, handleDistributedMessage]
    cases channel.checkState with
    | some => exact keyed
    | none =>
      cases decodeEnvelope data with
      | none => exact keyed
      | some =>
        dsimp only
        split
        · exact keyed
        · exact keyed_envelope channel moment keyed
  | heartbeatTopic =>
    simp only [handle, on_heartbeat_eq]
    cases heartbeatOf data with
    | none => exact keyed
    | some =>
      dsimp only
      split
      · exact keyed
      · exact keyed_same (same_heartbeat channel) keyed

theorem keyed_act {op : ChannelOp} (keyed : channel.Keyed) : (channel.act op).Keyed := by
  cases op with
  | addUser => exact keyed_add_user channel keyed
  | removeUser => exact keyed_remove_user channel keyed
  | connectionClosed | connectionDone | parentDone => exact keyed
  | expired => exact keyed_expire channel keyed
  | close => exact keyed_close channel keyed
  | trackConnectedUser => exact keyed_track channel keyed
  | updateAssigns => exact keyed_update_assigns channel keyed
  | receive moment data => exact keyed_handle channel moment data .channelTopic keyed
  | heartbeat now data => exact keyed_handle channel ⟨now, "", true⟩ data .heartbeatTopic keyed
  | tick now =>
    have same := same_drop_nodes (channel.staleNodes now) (channel, [])
    exact keyed_same ⟨same.store, same.connections, same.memberships⟩ keyed

theorem running_act {op : ChannelOp} (running : (channel.act op).done = false) :
    channel.done = false := by
  cases op with
  | close => exact (quiet_close channel).running running
  | receive moment data => exact (stamped_handle channel moment data .channelTopic).running running
  | heartbeat now data => exact (stamped_handle channel ⟨now, "", true⟩ data .heartbeatTopic).running running
  | tick => exact (stamped_tick channel).running running
  | _ => exact (quiet_local channel rfl).running running

end Channel

end PondSocket.Go
