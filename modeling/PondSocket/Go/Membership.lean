import PondSocket.Go.Operations

namespace PondSocket.Go

open Library Store
open Js (Json UserId NodeId)

theorem has_created {T : Type} {store : Store T} {key query : UserId} {value : T} :
    (Store.mk (store.store.set key value)).has query = true ↔ query = key ∨ store.has query = true :=
  OrderedMap.has_set

namespace Channel

variable (channel : Channel) (now : Nat) (user : Transport)

variable {env : DistributedEnvelope} (moment : Moment)

def Matched (channel : Channel) : Prop :=
  ∀ userId, channel.store.has userId = channel.memberships.has userId ∧
    channel.connections.has userId = channel.memberships.has userId

structure SameMembers (channel next : Channel) : Prop where
  store : next.store = channel.store
  connections : next.connections = channel.connections
  memberships : next.memberships = channel.memberships

theorem same_refl : SameMembers channel channel := ⟨rfl, rfl, rfl⟩

theorem matched_same (channel next : Channel) (same : SameMembers channel next) (matched : channel.Matched) :
    next.Matched := by
  intro userId
  rw [same.store, same.connections, same.memberships]
  exact matched userId

theorem matched_gone {channel : Channel} (next : Channel) (userId : UserId) (gone : Gone channel next userId)
    (matched : channel.Matched) : next.Matched := by
  intro query
  obtain ⟨stored, connected⟩ := matched query
  rw [gone.store, gone.connections, gone.memberships]
  constructor
  · rw [Bool.eq_iff_iff, has_drop, has_drop, stored]
  · rw [Bool.eq_iff_iff, has_drop, has_drop, connected]

inductive Created (channel : Channel) (user : Transport) (result : Channel × Option Failure) : Prop where
  | inactive (failed : result.2 = some .badRequest) (same : SameMembers channel result.1)
  | joined (accepted : result.2 = none) (membership : Nat) (assigns : Assigns)
      (store : result.1.store = ⟨channel.store.store.set user.id assigns⟩)
      (connections : result.1.connections = ⟨channel.connections.store.set user.id user⟩)
      (memberships : result.1.memberships = ⟨channel.memberships.store.set user.id membership⟩)

theorem create_user_created (matched : channel.Matched)
    (absent : channel.memberships.has user.id = false) : Created channel user (channel.createUser user) := by
  obtain ⟨stored, connected⟩ := matched user.id
  have noStore : (channel.newChannelMembership user).store.has user.id = false := stored.trans absent
  have noConnection : (channel.newChannelMembership user).connections.has user.id = false := connected.trans absent
  have noMembership : (channel.newChannelMembership user).memberships.has user.id = false := absent
  unfold createUser
  dsimp only
  split
  · exact .inactive rfl ⟨rfl, rfl, rfl⟩
  rw [create_absent _ noStore]
  rw [create_absent _ noConnection]
  rw [create_absent _ noMembership]
  dsimp only
  rw [publish_frame]
  exact .joined rfl channel.issued.length _ rfl rfl rfl

theorem matched_created {result : Channel × Option Failure}
    (created : Created channel user result) (matched : channel.Matched) : result.1.Matched := by
  cases created with
  | inactive _ same => exact matched_same channel result.1 same matched
  | joined _ _ _ store connections memberships =>
    intro query
    obtain ⟨stored, connected⟩ := matched query
    rw [store, connections, memberships]
    constructor
    · rw [Bool.eq_iff_iff, has_created, has_created, stored]
    · rw [Bool.eq_iff_iff, has_created, has_created, connected]

theorem add_user_cases (matched : channel.Matched) :
    (∃ failure, channel.addUser user = (channel, some failure)) ∨
      ∃ before : Channel, before.Matched ∧ before.memberships.has user.id = false ∧
        (channel.memberships.has user.id = false → before = channel) ∧
        Created before user (channel.addUser user) := by
  unfold addUser
  cases channel.checkState with
  | some failure => exact .inl ⟨failure, rfl⟩
  | none =>
    cases read : channel.memberships.read user.id with
    | error =>
      have absent := channel.memberships.read_error read
      exact .inr ⟨channel, matched, absent, fun _ => rfl, create_user_created channel user matched absent⟩
    | ok existing =>
      dsimp only
      split
      · exact .inl ⟨.conflict, rfl⟩
      have gone := remove_gone channel user.id (channel.reason existing) false
      have after := matched_gone _ user.id gone matched
      have absent : (channel.removeUserLocalWithDestroy user.id (channel.reason existing) false).memberships.has
          user.id = false := by
        rw [gone.memberships, Bool.eq_false_iff, Ne, has_drop]
        exact fun both => both.1 rfl
      have present := channel.memberships.read_has read
      refine .inr ⟨_, after, absent, ?_, create_user_created _ user after absent⟩
      rw [present]
      exact fun contra => absurd contra (by decide)

theorem matched_add_user (matched : channel.Matched) :
    (channel.addUser user).1.Matched := by
  rcases add_user_cases channel user matched with ⟨_, refused⟩ | ⟨before, ready, _, _, created⟩
  · rw [refused]
    exact matched
  · exact matched_created before user created ready

theorem failed_add_unchanged {failure : Failure} (matched : channel.Matched)
    (newcomer : channel.memberships.has user.id = false) (failed : (channel.addUser user).2 = some failure) :
    SameMembers channel (channel.addUser user).1 := by
  rcases add_user_cases channel user matched with ⟨_, refused⟩ | ⟨_, _, _, same, created⟩
  · rw [refused]
    exact same_refl channel
  rw [same newcomer] at created
  cases created with
  | inactive _ unchanged => exact unchanged
  | joined accepted =>
    rw [accepted] at failed
    cases failed

variable {userId : UserId}

theorem matched_remove_user {reason : String} (matched : channel.Matched) :
    (channel.removeUser userId reason).1.Matched := by
  unfold removeUser
  cases channel.checkState with
  | some => exact matched
  | none =>
    cases channel.getUserUnsafe userId with
    | ok => exact matched_gone _ userId (remove_gone channel userId reason true) matched
    | error =>
      dsimp only
      split
      · rw [publish_frame]
        exact matched_same channel _ ⟨rfl, rfl, rfl⟩ matched
      · exact matched

variable {membership : Nat}

theorem late_expiry_unchanged (replaced : channel.memberships.store.get? userId ≠ some membership) :
    channel.removeExpiredMembership userId membership = channel := by
  unfold removeExpiredMembership
  cases read : channel.memberships.read userId with
  | error => rfl
  | ok =>
    have held := channel.memberships.read_ok.mp read
    dsimp only
    rw [if_pos]
    rintro rfl
    exact replaced held

theorem matched_remove_expired (matched : channel.Matched) :
    (channel.removeExpiredMembership userId membership).Matched := by
  unfold removeExpiredMembership
  cases channel.memberships.read userId with
  | error => exact matched
  | ok =>
    dsimp only
    split
    · exact matched
    · exact matched_gone _ userId (remove_gone channel userId _ true) matched

theorem matched_expire (matched : channel.Matched) : (channel.expire membership).Matched := by
  unfold expire
  cases channel.issued[membership]? with
  | none => exact matched
  | some => exact matched_remove_expired channel matched

theorem matched_close (matched : channel.Matched) : channel.closeLocked.Matched := by
  unfold closeLocked
  split
  · exact matched
  have fold : ∀ (userIds : List UserId) (start : Channel), start.Matched → (userIds.foldl closeUser start).Matched := by
    intro userIds
    induction userIds with
    | nil => exact fun start ready => ready
    | cons userId _ ih =>
      intro start ready
      exact ih _ (matched_gone _ userId (close_user_gone start) ready)
  exact fold _ _ (matched_same channel { channel with done := true } ⟨rfl, rfl, rfl⟩ matched)

theorem same_state_user (source : NodeId) (channel : Channel) (user : DistributedUser) :
    SameMembers channel (handleStateResponseUser now source channel user) := by
  unfold handleStateResponseUser
  split
  · exact same_refl channel
  cases channel.store.read user.id with
  | ok => exact same_refl channel
  | error =>
    rw [track_frame, adopt_frame]
    cases asMap user.assigns <;> exact ⟨rfl, rfl, rfl⟩

theorem same_state_response :
    SameMembers channel (channel.handleStateResponse now env) := by
  unfold handleStateResponse
  induction env.users generalizing channel with
  | nil => exact same_refl channel
  | cons user _ ih =>
    have one := same_state_user now env.sourceNodeId channel user
    have later := ih (handleStateResponseUser now env.sourceNodeId channel user)
    exact ⟨later.store.trans one.store, later.connections.trans one.connections,
      later.memberships.trans one.memberships⟩

theorem same_joined :
    SameMembers channel (channel.handleRemoteUserJoined now env) := by
  unfold handleRemoteUserJoined
  split
  · exact same_refl channel
  cases channel.store.read env.userId with
  | ok => exact same_refl channel
  | error =>
    rw [track_frame, adopt_frame]
    exact ⟨rfl, rfl, rfl⟩

theorem same_left :
    SameMembers channel (channel.handleRemoteUserLeft env) := by
  unfold handleRemoteUserLeft
  split
  · exact same_refl channel
  · rw [untrack_frame]
    exact ⟨rfl, rfl, rfl⟩

theorem same_presence_event (event : Event) :
    SameMembers channel (channel.handleRemotePresenceEvent now event) := by
  unfold handleRemotePresenceEvent
  dsimp only
  split
  · exact same_refl channel
  split
  · rw [untrack_frame]
    exact ⟨rfl, rfl, rfl⟩
  · rw [track_frame]
    cases index event.payload "changed" <;> exact ⟨rfl, rfl, rfl⟩

theorem matched_assigns_event {event : Event} (matched : channel.Matched) :
    (channel.handleRemoteAssignsEvent event).Matched := by
  unfold handleRemoteAssignsEvent
  dsimp only
  split
  · exact matched
  cases channel.store.read (textAtEither event.payload "userId" "UserID") with
  | error => exact matched_same channel _ ⟨rfl, rfl, rfl⟩ matched
  | ok =>
    intro userId
    rw [has_update]
    exact matched userId

theorem matched_user_command {sent : Bool} {event : Event} (matched : channel.Matched) :
    (channel.handleRemoteUserCommand sent event).Matched := by
  unfold handleRemoteUserCommand
  dsimp only
  split
  · exact matched
  cases channel.getUserUnsafe (textAt event.payload "userID") with
  | error => exact matched
  | ok =>
    dsimp only
    split
    · unfold evictUserLocal
      split
      · exact matched_remove_user channel matched
      · exact matched
    split
    · exact matched_gone _ _ (remove_gone channel _ _ true) matched
    · exact matched

theorem matched_event (event : Event) (matched : channel.Matched) :
    (channel.handleEvent moment event).1.Matched := by
  unfold handleEvent
  cases event.action with
  | assigns => exact matched_assigns_event channel matched
  | userCommand => exact matched_user_command channel matched
  | presence => exact matched_same channel _ (same_presence_event channel moment.now event) matched
  | broadcast => exact matched

variable {now}

theorem same_heartbeat {nodeId : NodeId} :
    SameMembers channel (channel.recordHeartbeat now nodeId) := by
  unfold recordHeartbeat
  split <;> exact ⟨rfl, rfl, rfl⟩

theorem matched_envelope {env : DistributedEnvelope} (matched : channel.Matched) :
    (channel.handleEnvelope moment env).1.Matched := by
  unfold handleEnvelope
  split
  · unfold handleStateRequest
    split
    · exact matched
    · rw [publish_frame]
      exact matched_same channel _ ⟨rfl, rfl, rfl⟩ matched
  · exact matched_same channel _ (same_state_response channel moment.now) matched
  · exact matched_same channel _ (same_joined channel moment.now) matched
  · exact matched_same channel _ (same_left channel) matched
  · exact matched_same channel _ (same_heartbeat channel) matched
  · cases eventFromEnvelope moment.uuid env with
    | none => exact matched
    | some event => exact matched_event channel moment event matched

theorem matched_receive {data : Json} (matched : channel.Matched) :
    (channel.onChannelTopic moment data).1.Matched := by
  unfold onChannelTopic handleDistributedMessage
  cases channel.checkState with
  | some => exact matched
  | none =>
    cases decodeEnvelope data with
    | none => exact matched
    | some =>
      dsimp only
      split
      · exact matched
      · exact matched_envelope channel moment matched

theorem matched_heartbeat {data : Json} (matched : channel.Matched) :
    (channel.onHeartbeatTopic now data).Matched := by
  unfold onHeartbeatTopic
  split
  · split
    · exact matched_same channel _ (same_heartbeat channel) matched
    · exact matched
  · exact matched

theorem same_drop_nodes (nodes : List NodeId) (state : Channel × List UserId) :
    SameMembers state.1 (nodes.foldl dropStaleNode state).1 := by
  induction nodes generalizing state with
  | nil => exact same_refl state.1
  | cons node _ ih =>
    have one : SameMembers state.1 (dropStaleNode state node).1 := by
      unfold dropStaleNode
      dsimp only
      cases state.1.nodeUsers.get? node <;> exact ⟨rfl, rfl, rfl⟩
    have later := ih (dropStaleNode state node)
    exact ⟨later.store.trans one.store, later.connections.trans one.connections,
      later.memberships.trans one.memberships⟩

theorem matched_tick (matched : channel.Matched) :
    (channel.cleanupStaleNodes now).Matched := by
  have same := same_drop_nodes (channel.staleNodes now) (channel, [])
  exact matched_same channel _ ⟨same.store, same.connections, same.memberships⟩ matched

theorem matched_track {presence : Json} (matched : channel.Matched) :
    (channel.trackConnectedUser userId presence).1.Matched := by
  unfold trackConnectedUser
  cases channel.checkState with
  | some => exact matched
  | none =>
    cases channel.memberships.read userId with
    | error => exact matched
    | ok =>
      dsimp only
      split
      · exact matched
      cases channel.presence.create userId presence with
      | error => exact matched
      | ok =>
        dsimp only
        rw [publish_frame]
        exact matched_same channel _ ⟨rfl, rfl, rfl⟩ matched

theorem matched_update_assigns {key : String} {value : Json} (matched : channel.Matched) :
    (channel.updateAssigns userId key value).1.Matched := by
  unfold updateAssigns
  cases channel.checkState with
  | some => exact matched
  | none =>
    cases channel.store.read userId with
    | error => exact matched
    | ok assigns =>
      dsimp only
      cases updated : channel.store.update userId (assigns.set key value) with
      | error => exact matched
      | ok store =>
        intro query
        have kept := has_update channel.store userId query (assigns.set key value)
        rw [updated] at kept
        exact ⟨kept.trans (matched query).1, (matched query).2⟩

theorem matched_act (op : ChannelOp) (matched : channel.Matched) : (channel.act op).Matched := by
  cases op with
  | addUser user => exact matched_add_user channel user matched
  | removeUser => exact matched_remove_user channel matched
  | connectionClosed | connectionDone | parentDone => exact matched_same channel _ ⟨rfl, rfl, rfl⟩ matched
  | expired => exact matched_expire channel matched
  | close => exact matched_close channel matched
  | trackConnectedUser => exact matched_track channel matched
  | updateAssigns => exact matched_update_assigns channel matched
  | receive moment => exact matched_receive channel moment matched
  | heartbeat => exact matched_heartbeat channel matched
  | tick => exact matched_tick channel matched

structure Consistent (channel : Channel) : Prop where
  matched : channel.Matched
  failedAdd : ∀ (user : Transport) (failure : Failure), channel.memberships.has user.id = false →
    (channel.addUser user).2 = some failure → SameMembers channel (channel.addUser user).1
  lateExpiry : ∀ (userId : UserId) (membership : Nat), channel.memberships.store.get? userId ≠ some membership →
    channel.removeExpiredMembership userId membership = channel

theorem membership_consistent (name : String) (nodeId : NodeId) (distributed onDestroy : Bool) (heartbeatTimeout : Nat)
    (ops : List ChannelOp) :
    Always act Consistent (newChannel name nodeId distributed onDestroy heartbeatTimeout) ops := by
  have matched := always_of_follows act (fun _ _ => True) Matched (fun channel op good _ => matched_act channel op good)
    (newChannel name nodeId distributed onDestroy heartbeatTimeout) (fun _ => ⟨rfl, rfl⟩)
    (follows_all act _ _ ops fun _ _ => trivial)
  refine always_mono act Matched Consistent (fun channel good => ?_) _ ops matched
  exact ⟨good, fun user failure newcomer failed => failed_add_unchanged channel user good newcomer failed,
    fun userId membership replaced => late_expiry_unchanged channel replaced⟩

end Channel

end PondSocket.Go
