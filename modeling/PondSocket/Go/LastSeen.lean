import PondSocket.Go.PubSub
import PondSocket.Go.StaleNodes

namespace PondSocket.Go

open Library
open Js (Json UserId NodeId)

def heartbeatOf (data : Json) : Option NodeId :=
  match decodeEnvelope data with
  | none => none
  | some env =>
    if env.type = some .nodeHeartbeat then some (if env.nodeId = "" then env.sourceNodeId else env.nodeId) else none

namespace Channel

variable (channel : Channel) (now : Nat)

variable {env : DistributedEnvelope} (moment : Moment)

structure Stamped (channel next : Channel) (now : Nat) : Prop where
  nodeId : next.nodeId = channel.nodeId
  heartbeatTimeout : next.heartbeatTimeout = channel.heartbeatTimeout
  running : next.done = false → channel.done = false
  seen : ∀ node time, next.nodeLastSeen.get? node = some time →
    channel.nodeLastSeen.get? node = some time ∨ time = now ∧ node ≠ "" ∧ node ≠ channel.nodeId

variable {now}

theorem stamped_refl : Stamped channel channel now :=
  ⟨rfl, rfl, id, fun _ _ => .inl⟩

variable {next : Channel}

theorem stamped_trans (channel middle : Channel) (now : Nat) (first : Stamped channel middle now)
    (second : Stamped middle next now) : Stamped channel next now where
  nodeId := second.nodeId.trans first.nodeId
  heartbeatTimeout := second.heartbeatTimeout.trans first.heartbeatTimeout
  running := fun still => first.running (second.running still)
  seen := by
    intro node time found
    rcases second.seen node time found with before | ⟨fresh, named, foreign⟩
    · exact first.seen node time before
    · exact .inr ⟨fresh, named, first.nodeId ▸ foreign⟩

theorem quiet_stamped {channel : Channel} {now : Nat} (quiet : Quiet channel next) : Stamped channel next now := by
  refine ⟨quiet.nodeId, quiet.heartbeatTimeout, quiet.running, fun node time found => .inl ?_⟩
  rw [← quiet.nodeLastSeen]
  exact found

variable {node : NodeId}

theorem stamped_set {channel : Channel} {now : Nat} (foreign : ¬ (node = "" ∨ node = channel.nodeId))
    (nodeId : next.nodeId = channel.nodeId) (timeout : next.heartbeatTimeout = channel.heartbeatTimeout)
    (done : next.done = channel.done) (seen : next.nodeLastSeen = channel.nodeLastSeen.set node now) :
    Stamped channel next now := by
  refine ⟨nodeId, timeout, fun still => done ▸ still, fun query time found => ?_⟩
  rw [seen, OrderedMap.get_set] at found
  by_cases same : query = node
  · rw [if_pos same] at found
    exact .inr ⟨(Option.some.inj found).symm, same ▸ not_or.mp foreign⟩
  · rw [if_neg same] at found
    exact .inl found

variable {userId : UserId}

theorem stamped_track : Stamped channel (channel.trackNodeUser now node userId) now := by
  unfold trackNodeUser
  split
  · exact stamped_refl channel
  rename_i foreign
  split
  · exact ⟨rfl, rfl, id, fun _ _ => .inl⟩
  · exact stamped_set foreign rfl rfl rfl rfl

theorem stamped_untrack : Stamped channel (channel.untrackNodeUser node userId) now := by
  rw [untrack_frame]
  exact ⟨rfl, rfl, id, fun _ _ => .inl⟩

theorem stamped_heartbeat : Stamped channel (channel.recordHeartbeat now node) now := by
  unfold recordHeartbeat
  split
  · exact stamped_refl channel
  · rename_i foreign
    exact stamped_set foreign rfl rfl rfl rfl

theorem stamped_adopt {presence : Json} : Stamped channel (channel.adoptPresence userId presence) now := by
  rw [adopt_frame]
  exact ⟨rfl, rfl, id, fun _ _ => .inl⟩

theorem stamped_state_user {source : NodeId} {user : DistributedUser} :
    Stamped channel (handleStateResponseUser now source channel user) now := by
  simp only [handleStateResponseUser]
  split
  · exact stamped_refl channel
  cases channel.store.read user.id with
  | ok => exact stamped_refl channel
  | error =>
    have adopted : ∀ before : Channel, Stamped channel before now →
        Stamped channel ((before.adoptPresence user.id user.presence).trackNodeUser now source user.id) now := by
      intro before first
      apply stamped_trans channel before now first
      exact stamped_trans before _ now (stamped_adopt before) (stamped_track _)
    cases asMap user.assigns with
    | none => exact adopted channel (stamped_refl channel)
    | some => exact adopted _ ⟨rfl, rfl, id, fun _ _ => .inl⟩

theorem stamped_state_response :
    Stamped channel (channel.handleStateResponse now env) now := by
  simp only [handleStateResponse]
  induction env.users generalizing channel with
  | nil => exact stamped_refl channel
  | cons _ _ ih => exact stamped_trans channel _ now (stamped_state_user channel) (ih _)

theorem stamped_joined :
    Stamped channel (channel.handleRemoteUserJoined now env) now := by
  simp only [handleRemoteUserJoined]
  split
  · exact stamped_refl channel
  cases channel.store.read env.userId with
  | ok => exact stamped_refl channel
  | error =>
    apply stamped_trans channel (channel.setRemoteAssigns env.userId ((asMap env.assigns).getD .empty)) now
    · exact ⟨rfl, rfl, id, fun _ _ => .inl⟩
    · exact stamped_trans _ _ now (stamped_adopt _) (stamped_track _)

theorem stamped_left :
    Stamped channel (channel.handleRemoteUserLeft env) now := by
  simp only [handleRemoteUserLeft]
  split
  · exact stamped_refl channel
  rw [untrack_presence]
  apply stamped_trans channel _ now _ (stamped_untrack _)
  exact ⟨rfl, rfl, id, fun _ _ => .inl⟩

variable {event : Event}

theorem stamped_presence_event : Stamped channel (channel.handleRemotePresenceEvent now event) now := by
  simp only [handleRemotePresenceEvent]
  split
  · exact stamped_refl channel
  split
  · apply stamped_trans channel _ now _ (stamped_untrack _)
    exact ⟨rfl, rfl, id, fun _ _ => .inl⟩
  apply stamped_trans channel _ now _ (stamped_track _)
  split
  · exact stamped_refl channel
  · exact ⟨rfl, rfl, id, fun _ _ => .inl⟩

theorem stamped_assigns_event : Stamped channel (channel.handleRemoteAssignsEvent event) now := by
  simp only [handleRemoteAssignsEvent]
  split
  · exact stamped_refl channel
  cases channel.store.read (textAtEither event.payload "userId" "UserID") with
  | ok | error => exact ⟨rfl, rfl, id, fun _ _ => .inl⟩

theorem stamped_event : Stamped channel (channel.handleEvent moment event).1 moment.now := by
  simp only [handleEvent]
  cases event.action with
  | assigns => exact stamped_assigns_event channel
  | userCommand => exact quiet_stamped (quiet_user_command channel)
  | presence => exact stamped_presence_event channel
  | broadcast => exact stamped_refl channel

theorem stamped_envelope {env : DistributedEnvelope} :
    Stamped channel (channel.handleEnvelope moment env).1 moment.now := by
  simp only [handleEnvelope]
  split
  · simp only [handleStateRequest]
    split
    · exact stamped_refl channel
    · rw [publish_frame]
      exact ⟨rfl, rfl, id, fun _ _ => .inl⟩
  · exact stamped_state_response channel
  · exact stamped_joined channel
  · exact stamped_left channel
  · exact stamped_heartbeat channel
  · cases eventFromEnvelope moment.uuid env with
    | none => exact stamped_refl channel
    | some => exact stamped_event channel moment

theorem on_heartbeat_eq (data : Json) :
    channel.onHeartbeatTopic now data =
      match heartbeatOf data with
      | none => channel
      | some node => if channel.done then channel else channel.recordHeartbeat now node := by
  simp only [onHeartbeatTopic, heartbeatOf, checkState]
  cases decodeEnvelope data with
  | none => cases channel.done <;> rfl
  | some env => cases channel.done <;> by_cases typed : env.type = some .nodeHeartbeat <;> simp [typed]

theorem stamped_handle (data : Json) (handler : Handler) :
    Stamped channel (channel.handle moment data handler).1 moment.now := by
  cases handler with
  | channelTopic =>
    simp only [handle, onChannelTopic]
    cases channel.checkState with
    | some => exact stamped_refl channel
    | none =>
      simp only [handleDistributedMessage]
      cases decodeEnvelope data with
      | none => exact stamped_refl channel
      | some =>
        dsimp only
        split
        · exact stamped_refl channel
        · exact stamped_envelope channel moment
  | heartbeatTopic =>
    simp only [handle, on_heartbeat_eq]
    cases heartbeatOf data with
    | none => exact stamped_refl channel
    | some =>
      dsimp only
      split
      · exact stamped_refl channel
      · exact stamped_heartbeat channel

theorem dropped_frame {nodes : List NodeId} (state : Channel × List UserId) :
    (nodes.foldl dropStaleNode state).1.nodeId = state.1.nodeId ∧
      (nodes.foldl dropStaleNode state).1.heartbeatTimeout = state.1.heartbeatTimeout ∧
        (nodes.foldl dropStaleNode state).1.done = state.1.done ∧
          ∀ node time, (nodes.foldl dropStaleNode state).1.nodeLastSeen.get? node = some time →
            state.1.nodeLastSeen.get? node = some time := by
  induction nodes generalizing state with
  | nil => exact ⟨rfl, rfl, rfl, fun _ _ => id⟩
  | cons node _ ih =>
    obtain ⟨nodeId, timeout, done, seen⟩ := ih (dropStaleNode state node)
    have first : (dropStaleNode state node).1.nodeId = state.1.nodeId ∧
        (dropStaleNode state node).1.heartbeatTimeout = state.1.heartbeatTimeout ∧
          (dropStaleNode state node).1.done = state.1.done ∧
            (dropStaleNode state node).1.nodeLastSeen = state.1.nodeLastSeen.delete node := by
      simp only [dropStaleNode]
      cases state.1.nodeUsers.get? node <;> exact ⟨rfl, rfl, rfl, rfl⟩
    refine ⟨nodeId.trans first.1, timeout.trans first.2.1, done.trans first.2.2.1, fun query time found => ?_⟩
    have before := seen query time found
    rw [first.2.2.2, OrderedMap.get_delete] at before
    split at before
    · cases before
    · exact before

theorem stamped_tick : Stamped channel (channel.cleanupStaleNodes now) now := by
  obtain ⟨nodeId, timeout, done, seen⟩ := dropped_frame (channel, [])
  exact ⟨nodeId, timeout, fun still => done ▸ still, fun node time found => .inl (seen node time found)⟩

end Channel

end PondSocket.Go
