import PondSocket.Go.PresenceCalls
import PondSocket.Go.Membership

namespace PondSocket.Go

open Library
open Js (Json UserId NodeId)

namespace Channel

variable (channel : Channel) {now : Nat}

variable {env : DistributedEnvelope} {nodeId : NodeId}

def Reports (channel : Channel) (uuid : String) (data : Json) (userId : UserId) : Prop :=
  ∃ env event, decodeEnvelope data = some env ∧ env.sourceNodeId ≠ channel.nodeId ∧
    eventFromEnvelope uuid env = some event ∧ event.action = .presence ∧ event.event ≠ leave ∧
      textAt event.payload "userId" = userId

def Spared (channel : Channel) : Prop :=
  ∀ now userId, channel.memberships.has userId = true →
    (channel.cleanupStaleNodes now).presence.store.get? userId = channel.presence.store.get? userId

structure Separated (channel : Channel) : Prop where
  matched : channel.Matched
  apart : ∀ node userId, channel.Tracks node userId → channel.memberships.has userId = false

theorem separated_spared (separated : channel.Separated) : channel.Spared := by
  intro now userId member
  refine (cleanup_keeps channel now ?_).2.2
  intro node _ tracks
  have absent := separated.apart node userId tracks
  rw [member] at absent
  cases absent

structure Sheds (channel next : Channel) : Prop where
  members : ∀ userId, next.memberships.has userId = true → channel.memberships.has userId = true
  listed : ∀ node userId, next.Tracks node userId → channel.Tracks node userId

theorem sheds_same {channel : Channel} (next : Channel) (members : next.memberships = channel.memberships)
    (users : next.nodeUsers = channel.nodeUsers) : Sheds channel next := by
  constructor
  · intro userId member
    rw [← members]
    exact member
  · intro node userId tracks
    rw [Tracks, users] at tracks
    exact tracks

variable {userId : UserId}

theorem sheds_gone {channel next : Channel} (gone : Gone channel next userId) : Sheds channel next := by
  constructor
  · intro query member
    rw [gone.memberships] at member
    exact ((Store.has_drop _).mp member).2
  · intro node query tracks
    have users : next.nodeUsers = channel.nodeUsers := by
      rw [gone.rest]
    rw [Tracks, users] at tracks
    exact tracks

theorem sheds_trans (channel middle next : Channel) (first : Sheds channel middle) (second : Sheds middle next) :
    Sheds channel next where
  members := fun userId member => first.members userId (second.members userId member)
  listed := fun node userId tracks => first.listed node userId (second.listed node userId tracks)

theorem separated_sheds (channel next : Channel) (sheds : Sheds channel next) (matched : next.Matched)
    (separated : channel.Separated) : next.Separated := by
  refine ⟨matched, ?_⟩
  intro node userId tracks
  have absent := separated.apart node userId (sheds.listed node userId tracks)
  rw [Bool.eq_false_iff] at absent ⊢
  exact fun member => absent (sheds.members userId member)

theorem sheds_remove_user {reason : String} : Sheds channel (channel.removeUser userId reason).1 := by
  simp only [removeUser]
  cases channel.checkState with
  | some => exact sheds_same channel rfl rfl
  | none =>
    cases channel.getUserUnsafe userId with
    | ok => exact sheds_gone (remove_gone channel userId reason true)
    | error =>
      dsimp only
      split
      · rw [publish_frame]
        exact sheds_same _ rfl rfl
      · exact sheds_same channel rfl rfl

theorem sheds_expire {membership : Nat} : Sheds channel (channel.expire membership) := by
  simp only [expire]
  cases channel.issued[membership]? with
  | none => exact sheds_same channel rfl rfl
  | some entry =>
    simp only [removeExpiredMembership]
    cases channel.memberships.read entry.connection.id with
    | error => exact sheds_same channel rfl rfl
    | ok =>
      dsimp only
      split
      · exact sheds_same channel rfl rfl
      · exact sheds_gone (remove_gone channel _ _ true)

theorem sheds_close : Sheds channel channel.closeLocked := by
  have fold : ∀ (userIds : List UserId) (start : Channel), Sheds start (userIds.foldl closeUser start) := by
    intro userIds
    induction userIds with
    | nil => exact fun start => sheds_same start rfl rfl
    | cons _ _ ih =>
      intro start
      exact sheds_trans start _ _ (sheds_gone (close_user_gone start)) (ih _)
  simp only [closeLocked]
  split
  · exact sheds_same channel rfl rfl
  · exact sheds_trans channel { channel with done := true } _ (sheds_same _ rfl rfl) (fold _ _)

variable {event : Event}

theorem sheds_user_command {sent : Bool} : Sheds channel (channel.handleRemoteUserCommand sent event) := by
  simp only [handleRemoteUserCommand]
  split
  · exact sheds_same channel rfl rfl
  cases channel.getUserUnsafe (textAt event.payload "userID") with
  | error => exact sheds_same channel rfl rfl
  | ok =>
    dsimp only
    split
    · simp only [evictUserLocal]
      split
      · exact sheds_remove_user channel
      · exact sheds_same channel rfl rfl
    split
    · exact sheds_gone (remove_gone channel _ _ true)
    · exact sheds_same channel rfl rfl

theorem sheds_assigns_event : Sheds channel (channel.handleRemoteAssignsEvent event) := by
  simp only [handleRemoteAssignsEvent]
  split
  · exact sheds_same channel rfl rfl
  · cases channel.store.read (textAtEither event.payload "userId" "UserID") <;> exact sheds_same _ rfl rfl

theorem sheds_untrack : Sheds channel (channel.untrackNodeUser nodeId userId) := by
  by_cases named : nodeId = ""
  · rw [untrackNodeUser, if_pos named]
    exact sheds_same channel rfl rfl
  refine ⟨fun query member => ?_, fun node query tracks => ?_⟩
  · rw [untrack_frame] at member
    exact member
  · exact ((tracks_untrack channel named).mp tracks).1

theorem sheds_tick : Sheds channel (channel.cleanupStaleNodes now) := by
  have dropped := dropped_all (channel.staleNodes now) (channel, [])
  constructor
  · intro userId member
    exact dropped.memberships ▸ member
  · rintro node userId ⟨users, found, among⟩
    have held := dropped.users node
    rw [show (channel.cleanupStaleNodes now).nodeUsers.get? node =
      ((channel.staleNodes now).foldl dropStaleNode (channel, [])).1.nodeUsers.get? node from rfl, held] at found
    split at found
    · cases found
    · exact ⟨users, found, among⟩

theorem separated_track (userId : UserId)
    (absent : channel.memberships.has userId = false) (separated : channel.Separated) :
    (channel.trackNodeUser now nodeId userId).Separated := by
  by_cases own : nodeId = "" ∨ nodeId = channel.nodeId
  · rw [trackNodeUser, if_pos own]
    exact separated
  have frame := channel.track_frame now nodeId userId
  constructor
  · rw [frame]
    exact matched_same channel _ ⟨rfl, rfl, rfl⟩ separated.matched
  · intro node query tracks
    rw [frame]
    rcases (tracks_track channel now node userId query own).mp tracks with before | ⟨_, same⟩
    · exact separated.apart node query before
    · rw [same]
      exact absent

theorem separated_same (channel next : Channel) (same : SameMembers channel next)
    (users : next.nodeUsers = channel.nodeUsers) (separated : channel.Separated) : next.Separated :=
  separated_sheds channel next (sheds_same next same.memberships users)
    (matched_same channel next same separated.matched) separated

theorem absent_member {failure : Failure} (matched : channel.Matched)
    (missing : channel.store.read userId = .error failure) : channel.memberships.has userId = false := by
  rw [← (matched userId).1]
  exact channel.store.read_error missing

theorem separated_state_user {source : NodeId} {channel : Channel} {user : DistributedUser}
    (separated : channel.Separated) : (handleStateResponseUser now source channel user).Separated := by
  simp only [handleStateResponseUser]
  split
  · exact separated
  cases missing : channel.store.read user.id with
  | ok => exact separated
  | error =>
    have absent := absent_member channel separated.matched missing
    rw [adopt_frame]
    apply separated_track
    · cases asMap user.assigns <;> exact absent
    · cases asMap user.assigns <;> exact separated_same channel _ ⟨rfl, rfl, rfl⟩ rfl separated

theorem separated_state_response (separated : channel.Separated) : (channel.handleStateResponse now env).Separated := by
  simp only [handleStateResponse]
  induction env.users generalizing channel with
  | nil => exact separated
  | cons _ _ ih => exact ih _ (separated_state_user separated)

theorem separated_joined (separated : channel.Separated) :
    (channel.handleRemoteUserJoined now env).Separated := by
  simp only [handleRemoteUserJoined]
  split
  · exact separated
  cases missing : channel.store.read env.userId with
  | ok => exact separated
  | error =>
    have absent := absent_member channel separated.matched missing
    rw [adopt_frame]
    apply separated_track
    · exact absent
    · exact separated_same channel _ ⟨rfl, rfl, rfl⟩ rfl separated

theorem separated_left (separated : channel.Separated) :
    (channel.handleRemoteUserLeft env).Separated := by
  refine separated_sheds channel _ ?_ (matched_same channel _ (same_left channel) separated.matched) separated
  simp only [handleRemoteUserLeft]
  split
  · exact sheds_same channel rfl rfl
  · refine sheds_trans channel (channel.removeRemoteAssigns env.userId) _ (sheds_same _ rfl rfl) ?_
    exact sheds_trans _ _ _ (sheds_untrack _) (sheds_same _ rfl rfl)

theorem separated_presence_event
    (absent : event.event ≠ leave → channel.memberships.has (textAt event.payload "userId") = false)
    (separated : channel.Separated) : (channel.handleRemotePresenceEvent now event).Separated := by
  have matched := matched_same channel _ (same_presence_event channel now event) separated.matched
  by_cases left : event.event = leave
  · refine separated_sheds channel _ ?_ matched separated
    simp only [handleRemotePresenceEvent, if_pos left]
    split
    · exact sheds_same channel rfl rfl
    · refine sheds_trans channel { channel with presence := channel.presence.drop _ } _ ?_ (sheds_untrack _)
      exact sheds_same _ rfl rfl
  simp only [handleRemotePresenceEvent, if_neg left]
  split
  · exact separated
  apply separated_track
  · cases index event.payload "changed" <;> exact absent left
  · cases index event.payload "changed" <;> exact separated_same channel _ ⟨rfl, rfl, rfl⟩ rfl separated

variable {moment : Moment}

theorem separated_event (absent : event.action = .presence → event.event ≠ leave →
      channel.memberships.has (textAt event.payload "userId") = false) (separated : channel.Separated) :
    (channel.handleEvent moment event).1.Separated := by
  have matched := matched_event channel moment event separated.matched
  simp only [handleEvent] at matched ⊢
  cases kind : event.action with
  | assigns =>
    rw [kind] at matched
    exact separated_sheds channel _ (sheds_assigns_event channel) matched separated
  | userCommand =>
    rw [kind] at matched
    exact separated_sheds channel _ (sheds_user_command channel) matched separated
  | presence => exact separated_presence_event channel (absent kind) separated
  | broadcast => exact separated

theorem separated_state_request (separated : channel.Separated) :
    channel.handleStateRequest.Separated := by
  simp only [handleStateRequest]
  split
  · exact separated
  · rw [publish_frame]
    exact separated_same channel _ ⟨rfl, rfl, rfl⟩ rfl separated

theorem separated_record (separated : channel.Separated) :
    (channel.recordHeartbeat now nodeId).Separated := by
  simp only [recordHeartbeat]
  split
  · exact separated
  · exact separated_same channel _ ⟨rfl, rfl, rfl⟩ rfl separated

theorem separated_receive {data : Json}
    (apart : ∀ userId, channel.Reports moment.uuid data userId → channel.memberships.has userId = false)
    (separated : channel.Separated) : (channel.onChannelTopic moment data).1.Separated := by
  simp only [onChannelTopic]
  cases channel.checkState with
  | some => exact separated
  | none =>
    simp only [handleDistributedMessage]
    cases decoded : decodeEnvelope data with
    | none => exact separated
    | some env =>
      dsimp only
      by_cases own : env.sourceNodeId = channel.nodeId
      · rw [if_pos own]
        exact separated
      rw [if_neg own]
      simp only [handleEnvelope]
      split
      · exact separated_state_request channel separated
      · exact separated_state_response channel separated
      · exact separated_joined channel separated
      · exact separated_left channel separated
      · exact separated_record channel separated
      · cases made : eventFromEnvelope moment.uuid env with
        | none => exact separated
        | some event =>
          apply separated_event channel
          · intro presence other
            exact apart _ ⟨env, event, decoded, own, made, presence, other, rfl⟩
          · exact separated

def Apart (channel : Channel) : PresenceOp → Prop
  | .channel (.addUser user) => ∀ node, ¬ channel.Tracks node user.id
  | .channel (.receive moment data) =>
    ∀ userId, channel.Reports moment.uuid data userId → channel.memberships.has userId = false
  | _ => True

variable {user : Transport}

theorem created_members {result : Channel × Option Failure} {query : UserId} (created : Created channel user result)
    (member : result.1.memberships.has query = true) : query = user.id ∨ channel.memberships.has query = true := by
  cases created with
  | inactive _ same =>
    rw [same.memberships] at member
    exact .inr member
  | joined _ _ _ _ _ memberships =>
    rw [memberships] at member
    exact has_created.mp member

theorem add_user_members {query : UserId} (matched : channel.Matched)
    (member : (channel.addUser user).1.memberships.has query = true) :
    query = user.id ∨ channel.memberships.has query = true := by
  simp only [addUser] at member
  cases state : channel.checkState with
  | some =>
    rw [state] at member
    exact .inr member
  | none =>
    rw [state] at member
    cases read : channel.memberships.read user.id with
    | error =>
      rw [read] at member
      have absent := channel.memberships.read_error read
      exact created_members channel (create_user_created channel user matched absent) member
    | ok existing =>
      rw [read] at member
      dsimp only at member
      split at member
      · exact .inr member
      have gone := remove_gone channel user.id (channel.reason existing) false
      have absent : (channel.removeUserLocalWithDestroy user.id (channel.reason existing) false).memberships.has
          user.id = false := by
        rw [gone.memberships, Bool.eq_false_iff, Ne, Store.has_drop]
        exact fun both => both.1 rfl
      have created := create_user_created _ user (matched_gone _ user.id gone matched) absent
      rcases created_members _ created member with same | before
      · exact .inl same
      · rw [gone.memberships, Store.has_drop] at before
        exact .inr before.2

theorem separated_add_user (unlisted : ∀ node, ¬ channel.Tracks node user.id) (separated : channel.Separated) :
    (channel.addUser user).1.Separated := by
  refine ⟨matched_add_user channel user separated.matched, ?_⟩
  intro node query tracks
  have users := (quiet_add_user channel user).nodeUsers
  rw [Tracks, users] at tracks
  have absent := separated.apart node query tracks
  have different : query ≠ user.id := by
    rintro rfl
    exact unlisted node tracks
  rw [Bool.eq_false_iff] at absent ⊢
  intro member
  apply absent
  rcases add_user_members channel separated.matched member with same | before
  · exact absurd same different
  · exact before

theorem sheds_track_connected {presence : Json} : Sheds channel (channel.trackConnectedUser userId presence).1 := by
  simp only [trackConnectedUser]
  cases channel.checkState with
  | some => exact sheds_same channel rfl rfl
  | none =>
    cases channel.memberships.read userId with
    | error => exact sheds_same channel rfl rfl
    | ok =>
      dsimp only
      split
      · exact sheds_same channel rfl rfl
      cases channel.presence.create userId presence with
      | error => exact sheds_same channel rfl rfl
      | ok =>
        dsimp only
        rw [publish_frame]
        exact sheds_same _ rfl rfl

theorem sheds_update_assigns {key : String} {value : Json} :
    Sheds channel (channel.updateAssigns userId key value).1 := by
  simp only [updateAssigns]
  cases channel.checkState with
  | some => exact sheds_same channel rfl rfl
  | none =>
    cases channel.store.read userId with
    | error => exact sheds_same channel rfl rfl
    | ok assigns =>
      dsimp only
      cases channel.store.update userId (assigns.set key value) <;> exact sheds_same _ rfl rfl

theorem separated_heartbeat {data : Json} (separated : channel.Separated) :
    (channel.onHeartbeatTopic now data).Separated := by
  simp only [onHeartbeatTopic]
  split
  · split
    · exact separated_record channel separated
    · exact separated
  · exact separated

theorem separated_act {op : ChannelOp} (apart : channel.Apart (.channel op))
    (separated : channel.Separated) : (channel.act op).Separated := by
  have matched := matched_act channel op separated.matched
  cases op with
  | addUser => exact separated_add_user channel apart separated
  | receive => exact separated_receive channel apart separated
  | heartbeat => exact separated_heartbeat channel separated
  | removeUser => exact separated_sheds channel _ (sheds_remove_user channel) matched separated
  | connectionClosed | connectionDone | parentDone =>
    exact separated_sheds channel _ (sheds_same _ rfl rfl) matched separated
  | expired => exact separated_sheds channel _ (sheds_expire channel) matched separated
  | close => exact separated_sheds channel _ (sheds_close channel) matched separated
  | trackConnectedUser => exact separated_sheds channel _ (sheds_track_connected channel) matched separated
  | updateAssigns => exact separated_sheds channel _ (sheds_update_assigns channel) matched separated
  | tick => exact separated_sheds channel _ (sheds_tick channel) matched separated

theorem separated_perform (op : PresenceOp) (separated : channel.Separated)
    (apart : channel.Apart op) : (channel.perform op).Separated := by
  cases op with
  | channel => exact separated_act channel apart separated
  | track =>
    simp only [perform]
    rw [track_call_frame]
    exact separated_same channel _ ⟨rfl, rfl, rfl⟩ rfl separated
  | update =>
    simp only [perform]
    rw [update_call_frame]
    exact separated_same channel _ ⟨rfl, rfl, rfl⟩ rfl separated
  | unTrack =>
    simp only [perform]
    rw [un_track_call_frame]
    exact separated_same channel _ ⟨rfl, rfl, rfl⟩ rfl separated

theorem separated_new {name : String} {nodeId : NodeId} {distributed onDestroy : Bool} {heartbeatTimeout : Nat} :
    (newChannel name nodeId distributed onDestroy heartbeatTimeout).Separated := by
  refine ⟨fun userId => ⟨rfl, rfl⟩, ?_⟩
  rintro node userId ⟨users, found, _⟩
  cases found

theorem local_presence_spared (name : String) (nodeId : NodeId) (distributed onDestroy : Bool) (heartbeatTimeout : Nat)
    (ops : List PresenceOp)
    (apart : Library.Follows perform Apart (newChannel name nodeId distributed onDestroy heartbeatTimeout) ops) :
    Always perform Spared (newChannel name nodeId distributed onDestroy heartbeatTimeout) ops := by
  refine always_mono perform Separated Spared separated_spared _ ops ?_
  exact always_of_follows perform Apart Separated separated_perform _ separated_new apart

def tenant : Transport := ⟨"u", 1, none⟩

def online : Json := .object [("status", .string "online")]

def reportOf (userId : UserId) : ChannelOp :=
  .receive remoteMoment ((Publication.presence update userId online [online]).encode remoteStamp "api"
    (newChannel "room" "node-2" true true 90000))

def reportedMember : List PresenceOp :=
  [.channel (.addUser tenant), .channel (.trackConnectedUser "u" online), .channel (reportOf "u")]

theorem member_presence_dropped :
    let before := run perform (newChannel "room" "node-1" true true 90000) reportedMember
    before.memberships.has "u" = true ∧ before.presence.has "u" = true ∧
      (before.cleanupStaleNodes 90000).memberships.has "u" = true ∧
      (before.cleanupStaleNodes 90000).presence.has "u" = false ∧
      ¬ Always perform Spared (newChannel "room" "node-1" true true 90000) reportedMember := by
  have joined : (run perform (newChannel "room" "node-1" true true 90000) reportedMember).memberships.has "u" = true := by
    decide +kernel
  have tracked : (run perform (newChannel "room" "node-1" true true 90000) reportedMember).presence.has "u" = true := by
    decide +kernel
  have dropped : ((run perform (newChannel "room" "node-1" true true 90000) reportedMember).cleanupStaleNodes
      90000).presence.has "u" = false := by
    decide +kernel
  refine ⟨joined, tracked, by decide +kernel, dropped, fun spared => ?_⟩
  have kept := always_run perform _ spared 90000 "u" joined
  have present : ((run perform (newChannel "room" "node-1" true true 90000) reportedMember).cleanupStaleNodes
      90000).presence.has "u" = true := by
    rw [Store.has, OrderedMap.has, kept]
    exact tracked
  rw [dropped] at present
  cases present

theorem report_decoded {other : UserId}
    (reports : channel.Reports "uuid-1" ((Publication.presence update userId online [online]).encode remoteStamp "api"
      (newChannel "room" "node-2" true true 90000)) other) : other = userId := by
  obtain ⟨_, _, decoded, _, made, _, _, named⟩ := reports
  have read : decodeEnvelope ((Publication.presence update userId online [online]).encode remoteStamp "api"
      (newChannel "room" "node-2" true true 90000)) =
      some { newEnvelope .presenceUpdate "room" "node-2" with
        presenceEvent := update, userId := userId, presence := online, presenceList := [online] } :=
    DistributedEnvelope.decode_marshal _ _ _ rfl
  rw [read] at decoded
  cases decoded
  cases made
  exact named.symm

theorem stranger_dropped :
    Always perform Spared (newChannel "room" "node-1" true true 90000)
      [.channel (.addUser tenant), .channel (.trackConnectedUser "u" online), .channel (reportOf "w"),
        .channel (.tick 90000)] := by
  apply local_presence_spared
  refine ⟨?_, trivial, ?_, trivial, trivial⟩
  · rintro node ⟨users, found, _⟩
    cases found
  intro userId reports
  rw [report_decoded _ reports]
  decide +kernel

end Channel

end PondSocket.Go
