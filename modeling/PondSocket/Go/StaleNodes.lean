import PondSocket.Go.Operations
import PondSocket.Go.AssignsUpdate

namespace PondSocket.Go

open Library List OrderedMap Option
open Js (Json UserId NodeId)

namespace Channel

variable (channel : Channel) (now : Nat) (userId : UserId)

variable (env : DistributedEnvelope) (moment : Moment)

def Tracks (channel : Channel) (node : NodeId) (userId : UserId) : Prop :=
  ∃ users, channel.nodeUsers.get? node = some users ∧ users.has userId = true

def Listed (channel : Channel) (userId : UserId) : Prop :=
  ∃ node, channel.Tracks node userId ∧ channel.nodeLastSeen.has node = true

def Exposed (channel : Channel) (userId : UserId) : Prop :=
  channel.remoteAssigns.has userId = true ∨
    channel.presence.has userId = true ∧ channel.memberships.has userId = false

def Complete (channel : Channel) : Prop := ∀ userId, channel.Exposed userId → channel.Listed userId

structure Accounted (channel : Channel) : Prop where
  complete : channel.Complete
  timed : ∀ node, channel.nodeUsers.has node = true → channel.nodeLastSeen.has node = true

variable {node : NodeId}

theorem tracks_has {userId : UserId} (tracks : channel.Tracks node userId) : channel.nodeUsers.has node = true := by
  obtain ⟨users, found, _⟩ := tracks
  exact has_iff.mpr ⟨users, found⟩

variable {nodeId : NodeId}

theorem tracks_track (node : NodeId) (userId query : UserId) (foreign : ¬ (nodeId = "" ∨ nodeId = channel.nodeId)) :
    (channel.trackNodeUser now nodeId userId).Tracks node query ↔
      channel.Tracks node query ∨ node = nodeId ∧ query = userId := by
  unfold trackNodeUser Tracks
  rw [if_neg foreign]
  by_cases same : node = nodeId
  · subst same
    simp only [get_set_same, some.injEq, exists_eq_left', true_and]
    rw [OrderedSet.add, has_set]
    cases channel.nodeUsers.get? node with
    | none => simp
    | some => simp [or_comm]
  · simp [get_set_other same, same]

theorem seen_track {userId : UserId} (foreign : ¬ (nodeId = "" ∨ nodeId = channel.nodeId)) :
    (channel.trackNodeUser now nodeId userId).nodeLastSeen.has node = true ↔
      node = nodeId ∨ channel.nodeLastSeen.has node = true := by
  unfold trackNodeUser
  rw [if_neg foreign]
  split
  · rename_i seen
    constructor
    · exact .inr
    · rintro (rfl | known)
      · exact seen
      · exact known
  · exact has_set

theorem users_track {userId : UserId} (foreign : ¬ (nodeId = "" ∨ nodeId = channel.nodeId)) :
    (channel.trackNodeUser now nodeId userId).nodeUsers.has node = true ↔
      node = nodeId ∨ channel.nodeUsers.has node = true := by
  unfold trackNodeUser
  rw [if_neg foreign]
  exact has_set

theorem tracks_untrack {userId query : UserId} (named : nodeId ≠ "") :
    (channel.untrackNodeUser nodeId userId).Tracks node query ↔
      channel.Tracks node query ∧ ¬ (node = nodeId ∧ query = userId) := by
  unfold untrackNodeUser Tracks
  rw [if_neg named]
  cases found : channel.nodeUsers.get? nodeId with
  | none =>
    constructor
    · rintro ⟨users, held, among⟩
      refine ⟨⟨users, held, among⟩, ?_⟩
      rintro ⟨rfl, _⟩
      rw [found] at held
      cases held
    · exact And.left
  | some users =>
    dsimp only
    by_cases same : node = nodeId
    · subst same
      by_cases vacant : (users.delete userId).isEmpty = true
      · have nobody := empty_iff.mp vacant query
        have gone : query ≠ userId → users.has query = false := by
          intro different
          rw [Bool.eq_false_iff] at nobody ⊢
          exact fun present => nobody (has_delete.mpr ⟨different, present⟩)
        rw [if_pos vacant]
        simp only [get_delete_same, found, some.injEq, exists_eq_left', true_and]
        constructor
        · rintro ⟨_, impossible, _⟩
          cases impossible
        · rintro ⟨among, different⟩
          rw [gone different] at among
          cases among
      · rw [if_neg vacant]
        simp only [get_set_same, found, some.injEq, exists_eq_left', true_and]
        rw [has_delete]
        exact and_comm
    · have other : ∀ map : OrderedSet UserId,
          (if (users.delete userId).isEmpty = true then channel.nodeUsers.delete nodeId
            else channel.nodeUsers.set nodeId map).get? node = channel.nodeUsers.get? node := by
        intro map
        split
        · exact get_delete_other same
        · exact get_set_other same
      rw [other]
      simp [same]

theorem users_untrack {userId : UserId} (known : (channel.untrackNodeUser nodeId userId).nodeUsers.has node = true) :
    channel.nodeUsers.has node = true := by
  unfold untrackNodeUser at known
  split at known
  · exact known
  cases found : channel.nodeUsers.get? nodeId with
  | none =>
    rw [found] at known
    exact known
  | some users =>
    rw [found] at known
    dsimp only at known
    split at known
    · exact (has_delete.mp known).2
    rcases has_set.mp known with rfl | present
    · exact has_iff.mpr ⟨users, found⟩
    · exact present

structure Quiet (channel next : Channel) : Prop where
  nodeId : next.nodeId = channel.nodeId
  heartbeatTimeout : next.heartbeatTimeout = channel.heartbeatTimeout
  running : next.done = false → channel.done = false
  remoteAssigns : next.remoteAssigns = channel.remoteAssigns
  nodeUsers : next.nodeUsers = channel.nodeUsers
  nodeLastSeen : next.nodeLastSeen = channel.nodeLastSeen
  presence : ∀ userId, next.presence.has userId = true → next.memberships.has userId = false →
    channel.presence.has userId = true ∧ channel.memberships.has userId = false

theorem quiet_refl : Quiet channel channel := ⟨rfl, rfl, id, rfl, rfl, rfl, fun _ => And.intro⟩

theorem quiet_trans (channel middle next : Channel) (first : Quiet channel middle) (second : Quiet middle next) :
    Quiet channel next where
  nodeId := second.nodeId.trans first.nodeId
  heartbeatTimeout := second.heartbeatTimeout.trans first.heartbeatTimeout
  running := fun still => first.running (second.running still)
  remoteAssigns := second.remoteAssigns.trans first.remoteAssigns
  nodeUsers := second.nodeUsers.trans first.nodeUsers
  nodeLastSeen := second.nodeLastSeen.trans first.nodeLastSeen
  presence := by
    intro userId present missing
    obtain ⟨before, alone⟩ := second.presence userId present missing
    exact first.presence userId before alone

theorem quiet_accounted (channel next : Channel) (quiet : Quiet channel next) (accounted : channel.Accounted) :
    next.Accounted := by
  constructor
  · intro userId exposed
    have before : channel.Exposed userId := by
      rcases exposed with remote | ⟨present, missing⟩
      · exact .inl (quiet.remoteAssigns ▸ remote)
      · exact .inr (quiet.presence userId present missing)
    obtain ⟨node, ⟨users, found, among⟩, seen⟩ := accounted.complete userId before
    exact ⟨node, ⟨users, quiet.nodeUsers ▸ found, among⟩, quiet.nodeLastSeen ▸ seen⟩
  · intro node known
    rw [quiet.nodeLastSeen]
    exact accounted.timed node (quiet.nodeUsers ▸ known)

theorem gone_quiet {channel next : Channel} {userId : UserId} (gone : Gone channel next userId) :
    Quiet channel next := by
  refine ⟨?_, ?_, ?_, ?_, ?_, ?_, ?_⟩
  · rw [gone.rest]
  · rw [gone.rest]
  · rw [gone.rest]
    exact id
  · rw [gone.rest]
  · rw [gone.rest]
  · rw [gone.rest]
  · intro query present missing
    rw [gone.presence, Store.has_drop] at present
    refine ⟨present.2, ?_⟩
    rw [gone.memberships, Bool.eq_false_iff, Ne, Store.has_drop] at missing
    exact Bool.eq_false_iff.mpr fun member => missing ⟨present.1, member⟩

theorem accounted_track (channel middle : Channel) (now : Nat) (nodeId : NodeId) (userId : UserId)
    (users : middle.nodeUsers = channel.nodeUsers) (seen : middle.nodeLastSeen = channel.nodeLastSeen)
    (exposed : ∀ query, middle.Exposed query → query = userId ∨ channel.Exposed query)
    (foreign : ¬ (nodeId = "" ∨ nodeId = middle.nodeId)) (accounted : channel.Accounted) :
    (middle.trackNodeUser now nodeId userId).Accounted := by
  have shown : ∀ query, (middle.trackNodeUser now nodeId userId).Exposed query → middle.Exposed query := by
    intro query
    rw [track_frame]
    exact id
  constructor
  · intro query exposure
    rcases exposed query (shown query exposure) with rfl | before
    · exact ⟨nodeId, (tracks_track middle now nodeId query query foreign).mpr (.inr ⟨rfl, rfl⟩),
        (seen_track middle now foreign).mpr (.inl rfl)⟩
    obtain ⟨node, tracks, known⟩ := accounted.complete query before
    refine ⟨node, (tracks_track middle now node userId query foreign).mpr (.inl ?_),
      (seen_track middle now foreign).mpr (.inr ?_)⟩
    · rw [Tracks, users]
      exact tracks
    · rw [seen]
      exact known
  · intro node known
    rw [seen_track middle now foreign, seen]
    rcases (users_track middle now foreign).mp known with same | before
    · exact .inl same
    · exact .inr (accounted.timed node (users ▸ before))

theorem accounted_untrack (channel middle : Channel) (nodeId : NodeId) (userId : UserId) (named : nodeId ≠ "")
    (users : middle.nodeUsers = channel.nodeUsers) (seen : middle.nodeLastSeen = channel.nodeLastSeen)
    (exposed : ∀ query, middle.Exposed query → channel.Exposed query)
    (own : middle.Exposed userId → ∃ node, node ≠ nodeId ∧ channel.Tracks node userId)
    (accounted : channel.Accounted) : (middle.untrackNodeUser nodeId userId).Accounted := by
  have shown : ∀ query, (middle.untrackNodeUser nodeId userId).Exposed query → middle.Exposed query := by
    intro query
    rw [untrack_frame]
    exact id
  have seenAfter : (middle.untrackNodeUser nodeId userId).nodeLastSeen = channel.nodeLastSeen := by
    rw [untrack_frame]
    exact seen
  have tracksAfter : ∀ node query, channel.Tracks node query → ¬ (node = nodeId ∧ query = userId) →
      (middle.untrackNodeUser nodeId userId).Tracks node query := by
    intro node query tracks apart
    refine (tracks_untrack middle named).mpr ⟨?_, apart⟩
    rw [Tracks, users]
    exact tracks
  constructor
  · intro query exposure
    by_cases same : query = userId
    · subst same
      obtain ⟨node, other, tracks⟩ := own (shown query exposure)
      refine ⟨node, tracksAfter node query tracks fun both => other both.1, ?_⟩
      rw [seenAfter]
      exact accounted.timed node (channel.tracks_has tracks)
    · obtain ⟨node, tracks, known⟩ := accounted.complete query (exposed query (shown query exposure))
      exact ⟨node, tracksAfter node query tracks fun both => same both.2, by rw [seenAfter]; exact known⟩
  · intro node known
    rw [seenAfter]
    exact accounted.timed node (users ▸ users_untrack middle known)

variable {presence : Json}

theorem adopt_presence_has {userId query : UserId}
    (present : (channel.adoptPresence userId presence).presence.has query = true) :
    query = userId ∨ channel.presence.has query = true := by
  unfold adoptPresence at present
  cases map : asMap presence with
  | none =>
    rw [map] at present
    exact .inr present
  | some =>
    rw [map] at present
    dsimp only at present
    split at present
    · exact .inr present
    · exact (Store.has_upsert _).mp present

theorem adopted_exposed (channel before : Channel) (userId query : UserId) (presence : Json)
    (remote : before.remoteAssigns.has query = true → query = userId ∨ channel.remoteAssigns.has query = true)
    (stored : before.presence = channel.presence) (members : before.memberships = channel.memberships)
    (exposed : (before.adoptPresence userId presence).Exposed query) : query = userId ∨ channel.Exposed query := by
  rcases exposed with listed | ⟨present, missing⟩
  · rw [adopt_frame] at listed
    exact (remote listed).imp_right .inl
  rw [adopt_frame] at missing
  rcases adopt_presence_has before present with same | old
  · exact .inl same
  · exact .inr (.inr ⟨stored ▸ old, members ▸ missing⟩)

theorem accounted_state_user {source : NodeId} {channel : Channel} {user : DistributedUser}
    (foreign : ¬ (source = "" ∨ source = channel.nodeId)) (accounted : channel.Accounted) :
    (handleStateResponseUser now source channel user).Accounted ∧
      (handleStateResponseUser now source channel user).nodeId = channel.nodeId := by
  unfold handleStateResponseUser
  split
  · exact ⟨accounted, rfl⟩
  cases channel.store.read user.id with
  | ok => exact ⟨accounted, rfl⟩
  | error =>
    have adopted : ∀ before : Channel, before.nodeUsers = channel.nodeUsers →
        before.nodeLastSeen = channel.nodeLastSeen → before.nodeId = channel.nodeId →
        before.presence = channel.presence → before.memberships = channel.memberships →
        (∀ query, before.remoteAssigns.has query = true → query = user.id ∨ channel.remoteAssigns.has query = true) →
        ((before.adoptPresence user.id user.presence).trackNodeUser now source user.id).Accounted ∧
          ((before.adoptPresence user.id user.presence).trackNodeUser now source user.id).nodeId = channel.nodeId := by
      intro before users seen node stored members remote
      refine ⟨accounted_track channel _ now source user.id ?_ ?_ (fun query exposed =>
        adopted_exposed channel before user.id query user.presence (remote query) stored members exposed) ?_
        accounted, ?_⟩
      · rw [adopt_frame]
        exact users
      · rw [adopt_frame]
        exact seen
      · rw [adopt_frame]
        exact node.symm ▸ foreign
      · rw [track_frame, adopt_frame]
        exact node
    cases asMap user.assigns with
    | none => exact adopted channel rfl rfl rfl rfl rfl fun _ => .inr
    | some assigns =>
      exact adopted (channel.setRemoteAssigns user.id assigns) rfl rfl rfl rfl rfl fun query =>
        has_set.mp

theorem accounted_state_response
    (foreign : ¬ (env.sourceNodeId = "" ∨ env.sourceNodeId = channel.nodeId)) (accounted : channel.Accounted) :
    (channel.handleStateResponse now env).Accounted := by
  unfold handleStateResponse
  induction env.users generalizing channel with
  | nil => exact accounted
  | cons _ _ ih =>
    obtain ⟨next, node⟩ := accounted_state_user now foreign accounted
    exact ih _ (node.symm ▸ foreign) next

theorem accounted_joined
    (foreign : ¬ (env.sourceNodeId = "" ∨ env.sourceNodeId = channel.nodeId)) (accounted : channel.Accounted) :
    (channel.handleRemoteUserJoined now env).Accounted := by
  unfold handleRemoteUserJoined
  split
  · exact accounted
  cases channel.store.read env.userId with
  | ok => exact accounted
  | error =>
    refine accounted_track channel _ now env.sourceNodeId env.userId ?_ ?_ (fun query exposed =>
      adopted_exposed channel (channel.setRemoteAssigns env.userId ((asMap env.assigns).getD .empty)) env.userId
        query env.presence has_set.mp rfl rfl exposed) ?_ accounted
    · rw [adopt_frame]
      rfl
    · rw [adopt_frame]
      rfl
    · rw [adopt_frame]
      exact foreign

theorem untrack_presence (nodeId : NodeId) (userId : UserId) (presence : Store Json) :
    { channel.untrackNodeUser nodeId userId with presence := presence } =
      { channel with presence := presence }.untrackNodeUser nodeId userId := by
  unfold untrackNodeUser
  split
  · rfl
  · cases channel.nodeUsers.get? nodeId <;> rfl

theorem accounted_left (named : env.sourceNodeId ≠ "")
    (accounted : channel.Accounted) : (channel.handleRemoteUserLeft env).Accounted := by
  unfold handleRemoteUserLeft
  split
  · exact accounted
  rw [untrack_presence]
  have shown : ∀ query, Exposed { channel.removeRemoteAssigns env.userId with
      presence := ((channel.removeRemoteAssigns env.userId).untrackNodeUser env.sourceNodeId env.userId).presence.drop
        env.userId } query → query ≠ env.userId ∧ channel.Exposed query := by
    intro query exposed
    rcases exposed with remote | ⟨present, missing⟩
    · obtain ⟨other, old⟩ := has_delete.mp remote
      exact ⟨other, .inl old⟩
    rw [untrack_frame] at present
    obtain ⟨other, old⟩ := (Store.has_drop _).mp present
    exact ⟨other, .inr ⟨old, missing⟩⟩
  exact accounted_untrack channel _ env.sourceNodeId env.userId named rfl rfl (fun query exposed =>
    (shown query exposed).2) (fun exposed => absurd rfl (shown env.userId exposed).1) accounted

def LeaveSound (channel : Channel) (nodeId : NodeId) (userId : UserId) : Prop :=
  channel.remoteAssigns.has userId = true → ∃ node, node ≠ nodeId ∧ channel.Tracks node userId

def EventSound (channel : Channel) (event : Event) : Prop :=
  match event.action with
  | .presence =>
    textAt event.payload "userId" ≠ "" → event.event = leave →
      channel.LeaveSound event.nodeId (textAt event.payload "userId")
  | .assigns =>
    textAtEither event.payload "userId" "UserID" ≠ "" →
      channel.store.has (textAtEither event.payload "userId" "UserID") = false →
        channel.Listed (textAtEither event.payload "userId" "UserID")
  | _ => True

variable {event : Event}

theorem accounted_presence_event (foreign : ¬ (event.nodeId = "" ∨ event.nodeId = channel.nodeId))
    (accounted : channel.Accounted) (sound : textAt event.payload "userId" ≠ "" → event.event = leave →
      channel.LeaveSound event.nodeId (textAt event.payload "userId")) :
    (channel.handleRemotePresenceEvent now event).Accounted := by
  unfold handleRemotePresenceEvent
  dsimp only
  split
  · exact accounted
  rename_i named
  split
  · rename_i left
    refine accounted_untrack channel _ event.nodeId _ (fun empty => foreign (.inl empty)) rfl rfl ?_ ?_ accounted
    · rintro query (remote | ⟨present, missing⟩)
      · exact .inl remote
      · exact .inr ⟨((Store.has_drop _).mp present).2, missing⟩
    rintro (remote | ⟨present, _⟩)
    · exact sound named left remote
    · exact absurd rfl ((Store.has_drop _).mp present).1
  · cases index event.payload "changed" with
    | null =>
      exact accounted_track channel channel now event.nodeId _ rfl rfl (fun _ => .inr) foreign accounted
    | _ =>
      refine accounted_track channel _ now event.nodeId _ rfl rfl ?_ foreign accounted
      rintro query (remote | ⟨present, missing⟩)
      · exact .inr (.inl remote)
      rcases (Store.has_upsert _).mp present with same | old
      · exact .inl same
      · exact .inr (.inr ⟨old, missing⟩)

theorem leave_needs (foreign : event.nodeId ≠ "") (named : textAt event.payload "userId" ≠ "")
    (left : event.event = leave) (complete : (channel.handleRemotePresenceEvent now event).Complete) :
    channel.LeaveSound event.nodeId (textAt event.payload "userId") := by
  intro remote
  have next : channel.handleRemotePresenceEvent now event =
      ({ channel with presence := channel.presence.drop (textAt event.payload "userId") }).untrackNodeUser event.nodeId
        (textAt event.payload "userId") := by
    unfold handleRemotePresenceEvent
    rw [if_neg named, if_pos left]
  rw [next] at complete
  obtain ⟨node, tracks, _⟩ := complete (textAt event.payload "userId") (by
    rw [untrack_frame]
    exact .inl remote)
  obtain ⟨before, apart⟩ := (tracks_untrack _ foreign).mp tracks
  exact ⟨node, fun same => apart ⟨same, rfl⟩, before⟩

theorem accounted_assigns_event (accounted : channel.Accounted)
    (sound : textAtEither event.payload "userId" "UserID" ≠ "" →
      channel.store.has (textAtEither event.payload "userId" "UserID") = false →
        channel.Listed (textAtEither event.payload "userId" "UserID")) :
    (channel.handleRemoteAssignsEvent event).Accounted := by
  unfold handleRemoteAssignsEvent
  dsimp only
  split
  · exact accounted
  rename_i named
  cases read : channel.store.read (textAtEither event.payload "userId" "UserID") with
  | ok => exact quiet_accounted channel _ ⟨rfl, rfl, id, rfl, rfl, rfl, fun _ => And.intro⟩ accounted
  | error =>
    have absent := channel.store.read_error read
    refine ⟨?_, accounted.timed⟩
    rintro query (remote | hosted)
    · rcases has_set.mp remote with rfl | old
      · exact sound named absent
      · exact accounted.complete query (.inl old)
    · exact accounted.complete query (.inr hosted)

theorem assigns_need (named : textAtEither event.payload "userId" "UserID" ≠ "")
    (absent : channel.store.has (textAtEither event.payload "userId" "UserID") = false)
    (complete : (channel.handleRemoteAssignsEvent event).Complete) :
    channel.Listed (textAtEither event.payload "userId" "UserID") := by
  unfold handleRemoteAssignsEvent at complete
  rw [if_neg named] at complete
  cases read : channel.store.read (textAtEither event.payload "userId" "UserID") with
  | ok =>
    have present := channel.store.read_has read
    rw [absent] at present
    cases present
  | error =>
    rw [read] at complete
    exact complete _ (.inl (has_set.mpr (.inl rfl)))

variable {userId}

theorem quiet_remove_user {reason : String} :
    Quiet channel (channel.removeUser userId reason).1 := by
  unfold removeUser
  cases channel.checkState with
  | some => exact quiet_refl channel
  | none =>
    cases channel.getUserUnsafe userId with
    | ok => exact gone_quiet (remove_gone channel userId reason true)
    | error =>
      dsimp only
      split
      · rw [publish_frame]
        exact ⟨rfl, rfl, id, rfl, rfl, rfl, fun _ => And.intro⟩
      · exact quiet_refl channel

theorem quiet_user_command {sent : Bool} : Quiet channel (channel.handleRemoteUserCommand sent event) := by
  unfold handleRemoteUserCommand
  dsimp only
  split
  · exact quiet_refl channel
  cases channel.getUserUnsafe (textAt event.payload "userID") with
  | error => exact quiet_refl channel
  | ok =>
    dsimp only
    split
    · unfold evictUserLocal
      split
      · exact quiet_remove_user channel
      · exact quiet_refl channel
    split
    · exact gone_quiet (remove_gone channel _ _ true)
    · exact quiet_refl channel

theorem event_sound_iff (foreign : ¬ (event.nodeId = "" ∨ event.nodeId = channel.nodeId))
    (accounted : channel.Accounted) :
    (channel.EventSound event → (channel.handleEvent moment event).1.Accounted) ∧
      ((channel.handleEvent moment event).1.Complete → channel.EventSound event) := by
  unfold handleEvent EventSound
  cases event.action with
  | assigns =>
    exact ⟨fun sound => accounted_assigns_event channel accounted sound,
      fun complete named absent => assigns_need channel named absent complete⟩
  | presence =>
    exact ⟨fun sound => accounted_presence_event channel moment.now foreign accounted sound,
      fun complete named left => leave_needs channel moment.now (fun empty => foreign (.inl empty)) named left complete⟩
  | userCommand =>
    exact ⟨fun _ => quiet_accounted channel _ (quiet_user_command channel) accounted, fun _ => trivial⟩
  | broadcast => exact ⟨fun _ => accounted, fun _ => trivial⟩

theorem event_node {uuid : String} {env : DistributedEnvelope} (read : eventFromEnvelope uuid env = some event) :
    event.nodeId = env.sourceNodeId := by
  unfold eventFromEnvelope at read
  dsimp only at read
  split at read
  · split at read <;> cases read <;> rfl
  · cases read
    rfl
  · cases read
    rfl
  · split at read <;> cases read <;> rfl
  · cases read
    rfl
  · cases read
    rfl
  · cases read
    rfl
  · cases read
    rfl
  · cases read
  · cases read
  · cases read
  · cases read
  · cases read
  · cases read

def EnvelopeSound (channel : Channel) (uuid : String) (env : DistributedEnvelope) : Prop :=
  ∀ event, eventFromEnvelope uuid env = some event → channel.EventSound event

theorem accounted_heartbeat (accounted : channel.Accounted) : (channel.recordHeartbeat now nodeId).Accounted := by
  unfold recordHeartbeat
  split
  · exact accounted
  refine ⟨fun userId exposed => ?_, fun node known => ?_⟩
  · obtain ⟨node, tracks, seen⟩ := accounted.complete userId exposed
    exact ⟨node, tracks, has_set.mpr (.inr seen)⟩
  · exact has_set.mpr (.inr (accounted.timed node known))

theorem envelope_sound_iff {env : DistributedEnvelope}
    (foreign : ¬ (env.sourceNodeId = "" ∨ env.sourceNodeId = channel.nodeId)) (accounted : channel.Accounted) :
    (channel.EnvelopeSound moment.uuid env → (channel.handleEnvelope moment env).1.Accounted) ∧
      ((channel.handleEnvelope moment env).1.Complete → channel.EnvelopeSound moment.uuid env) := by
  have silent : ∀ kind, env.type = some kind →
      kind ∈ [MsgType.stateRequest, .stateResponse, .userJoined, .userLeft, .nodeHeartbeat] →
        channel.EnvelopeSound moment.uuid env := by
    intro kind typed listed event read
    simp only [mem_cons, not_mem_nil, or_false] at listed
    rcases listed with rfl | rfl | rfl | rfl | rfl <;> simp [eventFromEnvelope, typed] at read
  unfold handleEnvelope
  split
  · rename_i typed
    refine ⟨fun _ => ?_, fun _ => silent _ typed (by decide)⟩
    unfold handleStateRequest
    split
    · exact accounted
    · rw [publish_frame]
      exact quiet_accounted channel _ ⟨rfl, rfl, id, rfl, rfl, rfl, fun _ => And.intro⟩ accounted
  · rename_i typed
    exact ⟨fun _ => accounted_state_response channel moment.now env foreign accounted,
      fun _ => silent _ typed (by decide)⟩
  · rename_i typed
    exact ⟨fun _ => accounted_joined channel moment.now env foreign accounted, fun _ => silent _ typed (by decide)⟩
  · rename_i typed
    exact ⟨fun _ => accounted_left channel env (fun empty => foreign (.inl empty)) accounted,
      fun _ => silent _ typed (by decide)⟩
  · rename_i typed
    exact ⟨fun _ => accounted_heartbeat channel moment.now accounted, fun _ => silent _ typed (by decide)⟩
  · unfold EnvelopeSound
    cases read : eventFromEnvelope moment.uuid env with
    | none => exact ⟨fun _ => accounted, fun _ event impossible => absurd impossible (by simp)⟩
    | some event =>
      have source := event_node read
      have both := event_sound_iff channel moment (source.symm ▸ foreign) accounted
      refine ⟨fun sound => both.1 (sound event rfl), fun complete other same => ?_⟩
      rw [← some.inj same]
      exact both.2 complete

theorem quiet_create_user {user : Transport} : Quiet channel (channel.createUser user).1 := by
  unfold createUser
  dsimp only
  split
  · exact ⟨rfl, rfl, id, rfl, rfl, rfl, fun _ => And.intro⟩
  cases (channel.newChannelMembership user).store.create user.id (user.assigns.getD .empty) with
  | error => exact ⟨rfl, rfl, id, rfl, rfl, rfl, fun _ => And.intro⟩
  | ok =>
    cases (channel.newChannelMembership user).connections.create user.id user with
    | error => exact ⟨rfl, rfl, id, rfl, rfl, rfl, fun _ => And.intro⟩
    | ok =>
      cases created : (channel.newChannelMembership user).memberships.create user.id channel.issued.length with
      | error => exact ⟨rfl, rfl, id, rfl, rfl, rfl, fun _ => And.intro⟩
      | ok =>
        dsimp only
        rw [publish_frame]
        refine ⟨rfl, rfl, id, rfl, rfl, rfl, fun userId present missing => ⟨present, ?_⟩⟩
        unfold Store.create at created
        split at created
        · cases created
        cases created
        rw [Bool.eq_false_iff] at missing ⊢
        exact fun member => missing (has_set.mpr (.inr member))

theorem quiet_add_user (user : Transport) : Quiet channel (channel.addUser user).1 := by
  unfold addUser
  cases channel.checkState with
  | some => exact quiet_refl channel
  | none =>
    cases channel.memberships.read user.id with
    | error => exact quiet_create_user channel
    | ok =>
      dsimp only
      split
      · exact quiet_refl channel
      · exact quiet_trans channel _ _ (gone_quiet (remove_gone channel user.id _ false)) (quiet_create_user _)

theorem quiet_expire {membership : Nat} : Quiet channel (channel.expire membership) := by
  unfold expire
  cases channel.issued[membership]? with
  | none => exact quiet_refl channel
  | some entry =>
    dsimp only
    unfold removeExpiredMembership
    cases channel.memberships.read entry.connection.id with
    | error => exact quiet_refl channel
    | ok =>
      dsimp only
      split
      · exact quiet_refl channel
      · exact gone_quiet (remove_gone channel _ _ true)

theorem quiet_close : Quiet channel channel.closeLocked := by
  unfold closeLocked
  split
  · exact quiet_refl channel
  have fold : ∀ (userIds : List UserId) (start : Channel), Quiet start (userIds.foldl closeUser start) := by
    intro userIds
    induction userIds with
    | nil => exact quiet_refl
    | cons _ _ ih => exact fun start => quiet_trans start _ _ (gone_quiet (close_user_gone start)) (ih _)
  rename_i running
  exact quiet_trans channel { channel with done := true } _
    ⟨rfl, rfl, fun _ => Bool.eq_false_iff.mpr running, rfl, rfl, rfl, fun _ => And.intro⟩ (fold _ _)

theorem quiet_track_connected : Quiet channel (channel.trackConnectedUser userId presence).1 := by
  unfold trackConnectedUser
  cases channel.checkState with
  | some => exact quiet_refl channel
  | none =>
    cases read : channel.memberships.read userId with
    | error => exact quiet_refl channel
    | ok =>
      have member := channel.memberships.read_has read
      dsimp only
      split
      · exact quiet_refl channel
      cases created : channel.presence.create userId presence with
      | error => exact quiet_refl channel
      | ok =>
        dsimp only
        rw [publish_frame]
        refine ⟨rfl, rfl, id, rfl, rfl, rfl, fun query present missing => ⟨?_, missing⟩⟩
        unfold Store.create at created
        split at created
        · cases created
        cases created
        rcases has_set.mp present with rfl | old
        · have absent : channel.memberships.has query = false := missing
          rw [member] at absent
          cases absent
        · exact old

theorem quiet_update_assigns {key : String} {value : Json} :
    Quiet channel (channel.updateAssigns userId key value).1 := by
  unfold updateAssigns
  cases channel.checkState with
  | some => exact quiet_refl channel
  | none =>
    cases channel.store.read userId with
    | error => exact quiet_refl channel
    | ok assigns =>
      dsimp only
      cases channel.store.update userId (assigns.set key value) with
      | error => exact quiet_refl channel
      | ok => exact ⟨rfl, rfl, id, rfl, rfl, rfl, fun _ => And.intro⟩

structure Dropped (state next : Channel × List UserId) (nodes : List NodeId) : Prop where
  presence : next.1.presence = state.1.presence
  memberships : next.1.memberships = state.1.memberships
  seen : ∀ node, next.1.nodeLastSeen.has node = true ↔ node ∉ nodes ∧ state.1.nodeLastSeen.has node = true
  users : ∀ node, next.1.nodeUsers.get? node = if node ∈ nodes then none else state.1.nodeUsers.get? node
  remote : ∀ userId, next.1.remoteAssigns.has userId = true ↔
    (∀ node ∈ nodes, ¬ state.1.Tracks node userId) ∧ state.1.remoteAssigns.has userId = true
  kept : ∀ userId, (∀ node ∈ nodes, ¬ state.1.Tracks node userId) →
    next.1.remoteAssigns.get? userId = state.1.remoteAssigns.get? userId
  stale : ∀ userId, userId ∈ next.2 ↔ userId ∈ state.2 ∨ ∃ node ∈ nodes, state.1.Tracks node userId

theorem tracks_keys {users : OrderedSet UserId} (found : channel.nodeUsers.get? node = some users) (userId : UserId) :
    channel.Tracks node userId ↔ userId ∈ users.keys := by
  rw [Tracks, found, OrderedMap.mem_keys]
  simp

theorem dropped_one (state : Channel × List UserId) (node : NodeId) :
    Dropped state (dropStaleNode state node) [node] := by
  unfold dropStaleNode
  dsimp only
  have seen : ∀ other, (state.1.nodeLastSeen.delete node).has other = true ↔
      other ∉ [node] ∧ state.1.nodeLastSeen.has other = true := by
    intro other
    rw [has_delete, mem_singleton]
  cases found : state.1.nodeUsers.get? node with
  | none =>
    have nobody : ∀ userId, ¬ state.1.Tracks node userId := by
      rintro userId ⟨users, held, _⟩
      rw [found] at held
      cases held
    refine ⟨rfl, rfl, seen, fun other => ?_, fun userId => ?_, fun _ _ => rfl, fun userId => ?_⟩
    · by_cases same : other = node
      · rw [if_pos (mem_singleton.mpr same), same]
        exact found
      · rw [if_neg (fun member => same (mem_singleton.mp member))]
    · simp [nobody]
    · simp [nobody]
  | some =>
    have listed := tracks_keys state.1 found
    refine ⟨rfl, rfl, seen, fun other => ?_, fun userId => ?_, fun userId apart => ?_, fun userId => ?_⟩
    · simp only [mem_singleton]
      exact get_delete _ _ _
    · simp only [mem_singleton, forall_eq, listed]
      exact has_delete_all _
    · rw [forall_mem_singleton, listed] at apart
      exact get_delete_all _ apart
    · simp only [mem_singleton, exists_eq_left, listed]
      exact mem_append

theorem dropped_all (nodes : List NodeId) (state : Channel × List UserId) :
    Dropped state (nodes.foldl dropStaleNode state) nodes := by
  induction nodes generalizing state with
  | nil => exact ⟨rfl, rfl, by simp, by simp, by simp, fun _ _ => rfl, by simp⟩
  | cons node rest ih =>
    have first := dropped_one state node
    have later := ih (dropStaleNode state node)
    have tracks : ∀ other userId, (dropStaleNode state node).1.Tracks other userId ↔
        other ≠ node ∧ state.1.Tracks other userId := by
      intro other userId
      rw [Tracks, Tracks, first.users]
      by_cases same : other = node <;> simp [same]
    refine ⟨later.presence.trans first.presence, later.memberships.trans first.memberships, fun other => ?_,
      fun other => ?_, fun userId => ?_, fun userId apart => ?_, fun userId => ?_⟩
    · rw [foldl_cons, later.seen, first.seen, mem_singleton, mem_cons, not_or]
      tauto
    · rw [foldl_cons, later.users, first.users]
      by_cases among : other ∈ rest <;> simp [among]
    · rw [foldl_cons, later.remote, first.remote]
      rw [forall_mem_singleton, forall_mem_cons]
      simp only [tracks]
      constructor
      · rintro ⟨apart, nobody, held⟩
        refine ⟨⟨nobody, fun other among tracked => ?_⟩, held⟩
        by_cases same : other = node
        · exact nobody (same ▸ tracked)
        · exact apart other among ⟨same, tracked⟩
      · rintro ⟨⟨nobody, apart⟩, held⟩
        exact ⟨fun other among tracked => apart other among tracked.2, nobody, held⟩
    · obtain ⟨nobody, others⟩ := forall_mem_cons.mp apart
      have untracked : ∀ other ∈ rest, ¬ (dropStaleNode state node).1.Tracks other userId :=
        fun other among tracked => others other among ((tracks other userId).mp tracked).2
      rw [foldl_cons, later.kept userId untracked]
      exact first.kept userId (forall_mem_singleton.mpr nobody)
    · rw [foldl_cons, later.stale, first.stale]
      simp only [tracks, mem_cons, exists_eq_or_imp, not_mem_nil, or_false, exists_eq_left]
      constructor
      · rintro ((held | tracked) | ⟨other, among, _, tracked⟩)
        · exact .inl held
        · exact .inr (.inl tracked)
        · exact .inr (.inr ⟨other, among, tracked⟩)
      · rintro (held | tracked | ⟨other, among, tracked⟩)
        · exact .inl (.inl held)
        · exact .inl (.inr tracked)
        · by_cases same : other = node
          · exact .inl (.inr (same ▸ tracked))
          · exact .inr ⟨other, among, same, tracked⟩

theorem cleanup_exposed (exposed : (channel.cleanupStaleNodes now).Exposed userId) :
    channel.Exposed userId ∧ ∀ node ∈ channel.staleNodes now, ¬ channel.Tracks node userId := by
  have dropped := dropped_all (channel.staleNodes now) (channel, [])
  rcases exposed with remote | ⟨present, missing⟩
  · obtain ⟨nobody, held⟩ := (dropped.remote userId).mp remote
    exact ⟨.inl held, nobody⟩
  obtain ⟨apart, old⟩ := (Store.has_drop_all _).mp present
  rw [dropped.presence] at old
  refine ⟨.inr ⟨old, ?_⟩, fun node stale tracked => apart ((dropped.stale userId).mpr (.inr ⟨node, stale, tracked⟩))⟩
  rw [← dropped.memberships]
  exact missing

theorem accounted_tick (accounted : channel.Accounted) :
    (channel.cleanupStaleNodes now).Accounted := by
  have dropped := dropped_all (channel.staleNodes now) (channel, [])
  have users : ∀ node, (channel.cleanupStaleNodes now).nodeUsers.get? node =
      if node ∈ channel.staleNodes now then none else channel.nodeUsers.get? node := dropped.users
  constructor
  · intro userId exposed
    obtain ⟨before, fresh⟩ := cleanup_exposed channel now exposed
    obtain ⟨node, tracked, seen⟩ := accounted.complete userId before
    have alive : node ∉ channel.staleNodes now := fun stale => fresh node stale tracked
    refine ⟨node, ?_, (dropped.seen node).mpr ⟨alive, seen⟩⟩
    rw [Tracks, users, if_neg alive]
    exact tracked
  · intro node known
    refine (dropped.seen node).mpr ?_
    rw [has, users] at known
    by_cases stale : node ∈ channel.staleNodes now
    · rw [if_pos stale] at known
      cases known
    · rw [if_neg stale] at known
      exact ⟨stale, accounted.timed node known⟩

theorem cleanup_keeps (apart : ∀ node ∈ channel.staleNodes now, ¬ channel.Tracks node userId) :
    (∀ node, channel.Tracks node userId → (channel.cleanupStaleNodes now).Tracks node userId) ∧
      (channel.cleanupStaleNodes now).remoteAssigns.get? userId = channel.remoteAssigns.get? userId ∧
        (channel.cleanupStaleNodes now).presence.store.get? userId = channel.presence.store.get? userId := by
  have dropped := dropped_all (channel.staleNodes now) (channel, [])
  refine ⟨fun node tracked => ?_, dropped.kept userId apart, ?_⟩
  · have users : (channel.cleanupStaleNodes now).nodeUsers.get? node =
        if node ∈ channel.staleNodes now then none else channel.nodeUsers.get? node := dropped.users node
    rw [Tracks, users, if_neg fun stale => apart node stale tracked]
    exact tracked
  have unlisted : userId ∉ ((channel.staleNodes now).foldl dropStaleNode (channel, [])).2 := by
    rw [dropped.stale]
    rintro (impossible | ⟨node, stale, tracked⟩)
    · cases impossible
    · exact apart node stale tracked
  rw [cleanupStaleNodes, Store.get_drop_all _ unlisted, dropped.presence]

def Silent (channel : Channel) (now : Nat) : Prop :=
  ∀ node seen, channel.nodeLastSeen.get? node = some seen → seen + channel.heartbeatTimeout ≤ now

def Swept (channel : Channel) : Prop :=
  ∀ now, channel.Silent now → ∀ userId,
    ¬ (channel.cleanupStaleNodes now).Exposed userId ∧ ∀ node, ¬ (channel.cleanupStaleNodes now).Tracks node userId

theorem accounted_swept (accounted : channel.Accounted) : channel.Swept := by
  intro now silent userId
  have dropped := dropped_all (channel.staleNodes now) (channel, [])
  have after := accounted_tick channel now accounted
  have unseen : ∀ node, ¬ (channel.cleanupStaleNodes now).nodeLastSeen.has node = true := by
    intro node seen
    obtain ⟨alive, before⟩ := (dropped.seen node).mp seen
    obtain ⟨time, found⟩ := has_iff.mp before
    refine alive (mem_map.mpr ⟨(node, time), mem_filter.mpr ⟨?_, decide_eq_true (silent node time found)⟩, rfl⟩)
    exact mem_entries.mpr found
  constructor
  · intro exposed
    obtain ⟨node, _, seen⟩ := after.complete userId exposed
    exact unseen node seen
  · intro node tracked
    exact unseen node (after.timed node (tracks_has _ tracked))

def Named : ChannelOp → Prop
  | .receive _ data => ∀ env, decodeEnvelope data = some env → env.sourceNodeId ≠ ""
  | _ => True

def Sound (channel : Channel) : ChannelOp → Prop
  | .receive moment data =>
    channel.done = true ∨ ∀ env, decodeEnvelope data = some env →
      env.sourceNodeId = channel.nodeId ∨ channel.EnvelopeSound moment.uuid env
  | _ => True

theorem accounted_receive {data : Json}
    (named : Named (.receive moment data)) (accounted : channel.Accounted) :
    (channel.Sound (.receive moment data) → (channel.onChannelTopic moment data).1.Accounted) ∧
      ((channel.onChannelTopic moment data).1.Complete → channel.Sound (.receive moment data)) := by
  simp only [onChannelTopic, checkState, Sound]
  cases channel.done with
  | true => exact ⟨fun _ => accounted, fun _ => .inl rfl⟩
  | false =>
    simp only [Bool.false_eq_true, if_false, false_or, handleDistributedMessage]
    cases decoded : decodeEnvelope data with
    | none => exact ⟨fun _ => accounted, fun _ env impossible => absurd impossible (by simp)⟩
    | some env =>
      simp only [some.injEq, forall_eq']
      by_cases own : env.sourceNodeId = channel.nodeId
      · rw [if_pos own]
        exact ⟨fun _ => accounted, fun _ => .inl own⟩
      rw [if_neg own]
      have foreign : ¬ (env.sourceNodeId = "" ∨ env.sourceNodeId = channel.nodeId) :=
        not_or.mpr ⟨named env decoded, own⟩
      obtain ⟨keeps, needs⟩ := envelope_sound_iff channel moment foreign accounted
      exact ⟨fun sound => keeps (sound.resolve_left own), fun complete => .inr (needs complete)⟩

theorem quiet_local {op : ChannelOp} (here : op.isLocal = true) :
    Quiet channel (channel.act op) := by
  cases op with
  | addUser user => exact quiet_add_user channel user
  | removeUser => exact quiet_remove_user channel
  | connectionClosed | connectionDone => exact ⟨rfl, rfl, id, rfl, rfl, rfl, fun _ => And.intro⟩
  | parentDone =>
    exact ⟨rfl, rfl, fun impossible => absurd impossible (by simp [act]), rfl, rfl, rfl, fun _ => And.intro⟩
  | expired => exact quiet_expire channel
  | trackConnectedUser => exact quiet_track_connected channel
  | updateAssigns => exact quiet_update_assigns channel
  | close | receive | heartbeat | tick => cases here

theorem accounted_act (op : ChannelOp) (accounted : channel.Accounted) (named : Named op)
    (sound : channel.Sound op) : (channel.act op).Accounted := by
  cases op with
  | receive moment => exact (accounted_receive channel moment named accounted).1 sound
  | heartbeat now data =>
    change (channel.onHeartbeatTopic now data).Accounted
    unfold onHeartbeatTopic
    split
    · split
      · exact accounted_heartbeat channel now accounted
      · exact accounted
    · exact accounted
  | tick now => exact accounted_tick channel now accounted
  | close => exact quiet_accounted channel _ (quiet_close channel) accounted
  | _ => exact quiet_accounted channel _ (quiet_local channel rfl) accounted

theorem sound_needed (op : ChannelOp) (accounted : channel.Accounted) (named : Named op)
    (complete : (channel.act op).Complete) : channel.Sound op := by
  cases op with
  | receive moment => exact (accounted_receive channel moment named accounted).2 complete
  | _ => trivial

theorem cleanup_complete_iff (name : String) (nodeId : NodeId) (onDestroy : Bool) (heartbeatTimeout : Nat)
    (ops : List ChannelOp) (named : ∀ op ∈ ops, Named op) :
    (Always act Complete (newChannel name nodeId true onDestroy heartbeatTimeout) ops ↔
        Library.Follows act Sound (newChannel name nodeId true onDestroy heartbeatTimeout) ops) ∧
      (Library.Follows act Sound (newChannel name nodeId true onDestroy heartbeatTimeout) ops →
        Always act Swept (newChannel name nodeId true onDestroy heartbeatTimeout) ops) := by
  have initial : (newChannel name nodeId true onDestroy heartbeatTimeout).Accounted := by
    refine ⟨fun userId exposed => ?_, fun node known => ?_⟩
    · rcases exposed with remote | ⟨present, _⟩
      · cases remote
      · cases present
    · cases known
  have domain := (follows_labels act (newChannel name nodeId true onDestroy heartbeatTimeout)).mpr named
  constructor
  · exact always_iff_follows act (fun _ op => Named op) Sound Complete Accounted (fun _ => Accounted.complete)
      accounted_act sound_needed _ ops initial domain
  · intro sound
    refine always_mono act Accounted Swept accounted_swept _ ops ?_
    exact always_of_follows act (fun channel op => Named op ∧ channel.Sound op) Accounted
      (fun channel op good both => accounted_act channel op good both.1 both.2) _ initial
      ((follows_and act _).mpr ⟨domain, sound⟩)

def remoteStamp : Stamp := ⟨"message-1", 0, epoch_fits⟩

def remoteMoment : Moment := ⟨0, "uuid-1", true⟩

def userArrives : ChannelOp :=
  .receive remoteMoment (encodeUserJoined remoteStamp "api" "room" "node-2" "u" (.object []) (.object []))

def untrackedUser : List ChannelOp :=
  [userArrives,
    .receive remoteMoment ((Publication.presence leave "u" .null []).encode remoteStamp "api"
      (newChannel "room" "node-2" true true 90000)),
    .tick 90000]

theorem untracked_user_stays :
    (run act (newChannel "room" "node-1" true true 90000) untrackedUser).remoteAssigns.has "u" = true ∧
      ¬ (run act (newChannel "room" "node-1" true true 90000) untrackedUser).Complete := by
  have stays : (run act (newChannel "room" "node-1" true true 90000) untrackedUser).remoteAssigns.has "u" = true := by
    decide +kernel
  have nobody : (run act (newChannel "room" "node-1" true true 90000) untrackedUser).nodeUsers.isEmpty = true := by
    decide +kernel
  refine ⟨stays, fun complete => ?_⟩
  obtain ⟨node, tracked, _⟩ := complete "u" (.inl stays)
  have known := tracks_has _ tracked
  rw [empty_iff.mp nobody node] at known
  cases known

theorem arrival_swept : Always act Swept (newChannel "room" "node-1" true true 90000) [userArrives, .tick 90000] := by
  have decoded : decodeEnvelope (encodeUserJoined remoteStamp "api" "room" "node-2" "u" (.object []) (.object [])) =
      some { newEnvelope .userJoined "room" "node-2" with
        userId := "u", presence := .object [], assigns := .object [] } :=
    DistributedEnvelope.decode_marshal _ _ _ rfl
  refine (cleanup_complete_iff "room" "node-1" true 90000 [userArrives, .tick 90000] ?_).2 ⟨.inr ?_, trivial, trivial⟩
  · intro op member
    rcases mem_cons.mp member with rfl | later
    · intro env read
      rw [decoded] at read
      cases read
      decide
    · rw [mem_singleton.mp later]
      trivial
  · intro env read
    rw [decoded] at read
    cases read
    refine .inr fun event impossible => ?_
    cases impossible

end Channel

end PondSocket.Go
