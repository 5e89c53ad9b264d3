import PondSocket.Library.Tasks
import PondSocket.Rust.Remote

namespace PondSocket.Rust

open Library List OrderedMap
open Js (Json UserId NodeId)
open Go (asMap asSlice)

-- What an operation does under one lock and up to the next: cleanup_stale_nodes drops
-- the users of a node under two. moment is drawn where the operation starts.
inductive Piece where
  | addActive (transport : Transport) (assigns : Table) (moment : Moment)
  | addConnection (transport : Transport) (assigns : Table) (moment : Moment)
  | insertAssigns (userId : UserId) (assigns : Table)
  | publish (event : Event) (subtype : String)
  | removeConnection (userId : UserId) (reason : String) (moment : Moment)
  | removeAssigns (userId : UserId) (reason : String) (moment : Moment)
  | removePresence (userId : UserId) (assigns : Table) (reason : String) (moment : Moment)
  | leave (departure : Departure)
  | evict (userId : UserId) (reason : String) (moment : Moment)
  | direct (userId : UserId) (reason : String) (moment : Moment)
  | track (userId : UserId) (presence : Table) (moment : Moment)
  | update (userId : UserId) (presence : Table) (moment : Moment)
  | untrack (userId : UserId) (moment : Moment)
  | snapshot (userId : UserId) (eventType : PresenceEventType) (changed : Table) (moment : Moment)
  | enqueue (event : Event) (recipients : List UserId) (room : Bool)
  | mergePresence (event : Event) (userId : UserId) (changed : Table) (room : Bool)
  | remoteSnapshot (event : Event) (room : Bool)
  | addressees (event : Event) (room : Bool)
  | remoteAssigns (event : Event)
  | command (event : Event) (userId : UserId) (moment : Moment)
  | userGet (event : Event) (userId : UserId)
  | adopt (nodeId : NodeId) (userId : UserId) (assigns presence : Option Table) (now : Nat)
  | adoptAssigns (nodeId : NodeId) (userId : UserId) (assigns : Table) (presence : Option Table) (now : Nat)
  | adoptPresence (nodeId : NodeId) (userId : UserId) (presence : Table) (now : Nat)
  | addNodeUser (nodeId : NodeId) (userId : UserId) (now : Nat)
  | noteNode (nodeId : NodeId) (now : Nat)
  | remoteLeft (nodeId : NodeId) (userId : UserId)
  | dropAssigns (userId : UserId)
  | dropPresence (userId : UserId)
  | dropNodeUser (nodeId : NodeId) (userId : UserId)
  | staleNodes (now timeout : Nat)
  | dropNode (nodeId : NodeId)
  | dropUsers (users : List UserId)
  | forgetNode (nodeId : NodeId)
  | heartbeat (nodeId : NodeId) (now : Nat)
  | stateRequest (moment : Moment)

namespace Channel

-- track_node_user, which does nothing for a node without a name.
def trackPieces (nodeId : NodeId) (userId : UserId) (now : Nat) : List Piece :=
  if nodeId = "" then [] else [.addNodeUser nodeId userId now]

def presencePieces (nodeId : NodeId) (userId : UserId) (now : Nat) : Option Table → List Piece
  | some presence => if presence.isEmpty then trackPieces nodeId userId now else [.adoptPresence nodeId userId presence now]
  | none => trackPieces nodeId userId now

def assignsPieces (nodeId : NodeId) (userId : UserId) (now : Nat) (presence : Option Table) : Option Table → List Piece
  | some assigns => [.adoptAssigns nodeId userId assigns presence now]
  | none => presencePieces nodeId userId now presence

def remoteReason (event : Event) : String := (getStr event.payload "reason").getD "remote command"

def perform (channel : Channel) : Piece → Channel × List Piece
  | .addActive transport assigns moment =>
    (channel, if channel.active then [.addConnection transport assigns moment] else [])
  | .addConnection transport assigns moment =>
    if channel.connections.has transport.id then (channel, [])
    else
      ({ channel with connections := channel.connections.set transport.id transport },
        [.insertAssigns transport.id assigns,
          .publish (channel.userJoined moment.uuid transport.id assigns) "user:joined"])
  | .insertAssigns userId assigns => ({ channel with assigns := channel.assigns.set userId assigns }, [])
  | .publish event subtype => (channel.publishEventToPubsub event subtype, [])
  | .removeConnection userId reason moment =>
    if channel.connections.has userId then
      ({ channel with connections := channel.connections.delete userId }, [.removeAssigns userId reason moment])
    else (channel, [])
  | .removeAssigns userId reason moment =>
    ({ channel with assigns := channel.assigns.delete userId },
      [.removePresence userId ((channel.assigns.get? userId).getD .empty) reason moment])
  | .removePresence userId assigns reason moment =>
    ({ channel with presence := channel.presence.delete userId },
      (channel.presence.get? userId).toList.map (fun old => .snapshot userId .leave old moment) ++
        [.publish (channel.userLeft moment.uuid userId) "user:left",
          .leave ⟨userId, assigns, channel.presence.get? userId, reason⟩])
  | .leave departure => ({ channel with departures := channel.departures ++ [departure] }, [])
  | .evict userId reason moment =>
    (channel, if channel.hasUser userId then [.direct userId reason moment]
      else [.publish (channel.userCommand moment.uuid "user:evict" userId reason) "user:evict"])
  | .direct userId reason moment =>
    (channel.sendDirect [userId] (channel.evicted moment.uuid reason), [.removeConnection userId "evicted" moment])
  | .track userId presence moment =>
    if channel.presence.has userId then (channel, [])
    else
      ({ channel with presence := channel.presence.set userId presence }, [.snapshot userId .join presence moment])
  | .update userId presence moment =>
    if channel.presence.has userId then
      ({ channel with presence := channel.presence.set userId presence }, [.snapshot userId .update presence moment])
    else (channel, [])
  | .untrack userId moment =>
    ({ channel with presence := channel.presence.delete userId },
      (channel.presence.get? userId).toList.map fun old => .snapshot userId .leave old moment)
  | .snapshot userId eventType changed moment =>
    (channel, (if channel.localPresenceSnapshot.2.isEmpty then []
        else [.enqueue (channel.presenceChange moment.uuid userId eventType changed) channel.localPresenceSnapshot.2
          moment.room]) ++
      [.publish (channel.presenceChange moment.uuid userId eventType changed) eventType.subtype])
  | .enqueue event recipients room => ((channel.enqueueDispatch room ⟨event, recipients⟩).1, [])
  | .mergePresence event userId changed room =>
    ({ channel with
        presence := if event.event = "LEAVE" then channel.presence.delete userId
          else channel.presence.set userId changed },
      [.remoteSnapshot event room])
  | .remoteSnapshot event room =>
    (channel, if channel.localPresenceSnapshot.2.isEmpty then []
      else [.enqueue { event with payload := setPresence event.payload channel.localPresenceSnapshot.1 }
        channel.localPresenceSnapshot.2 room])
  | .addressees event room =>
    (channel, if (channel.messageRecipients event).isEmpty then []
      else [.enqueue event (channel.messageRecipients event) room])
  | .remoteAssigns event => (channel.handleRemoteAssigns event, [])
  | .command event userId moment =>
    (channel, if channel.hasUser userId then
        if event.event = "user:evict" then [.direct userId (remoteReason event) moment]
        else if event.event = "user:remove" then [.removeConnection userId (remoteReason event) moment]
        else if event.event = "user:get_request" then [.userGet event userId]
        else []
      else [])
  | .userGet event userId =>
    (channel.publishEventToPubsub (channel.userGetResponse userId
      ((getStr event.payload "requestId").getD event.requestId) ((channel.assigns.get? userId).getD .empty)
      ((channel.presence.get? userId).getD .empty)) "user:get_response", [])
  | .adopt nodeId userId assigns presence now =>
    (channel, if channel.hasUser userId then [] else assignsPieces nodeId userId now presence assigns)
  | .adoptAssigns nodeId userId assigns presence now =>
    ({ channel with assigns := channel.assigns.set userId assigns }, presencePieces nodeId userId now presence)
  | .adoptPresence nodeId userId presence now =>
    ({ channel with presence := channel.presence.set userId presence }, trackPieces nodeId userId now)
  | .addNodeUser nodeId userId now =>
    ({ channel with
        nodeUsers := channel.nodeUsers.set nodeId (((channel.nodeUsers.get? nodeId).getD .empty).add userId) },
      [.noteNode nodeId now])
  | .noteNode nodeId now =>
    ({ channel with
        nodeLastSeen := if channel.nodeLastSeen.has nodeId then channel.nodeLastSeen
          else channel.nodeLastSeen.set nodeId now }, [])
  | .remoteLeft nodeId userId =>
    (channel, if channel.hasUser userId then []
      else [.dropAssigns userId, .dropPresence userId, .dropNodeUser nodeId userId])
  | .dropAssigns userId => ({ channel with assigns := channel.assigns.delete userId }, [])
  | .dropPresence userId => ({ channel with presence := channel.presence.delete userId }, [])
  | .dropNodeUser nodeId userId => (channel.untrackNodeUser nodeId userId, [])
  | .staleNodes now timeout =>
    (channel, ((channel.nodeLastSeen.entries.filter fun entry => timeout ≤ now - entry.2).map Prod.fst).flatMap
      fun nodeId => [.dropNode nodeId, .forgetNode nodeId])
  | .dropNode nodeId =>
    ({ channel with nodeUsers := channel.nodeUsers.delete nodeId },
      (channel.nodeUsers.get? nodeId).toList.map fun users => .dropUsers users.keys)
  | .dropUsers users =>
    ({ channel with
        assigns := users.foldl (fun assigns userId => assigns.delete userId) channel.assigns
        presence := users.foldl (fun presence userId => presence.delete userId) channel.presence }, [])
  | .forgetNode nodeId => ({ channel with nodeLastSeen := channel.nodeLastSeen.delete nodeId }, [])
  | .heartbeat nodeId now =>
    (if nodeId = channel.nodeId then channel
      else { channel with nodeLastSeen := channel.nodeLastSeen.set nodeId now }, [])
  | .stateRequest moment => (channel.handleStateRequest moment, [])

-- dispatch_pubsub_event, up to its first lock.
def dispatchPieces (moment : Moment) (event : Event) : List Piece :=
  if event.action = "PRESENCE" then
    match presenceUser (((get event.payload "changed").bind asMap).getD .empty) with
    | none => [.remoteSnapshot event moment.room]
    | some userId =>
      [.mergePresence event userId (((get event.payload "changed").bind asMap).getD .empty) moment.room]
  else if event.action = "ASSIGNS" then [.remoteAssigns event]
  else if event.action = "USER_COMMAND" then
    match getStr event.payload "userId" with
    | none => []
    | some userId =>
      if event.event = "user:get_response" then
        [.adopt event.nodeId userId ((get event.payload "assigns").bind asMap)
          ((get event.payload "presence").bind asMap) moment.now]
      else [.command event userId moment]
  else if event.action = "STATE_REQUEST" then [.stateRequest moment]
  else if event.action = "STATE_RESPONSE" then
    (((get event.payload "users").bind asSlice).getD []).flatMap fun user =>
      (getStr user "id").toList.map fun id =>
        .adopt event.nodeId id (some (((get user "assigns").bind asMap).getD .empty)) ((get user "presence").bind asMap)
          moment.now
  else if event.action = "USER_JOINED" then
    (getStr event.payload "userId").toList.map fun id =>
      .adopt event.nodeId id (some (((get event.payload "assigns").bind asMap).getD .empty))
        ((get event.payload "presence").bind asMap) moment.now
  else if event.action = "USER_LEFT" then
    (getStr event.payload "userId").toList.map fun id => .remoteLeft event.nodeId id
  else [.addressees event moment.room]

def receivePieces (channel : Channel) (moment : Moment) (data : Json) : List Piece :=
  match fromBytes moment.uuid data with
  | none => []
  | some event =>
    if event.nodeId ≠ "" ∧ event.nodeId = channel.nodeId then []
    else if event.channelName ≠ channel.name then []
    else dispatchPieces moment event

end Channel

-- The calls on a channel; a presence that is no object is refused before any lock.
inductive ChannelCall where
  | addUser (transport : Transport) (assigns : Table) (moment : Moment)
  | removeUser (userId : UserId) (reason : String) (moment : Moment)
  | evictUser (userId : UserId) (reason : String) (moment : Moment)
  | trackPresence (userId : UserId) (presence : Json) (moment : Moment)
  | updatePresence (userId : UserId) (presence : Json) (moment : Moment)
  | untrackPresence (userId : UserId) (moment : Moment)
  | cleanupStaleNodes (now timeout : Nat)
  | handleHeartbeat (nodeId : NodeId) (now : Nat)

def ChannelCall.pieces : ChannelCall → List Piece
  | .addUser transport assigns moment => [.addActive transport assigns moment]
  | .removeUser userId reason moment => [.removeConnection userId reason moment]
  | .evictUser userId reason moment => [.evict userId reason moment]
  | .trackPresence userId presence moment => (asMap presence).toList.map fun presence => .track userId presence moment
  | .updatePresence userId presence moment => (asMap presence).toList.map fun presence => .update userId presence moment
  | .untrackPresence userId moment => [.untrack userId moment]
  | .cleanupStaleNodes now timeout => [.staleNodes now timeout]
  | .handleHeartbeat nodeId now => [.heartbeat nodeId now]

structure LockRun where
  channel : Channel
  tasks : List (List Piece)

inductive LockStep where
  | call (call : ChannelCall)
  | receive (moment : Moment) (data : Json)
  | resume (place : Nat)

namespace LockRun

def start (name endpointPath : String) (nodeId : NodeId) (pubsub : Bool) : LockRun :=
  ⟨{ Channel.new name endpointPath nodeId pubsub with active := true }, []⟩

def step (state : LockRun) : LockStep → LockRun
  | .call call => { state with tasks := state.tasks ++ [call.pieces] }
  | .receive moment data => { state with tasks := state.tasks ++ [state.channel.receivePieces moment data] }
  | .resume place =>
    let resumed := resume Channel.perform state.channel state.tasks place
    ⟨resumed.1, resumed.2⟩

-- Every entry is about a member or about a user of a node that a cleanup can find.
def Consistent (state : LockRun) : Prop :=
  ∀ userId, state.channel.assigns.has userId = true ∨ state.channel.presence.has userId = true →
    state.channel.connections.has userId = true ∨
      ∃ nodeId users, state.channel.nodeUsers.get? nodeId = some users ∧ users.has userId = true ∧
        state.channel.nodeLastSeen.has nodeId = true

end LockRun

def Piece.Lists (userId : UserId) : Piece → Prop
  | .adopt nodeId other _ _ _ | .adoptAssigns nodeId other _ _ _ | .adoptPresence nodeId other _ _
  | .addNodeUser nodeId other _ => other = userId ∧ nodeId ≠ ""
  | _ => False

-- The sections that take an entry of the user away, or are followed by one.
def Piece.ClearsAssigns (userId : UserId) : Piece → Prop
  | .removeAssigns other _ _ | .dropAssigns other => other = userId
  | .dropUsers users => userId ∈ users
  | _ => False

def Piece.ClearsPresence (userId : UserId) : Piece → Prop
  | .removeAssigns other _ _ | .removePresence other _ _ _ | .dropPresence other => other = userId
  | .dropUsers users => userId ∈ users
  | _ => False

-- What an entry of a user rests on: a connection, a node that is known or about to be
-- noted, or a section to come that lists the user or takes the entry away.
def Channel.Backs (channel : Channel) (pending clears : Piece → Prop) (userId : UserId) : Prop :=
  channel.connections.has userId = true ∨
    (∃ nodeId users, channel.nodeUsers.get? nodeId = some users ∧ users.has userId = true ∧
      (channel.nodeLastSeen.has nodeId = true ∨ ∃ now, pending (.noteNode nodeId now))) ∨
    ∃ piece, pending piece ∧ (piece.Lists userId ∨ clears piece)

def Piece.Named : Piece → Prop
  | .adopt nodeId _ _ _ _ | .adoptAssigns nodeId _ _ _ _ | .adoptPresence nodeId _ _ _ | .addNodeUser nodeId _ _ => nodeId ≠ ""
  | _ => True

-- Every entry of a channel rests on something.
structure Channel.Accounted (channel : Channel) (pending : Piece → Prop) : Prop where
  assigns : ∀ userId, channel.assigns.has userId = true → channel.Backs pending (Piece.ClearsAssigns userId) userId
  presence : ∀ userId, channel.presence.has userId = true → channel.Backs pending (Piece.ClearsPresence userId) userId
  named : ∀ piece, pending piece → piece.Named

-- A section that adds an entry, or takes away what one rests on, leaves it on
-- something else.
def Channel.Fits (channel : Channel) (others : Piece → Prop) : Piece → Prop
  | .insertAssigns userId _ => channel.Backs others (Piece.ClearsAssigns userId) userId
  | .track userId _ _ =>
    channel.presence.has userId = false → channel.Backs others (Piece.ClearsPresence userId) userId
  | .mergePresence event userId _ _ =>
    event.event ≠ "LEAVE" → channel.presence.has userId = false →
      channel.Backs others (Piece.ClearsPresence userId) userId
  | .dropNodeUser nodeId userId =>
    (channel.assigns.has userId = true →
      (channel.untrackNodeUser nodeId userId).Backs others (Piece.ClearsAssigns userId) userId) ∧
    (channel.presence.has userId = true →
      (channel.untrackNodeUser nodeId userId).Backs others (Piece.ClearsPresence userId) userId)
  | .forgetNode nodeId =>
    (∀ userId, channel.assigns.has userId = true →
      ({ channel with nodeLastSeen := channel.nodeLastSeen.delete nodeId } : Channel).Backs others
        (Piece.ClearsAssigns userId) userId) ∧
    ∀ userId, channel.presence.has userId = true →
      ({ channel with nodeLastSeen := channel.nodeLastSeen.delete nodeId } : Channel).Backs others
        (Piece.ClearsPresence userId) userId
  | _ => True

namespace LockRun

def InTurn (state : LockRun) : LockStep → Prop
  | .call _ => True
  | .receive moment data => ∀ event, fromBytes moment.uuid data = some event → event.nodeId ≠ ""
  | .resume place => ∀ piece, nextPiece state.tasks place = some piece →
      state.channel.Fits (Pending (others state.tasks place)) piece

def Sound (state : LockRun) : Prop := state.channel.Accounted (Pending state.tasks)

theorem sound_consistent (state : LockRun) (sound : state.Sound) (idle : Idle state.tasks) : state.Consistent := by
  have rests : ∀ userId (clears : Piece → Prop), state.channel.Backs (Pending state.tasks) clears userId →
      state.channel.connections.has userId = true ∨
        ∃ nodeId users, state.channel.nodeUsers.get? nodeId = some users ∧ users.has userId = true ∧
          state.channel.nodeLastSeen.has nodeId = true := by
    intro userId clears backs
    have none := (idle_iff state.tasks).mp idle
    rcases backs with connected | ⟨nodeId, users, found, lists, known | ⟨_, waits⟩⟩ | ⟨_, waits, _⟩
    · exact .inl connected
    · exact .inr ⟨nodeId, users, found, lists, known⟩
    · exact absurd waits (none _)
    · exact absurd waits (none _)
  intro userId entry
  rcases entry with assigns | presence
  · exact rests userId _ (sound.assigns userId assigns)
  · exact rests userId _ (sound.presence userId presence)

end LockRun

namespace Channel

variable {channel before after : Channel} {piece : Piece} {more : List Piece} {others clears : Piece → Prop}
  {nodeId : NodeId} {userId : UserId} {moment : Moment} {now : Nat}

theorem backs_more (connections : after.connections = before.connections) (nodes : after.nodeUsers = before.nodeUsers)
    (seen : after.nodeLastSeen = before.nodeLastSeen) (backs : before.Backs others clears userId) :
    after.Backs (fun other => other ∈ more ∨ others other) clears userId := by
  rcases backs with connected | ⟨nodeId, users, found, lists, known | ⟨now, waits⟩⟩ | ⟨piece, waits, does⟩
  · exact .inl (connections ▸ connected)
  · exact .inr (.inl ⟨nodeId, users, nodes ▸ found, lists, .inl (seen ▸ known)⟩)
  · exact .inr (.inl ⟨nodeId, users, nodes ▸ found, lists, .inr ⟨now, .inr waits⟩⟩)
  · exact .inr (.inr ⟨piece, .inr waits, does⟩)

-- A section that nothing rests on and that takes nothing away.
theorem backs_frame (connections : before.connections.has userId = true → after.connections.has userId = true)
    (nodes : after.nodeUsers = before.nodeUsers)
    (seen : ∀ nodeId, before.nodeLastSeen.has nodeId = true → after.nodeLastSeen.has nodeId = true)
    (unlisting : ¬ piece.Lists userId) (unclearing : ¬ clears piece) (unnoting : ∀ nodeId now, piece ≠ .noteNode nodeId now)
    (backs : before.Backs (fun other => other = piece ∨ others other) clears userId) :
    after.Backs (fun other => other ∈ more ∨ others other) clears userId := by
  rcases backs with connected | ⟨nodeId, users, found, lists, known | ⟨now, same | waits⟩⟩ | ⟨other, rfl | waits, does⟩
  · exact .inl (connections connected)
  · exact .inr (.inl ⟨nodeId, users, nodes ▸ found, lists, .inl (seen nodeId known)⟩)
  · exact absurd same.symm (unnoting nodeId now)
  · exact .inr (.inl ⟨nodeId, users, nodes ▸ found, lists, .inr ⟨now, .inr waits⟩⟩)
  · rcases does with lists | clearing
    · exact absurd lists unlisting
    · exact absurd clearing unclearing
  · exact .inr (.inr ⟨other, .inr waits, does⟩)

structure Rests (before after : Channel) : Prop where
  connections : ∀ userId, before.connections.has userId = true → after.connections.has userId = true
  nodes : after.nodeUsers = before.nodeUsers
  seen : ∀ nodeId, before.nodeLastSeen.has nodeId = true → after.nodeLastSeen.has nodeId = true

theorem rests_same (connections : after.connections = before.connections) (nodes : after.nodeUsers = before.nodeUsers)
    (seen : after.nodeLastSeen = before.nodeLastSeen) : before.Rests after := by
  refine ⟨?_, nodes, ?_⟩
  · rw [connections]
    exact fun _ => id
  · rw [seen]
    exact fun _ => id

structure Still (before after : Channel) : Prop where
  assigns : after.assigns = before.assigns
  presence : after.presence = before.presence
  connections : after.connections = before.connections
  nodeUsers : after.nodeUsers = before.nodeUsers
  nodeLastSeen : after.nodeLastSeen = before.nodeLastSeen

theorem still_kept (still : before.Still after) :
    after.assigns = before.assigns ∧ after.presence = before.presence ∧ before.Rests after :=
  ⟨still.assigns, still.presence, rests_same still.connections still.nodeUsers still.nodeLastSeen⟩

variable (channel)

theorem still_refl : channel.Still channel := ⟨rfl, rfl, rfl, rfl, rfl⟩

theorem publish_still {event : Event} {subtype : String} :
    channel.Still (channel.publishEventToPubsub event subtype) := by
  rw [publishEventToPubsub]
  split
  · exact ⟨rfl, rfl, rfl, rfl, rfl⟩
  · exact channel.still_refl

theorem enqueue_still {room : Bool} {item : DispatchItem} :
    channel.Still (channel.enqueueDispatch room item).1 := by
  rw [enqueueDispatch]
  split
  · exact ⟨rfl, rfl, rfl, rfl, rfl⟩
  · exact channel.still_refl

theorem state_request_still : channel.Still (channel.handleStateRequest moment) := by
  rw [handleStateRequest]
  split
  · exact channel.still_refl
  · exact channel.publish_still

theorem remote_assigns_keys {event : Event} :
    (channel.handleRemoteAssigns event).presence = channel.presence ∧
      (channel.handleRemoteAssigns event).connections = channel.connections ∧
      channel.Rests (channel.handleRemoteAssigns event) ∧
      ∀ userId, (channel.handleRemoteAssigns event).assigns.has userId = channel.assigns.has userId := by
  rw [handleRemoteAssigns]
  split
  · exact ⟨rfl, rfl, rests_same rfl rfl rfl, fun _ => rfl⟩
  split
  · exact ⟨rfl, rfl, rests_same rfl rfl rfl, fun _ => rfl⟩
  split
  · exact ⟨rfl, rfl, rests_same rfl rfl rfl, fun _ => rfl⟩
  rename_i userId _ assigns found
  refine ⟨rfl, rfl, rests_same rfl rfl rfl, fun other => ?_⟩
  rw [Bool.eq_iff_iff, has_set, has_iff]
  constructor
  · intro either
    rcases either with rfl | known
    · exact ⟨assigns, found⟩
    · exact known
  · exact .inr

variable (nodeId userId)

theorem track_named (now : Nat) : ∀ piece ∈ trackPieces nodeId userId now, piece.Named := by
  intro piece member
  rw [trackPieces] at member
  split at member
  · cases member
  rename_i named
  rw [mem_singleton.mp member]
  exact named

theorem presence_named (now : Nat) (presence : Option Table) (node : nodeId ≠ "") :
    ∀ piece ∈ presencePieces nodeId userId now presence, piece.Named := by
  cases presence with
  | none => exact track_named nodeId userId now
  | some =>
    intro piece member
    rw [presencePieces] at member
    split at member
    · exact track_named nodeId userId now piece member
    · rw [mem_singleton.mp member]
      exact node

theorem assigns_named (now : Nat) (assigns presence : Option Table) (node : nodeId ≠ "") :
    ∀ piece ∈ assignsPieces nodeId userId now presence assigns, piece.Named := by
  cases assigns with
  | none => exact presence_named nodeId userId now presence node
  | some =>
    intro piece member
    rw [mem_singleton.mp member]
    exact node

theorem track_lists (node : nodeId ≠ "") : ∃ piece ∈ trackPieces nodeId userId now, piece.Lists userId := by
  rw [trackPieces, if_neg node]
  exact ⟨_, mem_cons_self, rfl, node⟩

variable {presence : Option Table}

theorem presence_lists (node : nodeId ≠ "") :
    ∃ piece ∈ presencePieces nodeId userId now presence, piece.Lists userId := by
  cases presence with
  | none => exact track_lists nodeId userId node
  | some =>
    rw [presencePieces]
    split
    · exact track_lists nodeId userId node
    · exact ⟨_, mem_cons_self, rfl, node⟩

theorem assigns_lists {assigns : Option Table} (node : nodeId ≠ "") :
    ∃ piece ∈ assignsPieces nodeId userId now presence assigns, piece.Lists userId := by
  cases assigns with
  | none => exact presence_lists nodeId userId node
  | some => exact ⟨_, mem_cons_self, rfl, node⟩

theorem perform_named (named : piece.Named) : ∀ other ∈ (channel.perform piece).2, other.Named := by
  intro other member
  cases piece with
  | adopt nodeId userId assigns presence now =>
    simp only [perform] at member
    split at member
    · cases member
    · exact assigns_named nodeId userId now assigns presence named other member
  | adoptAssigns nodeId userId _ presence now => exact presence_named nodeId userId now presence named other member
  | adoptPresence nodeId userId _ now => exact track_named nodeId userId now other member
  | addNodeUser | removeAssigns | direct | mergePresence =>
    rw [mem_singleton.mp member]
    trivial
  | untrack | dropNode =>
    obtain ⟨old, _, rfl⟩ := mem_map.mp member
    trivial
  | staleNodes =>
    obtain ⟨_, _, member⟩ := mem_flatMap.mp member
    simp only [mem_cons, not_mem_nil, or_false] at member
    rcases member with rfl | rfl <;> trivial
  | removePresence =>
    simp only [perform, mem_append, mem_map, mem_cons, not_mem_nil, or_false] at member
    rcases member with ⟨_, _, rfl⟩ | rfl | rfl <;> trivial
  | addConnection =>
    simp only [perform] at member
    split at member
    · cases member
    · simp only [mem_cons, not_mem_nil, or_false] at member
      rcases member with rfl | rfl <;> trivial
  | remoteLeft =>
    simp only [perform] at member
    split at member
    · cases member
    · simp only [mem_cons, not_mem_nil, or_false] at member
      rcases member with rfl | rfl | rfl <;> trivial
  | snapshot =>
    simp only [perform, mem_append] at member
    rcases member with member | member
    · split at member
      · cases member
      · rw [mem_singleton.mp member]
        trivial
    · rw [mem_singleton.mp member]
      trivial
  | command =>
    simp only [perform] at member
    repeat' split at member
    all_goals simp only [mem_cons, not_mem_nil, or_false] at member
    all_goals
      rw [member]
      trivial
  | addActive | removeConnection | evict | track | update | remoteSnapshot | addressees =>
    simp only [perform] at member
    split at member
    all_goals simp only [mem_cons, not_mem_nil, or_false] at member
    all_goals
      rw [member]
      trivial
  | _ => cases member

variable (others)

def After (piece : Piece) : Piece → Prop := fun other => other ∈ (channel.perform piece).2 ∨ others other

variable {others}

theorem accounted_of (accounted : channel.Accounted fun other => other = piece ∨ others other)
    (assigns : ∀ userId, (channel.perform piece).1.assigns.has userId = true →
      (channel.perform piece).1.Backs (channel.After others piece) (Piece.ClearsAssigns userId) userId)
    (presence : ∀ userId, (channel.perform piece).1.presence.has userId = true →
      (channel.perform piece).1.Backs (channel.After others piece) (Piece.ClearsPresence userId) userId) :
    (channel.perform piece).1.Accounted (channel.After others piece) := by
  refine ⟨assigns, presence, fun other waits => ?_⟩
  rcases waits with new | waits
  · exact channel.perform_named (accounted.named piece (.inl rfl)) other new
  · exact accounted.named other (.inr waits)

theorem accounted_rests (accounted : channel.Accounted fun other => other = piece ∨ others other)
    (rests : channel.Rests (channel.perform piece).1) (unnoting : ∀ nodeId now, piece ≠ .noteNode nodeId now)
    (assigns : ∀ userId, (channel.perform piece).1.assigns.has userId = true →
      (channel.assigns.has userId = true ∧ ¬ piece.Lists userId ∧ ¬ piece.ClearsAssigns userId) ∨
        (channel.perform piece).1.Backs (channel.After others piece) (Piece.ClearsAssigns userId) userId)
    (presence : ∀ userId, (channel.perform piece).1.presence.has userId = true →
      (channel.presence.has userId = true ∧ ¬ piece.Lists userId ∧ ¬ piece.ClearsPresence userId) ∨
        (channel.perform piece).1.Backs (channel.After others piece) (Piece.ClearsPresence userId) userId) :
    (channel.perform piece).1.Accounted (channel.After others piece) := by
  refine channel.accounted_of accounted (fun userId entry => ?_) fun userId entry => ?_
  · rcases assigns userId entry with ⟨before, unlisting, unclearing⟩ | backs
    · exact backs_frame (rests.connections userId) rests.nodes rests.seen unlisting unclearing unnoting
        (accounted.assigns userId before)
    · exact backs
  · rcases presence userId entry with ⟨before, unlisting, unclearing⟩ | backs
    · exact backs_frame (rests.connections userId) rests.nodes rests.seen unlisting unclearing unnoting
        (accounted.presence userId before)
    · exact backs

theorem accounted_still (accounted : channel.Accounted fun other => other = piece ∨ others other)
    (kept : (channel.perform piece).1.assigns = channel.assigns ∧ (channel.perform piece).1.presence = channel.presence ∧
      channel.Rests (channel.perform piece).1)
    (idle : ∀ userId, ¬ piece.Lists userId ∧ ¬ piece.ClearsAssigns userId ∧ ¬ piece.ClearsPresence userId)
    (unnoting : ∀ nodeId now, piece ≠ .noteNode nodeId now) :
    (channel.perform piece).1.Accounted (channel.After others piece) := by
  refine channel.accounted_rests accounted kept.2.2 unnoting (fun userId entry => .inl ⟨?_, ?_, ?_⟩)
    fun userId entry => .inl ⟨?_, ?_, ?_⟩
  · exact kept.1 ▸ entry
  · exact (idle userId).1
  · exact (idle userId).2.1
  · exact kept.2.1 ▸ entry
  · exact (idle userId).1
  · exact (idle userId).2.2

theorem accounted_tracked {userId : UserId} (presence : Table)
    (accounted : channel.Accounted fun other => other = piece ∨ others other)
    (fits : channel.presence.has userId = false → channel.Backs others (Piece.ClearsPresence userId) userId)
    (performs : (channel.perform piece).1 = { channel with presence := channel.presence.set userId presence })
    (idle : ∀ userId, ¬ piece.Lists userId ∧ ¬ piece.ClearsAssigns userId ∧ ¬ piece.ClearsPresence userId)
    (unnoting : ∀ nodeId now, piece ≠ .noteNode nodeId now) :
    (channel.perform piece).1.Accounted (channel.After others piece) := by
  have rests : channel.Rests (channel.perform piece).1 := by
    rw [performs]
    exact rests_same rfl rfl rfl
  refine channel.accounted_rests accounted rests unnoting (fun other entry => ?_) fun other entry => ?_
  · rw [performs] at entry
    exact .inl ⟨entry, (idle other).1, (idle other).2.1⟩
  · cases before : channel.presence.has other with
    | true => exact .inl ⟨rfl, (idle other).1, (idle other).2.2⟩
    | false =>
      rw [performs] at entry ⊢
      rcases has_set.mp entry with rfl | known
      · exact .inr (backs_more rfl rfl rfl (fits before))
      · rw [before] at known
        cases known

theorem accounted_disconnect {reason : String}
    (accounted : channel.Accounted fun other => other = .removeConnection userId reason moment ∨ others other) :
    (channel.perform (.removeConnection userId reason moment)).1.Accounted
      (channel.After others (.removeConnection userId reason moment)) := by
  have noting : ∀ nodeId now, Piece.removeConnection userId reason moment ≠ .noteNode nodeId now := by
    intro nodeId now same
    cases same
  cases connected : channel.connections.has userId with
  | false =>
    refine channel.accounted_still accounted ?_ (fun _ => ⟨id, id, id⟩) noting
    simp only [perform, connected, Bool.false_eq_true, if_false]
    exact ⟨trivial, trivial, rests_same rfl rfl rfl⟩
  | true =>
    have gives : channel.perform (.removeConnection userId reason moment) =
        ({ channel with connections := channel.connections.delete userId },
          [.removeAssigns userId reason moment]) := by
      simp only [perform, connected, if_true]
    have passes : ∀ (clears : Piece → Prop) (other : UserId), (∀ piece, piece = .removeAssigns other reason moment → clears piece) →
        ¬ clears (.removeConnection userId reason moment) →
        channel.Backs (fun other => other = .removeConnection userId reason moment ∨ others other) clears other →
        (channel.perform (.removeConnection userId reason moment)).1.Backs
          (channel.After others (.removeConnection userId reason moment)) clears other := by
      intro clears other clearing unclearing backs
      unfold After
      rw [gives]
      by_cases same : other = userId
      · subst same
        exact .inr (.inr ⟨_, .inl mem_cons_self, .inr (clearing _ rfl)⟩)
      have kept : channel.connections.has other = true → (channel.connections.delete userId).has other = true :=
        fun connected => has_delete.mpr ⟨same, connected⟩
      exact backs_frame kept rfl (fun _ => id) id unclearing noting backs
    refine channel.accounted_of accounted (fun other entry => ?_) fun other entry => ?_
    · rw [gives] at entry
      exact passes _ other (fun _ same => same ▸ rfl) id (accounted.assigns other entry)
    · rw [gives] at entry
      exact passes _ other (fun _ same => same ▸ rfl) id (accounted.presence other entry)

theorem accounted_listed
    (accounted : channel.Accounted fun other => other = .addNodeUser nodeId userId now ∨ others other) :
    (channel.perform (.addNodeUser nodeId userId now)).1.Accounted (channel.After others (.addNodeUser nodeId userId now)) := by
  have passes : ∀ (clears : Piece → Prop) (other : UserId), ¬ clears (.addNodeUser nodeId userId now) →
      channel.Backs (fun other => other = .addNodeUser nodeId userId now ∨ others other) clears other →
      (channel.perform (.addNodeUser nodeId userId now)).1.Backs
        (channel.After others (.addNodeUser nodeId userId now)) clears other := by
    intro clears other unclearing backs
    have noted : ∃ later, channel.After others (.addNodeUser nodeId userId now) (.noteNode nodeId later) :=
      ⟨now, .inl mem_cons_self⟩
    have listed : ∀ users, channel.nodeUsers.get? nodeId = some users → users.has other = true →
        ∃ later, (channel.perform (.addNodeUser nodeId userId now)).1.nodeUsers.get? nodeId = some later ∧
          later.has other = true := by
      intro users found lists
      refine ⟨users.add userId, ?_, ?_⟩
      · simp [perform, found]
      · exact has_set.mpr (.inr lists)
    have elsewhere : ∀ node users, node ≠ nodeId → channel.nodeUsers.get? node = some users →
        (channel.perform (.addNodeUser nodeId userId now)).1.nodeUsers.get? node = some users := by
      intro node users apart found
      exact (get_set_other apart).trans found
    rcases backs with connected | ⟨node, users, found, lists, known⟩ | ⟨piece, same | waits, does⟩
    · exact .inl connected
    · by_cases same : node = nodeId
      · subst same
        obtain ⟨later, found, lists⟩ := listed users found lists
        exact .inr (.inl ⟨node, later, found, lists, .inr noted⟩)
      · refine .inr (.inl ⟨node, users, elsewhere node users same found, lists, known.imp_right ?_⟩)
        intro waits
        obtain ⟨later, before | waits⟩ := waits
        · cases before
        · exact ⟨later, .inr waits⟩
    · subst same
      rcases does with lists | clearing
      · obtain ⟨rfl, _⟩ := lists
        refine .inr (.inl ⟨nodeId, ((channel.nodeUsers.get? nodeId).getD .empty).add userId, ?_, ?_, .inr noted⟩)
        · exact get_set_same
        · exact has_set.mpr (.inl rfl)
      · exact absurd clearing unclearing
    · exact .inr (.inr ⟨piece, .inr waits, does⟩)
  exact channel.accounted_of accounted (fun other entry => passes _ other id (accounted.assigns other entry))
    fun other entry => passes _ other id (accounted.presence other entry)

theorem accounted_noted (accounted : channel.Accounted fun other => other = .noteNode nodeId now ∨ others other) :
    (channel.perform (.noteNode nodeId now)).1.Accounted (channel.After others (.noteNode nodeId now)) := by
  have seen : ∀ node, node = nodeId ∨ channel.nodeLastSeen.has node = true →
      (channel.perform (.noteNode nodeId now)).1.nodeLastSeen.has node = true := by
    intro node either
    simp only [perform]
    split
    · rename_i known
      rcases either with rfl | seen
      · exact known
      · exact seen
    · exact has_set.mpr either
  have passes : ∀ (clears : Piece → Prop) (other : UserId), ¬ clears (.noteNode nodeId now) →
      channel.Backs (fun other => other = .noteNode nodeId now ∨ others other) clears other →
      (channel.perform (.noteNode nodeId now)).1.Backs (channel.After others (.noteNode nodeId now)) clears other := by
    intro clears other unclearing backs
    rcases backs with connected | ⟨node, users, found, lists, known | ⟨later, same | waits⟩⟩ | ⟨piece, same | waits, does⟩
    · exact .inl connected
    · exact .inr (.inl ⟨node, users, found, lists, .inl (seen node (.inr known))⟩)
    · cases same
      exact .inr (.inl ⟨nodeId, users, found, lists, .inl (seen nodeId (.inl rfl))⟩)
    · exact .inr (.inl ⟨node, users, found, lists, .inr ⟨later, .inr waits⟩⟩)
    · subst same
      rcases does with lists | clearing
      · exact lists.elim
      · exact absurd clearing unclearing
    · exact .inr (.inr ⟨piece, .inr waits, does⟩)
  exact channel.accounted_of accounted (fun other entry => passes _ other id (accounted.assigns other entry))
    fun other entry => passes _ other id (accounted.presence other entry)

theorem accounted_dropped (accounted : channel.Accounted fun other => other = .dropNode nodeId ∨ others other) :
    (channel.perform (.dropNode nodeId)).1.Accounted (channel.After others (.dropNode nodeId)) := by
  have passes : ∀ (clears : Piece → Prop) (other : UserId), ¬ clears (.dropNode nodeId) →
      (∀ users, other ∈ users → clears (.dropUsers users)) →
      channel.Backs (fun other => other = .dropNode nodeId ∨ others other) clears other →
      (channel.perform (.dropNode nodeId)).1.Backs (channel.After others (.dropNode nodeId)) clears other := by
    intro clears other unclearing clearing backs
    rcases backs with connected | ⟨node, users, found, lists, known⟩ | ⟨piece, same | waits, does⟩
    · exact .inl connected
    · by_cases same : node = nodeId
      · subst same
        refine .inr (.inr ⟨.dropUsers users.keys, .inl ?_, .inr (clearing _ (mem_keys.mpr lists))⟩)
        simp only [perform, found, Option.toList_some, map_cons, map_nil]
        exact mem_cons_self
      · refine .inr (.inl ⟨node, users, (get_delete_other same).trans found, lists, known.imp_right ?_⟩)
        intro waits
        obtain ⟨later, before | waits⟩ := waits
        · cases before
        · exact ⟨later, .inr waits⟩
    · subst same
      rcases does with lists | clearing
      · exact lists.elim
      · exact absurd clearing unclearing
    · exact .inr (.inr ⟨piece, .inr waits, does⟩)
  exact channel.accounted_of accounted
    (fun other entry => passes _ other id (fun _ member => member) (accounted.assigns other entry))
    fun other entry => passes _ other id (fun _ member => member) (accounted.presence other entry)

theorem untrack_keeps {nodeId node : NodeId} {userId other : UserId} {users : OrderedSet UserId} (apart : other ≠ userId)
    (found : channel.nodeUsers.get? node = some users) (lists : users.has other = true) :
    ∃ later, (channel.untrackNodeUser nodeId userId).nodeUsers.get? node = some later ∧ later.has other = true := by
  rw [untrackNodeUser]
  split
  · exact ⟨users, found, lists⟩
  split
  · exact ⟨users, found, lists⟩
  rename_i named held
  have left : (named.delete userId).has other = true ∨ node ≠ nodeId := by
    by_cases same : node = nodeId
    · subst same
      rw [held] at found
      cases found
      exact .inl (has_delete.mpr ⟨apart, lists⟩)
    · exact .inr same
  dsimp only
  split
  · rename_i empty
    refine ⟨users, (get_delete_other ?_).trans found, lists⟩
    intro same
    rcases left with lists | apart
    · rw [empty_iff.mp empty other] at lists
      cases lists
    · exact apart same
  · by_cases same : node = nodeId
    · subst same
      exact ⟨named.delete userId, get_set_same, left.resolve_right fun apart => apart rfl⟩
    · exact ⟨users, (get_set_other same).trans found, lists⟩

theorem untrack_rest :
    (channel.untrackNodeUser nodeId userId).assigns = channel.assigns ∧
      (channel.untrackNodeUser nodeId userId).presence = channel.presence ∧
      (channel.untrackNodeUser nodeId userId).connections = channel.connections ∧
      (channel.untrackNodeUser nodeId userId).nodeLastSeen = channel.nodeLastSeen := by
  rw [untrackNodeUser]
  split
  · exact ⟨rfl, rfl, rfl, rfl⟩
  · split <;> exact ⟨rfl, rfl, rfl, rfl⟩

theorem accounted_unlisted
    (accounted : channel.Accounted fun other => other = .dropNodeUser nodeId userId ∨ others other)
    (fits : channel.Fits others (.dropNodeUser nodeId userId)) :
    (channel.perform (.dropNodeUser nodeId userId)).1.Accounted (channel.After others (.dropNodeUser nodeId userId)) := by
  obtain ⟨assigns, presence, connections, seen⟩ := channel.untrack_rest nodeId userId
  have passes : ∀ (clears : Piece → Prop) (other : UserId), other ≠ userId → ¬ clears (.dropNodeUser nodeId userId) →
      channel.Backs (fun other => other = .dropNodeUser nodeId userId ∨ others other) clears other →
      (channel.untrackNodeUser nodeId userId).Backs (channel.After others (.dropNodeUser nodeId userId)) clears other := by
    intro clears other apart unclearing backs
    rcases backs with connected | ⟨node, _, found, lists, known⟩ | ⟨piece, same | waits, does⟩
    · exact .inl (connections ▸ connected)
    · obtain ⟨later, found, lists⟩ := channel.untrack_keeps apart found lists
      refine .inr (.inl ⟨node, later, found, lists, ?_⟩)
      rw [seen]
      refine known.imp_right ?_
      intro waits
      obtain ⟨now, before | waits⟩ := waits
      · cases before
      · exact ⟨now, .inr waits⟩
    · subst same
      rcases does with lists | clearing
      · exact lists.elim
      · exact absurd clearing unclearing
    · exact .inr (.inr ⟨piece, .inr waits, does⟩)
  refine channel.accounted_of accounted (fun other entry => ?_) fun other entry => ?_
  · have before : channel.assigns.has other = true := assigns ▸ entry
    by_cases same : other = userId
    · subst same
      exact backs_more rfl rfl rfl (fits.1 before)
    · exact passes _ other same id (accounted.assigns other before)
  · have before : channel.presence.has other = true := presence ▸ entry
    by_cases same : other = userId
    · subst same
      exact backs_more rfl rfl rfl (fits.2 before)
    · exact passes _ other same id (accounted.presence other before)

theorem accounted_perform (accounted : channel.Accounted fun other => other = piece ∨ others other)
    (fits : channel.Fits others piece) : (channel.perform piece).1.Accounted (channel.After others piece) := by
  by_cases notes : ∃ nodeId now, piece = .noteNode nodeId now
  · obtain ⟨nodeId, _, rfl⟩ := notes
    exact channel.accounted_noted nodeId accounted
  have unnoting : ∀ nodeId now, piece ≠ .noteNode nodeId now := fun nodeId now same => notes ⟨nodeId, now, same⟩
  have still := fun kept idle => channel.accounted_still accounted kept idle unnoting
  have tracked := fun userId presence fits performs idle =>
    @accounted_tracked channel piece others userId presence accounted fits performs idle unnoting
  have same := fun first second third => channel.accounted_rests accounted (rests_same first second third) unnoting
  cases piece with
  | insertAssigns =>
    refine same rfl rfl rfl (fun other entry => ?_) fun _ entry => .inl ⟨entry, id, id⟩
    rcases has_set.mp entry with rfl | known
    · exact .inr (backs_more rfl rfl rfl fits)
    · exact .inl ⟨known, id, id⟩
  | removeConnection userId => exact channel.accounted_disconnect userId accounted
  | removeAssigns userId =>
    refine same rfl rfl rfl (fun other entry => ?_) fun other entry => ?_
    · obtain ⟨apart, known⟩ := has_delete.mp entry
      exact .inl ⟨known, id, fun same => apart same.symm⟩
    · by_cases same : userId = other
      · exact .inr (.inr (.inr ⟨_, .inl mem_cons_self, .inr same⟩))
      · exact .inl ⟨entry, id, same⟩
  | removePresence userId | dropPresence userId =>
    refine same rfl rfl rfl (fun _ entry => .inl ⟨entry, id, id⟩) fun other entry => ?_
    obtain ⟨apart, known⟩ := has_delete.mp entry
    exact .inl ⟨known, id, fun same => apart same.symm⟩
  | dropAssigns =>
    refine same rfl rfl rfl (fun other entry => ?_) fun _ entry => .inl ⟨entry, id, id⟩
    obtain ⟨apart, known⟩ := has_delete.mp entry
    exact .inl ⟨known, id, fun same => apart same.symm⟩
  | dropUsers =>
    refine same rfl rfl rfl (fun other entry => ?_) fun other entry => ?_
    · obtain ⟨apart, known⟩ := (has_delete_all channel.assigns).mp entry
      exact .inl ⟨known, id, apart⟩
    · obtain ⟨apart, known⟩ := (has_delete_all channel.presence).mp entry
      exact .inl ⟨known, id, apart⟩
  | untrack =>
    refine same rfl rfl rfl (fun _ entry => .inl ⟨entry, id, id⟩) fun other entry => ?_
    exact .inl ⟨(has_delete.mp entry).2, id, id⟩
  | addConnection =>
    refine still ?_ fun _ => ⟨id, id, id⟩
    simp only [perform]
    split
    · exact still_kept channel.still_refl
    · exact ⟨rfl, rfl, fun _ connected => has_set.mpr (.inr connected), rfl, fun _ => id⟩
  | track userId presence =>
    cases known : channel.presence.has userId with
    | true =>
      refine still ?_ fun _ => ⟨id, id, id⟩
      simp only [perform, known, if_true]
      exact ⟨trivial, trivial, rests_same rfl rfl rfl⟩
    | false =>
      refine tracked userId presence fits ?_ fun _ => ⟨id, id, id⟩
      simp [perform, known]
  | update userId presence =>
    cases known : channel.presence.has userId with
    | true =>
      refine tracked userId presence (fun unknown => ?_) ?_ fun _ => ⟨id, id, id⟩
      · rw [known] at unknown
        cases unknown
      · simp [perform, known]
    | false =>
      refine still ?_ fun _ => ⟨id, id, id⟩
      simp only [perform, known, Bool.false_eq_true, if_false]
      exact ⟨trivial, trivial, rests_same rfl rfl rfl⟩
  | mergePresence event userId changed =>
    by_cases leaves : event.event = "LEAVE"
    · refine same rfl rfl rfl (fun _ entry => .inl ⟨entry, id, id⟩) fun other entry => ?_
      simp only [perform, if_pos leaves] at entry
      exact .inl ⟨(has_delete.mp entry).2, id, id⟩
    · refine tracked userId changed (fits leaves) ?_ fun _ => ⟨id, id, id⟩
      simp [perform, if_neg leaves]
  | remoteAssigns =>
    obtain ⟨presence, _, rests, assigns⟩ := channel.remote_assigns_keys
    refine channel.accounted_rests accounted rests unnoting (fun userId entry => ?_)
      fun userId entry => ?_
    · exact .inl ⟨(assigns userId) ▸ entry, id, id⟩
    · exact .inl ⟨presence ▸ entry, id, id⟩
  | adopt nodeId userId assigns presence now =>
    have node : nodeId ≠ "" := accounted.named _ (.inl rfl)
    have backs : ∀ (clears : Piece → Prop), channel.Backs (channel.After others (.adopt nodeId userId assigns presence now)) clears
        userId := by
      intro clears
      cases hosted : channel.hasUser userId with
      | true => exact .inl hosted
      | false =>
        obtain ⟨later, member, lists⟩ : ∃ later ∈ assignsPieces nodeId userId now presence assigns, later.Lists userId :=
          assigns_lists nodeId userId node
        exact .inr (.inr ⟨later, .inl (by simpa [perform, hosted] using member), .inl lists⟩)
    refine same rfl rfl rfl (fun other entry => ?_) fun other entry => ?_
    all_goals
      by_cases same : userId = other
      · subst same
        exact .inr (backs _)
      · exact .inl ⟨entry, fun lists => same lists.1, id⟩
  | adoptAssigns nodeId userId =>
    obtain ⟨later, member, lists⟩ := presence_lists nodeId userId (accounted.named _ (.inl rfl))
    refine same rfl rfl rfl (fun other entry => ?_) fun other entry => ?_
    all_goals by_cases same : userId = other
    · subst same
      exact .inr (.inr (.inr ⟨later, .inl member, .inl lists⟩))
    · exact .inl ⟨(has_set.mp entry).resolve_left (Ne.symm same), fun lists => same lists.1, id⟩
    · subst same
      exact .inr (.inr (.inr ⟨later, .inl member, .inl lists⟩))
    · exact .inl ⟨entry, fun lists => same lists.1, id⟩
  | adoptPresence nodeId userId =>
    obtain ⟨later, member, lists⟩ := track_lists nodeId userId (accounted.named _ (.inl rfl))
    refine same rfl rfl rfl (fun other entry => ?_) fun other entry => ?_
    all_goals by_cases same : userId = other
    · subst same
      exact .inr (.inr (.inr ⟨later, .inl member, .inl lists⟩))
    · exact .inl ⟨entry, fun lists => same lists.1, id⟩
    · subst same
      exact .inr (.inr (.inr ⟨later, .inl member, .inl lists⟩))
    · exact .inl ⟨(has_set.mp entry).resolve_left (Ne.symm same), fun lists => same lists.1, id⟩
  | addNodeUser nodeId userId => exact channel.accounted_listed nodeId userId accounted
  | noteNode nodeId now => exact absurd ⟨nodeId, now, rfl⟩ notes
  | dropNode nodeId => exact channel.accounted_dropped nodeId accounted
  | dropNodeUser nodeId userId => exact channel.accounted_unlisted nodeId userId accounted fits
  | forgetNode =>
    exact channel.accounted_of accounted (fun other entry => backs_more rfl rfl rfl (fits.1 other entry))
      fun other entry => backs_more rfl rfl rfl (fits.2 other entry)
  | heartbeat =>
    refine still ?_ fun _ => ⟨id, id, id⟩
    simp only [perform]
    split
    · exact still_kept channel.still_refl
    · exact ⟨rfl, rfl, fun _ => id, rfl, fun _ seen => has_set.mpr (.inr seen)⟩
  | leave | direct =>
    exact still ⟨rfl, rfl, rests_same rfl rfl rfl⟩ fun _ => ⟨id, id, id⟩
  | publish | userGet =>
    exact still (still_kept channel.publish_still) fun _ => ⟨id, id, id⟩
  | enqueue => exact still (still_kept channel.enqueue_still) fun _ => ⟨id, id, id⟩
  | stateRequest =>
    exact still (still_kept channel.state_request_still) fun _ => ⟨id, id, id⟩
  | _ => exact still (still_kept channel.still_refl) fun _ => ⟨id, id, id⟩

theorem receive_named (channel : Channel) {data : Json}
    (node : ∀ event, fromBytes moment.uuid data = some event → event.nodeId ≠ "") :
    ∀ piece ∈ channel.receivePieces moment data, piece.Named := by
  intro piece member
  rw [receivePieces] at member
  split at member
  · cases member
  rename_i event read
  have named := node event read
  split at member
  · cases member
  split at member
  · cases member
  rw [dispatchPieces] at member
  split at member
  · split at member <;>
    · rw [mem_singleton.mp member]
      trivial
  split at member
  · rw [mem_singleton.mp member]
    trivial
  split at member
  · split at member
    · cases member
    · split at member
      · rw [mem_singleton.mp member]
        exact named
      · rw [mem_singleton.mp member]
        trivial
  · split at member
    · rw [mem_singleton.mp member]
      trivial
    · split at member
      · obtain ⟨_, _, member⟩ := mem_flatMap.mp member
        obtain ⟨id, _, rfl⟩ := mem_map.mp member
        exact named
      · split at member
        · obtain ⟨id, _, rfl⟩ := mem_map.mp member
          exact named
        · split at member
          · obtain ⟨_, _, rfl⟩ := mem_map.mp member
            trivial
          · rw [mem_singleton.mp member]
            trivial

theorem call_named {call : ChannelCall} : ∀ piece ∈ call.pieces, piece.Named := by
  intro piece member
  cases call with
  | trackPresence | updatePresence =>
    obtain ⟨_, _, rfl⟩ := mem_map.mp member
    trivial
  | _ =>
    rw [mem_singleton.mp member]
    trivial

end Channel

namespace LockRun

theorem accounted_same {channel : Channel} {before after : Piece → Prop} (same : ∀ piece, before piece ↔ after piece)
    (accounted : channel.Accounted before) : channel.Accounted after := by
  have equal : before = after := funext fun piece => propext (same piece)
  rw [← equal]
  exact accounted

theorem sound_spawn (state : LockRun) {task : List Piece} (sound : state.Sound) (named : ∀ piece ∈ task, piece.Named) :
    Sound { state with tasks := state.tasks ++ [task] } := by
  have passes : ∀ (clears : Piece → Prop) (userId : UserId), state.channel.Backs (Pending state.tasks) clears userId →
      state.channel.Backs (Pending (state.tasks ++ [task])) clears userId := by
    intro clears userId backs
    have grown : state.channel.Backs (fun piece => piece ∈ task ∨ Pending state.tasks piece) clears userId :=
      Channel.backs_more rfl rfl rfl backs
    have equal : (fun piece => piece ∈ task ∨ Pending state.tasks piece) = Pending (state.tasks ++ [task]) :=
      funext fun piece => propext ((pending_concat _).trans or_comm).symm
    rw [← equal]
    exact grown
  refine ⟨?_, ?_, ?_⟩
  · intro userId entry
    exact passes _ userId (sound.assigns userId entry)
  · intro userId entry
    exact passes _ userId (sound.presence userId entry)
  · intro piece waits
    rcases (pending_concat _).mp waits with waits | new
    · exact sound.named piece waits
    · exact named piece new

theorem sound_step (state : LockRun) (label : LockStep) (sound : state.Sound) (inTurn : state.InTurn label) :
    (state.step label).Sound := by
  cases label with
  | call => exact state.sound_spawn sound Channel.call_named
  | receive => exact state.sound_spawn sound (state.channel.receive_named inTurn)
  | resume place =>
    cases next : nextPiece state.tasks place with
    | none =>
      have same : state.step (.resume place) = state := by
        simp [step, resume_idle next]
      rw [same]
      exact sound
    | some piece =>
      have performed : (state.step (.resume place)).channel = (state.channel.perform piece).1 :=
        resume_state next
      rw [Sound, performed]
      refine accounted_same (fun other => (pending_after next).symm) ?_
      apply state.channel.accounted_perform
      · exact accounted_same (fun other => pending_before state.tasks place piece other next) sound
      · exact inTurn piece next

theorem sound_start {name endpointPath : String} {nodeId : NodeId} {pubsub : Bool} :
    (start name endpointPath nodeId pubsub).Sound := by
  refine ⟨?_, ?_, ?_⟩
  · intro userId entry
    cases entry
  · intro userId entry
    cases entry
  · intro piece waits
    obtain ⟨_, member, _⟩ := waits
    cases member

def tenant : Transport := ⟨"u", 0⟩

def clock : Moment := ⟨0, "event-1", true⟩

def joins : List LockStep := [.call (.addUser tenant .empty clock)] ++ List.replicate 4 (.resume 0)

def leavesEarly : List LockStep :=
  [.call (.addUser tenant .empty clock), .resume 0, .resume 0, .call (.removeUser "u" "left" clock)] ++
    List.replicate 5 (.resume 1) ++ List.replicate 2 (.resume 0)

end LockRun

end PondSocket.Rust
