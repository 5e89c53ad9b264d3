import PondSocket.Library.Tasks
import PondSocket.Python.Codec

namespace PondSocket.Python

open Library List OrderedMap Option
open Js (Json UserId NodeId)
open Go (MsgType index asString asMap asSlice)

-- What a call or a handler does from one await to the next. moment is drawn where the
-- call starts, and rest of a leave is what remove_user does after it.
inductive Section where
  | track (userId : UserId) (data : Dict) (moment : Moment)
  | update (userId : UserId) (data : Dict) (moment : Moment)
  | upsert (userId : UserId) (data : Dict) (moment : Moment)
  | untrack (userId : UserId) (removal : Option Bool) (moment : Moment)
  | recipients (event : Event) (subtype : Option String)
  | enqueue (event : Event) (recipientIds : List UserId)
  | publish (event : Event) (subtype : String)
  | remove (userId : UserId) (reason : String) (skipDistributed : Bool) (moment : Moment)
  | hasPresence (userId : UserId) (skipDistributed : Bool) (moment : Moment)
  | getPresence (userId : UserId) (skipDistributed : Bool) (moment : Moment)
  | discardAssigns (userId : UserId)
  | left (userId : UserId) (skipDistributed : Bool)
  | countConnections
  | close
  | hasRemote (userId : UserId) (presence : Dict) (event : Event)
  | setRemote (userId : UserId) (presence : Dict)
  | discard (userId : UserId)
  | values (event : Event)
  | addressees (event : Event)
  | assigns (event : Event)
  | command (event : Event) (userId : UserId) (moment : Moment)
  | evictDirect (reason : String) (userId : UserId) (moment : Moment)
  | adopt (nodeId : NodeId) (userId : UserId) (user : Json)
  | adoptAssigns (nodeId : NodeId) (userId : UserId) (user : Json)
  | remoteLeft (nodeId : NodeId) (userId : UserId)
  | untrackNode (nodeId : NodeId) (userId : UserId)
  | evictNode (nodeId : NodeId)
  | evictUser (userId : UserId)
  | stateRequest
  | userGetRequest (raw : Json)

structure Kept where
  channel : Channel
  through : List UserId

-- What a section keeps that changes no presence and queues nothing.
structure Channel.Spares (before after : Channel) : Prop where
  name : after.name = before.name
  active : after.active = before.active
  dispatched : after.dispatched = before.dispatched
  presence : after.presence = before.presence
  connections : ∀ userId transport, after.connections.get? userId = some transport →
    before.connections.get? userId = some transport

namespace Kept

def write (kept : Kept) (presence : OrderedMap UserId Dict) : Kept where
  channel := { kept.channel with presence := presence }
  through := kept.channel.presence.keys.filter presence.has

-- The event that publish_presence_change is called for; a channel without a name has none.
def announce (kept : Kept) (moment : Moment) (eventType : PresenceEventTypes) (userId : UserId) (changed : Dict)
    (rest : List Section) : Kept × List Section :=
  match (kept.channel.presenceChange moment.uuid eventType userId changed).checked with
  | none => (kept, [])
  | some event => (kept, .recipients event (some eventType.subtype) :: rest)

def onChannel (kept : Kept) (channel : Channel) : Kept := { kept with channel := channel }

section

variable (str : Json → String)

def perform (kept : Kept) : Section → Kept × List Section
  | .track userId data moment =>
    if kept.channel.presence.has userId then (kept, [])
    else (kept.write (kept.channel.presence.set userId data)).announce moment .join userId data []
  | .update userId data moment =>
    if kept.channel.presence.has userId = false then (kept, [])
    else (kept.write (kept.channel.presence.set userId data)).announce moment .update userId data []
  | .upsert userId data moment =>
    (kept.write (kept.channel.presence.set userId data)).announce moment
      (if kept.channel.presence.has userId then .update else .join) userId data []
  | .untrack userId removal moment =>
    match kept.channel.presence.get? userId with
    | none => (kept, removal.toList.map (.left userId))
    | some old =>
      (kept.write (kept.channel.presence.delete userId)).announce moment .leave userId old
        (removal.toList.map (.left userId))
  | .recipients event subtype =>
    (kept, (if kept.channel.presence.keys.isEmpty then [] else [.enqueue event kept.channel.presence.keys]) ++
      subtype.toList.map (.publish event))
  | .enqueue event recipientIds => (kept.onChannel (kept.channel.enqueueDispatch true event recipientIds), [])
  | .publish event subtype => (kept.onChannel (kept.channel.publishEventToPubsub event subtype), [])
  | .remove userId reason skipDistributed moment =>
    if kept.channel.connections.has userId = false then
      (kept.onChannel (kept.channel.publishUserCommand moment "user:remove" userId reason).1, [])
    else
      (kept.onChannel { kept.channel with connections := kept.channel.connections.delete userId },
        [.hasPresence userId skipDistributed moment])
  | .hasPresence userId skipDistributed moment =>
    (kept, if kept.channel.presence.has userId then [.getPresence userId skipDistributed moment]
      else [.discardAssigns userId, .untrack userId (some skipDistributed) moment])
  -- get raises for a user that has lost the presence since has.
  | .getPresence userId skipDistributed moment =>
    (kept, if kept.channel.presence.has userId then
      [.discardAssigns userId, .untrack userId (some skipDistributed) moment] else [])
  | .discardAssigns userId =>
    (kept.onChannel { kept.channel with assigns := kept.channel.assigns.delete userId }, [])
  | .left userId skipDistributed =>
    (if skipDistributed then kept
      else kept.onChannel (kept.channel.publishDistributed .userLeft [("userId", .string userId)]),
      [.countConnections])
  | .countConnections => (kept, if kept.channel.connections.isEmpty then [.close] else [])
  | .close => (kept.onChannel kept.channel.close, [])
  | .hasRemote userId presence event =>
    (kept, [.setRemote userId presence,
      .values { event with event := if kept.channel.presence.has userId then "UPDATE" else "JOIN" }])
  | .setRemote userId presence => (kept.write (kept.channel.presence.set userId presence), [])
  | .discard userId =>
    (if kept.channel.presence.has userId then kept.write (kept.channel.presence.delete userId) else kept, [])
  | .values event => (kept, [.recipients { event with payload := kept.channel.withSnapshot event.payload } none])
  | .addressees event =>
    (kept, if (kept.channel.resolveDistributedRecipients str event).isEmpty then []
      else [.enqueue event (kept.channel.resolveDistributedRecipients str event)])
  | .assigns event => (kept.onChannel (kept.channel.handleRemoteAssigns str event), [])
  | .command event userId moment =>
    (kept, if kept.channel.connections.has userId = false then []
      else if event.event = "user:evict" then
        [.evictDirect (textOr str (index event.payload "reason") "remote command") userId moment]
      else [.remove userId (textOr str (index event.payload "reason") "remote command") false moment])
  | .evictDirect reason userId moment =>
    match (kept.channel.evicted moment.uuid reason).checked with
    | none => (kept, [])
    | some evicted => (kept.onChannel (kept.channel.sendDirect [userId] evicted), [.remove userId reason false moment])
  | .adopt nodeId userId user =>
    (kept, if kept.channel.connections.has userId then [] else [.adoptAssigns nodeId userId user])
  | .adoptAssigns nodeId userId user =>
    (kept.onChannel ({ kept.channel with
        assigns := kept.channel.assigns.set userId (asDict (index user "assigns")) }.trackNodeUser nodeId userId),
      match asMap (index user "presence") with
      | none => []
      | some presence => if presence.isEmpty then [] else [.setRemote userId presence])
  | .remoteLeft nodeId userId =>
    (kept, if kept.channel.connections.has userId then []
      else [.discardAssigns userId, .discard userId, .untrackNode nodeId userId])
  | .untrackNode nodeId userId => (kept.onChannel (kept.channel.untrackNodeUser nodeId userId), [])
  | .evictNode nodeId =>
    match kept.channel.nodeUsers.get? nodeId with
    | none => (kept, [])
    | some users =>
      (kept.onChannel { kept.channel with nodeUsers := kept.channel.nodeUsers.delete nodeId },
        users.keys.map .evictUser)
  | .evictUser userId =>
    (kept, if kept.channel.connections.has userId then [] else [.discardAssigns userId, .discard userId])
  | .stateRequest => (kept.onChannel kept.channel.handleStateRequest, [])
  | .userGetRequest raw => (kept.onChannel (kept.channel.handleUserGetRequest str raw), [])

open Channel (changedUser mergedPresence)

def mergeSections (event : Event) : List Section :=
  match asMap (index event.payload "changed") with
  | none => [.recipients event none]
  | some changed =>
    if changedUser str event changed = "" then [.recipients event none]
    else if event.event = "LEAVE" then [.discard (changedUser str event changed), .values event]
    else [.hasRemote (changedUser str event changed) (mergedPresence changed) event]

def dispatchSections (moment : Moment) (event : Event) : List Section :=
  if event.action = "BROADCAST" then [.addressees event]
  else if event.action = "PRESENCE" then mergeSections str event
  else if event.action = "ASSIGNS" then [.assigns event]
  else if event.action = "USER_COMMAND" then
    if textOr str (index event.payload "userId") "" = "" then []
    else [.command event (textOr str (index event.payload "userId") "") moment]
  else []

def userSections (nodeId : NodeId) (userId : UserId) (user : Json) : List Section :=
  if userId = "" then [] else [.adopt nodeId userId user]

def handlerSections (moment : Moment) (nodeId : NodeId) (raw : Json) : MsgType → List Section
  | .stateRequest => [.stateRequest]
  | .stateResponse =>
    ((asSlice (index raw "users")).getD []).flatMap fun user =>
      userSections nodeId (textOr str (index user "id") "") user
  | .userJoined => userSections nodeId (textOr str (index raw "userId") "") raw
  | .userLeft =>
    if textOr str (index raw "userId") "" = "" then [] else [.remoteLeft nodeId (textOr str (index raw "userId") "")]
  | .userGetRequest => [.userGetRequest raw]
  | .userGetResponse | .nodeHeartbeat => []
  | .userMessage | .presenceUpdate | .presenceRemoved | .assignsUpdate | .evictUser | .userRemove =>
    ((eventFromEnvelope str moment.uuid raw).map (dispatchSections str moment)).getD []

def receiveSections (channel : Channel) (moment : Moment) (data : Json) : List Section :=
  match parseEnvelope data with
  | none => []
  | some raw =>
    match asString (index raw "sourceNodeId"), asString (index raw "channelName"),
      (asString (index raw "type")).bind MsgType.ofText with
    | some nodeId, some channelName, some kind =>
      if nodeId = channel.nodeId ∨ channelName ≠ channel.name ∨ channel.active = false then []
      else handlerSections str moment nodeId raw kind
    | _, _, _ => []

end

end Kept

-- Where the delivery to one recipient is: before the transport is read, and then,
-- with the transport, before each of the reads of get_user and before the sending.
inductive DeliverPhase where
  | connection
  | known (transport : Transport)
  | tracked (transport : Transport)
  | presence (transport : Transport)
  | asked (transport : Transport)
  | send (transport : Transport)

def DeliverPhase.transport : DeliverPhase → Option Transport
  | .connection => none
  | .known transport | .tracked transport | .presence transport | .asked transport | .send transport => some transport

-- ended: the serials of the transports that are not active any more; taken: how many
-- items of the log of the queue the dispatch loop has taken; current: the event of the
-- last of them; sent: what send_event was given by the dispatch.
structure ViewRun where
  kept : Kept
  tasks : List (List Section)
  ended : List Nat
  taken : Nat
  current : Option Event
  deliveries : List (UserId × DeliverPhase)
  sent : List (Transport × Event)

inductive PresenceCall where
  | trackPresence (userId : UserId) (data : Dict) (moment : Moment)
  | updatePresence (userId : UserId) (data : Dict) (moment : Moment)
  | upsert (userId : UserId) (data : Dict) (moment : Moment)
  | untrackPresence (userId : UserId) (moment : Moment)
  | removeUser (userId : UserId) (reason : String) (skipDistributed : Bool) (moment : Moment)
  | evictNodeUsers (nodeId : NodeId)

def PresenceCall.first : PresenceCall → Section
  | .trackPresence userId data moment => .track userId data moment
  | .updatePresence userId data moment => .update userId data moment
  | .upsert userId data moment => .upsert userId data moment
  | .untrackPresence userId moment => .untrack userId none moment
  | .removeUser userId reason skipDistributed moment => .remove userId reason skipDistributed moment
  | .evictNodeUsers nodeId => .evictNode nodeId

inductive ViewStep where
  | call (call : PresenceCall)
  | receive (moment : Moment) (data : Json)
  | resume (place : Nat)
  | connectionEnds (serial : Nat)
  | take
  | deliver (place : Nat) (found : Bool)
  | cancel

namespace ViewRun

def start (name endpointPath : String) (nodeId : NodeId) (pubsub : Bool) (transports : List Transport) : ViewRun where
  kept :=
    { channel := { (Channel.new name endpointPath nodeId pubsub).start with
        connections := transports.foldl (fun connections transport => connections.set transport.id transport) .empty }
      through := [] }
  tasks := []
  ended := []
  taken := 0
  current := none
  deliveries := []
  sent := []

def take (state : ViewRun) : ViewRun :=
  match state.deliveries, state.kept.channel.dispatched[state.taken]? with
  | [], some item =>
    if state.kept.channel.active = false then state
    else
      { state with
        taken := state.taken + 1
        current := some item.event
        deliveries := item.recipientIds.map fun userId => (userId, .connection) }
  | _, _ => state

def isActive (state : ViewRun) (transport : Transport) : Bool := decide (transport.serial ∉ state.ended)

-- What _deliver_one does next, or none when it returns; found says whether another
-- node has answered for a recipient that is not connected.
def nextPhase (state : ViewRun) (userId : UserId) (found : Bool) : DeliverPhase → Option DeliverPhase
  | .connection =>
    (state.kept.channel.connections.get? userId).bind fun transport =>
      if state.isActive transport then some (.known transport) else none
  | .known transport =>
    some (if state.kept.channel.connections.has userId then .tracked transport else .asked transport)
  | .tracked transport =>
    some (if state.kept.channel.presence.has userId then .presence transport else .send transport)
  | .presence transport => if state.kept.channel.presence.has userId then some (.send transport) else none
  | .asked transport => if found then some (.send transport) else none
  | .send _ => none

def deliveryEvent (event : Event) : Event :=
  Event.plain event.action event.channelName event.requestId event.event event.payload event.nodeId

def sending (state : ViewRun) : DeliverPhase → List (Transport × Event)
  | .send transport =>
    if state.isActive transport then state.current.toList.map fun event => (transport, deliveryEvent event) else []
  | _ => []

def advance (deliveries : List (UserId × DeliverPhase)) (place : Nat) (userId : UserId) :
    Option DeliverPhase → List (UserId × DeliverPhase)
  | none => deliveries.eraseIdx place
  | some next => deliveries.set place (userId, next)

def deliver (state : ViewRun) (place : Nat) (found : Bool) : ViewRun :=
  match state.deliveries[place]? with
  | none => state
  | some (userId, phase) =>
    { state with
      deliveries := advance state.deliveries place userId (state.nextPhase userId found phase)
      sent := state.sent ++ state.sending phase }

section

variable (str : Json → String)

def step (state : ViewRun) : ViewStep → ViewRun
  | .call call => { state with tasks := state.tasks ++ [[call.first]] }
  | .receive moment data =>
    { state with tasks := state.tasks ++ [Kept.receiveSections str state.kept.channel moment data] }
  | .resume place =>
    let resumed := resume (Kept.perform str) state.kept state.tasks place
    { state with kept := resumed.1, tasks := resumed.2 }
  | .connectionEnds serial => { state with ended := serial :: state.ended }
  | .take => state.take
  | .deliver place found => state.deliver place found
  | .cancel => if state.kept.channel.active = false then { state with deliveries := [] } else state

end

def tells (event : Event) : Option (Option (List Json)) :=
  if event.action = "PRESENCE" then some (asSlice (index event.payload "presence")) else none

def Lists (event : Event) (presence : OrderedMap UserId Dict) : Prop :=
  ∃ list, tells event = some (some list) ∧ list.Perm (presence.values.map dictJson)

def Connected (state : ViewRun) (userId : UserId) (transport : Transport) : Prop :=
  state.kept.channel.connections.get? userId = some transport ∧ transport.serial ∉ state.ended

def told (state : ViewRun) (transport : Transport) : List (Option (List Json)) :=
  (state.sent.filter fun sending => sending.1 = transport).filterMap fun sending => tells sending.2

def Agree (state : ViewRun) : Prop :=
  ∀ userId transport, state.Connected userId transport → state.kept.channel.presence.has userId = true →
    userId ∈ state.kept.through → ∃ list, (state.told transport).getLast? = some (some list) ∧
      list.Perm (state.kept.channel.presence.values.map dictJson)

def Settled (state : ViewRun) : Prop :=
  Idle state.tasks ∧ state.kept.channel.dispatched.length ≤ state.taken ∧ state.deliveries = []

end ViewRun

open ViewRun (Lists)

def Section.Tells (presence : OrderedMap UserId Dict) (userId : UserId) : Section → Prop
  | .values event => event.action = "PRESENCE" ∧ ∃ fields, event.payload = .object fields
  | .recipients event _ => Lists event presence
  | .enqueue event recipientIds => userId ∈ recipientIds ∧ Lists event presence
  | _ => False

namespace ViewRun

def Told (tasks : List (List Section)) (presence : OrderedMap UserId Dict) (userId : UserId) : Prop :=
  ∃ piece, Pending tasks piece ∧ piece.Tells presence userId

def Foretold (state : ViewRun) (others : List (List Section)) (next : OrderedMap UserId Dict) : Prop :=
  ∀ userId transport, state.Connected userId transport → next.has userId = true →
    state.kept.channel.presence.has userId = true ∧
        (next.values.map dictJson).Perm (state.kept.channel.presence.values.map dictJson) ∨
      Told others next userId

def Fits (state : ViewRun) (others : List (List Section)) : Section → Prop
  | .setRemote userId presence => state.Foretold others (state.kept.channel.presence.set userId presence)
  | .discard userId => state.Foretold others (state.kept.channel.presence.delete userId)
  | .enqueue event recipientIds =>
    tells event ≠ none → ∀ userId ∈ recipientIds, ∀ transport, state.Connected userId transport →
      state.kept.channel.presence.has userId = true →
        Lists event state.kept.channel.presence ∨ Told others state.kept.channel.presence userId
  | _ => True

def InTurn (state : ViewRun) : ViewStep → Prop
  | .resume place => ∀ piece, nextPiece state.tasks place = some piece → state.Fits (others state.tasks place) piece
  | _ => True

def delivering (state : ViewRun) (userId : UserId) : List (Option (List Json)) :=
  if userId ∈ state.deliveries.map Prod.fst then (state.current.bind tells).toList else []

def queued (state : ViewRun) (userId : UserId) : List (Option (List Json)) :=
  ((state.kept.channel.dispatched.drop state.taken).filter fun item => userId ∈ item.recipientIds).filterMap
    fun item => tells item.event

def awaited (state : ViewRun) (userId : UserId) (transport : Transport) : Option (Option (List Json)) :=
  (state.told transport ++ state.delivering userId ++ state.queued userId).getLast?

def Covered (state : ViewRun) (userId : UserId) (transport : Transport) : Prop :=
  Told state.tasks state.kept.channel.presence userId ∨
    ∃ list, state.awaited userId transport = some (some list) ∧
      list.Perm (state.kept.channel.presence.values.map dictJson)

structure Sound (state : ViewRun) : Prop where
  named : state.kept.channel.name ≠ ""
  shut : state.kept.channel.active = false ∨ Pending state.tasks .close →
    ∀ userId, state.kept.channel.connections.get? userId = none
  keyed : ∀ userId transport, state.kept.channel.connections.get? userId = some transport → transport.id = userId
  behind : state.taken ≤ state.kept.channel.dispatched.length
  carried : ∀ userId phase transport, (userId, phase) ∈ state.deliveries → phase.transport = some transport →
    transport.id = userId ∧
      ∀ other, state.kept.channel.connections.get? userId = some other → other = transport
  asked : ∀ userId transport, (userId, .asked transport) ∈ state.deliveries →
    state.kept.channel.connections.get? userId = none
  covered : ∀ userId transport, state.Connected userId transport →
    state.kept.channel.presence.has userId = true → state.Covered userId transport

theorem sound_agree (state : ViewRun) (sound : state.Sound) (settled : state.Settled) : state.Agree := by
  obtain ⟨idle, empty, none⟩ := settled
  intro userId transport connected tracked _
  rcases sound.covered userId transport connected tracked with told | listed
  · obtain ⟨piece, pending, _⟩ := told
    exact absurd pending ((idle_iff _).mp idle piece)
  have drained : state.kept.channel.dispatched.drop state.taken = [] := drop_eq_nil_of_le empty
  simpa only [awaited, delivering, queued, none, drained, map_nil, not_mem_nil, if_false, filter_nil,
    filterMap_nil, append_nil] using listed

end ViewRun

variable {userId : UserId} {moment : Moment} {event : Event} {nodeId : NodeId}

namespace Channel

variable (channel : Channel)

theorem spares_refl : channel.Spares channel := ⟨rfl, rfl, rfl, rfl, fun _ _ found => found⟩

theorem publish_spares {publication : Publication} : channel.Spares (channel.publish publication) := by
  rw [publish]
  split
  · exact ⟨rfl, rfl, rfl, rfl, fun _ _ found => found⟩
  · exact spares_refl channel

theorem user_command_spares {command : String} {reason : String} :
    channel.Spares (channel.publishUserCommand moment command userId reason).1 := by
  rw [publishUserCommand]
  split
  · exact spares_refl channel
  · exact publish_spares _

theorem delete_spares : channel.Spares { channel with connections := channel.connections.delete userId } := by
  refine ⟨rfl, rfl, rfl, rfl, ?_⟩
  intro other transport found
  rw [get_delete] at found
  split at found
  · cases found
  · exact found

theorem remote_assigns_spares {str : Json → String} (channel : Channel) :
    channel.Spares (channel.handleRemoteAssigns str event) := by
  rw [handleRemoteAssigns]
  split
  · exact spares_refl channel
  split
  · exact spares_refl channel
  · exact ⟨rfl, rfl, rfl, rfl, fun _ _ found => found⟩

theorem track_node_spares (nodeId : NodeId) (userId : UserId) :
    channel.Spares (channel.trackNodeUser nodeId userId) := by
  rw [trackNodeUser]
  split
  · exact spares_refl channel
  · exact ⟨rfl, rfl, rfl, rfl, fun _ _ found => found⟩

theorem untrack_node_spares : channel.Spares (channel.untrackNodeUser nodeId userId) := by
  rw [untrackNodeUser]
  split
  · exact spares_refl channel
  split
  · exact spares_refl channel
  · exact ⟨rfl, rfl, rfl, rfl, fun _ _ found => found⟩

theorem state_request_spares : channel.Spares channel.handleStateRequest := by
  rw [handleStateRequest]
  split
  · exact spares_refl channel
  · exact publish_spares _

theorem user_get_spares {str : Json → String} (channel : Channel) {raw : Json} :
    channel.Spares (channel.handleUserGetRequest str raw) := by
  rw [handleUserGetRequest]
  split
  · exact spares_refl channel
  · exact publish_spares _

end Channel

def Section.Quiet : Section → Prop
  | .track .. | .update .. | .upsert .. | .untrack .. | .enqueue .. | .setRemote .. | .discard _ | .close => False
  | _ => True

namespace Kept

theorem spares_perform {str : Json → String} {kept : Kept} {piece : Section} (quiet : piece.Quiet) :
    kept.channel.Spares (kept.perform str piece).1.channel := by
  cases piece with
  | track | update | upsert | untrack | enqueue | setRemote | discard | close => exact quiet.elim
  | publish => exact kept.channel.publish_spares
  | remove =>
    simp only [perform]
    split
    · exact kept.channel.user_command_spares
    · exact kept.channel.delete_spares
  | discardAssigns => exact ⟨rfl, rfl, rfl, rfl, fun _ _ found => found⟩
  | left =>
    simp only [perform]
    split
    · exact kept.channel.spares_refl
    · exact kept.channel.publish_spares
  | assigns => exact kept.channel.remote_assigns_spares
  | evictDirect | evictNode =>
    simp only [perform]
    split
    · exact kept.channel.spares_refl
    · exact ⟨rfl, rfl, rfl, rfl, fun _ _ found => found⟩
  | adoptAssigns nodeId userId user =>
    have tracked := Channel.track_node_spares
      { kept.channel with assigns := kept.channel.assigns.set userId (asDict (index user "assigns")) } nodeId userId
    exact ⟨tracked.name, tracked.active, tracked.dispatched, tracked.presence, tracked.connections⟩
  | untrackNode => exact kept.channel.untrack_node_spares
  | stateRequest => exact kept.channel.state_request_spares
  | userGetRequest => exact kept.channel.user_get_spares
  | _ => exact kept.channel.spares_refl

theorem closes (str : Json → String) (kept : Kept) (piece : Section) (closing : .close ∈ (kept.perform str piece).2) :
    kept.channel.connections.isEmpty = true := by
  cases piece with
  | countConnections =>
    simp only [perform] at closing
    split at closing
    · assumption
    · cases closing
  | track | update | upsert | untrack =>
    simp only [perform, announce] at closing
    repeat' split at closing
    all_goals simp at closing
  | recipients | addressees | command | evictDirect | adopt | adoptAssigns | remoteLeft | evictNode | evictUser
  | remove | hasPresence | getPresence =>
    simp only [perform] at closing
    repeat' split at closing
    all_goals simp at closing
  | _ => simp [perform] at closing

theorem announce_lists (kept : Kept) {eventType : PresenceEventTypes} {changed : Dict} {rest : List Section}
    (named : kept.channel.name ≠ "") :
    ∃ event, kept.announce moment eventType userId changed rest =
        (kept, .recipients event (some eventType.subtype) :: rest) ∧ Lists event kept.channel.presence := by
  have checked : (kept.channel.presenceChange moment.uuid eventType userId changed).checked =
      some (kept.channel.presenceChange moment.uuid eventType userId changed) := by
    apply Event.checked_complete
    · exact (by decide : "PRESENCE" ≠ "")
    · exact named
    · exact moment.drawn
    · change eventType.value ≠ ""
      cases eventType <;> decide
  refine ⟨kept.channel.presenceChange moment.uuid eventType userId changed, ?_, kept.channel.presence.values.map dictJson,
    rfl, List.Perm.refl _⟩
  rw [announce, checked]

theorem snapshot_lists {channel : Channel} {fields : List (String × Json)} (presence : event.action = "PRESENCE")
    (payload : event.payload = .object fields) :
    Lists { event with payload := channel.withSnapshot event.payload } channel.presence := by
  refine ⟨channel.presence.values.map dictJson, ?_, List.Perm.refl _⟩
  have read : index (channel.withSnapshot event.payload) "presence" =
      .array (channel.presence.values.map dictJson) := by
    rw [payload]
    simp only [Channel.withSnapshot, dictJson, index_object]
    have found := @get_set_same _ _ _ (ofList fields) "presence" (Json.array (channel.presence.values.map dictJson))
    simp only [get?] at found
    rw [found, getD_some]
  rw [ViewRun.tells, if_pos presence]
  exact congrArg (fun value => some (asSlice value)) read

end Kept

namespace ViewRun

variable {before after : OrderedMap UserId Dict}

theorem lists_perm (same : (after.values.map dictJson).Perm (before.values.map dictJson)) (lists : Lists event before) :
    Lists event after := by
  obtain ⟨list, tells, perm⟩ := lists
  exact ⟨list, tells, perm.trans same.symm⟩

theorem tells_perm {piece : Section} (same : (after.values.map dictJson).Perm (before.values.map dictJson))
    (tells : piece.Tells before userId) : piece.Tells after userId := by
  cases piece with
  | values => exact tells
  | recipients => exact lists_perm same tells
  | enqueue => exact ⟨tells.1, lists_perm same tells.2⟩
  | _ => exact tells.elim

section

variable (str : Json → String)

variable (state : ViewRun) (place : Nat) (piece : Section)

theorem step_resume (next : nextPiece state.tasks place = some piece) :
    (state.step str (.resume place)).kept = (state.kept.perform str piece).1 ∧
      ∀ other, Pending (state.step str (.resume place)).tasks other ↔
        other ∈ (state.kept.perform str piece).2 ∨ Pending (others state.tasks place) other :=
  ⟨resume_state next, fun other => pending_after next⟩

variable {place piece}

def heard (userId : UserId) (items : List DispatchItem) : List (Option (List Json)) :=
  (items.filter fun item => userId ∈ item.recipientIds).filterMap fun item => tells item.event

theorem queued_concat {after : ViewRun} {items : List DispatchItem} (userId : UserId)
    (queue : after.kept.channel.dispatched = state.kept.channel.dispatched ++ items)
    (taken : after.taken = state.taken) (behind : state.taken ≤ state.kept.channel.dispatched.length) :
    after.queued userId = state.queued userId ++ heard userId items := by
  rw [queued, queue, taken, drop_append_of_le_length behind, filter_append, filterMap_append]
  rfl

-- After a section a tracked user is to be told of the store, is told by what was queued
-- last, or was covered before and still is.
theorem sound_resumed (next : nextPiece state.tasks place = some piece) (sound : state.Sound)
    (items : List DispatchItem) (name : (state.kept.perform str piece).1.channel.name = state.kept.channel.name)
    (connections : ∀ userId transport, (state.kept.perform str piece).1.channel.connections.get? userId = some transport →
      state.kept.channel.connections.get? userId = some transport)
    (dispatched : (state.kept.perform str piece).1.channel.dispatched = state.kept.channel.dispatched ++ items)
    (shut : (state.kept.perform str piece).1.channel.active = false ∨ .close ∈ (state.kept.perform str piece).2 →
      ∀ userId, state.kept.channel.connections.get? userId = none)
    (covers : ∀ userId transport, state.Connected userId transport →
      (state.kept.perform str piece).1.channel.presence.has userId = true →
        (∃ later, (later ∈ (state.kept.perform str piece).2 ∨ Pending (others state.tasks place) later) ∧
            later.Tells (state.kept.perform str piece).1.channel.presence userId) ∨
          (∃ list, (heard userId items).getLast? = some (some list) ∧
            list.Perm ((state.kept.perform str piece).1.channel.presence.values.map dictJson)) ∨
          heard userId items = [] ∧ ¬ piece.Tells state.kept.channel.presence userId ∧ state.kept.channel.presence.has userId = true ∧
            ((state.kept.perform str piece).1.channel.presence.values.map dictJson).Perm
              (state.kept.channel.presence.values.map dictJson)) : (state.step str (.resume place)).Sound := by
  obtain ⟨kept, pending⟩ := state.step_resume str place piece next
  have gone : ∀ userId, state.kept.channel.connections.get? userId = none →
      (state.kept.perform str piece).1.channel.connections.get? userId = none := by
    intro userId none
    cases found : (state.kept.perform str piece).1.channel.connections.get? userId with
    | none => rfl
    | some transport =>
      rw [connections userId transport found] at none
      cases none
  refine ⟨?_, ?_, ?_, ?_, ?_, ?_, ?_⟩
  · rw [kept, name]
    exact sound.named
  · intro ends userId
    rw [kept] at ends ⊢
    apply gone
    rw [pending] at ends
    rcases ends with inactive | closing | waiting
    · exact shut (.inl inactive) userId
    · exact shut (.inr closing) userId
    · exact sound.shut (.inr ((pending_before state.tasks place piece .close next).mpr (.inr waiting))) userId
  · intro userId transport found
    rw [kept] at found
    exact sound.keyed userId transport (connections userId transport found)
  · rw [kept, dispatched, length_append]
    exact sound.behind.trans (Nat.le_add_right _ _)
  · intro userId phase transport member carries
    obtain ⟨named, same⟩ := sound.carried userId phase transport member carries
    refine ⟨named, fun other found => ?_⟩
    rw [kept] at found
    exact same other (connections userId other found)
  · intro userId transport member
    rw [kept]
    exact gone userId (sound.asked userId transport member)
  · intro userId transport connected tracked
    simp only [Connected, kept] at connected
    rw [kept] at tracked
    have was : state.Connected userId transport := ⟨connections userId transport connected.1, connected.2⟩
    have queue : (state.step str (.resume place)).kept.channel.dispatched =
        state.kept.channel.dispatched ++ items := by
      rw [kept, dispatched]
    have awaits : (state.step str (.resume place)).awaited userId transport =
        (heard userId items).getLast?.or (state.awaited userId transport) := by
      rw [awaited, state.queued_concat userId queue rfl sound.behind, ← append_assoc, getLast?_append]
      rfl
    rw [Covered, awaits, kept]
    rcases covers userId transport was tracked with told | listed | before
    · obtain ⟨later, waits, tells⟩ := told
      exact .inl ⟨later, (pending later).mpr waits, tells⟩
    · obtain ⟨list, told, perm⟩ := listed
      refine .inr ⟨list, ?_, perm⟩
      rw [told, some_or]
    obtain ⟨unheard, silent, known, same⟩ := before
    rw [unheard, getLast?_nil, none_or]
    rcases sound.covered userId transport was known with told | listed
    · obtain ⟨teller, waits, tells⟩ := told
      rcases (pending_before state.tasks place piece teller next).mp waits with rfl | waits
      · exact absurd tells silent
      · exact .inl ⟨teller, (pending teller).mpr (.inr waits), tells_perm same tells⟩
    · obtain ⟨list, told, perm⟩ := listed
      exact .inr ⟨list, told, perm.trans same.symm⟩

theorem sound_spares (next : nextPiece state.tasks place = some piece)
    (sound : state.Sound) (spares : state.kept.channel.Spares (state.kept.perform str piece).1.channel)
    (succeeds : ∀ userId, state.kept.channel.presence.has userId = true →
      piece.Tells state.kept.channel.presence userId →
        ∃ later ∈ (state.kept.perform str piece).2, later.Tells state.kept.channel.presence userId) :
    (state.step str (.resume place)).Sound := by
  apply state.sound_resumed str next sound [] spares.name spares.connections
  · rw [spares.dispatched, append_nil]
  · intro ends userId
    rcases ends with inactive | closing
    · exact sound.shut (.inl (spares.active.symm.trans inactive)) userId
    · exact has_false_iff.mp (empty_iff.mp (Kept.closes str state.kept piece closing) userId)
  · intro userId transport _ tracked
    rw [spares.presence] at tracked ⊢
    by_cases tells : piece.Tells state.kept.channel.presence userId
    · obtain ⟨later, member, tells⟩ := succeeds userId tracked tells
      exact .inl ⟨later, .inl member, tells⟩
    · exact .inr (.inr ⟨rfl, tells, tracked, List.Perm.refl _⟩)

theorem sound_write (next : nextPiece state.tasks place = some piece)
    (sound : state.Sound) (presence : OrderedMap UserId Dict)
    (writes : (state.kept.perform str piece).1.channel = { state.kept.channel with presence := presence })
    (closes : .close ∉ (state.kept.perform str piece).2)
    (silent : ∀ userId, ¬ piece.Tells state.kept.channel.presence userId)
    (covers : ∀ userId transport, state.Connected userId transport → presence.has userId = true →
      state.kept.channel.presence.has userId = true ∧
          (presence.values.map dictJson).Perm (state.kept.channel.presence.values.map dictJson) ∨
        ∃ later, (later ∈ (state.kept.perform str piece).2 ∨ Pending (others state.tasks place) later) ∧
          later.Tells presence userId) :
    (state.step str (.resume place)).Sound := by
  apply state.sound_resumed str next sound []
  all_goals rw [writes]
  · exact fun _ _ found => found
  · exact (append_nil _).symm
  · exact fun ends => sound.shut (.inl (ends.resolve_right closes))
  · intro userId transport connected tracked
    rcases covers userId transport connected tracked with before | told
    · exact .inr (.inr ⟨rfl, silent userId, before⟩)
    · exact .inl told

theorem sound_close (next : nextPiece state.tasks place = some .close)
    (sound : state.Sound) : (state.step str (.resume place)).Sound := by
  have nobody : ∀ userId, state.kept.channel.connections.get? userId = none :=
    sound.shut (.inr ((pending_before state.tasks place .close .close next).mpr (.inl rfl)))
  have same : (state.kept.perform str .close).1.channel.name = state.kept.channel.name ∧
      (state.kept.perform str .close).1.channel.connections = state.kept.channel.connections ∧
      (state.kept.perform str .close).1.channel.dispatched = state.kept.channel.dispatched := by
    simp only [Kept.perform, Kept.onChannel, Channel.close]
    split <;> exact ⟨rfl, rfl, rfl⟩
  obtain ⟨name, connections, dispatched⟩ := same
  apply state.sound_resumed str next sound [] name
  · rw [connections]
    exact fun _ _ found => found
  · rw [dispatched, append_nil]
  · exact fun _ => nobody
  · intro userId transport connected _
    have found := connected.1
    rw [nobody] at found
    cases found

variable {recipientIds : List UserId}

theorem sound_enqueue (next : nextPiece state.tasks place = some (.enqueue event recipientIds)) (sound : state.Sound)
    (fits : state.Fits (others state.tasks place) (.enqueue event recipientIds)) :
    (state.step str (.resume place)).Sound := by
  cases active : state.kept.channel.active with
  | false =>
    have nobody := sound.shut (.inl active)
    have same : (state.kept.perform str (.enqueue event recipientIds)).1 = state.kept := by
      simp only [Kept.perform, Channel.enqueueDispatch, active, if_true]
      rfl
    apply state.sound_resumed str next sound []
    all_goals rw [same]
    · exact fun _ _ found => found
    · exact (append_nil _).symm
    · exact fun _ => nobody
    · intro userId transport connected _
      have found := connected.1
      rw [nobody] at found
      cases found
  | true =>
    have puts : (state.kept.perform str (.enqueue event recipientIds)).1.channel =
        { state.kept.channel with
          dispatched := state.kept.channel.dispatched ++ [⟨event, recipientIds⟩] } := by
      simp [Kept.perform, Kept.onChannel, Channel.enqueueDispatch, active]
    apply state.sound_resumed str next sound [⟨event, recipientIds⟩]
    all_goals rw [puts]
    · exact fun _ _ found => found
    · intro ends
      rcases ends with inactive | closing
      · exact sound.shut (.inl inactive)
      · cases closing
    · intro userId transport connected tracked
      by_cases heard : userId ∈ recipientIds ∧ tells event ≠ none
      · rcases fits heard.2 userId heard.1 transport connected tracked with lists | told
        · obtain ⟨list, told, perm⟩ := lists
          exact .inr (.inl ⟨list, by simp [ViewRun.heard, heard.1, told], perm⟩)
        · obtain ⟨teller, waits, tells⟩ := told
          exact .inl ⟨teller, .inr waits, tells⟩
      refine .inr (.inr ⟨?_, ?_, tracked, List.Perm.refl _⟩)
      · by_cases among : userId ∈ recipientIds
        · simp [ViewRun.heard, not_not.mp fun told => heard ⟨among, told⟩]
        · simp [ViewRun.heard, among]
      · intro told
        obtain ⟨among, _, told, _⟩ := told
        rw [told] at heard
        exact heard ⟨among, some_ne_none _⟩

theorem sound_announce
    (next : nextPiece state.tasks place = some piece) (sound : state.Sound) (presence : OrderedMap UserId Dict)
    (moment : Moment) (eventType : PresenceEventTypes) (userId : UserId) (changed : Dict) (rest : List Section)
    (writes : state.kept.perform str piece = (state.kept.write presence).announce moment eventType userId changed rest)
    (opens : .close ∉ rest) (silent : ∀ userId, ¬ piece.Tells state.kept.channel.presence userId) :
    (state.step str (.resume place)).Sound := by
  obtain ⟨event, announced, lists⟩ :=
    (state.kept.write presence).announce_lists sound.named
  rw [announced] at writes
  apply state.sound_write str next sound presence
  · rw [writes]
    rfl
  · rw [writes]
    intro member
    rcases mem_cons.mp member with same | later
    · cases same
    · exact opens later
  · exact silent
  · intro userId transport _ _
    refine .inr ⟨.recipients event (some eventType.subtype), .inl ?_, lists⟩
    rw [writes]
    exact mem_cons_self

theorem sound_quiet (next : nextPiece state.tasks place = some piece) (sound : state.Sound) (quiet : piece.Quiet)
    (succeeds : ∀ userId, state.kept.channel.presence.has userId = true →
      piece.Tells state.kept.channel.presence userId →
        ∃ later ∈ (state.kept.perform str piece).2, later.Tells state.kept.channel.presence userId) :
    (state.step str (.resume place)).Sound :=
  state.sound_spares str next sound (Kept.spares_perform quiet) succeeds

theorem sound_nothing (next : nextPiece state.tasks place = some piece) (sound : state.Sound)
    (same : (state.kept.perform str piece).1 = state.kept)
    (silent : ∀ userId, ¬ piece.Tells state.kept.channel.presence userId) :
    (state.step str (.resume place)).Sound := by
  apply state.sound_spares str next sound
  · rw [same]
    exact state.kept.channel.spares_refl
  · intro userId _ tells
    exact absurd tells (silent userId)

theorem sound_resume (next : nextPiece state.tasks place = some piece) (sound : state.Sound)
    (fits : state.Fits (others state.tasks place) piece) : (state.step str (.resume place)).Sound := by
  cases piece with
  | track userId data moment =>
    cases known : state.kept.channel.presence.has userId with
    | true =>
      apply state.sound_nothing str next sound
      · simp [Kept.perform, known]
      · exact fun _ tells => tells
    | false =>
      apply state.sound_announce str next sound (state.kept.channel.presence.set userId data) moment .join
        userId data []
      · simp [Kept.perform, known]
      · exact not_mem_nil
      · exact fun _ tells => tells
  | update userId data moment =>
    cases known : state.kept.channel.presence.has userId with
    | true =>
      apply state.sound_announce str next sound (state.kept.channel.presence.set userId data) moment .update
        userId data []
      · simp [Kept.perform, known]
      · exact not_mem_nil
      · exact fun _ tells => tells
    | false =>
      apply state.sound_nothing str next sound
      · simp [Kept.perform, known]
      · exact fun _ tells => tells
  | upsert userId data moment =>
    apply state.sound_announce str next sound (state.kept.channel.presence.set userId data) moment
      (if state.kept.channel.presence.has userId then .update else .join) userId data []
    · rfl
    · exact not_mem_nil
    · exact fun _ tells => tells
  | untrack userId removal moment =>
    cases found : state.kept.channel.presence.get? userId with
    | none =>
      apply state.sound_nothing str next sound
      · simp [Kept.perform, found]
      · exact fun _ tells => tells
    | some old =>
      apply state.sound_announce str next sound (state.kept.channel.presence.delete userId) moment .leave
        userId old (removal.toList.map (.left userId))
      · simp [Kept.perform, found]
      · simp
      · exact fun _ tells => tells
  | enqueue => exact state.sound_enqueue str next sound fits
  | close => exact state.sound_close str next sound
  | setRemote userId presence =>
    apply state.sound_write str next sound (state.kept.channel.presence.set userId presence)
    · rfl
    · exact not_mem_nil
    · exact fun _ tells => tells
    · intro other transport connected tracked
      refine (fits other transport connected tracked).imp_right ?_
      intro told
      obtain ⟨later, waits, tells⟩ := told
      exact ⟨later, .inr waits, tells⟩
  | discard userId =>
    cases known : state.kept.channel.presence.has userId with
    | false =>
      apply state.sound_nothing str next sound
      · simp [Kept.perform, known]
      · exact fun _ tells => tells
    | true =>
      apply state.sound_write str next sound (state.kept.channel.presence.delete userId)
      · simp only [Kept.perform, known, if_true]
        rfl
      · exact not_mem_nil
      · exact fun _ tells => tells
      · intro other transport connected tracked
        refine (fits other transport connected tracked).imp_right ?_
        intro told
        obtain ⟨later, waits, tells⟩ := told
        exact ⟨later, .inr waits, tells⟩
  | values =>
    apply state.sound_quiet str next sound trivial
    intro userId _ tells
    obtain ⟨presence, _, payload⟩ := tells
    exact ⟨_, mem_cons_self, Kept.snapshot_lists presence payload⟩
  | recipients event =>
    apply state.sound_quiet str next sound trivial
    intro userId tracked lists
    have among : userId ∈ state.kept.channel.presence.keys := mem_keys.mpr tracked
    have somebody : state.kept.channel.presence.keys.isEmpty = false := by
      rw [Bool.eq_false_iff, Ne, List.isEmpty_iff]
      intro nobody
      rw [nobody] at among
      exact not_mem_nil among
    refine ⟨.enqueue event state.kept.channel.presence.keys, ?_, among, lists⟩
    simp only [Kept.perform, somebody, Bool.false_eq_true, if_false]
    exact mem_append_left _ mem_cons_self
  | _ => exact state.sound_quiet str next sound trivial fun _ _ tells => absurd tells id

theorem sound_spawn {task : List Section} (sound : state.Sound)
    (closes : .close ∉ task) : ({ state with tasks := state.tasks ++ [task] } : ViewRun).Sound := by
  refine ⟨sound.named, ?_, sound.keyed, sound.behind, sound.carried, sound.asked, ?_⟩
  · intro shut
    apply sound.shut
    rw [pending_concat] at shut
    rcases shut with inactive | waiting | closing
    · exact .inl inactive
    · exact .inr waiting
    · exact absurd closing closes
  · intro userId transport connected tracked
    refine (sound.covered userId transport connected tracked).imp_left ?_
    intro told
    obtain ⟨teller, waits, tells⟩ := told
    exact ⟨teller, (pending_concat _).mpr (.inl waits), tells⟩

theorem sound_ends {serial : Nat} (sound : state.Sound) :
    ({ state with ended := serial :: state.ended } : ViewRun).Sound := by
  refine ⟨sound.named, sound.shut, sound.keyed, sound.behind, sound.carried, sound.asked, ?_⟩
  intro userId transport connected tracked
  exact sound.covered userId transport ⟨connected.1, fun ended => connected.2 (mem_cons_of_mem _ ended)⟩ tracked

theorem sound_take (sound : state.Sound) : state.take.Sound := by
  rw [take]
  split
  · rename_i item none found
    split
    · exact sound
    obtain ⟨inside, same⟩ := List.getElem?_eq_some_iff.mp found
    refine ⟨sound.named, sound.shut, sound.keyed, inside, ?_, ?_, ?_⟩
    · intro userId phase transport member carries
      obtain ⟨_, _, same⟩ := mem_map.mp member
      cases same
      cases carries
    · intro userId transport member
      obtain ⟨_, _, same⟩ := mem_map.mp member
      cases same
    · intro userId transport connected tracked
      refine (sound.covered userId transport connected tracked).imp_right ?_
      intro listed
      obtain ⟨list, told, perm⟩ := listed
      refine ⟨list, ?_, perm⟩
      rw [← told]
      have ids : (item.recipientIds.map fun userId => (userId, DeliverPhase.connection)).map Prod.fst =
          item.recipientIds := by
        rw [List.map_map]
        exact map_id _
      have queue : state.queued userId = (if userId ∈ item.recipientIds then (tells item.event).toList else []) ++
          ((state.kept.channel.dispatched.drop (state.taken + 1)).filter
            fun item => userId ∈ item.recipientIds).filterMap fun item => tells item.event := by
        rw [queued, drop_eq_getElem_cons inside, same]
        by_cases among : userId ∈ item.recipientIds
        · rw [if_pos among, filter_cons_of_pos (by simpa using among)]
          cases heard : tells item.event <;> simp [heard]
        · rw [if_neg among, filter_cons_of_neg (by simpa using among)]
          rfl
      rw [awaited, awaited, queue]
      simp only [delivering, ids, none, map_nil, not_mem_nil, if_false, append_nil, queued, bind_some, append_assoc]
      rfl
  · exact sound

variable {phase : DeliverPhase} {found : Bool}

theorem next_phase_none (sound : state.Sound) (member : (userId, phase) ∈ state.deliveries) {transport : Transport}
    (connected : state.Connected userId transport) (tracked : state.kept.channel.presence.has userId = true)
    (dropped : state.nextPhase userId found phase = none) : phase = .send transport := by
  cases phase with
  | connection =>
    simp only [nextPhase, connected.1, bind_some, isActive, decide_eq_true connected.2, if_true] at dropped
    cases dropped
  | known | tracked => cases dropped
  | presence =>
    simp only [nextPhase, tracked, if_true] at dropped
    cases dropped
  | asked other =>
    have absent := connected.1
    rw [sound.asked userId other member] at absent
    cases absent
  | send other =>
    have same := (sound.carried userId (.send other) other member rfl).2 transport connected.1
    rw [same]

variable {next : DeliverPhase}

theorem next_phase_carries (goes : state.nextPhase userId found phase = some next) {transport : Transport}
    (carries : next.transport = some transport) :
    phase.transport = some transport ∨ state.kept.channel.connections.get? userId = some transport := by
  cases phase with
  | connection =>
    simp only [nextPhase, bind_eq_some_iff] at goes
    obtain ⟨_, connected, goes⟩ := goes
    split at goes
    · cases goes
      exact .inr (connected.trans carries)
    · cases goes
  | known | tracked =>
    simp only [nextPhase, some.injEq] at goes
    subst goes
    split at carries <;> exact .inl carries
  | presence | asked =>
    simp only [nextPhase] at goes
    split at goes
    · cases goes
      exact .inl carries
    · cases goes
  | send => cases goes

theorem next_phase_asked {transport : Transport} (goes : state.nextPhase userId found phase = some (.asked transport)) :
    state.kept.channel.connections.get? userId = none := by
  cases phase with
  | connection =>
    simp only [nextPhase, bind_eq_some_iff] at goes
    obtain ⟨other, _, goes⟩ := goes
    split at goes <;> cases goes
  | known =>
    simp only [nextPhase, some.injEq] at goes
    split at goes
    · cases goes
    · rename_i absent
      exact has_false_iff.mp (Bool.eq_false_iff.mpr absent)
  | tracked =>
    simp only [nextPhase, some.injEq] at goes
    split at goes <;> cases goes
  | presence other | asked other =>
    simp only [nextPhase] at goes
    split at goes <;> cases goes
  | send => cases goes

variable {deliveries : List (UserId × DeliverPhase)}

theorem mem_erased {place : Nat} {other : UserId} (found : deliveries[place]? = some (userId, phase))
    (apart : other ≠ userId) : other ∈ (deliveries.eraseIdx place).map Prod.fst ↔ other ∈ deliveries.map Prod.fst := by
  obtain ⟨inside, same⟩ := List.getElem?_eq_some_iff.mp found
  have split : deliveries = deliveries.take place ++ (userId, phase) :: deliveries.drop (place + 1) := by
    rw [← same, getElem_cons_drop inside, take_append_drop]
  rw [eraseIdx_eq_take_drop_succ]
  conv_rhs => rw [split]
  simp only [map_append, map_cons, mem_append, mem_cons]
  constructor
  · intro held
    exact held.imp_right .inr
  · intro held
    rcases held with before | here | after
    · exact .inl before
    · exact absurd here apart
    · exact .inr after

theorem names_set {place : Nat} (found : deliveries[place]? = some (userId, phase)) :
    (deliveries.set place (userId, next)).map Prod.fst = deliveries.map Prod.fst := by
  have here : (deliveries.map Prod.fst)[place]? = some userId := by
    rw [getElem?_map, found]
    rfl
  obtain ⟨inside, same⟩ := List.getElem?_eq_some_iff.mp here
  rw [map_set]
  rw [← same]
  exact set_getElem_self inside

theorem mem_advance (deliveries : List (UserId × DeliverPhase)) (place : Nat) (userId : UserId)
    (goes : Option DeliverPhase) (other : UserId) (after : DeliverPhase)
    (held : (other, after) ∈ advance deliveries place userId goes) :
    (other, after) ∈ deliveries ∨ other = userId ∧ goes = some after := by
  cases goes with
  | none => exact .inl (mem_of_mem_eraseIdx held)
  | some =>
    rcases mem_or_eq_of_mem_set held with before | same
    · exact .inl before
    · cases same
      exact .inr ⟨rfl, rfl⟩

theorem told_sent (deliveries : List (UserId × DeliverPhase)) (extra : List (Transport × Event))
    (transport : Transport) :
    ({ state with deliveries := deliveries, sent := state.sent ++ extra } : ViewRun).told transport =
      state.told transport ++
        (extra.filter fun sending => sending.1 = transport).filterMap fun sending => tells sending.2 := by
  simp [told]

theorem covered_unsent {extra : List (Transport × Event)} {transport : Transport}
    (unsent : (extra.filter fun sending => sending.1 = transport) = [])
    (still : userId ∈ deliveries.map Prod.fst ↔ userId ∈ state.deliveries.map Prod.fst)
    (covered : state.Covered userId transport) :
    ({ state with deliveries := deliveries, sent := state.sent ++ extra } : ViewRun).Covered userId transport := by
  refine covered.imp_right ?_
  intro listed
  obtain ⟨list, told, perm⟩ := listed
  refine ⟨list, ?_, perm⟩
  rw [← told]
  simp only [awaited, told_sent, unsent, filterMap_nil, append_nil, delivering, still]
  rfl

theorem tells_delivery (event : Event) : tells (deliveryEvent event) = tells event := rfl

theorem covered_sent {transport : Transport} (connected : state.Connected userId transport)
    (here : userId ∈ state.deliveries.map Prod.fst) (covered : state.Covered userId transport) :
    ({ state with deliveries := deliveries, sent := state.sent ++ state.sending (.send transport) } : ViewRun).Covered userId
      transport := by
  refine covered.imp_right ?_
  intro listed
  obtain ⟨list, told, perm⟩ := listed
  refine ⟨list, ?_, perm⟩
  rw [← told]
  have sends : ((state.sending (.send transport)).filter fun sending => sending.1 = transport).filterMap
      (fun sending => tells sending.2) = (state.current.bind tells).toList := by
    simp only [sending, isActive, decide_eq_true connected.2, if_true]
    cases state.current with
    | none => rfl
    | some event => cases heard : tells event <;> simp [tells_delivery, heard]
  simp only [awaited, told_sent, sends, delivering, if_pos here, append_assoc, getLast?_append, queued]
  split
  · cases state.current.bind tells <;> simp
  · simp

theorem sound_deliver (sound : state.Sound) : (state.deliver place found).Sound := by
  rw [deliver]
  cases there : state.deliveries[place]? with
  | none => exact sound
  | some delivery =>
    obtain ⟨userId, phase⟩ := delivery
    have member : (userId, phase) ∈ state.deliveries := mem_of_getElem? there
    dsimp only
    have later := mem_advance state.deliveries place userId (state.nextPhase userId found phase)
    refine ⟨sound.named, sound.shut, sound.keyed, sound.behind, ?_, ?_, ?_⟩
    · intro other after transport held carries
      rcases later other after held with before | ⟨rfl, goes⟩
      · exact sound.carried other after transport before carries
      rcases state.next_phase_carries goes carries with before | connected
      · exact sound.carried other phase transport member before
      refine ⟨sound.keyed other transport connected, fun third reads => ?_⟩
      rw [connected] at reads
      exact (some.inj reads).symm
    · intro other transport held
      rcases later other _ held with before | ⟨rfl, goes⟩
      · exact sound.asked other transport before
      · exact state.next_phase_asked goes
    · intro other transport connected tracked
      have covered := sound.covered other transport connected tracked
      have unsent : phase ≠ .send transport → ((state.sending phase).filter fun sending => sending.1 = transport) = [] := by
        intro apart
        cases phase with
        | send =>
          simp only [sending]
          split
          · cases state.current with
            | none => rfl
            | some =>
              refine filter_cons_of_neg ?_
              simp only [decide_eq_true_eq]
              intro same
              exact apart (congrArg DeliverPhase.send same)
          · rfl
        | _ => rfl
      by_cases same : other = userId
      · subst same
        cases goes : state.nextPhase other found phase with
        | none =>
          cases state.next_phase_none sound member connected tracked goes
          exact state.covered_sent connected (mem_map_of_mem (f := Prod.fst) member) covered
        | some =>
          refine state.covered_unsent (unsent ?_) ?_ covered
          · intro sends
            rw [sends] at goes
            cases goes
          · rw [advance, names_set there]
      · refine state.covered_unsent (unsent ?_) ?_ covered
        · intro sends
          rw [sends] at member
          have mine := (sound.carried userId _ transport member rfl).1
          exact same ((sound.keyed other transport connected.1).symm.trans mine)
        · cases state.nextPhase userId found phase with
          | none => exact mem_erased there same
          | some => rw [advance, names_set there]

theorem merge_opens : .close ∉ Kept.mergeSections str event := by
  rw [Kept.mergeSections]
  repeat' split
  all_goals simp

theorem dispatch_opens : .close ∉ Kept.dispatchSections str moment event := by
  rw [Kept.dispatchSections]
  repeat' split
  all_goals first | exact merge_opens str | simp

theorem user_opens {user : Json} : .close ∉ Kept.userSections nodeId userId user := by
  rw [Kept.userSections]
  split <;> simp

theorem receive_opens {channel : Channel} {data : Json} : .close ∉ Kept.receiveSections str channel moment data := by
  rw [Kept.receiveSections]
  split
  · exact not_mem_nil
  rename_i raw _
  split
  · split
    · exact not_mem_nil
    · rename_i nodeId _ kind _ _ _ _
      cases kind with
      | stateResponse =>
        intro closing
        obtain ⟨_, _, closing⟩ := mem_flatMap.mp closing
        exact user_opens closing
      | userJoined => exact user_opens
      | userLeft =>
        simp only [Kept.handlerSections]
        split <;> simp
      | stateRequest | userGetRequest | userGetResponse | nodeHeartbeat => simp [Kept.handlerSections]
      | _ =>
        simp only [Kept.handlerSections]
        cases eventFromEnvelope str moment.uuid raw with
        | none => exact not_mem_nil
        | some => exact dispatch_opens str
  · exact not_mem_nil

theorem sound_step {label : ViewStep} (sound : state.Sound) (inTurn : state.InTurn label) :
    (state.step str label).Sound := by
  cases label with
  | call call =>
    apply state.sound_spawn sound
    cases call <;> simp [PresenceCall.first]
  | receive => exact state.sound_spawn sound (receive_opens str)
  | resume place =>
    cases next : nextPiece state.tasks place with
    | none =>
      have same : state.step str (.resume place) = state := by
        simp [step, resume_idle next]
      rw [same]
      exact sound
    | some piece => exact state.sound_resume str next sound (inTurn piece next)
  | connectionEnds => exact state.sound_ends sound
  | take => exact state.sound_take sound
  | deliver => exact state.sound_deliver sound
  | cancel =>
    simp only [step]
    split
    · rename_i inactive
      have nobody := sound.shut (.inl inactive)
      refine ⟨sound.named, sound.shut, sound.keyed, sound.behind, ?_, ?_, ?_⟩
      · intro userId phase transport member
        cases member
      · intro userId transport member
        cases member
      · intro userId transport connected _
        have found := connected.1
        rw [nobody] at found
        cases found
    · exact sound

variable {transports : List Transport}

theorem sound_start {name endpointPath : String} {pubsub : Bool} (named : name ≠ "") :
    (start name endpointPath nodeId pubsub transports).Sound := by
  have started : ({ Channel.new name endpointPath nodeId pubsub with active := true } : Channel).Spares
      (Channel.new name endpointPath nodeId pubsub).start := Channel.publish_spares _
  refine ⟨?_, ?_, ?_, Nat.zero_le _, ?_, ?_, ?_⟩
  · intro none
    exact named (started.name.symm.trans none)
  · intro shut
    rcases shut with inactive | closing
    · rw [start, started.active] at inactive
      cases inactive
    · obtain ⟨_, member, _⟩ := closing
      cases member
  · intro userId transport found
    refine foldl_set_keyed Transport.id transports .empty ?_ found
    intro other transport none
    cases none
  · intro userId phase transport member
    cases member
  · intro userId transport member
    cases member
  · intro userId transport _ tracked
    have empty : (start name endpointPath nodeId pubsub transports).kept.channel.presence = .empty := started.presence
    rw [empty] at tracked
    cases tracked

end

def stringText : Json → String
  | .string text => text
  | _ => ""

theorem uuid_drawn : "event-1" ≠ "" := by decide

def drawn : Moment := ⟨"event-1", true, uuid_drawn⟩

def online : Dict := OrderedMap.empty.set "status" (.string "online")

def member : Transport := ⟨"u", 0⟩

def trackedAlone : List ViewStep :=
  [.call (.trackPresence "u" online drawn)] ++ List.replicate 4 (.resume 0) ++ [.take] ++
    List.replicate 5 (.deliver 0 false)

def fromNode (kind : MsgType) (extra : List (String × Json)) : ViewStep :=
  .receive drawn (distributedBytes ⟨"message-1", 0⟩ kind "node-2" "ws" "room" extra)

def strangerLeaves : List ViewStep :=
  trackedAlone ++ [fromNode .presenceUpdate [("userId", .string "w"), ("presence", dictJson online)]] ++
    List.replicate 5 (.resume 1) ++ [.take] ++ List.replicate 6 (.deliver 0 false) ++
    [fromNode .userLeft [("userId", .string "w")]] ++ List.replicate 4 (.resume 2)

end ViewRun

end PondSocket.Python
