import PondSocket.Js.ChannelTables

namespace PondSocket.Js

open Library

structure Voice where
  endpointId : String
  name : String
  nodeId : NodeId
  said : List DistributedMessage

def Voice.say (voice : Voice) (bodies : List MessageBody) : Voice :=
  { voice with said := voice.said ++ bodies.map fun body => ⟨voice.endpointId, voice.name, none, body⟩ }

theorem Voice.say_nothing {voice : Voice} : voice.say [] = voice := by
  simp [say]

theorem Voice.say_say (voice : Voice) (first second : List MessageBody) :
    (voice.say first).say second = voice.say (first ++ second) := by
  simp [say]

def Effect.broadcast? : Effect → Option DistributedMessage
  | .broadcast message => some message
  | _ => none

namespace ChannelEngine

variable (engine : ChannelEngine) (userId : UserId) (now : Nat)

variable (action : PresenceEngine → RequestId → Except Thrown (PresenceEngine × InternalChannelEvent))
  (sourceNodeId : Option NodeId)

def voice (engine : ChannelEngine) : Voice where
  endpointId := engine.endpointId
  name := engine.name
  nodeId := engine.nodeId
  said := engine.effects.filterMap Effect.broadcast?

def online (engine : ChannelEngine) : Bool := engine.backend.isSome && !engine.closed

def accepts (engine : ChannelEngine) (sender : UserId) (recipient : ChannelReceivers) : Bool :=
  (engine.assignsCache.has sender || sender == SystemSender.channel) &&
    (engine.getUsersFromRecipients recipient sender).isOk

-- What each operation of an engine with a backend tells the other nodes.
def tells (engine : ChannelEngine) (op : EngineOp) : List MessageBody :=
  match op with
  | .addUser userId assigns _ _ =>
    if engine.assignsCache.has userId || engine.publisher.isClosed then []
    else if engine.assignsCache.isEmpty && engine.distributedReady.isNone then
      [.stateRequest engine.nodeId, .userJoined userId (some .empty) assigns]
    else [.userJoined userId (some .empty) assigns]
  | .sendMessage sender recipient _ event payload requestId =>
    if engine.accepts sender recipient then [.userMessage sender event payload requestId (some recipient)] else []
  | .handlerNotFound userId requestId failure =>
    if engine.accepts SystemSender.channel (.users [userId]) then
      [.userMessage SystemSender.channel ErrorTypes.handlerNotFound (handlerNotFoundPayload failure) requestId
        (some (.users [userId]))]
    else []
  | .trackPresence userId presence =>
    if engine.getPresence.has userId then [] else [.presenceUpdate userId (some presence)]
  | .updatePresence userId presence =>
    if engine.getPresence.has userId then [.presenceUpdate userId (some presence)] else []
  | .upsertPresence userId presence => [.presenceUpdate userId (some presence)]
  | .removePresence userId => if engine.getPresence.has userId then [.presenceRemoved userId] else []
  | .updateAssigns userId assigns =>
    match engine.assignsCache.get? userId with
    | none => []
    | some current => [.assignsUpdate userId (some (current.merge assigns)) none .undefined]
  | .kickUser userId reason =>
    if engine.assignsCache.has userId then
      [.userMessage SystemSender.channel "kicked_out" (kickedOutPayload reason) engine.uuid (some (.users [userId])),
       .userMessage SystemSender.channel "kicked" (kickedPayload userId reason) engine.drawUuid.uuid (some .allUsers),
       .evictUser userId reason]
    else []
  | .requestUserRemoval userId => [.userRemove userId]
  | .getUserAcrossNodes userId => [.userGetRequest userId engine.uuid engine.nodeId]
  | .destroy reason =>
    [.userMessage SystemSender.channel "destroyed" (destroyedPayload reason) engine.uuid (some .allUsers)]
  | .removeUser userId skip => if engine.tables.knows userId && !skip then [.userLeft userId] else []
  | .runReadyCallback =>
    if engine.distributedReady = some true ∧ 0 < engine.readyCallbacks then [.stateRequest engine.nodeId] else []
  | .receive message =>
    match message.body with
    | .stateRequest _ => if engine.assignsCache.isEmpty then [] else [.stateResponse (some engine.stateUsers)]
    | .userRemove userId =>
      if engine.userSubscriptions.has userId && engine.tables.knows userId then [.userLeft userId] else []
    | .userGetRequest userId requestId _ =>
      if engine.userSubscriptions.has userId then
        [.userGetResponse userId requestId (some ((engine.assignsCache.get? userId).getD .empty))
          (some ((engine.presenceOf userId).getD .empty))]
      else []
    | _ => []
  | _ => []

@[simp] theorem voice_publish {event : InternalChannelEvent} :
    (engine.publish event).voice = engine.voice := by
  simp [voice, publish, Effect.broadcast?]

@[simp] theorem voice_emit {effect : Effect} (silent : effect.broadcast? = none) :
    (engine.emit effect).voice = engine.voice := by
  simp [voice, emit, silent]

theorem voice_broadcast (body : MessageBody) :
    (engine.broadcastToNodes body).voice = engine.voice.say (if engine.online then [body] else []) := by
  unfold broadcastToNodes online
  by_cases spoken : engine.backend.isSome = true ∧ engine.closed = false
  · rw [if_pos spoken, if_pos (by simp [spoken.1, spoken.2])]
    simp [voice, emit, Voice.say, Effect.broadcast?]
  have quiet : ¬ (engine.backend.isSome && !engine.closed) = true := by
    simpa using spoken
  rw [if_neg spoken, if_neg quiet, Voice.say_nothing]

theorem online_of_tables (engine next : ChannelEngine) (backend : next.tables.backend = engine.tables.backend)
    (closed : next.tables.closed = engine.tables.closed) : next.online = engine.online := by
  change (next.tables.backend.isSome && !next.tables.closed) = _
  rw [backend, closed]
  rfl

theorem online_same_tables {engine : ChannelEngine} (next : ChannelEngine) (same : next.tables = engine.tables) :
    next.online = engine.online :=
  online_of_tables engine next (congrArg Tables.backend same) (congrArg Tables.closed same)

variable {payload : PondMessage} {requestId : RequestId} {event : String}

theorem accepts_all : engine.accepts SystemSender.channel .allUsers = true := by
  simp [accepts, getUsersFromRecipients, Except.toBool]

theorem accepts_one :
    engine.accepts SystemSender.channel (.users [userId]) = engine.assignsCache.has userId := by
  have member : engine.assignsCache.has userId = true ↔ userId ∈ engine.users :=
    OrderedMap.mem_keys.symm
  cases listed : engine.assignsCache.has userId with
  | true =>
    have among : userId ∈ engine.users := member.mp listed
    simp [accepts, getUsersFromRecipients, among, Except.toBool]
  | false =>
    have missing : userId ∉ engine.users := fun among => Bool.false_ne_true (listed.symm.trans (member.mpr among))
    simp [accepts, getUsersFromRecipients, missing, Except.toBool]

theorem uuid_send_fresh (sender : UserId) (recipient : ChannelReceivers)
    (action : ServerActions) (event : String) (payload : PondMessage) :
    (engine.sendFresh sender recipient action event payload).engine.uuid = engine.drawUuid.uuid := by
  unfold sendFresh sendMessage
  split
  · rfl
  split
  · rfl
  · dsimp only [broadcastToNodes]
    split <;> rfl

variable {next : ChannelEngine → Outcome} {outcome : Outcome}

theorem and_then_passed (passed : outcome.thrown = none) : outcome.andThen next = next outcome.engine := by
  unfold Outcome.andThen
  rw [passed]

theorem and_then_failed (failed : outcome.thrown.isSome = true) : outcome.andThen next = outcome := by
  obtain ⟨_, eq⟩ := Option.isSome_iff_exists.mp failed
  unfold Outcome.andThen
  rw [eq]

variable {userId}

theorem send_one_passed {action : ServerActions} (listed : engine.assignsCache.has userId = true) :
    (engine.sendFresh SystemSender.channel (.users [userId]) action event payload).thrown = none := by
  rw [← Option.not_isSome_iff_eq_none, send_one_thrown, listed]
  simp

theorem send_all_passed (action : ServerActions) (event : String) (payload : PondMessage) :
    (engine.sendFresh SystemSender.channel .allUsers action event payload).thrown = none :=
  send_channel_thrown engine.drawUuid .allUsers action event payload engine.uuid (by simp) (by simp)

end ChannelEngine

end PondSocket.Js
