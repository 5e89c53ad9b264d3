import PondSocket.Js.Tables

namespace PondSocket.Js

open Library List OrderedMap Tables

namespace ChannelEngine

variable (engine : ChannelEngine) (userId : UserId) (now : Nat)

variable (sourceNodeId : Option NodeId)

def tables (engine : ChannelEngine) : Tables where
  backend := engine.backend
  assignsCache := engine.assignsCache
  presenceCache := engine.getPresence
  userSubscriptions := engine.userSubscriptions
  publisher := engine.publisher
  nodeUsers := engine.nodeUsers
  nodeLastSeen := engine.nodeLastSeen
  heartbeatSubscription := engine.heartbeatSubscription
  staleNodeTimer := engine.staleNodeTimer
  distributedSubscription := engine.distributedSubscription
  distributedReady := engine.distributedReady
  readyCallbacks := engine.readyCallbacks
  closed := engine.closed

def act (engine : ChannelEngine) (now : Nat) (op : EngineOp) : ChannelEngine :=
  match op with
  | .addUser userId assigns onMessage requestId => (engine.addUser userId assigns onMessage requestId).engine
  | .sendMessage sender recipient action event payload requestId =>
    (engine.sendMessage sender recipient action event payload requestId).engine
  | .broadcastMessage userId event requestId payload =>
    (engine.broadcastMessage userId event requestId payload).engine
  | .handlerNotFound userId requestId failure => (engine.handlerNotFound userId requestId failure).engine
  | .trackPresence userId presence => (engine.trackPresence userId presence).engine
  | .updatePresence userId presence => (engine.updatePresence userId presence).engine
  | .upsertPresence userId presence => (engine.upsertPresence userId presence).engine
  | .removePresence userId => (engine.removePresence userId).engine
  | .updateAssigns userId assigns => (engine.updateAssigns userId assigns).engine
  | .kickUser userId reason => (engine.kickUser userId reason).engine
  | .requestUserRemoval userId => engine.requestUserRemoval userId
  | .getUserAcrossNodes userId => engine.getUserAcrossNodes userId
  | .userGetTimeout requestId => engine.userGetTimeout requestId
  | .destroy reason => engine.destroy reason
  | .close => engine.close
  | .removeUser userId skipDistributedBroadcast => engine.removeUser userId skipDistributedBroadcast
  | .distributedSubscribed => engine.distributedSubscribed
  | .distributedRejected => engine.distributedRejected
  | .runReadyCallback => engine.runReadyCallback
  | .receive message => engine.handleDistributedMessage now message
  | .heartbeat nodeId => engine.heartbeat now nodeId
  | .staleNodeTick => engine.staleNodeTick now

def stepAt (engine : ChannelEngine) (label : Nat × EngineOp) : ChannelEngine := engine.act label.1 label.2

theorem get_or_create_cache :
    engine.getOrCreatePresenceEngine.presenceCache = engine.getPresence := by
  unfold getOrCreatePresenceEngine getPresence
  cases engine.presenceEngine <;> rfl

theorem presence_of_get :
    engine.presenceOf userId = engine.getPresence.get? userId := by
  unfold presenceOf getPresence
  cases engine.presenceEngine <;> rfl

@[simp] theorem tables_emit (effect : Effect) :
    (engine.emit effect).tables = engine.tables := rfl

@[simp] theorem tables_publish (event : InternalChannelEvent) :
    (engine.publish event).tables = engine.tables := rfl

variable {body : MessageBody}

@[simp] theorem tables_broadcast : (engine.broadcastToNodes body).tables = engine.tables := by
  unfold broadcastToNodes
  split <;> rfl

variable {requestId : RequestId}

@[simp] theorem tables_send {sender : UserId} {recipient : ChannelReceivers} {action : ServerActions} {event : String}
    {payload : PondMessage} :
    (engine.sendMessage sender recipient action event payload requestId).engine.tables = engine.tables := by
  unfold sendMessage
  split
  · rfl
  split
  · rfl
  · rw [tables_broadcast, tables_publish]

@[simp] theorem tables_send_fresh (sender : UserId) (recipient : ChannelReceivers)
    (action : ServerActions) (event : String) (payload : PondMessage) :
    (engine.sendFresh sender recipient action event payload).engine.tables = engine.tables :=
  tables_send engine.drawUuid

theorem tables_presence_action
    (action : PresenceEngine → RequestId → Except Thrown (PresenceEngine × InternalChannelEvent)) :
    (engine.presenceAction action).engine.tables = { engine.tables with
      presenceCache := match action engine.getOrCreatePresenceEngine engine.uuid with
        | .error _ => engine.getPresence
        | .ok (next, _) => next.presenceCache } := by
  dsimp only [presenceAction]
  cases action engine.getOrCreatePresenceEngine engine.uuid with
  | error =>
    exact congrArg (fun cache => { engine.tables with presenceCache := cache }) (get_or_create_cache engine)
  | ok => rfl

theorem presence_action_thrown
    (action : PresenceEngine → RequestId → Except Thrown (PresenceEngine × InternalChannelEvent)) :
    (engine.presenceAction action).thrown =
      match action engine.getOrCreatePresenceEngine engine.uuid with
      | .error thrown => some thrown
      | .ok _ => none := by
  dsimp only [presenceAction]
  cases action engine.getOrCreatePresenceEngine engine.uuid <;> rfl

variable {presence : PondPresence}

theorem tables_upsert :
    (engine.presenceAction fun inner requestId => inner.upsertPresence requestId userId (some presence)).engine.tables =
      engine.tables.present userId presence := by
  obtain ⟨_, done⟩ :=
    PresenceEngine.upsert_presence_total engine.getOrCreatePresenceEngine
  rw [tables_presence_action, done, get_or_create_cache]
  rfl

theorem tables_safe_remove :
    (engine.safeRemovePresence userId).tables = engine.tables.unpresent userId := by
  unfold safeRemovePresence
  cases known : engine.getPresence.has userId with
  | true =>
    have created : engine.presenceEngine.isSome = true := by
      unfold getPresence at known
      cases current : engine.presenceEngine with
      | none => simp [current] at known
      | some => rfl
    obtain ⟨_, done⟩ := engine.getOrCreatePresenceEngine.remove_presence_present engine.uuid userId
      (by rw [get_or_create_cache]; exact known)
    rw [if_pos created, tables_presence_action, done, get_or_create_cache]
    rfl
  | false =>
    have unchanged : engine.tables.unpresent userId = engine.tables := by
      simp [unpresent, tables, delete_absent known]
    rw [unchanged]
    split
    · obtain ⟨_, failed⟩ := engine.getOrCreatePresenceEngine.remove_presence_absent engine.uuid userId
        (by rw [get_or_create_cache]; exact known)
      rw [tables_presence_action, failed]
      rfl
    · rfl

theorem tables_forget :
    (engine.forget userId).tables = engine.tables.forget userId := by
  unfold forget
  rw [tables_safe_remove]
  rfl

theorem tables_forget_all (userIds : List UserId) :
    (userIds.foldl forget engine).tables = userIds.foldl Tables.forget engine.tables := by
  induction userIds generalizing engine with
  | nil => rfl
  | cons _ _ ih => rw [foldl_cons, foldl_cons, ih, tables_forget]

theorem tables_unsubscribe :
    (engine.unsubscribeUser userId).tables = engine.tables.unsubscribe userId := by
  have same : engine.tables.userSubscriptions = engine.userSubscriptions := rfl
  simp only [unsubscribeUser, Tables.unsubscribe]
  rw [same]
  cases engine.userSubscriptions.get? userId <;> rfl

theorem tables_close : engine.close.tables = engine.tables.shut := by
  unfold close
  cases subscribed : engine.distributedSubscription with
  | true => rfl
  | false => simp [emit, tables, getPresence, shut]

theorem tables_track (userId : UserId) :
    (engine.trackNodeUser now sourceNodeId userId).tables = engine.tables.track now sourceNodeId userId := by
  unfold trackNodeUser track
  cases sourceNodeId with
  | none => rfl
  | some =>
    dsimp only
    split <;> rfl

theorem tables_untrack (userId : UserId) :
    (engine.untrackNodeUser sourceNodeId userId).tables = engine.tables.untrack sourceNodeId userId := by
  have same : engine.tables.nodeUsers = engine.nodeUsers := rfl
  simp only [untrackNodeUser, untrack]
  cases sourceNodeId with
  | none => rfl
  | some node =>
    dsimp only
    split
    · rfl
    · rw [same]
      cases engine.nodeUsers.get? node <;> rfl

theorem tables_after_ready :
    engine.afterDistributedReady.tables = engine.tables.askState := by
  unfold afterDistributedReady
  cases state : engine.distributedReady with
  | none =>
    have same : engine.tables.askState = engine.tables := by simp [askState, tables, state]
    exact (tables_broadcast engine).trans same.symm
  | some => simp [askState, tables, getPresence, state]

theorem tables_join {assigns : PondAssigns} {onMessage : ConnectionId} :
    (engine.addUser userId assigns onMessage requestId).engine.tables =
      engine.tables.join userId assigns onMessage := by
  unfold addUser Tables.join
  by_cases listed : engine.assignsCache.has userId = true
  · rw [if_pos listed, if_pos (show engine.tables.assignsCache.has userId = true from listed)]
  rw [if_neg listed, if_neg (show ¬ engine.tables.assignsCache.has userId = true from listed)]
  have same : engine.tables.publisher.isClosed = engine.publisher.isClosed := rfl
  rw [same]
  cases deaf : engine.publisher.isClosed with
  | true => simp [buildSubscriber, Subject.subscribe, emit, deaf, tables, list, getPresence]
  | false =>
    simp only [buildSubscriber, Subject.subscribe, emit, deaf, Bool.false_eq_true, if_false, tables_broadcast]
    have first : (engine.assignsCache.isEmpty = true ∧ engine.backend.isSome = true) ↔
        (engine.tables.assignsCache.isEmpty = true ∧ engine.tables.backend.isSome = true) := Iff.rfl
    by_cases asks : engine.assignsCache.isEmpty = true ∧ engine.backend.isSome = true
    · rw [if_pos asks, if_pos (first.mp asks), tables_after_ready]
      rfl
    · rw [if_neg asks, if_neg (fun also => asks (first.mpr also))]
      rfl

theorem get_user_data_ok :
    engine.tables.knows userId = true ↔ ∃ userData, engine.getUserData userId = .ok userData := by
  simp only [getUserData, presence_of_get, knows, tables, has, Bool.or_eq_true]
  cases engine.assignsCache.get? userId <;> cases engine.getPresence.get? userId <;> simp

theorem tables_remove_user (skip : Bool) :
    (engine.removeUser userId skip).tables = engine.tables.remove userId := by
  unfold removeUser remove
  cases data : engine.getUserData userId with
  | error =>
    have unknown : ¬ engine.tables.knows userId = true := by
      rw [get_user_data_ok, data]
      simp
    rw [if_neg unknown]
  | ok userData =>
    rw [if_pos ((get_user_data_ok engine userId).mpr ⟨userData, data⟩)]
    have left : ∀ next : ChannelEngine, next.tables = (engine.tables.forget userId).unsubscribe userId →
        ((if next.assignsCache.isEmpty then next.close else next).emit (.leaveCallback userData)).tables =
          let removed := (engine.tables.forget userId).unsubscribe userId
          if removed.assignsCache.isEmpty then removed.shut else removed := by
      intro next same
      have cache : next.assignsCache = ((engine.tables.forget userId).unsubscribe userId).assignsCache :=
        congrArg Tables.assignsCache same
      dsimp only
      rw [tables_emit, ← cache]
      split
      · rw [tables_close, same]
      · exact same
    apply left
    cases skip
    · rw [if_neg Bool.false_ne_true, tables_broadcast, tables_unsubscribe, tables_forget]
    · rw [if_pos rfl, tables_unsubscribe, tables_forget]

theorem send_channel_thrown (recipient : ChannelReceivers) (action : ServerActions)
    (event : String) (payload : PondMessage) (requestId : RequestId) (general : recipient ≠ .allExceptSender)
    (known : ∀ ids, recipient = .users ids → ∀ user ∈ ids, user ∈ engine.users) :
    (engine.sendMessage SystemSender.channel recipient action event payload requestId).thrown = none := by
  unfold sendMessage
  rw [if_neg (by simp)]
  cases recipient with
  | allUsers => rfl
  | allExceptSender => exact absurd rfl general
  | users ids =>
    have accepted : ¬ (ids.any fun user => decide (user ∉ engine.users)) = true := by
      simpa using known ids rfl
    simp only [getUsersFromRecipients, if_neg accepted]

theorem send_one_thrown (action : ServerActions) (event : String) (payload : PondMessage) :
    (engine.sendFresh SystemSender.channel (.users [userId]) action event payload).thrown.isSome = true ↔
      engine.assignsCache.has userId = false := by
  have member : engine.assignsCache.has userId = true ↔ userId ∈ engine.drawUuid.users :=
    mem_keys.symm
  cases listed : engine.assignsCache.has userId with
  | true =>
    have passed : (engine.sendFresh SystemSender.channel (.users [userId]) action event payload).thrown = none := by
      refine send_channel_thrown engine.drawUuid _ _ _ _ _ (by simp) ?_
      intro ids same user among
      cases same
      rw [mem_singleton.mp among]
      exact member.mp listed
    simp [passed]
  | false =>
    have missing : ([userId].any fun user => decide (user ∉ engine.drawUuid.users)) = true := by
      simpa using fun among => Bool.false_ne_true (listed.symm.trans (member.mpr among))
    simp only [sendFresh, sendMessage, getUsersFromRecipients, if_pos missing]
    split <;> simp

theorem tables_kick (reason : String) :
    (engine.kickUser userId reason).engine.tables =
      if engine.tables.assignsCache.has userId then engine.tables.remove userId else engine.tables := by
  unfold kickUser Outcome.andThen
  by_cases listed : engine.tables.assignsCache.has userId = true
  · have first : (engine.sendFresh SystemSender.channel (.users [userId]) .system "kicked_out"
        (kickedOutPayload reason)).thrown = none := by
      rw [← Option.not_isSome_iff_eq_none, send_one_thrown]
      exact fun absent => Bool.false_ne_true (absent.symm.trans listed)
    have second : ∀ (next : ChannelEngine) payload, (next.sendFresh SystemSender.channel .allUsers .system "kicked"
        payload).thrown = none := fun next payload =>
      send_channel_thrown next.drawUuid _ _ _ _ _ (by simp) (by simp)
    simp [first, second, if_pos listed, tables_remove_user]
  · obtain ⟨_, failed⟩ := Option.isSome_iff_exists.mp
      ((send_one_thrown engine userId .system "kicked_out" (kickedOutPayload reason)).mpr (Bool.not_eq_true _ ▸ listed))
    simp [failed, if_neg listed]

theorem tables_and_then_broadcast {outcome : Outcome} :
    (outcome.andThen fun engine => ⟨engine.broadcastToNodes body, none⟩).engine.tables = outcome.engine.tables := by
  unfold Outcome.andThen
  cases outcome.thrown with
  | none => exact tables_broadcast outcome.engine
  | some => rfl

theorem tables_destroy {reason : Option String} :
    (engine.destroy reason).tables = engine.tables.shut := by
  unfold destroy
  rw [tables_close, tables_send_fresh]

theorem tables_adopt (engine : ChannelEngine) (user : StateUser) :
    (handleStateResponseUser now sourceNodeId engine user).tables =
      Tables.adoptUser now sourceNodeId engine.tables user := by
  unfold handleStateResponseUser adoptUser
  by_cases listed : engine.assignsCache.has user.id = true
  · rw [if_pos listed, if_pos (show engine.tables.assignsCache.has user.id = true from listed)]
  rw [if_neg listed, if_neg (show ¬ engine.tables.assignsCache.has user.id = true from listed)]
  cases user.presence with
  | none => exact tables_track _ now sourceNodeId user.id
  | some =>
    dsimp only
    split
    · exact tables_track _ now sourceNodeId user.id
    · rw [tables_upsert, tables_track]
      rfl

theorem tables_state_response {users : List StateUser} :
    (engine.handleStateResponse now sourceNodeId (some users)).tables =
      users.foldl (Tables.adoptUser now sourceNodeId) engine.tables := by
  change (users.foldl (handleStateResponseUser now sourceNodeId) engine).tables = _
  induction users generalizing engine with
  | nil => rfl
  | cons _ _ ih => rw [foldl_cons, foldl_cons, ← tables_adopt, ih]

variable {userId}

theorem tables_track_presence :
    (engine.presenceAction fun inner requestId => inner.trackPresence requestId userId (some presence)).engine.tables =
      if engine.tables.presenceCache.has userId then engine.tables else engine.tables.present userId presence := by
  have cache : engine.getOrCreatePresenceEngine.presenceCache = engine.tables.presenceCache :=
    get_or_create_cache engine
  rw [tables_presence_action]
  cases known : engine.tables.presenceCache.has userId with
  | true =>
    obtain ⟨_, failed⟩ := engine.getOrCreatePresenceEngine.track_presence_present (by rw [cache]; exact known)
    rw [failed, if_pos rfl]
    rfl
  | false =>
    obtain ⟨_, done⟩ := engine.getOrCreatePresenceEngine.track_presence_absent (by rw [cache]; exact known)
    rw [done, cache, if_neg Bool.false_ne_true]
    rfl

theorem tables_update_presence :
    (engine.presenceAction fun inner requestId => inner.updatePresence requestId userId (some presence)).engine.tables =
      if engine.tables.presenceCache.has userId then engine.tables.present userId presence else engine.tables := by
  have cache : engine.getOrCreatePresenceEngine.presenceCache = engine.tables.presenceCache :=
    get_or_create_cache engine
  rw [tables_presence_action]
  cases known : engine.tables.presenceCache.has userId with
  | true =>
    obtain ⟨_, done⟩ := engine.getOrCreatePresenceEngine.update_presence_present (by rw [cache]; exact known)
    rw [done, cache, if_pos rfl]
    rfl
  | false =>
    obtain ⟨_, failed⟩ := engine.getOrCreatePresenceEngine.update_presence_absent (by rw [cache]; exact known)
    rw [failed, if_neg Bool.false_ne_true]
    rfl

theorem tables_joined (userId : UserId) (presence : Option PondPresence) (assigns : PondAssigns) :
    (engine.handleRemoteUserJoined now sourceNodeId userId presence assigns).tables =
      engine.tables.joined now sourceNodeId userId presence assigns := by
  unfold handleRemoteUserJoined Tables.joined
  by_cases listed : engine.assignsCache.has userId = true
  · rw [if_pos listed, if_pos (show engine.tables.assignsCache.has userId = true from listed)]
  rw [if_neg listed, if_neg (show ¬ engine.tables.assignsCache.has userId = true from listed)]
  have tracked := tables_track { engine with assignsCache := engine.assignsCache.set userId assigns }
    now sourceNodeId userId
  cases presence with
  | none => exact tracked
  | some presence =>
    dsimp only
    cases vacant : presence.isEmpty with
    | true => exact tracked
    | false =>
      rw [if_neg Bool.false_ne_true, tables_track_presence, tracked]
      rfl

variable {sourceNodeId}

theorem tables_left {userId : UserId} :
    (engine.handleRemoteUserLeft sourceNodeId userId).tables =
      (engine.tables.forget userId).untrack sourceNodeId userId := by
  unfold handleRemoteUserLeft
  rw [tables_safe_remove, tables_untrack, unpresent_untrack]
  rfl

theorem tables_presence_update (presence : Option PondPresence) :
    (engine.handleRemotePresenceUpdate userId presence).tables =
      match presence with
      | none => engine.tables
      | some presence => engine.tables.present userId presence := by
  unfold handleRemotePresenceUpdate
  cases presence with
  | none =>
    obtain ⟨_, failed⟩ :=
      PresenceEngine.upsert_presence_missing_data
    rw [tables_presence_action, failed]
    rfl
  | some => exact tables_upsert engine userId

theorem tables_reassign {assigns : Option PondAssigns}
    {key : Option String} {value : JsValue} :
    (engine.handleRemoteAssignsUpdate userId assigns key value).tables =
      engine.tables.reassign userId assigns key value := by
  unfold handleRemoteAssignsUpdate reassign
  have same : engine.tables.assignsCache.get? userId = engine.assignsCache.get? userId := rfl
  rw [same]
  cases engine.assignsCache.get? userId with
  | none => rfl
  | some =>
    cases assigns with
    | some => rfl
    | none =>
      cases key with
      | none => rfl
      | some =>
        dsimp only
        split <;> rfl

theorem tables_evict {reason : String} :
    (engine.handleRemoteEvictUser userId reason).tables = (engine.tables.forget userId).unsubscribe userId := by
  unfold handleRemoteEvictUser
  rw [tables_unsubscribe, tables_forget]
  split <;> rfl

theorem tables_user_remove {userId : UserId} :
    (engine.handleRemoteUserRemove sourceNodeId userId).tables =
      if engine.tables.userSubscriptions.has userId then engine.tables.remove userId
      else (engine.tables.forget userId).untrack sourceNodeId userId := by
  unfold handleRemoteUserRemove
  by_cases hosted : engine.userSubscriptions.has userId = true
  · rw [if_pos hosted, if_pos (show engine.tables.userSubscriptions.has userId = true from hosted), tables_remove_user]
  · rw [if_neg hosted, if_neg (show ¬ engine.tables.userSubscriptions.has userId = true from hosted),
      tables_untrack, tables_forget]

theorem tables_receive (message : DistributedMessage) :
    (engine.handleDistributedMessage now message).tables = engine.tables.receive now message := by
  unfold handleDistributedMessage receive
  cases message.body with
  | stateRequest =>
    dsimp only [handleStateRequest]
    split
    · rfl
    · exact tables_broadcast engine
  | stateResponse users =>
    cases users with
    | none => rfl
    | some => exact tables_state_response engine now message.sourceNodeId
  | userJoined userId presence assigns =>
    exact tables_joined engine now message.sourceNodeId userId presence assigns
  | userLeft => exact tables_left engine
  | userMessage _ _ _ _ recipientDescriptor =>
    cases recipientDescriptor with
    | none => rfl
    | some =>
      dsimp only [handleRemoteMessage]
      split
      · rfl
      · exact tables_publish engine _
  | presenceUpdate _ presence =>
    rw [tables_presence_update]
    cases presence <;> rfl
  | presenceRemoved userId => exact tables_safe_remove engine userId
  | assignsUpdate => exact tables_reassign engine
  | evictUser => exact tables_evict engine
  | userRemove => exact tables_user_remove engine
  | userGetRequest =>
    dsimp only [handleRemoteUserGetRequest]
    split
    · exact tables_broadcast engine
    · rfl
  | userGetResponse =>
    dsimp only [handleRemoteUserGetResponse]
    split <;> rfl
  | nodeHeartbeat => rfl

theorem tables_drop_node (node : NodeId) :
    (engine.dropStaleNode node).tables = engine.tables.dropNode node := by
  unfold dropStaleNode dropNode
  have same : engine.tables.nodeUsers.get? node = engine.nodeUsers.get? node := rfl
  rw [same]
  cases engine.nodeUsers.get? node with
  | none => rfl
  | some users =>
    have forgotten := tables_forget_all engine users.keys
    dsimp only
    rw [← forgotten]
    rfl

theorem tables_tick :
    (engine.staleNodeTick now).tables = engine.tables.tick now := by
  have drop : ∀ (nodes : List NodeId) (start : ChannelEngine),
      (nodes.foldl dropStaleNode start).tables = nodes.foldl dropNode start.tables := by
    intro nodes
    induction nodes with
    | nil => exact fun _ => rfl
    | cons _ _ ih =>
      intro start
      rw [foldl_cons, foldl_cons, ih, tables_drop_node]
  unfold staleNodeTick tick staleNodes cleanupStaleNodes
  have timer : engine.tables.staleNodeTimer = engine.staleNodeTimer := rfl
  have backend : engine.tables.backend = engine.backend := rfl
  rw [timer, backend]
  cases engine.staleNodeTimer with
  | false => rfl
  | true =>
    cases engine.backend with
    | none => rfl
    | some =>
      rw [← drop, foldl_map, foldl_filter]
      simp only [decide_eq_true_eq]
      rfl

variable {engine}

theorem tables_act {op : EngineOp} :
    (engine.act now op).tables = engine.tables.step now op := by
  cases op with
  | addUser userId => exact tables_join engine userId
  | sendMessage => exact tables_send engine
  | broadcastMessage =>
    dsimp only [act, broadcastMessage]
    split <;> rfl
  | handlerNotFound => exact tables_send engine
  | trackPresence => exact tables_and_then_broadcast.trans (tables_track_presence engine)
  | updatePresence => exact tables_and_then_broadcast.trans (tables_update_presence engine)
  | upsertPresence userId => exact tables_and_then_broadcast.trans (tables_upsert engine userId)
  | removePresence userId =>
    refine Eq.trans ?_ (tables_safe_remove engine userId)
    dsimp only [act, removePresence, safeRemovePresence]
    split
    · exact tables_and_then_broadcast
    · rfl
  | updateAssigns userId =>
    dsimp only [act, updateAssigns, step]
    have same : engine.tables.assignsCache.get? userId = engine.assignsCache.get? userId := rfl
    rw [same]
    cases engine.assignsCache.get? userId with
    | none => rfl
    | some => exact tables_broadcast _
  | kickUser userId reason => exact tables_kick engine userId reason
  | requestUserRemoval => exact tables_broadcast engine
  | getUserAcrossNodes =>
    dsimp only [act, getUserAcrossNodes]
    split
    · exact tables_broadcast _
    · rfl
  | userGetTimeout =>
    dsimp only [act, userGetTimeout]
    split <;> rfl
  | destroy => exact tables_destroy engine
  | close => exact tables_close engine
  | removeUser userId skip => exact tables_remove_user engine userId skip
  | distributedSubscribed =>
    dsimp only [act, distributedSubscribed, step]
    have same : engine.tables.closed = engine.closed := rfl
    rw [same]
    split <;> rfl
  | distributedRejected => rfl
  | runReadyCallback =>
    dsimp only [act, runReadyCallback, step]
    by_cases due : engine.distributedReady = some true ∧ 0 < engine.readyCallbacks
    · rw [if_pos due, if_pos (show engine.tables.distributedReady = some true ∧ 0 < engine.tables.readyCallbacks from due)]
      split
      · rfl
      · exact tables_broadcast _
    · rw [if_neg due,
        if_neg (show ¬ (engine.tables.distributedReady = some true ∧ 0 < engine.tables.readyCallbacks) from due)]
  | receive message => exact tables_receive engine now message
  | heartbeat =>
    dsimp only [act, heartbeat, step]
    have same : engine.tables.heartbeatSubscription = engine.heartbeatSubscription := rfl
    rw [same]
    split <;> rfl
  | staleNodeTick => exact tables_tick engine now

end ChannelEngine

end PondSocket.Js
