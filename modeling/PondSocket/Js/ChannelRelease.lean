import PondSocket.Js.ChannelVoice
import PondSocket.Js.Membership

namespace PondSocket.Js

open Library List SystemSender

-- The two effects by which a closing engine lets go of what others hold for it.
def Effect.releases : Effect → Bool
  | .unsubscribeChannel => true
  | .deleteChannel _ => true
  | _ => false

-- The effects that are counted: the two releases and the answers to getUserAcrossNodes.
def Effect.lasts : Effect → Bool
  | .resolveUserGet _ _ => true
  | effect => effect.releases

variable {users : List StateUser} {message : DistributedMessage}

namespace Tables

def gates (tables : Tables) : Bool × Bool × Bool × Bool :=
  (tables.closed, tables.publisher.isClosed, tables.distributedSubscription, tables.staleNodeTimer)

variable {tables : Tables}

theorem gates_step (tables : Tables) (now : Nat) (op : EngineOp) (other : op ≠ .distributedSubscribed) :
    (tables.step now op).gates = if tables.shuts op then (true, true, false, false) else tables.gates := by
  cases ends : tables.shuts op with
  | true =>
    obtain ⟨_, same⟩ := step_shut tables now ends
    rw [same]
    rfl
  | false =>
    rw [if_neg Bool.false_ne_true]
    have shift := step_shift tables now ends
    generalize tables.step now op = next at shift ⊢
    cases shift with
    | subscribed resumed => exact absurd resumed other
    | admitted _ _ _ admitted =>
      rw [admitted_frame now admitted]
      rfl
    | evicted userId =>
      unfold unsubscribe
      cases (tables.forget userId).userSubscriptions.get? userId <;> rfl
    | left =>
      rw [untrack_frame]
      rfl
    | ticked =>
      rw [drop_all_frame]
      rfl
    | _ => rfl

end Tables

namespace ChannelEngine

variable (engine : ChannelEngine) (now : Nat) {userId : UserId}

variable (sourceNodeId : Option NodeId)

def released (engine : ChannelEngine) : List Effect := engine.effects.filter Effect.releases

def release (engine : ChannelEngine) : List Effect :=
  (if engine.distributedSubscription then [.unsubscribeChannel] else []) ++ [.deleteChannel engine.name]

def releases (engine : ChannelEngine) (op : EngineOp) : List Effect :=
  match op with
  | .distributedSubscribed => if engine.closed then [.unsubscribeChannel] else []
  | _ => if engine.tables.shuts op then engine.release else []

theorem releases_call {op : EngineOp} (other : op ≠ .distributedSubscribed) :
    engine.releases op = if engine.tables.shuts op then engine.release else [] := by
  cases op with
  | distributedSubscribed => exact absurd rfl other
  | _ => rfl

def lasting (engine : ChannelEngine) : List Effect := engine.effects.filter Effect.lasts

def notes (engine : ChannelEngine) (op : EngineOp) : List Effect :=
  match op with
  | .getUserAcrossNodes _ => if engine.backend.isSome then [] else [.resolveUserGet engine.uuid none]
  | .userGetTimeout requestId =>
    if engine.pendingUserGets.has requestId then [.resolveUserGet requestId none] else []
  | .receive ⟨_, _, _, .userGetResponse userId requestId assigns presence⟩ =>
    if engine.pendingUserGets.has requestId then
      [.resolveUserGet requestId (some ⟨userId, assigns.getD .empty, presence.getD .empty⟩)]
    else []
  | _ => engine.releases op

def pendingAfter (engine : ChannelEngine) (op : EngineOp) : OrderedSet RequestId :=
  match op with
  | .getUserAcrossNodes _ =>
    if engine.backend.isSome then engine.pendingUserGets.add engine.uuid else engine.pendingUserGets
  | .userGetTimeout requestId => engine.pendingUserGets.delete requestId
  | .receive ⟨_, _, _, .userGetResponse _ requestId _ _⟩ => engine.pendingUserGets.delete requestId
  | _ => if engine.tables.shuts op then .empty else engine.pendingUserGets

structure Notes (before after : ChannelEngine) (bodies : List MessageBody) (noted : List Effect)
    (pending : OrderedSet RequestId) : Prop where
  voice : after.voice = before.voice.say (if before.online then bodies else [])
  lasting : after.lasting = before.lasting ++ noted
  pending : after.pendingUserGets = pending
  drawn : before.drawn ≤ after.drawn

structure Still (before after : ChannelEngine) : Prop where
  voice : after.voice = before.voice
  online : after.online = before.online
  lasting : after.lasting = before.lasting
  pending : after.pendingUserGets = before.pendingUserGets
  drawn : before.drawn ≤ after.drawn

variable {engine} {next last : ChannelEngine} {bodies more : List MessageBody} {noted : List Effect}
  {pending : OrderedSet RequestId}

theorem Still.refl : Still engine engine := ⟨rfl, rfl, rfl, rfl, le_rfl⟩

theorem Still.trans (first : Still engine next) (second : Still next last) : Still engine last :=
  ⟨second.voice.trans first.voice, second.online.trans first.online, second.lasting.trans first.lasting,
    second.pending.trans first.pending, le_trans first.drawn second.drawn⟩

theorem Still.notes (still : Still engine next) : Notes engine next [] [] engine.pendingUserGets := by
  refine ⟨?_, by rw [still.lasting, append_nil], still.pending, still.drawn⟩
  rw [ite_self, Voice.say_nothing]
  exact still.voice

theorem Notes.later (first : Notes engine next bodies [] engine.pendingUserGets) (running : next.online = engine.online)
    (second : Notes next last more noted pending) : Notes engine last (bodies ++ more) noted pending := by
  refine ⟨?_, by rw [second.lasting, first.lasting, append_nil], second.pending, le_trans first.drawn second.drawn⟩
  rw [second.voice, first.voice, running, Voice.say_say]
  cases engine.online <;> rfl

theorem Still.later (first : Still engine next) (second : Notes next last bodies noted pending) :
    Notes engine last bodies noted pending :=
  first.notes.later first.online second

theorem Still.tells (first : Still engine next) (second : Notes next last bodies noted next.pendingUserGets) :
    Notes engine last bodies noted engine.pendingUserGets :=
  first.pending ▸ first.later second

theorem Notes.still (first : Notes engine next bodies noted pending) (second : Still next last) :
    Notes engine last bodies noted pending :=
  ⟨second.voice.trans first.voice, second.lasting.trans first.lasting, second.pending.trans first.pending,
    le_trans first.drawn second.drawn⟩

theorem notes_of_bodies (told : Notes engine next bodies noted pending) (same : bodies = more) :
    Notes engine next more noted pending :=
  same ▸ told

variable (engine)

theorem still_emit {effect : Effect} (silent : effect.broadcast? = none) (passing : effect.lasts = false) :
    Still engine (engine.emit effect) := by
  refine ⟨voice_emit engine silent, rfl, ?_, rfl, le_rfl⟩
  simp [lasting, emit, passing]

theorem notes_emit (effect : Effect) (silent : effect.broadcast? = none) (lasts : effect.lasts = true) :
    Notes engine (engine.emit effect) [] [effect] engine.pendingUserGets := by
  refine ⟨?_, by simp [lasting, emit, lasts], rfl, le_rfl⟩
  rw [ite_self, Voice.say_nothing]
  exact voice_emit engine silent

theorem still_publish {event : InternalChannelEvent} : Still engine (engine.publish event) := by
  have held : ∀ subscribers : List Subscriber,
      (subscribers.map fun subscriber => Effect.handed subscriber event.toChannelEvent).filter Effect.lasts = [] := by
    intro subscribers
    apply filter_eq_nil_iff.mpr
    intro effect member
    obtain ⟨_, _, rfl⟩ := mem_map.mp member
    simp [Effect.lasts, Effect.releases]
  refine ⟨voice_publish engine, rfl, ?_, rfl, le_rfl⟩
  dsimp only [lasting, publish]
  rw [filter_append, held, append_nil]

theorem notes_broadcast (body : MessageBody) :
    Notes engine (engine.broadcastToNodes body) [body] [] engine.pendingUserGets := by
  have voice := voice_broadcast engine body
  unfold broadcastToNodes at voice ⊢
  split
  · rename_i spoken
    rw [if_pos spoken] at voice
    exact ⟨voice, by simp [lasting, emit, Effect.lasts, Effect.releases], rfl, le_rfl⟩
  · rename_i quiet
    rw [if_neg quiet] at voice
    exact ⟨voice, (append_nil _).symm, rfl, le_rfl⟩

theorem still_presence_action
    (action : PresenceEngine → RequestId → Except Thrown (PresenceEngine × InternalChannelEvent)) :
    Still engine (engine.presenceAction action).engine := by
  dsimp only [presenceAction]
  cases action engine.getOrCreatePresenceEngine engine.uuid with
  | error => exact ⟨rfl, rfl, rfl, rfl, le_rfl⟩
  | ok result =>
    have drawn : Still engine { engine with presenceEngine := some result.1 }.drawUuid :=
      ⟨rfl, rfl, rfl, rfl, Nat.le_succ _⟩
    exact drawn.trans (still_publish _)

variable {body : MessageBody}

theorem notes_presence_call
    (action : PresenceEngine → RequestId → Except Thrown (PresenceEngine × InternalChannelEvent)) :
    Notes engine ((engine.presenceAction action).andThen fun engine => ⟨engine.broadcastToNodes body, none⟩).engine
      (if (engine.presenceAction action).thrown.isSome then [] else [body]) [] engine.pendingUserGets := by
  have same := still_presence_action engine action
  generalize engine.presenceAction action = outcome at same
  cases failed : outcome.thrown with
  | none =>
    rw [and_then_passed failed]
    exact same.tells (notes_broadcast outcome.engine body)
  | some =>
    rw [and_then_failed (by rw [failed]; rfl)]
    exact same.notes

theorem still_safe_remove (userId : UserId) : Still engine (engine.safeRemovePresence userId) := by
  unfold safeRemovePresence
  split
  · exact still_presence_action engine _
  · exact .refl

theorem still_forget (userId : UserId) : Still engine (engine.forget userId) := by
  have dropped : Still engine { engine with assignsCache := engine.assignsCache.delete userId } :=
    ⟨rfl, rfl, rfl, rfl, le_rfl⟩
  exact dropped.trans (still_safe_remove _ userId)

theorem still_unsubscribe (userId : UserId) : Still engine (engine.unsubscribeUser userId) := by
  unfold unsubscribeUser
  cases engine.userSubscriptions.get? userId <;> exact ⟨rfl, rfl, rfl, rfl, le_rfl⟩

theorem notes_close : Notes engine engine.close [] engine.release .empty := by
  have voice : engine.close.voice = engine.voice := by
    unfold close
    cases engine.distributedSubscription <;> simp [emit, ChannelEngine.voice, Effect.broadcast?]
  refine ⟨?_, ?_, ?_, ?_⟩
  · rw [ite_self, Voice.say_nothing, voice]
  all_goals
    unfold close
    cases held : engine.distributedSubscription
  · simp [emit, lasting, release, held, Effect.lasts, Effect.releases]
  · simp [emit, lasting, release, held, Effect.lasts, Effect.releases]
  all_goals simp [emit]

theorem still_track (userId : UserId) : Still engine (engine.trackNodeUser now sourceNodeId userId) := by
  unfold trackNodeUser
  cases sourceNodeId with
  | none => exact .refl
  | some =>
    dsimp only
    split <;> exact ⟨rfl, rfl, rfl, rfl, le_rfl⟩

theorem still_untrack (userId : UserId) : Still engine (engine.untrackNodeUser sourceNodeId userId) := by
  unfold untrackNodeUser
  cases sourceNodeId with
  | none => exact .refl
  | some node =>
    dsimp only
    split
    · exact .refl
    · cases engine.nodeUsers.get? node <;> exact ⟨rfl, rfl, rfl, rfl, le_rfl⟩

variable {requestId : RequestId}

theorem notes_send {sender : UserId} {recipient : ChannelReceivers} {action : ServerActions} {event : String}
    {payload : PondMessage} :
    Notes engine (engine.sendMessage sender recipient action event payload requestId).engine
      (if engine.accepts sender recipient then [.userMessage sender event payload requestId (some recipient)] else [])
      [] engine.pendingUserGets := by
  unfold sendMessage accepts
  by_cases stranger : engine.assignsCache.has sender = false ∧ sender ≠ SystemSender.channel
  · have unknown : (engine.assignsCache.has sender || sender == SystemSender.channel) = false := by
      simp [stranger.1, stranger.2]
    rw [if_pos stranger, unknown]
    exact Still.refl.notes
  have known : (engine.assignsCache.has sender || sender == SystemSender.channel) = true := by
    cases listed : engine.assignsCache.has sender with
    | true => rfl
    | false => simpa [listed] using stranger
  rw [if_neg stranger, known]
  cases engine.getUsersFromRecipients recipient sender with
  | error => exact Still.refl.notes
  | ok => exact (still_publish engine).later (notes_broadcast _ _)

theorem notes_send_fresh (sender : UserId) (recipient : ChannelReceivers)
    (action : ServerActions) (event : String) (payload : PondMessage) :
    Notes engine (engine.sendFresh sender recipient action event payload).engine
      (if engine.accepts sender recipient then [.userMessage sender event payload engine.uuid (some recipient)] else [])
      [] engine.pendingUserGets := by
  have drawn : Still engine engine.drawUuid := ⟨rfl, rfl, rfl, rfl, Nat.le_succ _⟩
  exact drawn.later (notes_send _)

theorem release_congr (engine next : ChannelEngine) (name : next.name = engine.name)
    (subscription : next.distributedSubscription = engine.distributedSubscription) :
    next.release = engine.release := by
  unfold release
  rw [name, subscription]

theorem release_same_tables {engine : ChannelEngine} (fields : next.tables = engine.tables)
    (name : next.name = engine.name) : next.release = engine.release :=
  release_congr engine next name (congrArg Tables.distributedSubscription fields)

theorem notes_remove_user (userId : UserId) (skip : Bool) :
    Notes engine (engine.removeUser userId skip) (if engine.tables.knows userId && !skip then [.userLeft userId] else [])
      (if engine.tables.empties userId then engine.release else [])
      (if engine.tables.empties userId then .empty else engine.pendingUserGets) := by
  unfold removeUser Tables.empties
  cases data : engine.getUserData userId with
  | error =>
    have unknown : engine.tables.knows userId = false := by
      rw [Bool.eq_false_iff, ne_eq, get_user_data_ok, data]
      simp
    rw [unknown]
    exact Still.refl.notes
  | ok userData =>
    have known : engine.tables.knows userId = true := (get_user_data_ok engine userId).mpr ⟨userData, data⟩
    have dropped : Still engine ((engine.forget userId).unsubscribeUser userId) :=
      (still_forget engine userId).trans (still_unsubscribe _ userId)
    have fields : ((engine.forget userId).unsubscribeUser userId).tables =
        (engine.tables.forget userId).unsubscribe userId :=
      (tables_unsubscribe (engine.forget userId) userId).trans
        (congrArg (Tables.unsubscribe · userId) (tables_forget engine userId))
    rw [known]
    generalize (engine.forget userId).unsubscribeUser userId = bare at dropped fields
    -- The engine that is closed or kept: the broadcast changes neither field.
    have finish : ∀ (next : ChannelEngine) (bodies : List MessageBody),
        Notes bare next bodies [] bare.pendingUserGets → next.tables = bare.tables →
        Notes engine ((if next.assignsCache.isEmpty then next.close else next).emit (.leaveCallback userData)) bodies
          (if true && (engine.assignsCache.delete userId).isEmpty then engine.release else [])
          (if true && (engine.assignsCache.delete userId).isEmpty then .empty else engine.pendingUserGets) := by
      intro next bodies same sameTables
      have told := dropped.tells same
      have listed : next.assignsCache = engine.assignsCache.delete userId := by
        change next.tables.assignsCache = _
        rw [sameTables, fields, Tables.unsubscribe_frame]
        rfl
      have held : next.release = engine.release := by
        apply release_congr
        · exact congrArg Voice.name told.voice
        change next.tables.distributedSubscription = _
        rw [sameTables, fields, Tables.unsubscribe_frame]
        rfl
      have running : next.online = engine.online :=
        (online_same_tables next sameTables).trans dropped.online
      refine Notes.still ?_ (still_emit _ rfl rfl)
      rw [listed, Bool.true_and]
      split
      · rw [← held, ← append_nil bodies]
        exact told.later running (notes_close next)
      · exact told
    cases skip with
    | true => exact finish bare [] Still.refl.notes rfl
    | false => exact finish _ _ (notes_broadcast bare _) (tables_broadcast bare)

theorem notes_kick {reason : String} :
    Notes engine (engine.kickUser userId reason).engine (engine.tells (.kickUser userId reason))
      (engine.notes (.kickUser userId reason)) (engine.pendingAfter (.kickUser userId reason)) := by
  have value : engine.tables.shuts (.kickUser userId reason) =
      (engine.assignsCache.has userId && engine.tables.empties userId) := rfl
  dsimp only [tells, notes, releases, pendingAfter]
  rw [value]
  unfold kickUser
  have told := notes_send_fresh engine channel (.users [userId]) .system "kicked_out" (kickedOutPayload reason)
  rw [accepts_one] at told
  cases listed : engine.assignsCache.has userId with
  | false =>
    rw [listed] at told
    rw [and_then_failed ((send_one_thrown engine userId .system "kicked_out" (kickedOutPayload reason)).mpr listed)]
    exact told
  | true =>
    rw [listed] at told
    rw [and_then_passed (send_one_passed engine listed), Bool.true_and]
    have fields := tables_send_fresh engine channel (.users [userId]) .system "kicked_out" (kickedOutPayload reason)
    have drawn := uuid_send_fresh engine channel (.users [userId]) .system "kicked_out" (kickedOutPayload reason)
    generalize (engine.sendFresh channel (.users [userId]) .system "kicked_out"
      (kickedOutPayload reason)).engine = first at told fields drawn
    rw [and_then_passed (send_all_passed first .system "kicked" (kickedPayload userId reason))]
    have told2 := notes_send_fresh first channel .allUsers .system "kicked" (kickedPayload userId reason)
    rw [accepts_all, drawn] at told2
    have fields2 := tables_send_fresh first channel .allUsers .system "kicked" (kickedPayload userId reason)
    generalize (first.sendFresh channel .allUsers .system "kicked"
      (kickedPayload userId reason)).engine = second at told2 fields2
    have told3 := notes_broadcast second (.evictUser userId reason)
    have same : (second.broadcastToNodes (.evictUser userId reason)).tables = engine.tables :=
      (tables_broadcast second).trans (fields2.trans fields)
    have removed := notes_remove_user (second.broadcastToNodes (.evictUser userId reason)) userId true
    have running := online_same_tables first fields
    have running2 := online_same_tables second (fields2.trans fields)
    rw [told2.pending, told.pending] at told3
    rw [told.pending] at told2
    have spoken := (told.later running told2).later running2 told3
    rw [release_same_tables same (congrArg Voice.name spoken.voice), same, spoken.pending, Bool.not_true, Bool.and_false]
      at removed
    exact spoken.later (online_same_tables _ same) removed

theorem notes_destroy {reason : Option String} :
    Notes engine (engine.destroy reason) (engine.tells (.destroy reason)) engine.release .empty := by
  have told := notes_send_fresh engine channel .allUsers .error "destroyed" (destroyedPayload reason)
  have fields := tables_send_fresh engine channel .allUsers .error "destroyed" (destroyedPayload reason)
  rw [accepts_all] at told
  rw [← release_same_tables fields (congrArg Voice.name told.voice)]
  exact told.later (online_same_tables _ fields) (notes_close _)

theorem notes_after_ready :
    Notes engine engine.afterDistributedReady
      (if engine.distributedReady.isNone then [.stateRequest engine.nodeId] else []) [] engine.pendingUserGets := by
  unfold afterDistributedReady requestChannelState
  cases engine.distributedReady with
  | none => exact notes_broadcast engine _
  | some => exact Still.notes ⟨rfl, rfl, rfl, rfl, le_rfl⟩

theorem online_after_ready : engine.afterDistributedReady.online = engine.online := by
  apply online_of_tables <;> rw [tables_after_ready] <;> rfl

variable {assigns : PondAssigns}

theorem notes_announce {joined : ChannelEngine} {first : Bool} {userId : UserId} (still : Still engine joined)
    (ready : joined.distributedReady = engine.distributedReady) :
    Notes engine
      ((if first = true ∧ engine.backend.isSome = true then joined.afterDistributedReady else joined).broadcastToNodes
        (.userJoined userId (some .empty) assigns))
      (if first && engine.distributedReady.isNone then
        [.stateRequest engine.nodeId, .userJoined userId (some .empty) assigns]
      else [.userJoined userId (some .empty) assigns]) [] engine.pendingUserGets := by
  by_cases asks : first = true ∧ engine.backend.isSome = true
  · have asked := notes_after_ready joined
    have node : joined.nodeId = engine.nodeId := congrArg Voice.nodeId still.voice
    rw [ready, node] at asked
    have told := notes_broadcast joined.afterDistributedReady (.userJoined userId (some .empty) assigns)
    rw [asked.pending] at told
    have all := still.later (asked.later (online_after_ready joined) told)
    rw [still.pending] at all
    rw [if_pos asks, asks.1]
    cases known : engine.distributedReady <;> rw [known] at all <;> exact all
  have told := still.later (notes_broadcast joined (.userJoined userId (some .empty) assigns))
  rw [still.pending] at told
  rw [if_neg asks]
  cases later : first with
  | false => exact told
  | true =>
    have offline : engine.online = false := by
      have alone : ¬engine.backend.isSome = true := fun backed => asks ⟨later, backed⟩
      simp [online, alone]
    refine ⟨?_, told.lasting, told.pending, told.drawn⟩
    rw [told.voice, offline]
    rfl

theorem notes_join {onMessage : ConnectionId} :
    Notes engine (engine.addUser userId assigns onMessage requestId).engine
      (engine.tells (.addUser userId assigns onMessage requestId)) [] engine.pendingUserGets := by
  have acknowledged : ∀ event, Still engine (engine.emit (.handed ⟨userId, onMessage⟩ event)) :=
    fun event => still_emit engine rfl rfl
  unfold addUser
  dsimp only [tells]
  cases engine.assignsCache.has userId with
  | true => exact Still.refl.notes
  | false =>
    cases deaf : engine.publisher.isClosed with
    | true =>
      simp only [buildSubscriber, Subject.subscribe, emit, deaf, Bool.or_true, Bool.false_eq_true, if_false, if_true]
      exact Still.notes ⟨(acknowledged _).voice, rfl, (acknowledged _).lasting, rfl, le_rfl⟩
    | false =>
      simp only [buildSubscriber, Subject.subscribe, emit, deaf, Bool.or_self, Bool.false_eq_true, if_false]
      exact notes_announce engine ⟨(acknowledged _).voice, rfl, (acknowledged _).lasting, rfl, le_rfl⟩ rfl

theorem still_adopt (engine : ChannelEngine) (user : StateUser) :
    Still engine (handleStateResponseUser now sourceNodeId engine user) := by
  unfold handleStateResponseUser
  have listed : Still engine { engine with assignsCache := engine.assignsCache.set user.id user.assigns } :=
    ⟨rfl, rfl, rfl, rfl, le_rfl⟩
  have added := listed.trans (still_track _ now sourceNodeId user.id)
  split
  · exact .refl
  split
  · exact added
  split
  · exact added
  · exact added.trans (still_presence_action _ _)

theorem still_adopt_all (engine : ChannelEngine) :
    Still engine (users.foldl (handleStateResponseUser now sourceNodeId) engine) := by
  induction users generalizing engine with
  | nil => exact .refl
  | cons user rest ih => exact (still_adopt now sourceNodeId engine user).trans (ih _)

theorem still_joined {userId : UserId} {presence : Option PondPresence} :
    Still engine (engine.handleRemoteUserJoined now sourceNodeId userId presence assigns) := by
  unfold handleRemoteUserJoined
  have listed : Still engine { engine with assignsCache := engine.assignsCache.set userId assigns } :=
    ⟨rfl, rfl, rfl, rfl, le_rfl⟩
  have added := listed.trans (still_track _ now sourceNodeId userId)
  split
  · exact .refl
  split
  · exact added
  split
  · exact added
  · exact added.trans (still_presence_action _ _)

theorem notes_answer (requestId : RequestId) (data : Option UserData) :
    Notes engine
      (if engine.pendingUserGets.has requestId then
        { engine with pendingUserGets := engine.pendingUserGets.delete requestId }.emit (.resolveUserGet requestId data)
      else engine) []
      (if engine.pendingUserGets.has requestId then [.resolveUserGet requestId data] else [])
      (engine.pendingUserGets.delete requestId) := by
  cases known : engine.pendingUserGets.has requestId with
  | false =>
    refine ⟨?_, (append_nil _).symm, (OrderedMap.delete_absent known).symm, le_rfl⟩
    rw [ite_self, Voice.say_nothing]
    rfl
  | true =>
    have told := notes_emit { engine with pendingUserGets := engine.pendingUserGets.delete requestId }
      (.resolveUserGet requestId data) rfl rfl
    exact ⟨told.voice, told.lasting, told.pending, told.drawn⟩

theorem notes_receive :
    Notes engine (engine.handleDistributedMessage now message) (engine.tells (.receive message))
      (engine.notes (.receive message)) (engine.pendingAfter (.receive message)) := by
  obtain ⟨endpointName, channelName, sourceNodeId, body⟩ := message
  cases body with
  | stateRequest =>
    dsimp only [handleDistributedMessage, handleStateRequest, tells]
    split
    · exact Still.refl.notes
    · exact notes_broadcast engine _
  | stateResponse users =>
    cases users with
    | none => exact Still.refl.notes
    | some => exact (still_adopt_all now sourceNodeId engine).notes
  | userJoined => exact (still_joined engine now sourceNodeId).notes
  | userLeft userId =>
    have dropped : Still engine { engine with assignsCache := engine.assignsCache.delete userId } :=
      ⟨rfl, rfl, rfl, rfl, le_rfl⟩
    exact ((dropped.trans (still_untrack _ sourceNodeId userId)).trans (still_safe_remove _ userId)).notes
  | userMessage =>
    dsimp only [handleDistributedMessage, handleRemoteMessage]
    split
    · exact Still.refl.notes
    split
    · exact Still.refl.notes
    · exact (still_publish engine).notes
  | presenceUpdate => exact (still_presence_action engine _).notes
  | presenceRemoved userId => exact (still_safe_remove engine userId).notes
  | assignsUpdate =>
    dsimp only [handleDistributedMessage, handleRemoteAssignsUpdate]
    repeat' split
    all_goals exact Still.notes ⟨rfl, rfl, rfl, rfl, le_rfl⟩
  | evictUser userId =>
    have drawn : Still engine engine.drawUuid := ⟨rfl, rfl, rfl, rfl, Nat.le_succ _⟩
    refine Still.notes (Still.trans (Still.trans ?_ (still_forget _ userId)) (still_unsubscribe _ userId))
    split
    · exact drawn.trans (still_publish _)
    · exact .refl
  | userRemove userId =>
    have value : engine.tables.shuts (.receive ⟨endpointName, channelName, sourceNodeId, .userRemove userId⟩) =
        (engine.userSubscriptions.has userId && engine.tables.empties userId) := rfl
    dsimp only [tells, notes, releases, pendingAfter, handleDistributedMessage, handleRemoteUserRemove]
    rw [value]
    cases engine.userSubscriptions.has userId with
    | true =>
      have removed := notes_remove_user engine userId false
      rw [Bool.not_false, Bool.and_true] at removed
      exact removed
    | false => exact ((still_forget engine userId).trans (still_untrack _ sourceNodeId userId)).notes
  | userGetRequest =>
    dsimp only [handleDistributedMessage, handleRemoteUserGetRequest, tells]
    split
    · exact notes_broadcast engine _
    · exact Still.refl.notes
  | userGetResponse _ requestId => exact notes_answer engine requestId _
  | nodeHeartbeat => exact Still.refl.notes

theorem still_drop_node (node : NodeId) : Still engine (engine.dropStaleNode node) := by
  have forgotten : ∀ (userIds : List UserId) (start : ChannelEngine), Still start (userIds.foldl forget start) := by
    intro userIds
    induction userIds with
    | nil => exact fun _ => .refl
    | cons userId _ ih => exact fun start => (still_forget start userId).trans (ih _)
  unfold dropStaleNode
  cases engine.nodeUsers.get? node with
  | none => exact ⟨rfl, rfl, rfl, rfl, le_rfl⟩
  | some users =>
    have gone := forgotten users.keys engine
    exact ⟨gone.voice, gone.online, gone.lasting, gone.pending, gone.drawn⟩

theorem still_tick : Still engine (engine.staleNodeTick now) := by
  have dropped : ∀ (rows : List (NodeId × Nat)) (timeout : Nat) (start : ChannelEngine),
      Still start (rows.foldl (fun engine row => if row.2 + timeout ≤ now then engine.dropStaleNode row.1 else engine)
        start) := by
    intro rows timeout
    induction rows with
    | nil => exact fun _ => .refl
    | cons row _ ih =>
      intro start
      refine Still.trans ?_ (ih _)
      dsimp only
      split
      · exact still_drop_node start row.1
      · exact .refl
  unfold staleNodeTick cleanupStaleNodes
  split
  · cases engine.backend with
    | none => exact .refl
    | some => exact dropped _ _ engine
  · exact .refl

theorem notes_act (op : EngineOp) :
    Notes engine (engine.act now op) (engine.tells op) (engine.notes op) (engine.pendingAfter op) := by
  have cache : engine.getOrCreatePresenceEngine.presenceCache = engine.getPresence := get_or_create_cache engine
  cases op with
  | addUser => exact notes_join engine
  | sendMessage | handlerNotFound => exact notes_send engine
  | broadcastMessage =>
    dsimp only [act, broadcastMessage]
    split
    · exact Still.refl.notes
    · exact (still_emit engine rfl rfl).notes
  | trackPresence userId =>
    refine notes_of_bodies (notes_presence_call engine _) ?_
    rw [presence_action_thrown]
    dsimp only [tells]
    cases known : engine.getPresence.has userId with
    | true =>
      obtain ⟨thrown, failed⟩ := engine.getOrCreatePresenceEngine.track_presence_present (cache ▸ known)
      rw [failed]
      rfl
    | false =>
      obtain ⟨event, done⟩ := engine.getOrCreatePresenceEngine.track_presence_absent (cache ▸ known)
      rw [done]
      rfl
  | updatePresence userId =>
    refine notes_of_bodies (notes_presence_call engine _) ?_
    rw [presence_action_thrown]
    dsimp only [tells]
    cases known : engine.getPresence.has userId with
    | true =>
      obtain ⟨event, done⟩ := engine.getOrCreatePresenceEngine.update_presence_present (cache ▸ known)
      rw [done]
      rfl
    | false =>
      obtain ⟨thrown, failed⟩ := engine.getOrCreatePresenceEngine.update_presence_absent (cache ▸ known)
      rw [failed]
      rfl
  | upsertPresence =>
    refine notes_of_bodies (notes_presence_call engine _) ?_
    obtain ⟨event, done⟩ := engine.getOrCreatePresenceEngine.upsert_presence_total
    rw [presence_action_thrown, done]
    rfl
  | removePresence userId =>
    dsimp only [act, removePresence, tells]
    cases created : engine.presenceEngine with
    | none =>
      have unknown : engine.getPresence.has userId = false := by simp [getPresence, created]
      rw [unknown]
      exact Still.refl.notes
    | some =>
      refine notes_of_bodies (notes_presence_call engine _) ?_
      rw [presence_action_thrown]
      cases known : engine.getPresence.has userId with
      | true =>
        obtain ⟨_, done⟩ := engine.getOrCreatePresenceEngine.remove_presence_present engine.uuid userId
          (cache ▸ known)
        rw [done]
        rfl
      | false =>
        obtain ⟨_, failed⟩ := engine.getOrCreatePresenceEngine.remove_presence_absent engine.uuid userId
          (cache ▸ known)
        rw [failed]
        rfl
  | updateAssigns userId assigns =>
    dsimp only [act, updateAssigns, tells]
    cases engine.assignsCache.get? userId with
    | none => exact Still.refl.notes
    | some current =>
      have merged : Still engine { engine with
          assignsCache := engine.assignsCache.set userId (current.merge assigns) } := ⟨rfl, rfl, rfl, rfl, le_rfl⟩
      exact merged.later (notes_broadcast _ _)
  | kickUser => exact notes_kick engine
  | requestUserRemoval => exact notes_broadcast engine _
  | getUserAcrossNodes userId =>
    dsimp only [act, getUserAcrossNodes, tells, notes, pendingAfter]
    split
    · have told := notes_broadcast { engine.drawUuid with
        pendingUserGets := engine.pendingUserGets.add engine.uuid } (.userGetRequest userId engine.uuid engine.nodeId)
      exact ⟨told.voice, told.lasting, told.pending, Nat.le_of_succ_le told.drawn⟩
    · rename_i alone
      have offline : engine.online = false := by simp [online, alone]
      have told := notes_emit engine (.resolveUserGet engine.uuid none) rfl rfl
      refine ⟨?_, told.lasting, told.pending, told.drawn⟩
      rw [told.voice, offline]
      rfl
  | userGetTimeout requestId => exact notes_answer engine requestId none
  | destroy => exact notes_destroy engine
  | close => exact notes_close engine
  | removeUser userId skip => exact notes_remove_user engine userId skip
  | distributedSubscribed =>
    have resumed : Still engine { engine with distributedReady := engine.distributedReady.map fun _ => true } :=
      ⟨rfl, rfl, rfl, rfl, le_rfl⟩
    dsimp only [act, distributedSubscribed, notes, releases]
    split
    · exact resumed.later (notes_emit _ _ rfl rfl)
    · exact Still.notes ⟨rfl, rfl, rfl, rfl, le_rfl⟩
  | distributedRejected => exact Still.notes ⟨rfl, rfl, rfl, rfl, le_rfl⟩
  | runReadyCallback =>
    dsimp only [act, runReadyCallback, tells]
    by_cases due : engine.distributedReady = some true ∧ 0 < engine.readyCallbacks
    · have taken : Still engine { engine with readyCallbacks := engine.readyCallbacks - 1 } :=
        ⟨rfl, rfl, rfl, rfl, le_rfl⟩
      rw [if_pos due, if_pos due]
      by_cases ended : engine.closed = true
      · have offline : engine.online = false := by simp [online, ended]
        rw [if_pos ended]
        refine ⟨?_, (append_nil _).symm, rfl, le_rfl⟩
        rw [offline]
        exact Voice.say_nothing.symm
      · rw [if_neg ended]
        exact taken.later (notes_broadcast _ _)
    · rw [if_neg due, if_neg due]
      exact Still.refl.notes
  | receive => exact notes_receive engine now
  | heartbeat =>
    dsimp only [act, heartbeat]
    split <;> exact Still.notes ⟨rfl, rfl, rfl, rfl, le_rfl⟩
  | staleNodeTick => exact (still_tick engine now).notes

theorem voice_act {engine : ChannelEngine} {now : Nat} {op : EngineOp} :
    (engine.act now op).voice = engine.voice.say (if engine.online then engine.tells op else []) :=
  (notes_act engine now op).voice

theorem released_act (op : EngineOp) :
    (engine.act now op).released = engine.released ++ engine.releases op := by
  have only : ∀ effects : List Effect, (effects.filter Effect.lasts).filter Effect.releases =
      effects.filter Effect.releases := by
    intro effects
    rw [filter_filter]
    apply filter_congr
    intro effect _
    cases effect <;> rfl
  have whole : (engine.releases op).filter Effect.releases = engine.releases op := by
    by_cases resumed : op = .distributedSubscribed
    · subst resumed
      unfold releases
      cases engine.closed <;> rfl
    rw [releases_call _ resumed]
    unfold release
    cases engine.tables.shuts op <;> cases engine.distributedSubscription <;> rfl
  have noted : (engine.notes op).filter Effect.releases = engine.releases op := by
    unfold notes
    split
    · split <;> rfl
    · split <;> rfl
    · split <;> rfl
    · exact whole
  have counted := congrArg (filter Effect.releases) (notes_act engine now op).lasting
  rw [filter_append, noted, lasting, lasting, only, only] at counted
  exact counted

end ChannelEngine

end PondSocket.Js
