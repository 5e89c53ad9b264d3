import PondSocket.Js.ChannelTables

namespace PondSocket.Js

open Library

def Effect.handed? : Effect → Option (Subscriber × ChannelEvent)
  | .handed subscriber event => some (subscriber, event)
  | _ => none

namespace ChannelEngine

variable (engine : ChannelEngine) (userId : UserId)

def handed (engine : ChannelEngine) : List (Subscriber × ChannelEvent) := engine.effects.filterMap Effect.handed?

def audience (engine : ChannelEngine) (recipients : List UserId) (event : ChannelEvent) :
    List (Subscriber × ChannelEvent) :=
  (engine.publisher.observers.values.filter fun subscriber => recipients.contains subscriber.userId).map
    fun subscriber => (subscriber, event)

def presenceSays (engine : ChannelEngine)
    (action : PresenceEngine → RequestId → Except Thrown (PresenceEngine × InternalChannelEvent)) :
    List (Subscriber × ChannelEvent) :=
  match action engine.getOrCreatePresenceEngine engine.uuid with
  | .error _ => []
  | .ok (_, event) => engine.audience event.recipients event.toChannelEvent

def removalSays (engine : ChannelEngine) (userId : UserId) : List (Subscriber × ChannelEvent) :=
  if engine.presenceEngine.isSome then
    engine.presenceSays fun presence requestId => presence.removePresence requestId userId
  else []

def acknowledgement (engine : ChannelEngine) (requestId : RequestId) : ChannelEvent where
  channelName := engine.name
  requestId := requestId
  action := .system
  event := Events.acknowledge
  payload := .message .empty

theorem handed_publish {event : InternalChannelEvent} :
    (engine.publish event).handed = engine.handed ++ engine.audience event.recipients event.toChannelEvent := by
  simp [handed, publish, audience, Function.comp_def, Effect.handed?]

theorem handed_emit {effect : Effect} (silent : effect.handed? = none) :
    (engine.emit effect).handed = engine.handed := by
  simp [handed, emit, silent]

theorem handed_broadcast (body : MessageBody) :
    (engine.broadcastToNodes body).handed = engine.handed := by
  simp only [broadcastToNodes]
  split
  · exact handed_emit engine rfl
  · rfl

theorem handed_presence_action
    (action : PresenceEngine → RequestId → Except Thrown (PresenceEngine × InternalChannelEvent)) :
    (engine.presenceAction action).engine.handed = engine.handed ++ engine.presenceSays action := by
  simp only [presenceAction, presenceSays]
  cases action engine.getOrCreatePresenceEngine engine.uuid with
  | error => exact (List.append_nil _).symm
  | ok => exact handed_publish _

theorem handed_safe_remove :
    (engine.safeRemovePresence userId).handed = engine.handed ++ engine.removalSays userId := by
  simp only [safeRemovePresence, removalSays]
  split
  · exact handed_presence_action engine _
  · exact (List.append_nil _).symm

theorem removal_says_nothing (absent : engine.getPresence.has userId = false) : engine.removalSays userId = [] := by
  simp only [removalSays, presenceSays]
  obtain ⟨thrown, failed⟩ := engine.getOrCreatePresenceEngine.remove_presence_absent engine.uuid userId
    (by rw [get_or_create_cache]; exact absent)
  rw [failed]
  split <;> rfl

theorem handed_forget :
    (engine.forget userId).handed = engine.handed ++ engine.removalSays userId :=
  handed_safe_remove { engine with assignsCache := engine.assignsCache.delete userId } userId

theorem handed_unsubscribe :
    (engine.unsubscribeUser userId).handed = engine.handed := by
  simp only [unsubscribeUser]
  split <;> rfl

theorem handed_close : engine.close.handed = engine.handed := by
  simp only [close]
  rw [handed_emit _ rfl]
  split
  · exact handed_emit _ rfl
  · rfl

theorem handed_remove_user {skip : Bool} :
    (engine.removeUser userId skip).handed =
      engine.handed ++ if engine.tables.knows userId then engine.removalSays userId else [] := by
  simp only [removeUser]
  cases data : engine.getUserData userId with
  | error =>
    have unknown : ¬ engine.tables.knows userId = true := by
      rw [get_user_data_ok, data]
      simp
    rw [if_neg unknown, List.append_nil]
  | ok userData =>
    rw [if_pos ((get_user_data_ok engine userId).mpr ⟨userData, data⟩), handed_emit _ rfl]
    have closing : ∀ next : ChannelEngine,
        (if next.assignsCache.isEmpty then next.close else next).handed = next.handed := by
      intro next
      split
      · exact handed_close next
      · rfl
    rw [closing]
    have telling : ∀ next : ChannelEngine,
        (if skip then next else next.broadcastToNodes (.userLeft userId)).handed = next.handed := by
      intro next
      split
      · rfl
      · exact handed_broadcast next _
    rw [telling, handed_unsubscribe, handed_forget]

theorem handed_after_ready : engine.afterDistributedReady.handed = engine.handed := by
  simp only [afterDistributedReady]
  split
  · exact handed_broadcast engine _
  · rfl

theorem handed_add_user (assigns : PondAssigns) (onMessage : ConnectionId) (requestId : RequestId) :
    (engine.addUser userId assigns onMessage requestId).engine.handed = engine.handed ++
        if engine.assignsCache.has userId then [] else [(⟨userId, onMessage⟩, engine.acknowledgement requestId)] := by
  have acknowledged : (engine.emit (.handed ⟨userId, onMessage⟩ (engine.acknowledgement requestId))).handed =
      engine.handed ++ [(⟨userId, onMessage⟩, engine.acknowledgement requestId)] := by
    simp [handed, emit, Effect.handed?]
  simp only [addUser]
  cases listed : engine.assignsCache.has userId with
  | true => simp
  | false =>
    cases deaf : engine.publisher.isClosed with
    | true =>
      simp only [buildSubscriber, Subject.subscribe, emit, deaf, Bool.false_eq_true, if_false, if_true]
      exact acknowledged
    | false =>
      simp only [buildSubscriber, Subject.subscribe, emit, deaf, Bool.false_eq_true, if_false]
      rw [handed_broadcast]
      split
      · exact (handed_after_ready _).trans acknowledged
      · exact acknowledged

variable {engine userId}

theorem handed_update_assigns {assigns : PondMessage} :
    (engine.updateAssigns userId assigns).engine.handed = engine.handed := by
  simp only [updateAssigns]
  split
  · rfl
  · exact handed_broadcast _ _

end ChannelEngine

end PondSocket.Js
