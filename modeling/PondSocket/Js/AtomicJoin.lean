import PondSocket.Js.Wiring

namespace PondSocket.Js.ChannelEngine

open Library List

variable (engine : ChannelEngine) (userId : UserId) (assigns : PondAssigns) (onMessage : ConnectionId)
  (requestId : RequestId)

def handedReply : Effect :=
  .handed ⟨userId, onMessage⟩
    { channelName := engine.name, requestId := requestId, action := .system, event := Events.acknowledge,
      payload := .message .empty }

def isHanded : Effect → Bool
  | .handed _ _ => true
  | _ => false

structure Added (outcome : Outcome) : Prop where
  returned : outcome.thrown = none
  listed : outcome.engine.assignsCache.get? userId = some assigns
  open_publisher : outcome.engine.publisher.isClosed = false
  subscribed : ∃ id, outcome.engine.userSubscriptions.get? userId = some id ∧
    outcome.engine.publisher.observers.get? id = some ⟨userId, onMessage⟩
  acknowledged : ∃ later, outcome.engine.effects =
    engine.effects ++ engine.handedReply userId onMessage requestId :: later ∧ later.all (!isHanded ·) = true

def Refused (outcome : Outcome) : Prop := outcome.thrown ≠ none ∧ outcome.engine = engine

def Atomic (outcome : Outcome) : Prop :=
  engine.Added userId assigns onMessage requestId outcome ∨ engine.Refused outcome

structure Quiet (before after : ChannelEngine) : Prop where
  assignsCache : after.assignsCache = before.assignsCache
  userSubscriptions : after.userSubscriptions = before.userSubscriptions
  publisher : after.publisher = before.publisher
  effects : ∃ later, after.effects = before.effects ++ later ∧ later.all (!isHanded ·) = true

theorem quiet_refl : Quiet engine engine := ⟨rfl, rfl, rfl, [], (append_nil _).symm, rfl⟩

theorem quiet_trans (before between after : ChannelEngine) (first : Quiet before between)
    (second : Quiet between after) : Quiet before after := by
  obtain ⟨early, one, silent⟩ := first.effects
  obtain ⟨late, two, still⟩ := second.effects
  refine ⟨second.assignsCache.trans first.assignsCache, second.userSubscriptions.trans first.userSubscriptions,
    second.publisher.trans first.publisher, early ++ late, ?_, ?_⟩
  · rw [two, one, append_assoc]
  · rw [all_append, silent, still]
    rfl

theorem quiet_broadcast {body : MessageBody} : Quiet engine (engine.broadcastToNodes body) := by
  unfold broadcastToNodes
  split
  · exact ⟨rfl, rfl, rfl, _, rfl, rfl⟩
  · exact quiet_refl engine

theorem quiet_ready : Quiet engine engine.afterDistributedReady := by
  unfold afterDistributedReady requestChannelState
  split
  · exact quiet_broadcast engine
  · exact ⟨rfl, rfl, rfl, [], (append_nil _).symm, rfl⟩

def joining : ChannelEngine :=
  { engine with
    assignsCache := engine.assignsCache.set userId assigns
    userSubscriptions := engine.userSubscriptions.set userId engine.publisher.nextId
    publisher := engine.publisher.attach ⟨userId, onMessage⟩
    effects := engine.effects ++ [engine.handedReply userId onMessage requestId] }

theorem added_of_quiet (deaf : engine.publisher.isClosed = false) (after : ChannelEngine)
    (quiet : Quiet (engine.joining userId assigns onMessage requestId) after) :
    engine.Added userId assigns onMessage requestId ⟨after, none⟩ := by
  obtain ⟨later, effects, silent⟩ := quiet.effects
  refine ⟨rfl, ?_, ?_, ⟨engine.publisher.nextId, ?_, ?_⟩, later, ?_, silent⟩
  · rw [quiet.assignsCache]
    exact (OrderedMap.get_set _ _ _ _).trans (if_pos rfl)
  · rw [quiet.publisher]
    exact deaf
  · rw [quiet.userSubscriptions]
    exact (OrderedMap.get_set _ _ _ _).trans (if_pos rfl)
  · rw [quiet.publisher]
    exact (Subject.attach_get _).trans (if_pos rfl)
  · rw [effects, joining, append_assoc]
    rfl

-- Joining goes through whole, or changes nothing, exactly unless the publisher was closed under a user to be added.
theorem add_user_atomic_iff :
    engine.Atomic userId assigns onMessage requestId (engine.addUser userId assigns onMessage requestId) ↔
      engine.assignsCache.has userId = true ∨ engine.publisher.isClosed = false := by
  unfold addUser
  cases listed : engine.assignsCache.has userId with
  | true =>
    simp only [if_true, true_or, iff_true]
    exact .inr ⟨by simp, rfl⟩
  | false =>
    cases deaf : engine.publisher.isClosed with
    | true =>
      simp only [buildSubscriber, Subject.subscribe, emit, deaf, if_true, Bool.false_eq_true, if_false]
      refine ⟨fun atomic => ?_, fun either => by simp at either⟩
      rcases atomic with added | refused
      · cases added.returned
      · have kept := congrArg (fun engine => engine.effects.length) refused.2
        simp at kept
    | false =>
      simp only [buildSubscriber, Subject.subscribe, emit, deaf, Bool.false_eq_true, if_false, or_true, iff_true]
      refine .inl (added_of_quiet engine userId assigns onMessage requestId deaf _ (quiet_trans _ _ _ ?_
        (quiet_broadcast _)))
      split
      · exact quiet_ready (engine.joining userId assigns onMessage requestId)
      · exact quiet_refl (engine.joining userId assigns onMessage requestId)

theorem closed_engine_half_joined :
    ¬ ∀ (backend : DistributedBackend) (engine : ChannelEngine), engine.Reachable "/api" "/room" backend →
      ∀ userId assigns onMessage requestId,
        engine.Atomic userId assigns onMessage requestId (engine.addUser userId assigns onMessage requestId) := by
  intro claim
  have atomic := claim ⟨"n", 0⟩ _ ⟨[(0, .addUser "u" .empty "c" (.supplied "r")), (0, .removeUser "u" false)], rfl⟩
    "v" .empty "d" (.supplied "s")
  rcases atomic with added | refused
  · have threw : (ChannelEngine.addUser _ "v" .empty "d" (.supplied "s")).thrown = none := added.returned
    cases threw
  · have kept := congrArg (fun engine => engine.assignsCache.has "v") refused.2
    cases kept

end PondSocket.Js.ChannelEngine
