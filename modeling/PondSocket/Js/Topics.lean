import PondSocket.Js.RouteGrammar
import PondSocket.Library.Run

namespace PondSocket.Js

open Library List

structure RedisOptions where
  keyPrefix : JsString := js "pondsocket"
  namespaceName : JsString := js "default"

structure Topic where
  endpointName : JsString
  channelName : JsString
deriving DecidableEq

def heartbeatName : JsString := js "__heartbeat__"

def heartbeatTopic : Topic := ⟨heartbeatName, heartbeatName⟩

def normalizeTopicPart (value : JsString) : JsString :=
  stripSlashes value

def buildKey (options : RedisOptions) (topic : Topic) : JsString :=
  if topic.endpointName = heartbeatName ∧ topic.channelName = heartbeatName then
    options.keyPrefix ++ js ":v1:" ++ options.namespaceName ++ js ":__heartbeat__"
  else
    options.keyPrefix ++ js ":v1:" ++ options.namespaceName ++ js ":" ++
      normalizeTopicPart topic.endpointName ++ js ":" ++ topic.channelName

structure TopicListener where
  nodeId : JsString
  key : JsString
  topic : Topic
deriving DecidableEq

-- A message as broadcast stamps it; isValidMessage looks at no value of it but
-- the protocol, the version and the type.
structure TopicMessage where
  endpointName : JsString
  channelName : JsString
  sourceNodeId : JsString
deriving DecidableEq

structure HandledMessage where
  handler : Topic
  broadcastOn : Topic
  message : TopicMessage
deriving DecidableEq

-- Redis with the backends of every node that share a prefix and a namespace.
structure TopicService where
  listeners : List TopicListener
  handled : List HandledMessage

inductive TopicOp where
  | subscribeToChannel (nodeId : JsString) (topic : Topic)
  | unsubscribe (nodeId : JsString) (topic : Topic)
  | broadcast (nodeId : JsString) (topic : Topic)

namespace TopicService

def empty : TopicService := ⟨[], []⟩

def subscribeToChannel (service : TopicService) (options : RedisOptions) (nodeId : JsString)
    (topic : Topic) : TopicService :=
  { service with listeners := service.listeners ++ [⟨nodeId, buildKey options topic, topic⟩] }

def unsubscribe (service : TopicService) (options : RedisOptions) (nodeId : JsString)
    (topic : Topic) : TopicService :=
  { service with
    listeners := service.listeners.filter (fun listener =>
      !(listener.nodeId = nodeId ∧ listener.key = buildKey options topic)) }

-- A listener looks at the source of a message, not at what it was broadcast on.
def broadcast (service : TopicService) (options : RedisOptions) (nodeId : JsString)
    (topic : Topic) : TopicService :=
  let message := ⟨normalizeTopicPart topic.endpointName, topic.channelName, nodeId⟩
  let reached := service.listeners.filter (fun listener =>
    listener.key = buildKey options topic ∧ message.sourceNodeId ≠ listener.nodeId)
  { service with
    handled := service.handled ++ reached.map (fun listener => ⟨listener.topic, topic, message⟩) }

def step (options : RedisOptions) (service : TopicService) : TopicOp → TopicService
  | .subscribeToChannel nodeId topic => service.subscribeToChannel options nodeId topic
  | .unsubscribe nodeId topic => service.unsubscribe options nodeId topic
  | .broadcast nodeId topic => service.broadcast options nodeId topic

-- A listener sits on the key of its topic, and what it handled was sent there.
structure Keyed (options : RedisOptions) (service : TopicService) : Prop where
  placed : ∀ listener ∈ service.listeners, listener.key = buildKey options listener.topic
  shared : ∀ record ∈ service.handled,
    buildKey options record.handler = buildKey options record.broadcastOn

theorem keyed_step {options : RedisOptions} {service : TopicService} {op : TopicOp}
    (keyed : service.Keyed options) : (step options service op).Keyed options := by
  cases op with
  | subscribeToChannel =>
    refine ⟨?_, keyed.shared⟩
    intro listener member
    rcases mem_append.mp member with known | fresh
    · exact keyed.placed listener known
    · rw [mem_singleton.mp fresh]
  | unsubscribe =>
    refine ⟨?_, keyed.shared⟩
    intro listener member
    exact keyed.placed listener (mem_filter.mp member).1
  | broadcast =>
    refine ⟨keyed.placed, ?_⟩
    intro record member
    rcases mem_append.mp member with known | fresh
    · exact keyed.shared record known
    obtain ⟨listener, reached, made⟩ := mem_map.mp fresh
    obtain ⟨there, heard⟩ := mem_filter.mp reached
    simp only [Bool.decide_and, Bool.and_eq_true, decide_eq_true_eq] at heard
    rw [← made]
    exact (keyed.placed listener there).symm.trans heard.1

theorem keyed_run {options : RedisOptions} {ops : List TopicOp} :
    (run (step options) empty ops).Keyed options := by
  refine run_keeps (step options) (fun _ _ => True) (Keyed options) ?_ empty ops ?_ ?_
  · exact fun service op keyed _ => keyed_step keyed
  · exact ⟨fun _ member => absurd member not_mem_nil, fun _ member => absurd member not_mem_nil⟩
  · exact follows_all _ _ _ _ (fun _ _ => trivial)

end TopicService

namespace Topic

variable (options : RedisOptions)

def identity (topic : Topic) : JsString × JsString :=
  (normalizeTopicPart topic.endpointName, topic.channelName)

-- The endpoint of the second goes on where that of the first ends, with what the
-- channel of the first starts with.
def Continues (first second : Topic) : Prop :=
  ∃ rest, normalizeTopicPart second.endpointName =
      normalizeTopicPart first.endpointName ++ colon :: rest ∧
    first.channelName = rest ++ colon :: second.channelName

def keyBase (options : RedisOptions) : JsString :=
  options.keyPrefix ++ js ":v1:" ++ options.namespaceName ++ js ":"

theorem key_heartbeat :
    buildKey options heartbeatTopic = keyBase options ++ heartbeatName := by
  have parted : js ":__heartbeat__" = js ":" ++ heartbeatName := by decide
  unfold buildKey
  rw [if_pos ⟨rfl, rfl⟩, keyBase, parted, ← append_assoc]

theorem key_channel (topic : Topic) (other : topic ≠ heartbeatTopic) :
    buildKey options topic = keyBase options ++
      (normalizeTopicPart topic.endpointName ++ colon :: topic.channelName) := by
  have mark : js ":" ++ topic.channelName = colon :: topic.channelName := rfl
  unfold buildKey
  rw [if_neg, keyBase, append_assoc _ (js ":") topic.channelName, mark,
    append_assoc _ (normalizeTopicPart topic.endpointName)]
  rintro ⟨endpoint, channel⟩
  exact other (by cases topic; cases endpoint; cases channel; rfl)

theorem heartbeat_key_iff (topic : Topic) :
    buildKey options topic = buildKey options heartbeatTopic ↔ topic = heartbeatTopic := by
  constructor
  · intro same
    by_contra other
    rw [key_heartbeat, key_channel options topic other] at same
    have inside : colon ∈ heartbeatName := by
      rw [← append_cancel_left same]
      exact mem_append_right _ mem_cons_self
    revert inside
    decide
  · rintro rfl
    rfl

theorem cut_at_colon (first second left right : JsString) :
    first ++ colon :: left = second ++ colon :: right ↔ (first = second ∧ left = right) ∨
      (∃ rest, second = first ++ colon :: rest ∧ left = rest ++ colon :: right) ∨
      (∃ rest, first = second ++ colon :: rest ∧ right = rest ++ colon :: left) := by
  rw [append_eq_append_iff]
  constructor
  · rintro (⟨more, shape, tail⟩ | ⟨more, shape, tail⟩)
    · cases more with
      | nil => exact .inl ⟨by simpa using shape.symm, by simpa using tail⟩
      | cons _ rest =>
        rw [cons_append, cons.injEq] at tail
        exact .inr (.inl ⟨rest, by rw [shape, tail.1], tail.2⟩)
    · cases more with
      | nil => exact .inl ⟨by simpa using shape, by simpa using tail.symm⟩
      | cons _ rest =>
        rw [cons_append, cons.injEq] at tail
        exact .inr (.inr ⟨rest, by rw [shape, tail.1], tail.2⟩)
  · rintro (⟨rfl, rfl⟩ | ⟨rest, shape, tail⟩ | ⟨rest, shape, tail⟩)
    · exact .inl ⟨[], by simp, rfl⟩
    · exact .inl ⟨colon :: rest, shape, by rw [tail]; rfl⟩
    · exact .inr ⟨colon :: rest, shape, by rw [tail]; rfl⟩

theorem same_key_iff (first second : Topic)
    (firstOther : first ≠ heartbeatTopic) (secondOther : second ≠ heartbeatTopic) :
    buildKey options first = buildKey options second ↔
      first.identity = second.identity ∨ first.Continues second ∨ second.Continues first := by
  rw [key_channel options first firstOther, key_channel options second secondOther,
    append_right_inj, cut_at_colon, identity, identity, Prod.mk.injEq]
  rfl

theorem continues_differs (first second : Topic) (continues : first.Continues second) :
    first.identity ≠ second.identity := by
  obtain ⟨_, shape, _⟩ := continues
  intro same
  have lengths := congrArg List.length ((congrArg Prod.fst same).trans shape)
  simp only [identity, length_append, length_cons] at lengths
  omega

-- Topics that are not the same one never meet on a key, and none on the heartbeat.
structure Isolated (options : RedisOptions) (first second : Topic) : Prop where
  keys : first.identity ≠ second.identity → buildKey options first ≠ buildKey options second
  heartbeat : buildKey options first ≠ buildKey options heartbeatTopic ∧
    buildKey options second ≠ buildKey options heartbeatTopic
  handled : first.identity ≠ second.identity → ∀ ops,
    ∀ record ∈ (run (TopicService.step options) .empty ops).handled,
      ¬ (record.handler = first ∧ record.broadcastOn = second) ∧
      ¬ (record.handler = second ∧ record.broadcastOn = first)

structure Apart (first second : Topic) : Prop where
  channels : first ≠ heartbeatTopic ∧ second ≠ heartbeatTopic
  apart : ¬ first.Continues second ∧ ¬ second.Continues first

theorem apart_isolated (first second : Topic) (apart : first.Apart second) : first.Isolated options second := by
  obtain ⟨⟨firstOther, secondOther⟩, forwards, backwards⟩ := apart
  have keys : first.identity ≠ second.identity → buildKey options first ≠ buildKey options second := by
    intro differ same
    rcases (same_key_iff options first second firstOther secondOther).mp same with
      equal | continues | continues
    · exact differ equal
    · exact forwards continues
    · exact backwards continues
  refine ⟨keys, ⟨?_, ?_⟩, ?_⟩
  · exact fun same => firstOther ((heartbeat_key_iff options first).mp same)
  · exact fun same => secondOther ((heartbeat_key_iff options second).mp same)
  · intro differ ops record member
    have shared := TopicService.keyed_run.shared record member
    constructor
    · rintro ⟨rfl, rfl⟩
      exact keys differ shared
    · rintro ⟨rfl, rfl⟩
      exact keys differ shared.symm

theorem isolated_apart (first second : Topic) (isolated : first.Isolated options second) : first.Apart second := by
  have firstOther : first ≠ heartbeatTopic :=
    fun same => isolated.heartbeat.1 ((heartbeat_key_iff options first).mpr same)
  have secondOther : second ≠ heartbeatTopic :=
    fun same => isolated.heartbeat.2 ((heartbeat_key_iff options second).mpr same)
  have shared := same_key_iff options first second firstOther secondOther
  refine ⟨⟨firstOther, secondOther⟩, ?_, ?_⟩
  · intro continues
    exact isolated.keys (continues_differs first second continues) (shared.mpr (.inr (.inl continues)))
  intro continues
  exact isolated.keys (continues_differs second first continues).symm (shared.mpr (.inr (.inr continues)))

theorem isolated_iff_apart (options : RedisOptions) (first second : Topic) :
    first.Isolated options second ↔ first.Apart second :=
  ⟨isolated_apart options first second, apart_isolated options first second⟩

theorem parameter_taken_for_channel :
    let first : Topic := ⟨js "/", js "room:c"⟩
    let second : Topic := ⟨js "/:room", js "c"⟩
    (∃ compiled, compilePondRoute first.endpointName = .ok compiled) ∧
      (∃ compiled, compilePondRoute second.endpointName = .ok compiled) ∧
      first.identity ≠ second.identity ∧
      buildKey {} first = js "pondsocket:v1:default::room:c" ∧
      buildKey {} second = js "pondsocket:v1:default::room:c" ∧
      (run (TopicService.step {}) .empty
          [.subscribeToChannel (js "a") first, .broadcast (js "b") second]).handled =
        [⟨first, second, ⟨js ":room", js "c", js "b"⟩⟩] ∧
      ¬ first.Isolated {} second := by
  refine ⟨⟨_, rfl⟩, ⟨_, rfl⟩, by decide, by decide, by decide, by decide +kernel, ?_⟩
  intro isolated
  exact isolated.keys (by decide) (by decide)

end Topic

end PondSocket.Js
