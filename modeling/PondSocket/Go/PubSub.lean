import PondSocket.Go.Remote

namespace PondSocket.Go

open Library List
open Js (Json UserId NodeId)

abbrev GoString := List UInt8

def bytes (text : String) : GoString := text.toUTF8.data.toList

def colon : UInt8 := 58

def slash : UInt8 := 47

def dotStar : GoString := [46, 42]

def matchTopic (pattern topic : GoString) : Bool :=
  if pattern = topic then true
  else if 2 < pattern.length ∧ pattern.drop (pattern.length - 2) = dotStar then
    let stem := pattern.take (pattern.length - 2)
    decide (stem.length ≤ topic.length ∧ topic.take stem.length = stem)
  else false

def defaultNamespace : GoString := bytes "default"

def topicHead : GoString := bytes "pondsocket:v1:"

def heartbeatTail : GoString := bytes "__heartbeat__"

def formatTopicNS (namespaceName endpoint channel : GoString) : GoString :=
  topicHead ++ namespaceName ++ [colon] ++ endpoint ++ [colon] ++ channel

def formatHeartbeatTopic (namespaceName : GoString) : GoString :=
  topicHead ++ (if namespaceName = [] then defaultNamespace else namespaceName) ++ [colon] ++ heartbeatTail

structure Address where
  namespaceOption : GoString
  endpointPath : GoString
  name : GoString
deriving DecidableEq

namespace Address

def namespaceName (address : Address) : GoString :=
  if address.namespaceOption = [] then defaultNamespace else address.namespaceOption

def cleanEndpoint (address : Address) : GoString :=
  match address.endpointPath with
  | [] => []
  | first :: rest => if first = slash then rest else first :: rest

def channelTopic (address : Address) : GoString :=
  formatTopicNS address.namespaceName address.cleanEndpoint address.name

def heartbeatTopic (address : Address) : GoString := formatHeartbeatTopic address.namespaceName

end Address

inductive Handler where
  | channelTopic
  | heartbeatTopic
deriving DecidableEq

def Address.topic (address : Address) : Handler → GoString
  | .channelTopic => address.channelTopic
  | .heartbeatTopic => address.heartbeatTopic

def Channel.handle (channel : Channel) (moment : Moment) (data : Json) : Handler → Channel × Option InternalEvent
  | .channelTopic => channel.onChannelTopic moment data
  | .heartbeatTopic => (channel.onHeartbeatTopic moment.now data, none)

structure PubSubMessage where
  topic : GoString
  data : Json

structure Subscription where
  pattern : GoString
  owner : Nat
  handler : Handler
  ch : List PubSubMessage
  cancelled : Bool

structure LocalPubSub where
  bufferSize : Nat
  subs : List Subscription
  closed : Bool

namespace LocalPubSub

def new (bufferSize : Int) : LocalPubSub := ⟨if bufferSize ≤ 0 then 100 else bufferSize.toNat, [], false⟩

def subscribe (pubsub : LocalPubSub) (pattern : GoString) (owner : Nat) (handler : Handler) : LocalPubSub :=
  if pubsub.closed then pubsub else { pubsub with subs := pubsub.subs ++ [⟨pattern, owner, handler, [], false⟩] }

def unsubscribe (pubsub : LocalPubSub) (pattern : GoString) : LocalPubSub :=
  if pubsub.closed then pubsub
  else
    { pubsub with
      subs := pubsub.subs.map fun sub => if sub.pattern = pattern then { sub with cancelled := true } else sub }

def takes (pubsub : LocalPubSub) (topic : GoString) (sub : Subscription) : Bool :=
  !pubsub.closed && !sub.cancelled && matchTopic sub.pattern topic && decide (sub.ch.length < pubsub.bufferSize)

def publish (pubsub : LocalPubSub) (topic : GoString) (data : Json) : LocalPubSub :=
  { pubsub with
    subs := pubsub.subs.map fun sub =>
      if pubsub.takes topic sub then { sub with ch := sub.ch ++ [⟨topic, data⟩] } else sub }

def close (pubsub : LocalPubSub) : LocalPubSub :=
  { pubsub with closed := true, subs := pubsub.subs.map fun sub => { sub with cancelled := true } }

end LocalPubSub

theorem match_topic_iff {pattern topic : GoString} :
    matchTopic pattern topic = true ↔
      pattern = topic ∨ ∃ stem, stem ≠ [] ∧ pattern = stem ++ dotStar ∧ stem <+: topic := by
  unfold matchTopic
  by_cases same : pattern = topic
  · simp [same]
  rw [if_neg same]
  simp only [same, false_or]
  by_cases wild : 2 < pattern.length ∧ pattern.drop (pattern.length - 2) = dotStar
  · rw [if_pos wild]
    have split : pattern = pattern.take (pattern.length - 2) ++ dotStar := by
      rw [← wild.2, take_append_drop]
    simp only [decide_eq_true_eq]
    constructor
    · rintro ⟨_, start⟩
      refine ⟨pattern.take (pattern.length - 2), ?_, split, ?_⟩
      · intro nil
        have short := congrArg List.length nil
        simp only [length_take, length_nil] at short
        omega
      · rw [← start]
        exact take_prefix _ _
    · rintro ⟨stem, _, spelled, rest, rfl⟩
      have taken : pattern.take (pattern.length - 2) = stem := by
        rw [spelled]
        simp [dotStar]
      rw [taken]
      simp
  · rw [if_neg wild]
    simp only [Bool.false_eq_true, false_iff, not_exists, not_and]
    rintro stem some rfl
    refine absurd ⟨?_, ?_⟩ wild
    · have positive := length_pos_iff.mpr some
      simp [dotStar]
      omega
    · simp [dotStar]

end PondSocket.Go
