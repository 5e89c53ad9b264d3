import Mathlib.Data.Fintype.EquivFin
import PondSocket.Go.Envelope
import PondSocket.Go.PubSub
import PondSocket.Go.Recipients

namespace PondSocket.Go

open Library List OrderedMap
open Js (Json UserId NodeId)

namespace Address

def topicStem (address : Address) : GoString :=
  topicHead ++ address.namespaceName ++ [colon] ++ address.cleanEndpoint ++ [colon]

theorem channel_topic_split (address : Address) : address.channelTopic = address.topicStem ++ address.name := rfl

def Shadows (second first : Address) : Prop := ∃ stem, second.name = stem ++ dotStar ∧ stem <+: first.name

theorem colon_not_dot_star {start rest : GoString} {tail : GoString} (filled : rest ≠ [])
    (ends : start ++ [colon] = tail ++ rest) (spelled : ∃ after, dotStar = rest ++ after) : False := by
  obtain ⟨_, spelled⟩ := spelled
  have last : rest.getLast filled = colon := by
    have both := congrArg getLast? ends
    rw [getLast?_append_of_ne_nil _ (by simp), getLast?_append_of_ne_nil _ filled] at both
    rw [getLast?_eq_some_getLast filled] at both
    simpa using both.symm
  have inside : colon ∈ dotStar := by
    rw [spelled, ← last]
    exact mem_append_left _ (getLast_mem filled)
  exact absurd inside (by decide)

theorem match_channel_iff (first second : Address) (namespaces : second.namespaceOption = first.namespaceOption)
    (endpoints : second.endpointPath = first.endpointPath) (names : second.name ≠ first.name) :
    matchTopic second.channelTopic first.channelTopic = true ↔ second.Shadows first := by
  have stems : second.topicStem = first.topicStem := by
    simp [topicStem, namespaceName, cleanEndpoint, namespaces, endpoints]
  rw [match_topic_iff, channel_topic_split, channel_topic_split, stems]
  constructor
  · rintro (same | ⟨stem, _, spelled, start⟩)
    · exact absurd (append_cancel_left same) names
    · rcases append_eq_append_iff.mp spelled with ⟨rest, rfl, ending⟩ | ⟨rest, head, ending⟩
      · exact ⟨rest, ending, (prefix_append_right_inj _).mp start⟩
      · cases rest with
        | nil => exact ⟨[], by simpa using ending.symm, nil_prefix⟩
        | cons => exact (colon_not_dot_star (cons_ne_nil _ _) head ⟨_, ending⟩).elim
  · rintro ⟨stem, spelled, start⟩
    refine .inr ⟨first.topicStem ++ stem, ?_, ?_, (prefix_append_right_inj _).mpr start⟩
    · simp [topicStem]
    · rw [spelled, append_assoc]

theorem match_heartbeat (first second : Address) (namespaces : second.namespaceOption = first.namespaceOption) :
    matchTopic second.heartbeatTopic first.channelTopic = false := by
  rw [Bool.eq_false_iff, Ne, match_topic_iff]
  have written : second.heartbeatTopic = topicHead ++ first.namespaceName ++ [colon] ++ heartbeatTail := by
    simp only [heartbeatTopic, formatHeartbeatTopic, namespaceName, namespaces]
    by_cases unset : first.namespaceOption = []
    · rw [if_pos unset]
      rfl
    · simp [unset]
  rintro (same | ⟨stem, _, spelled, _⟩)
  · have tails : heartbeatTail = first.cleanEndpoint ++ [colon] ++ first.name := by
      rw [written, channelTopic, formatTopicNS] at same
      simpa [append_assoc] using same
    have inside : colon ∈ heartbeatTail := by
      rw [tails]
      simp
    exact absurd inside (by decide +kernel)
  · have last := congrArg getLast? spelled
    rw [written, getLast?_append_of_ne_nil _ (by decide +kernel), getLast?_append_of_ne_nil _ (by decide)] at last
    exact absurd last (by decide +kernel)

end Address

theorem fresh_user {taken : List UserId} : ∃ userId, userId ≠ "" ∧ userId ∉ taken := by
  obtain ⟨userId, absent⟩ := Infinite.exists_notMem_finset ("" :: taken).toFinset
  simp only [mem_toFinset, mem_cons, not_or] at absent
  exact ⟨userId, absent.1, absent.2⟩

namespace Channel

-- What reaches a registered handler of the second channel from the first one's
-- topic leaves it as it was and queues nothing for its connections.
def IsolatedFrom (channel : Channel) (second first : Address) : Prop :=
  ∀ (pubsub : LocalPubSub) (sub : Subscription) (moment : Moment) (data : Json), channel.distributed = true →
    sub ∈ pubsub.subs → sub.pattern = second.topic sub.handler → pubsub.takes first.channelTopic sub = true →
      channel.handle moment data sub.handler = (channel, none)

variable {channel : Channel}

theorem handle_done {moment : Moment} {data : Json} {handler : Handler} (done : channel.done = true) :
    channel.handle moment data handler = (channel, none) := by
  cases handler with
  | channelTopic => simp [handle, onChannelTopic, checkState, done]
  | heartbeatTopic => simp [handle, onHeartbeatTopic, checkState, done]

theorem join_enters (moment : Moment) (stamp : Stamp) (endpoint name : String) (nodeId : NodeId) {userId : UserId}
    (running : channel.done = false) (foreign : nodeId ≠ channel.nodeId) (named : userId ≠ "")
    (stranger : channel.store.has userId = false) :
    ((channel.onChannelTopic moment
      (encodeUserJoined stamp endpoint name nodeId userId (.object []) (.object []))).1).remoteAssigns.has userId =
        true := by
  have missing : ∃ failure, channel.store.read userId = .error failure := by
    cases read : channel.store.read userId with
    | error failure => exact ⟨failure, rfl⟩
    | ok =>
      have present := channel.store.read_has read
      rw [stranger] at present
      cases present
  obtain ⟨_, read⟩ := missing
  have decoded : decodeEnvelope (encodeUserJoined stamp endpoint name nodeId userId (.object []) (.object [])) =
      some { newEnvelope .userJoined name nodeId with
        userId := userId, presence := .object [], assigns := .object [] } :=
    DistributedEnvelope.decode_marshal _ stamp endpoint rfl
  rw [onChannelTopic, checkState, running]
  simp only [Bool.false_eq_true, if_false, handleDistributedMessage, decoded]
  rw [if_neg (by exact foreign)]
  simp only [handleEnvelope, newEnvelope, handleRemoteUserJoined, if_neg named, read]
  rw [track_frame, adopt_frame]
  exact has_set.mpr (.inl rfl)

theorem isolated_iff (channel : Channel) (first second : Address)
    (namespaces : second.namespaceOption = first.namespaceOption)
    (endpoints : second.endpointPath = first.endpointPath) (names : second.name ≠ first.name) :
    channel.IsolatedFrom second first ↔ channel.distributed = false ∨ channel.done = true ∨ ¬ second.Shadows first := by
  have channels := Address.match_channel_iff first second namespaces endpoints names
  constructor
  · intro isolated
    by_contra open_
    simp only [not_or, not_not, Bool.not_eq_false, Bool.not_eq_true] at open_
    obtain ⟨distributed, running, shadows⟩ := open_
    obtain ⟨userId, named, absent⟩ := fresh_user
    obtain ⟨stranger, unknown⟩ := not_or.mp fun member => absent (mem_append.mpr member)
    have entered := join_enters ⟨0, "", true⟩ ⟨"", 0, by decide⟩ "" "" (channel.nodeId ++ "'") running
      (by simp) named (Bool.eq_false_iff.mpr fun present => stranger (mem_keys.mpr present))
    have taken : (LocalPubSub.mk 1 [⟨second.channelTopic, 0, .channelTopic, [], false⟩] false).takes first.channelTopic
        ⟨second.channelTopic, 0, .channelTopic, [], false⟩ = true := by
      simp [LocalPubSub.takes, channels.mpr shadows]
    have unchanged := isolated _ ⟨second.channelTopic, 0, .channelTopic, [], false⟩ ⟨0, "", true⟩
      (encodeUserJoined ⟨"", 0, by decide⟩ "" "" (channel.nodeId ++ "'") userId (.object []) (.object [])) distributed
      (mem_singleton_self _) rfl taken
    rw [handle] at unchanged
    rw [unchanged] at entered
    exact unknown (mem_keys.mpr entered)
  · rintro apart pubsub sub moment data distributed _ registered taken
    have fits : matchTopic (second.topic sub.handler) first.channelTopic = true := by
      simp only [LocalPubSub.takes, Bool.and_eq_true, registered] at taken
      exact taken.1.2
    rcases apart with alone | done | unshadowed
    · rw [alone] at distributed
      cases distributed
    · exact handle_done done
    · cases handler : sub.handler with
      | channelTopic =>
        rw [handler] at fits
        exact absurd (channels.mp fits) unshadowed
      | heartbeatTopic =>
        rw [handler, Address.topic, Address.match_heartbeat first second namespaces] at fits
        cases fits

end Channel

def endpointChannel (name : String) : Address := ⟨[], bytes "/api", bytes name⟩

def overhearing : Channel := ((emptyRoom "room.*").addUser ⟨"a", 0, none⟩).1

def roomMessage : Json :=
  { newEnvelope .userMessage "room1" "node-2" with
    fromUserId := "b", event := "secret", recipientDescriptor := .string "ALL_USERS" }.marshal ⟨"message-1", 0, epoch_fits⟩
      "api"

def roomSubscription : Subscription := ⟨(endpointChannel "room.*").channelTopic, 0, .channelTopic, [], false⟩

namespace Channel

-- What is said in room1 is delivered to the users of room.*.
theorem wildcard_name_overhears :
    (endpointChannel "room.*").name ≠ (endpointChannel "room1").name ∧
      (LocalPubSub.mk 100 [roomSubscription] false).takes (endpointChannel "room1").channelTopic roomSubscription = true ∧
      (overhearing.handle ⟨0, "uuid", true⟩ roomMessage roomSubscription.handler).2.map InternalEvent.recipients =
        some ["a"] := by
  decide +kernel

theorem plain_names_isolated : overhearing.IsolatedFrom (endpointChannel "room2") (endpointChannel "room1") := by
  have names : (endpointChannel "room2").name ≠ (endpointChannel "room1").name := by decide +kernel
  refine (isolated_iff overhearing (endpointChannel "room1") (endpointChannel "room2") rfl rfl names).mpr
    (.inr (.inr fun shadows => ?_))
  have matched := (Address.match_channel_iff (endpointChannel "room1") (endpointChannel "room2") rfl rfl names).mpr shadows
  exact absurd matched (by decide +kernel)

end Channel

end PondSocket.Go
