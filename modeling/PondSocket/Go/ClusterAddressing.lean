import PondSocket.Go.ClusterLookups

namespace PondSocket.Go

open Library List
open Js (Json UserId NodeId)

variable {item : InternalEvent}

namespace Dispatcher

variable (dispatcher : Dispatcher) (requestId : String)

def handedOn (dispatcher : Dispatcher) (requestId : String) (userId : UserId) : Nat :=
  dispatcher.passed.countP fun item =>
    decide (item.point = .pipeline ∧ item.connection.id = userId ∧
      (dispatcher.queued[item.number]?).any (about requestId) = true)

def Started (dispatcher : Dispatcher) : Prop :=
  match dispatcher.loop with
  | .reading | .spawning _ => False
  | .waiting | .awaiting | .stopped => True

structure Through (dispatcher : Dispatcher) (requestId : String) : Prop where
  senders : ∀ item ∈ dispatcher.senders, item.event.requestId ≠ requestId
  taken : ∀ (number : Nat) (item : InternalEvent), dispatcher.queued[number]? = some item →
    item.event.requestId = requestId →
      number < dispatcher.taken ∧ (number + 1 = dispatcher.taken → dispatcher.Started) ∧
        ∀ worker ∈ dispatcher.workers, worker.number = number → worker.stage ≠ .entered

variable {userId : UserId}

theorem through_handed {number : Nat} (there : dispatcher.queued[number]? = some item)
    (own : item.event.requestId = requestId) (through : dispatcher.Through requestId)
    (accounted : dispatcher.Accounted) : dispatcher.handed number userId = item.recipients.count userId := by
  obtain ⟨taken, started, workers⟩ := through.taken number item there own
  have counted := accounted.counted number userId
  have listed : dispatcher.listed number userId = item.recipients.count userId := by
    rw [listed, there]
  have no_worker : dispatcher.entered number userId = 0 := by
    rw [entered, countP_eq_zero]
    intro worker member
    rw [decide_eq_true_eq]
    exact fun both => workers worker member both.1 both.2.2
  have nothing_due : dispatcher.due number userId = 0 := by
    rw [due]
    rw [Started] at started
    cases loop : dispatcher.loop with
    | waiting | awaiting | stopped => exact if_neg (by omega)
    | reading =>
      rw [loop] at started
      have last : number + 1 ≠ dispatcher.taken := started
      exact if_neg (by omega)
    | spawning =>
      rw [loop] at started
      have last : number + 1 ≠ dispatcher.taken := started
      dsimp only
      rw [if_neg (by omega), if_neg (by omega)]
  omega

theorem handed_once {number : Nat} (there : dispatcher.queued[number]? = some item)
    (own : item.event.requestId = requestId)
    (only : ∀ (other : Nat) (found : InternalEvent), dispatcher.queued[other]? = some found →
      about requestId found = true → other = number) :
    dispatcher.handedOn requestId userId = dispatcher.handed number userId := by
  apply countP_congr
  intro passed _
  rw [decide_eq_true_eq, decide_eq_true_eq]
  constructor
  · intro known
    obtain ⟨point, user, told⟩ := known
    cases found : dispatcher.queued[passed.number]? with
    | none =>
      rw [found] at told
      cases told
    | some event =>
      rw [found] at told
      exact ⟨only passed.number event found told, user, point⟩
  · intro known
    obtain ⟨place, user, point⟩ := known
    refine ⟨point, user, ?_⟩
    rw [place, there]
    exact decide_eq_true own

theorem handed_never (absent : dispatcher.queued.countP (about requestId) = 0) :
    dispatcher.handedOn requestId userId = 0 := by
  rw [handedOn, countP_eq_zero]
  intro passed _
  rw [decide_eq_true_eq]
  intro known
  obtain ⟨_, _, told⟩ := known
  cases found : dispatcher.queued[passed.number]? with
  | none =>
    rw [found] at told
    cases told
  | some event =>
    rw [found] at told
    exact countP_eq_zero.mp absent event (mem_of_getElem? found) told

end Dispatcher

namespace MessageCluster

variable (placement : List Channel)

variable (cluster : MessageCluster)

structure Handled (cluster : MessageCluster) (sending : SendCall) : Prop where
  sent : sending.phase = .sent
  transit : ∀ data, cluster.InTransit data → requestOf data ≠ some sending.message.requestId
  through : ∀ node ∈ cluster.nodes, node.dispatcher.Through sending.message.requestId

-- It has been handed to the pipeline of each addressed user of each node once,
-- of nobody else, and under its name and with its payload.
structure Served (cluster : MessageCluster) (sending : SendCall) : Prop where
  once : ∀ node ∈ cluster.nodes, ∀ userId, node.channel.connections.has userId = true →
    sending.message.Addresses userId → node.dispatcher.handedOn sending.message.requestId userId = 1
  others : ∀ node ∈ cluster.nodes, ∀ userId,
    ¬ (node.channel.connections.has userId = true ∧ sending.message.Addresses userId) →
      node.dispatcher.handedOn sending.message.requestId userId = 0
  alike : ∀ node ∈ cluster.nodes, ∀ item ∈ node.dispatcher.queued,
    item.event.requestId = sending.message.requestId →
      item.event.event = sending.message.event ∧ item.event.payload = sending.message.payload

structure Quiet (cluster : MessageCluster) : Prop where
  transit : ∀ data, ¬ cluster.InTransit data
  requests : ∀ node ∈ cluster.nodes, node.requests = []
  calls : ∀ sending ∈ cluster.calls, sending.phase ≠ .found

-- A call fails, or waits for ever, only for a sender who is nowhere in the channel.
structure Addressing (cluster : MessageCluster) : Prop where
  served : ∀ sending ∈ cluster.calls, cluster.Handled sending → cluster.Served sending
  refused : ∀ sending ∈ cluster.calls, sending.phase = .refused → ∀ node ∈ cluster.nodes,
    ¬ Hosts node.channel sending.message
  silent : ∀ sending ∈ cluster.calls, sending.phase ≠ .sent → ∀ node ∈ cluster.nodes, ∀ userId,
    node.dispatcher.handedOn sending.message.requestId userId = 0
  settled : cluster.Quiet → ∀ sending ∈ cluster.calls, ∀ node ∈ cluster.nodes, Hosts node.channel sending.message →
    sending.phase = .sent

structure Sound (placement : List Channel) (cluster : MessageCluster) : Prop where
  flow : cluster.Flow placement
  even : cluster.Even
  lookups : cluster.Lookups

variable {placement}

theorem sound_act (placed : Placement placement) (cluster : MessageCluster)
    (label : ClusterLabel) (sound : cluster.Sound placement) (lossless : cluster.Lossless label) :
    (cluster.act label).Sound placement :=
  ⟨flow_act lossless sound.flow, even_act placement placed lossless sound.flow sound.even,
    lookups_act placed lossless sound.flow sound.lookups⟩

variable {sending : SendCall}

theorem conveyed_own {node : ClusterNode} (known : sending ∈ cluster.calls) (member : node ∈ cluster.nodes)
    (listed : item ∈ node.dispatcher.queued) (own : item.event.requestId = sending.message.requestId)
    (flow : cluster.Flow placement) : sending.message.Conveyed node.channel item := by
  obtain ⟨_, there, conveyed⟩ := flow.conveyed node member item (.inr listed)
  obtain ⟨_, held⟩ := mem_iff_getElem?.mp known
  have same := origin_of_request placement held there (conveyed.request.symm.trans own) flow
  rw [same] at conveyed
  exact conveyed

theorem served_handled (known : sending ∈ cluster.calls) (handled : cluster.Handled sending)
    (sound : cluster.Sound placement) : cluster.Served sending := by
  obtain ⟨place, held⟩ := mem_iff_getElem?.mp known
  -- How many events each node has made, all of them in its queue.
  have made : ∀ node ∈ cluster.nodes, node.dispatcher.queued.countP (about sending.message.requestId) =
      node.channel.meant sending.message := by
    intro node member
    obtain ⟨index, there⟩ := mem_iff_getElem?.mp member
    have balanced := sound.even place sending held index node there
    have landed : node.flight cluster.outbox sending.message.requestId = 0 := by
      rw [ClusterNode.flight, Nat.add_eq_zero_iff, countP_eq_zero, countP_eq_zero]
      constructor
      · intro data outgoing
        rw [carries, decide_eq_true_eq]
        exact handled.transit data (.inl outgoing)
      · intro data waiting
        rw [carries, decide_eq_true_eq]
        exact handled.transit data (.inr ⟨node, member, waiting⟩)
    have unsent : node.dispatcher.senders.countP (about sending.message.requestId) = 0 := by
      rw [countP_eq_zero]
      intro item listed
      rw [about, decide_eq_true_eq]
      exact (handled.through node member).senders item listed
    rw [Balanced, if_pos handled.sent, if_pos (Or.inr landed), ClusterNode.copies, unsent, Nat.zero_add] at balanced
    exact balanced.2
  have counts : ∀ node ∈ cluster.nodes, ∀ userId, node.dispatcher.handedOn sending.message.requestId userId =
      (node.channel.targets sending.message).count userId := by
    intro node member userId
    have copies := made node member
    rw [Channel.meant] at copies
    by_cases nobody : (node.channel.targets sending.message).isEmpty = true
    · rw [if_pos nobody] at copies
      rw [node.dispatcher.handed_never _ copies, isEmpty_iff.mp nobody]
      rfl
    rw [if_neg nobody] at copies
    obtain ⟨_, item, there, own, only⟩ := unique_place _ _ copies
    have request : item.event.requestId = sending.message.requestId := of_decide_eq_true own
    have conveyed := conveyed_own cluster known member (mem_of_getElem? there) request sound.flow
    rw [node.dispatcher.handed_once _ there request only,
      node.dispatcher.through_handed _ there request (handled.through node member)
        (sound.flow.accounted node member), conveyed.recipients]
  refine ⟨?_, ?_, ?_⟩
  · intro node member userId connected addressed
    rw [counts node member]
    exact count_eq_one_of_mem sending.message.targets_nodup (sending.message.mem_targets.mpr ⟨connected, addressed⟩)
  · intro node member userId other
    rw [counts node member, count_eq_zero]
    exact fun listed => other (sending.message.mem_targets.mp listed)
  · intro node member item listed own
    have conveyed := conveyed_own cluster known member listed own sound.flow
    exact ⟨conveyed.event, conveyed.payload⟩

theorem sound_addressing (sound : cluster.Sound placement) :
    cluster.Addressing := by
  refine ⟨?_, ?_, ?_, ?_⟩
  · exact fun sending known handled => served_handled cluster known handled sound
  · intro sending known refused node member
    exact sound.lookups.refused sending known refused node.channel (mem_map_of_mem member)
  · intro sending known unsent node member userId
    obtain ⟨place, held⟩ := mem_iff_getElem?.mp known
    obtain ⟨index, there⟩ := mem_iff_getElem?.mp member
    have balanced := sound.even place sending held index node there
    rw [Balanced, if_neg unsent, ClusterNode.copies] at balanced
    exact node.dispatcher.handed_never _ (by omega)
  · intro quiet sending known node member hosts
    cases phase : sending.phase with
    | sent => rfl
    | found => exact absurd phase (quiet.calls sending known)
    | refused => exact absurd hosts (sound.lookups.refused sending known phase node.channel (mem_map_of_mem member))
    | asking =>
      obtain ⟨index, there⟩ := mem_iff_getElem?.mp member
      rcases sound.lookups.sought sending known phase index node there hosts with
        ⟨channel, stamp, located, waiting⟩ | ⟨event, listed, _⟩ | ⟨caller, located, user, stamp, waiting⟩
      · exact absurd (.inr ⟨node, member, waiting⟩) (quiet.transit _)
      · rw [quiet.requests node member] at listed
        cases listed
      · exact absurd (.inr ⟨caller, mem_of_getElem? located, waiting⟩) (quiet.transit _)

theorem sound_start {endpoint : String} {placement : List Channel} (placed : Placement placement) :
    (start endpoint placement).Sound placement := by
  refine ⟨flow_start placed, ?_, ?_, ?_, ?_⟩
  · intro place sending held
    cases held
  · intro sending member
    cases member
  · intro sending member
    cases member
  · intro sending member
    cases member

def room (nodeId : NodeId) (userId : UserId) : Channel :=
  ((newChannel "room" nodeId true true 90000).addUser ⟨userId, 0, none⟩).1

def rooms : List Channel := [room "node-1" "a", room "node-2" "b"]

theorem room_seated {channel : Channel} (same : channel.connections.keys = channel.store.keys) (userId : UserId) :
    channel.connections.has userId = channel.store.has userId := by
  rw [Bool.eq_iff_iff, Store.has, Store.has, ← OrderedMap.mem_keys, ← OrderedMap.mem_keys]
  exact iff_of_eq (congrArg (fun keys => userId ∈ keys) same)

theorem rooms_placed : Placement rooms := by
  have keyed : ∀ nodeId userId, (room nodeId userId).Keyed := by
    intro nodeId userId
    apply Channel.keyed_add_user
    intro other connection found
    cases found
  refine ⟨?_, ?_, ?_, ?_, ?_, by decide +kernel⟩
  · decide +kernel
  · decide +kernel
  · intro channel member
    simp only [rooms, mem_cons, not_mem_nil, or_false] at member
    rcases member with rfl | rfl
    · exact keyed "node-1" "a"
    · exact keyed "node-2" "b"
  · intro channel member
    simp only [rooms, mem_cons, not_mem_nil, or_false] at member
    rcases member with rfl | rfl
    · exact room_seated (by decide +kernel)
    · exact room_seated (by decide +kernel)
  · decide +kernel

def firstDraws : Draws where
  requestId := "request-1"
  lookup := "lookup-1"
  stamp := ⟨"message-1", 0, epoch_fits⟩
  named := by decide
  asked := by decide
  apart := by decide

def remoteSend : List ClusterLabel :=
  [.call 0 (.broadcastFrom "b") "greet" .null firstDraws, .deliver 1 0 ⟨0, "uuid-1", true⟩,
    .answer 1 0 ⟨"message-2", 0, epoch_fits⟩, .deliver 0 1 ⟨0, "uuid-2", true⟩, .resume 0 ⟨"message-3", 0, epoch_fits⟩,
    .publish 0, .deliver 1 1 ⟨0, "uuid-3", true⟩, .deliver 0 1 ⟨0, "uuid-4", true⟩, .dispatch 0 (.enqueue 0),
    .dispatch 0 .receive, .dispatch 0 .read, .dispatch 0 .spawn, .dispatch 0 .spawn, .dispatch 0 (.advance 0 true)]

end MessageCluster

end PondSocket.Go
