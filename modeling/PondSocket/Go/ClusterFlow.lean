import PondSocket.Go.ClusterReceive

namespace PondSocket.Go

open Library List Option Announcement Dispatcher
open Js (Json UserId NodeId)

structure Placement (placement : List Channel) : Prop where
  running : ∀ channel ∈ placement, channel.done = false
  distributed : ∀ channel ∈ placement, channel.distributed = true
  keyed : ∀ channel ∈ placement, channel.Keyed
  seated : ∀ channel ∈ placement, ∀ userId, channel.connections.has userId = channel.store.has userId
  unnamed : ∀ channel ∈ placement, channel.store.has channelEntity = false
  apart : (placement.map Channel.nodeId).Nodup

structure Origin where
  node : Nat
  message : ChannelMessage
  lookup : String

def SendCall.origin (sending : SendCall) : Origin := ⟨sending.node, sending.message, sending.lookup⟩

inductive Carried (placement : List Channel) (endpoint : String) (origins : List Origin) : Json → Prop
  | message (origin : Origin) (member : origin ∈ origins) (channel : Channel)
      (there : placement[origin.node]? = some channel) (stamp : Stamp) :
      Carried placement endpoint origins (origin.message.announcement.bytes channel stamp endpoint)
  | lookup (origin : Origin) (member : origin ∈ origins) (channel : Channel)
      (there : placement[origin.node]? = some channel) (stamp : Stamp) :
      Carried placement endpoint origins
        ((Announcement.getRequest origin.message.sender origin.lookup).bytes channel stamp endpoint)
  | answer (origin : Origin) (member : origin ∈ origins) (channel : Channel) (among : channel ∈ placement) (user : User)
      (stamp : Stamp) :
      Carried placement endpoint origins ((Announcement.getResponse origin.lookup user).bytes channel stamp endpoint)

variable {endpoint : String} {data : Json}

theorem carried_more {placement : List Channel} {origins more : List Origin}
    (carried : Carried placement endpoint origins data) (kept : ∀ origin ∈ origins, origin ∈ more) :
    Carried placement endpoint more data := by
  cases carried with
  | message origin member channel there stamp => exact .message origin (kept origin member) channel there stamp
  | lookup origin member channel there stamp => exact .lookup origin (kept origin member) channel there stamp
  | answer origin member channel among user stamp => exact .answer origin (kept origin member) channel among user stamp

theorem carried_request {placement : List Channel} {origins : List Origin}
    (carried : Carried placement endpoint origins data) :
    ∃ origin ∈ origins, requestOf data = some origin.message.requestId ∨ requestOf data = some origin.lookup := by
  cases carried with
  | message origin member channel _ stamp =>
    exact ⟨origin, member, .inl (message_request origin.message channel stamp endpoint)⟩
  | lookup origin member channel _ stamp =>
    exact ⟨origin, member, .inr (lookup_request _ origin.lookup channel stamp endpoint)⟩
  | answer origin member channel _ user stamp =>
    exact ⟨origin, member, .inr (answer_request origin.lookup user channel stamp endpoint)⟩

variable {sending : SendCall}

namespace MessageCluster

variable (placement : List Channel) (cluster : MessageCluster)

variable (place : Nat)

def channels (cluster : MessageCluster) : List Channel := cluster.nodes.map ClusterNode.channel

def origins (cluster : MessageCluster) : List Origin := cluster.calls.map SendCall.origin

def InTransit (cluster : MessageCluster) (data : Json) : Prop :=
  data ∈ cluster.outbox ∨ ∃ node ∈ cluster.nodes, data ∈ node.inbox

def drawn (cluster : MessageCluster) : List String :=
  cluster.calls.flatMap fun sending => [sending.message.requestId, sending.lookup]

-- No message is lost, no queue is full and no uuid is drawn twice. An answer that
-- comes after its lookup has given up is a lost one.
def Lossless (cluster : MessageCluster) : ClusterLabel → Prop
  | .call _ _ _ _ draws => draws.requestId ∉ cluster.drawn ∧ draws.lookup ∉ cluster.drawn
  | .timeOut place => ∀ sending ∈ cluster.calls[place]?, ∀ channel ∈ cluster.channels,
      channel.store.has sending.message.sender = false
  | .deliver place _ _ => ∀ node ∈ cluster.nodes[place]?,
      node.dispatcher.queued.length - node.dispatcher.taken < queueCapacity
  | .dispatch place label => ∀ node ∈ cluster.nodes[place]?, node.dispatcher.Smooth label
  | .resume _ _ | .publish _ | .answer _ _ _ => True

instance (cluster : MessageCluster) (label : ClusterLabel) : Decidable (cluster.Lossless label) :=
  match label with
  | .call _ _ _ _ draws =>
    inferInstanceAs (Decidable (draws.requestId ∉ cluster.drawn ∧ draws.lookup ∉ cluster.drawn))
  | .timeOut place => inferInstanceAs (Decidable (∀ sending ∈ cluster.calls[place]?, ∀ channel ∈ cluster.channels,
      channel.store.has sending.message.sender = false))
  | .deliver place _ _ => inferInstanceAs (Decidable (∀ node ∈ cluster.nodes[place]?,
      node.dispatcher.queued.length - node.dispatcher.taken < queueCapacity))
  | .dispatch place label =>
    inferInstanceAs (Decidable (∀ node ∈ cluster.nodes[place]?, node.dispatcher.Smooth label))
  | .resume _ _ | .publish _ | .answer _ _ _ => isTrue trivial

structure Flow (placement : List Channel) (cluster : MessageCluster) : Prop where
  placed : cluster.channels = placement
  accounted : ∀ node ∈ cluster.nodes, node.dispatcher.Accounted
  posted : ∀ data, cluster.InTransit data → Carried placement cluster.endpoint cluster.origins data
  requested : ∀ node ∈ cluster.nodes, ∀ event ∈ node.requests,
    ∃ origin ∈ cluster.origins, textAt event.payload "requestID" = origin.lookup
  conveyed : ∀ node ∈ cluster.nodes, ∀ item, item ∈ node.dispatcher.senders ∨ item ∈ node.dispatcher.queued →
    ∃ origin ∈ cluster.origins, origin.message.Conveyed node.channel item
  requests : (cluster.origins.map fun origin => origin.message.requestId).Nodup
  lookups : ∀ one ∈ cluster.origins, ∀ two ∈ cluster.origins, one.lookup ≠ two.message.requestId
  asked : ∀ origin ∈ cluster.origins, origin.lookup ≠ "" ∧ origin.node < placement.length

theorem channel_of_node (node : ClusterNode)
    (there : cluster.nodes[place]? = some node) : cluster.channels[place]? = some node.channel := by
  rw [channels, getElem?_map, there]
  rfl

theorem channels_set (node next : ClusterNode)
    (there : cluster.nodes[place]? = some node) (same : next.channel = node.channel) :
    (cluster.nodes.set place next).map ClusterNode.channel = cluster.channels := by
  rw [map_set, same, channels]
  apply ext_getElem?
  intro index
  rw [getElem?_set]
  by_cases here : place = index
  · subst here
    rw [if_pos rfl, getElem?_map, there]
    have inside : place < (cluster.nodes.map ClusterNode.channel).length := by
      rw [length_map]
      exact (List.getElem?_eq_some_iff.mp there).1
    rw [if_pos inside]
    rfl
  · rw [if_neg here]

theorem flow_post (carried : Carried placement cluster.endpoint cluster.origins data) (flow : cluster.Flow placement) :
    (cluster.post data).Flow placement := by
  refine ⟨?_, ?_, ?_, ?_, ?_, flow.requests, flow.lookups, flow.asked⟩
  · rw [← flow.placed, channels, post, List.map_map]
    rfl
  · intro node member
    obtain ⟨old, listed, rfl⟩ := mem_map.mp member
    exact flow.accounted old listed
  · intro other transit
    rcases transit with outgoing | ⟨node, member, waiting⟩
    · exact flow.posted other (.inl outgoing)
    obtain ⟨old, listed, rfl⟩ := mem_map.mp member
    rcases mem_append.mp waiting with before | last
    · exact flow.posted other (.inr ⟨old, listed, before⟩)
    · rw [mem_singleton.mp last]
      exact carried
  · intro node member
    obtain ⟨old, listed, rfl⟩ := mem_map.mp member
    exact flow.requested old listed
  · intro node member
    obtain ⟨old, listed, rfl⟩ := mem_map.mp member
    exact flow.conveyed old listed

theorem flow_node (node next : ClusterNode)
    (there : cluster.nodes[place]? = some node) (same : next.channel = node.channel)
    (accounted : next.dispatcher.Accounted) (inbox : ∀ data ∈ next.inbox, data ∈ node.inbox)
    (requested : ∀ event ∈ next.requests, ∃ origin ∈ cluster.origins, textAt event.payload "requestID" = origin.lookup)
    (conveyed : ∀ item, item ∈ next.dispatcher.senders ∨ item ∈ next.dispatcher.queued →
      ∃ origin ∈ cluster.origins, origin.message.Conveyed node.channel item)
    (flow : cluster.Flow placement) : Flow placement { cluster with nodes := cluster.nodes.set place next } := by
  have listed : node ∈ cluster.nodes := mem_of_getElem? there
  refine ⟨?_, ?_, ?_, ?_, ?_, flow.requests, flow.lookups, flow.asked⟩
  · rw [← flow.placed]
    exact channels_set cluster place node next there same
  · intro other member
    rcases mem_or_eq_of_mem_set member with old | rfl
    · exact flow.accounted other old
    · exact accounted
  · intro data transit
    rcases transit with outgoing | ⟨other, member, waiting⟩
    · exact flow.posted data (.inl outgoing)
    rcases mem_or_eq_of_mem_set member with old | rfl
    · exact flow.posted data (.inr ⟨other, old, waiting⟩)
    · exact flow.posted data (.inr ⟨node, listed, inbox data waiting⟩)
  · intro other member
    rcases mem_or_eq_of_mem_set member with old | rfl
    · exact flow.requested other old
    · exact requested
  · intro other member
    rcases mem_or_eq_of_mem_set member with old | rfl
    · exact flow.conveyed other old
    · rw [same]
      exact conveyed

theorem flow_outbox {outbox : List Json}
    (carried : ∀ data ∈ outbox, data ∈ cluster.outbox ∨ Carried placement cluster.endpoint cluster.origins data)
    (flow : cluster.Flow placement) : Flow placement { cluster with outbox := outbox } := by
  refine ⟨flow.placed, flow.accounted, ?_, flow.requested, flow.conveyed, flow.requests, flow.lookups, flow.asked⟩
  intro data transit
  rcases transit with outgoing | waiting
  · rcases carried data outgoing with before | fresh
    · exact flow.posted data (.inl before)
    · exact fresh
  · exact flow.posted data (.inr waiting)

theorem flow_calls (calls : List SendCall)
    (same : calls.map SendCall.origin = cluster.origins) (flow : cluster.Flow placement) :
    Flow placement { cluster with calls := calls } := by
  have origins : origins { cluster with calls := calls } = cluster.origins := same
  refine ⟨flow.placed, flow.accounted, ?_, ?_, ?_, ?_, ?_, ?_⟩
  · rw [origins]
    exact flow.posted
  · rw [origins]
    exact flow.requested
  · rw [origins]
    exact flow.conveyed
  · rw [origins]
    exact flow.requests
  · rw [origins]
    exact flow.lookups
  · rw [origins]
    exact flow.asked

theorem mem_drawn {origin : Origin} (member : origin ∈ cluster.origins) :
    origin.message.requestId ∈ cluster.drawn ∧ origin.lookup ∈ cluster.drawn := by
  obtain ⟨sending, listed, rfl⟩ := mem_map.mp member
  constructor
  · exact mem_flatMap.mpr ⟨sending, listed, mem_cons_self⟩
  · exact mem_flatMap.mpr ⟨sending, listed, mem_cons_of_mem _ (mem_singleton_self _)⟩

theorem flow_enter (sending : SendCall) (inside : sending.node < placement.length) (asked : sending.lookup ≠ "")
    (apart : sending.message.requestId ≠ sending.lookup) (request : sending.message.requestId ∉ cluster.drawn)
    (lookup : sending.lookup ∉ cluster.drawn) (flow : cluster.Flow placement) :
    Flow placement { cluster with calls := cluster.calls ++ [sending] } := by
  have origins : origins { cluster with calls := cluster.calls ++ [sending] } = cluster.origins ++ [sending.origin] :=
    map_append
  have kept : ∀ origin ∈ cluster.origins, origin ∈ cluster.origins ++ [sending.origin] :=
    fun origin member => mem_append_left _ member
  refine ⟨flow.placed, flow.accounted, ?_, ?_, ?_, ?_, ?_, ?_⟩
  · intro data transit
    rw [origins]
    exact carried_more (flow.posted data transit) kept
  · intro node member event listed
    obtain ⟨origin, known, same⟩ := flow.requested node member event listed
    rw [origins]
    exact ⟨origin, kept origin known, same⟩
  · intro node member item listed
    obtain ⟨origin, known, same⟩ := flow.conveyed node member item listed
    rw [origins]
    exact ⟨origin, kept origin known, same⟩
  · rw [origins, map_append]
    apply nodup_append.mpr
    refine ⟨flow.requests, nodup_singleton _, ?_⟩
    intro one old two last same
    rw [mem_singleton.mp last] at same
    obtain ⟨origin, member, rfl⟩ := mem_map.mp old
    apply request
    rw [show sending.message.requestId = origin.message.requestId from same.symm]
    exact (cluster.mem_drawn member).1
  · rw [origins]
    intro one first two second same
    rcases mem_append.mp first with old | last
    · rcases mem_append.mp second with before | final
      · exact flow.lookups one old two before same
      · rw [mem_singleton.mp final] at same
        apply request
        rw [show sending.message.requestId = one.lookup from same.symm]
        exact (cluster.mem_drawn old).2
    rw [mem_singleton.mp last] at same
    rcases mem_append.mp second with before | final
    · apply lookup
      rw [show sending.lookup = two.message.requestId from same]
      exact (cluster.mem_drawn before).1
    · rw [mem_singleton.mp final] at same
      exact apart same.symm
  · rw [origins]
    intro origin member
    rcases mem_append.mp member with old | last
    · exact flow.asked origin old
    · rw [mem_singleton.mp last]
      exact ⟨asked, inside⟩

theorem origin_mem (there : cluster.calls[place]? = some sending) : sending.origin ∈ cluster.origins :=
  mem_map_of_mem (mem_of_getElem? there)

theorem same_place {one two : Nat} {first second : SendCall}
    (left : cluster.calls[one]? = some first) (right : cluster.calls[two]? = some second)
    (same : first.message.requestId = second.message.requestId) (flow : cluster.Flow placement) : one = two := by
  have distinct := flow.requests
  rw [origins, List.map_map] at distinct
  have inside : one < (cluster.calls.map fun sending => sending.message.requestId).length := by
    rw [length_map]
    exact (List.getElem?_eq_some_iff.mp left).1
  apply (getElem?_inj inside distinct).mp
  rw [getElem?_map, getElem?_map, left, right]
  exact congrArg some same

end MessageCluster

variable {message : ChannelMessage}

theorem BroadcastCall.message_request (call : BroadcastCall) {event : String} {payload : Json} {draws : Draws}
    (made : call.message event payload draws = some message) : message.requestId = draws.requestId := by
  cases call with
  | broadcast | broadcastFrom =>
    cases made
    rfl
  | broadcastTo userIds =>
    cases userIds with
    | nil => cases made
    | cons =>
      cases made
      rfl

theorem Channel.admission_unsent (channel : Channel) : channel.admission message ≠ .sent := by
  intro same
  simp only [Channel.admission] at same
  cases check : channel.checkState with
  | some =>
    rw [check] at same
    cases same
  | none =>
    rw [check] at same
    dsimp only at same
    split at same
    · split at same
      · cases same
      · split at same
        · cases same
        · cases same
    split at same
    · cases same
    · cases same

inductive Receipt (placement : List Channel) (origins : List Origin) (node : ClusterNode) (waiting : List String)
    (data : Json) (result : ClusterNode × Option String) : Prop
  | own (origin : Origin) (member : origin ∈ origins)
      (carries : requestOf data = some origin.lookup ∨ requestOf data = some origin.message.requestId ∧
        ∃ channel, placement[origin.node]? = some channel ∧ channel.nodeId = node.channel.nodeId)
      (same : result = (node, none))
  | message (origin : Origin) (member : origin ∈ origins) (channel : Channel)
      (there : placement[origin.node]? = some channel) (foreign : channel.nodeId ≠ node.channel.nodeId)
      (carries : requestOf data = some origin.message.requestId) (event : Event)
      (request : event.requestId = origin.message.requestId) (name : event.event = origin.message.event)
      (payload : event.payload = origin.message.payload)
      (same : result = ({ node with dispatcher := { node.dispatcher with
        queued := node.dispatcher.queued ++
          (Channel.addressed event (node.channel.targets origin.message)).toList } }, none))
  | lookup (origin : Origin) (member : origin ∈ origins) (carries : requestOf data = some origin.lookup) (event : Event)
      (asks : textAt event.payload "requestID" = origin.lookup)
      (same : result = ({ node with requests := node.requests ++ [event] }, none))
  | answer (origin : Origin) (member : origin ∈ origins) (carries : requestOf data = some origin.lookup)
      (same : result = (node, if origin.lookup ∈ waiting then some origin.lookup else none))

theorem receive_receipt (placement : List Channel) (endpoint : String) (origins : List Origin) (node : ClusterNode)
    (waiting : List String) (moment : Moment) (data : Json) (carried : Carried placement endpoint origins data)
    (asked : ∀ origin ∈ origins, origin.lookup ≠ "") (running : node.channel.done = false)
    (room : node.dispatcher.queued.length - node.dispatcher.taken < queueCapacity) :
    Receipt placement origins node waiting data (node.receive waiting moment data) := by
  cases carried with
  | message origin member channel there stamp =>
    have carries := message_request origin.message channel stamp endpoint
    by_cases own : channel.nodeId = node.channel.nodeId
    · exact .own origin member (.inr ⟨carries, channel, there, own⟩) (node.receive_own waiting moment own)
    obtain ⟨event, request, name, payload, same⟩ :=
      node.receive_message waiting moment running own room
    exact .message origin member channel there own carries event request name payload same
  | lookup origin member channel _ stamp =>
    have carries := lookup_request origin.message.sender origin.lookup channel stamp endpoint
    by_cases own : channel.nodeId = node.channel.nodeId
    · exact .own origin member (.inl carries) (node.receive_own waiting moment own)
    obtain ⟨event, _, request, same⟩ :=
      node.receive_lookup waiting moment running own
    exact .lookup origin member carries event request same
  | answer origin member channel _ user stamp =>
    have carries := answer_request origin.lookup user channel stamp endpoint
    by_cases own : channel.nodeId = node.channel.nodeId
    · exact .own origin member (.inl carries) (node.receive_own waiting moment own)
    · exact .answer origin member carries
        (node.receive_answer waiting moment origin.lookup (asked origin member) user channel stamp endpoint running own)

namespace MessageCluster

variable (placement : List Channel) (cluster : MessageCluster) (place : Nat)

theorem wake_origin (lookup : Option String) (sending : SendCall) :
    (wake place lookup sending).origin = sending.origin := by
  simp only [wake]
  split <;> rfl

variable {place}

theorem wake_sent {lookup : Option String} : (wake place lookup sending).phase = .sent ↔ sending.phase = .sent := by
  simp only [wake]
  split
  · rename_i woken
    simp [woken.2.1]
  · rfl

theorem flow_call {call : BroadcastCall}
    {event : String} {payload : Json} {draws : Draws}
    (lossless : cluster.Lossless (.call place call event payload draws)) (flow : cluster.Flow placement) :
    (cluster.call place call event payload draws).Flow placement := by
  simp only [MessageCluster.call]
  cases there : cluster.nodes[place]? with
  | none => exact flow
  | some node =>
    cases made : call.message event payload draws with
    | none => exact flow
    | some message =>
      have request : message.requestId = draws.requestId := call.message_request made
      have listed := cluster.channel_of_node place node there
      rw [flow.placed] at listed
      have entered := flow_enter placement cluster ⟨place, message, draws.lookup, node.channel.admission message⟩
        (List.getElem?_eq_some_iff.mp listed).1 draws.asked (request ▸ draws.apart) (request ▸ lossless.1) lossless.2
        flow
      simp only [enter]
      split
      · apply flow_post placement _ _ entered
        refine .lookup ⟨place, message, draws.lookup⟩ ?_ node.channel listed draws.stamp
        rw [origins, map_append]
        exact mem_append_right _ (mem_singleton_self _)
      · exact entered

theorem origins_set (next : SendCall) (there : cluster.calls[place]? = some sending)
    (same : next.origin = sending.origin) : (cluster.calls.set place next).map SendCall.origin = cluster.origins := by
  obtain ⟨split, _, replaced⟩ := split_place cluster.calls place sending there
  rw [replaced, origins]
  conv_rhs => rw [split]
  rw [map_append, map_append, map_cons, map_cons, same]

theorem flow_transmit {node : ClusterNode} {stamp : Stamp} (held : cluster.calls[place]? = some sending)
    (there : cluster.nodes[sending.node]? = some node) (flow : cluster.Flow placement) :
    (cluster.transmit place sending node stamp).Flow placement := by
  have member : node ∈ cluster.nodes := mem_of_getElem? there
  have origin := cluster.origin_mem place held
  have among : ∀ userId ∈ node.dispatcher.channel.audience (sending.message.localEvent node.dispatcher.channel)
      (sending.message.recipient.audience sending.message.sender), node.dispatcher.channel.connections.has userId = true :=
    fun userId listed => (sending.message.mem_targets.mp listed).1
  have accounted := accounted_address node.dispatcher among (flow.accounted node member)
  have told : ∀ item, item ∈ (node.dispatcher.sendMessage stamp cluster.endpoint sending.message).1.senders ∨
      item ∈ (node.dispatcher.sendMessage stamp cluster.endpoint sending.message).1.queued →
      ∃ origin ∈ cluster.origins, origin.message.Conveyed node.channel item := by
    intro item listed
    simp only [Dispatcher.sendMessage, address] at listed
    cases made : Channel.addressed (sending.message.localEvent node.dispatcher.channel)
        (node.dispatcher.channel.audience (sending.message.localEvent node.dispatcher.channel)
          (sending.message.recipient.audience sending.message.sender)) with
    | none =>
      rw [made] at listed
      exact flow.conveyed node member item listed
    | some fresh =>
      rw [made] at listed
      rcases listed with sender | queued
      · rcases mem_append.mp sender with before | last
        · exact flow.conveyed node member item (.inl before)
        · rw [mem_singleton.mp last]
          exact ⟨sending.origin, origin,
            sending.message.conveyed_addressed node.channel (sending.message.localEvent node.channel) fresh rfl rfl rfl made⟩
      · exact flow.conveyed node member item (.inr queued)
  have channel : (node.dispatcher.sendMessage stamp cluster.endpoint sending.message).1.channel = node.dispatcher.channel := by
    simp only [Dispatcher.sendMessage, address]
    split <;> rfl
  have moved := flow_node placement cluster sending.node node
    { node with dispatcher := (node.dispatcher.sendMessage stamp cluster.endpoint sending.message).1 } there channel accounted
    (fun _ => id) (flow.requested node member) told flow
  have called := flow_calls placement
    { cluster with
      nodes := cluster.nodes.set sending.node
        { node with dispatcher := (node.dispatcher.sendMessage stamp cluster.endpoint sending.message).1 } }
    (cluster.calls.set place { sending with phase := .sent }) (cluster.origins_set _ held rfl) moved
  have listed := cluster.channel_of_node sending.node node there
  rw [flow.placed] at listed
  refine flow_outbox placement
    { cluster with
      nodes := cluster.nodes.set sending.node
        { node with dispatcher := (node.dispatcher.sendMessage stamp cluster.endpoint sending.message).1 }
      calls := cluster.calls.set place { sending with phase := .sent } } ?_ called
  intro data outgoing
  rcases mem_append.mp outgoing with before | fresh
  · exact .inl before
  right
  simp only [Dispatcher.sendMessage] at fresh
  split at fresh
  · rw [toList_some, mem_singleton] at fresh
    rw [fresh]
    refine .message sending.origin ?_ node.channel listed stamp
    change sending.origin ∈ (cluster.calls.set place { sending with phase := .sent }).map SendCall.origin
    rw [cluster.origins_set { sending with phase := .sent } held rfl]
    exact origin
  · cases fresh

theorem flow_deliver (place item : Nat) (moment : Moment)
    (lossless : cluster.Lossless (.deliver place item moment)) (flow : cluster.Flow placement) :
    (cluster.deliver place item moment).Flow placement := by
  simp only [deliver]
  cases there : cluster.nodes[place]? with
  | none => exact flow
  | some node =>
    dsimp only
    cases held : node.inbox[item]? with
    | none => exact flow
    | some data =>
      dsimp only
      have member : node ∈ cluster.nodes := mem_of_getElem? there
      have fewer : ∀ other ∈ node.inbox.eraseIdx item, other ∈ node.inbox := fun _ => mem_of_mem_eraseIdx
      have posted := flow.posted data (.inr ⟨node, member, mem_of_getElem? held⟩)
      have receipt := receive_receipt placement cluster.endpoint cluster.origins
        { node with inbox := node.inbox.eraseIdx item } (cluster.waiting place) moment data posted
        (fun origin known => (flow.asked origin known).1) (flow.accounted node member).running
        (lossless node there)
      generalize ({ node with inbox := node.inbox.eraseIdx item } : ClusterNode).receive (cluster.waiting place) moment
        data = result at receipt ⊢
      apply flow_calls placement { cluster with nodes := cluster.nodes.set place result.1 }
        (cluster.calls.map (wake place result.2))
      · rw [List.map_map]
        exact map_congr_left fun sending _ => wake_origin place _ sending
      have quiet : Flow placement { cluster with
          nodes := cluster.nodes.set place { node with inbox := node.inbox.eraseIdx item } } :=
        flow_node placement cluster place node _ there rfl (flow.accounted node member) fewer
          (flow.requested node member) (flow.conveyed node member) flow
      cases receipt with
      | own _ _ _ same =>
        rw [same]
        exact quiet
      | answer _ _ _ same =>
        rw [same]
        exact quiet
      | lookup origin known _ _ asks same =>
        rw [same]
        refine flow_node placement cluster place node _ there rfl (flow.accounted node member) fewer ?_
          (flow.conveyed node member) flow
        intro other listed
        rcases mem_append.mp listed with before | last
        · exact flow.requested node member other before
        · rw [mem_singleton.mp last]
          exact ⟨origin, known, asks⟩
      | message origin known channel _ _ _ event request name payload same =>
        rw [same]
        cases made : Channel.addressed event (node.channel.targets origin.message) with
        | none =>
          have nothing : Channel.addressed event
              ((ClusterNode.channel { node with inbox := node.inbox.eraseIdx item }).targets origin.message) =
                none := made
          simp only [nothing, toList_none, append_nil]
          exact quiet
        | some fresh =>
          have one : Channel.addressed event
              ((ClusterNode.channel { node with inbox := node.inbox.eraseIdx item }).targets origin.message) =
                some fresh := made
          have conveyed := origin.message.conveyed_addressed node.channel event fresh request name payload made
          simp only [one, toList_some]
          refine flow_node placement cluster place node _ there rfl ?_ fewer (flow.requested node member) ?_ flow
          · apply accounted_push node.dispatcher (fun _ => id) _ (flow.accounted node member)
            intro userId listed
            rw [conveyed.recipients] at listed
            exact (origin.message.mem_targets.mp listed).1
          intro other listed
          rcases listed with sender | queued
          · exact flow.conveyed node member other (.inl sender)
          rcases mem_append.mp queued with before | last
          · exact flow.conveyed node member other (.inr before)
          · rw [mem_singleton.mp last]
            exact ⟨origin, known, conveyed⟩

variable {placement cluster}

theorem flow_answer (place item : Nat) (stamp : Stamp)
    (flow : cluster.Flow placement) : (cluster.answer place item stamp).Flow placement := by
  simp only [answer]
  cases there : cluster.nodes[place]? with
  | none => exact flow
  | some node =>
    dsimp only
    cases held : node.requests[item]? with
    | none => exact flow
    | some event =>
      dsimp only
      have member : node ∈ cluster.nodes := mem_of_getElem? there
      have rest := flow_node placement cluster place node { node with requests := node.requests.eraseIdx item } there rfl
        (flow.accounted node member) (fun _ => id)
        (fun other listed => flow.requested node member other (mem_of_mem_eraseIdx listed))
        (flow.conveyed node member) flow
      cases made : node.channel.handleUserGetRequest event (textAt event.payload "userID") with
      | none => exact rest
      | some =>
        apply flow_post placement _ _ rest
        obtain ⟨origin, known, asks⟩ := flow.requested node member event (mem_of_getElem? held)
        simp only [Channel.handleUserGetRequest, asks] at made
        split at made
        · cases made
        cases found : node.channel.localUser (textAt event.payload "userID") with
        | error =>
          rw [found] at made
          cases made
        | ok user =>
          rw [found] at made
          cases made
          refine .answer origin known node.channel ?_ user stamp
          rw [← flow.placed]
          exact mem_map_of_mem member

theorem flow_dispatch {label : DispatchLabel}
    (lossless : cluster.Lossless (.dispatch place label)) (flow : cluster.Flow placement) :
    (cluster.dispatch place label).Flow placement := by
  simp only [dispatch]
  cases there : cluster.nodes[place]? with
  | none => exact flow
  | some node =>
    have member : node ∈ cluster.nodes := mem_of_getElem? there
    have smooth := lossless node there
    obtain ⟨channel, queues⟩ := smooth_queues smooth
    apply flow_node placement cluster place node { node with dispatcher := node.dispatcher.act label } there channel
      (Dispatcher.accounted_act node.dispatcher smooth (flow.accounted node member)) (fun _ => id)
      (flow.requested node member) _ flow
    intro item listed
    cases queues with
    | still senders queued =>
      rw [senders, queued] at listed
      exact flow.conveyed node member item listed
    | moved _ moving held senders queued =>
      rw [senders, queued] at listed
      rcases listed with waiting | placed
      · exact flow.conveyed node member item (.inl (mem_of_mem_eraseIdx waiting))
      rcases mem_append.mp placed with before | last
      · exact flow.conveyed node member item (.inr before)
      · rw [mem_singleton.mp last]
        exact flow.conveyed node member moving (.inl (mem_of_getElem? held))

theorem flow_act {label : ClusterLabel}
    (lossless : cluster.Lossless label) (flow : cluster.Flow placement) : (cluster.act label).Flow placement := by
  cases label with
  | call => exact flow_call placement cluster lossless flow
  | resume place =>
    simp only [act, resume]
    cases held : cluster.calls[place]? with
    | none => exact flow
    | some sending =>
      dsimp only
      cases there : cluster.nodes[sending.node]? with
      | none => exact flow
      | some =>
        dsimp only
        split
        · exact flow_transmit placement cluster held there flow
        · exact flow
  | timeOut place =>
    simp only [act, timeOut]
    cases held : cluster.calls[place]? with
    | none => exact flow
    | some =>
      dsimp only
      split
      · exact flow_calls placement cluster _ (cluster.origins_set _ held rfl) flow
      · exact flow
  | publish place =>
    simp only [act, publish]
    cases held : cluster.outbox[place]? with
    | none => exact flow
    | some data =>
      have carried := flow.posted data (.inl (mem_of_getElem? held))
      apply flow_post placement { cluster with outbox := cluster.outbox.eraseIdx place } carried
      exact flow_outbox placement cluster (fun other listed => .inl (mem_of_mem_eraseIdx listed)) flow
  | deliver place item moment => exact flow_deliver placement cluster place item moment lossless flow
  | answer place item stamp => exact flow_answer place item stamp flow
  | dispatch => exact flow_dispatch lossless flow

theorem flow_start {placement : List Channel} (placed : Placement placement) :
    (start endpoint placement).Flow placement := by
  refine ⟨?_, ?_, ?_, ?_, ?_, .nil, ?_, ?_⟩
  · rw [channels, start, List.map_map]
    exact map_id placement
  · intro node member
    obtain ⟨channel, listed, rfl⟩ := mem_map.mp member
    refine ⟨placed.running channel listed, placed.keyed channel listed, ?_, ?_, Nat.le_refl _, .inl rfl, fun _ _ => rfl⟩
    · intro userId connected
      exact (placed.seated channel listed userId).symm.trans connected
    intro item waiting
    rcases waiting with sender | queued
    · cases sender
    · cases queued
  · intro data transit
    rcases transit with outgoing | ⟨node, member, waiting⟩
    · cases outgoing
    · obtain ⟨channel, listed, rfl⟩ := mem_map.mp member
      cases waiting
  · intro node member event waiting
    obtain ⟨channel, listed, rfl⟩ := mem_map.mp member
    cases waiting
  · intro node member item waiting
    obtain ⟨_, _, rfl⟩ := mem_map.mp member
    rcases waiting with sender | queued
    · cases sender
    · cases queued
  · intro origin member
    cases member
  · intro origin member
    cases member

end MessageCluster

end PondSocket.Go
