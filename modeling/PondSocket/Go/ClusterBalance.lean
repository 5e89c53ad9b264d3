import PondSocket.Go.ClusterFlow

namespace PondSocket.Go

open Library List Option ClusterNode
open Js (Json UserId NodeId)

def carries (requestId : String) (data : Json) : Bool := decide (requestOf data = some requestId)

def about (requestId : String) (item : InternalEvent) : Bool := decide (item.event.requestId = requestId)

def ClusterNode.copies (node : ClusterNode) (requestId : String) : Nat :=
  node.dispatcher.senders.countP (about requestId) + node.dispatcher.queued.countP (about requestId)

def ClusterNode.flight (node : ClusterNode) (outbox : List Json) (requestId : String) : Nat :=
  outbox.countP (carries requestId) + node.inbox.countP (carries requestId)

def Channel.meant (channel : Channel) (message : ChannelMessage) : Nat :=
  if (channel.targets message).isEmpty then 0 else 1

def Balanced (sending : SendCall) (index flight copies : Nat) (channel : Channel) : Prop :=
  if sending.phase = .sent then
    flight ≤ 1 ∧ copies = if index = sending.node ∨ flight = 0 then channel.meant sending.message else 0
  else flight = 0 ∧ copies = 0

theorem balanced_alike (sending next : SendCall) (index flight copies : Nat) (channel : Channel)
    (phase : next.phase = .sent ↔ sending.phase = .sent) (same : next.origin = sending.origin)
    (balanced : Balanced sending index flight copies channel) : Balanced next index flight copies channel := by
  have node : next.node = sending.node := congrArg Origin.node same
  have message : next.message = sending.message := congrArg Origin.message same
  simp only [Balanced, phase, node, message] at balanced ⊢
  exact balanced

variable {dispatcher : Dispatcher}

theorem queues_copies {next : Dispatcher} (queues : Dispatcher.Queues dispatcher next) (requestId : String) :
    next.senders.countP (about requestId) + next.queued.countP (about requestId) =
      dispatcher.senders.countP (about requestId) + dispatcher.queued.countP (about requestId) := by
  cases queues with
  | still senders queued => rw [senders, queued]
  | moved place _ there senders queued =>
    have erased := count_erase dispatcher.senders place (about requestId) there
    rw [senders, queued, countP_append, countP_singleton]
    omega

variable {requestId : String}

theorem address_copies {event : Event} {audience : Audience} :
    (dispatcher.address event audience).senders.countP (about requestId) +
        (dispatcher.address event audience).queued.countP (about requestId) =
      dispatcher.senders.countP (about requestId) + dispatcher.queued.countP (about requestId) +
        if event.requestId = requestId then (if (dispatcher.channel.audience event audience).isEmpty then 0 else 1) else 0 := by
  simp only [Dispatcher.address, Channel.addressed]
  by_cases nobody : (dispatcher.channel.audience event audience).isEmpty = true
  · simp only [if_pos nobody, ite_self, Nat.add_zero]
  · simp only [if_neg nobody, countP_append, countP_singleton, about, decide_eq_true_eq]
    split <;> omega

theorem addressed_copies (event : Event) (targets : List UserId) (requestId : String) :
    (Channel.addressed event targets).toList.countP (about requestId) =
      if event.requestId = requestId then (if targets.isEmpty then 0 else 1) else 0 := by
  simp only [Channel.addressed]
  by_cases nobody : targets.isEmpty = true
  · simp only [if_pos nobody, toList_none, countP_nil, ite_self]
  · simp only [if_neg nobody, toList_some, countP_singleton, about, decide_eq_true_eq]

namespace MessageCluster

variable (placement : List Channel) (cluster : MessageCluster)

def Even (cluster : MessageCluster) : Prop :=
  ∀ (place : Nat) (sending : SendCall), cluster.calls[place]? = some sending →
    ∀ (index : Nat) (node : ClusterNode), cluster.nodes[index]? = some node →
      Balanced sending index (node.flight cluster.outbox sending.message.requestId)
        (node.copies sending.message.requestId) node.channel

variable {place : Nat} {node : ClusterNode}

theorem even_node (next : ClusterNode) (there : cluster.nodes[place]? = some node)
    (channel : next.channel = node.channel)
    (inbox : ∀ requestId, next.inbox.countP (carries requestId) = node.inbox.countP (carries requestId))
    (copies : ∀ requestId, next.copies requestId = node.copies requestId) (even : cluster.Even) :
    Even { cluster with nodes := cluster.nodes.set place next } := by
  intro call sending held index found located
  rcases get_set cluster.nodes place index next found located with ⟨here, rfl⟩ | ⟨_, before⟩
  · have balanced := even call sending held place node there
    rw [here, flight, inbox, copies, channel]
    exact balanced
  · exact even call sending held index found before

theorem even_post {data : Json}
    (foreign : ∀ sending ∈ cluster.calls, carries sending.message.requestId data = false) (even : cluster.Even) :
    (cluster.post data).Even := by
  intro call sending held index found located
  rw [post, getElem?_map, map_eq_some_iff] at located
  obtain ⟨node, there, rfl⟩ := located
  have balanced := even call sending held index node there
  have skipped := foreign sending (mem_of_getElem? held)
  rw [flight, countP_append, countP_singleton, skipped]
  exact balanced

theorem lookup_foreign (origin : Origin) (data : Json)
    (known : origin ∈ cluster.origins) (asks : requestOf data = some origin.lookup) (flow : cluster.Flow placement) :
    ∀ sending ∈ cluster.calls, carries sending.message.requestId data = false := by
  intro sending member
  apply decide_eq_false
  intro same
  rw [asks] at same
  exact flow.lookups origin known sending.origin (mem_map_of_mem member) (some.inj same)

variable {cluster}

variable {sending : SendCall}

theorem origin_of_request {origin : Origin} (held : cluster.calls[place]? = some sending)
    (known : origin ∈ cluster.origins) (same : origin.message.requestId = sending.message.requestId)
    (flow : cluster.Flow placement) : origin = sending.origin := by
  obtain ⟨_, member, rfl⟩ := mem_map.mp known
  obtain ⟨_, there⟩ := mem_iff_getElem?.mp member
  have equal := same_place placement cluster there held same flow
  rw [equal, held] at there
  rw [some.inj there]

theorem fresh_absent (fresh : requestId ∉ cluster.drawn) (member : node ∈ cluster.nodes)
    (flow : cluster.Flow placement) : node.flight cluster.outbox requestId = 0 ∧ node.copies requestId = 0 := by
  have unposted : ∀ data, cluster.InTransit data → carries requestId data = false := by
    intro data transit
    apply decide_eq_false
    intro same
    obtain ⟨origin, known, request⟩ := carried_request (flow.posted data transit)
    rw [same] at request
    rcases request with asked | looked
    · exact fresh (some.inj asked ▸ (cluster.mem_drawn known).1)
    · exact fresh (some.inj looked ▸ (cluster.mem_drawn known).2)
  have unmade : ∀ item, item ∈ node.dispatcher.senders ∨ item ∈ node.dispatcher.queued → about requestId item = false := by
    intro item listed
    apply decide_eq_false
    intro same
    obtain ⟨_, known, conveyed⟩ := flow.conveyed node member item listed
    rw [conveyed.request] at same
    exact fresh (same ▸ (cluster.mem_drawn known).1)
  constructor
  · rw [flight, Nat.add_eq_zero_iff, countP_eq_zero, countP_eq_zero]
    constructor
    · intro data outgoing
      rw [unposted data (.inl outgoing)]
      exact Bool.false_ne_true
    · intro data waiting
      rw [unposted data (.inr ⟨node, member, waiting⟩)]
      exact Bool.false_ne_true
  · rw [copies, Nat.add_eq_zero_iff, countP_eq_zero, countP_eq_zero]
    constructor
    · intro item listed
      rw [unmade item (.inl listed)]
      exact Bool.false_ne_true
    · intro item listed
      rw [unmade item (.inr listed)]
      exact Bool.false_ne_true

theorem even_call {call : BroadcastCall} {event : String} {payload : Json} {draws : Draws}
    (lossless : cluster.Lossless (.call place call event payload draws)) (flow : cluster.Flow placement)
    (even : cluster.Even) : (cluster.call place call event payload draws).Even := by
  simp only [MessageCluster.call]
  cases there : cluster.nodes[place]? with
  | none => exact even
  | some node =>
    cases made : call.message event payload draws with
    | none => exact even
    | some message =>
      have request : message.requestId = draws.requestId := call.message_request made
      have entered : Even { cluster with
          calls := cluster.calls ++ [⟨place, message, draws.lookup, node.channel.admission message⟩] } := by
        intro at' sending held index found located
        rcases get_concat held with before | ⟨_, fresh⟩
        · exact even at' sending before index found located
        have absent := fresh_absent placement lossless.1 (mem_of_getElem? located) flow
        have unsent : ¬ node.channel.admission message = .sent := node.channel.admission_unsent
        rw [fresh, Balanced, if_neg unsent, request]
        exact absent
      simp only [enter]
      split
      · apply even_post _ _ entered
        intro sending member
        apply decide_eq_false
        rw [Announcement.lookup_request]
        intro same
        rcases mem_append.mp member with old | last
        · apply lossless.2
          rw [some.inj same]
          exact (cluster.mem_drawn (mem_map_of_mem old)).1
        · rw [mem_singleton.mp last] at same
          exact draws.apart (request.symm.trans (some.inj same).symm)
      · exact entered

theorem even_transmit (placed : Placement placement) {cluster : MessageCluster} {stamp : Stamp}
    (held : cluster.calls[place]? = some sending) (there : cluster.nodes[sending.node]? = some node)
    (found : sending.phase = .found) (flow : cluster.Flow placement) (even : cluster.Even) :
    (cluster.transmit place sending node stamp).Even := by
  have shared : node.dispatcher.channel.distributed = true := by
    apply placed.distributed
    rw [← flow.placed]
    exact mem_map_of_mem (mem_of_getElem? there)
  have unsent : ¬ sending.phase = .sent := by
    rw [found]
    decide
  have outbox : ∀ requestId, (cluster.transmit place sending node stamp).outbox.countP (carries requestId) =
      cluster.outbox.countP (carries requestId) + if sending.message.requestId = requestId then 1 else 0 := by
    intro requestId
    simp [transmit, Dispatcher.sendMessage, if_pos shared, carries, Announcement.message_request]
  have copied : ∀ requestId, copies { node with
        dispatcher := (node.dispatcher.sendMessage stamp cluster.endpoint sending.message).1 } requestId =
        node.copies requestId +
          if sending.message.requestId = requestId then node.channel.meant sending.message else 0 := by
    intro requestId
    exact address_copies
  have channel : ClusterNode.channel { node with
      dispatcher := (node.dispatcher.sendMessage stamp cluster.endpoint sending.message).1 } = node.channel := by
    simp only [ClusterNode.channel, Dispatcher.sendMessage, Dispatcher.address]
    split <;> rfl
  intro at' other located index next listed
  have flight : ∀ requestId, next.flight (cluster.transmit place sending node stamp).outbox requestId =
      next.flight cluster.outbox requestId + if sending.message.requestId = requestId then 1 else 0 := by
    intro requestId
    rw [ClusterNode.flight, ClusterNode.flight, outbox]
    omega
  rw [flight]
  rcases get_set cluster.calls place at' _ other located with ⟨_, rfl⟩ | ⟨elsewhere, before⟩
  · -- This is the call that sends.
    rcases get_set cluster.nodes sending.node index _ next listed with ⟨here, rfl⟩ | ⟨away, kept⟩
    · have balanced := even place sending held sending.node node there
      rw [Balanced, if_neg unsent] at balanced
      rw [Balanced, if_pos rfl, if_pos rfl, copied, channel, balanced.2, if_pos rfl, Nat.zero_add, if_pos (Or.inl here)]
      refine ⟨?_, rfl⟩
      have none_before := balanced.1
      simp only [ClusterNode.flight] at none_before ⊢
      omega
    · have balanced := even place sending held index next kept
      rw [Balanced, if_neg unsent] at balanced
      rw [Balanced, if_pos rfl, if_pos rfl, balanced.1, balanced.2]
      refine ⟨Nat.le_refl 1, ?_⟩
      rw [if_neg]
      intro either
      rcases either with same | gone
      · exact away same
      · cases gone
  · have different : ¬ sending.message.requestId = other.message.requestId := fun same =>
      elsewhere (same_place placement cluster before held same.symm flow)
    rw [if_neg different, Nat.add_zero]
    rcases get_set cluster.nodes sending.node index _ next listed with ⟨here, rfl⟩ | ⟨_, kept⟩
    · have balanced := even at' other before sending.node node there
      rw [here, copied, channel, if_neg different, Nat.add_zero]
      exact balanced
    · exact even at' other before index next kept

theorem node_of_id (placed : Placement placement) {one two : Nat} {first second : Channel}
    (left : placement[one]? = some first) (right : placement[two]? = some second) (same : first.nodeId = second.nodeId) :
    one = two := by
  have inside : one < (placement.map Channel.nodeId).length := by
    rw [length_map]
    exact (List.getElem?_eq_some_iff.mp left).1
  apply (getElem?_inj inside placed.apart).mp
  rw [getElem?_map, getElem?_map, left, right]
  exact congrArg some same

theorem balanced_receipt (placed : Placement placement) (cluster : MessageCluster)
    (place item : Nat) (node : ClusterNode) (data : Json) (result : ClusterNode × Option String) (call : Nat)
    (sending : SendCall) (there : cluster.nodes[place]? = some node) (held : node.inbox[item]? = some data)
    (located : cluster.calls[call]? = some sending)
    (receipt : Receipt placement cluster.origins { node with inbox := node.inbox.eraseIdx item } (cluster.waiting place)
      data result) (flow : cluster.Flow placement) (even : cluster.Even) :
    Balanced sending place (result.1.flight cluster.outbox sending.message.requestId)
      (result.1.copies sending.message.requestId) result.1.channel := by
  have balanced := even call sending located place node there
  have erased := count_erase node.inbox item (carries sending.message.requestId) held
  have listed := cluster.channel_of_node place node there
  rw [flow.placed] at listed
  -- A message about something else leaves the counts alone.
  have other : carries sending.message.requestId data = false →
      flight { node with inbox := node.inbox.eraseIdx item } cluster.outbox sending.message.requestId =
        node.flight cluster.outbox sending.message.requestId := by
    intro skipped
    rw [skipped] at erased
    simp only [flight]
    rw [← erased]
    rfl
  have unasked : ∀ origin ∈ cluster.origins, requestOf data = some origin.lookup →
      carries sending.message.requestId data = false := fun origin known asks =>
    lookup_foreign placement cluster origin data known asks flow sending (mem_of_getElem? located)
  have unlike : ∀ origin : Origin, requestOf data = some origin.message.requestId →
      ¬ origin.message.requestId = sending.message.requestId → carries sending.message.requestId data = false := by
    intro origin asks different
    apply decide_eq_false
    rw [asks]
    exact fun same => different (some.inj same)
  -- One about this call was the only one.
  have mine : ∀ origin ∈ cluster.origins, requestOf data = some origin.message.requestId →
      origin.message.requestId = sending.message.requestId →
      origin = sending.origin ∧ sending.phase = .sent ∧ node.flight cluster.outbox sending.message.requestId = 1 ∧
        flight { node with inbox := node.inbox.eraseIdx item } cluster.outbox sending.message.requestId = 0 := by
    intro origin known asks same
    have carried : carries sending.message.requestId data = true := decide_eq_true (asks.trans (congrArg some same))
    rw [carried, if_pos rfl] at erased
    have arrived : 0 < node.flight cluster.outbox sending.message.requestId := by
      rw [flight]
      omega
    refine ⟨origin_of_request placement located known same flow, ?_⟩
    rw [Balanced] at balanced
    split at balanced
    · rename_i sent
      have once := balanced.1
      refine ⟨sent, by omega, ?_⟩
      simp only [flight] at once arrived ⊢
      omega
    · rw [balanced.1] at arrived
      exact absurd arrived (Nat.lt_irrefl 0)
  cases receipt with
  | own origin known asks same =>
    rw [same]
    rcases asks with looked | ⟨asked, channel, at', source⟩
    · rw [other (unasked origin known looked)]
      exact balanced
    by_cases about : origin.message.requestId = sending.message.requestId
    · obtain ⟨rfl, sent, once, gone⟩ := mine origin known asked about
      have home : place = sending.node :=
        node_of_id placement placed listed at' source.symm
      rw [Balanced, if_pos sent, if_pos (.inl home)] at balanced
      rw [gone, Balanced, if_pos sent, if_pos (.inl home)]
      exact ⟨Nat.zero_le 1, balanced.2⟩
    · rw [other (unlike origin asked about)]
      exact balanced
  | lookup origin known asks _ _ same =>
    rw [same]
    have still := other (unasked origin known asks)
    simp only [flight] at still ⊢
    rw [still]
    exact balanced
  | answer origin known asks same =>
    rw [same, other (unasked origin known asks)]
    exact balanced
  | message origin known channel at' foreign asks event request _ _ same =>
    rw [same]
    have more : copies { node with
        inbox := node.inbox.eraseIdx item
        dispatcher := { node.dispatcher with
          queued := node.dispatcher.queued ++
            (Channel.addressed event (node.channel.targets origin.message)).toList } } sending.message.requestId =
        node.copies sending.message.requestId +
          if event.requestId = sending.message.requestId then node.channel.meant origin.message else 0 := by
      simp only [copies, countP_append, addressed_copies, Channel.meant]
      omega
    rw [request] at more
    by_cases about : origin.message.requestId = sending.message.requestId
    · obtain ⟨rfl, sent, once, gone⟩ := mine origin known asks about
      have away : ¬ place = sending.node := by
        intro home
        have located : placement[sending.node]? = some channel := at'
        rw [← home, listed] at located
        exact foreign (congrArg Channel.nodeId (some.inj located).symm)
      rw [Balanced, if_pos sent, once, if_neg (not_or.mpr ⟨away, Nat.one_ne_zero⟩)] at balanced
      rw [if_pos about] at more
      simp only [flight] at gone ⊢
      rw [Balanced, if_pos sent, gone, if_pos (.inr rfl)]
      refine ⟨Nat.zero_le 1, ?_⟩
      rw [balanced.2, Nat.zero_add] at more
      exact more
    · rw [if_neg about, Nat.add_zero] at more
      have still := other (unlike origin asks about)
      simp only [flight] at still ⊢
      rw [still]
      have kept : Balanced sending place (node.flight cluster.outbox sending.message.requestId)
          (node.copies sending.message.requestId) node.channel := balanced
      rw [← more] at kept
      exact kept

theorem even_deliver (placed : Placement placement) {cluster : MessageCluster} {item : Nat} {moment : Moment}
    (lossless : cluster.Lossless (.deliver place item moment)) (flow : cluster.Flow placement) (even : cluster.Even) :
    (cluster.deliver place item moment).Even := by
  simp only [deliver]
  cases there : cluster.nodes[place]? with
  | none => exact even
  | some node =>
    dsimp only
    cases held : node.inbox[item]? with
    | none => exact even
    | some data =>
      dsimp only
      have member : node ∈ cluster.nodes := mem_of_getElem? there
      have posted := flow.posted data (.inr ⟨node, member, mem_of_getElem? held⟩)
      have receipt := receive_receipt placement cluster.endpoint cluster.origins
        { node with inbox := node.inbox.eraseIdx item } (cluster.waiting place) moment data posted
        (fun origin known => (flow.asked origin known).1) (flow.accounted node member).running
        (lossless node there)
      generalize ({ node with inbox := node.inbox.eraseIdx item } : ClusterNode).receive (cluster.waiting place) moment
        data = result at receipt ⊢
      intro call next located index found listed
      rw [getElem?_map, map_eq_some_iff] at located
      obtain ⟨sending, before, rfl⟩ := located
      have same := wake_origin place result.2 sending
      have message : (wake place result.2 sending).message = sending.message := congrArg Origin.message same
      rw [message]
      apply balanced_alike sending _ _ _ _ _ wake_sent same
      rcases get_set cluster.nodes place index result.1 found listed with ⟨here, rfl⟩ | ⟨_, kept⟩
      · rw [here]
        exact balanced_receipt placement placed cluster place item node data result call sending there held before receipt
          flow even
      · exact even call sending before index found kept

theorem even_act (placed : Placement placement) {cluster : MessageCluster}
    {label : ClusterLabel} (lossless : cluster.Lossless label) (flow : cluster.Flow placement) (even : cluster.Even) :
    (cluster.act label).Even := by
  cases label with
  | call => exact even_call placement lossless flow even
  | resume place =>
    simp only [act, resume]
    cases held : cluster.calls[place]? with
    | none => exact even
    | some sending =>
      dsimp only
      cases there : cluster.nodes[sending.node]? with
      | none => exact even
      | some =>
        dsimp only
        split
        · rename_i found
          exact even_transmit placement placed held there found flow even
        · exact even
  | timeOut place =>
    simp only [act, timeOut]
    cases held : cluster.calls[place]? with
    | none => exact even
    | some sending =>
      dsimp only
      split
      · rename_i asking
        intro call other located index node listed
        rcases get_set cluster.calls place call _ other located with ⟨_, rfl⟩ | ⟨_, before⟩
        · exact balanced_alike sending { sending with phase := .refused } index _ _ node.channel
            (by simp [asking]) rfl (even place sending held index node listed)
        · exact even call other before index node listed
      · exact even
  | publish place =>
    simp only [act, publish]
    cases held : cluster.outbox[place]? with
    | none => exact even
    | some data =>
      dsimp only
      intro call sending located index found listed
      rw [post, getElem?_map, map_eq_some_iff] at listed
      obtain ⟨node, there, rfl⟩ := listed
      have balanced := even call sending located index node there
      have erased := count_erase cluster.outbox place (carries sending.message.requestId) held
      have same : flight { node with inbox := node.inbox ++ [data] } (cluster.outbox.eraseIdx place)
          sending.message.requestId = node.flight cluster.outbox sending.message.requestId := by
        simp only [flight, countP_append, countP_singleton]
        omega
      have moved : Balanced sending index (flight { node with inbox := node.inbox ++ [data] }
          (cluster.outbox.eraseIdx place) sending.message.requestId) (node.copies sending.message.requestId)
          node.channel := by
        rw [same]
        exact balanced
      exact moved
  | deliver => exact even_deliver placement placed lossless flow even
  | answer place item stamp =>
    simp only [act, answer]
    cases there : cluster.nodes[place]? with
    | none => exact even
    | some node =>
      dsimp only
      cases held : node.requests[item]? with
      | none => exact even
      | some event =>
        dsimp only
        have member : node ∈ cluster.nodes := mem_of_getElem? there
        have rest := even_node cluster { node with requests := node.requests.eraseIdx item } there rfl
          (fun _ => rfl) (fun _ => rfl) even
        cases made : node.channel.handleUserGetRequest event (textAt event.payload "userID") with
        | none => exact rest
        | some published =>
          apply even_post _ _ rest
          obtain ⟨origin, known, asks⟩ := flow.requested node member event (mem_of_getElem? held)
          have request : requestOf (distributedBytesFromEvent stamp cluster.endpoint published channelEntity
              (.string "ALL_USERS")) = some origin.lookup := by
            simp only [Channel.handleUserGetRequest, asks] at made
            split at made
            · cases made
            cases found : node.channel.localUser (textAt event.payload "userID") with
            | error =>
              rw [found] at made
              cases made
            | ok user =>
              rw [found] at made
              cases made
              exact Announcement.answer_request origin.lookup user node.channel stamp cluster.endpoint
          exact lookup_foreign placement cluster origin _ known request flow
  | dispatch place label =>
    simp only [act, dispatch]
    cases there : cluster.nodes[place]? with
    | none => exact even
    | some node =>
      obtain ⟨channel, queues⟩ := Dispatcher.smooth_queues (lossless node there)
      exact even_node cluster { node with dispatcher := node.dispatcher.act label } there channel
        (fun _ => rfl) (queues_copies queues) even

end MessageCluster

end PondSocket.Go
