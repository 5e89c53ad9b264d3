import PondSocket.Go.ClusterBalance

namespace PondSocket.Go

open Library List Option Channel
open Js (Json UserId NodeId)

theorem Channel.local_user_iff (channel : Channel) {userId : UserId} :
    (∃ user, channel.localUser userId = .ok user) ↔ channel.store.has userId = true := by
  rw [localUser, getUserUnsafe]
  cases read : channel.store.read userId with
  | ok =>
    have present := channel.store.read_has read
    exact ⟨fun _ => present, fun _ => ⟨_, rfl⟩⟩
  | error =>
    have absent := channel.store.read_error read
    constructor
    · intro found
      obtain ⟨_, impossible⟩ := found
      cases impossible
    · intro present
      rw [absent] at present
      cases present

namespace MessageCluster

variable {placement : List Channel}

variable (cluster : MessageCluster)

def SoughtAt (cluster : MessageCluster) (sending : SendCall) (node : ClusterNode) : Prop :=
  (∃ channel stamp, cluster.channels[sending.node]? = some channel ∧
    (Announcement.getRequest sending.message.sender sending.lookup).bytes channel stamp cluster.endpoint ∈ node.inbox) ∨
  (∃ event ∈ node.requests, textAt event.payload "userID" = sending.message.sender ∧
    textAt event.payload "requestID" = sending.lookup) ∨
  ∃ caller, cluster.nodes[sending.node]? = some caller ∧ ∃ user stamp,
    (Announcement.getResponse sending.lookup user).bytes node.channel stamp cluster.endpoint ∈ caller.inbox

def Hosts (channel : Channel) (message : ChannelMessage) : Prop := channel.store.has message.sender = true

structure Lookups (cluster : MessageCluster) : Prop where
  away : ∀ sending ∈ cluster.calls, sending.phase = .asking → ∀ channel,
    cluster.channels[sending.node]? = some channel → ¬ Hosts channel sending.message
  sought : ∀ sending ∈ cluster.calls, sending.phase = .asking → ∀ (index : Nat) (node : ClusterNode),
    cluster.nodes[index]? = some node → Hosts node.channel sending.message → cluster.SoughtAt sending node
  refused : ∀ sending ∈ cluster.calls, sending.phase = .refused → ∀ channel ∈ cluster.channels,
    ¬ Hosts channel sending.message

structure Grows (cluster next : MessageCluster) : Prop where
  endpoint : next.endpoint = cluster.endpoint
  channels : next.channels = cluster.channels
  nodes : ∀ (index : Nat) (node : ClusterNode), next.nodes[index]? = some node →
    ∃ before, cluster.nodes[index]? = some before ∧ (∀ data ∈ before.inbox, data ∈ node.inbox) ∧
      ∀ event ∈ before.requests, event ∈ node.requests

theorem grows_channel (cluster next : MessageCluster) (grows : Grows cluster next) (index : Nat)
    (node before : ClusterNode) (there : next.nodes[index]? = some node) (was : cluster.nodes[index]? = some before) :
    node.channel = before.channel := by
  have left := next.channel_of_node index node there
  have right := cluster.channel_of_node index before was
  rw [grows.channels, right] at left
  exact (some.inj left).symm

theorem grows_forward (cluster next : MessageCluster) (grows : Grows cluster next) (index : Nat)
    (before : ClusterNode) (was : cluster.nodes[index]? = some before) :
    ∃ node, next.nodes[index]? = some node ∧ ∀ data ∈ before.inbox, data ∈ node.inbox := by
  have same : next.nodes.length = cluster.nodes.length := by
    have lengths := congrArg List.length grows.channels
    rw [channels, channels, length_map, length_map] at lengths
    exact lengths
  have inside : index < next.nodes.length := by
    rw [same]
    exact (List.getElem?_eq_some_iff.mp was).1
  obtain ⟨_, held, kept, _⟩ := grows.nodes index next.nodes[index] (getElem?_eq_getElem inside)
  rw [was] at held
  exact ⟨_, getElem?_eq_getElem inside, some.inj held ▸ kept⟩

theorem sought_grows (cluster next : MessageCluster) (sending : SendCall) (index : Nat) (before node : ClusterNode)
    (grows : Grows cluster next) (was : cluster.nodes[index]? = some before) (there : next.nodes[index]? = some node)
    (sought : cluster.SoughtAt sending before) : next.SoughtAt sending node := by
  obtain ⟨_, held, inbox, requests⟩ := grows.nodes index node there
  rw [was] at held
  obtain rfl := some.inj held
  rcases sought with ⟨channel, stamp, located, waiting⟩ | ⟨event, member, user, request⟩ |
    ⟨caller, located, user, stamp, waiting⟩
  · left
    refine ⟨channel, stamp, ?_, ?_⟩
    · rw [grows.channels]
      exact located
    · rw [grows.endpoint]
      exact inbox _ waiting
  · exact .inr (.inl ⟨event, requests event member, user, request⟩)
  · right
    right
    obtain ⟨later, found, kept⟩ := grows_forward cluster next grows sending.node caller located
    refine ⟨later, found, user, stamp, ?_⟩
    rw [grows.endpoint, grows_channel cluster next grows index node before there was]
    exact kept _ waiting

theorem lookups_grows (cluster next : MessageCluster) (grows : Grows cluster next)
    (calls : ∀ sending ∈ next.calls, sending.phase = .asking ∨ sending.phase = .refused → sending ∈ cluster.calls)
    (lookups : cluster.Lookups) : next.Lookups := by
  refine ⟨?_, ?_, ?_⟩
  · intro sending member asking
    rw [grows.channels]
    exact lookups.away sending (calls sending member (.inl asking)) asking
  · intro sending member asking index node there hosts
    obtain ⟨before, was, _, _⟩ := grows.nodes index node there
    rw [grows_channel cluster next grows index node before there was] at hosts
    exact sought_grows cluster next sending index before node grows was there
      (lookups.sought sending (calls sending member (.inl asking)) asking index before was hosts)
  · intro sending member refused
    rw [grows.channels]
    exact lookups.refused sending (calls sending member (.inr refused)) refused

theorem grows_post (data : Json) : Grows cluster (cluster.post data) := by
  refine ⟨rfl, ?_, ?_⟩
  · rw [channels, post, List.map_map]
    rfl
  intro index node there
  rw [post, getElem?_map, map_eq_some_iff] at there
  obtain ⟨before, was, rfl⟩ := there
  exact ⟨before, was, fun other listed => mem_append_left _ listed, fun _ => id⟩

theorem grows_node (place : Nat) (node next : ClusterNode)
    (there : cluster.nodes[place]? = some node) (channel : next.channel = node.channel)
    (inbox : ∀ data ∈ node.inbox, data ∈ next.inbox) (requests : ∀ event ∈ node.requests, event ∈ next.requests)
    (calls : List SendCall) (outbox : List Json) :
    Grows cluster { cluster with nodes := cluster.nodes.set place next, calls := calls, outbox := outbox } := by
  refine ⟨rfl, channels_set cluster place node next there channel, ?_⟩
  intro index found located
  rcases get_set cluster.nodes place index next found located with ⟨here, rfl⟩ | ⟨_, kept⟩
  · rw [here]
    exact ⟨node, there, inbox, requests⟩
  · exact ⟨found, kept, fun _ => id, fun _ => id⟩

theorem posted_everywhere (data : Json) (index : Nat) (node : ClusterNode)
    (there : (cluster.post data).nodes[index]? = some node) : data ∈ node.inbox := by
  rw [post, getElem?_map, map_eq_some_iff] at there
  obtain ⟨_, _, rfl⟩ := there
  exact mem_append_right _ (mem_singleton_self data)

variable {place : Nat}

theorem lookups_call (placed : Placement placement) {cluster : MessageCluster} {call : BroadcastCall} {event : String}
    {payload : Json} {draws : Draws} (flow : cluster.Flow placement) (lookups : cluster.Lookups) :
    (cluster.call place call event payload draws).Lookups := by
  simp only [MessageCluster.call]
  cases there : cluster.nodes[place]? with
  | none => exact lookups
  | some node =>
    cases made : call.message event payload draws with
    | none => exact lookups
    | some message =>
      have among : node.channel ∈ placement := by
        rw [← flow.placed]
        exact mem_map_of_mem (mem_of_getElem? there)
      have located := cluster.channel_of_node place node there
      have check : node.channel.checkState = none := by
        rw [checkState, placed.running node.channel among]
        rfl
      -- What the checks of the caller's node say about the sender.
      have asks : node.channel.admission message = .asking → ¬ Hosts node.channel message := by
        intro asking hosts
        obtain ⟨_, found⟩ := node.channel.local_user_iff.mpr hosts
        simp only [admission, check, found] at asking
        split at asking
        · cases asking
        split at asking
        · cases asking
        · cases asking
      have refuses : node.channel.admission message = .refused → message.sender = channelEntity := by
        intro refused
        by_cases own : message.sender = channelEntity
        · exact own
        simp only [admission, check, ne_eq, own, not_false_eq_true, if_true,
          placed.distributed node.channel among] at refused
        split at refused
        · cases refused
        · cases refused
      simp only [enter]
      by_cases asking : node.channel.admission message = .asking
      · rw [if_pos asking]
        have grows := grows_post { cluster with
          calls := cluster.calls ++ [⟨place, message, draws.lookup, node.channel.admission message⟩] }
          ((Announcement.getRequest message.sender draws.lookup).bytes node.channel draws.stamp cluster.endpoint)
        refine ⟨?_, ?_, ?_⟩
        · intro sending member waits
          rw [grows.channels]
          rcases mem_append.mp member with old | last
          · exact lookups.away sending old waits
          rw [mem_singleton.mp last]
          intro channel found
          rw [show cluster.channels[place]? = some channel from found] at located
          rw [some.inj located]
          exact asks asking
        · intro sending member waits index found listed hosts
          rcases mem_append.mp member with old | last
          · obtain ⟨before, was, _, _⟩ := grows.nodes index found listed
            rw [grows_channel _ _ grows index found before listed was] at hosts
            exact sought_grows _ _ sending index before found grows was listed
              (lookups.sought sending old waits index before was hosts)
          rw [mem_singleton.mp last]
          left
          refine ⟨node.channel, draws.stamp, ?_, posted_everywhere _ _ index found listed⟩
          rw [grows.channels]
          exact located
        · intro sending member failed
          rw [grows.channels]
          rcases mem_append.mp member with old | last
          · exact lookups.refused sending old failed
          rw [mem_singleton.mp last] at failed
          rw [show node.channel.admission message = .refused from failed] at asking
          cases asking
      · rw [if_neg asking]
        refine ⟨?_, ?_, ?_⟩
        · intro sending member waits
          rcases mem_append.mp member with old | last
          · exact lookups.away sending old waits
          · rw [mem_singleton.mp last] at waits
            exact absurd waits asking
        · intro sending member waits
          rcases mem_append.mp member with old | last
          · exact lookups.sought sending old waits
          · rw [mem_singleton.mp last] at waits
            exact absurd waits asking
        · intro sending member failed
          rcases mem_append.mp member with old | last
          · exact lookups.refused sending old failed
          rw [mem_singleton.mp last] at failed ⊢
          intro channel listed hosts
          have unnamed := placed.unnamed channel (flow.placed ▸ listed)
          rw [Hosts, refuses failed, unnamed] at hosts
          cases hosts

variable {node : ClusterNode}

theorem receipt_grows {origins : List Origin} {waiting : List String}
    {data : Json} {result : ClusterNode × Option String} (receipt : Receipt placement origins node waiting data result) :
    result.1.channel = node.channel ∧ result.1.inbox = node.inbox ∧ ∀ event ∈ node.requests, event ∈ result.1.requests := by
  cases receipt with
  | own _ _ _ same =>
    rw [same]
    exact ⟨rfl, rfl, fun _ => id⟩
  | message _ _ _ _ _ _ _ _ _ _ same =>
    rw [same]
    exact ⟨rfl, rfl, fun _ => id⟩
  | lookup _ _ _ event _ same =>
    rw [same]
    exact ⟨rfl, rfl, fun event listed => mem_append_left _ listed⟩
  | answer _ _ _ same =>
    rw [same]
    exact ⟨rfl, rfl, fun _ => id⟩

variable {item : Nat}

variable {moment : Moment}

theorem sought_deliver (placed : Placement placement) {cluster : MessageCluster} {data : Json} {sending : SendCall}
    {index : Nat} {before found : ClusterNode} (there : cluster.nodes[place]? = some node)
    (held : node.inbox[item]? = some data)
    (room : node.dispatcher.queued.length - node.dispatcher.taken < queueCapacity) (member : sending ∈ cluster.calls)
    (asking : sending.phase = .asking)
    (unwoken : wake place (({ node with inbox := node.inbox.eraseIdx item } : ClusterNode).receive
      (cluster.waiting place) moment data).2 sending = sending) (was : cluster.nodes[index]? = some before)
    (hosts : Hosts before.channel sending.message)
    (listed : (cluster.deliver place item moment).nodes[index]? = some found) (flow : cluster.Flow placement)
    (lookups : cluster.Lookups) : (cluster.deliver place item moment).SoughtAt sending found := by
  have moved := flow_deliver placement cluster place item moment (fun other same => by
    rw [there] at same
    rw [← some.inj same]
    exact room) flow
  have channels : (cluster.deliver place item moment).channels = cluster.channels := moved.placed.trans flow.placed.symm
  have known := mem_of_getElem? there
  have running := (flow.accounted node known).running
  have posted := flow.posted data (.inr ⟨node, known, mem_of_getElem? held⟩)
  have receipt := receive_receipt placement cluster.endpoint cluster.origins { node with inbox := node.inbox.eraseIdx item }
    (cluster.waiting place) moment data posted (fun origin member => (flow.asked origin member).1) running room
  obtain ⟨_, inbox, requests⟩ := receipt_grows receipt
  have origin : sending.origin ∈ cluster.origins := mem_map_of_mem member
  have step : (cluster.deliver place item moment).nodes = cluster.nodes.set place
      (({ node with inbox := node.inbox.eraseIdx item } : ClusterNode).receive (cluster.waiting place) moment data).1 := by
    simp only [deliver, there, held]
  have endpoint : (cluster.deliver place item moment).endpoint = cluster.endpoint := by
    simp only [deliver, there, held]
  have same : found.channel = before.channel := by
    have left := (cluster.deliver place item moment).channel_of_node index found listed
    rw [channels, cluster.channel_of_node index before was] at left
    exact (some.inj left).symm
  -- The caller's node and the host are two.
  have apart : ∀ channel, cluster.channels[sending.node]? = some channel → channel.nodeId ≠ before.channel.nodeId := by
    intro channel located equal
    have here := cluster.channel_of_node index before was
    rw [flow.placed] at located here
    have one := node_of_id placement placed located here equal
    rw [one, here] at located
    rw [some.inj located] at hosts
    refine lookups.away sending member asking channel ?_ hosts
    rw [flow.placed, one, here, some.inj located]
  rw [step] at listed
  rcases lookups.sought sending member asking index before was hosts with
    ⟨channel, stamp, located, waiting⟩ | ⟨event, request, user, asks⟩ | ⟨caller, located, user, stamp, waiting⟩
  · rcases get_set cluster.nodes place index _ found listed with ⟨here, rfl⟩ | ⟨_, kept⟩
    · rw [here, there] at was
      obtain rfl := some.inj was
      rcases mem_erase_or held waiting with handled | left
      · -- This is the request itself.
        obtain ⟨event, user, asks, result⟩ := ClusterNode.receive_lookup { node with inbox := node.inbox.eraseIdx item }
          (cluster.waiting place) moment running
          (apart channel located)
        rw [handled] at result
        right
        left
        refine ⟨event, ?_, user, asks⟩
        rw [result]
        exact mem_append_right _ (mem_singleton_self event)
      · left
        refine ⟨channel, stamp, ?_, ?_⟩
        · rw [channels]
          exact located
        · rw [endpoint, inbox]
          exact left
    · rw [was] at kept
      obtain rfl := some.inj kept
      left
      refine ⟨channel, stamp, ?_, ?_⟩
      · rw [channels]
        exact located
      · rw [endpoint]
        exact waiting
  · right
    left
    rcases get_set cluster.nodes place index _ found listed with ⟨here, rfl⟩ | ⟨_, kept⟩
    · rw [here, there] at was
      obtain rfl := some.inj was
      exact ⟨event, requests event request, user, asks⟩
    rw [was] at kept
    obtain rfl := some.inj kept
    exact ⟨event, request, user, asks⟩
  · right
    right
    have home := cluster.channel_of_node sending.node caller located
    by_cases here : sending.node = place
    · rw [here, there] at located
      obtain rfl := some.inj located
      rcases mem_erase_or held waiting with handled | left
      · -- The answer itself would have woken the call.
        have result := ClusterNode.receive_answer { node with inbox := node.inbox.eraseIdx item } (cluster.waiting place)
          moment sending.lookup (flow.asked sending.origin origin).1 user before.channel stamp cluster.endpoint running
          (fun equal => apart node.channel home equal.symm)
        have waits : sending.lookup ∈ cluster.waiting place :=
          mem_map_of_mem (mem_filter.mpr ⟨member, decide_eq_true ⟨here, asking⟩⟩)
        rw [handled, if_pos waits] at result
        rw [result, wake, if_pos ⟨here, asking, rfl⟩] at unwoken
        have phases := congrArg SendCall.phase unwoken
        rw [asking] at phases
        cases phases
      · have later : (cluster.deliver place item moment).nodes[sending.node]? =
            some (({ node with inbox := node.inbox.eraseIdx item } : ClusterNode).receive (cluster.waiting place) moment
              data).1 := by
          rw [step, here]
          exact List.getElem?_set_self (List.getElem?_eq_some_iff.mp there).1
        refine ⟨_, later, user, stamp, ?_⟩
        rw [endpoint, same, inbox]
        exact left
    · refine ⟨caller, ?_, user, stamp, ?_⟩
      · rw [step, getElem?_set_ne (fun equal => here equal.symm)]
        exact located
      · rw [endpoint, same]
        exact waiting

theorem lookups_deliver (placed : Placement placement) {cluster : MessageCluster}
    (lossless : cluster.Lossless (.deliver place item moment)) (flow : cluster.Flow placement)
    (lookups : cluster.Lookups) : (cluster.deliver place item moment).Lookups := by
  cases there : cluster.nodes[place]? with
  | none =>
    simp only [deliver, there]
    exact lookups
  | some node =>
    cases held : node.inbox[item]? with
    | none =>
      simp only [deliver, there, held]
      exact lookups
    | some data =>
      have moved := flow_deliver placement cluster place item moment lossless flow
      have channels : (cluster.deliver place item moment).channels = cluster.channels :=
        moved.placed.trans flow.placed.symm
      have calls : (cluster.deliver place item moment).calls = cluster.calls.map
          (wake place (({ node with inbox := node.inbox.eraseIdx item } : ClusterNode).receive (cluster.waiting place)
            moment data).2) := by
        simp [deliver, there, held]
      -- A call that still waits or has failed is as it was.
      have kept : ∀ sending ∈ (cluster.deliver place item moment).calls,
          sending.phase = .asking ∨ sending.phase = .refused →
          sending ∈ cluster.calls ∧ wake place (({ node with inbox := node.inbox.eraseIdx item } : ClusterNode).receive
            (cluster.waiting place) moment data).2 sending = sending := by
        intro sending member phase
        rw [calls] at member
        obtain ⟨before, listed, rfl⟩ := mem_map.mp member
        have same : wake place (({ node with inbox := node.inbox.eraseIdx item } : ClusterNode).receive
            (cluster.waiting place) moment data).2 before = before := by
          simp only [wake] at phase ⊢
          split
          · rename_i woken
            rw [if_pos woken] at phase
            rcases phase with asking | refused
            · cases asking
            · cases refused
          · rfl
        rw [same]
        exact ⟨listed, same⟩
      refine ⟨?_, ?_, ?_⟩
      · intro sending member asking
        rw [channels]
        exact lookups.away sending (kept sending member (.inl asking)).1 asking
      · intro sending member asking index found listed hosts
        obtain ⟨listedBefore, unwoken⟩ := kept sending member (.inl asking)
        have inside : index < cluster.nodes.length := by
          have lengths := congrArg List.length channels
          rw [MessageCluster.channels, MessageCluster.channels, length_map, length_map] at lengths
          rw [← lengths]
          exact (List.getElem?_eq_some_iff.mp listed).1
        have was : cluster.nodes[index]? = some cluster.nodes[index] := getElem?_eq_getElem inside
        have same := (cluster.deliver place item moment).channel_of_node index found listed
        rw [channels, cluster.channel_of_node index _ was] at same
        rw [← some.inj same] at hosts
        exact sought_deliver placed there held
          (lossless node there) listedBefore asking unwoken was hosts listed flow lookups
      · intro sending member refused
        rw [channels]
        exact lookups.refused sending (kept sending member (.inr refused)).1 refused

theorem lookups_answer (placed : Placement placement) {cluster : MessageCluster} {stamp : Stamp}
    (flow : cluster.Flow placement) (lookups : cluster.Lookups) : (cluster.answer place item stamp).Lookups := by
  have moved := flow_answer place item stamp flow
  have channels : (cluster.answer place item stamp).channels = cluster.channels := moved.placed.trans flow.placed.symm
  have calls : (cluster.answer place item stamp).calls = cluster.calls := by
    simp only [answer]
    split
    · rfl
    split
    · rfl
    · split <;> rfl
  refine ⟨?_, ?_, ?_⟩
  · rw [calls, channels]
    exact lookups.away
  · intro sending member asking index found listed hosts
    rw [calls] at member
    cases there : cluster.nodes[place]? with
    | none =>
      simp only [answer, there] at listed ⊢
      exact lookups.sought sending member asking index found listed hosts
    | some node =>
      cases held : node.requests[item]? with
      | none =>
        simp only [answer, there, held] at listed ⊢
        exact lookups.sought sending member asking index found listed hosts
      | some event =>
        have inside : index < cluster.nodes.length := by
          have lengths := congrArg List.length channels
          rw [MessageCluster.channels, MessageCluster.channels, length_map, length_map] at lengths
          rw [← lengths]
          exact (List.getElem?_eq_some_iff.mp listed).1
        obtain ⟨before, was⟩ : ∃ before, cluster.nodes[index]? = some before := ⟨_, getElem?_eq_getElem inside⟩
        have same := (cluster.answer place item stamp).channel_of_node index found listed
        rw [channels, cluster.channel_of_node index before was] at same
        rw [← some.inj same] at hosts
        have sought := lookups.sought sending member asking index before was hosts
        by_cases answered : index = place ∧ textAt event.payload "userID" = sending.message.sender ∧
            textAt event.payload "requestID" = sending.lookup
        · -- This is the request for the sender.
          obtain ⟨here, user, asks⟩ := answered
          have origin : sending.origin ∈ cluster.origins := mem_map_of_mem member
          have known := mem_of_getElem? there
          have shared : node.channel.distributed = true := by
            apply placed.distributed
            rw [← flow.placed]
            exact mem_map_of_mem known
          rw [here, there] at was
          obtain rfl := some.inj was
          obtain ⟨answer, present⟩ := node.channel.local_user_iff.mpr hosts
          have made : node.channel.handleUserGetRequest event (textAt event.payload "userID") =
              some (node.channel.userGetAnswer sending.lookup answer) := by
            rw [Channel.handleUserGetRequest, user, asks, present, if_neg]
            intro either
            rcases either with single | unasked
            · rw [shared] at single
              cases single
            · exact (flow.asked sending.origin origin).1 unasked
          have step : cluster.answer place item stamp = MessageCluster.post
              { cluster with nodes := cluster.nodes.set place { node with requests := node.requests.eraseIdx item } }
              ((Announcement.getResponse sending.lookup answer).bytes node.channel stamp cluster.endpoint) := by
            simp only [MessageCluster.answer, there, held, made]
            rfl
          right
          right
          have within : sending.node < (cluster.answer place item stamp).nodes.length := by
            have lengths := congrArg List.length moved.placed
            rw [MessageCluster.channels, length_map] at lengths
            rw [lengths]
            exact (flow.asked sending.origin origin).2
          refine ⟨_, getElem?_eq_getElem within, answer, stamp, ?_⟩
          rw [← some.inj same]
          have arrived := posted_everywhere { cluster with
            nodes := cluster.nodes.set place { node with requests := node.requests.eraseIdx item } }
            ((Announcement.getResponse sending.lookup answer).bytes node.channel stamp cluster.endpoint) sending.node
          rw [← step] at arrived
          have endpoint : (cluster.answer place item stamp).endpoint = cluster.endpoint := by
            rw [step]
            rfl
          rw [endpoint]
          exact arrived _ (getElem?_eq_getElem within)
        · have rest : SoughtAt { cluster with
              nodes := cluster.nodes.set place { node with requests := node.requests.eraseIdx item } } sending
              (if index = place then { node with requests := node.requests.eraseIdx item }
                else before) := by
            have located : ∀ caller, cluster.nodes[sending.node]? = some caller →
                ∃ later, (cluster.nodes.set place { node with requests := node.requests.eraseIdx item })[sending.node]? =
                  some later ∧ later.inbox = caller.inbox := by
              intro caller found
              by_cases here : place = sending.node
              · rw [← here, there] at found
                refine ⟨{ node with requests := node.requests.eraseIdx item }, ?_, ?_⟩
                · rw [← here]
                  exact List.getElem?_set_self (List.getElem?_eq_some_iff.mp there).1
                · rw [← some.inj found]
              · exact ⟨caller, (getElem?_set_ne here).trans found, rfl⟩
            have homes : MessageCluster.channels { cluster with
                nodes := cluster.nodes.set place { node with requests := node.requests.eraseIdx item } } =
                cluster.channels := channels_set cluster place node _ there rfl
            by_cases here : index = place
            · rw [if_pos here]
              rw [here, there] at was
              obtain rfl := some.inj was
              rcases sought with ⟨channel, at', home, waiting⟩ | ⟨other, listedThere, user, asks⟩ |
                ⟨caller, at', user, mark, waiting⟩
              · exact .inl ⟨channel, at', homes ▸ home, waiting⟩
              · right
                left
                rcases mem_erase_or held listedThere with rfl | left
                · exact absurd ⟨here, user, asks⟩ answered
                · exact ⟨other, left, user, asks⟩
              · obtain ⟨later, found, inbox⟩ := located caller at'
                exact .inr (.inr ⟨later, found, user, mark, inbox ▸ waiting⟩)
            · rw [if_neg here]
              rcases sought with ⟨channel, at', home, waiting⟩ | request | ⟨caller, at', user, mark, waiting⟩
              · exact .inl ⟨channel, at', homes ▸ home, waiting⟩
              · exact .inr (.inl request)
              · obtain ⟨later, found, inbox⟩ := located caller at'
                exact .inr (.inr ⟨later, found, user, mark, inbox ▸ waiting⟩)
          have there' : (cluster.nodes.set place { node with requests := node.requests.eraseIdx item })[index]? =
              some (if index = place then { node with requests := node.requests.eraseIdx item }
                else before) := by
            by_cases here : index = place
            · rw [if_pos here, here]
              exact List.getElem?_set_self (List.getElem?_eq_some_iff.mp there).1
            · rw [if_neg here]
              exact (getElem?_set_ne fun equal => here equal.symm).trans was
          cases made : node.channel.handleUserGetRequest event (textAt event.payload "userID") with
          | none =>
            simp only [answer, there, held, made] at listed ⊢
            rw [there'] at listed
            rw [← some.inj listed]
            exact rest
          | some =>
            simp only [answer, there, held, made] at listed ⊢
            exact sought_grows _ _ sending index _ found (grows_post _ _) there' listed rest
  · rw [calls, channels]
    exact lookups.refused

theorem lookups_act (placed : Placement placement) {cluster : MessageCluster}
    {label : ClusterLabel} (lossless : cluster.Lossless label) (flow : cluster.Flow placement)
    (lookups : cluster.Lookups) : (cluster.act label).Lookups := by
  cases label with
  | call => exact lookups_call placed flow lookups
  | resume place stamp =>
    simp only [act, resume]
    cases held : cluster.calls[place]? with
    | none => exact lookups
    | some sending =>
      dsimp only
      cases there : cluster.nodes[sending.node]? with
      | none => exact lookups
      | some node =>
        dsimp only
        split
        · have channel : ClusterNode.channel { node with
              dispatcher := (node.dispatcher.sendMessage stamp cluster.endpoint sending.message).1 } =
              node.channel := by
            simp only [ClusterNode.channel, Dispatcher.sendMessage, Dispatcher.address]
            split <;> rfl
          apply lookups_grows cluster _ (grows_node cluster sending.node node _ there channel (fun _ => id)
            (fun _ => id) _ _) _ lookups
          intro other member phase
          rcases mem_or_eq_of_mem_set member with before | rfl
          · exact before
          rcases phase with asking | refused
          · cases asking
          · cases refused
        · exact lookups
  | timeOut place =>
    simp only [act, timeOut]
    cases held : cluster.calls[place]? with
    | none => exact lookups
    | some sending =>
      dsimp only
      split
      · refine ⟨?_, ?_, ?_⟩
        · intro other member asking
          rcases mem_or_eq_of_mem_set member with before | rfl
          · exact lookups.away other before asking
          · cases asking
        · intro other member asking
          rcases mem_or_eq_of_mem_set member with before | rfl
          · exact lookups.sought other before asking
          · cases asking
        · intro other member refused
          rcases mem_or_eq_of_mem_set member with before | rfl
          · exact lookups.refused other before refused
          intro channel listed hosts
          rw [Hosts, lossless sending held channel listed] at hosts
          cases hosts
      · exact lookups
  | publish place =>
    simp only [act, publish]
    cases held : cluster.outbox[place]? with
    | none => exact lookups
    | some =>
      exact lookups_grows { cluster with outbox := cluster.outbox.eraseIdx place } _ (grows_post _ _)
        (fun _ member _ => member) ⟨lookups.away, lookups.sought, lookups.refused⟩
  | deliver => exact lookups_deliver placed lossless flow lookups
  | answer => exact lookups_answer placed flow lookups
  | dispatch place label =>
    simp only [act, dispatch]
    cases there : cluster.nodes[place]? with
    | none => exact lookups
    | some node =>
      obtain ⟨channel, _⟩ := Dispatcher.smooth_queues (lossless node there)
      exact lookups_grows cluster _ (grows_node cluster place node { node with
        dispatcher := node.dispatcher.act label } there channel (fun _ => id) (fun _ => id) cluster.calls
        cluster.outbox) (fun _ member _ => member) lookups

end MessageCluster

end PondSocket.Go
