import PondSocket.Go.Hub
import PondSocket.Go.StaleNodes

namespace PondSocket.Go

open Library List Option
open Js (Json UserId NodeId)

def publisherOf (data : Json) : Option NodeId := (decodeEnvelope data).map DistributedEnvelope.sourceNodeId

def ofStream (publisher : Option NodeId) (topic : GoString) (message : PubSubMessage) : Bool :=
  decide (publisherOf message.data = publisher) && decide (message.topic = topic)

variable {topic : GoString}

variable {publisher : Option NodeId} {message : PubSubMessage}

theorem of_stream_iff :
    ofStream publisher topic message = true ↔ publisherOf message.data = publisher ∧ message.topic = topic := by
  simp [ofStream]

def streamOf (subscription : Nat) (publisher : Option NodeId) (topic : GoString) (deliveries : List Delivery) :
    List PubSubMessage :=
  ((deliveries.filter fun delivery => decide (delivery.subscription = subscription)).map Delivery.message).filter
    (ofStream publisher topic)

theorem stream_append (subscription : Nat) (publisher : Option NodeId) (topic : GoString)
    (first second : List Delivery) :
    streamOf subscription publisher topic (first ++ second) =
      streamOf subscription publisher topic first ++ streamOf subscription publisher topic second := by
  simp [streamOf]

theorem stream_own (delivery : Delivery) (publisher : Option NodeId) (topic : GoString)
    (same : ofStream publisher topic delivery.message = true) :
    streamOf delivery.subscription publisher topic [delivery] = [delivery.message] := by
  simp [streamOf, same]

variable {delivery : Delivery}

variable {subscription : Nat}

theorem stream_other
    (different : ¬ (delivery.subscription = subscription ∧ ofStream publisher topic delivery.message = true)) :
    streamOf subscription publisher topic [delivery] = [] := by
  by_cases same : delivery.subscription = subscription
  · have outside : ¬ ofStream publisher topic delivery.message = true := fun inside => different ⟨same, inside⟩
    simp [streamOf, outside]
  · simp [streamOf, same]

def Channel.Forgotten (channel : Channel) (userId : UserId) : Prop :=
  channel.remoteAssigns.has userId = false ∧ channel.presence.has userId = false ∧
    ∀ node, ¬ channel.Tracks node userId

theorem Channel.left_forgets (channel : Channel) {moment : Moment} {data : Json} {env : DistributedEnvelope}
    (decoded : decodeEnvelope data = some env) (kind : env.type = some .userLeft) (running : channel.done = false)
    (named : env.sourceNodeId ≠ "") (foreign : env.sourceNodeId ≠ channel.nodeId) (someone : env.userId ≠ "")
    (alone : ∀ other, other ≠ env.sourceNodeId → ¬ channel.Tracks other env.userId) :
    (channel.onChannelTopic moment data).1.Forgotten env.userId := by
  have handled : (channel.onChannelTopic moment data).1 = channel.handleRemoteUserLeft env := by
    simp [onChannelTopic, checkState, running, handleDistributedMessage, decoded, if_neg foreign, handleEnvelope, kind]
  rw [handled, handleRemoteUserLeft, if_neg someone]
  refine ⟨?_, ?_, ?_⟩
  · rw [untrack_frame, Bool.eq_false_iff]
    exact fun present => (OrderedMap.has_delete.mp present).1 rfl
  · rw [Bool.eq_false_iff]
    exact fun present => ((Store.has_drop _).mp present).1 rfl
  · intro node tracks
    rw [untrack_presence, tracks_untrack _ named] at tracks
    obtain ⟨before, apart⟩ := tracks
    exact alone node (fun same => apart ⟨same, rfl⟩) before

namespace Hub

variable (hub : Hub)

def sent (hub : Hub) (publisher : Option NodeId) (topic : GoString) : List PubSubMessage :=
  (hub.published.map Published.message).filter (ofStream publisher topic)

def buffered (hub : Hub) (subscription : Nat) (publisher : Option NodeId) (topic : GoString) : List PubSubMessage :=
  match hub.pubsub.subs[subscription]? with
  | none => []
  | some sub => sub.ch.filter (ofStream publisher topic)

def Ordered (hub : Hub) : Prop :=
  ∀ subscription publisher topic,
    (streamOf subscription publisher topic hub.handled).Sublist (hub.sent publisher topic)

def Announces (message : PubSubMessage) (kind : MsgType) (node : NodeId) (userId : UserId) : Prop :=
  ∃ env, decodeEnvelope message.data = some env ∧ env.type = some kind ∧ env.sourceNodeId = node ∧ env.userId = userId

variable {userId : UserId}

theorem announces_unique {kind other : MsgType} {node source : NodeId} {query : UserId}
    (announces : Announces message kind node userId) (too : Announces message other source query) :
    kind = other ∧ node = source ∧ userId = query := by
  obtain ⟨_, decoded, same, rfl, rfl⟩ := announces
  obtain ⟨_, decoded', kind', rfl, rfl⟩ := too
  cases some.inj (decoded.symm.trans decoded')
  exact ⟨some.inj (same.symm.trans kind'), rfl, rfl⟩

variable {endpoint channel : String} {nodeId : NodeId}

theorem announces_joined {stamp : Stamp}     {presence assigns : Json} :
    Announces ⟨topic, encodeUserJoined stamp endpoint channel nodeId userId presence assigns⟩ .userJoined nodeId userId :=
  ⟨_, DistributedEnvelope.decode_marshal _ stamp endpoint rfl, rfl, rfl, rfl⟩

theorem announces_left {stamp : Stamp} :
    Announces ⟨topic, encodeUserLeft stamp endpoint channel nodeId userId⟩ .userLeft nodeId userId :=
  ⟨_, DistributedEnvelope.decode_marshal _ stamp endpoint rfl, rfl, rfl, rfl⟩

def PublishedAt (hub : Hub) (place : Nat) (message : PubSubMessage) : Prop :=
  ∀ (other : Nat), (hub.published.map Published.message)[other]? = some message ↔ other = place

def Settles (hub : Hub) : HubLabel → Prop
  | .handle place uuid sent => ∀ delivery sub peer, hub.deliveries[place]? = some delivery →
      hub.pubsub.subs[delivery.subscription]? = some sub → sub.handler = .channelTopic →
      hub.peers[sub.owner]? = some peer → peer.channel.done = false →
      ∀ joined left : PubSubMessage, ∀ (first second : Nat), hub.PublishedAt first joined → hub.PublishedAt second left →
        first < second → joined.topic = left.topic → ∀ node userId, node ≠ "" → node ≠ peer.channel.nodeId → userId ≠ "" →
        Announces joined .userJoined node userId → Announces left .userLeft node userId →
        (delivery.message = joined ∧ ⟨delivery.subscription, left⟩ ∈ hub.handled ∨
          delivery.message = left ∧ ⟨delivery.subscription, joined⟩ ∈ hub.handled) →
        ∀ next, (hub.handle place uuid sent).peers[sub.owner]? = some next → next.channel.Forgotten userId
  | _ => True

-- The goroutine that runs is the oldest of its subscription for the publisher and
-- the topic, and a user that leaves is listed at no other node.
def InTurn (hub : Hub) : HubLabel → Prop
  | .handle place _ _ => ∀ delivery, hub.deliveries[place]? = some delivery →
      streamOf delivery.subscription (publisherOf delivery.message.data) delivery.message.topic
          (hub.deliveries.take place) = [] ∧
        ∀ sub peer, hub.pubsub.subs[delivery.subscription]? = some sub → sub.handler = .channelTopic →
          hub.peers[sub.owner]? = some peer → peer.channel.done = false → ∀ node userId, Announces delivery.message .userLeft node userId →
            ∀ other, other ≠ node → ¬ peer.channel.Tracks other userId
  | _ => True

def Lined (hub : Hub) : Prop :=
  ∀ subscription publisher topic,
    (streamOf subscription publisher topic hub.handled ++ (streamOf subscription publisher topic hub.deliveries ++
      hub.buffered subscription publisher topic)).Sublist (hub.sent publisher topic)

theorem lined_ordered (lined : hub.Lined) : hub.Ordered := fun subscription publisher topic =>
  (sublist_append_left _ _).trans (lined subscription publisher topic)

theorem lined_same {hub : Hub} (next : Hub) (handled : next.handled = hub.handled) (deliveries : next.deliveries = hub.deliveries)
    (published : next.published = hub.published)
    (buffers : ∀ (index : Nat) (sub : Subscription), next.pubsub.subs[index]? = some sub →
      sub.ch = [] ∨ ∃ before, hub.pubsub.subs[index]? = some before ∧ sub.ch = before.ch)
    (lined : hub.Lined) : next.Lined := by
  intro subscription publisher topic
  have before := lined subscription publisher topic
  rw [handled, deliveries, sent, published]
  have buffer : next.buffered subscription publisher topic = [] ∨
      next.buffered subscription publisher topic = hub.buffered subscription publisher topic := by
    simp only [buffered]
    cases there : next.pubsub.subs[subscription]? with
    | none => exact .inl rfl
    | some sub =>
      rcases buffers subscription sub there with empty | ⟨_, found, same⟩
      · left
        dsimp only
        rw [empty]
        rfl
      right
      dsimp only
      rw [found, same]
  rcases buffer with empty | same
  · rw [empty, append_nil]
    rw [← append_assoc] at before
    exact (sublist_append_left _ _).trans before
  · rw [same]
    exact before

theorem lined_publish {data : Json} (lined : hub.Lined) : (hub.publish topic data).Lined := by
  simp only [publish]
  split
  · exact lined
  intro subscription publisher other
  have before := lined subscription publisher other
  simp only [sent, map_append, filter_append] at before ⊢
  have buffer : ∃ more : List PubSubMessage, more.Sublist [⟨topic, data⟩] ∧ buffered { hub with
        pubsub := hub.pubsub.publish topic data
        published := hub.published ++ [⟨⟨topic, data⟩, hub.now⟩] } subscription publisher other =
          hub.buffered subscription publisher other ++ more.filter (ofStream publisher other) := by
    simp only [buffered, LocalPubSub.publish, getElem?_map]
    cases hub.pubsub.subs[subscription]? with
    | none => exact ⟨[], nil_sublist _, rfl⟩
    | some =>
      simp only [Option.map_some]
      split
      · exact ⟨[⟨topic, data⟩], List.Sublist.refl _, filter_append _ _⟩
      · exact ⟨[], nil_sublist _, (append_nil _).symm⟩
  obtain ⟨_, part, same⟩ := buffer
  rw [same, ← append_assoc, ← append_assoc]
  rw [← append_assoc] at before
  exact before.append (part.filter _)

theorem lined_take (lined : hub.Lined) : (hub.take subscription).Lined := by
  simp only [take]
  cases found : hub.pubsub.subs[subscription]? with
  | none => exact lined
  | some sub =>
    dsimp only
    cases buffer : sub.ch with
    | nil => exact lined
    | cons message =>
      intro other publisher topic
      have before := lined other publisher topic
      simp only [buffered] at before ⊢
      rw [stream_append, getElem?_modify]
      by_cases same : subscription = other
      · subst same
        simp only [found, buffer, filter_cons] at before
        simp only [found, Option.map_eq_map, Option.map_some, if_true]
        by_cases inside : ofStream publisher topic message = true
        · rw [stream_own ⟨subscription, message⟩ publisher topic inside]
          rw [if_pos inside] at before
          rw [append_assoc]
          exact before
        rw [stream_other fun both => inside both.2, append_nil]
        rw [if_neg inside] at before
        exact before
      · rw [stream_other fun both => same both.1, append_nil]
        simp only [if_neg same, Option.map_eq_map, Option.map_id_fun', id_eq]
        exact before

theorem handle_frame {place : Nat} {uuid : String} {sent : Bool} (there : hub.deliveries[place]? = some delivery) :
    (hub.handle place uuid sent).handled = hub.handled ++ [delivery] ∧
      (hub.handle place uuid sent).deliveries = hub.deliveries.eraseIdx place ∧
        (hub.handle place uuid sent).published = hub.published ∧ (hub.handle place uuid sent).pubsub = hub.pubsub := by
  simp only [handle, there]
  split <;> exact ⟨rfl, rfl, rfl, rfl⟩

theorem lined_handle {place : Nat} (uuid : String) (sent : Bool) (there : hub.deliveries[place]? = some delivery)
    (first : streamOf delivery.subscription (publisherOf delivery.message.data) delivery.message.topic
      (hub.deliveries.take place) = []) (lined : hub.Lined) : (hub.handle place uuid sent).Lined := by
  obtain ⟨handled, deliveries, published, pubsub⟩ := handle_frame hub there
  obtain ⟨split, erased, _⟩ := split_place hub.deliveries place delivery there
  intro subscription publisher topic
  have before := lined subscription publisher topic
  have buffer : (hub.handle place uuid sent).buffered subscription publisher topic =
      hub.buffered subscription publisher topic := by
    rw [buffered, pubsub]
    rfl
  rw [Hub.sent, handled, deliveries, published, buffer, erased, stream_append, stream_append]
  rw [split, ← singleton_append, stream_append, stream_append] at before
  by_cases own : delivery.subscription = subscription ∧ ofStream publisher topic delivery.message = true
  · obtain ⟨rfl, inside⟩ := own
    obtain ⟨rfl, rfl⟩ := of_stream_iff.mp inside
    rw [first, stream_own delivery _ _ inside, nil_append] at before
    rw [first, stream_own delivery _ _ inside, nil_append, append_assoc]
    exact before
  rw [stream_other own, nil_append] at before
  rw [stream_other own, append_nil]
  exact before

theorem lined_frame (hub next : Hub) (handled : next.handled = hub.handled) (deliveries : next.deliveries = hub.deliveries)
    (published : next.published = hub.published) (pubsub : next.pubsub = hub.pubsub) (lined : hub.Lined) : next.Lined := by
  apply lined_same next handled deliveries published _ lined
  intro index sub there
  rw [pubsub] at there
  exact .inr ⟨sub, there, rfl⟩

theorem lined_subscribe (hub next : Hub) (pattern : GoString) (owner : Nat) (handler : Handler)
    (handled : next.handled = hub.handled) (deliveries : next.deliveries = hub.deliveries)
    (published : next.published = hub.published) (pubsub : next.pubsub = hub.pubsub.subscribe pattern owner handler)
    (lined : hub.Lined) : next.Lined := by
  apply lined_same next handled deliveries published _ lined
  intro index sub there
  simp only [pubsub, LocalPubSub.subscribe] at there
  split at there
  · exact .inr ⟨sub, there, rfl⟩
  rcases get_concat there with before | ⟨_, rfl⟩
  · exact .inr ⟨sub, before, rfl⟩
  · exact .inl rfl

theorem lined_map (hub next : Hub) (change : Subscription → Subscription) (kept : ∀ sub, (change sub).ch = sub.ch)
    (handled : next.handled = hub.handled) (deliveries : next.deliveries = hub.deliveries)
    (published : next.published = hub.published) (subs : next.pubsub.subs = hub.pubsub.subs.map change)
    (lined : hub.Lined) : next.Lined := by
  apply lined_same next handled deliveries published _ lined
  intro index sub there
  rw [subs, getElem?_map, map_eq_some_iff] at there
  obtain ⟨before, found, rfl⟩ := there
  exact .inr ⟨before, found, kept before⟩

theorem lined_cancel (hub next : Hub) (topic : GoString) (handled : next.handled = hub.handled)
    (deliveries : next.deliveries = hub.deliveries) (published : next.published = hub.published)
    (pubsub : next.pubsub = hub.pubsub.unsubscribe topic) (lined : hub.Lined) : next.Lined := by
  by_cases closed : hub.pubsub.closed = true
  · rw [LocalPubSub.unsubscribe, if_pos closed] at pubsub
    exact lined_frame hub next handled deliveries published pubsub lined
  rw [LocalPubSub.unsubscribe, if_neg closed] at pubsub
  apply lined_map hub next (fun sub => if sub.pattern = topic then { sub with cancelled := true } else sub) _ handled
    deliveries published (congrArg LocalPubSub.subs pubsub) lined
  intro sub
  split <;> rfl

theorem lined_act (label : HubLabel) (lined : hub.Lined) (turn : hub.InTurn label) :
    (hub.act label).Lined := by
  cases label with
  | subscribeChannel peer =>
    simp only [act, subscribeChannel]
    cases hub.peers[peer]? with
    | none => exact lined
    | some =>
      dsimp only
      split
      · exact lined
      · exact lined_subscribe hub _ _ peer _ rfl rfl rfl rfl lined
  | subscribeHeartbeat peer =>
    simp only [act, subscribeHeartbeat]
    cases hub.peers[peer]? with
    | none => exact lined
    | some =>
      dsimp only
      split
      · exact lined
      · exact lined_subscribe hub _ _ peer _ rfl rfl rfl rfl lined
  | publish => exact lined_publish hub lined
  | publishHeartbeat peer =>
    simp only [act, publishHeartbeat]
    cases hub.peers[peer]? with
    | none => exact lined
    | some entry =>
      dsimp only
      split
      · exact lined
      cases entry.channel.checkState with
      | some => exact lined
      | none => exact lined_publish hub lined
  | take => exact lined_take hub lined
  | handle place uuid sent =>
    cases there : hub.deliveries[place]? with
    | none =>
      simp only [act, handle, there]
      exact lined
    | some delivery => exact lined_handle hub uuid sent there (turn delivery there).1 lined
  | unsubscribe peer =>
    simp only [act, unsubscribe]
    cases hub.peers[peer]? with
    | none => exact lined
    | some entry =>
      dsimp only
      cases entry.stage with
      | running | closed => exact lined
      | channelTopic | heartbeatTopic => exact lined_cancel hub _ _ rfl rfl rfl rfl lined
  | closePubSub =>
    exact lined_map hub (hub.act .closePubSub) (fun sub => { sub with cancelled := true }) (fun _ => rfl) rfl rfl rfl
      rfl lined
  | _ =>
    simp only [act, perform]
    try split
    all_goals exact lined_frame hub _ rfl rfl rfl rfl lined

theorem lined_new {bufferSize : Int} : (new bufferSize).Lined := fun _ _ _ => nil_sublist _

theorem publisher_announced (message : PubSubMessage) (kind : MsgType) (node : NodeId) (userId : UserId)
    (announces : Announces message kind node userId) : publisherOf message.data = some node := by
  obtain ⟨_, decoded, _, source, _⟩ := announces
  rw [publisherOf, decoded, Option.map_some, source]

theorem handled_before (ordered : hub.Ordered) {handled : List Delivery} (earlier : PubSubMessage)
    (log : hub.handled = handled ++ [delivery]) (member : ⟨delivery.subscription, earlier⟩ ∈ handled)
    (publisher : publisherOf earlier.data = publisherOf delivery.message.data)
    (topic : earlier.topic = delivery.message.topic) :
    ∃ (before after : Nat), before < after ∧ (hub.published.map Published.message)[before]? = some earlier ∧
      (hub.published.map Published.message)[after]? = some delivery.message := by
  have own : ofStream (publisherOf delivery.message.data) delivery.message.topic delivery.message = true :=
    of_stream_iff.mpr ⟨rfl, rfl⟩
  have old : earlier ∈ streamOf delivery.subscription (publisherOf delivery.message.data) delivery.message.topic handled := by
    apply mem_filter.mpr
    refine ⟨mem_map.mpr ⟨⟨delivery.subscription, earlier⟩, mem_filter.mpr ⟨member, ?_⟩, rfl⟩, ?_⟩
    · exact decide_eq_true rfl
    · exact of_stream_iff.mpr ⟨publisher, topic⟩
  have pair : [earlier, delivery.message].Sublist
      (streamOf delivery.subscription (publisherOf delivery.message.data) delivery.message.topic hub.handled) := by
    rw [log, stream_append, stream_own delivery _ _ own]
    exact (singleton_sublist.mpr old).append (List.Sublist.refl [delivery.message])
  have published := pair.trans (ordered delivery.subscription (publisherOf delivery.message.data) delivery.message.topic)
  exact pair_places (published.trans filter_sublist)

theorem lined_settles (label : HubLabel) (lined : hub.Lined) (turn : hub.InTurn label) :
    hub.Settles label := by
  cases label with
  | handle _ uuid sent =>
    intro delivery sub peer there found handler owner running joined left first second joinedOnce leftOnce order topic
      node userId named foreign someone joins leaves both next reached
    obtain ⟨oldest, alone⟩ := turn delivery there
    rcases both with ⟨rfl, already⟩ | ⟨rfl, _⟩
    · -- The join would have been overtaken by the leave.
      obtain ⟨handled, _, published, _⟩ := handle_frame hub there
      have after := lined_handle hub uuid sent there oldest lined
      have publisher : publisherOf left.data = publisherOf delivery.message.data := by
        rw [publisher_announced left .userLeft node userId leaves,
          publisher_announced delivery.message .userJoined node userId joins]
      obtain ⟨before, later, _, one, two⟩ :=
        handled_before _ (lined_ordered _ after) left handled already publisher topic.symm
      rw [published] at one two
      have leftPlace := (leftOnce before).mp one
      have joinedPlace := (joinedOnce later).mp two
      omega
    · obtain ⟨env, decoded, kind, rfl, rfl⟩ := id leaves
      simp only [handle, there, found] at reached
      obtain ⟨before, held, changed⟩ := updated_peer _ next reached
      have same : before = peer := some.inj (held.symm.trans owner)
      rw [if_pos rfl, same, handler] at changed
      rw [changed]
      exact peer.channel.left_forgets decoded kind running named foreign
        someone (alone sub peer found handler owner running env.sourceNodeId env.userId leaves)
  | _ => trivial

theorem handled_in_order (bufferSize : Int) (labels : List HubLabel)
    (inTurn : Follows act InTurn (new bufferSize) labels) :
    Always act Ordered (new bufferSize) labels ∧ Follows act Settles (new bufferSize) labels := by
  constructor
  · exact always_mono act Lined Ordered lined_ordered (new bufferSize) labels
      (always_of_follows act InTurn Lined lined_act (new bufferSize) lined_new inTurn)
  · exact follows_of_inv act InTurn Settles Lined lined_act lined_settles (new bufferSize) labels lined_new
      inTurn

def joining : PubSubMessage :=
  ⟨Address.channelTopic ⟨[], apiPath, bytes "room"⟩,
    encodeUserJoined beatStamp "api" "room" "node-2" "u" (.object []) (.object [])⟩

def leaving : PubSubMessage :=
  ⟨Address.channelTopic ⟨[], apiPath, bytes "room"⟩, encodeUserLeft beatStamp "api" "room" "node-2" "u"⟩

def bothTaken : List HubLabel :=
  opened [] "room" "node-1" 0 ++
    [.publish joining.topic joining.data, .publish leaving.topic leaving.data, .take 0, .take 0]

def overtaken : List HubLabel := bothTaken ++ [.handle 1 "uuid-1" true]

theorem announces_joining : Announces joining .userJoined "node-2" "u" :=
  announces_joined

theorem announces_leaving : Announces leaving .userLeft "node-2" "u" :=
  announces_left

theorem joining_once (log : hub.published.map Published.message = [joining, leaving]) :
    hub.PublishedAt 0 joining ∧ hub.PublishedAt 1 leaving := by
  have apart : joining ≠ leaving := by
    intro same
    have both := announces_joining
    rw [same] at both
    cases (announces_unique both announces_leaving).1
  constructor
  · intro other
    rw [log]
    rcases other with _ | _ | later
    · exact iff_of_true rfl rfl
    · exact iff_of_false (fun same => apart (some.inj same).symm) Nat.one_ne_zero
    · exact iff_of_false (fun same => by cases same) (by omega)
  · intro other
    rw [log]
    rcases other with _ | _ | _
    · exact iff_of_false (fun same => apart (some.inj same)) Nat.zero_ne_one
    · exact iff_of_true rfl rfl
    · exact iff_of_false (fun same => by cases same) (by omega)

theorem join_after_leave_stays :
    ¬ (run act (new 100) overtaken).Settles (.handle 0 "uuid-2" true) ∧
      ¬ ((run act (new 100) overtaken).act (.handle 0 "uuid-2" true)).Ordered := by
  have log : (run act (new 100) overtaken).published.map Published.message = [joining, leaving] := rfl
  have done : (run act (new 100) overtaken).handled = [⟨0, leaving⟩] := rfl
  obtain ⟨joinedOnce, leftOnce⟩ := joining_once _ log
  constructor
  · intro settles
    have room : ((run act (new 100) overtaken).peers[0]?).any (fun peer =>
        !peer.channel.done && decide ("node-2" ≠ peer.channel.nodeId)) = true := by decide +kernel
    have kept : (((run act (new 100) overtaken).handle 0 "uuid-2" true).peers[0]?).any (fun next =>
        next.channel.remoteAssigns.has "u") = true := by decide +kernel
    obtain ⟨peer, found, facts⟩ := (any_eq_true _ _).mp room
    obtain ⟨next, reached, present⟩ := (any_eq_true _ _).mp kept
    simp only [Bool.and_eq_true, Bool.not_eq_true', decide_eq_true_eq] at facts
    have forgotten := settles ⟨0, joining⟩ ⟨joining.topic, 0, .channelTopic, [], false⟩ peer rfl rfl rfl found facts.1
      joining leaving 0 1 joinedOnce leftOnce Nat.zero_lt_one rfl "node-2" "u" (by decide) facts.2 (by decide)
      announces_joining announces_leaving (.inl ⟨rfl, done ▸ mem_singleton.mpr rfl⟩) next reached
    rw [forgotten.1] at present
    cases present
  · intro ordered
    obtain ⟨_, after, _, _, two⟩ := handled_before _ ordered leaving rfl (mem_singleton.mpr rfl)
      ((publisher_announced _ _ _ _ announces_leaving).trans (publisher_announced _ _ _ _ announces_joining).symm) rfl
    have first := (joinedOnce after).mp two
    omega

def inOrder : List HubLabel := bothTaken ++ [.handle 0 "uuid-1" true, .handle 0 "uuid-2" true]

theorem in_order_settles :
    Always act Ordered (new 100) inOrder ∧ Follows act Settles (new 100) inOrder := by
  apply handled_in_order 100 inOrder
  refine ⟨trivial, trivial, trivial, trivial, trivial, trivial, trivial, ?_, ?_, trivial⟩
  · intro delivery there
    cases there
    refine ⟨rfl, ?_⟩
    intro sub peer _ _ _ _ node userId leaves
    cases (announces_unique announces_joining leaves).1
  intro delivery there
  cases there
  refine ⟨rfl, ?_⟩
  intro sub peer there _ found _ node userId leaves other apart tracks
  cases there
  obtain ⟨_, rfl, rfl⟩ := announces_unique announces_leaving leaves
  have listed : ((run act (new 100) (bothTaken ++ [.handle 0 "uuid-1" true])).peers[0]?).all (fun peer =>
      decide (peer.channel.nodeUsers.keys = ["node-2"])) = true := by decide +kernel
  have nodes : peer.channel.nodeUsers.keys = ["node-2"] := of_decide_eq_true (all_eq_true _ _ |>.mp listed peer found)
  have known := OrderedMap.mem_keys |>.mpr (peer.channel.tracks_has tracks)
  rw [nodes] at known
  exact apart (mem_singleton.mp known)

end Hub

end PondSocket.Go
