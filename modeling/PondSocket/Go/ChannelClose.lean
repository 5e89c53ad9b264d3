import PondSocket.Go.Hub
import PondSocket.Go.LastSeen

namespace PondSocket.Go

open Library List OrderedMap Option Channel LocalPubSub
open Js (Json UserId NodeId)

def Peer.Registered (peer : Peer) : Handler → Prop
  | .channelTopic => peer.subscribed = true
  | .heartbeatTopic => peer.startedAt.isSome = true

def Peer.unsubscribes (peer : Peer) : Option GoString :=
  match peer.stage with
  | .channelTopic => some peer.address.channelTopic
  | .heartbeatTopic => some peer.address.heartbeatTopic
  | .running | .closed => none

namespace Hub

variable (hub : Hub) (peer : Nat)

def Subscribed (hub : Hub) : Prop :=
  hub.pubsub.closed = false → ∀ (place : Nat) (peer : Peer), hub.peers[place]? = some peer → peer.channel.done = false →
    ∀ handler, peer.Registered handler → ∃ sub ∈ hub.pubsub.subs,
      sub.owner = place ∧ sub.handler = handler ∧ sub.pattern = peer.address.topic handler ∧ sub.cancelled = false

def Beating (hub : Hub) (peer : Peer) (node : NodeId) : Prop :=
  ∃ item ∈ hub.published, item.message.topic = peer.address.heartbeatTopic ∧
    heartbeatOf item.message.data = some node ∧ hub.now < item.time + peer.channel.heartbeatTimeout

def Waiting (hub : Hub) (place : Nat) (node : NodeId) : Prop :=
  ∃ (index : Nat) (sub : Subscription) (message : PubSubMessage), hub.pubsub.subs[index]? = some sub ∧
    sub.owner = place ∧ sub.handler = .heartbeatTopic ∧ heartbeatOf message.data = some node ∧
      (message ∈ sub.ch ∨ ⟨index, message⟩ ∈ hub.deliveries)

def Spares (hub : Hub) : HubLabel → Prop
  | .tick place => ∀ peer, hub.peers[place]? = some peer → peer.channel.done = false → ∀ node, hub.Beating peer node →
      ∀ userId, peer.channel.Tracks node userId → ∀ next, (hub.tick place).peers[place]? = some next →
        next.channel.Tracks node userId ∧
          next.channel.remoteAssigns.get? userId = peer.channel.remoteAssigns.get? userId ∧
            next.channel.presence.store.get? userId = peer.channel.presence.store.get? userId
  | _ => True

def Roomy (hub : Hub) (topic : GoString) (data : Json) : Prop :=
  (heartbeatOf data).isSome = true → ∀ sub ∈ hub.pubsub.subs, sub.cancelled = false → sub.handler = .heartbeatTopic →
    matchTopic sub.pattern topic = true → sub.ch.length < hub.pubsub.bufferSize

def Steady (hub : Hub) : HubLabel → Prop
  | .unsubscribe place => ∀ peer topic, hub.peers[place]? = some peer → peer.unsubscribes = some topic →
      ∀ (other : Nat) (entry : Peer), hub.peers[other]? = some entry → entry.channel.done = false → ∀ handler, entry.Registered handler →
        entry.address.topic handler ≠ topic
  | .publish topic data => hub.Roomy topic data
  | .publishHeartbeat place stamp => ∀ peer, hub.peers[place]? = some peer → hub.Roomy peer.address.heartbeatTopic
      (encodeHeartbeat stamp "__heartbeat__" "__heartbeat__" peer.channel.nodeId)
  | .tick place => ∀ peer, hub.peers[place]? = some peer → peer.channel.done = false → ∀ node, hub.Beating peer node →
      ¬ hub.Waiting place node ∧ ∀ userId, peer.channel.Tracks node userId →
        ∀ other ∈ peer.channel.staleNodes hub.now, other ≠ node → ¬ peer.channel.Tracks other userId
  | _ => True

structure Heard (hub : Hub) : Prop where
  past : ∀ item ∈ hub.published, item.time ≤ hub.now
  subscribed : hub.Subscribed
  foreign : ∀ (place : Nat) (peer : Peer) (node : NodeId), hub.peers[place]? = some peer → peer.channel.nodeLastSeen.has node = true →
    node ≠ "" ∧ node ≠ peer.channel.nodeId
  heard : ∀ (place : Nat) (peer : Peer) (start : Nat), hub.peers[place]? = some peer → peer.channel.done = false → peer.startedAt = some start →
    ∀ item ∈ hub.published, item.message.topic = peer.address.heartbeatTopic → start < item.time →
      ∀ node, heartbeatOf item.message.data = some node →
        hub.Waiting place node ∨ ∀ time, peer.channel.nodeLastSeen.get? node = some time → item.time ≤ time

structure Carried (peer next : Peer) (now : Nat) : Prop where
  address : next.address = peer.address
  subscribed : next.subscribed = peer.subscribed
  startedAt : next.startedAt = peer.startedAt
  stamped : Channel.Stamped peer.channel next.channel now

theorem carried_refl {peer : Peer} {now : Nat} : Carried peer peer now :=
  ⟨rfl, rfl, rfl, stamped_refl peer.channel⟩

theorem registered_carried {peer next : Peer} {now : Nat} (carried : Carried peer next now) {handler : Handler} :
    next.Registered handler ↔ peer.Registered handler := by
  cases handler with
  | channelTopic => rw [Peer.Registered, Peer.Registered, carried.subscribed]
  | heartbeatTopic => rw [Peer.Registered, Peer.Registered, carried.startedAt]

def Keeps (before after : List Subscription) : Prop :=
  ∀ sub ∈ before, sub.cancelled = false → ∃ other ∈ after, other.owner = sub.owner ∧ other.handler = sub.handler ∧
    other.pattern = sub.pattern ∧ other.cancelled = false

theorem subscribed_carried (hub next : Hub) (now : Nat) (closed : next.pubsub.closed = false → hub.pubsub.closed = false)
    (kept : Keeps hub.pubsub.subs next.pubsub.subs)
    (peers : ∀ (place : Nat) (entry : Peer), next.peers[place]? = some entry →
      ∃ peer, hub.peers[place]? = some peer ∧ Carried peer entry now)
    (subscribed : hub.Subscribed) : next.Subscribed := by
  intro running place entry there still handler registered
  obtain ⟨peer, before, carried⟩ := peers place entry there
  obtain ⟨sub, member, owner, handles, pattern, live⟩ := subscribed (closed running) place peer before
    (carried.stamped.running still) handler ((registered_carried carried).mp registered)
  obtain ⟨other, later, owner', handles', pattern', live'⟩ := kept sub member live
  refine ⟨other, later, owner'.trans owner, handles'.trans handles, (pattern'.trans pattern).trans ?_, live'⟩
  rw [carried.address]

theorem heard_carried (hub next : Hub) (heard : hub.Heard) (now : hub.now ≤ next.now)
    (published : next.published = hub.published) (subscribed : next.Subscribed)
    (peers : ∀ (place : Nat) (entry : Peer), next.peers[place]? = some entry →
      ∃ peer, hub.peers[place]? = some peer ∧ Carried peer entry next.now ∧
        (entry.channel.done = false → ∀ node, hub.Waiting place node → next.Waiting place node ∨
          ∀ time, entry.channel.nodeLastSeen.get? node = some time → time = next.now)) :
    next.Heard := by
  have past : ∀ item ∈ next.published, item.time ≤ next.now := by
    intro item member
    rw [published] at member
    exact Nat.le_trans (heard.past item member) now
  refine ⟨past, subscribed, ?_, ?_⟩
  · intro place entry node there known
    obtain ⟨peer, before, carried, _⟩ := peers place entry there
    obtain ⟨time, found⟩ := has_iff.mp known
    rw [carried.stamped.nodeId]
    rcases carried.stamped.seen node time found with old | ⟨_, named, foreign⟩
    · exact heard.foreign place peer node before (has_iff.mpr ⟨time, old⟩)
    · exact ⟨named, foreign⟩
  · intro place entry start there still started item member topic later node named
    obtain ⟨peer, before, carried, waiting⟩ := peers place entry there
    have fresh := past item member
    rw [published] at member
    rw [carried.startedAt] at started
    rw [carried.address] at topic
    rcases heard.heard place peer start before (carried.stamped.running still) started item member topic later node named
      with waits | known
    · refine (waiting still node waits).imp_right fun bound time found => ?_
      rw [bound time found]
      exact fresh
    refine .inr fun time found => ?_
    rcases carried.stamped.seen node time found with old | ⟨same, _⟩
    · exact known time old
    · rw [same]
      exact fresh

theorem carried_update (peer now : Nat) (change : Peer → Peer)
    (carry : ∀ entry, Carried entry (change entry) now) (place : Nat) (next : Peer)
    (found : (hub.update peer change).peers[place]? = some next) :
    ∃ before, hub.peers[place]? = some before ∧ Carried before next now := by
  obtain ⟨before, there, same⟩ := updated_peer change next found
  refine ⟨before, there, ?_⟩
  rw [same]
  split
  · exact carry before
  · exact carried_refl

theorem waiting_grows (hub next : Hub) (place : Nat) (node : NodeId)
    (subs : ∀ (index : Nat) (sub : Subscription), hub.pubsub.subs[index]? = some sub →
      ∃ other, next.pubsub.subs[index]? = some other ∧ other.owner = sub.owner ∧ other.handler = sub.handler ∧
        ∀ message ∈ sub.ch, message ∈ other.ch)
    (deliveries : ∀ delivery ∈ hub.deliveries, delivery ∈ next.deliveries) (waiting : hub.Waiting place node) :
    next.Waiting place node := by
  obtain ⟨index, sub, message, there, owner, handler, named, pending⟩ := waiting
  obtain ⟨other, later, owner', handler', kept⟩ := subs index sub there
  exact ⟨index, other, message, later, owner'.trans owner, handler'.trans handler, named,
    pending.imp (kept message) (deliveries _)⟩

theorem keeps_refl {subs : List Subscription} : Keeps subs subs := fun sub member live => ⟨sub, member, rfl, rfl, rfl, live⟩

theorem keeps_map (subs : List Subscription) (change : Subscription → Subscription)
    (same : ∀ sub, (change sub).owner = sub.owner ∧ (change sub).handler = sub.handler ∧
      (change sub).pattern = sub.pattern ∧ (change sub).cancelled = sub.cancelled) : Keeps subs (subs.map change) := by
  intro sub member live
  obtain ⟨owner, handler, pattern, cancelled⟩ := same sub
  exact ⟨change sub, mem_map_of_mem member, owner, handler, pattern, cancelled.trans live⟩

variable {peer}

variable {change : Peer → Peer}

theorem heard_update (carry : ∀ entry, Carried entry (change entry) hub.now) (heard : hub.Heard) :
    (hub.update peer change).Heard := by
  have peers := carried_update hub peer hub.now change carry
  have subscribed : (hub.update peer change).Subscribed :=
    subscribed_carried hub _ hub.now id keeps_refl peers heard.subscribed
  apply heard_carried hub (hub.update peer change) heard (Nat.le_refl _) rfl subscribed
  intro place entry there
  obtain ⟨before, found, carried⟩ := peers place entry there
  exact ⟨before, found, carried, fun _ _ waiting => .inl waiting⟩

theorem heard_wait {time : Nat} (heard : hub.Heard) : (hub.act (.wait time)).Heard := by
  apply heard_carried hub (hub.act (.wait time)) heard (Nat.le_add_right _ _) rfl heard.subscribed
  intro place entry there
  exact ⟨entry, there, carried_refl, fun _ _ waiting => .inl waiting⟩

theorem heard_create {namespaceOption endpointPath : GoString} {name : String} {nodeId : NodeId}
    {onDestroy : Bool} {heartbeatTimeout : Nat} (heard : hub.Heard) :
    (hub.create namespaceOption endpointPath name nodeId onDestroy heartbeatTimeout).Heard := by
  have old : ∀ (place : Nat) (peer : Peer),
      (hub.create namespaceOption endpointPath name nodeId onDestroy heartbeatTimeout).peers[place]? = some peer →
        hub.peers[place]? = some peer ∨
          peer.subscribed = false ∧ peer.startedAt = none ∧ peer.channel.nodeLastSeen = .empty := by
    intro place peer there
    rcases get_concat there with before | ⟨_, rfl⟩
    · exact .inl before
    · exact .inr ⟨rfl, rfl, rfl⟩
  refine ⟨heard.past, ?_, ?_, ?_⟩
  · intro running place peer there still handler registered
    rcases old place peer there with before | ⟨unsubscribed, unstarted, _⟩
    · exact heard.subscribed running place peer before still handler registered
    cases handler with
    | channelTopic =>
      rw [Peer.Registered, unsubscribed] at registered
      cases registered
    | heartbeatTopic =>
      rw [Peer.Registered, unstarted] at registered
      cases registered
  · intro place peer node there known
    rcases old place peer there with before | ⟨_, _, empty⟩
    · exact heard.foreign place peer node before known
    · rw [empty] at known
      cases known
  · intro place peer start there still started
    rcases old place peer there with before | ⟨_, unstarted, _⟩
    · exact heard.heard place peer start before still started
    · rw [unstarted] at started
      cases started

theorem heard_subscribe {entry : Peer} (handler : Handler)
    (found : hub.peers[peer]? = some entry) (channel : (change entry).channel = entry.channel)
    (address : (change entry).address = entry.address)
    (registers : ∀ other, (change entry).Registered other → other = handler ∨ entry.Registered other)
    (starts : (change entry).startedAt = entry.startedAt ∨ (change entry).startedAt = some hub.now)
    (heard : hub.Heard) :
    ({ hub with pubsub := hub.pubsub.subscribe (entry.address.topic handler) peer handler }.update peer change).Heard := by
  have subs : ∀ sub ∈ hub.pubsub.subs, sub ∈ (hub.pubsub.subscribe (entry.address.topic handler) peer handler).subs := by
    intro sub member
    simp only [subscribe]
    split
    · exact member
    · exact mem_append_left _ member
  have places : ∀ (index : Nat) (sub : Subscription), hub.pubsub.subs[index]? = some sub →
      (hub.pubsub.subscribe (entry.address.topic handler) peer handler).subs[index]? = some sub := by
    intro index sub there
    simp only [subscribe]
    split
    · exact there
    · rw [List.getElem?_append_left ((List.getElem?_eq_some_iff.mp there).1)]
      exact there
  have origin : ∀ (place : Nat) (next : Peer), ({ hub with
      pubsub := hub.pubsub.subscribe (entry.address.topic handler) peer handler }.update peer change).peers[place]? = some next →
        hub.peers[place]? = some next ∨ place = peer ∧ next = change entry := by
    intro place next there
    obtain ⟨before, held, same⟩ := updated_peer change next there
    by_cases here : peer = place
    · subst here
      rw [if_pos rfl] at same
      have one : entry = before := some.inj (found.symm.trans held)
      exact .inr ⟨rfl, one ▸ same⟩
    · rw [if_neg here] at same
      exact .inl (same ▸ held)
  refine ⟨heard.past, ?_, ?_, ?_⟩
  · intro running place next there still other registered
    have before : hub.pubsub.closed = false := by
      cases closed : hub.pubsub.closed with
      | false => rfl
      | true =>
        have after : (hub.pubsub.subscribe (entry.address.topic handler) peer handler).closed = false := running
        rw [subscribe, if_pos closed, closed] at after
        cases after
    rcases origin place next there with held | ⟨rfl, rfl⟩
    · obtain ⟨sub, member, facts⟩ := heard.subscribed before place next held still other registered
      exact ⟨sub, subs sub member, facts⟩
    rw [channel] at still
    rw [address]
    rcases registers other registered with rfl | already
    · refine ⟨⟨entry.address.topic other, place, other, [], false⟩, ?_, rfl, rfl, rfl, rfl⟩
      simp [update, subscribe, before]
    · obtain ⟨sub, member, facts⟩ := heard.subscribed before place entry found still other already
      exact ⟨sub, subs sub member, facts⟩
  · intro place next node there known
    rcases origin place next there with held | ⟨rfl, rfl⟩
    · exact heard.foreign place next node held known
    · rw [channel] at known ⊢
      exact heard.foreign place entry node found known
  · intro place next start there still started item member topic later node named
    have waits : hub.Waiting place node → ({ hub with
        pubsub := hub.pubsub.subscribe (entry.address.topic handler) peer handler }.update peer change).Waiting place node :=
      waiting_grows hub _ place node (fun index sub held => ⟨sub, places index sub held, rfl, rfl, fun _ => id⟩)
        fun _ => id
    rcases origin place next there with held | ⟨rfl, rfl⟩
    · exact (heard.heard place next start held still started item member topic later node named).imp_left waits
    rw [channel] at still ⊢
    rw [address] at topic
    rcases starts with same | fresh
    · rw [same] at started
      exact (heard.heard place entry start found still started item member topic later node named).imp_left waits
    rw [fresh] at started
    have past := heard.past item member
    have now := some.inj started
    omega

theorem heard_subscribe_channel (heard : hub.Heard) : (hub.subscribeChannel peer).Heard := by
  simp only [subscribeChannel]
  cases found : hub.peers[peer]? with
  | none => exact heard
  | some =>
    dsimp only
    split
    · exact heard
    apply heard_subscribe hub .channelTopic found rfl rfl _ (.inl rfl) heard
    intro other registered
    cases other with
    | channelTopic => exact .inl rfl
    | heartbeatTopic => exact .inr registered

theorem heard_subscribe_heartbeat (heard : hub.Heard) :
    (hub.subscribeHeartbeat peer).Heard := by
  simp only [subscribeHeartbeat]
  cases found : hub.peers[peer]? with
  | none => exact heard
  | some =>
    dsimp only
    split
    · exact heard
    apply heard_subscribe hub .heartbeatTopic found rfl rfl _ (.inr rfl) heard
    intro other registered
    cases other with
    | channelTopic => exact .inr registered
    | heartbeatTopic => exact .inl rfl

theorem publish_running (topic : GoString) (data : Json) (running : hub.pubsub.closed = false) :
    hub.publish topic data = { hub with
      pubsub := hub.pubsub.publish topic data
      published := hub.published ++ [⟨⟨topic, data⟩, hub.now⟩] } := by
  rw [publish, if_neg (Bool.eq_false_iff.mp running)]

theorem publish_place (topic : GoString) (data : Json) (running : hub.pubsub.closed = false) (index : Nat)
    (sub : Subscription) (there : hub.pubsub.subs[index]? = some sub) :
    (hub.publish topic data).pubsub.subs[index]? =
      some (if hub.pubsub.takes topic sub then { sub with ch := sub.ch ++ [⟨topic, data⟩] } else sub) := by
  rw [publish_running hub topic data running]
  simp [LocalPubSub.publish, there]

variable {topic : GoString}

theorem heard_publish {data : Json} (roomy : hub.Roomy topic data) (heard : hub.Heard) :
    (hub.publish topic data).Heard := by
  cases running : hub.pubsub.closed with
  | true =>
    rw [publish, if_pos running]
    exact heard
  | false =>
    have next := publish_running hub topic data running
    have places := publish_place hub topic data running
    have peers : (hub.publish topic data).peers = hub.peers := by rw [next]
    have log : ∀ item ∈ (hub.publish topic data).published, item ∈ hub.published ∨ item = ⟨⟨topic, data⟩, hub.now⟩ := by
      intro item member
      rw [next] at member
      simpa using member
    have waits : ∀ place node, hub.Waiting place node → (hub.publish topic data).Waiting place node := by
      intro place node
      apply waiting_grows hub (hub.publish topic data) place node
      · intro index sub held
        refine ⟨_, places index sub held, ?_⟩
        split
        · exact ⟨rfl, rfl, fun message => mem_append_left _⟩
        · exact ⟨rfl, rfl, fun _ => id⟩
      · rw [next]
        exact fun _ => id
    refine ⟨?_, ?_, ?_, ?_⟩
    · intro item member
      rcases log item member with before | rfl
      · rw [next]
        exact heard.past item before
      · rw [next]
    · apply subscribed_carried hub (hub.publish topic data) hub.now (fun _ => running) _ _ heard.subscribed
      · rw [next]
        apply keeps_map
        intro sub
        split <;> exact ⟨rfl, rfl, rfl, rfl⟩
      · rw [peers]
        exact fun place entry there => ⟨entry, there, carried_refl⟩
    · rw [peers]
      exact heard.foreign
    · rw [peers]
      intro place peer start there still started item member matching later node named
      rcases log item member with before | rfl
      · exact (heard.heard place peer start there still started item before matching later node named).imp_left
          (waits place node)
      -- The subscription of the open channel takes what is published now.
      have begun : peer.Registered .heartbeatTopic := by
        rw [Peer.Registered, started]
        rfl
      obtain ⟨sub, present, owner, handler, pattern, live⟩ :=
        heard.subscribed running place peer there still .heartbeatTopic begun
      obtain ⟨index, held⟩ := mem_iff_getElem?.mp present
      have matched : matchTopic sub.pattern topic = true := by
        rw [pattern]
        exact match_topic_iff.mpr (.inl matching.symm)
      have room := roomy (isSome_iff_exists.mpr ⟨node, named⟩) sub present live handler matched
      have taken : hub.pubsub.takes topic sub = true := by
        simp [takes, running, live, matched, room]
      have put := places index sub held
      rw [if_pos taken] at put
      exact .inl ⟨index, _, ⟨topic, data⟩, put, owner, handler, named, .inl (by simp)⟩

theorem heard_publish_heartbeat {stamp : Stamp}
    (steady : hub.Steady (.publishHeartbeat peer stamp)) (heard : hub.Heard) :
    (hub.publishHeartbeat peer stamp).Heard := by
  simp only [publishHeartbeat]
  cases found : hub.peers[peer]? with
  | none => exact heard
  | some entry =>
    dsimp only
    split
    · exact heard
    cases entry.channel.checkState with
    | some => exact heard
    | none => exact heard_publish hub (steady entry found) heard

theorem heard_take {subscription : Nat} (heard : hub.Heard) : (hub.take subscription).Heard := by
  simp only [take]
  cases found : hub.pubsub.subs[subscription]? with
  | none => exact heard
  | some taken =>
    dsimp only
    cases buffer : taken.ch with
    | nil => exact heard
    | cons first rest =>
      have places : ∀ (index : Nat) (sub : Subscription), hub.pubsub.subs[index]? = some sub →
          (hub.pubsub.subs.modify subscription fun sub => { sub with ch := rest })[index]? =
            some (if subscription = index then { sub with ch := rest } else sub) := by
        intro index sub there
        rw [getElem?_modify, there]
        rfl
      have kept : Keeps hub.pubsub.subs (hub.pubsub.subs.modify subscription fun sub => { sub with ch := rest }) := by
        intro sub member live
        obtain ⟨index, there⟩ := mem_iff_getElem?.mp member
        refine ⟨_, mem_of_getElem? (places index sub there), ?_⟩
        split <;> exact ⟨rfl, rfl, rfl, live⟩
      let next : Hub := { hub with
        pubsub := { hub.pubsub with
          subs := hub.pubsub.subs.modify subscription fun sub => { sub with ch := rest } }
        deliveries := hub.deliveries ++ [⟨subscription, first⟩] }
      have subscribed : next.Subscribed :=
        subscribed_carried hub next hub.now id kept (fun place entry there => ⟨entry, there, carried_refl⟩)
          heard.subscribed
      apply heard_carried hub next heard (Nat.le_refl _) rfl subscribed
      intro place entry there
      refine ⟨entry, there, carried_refl, ?_⟩
      rintro _ node ⟨index, sub, message, held, owner, handler, named, pending⟩
      refine .inl ⟨index, _, message, places index sub held, ?_, ?_, named, ?_⟩
      · split <;> exact owner
      · split <;> exact handler
      · rcases pending with buffered | spawned
        · by_cases same : subscription = index
          · subst same
            rw [found] at held
            rw [← some.inj held, buffer] at buffered
            rcases mem_cons.mp buffered with rfl | behind
            · exact .inr (mem_append_right _ (mem_singleton.mpr rfl))
            · rw [if_pos rfl]
              exact .inl behind
          · rw [if_neg same]
            exact .inl buffered
        · exact .inr (mem_append_left _ spawned)

theorem handled_heartbeat {channel : Channel} {moment : Moment} {data : Json} {node : NodeId} {time : Nat}
    (running : channel.done = false) (named : heartbeatOf data = some node)
    (foreign : channel.nodeLastSeen.has node = true → node ≠ "" ∧ node ≠ channel.nodeId)
    (found : (channel.handle moment data .heartbeatTopic).1.nodeLastSeen.get? node = some time) : time = moment.now := by
  simp only [Channel.handle, on_heartbeat_eq, named, running, Bool.false_eq_true, if_false,
    recordHeartbeat] at found
  split at found
  · rename_i own
    obtain ⟨given, apart⟩ := foreign (has_iff.mpr ⟨time, found⟩)
    exact absurd own (not_or.mpr ⟨given, apart⟩)
  · simp only [get_set_same, some.injEq] at found
    exact found.symm

theorem heard_handle {delivery : Nat} {uuid : String} {sent : Bool} (heard : hub.Heard) :
    (hub.handle delivery uuid sent).Heard := by
  simp only [handle]
  cases spawned : hub.deliveries[delivery]? with
  | none => exact heard
  | some entry =>
    dsimp only
    let rest : Hub := { hub with
      deliveries := hub.deliveries.eraseIdx delivery
      handled := hub.handled ++ [entry] }
    -- Only the delivery that runs is no longer waiting.
    have waits : ∀ place node, hub.Waiting place node → rest.Waiting place node ∨
        ∃ sub, hub.pubsub.subs[entry.subscription]? = some sub ∧ sub.owner = place ∧ sub.handler = .heartbeatTopic ∧
          heartbeatOf entry.message.data = some node := by
      rintro place node ⟨index, sub, message, held, owner, handler, named, pending⟩
      rcases pending with buffered | waiting
      · exact .inl ⟨index, sub, message, held, owner, handler, named, .inl buffered⟩
      rcases mem_erase_or spawned waiting with rfl | left
      · exact .inr ⟨sub, held, owner, handler, named⟩
      · exact .inl ⟨index, sub, message, held, owner, handler, named, .inr left⟩
    cases found : hub.pubsub.subs[entry.subscription]? with
    | none =>
      apply heard_carried hub rest heard (Nat.le_refl _) rfl heard.subscribed
      intro place peer there
      refine ⟨peer, there, carried_refl, fun _ node waiting => .inl ?_⟩
      rcases waits place node waiting with still | ⟨sub, held, _⟩
      · exact still
      · rw [found] at held
        cases held
    | some sub =>
      let change : Peer → Peer := fun peer =>
        { peer with channel := (peer.channel.handle ⟨hub.now, uuid, sent⟩ entry.message.data sub.handler).1 }
      have carry : ∀ peer, Carried peer (change peer) hub.now := fun peer =>
        ⟨rfl, rfl, rfl, peer.channel.stamped_handle ⟨hub.now, uuid, sent⟩ entry.message.data sub.handler⟩
      have peers := carried_update rest sub.owner hub.now change carry
      have subscribed : (rest.update sub.owner change).Subscribed :=
        subscribed_carried hub _ hub.now id keeps_refl peers heard.subscribed
      apply heard_carried hub (rest.update sub.owner change) heard (Nat.le_refl _) rfl subscribed
      intro place next there
      obtain ⟨peer, before, carried⟩ := peers place next there
      refine ⟨peer, before, carried, fun running node waiting => ?_⟩
      rcases waits place node waiting with still | ⟨_, held, owner, handler, named⟩
      · exact .inl still
      rw [found] at held
      have one := some.inj held
      rw [← one] at owner handler
      refine .inr fun time seen => ?_
      obtain ⟨other, place', changed⟩ := updated_peer change next there
      have this : other = peer := some.inj (place'.symm.trans before)
      rw [if_pos owner, this] at changed
      rw [changed] at seen running
      simp only [change, handler] at seen
      exact handled_heartbeat ((carry peer).stamped.running running) named (heard.foreign place peer node before) seen

theorem heard_perform {op : ChannelOp} (heard : hub.Heard) : (hub.perform peer op).Heard := by
  simp only [perform]
  split
  · rename_i here
    apply heard_update hub _ heard
    intro entry
    exact ⟨rfl, rfl, rfl, quiet_stamped (entry.channel.quiet_local here)⟩
  · exact heard

theorem heard_close (heard : hub.Heard) : (hub.close peer).Heard := by
  apply heard_update hub _ heard
  intro entry
  split
  · exact carried_refl
  · exact ⟨rfl, rfl, rfl, quiet_stamped entry.channel.quiet_close⟩

theorem heard_tick (heard : hub.Heard) : (hub.tick peer).Heard := by
  apply heard_update hub _ heard
  intro entry
  split
  · exact ⟨rfl, rfl, rfl, entry.channel.stamped_tick⟩
  · exact carried_refl

theorem heard_cancel {stage : CloseStage}
    (unused : ∀ (other : Nat) (entry : Peer), hub.peers[other]? = some entry → entry.channel.done = false →
      ∀ handler, entry.Registered handler → entry.address.topic handler ≠ topic) (heard : hub.Heard) :
    ({ hub with pubsub := hub.pubsub.unsubscribe topic }.update peer fun entry =>
      { entry with stage := stage }).Heard := by
  let next : Hub := { hub with pubsub := hub.pubsub.unsubscribe topic }.update peer fun entry =>
    { entry with stage := stage }
  have places : ∀ (index : Nat) (sub : Subscription), hub.pubsub.subs[index]? = some sub →
      ∃ other, next.pubsub.subs[index]? = some other ∧ other.owner = sub.owner ∧ other.handler = sub.handler ∧
        other.pattern = sub.pattern ∧ other.ch = sub.ch ∧ (sub.pattern ≠ topic → other = sub) := by
    intro index sub there
    simp only [next, update, LocalPubSub.unsubscribe]
    split
    · exact ⟨sub, there, rfl, rfl, rfl, rfl, fun _ => rfl⟩
    refine ⟨if sub.pattern = topic then { sub with cancelled := true } else sub, ?_, ?_⟩
    · rw [getElem?_map, there]
      rfl
    by_cases hit : sub.pattern = topic
    · rw [if_pos hit]
      exact ⟨rfl, rfl, rfl, rfl, fun other => absurd hit other⟩
    · rw [if_neg hit]
      exact ⟨rfl, rfl, rfl, rfl, fun _ => rfl⟩
  have peers := carried_update { hub with pubsub := hub.pubsub.unsubscribe topic } peer hub.now
    (fun entry => { entry with stage := stage }) fun entry => ⟨rfl, rfl, rfl, stamped_refl _⟩
  have closed : next.pubsub.closed = hub.pubsub.closed := by
    simp only [next, update, LocalPubSub.unsubscribe]
    split <;> rfl
  have subscribed : next.Subscribed := by
    intro running place entry there still handler registered
    obtain ⟨before, found, carried⟩ := peers place entry there
    have begun := (registered_carried carried).mp registered
    have unhurt := unused place before found (carried.stamped.running still) handler begun
    obtain ⟨sub, member, owner, handles, pattern, live⟩ := heard.subscribed (closed ▸ running) place before found
      (carried.stamped.running still) handler begun
    obtain ⟨index, held⟩ := mem_iff_getElem?.mp member
    obtain ⟨other, later, _, _, _, _, same⟩ := places index sub held
    rw [same (pattern ▸ unhurt)] at later
    refine ⟨sub, mem_of_getElem? later, owner, handles, pattern.trans ?_, live⟩
    rw [carried.address]
  apply heard_carried hub next heard (Nat.le_refl _) rfl subscribed
  intro place entry there
  obtain ⟨before, found, carried⟩ := peers place entry there
  refine ⟨before, found, carried, fun _ node waiting => .inl ?_⟩
  apply waiting_grows hub next place node _ (fun _ => id) waiting
  intro index sub held
  obtain ⟨other, later, owner, handler, _, ch, _⟩ := places index sub held
  exact ⟨other, later, owner, handler, fun message member => ch ▸ member⟩

theorem heard_unsubscribe (steady : hub.Steady (.unsubscribe peer)) (heard : hub.Heard) :
    (hub.unsubscribe peer).Heard := by
  simp only [unsubscribe]
  cases found : hub.peers[peer]? with
  | none => exact heard
  | some entry =>
    have unused := steady entry
    simp only [Peer.unsubscribes] at unused
    dsimp only
    cases stage : entry.stage with
    | running | closed => exact heard
    | channelTopic | heartbeatTopic =>
      rw [stage] at unused
      exact heard_cancel hub (unused _ found rfl) heard

theorem heard_close_pubsub (heard : hub.Heard) : (hub.act .closePubSub).Heard := by
  apply heard_carried hub (hub.act .closePubSub) heard (Nat.le_refl _) rfl
  · intro running
    cases running
  intro place entry there
  refine ⟨entry, there, carried_refl, fun _ node waiting => .inl ?_⟩
  apply waiting_grows hub (hub.act .closePubSub) place node _ (fun _ => id) waiting
  intro index sub held
  refine ⟨{ sub with cancelled := true }, ?_, rfl, rfl, fun _ => id⟩
  simp [act, LocalPubSub.close, held]

theorem heard_act (label : HubLabel) (heard : hub.Heard) (steady : hub.Steady label) :
    (hub.act label).Heard := by
  cases label with
  | wait => exact heard_wait hub heard
  | create => exact heard_create hub heard
  | subscribeChannel => exact heard_subscribe_channel hub heard
  | subscribeHeartbeat => exact heard_subscribe_heartbeat hub heard
  | publish => exact heard_publish hub steady heard
  | publishHeartbeat => exact heard_publish_heartbeat hub steady heard
  | take => exact heard_take hub heard
  | handle => exact heard_handle hub heard
  | perform => exact heard_perform hub heard
  | close => exact heard_close hub heard
  | unsubscribe => exact heard_unsubscribe hub steady heard
  | tick => exact heard_tick hub heard
  | closePubSub => exact heard_close_pubsub hub heard

theorem heard_spares (label : HubLabel) (heard : hub.Heard) (steady : hub.Steady label) :
    hub.Spares label := by
  cases label with
  | tick place =>
    intro peer found running node beating userId tracked next there
    obtain ⟨still, apart⟩ := steady peer found running node beating
    obtain ⟨_, held, changed⟩ := updated_peer _ next there
    rw [if_pos rfl, some.inj (held.symm.trans found)] at changed
    by_cases fires : ticking peer hub.now = true
    · rw [if_pos fires] at changed
      have fresh : node ∉ peer.channel.staleNodes hub.now := by
        intro stale
        obtain ⟨⟨same, time⟩, listed, rfl⟩ := mem_map.mp stale
        obtain ⟨entry, late⟩ := mem_filter.mp listed
        obtain ⟨item, member, topic, named, _⟩ := beating
        cases started : peer.startedAt with
        | none => simp [ticking, started] at fires
        | some start =>
          simp only [ticking, started, decide_eq_true_eq] at fires late
          have known := (heard.heard place peer start found running started item member topic (by omega) same
            named).resolve_left still
          have bound := known time (mem_entries.mp entry)
          omega
      have untracked : ∀ other ∈ peer.channel.staleNodes hub.now, ¬ peer.channel.Tracks other userId := by
        intro other stale
        exact apart userId tracked other stale fun same => fresh (same ▸ stale)
      obtain ⟨tracks, remote, presence⟩ := peer.channel.cleanup_keeps hub.now untracked
      rw [changed]
      exact ⟨tracks node tracked, remote, presence⟩
    · rw [if_neg fires] at changed
      rw [changed]
      exact ⟨tracked, rfl, rfl⟩
  | _ => trivial

theorem close_leaves_others (bufferSize : Int) (labels : List HubLabel)
    (steady : Follows act Steady (new bufferSize) labels) :
    Always act Subscribed (new bufferSize) labels ∧ Follows act Spares (new bufferSize) labels := by
  have initial : (new bufferSize).Heard := by
    refine ⟨?_, ?_, ?_, ?_⟩
    · intro item member
      cases member
    · intro _ place peer there
      cases there
    · intro place peer node there
      cases there
    · intro place peer start there
      cases there
  constructor
  · exact always_mono act Heard Subscribed (fun _ => Heard.subscribed) _ labels
      (always_of_follows act Steady Heard heard_act _ initial steady)
  · exact follows_of_inv act Steady Spares Heard heard_act heard_spares _ labels initial steady

def closedNeighbour : List HubLabel :=
  opened [] "room1" "node-1" 0 ++ opened [] "room2" "node-2" 1 ++ opened [] "room1" "node-3" 2 ++
    [.publish (Address.channelTopic ⟨[], apiPath, bytes "room1"⟩)
        (encodeUserJoined beatStamp "api" "room1" "node-3" "u" (.object []) (.object [])),
      .take 0, .handle 0 "uuid-1" true, .close 1, .unsubscribe 1, .unsubscribe 1, .wait 60000,
      .publishHeartbeat 2 beatStamp, .wait 30000]

theorem close_silences_neighbour :
    ¬ (run act (new 100) closedNeighbour).Subscribed ∧ ¬ (run act (new 100) closedNeighbour).Spares (.tick 0) := by
  have room : ((run act (new 100) closedNeighbour).peers[0]?).any (fun peer =>
      !peer.channel.done && peer.startedAt.isSome && peer.channel.remoteAssigns.has "u" &&
        (peer.channel.nodeUsers.get? "node-3").any (fun users => users.has "u") &&
          (run act (new 100) closedNeighbour).published.any fun item =>
            decide (item.message.topic = peer.address.heartbeatTopic) &&
              decide (heartbeatOf item.message.data = some "node-3") &&
                decide ((run act (new 100) closedNeighbour).now < item.time + peer.channel.heartbeatTimeout)) = true := by
    decide +kernel
  have deaf : (run act (new 100) closedNeighbour).pubsub.subs.all (fun sub =>
      !(decide (sub.owner = 0) && decide (sub.handler = .heartbeatTopic) && !sub.cancelled)) = true := by
    decide +kernel
  have emptied : (((run act (new 100) closedNeighbour).tick 0).peers[0]?).all (fun next =>
      !next.channel.remoteAssigns.has "u") = true := by
    decide +kernel
  have running : (run act (new 100) closedNeighbour).pubsub.closed = false := by decide +kernel
  obtain ⟨peer, found, facts⟩ := (any_eq_true _ _).mp room
  simp only [Bool.and_eq_true, Bool.not_eq_true', decide_eq_true_eq, List.any_eq_true] at facts
  obtain ⟨⟨⟨⟨still, started⟩, remote⟩, tracks⟩, item, member, ⟨topic, named⟩, recent⟩ := facts
  constructor
  · intro subscribed
    obtain ⟨sub, present, owner, handler, _, live⟩ := subscribed running 0 peer found still .heartbeatTopic started
    have checked := all_eq_true.mp deaf sub present
    rw [owner, handler, live] at checked
    cases checked
  · intro spares
    obtain ⟨users, listed, among⟩ := (any_eq_true _ _).mp tracks
    cases after : ((run act (new 100) closedNeighbour).tick 0).peers[0]? with
    | none => simp [tick, update, found] at after
    | some next =>
      obtain ⟨_, same, _⟩ := spares peer found still "node-3" ⟨item, member, topic, named, recent⟩ "u"
        ⟨users, listed, among⟩ next after
      rw [after, all_some, has, same, ← has, remote] at emptied
      cases emptied

theorem steady_unsubscribe {place : Nat}
    (checked : (hub.peers[place]?).all (fun peer => peer.unsubscribes.all fun topic =>
      hub.peers.all fun entry => entry.channel.done ||
        (decide (entry.address.channelTopic ≠ topic) && decide (entry.address.heartbeatTopic ≠ topic))) = true) :
    hub.Steady (.unsubscribe place) := by
  intro peer topic found leaving other entry there running handler _
  rw [found, all_some, leaving, all_some] at checked
  have apart := all_eq_true.mp checked entry (mem_of_getElem? there)
  simp only [running, Bool.false_or, Bool.and_eq_true, decide_eq_true_eq] at apart
  cases handler with
  | channelTopic => exact apart.1
  | heartbeatTopic => exact apart.2

def separateNamespaces : List HubLabel :=
  opened [] "room1" "node-1" 0 ++ opened (bytes "blue") "room2" "node-2" 1 ++ [.close 1, .unsubscribe 1, .unsubscribe 1]

theorem separate_namespaces_kept :
    Always act Subscribed (new 100) separateNamespaces ∧ Follows act Spares (new 100) separateNamespaces :=
  close_leaves_others 100 separateNamespaces ⟨trivial, trivial, trivial, trivial, trivial, trivial, trivial,
      steady_unsubscribe _ (by decide +kernel), steady_unsubscribe _ (by decide +kernel), trivial⟩

end Hub

end PondSocket.Go
