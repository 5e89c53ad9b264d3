import PondSocket.Library.Places
import PondSocket.Rust.Codec

namespace PondSocket.Rust

open Library List Channel
open Js (Json UserId NodeId)

-- The nodes of one channel: PondSocket::new gives each an id of its own.
structure Cluster where
  name : String
  nodes : List Channel
  named : ∀ node ∈ nodes, node.name = name
  identified : ∀ node ∈ nodes, node.nodeId ≠ ""
  distinct : (nodes.map Channel.nodeId).Nodup

inductive BroadcastCall where
  | broadcast
  | broadcastFrom (senderId : UserId)

namespace BroadcastCall

def announcement (event : String) (payload : Json) : BroadcastCall → Announcement
  | .broadcast => .message event payload
  | .broadcastFrom senderId => .messageFrom event payload senderId

-- Who gets the event, and who gets it where its message is read.
def meant (call : BroadcastCall) (userId : UserId) : Bool :=
  match call with
  | .broadcast => true
  | .broadcastFrom senderId => decide (userId ≠ senderId)

def heard (call : BroadcastCall) (userId : UserId) : Bool :=
  match call with
  | .broadcast => true
  | .broadcastFrom senderId => decide (userId ≠ if senderId = "" then "CHANNEL" else senderId)

end BroadcastCall

namespace Channel

def broadcastCall (channel : Channel) (moment : Moment) (event : String) (payload : Json) :
    BroadcastCall → Channel × Option PondError
  | .broadcast => channel.broadcast moment event payload
  | .broadcastFrom senderId => channel.broadcastFrom moment event payload senderId

def dispatchedSince (after before : Channel) : List DispatchItem := after.dispatched.drop before.dispatched.length

def audience (channel : Channel) (among : UserId → Bool) : List UserId := channel.connections.keys.filter among

end Channel

-- What a node of the cluster is after the call and after it has handled the
-- message of it.
def BroadcastCall.reached (call : BroadcastCall) (caller : Channel) (moment : Moment) (stamp : Stamp) (event : String)
    (payload : Json) (calling : Bool) (node : Channel) (later : Moment) : Channel :=
  let done := (caller.broadcastCall moment event payload call).1
  (if calling then done else node).received caller done later stamp

-- Each connected user of the node who is meant has got the event once, and
-- nobody has got anything else.
def BroadcastCall.Got (call : BroadcastCall) (event : String) (payload : Json) (node after : Channel) : Prop :=
  (∀ item ∈ after.dispatchedSince node, item.event.event = event ∧ item.event.payload = payload) ∧
    ∀ userId, ((after.dispatchedSince node).flatMap DispatchItem.recipients).count userId =
      if node.hasUser userId ∧ call.meant userId then 1 else 0

def BroadcastCall.Reaches (call : BroadcastCall) (cluster : Cluster) (place : Nat) (caller : Channel) (moment : Moment)
    (stamp : Stamp) (event : String) (payload : Json) (later : Nat → Moment) : Prop :=
  ∀ (other : Nat) (node : Channel), cluster.nodes[other]? = some node →
    call.Got event payload node
      (call.reached caller moment stamp event payload (decide (other = place)) node (later other))

def BroadcastCall.SenderKept (node : Channel) : BroadcastCall → Prop
  | .broadcast => True
  | .broadcastFrom senderId => senderId ≠ "" ∨ node.hasUser "" = false ∧ node.hasUser "CHANNEL" = false

-- Another node gets the event right: the message reaches its queue and the
-- sender is read as it was, or nobody there is meant.
def BroadcastCall.HeardBy (call : BroadcastCall) (caller node : Channel) (room : Bool) : Prop :=
  if caller.distributed = true ∧ room = true then call.SenderKept node else node.audience call.meant = []

-- The caller has somebody to get the event, or nobody has.
def BroadcastCall.Carried (call : BroadcastCall) (cluster : Cluster) (place : Nat) (caller : Channel) (room : Bool)
    (later : Nat → Moment) : Prop :=
  (∀ node ∈ cluster.nodes, node.audience call.meant = []) ∨
    caller.audience call.meant ≠ [] ∧ room = true ∧
      ∀ (other : Nat) (node : Channel), cluster.nodes[other]? = some node → other ≠ place →
        call.HeardBy caller node (later other).room

variable {event : String} {payload : Json} {stamp : Stamp} {node : Channel}

namespace Channel

variable (channel : Channel)

variable {moment : Moment}

theorem audience_count (among : UserId → Bool) (userId : UserId) :
    (channel.audience among).count userId = if channel.hasUser userId ∧ among userId then 1 else 0 := by
  have distinct : (channel.audience among).Nodup := channel.connections.distinct.filter _
  have member : userId ∈ channel.audience among ↔ channel.hasUser userId ∧ among userId := by
    rw [audience, mem_filter, OrderedMap.mem_keys, hasUser]
  rw [distinct.count]
  exact if_congr member rfl rfl

def sent (channel : Channel) (event : Event) (recipients : List UserId) : Channel :=
  { channel with
    dispatched := channel.dispatched ++ [⟨event, recipients⟩]
    published := channel.published ++ if channel.distributed then [⟨event, "message"⟩] else [] }

variable {pubsubRecipients : Option (List UserId)} {descriptor : Option String} {recipients : List UserId}
  {sender : Option UserId}

theorem send_event_done (there : recipients ≠ []) (room : moment.room = true) :
    (channel.sendEvent moment event payload recipients pubsubRecipients descriptor sender).1 =
      channel.sent { channel.own "BROADCAST" moment.uuid event payload with
        recipients := pubsubRecipients.getD []
        recipientDescriptor := descriptor.getD ""
        fromUserId := sender.getD "" } recipients := by
  have some : ¬ recipients.isEmpty = true := by simpa using there
  simp only [sendEvent, if_neg some, enqueueDispatch, if_pos room, publishEventToPubsub, sent]
  split
  · rfl
  · simp

theorem send_event_idle (idle : recipients = [] ∨ moment.room = false) :
    (channel.sendEvent moment event payload recipients pubsubRecipients descriptor sender).1 = channel := by
  rcases idle with none | full
  · simp [sendEvent, none]
  · simp only [sendEvent, enqueueDispatch, full]
    split <;> rfl

theorem audience_all : channel.audience (fun _ => true) = channel.connections.keys :=
  filter_true _

theorem call_done (event : String) (payload : Json) {call : BroadcastCall}
    (there : channel.audience call.meant ≠ []) (room : moment.room = true) :
    (channel.broadcastCall moment event payload call).1 =
      channel.sent (channel.publication moment.uuid (call.announcement event payload)).event
        (channel.audience call.meant) := by
  cases call with
  | broadcast =>
    have whole : channel.audience BroadcastCall.broadcast.meant = channel.connections.keys := channel.audience_all
    rw [whole] at there ⊢
    exact send_event_done channel there room
  | broadcastFrom => exact send_event_done channel there room

theorem call_idle (event : String) (payload : Json) {call : BroadcastCall}
    (idle : channel.audience call.meant = [] ∨ moment.room = false) :
    (channel.broadcastCall moment event payload call).1 = channel := by
  cases call with
  | broadcast =>
    have whole : channel.audience BroadcastCall.broadcast.meant = channel.connections.keys := channel.audience_all
    rw [whole] at idle
    exact send_event_idle channel idle
  | broadcastFrom => exact send_event_idle channel idle

variable {receiver : Channel}

theorem received_idle {sender next : Channel} {moment : Moment} (idle : next.published = sender.published) :
    receiver.received sender next moment stamp = receiver := by
  rw [received, idle, drop_length, foldl_nil]

theorem received_one {sender next : Channel} {moment : Moment} {publication : Publication}
    (done : next.published = sender.published ++ [publication]) :
    receiver.received sender next moment stamp =
      receiver.handlePubsubMessage moment (sender.wire stamp publication) := by
  rw [received, done, drop_left, foldl_cons, foldl_nil]

theorem dispatched_since_best_effort (receiver : Channel) (room : Bool) (event : Event) (userIds : List UserId) :
    (receiver.dispatchLocalBestEffort room event userIds).dispatchedSince receiver =
      if userIds.isEmpty ∨ room = false then [] else [⟨event, userIds⟩] := by
  cases userIds with
  | nil => simp [dispatchLocalBestEffort, dispatchedSince]
  | cons => cases room <;> simp [dispatchLocalBestEffort, enqueueDispatch, dispatchedSince]

theorem heard_dispatch (sender receiver : Channel) (moment : Moment) (uuid event : String) (payload : Json)
    (call : BroadcastCall) :
    receiver.dispatchPubsubEvent moment (sender.decoded uuid moment.uuid (call.announcement event payload)) =
      receiver.dispatchLocalBestEffort moment.room (sender.decoded uuid moment.uuid (call.announcement event payload))
        (receiver.audience call.heard) := by
  cases call with
  | broadcast =>
    have whole : receiver.audience BroadcastCall.broadcast.heard = receiver.connections.keys := receiver.audience_all
    rw [whole]
    rfl
  | broadcastFrom => rfl

theorem same_audience (first second : UserId → Bool)
    (same : ∀ userId, (channel.audience first).count userId = (channel.audience second).count userId) :
    channel.audience first = channel.audience second := by
  apply filter_congr
  intro userId member
  have counts := same userId
  have there : channel.hasUser userId = true := OrderedMap.mem_keys.mp member
  rw [audience_count, audience_count] at counts
  cases left : first userId <;> cases right : second userId <;> simp_all

theorem sender_kept_iff (call : BroadcastCall) :
    channel.audience call.heard = channel.audience call.meant ↔ call.SenderKept channel := by
  cases call with
  | broadcast => exact iff_of_true rfl trivial
  | broadcastFrom senderId =>
    have apart := filter_apart channel.connections.keys (if senderId = "" then "CHANNEL" else senderId) senderId
    simp only [BroadcastCall.SenderKept]
    refine apart.trans ?_
    rw [absent_iff, absent_iff]
    by_cases nobody : senderId = ""
    · subst nobody
      have different : "CHANNEL" ≠ "" := by decide
      simp [and_comm]
    · simp [nobody]

theorem got_iff (node after : Channel) {call : BroadcastCall} (event : String) (payload : Json)
    (among : UserId → Bool)
    (carried : ∀ item ∈ after.dispatchedSince node, item.event.event = event ∧ item.event.payload = payload)
    (listed : (after.dispatchedSince node).flatMap DispatchItem.recipients = node.audience among) :
    call.Got event payload node after ↔ node.audience among = node.audience call.meant := by
  rw [BroadcastCall.Got, listed]
  constructor
  · intro got
    apply same_audience
    intro userId
    rw [got.2 userId, audience_count]
  · intro same
    exact ⟨carried, fun userId => by rw [same, audience_count]⟩

theorem got_nothing {after : Channel} {call : BroadcastCall} (idle : after.dispatchedSince node = []) :
    call.Got event payload node after ↔ node.audience call.meant = [] := by
  have nobody : node.audience (fun _ => false) = [] := filter_false _
  rw [got_iff node after event payload (fun _ => false) (by simp [idle]) (by rw [idle, nobody]; rfl), nobody, eq_comm]

theorem got_best_effort (node : Channel) (room : Bool) (heard : Event) (call : BroadcastCall) :
    call.Got heard.event heard.payload node (node.dispatchLocalBestEffort room heard (node.audience call.heard)) ↔
      if room = true then call.SenderKept node else node.audience call.meant = [] := by
  have since := node.dispatched_since_best_effort room heard (node.audience call.heard)
  cases room with
  | false => exact got_nothing (by simpa using since)
  | true =>
    rw [if_pos rfl, ← sender_kept_iff]
    apply got_iff
    · rw [since]
      split <;> simp
    · rw [since]
      cases node.audience call.heard <;> simp

end Channel

namespace BroadcastCall

variable (call : BroadcastCall)

theorem announced_event (channel : Channel) (uuid event : String) (payload : Json) :
    (channel.publication uuid (call.announcement event payload)).event.event = event ∧
      (channel.publication uuid (call.announcement event payload)).event.payload = payload ∧
        (channel.publication uuid (call.announcement event payload)).subtype = "message" := by
  cases call <;> exact ⟨rfl, rfl, rfl⟩

theorem decoded_event (channel : Channel) (uuid fresh event : String) (payload : Json) :
    (channel.decoded uuid fresh (call.announcement event payload)).event = event ∧
      (channel.decoded uuid fresh (call.announcement event payload)).payload = payload := by
  cases call <;> exact ⟨rfl, rfl⟩

variable {caller : Channel}

theorem published_one {moment : Moment} (event : String) (payload : Json) (there : caller.audience call.meant ≠ [])
    (room : moment.room = true) :
    (caller.broadcastCall moment event payload call).1.published = caller.published ++
      if caller.distributed then [caller.publication moment.uuid (call.announcement event payload)] else [] := by
  rw [call_done caller event payload there room, Channel.sent]
  have message := (call.announced_event caller moment.uuid event payload).2.2
  rw [← message]

variable {later : Moment}

theorem got_own {moment : Moment} (identified : caller.nodeId ≠ "") (there : caller.audience call.meant ≠ [])
    (room : moment.room = true) :
    call.Got event payload caller (call.reached caller moment stamp event payload true caller later) := by
  have published := call.published_one event payload there room
  have done := call_done caller event payload there room
  have node : caller.nodeId = (caller.broadcastCall moment event payload call).1.nodeId := by
    rw [done]
    rfl
  have kept : call.reached caller moment stamp event payload true caller later =
      (caller.broadcastCall moment event payload call).1 := by
    simp only [reached, if_true]
    cases distributed : caller.distributed with
    | false =>
      rw [distributed, if_neg (by decide), append_nil] at published
      exact Channel.received_idle published
    | true =>
      rw [distributed, if_pos rfl] at published
      rw [Channel.received_one published]
      exact handle_own identified node
  have since : (caller.broadcastCall moment event payload call).1.dispatchedSince caller =
      [⟨(caller.publication moment.uuid (call.announcement event payload)).event, caller.audience call.meant⟩] := by
    rw [done]
    exact drop_left
  have named := call.announced_event caller moment.uuid event payload
  rw [kept]
  refine (got_iff _ _ _ _ call.meant ?_ ?_).mpr rfl
  · rw [since]
    simp [named]
  · rw [since]
    simp

theorem got_other {moment : Moment} (named : caller.name = node.name) (apart : caller.nodeId ≠ node.nodeId)
    (there : caller.audience call.meant ≠ []) (room : moment.room = true) :
    call.Got event payload node (call.reached caller moment stamp event payload false node later) ↔
      call.HeardBy caller node later.room := by
  have published := call.published_one event payload there room
  have plain : call.reached caller moment stamp event payload false node later =
      node.received caller (caller.broadcastCall moment event payload call).1 later stamp := rfl
  rw [plain]
  simp only [HeardBy]
  cases distributed : caller.distributed with
  | false =>
    rw [distributed, if_neg (by decide), append_nil] at published
    rw [Channel.received_idle published, if_neg (by simp)]
    exact got_nothing (by simp [Channel.dispatchedSince])
  | true =>
    rw [distributed, if_pos rfl] at published
    have decoded := call.decoded_event caller moment.uuid later.uuid event payload
    have got := node.got_best_effort later.room
      (caller.decoded moment.uuid later.uuid (call.announcement event payload)) call
    rw [decoded.1, decoded.2] at got
    rw [Channel.received_one published, handle_announced named (fun same => apart same.2), heard_dispatch]
    simpa using got

theorem got_idle {moment : Moment} {calling : Bool} (own : calling = true → caller = node)
    (idle : caller.audience call.meant = [] ∨ moment.room = false) :
    call.Got event payload node (call.reached caller moment stamp event payload calling node later) ↔
      node.audience call.meant = [] := by
  have done := call_idle caller event payload idle
  have kept : call.reached caller moment stamp event payload calling node later = node := by
    simp only [reached, done]
    rw [Channel.received_idle rfl]
    cases calling with
    | true => exact own rfl
    | false => rfl
  rw [kept]
  exact got_nothing (by simp [Channel.dispatchedSince])

end BroadcastCall

theorem Cluster.apart (cluster : Cluster) (first second : Nat) (left right : Channel)
    (here : cluster.nodes[first]? = some left) (there : cluster.nodes[second]? = some right) (different : first ≠ second) :
    left.nodeId ≠ right.nodeId :=
  different_of_distinct cluster.distinct first second left right here there different

-- A broadcast reaches its users exactly where somebody on the caller's own node
-- is meant, or nobody anywhere, and each other node hears it as it was.
theorem broadcast_reaches_iff (cluster : Cluster) (place : Nat) (caller : Channel) (moment : Moment) (stamp : Stamp)
    (event : String) (payload : Json) (later : Nat → Moment) (call : BroadcastCall)
    (calling : cluster.nodes[place]? = some caller) :
    call.Reaches cluster place caller moment stamp event payload later ↔
      call.Carried cluster place caller moment.room later := by
  have member : caller ∈ cluster.nodes := mem_of_getElem? calling
  by_cases idle : caller.audience call.meant = [] ∨ moment.room = false
  · have own : ∀ (other : Nat) (node : Channel), cluster.nodes[other]? = some node →
        decide (other = place) = true → caller = node := by
      intro other node there same
      cases of_decide_eq_true same
      exact Option.some.inj (calling.symm.trans there)
    constructor
    · intro reaches
      refine .inl fun node listed => ?_
      obtain ⟨other, there⟩ := getElem?_of_mem listed
      exact (call.got_idle (own other node there) idle).mp (reaches other node there)
    · intro carried other node there
      apply (call.got_idle (own other node there) idle).mpr
      rcases carried with nobody | ⟨some, room, _⟩
      · exact nobody node (mem_of_getElem? there)
      rcases idle with none | full
      · exact absurd none some
      · rw [room] at full
        cases full
  · obtain ⟨some, notFull⟩ := not_or.mp idle
    have room : moment.room = true := Bool.not_eq_false _ ▸ notFull
    constructor
    · intro reaches
      refine .inr ⟨some, room, fun other node there different => ?_⟩
      have got := reaches other node there
      rw [decide_eq_false different] at got
      have named := (cluster.named caller member).trans (cluster.named node (mem_of_getElem? there)).symm
      exact (call.got_other named
        (cluster.apart place other caller node calling there (Ne.symm different)) some room).mp got
    · intro carried other node there
      by_cases same : other = place
      · subst same
        cases Option.some.inj (calling.symm.trans there)
        rw [decide_eq_true rfl]
        exact call.got_own (cluster.identified caller member) some room
      rcases carried with nobody | ⟨_, _, heard⟩
      · exact absurd (nobody caller member) some
      rw [decide_eq_false same]
      have named := (cluster.named caller member).trans (cluster.named node (mem_of_getElem? there)).symm
      exact (call.got_other named
        (cluster.apart place other caller node calling there (Ne.symm same)) some room).mpr (heard other node there same)

def joined (node : NodeId) (userIds : List UserId) : Channel :=
  { Channel.new "/room" "/ws" node true with
    active := true
    connections := .ofList (userIds.map fun userId => (userId, ⟨userId, 0⟩)) }

def twoNodes (first second : List UserId) : Cluster where
  name := "/room"
  nodes := [joined "a" first, joined "b" second]
  named := by simp [joined, Channel.new]
  identified := by simp [joined, Channel.new]
  distinct := by simp [joined, Channel.new]

theorem broadcast_reaches_both :
    BroadcastCall.Reaches (.broadcastFrom "alice") (twoNodes ["alice", "bob"] ["carol"]) 0 (joined "a" ["alice", "bob"])
      codecMoment ⟨"m", 0⟩ "hi" .null (fun _ => codecMoment) := by
  refine (broadcast_reaches_iff (twoNodes ["alice", "bob"] ["carol"]) 0 (joined "a" ["alice", "bob"]) codecMoment
    ⟨"m", 0⟩ "hi" .null (fun _ => codecMoment) (.broadcastFrom "alice") rfl).mpr (.inr ⟨by decide, rfl, ?_⟩)
  intro other node _ _
  exact .inl (by decide)

theorem lone_sender_unheard :
    (joined "a" ["alice"]).hasUser "alice" = true ∧
      ¬ BroadcastCall.Reaches (.broadcastFrom "alice") (twoNodes ["alice"] ["carol"]) 0 (joined "a" ["alice"])
        codecMoment ⟨"m", 0⟩ "hi" .null (fun _ => codecMoment) := by
  refine ⟨by decide, fun reaches => ?_⟩
  have carried := (broadcast_reaches_iff (twoNodes ["alice"] ["carol"]) 0 (joined "a" ["alice"]) codecMoment ⟨"m", 0⟩ "hi"
    .null (fun _ => codecMoment) (.broadcastFrom "alice") rfl).mp reaches
  rcases carried with nobody | ⟨some, _⟩
  · exact absurd (nobody (joined "b" ["carol"]) (by simp [twoNodes])) (by decide)
  · exact some (by decide)

end PondSocket.Rust
