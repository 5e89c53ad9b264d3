import Mathlib
import PondSocket.Js.ChannelHanded
import PondSocket.Js.Cluster
import PondSocket.Js.Wiring

namespace PondSocket.Js

open Library List OrderedMap ChannelEngine

theorem sum_one_iff {N : Type} {nodes : List N} (distinct : nodes.Nodup) {count : N → Nat} {node : N}
    (member : node ∈ nodes) (counted : 0 < count node) :
    (nodes.map count).sum = 1 ↔ count node = 1 ∧ ∀ other ∈ nodes, other ≠ node → count other = 0 := by
  induction nodes with
  | nil => cases member
  | cons first rest ih =>
    obtain ⟨absent, later⟩ := nodup_cons.mp distinct
    rw [map_cons, sum_cons]
    rcases mem_cons.mp member with rfl | inside
    · have alone : (rest.map count).sum = 0 ↔ ∀ other ∈ rest, count other = 0 := by
        rw [List.sum_eq_zero_iff_forall_eq_nat, List.forall_mem_map]
      constructor
      · intro total
        refine ⟨by omega, fun other among different => ?_⟩
        exact alone.mp (by omega) other ((mem_cons.mp among).resolve_left different)
      · rintro ⟨one, none⟩
        have zero := alone.mpr fun other among =>
          none other (mem_cons_of_mem _ among) fun same => absent (same ▸ among)
        omega
    · have different : first ≠ node := fun same => absent (same ▸ inside)
      constructor
      · intro total
        have positive : 0 < (rest.map count).sum := by
          refine Nat.pos_of_ne_zero fun zero => ?_
          have none := List.sum_eq_zero_iff_forall_eq_nat.mp zero (count node) (List.mem_map_of_mem inside)
          omega
        obtain ⟨one, none⟩ := (ih later inside).mp (by omega)
        refine ⟨one, fun other among apart => ?_⟩
        rcases mem_cons.mp among with rfl | tail
        · omega
        · exact none other tail apart
      · rintro ⟨one, none⟩
        have zero := none first mem_cons_self different
        have tail := (ih later inside).mpr ⟨one, fun other among => none other (mem_cons_of_mem _ among)⟩
        omega

def toUser (userId : UserId) (pair : Subscriber × ChannelEvent) : Bool := decide (pair.1.userId = userId)

variable {recipient : ChannelReceivers} {sender : UserId} {recipients : List UserId}

namespace ChannelEngine

variable (engine : ChannelEngine)

def registered (engine : ChannelEngine) (userId : UserId) : Nat :=
  engine.publisher.observers.values.countP fun subscriber => decide (subscriber.userId = userId)

theorem audience_count (recipients : List UserId) (event : ChannelEvent) (userId : UserId) :
    (engine.audience recipients event).countP (toUser userId) =
      if userId ∈ recipients then engine.registered userId else 0 := by
  unfold audience registered
  rw [countP_map, countP_filter]
  by_cases among : userId ∈ recipients
  · rw [if_pos among]
    refine countP_congr fun subscriber _ => ?_
    simp only [toUser, Function.comp_apply, Bool.and_eq_true, decide_eq_true_eq, contains_iff_mem]
    exact ⟨And.left, fun same => ⟨same, same ▸ among⟩⟩
  rw [if_neg among, countP_eq_zero]
  intro subscriber _ both
  simp only [toUser, Function.comp_apply, Bool.and_eq_true, decide_eq_true_eq, contains_iff_mem] at both
  exact among (both.1 ▸ both.2)

variable {engine}

theorem send_accepted_iff (sender : UserId) (recipient : ChannelReceivers)
    (action : ServerActions) (event : String) (payload : PondMessage) (requestId : RequestId) :
    (engine.sendMessage sender recipient action event payload requestId).thrown = none ↔
      engine.accepts sender recipient = true := by
  unfold sendMessage accepts
  by_cases stranger : engine.assignsCache.has sender = false ∧ sender ≠ SystemSender.channel
  · simp [stranger.1, stranger.2]
  have known : (engine.assignsCache.has sender || sender == SystemSender.channel) = true := by
    cases listed : engine.assignsCache.has sender with
    | true => rfl
    | false => simpa [listed] using stranger
  rw [if_neg stranger, known]
  cases engine.getUsersFromRecipients recipient sender <;> simp [Except.toBool]

theorem accepts_ok (accepted : engine.accepts sender recipient = true) :
    ¬ (engine.assignsCache.has sender = false ∧ sender ≠ SystemSender.channel) ∧
      ∃ recipients, engine.getUsersFromRecipients recipient sender = .ok recipients := by
  obtain ⟨known, resolved⟩ := (Bool.and_eq_true _ _).mp accepted
  refine ⟨fun stranger => ?_, ?_⟩
  · simp [stranger.1, stranger.2] at known
  cases result : engine.getUsersFromRecipients recipient sender with
  | error =>
    rw [result] at resolved
    cases resolved
  | ok recipients => exact ⟨recipients, rfl⟩

variable {payload : PondMessage} {requestId : RequestId}

theorem handed_send {action : ServerActions} {event : String} (accepted : engine.accepts sender recipient = true)
    (resolved : engine.getUsersFromRecipients recipient sender = .ok recipients) :
    (engine.sendMessage sender recipient action event payload requestId).engine.handed =
      engine.handed ++ engine.audience recipients ⟨action, event, engine.name, requestId, .message payload⟩ := by
  unfold sendMessage
  rw [if_neg (accepts_ok accepted).1, resolved]
  rw [handed_broadcast, handed_publish]

theorem handed_remote {fromUserId : UserId} {event : String} {descriptor : ChannelReceivers} :
    (engine.handleRemoteMessage fromUserId event payload requestId (some descriptor)).handed =
      engine.handed ++ engine.audience (engine.remoteRecipients fromUserId descriptor)
        ⟨.broadcast, event, engine.name, requestId, .message payload⟩ := by
  unfold handleRemoteMessage
  dsimp only
  split
  · rename_i nobody
    rw [isEmpty_iff.mp nobody]
    simp [audience]
  · exact handed_publish engine

end ChannelEngine

-- Whom a message is for, in the words of its descriptor.
def Addressed (users : List UserId) (sender : UserId) (recipient : ChannelReceivers) (userId : UserId) : Prop :=
  match recipient with
  | .allUsers => userId ∈ users
  | .allExceptSender => userId ∈ users ∧ userId ≠ sender
  | .users ids => userId ∈ ids

theorem local_recipients {engine : ChannelEngine}
    (resolved : engine.getUsersFromRecipients recipient sender = .ok recipients) (userId : UserId) :
    userId ∈ recipients ↔ Addressed engine.users sender recipient userId := by
  cases recipient with
  | allUsers =>
    cases resolved
    rfl
  | allExceptSender =>
    dsimp only [getUsersFromRecipients] at resolved
    split at resolved
    · cases resolved
    · cases resolved
      simp [Addressed]
  | users =>
    dsimp only [getUsersFromRecipients] at resolved
    split at resolved
    · cases resolved
    · cases resolved
      rfl

theorem listed_recipients {engine : ChannelEngine}
    (resolved : engine.getUsersFromRecipients recipient sender = .ok recipients) (userId : UserId)
    (among : userId ∈ recipients) : userId ∈ engine.users := by
  cases recipient with
  | allUsers =>
    cases resolved
    exact among
  | allExceptSender =>
    dsimp only [getUsersFromRecipients] at resolved
    split at resolved
    · cases resolved
    · cases resolved
      exact mem_of_mem_filter among
  | users =>
    dsimp only [getUsersFromRecipients] at resolved
    split at resolved
    · cases resolved
    rename_i known
    cases resolved
    by_contra missing
    exact known (any_eq_true.mpr ⟨userId, among, decide_eq_true missing⟩)

theorem remote_recipients {engine other : ChannelEngine}
    (resolved : engine.getUsersFromRecipients recipient sender = .ok recipients)
    (agree : ∀ userId, userId ∈ engine.users ↔ userId ∈ other.users) (userId : UserId) :
    userId ∈ other.remoteRecipients sender recipient ↔ Addressed engine.users sender recipient userId := by
  have listed := listed_recipients resolved userId
  rw [local_recipients resolved userId] at listed
  cases recipient with
  | allUsers => exact (agree userId).symm
  | allExceptSender => simp [remoteRecipients, Addressed, agree]
  | users =>
    simp only [remoteRecipients, mem_filter, contains_iff_mem, Addressed]
    exact ⟨And.right, fun among => ⟨(agree userId).mp (listed among), among⟩⟩

namespace Nodes

def caller (engines : NodeId → ChannelEngine) (origin : NodeId) (now : Nat) (op : EngineOp) : ChannelEngine :=
  { engines origin with effects := [] }.act now op

def spread (engines : NodeId → ChannelEngine) (origin : NodeId) (now : Nat) (op : EngineOp) (node : NodeId) :
    ChannelEngine :=
  if node = origin then caller engines origin now op
  else (Cluster.published origin (caller engines origin now op)).foldl
    (fun engine message => engine.handleDistributedMessage now message) { engines node with effects := [] }

def deliveries (engines : NodeId → ChannelEngine) (nodes : List NodeId) (origin : NodeId) (now : Nat)
    (op : EngineOp) : List (Subscriber × ChannelEvent) :=
  nodes.flatMap fun node => (spread engines origin now op node).handed

-- A cluster of open engines that agree on the joined users, each on one node.
structure Placed (endpointId name : String) (heartbeatTimeoutMs : Nat) (engines : NodeId → ChannelEngine)
    (nodes : List NodeId) : Prop where
  distinct : nodes.Nodup
  reached : ∀ node ∈ nodes, (engines node).Reachable endpointId name ⟨node, heartbeatTimeoutMs⟩
  running : ∀ node ∈ nodes, (engines node).closed = false
  agree : ∀ node ∈ nodes, ∀ other ∈ nodes, ∀ userId, userId ∈ (engines node).users → userId ∈ (engines other).users
  hosted : ∀ node ∈ nodes, ∀ userId ∈ (engines node).users,
    ∃ home ∈ nodes, (engines home).userSubscriptions.has userId = true ∧
      ∀ other ∈ nodes, (engines other).userSubscriptions.has userId = true → other = home

-- Every registered subscriber of the user is the one that its engine can unsubscribe.
def SoleSubscriber (engines : NodeId → ChannelEngine) (nodes : List NodeId) (userId : UserId) : Prop :=
  ∀ node ∈ nodes, ∀ id subscriber, (engines node).publisher.observers.get? id = some subscriber →
    subscriber.userId = userId → (engines node).userSubscriptions.get? userId = some id

section

variable (endpointId name : String) (heartbeatTimeoutMs : Nat) (engines : NodeId → ChannelEngine)
  (nodes : List NodeId) (placed : Placed endpointId name heartbeatTimeoutMs engines nodes)

include placed

theorem placed_online {node : NodeId} (member : node ∈ nodes) : (engines node).online = true := by
  unfold online
  rw [reachable_backend (placed.reached node member), placed.running node member]
  rfl

theorem registered_once_iff {node : NodeId} (member : node ∈ nodes) {userId : UserId}
    (listed : userId ∈ (engines node).users) :
    (nodes.map fun other => (engines other).registered userId).sum = 1 ↔ SoleSubscriber engines nodes userId := by
  obtain ⟨home, there, hosting, only⟩ := placed.hosted node member userId listed
  obtain ⟨id, entry⟩ := has_iff.mp hosting
  obtain ⟨onMessage, row⟩ :=
    reachable_wired (placed.reached home there) userId id entry
  have matched : decide (({ userId, onMessage } : Subscriber).userId = userId) = true := decide_eq_true rfl
  rw [sum_one_iff placed.distinct there (count_pos _ id _ row matched)]
  have one := count_one_iff (fun subscriber : Subscriber => decide (subscriber.userId = userId)) id _ row matched
  constructor
  · rintro ⟨single, none⟩ other inside place subscriber found same
    by_cases away : other = home
    · subst away
      rw [one.mp single place subscriber found (decide_eq_true same)]
      exact entry
    · have absent := (count_zero_iff _).mp (none other inside away) place subscriber found
      exact absurd same (of_decide_eq_false absent)
  · intro sole
    refine ⟨one.mpr fun place subscriber found same => ?_, fun other inside away => ?_⟩
    · have here := sole home there place subscriber found (of_decide_eq_true same)
      rw [show (engines home).userSubscriptions.get? userId = some id from entry] at here
      exact (Option.some.inj here).symm
    refine (count_zero_iff _).mpr fun place subscriber found => ?_
    refine decide_eq_false fun same => away (only other inside ?_)
    exact has_iff.mpr ⟨place, sole other inside place subscriber found same⟩

variable {origin : NodeId}

omit placed in
theorem caller_published {now : Nat} {op : EngineOp} (running : (engines origin).online = true) :
    Cluster.published origin (caller engines origin now op) = ((engines origin).tells op).map fun body =>
        ⟨(engines origin).endpointId, (engines origin).name, some origin, body⟩ := by
  unfold caller
  rw [Cluster.published_perform, running, if_pos rfl]

theorem spread_send (member : origin ∈ nodes) (now : Nat) (action : ServerActions) (event : String)
    (payload : PondMessage) (requestId : RequestId) (accepted : (engines origin).accepts sender recipient = true)
    (node : NodeId) (inside : node ∈ nodes) :
    ∃ recipients delivered,
      (spread engines origin now (.sendMessage sender recipient action event payload requestId) node).handed =
        (engines node).audience recipients delivered ∧
      delivered.event = event ∧ delivered.payload = .message payload ∧ delivered.requestId = requestId ∧
      ∀ userId, userId ∈ recipients ↔ Addressed (engines origin).users sender recipient userId := by
  obtain ⟨_, recipients, resolved⟩ := accepts_ok accepted
  by_cases here : node = origin
  · subst here
    refine ⟨recipients, ⟨action, event, (engines node).name, requestId, .message payload⟩, ?_, rfl, rfl, rfl,
      local_recipients resolved⟩
    rw [spread, if_pos rfl]
    exact handed_send accepted resolved
  have agree : ∀ userId, userId ∈ (engines origin).users ↔ userId ∈ (engines node).users := fun userId =>
    ⟨placed.agree origin member node inside userId, placed.agree node inside origin member userId⟩
  refine ⟨(engines node).remoteRecipients sender recipient,
    ⟨.broadcast, event, (engines node).name, requestId, .message payload⟩, ?_, rfl, rfl, rfl,
    remote_recipients resolved agree⟩
  have online := placed_online endpointId name heartbeatTimeoutMs engines nodes placed member
  rw [spread, if_neg here, caller_published engines online]
  dsimp only [tells]
  rw [if_pos accepted]
  exact handed_remote

end

def twoNodes (node : NodeId) : ChannelEngine :=
  if node = "A" then run ChannelEngine.stepAt (.new "/socket" "/room" "A" (some ⟨"A", 90000⟩))
    [(0, .addUser "u" .empty "socket" (.supplied "join")),
     (1, .receive ⟨"/socket", "/room", some "B", .userJoined "v" (some .empty) .empty⟩)]
  else run ChannelEngine.stepAt (.new "/socket" "/room" "B" (some ⟨"B", 90000⟩))
    [(0, .addUser "v" .empty "socket" (.supplied "join")),
     (1, .receive ⟨"/socket", "/room", some "A", .userJoined "u" (some .empty) .empty⟩)]

theorem two_nodes_placed : Placed "/socket" "/room" 90000 twoNodes ["A", "B"] := by
  refine ⟨by decide, ?_, by decide, by decide, by decide⟩
  intro node member
  simp only [mem_cons, not_mem_nil, or_false] at member
  rcases member with rfl | rfl
  · exact ⟨_, rfl⟩
  · exact ⟨_, rfl⟩

def leftBehind (node : NodeId) : ChannelEngine :=
  if node = "A" then run ChannelEngine.stepAt (.new "/socket" "/room" "A" (some ⟨"A", 90000⟩))
    [(0, .addUser "u" .empty "socket" (.supplied "join")),
     (1, .receive ⟨"/socket", "/room", some "B", .userJoined "v" (some .empty) .empty⟩),
     (3, .receive ⟨"/socket", "/room", some "B", .userLeft "u"⟩),
     (4, .addUser "u" .empty "socket" (.supplied "again"))]
  else run ChannelEngine.stepAt (.new "/socket" "/room" "B" (some ⟨"B", 90000⟩))
    [(0, .addUser "v" .empty "socket" (.supplied "join")),
     (1, .receive ⟨"/socket", "/room", some "A", .userJoined "u" (some .empty) .empty⟩),
     (2, .removeUser "u" false),
     (5, .receive ⟨"/socket", "/room", some "A", .userJoined "u" (some .empty) .empty⟩)]

end Nodes

end PondSocket.Js
