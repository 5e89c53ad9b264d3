import PondSocket.Js.Addressing

namespace PondSocket.Js

open Library List OrderedMap SystemSender Tables ChannelEngine

def kickedOut (userId : UserId) (pair : Subscriber × ChannelEvent) : Bool :=
  decide (pair.1.userId = userId) && decide (pair.2.event = "kicked_out")

variable {userId : UserId}

namespace ChannelEngine

variable (engine : ChannelEngine)

def kicks (engine : ChannelEngine) (userId : UserId) : Nat := engine.handed.countP (kickedOut userId)

theorem audience_kicks (recipients : List UserId) (event : ChannelEvent) (userId : UserId) :
    (engine.audience recipients event).countP (kickedOut userId) =
      if event.event = "kicked_out" ∧ userId ∈ recipients then engine.registered userId else 0 := by
  by_cases named : event.event = "kicked_out"
  · have count := audience_count engine recipients event userId
    have same : (engine.audience recipients event).countP (kickedOut userId) =
        (engine.audience recipients event).countP (toUser userId) := by
      refine countP_congr fun pair among => ?_
      obtain ⟨subscriber, _, rfl⟩ := mem_map.mp among
      simp [kickedOut, toUser, named]
    rw [same, count]
    simp [named]
  · rw [if_neg fun both => named both.1, countP_eq_zero]
    intro pair among
    obtain ⟨_, _, rfl⟩ := mem_map.mp among
    simp [kickedOut, named]

theorem kicks_publish (event : InternalChannelEvent) (userId : UserId) :
    (engine.publish event).kicks userId = engine.kicks userId +
      if event.event = "kicked_out" ∧ userId ∈ event.recipients then engine.registered userId else 0 := by
  unfold kicks
  rw [handed_publish, countP_append, audience_kicks]

variable {next : ChannelEngine}

theorem kicks_silent {engine : ChannelEngine} (same : next.handed = engine.handed) (userId : UserId) :
    next.kicks userId = engine.kicks userId := by
  unfold kicks
  rw [same]

variable {gone : UserId}

theorem kicks_safe_remove : (engine.safeRemovePresence gone).kicks userId = engine.kicks userId := by
  unfold safeRemovePresence
  split
  · dsimp only [presenceAction]
    cases done : engine.getOrCreatePresenceEngine.removePresence engine.uuid gone with
    | error => rfl
    | ok result =>
      obtain ⟨_, event⟩ := result
      obtain ⟨_, _, named, _⟩ := PresenceEngine.process_presence_ok done
      have other : ¬ (event.event = "kicked_out" ∧ userId ∈ event.recipients) := by
        rw [named]
        exact fun both => absurd both.1 (by decide)
      rw [kicks_publish, if_neg other]
      rfl
  · rfl

theorem kicks_forget : (engine.forget gone).kicks userId = engine.kicks userId :=
  kicks_safe_remove { engine with assignsCache := engine.assignsCache.delete gone }

theorem kicks_unsubscribe : (engine.unsubscribeUser gone).kicks userId = engine.kicks userId := by
  unfold unsubscribeUser
  cases engine.userSubscriptions.get? gone <;> rfl

theorem kicks_remove_user (gone userId : UserId) (skip : Bool) :
    (engine.removeUser gone skip).kicks userId = engine.kicks userId := by
  unfold removeUser
  cases engine.getUserData gone with
  | error => rfl
  | ok userData =>
    have dropped : ((engine.forget gone).unsubscribeUser gone).kicks userId = engine.kicks userId :=
      (kicks_unsubscribe _).trans (kicks_forget engine)
    have told : ∀ next : ChannelEngine, next.kicks userId = engine.kicks userId →
        ((if next.assignsCache.isEmpty then next.close else next).emit (.leaveCallback userData)).kicks userId =
          engine.kicks userId := by
      intro next same
      rw [kicks_silent (handed_emit _ rfl)]
      split
      · rw [kicks_silent (handed_close next), same]
      · exact same
    apply told
    split
    · exact dropped
    · rw [kicks_silent (handed_broadcast _ _), dropped]

theorem kicks_send {sender : UserId} {recipient : ChannelReceivers}
    (action : ServerActions) (event : String) (payload : PondMessage) (requestId : RequestId)
    (recipients : List UserId) (accepted : engine.accepts sender recipient = true)
    (resolved : engine.getUsersFromRecipients recipient sender = .ok recipients) (userId : UserId) :
    (engine.sendMessage sender recipient action event payload requestId).engine.kicks userId = engine.kicks userId +
        if event = "kicked_out" ∧ userId ∈ recipients then engine.registered userId else 0 := by
  unfold kicks
  rw [handed_send accepted resolved, countP_append, audience_kicks]

theorem registered_of_tables {engine : ChannelEngine} (same : next.tables = engine.tables) (userId : UserId) :
    next.registered userId = engine.registered userId := by
  have publisher : next.publisher = engine.publisher := congrArg Tables.publisher same
  unfold registered
  rw [publisher]

theorem kicks_kick (userId : UserId) (reason : String) (listed : engine.assignsCache.has userId = true) :
    (engine.kickUser userId reason).engine.kicks userId = engine.kicks userId + engine.registered userId := by
  have member : userId ∈ engine.drawUuid.users := mem_keys.mpr listed
  have resolved : engine.drawUuid.getUsersFromRecipients (.users [userId]) channel = .ok [userId] := by
    have known : ¬ ([userId].any fun user => decide (user ∉ engine.drawUuid.users)) = true := by simpa using member
    simp only [getUsersFromRecipients, if_neg known]
  have first : (engine.sendFresh channel (.users [userId]) .system "kicked_out"
      (kickedOutPayload reason)).engine.kicks userId = engine.kicks userId + engine.registered userId := by
    have counted := kicks_send engine.drawUuid .system "kicked_out"
      (kickedOutPayload reason) engine.uuid [userId] ((accepts_one engine.drawUuid userId).trans listed) resolved userId
    rw [if_pos ⟨rfl, mem_singleton.mpr rfl⟩] at counted
    exact counted
  unfold kickUser
  rw [and_then_passed (send_one_passed engine listed)]
  generalize (engine.sendFresh channel (.users [userId]) .system "kicked_out"
    (kickedOutPayload reason)).engine = next at first
  rw [and_then_passed (send_all_passed next .system "kicked" (kickedPayload userId reason))]
  have second : (next.sendFresh channel .allUsers .system "kicked"
      (kickedPayload userId reason)).engine.kicks userId = next.kicks userId := by
    have counted := kicks_send next.drawUuid .system "kicked"
      (kickedPayload userId reason) next.uuid next.drawUuid.users (accepts_all next.drawUuid) rfl userId
    exact counted
  rw [kicks_remove_user, kicks_silent (handed_broadcast _ _), second, first]

theorem kicks_remote (fromUserId : UserId) (event : String) (payload : PondMessage)
    (requestId : RequestId) (descriptor : ChannelReceivers) (userId : UserId) :
    (engine.handleRemoteMessage fromUserId event payload requestId (some descriptor)).kicks userId =
      engine.kicks userId + if event = "kicked_out" ∧ userId ∈ engine.remoteRecipients fromUserId descriptor then
        engine.registered userId else 0 := by
  unfold kicks
  rw [handed_remote, countP_append, audience_kicks]

theorem kicks_evict (userId : UserId) (reason : String) :
    (engine.handleRemoteEvictUser userId reason).kicks userId =
      engine.kicks userId + if engine.userSubscriptions.has userId then engine.registered userId else 0 := by
  unfold handleRemoteEvictUser
  rw [kicks_unsubscribe, kicks_forget]
  split
  · rw [kicks_publish, if_pos ⟨rfl, mem_singleton.mpr rfl⟩]
    rfl
  · rfl

def kickBodies (userId : UserId) (reason : String) (firstId secondId : RequestId) : List MessageBody :=
  [.userMessage SystemSender.channel "kicked_out" (kickedOutPayload reason) firstId (some (.users [userId])),
   .userMessage SystemSender.channel "kicked" (kickedPayload userId reason) secondId (some .allUsers),
   .evictUser userId reason]

theorem kicks_handle (now : Nat) (source : NodeId) (reason : String) (firstId secondId : RequestId)
    (endpointId name : String) (listed : engine.assignsCache.has userId = true) :
    (((kickBodies userId reason firstId secondId).map fun body =>
        (⟨endpointId, name, some source, body⟩ : DistributedMessage)).foldl
          (fun engine message => engine.handleDistributedMessage now message) engine).kicks userId =
      engine.kicks userId + engine.registered userId +
        if engine.userSubscriptions.has userId then engine.registered userId else 0 := by
  have member : userId ∈ engine.remoteRecipients channel (.users [userId]) := by
    refine mem_filter.mpr ⟨mem_keys.mpr listed, ?_⟩
    simp
  have first := kicks_remote engine channel "kicked_out" (kickedOutPayload reason) firstId
    (.users [userId]) userId
  have fields := tables_receive engine now ⟨endpointId, name, some source, .userMessage channel "kicked_out"
    (kickedOutPayload reason) firstId (some (.users [userId]))⟩
  rw [if_pos ⟨rfl, member⟩] at first
  change (((engine.handleRemoteMessage channel "kicked_out" (kickedOutPayload reason) firstId
    (some (.users [userId]))).handleRemoteMessage channel "kicked" (kickedPayload userId reason) secondId
      (some .allUsers)).handleRemoteEvictUser userId reason).kicks userId = _
  dsimp only [handleDistributedMessage] at fields
  generalize engine.handleRemoteMessage channel "kicked_out" (kickedOutPayload reason) firstId
    (some (.users [userId])) = next at first fields ⊢
  have second := kicks_remote next channel "kicked" (kickedPayload userId reason) secondId .allUsers userId
  have fields2 := tables_receive next now ⟨endpointId, name, some source, .userMessage channel "kicked"
    (kickedPayload userId reason) secondId (some .allUsers)⟩
  rw [if_neg fun both => absurd both.1 (by decide)] at second
  dsimp only [handleDistributedMessage] at fields2
  generalize next.handleRemoteMessage channel "kicked" (kickedPayload userId reason) secondId
    (some .allUsers) = last at second fields2 ⊢
  have same : last.tables = engine.tables := fields2.trans fields
  have hosting : last.userSubscriptions = engine.userSubscriptions := congrArg Tables.userSubscriptions same
  rw [kicks_evict, second, first, registered_of_tables same, hosting, Nat.add_zero]

theorem tables_handle (now : Nat) (source : NodeId) (userId : UserId) (reason : String)
    (firstId secondId : RequestId) (endpointId name : String) :
    (((kickBodies userId reason firstId secondId).map fun body =>
        (⟨endpointId, name, some source, body⟩ : DistributedMessage)).foldl
          (fun engine message => engine.handleDistributedMessage now message) engine).tables =
      (engine.tables.forget userId).unsubscribe userId := by
  simp only [kickBodies, map_cons, map_nil, foldl_cons, foldl_nil, tables_receive]
  rfl

structure Gone (engine : ChannelEngine) (userId : UserId) : Prop where
  unlisted : userId ∉ engine.users
  absent : engine.getPresence.has userId = false
  unsubscribed : engine.userSubscriptions.has userId = false
  untracked : ∀ node users, engine.nodeUsers.get? node = some users → users.has userId = false

def Untracked (engine : ChannelEngine) (userId : UserId) : Prop :=
  ∀ node users, engine.nodeUsers.get? node = some users → users.has userId = false

theorem gone_of_dropped {engine : ChannelEngine}
    (dropped : next.tables = (engine.tables.forget userId).unsubscribe userId) :
    next.Gone userId ↔ engine.Untracked userId := by
  have frame := dropped.trans (unsubscribe_frame (engine.tables.forget userId))
  have rows : next.nodeUsers = engine.nodeUsers := congrArg Tables.nodeUsers frame
  constructor
  · intro gone
    unfold Untracked
    rw [← rows]
    exact gone.untracked
  · intro untracked
    have assigns : next.assignsCache = engine.assignsCache.delete userId := congrArg Tables.assignsCache frame
    have presence : next.getPresence = engine.getPresence.delete userId := congrArg Tables.presenceCache frame
    refine ⟨fun listed => ?_, ?_, ?_, ?_⟩
    · have present := mem_keys.mp listed
      rw [assigns] at present
      exact (has_delete.mp present).1 rfl
    · rw [presence, has_false_iff, get_delete_same]
    · rw [Bool.eq_false_iff]
      intro hosted
      have still : next.tables.hosts userId := hosted
      rw [dropped] at still
      exact ((unsubscribe_hosts _).mp still).1 rfl
    · rw [rows]
      exact untracked

theorem gone_after_kick (userId : UserId) (reason : String) (listed : engine.assignsCache.has userId = true) :
    (engine.kickUser userId reason).engine.Gone userId ↔
      engine.Untracked userId ∨ ∀ other ∈ engine.users, other = userId := by
  have after := tables_kick engine userId reason
  rw [if_pos (show engine.tables.assignsCache.has userId = true from listed)] at after
  have known : engine.tables.knows userId = true := (knows_iff _).mpr (.inl listed)
  have alone : ((engine.tables.forget userId).unsubscribe userId).assignsCache.isEmpty = true ↔
      ∀ other ∈ engine.users, other = userId := by
    rw [unsubscribe_frame, empty_iff]
    constructor
    · intro none other member
      by_contra different
      have present := mem_keys.mp member
      have gone := none other
      rw [Bool.eq_false_iff] at gone
      exact gone ((forget_lists engine.tables).mpr ⟨different, present⟩)
    · intro only other
      rw [Bool.eq_false_iff]
      intro present
      obtain ⟨different, before⟩ := (forget_lists engine.tables).mp present
      exact different (only other (mem_keys.mpr before))
  unfold remove at after
  rw [if_pos known] at after
  by_cases empties : ((engine.tables.forget userId).unsubscribe userId).assignsCache.isEmpty = true
  · rw [if_pos empties] at after
    refine ⟨fun _ => .inr (alone.mp empties), fun _ => ?_⟩
    have assigns := congrArg Tables.assignsCache after
    have presence := congrArg Tables.presenceCache after
    have subscriptions := congrArg Tables.userSubscriptions after
    have rows := congrArg Tables.nodeUsers after
    refine ⟨fun listed => ?_, ?_, ?_, fun node users found => ?_⟩
    · have present := mem_keys.mp listed
      rw [show (engine.kickUser userId reason).engine.assignsCache = .empty from assigns] at present
      cases present
    · rw [show (engine.kickUser userId reason).engine.getPresence = .empty from presence]
      rfl
    · rw [show (engine.kickUser userId reason).engine.userSubscriptions = .empty from subscriptions]
      rfl
    · rw [show (engine.kickUser userId reason).engine.nodeUsers = .empty from rows] at found
      cases found
  · rw [if_neg empties] at after
    rw [gone_of_dropped after]
    exact ⟨Or.inl, fun either => either.resolve_right fun only => empties (alone.mpr only)⟩

end ChannelEngine

namespace Nodes

section

variable (endpointId name : String) (heartbeatTimeoutMs : Nat) (engines : NodeId → ChannelEngine)
  (nodes : List NodeId) (placed : Placed endpointId name heartbeatTimeoutMs engines nodes)

include placed

theorem kick_part {origin : NodeId} (member : origin ∈ nodes) (now : Nat) (reason : String)
    (listed : userId ∈ (engines origin).users) (node : NodeId) (inside : node ∈ nodes) :
    (spread engines origin now (.kickUser userId reason) node).kicks userId = (engines node).registered userId +
          (if node ≠ origin ∧ (engines node).userSubscriptions.has userId = true then
            (engines node).registered userId else 0) ∧
      ((spread engines origin now (.kickUser userId reason) node).Gone userId ↔
        (engines node).Untracked userId ∨ (node = origin ∧ ∀ other ∈ (engines node).users, other = userId)) := by
  have here : (engines origin).assignsCache.has userId = true := mem_keys.mp listed
  by_cases same : node = origin
  · subst same
    rw [spread, if_pos rfl, if_neg fun both => both.1 rfl, Nat.add_zero]
    constructor
    · exact (kicks_kick { engines node with effects := [] } userId reason here).trans (Nat.zero_add _)
    · have gone := gone_after_kick { engines node with effects := [] } userId reason here
      refine Iff.trans gone ?_
      exact or_congr_right ⟨fun only => ⟨rfl, only⟩, And.right⟩
  · have there : (engines node).assignsCache.has userId = true :=
      mem_keys.mp (placed.agree origin member node inside userId listed)
    have online := placed_online endpointId name heartbeatTimeoutMs engines nodes placed member
    have told : (engines origin).tells (.kickUser userId reason) =
        kickBodies userId reason (engines origin).uuid (engines origin).drawUuid.uuid := by
      dsimp only [tells]
      rw [if_pos here]
      rfl
    rw [spread, if_neg same, caller_published engines online, told]
    constructor
    · have counted := kicks_handle { engines node with effects := [] } now origin reason
        (engines origin).uuid (engines origin).drawUuid.uuid (engines origin).endpointId (engines origin).name there
      have none : ({ engines node with effects := [] } : ChannelEngine).kicks userId = 0 := rfl
      rw [none, Nat.zero_add] at counted
      simp only [ne_eq, same, not_false_eq_true, true_and]
      exact counted
    · have dropped := tables_handle { engines node with effects := [] } now origin userId reason
        (engines origin).uuid (engines origin).drawUuid.uuid (engines origin).endpointId (engines origin).name
      refine (gone_of_dropped dropped).trans ?_
      exact ⟨Or.inl, fun either => either.resolve_right fun both => same both.1⟩

-- A kick is clean and told once exactly when it is made on the user's own node, no
-- old subscriber of the user is left, no other node tracks the user, and the node
-- itself does not either unless the kick empties it.
theorem kicked_once_iff (origin : NodeId) (member : origin ∈ nodes) (now : Nat) (userId : UserId) (reason : String)
    (listed : userId ∈ (engines origin).users) :
    ((∀ node ∈ nodes, (spread engines origin now (.kickUser userId reason) node).Gone userId) ∧
        (deliveries engines nodes origin now (.kickUser userId reason)).countP (kickedOut userId) = 1) ↔
      ((engines origin).userSubscriptions.has userId = true ∧ SoleSubscriber engines nodes userId ∧
        (∀ node ∈ nodes, node ≠ origin → (engines node).Untracked userId) ∧
        ((engines origin).Untracked userId ∨ ∀ other ∈ (engines origin).users, other = userId)) := by
  have parts := kick_part endpointId name heartbeatTimeoutMs engines nodes placed member now reason listed
  obtain ⟨home, there, hosting, only⟩ := placed.hosted origin member userId listed
  have once := registered_once_iff endpointId name heartbeatTimeoutMs engines nodes placed member listed
  have again : (nodes.map fun node => if node ≠ origin ∧ (engines node).userSubscriptions.has userId = true then
      (engines node).registered userId else 0).sum = 0 ↔ home = origin := by
    rw [List.sum_eq_zero_iff_forall_eq_nat, List.forall_mem_map]
    constructor
    · intro none
      by_contra away
      obtain ⟨id, entry⟩ := has_iff.mp hosting
      obtain ⟨onMessage, row⟩ :=
        reachable_wired (placed.reached home there) userId id entry
      have zero := none home there
      rw [if_pos ⟨away, hosting⟩] at zero
      have positive := count_pos (fun subscriber : Subscriber => decide (subscriber.userId = userId)) id _
        row (decide_eq_true rfl)
      exact absurd zero (Nat.pos_iff_ne_zero.mp positive)
    · rintro rfl node inside
      exact if_neg fun both => both.1 (only node inside both.2)
  have total : (deliveries engines nodes origin now (.kickUser userId reason)).countP (kickedOut userId) =
      (nodes.map fun node => (engines node).registered userId).sum +
        (nodes.map fun node => if node ≠ origin ∧ (engines node).userSubscriptions.has userId = true then
          (engines node).registered userId else 0).sum := by
    unfold deliveries
    rw [countP_flatMap, ← sum_map_add]
    exact congrArg sum (map_congr_left fun node inside => (parts node inside).1)
  have positive : 0 < (nodes.map fun node => (engines node).registered userId).sum := by
    obtain ⟨id, entry⟩ := has_iff.mp hosting
    obtain ⟨_, row⟩ :=
      reachable_wired (placed.reached home there) userId id entry
    refine Nat.pos_of_ne_zero fun zero => ?_
    have none := List.sum_eq_zero_iff_forall_eq_nat.mp zero _ (List.mem_map_of_mem there)
    exact absurd none (Nat.pos_iff_ne_zero.mp (count_pos _ id _ row (decide_eq_true rfl)))
  have counted : (deliveries engines nodes origin now (.kickUser userId reason)).countP (kickedOut userId) = 1 ↔
      SoleSubscriber engines nodes userId ∧ home = origin := by
    rw [total, ← once, ← again]
    omega
  have cleaned : (∀ node ∈ nodes, (spread engines origin now (.kickUser userId reason) node).Gone userId) ↔
      (∀ node ∈ nodes, node ≠ origin → (engines node).Untracked userId) ∧
        ((engines origin).Untracked userId ∨ ∀ other ∈ (engines origin).users, other = userId) := by
    constructor
    · intro gone
      refine ⟨fun node inside away => ?_, ?_⟩
      · exact ((parts node inside).2.mp (gone node inside)).resolve_right fun both => away both.1
      · exact ((parts origin member).2.mp (gone origin member)).imp id And.right
    · rintro ⟨others, own⟩ node inside
      by_cases same : node = origin
      · subst same
        exact (parts node inside).2.mpr (own.imp id fun only => ⟨rfl, only⟩)
      · exact (parts node inside).2.mpr (.inl (others node inside same))
  have hosted : home = origin ↔ (engines origin).userSubscriptions.has userId = true :=
    ⟨fun same => same ▸ hosting, fun mine => (only origin member mine).symm⟩
  tauto

end

def oneNode (_ : NodeId) : ChannelEngine :=
  run ChannelEngine.stepAt (.new "/socket" "/room" "A" (some ⟨"A", 90000⟩))
    [(0, .addUser "u" .empty "socket" (.supplied "join"))]

theorem kicked_once_one_node :
    (∀ node ∈ ["A"], (spread oneNode "A" 1 (.kickUser "u" "spam") node).Gone "u") ∧
      (deliveries oneNode ["A"] "A" 1 (.kickUser "u" "spam")).countP (kickedOut "u") = 1 := by
  have placed : Placed "/socket" "/room" 90000 oneNode ["A"] := by
    refine ⟨by decide, fun node member => ?_, by decide, by decide, by decide⟩
    cases mem_singleton.mp member
    exact ⟨_, rfl⟩
  refine (kicked_once_iff "/socket" "/room" 90000 oneNode ["A"] placed "A" (by decide) 1 "u" "spam" (by decide)).mpr
    ⟨by decide, ?_, ?_, .inr (by decide)⟩
  · intro node _ id subscriber found same
    have row := mem_entries.mpr found
    cases mem_singleton.mp (show (id, subscriber) ∈ [(0, ⟨"u", "socket"⟩)] from row)
    rfl
  · intro node member away
    exact absurd (mem_singleton.mp member) away

theorem kicked_twice_and_still_tracked :
    Placed "/socket" "/room" 90000 twoNodes ["A", "B"] ∧ "u" ∈ (twoNodes "B").users ∧
      (deliveries twoNodes ["A", "B"] "B" 2 (.kickUser "u" "spam")).countP (kickedOut "u") = 2 ∧
      ¬ (spread twoNodes "A" 2 (.kickUser "u" "spam") "B").Gone "u" := by
  refine ⟨two_nodes_placed, by decide, by decide, fun gone => ?_⟩
  exact absurd (gone.untracked "A" _ rfl) (by decide)

end Nodes

end PondSocket.Js
