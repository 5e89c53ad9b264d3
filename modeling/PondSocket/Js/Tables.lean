import PondSocket.Js.ChannelEngine

namespace PondSocket.Js

open Library List OrderedMap

-- What one engine holds besides its ids, its pending user gets and its log: who
-- is a member, who is hosted here, to which node a replicated user is attributed
-- and how far the subscription has come.
structure Tables where
  backend : Option DistributedBackend
  assignsCache : OrderedMap UserId PondAssigns
  presenceCache : OrderedMap UserId PondPresence
  userSubscriptions : OrderedMap UserId Nat
  publisher : Subject Subscriber
  nodeUsers : OrderedMap NodeId (OrderedSet UserId)
  nodeLastSeen : OrderedMap NodeId Nat
  heartbeatSubscription : Bool
  staleNodeTimer : Bool
  distributedSubscription : Bool
  distributedReady : Option Bool
  readyCallbacks : Nat
  closed : Bool

-- One step of an engine: a call, a callback that runs, a message or the timer.
inductive EngineOp where
  | addUser (userId : UserId) (assigns : PondAssigns) (onMessage : ConnectionId) (requestId : RequestId)
  | sendMessage (sender : UserId) (recipient : ChannelReceivers) (action : ServerActions) (event : String)
      (payload : PondMessage) (requestId : RequestId)
  | broadcastMessage (userId : UserId) (event : String) (requestId : RequestId) (payload : PondMessage)
  | handlerNotFound (userId : UserId) (requestId : RequestId) (failure : Option (Nat × String))
  | trackPresence (userId : UserId) (presence : PondPresence)
  | updatePresence (userId : UserId) (presence : PondPresence)
  | upsertPresence (userId : UserId) (presence : PondPresence)
  | removePresence (userId : UserId)
  | updateAssigns (userId : UserId) (assigns : PondMessage)
  | kickUser (userId : UserId) (reason : String)
  | requestUserRemoval (userId : UserId)
  | getUserAcrossNodes (userId : UserId)
  | userGetTimeout (requestId : RequestId)
  | destroy (reason : Option String)
  | close
  | removeUser (userId : UserId) (skipDistributedBroadcast : Bool)
  | distributedSubscribed
  | distributedRejected
  | runReadyCallback
  | receive (message : DistributedMessage)
  | heartbeat (nodeId : NodeId)
  | staleNodeTick

def EngineOp.arrives : EngineOp → Bool
  | .receive _ => true
  | _ => false

namespace Tables

variable (tables : Tables) (nodes : List NodeId)

def list (tables : Tables) (userId : UserId) (assigns : PondAssigns) : Tables :=
  { tables with assignsCache := tables.assignsCache.set userId assigns }

def present (tables : Tables) (userId : UserId) (presence : PondPresence) : Tables :=
  { tables with presenceCache := tables.presenceCache.set userId presence }

def unpresent (tables : Tables) (userId : UserId) : Tables :=
  { tables with presenceCache := tables.presenceCache.delete userId }

def forget (tables : Tables) (userId : UserId) : Tables :=
  { tables with
    assignsCache := tables.assignsCache.delete userId
    presenceCache := tables.presenceCache.delete userId }

def host (tables : Tables) (subscriber : Subscriber) : Tables :=
  { tables with
    publisher := tables.publisher.attach subscriber
    userSubscriptions := tables.userSubscriptions.set subscriber.userId tables.publisher.nextId }

def unsubscribe (tables : Tables) (userId : UserId) : Tables :=
  match tables.userSubscriptions.get? userId with
  | none => tables
  | some subscription =>
    { tables with
      publisher := tables.publisher.unsubscribe subscription
      userSubscriptions := tables.userSubscriptions.delete userId }

def shut (tables : Tables) : Tables :=
  { tables with
    assignsCache := .empty
    presenceCache := .empty
    userSubscriptions := .empty
    publisher := tables.publisher.close
    nodeUsers := .empty
    nodeLastSeen := .empty
    heartbeatSubscription := false
    staleNodeTimer := false
    distributedSubscription := false
    closed := true }

def track (tables : Tables) (now : Nat) (sourceNodeId : Option NodeId) (userId : UserId) : Tables :=
  match sourceNodeId with
  | none => tables
  | some node =>
    if node = "" then tables
    else { tables with
      nodeUsers := tables.nodeUsers.set node (((tables.nodeUsers.get? node).getD .empty).add userId)
      nodeLastSeen := if tables.nodeLastSeen.has node then tables.nodeLastSeen
        else tables.nodeLastSeen.set node now }

def untrack (tables : Tables) (sourceNodeId : Option NodeId) (userId : UserId) : Tables :=
  match sourceNodeId with
  | none => tables
  | some node =>
    if node = "" then tables
    else
      match tables.nodeUsers.get? node with
      | none => tables
      | some users =>
        { tables with
          nodeUsers := if (users.delete userId).isEmpty then tables.nodeUsers.delete node
            else tables.nodeUsers.set node (users.delete userId) }

def knows (tables : Tables) (userId : UserId) : Bool :=
  tables.assignsCache.has userId || tables.presenceCache.has userId

-- The first local user makes the engine ask for the state, once it is ready to.
def askState (tables : Tables) : Tables :=
  { tables with
    readyCallbacks := if tables.distributedReady.isSome then tables.readyCallbacks + 1 else tables.readyCallbacks }

def join (tables : Tables) (userId : UserId) (assigns : PondAssigns) (onMessage : ConnectionId) : Tables :=
  if tables.assignsCache.has userId then tables
  else if tables.publisher.isClosed then tables.list userId assigns
  else
    let hosted := (tables.list userId assigns).host ⟨userId, onMessage⟩
    if tables.assignsCache.isEmpty ∧ tables.backend.isSome then hosted.askState else hosted

def remove (tables : Tables) (userId : UserId) : Tables :=
  if tables.knows userId then
    let removed := (tables.forget userId).unsubscribe userId
    if removed.assignsCache.isEmpty then removed.shut else removed
  else tables

def adoptUser (now : Nat) (sourceNodeId : Option NodeId) (tables : Tables) (user : StateUser) : Tables :=
  if tables.assignsCache.has user.id then tables
  else
    let tables := (tables.list user.id user.assigns).track now sourceNodeId user.id
    match user.presence with
    | none => tables
    | some presence => if presence.isEmpty then tables else tables.present user.id presence

def joined (tables : Tables) (now : Nat) (sourceNodeId : Option NodeId) (userId : UserId)
    (presence : Option PondPresence) (assigns : PondAssigns) : Tables :=
  if tables.assignsCache.has userId then tables
  else
    let tables := (tables.list userId assigns).track now sourceNodeId userId
    match presence with
    | none => tables
    | some presence =>
      if presence.isEmpty || tables.presenceCache.has userId then tables else tables.present userId presence

def reassign (tables : Tables) (userId : UserId) (assigns : Option PondAssigns) (key : Option String)
    (value : JsValue) : Tables :=
  match tables.assignsCache.get? userId with
  | none => tables
  | some current =>
    match assigns with
    | some assigns => tables.list userId assigns
    | none =>
      match key with
      | none => tables
      | some key => if key = "" then tables else tables.list userId (current.set key value)

def receive (tables : Tables) (now : Nat) (message : DistributedMessage) : Tables :=
  match message.body with
  | .stateResponse (some users) => users.foldl (adoptUser now message.sourceNodeId) tables
  | .userJoined userId presence assigns => tables.joined now message.sourceNodeId userId presence assigns
  | .userLeft userId => (tables.forget userId).untrack message.sourceNodeId userId
  | .presenceUpdate userId (some presence) => tables.present userId presence
  | .presenceRemoved userId => tables.unpresent userId
  | .assignsUpdate userId assigns key value => tables.reassign userId assigns key value
  | .evictUser userId _ => (tables.forget userId).unsubscribe userId
  | .userRemove userId =>
    if tables.userSubscriptions.has userId then tables.remove userId
    else (tables.forget userId).untrack message.sourceNodeId userId
  | _ => tables

def dropNode (tables : Tables) (node : NodeId) : Tables :=
  let dropped := match tables.nodeUsers.get? node with
    | none => tables
    | some users =>
      let tables := users.keys.foldl forget tables
      { tables with nodeUsers := tables.nodeUsers.delete node }
  { dropped with nodeLastSeen := dropped.nodeLastSeen.delete node }

def staleNodes (tables : Tables) (now : Nat) : List NodeId :=
  match tables.backend with
  | none => []
  | some backend =>
    (tables.nodeLastSeen.entries.filter fun row => decide (row.2 + backend.heartbeatTimeoutMs ≤ now)).map Prod.fst

def tick (tables : Tables) (now : Nat) : Tables :=
  if tables.staleNodeTimer then (tables.staleNodes now).foldl dropNode tables else tables

def ready (tables : Tables) : Tables :=
  { tables with distributedReady := tables.distributedReady.map fun _ => true }

def step (tables : Tables) (now : Nat) (op : EngineOp) : Tables :=
  match op with
  | .addUser userId assigns onMessage _ => tables.join userId assigns onMessage
  | .trackPresence userId presence =>
    if tables.presenceCache.has userId then tables else tables.present userId presence
  | .updatePresence userId presence =>
    if tables.presenceCache.has userId then tables.present userId presence else tables
  | .upsertPresence userId presence => tables.present userId presence
  | .removePresence userId => tables.unpresent userId
  | .updateAssigns userId assigns =>
    match tables.assignsCache.get? userId with
    | none => tables
    | some current => tables.list userId (current.merge assigns)
  | .kickUser userId _ => if tables.assignsCache.has userId then tables.remove userId else tables
  | .destroy _ => tables.shut
  | .close => tables.shut
  | .removeUser userId _ => tables.remove userId
  | .distributedSubscribed =>
    if tables.closed then tables.ready else { tables.ready with distributedSubscription := true }
  | .distributedRejected => tables.ready
  | .runReadyCallback =>
    if tables.distributedReady = some true ∧ 0 < tables.readyCallbacks then
      { tables with readyCallbacks := tables.readyCallbacks - 1 }
    else tables
  | .receive message => tables.receive now message
  | .heartbeat nodeId =>
    if tables.heartbeatSubscription then { tables with nodeLastSeen := tables.nodeLastSeen.set nodeId now }
    else tables
  | .staleNodeTick => tables.tick now
  | _ => tables

def lists (tables : Tables) (userId : UserId) : Prop := tables.assignsCache.has userId = true

def presents (tables : Tables) (userId : UserId) : Prop := tables.presenceCache.has userId = true

def hosts (tables : Tables) (userId : UserId) : Prop := tables.userSubscriptions.has userId = true

def tracks (tables : Tables) (node : NodeId) (userId : UserId) : Prop :=
  ∃ users, tables.nodeUsers.get? node = some users ∧ users.has userId = true

instance (tables : Tables) (userId : UserId) : Decidable (tables.lists userId) :=
  inferInstanceAs (Decidable (tables.assignsCache.has userId = true))

instance (tables : Tables) (userId : UserId) : Decidable (tables.hosts userId) :=
  inferInstanceAs (Decidable (tables.userSubscriptions.has userId = true))

variable {userId : UserId}

theorem knows_iff : tables.knows userId = true ↔ tables.lists userId ∨ tables.presents userId := by
  simp [knows, lists, presents]

theorem unpresent_untrack (sourceNodeId : Option NodeId) (userId : UserId) :
    (tables.untrack sourceNodeId userId).unpresent userId = (tables.unpresent userId).untrack sourceNodeId userId := by
  unfold untrack
  cases sourceNodeId with
  | none => rfl
  | some node =>
    dsimp only
    split
    · rfl
    have same : (tables.unpresent userId).nodeUsers.get? node = tables.nodeUsers.get? node := rfl
    rw [same]
    cases tables.nodeUsers.get? node <;> rfl

variable {other : UserId}

theorem list_lists {assigns : PondAssigns} :
    (tables.list userId assigns).lists other ↔ other = userId ∨ tables.lists other :=
  OrderedMap.has_set

theorem present_presents (userId other : UserId) (presence : PondPresence) :
    (tables.present userId presence).presents other ↔ other = userId ∨ tables.presents other :=
  OrderedMap.has_set

theorem unpresent_presents : (tables.unpresent userId).presents other ↔ other ≠ userId ∧ tables.presents other :=
  has_delete

theorem forget_lists : (tables.forget userId).lists other ↔ other ≠ userId ∧ tables.lists other :=
  has_delete

theorem forget_presents : (tables.forget userId).presents other ↔ other ≠ userId ∧ tables.presents other :=
  has_delete

theorem host_hosts (subscriber : Subscriber) (other : UserId) :
    (tables.host subscriber).hosts other ↔ other = subscriber.userId ∨ tables.hosts other :=
  OrderedMap.has_set

theorem unsubscribe_frame :
    tables.unsubscribe userId = { tables with
      publisher := (tables.unsubscribe userId).publisher
      userSubscriptions := (tables.unsubscribe userId).userSubscriptions } := by
  unfold unsubscribe
  cases tables.userSubscriptions.get? userId <;> rfl

theorem unsubscribe_hosts : (tables.unsubscribe userId).hosts other ↔ other ≠ userId ∧ tables.hosts other := by
  unfold unsubscribe
  cases found : tables.userSubscriptions.get? userId with
  | none =>
    refine ⟨fun hosted => ⟨?_, hosted⟩, fun both => both.2⟩
    rintro rfl
    exact Bool.false_ne_true ((has_false_iff.mpr found).symm.trans hosted)
  | some => exact has_delete

theorem track_frame (now : Nat) (sourceNodeId : Option NodeId) (userId : UserId) :
    tables.track now sourceNodeId userId = { tables with
      nodeUsers := (tables.track now sourceNodeId userId).nodeUsers
      nodeLastSeen := (tables.track now sourceNodeId userId).nodeLastSeen } := by
  unfold track
  cases sourceNodeId with
  | none => rfl
  | some =>
    dsimp only
    split <;> rfl

theorem untrack_frame (sourceNodeId : Option NodeId) (userId : UserId) :
    tables.untrack sourceNodeId userId = { tables with
      nodeUsers := (tables.untrack sourceNodeId userId).nodeUsers } := by
  unfold untrack
  cases sourceNodeId with
  | none => rfl
  | some node =>
    dsimp only
    split
    · rfl
    · cases tables.nodeUsers.get? node <;> rfl

theorem track_tracks (now : Nat) {source : NodeId} (node : NodeId) (userId other : UserId)
    (named : source ≠ "") :
    (tables.track now (some source) userId).tracks node other ↔
      (node = source ∧ other = userId) ∨ tables.tracks node other := by
  simp only [track, if_neg named, tracks, OrderedMap.get_set]
  by_cases same : node = source
  · subst same
    cases found : tables.nodeUsers.get? node with
    | none | some => simp [OrderedSet.add, OrderedMap.has_set]
  · simp [same]

theorem track_seen (now : Nat) (source node : NodeId) (userId : UserId) (named : source ≠ "") :
    (tables.track now (some source) userId).nodeLastSeen.has node = true ↔
      node = source ∨ tables.nodeLastSeen.has node = true := by
  simp only [track, if_neg named]
  split
  · refine ⟨Or.inr, fun seen => seen.elim (fun same => ?_) id⟩
    rw [same]
    assumption
  · exact OrderedMap.has_set

variable {node : NodeId}

variable {source : Option NodeId}

theorem untrack_tracks (tracked : (tables.untrack source userId).tracks node other) : tables.tracks node other := by
  unfold untrack at tracked
  cases source with
  | none => exact tracked
  | some source =>
    dsimp only at tracked
    split at tracked
    · exact tracked
    cases found : tables.nodeUsers.get? source with
    | none => simpa only [found] using tracked
    | some users =>
      simp only [found, tracks] at tracked
      obtain ⟨rest, row, member⟩ := tracked
      by_cases same : node = source
      · subst same
        split at row
        · simp at row
        rw [get_set_same] at row
        cases row
        exact ⟨users, found, (has_delete.mp member).2⟩
      split at row
      · exact ⟨rest, by rwa [get_delete_other same] at row, member⟩
      · exact ⟨rest, by rwa [get_set_other same] at row, member⟩

theorem untrack_keeps (different : other ≠ userId) (tracked : tables.tracks node other) :
    (tables.untrack source userId).tracks node other := by
  unfold untrack
  cases source with
  | none => exact tracked
  | some source =>
    dsimp only
    split
    · exact tracked
    cases found : tables.nodeUsers.get? source with
    | none => exact tracked
    | some users =>
      obtain ⟨members, row, member⟩ := tracked
      by_cases same : node = source
      · subst same
        have still : (users.delete userId).has other = true := by
          rw [found] at row
          cases row
          exact has_delete.mpr ⟨different, member⟩
        have nonempty : ¬ (users.delete userId).isEmpty = true := fun empty => by
          rw [empty_iff.mp empty other] at still
          cases still
        simp only [if_neg nonempty]
        exact ⟨users.delete userId, get_set_same, still⟩
      · refine ⟨members, ?_, member⟩
        dsimp only
        split
        · rw [get_delete_other same]
          exact row
        · rw [get_set_other same]
          exact row

theorem forget_all_frame (userIds : List UserId) :
    userIds.foldl forget tables = { tables with
      assignsCache := (userIds.foldl forget tables).assignsCache
      presenceCache := (userIds.foldl forget tables).presenceCache } := by
  induction userIds generalizing tables with
  | nil => rfl
  | cons _ _ ih =>
    rw [foldl_cons, ih]
    rfl

theorem forget_all_lists (userIds : List UserId) (other : UserId) :
    (userIds.foldl forget tables).lists other ↔ other ∉ userIds ∧ tables.lists other := by
  induction userIds generalizing tables with
  | nil => simp
  | cons _ _ ih =>
    rw [foldl_cons, ih, forget_lists, mem_cons, not_or]
    tauto

theorem forget_all_presents (userIds : List UserId) (other : UserId) :
    (userIds.foldl forget tables).presents other ↔ other ∉ userIds ∧ tables.presents other := by
  induction userIds generalizing tables with
  | nil => simp
  | cons _ _ ih =>
    rw [foldl_cons, ih, forget_presents, mem_cons, not_or]
    tauto

theorem drop_node_frame (node : NodeId) :
    tables.dropNode node = { tables with
      assignsCache := (tables.dropNode node).assignsCache
      presenceCache := (tables.dropNode node).presenceCache
      nodeUsers := tables.nodeUsers.delete node
      nodeLastSeen := tables.nodeLastSeen.delete node } := by
  unfold dropNode
  cases found : tables.nodeUsers.get? node with
  | none => simp [delete_absent (has_false_iff.mpr found)]
  | some =>
    dsimp only
    rw [forget_all_frame]

theorem drop_node_tracks {other : NodeId} :
    (tables.dropNode node).tracks other userId ↔ other ≠ node ∧ tables.tracks other userId := by
  rw [drop_node_frame]
  simp only [tracks, get_delete]
  by_cases same : other = node <;> simp [same]

theorem drop_node_lists (node : NodeId) (userId : UserId) :
    (tables.dropNode node).lists userId ↔ ¬ tables.tracks node userId ∧ tables.lists userId := by
  unfold dropNode tracks
  cases found : tables.nodeUsers.get? node with
  | none => simp [lists]
  | some users =>
    have forgotten := forget_all_lists tables users.keys userId
    rw [OrderedMap.mem_keys] at forgotten
    simpa [lists] using forgotten

theorem drop_node_presents (node : NodeId) (userId : UserId) :
    (tables.dropNode node).presents userId ↔ ¬ tables.tracks node userId ∧ tables.presents userId := by
  unfold dropNode tracks
  cases found : tables.nodeUsers.get? node with
  | none => simp [presents]
  | some users =>
    have forgotten := forget_all_presents tables users.keys userId
    rw [OrderedMap.mem_keys] at forgotten
    simpa [presents] using forgotten

theorem drop_all_frame :
    nodes.foldl dropNode tables = { tables with
      assignsCache := (nodes.foldl dropNode tables).assignsCache
      presenceCache := (nodes.foldl dropNode tables).presenceCache
      nodeUsers := (nodes.foldl dropNode tables).nodeUsers
      nodeLastSeen := (nodes.foldl dropNode tables).nodeLastSeen } := by
  induction nodes generalizing tables with
  | nil => rfl
  | cons _ _ ih => rw [foldl_cons, ih, drop_node_frame]

theorem drop_all_tracks (other : NodeId) (userId : UserId) :
    (nodes.foldl dropNode tables).tracks other userId ↔ other ∉ nodes ∧ tables.tracks other userId := by
  induction nodes generalizing tables with
  | nil => simp
  | cons _ _ ih =>
    rw [foldl_cons, ih, drop_node_tracks, mem_cons, not_or]
    tauto

variable {nodes}

theorem drop_all_seen {other : NodeId} :
    (nodes.foldl dropNode tables).nodeLastSeen.has other = true ↔
      other ∉ nodes ∧ tables.nodeLastSeen.has other = true := by
  induction nodes generalizing tables with
  | nil => simp
  | cons node _ ih =>
    have one : (tables.dropNode node).nodeLastSeen.has other = true ↔
        other ≠ node ∧ tables.nodeLastSeen.has other = true := by
      rw [drop_node_frame]
      exact has_delete
    rw [foldl_cons, ih, one, mem_cons, not_or]
    tauto

theorem drop_all_lists :
    (nodes.foldl dropNode tables).lists userId ↔
      (∀ node ∈ nodes, ¬ tables.tracks node userId) ∧ tables.lists userId := by
  induction nodes generalizing tables with
  | nil => simp
  | cons node _ ih =>
    rw [foldl_cons, ih, drop_node_lists, forall_mem_cons]
    constructor
    · rintro ⟨later, untracked, listed⟩
      refine ⟨⟨untracked, fun other member tracked => ?_⟩, listed⟩
      by_cases same : other = node
      · exact untracked (same ▸ tracked)
      · exact later other member ((drop_node_tracks tables).mpr ⟨same, tracked⟩)
    · rintro ⟨⟨untracked, later⟩, listed⟩
      exact ⟨fun other member tracked => later other member ((drop_node_tracks _).mp tracked).2, untracked, listed⟩

theorem drop_all_presents :
    (nodes.foldl dropNode tables).presents userId ↔
      (∀ node ∈ nodes, ¬ tables.tracks node userId) ∧ tables.presents userId := by
  induction nodes generalizing tables with
  | nil => simp
  | cons node _ ih =>
    rw [foldl_cons, ih, drop_node_presents, forall_mem_cons]
    constructor
    · rintro ⟨later, untracked, present⟩
      refine ⟨⟨untracked, fun other member tracked => ?_⟩, present⟩
      by_cases same : other = node
      · exact untracked (same ▸ tracked)
      · exact later other member ((drop_node_tracks tables).mpr ⟨same, tracked⟩)
    · rintro ⟨⟨untracked, later⟩, present⟩
      exact ⟨fun other member tracked => later other member ((drop_node_tracks _).mp tracked).2, untracked, present⟩

end Tables

end PondSocket.Js
