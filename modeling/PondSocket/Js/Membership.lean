import PondSocket.Js.Tables

namespace PondSocket.Js

open Library List OrderedMap

def EngineOp.presents (op : EngineOp) (userId : UserId) : Prop :=
  match op with
  | .trackPresence other _ | .updatePresence other _ | .upsertPresence other _ => other = userId
  | .receive message =>
    match message.body with
    | .presenceUpdate other (some _) => other = userId
    | _ => False
  | _ => False

namespace Tables

variable (tables : Tables) (now : Nat) {source : Option NodeId} {userId other : UserId} {node : NodeId}

variable {assigns : PondAssigns} {presence : Option PondPresence} {next : Tables}

-- The two messages that track a user.
def Introduces (tables : Tables) (body : MessageBody) (userId : UserId) : Prop :=
  match body with
  | .userJoined other _ _ => other = userId
  | .stateResponse (some users) => ¬ tables.lists userId ∧ ∃ user ∈ users, user.id = userId
  | _ => False

def Removes (body : MessageBody) (userId : UserId) : Prop :=
  match body with
  | .userLeft other | .evictUser other _ | .userRemove other => other = userId
  | _ => False

def Drops (tables : Tables) (now : Nat) (op : EngineOp) (userId : UserId) : Prop :=
  match op with
  | .kickUser other _ => other = userId
  | .removeUser other _ => other = userId
  | .destroy _ | .close => True
  | .staleNodeTick => tables.staleNodeTimer = true ∧ ∃ node ∈ tables.staleNodes now, tables.tracks node userId
  | .receive message => Removes message.body userId
  | _ => False

def empties (tables : Tables) (userId : UserId) : Bool :=
  tables.knows userId && (tables.assignsCache.delete userId).isEmpty

def shuts (tables : Tables) (op : EngineOp) : Bool :=
  match op with
  | .close => true
  | .destroy _ => true
  | .removeUser userId _ => tables.empties userId
  | .kickUser userId _ => tables.assignsCache.has userId && tables.empties userId
  | .receive message =>
    match message.body with
    | .userRemove userId => tables.userSubscriptions.has userId && tables.empties userId
    | _ => false
  | _ => false

def enlist (tables : Tables) (now : Nat) (source : Option NodeId) (userId : UserId) (assigns : PondAssigns)
    (presence : Option PondPresence) : Tables :=
  match presence with
  | none => (tables.list userId assigns).track now source userId
  | some presence => ((tables.list userId assigns).track now source userId).present userId presence

-- The users that one message adds, each of them unlisted when its turn comes.
inductive Admitted (now : Nat) (source : Option NodeId) (named : UserId → Prop) : Tables → Tables → Prop where
  | none (tables : Tables) : Admitted now source named tables tables
  | user {tables next : Tables} (userId : UserId) (assigns : PondAssigns) (presence : Option PondPresence)
      (unlisted : ¬ tables.lists userId) (among : named userId)
      (rest : Admitted now source named (tables.enlist now source userId assigns presence) next) :
      Admitted now source named tables next

-- What one step makes of the tables of an engine that it does not close.
inductive Shift (tables : Tables) (now : Nat) (op : EngineOp) : Tables → Prop where
  | kept (ready : Option Bool) (callbacks : Nat) :
      Shift tables now op { tables with distributedReady := ready, readyCallbacks := callbacks }
  | heard (nodeId : NodeId) : Shift tables now op { tables with nodeLastSeen := tables.nodeLastSeen.set nodeId now }
  | subscribed (resumed : op = .distributedSubscribed) :
      Shift tables now op { tables.ready with distributedSubscription := true }
  | relisted (userId : UserId) (assigns : PondAssigns) (listed : tables.lists userId) :
      Shift tables now op (tables.list userId assigns)
  | deaf (userId : UserId) (assigns : PondAssigns) (onMessage : ConnectionId) (requestId : RequestId)
      (joins : op = .addUser userId assigns onMessage requestId) (unlisted : ¬ tables.lists userId)
      (closed : tables.publisher.isClosed = true) : Shift tables now op (tables.list userId assigns)
  | hosted (userId : UserId) (assigns : PondAssigns) (onMessage : ConnectionId) (requestId : RequestId) (callbacks : Nat)
      (joins : op = .addUser userId assigns onMessage requestId) (unlisted : ¬ tables.lists userId)
      (listening : ¬ tables.publisher.isClosed = true) :
      Shift tables now op { (tables.list userId assigns).host ⟨userId, onMessage⟩ with readyCallbacks := callbacks }
  | presented (userId : UserId) (presence : PondPresence) (told : op.presents userId) :
      Shift tables now op (tables.present userId presence)
  | unpresented (userId : UserId) : Shift tables now op (tables.unpresent userId)
  | admitted (message : DistributedMessage) (next : Tables) (received : op = .receive message)
      (admitted : Admitted now message.sourceNodeId (tables.Introduces message.body) tables next) :
      Shift tables now op next
  | evicted (userId : UserId) (dropped : tables.Drops now op userId) :
      Shift tables now op ((tables.forget userId).unsubscribe userId)
  | left (source : Option NodeId) (userId : UserId) (dropped : tables.Drops now op userId)
      (remote : tables.hosts userId → ∃ message, op = .receive message ∧ message.body = .userLeft userId) :
      Shift tables now op ((tables.forget userId).untrack source userId)
  | ticked (ticking : tables.staleNodeTimer = true) (cleans : op = .staleNodeTick) :
      Shift tables now op ((tables.staleNodes now).foldl dropNode tables)

theorem adopt_admits (user : StateUser) : ∃ presence, adoptUser now source tables user =
    if tables.lists user.id then tables else tables.enlist now source user.id user.assigns presence := by
  by_cases listed : tables.lists user.id
  · exact ⟨none, (if_pos listed).trans (if_pos listed).symm⟩
  simp only [if_neg listed]
  unfold adoptUser
  rw [if_neg (show ¬ tables.assignsCache.has user.id = true from listed)]
  cases user.presence with
  | none => exact ⟨none, rfl⟩
  | some presence =>
    dsimp only
    split
    · exact ⟨none, rfl⟩
    · exact ⟨some presence, rfl⟩

theorem joined_admits : ∃ given, tables.joined now source userId presence assigns =
    if tables.lists userId then tables else tables.enlist now source userId assigns given := by
  by_cases listed : tables.lists userId
  · exact ⟨none, (if_pos listed).trans (if_pos listed).symm⟩
  simp only [if_neg listed]
  unfold joined
  rw [if_neg (show ¬ tables.assignsCache.has userId = true from listed)]
  cases presence with
  | none => exact ⟨none, rfl⟩
  | some presence =>
    dsimp only
    split
    · exact ⟨none, rfl⟩
    · exact ⟨some presence, rfl⟩

theorem enlist_frame : tables.enlist now source userId assigns presence = { tables with
    assignsCache := tables.assignsCache.set userId assigns
    presenceCache := (tables.enlist now source userId assigns presence).presenceCache
    nodeUsers := (tables.track now source userId).nodeUsers
    nodeLastSeen := (tables.track now source userId).nodeLastSeen } := by
  have listed : (tables.list userId assigns).track now source userId = { tables with
      assignsCache := tables.assignsCache.set userId assigns
      nodeUsers := (tables.track now source userId).nodeUsers
      nodeLastSeen := (tables.track now source userId).nodeLastSeen } := by
    unfold track list
    cases source with
    | none => rfl
    | some =>
      dsimp only
      split <;> rfl
  cases presence with
  | none =>
    rw [show tables.enlist now source userId assigns none = _ from listed]
  | some presence =>
    rw [show tables.enlist now source userId assigns (some presence) = _ from congrArg (present · userId presence) listed]
    rfl

theorem enlist_lists : (tables.enlist now source userId assigns presence).lists other ↔
    other = userId ∨ tables.lists other := by
  rw [enlist_frame]
  exact list_lists tables

theorem tracks_of_rows {tables : Tables} (rows : next.nodeUsers = tables.nodeUsers) :
    next.tracks node userId ↔ tables.tracks node userId := by
  rw [tracks, rows, tracks]

theorem enlist_tracks : (tables.enlist now source userId assigns presence).tracks node other ↔
    (tables.track now source userId).tracks node other := by
  rw [enlist_frame]
  exact tracks_of_rows rfl

theorem track_tracks_only (tracked : (tables.track now source userId).tracks node other) :
    tables.tracks node other ∨ (source = some node ∧ other = userId) := by
  cases source with
  | none => exact .inl tracked
  | some source =>
    by_cases named : source = ""
    · rw [show tables.track now (some source) userId = tables from if_pos named] at tracked
      exact .inl tracked
    rcases (track_tracks tables now node userId other named).mp tracked with ⟨rfl, rfl⟩ | before
    · exact .inr ⟨rfl, rfl⟩
    · exact .inl before

theorem track_keeps (tracked : tables.tracks node other) : (tables.track now source userId).tracks node other := by
  cases source with
  | none => exact tracked
  | some source =>
    by_cases named : source = ""
    · rwa [show tables.track now (some source) userId = tables from if_pos named]
    · exact (track_tracks tables now node userId other named).mpr (.inr tracked)

variable {users : List StateUser} {user : StateUser}

theorem adopt_all_keeps_tracks (tables : Tables) (tracked : tables.tracks node other) :
    (users.foldl (adoptUser now source) tables).tracks node other := by
  induction users generalizing tables with
  | nil => exact tracked
  | cons _ _ ih =>
    obtain ⟨_, same⟩ := adopt_admits tables now _
    rw [foldl_cons, same]
    split
    · exact ih tables tracked
    · exact ih _ ((enlist_tracks tables now).mpr (track_keeps tables now tracked))

theorem adopt_all_tracks {source : NodeId} (named : source ≠ "") (tables : Tables) (among : user ∈ users)
    (unlisted : ¬ tables.lists user.id) : (users.foldl (adoptUser now (some source)) tables).tracks source user.id := by
  induction users generalizing tables with
  | nil => cases among
  | cons first _ ih =>
    obtain ⟨_, admits⟩ := adopt_admits tables now first
    rw [foldl_cons, admits]
    by_cases same : user.id = first.id
    · rw [if_neg (same ▸ unlisted)]
      refine adopt_all_keeps_tracks now _ ((enlist_tracks tables now).mpr ?_)
      exact (track_tracks tables now source first.id user.id named).mpr (.inl ⟨rfl, same⟩)
    rcases mem_cons.mp among with rfl | later
    · exact absurd rfl same
    split
    · exact ih tables later unlisted
    · exact ih _ later fun listed => ((enlist_lists tables now).mp listed).elim same unlisted

theorem admitted_all {named : UserId → Prop} (tables : Tables)
    (among : ∀ user ∈ users, ¬ tables.lists user.id → named user.id) :
    Admitted now source named tables (users.foldl (adoptUser now source) tables) := by
  induction users generalizing tables with
  | nil => exact .none tables
  | cons user _ ih =>
    obtain ⟨_, same⟩ := adopt_admits tables now user
    rw [foldl_cons, same]
    split
    · exact ih tables fun other member => among other (mem_cons_of_mem _ member)
    · rename_i unlisted
      refine .user _ _ _ unlisted (among user mem_cons_self unlisted) (ih _ fun other member new => ?_)
      exact among other (mem_cons_of_mem _ member) fun listed => new ((enlist_lists tables now).mpr (.inr listed))

section

variable {named : UserId → Prop} {tables : Tables} (admitted : Admitted now source named tables next)

include admitted

theorem admitted_frame : next = { tables with
    assignsCache := next.assignsCache
    presenceCache := next.presenceCache
    nodeUsers := next.nodeUsers
    nodeLastSeen := next.nodeLastSeen } := by
  induction admitted with
  | none => rfl
  | user _ _ _ _ _ _ ih =>
    rw [ih, enlist_frame]

theorem admitted_lists : (tables.lists userId → next.lists userId) ∧
    (next.lists userId → tables.lists userId ∨ named userId) := by
  induction admitted with
  | none => exact ⟨id, Or.inl⟩
  | user other _ _ _ among _ ih =>
    refine ⟨fun listed => ih.1 ((enlist_lists _ now).mpr (.inr listed)), fun listed => ?_⟩
    rcases ih.2 listed with before | named
    · exact ((enlist_lists _ now).mp before).elim (fun same => .inr (same ▸ among)) Or.inl
    · exact .inr named

theorem admitted_tracks (tracked : next.tracks node userId) :
    tables.tracks node userId ∨ (source = some node ∧ ¬ tables.lists userId ∧ named userId) := by
  induction admitted with
  | none => exact .inl tracked
  | user other _ _ unlisted among _ ih =>
    rcases ih tracked with before | ⟨sent, new, named⟩
    · refine (track_tracks_only _ now ((enlist_tracks _ now).mp before)).imp id fun added => ?_
      exact ⟨added.1, added.2 ▸ unlisted, added.2 ▸ among⟩
    · exact .inr ⟨sent, fun listed => new ((enlist_lists _ now).mpr (.inr listed)), named⟩

end

theorem shut_tracks : ¬ tables.shut.tracks node userId := by
  rintro ⟨_, row, _⟩
  cases row

variable {op : EngineOp} {message : DistributedMessage}

theorem remove_shut (ends : tables.empties userId = true) :
    ∃ publisher, tables.remove userId = { tables with publisher := publisher }.shut := by
  obtain ⟨known, empty⟩ := Bool.and_eq_true_iff.mp ends
  refine ⟨((tables.forget userId).unsubscribe userId).publisher, ?_⟩
  unfold remove
  rw [if_pos known, unsubscribe_frame]
  exact if_pos empty

theorem remove_shift (stays : tables.empties userId = false) (dropped : tables.Drops now op userId) :
    tables.Shift now op (tables.remove userId) := by
  unfold remove
  split
  · rename_i known
    have left : ¬ ((tables.forget userId).unsubscribe userId).assignsCache.isEmpty = true := by
      rw [unsubscribe_frame]
      intro empty
      rw [empties, known, Bool.true_and] at stays
      exact Bool.false_ne_true (stays.symm.trans empty)
    dsimp only
    rw [if_neg left]
    exact .evicted userId dropped
  · exact .kept _ _

theorem receive_shift (stays : tables.shuts (.receive message) = false) :
    tables.Shift now (.receive message) (tables.receive now message) := by
  obtain ⟨_, _, sourceNodeId, body⟩ := message
  cases body with
  | stateResponse users =>
    cases users with
    | none => exact .kept _ _
    | some => exact .admitted _ _ rfl (admitted_all now tables fun user member unlisted => ⟨unlisted, user, member, rfl⟩)
  | userJoined userId presence assigns =>
    obtain ⟨_, joins⟩ := @joined_admits tables now sourceNodeId userId assigns presence
    change tables.Shift now _ (tables.joined now sourceNodeId userId presence assigns)
    rw [joins]
    split
    · exact .kept _ _
    · rename_i unlisted
      exact .admitted _ _ rfl (.user _ _ _ unlisted rfl (.none _))
  | userLeft userId => exact .left sourceNodeId userId rfl fun _ => ⟨_, rfl, rfl⟩
  | presenceUpdate _ presence =>
    cases presence with
    | none => exact .kept _ _
    | some => exact .presented _ _ rfl
  | presenceRemoved => exact .unpresented _
  | assignsUpdate userId assigns key value =>
    change tables.Shift now _ (tables.reassign userId assigns key value)
    unfold reassign
    cases found : tables.assignsCache.get? userId with
    | none => exact .kept _ _
    | some current =>
      have listed : tables.lists userId := has_iff.mpr ⟨current, found⟩
      cases assigns with
      | some => exact .relisted _ _ listed
      | none =>
        cases key with
        | none => exact .kept _ _
        | some =>
          dsimp only
          split
          · exact .kept _ _
          · exact .relisted _ _ listed
  | evictUser userId => exact .evicted userId rfl
  | userRemove userId =>
    dsimp only [receive]
    split
    · rename_i hosted
      refine remove_shift tables now ?_ rfl
      simpa [shuts, hosted] using stays
    · rename_i remote
      exact .left sourceNodeId userId rfl fun hosted => absurd hosted remote
  | _ => exact .kept _ _

theorem step_shift (stays : tables.shuts op = false) : tables.Shift now op (tables.step now op) := by
  cases op with
  | addUser userId assigns onMessage requestId =>
    change tables.Shift now _ (tables.join userId assigns onMessage)
    unfold join
    split
    · exact .kept _ _
    rename_i unlisted
    split
    · exact .deaf userId assigns onMessage requestId rfl unlisted ‹_›
    · split <;> exact .hosted userId assigns onMessage requestId _ rfl unlisted ‹_›
  | trackPresence =>
    dsimp only [step]
    split
    · exact .kept _ _
    · exact .presented _ _ rfl
  | updatePresence =>
    dsimp only [step]
    split
    · exact .presented _ _ rfl
    · exact .kept _ _
  | upsertPresence => exact .presented _ _ rfl
  | removePresence => exact .unpresented _
  | updateAssigns userId =>
    dsimp only [step]
    cases found : tables.assignsCache.get? userId with
    | none => exact .kept _ _
    | some current => exact .relisted _ _ (has_iff.mpr ⟨current, found⟩)
  | kickUser userId =>
    dsimp only [step]
    split
    · rename_i listed
      refine remove_shift tables now ?_ rfl
      simpa [shuts, listed] using stays
    · exact .kept _ _
  | destroy | close => cases stays
  | removeUser => exact remove_shift tables now stays rfl
  | distributedSubscribed =>
    dsimp only [step]
    split
    · exact .kept _ _
    · exact .subscribed rfl
  | runReadyCallback =>
    dsimp only [step]
    split <;> exact .kept _ _
  | receive => exact receive_shift tables now stays
  | heartbeat =>
    dsimp only [step]
    split
    · exact .heard _
    · exact .kept _ _
  | staleNodeTick =>
    dsimp only [step, tick]
    split
    · exact .ticked ‹_› rfl
    · exact .kept _ _
  | _ => exact .kept _ _

theorem step_shut (ends : tables.shuts op = true) :
    ∃ publisher, tables.step now op = { tables with publisher := publisher }.shut := by
  cases op with
  | destroy | close => exact ⟨tables.publisher, rfl⟩
  | removeUser => exact remove_shut tables ends
  | kickUser =>
    obtain ⟨listed, ends⟩ := Bool.and_eq_true_iff.mp ends
    dsimp only [step]
    rw [if_pos listed]
    exact remove_shut tables ends
  | receive message =>
    obtain ⟨_, _, _, body⟩ := message
    cases body with
    | userRemove =>
      obtain ⟨hosted, ends⟩ := Bool.and_eq_true_iff.mp ends
      dsimp only [step, receive]
      rw [if_pos hosted]
      exact remove_shut tables ends
    | _ => cases ends
  | _ => cases ends

theorem step_rule {motive : Tables → Prop} (shut : ∀ publisher, tables.shuts op = true →
      motive { tables with publisher := publisher }.shut)
    (shift : ∀ next, tables.Shift now op next → motive next) : motive (tables.step now op) := by
  cases ends : tables.shuts op with
  | false => exact shift _ (step_shift tables now ends)
  | true =>
    obtain ⟨publisher, same⟩ := step_shut tables now ends
    rw [same]
    exact shut publisher ends

theorem step_tracks (tracked : (tables.step now op).tracks node userId) :
    tables.tracks node userId ∨ ∃ message, op = .receive message ∧ message.sourceNodeId = some node ∧
        ¬ tables.lists userId ∧ tables.Introduces message.body userId := by
  revert tracked
  refine step_rule (motive := fun next => next.tracks node userId → _) tables now
    (fun _ _ tracked => absurd tracked (shut_tracks _)) fun next shift tracked => ?_
  cases shift with
  | admitted message _ received admitted =>
    exact (admitted_tracks now admitted tracked).imp id fun added => ⟨message, received, added⟩
  | evicted =>
    rw [unsubscribe_frame] at tracked
    exact .inl tracked
  | left => exact .inl (untrack_tracks (tables.forget _) tracked)
  | ticked => exact .inl ((drop_all_tracks tables _ node userId).mp tracked).2
  | _ => exact .inl tracked

theorem receive_tracks (tracked : (tables.receive now message).tracks node userId) :
    tables.tracks node userId ∨ (message.sourceNodeId = some node ∧ tables.Introduces message.body userId) := by
  rcases @step_tracks tables now _ _ (.receive message) tracked with before | ⟨_, received, sent, _, introduced⟩
  · exact .inl before
  · cases received
    exact .inr ⟨sent, introduced⟩

theorem remove_lists (listed : (tables.remove userId).lists other) : tables.lists other := by
  unfold remove at listed
  dsimp only at listed
  split at listed
  · split at listed
    · cases listed
    · rw [unsubscribe_frame] at listed
      exact ((forget_lists tables).mp listed).2
  · exact listed

theorem join_lists (userId other : UserId) (assigns : PondAssigns) (onMessage : ConnectionId) :
    (tables.join userId assigns onMessage).lists other ↔ tables.lists other ∨ other = userId := by
  have added : (tables.list userId assigns).lists other ↔ tables.lists other ∨ other = userId :=
    (list_lists tables).trans or_comm
  unfold join
  split
  · rename_i listed
    exact ⟨Or.inl, fun either => either.elim id fun same => same ▸ listed⟩
  split
  · exact added
  · split <;> exact added

theorem join_presence {onMessage : ConnectionId} :
    (tables.join userId assigns onMessage).presenceCache = tables.presenceCache := by
  simp only [join]
  split
  · rfl
  split
  · rfl
  · split <;> rfl

theorem step_lists (listed : (tables.step now op).lists userId) :
    tables.lists userId ∨ (∃ assigns onMessage requestId, op = .addUser userId assigns onMessage requestId) ∨
      ∃ message, op = .receive message ∧ tables.Introduces message.body userId := by
  revert listed
  refine step_rule (motive := fun next => next.lists userId → _) tables now
    (fun _ _ listed => absurd listed Bool.false_ne_true) fun next shift listed => ?_
  cases shift with
  | relisted other _ known => exact .inl (((list_lists tables).mp listed).elim (fun same => same ▸ known) id)
  | deaf other assigns onMessage requestId joins | hosted other assigns onMessage requestId _ joins =>
    rcases (list_lists tables).mp listed with rfl | before
    · exact .inr (.inl ⟨assigns, onMessage, requestId, joins⟩)
    · exact .inl before
  | admitted message _ received admitted =>
    exact ((admitted_lists now admitted).2 listed).imp id fun named => .inr ⟨message, received, named⟩
  | evicted =>
    rw [unsubscribe_frame] at listed
    exact .inl ((forget_lists tables).mp listed).2
  | left =>
    rw [untrack_frame] at listed
    exact .inl ((forget_lists tables).mp listed).2
  | ticked => exact .inl ((drop_all_lists tables).mp listed).2
  | _ => exact .inl listed

theorem removes_unlists (removes : Removes message.body userId) (remote : ¬ tables.hosts userId) :
    ¬ (tables.receive now message).lists userId := by
  have forgotten : ∀ source, ¬ ((tables.forget userId).untrack source userId).lists userId := by
    intro source listed
    rw [untrack_frame] at listed
    exact ((forget_lists tables).mp listed).1 rfl
  obtain ⟨_, _, sourceNodeId, body⟩ := message
  cases body with
  | userLeft =>
    cases removes
    exact forgotten sourceNodeId
  | evictUser =>
    cases removes
    intro listed
    dsimp only [receive] at listed
    rw [unsubscribe_frame] at listed
    exact ((forget_lists tables).mp listed).1 rfl
  | userRemove =>
    cases removes
    dsimp only [receive]
    rw [if_neg (show ¬ tables.userSubscriptions.has userId = true from remote)]
    exact forgotten sourceNodeId
  | _ => cases removes

theorem call_lists (leaves : op.arrives = false) (listed : (tables.step now op).lists userId) :
    tables.lists userId ∨ ∃ assigns onMessage requestId, op = .addUser userId assigns onMessage requestId := by
  refine (step_lists tables now listed).imp id fun added => added.resolve_right ?_
  rintro ⟨_, rfl, _⟩
  cases leaves

theorem receive_lists (listed : (tables.receive now message).lists userId) :
    (tables.lists userId ∧ (Removes message.body userId → tables.hosts userId)) ∨
      (¬ tables.lists userId ∧ tables.Introduces message.body userId) := by
  by_cases before : tables.lists userId
  · refine .inl ⟨before, fun removes => ?_⟩
    by_contra remote
    exact removes_unlists tables now removes remote listed
  rcases @step_lists tables now _ (.receive message) listed with old | ⟨_, _, _, joins⟩ | ⟨_, received, introduced⟩
  · exact absurd old before
  · cases joins
  · cases received
    exact .inr ⟨before, introduced⟩

structure Member (tables : Tables) (userId : UserId) : Prop where
  running : tables.closed = false
  hosted : tables.hosts userId
  listed : tables.lists userId

theorem shuts_drops (ends : tables.shuts op = true) (listed : tables.lists userId) : tables.Drops now op userId := by
  have last : ∀ other, tables.empties other = true → other = userId := by
    intro other empty
    by_contra apart
    have kept : (tables.assignsCache.delete other).has userId = true := has_delete.mpr ⟨Ne.symm apart, listed⟩
    rw [empty_iff.mp (Bool.and_eq_true_iff.mp empty).2 userId] at kept
    cases kept
  cases op with
  | destroy | close => trivial
  | removeUser => exact last _ ends
  | kickUser => exact last _ (Bool.and_eq_true_iff.mp ends).2
  | receive message =>
    obtain ⟨_, _, _, body⟩ := message
    cases body with
    | userRemove => exact last _ (Bool.and_eq_true_iff.mp ends).2
    | _ => cases ends
  | _ => cases ends

theorem member_step (member : tables.Member userId) (spared : ¬ tables.Drops now op userId) :
    (tables.step now op).Member userId := by
  refine step_rule (motive := fun next => next.Member userId) tables now
    (fun _ ends => absurd (shuts_drops tables now ends member.listed) spared) fun next shift => ?_
  have apart : ∀ {other}, tables.Drops now op other → userId ≠ other := fun dropped same => spared (same ▸ dropped)
  cases shift with
  | relisted | deaf => exact ⟨member.running, member.hosted, (list_lists tables).mpr (.inr member.listed)⟩
  | hosted =>
    exact ⟨member.running, (host_hosts _ _ _).mpr (.inr member.hosted), (list_lists tables).mpr (.inr member.listed)⟩
  | admitted _ _ _ admitted =>
    have listed := (admitted_lists now admitted).1 member.listed
    rw [admitted_frame now admitted] at listed ⊢
    exact ⟨member.running, member.hosted, listed⟩
  | evicted other dropped =>
    refine ⟨?_, (unsubscribe_hosts _).mpr ⟨apart dropped, member.hosted⟩, ?_⟩
    · rw [unsubscribe_frame]
      exact member.running
    · rw [unsubscribe_frame]
      exact (forget_lists tables).mpr ⟨apart dropped, member.listed⟩
  | left source other dropped =>
    rw [untrack_frame]
    exact ⟨member.running, member.hosted, (forget_lists tables).mpr ⟨apart dropped, member.listed⟩⟩
  | ticked ticking cleans =>
    have kept := (drop_all_lists tables).mpr
      ⟨fun node stale tracked => spared (cleans ▸ ⟨ticking, node, stale, tracked⟩), member.listed⟩
    rw [drop_all_frame] at kept ⊢
    exact ⟨member.running, member.hosted, kept⟩
  | _ => exact ⟨member.running, member.hosted, member.listed⟩

-- What no step does: change the backend, host a user it was not asked to join, or
-- keep members after giving up the subscription.
structure Outline (tables next : Tables) (newcomer : Option UserId) : Prop where
  backend : next.backend = tables.backend
  hosted : ∀ userId, next.hosts userId → tables.hosts userId ∨ newcomer = some userId
  silent : ∀ userId, next.lists userId → next.distributedSubscription = false →
    tables.distributedSubscription = false

def newcomer (op : EngineOp) : Option UserId :=
  match op with
  | .addUser userId _ _ _ => some userId
  | _ => none

theorem outline_step (op : EngineOp) :
    tables.Outline (tables.step now op) (newcomer op) := by
  refine step_rule (motive := fun next => tables.Outline next (newcomer op)) tables now
    (fun _ _ => ⟨rfl, fun _ hosted => absurd hosted Bool.false_ne_true, fun _ listed => absurd listed Bool.false_ne_true⟩)
    fun next shift => ?_
  cases shift with
  | subscribed => exact ⟨rfl, fun _ => Or.inl, fun _ _ off => by cases off⟩
  | hosted userId _ _ _ _ joins =>
    refine ⟨rfl, fun other hosted => ?_, fun _ _ => id⟩
    rcases (host_hosts _ _ _).mp hosted with rfl | before
    · exact .inr (by rw [joins]; rfl)
    · exact .inl before
  | admitted _ _ _ admitted =>
    rw [admitted_frame now admitted]
    exact ⟨rfl, fun _ => Or.inl, fun _ _ => id⟩
  | evicted userId =>
    have hosts := fun other => (@unsubscribe_hosts (tables.forget userId) userId other).mp
    rw [unsubscribe_frame] at hosts ⊢
    exact ⟨rfl, fun other hosted => .inl (hosts other hosted).2, fun _ _ => id⟩
  | left =>
    rw [untrack_frame]
    exact ⟨rfl, fun _ => Or.inl, fun _ _ => id⟩
  | ticked =>
    rw [drop_all_frame]
    exact ⟨rfl, fun _ => Or.inl, fun _ _ => id⟩
  | _ => exact ⟨rfl, fun _ => Or.inl, fun _ _ => id⟩

end Tables

end PondSocket.Js
