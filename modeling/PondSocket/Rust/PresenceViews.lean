import PondSocket.Rust.LockSections

namespace PondSocket.Rust

open Library List OrderedMap Option
open Js (Json UserId NodeId)
open Go (MsgType asSlice)

-- Where a spawned delivery is: before the transport is read, before is_active, before
-- the reads of get_user, before the sending.
inductive ViewPhase where
  | looking
  | checking (transport : Transport)
  | reading (transport : Transport)
  | sending (transport : Transport)

def ViewPhase.transport : ViewPhase → Option Transport
  | .looking => none
  | .checking transport | .reading transport | .sending transport => some transport

structure ViewTask where
  event : Event
  recipientId : UserId
  phase : ViewPhase

-- through: the users with a presence before the last change of the map and after it;
-- ended: the serials of the transports that are not active any more; taken: how many
-- items of the log of the queue were received; current: the last of them with the
-- recipients that are still to get a task; deliveries in the order of their spawning.
structure ViewRun where
  channel : Channel
  tasks : List (List Piece)
  through : List UserId
  ended : List Nat
  permits : Nat
  taken : Nat
  current : Option DispatchItem
  deliveries : List ViewTask
  sent : List (Transport × Event)

inductive ViewStep where
  | call (call : ChannelCall)
  | receive (moment : Moment) (data : Json)
  | resume (place : Nat)
  | connectionEnds (serial : Nat)
  | take
  | spawn
  | deliver (place : Nat)

def Piece.rewrites (channel : Channel) : Piece → Option (OrderedMap UserId Table)
  | .track userId presence _ =>
    if channel.presence.has userId then none else some (channel.presence.set userId presence)
  | .update userId presence _ =>
    if channel.presence.has userId then some (channel.presence.set userId presence) else none
  | .untrack userId _ | .removePresence userId _ _ _ | .dropPresence userId =>
    if channel.presence.has userId then some (channel.presence.delete userId) else none
  | .adoptPresence _ userId presence _ => some (channel.presence.set userId presence)
  | .mergePresence event userId changed _ =>
    if event.event = "LEAVE" then
      if channel.presence.has userId then some (channel.presence.delete userId) else none
    else some (channel.presence.set userId changed)
  | .dropUsers users =>
    if users.any channel.presence.has then
      some (users.foldl (fun presence userId => presence.delete userId) channel.presence)
    else none
  | _ => none

namespace ViewRun

def start (name endpointPath : String) (nodeId : NodeId) (pubsub : Bool) (dispatchConcurrency : Nat)
    (transports : List Transport) : ViewRun where
  channel :=
    { Channel.new name endpointPath nodeId pubsub with
      active := true
      connections := transports.foldl (fun connections transport => connections.set transport.id transport) .empty }
  tasks := []
  through := []
  ended := []
  permits := max dispatchConcurrency 1
  taken := 0
  current := none
  deliveries := []
  sent := []

def isActive (state : ViewRun) (transport : Transport) : Bool := decide (transport.serial ∉ state.ended)

def resumed (state : ViewRun) (place : Nat) : ViewRun :=
  { state with
    channel := (resume Channel.perform state.channel state.tasks place).1
    tasks := (resume Channel.perform state.channel state.tasks place).2
    through :=
      match (nextPiece state.tasks place).bind (Piece.rewrites state.channel) with
      | none => state.through
      | some next => state.channel.presence.keys.filter next.has }

def take (state : ViewRun) : ViewRun :=
  match state.current, state.channel.dispatched[state.taken]? with
  | none, some item =>
    if state.channel.active then { state with taken := state.taken + 1, current := some item } else state
  | _, _ => state

def spawn (state : ViewRun) : ViewRun :=
  match state.current with
  | none => state
  | some ⟨_, []⟩ => { state with current := none }
  | some ⟨event, recipientId :: rest⟩ =>
    if state.deliveries.length < state.permits then
      { state with
        deliveries := state.deliveries ++ [⟨event, recipientId, .looking⟩]
        current := some ⟨event, rest⟩ }
    else state

-- What deliver_one does next, or none when it returns.
def nextPhase (state : ViewRun) (recipientId : UserId) : ViewPhase → Option ViewPhase
  | .looking => (state.channel.connections.get? recipientId).map .checking
  | .checking transport => if state.isActive transport then some (.reading transport) else none
  | .reading transport => if state.channel.connections.has recipientId then some (.sending transport) else none
  | .sending _ => none

def sending (state : ViewRun) (event : Event) : ViewPhase → List (Transport × Event)
  | .sending transport => if state.isActive transport then [(transport, event)] else []
  | _ => []

def advance (deliveries : List ViewTask) (place : Nat) (task : ViewTask) : Option ViewPhase → List ViewTask
  | none => deliveries.eraseIdx place
  | some phase => deliveries.set place { task with phase := phase }

def deliver (state : ViewRun) (place : Nat) : ViewRun :=
  match state.deliveries[place]? with
  | none => state
  | some task =>
    { state with
      deliveries := advance state.deliveries place task (state.nextPhase task.recipientId task.phase)
      sent := state.sent ++ state.sending task.event task.phase }

def step (state : ViewRun) : ViewStep → ViewRun
  | .call call => { state with tasks := state.tasks ++ [call.pieces] }
  | .receive moment data => { state with tasks := state.tasks ++ [state.channel.receivePieces moment data] }
  | .resume place => state.resumed place
  | .connectionEnds serial => { state with ended := serial :: state.ended }
  | .take => state.take
  | .spawn => state.spawn
  | .deliver place => state.deliver place

def tells (event : Event) : Option (Option (List Json)) :=
  if event.action = "PRESENCE" then some ((get event.payload "presence").bind asSlice) else none

def Carries (event : Event) (presence : OrderedMap UserId Table) : Prop :=
  ∃ list, tells event = some (some list) ∧ list.Perm (presence.values.map tableJson)

def Connected (state : ViewRun) (userId : UserId) (transport : Transport) : Prop :=
  state.channel.connections.get? userId = some transport ∧ transport.serial ∉ state.ended

def told (state : ViewRun) (transport : Transport) : List (Option (List Json)) :=
  (state.sent.filter fun sending => sending.1 = transport).filterMap fun sending => tells sending.2

def Agree (state : ViewRun) : Prop :=
  ∀ userId transport, state.Connected userId transport → state.channel.presence.has userId = true →
    userId ∈ state.through → ∃ list, (state.told transport).getLast? = some (some list) ∧
      list.Perm (state.channel.presence.values.map tableJson)

def Settled (state : ViewRun) : Prop :=
  Idle state.tasks ∧ state.channel.dispatched.length ≤ state.taken ∧ state.current = none ∧ state.deliveries = []

end ViewRun

open ViewRun (Carries)

-- The sections that end in an event for a tracked user with the presences there are;
-- room: the queue takes it before the timeout.
def Piece.Tells (presence : OrderedMap UserId Table) (userId : UserId) : Piece → Prop
  | .snapshot _ _ _ moment => moment.room = true
  | .remoteSnapshot event room => room = true ∧ event.action = "PRESENCE" ∧ ∃ fields, event.payload = .object fields
  | .enqueue event recipients room => room = true ∧ userId ∈ recipients ∧ Carries event presence
  | _ => False

namespace ViewRun

def Told (pending : Piece → Prop) (presence : OrderedMap UserId Table) (userId : UserId) : Prop :=
  ∃ piece, pending piece ∧ piece.Tells presence userId

-- A change of the map leaves the list as it was, or an event with the list is to come.
def Foretold (state : ViewRun) (pending : Piece → Prop) (next : OrderedMap UserId Table) : Prop :=
  ∀ userId transport, state.Connected userId transport → next.has userId = true →
    state.channel.presence.has userId = true ∧
        (next.values.map tableJson).Perm (state.channel.presence.values.map tableJson) ∨
      Told pending next userId

-- A list that is put in the queue is the one of the map, or an event with it is to come.
def Timely (state : ViewRun) (others : Piece → Prop) (event : Event) (recipients : List UserId) : Prop :=
  tells event ≠ none → ∀ userId ∈ recipients, ∀ transport, state.Connected userId transport →
    state.channel.presence.has userId = true →
      Carries event state.channel.presence ∨ Told others state.channel.presence userId

-- A presence is sent only when no older one is still to be sent to the same user.
def Ordered (state : ViewRun) (place : Nat) (task : ViewTask) : Prop :=
  tells task.event ≠ none → ∀ older ∈ state.deliveries.take place,
    older.recipientId = task.recipientId → tells older.event = none

def InTurn (state : ViewRun) : ViewStep → Prop
  | .call (.addUser _ _ _) => False
  | .resume place => ∀ piece, nextPiece state.tasks place = some piece →
      (∀ next, piece.rewrites state.channel = some next →
        state.Foretold (fun other => other ∈ (state.channel.perform piece).2 ∨ Pending (others state.tasks place) other)
          next) ∧
      ∀ event recipients, piece = .enqueue event recipients true →
        state.Timely (Pending (others state.tasks place)) event recipients
  | .deliver place => ∀ task, state.deliveries[place]? = some task →
      (∃ transport, task.phase = .sending transport) → state.Ordered place task
  | _ => True

def itemTells (userId : UserId) (item : DispatchItem) : List (Option (List Json)) :=
  (item.recipients.filter fun recipient => recipient = userId).filterMap fun _ => tells item.event

def delivering (state : ViewRun) (userId : UserId) : List (Option (List Json)) :=
  (state.deliveries.filter fun task => task.recipientId = userId).filterMap fun task => tells task.event

def queued (state : ViewRun) (userId : UserId) : List (Option (List Json)) :=
  state.current.toList.flatMap (itemTells userId) ++ (state.channel.dispatched.drop state.taken).flatMap (itemTells userId)

def awaited (state : ViewRun) (userId : UserId) (transport : Transport) : Option (Option (List Json)) :=
  (state.told transport ++ (state.delivering userId ++ state.queued userId)).getLast?

def Covered (state : ViewRun) (userId : UserId) (transport : Transport) : Prop :=
  Told (Pending state.tasks) state.channel.presence userId ∨
    ∃ list, state.awaited userId transport = some (some list) ∧
      list.Perm (state.channel.presence.values.map tableJson)

end ViewRun

def Piece.Connects : Piece → Prop
  | .addActive _ _ _ | .addConnection _ _ _ => True
  | _ => False

namespace ViewRun

structure Sound (state : ViewRun) : Prop where
  joinless : ∀ piece, Pending state.tasks piece → ¬ piece.Connects
  keyed : ∀ userId transport, state.channel.connections.get? userId = some transport → transport.id = userId
  behind : state.taken ≤ state.channel.dispatched.length
  carried : ∀ task ∈ state.deliveries, ∀ transport, task.phase.transport = some transport →
    transport.id = task.recipientId ∧
      ∀ other, state.channel.connections.get? task.recipientId = some other → other = transport
  covered : ∀ userId transport, state.Connected userId transport →
    state.channel.presence.has userId = true → state.Covered userId transport

theorem sound_agree (state : ViewRun) (sound : state.Sound) (settled : state.Settled) : state.Agree := by
  obtain ⟨idle, empty, none, done⟩ := settled
  intro userId transport connected tracked _
  rcases sound.covered userId transport connected tracked with told | listed
  · obtain ⟨piece, pending, _⟩ := told
    exact absurd pending ((idle_iff _).mp idle piece)
  have drained : state.channel.dispatched.drop state.taken = [] := drop_eq_nil_of_le empty
  simpa only [awaited, delivering, queued, none, done, drained, filter_nil, filterMap_nil, flatMap_nil,
    toList_none, append_nil] using listed

end ViewRun

variable {userId : UserId} {event : Event}

def Piece.queues : Piece → List DispatchItem
  | .enqueue event recipients true => [⟨event, recipients⟩]
  | _ => []

namespace Channel

variable (channel : Channel)

variable {piece : Piece} {nodeId : NodeId}

variable {presence : OrderedMap UserId Table}

theorem delete_rewrites :
    (if presence.has userId then some (presence.delete userId) else none).getD presence = presence.delete userId := by
  cases known : presence.has userId with
  | true => rfl
  | false => exact (delete_absent known).symm

theorem delete_all_absent {users : List UserId} (presence : OrderedMap UserId Table)
    (absent : users.any presence.has = false) :
    users.foldl (fun presence userId => presence.delete userId) presence = presence := by
  induction users generalizing presence with
  | nil => rfl
  | cons _ _ ih =>
    simp only [any_cons, Bool.or_eq_false_iff] at absent
    rw [foldl_cons, delete_absent absent.1]
    exact ih presence absent.2

theorem perform_presence :
    (channel.perform piece).1.presence = (piece.rewrites channel).getD channel.presence := by
  cases piece with
  | track | update =>
    simp only [perform, Piece.rewrites]
    split <;> rfl
  | untrack | removePresence | dropPresence => exact delete_rewrites.symm
  | mergePresence =>
    simp only [perform, Piece.rewrites]
    split
    · exact delete_rewrites.symm
    · rfl
  | dropUsers users =>
    simp only [perform, Piece.rewrites]
    cases held : users.any channel.presence.has with
    | true => rfl
    | false => exact delete_all_absent channel.presence held
  | addConnection | removeConnection | heartbeat =>
    simp only [perform, Piece.rewrites, getD_none]
    split <;> rfl
  | publish | userGet => exact channel.publish_still.presence
  | enqueue => exact channel.enqueue_still.presence
  | remoteAssigns => exact channel.remote_assigns_keys.1
  | stateRequest => exact channel.state_request_still.presence
  | dropNodeUser nodeId userId => exact (channel.untrack_rest nodeId userId).2.1
  | _ => rfl

theorem publish_dispatched {subtype : String} :
    (channel.publishEventToPubsub event subtype).dispatched = channel.dispatched := by
  rw [publishEventToPubsub]
  split <;> rfl

theorem perform_dispatched : (channel.perform piece).1.dispatched = channel.dispatched ++ piece.queues := by
  cases piece with
  | enqueue event recipients room =>
    cases room with
    | true => rfl
    | false => exact (append_nil _).symm
  | addConnection | removeConnection | heartbeat | track | update =>
    simp only [perform, Piece.queues, append_nil]
    split <;> rfl
  | publish | userGet => exact channel.publish_dispatched.trans (append_nil _).symm
  | remoteAssigns =>
    simp only [perform, handleRemoteAssigns, Piece.queues, append_nil]
    repeat' split
    all_goals rfl
  | stateRequest =>
    simp only [perform, handleStateRequest, Piece.queues, append_nil]
    split
    · rfl
    · exact channel.publish_dispatched
  | dropNodeUser =>
    simp only [perform, untrackNodeUser, Piece.queues, append_nil]
    repeat' split
    all_goals rfl
  | _ => exact (append_nil _).symm

theorem perform_connections (joinless : ¬ piece.Connects) (userId : UserId)
    (transport : Transport) (found : (channel.perform piece).1.connections.get? userId = some transport) :
    channel.connections.get? userId = some transport := by
  cases piece with
  | addActive | addConnection => exact absurd trivial joinless
  | removeConnection =>
    simp only [perform] at found
    split at found
    · rw [get_delete] at found
      split at found
      · cases found
      · exact found
    · exact found
  | heartbeat | track | update =>
    simp only [perform] at found
    split at found <;> exact found
  | publish | userGet =>
    simp only [perform, channel.publish_still.connections] at found
    exact found
  | enqueue =>
    simp only [perform, channel.enqueue_still.connections] at found
    exact found
  | remoteAssigns =>
    simp only [perform, channel.remote_assigns_keys.2.1] at found
    exact found
  | stateRequest =>
    simp only [perform, channel.state_request_still.connections] at found
    exact found
  | dropNodeUser nodeId other =>
    simp only [perform, (channel.untrack_rest nodeId other).2.2.1] at found
    exact found
  | _ => exact found

variable {now : Nat}

theorem track_joinless {piece : Piece} (connects : piece.Connects) : piece ∉ trackPieces nodeId userId now := by
  intro member
  rw [trackPieces] at member
  split at member
  · cases member
  · rw [mem_singleton.mp member] at connects
    exact connects

theorem presence_joinless {presence : Option Table} {piece : Piece} (connects : piece.Connects) :
    piece ∉ presencePieces nodeId userId now presence := by
  cases presence with
  | none => exact track_joinless connects
  | some =>
    intro member
    rw [presencePieces] at member
    split at member
    · exact track_joinless connects member
    · rw [mem_singleton.mp member] at connects
      exact connects

theorem assigns_joinless {assigns presence : Option Table} {piece : Piece} (connects : piece.Connects) :
    piece ∉ assignsPieces nodeId userId now presence assigns := by
  cases assigns with
  | none => exact presence_joinless connects
  | some =>
    intro member
    rw [mem_singleton.mp member] at connects
    exact connects

theorem perform_joinless {piece later : Piece} (joinless : ¬ piece.Connects) (connects : later.Connects) :
    later ∉ (channel.perform piece).2 := by
  intro member
  cases piece with
  | addActive | addConnection => exact joinless trivial
  | adopt =>
    simp only [perform] at member
    split at member
    · cases member
    · exact assigns_joinless connects member
  | adoptAssigns => exact presence_joinless connects member
  | adoptPresence => exact track_joinless connects member
  | _ =>
    cases later with
    | addActive | addConnection =>
      simp only [perform] at member
      repeat' split at member
      all_goals simp at member
    | _ => exact connects

theorem receive_joinless {moment : Moment} {data : Json} {piece : Piece} (connects : piece.Connects) :
    piece ∉ channel.receivePieces moment data := by
  intro member
  cases piece with
  | addActive | addConnection =>
    simp only [receivePieces, dispatchPieces] at member
    repeat' split at member
    all_goals simp at member
  | _ => exact connects

theorem snapshot_carries {uuid : String} {eventType : PresenceEventType} {changed : Table} :
    Carries (channel.presenceChange uuid userId eventType changed) channel.presence :=
  ⟨channel.presence.values.map tableJson, rfl, List.Perm.refl _⟩

theorem remote_carries {fields : List (String × Json)} (presence : event.action = "PRESENCE")
    (payload : event.payload = .object fields) :
    Carries { event with payload := setPresence event.payload channel.localPresenceSnapshot.1 } channel.presence := by
  refine ⟨channel.presence.values.map tableJson, ?_, List.Perm.refl _⟩
  have read : get (setPresence event.payload channel.localPresenceSnapshot.1) "presence" =
      some (.array (channel.presence.values.map tableJson)) := by
    rw [payload, setPresence, get_object, find_entry_put, if_pos rfl]
    rfl
  rw [ViewRun.tells, if_pos presence]
  rw [read]
  rfl

theorem tells_succeeds (tracked : channel.presence.has userId = true) (tells : piece.Tells channel.presence userId)
    (other : ∀ event recipients, piece ≠ .enqueue event recipients true) :
    ∃ later ∈ (channel.perform piece).2, later.Tells channel.presence userId := by
  have among : userId ∈ channel.presence.keys := mem_keys.mpr tracked
  have somebody : channel.localPresenceSnapshot.2.isEmpty = false := by
    rw [Bool.eq_false_iff, Ne, List.isEmpty_iff]
    intro nobody
    have empty : channel.presence.keys = [] := nobody
    rw [empty] at among
    exact not_mem_nil among
  cases piece with
  | snapshot about eventType changed moment =>
    refine ⟨.enqueue (channel.presenceChange moment.uuid about eventType changed) channel.localPresenceSnapshot.2
      moment.room, ?_, tells, among, channel.snapshot_carries⟩
    simp only [perform, somebody, Bool.false_eq_true, if_false]
    exact mem_append_left _ mem_cons_self
  | remoteSnapshot event room =>
    obtain ⟨takes, presence, _, payload⟩ := tells
    refine ⟨.enqueue { event with payload := setPresence event.payload channel.localPresenceSnapshot.1 }
      channel.localPresenceSnapshot.2 room, ?_, takes, among, channel.remote_carries presence payload⟩
    simp only [perform, somebody, Bool.false_eq_true, if_false]
    exact mem_cons_self
  | enqueue event recipients =>
    obtain ⟨takes, _⟩ := tells
    subst takes
    exact absurd rfl (other event recipients)
  | _ => exact tells.elim

theorem rewrites_silent {next : OrderedMap UserId Table} (rewrites : piece.rewrites channel = some next) :
    ¬ piece.Tells presence userId := by
  intro tells
  cases piece with
  | snapshot | remoteSnapshot | enqueue => cases rewrites
  | _ => exact tells

end Channel

namespace ViewRun

variable (state : ViewRun) (place : Nat) {deliveries : List ViewTask}

theorem tells_perm {piece : Piece} {before after : OrderedMap UserId Table}
    (same : (after.values.map tableJson).Perm (before.values.map tableJson)) (tells : piece.Tells before userId) :
    piece.Tells after userId := by
  cases piece with
  | snapshot | remoteSnapshot => exact tells
  | enqueue =>
    obtain ⟨takes, among, list, told, perm⟩ := tells
    exact ⟨takes, among, list, told, perm.trans same.symm⟩
  | _ => exact tells.elim

theorem resumed_some (piece : Piece) (next : nextPiece state.tasks place = some piece) :
    (state.resumed place).channel = (state.channel.perform piece).1 ∧
      ∀ other, Pending (state.resumed place).tasks other ↔
        other ∈ (state.channel.perform piece).2 ∨ Pending (others state.tasks place) other :=
  ⟨resume_state next, fun other => pending_after next⟩

variable {recipients : List UserId}

theorem item_tells_last :
    (itemTells userId ⟨event, recipients⟩).getLast? = if userId ∈ recipients then tells event else none := by
  rw [itemTells]
  cases heard : tells event with
  | none => simp
  | some =>
    induction recipients with
    | nil => rfl
    | cons first rest ih =>
      by_cases same : first = userId
      · rw [filter_cons_of_pos (by simpa using same), if_pos (by simp [same])]
        simp only [filterMap_cons, getLast?_cons, ih]
        split <;> rfl
      have apart : userId ∈ first :: rest ↔ userId ∈ rest := by
        rw [mem_cons]
        exact or_iff_right fun equal => same equal.symm
      rw [filter_cons_of_neg (by simpa using same), ih]
      simp [apart]

theorem awaited_queued (state : ViewRun) {after : ViewRun} {items : List DispatchItem} (userId : UserId)
    (transport : Transport) (queue : after.channel.dispatched = state.channel.dispatched ++ items)
    (rest : after.sent = state.sent ∧ after.deliveries = state.deliveries ∧ after.current = state.current ∧
      after.taken = state.taken) (behind : state.taken ≤ state.channel.dispatched.length) :
    after.awaited userId transport =
      (items.flatMap (itemTells userId)).getLast?.or (state.awaited userId transport) := by
  obtain ⟨sent, deliveries, current, taken⟩ := rest
  have grown : after.queued userId = state.queued userId ++ items.flatMap (itemTells userId) := by
    rw [queued, queued, queue, current, taken, drop_append_of_le_length behind, flatMap_append, append_assoc]
  rw [awaited, awaited, grown, told, told, delivering, delivering, sent, deliveries, ← append_assoc, ← append_assoc,
    getLast?_append, append_assoc]

variable {place}

-- After a section a tracked user is to be told of the map, is told by what was queued,
-- or was covered before and still is.
theorem resumed_covers {piece : Piece} {transport : Transport} (connected : state.Connected userId transport)
    (foretold : ∀ after, piece.rewrites state.channel = some after →
      state.Foretold (fun other => other ∈ (state.channel.perform piece).2 ∨ Pending (others state.tasks place) other) after)
    (timely : ∀ event recipients, piece = .enqueue event recipients true →
      state.Timely (Pending (others state.tasks place)) event recipients)
    (tracked : ((piece.rewrites state.channel).getD state.channel.presence).has userId = true) :
    Told (fun other => other ∈ (state.channel.perform piece).2 ∨ Pending (others state.tasks place) other)
        ((piece.rewrites state.channel).getD state.channel.presence) userId ∨
      (∃ list, (piece.queues.flatMap (itemTells userId)).getLast? = some (some list) ∧
        list.Perm (((piece.rewrites state.channel).getD state.channel.presence).values.map tableJson)) ∨
      (piece.queues.flatMap (itemTells userId)).getLast? = none ∧ ¬ piece.Tells state.channel.presence userId ∧
        state.channel.presence.has userId = true ∧
        (((piece.rewrites state.channel).getD state.channel.presence).values.map tableJson).Perm
          (state.channel.presence.values.map tableJson) := by
  cases rewrites : piece.rewrites state.channel with
  | some after =>
    rw [rewrites] at tracked
    rcases foretold after rewrites userId transport connected tracked with before | told
    · refine .inr (.inr ⟨?_, state.channel.rewrites_silent rewrites, before⟩)
      cases piece with
      | enqueue => cases rewrites
      | _ => rfl
    · exact .inl told
  | none =>
    rw [rewrites] at tracked
    by_cases queues : ∃ event recipients, piece = .enqueue event recipients true
    · obtain ⟨event, recipients, rfl⟩ := queues
      simp only [Piece.queues, flatMap_cons, flatMap_nil, append_nil, item_tells_last]
      by_cases heard : userId ∈ recipients ∧ tells event ≠ none
      · rw [if_pos heard.1]
        rcases timely event recipients rfl heard.2 userId heard.1 transport connected tracked with carries | told
        · exact .inr (.inl carries)
        · obtain ⟨teller, waits, tells⟩ := told
          exact .inl ⟨teller, .inr waits, tells⟩
      refine .inr (.inr ⟨?_, ?_, tracked, List.Perm.refl _⟩)
      · split
        · rename_i among
          exact not_not.mp fun told => heard ⟨among, told⟩
        · rfl
      · intro told
        obtain ⟨_, among, _, told, _⟩ := told
        rw [told] at heard
        exact heard ⟨among, some_ne_none _⟩
    have other : ∀ event recipients, piece ≠ .enqueue event recipients true :=
      fun event recipients same => queues ⟨event, recipients, same⟩
    by_cases told : piece.Tells state.channel.presence userId
    · obtain ⟨later, member, tells⟩ := state.channel.tells_succeeds tracked told other
      exact .inl ⟨later, .inl member, tells⟩
    refine .inr (.inr ⟨?_, told, tracked, List.Perm.refl _⟩)
    cases piece with
    | enqueue event recipients room =>
      cases room with
      | true => exact absurd rfl (other event recipients)
      | false => rfl
    | _ => rfl

theorem sound_resumed {piece : Piece} (next : nextPiece state.tasks place = some piece)
    (sound : state.Sound)
    (foretold : ∀ after, piece.rewrites state.channel = some after →
      state.Foretold (fun other => other ∈ (state.channel.perform piece).2 ∨ Pending (others state.tasks place) other) after)
    (timely : ∀ event recipients, piece = .enqueue event recipients true →
      state.Timely (Pending (others state.tasks place)) event recipients) :
    (state.resumed place).Sound := by
  obtain ⟨channel, pending⟩ := state.resumed_some place piece next
  have before := pending_before state.tasks place piece
  have joinless : ¬ piece.Connects := sound.joinless piece ((before piece next).mpr (.inl rfl))
  have connections : ∀ userId transport, (state.resumed place).channel.connections.get? userId = some transport →
      state.channel.connections.get? userId = some transport := by
    rw [channel]
    exact state.channel.perform_connections joinless
  have presence : (state.resumed place).channel.presence = (piece.rewrites state.channel).getD state.channel.presence := by
    rw [channel]
    exact state.channel.perform_presence
  have queue : (state.resumed place).channel.dispatched = state.channel.dispatched ++ piece.queues := by
    rw [channel]
    exact state.channel.perform_dispatched
  refine ⟨?_, ?_, ?_, ?_, ?_⟩
  · intro other waits connects
    rcases (pending other).mp waits with new | waits
    · exact state.channel.perform_joinless joinless connects new
    · exact sound.joinless other ((before other next).mpr (.inr waits)) connects
  · exact fun userId transport found => sound.keyed userId transport (connections userId transport found)
  · rw [queue, length_append]
    exact sound.behind.trans (Nat.le_add_right _ _)
  · intro task member transport carries
    obtain ⟨named, same⟩ := sound.carried task member transport carries
    exact ⟨named, fun other found => same other (connections _ other found)⟩
  · intro userId transport connected tracked
    have was : state.Connected userId transport := ⟨connections userId transport connected.1, connected.2⟩
    rw [presence] at tracked
    rw [Covered, state.awaited_queued userId transport queue ⟨rfl, rfl, rfl, rfl⟩ sound.behind, presence]
    rcases state.resumed_covers was foretold timely tracked with told | listed | same
    · obtain ⟨teller, waits, tells⟩ := told
      exact .inl ⟨teller, (pending teller).mpr waits, tells⟩
    · obtain ⟨list, told, perm⟩ := listed
      refine .inr ⟨list, ?_, perm⟩
      rw [told, some_or]
    obtain ⟨unheard, silent, known, same⟩ := same
    rw [unheard, none_or]
    rcases sound.covered userId transport was known with told | listed
    · obtain ⟨teller, waits, tells⟩ := told
      rcases (before teller next).mp waits with rfl | waits
      · exact absurd tells silent
      · exact .inl ⟨teller, (pending teller).mpr (.inr waits), tells_perm same tells⟩
    · obtain ⟨list, told, perm⟩ := listed
      exact .inr ⟨list, told, perm.trans same.symm⟩

theorem sound_spawned {task : List Piece} (sound : state.Sound)
    (joinless : ∀ piece ∈ task, ¬ piece.Connects) : ({ state with tasks := state.tasks ++ [task] } : ViewRun).Sound := by
  refine ⟨?_, sound.keyed, sound.behind, sound.carried, ?_⟩
  · intro piece waits
    rcases (pending_concat _).mp waits with waits | new
    · exact sound.joinless piece waits
    · exact joinless piece new
  intro userId transport connected tracked
  refine (sound.covered userId transport connected tracked).imp_left ?_
  intro told
  obtain ⟨teller, waits, tells⟩ := told
  exact ⟨teller, (pending_concat _).mpr (.inl waits), tells⟩

theorem sound_ends {serial : Nat} (sound : state.Sound) :
    ({ state with ended := serial :: state.ended } : ViewRun).Sound := by
  refine ⟨sound.joinless, sound.keyed, sound.behind, sound.carried, ?_⟩
  intro userId transport connected tracked
  exact sound.covered userId transport ⟨connected.1, fun ended => connected.2 (mem_cons_of_mem _ ended)⟩ tracked

theorem sound_moved (state after : ViewRun) (sound : state.Sound) (channel : after.channel = state.channel)
    (tasks : after.tasks = state.tasks) (ended : after.ended = state.ended)
    (behind : after.taken ≤ state.channel.dispatched.length)
    (carried : ∀ task ∈ after.deliveries, task ∈ state.deliveries ∨ task.phase.transport = none)
    (awaits : ∀ userId transport, after.awaited userId transport = state.awaited userId transport) : after.Sound := by
  refine ⟨?_, ?_, ?_, ?_, ?_⟩
  · rw [tasks]
    exact sound.joinless
  · rw [channel]
    exact sound.keyed
  · rw [channel]
    exact behind
  · rw [channel]
    intro task member transport carries
    rcases carried task member with before | none
    · exact sound.carried task before transport carries
    · rw [none] at carries
      cases carries
  · intro userId transport connected tracked
    simp only [Connected, channel, ended] at connected
    rw [channel] at tracked
    have covered := sound.covered userId transport connected tracked
    simp only [Covered, awaits, tasks, channel] at covered ⊢
    exact covered

theorem sound_take (sound : state.Sound) : state.take.Sound := by
  rw [take]
  split
  · rename_i item none found
    split
    · obtain ⟨inside, same⟩ := List.getElem?_eq_some_iff.mp found
      refine state.sound_moved _ sound rfl rfl rfl inside (fun _ => .inl) ?_
      intro userId transport
      have queue : state.queued userId =
          itemTells userId item ++ (state.channel.dispatched.drop (state.taken + 1)).flatMap (itemTells userId) := by
        rw [queued, none, drop_eq_getElem_cons inside, same]
        rfl
      rw [awaited, awaited, queue]
      simp only [queued, toList_some, flatMap_cons, flatMap_nil, append_nil]
      rfl
    · exact sound
  · exact sound

theorem sound_spawn (sound : state.Sound) : state.spawn.Sound := by
  rw [spawn]
  split
  · exact sound
  · rename_i event current
    refine state.sound_moved _ sound rfl rfl rfl sound.behind (fun _ => .inl) ?_
    intro userId transport
    have queue : state.queued userId = (state.channel.dispatched.drop state.taken).flatMap (itemTells userId) := by
      rw [queued, current]
      rfl
    rw [awaited, awaited, queue]
    rfl
  · rename_i event recipientId rest current
    split
    · refine state.sound_moved _ sound rfl rfl rfl sound.behind ?_ ?_
      · intro task member
        rcases mem_append.mp member with before | new
        · exact .inl before
        · rw [mem_singleton.mp new]
          exact .inr rfl
      · intro userId transport
        have first : itemTells userId ⟨event, recipientId :: rest⟩ =
            ([(⟨event, recipientId, .looking⟩ : ViewTask)].filter fun task => task.recipientId = userId).filterMap
              (fun task => tells task.event) ++ itemTells userId ⟨event, rest⟩ := by
          by_cases same : recipientId = userId
          · cases heard : tells event <;> simp [itemTells, same, heard]
          · simp [itemTells, same]
        rw [awaited, awaited, queued, queued, current]
        simp only [toList_some, flatMap_cons, flatMap_nil, append_nil, first, delivering,
          filter_append, filterMap_append, append_assoc]
        rfl
    · exact sound

theorem told_sent (extra : List (Transport × Event)) (transport : Transport) :
    ({ state with deliveries := deliveries, sent := state.sent ++ extra } : ViewRun).told transport =
      state.told transport ++
        (extra.filter fun sending => sending.1 = transport).filterMap fun sending => tells sending.2 := by
  simp [told]

variable {task : ViewTask}

theorem split_at {place : Nat} (found : deliveries[place]? = some task) :
    deliveries = deliveries.take place ++ task :: deliveries.drop (place + 1) := by
  obtain ⟨inside, same⟩ := List.getElem?_eq_some_iff.mp found
  rw [← same, getElem_cons_drop inside, take_append_drop]

theorem advance_split {place : Nat} (phase : Option ViewPhase) (found : deliveries[place]? = some task) :
    advance deliveries place task phase = deliveries.take place ++
      (phase.toList.map fun phase => { task with phase := phase }) ++ deliveries.drop (place + 1) := by
  obtain ⟨inside, _⟩ := List.getElem?_eq_some_iff.mp found
  cases phase with
  | none => simp [advance, eraseIdx_eq_take_drop_succ]
  | some => simp [advance, set_eq_take_append_cons_drop, inside]

theorem mem_advance {place : Nat} {other : ViewTask} {phase : Option ViewPhase}
    (member : other ∈ advance deliveries place task phase) :
    other ∈ deliveries ∨ ∃ next, phase = some next ∧ other = { task with phase := next } := by
  cases phase with
  | none => exact .inl (mem_of_mem_eraseIdx member)
  | some next =>
    rcases mem_or_eq_of_mem_set member with before | same
    · exact .inl before
    · exact .inr ⟨next, rfl, same⟩

theorem next_phase_none (sound : state.Sound) (member : task ∈ state.deliveries) {transport : Transport}
    (connected : state.Connected task.recipientId transport)
    (dropped : state.nextPhase task.recipientId task.phase = none) : task.phase = .sending transport := by
  have carried := sound.carried task member
  cases phase : task.phase with
  | looking =>
    rw [phase, nextPhase, connected.1] at dropped
    cases dropped
  | checking other =>
    have same := (carried other (by rw [phase]; rfl)).2 transport connected.1
    rw [phase, ← same] at dropped
    simp only [nextPhase, isActive, decide_eq_true connected.2, if_true] at dropped
    cases dropped
  | reading =>
    have there : state.channel.connections.has task.recipientId = true :=
      has_iff.mpr ⟨transport, connected.1⟩
    rw [phase] at dropped
    simp only [nextPhase, there, if_true] at dropped
    cases dropped
  | sending other => rw [(carried other (by rw [phase]; rfl)).2 transport connected.1]

theorem next_phase_carries (recipientId : UserId) (phase next : ViewPhase)
    (goes : state.nextPhase recipientId phase = some next) (transport : Transport)
    (carries : next.transport = some transport) :
    phase.transport = some transport ∨ state.channel.connections.get? recipientId = some transport := by
  cases phase with
  | looking =>
    simp only [nextPhase, map_eq_some_iff] at goes
    obtain ⟨other, found, rfl⟩ := goes
    exact .inr (found.trans carries)
  | checking other | reading other =>
    simp only [nextPhase] at goes
    split at goes
    · cases goes
      exact .inl carries
    · cases goes
  | sending => cases goes

theorem delivering_advance (phase : Option ViewPhase) (found : state.deliveries[place]? = some task)
    (sent : List (Transport × Event)) (userId : UserId) :
    ({ state with deliveries := advance state.deliveries place task phase, sent := sent } : ViewRun).delivering userId =
      ({ state with deliveries := state.deliveries.take place } : ViewRun).delivering userId ++
        ((if task.recipientId = userId ∧ phase.isSome = true then (tells task.event).toList else []) ++
          ({ state with deliveries := state.deliveries.drop (place + 1) } : ViewRun).delivering userId) := by
  have middle : ((phase.toList.map fun phase => ({ task with phase := phase } : ViewTask)).filter
      fun task => task.recipientId = userId).filterMap (fun task => tells task.event) =
        if task.recipientId = userId ∧ phase.isSome = true then (tells task.event).toList else [] := by
    cases phase with
    | none => simp
    | some =>
      by_cases same : task.recipientId = userId
      · cases heard : tells task.event <;> simp [same, heard]
      · simp [same]
  simp [delivering, advance_split phase found, middle]

theorem delivering_split (found : state.deliveries[place]? = some task) (userId : UserId) :
    state.delivering userId = ({ state with deliveries := state.deliveries.take place } : ViewRun).delivering userId ++
      ((if task.recipientId = userId then (tells task.event).toList else []) ++
        ({ state with deliveries := state.deliveries.drop (place + 1) } : ViewRun).delivering userId) := by
  have same : advance state.deliveries place task (some task.phase) = state.deliveries := by
    rw [advance_split _ found]
    conv_rhs => rw [split_at found]
    rw [toList_some, map_cons, map_nil, append_assoc, singleton_append]
  have split := state.delivering_advance (some task.phase) found state.sent userId
  rw [same] at split
  simpa only [isSome_some, and_true] using split

theorem awaited_deliver (sound : state.Sound) (found : state.deliveries[place]? = some task)
    (ordered : (∃ transport, task.phase = .sending transport) → state.Ordered place task) {transport : Transport}
    (connected : state.Connected userId transport) :
    ({ state with
      deliveries := advance state.deliveries place task (state.nextPhase task.recipientId task.phase)
      sent := state.sent ++ state.sending task.event task.phase } : ViewRun).awaited userId transport =
        state.awaited userId transport := by
  have member : task ∈ state.deliveries := mem_of_getElem? found
  have queue : ({ state with
      deliveries := advance state.deliveries place task (state.nextPhase task.recipientId task.phase)
      sent := state.sent ++ state.sending task.event task.phase } : ViewRun).queued userId = state.queued userId := rfl
  rw [awaited, awaited, told_sent, delivering_advance state _ found, state.delivering_split found, queue]
  have unsent : task.phase ≠ .sending transport →
      ((state.sending task.event task.phase).filter fun sending => sending.1 = transport) = [] := by
    intro apart
    cases phase : task.phase with
    | sending =>
      simp only [sending]
      split
      · refine filter_cons_of_neg ?_
        simp only [decide_eq_true_eq]
        intro same
        exact apart (phase.trans (congrArg ViewPhase.sending same))
      · rfl
    | looking | checking | reading => rfl
  by_cases mine : task.recipientId = userId
  · subst mine
    cases goes : state.nextPhase task.recipientId task.phase with
    | none =>
      have sends := state.next_phase_none sound member connected goes
      have given : ((state.sending task.event task.phase).filter fun sending => sending.1 = transport).filterMap
          (fun sending => tells sending.2) = (tells task.event).toList := by
        rw [sends]
        simp only [sending, isActive, decide_eq_true connected.2, if_true]
        cases heard : tells task.event <;> simp [heard]
      rw [given, if_neg (by simp), if_pos rfl]
      cases heard : tells task.event with
      | none => simp
      | some =>
        have first : ({ state with deliveries := state.deliveries.take place } : ViewRun).delivering
            task.recipientId = [] := by
          rw [delivering, filterMap_eq_nil_iff]
          intro older member
          obtain ⟨among, same⟩ := mem_filter.mp member
          refine ordered ⟨transport, sends⟩ ?_ older among (of_decide_eq_true same)
          rw [heard]
          intro same
          cases same
        rw [first]
        simp
    | some =>
      rw [unsent, if_pos ⟨rfl, rfl⟩, if_pos rfl, filterMap_nil, append_nil]
      intro sends
      rw [sends] at goes
      cases goes
  · rw [unsent, if_neg (fun both => mine both.1), if_neg mine, filterMap_nil, append_nil]
    intro sends
    have named := (sound.carried task member transport (by rw [sends]; rfl)).1
    exact mine (named.symm.trans (sound.keyed userId transport connected.1))

theorem sound_deliver (sound : state.Sound)
    (ordered : ∀ task, state.deliveries[place]? = some task → (∃ transport, task.phase = .sending transport) →
      state.Ordered place task) : (state.deliver place).Sound := by
  rw [deliver]
  cases found : state.deliveries[place]? with
  | none => exact sound
  | some task =>
    have member : task ∈ state.deliveries := mem_of_getElem? found
    refine ⟨sound.joinless, sound.keyed, sound.behind, ?_, ?_⟩
    · intro other held transport carries
      rcases mem_advance held with before | ⟨next, goes, rfl⟩
      · exact sound.carried other before transport carries
      rcases state.next_phase_carries _ _ next goes transport carries with before | connected
      · exact sound.carried task member transport before
      refine ⟨sound.keyed _ transport connected, fun third reads => ?_⟩
      rw [connected] at reads
      exact (some.inj reads).symm
    · intro userId transport connected tracked
      have awaits := state.awaited_deliver sound found (ordered task found) connected
      refine (sound.covered userId transport connected tracked).imp_right ?_
      intro listed
      rw [awaits]
      exact listed

theorem sound_step (label : ViewStep) (sound : state.Sound) (inTurn : state.InTurn label) :
    (state.step label).Sound := by
  cases label with
  | call call =>
    apply state.sound_spawned sound
    intro piece member connects
    cases call with
    | addUser => exact inTurn
    | trackPresence | updatePresence =>
      obtain ⟨_, _, rfl⟩ := mem_map.mp member
      exact connects
    | _ =>
      rw [mem_singleton.mp member] at connects
      exact connects
  | receive =>
    exact state.sound_spawned sound fun piece member connects =>
      state.channel.receive_joinless connects member
  | resume place =>
    cases next : nextPiece state.tasks place with
    | none =>
      have same : state.resumed place = state := by
        simp [resumed, resume_idle next, next]
      change (state.resumed place).Sound
      rw [same]
      exact sound
    | some piece =>
      obtain ⟨foretold, timely⟩ := inTurn piece next
      exact state.sound_resumed next sound foretold timely
  | connectionEnds => exact state.sound_ends sound
  | take => exact state.sound_take sound
  | spawn => exact state.sound_spawn sound
  | deliver => exact state.sound_deliver sound inTurn

variable {transports : List Transport}

theorem sound_start {name endpointPath : String} {nodeId : NodeId} {pubsub : Bool} {dispatchConcurrency : Nat} :
    (start name endpointPath nodeId pubsub dispatchConcurrency transports).Sound := by
  refine ⟨?_, ?_, Nat.zero_le _, ?_, ?_⟩
  · intro piece waits
    obtain ⟨task, member, _⟩ := waits
    cases member
  · intro userId transport found
    refine foldl_set_keyed Transport.id transports .empty ?_ found
    intro other transport none
    cases none
  · intro task member
    cases member
  · intro userId transport _ tracked
    cases tracked

def online : Json := .object [("status", .string "online")]

def member : Transport := ⟨"u", 0⟩

def clock : Moment := ⟨0, "event-1", true⟩

def trackedAlone : List ViewStep :=
  [.call (.trackPresence "u" online clock)] ++ List.replicate 4 (.resume 0) ++ [.take, .spawn, .spawn] ++
    List.replicate 4 (.deliver 0)

def fromNode (kind : MsgType) (extra : List (String × Json)) : ViewStep :=
  .receive clock (.object ([("protocol", .string "pondsocket.distributed"), ("version", .number 1),
    ("type", .string kind.text), ("messageId", .string "message-1"), ("sourceNodeId", .string "node-2"),
    ("endpointName", .string "ws"), ("channelName", .string "room"), ("timestamp", .number 0)] ++ extra))

def strangerLeaves : List ViewStep :=
  trackedAlone ++ [fromNode .presenceUpdate [("userId", .string "w"), ("presence", online)]] ++
    List.replicate 3 (.resume 1) ++ [.take, .spawn] ++ List.replicate 4 (.deliver 0) ++ [.spawn, .deliver 0, .spawn] ++
    [fromNode .userLeft [("userId", .string "w")]] ++ List.replicate 4 (.resume 2)

end ViewRun

end PondSocket.Rust
