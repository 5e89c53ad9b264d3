import Mathlib.Data.List.Permutation
import PondSocket.Js.ClientChannel

namespace PondSocket.Js

open Library List Option BehaviorSubject Channel

namespace Channel

variable (channel : Channel) (state : ConnectionState)

-- The observers of the connection state are those that the two handles name.
structure Watched (channel : Channel) : Prop where
  running : channel.closed = false
  waits : ∀ id, channel.clientState.observer? id = some .connectionWait ↔ channel.connectionWaitSub = some id
  follows : ∀ id, channel.clientState.observer? id = some .stateChange ↔ channel.presenceSub = some id
  synced : channel.joinState = .joined ∨ channel.joinState = .stalled → channel.presenceSub.isSome = true

-- What the wait observer does first when it fires.
def endWait (channel : Channel) : Channel :=
  { channel.unsubscribe channel.connectionWaitSub with connectionWaitSub := none }

def heard (channel : Channel) (state : ConnectionState) : Channel :=
  { channel with clientState := channel.clientState.hold state }

def asksAgain (channel : Channel) : Bool :=
  channel.joinState = .stalled || (channel.joinState = .joining && channel.connectionWaitSub.isSome)

def told (channel : Channel) (state : ConnectionState) : Channel :=
  if state = .connected then
    if channel.asksAgain then channel.endWait.sendJoinRequest else channel.endWait
  else if channel.joinState = .joined then channel.stall
  else channel

theorem watched_ids (watched : channel.Watched) :
    channel.clientState.ids.Perm (channel.connectionWaitSub.toList ++ channel.presenceSub.toList) := by
  refine (perm_ext_iff_of_nodup channel.clientState.ids_distinct ?_).mpr fun id => ?_
  · cases wait : channel.connectionWaitSub with
    | none => cases channel.presenceSub <;> simp
    | some waiting =>
      cases follow : channel.presenceSub with
      | none => simp
      | some following =>
        have first := (watched.waits waiting).mpr wait
        have second := (watched.follows following).mpr follow
        have different : waiting ≠ following := by
          intro same
          rw [same, second] at first
          cases first
        simpa using different
  · rw [mem_ids, mem_append, mem_toList, mem_toList, ← watched.waits, ← watched.follows]
    constructor
    · rintro ⟨observer, found⟩
      cases observer with
      | connectionWait => exact .inl found
      | stateChange => exact .inr found
    · rintro (found | found) <;> exact ⟨_, found⟩


variable {state}

variable {id : Nat}

theorem notify_wait (found : channel.clientState.observer? id = some .connectionWait)
    (handle : channel.connectionWaitSub = some id) :
    notify state channel id =
      if state = .connected then
        if channel.joinState = .joining then channel.endWait.sendJoinRequest else channel.endWait
      else channel := by
  simp [notify, found, endWait, handle, unsubscribe, release]

theorem notify_follow (found : channel.clientState.observer? id = some .stateChange) :
    notify state channel id = channel.followState state := by
  simp [notify, found]

theorem end_wait_none (none : channel.connectionWaitSub = none) : channel.endWait = channel := by
  obtain ⟨⟩ := channel
  cases none
  rfl

theorem end_wait_observer (other : channel.connectionWaitSub ≠ some id) :
    channel.endWait.clientState.observer? id = channel.clientState.observer? id :=
  (release_observer _ _ _).trans (if_neg other)

theorem end_wait_state : channel.endWait.joinState = channel.joinState := rfl

variable {channel}

theorem end_wait_send : channel.sendJoinRequest.endWait = channel.endWait.sendJoinRequest := by
  cases wait : channel.connectionWaitSub <;> cases timer : channel.joinTimeoutId <;>
    simp [endWait, sendJoinRequest, clearJoinTimeout, unsubscribe, publisher, message, uuid, timer]

variable {following : Nat}

theorem wait_then_follow {waiting : Nat} (wait : channel.connectionWaitSub = some waiting) (watched : channel.Watched)
    (follow : channel.presenceSub = some following) :
    notify state (notify state channel waiting) following = channel.told state := by
  have first := (watched.waits waiting).mpr wait
  have second := (watched.follows following).mpr follow
  have other : channel.connectionWaitSub ≠ some following := by
    intro same
    rw [(watched.waits following).mpr same] at second
    cases second
  have ended := end_wait_observer channel other
  rw [second] at ended
  rw [notify_wait channel first wait, told, asksAgain, wait]
  by_cases reached : state = .connected
  · rw [if_pos reached, if_pos reached]
    by_cases joining : channel.joinState = .joining
    · rw [if_pos joining, notify_follow _ (by rw [send_frame]; exact ended)]
      simp [followState, send_state, end_wait_state, joining]
    · rw [if_neg joining, notify_follow _ ended]
      simp [followState, end_wait_state, joining, reached]
  · rw [if_neg reached, if_neg reached, notify_follow _ second]
    simp [followState, reached]

theorem follow_then_wait {waiting : Nat} (wait : channel.connectionWaitSub = some waiting) (watched : channel.Watched)
    (follow : channel.presenceSub = some following) :
    notify state (notify state channel following) waiting = channel.told state := by
  have first := (watched.waits waiting).mpr wait
  have second := (watched.follows following).mpr follow
  rw [notify_follow channel second, told, asksAgain, wait, followState]
  by_cases reached : state = .connected
  · by_cases stalled : channel.joinState = .stalled
    · rw [if_pos ⟨reached, stalled⟩, notify_wait _ (by rw [send_frame]; exact first)
        (by rw [send_frame]; exact wait)]
      simp [send_state, stalled, reached, end_wait_send]
    · rw [if_neg fun both => stalled both.2, if_neg fun both => both.1 reached, notify_wait _ first wait]
      simp [stalled, reached]
  by_cases joined : channel.joinState = .joined
  · rw [if_neg fun both => reached both.1, if_pos ⟨reached, joined⟩,
      notify_wait _ (by rw [stall_frame]; exact first) (by rw [stall_frame]; exact wait)]
    simp [reached, joined]
  · rw [if_neg fun both => reached both.1, if_neg fun both => joined both.2, notify_wait _ first wait]
    simp [reached, joined]

theorem told_spec (watched : channel.Watched) :
    channel.clientState.ids.foldl (notify state) channel = channel.told state := by
  have perm := watched_ids channel watched
  cases wait : channel.connectionWaitSub with
  | none =>
    have still := end_wait_none channel wait
    cases follow : channel.presenceSub with
    | none =>
      have quiet := watched.synced
      rw [follow] at quiet
      rw [wait, follow, toList_none, append_nil, perm_nil] at perm
      rw [perm, foldl_nil, told, asksAgain, wait, still]
      by_cases stalled : channel.joinState = .stalled
      · cases quiet (.inr stalled)
      by_cases joined : channel.joinState = .joined
      · cases quiet (.inl joined)
      · simp [stalled, joined]
    | some following =>
      rw [wait, follow, toList_none, toList_some, nil_append, perm_singleton] at perm
      rw [perm, foldl_cons, foldl_nil, notify_follow channel
        ((watched.follows following).mpr follow), told, asksAgain, wait, still, followState]
      by_cases reached : state = .connected <;> simp [reached]
  | some waiting =>
    cases follow : channel.presenceSub with
    | none =>
      have quiet := watched.synced
      rw [follow] at quiet
      rw [wait, follow, toList_none, toList_some, append_nil, perm_singleton] at perm
      rw [perm, foldl_cons, foldl_nil, notify_wait channel
        ((watched.waits waiting).mpr wait) wait, told, asksAgain, wait]
      by_cases stalled : channel.joinState = .stalled
      · cases quiet (.inr stalled)
      by_cases joined : channel.joinState = .joined
      · cases quiet (.inl joined)
      · simp [stalled, joined]
    | some =>
      rw [wait, follow, toList_some, toList_some, singleton_append, perm_pair] at perm
      rcases perm with order | order
      · rw [order, foldl_cons, foldl_cons, foldl_nil]
        exact wait_then_follow wait watched follow
      · rw [order, foldl_cons, foldl_cons, foldl_nil]
        exact follow_then_wait wait watched follow

theorem connection_spec (watched : channel.Watched) :
    channel.connection state = (channel.heard state).told state :=
  told_spec ⟨watched.running, watched.waits, watched.follows, watched.synced⟩

end Channel

-- A channel with its join requests that the connection may still answer. punctual
-- tells whether every reconnect that found the channel JOINING or STALLED has
-- handed over one request.
structure JoinLedger where
  channel : Channel
  outstanding : List String := []
  punctual : Bool := true

namespace JoinLedger

variable (ledger : JoinLedger) (channel : Channel) (op : ChannelOp)

variable (requestId : Option String) (state : ConnectionState)

def requested (before after : Channel) : List String :=
  ((after.published.drop before.published.length).filter fun message => message.action = .joinChannel).map
    fun message => message.requestId

-- A reply settles the request it names, and whatever there is when it names none.
def answered (outstanding : List String) (requestId : Option String) : List String :=
  match requestId with
  | none => []
  | some id => if id = "" then [] else outstanding.erase id

-- Requests die with their connection.
def settled (ledger : JoinLedger) (op : ChannelOp) : List String :=
  match op with
  | .connection state => if ledger.channel.connected && decide (state = .connected) then ledger.outstanding else []
  | .acknowledge requestId => answered ledger.outstanding requestId
  | .decline _ requestId => answered ledger.outstanding requestId
  | .joinTimeout requestId =>
    if ledger.channel.timers.contains requestId then ledger.outstanding.erase requestId else ledger.outstanding
  | _ => ledger.outstanding

def due (channel : Channel) (op : ChannelOp) : Bool :=
  match op with
  | .connection state => decide (state = .connected) && !channel.connected && channel.awaitsReply
  | _ => false

def step (ledger : JoinLedger) (op : ChannelOp) : JoinLedger :=
  let next := ledger.channel.step op
  let requests := requested ledger.channel next
  { channel := next
    outstanding := ledger.settled op ++ requests
    punctual := ledger.punctual && (!due ledger.channel op || decide (requests.length = 1)) }

structure RejoinsOnce (ledger : JoinLedger) : Prop where
  punctual : ledger.punctual = true
  single : ledger.outstanding.length ≤ 1

-- No reconnect finds the channel JOINING with nothing waiting for it, and while
-- connected a STALLED channel is neither joined nor told to be connected again.
def Sound (ledger : JoinLedger) (op : ChannelOp) : Prop :=
  match op with
  | .connection .connected =>
    if ledger.channel.connected = true then ledger.channel.joinState ≠ .stalled
    else ledger.channel.joinState = .joining → ledger.channel.connectionWaitSub.isSome = true
  | .join => ledger.channel.connected = true → ledger.channel.joinState ≠ .stalled
  | _ => True

def expected (channel : Channel) : List String :=
  if channel.awaitsReply && channel.connected then channel.pendingJoinRequestId.toList else []

structure Tracked (channel : Channel) : Prop where
  watched : channel.Watched
  asked : channel.awaitsReply = true → channel.connected = true → channel.pendingJoinRequestId.isSome = true
  solid : channel.pendingJoinRequestId ≠ some ""
  awaited : channel.pendingJoinRequestId.isSome = true → channel.awaitsReply = true
  linked : channel.joinState = .joined → channel.connected = true
  unwaiting : channel.connected = true → channel.connectionWaitSub = none
  queued : ∀ message ∈ channel.queue, message.action = .broadcast

structure Kept (ledger : JoinLedger) : Prop where
  tracked : Tracked ledger.channel
  punctual : ledger.punctual = true
  outstanding : ledger.outstanding = expected ledger.channel

theorem requested_nothing (before after : Channel) (messages : List ClientMessage)
    (published : after.published = before.published ++ messages)
    (other : ∀ message ∈ messages, message.action ≠ .joinChannel) : requested before after = [] := by
  rw [requested, published, drop_left, map_eq_nil_iff, filter_eq_nil_iff]
  exact fun message member => by simpa using other message member

theorem requested_same (before after : Channel) (published : after.published = before.published) :
    requested before after = [] :=
  requested_nothing before after [] (by rw [published, append_nil]) (by simp)

theorem requested_send (before : Channel) (after : Channel) (published : after.published = before.published)
    (uuid : after.uuid = before.uuid) : requested before after.sendJoinRequest = [before.uuid] := by
  rw [requested, send_frame]
  rw [published, drop_left]
  simp [Channel.message, uuid]

variable {requestId}

theorem answered_nothing : answered [] requestId = [] := by
  cases requestId with
  | none => rfl
  | some => simp [answered]

theorem answered_missed (missed : channel.misses requestId = true) :
    answered (expected channel) requestId = expected channel := by
  cases requestId with
  | none => simp [misses] at missed
  | some =>
    cases pending : channel.pendingJoinRequestId with
    | none => simp [misses, pending] at missed
    | some =>
      simp only [misses, pending, Bool.and_eq_true, decide_eq_true_eq] at missed
      rw [answered, if_neg missed.1.1, expected, pending]
      split
      · exact erase_of_not_mem (by simpa using missed.2)
      · rfl

theorem answered_hit (solid : channel.pendingJoinRequestId ≠ some "")
    (hit : channel.misses requestId = false) : answered (expected channel) requestId = [] := by
  cases requestId with
  | none => rfl
  | some id =>
    by_cases empty : id = ""
    · simp [answered, empty]
    rw [answered, if_neg empty, expected]
    cases pending : channel.pendingJoinRequestId with
    | none => simp
    | some waiting =>
      have named : id = waiting := by
        rw [pending] at solid
        by_contra other
        simp [misses, pending, empty, other] at hit
        exact solid (congrArg some hit)
      rw [named]
      split <;> simp

theorem kept_quiet (kept : ledger.Kept)
    (undue : due ledger.channel op = false) (tracked : Tracked (ledger.channel.step op))
    (nothing : requested ledger.channel (ledger.channel.step op) = [])
    (settled : ledger.settled op = expected (ledger.channel.step op)) : (ledger.step op).Kept := by
  refine ⟨tracked, ?_, ?_⟩
  · simp [step, kept.punctual, undue]
  · simp [step, nothing, settled]

theorem kept_asked {id : String} (kept : ledger.Kept)
    (tracked : Tracked (ledger.channel.step op)) (one : requested ledger.channel (ledger.channel.step op) = [id])
    (settled : ledger.settled op = []) (awaits : expected (ledger.channel.step op) = [id]) :
    (ledger.step op).Kept := by
  refine ⟨tracked, ?_, ?_⟩
  · simp [step, kept.punctual, one]
  · simp [step, one, settled, awaits]

theorem tracked_send (watched : channel.Watched) (awaits : channel.awaitsReply = true)
    (unwaiting : channel.connectionWaitSub = none) (queued : ∀ message ∈ channel.queue, message.action = .broadcast) :
    Tracked channel.sendJoinRequest := by
  rw [send_frame]
  refine ⟨?_, fun _ _ => rfl, ?_, fun _ => awaits, fun joined => ?_, fun _ => unwaiting, queued⟩
  · exact ⟨watched.running, watched.waits, watched.follows, watched.synced⟩
  · exact fun same => channel.uuids.solid channel.drawn (some.inj same)
  · simp only at joined
    simp [awaitsReply, joined] at awaits

theorem expected_send (awaits : channel.awaitsReply = true) (connected : channel.connected = true) :
    expected channel.sendJoinRequest = [channel.uuid] := by
  rw [expected, send_awaits, send_connected, send_pending, awaits, connected]
  rfl

theorem watched_end_wait (watched : channel.Watched) : channel.endWait.Watched := by
  have gone := release_observer channel.clientState channel.connectionWaitSub
  refine ⟨watched.running, fun id => ?_, fun id => ?_, watched.synced⟩
  · constructor
    · intro found
      have left := (gone id).symm.trans found
      split at left
      · cases left
      · rename_i other
        exact absurd ((watched.waits id).mp left) other
    · intro none
      cases none
  · refine Iff.trans ?_ (watched.follows id)
    have same : channel.endWait.clientState.observer? id = _ := gone id
    rw [same]
    split
    · rename_i waiting
      rw [(watched.waits id).mpr waiting]
      simp
    · rfl

theorem connection_step (kept : ledger.Kept) :
    ledger.channel.step (.connection state) = (ledger.channel.heard state).told state :=
  connection_spec kept.tracked.watched

theorem watched_heard (watched : channel.Watched) :
    (channel.heard state).Watched :=
  ⟨watched.running, watched.waits, watched.follows, watched.synced⟩

theorem kept_reconnect (kept : ledger.Kept) (sound : ledger.Sound (.connection .connected))
    (before : ledger.channel.connected = false) : (ledger.step (.connection .connected)).Kept := by
  have spec := connection_step ledger .connected kept
  have watched := watched_end_wait _ (watched_heard _ .connected kept.tracked.watched)
  have ready : ledger.channel.joinState = .joining → ledger.channel.connectionWaitSub.isSome = true := by
    simpa [Sound, before] using sound
  rw [told, if_pos rfl] at spec
  cases awaits : ledger.channel.awaitsReply with
  | true =>
    have again : (ledger.channel.heard .connected).asksAgain = true := by
      rcases (Bool.or_eq_true _ _).mp awaits with joining | stalled
      · simp [asksAgain, heard, of_decide_eq_true joining, ready]
      · simp [asksAgain, heard, of_decide_eq_true stalled]
    rw [if_pos again] at spec
    apply kept_asked ledger _ kept
    · rw [spec]
      exact tracked_send _ watched awaits rfl kept.tracked.queued
    · rw [spec]
      exact requested_send _ _ rfl rfl
    · simp [settled, before]
    · rw [spec]
      exact expected_send _ awaits (decide_eq_true (release_value _ _))
  | false =>
    have passive : (ledger.channel.heard .connected).asksAgain = false := by
      have neither := Bool.or_eq_false_iff.mp awaits
      simp [asksAgain, heard, of_decide_eq_false neither.1, of_decide_eq_false neither.2]
    rw [if_neg (by rw [passive]; decide)] at spec
    have idle : (ledger.channel.heard .connected).endWait.awaitsReply = false := awaits
    apply kept_quiet ledger _ kept
    · simp [due, awaits]
    · rw [spec]
      refine ⟨watched, fun expects => ?_, kept.tracked.solid, kept.tracked.awaited, fun _ => ?_, fun _ => rfl,
        kept.tracked.queued⟩
      · rw [idle] at expects
        cases expects
      · exact decide_eq_true (release_value _ _)
    · rw [spec]
      exact requested_same _ _ rfl
    · rw [spec, expected, idle]
      simp [settled, before]

theorem kept_repeat (kept : ledger.Kept) (sound : ledger.Sound (.connection .connected))
    (before : ledger.channel.connected = true) : (ledger.step (.connection .connected)).Kept := by
  have spec := connection_step ledger .connected kept
  have unstalled : ledger.channel.joinState ≠ .stalled := by simpa [Sound, before] using sound
  have unwaiting := kept.tracked.unwaiting before
  have same : (ledger.channel.heard .connected).endWait = ledger.channel := by
    rw [end_wait_none (ledger.channel.heard .connected) unwaiting, heard, hold,
      ← of_decide_eq_true before]
    rfl
  have passive : (ledger.channel.heard .connected).asksAgain = false := by
    simp [asksAgain, heard, unstalled, unwaiting]
  rw [told, if_pos rfl, if_neg (by rw [passive]; decide), same] at spec
  apply kept_quiet ledger _ kept
  · simp [due, before]
  · rw [spec]
    exact kept.tracked
  · rw [spec]
    exact requested_same _ _ rfl
  · rw [spec, ← kept.outstanding]
    simp [settled, before]

theorem kept_disconnect (kept : ledger.Kept) (lost : state ≠ .connected) : (ledger.step (.connection state)).Kept := by
  have spec := connection_step ledger state kept
  have cut : (ledger.channel.heard state).connected = false := decide_eq_false lost
  have watched := watched_heard _ state kept.tracked.watched
  rw [told, if_neg lost] at spec
  by_cases joined : (ledger.channel.heard state).joinState = .joined
  · have stalled : (ledger.channel.heard state).stall.connected = false := by
      rw [stall_frame]
      exact cut
    rw [if_pos joined] at spec
    apply kept_quiet ledger _ kept
    · simp [due, lost]
    · rw [spec]
      refine ⟨?_, fun _ linked => ?_, ?_, ?_, ?_, fun linked => ?_, ?_⟩
      · rw [stall_frame]
        exact ⟨watched.running, watched.waits, watched.follows, fun _ => watched.synced (.inl joined)⟩
      · rw [stalled] at linked
        cases linked
      · rw [stall_frame]
        simp
      · rw [stall_frame]
        simp
      · rw [stall_frame]
        simp
      · rw [stalled] at linked
        cases linked
      · rw [stall_frame]
        exact kept.tracked.queued
    · rw [spec, stall_frame]
      exact requested_same _ _ rfl
    · rw [spec, expected, stalled]
      simp [settled, lost]
  · rw [if_neg joined] at spec
    apply kept_quiet ledger _ kept
    · simp [due, lost]
    · rw [spec]
      refine ⟨watched, fun _ linked => ?_, kept.tracked.solid, kept.tracked.awaited, fun now => absurd now joined,
        fun linked => ?_, kept.tracked.queued⟩
      · rw [cut] at linked
        cases linked
      · rw [cut] at linked
        cases linked
    · rw [spec]
      exact requested_same _ _ rfl
    · rw [spec, expected, cut]
      simp [settled, lost]

theorem join_connected (free : ¬ (channel.joinState = .joined ∨ channel.joinState = .joining))
    (connected : channel.connected = true) :
    channel.join = { channel with lastError := none, joinState := .joining }.sendJoinRequest := by
  rw [Channel.join, if_neg free]
  exact if_pos connected

def waiting (channel : Channel) : Channel :=
  { channel with
    lastError := none
    joinState := .joining
    clientState := (channel.clientState.release channel.connectionWaitSub).attach .connectionWait
    connectionWaitSub := some (channel.clientState.release channel.connectionWaitSub).subject.nextId }

theorem join_disconnected (free : ¬ (channel.joinState = .joined ∨ channel.joinState = .joining))
    (cut : channel.connected = false) : channel.join = waiting channel := by
  rw [Channel.join, if_neg free]
  exact if_neg (Bool.eq_false_iff.mp cut)

theorem waiting_connected (cut : channel.connected = false) :
    (waiting channel).connected = false := by
  have value := release_value channel.clientState channel.connectionWaitSub
  rw [← cut]
  exact congrArg (fun state => decide (state = ConnectionState.connected)) value

theorem tracked_wait (tracked : Tracked channel) (cut : channel.connected = false) :
    Tracked (waiting channel) := by
  have still := waiting_connected channel cut
  refine ⟨⟨tracked.watched.running, fun id => ?_, fun id => ?_, by simp [waiting]⟩, fun _ linked => ?_, tracked.solid,
    fun _ => rfl, by simp [waiting], fun linked => ?_, tracked.queued⟩
  · exact replaced_observer _ tracked.watched.waits
  · refine Iff.trans ?_ (tracked.watched.follows id)
    exact replaced_other _ tracked.watched.waits (by decide)
  · rw [still] at linked
    cases linked
  · rw [still] at linked
    cases linked

theorem kept_join (kept : ledger.Kept) (sound : ledger.Sound .join) :
    (ledger.step .join).Kept := by
  by_cases busy : ledger.channel.joinState = .joined ∨ ledger.channel.joinState = .joining
  · have spec : ledger.channel.step .join = ledger.channel := if_pos busy
    apply kept_quiet ledger _ kept
    · rfl
    · rw [spec]
      exact kept.tracked
    · rw [spec]
      exact requested_same _ _ rfl
    · rw [spec]
      exact kept.outstanding
  · cases before : ledger.channel.connected with
    | true =>
      have spec : ledger.channel.step .join = _ := join_connected ledger.channel busy before
      have idle : ledger.channel.awaitsReply = false := by
        have unjoining : ledger.channel.joinState ≠ .joining := fun joining => busy (.inr joining)
        simp [awaitsReply, sound before, unjoining]
      apply kept_asked ledger _ kept
      · rw [spec]
        exact tracked_send _ ⟨kept.tracked.watched.running, kept.tracked.watched.waits, kept.tracked.watched.follows,
          by simp⟩ rfl (kept.tracked.unwaiting before) kept.tracked.queued
      · rw [spec]
        exact requested_send _ _ rfl rfl
      · have still : ledger.settled .join = ledger.outstanding := rfl
        rw [still, kept.outstanding, expected, idle]
        rfl
      · rw [spec]
        exact expected_send _ rfl before
    | false =>
      have spec : ledger.channel.step .join = _ := join_disconnected ledger.channel busy before
      have tracked := tracked_wait ledger.channel kept.tracked before
      rw [← spec] at tracked
      have still : ledger.settled .join = ledger.outstanding := rfl
      have cut : (ledger.channel.step .join).connected = false := by
        rw [spec]
        exact waiting_connected ledger.channel before
      apply kept_quiet ledger _ kept rfl tracked
      · rw [spec]
        exact requested_same _ _ rfl
      · rw [still, kept.outstanding, expected, expected, before, cut]
        simp

theorem kept_reply (kept : ledger.Kept)
    (undue : due ledger.channel op = false) (reply : ledger.settled op = answered ledger.outstanding requestId)
    (ignored : ledger.channel.awaitsReply = false ∨ ledger.channel.misses requestId = true →
      ledger.channel.step op = ledger.channel)
    (heeded : ledger.channel.awaitsReply = true → ledger.channel.misses requestId = false →
      Tracked (ledger.channel.step op) ∧ (ledger.channel.step op).pendingJoinRequestId = none ∧
        requested ledger.channel (ledger.channel.step op) = []) : (ledger.step op).Kept := by
  by_cases heard : ledger.channel.awaitsReply = true ∧ ledger.channel.misses requestId = false
  · obtain ⟨tracked, settles, nothing⟩ := heeded heard.1 heard.2
    apply kept_quiet ledger op kept undue tracked nothing
    rw [reply, kept.outstanding, answered_hit _ kept.tracked.solid heard.2, expected, settles]
    simp
  have spec : ledger.channel.step op = ledger.channel := by
    apply ignored
    cases awaits : ledger.channel.awaitsReply with
    | false => exact .inl rfl
    | true =>
      rw [awaits] at heard
      simpa using heard
  apply kept_quiet ledger op kept undue
  · rw [spec]
    exact kept.tracked
  · rw [spec]
    exact requested_same _ _ rfl
  · rw [spec, reply, kept.outstanding]
    cases awaits : ledger.channel.awaitsReply with
    | false => simp [expected, awaits, answered_nothing]
    | true =>
      apply answered_missed
      simpa [awaits] using heard

theorem tracked_acknowledge (tracked : Tracked channel)
    (awaits : channel.awaitsReply = true) (hit : channel.misses requestId = false) :
    Tracked (channel.acknowledge requestId) := by
  obtain ⟨_, _, spec⟩ := acknowledge_frame awaits hit
  rw [tracked.watched.running] at spec
  have value := release_value channel.clientState channel.presenceSub
  have still : (channel.acknowledge requestId).connected = channel.connected := by
    rw [spec]
    exact congrArg (fun state => decide (state = ConnectionState.connected)) value
  have state : (channel.acknowledge requestId).joinState = if channel.connected then .joined else .stalled := by
    rw [spec]
  refine ⟨⟨?_, fun id => ?_, fun id => ?_, fun _ => ?_⟩, fun expects linked => ?_, ?_, ?_, fun joined => ?_,
    fun linked => ?_, ?_⟩
  · rw [spec]
  · rw [spec]
    refine Iff.trans ?_ (tracked.watched.waits id)
    exact replaced_other _ tracked.watched.follows (by decide)
  · rw [spec]
    exact replaced_observer _ tracked.watched.follows
  · rw [spec]
    rfl
  · rw [still] at linked
    rw [awaitsReply, state, linked] at expects
    cases expects
  · rw [spec]
    simp
  · rw [spec]
    simp
  · rw [still]
    by_contra cut
    rw [state, if_neg cut] at joined
    cases joined
  · rw [still] at linked
    rw [spec]
    exact tracked.unwaiting linked
  · rw [spec]
    simp

theorem kept_acknowledge (kept : ledger.Kept) :
    (ledger.step (.acknowledge requestId)).Kept := by
  apply kept_reply ledger _ kept rfl rfl
  · rintro (idle | missed)
    · simp [Channel.step, Channel.acknowledge, idle]
    · simp [Channel.step, Channel.acknowledge, missed]
  intro awaits hit
  refine ⟨tracked_acknowledge ledger.channel kept.tracked awaits hit, ?_⟩
  obtain ⟨_, _, spec⟩ := acknowledge_frame awaits hit
  rw [kept.tracked.watched.running] at spec
  rw [Channel.step, spec]
  refine ⟨rfl, requested_nothing _ _ ledger.channel.queue rfl fun message member => ?_⟩
  rw [kept.tracked.queued message member]
  decide

theorem tracked_decline (payload : PondErrorPayload) {requestId : Option String}
    (tracked : Tracked channel) (awaits : channel.awaitsReply = true) (hit : channel.misses requestId = false) :
    Tracked (channel.decline payload requestId) := by
  rw [decline_frame awaits hit]
  refine ⟨⟨tracked.watched.running, tracked.watched.waits, tracked.watched.follows, by simp⟩, fun expects => ?_, by simp,
    by simp, by simp, tracked.unwaiting, by simp⟩
  cases expects

theorem kept_decline {payload : PondErrorPayload} {requestId : Option String}
    (kept : ledger.Kept) : (ledger.step (.decline payload requestId)).Kept := by
  apply kept_reply ledger _ kept rfl rfl
  · rintro (idle | missed)
    · simp [Channel.step, Channel.decline, idle]
    · simp [Channel.step, Channel.decline, missed]
  intro awaits hit
  refine ⟨tracked_decline ledger.channel payload kept.tracked awaits hit, ?_⟩
  rw [Channel.step, decline_frame awaits hit]
  exact ⟨rfl, requested_same _ _ rfl⟩

-- What differs from a tracked channel in nothing that the join depends on.
structure Aside (channel next : Channel) : Prop where
  same : next = { channel with
    drawn := next.drawn
    queue := next.queue
    presence := next.presence
    timers := next.timers
    pendingResponseCleanups := next.pendingResponseCleanups
    published := next.published }
  queued : (∀ message ∈ channel.queue, message.action = .broadcast) →
    ∀ message ∈ next.queue, message.action = .broadcast

theorem tracked_aside {channel next : Channel} (aside : Aside channel next) (tracked : Tracked channel) :
    Tracked next := by
  have queued := aside.queued tracked.queued
  have watched := tracked.watched
  rw [aside.same]
  exact ⟨⟨watched.running, watched.waits, watched.follows, watched.synced⟩, tracked.asked, tracked.solid,
    tracked.awaited, tracked.linked, tracked.unwaiting, queued⟩

theorem kept_aside (next : Channel) (kept : ledger.Kept)
    (spec : ledger.channel.step op = next) (undue : due ledger.channel op = false)
    (settled : ledger.settled op = ledger.outstanding) (nothing : requested ledger.channel next = [])
    (aside : Aside ledger.channel next) : (ledger.step op).Kept := by
  have tracked := tracked_aside aside kept.tracked
  rw [← spec] at tracked nothing
  apply kept_quiet ledger op kept undue tracked nothing
  rw [settled, kept.outstanding, spec, aside.same]
  rfl

variable {ledger}

theorem kept_timeout {requestId : String} (kept : ledger.Kept) :
    (ledger.step (.joinTimeout requestId)).Kept := by
  cases armed : ledger.channel.timers.contains requestId with
  | false =>
    have spec : ledger.channel.step (.joinTimeout requestId) = ledger.channel :=
      if_neg (by rw [armed]; decide)
    have still : ledger.settled (.joinTimeout requestId) = ledger.outstanding :=
      if_neg (by rw [armed]; decide)
    exact kept_aside ledger _ _ kept spec rfl still (requested_same _ _ rfl) ⟨rfl, fun queued => queued⟩
  | true =>
    have fired : Aside ledger.channel { ledger.channel with timers := ledger.channel.timers.erase requestId } :=
      ⟨rfl, fun queued => queued⟩
    have still : ledger.settled (.joinTimeout requestId) = ledger.outstanding.erase requestId := if_pos armed
    by_cases current : ledger.channel.pendingJoinRequestId = some requestId
    · have awaits : ({ ledger.channel with timers := ledger.channel.timers.erase requestId } : Channel).awaitsReply =
          true := kept.tracked.awaited (by rw [current]; rfl)
      have hit : ({ ledger.channel with timers := ledger.channel.timers.erase requestId } : Channel).misses
          (some requestId) = false := by
        simp [misses, current]
      have tracked := tracked_decline _ ledger.channel.timedOut (tracked_aside fired kept.tracked) awaits hit
      have spec : ledger.channel.step (.joinTimeout requestId) =
          ({ ledger.channel with timers := ledger.channel.timers.erase requestId } : Channel).decline
            ledger.channel.timedOut (some requestId) := by
        rw [Channel.step, joinTimeout, if_pos armed]
        exact if_neg fun different => different current
      rw [← spec] at tracked
      apply kept_quiet ledger _ kept rfl tracked
      · rw [spec, decline_frame awaits hit]
        exact requested_same _ _ rfl
      · rw [still, spec, decline_frame awaits hit, kept.outstanding, expected, expected, current]
        split <;> simp
    · have spec : ledger.channel.step (.joinTimeout requestId) =
          { ledger.channel with timers := ledger.channel.timers.erase requestId } := by
        rw [Channel.step, joinTimeout, if_pos armed]
        exact if_pos current
      have absent : requestId ∉ ledger.outstanding := by
        rw [kept.outstanding, expected]
        split
        · simpa using current
        · simp
      refine kept_aside ledger _ _ kept spec rfl ?_ (requested_same _ _ rfl) fired
      rw [still, erase_of_not_mem absent]

theorem kept_publish {base : Channel} {data : ClientMessage}
    (kept : ledger.Kept) (spec : ledger.channel.step op = (base.publish data).1)
    (undue : due ledger.channel op = false) (settled : ledger.settled op = ledger.outstanding)
    (same : base = { ledger.channel with
      drawn := base.drawn, pendingResponseCleanups := base.pendingResponseCleanups })
    (broadcast : data.action = .broadcast) : (ledger.step op).Kept := by
  have published : base.published = ledger.channel.published := by rw [same]
  have queue : base.queue = ledger.channel.queue := by rw [same]
  refine kept_aside ledger op _ kept spec undue settled ?_ ⟨?_, fun queued message member => ?_⟩
  · simp only [Channel.publish]
    split
    · apply requested_nothing _ _ [data]
      · simp [publisher, published]
      · simp [broadcast]
    split
    · exact requested_same _ _ published
    · exact requested_same _ _ published
  · rw [Channel.publish_frame, same]
  · simp only [Channel.publish, queue] at member
    split at member
    · exact queued message (queue ▸ member)
    split at member
    · exact queued message (queue ▸ member)
    rcases mem_append.mp member with old | new
    · split at old
      · exact queued message (mem_of_mem_drop old)
      · exact queued message old
    · rw [mem_singleton.mp new, broadcast]

theorem kept_step (kept : ledger.Kept) (stays : op ≠ .leave) (sound : ledger.Sound op) : (ledger.step op).Kept := by
  cases op with
  | acknowledge => exact kept_acknowledge ledger kept
  | decline => exact kept_decline ledger kept
  | join => exact kept_join ledger kept sound
  | leave => exact absurd rfl stays
  | sendMessage => exact kept_publish _ kept rfl rfl rfl rfl rfl
  | sendForResponse event payload =>
    have spec : ledger.channel.step (.sendForResponse event payload) = ({ ledger.channel with
          drawn := ledger.channel.drawn + 1
          pendingResponseCleanups := ledger.channel.pendingResponseCleanups ++ [ledger.channel.uuid] }.publish
            (ledger.channel.message .broadcast event payload)).1 := by
      have running : ledger.channel.closed = false := kept.tracked.watched.running
      simp only [Channel.step, Channel.sendForResponse, running]
      rfl
    exact kept_publish _ kept spec rfl rfl rfl rfl
  | receive data =>
    apply kept_aside ledger (.receive data) _ kept (receive_frame ledger.channel) rfl rfl
    · exact requested_same _ _ rfl
    · exact ⟨rfl, fun queued => queued⟩
  | connection state =>
    by_cases reached : state = .connected
    · subst reached
      cases before : ledger.channel.connected with
      | true => exact kept_repeat ledger kept sound before
      | false => exact kept_reconnect ledger kept sound before
    · exact kept_disconnect ledger state kept reached
  | joinTimeout => exact kept_timeout kept
  | responseTimeout =>
    exact kept_aside ledger _ _ kept rfl rfl rfl (requested_same _ _ rfl) ⟨rfl, fun queued => queued⟩

theorem stalled_outstanding (kept : ledger.Kept) (stalled : ledger.channel.joinState = .stalled)
    (connected : ledger.channel.connected = true) : ledger.outstanding.length = 1 := by
  have awaits : ledger.channel.awaitsReply = true := by simp [awaitsReply, stalled]
  obtain ⟨_, pending⟩ := isSome_iff_exists.mp (kept.tracked.asked awaits connected)
  rw [kept.outstanding, expected, awaits, connected, pending]
  rfl

theorem sound_of_step (kept : ledger.Kept) (after : (ledger.step op).RejoinsOnce) : ledger.Sound op := by
  cases op with
  | join =>
    intro connected stalled
    have free : ¬ (ledger.channel.joinState = .joined ∨ ledger.channel.joinState = .joining) := by simp [stalled]
    have spec : ledger.channel.step .join = _ := join_connected ledger.channel free connected
    have one := stalled_outstanding kept stalled connected
    have single := after.single
    have asked := requested_send ledger.channel { ledger.channel with lastError := none, joinState := .joining } rfl rfl
    simp only [step, settled, spec, asked, length_append, one, length_singleton] at single
    omega
  | connection state =>
    by_cases reached : state = .connected
    · subst reached
      have spec := connection_step ledger .connected kept
      rw [told, if_pos rfl] at spec
      cases before : ledger.channel.connected with
      | true =>
        have single := after.single
        simp only [Sound, before, if_true]
        intro stalled
        have again : (ledger.channel.heard .connected).asksAgain = true := by
          simp [asksAgain, heard, stalled]
        have one := stalled_outstanding kept stalled before
        have asked := requested_send ledger.channel (ledger.channel.heard .connected).endWait rfl rfl
        rw [if_pos again] at spec
        simp [step, settled, spec, asked, one, before] at single
      | false =>
        have punctual := after.punctual
        simp only [Sound, before]
        intro joining
        by_contra unready
        have passive : (ledger.channel.heard .connected).asksAgain = false := by
          simpa [asksAgain, heard, joining] using unready
        have nothing := requested_same ledger.channel (ledger.channel.heard .connected).endWait rfl
        rw [if_neg (by rw [passive]; decide)] at spec
        simp [step, due, spec, nothing, before, awaitsReply, joining] at punctual
    · cases state with
      | connected => exact absurd rfl reached
      | disconnected | connecting => trivial
  | _ => trivial

def start (name : String) (joinParams : PondObject) (maxQueueSize : Nat) (uuids : UuidSource)
    (state : ConnectionState) : JoinLedger where
  channel := .new name joinParams maxQueueSize uuids state

theorem tracked_new {name : String} {joinParams : PondObject} {maxQueueSize : Nat} {uuids : UuidSource}
    {state : ConnectionState} : Tracked (.new name joinParams maxQueueSize uuids state) := by
  have nobody : ∀ id, (Channel.new name joinParams maxQueueSize uuids state).clientState.observer? id = none :=
    fun _ => rfl
  refine ⟨⟨rfl, fun id => ?_, fun id => ?_, ?_⟩, ?_, ?_, ?_, ?_, fun _ => rfl, ?_⟩
  · rw [nobody]
    simp [Channel.new]
  · rw [nobody]
    simp [Channel.new]
  all_goals simp [Channel.new, awaitsReply]

theorem rejoins_once_iff (name : String) (joinParams : PondObject) (maxQueueSize : Nat) (uuids : UuidSource)
    (state : ConnectionState) (ops : List ChannelOp) (stays : ChannelOp.leave ∉ ops) :
    Always step RejoinsOnce (start name joinParams maxQueueSize uuids state) ops ↔
      Follows step Sound (start name joinParams maxQueueSize uuids state) ops := by
  apply always_iff_follows step (fun _ op => op ≠ .leave) Sound RejoinsOnce Kept
  · intro ledger kept
    refine ⟨kept.punctual, ?_⟩
    rw [kept.outstanding, expected]
    split
    · cases ledger.channel.pendingJoinRequestId <;> simp
    · simp
  · exact fun ledger op kept stays sound => kept_step op kept stays sound
  · exact fun ledger op kept _ after => sound_of_step op kept after
  · exact ⟨tracked_new, rfl, rfl⟩
  · exact (follows_labels step _).mpr fun op member same => stays (same ▸ member)

theorem rejoins_after_drop :
    Always step RejoinsOnce (start "room" .empty 100 .counting .connected)
      [.join, .acknowledge none, .connection .disconnected, .connection .connected] :=
  (rejoins_once_iff "room" .empty 100 .counting .connected _ (by simp)).mpr
    ⟨by simp [Sound, start, Channel.new], trivial, trivial, by simp [Sound]; decide, trivial⟩

theorem dropped_join_is_lost :
    ¬ Always step RejoinsOnce (start "room" .empty 100 .counting .connected)
      [.join, .connection .disconnected, .connection .connected] := by
  intro always
  have punctual := always.2.2.2.punctual
  revert punctual
  decide

end JoinLedger

end PondSocket.Js
