import PondSocket.Js.ClientChannel

namespace PondSocket.Js

open Library List OrderedMap

abbrev Settlement := Except Thrown EventPayload

-- A channel with the timers and the subscriptions of its sendForResponse calls and
-- with every call of resolve and reject, all known by the request they are for.
structure Caller where
  channel : Channel
  timers : OrderedMap String Thrown := .empty
  subscriptions : OrderedSet String := .empty
  settlements : List (String × Settlement) := []

-- The route of a call is what buildPondRoute makes of its event and parameters.
inductive CallerOp where
  | ask (sentEvent : String) (route : Except Thrown String) (payload : PondObject) (timeoutMs : Nat)
  | channel (op : ChannelOp)

namespace Caller

variable (wire : RequestId → String) {caller : Caller} {requestId : String}

def settled (caller : Caller) (requestId : String) : List Settlement :=
  (caller.settlements.filter fun row => decide (row.1 = requestId)).map Prod.snd

def settle (caller : Caller) (requestId : String) (settlement : Settlement) : Caller :=
  { caller with settlements := caller.settlements ++ [(requestId, settlement)] }

def finish (caller : Caller) (requestId : String) : Caller :=
  { caller with
    channel := { caller.channel with
      pendingResponseCleanups := caller.channel.pendingResponseCleanups.erase requestId }
    timers := caller.timers.delete requestId
    subscriptions := caller.subscriptions.delete requestId }

def timedOut (sentEvent : String) (timeoutMs : Nat) : Thrown :=
  .error s!"sendForResponse timed out after {timeoutMs}ms for event \"{sentEvent}\""

-- What the executor throws rejects the promise and releases nothing.
def ask (caller : Caller) (sentEvent : String) (route : Except Thrown String) (payload : PondObject)
    (timeoutMs : Nat) : Caller :=
  let requestId := caller.channel.uuid
  let drawn := { caller.channel with drawn := caller.channel.drawn + 1 }
  if caller.channel.closed then
    { caller with channel := drawn }.settle requestId (.error (.error "Cannot subscribe to a closed subject"))
  else
    let caller := { caller with
      timers := caller.timers.set requestId (timedOut sentEvent timeoutMs)
      subscriptions := caller.subscriptions.add requestId }
    match route with
    | .error thrown =>
      { caller with channel := { drawn with
        pendingResponseCleanups := drawn.pendingResponseCleanups ++ [requestId] } }.settle requestId (.error thrown)
    | .ok event =>
      match caller.channel.sendForResponse event payload with
      | (channel, none) => { caller with channel := channel }
      | (channel, some thrown) => { caller with channel := channel }.settle requestId (.error thrown)

-- The condition of the message observer of #init and the one of #onMessage.
def hears (channel : Channel) (data : ChannelEvent) : Bool :=
  decide (data.channelName = channel.name ∧ channel.joinState = .joined ∧
    channel.presenceSub.any (fun id => channel.clientState.observer? id = some .stateChange) = true ∧
    data.action ≠ .presence)

def receive (caller : Caller) (data : ChannelEvent) : Caller :=
  let told := { caller with channel := caller.channel.receive data }
  if hears caller.channel data && caller.subscriptions.has (wire data.requestId) then
    (told.finish (wire data.requestId)).settle (wire data.requestId) (.ok data.payload)
  else told

-- Every cleanup clears its timer, and the receiver closes.
def leave (caller : Caller) : Caller :=
  { caller with
    channel := caller.channel.leave
    timers := caller.channel.pendingResponseCleanups.foldl delete caller.timers
    subscriptions := .empty }

def responseTimeout (caller : Caller) (requestId : String) : Caller :=
  match caller.timers.get? requestId with
  | none => caller
  | some late => (caller.finish requestId).settle requestId (.error late)

def step (caller : Caller) (op : CallerOp) : Caller :=
  match op with
  | .ask sentEvent route payload timeoutMs => caller.ask sentEvent route payload timeoutMs
  | .channel (.sendForResponse event payload) => caller.ask event (.ok event) payload 30000
  | .channel (.responseTimeout requestId) => caller.responseTimeout requestId
  | .channel (.receive data) => caller.receive wire data
  | .channel .leave => caller.leave
  | .channel op => { caller with channel := caller.channel.step op }

def asks : CallerOp → Bool
  | .ask _ _ _ _ => true
  | .channel (.sendForResponse _ _) => true
  | _ => false

-- What an operation settles a promise with that waits for this request.
def answer (caller : Caller) (requestId : String) (late : Thrown) (op : CallerOp) : Option Settlement :=
  match op with
  | .channel (.receive data) =>
    if hears caller.channel data && decide (wire data.requestId = requestId) then some (.ok data.payload) else none
  | .channel (.responseTimeout fired) => if fired = requestId then some (.error late) else none
  | _ => none

def outcome (requestId : String) (late : Thrown) : Caller → List CallerOp → Option Settlement
  | _, [] => none
  | caller, op :: rest => (caller.answer wire requestId late op).or (outcome requestId late (caller.step wire op) rest)

def refused (caller : Caller) : Prop :=
  caller.channel.joinState = .declined ∨ caller.channel.joinState = .closed

-- Nobody waits for a response when leave() is called, and nothing throws in a
-- sendForResponse call once it has subscribed.
def Clean (caller : Caller) (op : CallerOp) : Prop :=
  match op with
  | .ask _ route _ _ => caller.channel.closed = true ∨ (route.isOk = true ∧ ¬caller.refused)
  | .channel (.sendForResponse _ _) => caller.channel.closed = true ∨ ¬caller.refused
  | .channel .leave => caller.channel.pendingResponseCleanups = []
  | _ => True

-- How a request stands: its settlements so far and, while it waits, the rejection
-- that its timer holds.
structure Stands (caller : Caller) (requestId : String) (told : List Settlement) (late : Option Thrown) : Prop where
  settled : caller.settled requestId = told
  timer : caller.timers.get? requestId = late
  subscription : caller.subscriptions.has requestId = late.isSome
  cleanup : caller.channel.pendingResponseCleanups.count requestId = late.toList.length

structure Aside (before after : Channel) : Prop where
  cleanups : after.pendingResponseCleanups = before.pendingResponseCleanups
  drawn : before.drawn ≤ after.drawn
  uuids : after.uuids = before.uuids

variable {channel before after last : Channel} {state : ConnectionState}

theorem aside_refl : Aside channel channel := ⟨rfl, le_rfl, rfl⟩

theorem aside_trans (first : Aside before after) (second : Aside after last) : Aside before last :=
  ⟨second.cleanups.trans first.cleanups, le_trans first.drawn second.drawn, second.uuids.trans first.uuids⟩

theorem aside_crosses : Channel.Crosses Aside where
  refl _ := aside_refl
  trans := aside_trans
  send channel := by
    rw [Channel.send_frame]
    exact ⟨rfl, Nat.le_succ _, rfl⟩
  stall channel := by
    rw [Channel.stall_frame]
    exact ⟨rfl, le_rfl, rfl⟩
  wait _ _ _ := ⟨rfl, le_rfl, rfl⟩
  joining _ := ⟨rfl, le_rfl, rfl⟩

theorem aside_decline (payload : PondErrorPayload) (named : Option String) :
    Aside channel (channel.decline payload named) := by
  by_cases taken : channel.awaitsReply = true ∧ channel.misses named = false
  · rw [Channel.decline_frame taken.1 taken.2]
    exact ⟨rfl, le_rfl, rfl⟩
  · rw [(Channel.reply_idle taken).2]
    exact aside_refl

theorem aside_receive (data : ChannelEvent) : Aside channel (channel.receive data) := by
  rw [Channel.receive_frame]
  exact ⟨rfl, le_rfl, rfl⟩

def plain : ChannelOp → Bool
  | .leave | .sendForResponse _ _ | .receive _ | .responseTimeout _ => false
  | _ => true

theorem aside_step {op : ChannelOp} (other : plain op = true) : Aside channel (channel.step op) := by
  cases op with
  | acknowledge named =>
    by_cases taken : channel.awaitsReply = true ∧ channel.misses named = false
    · obtain ⟨_, _, framed⟩ := Channel.acknowledge_frame taken.1 taken.2
      rw [Channel.step, framed]
      exact ⟨rfl, le_rfl, rfl⟩
    · rw [Channel.step, (Channel.reply_idle taken).1]
      exact aside_refl
  | decline payload named => exact aside_decline payload named
  | join => exact Channel.join_crosses aside_crosses channel
  | sendMessage =>
    dsimp only [Channel.step, Channel.sendMessage]
    rw [Channel.publish_frame]
    exact ⟨rfl, Nat.le_succ _, rfl⟩
  | connection state => exact Channel.connection_crosses aside_crosses channel state
  | joinTimeout fired =>
    have taken : Aside channel { channel with timers := channel.timers.erase fired } := ⟨rfl, le_rfl, rfl⟩
    change Aside channel (channel.joinTimeout fired)
    unfold Channel.joinTimeout
    split
    · dsimp only
      split
      · exact taken
      · exact aside_trans taken (aside_decline _ _)
    · exact aside_refl
  | _ => cases other

theorem leave_frame : channel.leave.uuids = channel.uuids ∧ channel.leave.drawn = channel.drawn + 1 ∧
    channel.leave.pendingResponseCleanups = [] := by
  unfold Channel.leave
  simp only [Channel.unsubscribe]
  rw [Channel.clear_join_timeout_frame]
  split <;> exact ⟨rfl, rfl, trivial⟩

theorem response_frame {event : String} {payload : PondObject} (live : channel.closed = false)
    (taken : ¬(channel.joinState = .declined ∨ channel.joinState = .closed)) :
    (channel.sendForResponse event payload).2 = none ∧
      (channel.sendForResponse event payload).1.pendingResponseCleanups =
        channel.pendingResponseCleanups ++ [channel.uuid] ∧
      (channel.sendForResponse event payload).1.drawn = channel.drawn + 1 ∧
      (channel.sendForResponse event payload).1.uuids = channel.uuids := by
  simp only [Channel.sendForResponse, live, Bool.false_eq_true, if_false]
  refine ⟨?_, ?_⟩
  · unfold Channel.publish
    split
    · rfl
    · rfl
  · rw [Channel.publish_frame]
    exact ⟨rfl, rfl, rfl⟩

variable {told : List Settlement} {late : Option Thrown} {op : CallerOp}

theorem stands_moved (stands : caller.Stands requestId told late) {next : Caller}
    (settlements : next.settlements = caller.settlements) (timers : next.timers = caller.timers)
    (subscriptions : next.subscriptions = caller.subscriptions) (aside : Aside caller.channel next.channel) :
    next.Stands requestId told late :=
  ⟨by rw [Caller.settled, settlements]; exact stands.settled, by rw [timers]; exact stands.timer,
    by rw [subscriptions]; exact stands.subscription, by rw [aside.cleanups]; exact stands.cleanup⟩

theorem settled_settle (fired : String) (settlement : Settlement) :
    (caller.settle fired settlement).settled requestId =
      caller.settled requestId ++ if fired = requestId then [settlement] else [] := by
  by_cases same : fired = requestId <;> simp [settle, settled, same]

theorem stands_finish (stands : caller.Stands requestId told late) (fired : String) (settlement : Settlement) :
    ((caller.finish fired).settle fired settlement).Stands requestId
      (told ++ if fired = requestId then [settlement] else []) (if fired = requestId then none else late) := by
  have same : (caller.finish fired).settled requestId = told := stands.settled
  refine ⟨by rw [settled_settle, same], ?_, ?_, ?_⟩
  · change (caller.timers.delete fired).get? requestId = _
    rw [get_delete, stands.timer]
    simp [eq_comm]
  · have gone := @has_delete _ _ _ caller.subscriptions fired requestId
    rw [stands.subscription] at gone
    rw [Bool.eq_iff_iff]
    refine gone.trans ?_
    by_cases hit : fired = requestId
    · simp [hit]
    · simp [hit, Ne.symm hit]
  · change (caller.channel.pendingResponseCleanups.erase fired).count requestId = _
    by_cases hit : fired = requestId
    · subst hit
      rw [count_erase_self, stands.cleanup, if_pos rfl]
      cases late <;> rfl
    · rw [count_erase_of_ne (Ne.symm hit), stands.cleanup, if_neg hit]

theorem stands_ask (stands : caller.Stands requestId told late) (other : requestId ≠ caller.channel.uuid)
    (sentEvent : String) {route : Except Thrown String} (payload : PondObject) (timeoutMs : Nat)
    (clean : caller.channel.closed = true ∨ (route.isOk = true ∧ ¬caller.refused)) :
    (caller.ask sentEvent route payload timeoutMs).Stands requestId told late := by
  unfold ask
  cases closed : caller.channel.closed with
  | true =>
    refine ⟨?_, stands.timer, stands.subscription, stands.cleanup⟩
    rw [if_pos rfl, settled_settle, if_neg (Ne.symm other), append_nil]
    exact stands.settled
  | false =>
    obtain ⟨built, taken⟩ := clean.resolve_left (by rw [closed]; exact Bool.false_ne_true)
    cases route with
    | error => cases built
    | ok event =>
      obtain ⟨quiet, cleanups, -, -⟩ := @response_frame caller.channel event payload closed taken
      rw [if_neg Bool.false_ne_true]
      dsimp only
      rw [← Prod.eta (caller.channel.sendForResponse event payload), quiet]
      refine ⟨stands.settled, ?_, ?_, ?_⟩
      · exact (get_set_other other).trans stands.timer
      · rw [Bool.eq_iff_iff, OrderedSet.add, has_set, stands.subscription]
        simp [other]
      · rw [cleanups, count_append, stands.cleanup]
        simp [Ne.symm other]

-- What the operation settles this request with, if it waits.
def given (caller : Caller) (requestId : String) (late : Option Thrown) (op : CallerOp) : Option Settlement :=
  late.bind fun late => caller.answer wire requestId late op

theorem stands_given (stands : caller.Stands requestId told late) {given : Option Settlement} (nothing : given = none) :
    caller.Stands requestId (told ++ given.toList) (if given.isSome = true then none else late) := by
  rw [nothing]
  simpa using stands

theorem stands_receive (stands : caller.Stands requestId told late) (data : ChannelEvent) :
    (caller.receive wire data).Stands requestId
      (told ++ (caller.given wire requestId late (.channel (.receive data))).toList)
      (if (caller.given wire requestId late (.channel (.receive data))).isSome = true then none else late) := by
  have moved : Stands { caller with channel := caller.channel.receive data } requestId told late :=
    stands_moved stands rfl rfl rfl (aside_receive data)
  have waits := stands.subscription
  unfold receive
  by_cases hit : wire data.requestId = requestId
  · subst hit
    rw [waits]
    cases heard : hears caller.channel data with
    | false =>
      refine stands_given moved ?_
      simp [given, answer, heard]
    | true =>
      cases late with
      | none => exact stands_given moved rfl
      | some =>
        have done := stands_finish moved (wire data.requestId) (.ok data.payload)
        simpa [given, answer, heard] using done
  · have silent : caller.given wire requestId late (.channel (.receive data)) = none := by
      cases late <;> simp [given, answer, hit]
    refine stands_given ?_ silent
    split
    · have done := stands_finish moved (wire data.requestId) (.ok data.payload)
      rw [if_neg hit, if_neg hit, append_nil] at done
      exact done
    · exact moved

theorem stands_timeout (stands : caller.Stands requestId told late) (fired : String) :
    (caller.responseTimeout fired).Stands requestId
      (told ++ (caller.given wire requestId late (.channel (.responseTimeout fired))).toList)
      (if (caller.given wire requestId late (.channel (.responseTimeout fired))).isSome = true then none else late) := by
  unfold responseTimeout
  by_cases hit : fired = requestId
  · subst hit
    rw [stands.timer]
    cases late with
    | none => exact stands_given stands rfl
    | some late =>
      have done := stands_finish stands fired (.error late)
      simpa [given, answer] using done
  · have silent : caller.given wire requestId late (.channel (.responseTimeout fired)) = none := by
      cases late <;> simp [given, answer, hit]
    refine stands_given ?_ silent
    split
    · exact stands
    · rename_i other _
      have done := stands_finish stands fired (.error other)
      rw [if_neg hit, if_neg hit, append_nil] at done
      exact done

theorem stands_leave (stands : caller.Stands requestId told late)
    (nobody : caller.channel.pendingResponseCleanups = []) : caller.leave.Stands requestId told late := by
  have waits := stands.cleanup
  rw [nobody] at waits
  cases late with
  | some => cases waits
  | none =>
    refine ⟨stands.settled, ?_, rfl, ?_⟩
    · dsimp only [leave]
      rw [nobody]
      exact stands.timer
    · rfl

theorem stands_step (stands : caller.Stands requestId told late) (clean : caller.Clean op)
    (other : asks op = true → requestId ≠ caller.channel.uuid) :
    (caller.step wire op).Stands requestId (told ++ (caller.given wire requestId late op).toList)
      (if (caller.given wire requestId late op).isSome = true then none else late) := by
  have silent : (late.bind fun _ => none : Option Settlement) = none := by
    cases late <;> rfl
  have quiet : ∀ next : Channel, Aside caller.channel next →
      Stands { caller with channel := next } requestId (told ++ (late.bind fun _ => none : Option Settlement).toList)
        (if (late.bind fun _ => none : Option Settlement).isSome = true then none else late) := by
    intro next aside
    refine stands_given ?_ silent
    exact stands_moved stands rfl rfl rfl aside
  cases op with
  | ask sentEvent _ payload timeoutMs =>
    exact stands_given (stands_ask stands (other rfl) sentEvent payload timeoutMs clean) silent
  | channel op =>
    cases op with
    | sendForResponse event payload =>
      have asked : (caller.ask event (.ok event) payload 30000).Stands requestId told late :=
        stands_ask stands (other rfl) event payload 30000 (clean.imp_right fun taken => ⟨rfl, taken⟩)
      exact stands_given asked silent
    | responseTimeout fired => exact stands_timeout wire stands fired
    | receive data => exact stands_receive wire stands data
    | leave => exact stands_given (stands_leave stands clean) silent
    | _ => exact quiet _ (aside_step rfl)

theorem drawn_ask (sentEvent : String) (route : Except Thrown String) (payload : PondObject) (timeoutMs : Nat) :
    (caller.ask sentEvent route payload timeoutMs).channel.uuids = caller.channel.uuids ∧
      (caller.ask sentEvent route payload timeoutMs).channel.drawn = caller.channel.drawn + 1 := by
  unfold ask
  cases closed : caller.channel.closed with
  | true => exact ⟨rfl, rfl⟩
  | false =>
    rw [if_neg Bool.false_ne_true]
    cases route with
    | error => exact ⟨rfl, rfl⟩
    | ok event =>
      have framed : (caller.channel.sendForResponse event payload).1.uuids = caller.channel.uuids ∧
          (caller.channel.sendForResponse event payload).1.drawn = caller.channel.drawn + 1 := by
        simp only [Channel.sendForResponse, closed, Bool.false_eq_true, if_false]
        rw [Channel.publish_frame]
        exact ⟨rfl, rfl⟩
      dsimp only
      split
      · rename_i sent
        rw [sent] at framed
        exact framed
      · rename_i sent
        rw [sent] at framed
        exact framed

theorem drawn_step (caller : Caller) (op : CallerOp) :
    (caller.step wire op).channel.uuids = caller.channel.uuids ∧
      caller.channel.drawn + (asks op).toNat ≤ (caller.step wire op).channel.drawn := by
  have aside : ∀ next : Channel, Aside caller.channel next →
      next.uuids = caller.channel.uuids ∧ caller.channel.drawn + 0 ≤ next.drawn :=
    fun next aside => ⟨aside.uuids, aside.drawn⟩
  cases op with
  | ask sentEvent route payload timeoutMs =>
    obtain ⟨uuids, drawn⟩ := @drawn_ask caller sentEvent route payload timeoutMs
    exact ⟨uuids, drawn.ge⟩
  | channel op =>
    cases op with
    | sendForResponse event payload =>
      obtain ⟨uuids, drawn⟩ := @drawn_ask caller event (.ok event) payload 30000
      exact ⟨uuids, drawn.ge⟩
    | responseTimeout =>
      dsimp only [step, responseTimeout]
      split <;> exact ⟨rfl, le_rfl⟩
    | receive data =>
      have heard := aside _ (@aside_receive caller.channel data)
      dsimp only [step, receive]
      split <;> exact heard
    | leave => exact ⟨leave_frame.1, leave_frame.2.1 ▸ Nat.le_succ _⟩
    | _ => exact aside (caller.channel.step _) (aside_step rfl)

def Blank (caller : Caller) : Prop :=
  ∀ index, caller.channel.drawn ≤ index → caller.Stands (caller.channel.uuids.draw index) [] none

theorem blank_step (blank : caller.Blank) (clean : caller.Clean op) : (caller.step wire op).Blank := by
  intro index later
  obtain ⟨uuids, drawn⟩ := drawn_step wire caller op
  rw [uuids]
  refine stands_step wire (blank index (by omega)) clean fun asking same => ?_
  rw [asking] at drawn
  have exact := caller.channel.uuids.distinct _ _ same
  dsimp only [Bool.toNat_true] at drawn
  omega

variable {labels : List CallerOp}

theorem stands_run {index : Nat} (drawn : index < caller.channel.drawn)
    (stands : caller.Stands (caller.channel.uuids.draw index) told late)
    (clean : Follows (step wire) Clean caller labels) :
    let settlement := late.bind fun late => outcome wire (caller.channel.uuids.draw index) late caller labels
    (run (step wire) caller labels).Stands (caller.channel.uuids.draw index) (told ++ settlement.toList)
      (if settlement.isSome = true then none else late) := by
  induction labels generalizing caller told late with
  | nil =>
    refine stands_given stands ?_
    cases late <;> rfl
  | cons op _ ih =>
    obtain ⟨uuids, _⟩ := drawn_step wire caller op
    have one := stands_step wire stands clean.1 fun _ same =>
      absurd (caller.channel.uuids.distinct _ _ same) (Nat.ne_of_lt drawn)
    rw [← uuids] at one
    have all := ih (by omega) one clean.2
    rw [uuids] at all
    cases late with
    | none => simpa [given, run] using all
    | some late =>
      cases answered : caller.answer wire (caller.channel.uuids.draw index) late op with
      | none | some => simpa [given, answered, outcome, run] using all

def closedReceiver : Settlement := .error (.error "Cannot subscribe to a closed subject")

theorem stands_asked (blank : caller.Blank) (sentEvent : String) (route : Except Thrown String) (payload : PondObject)
    (timeoutMs : Nat) (clean : caller.Clean (.ask sentEvent route payload timeoutMs)) :
    (caller.ask sentEvent route payload timeoutMs).Stands caller.channel.uuid
      (if caller.channel.closed = true then [closedReceiver] else [])
      (if caller.channel.closed = true then none else some (timedOut sentEvent timeoutMs)) := by
  have fresh : caller.Stands caller.channel.uuid [] none := blank _ le_rfl
  unfold ask
  cases closed : caller.channel.closed with
  | true =>
    refine ⟨?_, fresh.timer, fresh.subscription, fresh.cleanup⟩
    rw [if_pos rfl, settled_settle, if_pos rfl]
    exact congrArg (· ++ _) fresh.settled
  | false =>
    obtain ⟨built, taken⟩ := clean.resolve_left (by rw [closed]; exact Bool.false_ne_true)
    cases route with
    | error => cases built
    | ok event =>
      obtain ⟨quiet, cleanups, -, -⟩ := @response_frame caller.channel event payload closed taken
      rw [if_neg Bool.false_ne_true]
      dsimp only
      rw [← Prod.eta (caller.channel.sendForResponse event payload), quiet]
      refine ⟨fresh.settled, get_set_same, ?_, ?_⟩
      · exact has_set.mpr (.inl rfl)
      · rw [cleanups, count_append, fresh.cleanup]
        simp

variable (name : String) (joinParams : PondObject) (maxQueueSize : Nat) (uuids : UuidSource)

def new (state : ConnectionState) : Caller := { channel := .new name joinParams maxQueueSize uuids state }

theorem blank_run (state : ConnectionState)
    (clean : Follows (step wire) Clean (new name joinParams maxQueueSize uuids state) labels) :
    (run (step wire) (new name joinParams maxQueueSize uuids state) labels).Blank :=
  run_keeps (step wire) Clean Blank (fun _ _ blank clean => blank_step wire blank clean) _ labels
    (fun _ _ => ⟨rfl, rfl, rfl, rfl⟩) clean

end Caller

end PondSocket.Js
