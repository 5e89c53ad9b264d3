import PondSocket.Js.Subject
import PondSocket.Library.Run

namespace PondSocket.Js

open Library

inductive ConnectionState where
  | disconnected
  | connecting
  | connected
deriving DecidableEq

inductive ChannelState where
  | idle
  | joining
  | joined
  | stalled
  | closed
  | declined
deriving DecidableEq

def ChannelState.text : ChannelState → String
  | .idle => "IDLE"
  | .joining => "JOINING"
  | .joined => "JOINED"
  | .stalled => "STALLED"
  | .closed => "CLOSED"
  | .declined => "DECLINED"

inductive ClientActions where
  | joinChannel
  | leaveChannel
  | broadcast
deriving DecidableEq

def ClientActions.text : ClientActions → String
  | .joinChannel => "JOIN_CHANNEL"
  | .leaveChannel => "LEAVE_CHANNEL"
  | .broadcast => "BROADCAST"

structure ClientMessage where
  action : ClientActions
  event : String
  channelName : String
  requestId : String
  payload : PondObject

structure PondErrorPayload where
  code : String
  message : JsValue
  status : JsValue
  statusCode : Option Nat := none
  details : JsValue := .undefined

-- crypto.randomUUID: the ids it draws are distinct and not empty.
structure UuidSource where
  draw : Nat → String
  distinct : ∀ first second, draw first = draw second → first = second
  solid : ∀ index, draw index ≠ ""

def UuidSource.counting : UuidSource where
  draw index := String.ofList (List.replicate (index + 1) 'u')
  distinct := by
    intro first second same
    have lengths := congrArg String.length same
    simpa using lengths
  solid := by
    intro index same
    have lengths := congrArg String.length same
    simp at lengths

-- The two observers that a channel registers with the state of its connection.
inductive ConnectionObserver where
  | connectionWait
  | stateChange
deriving DecidableEq

-- The three subjects of a channel close together. A timer is known by the request
-- it guards; published is what the publisher has been handed.
structure Channel where
  name : String
  joinParams : PondObject
  maxQueueSize : Nat
  uuids : UuidSource
  clientState : BehaviorSubject ConnectionState ConnectionObserver
  drawn : Nat := 0
  queue : List ClientMessage := []
  presence : List PondPresence := []
  presenceSub : Option Nat := none
  joinState : ChannelState := .idle
  closed : Bool := false
  joinTimeoutId : Option String := none
  timers : List String := []
  pendingJoinRequestId : Option String := none
  lastError : Option PondErrorPayload := none
  connectionWaitSub : Option Nat := none
  pendingResponseCleanups : List String := []
  published : List ClientMessage := []

-- An event has been through buildPondRoute; a call whose route cannot be built
-- throws before it touches the channel.
inductive ChannelOp where
  | acknowledge (requestId : Option String)
  | decline (payload : PondErrorPayload) (requestId : Option String)
  | join
  | leave
  | sendMessage (event : String) (payload : PondObject)
  | sendForResponse (event : String) (payload : PondObject)
  | receive (data : ChannelEvent)
  | connection (state : ConnectionState)
  | joinTimeout (requestId : String)
  | responseTimeout (requestId : String)

namespace Channel

variable (channel : Channel)

def new (name : String) (joinParams : PondObject) (maxQueueSize : Nat) (uuids : UuidSource)
    (state : ConnectionState) : Channel where
  name := name
  joinParams := joinParams
  maxQueueSize := maxQueueSize
  uuids := uuids
  clientState := .new state

def uuid (channel : Channel) : String := channel.uuids.draw channel.drawn

def connected (channel : Channel) : Bool := decide (channel.clientState.value = .connected)

def message (channel : Channel) (action : ClientActions) (event : String) (payload : PondObject) : ClientMessage where
  action := action
  event := event
  channelName := channel.name
  requestId := channel.uuid
  payload := payload

def publisher (channel : Channel) (message : ClientMessage) : Channel :=
  { channel with published := channel.published ++ [message] }

def clearJoinTimeout (channel : Channel) : Channel :=
  match channel.joinTimeoutId with
  | none => channel
  | some id => { channel with timers := channel.timers.erase id, joinTimeoutId := none }

def sendJoinRequest (channel : Channel) : Channel :=
  let message := channel.message .joinChannel ClientActions.joinChannel.text channel.joinParams
  let channel := { channel with drawn := channel.drawn + 1 }.clearJoinTimeout
  let channel := { channel with pendingJoinRequestId := some message.requestId }.publisher message
  { channel with joinTimeoutId := some message.requestId, timers := channel.timers ++ [message.requestId] }

-- JOINING and STALLED are the states in which a reply to a join is expected.
def awaitsReply (channel : Channel) : Bool := channel.joinState = .joining || channel.joinState = .stalled

-- A reply that names a request is for the pending one only; an empty id names none.
def misses (channel : Channel) (requestId : Option String) : Bool :=
  match requestId, channel.pendingJoinRequestId with
  | some id, some pending => id ≠ "" && pending ≠ "" && id ≠ pending
  | _, _ => false

def stall (channel : Channel) : Channel :=
  { channel.clearJoinTimeout with pendingJoinRequestId := none, joinState := .stalled }

-- The connection observer of #init.
def followState (channel : Channel) (state : ConnectionState) : Channel :=
  if state = .connected ∧ channel.joinState = .stalled then channel.sendJoinRequest
  else if state ≠ .connected ∧ channel.joinState = .joined then channel.stall
  else channel

def unsubscribe (channel : Channel) (subscription : Option Nat) : Channel :=
  { channel with clientState := channel.clientState.release subscription }

-- Subscribing tells the observer the current state before it is registered. A
-- closed receiver refuses the presence observer, and then #presenceSub stays as
-- it was.
def init (channel : Channel) : Channel × Option Thrown :=
  let channel := channel.unsubscribe channel.presenceSub
  let channel := channel.followState channel.clientState.value
  let id := channel.clientState.subject.nextId
  let channel := { channel with clientState := channel.clientState.attach .stateChange }
  if channel.closed then (channel, some (.error "Cannot subscribe to a closed subject"))
  else ({ channel with presenceSub := some id }, none)

def emptyQueue (channel : Channel) : Channel :=
  { channel.queue.foldl publisher channel with queue := [] }

def acknowledge (channel : Channel) (requestId : Option String) : Channel :=
  if !channel.awaitsReply then channel
  else if channel.misses requestId then channel
  else
    let channel := { channel.clearJoinTimeout with
      pendingJoinRequestId := none
      lastError := none
      joinState := .joined }
    match channel.init with
    | (channel, some _) => channel
    | (channel, none) => channel.emptyQueue

def decline (channel : Channel) (payload : PondErrorPayload) (requestId : Option String) : Channel :=
  if !channel.awaitsReply then channel
  else if channel.misses requestId then channel
  else
    { channel.clearJoinTimeout with
      pendingJoinRequestId := none
      lastError := some payload
      joinState := .declined
      queue := [] }

def join (channel : Channel) : Channel :=
  if channel.joinState = .joined ∨ channel.joinState = .joining then channel
  else
    let channel := { channel with lastError := none, joinState := .joining }
    if channel.connected then channel.sendJoinRequest
    else
      let channel := channel.unsubscribe channel.connectionWaitSub
      let id := channel.clientState.subject.nextId
      { channel with clientState := channel.clientState.attach .connectionWait, connectionWaitSub := some id }

def leave (channel : Channel) : Channel :=
  let message := channel.message .leaveChannel ClientActions.leaveChannel.text .empty
  let channel := { channel with drawn := channel.drawn + 1 }
  let channel := if channel.joinState = .joined then channel.publisher message else channel
  let channel := channel.clearJoinTimeout
  let channel := channel.unsubscribe channel.connectionWaitSub
  let channel := channel.unsubscribe channel.presenceSub
  { channel with
    connectionWaitSub := none
    pendingResponseCleanups := []
    pendingJoinRequestId := none
    queue := []
    joinState := .closed
    closed := true }

def cannotSend (channel : Channel) : Thrown :=
  .error s!"Cannot send messages while channel \"{channel.name}\" is {channel.joinState.text}"

def publish (channel : Channel) (data : ClientMessage) : Channel × Option Thrown :=
  if channel.joinState = .joined then (channel.publisher data, none)
  else if channel.joinState = .declined ∨ channel.joinState = .closed then (channel, some channel.cannotSend)
  else
    let queue := if channel.maxQueueSize ≤ channel.queue.length then channel.queue.drop 1 else channel.queue
    ({ channel with queue := queue ++ [data] }, none)

def sendMessage (channel : Channel) (event : String) (payload : PondObject) : Channel × Option Thrown :=
  let message := channel.message .broadcast event payload
  { channel with drawn := channel.drawn + 1 }.publish message

-- What it throws rejects the promise; the timer of the response stays.
def sendForResponse (channel : Channel) (event : String) (payload : PondObject) : Channel × Option Thrown :=
  let message := channel.message .broadcast event payload
  let channel := { channel with drawn := channel.drawn + 1 }
  if channel.closed then (channel, some (.error "Cannot subscribe to a closed subject"))
  else
    { channel with
      pendingResponseCleanups := channel.pendingResponseCleanups ++ [message.requestId] }.publish message

-- What the receiver and presence observers of #init do with an event. They are
-- registered as long as the connection observer that came with them.
def receive (channel : Channel) (data : ChannelEvent) : Channel :=
  if data.channelName = channel.name ∧ channel.joinState = .joined ∧
      channel.presenceSub.any (fun id => channel.clientState.observer? id = some .stateChange) = true then
    match data.action, data.payload with
    | .presence, .presence _ presence => { channel with presence := presence }
    | _, _ => channel
  else channel

def notify (state : ConnectionState) (channel : Channel) (id : Nat) : Channel :=
  match channel.clientState.observer? id with
  | none => channel
  | some .connectionWait =>
    if state = .connected then
      let channel := { channel with clientState := channel.clientState.unsubscribe id, connectionWaitSub := none }
      if channel.joinState = .joining then channel.sendJoinRequest else channel
    else channel
  | some .stateChange => channel.followState state

-- A publish of the connection state, as far as this channel observes it.
def connection (channel : Channel) (state : ConnectionState) : Channel :=
  channel.clientState.ids.foldl (notify state) { channel with clientState := channel.clientState.hold state }

def timedOut (channel : Channel) : PondErrorPayload where
  code := "CHANNEL_ERROR"
  message := .string s!"Timed out joining channel \"{channel.name}\""
  status := .number 408
  statusCode := some 408

def joinTimeout (channel : Channel) (requestId : String) : Channel :=
  if channel.timers.contains requestId then
    let channel := { channel with timers := channel.timers.erase requestId }
    if channel.pendingJoinRequestId ≠ some requestId then channel
    else channel.decline channel.timedOut (some requestId)
  else channel

def normalized (message : ChannelEvent) : PondErrorPayload :=
  let payload := match message.payload with
    | .message payload => JsValue.object payload.entries
    | .presence _ _ => JsValue.object []
  let nestedError := payload.field "error"
  let numericCode := match payload.field "code" with
    | .number code => JsValue.number code
    | _ => .undefined
  { code := match payload.field "code" with
      | .string code => code
      | _ => message.event
    message := (payload.field "message").orElse
      ((nestedError.field "message").orElse (.string "Channel request failed"))
    status := (payload.field "status").orElse ((payload.field "statusCode").orElse
      (numericCode.orElse ((nestedError.field "status").orElse (.number 500))))
    details := payload.field "details" }

-- What the client's observer does with an event for the channel of that name,
-- and the channel's own observer after it; wire is the text of a request id.
def dispatch (wire : RequestId → String) (channel : Channel) (message : ChannelEvent) : Channel :=
  if message.event = Events.acknowledge then
    if message.channelName = channel.name then channel.acknowledge (some (wire message.requestId)) else channel
  else if message.action = .error ∨ message.event = Events.unauthorized then
    if message.channelName = channel.name then
      channel.decline (normalized message) (some (wire message.requestId))
    else channel
  else if message.event = Events.connection ∧ message.action = .connect then channel.connection .connected
  else channel.receive message

def step (channel : Channel) (op : ChannelOp) : Channel :=
  match op with
  | .acknowledge requestId => channel.acknowledge requestId
  | .decline payload requestId => channel.decline payload requestId
  | .join => channel.join
  | .leave => channel.leave
  | .sendMessage event payload => (channel.sendMessage event payload).1
  | .sendForResponse event payload => (channel.sendForResponse event payload).1
  | .receive data => channel.receive data
  | .connection state => channel.connection state
  | .joinTimeout requestId => channel.joinTimeout requestId
  | .responseTimeout requestId =>
    { channel with pendingResponseCleanups := channel.pendingResponseCleanups.erase requestId }

theorem clear_join_timeout_frame :
    channel.clearJoinTimeout = { channel with
      joinTimeoutId := none
      timers := channel.clearJoinTimeout.timers } := by
  simp only [clearJoinTimeout]
  split
  · rename_i none
    rw [← none]
  · rfl

theorem publish_frame (data : ClientMessage) :
    (channel.publish data).1 = { channel with
      queue := (channel.publish data).1.queue
      published := (channel.publish data).1.published } := by
  simp only [publish]
  split
  · rfl
  · split <;> rfl

theorem receive_frame {data : ChannelEvent} :
    channel.receive data = { channel with presence := (channel.receive data).presence } := by
  simp only [receive]
  split
  · split <;> rfl
  · rfl

theorem send_frame :
    channel.sendJoinRequest = { channel with
      drawn := channel.drawn + 1
      timers := channel.sendJoinRequest.timers
      joinTimeoutId := some channel.uuid
      pendingJoinRequestId := some channel.uuid
      published := channel.published ++
        [channel.message .joinChannel ClientActions.joinChannel.text channel.joinParams] } := by
  simp only [sendJoinRequest, publisher]
  rw [clear_join_timeout_frame]
  rfl

theorem send_state : channel.sendJoinRequest.joinState = channel.joinState := by
  rw [send_frame]

theorem send_awaits : channel.sendJoinRequest.awaitsReply = channel.awaitsReply := by
  rw [awaitsReply, send_state, ← awaitsReply]

theorem send_connected : channel.sendJoinRequest.connected = channel.connected := by
  rw [send_frame]
  rfl

theorem send_pending : channel.sendJoinRequest.pendingJoinRequestId = some channel.uuid := by
  rw [send_frame]

theorem stall_frame :
    channel.stall = { channel with
      timers := channel.stall.timers
      joinTimeoutId := none
      pendingJoinRequestId := none
      joinState := .stalled } := by
  simp only [stall]
  rw [clear_join_timeout_frame]

theorem empty_queue_frame :
    channel.emptyQueue = { channel with published := channel.published ++ channel.queue, queue := [] } := by
  have pushed : ∀ (messages : List ClientMessage) (channel : Channel),
      messages.foldl publisher channel = { channel with published := channel.published ++ messages } := by
    intro messages
    induction messages with
    | nil => intro channel; simp
    | cons _ _ ih => intro channel; simp [ih, publisher]
  rw [emptyQueue, pushed]

theorem follow_joined (joined : channel.joinState = .joined) (answered : channel.pendingJoinRequestId = none) :
    ∃ timers joinTimeoutId, channel.followState channel.clientState.value = { channel with
      timers := timers
      joinTimeoutId := joinTimeoutId
      joinState := if channel.connected then .joined else .stalled } := by
  simp only [followState]
  by_cases reached : channel.clientState.value = .connected
  · have linked : channel.connected = true := decide_eq_true reached
    refine ⟨channel.timers, channel.joinTimeoutId, ?_⟩
    rw [if_neg (by simp [joined]), if_neg fun both => both.1 reached, linked, if_pos rfl, ← joined]
  have cut : channel.connected = false := decide_eq_false reached
  refine ⟨channel.stall.timers, none, ?_⟩
  rw [if_neg fun both => reached both.1, if_pos ⟨reached, joined⟩, stall_frame, cut, ← answered]
  rfl

theorem init_frame (joined : channel.joinState = .joined) (answered : channel.pendingJoinRequestId = none) :
    ∃ timers joinTimeoutId, channel.init = ({ channel with
      timers := timers
      joinTimeoutId := joinTimeoutId
      joinState := if channel.connected then .joined else .stalled
      clientState := (channel.clientState.release channel.presenceSub).attach .stateChange
      presenceSub := if channel.closed then channel.presenceSub
        else some (channel.clientState.release channel.presenceSub).subject.nextId },
      if channel.closed then some (.error "Cannot subscribe to a closed subject") else none) := by
  obtain ⟨timers, joinTimeoutId, followed⟩ := follow_joined (channel.unsubscribe channel.presenceSub) joined answered
  have linked : (channel.unsubscribe channel.presenceSub).connected = channel.connected := by
    rw [connected, connected, ← BehaviorSubject.release_value channel.clientState channel.presenceSub]
    rfl
  rw [linked] at followed
  refine ⟨timers, joinTimeoutId, ?_⟩
  simp only [init, followed]
  cases shut : channel.closed <;> simp [shut, unsubscribe]

variable {channel}

variable {requestId : Option String}

theorem acknowledge_frame (awaited : channel.awaitsReply = true) (hit : channel.misses requestId = false) :
    ∃ timers joinTimeoutId, channel.acknowledge requestId = { channel with
      timers := timers
      joinTimeoutId := joinTimeoutId
      pendingJoinRequestId := none
      lastError := none
      joinState := if channel.connected then .joined else .stalled
      clientState := (channel.clientState.release channel.presenceSub).attach .stateChange
      presenceSub := if channel.closed then channel.presenceSub
        else some (channel.clientState.release channel.presenceSub).subject.nextId
      published := if channel.closed then channel.published else channel.published ++ channel.queue
      queue := if channel.closed then channel.queue else [] } := by
  obtain ⟨timers, joinTimeoutId, started⟩ := init_frame
    { channel.clearJoinTimeout with pendingJoinRequestId := none, lastError := none, joinState := .joined } rfl rfl
  refine ⟨timers, joinTimeoutId, ?_⟩
  simp only [acknowledge, awaited, hit, started]
  rw [clear_join_timeout_frame]
  cases shut : channel.closed with
  | true => rfl
  | false => simp [empty_queue_frame, connected]

theorem decline_frame {payload : PondErrorPayload} (awaited : channel.awaitsReply = true)
    (hit : channel.misses requestId = false) :
    channel.decline payload requestId = { channel with
      timers := (channel.decline payload requestId).timers
      joinTimeoutId := none
      pendingJoinRequestId := none
      lastError := some payload
      joinState := .declined
      queue := [] } := by
  simp only [decline, awaited, hit]
  rw [clear_join_timeout_frame]
  rfl

theorem reply_idle (idle : ¬ (channel.awaitsReply = true ∧ channel.misses requestId = false)) :
    channel.acknowledge requestId = channel ∧ ∀ payload, channel.decline payload requestId = channel := by
  simp only [acknowledge, decline]
  cases awaited : channel.awaitsReply with
  | false => exact ⟨rfl, fun _ => rfl⟩
  | true =>
    cases hit : channel.misses requestId with
    | true => exact ⟨rfl, fun _ => rfl⟩
    | false => exact absurd ⟨awaited, hit⟩ idle

-- A relation that holds across all that the connection and a join do to a channel.
structure Crosses (across : Channel → Channel → Prop) : Prop where
  refl : ∀ channel, across channel channel
  trans : ∀ {first second third}, across first second → across second third → across first third
  send : ∀ channel : Channel, across channel channel.sendJoinRequest
  stall : ∀ channel : Channel, across channel channel.stall
  wait : ∀ (channel : Channel) state wait,
    across channel { channel with clientState := state, connectionWaitSub := wait }
  joining : ∀ channel : Channel, across channel { channel with lastError := none, joinState := .joining }

variable {across : Channel → Channel → Prop}

theorem follow_crosses (crosses : Crosses across) (channel : Channel) (state : ConnectionState) :
    across channel (channel.followState state) := by
  unfold followState
  split
  · exact crosses.send channel
  split
  · exact crosses.stall channel
  · exact crosses.refl channel

theorem connection_crosses (crosses : Crosses across) (channel : Channel) (state : ConnectionState) :
    across channel (channel.connection state) := by
  have notified : ∀ (channel : Channel) id, across channel (channel.notify state id) := by
    intro channel id
    unfold notify
    split
    · exact crosses.refl channel
    · have detached := crosses.wait channel (channel.clientState.unsubscribe id) none
      split
      · dsimp only
        split
        · exact crosses.trans detached (crosses.send _)
        · exact detached
      · exact crosses.refl channel
    · exact follow_crosses crosses channel state
  have told : ∀ (ids : List Nat) (channel : Channel), across channel (ids.foldl (notify state) channel) := by
    intro ids
    induction ids with
    | nil => exact crosses.refl
    | cons _ _ ih => exact fun channel => crosses.trans (notified channel _) (ih _)
  exact crosses.trans (crosses.wait channel _ channel.connectionWaitSub) (told _ _)

theorem join_crosses (crosses : Crosses across) (channel : Channel) : across channel channel.join := by
  have marked := crosses.joining channel
  unfold join
  split
  · exact crosses.refl channel
  dsimp only
  split
  · exact crosses.trans marked (crosses.send _)
  · exact crosses.trans marked (crosses.wait _ _ _)

end Channel

end PondSocket.Js
