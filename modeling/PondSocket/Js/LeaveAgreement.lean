import PondSocket.Js.JoinServer

namespace PondSocket.Js

open Library List BehaviorSubject EndpointEngine Channel

variable {requestId : String}

variable {message : ChannelEvent}

namespace Channel

variable (channel : Channel) (name : String) (state : ChannelState)

structure Stands (channel : Channel) (state : ChannelState) (pending : Option String) : Prop where
  connected : channel.connected = true
  queue : channel.queue = []
  joinState : channel.joinState = state
  pending : channel.pendingJoinRequestId = pending

structure Moves (channel next : Channel) (state : ChannelState) (pending : Option String)
    (messages : List ClientMessage) : Prop where
  name : next.name = channel.name
  published : next.published = channel.published ++ messages
  stands : next.Stands state pending

def joinRequest (channel : Channel) : ClientMessage :=
  channel.message .joinChannel ClientActions.joinChannel.text channel.joinParams

def leaveNotice (channel : Channel) : ClientMessage :=
  channel.message .leaveChannel ClientActions.leaveChannel.text .empty

variable {state}

variable {pending : Option String}

theorem moves_nowhere (stands : channel.Stands state pending) : channel.Moves channel state pending [] :=
  ⟨rfl, (append_nil _).symm, stands⟩

theorem moves_join (stands : channel.Stands state pending) (unjoined : state ≠ .joined) (unasked : state ≠ .joining) :
    channel.Moves channel.join .joining (some channel.uuid) [channel.joinRequest] := by
  have free : ¬ (channel.joinState = .joined ∨ channel.joinState = .joining) := by
    rw [stands.joinState]
    rintro (same | same)
    · exact unjoined same
    · exact unasked same
  have spec : channel.join = { channel with lastError := none, joinState := .joining }.sendJoinRequest := by
    rw [join, if_neg free]
    exact if_pos stands.connected
  rw [spec, send_frame]
  exact ⟨rfl, rfl, stands.connected, stands.queue, rfl, rfl⟩

theorem moves_join_busy (stands : channel.Stands state pending) (busy : state = .joined ∨ state = .joining) :
    channel.Moves channel.join state pending [] := by
  have spec : channel.join = channel := if_pos (by rw [stands.joinState]; exact busy)
  rw [spec]
  exact moves_nowhere channel stands

theorem moves_leave (stands : channel.Stands state pending) :
    channel.Moves channel.leave .closed none (if state = .joined then [channel.leaveNotice] else []) := by
  have linked : ∀ next : Channel,
      next.clientState = (channel.clientState.release channel.connectionWaitSub).release channel.presenceSub →
        next.connected = true := by
    intro next same
    rw [connected, same, release_value, release_value]
    exact stands.connected
  by_cases joined : state = .joined
  · simp only [leave, stands.joinState, if_pos joined]
    rw [clear_join_timeout_frame]
    exact ⟨rfl, rfl, linked _ rfl, rfl, rfl, rfl⟩
  simp only [leave, stands.joinState, if_neg joined]
  rw [clear_join_timeout_frame]
  exact ⟨rfl, (append_nil _).symm, linked _ rfl, rfl, rfl, rfl⟩

theorem moves_acknowledge (stands : channel.Stands .joining (some requestId)) :
    channel.Moves (channel.acknowledge (some requestId)) .joined none [] := by
  have awaits : channel.awaitsReply = true := by simp [awaitsReply, stands.joinState]
  have hit : channel.misses (some requestId) = false := by simp [misses, stands.pending]
  obtain ⟨_, _, spec⟩ := acknowledge_frame awaits hit
  rw [stands.queue, stands.connected] at spec
  rw [spec]
  refine ⟨rfl, ?_, ?_, ?_, rfl, rfl⟩
  · simp
  · exact (congrArg (fun state => decide (state = ConnectionState.connected))
      (release_value channel.clientState channel.presenceSub)).trans stands.connected
  · simp

theorem moves_timeout (stands : channel.Stands state pending)
    (other : channel.timers.contains requestId = true → pending ≠ some requestId) :
    channel.Moves (channel.joinTimeout requestId) state pending [] := by
  simp only [joinTimeout]
  split
  · rename_i armed
    rw [if_pos (by rw [stands.pending]; exact other armed)]
    exact ⟨rfl, (append_nil _).symm, stands.connected, stands.queue, stands.joinState, stands.pending⟩
  · exact moves_nowhere channel stands

structure Speaks (channel : Channel) (name : String) : Prop where
  named : channel.name = name
  published : ∀ message ∈ channel.published, message.channelName = name
  queued : ∀ message ∈ channel.queue, message.channelName = name

variable {channel name}

theorem speaks_publisher (message : ClientMessage) (speaks : channel.Speaks name)
    (same : message.channelName = name) : (channel.publisher message).Speaks name := by
  refine ⟨speaks.named, fun sent member => ?_, speaks.queued⟩
  rcases mem_append.mp member with old | new
  · exact speaks.published sent old
  · rw [mem_singleton.mp new]
    exact same

theorem speaks_crosses : Crosses fun before after => before.Speaks name → after.Speaks name where
  refl _ := id
  trans first second speaks := second (first speaks)
  send channel speaks := by
    have sent := speaks_publisher (channel.message .joinChannel ClientActions.joinChannel.text channel.joinParams) speaks
      speaks.named
    rw [send_frame]
    exact ⟨sent.named, sent.published, sent.queued⟩
  stall channel speaks := by
    rw [stall_frame]
    exact ⟨speaks.named, speaks.published, speaks.queued⟩
  wait _ _ _ speaks := ⟨speaks.named, speaks.published, speaks.queued⟩
  joining _ speaks := ⟨speaks.named, speaks.published, speaks.queued⟩

theorem speaks_acknowledge (requestId : Option String)
    (speaks : channel.Speaks name) : (channel.acknowledge requestId).Speaks name := by
  by_cases taken : channel.awaitsReply = true ∧ channel.misses requestId = false
  · obtain ⟨_, _, framed⟩ := acknowledge_frame taken.1 taken.2
    rw [framed]
    cases shut : channel.closed with
    | true => exact ⟨speaks.named, speaks.published, speaks.queued⟩
    | false =>
      refine ⟨speaks.named, fun message member => ?_, fun message member => absurd member not_mem_nil⟩
      exact (mem_append.mp member).elim (speaks.published message) (speaks.queued message)
  · rw [(reply_idle taken).1]
    exact speaks

theorem speaks_decline {payload : PondErrorPayload} {requestId : Option String}
    (speaks : channel.Speaks name) : (channel.decline payload requestId).Speaks name := by
  by_cases taken : channel.awaitsReply = true ∧ channel.misses requestId = false
  · rw [decline_frame taken.1 taken.2]
    exact ⟨speaks.named, speaks.published, fun message member => absurd member not_mem_nil⟩
  · rw [(reply_idle taken).2]
    exact speaks

theorem speaks_leave (speaks : channel.Speaks name) : channel.leave.Speaks name := by
  simp only [leave]
  rw [clear_join_timeout_frame]
  split
  · have sent := speaks_publisher (channel.message .leaveChannel ClientActions.leaveChannel.text .empty) speaks
      speaks.named
    exact ⟨sent.named, sent.published, fun message member => absurd member not_mem_nil⟩
  · exact ⟨speaks.named, speaks.published, fun message member => absurd member not_mem_nil⟩

theorem speaks_timeout {name : String} (speaks : channel.Speaks name) :
    (channel.joinTimeout requestId).Speaks name := by
  simp only [joinTimeout]
  split
  · split
    · exact ⟨speaks.named, speaks.published, speaks.queued⟩
    · exact speaks_decline ⟨speaks.named, speaks.published, speaks.queued⟩
  · exact speaks

theorem speaks_dispatch {wire : RequestId → String} {channel : Channel} {name : String} (speaks : channel.Speaks name) :
    (channel.dispatch wire message).Speaks name := by
  simp only [dispatch]
  split
  · split
    · exact speaks_acknowledge _ speaks
    · exact speaks
  split
  · split
    · exact speaks_decline speaks
    · exact speaks
  split
  · exact connection_crosses speaks_crosses channel _ speaks
  · rw [receive_frame]
    exact ⟨speaks.named, speaks.published, speaks.queued⟩

end Channel

-- One client channel and the endpoint at the other end of its open connection,
-- with what is under way in both directions.
structure JoinLink where
  channel : Channel
  endpoint : EndpointEngine
  clientId : UserId
  uuid : NodeId → Nat → String
  toServer : List ClientMessage
  toClient : List ChannelEvent

inductive JoinLinkOp where
  | join
  | leave
  | joinTimeout (requestId : String)
  | deliver
  | accept (context : Nat) (assigns : Option PondAssigns)
  | receive

namespace JoinLink

variable (clientId : UserId) (name : String) (lobby : Nat)

def wire (link : JoinLink) (requestId : RequestId) : String :=
  match requestId with
  | .supplied text => text
  | .generated nodeId index => link.uuid nodeId index

def start (name : String) (joinParams : PondObject) (maxQueueSize : Nat) (uuids : UuidSource) (path : String)
    (backend : Option DistributedBackend) (nodeIds : Nat → NodeId) (patterns : List (String → Bool))
    (clientId : UserId) (assigns : PondAssigns) (uuid : NodeId → Nat → String) : JoinLink where
  channel := .new name joinParams maxQueueSize uuids .connected
  endpoint := (EndpointEngine.new path backend nodeIds patterns).manageSocket clientId assigns
  clientId := clientId
  uuid := uuid
  toServer := []
  toClient := []

def act (link : JoinLink) (next : Channel) : JoinLink :=
  { link with
    channel := next
    toServer := link.toServer ++ next.published.drop link.channel.published.length }

def serve (link : JoinLink) (action : EndpointEngine → EndpointEngine) : JoinLink :=
  let next := action link.endpoint.silence
  { link with endpoint := next, toClient := link.toClient ++ next.written link.clientId }

def step (link : JoinLink) (label : Nat × JoinLinkOp) : JoinLink :=
  match label.2 with
  | .join => link.act link.channel.join
  | .leave => link.act link.channel.leave
  | .joinTimeout requestId => link.act (link.channel.joinTimeout requestId)
  | .deliver =>
    match link.toServer with
    | [] => link
    | message :: rest =>
      { link with toServer := rest }.serve fun endpoint => endpoint.handleMessage label.1 link.clientId message
  | .accept context assigns => link.serve fun endpoint => endpoint.acceptAndReturn label.1 context assigns
  | .receive =>
    match link.toClient with
    | [] => link
    | message :: rest => { link with toClient := rest }.act (link.channel.dispatch link.wire message)

def Member (link : JoinLink) : Prop :=
  ∃ (place : Nat) (row : Nat × ChannelEngine), link.endpoint.engines[place]? = some row ∧ row.2.name = link.channel.name ∧
    (row.2.tables.lists link.clientId ∨ row.2.tables.hosts link.clientId)

def Agrees (link : JoinLink) : Prop :=
  link.toServer = [] → link.toClient = [] →
    (link.channel.joinState = .closed ∨ link.channel.joinState = .declined) → ¬ link.Member

def matched (link : JoinLink) : Bool := (link.endpoint.firstMatch 0 link.channel.name).isSome

-- While a request that the server will accept is out, the channel is not left
-- and the request does not time out.
def Sound (link : JoinLink) (label : Nat × JoinLinkOp) : Prop :=
  match label.2 with
  | .leave => link.matched = true → link.channel.pendingJoinRequestId = none
  | .joinTimeout requestId =>
    link.matched = true → link.channel.timers.contains requestId = true →
      link.channel.pendingJoinRequestId ≠ some requestId
  | _ => True

def Asks (message : ClientMessage) (name requestId : String) : Prop :=
  message.action = .joinChannel ∧ message.channelName = name ∧ message.requestId = requestId

def Parts (message : ClientMessage) (name : String) : Prop :=
  message.action = .leaveChannel ∧ message.channelName = name

def Grants (message : ChannelEvent) (name requestId : String) : Prop :=
  message.event = Events.acknowledge ∧ message.channelName = name ∧ message.requestId = .supplied requestId

-- Where the two ends stand to each other, with what is under way to the server
-- and to the client.
inductive Phase (clientId : UserId) (name : String) (lobby : Nat) (channel : Channel) (endpoint : EndpointEngine) :
    List ClientMessage → List ChannelEvent → Prop where
  | away (state : ChannelState) (stands : channel.Stands state none) (idle : state ≠ .joined) (unasked : state ≠ .joining)
      (vacant : endpoint.Vacant clientId name lobby) : Phase clientId name lobby channel endpoint [] []
  | asked (requestId : String) (request : ClientMessage) (stands : channel.Stands .joining (some requestId))
      (asks : Asks request name requestId) (vacant : endpoint.Vacant clientId name lobby) :
      Phase clientId name lobby channel endpoint [request] []
  | waiting (requestId : String) (stands : channel.Stands .joining (some requestId))
      (waiting : endpoint.Waiting clientId name lobby requestId) : Phase clientId name lobby channel endpoint [] []
  | granted (requestId : String) (reply : ChannelEvent) (stands : channel.Stands .joining (some requestId))
      (grants : Grants reply name requestId) (seated : endpoint.Seated clientId name lobby) :
      Phase clientId name lobby channel endpoint [] [reply]
  | inside (stands : channel.Stands .joined none) (seated : endpoint.Seated clientId name lobby) :
      Phase clientId name lobby channel endpoint [] []
  | leaving (notice : ClientMessage) (stands : channel.Stands .closed none) (parts : Parts notice name)
      (seated : endpoint.Seated clientId name lobby) : Phase clientId name lobby channel endpoint [notice] []
  | turning (requestId : String) (notice request : ClientMessage) (stands : channel.Stands .joining (some requestId))
      (parts : Parts notice name) (asks : Asks request name requestId) (seated : endpoint.Seated clientId name lobby) :
      Phase clientId name lobby channel endpoint [notice, request] []

variable {clientId lobby}

variable {toServer : List ClientMessage} {endpoint : EndpointEngine} {toClient : List ChannelEvent}

theorem phase_facing {channel : Channel} (phase : Phase clientId name lobby channel endpoint toServer toClient) :
    endpoint.Facing clientId name lobby := by
  cases phase with
  | away _ _ _ _ vacant => exact vacant.facing
  | asked _ _ _ _ vacant => exact vacant.facing
  | waiting _ _ waiting => exact waiting.facing
  | granted _ _ _ _ seated => exact seated.facing
  | inside _ seated => exact seated.facing
  | leaving _ _ _ seated => exact seated.facing
  | turning _ _ _ _ _ _ seated => exact seated.facing

theorem phase_stood {channel : Channel} (phase : Phase clientId name lobby channel endpoint toServer toClient) :
    ∃ state pending, channel.Stands state pending := by
  cases phase with
  | away _ stands => exact ⟨_, _, stands⟩
  | asked _ _ stands => exact ⟨_, _, stands⟩
  | waiting _ stands => exact ⟨_, _, stands⟩
  | granted _ _ stands => exact ⟨_, _, stands⟩
  | inside stands => exact ⟨_, _, stands⟩
  | leaving _ stands => exact ⟨_, _, stands⟩
  | turning _ _ _ stands => exact ⟨_, _, stands⟩

theorem phase_silence {channel : Channel} (phase : Phase clientId name lobby channel endpoint toServer toClient) :
    Phase clientId name lobby channel endpoint.silence toServer toClient := by
  cases phase with
  | away state stands idle unasked vacant =>
    exact .away state stands idle unasked (endpoint.vacant_silence name vacant)
  | asked requestId request stands asks vacant =>
    exact .asked requestId request stands asks (endpoint.vacant_silence name vacant)
  | waiting requestId stands waiting =>
    exact .waiting requestId stands (endpoint.waiting_silence name waiting)
  | granted requestId reply stands grants seated =>
    exact .granted requestId reply stands grants (endpoint.seated_silence name seated)
  | inside stands seated => exact .inside stands (endpoint.seated_silence name seated)
  | leaving notice stands parts seated =>
    exact .leaving notice stands parts (endpoint.seated_silence name seated)
  | turning requestId notice request stands parts asks seated =>
    exact .turning requestId notice request stands parts asks (endpoint.seated_silence name seated)

variable {next : Channel}

theorem phase_stands {channel : Channel} (phase : Phase clientId name lobby channel endpoint toServer toClient)
    (same : ∀ state pending, channel.Stands state pending → next.Stands state pending) :
    Phase clientId name lobby next endpoint toServer toClient := by
  cases phase with
  | away state stands idle unasked vacant => exact .away state (same _ _ stands) idle unasked vacant
  | asked requestId request stands asks vacant => exact .asked requestId request (same _ _ stands) asks vacant
  | waiting requestId stands waiting => exact .waiting requestId (same _ _ stands) waiting
  | granted requestId reply stands grants seated => exact .granted requestId reply (same _ _ stands) grants seated
  | inside stands seated => exact .inside (same _ _ stands) seated
  | leaving notice stands parts seated => exact .leaving notice (same _ _ stands) parts seated
  | turning requestId notice request stands parts asks seated =>
    exact .turning requestId notice request (same _ _ stands) parts asks seated

theorem phase_join {channel : Channel} (named : channel.name = name)
    (phase : Phase clientId name lobby channel endpoint toServer toClient) :
    ∃ state pending messages, channel.Moves channel.join state pending messages ∧
      Phase clientId name lobby channel.join endpoint (toServer ++ messages) toClient := by
  have asks : Asks channel.joinRequest name channel.uuid := ⟨rfl, named, rfl⟩
  have busy : ∀ state pending, channel.Stands state pending → state = .joined ∨ state = .joining →
      ∃ state pending messages, channel.Moves channel.join state pending messages ∧
        Phase clientId name lobby channel.join endpoint (toServer ++ messages) toClient := by
    intro state pending stands busy
    have moves := channel.moves_join_busy stands busy
    have same : channel.join = channel := if_pos (by rw [stands.joinState]; exact busy)
    refine ⟨state, pending, [], moves, ?_⟩
    rw [append_nil, same]
    exact phase
  cases phase with
  | away _ stands idle unasked vacant =>
    have moves := channel.moves_join stands idle unasked
    exact ⟨_, _, _, moves, .asked channel.uuid channel.joinRequest moves.stands asks vacant⟩
  | leaving notice stands parts seated =>
    have moves := channel.moves_join stands (by decide) (by decide)
    exact ⟨_, _, _, moves, .turning channel.uuid notice channel.joinRequest moves.stands parts asks seated⟩
  | asked _ _ stands => exact busy _ _ stands (.inr rfl)
  | waiting _ stands => exact busy _ _ stands (.inr rfl)
  | granted _ _ stands => exact busy _ _ stands (.inr rfl)
  | inside stands => exact busy _ _ stands (.inl rfl)
  | turning _ _ _ stands => exact busy _ _ stands (.inr rfl)

theorem phase_leave {channel : Channel} (named : channel.name = name) (answered : channel.pendingJoinRequestId = none)
    (phase : Phase clientId name lobby channel endpoint toServer toClient) :
    ∃ state pending messages, channel.Moves channel.leave state pending messages ∧
      Phase clientId name lobby channel.leave endpoint (toServer ++ messages) toClient := by
  have pending : ∀ state requestId, ¬ channel.Stands state (some requestId) := by
    intro state requestId stands
    rw [stands.pending] at answered
    cases answered
  cases phase with
  | away _ stands idle _ vacant =>
    have moves := channel.moves_leave stands
    rw [if_neg idle] at moves
    exact ⟨_, _, _, moves, .away .closed moves.stands (by decide) (by decide) vacant⟩
  | inside stands seated =>
    have moves := channel.moves_leave stands
    exact ⟨_, _, _, moves, .leaving channel.leaveNotice moves.stands ⟨rfl, named⟩ seated⟩
  | leaving notice stands parts seated =>
    have moves := channel.moves_leave stands
    exact ⟨_, _, _, moves, .leaving notice moves.stands parts seated⟩
  | asked _ _ stands => exact absurd stands (pending _ _)
  | waiting _ stands => exact absurd stands (pending _ _)
  | granted _ _ stands => exact absurd stands (pending _ _)
  | turning _ _ _ stands => exact absurd stands (pending _ _)

theorem phase_settled {channel : Channel} (phase : Phase clientId name lobby channel endpoint toServer toClient) :
    (∀ (id : Nat) context, endpoint.contexts[id]? = some context → context.finished = true) ∨
      ∃ requestId, channel.Stands .joining (some requestId) ∧ endpoint.Waiting clientId name lobby requestId ∧
        toServer = [] ∧ toClient = [] := by
  cases phase with
  | away _ _ _ _ vacant => exact .inl vacant.settled
  | asked _ _ _ _ vacant => exact .inl vacant.settled
  | waiting requestId stands waiting => exact .inr ⟨requestId, stands, waiting, rfl, rfl⟩
  | granted _ _ _ _ seated => exact .inl seated.settled
  | inside _ seated => exact .inl seated.settled
  | leaving _ _ _ seated => exact .inl seated.settled
  | turning _ _ _ _ _ _ seated => exact .inl seated.settled

theorem phase_accept {channel : Channel} {now id : Nat} {assigns : Option PondAssigns} (silent : endpoint.Silent)
    (phase : Phase clientId name lobby channel endpoint toServer toClient) :
    Phase clientId name lobby channel (endpoint.acceptAndReturn now id assigns) toServer
      (toClient ++ (endpoint.acceptAndReturn now id assigns).written clientId) := by
  have still : endpoint.acceptAndReturn now id assigns = endpoint →
      Phase clientId name lobby channel (endpoint.acceptAndReturn now id assigns) toServer
        (toClient ++ (endpoint.acceptAndReturn now id assigns).written clientId) := by
    intro same
    rw [same, endpoint.written_silent silent, append_nil]
    exact phase
  rcases phase_settled name phase with
    settled | ⟨requestId, stands, waiting, rfl, rfl⟩
  · exact still (endpoint.accept_settled now id assigns (settled id))
  rcases endpoint.waiting_accept waiting silent with
    same | ⟨seated, reply, written, event, about, answers⟩
  · exact still same
  · rw [written]
    exact .granted requestId reply stands ⟨event, about, answers⟩ seated

theorem phase_deliver {channel : Channel} {message : ClientMessage} {rest : List ClientMessage} {now : Nat}
    (silent : endpoint.Silent) (phase : Phase clientId name lobby channel endpoint (message :: rest) toClient) :
    Phase clientId name lobby channel (endpoint.handleMessage now clientId message) rest
      (toClient ++ (endpoint.handleMessage now clientId message).written clientId) := by
  cases phase with
  | asked requestId _ stands asks vacant =>
    obtain ⟨waiting, quiet⟩ := endpoint.vacant_join name requestId vacant silent
    have same : endpoint.handleMessage now clientId message = endpoint.joinChannel clientId name requestId := by
      simp [EndpointEngine.handleMessage, asks.1, asks.2.1, asks.2.2]
    rw [same, written_silent _ quiet]
    exact .waiting requestId stands waiting
  | leaving _ stands parts seated =>
    obtain ⟨vacant, quiet⟩ := endpoint.seated_leave seated silent
    have same : endpoint.handleMessage now clientId message = endpoint.leaveChannel now clientId name := by
      simp [EndpointEngine.handleMessage, parts.1, parts.2]
    rw [same, written_silent _ quiet]
    exact .away .closed stands (by decide) (by decide) vacant
  | turning requestId _ request stands parts asks seated =>
    obtain ⟨vacant, quiet⟩ := endpoint.seated_leave seated silent
    have same : endpoint.handleMessage now clientId message = endpoint.leaveChannel now clientId name := by
      simp [EndpointEngine.handleMessage, parts.1, parts.2]
    rw [same, written_silent _ quiet]
    exact .asked requestId request stands asks vacant

theorem phase_receive {channel : Channel} {rest : List ChannelEvent} {wire : RequestId → String}
    (named : channel.name = name) (plain : ∀ text, wire (.supplied text) = text)
    (phase : Phase clientId name lobby channel endpoint toServer (message :: rest)) :
    ∃ state pending messages, channel.Moves (channel.dispatch wire message) state pending messages ∧
      Phase clientId name lobby (channel.dispatch wire message) endpoint (toServer ++ messages) rest := by
  cases phase with
  | granted requestId _ stands grants seated =>
    have moves := channel.moves_acknowledge stands
    have same : channel.dispatch wire message = channel.acknowledge (some requestId) := by
      simp [dispatch, grants.1, grants.2.1, named, grants.2.2, plain]
    rw [same]
    exact ⟨_, _, _, moves, .inside moves.stands seated⟩

structure Unserved (link : JoinLink) (name : String) : Prop where
  bare : link.endpoint.Bare name
  speaks : link.channel.Speaks name
  sent : ∀ message ∈ link.toServer, message.channelName = name

structure Served (link : JoinLink) (name : String) : Prop where
  named : link.channel.name = name
  phase : ∃ lobby, Phase link.clientId name lobby link.channel link.endpoint link.toServer link.toClient

def Inv (link : JoinLink) (name : String) : Prop := link.Unserved name ∨ link.Served name

variable {link : JoinLink}

theorem served_matched {name : String} (served : link.Served name) : link.matched = true := by
  obtain ⟨named, _, phase⟩ := served
  rw [matched, named, (phase_facing _ phase).matched]
  rfl

theorem unserved_act {name : String} (speaks : next.Speaks name) (unserved : link.Unserved name) :
    (link.act next).Unserved name := by
  refine ⟨unserved.bare, speaks, fun message member => ?_⟩
  rcases mem_append.mp member with old | new
  · exact unserved.sent message old
  · exact speaks.published message (mem_of_mem_drop new)

theorem served_act {name : String} {lobby : Nat} (named : link.channel.name = name)
    (moves : ∃ state pending messages, link.channel.Moves next state pending messages ∧
      Phase link.clientId name lobby next link.endpoint (link.toServer ++ messages) link.toClient) :
    (link.act next).Served name := by
  obtain ⟨_, _, messages, moved, phase⟩ := moves
  have spec : link.act next = { link with channel := next, toServer := link.toServer ++ messages } := by
    simp [act, moved.published]
  rw [spec]
  exact ⟨moved.name.trans named, lobby, phase⟩

theorem served_timeout {name : String} (served : link.Served name)
    (other : link.channel.timers.contains requestId = true → link.channel.pendingJoinRequestId ≠ some requestId) :
    (link.act (link.channel.joinTimeout requestId)).Served name := by
  obtain ⟨named, _, phase⟩ := served
  have still : ∀ state pending, link.channel.Stands state pending →
      link.channel.Moves (link.channel.joinTimeout requestId) state pending [] := by
    intro state pending stands
    apply link.channel.moves_timeout stands
    rw [← stands.pending]
    exact other
  obtain ⟨state, pending, stands⟩ := phase_stood _ phase
  apply served_act named
  refine ⟨state, pending, [], still state pending stands, ?_⟩
  rw [append_nil]
  exact phase_stands _ phase fun state pending stands => (still state pending stands).stands

variable {label : Nat × JoinLinkOp}

theorem unserved_step {name : String} (unserved : link.Unserved name) : (link.step label).Unserved name := by
  obtain ⟨now, op⟩ := label
  have bare := bare_silence _ unserved.bare
  cases op with
  | join => exact unserved_act (join_crosses speaks_crosses _ unserved.speaks) unserved
  | leave => exact unserved_act (speaks_leave unserved.speaks) unserved
  | joinTimeout => exact unserved_act (speaks_timeout unserved.speaks) unserved
  | deliver =>
    simp only [step]
    split
    · exact unserved
    rename_i message rest under
    have sent := unserved.sent
    rw [under] at sent
    have about : message.channelName = name := sent message mem_cons_self
    have handled := link.endpoint.silence.bare_handle now link.clientId (about ▸ bare)
    rw [about] at handled
    exact ⟨handled, unserved.speaks, fun other member => sent other (mem_cons_of_mem _ member)⟩
  | accept context assigns =>
    have same := link.endpoint.silence.accept_settled now context assigns (by simp [bare.contexts])
    refine ⟨?_, unserved.speaks, unserved.sent⟩
    change (link.endpoint.silence.acceptAndReturn now context assigns).Bare name
    rw [same]
    exact bare
  | receive =>
    simp only [step]
    split
    · exact unserved
    exact unserved_act (speaks_dispatch unserved.speaks) ⟨unserved.bare, unserved.speaks, unserved.sent⟩

theorem served_step {name : String} (served : link.Served name) (sound : link.Sound label) :
    (link.step label).Served name := by
  obtain ⟨_, op⟩ := label
  have linked := served_matched served
  obtain ⟨named, lobby, phase⟩ := served
  have quiet := phase_silence _ phase
  cases op with
  | join => exact served_act named (phase_join _ named phase)
  | leave => exact served_act named (phase_leave _ named (sound linked) phase)
  | joinTimeout => exact served_timeout ⟨named, lobby, phase⟩ (sound linked)
  | deliver =>
    simp only [step]
    split
    · exact ⟨named, lobby, phase⟩
    rename_i message rest under
    rw [under] at quiet
    exact ⟨named, lobby, phase_deliver _ link.endpoint.silence_silent quiet⟩
  | accept => exact ⟨named, lobby, phase_accept _ link.endpoint.silence_silent quiet⟩
  | receive =>
    simp only [step]
    split
    · exact ⟨named, lobby, phase⟩
    rename_i message rest under
    rw [under] at phase
    exact served_act named (phase_receive _ named (fun _ => rfl) phase)

theorem inv_step {name : String} (inv : link.Inv name) (sound : link.Sound label) : (link.step label).Inv name :=
  inv.elim (fun unserved => .inl (unserved_step unserved)) fun served =>
    .inr (served_step served sound)

theorem inv_start {joinParams : PondObject} {maxQueueSize : Nat} {uuids : UuidSource} {path : String}
    {backend : Option DistributedBackend} {nodeIds : Nat → NodeId} {patterns : List (String → Bool)}
    {clientId : UserId} {assigns : PondAssigns} {uuid : NodeId → Nat → String} :
    (start name joinParams maxQueueSize uuids path backend nodeIds patterns clientId assigns uuid).Inv name := by
  obtain ⟨sent, managed⟩ : ∃ sent, (EndpointEngine.new path backend nodeIds patterns).manageSocket clientId assigns =
      { EndpointEngine.new path backend nodeIds patterns with
        sockets := OrderedMap.empty.set clientId { assigns := assigns }
        sent := sent } := by
    simp only [manageSocket, EndpointEngine.new, OrderedMap.has_empty, Bool.false_eq_true, if_false]
    rw [EndpointEngine.send_frame]
    exact ⟨_, rfl⟩
  have linked : (start name joinParams maxQueueSize uuids path backend nodeIds patterns clientId assigns uuid).channel.connected
      = true := rfl
  cases matched : (EndpointEngine.new path backend nodeIds patterns).firstMatch 0 name with
  | none =>
    refine .inl ⟨?_, ⟨rfl, by simp [start, Channel.new], by simp [start, Channel.new]⟩, by simp [start]⟩
    simp only [start]
    rw [managed]
    exact ⟨rfl, rfl, matched⟩
  | some lobby =>
    refine .inr ⟨rfl, lobby, .away .idle ⟨linked, rfl, rfl, rfl⟩ (by decide) (by decide) ?_⟩
    simp only [start]
    rw [managed]
    have nowhere : ∀ (place : Nat) seat, (EndpointEngine.new path backend nodeIds patterns).seat place ≠ some seat := by
      intro place seat there
      cases there
    refine ⟨⟨⟨_, OrderedMap.get_set_same, rfl⟩, matched, fun place seat there => absurd there (nowhere place seat)⟩,
      fun place seat there => absurd there (nowhere place seat), ?_, ?_⟩
    · simp only [held, EndpointEngine.new, getElem?_map]
      cases patterns[lobby]? <;> rfl
    · intro id context there
      cases there

theorem inv_agrees {name : String} (inv : link.Inv name) : link.Agrees := by
  intro sent received ended
  rcases inv with unserved | ⟨_, _, phase⟩
  · rintro ⟨place, row, there, _⟩
    rw [unserved.bare.engines] at there
    cases there
  rw [sent, received] at phase
  have joining : ∀ state pending, link.channel.Stands state pending → state = .closed ∨ state = .declined := by
    intro state pending stands
    rw [← stands.joinState]
    exact ended
  cases phase with
  | away _ _ _ _ vacant =>
    rintro ⟨place, row, there, _, member⟩
    have outside := vacant.nobody place (row.1, row.2.name, row.2.tables) (by rw [seat, there]; rfl)
    exact member.elim outside.1 outside.2
  | waiting _ stands => rcases joining _ _ stands with same | same <;> cases same
  | inside stands => rcases joining _ _ stands with same | same <;> cases same

end JoinLink

end PondSocket.Js
