import PondSocket.Rust.Channel

namespace PondSocket.Rust

open Library List
open Js (Json UserId NodeId)

def squeezeSlashes : List Char → List Char
  | [] => []
  | '/' :: '/' :: rest => squeezeSlashes ('/' :: rest)
  | char :: rest => char :: squeezeSlashes rest

def splitPath (path : List Char) : List (List Char) :=
  let trimmed := ((path.dropWhile (· = '/')).reverse.dropWhile (· = '/')).reverse
  let squeezed := squeezeSlashes trimmed
  if squeezed.isEmpty then [] else squeezed.splitOn '/'

def matchSegment (route path : List Char) : Bool :=
  if route.head? = some ':' then true
  else if ':' ∈ route then (route.takeWhile (· ≠ ':')).isPrefixOf path
  else decide (route = path)

def matchSegments : List (List Char) → List (List Char) → Bool
  | [], _ => true
  | _ :: _, [] => false
  | route :: routes, path :: paths => matchSegment route path && matchSegments routes paths

-- Whether parse gives a route.
def matchesRoute (route currentPath : String) : Bool :=
  let path := if currentPath = "" then ['/'] else currentPath.toList
  let routes := splitPath route.toList
  let paths := splitPath (path.takeWhile (· ≠ '?'))
  match routes.idxOf? ['*'] with
  | some index => matchSegments (routes.take index) (paths.take index)
  | none => decide (routes.length = paths.length) && matchSegments routes paths

-- What a join handler does with its context, in order.
inductive JoinCall where
  | accept (assigns : Table)
  | decline (code : Nat) (message : String)

structure JoinHandler where
  calls : List JoinCall
  result : Option PondError

-- assigns are the transport's own.
structure JoinContext where
  channel : Channel
  requestId : String
  transport : Transport
  assigns : Table
  responded : Bool
  accepted : Bool

namespace JoinContext

def ensureNotResponded (context : JoinContext) : Option PondError :=
  if context.responded then some (badRequest context.channel.name "already responded to join request") else none

def accept (context : JoinContext) (moment : Moment) (assigns : Table) : JoinContext × Option PondError :=
  match context.ensureNotResponded with
  | some error => (context, some error)
  | none =>
    let context := { context with assigns := context.assigns.merge assigns, responded := true, accepted := true }
    match context.channel.addUser moment context.transport context.assigns with
    | (channel, some error) => ({ context with channel := channel }, some error)
    | (channel, none) =>
      ({ context with channel := channel.sendAcknowledge context.requestId context.transport.id }, none)

def decline (context : JoinContext) (code : Nat) (message : String) : JoinContext × Option PondError :=
  match context.ensureNotResponded with
  | some error => (context, some error)
  | none =>
    ({ context with
      responded := true
      accepted := false
      channel := context.channel.sendUnauthorized context.requestId context.transport.id code message }, none)

def call (moment : Moment) (context : JoinContext) : JoinCall → JoinContext
  | .accept assigns => (context.accept moment assigns).1
  | .decline code message => (context.decline code message).1

def answer (context : JoinContext) (moment : Moment) (handler : JoinHandler) : JoinContext :=
  let context := handler.calls.foldl (call moment) context
  let context := match handler.result with
    | some error => if context.responded then context else (context.decline error.code error.message).1
    | none => context
  if context.responded then context else (context.decline 401 "Join handler did not respond").1

end JoinContext

structure Lobby where
  endpointPath : String
  nodeId : NodeId
  pubsub : Bool
  channels : OrderedMap String Channel

-- started says whether the start of a new channel goes through.
def Lobby.acquireForJoin (lobby : Lobby) (started : Bool) (name : String) : Option Channel :=
  match lobby.channels.get? name with
  | some channel => some channel
  | none =>
    if started then some { Channel.new name lobby.endpointPath lobby.nodeId lobby.pubsub with active := true } else none

structure ChannelRegistration where
  pattern : String
  handler : JoinHandler
  lobby : Lobby

abbrev Endpoint := List ChannelRegistration

-- What became of a JOIN_CHANNEL message: no pattern matched, the channel could not
-- be had, or the handler has run; before is the channel as it was acquired.
inductive JoinOutcome where
  | notFound (reply : Event)
  | failed
  | handled (before : Channel) (context : JoinContext)

namespace Endpoint

def registrationFor (endpoint : Endpoint) (channelName : String) : Option ChannelRegistration :=
  endpoint.find? fun registration => matchesRoute registration.pattern channelName

def handleJoin (endpoint : Endpoint) (moment : Moment) (started : Bool) (channelName requestId : String)
    (transport : Transport) (assigns : Table) : JoinOutcome :=
  match endpoint.registrationFor channelName with
  | none =>
    .notFound (Event.new "SYSTEM" channelName requestId "NOT_FOUND" (.object [("channel", .string channelName)]))
  | some registration =>
    match registration.lobby.acquireForJoin started channelName with
    | none => .failed
    | some channel =>
      .handled channel (JoinContext.answer ⟨channel, requestId, transport, assigns, false, false⟩ moment
        registration.handler)

end Endpoint

def Channel.repliesTo (after before : Channel) (transport : Transport) (requestId : String) : List Event :=
  ((after.direct.drop before.direct.length).filter fun entry =>
    decide (entry.1 = transport) && decide (entry.2.requestId = requestId)).map Prod.snd

-- Exactly one answer, an acknowledgement exactly where the user was added, which
-- is also what is_accepted tells.
def JoinOutcome.AnsweredOnce (transport : Transport) (requestId : String) : JoinOutcome → Prop
  | .notFound _ => False
  | .failed => False
  | .handled before context =>
    ∃ reply, context.channel.repliesTo before transport requestId = [reply] ∧
      (reply.event = "ACKNOWLEDGE" ∨ reply.event = "UNAUTHORIZED") ∧
        (reply.event = "ACKNOWLEDGE" ↔
          before.hasUser transport.id = false ∧ context.channel.hasUser transport.id = true) ∧
          (context.accepted = true ↔
            before.hasUser transport.id = false ∧ context.channel.hasUser transport.id = true)

-- Accepting comes first and adds the user, or something else comes first and the
-- transport is the user's connection in the channel already.
def JoinHandler.Answers (handler : JoinHandler) (channel : Channel) (transport : Transport) : Prop :=
  match handler.calls with
  | .accept _ :: _ => channel.active = true ∧ channel.hasUser transport.id = false
  | _ => channel.connections.get? transport.id = some transport

namespace Channel

variable {transport : Transport} {channel : Channel}

theorem add_user_done (moment : Moment) (assigns : Table) (active : channel.active = true)
    (absent : channel.hasUser transport.id = false) :
    ∃ next, channel.addUser moment transport assigns = (next, none) ∧ next.name = channel.name ∧
      next.direct = channel.direct ∧ next.connections = channel.connections.set transport.id transport := by
  have missing : ¬ channel.connections.has transport.id = true := by simpa [hasUser] using absent
  simp only [addUser, active, if_neg missing, publishEventToPubsub]
  refine ⟨_, rfl, ?_⟩
  cases channel.distributed <;> exact ⟨rfl, rfl, rfl⟩

theorem add_user_failed (moment : Moment) (assigns : Table)
    (refused : ¬ (channel.active = true ∧ channel.hasUser transport.id = false)) :
    ∃ error, channel.addUser moment transport assigns = (channel, some error) := by
  by_cases active : channel.active = true
  · have present : channel.connections.has transport.id = true := by simpa [hasUser, active] using refused
    exact ⟨_, by simp only [addUser, active, present, if_true]; rfl⟩
  · exact ⟨internal channel.name "channel is not active", if_pos (Bool.not_eq_true _ ▸ active)⟩

end Channel

variable {handler : JoinHandler}

variable {assigns : Table}

namespace JoinContext

variable (context : JoinContext) {moment : Moment}

variable {said : JoinCall}

theorem call_responded (responded : context.responded = true) : context.call moment said = context := by
  cases said with
  | accept => simp [call, accept, ensureNotResponded, responded]
  | decline => simp [call, decline, ensureNotResponded, responded]

theorem calls_responded (calls : List JoinCall)
    (responded : context.responded = true) : calls.foldl (call moment) context = context := by
  induction calls with
  | nil => rfl
  | cons _ _ ih => rw [foldl_cons, call_responded context responded, ih]

theorem accept_responded (unanswered : context.responded = false) :
    (context.accept moment assigns).1.responded = true := by
  simp only [accept, ensureNotResponded, unanswered]
  cases context.channel.addUser moment context.transport (context.assigns.merge assigns) with
  | mk _ error => cases error <;> rfl

theorem answer_responded {rest : List JoinCall} (calls : handler.calls = said :: rest)
    (responded : (context.call moment said).responded = true) :
    context.answer moment handler = context.call moment said := by
  simp only [answer, calls, foldl_cons, calls_responded _ _ responded, responded, if_true]
  cases handler.result with
  | none | some => simp [responded]

-- The first thing that is said is the answer, and silence is a decline.
theorem answer_cases (unanswered : context.responded = false) :
    (∃ assigns rest, handler.calls = .accept assigns :: rest ∧
        context.answer moment handler = (context.accept moment assigns).1) ∨
      (∀ assigns rest, handler.calls ≠ .accept assigns :: rest) ∧
        ∃ code message, context.answer moment handler = (context.decline code message).1 := by
  have declined : ∀ code message, (context.decline code message).1.responded = true := by
    intro code message
    simp only [decline, ensureNotResponded, unanswered]
    rfl
  cases calls : handler.calls with
  | nil =>
    right
    refine ⟨fun _ _ same => (by cases same), ?_⟩
    cases result : handler.result with
    | none =>
      refine ⟨401, "Join handler did not respond", ?_⟩
      simp [answer, calls, result, unanswered]
    | some error =>
      refine ⟨error.code, error.message, ?_⟩
      simp [answer, calls, result, unanswered, declined]
  | cons said rest =>
    cases said with
    | accept assigns =>
      left
      exact ⟨assigns, rest, rfl, answer_responded context calls (accept_responded context unanswered)⟩
    | decline code message =>
      right
      refine ⟨fun _ _ same => (by cases same), code, message, ?_⟩
      exact answer_responded context calls (declined code message)

end JoinContext

namespace Channel

theorem replies_none (channel : Channel) (transport : Transport) (requestId : String) :
    channel.repliesTo channel transport requestId = [] := by
  rw [repliesTo, drop_length]
  rfl

theorem replies_system (before channel : Channel) (event : String) (payload : Json) (requestId : String)
    (transport : Transport) (same : channel.direct = before.direct) :
    (channel.sendSystem event payload requestId [transport.id]).repliesTo before transport requestId =
      if channel.connections.get? transport.id = some transport then
        [Event.new "SYSTEM" channel.name requestId event payload]
      else [] := by
  have appended : (channel.sendSystem event payload requestId [transport.id]).direct.drop before.direct.length =
      ([transport.id].filterMap channel.connections.get?).map
        fun transport => (transport, Event.new "SYSTEM" channel.name requestId event payload) := by
    rw [← same]
    exact drop_left
  rw [repliesTo, appended]
  cases held : channel.connections.get? transport.id with
  | none => simp [held]
  | some other =>
    by_cases own : other = transport
    · subst own
      simp [held, Event.new]
    · simp [held, own]

end Channel

namespace JoinOutcome

theorem accepted_iff {context : JoinContext} {moment : Moment} (unanswered : context.responded = false) :
    AnsweredOnce context.transport context.requestId (.handled context.channel (context.accept moment assigns).1) ↔
      context.channel.active = true ∧ context.channel.hasUser context.transport.id = false := by
  by_cases admitted : context.channel.active = true ∧ context.channel.hasUser context.transport.id = false
  · obtain ⟨next, added, _, direct, connections⟩ := Channel.add_user_done moment
      (context.assigns.merge assigns) admitted.1 admitted.2
    have done : (context.accept moment assigns).1 =
        { context with
          assigns := context.assigns.merge assigns
          responded := true
          accepted := true
          channel := next.sendAcknowledge context.requestId context.transport.id } := by
      simp only [JoinContext.accept, JoinContext.ensureNotResponded, unanswered, added]
      rfl
    have there : next.connections.get? context.transport.id = some context.transport := by
      rw [connections, OrderedMap.get_set_same]
    have member : (next.sendAcknowledge context.requestId context.transport.id).hasUser context.transport.id = true :=
      OrderedMap.has_iff.mpr ⟨_, there⟩
    have replies := Channel.replies_system context.channel next "ACKNOWLEDGE" (.object []) context.requestId
      context.transport direct
    rw [if_pos there] at replies
    refine iff_of_true ?_ admitted
    rw [done]
    exact ⟨_, replies, .inl rfl, iff_of_true rfl ⟨admitted.2, member⟩, iff_of_true rfl ⟨admitted.2, member⟩⟩
  · obtain ⟨_, failed⟩ := Channel.add_user_failed moment (context.assigns.merge assigns) admitted
    have kept : (context.accept moment assigns).1.channel = context.channel := by
      simp only [JoinContext.accept, JoinContext.ensureNotResponded, unanswered, failed]
      rfl
    refine iff_of_false ?_ admitted
    rintro ⟨_, replies, _⟩
    rw [kept, Channel.replies_none] at replies
    cases replies

theorem declined_iff {context : JoinContext} {code : Nat} {message : String} (unanswered : context.responded = false) :
    AnsweredOnce context.transport context.requestId (.handled context.channel (context.decline code message).1) ↔
      context.channel.connections.get? context.transport.id = some context.transport := by
  have done : (context.decline code message).1 =
      { context with
        responded := true
        accepted := false
        channel := context.channel.sendUnauthorized context.requestId context.transport.id code message } := by
    simp only [JoinContext.decline, JoinContext.ensureNotResponded, unanswered]
    rfl
  have replies := Channel.replies_system context.channel context.channel "UNAUTHORIZED"
    (.object [("code", .number code), ("message", .string message)]) context.requestId context.transport rfl
  have nobody : ¬ (context.channel.hasUser context.transport.id = false ∧
      (context.channel.sendUnauthorized context.requestId context.transport.id code message).hasUser
        context.transport.id = true) := by
    rintro ⟨absent, present⟩
    have same : context.channel.hasUser context.transport.id = true := present
    rw [absent] at same
    cases same
  rw [done]
  by_cases there : context.channel.connections.get? context.transport.id = some context.transport
  · rw [if_pos there] at replies
    refine iff_of_true ⟨_, replies, .inr rfl, iff_of_false ?_ nobody, iff_of_false ?_ nobody⟩ there
    · exact (by decide : ¬ "UNAUTHORIZED" = "ACKNOWLEDGE")
    · exact Bool.false_ne_true
  rw [if_neg there] at replies
  refine iff_of_false ?_ there
  rintro ⟨_, one, _⟩
  cases replies.symm.trans one

end JoinOutcome

def roomRegistration (handler : JoinHandler) : ChannelRegistration := ⟨"/room/:id", handler, ⟨"/ws", "a", false, .empty⟩⟩

theorem room_matched :
    Endpoint.registrationFor [roomRegistration handler] "/room/1" = some (roomRegistration handler) :=
  find?_cons_of_pos (by decide : matchesRoute "/room/:id" "/room/1" = true)

end PondSocket.Rust
