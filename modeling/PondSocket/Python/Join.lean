import PondSocket.Python.Channel
import PondSocket.Rust.Join

namespace PondSocket.Python

open Library
open Js (Json UserId NodeId)
open Rust (matchesRoute)

-- What a handler, or a call in it, raises: a PondError or another exception.
inductive Failure where
  | pondError (code : Nat) (message : String)
  | other (text : String)

def Raised.failure : Raised → Failure
  | .pondError _ code message => .pondError code message
  | .valueError => .other "Event field must not be empty"

-- What other tasks do to a channel while a call is suspended.
structure Interlude where
  after : Channel → Channel
  named : ∀ channel, (after channel).name = channel.name

-- A run of a join handler inside its middlewares. A call tells whether it raised,
-- and what is raised is caught or raised on. The assigns of accept come with the
-- text of the TypeError if json.dumps does not take them, and with what happens
-- while the join is published.
inductive JoinHandler where
  | done
  | raise (failure : Failure)
  | wait (others : Interlude) (next : JoinHandler)
  | accept (assigns : Dict) (unencodable : Option String) (others : Interlude) (next : Option Failure → JoinHandler)
  | decline (code : Nat) (message : String) (next : Option Failure → JoinHandler)

structure JoinRequest where
  channelName : String
  requestId : String
  named : channelName ≠ ""
  identified : requestId ≠ ""

structure JoinContext where
  channel : Channel
  requestId : String
  transport : Transport
  assigns : Dict
  responded : Bool
  accepted : Bool
  joined : Bool
  sent : List Event

namespace JoinContext

def system (context : JoinContext) (event : String) (payload : Json) : Event :=
  Event.plain "SYSTEM" context.channel.name context.requestId event payload context.channel.nodeId

def alreadyResponded : Failure := .pondError 400 "Already responded to the join request"

def addUser (context : JoinContext) (unencodable : Option String) : JoinContext × Option Failure :=
  match context.channel.addUser context.transport context.assigns with
  | (_, some raised) => (context, some raised.failure)
  | (channel, none) =>
    match context.channel.distributed, unencodable with
    | true, some text =>
      ({ context with channel := { channel with published := context.channel.published }, joined := true },
        some (.other text))
    | _, _ => ({ context with channel := channel, joined := true }, none)

def sendAcknowledge (context : JoinContext) : JoinContext × Option Failure :=
  match (context.system "ACKNOWLEDGE" (.object [])).checked with
  | none => (context, some Raised.valueError.failure)
  | some event =>
    if context.channel.connections.get? context.transport.id = some context.transport then
      ({ context with sent := context.sent ++ [event] }, none)
    else (context, none)

def accept (context : JoinContext) (assigns : Dict) (unencodable : Option String) (others : Interlude) :
    JoinContext × Option Failure :=
  if context.responded then (context, some alreadyResponded)
  else
    let context := { context with responded := true, accepted := true, assigns := context.assigns.merge assigns }
    match context.addUser unencodable with
    | (context, some failure) => (context, some failure)
    | (context, none) => { context with channel := others.after context.channel }.sendAcknowledge

def decline (context : JoinContext) (code : Nat) (message : String) : JoinContext × Option Failure :=
  if context.responded then (context, some alreadyResponded)
  else
    let context := { context with responded := true, accepted := false }
    match (context.system "UNAUTHORIZED" (.object [("code", .number code), ("message", .string message)])).checked with
    | none => (context, some Raised.valueError.failure)
    | some event => ({ context with sent := context.sent ++ [event] }, none)

end JoinContext

def JoinHandler.execute : JoinHandler → JoinContext → JoinContext × Option Failure
  | .done, context => (context, none)
  | .raise failure, context => (context, some failure)
  | .wait others next, context => next.execute { context with channel := others.after context.channel }
  | .accept assigns unencodable others next, context =>
    (next (context.accept assigns unencodable others).2).execute (context.accept assigns unencodable others).1
  | .decline code message next, context =>
    (next (context.decline code message).2).execute (context.decline code message).1

namespace JoinContext

-- Where the handler did not respond, it is declined for it.
def handle (context : JoinContext) (handler : JoinHandler) : JoinContext :=
  let result := handler.execute context
  let context := match result.2 with
    | none => result.1
    | some (.pondError code message) =>
      if result.1.responded then result.1 else (result.1.decline code message).1
    | some (.other text) => if result.1.responded then result.1 else (result.1.decline 500 text).1
  if context.responded then context else (context.decline 401 "Join handler did not respond").1

end JoinContext

structure Lobby where
  endpointPath : String
  nodeId : NodeId
  pubsub : Bool
  channels : OrderedMap String Channel
  keyed : ∀ key channel, channels.get? key = some channel → channel.name = key

def Lobby.getOrCreateChannel (lobby : Lobby) (name : String) : Channel :=
  (lobby.channels.get? name).getD (Channel.new name lobby.endpointPath lobby.nodeId lobby.pubsub).start

structure ChannelRegistration where
  pattern : String
  handler : JoinHandler
  lobby : Lobby

-- _handle_join up to the answer; others is what happens until the handler runs. A
-- message that no pattern matches is answered with NOT_FOUND.
def handleJoin (registrations : List ChannelRegistration) (request : JoinRequest) (transport : Transport) (assigns : Dict)
    (others : Interlude) : Option JoinContext :=
  match registrations.find? fun registration => matchesRoute registration.pattern request.channelName with
  | none => none
  | some registration =>
    some (JoinContext.handle ⟨others.after (registration.lobby.getOrCreateChannel request.channelName), request.requestId,
      transport, assigns, false, false, false, []⟩ registration.handler)

def JoinContext.Answered (context : JoinContext) (requestId : String) : Prop :=
  ∃ reply, context.sent = [reply] ∧ reply.requestId = requestId ∧
    (reply.event = "ACKNOWLEDGE" ∧ context.joined = true ∨ reply.event = "UNAUTHORIZED" ∧ context.joined = false)

-- The first response is no accept, or one that adds the user, who is still connected
-- when it is acknowledged.
def JoinHandler.Sound (transport : Transport) (assigns : Dict) : JoinHandler → Channel → Prop
  | .done, _ | .raise _, _ | .decline _ _ _, _ => True
  | .wait others next, channel => next.Sound transport assigns (others.after channel)
  | .accept given unencodable others _, channel =>
    channel.active = true ∧ channel.connections.has transport.id = false ∧
      (channel.distributed = true → unencodable = none) ∧
        (others.after (channel.addUser transport (assigns.merge given)).1).connections.get? transport.id = some transport

namespace JoinContext

variable (context : JoinContext)

variable {unencodable : Option String}

variable {others : Interlude}

theorem accept_responded {assigns : Dict} (responded : context.responded = true) :
    (context.accept assigns unencodable others).1 = context := by
  rw [accept, if_pos responded]

theorem decline_responded {code : Nat} {message : String} (responded : context.responded = true) :
    (context.decline code message).1 = context := by
  rw [decline, if_pos responded]

theorem execute_responded {handler : JoinHandler} (context : JoinContext) (responded : context.responded = true) :
    (handler.execute context).1.responded = true ∧ (handler.execute context).1.sent = context.sent ∧
      (handler.execute context).1.joined = context.joined := by
  induction handler generalizing context with
  | done | raise => exact ⟨responded, rfl, rfl⟩
  | wait others _ ih =>
    have later := ih { context with channel := others.after context.channel } responded
    exact later
  | accept _ _ _ _ ih =>
    rw [JoinHandler.execute, accept_responded context responded]
    exact ih _ context responded
  | decline _ _ _ ih =>
    rw [JoinHandler.execute, decline_responded context responded]
    exact ih _ context responded

structure Fresh (context : JoinContext) : Prop where
  unanswered : context.responded = false
  unsent : context.sent = []
  absent : context.joined = false
  named : context.channel.name ≠ ""
  identified : context.requestId ≠ ""

theorem system_checked (event : String) (payload : Json) (named : context.channel.name ≠ "")
    (identified : context.requestId ≠ "") (spoken : event ≠ "") :
    (context.system event payload).checked = some (context.system event payload) :=
  Event.checked_complete _ (by simp [system, Event.plain]) named identified spoken

theorem decline_answered (code : Nat) (message : String) (fresh : context.Fresh) :
    (context.decline code message).1.responded = true ∧
      (context.decline code message).1.Answered context.requestId := by
  obtain ⟨unanswered, unsent, absent, named, identified⟩ := fresh
  have checked := system_checked { context with responded := true, accepted := false } "UNAUTHORIZED"
    (.object [("code", .number code), ("message", .string message)]) named identified (by decide)
  simp only [decline, unanswered, Bool.false_eq_true, if_false, checked]
  exact ⟨trivial, _, by rw [unsent, List.nil_append], rfl, .inr ⟨rfl, absent⟩⟩

def Admitted (context : JoinContext) (unencodable : Option String) : Prop :=
  context.channel.active = true ∧ context.channel.connections.has context.transport.id = false ∧
    (context.channel.distributed = true → unencodable = none)

theorem add_user_cases :
    context.Admitted unencodable ∧ context.addUser unencodable =
        ({ context with channel := (context.channel.addUser context.transport context.assigns).1, joined := true }, none) ∨
      ¬ context.Admitted unencodable ∧ ∃ next failure, context.addUser unencodable = (next, some failure) ∧
        next.sent = context.sent ∧ next.responded = context.responded := by
  simp only [Admitted, addUser]
  cases active : context.channel.active with
  | false =>
    right
    simp only [Channel.addUser, active, if_true]
    exact ⟨fun admitted => Bool.false_ne_true admitted.1, context, _, rfl, rfl, rfl⟩
  | true =>
    cases present : context.channel.connections.has context.transport.id with
    | true =>
      right
      simp only [Channel.addUser, active, present, if_true, Bool.true_eq_false, if_false]
      exact ⟨fun admitted => admitted.2.1.elim, context, _, rfl, rfl, rfl⟩
    | false =>
      simp only [Channel.addUser, active, present, Bool.false_eq_true, Bool.true_eq_false, if_false]
      cases distributed : context.channel.distributed with
      | false =>
        left
        exact ⟨⟨trivial, trivial, fun other => nomatch other⟩, rfl⟩
      | true =>
        cases unencodable with
        | none =>
          left
          exact ⟨⟨trivial, trivial, fun _ => rfl⟩, rfl⟩
        | some =>
          right
          exact ⟨fun admitted => (nomatch admitted.2.2 rfl), _, _, rfl, rfl, rfl⟩

theorem add_user_name (channel : Channel) (transport : Transport) (assigns : Dict) :
    (channel.addUser transport assigns).1.name = channel.name := by
  simp only [Channel.addUser]
  split
  · rfl
  split
  · rfl
  · simp only [Channel.publishDistributed, Channel.publish]
    split <;> rfl

theorem unsent_unanswered (requestId : String) (unsent : context.sent = []) :
    ¬ context.Answered requestId := by
  rintro ⟨_, sent, _⟩
  rw [unsent] at sent
  cases sent

theorem acknowledge_answered_iff (unsent : context.sent = []) (joined : context.joined = true)
    (named : context.channel.name ≠ "") (identified : context.requestId ≠ "") :
    context.sendAcknowledge.1.responded = context.responded ∧ (context.sendAcknowledge.1.Answered context.requestId ↔
      context.channel.connections.get? context.transport.id = some context.transport) := by
  have checked := system_checked context "ACKNOWLEDGE" (.object []) named identified (by decide)
  simp only [sendAcknowledge, checked]
  by_cases there : context.channel.connections.get? context.transport.id = some context.transport
  · rw [if_pos there]
    refine ⟨rfl, iff_of_true ?_ there⟩
    exact ⟨_, by rw [unsent, List.nil_append], rfl, .inl ⟨rfl, joined⟩⟩
  · rw [if_neg there]
    exact ⟨rfl, iff_of_false (unsent_unanswered context _ unsent) there⟩

theorem accept_answered_iff {assigns : Dict} (fresh : context.Fresh) :
    (context.accept assigns unencodable others).1.responded = true ∧
      ((context.accept assigns unencodable others).1.Answered context.requestId ↔ context.Admitted unencodable ∧
        (others.after (context.channel.addUser context.transport (context.assigns.merge assigns)).1).connections.get?
          context.transport.id = some context.transport) := by
  obtain ⟨unanswered, unsent, _, named, identified⟩ := fresh
  simp only [accept, unanswered, Bool.false_eq_true, if_false]
  rcases add_user_cases { context with
      responded := true
      accepted := true
      assigns := context.assigns.merge assigns } with ⟨admitted, added⟩ | ⟨refused, next, failure, failed, sent, responded⟩
  · rw [added]
    have name := (others.named _).trans (add_user_name context.channel context.transport (context.assigns.merge assigns))
    have acknowledged := acknowledge_answered_iff { context with
      responded := true
      accepted := true
      assigns := context.assigns.merge assigns
      channel := others.after (context.channel.addUser context.transport (context.assigns.merge assigns)).1
      joined := true } unsent rfl (name.symm ▸ named) identified
    exact ⟨acknowledged.1, acknowledged.2.trans (and_iff_right admitted).symm⟩
  · rw [failed]
    exact ⟨responded, iff_of_false (unsent_unanswered next _ (sent.trans unsent)) fun both => refused both.1⟩

end JoinContext

theorem JoinHandler.execute_cases (handler : JoinHandler) (context : JoinContext) (fresh : context.Fresh) :
    (handler.execute context).1.responded = true ∧ ((handler.execute context).1.Answered context.requestId ↔
          handler.Sound context.transport context.assigns context.channel) ∨
      (handler.execute context).1.Fresh ∧ (handler.execute context).1.requestId = context.requestId ∧
        handler.Sound context.transport context.assigns context.channel := by
  induction handler generalizing context with
  | done | raise => exact .inr ⟨fresh, rfl, trivial⟩
  | wait others _ ih =>
    obtain ⟨unanswered, unsent, absent, named, identified⟩ := fresh
    exact ih { context with channel := others.after context.channel }
      ⟨unanswered, unsent, absent, (others.named context.channel).symm ▸ named, identified⟩
  | accept =>
    left
    obtain ⟨responded, answered⟩ := context.accept_answered_iff fresh
    obtain ⟨still, sent, joined⟩ := JoinContext.execute_responded _ responded
    rw [execute, Sound]
    refine ⟨still, ?_⟩
    rw [JoinContext.Answered, sent, joined]
    refine answered.trans ?_
    rw [JoinContext.Admitted, and_assoc, and_assoc]
  | decline code message =>
    left
    obtain ⟨responded, answered⟩ := context.decline_answered code message fresh
    obtain ⟨still, sent, joined⟩ := JoinContext.execute_responded _ responded
    rw [execute, Sound]
    refine ⟨still, ?_⟩
    rw [JoinContext.Answered, sent, joined]
    exact iff_of_true answered trivial

theorem JoinContext.handle_answered_iff (context : JoinContext) (handler : JoinHandler) (fresh : context.Fresh) :
    (context.handle handler).Answered context.requestId ↔ handler.Sound context.transport context.assigns context.channel := by
  rcases handler.execute_cases context fresh with ⟨responded, answered⟩ | ⟨unsaid, same, sound⟩
  · simp only [handle, responded, if_true]
    cases (handler.execute context).2 with
    | none => simpa only [responded, if_true] using answered
    | some failure => cases failure <;> simpa only [responded, if_true] using answered
  have unanswered := unsaid.unanswered
  have declined := fun code message => decline_answered (handler.execute context).1 code message unsaid
  rw [same] at declined
  refine iff_of_true ?_ sound
  simp only [handle, unanswered, Bool.false_eq_true, if_false]
  cases (handler.execute context).2 with
  | none =>
    simp only [unanswered, Bool.false_eq_true, if_false]
    exact (declined 401 "Join handler did not respond").2
  | some failure =>
    cases failure with
    | pondError code message =>
      simp only [(declined code message).1, if_true]
      exact (declined code message).2
    | other text =>
      simp only [(declined 500 text).1, if_true]
      exact (declined 500 text).2

theorem get_or_create_name (lobby : Lobby) (name : String) : (lobby.getOrCreateChannel name).name = name := by
  rw [Lobby.getOrCreateChannel]
  cases found : lobby.channels.get? name with
  | some channel => exact lobby.keyed name channel found
  | none =>
    simp only [Option.getD_none, Channel.start, Channel.stateRequest, Channel.publishDistributed, Channel.publish]
    split
    · rfl
    · split <;> rfl

-- A join that a pattern matches is answered once, and with what became of it, exactly
-- where the handler's first response is no accept or one that goes through.
theorem join_call_answered_iff (registrations : List ChannelRegistration) (request : JoinRequest) (transport : Transport)
    (assigns : Dict) (others : Interlude) (registration : ChannelRegistration)
    (matched : registrations.find? (fun registration => matchesRoute registration.pattern request.channelName) = some registration) :
    (∃ context, handleJoin registrations request transport assigns others = some context ∧
        context.Answered request.requestId) ↔
      registration.handler.Sound transport assigns (others.after (registration.lobby.getOrCreateChannel request.channelName)) := by
  simp only [handleJoin, matched, Option.some.injEq, exists_eq_left']
  apply JoinContext.handle_answered_iff
  refine ⟨rfl, rfl, rfl, ?_, request.identified⟩
  rw [others.named, get_or_create_name]
  exact request.named

def quietly : Interlude := ⟨id, fun _ => rfl⟩

def emptyLobby : Lobby := ⟨"/ws", "a", false, .empty, fun _ _ found => nomatch found⟩

def roomRequest : JoinRequest := ⟨"/room/1", "join", by decide, by decide⟩

def accepting : JoinHandler := .accept .empty none quietly fun
  | none => .done
  | some failure => .raise failure

theorem accepted_answered :
    ∃ context, handleJoin [⟨"/room/:id", accepting, emptyLobby⟩] roomRequest ⟨"u", 0⟩ .empty quietly = some context ∧
      context.Answered "join" :=
  (join_call_answered_iff [⟨"/room/:id", accepting, emptyLobby⟩] roomRequest ⟨"u", 0⟩ .empty quietly ⟨"/room/:id", accepting, emptyLobby⟩
    (List.find?_cons_of_pos (by decide : matchesRoute "/room/:id" "/room/1" = true))).mpr
    ⟨rfl, rfl, fun _ => rfl, rfl⟩

def joinedLobby : Lobby where
  endpointPath := "/ws"
  nodeId := "a"
  pubsub := false
  channels := OrderedMap.empty.set "/room/1" ((Channel.new "/room/1" "/ws" "a" false).start.addUser ⟨"u", 0⟩ .empty).1
  keyed := by
    intro key channel found
    rw [OrderedMap.get_set] at found
    split at found
    · rename_i same
      cases found
      rw [same]
      rfl
    · cases found

theorem member_unanswered :
    ∃ context, handleJoin [⟨"/room/:id", accepting, joinedLobby⟩] roomRequest ⟨"u", 0⟩ .empty quietly = some context ∧
      context.sent = [] := by
  exact ⟨_, rfl, rfl⟩

end PondSocket.Python
