import PondSocket.Go.ClusterMessages
import PondSocket.Rust.Join

namespace PondSocket.Go

open Library
open Js (Json UserId NodeId)

def errorJson (channelName message : String) (code : Int) (details : List (String × Json)) : Json :=
  .object ((if channelName = "" then [] else [("channelName", .string channelName)]) ++
    [("message", .string message), ("code", .number code), ("temporary", .bool false)] ++
      if details.isEmpty then [] else [("details", .object details)])

inductive HandlerError where
  | pond (error : Json)
  | other (text : String)

-- What is in err of a JoinContext: the error of its context, an error of its own, or
-- one of the channel with what wrapF puts before it.
inductive JoinFailure where
  | contextDone
  | badRequest (message : String)
  | wrapped (message : String) (failure : Failure)
deriving DecidableEq

structure JoinReply where
  channelName : String
  requestId : String
  event : String
  payload : Json

def terminalEvents : List String := ["ACKNOWLEDGE", "UNAUTHORIZED", "NOT_FOUND", "INTERNAL_ERROR"]

def Channel.getUser (channel : Channel) (userId : UserId) (remote : Bool) : Option Failure :=
  match channel.checkState with
  | some failure => some failure
  | none =>
    match channel.getUserUnsafe userId with
    | .ok _ => none
    | .error failure => if channel.distributed && remote then none else some failure

-- What others do to the channel until the dispatcher reads the recipients of an event
-- that is queued, and from there until processOutgoing has looked up the user.
structure Fate where
  taken : Channel → Channel
  sent : Channel → Channel
  remote : Bool

def Fate.delivers (fate : Fate) (channel : Channel) (conn : Transport) : Bool :=
  let reading := fate.taken channel
  let sending := fate.sent reading
  reading.checkState.isNone && (reading.connections.store.get? conn.id).any (fun held => held.serial == conn.serial) &&
    (sending.getUser conn.id fate.remote).isNone

structure JoinContext where
  channel : Option Channel
  conn : Transport
  requestId : String
  hasResponded : Bool := false
  accepted : Bool := false
  err : Option JoinFailure := none
  expired : Bool := false
  panicked : Bool := false
  joined : Bool := false
  told : List JoinReply := []

-- A call of a handler. The methods that only read, ParsePayload and GetAllPresence
-- among them, are view.
inductive JoinCall where
  | accept (joining : Channel → Channel) (fate : Fate)
  | decline (statusCode : Int) (message : String)
  | reply (event : String) (payload : Json) (fate : Fate)
  | setAssigns (key : String) (value : Json)
  | assigns (assigns : Option (List (String × Json)))
  | getAssign (key : String)
  | broadcast (event : String) (payload : Json)
  | broadcastTo (event : String) (payload : Json) (userIds : List UserId)
  | broadcastFrom (event : String) (payload : Json) (remote : Bool)
  | track (presence : Json)
  | getUser (remote : Bool)
  | view

-- Between the calls others change the channel, and the deadline may pass.
inductive JoinStep where
  | call (call : JoinCall)
  | others (change : Channel → Channel) (expires : Bool)

namespace JoinContext

def newJoinContext (channel : Option Channel) (user : Transport) (requestId : String) (expired : Bool) : JoinContext where
  channel := channel
  conn := user
  requestId := requestId
  err := if expired then some .contextDone else none
  expired := expired

def checkStateAndContext (context : JoinContext) : JoinContext × Bool :=
  if context.err.isSome then (context, true)
  else if context.expired then ({ context with err := some .contextDone }, true)
  else (context, false)

def panics (context : JoinContext) : JoinContext := { context with panicked := true }

def fail (context : JoinContext) (failure : JoinFailure) : JoinContext := { context with err := some failure }

def within (context : JoinContext) (body : Channel → JoinContext) : JoinContext :=
  match context.channel with
  | none => context.panics
  | some channel => body channel

def sendMessage (context : JoinContext) (channel : Channel) (event : String) (payload : Json) (fate : Fate)
    (failed : String) : JoinContext :=
  match channel.checkState with
  | some failure => context.fail (.wrapped failed failure)
  | none =>
    if channel.connections.has context.conn.id && fate.delivers channel context.conn then
      { context with told := context.told ++ [⟨channel.name, context.requestId, event, payload⟩] }
    else context

def alreadyResponded : JoinFailure := .badRequest "Already responded to the join request"

-- joining is what happens between addUser and the acknowledgement.
def accept (context : JoinContext) (joining : Channel → Channel) (fate : Fate) : JoinContext :=
  if context.checkStateAndContext.2 then context.checkStateAndContext.1
  else if context.hasResponded then context.within fun _ => context.fail alreadyResponded
  else
    let context := { context with hasResponded := true, accepted := true }
    context.within fun channel =>
      match channel.addUser context.conn with
      | (next, some failure) =>
        { context with channel := some next }.fail
          (.wrapped ("failed to add user " ++ context.conn.id ++ " to Channel " ++ channel.name) failure)
      | (next, none) =>
        { context with channel := some (joining next), joined := true }.sendMessage (joining next) "ACKNOWLEDGE"
          (.object []) fate ("failed to send join acknowledgment for Channel " ++ channel.name)

def decline (context : JoinContext) (statusCode : Int) (message : String) : JoinContext × Option JoinFailure :=
  if context.checkStateAndContext.2 then (context.checkStateAndContext.1, context.checkStateAndContext.1.err)
  else
    match context.channel with
    | none =>
      (if context.hasResponded then context.panics else { context with hasResponded := true, accepted := false }.panics,
        none)
    | some channel =>
      if context.hasResponded then (context, some alreadyResponded)
      else
        ({ context with
          hasResponded := true
          accepted := false
          told := context.told ++ [⟨channel.name, context.requestId, "UNAUTHORIZED",
            errorJson channel.name message statusCode [("statusCode", .number statusCode)]⟩] }, none)

def whenAccepted (context : JoinContext) (refusal : String) (body : Channel → JoinContext) : JoinContext :=
  if context.checkStateAndContext.2 then context.checkStateAndContext.1
  else
    context.within fun channel =>
      if context.accepted then body channel else context.fail (.badRequest refusal)

def wrapping (context : JoinContext) (failed : String) (failure : Option Failure) : JoinContext :=
  match failure with
  | none => context
  | some failure => context.fail (.wrapped failed failure)

def reply (context : JoinContext) (event : String) (payload : Json) (fate : Fate) : JoinContext :=
  context.whenAccepted "Cannot reply before accepting join request" fun channel =>
    context.sendMessage channel event payload fate
      ("failed to send reply message '" ++ event ++ "' for Channel " ++ channel.name)

def setAssigns (context : JoinContext) (key : String) (value : Json) : JoinContext :=
  if context.checkStateAndContext.2 then context.checkStateAndContext.1
  else if context.accepted then
    context.within fun channel =>
      let updated := channel.updateAssigns context.conn.id key value
      { context with channel := some updated.1 }.wrapping
        ("error setting assign '" ++ key ++ "' for user " ++ context.conn.id) updated.2
  else { context with conn.assigns := some ((context.conn.assigns.getD .empty).set key value) }

def assigns (context : JoinContext) (given : Option (List (String × Json))) : JoinContext :=
  if context.checkStateAndContext.2 then context.checkStateAndContext.1
  else
    match given with
    | none => context.within fun _ => context.fail (.badRequest "Assigns must be a map[string]interface\x7b\x7d")
    | some rows => rows.foldl (fun context row => context.setAssigns row.1 row.2) context

def getAssign (context : JoinContext) (key : String) : JoinContext :=
  if context.checkStateAndContext.2 then context.checkStateAndContext.1
  else if context.accepted then
    context.within fun channel =>
      context.wrapping ("failed to get assign '" ++ key ++ "' for user " ++ context.conn.id) channel.checkState
  else context

def broadcast (context : JoinContext) (event : String) : JoinContext :=
  context.whenAccepted "Cannot broadcast before accepting join request" fun channel =>
    context.wrapping ("error broadcasting event " ++ event ++ " to all users") channel.checkState

def broadcastTo (context : JoinContext) (event : String) : JoinContext :=
  context.whenAccepted "Cannot broadcast before accepting join request" fun channel =>
    context.wrapping ("error broadcasting event " ++ event ++ " to users") channel.checkState

def broadcastFrom (context : JoinContext) (event : String) (remote : Bool) : JoinContext :=
  context.whenAccepted "Cannot broadcast before accepting join request" fun channel =>
    context.wrapping ("error broadcasting event " ++ event ++ " to all users except " ++ context.conn.id)
      (match channel.checkState with
        | some failure => some failure
        | none => if context.conn.id = channelEntity then some .badRequest else channel.getUser context.conn.id remote)

def track (context : JoinContext) (presence : Json) : JoinContext :=
  context.whenAccepted "Cannot track presence before accepting join request" fun channel =>
    let tracked := channel.trackConnectedUser context.conn.id presence
    { context with channel := some tracked.1 }.wrapping ("error tracking presence for user " ++ context.conn.id) tracked.2

def getUser (context : JoinContext) (remote : Bool) : JoinContext :=
  if context.checkStateAndContext.2 then context.checkStateAndContext.1
  else if context.accepted then
    context.within fun channel =>
      context.wrapping ("error getting user " ++ context.conn.id ++ " from Channel " ++ channel.name)
        (channel.getUser context.conn.id remote)
  else context

def view (context : JoinContext) : JoinContext := context.checkStateAndContext.1

def call (context : JoinContext) : JoinCall → JoinContext × Option JoinFailure
  | .accept joining fate => (context.accept joining fate, none)
  | .decline statusCode message => context.decline statusCode message
  | .reply event payload fate => (context.reply event payload fate, none)
  | .setAssigns key value => (context.setAssigns key value, none)
  | .assigns given => (context.assigns given, none)
  | .getAssign key => (context.getAssign key, none)
  | .broadcast event _ => (context.broadcast event, none)
  | .broadcastTo event _ _ => (context.broadcastTo event, none)
  | .broadcastFrom event _ remote => (context.broadcastFrom event remote, none)
  | .track presence => (context.track presence, none)
  | .getUser remote => (context.getUser remote, none)
  | .view => (context.view, none)

def step (context : JoinContext) (step : JoinStep) : JoinContext × Option JoinFailure :=
  if context.panicked then (context, none)
  else
    match step with
    | .call said => context.call said
    | .others change expires =>
      ({ context with channel := context.channel.map change, expired := context.expired || expires }, none)

def makes (context : JoinContext) (steps : List JoinStep) : JoinContext :=
  steps.foldl (fun context next => (context.step next).1) context

end JoinContext

-- A join handler, or a middleware, which may also hand on to the next one: what it
-- does may depend on all that it sees.
inductive JoinHandler where
  | returns (error : Option HandlerError)
  | makes (step : JoinStep) (rest : JoinContext → Option JoinFailure → JoinHandler)
  | next (rest : Option HandlerError → JoinHandler)

def JoinHandler.execute (inner : JoinContext → List JoinStep × Option HandlerError) :
    JoinHandler → JoinContext → List JoinStep × Option HandlerError
  | .returns error, _ => ([], error)
  | .makes step rest, context =>
    let made := context.step step
    let later := (rest made.1 made.2).execute inner made.1
    (step :: later.1, later.2)
  | .next rest, context =>
    let handed := inner context
    let later := (rest handed.2).execute inner (context.makes handed.1)
    (handed.1 ++ later.1, later.2)

def executeWithMiddleware (handler : JoinHandler) :
    List JoinHandler → JoinContext → List JoinStep × Option HandlerError
  | [] => handler.execute fun _ => ([], none)
  | middleware :: rest => middleware.execute (executeWithMiddleware handler rest)

structure Handling where
  told : List JoinReply
  joined : Bool
  error : Option HandlerError

namespace JoinContext

def finish (context : JoinContext) (returned : Option HandlerError) : Handling :=
  if context.panicked then ⟨context.told, context.joined, none⟩
  else
    match returned with
    | some error => ⟨context.told, context.joined, some error⟩
    | none =>
      if context.err.isSome then ⟨context.told, context.joined, some (.other "JoinContext")⟩
      else if context.hasResponded then ⟨context.told, context.joined, none⟩
      else
        let declined := context.decline 401 "Unauthorized"
        ⟨declined.1.told, declined.1.joined, declined.2.map fun _ => .other "context"⟩

end JoinContext

structure JoinRequest where
  channel : String
  requestId : String
  identified : requestId ≠ ""

structure JoinRegistration where
  path : String
  handler : JoinHandler
  middlewares : List JoinHandler
  channels : OrderedMap String Channel

structure JoinEndpoint where
  registrations : List JoinRegistration
  channels : OrderedSet String
  distributed : Bool
  heartbeatTimeout : Nat

-- What is not up to the endpoint: whether it is shut down when the message comes, what
-- a look at the contexts before each registration and at the end gives, what
-- getOrCreateChannel meets, and what others do until the handler runs.
structure JoinSchedule where
  closed : Bool
  stops : Nat → Option HandlerError
  unavailable : Option HandlerError
  closeFails : Option HandlerError
  nodeId : NodeId
  starting : Channel → Channel
  expired : Bool

def validEscapes : List Char → Bool
  | [] => true
  | '%' :: high :: low :: rest => high.isHexDigit && low.isHexDigit && validEscapes rest
  | '%' :: _ => false
  | _ :: rest => validEscapes rest

-- url.ParseQuery without an error.
def parsesQuery (query : List Char) : Bool :=
  (query.splitOn '&').all fun part => !part.contains ';' && validEscapes part

def parses (route currentPath : String) : Bool :=
  parsesQuery ((currentPath.toList.dropWhile (· ≠ '?')).drop 1) && Rust.matchesRoute route currentPath

namespace JoinEndpoint

-- A name that another lobby of the endpoint has gives no channel and no error.
def getOrCreateChannel (endpoint : JoinEndpoint) (schedule : JoinSchedule) (registration : JoinRegistration)
    (name : String) : Except HandlerError (Option Channel) :=
  match schedule.unavailable with
  | some error => .error error
  | none =>
    match registration.channels.get? name with
    | some channel => .ok (some channel)
    | none =>
      if endpoint.channels.has name then
        match schedule.closeFails with
        | some error => .error error
        | none => .ok none
      else .ok (some (newChannel name schedule.nodeId endpoint.distributed true endpoint.heartbeatTimeout))

def enter (endpoint : JoinEndpoint) (schedule : JoinSchedule) (request : JoinRequest) (user : Transport)
    (registration : JoinRegistration) : Handling :=
  match endpoint.getOrCreateChannel schedule registration request.channel with
  | .error error => ⟨[], false, some error⟩
  | .ok channel =>
    let context := JoinContext.newJoinContext (channel.map schedule.starting) user request.requestId schedule.expired
    let made := executeWithMiddleware registration.handler registration.middlewares context
    (context.makes made.1).finish made.2

def executeHandler (endpoint : JoinEndpoint) (schedule : JoinSchedule) (request : JoinRequest) (user : Transport) :
    Nat → List JoinRegistration → Handling
  | index, [] =>
    match schedule.stops index with
    | some error => ⟨[], false, some error⟩
    | none =>
      ⟨[⟨request.channel, request.requestId, "NOT_FOUND",
        errorJson request.channel "No channel handler found for this topic" 404 []⟩], false, none⟩
  | index, registration :: rest =>
    match schedule.stops index with
    | some error => ⟨[], false, some error⟩
    | none =>
      if parses registration.path request.channel then endpoint.enter schedule request user registration
      else endpoint.executeHandler schedule request user (index + 1) rest

def errorPayload (request : JoinRequest) : HandlerError → Json
  | .pond error => error
  | .other _ => errorJson request.channel "Failed to process join request" 500 []

def internalError (request : JoinRequest) (error : HandlerError) : JoinReply :=
  ⟨request.channel, request.requestId, "INTERNAL_ERROR", errorPayload request error⟩

def errorEvent (request : JoinRequest) : JoinReply :=
  ⟨"", request.requestId, "INTERNAL_ERROR",
    .object [("code", .number 500), ("details", .null), ("temporary", .bool false), ("message", .string "context canceled")]⟩

def joinChannel (endpoint : JoinEndpoint) (schedule : JoinSchedule) (request : JoinRequest) (user : Transport) :
    Handling :=
  if schedule.closed then ⟨[errorEvent request], false, none⟩
  else
    let handled := endpoint.executeHandler schedule request user 0 endpoint.registrations
    match handled.error with
    | some error => { handled with told := handled.told ++ [internalError request error] }
    | none => handled

end JoinEndpoint

def Handling.Answered (handling : Handling) (requestId : String) : Prop :=
  ∃ reply, handling.told.filter (fun reply => terminalEvents.contains reply.event) = [reply] ∧
    reply.requestId = requestId ∧ (reply.event = "ACKNOWLEDGE" ↔ handling.joined = true)

end PondSocket.Go
