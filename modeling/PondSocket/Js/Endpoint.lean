import PondSocket.Js.Cluster
import PondSocket.Js.ChannelRelease
import PondSocket.Js.Membership

namespace PondSocket.Js

open Library

def SystemSender.endpoint : String := "ENDPOINT"

def ErrorTypes.unauthorizedJoinRequest : String := "UNAUTHORIZED_JOIN_REQUEST"

def ErrorTypes.invalidMessage : String := "INVALID_MESSAGE"

def ErrorTypes.channelError : String := "CHANNEL_ERROR"

def ErrorTypes.channelNotFound : String := "CHANNEL_NOT_FOUND"

def Thrown.message : Thrown → String
  | .httpError _ message => message
  | .error message => message

def Thrown.statusCode : Thrown → Nat
  | .httpError statusCode _ => statusCode
  | .error _ => 500

-- A lobby is known by what its pattern matches; an engine by its place among
-- those the endpoint has created.
structure LobbyEngine where
  parseAddress : String → Bool
  channels : OrderedMap String Nat := .empty

def LobbyEngine.deleteChannel (lobby : LobbyEngine) (channelName : String) : LobbyEngine :=
  { lobby with channels := lobby.channels.delete channelName }

-- Both kinds of subscription hold wrapped closures, named by their place among
-- those the endpoint has handed out. The entry stays here when the socket closes.
structure SocketCache where
  assigns : PondAssigns
  closed : Bool := false
  subscriptions : OrderedSet Nat := .empty
  channelSubscriptions : OrderedMap String Nat := .empty

-- One JOIN_CHANNEL message and how far Middleware.run has come with it.
structure JoinRequest where
  clientId : UserId
  channelName : String
  requestId : RequestId
  assigns : PondAssigns
  index : Nat

-- A JoinContext with the delegated flag of its middleware; finished tells that
-- the promise of its handler has settled.
structure JoinContext where
  request : Nat
  clientId : UserId
  requestId : RequestId
  engine : Nat
  newAssigns : PondAssigns
  executed : Bool := false
  accepted : Bool := false
  delegated : Bool := false
  finished : Bool := false

structure EndpointEngine where
  path : String
  backend : Option DistributedBackend
  uuid : Nat → NodeId
  sockets : OrderedMap UserId SocketCache
  lobbyEngines : List LobbyEngine
  engines : List (Nat × ChannelEngine)
  requests : List JoinRequest
  contexts : List JoinContext
  closures : List Nat
  sent : List (UserId × ChannelEvent)

inductive EndpointOp where
  | connect (clientId : UserId) (assigns : PondAssigns)
  | join (clientId : UserId) (channelName requestId : String)
  | leave (clientId : UserId) (channelName : String)
  | close (clientId : UserId)
  | accept (context : Nat) (assigns : Option PondAssigns)
  | decline (context : Nat) (message : Option String) (errorCode : Option Nat)
  | assign (context : Nat) (assigns : PondAssigns)
  | next (context : Nat) (error : Option Thrown)
  | finish (context : Nat)
  | fail (context : Nat) (error : Thrown)
  | call (engine : Nat) (op : EngineOp)

def Effect.deleted? : Effect → Option String
  | .deleteChannel name => some name
  | _ => none

def errorPayload (code message : String) (status : Nat) : PondMessage :=
  .ofList [("code", .string code), ("message", .string message), ("status", .number status),
    ("statusCode", .number status), ("error", .object [("message", .string message), ("status", .number status)])]

def buildError (error : Thrown) (errorType channelName : String) (requestId : RequestId) : ChannelEvent where
  event := errorType
  action := .error
  channelName := channelName
  requestId := requestId
  payload := .message (errorPayload errorType error.message error.statusCode)

namespace EndpointEngine

variable (endpoint : EndpointEngine)

variable (clientId : UserId) (id : Nat)

def new (path : String) (backend : Option DistributedBackend) (uuid : Nat → NodeId)
    (patterns : List (String → Bool)) : EndpointEngine where
  path := path
  backend := backend
  uuid := uuid
  sockets := .empty
  lobbyEngines := patterns.map fun parseAddress => { parseAddress := parseAddress }
  engines := []
  requests := []
  contexts := []
  closures := []
  sent := []

def isOpen (endpoint : EndpointEngine) (clientId : UserId) : Bool :=
  match endpoint.sockets.get? clientId with
  | none => false
  | some cache => !cache.closed

def sendMessage (endpoint : EndpointEngine) (clientId : UserId) (message : ChannelEvent) : EndpointEngine :=
  if endpoint.isOpen clientId then { endpoint with sent := endpoint.sent ++ [(clientId, message)] } else endpoint

def freshId (endpoint : EndpointEngine) : RequestId := .generated endpoint.path endpoint.sent.length

-- A call on an engine; closing it deletes its name from the lobby it belongs to.
def perform (endpoint : EndpointEngine) (now : Nat) (id : Nat) (op : EngineOp) : EndpointEngine :=
  match endpoint.engines[id]? with
  | none => endpoint
  | some (lobby, engine) =>
    let next := { engine with effects := [] }.act now op
    { endpoint with
      engines := endpoint.engines.set id (lobby, next)
      lobbyEngines := (next.effects.filterMap Effect.deleted?).foldl
        (fun lobbies name => lobbies.modify lobby fun engine => engine.deleteChannel name) endpoint.lobbyEngines }

def updateSocket (endpoint : EndpointEngine) (clientId : UserId) (update : SocketCache → SocketCache) :
    EndpointEngine :=
  match endpoint.sockets.get? clientId with
  | none => endpoint
  | some cache => { endpoint with sockets := endpoint.sockets.set clientId (update cache) }

def updateContext (endpoint : EndpointEngine) (context : Nat) (update : JoinContext → JoinContext) : EndpointEngine :=
  { endpoint with contexts := endpoint.contexts.modify context update }

def getOrCreateChannel (endpoint : EndpointEngine) (lobby : Nat) (channelName : String) : EndpointEngine × Nat :=
  match (endpoint.lobbyEngines[lobby]?).bind fun engine => engine.channels.get? channelName with
  | some id => (endpoint, id)
  | none =>
    let id := endpoint.engines.length
    ({ endpoint with
      engines := endpoint.engines ++ [(lobby, .new endpoint.path channelName (endpoint.uuid id) endpoint.backend)]
      lobbyEngines := endpoint.lobbyEngines.modify lobby fun engine =>
        { engine with channels := engine.channels.set channelName id } }, id)

def firstMatch (endpoint : EndpointEngine) (start : Nat) (channelName : String) : Option Nat :=
  ((endpoint.lobbyEngines.drop start).findIdx? fun lobby => lobby.parseAddress channelName).map fun index =>
    start + index

-- The final callback that #joinChannel gives to the middleware.
def final (endpoint : EndpointEngine) (request : JoinRequest) (error : Option Thrown) : EndpointEngine :=
  match error with
  | some error =>
    endpoint.sendMessage request.clientId
      (buildError error ErrorTypes.channelError request.channelName request.requestId)
  | none =>
    endpoint.sendMessage request.clientId
      (buildError (.httpError 404 s!"GatewayEngine: Channel {request.channelName} does not exist")
        ErrorTypes.channelNotFound request.channelName request.requestId)

-- next() of Middleware.run up to the call of the next handler that matches.
def runNext (endpoint : EndpointEngine) (id : Nat) : EndpointEngine :=
  match endpoint.requests[id]? with
  | none => endpoint
  | some request =>
    match endpoint.firstMatch request.index request.channelName with
    | none =>
      let endpoint := { endpoint with
        requests := endpoint.requests.set id { request with index := endpoint.lobbyEngines.length } }
      endpoint.final request none
    | some lobby =>
      let found := endpoint.getOrCreateChannel lobby request.channelName
      { found.1 with
        requests := found.1.requests.set id { request with index := lobby + 1 }
        contexts := found.1.contexts ++
          [{ request := id, clientId := request.clientId, requestId := request.requestId, engine := found.2,
             newAssigns := request.assigns }] }

def joinChannel (endpoint : EndpointEngine) (clientId : UserId) (channelName requestId : String) : EndpointEngine :=
  match endpoint.sockets.get? clientId with
  | none => endpoint
  | some cache =>
    if cache.closed then endpoint
    else
      let request : JoinRequest := ⟨clientId, channelName, .supplied requestId, cache.assigns, 0⟩
      { endpoint with requests := endpoint.requests ++ [request] }.runNext endpoint.requests.length

def manageSocket (endpoint : EndpointEngine) (clientId : UserId) (assigns : PondAssigns) : EndpointEngine :=
  if endpoint.sockets.has clientId then endpoint
  else
    { endpoint with sockets := endpoint.sockets.set clientId { assigns := assigns } }.sendMessage clientId
      { event := Events.connection, action := .connect, channelName := SystemSender.endpoint,
        requestId := endpoint.freshId, payload := .message .empty }

-- A wrapped subscription: it removes the user and takes itself out of the cache.
def runClosure (endpoint : EndpointEngine) (now : Nat) (clientId : UserId) (closure : Nat) : EndpointEngine :=
  match endpoint.closures[closure]? with
  | none => endpoint
  | some id =>
    match endpoint.engines[id]? with
    | none => endpoint
    | some (_, engine) =>
      (endpoint.perform now id (.removeUser clientId false)).updateSocket clientId fun cache =>
        { cache with
          subscriptions := cache.subscriptions.delete closure
          channelSubscriptions := cache.channelSubscriptions.delete engine.name }

def handleSocketClose (endpoint : EndpointEngine) (now : Nat) (clientId : UserId) : EndpointEngine :=
  match endpoint.sockets.get? clientId with
  | none => endpoint
  | some cache =>
    if cache.closed then endpoint
    else
      let endpoint := endpoint.updateSocket clientId fun cache => { cache with closed := true }
      let endpoint := cache.subscriptions.keys.foldl (fun endpoint closure => endpoint.runClosure now clientId closure)
        endpoint
      endpoint.updateSocket clientId fun cache => { cache with channelSubscriptions := .empty }

def rejectMessage (endpoint : EndpointEngine) (clientId : UserId) (error : Thrown) : EndpointEngine :=
  endpoint.sendMessage clientId (buildError error ErrorTypes.invalidMessage SystemSender.endpoint endpoint.freshId)

def retrieveChannel (endpoint : EndpointEngine) (channelName : String) : Except Thrown Nat :=
  match endpoint.firstMatch 0 channelName with
  | none => .error (.httpError 404 s!"GatewayEngine: Channel {channelName} does not exist")
  | some lobby =>
    match (endpoint.lobbyEngines[lobby]?).bind fun engine => engine.channels.get? channelName with
    | none => .error (.httpError 404 s!"Channel {channelName} not found")
    | some id => .ok id

def leaveChannel (endpoint : EndpointEngine) (now : Nat) (clientId : UserId) (channelName : String) : EndpointEngine :=
  match endpoint.sockets.get? clientId with
  | none => endpoint
  | some cache =>
    if cache.closed then endpoint
    else
      match cache.channelSubscriptions.get? channelName with
      | some closure => endpoint.runClosure now clientId closure
      | none =>
        match endpoint.retrieveChannel channelName with
        | .error thrown => endpoint.rejectMessage clientId thrown
        | .ok id => endpoint.perform now id (.removeUser clientId false)

def assign (endpoint : EndpointEngine) (now : Nat) (id : Nat) (context : JoinContext) (assigns : PondAssigns) :
    EndpointEngine :=
  if context.accepted then endpoint.perform now context.engine (.updateAssigns context.clientId assigns)
  else endpoint.updateContext id fun context => { context with newAssigns := context.newAssigns.merge assigns }

def subscribe (endpoint : EndpointEngine) (now : Nat) (id : Nat) (context : JoinContext) : EndpointEngine :=
  match endpoint.engines[context.engine]? with
  | none => endpoint
  | some (_, engine) =>
    let endpoint' := (endpoint.perform now context.engine
      (.addUser context.clientId context.newAssigns context.clientId context.requestId)).updateContext id
        fun context => { context with executed := true }
    match (engine.addUser context.clientId context.newAssigns context.clientId context.requestId).thrown with
    | some _ => endpoint'
    | none =>
      let closure := endpoint.closures.length
      let endpoint' := { endpoint' with closures := endpoint.closures ++ [context.engine] }
      let endpoint' := endpoint'.updateSocket context.clientId fun cache =>
        { cache with
          subscriptions := cache.subscriptions.add closure
          channelSubscriptions := cache.channelSubscriptions.set engine.name closure }
      endpoint'.updateContext id fun context => { context with accepted := true }

-- A context that has responded already throws out of #performChecks.
def accept (endpoint : EndpointEngine) (now : Nat) (id : Nat) (assigns : Option PondAssigns) : EndpointEngine :=
  match endpoint.contexts[id]? with
  | none => endpoint
  | some context =>
    let endpoint := match assigns with
      | none => endpoint
      | some assigns => endpoint.assign now id context assigns
    if context.executed then endpoint
    else
      endpoint.subscribe now id
        { context with newAssigns := match assigns with
            | none => context.newAssigns
            | some assigns => context.newAssigns.merge assigns }

def decline (endpoint : EndpointEngine) (id : Nat) (message : Option String) (errorCode : Option Nat) :
    EndpointEngine :=
  match endpoint.contexts[id]? with
  | none => endpoint
  | some context =>
    if context.executed then endpoint
    else
      match endpoint.engines[context.engine]? with
      | none => endpoint
      | some (_, engine) =>
        let text := match message with
          | some text => if text = "" then "Unauthorized connection" else text
          | none => "Unauthorized connection"
        let status := match errorCode with
          | some code => if code = 0 then 401 else code
          | none => 401
        (endpoint.updateContext id fun context => { context with executed := true }).sendMessage context.clientId
          (buildError (.httpError status text) ErrorTypes.unauthorizedJoinRequest engine.name context.requestId)

-- The request's final callback for an error that a handler passes to next or
-- throws; an error that is no HttpError becomes one with status 500.
def finalError (endpoint : EndpointEngine) (context : JoinContext) (error : Thrown) : EndpointEngine :=
  match endpoint.requests[context.request]? with
  | none => endpoint
  | some request => endpoint.final request (some (.httpError error.statusCode error.message))

def delegate (endpoint : EndpointEngine) (id : Nat) (error : Option Thrown) : EndpointEngine :=
  match endpoint.contexts[id]? with
  | none => endpoint
  | some context =>
    let endpoint := endpoint.updateContext id fun context => { context with delegated := true }
    match error with
    | some error => endpoint.finalError context error
    | none => endpoint.runNext context.request

def finish (endpoint : EndpointEngine) (id : Nat) : EndpointEngine :=
  match endpoint.contexts[id]? with
  | none => endpoint
  | some context =>
    if context.finished then endpoint
    else
      let done := endpoint.updateContext id fun context => { context with finished := true }
      if context.delegated || context.executed then done
      else done.decline id (some "Join handler completed without accepting or declining the request") (some 500)

def fail (endpoint : EndpointEngine) (id : Nat) (error : Thrown) : EndpointEngine :=
  match endpoint.contexts[id]? with
  | none => endpoint
  | some context =>
    if context.finished then endpoint
    else (endpoint.updateContext id fun context => { context with finished := true }).finalError context error

-- A user joins an engine through accept only, and an engine without a backend
-- is handed no messages.
def callable (endpoint : EndpointEngine) (op : EngineOp) : Bool :=
  (Tables.newcomer op).isNone && (endpoint.backend.isSome || !op.arrives)

def step (endpoint : EndpointEngine) (label : Nat × EndpointOp) : EndpointEngine :=
  match label.2 with
  | .connect clientId assigns => endpoint.manageSocket clientId assigns
  | .join clientId channelName requestId => endpoint.joinChannel clientId channelName requestId
  | .leave clientId channelName => endpoint.leaveChannel label.1 clientId channelName
  | .close clientId => endpoint.handleSocketClose label.1 clientId
  | .accept context assigns => endpoint.accept label.1 context assigns
  | .decline context message errorCode => endpoint.decline context message errorCode
  | .assign id assigns =>
    match endpoint.contexts[id]? with
    | none => endpoint
    | some context => endpoint.assign label.1 id context assigns
  | .next context error => endpoint.delegate context error
  | .finish context => endpoint.finish context
  | .fail context error => endpoint.fail context error
  | .call id op => if endpoint.callable op then endpoint.perform label.1 id op else endpoint

theorem perform_frame (now : Nat) (id : Nat) (op : EngineOp) :
    endpoint.perform now id op = { endpoint with
      engines := (endpoint.perform now id op).engines
      lobbyEngines := (endpoint.perform now id op).lobbyEngines } := by
  simp only [perform]
  split <;> rfl

theorem perform_row (now : Nat) (id place : Nat) (op : EngineOp) (row : Nat × ChannelEngine)
    (found : (endpoint.perform now id op).engines[place]? = some row) :
    ∃ old, endpoint.engines[place]? = some old ∧ row.1 = old.1 ∧
      ((place = id ∧ row.2 = { old.2 with effects := [] }.act now op) ∨ (place ≠ id ∧ row = old)) := by
  simp only [perform] at found
  cases present : endpoint.engines[id]? with
  | none =>
    simp only [present] at found
    refine ⟨row, found, rfl, .inr ⟨fun same => ?_, rfl⟩⟩
    subst same
    rw [present] at found
    cases found
  | some old =>
    simp only [present] at found
    by_cases same : place = id
    · subst same
      rw [List.getElem?_set_self (List.getElem?_eq_some_iff.mp present).1] at found
      cases found
      exact ⟨old, present, rfl, .inl ⟨rfl, rfl⟩⟩
    · rw [List.getElem?_set_ne (Ne.symm same)] at found
      exact ⟨row, found, rfl, .inr ⟨same, rfl⟩⟩

theorem perform_tables {now : Nat} {id place : Nat} {op : EngineOp}
    {row : Nat × ChannelEngine} (found : (endpoint.perform now id op).engines[place]? = some row) :
    ∃ old, endpoint.engines[place]? = some old ∧
      ((place = id ∧ row.2.tables = old.2.tables.step now op) ∨ (place ≠ id ∧ row = old)) := by
  obtain ⟨old, present, _, changed | kept⟩ := perform_row endpoint now id place op row found
  · refine ⟨old, present, .inl ⟨changed.1, ?_⟩⟩
    rw [changed.2]
    exact Cluster.perform_tables now old.2 op
  · exact ⟨old, present, .inr kept⟩

theorem update_socket_frame (update : SocketCache → SocketCache) :
    endpoint.updateSocket clientId update = { endpoint with
      sockets := (endpoint.updateSocket clientId update).sockets } := by
  simp only [updateSocket]
  split <;> rfl

theorem update_socket_other {clientId other : UserId} {update : SocketCache → SocketCache}
    (different : other ≠ clientId) :
    (endpoint.updateSocket clientId update).sockets.get? other = endpoint.sockets.get? other := by
  simp only [updateSocket]
  split
  · rfl
  · exact OrderedMap.get_set_other different

theorem update_socket_same (update : SocketCache → SocketCache)
    (cache : SocketCache) (found : endpoint.sockets.get? clientId = some cache) :
    (endpoint.updateSocket clientId update).sockets.get? clientId = some (update cache) := by
  simp [updateSocket, found]

theorem closure_frame (now : Nat) (clientId : UserId) (closure : Nat) :
    (endpoint.runClosure now clientId closure).closures = endpoint.closures := by
  simp only [runClosure]
  split
  · rfl
  split
  · rfl
  · rw [update_socket_frame, perform_frame]

structure Quiet (endpoint next : EndpointEngine) : Prop where
  backend : next.backend = endpoint.backend
  sockets : next.sockets = endpoint.sockets
  lobbyEngines : next.lobbyEngines = endpoint.lobbyEngines
  engines : next.engines = endpoint.engines
  closures : next.closures = endpoint.closures

theorem quiet_refl : endpoint.Quiet endpoint := ⟨rfl, rfl, rfl, rfl, rfl⟩

theorem quiet_trans (first second third : EndpointEngine) (start : first.Quiet second) (rest : second.Quiet third) :
    first.Quiet third :=
  ⟨rest.backend.trans start.backend, rest.sockets.trans start.sockets, rest.lobbyEngines.trans start.lobbyEngines,
    rest.engines.trans start.engines, rest.closures.trans start.closures⟩

theorem quiet_send (message : ChannelEvent) :
    endpoint.Quiet (endpoint.sendMessage clientId message) := by
  simp only [sendMessage]
  split <;> exact ⟨rfl, rfl, rfl, rfl, rfl⟩

theorem quiet_context (update : JoinContext → JoinContext) :
    endpoint.Quiet (endpoint.updateContext id update) := ⟨rfl, rfl, rfl, rfl, rfl⟩

variable {endpoint}

theorem quiet_final {request : JoinRequest} {error : Option Thrown} :
    endpoint.Quiet (endpoint.final request error) := by
  cases error <;> exact quiet_send endpoint _ _

theorem quiet_final_error {context : JoinContext} {error : Thrown} :
    endpoint.Quiet (endpoint.finalError context error) := by
  simp only [finalError]
  split
  · exact quiet_refl endpoint
  · exact quiet_final

variable {id}

theorem quiet_decline {message : Option String} {errorCode : Option Nat} :
    endpoint.Quiet (endpoint.decline id message errorCode) := by
  simp only [decline]
  split
  · exact quiet_refl endpoint
  split
  · exact quiet_refl endpoint
  split
  · exact quiet_refl endpoint
  · exact quiet_trans _ _ _ (quiet_context endpoint id _) (quiet_send _ _ _)

theorem quiet_finish : endpoint.Quiet (endpoint.finish id) := by
  simp only [finish]
  split
  · exact quiet_refl endpoint
  split
  · exact quiet_refl endpoint
  have done := quiet_context endpoint id fun context => { context with finished := true }
  split
  · exact done
  · exact quiet_trans _ _ _ done quiet_decline

theorem quiet_fail {error : Thrown} :
    endpoint.Quiet (endpoint.fail id error) := by
  simp only [fail]
  split
  · exact quiet_refl endpoint
  split
  · exact quiet_refl endpoint
  · exact quiet_trans _ _ _ (quiet_context endpoint id _) quiet_final_error

theorem add_user_thrown (engine : ChannelEngine) (userId : UserId) (assigns : PondAssigns) (onMessage : ConnectionId)
    (requestId : RequestId) :
    (engine.addUser userId assigns onMessage requestId).thrown = none ↔
      engine.assignsCache.has userId = false ∧ engine.publisher.isClosed = false := by
  simp only [ChannelEngine.addUser]
  cases listed : engine.assignsCache.has userId with
  | true => simp
  | false =>
    cases deaf : engine.publisher.isClosed <;>
      simp [ChannelEngine.buildSubscriber, Subject.subscribe, ChannelEngine.emit, deaf]

end EndpointEngine

end PondSocket.Js
