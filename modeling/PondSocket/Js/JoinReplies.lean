import PondSocket.Js.JoinServer
import PondSocket.Library.Run

namespace PondSocket.Js

open Library List OrderedMap Option EndpointEngine

-- A terminal reply to a request: its acknowledgement or an error.
def ChannelEvent.answers (event : ChannelEvent) (requestId : RequestId) : Bool :=
  decide (event.requestId = requestId) && (decide (event.event = Events.acknowledge) || decide (event.action = .error))

-- A context without the assigns it is to join with.
def JoinContext.mark (context : JoinContext) : JoinContext := { context with newAssigns := .empty }

namespace EndpointEngine

def marks (endpoint : EndpointEngine) : List JoinContext := endpoint.contexts.map JoinContext.mark

-- The request that an operation carries on, if it carries one on.
def about (endpoint : EndpointEngine) (op : EndpointOp) : Option Nat :=
  match op with
  | .join clientId _ _ => if endpoint.isOpen clientId then some endpoint.requests.length else none
  | .accept context _ => (endpoint.contexts[context]?).map JoinContext.request
  | .decline context _ _ => (endpoint.contexts[context]?).map JoinContext.request
  | .next context _ => (endpoint.contexts[context]?).map JoinContext.request
  | .finish context => (endpoint.contexts[context]?).map JoinContext.request
  | .fail context _ => (endpoint.contexts[context]?).map JoinContext.request
  | _ => none

def listedAt (endpoint : EndpointEngine) (clientId : UserId) (place : Nat) : Bool :=
  match endpoint.engines[place]? with
  | none => false
  | some (_, engine) => engine.assignsCache.has clientId

def seatedAt (endpoint : EndpointEngine) (clientId : UserId) (name : String) (place : Nat) : Bool :=
  match endpoint.engines[place]? with
  | none => false
  | some (_, engine) =>
    decide (engine.name = name) && engine.assignsCache.has clientId && engine.userSubscriptions.has clientId

def adds (before next : EndpointEngine) (clientId : UserId) : Bool :=
  (List.range next.engines.length).any fun place => next.listedAt clientId place && !before.listedAt clientId place

def seats (before next : EndpointEngine) (clientId : UserId) (name : String) : Bool :=
  (List.range next.engines.length).any fun place => next.seatedAt clientId name place && !before.listedAt clientId place

end EndpointEngine

-- The endpoint with what each request has been answered, whether a step of it has
-- made its client a member, and the contexts whose accept has thrown.
structure ReplyLedger where
  endpoint : EndpointEngine
  threw : Nat → Bool := fun _ => false
  replies : Nat → List ChannelEvent := fun _ => []
  added : Nat → Bool := fun _ => false
  seated : Nat → Bool := fun _ => false

namespace ReplyLedger

def throwsNow (endpoint : EndpointEngine) (op : EndpointOp) (id : Nat) : Bool :=
  match op with
  | .accept context _ =>
    decide (context = id) &&
      match endpoint.contexts[context]? with
      | none => false
      | some context => !context.executed && (endpoint.acceptThrown context).isSome
  | _ => false

-- What a step that carries on a request adds to the ledger.
def record (ledger : ReplyLedger) (label : Nat × EndpointOp) (id : Nat) (request : JoinRequest) : ReplyLedger :=
  let before := ledger.endpoint.silence
  let next := before.step label
  { endpoint := next
    threw := fun context => ledger.threw context || throwsNow before label.2 context
    replies := fun other =>
      if other = id then
        ledger.replies id ++ (next.written request.clientId).filter fun event => event.answers request.requestId
      else ledger.replies other
    added := fun other =>
      if other = id then ledger.added id || before.adds next request.clientId else ledger.added other
    seated := fun other =>
      if other = id then ledger.seated id || before.seats next request.clientId request.channelName
      else ledger.seated other }

def step (ledger : ReplyLedger) (label : Nat × EndpointOp) : ReplyLedger :=
  let before := ledger.endpoint.silence
  let next := before.step label
  match before.about label.2 with
  | none => { ledger with endpoint := next }
  | some id =>
    match next.requests[id]? with
    | none => { ledger with endpoint := next }
    | some request => ledger.record label id request

def start (path : String) (backend : Option DistributedBackend) (uuid : Nat → NodeId)
    (patterns : List (String → Bool)) : ReplyLedger where
  endpoint := .new path backend uuid patterns

def Settled (ledger : ReplyLedger) (id : Nat) : Prop :=
  ∀ context ∈ ledger.endpoint.contexts, context.request = id → context.finished = true

-- Each request is answered at most once, and once when its handlers have settled:
-- with an acknowledgement that made its client a member, or an error that did not.
structure AnswersOnce (ledger : ReplyLedger) : Prop where
  once : ∀ id, id < ledger.endpoint.requests.length → (ledger.replies id).length ≤ 1
  settled : ∀ id, id < ledger.endpoint.requests.length → ledger.Settled id → (ledger.replies id).length = 1
  granted : ∀ id, ∀ event ∈ ledger.replies id, event.event = Events.acknowledge → ledger.seated id = true
  refused : ∀ id, ∀ event ∈ ledger.replies id, event.event ≠ Events.acknowledge →
    event.action = .error ∧ ledger.added id = false

-- A handler has nothing more to do for its request: it has passed it on, answered
-- it or settled.
def Rests (ledger : ReplyLedger) (id : Nat) (context : JoinContext) : Prop :=
  context.delegated = true ∨ (context.executed = true ∧ ledger.threw id = false) ∨ context.finished = true

-- A handler answers its request, passes it on or throws only while that is still
-- to be done, accepts on an open engine only and does not swallow what accept
-- throws; a socket with a request to be answered stays open.
def Sound (ledger : ReplyLedger) (label : Nat × EndpointOp) : Prop :=
  match label.2 with
  | .accept id _ => ∀ context, ledger.endpoint.contexts[id]? = some context → context.executed = false →
      ¬ ledger.Rests id context ∧ ∀ row, ledger.endpoint.engines[context.engine]? = some row →
        row.2.publisher.isClosed = false
  | .decline id _ _ => ∀ context, ledger.endpoint.contexts[id]? = some context → context.executed = false →
      ¬ ledger.Rests id context
  | .next id _ => ∀ context, ledger.endpoint.contexts[id]? = some context → ¬ ledger.Rests id context
  | .finish id => ∀ context, ledger.endpoint.contexts[id]? = some context → ledger.threw id = true →
      context.delegated = true ∨ context.finished = true
  | .fail id _ => ∀ context, ledger.endpoint.contexts[id]? = some context → context.finished = false →
      ¬ ledger.Rests id context
  | .close clientId => ∀ (id : Nat) context, ledger.endpoint.contexts[id]? = some context →
      context.clientId = clientId → ledger.Rests id context
  | _ => True

end ReplyLedger

variable {place : Nat}

namespace EndpointEngine

variable (endpoint : EndpointEngine) (id : Nat) {now : Nat}

variable {clientId : UserId} {error : Thrown} {context : JoinContext} {request : JoinRequest}

structure Refuses (event : ChannelEvent) (requestId : RequestId) : Prop where
  requestId : event.requestId = requestId
  action : event.action = .error
  event : event.event ≠ Events.acknowledge

variable {channelName : String}

theorem refuses_build {errorType : String} {requestId : RequestId} (other : errorType ≠ Events.acknowledge) :
    Refuses (buildError error errorType channelName requestId) requestId :=
  ⟨rfl, rfl, other⟩

theorem send_open {message : ChannelEvent}
    (listening : endpoint.isOpen clientId = true) :
    endpoint.sendMessage clientId message = { endpoint with sent := endpoint.sent ++ [(clientId, message)] } :=
  if_pos listening

theorem final_open {error : Option Thrown}
    (listening : endpoint.isOpen request.clientId = true) :
    ∃ event, endpoint.final request error = { endpoint with sent := endpoint.sent ++ [(request.clientId, event)] } ∧
      Refuses event request.requestId := by
  cases error with
  | none | some => exact ⟨_, send_open endpoint listening, refuses_build (by decide)⟩

variable {row : Nat × ChannelEngine} {message : Option String} {errorCode : Option Nat}

theorem decline_open {context : JoinContext} (found : endpoint.contexts[id]? = some context)
    (fresh : context.executed = false) (there : endpoint.engines[context.engine]? = some row)
    (listening : endpoint.isOpen context.clientId = true) :
    ∃ event, endpoint.decline id message errorCode = { endpoint with
      contexts := endpoint.contexts.modify id fun context => { context with executed := true }
      sent := endpoint.sent ++ [(context.clientId, event)] } ∧ Refuses event context.requestId := by
  simp only [decline, found, fresh, Bool.false_eq_true, if_false, there]
  exact ⟨_, send_open (endpoint.updateContext id _) listening, refuses_build (by decide)⟩

theorem decline_done (done : ∀ context, endpoint.contexts[id]? = some context → context.executed = true) :
    endpoint.decline id message errorCode = endpoint := by
  simp only [decline]
  split
  · rfl
  · rename_i context found
    rw [if_pos (done context found)]

theorem fail_open (found : endpoint.contexts[id]? = some context) (unsettled : context.finished = false)
    (asked : endpoint.requests[context.request]? = some request) (listening : endpoint.isOpen request.clientId = true) :
    ∃ event, endpoint.fail id error = { endpoint with
      contexts := endpoint.contexts.modify id fun context => { context with finished := true }
      sent := endpoint.sent ++ [(request.clientId, event)] } ∧ Refuses event request.requestId := by
  have known : (endpoint.updateContext id fun context => { context with finished := true }).requests[context.request]? =
      some request := asked
  simp only [fail, found, unsettled, Bool.false_eq_true, if_false, finalError, known]
  exact final_open (endpoint.updateContext id _) listening

theorem fail_done (done : ∀ context, endpoint.contexts[id]? = some context → context.finished = true) :
    endpoint.fail id error = endpoint := by
  simp only [fail]
  split
  · rfl
  · rename_i context found
    rw [if_pos (done context found)]

theorem finish_done
    (done : ∀ context, endpoint.contexts[id]? = some context → context.finished = true) :
    endpoint.finish id = endpoint := by
  simp only [finish]
  split
  · rfl
  · rename_i context found
    rw [if_pos (done context found)]

theorem finish_silent (found : endpoint.contexts[id]? = some context) (unsettled : context.finished = false)
    (replied : (context.delegated || context.executed) = true) :
    endpoint.finish id = endpoint.updateContext id fun context => { context with finished := true } := by
  simp [finish, found, unsettled, replied]

theorem finish_open (found : endpoint.contexts[id]? = some context) (unsettled : context.finished = false)
    (kept : context.delegated = false) (fresh : context.executed = false)
    (there : endpoint.engines[context.engine]? = some row) (listening : endpoint.isOpen context.clientId = true) :
    ∃ event, endpoint.finish id = { endpoint with
      contexts := endpoint.contexts.modify id fun context => { context with finished := true, executed := true }
      sent := endpoint.sent ++ [(context.clientId, event)] } ∧ Refuses event context.requestId := by
  simp only [finish, found, unsettled, kept, fresh, Bool.or_self, Bool.false_eq_true, if_false]
  have marked : (endpoint.updateContext id fun context => { context with finished := true }).contexts[id]? =
      some { context with finished := true } := by simp [updateContext, found]
  obtain ⟨event, spec, refuses⟩ := decline_open (endpoint.updateContext id fun context => { context with finished := true })
    id marked fresh there listening
  refine ⟨event, ?_, refuses⟩
  rw [spec]
  simp only [updateContext, modify_modify_eq]
  rfl

theorem run_next_spec
    (asked : endpoint.requests[id]? = some request) (listening : endpoint.isOpen request.clientId = true) :
    (∃ index event, endpoint.runNext id = { endpoint with
      requests := endpoint.requests.set id { request with index := index }
      sent := endpoint.sent ++ [(request.clientId, event)] } ∧ Refuses event request.requestId) ∨
    (∃ lobby index, endpoint.runNext id = { (endpoint.getOrCreateChannel lobby request.channelName).1 with
      requests := endpoint.requests.set id { request with index := index }
      contexts := endpoint.contexts ++
        [{ request := id, clientId := request.clientId, requestId := request.requestId,
           engine := (endpoint.getOrCreateChannel lobby request.channelName).2, newAssigns := request.assigns }] }) := by
  simp only [runNext, asked]
  cases matched : endpoint.firstMatch request.index request.channelName with
  | none =>
    obtain ⟨event, spec, refuses⟩ := final_open { endpoint with
      requests := endpoint.requests.set id { request with index := endpoint.lobbyEngines.length } } listening
    exact .inl ⟨_, event, spec, refuses⟩
  | some lobby =>
    have kept : (endpoint.getOrCreateChannel lobby request.channelName).1.requests = endpoint.requests ∧
        (endpoint.getOrCreateChannel lobby request.channelName).1.contexts = endpoint.contexts := by
      simp only [getOrCreateChannel]
      split <;> exact ⟨rfl, rfl⟩
    refine .inr ⟨lobby, lobby + 1, ?_⟩
    simp only [kept.1, kept.2]

theorem subscribe_listed (now id : Nat) (context : JoinContext) (lobby : Nat)
    (engine : ChannelEngine) (there : endpoint.engines[context.engine]? = some (lobby, engine))
    (listed : engine.assignsCache.has context.clientId = true) :
    endpoint.subscribe now id context = { endpoint with
      engines := endpoint.engines.set context.engine (lobby, { engine with effects := [] })
      contexts := endpoint.contexts.modify id fun context => { context with executed := true } } := by
  have refused : (engine.addUser context.clientId context.newAssigns context.clientId context.requestId).thrown ≠ none := by
    intro passed
    have free := (add_user_thrown engine context.clientId context.newAssigns context.clientId context.requestId).mp passed
    rw [listed] at free
    cases free.1
  have idle : ({ engine with effects := [] } : ChannelEngine).act now
      (.addUser context.clientId context.newAssigns context.clientId context.requestId) = { engine with effects := [] } := by
    simp only [ChannelEngine.act, ChannelEngine.addUser, listed, if_true]
  obtain ⟨_, failed⟩ := ne_none_iff_exists'.mp refused
  simp only [subscribe, there, failed]
  rw [perform_open endpoint there rfl, idle]
  rfl

variable {assigns : Option PondAssigns} {lobby : Nat}

variable {engine : ChannelEngine}

theorem accept_listed {now id : Nat} {context : JoinContext} (found : endpoint.contexts[id]? = some context)
    (fresh : context.executed = false) (unaccepted : context.accepted = false)
    (there : endpoint.engines[context.engine]? = some (lobby, engine))
    (listed : engine.assignsCache.has context.clientId = true) :
    ∃ merge : PondAssigns → PondAssigns, endpoint.accept now id assigns = { endpoint with
      engines := endpoint.engines.set context.engine (lobby, { engine with effects := [] })
      contexts := endpoint.contexts.modify id fun context =>
        { context with newAssigns := merge context.newAssigns, executed := true } } := by
  obtain ⟨merge, accepted⟩ := accept_fresh endpoint found fresh unaccepted
  refine ⟨merge, ?_⟩
  rw [accepted, subscribe_listed (endpoint.updateContext id fun context => { context with newAssigns := merge context.newAssigns })
    now id { context with newAssigns := merge context.newAssigns } lobby engine there listed]
  simp only [updateContext, modify_modify_eq]
  rfl

structure Steady (endpoint next : EndpointEngine) : Prop where
  requests : next.requests = endpoint.requests
  marks : next.marks = endpoint.marks
  rows : ∀ (place : Nat) row, endpoint.engines[place]? = some row → ∃ other, next.engines[place]? = some other ∧
    other.2.name = row.2.name
  held : ∀ lobby name id, next.held lobby name = some id → endpoint.held lobby name = some id

theorem steady_refl : endpoint.Steady endpoint :=
  ⟨rfl, rfl, fun _ row there => ⟨row, there, rfl⟩, fun _ _ _ there => there⟩

variable {next : EndpointEngine}

theorem steady_same {endpoint : EndpointEngine} (requests : next.requests = endpoint.requests)
    (contexts : next.contexts = endpoint.contexts) (engines : next.engines = endpoint.engines)
    (lobbyEngines : next.lobbyEngines = endpoint.lobbyEngines) : endpoint.Steady next := by
  refine ⟨requests, congrArg (List.map JoinContext.mark) contexts, fun place row there => ⟨row, ?_, rfl⟩,
    fun lobby name id there => ?_⟩
  · rw [engines]
    exact there
  · rw [held, lobbyEngines] at there
    exact there

theorem steady_trans {first second third : EndpointEngine} (start : first.Steady second) (rest : second.Steady third) :
    first.Steady third := by
  refine ⟨rest.requests.trans start.requests, rest.marks.trans start.marks, fun place row there => ?_,
    fun lobby name id there => start.held lobby name id (rest.held lobby name id there)⟩
  obtain ⟨middle, present, named⟩ := start.rows place row there
  obtain ⟨last, found, same⟩ := rest.rows place middle present
  exact ⟨last, found, same.trans named⟩

theorem steady_silence : endpoint.Steady endpoint.silence := by
  refine ⟨rfl, rfl, fun place row there => ⟨(row.1, { row.2 with effects := [] }), ?_, rfl⟩, fun _ _ _ there => there⟩
  simp only [silence, getElem?_map, there]
  rfl

theorem steady_send (message : ChannelEvent) :
    endpoint.Steady (endpoint.sendMessage clientId message) := by
  rw [send_frame]
  exact steady_same rfl rfl rfl rfl

variable {op : EngineOp}

theorem steady_perform {now id : Nat} : endpoint.Steady (endpoint.perform now id op) := by
  refine ⟨?_, ?_, fun place row there => ?_, fun lobby name other there => ?_⟩
  · rw [perform_frame]
  · rw [marks, perform_frame, marks]
  · have moved := seat_perform endpoint now id place op
    have old : endpoint.seat place = some (row.1, row.2.name, row.2.tables) := by rw [seat, there]; rfl
    rw [old] at moved
    obtain ⟨other, found, same⟩ := map_eq_some_iff.mp moved
    refine ⟨other, found, ?_⟩
    have named := congrArg (fun seat => seat.2.1) same
    by_cases here : place = id
    · simpa only [here, if_true] using named
    · simpa only [here, if_false] using named
  · cases target : endpoint.engines[id]? with
    | none =>
      rw [perform_absent endpoint target] at there
      exact there
    | some row =>
      rw [held_perform endpoint now id row.1 lobby op row.2 name target] at there
      split at there
      · cases there
      · exact there

variable {update : SocketCache → SocketCache}

theorem steady_socket : endpoint.Steady (endpoint.updateSocket clientId update) := by
  rw [update_socket_frame]
  exact steady_same rfl rfl rfl rfl

theorem steady_closure (closure : Nat) :
    endpoint.Steady (endpoint.runClosure now clientId closure) := by
  simp only [runClosure]
  split
  · exact steady_refl endpoint
  split
  · exact steady_refl endpoint
  · exact steady_trans (steady_perform endpoint) (steady_socket _)

theorem steady_leave : endpoint.Steady (endpoint.leaveChannel now clientId channelName) := by
  simp only [leaveChannel]
  split
  · exact steady_refl endpoint
  split
  · exact steady_refl endpoint
  split
  · exact steady_closure endpoint _
  split
  · exact steady_send endpoint _
  · exact steady_perform endpoint

theorem steady_close :
    endpoint.Steady (endpoint.handleSocketClose now clientId) := by
  have ran : ∀ (closures : List Nat) (endpoint : EndpointEngine),
      endpoint.Steady (closures.foldl (fun endpoint closure => endpoint.runClosure now clientId closure) endpoint) := by
    intro closures
    induction closures with
    | nil => exact fun endpoint => steady_refl endpoint
    | cons first _ ih => exact fun endpoint => steady_trans (steady_closure endpoint first) (ih _)
  simp only [handleSocketClose]
  split
  · exact steady_refl endpoint
  split
  · exact steady_refl endpoint
  · exact steady_trans (steady_socket endpoint)
      (steady_trans (ran _ _) (steady_socket _))

theorem steady_connect {assigns : PondAssigns} :
    endpoint.Steady (endpoint.manageSocket clientId assigns) := by
  simp only [manageSocket]
  split
  · exact steady_refl endpoint
  · rw [send_frame]
    exact steady_same rfl rfl rfl rfl

theorem marks_update (update shown : JoinContext → JoinContext)
    (blind : ∀ context, (update context).mark = shown context.mark) :
    (endpoint.contexts.modify id update).map JoinContext.mark = endpoint.marks.modify id shown := by
  apply ext_getElem?
  intro place
  rw [getElem?_map, getElem?_modify, getElem?_modify, marks, getElem?_map]
  cases endpoint.contexts[place]? with
  | none => rfl
  | some =>
    by_cases same : id = place
    · simp [same, blind]
    · simp [same]

theorem steady_assign (now id : Nat) (context : JoinContext) (assigns : PondAssigns) :
    endpoint.Steady (endpoint.assign now id context assigns) := by
  simp only [assign]
  split
  · exact steady_perform endpoint
  refine ⟨rfl, ?_, fun _ row there => ⟨row, there, rfl⟩, fun _ _ _ there => there⟩
  have same := marks_update endpoint id (fun context => { context with newAssigns := context.newAssigns.merge assigns })
    (fun context => context) fun _ => rfl
  exact same.trans (modify_id id endpoint.marks)

theorem steady_accept {now id : Nat}
    (done : ∀ context, endpoint.contexts[id]? = some context → context.executed = true) :
    endpoint.Steady (endpoint.accept now id assigns) := by
  simp only [accept]
  cases found : endpoint.contexts[id]? with
  | none => exact steady_refl endpoint
  | some context =>
    simp only [done context found, if_true]
    cases assigns with
    | none => exact steady_refl endpoint
    | some given => exact steady_assign endpoint now id context given

variable {userId : UserId}

theorem open_same {endpoint : EndpointEngine} (sockets : next.sockets = endpoint.sockets) :
    next.isOpen userId = endpoint.isOpen userId := by
  simp [isOpen, sockets]

theorem open_perform {now id : Nat} : (endpoint.perform now id op).isOpen userId = endpoint.isOpen userId := by
  rw [perform_frame]
  exact open_same rfl

theorem open_other {clientId : UserId} (apart : userId ≠ clientId) :
    (endpoint.updateSocket clientId update).isOpen userId = endpoint.isOpen userId := by
  simp [isOpen, update_socket_other endpoint apart]

theorem open_socket {clientId : UserId} (kept : ∀ cache, (update cache).closed = cache.closed) :
    (endpoint.updateSocket clientId update).isOpen userId = endpoint.isOpen userId := by
  by_cases same : userId = clientId
  · subst same
    cases found : endpoint.sockets.get? userId with
    | none => simp [updateSocket, found]
    | some cache => simp [isOpen, update_socket_same endpoint userId update cache found, found, kept]
  · exact open_other endpoint same

theorem open_closure {clientId : UserId} (closure : Nat) :
    (endpoint.runClosure now clientId closure).isOpen userId = endpoint.isOpen userId := by
  simp only [runClosure]
  split
  · rfl
  split
  · rfl
  · refine (open_socket _ ?_).trans (open_perform endpoint)
    exact fun cache => rfl

theorem open_close {clientId : UserId} (apart : userId ≠ clientId) :
    (endpoint.handleSocketClose now clientId).isOpen userId = endpoint.isOpen userId := by
  have ran : ∀ (closures : List Nat) (endpoint : EndpointEngine),
      (closures.foldl (fun endpoint closure => endpoint.runClosure now clientId closure) endpoint).isOpen userId =
        endpoint.isOpen userId := by
    intro closures
    induction closures with
    | nil => exact fun endpoint => rfl
    | cons first _ ih => exact fun endpoint => (ih _).trans (open_closure endpoint first)
  simp only [handleSocketClose]
  split
  · rfl
  split
  · rfl
  · rw [open_other _ apart, ran, open_other _ apart]

theorem open_connect {clientId : UserId} {assigns : PondAssigns} (listening : endpoint.isOpen userId = true) :
    (endpoint.manageSocket clientId assigns).isOpen userId = true := by
  simp only [manageSocket]
  split
  · exact listening
  rename_i absent
  have apart : userId ≠ clientId := by
    rintro rfl
    have missing := has_false_iff.mp (Bool.eq_false_iff.mpr absent)
    simp only [isOpen, missing] at listening
    cases listening
  have same : ∀ next : EndpointEngine, next.sockets = endpoint.sockets.set clientId { assigns := assigns } →
      next.isOpen userId = true := by
    intro next sockets
    simp only [isOpen, sockets, get_set_other apart]
    exact listening
  rw [send_frame]
  exact same _ rfl

theorem open_leave {clientId : UserId} :
    (endpoint.leaveChannel now clientId channelName).isOpen userId = endpoint.isOpen userId := by
  simp only [leaveChannel]
  split
  · rfl
  split
  · rfl
  split
  · exact open_closure endpoint _
  split
  · exact open_same (quiet_send endpoint clientId _).sockets
  · exact open_perform endpoint

theorem open_run_next : (endpoint.runNext id).isOpen userId = endpoint.isOpen userId := by
  simp only [runNext]
  split
  · rfl
  split
  · exact open_same quiet_final.sockets
  · simp only [getOrCreateChannel]
    split <;> rfl

theorem open_assign {now id : Nat} {context : JoinContext} {assigns : PondAssigns} :
    (endpoint.assign now id context assigns).isOpen userId = endpoint.isOpen userId := by
  simp only [assign]
  split
  · exact open_perform endpoint
  · rfl

theorem open_accept {now id : Nat} : (endpoint.accept now id assigns).isOpen userId = endpoint.isOpen userId := by
  have subscribed : ∀ (endpoint : EndpointEngine) (context : JoinContext),
      (endpoint.subscribe now id context).isOpen userId = endpoint.isOpen userId := by
    intro endpoint context
    simp only [subscribe]
    split
    · rfl
    split
    · exact open_perform endpoint
    · refine (open_socket _ ?_).trans (open_perform endpoint)
      exact fun cache => rfl
  simp only [accept]
  cases endpoint.contexts[id]? with
  | none => rfl
  | some context =>
    dsimp only
    by_cases done : context.executed = true
    · rw [if_pos done]
      cases assigns with
      | none => rfl
      | some => exact open_assign endpoint
    rw [if_neg done]
    cases assigns with
    | none => exact subscribed endpoint _
    | some => exact (subscribed _ _).trans (open_assign endpoint)

theorem open_step {op : EndpointOp} (stays : op ≠ .close userId) (listening : endpoint.isOpen userId = true) :
    (endpoint.step (now, op)).isOpen userId = true := by
  cases op with
  | connect => exact open_connect endpoint listening
  | join =>
    simp only [step, joinChannel]
    split
    · exact listening
    split
    · exact listening
    · rw [open_run_next]
      exact listening
  | leave => exact (open_leave endpoint).trans listening
  | close clientId =>
    have apart : userId ≠ clientId := by
      rintro rfl
      exact stays rfl
    exact (open_close endpoint apart).trans listening
  | accept => exact (open_accept endpoint).trans listening
  | decline => exact (open_same quiet_decline.sockets).trans listening
  | assign =>
    simp only [step]
    split
    · exact listening
    · exact (open_assign endpoint).trans listening
  | next =>
    simp only [step, delegate]
    split
    · exact listening
    split
    · exact (open_same quiet_final_error.sockets).trans listening
    · exact (open_run_next _ _).trans listening
  | finish => exact (open_same quiet_finish.sockets).trans listening
  | fail => exact (open_same quiet_fail.sockets).trans listening
  | call =>
    simp only [step]
    split
    · exact (open_perform endpoint).trans listening
    · exact listening

theorem written_sent (event : ChannelEvent)
    (sent : endpoint.sent = [(clientId, event)]) (mute : ∀ row ∈ endpoint.engines, row.2.handed = []) :
    endpoint.written clientId = [event] := by
  have silent : (endpoint.engines.flatMap fun row =>
      (row.2.handed.filter fun pair => pair.1.onMessage = clientId).map Prod.snd) = [] := by
    rw [flatMap_eq_nil_iff]
    intro row member
    rw [mute row member]
    rfl
  rw [written, sent, silent]
  simp

theorem adds_none {before : EndpointEngine} {clientId : UserId}
    (same : ∀ place, next.listedAt clientId place = true → before.listedAt clientId place = true) :
    before.adds next clientId = false := by
  rw [adds, List.any_eq_false]
  intro place _ both
  obtain ⟨here, fresh⟩ := (Bool.and_eq_true _ _).mp both
  rw [same place here] at fresh
  cases fresh

-- Every open engine is in the map under its name, and a context goes back to a
-- request of its client for the channel of its engine.
structure Rooted (endpoint : EndpointEngine) : Prop where
  named : ∀ lobby name id, endpoint.held lobby name = some id → ∃ row, endpoint.engines[id]? = some row ∧
    row.2.name = name
  contexts : ∀ (id : Nat) mark, endpoint.marks[id]? = some mark → ∃ request row,
    endpoint.requests[mark.request]? = some request ∧ mark.clientId = request.clientId ∧
    mark.requestId = request.requestId ∧ endpoint.engines[mark.engine]? = some row ∧ row.2.name = request.channelName
  accepted : ∀ (id : Nat) mark, endpoint.marks[id]? = some mark → mark.accepted = true → mark.executed = true

theorem rooted_steady {endpoint : EndpointEngine} (rooted : endpoint.Rooted) (steady : endpoint.Steady next) :
    next.Rooted := by
  refine ⟨fun lobby name id there => ?_, fun id mark there => ?_, fun id mark there => ?_⟩
  · obtain ⟨row, found, same⟩ := rooted.named lobby name id (steady.held lobby name id there)
    obtain ⟨other, present, named⟩ := steady.rows id row found
    exact ⟨other, present, named.trans same⟩
  · rw [steady.marks] at there
    obtain ⟨request, row, asked, client, named, found, about⟩ := rooted.contexts id mark there
    obtain ⟨other, present, same⟩ := steady.rows mark.engine row found
    exact ⟨request, other, by rw [steady.requests]; exact asked, client, named, present, same.trans about⟩
  · rw [steady.marks] at there
    exact rooted.accepted id mark there

structure Extends (endpoint next : EndpointEngine) : Prop where
  rows : ∀ (place : Nat) row, endpoint.engines[place]? = some row → ∃ other, next.engines[place]? = some other ∧
    other.2.name = row.2.name
  held : ∀ lobby name id, next.held lobby name = some id → endpoint.held lobby name = some id ∨
    ∃ row, next.engines[id]? = some row ∧ row.2.name = name
  requests : ∀ (id : Nat) request, endpoint.requests[id]? = some request → ∃ other, next.requests[id]? = some other ∧
    other.clientId = request.clientId ∧ other.requestId = request.requestId ∧ other.channelName = request.channelName

theorem extends_same {endpoint : EndpointEngine} {id index : Nat} {request : JoinRequest}
    (asked : endpoint.requests[id]? = some request)
    (requests : next.requests = endpoint.requests.set id { request with index := index })
    (engines : next.engines = endpoint.engines) (lobbyEngines : next.lobbyEngines = endpoint.lobbyEngines) :
    endpoint.Extends next := by
  refine ⟨fun place row there => ⟨row, by rw [engines]; exact there, rfl⟩, fun lobby name id there => .inl ?_,
    fun other rest there => ?_⟩
  · rw [held, lobbyEngines] at there
    exact there
  rw [requests]
  by_cases same : id = other
  · subst same
    rw [asked] at there
    cases there
    exact ⟨_, List.getElem?_set_self (List.getElem?_eq_some_iff.mp asked).1, rfl, rfl, rfl⟩
  · exact ⟨rest, by rw [getElem?_set_ne same]; exact there, rfl, rfl, rfl⟩

structure Keeps (update : JoinContext → JoinContext) : Prop where
  blind : ∀ context, (update context).mark = update context.mark
  request : ∀ context, (update context).request = context.request
  clientId : ∀ context, (update context).clientId = context.clientId
  requestId : ∀ context, (update context).requestId = context.requestId
  engine : ∀ context, (update context).engine = context.engine
  executed : ∀ context, context.executed = true → (update context).executed = true
  accepted : ∀ context, (context.accepted = true → context.executed = true) → (update context).accepted = true →
    (update context).executed = true

theorem rooted_modify {endpoint : EndpointEngine} (rooted : endpoint.Rooted) (extends_ : endpoint.Extends next)
    (place : Nat) {update : JoinContext → JoinContext} (keeps : Keeps update)
    (marks : next.marks = endpoint.marks.modify place update) : next.Rooted := by
  have before : ∀ (id : Nat) mark, next.marks[id]? = some mark → ∃ old, endpoint.marks[id]? = some old ∧
      mark = if place = id then update old else old := by
    intro id mark there
    rw [marks] at there
    exact get_modify there
  refine ⟨fun lobby name id there => ?_, fun id mark there => ?_, fun id mark there => ?_⟩
  · rcases extends_.held lobby name id there with old | new
    · obtain ⟨row, found, same⟩ := rooted.named lobby name id old
      obtain ⟨other, present, named⟩ := extends_.rows id row found
      exact ⟨other, present, named.trans same⟩
    · exact new
  · obtain ⟨old, found, rfl⟩ := before id mark there
    obtain ⟨request, row, asked, client, named, stands, about⟩ := rooted.contexts id old found
    obtain ⟨other, kept, sameClient, sameId, sameName⟩ := extends_.requests old.request request asked
    obtain ⟨last, present, same⟩ := extends_.rows old.engine row stands
    refine ⟨other, last, ?_⟩
    split
    · rw [keeps.request, keeps.clientId, keeps.requestId, keeps.engine]
      exact ⟨kept, client.trans sameClient.symm, named.trans sameId.symm, present,
        same.trans (about.trans sameName.symm)⟩
    · exact ⟨kept, client.trans sameClient.symm, named.trans sameId.symm, present,
        same.trans (about.trans sameName.symm)⟩
  · obtain ⟨old, found, rfl⟩ := before id mark there
    split
    · exact keeps.accepted old (rooted.accepted id old found)
    · exact rooted.accepted id old found

theorem extends_set {endpoint : EndpointEngine} (changed : ChannelEngine)
    (there : endpoint.engines[place]? = some (lobby, engine)) (named : changed.name = engine.name)
    (requests : next.requests = endpoint.requests)
    (engines : next.engines = endpoint.engines.set place (lobby, changed))
    (lobbyEngines : next.lobbyEngines = endpoint.lobbyEngines) : endpoint.Extends next := by
  refine ⟨fun other row found => ?_, fun lobby name id found => .inl ?_, fun id request asked =>
    ⟨request, by rw [requests]; exact asked, rfl, rfl, rfl⟩⟩
  · rw [engines]
    by_cases same : place = other
    · subst same
      rw [there] at found
      cases found
      exact ⟨_, List.getElem?_set_self (List.getElem?_eq_some_iff.mp there).1, named⟩
    · exact ⟨row, by rw [getElem?_set_ne same]; exact found, rfl⟩
  · rw [held, lobbyEngines] at found
    exact found

theorem extends_silence (endpoint next : EndpointEngine) (same : endpoint.silence.Extends next) : endpoint.Extends next := by
  refine ⟨fun place row there => ?_, fun lobby name id there => same.held lobby name id there, same.requests⟩
  obtain ⟨middle, present, named⟩ := (steady_silence endpoint).rows place row there
  obtain ⟨last, kept, still⟩ := same.rows place middle present
  exact ⟨last, kept, still.trans named⟩

theorem listed_perform {now id : Nat} (leaves : op.arrives = false) (joins : Tables.newcomer op = none)
    (listed : (endpoint.perform now id op).listedAt userId place = true) : endpoint.listedAt userId place = true := by
  simp only [listedAt] at listed ⊢
  cases after : (endpoint.perform now id op).engines[place]? with
  | none =>
    rw [after] at listed
    cases listed
  | some row =>
    rw [after] at listed
    obtain ⟨old, found, _, ⟨rfl, changed⟩ | ⟨_, kept⟩⟩ := perform_row endpoint now id place op row after
    · rw [found]
      have tables : (({ old.2 with effects := [] } : ChannelEngine).act now op).tables = old.2.tables.step now op :=
        Cluster.perform_tables now old.2 op
      have before : (old.2.tables.step now op).lists userId := by
        change row.2.assignsCache.has userId = true at listed
        rw [changed] at listed
        rw [← tables]
        exact listed
      rcases Tables.call_lists old.2.tables now leaves before with kept | ⟨_, _, _, rfl⟩
      · exact kept
      · cases joins
    · rw [found, ← kept]
      exact listed

theorem get_or_create_spec (rooted : endpoint.Rooted) :
    (∀ (place : Nat) row, endpoint.engines[place]? = some row →
        (endpoint.getOrCreateChannel lobby channelName).1.engines[place]? = some row) ∧
      (∀ other name id, (endpoint.getOrCreateChannel lobby channelName).1.held other name = some id →
        endpoint.held other name = some id ∨
          ∃ row, (endpoint.getOrCreateChannel lobby channelName).1.engines[id]? = some row ∧ row.2.name = name) ∧
      (∃ row, (endpoint.getOrCreateChannel lobby channelName).1.engines[(endpoint.getOrCreateChannel lobby channelName).2]? =
        some row ∧ row.2.name = channelName) ∧
      ∀ (place : Nat) row, (endpoint.getOrCreateChannel lobby channelName).1.engines[place]? = some row →
        endpoint.engines[place]? = some row ∨ (row.2.handed = [] ∧ row.2.assignsCache = .empty) := by
  simp only [getOrCreateChannel]
  cases there : (endpoint.lobbyEngines[lobby]?).bind fun engine => engine.channels.get? channelName with
  | some id =>
    obtain ⟨row, found, same⟩ := rooted.named lobby channelName id there
    exact ⟨fun _ _ kept => kept, fun _ _ _ kept => .inl kept, ⟨row, found, same⟩, fun _ _ kept => .inl kept⟩
  | none =>
    have blank : (ChannelEngine.new endpoint.path channelName (endpoint.uuid endpoint.engines.length)
        endpoint.backend).handed = [] := by
      simp only [ChannelEngine.new, ChannelEngine.handed]
      split <;> rfl
    refine ⟨fun place row kept => ?_, fun other name id kept => ?_, ⟨_, getElem?_concat_length, rfl⟩,
      fun place row kept => ?_⟩
    · exact (List.getElem?_append_left (List.getElem?_eq_some_iff.mp kept).1).trans kept
    · simp only [held, getElem?_modify] at kept
      cases entry : endpoint.lobbyEngines[other]? with
      | none =>
        rw [entry] at kept
        cases kept
      | some =>
        rw [entry] at kept
        by_cases same : lobby = other ∧ name = channelName
        · obtain ⟨rfl, rfl⟩ := same
          simp only [if_true, Option.map_eq_map, Option.map_some, Option.bind_some, OrderedMap.get_set_same,
            some.injEq] at kept
          subst kept
          exact .inr ⟨_, getElem?_concat_length, rfl⟩
        left
        rw [held, entry, Option.bind_some]
        by_cases here : lobby = other
        · have apart : name ≠ channelName := fun eq => same ⟨here, eq⟩
          simpa [here, get_set_other apart] using kept
        · simpa [here] using kept
    · rcases get_concat kept with old | ⟨_, rfl⟩
      · exact .inl old
      · exact .inr ⟨blank, rfl⟩

end EndpointEngine

namespace ReplyLedger

variable (ledger : ReplyLedger)

variable (label : Nat × EndpointOp)

-- A request that has yet to be answered: one handler has it in hand.
structure Open (ledger : ReplyLedger) (id : Nat) (request : JoinRequest) : Prop where
  replies : ledger.replies id = []
  added : ledger.added id = false
  socket : ledger.endpoint.isOpen request.clientId = true
  turn : ∃ (place : Nat) (mark : JoinContext), ledger.endpoint.marks[place]? = some mark ∧ mark.request = id ∧
    ¬ ledger.Rests place mark ∧ ∀ (other : Nat) rest, other ≠ place → ledger.endpoint.marks[other]? = some rest →
      rest.request = id → rest.delegated = true

structure Done (ledger : ReplyLedger) (id : Nat) : Prop where
  rests : ∀ (place : Nat) mark, ledger.endpoint.marks[place]? = some mark → mark.request = id → ledger.Rests place mark
  reply : ∃ event, ledger.replies id = [event] ∧
    ((event.event = Events.acknowledge ∧ ledger.seated id = true) ∨
      (event.event ≠ Events.acknowledge ∧ event.action = .error ∧ ledger.added id = false))

structure Inv (ledger : ReplyLedger) : Prop where
  rooted : ledger.endpoint.Rooted
  status : ∀ (id : Nat) request, ledger.endpoint.requests[id]? = some request → ledger.Open id request ∨ ledger.Done id
  blank : ∀ id, ledger.endpoint.requests.length ≤ id → ledger.replies id = [] ∧ ledger.added id = false
  threw : ∀ id, ledger.threw id = true → ∃ mark, ledger.endpoint.marks[id]? = some mark ∧ mark.executed = true

theorem marks_settled {id : Nat} (settled : ledger.Settled id) {mark : JoinContext}
    (there : ledger.endpoint.marks[place]? = some mark) (about : mark.request = id) : mark.finished = true := by
  rw [marks, getElem?_map, map_eq_some_iff] at there
  obtain ⟨context, found, rfl⟩ := there
  exact settled context (mem_of_getElem? found) about

theorem inv_answers (inv : ledger.Inv) : ledger.AnswersOnce := by
  have status : ∀ id, ledger.replies id = [] ∨ ledger.Done id := by
    intro id
    cases asked : ledger.endpoint.requests[id]? with
    | none => exact .inl (inv.blank id (getElem?_eq_none_iff.mp asked)).1
    | some request => exact (inv.status id request asked).imp Open.replies fun done => done
  refine ⟨fun id _ => ?_, fun id bound settled => ?_, fun id event member => ?_, fun id event member => ?_⟩
  · rcases status id with none | done
    · simp [none]
    · obtain ⟨event, same, _⟩ := done.reply
      simp [same]
  · rcases inv.status id _ (getElem?_eq_getElem bound) with waiting | done
    · obtain ⟨_, _, there, about, active, _⟩ := waiting.turn
      exact absurd (.inr (.inr (marks_settled ledger settled there about))) active
    · obtain ⟨_, same, _⟩ := done.reply
      simp [same]
  · intro acknowledged
    rcases status id with none | done
    · rw [none] at member
      cases member
    obtain ⟨reply, same, outcome⟩ := done.reply
    rw [same, mem_singleton] at member
    subst member
    exact outcome.elim And.right fun other => absurd acknowledged other.1
  · intro refused
    rcases status id with none | done
    · rw [none] at member
      cases member
    obtain ⟨reply, same, outcome⟩ := done.reply
    rw [same, mem_singleton] at member
    subst member
    exact outcome.elim (fun granted => absurd granted.1 refused) And.right

-- What a step of one request leaves of the others.
structure Carries (ledger next : ReplyLedger) (id : Nat) : Prop where
  rooted : next.endpoint.Rooted
  requests : ∀ (other : Nat) request, other ≠ id → next.endpoint.requests[other]? = some request →
    ledger.endpoint.requests[other]? = some request
  bound : id < next.endpoint.requests.length
  grown : ledger.endpoint.requests.length ≤ next.endpoint.requests.length
  marks : ∀ (place : Nat) mark, mark.request ≠ id →
    (next.endpoint.marks[place]? = some mark ↔ ledger.endpoint.marks[place]? = some mark)
  threw : ∀ (place : Nat) mark, ledger.endpoint.marks[place]? = some mark → mark.request ≠ id →
    next.threw place = ledger.threw place
  ghosts : ∀ other, other ≠ id → next.replies other = ledger.replies other ∧ next.added other = ledger.added other ∧
    next.seated other = ledger.seated other
  listening : ∀ userId, ledger.endpoint.isOpen userId = true → next.endpoint.isOpen userId = true
  executed : ∀ place, next.threw place = true → ∃ mark, next.endpoint.marks[place]? = some mark ∧ mark.executed = true

theorem inv_carries {ledger next : ReplyLedger} (id : Nat) (inv : ledger.Inv) (carries : ledger.Carries next id)
    (status : ∀ request, next.endpoint.requests[id]? = some request → next.Open id request ∨ next.Done id) : next.Inv := by
  refine ⟨carries.rooted, fun other request asked => ?_, fun other beyond => ?_, carries.executed⟩
  · by_cases same : other = id
    · subst same
      exact status request asked
    · have apart : ∀ (place : Nat) mark, next.endpoint.marks[place]? = some mark → mark.request = other →
          ledger.endpoint.marks[place]? = some mark ∧ next.threw place = ledger.threw place := by
        intro place mark there about
        have away : mark.request ≠ id := about ▸ same
        have old := (carries.marks place mark away).mp there
        exact ⟨old, carries.threw place mark old away⟩
      obtain ⟨replies, added, seated⟩ := carries.ghosts other same
      rcases inv.status other request (carries.requests other request same asked) with waiting | done
      · left
        obtain ⟨place, mark, there, about, active, others⟩ := waiting.turn
        refine ⟨replies.trans waiting.replies, added.trans waiting.added, carries.listening _ waiting.socket,
          place, mark, (carries.marks place mark (about ▸ same)).mpr there, about, ?_, fun there rest away found toward =>
            others there rest away (apart there rest found toward).1 toward⟩
        rw [Rests, carries.threw place mark there (about ▸ same)]
        exact active
      · right
        refine ⟨fun place mark there about => ?_, ?_⟩
        · obtain ⟨old, threw⟩ := apart place mark there about
          rw [Rests, threw]
          exact done.rests place mark old about
        · rw [replies, added, seated]
          exact done.reply
  · have away : other ≠ id := by
      rintro rfl
      exact absurd carries.bound (Nat.not_lt.mpr beyond)
    obtain ⟨replies, added, _⟩ := carries.ghosts other away
    rw [replies, added]
    exact inv.blank other (Nat.le_trans carries.grown beyond)

theorem step_about {id : Nat} (request : JoinRequest)
    (about : ledger.endpoint.silence.about label.2 = some id)
    (asked : (ledger.endpoint.silence.step label).requests[id]? = some request) :
    ledger.step label = ledger.record label id request := by
  simp [step, about, asked]

theorem mark_found {endpoint : EndpointEngine} {context : JoinContext}
    (found : endpoint.contexts[place]? = some context) : endpoint.marks[place]? = some context.mark := by
  rw [marks, getElem?_map, found]
  rfl

theorem turn_of (inv : ledger.Inv) {mark : JoinContext} {request : JoinRequest}
    (there : ledger.endpoint.marks[place]? = some mark) (asked : ledger.endpoint.requests[mark.request]? = some request)
    (active : ¬ ledger.Rests place mark) :
    ledger.Open mark.request request ∧ ∀ (other : Nat) rest, other ≠ place →
      ledger.endpoint.marks[other]? = some rest → rest.request = mark.request → rest.delegated = true := by
  rcases inv.status mark.request request asked with waiting | done
  · refine ⟨waiting, ?_⟩
    obtain ⟨turn, _, _, _, _, others⟩ := waiting.turn
    have same : turn = place := by
      by_contra apart
      exact active (.inl (others place mark (Ne.symm apart) there rfl))
    subst same
    exact others
  · exact absurd (done.rests place mark there rfl) active

theorem unexecuted_calm (inv : ledger.Inv) {mark : JoinContext} (there : ledger.endpoint.marks[place]? = some mark)
    (fresh : mark.executed = false) : ledger.threw place = false := by
  rw [Bool.eq_false_iff]
  intro threw
  obtain ⟨_, found, executed⟩ := inv.threw place threw
  rw [there] at found
  cases found
  rw [fresh] at executed
  cases executed

theorem carries_modify (inv : ledger.Inv) (place : Nat)
    (mark : JoinContext) (request : JoinRequest) (update : JoinContext → JoinContext)
    (there : ledger.endpoint.marks[place]? = some mark) (keeps : EndpointEngine.Keeps update)
    (extends_ : ledger.endpoint.Extends (ledger.endpoint.silence.step label))
    (marks : (ledger.endpoint.silence.step label).marks = ledger.endpoint.marks.modify place update)
    (requests : ∀ (other : Nat) request, other ≠ mark.request →
      (ledger.endpoint.silence.step label).requests[other]? = some request →
      ledger.endpoint.requests[other]? = some request)
    (length : (ledger.endpoint.silence.step label).requests.length = ledger.endpoint.requests.length)
    (bound : mark.request < ledger.endpoint.requests.length) (stays : ∀ userId, label.2 ≠ .close userId)
    (threw : ∀ other, throwsNow ledger.endpoint.silence label.2 other = true →
      other = place ∧ (update mark).executed = true) :
    ledger.Carries (ledger.record label mark.request request) mark.request := by
  have found : ∀ other, (ledger.endpoint.silence.step label).marks[other]? =
      (ledger.endpoint.marks[other]?).map fun mark => if place = other then update mark else mark := by
    intro other
    rw [marks, getElem?_modify]
    rfl
  refine ⟨rooted_modify inv.rooted extends_ place keeps marks, requests, ?_, ?_,
    fun other rest away => ?_, fun other rest old away => ?_, fun other away => ?_, fun userId listening => ?_,
    fun other thrown => ?_⟩
  · exact length ▸ bound
  · exact Nat.le_of_eq length.symm
  · have kept : (ledger.record label mark.request request).endpoint.marks[other]? = _ := found other
    rw [kept]
    by_cases same : place = other
    · subst same
      rw [there, Option.map_some, if_pos rfl]
      constructor
      · intro eq
        cases eq
        exact absurd (keeps.request mark) away
      · intro eq
        cases eq
        exact absurd rfl away
    · simp [same]
  · have calm : throwsNow ledger.endpoint.silence label.2 other = false := by
      rw [Bool.eq_false_iff]
      intro now
      obtain ⟨rfl, _⟩ := threw other now
      rw [there] at old
      cases old
      exact away rfl
    simp [record, calm]
  · simp [record, if_neg away]
  · exact open_step ledger.endpoint.silence (stays userId) listening
  · have kept : (ledger.record label mark.request request).endpoint.marks[other]? = _ := found other
    rw [kept]
    simp only [record, Bool.or_eq_true] at thrown
    rcases thrown with before | now
    · obtain ⟨old, present, executed⟩ := inv.threw other before
      rw [present, Option.map_some]
      refine ⟨_, rfl, ?_⟩
      split
      · exact keeps.executed old executed
      · exact executed
    obtain ⟨rfl, executed⟩ := threw other now
    rw [there, Option.map_some, if_pos rfl]
    exact ⟨_, rfl, executed⟩

theorem done_modify (place : Nat) (mark : JoinContext)
    (request : JoinRequest) (update : JoinContext → JoinContext)
    (there : ledger.endpoint.marks[place]? = some mark)
    (marks : (ledger.endpoint.silence.step label).marks = ledger.endpoint.marks.modify place update)
    (others : ∀ (other : Nat) rest, other ≠ place → ledger.endpoint.marks[other]? = some rest →
      rest.request = mark.request → rest.delegated = true)
    (ends : (ledger.record label mark.request request).Rests place (update mark)) (other : Nat) (rest : JoinContext)
    (found : (ledger.record label mark.request request).endpoint.marks[other]? = some rest)
    (toward : rest.request = mark.request) : (ledger.record label mark.request request).Rests other rest := by
  change (ledger.endpoint.silence.step label).marks[other]? = some rest at found
  rw [marks] at found
  obtain ⟨old, present, rfl⟩ := get_modify found
  by_cases same : place = other
  · subst same
    rw [there] at present
    cases present
    rw [if_pos rfl]
    exact ends
  · rw [if_neg same] at toward ⊢
    exact .inl (others other old (Ne.symm same) present toward)

variable {ledger label}

theorem inv_refused (inv : ledger.Inv) (index : Nat) {context : JoinContext} {request : JoinRequest}
    (update : JoinContext → JoinContext) {event : ChannelEvent}
    (about : ledger.endpoint.silence.about label.2 = some context.request)
    (found : ledger.endpoint.contexts[place]? = some context)
    (asked : ledger.endpoint.requests[context.request]? = some request) (active : ¬ ledger.Rests place context)
    (stays : ∀ userId, label.2 ≠ .close userId)
    (calm : ∀ other, throwsNow ledger.endpoint.silence label.2 other = false) (keeps : EndpointEngine.Keeps update)
    (ends : (update context.mark).delegated = true ∨ (update context.mark).finished = true ∨
      ((update context.mark).executed = true ∧ context.executed = false))
    (spec : ledger.endpoint.silence.step label = { ledger.endpoint.silence with
      requests := ledger.endpoint.requests.set context.request { request with index := index }
      contexts := ledger.endpoint.contexts.modify place update
      sent := [(request.clientId, event)] }) (refuses : EndpointEngine.Refuses event request.requestId) :
    (ledger.step label).Inv := by
  have there := mark_found found
  have bound := (List.getElem?_eq_some_iff.mp asked).1
  have marks : (ledger.endpoint.silence.step label).marks = ledger.endpoint.marks.modify place update := by
    rw [spec]
    exact marks_update ledger.endpoint place update update keeps.blind
  have now : (ledger.endpoint.silence.step label).requests[context.request]? = some { request with index := index } := by
    rw [spec]
    exact List.getElem?_set_self bound
  have extends_ : ledger.endpoint.Extends (ledger.endpoint.silence.step label) :=
    extends_silence ledger.endpoint _ (extends_same asked (by rw [spec]; rfl) (by rw [spec]) (by rw [spec]))
  obtain ⟨waiting, others⟩ := turn_of ledger inv there asked active
  rw [step_about ledger label _ about now]
  refine inv_carries context.request inv (carries_modify ledger label inv place context.mark _ update there keeps
    extends_ marks (fun other rest away kept => ?_) ?_ bound stays fun other thrown => ?_) fun rest kept => .inr ⟨?_, ?_⟩
  · have apart : context.request ≠ other := Ne.symm away
    rw [spec] at kept
    simpa only [getElem?_set_ne apart] using kept
  · rw [spec]
    simp
  · rw [calm other] at thrown
    cases thrown
  · refine done_modify ledger label place context.mark _ update there marks others ?_
    rcases ends with passed | settled | ⟨executed, fresh⟩
    · exact .inl passed
    · exact .inr (.inr settled)
    · refine .inr (.inl ⟨executed, ?_⟩)
      simp only [record, unexecuted_calm ledger inv there fresh, calm place, Bool.or_self]
  · have written : (ledger.endpoint.silence.step label).written request.clientId = [event] := by
      apply written_sent
      · rw [spec]
      · rw [spec]
        exact ledger.endpoint.silence_silent.effects
    have unchanged : ledger.endpoint.silence.adds (ledger.endpoint.silence.step label) request.clientId = false := by
      apply adds_none
      intro place listed
      rw [spec] at listed
      exact listed
    refine ⟨event, ?_, .inr ⟨refuses.event, refuses.action, ?_⟩⟩
    · have answers : event.answers request.requestId = true := by
        simp [ChannelEvent.answers, refuses.requestId, refuses.action]
      have replies : ledger.replies context.request = [] := waiting.replies
      simp only [record, if_true, replies, written, nil_append]
      rw [filter_cons, if_pos answers]
      rfl
    · have added : ledger.added context.request = false := waiting.added
      simp only [record, if_true, added, unchanged, Bool.or_self]

theorem inv_quiet (inv : ledger.Inv) {context : JoinContext} {request : JoinRequest}
    (update : JoinContext → JoinContext) (about : ledger.endpoint.silence.about label.2 = some context.request)
    (found : ledger.endpoint.contexts[place]? = some context)
    (asked : ledger.endpoint.requests[context.request]? = some request) (stays : ∀ userId, label.2 ≠ .close userId)
    (keeps : EndpointEngine.Keeps update)
    (marks : (ledger.endpoint.silence.step label).marks = ledger.endpoint.marks.modify place update)
    (extends_ : ledger.endpoint.Extends (ledger.endpoint.silence.step label))
    (requests : (ledger.endpoint.silence.step label).requests = ledger.endpoint.requests)
    (threw : ∀ other, throwsNow ledger.endpoint.silence label.2 other = true →
      other = place ∧ (update context.mark).executed = true)
    (passes : context.delegated = true → (update context.mark).delegated = true)
    (same : (ledger.record label context.request request).Rests place (update context.mark) ↔
      ledger.Rests place context.mark) (written : (ledger.endpoint.silence.step label).written request.clientId = [])
    (adds : ledger.endpoint.silence.adds (ledger.endpoint.silence.step label) request.clientId = false) :
    (ledger.step label).Inv := by
  have there := mark_found found
  have bound := (List.getElem?_eq_some_iff.mp asked).1
  have replies : (ledger.record label context.request request).replies context.request = ledger.replies context.request := by
    simp only [record, if_true, written, filter_nil, append_nil]
  have added : (ledger.record label context.request request).added context.request = ledger.added context.request := by
    simp only [record, if_true, adds, Bool.or_false]
  have calm : ∀ other, other ≠ place → (ledger.record label context.request request).threw other = ledger.threw other := by
    intro other away
    have quiet : throwsNow ledger.endpoint.silence label.2 other = false := by
      rw [Bool.eq_false_iff]
      exact fun now => away (threw other now).1
    simp only [record, quiet, Bool.or_false]
  have lookup : ∀ other, (ledger.record label context.request request).endpoint.marks[other]? =
      (ledger.endpoint.marks[other]?).map fun mark => if place = other then update mark else mark := by
    intro other
    change (ledger.endpoint.silence.step label).marks[other]? = _
    rw [marks, getElem?_modify]
    rfl
  have carries := carries_modify ledger label inv place context.mark request update there keeps extends_ marks
    (fun other rest _ kept => by rw [requests] at kept; exact kept) (by rw [requests]) bound stays threw
  rw [step_about ledger label request about (by rw [requests]; exact asked)]
  refine inv_carries context.request inv carries fun rest kept => ?_
  have unchanged : (ledger.record label context.request request).endpoint.requests[context.request]? = some request := by
    change (ledger.endpoint.silence.step label).requests[context.request]? = some request
    rw [requests]
    exact asked
  rw [unchanged] at kept
  cases kept
  rcases inv.status context.request request asked with waiting | done
  · left
    obtain ⟨turn, held, there', toward, active, others⟩ := waiting.turn
    have socket := carries.listening request.clientId waiting.socket
    refine ⟨replies.trans waiting.replies, added.trans waiting.added, socket, turn, ?_⟩
    have rest : ∀ (other : Nat) mark, other ≠ turn →
        (ledger.record label context.request request).endpoint.marks[other]? = some mark → mark.request = context.request →
        mark.delegated = true := by
      intro other mark away present about
      rw [lookup, map_eq_some_iff] at present
      obtain ⟨old, was, rfl⟩ := present
      by_cases here : place = other
      · subst here
        rw [there] at was
        cases was
        rw [if_pos rfl]
        exact passes (others place context.mark away there rfl)
      · rw [if_neg here] at about ⊢
        exact others other old away was about
    by_cases here : place = turn
    · subst here
      rw [there] at there'
      cases there'
      refine ⟨update context.mark, ?_, keeps.request _, fun rests => active (same.mp rests), rest⟩
      rw [lookup, there, Option.map_some, if_pos rfl]
    refine ⟨held, ?_, toward, ?_, rest⟩
    · rw [lookup, there', Option.map_some, if_neg here]
    · rw [Rests, calm turn (Ne.symm here)]
      exact active
  · right
    refine ⟨fun other mark present toward => ?_, ?_⟩
    · rw [lookup, map_eq_some_iff] at present
      obtain ⟨old, was, rfl⟩ := present
      by_cases here : place = other
      · subst here
        rw [there] at was
        cases was
        rw [if_pos rfl]
        exact same.mpr (done.rests place _ there rfl)
      rw [if_neg here] at toward ⊢
      rw [Rests, calm other (Ne.symm here)]
      exact done.rests other old was toward
    · rw [replies, added]
      obtain ⟨event, single, outcome⟩ := done.reply
      refine ⟨event, single, outcome.imp (fun granted => ⟨granted.1, ?_⟩) fun refused => refused⟩
      simp only [record, if_true, granted.2, Bool.true_or]

theorem keeps_id : EndpointEngine.Keeps fun context => context :=
  ⟨fun _ => rfl, fun _ => rfl, fun _ => rfl, fun _ => rfl, fun _ => rfl, fun _ executed => executed,
    fun _ implied accepted => implied accepted⟩

theorem inv_idle (inv : ledger.Inv) {context : JoinContext} {request : JoinRequest}
    (about : ledger.endpoint.silence.about label.2 = some context.request)
    (found : ledger.endpoint.contexts[place]? = some context)
    (asked : ledger.endpoint.requests[context.request]? = some request) (stays : ∀ userId, label.2 ≠ .close userId)
    (calm : ∀ other, throwsNow ledger.endpoint.silence label.2 other = false)
    (steady : ledger.endpoint.silence.Steady (ledger.endpoint.silence.step label))
    (written : (ledger.endpoint.silence.step label).written request.clientId = [])
    (adds : ledger.endpoint.silence.adds (ledger.endpoint.silence.step label) request.clientId = false) :
    (ledger.step label).Inv := by
  have whole := steady_trans (steady_silence ledger.endpoint) steady
  have quiet : ∀ other, (ledger.record label context.request request).threw other = ledger.threw other := by
    intro other
    simp [record, calm other]
  refine inv_quiet inv (fun context => context) about found asked stays keeps_id ?_
    ⟨whole.rows, fun lobby name id there => .inl (whole.held lobby name id there), fun id request there =>
      ⟨request, by rw [whole.requests]; exact there, rfl, rfl, rfl⟩⟩ whole.requests (fun other thrown => ?_)
    (fun passed => passed) ?_ written adds
  · rw [whole.marks]
    exact (modify_id place ledger.endpoint.marks).symm
  · rw [calm other] at thrown
    cases thrown
  · rw [Rests, quiet]
    rfl

end ReplyLedger

end PondSocket.Js
