import PondSocket.Js.ChannelHanded
import PondSocket.Js.ClientChannel
import PondSocket.Js.GhostMembers
import PondSocket.Js.LobbyMap

namespace PondSocket.Js

open Library List OrderedMap Option ChannelEngine Tables

variable {tables : Tables}

namespace Tables

theorem remove_absent {userId other : UserId} (absent : tables.presenceCache.has other = false) :
    (tables.remove userId).presenceCache.has other = false := by
  simp only [remove]
  split
  · split
    · rfl
    · rw [unsubscribe_frame]
      rw [Bool.eq_false_iff]
      intro present
      rw [(has_delete.mp present).2] at absent
      cases absent
  · exact absent

end Tables

namespace EndpointEngine

def handleMessage (endpoint : EndpointEngine) (now : Nat) (clientId : UserId) (message : ClientMessage) :
    EndpointEngine :=
  match message.action with
  | .joinChannel => endpoint.joinChannel clientId message.channelName message.requestId
  | .leaveChannel => endpoint.leaveChannel now clientId message.channelName
  | .broadcast =>
    match endpoint.retrieveChannel message.channelName with
    | .error thrown => endpoint.rejectMessage clientId thrown
    | .ok id =>
      match endpoint.engines[id]? with
      | none => endpoint
      | some (_, engine) =>
        let requestId := RequestId.supplied message.requestId
        match (engine.broadcastMessage clientId message.event requestId message.payload).thrown with
        | some thrown => endpoint.rejectMessage clientId thrown
        | none => endpoint.perform now id (.broadcastMessage clientId message.event requestId message.payload)

-- What accept throws, at #performChecks or out of addUser.
def acceptThrown (endpoint : EndpointEngine) (context : JoinContext) : Option Thrown :=
  match endpoint.engines[context.engine]? with
  | none => none
  | some (_, engine) =>
    if context.executed then
      some (.httpError 403 s!"Request to join channel {engine.name} rejected: Request already executed")
    else (engine.addUser context.clientId context.newAssigns context.clientId context.requestId).thrown

def acceptAndReturn (endpoint : EndpointEngine) (now : Nat) (id : Nat) (assigns : Option PondAssigns) :
    EndpointEngine :=
  match endpoint.contexts[id]? with
  | none => endpoint
  | some context =>
    if context.finished then endpoint
    else
      match endpoint.acceptThrown context with
      | none => (endpoint.accept now id assigns).finish id
      | some thrown => (endpoint.accept now id assigns).fail id thrown

def silence (endpoint : EndpointEngine) : EndpointEngine :=
  { endpoint with
    engines := endpoint.engines.map fun row => (row.1, { row.2 with effects := [] })
    sent := [] }

def written (endpoint : EndpointEngine) (clientId : UserId) : List ChannelEvent :=
  (endpoint.sent.filter fun row => row.1 = clientId).map Prod.snd ++
    endpoint.engines.flatMap fun row =>
      (row.2.handed.filter fun pair => pair.1.onMessage = clientId).map Prod.snd

end EndpointEngine

namespace EndpointEngine

variable (endpoint : EndpointEngine) (clientId : UserId) (name : String)

variable (name requestId : String) (lobby : Nat)

-- An engine without its log: its lobby, its name and its tables.
def seat (endpoint : EndpointEngine) (place : Nat) : Option (Nat × String × Tables) :=
  (endpoint.engines[place]?).map fun row => (row.1, row.2.name, row.2.tables)

structure Room (clientId : UserId) (name : String) (lobby : Nat) (seat : Nat × String × Tables) : Prop where
  home : seat.1 = lobby
  text : seat.2.1 = name
  alone : ∀ userId, seat.2.2.lists userId → userId = clientId
  absent : seat.2.2.presenceCache.has clientId = false

structure Facing (endpoint : EndpointEngine) (clientId : UserId) (name : String) (lobby : Nat) : Prop where
  listening : ∃ cache, endpoint.sockets.get? clientId = some cache ∧ cache.closed = false
  matched : endpoint.firstMatch 0 name = some lobby
  rooms : ∀ (place : Nat) seat, endpoint.seat place = some seat → Room clientId name lobby seat

def Outside (endpoint : EndpointEngine) (clientId : UserId) (place : Nat) : Prop :=
  ∀ seat, endpoint.seat place = some seat → ¬ seat.2.2.lists clientId ∧ ¬ seat.2.2.hosts clientId

structure Vacant (endpoint : EndpointEngine) (clientId : UserId) (name : String) (lobby : Nat) : Prop where
  facing : endpoint.Facing clientId name lobby
  nobody : ∀ place, endpoint.Outside clientId place
  unheld : endpoint.held lobby name = none
  settled : ∀ (id : Nat) context, endpoint.contexts[id]? = some context → context.finished = true

structure Waiting (endpoint : EndpointEngine) (clientId : UserId) (name : String) (lobby : Nat) (requestId : String) :
    Prop where
  facing : endpoint.Facing clientId name lobby
  nobody : ∀ place, endpoint.Outside clientId place
  asked : ∃ (id : Nat) (context : JoinContext) (tables : Tables), endpoint.contexts[id]? = some context ∧
    (∀ other rest, other ≠ id → endpoint.contexts[other]? = some rest → rest.finished = true) ∧
    context.clientId = clientId ∧ context.requestId = .supplied requestId ∧ context.executed = false ∧
    context.accepted = false ∧ context.finished = false ∧
    endpoint.seat context.engine = some (lobby, name, tables) ∧ tables.publisher.isClosed = false

structure Seated (endpoint : EndpointEngine) (clientId : UserId) (name : String) (lobby : Nat) : Prop where
  facing : endpoint.Facing clientId name lobby
  chair : ∃ (cache : SocketCache) (closure place : Nat) (tables : Tables),
    endpoint.sockets.get? clientId = some cache ∧ cache.closed = false ∧
    cache.channelSubscriptions.get? name = some closure ∧ endpoint.closures[closure]? = some place ∧
    endpoint.seat place = some (lobby, name, tables) ∧ tables.lists clientId ∧
    ∀ other, other ≠ place → endpoint.Outside clientId other
  settled : ∀ (id : Nat) context, endpoint.contexts[id]? = some context → context.finished = true

structure Silent (endpoint : EndpointEngine) : Prop where
  sent : endpoint.sent = []
  effects : ∀ row ∈ endpoint.engines, row.2.handed = []

theorem silence_silent : endpoint.silence.Silent := by
  refine ⟨rfl, fun row member => ?_⟩
  obtain ⟨_, _, rfl⟩ := mem_map.mp member
  rfl

theorem silence_seat : endpoint.silence.seat = endpoint.seat := by
  funext place
  simp only [seat, silence, List.getElem?_map, Option.map_map]
  rfl

variable {clientId}

theorem written_silent (silent : endpoint.Silent) :
    endpoint.written clientId = [] := by
  simp only [written, silent.sent, filter_nil, map_nil, nil_append, flatMap_eq_nil_iff]
  intro row member
  rw [silent.effects row member]
  rfl

theorem seat_perform (now id place : Nat) (op : EngineOp) :
    (endpoint.perform now id op).seat place = (endpoint.seat place).map fun seat =>
      if place = id then (seat.1, seat.2.1, seat.2.2.step now op) else seat := by
  simp only [seat, perform]
  cases target : endpoint.engines[id]? with
  | none =>
    have apart : ∀ row, endpoint.engines[place]? = some row → place ≠ id := by
      rintro row there rfl
      rw [target] at there
      cases there
    cases there : endpoint.engines[place]? with
    | none => rfl
    | some row => simp [apart row there]
  | some row =>
    by_cases same : place = id
    · subst same
      have bound := (List.getElem?_eq_some_iff.mp target).1
      have tables : (({ row.2 with effects := [] } : ChannelEngine).act now op).tables = row.2.tables.step now op :=
        Cluster.perform_tables now row.2 op
      rw [getElem?_set_self bound, target]
      simp [tables, name_act]
    · rw [getElem?_set_ne (Ne.symm same)]
      cases endpoint.engines[place]? <;> simp [same]

variable {now id : Nat}

theorem silent_perform {op : EngineOp} (silent : endpoint.Silent) (quiet : ∀ row, endpoint.engines[id]? = some row →
      (({ row.2 with effects := [] } : ChannelEngine).act now op).handed = []) :
    (endpoint.perform now id op).Silent := by
  refine ⟨?_, fun row member => ?_⟩
  · rw [perform_frame]
    exact silent.sent
  obtain ⟨place, found⟩ := mem_iff_getElem?.mp member
  obtain ⟨old, present, _, ⟨same, changed⟩ | ⟨_, kept⟩⟩ := perform_row endpoint now id place op row found
  · rw [changed]
    exact quiet old (same ▸ present)
  · rw [kept]
    exact silent.effects old (mem_of_getElem? present)

variable {next : EndpointEngine}

theorem first_match_same {endpoint : EndpointEngine}
    (same : next.lobbyEngines.map LobbyEngine.parseAddress = endpoint.lobbyEngines.map LobbyEngine.parseAddress) :
    next.firstMatch = endpoint.firstMatch := by
  funext start name
  have patterns : ∀ lobbies : List LobbyEngine, (lobbies.drop start).findIdx? (fun lobby => lobby.parseAddress name) =
        ((lobbies.map LobbyEngine.parseAddress).drop start).findIdx? fun parse => parse name := by
    intro lobbies
    rw [← map_drop, findIdx?_map]
    rfl
  simp [firstMatch, patterns, same]

theorem modify_patterns (lobbies : List LobbyEngine) (lobby : Nat) (update : LobbyEngine → LobbyEngine)
    (kept : ∀ entry, (update entry).parseAddress = entry.parseAddress) :
    (lobbies.modify lobby update).map LobbyEngine.parseAddress = lobbies.map LobbyEngine.parseAddress := by
  apply ext_getElem?
  intro place
  rw [List.getElem?_map, List.getElem?_map, getElem?_modify]
  cases lobbies[place]? with
  | none => rfl
  | some => split <;> simp [kept]

variable {lobby}

theorem facing_silence (facing : endpoint.Facing clientId name lobby) : endpoint.silence.Facing clientId name lobby :=
  ⟨facing.listening, facing.matched, by rw [silence_seat]; exact facing.rooms⟩

variable {place : Nat}

theorem outside_silence (outside : endpoint.Outside clientId place) : endpoint.silence.Outside clientId place := by
  rw [Outside, silence_seat]
  exact outside

theorem vacant_silence (vacant : endpoint.Vacant clientId name lobby) : endpoint.silence.Vacant clientId name lobby :=
  ⟨facing_silence endpoint name vacant.facing,
    fun place => outside_silence endpoint (vacant.nobody place), vacant.unheld, vacant.settled⟩

theorem waiting_silence {requestId : String}
    (waiting : endpoint.Waiting clientId name lobby requestId) :
    endpoint.silence.Waiting clientId name lobby requestId :=
  ⟨facing_silence endpoint name waiting.facing, fun place => outside_silence endpoint (waiting.nobody place),
    by rw [silence_seat]; exact waiting.asked⟩

theorem seated_silence
    (seated : endpoint.Seated clientId name lobby) : endpoint.silence.Seated clientId name lobby := by
  obtain ⟨cache, closure, place, tables, found, running, subscribed, closes, there, listed, others⟩ := seated.chair
  refine ⟨facing_silence endpoint name seated.facing, ⟨cache, closure, place, tables, found, running,
    subscribed, closes, ?_, listed, fun other apart => outside_silence endpoint (others other apart)⟩,
    seated.settled⟩
  rw [silence_seat]
  exact there

variable {cache : SocketCache}

theorem join_fresh (found : endpoint.sockets.get? clientId = some cache) (running : cache.closed = false)
    (matched : endpoint.firstMatch 0 name = some lobby) (unheld : endpoint.held lobby name = none) :
    ∃ requests, endpoint.joinChannel clientId name requestId = { endpoint with
      requests := requests
      engines := endpoint.engines ++
        [(lobby, .new endpoint.path name (endpoint.uuid endpoint.engines.length) endpoint.backend)]
      lobbyEngines := endpoint.lobbyEngines.modify lobby fun engine =>
        { engine with channels := engine.channels.set name endpoint.engines.length }
      contexts := endpoint.contexts ++
        [{ request := endpoint.requests.length, clientId := clientId, requestId := .supplied requestId,
           engine := endpoint.engines.length, newAssigns := cache.assigns }] } := by
  have missing : ((endpoint.lobbyEngines[lobby]?).bind fun engine => engine.channels.get? name) = none := unheld
  have first : ({ endpoint with requests :=
      endpoint.requests ++ [⟨clientId, name, .supplied requestId, cache.assigns, 0⟩] } :
        EndpointEngine).firstMatch 0 name = some lobby := matched
  simp only [joinChannel, found, running, runNext, getElem?_concat_length, first, getOrCreateChannel, missing]
  exact ⟨_, rfl⟩

theorem new_tables (endpointId name : String) (nodeId : NodeId) (backend : Option DistributedBackend) (userId : UserId) :
    ¬ (ChannelEngine.new endpointId name nodeId backend).tables.lists userId ∧
      ¬ (ChannelEngine.new endpointId name nodeId backend).tables.hosts userId ∧
      (ChannelEngine.new endpointId name nodeId backend).tables.presenceCache.has userId = false := by
  simp [ChannelEngine.new, tables, getPresence, lists, hosts]

theorem seat_append (endpoint : EndpointEngine) {row : Nat × ChannelEngine} {seat : Nat × String × Tables}
    (engines : next.engines = endpoint.engines ++ [row]) (found : next.seat place = some seat) :
    endpoint.seat place = some seat ∨ seat = (row.1, row.2.name, row.2.tables) := by
  rw [EndpointEngine.seat, engines, map_eq_some_iff] at found
  obtain ⟨_, there, same⟩ := found
  rcases get_concat there with old | ⟨_, rfl⟩
  · rw [EndpointEngine.seat, old]
    exact .inl (congrArg some same)
  · exact .inr same.symm

theorem vacant_join (vacant : endpoint.Vacant clientId name lobby) (silent : endpoint.Silent) :
    (endpoint.joinChannel clientId name requestId).Waiting clientId name lobby requestId ∧
      (endpoint.joinChannel clientId name requestId).Silent := by
  obtain ⟨cache, found, running⟩ := vacant.facing.listening
  obtain ⟨_, spec⟩ := join_fresh endpoint name requestId found running vacant.facing.matched vacant.unheld
  rw [spec]
  have fresh := new_tables endpoint.path name (endpoint.uuid endpoint.engines.length) endpoint.backend
  refine ⟨⟨⟨⟨cache, found, running⟩, ?_, fun place seat there => ?_⟩, fun place seat there => ?_, ?_⟩, ?_⟩
  · have same := modify_patterns endpoint.lobbyEngines lobby
      (fun engine => { engine with channels := engine.channels.set name endpoint.engines.length }) fun _ => rfl
    rw [first_match_same same]
    exact vacant.facing.matched
  · rcases seat_append endpoint rfl there with old | rfl
    · exact vacant.facing.rooms place seat old
    · exact ⟨rfl, rfl, fun userId listed => absurd listed (fresh userId).1, (fresh clientId).2.2⟩
  · rcases seat_append endpoint rfl there with old | rfl
    · exact vacant.nobody place seat old
    · exact ⟨(fresh clientId).1, (fresh clientId).2.1⟩
  · refine ⟨endpoint.contexts.length, _,
      (ChannelEngine.new endpoint.path name (endpoint.uuid endpoint.engines.length) endpoint.backend).tables,
      getElem?_concat_length, ?_, rfl, rfl, rfl, rfl, rfl, ?_, rfl⟩
    · intro other rest different there
      rcases get_concat there with old | ⟨last, _⟩
      · exact vacant.settled other rest old
      · exact absurd last different
    · rw [seat, getElem?_concat_length]
      rfl
  · refine ⟨silent.sent, fun row member => ?_⟩
    rcases mem_append.mp member with old | new
    · exact silent.effects row old
    rw [mem_singleton.mp new]
    simp only [ChannelEngine.new, handed]
    split <;> rfl

theorem accept_settled (now id : Nat) (assigns : Option PondAssigns)
    (settled : ∀ context, endpoint.contexts[id]? = some context → context.finished = true) :
    endpoint.acceptAndReturn now id assigns = endpoint := by
  simp only [acceptAndReturn]
  cases found : endpoint.contexts[id]? with
  | none => rfl
  | some context => simp [settled context found]

variable {engine : ChannelEngine}

theorem perform_open {lobby : Nat} {op : EngineOp} (there : endpoint.engines[id]? = some (lobby, engine))
    (opens : engine.tables.shuts op = false) :
    endpoint.perform now id op = { endpoint with
      engines := endpoint.engines.set id (lobby, ({ engine with effects := [] } : ChannelEngine).act now op) } := by
  have lobbies := perform_lobbies endpoint now op there
  rw [if_neg (by rw [opens]; decide)] at lobbies
  rw [perform_frame, lobbies]
  simp [perform, there]

theorem subscribe_free (now id : Nat) (context : JoinContext) (lobby : Nat)
    (engine : ChannelEngine) (cache : SocketCache) (there : endpoint.engines[context.engine]? = some (lobby, engine))
    (unlisted : engine.assignsCache.has context.clientId = false) (listening : engine.publisher.isClosed = false)
    (socket : endpoint.sockets.get? context.clientId = some cache) :
    endpoint.subscribe now id context = { endpoint with
      sockets := endpoint.sockets.set context.clientId { cache with
        subscriptions := cache.subscriptions.add endpoint.closures.length
        channelSubscriptions := cache.channelSubscriptions.set engine.name endpoint.closures.length }
      engines := endpoint.engines.set context.engine (lobby, ({ engine with effects := [] } : ChannelEngine).act now
        (.addUser context.clientId context.newAssigns context.clientId context.requestId))
      closures := endpoint.closures ++ [context.engine]
      contexts := (endpoint.contexts.modify id fun context => { context with executed := true }).modify id
        fun context => { context with accepted := true } } := by
  have passed := (add_user_thrown engine context.clientId context.newAssigns context.clientId context.requestId).mpr
    ⟨unlisted, listening⟩
  simp only [subscribe, there, passed]
  rw [perform_open endpoint there rfl]
  simp [updateContext, updateSocket, socket]

theorem finish_executed (id : Nat) (context : JoinContext)
    (found : endpoint.contexts[id]? = some context) (unsettled : context.finished = false)
    (executed : context.executed = true) :
    endpoint.finish id = endpoint.updateContext id fun context => { context with finished := true } := by
  simp [finish, found, unsettled, executed]

variable {assigns : Option PondAssigns} {context : JoinContext}

theorem accept_fresh (found : endpoint.contexts[id]? = some context) (fresh : context.executed = false)
    (unaccepted : context.accepted = false) :
    ∃ merge : PondAssigns → PondAssigns, endpoint.accept now id assigns =
        (endpoint.updateContext id fun context => { context with newAssigns := merge context.newAssigns }).subscribe now id
          { context with newAssigns := merge context.newAssigns } := by
  have unexecuted : ¬ context.executed = true := by
    rw [fresh]
    decide
  cases assigns with
  | none =>
    refine ⟨fun given => given, ?_⟩
    have same : (endpoint.updateContext id fun context => { context with newAssigns := context.newAssigns }) = endpoint := by
      exact congrArg (fun contexts => { endpoint with contexts := contexts }) (modify_id id endpoint.contexts)
    simp only [accept, found, same]
    exact if_neg unexecuted
  | some given =>
    refine ⟨fun old => old.merge given, ?_⟩
    have merged : endpoint.assign now id context given = endpoint.updateContext id fun context =>
        { context with newAssigns := context.newAssigns.merge given } := by
      simp only [assign, unaccepted, Bool.false_eq_true, if_false]
    simp only [accept, found, merged]
    exact if_neg unexecuted

theorem accept_open {lobby : Nat} (found : endpoint.contexts[id]? = some context) (fresh : context.executed = false)
    (unaccepted : context.accepted = false) (there : endpoint.engines[context.engine]? = some (lobby, engine))
    (unlisted : engine.assignsCache.has context.clientId = false) (listening : engine.publisher.isClosed = false)
    (socket : endpoint.sockets.get? context.clientId = some cache) :
    ∃ (merge : PondAssigns → PondAssigns) (newAssigns : PondAssigns), endpoint.accept now id assigns = { endpoint with
      sockets := endpoint.sockets.set context.clientId { cache with
        subscriptions := cache.subscriptions.add endpoint.closures.length
        channelSubscriptions := cache.channelSubscriptions.set engine.name endpoint.closures.length }
      engines := endpoint.engines.set context.engine (lobby, ({ engine with effects := [] } : ChannelEngine).act now
        (.addUser context.clientId newAssigns context.clientId context.requestId))
      closures := endpoint.closures ++ [context.engine]
      contexts := endpoint.contexts.modify id fun context =>
        { context with newAssigns := merge context.newAssigns, executed := true, accepted := true } } := by
  obtain ⟨merge, accepted⟩ := accept_fresh endpoint found fresh unaccepted
  refine ⟨merge, merge context.newAssigns, ?_⟩
  rw [accepted, subscribe_free (endpoint.updateContext id fun context => { context with newAssigns := merge context.newAssigns })
    now id { context with newAssigns := merge context.newAssigns } lobby engine cache there unlisted listening socket]
  simp only [updateContext, modify_modify_eq]
  rfl

theorem accept_free {lobby : Nat} (found : endpoint.contexts[id]? = some context) (fresh : context.executed = false)
    (unaccepted : context.accepted = false) (unsettled : context.finished = false)
    (there : endpoint.engines[context.engine]? = some (lobby, engine))
    (unlisted : engine.assignsCache.has context.clientId = false) (listening : engine.publisher.isClosed = false)
    (socket : endpoint.sockets.get? context.clientId = some cache) :
    ∃ contexts newAssigns, endpoint.acceptAndReturn now id assigns = { endpoint with
      sockets := endpoint.sockets.set context.clientId { cache with
        subscriptions := cache.subscriptions.add endpoint.closures.length
        channelSubscriptions := cache.channelSubscriptions.set engine.name endpoint.closures.length }
      engines := endpoint.engines.set context.engine (lobby, ({ engine with effects := [] } : ChannelEngine).act now
        (.addUser context.clientId newAssigns context.clientId context.requestId))
      closures := endpoint.closures ++ [context.engine]
      contexts := contexts } ∧
      ∀ other rest, contexts[other]? = some rest →
        rest.finished = true ∨ (other ≠ id ∧ endpoint.contexts[other]? = some rest) := by
  have passed : endpoint.acceptThrown context = none := by
    simp only [acceptThrown, there, fresh]
    exact (add_user_thrown engine _ _ _ _).mpr ⟨unlisted, listening⟩
  have spec : endpoint.acceptAndReturn now id assigns = (endpoint.accept now id assigns).finish id := by
    simp [acceptAndReturn, found, unsettled, passed]
  obtain ⟨merge, newAssigns, accepted⟩ := accept_open endpoint found fresh unaccepted there unlisted listening socket
  rw [spec, accepted, finish_executed _ id
    { context with newAssigns := merge context.newAssigns, executed := true, accepted := true } (by simp [found])
    unsettled rfl]
  refine ⟨_, newAssigns, rfl, fun other rest there => ?_⟩
  by_cases same : other = id
  · subst same
    simp only [List.getElem?_modify_eq, found, Option.map_eq_map, Option.map_some, Option.some.injEq] at there
    exact .inl (there ▸ rfl)
  · simp only [getElem?_modify_ne _ _ (Ne.symm same)] at there
    exact .inr ⟨same, there⟩

theorem seat_found {lobby : Nat} {name : String} (there : endpoint.seat place = some (lobby, name, tables)) :
    ∃ engine, endpoint.engines[place]? = some (lobby, engine) ∧ engine.name = name ∧ engine.tables = tables := by
  obtain ⟨row, found, same⟩ := map_eq_some_iff.mp there
  cases same
  exact ⟨row.2, found, rfl, rfl⟩

theorem written_set (endpoint next : EndpointEngine) (clientId : UserId) (place : Nat) (row : Nat × ChannelEngine)
    (silent : endpoint.Silent) (bound : place < endpoint.engines.length)
    (engines : next.engines = endpoint.engines.set place row) (sent : next.sent = endpoint.sent) :
    next.written clientId = (row.2.handed.filter fun pair => pair.1.onMessage = clientId).map Prod.snd := by
  have mute : ∀ rows : List (Nat × ChannelEngine), (∀ row ∈ rows, row ∈ endpoint.engines) →
      (rows.flatMap fun row => (row.2.handed.filter fun pair => pair.1.onMessage = clientId).map Prod.snd) = [] := by
    intro rows known
    rw [flatMap_eq_nil_iff]
    intro row member
    rw [silent.effects row (known row member)]
    rfl
  rw [written, engines, sent, silent.sent, set_eq_take_append_cons_drop, if_pos bound, flatMap_append,
    flatMap_cons, mute _ fun row member => mem_of_mem_take member,
    mute _ fun row member => mem_of_mem_drop member]
  simp

theorem waiting_accept {clientId : UserId} {name requestId : String} {lobby : Nat}
    (waiting : endpoint.Waiting clientId name lobby requestId) (silent : endpoint.Silent) :
    (endpoint.acceptAndReturn now id assigns = endpoint) ∨
      ((endpoint.acceptAndReturn now id assigns).Seated clientId name lobby ∧ ∃ acknowledgement : ChannelEvent,
          (endpoint.acceptAndReturn now id assigns).written clientId = [acknowledgement] ∧
          acknowledgement.event = Events.acknowledge ∧ acknowledgement.channelName = name ∧
          acknowledgement.requestId = .supplied requestId) := by
  obtain ⟨asked, context, tables, found, others, rfl, request, fresh, unaccepted, unsettled, there, listening⟩ :=
    waiting.asked
  by_cases answered : id = asked
  · right
    subst answered
    obtain ⟨engine, held, rfl, rfl⟩ := seat_found endpoint there
    have absent := waiting.nobody context.engine _ there
    have unlisted : engine.assignsCache.has context.clientId = false := Bool.eq_false_iff.mpr absent.1
    obtain ⟨cache, socket, running⟩ := waiting.facing.listening
    obtain ⟨_, newAssigns, spec, settled⟩ := accept_free endpoint found
      fresh unaccepted unsettled held unlisted listening socket
    have bound := (List.getElem?_eq_some_iff.mp held).1
    have seats : ∀ (place : Nat) seat, (endpoint.acceptAndReturn now id assigns).seat place = some seat →
        ∃ old, endpoint.seat place = some old ∧ seat = if place = context.engine then
          (old.1, old.2.1, old.2.2.join context.clientId newAssigns context.clientId) else old := by
      intro place seat taken
      have moved := seat_perform endpoint now context.engine place
        (.addUser context.clientId newAssigns context.clientId context.requestId)
      rw [perform_open endpoint held rfl] at moved
      rw [spec] at taken
      obtain ⟨old, was, same⟩ := map_eq_some_iff.mp (moved.symm.trans taken)
      exact ⟨old, was, same.symm⟩
    refine ⟨⟨⟨?_, ?_, fun place seat taken => ?_⟩, ?_, ?_⟩, engine.acknowledgement context.requestId, ?_, rfl, rfl, request⟩
    · rw [spec]
      exact ⟨_, get_set_same, running⟩
    · rw [spec]
      exact waiting.facing.matched
    · obtain ⟨old, was, rfl⟩ := seats place seat taken
      have room := waiting.facing.rooms place old was
      split
      · refine ⟨room.home, room.text, fun userId listed => ?_, ?_⟩
        · exact ((join_lists _ _ _ _ _).mp listed).elim (room.alone userId) fun same => same
        · rw [join_presence]
          exact room.absent
      · exact room
    · refine ⟨{ cache with
        subscriptions := cache.subscriptions.add endpoint.closures.length
        channelSubscriptions := cache.channelSubscriptions.set engine.name endpoint.closures.length },
        endpoint.closures.length, context.engine, engine.tables.join context.clientId newAssigns context.clientId, ?_,
        running, get_set_same, ?_, ?_, (join_lists _ _ _ _ _).mpr (.inr rfl),
        fun other apart seat taken => ?_⟩
      · rw [spec]
        exact get_set_same
      · rw [spec]
        exact getElem?_concat_length
      · have moved := seat_perform endpoint now context.engine context.engine
          (.addUser context.clientId newAssigns context.clientId context.requestId)
        rw [perform_open endpoint held rfl, there] at moved
        rw [spec]
        exact moved.trans (by simp [Tables.step])
      · obtain ⟨old, was, rfl⟩ := seats other seat taken
        rw [if_neg apart]
        exact waiting.nobody other old was
    · intro other rest kept
      rw [spec] at kept
      rcases settled other rest kept with done | ⟨apart, was⟩
      · exact done
      · exact others other rest apart was
    · rw [written_set endpoint _ context.clientId context.engine _ silent bound (by rw [spec]) (by rw [spec])]
      have handed : (({ engine with effects := [] } : ChannelEngine).act now
          (.addUser context.clientId newAssigns context.clientId context.requestId)).handed = _ :=
        handed_add_user { engine with effects := [] } context.clientId newAssigns context.clientId
          context.requestId
      rw [handed]
      simp only [unlisted, Bool.false_eq_true, if_false]
      simp [ChannelEngine.handed, ChannelEngine.acknowledgement]
  · exact .inl (accept_settled endpoint now id assigns fun context found => others id context answered found)

theorem seated_leave {clientId : UserId} {name : String} {lobby : Nat} (seated : endpoint.Seated clientId name lobby)
    (silent : endpoint.Silent) :
    (endpoint.leaveChannel now clientId name).Vacant clientId name lobby ∧
      (endpoint.leaveChannel now clientId name).Silent := by
  obtain ⟨cache, closure, place, tables, found, running, subscribed, closes, there, listed, others⟩ := seated.chair
  obtain ⟨engine, held, named, rfl⟩ := seat_found endpoint there
  have room := seated.facing.rooms place _ there
  have left : endpoint.leaveChannel now clientId name =
      (endpoint.perform now place (.removeUser clientId false)).updateSocket clientId fun cache =>
        { cache with
          subscriptions := cache.subscriptions.delete closure
          channelSubscriptions := cache.channelSubscriptions.delete engine.name } := by
    simp only [leaveChannel, found, running, Bool.false_eq_true, if_false, subscribed, runClosure, closes, held]
  have empties : engine.tables.shuts (.removeUser clientId false) = true := by
    have known : engine.tables.knows clientId = true := (knows_iff _).mpr (.inl listed)
    have empty : (engine.tables.assignsCache.delete clientId).isEmpty = true := by
      apply empty_iff.mpr
      intro other
      rw [Bool.eq_false_iff]
      intro kept
      obtain ⟨apart, present⟩ := has_delete.mp kept
      exact apart (room.alone other present)
    simp only [shuts, Tables.empties, known, empty, Bool.and_self]
  have quiet : (endpoint.perform now place (.removeUser clientId false)).Silent := by
    apply silent_perform endpoint silent
    intro row same
    rw [held] at same
    cases same
    have handed : (({ engine with effects := [] } : ChannelEngine).act now (.removeUser clientId false)).handed = _ :=
      handed_remove_user { engine with effects := [] } clientId
    rw [handed, removal_says_nothing { engine with effects := [] } clientId room.absent, ite_self]
    rfl
  have patterns : ((endpoint.perform now place (.removeUser clientId false)).lobbyEngines.map LobbyEngine.parseAddress) =
      endpoint.lobbyEngines.map LobbyEngine.parseAddress := by
    rw [perform_lobbies endpoint now _ held, if_pos empties]
    exact modify_patterns _ _ _ fun _ => rfl
  have seats : ∀ (other : Nat) seat, (endpoint.perform now place (.removeUser clientId false)).seat other = some seat →
      ∃ old, endpoint.seat other = some old ∧ seat = if other = place then
        (old.1, old.2.1, old.2.2.remove clientId) else old := by
    intro other seat taken
    rw [seat_perform] at taken
    obtain ⟨old, was, same⟩ := map_eq_some_iff.mp taken
    exact ⟨old, was, same.symm⟩
  rw [left, update_socket_frame]
  refine ⟨⟨⟨?_, ?_, fun other seat taken => ?_⟩, fun other seat taken => ?_, ?_, ?_⟩, ⟨quiet.sent, quiet.effects⟩⟩
  · refine ⟨_, update_socket_same _ clientId _ cache ?_, running⟩
    rw [perform_frame]
    exact found
  · exact (congrFun (congrFun (first_match_same patterns) 0) name).trans seated.facing.matched
  · obtain ⟨old, was, rfl⟩ := seats other seat taken
    have before := seated.facing.rooms other old was
    split
    · exact ⟨before.home, before.text, fun userId kept => before.alone userId (remove_lists _ kept),
        remove_absent before.absent⟩
    · exact before
  · obtain ⟨old, was, rfl⟩ := seats other seat taken
    split
    · rename_i same
      rw [same, there] at was
      cases was
      exact ⟨remove_unlisted, remove_unhosted listed⟩
    · rename_i apart
      exact others other apart old was
  · exact (held_perform endpoint now place lobby lobby _ engine name held).trans (if_pos ⟨empties, rfl, named.symm⟩)
  · intro id context kept
    rw [perform_frame] at kept
    exact seated.settled id context kept

structure Bare (endpoint : EndpointEngine) (name : String) : Prop where
  engines : endpoint.engines = []
  contexts : endpoint.contexts = []
  unmatched : endpoint.firstMatch 0 name = none

variable {name name}

theorem bare_silence (bare : endpoint.Bare name) :
    endpoint.silence.Bare name :=
  ⟨by simp [silence, bare.engines], bare.contexts, bare.unmatched⟩

theorem send_frame (message : ChannelEvent) :
    endpoint.sendMessage clientId message = { endpoint with sent := (endpoint.sendMessage clientId message).sent } := by
  simp only [sendMessage]
  split <;> rfl

theorem bare_send {clientId : UserId} {message : ChannelEvent}
    (bare : endpoint.Bare name) : (endpoint.sendMessage clientId message).Bare name := by
  rw [send_frame]
  exact ⟨bare.engines, bare.contexts, bare.unmatched⟩

theorem bare_join {clientId : UserId}
    (bare : endpoint.Bare name) : (endpoint.joinChannel clientId name requestId).Bare name := by
  simp only [joinChannel]
  split
  · exact bare
  rename_i cache _
  split
  · exact bare
  have unmatched : ({ endpoint with requests :=
      endpoint.requests ++ [⟨clientId, name, .supplied requestId, cache.assigns, 0⟩] } :
        EndpointEngine).firstMatch 0 name = none := bare.unmatched
  simp only [runNext, getElem?_concat_length, unmatched, final]
  exact bare_send _ ⟨bare.engines, bare.contexts, bare.unmatched⟩

theorem bare_retrieve (bare : endpoint.Bare name) :
    endpoint.retrieveChannel name = .error (.httpError 404 s!"GatewayEngine: Channel {name} does not exist") := by
  simp [retrieveChannel, bare.unmatched]

theorem bare_leave {name : String} {clientId : UserId} (bare : endpoint.Bare name) :
    (endpoint.leaveChannel now clientId name).Bare name := by
  simp only [leaveChannel, bare_retrieve endpoint bare]
  split
  · exact bare
  split
  · exact bare
  split
  · simp only [runClosure, bare.engines, getElem?_nil]
    split <;> exact bare
  · exact bare_send endpoint bare

theorem bare_handle (now : Nat) (clientId : UserId) {message : ClientMessage}
    (bare : endpoint.Bare message.channelName) :
    (endpoint.handleMessage now clientId message).Bare message.channelName := by
  simp only [handleMessage, bare_retrieve endpoint bare]
  split
  · exact bare_join endpoint _ bare
  · exact bare_leave endpoint bare
  · exact bare_send endpoint bare

end EndpointEngine

end PondSocket.Js
