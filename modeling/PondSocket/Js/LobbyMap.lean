import PondSocket.Js.Endpoint

namespace PondSocket.Js

open Library List OrderedMap ChannelEngine Tables

variable {now : Nat} {op : EngineOp}

namespace Tables

variable {tables : Tables}

theorem closed_step (now : Nat) (op : EngineOp) :
    (tables.step now op).closed = (tables.closed || tables.shuts op) := by
  by_cases resumed : op = .distributedSubscribed
  · subst resumed
    have kept : (tables.step now .distributedSubscribed).closed = tables.closed := by
      simp only [step]
      split <;> rfl
    simp [kept, shuts]
  have closed : (tables.step now op).closed = _ := congrArg Prod.fst (gates_step tables now op resumed)
  rw [closed]
  cases tables.shuts op <;> simp [gates]

theorem timer_step (still : tables.staleNodeTimer = false) : (tables.step now op).staleNodeTimer = false := by
  by_cases resumed : op = .distributedSubscribed
  · subst resumed
    simp only [step]
    split <;> exact still
  have timer : (tables.step now op).staleNodeTimer = _ :=
    congrArg (fun all => all.2.2.2) (gates_step tables now op resumed)
  rw [timer]
  cases tables.shuts op with
  | true => rfl
  | false => exact still

variable {userId : UserId}

theorem remaining_listed {other : UserId} (listed : tables.lists other) (kept : tables.empties userId = false) :
    ∃ left, (tables.remove userId).lists left := by
  cases known : tables.knows userId with
  | false =>
    have same : tables.remove userId = tables := by simp [remove, known]
    exact ⟨other, by rw [same]; exact listed⟩
  | true =>
    have someone : (tables.assignsCache.delete userId).isEmpty = false := by simpa [empties, known] using kept
    have cache : ((tables.forget userId).unsubscribe userId).assignsCache = tables.assignsCache.delete userId := by
      rw [unsubscribe_frame]
      rfl
    have same : tables.remove userId = (tables.forget userId).unsubscribe userId := by
      simp [remove, known, cache, someone]
    by_contra nobody
    have empty : (tables.assignsCache.delete userId).isEmpty = true := by
      apply empty_iff.mpr
      intro key
      cases held : (tables.assignsCache.delete userId).has key with
      | false => rfl
      | true => exact absurd ⟨key, by rw [same, lists, cache]; exact held⟩ nobody
    rw [someone] at empty
    cases empty

theorem removed_unknown (userId : UserId) : (tables.remove userId).knows userId = false := by
  rw [Bool.eq_false_iff]
  intro known
  cases before : tables.knows userId with
  | false =>
    have same : tables.remove userId = tables := by simp [remove, before]
    rw [same, before] at known
    cases known
  | true =>
    simp only [remove, before, if_true] at known
    split at known
    · cases known
    rw [unsubscribe_frame] at known
    rcases (knows_iff _).mp known with listed | present
    · exact ((forget_lists tables).mp listed).1 rfl
    · exact ((forget_presents tables).mp present).1 rfl

theorem call_keeps_someone (leaves : op.arrives = false) (still : tables.staleNodeTimer = false)
    (kept : tables.shuts op = false) (listed : tables.lists userId) : ∃ other, (tables.step now op).lists other := by
  cases op with
  | addUser other assigns onMessage =>
    exact ⟨userId, (join_lists tables other userId assigns onMessage).mpr (.inl listed)⟩
  | updateAssigns =>
    refine ⟨userId, ?_⟩
    simp only [step]
    split
    · exact listed
    · exact (list_lists tables).mpr (.inr listed)
  | kickUser other =>
    simp only [step]
    split
    · rename_i present
      have spared : tables.empties other = false := by simpa [shuts, present] using kept
      exact remaining_listed listed spared
    · exact ⟨userId, listed⟩
  | removeUser => exact remaining_listed listed kept
  | destroy | close => cases kept
  | receive => cases leaves
  | staleNodeTick =>
    refine ⟨userId, ?_⟩
    simp only [step, tick, still]
    exact listed
  | trackPresence | updatePresence | distributedSubscribed | runReadyCallback | heartbeat =>
    refine ⟨userId, ?_⟩
    simp only [step]
    split <;> exact listed
  | _ => exact ⟨userId, listed⟩

end Tables

namespace EndpointEngine

variable (endpoint : EndpointEngine)

def held (endpoint : EndpointEngine) (lobby : Nat) (channelName : String) : Option Nat :=
  (endpoint.lobbyEngines[lobby]?).bind fun engine => engine.channels.get? channelName

def Pending (endpoint : EndpointEngine) (id : Nat) : Prop :=
  ∃ (place : Nat) (context : JoinContext), endpoint.contexts[place]? = some context ∧ context.engine = id ∧ context.finished = false

-- The map of each lobby holds its open engines, and each of them has a member or
-- a handler still to settle.
structure Mapped (endpoint : EndpointEngine) : Prop where
  alone : endpoint.backend = none
  still : ∀ (id : Nat) row, endpoint.engines[id]? = some row → row.2.tables.staleNodeTimer = false
  entry : ∀ lobby name id, endpoint.held lobby name = some id → ∃ engine, endpoint.engines[id]? = some (lobby, engine) ∧
    engine.name = name ∧ engine.tables.closed = false ∧ ((∃ userId, engine.tables.lists userId) ∨ endpoint.Pending id)
  stored : ∀ (id lobby : Nat) engine, endpoint.engines[id]? = some (lobby, engine) → engine.tables.closed = false →
    endpoint.held lobby engine.name = some id

-- With no handler pending, the maps hold exactly the open engines with a member.
def NoDeadChannel (endpoint : EndpointEngine) : Prop :=
  (∀ context ∈ endpoint.contexts, context.finished = true) →
    (∀ lobby name id, endpoint.held lobby name = some id → ∃ engine, endpoint.engines[id]? = some (lobby, engine) ∧
      engine.closed = false ∧ engine.users ≠ []) ∧
    (∀ (id lobby : Nat) engine, endpoint.engines[id]? = some (lobby, engine) → engine.closed = false →
      engine.users ≠ [] → endpoint.held lobby engine.name = some id)

-- Closing an engine a second time deletes its name, so nobody may have taken it over.
def SparesName (endpoint : EndpointEngine) (id : Nat) (op : EngineOp) : Prop :=
  ∀ lobby engine, endpoint.engines[id]? = some (lobby, engine) → engine.tables.closed = true →
    engine.tables.shuts op = true → endpoint.held lobby engine.name = none

-- A handler settles only when its engine is closed, has a member or waits for
-- another handler.
def SettlesBusy (endpoint : EndpointEngine) (place : Nat) : Prop :=
  ∀ context, endpoint.contexts[place]? = some context → context.finished = false →
    ∀ row, endpoint.engines[context.engine]? = some row → row.2.tables.closed = true ∨
      (∃ userId, row.2.tables.lists userId) ∨
      ∃ other waiting, other ≠ place ∧ endpoint.contexts[other]? = some waiting ∧
        waiting.engine = context.engine ∧ waiting.finished = false

def SparesMap (endpoint : EndpointEngine) (label : Nat × EndpointOp) : Prop :=
  match label.2 with
  | .finish place | .fail place _ => endpoint.SettlesBusy place
  | .call id op => endpoint.SparesName id op
  | .leave clientId channelName =>
    ∀ cache closure id, endpoint.sockets.get? clientId = some cache →
      cache.channelSubscriptions.get? channelName = some closure → endpoint.closures[closure]? = some id →
        endpoint.SparesName id (.removeUser clientId false)
  | .close clientId =>
    ∀ cache closure id, endpoint.sockets.get? clientId = some cache → cache.subscriptions.has closure = true →
      endpoint.closures[closure]? = some id → endpoint.SparesName id (.removeUser clientId false)
  | _ => True

theorem no_dead_channel_of_mapped (inv : endpoint.Mapped) : NoDeadChannel endpoint := by
  intro settled
  refine ⟨fun lobby name id present => ?_, fun id lobby engine found running _ => inv.stored id lobby engine found running⟩
  obtain ⟨engine, found, _, running, member | waiting⟩ := inv.entry lobby name id present
  · obtain ⟨userId, listed⟩ := member
    refine ⟨engine, found, running, fun nobody => ?_⟩
    have among : userId ∈ engine.users := mem_keys.mpr listed
    rw [nobody] at among
    cases among
  obtain ⟨_, context, there, _, unsettled⟩ := waiting
  rw [settled context (mem_of_getElem? there)] at unsettled
  cases unsettled

theorem mapped_of_same {endpoint : EndpointEngine} (next : EndpointEngine) (inv : endpoint.Mapped) (backend : next.backend = endpoint.backend)
    (lobbies : next.lobbyEngines = endpoint.lobbyEngines) (engines : next.engines = endpoint.engines)
    (pending : ∀ id row, endpoint.engines[id]? = some row → row.2.tables.closed = false → endpoint.Pending id →
      (∃ userId, row.2.tables.lists userId) ∨ next.Pending id) : next.Mapped := by
  have same : ∀ lobby name, next.held lobby name = endpoint.held lobby name := by
    intro lobby name
    simp only [held, lobbies]
  refine ⟨backend.trans inv.alone, fun id row found => ?_, fun lobby name id present => ?_,
    fun id lobby engine found running => ?_⟩
  · rw [engines] at found
    exact inv.still id row found
  · rw [same] at present
    obtain ⟨engine, found, named, running, member | waiting⟩ := inv.entry lobby name id present
    · exact ⟨engine, engines ▸ found, named, running, .inl member⟩
    · exact ⟨engine, engines ▸ found, named, running, pending id _ found running waiting⟩
  · rw [engines] at found
    rw [same]
    exact inv.stored id lobby engine found running

theorem mapped_of_quiet (endpoint next : EndpointEngine) (inv : endpoint.Mapped) (quiet : endpoint.Quiet next)
    (pending : ∀ id, endpoint.Pending id → next.Pending id) : next.Mapped :=
  mapped_of_same next inv quiet.backend quiet.lobbyEngines quiet.engines
    fun id _ _ _ waiting => .inr (pending id waiting)

theorem pending_update (place : Nat) (update : JoinContext → JoinContext)
    (engine : ∀ context, (update context).engine = context.engine)
    (finished : ∀ context, (update context).finished = context.finished) (id : Nat) (waiting : endpoint.Pending id) :
    (endpoint.updateContext place update).Pending id := by
  obtain ⟨other, context, there, leads, unsettled⟩ := waiting
  by_cases same : place = other
  · subst same
    refine ⟨place, update context, ?_, (engine context).trans leads, (finished context).trans unsettled⟩
    simp [updateContext, there]
  · refine ⟨other, context, ?_, leads, unsettled⟩
    simp [updateContext, same, there]

variable {clientId : UserId}

theorem send_contexts {message : ChannelEvent} :
    (endpoint.sendMessage clientId message).contexts = endpoint.contexts := by
  simp only [sendMessage]
  split <;> rfl

theorem final_contexts {request : JoinRequest} {error : Option Thrown} :
    (endpoint.final request error).contexts = endpoint.contexts := by
  cases error <;> exact send_contexts endpoint

theorem final_error_contexts (context : JoinContext) (error : Thrown) :
    (endpoint.finalError context error).contexts = endpoint.contexts := by
  simp only [finalError]
  split
  · rfl
  · exact final_contexts endpoint

theorem pending_decline (place : Nat) (message : Option String) (errorCode : Option Nat)
    (id : Nat) (waiting : endpoint.Pending id) : (endpoint.decline place message errorCode).Pending id := by
  simp only [decline]
  split
  · exact waiting
  split
  · exact waiting
  split
  · exact waiting
  have kept := pending_update endpoint place (fun context => { context with executed := true }) (fun _ => rfl)
    (fun _ => rfl) id waiting
  simp only [Pending, send_contexts]
  exact kept

variable {id place : Nat}

theorem pending_settle (waiting : endpoint.Pending id)
    (other : ∀ context, endpoint.contexts[place]? = some context → context.finished = false → context.engine = id →
      ∃ another waits, another ≠ place ∧ endpoint.contexts[another]? = some waits ∧ waits.engine = id ∧
        waits.finished = false) :
    (endpoint.updateContext place fun context => { context with finished := true }).Pending id := by
  obtain ⟨there, context, found, leads, unsettled⟩ := waiting
  have kept : ∀ another waits, another ≠ place → endpoint.contexts[another]? = some waits → waits.engine = id →
      waits.finished = false →
      (endpoint.updateContext place fun context => { context with finished := true }).Pending id := by
    intro another waits away present toward open_
    refine ⟨another, waits, ?_, toward, open_⟩
    simp [updateContext, Ne.symm away, present]
  by_cases same : there = place
  · subst same
    obtain ⟨another, waits, away, present, toward, open_⟩ := other context found unsettled leads
    exact kept another waits away present toward open_
  · exact kept there context same found leads unsettled

variable {context : JoinContext}

theorem mapped_settle (inv : endpoint.Mapped) (present : endpoint.contexts[place]? = some context)
    (unsettled : context.finished = false) (busy : endpoint.SettlesBusy place) :
    (endpoint.updateContext place fun context => { context with finished := true }).Mapped := by
  refine mapped_of_same _ inv rfl rfl rfl fun id row found running waiting => ?_
  by_cases mine : context.engine = id
  · subst mine
    rcases busy context present unsettled row found with ended | member | ⟨another, waits, away, there, toward, open_⟩
    · rw [running] at ended
      cases ended
    · exact .inl member
    · exact .inr (pending_settle endpoint waiting fun _ _ _ _ => ⟨another, waits, away, there, toward, open_⟩)
  refine .inr (pending_settle endpoint waiting fun other found _ leads => ?_)
  rw [present] at found
  cases found
  exact absurd leads mine

theorem deleted_released (effects : List Effect) :
    effects.filterMap Effect.deleted? = (effects.filter Effect.releases).filterMap Effect.deleted? := by
  induction effects with
  | nil => rfl
  | cons effect _ ih =>
    cases effect <;> simpa [filter_cons, filterMap_cons, Effect.deleted?, Effect.releases] using ih

theorem perform_lobbies (now : Nat) {lobby : Nat} (op : EngineOp) {engine : ChannelEngine}
    (found : endpoint.engines[id]? = some (lobby, engine)) :
    (endpoint.perform now id op).lobbyEngines =
      if engine.tables.shuts op then
        endpoint.lobbyEngines.modify lobby fun entry => entry.deleteChannel engine.name
      else endpoint.lobbyEngines := by
  have released := released_act { engine with effects := [] } now op
  have names : (({ engine with effects := [] } : ChannelEngine).act now op).effects.filterMap Effect.deleted? =
      if engine.tables.shuts op then [engine.name] else [] := by
    rw [deleted_released]
    change (ChannelEngine.released _).filterMap Effect.deleted? = _
    rw [released, filterMap_append]
    by_cases resumed : op = .distributedSubscribed
    · subst resumed
      cases engine.closed <;> rfl
    rw [releases_call _ resumed]
    change [] ++ (if engine.tables.shuts op = true then engine.release else []).filterMap _ = _
    simp only [release]
    cases engine.tables.shuts op <;> cases engine.distributedSubscription <;> rfl
  simp only [perform, found, names]
  cases engine.tables.shuts op <;> rfl

theorem held_perform (now id lobby place : Nat) (op : EngineOp) (engine : ChannelEngine)
    (name : String) (found : endpoint.engines[id]? = some (lobby, engine)) :
    (endpoint.perform now id op).held place name =
      if engine.tables.shuts op = true ∧ place = lobby ∧ name = engine.name then none
      else endpoint.held place name := by
  simp only [held, perform_lobbies endpoint now op found]
  cases closes : engine.tables.shuts op with
  | false => simp
  | true =>
    by_cases same : lobby = place
    · subst same
      cases there : endpoint.lobbyEngines[lobby]? with
      | none => simp [there]
      | some => simp [there, LobbyEngine.deleteChannel, get_delete]
    · have apart : ¬ place = lobby := fun eq => same eq.symm
      simp [same, apart]

theorem perform_absent (absent : endpoint.engines[id]? = none) : endpoint.perform now id op = endpoint := by
  simp [perform, absent]

theorem name_act (engine : ChannelEngine) (now : Nat) (op : EngineOp) :
    (({ engine with effects := [] } : ChannelEngine).act now op).name = engine.name :=
  congrArg Voice.name voice_act

theorem mapped_perform (inv : endpoint.Mapped) (now id : Nat) (op : EngineOp)
    (leaves : op.arrives = false) (spared : endpoint.SparesName id op) : (endpoint.perform now id op).Mapped := by
  cases target : endpoint.engines[id]? with
  | none =>
    rw [perform_absent endpoint target]
    exact inv
  | some there =>
    obtain ⟨lobby, engine⟩ := there
    have after := held_perform endpoint now id lobby
    have tables : (({ engine with effects := [] } : ChannelEngine).act now op).tables = engine.tables.step now op :=
      Cluster.perform_tables now engine op
    have named := name_act engine now op
    have present : (endpoint.perform now id op).engines[id]? =
        some (lobby, ({ engine with effects := [] } : ChannelEngine).act now op) := by
      simp only [perform, target]
      exact List.getElem?_set_self (List.getElem?_eq_some_iff.mp target).1
    have elsewhere : ∀ other, other ≠ id → (endpoint.perform now id op).engines[other]? = endpoint.engines[other]? := by
      intro other away
      simp only [perform, target]
      exact getElem?_set_ne (Ne.symm away)
    have pending : ∀ other, endpoint.Pending other → (endpoint.perform now id op).Pending other := by
      intro other waiting
      rw [perform_frame]
      exact waiting
    refine ⟨?_, fun other row found => ?_, fun place name other holds => ?_, fun other place next found running => ?_⟩
    · rw [perform_frame]
      exact inv.alone
    · by_cases same : other = id
      · subst same
        rw [present] at found
        cases found
        rw [tables]
        exact timer_step (inv.still other _ target)
      · rw [elsewhere other same] at found
        exact inv.still other row found
    · rw [after place op engine name target] at holds
      split at holds
      · cases holds
      rename_i remains
      obtain ⟨old, found, oldName, running, member⟩ := inv.entry place name other holds
      by_cases same : other = id
      · subst same
        rw [target] at found
        cases found
        have kept : engine.tables.shuts op = false := by
          cases closes : engine.tables.shuts op with
          | false => rfl
          | true => exact absurd ⟨closes, rfl, oldName.symm⟩ remains
        refine ⟨_, present, named.trans oldName, ?_, ?_⟩
        · rw [tables, closed_step, running, kept]
          rfl
        rcases member with ⟨_, listed⟩ | waiting
        · rw [tables]
          exact .inl (call_keeps_someone leaves (inv.still other _ target) kept listed)
        · exact .inr (pending other waiting)
      · exact ⟨old, (elsewhere other same).trans found, oldName, running, member.imp (fun listed => listed) (pending other)⟩
    · by_cases same : other = id
      · subst same
        rw [present] at found
        cases found
        rw [tables, closed_step, Bool.or_eq_false_iff] at running
        rw [after lobby op engine _ target, named, running.2, if_neg (fun both => Bool.false_ne_true both.1)]
        exact inv.stored other lobby engine target running.1
      · rw [elsewhere other same] at found
        have before := inv.stored other place next found running
        rw [after place op engine _ target, if_neg]
        · exact before
        rintro ⟨closes, rfl, sameName⟩
        rw [sameName] at before
        cases ended : engine.tables.closed with
        | false =>
          have mine := inv.stored id _ engine target ended
          rw [before] at mine
          cases mine
          exact same rfl
        | true =>
          rw [spared _ engine target ended closes] at before
          cases before

theorem mapped_socket (inv : endpoint.Mapped) {update : SocketCache → SocketCache} :
    (endpoint.updateSocket clientId update).Mapped := by
  rw [update_socket_frame]
  exact ⟨inv.alone, inv.still, inv.entry, inv.stored⟩

theorem mapped_closure (inv : endpoint.Mapped) {closure : Nat} (spared : ∀ id, endpoint.closures[closure]? = some id →
      endpoint.SparesName id (.removeUser clientId false)) : (endpoint.runClosure now clientId closure).Mapped := by
  simp only [runClosure]
  cases leads : endpoint.closures[closure]? with
  | none => exact inv
  | some id =>
    dsimp only
    split
    · exact inv
    · exact mapped_socket _ (mapped_perform endpoint inv now id _ rfl (spared id leads))

theorem spared_after_closure {closure : Nat} (spared : endpoint.SparesName id (.removeUser clientId false)) :
    (endpoint.runClosure now clientId closure).SparesName id (.removeUser clientId false) := by
  simp only [runClosure]
  cases endpoint.closures[closure]? with
  | none => exact spared
  | some target =>
    dsimp only
    cases there : endpoint.engines[target]? with
    | none => exact spared
    | some row =>
      obtain ⟨home, engine⟩ := row
      dsimp only
      rw [update_socket_frame]
      intro lobby next found ended closes
      obtain ⟨old, present, _, ⟨_, changed⟩ | ⟨_, kept⟩⟩ :=
        perform_row endpoint now target id (.removeUser clientId false) _ found
      · have tables : next.tables = old.2.tables.remove clientId := by
          have eq : next = _ := changed
          rw [eq]
          exact Cluster.perform_tables now old.2 (.removeUser clientId false)
        simp only [shuts, empties, tables, removed_unknown] at closes
        cases closes
      have eq : old = (lobby, next) := kept.symm
      rw [eq] at present
      change (endpoint.perform now target (.removeUser clientId false)).held lobby next.name = none
      rw [held_perform endpoint now target home lobby _ engine next.name there]
      split
      · rfl
      · exact spared lobby next present ended closes

theorem mapped_closures (closures : List Nat) (endpoint : EndpointEngine) (inv : endpoint.Mapped)
    (spared : ∀ closure ∈ closures, ∀ id, endpoint.closures[closure]? = some id →
      endpoint.SparesName id (.removeUser clientId false)) :
    (closures.foldl (fun endpoint closure => endpoint.runClosure now clientId closure) endpoint).Mapped := by
  induction closures generalizing endpoint with
  | nil => exact inv
  | cons closure _ ih =>
    apply ih
    · exact mapped_closure endpoint inv (spared closure mem_cons_self)
    intro other member id leads
    rw [closure_frame] at leads
    exact spared_after_closure endpoint (spared other (mem_cons_of_mem _ member) id leads)

variable {channelName : String}

theorem first_match_bound {start lobby : Nat} (found : endpoint.firstMatch start channelName = some lobby) :
    lobby < endpoint.lobbyEngines.length := by
  simp only [firstMatch, Option.map_eq_some_iff] at found
  obtain ⟨_, at_, rfl⟩ := found
  have bound := (findIdx?_eq_some_iff_getElem.mp at_).1
  simp only [length_drop] at bound
  omega

theorem mapped_run_next (inv : endpoint.Mapped) : (endpoint.runNext id).Mapped := by
  simp only [runNext]
  split
  · exact inv
  rename_i request _
  split
  · refine mapped_of_quiet { endpoint with
      requests := endpoint.requests.set id { request with index := endpoint.lobbyEngines.length } } _
      ⟨inv.alone, inv.still, inv.entry, inv.stored⟩ quiet_final fun other waiting => ?_
    simp only [Pending, final_contexts]
    exact waiting
  rename_i lobby matched
  have bound := first_match_bound endpoint matched
  have appended : ∀ (contexts : List JoinContext) (place : Nat) (context fresh : JoinContext),
      contexts[place]? = some context → (contexts ++ [fresh])[place]? = some context := by
    intro contexts place context fresh there
    rw [List.getElem?_append_left (List.getElem?_eq_some_iff.mp there).1]
    exact there
  simp only [getOrCreateChannel]
  split
  · refine mapped_of_same _ inv rfl rfl rfl fun other _ _ _ waiting => .inr ?_
    obtain ⟨place, context, there, leads, unsettled⟩ := waiting
    exact ⟨place, context, appended _ place context _ there, leads, unsettled⟩
  rename_i vacant
  have missing : endpoint.held lobby request.channelName = none := vacant
  -- What the lobby maps hold once the new engine is entered.
  have holds : ∀ (lobbies : List LobbyEngine), lobbies = endpoint.lobbyEngines.modify lobby (fun entry =>
      { entry with channels := entry.channels.set request.channelName endpoint.engines.length }) →
      ∀ place name, ((lobbies[place]?).bind fun entry => entry.channels.get? name) =
        if place = lobby ∧ name = request.channelName then some endpoint.engines.length
        else endpoint.held place name := by
    rintro _ rfl place name
    by_cases same : lobby = place
    · subst same
      cases there : endpoint.lobbyEngines[lobby]? with
      | none =>
        rw [getElem?_eq_getElem bound] at there
        cases there
      | some => simp [held, there, OrderedMap.get_set]
    · have apart : ¬ place = lobby := fun eq => same eq.symm
      simp [held, same, apart]
  refine ⟨inv.alone, fun other row found => ?_, fun place name other present => ?_,
    fun other place engine found running => ?_⟩
  · rcases mem_append.mp (mem_of_getElem? found) with old | fresh
    · obtain ⟨spot, there⟩ := mem_iff_getElem?.mp old
      exact inv.still spot row there
    · cases mem_singleton.mp fresh
      simp [tables, ChannelEngine.new, inv.alone]
  · rw [held, holds _ rfl place name] at present
    split at present
    · rename_i here
      obtain ⟨rfl, rfl⟩ := here
      cases present
      refine ⟨_, getElem?_concat_length, rfl, rfl, .inr ⟨endpoint.contexts.length, _, getElem?_concat_length, rfl, rfl⟩⟩
    obtain ⟨engine, found, named, running, member⟩ := inv.entry place name other present
    refine ⟨engine, ?_, named, running, member.imp (fun listed => listed) ?_⟩
    · rw [List.getElem?_append_left (List.getElem?_eq_some_iff.mp found).1]
      exact found
    · rintro ⟨spot, context, there, leads, unsettled⟩
      exact ⟨spot, context, appended _ spot context _ there, leads, unsettled⟩
  · rw [held, holds _ rfl place engine.name]
    by_cases before : other < endpoint.engines.length
    · rw [List.getElem?_append_left before] at found
      have old := inv.stored other place engine found running
      rw [if_neg]
      · exact old
      rintro ⟨rfl, same⟩
      rw [same, missing] at old
      cases old
    · rw [getElem?_append_right (Nat.le_of_not_lt before)] at found
      have fresh := mem_singleton.mp (mem_of_getElem? found)
      have last : other = endpoint.engines.length := by
        have bound := (List.getElem?_eq_some_iff.mp found).1
        simp only [length_singleton] at bound
        omega
      cases fresh
      rw [if_pos ⟨rfl, rfl⟩, last]

theorem spared_call (id : Nat) (op : EngineOp)
    (open_ : ∀ tables : Tables, tables.shuts op = false) : endpoint.SparesName id op := by
  intro lobby engine _ _ closes
  rw [open_ engine.tables] at closes
  cases closes

theorem mapped_assign (inv : endpoint.Mapped) (now id : Nat) (context : JoinContext)
    (assigns : PondAssigns) : (endpoint.assign now id context assigns).Mapped := by
  simp only [assign]
  split
  · exact mapped_perform endpoint inv now _ _ rfl (spared_call endpoint _ _ fun _ => rfl)
  · exact mapped_of_quiet endpoint _ inv (quiet_context endpoint id _)
      (pending_update endpoint id _ (fun _ => rfl) (fun _ => rfl))

theorem mapped_update (inv : endpoint.Mapped) (place : Nat) (update : JoinContext → JoinContext)
    (engine : ∀ context, (update context).engine = context.engine)
    (finished : ∀ context, (update context).finished = context.finished) :
    (endpoint.updateContext place update).Mapped :=
  mapped_of_quiet endpoint _ inv (quiet_context endpoint place update) (pending_update endpoint place update engine finished)

variable {endpoint}

theorem mapped_subscribe (inv : endpoint.Mapped) : (endpoint.subscribe now id context).Mapped := by
  simp only [subscribe]
  split
  · exact inv
  have performed := mapped_perform endpoint inv now context.engine
    (.addUser context.clientId context.newAssigns context.clientId context.requestId) rfl
    (spared_call endpoint _ _ fun _ => rfl)
  have marked := mapped_update _ performed id (fun context => { context with executed := true }) (fun _ => rfl)
    (fun _ => rfl)
  split
  · exact marked
  apply mapped_update
  · apply mapped_socket
    exact ⟨marked.alone, marked.still, marked.entry, marked.stored⟩
  · exact fun _ => rfl
  · exact fun _ => rfl

theorem mapped_accept (inv : endpoint.Mapped) {assigns : Option PondAssigns} :
    (endpoint.accept now id assigns).Mapped := by
  simp only [accept]
  split
  · exact inv
  rename_i context _
  cases assigns with
  | none =>
    split
    · exact inv
    · exact mapped_subscribe inv
  | some assigns =>
    have assigned := mapped_assign endpoint inv now id context assigns
    split
    · exact assigned
    · exact mapped_subscribe assigned

theorem mapped_leave (inv : endpoint.Mapped) (spared : endpoint.SparesMap (now, .leave clientId channelName)) :
    (endpoint.leaveChannel now clientId channelName).Mapped := by
  simp only [leaveChannel]
  cases known : endpoint.sockets.get? clientId with
  | none => exact inv
  | some cache =>
    dsimp only
    split
    · exact inv
    cases subscribed : cache.channelSubscriptions.get? channelName with
    | some closure =>
      exact mapped_closure endpoint inv fun id leads =>
        spared cache closure id known subscribed leads
    | none =>
      cases found : endpoint.retrieveChannel channelName with
      | error =>
        refine mapped_of_quiet endpoint _ inv (quiet_send endpoint _ _) fun id waiting => ?_
        simp only [Pending, rejectMessage, send_contexts]
        exact waiting
      | ok id =>
        apply mapped_perform endpoint inv now id _ rfl
        -- The map holds no closed engine, so this one is open.
        intro lobby engine there ended closes
        simp only [retrieveChannel] at found
        split at found
        · cases found
        split at found
        · cases found
        rename_i place _ _ _ present
        cases found
        obtain ⟨_, same, _, running, _⟩ := inv.entry place channelName id present
        rw [there] at same
        cases same
        rw [running] at ended
        cases ended

theorem mapped_close (inv : endpoint.Mapped) (spared : endpoint.SparesMap (now, .close clientId)) :
    (endpoint.handleSocketClose now clientId).Mapped := by
  simp only [handleSocketClose]
  cases known : endpoint.sockets.get? clientId with
  | none => exact inv
  | some cache =>
    dsimp only
    split
    · exact inv
    apply mapped_socket
    apply mapped_closures
    · exact mapped_socket endpoint inv
    intro closure member id leads
    rw [update_socket_frame] at leads ⊢
    exact spared cache closure id known (mem_keys.mp member) leads

theorem mapped_finish (inv : endpoint.Mapped) (busy : endpoint.SettlesBusy place) : (endpoint.finish place).Mapped := by
  simp only [finish]
  cases present : endpoint.contexts[place]? with
  | none => exact inv
  | some =>
    dsimp only
    split
    · exact inv
    rename_i unsettled
    have settled := mapped_settle endpoint inv present (Bool.eq_false_iff.mpr unsettled) busy
    split
    · exact settled
    · exact mapped_of_quiet _ _ settled quiet_decline (pending_decline _ _ _ _)

theorem mapped_fail (inv : endpoint.Mapped) {error : Thrown} (busy : endpoint.SettlesBusy place) :
    (endpoint.fail place error).Mapped := by
  simp only [fail]
  cases present : endpoint.contexts[place]? with
  | none => exact inv
  | some =>
    dsimp only
    split
    · exact inv
    rename_i unsettled
    have settled := mapped_settle endpoint inv present (Bool.eq_false_iff.mpr unsettled) busy
    refine mapped_of_quiet _ _ settled quiet_final_error fun id waiting => ?_
    simp only [Pending, final_error_contexts]
    exact waiting

theorem mapped_step {label : Nat × EndpointOp} (inv : endpoint.Mapped)
    (spared : endpoint.SparesMap label) : (endpoint.step label).Mapped := by
  obtain ⟨now, op⟩ := label
  cases op with
  | connect clientId assigns =>
    simp only [step, manageSocket]
    split
    · exact inv
    have fresh : ({ endpoint with sockets := endpoint.sockets.set clientId { assigns := assigns } } :
        EndpointEngine).Mapped := ⟨inv.alone, inv.still, inv.entry, inv.stored⟩
    refine mapped_of_quiet _ _ fresh (quiet_send _ _ _) fun id waiting => ?_
    simp only [Pending, send_contexts]
    exact waiting
  | join =>
    simp only [step, joinChannel]
    split
    · exact inv
    split
    · exact inv
    · apply mapped_run_next
      exact ⟨inv.alone, inv.still, inv.entry, inv.stored⟩
  | leave => exact mapped_leave inv spared
  | close => exact mapped_close inv spared
  | accept => exact mapped_accept inv
  | decline id => exact mapped_of_quiet endpoint _ inv quiet_decline (pending_decline endpoint id _ _)
  | assign id assigns =>
    simp only [step]
    split
    · exact inv
    · exact mapped_assign endpoint inv now id _ assigns
  | next id =>
    simp only [step, delegate]
    split
    · exact inv
    have marked := mapped_update endpoint inv id (fun context => { context with delegated := true }) (fun _ => rfl)
      (fun _ => rfl)
    split
    · refine mapped_of_quiet _ _ marked quiet_final_error fun other waiting => ?_
      simp only [Pending, final_error_contexts]
      exact waiting
    · exact mapped_run_next _ marked
  | finish => exact mapped_finish inv spared
  | fail => exact mapped_fail inv spared
  | call id op =>
    simp only [step]
    split
    · rename_i callable
      have leaves : op.arrives = false := by
        simp only [EndpointEngine.callable, inv.alone, Option.isSome_none, Bool.false_or, Bool.and_eq_true] at callable
        simpa using callable.2
      exact mapped_perform endpoint inv now id op leaves spared
    · exact inv

-- In a run in which every handler settles on a busy engine and no closed engine
-- is closed over a successor, the lobby maps never hold a dead channel.
theorem no_dead_channels (path : String) (uuid : Nat → NodeId) (patterns : List (String → Bool))
    (labels : List (Nat × EndpointOp)) (spared : Follows step SparesMap (new path none uuid patterns) labels) :
    Always step NoDeadChannel (new path none uuid patterns) labels := by
  have empty : ∀ lobby name, (new path none uuid patterns).held lobby name = none := by
    intro lobby name
    simp only [held, new, getElem?_map]
    cases patterns[lobby]? <;> rfl
  have initial : (new path none uuid patterns).Mapped := by
    refine ⟨rfl, fun id row found => ?_, fun lobby name id present => ?_, fun id lobby engine found => ?_⟩
    · cases found
    · rw [empty] at present
      cases present
    · cases found
  have kept := always_of_follows step SparesMap Mapped
    (fun endpoint label inv ok => mapped_step inv ok) _ initial spared
  exact always_mono step Mapped NoDeadChannel no_dead_channel_of_mapped _ labels kept

theorem no_dead_channels_run :
    let labels : List (Nat × EndpointOp) :=
      [(0, .connect "c" .empty), (0, .join "c" "room" "r"), (0, .accept 0 none), (0, .finish 0),
       (0, .connect "d" .empty), (0, .join "d" "room" "s"), (0, .decline 1 none none), (0, .finish 1), (0, .close "c")]
    Always step NoDeadChannel (new "/ws" none (fun _ => "n") [fun _ => true]) labels := by
  have busy : ∀ (endpoint : EndpointEngine) (place : Nat) (context : JoinContext) (row : Nat × ChannelEngine),
      endpoint.contexts[place]? = some context → endpoint.engines[context.engine]? = some row →
      row.2.tables.lists "c" → endpoint.SettlesBusy place := by
    intro endpoint place context row there found listed other present _ target reached
    rw [there] at present
    cases present
    rw [found] at reached
    cases reached
    exact .inr (.inl ⟨"c", listed⟩)
  refine no_dead_channels "/ws" (fun _ => "n") [fun _ => true] _
    ⟨trivial, trivial, trivial, busy _ 0 _ _ rfl rfl rfl, trivial, trivial, trivial, busy _ 1 _ _ rfl rfl rfl, ?_, trivial⟩
  intro cache closure id known member leads lobby engine found ended _
  cases known
  have first : closure = 0 := by
    by_contra other
    have absent := has_set.mp member
    exact absent.elim other fun no => Bool.false_ne_true no
  subst first
  cases leads
  cases found
  cases ended

theorem declined_join_leaves_engine :
    ¬ NoDeadChannel (run step (new "/ws" none (fun _ => "n") [fun _ => true])
      [(0, .connect "c" .empty), (0, .join "c" "room" "r"), (0, .decline 0 none none), (0, .finish 0)]) := by
  intro alive
  have settled : ∀ context ∈ (run step (new "/ws" none (fun _ => "n") [fun _ => true])
      [(0, .connect "c" .empty), (0, .join "c" "room" "r"), (0, .decline 0 none none), (0, .finish 0)]).contexts,
      context.finished = true := by
    intro context member
    cases mem_singleton.mp member
    rfl
  obtain ⟨_, found, _, someone⟩ := (alive settled).1 0 "room" 0 rfl
  cases found
  exact someone rfl

end EndpointEngine

end PondSocket.Js
