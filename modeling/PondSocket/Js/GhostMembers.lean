import PondSocket.Js.Endpoint

namespace PondSocket.Js

open Library List OrderedMap Tables

variable {userId : UserId} {now : Nat} {op : EngineOp}

namespace Tables

variable (tables : Tables)

structure Tidy (tables : Tables) (userId : UserId) : Prop where
  hosted : tables.hosts userId → tables.Member userId
  untracked : ∀ node, ¬ tables.tracks node userId
  deaf : tables.publisher.isClosed = tables.closed

-- The engine does not add the user once closed, no message lists the user anew
-- and no USER_LEFT is for a user hosted here.
def SparesUser (tables : Tables) (op : EngineOp) (userId : UserId) : Prop :=
  match op with
  | .addUser other _ _ _ => other = userId → tables.closed = false ∨ tables.lists userId
  | .receive message =>
    (tables.Introduces message.body userId → tables.lists userId) ∧
      (message.body = .userLeft userId → ¬ tables.hosts userId)
  | _ => True

variable {tables}

theorem remove_unhosted (listed : tables.lists userId) : ¬ (tables.remove userId).hosts userId := by
  have known : tables.knows userId = true := (knows_iff tables).mpr (.inl listed)
  intro hosted
  simp only [remove, known, if_true] at hosted
  split at hosted
  · cases hosted
  · exact ((unsubscribe_hosts _).mp hosted).1 rfl

theorem remove_unlisted : ¬ (tables.remove userId).lists userId := by
  intro listed
  have known : tables.knows userId = true := (knows_iff tables).mpr (.inl (remove_lists tables listed))
  simp only [remove, known, if_true] at listed
  split at listed
  · cases listed
  · rw [unsubscribe_frame] at listed
    exact ((forget_lists tables).mp listed).1 rfl

theorem dropped_unhosted (member : tables.Member userId) (untracked : ∀ node, ¬ tables.tracks node userId)
    (spared : tables.SparesUser op userId) (dropped : tables.Drops now op userId) :
    ¬ (tables.step now op).hosts userId := by
  cases op with
  | kickUser other =>
    have same : other = userId := dropped
    subst same
    have listed : tables.assignsCache.has other = true := member.listed
    simp only [step, listed, if_true]
    exact remove_unhosted member.listed
  | removeUser other =>
    have same : other = userId := dropped
    subst same
    exact remove_unhosted member.listed
  | destroy | close =>
    intro hosted
    cases hosted
  | staleNodeTick =>
    obtain ⟨_, node, _, tracked⟩ := dropped
    exact absurd tracked (untracked node)
  | receive message =>
    obtain ⟨_, _, _, body⟩ := message
    cases body with
    | userLeft other =>
      have same : other = userId := dropped
      exact absurd member.hosted (spared.2 (congrArg MessageBody.userLeft same))
    | evictUser other =>
      have same : other = userId := dropped
      subst same
      exact fun hosted => ((unsubscribe_hosts _).mp hosted).1 rfl
    | userRemove other =>
      have same : other = userId := dropped
      subst same
      have hosted : tables.userSubscriptions.has other = true := member.hosted
      simp only [step, receive, hosted, if_true]
      exact remove_unhosted member.listed
    | _ => cases dropped
  | _ => cases dropped

theorem tidy_step (tidy : tables.Tidy userId) (spared : tables.SparesUser op userId) :
    (tables.step now op).Tidy userId := by
  refine ⟨fun hosted => ?_, fun node tracked => ?_, ?_⟩
  · rcases (outline_step tables now op).hosted userId hosted with before | joins
    · have member := tidy.hosted before
      by_cases dropped : tables.Drops now op userId
      · exact absurd hosted (dropped_unhosted member tidy.untracked spared dropped)
      · exact member_step tables now member dropped
    · cases op with
      | addUser _ assigns onMessage requestId =>
        cases joins
        by_cases listed : tables.lists userId
        · have same : tables.step now (.addUser userId assigns onMessage requestId) = tables := if_pos listed
          rw [same] at hosted ⊢
          exact tidy.hosted hosted
        have running : tables.closed = false := (spared rfl).resolve_right listed
        have lists := (join_lists tables userId userId assigns onMessage).mpr (.inr rfl)
        have gates := gates_step tables now (.addUser userId assigns onMessage requestId) (by intro same; cases same)
        exact ⟨(congrArg Prod.fst gates).trans running, hosted, lists⟩
      | _ => cases joins
  · rcases step_tracks tables now tracked with before | ⟨_, received, _, unlisted, introduced⟩
    · exact tidy.untracked node before
    · subst received
      exact absurd (spared.1 introduced) unlisted
  · by_cases resumed : op = .distributedSubscribed
    · subst resumed
      simp only [step]
      split <;> exact tidy.deaf
    · have gates := gates_step tables now op resumed
      have closed : (tables.step now op).closed = _ := congrArg Prod.fst gates
      have deaf : (tables.step now op).publisher.isClosed = _ := congrArg (fun all => all.2.1) gates
      rw [closed, deaf]
      split
      · rfl
      · exact tidy.deaf

theorem listed_before (spared : tables.SparesUser op userId) (others : newcomer op ≠ some userId)
    (listed : (tables.step now op).lists userId) : tables.lists userId := by
  cases leaves : op.arrives with
  | false =>
    rcases call_lists tables now leaves listed with before | ⟨_, _, _, joins⟩
    · exact before
    · subst joins
      exact absurd rfl others
  | true =>
    cases op with
    | receive =>
      rcases receive_lists tables now listed with ⟨before, _⟩ | ⟨_, introduced⟩
      · exact before
      · exact spared.1 introduced
    | _ => cases leaves

end Tables

namespace EndpointEngine

variable (endpoint : EndpointEngine) (clientId : UserId)

variable (clientId : UserId) {other : UserId}

-- Some subscription of the client's open socket removes the client from the engine.
def Owned (endpoint : EndpointEngine) (clientId : UserId) (id : Nat) : Prop :=
  ∃ cache, endpoint.sockets.get? clientId = some cache ∧ cache.closed = false ∧
    ∃ closure, cache.subscriptions.has closure = true ∧ endpoint.closures[closure]? = some id

structure Guarded (endpoint : EndpointEngine) (clientId : UserId) : Prop where
  tidy : ∀ (id : Nat) row, endpoint.engines[id]? = some row → row.2.tables.Tidy clientId
  owned : ∀ (id : Nat) row, endpoint.engines[id]? = some row → row.2.tables.lists clientId → endpoint.Owned clientId id

def NoGhost (clientId : UserId) (endpoint : EndpointEngine) : Prop :=
  (∀ cache, endpoint.sockets.get? clientId = some cache → cache.closed = true) →
    (∀ context ∈ endpoint.contexts, context.clientId = clientId → context.finished = true) →
      ∀ row ∈ endpoint.engines, row.2.assignsCache.has clientId = false ∧ row.2.userSubscriptions.has clientId = false

-- A handler accepts the client only while its socket and the engine are open, or
-- where the client is listed already; and no message of another node lists the
-- client anew or takes it off an engine that hosts it.
def SparesClient (clientId : UserId) (endpoint : EndpointEngine) (label : Nat × EndpointOp) : Prop :=
  match label.2 with
  | .accept id _ =>
    ∀ context, endpoint.contexts[id]? = some context → context.clientId = clientId → context.executed = false →
      endpoint.isOpen clientId = true ∧ ∀ row, endpoint.engines[context.engine]? = some row →
        row.2.tables.closed = false ∨ row.2.tables.lists clientId
  | .call id op => ∀ row, endpoint.engines[id]? = some row → row.2.tables.SparesUser op clientId
  | _ => True

theorem no_ghost_of_guarded (inv : endpoint.Guarded clientId) :
    NoGhost clientId endpoint := by
  intro ended _ row member
  obtain ⟨id, found⟩ := mem_iff_getElem?.mp member
  have unlisted : ¬ row.2.tables.lists clientId := by
    intro listed
    obtain ⟨cache, present, running, _⟩ := inv.owned id row found listed
    rw [ended cache present] at running
    cases running
  have unhosted : ¬ row.2.tables.hosts clientId := fun hosted => unlisted ((inv.tidy id row found).hosted hosted).listed
  exact ⟨Bool.eq_false_iff.mpr unlisted, Bool.eq_false_iff.mpr unhosted⟩

variable {next : EndpointEngine}

theorem guarded_of_quiet {endpoint : EndpointEngine} {clientId : UserId} (inv : endpoint.Guarded clientId)
    (quiet : endpoint.Quiet next) : next.Guarded clientId := by
  refine ⟨fun id row found => ?_, fun id row found listed => ?_⟩
  · rw [quiet.engines] at found
    exact inv.tidy id row found
  rw [quiet.engines] at found
  have owned := inv.owned id row found listed
  rw [Owned, quiet.sockets, quiet.closures]
  exact owned

theorem tidy_perform (now id : Nat) (op : EngineOp)
    (tidy : ∀ (place : Nat) row, endpoint.engines[place]? = some row → row.2.tables.Tidy clientId)
    (spared : ∀ row, endpoint.engines[id]? = some row → row.2.tables.SparesUser op clientId) (place : Nat)
    (row : Nat × ChannelEngine) (found : (endpoint.perform now id op).engines[place]? = some row) :
    row.2.tables.Tidy clientId := by
  obtain ⟨old, present, ⟨same, changed⟩ | ⟨_, kept⟩⟩ := perform_tables endpoint found
  · rw [changed]
    subst same
    exact tidy_step (tidy place old present) (spared old present)
  · rw [kept]
    exact tidy place old present

theorem perform_listed (now id : Nat) (op : EngineOp)
    (spared : ∀ row, endpoint.engines[id]? = some row → row.2.tables.SparesUser op clientId)
    (others : Tables.newcomer op ≠ some clientId) (place : Nat) (row : Nat × ChannelEngine)
    (found : (endpoint.perform now id op).engines[place]? = some row) (listed : row.2.tables.lists clientId) :
    ∃ old, endpoint.engines[place]? = some old ∧ old.2.tables.lists clientId := by
  obtain ⟨old, present, ⟨same, changed⟩ | ⟨_, kept⟩⟩ := perform_tables endpoint found
  · rw [changed] at listed
    subst same
    exact ⟨old, present, listed_before (spared old present) others listed⟩
  · rw [kept] at listed
    exact ⟨old, present, listed⟩

variable {id place : Nat}

theorem owned_perform (owned : endpoint.Owned clientId place) : (endpoint.perform now id op).Owned clientId place := by
  rw [perform_frame]
  exact owned

theorem guarded_perform (inv : endpoint.Guarded clientId)
    (spared : ∀ row, endpoint.engines[id]? = some row → row.2.tables.SparesUser op clientId)
    (others : Tables.newcomer op ≠ some clientId) : (endpoint.perform now id op).Guarded clientId := by
  refine ⟨tidy_perform endpoint clientId now id op inv.tidy spared, fun place row found listed => ?_⟩
  obtain ⟨old, present, before⟩ := perform_listed endpoint clientId now id op spared others place row found listed
  exact owned_perform endpoint clientId (inv.owned place old present before)

variable {closure : Nat}

theorem closure_other {clientId other : UserId} (different : other ≠ clientId) :
    (endpoint.runClosure now clientId closure).sockets.get? other = endpoint.sockets.get? other := by
  simp only [runClosure]
  split
  · rfl
  split
  · rfl
  · rw [update_socket_other _ different, perform_frame]

theorem closure_tidy (tidy : ∀ (place : Nat) row, endpoint.engines[place]? = some row → row.2.tables.Tidy clientId)
    (place : Nat) (row : Nat × ChannelEngine)
    (found : (endpoint.runClosure now other closure).engines[place]? = some row) : row.2.tables.Tidy clientId := by
  simp only [runClosure] at found
  split at found
  · exact tidy place row found
  split at found
  · exact tidy place row found
  rename_i id _ _ _ _ _
  rw [update_socket_frame] at found
  exact tidy_perform endpoint clientId now id (.removeUser other false) tidy (fun _ _ => trivial) place row found

theorem closure_listed {row : Nat × ChannelEngine}
    (found : (endpoint.runClosure now other closure).engines[place]? = some row)
    (listed : row.2.tables.lists clientId) :
    (∃ old, endpoint.engines[place]? = some old ∧ old.2.tables.lists clientId) ∧
      (other = clientId → endpoint.closures[closure]? ≠ some place) := by
  simp only [runClosure] at found
  cases closes : endpoint.closures[closure]? with
  | none =>
    simp only [closes] at found
    exact ⟨⟨row, found, listed⟩, fun _ same => by cases same⟩
  | some id =>
    simp only [closes] at found
    cases present : endpoint.engines[id]? with
    | none =>
      simp only [present] at found
      refine ⟨⟨row, found, listed⟩, fun _ same => ?_⟩
      cases same
      rw [present] at found
      cases found
    | some =>
      simp only [present] at found
      rw [update_socket_frame] at found
      refine ⟨perform_listed endpoint clientId now id (.removeUser other false) (fun _ _ => trivial)
        (by simp [newcomer]) place row found listed, ?_⟩
      intro mine same
      cases same
      subst mine
      obtain ⟨_, _, ⟨_, changed⟩ | ⟨away, _⟩⟩ :=
        perform_tables endpoint found
      · rw [changed] at listed
        exact remove_unlisted listed
      · exact away rfl

theorem guarded_closure (inv : endpoint.Guarded clientId) :
    (endpoint.runClosure now other closure).Guarded clientId := by
  refine ⟨closure_tidy endpoint clientId inv.tidy, fun place row found listed => ?_⟩
  obtain ⟨⟨old, present, before⟩, spared⟩ := closure_listed endpoint clientId found listed
  obtain ⟨cache, known, running, witness, held, leads⟩ := inv.owned place old present before
  by_cases mine : other = clientId
  · subst mine
    have away : witness ≠ closure := fun same => spared rfl (same ▸ leads)
    simp only [runClosure]
    cases endpoint.closures[closure]? with
    | none => exact ⟨cache, known, running, witness, held, leads⟩
    | some id =>
      dsimp only
      cases endpoint.engines[id]? with
      | none => exact ⟨cache, known, running, witness, held, leads⟩
      | some =>
        have still : (endpoint.perform now id (.removeUser other false)).sockets.get? other = some cache := by
          rw [perform_frame]
          exact known
        have kept : (cache.subscriptions.delete closure).has witness = true :=
          has_delete.mpr ⟨away, held⟩
        refine ⟨_, update_socket_same _ other _ cache still, running, witness, kept, ?_⟩
        dsimp only
        rw [update_socket_frame, perform_frame]
        exact leads
  · refine ⟨cache, ?_, running, witness, held, ?_⟩
    · rw [closure_other endpoint (Ne.symm mine)]
      exact known
    · rw [closure_frame]
      exact leads

theorem guarded_closures {closures : List Nat} (endpoint : EndpointEngine) (inv : endpoint.Guarded clientId) :
    (closures.foldl (fun endpoint closure => endpoint.runClosure now other closure) endpoint).Guarded clientId := by
  induction closures generalizing endpoint with
  | nil => exact inv
  | cons _ _ ih => exact ih _ (guarded_closure endpoint clientId inv)

structure Leading (endpoint : EndpointEngine) (clientId : UserId) (closures : List Nat) : Prop where
  tidy : ∀ (id : Nat) row, endpoint.engines[id]? = some row → row.2.tables.Tidy clientId
  reached : ∀ (id : Nat) row, endpoint.engines[id]? = some row → row.2.tables.lists clientId →
    ∃ closure ∈ closures, endpoint.closures[closure]? = some id

variable {clientId clientId}

theorem leading_closures (now : Nat) (closures : List Nat) (endpoint : EndpointEngine)
    (leading : endpoint.Leading clientId closures) :
    (closures.foldl (fun endpoint closure => endpoint.runClosure now clientId closure) endpoint).Leading clientId [] := by
  induction closures generalizing endpoint with
  | nil => exact leading
  | cons _ _ ih =>
    apply ih
    refine ⟨closure_tidy endpoint clientId leading.tidy, fun place row found listed => ?_⟩
    obtain ⟨⟨old, present, before⟩, spared⟩ :=
      closure_listed endpoint clientId found listed
    obtain ⟨witness, member, leads⟩ := leading.reached place old present before
    rw [closure_frame]
    rcases mem_cons.mp member with same | later
    · exact absurd (same ▸ leads) (spared rfl)
    · exact ⟨witness, later, leads⟩

variable {endpoint}

theorem guarded_socket_other (inv : endpoint.Guarded clientId)
    {update : SocketCache → SocketCache} (different : clientId ≠ other) :
    (endpoint.updateSocket other update).Guarded clientId := by
  refine ⟨fun id row found => ?_, fun id row found listed => ?_⟩
  · rw [update_socket_frame] at found
    exact inv.tidy id row found
  rw [update_socket_frame] at found
  obtain ⟨cache, known, rest⟩ := inv.owned id row found listed
  refine ⟨cache, ?_, ?_⟩
  · rw [update_socket_other _ different]
    exact known
  · rw [update_socket_frame]
    exact rest

theorem guarded_socket_close (inv : endpoint.Guarded clientId) :
    (endpoint.handleSocketClose now other).Guarded clientId := by
  simp only [handleSocketClose]
  cases known : endpoint.sockets.get? other with
  | none => exact inv
  | some cache =>
    dsimp only
    split
    · exact inv
    by_cases mine : clientId = other
    · subst mine
      have leading : (endpoint.updateSocket clientId fun cache => { cache with closed := true }).Leading clientId
          cache.subscriptions.keys := by
        rw [update_socket_frame]
        refine ⟨inv.tidy, fun id row found listed => ?_⟩
        obtain ⟨_, present, _, closure, member, leads⟩ := inv.owned id row found listed
        rw [known] at present
        cases present
        exact ⟨closure, mem_keys.mpr member, leads⟩
      have after := leading_closures now _ _ leading
      rw [update_socket_frame]
      refine ⟨after.tidy, fun id row found listed => ?_⟩
      obtain ⟨_, none, _⟩ := after.reached id row found listed
      cases none
    · apply guarded_socket_other _ mine
      exact guarded_closures clientId _ (guarded_socket_other inv mine)

theorem new_tidy {endpointId name : String} {nodeId : NodeId} {backend : Option DistributedBackend} :
    (ChannelEngine.new endpointId name nodeId backend).tables.Tidy userId := by
  refine ⟨fun hosted => ?_, fun node tracked => ?_, rfl⟩
  · cases hosted
  · obtain ⟨_, row, _⟩ := tracked
    cases row

theorem guarded_channel (inv : endpoint.Guarded clientId)
    (lobby : Nat) (channelName : String) : (endpoint.getOrCreateChannel lobby channelName).1.Guarded clientId := by
  simp only [getOrCreateChannel]
  split
  · exact inv
  refine ⟨fun id row found => ?_, fun id row found listed => ?_⟩
  · rcases mem_append.mp (mem_of_getElem? found) with old | fresh
    · obtain ⟨place, present⟩ := mem_iff_getElem?.mp old
      exact inv.tidy place row present
    · cases mem_singleton.mp fresh
      exact new_tidy
  by_cases before : id < endpoint.engines.length
  · rw [List.getElem?_append_left before] at found
    exact inv.owned id row found listed
  rw [getElem?_append_right (Nat.le_of_not_lt before)] at found
  cases mem_singleton.mp (mem_of_getElem? found)
  cases listed

theorem guarded_next (inv : endpoint.Guarded clientId) : (endpoint.runNext id).Guarded clientId := by
  simp only [runNext]
  split
  · exact inv
  split
  · refine guarded_of_quiet ?_ quiet_final
    exact ⟨inv.tidy, inv.owned⟩
  · have found := guarded_channel inv
    exact ⟨(found _ _).tidy, (found _ _).owned⟩

theorem guarded_assign (inv : endpoint.Guarded clientId) (now id : Nat)
    (context : JoinContext) (assigns : PondAssigns) : (endpoint.assign now id context assigns).Guarded clientId := by
  simp only [assign]
  split
  · exact guarded_perform endpoint clientId inv (fun _ _ => trivial) (by simp [newcomer])
  · exact guarded_of_quiet inv (quiet_context endpoint id _)

theorem owned_registered {endpoint : EndpointEngine} {clientId other : UserId} {target : Nat} {name : String}
    (sockets : next.sockets = endpoint.sockets) (closures : next.closures = endpoint.closures ++ [target])
    (reached : endpoint.Owned clientId place ∨ (place = target ∧ other = clientId ∧ endpoint.isOpen clientId = true)) :
    (next.updateSocket other fun cache =>
      { cache with
        subscriptions := cache.subscriptions.add endpoint.closures.length
        channelSubscriptions := cache.channelSubscriptions.set name endpoint.closures.length }).Owned clientId place := by
  have added : ∀ (cache : SocketCache) (closure : Nat),
      (cache.subscriptions.add endpoint.closures.length).has closure = true ↔
        closure = endpoint.closures.length ∨ cache.subscriptions.has closure = true :=
    fun cache closure => has_set
  rcases reached with ⟨cache, known, running, witness, held, leads⟩ | ⟨rfl, rfl, open_⟩
  · have leads' : next.closures[witness]? = some place := by
      rw [closures, List.getElem?_append_left (List.getElem?_eq_some_iff.mp leads).1]
      exact leads
    by_cases mine : clientId = other
    · subst mine
      refine ⟨_, update_socket_same next clientId _ cache (by rw [sockets]; exact known), running, witness,
        (added cache witness).mpr (.inr held), ?_⟩
      rw [update_socket_frame]
      exact leads'
    refine ⟨cache, ?_, running, witness, held, ?_⟩
    · rw [update_socket_other _ mine, sockets]
      exact known
    · rw [update_socket_frame]
      exact leads'
  · simp only [isOpen] at open_
    cases known : endpoint.sockets.get? other with
    | none => simp [known] at open_
    | some cache =>
      have running : cache.closed = false := by simpa [known] using open_
      refine ⟨_, update_socket_same next other _ cache (by rw [sockets]; exact known), running,
        endpoint.closures.length, (added cache _).mpr (.inl rfl), ?_⟩
      rw [update_socket_frame]
      simp [closures]

theorem guarded_connect (inv : endpoint.Guarded clientId)
    {assigns : PondAssigns} : (endpoint.manageSocket other assigns).Guarded clientId := by
  simp only [manageSocket]
  cases used : endpoint.sockets.has other with
  | true => exact inv
  | false =>
    have fresh : ({ endpoint with sockets := endpoint.sockets.set other { assigns := assigns } } :
        EndpointEngine).Guarded clientId := by
      refine ⟨inv.tidy, fun id row found listed => ?_⟩
      obtain ⟨cache, known, rest⟩ := inv.owned id row found listed
      have different : clientId ≠ other := by
        intro same
        rw [same, has_false_iff.mp used] at known
        cases known
      exact ⟨cache, (get_set_other different).trans known, rest⟩
    exact guarded_of_quiet fresh (quiet_send _ other _)

variable {assigns : PondMessage}

theorem reassigned_closed {tables : Tables} :
    (tables.step now (.updateAssigns userId assigns)).closed = tables.closed :=
  congrArg Prod.fst (gates_step tables now (.updateAssigns userId assigns) (by intro same; cases same))

theorem reassigned_lists {tables : Tables} {other : UserId} (listed : tables.lists other) :
    (tables.step now (.updateAssigns userId assigns)).lists other := by
  simp only [Tables.step]
  split
  · exact listed
  · exact (list_lists tables).mpr (.inr listed)

theorem guarded_subscribe (inv : endpoint.Guarded clientId) {context : JoinContext}
    (admitted : context.clientId = clientId → endpoint.isOpen clientId = true ∧
      ∀ row, endpoint.engines[context.engine]? = some row → row.2.tables.closed = false ∨ row.2.tables.lists clientId) :
    (endpoint.subscribe now id context).Guarded clientId := by
  simp only [subscribe]
  cases target : endpoint.engines[context.engine]? with
  | none => exact inv
  | some there =>
    obtain ⟨_, engine⟩ := there
    have tidy := tidy_perform endpoint clientId now context.engine
      (.addUser context.clientId context.newAssigns context.clientId context.requestId) inv.tidy
      (fun row present same => (admitted same).2 row present)
    have frame := perform_frame endpoint now context.engine
      (.addUser context.clientId context.newAssigns context.clientId context.requestId)
    -- Whoever lists the client afterwards did so before or has just let it in.
    have listed : ∀ (place : Nat) row, (endpoint.perform now context.engine
        (.addUser context.clientId context.newAssigns context.clientId context.requestId)).engines[place]? = some row →
        row.2.tables.lists clientId → endpoint.Owned clientId place ∨
          (place = context.engine ∧ context.clientId = clientId ∧ endpoint.isOpen clientId = true ∧
            (engine.addUser context.clientId context.newAssigns context.clientId context.requestId).thrown = none) := by
      intro place row found lists
      obtain ⟨old, present, ⟨same, changed⟩ | ⟨_, kept⟩⟩ := perform_tables endpoint found
      · subst same
        rw [changed] at lists
        rw [target] at present
        cases present
        by_cases before : engine.tables.lists clientId
        · exact .inl (inv.owned context.engine _ target before)
        have same : clientId = context.clientId :=
          ((join_lists engine.tables context.clientId clientId _ _).mp lists).resolve_left before
        obtain ⟨open_, running⟩ := admitted same.symm
        have closed : engine.tables.closed = false := (running _ target).resolve_right before
        have deaf : engine.publisher.isClosed = false := (inv.tidy _ _ target).deaf.trans closed
        refine .inr ⟨rfl, same.symm, open_, (add_user_thrown engine _ _ _ _).mpr ⟨?_, deaf⟩⟩
        rw [← same]
        exact Bool.eq_false_iff.mpr before
      · rw [kept] at lists
        exact .inl (inv.owned place old present lists)
    generalize endpoint.perform now context.engine
      (.addUser context.clientId context.newAssigns context.clientId context.requestId) = after at tidy frame listed
    have sockets : after.sockets = endpoint.sockets := by rw [frame]
    have closures : after.closures = endpoint.closures := by rw [frame]
    dsimp only
    cases thrown : (engine.addUser context.clientId context.newAssigns context.clientId context.requestId).thrown with
    | some =>
      refine ⟨tidy, fun place row found lists => ?_⟩
      rcases listed place row found lists with owned | ⟨_, _, _, passed⟩
      · obtain ⟨cache, known, rest⟩ := owned
        exact ⟨cache, sockets ▸ known, closures ▸ rest⟩
      · rw [thrown] at passed
        cases passed
    | none =>
      refine ⟨fun place row found => ?_, fun place row found lists => ?_⟩
      · rw [update_socket_frame] at found
        exact tidy place row found
      rw [update_socket_frame] at found
      have reached : endpoint.Owned clientId place ∨
          (place = context.engine ∧ context.clientId = clientId ∧ endpoint.isOpen clientId = true) := by
        rcases listed place row found lists with owned | ⟨there, mine, open_, _⟩
        · exact .inl owned
        · exact .inr ⟨there, mine, open_⟩
      exact owned_registered sockets rfl reached

theorem guarded_accept (inv : endpoint.Guarded clientId) {assigns : Option PondAssigns}
    (spared : SparesClient clientId endpoint (now, .accept id assigns)) :
    (endpoint.accept now id assigns).Guarded clientId := by
  simp only [accept]
  cases present : endpoint.contexts[id]? with
  | none => exact inv
  | some context =>
    dsimp only
    cases assigns with
    | none =>
      split
      · exact inv
      rename_i pending
      exact guarded_subscribe inv fun mine =>
        spared context present mine (Bool.eq_false_iff.mpr pending)
    | some assigns =>
      have assigned := guarded_assign inv now id context assigns
      split
      · exact assigned
      rename_i pending
      apply guarded_subscribe assigned
      intro mine
      obtain ⟨open_, running⟩ := spared context present mine (Bool.eq_false_iff.mpr pending)
      simp only [assign]
      split
      · refine ⟨?_, fun row found => ?_⟩
        · rw [perform_frame]
          exact open_
        · obtain ⟨old, there, ⟨_, changed⟩ | ⟨away, _⟩⟩ := perform_tables endpoint found
          · rw [changed]
            exact (running old there).imp reassigned_closed.trans
              reassigned_lists
          · exact absurd rfl away
      · exact ⟨open_, running⟩

theorem guarded_step {endpoint : EndpointEngine} {label : Nat × EndpointOp}
    (inv : endpoint.Guarded clientId) (spared : SparesClient clientId endpoint label) :
    (endpoint.step label).Guarded clientId := by
  obtain ⟨now, op⟩ := label
  cases op with
  | connect => exact guarded_connect inv
  | join =>
    simp only [step, joinChannel]
    split
    · exact inv
    split
    · exact inv
    · apply guarded_next
      exact ⟨inv.tidy, inv.owned⟩
  | leave =>
    simp only [step, leaveChannel]
    split
    · exact inv
    split
    · exact inv
    split
    · exact guarded_closure endpoint clientId inv
    split
    · exact guarded_of_quiet inv (quiet_send endpoint _ _)
    · exact guarded_perform endpoint clientId inv (fun _ _ => trivial) (by simp [newcomer])
  | close => exact guarded_socket_close inv
  | accept => exact guarded_accept inv spared
  | decline => exact guarded_of_quiet inv quiet_decline
  | assign id assigns =>
    simp only [step]
    split
    · exact inv
    · exact guarded_assign inv now id _ assigns
  | next id =>
    simp only [step, delegate]
    split
    · exact inv
    have marked := guarded_of_quiet inv (quiet_context endpoint id fun context => { context with delegated := true })
    split
    · exact guarded_of_quiet marked quiet_final_error
    · exact guarded_next marked
  | finish => exact guarded_of_quiet inv quiet_finish
  | fail => exact guarded_of_quiet inv quiet_fail
  | call =>
    simp only [step]
    split
    · rename_i callable
      refine guarded_perform endpoint clientId inv spared fun joins => ?_
      simp [EndpointEngine.callable, joins] at callable
    · exact inv

-- In a run that lets the client in only while its socket and the engine are open,
-- a closed socket leaves the client in no engine.
theorem no_ghost_members (path : String) (backend : Option DistributedBackend) (uuid : Nat → NodeId)
    (patterns : List (String → Bool)) (clientId : UserId) (labels : List (Nat × EndpointOp))
    (spared : Follows step (SparesClient clientId) (new path backend uuid patterns) labels) :
    Always step (NoGhost clientId) (new path backend uuid patterns) labels := by
  have initial : (new path backend uuid patterns).Guarded clientId := by
    constructor
    · intro id row found
      cases found
    · intro id row found
      cases found
  have kept := always_of_follows step (SparesClient clientId) (Guarded · clientId)
    (fun endpoint label inv ok => guarded_step inv ok) _ initial spared
  exact always_mono step (Guarded · clientId) (NoGhost clientId)
    (fun endpoint inv => no_ghost_of_guarded endpoint clientId inv) _ labels kept

theorem no_ghost_members_run :
    let labels : List (Nat × EndpointOp) :=
      [(0, .connect "c" .empty), (0, .join "c" "room" "r"), (0, .accept 0 none), (0, .finish 0), (0, .close "c")]
    Always step (NoGhost "c") (new "/ws" none (fun _ => "n") [fun _ => true]) labels :=
  no_ghost_members "/ws" none (fun _ => "n") [fun _ => true] "c" _ ⟨trivial, trivial, by
      intro context present _ _
      cases present
      refine ⟨rfl, fun row found => ?_⟩
      cases found
      exact .inl rfl, trivial, trivial, trivial⟩

def lateAccept : List (Nat × EndpointOp) :=
  [(0, .connect "c" .empty), (0, .join "c" "room" "r"), (0, .close "c"), (0, .accept 0 none), (0, .finish 0)]

theorem late_accept_leaves_ghost :
    ¬ NoGhost "c" (run step (new "/ws" none (fun _ => "n") [fun _ => true]) lateAccept) := by
  intro clean
  have closed : ∀ cache, (run step (new "/ws" none (fun _ => "n") [fun _ => true]) lateAccept).sockets.get? "c" =
      some cache → cache.closed = true := by
    intro cache found
    cases found
    rfl
  have finished : ∀ context ∈ (run step (new "/ws" none (fun _ => "n") [fun _ => true]) lateAccept).contexts,
      context.clientId = "c" → context.finished = true := by
    intro context member _
    cases mem_singleton.mp member
    rfl
  have gone := (clean closed finished _ mem_cons_self).1
  revert gone
  decide

end EndpointEngine

end PondSocket.Js
