import PondSocket.Js.JoinReplies

namespace PondSocket.Js

open Library List Option ChannelEngine EndpointEngine

variable {userId : UserId}

namespace Tables

theorem join_takes {tables : Tables} {assigns : PondAssigns} {onMessage : ConnectionId}
    (unlisted : tables.assignsCache.has userId = false) (listening : tables.publisher.isClosed = false) :
    (tables.join userId assigns onMessage).hosts userId := by
  have hosted := (host_hosts (tables.list userId assigns) ⟨userId, onMessage⟩ userId).mpr (.inl rfl)
  simp only [join, unlisted, listening, Bool.false_eq_true, if_false]
  split <;> exact hosted

end Tables

variable {context : JoinContext} {id now lobby index : Nat} {assigns : Option PondAssigns} {engine : ChannelEngine}
  {request : JoinRequest} {clientId : UserId}

variable {error : Option Thrown}

namespace EndpointEngine

variable (endpoint : EndpointEngine)

theorem silent_assign {assigns : PondAssigns} (silent : endpoint.Silent) :
    (endpoint.assign now id context assigns).Silent := by
  simp only [assign]
  split
  · apply silent_perform endpoint silent
    intro row _
    exact handed_update_assigns
  · exact ⟨silent.sent, silent.effects⟩

theorem listed_assign {place : Nat} {assigns : PondAssigns}
    (listed : (endpoint.assign now id context assigns).listedAt userId place = true) :
    endpoint.listedAt userId place = true := by
  simp only [assign] at listed
  split at listed
  · exact listed_perform endpoint rfl rfl listed
  · exact listed

theorem accept_executed (found : endpoint.contexts[id]? = some context) (done : context.executed = true) :
    endpoint.accept now id assigns = endpoint ∨
      ∃ given, endpoint.accept now id assigns = endpoint.assign now id context given := by
  simp only [accept, found, done, if_true]
  cases assigns with
  | none => exact .inl rfl
  | some given => exact .inr ⟨given, rfl⟩

variable {next : EndpointEngine}

theorem listed_set {endpoint : EndpointEngine} {place other : Nat} (changed : ChannelEngine)
    (there : endpoint.engines[place]? = some (lobby, engine)) (same : changed.assignsCache = engine.assignsCache)
    (engines : next.engines = endpoint.engines.set place (lobby, changed)) :
    next.listedAt userId other = endpoint.listedAt userId other := by
  have bound := (List.getElem?_eq_some_iff.mp there).1
  by_cases here : place = other
  · subst here
    simp only [listedAt, engines, getElem?_set_self bound, there, same]
  · simp only [listedAt, engines, getElem?_set_ne here]

theorem delegate_none (found : endpoint.contexts[id]? = none) : endpoint.delegate id error = endpoint := by
  simp [delegate, found]

theorem delegate_error {error : Thrown} (found : endpoint.contexts[id]? = some context)
    (asked : endpoint.requests[context.request]? = some request) (listening : endpoint.isOpen request.clientId = true) :
    ∃ event, endpoint.delegate id (some error) = { endpoint with
      contexts := endpoint.contexts.modify id fun context => { context with delegated := true }
      sent := endpoint.sent ++ [(request.clientId, event)] } ∧ Refuses event request.requestId := by
  have known : (endpoint.updateContext id fun context => { context with delegated := true }).requests[context.request]? =
      some request := asked
  simp only [delegate, found, finalError, known]
  exact final_open (endpoint.updateContext id _) listening

theorem written_add_user (endpoint next : EndpointEngine) (now place lobby : Nat) (engine : ChannelEngine)
    (clientId : UserId) (assigns : PondAssigns) (requestId : RequestId) (silent : endpoint.Silent)
    (there : endpoint.engines[place]? = some (lobby, engine)) (unlisted : engine.assignsCache.has clientId = false)
    (engines : next.engines = endpoint.engines.set place
      (lobby, ({ engine with effects := [] } : ChannelEngine).act now (.addUser clientId assigns clientId requestId)))
    (sent : next.sent = endpoint.sent) : next.written clientId = [engine.acknowledgement requestId] := by
  rw [written_set endpoint next clientId place _ silent (List.getElem?_eq_some_iff.mp there).1 engines sent]
  have handed : (({ engine with effects := [] } : ChannelEngine).act now
      (.addUser clientId assigns clientId requestId)).handed = _ :=
    handed_add_user { engine with effects := [] } clientId assigns clientId requestId
  rw [handed]
  simp only [unlisted, Bool.false_eq_true, if_false]
  simp [ChannelEngine.handed, acknowledgement]

theorem seats_add_user {before : EndpointEngine} (now : Nat) {place : Nat} (assigns : PondAssigns)
    (requestId : RequestId) (there : before.engines[place]? = some (lobby, engine))
    (unlisted : engine.assignsCache.has clientId = false) (listening : engine.publisher.isClosed = false)
    (engines : next.engines = before.engines.set place
      (lobby, ({ engine with effects := [] } : ChannelEngine).act now (.addUser clientId assigns clientId requestId))) :
    before.seats next clientId engine.name = true := by
  have bound := (List.getElem?_eq_some_iff.mp there).1
  rw [seats, List.any_eq_true]
  refine ⟨place, mem_range.mpr (by rw [engines, length_set]; exact bound), ?_⟩
  have tables : (({ engine with effects := [] } : ChannelEngine).act now (.addUser clientId assigns clientId requestId)).tables =
      engine.tables.step now (.addUser clientId assigns clientId requestId) :=
    Cluster.perform_tables now engine (.addUser clientId assigns clientId requestId)
  have lists : (({ engine with effects := [] } : ChannelEngine).act now
      (.addUser clientId assigns clientId requestId)).assignsCache.has clientId = true := by
    have joined : (engine.tables.step now (.addUser clientId assigns clientId requestId)).lists clientId :=
      (Tables.join_lists _ _ _ _ _).mpr (.inr rfl)
    rw [← tables] at joined
    exact joined
  have hosts : (({ engine with effects := [] } : ChannelEngine).act now
      (.addUser clientId assigns clientId requestId)).userSubscriptions.has clientId = true := by
    have joined : (engine.tables.step now (.addUser clientId assigns clientId requestId)).hosts clientId :=
      Tables.join_takes unlisted listening
    rw [← tables] at joined
    exact joined
  have named := name_act engine now (.addUser clientId assigns clientId requestId)
  simp only [seatedAt, listedAt, engines, getElem?_set_self bound, there, unlisted, lists, hosts, named, decide_true,
    Bool.and_self, Bool.not_false]

def handOn (endpoint : EndpointEngine) (id lobby index : Nat) (request : JoinRequest) : EndpointEngine :=
  { (endpoint.getOrCreateChannel lobby request.channelName).1 with
    requests := endpoint.requests.set id { request with index := index }
    contexts := endpoint.contexts ++
      [{ request := id, clientId := request.clientId, requestId := request.requestId,
         engine := (endpoint.getOrCreateChannel lobby request.channelName).2, newAssigns := request.assigns }] }

variable {endpoint}

theorem hand_on_marks :
    ∃ mark, (endpoint.handOn id lobby index request).marks = endpoint.marks ++ [mark] ∧ mark.request = id ∧
      mark.clientId = request.clientId ∧ mark.requestId = request.requestId ∧
      mark.engine = (endpoint.getOrCreateChannel lobby request.channelName).2 ∧ mark.executed = false ∧
      mark.accepted = false ∧ mark.delegated = false ∧ mark.finished = false := by
  refine ⟨_, map_append, rfl, rfl, rfl, rfl, rfl, rfl, rfl, rfl⟩

theorem hand_on_rooted (rooted : endpoint.Rooted) (asked : endpoint.requests[id]? = some request) :
    (endpoint.handOn id lobby index request).Rooted := by
  obtain ⟨rows, heldBy, ⟨row, there, about⟩, _⟩ := get_or_create_spec endpoint rooted
  obtain ⟨_, marks, toward, client, named, engine, _, accepted, _⟩ := hand_on_marks
  have bound := (List.getElem?_eq_some_iff.mp asked).1
  have asks : ∀ (other : Nat) known, endpoint.requests[other]? = some known →
      ∃ now, (endpoint.handOn id lobby index request).requests[other]? = some now ∧ now.clientId = known.clientId ∧
        now.requestId = known.requestId ∧ now.channelName = known.channelName := by
    intro other known present
    by_cases same : id = other
    · subst same
      rw [asked] at present
      cases present
      exact ⟨_, getElem?_set_self bound, rfl, rfl, rfl⟩
    · exact ⟨known, (getElem?_set_ne same).trans present, rfl, rfl, rfl⟩
  refine ⟨fun other name place found => ?_, fun place rest found => ?_, fun place rest found done => ?_⟩
  · rcases heldBy other name place found with old | new
    · obtain ⟨known, present, same⟩ := rooted.named other name place old
      exact ⟨known, rows place known present, same⟩
    · exact new
  · rw [marks] at found
    rcases get_concat found with old | ⟨_, rfl⟩
    · obtain ⟨known, engine, present, hisClient, hisId, stands, same⟩ := rooted.contexts place rest old
      obtain ⟨now, kept, sameClient, sameId, sameName⟩ := asks rest.request known present
      exact ⟨now, engine, kept, hisClient.trans sameClient.symm, hisId.trans sameId.symm, rows rest.engine engine stands,
        same.trans sameName.symm⟩
    obtain ⟨now, kept, sameClient, sameId, sameName⟩ := asks id request asked
    rw [toward, engine]
    exact ⟨now, row, kept, client.trans sameClient.symm, named.trans sameId.symm, there, about.trans sameName.symm⟩
  · rw [marks] at found
    rcases get_concat found with old | ⟨_, rfl⟩
    · exact rooted.accepted place rest old done
    · rw [accepted] at done
      cases done

theorem hand_on_says (rooted : endpoint.Rooted) (silent : endpoint.Silent) :
    (endpoint.handOn id lobby index request).written clientId = [] ∧
      endpoint.adds (endpoint.handOn id lobby index request) clientId = false := by
  obtain ⟨_, _, _, fresh⟩ := get_or_create_spec endpoint rooted
  have sent : (endpoint.getOrCreateChannel lobby request.channelName).1.sent = endpoint.sent := by
    simp only [getOrCreateChannel]
    split <;> rfl
  constructor
  · refine written_silent (endpoint.handOn id lobby index request) ⟨sent.trans silent.sent, fun row member => ?_⟩
    obtain ⟨place, found⟩ := mem_iff_getElem?.mp member
    rcases fresh place row found with old | blank
    · exact silent.effects row (mem_of_getElem? old)
    · exact blank.1
  · refine adds_none fun place listed => ?_
    simp only [listedAt] at listed ⊢
    cases found : (endpoint.handOn id lobby index request).engines[place]? with
    | none =>
      rw [found] at listed
      cases listed
    | some row =>
      rw [found] at listed
      rcases fresh place row found with old | blank
      · rw [old]
        exact listed
      change row.2.assignsCache.has clientId = true at listed
      rw [blank.2] at listed
      cases listed

end EndpointEngine

namespace ReplyLedger

variable (ledger : ReplyLedger) {endpoint : EndpointEngine}

variable (label : Nat × EndpointOp) {place : Nat}

theorem inv_steady (inv : ledger.Inv) (about : ledger.endpoint.silence.about label.2 = none)
    (steady : ledger.endpoint.silence.Steady (ledger.endpoint.silence.step label))
    (listening : ∀ (id : Nat) request, ledger.endpoint.requests[id]? = some request → ledger.Open id request →
      (ledger.endpoint.silence.step label).isOpen request.clientId = true) : (ledger.step label).Inv := by
  have whole := steady_trans (steady_silence ledger.endpoint) steady
  have spec : ledger.step label = { ledger with endpoint := ledger.endpoint.silence.step label } := by
    simp [step, about]
  rw [spec]
  refine ⟨rooted_steady inv.rooted whole, fun id request asked => ?_, fun id beyond => ?_,
    fun id threw => ?_⟩
  · have known : ledger.endpoint.requests[id]? = some request := by
      rw [← whole.requests]
      exact asked
    rcases inv.status id request known with waiting | done
    · refine .inl ⟨waiting.replies, waiting.added, listening id request known waiting, ?_⟩
      rw [whole.marks]
      exact waiting.turn
    refine .inr ⟨?_, done.reply⟩
    rw [whole.marks]
    exact done.rests
  · rw [whole.requests] at beyond
    exact inv.blank id beyond
  · rw [whole.marks]
    exact inv.threw id threw

theorem mark_back {mark : JoinContext}
    (there : endpoint.marks[place]? = some mark) : ∃ context, endpoint.contexts[place]? = some context ∧
      context.mark = mark := by
  rw [marks, getElem?_map] at there
  exact map_eq_some_iff.mp there

theorem request_of (inv : ledger.Inv) {place : Nat} (found : ledger.endpoint.contexts[place]? = some context) :
    ∃ request row, ledger.endpoint.requests[context.request]? = some request ∧ context.clientId = request.clientId ∧
      context.requestId = request.requestId ∧ ledger.endpoint.silence.engines[context.engine]? = some row ∧
      row.2.name = request.channelName := by
  obtain ⟨request, row, asked, client, named, there, same⟩ :=
    inv.rooted.contexts place context.mark (mark_found found)
  obtain ⟨other, present, still⟩ := (steady_silence ledger.endpoint).rows context.mark.engine row there
  exact ⟨request, other, asked, client, named, present, still.trans same⟩

theorem inv_absent (inv : ledger.Inv) (about : ledger.endpoint.silence.about label.2 = none)
    (same : ledger.endpoint.silence.step label = ledger.endpoint.silence) : (ledger.step label).Inv := by
  refine inv_steady ledger label inv about ?_ fun id request _ waiting => ?_
  · rw [same]
    exact steady_refl _
  · rw [same]
    exact waiting.socket

theorem about_context (found : endpoint.contexts[place]? = some context) :
    (endpoint.silence.contexts[place]?).map JoinContext.request = some context.request := by
  change (endpoint.contexts[place]?).map JoinContext.request = some context.request
  rw [found]
  rfl

theorem inv_same (inv : ledger.Inv) {place : Nat} (about : ledger.endpoint.silence.about label.2 = some context.request)
    (found : ledger.endpoint.contexts[place]? = some context)
    (asked : ledger.endpoint.requests[context.request]? = some request) (stays : ∀ userId, label.2 ≠ .close userId)
    (calm : ∀ other, throwsNow ledger.endpoint.silence label.2 other = false)
    (same : ledger.endpoint.silence.step label = ledger.endpoint.silence) : (ledger.step label).Inv := by
  refine inv_idle inv about found asked stays calm ?_ ?_ ?_
  · rw [same]
    exact steady_refl _
  · rw [same]
    exact written_silent _ ledger.endpoint.silence_silent
  · rw [same]
    exact adds_none fun _ listed => listed

theorem set_same {Item : Type} {items : List Item} {place : Nat} {item : Item} (there : items[place]? = some item) :
    items.set place item = items := by
  obtain ⟨_, same⟩ := List.getElem?_eq_some_iff.mp there
  rw [← same, set_getElem_self]

theorem absent_of (found : endpoint.contexts[place]? = none)
    (settled : JoinContext → Prop) (context : JoinContext) (there : endpoint.silence.contexts[place]? = some context) :
    settled context := by
  rw [silence, found] at there
  cases there

theorem only_of {settled : JoinContext → Prop} (found : endpoint.contexts[place]? = some context)
    (holds : settled context) (other : JoinContext) (there : endpoint.silence.contexts[place]? = some other) :
    settled other := by
  rw [silence, found] at there
  cases there
  exact holds

theorem inv_decline {message : Option String} {errorCode : Option Nat} (inv : ledger.Inv)
    (sound : ledger.Sound (now, .decline id message errorCode)) :
    (ledger.step (now, .decline id message errorCode)).Inv := by
  cases found : ledger.endpoint.contexts[id]? with
  | none =>
    apply inv_absent ledger _ inv
    · simp only [EndpointEngine.about, silence, found, map_none]
    · exact decline_done ledger.endpoint.silence id
        (absent_of found fun context => context.executed = true)
  | some context =>
    obtain ⟨request, _, asked, client, named, there, _⟩ := request_of ledger inv found
    have about := about_context found
    cases executed : context.executed with
    | true =>
      refine inv_same ledger _ inv about found asked (fun _ same => by cases same)
        (fun _ => rfl) ?_
      exact decline_done ledger.endpoint.silence id (only_of found executed)
    | false =>
      have active := sound context found executed
      obtain ⟨waiting, _⟩ := turn_of ledger inv (mark_found found) asked active
      obtain ⟨_, spec, refuses⟩ := decline_open ledger.endpoint.silence id found executed there (by rw [client]; exact waiting.socket)
      refine inv_refused inv request.index (fun context => { context with executed := true }) about found asked active
        (fun _ same => by cases same) (fun _ => rfl)
        ⟨fun _ => rfl, fun _ => rfl, fun _ => rfl, fun _ => rfl, fun _ => rfl, fun _ _ => rfl, fun _ _ _ => rfl⟩
        (.inr (.inr ⟨rfl, executed⟩)) ?_ (named ▸ refuses)
      rw [set_same asked]
      exact client ▸ spec

theorem inv_fail {error : Thrown} (inv : ledger.Inv) (sound : ledger.Sound (now, .fail id error)) :
    (ledger.step (now, .fail id error)).Inv := by
  cases found : ledger.endpoint.contexts[id]? with
  | none =>
    apply inv_absent ledger _ inv
    · simp [EndpointEngine.about, silence, found]
    · exact fail_done ledger.endpoint.silence id (absent_of found fun context => context.finished = true)
  | some context =>
    obtain ⟨request, _, asked, _, _, _, _⟩ := request_of ledger inv found
    have about := about_context found
    cases settled : context.finished with
    | true =>
      refine inv_same ledger _ inv about found asked (fun _ same => by cases same)
        (fun _ => rfl) ?_
      exact fail_done ledger.endpoint.silence id (only_of found settled)
    | false =>
      have active := sound context found settled
      obtain ⟨waiting, _⟩ := turn_of ledger inv (mark_found found) asked active
      obtain ⟨_, spec, refuses⟩ := fail_open ledger.endpoint.silence id found
        settled asked waiting.socket
      refine inv_refused inv request.index (fun context => { context with finished := true }) about found asked active
        (fun _ same => by cases same) (fun _ => rfl)
        ⟨fun _ => rfl, fun _ => rfl, fun _ => rfl, fun _ => rfl, fun _ => rfl, fun _ executed => executed,
          fun _ implied accepted => implied accepted⟩
        (.inr (.inl rfl)) ?_ refuses
      rw [set_same asked]
      exact spec

theorem inv_finish (inv : ledger.Inv) (sound : ledger.Sound (now, .finish id)) :
    (ledger.step (now, .finish id)).Inv := by
  cases found : ledger.endpoint.contexts[id]? with
  | none =>
    apply inv_absent ledger _ inv
    · simp [EndpointEngine.about, silence, found]
    · exact finish_done ledger.endpoint.silence id
        (absent_of found fun context => context.finished = true)
  | some context =>
    obtain ⟨request, row, asked, client, named, there, _⟩ := request_of ledger inv found
    have about := about_context found
    have keeps : EndpointEngine.Keeps fun context => { context with finished := true } :=
      ⟨fun _ => rfl, fun _ => rfl, fun _ => rfl, fun _ => rfl, fun _ => rfl, fun _ executed => executed,
        fun _ implied accepted => implied accepted⟩
    cases settled : context.finished with
    | true =>
      refine inv_same ledger _ inv about found asked (fun _ same => by cases same)
        (fun _ => rfl) ?_
      exact finish_done ledger.endpoint.silence id (only_of found settled)
    | false =>
      cases replied : context.delegated || context.executed with
      | true =>
        have spec : ledger.endpoint.silence.step (now, .finish id) = _ :=
          finish_silent ledger.endpoint.silence id found settled replied
        have rests : ledger.Rests id context.mark := by
          cases threw : ledger.threw id with
          | false =>
            rcases (Bool.or_eq_true _ _).mp replied with passed | executed
            · exact .inl passed
            · exact .inr (.inl ⟨executed, threw⟩)
          | true => exact (sound context found threw).imp (fun passed => passed) .inr
        refine inv_quiet inv (fun context => { context with finished := true }) about
          found asked (fun _ same => by cases same) keeps ?_ ?_ ?_ (fun _ thrown => by cases thrown)
          (fun passed => passed) ⟨fun _ => rests, fun _ => .inr (.inr rfl)⟩ ?_ ?_
        · exact (congrArg marks spec).trans
            (marks_update ledger.endpoint id _ _ keeps.blind)
        · refine extends_silence ledger.endpoint _ ?_
          rw [spec]
          exact ⟨fun _ row there => ⟨row, there, rfl⟩, fun _ _ _ there => .inl there, fun _ request there =>
            ⟨request, there, rfl, rfl, rfl⟩⟩
        · rw [spec]
          rfl
        · exact (congrArg (fun next => written next request.clientId) spec).trans
            (written_silent ledger.endpoint.silence ledger.endpoint.silence_silent)
        · refine adds_none fun place listed => ?_
          rw [spec] at listed
          exact listed
      | false =>
        obtain ⟨kept, fresh⟩ := Bool.or_eq_false_iff.mp replied
        have active : ¬ ledger.Rests id context := by
          rintro (passed | ⟨executed, _⟩ | finished)
          · exact absurd passed (by rw [kept]; decide)
          · exact absurd executed (by rw [fresh]; decide)
          · exact absurd finished (by rw [settled]; decide)
        obtain ⟨waiting, _⟩ := turn_of ledger inv (mark_found found) asked active
        obtain ⟨_, spec, refuses⟩ := finish_open ledger.endpoint.silence id found
          settled kept fresh there (by rw [client]; exact waiting.socket)
        refine inv_refused inv request.index
          (fun context => { context with finished := true, executed := true }) about found asked active
          (fun _ same => by cases same) (fun _ => rfl)
          ⟨fun _ => rfl, fun _ => rfl, fun _ => rfl, fun _ => rfl, fun _ => rfl, fun _ _ => rfl, fun _ _ _ => rfl⟩
          (.inr (.inl rfl)) ?_ (named ▸ refuses)
        rw [set_same asked]
        exact client ▸ spec

theorem inv_accept_listed (inv : ledger.Inv) (found : ledger.endpoint.contexts[id]? = some context)
    (asked : ledger.endpoint.requests[context.request]? = some request) (fresh : context.executed = false)
    (unaccepted : context.accepted = false)
    (there : ledger.endpoint.silence.engines[context.engine]? = some (lobby, engine))
    (listed : engine.assignsCache.has context.clientId = true) : (ledger.step (now, .accept id assigns)).Inv := by
  obtain ⟨_, spec⟩ := accept_listed ledger.endpoint.silence found fresh unaccepted there listed
  have stepped : ledger.endpoint.silence.step (now, .accept id assigns) = _ := spec
  have bound := (List.getElem?_eq_some_iff.mp there).1
  have thrown : throwsNow ledger.endpoint.silence (.accept id assigns) id = true := by
    have known : ledger.endpoint.silence.contexts[id]? = some context := found
    have refused : (engine.addUser context.clientId context.newAssigns context.clientId context.requestId).thrown ≠ none := by
      intro passed
      have free := (add_user_thrown engine context.clientId context.newAssigns context.clientId
        context.requestId).mp passed
      rw [listed] at free
      cases free.1
    obtain ⟨_, failed⟩ := ne_none_iff_exists'.mp refused
    simp [throwsNow, known, fresh, acceptThrown, there, failed]
  refine inv_quiet inv (fun context => { context with executed := true })
    (about_context found) found asked (fun _ same => by cases same)
    ⟨fun _ => rfl, fun _ => rfl, fun _ => rfl, fun _ => rfl, fun _ => rfl, fun _ _ => rfl, fun _ _ _ => rfl⟩ ?_ ?_ ?_
    (fun other threw => ⟨?_, rfl⟩) (fun passed => passed) ?_ ?_ ?_
  · rw [stepped]
    exact marks_update ledger.endpoint id _ _ fun _ => rfl
  · refine extends_silence ledger.endpoint _ ?_
    rw [stepped]
    exact extends_set { engine with effects := [] } there rfl rfl rfl rfl
  · rw [stepped]
    rfl
  · have here := ((Bool.and_eq_true _ _).mp threw).1
    exact (of_decide_eq_true here).symm
  · have later : (ledger.record (now, .accept id assigns) context.request request).threw id = true := by
      simp only [record, thrown, Bool.or_true]
    have unexecuted : ¬ context.mark.executed = true := by
      change ¬ context.executed = true
      rw [fresh]
      decide
    simp only [Rests, later]
    tauto
  · rw [stepped]
    refine written_set ledger.endpoint.silence _ request.clientId context.engine
      (lobby, { engine with effects := [] }) ledger.endpoint.silence_silent bound rfl rfl
  · refine adds_none fun place still => ?_
    rw [stepped] at still
    rw [← still]
    exact (listed_set
      { engine with effects := [] } there rfl rfl).symm

theorem inv_accept_free (inv : ledger.Inv) (found : ledger.endpoint.contexts[id]? = some context)
    (asked : ledger.endpoint.requests[context.request]? = some request) (client : context.clientId = request.clientId)
    (named : context.requestId = request.requestId) (fresh : context.executed = false)
    (unaccepted : context.accepted = false) (active : ¬ ledger.Rests id context)
    (there : ledger.endpoint.silence.engines[context.engine]? = some (lobby, engine))
    (about : engine.name = request.channelName) (unlisted : engine.assignsCache.has context.clientId = false)
    (listening : engine.publisher.isClosed = false) : (ledger.step (now, .accept id assigns)).Inv := by
  have mark := mark_found found
  have bound := (List.getElem?_eq_some_iff.mp asked).1
  obtain ⟨waiting, others⟩ := turn_of ledger inv mark asked active
  have socket : ∃ cache, ledger.endpoint.silence.sockets.get? context.clientId = some cache := by
    have running : ledger.endpoint.isOpen request.clientId = true := waiting.socket
    rw [client]
    change ∃ cache, ledger.endpoint.sockets.get? request.clientId = some cache
    cases entry : ledger.endpoint.sockets.get? request.clientId with
    | none =>
      simp only [isOpen, entry] at running
      cases running
    | some cache => exact ⟨cache, rfl⟩
  obtain ⟨_, entry⟩ := socket
  obtain ⟨_, newAssigns, spec⟩ := accept_open ledger.endpoint.silence found fresh unaccepted there unlisted listening entry
  have stepped : ledger.endpoint.silence.step (now, .accept id assigns) = _ := spec
  have requests : (ledger.endpoint.silence.step (now, .accept id assigns)).requests = ledger.endpoint.requests := by
    rw [stepped]
    rfl
  have marks : (ledger.endpoint.silence.step (now, .accept id assigns)).marks =
      ledger.endpoint.marks.modify id fun context => { context with executed := true, accepted := true } := by
    rw [stepped]
    exact marks_update ledger.endpoint id _ _ fun _ => rfl
  have calm : ∀ other, throwsNow ledger.endpoint.silence (.accept id assigns) other = false := by
    intro other
    have known : ledger.endpoint.silence.contexts[id]? = some context := found
    have passed := (add_user_thrown engine context.clientId context.newAssigns context.clientId
      context.requestId).mpr ⟨unlisted, listening⟩
    simp [throwsNow, known, fresh, acceptThrown, there, passed]
  have extends_ : ledger.endpoint.Extends (ledger.endpoint.silence.step (now, .accept id assigns)) := by
    refine extends_silence ledger.endpoint _ ?_
    rw [stepped]
    exact extends_set _ there (name_act engine now _) rfl rfl
      rfl
  rw [step_about ledger (now, .accept id assigns) request (about_context found) (by rw [requests]; exact asked)]
  refine inv_carries context.request inv (carries_modify ledger (now, .accept id assigns) inv id context.mark request
    (fun context => { context with executed := true, accepted := true }) mark
    ⟨fun _ => rfl, fun _ => rfl, fun _ => rfl, fun _ => rfl, fun _ => rfl, fun _ _ => rfl, fun _ _ _ => rfl⟩ extends_ marks
    (fun other rest _ kept => by rw [requests] at kept; exact kept) (by rw [requests]) bound
    (fun _ same => by cases same) fun other thrown => by rw [calm other] at thrown; cases thrown)
    fun rest _ => .inr ⟨?_, engine.acknowledgement context.requestId, ?_, .inl ⟨rfl, ?_⟩⟩
  · refine done_modify ledger (now, .accept id assigns) id context.mark request _ mark marks others (.inr (.inl ⟨rfl, ?_⟩))
    simp only [record, unexecuted_calm ledger inv mark fresh, calm id, Bool.or_self]
  · have written : (ledger.endpoint.silence.step (now, .accept id assigns)).written request.clientId =
        [engine.acknowledgement context.requestId] := by
      rw [← client]
      refine written_add_user ledger.endpoint.silence _ now context.engine lobby engine context.clientId
        newAssigns context.requestId ledger.endpoint.silence_silent there unlisted ?_ ?_
      · rw [stepped]
      · rw [stepped]
    have answers : (engine.acknowledgement context.requestId).answers request.requestId = true := by
      simp [ChannelEvent.answers, acknowledgement, named]
    have replies : ledger.replies context.request = [] := waiting.replies
    simp only [record, if_true, replies, written, nil_append]
    rw [filter_cons, if_pos answers]
    rfl
  · have seats : ledger.endpoint.silence.seats (ledger.endpoint.silence.step (now, .accept id assigns)) request.clientId
        request.channelName = true := by
      rw [← client, ← about]
      refine seats_add_user now newAssigns context.requestId there unlisted listening ?_
      rw [stepped]
    simp only [record, if_true, seats, Bool.or_true]

theorem inv_accept (inv : ledger.Inv) (sound : ledger.Sound (now, .accept id assigns)) :
    (ledger.step (now, .accept id assigns)).Inv := by
  cases found : ledger.endpoint.contexts[id]? with
  | none =>
    apply inv_absent ledger _ inv
    · simp [EndpointEngine.about, silence, found]
    · have missing : ledger.endpoint.silence.contexts[id]? = none := found
      simp [EndpointEngine.step, EndpointEngine.accept, missing]
  | some context =>
    obtain ⟨_, row, asked, client, named, there, about⟩ := request_of ledger inv found
    cases executed : context.executed with
    | true =>
      have calm : ∀ other, throwsNow ledger.endpoint.silence (.accept id assigns) other = false := by
        intro other
        have known : ledger.endpoint.silence.contexts[id]? = some context := found
        simp [throwsNow, known, executed]
      refine inv_idle inv (about_context found) found asked (fun _ same => by cases same) calm
        (steady_accept ledger.endpoint.silence (only_of found executed)) ?_ ?_
      · apply written_silent
        simp only [EndpointEngine.step]
        rcases accept_executed ledger.endpoint.silence found executed with
          same | ⟨given, same⟩
        · rw [same]
          exact ledger.endpoint.silence_silent
        · rw [same]
          exact silent_assign _ ledger.endpoint.silence_silent
      · refine adds_none fun place listed => ?_
        simp only [EndpointEngine.step] at listed
        rcases accept_executed ledger.endpoint.silence found executed with
          same | ⟨given, same⟩
        · rw [same] at listed
          exact listed
        · rw [same] at listed
          exact listed_assign _ listed
    | false =>
      obtain ⟨active, running⟩ := sound context found executed
      have unaccepted : context.accepted = false := by
        rw [Bool.eq_false_iff]
        intro accepted
        have implied := inv.rooted.accepted id context.mark (mark_found found) accepted
        change context.executed = true at implied
        rw [executed] at implied
        cases implied
      obtain ⟨_, engine⟩ := row
      cases listed : engine.assignsCache.has context.clientId with
      | true => exact inv_accept_listed ledger inv found asked executed unaccepted there listed
      | false =>
        have listening : engine.publisher.isClosed = false := by
          rw [silence, getElem?_map] at there
          obtain ⟨old, present, same⟩ := map_eq_some_iff.mp there
          cases same
          exact running old present
        exact inv_accept_free ledger inv found asked client named executed
          unaccepted active there about listed listening

-- A step that hands a request to its next handler. The contexts there were are
-- old, with those of the request delegated.
theorem inv_handed_on (inv : ledger.Inv) {middle : EndpointEngine}
    (about : ledger.endpoint.silence.about label.2 = some id)
    (spec : ledger.endpoint.silence.step label = middle.handOn id lobby index request) (rooted : middle.Rooted)
    (silent : middle.Silent) (engines : middle.engines = ledger.endpoint.silence.engines)
    (asked : middle.requests[id]? = some request)
    (requests : ∀ (other : Nat) request, other ≠ id → middle.requests[other]? = some request →
      ledger.endpoint.requests[other]? = some request)
    (grown : ledger.endpoint.requests.length ≤ middle.requests.length) (kept : ∀ (place : Nat) mark, mark.request ≠ id →
      (middle.marks[place]? = some mark ↔ ledger.endpoint.marks[place]? = some mark))
    (passed : ∀ (place : Nat) mark, middle.marks[place]? = some mark → mark.request = id → mark.delegated = true)
    (executed : ∀ (place : Nat) mark, ledger.endpoint.marks[place]? = some mark → mark.executed = true →
      ∃ now, middle.marks[place]? = some now ∧ now.executed = true)
    (blank : ledger.replies id = [] ∧ ledger.added id = false) (socket : ledger.endpoint.isOpen request.clientId = true)
    (stays : ∀ userId, label.2 ≠ .close userId)
    (calm : ∀ other, throwsNow ledger.endpoint.silence label.2 other = false) : (ledger.step label).Inv := by
  obtain ⟨mark, marks, toward, _, _, _, fresh, _, undelegated, unfinished⟩ :=
    hand_on_marks
  obtain ⟨written, adds⟩ := hand_on_says rooted silent
  have bound := (List.getElem?_eq_some_iff.mp asked).1
  have now : (ledger.endpoint.silence.step label).requests[id]? = some { request with index := index } := by
    rw [spec]
    exact getElem?_set_self bound
  have lookup : ∀ (place : Nat) rest, (ledger.endpoint.silence.step label).marks[place]? = some rest →
      middle.marks[place]? = some rest ∨ (place = middle.marks.length ∧ rest = mark) := by
    intro place rest found
    rw [spec, marks] at found
    exact get_concat found
  have before : ∀ (place : Nat) rest, middle.marks[place]? = some rest →
      (ledger.endpoint.silence.step label).marks[place]? = some rest := by
    intro place rest found
    rw [spec, marks, List.getElem?_append_left (List.getElem?_eq_some_iff.mp found).1]
    exact found
  have quiet : ∀ place, (ledger.record label id { request with index := index }).threw place = ledger.threw place := by
    intro place
    simp [record, calm place]
  have listening : (ledger.endpoint.silence.step label).isOpen request.clientId = true :=
    open_step ledger.endpoint.silence (stays request.clientId) socket
  rw [step_about ledger label _ about now]
  refine inv_carries id inv ⟨?_, fun other rest away found => ?_, ?_, ?_, fun place rest away => ?_,
    fun place rest _ _ => quiet place, fun other away => ?_, fun userId running => ?_, fun place threw => ?_⟩
    fun rest found => .inl ⟨?_, ?_, ?_, ?_⟩
  · change (ledger.endpoint.silence.step label).Rooted
    rw [spec]
    exact hand_on_rooted rooted asked
  · change (ledger.endpoint.silence.step label).requests[other]? = some rest at found
    rw [spec] at found
    exact requests other rest away ((getElem?_set_ne (Ne.symm away)).symm.trans found)
  · change id < (ledger.endpoint.silence.step label).requests.length
    rw [spec]
    exact (length_set ..).symm ▸ bound
  · change _ ≤ (ledger.endpoint.silence.step label).requests.length
    rw [spec]
    exact (length_set ..).symm ▸ grown
  · rw [← kept place rest away]
    refine ⟨fun found => ?_, before place rest⟩
    rcases lookup place rest found with old | ⟨_, rfl⟩
    · exact old
    · exact absurd toward away
  · simp [record, if_neg away]
  · exact open_step ledger.endpoint.silence (stays userId) running
  · rw [quiet] at threw
    obtain ⟨old, present, done⟩ := inv.threw place threw
    obtain ⟨still, found, alike⟩ := executed place old present done
    exact ⟨still, before place still found, alike⟩
  · simp only [record, if_true, blank.1, nil_append]
    rw [spec, written]
    rfl
  · have same : ledger.endpoint.silence.adds (ledger.endpoint.silence.step label) request.clientId = false := by
      rw [spec, ← adds]
      simp [EndpointEngine.adds, listedAt, engines]
    simp [record, blank.2, same]
  · change (ledger.endpoint.silence.step label).requests[id]? = some rest at found
    rw [now] at found
    cases found
    exact listening
  · refine ⟨middle.marks.length, mark, ?_, toward, ?_, fun other rest away found toward => ?_⟩
    · change (ledger.endpoint.silence.step label).marks[middle.marks.length]? = some mark
      rw [spec, marks]
      exact getElem?_concat_length
    · rintro (delegated | ⟨done, _⟩ | finished)
      · rw [undelegated] at delegated
        cases delegated
      · rw [fresh] at done
        cases done
      · rw [unfinished] at finished
        cases finished
    · rcases lookup other rest found with old | ⟨last, _⟩
      · exact passed other rest old toward
      · exact absurd last away

theorem inv_next (inv : ledger.Inv) (sound : ledger.Sound (now, .next id error)) :
    (ledger.step (now, .next id error)).Inv := by
  cases found : ledger.endpoint.contexts[id]? with
  | none =>
    apply inv_absent ledger _ inv
    · simp only [EndpointEngine.about, silence, found, map_none]
    · exact delegate_none ledger.endpoint.silence found
  | some context =>
    obtain ⟨request, row, asked, _, _, there, _⟩ := request_of ledger inv found
    have about := about_context found
    have active := sound context found
    have mark := mark_found found
    obtain ⟨waiting, others⟩ := turn_of ledger inv mark asked active
    have keeps : EndpointEngine.Keeps fun context => { context with delegated := true } :=
      ⟨fun _ => rfl, fun _ => rfl, fun _ => rfl, fun _ => rfl, fun _ => rfl, fun _ executed => executed,
        fun _ implied accepted => implied accepted⟩
    cases error with
    | some =>
      obtain ⟨event, spec, refuses⟩ := delegate_error ledger.endpoint.silence found asked waiting.socket
      refine inv_refused inv request.index (fun context => { context with delegated := true }) about found asked active
        (fun _ same => by cases same) (fun _ => rfl) keeps (.inl rfl) ?_ refuses
      rw [set_same asked]
      exact spec
    | none =>
      have stepped : ledger.endpoint.silence.step (now, .next id none) =
          (ledger.endpoint.silence.updateContext id fun context => { context with delegated := true }).runNext
            context.request := by
        have known : ledger.endpoint.silence.contexts[id]? = some context := found
        simp only [EndpointEngine.step, delegate, known]
      rcases run_next_spec
          (ledger.endpoint.silence.updateContext id fun context => { context with delegated := true }) context.request asked waiting.socket with ⟨index, event, spec, refuses⟩ | ⟨lobby, index, spec⟩
      · exact inv_refused inv index (fun context => { context with delegated := true })
          about found asked active (fun _ same => by cases same) (fun _ => rfl) keeps (.inl rfl) (stepped.trans spec)
          refuses
      have marks : (ledger.endpoint.silence.updateContext id fun context =>
          { context with delegated := true }).marks =
            ledger.endpoint.marks.modify id fun context => { context with delegated := true } :=
        marks_update ledger.endpoint id _ _ keeps.blind
      have lookup : ∀ (place : Nat), (ledger.endpoint.silence.updateContext id fun context =>
          { context with delegated := true }).marks[place]? =
            (ledger.endpoint.marks[place]?).map fun mark =>
              if id = place then { mark with delegated := true } else mark := by
        intro place
        rw [marks, getElem?_modify]
        rfl
      refine inv_handed_on ledger _ inv about (stepped.trans spec) ?_
        ⟨rfl, ledger.endpoint.silence_silent.effects⟩ rfl asked (fun _ _ _ known => known) (Nat.le_refl _)
        (fun place mark' away => ?_) (fun place mark' present toward => ?_) (fun place mark' present executed => ?_)
        ⟨waiting.replies, waiting.added⟩ waiting.socket (fun _ same => by cases same) (fun _ => rfl)
      · refine rooted_modify inv.rooted (extends_silence _ _ ?_) id keeps marks
        exact ⟨fun _ row there => ⟨row, there, rfl⟩, fun _ _ _ there => .inl there, fun _ request there =>
          ⟨request, there, rfl, rfl, rfl⟩⟩
      · rw [lookup]
        by_cases same : id = place
        · subst same
          rw [mark, map_some, if_pos rfl]
          constructor
          · intro eq
            cases eq
            exact absurd rfl away
          · intro eq
            cases eq
            exact absurd rfl away
        · simp [same]
      · rw [lookup, map_eq_some_iff] at present
        obtain ⟨old, was, rfl⟩ := present
        by_cases same : id = place
        · rw [if_pos same]
        · rw [if_neg same] at toward ⊢
          exact others place old (Ne.symm same) was toward
      · rw [lookup, present, map_some]
        refine ⟨_, rfl, ?_⟩
        split <;> exact executed

theorem inv_join_unmatched (inv : ledger.Inv) {event : ChannelEvent}
    (about : ledger.endpoint.silence.about label.2 = some ledger.endpoint.requests.length)
    (spec : ledger.endpoint.silence.step label = { ledger.endpoint.silence with
      requests := (ledger.endpoint.requests ++ [request]).set ledger.endpoint.requests.length { request with index := index }
      sent := [(request.clientId, event)] }) (refuses : EndpointEngine.Refuses event request.requestId)
    (stays : ∀ userId, label.2 ≠ .close userId)
    (calm : ∀ other, throwsNow ledger.endpoint.silence label.2 other = false) : (ledger.step label).Inv := by
  have bound : ledger.endpoint.requests.length < (ledger.endpoint.requests ++ [request]).length := by simp
  have now : (ledger.endpoint.silence.step label).requests[ledger.endpoint.requests.length]? =
      some { request with index := index } := by
    rw [spec]
    exact getElem?_set_self bound
  have others : ∀ (other : Nat) known, other ≠ ledger.endpoint.requests.length →
      ((ledger.endpoint.silence.step label).requests[other]? = some known ↔
        ledger.endpoint.requests[other]? = some known) := by
    intro other known away
    rw [spec]
    rw [getElem?_set_ne (Ne.symm away)]
    refine ⟨fun found => ?_, fun found =>
      (List.getElem?_append_left (List.getElem?_eq_some_iff.mp found).1).trans found⟩
    rcases get_concat found with old | ⟨last, _⟩
    · exact old
    · exact absurd last away
  have marks : (ledger.endpoint.silence.step label).marks = ledger.endpoint.marks := by
    rw [spec]
    rfl
  have rooted : (ledger.endpoint.silence.step label).Rooted := by
    refine rooted_modify inv.rooted (extends_silence _ _ ?_) 0 keeps_id ?_
    · refine ⟨fun place row there => ⟨row, by rw [spec]; exact there, rfl⟩, fun lobby name id there => .inl ?_,
        fun id known there => ⟨known, ?_, rfl, rfl, rfl⟩⟩
      · rw [spec] at there
        exact there
      · have away : id ≠ ledger.endpoint.requests.length := Nat.ne_of_lt (List.getElem?_eq_some_iff.mp there).1
        exact (others id known away).mpr there
    · rw [marks]
      exact (modify_id 0 ledger.endpoint.marks).symm
  have quiet : ∀ place, (ledger.record label ledger.endpoint.requests.length { request with index := index }).threw place =
      ledger.threw place := by
    intro place
    simp only [record, calm place, Bool.or_false]
  rw [step_about ledger label _ about now]
  refine inv_carries ledger.endpoint.requests.length inv
    ⟨rooted, fun other known away => (others other known away).mp, ?_, ?_, fun place rest _ => ?_,
      fun place rest _ _ => quiet place, fun other away => ?_, fun userId running => ?_, fun place threw => ?_⟩
    fun rest _ => .inr ⟨fun place rest found toward => ?_, event, ?_, .inr ⟨refuses.event, refuses.action, ?_⟩⟩
  · exact (List.getElem?_eq_some_iff.mp now).1
  · change _ ≤ (ledger.endpoint.silence.step label).requests.length
    rw [spec]
    simp
  · change (ledger.endpoint.silence.step label).marks[place]? = some rest ↔ _
    rw [marks]
  · simp only [record, if_neg away, and_self]
  · exact open_step ledger.endpoint.silence (stays userId) running
  · rw [quiet] at threw
    change ∃ mark, (ledger.endpoint.silence.step label).marks[place]? = some mark ∧ mark.executed = true
    rw [marks]
    exact inv.threw place threw
  · change (ledger.endpoint.silence.step label).marks[place]? = some rest at found
    rw [marks] at found
    obtain ⟨_, _, asked, _⟩ := inv.rooted.contexts place rest found
    rw [toward] at asked
    exact absurd (List.getElem?_eq_some_iff.mp asked).1 (Nat.lt_irrefl _)
  · have written : (ledger.endpoint.silence.step label).written request.clientId = [event] := by
      apply written_sent
      · rw [spec]
      · rw [spec]
        exact ledger.endpoint.silence_silent.effects
    have answers : event.answers request.requestId = true := by
      simp [ChannelEvent.answers, refuses.requestId, refuses.action]
    simp only [record, if_true, (inv.blank _ (Nat.le_refl _)).1, written, nil_append]
    rw [filter_cons, if_pos answers]
    rfl
  · have unchanged : ledger.endpoint.silence.adds (ledger.endpoint.silence.step label) request.clientId = false := by
      apply adds_none
      intro place listed
      rw [spec] at listed
      exact listed
    simp only [record, if_true, (inv.blank _ (Nat.le_refl _)).2, unchanged, Bool.or_self]

theorem inv_join {channelName requestId : String} (inv : ledger.Inv) :
    (ledger.step (now, .join clientId channelName requestId)).Inv := by
  cases listening : ledger.endpoint.silence.isOpen clientId with
  | false =>
    apply inv_absent ledger _ inv
    · simp only [EndpointEngine.about, listening, Bool.false_eq_true, if_false]
    simp only [EndpointEngine.step, joinChannel]
    simp only [isOpen] at listening
    split
    · rfl
    rename_i cache entry
    rw [entry] at listening
    exact if_pos (by simpa using listening)
  | true =>
    have about : ledger.endpoint.silence.about (.join clientId channelName requestId) =
        some ledger.endpoint.requests.length := by
      simp only [EndpointEngine.about, listening, if_true]
      rfl
    have stepped : ∃ request : JoinRequest, request.clientId = clientId ∧
        ledger.endpoint.silence.step (now, .join clientId channelName requestId) =
          ({ ledger.endpoint.silence with requests := ledger.endpoint.requests ++ [request] } : EndpointEngine).runNext
            ledger.endpoint.requests.length := by
      simp only [EndpointEngine.step, joinChannel]
      simp only [isOpen] at listening
      split
      · rename_i missing
        rw [missing] at listening
        cases listening
      rename_i cache entry
      rw [entry] at listening
      refine ⟨⟨clientId, channelName, .supplied requestId, cache.assigns, 0⟩, rfl, ?_⟩
      exact if_neg (by simpa using listening)
    obtain ⟨request, client, spec⟩ := stepped
    subst client
    have asked : (ledger.endpoint.requests ++ [request])[ledger.endpoint.requests.length]? = some request :=
      getElem?_concat_length
    have older : ∀ (place : Nat) mark, ledger.endpoint.marks[place]? = some mark →
        mark.request ≠ ledger.endpoint.requests.length := by
      intro place mark found
      obtain ⟨known, _, present, _⟩ := inv.rooted.contexts place mark found
      exact Nat.ne_of_lt (List.getElem?_eq_some_iff.mp present).1
    rcases run_next_spec
        ({ ledger.endpoint.silence with requests := ledger.endpoint.requests ++ [request] } : EndpointEngine)
        ledger.endpoint.requests.length asked listening with ⟨index, event, ran, refuses⟩ | ⟨lobby, index, ran⟩
    · exact inv_join_unmatched ledger _ inv about (spec.trans ran) refuses (fun _ same => by cases same) fun _ => rfl
    refine inv_handed_on ledger _ inv about (spec.trans ran) ?_
      ⟨rfl, ledger.endpoint.silence_silent.effects⟩ rfl asked (fun other known away found => ?_) ?_
      (fun _ _ _ => Iff.rfl) (fun place mark found toward => absurd toward (older place mark found))
      (fun place mark found executed => ⟨mark, found, executed⟩) (inv.blank _ (Nat.le_refl _)) listening
      (fun _ same => by cases same) fun _ => rfl
    · refine rooted_modify inv.rooted (extends_silence _ _ ?_) 0 keeps_id (modify_id 0 ledger.endpoint.marks).symm
      exact ⟨fun _ row there => ⟨row, there, rfl⟩, fun _ _ _ there => .inl there, fun _ known there =>
        ⟨known, (List.getElem?_append_left (List.getElem?_eq_some_iff.mp there).1).trans there, rfl, rfl, rfl⟩⟩
    · rcases get_concat found with old | ⟨last, _⟩
      · exact old
      · exact absurd last away
    · simp

theorem steady_other (inv : ledger.Inv) (sound : ledger.Sound label)
    (about : ledger.endpoint.silence.about label.2 = none)
    (steady : ledger.endpoint.silence.Steady (ledger.endpoint.silence.step label)) : (ledger.step label).Inv := by
  refine inv_steady ledger label inv about steady fun id request asked waiting => ?_
  refine open_step ledger.endpoint.silence (fun closes => ?_) waiting.socket
  obtain ⟨place, _, there, toward, active, _⟩ := waiting.turn
  obtain ⟨context, found, rfl⟩ := mark_back there
  obtain ⟨known, _, present, client, _⟩ := request_of ledger inv found
  have same : known = request := by
    change context.request = id at toward
    rw [toward, asked] at present
    exact (some.inj present).symm
  rw [Sound, closes] at sound
  exact active (sound place context found (client.trans (congrArg JoinRequest.clientId same)))

theorem inv_step (inv : ledger.Inv) (sound : ledger.Sound label) :
    (ledger.step label).Inv := by
  obtain ⟨now, op⟩ := label
  cases op with
  | connect => exact steady_other ledger _ inv sound rfl (steady_connect _)
  | join => exact inv_join ledger inv
  | leave => exact steady_other ledger _ inv sound rfl (steady_leave _)
  | close => exact steady_other ledger _ inv sound rfl (steady_close _)
  | accept => exact inv_accept ledger inv sound
  | decline => exact inv_decline ledger inv sound
  | assign id assigns =>
    refine steady_other ledger _ inv sound rfl ?_
    simp only [EndpointEngine.step]
    split
    · exact steady_refl _
    · exact steady_assign _ now id _ assigns
  | next => exact inv_next ledger inv sound
  | finish => exact inv_finish ledger inv sound
  | fail => exact inv_fail ledger inv sound
  | call =>
    refine steady_other ledger _ inv sound rfl ?_
    simp only [EndpointEngine.step]
    split
    · exact steady_perform _
    · exact steady_refl _

theorem start_inv {path : String} {backend : Option DistributedBackend} {uuid : Nat → NodeId}
    {patterns : List (String → Bool)} : (start path backend uuid patterns).Inv := by
  refine ⟨⟨fun lobby name id there => ?_, fun id mark there => ?_, fun id mark there => ?_⟩, fun id request there => ?_,
    fun _ _ => ⟨rfl, rfl⟩, fun id threw => ?_⟩
  · simp only [start, EndpointEngine.new, EndpointEngine.held, getElem?_map] at there
    cases entry : patterns[lobby]? with
    | none | some =>
      rw [entry] at there
      cases there
  · cases there
  · cases there
  · cases there
  · cases threw

theorem answers_once_while_sound (path : String) (backend : Option DistributedBackend) (uuid : Nat → NodeId)
    (patterns : List (String → Bool)) (labels : List (Nat × EndpointOp))
    (follows : Follows step Sound (start path backend uuid patterns) labels) :
    Always step AnswersOnce (start path backend uuid patterns) labels :=
  always_mono step Inv AnswersOnce inv_answers _ labels (always_of_follows step Sound Inv inv_step _ start_inv follows)

theorem answers_accepted_once :
    Always step AnswersOnce (start "/ws" none (fun _ => "n") [fun _ => true])
      [(0, .connect "c" .empty), (0, .join "c" "room" "r"), (0, .accept 0 none), (0, .finish 0)] := by
  refine answers_once_while_sound "/ws" none (fun _ => "n") [fun _ => true] _
    ⟨trivial, trivial, fun context found _ => ?_, fun context found threw => ?_, trivial⟩
  · cases found
    refine ⟨?_, fun row there => ?_⟩
    · rintro (delegated | ⟨executed, _⟩ | finished)
      · cases delegated
      · cases executed
      · cases finished
    · cases there
      rfl
  · cases threw

theorem accept_then_throw_answers_twice :
    ¬ Always step AnswersOnce (start "/ws" none (fun _ => "n") [fun _ => true])
      [(0, .connect "c" .empty), (0, .join "c" "room" "r"), (0, .accept 0 none), (0, .fail 0 (.error "x"))] := by
  intro always
  have once := always.2.2.2.2.once 0 (by decide)
  exact absurd once (by decide)

end ReplyLedger

end PondSocket.Js
