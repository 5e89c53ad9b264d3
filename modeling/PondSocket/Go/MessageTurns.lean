import PondSocket.Go.MessageOrder

namespace PondSocket.Go

open Library Option Rooms Channel Request
open Js (UserId NodeId)

variable {entry : Room} {userId : UserId} {rooms : Rooms}

namespace Rooms

theorem one_room (housed : rooms.Housed userId) {place other : Nat} {room : Room}
    (here : rooms.rooms[place]? = some entry) (there : rooms.rooms[other]? = some room) (same : room.name = entry.name)
    (inside : entry.Holds userId) (holds : room.Holds userId) : place = other := by
  obtain ⟨first, _⟩ := housed_named rooms housed here inside
  obtain ⟨second, _⟩ := housed_named rooms housed there holds
  rw [same, first] at second
  exact some.inj second

end Rooms

namespace MessageRun

variable (run : MessageRun) (handler : MessageHandler)

variable (choice : Choice)

variable {room : Nat} {name : String}

theorem in_elsewhere {op : ChannelOp} (there : rooms.rooms[room]? = some entry) (other : name ≠ entry.name) :
    In (rooms.perform room op) userId name ↔ In rooms userId name := by
  have apart : ∀ (place : Nat) (before : Room), rooms.rooms[place]? = some before → before.name = name → room ≠ place := by
    intro place before held named same
    rw [← same, there] at held
    rw [← named, ← some.inj held] at other
    exact other rfl
  constructor
  · intro inside
    obtain ⟨place, after, held, named, holds⟩ := inside
    obtain ⟨before, found, same, channel⟩ := perform_back held
    have called := same.symm.trans named
    rw [if_neg (apart place before found called)] at channel
    refine ⟨place, before, found, called, ?_⟩
    rw [Room.Holds, channel] at holds
    exact holds
  · intro inside
    obtain ⟨place, before, held, named, holds⟩ := inside
    obtain ⟨after, found, same, channel⟩ := perform_there held
    rw [if_neg (apart place before held named)] at channel
    refine ⟨place, after, found, same.trans named, ?_⟩
    rw [Room.Holds, channel]
    exact holds

theorem in_entered {op : ChannelOp} (there : rooms.rooms[room]? = some entry)
    (holds : (entry.channel.act op).memberships.has userId = true) : In (rooms.perform room op) userId entry.name := by
  obtain ⟨after, found, same, channel⟩ := perform_there there
  refine ⟨room, after, found, same, ?_⟩
  rw [Room.Holds, channel, if_pos rfl]
  exact holds

theorem in_left {reason : String} (housed : rooms.Housed userId) (there : rooms.rooms[room]? = some entry)
    (only : In rooms userId entry.name → entry.Holds userId) :
    ¬ In (rooms.perform room (.removeUser userId reason)) userId entry.name := by
  intro inside
  obtain ⟨place, _, held, named, holds⟩ := inside
  obtain ⟨before, found, same, channel⟩ := perform_back held
  have called := same.symm.trans named
  rw [Room.Holds, channel] at holds
  by_cases here : room = place
  · rw [← here, there] at found
    cases found
    rw [if_pos here] at holds
    have fit := housed.fit room entry there
    have out := departs userId reason fit.seated
    cases done : entry.channel.done with
    | false => exact Bool.false_ne_true ((out.gone done).symm.trans holds)
    | true =>
      have still : entry.channel.removeUser userId reason = (entry.channel, some .shuttingDown) := by
        simp [Channel.removeUser, checkState, done]
      simp only [Channel.act, still] at holds
      exact fit.absent done holds
  · rw [if_neg here] at holds
    have inside := only ⟨place, before, found, called, holds⟩
    exact here (one_room housed there found called inside holds)

theorem broadcast_delivered {channel : Channel} {choice : Choice} (seated : channel.Seated)
    (running : channel.done = false) (holds : channel.memberships.has userId = true) :
    broadcast channel userId choice = .delivered := by
  have state : channel.checkState = none := by
    simp [checkState, running]
  have present : channel.store.has userId = true := (seated.matched userId).1.trans holds
  simp only [broadcast, state, getUserUnsafe]
  cases read : channel.store.read userId with
  | ok => rfl
  | error =>
    have absent := channel.store.read_error read
    exact absurd (absent.symm.trans present) Bool.false_ne_true

theorem standing_idle (handled : List Handled) (entry : Handled) (name : String) (joins : ¬ entry.Joins name)
    (leaves : ¬ entry.Leaves name) : standing (handled ++ [entry]) name = standing handled name := by
  rw [standing_concat, if_neg joins, if_neg leaves]

inductive Turns (run : MessageRun) (handler : MessageHandler) (next : Rooms) : Progress → Prop
  | goes (stage : HandlerStage) (housed : next.Housed run.user.id) (listed : next.Listed)
      (passes : Rooms.Passes run.rooms next run.user.id)
      (fits : StageFits { run with rooms := next } { handler with stage := stage }) : Turns run handler next (.goes stage)
  | ends (outcome : Outcome) (housed : next.Housed run.user.id) (listed : next.Listed) (stay : Stay run.rooms next)
      (stands : ∀ name, standing (run.handled ++ [⟨handler.index, handler.request, outcome⟩]) name = true ↔
        In next run.user.id name)
      (heard : ∀ name, Handled.Refused ⟨handler.index, handler.request, outcome⟩ name →
        standing run.handled name = false) : Turns run handler next (.ends outcome)

variable {run handler}

variable {outcome : Outcome}

theorem turns_idle {next : Rooms} (lined : run.Lined) (housed : next.Housed run.user.id) (listed : next.Listed)
    (passes : Rooms.Passes run.rooms next run.user.id) (joins : outcome ≠ .accepted)
    (leaves : handler.request.action ≠ .leaveChannel) (heard : handler.request.action ≠ .broadcast) :
    run.Turns handler next (.ends outcome) := by
  refine Turns.ends outcome housed listed (stay_passes next run.user.id passes) ?_ ?_
  · intro name
    rw [standing_idle, lined.stands name]
    · exact (in_passes next run.user.id passes name).symm
    · exact fun accepted => joins accepted.2
    · exact fun leave => leaves (congrArg action leave)
  · exact fun name refused => absurd (congrArg action refused.1) heard

theorem turns_still {stage : HandlerStage} (lined : run.Lined)
    (fits : run.StageFits { handler with stage := stage }) : run.Turns handler run.rooms (.goes stage) :=
  Turns.goes stage lined.housed lined.listed (housed_same lined.housed).2 fits

theorem turns_join (lined : run.Lined) (action : handler.request.action = .joinChannel) :
    run.Turns handler (run.joinChannel handler.request.channelName choice).1
      (run.joinChannel handler.request.channelName choice).2 := by
  have passes := (housed_same lined.housed).2
  have stays : handler.request.action ≠ .leaveChannel := by
    rw [action]
    exact RequestAction.noConfusion
  have silent : handler.request.action ≠ .broadcast := by
    rw [action]
    exact RequestAction.noConfusion
  simp only [joinChannel]
  cases run.lobbyOf handler.request.channelName with
  | none => exact turns_idle lined lined.housed lined.listed passes Outcome.noConfusion stays silent
  | some lobby =>
    dsimp only
    cases found : run.rooms.lobbies.get? (lobby, handler.request.channelName) with
    | some room => exact turns_still lined ⟨action, lined.listed.lobbies _ room found⟩
    | none =>
      by_cases locked : run.rooms.locked lobby
      · rw [if_pos locked]
        exact turns_still lined trivial
      rw [if_neg locked]
      obtain ⟨housed, created⟩ := housed_create lobby handler.request.channelName choice.nodeId
        run.distributed run.heartbeatTimeout lined.housed
      have listed := listed_create lobby handler.request.channelName choice.nodeId
        run.distributed run.heartbeatTimeout lined.housed lined.listed
      refine Turns.goes _ housed listed created ⟨action, ?_⟩
      have free : ¬ (run.rooms.locked lobby = true ∨ run.rooms.lobbies.has (lobby, handler.request.channelName) = true) := by
        intro either
        rcases either with busy | known
        · exact locked busy
        · exact Bool.false_ne_true ((OrderedMap.has_false_iff.mpr found).symm.trans known)
      simp only [create, if_neg free]
      exact ⟨_, List.getElem?_concat_length, rfl⟩

theorem turns_read {stage : Nat → HandlerStage} (lined : run.Lined)
    (absent : run.rooms.endpoint.get? handler.request.channelName = none → run.Turns handler run.rooms (.ends .notFound))
    (fits : ∀ room entry, run.rooms.rooms[room]? = some entry → entry.name = handler.request.channelName →
      run.StageFits { handler with stage := stage room }) :
    run.Turns handler (run.readChannel handler.request.channelName stage).1
      (run.readChannel handler.request.channelName stage).2 := by
  simp only [readChannel]
  cases found : run.rooms.endpoint.get? handler.request.channelName with
  | none => exact absent found
  | some room =>
    obtain ⟨entry, there, named⟩ := lined.listed.endpoint _ room found
    exact turns_still lined (fits room entry there named)

theorem standing_known (lined : run.Lined) (absent : run.rooms.endpoint.get? name = none) :
    standing run.handled name = false := by
  apply Bool.eq_false_iff.mpr
  intro stands
  obtain ⟨_, _, held, called, holds⟩ := (lined.stands name).mp stands
  obtain ⟨known, _⟩ := housed_named run.rooms lined.housed held holds
  rw [called, absent] at known
  cases known

theorem turns_left {next : Rooms} (lined : run.Lined) (action : handler.request.action = .leaveChannel)
    (housed : next.Housed run.user.id) (listed : next.Listed) (stay : Stay run.rooms next)
    (gone : ¬ In next run.user.id handler.request.channelName)
    (others : ∀ name, name ≠ handler.request.channelName → (In next run.user.id name ↔ In run.rooms run.user.id name)) :
    run.Turns handler next (.ends outcome) := by
  have whole : Handled.Leaves ⟨handler.index, handler.request, outcome⟩ handler.request.channelName := by
    rw [Handled.Leaves, ← action]
  refine Turns.ends outcome housed listed stay ?_ ?_
  · intro name
    have joins : ¬ Handled.Joins ⟨handler.index, handler.request, outcome⟩ name := by
      intro joined
      exact RequestAction.noConfusion (action.symm.trans (congrArg Request.action joined.1))
    rw [standing_concat, if_neg joins]
    by_cases own : name = handler.request.channelName
    · rw [own, if_pos whole]
      exact ⟨fun stands => (nomatch stands), fun inside => absurd inside gone⟩
    have stays : ¬ Handled.Leaves ⟨handler.index, handler.request, outcome⟩ name := by
      exact fun leave => own (congrArg channelName leave).symm
    rw [if_neg stays, lined.stands name]
    exact (others name own).symm
  · intro name refused
    exact RequestAction.noConfusion (action.symm.trans (congrArg Request.action refused.1))

theorem turns_sent (lined : run.Lined) (action : handler.request.action = .broadcast) (joins : outcome ≠ .accepted)
    (refused : (outcome = .notFound ∨ ∃ failure, outcome = .rejected failure) →
      standing run.handled handler.request.channelName = false) : run.Turns handler run.rooms (.ends outcome) := by
  refine Turns.ends outcome lined.housed lined.listed (fun _ before there => ⟨before, there, rfl⟩) ?_ ?_
  · intro name
    rw [standing_idle, lined.stands name]
    · exact fun accepted => joins accepted.2
    · exact fun leave => RequestAction.noConfusion (action.symm.trans (congrArg Request.action leave))
  intro name heard
  have named : handler.request.channelName = name := congrArg channelName heard.1
  rw [← named]
  exact refused heard.2

theorem turns_start (lined : run.Lined) (stage : handler.stage = .start) :
    run.Turns handler (run.handleMessage handler.request choice handler.stage).1
      (run.handleMessage handler.request choice handler.stage).2 := by
  rw [stage]
  simp only [handleMessage]
  cases action : handler.request.action with
  | joinChannel => exact turns_join choice lined action
  | leaveChannel =>
    apply turns_read lined
    · intro absent
      have gone := standing_known lined absent
      apply turns_left lined action lined.housed lined.listed
      · exact fun _ before there => ⟨before, there, rfl⟩
      · exact fun inside => Bool.false_ne_true (gone.symm.trans ((lined.stands _).mpr inside))
      · exact fun _ _ => Iff.rfl
    · exact fun room entry there named => ⟨action, entry, there, named⟩
  | broadcast =>
    apply turns_read lined
    · intro absent
      exact turns_sent lined action Outcome.noConfusion fun _ => standing_known lined absent
    · exact fun room entry there named => ⟨action, entry, there, named⟩
  | unsupported =>
    apply turns_idle lined lined.housed lined.listed
    · exact (housed_same lined.housed).2
    · exact Outcome.noConfusion
    · exact fun leave => RequestAction.noConfusion (action.symm.trans leave)
    · exact fun sends => RequestAction.noConfusion (action.symm.trans sends)

theorem turns_registering (lined : run.Lined) (fits : run.StageFits { handler with stage := .registering room }) :
    run.Turns handler (run.register room).1 (run.register room).2 := by
  obtain ⟨action, entry, there, named⟩ := fits
  obtain ⟨housed, passes⟩ := housed_register room lined.housed
  have listed := listed_register room lined.housed lined.listed
  obtain ⟨after, found, same, _⟩ := passes.forth room entry there
  simp only [register, found]
  by_cases stored : after.registration = .stored
  · rw [if_pos stored]
    exact Turns.goes (.joining room) housed listed passes ⟨action, after, found, same.trans named⟩
  rw [if_neg stored]
  apply turns_idle lined housed listed passes Outcome.noConfusion
  · exact fun leave => RequestAction.noConfusion (action.symm.trans leave)
  · exact fun sends => RequestAction.noConfusion (action.symm.trans sends)

theorem turns_entered (lined : run.Lined) (action : handler.request.action = .joinChannel)
    (there : run.rooms.rooms[room]? = some entry) (named : entry.name = handler.request.channelName)
    (housed : (run.rooms.perform room (.addUser run.user)).Housed run.user.id)
    (holds : (entry.channel.act (.addUser run.user)).memberships.has run.user.id = true) :
    run.Turns handler (run.rooms.perform room (.addUser run.user)) (.ends .accepted) := by
  refine Turns.ends .accepted housed (listed_perform lined.listed) stay_perform ?_ ?_
  · intro name
    rw [standing_concat]
    by_cases own : name = handler.request.channelName
    · have joins : Handled.Joins ⟨handler.index, handler.request, .accepted⟩ name := by
        rw [Handled.Joins, own, ← action]
        exact ⟨rfl, rfl⟩
      rw [if_pos joins, own, ← named]
      exact ⟨fun _ => in_entered there holds, fun _ => rfl⟩
    have joins : ¬ Handled.Joins ⟨handler.index, handler.request, .accepted⟩ name := by
      exact fun joined => own (congrArg channelName joined.1).symm
    have stays : ¬ Handled.Leaves ⟨handler.index, handler.request, .accepted⟩ name := by
      exact fun leave => RequestAction.noConfusion (action.symm.trans (congrArg Request.action leave))
    rw [if_neg joins, if_neg stays, lined.stands name]
    exact (in_elsewhere there (named ▸ own)).symm
  · intro name refused
    exact RequestAction.noConfusion (action.symm.trans (congrArg Request.action refused.1))

theorem turns_joining {choice : Choice} (lined : run.Lined)
    (fits : run.StageFits { handler with stage := .joining room })
    (registered : ∀ entry, run.rooms.rooms[room]? = some entry → entry.registration ≠ .pending) :
    run.Turns handler (run.answer room choice).1 (run.answer room choice).2 := by
  obtain ⟨action, entry, there, named⟩ := fits
  have stays : handler.request.action ≠ .leaveChannel := fun leave => RequestAction.noConfusion (action.symm.trans leave)
  have silent : handler.request.action ≠ .broadcast := fun sends => RequestAction.noConfusion (action.symm.trans sends)
  simp only [answer, there]
  cases choice.decision with
  | decline =>
    apply turns_idle lined lined.housed lined.listed _ Outcome.noConfusion stays silent
    exact (housed_same lined.housed).2
  | accept =>
    have housed := housed_add room run.user lined.housed fun _ => registered
    cases enters entry.channel (lined.housed.fit room entry there).seated with
    | refused _ same =>
      rw [same]
      apply turns_idle lined housed _ _ Outcome.noConfusion stays silent
      · exact listed_perform lined.listed
      apply passes_perform
      intro other held
      rw [there] at held
      rw [← some.inj held]
      simp only [Channel.act, same]
      exact Iff.rfl
    | entered _ accepted _ _ members =>
      rw [accepted]
      exact turns_entered lined action there named housed ((members run.user.id).mpr (.inl rfl))

theorem current_holds (lined : run.Lined) (there : run.rooms.rooms[room]? = some entry)
    (current : run.rooms.endpoint.get? name = some room ∨ ¬ In run.rooms run.user.id name)
    (inside : In run.rooms run.user.id name) : entry.Holds run.user.id := by
  have known := current.resolve_right (not_not_intro inside)
  obtain ⟨_, _, held, called, holds⟩ := inside
  obtain ⟨named, _⟩ := housed_named run.rooms lined.housed held holds
  rw [called, known] at named
  rw [← some.inj named, there] at held
  rw [some.inj held]
  exact holds

theorem turns_leaving (lined : run.Lined) (fits : run.StageFits { handler with stage := .leaving room })
    (current : run.rooms.endpoint.get? handler.request.channelName = some room ∨
      ¬ In run.rooms run.user.id handler.request.channelName) :
    run.Turns handler (run.leaveChannel room).1 (run.leaveChannel room).2 := by
  obtain ⟨action, _, there, named⟩ := fits
  dsimp only at action named
  simp only [leaveChannel, there]
  apply turns_left lined action
  · exact housed_remove room run.user.id "explicit_leave" lined.housed
  · exact listed_perform lined.listed
  · exact stay_perform
  · rw [← named]
    apply in_left lined.housed there
    intro inside
    rw [named] at inside
    exact current_holds lined there current inside
  · intro name other
    exact in_elsewhere there (named ▸ other)

theorem turns_sending {choice : Choice} (lined : run.Lined)
    (fits : run.StageFits { handler with stage := .sending room })
    (current : run.rooms.endpoint.get? handler.request.channelName = some room ∨
      ¬ In run.rooms run.user.id handler.request.channelName) :
    run.Turns handler (run.sendMessage room choice).1 (run.sendMessage room choice).2 := by
  obtain ⟨action, entry, there, named⟩ := fits
  dsimp only at action named
  have fit := lined.housed.fit room entry there
  have delivered : standing run.handled handler.request.channelName = true →
      broadcast entry.channel run.user.id choice = .delivered := by
    intro stands
    have holds := current_holds lined there current ((lined.stands _).mp stands)
    obtain ⟨_, running⟩ := housed_named run.rooms lined.housed there holds
    exact broadcast_delivered fit.seated running holds
  have refused : broadcast entry.channel run.user.id choice ≠ .accepted := by
    simp only [broadcast]
    repeat' split
    all_goals exact Outcome.noConfusion
  simp only [sendMessage, there]
  apply turns_sent lined action refused
  intro bad
  apply Bool.eq_false_iff.mpr
  intro stands
  rw [delivered stands] at bad
  rcases bad with missing | ⟨_, rejected⟩
  · cases missing
  · cases rejected

theorem handler_turns (lined : run.Lined) (fits : run.StageFits handler) (current : run.Current handler) :
    run.Turns handler (run.handleMessage handler.request choice handler.stage).1
      (run.handleMessage handler.request choice handler.stage).2 := by
  cases stage : handler.stage with
  | start =>
    rw [← stage]
    exact turns_start choice lined stage
  | registering room =>
    have same : handler = { handler with stage := .registering room } := by rw [← stage]
    rw [same] at fits
    exact turns_registering lined fits
  | joining room =>
    have same : handler = { handler with stage := .joining room } := by rw [← stage]
    rw [same] at fits current
    exact turns_joining lined fits current
  | leaving room =>
    have same : handler = { handler with stage := .leaving room } := by rw [← stage]
    rw [same] at fits current
    exact turns_leaving lined fits current
  | sending room =>
    have same : handler = { handler with stage := .sending room } := by rw [← stage]
    rw [same] at fits current
    exact turns_sending lined fits current

theorem reads_goes (reads : run.Reads handler) :
    ∃ stage, (run.handleMessage handler.request choice handler.stage).2 = .goes stage := by
  unfold Reads at reads
  cases stage : handler.stage with
  | start =>
    rw [stage] at reads
    cases action : handler.request.action with
    | joinChannel =>
      simp only [action] at reads
      simp only [handleMessage, action, joinChannel]
      cases its : run.lobbyOf handler.request.channelName with
      | none => exact absurd its reads
      | some =>
        dsimp only
        split
        · exact ⟨_, rfl⟩
        split
        · exact ⟨_, rfl⟩
        · exact ⟨_, rfl⟩
    | leaveChannel | broadcast =>
      simp only [action] at reads
      obtain ⟨room, found⟩ := OrderedMap.has_iff.mp reads
      simp only [handleMessage, action, readChannel, found]
      exact ⟨_, rfl⟩
    | unsupported => simp only [action] at reads
  | registering room =>
    rw [stage] at reads
    obtain ⟨entry, there, pending, free⟩ := reads
    have stored : (run.rooms.register room).rooms[room]? = some { entry with registration := .stored } := by
      simp only [Rooms.register, there, pending, free, ne_eq, not_true_eq_false, if_false, Bool.false_eq_true]
      rw [update_there run.rooms room room _ entry there, if_pos rfl]
    simp only [handleMessage, register, stored, if_true]
    exact ⟨_, rfl⟩
  | joining room | leaving room | sending room =>
    rw [stage] at reads
    exact absurd reads not_false

end MessageRun

end PondSocket.Go
