import PondSocket.Library.Run
import PondSocket.Go.MessageTurns

namespace PondSocket.Go

open Library List Rooms
open Js (UserId NodeId)

namespace MessageRun

theorem lined_new (user : Transport) (lobbyOf : String → Option Nat) (distributed : Bool) (heartbeatTimeout : Nat)
    (maxConcurrentHandlers : Int) : (new user lobbyOf distributed heartbeatTimeout maxConcurrentHandlers).Lined := by
  refine ⟨housed_new, ⟨?_, ?_⟩, rfl, ?_, ?_, ?_, ?_, ?_⟩
  · exact fun _ _ found => nomatch found
  · exact fun _ _ found => nomatch found
  · exact fun _ member => nomatch member
  · exact fun _ member => nomatch member
  · exact fun _ member => nomatch member
  · intro name
    refine ⟨fun stands => (nomatch stands), ?_⟩
    intro inside
    obtain ⟨_, _, there, _⟩ := inside
    cases there
  · exact fun _ _ member => nomatch member

theorem lined_receive {run : MessageRun} {request : Request} (lined : run.Lined) :
    Lined { run with requests := run.requests ++ [request] } := by
  have still : ∀ (index : Nat) (known : Request), run.requests[index]? = some known →
      (run.requests ++ [request])[index]? = some known := by
    intro index known there
    obtain ⟨inside, _⟩ := List.getElem?_eq_some_iff.mp there
    exact (getElem?_append_left inside).trans there
  refine ⟨lined.housed, lined.listed, lined.line, ?_, ?_, lined.stage, lined.stands, lined.heard⟩
  · exact fun entry member => still entry.index entry.request (lined.taken entry member)
  · exact fun handler member => still handler.index handler.request (lined.known handler member)

theorem lined_dispatch {run : MessageRun} (lined : run.Lined) : run.dispatch.Lined := by
  simp only [dispatch]
  split
  · cases there : run.requests[run.next]? with
    | none => exact lined
    | some =>
      refine ⟨lined.housed, lined.listed, ?_, lined.taken, ?_, ?_, lined.stands, lined.heard⟩
      · rw [map_append, ← append_assoc, lined.line, range_succ]
        rfl
      · intro handler member
        rcases mem_append.mp member with before | started
        · exact lined.known handler before
        · rw [mem_singleton.mp started]
          exact there
      · intro handler member
        rcases mem_append.mp member with before | started
        · exact lined.stage handler before
        · rw [mem_singleton.mp started]
          exact trivial
  · exact lined

theorem lined_others {run : MessageRun} {step : OtherStep} (lined : run.Lined) (turn : run.InTurn (.others step)) :
    Lined { run with rooms := run.actOthers step } := by
  have still := lined_passes lined.housed lined.listed (housed_same lined.housed).2 lined
  cases step with
  | create lobby name nodeId =>
    obtain ⟨housed, passes⟩ := housed_create lobby name nodeId run.distributed run.heartbeatTimeout lined.housed
    have listed := listed_create lobby name nodeId run.distributed run.heartbeatTimeout lined.housed lined.listed
    exact lined_passes housed listed passes lined
  | register room =>
    obtain ⟨housed, passes⟩ := housed_register room lined.housed
    have listed := listed_register room lined.housed lined.listed
    exact lined_passes housed listed passes lined
  | join room user =>
    simp only [actOthers]
    by_cases own : user.id = run.user.id
    · rw [if_pos own]
      exact still
    rw [if_neg own]
    have housed := housed_add room user lined.housed fun same => absurd same own
    have passes := passes_add room lined.housed own
    exact lined_passes housed (listed_perform lined.listed) passes lined
  | leave room userId reason =>
    simp only [actOthers]
    by_cases own : userId = run.user.id
    · rw [if_pos own]
      exact still
    rw [if_neg own]
    have housed := housed_remove room userId reason lined.housed
    have passes := passes_remove room reason lined.housed own
    exact lined_passes housed (listed_perform lined.listed) passes lined
  | teardown =>
    obtain ⟨housed, passes⟩ := housed_teardown turn lined.housed
    exact lined_passes housed (listed_teardown turn lined.housed lined.listed) passes lined

variable {place : Nat}

variable {handler : MessageHandler}

theorem lined_goes {run : MessageRun} (next : Rooms) (stage : HandlerStage) (lined : run.Lined)
    (there : run.handlers[place]? = some handler) (housed : next.Housed run.user.id) (listed : next.Listed)
    (passes : Rooms.Passes run.rooms next run.user.id)
    (fits : StageFits { run with rooms := next } { handler with stage := stage }) :
    Lined { run with rooms := next, handlers := run.handlers.set place { handler with stage := stage } } := by
  have stay := stay_passes next run.user.id passes
  obtain ⟨whole, _, replaced⟩ := split_place run.handlers place handler there
  refine ⟨housed, listed, ?_, lined.taken, ?_, ?_, ?_, lined.heard⟩
  · have line := lined.line
    rw [whole] at line
    rw [replaced, ← line, map_append, map_append, map_cons, map_cons]
  · intro other member
    rcases mem_or_eq_of_mem_set member with before | same
    · exact lined.known other before
    · rw [same]
      exact lined.known handler (mem_of_getElem? there)
  · intro other member
    rcases mem_or_eq_of_mem_set member with before | same
    · exact stage_stays next other stay (lined.stage other before)
    · rw [same]
      exact fits
  · exact fun name => (lined.stands name).trans (in_passes next run.user.id passes name).symm

theorem lined_ends {run : MessageRun} {rest : List MessageHandler} (next : Rooms) (outcome : Outcome)
    (lined : run.Lined) (handlers : run.handlers = handler :: rest) (housed : next.Housed run.user.id)
    (listed : next.Listed) (stay : Stay run.rooms next)
    (stands : ∀ name, standing (run.handled ++ [⟨handler.index, handler.request, outcome⟩]) name = true ↔
      In next run.user.id name) (heard : ∀ name, Handled.Refused ⟨handler.index, handler.request, outcome⟩ name →
      standing run.handled name = false) :
    Lined { run with
      rooms := next
      handlers := rest
      handled := run.handled ++ [⟨handler.index, handler.request, outcome⟩] } := by
  have line := lined.line
  rw [handlers] at line
  have moved : (run.handled ++ [Handled.mk handler.index handler.request outcome]).map Handled.index ++
      rest.map MessageHandler.index = List.range run.next := by
    rw [← line, map_append, append_assoc]
    rfl
  have sorted : ((run.handled ++ [Handled.mk handler.index handler.request outcome]).map Handled.index).Pairwise
      (· < ·) := by
    have whole := pairwise_lt_range (n := run.next)
    rw [← moved] at whole
    exact (pairwise_append.mp whole).1
  obtain ⟨before, last⟩ := sorted_concat sorted
  refine ⟨housed, listed, moved, ?_, ?_, ?_, stands, ?_⟩
  · intro entry member
    rcases mem_append.mp member with old | new
    · exact lined.taken entry old
    · rw [mem_singleton.mp new]
      exact lined.known handler (by rw [handlers]; exact mem_cons_self)
  · exact fun other member => lined.known other (by rw [handlers]; exact mem_cons_of_mem _ member)
  · intro other member
    exact stage_stays next other stay (lined.stage other (by rw [handlers]; exact mem_cons_of_mem _ member))
  · intro name join joined sent sends joins refused earlier
    rcases mem_append.mp sends with old | new
    · rcases mem_append.mp joined with its | mine
      · obtain ⟨leave, there, rest⟩ := lined.heard name join its sent old joins refused earlier
        exact ⟨leave, mem_append_left _ there, rest⟩
      · rw [mem_singleton.mp mine] at earlier
        exact absurd earlier (Nat.lt_asymm (last sent old))
    rw [mem_singleton.mp new] at refused earlier ⊢
    rcases mem_append.mp joined with its | mine
    · obtain ⟨leave, there, leaves, after⟩ := left_since before its joins (heard name refused)
      exact ⟨leave, mem_append_left _ there, leaves, after, last leave there⟩
    · rw [mem_singleton.mp mine] at earlier
      exact absurd earlier (Nat.lt_irrefl _)

variable {choice : Choice}

theorem lined_run {run : MessageRun} (lined : run.Lined) (turn : run.InTurn (.run place choice)) :
    (run.runHandler place choice).Lined := by
  simp only [runHandler]
  cases there : run.handlers[place]? with
  | none => exact lined
  | some handler =>
    obtain ⟨first, current⟩ := turn handler there
    have fits := lined.stage handler (mem_of_getElem? there)
    have turns := handler_turns choice lined fits current
    have goes : run.Reads handler → ∃ stage, (run.handleMessage handler.request choice handler.stage).2 = .goes stage :=
      reads_goes choice
    dsimp only
    generalize run.handleMessage handler.request choice handler.stage = result at turns goes
    obtain ⟨next, _⟩ := result
    cases turns with
    | goes stage housed listed passes fits =>
      exact lined_goes next stage lined there housed listed passes fits
    | ends outcome housed listed stay stands heard =>
      -- Only the first handler ends.
      have head : place = 0 := by
        apply first.resolve_right
        intro reads
        obtain ⟨_, same⟩ := goes reads
        cases same
      rw [head] at there ⊢
      obtain ⟨handlers, erased, _⟩ := split_place run.handlers 0 handler there
      rw [erased]
      exact lined_ends next outcome lined handlers housed listed stay stands heard

theorem step_lined (run : MessageRun) (label : MessageStep) (lined : run.Lined) (turn : run.InTurn label) :
    (run.step label).Lined := by
  cases label with
  | receive => exact lined_receive lined
  | dispatch => exact lined_dispatch lined
  | run => exact lined_run lined turn
  | others => exact lined_others lined turn

theorem messages_in_order (user : Transport) (lobbyOf : String → Option Nat) (distributed : Bool)
    (heartbeatTimeout : Nat) (maxConcurrentHandlers : Int) (labels : List MessageStep)
    (turn : Follows step InTurn (new user lobbyOf distributed heartbeatTimeout maxConcurrentHandlers) labels) :
    Always step Ordered (new user lobbyOf distributed heartbeatTimeout maxConcurrentHandlers) labels := by
  have start := lined_new user lobbyOf distributed heartbeatTimeout maxConcurrentHandlers
  have kept : ∀ (run : MessageRun) (label : MessageStep), run.Lined → run.InTurn label → (run.step label).Lined :=
    step_lined
  exact always_mono step Lined Ordered lined_ordered _ labels (always_of_follows step InTurn Lined kept _ start turn)

theorem turn_checked {run : MessageRun}
    (checked : (run.handlers[place]?).all (fun handler => decide (place = 0) && match handler.stage with
      | .joining room => (run.rooms.rooms[room]?).all fun entry => decide (entry.registration ≠ .pending)
      | .leaving room | .sending room => decide (run.rooms.endpoint.get? handler.request.channelName = some room)
      | _ => true) = true) : run.InTurn (.run place choice) := by
  intro handler there
  rw [there, Option.all_some] at checked
  obtain ⟨first, current⟩ := Bool.and_eq_true_iff.mp checked
  refine ⟨.inl (of_decide_eq_true first), ?_⟩
  simp only [Current]
  cases stage : handler.stage with
  | start | registering room => trivial
  | joining =>
    intro entry found
    simp only [stage, found, Option.all_some] at current
    exact of_decide_eq_true current
  | leaving room | sending room =>
    simp only [stage] at current
    exact .inl (of_decide_eq_true current)

def quiet : MessageRun := new ⟨"alice", 0, none⟩ (fun _ => some 0) false 30 0

def agreed : Choice := ⟨.accept, "node", false⟩

def joined (place : Nat) : List MessageStep := [.run place agreed, .run place agreed, .run place agreed]

def visit : List MessageStep :=
  [.receive ⟨.joinChannel, "/room"⟩, .receive ⟨.broadcast, "/room"⟩, .receive ⟨.leaveChannel, "/room"⟩,
    .dispatch, .dispatch, .dispatch] ++ joined 0 ++ [.run 0 agreed, .run 0 agreed, .run 0 agreed, .run 0 agreed]

theorem visit_in_order : Always step Ordered quiet visit :=
  messages_in_order ⟨"alice", 0, none⟩ (fun _ => some 0) false 30 0 visit
    ⟨trivial, trivial, trivial, trivial, trivial, trivial, turn_checked (by decide +kernel),
      turn_checked (by decide +kernel), turn_checked (by decide +kernel), turn_checked (by decide +kernel),
      turn_checked (by decide +kernel), turn_checked (by decide +kernel), turn_checked (by decide +kernel),
      trivial⟩

def hasty (action : RequestAction) : List MessageStep :=
  [.receive ⟨.joinChannel, "/room"⟩, .receive ⟨action, "/room"⟩, .dispatch, .dispatch, .run 1 agreed] ++ joined 0

theorem messages_overtake :
    (run step quiet (hasty .broadcast)).handled =
        [⟨1, ⟨.broadcast, "/room"⟩, .notFound⟩, ⟨0, ⟨.joinChannel, "/room"⟩, .accepted⟩] ∧
      ((run step quiet (hasty .leaveChannel)).rooms.rooms[0]?).any
        (fun room => decide (room.name = "/room") && room.channel.memberships.has "alice") = true ∧
      ¬ Always step Ordered quiet (hasty .broadcast) ∧ ¬ Always step Ordered quiet (hasty .leaveChannel) := by
  have first : (run step quiet (hasty .broadcast)).handled =
      [⟨1, ⟨.broadcast, "/room"⟩, .notFound⟩, ⟨0, ⟨.joinChannel, "/room"⟩, .accepted⟩] := by
    decide +kernel
  refine ⟨first, by decide +kernel, ?_, ?_⟩
  · intro always
    have sorted := (always_run step quiet always).order
    revert sorted
    decide
  intro always
  have sorted := (always_run step quiet always).order
  revert sorted
  decide

end MessageRun

end PondSocket.Go
